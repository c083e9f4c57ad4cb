import Signal2sip.Lib.Run
import Signal2sip.Daemon.Push

/-!
# Who may change an account's entropy pool

A `SyncMessage.Keys` is something a primary device tells its own linked devices, so only the account
itself may send one. The theorems say what a push can do to the account in memory and to its row:

- `onPush_unchanged`: nothing, unless its content carries a new entropy pool;
- `ownKeysOnly_iff`: for one push in any state, the change is the account's own exactly when the
  content is not a foreign `Keys`, or a foreign one that changes nothing;
- `keys_ownAccount_iff`: the same along every run of pushes, interleaved with whatever else the
  daemon and other processes do.

Who sent a message is libsignal's to establish (`authenticatedSender`); it is not questioned here.
-/

namespace Signal2sip

open Sqlite (Faults)
open Runs (Along)

/-! ## Senders and keys -/

section Push

variable (env : PushEnv) (db : Db) (acct : AccountState) (verb path : String) (body : Bytes)

/-- The sender of a push that decrypts: the certificate's uuid or the envelope's source. -/
def authenticatedSender : Option String :=
  match (receive env db acct verb path body).2 with
  | .decrypted senderServiceId _ _ => some senderServiceId
  | _ => none

/-- The entropy pool that a push's content carries. -/
def pushedEntropyPool : Option String :=
  match (receive env db acct verb path body).2 with
  | .decrypted _ _ plaintext =>
    match env.parseContent plaintext with
    | some (.syncMessage message) => message.keys.join
    | _ => none
  | _ => none

end Push

section Step

variable {env : PushEnv} {db : Db} {acct : AccountState} {verb path : String} {body : Bytes}
  {f : Faults}

/-- Decryption leaves the account table alone. -/
theorem receive_account (env : PushEnv) (db : Db) (acct : AccountState) (verb path : String)
    (body : Bytes) : (receive env db acct verb path body).1.account = db.account := by
  unfold receive
  split
  · rfl
  · split
    · rfl
    · next envelope _ =>
      split
      · have h := decryptSealedSender_account env.lib db acct.config.name acct.localAddress
          envelope.content envelope.serverTimestamp
        cases hd : decryptSealedSender env.lib db acct.config.name acct.localAddress
          envelope.content envelope.serverTimestamp with
        | mk db' result =>
          rw [hd] at h
          cases result <;> exact h
      · split
        · unfold receiveIdentified
          split
          · rfl
          · next senderServiceId _ =>
            generalize (if envelope.type = envelopeTypePrekeyMessage then ciphertextMessageTypePreKey
              else ciphertextMessageTypeWhisper) = messageType
            have h := decryptCiphertext_account env.lib db acct.config.name acct.localAddress
              ⟨senderServiceId, envelope.sourceDeviceId⟩ messageType envelope.content
            cases hd : decryptCiphertext env.lib db acct.config.name acct.localAddress
              ⟨senderServiceId, envelope.sourceDeviceId⟩ messageType envelope.content with
            | mk db' result =>
              rw [hd] at h
              simp only [hd]
              cases result <;> exact h
        · rfl

/-- The account in memory and its row are as they were. -/
def Unchanged (db : Db) (acct : AccountState) (r : PushResult) : Prop :=
  r.acct.account = acct.account ∧ r.db.row acct.config.name = db.row acct.config.name

/-- Decryption may have written, and the handlers have only sent and queued something. -/
structure Handled (db : Db) (acct : AccountState) (r : PushResult) : Prop where
  db : r.db = db
  account : r.acct.account = acct.account
  config : r.acct.config = acct.config
  thrown : r.thrown = none

/-- A push with a new entropy pool in its content is the `Keys` handler. -/
theorem onPush_handles (env : PushEnv) (db : Db) (acct : AccountState) (verb path : String)
    (body : Bytes) (f : Faults) :
    (∃ aep, pushedEntropyPool env db acct verb path body = some aep ∧
      onPush env db acct verb path body f =
        handleKeys (receive env db acct verb path body).1 acct aep f) ∨
    (pushedEntropyPool env db acct verb path body = none ∧
      Handled (receive env db acct verb path body).1 acct (onPush env db acct verb path body f)) := by
  unfold pushedEntropyPool onPush
  cases receive env db acct verb path body with
  | mk db' received =>
    cases received with
    | ignored => exact .inr ⟨rfl, rfl, rfl, rfl, rfl⟩
    | failed reply => cases reply <;> exact .inr ⟨rfl, rfl, rfl, rfl, rfl⟩
    | decrypted sender device plaintext =>
      simp only
      cases env.parseContent plaintext with
      | none => exact .inr ⟨rfl, rfl, rfl, rfl, rfl⟩
      | some content =>
        cases content with
        | dataMessage message => exact .inr ⟨rfl, rfl, rfl, rfl, rfl⟩
        | callMessage message => exact .inr ⟨rfl, rfl, rfl, rfl, rfl⟩
        | other => exact .inr ⟨rfl, rfl, rfl, rfl, rfl⟩
        | syncMessage message =>
          obtain ⟨keys⟩ := message
          rcases keys with _ | _ | aep
          · exact .inr ⟨rfl, rfl, rfl, rfl, rfl⟩
          · exact .inr ⟨rfl, rfl, rfl, rfl, rfl⟩
          · exact .inl ⟨aep, rfl, rfl⟩

/-- What a push does: with a new entropy pool in its content it is the `Keys` handler, after
decryption has done its writes; without one it changes neither the account nor its row. -/
theorem onPush_cases (env : PushEnv) (db : Db) (acct : AccountState) (verb path : String)
    (body : Bytes) (f : Faults) :
    (∃ aep, pushedEntropyPool env db acct verb path body = some aep ∧
      onPush env db acct verb path body f =
        handleKeys (receive env db acct verb path body).1 acct aep f) ∨
    (pushedEntropyPool env db acct verb path body = none ∧
      Unchanged db acct (onPush env db acct verb path body f)) := by
  refine (onPush_handles env db acct verb path body f).imp_right fun ⟨hnone, hhandled⟩ => ?_
  refine ⟨hnone, hhandled.account, ?_⟩
  rw [hhandled.db, Db.row, receive_account, Db.row]

/-- The account in memory already has the pool, and saving it either fails or rewrites its row with
what is there. -/
def ChangesNothing (db : Db) (acct : AccountState) (aep : String) (f : Faults) : Prop :=
  acct.account.accountEntropyPool = some aep ∧
    (f.prepare ≠ none ∨ f.step 0 ≠ none ∨
      ∃ row, db.row acct.config.name = some row ∧
        row.toIdentityColumns = acct.account.toIdentityColumns)

/-- An upsert of the identity columns leaves a row as it is exactly when it has them already. -/
theorem withIdentity_eq_iff {row : Option AccountRecord} {identity : IdentityColumns} :
    some (Storage.withIdentity row identity) = row ↔
      ∃ r, row = some r ∧ r.toIdentityColumns = identity := by
  cases row with
  | none => simp
  | some r =>
    constructor
    · intro h
      refine ⟨r, rfl, ?_⟩
      have := congrArg AccountRecord.toIdentityColumns (Option.some.inj h)
      exact this.symm
    · rintro ⟨r', h, rfl⟩
      cases h
      rfl

/-- The `Keys` handler changes nothing exactly in that case. -/
theorem handleKeys_unchanged_iff {db' : Db} {aep : String} (hacc : db'.account = db.account) :
    Unchanged db acct (handleKeys db' acct aep f) ↔ ChangesNothing db acct aep f := by
  have hrow : db'.row acct.config.name = db.row acct.config.name := by
    rw [Db.row, Db.row, hacc]
  have hmem : (handleKeys db' acct aep f).acct.account = acct.account.withEntropyPool aep := by
    simp only [handleKeys]
    split <;> rfl
  rw [Unchanged, hmem, AccountRecord.withEntropyPool_eq_self_iff, ChangesNothing]
  apply and_congr_right
  intro hpool
  have hsame := AccountRecord.withEntropyPool_eq_self_iff.mpr hpool
  simp only [handleKeys, hsame]
  rcases Storage.saveAccount_cases db' acct.config.name acct.account f with
    ⟨hp, hs, hv⟩ | ⟨hfail, e, hv⟩
  · simp only [hv, hp, hs, ne_eq, not_true_eq_false, false_or, ← withIdentity_eq_iff]
    rw [Db.row, Storage.withSavedAccount, AList.lookup_insert, hrow]
  · simp only [hv, hrow, true_iff]
    exact or_assoc.mp (Or.inl hfail)

/-- The account or its row changes only for a message of the account itself. -/
def OwnKeysOnly (env : PushEnv) (db : Db) (acct : AccountState) (verb path : String) (body : Bytes)
    (f : Faults) : Prop :=
  ¬ Unchanged db acct (onPush env db acct verb path body f) →
    authenticatedSender env db acct verb path body = some acct.localServiceId

/-- A new entropy pool from someone else is one that changes nothing. -/
def ForeignKeysIdle (env : PushEnv) (db : Db) (acct : AccountState) (verb path : String)
    (body : Bytes) (f : Faults) : Prop :=
  ∀ aep, pushedEntropyPool env db acct verb path body = some aep →
    authenticatedSender env db acct verb path body ≠ some acct.localServiceId →
    ChangesNothing db acct aep f

/-- One push, in any state. -/
theorem ownKeysOnly_iff :
    OwnKeysOnly env db acct verb path body f ↔ ForeignKeysIdle env db acct verb path body f := by
  unfold OwnKeysOnly ForeignKeysIdle
  rcases onPush_cases env db acct verb path body f with ⟨aep, hpool, hpush⟩ | ⟨hnone, hsame⟩
  · rw [hpush, hpool, handleKeys_unchanged_iff (receive_account env db acct verb path body)]
    constructor
    · intro h aep' heq hforeign
      cases heq
      by_contra hchange
      exact hforeign (h hchange)
    · intro h hchange
      by_contra hforeign
      exact hchange (h aep rfl hforeign)
  · rw [hnone]
    exact ⟨fun _ aep h => (by cases h), fun _ h => absurd hsame h⟩

end Step

/-! ## Runs -/

/-- What happens to a running account: a push with the failures of its save, or anything else. No
other handler assigns the account's record, its service id or its configuration; the rest of it, and
the database, may be left in any state. -/
inductive AccountEvent
  | push (verb path : String) (body : Bytes) (f : Faults)
  | elsewhere (db : Db) (acct : AccountState)

/-- A running account and the database file. -/
structure AccountRun where
  db : Db
  acct : AccountState

def AccountRun.step (env : PushEnv) (s : AccountRun) : AccountEvent → AccountRun
  | .push verb path body f =>
    let r := onPush env s.db s.acct verb path body f
    ⟨r.db, r.acct⟩
  | .elsewhere db acct =>
    ⟨db, { acct with
      account := s.acct.account, localServiceId := s.acct.localServiceId, config := s.acct.config }⟩

def AccountRun.OwnKeysOnly (env : PushEnv) (s : AccountRun) : AccountEvent → Prop
  | .push verb path body f => Signal2sip.OwnKeysOnly env s.db s.acct verb path body f
  | .elsewhere _ _ => True

def AccountRun.ForeignKeysIdle (env : PushEnv) (s : AccountRun) : AccountEvent → Prop
  | .push verb path body f => Signal2sip.ForeignKeysIdle env s.db s.acct verb path body f
  | .elsewhere _ _ => True

/-- Along every run from every state, whatever libsignal and the parsers do: each push changes the
account or its row for a message of the account itself only, exactly when no push carries a foreign
entropy pool that changes something. -/
theorem keys_ownAccount_iff (env : PushEnv) (s : AccountRun) (events : List AccountEvent) :
    Along (AccountRun.step env) (AccountRun.OwnKeysOnly env) s events ↔
      Along (AccountRun.step env) (AccountRun.ForeignKeysIdle env) s events := by
  refine Runs.along_congr (I := fun _ => True) (fun _ _ _ _ => trivial) (fun s e _ => ?_) trivial
  cases e with
  | push verb path body f => exact ownKeysOnly_iff
  | elsewhere db acct => exact Iff.rfl

/-! ## A stranger's keys -/

/-- A stand-in for libsignal in which every whisper message decrypts to itself and a binary service
id is its text. -/
def plainEnv : PushEnv where
  lib :=
    { sealedSessionCipherDecryptToUsmc := fun _ _ => .error ⟨"not sealed"⟩
      senderCertificateValidate := fun _ _ => .ok false
      decryptPreKeyMessage := fun _ _ _ _ => ([], .error ⟨"no prekey message"⟩)
      decryptMessage := fun _ _ _ ciphertext => ([], .ok ciphertext)
      serviceIdFromBinary := fun _ => .ok "stranger" }
  parseEnvelope := fun body => some ⟨envelopeTypeDoubleRatchet, body, [1], 1, 0, 0⟩
  parseContent := fun _ => some (.syncMessage ⟨some (some "chosen by the stranger")⟩)

/-- A linked account at rest. -/
def linkedAccount : AccountRecord :=
  { e164 := "+380000000002", aci := "me", pni := "p", password := "w", deviceId := 2,
    accountEntropyPool := some "ours" }

def linkedRun : AccountRun where
  db := { account := AList.insert "line2" linkedAccount ∅ }
  acct := { serial := 0, config := { name := "line2", e164 := "+380000000002" },
            account := linkedAccount, localServiceId := "me" }

/-- A stranger with a session replaces the entropy pool in memory and in the row. -/
theorem stranger_replaces_entropy_pool :
    ¬ Along (AccountRun.step plainEnv) (AccountRun.OwnKeysOnly plainEnv) linkedRun
      [.push "PUT" "/api/v1/message" [7] .quiet] := by
  intro h
  have hown := h.1 fun hsame => absurd hsame.1 (by decide)
  exact absurd hown (by decide)

end Signal2sip
