import Signal2sip.Laws.AccountRemoval
import Signal2sip.Laws.TrustStore
import Signal2sip.Lib.Registers

/-!
# The file is the history of its writes

What a `Storage` object is asked about one key (`StoredKey`) is answered by the history of the calls
alone: with the value of the last write of that account to that key that went through, or with nothing
after the account's removal. What other accounts do, what is written to other keys and tables, and
every call that throws leave the answer as it is.

- `reading_step`: one call, and what its account then reads under a key;
- `storage_remembers`: a whole run.
-/

namespace Signal2sip

open Sqlite (Faults Outcome)

/-- A question about one key of an account. -/
inductive StoredKey
  | hasAccount
  | identityKeypair (identity : String)
  | signedPrekey (identity : String)
  | kyberPrekey (identity : String)
  | session (address : String)
  | remoteIdentity (address : String)
  | resolvedContact (e164 : String)
deriving DecidableEq

namespace StoredKey

/-- The call that asks it. -/
def load (f : Faults) : StoredKey → StorageCall
  | .hasAccount => .hasAccount f
  | .identityKeypair identity => .loadIdentityKeypair identity f
  | .signedPrekey identity => .loadSignedPrekey identity f
  | .kyberPrekey identity => .loadKyberPrekey identity f
  | .session address => .loadSession address f
  | .remoteIdentity address => .loadRemoteIdentity address f
  | .resolvedContact e164 => .loadResolvedContact e164 f

/-- The answer when nothing is there. -/
def absent : StoredKey → StorageAnswer
  | .hasAccount => .has false
  | .identityKeypair _ => .keypair none
  | .signedPrekey _ => .signedPrekey none
  | .kyberPrekey _ => .kyberPrekey none
  | .session _ => .bytes none
  | .remoteIdentity _ => .bytes none
  | .resolvedContact _ => .resolvedContact none

/-- The answer that the rows of the account give. -/
def reading (accountName : String) (db : Db) : StoredKey → StorageAnswer
  | .hasAccount => .has (decide (accountName ∈ db.account))
  | .identityKeypair identity => .keypair (db.identityKeypair.lookup (accountName, identity))
  | .signedPrekey identity => .signedPrekey (db.signedPrekey.lookup (accountName, identity))
  | .kyberPrekey identity => .kyberPrekey (db.kyberPrekey.lookup (accountName, identity))
  | .session address => .bytes (db.session.lookup (accountName, address))
  | .remoteIdentity address => .bytes (db.remoteIdentity.lookup (accountName, address))
  | .resolvedContact e164 => .resolvedContact (db.resolvedContact.lookup (accountName, e164))

/-- The answer that a call of the account makes the right one. -/
def written (q : StoredKey) : StorageCall → Option StorageAnswer
  | .saveAccount _ _ => if q = .hasAccount then some (.has true) else none
  | .saveIdentityKeypair identity keypair _ =>
    if q = .identityKeypair identity then some (.keypair (some keypair)) else none
  | .saveSignedPrekey identity prekey _ =>
    if q = .signedPrekey identity then some (.signedPrekey (some prekey)) else none
  | .saveKyberPrekey identity prekey _ =>
    if q = .kyberPrekey identity then some (.kyberPrekey (some prekey)) else none
  | .saveSession address record _ =>
    if q = .session address then some (.bytes (some record)) else none
  | .saveRemoteIdentity address publicKey _ =>
    if q = .remoteIdentity address then some (.bytes (some publicKey)) else none
  | .saveResolvedContact e164 aci pni now _ =>
    if q = .resolvedContact e164 then some (.resolvedContact (some ⟨aci, pni, now⟩)) else none
  | .deleteAccount _ _ _ => some q.absent
  | _ => none

end StoredKey

/-! ## The calls of a run as writes -/

namespace StorageCall

/-- A call, with the file it leaves and the exception it ended in. -/
def outcome (db : Db) (e : String × StorageCall) : Db × Option RuntimeError :=
  ((step db e).1, match (step db e).2.value with
    | .ok _ => none
    | .error x => some x)

/-- What a call writes, for the account whose object it is made on. -/
def writes (key : String × StoredKey) (e : String × StorageCall) : Option StorageAnswer :=
  if e.1 = key.1 then key.2.written e.2 else none

/-- The last answer written in a run, by the calls that went through. -/
def lastWritten (db : Db) (calls : List (String × StorageCall)) (accountName : String)
    (q : StoredKey) : Option StorageAnswer :=
  Registers.lastSet writes (accountName, q) (Registers.accepted outcome db calls)

variable {db db' : Db} {accountName other : String} {q : StoredKey} {c : StorageCall}

theorem outcome_accepted (h : (outcome db (other, c)).2 = none) :
    ∃ answer, (c.run db other).value = .ok ((outcome db (other, c)).1, answer) := by
  unfold outcome step at h ⊢
  cases hrun : (c.run db other).value with
  | error x =>
    simp only [Outcome.map_value, hrun] at h
    cases h
  | ok p =>
    refine ⟨p.2, ?_⟩
    simp only [Outcome.after, Outcome.map_value, hrun]
    rfl

theorem outcome_refused (h : (outcome db (other, c)).2 ≠ none) : (outcome db (other, c)).1 = db := by
  unfold outcome step at h ⊢
  cases hrun : (c.run db other).value with
  | error x =>
    simp only [Outcome.after, Outcome.map_value, hrun]
    rfl
  | ok p =>
    simp only [Outcome.map_value, hrun] at h
    exact absurd rfl h

/-- A row of one account is inserted, and what an account reads under a key. -/
theorem answer_insert {α : Type} (answer : Option α → StorageAnswer) (t : Table (String × String) α)
    (k k' : String) (v : α) :
    answer ((t.insert (other, k) v).lookup (accountName, k')) =
      (if other = accountName then (if k' = k then some (answer (some v)) else none) else none).getD
        (answer (t.lookup (accountName, k'))) := by
  by_cases hkey : (accountName, k') = (other, k)
  · cases hkey
    rw [AList.lookup_insert, if_pos rfl, if_pos rfl]
    rfl
  · rw [AList.lookup_insert_ne hkey]
    by_cases hname : other = accountName
    · have hk : k' ≠ k := fun heq => hkey (by rw [hname, heq])
      rw [if_pos hname, if_neg hk]
      rfl
    · rw [if_neg hname]
      rfl

/-- The rows of one account are removed, and what an account reads under a key. -/
theorem answer_removed {α : Type} (answer : Option α → StorageAnswer) (t : Table (String × String) α)
    (k' : String) :
    answer ((t.filterKeys (·.1 ≠ other)).lookup (accountName, k')) =
      (if other = accountName then some (answer none) else none).getD
        (answer (t.lookup (accountName, k'))) := by
  rw [AList.lookup_filterKeys]
  by_cases hname : other = accountName
  · simp [hname]
  · have hname' : accountName ≠ other := fun heq => hname heq.symm
    simp [hname, hname']

/-- A call that goes through, and what an account reads under a key after it. -/
theorem reading_step {answer : StorageAnswer} (h : (c.run db other).value = .ok (db', answer)) :
    q.reading accountName db' =
      (writes (accountName, q) (other, c)).getD (q.reading accountName db) := by
  cases c with
  | saveAccount account f =>
    obtain ⟨-, -, heffect⟩ := Sqlite.execute_ok_iff.mp (wrote_ok h)
    cases heffect
    cases q with
    | hasAccount =>
      by_cases hname : other = accountName
      · simp [writes, StoredKey.written, StoredKey.reading, Storage.withSavedAccount, hname]
      · have hname' : accountName ≠ other := fun heq => hname heq.symm
        simp [writes, StoredKey.reading, Storage.withSavedAccount, hname, hname']
    | _ => simp [writes, StoredKey.written, StoredKey.reading, Storage.withSavedAccount]
  | saveAccountConfig account f =>
    obtain ⟨-, rfl⟩ := Storage.saveAccountConfig_ok (wrote_ok h)
    cases q with
    | hasAccount =>
      simp [writes, StoredKey.written, StoredKey.reading, Storage.updateAccountConfig,
        AList.mem_modify]
    | _ => simp [writes, StoredKey.written, StoredKey.reading, Storage.updateAccountConfig]
  | saveIdentityKeypair identity keypair f =>
    obtain ⟨t, ht, rfl⟩ := execute_map_ok (wrote_ok h)
    obtain rfl := upsertIdentity_ok ht
    cases q with
    | identityKeypair k =>
      simpa [writes, StoredKey.written, StoredKey.reading] using
        answer_insert .keypair db.identityKeypair identity k keypair
    | _ => simp [writes, StoredKey.written, StoredKey.reading]
  | saveSignedPrekey identity prekey f =>
    obtain ⟨t, ht, rfl⟩ := execute_map_ok (wrote_ok h)
    obtain rfl := upsertIdentity_ok ht
    cases q with
    | signedPrekey k =>
      simpa [writes, StoredKey.written, StoredKey.reading] using
        answer_insert .signedPrekey db.signedPrekey identity k prekey
    | _ => simp [writes, StoredKey.written, StoredKey.reading]
  | saveKyberPrekey identity prekey f =>
    obtain ⟨t, ht, rfl⟩ := execute_map_ok (wrote_ok h)
    obtain rfl := upsertIdentity_ok ht
    cases q with
    | kyberPrekey k =>
      simpa [writes, StoredKey.written, StoredKey.reading] using
        answer_insert .kyberPrekey db.kyberPrekey identity k prekey
    | _ => simp [writes, StoredKey.written, StoredKey.reading]
  | saveSession address record f =>
    obtain ⟨t, ht, rfl⟩ := execute_map_ok (wrote_ok h)
    obtain rfl := upsert_ok ht
    cases q with
    | session k =>
      simpa [writes, StoredKey.written, StoredKey.reading] using
        answer_insert .bytes db.session address k record
    | _ => simp [writes, StoredKey.written, StoredKey.reading]
  | saveRemoteIdentity address publicKey f =>
    obtain ⟨t, ht, rfl⟩ := execute_map_ok (wrote_ok h)
    obtain rfl := upsert_ok ht
    cases q with
    | remoteIdentity k =>
      simpa [writes, StoredKey.written, StoredKey.reading] using
        answer_insert .bytes db.remoteIdentity address k publicKey
    | _ => simp [writes, StoredKey.written, StoredKey.reading]
  | saveResolvedContact e164 aci pni now f =>
    obtain ⟨t, ht, rfl⟩ := execute_map_ok (wrote_ok h)
    obtain rfl := upsert_ok ht
    cases q with
    | resolvedContact k =>
      simpa [writes, StoredKey.written, StoredKey.reading] using
        answer_insert .resolvedContact db.resolvedContact e164 k ⟨aci, pni, now⟩
    | _ => simp [writes, StoredKey.written, StoredKey.reading]
  | deleteAccount beginFault f commitFault =>
    obtain rfl := deleteAccount_removes (wrote_ok h)
    cases q with
    | hasAccount =>
      by_cases hname : other = accountName
      · simp [writes, StoredKey.written, StoredKey.reading, StoredKey.absent, withoutAccount, hname]
      · have hname' : accountName ≠ other := fun heq => hname heq.symm
        simp [writes, StoredKey.reading, withoutAccount, hname, hname']
    | identityKeypair k => exact answer_removed .keypair db.identityKeypair k
    | signedPrekey k => exact answer_removed .signedPrekey db.signedPrekey k
    | kyberPrekey k => exact answer_removed .kyberPrekey db.kyberPrekey k
    | session k => exact answer_removed .bytes db.session k
    | remoteIdentity k => exact answer_removed .bytes db.remoteIdentity k
    | resolvedContact k => exact answer_removed .resolvedContact db.resolvedContact k
  | saveSyncedContact e164 aci pni profileKey givenName familyName now fE164 fAci fWrite =>
    -- the contacts are in a table that no key asks for
    have hsame : q.reading accountName db' = q.reading accountName db := by
      cases saveSyncedContact_ok (wrote_ok h) with
      | updated row hrow haccepted hdb =>
        subst hdb
        cases q <;> rfl
      | added haccepted hdb =>
        subst hdb
        cases q <;> rfl
    rw [hsame]
    simp [writes, StoredKey.written]
  | _ =>
    rw [read_ok h]
    simp [writes, StoredKey.written]

/-- The calls set what is read under the keys. -/
theorem outcome_lawful : Registers.Lawful outcome (fun _ => True)
    (fun key db => key.2.reading key.1 db) writes where
  keep _ _ _ := trivial
  accepts _ _ _ _ haccepted := by
    obtain ⟨answer, hrun⟩ := outcome_accepted haccepted
    exact reading_step hrun
  refuses _ _ _ _ hrefused := by
    rw [Registers.next, outcome_refused hrefused]

end StorageCall

/-! ## What is read back -/

/-- What a statement of at most one row comes to. -/
theorem firstRow_value {ρ : Type} (f : Faults) (rows : List ρ) :
    (Sqlite.firstRow prepareFailed f rows).value =
      match f.prepare with
      | some e => .error (prepareFailed e)
      | none => .ok (if f.step 0 = none then rows.head? else none) := by
  unfold Sqlite.firstRow
  cases f.prepare with
  | some e => rfl
  | none =>
    cases f.step 0 with
    | some e => rfl
    | none => cases rows <;> rfl

/-- The answer of a load that goes through. -/
def StoredKey.answer (q : StoredKey) (f : Faults) (reading : StorageAnswer) :
    Except RuntimeError StorageAnswer :=
  match f.prepare with
  | some e => .error (prepareFailed e)
  | none => .ok (if f.step 0 = none then reading else q.absent)

/-- A keyed lookup, as a load of it answers. -/
theorem read_lookup (db : Db) {α : Type} (answer : Option α → StorageAnswer)
    (t : Table (String × String) α) (key : String × String) (f : Faults) :
    ((StorageCall.read db answer (Storage.lookupRow t key f)).map Prod.snd).value =
      match f.prepare with
      | some e => .error (prepareFailed e)
      | none => .ok (if f.step 0 = none then answer (t.lookup key) else answer none) := by
  rw [Outcome.map_value, StorageCall.read, Outcome.map_value, Storage.lookupRow, firstRow_value]
  cases f.prepare with
  | some e => rfl
  | none =>
    by_cases hstep : f.step 0 = none
    · simp only [if_pos hstep, Option.head?_toList]
      rfl
    · simp only [if_neg hstep]
      rfl

/-- A load answers what the rows say. It throws when its prepare fails, and takes a failed step for
"nothing there". -/
theorem StoredKey.load_value (db : Db) (accountName : String) (q : StoredKey) (f : Faults) :
    (StorageCall.step db (accountName, q.load f)).2.value =
      q.answer f (q.reading accountName db) := by
  cases q with
  | hasAccount =>
    show ((StorageCall.read db .has (Storage.hasAccount db accountName f)).map Prod.snd).value = _
    rw [Outcome.map_value, StorageCall.read, Outcome.map_value, Storage.hasAccount, Outcome.map_value,
      firstRow_value, StoredKey.answer]
    cases f.prepare with
    | some e => rfl
    | none =>
      by_cases hstep : f.step 0 = none
      · by_cases hrow : accountName ∈ db.account
        · simp [hstep, hrow, StoredKey.reading, Except.map]
        · simp [hstep, hrow, StoredKey.reading, Except.map]
      · simp [hstep, StoredKey.absent, Except.map]
  | identityKeypair identity =>
    exact read_lookup db .keypair db.identityKeypair (accountName, identity) f
  | signedPrekey identity =>
    exact read_lookup db .signedPrekey db.signedPrekey (accountName, identity) f
  | kyberPrekey identity =>
    exact read_lookup db .kyberPrekey db.kyberPrekey (accountName, identity) f
  | session address => exact read_lookup db .bytes db.session (accountName, address) f
  | remoteIdentity address => exact read_lookup db .bytes db.remoteIdentity (accountName, address) f
  | resolvedContact e164 =>
    exact read_lookup db .resolvedContact db.resolvedContact (accountName, e164) f

open StorageCall in
/-- In any run of calls of any accounts' objects, with any failures, a load answers with the value that
the last call that went through has written for that account and key, or with what was there before
the run. Only a failed statement of its own makes a load throw or say that nothing is there. -/
theorem storage_remembers (db : Db) (calls : List (String × StorageCall)) (accountName : String)
    (q : StoredKey) (f : Faults) :
    (step (Runs.final (Registers.next outcome) db calls) (accountName, q.load f)).2.value =
      q.answer f ((lastWritten db calls accountName q).getD (q.reading accountName db)) := by
  rw [StoredKey.load_value]
  exact congrArg (q.answer f) (outcome_lawful.read_final trivial calls (accountName, q))

end Signal2sip
