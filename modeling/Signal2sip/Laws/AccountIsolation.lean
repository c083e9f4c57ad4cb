import Signal2sip.Lib.Noninterference
import Signal2sip.Storage.OwnRows

/-!
# Accounts are isolated in the shared file

The `Storage` objects of any number of accounts work on one file, in any interleaving and with any
failures of their statements. For each account, what its calls return and the rows it has at the end
are what they would be if it had made its calls alone, on any file with the same rows for it.

The two files are compared without the ids of `synced_contact`: those are handed out to all accounts
by one counter.
-/

namespace Signal2sip

open Parties (Unwinding resultsOf callsOf stateAfter)
open Sqlite (Agree Faults Outcome)

namespace StorageCall

variable {accountName other : String} {db db' : Db}

theorem wrote_agree {o o' : Result Db} (h : Agree (SameRows accountName) o o') :
    Agree (fun p q => SameRows accountName p.1 q.1 ∧ p.2 = q.2) (wrote o) (wrote o') :=
  Agree.map (fun _ _ hrows => ⟨hrows, rfl⟩) h

theorem read_agree {α : Type} {o o' : Result α} {answer : α → StorageAnswer}
    (hrows : SameRows accountName db db') (h : Agree (· = ·) o o') :
    Agree (fun p q => SameRows accountName p.1 q.1 ∧ p.2 = q.2) (read db answer o)
      (read db' answer o') :=
  Agree.map (fun _ _ heq => ⟨hrows, congrArg answer heq⟩) h

/-- A keyed read of two files with the same rows. -/
theorem lookup_agree {κ α : Type} [DecidableEq κ] {answer : Option α → StorageAnswer}
    (hrows : SameRows accountName db db') {t t' : Table (String × κ) α}
    (ht : rowsOf accountName t = rowsOf accountName t') (k : κ) (f : Faults) :
    Agree (fun p q => SameRows accountName p.1 q.1 ∧ p.2 = q.2)
      (read db answer (Storage.lookupRow t (accountName, k) f))
      (read db' answer (Storage.lookupRow t' (accountName, k) f)) := by
  refine read_agree hrows ?_
  rw [lookupRow_same ht]
  exact .refl (fun _ => rfl) _

/-- A call of the account returns the same on two files with the same rows, and leaves two. -/
theorem run_agree (h : SameRows accountName db db') (hids : db.ContactIds) (hids' : db'.ContactIds)
    (c : StorageCall) :
    Agree (fun p q => SameRows accountName p.1 q.1 ∧ p.2 = q.2) (c.run db accountName)
      (c.run db' accountName) := by
  cases c with
  | hasAccount f =>
    refine read_agree h ?_
    simp only [Storage.hasAccount, h.mem_account]
    exact .refl (fun _ => rfl) _
  | loadAccount f =>
    refine read_agree h ?_
    have hrow : db.account.lookup accountName = db'.account.lookup accountName := h.account
    rw [Storage.loadAccount, Storage.loadAccount, Storage.lookupRow, Storage.lookupRow, hrow]
    exact .refl (fun _ => rfl) _
  | saveAccount account f =>
    refine wrote_agree (Agree.execute (.ok { h with account := ?_ }) f)
    have hsaved (d : Db) : (Storage.withSavedAccount d accountName account).row accountName =
        some (Storage.withIdentity (d.row accountName) account.toIdentityColumns) :=
      AList.lookup_insert d.account
    rw [hsaved, hsaved, h.account]
  | saveAccountConfig account f =>
    refine wrote_agree (Agree.bind (R := fun p q => SameRows accountName p.1 q.1 ∧ p.2 = q.2) ?_
      (Agree.execute (.ok ⟨{ h with account := ?_ }, ?_⟩) f))
    · rintro ⟨db₁, changes⟩ ⟨db₂, _⟩ ⟨hrows, rfl⟩
      show Agree _ (if changes = 0 then _ else _) (if changes = 0 then _ else _)
      split
      · exact .throw _
      · exact .pure hrows
    · exact (AList.lookup_modify_self _ _ _).trans
        ((congrArg _ h.account).trans (AList.lookup_modify_self _ _ _).symm)
    · simp only [Storage.updateAccountConfig, h.mem_account]
  | saveIdentityKeypair identity keypair f =>
    exact wrote_agree (Agree.execute ((upsertIdentity_same h h.identityKeypair identity keypair).map
      fun _ _ ht => { h with identityKeypair := ht }) f)
  | loadIdentityKeypair identity f => exact lookup_agree h h.identityKeypair identity f
  | saveSignedPrekey identity prekey f =>
    exact wrote_agree (Agree.execute ((upsertIdentity_same h h.signedPrekey identity prekey).map
      fun _ _ ht => { h with signedPrekey := ht }) f)
  | loadSignedPrekey identity f => exact lookup_agree h h.signedPrekey identity f
  | saveKyberPrekey identity prekey f =>
    exact wrote_agree (Agree.execute ((upsertIdentity_same h h.kyberPrekey identity prekey).map
      fun _ _ ht => { h with kyberPrekey := ht }) f)
  | loadKyberPrekey identity f => exact lookup_agree h h.kyberPrekey identity f
  | saveSession address record f =>
    exact wrote_agree (Agree.execute ((upsert_same h h.session address record).map
      fun _ _ ht => { h with session := ht }) f)
  | loadSession address f => exact lookup_agree h h.session address f
  | knownDeviceIdsFor serviceId f =>
    refine read_agree h ?_
    rw [Storage.knownDeviceIdsFor, Storage.knownDeviceIdsFor, Storage.addressesLike,
      Storage.addressesLike, h.session]
    exact .refl (fun _ => rfl) _
  | saveRemoteIdentity address publicKey f =>
    exact wrote_agree (Agree.execute ((upsert_same h h.remoteIdentity address publicKey).map
      fun _ _ ht => { h with remoteIdentity := ht }) f)
  | loadRemoteIdentity address f => exact lookup_agree h h.remoteIdentity address f
  | saveResolvedContact e164 aci pni now f =>
    exact wrote_agree (Agree.execute ((upsert_same h h.resolvedContact e164 _).map
      fun _ _ ht => { h with resolvedContact := ht }) f)
  | loadResolvedContact e164 f => exact lookup_agree h h.resolvedContact e164 f
  | saveSyncedContact e164 aci pni profileKey givenName familyName now fE164 fAci fWrite =>
    exact wrote_agree (saveSyncedContact_same h hids hids' e164 aci pni profileKey givenName
      familyName now fE164 fAci fWrite)
  | loadSyncedContact e164 f => exact read_agree h (loadSynced_same h (·.e164) e164 f)
  | loadSyncedContactByAci aci f => exact read_agree h (loadSynced_same h (·.aci) aci f)
  | deleteAccount beginFault f commitFault =>
    exact wrote_agree (deleteAccount_same h beginFault f commitFault)

theorem wrote_ok {o : Result Db} {answer : StorageAnswer}
    (h : (wrote o).value = .ok (db', answer)) : o.value = .ok db' := by
  cases ho : o.value with
  | error e => rw [wrote, Outcome.map_value, ho] at h; cases h
  | ok db₁ =>
    rw [wrote, Outcome.map_value, ho] at h
    cases h
    rfl

theorem read_ok {α : Type} {o : Result α} {g : α → StorageAnswer} {answer : StorageAnswer}
    (h : (read db g o).value = .ok (db', answer)) : db' = db := by
  cases ho : o.value with
  | error e => rw [read, Outcome.map_value, ho] at h; cases h
  | ok a =>
    rw [read, Outcome.map_value, ho] at h
    cases h
    rfl

/-- A call of another account changes none of the account's rows, and keeps the ids unique. -/
theorem run_frame (hne : other ≠ accountName) (hids : db.ContactIds) {c : StorageCall}
    {answer : StorageAnswer} (h : (c.run db other).value = .ok (db', answer)) :
    SameRows accountName db' db := by
  have hsame := SameRows.refl accountName db
  cases c with
  | saveAccount account f =>
    obtain ⟨-, -, heffect⟩ := Sqlite.execute_ok_iff.mp (wrote_ok h)
    cases heffect
    exact { hsame with account := AList.lookup_insert_ne hne.symm }
  | saveAccountConfig account f =>
    obtain ⟨-, rfl⟩ := Storage.saveAccountConfig_ok (wrote_ok h)
    exact { hsame with account := AList.lookup_modify_ne hne.symm _ _ }
  | saveIdentityKeypair identity keypair f =>
    obtain ⟨t, ht, rfl⟩ := execute_map_ok (wrote_ok h)
    exact { hsame with
      identityKeypair := upsertIdentity_ok ht ▸ rowsOf_insert_ne hne _ identity keypair }
  | saveSignedPrekey identity prekey f =>
    obtain ⟨t, ht, rfl⟩ := execute_map_ok (wrote_ok h)
    exact { hsame with signedPrekey := upsertIdentity_ok ht ▸ rowsOf_insert_ne hne _ identity prekey }
  | saveKyberPrekey identity prekey f =>
    obtain ⟨t, ht, rfl⟩ := execute_map_ok (wrote_ok h)
    exact { hsame with kyberPrekey := upsertIdentity_ok ht ▸ rowsOf_insert_ne hne _ identity prekey }
  | saveSession address record f =>
    obtain ⟨t, ht, rfl⟩ := execute_map_ok (wrote_ok h)
    exact { hsame with session := upsert_ok ht ▸ rowsOf_insert_ne hne _ address record }
  | saveRemoteIdentity address publicKey f =>
    obtain ⟨t, ht, rfl⟩ := execute_map_ok (wrote_ok h)
    exact { hsame with remoteIdentity := upsert_ok ht ▸ rowsOf_insert_ne hne _ address publicKey }
  | saveResolvedContact e164 aci pni now f =>
    obtain ⟨t, ht, rfl⟩ := execute_map_ok (wrote_ok h)
    exact { hsame with resolvedContact := upsert_ok ht ▸ rowsOf_insert_ne hne _ e164 _ }
  | saveSyncedContact e164 aci pni profileKey givenName familyName now fE164 fAci fWrite =>
    cases saveSyncedContact_ok (wrote_ok h) with
    | updated row hrow haccepted hdb => exact hdb ▸ withContactAt_frame hne hids hrow _
    | added haccepted hdb => exact hdb ▸ withNewContact_frame hne db _
  | deleteAccount beginFault f commitFault =>
    exact deleteAccount_induction (P := fun d => SameRows accountName d db)
      (fun d t hd => (deleteFrom_frame hne d t).trans hd) hsame (wrote_ok h)
  | _ =>
    rw [read_ok h]
    exact hsame

/-- What a call can do to `synced_contact`: delete rows, or write one contact of its account. -/
theorem run_contacts {c : StorageCall} {answer : StorageAnswer}
    (h : (c.run db other).value = .ok (db', answer)) :
    (db'.syncedContact.Sublist db.syncedContact ∧ db'.nextContactId = db.nextContactId) ∨
      ∃ contact, c.contact = some contact ∧ ContactWritten other contact db db' := by
  -- a write to another table leaves `synced_contact` as it is
  have helsewhere {τ : Type} {f : Faults} {failed : Sqlite.Error → RuntimeError}
      {table : Except Sqlite.Error τ} {g : τ → Db}
      (h : (wrote (Sqlite.execute prepareFailed failed f (table.map g))).value = .ok (db', answer))
      (hg : ∀ t, (g t).syncedContact = db.syncedContact ∧ (g t).nextContactId = db.nextContactId) :
      db'.syncedContact.Sublist db.syncedContact ∧ db'.nextContactId = db.nextContactId := by
    obtain ⟨t, -, rfl⟩ := execute_map_ok (wrote_ok h)
    obtain ⟨hrows, hnext⟩ := hg t
    exact ⟨hrows ▸ List.Sublist.refl _, hnext⟩
  cases c with
  | saveAccount account f =>
    obtain ⟨-, -, heffect⟩ := Sqlite.execute_ok_iff.mp (wrote_ok h)
    cases heffect
    exact Or.inl ⟨List.Sublist.refl _, rfl⟩
  | saveAccountConfig account f =>
    obtain ⟨-, rfl⟩ := Storage.saveAccountConfig_ok (wrote_ok h)
    exact Or.inl ⟨List.Sublist.refl _, rfl⟩
  | saveIdentityKeypair identity keypair f => exact Or.inl (helsewhere h fun _ => ⟨rfl, rfl⟩)
  | saveSignedPrekey identity prekey f => exact Or.inl (helsewhere h fun _ => ⟨rfl, rfl⟩)
  | saveKyberPrekey identity prekey f => exact Or.inl (helsewhere h fun _ => ⟨rfl, rfl⟩)
  | saveSession address record f => exact Or.inl (helsewhere h fun _ => ⟨rfl, rfl⟩)
  | saveRemoteIdentity address publicKey f => exact Or.inl (helsewhere h fun _ => ⟨rfl, rfl⟩)
  | saveResolvedContact e164 aci pni now f => exact Or.inl (helsewhere h fun _ => ⟨rfl, rfl⟩)
  | saveSyncedContact e164 aci pni profileKey givenName familyName now fE164 fAci fWrite =>
    exact Or.inr ⟨_, rfl, saveSyncedContact_ok (wrote_ok h)⟩
  | deleteAccount beginFault f commitFault =>
    refine Or.inl (deleteAccount_induction (P := fun d => d.syncedContact.Sublist db.syncedContact ∧
      d.nextContactId = db.nextContactId) (fun d t hd => ?_) ⟨List.Sublist.refl _, rfl⟩ (wrote_ok h))
    obtain ⟨hrows, hnext⟩ := deleteFrom_contacts d t
    exact ⟨hrows.trans hd.1, hnext.trans hd.2⟩
  | _ =>
    rw [read_ok h]
    exact Or.inl ⟨List.Sublist.refl _, rfl⟩

/-- Every call keeps the ids of `synced_contact` unique. -/
theorem run_ids (hids : db.ContactIds) {c : StorageCall} {answer : StorageAnswer}
    (h : (c.run db other).value = .ok (db', answer)) : db'.ContactIds := by
  rcases run_contacts h with ⟨hrows, hnext⟩ | ⟨contact, -, hwritten⟩
  · exact hids.sublist hrows hnext
  · cases hwritten with
    | updated row hrow haccepted hdb => exact hdb ▸ withContactAt_ids hids row.id contact
    | added haccepted hdb => exact hdb ▸ withNewContact_ids hids other contact

/-- The file after a call is the one before it, or what the call returned. -/
theorem step_cases (db : Db) (e : String × StorageCall) :
    (step db e).1 = db ∨ ∃ answer, (e.2.run db e.1).value = .ok ((step db e).1, answer) := by
  cases hrun : (e.2.run db e.1).value with
  | error x =>
    refine Or.inl ?_
    simp only [step, Outcome.after, Outcome.map_value, hrun]
    rfl
  | ok p =>
    obtain ⟨db', answer⟩ := p
    refine Or.inr ⟨answer, ?_⟩
    simp only [step, Outcome.after, Outcome.map_value, hrun]
    rfl

theorem step_ids (hids : db.ContactIds) (e : String × StorageCall) : (step db e).1.ContactIds := by
  rcases step_cases db e with heq | ⟨answer, hrun⟩
  · rwa [heq]
  · exact run_ids hids hrun

/-- One call, seen by its own account and by another. -/
theorem unwinding : Unwinding step Prod.fst fun accountName db db' =>
    SameRows accountName db db' ∧ db.ContactIds ∧ db'.ContactIds where
  own := by
    rintro db db' e ⟨hrows, hids, hids'⟩
    have hrun := run_agree hrows hids hids' e.2
    have hanswer : Agree (· = ·) ((e.2.run db e.1).map Prod.snd) ((e.2.run db' e.1).map Prod.snd) :=
      hrun.map fun _ _ h => h.2
    have hfile : Agree (SameRows e.1) ((e.2.run db e.1).map Prod.fst)
        ((e.2.run db' e.1).map Prod.fst) := hrun.map fun _ _ h => h.1
    exact ⟨hanswer.eq, hfile.after hrows, step_ids hids e, step_ids hids' e⟩
  other := by
    rintro db db' e accountName hne ⟨hrows, hids, hids'⟩
    refine ⟨?_, step_ids hids e, hids'⟩
    rcases step_cases db e with heq | ⟨answer, hrun⟩
    · rwa [heq]
    · exact (run_frame hne hids hrun).trans hrows

end StorageCall

open StorageCall in
/-- In every interleaving of the calls of any number of accounts, each account's results and its
final rows in the eight tables are those of its own calls alone. -/
theorem accountIsolation (accountName : String) {db db' : Db} (hids : db.ContactIds)
    (hids' : db'.ContactIds) (hrows : SameRows accountName db db')
    (calls : List (String × StorageCall)) :
    resultsOf step Prod.fst accountName db calls =
        resultsOf step Prod.fst accountName db' (callsOf Prod.fst accountName calls) ∧
      SameRows accountName (stateAfter step db calls)
        (stateAfter step db' (callsOf Prod.fst accountName calls)) := by
  obtain ⟨hresults, hfinal, -⟩ := unwinding.run accountName ⟨hrows, hids, hids'⟩ calls
  exact ⟨hresults, hfinal⟩

/-- Two accounts that cache one contact each, the second with the ids of the first in between. -/
def sharedCalls : List (String × StorageCall) :=
  let account (accountName : String) : AccountRecord :=
    { e164 := accountName, aci := "", pni := "", password := "" }
  let contact (aci : String) : StorageCall :=
    .saveSyncedContact "+3800" aci "" [] "" "" 7 .quiet .quiet .quiet
  [("bob", .saveAccount (account "bob") .quiet), ("bob", contact "b"),
    ("alice", contact "early"),
    ("alice", .saveAccount (account "alice") .quiet), ("alice", contact "a"),
    ("bob", .deleteAccount none (fun _ => .quiet) none), ("alice", contact "a2"),
    ("alice", .loadSyncedContact "+3800" .quiet)]

theorem accountIsolation_shared :
    resultsOf StorageCall.step Prod.fst "alice" {} sharedCalls =
        resultsOf StorageCall.step Prod.fst "alice" {} (callsOf Prod.fst "alice" sharedCalls) ∧
      SameRows "alice" (stateAfter StorageCall.step {} sharedCalls)
        (stateAfter StorageCall.step {} (callsOf Prod.fst "alice" sharedCalls)) :=
  have hids : Db.ContactIds {} := ⟨List.nodup_nil, fun _ h => (by cases h), by decide⟩
  accountIsolation "alice" hids hids (SameRows.refl "alice" {}) sharedCalls

end Signal2sip
