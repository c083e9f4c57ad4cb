import Signal2sip.Laws.StorageHistory

/-!
# Rows have an account

`schema.sql` ties every row of the seven other tables to a row of `account`. `Db.Owned` says that the
file keeps to it, which every call does, whatever fails. So an account that is saved anew starts with
nothing of an earlier one of its name, and a write goes through exactly when nothing fails, the account
has its row, and the identity is one of the two.

- `owned_step`: one call keeps it;
- `nothing_outlives`: whole runs.
-/

namespace Signal2sip

open Sqlite (Faults Outcome)

/-- The foreign keys of the file: an account without a row has nothing. -/
structure Db.Owned (db : Db) : Prop where
  keys : ∀ accountName, accountName ∉ db.account → ∀ q : StoredKey, q.reading accountName db = q.absent
  contacts : ∀ row ∈ db.syncedContact, row.accountName ∈ db.account

namespace StorageCall

/-- One of the two identities that the checks of three tables allow. -/
def IsIdentity (identity : String) : Prop := identity = "aci" ∨ identity = "pni"

/-- When a call goes through. A contact may also clash with others, which is not said here. -/
def Permitted (db : Db) (accountName : String) : StorageCall → Prop
  | .hasAccount f => f.prepare = none
  | .loadAccount f => Silent f ∧ accountName ∈ db.account
  | .saveAccount _ f => Silent f
  | .saveAccountConfig _ f => Silent f ∧ accountName ∈ db.account
  | .saveIdentityKeypair identity _ f => Silent f ∧ IsIdentity identity ∧ accountName ∈ db.account
  | .loadIdentityKeypair _ f => f.prepare = none
  | .saveSignedPrekey identity _ f => Silent f ∧ IsIdentity identity ∧ accountName ∈ db.account
  | .loadSignedPrekey _ f => f.prepare = none
  | .saveKyberPrekey identity _ f => Silent f ∧ IsIdentity identity ∧ accountName ∈ db.account
  | .loadKyberPrekey _ f => f.prepare = none
  | .saveSession _ _ f => Silent f ∧ accountName ∈ db.account
  | .loadSession _ f => f.prepare = none
  | .knownDeviceIdsFor _ f => f.prepare = none
  | .saveRemoteIdentity _ _ f => Silent f ∧ accountName ∈ db.account
  | .loadRemoteIdentity _ f => f.prepare = none
  | .saveResolvedContact _ _ _ _ f => Silent f ∧ accountName ∈ db.account
  | .loadResolvedContact _ f => f.prepare = none
  | .saveSyncedContact _ _ _ _ _ _ _ _ _ fWrite => Silent fWrite ∧ accountName ∈ db.account
  | .loadSyncedContact _ f => f.prepare = none
  | .loadSyncedContactByAci _ f => f.prepare = none
  | .deleteAccount beginFault f commitFault =>
    beginFault = none ∧ (∀ t, Silent (f t)) ∧ commitFault = none

variable {db db' : Db} {accountName other : String} {c : StorageCall}

/-! ## What goes through -/

section Accepts

variable {f : Faults} {failed : Sqlite.Error → RuntimeError} {α : Type}
  {t : Table (String × String) α} {v : α} {g : Table (String × String) α → Db} {k identity : String}

theorem outcome_accepted_iff :
    (outcome db (other, c)).2 = none ↔ ∃ p, (c.run db other).value = .ok p := by
  constructor
  · intro h
    obtain ⟨answer, hrun⟩ := outcome_accepted h
    exact ⟨_, hrun⟩
  · rintro ⟨p, hrun⟩
    simp only [outcome, step, Outcome.map_value, hrun]
    rfl

theorem wrote_accepted_iff {o : Result Db} :
    (∃ p, (wrote o).value = .ok p) ↔ ∃ db', o.value = .ok db' := by
  constructor
  · rintro ⟨p, hp⟩
    exact ⟨p.1, wrote_ok hp⟩
  · rintro ⟨db', hdb'⟩
    refine ⟨(db', .done), ?_⟩
    rw [wrote, Outcome.map_value, hdb']
    rfl

/-- An upsert goes through when nothing fails and its account has a row: no key of another account's
is there to update. -/
theorem upsert_accepted_iff (hkey : (other, k) ∈ t → other ∈ db.account) :
    (∃ p, (wrote (Sqlite.execute prepareFailed failed f
        ((upsert db other t (other, k) v).map g))).value = .ok p) ↔ Silent f ∧ other ∈ db.account := by
  rw [wrote_accepted_iff]
  constructor
  · rintro ⟨db', hdb'⟩
    obtain ⟨hprepare, hstep, heffect⟩ := Sqlite.execute_ok_iff.mp hdb'
    refine ⟨⟨hprepare, hstep⟩, ?_⟩
    unfold upsert at heffect
    split at heffect
    · next hrow => exact hrow.elim hkey id
    · cases heffect
  · rintro ⟨hsilent, hrow⟩
    exact ⟨_, upsert_silent hsilent hrow failed t (other, k) v g⟩

theorem upsertIdentity_accepted_iff (hkey : (other, identity) ∈ t → other ∈ db.account) :
    (∃ p, (wrote (Sqlite.execute prepareFailed failed f
        ((upsertIdentity db other identity t v).map g))).value = .ok p) ↔
      Silent f ∧ IsIdentity identity ∧ other ∈ db.account := by
  unfold upsertIdentity
  by_cases hidentity : IsIdentity identity
  · rw [if_pos (show identity = "aci" ∨ identity = "pni" from hidentity), upsert_accepted_iff hkey]
    exact and_congr_right fun _ => (and_iff_right hidentity).symm
  · rw [if_neg (show ¬ (identity = "aci" ∨ identity = "pni") from hidentity), wrote_accepted_iff]
    refine iff_of_false ?_ fun h => hidentity h.2.1
    rintro ⟨db', hdb'⟩
    cases (Sqlite.execute_ok_iff.mp hdb').2.2

end Accepts

/-- A key that is there belongs to an account that is. -/
theorem owner_of_lookup (h : db.Owned) {α : Type} {t : Table (String × String) α} {k : String}
    {q : StoredKey} {answer : Option α → StorageAnswer} (hinj : Function.Injective answer)
    (hreading : q.reading other db = answer (t.lookup (other, k))) (habsent : q.absent = answer none)
    (hkey : (other, k) ∈ t) : other ∈ db.account := by
  by_contra hrow
  have hnone := hinj (hreading.symm.trans ((h.keys other hrow q).trans habsent))
  exact AList.lookup_eq_none.mp hnone hkey

theorem saveAccount_accepted_iff {account : AccountRecord} {f : Faults} :
    (∃ db', (Storage.saveAccount db other account f).value = .ok db') ↔ Silent f := by
  rcases Storage.saveAccount_cases db other account f with ⟨hp, hs, hok⟩ | ⟨hfail, x, herror⟩
  · exact iff_of_true ⟨_, hok⟩ ⟨hp, hs⟩
  · refine iff_of_false ?_ fun hsilent => hfail.elim (absurd hsilent.1) (absurd hsilent.2)
    rw [herror]
    rintro ⟨db', hdb'⟩
    cases hdb'

theorem saveAccountConfig_accepted_iff {account : AccountRecord} {f : Faults} :
    (∃ db', (Storage.saveAccountConfig db other account f).value = .ok db') ↔
      Silent f ∧ other ∈ db.account := by
  constructor
  · rintro ⟨db', hdb'⟩
    obtain ⟨hrow, -⟩ := Storage.saveAccountConfig_ok hdb'
    obtain ⟨p, hexecute, -⟩ := Outcome.bind_ok_iff.mp hdb'
    obtain ⟨hprepare, hstep, -⟩ := Sqlite.execute_ok_iff.mp hexecute
    exact ⟨⟨hprepare, hstep⟩, hrow⟩
  · rintro ⟨⟨hprepare, hstep⟩, hrow⟩
    refine ⟨(Storage.updateAccountConfig db other account.toConfigColumns).1, ?_⟩
    refine Outcome.bind_ok_iff.mpr ⟨_, Sqlite.execute_ok_iff.mpr ⟨hprepare, hstep, rfl⟩, ?_⟩
    simp only [Storage.updateAccountConfig, if_pos hrow, Nat.one_ne_zero, if_false]
    rfl

/-- A removal goes through when none of its ten statements fails. -/
theorem deleteAccount_accepted_iff {beginFault : Option Sqlite.Error}
    {f : Storage.TableName → Faults} {commitFault : Option Sqlite.Error} :
    (∃ db', (Storage.deleteAccount db other beginFault f commitFault).value = .ok db') ↔
      beginFault = none ∧ (∀ t, Silent (f t)) ∧ commitFault = none := by
  cases beginFault with
  | some e =>
    refine iff_of_false ?_ fun h => nomatch h.1
    rintro ⟨db', hdb'⟩
    cases hdb'
  | none =>
    constructor
    · rintro ⟨db', hdb'⟩
      obtain ⟨db₁, hdeletes, hcommit⟩ := Outcome.bind_ok_iff.mp hdb'
      obtain ⟨hpass, -⟩ := Storage.deleteTables_ok_iff.mp hdeletes
      cases commitFault with
      | some e => cases hcommit
      | none => exact ⟨rfl, fun t => hpass t (by cases t <;> decide), rfl⟩
    · rintro ⟨-, hpass, rfl⟩
      refine ⟨withoutAccount db other, Outcome.bind_ok_iff.mpr ⟨withoutAccount db other, ?_, rfl⟩⟩
      exact Storage.deleteTables_ok_iff.mpr ⟨fun t _ => hpass t, foldl_deleteFrom db other⟩

/-- A read goes through when its prepare does. -/
theorem read_accepted_iff {α : Type} {answer : α → StorageAnswer} {o : Result α} :
    (∃ p, (read db answer o).value = .ok p) ↔ ∃ a, o.value = .ok a := by
  cases ho : o.value with
  | error x => simp [read, Outcome.map_value, ho, Except.map]
  | ok a => simp [read, Outcome.map_value, ho, Except.map]

theorem firstRow_accepted_iff {ρ : Type} {f : Faults} {rows : List ρ} :
    (∃ row, (Sqlite.firstRow prepareFailed f rows).value = .ok row) ↔ f.prepare = none := by
  rw [firstRow_value]
  cases f.prepare with
  | some e => simp
  | none => simp

theorem map_accepted_iff {α β : Type} {o : Result α} {g : α → β} :
    (∃ b, (o.map g).value = .ok b) ↔ ∃ a, o.value = .ok a := by
  cases ho : o.value with
  | error x => simp [Outcome.map_value, ho, Except.map]
  | ok a => simp [Outcome.map_value, ho, Except.map]

/-- A contact is written for an account that has a row. -/
theorem saveSyncedContact_permitted (h : db.Owned) {e164 aci pni : String} {profileKey : Bytes}
    {givenName familyName : String} {now : Int} {fE164 fAci fWrite : Faults}
    (hsaved : (Storage.saveSyncedContact db other e164 aci pni profileKey givenName familyName now
      fE164 fAci fWrite).value = .ok db') : Silent fWrite ∧ other ∈ db.account := by
  obtain ⟨existing, hfind, hwrite⟩ := Outcome.bind_ok_iff.mp hsaved
  cases existing with
  | some id =>
    obtain ⟨row, hrow, -⟩ := findExistingContact_mem hfind
    obtain ⟨hprepare, hstep, -⟩ := Sqlite.execute_ok_iff.mp hwrite
    obtain ⟨hmem, hown⟩ := List.mem_filter.mp hrow
    exact ⟨⟨hprepare, hstep⟩, of_decide_eq_true hown ▸ h.contacts row hmem⟩
  | none =>
    obtain ⟨hprepare, hstep, heffect⟩ := Sqlite.execute_ok_iff.mp hwrite
    refine ⟨⟨hprepare, hstep⟩, ?_⟩
    unfold Storage.insertSyncedContact at heffect
    split at heffect
    · cases heffect
    · split at heffect
      · assumption
      · cases heffect

/-- A call that writes no contact goes through exactly when it is permitted. -/
theorem accepted_iff_permitted (h : db.Owned) (hc : c.contact = none) :
    (outcome db (other, c)).2 = none ↔ c.Permitted db other := by
  rw [outcome_accepted_iff]
  cases c with
  | hasAccount f => exact read_accepted_iff.trans (map_accepted_iff.trans firstRow_accepted_iff)
  | loadAccount f =>
    refine read_accepted_iff.trans ?_
    simp only [Storage.loadAccount_ok_iff, Permitted, Silent, Db.row, exists_and_left, and_assoc,
      ← Option.isSome_iff_exists, AList.lookup_isSome]
  | saveAccount account f => exact wrote_accepted_iff.trans saveAccount_accepted_iff
  | saveAccountConfig account f => exact wrote_accepted_iff.trans saveAccountConfig_accepted_iff
  | saveIdentityKeypair identity keypair f =>
    exact upsertIdentity_accepted_iff (owner_of_lookup h (q := .identityKeypair identity)
      (fun _ _ => StorageAnswer.keypair.inj) rfl rfl)
  | loadIdentityKeypair identity f => exact read_accepted_iff.trans firstRow_accepted_iff
  | saveSignedPrekey identity prekey f =>
    exact upsertIdentity_accepted_iff (owner_of_lookup h (q := .signedPrekey identity)
      (fun _ _ => StorageAnswer.signedPrekey.inj) rfl rfl)
  | loadSignedPrekey identity f => exact read_accepted_iff.trans firstRow_accepted_iff
  | saveKyberPrekey identity prekey f =>
    exact upsertIdentity_accepted_iff (owner_of_lookup h (q := .kyberPrekey identity)
      (fun _ _ => StorageAnswer.kyberPrekey.inj) rfl rfl)
  | loadKyberPrekey identity f => exact read_accepted_iff.trans firstRow_accepted_iff
  | saveSession address record f =>
    exact upsert_accepted_iff (owner_of_lookup h (q := .session address)
      (fun _ _ => StorageAnswer.bytes.inj) rfl rfl)
  | loadSession address f => exact read_accepted_iff.trans firstRow_accepted_iff
  | knownDeviceIdsFor serviceId f =>
    refine read_accepted_iff.trans (map_accepted_iff.trans ?_)
    unfold Sqlite.collectRows
    cases hprepare : f.prepare with
    | some e => simp [Permitted, hprepare]
    | none => simp [Permitted, hprepare]
  | saveRemoteIdentity address publicKey f =>
    exact upsert_accepted_iff (owner_of_lookup h (q := .remoteIdentity address)
      (fun _ _ => StorageAnswer.bytes.inj) rfl rfl)
  | loadRemoteIdentity address f => exact read_accepted_iff.trans firstRow_accepted_iff
  | saveResolvedContact e164 aci pni now f =>
    exact upsert_accepted_iff (owner_of_lookup h (q := .resolvedContact e164)
      (fun _ _ => StorageAnswer.resolvedContact.inj) rfl rfl)
  | loadResolvedContact e164 f => exact read_accepted_iff.trans firstRow_accepted_iff
  | saveSyncedContact e164 aci pni profileKey givenName familyName now fE164 fAci fWrite =>
    cases hc
  | loadSyncedContact e164 f =>
    exact read_accepted_iff.trans (map_accepted_iff.trans firstRow_accepted_iff)
  | loadSyncedContactByAci aci f =>
    exact read_accepted_iff.trans (map_accepted_iff.trans firstRow_accepted_iff)
  | deleteAccount beginFault f commitFault =>
    exact wrote_accepted_iff.trans deleteAccount_accepted_iff

theorem permitted_of_accepted (h : db.Owned) (haccepted : (outcome db (other, c)).2 = none) :
    c.Permitted db other := by
  cases hc : c.contact with
  | none => exact (accepted_iff_permitted h hc).mp haccepted
  | some contact =>
    cases c with
    | saveSyncedContact e164 aci pni profileKey givenName familyName now fE164 fAci fWrite =>
      obtain ⟨answer, hrun⟩ := outcome_accepted haccepted
      exact saveSyncedContact_permitted h (wrote_ok hrun)
    | _ => cases hc

/-! ## The foreign keys are kept -/

/-- An account keeps its row, unless it is removed. -/
theorem account_stays {answer : StorageAnswer} (hrun : (c.run db other).value = .ok (db', answer))
    (hrow : accountName ∈ db.account) :
    accountName ∈ db'.account ∨ other = accountName ∧
      ∃ beginFault f commitFault, c = .deleteAccount beginFault f commitFault := by
  have hread : StoredKey.hasAccount.reading accountName db' =
      (writes (accountName, .hasAccount) (other, c)).getD (StoredKey.hasAccount.reading accountName db) :=
    reading_step hrun
  cases c with
  | deleteAccount beginFault f commitFault =>
    by_cases hname : other = accountName
    · exact .inr ⟨hname, _, _, _, rfl⟩
    · exact .inl (by simpa [writes, hname, StoredKey.reading, hrow] using hread)
  | saveAccount account f =>
    by_cases hname : other = accountName
    · exact .inl (by simpa [writes, StoredKey.written, hname, StoredKey.reading] using hread)
    · exact .inl (by simpa [writes, hname, StoredKey.reading, hrow] using hread)
  | _ => exact .inl (by simpa [writes, StoredKey.written, StoredKey.reading, hrow] using hread)

/-- Something other than nothing is written for an account that has a row, but for the row itself. -/
theorem written_cases (h : db.Owned) {answer : StorageAnswer}
    (hrun : (c.run db other).value = .ok (db', answer)) {q : StoredKey} {v : StorageAnswer}
    (hv : q.written c = some v) : q = .hasAccount ∨ v = q.absent ∨ other ∈ db.account := by
  have hpermitted := permitted_of_accepted h (outcome_accepted_iff.mpr ⟨_, hrun⟩)
  cases c with
  | saveAccount account f =>
    simp only [StoredKey.written, Option.ite_none_right_eq_some] at hv
    exact .inl hv.1
  | deleteAccount beginFault f commitFault => exact .inr (.inl (Option.some.inj hv).symm)
  | saveIdentityKeypair identity keypair f => exact .inr (.inr hpermitted.2.2)
  | saveSignedPrekey identity prekey f => exact .inr (.inr hpermitted.2.2)
  | saveKyberPrekey identity prekey f => exact .inr (.inr hpermitted.2.2)
  | saveSession address record f => exact .inr (.inr hpermitted.2)
  | saveRemoteIdentity address publicKey f => exact .inr (.inr hpermitted.2)
  | saveResolvedContact e164 aci pni now f => exact .inr (.inr hpermitted.2)
  | _ => cases hv

/-- Without a row after the call, an account reads nothing. -/
theorem keys_step (h : db.Owned) {answer : StorageAnswer}
    (hrun : (c.run db other).value = .ok (db', answer)) (hgone : accountName ∉ db'.account)
    (q : StoredKey) : q.reading accountName db' = q.absent := by
  by_cases hq : q = .hasAccount
  · subst hq
    simp [StoredKey.reading, StoredKey.absent, hgone]
  rw [reading_step hrun]
  by_cases hrow : accountName ∈ db.account
  · obtain hstays | ⟨rfl, beginFault, f, commitFault, rfl⟩ := account_stays hrun hrow
    · exact absurd hstays hgone
    · simp [writes, StoredKey.written]
  · by_cases hname : other = accountName
    · subst hname
      rw [writes, if_pos rfl]
      cases hv : q.written c with
      | none => exact h.keys other hrow q
      | some v =>
        obtain hhas | habsent | howner := written_cases h hrun hv
        · exact absurd hhas hq
        · exact habsent
        · exact absurd howner hrow
    · rw [writes, if_neg hname]
      exact h.keys accountName hrow q

/-- The rows of `synced_contact` keep their accounts. -/
theorem contacts_step (h : db.Owned) {answer : StorageAnswer}
    (hrun : (c.run db other).value = .ok (db', answer)) :
    ∀ row ∈ db'.syncedContact, row.accountName ∈ db'.account := by
  by_cases hdelete : ∃ beginFault f commitFault, c = .deleteAccount beginFault f commitFault
  · obtain ⟨beginFault, f, commitFault, rfl⟩ := hdelete
    obtain rfl := deleteAccount_removes (wrote_ok hrun)
    intro row hrow
    obtain ⟨hmem, hother⟩ := List.mem_filter.mp hrow
    exact AList.mem_erase.mpr ⟨of_decide_eq_true hother, h.contacts row hmem⟩
  have hstays {name : String} (hname : name ∈ db.account) : name ∈ db'.account :=
    (account_stays hrun hname).resolve_right fun hgone => hdelete hgone.2
  rcases run_contacts hrun with ⟨hrows, -⟩ | ⟨contact, hcontact, hwritten⟩
  · exact fun row hrow => hstays (h.contacts row (hrows.subset hrow))
  · have hpermitted := permitted_of_accepted h (outcome_accepted_iff.mpr ⟨_, hrun⟩)
    cases hwritten with
    | updated old hold haccepted hdb =>
      subst hdb
      intro row hrow
      obtain ⟨s, hs, rfl⟩ := List.mem_map.mp hrow
      have hname : (if s.id = old.id then { s with contact := contact } else s).accountName =
          s.accountName := by
        split <;> rfl
      rw [hname]
      exact h.contacts s hs
    | added haccepted hdb =>
      subst hdb
      intro row hrow
      obtain hrow | hrow := List.mem_append.mp hrow
      · exact h.contacts row hrow
      · rw [List.mem_singleton.mp hrow]
        cases c with
        | saveSyncedContact e164 aci pni profileKey givenName familyName now fE164 fAci fWrite =>
          exact hpermitted.2
        | _ => cases hcontact

theorem owned_next (db : Db) (e : String × StorageCall) (h : db.Owned) :
    (Registers.next outcome db e).Owned := by
  cases haccepted : (outcome db e).2 with
  | none =>
    obtain ⟨answer, hrun⟩ := outcome_accepted haccepted
    exact ⟨fun name hname => keys_step h hrun hname, contacts_step h hrun⟩
  | some x =>
    have hrefused : (outcome db e).2 ≠ none := by
      rw [haccepted]
      exact Option.some_ne_none x
    rw [Registers.next, outcome_refused hrefused]
    exact h

/-! ## Runs -/

/-- What holds of a call in a file with its foreign keys. -/
structure Orderly (db : Db) (e : String × StorageCall) : Prop where
  permitted : (outcome db e).2 = none → e.2.Permitted db e.1
  accepted : e.2.contact = none → e.2.Permitted db e.1 → (outcome db e).2 = none
  fresh : ∀ account f, e.2 = .saveAccount account f → e.1 ∉ db.account →
    (∀ q : StoredKey, q ≠ .hasAccount → q.reading e.1 (outcome db e).1 = q.absent) ∧
      contactsOf e.1 (outcome db e).1 = []

theorem contactsOf_absent (h : db.Owned) (hrow : accountName ∉ db.account) :
    contactsOf accountName db = [] := by
  have hnone : ownContactRows accountName db = [] := by
    refine List.filter_eq_nil_iff.mpr fun row hmem hown => hrow ?_
    exact of_decide_eq_true hown ▸ h.contacts row hmem
  rw [contactsOf, hnone, List.map_nil]

/-- A new account finds nothing under its name. -/
theorem fresh_account (h : db.Owned) {account : AccountRecord} {f : Faults}
    (hrow : accountName ∉ db.account) :
    (∀ q : StoredKey, q ≠ .hasAccount →
        q.reading accountName (outcome db (accountName, .saveAccount account f)).1 = q.absent) ∧
      contactsOf accountName (outcome db (accountName, .saveAccount account f)).1 = [] := by
  cases haccepted : (outcome db (accountName, .saveAccount account f)).2 with
  | some x =>
    rw [outcome_refused (by rw [haccepted]; exact Option.some_ne_none x)]
    exact ⟨fun q _ => h.keys accountName hrow q, contactsOf_absent h hrow⟩
  | none =>
    obtain ⟨answer, hrun⟩ := outcome_accepted haccepted
    refine ⟨fun q hq => ?_, ?_⟩
    · rw [reading_step hrun]
      simp only [writes, StoredKey.written, if_neg hq, ite_self]
      exact h.keys accountName hrow q
    · obtain ⟨-, -, heffect⟩ := Sqlite.execute_ok_iff.mp (wrote_ok hrun)
      have hsame : contactsOf accountName (Storage.withSavedAccount db accountName account) =
          contactsOf accountName db := rfl
      rw [← Except.ok.inj heffect, hsame, contactsOf_absent h hrow]

theorem orderly (h : db.Owned) (e : String × StorageCall) : Orderly db e where
  permitted := permitted_of_accepted h
  accepted hc := (accepted_iff_permitted h hc).mpr
  fresh := by
    obtain ⟨name, c⟩ := e
    rintro account f rfl hrow
    exact fresh_account h hrow

end StorageCall

open StorageCall in
/-- In every run of calls of any accounts' objects, with any failures, the file keeps its foreign keys:
an account without a row has nothing. So a call goes through exactly when its statements pass and its
account has the row that it needs, and an account that is saved anew starts with nothing. -/
theorem nothing_outlives {db : Db} (h : db.Owned) (calls : List (String × StorageCall)) :
    Runs.Always (Registers.next outcome) Db.Owned db calls ∧
      Runs.Along (Registers.next outcome) Orderly db calls := by
  have halways : ∀ calls, Runs.Always (Registers.next outcome) Db.Owned db calls :=
    fun calls => Runs.Always.of_keep owned_next h
  exact ⟨halways calls, Runs.along_iff_forall_prefix.mpr fun before e behind _ =>
    orderly (halways before).last e⟩

theorem owned_empty : Db.Owned {} where
  keys _ _ q := by cases q <;> rfl
  contacts _ hrow := absurd hrow List.not_mem_nil

/-- A line that is removed and set up again. -/
def renewedCalls : List (String × StorageCall) :=
  let account : AccountRecord := { e164 := "+3800", aci := "", pni := "", password := "" }
  [("trunk", .saveSession "bob.1" [1] .quiet), ("trunk", .saveAccount account .quiet),
    ("trunk", .saveSession "bob.1" [2] .quiet), ("trunk", .deleteAccount none (fun _ => .quiet) none),
    ("trunk", .saveAccount account .quiet)]

theorem nothing_outlives_renewed :
    Runs.Always (Registers.next StorageCall.outcome) Db.Owned {} renewedCalls ∧
      Runs.Along (Registers.next StorageCall.outcome) StorageCall.Orderly {} renewedCalls :=
  nothing_outlives owned_empty renewedCalls

end Signal2sip
