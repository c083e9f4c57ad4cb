import Signal2sip.Laws.AccountIsolation
import Signal2sip.Laws.ContactSync

/-!
# What one call of `saveSyncedContact` does

A contact has two keys, both optional, and a table has two partial indexes for them. The call looks
for a row by the number, then for one by the `aci`; what it may not do is left to the engine.

- `savedSyncedContact`: it throws, and nothing changes, exactly when the number is on one row of the
  account and the `aci` on another one. Otherwise it writes one row, over the one that has the number,
  else over the one that has the `aci`, else over none, and each key of the contact finds it;
- `sharedBlank_refutes`: a blank number is no key. Rows without a number do not stand in the way of
  a contact without one;
- `contactsSound_of_run`: the tables that this is about are those that calls can make, whatever
  fails in them.
-/

namespace Signal2sip

open Parties (stateAfter)
open Sqlite (Faults)

variable {db : Db} {accountName : String} {contact : StorageContact}

/-! ## The tables that calls make -/

/-- Deleting rows keeps a table sound. -/
theorem Db.ContactsSound.sublist {db' : Db} (hsound : db.ContactsSound)
    (hrows : db'.syncedContact.Sublist db.syncedContact)
    (hnext : db'.nextContactId = db.nextContactId) : db'.ContactsSound := by
  obtain ⟨hids, hrange, hnonneg⟩ := hsound.contactIds.sublist hrows hnext
  refine ⟨hids, hrange, hnonneg, hsound.keys.mono ?_⟩
  exact Multiset.coe_le.mpr (hrows.map _).subperm

/-- A contact that the engine accepts keeps the table sound. -/
theorem ContactWritten.sound {db' : Db} {record : SyncedContactRecord}
    (h : ContactWritten accountName record db db') (hsound : db.ContactsSound) : db'.ContactsSound := by
  cases h with
  | updated row hrow haccepted hdb =>
    subst hdb
    obtain ⟨hids, hrange, hnext⟩ := withContactAt_ids hsound.contactIds row.id record
    refine ⟨hids, hrange, hnext, ?_⟩
    obtain ⟨hmem, hown⟩ := List.mem_filter.mp hrow
    rw [contacts_withContactAt hsound.contactIds hmem record, of_decide_eq_true hown]
    refine (hsound.keys.mono ?_).cons fun s hs => ?_
    · exact Multiset.coe_le.mpr (List.filter_sublist.map _).subperm
    · obtain ⟨s, hs', rfl⟩ := List.mem_map.mp (Multiset.mem_coe.mp hs)
      exact Storage.uniqueViolation_eq_none_iff.mp haccepted s hs'
  | added haccepted hdb =>
    subst hdb
    obtain ⟨hids, hrange, hnext⟩ := withNewContact_ids hsound.contactIds accountName record
    refine ⟨hids, hrange, hnext, ?_⟩
    have hcontacts : (withNewContact db accountName record).contacts =
        (accountName, record.listed) ::ₘ db.contacts := by
      rw [Db.contacts, withNewContact, List.map_append, ← Multiset.coe_add, Multiset.add_comm]
      rfl
    rw [hcontacts]
    refine hsound.keys.cons fun s hs => ?_
    obtain ⟨s, hs', rfl⟩ := List.mem_map.mp (Multiset.mem_coe.mp hs)
    exact Storage.uniqueViolation_eq_none_iff.mp haccepted s hs'

/-- Every call, of any account and with any failures, keeps the table sound. -/
theorem StorageCall.step_contactsSound (hsound : db.ContactsSound) (e : String × StorageCall) :
    (step db e).1.ContactsSound := by
  rcases step_cases db e with hdb | ⟨answer, hrun⟩
  · rwa [hdb]
  · rcases run_contacts hrun with ⟨hrows, hnext⟩ | ⟨record, -, hwritten⟩
    · exact hsound.sublist hrows hnext
    · exact hwritten.sound hsound

/-- The tables that calls make of a sound one are sound. -/
theorem contactsSound_of_run (hsound : db.ContactsSound) (calls : List (String × StorageCall)) :
    (stateAfter StorageCall.step db calls).ContactsSound := by
  induction calls generalizing db with
  | nil => exact hsound
  | cons e calls ih => exact ih (StorageCall.step_contactsSound hsound e)

/-! ## The two keys -/

/-- A row of the account has a key: a text, not blank, in one of the indexed columns. -/
structure OnRow (db : Db) (accountName : String) (column : SyncedContactRecord → String)
    (key : String) (row : SyncedContactRow) : Prop where
  mem : row ∈ db.syncedContact
  notBlank : key ≠ ""
  account : row.accountName = accountName
  column : column row.contact = key

/-- The row that a contact belongs on: the one with its number, else the one with its `aci`. -/
def Matched (db : Db) (accountName : String) (contact : StorageContact) (row : SyncedContactRow) :
    Prop :=
  OnRow db accountName (·.e164) contact.e164 row ∨
    (∀ r, ¬ OnRow db accountName (·.e164) contact.e164 r) ∧
      OnRow db accountName (·.aci) contact.aci row

/-- The contact has its number on one row and its `aci` on another. -/
def Conflicting (db : Db) (accountName : String) (contact : StorageContact) : Prop :=
  ∃ r s, OnRow db accountName (·.e164) contact.e164 r ∧ OnRow db accountName (·.aci) contact.aci s ∧
    r ≠ s

theorem conflicting_iff : Conflicting db accountName contact ↔ ¬ KeysOnOneRow db accountName contact := by
  constructor
  · rintro ⟨r, s, hr, hs, hne⟩ hone
    exact hne (hone r hr.mem s hs.mem hr.account hr.notBlank hr.column hs.account hs.notBlank hs.column)
  · intro hnot
    by_contra hno
    refine hnot fun r hr s hs hra hce hre hsa hca hsaci => ?_
    by_contra hne
    exact hno ⟨r, s, ⟨hr, hce, hra, hre⟩, ⟨hs, hca, hsa, hsaci⟩, hne⟩

/-- The rows that share a key with the contact. -/
theorem mem_clashing_iff {row : SyncedContactRow} :
    row ∈ Storage.clashing db accountName contact ↔
      OnRow db accountName (·.e164) contact.e164 row ∨ OnRow db accountName (·.aci) contact.aci row := by
  rw [Storage.mem_clashing_iff_rowsFor, Storage.mem_rowsFor, Storage.mem_rowsFor]
  constructor
  · rintro (⟨hmem, hkey, haccount, hcolumn⟩ | ⟨hmem, hkey, haccount, hcolumn⟩)
    · exact Or.inl ⟨hmem, hkey, haccount, hcolumn⟩
    · exact Or.inr ⟨hmem, hkey, haccount, hcolumn⟩
  · rintro (h | h)
    · exact Or.inl ⟨h.mem, h.notBlank, h.account, h.column⟩
    · exact Or.inr ⟨h.mem, h.notBlank, h.account, h.column⟩

/-- A matched row shares a key with the contact, and a single row that does is matched. -/
theorem Matched.mem_clashing {row : SyncedContactRow} (h : Matched db accountName contact row) :
    row ∈ Storage.clashing db accountName contact := by
  rcases h with he164 | ⟨-, haci⟩
  · exact mem_clashing_iff.mpr (Or.inl he164)
  · exact mem_clashing_iff.mpr (Or.inr haci)

theorem matched_of_mem_clashing {row : SyncedContactRow}
    (hrow : row ∈ Storage.clashing db accountName contact)
    (hle : (Storage.clashing db accountName contact).length ≤ 1) :
    Matched db accountName contact row := by
  rcases mem_clashing_iff.mp hrow with he164 | haci
  · exact Or.inl he164
  · by_cases hsome : ∃ r, OnRow db accountName (·.e164) contact.e164 r
    · obtain ⟨r, hr⟩ := hsome
      have heq : r = row := UniqueRows.eq_of_length_le_one hle (mem_clashing_iff.mpr (Or.inl hr)) hrow
      exact Or.inl (heq ▸ hr)
    · exact Or.inr ⟨fun r hr => hsome ⟨r, hr⟩, haci⟩

/-! ## The call -/

/-- The call for a listed contact during which the engine does not fail. -/
def saveCall (contact : StorageContact) (now : Int) : StorageCall :=
  .saveSyncedContact contact.e164 contact.aci contact.pni contact.profileKey contact.givenName
    contact.familyName now .quiet .quiet .quiet

/-- One row carries the contact: the matched one, rewritten in place, or a new one when no row is
matched. Nothing else has changed, the keys that the contact has find it, and the indexes hold. -/
structure Saved (db db' : Db) (accountName : String) (contact : StorageContact)
    (record : SyncedContactRecord) (id : Int) : Prop where
  place : (∃ row, Matched db accountName contact row ∧ row.id = id ∧ db' = withContactAt db id record) ∨
    (∀ row, ¬ Matched db accountName contact row) ∧ id = db.nextContactId ∧
      db' = withNewContact db accountName record
  row : ⟨id, accountName, record⟩ ∈ db'.syncedContact
  others : ∀ s : SyncedContactRow, s.id ≠ id → (s ∈ db'.syncedContact ↔ s ∈ db.syncedContact)
  byE164 : contact.e164 ≠ "" →
    (Storage.loadSyncedContact db' accountName contact.e164 .quiet).value = .ok (some record)
  byAci : contact.aci ≠ "" →
    (Storage.loadSyncedContactByAci db' accountName contact.aci .quiet).value = .ok (some record)
  sound : db'.ContactsSound

/-- The call throws and leaves the file as it is when there is a conflict, and saves the contact
otherwise. -/
def SavesUnless (conflict : Prop) (db : Db) (accountName : String) (contact : StorageContact)
    (now : Int) : Prop :=
  let after := StorageCall.step db (accountName, saveCall contact now)
  (conflict ∧ (∃ e, after.2.value = .error e) ∧ after.1 = db) ∨
    (¬ conflict ∧ after.2.value = .ok .done ∧
      ∃ id, Saved db after.1 accountName contact (contact.syncedAt now) id)

/-- A call that has put the contact on a row of a sound table has saved it. -/
theorem Saved.of_row {db' : Db} {record : SyncedContactRecord} {id : Int}
    (hlisted : record.listed = contact) (hsound : db'.ContactsSound)
    (hrow : ⟨id, accountName, record⟩ ∈ db'.syncedContact)
    (hothers : ∀ s : SyncedContactRow, s.id ≠ id → (s ∈ db'.syncedContact ↔ s ∈ db.syncedContact))
    (hplace : (∃ row, Matched db accountName contact row ∧ row.id = id ∧
        db' = withContactAt db id record) ∨
      (∀ row, ¬ Matched db accountName contact row) ∧ id = db.nextContactId ∧
        db' = withNewContact db accountName record) :
    Saved db db' accountName contact record id where
  place := hplace
  row := hrow
  others := hothers
  sound := hsound
  byE164 := by
    intro hkey
    subst hlisted
    have hhead := syncedRowsBy_of_mem hsound (·.e164) hrow
      fun s haccount he164 => ⟨haccount.symm, Or.inl ⟨hkey, he164.symm⟩⟩
    rw [Storage.loadSyncedContact, Sqlite.Outcome.map_value, Sqlite.firstRow_quiet]
    exact congrArg (fun row : Option SyncedContactRow => Except.ok (row.map (·.contact))) hhead
  byAci := by
    intro hkey
    subst hlisted
    have hhead := syncedRowsBy_of_mem hsound (·.aci) hrow
      fun s haccount haci => ⟨haccount.symm, Or.inr ⟨hkey, haci.symm⟩⟩
    rw [Storage.loadSyncedContactByAci, Sqlite.Outcome.map_value, Sqlite.firstRow_quiet]
    exact congrArg (fun row : Option SyncedContactRow => Except.ok (row.map (·.contact))) hhead

/-- The contact over the row that it belongs on. -/
theorem saved_withContactAt {record : SyncedContactRecord} {row : SyncedContactRow}
    (hlisted : record.listed = contact) (hmatched : Matched db accountName contact row)
    (hmem : row ∈ db.syncedContact) (haccount : row.accountName = accountName)
    (hsound : (withContactAt db row.id record).ContactsSound) :
    Saved db (withContactAt db row.id record) accountName contact record row.id := by
  refine .of_row hlisted hsound ?_ ?_ (Or.inl ⟨row, hmatched, rfl, rfl⟩)
  · exact List.mem_map.mpr ⟨row, hmem, by rw [if_pos rfl, haccount]⟩
  · intro s hs
    constructor
    · intro hsmem
      obtain ⟨r, hr, rfl⟩ := List.mem_map.mp hsmem
      by_cases hid : r.id = row.id
      · rw [if_pos hid] at hs
        exact absurd hid hs
      · rwa [if_neg hid]
    · exact fun hsmem => List.mem_map.mpr ⟨s, hsmem, if_neg hs⟩

/-- The contact on a row of its own. -/
theorem saved_withNewContact {record : SyncedContactRecord} (hlisted : record.listed = contact)
    (hnone : ∀ row, ¬ Matched db accountName contact row)
    (hsound : (withNewContact db accountName record).ContactsSound) :
    Saved db (withNewContact db accountName record) accountName contact record db.nextContactId := by
  refine .of_row hlisted hsound (List.mem_append_right _ (List.mem_singleton_self _)) ?_
    (Or.inr ⟨hnone, rfl, rfl⟩)
  intro s hs
  refine ⟨fun hsmem => ?_, fun hsmem => List.mem_append_left _ hsmem⟩
  rcases List.mem_append.mp hsmem with hsmem | hnew
  · exact hsmem
  · exact absurd (congrArg SyncedContactRow.id (List.mem_singleton.mp hnew)) hs

/-- What the step of a writing call makes of what the function returned. -/
theorem step_saveCall (db : Db) (accountName : String) (contact : StorageContact) (now : Int) :
    let written := (Storage.saveSyncedContact db accountName contact.e164 contact.aci contact.pni
      contact.profileKey contact.givenName contact.familyName now .quiet .quiet .quiet).value
    let after := StorageCall.step db (accountName, saveCall contact now)
    (∀ db', written = .ok db' → after.2.value = .ok .done ∧ after.1 = db') ∧
      ∀ e, written = .error e → after.2.value = .error e ∧ after.1 = db := by
  constructor
  · intro db' hwritten
    simp [StorageCall.step, saveCall, StorageCall.run, StorageCall.wrote, Sqlite.Outcome.after,
      hwritten, Except.map]
  · intro e hwritten
    simp [StorageCall.step, saveCall, StorageCall.run, StorageCall.wrote, Sqlite.Outcome.after,
      hwritten, Except.map]

/-- A call throws exactly when the contact's number is on one of the account's rows and its `aci` on
another, and saves the contact on its row otherwise. -/
theorem savedSyncedContact (hsound : db.ContactsSound) (haccount : accountName ∈ db.account)
    (contact : StorageContact) (now : Int) :
    SavesUnless (Conflicting db accountName contact) db accountName contact now := by
  obtain ⟨hok, herror⟩ := step_saveCall db accountName contact now
  have hsound' := StorageCall.step_contactsSound hsound (accountName, saveCall contact now)
  have hconflict : Conflicting db accountName contact ↔
      ¬ (Storage.clashing db accountName contact).length ≤ 1 := by
    rw [conflicting_iff, ← card_le_one_iff hsound, Storage.card_clashing]
  rcases Storage.saveSyncedContact_cases hsound haccount contact now with
    ⟨row, hrow, hle, hwritten⟩ | ⟨hnone, hwritten⟩ | ⟨hlt, e, hwritten⟩
  · obtain ⟨hanswer, hdb⟩ := hok _ hwritten
    obtain ⟨hmem, hrowAccount, -⟩ := Storage.mem_clashing.mp hrow
    refine Or.inr ⟨fun h => hconflict.mp h hle, hanswer, row.id, ?_⟩
    rw [hdb] at hsound' ⊢
    exact saved_withContactAt rfl (matched_of_mem_clashing hrow hle) hmem hrowAccount.symm hsound'
  · obtain ⟨hanswer, hdb⟩ := hok _ hwritten
    have hle : (Storage.clashing db accountName contact).length ≤ 1 := hnone ▸ Nat.zero_le 1
    refine Or.inr ⟨fun h => hconflict.mp h hle, hanswer, db.nextContactId, ?_⟩
    rw [hdb] at hsound' ⊢
    exact saved_withNewContact rfl (fun row h => List.not_mem_nil (hnone ▸ h.mem_clashing)) hsound'
  · obtain ⟨hanswer, hdb⟩ := herror e hwritten
    exact Or.inl ⟨hconflict.mpr hlt, ⟨e, hanswer⟩, hdb⟩

/-- A contact with a new number, for a person whose row has the old one. -/
theorem savedSyncedContact_moved :
    SavesUnless (Conflicting twoContacts "trunk" (keyedContact "+4930903" "aci-1")) twoContacts "trunk"
      (keyedContact "+4930903" "aci-1") 7 :=
  savedSyncedContact twoContacts_sound (by decide) _ 7

/-- The number, blank or not, is that of one of the account's rows, and the `aci`, which is not blank,
that of a different one. -/
def OnTwoRows (db : Db) (accountName : String) (contact : StorageContact) : Prop :=
  ∃ r ∈ db.syncedContact, ∃ s ∈ db.syncedContact,
    r.accountName = accountName ∧ r.contact.e164 = contact.e164 ∧
      s.accountName = accountName ∧ contact.aci ≠ "" ∧ s.contact.aci = contact.aci ∧ r ≠ s

/-- Two contacts that have no number. -/
def numberless : Db := { twoContacts with
  syncedContact := [keyedRow 1 "trunk" "" "aci-1", keyedRow 2 "trunk" "" "aci-2"] }

/-- The contact of the second row has the blank number of the first one, and is saved. -/
theorem sharedBlank_refutes :
    numberless.ContactsSound ∧ "trunk" ∈ numberless.account ∧ (keyedContact "" "aci-2").Keyed ∧
      OnTwoRows numberless "trunk" (keyedContact "" "aci-2") ∧
      ¬ SavesUnless (OnTwoRows numberless "trunk" (keyedContact "" "aci-2")) numberless "trunk"
        (keyedContact "" "aci-2") 7 := by
  have htwo : OnTwoRows numberless "trunk" (keyedContact "" "aci-2") :=
    ⟨keyedRow 1 "trunk" "" "aci-1", by decide, keyedRow 2 "trunk" "" "aci-2", by decide, by decide⟩
  have hsound : numberless.ContactsSound :=
    { ids := by decide
      range := by decide
      next := by decide
      keys := by
        show ∀ r ∈ numberless.contacts, _
        decide }
  refine ⟨hsound, by decide, by decide, htwo, ?_⟩
  rintro (⟨-, ⟨e, herror⟩, -⟩ | ⟨hno, -⟩)
  · have hanswer : (StorageCall.step numberless
        ("trunk", saveCall (keyedContact "" "aci-2") 7)).2.value = .ok .done := rfl
    rw [hanswer] at herror
    cases herror
  · exact hno htwo

end Signal2sip
