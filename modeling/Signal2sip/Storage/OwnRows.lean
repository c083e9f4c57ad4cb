import Signal2sip.Lib.RowIds
import Signal2sip.Storage.Calls
import Signal2sip.Storage.ContactIds

/-!
# What one account sees of the file

Every table is keyed by `account_name`, and every statement is scoped to one. `SameRows name` says
that two files have the same rows for an account in all eight tables, ignoring the ids of
`synced_contact`. The reads of an account return the same from two such files, its writes leave two
such files (`StorageCall.run_agree`), and no call of another account changes its rows
(`StorageCall.run_frame`).

Two statements need more than the account's name in their `WHERE` clause. `saveSyncedContact` updates
by row id: that ids are unique in the table (`ContactIds`) keeps the update to the row that was
found. `knownDeviceIdsFor` matches by pattern, among the rows of the account.
-/

namespace Signal2sip

open Sqlite (Agree SameAnswer Faults Outcome firstRow execute)

/-! ## The rows of a keyed table -/

section Rows

variable {κ α : Type} {accountName : String}

/-- An entry of a table without its account's name, if it is the account's. -/
def ownEntry (accountName : String) (e : Sigma fun _ : String × κ => α) : Option (κ × α) :=
  if e.1.1 = accountName then some (e.1.2, e.2) else none

theorem rowsOf_eq (t : Table (String × κ) α) :
    rowsOf accountName t = t.entries.filterMap (ownEntry accountName) := rfl

theorem rowsOf_filterKeys_self (t : Table (String × κ) α) :
    rowsOf accountName (t.filterKeys (·.1 ≠ accountName)) = [] := by
  rw [rowsOf_eq, List.filterMap_eq_nil_iff]
  intro e he
  have hne : e.1.1 ≠ accountName := by simpa using (List.mem_filter.mp he).2
  exact if_neg hne

theorem rowsOf_filterKeys_ne {other : String} (hne : other ≠ accountName)
    (t : Table (String × κ) α) :
    rowsOf accountName (t.filterKeys (·.1 ≠ other)) = rowsOf accountName t := by
  rw [rowsOf_eq, rowsOf_eq, AList.filterKeys, List.filterMap_filter]
  apply List.filterMap_congr
  intro e _
  by_cases hname : e.1.1 = accountName
  · rw [if_pos (by simpa [hname] using fun h => hne h.symm)]
  · simp [ownEntry, hname]

variable [DecidableEq κ]

/-- A key of the account is looked up among its own rows. -/
theorem lookup_eq_rowsOf (t : Table (String × κ) α) (k : κ) :
    t.lookup (accountName, k) = (rowsOf accountName t).lookup k := by
  obtain ⟨l, hl⟩ := t
  show List.dlookup (accountName, k) l = (l.filterMap (ownEntry accountName)).lookup k
  clear hl
  induction l with
  | nil => rfl
  | cons e l ih =>
    obtain ⟨⟨name, j⟩, v⟩ := e
    by_cases hname : name = accountName
    · subst hname
      rw [List.filterMap_cons_some (by rw [ownEntry, if_pos rfl])]
      by_cases hkey : k = j
      · subst hkey
        rw [List.dlookup_cons_eq, List.lookup_cons_self]
      · rw [AList.dlookup_cons_other fun h => hkey (Prod.mk.inj h).2, ih, List.lookup_cons,
          beq_false_of_ne hkey]
    · rw [AList.dlookup_cons_other fun h => hname (Prod.mk.inj h).1.symm, ih,
        List.filterMap_cons_none (by rw [ownEntry, if_neg hname])]

/-- Inserting a row of the account replaces one of its own. -/
theorem rowsOf_insert_self (t : Table (String × κ) α) (k : κ) (v : α) :
    rowsOf accountName (t.insert (accountName, k) v) =
      (k, v) :: (rowsOf accountName t).eraseP fun e => e.1 = k := by
  rw [rowsOf_eq, AList.entries_insert, List.filterMap_cons_some (by rw [ownEntry, if_pos rfl]),
    rowsOf_eq]
  congr 1
  induction t.entries with
  | nil => rfl
  | cons e l ih =>
    obtain ⟨⟨name, j⟩, w⟩ := e
    by_cases hkey : (accountName, k) = (name, j)
    · cases hkey
      have hhead : List.kerase (accountName, k)
          ((⟨(accountName, k), w⟩ : Sigma fun _ : String × κ => α) :: l) = l :=
        List.kerase_cons_eq rfl
      rw [hhead, List.filterMap_cons_some (by rw [ownEntry, if_pos rfl]),
        List.eraseP_cons_of_pos (by simp)]
    · rw [List.kerase_cons_ne hkey]
      by_cases hname : name = accountName
      · subst hname
        have hj : j ≠ k := fun h => hkey (by rw [h])
        rw [List.filterMap_cons_some (by rw [ownEntry, if_pos rfl]),
          List.filterMap_cons_some (by rw [ownEntry, if_pos rfl]),
          List.eraseP_cons_of_neg (by simpa using hj), ih]
      · rw [List.filterMap_cons_none (by rw [ownEntry, if_neg hname]),
          List.filterMap_cons_none (by rw [ownEntry, if_neg hname]), ih]

/-- Inserting a row of another account changes none of the account's. -/
theorem rowsOf_insert_ne {other : String} (hne : other ≠ accountName) (t : Table (String × κ) α)
    (k : κ) (v : α) : rowsOf accountName (t.insert (other, k) v) = rowsOf accountName t := by
  rw [rowsOf_eq, AList.entries_insert, List.filterMap_cons_none (by rw [ownEntry, if_neg hne]),
    rowsOf_eq]
  induction t.entries with
  | nil => rfl
  | cons e l ih =>
    by_cases hkey : (other, k) = e.1
    · rw [List.kerase_cons_eq hkey, List.filterMap_cons_none (by
        rw [ownEntry, ← hkey, if_neg hne])]
    · rw [List.kerase_cons_ne hkey, List.filterMap_cons, List.filterMap_cons, ih]

end Rows

/-! ## What an account sees -/

/-- The rows of `synced_contact` that belong to an account. -/
def ownContactRows (accountName : String) (db : Db) : List SyncedContactRow :=
  db.syncedContact.filter fun row => row.accountName = accountName

/-- A write by id is made on the account's rows as on all rows. -/
theorem ownContactRows_withContactAt {accountName : String} (db : Db) (id : Int)
    (contact : SyncedContactRecord) :
    ownContactRows accountName (withContactAt db id contact) =
      (ownContactRows accountName db).map fun s =>
        if s.id = id then { s with contact := contact } else s := by
  have hown : (fun s : SyncedContactRow => decide (s.accountName = accountName)) ∘
      (fun s => if s.id = id then { s with contact := contact } else s) =
        fun s => decide (s.accountName = accountName) := by
    funext s
    simp only [Function.comp_apply]
    split <;> rfl
  rw [ownContactRows, withContactAt, List.filter_map, hown, ownContactRows]

/-- The contacts of an account, without the ids of their rows. -/
def contactsOf (accountName : String) (db : Db) : List SyncedContactRecord :=
  (ownContactRows accountName db).map (·.contact)

/-- Two files with the same rows for an account, but for the ids of `synced_contact`. -/
structure SameRows (accountName : String) (db db' : Db) : Prop where
  account : db.row accountName = db'.row accountName
  identityKeypair : rowsOf accountName db.identityKeypair = rowsOf accountName db'.identityKeypair
  signedPrekey : rowsOf accountName db.signedPrekey = rowsOf accountName db'.signedPrekey
  kyberPrekey : rowsOf accountName db.kyberPrekey = rowsOf accountName db'.kyberPrekey
  session : rowsOf accountName db.session = rowsOf accountName db'.session
  remoteIdentity : rowsOf accountName db.remoteIdentity = rowsOf accountName db'.remoteIdentity
  resolvedContact : rowsOf accountName db.resolvedContact = rowsOf accountName db'.resolvedContact
  syncedContact : contactsOf accountName db = contactsOf accountName db'

namespace SameRows

variable {accountName : String} {db db' db'' : Db}

theorem refl (accountName : String) (db : Db) : SameRows accountName db db :=
  ⟨rfl, rfl, rfl, rfl, rfl, rfl, rfl, rfl⟩

theorem trans (h : SameRows accountName db db') (h' : SameRows accountName db' db'') :
    SameRows accountName db db'' where
  account := h.account.trans h'.account
  identityKeypair := h.identityKeypair.trans h'.identityKeypair
  signedPrekey := h.signedPrekey.trans h'.signedPrekey
  kyberPrekey := h.kyberPrekey.trans h'.kyberPrekey
  session := h.session.trans h'.session
  remoteIdentity := h.remoteIdentity.trans h'.remoteIdentity
  resolvedContact := h.resolvedContact.trans h'.resolvedContact
  syncedContact := h.syncedContact.trans h'.syncedContact

/-- Whether the account has a row. -/
theorem mem_account (h : SameRows accountName db db') :
    accountName ∈ db.account ↔ accountName ∈ db'.account := by
  rw [← AList.lookup_isSome, ← AList.lookup_isSome]
  exact iff_of_eq (congrArg (fun row : Option AccountRecord => (row.isSome : Prop)) h.account)

end SameRows

/-! ## Keyed tables -/

section Keyed

variable {accountName : String} {db db' : Db} {κ α : Type} [DecidableEq κ]

/-- A keyed read sees the account's rows only. -/
theorem lookupRow_same {t t' : Table (String × κ) α}
    (ht : rowsOf accountName t = rowsOf accountName t') (k : κ) (f : Faults) :
    Storage.lookupRow t (accountName, k) f = Storage.lookupRow t' (accountName, k) f := by
  rw [Storage.lookupRow, Storage.lookupRow, lookup_eq_rowsOf, lookup_eq_rowsOf, ht]

/-- An upsert meets the same constraints and leaves the same rows. -/
theorem upsert_same (h : SameRows accountName db db') {t t' : Table (String × κ) α}
    (ht : rowsOf accountName t = rowsOf accountName t') (k : κ) (v : α) :
    SameAnswer (fun u u' => rowsOf accountName u = rowsOf accountName u')
      (upsert db accountName t (accountName, k) v) (upsert db' accountName t' (accountName, k) v) := by
  have hmem : (accountName, k) ∈ t ↔ (accountName, k) ∈ t' := by
    rw [← AList.lookup_isSome, ← AList.lookup_isSome, lookup_eq_rowsOf, lookup_eq_rowsOf, ht]
  unfold upsert
  by_cases hput : (accountName, k) ∈ t ∨ accountName ∈ db.account
  · rw [if_pos hput, if_pos ((or_congr hmem h.mem_account).mp hput)]
    exact .ok (by rw [rowsOf_insert_self, rowsOf_insert_self, ht])
  · rw [if_neg hput, if_neg fun hput' => hput ((or_congr hmem h.mem_account).mpr hput')]
    exact .error _

theorem upsertIdentity_same (h : SameRows accountName db db') {t t' : Table (String × String) α}
    (ht : rowsOf accountName t = rowsOf accountName t') (identity : String) (v : α) :
    SameAnswer (fun u u' => rowsOf accountName u = rowsOf accountName u')
      (upsertIdentity db accountName identity t v) (upsertIdentity db' accountName identity t' v) := by
  unfold upsertIdentity
  split
  · exact upsert_same h ht identity v
  · exact .error _

end Keyed

/-! ## Contacts -/

section Contacts

variable {accountName : String} {db db' : Db}

/-- The two ids are those of the rows that one and the same test finds in the two files. -/
def FoundSame (accountName : String) (db db' : Db) (id id' : Int) : Prop :=
  ∃ (p : SyncedContactRecord → Bool) (row row' : SyncedContactRow),
    (ownContactRows accountName db).find? (fun r => p r.contact) = some row ∧
      (ownContactRows accountName db').find? (fun r => p r.contact) = some row' ∧
      row.id = id ∧ row'.id = id'

/-- A test finds a row in both files or in neither, and with the same contact. -/
theorem find?_same (h : SameRows accountName db db') (p : SyncedContactRecord → Bool) :
    Option.Rel (fun row row' => row.contact = row'.contact ∧
        FoundSame accountName db db' row.id row'.id)
      ((ownContactRows accountName db).find? fun r => p r.contact)
      ((ownContactRows accountName db').find? fun r => p r.contact) := by
  have hvalue : ((ownContactRows accountName db).find? fun r => p r.contact).map (·.contact) =
      ((ownContactRows accountName db').find? fun r => p r.contact).map (·.contact) := by
    rw [RowIds.find?_map_value, RowIds.find?_map_value]
    exact congrArg (List.find? p) h.syncedContact
  cases hrow : (ownContactRows accountName db).find? fun r => p r.contact with
  | none =>
    rw [hrow] at hvalue
    rw [Option.map_eq_none_iff.mp hvalue.symm]
    exact .none
  | some row =>
    rw [hrow] at hvalue
    obtain ⟨row', hrow', hcontact⟩ := Option.map_eq_some_iff.mp hvalue.symm
    rw [hrow']
    exact .some ⟨hcontact.symm, p, row, row', hrow, hrow', rfl, rfl⟩

/-- A lookup by one of the indexed columns returns the account's first row with the text. -/
theorem head?_syncedRowsBy (column : SyncedContactRecord → String) (text : String) :
    (Storage.syncedRowsBy db accountName column text).head? =
      (ownContactRows accountName db).find? fun r => column r.contact = text := by
  rw [← List.head?_filter, ownContactRows, List.filter_filter, Storage.syncedRowsBy]
  simp only [Bool.decide_and, Bool.and_comm]

theorem syncedRowsBy_same (h : SameRows accountName db db') (column : SyncedContactRecord → String)
    (text : String) (f : Faults) :
    Agree (Option.Rel fun row row' => row.contact = row'.contact ∧
        FoundSame accountName db db' row.id row'.id)
      (firstRow prepareFailed f (Storage.syncedRowsBy db accountName column text))
      (firstRow prepareFailed f (Storage.syncedRowsBy db' accountName column text)) := by
  refine Agree.firstRow ?_ f
  rw [head?_syncedRowsBy, head?_syncedRowsBy]
  exact find?_same h fun contact => column contact = text

/-- A contact that is read by one of the indexed columns is the same. -/
theorem loadSynced_same (h : SameRows accountName db db') (column : SyncedContactRecord → String)
    (text : String) (f : Faults) :
    Agree (· = ·)
      ((firstRow prepareFailed f (Storage.syncedRowsBy db accountName column text)).map
        fun row => row.map (·.contact))
      ((firstRow prepareFailed f (Storage.syncedRowsBy db' accountName column text)).map
        fun row => row.map (·.contact)) := by
  refine Agree.map (fun row row' hrel => ?_) (syncedRowsBy_same h column text f)
  cases hrel with
  | none => rfl
  | some hrow => exact congrArg some hrow.1

theorem FoundSame.nonneg (hids : db.ContactIds) (hids' : db'.ContactIds) {id id' : Int}
    (h : FoundSame accountName db db' id id') : 0 ≤ id ∧ 0 ≤ id' := by
  obtain ⟨p, row, row', hrow, hrow', rfl, rfl⟩ := h
  exact ⟨(hids.range row (List.mem_filter.mp (List.mem_of_find?_eq_some hrow)).1).1,
    (hids'.range row' (List.mem_filter.mp (List.mem_of_find?_eq_some hrow')).1).1⟩

/-- `existingId` is the id of the same contact's row in both files, or is absent in both. -/
theorem findExistingContact_same (h : SameRows accountName db db') (hids : db.ContactIds)
    (hids' : db'.ContactIds) (e164 aci : String) (fE164 fAci : Faults) :
    Agree (Option.Rel (FoundSame accountName db db'))
      (Storage.findExistingContact db accountName e164 aci fE164 fAci)
      (Storage.findExistingContact db' accountName e164 aci fE164 fAci) := by
  have hfind (column : SyncedContactRecord → String) (text : String) (f : Faults) :
      Agree (Option.Rel (FoundSame accountName db db'))
        (Storage.findSyncedContact db accountName column text f)
        (Storage.findSyncedContact db' accountName column text f) := by
    refine Agree.map (fun row row' hrel => ?_) (syncedRowsBy_same h column text f)
    cases hrel with
    | none => exact .none
    | some hrow => exact .some hrow.2
  -- no id is negative, so what is found counts as found
  have hfound {id id' : Option Int} (hrel : Option.Rel (FoundSame accountName db db') id id') :
      Option.Rel (FoundSame accountName db db') (id.filter (0 ≤ ·)) (id'.filter (0 ≤ ·)) := by
    cases hrel with
    | none => exact .none
    | some hsame =>
      obtain ⟨hid, hid'⟩ := hsame.nonneg hids hids'
      rw [Option.filter_some_pos (by simpa using hid), Option.filter_some_pos (by simpa using hid')]
      exact .some hsame
  unfold Storage.findExistingContact
  refine Agree.bind (R := Option.Rel (FoundSame accountName db db')) (fun id id' hrel => ?_) ?_
  · have hrel' := hfound hrel
    cases hid : id.filter (0 ≤ ·) with
    | some found =>
      rw [hid] at hrel'
      cases hid' : id'.filter (0 ≤ ·) with
      | none => rw [hid'] at hrel'; cases hrel'
      | some found' =>
        rw [hid'] at hrel'
        simp only [hid, hid']
        exact .pure hrel'
    | none =>
      rw [hid] at hrel'
      cases hid' : id'.filter (0 ≤ ·) with
      | some found' => rw [hid'] at hrel'; cases hrel'
      | none =>
        simp only [hid, hid']
        split
        · exact Agree.map (fun _ _ hrel => hfound hrel) (hfind (·.aci) aci fAci)
        · exact .pure .none
  · split
    · exact hfind _ _ _
    · exact .pure .none

/-- The unique indexes look at the account's contacts only. -/
theorem uniqueViolation_same {rows rows' : List SyncedContactRow} {contact : SyncedContactRecord}
    (h : (rows.filter fun row => row.accountName = accountName).map (·.contact) =
      (rows'.filter fun row => row.accountName = accountName).map (·.contact)) :
    Storage.uniqueViolation accountName rows contact =
      Storage.uniqueViolation accountName rows' contact := by
  have hany (q : SyncedContactRecord → Bool) :
      ((rows.filter fun row => row.accountName = accountName).any fun row => q row.contact) =
        (rows'.filter fun row => row.accountName = accountName).any fun row => q row.contact := by
    rw [← Function.comp_def q, ← List.any_map, ← List.any_map, h]
  unfold Storage.uniqueViolation
  simp only [hany fun c => c.e164 = contact.e164, hany fun c => c.aci = contact.aci]

/-- The write by id replaces one contact of the account, the same in both files. -/
theorem updateSyncedContact_same (h : SameRows accountName db db') (hids : db.ContactIds)
    (hids' : db'.ContactIds) {id id' : Int} (hfound : FoundSame accountName db db' id id')
    (contact : SyncedContactRecord) :
    SameAnswer (SameRows accountName) (Storage.updateSyncedContact db accountName id contact)
      (Storage.updateSyncedContact db' accountName id' contact) := by
  obtain ⟨p, row, row', hrow, hrow', rfl, rfl⟩ := hfound
  have hnodup (d : Db) (hd : d.ContactIds) : ((ownContactRows accountName d).map (·.id)).Nodup :=
    hd.nodup.sublist (List.filter_sublist.map _)
  -- the rows that the unique indexes compare with
  have hothers (d : Db) (hd : d.ContactIds) (r : SyncedContactRow)
      (hr : (ownContactRows accountName d).find? (fun r => p r.contact) = some r) :
      ((d.syncedContact.filter fun s => s.id ≠ r.id).filter
        fun s => s.accountName = accountName).map (·.contact) =
        (contactsOf accountName d).eraseP p := by
    rw [List.filter_comm]
    exact RowIds.map_value_filter_ne (hnodup d hd) hr
  -- and the rows that the update leaves
  have hupdated (d : Db) (hd : d.ContactIds) (r : SyncedContactRow)
      (hr : (ownContactRows accountName d).find? (fun r => p r.contact) = some r) :
      contactsOf accountName (withContactAt d r.id contact) =
        RowIds.replaceFirst p contact (contactsOf accountName d) := by
    rw [contactsOf, ownContactRows_withContactAt]
    exact RowIds.map_value_update (hnodup d hd) hr fun _ => rfl
  have hviolation : Storage.uniqueViolation accountName _ contact =
      Storage.uniqueViolation accountName _ contact := uniqueViolation_same
    ((hothers db hids row hrow).trans
      ((congrArg (List.eraseP p) h.syncedContact).trans (hothers db' hids' row' hrow').symm))
  unfold Storage.updateSyncedContact
  rw [hviolation]
  split
  · exact .error _
  · refine .ok { h with syncedContact := ?_ }
    exact (hupdated db hids row hrow).trans
      ((congrArg (RowIds.replaceFirst p contact) h.syncedContact).trans
        (hupdated db' hids' row' hrow').symm)

/-- A new contact is the account's last in both files. -/
theorem insertSyncedContact_same (h : SameRows accountName db db') (contact : SyncedContactRecord) :
    SameAnswer (SameRows accountName) (Storage.insertSyncedContact db accountName contact)
      (Storage.insertSyncedContact db' accountName contact) := by
  unfold Storage.insertSyncedContact
  have hviolation : Storage.uniqueViolation accountName db.syncedContact contact =
      Storage.uniqueViolation accountName db'.syncedContact contact :=
    uniqueViolation_same h.syncedContact
  rw [hviolation]
  split
  · exact .error _
  · by_cases hmem : accountName ∈ db.account
    · rw [if_pos hmem, if_pos (h.mem_account.mp hmem)]
      refine .ok { h with syncedContact := ?_ }
      simp only [contactsOf, ownContactRows, List.filter_append, List.map_append]
      exact congrArg₂ _ h.syncedContact (by simp)
    · rw [if_neg hmem, if_neg fun hmem' => hmem (h.mem_account.mpr hmem')]
      exact .error _

theorem saveSyncedContact_same (h : SameRows accountName db db') (hids : db.ContactIds)
    (hids' : db'.ContactIds) (e164 aci pni : String) (profileKey : Bytes)
    (givenName familyName : String) (now : Int) (fE164 fAci fWrite : Faults) :
    Agree (SameRows accountName)
      (Storage.saveSyncedContact db accountName e164 aci pni profileKey givenName familyName now
        fE164 fAci fWrite)
      (Storage.saveSyncedContact db' accountName e164 aci pni profileKey givenName familyName now
        fE164 fAci fWrite) := by
  refine Agree.bind (fun id id' hrel => ?_)
    (findExistingContact_same h hids hids' e164 aci fE164 fAci)
  cases hrel with
  | none => exact Agree.execute (insertSyncedContact_same h _) fWrite
  | some hfound => exact Agree.execute (updateSyncedContact_same h hids hids' hfound _) fWrite

end Contacts

/-! ## Removing an account -/

section Delete

variable {accountName other : String} {db db' : Db}

theorem row_erase_ne (hne : other ≠ accountName) :
    Db.row { db with account := db.account.erase other } accountName = db.row accountName :=
  AList.lookup_erase_ne hne.symm

/-- A delete of the account's rows empties the table of them in both files. -/
theorem deleteFrom_same (h : SameRows accountName db db') (t : Storage.TableName) :
    SameRows accountName (Storage.deleteFrom db accountName t)
      (Storage.deleteFrom db' accountName t) := by
  have hnone {α : Type} (t t' : Table (String × String) α) :
      rowsOf accountName (t.filterKeys (·.1 ≠ accountName)) =
        rowsOf accountName (t'.filterKeys (·.1 ≠ accountName)) := by
    rw [rowsOf_filterKeys_self, rowsOf_filterKeys_self]
  cases t with
  | identityKeypair => exact { h with identityKeypair := hnone _ _ }
  | signedPrekey => exact { h with signedPrekey := hnone _ _ }
  | kyberPrekey => exact { h with kyberPrekey := hnone _ _ }
  | session => exact { h with session := hnone _ _ }
  | remoteIdentity => exact { h with remoteIdentity := hnone _ _ }
  | resolvedContact => exact { h with resolvedContact := hnone _ _ }
  | syncedContact =>
    have hempty (d : Db) : contactsOf accountName (Storage.deleteFrom d accountName .syncedContact) =
        [] := by
      simp [contactsOf, ownContactRows, Storage.deleteFrom, List.filter_filter]
    exact { h with syncedContact := (hempty db).trans (hempty db').symm }
  | account =>
    have hgone (d : Db) : (Storage.deleteFrom d accountName .account).row accountName = none :=
      AList.lookup_erase accountName d.account
    exact { h with account := (hgone db).trans (hgone db').symm }

/-- A delete of another account's rows leaves the account's. -/
theorem deleteFrom_frame (hne : other ≠ accountName) (db : Db) (t : Storage.TableName) :
    SameRows accountName (Storage.deleteFrom db other t) db := by
  have h := SameRows.refl accountName db
  cases t with
  | identityKeypair => exact { h with identityKeypair := rowsOf_filterKeys_ne hne _ }
  | signedPrekey => exact { h with signedPrekey := rowsOf_filterKeys_ne hne _ }
  | kyberPrekey => exact { h with kyberPrekey := rowsOf_filterKeys_ne hne _ }
  | session => exact { h with session := rowsOf_filterKeys_ne hne _ }
  | remoteIdentity => exact { h with remoteIdentity := rowsOf_filterKeys_ne hne _ }
  | resolvedContact => exact { h with resolvedContact := rowsOf_filterKeys_ne hne _ }
  | syncedContact =>
    refine { h with syncedContact := ?_ }
    simp only [contactsOf, ownContactRows, Storage.deleteFrom, List.filter_filter]
    congr 1
    apply List.filter_congr
    intro row _
    by_cases hrow : row.accountName = accountName
    · simpa [hrow] using fun heq => hne heq.symm
    · simp [hrow]
  | account => exact { h with account := row_erase_ne hne }

/-- A delete leaves a part of the contacts, and the counter of their ids. -/
theorem deleteFrom_contacts (db : Db) (t : Storage.TableName) :
    (Storage.deleteFrom db other t).syncedContact.Sublist db.syncedContact ∧
      (Storage.deleteFrom db other t).nextContactId = db.nextContactId := by
  cases t with
  | syncedContact => exact ⟨List.filter_sublist, rfl⟩
  | _ => exact ⟨List.Sublist.refl _, rfl⟩

theorem deleteTables_same (h : SameRows accountName db db') (f : Storage.TableName → Faults)
    (ts : List Storage.TableName) :
    Agree (SameRows accountName) (Storage.deleteTables accountName f db ts)
      (Storage.deleteTables accountName f db' ts) := by
  induction ts generalizing db db' with
  | nil => exact .pure h
  | cons t ts ih =>
    exact Agree.bind (fun _ _ hrows => ih hrows) (Agree.execute (.ok (deleteFrom_same h t)) (f t))

/-- What each delete of the transaction keeps, the transaction keeps. -/
theorem deleteTables_induction {P : Db → Prop} (hP : ∀ db t, P db → P (Storage.deleteFrom db other t))
    {f : Storage.TableName → Faults} {ts : List Storage.TableName} (hdb : P db)
    (h : (Storage.deleteTables other f db ts).value = .ok db') : P db' := by
  obtain ⟨-, rfl⟩ := Storage.deleteTables_ok_iff.mp h
  exact List.foldlRecOn ts _ hdb fun d hd t _ => hP d t hd

theorem deleteAccount_same (h : SameRows accountName db db') (beginFault : Option Sqlite.Error)
    (f : Storage.TableName → Faults) (commitFault : Option Sqlite.Error) :
    Agree (SameRows accountName) (Storage.deleteAccount db accountName beginFault f commitFault)
      (Storage.deleteAccount db' accountName beginFault f commitFault) := by
  unfold Storage.deleteAccount
  cases beginFault with
  | some e => exact .throw _
  | none =>
    refine Agree.bind (fun db db' hrows => ?_) (deleteTables_same h f Storage.kTables)
    cases commitFault with
    | some e => exact .throw _
    | none => exact .pure hrows

theorem deleteAccount_induction {P : Db → Prop}
    (hP : ∀ db t, P db → P (Storage.deleteFrom db other t)) {beginFault : Option Sqlite.Error}
    {f : Storage.TableName → Faults} {commitFault : Option Sqlite.Error} (hdb : P db)
    (h : (Storage.deleteAccount db other beginFault f commitFault).value = .ok db') : P db' := by
  unfold Storage.deleteAccount at h
  cases beginFault with
  | some e => cases h
  | none =>
    obtain ⟨db₁, hdelete, hcommit⟩ := Outcome.bind_ok_iff.mp h
    cases commitFault with
    | some e => cases hcommit
    | none =>
      cases hcommit
      exact deleteTables_induction hP hdb hdelete

end Delete

/-! ## Writing a contact -/

section Write

variable {accountName other : String} {db db' : Db}

/-- What is found is the id of a row of the account. -/
theorem findSyncedContact_mem {column : SyncedContactRecord → String} {text : String} {f : Faults}
    {id : Int} (h : (Storage.findSyncedContact db other column text f).value = .ok (some id)) :
    ∃ row ∈ ownContactRows other db, row.id = id := by
  rw [Storage.findSyncedContact, Outcome.map_value] at h
  cases hfirst : (firstRow prepareFailed f (Storage.syncedRowsBy db other column text)).value with
  | error e => rw [hfirst] at h; cases h
  | ok row =>
    rw [hfirst] at h
    obtain ⟨-, hrow⟩ := Sqlite.firstRow_ok_iff.mp hfirst
    obtain ⟨row, rfl, rfl⟩ := Option.map_eq_some_iff.mp (Except.ok.inj h)
    split at hrow
    · rw [head?_syncedRowsBy] at hrow
      exact ⟨row, List.mem_of_find?_eq_some hrow.symm, rfl⟩
    · cases hrow

theorem findExistingContact_mem {e164 aci : String} {fE164 fAci : Faults} {id : Int}
    (h : (Storage.findExistingContact db other e164 aci fE164 fAci).value = .ok (some id)) :
    ∃ row ∈ ownContactRows other db, row.id = id := by
  obtain ⟨existing, hE164, hrest⟩ := Outcome.bind_ok_iff.mp h
  cases hexisting : existing.filter (0 ≤ ·) with
  | some found =>
    simp only [hexisting] at hrest
    cases hrest
    obtain ⟨rfl, -⟩ := Option.filter_eq_some_iff.mp hexisting
    split at hE164
    · exact findSyncedContact_mem hE164
    · cases hE164
  | none =>
    simp only [hexisting] at hrest
    split at hrest
    · cases hfind : (Storage.findSyncedContact db other (·.aci) aci fAci).value with
      | error e => rw [Outcome.map_value, hfind] at hrest; cases hrest
      | ok found =>
        rw [Outcome.map_value, hfind] at hrest
        obtain ⟨rfl, -⟩ := Option.filter_eq_some_iff.mp (Except.ok.inj hrest)
        exact findSyncedContact_mem hfind
    · cases hrest

/-- A contact of an account was written: over a row of its own, or added. The engine has compared it
with the rows it stands beside. -/
inductive ContactWritten (other : String) (contact : SyncedContactRecord) (db db' : Db) : Prop
  | updated (row : SyncedContactRow) (hrow : row ∈ ownContactRows other db)
      (haccepted : Storage.uniqueViolation other
        (db.syncedContact.filter fun s => s.id ≠ row.id) contact = none)
      (hdb : db' = withContactAt db row.id contact)
  | added (haccepted : Storage.uniqueViolation other db.syncedContact contact = none)
      (hdb : db' = withNewContact db other contact)

/-- A call that returns has rewritten a row of its own account, or added one. -/
theorem saveSyncedContact_ok {e164 aci pni : String} {profileKey : Bytes}
    {givenName familyName : String} {now : Int} {fE164 fAci fWrite : Faults}
    (h : (Storage.saveSyncedContact db other e164 aci pni profileKey givenName familyName now
      fE164 fAci fWrite).value = .ok db') :
    ContactWritten other ⟨e164, aci, pni, profileKey, givenName, familyName, now⟩ db db' := by
  obtain ⟨existing, hfind, hwrite⟩ := Outcome.bind_ok_iff.mp h
  cases existing with
  | some id =>
    obtain ⟨row, hrow, rfl⟩ := findExistingContact_mem hfind
    obtain ⟨-, -, heffect⟩ := Sqlite.execute_ok_iff.mp hwrite
    unfold Storage.updateSyncedContact at heffect
    split at heffect
    · cases heffect
    · next haccepted =>
      exact .updated row hrow haccepted (Except.ok.inj heffect).symm
  | none =>
    obtain ⟨-, -, heffect⟩ := Sqlite.execute_ok_iff.mp hwrite
    unfold Storage.insertSyncedContact at heffect
    split at heffect
    · cases heffect
    · next haccepted =>
      split at heffect
      · exact .added haccepted (Except.ok.inj heffect).symm
      · cases heffect

/-- Rewriting another account's row leaves the account's contacts: its rows have other ids. -/
theorem withContactAt_frame (hne : other ≠ accountName) (hids : db.ContactIds)
    {row : SyncedContactRow} (hrow : row ∈ ownContactRows other db) (contact : SyncedContactRecord) :
    SameRows accountName (withContactAt db row.id contact) db := by
  refine { SameRows.refl accountName db with syncedContact := ?_ }
  obtain ⟨hmem, hother⟩ := List.mem_filter.mp hrow
  have hrows : (withContactAt db row.id contact).syncedContact.filter
      (fun s => s.accountName = accountName) = ownContactRows accountName db := by
    refine (ownContactRows_withContactAt db row.id contact).trans ?_
    refine (List.map_congr_left fun s hs => if_neg fun hid => ?_).trans (List.map_id _)
    obtain ⟨hsmem, hsown⟩ := List.mem_filter.mp hs
    have heq : s = row := List.inj_on_of_nodup_map hids.nodup hsmem hmem hid
    exact hne ((of_decide_eq_true hother).symm.trans (heq ▸ of_decide_eq_true hsown))
  rw [contactsOf, ownContactRows, hrows, contactsOf]

theorem withNewContact_frame (hne : other ≠ accountName) (db : Db) (contact : SyncedContactRecord) :
    SameRows accountName (withNewContact db other contact) db := by
  refine { SameRows.refl accountName db with syncedContact := ?_ }
  simp [contactsOf, ownContactRows, withNewContact, hne]

end Write

end Signal2sip
