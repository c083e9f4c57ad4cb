import Signal2sip.Lib.UniqueRows
import Signal2sip.Storage.ContactIds

/-!
# What `saveSyncedContact` does to the contacts

`synced_contact` has two unique indexes of its own besides the row id: the non-empty `e164`s and the
non-empty `aci`s of one account. Two rows of an account that share one of them clash
(`SharesKey`), and a table that satisfies the indexes has no such two rows.

Read without ids and time stamps, a call of `saveSyncedContact` that meets no failure is
`UniqueRows.place` for that clash (`saveSyncedContact_place`): the contact takes the place of the
row it shares a key with, or is added; a contact that shares its `e164` with one row and its `aci`
with another violates the second index, and the call throws.
-/

namespace Signal2sip

open Sqlite (Faults)
open UniqueRows (Consistent place)

/-- A contact as the storage service lists it. -/
structure StorageContact where
  aci : String
  pni : String
  e164 : String
  profileKey : Bytes
  givenName : String
  familyName : String
deriving DecidableEq, Repr

/-- The listed fields of a cached contact: all but the time of the sync. -/
def SyncedContactRecord.listed (contact : SyncedContactRecord) : StorageContact :=
  ⟨contact.aci, contact.pni, contact.e164, contact.profileKey, contact.givenName,
    contact.familyName⟩

/-- The cached form of a listed contact. -/
def StorageContact.syncedAt (contact : StorageContact) (now : Int) : SyncedContactRecord :=
  ⟨contact.e164, contact.aci, contact.pni, contact.profileKey, contact.givenName,
    contact.familyName, now⟩

/-- A row without its id and its time stamp. -/
def SyncedContactRow.listed (row : SyncedContactRow) : String × StorageContact :=
  (row.accountName, row.contact.listed)

/-- Two contacts of one account that one of the two unique indexes forbids. -/
def SharesKey (r s : String × StorageContact) : Prop :=
  r.1 = s.1 ∧ (r.2.e164 ≠ "" ∧ r.2.e164 = s.2.e164 ∨ r.2.aci ≠ "" ∧ r.2.aci = s.2.aci)

instance : DecidableRel SharesKey := fun _ _ =>
  inferInstanceAs (Decidable (_ ∧ (_ ∧ _ ∨ _ ∧ _)))

instance : Std.Symm SharesKey where
  symm := by
    rintro _ _ ⟨haccount, ⟨hne, he⟩ | ⟨hne, ha⟩⟩
    · exact ⟨haccount.symm, Or.inl ⟨he ▸ hne, he.symm⟩⟩
    · exact ⟨haccount.symm, Or.inr ⟨ha ▸ hne, ha.symm⟩⟩

/-- A contact that shares a key with anything has one. -/
theorem SharesKey.self {r s : String × StorageContact} (h : SharesKey r s) : SharesKey r r :=
  ⟨rfl, h.2.imp (fun h => ⟨h.1, rfl⟩) fun h => ⟨h.1, rfl⟩⟩

/-- The contents of `synced_contact`, ignoring ids, time stamps and the order of the rows. -/
def Db.contacts (db : Db) : Multiset (String × StorageContact) :=
  (db.syncedContact.map SyncedContactRow.listed : List (String × StorageContact))

/-- What the engine's key and its two unique indexes keep true of `synced_contact`. -/
structure Db.ContactsSound (db : Db) : Prop where
  ids : (db.syncedContact.map (·.id)).Nodup
  range : ∀ row ∈ db.syncedContact, 0 ≤ row.id ∧ row.id < db.nextContactId
  next : 0 ≤ db.nextContactId
  keys : Consistent SharesKey db.contacts

theorem Db.ContactsSound.contactIds {db : Db} (h : db.ContactsSound) : db.ContactIds :=
  ⟨h.ids, h.range, h.next⟩

/-- Rows are told apart by their ids. -/
theorem Db.ContactsSound.eq_of_id {db : Db} (h : db.ContactsSound) {r s : SyncedContactRow}
    (hr : r ∈ db.syncedContact) (hs : s ∈ db.syncedContact) (hid : r.id = s.id) : r = s :=
  List.inj_on_of_nodup_map h.ids hr hs hid

/-- The contents after a row has been rewritten are those of the other rows and the new contact. -/
theorem contacts_withContactAt {db : Db} (hids : db.ContactIds) {row : SyncedContactRow}
    (hmem : row ∈ db.syncedContact) (record : SyncedContactRecord) :
    (withContactAt db row.id record).contacts =
      (row.accountName, record.listed) ::ₘ
        ((db.syncedContact.filter fun s => s.id ≠ row.id).map SyncedContactRow.listed : Multiset _) := by
  -- the row's id is on no other row
  have hone : (db.syncedContact.filter fun s => s.id = row.id) = [row] := by
    have hnodup : (db.syncedContact.filter fun s => s.id = row.id).Nodup :=
      (List.Nodup.of_map _ hids.nodup).filter _
    have hall : ∀ s ∈ db.syncedContact.filter (fun s => s.id = row.id), s = row := by
      intro s hs
      obtain ⟨hsmem, hsid⟩ := List.mem_filter.mp hs
      exact List.inj_on_of_nodup_map hids.nodup hsmem hmem (of_decide_eq_true hsid)
    have hin : row ∈ db.syncedContact.filter (fun s => s.id = row.id) :=
      List.mem_filter.mpr ⟨hmem, decide_eq_true rfl⟩
    rw [List.eq_replicate_of_mem hall] at hnodup hin ⊢
    have hle := List.nodup_replicate.mp hnodup
    have hpos := List.length_pos_of_mem hin
    rw [List.length_replicate] at hpos
    rw [Nat.le_antisymm hle hpos, List.replicate_one]
  have hsplit : db.syncedContact.Perm
      (row :: db.syncedContact.filter fun s => s.id ≠ row.id) := by
    have h := (List.filter_append_perm (fun s => decide (s.id = row.id)) db.syncedContact).symm
    rw [hone] at h
    simpa using h
  have hstay : (db.syncedContact.filter fun s => s.id ≠ row.id).map
      (fun s => if s.id = row.id then { s with contact := record } else s) =
        db.syncedContact.filter fun s => s.id ≠ row.id := by
    refine (List.map_congr_left (g := id) fun s hs => ?_).trans (List.map_id _)
    exact if_neg (of_decide_eq_true (List.mem_filter.mp hs).2)
  rw [Db.contacts, withContactAt, Multiset.cons_coe, Multiset.coe_eq_coe]
  refine ((hsplit.map _).map _).trans ?_
  rw [List.map_cons, List.map_cons, hstay, if_pos rfl, SyncedContactRow.listed]

namespace Storage

variable {db : Db} {accountName_ : String}

/-- The rows that a contact of the account shares a key with. -/
def clashing (db : Db) (accountName_ : String) (contact : StorageContact) : List SyncedContactRow :=
  db.syncedContact.filter fun row => SharesKey (accountName_, contact) row.listed

theorem mem_clashing {contact : StorageContact} {row : SyncedContactRow} :
    row ∈ clashing db accountName_ contact ↔
      row ∈ db.syncedContact ∧ SharesKey (accountName_, contact) row.listed := by
  simp [clashing]

theorem card_clashing (db : Db) (accountName_ : String) (contact : StorageContact) :
    (db.contacts.filter (SharesKey (accountName_, contact))).card =
      (clashing db accountName_ contact).length := by
  simp only [Db.contacts, Multiset.filter_coe, List.filter_map, Multiset.coe_card, List.length_map]
  rfl

/-- The engine finds no violation among rows that share no key with the contact. -/
theorem uniqueViolation_eq_none_iff {rows : List SyncedContactRow} {contact : SyncedContactRecord} :
    uniqueViolation accountName_ rows contact = none ↔
      ∀ row ∈ rows, ¬ SharesKey (accountName_, contact.listed) row.listed := by
  have hmine (column : SyncedContactRecord → String) (text : String) :
      ((rows.filter fun row => row.accountName = accountName_).any fun row =>
          column row.contact = text) ↔
        ∃ row ∈ rows, row.accountName = accountName_ ∧ column row.contact = text := by
    simp
  simp only [uniqueViolation, hmine (·.e164), hmine (·.aci)]
  constructor
  · rintro h row hrow ⟨haccount, ⟨hne, he⟩ | ⟨hne, ha⟩⟩
    · split at h
      · cases h
      · rw [if_pos ⟨hne, row, hrow, haccount.symm, he.symm⟩] at h
        cases h
    · rw [if_pos ⟨hne, row, hrow, haccount.symm, ha.symm⟩] at h
      cases h
  · intro h
    rw [if_neg, if_neg]
    · rintro ⟨hne, row, hrow, haccount, he⟩
      exact h row hrow ⟨haccount.symm, .inl ⟨hne, he.symm⟩⟩
    · rintro ⟨hne, row, hrow, haccount, ha⟩
      exact h row hrow ⟨haccount.symm, .inr ⟨hne, ha.symm⟩⟩

/-- The rows that one of the two finds can return, when it is made. -/
def rowsFor (db : Db) (accountName_ : String) (column : SyncedContactRecord → String)
    (text : String) : List SyncedContactRow :=
  if text ≠ "" then syncedRowsBy db accountName_ column text else []

theorem mem_rowsFor {column : SyncedContactRecord → String} {text : String}
    {row : SyncedContactRow} :
    row ∈ rowsFor db accountName_ column text ↔
      row ∈ db.syncedContact ∧ text ≠ "" ∧ row.accountName = accountName_ ∧
        column row.contact = text := by
  unfold rowsFor
  split <;> simp_all [syncedRowsBy]

/-- The rows that share a key are those that the finds can return. -/
theorem mem_clashing_iff_rowsFor {contact : StorageContact} {row : SyncedContactRow} :
    row ∈ clashing db accountName_ contact ↔
      row ∈ rowsFor db accountName_ (·.e164) contact.e164 ∨
        row ∈ rowsFor db accountName_ (·.aci) contact.aci := by
  simp only [mem_clashing, mem_rowsFor]
  constructor
  · rintro ⟨hrow, haccount, ⟨hne, he⟩ | ⟨hne, ha⟩⟩
    · exact .inl ⟨hrow, hne, haccount.symm, he.symm⟩
    · exact .inr ⟨hrow, hne, haccount.symm, ha.symm⟩
  · rintro (⟨hrow, hne, haccount, he⟩ | ⟨hrow, hne, haccount, ha⟩)
    · exact ⟨hrow, haccount.symm, .inl ⟨hne, he.symm⟩⟩
    · exact ⟨hrow, haccount.symm, .inr ⟨hne, ha.symm⟩⟩

/-- With no failure, `existingId` is the id of the first row by `e164`, else by `aci`. -/
theorem findExistingContact_quiet (hrange : ∀ row ∈ db.syncedContact, 0 ≤ row.id)
    (accountName_ e164 aci : String) :
    (findExistingContact db accountName_ e164 aci .quiet .quiet).value =
      .ok (((rowsFor db accountName_ (·.e164) e164).head?.or
        (rowsFor db accountName_ (·.aci) aci).head?).map (·.id)) := by
  have hfind (column : SyncedContactRecord → String) (text : String) :
      (findSyncedContact db accountName_ column text .quiet).value =
        .ok ((syncedRowsBy db accountName_ column text).head?.map (·.id)) := by
    simp [findSyncedContact, Except.map]
  -- the ids of rows are not negative
  have hfound (column : SyncedContactRecord → String) (text : String) :
      ((rowsFor db accountName_ column text).head?.map (·.id)).filter (0 ≤ ·) =
        (rowsFor db accountName_ column text).head?.map (·.id) := by
    cases hrow : (rowsFor db accountName_ column text).head? with
    | none => rfl
    | some row =>
      have := hrange row (mem_rowsFor.mp (List.mem_of_mem_head? hrow)).1
      simp [Option.filter, this]
  have hE : (if e164 ≠ "" then findSyncedContact db accountName_ (·.e164) e164 .quiet
      else .pure none).value = .ok ((rowsFor db accountName_ (·.e164) e164).head?.map (·.id)) := by
    unfold rowsFor
    split
    · exact hfind _ _
    · rfl
  unfold findExistingContact
  rw [Sqlite.Outcome.bind_ok_iff]
  refine ⟨_, hE, ?_⟩
  simp only [hfound]
  cases (rowsFor db accountName_ (·.e164) e164).head? with
  | some row => rfl
  | none =>
    have hA := hfound (·.aci) aci
    show (if aci ≠ "" then _ else _ : Result (Option Int)).value = _
    by_cases hne : aci = ""
    · rw [if_neg (not_not_intro hne), rowsFor, if_neg (not_not_intro hne)]
      rfl
    · rw [rowsFor, if_pos hne] at hA ⊢
      rw [if_pos hne, Sqlite.Outcome.map_value, hfind, Except.map, hA, Option.none_or]

/-- Two rows that share a key are one row. -/
theorem eq_of_sharesKey (hsound : db.ContactsSound) {r s : SyncedContactRow}
    (hr : r ∈ db.syncedContact) (hs : s ∈ db.syncedContact) (h : SharesKey r.listed s.listed) :
    r = s := by
  have hle : (clashing db r.accountName r.contact.listed).length ≤ 1 := by
    rw [← card_clashing]
    exact hsound.keys r.listed (Multiset.mem_coe.mpr (List.mem_map_of_mem hr))
  exact UniqueRows.eq_of_length_le_one hle (mem_clashing.mpr ⟨hr, h.self⟩)
    (mem_clashing.mpr ⟨hs, h⟩)

/-- The `UPDATE` is refused when another row shares a key with the contact. -/
theorem updateSyncedContact_cases (hsound : db.ContactsSound) (contact : SyncedContactRecord)
    {row : SyncedContactRow} (hrow : row ∈ clashing db accountName_ contact.listed) :
    ((clashing db accountName_ contact.listed).length ≤ 1 ∧
      updateSyncedContact db accountName_ row.id contact = .ok { db with
        syncedContact := db.syncedContact.map fun s =>
          if s.id = row.id then { s with contact := contact } else s }) ∨
    (¬ (clashing db accountName_ contact.listed).length ≤ 1 ∧
      ∃ e, updateSyncedContact db accountName_ row.id contact = .error e) := by
  have hmem := (mem_clashing.mp hrow).1
  -- the rows that clash are this one and those that the engine compares
  have hothers : uniqueViolation accountName_ (db.syncedContact.filter fun s => s.id ≠ row.id)
      contact = none ↔ ∀ s ∈ clashing db accountName_ contact.listed, s = row := by
    rw [uniqueViolation_eq_none_iff]
    constructor
    · intro h s hs
      obtain ⟨hsmem, hshares⟩ := mem_clashing.mp hs
      by_contra hne
      exact h s (List.mem_filter.mpr ⟨hsmem, by
        simpa using fun hid => hne (hsound.eq_of_id hsmem hmem hid)⟩) hshares
    · intro h s hs hshares
      obtain ⟨hsmem, hid⟩ := List.mem_filter.mp hs
      have := h s (mem_clashing.mpr ⟨hsmem, hshares⟩)
      simp [this] at hid
  have hnodup : (clashing db accountName_ contact.listed).Nodup :=
    (List.Nodup.of_map _ hsound.ids).filter _
  -- so the engine accepts the update when nothing but this row clashes
  have haccepts : uniqueViolation accountName_ (db.syncedContact.filter fun s => s.id ≠ row.id)
      contact = none ↔ (clashing db accountName_ contact.listed).length ≤ 1 := by
    rw [hothers, UniqueRows.length_le_one_iff hnodup]
    exact ⟨fun h r hr s hs => (h r hr).trans (h s hs).symm, fun h s hs => h s hs row hrow⟩
  unfold updateSyncedContact
  cases hv : uniqueViolation accountName_ (db.syncedContact.filter fun s => s.id ≠ row.id)
      contact with
  | none => exact Or.inl ⟨haccepts.mp hv, rfl⟩
  | some e =>
    refine Or.inr ⟨fun hle => ?_, e, rfl⟩
    rw [haccepts.mpr hle] at hv
    cases hv

/-- The contents but for the rows that clash with a contact. -/
theorem contacts_filter_not (db : Db) (accountName_ : String) (contact : StorageContact) :
    db.contacts.filter (¬ SharesKey (accountName_, contact) ·) =
      (db.syncedContact.filter fun row => ¬ SharesKey (accountName_, contact) row.listed).map
        SyncedContactRow.listed := by
  simp only [Db.contacts, Multiset.filter_coe, List.filter_map]
  rfl

/-- Rewriting the one row that clashes with a contact replaces it. -/
theorem contacts_update (hsound : db.ContactsSound) (contact : SyncedContactRecord)
    {row : SyncedContactRow} (hrow : row ∈ clashing db accountName_ contact.listed)
    (hle : (clashing db accountName_ contact.listed).length ≤ 1) :
    ((db.syncedContact.map fun s => if s.id = row.id then { s with contact := contact } else s).map
        SyncedContactRow.listed : Multiset (String × StorageContact)) =
      (accountName_, contact.listed) ::ₘ
        db.contacts.filter (¬ SharesKey (accountName_, contact.listed) ·) := by
  obtain ⟨hmem, hshares⟩ := mem_clashing.mp hrow
  have haccount : row.accountName = accountName_ := hshares.1.symm
  -- the rows that stay are those with other ids
  have hstay : (db.syncedContact.filter fun s => s.id ≠ row.id) =
      db.syncedContact.filter fun s => ¬ SharesKey (accountName_, contact.listed) s.listed := by
    refine List.filter_congr fun s hs => decide_eq_decide.mpr (not_congr ⟨fun hid => ?_, fun h => ?_⟩)
    · rwa [hsound.eq_of_id hs hmem hid]
    · exact congrArg (·.id) (UniqueRows.eq_of_length_le_one hle (mem_clashing.mpr ⟨hs, h⟩) hrow)
  rw [contacts_filter_not, ← hstay, ← haccount]
  exact contacts_withContactAt hsound.contactIds hmem contact

/-- What a call without failures does: it rewrites the one row that clashes with the contact, adds a
row when none does, and throws when two do. -/
theorem saveSyncedContact_cases (hsound : db.ContactsSound) (haccount : accountName_ ∈ db.account)
    (contact : StorageContact) (now : Int) :
    let written := (saveSyncedContact db accountName_ contact.e164 contact.aci contact.pni
      contact.profileKey contact.givenName contact.familyName now .quiet .quiet .quiet).value
    (∃ row ∈ clashing db accountName_ contact, (clashing db accountName_ contact).length ≤ 1 ∧
      written = .ok { db with
        syncedContact := db.syncedContact.map fun s =>
          if s.id = row.id then { s with contact := contact.syncedAt now } else s }) ∨
    (clashing db accountName_ contact = [] ∧
      written = .ok { db with
        syncedContact :=
          db.syncedContact ++ [⟨db.nextContactId, accountName_, contact.syncedAt now⟩]
        nextContactId := db.nextContactId + 1 }) ∨
    (¬ (clashing db accountName_ contact).length ≤ 1 ∧ ∃ e, written = .error e) := by
  have hfind := findExistingContact_quiet (fun row hrow => (hsound.range row hrow).1) accountName_
    contact.e164 contact.aci
  have hrows (row : SyncedContactRow) : row ∈ clashing db accountName_ contact ↔
      row ∈ rowsFor db accountName_ (·.e164) contact.e164 ∨
        row ∈ rowsFor db accountName_ (·.aci) contact.aci := mem_clashing_iff_rowsFor
  unfold saveSyncedContact
  simp only [Sqlite.Outcome.bind_value_of_ok hfind]
  cases hfound : (rowsFor db accountName_ (·.e164) contact.e164).head?.or
      (rowsFor db accountName_ (·.aci) contact.aci).head? with
  | some row =>
    have hrow : row ∈ clashing db accountName_ contact := by
      rcases Option.or_eq_some_iff.mp hfound with h | ⟨-, h⟩
      · exact (hrows row).mpr (Or.inl (List.mem_of_mem_head? h))
      · exact (hrows row).mpr (Or.inr (List.mem_of_mem_head? h))
    simp only [Option.map_some, Sqlite.execute_quiet]
    rcases updateSyncedContact_cases hsound (contact.syncedAt now) hrow with
      ⟨hle, hupdate⟩ | ⟨hlt, e, hupdate⟩
    · exact Or.inl ⟨row, hrow, hle, congrArg _ hupdate⟩
    · exact Or.inr (Or.inr ⟨hlt, _, congrArg _ hupdate⟩)
  | none =>
    obtain ⟨hE, hA⟩ := Option.or_eq_none_iff.mp hfound
    have hnone : clashing db accountName_ contact = [] := by
      apply List.eq_nil_iff_forall_not_mem.mpr
      intro row hrow
      rcases (hrows row).mp hrow with h | h
      · rw [List.head?_eq_none_iff.mp hE] at h; cases h
      · rw [List.head?_eq_none_iff.mp hA] at h; cases h
    have hviolation : uniqueViolation accountName_ db.syncedContact (contact.syncedAt now) = none :=
      uniqueViolation_eq_none_iff.mpr fun row hrow hshares =>
        List.not_mem_nil (hnone ▸ mem_clashing.mpr ⟨hrow, hshares⟩)
    refine Or.inr (Or.inl ⟨hnone, ?_⟩)
    simp only [Option.map_none, Sqlite.execute_quiet]
    show (insertSyncedContact db accountName_ (contact.syncedAt now)).mapError _ = _
    rw [insertSyncedContact, hviolation]
    simp only [if_pos haccount]
    rfl

/-- What is in the file after a call whose exception the caller catches. -/
def keptAfter (db : Db) (written : Except RuntimeError Db) : Db :=
  match written with
  | .ok db' => db'
  | .error _ => db

/-- A call without failures, its exception caught, places the contact among the others; the row ids
and the rest of the file stay sound. -/
theorem saveSyncedContact_place (hsound : db.ContactsSound) (haccount : accountName_ ∈ db.account)
    (contact : StorageContact) (now : Int) :
    let db' := keptAfter db (saveSyncedContact db accountName_ contact.e164 contact.aci contact.pni
      contact.profileKey contact.givenName contact.familyName now .quiet .quiet .quiet).value
    db'.contacts = place SharesKey db.contacts (accountName_, contact) ∧ db'.ContactsSound ∧
      db'.account = db.account := by
  have hcard := card_clashing db accountName_ contact
  rcases saveSyncedContact_cases hsound haccount contact now with
    ⟨row, hrow, hle, hwritten⟩ | ⟨hnone, hwritten⟩ | ⟨hlt, e, hwritten⟩
  · rw [hwritten]
    have hcontacts : Db.contacts { db with
        syncedContact := db.syncedContact.map fun s =>
          if s.id = row.id then { s with contact := contact.syncedAt now } else s } =
        place SharesKey db.contacts (accountName_, contact) := by
      rw [UniqueRows.place_of_le_one (hcard ▸ hle)]
      exact contacts_update hsound (contact.syncedAt now) hrow hle
    obtain ⟨hids, hrange, hnext⟩ := withContactAt_ids hsound.contactIds row.id (contact.syncedAt now)
    exact ⟨hcontacts, ⟨hids, hrange, hnext, hcontacts ▸ hsound.keys.place _⟩, rfl⟩
  · rw [hwritten]
    have hcontacts : Db.contacts { db with
        syncedContact :=
          db.syncedContact ++ [⟨db.nextContactId, accountName_, contact.syncedAt now⟩]
        nextContactId := db.nextContactId + 1 } =
        place SharesKey db.contacts (accountName_, contact) := by
      rw [hnone] at hcard
      have hstay := Multiset.filter_add_not (SharesKey (accountName_, contact)) db.contacts
      rw [Multiset.card_eq_zero.mp hcard, Multiset.zero_add] at hstay
      rw [UniqueRows.place_of_le_one (hcard.trans_le (Nat.zero_le 1)), hstay, Db.contacts,
        List.map_append, ← Multiset.coe_add, Multiset.add_comm]
      rfl
    obtain ⟨hids, hrange, hnext⟩ :=
      withNewContact_ids hsound.contactIds accountName_ (contact.syncedAt now)
    exact ⟨hcontacts, ⟨hids, hrange, hnext, hcontacts ▸ hsound.keys.place _⟩, rfl⟩
  · rw [hwritten]
    exact ⟨(UniqueRows.place_of_one_lt (hcard ▸ hlt)).symm, hsound, rfl⟩

end Storage

end Signal2sip
