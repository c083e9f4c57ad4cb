import Signal2sip.Storage.Storage

/-!
# The ids of `synced_contact`

The one table with a key of its own that the program does not choose. A contact is rewritten by the
id of its row, and an added one gets the next id: ids stay unique, and none is used twice.
-/

namespace Signal2sip

variable {db : Db}

/-- The primary key of `synced_contact`, and `AUTOINCREMENT`. -/
structure Db.ContactIds (db : Db) : Prop where
  nodup : (db.syncedContact.map (·.id)).Nodup
  range : ∀ row ∈ db.syncedContact, 0 ≤ row.id ∧ row.id < db.nextContactId
  next : 0 ≤ db.nextContactId

/-- Deleting rows keeps the ids of the others. -/
theorem Db.ContactIds.sublist {db' : Db} (hids : db.ContactIds)
    (hrows : db'.syncedContact.Sublist db.syncedContact)
    (hnext : db'.nextContactId = db.nextContactId) : db'.ContactIds :=
  ⟨hids.nodup.sublist (hrows.map _), fun row hrow => hnext ▸ hids.range row (hrows.subset hrow),
    hnext ▸ hids.next⟩

/-- The file with one contact rewritten by row id. -/
def withContactAt (db : Db) (id : Int) (contact : SyncedContactRecord) : Db :=
  { db with
    syncedContact := db.syncedContact.map fun s =>
      if s.id = id then { s with contact := contact } else s }

/-- The file with one contact added. -/
def withNewContact (db : Db) (accountName : String) (contact : SyncedContactRecord) : Db :=
  { db with
    syncedContact := db.syncedContact ++ [⟨db.nextContactId, accountName, contact⟩]
    nextContactId := db.nextContactId + 1 }

theorem withContactAt_ids (hids : db.ContactIds) (id : Int) (contact : SyncedContactRecord) :
    (withContactAt db id contact).ContactIds := by
  have hid (s : SyncedContactRow) :
      (if s.id = id then { s with contact := contact } else s).id = s.id := by
    split <;> rfl
  refine ⟨?_, ?_, hids.next⟩
  · simpa only [withContactAt, List.map_map, Function.comp_def, hid] using hids.nodup
  · simp only [withContactAt, List.forall_mem_map, hid]
    exact hids.range

/-- A new row's id is larger than every id in use. -/
theorem withNewContact_ids (hids : db.ContactIds) (accountName : String)
    (contact : SyncedContactRecord) : (withNewContact db accountName contact).ContactIds := by
  refine ⟨?_, ?_, Int.add_nonneg hids.next (by decide)⟩
  · simp only [withNewContact, List.map_append, List.map_cons, List.map_nil]
    refine List.nodup_append.mpr ⟨hids.nodup, List.nodup_singleton _, fun id hid id' hid' => ?_⟩
    obtain ⟨row, hrow, rfl⟩ := List.mem_map.mp hid
    rw [List.mem_singleton.mp hid']
    exact (hids.range row hrow).2.ne
  · intro row hrow
    rcases List.mem_append.mp hrow with hrow | hrow
    · obtain ⟨hnonneg, hlt⟩ := hids.range row hrow
      exact ⟨hnonneg, hlt.trans (Int.lt_succ _)⟩
    · rw [List.mem_singleton.mp hrow]
      exact ⟨hids.next, Int.lt_succ _⟩

end Signal2sip
