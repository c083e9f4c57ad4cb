import Signal2sip.Laws.MigrationStages

/-!
# The copy of the old contacts

The original `synced_contact` allows one `aci` under two numbers of an account; the current one has a
unique index that does not. Opening a file of the older version therefore copies its contacts exactly
when no account has an `aci` twice. Otherwise the copy is refused and the open throws, and so does every
later one.
-/

namespace Signal2sip

open Migration (Engine)

/-- The open succeeded, the temporary table is gone, and `synced_contact` has one row for each old one,
with empty names. -/
def OriginalFile.Migrated (o : OriginalFile) (opened : DatabaseFile × OpeningClient) : Prop :=
  opened.2.Finished ∧ opened.1.syncedContactOldPkMigration = none ∧
    ∃ t rows sequence, opened.1.syncedContact = some t ∧ t.contacts = .current rows sequence ∧
      (rows.map (·.old)).Perm o.contacts ∧
      ∀ row ∈ rows, row.contact.givenName = "" ∧ row.contact.familyName = ""

namespace OriginalFile

/-- The last stage has no temporary table, and the copied one. -/
theorem tables_last (o : OriginalFile) :
    (o.stage openStatements.length).syncedContact = some o.copiedTable ∧
      (o.stage openStatements.length).syncedContactOldPkMigration = none :=
  Prod.mk.inj (o.at_stage (Nat.le_refl _)).contacts

/-- A finished open at the last stage has migrated the contacts. -/
theorem migrated_last (o : OriginalFile) (haci : o.AciUnique) (opened : DatabaseFile × OpeningClient)
    (hstage : opened.1 = o.stage openStatements.length) (hfinished : opened.2.Finished) :
    o.Migrated opened := by
  obtain ⟨hnew, hold⟩ := o.tables_last
  refine ⟨hfinished, hstage ▸ hold, o.copiedTable, SyncedContactTable.numbered 0 o.contacts,
    o.contacts.length, hstage ▸ hnew, ?_, ?_, SyncedContactTable.numbered_names⟩
  · rw [copiedTable, dif_pos haci]
  · rw [SyncedContactTable.numbered_old]

/-- What is copied when the copy is refused is nothing. -/
theorem aciUnique_of_migrated_last (o : OriginalFile) (opened : DatabaseFile × OpeningClient)
    (hstage : opened.1 = o.stage openStatements.length) (h : o.Migrated opened) : o.AciUnique := by
  obtain ⟨-, -, t, rows, sequence, hnew, hcurrent, hrows, -⟩ := h
  by_contra haci
  have htable := o.tables_last.1
  rw [← hstage, hnew, copiedTable, dif_neg haci] at htable
  cases htable
  cases hcurrent
  have hnothing : o.contacts = [] := List.nil_perm.mp hrows
  refine haci ?_
  rw [AciUnique, hnothing]
  decide

theorem migrated_of_aciUnique (o : OriginalFile) (haci : o.AciUnique) (opener : Opener) :
    o.Migrated (opener.open o.file) := by
  rcases o.open_file opener with ⟨hstage, hfinished⟩ | ⟨-, hstuck⟩
  · exact o.migrated_last haci _ hstage hfinished
  · exact absurd (o.proceeds_open haci) hstuck

theorem aciUnique_of_migrated (o : OriginalFile) (opener : Opener)
    (h : o.Migrated (opener.open o.file)) : o.AciUnique := by
  rcases o.open_file opener with ⟨hstage, -⟩ | ⟨hfailed, -⟩
  · exact o.aciUnique_of_migrated_last _ hstage h
  · exact absurd hfailed (Migration.Client.Finished.not_failed h.1)

end OriginalFile

/-- For every file of the older version, whatever contacts and columns it has: either function that
opens it succeeds and copies every contact, if and only if no account has one `aci` under two
numbers. -/
theorem contacts_migrated_iff (opener : Opener) (o : OriginalFile) :
    o.Migrated (opener.open o.file) ↔ o.AciUnique :=
  ⟨o.aciUnique_of_migrated opener, fun haci => o.migrated_of_aciUnique haci opener⟩

/-- The one row of an `account` that has no configuration columns yet. -/
theorem aligned_alice :
    ∀ row ∈ [("alice", ([] : List SqlValue))], row.2.length = ([] : List ConfigColumn).length := by
  decide

/-- A contact that changed its number is in the old table twice. -/
def changedNumber : OriginalFile where
  account := some ⟨[], [("alice", [])], aligned_alice⟩
  others := []
  contacts := [⟨"alice", "+1", "aci", "", [], 0⟩, ⟨"alice", "+2", "aci", "", [], 0⟩]
  primaryKey := by decide
  references := by decide

theorem changed_number_is_not_migrated :
    ¬ changedNumber.Migrated (Opener.storage.open changedNumber.file) := by
  intro h
  exact absurd (changedNumber.aciUnique_of_migrated .storage h) (by decide)

end Signal2sip
