import Mathlib.Data.List.Nodup
import Signal2sip.Laws.MigratedContacts

/-!
# Opens that are killed

Each statement of the open sequence commits by itself, so a process that is killed leaves the file as
its last statement made it. The next open finds out by itself where to go on, from every place but one:
after the copy of the contacts and before the temporary table is dropped. There the file has the old
contacts twice, and nothing tells the next open that the copy was made. It copies again: the unique
indexes refuse a contact that has a number or an `aci`, and then every open throws; a contact with
neither gets a second row.

- `killed_settled`: a kill anywhere else leaves a stage from which an open ends at the last one;
- `killed_scarred`: a kill there leaves an old contact in both tables, and every later step of any open
  keeps it there or doubles it.
-/

namespace Signal2sip

open Migration (Engine Client Behind Knows)

/-! ## Kills -/

/-- A process that opens the file, and how many steps it takes before it is killed. -/
abbrev Kill := Opener × Nat

/-- The process as the kill finds it, with the file. -/
def Kill.found (file : DatabaseFile) (kill : Kill) : DatabaseFile × OpeningClient :=
  sqlite.play kill.2 (file, .begin kill.1.steps)

/-- What a killed process leaves. -/
def killed (file : DatabaseFile) (kill : Kill) : DatabaseFile := (kill.found file).1

/-- The kill does not come between the copy of the contacts and the `DROP` after it. -/
def Kill.Harmless (file : DatabaseFile) (kill : Kill) : Prop :=
  (kill.found file).2.next ≠ some .dropOldPkMigration

instance (file : DatabaseFile) (kill : Kill) : Decidable (kill.Harmless file) :=
  inferInstanceAs (Decidable (_ ≠ _))

/-- The rows of the temporary table. -/
def DatabaseFile.oldRows (file : DatabaseFile) : List OldSyncedContactRow :=
  (file.syncedContactOldPkMigration.map (·.contacts.old)).getD []

/-- The tables, columns and indexes of the current schema. -/
structure DatabaseFile.CurrentSchema (file : DatabaseFile) : Prop where
  columns : ∀ column, column ∈ file.configColumns
  tables : ∀ table, table ∈ file.others
  indexes : ∃ t, file.syncedContact = some t ∧ ∀ index, index ∈ t.indexes

/-- A file of the older version whose contacts the indexes of the current one accept. -/
structure IndexedFile extends OriginalFile where
  aciUnique : toOriginalFile.AciUnique

/-- The open succeeded and has made a file of the current version, with every old contact in it
once. -/
def IndexedFile.Survives (o : IndexedFile) (opened : DatabaseFile × OpeningClient) : Prop :=
  o.Migrated opened ∧ opened.1.CurrentSchema

/-! ## Kills that the next open mends -/

theorem ConfigColumn.mem_added (column : ConfigColumn) : .addColumn column ∈ openStatements := by
  cases column <;> decide

theorem OtherTable.mem_created (table : OtherTable) : .createTable table ∈ openStatements := by
  cases table <;> decide

/-- Only the copy's step has the `DROP`, as its second statement. -/
theorem drop_next {opener : Opener} {step : MigrationStep} (hstep : step ∈ opener.steps) {ran : Nat}
    (h : step.statements[ran]? = some .dropOldPkMigration) :
    step = copyOldSyncedContactDataIfPresent ∧ ran = 1 := by
  have hmem := List.mem_of_getElem? h
  rcases mem_steps hstep with rfl | ⟨sql, hsql, -, hone⟩ | rfl | ⟨column, rfl⟩
  · exact absurd hmem (by decide)
  · rw [hone, List.mem_singleton] at hmem
    exact absurd (hmem ▸ hsql) (by decide)
  · refine ⟨rfl, ?_⟩
    match ran, h with
    | 1, _ => rfl
    | 0, h => cases h
    | ran + 2, h => cases h
  · exact absurd (List.mem_singleton.mp hmem) nofun

/-- The only place inside a step is the one before the `DROP`. -/
theorem inside_next {opener : Opener} {steps : List MigrationStep} {checked ran : Nat}
    (hcode : steps <:+ opener.steps) {file : DatabaseFile}
    (hknows : Knows sqlite MigrationSql.Fresh DatabaseFile.Settled file steps checked ran)
    (hinside : (Client.running steps checked ran).Inside) :
    (Client.running steps checked ran).next = some MigrationSql.dropOldPkMigration := by
  cases steps with
  | nil => cases hinside
  | cons step rest =>
    obtain ⟨hran, hlt⟩ := hinside
    obtain ⟨ran, rfl⟩ := Nat.exists_eq_succ_of_ne_zero (Nat.ne_of_gt hran)
    have hchecked : step.checks.length ≤ checked := hknows.1
    rcases mem_steps (hcode.subset List.mem_cons_self) with
      rfl | ⟨sql, -, -, hone⟩ | rfl | ⟨column, rfl⟩
    · exact absurd hlt (Nat.not_lt_of_le (Nat.le_add_left 1 ran))
    · rw [hone] at hlt
      exact absurd hlt (Nat.not_lt_of_le (Nat.le_add_left 1 ran))
    · have hfirst : ran = 0 := Nat.lt_one_iff.mp (Nat.lt_of_succ_lt_succ hlt)
      subst hfirst
      rw [Client.next, if_neg (Nat.not_lt_of_le hchecked)]
      rfl
    · exact absurd hlt (Nat.not_lt_of_le (Nat.le_add_left 1 ran))

namespace OriginalFile

theorem currentSchema_last (o : OriginalFile) : (o.stage openStatements.length).CurrentSchema := by
  have hat := o.at_stage (Nat.le_refl _)
  have hall : openStatements.take openStatements.length = openStatements := List.take_length
  refine ⟨fun column => hat.columns column ?_, fun table => hat.tables table ?_, o.copiedTable,
    o.tables_last.1, fun index => ?_⟩
  · rw [hall]
    exact column.mem_added
  · rw [hall]
    exact table.mem_created
  · rw [copiedTable_indexes]
    cases index <;> decide

/-- Where there are no contacts, none are in both tables. -/
theorem settled_of_nothing (o : OriginalFile) (h : o.contacts = []) {k : Nat}
    (hk : k ≤ openStatements.length) : (o.stage k).Settled := by
  intro _
  have hnew := congrArg Prod.fst (o.at_stage hk).contacts
  simp only at hnew
  rw [DatabaseFile.contactRows, hnew]
  have hcopied : o.copiedTable.contacts.old = [] := by
    rw [copiedTable_old o (by rw [AciUnique, h]; decide), h]
  rcases contactsRan k with _ | _ | _ | _ | _ | _ | ran
  · exact h
  -- the table is being made again
  · rfl
  · rfl
  · rfl
  · rfl
  -- the old rows are copied
  · exact hcopied
  · exact hcopied

/-- The file is at a stage from which an open goes on. -/
def AtSettled (o : OriginalFile) (file : DatabaseFile) : Prop :=
  ∃ k, k ≤ openStatements.length ∧ file = o.stage k ∧ file.Settled

theorem atSettled_file (o : OriginalFile) : o.AtSettled o.file :=
  ⟨0, Nat.zero_le _, rfl, o.settled_file⟩

/-- A killed process leaves a stage, and knew which. -/
theorem killed_stage (o : OriginalFile) (haci : o.AciUnique) {file : DatabaseFile}
    (h : o.AtSettled file) (kill : Kill) :
    ∃ k steps checked ran, k ≤ openStatements.length ∧
      kill.found file = (o.stage k, .running steps checked ran) ∧
      Behind Opener.steps openStatements k steps checked ran ∧
      Knows sqlite MigrationSql.Fresh DatabaseFile.Settled (o.stage k) steps checked ran := by
  obtain ⟨k, hk, rfl, hsettled⟩ := h
  exact Migration.killed_of_settled o.sound_open reliable_open (o.proceeds_open haci) hk hsettled
    kill.1 kill.2

theorem killed_settled (o : OriginalFile) (haci : o.AciUnique) {file : DatabaseFile} {kill : Kill}
    (h : o.AtSettled file) (hkill : o.contacts = [] ∨ kill.Harmless file) :
    o.AtSettled (killed file kill) := by
  obtain ⟨k, steps, checked, ran, hk, hfound, hbehind, hknows⟩ := o.killed_stage haci h kill
  rw [killed, hfound]
  refine ⟨k, hk, rfl, ?_⟩
  rcases hkill with hnothing | hharmless
  · exact o.settled_of_nothing hnothing hk
  · refine Migration.knows_settled hknows fun hinside => hharmless ?_
    obtain ⟨opener, hcode⟩ := hbehind.ofCode
    rw [hfound]
    exact inside_next hcode hknows hinside

end OriginalFile

/-- After kills that are all harmless, the next open succeeds. -/
theorem IndexedFile.survives_of_harmless (o : IndexedFile) {kills : List Kill} (opener : Opener)
    (h : o.contacts = [] ∨ Runs.Along killed (fun file kill => kill.Harmless file) o.file kills) :
    o.Survives (opener.open (Runs.final killed o.file kills)) := by
  have halong : Runs.Along killed (fun file kill => o.contacts = [] ∨ Kill.Harmless file kill)
      o.file kills := by
    rcases h with hnothing | hharmless
    · exact Runs.along_iff_forall_prefix.mpr fun _ _ _ _ => .inl hnothing
    · exact Runs.Along.imp_of_inv (I := fun _ => True) (fun _ _ _ _ => trivial)
        (fun _ _ _ hkill => .inr hkill) trivial hharmless
  have hend : o.AtSettled (Runs.final killed o.file kills) :=
    (Runs.Always.of_along (fun _ _ hsettled hkill => o.killed_settled o.aciUnique hsettled hkill)
      o.atSettled_file halong).last
  obtain ⟨k, hk, hstage, hsettled⟩ := hend
  rw [hstage] at hsettled ⊢
  rcases o.open_stage hk hsettled opener with ⟨hlast, hfinished⟩ | ⟨-, hstuck⟩
  · refine ⟨o.migrated_last o.aciUnique _ hlast hfinished, ?_⟩
    rw [hlast]
    exact o.currentSchema_last
  · exact absurd (o.proceeds_open o.aciUnique) hstuck

/-! ## Kills that no open mends -/

/-- `synced_contact` has the current shape, and the two tables together have the row more than once. -/
structure Scarred (row : OldSyncedContactRow) (file : DatabaseFile) : Prop where
  current : ∃ t rows sequence, file.syncedContact = some t ∧ t.contacts = .current rows sequence
  twice : 2 ≤ file.contactRows.count row + file.oldRows.count row

/-- The copy puts the old rows behind those that are there. -/
theorem copy_rows {file file' : DatabaseFile} (h : sqlite.exec .copyOldRows file = .ok file') :
    (∃ t rows sequence, file'.syncedContact = some t ∧ t.contacts = .current rows sequence) ∧
      file'.contactRows = file.contactRows ++ file.oldRows := by
  obtain ⟨t, old, t', hnew, hold, hinsert, rfl⟩ := copy_ok h
  obtain ⟨contacts, indexes, hunique⟩ := t
  cases contacts with
  | original rows => cases hinsert
  | current there sequence =>
    simp only [SyncedContactTable.insertOld] at hinsert
    split at hinsert
    · split at hinsert <;> cases hinsert
      refine ⟨⟨_, _, _, rfl, rfl⟩, ?_⟩
      simp [DatabaseFile.contactRows, DatabaseFile.oldRows, SyncedContacts.old, hnew, hold]
    · cases hinsert

theorem Scarred.exec {row : OldSyncedContactRow} {sql : MigrationSql} {file file' : DatabaseFile}
    (hscar : Scarred row file) (h : sqlite.exec sql file = .ok file')
    (hrename : sql ≠ .renameSyncedContact) (hcopy : sql ≠ .copyOldRows)
    (hdrop : sql ≠ .dropOldPkMigration) : Scarred row file' := by
  obtain ⟨⟨t, rows, sequence, hnew, hcurrent⟩, htwice⟩ := hscar
  obtain ⟨hkept, hrows, hold⟩ := exec_contacts h hrename hcopy hdrop
  obtain ⟨t', hnew', hcontacts⟩ := hkept t hnew
  refine ⟨⟨t', rows, sequence, hnew', hcontacts.trans hcurrent⟩, ?_⟩
  rw [hrows, DatabaseFile.oldRows, hold]
  exact htwice

/-- The copy and the drop together move the rows of the temporary table; the copy alone doubles them. -/
theorem Scarred.copied {row : OldSyncedContactRow} {file file' : DatabaseFile}
    (hscar : Scarred row file) (h : sqlite.exec .copyOldRows file = .ok file') :
    Scarred row file' ∧ ∀ file'', sqlite.exec .dropOldPkMigration file' = .ok file'' →
      Scarred row file'' := by
  obtain ⟨hcurrent, hrows⟩ := copy_rows h
  have htwice : 2 ≤ file'.contactRows.count row := by
    rw [hrows, List.count_append]
    exact hscar.twice
  refine ⟨⟨hcurrent, by omega⟩, fun file'' hdrop => ?_⟩
  obtain rfl := drop_ok hdrop
  exact ⟨hcurrent, Nat.le_add_right_of_le htwice⟩

/-- A step of one statement that moves no contact. -/
theorem Scarred.one {row : OldSyncedContactRow} {sql : MigrationSql} {file file' : DatabaseFile}
    (hscar : Scarred row file) {i : Nat} (h : sqlite.execAll ([sql].take i) file = .ok file')
    (hrename : sql ≠ .renameSyncedContact) (hcopy : sql ≠ .copyOldRows)
    (hdrop : sql ≠ .dropOldPkMigration) : Scarred row file' := by
  cases i with
  | zero =>
    cases h
    exact hscar
  | succ i =>
    rw [List.take_succ_cons, List.take_nil] at h
    obtain ⟨file'', hexec, hrest⟩ := Migration.execAll_cons.mp h
    obtain rfl := Migration.execAll_nil.mp hrest
    exact hscar.exec hexec hrename hcopy hdrop

theorem stepsKeep_scarred (row : OldSyncedContactRow) :
    Migration.StepsKeep sqlite Opener.steps (Scarred row) := by
  intro opener step hstep file hscar hchecks i file' hran
  rcases mem_steps hstep with rfl | ⟨sql, hsql, -, hone⟩ | rfl | ⟨column, rfl⟩
  · -- the current shape has an `id`, and the rename leaves it
    obtain ⟨⟨t, rows, sequence, hnew, hcurrent⟩, -⟩ := hscar
    obtain ⟨contacts, indexes, hunique⟩ := t
    cases hcurrent
    have hlacks := hchecks .lacksId (by decide)
    simp only [sqlite, MigrationCheck.holds, hnew] at hlacks
    cases hlacks
  · rw [hone] at hran
    obtain ⟨hrename, hcopy, hdrop⟩ := schema_moves_nothing hsql
    exact hscar.one hran hrename hcopy hdrop
  · rcases i with _ | _ | i
    · cases hran
      exact hscar
    · obtain ⟨copied, hcopy, hrest⟩ := Migration.execAll_cons.mp hran
      obtain rfl := Migration.execAll_nil.mp hrest
      exact (hscar.copied hcopy).1
    · obtain ⟨copied, hcopy, hrest⟩ := Migration.execAll_cons.mp hran
      rw [List.take_succ_cons, List.take_nil] at hrest
      obtain ⟨dropped, hdrop, hrest⟩ := Migration.execAll_cons.mp hrest
      obtain rfl := Migration.execAll_nil.mp hrest
      exact (hscar.copied hcopy).2 dropped hdrop
  · exact hscar.one hran (by simp) (by simp) (by simp)

theorem killed_scarred {row : OldSyncedContactRow} {file : DatabaseFile} (h : Scarred row file)
    (kill : Kill) : Scarred row (killed file kill) :=
  Migration.play_keeps (stepsKeep_scarred row) kill.1 kill.2 h

theorem open_scarred {row : OldSyncedContactRow} {file : DatabaseFile} (h : Scarred row file)
    (opener : Opener) : Scarred row (opener.open file).1 := by
  unfold Opener.open
  exact Migration.play_keeps (stepsKeep_scarred row) opener _ h

namespace OriginalFile

/-- A kill between the copy and the drop leaves each contact in both tables. -/
theorem scarred_of_harmful (o : OriginalFile) (haci : o.AciUnique) {row : OldSyncedContactRow}
    (hrow : row ∈ o.contacts) {file : DatabaseFile} (h : o.AtSettled file) {kill : Kill}
    (hharm : ¬ kill.Harmless file) : Scarred row (killed file kill) := by
  obtain ⟨k, steps, checked, ran, hk, hfound, hbehind, hknows⟩ := o.killed_stage haci h kill
  have hnext := Classical.not_not.mp hharm
  rw [hfound] at hnext
  rw [killed, hfound]
  cases steps with
  | nil => cases hnext
  | cons step rest =>
    rw [Client.next] at hnext
    split at hnext
    · cases hnext
    · obtain ⟨opener, hcode⟩ := hbehind.ofCode
      obtain ⟨rfl, rfl⟩ := drop_next (hcode.subset List.mem_cons_self) hnext
      -- the copy is behind the stage, and the temporary table is still there
      obtain ⟨j, hj, hat, -⟩ := hbehind.next hnext
      have hran : 5 ≤ contactsRan k := by
        rw [position_eq hat] at hj
        exact contactsRan_mono hj
      have hcontacts := (o.at_stage hk).contacts
      rw [o.copied_of_exists hran (congrArg Prod.snd hcontacts) (hknows.2.1 _ rfl)] at hcontacts
      obtain ⟨hnew, hold⟩ := Prod.mk.inj hcontacts
      obtain ⟨rows, sequence, hcurrent⟩ := o.copiedTable_current
      refine ⟨⟨o.copiedTable, rows, sequence, hnew, hcurrent⟩, ?_⟩
      have hcount : 1 ≤ o.contacts.count row := List.count_pos_iff.mpr hrow
      have hcopied : (o.stage k).contactRows = o.contacts := by
        rw [DatabaseFile.contactRows, hnew]
        exact o.copiedTable_old haci
      have hkept : (o.stage k).oldRows = o.contacts := by
        rw [DatabaseFile.oldRows, hold]
        rfl
      rw [hcopied, hkept]
      omega

theorem scarred_of_kills (o : OriginalFile) (haci : o.AciUnique) {row : OldSyncedContactRow}
    (hrow : row ∈ o.contacts) {file : DatabaseFile} {kills : List Kill} (h : o.AtSettled file)
    (hharm : ¬ Runs.Along killed (fun file kill => kill.Harmless file) file kills) :
    Scarred row (Runs.final killed file kills) := by
  induction kills generalizing file with
  | nil => exact absurd Runs.along_nil hharm
  | cons kill kills ih =>
    rw [Runs.final_cons]
    by_cases hkill : kill.Harmless file
    · exact ih (o.killed_settled haci h (.inr hkill)) fun hrest => hharm ⟨hkill, hrest⟩
    · have hscar := o.scarred_of_harmful haci hrow h hkill
      have hkeep : ∀ file kill, Scarred row file → Scarred row (killed file kill) :=
        fun _ kill hscar => killed_scarred hscar kill
      exact (Runs.Always.of_keep hkeep hscar).last

/-- No contact of a migrated file is there twice. -/
theorem not_migrated_of_scarred (o : OriginalFile) {row : OldSyncedContactRow}
    {opened : DatabaseFile × OpeningClient} (hscar : Scarred row opened.1) : ¬ o.Migrated opened := by
  rintro ⟨-, hold, t, rows, sequence, hnew, hcurrent, hrows, -⟩
  have htwice := hscar.twice
  rw [DatabaseFile.contactRows, DatabaseFile.oldRows, hnew, hold, Option.map_some, Option.getD_some,
    hcurrent] at htwice
  have honce : o.contacts.count row ≤ 1 := List.nodup_iff_count_le_one.mp o.primaryKey.of_map row
  have hcount : (rows.map (·.old)).count row = o.contacts.count row := hrows.count_eq row
  have hall : 2 ≤ (rows.map (·.old)).count row := htwice
  omega

end OriginalFile

/-- For every file of the older version that the indexes of the current one accept, and any number of
kills wherever in an open they come: the open after them succeeds, with the current schema and every old
contact once, if and only if no kill comes between the copy and the drop after it, or there are no
contacts. -/
theorem kills_survived_iff (o : IndexedFile) (kills : List Kill) (opener : Opener) :
    o.Survives (opener.open (Runs.final killed o.file kills)) ↔
      o.contacts = [] ∨ Runs.Along killed (fun file kill => kill.Harmless file) o.file kills := by
  constructor
  · rintro ⟨hmigrated, -⟩
    by_contra hharm
    obtain ⟨hsome, hharm⟩ := not_or.mp hharm
    obtain ⟨row, hrow⟩ := List.exists_mem_of_ne_nil _ hsome
    have hscar := o.scarred_of_kills o.aciUnique hrow o.atSettled_file hharm
    exact o.not_migrated_of_scarred (open_scarred hscar opener) hmigrated
  · exact o.survives_of_harmless opener

/-- A file with one contact. -/
def oneContact : IndexedFile where
  account := some ⟨[], [("alice", [])], aligned_alice⟩
  others := []
  contacts := [⟨"alice", "+1", "aci", "", [], 0⟩]
  primaryKey := by decide
  references := by decide
  aciUnique := by decide

/-- The daemon is killed when it has copied that contact: after 28 steps, with the two checks and the
rename, the eleven statements of the schema, the copy's check and the copy. -/
theorem kill_after_the_copy_is_not_survived :
    ¬ oneContact.Survives (Opener.storage.open (killed oneContact.file (.storage, 28))) := by
  intro h
  have hharm : ¬ Runs.Along killed (fun file kill => kill.Harmless file) oneContact.file
      [(.storage, 28)] := by decide
  have hscar := oneContact.scarred_of_kills oneContact.aciUnique List.mem_cons_self
    oneContact.atSettled_file hharm
  exact oneContact.not_migrated_of_scarred (open_scarred hscar .storage) h.1

end Signal2sip
