import Mathlib.Data.List.Nodup
import Signal2sip.Storage.Migration

/-!
# The stages of an open

The statements of the open sequence take a file of the older version through stages. Six of them are
about contacts, and with every one of these the two tables are known exactly (`tablesAt`); the others
create a table or a column that is not there.

- `sound_open`: at every stage, a statement that the stage has behind it changes nothing when it is run
  again fresh, and a check that fails passes over statements that would change nothing;
- `proceeds_open`: when no account has one `aci` under two numbers, no stage refuses a statement;
- `reliable_open`: an open that is alone finds its statements fresh by its own checks;
- `open_stage`: so from a settled stage it ends at the last one.
-/

namespace Signal2sip

open Migration (Engine Sound Proceeds Reliable)

/-! ## The statements in their order -/

def openStatements : List MigrationSql :=
  .renameSyncedContact :: kSchemaSql ++
    .copyOldRows :: .dropOldPkMigration :: ConfigColumn.all.map .addColumn

theorem opener_statements (opener : Opener) :
    opener.steps.flatMap (·.statements) = openStatements := by
  cases opener <;> rfl

/-- A step of the open sequence runs one statement without a check, or is one of the functions that
check. -/
theorem mem_steps {opener : Opener} {step : MigrationStep} (h : step ∈ opener.steps) :
    step = renameOldSyncedContactTableIfNeeded ∨
      (∃ sql ∈ kSchemaSql, step.checks = [] ∧ step.statements = [sql]) ∨
      step = copyOldSyncedContactDataIfPresent ∨ ∃ column, step = addColumnIfMissing column := by
  rcases List.mem_append.mp h with hfirst | hlast
  · rcases List.mem_cons.mp hfirst with hrename | hschema
    · exact .inl hrename
    · obtain ⟨sql, hsql, rfl⟩ := List.mem_map.mp hschema
      exact .inr (.inl ⟨sql, hsql, rfl, rfl⟩)
  · rcases List.mem_cons.mp hlast with hcopy | hcolumn
    · exact .inr (.inr (.inl hcopy))
    · obtain ⟨column, -, rfl⟩ := List.mem_map.mp hcolumn
      exact .inr (.inr (.inr ⟨column, rfl⟩))

def MigrationSql.position (sql : MigrationSql) : Nat := openStatements.idxOf sql

theorem position_eq {k : Nat} {sql : MigrationSql} (h : openStatements[k]? = some sql) :
    k = sql.position := by
  have hnodup : openStatements.Nodup := by decide
  obtain ⟨hlt, rfl⟩ := List.getElem?_eq_some_iff.mp h
  exact (hnodup.idxOf_getElem k hlt).symm

/-! ## What a statement that succeeds has done -/

theorem rename_ok {file file' : DatabaseFile} (h : sqlite.exec .renameSyncedContact file = .ok file') :
    ∃ t, file' = { file with syncedContact := none, syncedContactOldPkMigration := some t } := by
  simp only [sqlite, MigrationSql.exec] at h
  split at h <;> cases h
  exact ⟨_, rfl⟩

theorem createIndex_ok {index : ContactIndex} {file file' : DatabaseFile}
    (h : sqlite.exec (.createIndex index) file = .ok file') :
    file' = file ∨ ∃ t t', file.syncedContact = some t ∧ t'.contacts = t.contacts ∧
      file' = { file with syncedContact := some t' } := by
  simp only [sqlite, MigrationSql.exec] at h
  split at h
  · cases h
    exact .inl rfl
  · split at h
    · cases h
    · next t hnew =>
      split at h
      · next hunique =>
        cases h
        exact .inr ⟨t, t.addIndex index hunique, hnew, rfl, rfl⟩
      · cases h

theorem copy_ok {file file' : DatabaseFile} (h : sqlite.exec .copyOldRows file = .ok file') :
    ∃ t old t', file.syncedContact = some t ∧ file.syncedContactOldPkMigration = some old ∧
      t.insertOld file.accountNames old.contacts.old = .ok t' ∧
      file' = { file with syncedContact := some t' } := by
  simp only [sqlite, MigrationSql.exec] at h
  split at h
  · cases h
  · cases h
  · next t old hnew hold =>
    cases hinsert : t.insertOld file.accountNames old.contacts.old with
    | error e =>
      rw [hinsert] at h
      cases h
    | ok t' =>
      rw [hinsert] at h
      cases h
      exact ⟨t, old, t', hnew, hold, hinsert, rfl⟩

theorem drop_ok {file file' : DatabaseFile} (h : sqlite.exec .dropOldPkMigration file = .ok file') :
    file' = { file with syncedContactOldPkMigration := none } := by
  simp only [sqlite, MigrationSql.exec] at h
  split at h <;> cases h
  rfl

theorem addColumn_ok {column : ConfigColumn} {file file' : DatabaseFile}
    (h : sqlite.exec (.addColumn column) file = .ok file') :
    ∃ t, file.account = some t ∧ file' = { file with account := some (t.addColumn column) } := by
  simp only [sqlite, MigrationSql.exec] at h
  split at h
  · cases h
  · next t ht =>
    split at h <;> cases h
    exact ⟨t, ht, rfl⟩

/-! ## The two tables of contacts -/

def MigrationSql.onContacts : MigrationSql → Bool
  | .renameSyncedContact | .createSyncedContact | .createIndex _ | .copyOldRows
  | .dropOldPkMigration => true
  | _ => false

/-- How many statements about contacts a stage has behind it. -/
def contactsRan (k : Nat) : Nat := (openStatements.take k).countP (·.onContacts)

theorem contactsRan_succ {k : Nat} {sql : MigrationSql} (h : openStatements[k]? = some sql) :
    contactsRan (k + 1) = contactsRan k + if sql.onContacts then 1 else 0 := by
  rw [contactsRan, contactsRan, List.take_add_one, h, List.countP_append, Option.toList_some,
    List.countP_singleton]

theorem contactsRan_mono {j k : Nat} (h : j ≤ k) : contactsRan j ≤ contactsRan k :=
  (List.take_sublist_take_left h).countP_le

namespace OriginalFile

/-- No account has one `aci` under two numbers. -/
def AciUnique (o : OriginalFile) : Prop := ContactIndex.aci.Unique o.contacts

instance (o : OriginalFile) : Decidable o.AciUnique :=
  inferInstanceAs (Decidable (ContactIndex.aci.Unique o.contacts))

/-- The primary key of the original table is more than the index on `e164` asks for. -/
theorem e164_unique (o : OriginalFile) : ContactIndex.e164.Unique o.contacts := by
  have hkeys : o.contacts.filterMap ContactIndex.e164.key =
      (o.contacts.map fun row => (row.accountName, row.e164)).filterMap fun key =>
        if key.2 = "" then none else some key := by
    rw [List.filterMap_map]
    rfl
  rw [ContactIndex.Unique, hkeys]
  apply o.primaryKey.filterMap
  intro key key' name hname hname'
  split at hname <;> split at hname' <;> simp_all

def indexedTable : SyncedContactTable := ⟨.current [] 0, [.e164, .aci], by decide⟩

/-- `synced_contact` after the copy, which is refused when an account has one `aci` under two
numbers. -/
def copiedTable (o : OriginalFile) : SyncedContactTable :=
  if h : o.AciUnique then
    { contacts := .current (SyncedContactTable.numbered 0 o.contacts) o.contacts.length
      indexes := [.e164, .aci]
      unique := by
        intro index _
        rw [SyncedContacts.old, SyncedContactTable.numbered_old]
        cases index with
        | e164 => exact o.e164_unique
        | aci => exact h }
  else indexedTable

/-- `synced_contact` and the temporary table, after so many statements about contacts. -/
def tablesAt (o : OriginalFile) : Nat → Option SyncedContactTable × Option SyncedContactTable
  | 0 => (some o.originalTable, none)
  | 1 => (none, some o.originalTable)
  | 2 => (some .created, some o.originalTable)
  | 3 => (some (SyncedContactTable.created.addIndex .e164 (by decide)), some o.originalTable)
  | 4 => (some indexedTable, some o.originalTable)
  | 5 => (some o.copiedTable, some o.originalTable)
  | _ => (some o.copiedTable, none)

theorem copiedTable_current (o : OriginalFile) :
    ∃ rows sequence, o.copiedTable.contacts = .current rows sequence := by
  unfold copiedTable
  split <;> exact ⟨_, _, rfl⟩

theorem copiedTable_old (o : OriginalFile) (h : o.AciUnique) :
    o.copiedTable.contacts.old = o.contacts := by
  rw [copiedTable, dif_pos h]
  exact SyncedContactTable.numbered_old 0 o.contacts

theorem copiedTable_indexes (o : OriginalFile) : o.copiedTable.indexes = [.e164, .aci] := by
  unfold copiedTable
  split <;> rfl

/-- Once the original table is renamed, only the current shape stands under its name. -/
theorem tablesAt_current (o : OriginalFile) {n : Nat} (hn : 1 ≤ n) {t : SyncedContactTable}
    (h : (o.tablesAt n).1 = some t) : ∃ rows sequence, t.contacts = .current rows sequence := by
  match n, h with
  | 2, h | 3, h | 4, h =>
    cases h
    exact ⟨_, _, rfl⟩
  | 5, h | n + 6, h =>
    cases h
    exact o.copiedTable_current

theorem tablesAt_created (o : OriginalFile) {n : Nat} (hn : 2 ≤ n) :
    ∃ t, (o.tablesAt n).1 = some t := by
  match n with
  | 2 | 3 | 4 | 5 | n + 6 => exact ⟨_, rfl⟩

theorem tablesAt_e164 (o : OriginalFile) {n : Nat} (hn : 3 ≤ n) :
    ∃ t, (o.tablesAt n).1 = some t ∧ .e164 ∈ t.indexes := by
  match n with
  | 3 | 4 => exact ⟨_, rfl, by decide⟩
  | 5 | n + 6 => exact ⟨_, rfl, by rw [copiedTable_indexes]; decide⟩

theorem tablesAt_aci (o : OriginalFile) {n : Nat} (hn : 4 ≤ n) :
    ∃ t, (o.tablesAt n).1 = some t ∧ .aci ∈ t.indexes := by
  match n with
  | 4 => exact ⟨_, rfl, by decide⟩
  | 5 | n + 6 => exact ⟨_, rfl, by rw [copiedTable_indexes]; decide⟩

theorem tablesAt_dropped (o : OriginalFile) {n : Nat} (hn : 6 ≤ n) : (o.tablesAt n).2 = none := by
  match n with
  | n + 6 => rfl

/-! ## What a statement leaves as it was -/

/-- Accounts are never touched, and neither a table nor a column of them is lost. -/
structure Grows (file file' : DatabaseFile) : Prop where
  names : file'.accountNames = file.accountNames
  account : file.account.isSome → file'.account.isSome
  tables : ∀ table ∈ file.others, table ∈ file'.others
  columns : ∀ column ∈ file.configColumns, column ∈ file'.configColumns

theorem Grows.refl (file : DatabaseFile) : Grows file file :=
  ⟨rfl, id, fun _ => id, fun _ => id⟩

theorem Grows.of_account {file file' : DatabaseFile} (haccount : file'.account = file.account)
    (hothers : file'.others = file.others) : Grows file file' := by
  refine ⟨?_, ?_, ?_, ?_⟩
  · simp only [DatabaseFile.accountNames, haccount]
  · simp only [haccount, imp_self]
  · simp only [hothers, imp_self, implies_true]
  · simp only [DatabaseFile.configColumns, haccount, imp_self, implies_true]

theorem exec_grows {sql : MigrationSql} {file file' : DatabaseFile}
    (h : sqlite.exec sql file = .ok file') : Grows file file' := by
  cases sql with
  | renameSyncedContact =>
    obtain ⟨t, rfl⟩ := rename_ok h
    exact .of_account rfl rfl
  | foreignKeysOn =>
    cases h
    exact .refl file
  | createAccount =>
    cases h
    refine ⟨?_, fun _ => rfl, fun _ => id, ?_⟩
    · cases haccount : file.account with
      | none => simp [DatabaseFile.accountNames, haccount, AccountTable.names, AccountTable.created]
      | some t => simp [DatabaseFile.accountNames, haccount]
    · cases haccount : file.account <;> simp [DatabaseFile.configColumns, haccount]
  | createTable table =>
    cases h
    refine ⟨rfl, id, fun other hother => ?_, fun _ => id⟩
    dsimp only
    split
    · exact hother
    · exact List.mem_append_left _ hother
  | createSyncedContact =>
    cases h
    exact .of_account rfl rfl
  | createIndex index =>
    obtain rfl | ⟨t, t', -, -, rfl⟩ := createIndex_ok h
    · exact .refl _
    · exact .of_account rfl rfl
  | copyOldRows =>
    obtain ⟨t, old, t', -, -, -, rfl⟩ := copy_ok h
    exact .of_account rfl rfl
  | dropOldPkMigration =>
    obtain rfl := drop_ok h
    exact .of_account rfl rfl
  | addColumn column =>
    obtain ⟨t, ht, rfl⟩ := addColumn_ok h
    refine ⟨?_, fun _ => rfl, fun _ => id, ?_⟩
    · simp [DatabaseFile.accountNames, ht]
    · simp only [DatabaseFile.configColumns, ht, Option.map_some, Option.getD_some]
      exact fun other hother => List.mem_append_left _ hother

theorem apply_grows (sql : MigrationSql) (file : DatabaseFile) : Grows file (sqlite.apply sql file) := by
  cases h : sqlite.exec sql file with
  | ok file' =>
    rw [Engine.apply_ok sqlite h]
    exact exec_grows h
  | error e =>
    rw [Engine.apply_error sqlite h]
    exact .refl file

/-! ## Stage after stage -/

/-- What a stage knows of a file. -/
structure At (o : OriginalFile) (k : Nat) (file : DatabaseFile) : Prop where
  contacts : (file.syncedContact, file.syncedContactOldPkMigration) = o.tablesAt (contactsRan k)
  names : file.accountNames = o.file.accountNames
  account : .createAccount ∈ openStatements.take k → file.account.isSome
  tables : ∀ table, .createTable table ∈ openStatements.take k → table ∈ file.others
  columns : ∀ column, .addColumn column ∈ openStatements.take k → column ∈ file.configColumns

/-- Stage `k` of the open sequence. -/
def stage (o : OriginalFile) (k : Nat) : DatabaseFile := sqlite.stage openStatements o.file k

/-- A statement that is not about contacts leaves both tables. -/
theorem exec_tables {sql : MigrationSql} (hon : sql.onContacts = false) {file file' : DatabaseFile}
    (h : sqlite.exec sql file = .ok file') :
    file'.syncedContact = file.syncedContact ∧
      file'.syncedContactOldPkMigration = file.syncedContactOldPkMigration := by
  cases sql with
  | foreignKeysOn | createAccount | createTable table =>
    cases h
    exact ⟨rfl, rfl⟩
  | addColumn column =>
    obtain ⟨t, -, rfl⟩ := addColumn_ok h
    exact ⟨rfl, rfl⟩
  | renameSyncedContact | createSyncedContact | createIndex index | copyOldRows
  | dropOldPkMigration => cases hon

theorem apply_tables {sql : MigrationSql} (hon : sql.onContacts = false) (file : DatabaseFile) :
    (sqlite.apply sql file).syncedContact = file.syncedContact ∧
      (sqlite.apply sql file).syncedContactOldPkMigration = file.syncedContactOldPkMigration := by
  cases h : sqlite.exec sql file with
  | ok file' =>
    rw [Engine.apply_ok sqlite h]
    exact exec_tables hon h
  | error e =>
    rw [Engine.apply_error sqlite h]
    exact ⟨rfl, rfl⟩

/-- Copying nothing changes nothing. -/
theorem insertOld_nil {t : SyncedContactTable} {rows : List SyncedContactRow} {sequence : Int}
    (h : t.contacts = .current rows sequence) (accountNames : List String) :
    t.insertOld accountNames [] = .ok t := by
  obtain ⟨contacts, indexes, hunique⟩ := t
  cases h
  have hsame : SyncedContacts.current (rows ++ SyncedContactTable.numbered sequence [])
      (sequence + ([] : List OldSyncedContactRow).length) = .current rows sequence := by
    simp [SyncedContactTable.numbered]
  simp only [SyncedContactTable.insertOld, hsame]
  rw [dif_pos hunique, if_pos fun row hrow => absurd hrow List.not_mem_nil]

theorem insertOld_accepted {t : SyncedContactTable} {accountNames : List String}
    {rows : List OldSyncedContactRow} {there : List SyncedContactRow} {sequence : Int}
    (h : t.contacts = .current there sequence)
    (hunique : ∀ index ∈ t.indexes, index.Unique
      (SyncedContacts.current (there ++ SyncedContactTable.numbered sequence rows)
        (sequence + rows.length)).old)
    (hreferences : ∀ row ∈ rows, row.accountName ∈ accountNames) :
    t.insertOld accountNames rows =
      .ok ⟨.current (there ++ SyncedContactTable.numbered sequence rows) (sequence + rows.length),
        t.indexes, hunique⟩ := by
  obtain ⟨contacts, indexes, hold⟩ := t
  cases h
  simp only [SyncedContactTable.insertOld]
  rw [dif_pos hunique, if_pos hreferences]

theorem insertOld_refused {t : SyncedContactTable} {accountNames : List String}
    {rows : List OldSyncedContactRow} {there : List SyncedContactRow} {sequence : Int}
    (h : t.contacts = .current there sequence) {index : ContactIndex} (hmem : index ∈ t.indexes)
    (hviolated : ¬ index.Unique (SyncedContacts.current
      (there ++ SyncedContactTable.numbered sequence rows) (sequence + rows.length)).old)
    (hfirst : ContactIndex.firstViolated t.indexes t.contacts.old rows = some index) :
    t.insertOld accountNames rows = .error index.violated := by
  obtain ⟨contacts, indexes, hold⟩ := t
  cases h
  simp only [SyncedContactTable.insertOld]
  rw [dif_neg fun hall => hviolated (hall index hmem), hfirst]
  rfl

/-- The copy is accepted when no account has one `aci` under two numbers. -/
theorem insert_original (o : OriginalFile) {accountNames : List String}
    (hnames : accountNames = o.file.accountNames) :
    indexedTable.insertOld accountNames o.contacts =
      if o.AciUnique then .ok o.copiedTable else .error ContactIndex.aci.violated := by
  have hold : (SyncedContacts.current ([] ++ SyncedContactTable.numbered 0 o.contacts)
      (0 + o.contacts.length)).old = o.contacts := SyncedContactTable.numbered_old 0 o.contacts
  by_cases h : o.AciUnique
  · have hunique : ∀ index ∈ [ContactIndex.e164, .aci], index.Unique
        (SyncedContacts.current ([] ++ SyncedContactTable.numbered 0 o.contacts)
          (0 + o.contacts.length)).old := by
      intro index _
      rw [hold]
      cases index with
      | e164 => exact o.e164_unique
      | aci => exact h
    rw [insertOld_accepted rfl hunique (hnames ▸ o.references), if_pos h]
    simp only [copiedTable, dif_pos h, List.nil_append, Int.zero_add]
    rfl
  · have hfirst : ContactIndex.firstViolated [.e164, .aci] [] o.contacts = some .aci := by
      refine ContactIndex.firstViolated_eq (by decide) (fun other _ hother => ?_) List.nodup_nil h
      cases other with
      | e164 => exact o.e164_unique
      | aci => exact absurd rfl hother
    rw [if_neg h]
    exact insertOld_refused rfl (by decide) (by rw [hold]; exact h) hfirst

theorem exec_copy (o : OriginalFile) {file : DatabaseFile}
    (hnames : file.accountNames = o.file.accountNames)
    (hnew : file.syncedContact = some indexedTable)
    (hold : file.syncedContactOldPkMigration = some o.originalTable) :
    sqlite.exec .copyOldRows file =
      if o.AciUnique then .ok { file with syncedContact := some o.copiedTable }
      else .error ContactIndex.aci.violated := by
  have hinsert := insert_original o hnames
  simp only [sqlite, MigrationSql.exec, hnew, hold]
  rw [show o.originalTable.contacts.old = o.contacts from rfl, hinsert]
  split <;> rfl

/-- A statement about contacts at its own stage, the copy apart. -/
theorem exec_onContacts {o : OriginalFile} {sql : MigrationSql} {file : DatabaseFile}
    (h : (file.syncedContact, file.syncedContactOldPkMigration) =
      o.tablesAt (contactsRan sql.position))
    (hon : sql.onContacts = true) (hcopy : sql ≠ .copyOldRows) :
    ∃ file', sqlite.exec sql file = .ok file' ∧
      (file'.syncedContact, file'.syncedContactOldPkMigration) =
        o.tablesAt (contactsRan sql.position + 1) := by
  cases sql with
  | foreignKeysOn | createAccount | createTable _ | addColumn _ => cases hon
  | copyOldRows => exact absurd rfl hcopy
  | renameSyncedContact =>
    rw [show contactsRan MigrationSql.renameSyncedContact.position = 0 from rfl] at h ⊢
    obtain ⟨hnew, hold⟩ := Prod.mk.inj h
    simp only [sqlite, MigrationSql.exec, hnew, hold]
    exact ⟨_, rfl, rfl⟩
  | createSyncedContact =>
    rw [show contactsRan MigrationSql.createSyncedContact.position = 1 from rfl] at h ⊢
    obtain ⟨hnew, hold⟩ := Prod.mk.inj h
    simp only [sqlite, MigrationSql.exec, hnew, hold]
    exact ⟨_, rfl, rfl⟩
  | createIndex index =>
    cases index with
    | e164 =>
      rw [show contactsRan (MigrationSql.createIndex .e164).position = 2 from rfl] at h ⊢
      obtain ⟨hnew, hold⟩ := Prod.mk.inj h
      simp only [sqlite, MigrationSql.exec, DatabaseFile.hasIndex, hnew, hold]
      exact ⟨_, rfl, rfl⟩
    | aci =>
      rw [show contactsRan (MigrationSql.createIndex .aci).position = 3 from rfl] at h ⊢
      obtain ⟨hnew, hold⟩ := Prod.mk.inj h
      simp only [sqlite, MigrationSql.exec, DatabaseFile.hasIndex, hnew, hold]
      exact ⟨_, rfl, rfl⟩
  | dropOldPkMigration =>
    rw [show contactsRan MigrationSql.dropOldPkMigration.position = 5 from rfl] at h ⊢
    obtain ⟨hnew, hold⟩ := Prod.mk.inj h
    simp only [sqlite, MigrationSql.exec, hold]
    exact ⟨_, rfl, Prod.ext hnew rfl⟩

/-- A statement about contacts takes both tables on. -/
theorem contacts_succ {o : OriginalFile} {k : Nat} {sql : MigrationSql} {file : DatabaseFile}
    (h : o.At k file) (hsql : openStatements[k]? = some sql) :
    ((sqlite.apply sql file).syncedContact, (sqlite.apply sql file).syncedContactOldPkMigration) =
      o.tablesAt (contactsRan (k + 1)) := by
  obtain ⟨hcontacts, hnames, -, -, -⟩ := h
  rw [contactsRan_succ hsql]
  obtain rfl := position_eq hsql
  cases hon : sql.onContacts with
  | false =>
    obtain ⟨hnew, hold⟩ := apply_tables hon file
    rw [hnew, hold]
    exact hcontacts
  | true =>
    by_cases hcopy : sql = .copyOldRows
    · subst hcopy
      rw [show contactsRan MigrationSql.copyOldRows.position = 4 from rfl] at hcontacts ⊢
      obtain ⟨hnew, hold⟩ := Prod.mk.inj hcontacts
      rw [Engine.apply, exec_copy o hnames hnew hold]
      by_cases haci : o.AciUnique
      · simp only [if_pos haci, hold]
        rfl
      · simp only [if_neg haci, hnew, hold, copiedTable, dif_neg haci, tablesAt]
        rfl
    · obtain ⟨file', hexec, htables⟩ := exec_onContacts hcontacts hon hcopy
      rw [Engine.apply_ok sqlite hexec]
      exact htables

theorem table_created (table : OtherTable) (file : DatabaseFile) :
    table ∈ (sqlite.apply (.createTable table) file).others := by
  simp only [Engine.apply, sqlite, MigrationSql.exec]
  split
  · assumption
  · exact List.mem_append_right _ (List.mem_singleton_self table)

theorem column_added (column : ConfigColumn) {file : DatabaseFile} (h : file.account.isSome) :
    column ∈ (sqlite.apply (.addColumn column) file).configColumns := by
  obtain ⟨t, ht⟩ := Option.isSome_iff_exists.mp h
  simp only [Engine.apply, sqlite, MigrationSql.exec, ht]
  by_cases hmem : column ∈ t.columns
  · simp only [if_pos hmem, DatabaseFile.configColumns, ht]
    exact hmem
  · simp only [if_neg hmem, DatabaseFile.configColumns]
    exact List.mem_append_right _ (List.mem_singleton_self column)

theorem account_before_columns (column : ConfigColumn) :
    .createAccount ∈ openStatements.take (MigrationSql.addColumn column).position := by
  cases column <;> decide

theorem at_succ {o : OriginalFile} {k : Nat} {sql : MigrationSql} {file : DatabaseFile}
    (h : o.At k file) (hsql : openStatements[k]? = some sql) :
    o.At (k + 1) (sqlite.apply sql file) := by
  have hgrows := apply_grows sql file
  have hran : ∀ other, other ∈ openStatements.take (k + 1) →
      other ∈ openStatements.take k ∨ other = sql := by
    intro other hother
    rwa [List.take_add_one, hsql, List.mem_append, Option.toList_some, List.mem_singleton] at hother
  refine ⟨contacts_succ h hsql, hgrows.names.trans h.names, fun hmem => ?_, fun table hmem => ?_,
    fun column hmem => ?_⟩
  · rcases hran _ hmem with hold | rfl
    · exact hgrows.account (h.account hold)
    · rfl
  · rcases hran _ hmem with hold | rfl
    · exact hgrows.tables table (h.tables table hold)
    · exact table_created table file
  · rcases hran _ hmem with hold | rfl
    · exact hgrows.columns column (h.columns column hold)
    · refine column_added column (h.account ?_)
      rw [position_eq hsql]
      exact account_before_columns column

theorem at_stage (o : OriginalFile) {k : Nat} (hk : k ≤ openStatements.length) :
    o.At k (o.stage k) := by
  induction k with
  | zero =>
    exact ⟨rfl, rfl, fun h => (nomatch h), fun _ h => (nomatch h), fun _ h => (nomatch h)⟩
  | succ k ih =>
    have hsql : openStatements[k]? = some openStatements[k] := List.getElem?_eq_getElem hk
    rw [stage, Engine.stage_succ hsql]
    exact at_succ (ih (by omega)) hsql

end OriginalFile

/-! ## Fresh statements and settled files -/

/-- The rows of `synced_contact`. -/
def DatabaseFile.contactRows (file : DatabaseFile) : List OldSyncedContactRow :=
  (file.syncedContact.map (·.contacts.old)).getD []

/-- What the checks before a statement found still is so; and nothing has been copied before the
copy. -/
def MigrationSql.Fresh : MigrationSql → DatabaseFile → Prop
  | .renameSyncedContact, file =>
    MigrationCheck.syncedContactExists.holds file ∧ MigrationCheck.lacksId.holds file
  | .copyOldRows, file => MigrationCheck.oldPkMigrationExists.holds file ∧ file.contactRows = []
  | .dropOldPkMigration, file => MigrationCheck.oldPkMigrationExists.holds file
  | .addColumn column, file => (MigrationCheck.lacksColumn column).holds file
  | _, _ => True

instance : ∀ (sql : MigrationSql) (file : DatabaseFile), Decidable (sql.Fresh file)
  | .renameSyncedContact, _ | .copyOldRows, _ => inferInstanceAs (Decidable (_ ∧ _))
  | .dropOldPkMigration, _ | .addColumn _, _ => inferInstanceAs (Decidable (_ = true))
  | .foreignKeysOn, _ | .createAccount, _ | .createTable _, _ | .createSyncedContact, _
  | .createIndex _, _ => isTrue trivial

/-- The old rows are not in both tables. -/
def DatabaseFile.Settled (file : DatabaseFile) : Prop :=
  file.syncedContactOldPkMigration.isSome → file.contactRows = []

namespace OriginalFile

/-- A statement about contacts that a stage has behind it counts. -/
theorem contactsRan_of_ran {j k : Nat} {sql : MigrationSql} (h : openStatements[j]? = some sql)
    (hjk : j < k) (hon : sql.onContacts = true) : contactsRan sql.position + 1 ≤ contactsRan k := by
  have hcount := contactsRan_succ h
  rw [if_pos hon, position_eq h] at hcount
  rw [← hcount, ← position_eq h]
  exact contactsRan_mono hjk

theorem mem_take {j k : Nat} {sql : MigrationSql} (h : openStatements[j]? = some sql) (hjk : j < k) :
    sql ∈ openStatements.take k := by
  refine List.mem_of_getElem? (i := j) ?_
  rw [List.getElem?_take_of_lt hjk, h]

/-- After the copy, the temporary table stands for one stage only. -/
theorem copied_of_exists (o : OriginalFile) {n : Nat} {file : DatabaseFile} (hn : 5 ≤ n)
    (hold : file.syncedContactOldPkMigration = (o.tablesAt n).2)
    (hexists : MigrationCheck.oldPkMigrationExists.holds file) : n = 5 := by
  by_contra hne
  rw [o.tablesAt_dropped (by omega)] at hold
  rw [MigrationCheck.holds, hold] at hexists
  cases hexists

/-- A statement that a stage has behind it, run again fresh, changes nothing. -/
theorem exec_again (o : OriginalFile) {j k : Nat} {sql : MigrationSql}
    (hsql : openStatements[j]? = some sql) (hjk : j < k) {file : DatabaseFile} (h : o.At k file)
    (hfresh : sql.Fresh file) (haci : sql = .copyOldRows → o.AciUnique) :
    sqlite.exec sql file = .ok file := by
  obtain ⟨hcontacts, -, haccount, htables, hcolumns⟩ := h
  have hmem := mem_take hsql hjk
  have hran := contactsRan_of_ran hsql hjk
  have hnew : file.syncedContact = (o.tablesAt (contactsRan k)).1 := congrArg Prod.fst hcontacts
  have hold : file.syncedContactOldPkMigration = (o.tablesAt (contactsRan k)).2 :=
    congrArg Prod.snd hcontacts
  cases sql with
  | renameSyncedContact =>
    obtain ⟨hexists, hlacks⟩ := hfresh
    obtain ⟨t, ht⟩ := Option.isSome_iff_exists.mp hexists
    obtain ⟨rows, sequence, hcurrent⟩ :=
      o.tablesAt_current (Nat.le_trans (by decide) (hran rfl)) (hnew.symm.trans ht)
    obtain ⟨contacts, indexes, hunique⟩ := t
    cases hcurrent
    rw [MigrationCheck.holds, ht] at hlacks
    cases hlacks
  | foreignKeysOn => rfl
  | createAccount =>
    obtain ⟨t, ht⟩ := Option.isSome_iff_exists.mp (haccount hmem)
    simp only [sqlite, MigrationSql.exec, ht, Option.getD_some]
    rw [← ht]
  | createTable table => simp only [sqlite, MigrationSql.exec, if_pos (htables table hmem)]
  | createSyncedContact =>
    obtain ⟨t, ht⟩ := o.tablesAt_created (Nat.le_trans (by decide) (hran rfl))
    rw [← hnew] at ht
    simp only [sqlite, MigrationSql.exec, ht, Option.getD_some]
    rw [← ht]
  | createIndex index =>
    have hindex : ∃ t, (o.tablesAt (contactsRan k)).1 = some t ∧ index ∈ t.indexes := by
      cases index with
      | e164 => exact o.tablesAt_e164 (Nat.le_trans (by decide) (hran rfl))
      | aci => exact o.tablesAt_aci (Nat.le_trans (by decide) (hran rfl))
    obtain ⟨t, ht, hindex⟩ := hindex
    rw [← hnew] at ht
    have hhas : file.hasIndex index = true := by
      simp only [DatabaseFile.hasIndex, ht, Option.any_some, decide_eq_true hindex, Bool.true_or]
    simp only [sqlite, MigrationSql.exec, hhas, if_true]
  | copyOldRows =>
    obtain ⟨hexists, hrows⟩ := hfresh
    have hcopied := copied_of_exists o (hran rfl) hold hexists
    rw [hcopied] at hnew hold
    have hnothing : o.contacts = [] := by
      rw [← o.copiedTable_old (haci rfl)]
      rw [DatabaseFile.contactRows, hnew] at hrows
      exact hrows
    obtain ⟨rows, sequence, hcurrent⟩ := o.copiedTable_current
    have hinsert := insertOld_nil hcurrent file.accountNames
    simp only [sqlite, MigrationSql.exec, hnew, hold, tablesAt]
    rw [show o.originalTable.contacts.old = [] from hnothing, hinsert]
    have hfile : file =
        ⟨file.account, file.others, some o.copiedTable, some o.originalTable⟩ := by
      rw [← show file.syncedContact = some o.copiedTable from hnew,
        ← show file.syncedContactOldPkMigration = some o.originalTable from hold]
    exact congrArg Except.ok hfile.symm
  | dropOldPkMigration =>
    rw [o.tablesAt_dropped (Nat.le_trans (by decide) (hran rfl))] at hold
    simp only [MigrationSql.Fresh, MigrationCheck.holds, hold] at hfresh
    cases hfresh
  | addColumn column =>
    simp [MigrationSql.Fresh, MigrationCheck.holds, hcolumns column hmem] at hfresh

/-- Where the copy is refused, it is refused again. -/
theorem exec_copy_again (o : OriginalFile) (haci : ¬ o.AciUnique) {j k : Nat}
    (hsql : openStatements[j]? = some .copyOldRows) (hjk : j < k) {file : DatabaseFile} (h : o.At k file)
    (hfresh : MigrationSql.copyOldRows.Fresh file) :
    sqlite.exec .copyOldRows file = .error ContactIndex.aci.violated := by
  obtain ⟨hcontacts, hnames, -, -, -⟩ := h
  have hold := congrArg Prod.snd hcontacts
  have hcopied := copied_of_exists o (contactsRan_of_ran hsql hjk rfl) hold hfresh.1
  rw [hcopied] at hcontacts
  obtain ⟨hnew, hold⟩ := Prod.mk.inj hcontacts
  rw [exec_copy o hnames (hnew.trans ?_) hold, if_neg haci]
  rw [copiedTable, dif_neg haci]

/-- Without the temporary table neither of the statements on it runs. -/
theorem apply_gone {file : DatabaseFile} {sql : MigrationSql}
    (hsql : sql ∈ copyOldSyncedContactDataIfPresent.statements)
    (h : sqlite.holds .oldPkMigrationExists file = false) : sqlite.apply sql file = file := by
  have hold : file.syncedContactOldPkMigration = none := by
    simpa [sqlite, MigrationCheck.holds] using h
  rcases List.mem_cons.mp hsql with rfl | hsql
  · cases hnew : file.syncedContact <;> simp only [Engine.apply, sqlite, MigrationSql.exec, hnew, hold]
  · obtain rfl := List.mem_singleton.mp hsql
    simp only [Engine.apply, sqlite, MigrationSql.exec, hold]

/-- A column that is there is not added. -/
theorem apply_there {file : DatabaseFile} {column : ConfigColumn}
    (h : sqlite.holds (.lacksColumn column) file = false) :
    sqlite.apply (.addColumn column) file = file := by
  have hmem : column ∈ file.configColumns := by simpa [sqlite, MigrationCheck.holds] using h
  cases haccount : file.account with
  | none => simp [DatabaseFile.configColumns, haccount] at hmem
  | some t =>
    have hcolumn : column ∈ t.columns := by
      simpa [DatabaseFile.configColumns, haccount] using hmem
    simp only [Engine.apply, sqlite, MigrationSql.exec, haccount, if_pos hcolumn]

theorem sound_open (o : OriginalFile) :
    Sound sqlite Opener.steps MigrationSql.Fresh openStatements o.file where
  lists := opener_statements
  again {j k sql file} hsql hjk hk hfresh hexec := by
    have hat := o.at_stage hk
    by_cases haci : sql = .copyOldRows → o.AciUnique
    · exact Except.ok.inj (hexec.symm.trans (exec_again o hsql hjk hat hfresh haci))
    · obtain ⟨rfl, htwice⟩ := Classical.not_imp.mp haci
      have hrefused := exec_copy_again o htwice hsql hjk hat hfresh
      exact absurd (hexec.symm.trans hrefused) (nomatch ·)
  skips {opener step check sql i k} hstep hcheck hsql hi hki hfails := by
    rcases mem_steps hstep with rfl | ⟨sql', -, hnone, -⟩ | rfl | ⟨column, rfl⟩
    · -- the rename is the first statement, and stage 0 still has the original table
      obtain rfl := List.mem_singleton.mp hsql
      have hzero : i = 0 := position_eq hi
      obtain rfl : k = 0 := by omega
      rcases List.mem_cons.mp hcheck with rfl | hcheck
      · cases hfails
      · obtain rfl := List.mem_singleton.mp hcheck
        cases hfails
    · rw [hnone] at hcheck
      cases hcheck
    · obtain rfl := List.mem_singleton.mp hcheck
      exact apply_gone hsql hfails
    · obtain rfl := List.mem_singleton.mp hcheck
      obtain rfl := List.mem_singleton.mp hsql
      exact apply_there hfails

/-- The next statement of a stage runs. -/
theorem exec_next (o : OriginalFile) (haci : o.AciUnique) {k : Nat} {sql : MigrationSql}
    (hsql : openStatements[k]? = some sql) {file : DatabaseFile} (h : o.At k file)
    (hfresh : sql.Fresh file) : ∃ file', sqlite.exec sql file = .ok file' := by
  obtain ⟨hcontacts, hnames, haccount, -, -⟩ := h
  obtain rfl := position_eq hsql
  cases sql with
  | foreignKeysOn | createAccount | createTable table => exact ⟨_, rfl⟩
  | renameSyncedContact | createSyncedContact | createIndex index | dropOldPkMigration =>
    obtain ⟨file', hexec, -⟩ := exec_onContacts hcontacts rfl nofun
    exact ⟨file', hexec⟩
  | copyOldRows =>
    rw [show contactsRan MigrationSql.copyOldRows.position = 4 from rfl] at hcontacts
    obtain ⟨hnew, hold⟩ := Prod.mk.inj hcontacts
    rw [exec_copy o hnames hnew hold, if_pos haci]
    exact ⟨_, rfl⟩
  | addColumn column =>
    obtain ⟨t, ht⟩ := Option.isSome_iff_exists.mp (haccount (account_before_columns column))
    have hlacks : column ∉ t.columns := by
      simpa [MigrationSql.Fresh, MigrationCheck.holds, DatabaseFile.configColumns, ht] using hfresh
    simp only [sqlite, MigrationSql.exec, ht, if_neg hlacks]
    exact ⟨_, rfl⟩

/-- Where no account has one `aci` under two numbers, no stage refuses a statement. -/
theorem proceeds_open (o : OriginalFile) (haci : o.AciUnique) :
    Proceeds sqlite MigrationSql.Fresh openStatements o.file := by
  intro j k sql hjk hk hsql hfresh
  have hat := o.at_stage hk
  by_cases hlt : j < k
  · exact ⟨_, exec_again o hsql hlt hat hfresh fun _ => haci⟩
  · obtain rfl : j = k := by omega
    exact exec_next o haci hsql hat hfresh

end OriginalFile

theorem fresh_schema {sql : MigrationSql} (h : sql ∈ kSchemaSql) (file : DatabaseFile) :
    sql.Fresh file := by
  cases sql with
  | renameSyncedContact | copyOldRows | dropOldPkMigration => exact absurd h (by decide)
  | addColumn column => exact absurd h (by cases column <;> decide)
  | foreignKeysOn | createAccount | createTable table | createSyncedContact | createIndex index =>
    trivial

/-- The rename, the copy and the drop apart, no statement moves a contact. -/
theorem exec_contacts {sql : MigrationSql} {file file' : DatabaseFile}
    (h : sqlite.exec sql file = .ok file') (hrename : sql ≠ .renameSyncedContact)
    (hcopy : sql ≠ .copyOldRows) (hdrop : sql ≠ .dropOldPkMigration) :
    (∀ t, file.syncedContact = some t →
        ∃ t', file'.syncedContact = some t' ∧ t'.contacts = t.contacts) ∧
      file'.contactRows = file.contactRows ∧
      file'.syncedContactOldPkMigration = file.syncedContactOldPkMigration := by
  cases sql with
  | renameSyncedContact => exact absurd rfl hrename
  | copyOldRows => exact absurd rfl hcopy
  | dropOldPkMigration => exact absurd rfl hdrop
  | foreignKeysOn | createAccount | createTable table | addColumn column =>
    obtain ⟨hnew, hold⟩ := OriginalFile.exec_tables rfl h
    refine ⟨fun t ht => ⟨t, hnew.trans ht, rfl⟩, ?_, hold⟩
    rw [DatabaseFile.contactRows, DatabaseFile.contactRows, hnew]
  | createSyncedContact =>
    cases h
    cases hnew : file.syncedContact with
    | none =>
      refine ⟨fun t ht => (nomatch ht), ?_, rfl⟩
      simp only [DatabaseFile.contactRows, hnew]
      rfl
    | some t =>
      refine ⟨fun t' ht' => ⟨t', ht', rfl⟩, ?_, rfl⟩
      simp only [DatabaseFile.contactRows, hnew, Option.getD_some]
  | createIndex index =>
    obtain rfl | ⟨t, t', hnew, hcontacts, rfl⟩ := createIndex_ok h
    · exact ⟨fun t ht => ⟨t, ht, rfl⟩, rfl, rfl⟩
    · refine ⟨fun other hother => ⟨t', rfl, ?_⟩, ?_, rfl⟩
      · cases hnew.symm.trans hother
        exact hcontacts
      · simp only [DatabaseFile.contactRows, hnew, Option.map_some, Option.getD_some, hcontacts]

/-- What moves no contact keeps a file settled. -/
theorem exec_settled {sql : MigrationSql} {file file' : DatabaseFile}
    (h : sqlite.exec sql file = .ok file') (hrename : sql ≠ .renameSyncedContact)
    (hcopy : sql ≠ .copyOldRows) (hdrop : sql ≠ .dropOldPkMigration) (hsettled : file.Settled) :
    file'.Settled := by
  obtain ⟨-, hrows, hold⟩ := exec_contacts h hrename hcopy hdrop
  rw [DatabaseFile.Settled, hrows, hold]
  exact hsettled

theorem schema_moves_nothing {sql : MigrationSql} (h : sql ∈ kSchemaSql) :
    sql ≠ .renameSyncedContact ∧ sql ≠ .copyOldRows ∧ sql ≠ .dropOldPkMigration := by
  refine ⟨?_, ?_, ?_⟩ <;>
  · rintro rfl
    exact absurd h (by decide)

theorem reliable_open : Reliable sqlite Opener.steps MigrationSql.Fresh DatabaseFile.Settled where
  enters {opener step file sql} hstep hsettled hchecks hsql := by
    rcases mem_steps hstep with rfl | ⟨sql', hschema, -, hone⟩ | rfl | ⟨column, rfl⟩
    · cases hsql
      exact ⟨hchecks .syncedContactExists (by decide), hchecks .lacksId (by decide)⟩
    · rw [hone] at hsql
      cases hsql
      exact fresh_schema hschema file
    · cases hsql
      have hexists := hchecks .oldPkMigrationExists (by decide)
      exact ⟨hexists, hsettled hexists⟩
    · cases hsql
      exact hchecks (.lacksColumn column) (List.mem_singleton_self _)
  continues {opener step i file file' sql sql'} hstep hsql hnext hfresh hexec := by
    rcases mem_steps hstep with rfl | ⟨sql'', -, -, hone⟩ | rfl | ⟨column, rfl⟩
    · cases hnext
    · rw [hone] at hnext
      cases hnext
    · cases i with
      | zero =>
        cases hsql
        cases hnext
        obtain ⟨t, old, t', -, -, -, rfl⟩ := copy_ok hexec
        exact hfresh.1
      | succ i => cases hnext
    · cases hnext
  completes {opener step i file file' sql} hstep hsql hlast hsettled hfresh hexec := by
    rcases mem_steps hstep with rfl | ⟨sql', hschema, -, hone⟩ | rfl | ⟨column, rfl⟩
    · obtain rfl : i = 0 := Nat.succ.inj hlast
      cases hsql
      obtain ⟨t, rfl⟩ := rename_ok hexec
      exact fun _ => rfl
    · rw [hone] at hsql hlast
      obtain rfl : i = 0 := Nat.succ.inj hlast
      cases hsql
      obtain ⟨hrename, hcopy, hdrop⟩ := schema_moves_nothing hschema
      exact exec_settled hexec hrename hcopy hdrop (hsettled rfl)
    · obtain rfl : i = 1 := Nat.succ.inj hlast
      cases hsql
      obtain rfl := drop_ok hexec
      exact fun hexists => nomatch hexists
    · obtain rfl : i = 0 := Nat.succ.inj hlast
      cases hsql
      exact exec_settled hexec nofun nofun nofun (hsettled rfl)

/-! ## Whole opens -/

namespace OriginalFile

/-- An open that starts at a settled stage ends at the last one, or fails at a statement that a stage
refuses. -/
theorem open_stage (o : OriginalFile) {k : Nat} (hk : k ≤ openStatements.length)
    (hsettled : (o.stage k).Settled) (opener : Opener) :
    ((opener.open (o.stage k)).1 = o.stage openStatements.length ∧
        (opener.open (o.stage k)).2.Finished) ∨
      (opener.open (o.stage k)).2.Failed ∧
        ¬ Proceeds sqlite MigrationSql.Fresh openStatements o.file := by
  unfold Opener.open
  exact Migration.opened_of_settled o.sound_open reliable_open hk hsettled opener

theorem settled_file (o : OriginalFile) : o.file.Settled := fun h => nomatch h

theorem open_file (o : OriginalFile) (opener : Opener) :
    ((opener.open o.file).1 = o.stage openStatements.length ∧ (opener.open o.file).2.Finished) ∨
      (opener.open o.file).2.Failed ∧
        ¬ Proceeds sqlite MigrationSql.Fresh openStatements o.file :=
  o.open_stage (Nat.zero_le _) o.settled_file opener

end OriginalFile

end Signal2sip
