import Signal2sip.Storage.Records
import Signal2sip.Lib.Migration

/-!
# Opening a database file

What `Storage`'s constructor and `listAllAccounts` do to the schema of a file that an older version
wrote: `renameOldSyncedContactTableIfNeeded`, the statements of `schema.sql`,
`copyOldSyncedContactDataIfPresent` and `migrateAccountConfigColumnsIfNeeded`, statement by statement,
with the checks between them. SQLite commits every one of these statements by itself.

A file here is its schema, as far as these statements read or change it, and the rows that they move:
the configuration columns of `account` with their values, which of the other tables exist, and
`synced_contact` under its own name and under the temporary one. The key, the count that tests it and
`journal_mode` come before all this and leave it alone.
-/

namespace Signal2sip

/-! ## `account` -/

/-- The columns that `migrateAccountConfigColumnsIfNeeded` adds. -/
inductive ConfigColumn
  | serverUrl | sipHost | sipExtension | sipPassword | sipBridgeDestination | sipBridgeDid | sipSrtp
  | sipTransport | sipTlsCaFile | sipTlsInsecure | outgoingCallTarget | signalProxy
  | signalCensorshipCircumvention | enabled | configVersion
  deriving DecidableEq

inductive SqlValue
  | text (s : String)
  | integer (n : Int)
  deriving DecidableEq

namespace ConfigColumn

/-- In the order of `schema.sql`, which is that of the migration. -/
def all : List ConfigColumn :=
  [serverUrl, sipHost, sipExtension, sipPassword, sipBridgeDestination, sipBridgeDid, sipSrtp,
    sipTransport, sipTlsCaFile, sipTlsInsecure, outgoingCallTarget, signalProxy,
    signalCensorshipCircumvention, enabled, configVersion]

def name : ConfigColumn → String
  | serverUrl => "server_url"
  | sipHost => "sip_host"
  | sipExtension => "sip_extension"
  | sipPassword => "sip_password"
  | sipBridgeDestination => "sip_bridge_destination"
  | sipBridgeDid => "sip_bridge_did"
  | sipSrtp => "sip_srtp"
  | sipTransport => "sip_transport"
  | sipTlsCaFile => "sip_tls_ca_file"
  | sipTlsInsecure => "sip_tls_insecure"
  | outgoingCallTarget => "outgoing_call_target"
  | signalProxy => "signal_proxy"
  | signalCensorshipCircumvention => "signal_censorship_circumvention"
  | enabled => "enabled"
  | configVersion => "config_version"

/-- `DEFAULT`. -/
def default : ConfigColumn → SqlValue
  | sipSrtp => .text "disabled"
  | sipTransport => .text "udp"
  | sipTlsInsecure | signalCensorshipCircumvention | configVersion => .integer 0
  | enabled => .integer 1
  | _ => .text ""

end ConfigColumn

/-- `account`: its configuration columns, and in each row the account's name and the values of these
columns in their order. -/
structure AccountTable where
  columns : List ConfigColumn
  rows : List (String × List SqlValue)
  aligned : ∀ row ∈ rows, row.2.length = columns.length

namespace AccountTable

/-- What `CREATE TABLE` makes. -/
def created : AccountTable := ⟨ConfigColumn.all, [], nofun⟩

/-- What `ADD COLUMN` makes. -/
def addColumn (t : AccountTable) (column : ConfigColumn) : AccountTable where
  columns := t.columns ++ [column]
  rows := t.rows.map fun row => (row.1, row.2 ++ [column.default])
  aligned := by
    intro row hrow
    obtain ⟨old, hold, rfl⟩ := List.mem_map.mp hrow
    simp [t.aligned old hold]

def names (t : AccountTable) : List String := t.rows.map (·.1)

@[simp] theorem names_addColumn (t : AccountTable) (column : ConfigColumn) :
    (t.addColumn column).names = t.names := by
  simp [names, addColumn]

end AccountTable

/-! ## `synced_contact` -/

/-- The columns that both shapes of `synced_contact` have. -/
structure OldSyncedContactRow where
  accountName : String
  e164 : String
  aci : String
  pni : String
  profileKey : Bytes
  syncedAt : Int
  deriving DecidableEq

def SyncedContactRow.old (row : SyncedContactRow) : OldSyncedContactRow :=
  ⟨row.accountName, row.contact.e164, row.contact.aci, row.contact.pni, row.contact.profileKey,
    row.contact.syncedAt⟩

/-- The rows of the original shape, keyed by `(account_name, e164)`, or those of the current one, with
the last `id` that `AUTOINCREMENT` gave out. -/
inductive SyncedContacts
  | original (rows : List OldSyncedContactRow)
  | current (rows : List SyncedContactRow) (sequence : Int)
  deriving DecidableEq

def SyncedContacts.old : SyncedContacts → List OldSyncedContactRow
  | .original rows => rows
  | .current rows _ => rows.map (·.old)

/-- `idx_synced_contact_e164` and `idx_synced_contact_aci`. -/
inductive ContactIndex
  | e164 | aci
  deriving DecidableEq

namespace ContactIndex

def text : ContactIndex → OldSyncedContactRow → String
  | e164 => (·.e164)
  | aci => (·.aci)

/-- What the index keeps of a row: nothing of one whose text is empty. -/
def key (index : ContactIndex) (row : OldSyncedContactRow) : Option (String × String) :=
  if index.text row = "" then none else some (row.accountName, index.text row)

/-- No two rows of an account have the same text, unless it is empty. -/
def Unique (index : ContactIndex) (rows : List OldSyncedContactRow) : Prop :=
  (rows.filterMap index.key).Nodup

instance (index : ContactIndex) (rows : List OldSyncedContactRow) : Decidable (index.Unique rows) :=
  inferInstanceAs (Decidable (List.Nodup _))

theorem Unique.of_append {index : ContactIndex} {rows more : List OldSyncedContactRow}
    (h : index.Unique (rows ++ more)) : index.Unique rows :=
  h.sublist ((List.sublist_append_left rows more).filterMap index.key)

def violated : ContactIndex → String
  | e164 => "UNIQUE constraint failed: synced_contact.account_name, synced_contact.e164"
  | aci => "UNIQUE constraint failed: synced_contact.account_name, synced_contact.aci"

/-- The index that an `INSERT` of several rows runs into: it adds one row after the other, and looks at
the index that was created last first. -/
def firstViolated (indexes : List ContactIndex) (there : List OldSyncedContactRow) :
    List OldSyncedContactRow → Option ContactIndex
  | [] => none
  | row :: rows =>
    (indexes.reverse.find? fun index => ¬ index.Unique (there ++ [row])).or
      (firstViolated indexes (there ++ [row]) rows)

/-- If one index alone is in the way, that is the one. -/
theorem firstViolated_eq {indexes : List ContactIndex} {index : ContactIndex}
    {there rows : List OldSyncedContactRow} (hmem : index ∈ indexes)
    (hothers : ∀ other ∈ indexes, other ≠ index → other.Unique (there ++ rows))
    (hthere : index.Unique there) (hviolated : ¬ index.Unique (there ++ rows)) :
    firstViolated indexes there rows = some index := by
  induction rows generalizing there with
  | nil =>
    rw [List.append_nil] at hviolated
    exact absurd hthere hviolated
  | cons row rows ih =>
    rw [List.append_cons] at hothers hviolated
    rw [firstViolated]
    by_cases hrow : index.Unique (there ++ [row])
    · have hnone : (indexes.reverse.find? fun index => ¬ index.Unique (there ++ [row])) = none := by
        refine List.find?_eq_none.mpr fun other hother => ?_
        have hunique : other.Unique (there ++ [row]) := by
          by_cases hsame : other = index
          · exact hsame ▸ hrow
          · exact (hothers other (List.mem_reverse.mp hother) hsame).of_append
        simpa using hunique
      rw [hnone, Option.none_or]
      exact ih hothers hrow hviolated
    · have hfound : (indexes.reverse.find? fun index => ¬ index.Unique (there ++ [row])) = some index := by
        obtain ⟨other, hother⟩ : ∃ other, (indexes.reverse.find? fun index =>
            ¬ index.Unique (there ++ [row])) = some other := by
          refine Option.isSome_iff_exists.mp (List.find?_isSome.mpr ⟨index, ?_, by simpa using hrow⟩)
          exact List.mem_reverse.mpr hmem
        have hbroken : ¬ other.Unique (there ++ [row]) := by simpa using List.find?_some hother
        by_cases hsame : other = index
        · rw [hother, hsame]
        · have hin : other ∈ indexes := List.mem_reverse.mp (List.mem_of_find?_eq_some hother)
          exact absurd (hothers other hin hsame).of_append hbroken
      rw [hfound, Option.some_or]

end ContactIndex

/-- A table of contacts and the unique indexes on it. -/
structure SyncedContactTable where
  contacts : SyncedContacts
  indexes : List ContactIndex
  unique : ∀ index ∈ indexes, index.Unique contacts.old

namespace SyncedContactTable

/-- What `CREATE TABLE` makes. -/
def created : SyncedContactTable := ⟨.current [] 0, [], nofun⟩

def addIndex (t : SyncedContactTable) (index : ContactIndex) (h : index.Unique t.contacts.old) :
    SyncedContactTable where
  contacts := t.contacts
  indexes := t.indexes ++ [index]
  unique := by
    intro other hother
    rcases List.mem_append.mp hother with hold | hnew
    · exact t.unique other hold
    · rw [List.mem_singleton.mp hnew]
      exact h

/-- The rows that the copy makes: new ids, and empty names. -/
def numbered (sequence : Int) : List OldSyncedContactRow → List SyncedContactRow
  | [] => []
  | row :: rows =>
    ⟨sequence + 1, row.accountName, ⟨row.e164, row.aci, row.pni, row.profileKey, "", "", row.syncedAt⟩⟩
      :: numbered (sequence + 1) rows

@[simp] theorem numbered_old (sequence : Int) (rows : List OldSyncedContactRow) :
    (numbered sequence rows).map (·.old) = rows := by
  induction rows generalizing sequence with
  | nil => rfl
  | cons row rows ih =>
    rw [numbered, List.map_cons, ih]
    rfl

theorem numbered_names {sequence : Int} {rows : List OldSyncedContactRow} :
    ∀ row ∈ numbered sequence rows, row.contact.givenName = "" ∧ row.contact.familyName = "" := by
  induction rows generalizing sequence with
  | nil => exact fun row h => nomatch h
  | cons row rows ih =>
    intro new hnew
    rcases List.mem_cons.mp hnew with rfl | htail
    · exact ⟨rfl, rfl⟩
    · exact ih new htail

/-- `INSERT INTO synced_contact … SELECT`: all the rows or none. The connection has its foreign keys
on, from the first statement of `schema.sql`. -/
def insertOld (t : SyncedContactTable) (accountNames : List String)
    (rows : List OldSyncedContactRow) : Except String SyncedContactTable :=
  match t.contacts with
  | .original _ => .error "table synced_contact has no column named given_name"
  | .current there sequence =>
    let contacts : SyncedContacts :=
      .current (there ++ numbered sequence rows) (sequence + rows.length)
    if h : ∀ index ∈ t.indexes, index.Unique contacts.old then
      if ∀ row ∈ rows, row.accountName ∈ accountNames then .ok ⟨contacts, t.indexes, h⟩
      else .error "FOREIGN KEY constraint failed"
    else .error (((ContactIndex.firstViolated t.indexes t.contacts.old rows).map (·.violated)).getD "")

end SyncedContactTable

/-! ## The file and its statements -/

/-- The tables that no version has changed. -/
inductive OtherTable
  | identityKeypair | signedPrekey | kyberPrekey | session | remoteIdentity | resolvedContact
  deriving DecidableEq

structure DatabaseFile where
  account : Option AccountTable
  others : List OtherTable
  syncedContact : Option SyncedContactTable
  syncedContactOldPkMigration : Option SyncedContactTable

namespace DatabaseFile

def accountNames (file : DatabaseFile) : List String := (file.account.map (·.names)).getD []

def configColumns (file : DatabaseFile) : List ConfigColumn := (file.account.map (·.columns)).getD []

/-- The names of indexes are those of the file, whatever table they are on. -/
def hasIndex (file : DatabaseFile) (index : ContactIndex) : Bool :=
  (file.syncedContact.any fun t => index ∈ t.indexes) ||
    file.syncedContactOldPkMigration.any fun t => index ∈ t.indexes

end DatabaseFile

/-- The statements that check. `tableExists` asks for one of two tables. -/
inductive MigrationCheck
  | syncedContactExists
  | oldPkMigrationExists
  | lacksId
  | lacksColumn (column : ConfigColumn)
  deriving DecidableEq

/-- A function of the migration goes on when its check holds. -/
def MigrationCheck.holds : MigrationCheck → DatabaseFile → Bool
  | .syncedContactExists, file => file.syncedContact.isSome
  | .oldPkMigrationExists, file => file.syncedContactOldPkMigration.isSome
  | .lacksId, file =>
    match file.syncedContact with
    | some ⟨.current _ _, _, _⟩ => false
    | _ => true
  | .lacksColumn column, file => column ∉ file.configColumns

/-- The statements that act. -/
inductive MigrationSql
  | renameSyncedContact
  | foreignKeysOn
  | createAccount
  | createTable (table : OtherTable)
  | createSyncedContact
  | createIndex (index : ContactIndex)
  | copyOldRows
  | dropOldPkMigration
  | addColumn (column : ConfigColumn)
  deriving DecidableEq

def noSuchTable (name : String) : String := "no such table: " ++ name

/-- One statement, and the engine's message when it refuses it. -/
def MigrationSql.exec : MigrationSql → DatabaseFile → Except String DatabaseFile
  | .renameSyncedContact, file =>
    match file.syncedContact, file.syncedContactOldPkMigration with
    | none, _ => .error (noSuchTable "synced_contact")
    | some _, some _ =>
      .error ("there is already another table or index with this name: " ++
        "synced_contact_old_pk_migration")
    | some t, none => .ok { file with syncedContact := none, syncedContactOldPkMigration := some t }
  | .foreignKeysOn, file => .ok file
  | .createAccount, file => .ok { file with account := some (file.account.getD .created) }
  | .createTable table, file =>
    .ok { file with others := if table ∈ file.others then file.others else file.others ++ [table] }
  | .createSyncedContact, file =>
    .ok { file with syncedContact := some (file.syncedContact.getD .created) }
  | .createIndex index, file =>
    if file.hasIndex index then .ok file
    else
      match file.syncedContact with
      | none => .error (noSuchTable "main.synced_contact")
      | some t =>
        if h : index.Unique t.contacts.old then
          .ok { file with syncedContact := some (t.addIndex index h) }
        else .error index.violated
  | .copyOldRows, file =>
    match file.syncedContact, file.syncedContactOldPkMigration with
    | none, _ => .error (noSuchTable "synced_contact")
    | some _, none => .error (noSuchTable "synced_contact_old_pk_migration")
    | some t, some old => do
      let t ← t.insertOld file.accountNames old.contacts.old
      return { file with syncedContact := some t }
  | .dropOldPkMigration, file =>
    match file.syncedContactOldPkMigration with
    | none => .error (noSuchTable "synced_contact_old_pk_migration")
    | some _ => .ok { file with syncedContactOldPkMigration := none }
  | .addColumn column, file =>
    match file.account with
    | none => .error (noSuchTable "account")
    | some t =>
      if column ∈ t.columns then .error ("duplicate column name: " ++ column.name)
      else .ok { file with account := some (t.addColumn column) }

/-- SQLite, one statement at a time. -/
def sqlite : Migration.Engine MigrationCheck MigrationSql DatabaseFile String where
  holds := MigrationCheck.holds
  exec := MigrationSql.exec

/-! ## The open sequence -/

abbrev MigrationStep := Migration.Step MigrationCheck MigrationSql String RuntimeError

/-- A client of the file that is opening it. -/
abbrev OpeningClient := Migration.Client MigrationCheck MigrationSql String RuntimeError

def renameOldSyncedContactTableIfNeeded : MigrationStep where
  checks := [.syncedContactExists, .lacksId]
  statements := [.renameSyncedContact]
  rethrow err := ⟨"failed to rename old synced_contact table for migration: " ++ err⟩

/-- The statements of `schema.sql`. -/
def kSchemaSql : List MigrationSql :=
  [.foreignKeysOn, .createAccount, .createTable .identityKeypair, .createTable .signedPrekey,
    .createTable .kyberPrekey, .createTable .session, .createTable .remoteIdentity,
    .createTable .resolvedContact, .createSyncedContact, .createIndex .e164, .createIndex .aci]

/-- Every statement of `schema.sql` is a step of its own. -/
def applySchema (failed : String) : List MigrationStep :=
  kSchemaSql.map fun sql => { checks := [], statements := [sql], rethrow := fun err => ⟨failed ++ err⟩ }

def copyOldSyncedContactDataIfPresent : MigrationStep where
  checks := [.oldPkMigrationExists]
  statements := [.copyOldRows, .dropOldPkMigration]
  rethrow err := ⟨"failed to migrate synced_contact data to new schema: " ++ err⟩

/-- `addColumnIfMissing` for `account`. -/
def addColumnIfMissing (column : ConfigColumn) : MigrationStep where
  checks := [.lacksColumn column]
  statements := [.addColumn column]
  rethrow err := ⟨"failed to add column " ++ column.name ++ " to account: " ++ err⟩

def migrateAccountConfigColumnsIfNeeded : List MigrationStep :=
  ConfigColumn.all.map addColumnIfMissing

/-- The two functions that open a file. They differ in what they throw when the schema fails. -/
inductive Opener
  | storage | listAllAccounts
  deriving DecidableEq

def Opener.schemaFailed : Opener → String
  | storage => "failed to apply schema: "
  | listAllAccounts => "listAllAccounts: failed to apply schema: "

def Opener.steps (opener : Opener) : List MigrationStep :=
  renameOldSyncedContactTableIfNeeded :: applySchema opener.schemaFailed ++
    copyOldSyncedContactDataIfPresent :: migrateAccountConfigColumnsIfNeeded

/-- A whole open that nothing interrupts. -/
@[irreducible] def Opener.open (opener : Opener) (file : DatabaseFile) : DatabaseFile × OpeningClient :=
  sqlite.opened opener.steps file

/-! ## Files of the older version -/

/-- A file with the original `synced_contact`, whatever configuration columns `account` has: the
primary key of the contacts holds, and every contact references an account. -/
structure OriginalFile where
  account : Option AccountTable
  others : List OtherTable
  contacts : List OldSyncedContactRow
  primaryKey : (contacts.map fun row => (row.accountName, row.e164)).Nodup
  references : ∀ row ∈ contacts, row.accountName ∈ (account.map (·.names)).getD []

namespace OriginalFile

def originalTable (o : OriginalFile) : SyncedContactTable := ⟨.original o.contacts, [], nofun⟩

def file (o : OriginalFile) : DatabaseFile := ⟨o.account, o.others, some o.originalTable, none⟩

end OriginalFile

end Signal2sip
