import Signal2sip.Storage.Records
import Signal2sip.Lib.CxxString
import Mathlib.Data.List.Sort

/-!
# `Storage`

The operations of `Storage.cpp`. A `Storage` object is one account's view of the shared file, so an
operation takes the file's contents and the account's name first. It takes the failures to inject
into its statements last, and returns both the step results the engine gave and the value, or the
exception, that the C++ function makes of them. A write returns the file's new contents.

Every read but `loadAccount` treats each result other than a row as "absent". Every write compares
its result with `SQLITE_DONE`. The statements keep the difference: reads are `firstRow` and
`collectRows`, writes are `execute`.

Constraints are the engine's: an insert without an account row violates the foreign key, an
`identity` outside the two legal ones violates its check, and `synced_contact` has a unique
non-empty `e164` and a unique non-empty `aci` for each account.
-/

namespace Signal2sip

open Sqlite (Faults Outcome firstRow collectRows execute)

/-- What a `Storage` function does to the engine and returns to its caller. -/
abbrev Result (α : Type) := Outcome RuntimeError α

/-- `Stmt`'s constructor throws this when a prepare fails. -/
def prepareFailed (e : Sqlite.Error) : RuntimeError :=
  ⟨"sqlite3_prepare_v2 failed: " ++ e.message⟩

/-- A write throws this when its step does not return `SQLITE_DONE`. -/
def stepFailed (op : String) (e : Sqlite.Error) : RuntimeError := ⟨op ++ " failed: " ++ e.message⟩

def foreignKeyFailed : Sqlite.Error := ⟨.constraint, "FOREIGN KEY constraint failed"⟩

def identityCheckFailed : Sqlite.Error :=
  ⟨.constraint, "CHECK constraint failed: identity IN ('aci', 'pni')"⟩

def uniqueFailed (column : String) : Sqlite.Error :=
  ⟨.constraint, "UNIQUE constraint failed: synced_contact.account_name, synced_contact." ++ column⟩

/-- `INSERT … ON CONFLICT … DO UPDATE` of a row that references an account. The update leaves
`account_name` alone, so only the insert meets the foreign key. -/
def upsert {κ α : Type} [DecidableEq κ] (db : Db) (accountName : String) (t : Table κ α) (k : κ)
    (v : α) : Except Sqlite.Error (Table κ α) :=
  if k ∈ t ∨ accountName ∈ db.account then .ok (t.insert k v) else .error foreignKeyFailed

/-- An upsert into one of the three tables with a checked `identity` column. -/
def upsertIdentity {α : Type} (db : Db) (accountName identity : String)
    (t : Table (String × String) α) (v : α) : Except Sqlite.Error (Table (String × String) α) :=
  if identity = "aci" ∨ identity = "pni" then upsert db accountName t (accountName, identity) v
  else .error identityCheckFailed

/-- An upsert that the engine accepts has inserted the row. -/
theorem upsert_ok {κ α : Type} [DecidableEq κ] {db : Db} {accountName : String} {t t' : Table κ α}
    {k : κ} {v : α} (h : upsert db accountName t k v = .ok t') : t' = t.insert k v := by
  unfold upsert at h
  split at h <;> cases h
  rfl

theorem upsertIdentity_ok {α : Type} {db : Db} {accountName identity : String}
    {t t' : Table (String × String) α} {v : α}
    (h : upsertIdentity db accountName identity t v = .ok t') :
    t' = t.insert (accountName, identity) v := by
  unfold upsertIdentity at h
  split at h
  · exact upsert_ok h
  · cases h

/-- A write that succeeds has had its table's new contents accepted. -/
theorem execute_map_ok {τ : Type} {failed : Sqlite.Error → RuntimeError} {f : Faults}
    {table : Except Sqlite.Error τ} {g : τ → Db} {db' : Db}
    (h : (execute prepareFailed failed f (table.map g)).value = .ok db') :
    ∃ t, table = .ok t ∧ db' = g t := by
  obtain ⟨-, -, heffect⟩ := Sqlite.execute_ok_iff.mp h
  cases table with
  | error e => cases heffect
  | ok t =>
    cases heffect
    exact ⟨t, rfl, rfl⟩

namespace Storage

variable (db : Db) (accountName_ : String)

/-- A statement that can only return the row of one key. -/
def lookupRow {κ α : Type} [DecidableEq κ] (t : Table κ α) (k : κ) (f : Faults) :
    Result (Option α) :=
  firstRow prepareFailed f (t.lookup k).toList

/-- What a keyed lookup answers. -/
theorem lookupRow_ok_iff {κ α : Type} [DecidableEq κ] {t : Table κ α} {k : κ} {f : Faults}
    {answer : Option α} :
    (lookupRow t k f).value = .ok answer ↔
      f.prepare = none ∧ answer = if f.step 0 = none then t.lookup k else none := by
  rw [lookupRow, Sqlite.firstRow_ok_iff]
  cases t.lookup k <;> rfl

/-! ## The account row -/

/-- `SELECT count(*)` returns a row. The step's result is not looked at, and a column of a statement
that is not on a row reads as 0. -/
def hasAccount (f : Faults) : Result Bool :=
  let count : Nat := if accountName_ ∈ db.account then 1 else 0
  (firstRow prepareFailed f [count]).map fun column => decide (column.getD 0 > 0)

def loadAccount (f : Faults) : Result AccountRecord :=
  (lookupRow db.account accountName_ f).bind fun
    | none => .throw ⟨"loadAccount: no account row present"⟩
    | some account => .pure account

theorem loadAccount_ok_iff {db : Db} {accountName_ : String} {f : Faults} {account : AccountRecord} :
    (loadAccount db accountName_ f).value = .ok account ↔
      f.prepare = none ∧ f.step 0 = none ∧ db.row accountName_ = some account := by
  rw [loadAccount, Outcome.bind_ok_iff]
  constructor
  · rintro ⟨row, hrow, haccount⟩
    obtain ⟨hprepare, hanswer⟩ := lookupRow_ok_iff.mp hrow
    cases row with
    | none => cases haccount
    | some row =>
      cases haccount
      split at hanswer
      · next hstep => exact ⟨hprepare, hstep, hanswer.symm⟩
      · cases hanswer
  · rintro ⟨hprepare, hstep, hrow⟩
    exact ⟨some account, lookupRow_ok_iff.mpr ⟨hprepare, by rw [if_pos hstep]; exact hrow.symm⟩, rfl⟩

/-- The new contents of `account` after `saveAccountConfig`'s `UPDATE`, and `sqlite3_changes`. -/
def updateAccountConfig (config : ConfigColumns) : Db × Nat :=
  ({ db with
      account := db.account.modify accountName_ fun row =>
        { row with toConfigColumns := config, configVersion := row.configVersion + 1 } },
    if accountName_ ∈ db.account then 1 else 0)

/-- An `UPDATE` of the configuration columns that counts itself; it throws when there is no row. -/
def saveAccountConfig (account : AccountRecord) (f : Faults) : Result Db :=
  (execute prepareFailed (stepFailed "saveAccountConfig") f
    (.ok (updateAccountConfig db accountName_ account.toConfigColumns))).bind fun (db', changes) =>
      if changes = 0 then
        .throw ⟨"saveAccountConfig: no account row named '" ++ accountName_ ++ "' to update"⟩
      else .pure db'

/-- A `saveAccountConfig` that returns has found a row. -/
theorem saveAccountConfig_ok {db db' : Db} {accountName_ : String} {account : AccountRecord}
    {f : Faults} (h : (saveAccountConfig db accountName_ account f).value = .ok db') :
    accountName_ ∈ db.account ∧
      db' = (updateAccountConfig db accountName_ account.toConfigColumns).1 := by
  obtain ⟨⟨db₁, changes⟩, hexecute, hanswer⟩ := Outcome.bind_ok_iff.mp h
  obtain ⟨-, -, heffect⟩ := Sqlite.execute_ok_iff.mp hexecute
  simp only at hanswer
  split at hanswer
  · cases hanswer
  · next hchanges =>
    cases hanswer
    have hpair := Except.ok.inj heffect
    refine ⟨?_, (congrArg Prod.fst hpair).symm⟩
    by_contra habsent
    exact hchanges ((congrArg Prod.snd hpair).symm.trans (if_neg habsent))

/-- The row an upsert of the identity columns leaves: configuration and counter are the old row's,
or the defaults of `schema.sql` in a new one. -/
def withIdentity (old : Option AccountRecord) (identity : IdentityColumns) : AccountRecord :=
  match old with
  | none => { toIdentityColumns := identity }
  | some row => { row with toIdentityColumns := identity }

/-- The contents of the file after an upsert of the identity columns. -/
def withSavedAccount (account : AccountRecord) : Db :=
  { db with
    account := db.account.insert accountName_
      (withIdentity (db.row accountName_) account.toIdentityColumns) }

def saveAccount (account : AccountRecord) (f : Faults) : Result Db :=
  execute prepareFailed (stepFailed "saveAccount") f
    (.ok (withSavedAccount db accountName_ account))

/-- The upsert meets no constraint: it happens unless its statement fails, and then it throws. -/
theorem saveAccount_cases (db : Db) (accountName_ : String) (account : AccountRecord) (f : Faults) :
    (f.prepare = none ∧ f.step 0 = none ∧
      (saveAccount db accountName_ account f).value =
        .ok (withSavedAccount db accountName_ account)) ∨
    ((f.prepare ≠ none ∨ f.step 0 ≠ none) ∧
      ∃ e, (saveAccount db accountName_ account f).value = .error e) := by
  by_cases h : f.prepare = none ∧ f.step 0 = none
  · exact Or.inl ⟨h.1, h.2, Sqlite.execute_ok_iff.mpr ⟨h.1, h.2, rfl⟩⟩
  · refine Or.inr ⟨by rwa [not_and_or] at h, ?_⟩
    cases hv : (saveAccount db accountName_ account f).value with
    | error e => exact ⟨e, rfl⟩
    | ok db' =>
      obtain ⟨hp, hs, -⟩ := Sqlite.execute_ok_iff.mp hv
      exact absurd ⟨hp, hs⟩ h

/-! ## Keys -/

def saveIdentityKeypair (identity : String) (keypair : IdentityKeypairRecord) (f : Faults) :
    Result Db :=
  execute prepareFailed (stepFailed "saveIdentityKeypair") f <|
    (upsertIdentity db accountName_ identity db.identityKeypair keypair).map fun t =>
      { db with identityKeypair := t }

def loadIdentityKeypair (identity : String) (f : Faults) :
    Result (Option IdentityKeypairRecord) :=
  lookupRow db.identityKeypair (accountName_, identity) f

def saveSignedPrekey (identity : String) (prekey : SignedPrekeyRecord) (f : Faults) : Result Db :=
  execute prepareFailed (stepFailed "saveSignedPrekey") f <|
    (upsertIdentity db accountName_ identity db.signedPrekey prekey).map fun t =>
      { db with signedPrekey := t }

theorem saveSignedPrekey_ok {db db' : Db} {accountName_ identity : String}
    {prekey : SignedPrekeyRecord} {f : Faults}
    (h : (saveSignedPrekey db accountName_ identity prekey f).value = .ok db') :
    db' = { db with signedPrekey := db.signedPrekey.insert (accountName_, identity) prekey } := by
  obtain ⟨t, ht, rfl⟩ := execute_map_ok h
  rw [upsertIdentity_ok ht]

def loadSignedPrekey (identity : String) (f : Faults) : Result (Option SignedPrekeyRecord) :=
  lookupRow db.signedPrekey (accountName_, identity) f

def saveKyberPrekey (identity : String) (prekey : KyberPrekeyRecord) (f : Faults) : Result Db :=
  execute prepareFailed (stepFailed "saveKyberPrekey") f <|
    (upsertIdentity db accountName_ identity db.kyberPrekey prekey).map fun t =>
      { db with kyberPrekey := t }

theorem saveKyberPrekey_ok {db db' : Db} {accountName_ identity : String}
    {prekey : KyberPrekeyRecord} {f : Faults}
    (h : (saveKyberPrekey db accountName_ identity prekey f).value = .ok db') :
    db' = { db with kyberPrekey := db.kyberPrekey.insert (accountName_, identity) prekey } := by
  obtain ⟨t, ht, rfl⟩ := execute_map_ok h
  rw [upsertIdentity_ok ht]

def loadKyberPrekey (identity : String) (f : Faults) : Result (Option KyberPrekeyRecord) :=
  lookupRow db.kyberPrekey (accountName_, identity) f

/-! ## Sessions and remote identities -/

def saveSession (address : String) (record : Bytes) (f : Faults) : Result Db :=
  execute prepareFailed (stepFailed "saveSession") f <|
    (upsert db accountName_ db.session (accountName_, address) record).map fun t =>
      { db with session := t }

def loadSession (address : String) (f : Faults) : Result (Option Bytes) :=
  lookupRow db.session (accountName_, address) f

/-- The addresses that `knownDeviceIdsFor`'s statement selects. It asks for no order, and comes upon
them in that of the primary key, whose index it reads. -/
def addressesLike (pattern : String) : List String :=
  (((rowsOf accountName_ db.session).map Prod.fst).filter fun address =>
    Sqlite.likeText pattern address).insertionSort (· ≤ ·)

/-- The device id at the end of an address key; an address without a dot, or with something else
after it, has none. -/
def deviceIdOfAddress (address : String) : Option Int :=
  (CxxString.splitLast '.' address).bind fun parts => CxxString.stoi parts.2

def knownDeviceIdsFor (serviceId : String) (f : Faults) : Result (List Int) :=
  (collectRows prepareFailed f (addressesLike db accountName_ (serviceId ++ ".%"))).map
    fun addresses => addresses.filterMap deviceIdOfAddress

def saveRemoteIdentity (address : String) (publicKey : Bytes) (f : Faults) : Result Db :=
  execute prepareFailed (stepFailed "saveRemoteIdentity") f <|
    (upsert db accountName_ db.remoteIdentity (accountName_, address) publicKey).map fun t =>
      { db with remoteIdentity := t }

theorem saveRemoteIdentity_ok {db db' : Db} {accountName_ address : String} {publicKey : Bytes}
    {f : Faults} (h : (saveRemoteIdentity db accountName_ address publicKey f).value = .ok db') :
    db' = { db with
      remoteIdentity := db.remoteIdentity.insert (accountName_, address) publicKey } := by
  obtain ⟨t, ht, rfl⟩ := execute_map_ok h
  rw [upsert_ok ht]

def loadRemoteIdentity (address : String) (f : Faults) : Result (Option Bytes) :=
  lookupRow db.remoteIdentity (accountName_, address) f

/-! ## Contacts -/

/-- `now` is `std::time(nullptr)` at the call. -/
def saveResolvedContact (e164 aci pni : String) (now : Int) (f : Faults) : Result Db :=
  execute prepareFailed (stepFailed "saveResolvedContact") f <|
    (upsert db accountName_ db.resolvedContact (accountName_, e164) ⟨aci, pni, now⟩).map fun t =>
      { db with resolvedContact := t }

def loadResolvedContact (e164 : String) (f : Faults) : Result (Option ResolvedContactRecord) :=
  lookupRow db.resolvedContact (accountName_, e164) f

/-- The rows of `synced_contact` with a given text in one of the two indexed columns. -/
def syncedRowsBy (column : SyncedContactRecord → String) (text : String) : List SyncedContactRow :=
  db.syncedContact.filter fun row => row.accountName = accountName_ ∧ column row.contact = text

def loadSyncedContact (e164 : String) (f : Faults) : Result (Option SyncedContactRecord) :=
  (firstRow prepareFailed f (syncedRowsBy db accountName_ (·.e164) e164)).map fun row =>
    row.map (·.contact)

def loadSyncedContactByAci (aci : String) (f : Faults) : Result (Option SyncedContactRecord) :=
  (firstRow prepareFailed f (syncedRowsBy db accountName_ (·.aci) aci)).map fun row =>
    row.map (·.contact)

/-- One of the two finds of `saveSyncedContact`: the id it selects, if its step returned a row. -/
def findSyncedContact (column : SyncedContactRecord → String) (text : String) (f : Faults) :
    Result (Option Int) :=
  (firstRow prepareFailed f (syncedRowsBy db accountName_ column text)).map fun row =>
    row.map (·.id)

/-- `existingId`: the row found by `e164`, else by `aci`. An empty text is not looked for, and a
negative id counts as "not found". -/
def findExistingContact (e164 aci : String) (fE164 fAci : Faults) : Result (Option Int) :=
  let found (id : Option Int) : Option Int := id.filter (0 ≤ ·)
  let byE164 : Result (Option Int) :=
    if e164 ≠ "" then findSyncedContact db accountName_ (·.e164) e164 fE164 else .pure none
  byE164.bind fun existingId =>
    match found existingId with
    | some id => .pure (some id)
    | none =>
      if aci ≠ "" then (findSyncedContact db accountName_ (·.aci) aci fAci).map found
      else .pure none

/-- A contact may not share a non-empty `e164` or `aci` with another row of its account. The index that
was created last is looked at first. -/
def uniqueViolation (others : List SyncedContactRow) (contact : SyncedContactRecord) :
    Option Sqlite.Error :=
  let mine := others.filter fun row => row.accountName = accountName_
  if contact.aci ≠ "" ∧ mine.any (fun row => row.contact.aci = contact.aci) then
    some (uniqueFailed "aci")
  else if contact.e164 ≠ "" ∧ mine.any (fun row => row.contact.e164 = contact.e164) then
    some (uniqueFailed "e164")
  else none

def updateSyncedContact (id : Int) (contact : SyncedContactRecord) : Except Sqlite.Error Db :=
  match uniqueViolation accountName_ (db.syncedContact.filter fun row => row.id ≠ id) contact with
  | some e => .error e
  | none => .ok { db with
      syncedContact := db.syncedContact.map fun row =>
        if row.id = id then { row with contact := contact } else row }

def insertSyncedContact (contact : SyncedContactRecord) : Except Sqlite.Error Db :=
  match uniqueViolation accountName_ db.syncedContact contact with
  | some e => .error e
  | none =>
    if accountName_ ∈ db.account then
      .ok { db with
        syncedContact := db.syncedContact ++ [⟨db.nextContactId, accountName_, contact⟩]
        nextContactId := db.nextContactId + 1 }
    else .error foreignKeyFailed

/-- Find a row by `e164`, then by `aci`; update it, or insert a new one. -/
def saveSyncedContact (e164 aci pni : String) (profileKey : Bytes) (givenName familyName : String)
    (now : Int) (fE164 fAci fWrite : Faults) : Result Db :=
  let contact : SyncedContactRecord := ⟨e164, aci, pni, profileKey, givenName, familyName, now⟩
  (findExistingContact db accountName_ e164 aci fE164 fAci).bind fun
    | some id =>
      execute prepareFailed (stepFailed "saveSyncedContact (update)") fWrite
        (updateSyncedContact db accountName_ id contact)
    | none =>
      execute prepareFailed (stepFailed "saveSyncedContact (insert)") fWrite
        (insertSyncedContact db accountName_ contact)

/-! ## Removing and listing accounts -/

/-- `kTables`, in the order in which `deleteAccount` empties them. -/
inductive TableName
  | identityKeypair | signedPrekey | kyberPrekey | session | remoteIdentity | resolvedContact
  | syncedContact | account
deriving DecidableEq, Repr

def TableName.sqlName : TableName → String
  | .identityKeypair => "identity_keypair"
  | .signedPrekey => "signed_prekey"
  | .kyberPrekey => "kyber_prekey"
  | .session => "session"
  | .remoteIdentity => "remote_identity"
  | .resolvedContact => "resolved_contact"
  | .syncedContact => "synced_contact"
  | .account => "account"

def kTables : List TableName :=
  [.identityKeypair, .signedPrekey, .kyberPrekey, .session, .remoteIdentity, .resolvedContact,
    .syncedContact, .account]

/-- `DELETE FROM table WHERE account_name = ?`. -/
def deleteFrom : TableName → Db
  | .identityKeypair =>
    { db with identityKeypair := db.identityKeypair.filterKeys (·.1 ≠ accountName_) }
  | .signedPrekey => { db with signedPrekey := db.signedPrekey.filterKeys (·.1 ≠ accountName_) }
  | .kyberPrekey => { db with kyberPrekey := db.kyberPrekey.filterKeys (·.1 ≠ accountName_) }
  | .session => { db with session := db.session.filterKeys (·.1 ≠ accountName_) }
  | .remoteIdentity =>
    { db with remoteIdentity := db.remoteIdentity.filterKeys (·.1 ≠ accountName_) }
  | .resolvedContact =>
    { db with resolvedContact := db.resolvedContact.filterKeys (·.1 ≠ accountName_) }
  | .syncedContact =>
    { db with syncedContact := db.syncedContact.filter (·.accountName ≠ accountName_) }
  | .account => { db with account := db.account.erase accountName_ }

/-- The deletes of the transaction, each on the contents the one before it left. -/
def deleteTables (f : TableName → Faults) : Db → List TableName → Result Db
  | db, [] => .pure db
  | db, t :: ts =>
    (execute prepareFailed (stepFailed ("DELETE FROM " ++ t.sqlName)) (f t)
      (.ok (deleteFrom db accountName_ t))).bind fun db' => deleteTables f db' ts

/-- When no delete fails, the tables are emptied of the account one after the other. -/
theorem deleteTables_ok_iff {db db' : Db} {accountName_ : String} {f : TableName → Faults}
    {ts : List TableName} :
    (deleteTables accountName_ f db ts).value = .ok db' ↔
      (∀ t ∈ ts, (f t).prepare = none ∧ (f t).step 0 = none) ∧
        ts.foldl (fun d t => deleteFrom d accountName_ t) db = db' := by
  induction ts generalizing db with
  | nil => simp [deleteTables, Sqlite.Outcome.pure]
  | cons t ts ih =>
    rw [deleteTables, Sqlite.Outcome.bind_ok_iff, List.forall_mem_cons, List.foldl_cons]
    constructor
    · rintro ⟨db₁, hdelete, hrest⟩
      obtain ⟨hprepare, hstep, heffect⟩ := Sqlite.execute_ok_iff.mp hdelete
      cases heffect
      obtain ⟨hpass, hlast⟩ := ih.mp hrest
      exact ⟨⟨⟨hprepare, hstep⟩, hpass⟩, hlast⟩
    · rintro ⟨⟨⟨hprepare, hstep⟩, hpass⟩, hlast⟩
      exact ⟨deleteFrom db accountName_ t, Sqlite.execute_ok_iff.mpr ⟨hprepare, hstep, rfl⟩,
        ih.mpr ⟨hpass, hlast⟩⟩

/-- One transaction over the eight tables. A failed delete rolls back and a failed `COMMIT` leaves
nothing committed, so only the last return value is ever in the file. -/
def deleteAccount (beginFault : Option Sqlite.Error) (f : TableName → Faults)
    (commitFault : Option Sqlite.Error) : Result Db :=
  match beginFault with
  | some e => .throw ⟨"deleteAccount: BEGIN failed: " ++ e.message⟩
  | none =>
    (deleteTables accountName_ f db kTables).bind fun db' =>
      match commitFault with
      | some e => .throw ⟨"deleteAccount: COMMIT failed: " ++ e.message⟩
      | none => .pure db'

end Storage

/-- The rows of `account` in the order of their names. -/
def Db.accountsByName (db : Db) : List (String × AccountRecord) :=
  (db.account.keys.insertionSort (· ≤ ·)).filterMap fun name => (db.row name).map (name, ·)

def AccountSummary.ofRow (row : String × AccountRecord) : AccountSummary :=
  ⟨row.1, row.2.e164, row.2.enabled, row.2.configVersion⟩

/-- The statement of `listAllAccounts`, on a connection that is already open. -/
def listAllAccountsRows (db : Db) (f : Faults) : Result (List AccountSummary) :=
  (collectRows prepareFailed f db.accountsByName).map (·.map AccountSummary.ofRow)

end Signal2sip
