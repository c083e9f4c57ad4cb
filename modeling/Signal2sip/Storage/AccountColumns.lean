import Signal2sip.Lib.Agree
import Signal2sip.Lib.Columns
import Signal2sip.Storage.Storage
import Mathlib.Algebra.Group.Int.Defs
import Mathlib.Algebra.Group.Nat.Defs

/-!
# The columns of `account`

`saveAccount`, `saveAccountConfig` and `loadAccount` once more, one level further down: the two
writes bind fifteen parameters each and the read takes twenty-nine columns, all by position. Here
the lists of columns are those of the statements' texts and the positions those of the calls, and a
row is what the engine keeps: a value with a storage class for each column.

`columnsOf` is the row that an `AccountRecord` should have. The two writes leave exactly the rows
that `Storage.saveAccount` and `Storage.saveAccountConfig` say, and the read gives the record back:
that is what makes the records of the storage model an honest account of the columns.

`device_id` is an `int`: it is bound and read with 32 bits. `int64_t` is the engine's own integer.
-/

namespace Signal2sip

open Sqlite (Agree SameAnswer Faults Outcome Value Casts Assigned firstRow execute)

/-- The columns of `account`, in the order of `schema.sql`. -/
inductive AccountColumn
  | accountName | e164 | aci | pni | deviceId | password | registrationId | pniRegistrationId
  | flow | accountEntropyPool | mediaRootBackupKey | profileKey
  | registeredAt | linkedAt | prekeysRefreshedAt
  | serverUrl | sipHost | sipExtension | sipPassword | sipBridgeDestination | sipBridgeDid
  | sipSrtp | sipTransport | sipTlsCaFile | sipTlsInsecure | outgoingCallTarget
  | signalProxy | signalCensorshipCircumvention | enabled | configVersion
deriving DecidableEq, Repr

/-- `CREATE TABLE account`. -/
def accountSchema : Sqlite.Schema AccountColumn where
  columns :=
    [.accountName, .e164, .aci, .pni, .deviceId, .password, .registrationId, .pniRegistrationId,
      .flow, .accountEntropyPool, .mediaRootBackupKey, .profileKey,
      .registeredAt, .linkedAt, .prekeysRefreshedAt,
      .serverUrl, .sipHost, .sipExtension, .sipPassword, .sipBridgeDestination, .sipBridgeDid,
      .sipSrtp, .sipTransport, .sipTlsCaFile, .sipTlsInsecure, .outgoingCallTarget,
      .signalProxy, .signalCensorshipCircumvention, .enabled, .configVersion]
  key := .accountName
  notNull
    | .accountName | .flow | .accountEntropyPool | .mediaRootBackupKey | .profileKey
    | .registeredAt | .linkedAt | .prekeysRefreshedAt => false
    | _ => true
  defaults
    | .serverUrl | .sipHost | .sipExtension | .sipPassword | .sipBridgeDestination | .sipBridgeDid
    | .sipTlsCaFile | .outgoingCallTarget | .signalProxy => .text ""
    | .sipSrtp => .text "disabled"
    | .sipTransport => .text "udp"
    | .sipTlsInsecure | .signalCensorshipCircumvention | .configVersion => .integer 0
    | .enabled => .integer 1
    | _ => .null

/-! ## Binding and reading one value -/

def bindText (value : String) : Value := .text value

def bindTextOpt : Option String → Value
  | some value => bindText value
  | none => .null

/-- `sqlite3_bind_blob` of an empty vector would bind `NULL`, so that is a `zeroblob`. -/
def bindBlob (value : Bytes) : Value :=
  if value.isEmpty then .blob (List.replicate 0 0) else .blob value

def bindBlobOpt : Option Bytes → Value
  | some value => bindBlob value
  | none => .null

/-- `sqlite3_bind_int64`, and `sqlite3_bind_int` of an `int`. -/
def bindInt (value : Int) : Value := .integer value

def bindInt64Opt : Option Int → Value
  | some value => bindInt value
  | none => .null

/-- `sqlite3_bind_int(…, value ? 1 : 0)`. -/
def bindBool (value : Bool) : Value := bindInt (if value then 1 else 0)

section Read

variable (cast : Casts)

def columnText (v : Value) : String := (cast.toText v).getD ""

def columnTextOpt (v : Value) : Option String :=
  if v = .null then none else some (columnText cast v)

def columnBlob (v : Value) : Bytes := (cast.toBlob v).getD []

def columnBlobOpt (v : Value) : Option Bytes :=
  if v = .null then none else some (columnBlob cast v)

/-- `sqlite3_column_int64`. -/
def columnInt64 (v : Value) : Int := cast.toInteger v

def columnInt64Opt (v : Value) : Option Int :=
  if v = .null then none else some (columnInt64 cast v)

/-- `sqlite3_column_int`: the low 32 bits. -/
def columnInt (v : Value) : Int := (cast.toInteger v).bmod (2 ^ 32)

variable {cast}

@[simp] theorem columnText_bindText (value : String) : columnText cast (bindText value) = value :=
  rfl

@[simp] theorem columnTextOpt_bindTextOpt (value : Option String) :
    columnTextOpt cast (bindTextOpt value) = value := by
  cases value <;> rfl

/-- An empty blob comes back as one. -/
@[simp] theorem columnBlob_bindBlob (value : Bytes) : columnBlob cast (bindBlob value) = value := by
  cases value <;> rfl

/-- An empty blob is not an absent one. -/
@[simp] theorem columnBlobOpt_bindBlobOpt (value : Option Bytes) :
    columnBlobOpt cast (bindBlobOpt value) = value := by
  cases value with
  | none => rfl
  | some value =>
    have hne : bindBlob value ≠ .null := by cases value <;> exact Value.noConfusion
    rw [bindBlobOpt, columnBlobOpt, if_neg hne, columnBlob_bindBlob]

@[simp] theorem columnInt64_bindInt (value : Int) : columnInt64 cast (bindInt value) = value := rfl

@[simp] theorem columnInt64Opt_bindInt64Opt (value : Option Int) :
    columnInt64Opt cast (bindInt64Opt value) = value := by
  cases value <;> rfl

/-- An `int` comes back from its column. -/
theorem columnInt_bindInt {value : Int} (hlow : -2 ^ 31 ≤ value) (hhigh : value < 2 ^ 31) :
    columnInt cast (bindInt value) = value := by
  refine Int.bmod_eq_of_le ?_ ?_
  · show -(((2 ^ 32 : Nat) : Int) / 2) ≤ value
    omega
  · show value < (((2 ^ 32 : Nat) : Int) + 1) / 2
    omega

@[simp] theorem columnInt_bindBool (value : Bool) :
    columnInt cast (bindBool value) = 0 ↔ value = false := by
  cases value <;> simp [columnInt, bindBool, bindInt, Casts.toInteger, Int.bmod]

end Read

/-! ## The statements -/

/-- An `AccountRecord` whose `device_id` is an `int`. -/
structure SizedAccount where
  account : AccountRecord
  deviceId_low : -2 ^ 31 ≤ account.deviceId
  deviceId_high : account.deviceId < 2 ^ 31

abbrev AccountRow := AccountColumn → Value

abbrev AccountRows := Sqlite.Rows AccountColumn

namespace AccountRows

variable (t : AccountRows) (accountName_ : String)

/-- The columns of `saveAccount`'s `INSERT`. -/
def insertedColumns : List AccountColumn :=
  [.accountName, .e164, .aci, .pni, .deviceId, .password, .registrationId,
    .pniRegistrationId, .flow, .accountEntropyPool, .mediaRootBackupKey, .profileKey,
    .registeredAt, .linkedAt, .prekeysRefreshedAt]

/-- The columns of its `ON CONFLICT … DO UPDATE SET`. -/
def overwrittenColumns : List AccountColumn :=
  [.e164, .aci, .pni,
    .deviceId, .password,
    .registrationId, .pniRegistrationId,
    .flow, .accountEntropyPool,
    .mediaRootBackupKey, .profileKey,
    .registeredAt, .linkedAt,
    .prekeysRefreshedAt]

def saveAccountBinds (account : AccountRecord) : List (Nat × Value) :=
  [(1, bindText accountName_),
    (2, bindText account.e164),
    (3, bindText account.aci),
    (4, bindText account.pni),
    (5, bindInt account.deviceId),
    (6, bindText account.password),
    (7, bindInt account.registrationId),
    (8, bindInt account.pniRegistrationId),
    (9, bindTextOpt account.flow),
    (10, bindTextOpt account.accountEntropyPool),
    (11, bindBlobOpt account.mediaRootBackupKey),
    (12, bindBlobOpt account.profileKey),
    (13, bindInt64Opt account.registeredAt),
    (14, bindInt64Opt account.linkedAt),
    (15, bindInt64Opt account.prekeysRefreshedAt)]

def saveAccount (account : AccountRecord) (f : Faults) : Result AccountRows :=
  execute prepareFailed (stepFailed "saveAccount") f <|
    Sqlite.insertRow accountSchema insertedColumns overwrittenColumns
      (Sqlite.bound (saveAccountBinds accountName_ account)) t

/-- The `SET` clause of `saveAccountConfig`; its `?` are numbered from 1 in this order, and the one
of the `WHERE` clause follows them. -/
def configAssignments : List (AccountColumn × Assigned AccountColumn) :=
  [(.serverUrl, .param 1), (.sipHost, .param 2), (.sipExtension, .param 3),
    (.sipPassword, .param 4),
    (.sipBridgeDestination, .param 5), (.sipBridgeDid, .param 6), (.sipSrtp, .param 7),
    (.sipTransport, .param 8),
    (.sipTlsCaFile, .param 9), (.sipTlsInsecure, .param 10), (.outgoingCallTarget, .param 11),
    (.signalProxy, .param 12), (.signalCensorshipCircumvention, .param 13), (.enabled, .param 14),
    (.configVersion, .plusOne .configVersion)]

def saveAccountConfigBinds (account : AccountRecord) : List (Nat × Value) :=
  [(1, bindText account.serverUrl),
    (2, bindText account.sipHost),
    (3, bindText account.sipExtension),
    (4, bindText account.sipPassword),
    (5, bindText account.sipBridgeDestination),
    (6, bindText account.sipBridgeDid),
    (7, bindText account.sipSrtp),
    (8, bindText account.sipTransport),
    (9, bindText account.sipTlsCaFile),
    (10, bindBool account.sipTlsInsecure),
    (11, bindText account.outgoingCallTarget),
    (12, bindText account.signalProxy),
    (13, bindBool account.signalCensorshipCircumvention),
    (14, bindBool account.enabled),
    (15, bindText accountName_)]

def saveAccountConfig (cast : Casts) (account : AccountRecord) (f : Faults) : Result AccountRows :=
  let p := Sqlite.bound (saveAccountConfigBinds accountName_ account)
  (execute prepareFailed (stepFailed "saveAccountConfig") f
    (Sqlite.updateRow cast accountSchema configAssignments (p 15) p t)).bind fun (t', changes) =>
      if changes = 0 then
        .throw ⟨"saveAccountConfig: no account row named '" ++ accountName_ ++ "' to update"⟩
      else .pure t'

/-- The columns of `loadAccount`'s `SELECT`. -/
def selectedColumns : List AccountColumn :=
  [.e164, .aci, .pni, .deviceId, .password, .registrationId, .pniRegistrationId,
    .flow, .accountEntropyPool, .mediaRootBackupKey, .profileKey,
    .registeredAt, .linkedAt, .prekeysRefreshedAt,
    .serverUrl, .sipHost, .sipExtension, .sipPassword, .sipBridgeDestination, .sipBridgeDid,
    .sipSrtp, .sipTransport, .sipTlsCaFile, .sipTlsInsecure, .outgoingCallTarget,
    .signalProxy, .signalCensorshipCircumvention,
    .enabled, .configVersion]

/-- What `loadAccount` makes of the row its statement is on. -/
def accountOfRow (cast : Casts) (stmt : Nat → Value) : AccountRecord where
  e164 := columnText cast (stmt 0)
  aci := columnText cast (stmt 1)
  pni := columnText cast (stmt 2)
  deviceId := columnInt cast (stmt 3)
  password := columnText cast (stmt 4)
  registrationId := columnInt64 cast (stmt 5)
  pniRegistrationId := columnInt64 cast (stmt 6)
  flow := columnTextOpt cast (stmt 7)
  accountEntropyPool := columnTextOpt cast (stmt 8)
  mediaRootBackupKey := columnBlobOpt cast (stmt 9)
  profileKey := columnBlobOpt cast (stmt 10)
  registeredAt := columnInt64Opt cast (stmt 11)
  linkedAt := columnInt64Opt cast (stmt 12)
  prekeysRefreshedAt := columnInt64Opt cast (stmt 13)
  serverUrl := columnText cast (stmt 14)
  sipHost := columnText cast (stmt 15)
  sipExtension := columnText cast (stmt 16)
  sipPassword := columnText cast (stmt 17)
  sipBridgeDestination := columnText cast (stmt 18)
  sipBridgeDid := columnText cast (stmt 19)
  sipSrtp := columnText cast (stmt 20)
  sipTransport := columnText cast (stmt 21)
  sipTlsCaFile := columnText cast (stmt 22)
  sipTlsInsecure := columnInt cast (stmt 23) ≠ 0
  outgoingCallTarget := columnText cast (stmt 24)
  signalProxy := columnText cast (stmt 25)
  signalCensorshipCircumvention := columnInt cast (stmt 26) ≠ 0
  enabled := columnInt cast (stmt 27) ≠ 0
  configVersion := columnInt64 cast (stmt 28)

def loadAccount (cast : Casts) (f : Faults) : Result AccountRecord :=
  let p := Sqlite.bound [(1, bindText accountName_)]
  (firstRow prepareFailed f (Sqlite.selectRow selectedColumns (p 1) t).toList).bind fun
    | none => .throw ⟨"loadAccount: no account row present"⟩
    | some stmt => .pure (accountOfRow cast stmt)

end AccountRows

/-! ## The rows that the statements leave -/

/-- The row that keeps a record. -/
def columnsOf (accountName : String) (account : AccountRecord) : AccountRow
  | .accountName => bindText accountName
  | .e164 => bindText account.e164
  | .aci => bindText account.aci
  | .pni => bindText account.pni
  | .deviceId => bindInt account.deviceId
  | .password => bindText account.password
  | .registrationId => bindInt account.registrationId
  | .pniRegistrationId => bindInt account.pniRegistrationId
  | .flow => bindTextOpt account.flow
  | .accountEntropyPool => bindTextOpt account.accountEntropyPool
  | .mediaRootBackupKey => bindBlobOpt account.mediaRootBackupKey
  | .profileKey => bindBlobOpt account.profileKey
  | .registeredAt => bindInt64Opt account.registeredAt
  | .linkedAt => bindInt64Opt account.linkedAt
  | .prekeysRefreshedAt => bindInt64Opt account.prekeysRefreshedAt
  | .serverUrl => bindText account.serverUrl
  | .sipHost => bindText account.sipHost
  | .sipExtension => bindText account.sipExtension
  | .sipPassword => bindText account.sipPassword
  | .sipBridgeDestination => bindText account.sipBridgeDestination
  | .sipBridgeDid => bindText account.sipBridgeDid
  | .sipSrtp => bindText account.sipSrtp
  | .sipTransport => bindText account.sipTransport
  | .sipTlsCaFile => bindText account.sipTlsCaFile
  | .sipTlsInsecure => bindBool account.sipTlsInsecure
  | .outgoingCallTarget => bindText account.outgoingCallTarget
  | .signalProxy => bindText account.signalProxy
  | .signalCensorshipCircumvention => bindBool account.signalCensorshipCircumvention
  | .enabled => bindBool account.enabled
  | .configVersion => bindInt account.configVersion

/-- A row of records meets every `NOT NULL`. -/
theorem columnsOf_notNull (accountName : String) (account : AccountRecord) :
    ∀ c ∈ accountSchema.columns, accountSchema.notNull c → columnsOf accountName account c ≠ .null := by
  intro c _ hnotNull hnull
  cases c <;> first | cases hnull | cases hnotNull

theorem putRow_columnsOf (t : AccountRows) (accountName : String) (account : AccountRecord) :
    Sqlite.putRow accountSchema t (columnsOf accountName account) =
      .ok (t.insert (.text accountName) (columnsOf accountName account)) :=
  Sqlite.putRow_ok_iff.mpr ⟨columnsOf_notNull accountName account, rfl⟩

namespace AccountRows

/-- The table keeps `row`, or no row, for an account. -/
def Keeps (t : AccountRows) (accountName : String) (row : Option AccountRecord) : Prop :=
  t.lookup (.text accountName) = row.map (columnsOf accountName)

/-- A new row takes the parameters in the identity columns and the defaults in the others. -/
theorem inserted_new (accountName_ : String) (account : AccountRecord) :
    Sqlite.valuesRow accountSchema insertedColumns
        (Sqlite.bound (saveAccountBinds accountName_ account)) =
      columnsOf accountName_ (Storage.withIdentity none account.toIdentityColumns) := by
  funext c
  cases c <;> rfl

/-- An old row takes the parameters in the identity columns and keeps the others. -/
theorem inserted_old (accountName_ : String) (account row : AccountRecord) :
    Sqlite.overwriteRow overwrittenColumns
        (columnsOf accountName_ (Storage.withIdentity none account.toIdentityColumns))
        (columnsOf accountName_ row) =
      columnsOf accountName_ (Storage.withIdentity (some row) account.toIdentityColumns) := by
  funext c
  cases c <;> rfl

/-- The upsert leaves the identity columns of its argument and the configuration columns that were
there. -/
theorem insertRow_keeps {t : AccountRows} {accountName_ : String} {row : Option AccountRecord}
    (h : Keeps t accountName_ row) (account : AccountRecord) :
    Sqlite.insertRow accountSchema insertedColumns overwrittenColumns
        (Sqlite.bound (saveAccountBinds accountName_ account)) t =
      .ok (t.insert (.text accountName_)
        (columnsOf accountName_ (Storage.withIdentity row account.toIdentityColumns))) := by
  have hkey : columnsOf accountName_ (Storage.withIdentity none account.toIdentityColumns)
      accountSchema.key = .text accountName_ := rfl
  rw [Sqlite.insertRow, inserted_new, hkey,
    show t.lookup (.text accountName_) = row.map (columnsOf accountName_) from h]
  cases row with
  | none => exact putRow_columnsOf t accountName_ _
  | some row =>
    simp only [Option.map_some, inserted_old]
    exact putRow_columnsOf t accountName_ _

/-- The record that `saveAccountConfig` makes of a row. -/
def withConfig (row : AccountRecord) (config : ConfigColumns) : AccountRecord :=
  { row with toConfigColumns := config, configVersion := row.configVersion + 1 }

theorem assigned_config (cast : Casts) (accountName_ : String) (account row : AccountRecord) :
    Sqlite.setRow cast configAssignments
        (Sqlite.bound (saveAccountConfigBinds accountName_ account)) (columnsOf accountName_ row) =
      columnsOf accountName_ (withConfig row account.toConfigColumns) := by
  funext c
  cases c <;> rfl

/-- The update leaves the configuration columns of its argument, the identity columns that were
there, and the counter one higher. -/
theorem updateRow_keeps {t : AccountRows} {accountName_ : String} {row : Option AccountRecord}
    (h : Keeps t accountName_ row) (cast : Casts) (account : AccountRecord) :
    Sqlite.updateRow cast accountSchema configAssignments (.text accountName_)
        (Sqlite.bound (saveAccountConfigBinds accountName_ account)) t =
      .ok (row.elim (t, 0) fun row =>
        (t.insert (.text accountName_)
          (columnsOf accountName_ (withConfig row account.toConfigColumns)), 1)) := by
  simp only [Sqlite.updateRow]
  rw [show t.lookup (.text accountName_) = row.map (columnsOf accountName_) from h]
  cases row with
  | none => rfl
  | some row =>
    simp only [Option.map_some, assigned_config, putRow_columnsOf]
    rfl

/-- Without a row the update changes nothing, and the function throws. -/
theorem saveAccountConfig_absent {t : AccountRows} {accountName_ : String}
    (h : Keeps t accountName_ none) (cast : Casts) (account : AccountRecord) (f : Faults) :
    ∃ e, (t.saveAccountConfig accountName_ cast account f).value = .error e ∧
      (f.prepare = none → f.step 0 = none →
        e = ⟨"saveAccountConfig: no account row named '" ++ accountName_ ++ "' to update"⟩) := by
  have heffect := updateRow_keeps h cast account
  simp only [saveAccountConfig, show Sqlite.bound (saveAccountConfigBinds accountName_ account) 15 =
    .text accountName_ from rfl, heffect, Option.elim_none]
  unfold Sqlite.execute
  cases hprepare : f.prepare with
  | some e => exact ⟨_, rfl, fun h => (by cases h)⟩
  | none =>
    cases hstep : f.step 0 with
    | some e => exact ⟨_, rfl, fun _ h => (by cases h)⟩
    | none => exact ⟨_, rfl, fun _ _ => rfl⟩

/-- The record that a read makes of a row: `device_id` is read as an `int`. -/
def loadedRecord (account : AccountRecord) : AccountRecord :=
  { account with deviceId := account.deviceId.bmod (2 ^ 32) }

theorem accountOfRow_loaded {cast : Casts} (accountName_ : String) (account : AccountRecord) :
    accountOfRow cast (fun i => (selectedColumns[i]?).elim .null (columnsOf accountName_ account)) =
      loadedRecord account := by
  obtain ⟨identity, config, version⟩ := account
  simp [accountOfRow, selectedColumns, columnsOf, loadedRecord]
  rfl

/-- The read gives back the record that the row keeps. -/
theorem accountOfRow_columnsOf {cast : Casts} {accountName_ : String} {account : AccountRecord}
    (hlow : -2 ^ 31 ≤ account.deviceId) (hhigh : account.deviceId < 2 ^ 31) :
    accountOfRow cast (fun i => (selectedColumns[i]?).elim .null (columnsOf accountName_ account)) =
      account := by
  have hdevice : columnInt cast (bindInt account.deviceId) = account.deviceId :=
    columnInt_bindInt hlow hhigh
  have hbmod : account.deviceId.bmod (2 ^ 32) = account.deviceId := hdevice
  rw [accountOfRow_loaded, loadedRecord, hbmod]

/-- The table keeps the rows of the file. -/
def Represents (t : AccountRows) (db : Db) : Prop :=
  ∀ accountName, t.Keeps accountName (db.row accountName)

/-- Putting a record's row under its name is all that happens. -/
theorem Represents.put {t : AccountRows} {db db' : Db} (h : t.Represents db) {accountName : String}
    {account : AccountRecord} (hself : db'.row accountName = some account)
    (hother : ∀ name ≠ accountName, db'.row name = db.row name) :
    Represents (t.insert (.text accountName) (columnsOf accountName account)) db' := by
  intro name
  unfold Keeps
  by_cases hname : name = accountName
  · rw [hname, hself]
    exact AList.lookup_insert t
  · have hkey : Value.text name ≠ .text accountName := fun heq => hname (Value.text.inj heq)
    rw [AList.lookup_insert_ne hkey, hother name hname]
    exact h name

theorem saveAccount_agree {t : AccountRows} {db : Db} (h : t.Represents db) (accountName_ : String)
    (account : AccountRecord) (f : Faults) :
    Agree Represents (t.saveAccount accountName_ account f)
      (Storage.saveAccount db accountName_ account f) := by
  refine Agree.execute ?_ f
  rw [insertRow_keeps (h accountName_)]
  refine .ok (h.put ?_ ?_)
  · exact AList.lookup_insert db.account
  · exact fun name hname => AList.lookup_insert_ne hname

/-- The update's effect on one row, and on no other. -/
theorem updateAccountConfig_row (db : Db) (accountName_ : String) (config : ConfigColumns)
    (name : String) :
    (Storage.updateAccountConfig db accountName_ config).1.row name =
      if name = accountName_ then (db.row name).map (withConfig · config) else db.row name := by
  split
  · next h =>
    rw [h]
    exact AList.lookup_modify_self accountName_ (withConfig · config) db.account
  · next h => exact AList.lookup_modify_ne h (withConfig · config) db.account

/-- The two updates agree on the rows they leave and on how many they changed. -/
theorem updateRow_answers {t : AccountRows} {db : Db} (h : t.Represents db) (accountName_ : String)
    (cast : Casts) (account : AccountRecord) :
    SameAnswer (fun p q => Represents p.1 q.1 ∧ p.2 = q.2)
      (Sqlite.updateRow cast accountSchema configAssignments (.text accountName_)
        (Sqlite.bound (saveAccountConfigBinds accountName_ account)) t)
      (.ok (Storage.updateAccountConfig db accountName_ account.toConfigColumns)) := by
  have hrows := updateAccountConfig_row db accountName_ account.toConfigColumns
  rw [updateRow_keeps (h accountName_)]
  cases hrow : db.row accountName_ with
  | none =>
    refine .ok ⟨fun name => ?_, (if_neg (AList.lookup_eq_none.mp hrow)).symm⟩
    unfold Keeps
    rw [hrows name]
    split
    · next hname =>
      rw [hname, hrow]
      exact (h accountName_).trans (by rw [hrow]; rfl)
    · exact h name
  | some row =>
    have hpresent : accountName_ ∈ db.account :=
      AList.lookup_isSome.mp (by rw [show db.account.lookup accountName_ = some row from hrow]; rfl)
    refine .ok ⟨h.put ?_ fun name hname => ?_, (if_pos hpresent).symm⟩
    · rw [hrows, if_pos rfl, hrow]
      rfl
    · rw [hrows, if_neg hname]

theorem saveAccountConfig_agree {t : AccountRows} {db : Db} (h : t.Represents db)
    (accountName_ : String) (cast : Casts) (account : AccountRecord) (f : Faults) :
    Agree Represents (t.saveAccountConfig accountName_ cast account f)
      (Storage.saveAccountConfig db accountName_ account f) := by
  refine Agree.bind (fun p q hpq => ?_)
    (Agree.execute (updateRow_answers h accountName_ cast account) f)
  obtain ⟨t', changes⟩ := p
  obtain ⟨db', changes'⟩ := q
  obtain ⟨hrep, rfl⟩ := hpq
  show Agree Represents (if changes = 0 then _ else _) (if changes = 0 then _ else _)
  split
  · exact .throw _
  · exact .pure hrep

/-- The read agrees as far as its row does. -/
theorem loadAccount_agree_of {R : AccountRecord → AccountRecord → Prop} {t : AccountRows} {db : Db}
    (h : t.Represents db) (accountName_ : String) {cast : Casts}
    (hrow : ∀ row, db.row accountName_ = some row →
      R (accountOfRow cast fun i => (selectedColumns[i]?).elim .null (columnsOf accountName_ row)) row)
    (f : Faults) :
    Agree R (t.loadAccount accountName_ cast f) (Storage.loadAccount db accountName_ f) := by
  have hrows : Option.Rel (fun stmt row => R (accountOfRow cast stmt) row)
      (Sqlite.selectRow selectedColumns (.text accountName_) t).toList.head?
      (db.row accountName_).toList.head? := by
    rw [Sqlite.selectRow, show t.lookup (.text accountName_) = _ from h accountName_]
    cases hlookup : db.row accountName_ with
    | none => exact .none
    | some row => exact .some (hrow row hlookup)
  refine Agree.bind (fun stmt row hrel => ?_) (Agree.firstRow hrows f)
  cases hrel with
  | none => exact .throw _
  | some hrelated => exact .pure hrelated

/-- It gives the record of a row whose `device_id` is an `int`. -/
theorem loadAccount_agree {t : AccountRows} {db : Db} (h : t.Represents db) (accountName_ : String)
    (hsized : ∀ row, db.row accountName_ = some row →
      -2 ^ 31 ≤ row.deviceId ∧ row.deviceId < 2 ^ 31) (cast : Casts) (f : Faults) :
    Agree (· = ·) (t.loadAccount accountName_ cast f) (Storage.loadAccount db accountName_ f) :=
  loadAccount_agree_of h accountName_
    (fun row hrow => accountOfRow_columnsOf (hsized row hrow).1 (hsized row hrow).2) f

/-- And of any row all but the `device_id`. -/
theorem loadAccount_loaded {t : AccountRows} {db : Db} (h : t.Represents db) (accountName_ : String)
    (cast : Casts) (f : Faults) :
    Agree (fun loaded account => loaded = loadedRecord account) (t.loadAccount accountName_ cast f)
      (Storage.loadAccount db accountName_ f) :=
  loadAccount_agree_of h accountName_ (fun row _ => accountOfRow_loaded accountName_ row) f

end AccountRows

end Signal2sip
