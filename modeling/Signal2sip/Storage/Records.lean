import Signal2sip.Lib.Sqlite
import Signal2sip.Lib.Table

/-!
# The account database

The rows of `schema.sql` and the record types of `Storage.h`. One database file is shared by every
account, and every table is keyed by `account_name` first, so a table here is a finite map whose key
is the account's name, paired with the rest of the primary key where there is one.

The columns of `account` come in two groups with different owners: the identity columns, which
`saveAccount` writes, and the configuration columns, which `saveAccountConfig` writes together with
the counter `config_version`. The two groups are records of their own, so that "this statement
leaves the other group alone" is a statement about one field.

`synced_contact` has a surrogate key, so its rows are a list in the order of their ids.

Integers are unbounded. Texts are Unicode strings rather than byte strings; no operation of the
storage layer looks below a character.
-/

namespace Signal2sip

/-- `std::vector<uint8_t>`. -/
abbrev Bytes := List UInt8

/-- `std::runtime_error` and what it says. -/
structure RuntimeError where
  what : String
deriving DecidableEq, Repr

/-- A sequence returns when both of its parts do. -/
theorem except_bind_ok {ξ α β : Type} {x : Except ξ α} {k : α → Except ξ β} {b : β} :
    (x >>= k) = .ok b ↔ ∃ a, x = .ok a ∧ k a = .ok b := by
  cases x with
  | error e => simp [bind, Except.bind]
  | ok a => simp [bind, Except.bind]

/-! ## Records -/

/-- The columns of `account` that `saveAccount` owns. -/
structure IdentityColumns where
  e164 : String
  aci : String
  pni : String
  password : String
  deviceId : Int := 0
  registrationId : Int := 0
  pniRegistrationId : Int := 0
  flow : Option String := none
  accountEntropyPool : Option String := none
  mediaRootBackupKey : Option Bytes := none
  profileKey : Option Bytes := none
  registeredAt : Option Int := none
  linkedAt : Option Int := none
  prekeysRefreshedAt : Option Int := none
deriving DecidableEq, Repr

/-- The columns of `account` that `saveAccountConfig` owns, with the defaults of `schema.sql`. -/
structure ConfigColumns where
  serverUrl : String := ""
  sipHost : String := ""
  sipExtension : String := ""
  sipPassword : String := ""
  sipBridgeDestination : String := ""
  sipBridgeDid : String := ""
  sipSrtp : String := "disabled"
  sipTransport : String := "udp"
  sipTlsCaFile : String := ""
  sipTlsInsecure : Bool := false
  outgoingCallTarget : String := ""
  signalProxy : String := ""
  signalCensorshipCircumvention : Bool := false
  enabled : Bool := true
deriving DecidableEq, Repr

/-- One row of `account`, and what `loadAccount` returns for it. -/
structure AccountRecord extends IdentityColumns, ConfigColumns where
  configVersion : Int := 0
deriving DecidableEq, Repr

structure AccountSummary where
  accountName : String
  e164 : String
  enabled : Bool
  configVersion : Int
deriving DecidableEq, Repr

structure IdentityKeypairRecord where
  privateKey : Bytes
  publicKey : Bytes
deriving DecidableEq, Repr

structure SignedPrekeyRecord where
  keyId : Int
  record : Bytes
deriving DecidableEq, Repr

structure KyberPrekeyRecord where
  keyId : Int
  record : Bytes
deriving DecidableEq, Repr

structure ResolvedContactRecord where
  aci : String
  pni : String
  resolvedAt : Int
deriving DecidableEq, Repr

structure SyncedContactRecord where
  e164 : String
  aci : String
  pni : String
  profileKey : Bytes
  givenName : String
  familyName : String
  syncedAt : Int
deriving DecidableEq, Repr

/-- One row of `synced_contact`. -/
structure SyncedContactRow where
  id : Int
  accountName : String
  contact : SyncedContactRecord
deriving DecidableEq, Repr

/-! ## Tables -/

/-- The database file. `nextContactId` is the id `AUTOINCREMENT` gives out next. -/
structure Db where
  account : Table String AccountRecord := ∅
  identityKeypair : Table (String × String) IdentityKeypairRecord := ∅
  signedPrekey : Table (String × String) SignedPrekeyRecord := ∅
  kyberPrekey : Table (String × String) KyberPrekeyRecord := ∅
  session : Table (String × String) Bytes := ∅
  remoteIdentity : Table (String × String) Bytes := ∅
  resolvedContact : Table (String × String) ResolvedContactRecord := ∅
  syncedContact : List SyncedContactRow := []
  nextContactId : Int := 1
deriving DecidableEq

/-- The row of one account. -/
def Db.row (db : Db) (accountName : String) : Option AccountRecord := db.account.lookup accountName

/-- The rows of a table that belong to one account, without the account's name. -/
def rowsOf {κ α : Type} (accountName : String) (t : Table (String × κ) α) : List (κ × α) :=
  t.entries.filterMap fun e => if e.1.1 = accountName then some (e.1.2, e.2) else none

end Signal2sip
