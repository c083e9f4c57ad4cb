import Signal2sip.Storage.Storage

/-!
# The daemon's configuration

`Config.h` and the database half of `Config.cpp`: an account's configuration is built from its row,
with defaults for empty settings and the checks that can reject a row, and `DaemonConfig::load`
collects the accepted configurations of the enabled accounts.

The `[global]` section is an ini file; what reading it gives, the settings or an exception, is a
parameter of `load`, and `Signal2sip.Daemon.ConfigFile` says what it is. The statements of `load` run
on connections that are opened for them, and every one of them can fail (`LoadFaults`).
-/

namespace Signal2sip

open Sqlite (Faults Outcome)

/-- `[global]`. -/
structure GlobalConfig where
  dbPath : String
  dbKey : String
  sipRegWatchdogSec : Nat := 60
  resolvedContactTtlSec : Nat := 86400
  storageSyncIntervalSec : Nat := 43200
  configPollIntervalSec : Nat := 30
deriving DecidableEq, Repr

structure AccountConfig where
  name : String
  configVersion : Int := 0
  e164 : String
  serverUrl : String := ""
  sipHost : String := ""
  sipExtension : String := ""
  sipPassword : String := ""
  sipBridgeDestination : String := ""
  sipBridgeDid : String := ""
  sipSrtp : String := "disabled"
  sipTransport : String := "udp"
  sipTlsCaFile : String := ""
  sipTlsInsecure : Bool := false
  outgoingCallTarget : String := ""
  signalProxy : String := ""
  signalCensorshipCircumvention : Bool := false
deriving DecidableEq, Repr

def AccountConfig.hasSip (config : AccountConfig) : Bool := config.sipHost ≠ ""

/-- The texts of the exceptions that reject a row. -/
def invalidConfig (name problem : String) : RuntimeError := ⟨"account '" ++ name ++ "': " ++ problem⟩

def tlsNeedsTrust : String :=
  "sip_transport=tls needs either sip_tls_ca_file (pin the Asterisk server's certificate) or " ++
  "sip_tls_insecure=yes (skip verification entirely) - one of the two is required, not silently " ++
  "insecure by default"

/-- An empty setting takes its default. -/
def orDefault (setting fallback : String) : String := if setting = "" then fallback else setting

/-- With `tls`, a SIP host without a port gets Asterisk's TLS port. -/
def sipHostOf (sipTransport sipHost : String) : String :=
  if sipTransport = "tls" ∧ sipHost ≠ "" ∧ ':' ∉ sipHost.toList then sipHost ++ ":5061" else sipHost

/-- The configuration of a row that passed the checks. -/
def configOfRecord (name : String) (record : AccountRecord) : AccountConfig where
  name := name
  configVersion := record.configVersion
  e164 := record.e164
  serverUrl := record.serverUrl
  sipHost := sipHostOf (orDefault record.sipTransport "udp") record.sipHost
  sipExtension := record.sipExtension
  sipPassword := record.sipPassword
  sipBridgeDestination := record.sipBridgeDestination
  sipBridgeDid := record.sipBridgeDid
  sipSrtp := orDefault record.sipSrtp "disabled"
  sipTransport := orDefault record.sipTransport "udp"
  sipTlsCaFile := record.sipTlsCaFile
  sipTlsInsecure := record.sipTlsInsecure
  outgoingCallTarget := record.outgoingCallTarget
  signalProxy := record.signalProxy
  signalCensorshipCircumvention := record.signalCensorshipCircumvention

/-- The checks, in the order in which they throw. -/
def accountConfigFromRecord (name : String) (record : AccountRecord) :
    Except RuntimeError AccountConfig :=
  let account := configOfRecord name record
  if account.e164 = "" then .error (invalidConfig name "e164 is empty")
  else if account.sipSrtp ≠ "disabled" ∧ account.sipSrtp ≠ "optional" ∧
      account.sipSrtp ≠ "mandatory" then
    .error (invalidConfig name
      ("sip_srtp must be disabled/optional/mandatory, got '" ++ account.sipSrtp ++ "'"))
  else if account.sipTransport ≠ "udp" ∧ account.sipTransport ≠ "tls" then
    .error (invalidConfig name
      ("sip_transport must be udp/tls, got '" ++ account.sipTransport ++ "'"))
  else if account.sipTransport = "tls" ∧ account.sipTlsCaFile = "" ∧ !account.sipTlsInsecure then
    .error (invalidConfig name tlsNeedsTrust)
  else .ok account

/-- An accepted configuration is the row's, field by field, under the account's name. -/
theorem accountConfigFromRecord_ok {name : String} {record : AccountRecord}
    {config : AccountConfig} (h : accountConfigFromRecord name record = .ok config) :
    config = configOfRecord name record := by
  simp only [accountConfigFromRecord] at h
  split at h
  · cases h
  · split at h
    · cases h
    · split at h
      · cases h
      · split at h
        · cases h
        · exact (Except.ok.inj h).symm

theorem accountConfigFromRecord_name {name : String} {record : AccountRecord}
    {config : AccountConfig} (h : accountConfigFromRecord name record = .ok config) :
    config.name = name := by
  rw [accountConfigFromRecord_ok h]
  rfl

/-! ## `DaemonConfig::load` -/

structure DaemonConfig where
  global : GlobalConfig
  accounts : List AccountConfig
deriving DecidableEq, Repr

/-- The failures of one `load`: opening the connection of `listAllAccounts` (any of its steps from
`sqlite3_open` to the migrations throws), its statement, and for each account opening its `Storage`
and the statement of `loadAccount`. -/
structure LoadFaults where
  listOpen : Option RuntimeError := none
  list : Faults := .quiet
  accountOpen : String → Option RuntimeError := fun _ => none
  account : String → Faults := fun _ => .quiet

def LoadFaults.quiet : LoadFaults := {}

/-- `listAllAccounts`: open a connection of its own, then list. -/
def listAllAccounts (db : Db) (f : LoadFaults) : Except RuntimeError (List AccountSummary) :=
  match f.listOpen with
  | some e => .error e
  | none => (listAllAccountsRows db f.list).value

/-- One account of the list: open its `Storage`, load its row, build its configuration. -/
def loadAccountConfig (db : Db) (f : LoadFaults) (accountName : String) :
    Except RuntimeError AccountConfig :=
  match f.accountOpen accountName with
  | some e => .error e
  | none =>
    (Storage.loadAccount db accountName (f.account accountName)).value.bind fun record =>
      accountConfigFromRecord accountName record

/-- The accounts of one `load`: the enabled ones of the list whose configuration loads. An exception
for one account skips that account. -/
def loadAccounts (db : Db) (f : LoadFaults) (summaries : List AccountSummary) :
    List AccountConfig :=
  summaries.filterMap fun summary =>
    if summary.enabled then (loadAccountConfig db f summary.accountName).toOption else none

/-- `DaemonConfig::load`. -/
def DaemonConfig.load (file : Except RuntimeError GlobalConfig) (db : Db) (f : LoadFaults) :
    Except RuntimeError DaemonConfig :=
  file.bind fun global =>
    (listAllAccounts db f).map fun summaries => ⟨global, loadAccounts db f summaries⟩

end Signal2sip
