import Signal2sip.Daemon.Calls

/-!
# `reloadConfig`

A reload reads the configuration again and makes the running accounts follow it. An exception of
`DaemonConfig::load` keeps everything as it is. Otherwise the accounts that were not loaded are torn
down, those that are not running are set up, and a running one whose `config_version` differs is torn
down and set up again.

The loaded accounts come ordered by name and without repetitions, so the list is the map `newByName`
that the program builds of it. The setups of one reload read the contents of the database that the
reload read. A setup that does not return takes the process with it, and then there is no result.
-/

namespace Signal2sip

/-- How the teardowns and setups of one reload end. -/
structure ReloadOutcomes where
  setups : String → SetupOutcomes := fun _ => {}
  closes : String → Bool := fun _ => true

/-- The running accounts in the order of the map. -/
def Daemon.accountNames (d : Daemon) : List String := d.g_accounts.keys.insertionSort (· ≤ ·)

def Daemon.teardown (d : Daemon) (name : String) (closes : Bool) : Daemon :=
  ((teardownAccount name closes d).exec d).1

def Daemon.startAccount (db : Db) (config : AccountConfig) (o : SetupOutcomes) (d : Daemon) :
    Option Daemon :=
  match setupAccount db config o d with
  | (d', .returned _) => some d'
  | _ => none

/-- The first loop: tear down what was not loaded. -/
def Daemon.removeAccounts (accounts : List AccountConfig) (o : ReloadOutcomes) (d : Daemon) :
    Daemon :=
  (d.accountNames.filter fun name => accounts.all (·.name ≠ name)).foldl
    (fun d name => d.teardown name (o.closes name)) d

/-- The body of the second loop. -/
def reloadAccount (db : Db) (o : ReloadOutcomes) (d : Daemon) (config : AccountConfig) :
    Option Daemon :=
  match d.g_accounts.lookup config.name with
  | none => d.startAccount db config (o.setups config.name)
  | some acct =>
    if acct.config.configVersion ≠ config.configVersion then
      (d.teardown config.name (o.closes config.name)).startAccount db config (o.setups config.name)
    else some d

def reloadConfig (file : Except RuntimeError GlobalConfig) (db : Db) (f : LoadFaults)
    (o : ReloadOutcomes) (d : Daemon) : Option Daemon :=
  match DaemonConfig.load file db f with
  | .error _ => some d
  | .ok newConfig =>
    newConfig.accounts.foldlM (reloadAccount db o)
      ({ d with g_global := newConfig.global }.removeAccounts newConfig.accounts o)

end Signal2sip
