import Signal2sip.Gendb.Bootstrap
import Signal2sip.Gendb.Commands
import Signal2sip.Lib.Arguments
import Mathlib.Logic.Function.Basic

/-!
# The command line of `signal2sip-gendb`

`parseArgs` and `main` of `gendb/main.cpp`. The arguments are gone through three times: for a flag that
asks for help, for the options, and for the account, the command and what the command takes. The
configuration is found, bootstrapped and loaded before the command is looked at.

`Disk` is what one run leaves to the next. What a run meets on the way is in `Surroundings`. Of the
output only the exit code is here.
-/

namespace Signal2sip.Gendb

/-! ## The arguments -/

structure ParsedArgs where
  accountName : String := ""
  command : String := ""
  positional : List String := []
  e164 : String := ""
  configPath : String := ""
deriving DecidableEq, Repr

def option (arg : String) : Option (String → ParsedArgs → ParsedArgs) :=
  if arg = "--e164" then some fun value result => { result with e164 := value }
  else if arg = "--config" then some fun value result => { result with configPath := value }
  else none

/-- The arguments are `argv[1]` and what follows it. -/
def parseArgs (args : List String) : Except RuntimeError ParsedArgs :=
  let (result, rest) := Arguments.scan option {} args
  match rest with
  | ["list"] => .ok { result with command := "list" }
  | accountName :: command :: positional =>
    .ok { result with accountName := accountName, command := command, positional := positional }
  | _ => .error ⟨"missing <account-name> <command>"⟩

def helpFlags : List String := ["--help", "-h"]

def asksForHelp (args : List String) : Bool := args.any fun arg => arg ∈ helpFlags

/-! ## The command -/

/-- What the servers reply to each command, and how a command ends that writes neither the database nor
a pending registration. -/
structure Replies where
  register : RegisterReplies
  verify : VerifyReplies
  link : LinkReplies
  deleteAccount : DeleteReplies
  writesNothing : Option RuntimeError := none

inductive Request
  | command (command : Command)
  | writesNothing
  | usage

/-- What follows `config`. -/
def requestedConfig : List String → Except RuntimeError Request
  | [] => .error ⟨"config needs a get/set subcommand"⟩
  | sub :: positional =>
    if sub = "get" ∨ sub = "list" then .ok .writesNothing
    else if sub = "set" then
      match positional with
      | field :: value :: _ => .ok (.command (.configSet field value))
      | _ => .error ⟨"config set needs <field> <value>"⟩
    else .error ⟨"config: unknown subcommand '" ++ sub ++ "' - use get/set"⟩

/-- The branches of `main`. -/
def requested (args : ParsedArgs) (r : Replies) : Except RuntimeError Request :=
  match args.command with
  | "register" => .ok (.command (.register args.e164 (args.positional.headD "sms") r.register))
  | "register-captcha" =>
    if args.positional = [] then .error ⟨"register-captcha needs a <token>"⟩ else .ok .writesNothing
  | "verify" =>
    if args.positional = [] then .error ⟨"verify needs a <code>"⟩
    else .ok (.command (.verify r.verify))
  | "link" => .ok (.command (.link r.link))
  | "unlink" => .ok (.command .unlink)
  | "deactivate" | "unregister" | "reactivate" => .ok .writesNothing
  | "delete-account" => .ok (.command (.deleteAccount r.deleteAccount))
  | "enable" => .ok (.command (.setEnabled true))
  | "disable" => .ok (.command (.setEnabled false))
  | "config" => requestedConfig args.positional
  | "list" => .ok .writesNothing
  | _ => .ok .usage

/-! ## A run -/

/-- What is at each path of a configuration, and what is in and next to each database. -/
structure Disk where
  configs : String → ConfigFile
  databases : String → Files

def Disk.withConfig (disk : Disk) (path : String) (file : ConfigFile) : Disk :=
  { disk with configs := Function.update disk.configs path file }

def Disk.withFiles (disk : Disk) (dbPath : String) (files : Files) : Disk :=
  { disk with databases := Function.update disk.databases dbPath files }

@[simp] theorem Disk.withFiles_configs (disk : Disk) (dbPath : String) (files : Files) :
    (disk.withFiles dbPath files).configs = disk.configs := rfl

@[simp] theorem Disk.withFiles_databases (disk : Disk) (dbPath : String) (files : Files) :
    (disk.withFiles dbPath files).databases dbPath = files := Function.update_self _ _ _

@[simp] theorem Disk.withConfig_self (disk : Disk) (path : String) :
    disk.withConfig path (disk.configs path) = disk := by
  rw [withConfig, Function.update_eq_self]

@[simp] theorem Disk.withFiles_self (disk : Disk) (dbPath : String) :
    disk.withFiles dbPath (disk.databases dbPath) = disk := by
  rw [withFiles, Function.update_eq_self]

@[simp] theorem Disk.withFiles_withFiles (disk : Disk) (dbPath : String) (files files' : Files) :
    (disk.withFiles dbPath files).withFiles dbPath files' = disk.withFiles dbPath files' := by
  simp only [withFiles, Function.update_idem]

structure Surroundings where
  system : BootstrapSystem
  load : LoadFaults := .quiet
  faults : CommandFaults := {}
  replies : Replies

def resolveGendbConfigPath (configs : String → ConfigFile) (explicitPath : String) : String :=
  resolveConfigPath configs (if explicitPath ≠ "" then some explicitPath else none)

def exitCode (thrown : Option RuntimeError) : Int := if thrown.isSome then 1 else 0

/-- A command that worked on the database at `dbPath` has ended. -/
def Disk.exit (disk : Disk) (dbPath : String) (ended : Ended) : Disk × Int :=
  (disk.withFiles dbPath ended.1, exitCode ended.2)

/-- The configuration is loaded. -/
def perform (args : ParsedArgs) (config : DaemonConfig) (disk : Disk) (r : Surroundings) :
    Disk × Int :=
  match requested args r.replies with
  | .error _ | .ok .usage => (disk, 1)
  | .ok .writesNothing => (disk, exitCode r.replies.writesNothing)
  | .ok (.command command) =>
    disk.exit config.global.dbPath
      (command.run config (disk.databases config.global.dbPath) args.accountName r.faults)

/-- The configuration of one run, from the file that it leaves at `configPath`. -/
def loadConfig (configPath : String) (disk : Disk) (r : Surroundings) :
    Except RuntimeError DaemonConfig :=
  match loadGlobal configPath (disk.configs configPath) with
  | .error e => .error e
  | .ok global => DaemonConfig.load (.ok global) (disk.databases global.dbPath).db r.load

/-- The second `try` block. -/
def run (args : ParsedArgs) (disk : Disk) (r : Surroundings) : Disk × Int :=
  let configPath := resolveGendbConfigPath disk.configs args.configPath
  let (file, bootstrapped) :=
    bootstrapGlobalConfigIfNeeded configPath r.system (disk.configs configPath)
  let disk := disk.withConfig configPath file
  match bootstrapped with
  | .error _ => (disk, 1)
  | .ok () =>
    match loadConfig configPath disk r with
    | .error _ => (disk, 1)
    | .ok config => perform args config disk r

/-- What a run leaves, and its exit code. -/
def main (args : List String) (disk : Disk) (r : Surroundings) : Disk × Int :=
  if asksForHelp args then (disk, 0)
  else
    match parseArgs args with
    | .error _ => (disk, 1)
    | .ok args => run args disk r

end Signal2sip.Gendb
