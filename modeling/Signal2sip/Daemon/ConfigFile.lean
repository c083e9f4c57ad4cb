import Signal2sip.Lib.CxxString
import Signal2sip.Lib.Lines
import Signal2sip.Daemon.Config

/-!
# `signal2sip.conf`

The file half of `Config.cpp`: `resolveConfigPath`, the ini parser, `getOr`, `loadGlobalConfigLenient`
and what `DaemonConfig::load` reads of `[global]`. A `Char` stands for a byte of the file.
-/

namespace Signal2sip

/-- What is at the path of the configuration: nothing, something that cannot be opened for reading,
or a text. -/
inductive ConfigFile
  | missing
  | unreadable
  | text (content : String)
deriving DecidableEq, Repr

/-- `stat` succeeds. -/
def fileExists (file : ConfigFile) : Bool := file ≠ .missing

/-- `argument` is `argv[1]`, if there is one, and `configs` what is at each path. -/
def resolveConfigPath (configs : String → ConfigFile) (argument : Option String) : String :=
  match argument.filter (· ≠ "") with
  | some path => path
  | none =>
    if fileExists (configs "/etc/signal2sip/signal2sip.conf") then "/etc/signal2sip/signal2sip.conf"
    else "./signal2sip.conf"

/-! ## The parser -/

/-- Section, key, value. -/
abbrev IniMap := Table String (Table String String)

namespace IniMap

/-- `ini[section][key] = value`. -/
def set (ini : IniMap) (sectionName key value : String) : IniMap :=
  ini.insert sectionName (((ini.lookup sectionName).getD ∅).insert key value)

def entry (ini : IniMap) (sectionName key : String) : Option String :=
  (ini.lookup sectionName).bind fun entries => entries.lookup key

end IniMap

namespace Ini

/-- The characters of `find_first_not_of(" \\t\\r\\n")`. -/
def isTrimmed (c : Char) : Bool := c = ' ' || c = '\t' || c = '\r' || c = '\n'

def trim (s : List Char) : List Char :=
  ((s.dropWhile isTrimmed).reverse.dropWhile isTrimmed).reverse

/-- The section that the loop is in, and what it has read. -/
structure State where
  sectionName : String := ""
  result : IniMap := ∅

/-- The body of the loop of `parseIni`. -/
def parseLine (s : State) (line : List Char) : State :=
  let trimmed := trim line
  if trimmed = [] ∨ trimmed.head? = some ';' ∨ trimmed.head? = some '#' then s
  else if trimmed.head? = some '[' ∧ trimmed.getLast? = some ']' then
    { s with sectionName := String.ofList trimmed.tail.dropLast }
  else if '=' ∉ trimmed then s
  else
    let key := trim (trimmed.takeWhile (· ≠ '='))
    let value := trim (trimmed.dropWhile (· ≠ '=')).tail
    { s with result := s.result.set s.sectionName (String.ofList key) (String.ofList value) }

/-- The map of a text. -/
def parse (content : String) : IniMap := (Lines.readLines parseLine {} content.toList).result

end Ini

def parseIni (path : String) : ConfigFile → Except RuntimeError IniMap
  | .missing | .unreadable => .error ⟨"cannot open config file: " ++ path⟩
  | .text content => .ok (Ini.parse content)

/-- What a file says, if it can be read. -/
def iniOf : ConfigFile → IniMap
  | .text content => Ini.parse content
  | .missing | .unreadable => ∅

/-- An absent or empty value takes the fallback. -/
def getOr (ini : IniMap) (sectionName key fallback : String) : String :=
  match ini.lookup sectionName with
  | none => fallback
  | some entries =>
    match entries.lookup key with
    | none => fallback
    | some value => if value = "" then fallback else value

/-! ## `[global]` -/

/-- Without a file, everything is empty. -/
def loadGlobalConfigLenient (path : String) (file : ConfigFile) : Except RuntimeError GlobalConfig :=
  if fileExists file then
    (parseIni path file).map fun ini =>
      { dbPath := getOr ini "global" "db_path" "", dbKey := getOr ini "global" "db_key" "" }
  else .ok { dbPath := "", dbKey := "" }

/-- `static_cast<unsigned>(std::stoul(getOr(ini, "global", key, fallback)))`. -/
def unsignedSetting (ini : IniMap) (key fallback : String) : Except RuntimeError Nat :=
  match CxxString.stoul (getOr ini "global" key fallback) with
  | none => .error ⟨"stoul"⟩
  | some n => .ok n.toUInt32.toNat

/-- What `DaemonConfig::load` reads of the file, before it opens the database. -/
def loadGlobal (path : String) (file : ConfigFile) : Except RuntimeError GlobalConfig := do
  let ini ← parseIni path file
  let dbPath := getOr ini "global" "db_path" ""
  if dbPath = "" then .error ⟨"signal2sip.conf: [global] db_path is required"⟩
  else
    let dbKey := getOr ini "global" "db_key" ""
    if dbKey = "" then .error ⟨"signal2sip.conf: [global] db_key is required"⟩
    else
      let sipRegWatchdogSec ← unsignedSetting ini "sip_reg_watchdog_sec" "60"
      let resolvedContactTtlSec ← unsignedSetting ini "resolved_contact_ttl_sec" "86400"
      let storageSyncIntervalSec ← unsignedSetting ini "storage_sync_interval_sec" "43200"
      let configPollIntervalSec ← unsignedSetting ini "config_poll_interval_sec" "30"
      return ⟨dbPath, dbKey, sipRegWatchdogSec, resolvedContactTtlSec, storageSyncIntervalSec,
        configPollIntervalSec⟩

/-- `DaemonConfig::load` of a file. -/
def DaemonConfig.loadFile (path : String) (file : ConfigFile) (db : Db) (f : LoadFaults) :
    Except RuntimeError DaemonConfig :=
  DaemonConfig.load (loadGlobal path file) db f

/-! ## Reading what was set -/

theorem IniMap.entry_set (ini : IniMap) (sectionName key value sectionName' key' : String) :
    (ini.set sectionName key value).entry sectionName' key' =
      if sectionName' = sectionName ∧ key' = key then some value
      else ini.entry sectionName' key' := by
  by_cases hsection : sectionName' = sectionName
  · subst hsection
    rw [entry, set, AList.lookup_insert, Option.bind_some]
    by_cases hkey : key' = key
    · rw [hkey, if_pos ⟨rfl, rfl⟩, AList.lookup_insert]
    · rw [if_neg fun h => hkey h.2, AList.lookup_insert_ne hkey, entry]
      cases ini.lookup sectionName' with
      | none => rfl
      | some entries => rfl
  · rw [if_neg fun h => hsection h.1, entry, set, AList.lookup_insert_ne hsection, entry]

/-- A fallback stands for a value that is absent or empty. -/
theorem getOr_eq (ini : IniMap) (sectionName key fallback : String) :
    getOr ini sectionName key fallback =
      ((ini.entry sectionName key).filter (· ≠ "")).getD fallback := by
  rw [getOr, IniMap.entry]
  cases ini.lookup sectionName with
  | none => rfl
  | some entries =>
    simp only [Option.bind_some]
    cases entries.lookup key with
    | none => rfl
    | some value =>
      by_cases hvalue : value = ""
      · have hfilter : (some value).filter (· ≠ "") = none :=
          Option.filter_some_neg (by simp [hvalue])
        rw [hfilter]
        exact if_pos hvalue
      · have hfilter : (some value).filter (· ≠ "") = some value :=
          Option.filter_some_pos (by simp [hvalue])
        rw [hfilter]
        exact if_neg hvalue

example : (Ini.parse "# x\n[global]\r\n db_path = /a=b \n[\ndb_key=\n").entry "global" "db_path" =
    some "/a=b" := by decide

end Signal2sip
