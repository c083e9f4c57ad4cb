import Signal2sip.Daemon.ConfigFile
import Signal2sip.Util.Base64

/-!
# The first `[global]`

`bootstrapGlobalConfigIfNeeded` of `gendb/main.cpp`: what is missing of `db_path` and `db_key` is
appended to the configuration. The file is written as it stands, section first, and the key is made
after that.

What the system answers is a parameter (`BootstrapSystem`). A file that is open is written.
-/

namespace Signal2sip

def kDefaultDbPath : String := "/var/lib/signal2sip/signal2sip.db"

/-- `std::filesystem::exists` of a database file, whether the configuration opens for appending, and
`RAND_bytes`. -/
structure BootstrapSystem where
  databaseExists : String → Except RuntimeError Bool
  opens : Bool
  randBytes : Option { bytes : Bytes // bytes.length = 32 }

/-- `randomBytes(32)`. -/
def BootstrapSystem.randomBytes (system : BootstrapSystem) :
    Except RuntimeError { bytes : Bytes // bytes.length = 32 } :=
  match system.randBytes with
  | none => .error ⟨"RAND_bytes failed"⟩
  | some bytes => .ok bytes

/-- What a stream that is open for appending leaves. -/
def ConfigFile.append (file : ConfigFile) (written : String) : ConfigFile :=
  match file with
  | .missing => .text written
  | .unreadable => .unreadable
  | .text content => .text (content ++ written)

def generatedKey (bytes : Bytes) : String :=
  String.ofList ((Base64.base64NoPadding bytes).map Char.ofUInt8)

/-- The database that the configuration means. -/
def dbPathOf (existing : GlobalConfig) : String :=
  if existing.dbPath = "" then kDefaultDbPath else existing.dbPath

def refuseToInvent (configPath dbPath : String) : RuntimeError :=
  ⟨"[global] db_key is missing in " ++ configPath ++ " but " ++ dbPath ++
    " already exists - refusing to invent a new passphrase for a database that " ++
    "might already hold real data; set the correct db_key by hand instead"⟩

/-- The stream is open: the section, `db_path`, and then the key. -/
def writeGlobal (system : BootstrapSystem) (file : ConfigFile) (dbPathMissing dbKeyMissing : Bool)
    (dbPath : String) : ConfigFile × Except RuntimeError Unit :=
  let file := file.append ("\n[global]\n" ++ if dbPathMissing then "db_path=" ++ dbPath ++ "\n" else "")
  if dbKeyMissing then
    match system.randomBytes with
    | .error e => (file, .error e)
    | .ok bytes => (file.append ("db_key=" ++ generatedKey bytes.1 ++ "\n"), .ok ())
  else (file, .ok ())

/-- What is at the configuration's path afterwards, and the result. -/
def bootstrapGlobalConfigIfNeeded (configPath : String) (system : BootstrapSystem)
    (file : ConfigFile) : ConfigFile × Except RuntimeError Unit :=
  match loadGlobalConfigLenient configPath file with
  | .error e => (file, .error e)
  | .ok existing =>
    let dbPathMissing := existing.dbPath = ""
    let dbKeyMissing := existing.dbKey = ""
    if ¬ dbPathMissing ∧ ¬ dbKeyMissing then (file, .ok ())
    else
      let dbPath := dbPathOf existing
      match if dbKeyMissing then system.databaseExists dbPath else .ok false with
      | .error e => (file, .error e)
      | .ok true => (file, .error (refuseToInvent configPath dbPath))
      | .ok false =>
        if system.opens then writeGlobal system file dbPathMissing dbKeyMissing dbPath
        else (file, .error ⟨"cannot write to config file: " ++ configPath⟩)

end Signal2sip
