import Signal2sip.Daemon.Config
import Signal2sip.Gendb.ConfigFields

/-!
# `signal2sip-gendb`

The commands of `gendb/main.cpp` that write something: `register`, `verify`, `link`, `unlink`,
`delete-account`, `config set`, `enable` and `disable`. A command loads the daemon's configuration,
checks what it has to, talks to Signal's servers and writes the account's rows. `Files` is what it
reads and writes, the database and the files of pending registrations next to it.

A run ends with or without an exception, and what it has written by then stays. What the servers reply
and which statements fail are parameters of a run; key generation and the device name's encryption
are taken to succeed. The other commands write neither the database nor a pending registration.
-/

namespace Signal2sip

open Sqlite (Faults)

/-! ## What a run works on -/

structure PendingRegistration where
  e164 : String
  sessionId : String
  password : String
  transport : String
deriving DecidableEq, Repr

structure Files where
  db : Db := {}
  pending : Table String PendingRegistration := ∅
deriving DecidableEq

/-- What a run leaves, and the exception that ended it. -/
abbrev Ended := Files × Option RuntimeError

/-- A run that writes all or nothing. -/
def Files.attempt (files : Files) (result : Except RuntimeError Files) : Ended :=
  match result with
  | .ok files' => (files', none)
  | .error e => (files, some e)

/-- The failures of a run's own statements. `std::remove` may fail to delete the pending registration,
which goes unnoticed, and a run that stops before it leaves the file as well. -/
structure CommandFaults where
  openStorage : Option RuntimeError := none
  hasAccount : Faults := .quiet
  loadAccount : Faults := .quiet
  saveAccountConfig : Faults := .quiet
  finish : Nat → Faults := fun _ => .quiet
  removePending : Bool := true
  deleteBegin : Option Sqlite.Error := none
  delete : Storage.TableName → Faults := fun _ => .quiet
  deleteCommit : Option Sqlite.Error := none

/-- A check that throws. -/
def ensure (check : Bool) (e : RuntimeError) : Except RuntimeError Unit :=
  if check then .ok () else .error e

/-- A call outside the program that throws or returns nothing. -/
def succeeds (outcome : Option RuntimeError) : Except RuntimeError Unit :=
  match outcome with
  | some e => .error e
  | none => .ok ()

/-! ## Checks -/

/-- The account's loaded configuration, and whether there is one; a new name has an empty one. -/
def resolveAccount (config : DaemonConfig) (name : String) : AccountConfig × Bool :=
  match config.accounts.find? fun a => a.name = name with
  | some account => (account, true)
  | none => ({ name := name, e164 := "" }, false)

def requireNoExistingAccount (db : Db) (name : String) (f : CommandFaults) :
    Except RuntimeError Unit := do
  let existing ← (Storage.hasAccount db name f.hasAccount).value
  ensure (!existing) ⟨"account '" ++ name ++ "' already has a saved account in the database - use a " ++
    "different [account.<name>] section for a new number"⟩

def requireE164NotUsedByOtherAccount (config : DaemonConfig) (accountName e164 : String) :
    Except RuntimeError Unit :=
  match config.accounts.find? fun a => a.name ≠ accountName ∧ a.e164 = e164 with
  | some a => .error ⟨"e164 " ++ e164 ++ " is already configured under a different account ('" ++
      a.name ++ "') in this config - registering/linking it again here would re-register that " ++
      "number on the real Signal server, likely kicking the existing device off it"⟩
  | none => .ok ()

/-- The checks of the commands for an account that exists, and its row. -/
def loadSavedAccount (db : Db) (accountName hint : String) (f : CommandFaults) :
    Except RuntimeError AccountRecord := do
  succeeds f.openStorage
  let existing ← (Storage.hasAccount db accountName f.hasAccount).value
  ensure existing ⟨"account '" ++ accountName ++ "' has no saved account in the database" ++ hint⟩
  (Storage.loadAccount db accountName f.loadAccount).value

/-! ## Saving a new account -/

structure FinishedAccount where
  e164 : String
  aci : String
  pni : String
  password : String
  deviceId : Int := 1
  registrationId : Int
  pniRegistrationId : Int
  aciIdentity : IdentityKeypairRecord
  pniIdentity : IdentityKeypairRecord
  aciSignedPreKey : SignedPrekeyRecord
  pniSignedPreKey : SignedPrekeyRecord
  aciKyberPreKey : KyberPrekeyRecord
  pniKyberPreKey : KyberPrekeyRecord
  flow : String
  accountEntropyPool : Option String := none
  mediaRootBackupKey : Option Bytes := none
  profileKey : Option Bytes := none

/-- The record that `saveFinishedAccount` fills in; `now` is `std::time(nullptr)`. -/
def FinishedAccount.record (account : FinishedAccount) (now : Int) : AccountRecord where
  e164 := account.e164
  aci := account.aci
  pni := account.pni
  password := account.password
  deviceId := account.deviceId
  registrationId := account.registrationId
  pniRegistrationId := account.pniRegistrationId
  flow := some account.flow
  accountEntropyPool := account.accountEntropyPool
  mediaRootBackupKey := account.mediaRootBackupKey
  profileKey := account.profileKey
  registeredAt := if account.flow = "standalone" then some now else none
  linkedAt := if account.flow = "standalone" then none else some now

/-- Writes one after the other, up to the first that throws; each is a transaction of its own. -/
def writeAll : List (Db → Result Db) → Db → Db × Option RuntimeError
  | [], db => (db, none)
  | write :: writes, db =>
    match (write db).value with
    | .error e => (db, some e)
    | .ok db' => writeAll writes db'

/-- `saveFinishedAccount`. -/
def saveFinishedAccount (db : Db) (accountName : String) (account : FinishedAccount) (now : Int)
    (f : Nat → Faults) : Db × Option RuntimeError :=
  writeAll
    [fun db => Storage.saveAccount db accountName (account.record now) (f 0),
      fun db => Storage.saveIdentityKeypair db accountName "aci" account.aciIdentity (f 1),
      fun db => Storage.saveIdentityKeypair db accountName "pni" account.pniIdentity (f 2),
      fun db => Storage.saveSignedPrekey db accountName "aci" account.aciSignedPreKey (f 3),
      fun db => Storage.saveSignedPrekey db accountName "pni" account.pniSignedPreKey (f 4),
      fun db => Storage.saveKyberPrekey db accountName "aci" account.aciKyberPreKey (f 5),
      fun db => Storage.saveKyberPrekey db accountName "pni" account.pniKyberPreKey (f 6)] db

/-! ## `register`, `verify`, `link` -/

/-- What the registration service says of a new session. -/
structure RegistrationSession where
  sessionId : String
  allowedToRequestCode : Bool
  requestedInformation : List String

structure RegisterReplies where
  session : Except RuntimeError RegistrationSession
  password : String
  savePending : Option RuntimeError := none
  requestVerificationCode : Option RuntimeError := none

/-- The account that `register` is for: its number comes from the configuration or the command line. -/
def registeredAccount (config : DaemonConfig) (accountName e164Arg : String) :
    Except RuntimeError AccountConfig :=
  match resolveAccount config accountName with
  | (account, false) =>
    if e164Arg = "" then
      .error ⟨"account '" ++ accountName ++
        "' is not in the config yet - pass --e164 <e164> to register it"⟩
    else .ok { account with e164 := e164Arg }
  | (account, true) =>
    if e164Arg ≠ "" ∧ e164Arg ≠ account.e164 then
      .error ⟨"account '" ++ accountName ++ "' is already configured with e164=" ++ account.e164 ++
        " - --e164 " ++ e164Arg ++ " does not match"⟩
    else .ok account

def registerChecks (config : DaemonConfig) (db : Db) (accountName e164Arg transport : String)
    (f : CommandFaults) : Except RuntimeError AccountConfig := do
  ensure (transport = "sms" || transport = "voice") ⟨"transport must be \"sms\" or \"voice\""⟩
  let account ← registeredAccount config accountName e164Arg
  requireE164NotUsedByOtherAccount config accountName account.e164
  succeeds f.openStorage
  requireNoExistingAccount db accountName f
  return account

/-- The pending registration is saved before the code is requested, which a challenge prevents. -/
def cmdRegister (config : DaemonConfig) (files : Files) (accountName e164Arg transport : String)
    (f : CommandFaults) (r : RegisterReplies) : Ended :=
  match registerChecks config files.db accountName e164Arg transport f, r.session, r.savePending with
  | .error e, _, _ => (files, some e)
  | .ok _, .error e, _ => (files, some e)
  | .ok _, .ok _, some e => (files, some e)
  | .ok account, .ok session, none =>
    let challenged := "captcha" ∈ session.requestedInformation ∨
      "pushChallenge" ∈ session.requestedInformation ∨ !session.allowedToRequestCode
    ({ files with
        pending := files.pending.insert accountName
          ⟨account.e164, session.sessionId, r.password, transport⟩ },
      if challenged then none else r.requestVerificationCode)

/-- The keys and ids that `verify` and `link` generate, and the clock. -/
structure NewKeys where
  registrationId : Int
  pniRegistrationId : Int
  aciSignedPreKey : SignedPrekeyRecord
  pniSignedPreKey : SignedPrekeyRecord
  aciKyberPreKey : KyberPrekeyRecord
  pniKyberPreKey : KyberPrekeyRecord
  now : Int

structure VerifyReplies where
  resumeSession : Option RuntimeError := none
  submitVerificationCode : Except RuntimeError Bool
  aciIdentity : IdentityKeypairRecord
  pniIdentity : IdentityKeypairRecord
  keys : NewKeys
  registerAccount : Except RuntimeError (String × String)

def loadPending (files : Files) (accountName : String) : Except RuntimeError PendingRegistration :=
  match files.pending.lookup accountName with
  | some pending => .ok pending
  | none => .error ⟨"no pending registration for account '" ++ accountName ++
      "' - run 'register' first"⟩

def deletePending (files : Files) (accountName : String) (f : CommandFaults) :
    Table String PendingRegistration :=
  if f.removePending then files.pending.erase accountName else files.pending

/-- What `verify` checks before its first request: the pending registration and its number. -/
def verifyTarget (config : DaemonConfig) (files : Files) (accountName : String) (f : CommandFaults) :
    Except RuntimeError (String × PendingRegistration) := do
  succeeds f.openStorage
  requireNoExistingAccount files.db accountName f
  let pending ← loadPending files accountName
  let account := (resolveAccount config accountName).1
  let e164 := if account.e164 = "" then pending.e164 else account.e164
  requireE164NotUsedByOtherAccount config accountName e164
  return (e164, pending)

/-- The checks of `verify`, and what it submits the code for. -/
def verifyChecks (config : DaemonConfig) (files : Files) (accountName : String) (f : CommandFaults)
    (r : VerifyReplies) : Except RuntimeError (String × PendingRegistration × Bool) := do
  let (e164, pending) ← verifyTarget config files accountName f
  succeeds r.resumeSession
  let verified ← r.submitVerificationCode
  return (e164, pending, verified)

/-- A code that is not accepted and a registration that is rejected are reported, not thrown. -/
def cmdVerify (config : DaemonConfig) (files : Files) (accountName : String) (f : CommandFaults)
    (r : VerifyReplies) : Ended :=
  match verifyChecks config files accountName f r, r.registerAccount with
  | .error e, _ => (files, some e)
  | .ok (_, _, false), _ => (files, none)
  | .ok (_, _, true), .error _ => (files, none)
  | .ok (e164, pending, true), .ok (aci, pni) =>
    match saveFinishedAccount files.db accountName
        { e164 := e164, aci := aci, pni := pni, password := pending.password,
          registrationId := r.keys.registrationId, pniRegistrationId := r.keys.pniRegistrationId,
          aciIdentity := r.aciIdentity, pniIdentity := r.pniIdentity,
          aciSignedPreKey := r.keys.aciSignedPreKey, pniSignedPreKey := r.keys.pniSignedPreKey,
          aciKyberPreKey := r.keys.aciKyberPreKey, pniKyberPreKey := r.keys.pniKyberPreKey,
          flow := "standalone" } r.keys.now f.finish with
    | (db, some e) => ({ files with db := db }, some e)
    | (db, none) => ({ db := db, pending := deletePending files accountName f }, none)

structure ProvisionMessageResult where
  e164 : String
  aciIdentity : IdentityKeypairRecord
  pniIdentity : IdentityKeypairRecord
  profileKey : Option Bytes
  accountEntropyPool : Option String
  mediaRootBackupKey : Option Bytes

structure LinkedDevice where
  uuid : String
  pni : String
  deviceId : Int

/-- The request to link is answered, or throws. An answer other than 200 is `none`, and the body of a
200 parses or throws. -/
structure LinkReplies where
  provisioned : Except RuntimeError ProvisionMessageResult
  password : String
  keys : NewKeys
  response : Except RuntimeError (Option LinkedDevice)

/-- The checks of `link`, what was scanned, and the number that it is saved under. -/
def linkChecks (config : DaemonConfig) (files : Files) (accountName : String) (f : CommandFaults)
    (r : LinkReplies) : Except RuntimeError (ProvisionMessageResult × String) := do
  succeeds f.openStorage
  requireNoExistingAccount files.db accountName f
  let account := (resolveAccount config accountName).1
  let provisioned ← r.provisioned
  let finalE164 := if account.e164 ≠ "" then account.e164 else provisioned.e164
  requireE164NotUsedByOtherAccount config accountName finalE164
  return (provisioned, finalE164)

def cmdLink (config : DaemonConfig) (files : Files) (accountName : String) (f : CommandFaults)
    (r : LinkReplies) : Ended :=
  match linkChecks config files accountName f r, r.response with
  | .error e, _ => (files, some e)
  | .ok _, .error e => (files, some e)
  | .ok _, .ok none => (files, none)
  | .ok (provisioned, finalE164), .ok (some device) =>
    match saveFinishedAccount files.db accountName
        { e164 := finalE164, aci := device.uuid, pni := device.pni, password := r.password,
          deviceId := device.deviceId, registrationId := r.keys.registrationId,
          pniRegistrationId := r.keys.pniRegistrationId, aciIdentity := provisioned.aciIdentity,
          pniIdentity := provisioned.pniIdentity, aciSignedPreKey := r.keys.aciSignedPreKey,
          pniSignedPreKey := r.keys.pniSignedPreKey, aciKyberPreKey := r.keys.aciKyberPreKey,
          pniKyberPreKey := r.keys.pniKyberPreKey, flow := "linked",
          accountEntropyPool := provisioned.accountEntropyPool,
          mediaRootBackupKey := provisioned.mediaRootBackupKey,
          profileKey := provisioned.profileKey } r.keys.now f.finish with
    | (db, thrown) => ({ files with db := db }, thrown)

/-! ## `unlink`, `delete-account` -/

def deleteSavedAccount (files : Files) (accountName : String) (f : CommandFaults) :
    Except RuntimeError Files :=
  (Storage.deleteAccount files.db accountName f.deleteBegin f.delete f.deleteCommit).value.map
    fun db => { files with db := db }

def cmdUnlink (files : Files) (accountName : String) (f : CommandFaults) : Ended :=
  files.attempt do
    let _ ← loadSavedAccount files.db accountName " - nothing to unlink" f
    deleteSavedAccount files accountName f

/-- `connect` is how the connection is made, and `status` what the deletion is answered with; 0 means
that the connection closed first. -/
structure DeleteReplies where
  connect : Option RuntimeError := none
  status : Except RuntimeError Nat

/-- The rows go only when the server confirms. -/
def cmdDeleteAccount (files : Files) (accountName : String) (f : CommandFaults) (r : DeleteReplies) :
    Ended :=
  files.attempt do
    let _ ← loadSavedAccount files.db accountName "" f
    succeeds r.connect
    let status ← r.status
    if status / 100 = 2 then deleteSavedAccount files accountName f
    else if status = 0 then return files
    else .error ⟨"DELETE /v1/accounts/me failed with status " ++ toString status⟩

/-! ## `config set`, `enable`, `disable` -/

def saveChangedConfig (files : Files) (accountName : String) (account : AccountRecord)
    (f : CommandFaults) : Except RuntimeError Files :=
  (Storage.saveAccountConfig files.db accountName account f.saveAccountConfig).value.map
    fun db => { files with db := db }

def cmdConfigSet (files : Files) (accountName field value : String) (f : CommandFaults) : Ended :=
  files.attempt do
    let account ← loadSavedAccount files.db accountName "" f
    let field ← findConfigField field
    let account ← field.set account value
    saveChangedConfig files accountName account f

def cmdSetEnabled (files : Files) (accountName : String) (enabled : Bool) (f : CommandFaults) :
    Ended :=
  files.attempt do
    let account ← loadSavedAccount files.db accountName "" f
    saveChangedConfig files accountName { account with enabled := enabled } f

/-! ## A run -/

inductive Command
  | register (e164 transport : String) (r : RegisterReplies)
  | verify (r : VerifyReplies)
  | link (r : LinkReplies)
  | unlink
  | deleteAccount (r : DeleteReplies)
  | configSet (field value : String)
  | setEnabled (enabled : Bool)

/-- One run of the program: the command line, and what the run meets. -/
structure Invocation where
  accountName : String
  command : Command
  file : Except RuntimeError GlobalConfig
  load : LoadFaults := .quiet
  faults : CommandFaults := {}

def Command.run (command : Command) (config : DaemonConfig) (files : Files) (accountName : String)
    (f : CommandFaults) : Ended :=
  match command with
  | .register e164 transport r => cmdRegister config files accountName e164 transport f r
  | .verify r => cmdVerify config files accountName f r
  | .link r => cmdLink config files accountName f r
  | .unlink => cmdUnlink files accountName f
  | .deleteAccount r => cmdDeleteAccount files accountName f r
  | .configSet field value => cmdConfigSet files accountName field value f
  | .setEnabled enabled => cmdSetEnabled files accountName enabled f

/-- `main`: load the configuration, then the command. -/
def Invocation.run (i : Invocation) (files : Files) : Ended :=
  match DaemonConfig.load i.file files.db i.load with
  | .error e => (files, some e)
  | .ok config => i.command.run config files i.accountName i.faults

end Signal2sip
