import Signal2sip.Gendb.Captcha
import Signal2sip.Gendb.Main
import Signal2sip.Util.Base64

/-!
# What `signal2sip-gendb` and the servers say to each other

The commands of `Gendb.Commands` with the requests that they make: the registration service's in
`RegistrationServiceClient.cpp`, the link request, and those of `deactivate`, `reactivate` and
`delete-account` over the account's own connection. A request is in the list of exchanges as soon as it
is made, with what the command reads of its answer, if there is one.

`PreKeys.cpp` makes a prekey with one half for the server and one for the database. What libsignal does
is a parameter; one run of the generator is the `KeyMaterial` that it draws.
-/

namespace Signal2sip.Registration

open Base64 (base64NoPadding)

/-! ## Prekeys -/

structure PreKeyLibrary where
  sign (privateKey message randomness : Bytes) : Bytes
  signedPreKeyRecord (id : UInt32) (timestamp : UInt64) (publicKey privateKey signature : Bytes) : Bytes
  kyberPreKeyRecord (id : UInt32) (timestamp : UInt64) (publicKey secretKey signature : Bytes) : Bytes

/-- A key pair of either kind, the randomness of its signature, and `nowMillis()`. -/
structure KeyMaterial where
  publicKey : Bytes
  privateKey : Bytes
  randomness : Bytes
  timestamp : UInt64

structure WirePreKey where
  keyId : Int
  publicKey : Bytes
  signature : Bytes

/-- `static_cast<uint32_t>`. -/
def toUInt32 (n : Int) : UInt32 := .ofBitVec (.ofInt 32 n)

/-- `static_cast<uint16_t>`. -/
def toUInt16 (n : Int) : UInt16 := .ofBitVec (.ofInt 16 n)

structure GeneratedSignedPreKey where
  wire : WirePreKey
  stored : SignedPrekeyRecord

structure GeneratedKyberPreKey where
  wire : WirePreKey
  stored : KyberPrekeyRecord

variable (lib : PreKeyLibrary)

def generateSignedPreKey (identityPrivateKey : Bytes) (keyId : Int) (key : KeyMaterial) :
    GeneratedSignedPreKey :=
  let signature := lib.sign identityPrivateKey key.publicKey key.randomness
  { wire := ⟨keyId, key.publicKey, signature⟩
    stored := ⟨keyId, lib.signedPreKeyRecord (toUInt32 keyId) key.timestamp key.publicKey key.privateKey
      signature⟩ }

def generateKyberPreKey (identityPrivateKey : Bytes) (keyId : Int) (key : KeyMaterial) :
    GeneratedKyberPreKey :=
  let signature := lib.sign identityPrivateKey key.publicKey key.randomness
  { wire := ⟨keyId, key.publicKey, signature⟩
    stored := ⟨keyId, lib.kyberPreKeyRecord (toUInt32 keyId) key.timestamp key.publicKey key.privateKey
      signature⟩ }

structure GeneratedPrekeys where
  aciSignedPreKey : GeneratedSignedPreKey
  pniSignedPreKey : GeneratedSignedPreKey
  aciKyberPreKey : GeneratedKyberPreKey
  pniKyberPreKey : GeneratedKyberPreKey

/-- The four draws of `generatePrekeys`. -/
structure PrekeyMaterial where
  aciSigned : KeyMaterial
  pniSigned : KeyMaterial
  aciKyber : KeyMaterial
  pniKyber : KeyMaterial

/-- The default of `generatePrekeys`. -/
def firstKeyId : Int := 1

def generatePrekeys (aciPrivateKey pniPrivateKey : Bytes) (keyId : Int) (key : PrekeyMaterial) :
    GeneratedPrekeys where
  aciSignedPreKey := generateSignedPreKey lib aciPrivateKey keyId key.aciSigned
  pniSignedPreKey := generateSignedPreKey lib pniPrivateKey keyId key.pniSigned
  aciKyberPreKey := generateKyberPreKey lib aciPrivateKey keyId key.aciKyber
  pniKyberPreKey := generateKyberPreKey lib pniPrivateKey keyId key.pniKyber

/-- What `randomRegistrationId` can return. -/
abbrev RegistrationId := { n : Int // 1 ≤ n ∧ n ≤ 16383 }

/-! ## Requests -/

structure SignedPublicPreKey where
  keyId : UInt32
  publicKey : Bytes
  signature : Bytes

/-- The keys of one identity in a registration. -/
structure IdentityUpload where
  identityPublicKey : Bytes
  signedPreKey : SignedPublicPreKey
  pqLastResortPreKey : SignedPublicPreKey

/-- `RegisterAccountRequest` with its account attributes. The unidentified access key is 16 zeros. -/
structure RegisterAccountRequest where
  accountPassword : String
  skipDeviceTransfer : Bool
  aci : IdentityUpload
  pni : IdentityUpload
  registrationId : UInt16
  pniRegistrationId : UInt16
  unrestrictedUnidentifiedAccess : Bool
  capabilities : List String
  discoverableByPhoneNumber : Bool

/-- A prekey in a JSON body; the keys are their `base64NoPadding`. -/
structure PreKeyJson where
  keyId : Int
  publicKey : Bytes
  signature : Bytes

/-- The body of `PUT /v1/devices/link`. -/
structure LinkBody where
  verificationCode : String
  fetchesMessages : Bool
  registrationId : Int
  pniRegistrationId : Int
  name : String
  capabilities : List (String × Bool)
  aciSignedPreKey : PreKeyJson
  pniSignedPreKey : PreKeyJson
  aciPqLastResortPreKey : PreKeyJson
  pniPqLastResortPreKey : PreKeyJson

/-- The body of `PUT /v1/accounts/attributes/`. -/
structure AttributesBody where
  fetchesMessages : Bool
  registrationId : Int
  pniRegistrationId : Int
  name : Option String
  capabilities : List (String × Bool)
  unrestrictedUnidentifiedAccess : Bool
  discoverableByPhoneNumber : Bool

/-- A request with its answer. -/
inductive Exchange
  | createSession (number : String) (sessionId : Option String)
  | resumeSession (sessionId number : String) (resumed : Bool)
  | submitCaptcha (sessionId captchaToken : String)
  | requestVerificationCode (sessionId transport : String)
  | submitVerificationCode (sessionId code : String) (verified : Option Bool)
  | registerAccount (sessionId : String) (request : RegisterAccountRequest)
    (registered : Option (String × String))
  | linkDevice (username password : String) (body : LinkBody) (device : Option LinkedDevice)
  | putAttributes (username password : String) (body : AttributesBody) (status : Option Nat)
  | removeRegistrationLock (username password : String) (status : Option Nat)
  | deleteAccount (username password : String) (status : Option Nat)

def wireUpload (key : WirePreKey) : SignedPublicPreKey :=
  ⟨toUInt32 key.keyId, key.publicKey, key.signature⟩

def preKeyJson (key : WirePreKey) : PreKeyJson :=
  ⟨key.keyId, base64NoPadding key.publicKey, base64NoPadding key.signature⟩

def capabilitiesJson : List (String × Bool) :=
  [("storage", false), ("versionedExpirationTimer", false), ("attachmentBackfill", false), ("spqr", true),
    ("usernameChangeSyncMessage", true)]

/-- The request of `registerAccount`. -/
def registerAccountRequest (accountPassword : String) (registrationId pniRegistrationId : Int)
    (aciIdentity pniIdentity : IdentityKeypairRecord) (prekeys : GeneratedPrekeys) :
    RegisterAccountRequest where
  accountPassword
  skipDeviceTransfer := true
  aci := ⟨aciIdentity.publicKey, wireUpload prekeys.aciSignedPreKey.wire,
    wireUpload prekeys.aciKyberPreKey.wire⟩
  pni := ⟨pniIdentity.publicKey, wireUpload prekeys.pniSignedPreKey.wire,
    wireUpload prekeys.pniKyberPreKey.wire⟩
  registrationId := toUInt16 registrationId
  pniRegistrationId := toUInt16 pniRegistrationId
  unrestrictedUnidentifiedAccess := true
  capabilities := ["spqr", "usernameChangeSyncMessage"]
  discoverableByPhoneNumber := true

/-! ## The commands -/

/-- A `verify` with what it generates and what it is answered. -/
structure VerifyAttempt where
  code : String
  resumeSession : Option RuntimeError := none
  submitVerificationCode : Except RuntimeError Bool
  aciIdentity : IdentityKeypairRecord
  pniIdentity : IdentityKeypairRecord
  registrationId : RegistrationId
  pniRegistrationId : RegistrationId
  prekeys : PrekeyMaterial
  now : Int
  registerAccount : Except RuntimeError (String × String)

/-- The parts of what was scanned that only the request needs. -/
structure ProvisionedDevice where
  result : ProvisionMessageResult
  aci : String
  provisioningCode : String

/-- A `link` with what it generates and what it is answered; `encryptedDeviceName` is the name under the
scanned identity. -/
structure LinkAttempt where
  provisioned : Except RuntimeError ProvisionedDevice
  password : String
  registrationId : RegistrationId
  pniRegistrationId : RegistrationId
  prekeys : PrekeyMaterial
  now : Int
  encryptedDeviceName : String
  response : Except RuntimeError (Option LinkedDevice)

namespace VerifyAttempt

variable (a : VerifyAttempt)

def generated : GeneratedPrekeys :=
  generatePrekeys lib a.aciIdentity.privateKey a.pniIdentity.privateKey firstKeyId a.prekeys

def request (password : String) : RegisterAccountRequest :=
  registerAccountRequest password a.registrationId.val a.pniRegistrationId.val a.aciIdentity a.pniIdentity
    (a.generated lib)

def replies : VerifyReplies where
  resumeSession := a.resumeSession
  submitVerificationCode := a.submitVerificationCode
  aciIdentity := a.aciIdentity
  pniIdentity := a.pniIdentity
  keys := {
    registrationId := a.registrationId.val
    pniRegistrationId := a.pniRegistrationId.val
    aciSignedPreKey := (a.generated lib).aciSignedPreKey.stored
    pniSignedPreKey := (a.generated lib).pniSignedPreKey.stored
    aciKyberPreKey := (a.generated lib).aciKyberPreKey.stored
    pniKyberPreKey := (a.generated lib).pniKyberPreKey.stored
    now := a.now }
  registerAccount := a.registerAccount

end VerifyAttempt

namespace LinkAttempt

variable (a : LinkAttempt)

def generated (result : ProvisionMessageResult) : GeneratedPrekeys :=
  generatePrekeys lib result.aciIdentity.privateKey result.pniIdentity.privateKey firstKeyId a.prekeys

/-- The stored halves. Without a scan nothing is generated. -/
def keys : NewKeys :=
  let generated := match a.provisioned with
    | .ok provisioned => a.generated lib provisioned.result
    | .error _ => generatePrekeys lib [] [] firstKeyId a.prekeys
  { registrationId := a.registrationId.val
    pniRegistrationId := a.pniRegistrationId.val
    aciSignedPreKey := generated.aciSignedPreKey.stored
    pniSignedPreKey := generated.pniSignedPreKey.stored
    aciKyberPreKey := generated.aciKyberPreKey.stored
    pniKyberPreKey := generated.pniKyberPreKey.stored
    now := a.now }

def replies : LinkReplies where
  provisioned := a.provisioned.map (·.result)
  password := a.password
  keys := a.keys lib
  response := a.response

def body (provisioned : ProvisionedDevice) : LinkBody :=
  let prekeys := a.generated lib provisioned.result
  { verificationCode := provisioned.provisioningCode
    fetchesMessages := true
    registrationId := a.registrationId.val
    pniRegistrationId := a.pniRegistrationId.val
    name := a.encryptedDeviceName
    capabilities := capabilitiesJson
    aciSignedPreKey := preKeyJson prekeys.aciSignedPreKey.wire
    pniSignedPreKey := preKeyJson prekeys.pniSignedPreKey.wire
    aciPqLastResortPreKey := preKeyJson prekeys.aciKyberPreKey.wire
    pniPqLastResortPreKey := preKeyJson prekeys.pniKyberPreKey.wire }

end LinkAttempt

/-- What `deactivate` and `reactivate` meet: the connection, the name that they encrypt, and the status of
the request. -/
structure AttributesReplies where
  connect : Option RuntimeError := none
  loadIdentityKeypair : Sqlite.Faults := .quiet
  encryptDeviceName : Bytes → String
  status : Except RuntimeError Nat

/-- The reply of the first request of `delete-account`, whose failure is only printed. -/
structure DeleteAttempt where
  registrationLock : Except RuntimeError Nat
  replies : DeleteReplies

inductive Action
  | register (e164 transport : String) (r : RegisterReplies)
  | registerCaptcha (token : String) (r : CaptchaReplies)
  | verify (a : VerifyAttempt)
  | link (a : LinkAttempt)
  | unlink
  | setFetchesMessages (fetchesMessages : Bool) (r : AttributesReplies)
  | deleteAccount (a : DeleteAttempt)
  | configSet (field value : String)
  | setEnabled (enabled : Bool)

/-- The command that works on the files, if the action is one. -/
def Action.command : Action → Option Command
  | .register e164 transport r => some (.register e164 transport r)
  | .registerCaptcha _ _ => none
  | .verify a => some (.verify (a.replies lib))
  | .link a => some (.link (a.replies lib))
  | .unlink => some .unlink
  | .setFetchesMessages _ _ => none
  | .deleteAccount a => some (.deleteAccount a.replies)
  | .configSet field value => some (.configSet field value)
  | .setEnabled enabled => some (.setEnabled enabled)

/-- One run of the program. -/
structure Attempt where
  accountName : String
  action : Action
  file : Except RuntimeError GlobalConfig
  load : LoadFaults := .quiet
  faults : CommandFaults := {}

/-- The files after a run. -/
def Attempt.files (a : Attempt) (files : Files) : Files :=
  match a.action.command lib with
  | none => files
  | some command => (Invocation.run ⟨a.accountName, command, a.file, a.load, a.faults⟩ files).1

/-! ## The exchanges -/

variable (config : DaemonConfig) (files : Files) (accountName : String) (f : CommandFaults)

def registerExchanges (e164 transport : String) (r : RegisterReplies) : List Exchange :=
  match registerChecks config files.db accountName e164 transport f with
  | .error _ => []
  | .ok account =>
    .createSession account.e164 (r.session.toOption.map (·.sessionId)) ::
      match r.session with
      | .error _ => []
      | .ok session =>
        let challenged := "captcha" ∈ session.requestedInformation ∨
          "pushChallenge" ∈ session.requestedInformation ∨ !session.allowedToRequestCode
        if r.savePending = none ∧ ¬ challenged then
          [.requestVerificationCode session.sessionId transport]
        else []

def registerCaptchaExchanges (token : String) (r : CaptchaReplies) : List Exchange :=
  match loadPending files accountName with
  | .error _ => []
  | .ok pending =>
    if cleanCaptchaToken token = "" then []
    else
      .resumeSession pending.sessionId pending.e164 r.resumeSession.isNone ::
        match r.resumeSession with
        | some _ => []
        | none =>
          .submitCaptcha pending.sessionId (cleanCaptchaToken token) ::
            match r.submitCaptcha with
            | .error _ => []
            | .ok session =>
              if session.allowedToRequestCode then
                [.requestVerificationCode pending.sessionId pending.transport]
              else []

def verifyExchanges (a : VerifyAttempt) : List Exchange :=
  match verifyTarget config files accountName f with
  | .error _ => []
  | .ok (e164, pending) =>
    .resumeSession pending.sessionId e164 a.resumeSession.isNone ::
      match a.resumeSession with
      | some _ => []
      | none =>
        .submitVerificationCode pending.sessionId a.code a.submitVerificationCode.toOption ::
          match a.submitVerificationCode with
          | .ok true =>
            [.registerAccount pending.sessionId (a.request lib pending.password)
              a.registerAccount.toOption]
          | _ => []

def linkExchanges (a : LinkAttempt) : List Exchange :=
  match linkChecks config files accountName f (a.replies lib), a.provisioned with
  | .ok _, .ok provisioned =>
    [.linkDevice provisioned.aci a.password (a.body lib provisioned) a.response.toOption.join]
  | _, _ => []

/-- The user name of an account's own connection. -/
def username (account : AccountRecord) : String :=
  if account.deviceId = 1 then account.aci else account.aci ++ "." ++ toString account.deviceId

/-- `putFetchesMessages`. -/
def attributesExchanges (fetchesMessages : Bool) (r : AttributesReplies) : List Exchange :=
  match loadSavedAccount files.db accountName "" f, r.connect with
  | .ok account, none =>
    let name : Except RuntimeError (Option String) :=
      if account.flow = some "linked" then
        (Storage.loadIdentityKeypair files.db accountName "aci" r.loadIdentityKeypair).value.map fun key =>
          key.map fun key => r.encryptDeviceName key.privateKey
      else .ok none
    match name with
    | .error _ => []
    | .ok name =>
      let body : AttributesBody := {
        fetchesMessages
        registrationId := account.registrationId
        pniRegistrationId := account.pniRegistrationId
        name
        capabilities := capabilitiesJson
        unrestrictedUnidentifiedAccess := true
        discoverableByPhoneNumber := true }
      [.putAttributes (username account) account.password body r.status.toOption]
  | _, _ => []

def deleteAccountExchanges (a : DeleteAttempt) : List Exchange :=
  match loadSavedAccount files.db accountName "" f, a.replies.connect with
  | .ok account, none =>
    [.removeRegistrationLock (username account) account.password a.registrationLock.toOption,
      .deleteAccount (username account) account.password a.replies.status.toOption]
  | _, _ => []

/-- The exchanges of a run; the configuration is loaded first, whatever the command. -/
def Attempt.exchanges (a : Attempt) (files : Files) : List Exchange :=
  match DaemonConfig.load a.file files.db a.load with
  | .error _ => []
  | .ok config =>
    match a.action with
    | .register e164 transport r =>
      registerExchanges config files a.accountName a.faults e164 transport r
    | .registerCaptcha token r => registerCaptchaExchanges files a.accountName token r
    | .verify v => verifyExchanges lib config files a.accountName a.faults v
    | .link l => linkExchanges lib config files a.accountName a.faults l
    | .unlink => []
    | .setFetchesMessages fetchesMessages r =>
      attributesExchanges files a.accountName a.faults fetchesMessages r
    | .deleteAccount d => deleteAccountExchanges files a.accountName a.faults d
    | .configSet _ _ => []
    | .setEnabled _ => []

/-- The files, and everything that was said so far. -/
structure History where
  files : Files := {}
  exchanges : List Exchange := []

def History.step (h : History) (a : Attempt) : History where
  files := a.files lib h.files
  exchanges := h.exchanges ++ a.exchanges lib h.files

end Signal2sip.Registration
