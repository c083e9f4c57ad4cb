import Signal2sip.Daemon.Push
import Signal2sip.Lib.Locked
import Mathlib.Algebra.Group.Nat.Defs

/-!
# `CallSignaling.cpp` and its threads

The functions that encrypt, decrypt and establish sessions, as programs around the one mutex of
`ProtocolStores`: `fetchAndEstablishSessions`, `CallMessageSender`, `sendDecryptionErrorReply`,
`handleCallMessage`, the send callbacks of RingRTC and the locked part of `onPush`. Every lock guard
of the source is a `locked` here, and every request, clock, statement of `Storage` and call into
RingRTC is something that the program asks.

The mutex guards the account's stored sessions and remote identities and the device list cache. A
call of libsignal touches the first two through the store callbacks only, one callback at a time
(`Libsignal`); which callbacks it makes, and what else it depends on, its randomness, the prekeys and
the account's own keys, is a parameter. `is_trusted_identity` reads the row that `get_identity_key`
reads.

RingRTC may call send callbacks while it is being called; which ones, and which inside of those, is
the answer to the call (`SendCallbacks`).
-/

namespace Signal2sip

open Locked (Work Prog Throwing)

/-! ## What the mutex guards -/

/-- The account's rows in `session` and `remote_identity`, and `deviceListCache_`. -/
structure AccountStores where
  sessions : Table String Bytes := ∅
  remoteIdentities : Table String Bytes := ∅
  deviceListCache : Table String (List Int × Int) := ∅

/-- One call of libsignal, by the store callbacks that it makes. A callback can fail: a row that
cannot be read reads as absent, and a failed write leaves the row. -/
inductive Libsignal (β : Type) : Type
  | ret (result : β)
  | loadSession (address : ProtocolAddress) (reads : Bool) (k : Option Bytes → Libsignal β)
  | storeSession (address : ProtocolAddress) (record : Bytes) (writes : Bool) (k : Libsignal β)
  | getIdentityKey (address : ProtocolAddress) (reads : Bool) (k : Option Bytes → Libsignal β)
  | saveIdentityKey (address : ProtocolAddress) (publicKey : Bytes) (writes : Bool)
      (k : Bool → Libsignal β)

/-- The callbacks on the stores. -/
def Libsignal.work {β : Type} : Libsignal β → Work AccountStores β
  | .ret result => .done result
  | .loadSession address reads k =>
    .access id fun s => (k (if reads then s.sessions.lookup (addressKey address) else none)).work
  | .storeSession address record writes k =>
    .access
      (fun s =>
        if writes then { s with sessions := s.sessions.insert (addressKey address) record } else s)
      fun _ => k.work
  | .getIdentityKey address reads k =>
    .access id fun s =>
      (k (if reads then s.remoteIdentities.lookup address.name else none)).work
  | .saveIdentityKey address publicKey writes k =>
    .access
      (fun s =>
        if writes then
          { s with remoteIdentities := s.remoteIdentities.insert address.name publicKey }
        else s)
      fun s => (k ((s.remoteIdentities.lookup address.name).any (· ≠ publicKey))).work

/-! ## Messages and answers -/

structure RemotePreKeyBundle where
  serviceId : String
  deviceId : UInt32
  registrationId : UInt32
  preKey : Option (UInt32 × Bytes)
  signedPreKeyId : UInt32
  signedPreKeyPublic : Bytes
  signedPreKeySignature : Bytes
  identityKey : Bytes
  kyberPreKeyId : UInt32
  kyberPreKeyPublic : Bytes
  kyberPreKeySignature : Bytes

structure EncryptedMessage where
  ciphertext : Bytes
  type : UInt8

/-- An element of `messages` in the body of a `PUT /v1/messages`. -/
structure OutgoingMessage where
  type : Int
  destinationDeviceId : Int
  destinationRegistrationId : UInt32
  content : Bytes

structure MessagesBody where
  destination : String
  timestamp : Int
  messages : List OutgoingMessage
  online : Bool

structure Response where
  status : Nat
  body : Bytes

/-- A `CallMessage` that the daemon sends. -/
inductive OutgoingCallMessage
  | offer (id : CallId) (video : Bool) (content : Bytes)
  | answer (id : CallId) (content : Bytes)
  | iceUpdate (id : CallId) (content : Bytes) (destinationDeviceId : Option UInt32)
  | hangup (id : CallId) (type : Int) (deviceId : UInt32)

/-- A `Content` that the daemon sends. -/
inductive OutgoingContent
  | callMessage (message : OutgoingCallMessage)
  | keysRequest
  | decryptionErrorMessage (serialized : Bytes)

/-- A `CallMessage` that arrives, but for its `opaque`, which nothing reads. -/
structure CallMessage where
  offer : Option (CallId × Bytes) := none
  answer : Option (CallId × Bytes) := none
  iceUpdate : List (CallId × Bytes) := []
  hangup : Option (CallId × Int × UInt32) := none
  busy : Option CallId := none
  destinationDeviceId : Option UInt32 := none

/-- A send callback of RingRTC, with its arguments. -/
inductive SendCallback
  | sendOffer (remotePeerId : String) (callId : CallId) (mediaType : Int) (content : Bytes)
  | sendAnswer (remotePeerId : String) (callId : CallId) (content : Bytes)
  | sendIce (remotePeerId : String) (callId : CallId) (receiverDeviceId : Option UInt32)
      (content : Bytes)
  | sendHangup (remotePeerId : String) (callId : CallId) (hangupType : Int) (hangupDeviceId : UInt32)

/-- The send callbacks that RingRTC makes on one thread: none, or one, with those that it makes
inside of that one's report, and then more. -/
inductive SendCallbacks
  | none
  | more (callback : SendCallback) (inside rest : SendCallbacks)

/-- A message that RingRTC is told about. -/
inductive RingRtcCall
  | receivedOffer (remotePeerId : String) (callId : CallId) (senderDeviceId receiverDeviceId : UInt32)
      (content senderIdentityKey receiverIdentityKey : Bytes)
  | receivedAnswer (remotePeerId : String) (callId : CallId) (senderDeviceId : UInt32)
      (content senderIdentityKey receiverIdentityKey : Bytes)
  | receivedIce (remotePeerId : String) (callId : CallId) (senderDeviceId : UInt32) (content : Bytes)
  | receivedHangup (remotePeerId : String) (callId : CallId) (senderDeviceId : UInt32)
      (hangupType : Int) (hangupDeviceId : UInt32)
  | receivedBusy (remotePeerId : String) (callId : CallId) (senderDeviceId : UInt32)

/-- What a program asks for. `messageSent` and `messageSendFailure` are the two reports of
RingRTC's interface. -/
inductive Query
  | request (verb path : String) (body : Option MessagesBody)
  | libsignal
  | steadyNow
  | systemNow
  | loadSession (address : String)
  | loadRemoteIdentity (address : String)
  | loadIdentityKeypair
  | ringRtc (call : RingRtcCall)
  | messageSent (callId : CallId)
  | messageSendFailure (callId : CallId)

/-- What it is answered. A call of libsignal depends on a `ν`. A `load` of a row of the stores throws
when its statement cannot be prepared; otherwise the answer is whether the step can give the row. -/
abbrev Answer (ν : Type) : Query → Type
  | .request _ _ _ => Except RuntimeError Response
  | .libsignal => ν
  | .steadyNow | .systemNow => Int
  | .loadSession _ | .loadRemoteIdentity _ => Except RuntimeError Bool
  | .loadIdentityKeypair => Except RuntimeError (Option IdentityKeypairRecord)
  | .ringRtc _ => SendCallbacks
  | .messageSent _ | .messageSendFailure _ => Unit

/-- A program that cannot throw, and one that can. -/
abbrev Routine (ν : Type) := Prog AccountStores Query (Answer ν)

abbrev Call (ν : Type) := Throwing RuntimeError AccountStores Query (Answer ν)

/-- libsignal, and the parsers and serialisers around it. -/
structure Signaling (ν : Type) where
  processPreKeyBundle : ν → Address → RemotePreKeyBundle → Libsignal (Except RuntimeError Unit)
  encryptMessage : ν → Address → Address → Bytes → Libsignal (Except RuntimeError EncryptedMessage)
  decryptPreKeyMessage : ν → Address → Address → Bytes → Libsignal (Except RuntimeError Bytes)
  decryptMessage : ν → Address → Address → Bytes → Libsignal (Except RuntimeError Bytes)
  sealedSessionCipherDecryptToUsmc :
    ν → Bytes → Libsignal (Except RuntimeError UnidentifiedSenderMessageContent)
  senderCertificateValidate : Bytes → UInt64 → Except RuntimeError Bool
  serviceIdFromBinary : Bytes → Except RuntimeError String
  remoteRegistrationId : Bytes → Except RuntimeError UInt32
  buildDecryptionErrorMessage : Bytes → UInt8 → UInt64 → UInt32 → Except RuntimeError Bytes
  parseKeys : String → Bytes → Except RuntimeError (List RemotePreKeyBundle)
  parseExtraDevices : Bytes → Except RuntimeError (List Int)
  serialize : OutgoingContent → Bytes

section Programs

variable {ν : Type}

/-! ## Asking and working -/

def ask (q : Query) : Call ν (Answer ν q) := ExceptT.lift (.ask q .ret)

/-- `AuthSocket::request`. -/
def request (verb path : String) (body : Option MessagesBody) : Call ν Response :=
  ExceptT.mk (.ask (.request verb path body) .ret)

def working {β : Type} (w : Work AccountStores β) : Call ν β := ExceptT.lift (.work w .ret)

def reading {β : Type} (f : AccountStores → β) : Call ν β := working (.access id fun s => .done (f s))

def writing (f : AccountStores → AccountStores) : Call ν Unit := working (.access f fun _ => .done ())

/-- A `load` of `Storage`, by the answer to its statement: a step that fails finds no row. -/
def loading {β : Type} (statement : Except RuntimeError Bool) (f : AccountStores → Option β) :
    Call ν (Option β) := do
  let steps ← Throwing.ofExcept statement
  reading fun s => if steps then f s else none

/-- `Storage::loadSession`. -/
def loadSession (address : String) : Call ν (Option Bytes) := do
  let statement ← (ask (.loadSession address) : Call ν (Answer ν (.loadSession address)))
  loading statement fun s => s.sessions.lookup address

/-- `Storage::loadRemoteIdentity`. -/
def loadRemoteIdentity (address : String) : Call ν (Option Bytes) := do
  let statement ← (ask (.loadRemoteIdentity address) : Call ν (Answer ν (.loadRemoteIdentity address)))
  loading statement fun s => s.remoteIdentities.lookup address

/-- A call of libsignal. -/
def callLibsignal {β : Type} (call : ν → Libsignal (Except RuntimeError β)) : Call ν β :=
  ExceptT.mk (.ask .libsignal fun v => .work (call v).work .ret)

variable (env : Signaling ν) (localAddress : Address)

/-! ## Sessions -/

/-- `static_cast<int>`. -/
def intOfUInt32 (n : UInt32) : Int := Int.bmod n.toNat (2 ^ 32)

/-- The loop of `fetchAndEstablishSessions`, and the device ids it collects. -/
def establishAll : List RemotePreKeyBundle → Call ν (List Int)
  | [] => pure []
  | bundle :: bundles => do
    callLibsignal fun v => env.processPreKeyBundle v localAddress bundle
    let deviceIds ← establishAll bundles
    return intOfUInt32 bundle.deviceId :: deviceIds

def fetchAndEstablishSessions (remoteServiceId : String) : Call ν (List Int) := do
  let response ← request "GET" ("/v2/keys/" ++ remoteServiceId ++ "/*") none
  if response.status ≠ 200 then
    throw ⟨"GET /v2/keys/" ++ remoteServiceId ++ "/* -> " ++ toString response.status⟩
  let bundles ← Throwing.ofExcept (env.parseKeys remoteServiceId response.body)
  Throwing.locked (establishAll env localAddress bundles)

/-- `remoteRegistrationIdFromSession`: 0 without a session. -/
def remoteRegistrationIdFromSession (address : String) : Call ν UInt32 := do
  match ← loadSession address with
  | none => return 0
  | some record => Throwing.ofExcept (env.remoteRegistrationId record)

/-- `kDeviceListCacheTtl`, in seconds. -/
def kDeviceListCacheTtl : Int := 1800

/-- The cached list, if it is young enough. -/
def cachedDeviceList (remotePeerId : String) : Call ν (Option (List Int)) := do
  match ← reading fun s => s.deviceListCache.lookup remotePeerId with
  | none => return none
  | some (deviceIds, fetchedAt) =>
    let now ← ask .steadyNow
    return if (now : Int) - fetchedAt < kDeviceListCacheTtl then some deviceIds else none

def resolveDeviceList (remotePeerId : String) : Call ν (List Int) := do
  match ← Throwing.locked (cachedDeviceList remotePeerId) with
  | some deviceIds => return deviceIds
  | none =>
    let deviceIds ← fetchAndEstablishSessions env localAddress remotePeerId
    Throwing.locked do
      let now ← ask .steadyNow
      writing fun s =>
        { s with deviceListCache := s.deviceListCache.insert remotePeerId (deviceIds, now) }
    return deviceIds

/-! ## Sending -/

def paddedMessageLength (messageLength : Nat) : Nat := (messageLength + 1 + 79) / 80 * 80

/-- `padMessageBody`: 0x80, and zeros up to a block's last byte but one. -/
def padMessageBody (messageBody : Bytes) : Bytes :=
  messageBody ++ 0x80 ::
    List.replicate (paddedMessageLength (messageBody.length + 1) - 2 - messageBody.length) 0

/-- The loop of `sendContent` over the devices. -/
def encryptAll (destinationServiceId : String) (plaintext : Bytes) :
    List Int → Call ν (List OutgoingMessage)
  | [] => pure []
  | deviceId :: deviceIds => do
    let encrypted ← callLibsignal fun v => env.encryptMessage v localAddress
      ⟨destinationServiceId, UInt32.ofInt deviceId⟩ (padMessageBody plaintext)
    let registrationId ← remoteRegistrationIdFromSession env
      (destinationServiceId ++ "." ++ toString deviceId)
    let messages ← encryptAll destinationServiceId plaintext deviceIds
    return ⟨if encrypted.type = ciphertextMessageTypePreKey then 3 else 1, deviceId, registrationId,
      encrypted.ciphertext⟩ :: messages

def putMessages (destination : String) (messages : List OutgoingMessage) (online : Bool) :
    Call ν Response := do
  let timestamp ← ask .systemNow
  request "PUT" ("/v1/messages/" ++ destination ++ "?story=false")
    (some ⟨destination, timestamp, messages, online⟩)

/-- The retry of a 409: without the extra devices, if that leaves any. Whatever is thrown here leaves
the 409. -/
def retryWithoutExtraDevices (destinationServiceId : String) (messages : List OutgoingMessage)
    (response : Response) : Call ν Response :=
  tryCatch
    (do
      let extraDevices ← Throwing.ofExcept (env.parseExtraDevices response.body)
      let retryMessages := messages.filter fun m => m.destinationDeviceId ∉ extraDevices
      if extraDevices = [] ∨ retryMessages.isEmpty then return response
      putMessages destinationServiceId retryMessages true)
    fun _ => pure response

/-- The last answer that `sendContent` gets. -/
def lastResponse (destinationServiceId : String) (messages : List OutgoingMessage)
    (response : Response) : Call ν Response :=
  if response.status = 409 then
    retryWithoutExtraDevices env destinationServiceId messages response
  else pure response

/-- A device list that the server says is wrong is fetched again next time. -/
def forgetStaleDevices (destinationServiceId : String) (response : Response) : Call ν Unit :=
  if response.status / 100 ≠ 2 ∧ (response.status = 409 ∨ response.status = 410) then
    Throwing.locked <| writing fun s =>
      { s with deviceListCache := s.deviceListCache.erase destinationServiceId }
  else pure ()

def sendContent (destinationServiceId : String) (content : OutgoingContent) :
    Call ν (List Int) := do
  let deviceIds ← resolveDeviceList env localAddress destinationServiceId
  if deviceIds = [] then return deviceIds
  let messages ← Throwing.locked
    (encryptAll env localAddress destinationServiceId (env.serialize content) deviceIds)
  let response ← putMessages destinationServiceId messages true
  let response ← lastResponse env destinationServiceId messages response
  forgetStaleDevices destinationServiceId response
  return deviceIds

def sendCallMessage (remotePeerId : String) (message : OutgoingCallMessage) : Call ν (List Int) :=
  sendContent env localAddress remotePeerId (.callMessage message)

/-- To this account itself. -/
def sendKeysRequest : Call ν (List Int) :=
  sendContent env localAddress localAddress.serviceId .keysRequest

/-- The members of `CallMessageSender` that the callbacks call. -/
def SendCallback.send : SendCallback → Call ν (List Int)
  | .sendOffer remotePeerId callId mediaType content =>
    sendCallMessage env localAddress remotePeerId (.offer callId (mediaType = 1) content)
  | .sendAnswer remotePeerId callId content =>
    sendCallMessage env localAddress remotePeerId (.answer callId content)
  | .sendIce remotePeerId callId receiverDeviceId content =>
    sendCallMessage env localAddress remotePeerId (.iceUpdate callId content receiverDeviceId)
  | .sendHangup remotePeerId callId hangupType hangupDeviceId =>
    sendCallMessage env localAddress remotePeerId (.hangup callId hangupType hangupDeviceId)

def SendCallback.callId : SendCallback → CallId
  | .sendOffer _ callId _ _ | .sendAnswer _ callId _ | .sendIce _ callId _ _
  | .sendHangup _ callId _ _ => callId

/-- Nothing crosses the boundary to RingRTC. -/
def safeCallback (f : Call ν Unit) : Routine ν Unit := f.run.bind fun _ => .ret ()

/-- `onSendOffer`, `onSendAnswer`, `onSendIce` and `onSendHangup`. `inside` is what RingRTC does while
it is told. -/
def onSend (callback : SendCallback) (inside : Routine ν Unit) : Routine ν Unit :=
  safeCallback do
    let _ ← callback.send env localAddress
    ask (.messageSent callback.callId)
    ExceptT.lift inside

def SendCallbacks.run : SendCallbacks → Routine ν Unit
  | .none => .ret ()
  | .more callback inside rest =>
    (onSend env localAddress callback inside.run).bind fun _ => rest.run

/-! ## Receiving -/

/-- A call into RingRTC, and the send callbacks that it makes meanwhile. -/
def ringRtc (call : RingRtcCall) : Call ν Unit := do
  let callbacks ← (ask (.ringRtc call) : Call ν SendCallbacks)
  ExceptT.lift (SendCallbacks.run env localAddress callbacks)

/-- `rawPublicKeyBytes`: without the type byte. -/
def rawPublicKeyBytes (serialized : Bytes) : Bytes :=
  if serialized.length = 33 then serialized.tail else serialized

/-- The sender's and the receiver's identity keys, or zeros. -/
def identityKeys (senderServiceId : String) : Call ν (Bytes × Bytes) := do
  let stored ← loadRemoteIdentity senderServiceId
  let keypair ← (ask .loadIdentityKeypair : Call ν (Answer ν .loadIdentityKeypair))
  let keypair ← Throwing.ofExcept keypair
  return ((stored.map rawPublicKeyBytes).getD (List.replicate 32 0),
    (keypair.map fun keypair => rawPublicKeyBytes keypair.publicKey).getD (List.replicate 32 0))

def receivedIceUpdates (senderServiceId : String) (senderDeviceId : UInt32) :
    List (CallId × Bytes) → Call ν Unit
  | [] => pure ()
  | (id, content) :: ices => do
    ringRtc env localAddress (.receivedIce senderServiceId id senderDeviceId content)
    receivedIceUpdates senderServiceId senderDeviceId ices

/-- An optional part of a message. -/
def whenPresent {α : Type} (part : Option α) (f : α → Call ν Unit) : Call ν Unit :=
  match part with
  | none => pure ()
  | some a => f a

def handleCallMessage (senderServiceId : String) (senderDeviceId : UInt32) (message : CallMessage) :
    Call ν Unit := do
  whenPresent message.offer fun (id, content) => do
    let keys ← Throwing.locked (identityKeys senderServiceId)
    ringRtc env localAddress (.receivedOffer senderServiceId id senderDeviceId localAddress.deviceId
      content keys.1 keys.2)
  whenPresent message.answer fun (id, content) => do
    let keys ← Throwing.locked (identityKeys senderServiceId)
    ringRtc env localAddress (.receivedAnswer senderServiceId id senderDeviceId content keys.1 keys.2)
  receivedIceUpdates env localAddress senderServiceId senderDeviceId message.iceUpdate
  whenPresent message.hangup fun (id, type, deviceId) =>
    ringRtc env localAddress (.receivedHangup senderServiceId id senderDeviceId type deviceId)
  whenPresent message.busy fun id =>
    ringRtc env localAddress (.receivedBusy senderServiceId id senderDeviceId)

/-- The loop of `sendDecryptionErrorReply`; this device is left out of a message to its own
account. -/
def replyMessages (senderServiceId : String) (plaintextContent : Bytes) :
    List Int → Call ν (List OutgoingMessage)
  | [] => pure []
  | deviceId :: deviceIds =>
    if senderServiceId = localAddress.serviceId ∧ UInt32.ofInt deviceId = localAddress.deviceId then
      replyMessages senderServiceId plaintextContent deviceIds
    else do
      let registrationId ← remoteRegistrationIdFromSession env
        (senderServiceId ++ "." ++ toString deviceId)
      let messages ← replyMessages senderServiceId plaintextContent deviceIds
      return ⟨8, deviceId, registrationId, plaintextContent⟩ :: messages

/-- Whatever is thrown is logged. -/
def sendDecryptionErrorReply (senderServiceId : String) (senderDeviceId : UInt32)
    (originalCiphertext : Bytes) (originalType : UInt8) (originalTimestamp : UInt64) :
    Routine ν Unit :=
  safeCallback do
    let serializedDem ← Throwing.ofExcept (env.buildDecryptionErrorMessage originalCiphertext
      originalType originalTimestamp senderDeviceId)
    let plaintextContent := 0xC0 :: env.serialize (.decryptionErrorMessage serializedDem) ++ [0x80]
    let deviceIds ← resolveDeviceList env localAddress senderServiceId
    let messages ← Throwing.locked
      (replyMessages env localAddress senderServiceId plaintextContent deviceIds)
    let _ ← putMessages senderServiceId messages false

def decryptCiphertextCall (remoteAddress : Address) (messageType : UInt8) (ciphertext : Bytes) :
    Call ν Bytes := do
  let padded ← callLibsignal fun v =>
    if messageType = ciphertextMessageTypePreKey then
      env.decryptPreKeyMessage v remoteAddress localAddress ciphertext
    else env.decryptMessage v remoteAddress localAddress ciphertext
  return stripPaddingMessageBody padded

def decryptSealedSenderCall (sealedSenderCiphertext : Bytes) (serverTimestamp : UInt64) :
    Call ν (String × UInt32 × Bytes) := do
  let usmc ← callLibsignal fun v => env.sealedSessionCipherDecryptToUsmc v sealedSenderCiphertext
  let valid ← Throwing.ofExcept (env.senderCertificateValidate usmc.certificate serverTimestamp)
  if !valid then throw ⟨"sealed sender: sender certificate failed trust root validation"⟩
  let plaintext ← decryptCiphertextCall env localAddress ⟨usmc.senderUuid, usmc.senderDeviceId⟩
    usmc.msgType usmc.contents
  return (usmc.senderUuid, usmc.senderDeviceId, plaintext)

/-- The locked part of `onPush`. What follows it takes no lock of the stores. -/
def decryptEnvelope (envelope : Envelope) : Call ν (Option (String × UInt32 × Bytes)) :=
  Throwing.locked do
    if envelope.type = envelopeTypeUnidentifiedSender then
      let sealed ← decryptSealedSenderCall env localAddress envelope.content envelope.serverTimestamp
      return some sealed
    else if envelope.type = envelopeTypeDoubleRatchet ∨ envelope.type = envelopeTypePrekeyMessage then
      let senderServiceId ← Throwing.ofExcept
        (if envelope.sourceServiceIdBinary = [] then .ok ""
          else env.serviceIdFromBinary envelope.sourceServiceIdBinary)
      let plaintext ← decryptCiphertextCall env localAddress
        ⟨senderServiceId, envelope.sourceDeviceId⟩
        (if envelope.type = envelopeTypePrekeyMessage then ciphertextMessageTypePreKey
          else ciphertextMessageTypeWhisper) envelope.content
      return some (senderServiceId, envelope.sourceDeviceId, plaintext)
    else return none

/-! ## Threads -/

/-- What a thread of the account runs: a push, a callback from RingRTC, one of the items of the
dispatch queue that use the stores, or the request for keys of a setup. -/
inductive SignalingJob
  | push (envelope : Envelope)
  | callbacks (made : SendCallbacks)
  | callMessage (senderServiceId : String) (senderDeviceId : UInt32) (message : CallMessage)
  | decryptionErrorReply (senderServiceId : String) (senderDeviceId : UInt32)
      (originalCiphertext : Bytes) (originalType : UInt8) (originalTimestamp : UInt64)
  | keysRequest

/-- Every caller catches what is thrown. -/
def SignalingJob.code : SignalingJob → Routine ν Unit
  | .push envelope => (decryptEnvelope env localAddress envelope).run.bind fun _ => .ret ()
  | .callbacks made => made.run env localAddress
  | .callMessage senderServiceId senderDeviceId message =>
    safeCallback (handleCallMessage env localAddress senderServiceId senderDeviceId message)
  | .decryptionErrorReply senderServiceId senderDeviceId originalCiphertext originalType
      originalTimestamp =>
    sendDecryptionErrorReply env localAddress senderServiceId senderDeviceId originalCiphertext
      originalType originalTimestamp
  | .keysRequest => (sendKeysRequest env localAddress).run.bind fun _ => .ret ()

end Programs

end Signal2sip
