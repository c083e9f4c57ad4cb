import Signal2sip.Signal.Crypto
import Signal2sip.Daemon.State

/-!
# `onPush`

What the daemon does with a message that the chat server pushes: parse the envelope, decrypt it by
its type, parse the content and hand it to the content handlers. The parsers are protobuf's and come
with libsignal as parameters (`PushEnv`).

`receive` is the part up to the plaintext. It says who sent the message: the uuid of a validated
sender certificate, or the source of an identified envelope whose ciphertext decrypted under that
source's session. `handleContent` is the rest. It gets the sender as an argument; its `dataMessage`
branch compares it with the peer of the current call, its `syncMessage` branch does not look at it.
-/

namespace Signal2sip

open Sqlite (Faults)

/-- The fields of `Envelope` that are read. -/
structure Envelope where
  type : Nat
  content : Bytes
  sourceServiceIdBinary : Bytes
  sourceDeviceId : UInt32
  serverTimestamp : UInt64
  clientTimestamp : UInt64
deriving DecidableEq, Repr

/-- `Envelope.Type`. -/
def envelopeTypeDoubleRatchet : Nat := 1

def envelopeTypePrekeyMessage : Nat := 3

def envelopeTypeUnidentifiedSender : Nat := 6

/-- libsignal and the two protobuf parsers. -/
structure PushEnv where
  lib : LibSignal
  parseEnvelope : Bytes → Option Envelope
  parseContent : Bytes → Option Content

/-- Work is appended; a queue that was never started has nowhere to put it. -/
def EnvelopeDispatchQueue.push (q : EnvelopeDispatchQueue) (work : WorkItem) :
    EnvelopeDispatchQueue :=
  { q with state := q.state.map (· ++ [work]) }

/-- `kDtmfRegex`: one to 32 touch-tone characters. -/
def isDtmf (body : String) : Bool :=
  0 < body.length && body.length ≤ 32 &&
    body.toList.all fun c =>
      c.isDigit || ('A' ≤ c && c ≤ 'D') || ('a' ≤ c && c ≤ 'd') || c = '*' || c = '#'

/-- The assignment of `account_entropy_pool` to a record. -/
def AccountRecord.withEntropyPool (account : AccountRecord) (accountEntropyPool : String) :
    AccountRecord :=
  { account with accountEntropyPool := some accountEntropyPool }

theorem AccountRecord.withEntropyPool_eq_self_iff {account : AccountRecord} {aep : String} :
    account.withEntropyPool aep = account ↔ account.accountEntropyPool = some aep := by
  constructor
  · intro h
    rw [← h]
    rfl
  · intro h
    rw [withEntropyPool, ← h]

namespace AccountState

def pushWork (acct : AccountState) (work : WorkItem) : AccountState :=
  { acct with dispatchQueue := acct.dispatchQueue.push work }

/-- `Address{acct.localServiceId, acct.account.device_id}`. -/
def localAddress (acct : AccountState) : Address :=
  ⟨acct.localServiceId, UInt32.ofInt acct.account.deviceId⟩

end AccountState

/-- What became of a pushed message before its content is looked at. -/
inductive Received
  | ignored
  | failed (reply : Option WorkItem)
  | decrypted (senderServiceId : String) (senderDeviceId : UInt32) (plaintext : Bytes)
deriving DecidableEq, Repr

section Handlers

variable (env : PushEnv) (db : Db) (acct : AccountState)

/-- The branch of an identified envelope: its source is the sender, and a failure after the source
was resolved is answered, unless the source is empty. -/
def receiveIdentified (envelope : Envelope) : Db × Received :=
  match resolveServiceId env.lib envelope.sourceServiceIdBinary with
  | .error _ => (db, .failed none)
  | .ok senderServiceId =>
    let messageType :=
      if envelope.type = envelopeTypePrekeyMessage then ciphertextMessageTypePreKey
      else ciphertextMessageTypeWhisper
    let (db', result) := decryptCiphertext env.lib db acct.config.name acct.localAddress
      ⟨senderServiceId, envelope.sourceDeviceId⟩ messageType envelope.content
    match result with
    | .ok plaintext => (db', .decrypted senderServiceId envelope.sourceDeviceId plaintext)
    | .error _ =>
      (db', .failed (if senderServiceId = "" then none
        else some (.sendDecryptionErrorReply senderServiceId envelope.sourceDeviceId
          envelope.content messageType envelope.clientTimestamp)))

/-- `onPush` up to the plaintext. -/
def receive (verb path : String) (body : Bytes) : Db × Received :=
  if verb ≠ "PUT" ∨ path ≠ "/api/v1/message" ∨ body = [] then (db, .ignored)
  else
    match env.parseEnvelope body with
    | none => (db, .ignored)
    | some envelope =>
      if envelope.type = envelopeTypeUnidentifiedSender then
        let (db', result) := decryptSealedSender env.lib db acct.config.name acct.localAddress
          envelope.content envelope.serverTimestamp
        match result with
        | .ok sealed =>
          (db', .decrypted sealed.senderServiceId sealed.senderDeviceId sealed.plaintext)
        | .error _ => (db', .failed none)
      else if envelope.type = envelopeTypeDoubleRatchet ∨
          envelope.type = envelopeTypePrekeyMessage then
        receiveIdentified env db acct envelope
      else (db, .ignored)

/-- The database, the account and the requests that a push leaves, and the exception it lets out. -/
structure PushResult where
  db : Db
  acct : AccountState
  out : List Action := []
  thrown : Option RuntimeError := none

/-- A touch-tone text of the current call's peer goes into the bridged leg. -/
def handleDataMessage (senderServiceId : String) (message : DataMessage) : List Action :=
  if !message.hasGroupV2 ∧ isDtmf message.body ∧ senderServiceId = acct.remotePeerId then
    match acct.sipCall.or acct.incomingSipCall with
    | some leg => [.dialDtmf leg message.body]
    | none => []
  else []

/-- A new account entropy pool goes into the account, and the account into its row. -/
def handleKeys (accountEntropyPool : String) (f : Faults) : PushResult :=
  let acct' := { acct with account := acct.account.withEntropyPool accountEntropyPool }
  match (Storage.saveAccount db acct.config.name acct'.account f).value with
  | .error e => { db := db, acct := acct', thrown := some e }
  | .ok db' => { db := db', acct := acct'.pushWork .syncStorageContacts }

/-- The content handlers. -/
def handleContent (senderServiceId : String) (senderDeviceId : UInt32) (f : Faults) :
    Content → PushResult
  | .dataMessage message =>
    { db := db, acct := acct, out := handleDataMessage acct senderServiceId message }
  | .syncMessage message =>
    match message.keys with
    | some (some accountEntropyPool) => handleKeys db acct accountEntropyPool f
    | _ => { db := db, acct := acct }
  | .callMessage message =>
    { db := db, acct := acct.pushWork (.handleCallMessage senderServiceId senderDeviceId
        (UInt32.ofInt acct.account.deviceId) message) }
  | .other => { db := db, acct := acct }

/-- `onPush`. The faults are those of the one statement that a content handler runs. -/
def onPush (verb path : String) (body : Bytes) (f : Faults) : PushResult :=
  match receive env db acct verb path body with
  | (db', .ignored) => { db := db', acct := acct }
  | (db', .failed none) => { db := db', acct := acct }
  | (db', .failed (some reply)) => { db := db', acct := acct.pushWork reply }
  | (db', .decrypted senderServiceId senderDeviceId plaintext) =>
    match env.parseContent plaintext with
    | none => { db := db', acct := acct }
    | some content => handleContent db' acct senderServiceId senderDeviceId f content

end Handlers

end Signal2sip
