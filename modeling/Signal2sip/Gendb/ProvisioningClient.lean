import Signal2sip.Gendb.ProvisioningCipher

/-!
# `ProvisioningClient.cpp`: waiting for the link

The callbacks of the provisioning connection and `waitForProvisionMessage` from the moment the listener
is set. Each callback writes the two outcomes under the mutex, and the waiter looks at them under the
mutex too: when it starts to wait, at each wake-up, and once more when its deadline has passed. So the
steps here are the callbacks and the looks, in any order.

The protobuf parsers are a parameter, like the libraries below the cipher. Telling the server that a
message has arrived and printing the link change nothing that the waiter reads.
-/

namespace Signal2sip.Provisioning

structure ProvisionEnvelope where
  publicKey : Bytes := []
  body : Bytes := []
deriving DecidableEq, Repr

/-- The fields of the message that are read. -/
structure ProvisionMessage where
  number : Option String := none
  aci : Option String := none
  pni : Option String := none
  aciIdentityKeyPublic : Option Bytes := none
  aciIdentityKeyPrivate : Option Bytes := none
  pniIdentityKeyPublic : Option Bytes := none
  pniIdentityKeyPrivate : Option Bytes := none
  provisioningCode : Option String := none
  profileKey : Option Bytes := none
  accountEntropyPool : Option String := none
  mediaRootBackupKey : Option Bytes := none
deriving DecidableEq, Repr

structure ProvisionMessageResult where
  e164 : String
  aci : String
  pni : String
  aciIdentityKeyPublic : Bytes
  aciIdentityKeyPrivate : Bytes
  pniIdentityKeyPublic : Bytes
  pniIdentityKeyPrivate : Bytes
  provisioningCode : String
  profileKey : Option Bytes
  accountEntropyPool : Option String
  mediaRootBackupKey : Option Bytes
deriving DecidableEq, Repr

/-- The accessors of a field that is not set give its default. -/
def ProvisionMessage.toResult (pm : ProvisionMessage) : ProvisionMessageResult where
  e164 := pm.number.getD ""
  aci := pm.aci.getD ""
  pni := pm.pni.getD ""
  aciIdentityKeyPublic := pm.aciIdentityKeyPublic.getD []
  aciIdentityKeyPrivate := pm.aciIdentityKeyPrivate.getD []
  pniIdentityKeyPublic := pm.pniIdentityKeyPublic.getD []
  pniIdentityKeyPrivate := pm.pniIdentityKeyPrivate.getD []
  provisioningCode := pm.provisioningCode.getD ""
  profileKey := pm.profileKey
  accountEntropyPool := pm.accountEntropyPool
  mediaRootBackupKey := pm.mediaRootBackupKey

/-- What the client is given: its key and the libraries. -/
structure Libraries where
  primitives : Primitives
  ourPrivateKey : Bytes
  parseEnvelope : Bytes → Option ProvisionEnvelope
  parseMessage : Bytes → Option ProvisionMessage

/-- The body of the `try` in `onReceivedEnvelope`. -/
def Libraries.readEnvelope (lib : Libraries) (envelopeBytes : Bytes) :
    Except Failure ProvisionMessageResult := do
  let some pe := lib.parseEnvelope envelopeBytes | .error (.thrown ⟨"bad ProvisionEnvelope"⟩)
  let plaintext ←
    (decryptProvisionEnvelope lib.primitives lib.ourPrivateKey pe.publicKey pe.body).outcome
  let some pm := lib.parseMessage plaintext | .error (.thrown ⟨"bad ProvisionMessage"⟩)
  return pm.toResult

/-- What `waitForProvisionMessage` returns or throws. -/
abbrev Outcome := Except RuntimeError ProvisionMessageResult

inductive Waiter
  | awaitingAddress
  | awaitingLink
  | done (outcome : Outcome)

structure Client where
  gotAddress : Bool := false
  result : Option ProvisionMessageResult := none
  failure : Option RuntimeError := none
  waiter : Waiter := .awaitingAddress

inductive ClientEvent
  | receivedAddress
  | receivedEnvelope (envelopeBytes : Bytes)
  | connectionInterrupted
  | wake
  | deadline

namespace Client

def onReceivedAddress (s : Client) : Client := { s with gotAddress := true }

def onReceivedEnvelope (lib : Libraries) (s : Client) (envelopeBytes : Bytes) : Client :=
  match lib.readEnvelope envelopeBytes with
  | .ok r => { s with result := some r }
  | .error (.thrown e) => { s with failure := some e }
  -- no envelope leads here
  | .error .undefined => s

def onConnectionInterrupted (s : Client) : Client :=
  if s.result.isNone && s.failure.isNone then
    { s with failure := some ⟨"socket closed before linking completed"⟩ }
  else s

/-- The second wait looks at its predicate; when it holds, the function ends. -/
def awaitLink (s : Client) : Client :=
  match s.failure, s.result with
  | some failure, _ => { s with waiter := .done (.error failure) }
  | none, some r => { s with waiter := .done (.ok r) }
  | none, none => { s with waiter := .awaitingLink }

/-- What the first wait's predicate looks at. -/
def addressWaitOver (s : Client) : Bool := s.gotAddress || s.result.isSome || s.failure.isSome

/-- The first wait is over; the second looks at its predicate at once. -/
def addressArrived (s : Client) : Client :=
  match s.failure with
  | some failure => { s with waiter := .done (.error failure) }
  | none => s.awaitLink

def wake (s : Client) : Client :=
  match s.waiter with
  | .awaitingAddress => if s.addressWaitOver then s.addressArrived else s
  | .awaitingLink => s.awaitLink
  | .done _ => s

/-- The wait returns what its predicate says at the deadline. -/
def deadline (s : Client) : Client :=
  match s.waiter with
  | .awaitingAddress =>
    if s.addressWaitOver then s.addressArrived
    else { s with waiter := .done (.error ⟨"no address received within 10s"⟩) }
  | .awaitingLink =>
    if s.result.isSome || s.failure.isSome then s.awaitLink
    else { s with waiter := .done (.error ⟨"lifespan expired with no completed link (90s)"⟩) }
  | .done _ => s

def step (lib : Libraries) (s : Client) : ClientEvent → Client
  | .receivedAddress => s.onReceivedAddress
  | .receivedEnvelope envelopeBytes => s.onReceivedEnvelope lib envelopeBytes
  | .connectionInterrupted => s.onConnectionInterrupted
  | .wake => s.wake
  | .deadline => s.deadline

end Client

end Signal2sip.Provisioning
