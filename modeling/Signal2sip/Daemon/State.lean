import Signal2sip.Daemon.Config

/-!
# The daemon's state

The objects of `main.cpp` and the globals that hold them. An object that others point at carries a
serial number of its own, and a pointer to it is the name it is stored under together with that
number: the pointer dangles when nothing is stored under the name any more, or something newer is.

SIP legs (`BridgeCall`, `IncomingSipCall`) are owned by raw pointers in `AccountState`, so they live
on a heap of their own and stay there until they are deleted. A leg carries one field that the
program does not have: the Signal call it was dialled for or started. It is written where the
program makes the association and read by no handler.

`out` collects what the current handler asks RingRTC and PJSIP to do.
-/

namespace Signal2sip

/-- RingRTC's call ids; 0 is "no call". -/
abbrev CallId := UInt64

/-- The address of an object stored under a name. -/
structure ObjPtr where
  name : String
  serial : Nat
deriving DecidableEq, Repr

/-! ## Messages -/

/-- The part of a `DataMessage` that the daemon reads. -/
structure DataMessage where
  body : String
  hasGroupV2 : Bool
deriving DecidableEq, Repr

/-- The part of a `SyncMessage` that the daemon reads: whether it has `keys`, and their
`accountEntropyPool`. -/
structure SyncMessage where
  keys : Option (Option String)
deriving DecidableEq, Repr

/-- A decrypted `Content`. Its message field is a `oneof`, so at most one of the three that the
daemon looks at is there. A `CallMessage` is passed on unread. -/
inductive Content
  | dataMessage (message : DataMessage)
  | syncMessage (message : SyncMessage)
  | callMessage (message : Bytes)
  | other
deriving DecidableEq, Repr

/-- What an item on an account's dispatch queue does when it runs. -/
inductive WorkItem
  | sendDecryptionErrorReply (senderServiceId : String) (senderDeviceId : UInt32)
      (originalCiphertext : Bytes) (originalMessageType : UInt8) (clientTimestamp : UInt64)
  | syncStorageContacts
  | handleCallMessage (senderServiceId : String) (senderDeviceId localDeviceId : UInt32)
      (callMessage : Bytes)
deriving DecidableEq, Repr

/-! ## Objects -/

/-- `EnvelopeDispatchQueue`. `state` is null until `start`, and `joinable` says whether the worker
thread can be joined. -/
structure EnvelopeDispatchQueue where
  state : Option (List WorkItem) := none
  stopping : Bool := false
  joinable : Bool := false
deriving DecidableEq, Repr

/-- What the daemon reads off an `AuthSocket`. -/
structure AuthSocket where
  connected : Bool := false
  deauthorized : Bool := false
deriving DecidableEq, Repr

/-- `AccountState`. `handle` is the RingRTC call manager, when there is one. -/
structure AccountState where
  serial : Nat
  config : AccountConfig
  account : AccountRecord := { e164 := "", aci := "", pni := "", password := "" }
  localServiceId : String := ""
  socket : Option AuthSocket := none
  handle : Bool := false
  activeCallId : CallId := 0
  isCallee : Bool := false
  remotePeerId : String := ""
  bridge : Option Nat := none
  sipCall : Option Nat := none
  incomingSipCall : Option Nat := none
  dispatchQueue : EnvelopeDispatchQueue := {}
  lastStorageSyncMs : Int := 0
  socketConnected : Bool := true
  lastSocketReconnectAttemptMs : Int := 0
  deauthorizedAlerted : Bool := false
deriving DecidableEq, Repr

/-- `BridgeAccount`. -/
structure BridgeAccount where
  serial : Nat
  registered : Bool := false
  transportId : Option Nat := none
  acctState : Option ObjPtr := none
  unregisteredSinceMs : Int := 0
deriving DecidableEq, Repr

inductive LegKind
  | bridgeCall
  | incomingSipCall
deriving DecidableEq, Repr

/-- A SIP leg: the references it was constructed with, its flags, and the Signal call it is for. -/
structure Leg where
  kind : LegKind
  acc : ObjPtr
  bridge : Nat
  acct : ObjPtr
  weHungUp : Bool := false
  acceptSent : Bool := false
  disconnected : Bool := false
  call : Option CallId := none
deriving DecidableEq, Repr

/-! ## Requests to RingRTC and PJSIP -/

inductive Action
  | proceed (account : String) (callId : CallId)
  | accept (leg : Nat) (callId : CallId)
  | hangupSignal (account : String)
  | makeCall (leg : Nat) (destUri : String) (headers : List (String × String))
  | answer (leg : Nat) (statusCode : Nat)
  | hangupLeg (leg : Nat)
  | rejectInvite (account : String) (statusCode : Nat)
  | dialDtmf (leg : Nat) (digits : String)
  | runProbe (account : String)
  | startOutgoing (account target : String)
  | setRegistration (account : String) (up : Bool)
deriving DecidableEq, Repr

/-! ## The globals -/

structure Daemon where
  g_accounts : Table String AccountState := ∅
  g_sipAccounts : Table String BridgeAccount := ∅
  g_portToAccount : Table Int ObjPtr := ∅
  transports : List Nat := []
  g_ep : Bool := false
  g_global : GlobalConfig
  legs : Table Nat Leg := ∅
  pendingInvites : List (Nat × ObjPtr) := []
  nextSerial : Nat := 0
  out : List Action := []
deriving DecidableEq

namespace Daemon

/-- The account object a pointer leads to, if it is still there. -/
def account? (d : Daemon) (p : ObjPtr) : Option AccountState :=
  (d.g_accounts.lookup p.name).filter fun acct => acct.serial = p.serial

/-- The `BridgeAccount` a pointer leads to, if it is still there. -/
def sipAccount? (d : Daemon) (p : ObjPtr) : Option BridgeAccount :=
  (d.g_sipAccounts.lookup p.name).filter fun sip => sip.serial = p.serial

/-- A bridge exists for as long as the account's slot that owns it holds it. -/
def bridgeExists (d : Daemon) (bridge : Nat) : Prop :=
  ∃ name acct, d.g_accounts.lookup name = some acct ∧ acct.bridge = some bridge

def modifyAccount (d : Daemon) (name : String) (f : AccountState → AccountState) : Daemon :=
  { d with g_accounts := d.g_accounts.modify name f }

def modifyLeg (d : Daemon) (leg : Nat) (f : Leg → Leg) : Daemon :=
  { d with legs := d.legs.modify leg f }

def emit (d : Daemon) (a : Action) : Daemon := { d with out := d.out ++ [a] }

end Daemon

end Signal2sip
