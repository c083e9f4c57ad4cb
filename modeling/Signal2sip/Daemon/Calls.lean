import Signal2sip.Daemon.Setup
import Signal2sip.Lib.Script

/-!
# Calls and their SIP legs

The handlers that open, answer and close SIP legs: RingRTC's `onCallState`, the `onCallState` of
`BridgeCall` and `IncomingSipCall`, `BridgeAccount::onIncomingCall` and `onRegState`, and
`teardownAccount`.

Each handler is a script. Its shape is read off the state it starts in; its steps are the points
between which an object comes to be or goes away. RingRTC's callbacks, PJSIP's worker and the main
loop take turns, one handler at a time, with one exception: `onIncomingCall` waits for the network
while it resolves its target. It is cut there, and `pendingInvites` holds the calls that wait.

Nothing in the program makes the others take turns: `stopSipBridge` and `stopIncomingSipCall` wait up to
five seconds before they delete a leg, and `teardownAccount` for the dispatch worker and the REGISTER. The
results on runs of `Daemon.step` (`isolated_along_iff`, `registration_gated_along_iff`,
`oneCall_along_iff`, `legsAlive_along_iff`, `reload_converges_along_iff`) are about handlers that do;
in `LineRun` pushes fall between the steps of a handler, and what falls between the steps of a teardown
is told in `Daemon.Teardown`.

RingRTC drops its callbacks with the call manager, and PJSIP delivers an INVITE on a registered
`BridgeAccount` only, so `callState` and `invite` are for accounts that exist. A `SIP` leg's own
reference to its account can dangle. What an event of such a leg does is undefined, and here it does
nothing. An INVITE that is redirected to a destroyed account finds the memory as `teardownAccount`
left it, with both legs null.
-/

namespace Signal2sip

open Script (act)

/-- The `SIGNAL2SIP_CALL_STATE_*` values. -/
inductive CallState
  | incomingAudio
  | outgoingAudio
  | ringing
  | connected
  | connecting
  | ended
  | rejected
  | concluded
deriving DecidableEq, Repr

/-- The `PJSIP_INV_STATE_*` values. -/
inductive InvState
  | null
  | calling
  | incoming
  | early
  | connecting
  | confirmed
  | disconnected
deriving DecidableEq, Repr

/-! ## An account's leg slots -/

/-- The slot for legs of a kind: `sipCall` or `incomingSipCall`. -/
def AccountState.leg (acct : AccountState) : LegKind → Option Nat
  | .bridgeCall => acct.sipCall
  | .incomingSipCall => acct.incomingSipCall

def AccountState.setLeg (acct : AccountState) (kind : LegKind) (leg : Option Nat) : AccountState :=
  match kind with
  | .bridgeCall => { acct with sipCall := leg }
  | .incomingSipCall => { acct with incomingSipCall := leg }

/-- Change the account a pointer leads to; nothing when the pointer dangles. -/
def Daemon.modifyAt (d : Daemon) (p : ObjPtr) (f : AccountState → AccountState) : Daemon :=
  if (d.account? p).isSome then d.modifyAccount p.name f else d

/-- The address of the account that runs under a name. -/
def Daemon.ptr (name : String) (acct : AccountState) : ObjPtr := ⟨name, acct.serial⟩

/-- Give the account a new bridge, and a new leg that refers to it. -/
def Daemon.openLeg (kind : LegKind) (acc acct : ObjPtr) (call : Option CallId) (d : Daemon) :
    Daemon :=
  { d.modifyAt acct fun a =>
      { a.setLeg kind (some (d.nextSerial + 1)) with bridge := some d.nextSerial } with
    legs := d.legs.insert (d.nextSerial + 1)
      { kind := kind, acc := acc, bridge := d.nextSerial, acct := acct, call := call }
    nextSerial := d.nextSerial + 2 }

/-! ## Dialling out to the PBX -/

/-- `sipBridgeDid` wins if both are set. -/
def bridgeTarget (config : AccountConfig) : String :=
  if config.sipBridgeDid = "" then config.sipBridgeDestination else config.sipBridgeDid

/-- A bridge target is configured, and the registration is up. -/
def Daemon.canBridgeToSip (d : Daemon) (config : AccountConfig) : Bool :=
  bridgeTarget config ≠ "" && (d.g_sipAccounts.lookup config.name).any (·.registered)

/-- The `X-Signal-*` headers. -/
def callerHeaders (remotePeerId : String) (contact : Option SyncedContactRecord) :
    List (String × String) :=
  let nameOf := fun (contact : SyncedContactRecord) =>
    if contact.familyName = "" then contact.givenName
    else contact.givenName ++ (if contact.givenName = "" then "" else " ") ++ contact.familyName
  let header := fun hName (hValue : String) => if hValue = "" then [] else [(hName, hValue)]
  header "X-Signal-UUID" remotePeerId ++
    match contact with
    | none => []
    | some contact => header "X-Signal-Phone" contact.e164 ++ header "X-Signal-Name" (nameOf contact)

/-- The last step of `startSipDial`. The contact is looked up only for a known peer, and its lookup
can throw, which leaves the leg without an INVITE. -/
def placeBridgeCall (acct : AccountState) (leg : Nat) (remotePeerId : String)
    (contact : Except RuntimeError (Option SyncedContactRecord)) (d : Daemon) : Option Daemon :=
  let scheme := if acct.config.sipTransport = "tls" then "sips" else "sip"
  let destUri := scheme ++ ":" ++ bridgeTarget acct.config ++ "@" ++ acct.config.sipHost
  if remotePeerId = "" then some (d.emit (.makeCall leg destUri []))
  else
    match contact with
    | .error _ => none
    | .ok contact => some (d.emit (.makeCall leg destUri (callerHeaders remotePeerId contact)))

/-- `startSipDial`, for the call that RingRTC reports as ringing. -/
def startSipDial (name : String) (acct : AccountState) (remotePeerId : String) (callId : CallId)
    (contact : Except RuntimeError (Option SyncedContactRecord)) (d : Daemon) : Script Daemon :=
  match d.g_sipAccounts.lookup acct.config.name with
  | none => []
  | some sipAccount =>
    if sipAccount.registered then
      [act (Daemon.openLeg .bridgeCall ⟨acct.config.name, sipAccount.serial⟩
          (Daemon.ptr name acct) (some callId)),
        placeBridgeCall acct (d.nextSerial + 1) remotePeerId contact]
    else []

/-! ## Closing legs -/

/-- The leg that an account holds in a slot. -/
def Daemon.heldLeg (d : Daemon) (kind : LegKind) (name : String) : Option Nat :=
  (d.g_accounts.lookup name).bind (·.leg kind)

/-- `weHungUp_` is set before the hangup, so that the leg's own handler stays out of it. -/
def Daemon.hangupHeld (kind : LegKind) (name : String) (d : Daemon) : Daemon :=
  match d.heldLeg kind name with
  | none => d
  | some leg => (d.modifyLeg leg fun l => { l with weHungUp := true }).emit (.hangupLeg leg)

def Daemon.deleteHeld (kind : LegKind) (name : String) (d : Daemon) : Daemon :=
  match d.heldLeg kind name with
  | none => d
  | some leg =>
    { d.modifyAccount name fun acct => acct.setLeg kind none with legs := d.legs.erase leg }

def Daemon.resetBridge (name : String) (d : Daemon) : Daemon :=
  d.modifyAccount name fun acct => { acct with bridge := none }

/-- `stopSipBridge` and `stopIncomingSipCall` differ in the slot they look at. Both reset the one
bridge that the two slots share. -/
def stopLeg (kind : LegKind) (name : String) : Script Daemon :=
  [act (Daemon.hangupHeld kind name), act (Daemon.deleteHeld kind name),
    act (Daemon.resetBridge name)]

def stopSipBridge (name : String) : Script Daemon := stopLeg .bridgeCall name

def stopIncomingSipCall (name : String) : Script Daemon := stopLeg .incomingSipCall name

/-! ## RingRTC's callback -/

/-- What every callback does first, whatever the call and its state. -/
def Daemon.recordCall (name remotePeerId : String) (callId : CallId) (d : Daemon) : Daemon :=
  d.modifyAccount name fun acct =>
    { acct with activeCallId := callId, remotePeerId := remotePeerId }

/-- `onCallState`. An exception that a step throws ends it (`safeCallback`). -/
def onCallState (name : String) (acct : AccountState) (remotePeerId : String) (callId : CallId)
    (state : CallState) (contact : Except RuntimeError (Option SyncedContactRecord)) (d : Daemon) :
    Script Daemon :=
  act (Daemon.recordCall name remotePeerId callId) ::
    match state with
    | .outgoingAudio => [act (Daemon.emit · (.proceed name callId))]
    | .incomingAudio =>
      if d.canBridgeToSip acct.config then
        [act (Daemon.modifyAccount · name fun a => { a with isCallee := true }),
          act (Daemon.emit · (.proceed name callId))]
      else []
    | .ringing =>
      if acct.isCallee && d.canBridgeToSip acct.config then
        startSipDial name acct remotePeerId callId contact d
      else []
    | .connected =>
      if acct.isCallee then []
      else
        match acct.incomingSipCall with
        | some leg => [act (Daemon.emit · (.answer leg 200))]
        | none =>
          if acct.config.outgoingCallTarget = "" then [] else [act (Daemon.emit · (.runProbe name))]
    | .ended | .concluded =>
      stopSipBridge name ++ stopIncomingSipCall name ++
        [act (Daemon.modifyAccount · name fun a => { a with isCallee := false })]
    | .connecting | .rejected => []

/-! ## A leg's own events -/

/-- `BridgeCall::onCallState`: the PBX answered, or hung up. -/
def BridgeCall.onCallState (leg : Nat) (l : Leg) (acct : AccountState) :
    InvState → Script Daemon
  | .confirmed =>
    if l.acceptSent then []
    else
      [act fun d => (d.modifyLeg leg fun l => { l with acceptSent := true }).emit
        (.accept leg acct.activeCallId)]
  | .disconnected =>
    [act fun d =>
      (if l.acceptSent && !l.weHungUp then d.emit (.hangupSignal l.acct.name) else d).modifyLeg leg
        fun l => { l with disconnected := true }]
  | _ => []

/-- `IncomingSipCall::onCallState`: the PBX or its caller hung up. -/
def IncomingSipCall.onCallState (leg : Nat) (l : Leg) : InvState → Script Daemon
  | .disconnected =>
    [act fun d =>
      (if l.weHungUp then d else d.emit (.hangupSignal l.acct.name)).modifyLeg leg
        fun l => { l with weHungUp := true, disconnected := true }]
  | _ => []

/-- The event goes to the handler of the leg's class. -/
def onLegState (leg : Nat) (state : InvState) (d : Daemon) : Script Daemon :=
  match d.legs.lookup leg with
  | none => []
  | some l =>
    match d.account? l.acct with
    | none => []
    | some acct =>
      match l.kind with
      | .bridgeCall => BridgeCall.onCallState leg l acct state
      | .incomingSipCall => IncomingSipCall.onCallState leg l state

/-! ## INVITEs from the PBX -/

/-- The account an INVITE is for: the port it arrived on is the ground truth, not the account that
PJSIP invoked. -/
def Daemon.inviteTarget (d : Daemon) (acctState : ObjPtr) (localPort : Option Int) : ObjPtr :=
  (localPort.bind fun port => d.g_portToAccount.lookup port).getD acctState

/-- Whether the account an INVITE is for already has a leg. -/
def Daemon.busy (d : Daemon) (acct : ObjPtr) : Bool :=
  match d.account? acct with
  | some a => a.incomingSipCall.isSome || a.sipCall.isSome
  | none => false

/-- The user part of the request URI with exactly one `+` in front; empty stays empty. -/
def normalizeDestUser (destUser : String) : String :=
  if destUser = "" then "" else "+" ++ String.ofList (destUser.toList.dropWhile (· = '+'))

/-- `onIncomingCall` up to where it waits for the target. `localPort` is the port of the transport
the INVITE arrived on, when there is one; `requestUser` is empty for a request URI of another
scheme. -/
def onIncomingCall (sip : String) (localPort : Option Int) (requestUser : String) (d : Daemon) :
    Script Daemon :=
  match d.g_sipAccounts.lookup sip with
  | none => []
  | some account =>
    match account.acctState with
    | none => [act (Daemon.emit · (.rejectInvite sip 503))]
    | some acctState =>
      let acct := d.inviteTarget acctState localPort
      if d.busy acct then [act (Daemon.emit · (.rejectInvite sip 486))]
      else if normalizeDestUser requestUser = "" then [act (Daemon.emit · (.rejectInvite sip 404))]
      else
        [act (Daemon.openLeg .incomingSipCall ⟨sip, account.serial⟩ acct none),
          act (Daemon.emit · (.answer (d.nextSerial + 1) 180)),
          act fun d' => { d' with
            pendingInvites := (d.nextSerial + 1, acct) :: d'.pendingInvites }]

/-- The rest of `onIncomingCall`, with what the target resolved to and the id that
`signal2sip_call_start_outgoing` returns. -/
def startOutgoingCall (leg : Nat) (acct : ObjPtr) (resolvedTarget : Except RuntimeError String)
    (callId : CallId) : Script Daemon :=
  match resolvedTarget with
  | .error _ => stopIncomingSipCall acct.name
  | .ok target =>
    if target = "" then stopIncomingSipCall acct.name
    else
      act (Daemon.modifyAccount · acct.name fun a => { a with isCallee := false }) ::
        act (Daemon.emit · (.startOutgoing acct.name target)) ::
        if callId = 0 then stopIncomingSipCall acct.name
        else [act (Daemon.modifyLeg · leg fun l => { l with call := some callId })]

/-- A waiting `onIncomingCall` goes on. -/
def onInviteResolved (leg : Nat) (resolvedTarget : Except RuntimeError String) (callId : CallId)
    (d : Daemon) : Script Daemon :=
  match d.pendingInvites.lookup leg with
  | none => []
  | some acct =>
    act (fun d => { d with pendingInvites := d.pendingInvites.filter fun i => i.1 ≠ leg }) ::
      if (d.account? acct).isSome then startOutgoingCall leg acct resolvedTarget callId else []

/-- `onRegState`. -/
def onRegState (sip : String) (regIsActive : Bool) (nowMs : Int) (d : Daemon) : Daemon :=
  { d with
    g_sipAccounts := d.g_sipAccounts.modify sip fun account =>
      { account with
        registered := regIsActive
        unregisteredSinceMs :=
          if regIsActive then 0
          else if account.unregisteredSinceMs = 0 then nowMs
          else account.unregisteredSinceMs } }

/-! ## Teardown -/

/-- Unregister and close the account's transport; a close that fails is logged. -/
def Daemon.closeSip (name : String) (closes : Bool) (d : Daemon) : Daemon :=
  match d.g_sipAccounts.lookup name with
  | none => d
  | some sipAccount =>
    if d.g_ep then
      let d := if sipAccount.registered then d.emit (.setRegistration name false) else d
      match sipAccount.transportId with
      | none => d
      | some id => if closes then { d with transports := d.transports.erase id } else d
    else d

/-- `teardownAccount`. `closes` is whether the transport can be closed. -/
def teardownAccount (name : String) (closes : Bool) (d : Daemon) : Script Daemon :=
  if name ∈ d.g_accounts then
    stopSipBridge name ++ stopIncomingSipCall name ++
      [act (Daemon.closeSip name closes),
        act fun d => { d with g_sipAccounts := d.g_sipAccounts.erase name },
        act fun d => { d with g_accounts := d.g_accounts.erase name }]
  else []

/-! ## The system -/

/-- What can happen next. -/
inductive DaemonEvent
  | callState (account remotePeerId : String) (callId : CallId) (state : CallState)
      (contact : Except RuntimeError (Option SyncedContactRecord))
  | legState (leg : Nat) (state : InvState)
  | invite (sip : String) (localPort : Option Int) (requestUser : String)
  | inviteResolved (leg : Nat) (resolvedTarget : Except RuntimeError String) (callId : CallId)
  | regState (sip : String) (regIsActive : Bool) (nowMs : Int)
  | setup (db : Db) (config : AccountConfig) (o : SetupOutcomes)
  | teardown (name : String) (closes : Bool)

/-- A setup as `reloadConfig` makes it, for an account that is not running. One that does not return
ends the process. -/
def Daemon.setup (db : Db) (config : AccountConfig) (o : SetupOutcomes) (d : Daemon) : Daemon :=
  if config.name ∈ d.g_accounts then d
  else
    match setupAccount db config o d with
    | (d', .returned _) => d'
    | _ => d

/-- The handler of an event. -/
def DaemonEvent.script (e : DaemonEvent) (d : Daemon) : Script Daemon :=
  match e with
  | .callState account remotePeerId callId state contact =>
    match d.g_accounts.lookup account with
    | none => []
    | some acct => onCallState account acct remotePeerId callId state contact d
  | .legState leg state => onLegState leg state d
  | .invite sip localPort requestUser => onIncomingCall sip localPort requestUser d
  | .inviteResolved leg resolvedTarget callId => onInviteResolved leg resolvedTarget callId d
  | .regState sip regIsActive nowMs => [act (onRegState sip regIsActive nowMs)]
  | .setup db config o => [act (Daemon.setup db config o)]
  | .teardown name closes => teardownAccount name closes d

/-- The state in which a handler starts: nothing asked for yet. -/
def Daemon.quiet (d : Daemon) : Daemon := { d with out := [] }

/-- One handler, from start to end. -/
def Daemon.step (d : Daemon) (e : DaemonEvent) : Daemon := ((e.script d).exec d.quiet).1

/-- Nothing has been set up yet. -/
structure Daemon.Started (d : Daemon) : Prop where
  g_accounts : d.g_accounts = ∅
  g_sipAccounts : d.g_sipAccounts = ∅
  legs : d.legs = ∅
  pendingInvites : d.pendingInvites = []

end Signal2sip
