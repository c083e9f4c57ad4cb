import Signal2sip.Daemon.State

/-!
# `setupAccount`

Bringing up one account. The function is one `try` block whose handler catches `std::exception`.
PJSUA2 throws `pj::Error`, which is a type of its own, so the handler does not see it.

The Signal half works on the new `AccountState` alone: it is a list of steps, each of which may
throw (`setupSteps`). The SIP half works on the endpoint, the transports, the port map and the SIP
accounts, and catches what its steps throw except where the SIP account is created (`setupSip`).

How each call outside the program ends is a field of `SetupOutcomes`. Of the database only the
account's row is read. What the upload of prekeys and the contact sync write to other tables plays
no part here.
-/

namespace Signal2sip

open Sqlite (Faults)

/-- How `setupAccount` ends: it returns, a `pj::Error` leaves it, or it works on an object that was
never initialised. -/
inductive SetupEnd
  | returned (ok : Bool)
  | escaped (info : String)
  | undefined
deriving DecidableEq, Repr

/-- How the calls of one `setupAccount` end. `none` in an exception's place means success. -/
structure SetupOutcomes where
  endpoint : Bool := true
  openStorage : Option RuntimeError := none
  loadAccount : Faults := .quiet
  callManager : Bool := true
  authSocket : Option RuntimeError := none
  connect : Option RuntimeError := none
  refreshPrekeys : Option RuntimeError := none
  attributesPut : Option RuntimeError := none
  nowMs : Int := 0
  sendKeysRequest : Option RuntimeError := none
  endpointAgain : Bool := true
  transportCreate : Option Nat := some 0
  localAddress : Option String := none
  createAccount : Option String := none
  registered : Bool := true
  unregisteredSinceMs : Int := 0
  resolveOutgoingTarget : Except RuntimeError String := .ok ""

/-! ## The Signal half -/

/-- A step on the account being built. -/
abbrev SetupStep := AccountState → Except RuntimeError AccountState

/-- Run the steps up to the first that throws: the account as it then is, and the exception. -/
def runSteps : List SetupStep → AccountState → AccountState × Option RuntimeError
  | [], acct => (acct, none)
  | step :: steps, acct =>
    match step acct with
    | .error e => (acct, some e)
    | .ok acct' => runSteps steps acct'

/-- A call that changes nothing the daemon holds. -/
def attempt (outcome : Option RuntimeError) : SetupStep := fun acct =>
  match outcome with
  | some e => .error e
  | none => .ok acct

/-- A call whose `std::exception` is caught where it is made. -/
def attemptQuietly (_outcome : Option RuntimeError) : SetupStep := fun acct => .ok acct

/-- `applyProxyConfig`: no proxy, or a host and a port; `std::stoi` throws on what is not a port. -/
def applyProxyConfig (signalProxy : String) : Except RuntimeError (Option (String × Int)) :=
  if signalProxy = "" then .ok none
  else
    match CxxString.splitLast ':' signalProxy with
    | none => .ok (some (signalProxy, 443))
    | some (host, port) =>
      match CxxString.stoi port with
      | none => .error ⟨"stoi"⟩
      | some port => .ok (some (host, port))

/-- `EnvelopeDispatchQueue::start`. -/
def EnvelopeDispatchQueue.start (q : EnvelopeDispatchQueue) : EnvelopeDispatchQueue :=
  { q with state := some [], joinable := true }

def loadAccountStep (db : Db) (o : SetupOutcomes) : SetupStep := fun acct =>
  (Storage.loadAccount db acct.config.name o.loadAccount).value.map fun account =>
    { acct with account := account, localServiceId := account.aci }

def createCallManager (o : SetupOutcomes) : SetupStep := fun acct =>
  if o.callManager then .ok { acct with handle := true }
  else .error ⟨"could not create RingRTC call manager"⟩

/-- The constructor applies the proxy setting, so it throws for one that does not parse. -/
def createAuthSocket (o : SetupOutcomes) : SetupStep := fun acct =>
  (applyProxyConfig acct.config.signalProxy).bind fun _ =>
    match o.authSocket with
    | some e => .error e
    | none => .ok { acct with socket := some {} }

def startDispatchQueue : SetupStep := fun acct =>
  .ok { acct with dispatchQueue := acct.dispatchQueue.start }

def connectSocket (o : SetupOutcomes) : SetupStep := fun acct =>
  match o.connect with
  | some e => .error e
  | none => .ok { acct with socket := acct.socket.map fun s => { s with connected := true } }

/-- `refreshAccountAttributes`: only a standalone account has a request to fail. -/
def refreshAccountAttributes (o : SetupOutcomes) : SetupStep := fun acct =>
  if acct.account.flow = some "standalone" then attempt o.attributesPut acct else .ok acct

/-- `syncStorageContacts` stamps the account and catches the rest. -/
def syncStorageContactsStep (o : SetupOutcomes) : SetupStep := fun acct =>
  .ok { acct with lastStorageSyncMs := o.nowMs }

/-- The steps before the dispatch queue runs. -/
def constructionSteps (db : Db) (o : SetupOutcomes) : List SetupStep :=
  [attempt o.openStorage, loadAccountStep db o, createCallManager o, createAuthSocket o]

/-- The steps from the dispatch queue on. -/
def connectionSteps (o : SetupOutcomes) : List SetupStep :=
  [startDispatchQueue, connectSocket o, attempt o.refreshPrekeys, refreshAccountAttributes o,
    syncStorageContactsStep o, attemptQuietly o.sendKeysRequest]

def setupSteps (db : Db) (o : SetupOutcomes) : List SetupStep :=
  constructionSteps db o ++ connectionSteps o

/-! ## The SIP half -/

/-- `ensureSharedEndpoint`: nothing when it exists; its `pj::Error` leaves it null. -/
def Daemon.ensureSharedEndpoint (d : Daemon) (starts : Bool) : Daemon :=
  { d with g_ep := d.g_ep || starts }

/-- `createAccountUdpTransport` and `createAccountTlsTransport`: a failure is logged and returns
`PJSUA_INVALID_ID`, as does a missing endpoint. The two differ in the settings they pass. -/
def Daemon.createAccountTransport (d : Daemon) (outcome : Option Nat) : Daemon × Option Nat :=
  if d.g_ep then
    match outcome with
    | none => (d, none)
    | some id => ({ d with transports := id :: d.transports }, some id)
  else (d, none)

/-- The port at the end of a transport's local address, if there is one. -/
def portOfLocalAddress (localAddress : String) : Option Int :=
  (CxxString.splitLast ':' localAddress).bind fun parts => CxxString.stoi parts.2

/-- Record which account a transport's port belongs to; anything thrown is logged. -/
def Daemon.recordPort (d : Daemon) (localAddress : Option String) (acct : ObjPtr) : Daemon :=
  match localAddress.bind portOfLocalAddress with
  | some port => { d with g_portToAccount := d.g_portToAccount.insert port acct }
  | none => d

/-- The SIP half: the daemon it leaves, and the `pj::Error` of creating the SIP account. -/
def setupSip (config : AccountConfig) (o : SetupOutcomes) (acct : ObjPtr) (d : Daemon) :
    Daemon × Option String :=
  if config.hasSip then
    match (d.ensureSharedEndpoint o.endpointAgain).createAccountTransport o.transportCreate with
    | (d, none) => (d, none)
    | (d, some transportId) =>
      let d := d.recordPort o.localAddress acct
      match o.createAccount with
      | some info => (d, some info)
      | none =>
        ({ d with
            g_sipAccounts := d.g_sipAccounts.insert config.name
              { serial := d.nextSerial, registered := o.registered, transportId := some transportId,
                acctState := some acct, unregisteredSinceMs := o.unregisteredSinceMs }
            nextSerial := d.nextSerial + 1 }, none)
  else (d, none)

/-! ## The function -/

/-- The configured outgoing call; a target that does not resolve is logged. -/
def Daemon.placeOutgoingCall (d : Daemon) (config : AccountConfig) (o : SetupOutcomes) : Daemon :=
  if config.outgoingCallTarget = "" then d
  else
    match o.resolveOutgoingTarget with
    | .error _ => d
    | .ok target => if target = "" then d else d.emit (.startOutgoing config.name target)

/-- The handler of `std::exception`. `stopAndJoin` locks the mutex in the queue's state, which is
null before `start`. -/
def setupFailed (name : String) (d : Daemon) : Daemon × SetupEnd :=
  match d.g_accounts.lookup name with
  | none => (d, .returned false)
  | some acct =>
    match acct.dispatchQueue.state with
    | none => (d, .undefined)
    | some _ => ({ d with g_accounts := d.g_accounts.erase name }, .returned false)

/-- The account that `setupAccount` starts from. -/
def freshAccount (d : Daemon) (config : AccountConfig) : AccountState :=
  { serial := d.nextSerial, config := config }

/-- The daemon with the account object in its map, as far as it has been built. -/
def Daemon.withAccount (d : Daemon) (config : AccountConfig) (o : SetupOutcomes)
    (acct : AccountState) : Daemon :=
  { d with
    g_ep := d.g_ep || (config.hasSip && o.endpoint)
    g_accounts := d.g_accounts.insert config.name acct
    nextSerial := d.nextSerial + 1 }

/-- `setupAccount`: the daemon it leaves, and how it ends. -/
def setupAccount (db : Db) (config : AccountConfig) (o : SetupOutcomes) (d : Daemon) :
    Daemon × SetupEnd :=
  let (acct, thrown) := runSteps (setupSteps db o) (freshAccount d config)
  let d := d.withAccount config o acct
  match thrown with
  | some _ => setupFailed config.name d
  | none =>
    match setupSip config o ⟨config.name, acct.serial⟩ d with
    | (d, some info) => (d, .escaped info)
    | (d, none) => (d.placeOutgoingCall config o, .returned true)

end Signal2sip
