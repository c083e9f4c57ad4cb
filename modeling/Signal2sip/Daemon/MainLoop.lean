import Signal2sip.Daemon.Reload
import Signal2sip.Lib.Run

/-!
# The main loop

One tick of `main`'s loop reloads the configuration when it is asked to or when it is time to, looks
after each SIP registration and each websocket, and syncs contacts. RingRTC, PJSIP and the websocket
call back from threads of their own, between any two of these steps, so each step is an event of its
own, and an event carries what the environment answers: the time of its tick, how a reconnect ends,
what was delivered while the step waited. Which steps of `doConnect` a reconnect stands for is
`doConnect_returns` and `doConnect_throws`.

A reload can take the process with it; then there is no state any more.
-/

namespace Signal2sip

def kSocketReconnectIntervalMs : Int := 5000

structure MainLoop where
  daemon : Daemon
  lastConfigPollMs : Int
deriving DecidableEq

/-- What one reload reads, and how its teardowns and setups end. -/
structure ReloadInput where
  file : Except RuntimeError GlobalConfig
  db : Db
  faults : LoadFaults := .quiet
  outcomes : ReloadOutcomes := {}

/-- How `AuthSocket::reconnect` leaves its two flags. A success is reported as one even when the new
connection was invalidated while it was being set up; a failure is final when the device turns out
to be deregistered. -/
inductive ReconnectOutcome
  | connected (invalidated : Bool)
  | failed (deregistered : Bool)
deriving DecidableEq, Repr

namespace AuthSocket

/-- `connection_interrupted` was delivered. -/
def interrupted (s : AuthSocket) (invalidated : Bool) : AuthSocket :=
  { connected := false, deauthorized := s.deauthorized || invalidated }

def reconnect (s : AuthSocket) : ReconnectOutcome → AuthSocket
  | .connected invalidated => { connected := true, deauthorized := invalidated }
  | .failed deregistered => { connected := false, deauthorized := s.deauthorized || deregistered }

end AuthSocket

/-! ## The watchdogs -/

namespace Daemon

/-- The account's credentials were rejected. -/
def isDeauthorized (d : Daemon) (name : String) : Bool :=
  (d.g_accounts.lookup name).any fun acct => acct.socket.any (·.deauthorized)

/-- The registration watchdog's timer has run out, and nothing keeps it from acting. -/
def forcesRegistration (d : Daemon) (name : String) (nowMs : Int) : Bool :=
  (d.g_sipAccounts.lookup name).any fun sipAccount =>
    !d.isDeauthorized name && sipAccount.unregisteredSinceMs ≠ 0 &&
      nowMs - sipAccount.unregisteredSinceMs ≥ d.g_global.sipRegWatchdogSec * 1000

/-- The registration watchdog, for one SIP account. `onRegState` may run while `setRegistration` does
(`meanwhile`); the clock is reset after it either way. -/
def registrationWatchdog (name : String) (nowMs : Int) (meanwhile : Option Bool) (d : Daemon) :
    Daemon :=
  if d.forcesRegistration name nowMs then
    { d.emit (.setRegistration name true) with
      g_sipAccounts := d.g_sipAccounts.modify name fun sipAccount =>
        { sipAccount with
          registered := meanwhile.getD sipAccount.registered
          unregisteredSinceMs := nowMs } }
  else d

/-- Nothing for an account without SIP. -/
def setRegistrationIfSip (d : Daemon) (name : String) (up : Bool) : Daemon :=
  if name ∈ d.g_sipAccounts then d.emit (.setRegistration name up) else d

/-- Try to reconnect; SIP comes back up with the websocket. -/
def reconnectSocket (name : String) (nowMs : Int) (outcome : ReconnectOutcome) (d : Daemon) :
    Daemon :=
  let d := d.modifyAccount name fun acct =>
    { acct with
      lastSocketReconnectAttemptMs := nowMs
      socket := acct.socket.map (·.reconnect outcome) }
  match outcome with
  | .connected _ =>
    (d.modifyAccount name fun acct =>
      { acct with socketConnected := true, deauthorizedAlerted := false }).setRegistrationIfSip
        name true
  | .failed _ => d

/-- Take the registration down at the moment the websocket drops. -/
def noticeSocket (name : String) (acct : AccountState) (nowConnected : Bool) (d : Daemon) : Daemon :=
  (if acct.socketConnected && !nowConnected then d.setRegistrationIfSip name false
    else d).modifyAccount name fun acct => { acct with socketConnected := nowConnected }

/-- The websocket watchdog, for one account. -/
def socketWatchdog (name : String) (nowMs : Int) (outcome : ReconnectOutcome) (d : Daemon) :
    Daemon :=
  match d.g_accounts.lookup name with
  | none => d
  | some acct =>
    match acct.socket with
    | none => d
    | some socket =>
      if !socket.connected && socket.deauthorized then
        (d.noticeSocket name acct socket.connected).modifyAccount name fun acct =>
          { acct with deauthorizedAlerted := true }
      else if !socket.connected &&
          nowMs - acct.lastSocketReconnectAttemptMs ≥ kSocketReconnectIntervalMs then
        (d.noticeSocket name acct socket.connected).reconnectSocket name nowMs outcome
      else d.noticeSocket name acct socket.connected

/-- The contact sync of one account, which stamps the account with the time at which it starts. -/
def storageSync (name : String) (nowMs syncedAtMs : Int) (d : Daemon) : Daemon :=
  d.modifyAccount name fun acct =>
    if nowMs - acct.lastStorageSyncMs ≥ d.g_global.storageSyncIntervalSec * 1000 then
      { acct with lastStorageSyncMs := syncedAtMs }
    else acct

/-- The listener of an account's websocket reports that the connection ended. -/
def interruptSocket (name : String) (invalidated : Bool) (d : Daemon) : Daemon :=
  d.modifyAccount name fun acct =>
    { acct with socket := acct.socket.map (·.interrupted invalidated) }

end Daemon

/-! ## The loop -/

def MainLoop.reload (r : ReloadInput) (l : MainLoop) : Option MainLoop :=
  (reloadConfig r.file r.db r.faults r.outcomes l.daemon).map fun d => { l with daemon := d }

/-- A reload when the configuration was last polled long enough ago. -/
def MainLoop.pollConfig (nowMs : Int) (r : ReloadInput) (l : MainLoop) : Option MainLoop :=
  if nowMs - l.lastConfigPollMs ≥ l.daemon.g_global.configPollIntervalSec * 1000 then
    { l with lastConfigPollMs := nowMs }.reload r
  else some l

inductive LoopEvent
  | handler (e : DaemonEvent)
  | interrupted (name : String) (invalidated : Bool)
  | reloadRequested (r : ReloadInput)
  | pollConfig (nowMs : Int) (r : ReloadInput)
  | registrationWatchdog (name : String) (nowMs : Int) (meanwhile : Option Bool)
  | socketWatchdog (name : String) (nowMs : Int) (outcome : ReconnectOutcome)
  | storageSync (name : String) (nowMs syncedAtMs : Int)

/-- One event, from a state with nothing asked for. -/
def MainLoop.stepQuiet (l : MainLoop) : LoopEvent → Option MainLoop
  | .handler e => some { l with daemon := l.daemon.step e }
  | .interrupted name invalidated =>
    some { l with daemon := l.daemon.interruptSocket name invalidated }
  | .reloadRequested r => l.reload r
  | .pollConfig nowMs r => l.pollConfig nowMs r
  | .registrationWatchdog name nowMs meanwhile =>
    some { l with daemon := l.daemon.registrationWatchdog name nowMs meanwhile }
  | .socketWatchdog name nowMs outcome =>
    some { l with daemon := l.daemon.socketWatchdog name nowMs outcome }
  | .storageSync name nowMs syncedAtMs =>
    some { l with daemon := l.daemon.storageSync name nowMs syncedAtMs }

def MainLoop.step (l : Option MainLoop) (e : LoopEvent) : Option MainLoop :=
  l.bind fun l => { l with daemon := l.daemon.quiet }.stepQuiet e

/-- What the environment answers in one tick. -/
structure Tick where
  nowMs : Int
  signalled : Option ReloadInput := none
  poll : ReloadInput
  meanwhile : String → Option Bool := fun _ => none
  reconnects : String → ReconnectOutcome := fun _ => .failed false
  syncedAtMs : Int := nowMs

/-- The events of one tick that nothing interrupts, when these are the SIP accounts and the accounts
after its reloads, in the order of the maps. -/
def Tick.events (t : Tick) (sipNames names : List String) : List LoopEvent :=
  t.signalled.toList.map .reloadRequested ++ .pollConfig t.nowMs t.poll ::
    (sipNames.map (fun name => .registrationWatchdog name t.nowMs (t.meanwhile name)) ++
      names.map (fun name => .socketWatchdog name t.nowMs (t.reconnects name)) ++
      names.map (fun name => .storageSync name t.nowMs t.syncedAtMs))

end Signal2sip
