import Mathlib.Data.List.Basic

/-!
# `teardownAccount` among the account's threads

`teardownAccount` runs on the main thread, step by step. Meanwhile an account's other actors run on
threads of PJSIP, RingRTC and the websocket, on the dispatch worker and on the probe's own thread.
They all hold the raw `AccountState` pointer, and through it the handle of the call manager.

What an actor does to the two objects is written as the list of its accesses, in the order of the
source, with a `touch` before and after every wait for the network. Which way an actor goes is the
environment's choice, so an actor carries it. Of a leg that is hung up, the seconds until it is deleted
lie between two accesses. The other parts of the daemon's state play no part here.
-/

namespace Signal2sip

/-- The two objects that a teardown destroys. -/
inductive Resource
  | manager
  | account
deriving DecidableEq, Repr

/-- What an item on the dispatch queue does. A `CallMessage` hands `keyed` offers and answers to
RingRTC, each with identity keys that are loaded first, and `plain` other parts. -/
inductive DispatchItem
  | sendDecryptionErrorReply
  | syncStorageContacts
  | handleCallMessage (keyed plain : Nat)
deriving DecidableEq, Repr

/-- One access of an actor. A `call` is a `signal2sip_*` call with `acct.handle`, a `callHandle` one
with a handle that was read off before. `startFeeder` starts the thread of the account's bridge, which
makes such calls until the bridge is stopped. Opening a leg replaces the bridge, and the account forgets
the leg that it had of that kind. -/
inductive Access
  | touch
  | call
  | callHandle
  | openSipCall
  | openIncomingSipCall
  | startFeeder
  | stopBridge
  | deleteSipCall
  | deleteIncomingSipCall
  | spawnProbe
  | enqueue (item : DispatchItem)
deriving DecidableEq, Repr

def Access.uses : Access → List Resource
  | .call => [.account, .manager]
  | .callHandle => [.manager]
  | _ => [.account]

def DispatchItem.accesses : DispatchItem → List Access
  | .sendDecryptionErrorReply => [.touch, .touch, .touch]
  | .syncStorageContacts => [.touch, .touch]
  | .handleCallMessage keyed plain =>
    .touch :: ((List.replicate keyed [.touch, .callHandle]).flatten ++ List.replicate plain .callHandle)

/-- `stopSipBridge`: the bridge is stopped and the leg hung up, and then both are deleted. -/
def Access.stopSipBridge : List Access := [.stopBridge, .deleteSipCall]

def Access.stopIncomingSipCall : List Access := [.stopBridge, .deleteIncomingSipCall]

/-! ## The actors -/

/-- How `BridgeAccount::onIncomingCall` goes on. -/
inductive InvitePath
  | refused
  | unresolved
  | started (ok : Bool)
deriving DecidableEq, Repr

/-- What RingRTC's `onCallState` does besides recording the call. -/
inductive CallReaction
  | nothing
  | proceed
  | startSipDial
  | answer
  | runProbe
  | stop
deriving DecidableEq, Repr

inductive Actor
  | onIncomingCall (path : InvitePath)
  | onLegState (calls : Bool)
  | onLegMedia
  | onSend (sent : Bool)
  | onCallState (reaction : CallReaction)
  | onPush (item : Option DispatchItem)
deriving DecidableEq, Repr

/-- The chunks that `runProbe` plays and records: ten seconds at 48 kHz, 480 samples at a time. -/
def probeChunks : Nat := 1000

/-- `runProbe`: two calls for each chunk, and a hangup. -/
def probeAccesses : List Access :=
  (List.replicate probeChunks [.call, .call]).flatten ++ [.touch, .call]

def Actor.accesses : Actor → List Access
  | .onIncomingCall .refused => [.touch]
  | .onIncomingCall .unresolved =>
    [.touch, .openIncomingSipCall, .touch, .touch] ++ Access.stopIncomingSipCall
  | .onIncomingCall (.started ok) =>
    [.touch, .openIncomingSipCall, .touch, .touch, .call] ++
      if ok then [] else Access.stopIncomingSipCall
  | .onLegState calls => if calls then [.call] else []
  | .onLegMedia => [.startFeeder]
  | .onSend sent => [.touch, .touch] ++ if sent then [.call] else []
  | .onCallState reaction =>
    .touch :: match reaction with
      | .nothing => []
      | .proceed => [.call]
      | .startSipDial => [.openSipCall, .touch]
      | .answer => [.touch]
      | .runProbe => [.spawnProbe]
      | .stop => Access.stopSipBridge ++ Access.stopIncomingSipCall ++ [.touch]
  | .onPush item => .touch :: (item.map .enqueue).toList

/-! ## The teardown -/

inductive TeardownStep
  | stopBridge
  | deleteSipCall
  | deleteIncomingSipCall
  | stopQueue
  | join
  | destroyManager
  | closeSocket
  | unregister
  | eraseSip
  | eraseAccount
deriving DecidableEq, Repr

/-- `teardownAccount`: `stopSipBridge`, `stopIncomingSipCall` and what follows them. -/
def TeardownStep.teardownAccount : List TeardownStep :=
  [.stopBridge, .deleteSipCall, .stopBridge, .deleteIncomingSipCall, .stopQueue, .join,
    .destroyManager, .closeSocket, .unregister, .eraseSip, .eraseAccount]

/-- One account: the steps of its teardown that are still ahead, the legs that live, with those that
the account has forgotten, the actors in flight, and what the dispatch worker has still to do. -/
structure Teardown where
  ahead : List TeardownStep := TeardownStep.teardownAccount
  stopping : Bool := false
  exited : Bool := false
  destroyed : Bool := false
  closed : Bool := false
  erased : Bool := false
  legs : Nat := 0
  sipCall : Bool := false
  incomingSipCall : Bool := false
  feeding : Bool := false
  threads : List (List Access) := []
  work : List Access := []
deriving DecidableEq, Repr

/-- What happens next. The join gives up on a busy worker when its time is up. -/
inductive TeardownEvent
  | teardown (timesOut : Bool)
  | start (actor : Actor)
  | run (thread : Nat)
  | work
  | feed
deriving DecidableEq, Repr

namespace Teardown

def dead (s : Teardown) : Resource → Bool
  | .manager => s.destroyed
  | .account => s.erased

/-- RingRTC calls back until its manager is destroyed, and the websocket until it is closed. An
INVITE can reach the account through `g_portToAccount` at any time, and a leg lives until it is
deleted. -/
def canStart (s : Teardown) : Actor → Bool
  | .onIncomingCall _ => true
  | .onLegState _ | .onLegMedia => s.legs ≠ 0
  | .onSend _ | .onCallState _ => !s.destroyed
  | .onPush _ => !s.closed

/-- The accesses that an access puts in flight. A worker that has exited runs nothing any more. -/
def spawns (s : Teardown) : Access → List Access
  | .startFeeder => [.callHandle]
  | .spawnProbe => probeAccesses
  | .enqueue item => if s.exited then [] else item.accesses
  | _ => []

/-- The legs that live once one of them is deleted, if the account knows it. -/
def legsWithout (s : Teardown) (known : Bool) : Nat := if known then s.legs - 1 else s.legs

def perform (s : Teardown) (a : Access) : Teardown :=
  match a with
  | .openSipCall => { s with legs := s.legs + 1, sipCall := true, feeding := false }
  | .openIncomingSipCall => { s with legs := s.legs + 1, incomingSipCall := true, feeding := false }
  | .startFeeder => { s with feeding := true }
  | .stopBridge => { s with feeding := false }
  | .deleteSipCall =>
    { s with legs := s.legsWithout s.sipCall, sipCall := false, feeding := false }
  | .deleteIncomingSipCall =>
    { s with legs := s.legsWithout s.incomingSipCall, incomingSipCall := false, feeding := false }
  | .spawnProbe => { s with threads := s.threads ++ [s.spawns a] }
  | .enqueue _ => { s with work := s.work ++ s.spawns a }
  | .touch | .call | .callHandle => s

/-- The access that an event makes. -/
def next (s : Teardown) : TeardownEvent → Option Access
  | .run thread => s.threads[thread]?.bind List.head?
  | .work => s.work.head?
  | .feed => if s.feeding then some .callHandle else none
  | .teardown _ | .start _ => none

/-- What a step of the teardown does. The account takes its bridge along. -/
def take (s : Teardown) : TeardownStep → Teardown
  | .stopBridge => s.perform .stopBridge
  | .deleteSipCall => s.perform .deleteSipCall
  | .deleteIncomingSipCall => s.perform .deleteIncomingSipCall
  | .stopQueue => { s with stopping := true }
  | .destroyManager => { s with destroyed := true }
  | .closeSocket => { s with closed := true }
  | .eraseAccount => { s with erased := true, feeding := false }
  | .join | .unregister | .eraseSip => s

/-- The next step of the teardown; the join waits for the worker until its time is up. -/
def teardown (s : Teardown) (timesOut : Bool) : Teardown :=
  match s.ahead with
  | [] => s
  | first :: rest =>
    if first = .join ∧ ¬ (s.exited || timesOut) then s else { s with ahead := rest }.take first

def step (s : Teardown) : TeardownEvent → Teardown
  | .teardown timesOut => s.teardown timesOut
  | .start actor =>
    if s.canStart actor then { s with threads := s.threads ++ [actor.accesses] } else s
  | .run thread =>
    match s.threads[thread]? with
    | some (a :: rest) => { s with threads := s.threads.set thread rest }.perform a
    | _ => s
  | .work =>
    match s.work with
    | a :: rest => { s with work := rest }.perform a
    | [] => if s.stopping then { s with exited := true } else s
  | .feed => s

end Teardown

end Signal2sip
