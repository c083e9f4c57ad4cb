import Mathlib.Data.List.Basic
import Mathlib.Logic.Function.Basic

/-!
# `AuthSocket::Impl`: the chat handle

The main thread connects, reconnects from its watchdog and closes. `doConnect` and `close` tear down
the connection they find: disconnect, destroy, and only then reset `chat`. Requests come from any
thread, the keepalive thread's ping among them, at any time: `doRequest` tests `chat.raw`, reads it
again for the call, and the call returns before the send completes. Nothing locks `chat`.

Handles are numbered in the order in which connections are opened; `destroyed` keeps those that have
been destroyed. Of the two flags only `connected` is read here; `sameConnect_run` ties it to
`AuthSocket.Impl`.
-/

namespace Signal2sip.ChatHandle

/-- What a teardown is part of. `starts` is `connect`, which starts the keepalive thread. -/
inductive Teardown
  | doConnect (starts : Bool)
  | close
deriving DecidableEq, Repr

/-- Where the main thread is. -/
inductive Owner
  | idle
  | clearConnected (starts : Bool)
  | disconnect (teardown : Teardown)
  | destroy (teardown : Teardown) (handle : Nat)
  | reset (teardown : Teardown)
  | connecting (starts : Bool)
  | assign (starts : Bool) (handle : Nat)
  | initListener (starts : Bool)
  | storeConnected (starts : Bool)
  | joining
  | clearClosed
  | closed
deriving DecidableEq, Repr

inductive KeepAlive
  | notStarted
  | running
  | exited
deriving DecidableEq, Repr

/-- Who calls `doRequest`. -/
inductive Caller (ι : Type)
  | thread (i : ι)
  | keepAlive
deriving DecidableEq, Repr

/-- Where a call is; `pinging` is the test of `connected` before a ping. -/
inductive Request
  | idle
  | pinging
  | checking
  | reading
  | sending (handle : Nat)
deriving DecidableEq, Repr

structure Impl (ι : Type) where
  chat : Option Nat := none
  connected : Bool := false
  stopping : Bool := false
  keepAlive : KeepAlive := .notStarted
  owner : Owner := .idle
  requests : Caller ι → Request := fun _ => .idle
  handles : Nat := 0
  destroyed : List Nat := []

/-- What happens next. libsignal answers with `connectReturns`, `listenReturns` and `complete`, and may
report the connection `interrupted`. -/
inductive ImplEvent (ι : Type)
  | connect
  | reconnect
  | close
  | owner
  | connectReturns (ok : Bool)
  | listenReturns (ok : Bool)
  | interrupted
  | keepAlive
  | request (i : ι)
  | next (caller : Caller ι)
  | complete (caller : Caller ι)
deriving DecidableEq, Repr

namespace Impl

variable {ι : Type} [DecidableEq ι]

def setRequest (s : Impl ι) (caller : Caller ι) (request : Request) : Impl ι :=
  { s with requests := Function.update s.requests caller request }

/-- The next step of `doConnect` or `close` that does not wait for libsignal. `close` waits for the
keepalive thread first. -/
def ownerStep (s : Impl ι) : Impl ι :=
  match s.owner with
  | .clearConnected starts =>
    { s with connected := false, owner := .disconnect (.doConnect starts) }
  | .disconnect teardown =>
    match s.chat with
    | none => { s with owner := .reset teardown }
    | some handle => { s with owner := .destroy teardown handle }
  | .destroy teardown handle =>
    { s with destroyed := handle :: s.destroyed, owner := .reset teardown }
  | .reset (.doConnect starts) => { s with chat := none, owner := .connecting starts }
  | .reset .close => { s with chat := none, owner := .clearClosed }
  | .assign starts handle => { s with chat := some handle, owner := .initListener starts }
  | .storeConnected starts =>
    { s with
      connected := true
      keepAlive := if starts then .running else s.keepAlive
      owner := .idle }
  | .joining => if s.keepAlive = .running then s else { s with owner := .disconnect .close }
  | .clearClosed => { s with connected := false, owner := .closed }
  | .idle | .connecting _ | .initListener _ | .closed => s

/-- `while (!stopping.load()) { ...; if (!stopping.load()) sendKeepAlive(); }`. -/
def keepAliveLoop (s : Impl ι) : Impl ι :=
  if s.keepAlive = .running ∧ s.requests .keepAlive = .idle then
    if s.stopping then { s with keepAlive := .exited } else s.setRequest .keepAlive .pinging
  else s

/-- The next step of `doRequest`. A null handle is refused by the call. -/
def requestStep (s : Impl ι) (caller : Caller ι) : Impl ι :=
  match s.requests caller with
  | .pinging => s.setRequest caller (if s.connected then .checking else .idle)
  | .checking => s.setRequest caller (if s.chat.isSome then .reading else .idle)
  | .reading =>
    match s.chat with
    | none => s.setRequest caller .idle
    | some handle => s.setRequest caller (.sending handle)
  | .idle | .sending _ => s

/-- The send completes, or the call fails. -/
def complete (s : Impl ι) (caller : Caller ι) : Impl ι :=
  match s.requests caller with
  | .sending _ => s.setRequest caller .idle
  | _ => s

def step (s : Impl ι) : ImplEvent ι → Impl ι
  | .connect =>
    if s.owner = .idle ∧ s.keepAlive = .notStarted then { s with owner := .clearConnected true } else s
  | .reconnect =>
    if s.owner = .idle ∧ s.connected = false then { s with owner := .clearConnected false } else s
  | .close => if s.owner = .idle then { s with stopping := true, owner := .joining } else s
  | .owner => s.ownerStep
  | .connectReturns ok =>
    match s.owner with
    | .connecting starts =>
      if ok then { s with handles := s.handles + 1, owner := .assign starts s.handles }
      else { s with owner := .idle }
    | _ => s
  | .listenReturns ok =>
    match s.owner with
    | .initListener starts => { s with owner := if ok then .storeConnected starts else .idle }
    | _ => s
  | .interrupted => { s with connected := false }
  | .keepAlive => s.keepAliveLoop
  | .request i =>
    if s.requests (.thread i) = .idle then s.setRequest (.thread i) .checking else s
  | .next caller => s.requestStep caller
  | .complete caller => s.complete caller

end Impl

end Signal2sip.ChatHandle
