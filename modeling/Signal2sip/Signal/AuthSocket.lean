import Mathlib.Data.List.Basic

/-!
# `AuthSocket::Impl`: connecting and being interrupted

`doConnect` runs on the thread that connects or reconnects, and libsignal calls
`connection_interrupted` back on threads of its own, for every connection that the listener was set
on. Each reads or writes the two flags one at a time, so every such write is a step. A callback clears
`connected` first, and then records an invalidation.

Connections are numbered in the order in which the listener was set on them. `interrupted` and
`invalidated` say what was delivered for the newest one so far; the program keeps no such record.

The handle that `doConnect` exchanges is `ChatHandle.Impl`'s (`sameConnect_run`), and the wait for the
connection is `ConnectState`'s (`doConnect_answers`).
-/

namespace Signal2sip.AuthSocket

/-- Where `doConnect` stands. -/
inductive ConnectStep
  | idle
  | cleared
  | dropped
  | opened
  | listening
  | authorized
deriving DecidableEq, Repr

structure Impl where
  connected : Bool := false
  deauthorized : Bool := false
  at_ : ConnectStep := .idle
  connection : Nat := 0
  callbacks : List (Nat × Bool) := []
  interrupted : Bool := false
  invalidated : Bool := false
deriving DecidableEq, Repr

/-- A step of `doConnect`, or of a callback: `interrupt` is its first half, and `interruptRest` the
rest of the callback that has that place among those not yet done. -/
inductive ImplEvent
  | clearConnected
  | dropOld
  | connectFails (deregistered : Bool)
  | connectOpens
  | listenFails
  | listen
  | storeAuthorized
  | storeConnected
  | interrupt (connection : Nat) (invalidated : Bool)
  | interruptRest (callback : Nat)
deriving DecidableEq, Repr

namespace Impl

/-- `doConnect`, from one write to the next. A step out of order does not happen. -/
def doConnect (s : Impl) : ImplEvent → Impl
  | .clearConnected =>
    if s.at_ = .idle then { s with at_ := .cleared, connected := false } else s
  | .dropOld => if s.at_ = .cleared then { s with at_ := .dropped } else s
  | .connectFails deregistered =>
    if s.at_ = .dropped then
      { s with at_ := .idle, deauthorized := s.deauthorized || deregistered }
    else s
  | .connectOpens => if s.at_ = .dropped then { s with at_ := .opened } else s
  | .listenFails => if s.at_ = .opened then { s with at_ := .idle } else s
  | .listen =>
    if s.at_ = .opened then
      { s with
        at_ := .listening
        connection := s.connection + 1
        interrupted := false
        invalidated := false }
    else s
  | .storeAuthorized =>
    if s.at_ = .listening then { s with at_ := .authorized, deauthorized := false } else s
  | .storeConnected =>
    if s.at_ = .authorized then { s with at_ := .idle, connected := true } else s
  | .interrupt _ _ | .interruptRest _ => s

/-- `onConnectionInterrupted`, its first write, for a connection with a listener. -/
def interrupt (s : Impl) (connection : Nat) (invalidated : Bool) : Impl :=
  if connection ≤ s.connection then
    { s with
      connected := false
      callbacks := s.callbacks ++ [(connection, invalidated)]
      interrupted := s.interrupted || connection = s.connection }
  else s

/-- Its second write. -/
def interruptRest (s : Impl) (callback : Nat) : Impl :=
  match s.callbacks[callback]? with
  | none => s
  | some (connection, invalidated) =>
    { s with
      callbacks := s.callbacks.eraseIdx callback
      deauthorized := s.deauthorized || invalidated
      invalidated := s.invalidated || (invalidated && connection = s.connection) }

def step (s : Impl) : ImplEvent → Impl
  | .interrupt connection invalidated => s.interrupt connection invalidated
  | .interruptRest callback => s.interruptRest callback
  | e => s.doConnect e

end Impl

end Signal2sip.AuthSocket
