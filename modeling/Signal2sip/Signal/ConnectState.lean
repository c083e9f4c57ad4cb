import Mathlib.Data.List.Basic

/-!
# `ConnectState`: one connection attempt and its two sides

`doConnect` and `waitForProvisionMessage` allocate a `ConnectState`, ask libsignal to connect and
wait. The completion callback comes on a thread of libsignal, possibly before the wait begins and
possibly after it has timed out. Each side goes step by step; the fields are read and written under
the state's mutex, and the mutex and the condition variable are part of the state too.

A call that libsignal refuses does not complete its promise. A wait ends for a notification, for the
deadline or for no reason at all, so a wake-up may come at any time.

The two functions differ in what the callback does with a connection nobody waits for any more:
`doConnect` disconnects and destroys it, `waitForProvisionMessage` lets it go.

`deletes` counts the `delete`s of the state, and `touchedDead` says that a step has used it after one.
Nothing is defined after that.
-/

namespace Signal2sip.ConnectState

/-- What libsignal completes the promise with. -/
structure Completion where
  error : Bool
  result : Bool
deriving DecidableEq, Repr

def Completion.connected (c : Completion) : Bool := !c.error && c.result

inductive Side
  | waiter
  | callback
deriving DecidableEq, Repr

/-- The side that waits. `timedOut` is what its last wait returned. -/
inductive Waiter
  | calling
  | locking (timedOut : Bool)
  | testing (timedOut : Bool)
  | waiting
  | leaving
  | reading
  | deleting
  | returned
  | givingUp
  | gaveUp
  | deletingRefused
  | refused
deriving DecidableEq, Repr

/-- The completion callback. From `unlockingAbandoned` on its `selfCleanup` is set. -/
inductive Callback
  | pending
  | refused
  | locking (c : Completion)
  | writing (c : Completion)
  | unlocking
  | notifying
  | returned
  | unlockingAbandoned (c : Completion)
  | cleaning (c : Completion)
  | disconnecting
  | destroying
  | deleting
  | cleanedUp
deriving DecidableEq, Repr

/-- The connection a completion brought. -/
inductive Connection
  | none
  | opened
  | disconnected
  | destroyed
deriving DecidableEq, Repr

structure Attempt where
  mutex : Option Side := none
  done : Bool := false
  abandoned : Bool := false
  error : Bool := false
  result : Bool := false
  waiter : Waiter := .calling
  callback : Callback := .pending
  connection : Connection := .none
  deletes : Nat := 0
  touchedDead : Bool := false
deriving DecidableEq, Repr

inductive AttemptEvent
  | callReturns (callErr : Bool)
  | waiter
  | wake (timedOut : Bool)
  | complete (c : Completion)
  | callback
deriving DecidableEq, Repr

/-- Whether the next step of the waiting side uses the state. -/
def Waiter.touches : Waiter → Bool
  | .locking _ | .testing _ | .waiting | .leaving | .givingUp | .reading | .deleting
  | .deletingRefused => true
  | .calling | .returned | .gaveUp | .refused => false

/-- Whether the callback's next step does. `runtime` is read when a connection is disconnected. -/
def Callback.touches : Callback → Bool
  | .locking _ | .writing _ | .unlocking | .notifying | .unlockingAbandoned _ | .disconnecting
  | .deleting => true
  | .pending | .refused | .returned | .cleaning _ | .destroying | .cleanedUp => false

namespace Attempt

/-- `if (callErr) { delete state; ... }`. -/
def callReturns (s : Attempt) (callErr : Bool) : Attempt :=
  match s.waiter with
  | .calling =>
    if callErr then
      if s.callback = .pending then { s with waiter := .deletingRefused, callback := .refused } else s
    else { s with waiter := .locking false }
  | _ => s

/-- The waiting side, from the lock to the end. -/
def waiterStep (s : Attempt) : Attempt :=
  match s.waiter with
  | .locking timedOut =>
    match s.mutex with
    | none => { s with mutex := some .waiter, waiter := .testing timedOut }
    | some _ => s
  | .testing timedOut =>
    if s.done then { s with waiter := .leaving }
    else if timedOut then { s with waiter := .givingUp }
    else { s with mutex := none, waiter := .waiting }
  | .leaving => { s with mutex := none, waiter := .reading }
  | .reading => { s with waiter := .deleting }
  | .deleting => { s with deletes := s.deletes + 1, waiter := .returned }
  | .givingUp => { s with abandoned := true, mutex := none, waiter := .gaveUp }
  | .deletingRefused => { s with deletes := s.deletes + 1, waiter := .refused }
  | .calling | .waiting | .returned | .gaveUp | .refused => s

def wake (s : Attempt) (timedOut : Bool) : Attempt :=
  match s.waiter with
  | .waiting => { s with waiter := .locking timedOut }
  | _ => s

def complete (s : Attempt) (c : Completion) : Attempt :=
  match s.callback with
  | .pending =>
    { s with
      callback := .locking c
      connection := if c.connected then .opened else .none }
  | _ => s

/-- The callback, from the lock to the end. -/
def callbackStep (disconnectsLate : Bool) (s : Attempt) : Attempt :=
  match s.callback with
  | .locking c =>
    match s.mutex with
    | none => { s with mutex := some .callback, callback := .writing c }
    | some _ => s
  | .writing c =>
    if s.abandoned then { s with callback := .unlockingAbandoned c }
    else
      { s with
        error := c.error
        result := c.connected
        done := true
        callback := .unlocking }
  | .unlocking => { s with mutex := none, callback := .notifying }
  | .notifying => { s.wake false with callback := .returned }
  | .unlockingAbandoned c => { s with mutex := none, callback := .cleaning c }
  | .cleaning c =>
    { s with callback := if disconnectsLate && c.connected then .disconnecting else .deleting }
  | .disconnecting => { s with connection := .disconnected, callback := .destroying }
  | .destroying => { s with connection := .destroyed, callback := .deleting }
  | .deleting => { s with deletes := s.deletes + 1, callback := .cleanedUp }
  | .pending | .refused | .returned | .cleanedUp => s

/-- Whether a step uses a state that has been deleted. -/
def touchesDead (s : Attempt) (e : AttemptEvent) : Bool :=
  s.deletes ≠ 0 &&
    match e with
    | .waiter | .wake _ => s.waiter.touches
    | .callback => s.callback.touches
    | .callReturns _ | .complete _ => false

def step (disconnectsLate : Bool) (s : Attempt) (e : AttemptEvent) : Attempt :=
  if s.touchedDead then s
  else if s.touchesDead e then { s with touchedDead := true }
  else
    match e with
    | .callReturns callErr => s.callReturns callErr
    | .waiter => s.waiterStep
    | .wake timedOut => s.wake timedOut
    | .complete c => s.complete c
    | .callback => s.callbackStep disconnectsLate

end Attempt

/-- `AuthSocket::Impl::doConnect`, from the allocation of the state to its last use. -/
def doConnect : Attempt → AttemptEvent → Attempt := Attempt.step true

/-- `ProvisioningClient::waitForProvisionMessage`, likewise. -/
def waitForProvisionMessage : Attempt → AttemptEvent → Attempt := Attempt.step false

end Signal2sip.ConnectState
