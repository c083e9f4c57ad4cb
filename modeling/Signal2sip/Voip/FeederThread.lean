import Mathlib.Data.List.Basic
import Mathlib.Logic.Function.Basic

/-!
# `RingRtcSipBridge`: the feeder thread

PJSIP's media callbacks call `Start`, RingRTC's callbacks and the main thread call `Stop`, and the
destructor calls `Stop` before it destroys the members. Any number of these calls may be under way at
once. A call is a sequence of steps: the exchange on `feeder_running_`, then one port after the other,
the assignment of `feeder_thread_` or its `join`. An exchange that finds the flag as it wants it
returns at once.

Assigning to a `std::thread` that is joinable, or destroying one, ends the process; nothing happens
after that, nor after the destruction of the members.

`startsBegun` and `startsReturned` count the calls of `Start`; a `Stop` remembers how many had
returned when it began. The program keeps no such counts.
-/

namespace Signal2sip.Voip

/-- Where a call of `Start` or `Stop` is. -/
inductive FeederCall
  | notBegun
  | startInput
  | startOutput
  | assignThread
  | started
  | join (startsReturned : Nat)
  | stopInput (startsReturned : Nat)
  | stopOutput (startsReturned : Nat)
  | stopped (startsReturned : Nat)
deriving DecidableEq, Repr

namespace FeederCall

/-- A `Start` between its exchange and its last step. -/
def starting : FeederCall → Bool
  | .startInput | .startOutput | .assignThread => true
  | _ => false

/-- A `Stop` between its exchange and its `join`. -/
def joining : FeederCall → Bool
  | .join _ => true
  | _ => false

/-- A `Stop` between its exchange and its last step: how many calls of `Start` had returned when it
began. -/
def stopping : FeederCall → Option Nat
  | .join n | .stopInput n | .stopOutput n => some n
  | _ => none

/-- A `Stop` that has returned. -/
def stopReturned : FeederCall → Bool
  | .stopped _ => true
  | _ => false

/-- A `Stop` that has begun: how many calls of `Start` had returned by then. -/
def stopBegan : FeederCall → Option Nat
  | .join n | .stopInput n | .stopOutput n | .stopped n => some n
  | _ => none

end FeederCall

/-- A bridge and the calls made on it. A joinable `feederThread` is named by its loop, and `feeders`
are the loops that run. -/
structure RingRtcSipBridge (ι : Type) where
  feederRunning : Bool := false
  feederThread : Option Nat := none
  feeders : List Nat := []
  audioInput : Bool := false
  audioOutput : Bool := false
  calls : ι → FeederCall := fun _ => .notBegun
  destroyed : Bool := false
  terminated : Bool := false
  nextFeeder : Nat := 0
  startsBegun : Nat := 0
  startsReturned : Nat := 0

/-- What happens next: a call begins with its exchange, a call takes its next step, a loop tests the
flag, or the destructor whose `Stop` was `call` destroys the members. -/
inductive FeederEvent (ι : Type)
  | start (call : ι)
  | stop (call : ι)
  | next (call : ι)
  | feederLoop (feeder : Nat)
  | destroy (call : ι)
deriving DecidableEq, Repr

namespace RingRtcSipBridge

variable {ι : Type} [DecidableEq ι]

def setCall (s : RingRtcSipBridge ι) (call : ι) (phase : FeederCall) : RingRtcSipBridge ι :=
  { s with calls := Function.update s.calls call phase }

/-- `if (feeder_running_.exchange(true)) return;`. -/
def start (s : RingRtcSipBridge ι) (call : ι) : RingRtcSipBridge ι :=
  if s.feederRunning then
    { s.setCall call .started with
      startsBegun := s.startsBegun + 1
      startsReturned := s.startsReturned + 1 }
  else
    { s.setCall call .startInput with
      feederRunning := true
      startsBegun := s.startsBegun + 1 }

/-- `if (!feeder_running_.exchange(false)) return;`. -/
def stop (s : RingRtcSipBridge ι) (call : ι) : RingRtcSipBridge ι :=
  if s.feederRunning then
    { s.setCall call (.join s.startsReturned) with feederRunning := false }
  else s.setCall call (.stopped s.startsReturned)

/-- `feeder_thread_ = std::thread(...)`: the new loop runs before the assignment is made. -/
def assignThread (s : RingRtcSipBridge ι) (call : ι) : RingRtcSipBridge ι :=
  { s.setCall call .started with
    feeders := s.feeders ++ [s.nextFeeder]
    nextFeeder := s.nextFeeder + 1
    feederThread := some s.nextFeeder
    terminated := s.feederThread.isSome
    startsReturned := s.startsReturned + 1 }

/-- The next step of a call that has not returned. A `join` waits for the thread's loop. -/
def next (s : RingRtcSipBridge ι) (call : ι) : RingRtcSipBridge ι :=
  match s.calls call with
  | .startInput => { s.setCall call .startOutput with audioInput := true }
  | .startOutput => { s.setCall call .assignThread with audioOutput := true }
  | .assignThread => s.assignThread call
  | .join n =>
    match s.feederThread with
    | none => s.setCall call (.stopInput n)
    | some feeder =>
      if feeder ∈ s.feeders then s
      else { s.setCall call (.stopInput n) with feederThread := none }
  | .stopInput n => { s.setCall call (.stopOutput n) with audioInput := false }
  | .stopOutput n => { s.setCall call (.stopped n) with audioOutput := false }
  | .notBegun | .started | .stopped _ => s

/-- `while (feeder_running_.load())`. -/
def feederLoop (s : RingRtcSipBridge ι) (feeder : Nat) : RingRtcSipBridge ι :=
  if s.feederRunning then s else { s with feeders := s.feeders.erase feeder }

/-- `feeder_thread_` is the first member to be destroyed. -/
def destroy (s : RingRtcSipBridge ι) : RingRtcSipBridge ι :=
  { s with destroyed := true, terminated := s.feederThread.isSome }

def step (s : RingRtcSipBridge ι) (e : FeederEvent ι) : RingRtcSipBridge ι :=
  if s.terminated || s.destroyed then s
  else
    match e with
    | .start call => if s.calls call = .notBegun then s.start call else s
    | .stop call => if s.calls call = .notBegun then s.stop call else s
    | .next call => s.next call
    | .feederLoop feeder => s.feederLoop feeder
    | .destroy call => if (s.calls call).stopReturned then s.destroy else s

end RingRtcSipBridge

end Signal2sip.Voip
