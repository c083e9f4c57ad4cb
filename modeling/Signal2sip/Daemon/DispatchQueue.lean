import Signal2sip.Daemon.Setup
import Signal2sip.Lib.Run
import Mathlib.Data.List.Basic
import Mathlib.Logic.Function.Basic

/-!
# The threads of an `EnvelopeDispatchQueue`

Any threads call `push`, one calls `stopAndJoin`, and the worker that `start` created runs the items.
Each call is a sequence of steps, and a step that needs the mutex is taken only when nobody holds it;
what a thread does under the mutex is invisible to the others until it lets go, so it is one step,
with the unlock at its end.

A worker that waits on the condition variable is woken by a `notify_one` or for no reason, and a
`notify_one` that finds it anywhere else does nothing. A woken worker takes the mutex and tests its
predicate again, which is also how an iteration begins: `locking` is both.

`took`, `begun` and `ended` are what has happened so far: the items in the order in which their
pushes took the mutex, and those whose run has begun and has ended; `tookBeforeStop` is `took` as it
was when `stopping` was set.
-/

namespace Signal2sip

/-- How an item ends: it returns, it throws a `std::exception`, or it throws something else. -/
inductive WorkOutcome
  | returned
  | exception (what : String)
  | nonStandard
deriving DecidableEq, Repr

/-- What the worker writes about an item that has ended. -/
def WorkOutcome.report : WorkOutcome → List String
  | .returned => []
  | .exception what => ["[daemon] envelope dispatch: unhandled exception: " ++ what ++ "\n"]
  | .nonStandard => ["[daemon] envelope dispatch: unhandled non-standard exception\n"]

def kJoinTimeout : Nat := 5

/-- What `stopAndJoin` writes when it gives up on the worker. -/
def joinAbandoned : String :=
  "[daemon] envelope dispatch: worker still busy after " ++ toString kJoinTimeout ++
    "s, abandoning join to avoid blocking shutdown\n"

/-- Who holds the mutex. -/
inductive MutexHolder (ι α : Type)
  | push (thread : ι) (work : α)
  | stopAndJoin
  | worker

/-- Where a thread is in its `push`. -/
inductive DispatchPhase (α : Type)
  | idle
  | locked (work : α)
  | unlocked

/-- Where `stopAndJoin` is; `returned` says whether the worker was joined. -/
inductive StopPhase
  | idle
  | locked
  | unlocked
  | joining
  | returned (joined : Bool)

/-- Where the worker is: `testing` is the predicate of the wait, `ready` what follows it. -/
inductive WorkerPhase (α : Type)
  | locking
  | testing
  | waiting
  | ready
  | running (work : α)
  | returned

/-- The item that the worker runs. -/
def WorkerPhase.current {α : Type} : WorkerPhase α → List α
  | .running work => [work]
  | _ => []

/-- Between the lock and the unlock. -/
def WorkerPhase.Locked {α : Type} : WorkerPhase α → Prop
  | .testing => True
  | .ready => True
  | _ => False

/-- The queue and its threads, as `start` leaves them. -/
structure DispatchThreads (ι α : Type) where
  mutex : Option (MutexHolder ι α) := none
  queue : List α := []
  stopping : Bool := false
  pushes : ι → DispatchPhase α := fun _ => .idle
  stopAndJoin : StopPhase := .idle
  worker : WorkerPhase α := .locking
  cerr : List String := []
  took : List α := []
  begun : List α := []
  ended : List (α × WorkOutcome) := []
  tookBeforeStop : Option (List α) := none

namespace DispatchThreads

variable {ι α : Type}

/-- `cv.notify_one`. -/
def notifyOne (s : DispatchThreads ι α) : DispatchThreads ι α :=
  match s.worker with
  | .waiting => { s with worker := .locking }
  | _ => s

/-- The next step of `run`, where it is not inside an item. -/
def workerStep (s : DispatchThreads ι α) : DispatchThreads ι α :=
  match s.worker with
  | .locking =>
    match s.mutex with
    | none => { s with mutex := some .worker, worker := .testing }
    | some _ => s
  | .testing =>
    if s.stopping || !s.queue.isEmpty then { s with worker := .ready }
    else { s with mutex := none, worker := .waiting }
  | .ready =>
    match s.queue with
    | [] =>
      if s.stopping then { s with mutex := none, worker := .returned }
      else { s with mutex := none, worker := .locking }
    | work :: queue =>
      { s with mutex := none, queue := queue, worker := .running work, begun := s.begun ++ [work] }
  | .waiting => s
  | .running _ => s
  | .returned => s

/-- What can happen next. -/
inductive Event (ι α : Type)
  | pushLock (thread : ι) (work : α)
  | pushBack (thread : ι)
  | pushNotify (thread : ι)
  | stopLock
  | stopSet
  | stopNotify
  | joined
  | joinTimeout
  | worker
  | workEnds (outcome : WorkOutcome)
  | spuriousWakeup

variable [DecidableEq ι]

/-- One step; an event whose thread is elsewhere, or that needs a mutex somebody holds, changes
nothing. -/
def step (s : DispatchThreads ι α) : Event ι α → DispatchThreads ι α
  | .pushLock thread work =>
    match s.mutex, s.pushes thread with
    | none, .idle =>
      { s with
        mutex := some (.push thread work)
        pushes := Function.update s.pushes thread (.locked work)
        took := s.took ++ [work] }
    | _, _ => s
  | .pushBack thread =>
    match s.pushes thread with
    | .locked work =>
      { s with
        mutex := none
        queue := s.queue ++ [work]
        pushes := Function.update s.pushes thread .unlocked }
    | _ => s
  | .pushNotify thread =>
    match s.pushes thread with
    | .unlocked => { s.notifyOne with pushes := Function.update s.pushes thread .idle }
    | _ => s
  | .stopLock =>
    match s.mutex, s.stopAndJoin with
    | none, .idle => { s with mutex := some .stopAndJoin, stopAndJoin := .locked }
    | _, _ => s
  | .stopSet =>
    match s.stopAndJoin with
    | .locked =>
      { s with
        mutex := none
        stopping := true
        stopAndJoin := .unlocked
        tookBeforeStop := some s.took }
    | _ => s
  | .stopNotify =>
    match s.stopAndJoin with
    | .unlocked => { s.notifyOne with stopAndJoin := .joining }
    | _ => s
  | .joined =>
    match s.stopAndJoin, s.worker with
    | .joining, .returned => { s with stopAndJoin := .returned true }
    | _, _ => s
  | .joinTimeout =>
    match s.stopAndJoin with
    | .joining => { s with stopAndJoin := .returned false, cerr := s.cerr ++ [joinAbandoned] }
    | _ => s
  | .worker => s.workerStep
  | .workEnds outcome =>
    match s.worker with
    | .running work =>
      { s with
        worker := .locking
        cerr := s.cerr ++ outcome.report
        ended := s.ended ++ [(work, outcome)] }
    | _ => s
  | .spuriousWakeup => s.notifyOne

/-- The item of the push that holds the mutex. -/
def pending (s : DispatchThreads ι α) : List α :=
  match s.mutex with
  | some (.push _ work) => [work]
  | _ => []

/-- Whether `worker_` is still the thread that `start` created. -/
def joinable (s : DispatchThreads ι α) : Bool :=
  match s.stopAndJoin with
  | .joining => false
  | .returned _ => false
  | _ => true

/-- What the rest of the daemon sees of it; `step_refines` says how a step of the threads shows there. -/
def dispatchQueue (s : DispatchThreads ι WorkItem) : EnvelopeDispatchQueue :=
  { state := some s.queue, stopping := s.stopping, joinable := s.joinable }

end DispatchThreads

end Signal2sip
