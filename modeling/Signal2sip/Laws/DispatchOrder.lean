import Signal2sip.Daemon.DispatchQueue
import Signal2sip.Daemon.Push

/-!
# Dispatched items run in the order of their pushes

In every interleaving of pushes, the worker's steps and one `stopAndJoin`, the items run one at a
time, in the order in which their pushes took the mutex, each at most once, and however the ones
before them ended. What was pushed before `stopping` was set has run when the worker exits.

The invariant (`Sound`) splits the items whose pushes took the mutex into those that have begun, the
queue and the one that is not in the queue yet. The worker exits only when it holds the mutex, finds
`stopping` set and the queue empty: then all that came before is among the begun, and none of these
is running. No wake-up is lost: a worker that waits with something to do has a `notify_one` coming,
from a thread that let go of the mutex and has not notified yet.

- `dispatchOrder`: the law, in every state of every run;
- `step_refines`: the daemon's queue is this one, seen without its threads;
- `drains`: once `stopping` is set, the worker's own steps run all that is queued, whatever the items
  do, and end the worker.
-/

namespace Signal2sip.DispatchThreads

variable {ι α : Type} {s : DispatchThreads ι α}

/-! ## `notify_one` -/

@[simp] theorem notifyOne_pushes : s.notifyOne.pushes = s.pushes := by
  unfold notifyOne
  split <;> rfl

@[simp] theorem notifyOne_stopAndJoin : s.notifyOne.stopAndJoin = s.stopAndJoin := by
  unfold notifyOne
  split <;> rfl

theorem notifyOne_worker_ne : s.notifyOne.worker ≠ .waiting := by
  unfold notifyOne
  split
  · exact nofun
  · next h => exact h

/-! ## The queue without its threads -/

/-- What one step may do to the queue that the daemon sees. -/
inductive QueueStep (q : EnvelopeDispatchQueue) : EnvelopeDispatchQueue → Prop
  | stay : QueueStep q q
  | push (work : WorkItem) : QueueStep q (q.push work)
  | pop {work : WorkItem} {queue : List WorkItem} (hstate : q.state = some (work :: queue)) :
    QueueStep q { q with state := some queue }
  | stop : QueueStep q { q with stopping := true }
  | detach : QueueStep q { q with joinable := false }

theorem start_dispatchQueue :
    ({} : DispatchThreads ι WorkItem).dispatchQueue = EnvelopeDispatchQueue.start {} := rfl

theorem notifyOne_dispatchQueue (s : DispatchThreads ι WorkItem) :
    s.notifyOne.dispatchQueue = s.dispatchQueue := by
  unfold notifyOne
  split <;> rfl

theorem workerStep_refines (s : DispatchThreads ι WorkItem) :
    QueueStep s.dispatchQueue s.workerStep.dispatchQueue := by
  unfold workerStep
  cases s.worker with
  | locking => cases s.mutex <;> exact .stay
  | testing =>
    simp only
    split <;> exact .stay
  | ready =>
    simp only
    split
    · split <;> exact .stay
    · next work queue hqueue => exact .pop (congrArg some hqueue)
  | waiting => exact .stay
  | running work => exact .stay
  | returned => exact .stay

/-- A step of the threads is at most one step of the queue. -/
theorem step_refines [DecidableEq ι] (s : DispatchThreads ι WorkItem) (e : Event ι WorkItem) :
    QueueStep s.dispatchQueue (step s e).dispatchQueue := by
  cases e with
  | pushLock thread work =>
    rw [step]
    split <;> exact .stay
  | pushBack thread =>
    rw [step]
    split
    · next work _ => exact .push work
    · exact .stay
  | pushNotify thread =>
    rw [step]
    split
    · rw [← notifyOne_dispatchQueue]
      exact .stay
    · exact .stay
  | stopLock =>
    rw [step]
    split
    · next hidle =>
      rw [dispatchQueue, joinable, hidle]
      exact .stay
    · exact .stay
  | stopSet =>
    rw [step]
    split
    · next hlocked =>
      rw [dispatchQueue, joinable, hlocked]
      exact .stop
    · exact .stay
  | stopNotify =>
    rw [step]
    split
    · rw [← notifyOne_dispatchQueue]
      exact .detach
    · exact .stay
  | joined =>
    rw [step]
    split
    · next hjoining _ =>
      rw [dispatchQueue, joinable, hjoining]
      exact .stay
    · exact .stay
  | joinTimeout =>
    rw [step]
    split
    · next hjoining =>
      rw [dispatchQueue, joinable, hjoining]
      exact .stay
    · exact .stay
  | worker => exact workerStep_refines s
  | workEnds outcome =>
    rw [step]
    split <;> exact .stay
  | spuriousWakeup =>
    rw [step, notifyOne_dispatchQueue]
    exact .stay

/-! ## The invariant -/

/-- The mutex is where the threads say it is, and the items that took it are split in three. -/
structure Sound (s : DispatchThreads ι α) : Prop where
  pushHolds : ∀ thread work,
    s.pushes thread = .locked work ↔ s.mutex = some (.push thread work)
  stopHolds : s.stopAndJoin = .locked ↔ s.mutex = some .stopAndJoin
  workerHolds : s.worker.Locked ↔ s.mutex = some .worker
  took : s.took = s.begun ++ s.queue ++ s.pending
  begun : s.begun = s.ended.map Prod.fst ++ s.worker.current
  notSet : s.stopAndJoin = .idle ∨ s.stopAndJoin = .locked → s.tookBeforeStop = none
  stopping : s.stopping = true → ∃ l, s.tookBeforeStop = some l ∧ l <+: s.begun ++ s.queue
  returned : s.worker = .returned →
    ∃ l, s.tookBeforeStop = some l ∧ l <+: s.ended.map Prod.fst
  waiting : s.worker = .waiting →
    (s.queue = [] ∧ s.stopping = false) ∨
      (∃ thread, s.pushes thread = .unlocked) ∨ s.stopAndJoin = .unlocked

theorem sound_start : Sound ({} : DispatchThreads ι α) where
  pushHolds _ _ := ⟨nofun, nofun⟩
  stopHolds := ⟨nofun, nofun⟩
  workerHolds := ⟨nofun, nofun⟩
  took := rfl
  begun := rfl
  notSet _ := rfl
  stopping := nofun
  returned := nofun
  waiting := nofun

/-- Nobody is between a lock and its unlock while the mutex is free. -/
theorem Sound.free (h : Sound s) (hmutex : s.mutex = none) :
    (∀ thread work, s.pushes thread ≠ .locked work) ∧ s.stopAndJoin ≠ .locked ∧
      ¬ s.worker.Locked := by
  refine ⟨?_, ?_, ?_⟩
  · intro thread work hpush
    rw [h.pushHolds, hmutex] at hpush
    cases hpush
  · intro hstop
    rw [h.stopHolds, hmutex] at hstop
    cases hstop
  · intro hworker
    rw [h.workerHolds, hmutex] at hworker
    cases hworker

/-- Nor is a push or a stop while the worker has it. -/
theorem Sound.held (h : Sound s) (hmutex : s.mutex = some .worker) :
    (∀ thread work, s.pushes thread ≠ .locked work) ∧ s.stopAndJoin ≠ .locked := by
  constructor
  · intro thread work hpush
    rw [h.pushHolds, hmutex] at hpush
    cases hpush
  · intro hstop
    rw [h.stopHolds, hmutex] at hstop
    cases hstop

/-- The worker lets go of the mutex, and goes where it holds none. -/
theorem Sound.release (h : Sound s) (hmutex : s.mutex = some .worker) {worker : WorkerPhase α}
    (hlocked : ¬ worker.Locked) (hcurrent : worker.current = s.worker.current)
    (hreturned : worker = .returned →
      ∃ l, s.tookBeforeStop = some l ∧ l <+: s.ended.map Prod.fst)
    (hwaiting : worker = .waiting → s.queue = [] ∧ s.stopping = false) :
    Sound { s with mutex := none, worker := worker } := by
  obtain ⟨hpush, hstop⟩ := h.held hmutex
  have htook := h.took
  rw [pending, hmutex] at htook
  exact { h with
    pushHolds := fun thread work => ⟨fun hlocked => (hpush thread work hlocked).elim, nofun⟩
    stopHolds := ⟨fun hlocked => (hstop hlocked).elim, nofun⟩
    workerHolds := ⟨fun hworker => (hlocked hworker).elim, nofun⟩
    took := htook
    begun := hcurrent ▸ h.begun
    returned := hreturned
    waiting := fun h' => .inl (hwaiting h') }

/-! ## The worker -/

/-- The worker takes an item out of the queue and runs it. -/
theorem Sound.pop (h : Sound s) (hworker : s.worker = .ready) {work : α} {queue : List α}
    (hqueue : s.queue = work :: queue) :
    Sound { s with
      mutex := none
      queue := queue
      worker := .running work
      begun := s.begun ++ [work] } := by
  have hmutex : s.mutex = some .worker := h.workerHolds.mp (by rw [hworker]; trivial)
  obtain ⟨hpush, hstop⟩ := h.held hmutex
  have hsplit : s.begun ++ s.queue = s.begun ++ [work] ++ queue := by
    rw [hqueue, List.append_assoc, List.singleton_append]
  refine { h with
    pushHolds := fun thread work => ⟨fun hlocked => (hpush thread work hlocked).elim, nofun⟩
    stopHolds := ⟨fun hlocked => (hstop hlocked).elim, nofun⟩
    workerHolds := ⟨nofun, nofun⟩
    took := ?_
    begun := ?_
    stopping := fun hset => ?_
    returned := nofun
    waiting := nofun }
  · have htook := h.took
    rw [pending, hmutex, hsplit] at htook
    exact htook
  · have hbegun := h.begun
    rw [hworker] at hbegun
    show s.begun ++ [work] = s.ended.map Prod.fst ++ [work]
    rw [hbegun]
    simp [WorkerPhase.current]
  · obtain ⟨l, hl, hprefix⟩ := h.stopping hset
    rw [hsplit] at hprefix
    exact ⟨l, hl, hprefix⟩

/-- A wake-up takes nothing away. -/
theorem sound_notifyOne (h : Sound s) : Sound s.notifyOne := by
  unfold notifyOne
  split
  · next hworker =>
    have hworkerHolds := h.workerHolds
    have hbegun := h.begun
    rw [hworker] at hworkerHolds hbegun
    exact { h with workerHolds := hworkerHolds, begun := hbegun, returned := nofun, waiting := nofun }
  · exact h

/-- One phase of the worker after the other. It waits only with nothing to do, and it exits only with
nothing queued and nothing running. -/
theorem sound_workerStep (h : Sound s) : Sound s.workerStep := by
  have hworkerHolds := h.workerHolds
  have hbegun := h.begun
  unfold workerStep
  cases hworker : s.worker with
  | locking =>
    rw [hworker] at hbegun
    cases hmutex : s.mutex with
    | none =>
      obtain ⟨hpush, hstop, -⟩ := h.free hmutex
      have htook := h.took
      rw [pending, hmutex] at htook
      exact { h with
        pushHolds := fun thread work => ⟨fun hlocked => (hpush thread work hlocked).elim, nofun⟩
        stopHolds := ⟨fun hlocked => (hstop hlocked).elim, nofun⟩
        workerHolds := ⟨fun _ => rfl, fun _ => trivial⟩
        took := htook
        begun := hbegun
        returned := nofun
        waiting := nofun }
    | some holder => exact h
  | testing =>
    rw [hworker] at hworkerHolds hbegun
    have hmutex := hworkerHolds.mp trivial
    simp only
    split
    · exact { h with
        workerHolds := ⟨fun _ => hmutex, fun _ => trivial⟩
        begun := hbegun
        returned := nofun
        waiting := nofun }
    · next htest =>
      have hnothing : s.queue = [] ∧ s.stopping = false := by
        simpa [and_comm] using htest
      exact h.release hmutex id (by rw [hworker]; rfl) nofun fun _ => hnothing
  | ready =>
    rw [hworker] at hworkerHolds hbegun
    have hmutex := hworkerHolds.mp trivial
    simp only
    split
    · next hqueue =>
      split
      · next hset =>
        obtain ⟨l, hl, hprefix⟩ := h.stopping hset
        rw [hqueue, hbegun] at hprefix
        simp only [WorkerPhase.current, List.append_nil] at hprefix
        exact h.release hmutex id (by rw [hworker]; rfl) (fun _ => ⟨l, hl, hprefix⟩) nofun
      · exact h.release hmutex id (by rw [hworker]; rfl) nofun nofun
    · next hqueue => exact h.pop hworker hqueue
  | waiting => exact h
  | running work => exact h
  | returned => exact h

/-! ## One step -/

/-- The join says only how `stopAndJoin` returns. -/
theorem Sound.join (h : Sound s) (hjoining : s.stopAndJoin = .joining) (joined : Bool)
    (cerr : List String) :
    Sound { s with stopAndJoin := .returned joined, cerr := cerr } := by
  have hstop := h.stopHolds
  rw [hjoining] at hstop
  refine { h with
    stopHolds := ⟨nofun, fun hholder => ?_⟩
    notSet := nofun
    waiting := fun hwaiting => ?_ }
  · cases hstop.mpr hholder
  · have hnotify := h.waiting hwaiting
    rw [hjoining] at hnotify
    exact hnotify.imp_right fun hcoming => .inl (hcoming.resolve_right nofun)

variable [DecidableEq ι]

/-- The mutex goes to a push; the item is the last one that took it. -/
theorem sound_pushLock (h : Sound s) (thread : ι) (work : α) :
    Sound (step s (.pushLock thread work)) := by
  rw [step]
  split
  · next hmutex hidle =>
    obtain ⟨hpush, hstop, hworker⟩ := h.free hmutex
    refine { h with
      pushHolds := fun other work' => ?_
      stopHolds := ⟨fun hlocked => (hstop hlocked).elim, nofun⟩
      workerHolds := ⟨fun hlocked => (hworker hlocked).elim, nofun⟩
      took := ?_
      waiting := fun hwaiting => ?_ }
    · show Function.update s.pushes thread (.locked work) other = .locked work' ↔ _
      by_cases hother : other = thread
      · subst hother
        simp
      · rw [Function.update_of_ne hother]
        refine ⟨fun hlocked => (hpush other work' hlocked).elim, fun hholder => ?_⟩
        cases hholder
        exact (hother rfl).elim
    · have htook := h.took
      rw [pending, hmutex, List.append_nil] at htook
      rw [htook]
      rfl
    · refine (h.waiting hwaiting).imp_right fun hnotify => hnotify.imp_left ?_
      rintro ⟨other, hother⟩
      have hne : other ≠ thread := by
        rintro rfl
        rw [hidle] at hother
        cases hother
      exact ⟨other, (Function.update_of_ne hne ..).trans hother⟩
  · exact h

/-- The item goes from the push that holds the mutex to the back of the queue. -/
theorem sound_pushBack (h : Sound s) (thread : ι) : Sound (step s (.pushBack thread)) := by
  rw [step]
  split
  · next work hlocked =>
    have hmutex := (h.pushHolds thread work).mp hlocked
    have hbefore : s.begun ++ s.queue <+: s.begun ++ (s.queue ++ [work]) := by
      rw [← List.append_assoc]
      exact List.prefix_append _ _
    refine { h with
      pushHolds := fun other work' => ⟨fun hother => ?_, nofun⟩
      stopHolds := ⟨fun hstop => ?_, nofun⟩
      workerHolds := ⟨fun hworker => ?_, nofun⟩
      took := ?_
      stopping := fun hset => ?_
      waiting := fun _ => .inr (.inl ⟨thread, Function.update_self ..⟩) }
    · change Function.update s.pushes thread .unlocked other = .locked work' at hother
      by_cases heq : other = thread
      · subst heq
        rw [Function.update_self] at hother
        cases hother
      · rw [Function.update_of_ne heq, h.pushHolds, hmutex] at hother
        cases hother
        exact (heq rfl).elim
    · rw [h.stopHolds, hmutex] at hstop
      cases hstop
    · rw [h.workerHolds, hmutex] at hworker
      cases hworker
    · have htook := h.took
      rw [pending, hmutex] at htook
      rw [htook, pending, List.append_nil, List.append_assoc]
    · obtain ⟨l, hl, hprefix⟩ := h.stopping hset
      exact ⟨l, hl, hprefix.trans hbefore⟩
  · exact h

/-- After a `notify_one` nobody waits, so no other one needs to come. -/
theorem sound_pushNotify (h : Sound s) (thread : ι) : Sound (step s (.pushNotify thread)) := by
  rw [step]
  split
  · next hunlocked =>
    have hnotified := sound_notifyOne h
    refine { hnotified with
      pushHolds := fun other work' => ?_
      waiting := fun hwaiting => (notifyOne_worker_ne hwaiting).elim }
    show Function.update s.pushes thread .idle other = .locked work' ↔ _
    rw [← hnotified.pushHolds, notifyOne_pushes]
    by_cases heq : other = thread
    · subst heq
      rw [Function.update_self, hunlocked]
      exact ⟨nofun, nofun⟩
    · rw [Function.update_of_ne heq]
  · exact h

theorem sound_stopLock (h : Sound s) : Sound (step s .stopLock) := by
  rw [step]
  split
  · next hmutex hidle =>
    obtain ⟨hpush, -, hworker⟩ := h.free hmutex
    have htook := h.took
    rw [pending, hmutex] at htook
    refine { h with
      pushHolds := fun other work' => ⟨fun hlocked => (hpush other work' hlocked).elim, nofun⟩
      stopHolds := ⟨fun _ => rfl, fun _ => rfl⟩
      workerHolds := ⟨fun hlocked => (hworker hlocked).elim, nofun⟩
      took := htook
      notSet := fun _ => h.notSet (.inl hidle)
      waiting := fun hwaiting => ?_ }
    have hnotify := h.waiting hwaiting
    rw [hidle] at hnotify
    exact hnotify.imp_right fun hcoming => .inl (hcoming.resolve_right nofun)
  · exact h

/-- Under the mutex no push is halfway: all that took it have begun or are queued. -/
theorem sound_stopSet (h : Sound s) : Sound (step s .stopSet) := by
  rw [step]
  split
  · next hlocked =>
    have hmutex := h.stopHolds.mp hlocked
    have htook := h.took
    rw [pending, hmutex] at htook
    refine { h with
      pushHolds := fun other work' => ⟨fun hother => ?_, nofun⟩
      stopHolds := ⟨nofun, nofun⟩
      workerHolds := ⟨fun hworker => ?_, nofun⟩
      took := htook
      notSet := nofun
      stopping := fun _ => ⟨s.took, rfl, ?_⟩
      returned := fun hreturned => ?_
      waiting := fun _ => .inr (.inr rfl) }
    · rw [h.pushHolds, hmutex] at hother
      cases hother
    · rw [h.workerHolds, hmutex] at hworker
      cases hworker
    · have hall : s.took = s.begun ++ s.queue := htook.trans (List.append_nil _)
      exact ⟨[], (List.append_nil _).trans hall⟩
    · -- the worker has not exited, since `stopping` was not set before
      obtain ⟨l, hl, -⟩ := h.returned hreturned
      rw [h.notSet (.inr hlocked)] at hl
      cases hl
  · exact h

theorem sound_stopNotify (h : Sound s) : Sound (step s .stopNotify) := by
  rw [step]
  split
  · next hunlocked =>
    have hnotified := sound_notifyOne h
    refine { hnotified with
      stopHolds := ?_
      notSet := nofun
      waiting := fun hwaiting => (notifyOne_worker_ne hwaiting).elim }
    rw [← hnotified.stopHolds, notifyOne_stopAndJoin, hunlocked]
    exact ⟨nofun, nofun⟩
  · exact h

theorem sound_joined (h : Sound s) : Sound (step s .joined) := by
  rw [step]
  split
  · next hjoining _ => exact h.join hjoining true s.cerr
  · exact h

theorem sound_joinTimeout (h : Sound s) : Sound (step s .joinTimeout) := by
  rw [step]
  split
  · next hjoining => exact h.join hjoining false _
  · exact h

/-- However an item ends, the worker goes on with the next one. -/
theorem sound_workEnds (h : Sound s) (outcome : WorkOutcome) : Sound (step s (.workEnds outcome)) := by
  rw [step]
  split
  · next work hworker =>
    have hworkerHolds := h.workerHolds
    have hbegun := h.begun
    rw [hworker] at hworkerHolds hbegun
    refine { h with
      workerHolds := hworkerHolds
      begun := ?_
      returned := nofun
      waiting := nofun }
    rw [hbegun]
    simp [WorkerPhase.current]
  · exact h

theorem sound_step (h : Sound s) (e : Event ι α) : Sound (step s e) := by
  cases e with
  | pushLock thread work => exact sound_pushLock h thread work
  | pushBack thread => exact sound_pushBack h thread
  | pushNotify thread => exact sound_pushNotify h thread
  | stopLock => exact sound_stopLock h
  | stopSet => exact sound_stopSet h
  | stopNotify => exact sound_stopNotify h
  | joined => exact sound_joined h
  | joinTimeout => exact sound_joinTimeout h
  | worker => exact sound_workerStep h
  | workEnds outcome => exact sound_workEnds h outcome
  | spuriousWakeup => exact sound_notifyOne h

/-! ## The law -/

/-- In every state of every run: what has begun is the first of what was pushed, in the order of the
pushes' locks; all of it has ended but for the one item that runs; when the worker has exited, all
that was pushed before `stopping` was set has ended; and while the worker waits, either there is
nothing to do or a `notify_one` is still to come. That a stopped worker gets there is `drains`. -/
theorem dispatchOrder (events : List (Event ι α)) :
    Runs.Always step (fun s =>
        s.begun <+: s.took ∧
        s.begun = s.ended.map Prod.fst ++ s.worker.current ∧
        (s.worker = .returned →
          ∃ before, s.tookBeforeStop = some before ∧ before <+: s.ended.map Prod.fst) ∧
        (s.worker = .waiting →
          (s.queue = [] ∧ s.stopping = false) ∨
            (∃ thread, s.pushes thread = .unlocked) ∨ s.stopAndJoin = .unlocked))
      ({} : DispatchThreads ι α) events := by
  have hsound : Runs.Always step Sound ({} : DispatchThreads ι α) events :=
    .of_keep (fun s e h => sound_step h e) sound_start
  refine hsound.imp fun s h => ⟨?_, h.begun, h.returned, h.waiting⟩
  rw [h.took, List.append_assoc]
  exact List.prefix_append _ _

/-! ## Draining -/

/-- The worker's steps over a queue whose items end in these ways, and its exit. -/
def drain : List WorkOutcome → List (Event ι α)
  | [] => [.worker, .worker, .worker]
  | outcome :: outcomes => .worker :: .worker :: .worker :: .workEnds outcome :: drain outcomes

/-- With `stopping` set and the mutex free, the worker runs what is queued to its last item and
exits. -/
theorem drains (outcomes : List WorkOutcome) (hworker : s.worker = .locking)
    (hmutex : s.mutex = none) (hstopping : s.stopping = true)
    (hlength : s.queue.length = outcomes.length) :
    (Runs.final step s (drain outcomes)).worker = .returned ∧
      (Runs.final step s (drain outcomes)).ended = s.ended ++ s.queue.zip outcomes := by
  induction outcomes generalizing s with
  | nil =>
    have hqueue : s.queue = [] := List.length_eq_zero_iff.mp hlength
    simp [drain, step, workerStep, hworker, hmutex, hstopping, hqueue]
  | cons outcome outcomes ih =>
    obtain ⟨work, queue, hqueue⟩ := List.exists_cons_of_length_eq_add_one hlength
    rw [hqueue] at hlength ⊢
    have hturn : Runs.final step s [.worker, .worker, .worker, .workEnds outcome] =
        { s with
          mutex := none
          queue := queue
          worker := .locking
          begun := s.begun ++ [work]
          cerr := s.cerr ++ outcome.report
          ended := s.ended ++ [(work, outcome)] } := by
      simp [step, workerStep, hworker, hmutex, hstopping, hqueue]
    have hrest : Runs.final step s (drain (outcome :: outcomes)) =
        Runs.final step (Runs.final step s [.worker, .worker, .worker, .workEnds outcome])
          (drain outcomes) := rfl
    have hzip : s.ended ++ (work :: queue).zip (outcome :: outcomes) =
        s.ended ++ [(work, outcome)] ++ queue.zip outcomes := by
      rw [List.zip_cons_cons, List.append_assoc, List.singleton_append]
    rw [hrest, hturn, hzip]
    refine ih ?_ ?_ ?_ ?_
    · rfl
    · rfl
    · exact hstopping
    · exact Nat.succ.inj hlength

/-- The second push comes while the worker waits; the first item throws, and the worker still runs
the second one before it exits. -/
example :
    let push (thread : Nat) (work : String) : List (Event Nat String) :=
      [.pushLock thread work, .pushBack thread, .pushNotify thread]
    let events : List (Event Nat String) :=
      push 1 "offer" ++ List.replicate 3 .worker ++ [.workEnds (.exception "no call")] ++
        [.worker, .worker] ++ push 2 "ice" ++ [.stopLock, .stopSet, .stopNotify] ++
        drain [.returned] ++ [.joined]
    (Runs.final step {} events).ended = [("offer", .exception "no call"), ("ice", .returned)] := by
  rfl

end Signal2sip.DispatchThreads
