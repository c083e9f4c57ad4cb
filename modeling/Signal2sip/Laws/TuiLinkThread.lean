import Signal2sip.Laws.TuiLinkInvariant

/-!
# Linking in the background

What holds of every interleaving of the main thread, the link thread and its child:

- `linkResult_complete`: the result that the wizard shows is all that the child wrote and how it ended;
- `linkThread_safe`: no thread is replaced or left behind, SIGTERM goes to the thread's own child, a
  holder of the mutex never waits for the other thread to take it, and what is drawn meanwhile is the
  beginning of what the child has written;
- `linkResult_reached`: when the thread is done, the two threads come to the result by themselves.

A wake-up that is still in the queue when the result is shown is an event like any other, and dismisses
it; nothing is claimed about how long the result stays.
-/

namespace Signal2sip.Tui

namespace LinkSystem

open Runs (final Always)

variable {m : Setting} {a : Answers} {o : OsAnswers} {s : LinkSystem} {t : LinkStep}

theorem inv_always (m : Setting) (a : Answers) (moves : List Move) :
    Always (step m) (Inv m) (start a) moves :=
  Always.of_keep inv_step (inv_start a)

theorem not_atResult_of_waiting (hwaiting : s.ui.waiting = true) : ¬ s.ui.AtResult := by
  intro hresult
  exact absurd (hresult.2.symm.trans (Ui.waiting_iff.mp hwaiting).2) (by simp)

/-! ## The result -/

/-- The wizard shows the result of the thread that it waited for, which has been joined. -/
structure ShowsComplete (m : Setting) (s : LinkSystem) (r : GendbResult) : Prop where
  shown : s.ui.wizResult = some r
  joined : s.linkThread = none
  name : s.linkName = s.ui.wizName
  complete : Complete m s r

/-- **The result of linking.** In every state of every interleaving, when the wizard shows a result, the
link thread has been joined, and the result is its: either `pipe` or `fork` failed, or it is what the
child for that account wrote. Unless a `read` or the `waitpid` failed, it is everything that the child
wrote, with the exit code that the child ended with. -/
theorem linkResult_complete (m : Setting) (a : Answers) (moves : List Move) :
    Always (step m) (fun s => s.ui.AtResult → ∃ r, ShowsComplete m s r) (start a) moves := by
  refine (inv_always m a moves).imp fun s hinv hresult => ?_
  obtain ⟨hname, r, hr, hcomplete⟩ := hinv.result hresult.1 hresult.2
  refine ⟨r, hr, ?_, hname, hcomplete⟩
  obtain hnone | ⟨t, hthread⟩ := s.linkThread.eq_none_or_eq_some
  · exact hnone
  · exact absurd hresult (not_atResult_of_waiting (hinv.attached t hthread).waiting)

/-- The keys that link an account, the steps of the thread, and what the child says. -/
def linkedRun (a : Answers) : List Move :=
  [.key (.char 'n'), .key (.char 'b'), .key .tab, .key .enter, .key .ctrlO] ++
    List.replicate 5 (.main a) ++ List.replicate 3 (.link {}) ++ [.childWrites "QR", .link {}, .link {},
      .link {}, .childEnds (.exited 0)] ++ List.replicate 5 (.link {}) ++ List.replicate 3 (.main a)

example :
    let a : Answers := ⟨.ok [], fun _ => .error ⟨"no row"⟩, fun _ => { exitCode := 0 }, none⟩
    (final (step ⟨"", fun _ => ""⟩) (start a) (linkedRun a)).ui.wizResult =
      some { exitCode := 0, output := "QR" } := by
  decide

/-! ## The two threads -/

/-- What never goes wrong between the two threads. -/
structure Safe (s : LinkSystem) : Prop where
  /-- No thread is started while another one is joinable. -/
  fresh : ∀ name, s.main ≠ .join (.restart name)
  /-- `main` returns without a thread that could be joined. -/
  returned : s.main = .returned → s.linkThread = none
  /-- There is a thread only while the wizard waits. -/
  waiting : s.linkThread.isSome = true → s.ui.waiting = true
  /-- SIGTERM goes to the child that the thread forked. -/
  killed : ∀ pid exiting, s.main = .kill (some pid) exiting → ∃ c, s.child = some c ∧ c.pid = pid
  /-- The main thread holds the mutex only for a thread that takes it no more. -/
  mainHolds : s.linkMutex = some .main →
    s.linkThread = some .postDone ∨ s.linkThread = some .finished
  /-- The link thread holds the mutex only for steps that wait for nobody. -/
  linkHolds : s.linkMutex = some .link →
    s.linkThread = some .failPost ∨ s.linkThread = some .failUnlock
  /-- The event loop does not sleep over the end of the thread. -/
  wakeUp : s.linkThread = some .finished → s.main = .idle → .custom ∈ s.queue
  /-- What is drawn while the wizard waits is the beginning of what the child has written. -/
  drawn : s.ui.waiting = true → s.main = .idle →
    (s.child = none ∧ s.linkOutput ∈ ["", "pipe() failed", "fork() failed"]) ∨
    ∃ c rest, s.child = some c ∧ c.written = s.linkOutput ++ rest

theorem Detached.safe (h : Detached s) (hthread : s.linkThread = none) : Safe s where
  fresh name hmain := by obtain ⟨hidle, -⟩ | hreturned := h.main <;> simp_all
  returned _ := hthread
  waiting hsome := by simp [hthread] at hsome
  killed pid exiting hmain := by obtain ⟨hidle, -⟩ | hreturned := h.main <;> simp_all
  mainHolds hmutex := by simp [h.mutex] at hmutex
  linkHolds hmutex := by simp [h.mutex] at hmutex
  wakeUp hfinished := by simp [hthread] at hfinished
  drawn hwaiting hidle := by obtain ⟨-, hnot⟩ | hreturned := h.main <;> simp_all

theorem LinkStep.holds_iff : t.holds = true ↔ t = .failPost ∨ t = .failUnlock := by
  cases t <;> simp [LinkStep.holds]

theorem Attached.safe (h : Attached m s t) (hthread : s.linkThread = some t) : Safe s where
  fresh name hmain := by
    have hknows := h.main
    rw [hmain] at hknows
    exact hknows
  returned hmain := by
    have hknows := h.main
    rw [hmain] at hknows
    exact hknows.elim
  waiting _ := h.waiting
  killed pid exiting hmain := by
    have hknows := h.main
    rw [hmain] at hknows
    exact hknows pid rfl
  mainHolds hmutex := by
    have hlink : ¬ t.holds = true := by
      intro hholds
      rw [h.mutex, owner, if_pos hholds] at hmutex
      cases hmutex
    have hmain : s.main.holds = true := by
      by_contra hholds
      rw [h.mutex, owner, if_neg hlink, if_neg hholds] at hmutex
      cases hmutex
    obtain ⟨hdone, hnot⟩ := h.main.of_holds hmain
    cases t with
    | postDone => exact .inl hthread
    | finished => exact .inr hthread
    | failPost | failUnlock => cases hnot
    | pipe | fork | fail _ | publish | read | append _ | post | wait | store _ | setDone => cases hdone
  linkHolds hmutex := by
    have hlink : t.holds = true := by
      by_contra hholds
      rw [h.mutex, owner, if_neg hholds] at hmutex
      split at hmutex <;> cases hmutex
    obtain rfl | rfl := LinkStep.holds_iff.mp hlink
    · exact .inl hthread
    · exact .inr hthread
  wakeUp hfinished hidle := by
    obtain rfl : t = .finished := Option.some.inj (hthread.symm.trans hfinished)
    have hknows := h.main
    rw [hidle] at hknows
    exact hknows rfl
  drawn _ _ := by
    obtain ⟨hchild, houtput⟩ | ⟨c, rest, hc, hwritten⟩ := h.collected.drawn
    · exact .inl ⟨hchild, by simpa using houtput⟩
    · exact .inr ⟨c, rest, hc.1, hwritten⟩

/-- A thread that is done finishes in two steps of its own, which nothing holds up. -/
theorem finishes (o : OsAnswers) (hthread : s.linkThread = some t) (hdone : t.isDone = true) :
    (linkMove m o (linkMove m o s)).linkThread = some .finished ∧
      (linkMove m o (linkMove m o s)).main = s.main ∧
      ∀ e ∈ (linkMove m o (linkMove m o s)).queue, e ∈ s.queue ∨ e = .custom := by
  cases t with
  | failPost | postDone => simp [linkMove, hthread]
  | failUnlock | finished => simp +contextual [linkMove, hthread]
  | pipe | fork | fail _ | publish | read | append _ | post | wait | store _ | setDone => cases hdone

/-- Three steps of the main thread take the wake-up of a finished thread, lock the mutex, and join. -/
theorem takes_wakeUp (a : Answers) {queue : List Event} (h : Attached m s .finished)
    (hthread : s.linkThread = some .finished) (hmain : s.main = .idle)
    (hqueue : s.queue = .custom :: queue) :
    (final (step m) s (List.replicate 3 (.main a))).ui.AtResult := by
  have hdone : s.linkDone = true := h.done
  have hmutex : s.linkMutex = none := by
    rw [h.mutex, hmain]
    rfl
  obtain ⟨hscreen, hstep⟩ := Ui.waiting_iff.mp h.waiting
  simp only [List.replicate, Runs.final_cons, Runs.final_nil, step, mainMove, hmain, hqueue, takeEvent,
    if_pos h.waiting, if_pos hdone, hmutex, if_true, hthread, or_true, joined, Ui.handle_wakeUp h.waiting]
  exact ⟨hscreen, rfl⟩

/-- Once the thread has finished, the main thread comes to the result over its queue. -/
theorem takes_result (a : Answers) (h : Inv m s) (hthread : s.linkThread = some .finished)
    (hmain : s.main = .idle) (hescape : .escape ∉ s.queue) :
    ∃ n, (final (step m) s (List.replicate n (.main a))).ui.AtResult := by
  induction hqueue : s.queue generalizing s with
  | nil =>
    have hwake := ((h.attached _ hthread).safe hthread).wakeUp hthread hmain
    simp [hqueue] at hwake
  | cons e queue ih =>
    have hattached := h.attached _ hthread
    by_cases hcustom : e = .custom
    · exact ⟨3, takes_wakeUp a hattached hthread hmain (hcustom ▸ hqueue)⟩
    · have hnot : e ≠ .escape := fun h => hescape (by simp [hqueue, h])
      have hskip : (mainMove m a s).linkThread = some .finished ∧ (mainMove m a s).main = .idle ∧
          (mainMove m a s).queue = queue := by
        simp [mainMove, hmain, hqueue, takeEvent, hattached.waiting, hthread]
      have hlater : .escape ∉ (mainMove m a s).queue := by
        rw [hskip.2.2]
        exact fun h => hescape (by simp [hqueue, h])
      obtain ⟨n, hn⟩ := ih (inv_mainMove (a := a) h) hskip.1 hskip.2.1 hlater hskip.2.2
      exact ⟨n + 1, hn⟩

/-- **The result is reached.** In every interleaving, when the link thread has set `linkDone` while the
event loop is running and Escape has not been pressed, two steps of the link thread and some of the main
thread lead to the result. Neither the child nor a key is needed. -/
theorem linkResult_reached (m : Setting) (a a' : Answers) (moves : List Move) (o : OsAnswers) :
    Always (step m) (fun s => s.linkDone = true → s.ui.waiting = true → s.main = .idle →
      .escape ∉ s.queue →
      ∃ n, (final (step m) s ([.link o, .link o] ++ List.replicate n (.main a'))).ui.AtResult)
      (start a) moves := by
  refine (inv_always m a moves).imp fun s hinv hdone hwaiting hidle hescape => ?_
  obtain hnone | ⟨t, hthread⟩ := s.linkThread.eq_none_or_eq_some
  · obtain ⟨-, hnot⟩ | hreturned := (hinv.detached hnone).main <;> simp_all
  have hattached := hinv.attached t hthread
  obtain ⟨hfinished, hmain, hqueue⟩ := finishes (m := m) o hthread (hattached.done.symm.trans hdone)
  have hlater : .escape ∉ (linkMove m o (linkMove m o s)).queue := by
    intro hmem
    obtain h | h := hqueue _ hmem
    · exact hescape h
    · cases h
  exact takes_result a' (inv_linkMove (inv_linkMove hinv)) hfinished (hmain.trans hidle) hlater

end LinkSystem

end Signal2sip.Tui
