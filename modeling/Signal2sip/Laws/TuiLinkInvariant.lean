import Signal2sip.Laws.TuiScreens
import Signal2sip.Lib.Run
import Signal2sip.Tui.LinkThread

/-!
# The invariant of linking in the background

The invariant goes by where the link thread is. Without a thread (`Detached`) nobody waits for one. With
a thread (`Attached`) the wizard is waiting, what the thread has collected is what its child has written
up to what is in the pipe (`Collected`), and what the main thread is doing fits where the thread is
(`MainKnows`): it waits in a join with the mutex in its hand only for a thread that takes the mutex no
more, and sleeps over an empty queue only before the thread's last wake-up.

`inv_step` is the step lemma, party by party.
-/

namespace Signal2sip.Tui

namespace LinkStep

/-- The thread has set `linkDone`. -/
def isDone : LinkStep → Bool
  | .failPost | .failUnlock | .postDone | .finished => true
  | _ => false

/-- The thread holds the mutex. -/
def holds : LinkStep → Bool
  | .failPost | .failUnlock => true
  | _ => false

/-- The thread has posted its last wake-up. -/
def woken : LinkStep → Bool
  | .failUnlock | .finished => true
  | _ => false

theorem isDone_of_holds {t : LinkStep} (h : t.holds = true) : t.isDone = true := by
  cases t <;> first | rfl | cases h

theorem isDone_of_woken {t : LinkStep} (h : t.woken = true) : t.isDone = true := by
  cases t <;> first | rfl | cases h

end LinkStep

/-- The main thread holds the mutex. -/
def MainStep.holds : MainStep → Bool
  | .join (.taken _) => true
  | _ => false

/-! ## The handler and the wait -/

namespace Ui

variable {m : Setting} {a : Answers} {s : Ui} {e : Event}

theorem waiting_iff : s.waiting = true ↔ s.screenIndex = .wizard ∧ s.wizardStep = .linkWaiting := by
  simp [waiting]

/-- The result of linking is on the screen. -/
def AtResult (s : Ui) : Prop := s.screenIndex = .wizard ∧ s.wizardStep = .linkResult

/-- An event that is handled outside of the wait starts the link thread and the wait with it, or leads
to neither of them. -/
theorem handle_outside (hwaiting : s.waiting = false) :
    ((s.handle m a e).1.waiting = true ∧
      (s.handle m a e).2 = [.startLinkThread (s.handle m a e).1.wizName]) ∨
    ((s.handle m a e).1.waiting = false ∧ ¬ (s.handle m a e).1.AtResult ∧
      ∀ name, .startLinkThread name ∉ (s.handle m a e).2) := by
  by_cases hscreen : s.screenIndex = .wizard
  · have hstep : s.wizardStep ≠ .linkWaiting := by
      intro h
      rw [waiting_iff.mpr ⟨hscreen, h⟩] at hwaiting
      cases hwaiting
    rw [handle, hscreen]
    by_cases hresult : s.wizardStep = .linkResult
    · have hleft : s.handleWizard m a e = (reload a { s with screenIndex := .list }, []) := by
        simp [handleWizard, hresult]
      exact .inr (by simp [hleft, waiting, AtResult])
    obtain ⟨hleft, hnone | ⟨h, -⟩⟩ | ⟨hsame, hturn⟩ := handleWizard_move m a s e hscreen
    · exact .inr (by simp [hleft, hnone, waiting, AtResult])
    · exact absurd h hstep
    · have hwizName := hsame.wizName
      have hshown := hsame.screenIndex
      generalize hnext : (s.handleWizard m a e).1.wizardStep = next at hturn hwizName
      generalize (s.handleWizard m a e).2 = effects at hturn ⊢
      cases hturn with
      | linked _ _ _ =>
        exact .inl ⟨waiting_iff.mpr ⟨hshown, hnext⟩, by rw [hwizName (by simp)]⟩
      | scanned h => exact absurd h hstep
      | stay => exact .inr (by simp [waiting, AtResult, hnext, hstep, hresult])
      | named _ _ _ | registered _ _ | toCaptcha _ | captcha _ | toVerify _ | verified _ =>
        exact .inr (by simp [waiting, AtResult, hnext])
  · refine .inr ?_
    have hnone : ∀ name, .startLinkThread name ∉ s.effects m (e, a) := by
      intro name hstart
      by_cases hconfirm : s.screenIndex = .confirm
      · obtain ⟨-, -, argv, -, heq⟩ := (mem_effects_confirm hconfirm).mp hstart
        cases heq
      · cases issued hconfirm hstart with
        | link h _ _ => exact hscreen h
    have hmoved := moved m s (e, a)
    have hnot : (s.step m (e, a)).screenIndex = .wizard →
        (s.step m (e, a)).wizardStep = .chooseType := by
      generalize s.step m (e, a) = s' at hmoved
      intro hafter
      cases hmoved with
      | wizard _ => rfl
      | opened _ _ hne => simp [openDetail, hne] at hafter
      | asked _ _ | config _ | signalConfig _ => cases hafter
      | back _ h => simp [hafter] at h
      | same _ h => exact absurd (h.symm.trans hafter) hscreen
    refine ⟨?_, fun hresult => ?_, hnone⟩
    · by_contra hw
      obtain ⟨hafter, hlink⟩ := waiting_iff.mp (by simpa using hw)
      exact absurd ((hnot hafter).symm.trans hlink) (by simp)
    · exact absurd ((hnot hresult.1).symm.trans hresult.2) (by simp)

theorem handle_wakeUp (hwaiting : s.waiting = true) (result : GendbResult) :
    s.handle m { a with link := some result } .custom =
      ({ s with wizResult := some result, wizardStep := .linkResult }, [.joinLinkThread]) := by
  obtain ⟨hscreen, hstep⟩ := waiting_iff.mp hwaiting
  simp only [handle, hscreen, handleWizard, if_pos hstep, handleLinkWaiting]

theorem handle_cancel (hwaiting : s.waiting = true) :
    s.handle m a .escape = (reload a { s with screenIndex := .list }, [.cancelLinkThread]) := by
  obtain ⟨hscreen, hstep⟩ := waiting_iff.mp hwaiting
  simp only [handle, hscreen, handleWizard, if_pos hstep, handleLinkWaiting]

end Ui

namespace LinkSystem

variable {m : Setting} {a : Answers} {o : OsAnswers} {s s' : LinkSystem} {t t' : LinkStep}

/-! ## What has been collected -/

/-- The thread ended before it had a child. -/
def Failed (s : LinkSystem) (r : GendbResult) : Prop :=
  s.child = none ∧ r.exitCode = -1 ∧ (r.output = "pipe() failed" ∨ r.output = "fork() failed")

/-- The child's own arguments. -/
def IsChild (m : Setting) (s : LinkSystem) (c : Child) : Prop :=
  s.child = some c ∧ c.argv = linkArgv m s.linkName

/-- A result of the child: what it wrote up to what is in the pipe; and unless a `read` or the `waitpid`
failed, nothing is in the pipe, and the child has ended with the exit code. -/
def Ended (m : Setting) (s : LinkSystem) (r : GendbResult) : Prop :=
  ∃ c, IsChild m s c ∧ c.written = r.output ++ c.unread ∧
    (s.interrupted = false → c.unread = "" ∧ ∃ how, c.ended = some how ∧ r.exitCode = how.exitCode)

/-- All that there is to say of a thread that is done. -/
def Complete (m : Setting) (s : LinkSystem) (r : GendbResult) : Prop := Failed s r ∨ Ended m s r

/-- What `linkOutput` and `linkExitCode` have of the child while the thread is at a step. -/
def Collected (m : Setting) (s : LinkSystem) : LinkStep → Prop
  | .pipe | .fork => s.child = none ∧ s.linkOutput = "" ∧ s.linkExitCode = -1
  | .fail message => s.child = none ∧ s.linkOutput = "" ∧ s.linkExitCode = -1 ∧
    (message = "pipe() failed" ∨ message = "fork() failed")
  | .failPost | .failUnlock => Failed s { exitCode := s.linkExitCode, output := s.linkOutput }
  | .publish | .read | .post => ∃ c, IsChild m s c ∧ c.written = s.linkOutput ++ c.unread
  | .append chunk => ∃ c, IsChild m s c ∧ c.written = s.linkOutput ++ (chunk ++ c.unread)
  | .wait => ∃ c, IsChild m s c ∧ c.written = s.linkOutput ++ c.unread ∧
    (s.interrupted = false → c.unread = "" ∧ c.ended.isSome = true)
  | .store exitCode => Ended m s { exitCode, output := s.linkOutput }
  | .setDone | .postDone => Ended m s { exitCode := s.linkExitCode, output := s.linkOutput }
  | .finished => Complete m s { exitCode := s.linkExitCode, output := s.linkOutput }

/-! ## The invariant -/

/-- No thread to join. -/
structure Detached (s : LinkSystem) : Prop where
  main : s.main = .idle ∧ s.ui.waiting = false ∨ s.main = .returned
  mutex : s.linkMutex = none

/-- What the main thread knows of the link thread that it waits for, or has not joined yet. -/
def MainKnows (s : LinkSystem) (t : LinkStep) : MainStep → Prop
  | .idle => t.woken = true → .custom ∈ s.queue
  | .take => t.isDone = true
  | .lockPid _ | .join .cancelled | .join .exiting => True
  | .kill pid _ => ∀ p, pid = some p → ∃ c, s.child = some c ∧ c.pid = p
  | .join (.taken r) => t.isDone = true ∧ t.holds = false ∧
    r = { exitCode := s.linkExitCode, output := s.linkOutput }
  | .join (.restart _) | .returned => False

/-- Who holds the mutex. -/
def owner (main : MainStep) (t : LinkStep) : Option Party :=
  if t.holds then some .link else if main.holds then some .main else none

/-- A thread that has not been joined. -/
structure Attached (m : Setting) (s : LinkSystem) (t : LinkStep) : Prop where
  waiting : s.ui.waiting = true
  name : s.linkName = s.ui.wizName
  main : MainKnows s t s.main
  mutex : s.linkMutex = owner s.main t
  done : s.linkDone = t.isDone
  pid : ∀ p, s.linkPid = some p → ∃ c, s.child = some c ∧ c.pid = p
  collected : Collected m s t

/-- The result that is shown is the thread's. -/
def ShowsResult (m : Setting) (s : LinkSystem) : Prop :=
  s.ui.screenIndex = .wizard → s.ui.wizardStep = .linkResult →
    s.linkName = s.ui.wizName ∧ ∃ r, s.ui.wizResult = some r ∧ Complete m s r

structure Inv (m : Setting) (s : LinkSystem) : Prop where
  detached : s.linkThread = none → Detached s
  attached : ∀ t, s.linkThread = some t → Attached m s t
  result : ShowsResult m s

/-! ## The link thread's steps -/

/-- What the main thread knows stays true over a step of the link thread that keeps what is taken from
a thread that is done, and wakes the event loop before its end. -/
theorem MainKnows.move {main : MainStep} (h : MainKnows s t main)
    (hwoken : main = .idle → t'.woken = true → .custom ∈ s'.queue) (hdone : t.isDone = true → t'.isDone = true)
    (htaken : t.isDone = true → t.holds = false → t'.holds = false ∧
      s'.linkExitCode = s.linkExitCode ∧ s'.linkOutput = s.linkOutput)
    (hchild : ∀ c, s.child = some c → ∃ c', s'.child = some c' ∧ c'.pid = c.pid) :
    MainKnows s' t' main := by
  cases main with
  | idle => exact hwoken rfl
  | take => exact hdone h
  | lockPid _ => trivial
  | kill pid _ =>
    intro p hp
    obtain ⟨c, hc, rfl⟩ := h p hp
    exact hchild c hc
  | join why =>
    cases why with
    | taken r =>
      obtain ⟨hisDone, hholds, rfl⟩ := h
      obtain ⟨hholds', hexit, houtput⟩ := htaken hisDone hholds
      exact ⟨hdone hisDone, hholds', by rw [hexit, houtput]⟩
    | cancelled | exiting => trivial
    | restart _ => exact h
  | returned => exact h

/-- The main thread holds the mutex only over a join with a thread that is done and does not. -/
theorem MainKnows.of_holds {main : MainStep} (h : MainKnows s t main) (hholds : main.holds = true) :
    t.isDone = true ∧ t.holds = false := by
  cases main with
  | join why =>
    cases why with
    | taken r => exact ⟨h.1, h.2.1⟩
    | cancelled | exiting | restart _ => cases hholds
  | idle | take | lockPid _ | kill _ _ | returned => cases hholds

theorem owner_of_not_done {main : MainStep} (h : MainKnows s t main) (ht : t.isDone = false) :
    owner main t = none := by
  have hlink : ¬ t.holds = true := fun hh => by simp [LinkStep.isDone_of_holds hh] at ht
  have hmain : ¬ main.holds = true := fun hh => by simp [(h.of_holds hh).1] at ht
  rw [owner, if_neg hlink, if_neg hmain]

/-- A step of the thread before it sets `linkDone`. -/
theorem Attached.advance (h : Attached m s t) (hui : s'.ui = s.ui) (hmain : s'.main = s.main)
    (hmutex : s'.linkMutex = s.linkMutex) (hdone : s'.linkDone = s.linkDone)
    (hname : s'.linkName = s.linkName) (ht : t.isDone = false) (ht' : t'.isDone = false)
    (hpid : ∀ p, s'.linkPid = some p → ∃ c, s'.child = some c ∧ c.pid = p)
    (hchild : ∀ c, s.child = some c → ∃ c', s'.child = some c' ∧ c'.pid = c.pid)
    (hcollected : Collected m s' t') : Attached m s' t' := by
  have hmain' : MainKnows s' t' s'.main := by
    rw [hmain]
    refine h.main.move (fun _ hwoken => ?_) (fun hd => ?_) (fun hd => ?_) hchild
    · simp [LinkStep.isDone_of_woken hwoken] at ht'
    · simp [hd] at ht
    · simp [hd] at ht
  exact
    { waiting := hui ▸ h.waiting
      name := by rw [hname, hui, h.name]
      main := hmain'
      mutex := by rw [hmutex, h.mutex, owner_of_not_done h.main ht, owner_of_not_done hmain' ht']
      done := by rw [hdone, h.done, ht, ht']
      pid := hpid
      collected := hcollected }

theorem splitText_append (n : Nat) (text : String) :
    (splitText n text).1 ++ (splitText n text).2 = text := by
  rw [splitText, ← String.ofList_append, List.take_append_drop, String.ofList_toList]

/-- What one step of the thread leaves. -/
theorem attached_linkMove (h : Attached m s t) (hthread : s.linkThread = some t) :
    ∃ t', (linkMove m o s).linkThread = some t' ∧ Attached m (linkMove m o s) t' := by
  have hsame : ∀ c, s.child = some c → ∃ c', s.child = some c' ∧ c'.pid = c.pid := fun c hc => ⟨c, hc, rfl⟩
  cases t with
  | pipe =>
    obtain ⟨hchild, houtput, hexit⟩ := h.collected
    simp only [linkMove, hthread]
    refine ⟨_, rfl, ?_⟩
    split_ifs
    · exact h.advance rfl rfl rfl rfl rfl rfl rfl h.pid hsame ⟨hchild, houtput, hexit⟩
    · exact h.advance rfl rfl rfl rfl rfl rfl rfl h.pid hsame ⟨hchild, houtput, hexit, .inl rfl⟩
  | fork =>
    obtain ⟨hchild, houtput, hexit⟩ := h.collected
    simp only [linkMove, hthread]
    split
    · exact ⟨_, rfl, h.advance rfl rfl rfl rfl rfl rfl rfl h.pid hsame
        ⟨hchild, houtput, hexit, .inr rfl⟩⟩
    next pid hpid =>
      refine ⟨_, rfl, h.advance rfl rfl rfl rfl rfl rfl rfl ?_ ?_ ?_⟩
      · intro p hp
        obtain ⟨c, hc, -⟩ := h.pid p hp
        simp [hchild] at hc
      · intro c hc
        simp [hchild] at hc
      · exact ⟨_, ⟨rfl, rfl⟩, by simp [houtput]⟩
  | fail message =>
    obtain ⟨hchild, -, hexit, hmessage⟩ := h.collected
    simp only [linkMove, hthread]
    split_ifs with hmutex
    · refine ⟨_, rfl, ⟨h.waiting, h.name, ?_, rfl, rfl, h.pid, hchild, hexit, hmessage⟩⟩
      exact h.main.move (fun _ => nofun) nofun nofun hsame
    · exact ⟨_, hthread, h⟩
  | failPost =>
    simp only [linkMove, hthread]
    refine ⟨_, rfl, ⟨h.waiting, h.name, ?_, h.mutex, h.done, h.pid, h.collected⟩⟩
    exact h.main.move (fun _ _ => by simp) id nofun hsame
  | failUnlock =>
    simp only [linkMove, hthread]
    have hmain : s.main.holds = false := by
      by_contra hholds
      cases (h.main.of_holds (by simpa using hholds)).2
    refine ⟨_, rfl, ⟨h.waiting, h.name, ?_, ?_, h.done, h.pid, .inl h.collected⟩⟩
    · refine h.main.move (fun hidle _ => ?_) id nofun hsame
      have hwoken := h.main
      rw [hidle] at hwoken
      exact hwoken rfl
    · simp [owner, hmain, LinkStep.holds]
  | publish =>
    simp only [linkMove, hthread]
    split_ifs with hmutex
    · obtain ⟨c, hc, hwritten⟩ := h.collected
      refine ⟨_, rfl, h.advance rfl rfl rfl rfl rfl rfl rfl ?_ hsame ⟨c, hc, hwritten⟩⟩
      intro p hp
      exact Option.map_eq_some_iff.mp hp
    · exact ⟨_, hthread, h⟩
  | read =>
    obtain ⟨c, hc, hwritten⟩ := h.collected
    simp only [linkMove, hthread]
    split
    · refine ⟨_, rfl, h.advance rfl rfl rfl rfl rfl rfl rfl h.pid hsame ⟨c, hc, hwritten, fun hquiet => ?_⟩⟩
      cases hquiet
    next n c' hread hc' =>
      obtain rfl : c' = c := Option.some.inj (hc'.symm.trans hc.1)
      split_ifs with hempty hended
      · exact ⟨_, rfl, h.advance rfl rfl rfl rfl rfl rfl rfl h.pid hsame
          ⟨c', hc, hwritten, fun _ => ⟨hempty, hended⟩⟩⟩
      · exact ⟨_, hthread, h⟩
      · refine ⟨_, rfl, h.advance rfl rfl rfl rfl rfl rfl rfl ?_ ?_ ⟨_, ⟨rfl, hc.2⟩, ?_⟩⟩
        · intro p hp
          obtain ⟨c, hchild, rfl⟩ := h.pid p hp
          cases hchild.symm.trans hc'
          exact ⟨_, rfl, rfl⟩
        · intro c hchild
          cases hchild.symm.trans hc'
          exact ⟨_, rfl, rfl⟩
        · rw [splitText_append]
          exact hwritten
    next hnone => exact absurd (hnone.symm.trans hc.1) nofun
  | append chunk =>
    obtain ⟨c, hc, hwritten⟩ := h.collected
    simp only [linkMove, hthread]
    split_ifs with hmutex
    · refine ⟨_, rfl, h.advance rfl rfl rfl rfl rfl rfl rfl h.pid hsame ⟨c, hc, ?_⟩⟩
      rw [hwritten, String.append_assoc]
    · exact ⟨_, hthread, h⟩
  | post =>
    simp only [linkMove, hthread]
    exact ⟨_, rfl, h.advance rfl rfl rfl rfl rfl rfl rfl h.pid hsame h.collected⟩
  | wait =>
    obtain ⟨c, hc, hwritten, hended⟩ := h.collected
    simp only [linkMove, hthread]
    split_ifs
    · split
      next how hhow =>
        rw [hc.1, Option.bind_some] at hhow
        exact ⟨_, rfl, h.advance rfl rfl rfl rfl rfl rfl rfl h.pid hsame
          ⟨c, hc, hwritten, fun hquiet => ⟨(hended hquiet).1, how, hhow, rfl⟩⟩⟩
      · exact ⟨_, hthread, h⟩
    · refine ⟨_, rfl, h.advance rfl rfl rfl rfl rfl rfl rfl h.pid hsame ⟨c, hc, hwritten, fun hquiet => ?_⟩⟩
      cases hquiet
  | store exitCode =>
    simp only [linkMove, hthread]
    split_ifs
    · exact ⟨_, rfl, h.advance rfl rfl rfl rfl rfl rfl rfl h.pid hsame h.collected⟩
    · exact ⟨_, hthread, h⟩
  | setDone =>
    simp only [linkMove, hthread]
    refine ⟨_, rfl, ⟨h.waiting, h.name, ?_, h.mutex, rfl, h.pid, h.collected⟩⟩
    exact h.main.move (fun _ => nofun) nofun nofun hsame
  | postDone =>
    simp only [linkMove, hthread]
    refine ⟨_, rfl, ⟨h.waiting, h.name, ?_, h.mutex, h.done, h.pid, .inr h.collected⟩⟩
    exact h.main.move (fun _ _ => by simp) id (fun _ _ => ⟨rfl, rfl, rfl⟩) hsame
  | finished =>
    simp only [linkMove, hthread]
    exact ⟨_, rfl, h⟩

/-! ## The child's steps -/

/-- What a child does: it stays the same process, does nothing after its end, and what has been read of
it stays a part of what it has written. -/
structure Continues (c c' : Child) : Prop where
  pid : c'.pid = c.pid
  argv : c'.argv = c.argv
  ended : c.ended.isSome = true → c' = c
  written : ∀ text, c.written = text ++ c.unread → c'.written = text ++ c'.unread

theorem IsChild.carry {c c' x : Child} (hx : IsChild m s x) (hc : s.child = some c)
    (h : Continues c c') : x = c ∧ IsChild m { s with child := some c' } c' := by
  obtain rfl : x = c := Option.some.inj (hx.1.symm.trans hc)
  exact ⟨rfl, rfl, h.argv.trans hx.2⟩

theorem Ended.carry {c c' : Child} {r : GendbResult} (hended : Ended m s r) (hc : s.child = some c)
    (h : Continues c c') : Ended m { s with child := some c' } r := by
  obtain ⟨x, hx, hwritten, hquiet⟩ := hended
  obtain ⟨rfl, hx'⟩ := hx.carry hc h
  refine ⟨c', hx', h.written _ hwritten, fun hi => ?_⟩
  obtain ⟨hempty, how, hhow, hr⟩ := hquiet hi
  rw [h.ended (by rw [hhow]; rfl)]
  exact ⟨hempty, how, hhow, hr⟩

theorem Failed.no_child {c : Child} {r : GendbResult} {p : Prop} (h : Failed s r)
    (hc : s.child = some c) : p :=
  nomatch h.1.symm.trans hc

theorem Collected.carry {c c' : Child} (hcollected : Collected m s t) (hc : s.child = some c)
    (h : Continues c c') : Collected m { s with child := some c' } t := by
  cases t with
  | pipe | fork | fail _ => cases hcollected.1.symm.trans hc
  | failPost | failUnlock => exact Failed.no_child hcollected hc
  | publish | read | post =>
    obtain ⟨x, hx, hread⟩ := hcollected
    obtain ⟨rfl, hx'⟩ := hx.carry hc h
    exact ⟨c', hx', h.written _ hread⟩
  | append chunk =>
    obtain ⟨x, hx, hread⟩ := hcollected
    obtain ⟨rfl, hx'⟩ := hx.carry hc h
    refine ⟨c', hx', ?_⟩
    rw [← String.append_assoc] at hread ⊢
    exact h.written _ hread
  | wait =>
    obtain ⟨x, hx, hwritten, hquiet⟩ := hcollected
    obtain ⟨rfl, hx'⟩ := hx.carry hc h
    refine ⟨c', hx', h.written _ hwritten, fun hi => ?_⟩
    rw [h.ended (hquiet hi).2]
    exact hquiet hi
  | store _ | setDone | postDone => exact Ended.carry hcollected hc h
  | finished =>
    obtain hfailed | hended := hcollected
    · exact hfailed.no_child hc
    · exact .inr (hended.carry hc h)

theorem Attached.carry {c c' : Child} (h : Attached m s t) (hc : s.child = some c)
    (hcontinues : Continues c c') : Attached m { s with child := some c' } t := by
  have hchild : ∀ x, s.child = some x → ∃ y, some c' = some y ∧ y.pid = x.pid := by
    intro x hx
    cases hx.symm.trans hc
    exact ⟨c', rfl, hcontinues.pid⟩
  refine ⟨h.waiting, h.name, ?_, h.mutex, h.done, ?_, h.collected.carry hc hcontinues⟩
  · refine h.main.move (fun hidle hwoken => ?_) id (fun _ hholds => ⟨hholds, rfl, rfl⟩) hchild
    have hknows := h.main
    rw [hidle] at hknows
    exact hknows hwoken
  · intro p hp
    obtain ⟨x, hx, rfl⟩ := h.pid p hp
    exact hchild x hx

theorem ShowsResult.carry {c c' : Child} (h : ShowsResult m s) (hc : s.child = some c)
    (hcontinues : Continues c c') : ShowsResult m { s with child := some c' } := by
  intro hscreen hstep
  obtain ⟨hname, r, hr, hcomplete⟩ := h hscreen hstep
  refine ⟨hname, r, hr, ?_⟩
  obtain hfailed | hended := hcomplete
  · exact hfailed.no_child hc
  · exact .inr (hended.carry hc hcontinues)

theorem Inv.carry {c c' : Child} (h : Inv m s) (hc : s.child = some c)
    (hcontinues : Continues c c') : Inv m { s with child := some c' } where
  detached hnone := ⟨(h.detached hnone).main, (h.detached hnone).mutex⟩
  attached t ht := (h.attached t ht).carry hc hcontinues
  result := h.result.carry hc hcontinues

theorem inv_childWrites (text : String) (h : Inv m s) : Inv m (childWrites text s) := by
  unfold childWrites
  split
  next c hc =>
    split_ifs with hended
    · exact h
    · refine h.carry hc ⟨rfl, rfl, fun hd => absurd hd hended, fun read hread => ?_⟩
      change c.written ++ text = read ++ (c.unread ++ text)
      rw [hread, String.append_assoc]
  · exact h

theorem inv_childEnds (how : ChildEnd) (h : Inv m s) : Inv m (childEnds how s) := by
  unfold childEnds
  split
  next c hc =>
    split_ifs with hended
    · exact h
    · exact h.carry hc ⟨rfl, rfl, fun hd => absurd hd hended, fun _ hread => hread⟩
  · exact h

/-! ## The main thread's steps -/

theorem inv_detached (hthread : s.linkThread = none) (h : Detached s) (hresult : ShowsResult m s) :
    Inv m s :=
  ⟨fun _ => h, fun t ht => by simp [hthread] at ht, hresult⟩

theorem inv_attached (hthread : s.linkThread = some t) (h : Attached m s t) : Inv m s where
  detached hnone := by simp [hthread] at hnone
  attached t' ht' := by
    cases hthread.symm.trans ht'
    exact h
  result hscreen hstep := by
    obtain ⟨-, hwaiting⟩ := Ui.waiting_iff.mp h.waiting
    exact absurd (hstep.symm.trans hwaiting) (by simp)

theorem perform_of_ne {effects : List Effect} (h : ∀ name, .startLinkThread name ∉ effects) :
    effects.foldl perform s = s := by
  induction effects generalizing s with
  | nil => rfl
  | cons effect effects ih =>
    have hrest := ih (s := s) fun name hname => h name (List.mem_cons_of_mem _ hname)
    cases effect with
    | startLinkThread name => exact absurd List.mem_cons_self (h name)
    | gendb _ | cancelLinkThread | joinLinkThread | exitLoop => exact hrest

/-- An event handled while there is no thread. -/
theorem inv_takeEvent_detached {e : Event} (hthread : s.linkThread = none) (hmutex : s.linkMutex = none)
    (hidle : s.main = .idle) (hwaiting : s.ui.waiting = false) : Inv m (takeEvent m a s e) := by
  have hnot : ¬ s.ui.waiting = true := by simp [hwaiting]
  unfold takeEvent
  rw [if_neg hnot]
  obtain ⟨hwaits, hstart⟩ | ⟨hstill, hresult, hnone⟩ :=
    Ui.handle_outside (m := m) (a := a) (e := e) hwaiting
  · dsimp only
    rw [hstart]
    refine inv_attached (t := .pipe) (by simp [perform, startLinkThread, hthread, launch]) ?_
    simp only [List.foldl_cons, List.foldl_nil, perform, startLinkThread, hthread, Option.isSome_none,
      if_neg Bool.false_ne_true, launch]
    exact ⟨hwaits, rfl, nofun, hmutex, rfl, nofun, rfl, rfl, rfl⟩
  · dsimp only
    rw [perform_of_ne hnone]
    refine inv_detached hthread ⟨.inl ⟨hidle, hstill⟩, hmutex⟩ fun hscreen hstep => ?_
    exact absurd ⟨hscreen, hstep⟩ hresult

/-- The main thread goes on without the mutex, as it was before. -/
theorem Attached.goes_on {main : MainStep} {queue : List Event} {killed : List Nat} (h : Attached m s t)
    (hbefore : s.main.holds = false) (hafter : main.holds = false)
    (hmain : MainKnows { s with queue, main, killed } t main) :
    Attached m { s with queue, main, killed } t where
  waiting := h.waiting
  name := h.name
  main := hmain
  mutex := by rw [h.mutex, owner, owner, hbefore, hafter]
  done := h.done
  pid := h.pid
  collected := h.collected

/-- An event handled while the wizard waits. -/
theorem inv_takeEvent_attached {e : Event} {queue : List Event} (h : Attached m s t)
    (hthread : s.linkThread = some t) (hidle : s.main = .idle) (hqueue : s.queue = e :: queue) :
    Inv m (takeEvent m a { s with queue } e) := by
  have hholds : s.main.holds = false := by rw [hidle]; rfl
  have hwoken : t.woken = true → .custom ∈ e :: queue := by
    have hknows := h.main
    rw [hidle, MainKnows, hqueue] at hknows
    exact hknows
  unfold takeEvent
  rw [if_pos h.waiting]
  split
  · split_ifs with hdone
    · exact inv_attached hthread (h.goes_on hholds rfl (h.done.symm.trans hdone))
    · have hnot : t.woken ≠ true := fun hw => hdone (h.done.trans (LinkStep.isDone_of_woken hw))
      exact inv_attached hthread (hidle ▸ h.goes_on hholds rfl fun hw => absurd hw hnot)
  · exact inv_attached hthread (h.goes_on hholds rfl trivial)
  next hcustom _ =>
    refine inv_attached hthread (hidle ▸ h.goes_on hholds rfl fun hw => ?_)
    exact (List.mem_cons.mp (hwoken hw)).resolve_left fun heq => hcustom heq.symm

/-- A thread that is joined has finished, and its result is complete. -/
theorem inv_joined {why : Joining} (h : Attached m s .finished) (hmain : s.main = .join why) :
    Inv m (joined m a s why) := by
  have hknows := h.main
  rw [hmain] at hknows
  cases why with
  | taken r =>
    obtain ⟨-, -, rfl⟩ := hknows
    rw [joined, Ui.handle_wakeUp h.waiting]
    refine inv_detached rfl ⟨.inl ⟨rfl, by simp [Ui.waiting]⟩, rfl⟩ fun _ _ => ?_
    exact ⟨h.name, _, rfl, h.collected⟩
  | cancelled =>
    rw [joined, Ui.handle_cancel h.waiting]
    refine inv_detached rfl ⟨.inl ⟨rfl, by simp [Ui.waiting]⟩, ?_⟩ fun hscreen => ?_
    · rw [h.mutex, hmain]
      rfl
    · cases hscreen
  | exiting =>
    refine inv_detached rfl ⟨.inr rfl, ?_⟩ fun _ hstep => ?_
    · change s.linkMutex = none
      rw [h.mutex, hmain]
      rfl
    · exact absurd (hstep.symm.trans (Ui.waiting_iff.mp h.waiting).2) (by simp)
  | restart name => exact hknows.elim

/-- The main thread is busy with the link thread only while there is one. -/
theorem Inv.attached_of_main (h : Inv m s) (hidle : s.main ≠ .idle) (hreturned : s.main ≠ .returned) :
    ∃ t, s.linkThread = some t ∧ Attached m s t := by
  cases hthread : s.linkThread with
  | none =>
    obtain ⟨hmain, -⟩ | hmain := (h.detached hthread).main
    · exact absurd hmain hidle
    · exact absurd hmain hreturned
  | some t => exact ⟨t, rfl, h.attached t hthread⟩

theorem inv_mainMove (h : Inv m s) : Inv m (mainMove m a s) := by
  unfold mainMove
  split
  next hmain =>
    split
    · exact h
    next e queue hqueue =>
      obtain hnone | ⟨t, hthread⟩ := s.linkThread.eq_none_or_eq_some
      · have hdetached := h.detached hnone
        have hwaiting := hdetached.main.resolve_right (by simp [hmain])
        exact inv_takeEvent_detached (s := { s with queue }) hnone hdetached.mutex hmain hwaiting.2
      · exact inv_takeEvent_attached (h.attached t hthread) hthread hmain hqueue
  next hmain =>
    obtain ⟨t, hthread, hattached⟩ := h.attached_of_main (by simp [hmain]) (by simp [hmain])
    split_ifs with hmutex
    · have hdone := hattached.main
      rw [hmain] at hdone
      have hholds : t.holds = false := by
        by_contra hh
        have howner := hmutex.symm.trans hattached.mutex
        rw [owner, if_pos (by simpa using hh)] at howner
        cases howner
      refine inv_attached hthread ⟨hattached.waiting, hattached.name, ⟨hdone, hholds, rfl⟩, ?_,
        hattached.done, hattached.pid, hattached.collected⟩
      simp [owner, hholds, MainStep.holds]
    · exact h
  next exiting hmain =>
    obtain ⟨t, hthread, hattached⟩ := h.attached_of_main (by simp [hmain]) (by simp [hmain])
    split_ifs with hmutex
    · exact inv_attached hthread (hattached.goes_on (by rw [hmain]; rfl) rfl hattached.pid)
    · exact h
  next pid exiting hmain =>
    obtain ⟨t, hthread, hattached⟩ := h.attached_of_main (by simp [hmain]) (by simp [hmain])
    have hholds : s.main.holds = false := by rw [hmain]; rfl
    split_ifs
    · exact inv_attached hthread (hattached.goes_on hholds rfl trivial)
    · exact inv_attached hthread (hattached.goes_on hholds rfl trivial)
  next why hmain =>
    obtain ⟨t, hthread, hattached⟩ := h.attached_of_main (by simp [hmain]) (by simp [hmain])
    split_ifs with hfinished
    · obtain rfl : t = .finished := by simpa [hthread] using hfinished
      exact inv_joined hattached hmain
    · exact h
  next => exact h

/-! ## Runs -/

theorem inv_linkMove (h : Inv m s) : Inv m (linkMove m o s) := by
  obtain hnone | ⟨t, hthread⟩ := s.linkThread.eq_none_or_eq_some
  · have hsame : linkMove m o s = s := by simp only [linkMove, hnone]
    rwa [hsame]
  · obtain ⟨t', ht', hattached⟩ := attached_linkMove (o := o) (h.attached t hthread) hthread
    exact inv_attached ht' hattached

/-- Keys that arrive and drawing change nothing that the threads rely on. -/
theorem Inv.keep {queue : List Event} {shown : String} (h : Inv m s)
    (hqueue : ∀ e ∈ s.queue, e ∈ queue) : Inv m { s with queue, shown } := by
  obtain hnone | ⟨t, hthread⟩ := s.linkThread.eq_none_or_eq_some
  · exact inv_detached hnone ⟨(h.detached hnone).main, (h.detached hnone).mutex⟩ h.result
  · have hattached := h.attached t hthread
    refine inv_attached hthread ⟨hattached.waiting, hattached.name, ?_, hattached.mutex, hattached.done,
      hattached.pid, hattached.collected⟩
    refine hattached.main.move (fun hidle hwoken => ?_) id (fun _ hholds => ⟨hholds, rfl, rfl⟩)
      fun c hc => ⟨c, hc, rfl⟩
    have hknows := hattached.main
    rw [hidle] at hknows
    exact hqueue _ (hknows hwoken)

theorem inv_draw (h : Inv m s) : Inv m (draw s) := by
  unfold draw
  split_ifs
  · exact h.keep fun _ he => he
  · exact h

theorem inv_leave (h : Inv m s) : Inv m (leave s) := by
  unfold leave
  split_ifs with hquit hthread
  · obtain ⟨t, ht⟩ := Option.isSome_iff_exists.mp hthread
    exact inv_attached ht ((h.attached t ht).goes_on (by rw [hquit.1]; rfl) rfl trivial)
  · have hnone : s.linkThread = none := by simpa using hthread
    exact inv_detached hnone ⟨.inr rfl, (h.detached hnone).mutex⟩ h.result
  · exact h

theorem inv_step (s : LinkSystem) (move : Move) (h : Inv m s) : Inv m (step m s move) := by
  cases move with
  | key e => exact h.keep fun _ he => List.mem_append_left _ he
  | main a => exact inv_mainMove h
  | draw => exact inv_draw h
  | link o => exact inv_linkMove h
  | childWrites text => exact inv_childWrites text h
  | childEnds how => exact inv_childEnds how h
  | leave => exact inv_leave h

theorem inv_start (a : Answers) : Inv m (start a) :=
  inv_detached rfl ⟨.inl ⟨rfl, rfl⟩, rfl⟩ fun hscreen => by cases hscreen

/-! ## What the runs have in common -/

/-- What is drawn while the wizard waits. -/
theorem Collected.drawn (h : Collected m s t) :
    (s.child = none ∧ (s.linkOutput = "" ∨ s.linkOutput = "pipe() failed" ∨
      s.linkOutput = "fork() failed")) ∨
    ∃ c rest, IsChild m s c ∧ c.written = s.linkOutput ++ rest := by
  cases t with
  | pipe | fork | fail _ => exact .inl ⟨h.1, .inl h.2.1⟩
  | failPost | failUnlock => exact .inl ⟨h.1, .inr h.2.2⟩
  | publish | read | post =>
    obtain ⟨c, hc, hwritten⟩ := h
    exact .inr ⟨c, _, hc, hwritten⟩
  | append chunk =>
    obtain ⟨c, hc, hwritten⟩ := h
    exact .inr ⟨c, _, hc, hwritten⟩
  | wait =>
    obtain ⟨c, hc, hwritten, -⟩ := h
    exact .inr ⟨c, _, hc, hwritten⟩
  | store _ | setDone | postDone =>
    obtain ⟨c, hc, hwritten, -⟩ := h
    exact .inr ⟨c, _, hc, hwritten⟩
  | finished =>
    obtain hfailed | ⟨c, hc, hwritten, -⟩ := h
    · exact .inl ⟨hfailed.1, .inr hfailed.2.2⟩
    · exact .inr ⟨c, _, hc, hwritten⟩

end LinkSystem

end Signal2sip.Tui
