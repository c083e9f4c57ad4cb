import Mathlib.Data.Fintype.Defs
import Mathlib.Data.Fintype.Basic
import Signal2sip.Lib.Run
import Signal2sip.Voip.FeederThread

/-!
# The lifetime of the feeder thread

`Start` and `Stop` exchange the flag first and touch the thread and the ports afterwards, so two calls
can overlap between the flag and the thread. A `Stop` that comes between a `Start`'s exchange and its
assignment finds nothing to join; the thread that is assigned then is never joined. A `Start` that
comes between a `Stop`'s exchange and its `join` assigns to a thread that still is joinable. And a
`Stop` that finds the flag cleared returns while the one that cleared it is still at work.

`Apart` says that a call's exchange, or the destruction of the members, comes at none of these
moments. The invariant (`Sound`) ties the thread to the flag and to the calls that are between the
two: a set flag and no `Start` on its way belong to a joinable thread, a cleared one and no `Stop`
before its `join` to none, and a `Stop` that began after every `Start` has undone what it is past.

- `feeder_lifecycle`: the law along every run that keeps the calls apart;
- `start_overtakes_join`, `stop_overtakes_start`: a `Start` or `Stop` that does not can end the
  process.
-/

namespace Signal2sip.Voip

namespace FeederCall

theorem stopped_of_stopBegan {phase : FeederCall} {n : Nat} (hbegan : phase.stopBegan = some n)
    (hstopping : phase.stopping ≠ some n) : phase = .stopped n := by
  cases phase <;> simp_all [stopBegan, stopping]

end FeederCall

namespace RingRtcSipBridge

open Runs (Along Always)

variable {ι : Type} {s : RingRtcSipBridge ι}

/-- The thread is neither assigned to nor destroyed while joinable, one loop runs at most, and a
`Stop` that began after every `Start` leaves no loop and two stopped ports. -/
structure Lawful (s : RingRtcSipBridge ι) : Prop where
  neverTerminates : s.terminated = false
  oneFeeder : s.feeders.length ≤ 1
  stopped : ∀ call, s.calls call = .stopped s.startsBegun →
    s.feeders = [] ∧ s.audioInput = false ∧ s.audioOutput = false

/-- No `Start` sets the flag before the `join` of a `Stop`. A `Stop` clears the flag before or after a
`Start`, not within; it finds the flag cleared only if no other `Stop` since the last `Start` is still
at work. The members are destroyed while the flag is off and no `Stop` is before its `join`.
`start_overtakes_join` and `stop_overtakes_start` say where a `Start` or a clearing `Stop` that is not
kept apart can lead. -/
def Apart (s : RingRtcSipBridge ι) (e : FeederEvent ι) : Prop :=
  s.destroyed = false →
    match e with
    | .start call => s.calls call = .notBegun → s.feederRunning = false →
        ∀ other, (s.calls other).joining = false
    | .stop call => s.calls call = .notBegun →
        if s.feederRunning then ∀ other, (s.calls other).starting = false
        else ∀ other, (s.calls other).stopping ≠ some s.startsBegun
    | .destroy call => (s.calls call).stopReturned →
        s.feederRunning = false ∧ ∀ other, (s.calls other).joining = false
    | .next _ | .feederLoop _ => True

/-- What a `Stop` that began after every `Start` has done by its phase. -/
def Undone (s : RingRtcSipBridge ι) : FeederCall → Prop
  | .stopInput _ => s.feederThread = none
  | .stopOutput _ => s.feederThread = none ∧ s.audioInput = false
  | .stopped _ => s.feederThread = none ∧ s.audioInput = false ∧ s.audioOutput = false
  | _ => True

theorem Undone.mono {t : RingRtcSipBridge ι} {phase : FeederCall} (h : s.Undone phase)
    (hthread : s.feederThread = none → t.feederThread = none)
    (hinput : s.audioInput = false → t.audioInput = false)
    (houtput : s.audioOutput = false → t.audioOutput = false) : t.Undone phase := by
  cases phase with
  | stopInput n => exact hthread h
  | stopOutput n => exact ⟨hthread h.1, hinput h.2⟩
  | stopped n => exact ⟨hthread h.1, hinput h.2.1, houtput h.2.2⟩
  | _ => trivial

structure Sound (s : RingRtcSipBridge ι) : Prop where
  neverTerminates : s.terminated = false
  feeders : s.feeders.Sublist s.feederThread.toList
  starting : ∀ call, (s.calls call).starting →
    s.feederRunning = true ∧ s.feederThread = none ∧ s.startsBegun = s.startsReturned + 1
  oneStart : ∀ call other, (s.calls call).starting → (s.calls other).starting → call = other
  returned : (∀ call, (s.calls call).starting = false) → s.startsBegun = s.startsReturned
  joinable : s.feederThread ≠ none → s.feederRunning = true ∨ ∃ call, (s.calls call).joining
  joins : ∀ call, (s.calls call).joining → s.feederRunning = false ∧ s.feederThread ≠ none
  oneJoin : ∀ call other, (s.calls call).joining → (s.calls other).joining → call = other
  running : s.feederRunning = true → (∀ call, (s.calls call).starting = false) →
    s.feederThread ≠ none
  began : ∀ call n, (s.calls call).stopBegan = some n → n ≤ s.startsReturned
  undone : ∀ call, (s.calls call).stopBegan = some s.startsBegun →
    s.feederRunning = false ∧ s.Undone (s.calls call)
  cleared : s.feederRunning = false → s.Undone (.stopped 0) ∨
    ∃ call, (s.calls call).stopBegan = some s.startsBegun

theorem sound_init : Sound ({} : RingRtcSipBridge ι) where
  neverTerminates := rfl
  feeders := List.Sublist.refl []
  starting := nofun
  oneStart := nofun
  returned _ := rfl
  joinable := nofun
  joins := nofun
  oneJoin := nofun
  running := nofun
  began := nofun
  undone := nofun
  cleared _ := .inl ⟨rfl, rfl, rfl⟩

/-! ## Phases between the flag and the thread -/

namespace Sound

theorem returned_le (h : Sound s) : s.startsReturned ≤ s.startsBegun := by
  by_cases hstart : ∃ call, (s.calls call).starting
  · obtain ⟨call, hcall⟩ := hstart
    have := (h.starting call hcall).2.2
    omega
  · exact Nat.le_of_eq (h.returned fun call => by simpa using fun hcall => hstart ⟨call, hcall⟩).symm

theorem starting_false (h : Sound s) (hflag : s.feederRunning = false) (call : ι) :
    (s.calls call).starting = false := by
  by_contra hstarting
  have hset := (h.starting call (by simpa using hstarting)).1
  rw [hflag] at hset
  cases hset

theorem joining_false (h : Sound s) (hflag : s.feederRunning = true) (call : ι) :
    (s.calls call).joining = false := by
  by_contra hjoining
  have hclear := (h.joins call (by simpa using hjoining)).1
  rw [hflag] at hclear
  cases hclear

/-- A `Stop` that began after every `Start` can have begun only while the flag is cleared. -/
theorem stopBegan_ne (h : Sound s) (hflag : s.feederRunning = true) (call : ι) :
    (s.calls call).stopBegan ≠ some s.startsBegun := by
  intro hbegan
  have hclear := (h.undone call hbegan).1
  rw [hflag] at hclear
  cases hclear

theorem no_thread (h : Sound s) (hflag : s.feederRunning = false)
    (hjoining : ∀ call, (s.calls call).joining = false) : s.feederThread = none := by
  by_contra hthread
  obtain hset | ⟨call, hcall⟩ := h.joinable hthread
  · rw [hflag] at hset
    cases hset
  · rw [hjoining call] at hcall
    cases hcall

theorem no_feeder (h : Sound s) (hthread : s.feederThread = none) : s.feeders = [] := by
  simpa [hthread] using h.feeders

end Sound

/-! ## One step -/

/-- A loop that finds the flag cleared returns. -/
theorem sound_feederLoop (h : Sound s) (feeder : Nat) : Sound (s.feederLoop feeder) := by
  unfold feederLoop
  split
  · exact h
  · exact { h with feeders := List.erase_sublist.trans h.feeders }

/-- The members are destroyed while nothing can be joined. -/
theorem sound_destroy (h : Sound s) (hflag : s.feederRunning = false)
    (hjoining : ∀ other, (s.calls other).joining = false) : Sound s.destroy :=
  { h with neverTerminates := by rw [destroy, h.no_thread hflag hjoining]; rfl }

section steps

variable [DecidableEq ι] {call : ι}

theorem setCall_self (s : RingRtcSipBridge ι) (call : ι) (phase : FeederCall) :
    (s.setCall call phase).calls call = phase := Function.update_self ..

theorem setCall_of_ne {other : ι} (hne : other ≠ call) (phase : FeederCall) :
    (s.setCall call phase).calls other = s.calls other := Function.update_of_ne hne ..

/-- A call that moves to a phase like its old one is, like the others, what it was. -/
theorem setCall_kept {α : Type*} {f : FeederCall → α} {phase : FeederCall}
    (hphase : f phase = f (s.calls call)) (other : ι) :
    f ((s.setCall call phase).calls other) = f (s.calls other) := by
  by_cases hother : other = call
  · rw [hother, setCall_self, hphase]
  · rw [setCall_of_ne hother]

/-- After a move of one call, what is read off a phase is read off the new phase or an old one. -/
theorem of_setCall {α : Type*} {f : FeederCall → α} {a : α} {phase : FeederCall} {other : ι}
    (h : f ((s.setCall call phase).calls other) = a) :
    (other = call ∧ f phase = a) ∨ (other ≠ call ∧ f (s.calls other) = a) := by
  by_cases hother : other = call
  · subst hother
    rw [setCall_self] at h
    exact .inl ⟨rfl, h⟩
  · rw [setCall_of_ne hother] at h
    exact .inr ⟨hother, h⟩

/-- A move to a phase that is not of a kind leaves at most one call of the kind. -/
theorem one_setCall {f : FeederCall → Bool}
    (hone : ∀ c other, f (s.calls c) → f (s.calls other) → c = other) {phase : FeederCall}
    (hphase : f phase = false) :
    ∀ c other, f ((s.setCall call phase).calls c) → f ((s.setCall call phase).calls other) →
      c = other := by
  intro c other hc hother
  obtain ⟨-, hc⟩ | ⟨-, hc⟩ := of_setCall hc
  · rw [hphase] at hc
    cases hc
  obtain ⟨-, hother⟩ | ⟨-, hother⟩ := of_setCall hother
  · rw [hphase] at hother
    cases hother
  exact hone c other hc hother

/-- When no other call is of a kind, the one that moves is the only one that can be. -/
theorem one_setCall_of_others {f : FeederCall → Bool}
    (hothers : ∀ other, other ≠ call → f (s.calls other) = false) (phase : FeederCall) :
    ∀ c other, f ((s.setCall call phase).calls c) → f ((s.setCall call phase).calls other) →
      c = other := by
  have hself (c : ι) (hc : f ((s.setCall call phase).calls c)) : c = call := by
    obtain ⟨heq, -⟩ | ⟨hne, hold⟩ := of_setCall hc
    · exact heq
    · rw [hothers c hne] at hold
      cases hold
  exact fun c other hc hother => (hself c hc).trans (hself other hother).symm

/-- `Start` finds the flag set. -/
theorem sound_start_again (h : Sound s) (hcall : s.calls call = .notBegun)
    (hflag : s.feederRunning = true) :
    Sound { s.setCall call .started with
      startsBegun := s.startsBegun + 1
      startsReturned := s.startsReturned + 1 } := by
  have hstart := setCall_kept (show FeederCall.started.starting = _ by rw [hcall]; rfl)
  have hjoin := setCall_kept (show FeederCall.started.joining = _ by rw [hcall]; rfl)
  have hbegin := setCall_kept (show FeederCall.started.stopBegan = _ by rw [hcall]; rfl)
  constructor
  case neverTerminates => exact h.neverTerminates
  case feeders => exact h.feeders
  case starting =>
    intro other hother
    obtain ⟨hset, hthread, hcount⟩ := h.starting other ((hstart other).symm.trans hother)
    exact ⟨hset, hthread, congrArg (· + 1) hcount⟩
  case oneStart => exact one_setCall h.oneStart rfl
  case returned =>
    exact fun hnone => congrArg (· + 1)
      (h.returned fun other => (hstart other).symm.trans (hnone other))
  case joinable => exact fun _ => .inl hflag
  case joins => exact fun other hother => h.joins other ((hjoin other).symm.trans hother)
  case oneJoin => exact one_setCall h.oneJoin rfl
  case running =>
    exact fun _ hnone => h.running hflag fun other => (hstart other).symm.trans (hnone other)
  case began =>
    exact fun other n hother =>
      Nat.le_succ_of_le (h.began other n ((hbegin other).symm.trans hother))
  case undone =>
    intro other hother
    have hreturned := h.began other _ ((hbegin other).symm.trans hother)
    exact absurd hreturned (Nat.not_le_of_lt (Nat.lt_succ_of_le h.returned_le))
  case cleared => exact fun hclear => absurd hflag (by simpa [setCall] using hclear)

/-- `Start` sets the flag while no `Stop` is before its `join`. -/
theorem sound_start (h : Sound s) (hflag : s.feederRunning = false)
    (hjoining : ∀ other, (s.calls other).joining = false) :
    Sound { s.setCall call .startInput with
      feederRunning := true
      startsBegun := s.startsBegun + 1 } := by
  have hthread := h.no_thread hflag hjoining
  have hbegun := h.returned (h.starting_false hflag)
  have hstarting : ((s.setCall call .startInput).calls call).starting = true := by
    rw [setCall_self]
    rfl
  constructor
  case neverTerminates => exact h.neverTerminates
  case feeders => exact h.feeders
  case starting => exact fun _ _ => ⟨rfl, hthread, congrArg (· + 1) hbegun⟩
  case oneStart => exact one_setCall_of_others (fun other _ => h.starting_false hflag other) _
  case returned => exact fun hnone => Bool.noConfusion (hstarting.symm.trans (hnone call))
  case joinable => exact fun _ => .inl rfl
  case joins =>
    intro other hother
    obtain ⟨-, hphase⟩ | ⟨-, hold⟩ := of_setCall hother
    · cases hphase
    · exact Bool.noConfusion (hold.symm.trans (hjoining other))
  case oneJoin => exact one_setCall h.oneJoin rfl
  case running => exact fun _ hnone => Bool.noConfusion (hstarting.symm.trans (hnone call))
  case began =>
    intro other n hother
    obtain ⟨-, hphase⟩ | ⟨-, hold⟩ := of_setCall hother
    · cases hphase
    · exact h.began other n hold
  case undone =>
    intro other hother
    obtain ⟨-, hphase⟩ | ⟨-, hold⟩ := of_setCall hother
    · cases hphase
    · exact absurd (h.began other _ hold) (Nat.not_le_of_lt (Nat.lt_succ_of_le h.returned_le))
  case cleared => exact nofun

/-- `Start` assigns the thread. -/
theorem sound_assignThread (h : Sound s) (hcall : s.calls call = .assignThread) :
    Sound (s.assignThread call) := by
  obtain ⟨hflag, hthread, hbegun⟩ := h.starting call (by rw [hcall]; rfl)
  have hself (other : ι) (hstarting : (s.calls other).starting) : other = call :=
    h.oneStart other call hstarting (by rw [hcall]; rfl)
  unfold assignThread
  constructor
  case neverTerminates => simp [hthread]
  case feeders => simp [h.no_feeder hthread]
  case starting =>
    intro other hother
    obtain ⟨-, hphase⟩ | ⟨hne, hold⟩ := of_setCall hother
    · cases hphase
    · exact absurd (hself other hold) hne
  case oneStart => exact one_setCall h.oneStart rfl
  case returned => exact fun _ => hbegun
  case joinable => exact fun _ => .inl hflag
  case joins =>
    intro other hother
    obtain ⟨-, hphase⟩ | ⟨-, hold⟩ := of_setCall hother
    · cases hphase
    · exact Bool.noConfusion (hold.symm.trans (h.joining_false hflag other))
  case oneJoin => exact one_setCall h.oneJoin rfl
  case running => exact fun _ _ => nofun
  case began =>
    intro other n hother
    obtain ⟨-, hphase⟩ | ⟨-, hold⟩ := of_setCall hother
    · cases hphase
    · exact Nat.le_succ_of_le (h.began other n hold)
  case undone =>
    intro other hother
    obtain ⟨-, hphase⟩ | ⟨-, hold⟩ := of_setCall hother
    · cases hphase
    · exact absurd hold (h.stopBegan_ne hflag other)
  case cleared => exact fun hclear => absurd hflag (by simpa [setCall] using hclear)

/-- `Stop` clears the flag while no `Start` is at work. -/
theorem sound_stop (h : Sound s) (hflag : s.feederRunning = true)
    (hstarting : ∀ other, (s.calls other).starting = false) :
    Sound { s.setCall call (.join s.startsReturned) with feederRunning := false } := by
  have hbegun := h.returned hstarting
  have hthread := h.running hflag hstarting
  have hself := setCall_self s call (.join s.startsReturned)
  constructor
  case neverTerminates => exact h.neverTerminates
  case feeders => exact h.feeders
  case starting =>
    intro other hother
    obtain ⟨-, hphase⟩ | ⟨-, hold⟩ := of_setCall hother
    · cases hphase
    · exact Bool.noConfusion (hold.symm.trans (hstarting other))
  case oneStart => exact one_setCall h.oneStart rfl
  case returned => exact fun _ => hbegun
  case joinable => exact fun _ => .inr ⟨call, congrArg FeederCall.joining hself⟩
  case joins => exact fun _ _ => ⟨rfl, hthread⟩
  case oneJoin => exact one_setCall_of_others (fun other _ => h.joining_false hflag other) _
  case running => exact nofun
  case began =>
    intro other n hother
    obtain ⟨-, hphase⟩ | ⟨-, hold⟩ := of_setCall hother
    · cases hphase
      exact Nat.le_refl _
    · exact h.began other n hold
  case undone =>
    intro other hother
    obtain ⟨rfl, -⟩ | ⟨-, hold⟩ := of_setCall hother
    · refine ⟨rfl, ?_⟩
      simp only [hself]
      trivial
    · exact absurd hold (h.stopBegan_ne hflag other)
  case cleared =>
    exact fun _ => .inr ⟨call,
      (congrArg FeederCall.stopBegan hself).trans (congrArg some hbegun.symm)⟩

/-- `Stop` finds the flag cleared, and no other `Stop` since the last `Start` is at work. -/
theorem sound_stop_again (h : Sound s) (hflag : s.feederRunning = false)
    (hstopping : ∀ other, (s.calls other).stopping ≠ some s.startsBegun) :
    Sound (s.setCall call (.stopped s.startsReturned)) := by
  have hbegun := h.returned (h.starting_false hflag)
  have hundone : s.Undone (.stopped 0) := by
    obtain hundone | ⟨other, hother⟩ := h.cleared hflag
    · exact hundone
    · have hdone := (h.undone other hother).2
      rwa [FeederCall.stopped_of_stopBegan hother (hstopping other)] at hdone
  constructor
  case neverTerminates => exact h.neverTerminates
  case feeders => exact h.feeders
  case starting =>
    intro other hother
    obtain ⟨-, hphase⟩ | ⟨-, hold⟩ := of_setCall hother
    · cases hphase
    · exact h.starting other hold
  case oneStart => exact one_setCall h.oneStart rfl
  case returned => exact fun _ => hbegun
  case joinable => exact fun hthread => absurd hundone.1 hthread
  case joins =>
    intro other hother
    obtain ⟨-, hphase⟩ | ⟨-, hold⟩ := of_setCall hother
    · cases hphase
    · exact h.joins other hold
  case oneJoin => exact one_setCall h.oneJoin rfl
  case running => exact fun hset => Bool.noConfusion (hflag.symm.trans hset)
  case began =>
    intro other n hother
    obtain ⟨-, hphase⟩ | ⟨-, hold⟩ := of_setCall hother
    · cases hphase
      exact Nat.le_refl _
    · exact h.began other n hold
  case undone =>
    intro other hother
    obtain ⟨rfl, -⟩ | ⟨hne, hold⟩ := of_setCall hother
    · rw [setCall_self]
      exact ⟨hflag, hundone⟩
    · rw [setCall_of_ne hne]
      exact h.undone other hold
  case cleared => exact fun _ => .inl hundone

/-- `Stop` has joined the thread. -/
theorem sound_join (h : Sound s) {n : Nat} (hcall : s.calls call = .join n)
    (hfeeders : s.feeders = []) :
    Sound { s.setCall call (.stopInput n) with feederThread := none } := by
  obtain ⟨hflag, -⟩ := h.joins call (by rw [hcall]; rfl)
  have hself (other : ι) (hjoining : (s.calls other).joining) : other = call :=
    h.oneJoin other call hjoining (by rw [hcall]; rfl)
  have hphase : (FeederCall.stopInput n).stopBegan = (s.calls call).stopBegan := by
    rw [hcall]
    rfl
  have hbegin := setCall_kept hphase
  constructor
  case neverTerminates => exact h.neverTerminates
  case feeders => simp [setCall, hfeeders]
  case starting =>
    intro other hother
    obtain ⟨-, hphase⟩ | ⟨-, hold⟩ := of_setCall hother
    · cases hphase
    · exact Bool.noConfusion (hold.symm.trans (h.starting_false hflag other))
  case oneStart => exact one_setCall h.oneStart rfl
  case returned => exact fun _ => h.returned (h.starting_false hflag)
  case joinable => exact nofun
  case joins =>
    intro other hother
    obtain ⟨-, hphase⟩ | ⟨hne, hold⟩ := of_setCall hother
    · cases hphase
    · exact absurd (hself other hold) hne
  case oneJoin => exact one_setCall h.oneJoin rfl
  case running => exact fun hset => Bool.noConfusion (hflag.symm.trans hset)
  case began => exact fun other m hother => h.began other m ((hbegin other).symm.trans hother)
  case undone =>
    intro other hother
    obtain ⟨rfl, -⟩ | ⟨hne, hold⟩ := of_setCall hother
    · refine ⟨hflag, ?_⟩
      simp only [setCall_self]
      exact rfl
    · refine ⟨hflag, ?_⟩
      simp only [setCall_of_ne hne]
      exact (h.undone other hold).2.mono (fun _ => rfl) id id
  case cleared =>
    intro _
    obtain hundone | ⟨other, hother⟩ := h.cleared hflag
    · exact .inl ⟨rfl, hundone.2⟩
    · exact .inr ⟨other, (hbegin other).trans hother⟩

/-- A call goes from one port to the next. -/
theorem sound_port (h : Sound s) {phase : FeederCall} {input output : Bool}
    (hstarting : phase.starting = (s.calls call).starting)
    (hjoining : phase.joining = (s.calls call).joining)
    (hbegan : phase.stopBegan = (s.calls call).stopBegan)
    (hinput : s.feederRunning = false → s.audioInput = false → input = false)
    (houtput : s.feederRunning = false → s.audioOutput = false → output = false)
    (hundone : s.feederRunning = false → s.Undone (s.calls call) →
      Undone { s with audioInput := input, audioOutput := output } phase) :
    Sound { s.setCall call phase with audioInput := input, audioOutput := output } := by
  have hstart := setCall_kept hstarting
  have hjoin := setCall_kept hjoining
  have hbegin := setCall_kept hbegan
  constructor
  case neverTerminates => exact h.neverTerminates
  case feeders => exact h.feeders
  case starting => exact fun other hother => h.starting other ((hstart other).symm.trans hother)
  case oneStart =>
    exact fun c other hc hother =>
      h.oneStart c other ((hstart c).symm.trans hc) ((hstart other).symm.trans hother)
  case returned => exact fun hnone => h.returned fun other => (hstart other).symm.trans (hnone other)
  case joinable =>
    intro hthread
    obtain hset | ⟨other, hother⟩ := h.joinable hthread
    · exact .inl hset
    · exact .inr ⟨other, (hjoin other).trans hother⟩
  case joins => exact fun other hother => h.joins other ((hjoin other).symm.trans hother)
  case oneJoin =>
    exact fun c other hc hother =>
      h.oneJoin c other ((hjoin c).symm.trans hc) ((hjoin other).symm.trans hother)
  case running =>
    exact fun hset hnone => h.running hset fun other => (hstart other).symm.trans (hnone other)
  case began => exact fun other n hother => h.began other n ((hbegin other).symm.trans hother)
  case undone =>
    intro other hother
    obtain ⟨hflag, hdone⟩ := h.undone other ((hbegin other).symm.trans hother)
    refine ⟨hflag, ?_⟩
    by_cases hne : other = call
    · subst hne
      simp only [setCall_self]
      exact hundone hflag hdone
    · simp only [setCall_of_ne hne]
      exact hdone.mono id (hinput hflag) (houtput hflag)
  case cleared =>
    intro hflag
    obtain hdone | ⟨other, hother⟩ := h.cleared hflag
    · exact .inl ⟨hdone.1, hinput hflag hdone.2.1, houtput hflag hdone.2.2⟩
    · exact .inr ⟨other, (hbegin other).trans hother⟩

/-- A call that has begun takes its next step. -/
theorem sound_next (h : Sound s) (call : ι) : Sound (s.next call) := by
  unfold next
  cases hcall : s.calls call with
  | notBegun => exact h
  | startInput =>
    have hset := (h.starting call (by rw [hcall]; rfl)).1
    have hclear : s.feederRunning = false → False := by simp [hset]
    exact sound_port h (by rw [hcall]; rfl) (by rw [hcall]; rfl) (by rw [hcall]; rfl)
      (fun hflag => (hclear hflag).elim) (fun _ => id) (fun hflag => (hclear hflag).elim)
  | startOutput =>
    have hset := (h.starting call (by rw [hcall]; rfl)).1
    have hclear : s.feederRunning = false → False := by simp [hset]
    exact sound_port h (by rw [hcall]; rfl) (by rw [hcall]; rfl) (by rw [hcall]; rfl)
      (fun _ => id) (fun hflag => (hclear hflag).elim) (fun hflag => (hclear hflag).elim)
  | assignThread => exact sound_assignThread h hcall
  | started => exact h
  | join n =>
    obtain ⟨-, hthread⟩ := h.joins call (by rw [hcall]; rfl)
    obtain ⟨feeder, hfeeder⟩ := Option.ne_none_iff_exists'.mp hthread
    have hfeeders := h.feeders
    rw [hfeeder] at hfeeders
    simp only [hfeeder]
    split
    · exact h
    · next hreturned =>
      refine sound_join h hcall ?_
      obtain hnil | hone := List.sublist_singleton.mp hfeeders
      · exact hnil
      · rw [hone] at hreturned
        exact (hreturned (List.mem_singleton_self feeder)).elim
  | stopInput n =>
    exact sound_port h (by rw [hcall]; rfl) (by rw [hcall]; rfl) (by rw [hcall]; rfl)
      (fun _ _ => rfl) (fun _ => id) (fun _ hdone => ⟨by rwa [hcall] at hdone, rfl⟩)
  | stopOutput n =>
    refine sound_port h (by rw [hcall]; rfl) (by rw [hcall]; rfl) (by rw [hcall]; rfl)
      (fun _ => id) (fun _ _ => rfl) fun _ hdone => ?_
    rw [hcall] at hdone
    exact ⟨hdone.1, hdone.2, rfl⟩
  | stopped n => exact h

theorem sound_step (s : RingRtcSipBridge ι) (e : FeederEvent ι) (h : Sound s) (hapart : Apart s e) :
    Sound (step s e) := by
  unfold step
  split
  · exact h
  · next hfrozen =>
    have hdestroyed : s.destroyed = false := by simp_all
    cases e with
    | start call =>
      simp only
      split
      · next hcall =>
        unfold start
        split
        · next hflag => exact sound_start_again h hcall hflag
        · next hflag =>
          have hclear : s.feederRunning = false := by simpa using hflag
          exact sound_start h hclear (hapart hdestroyed hcall hclear)
      · exact h
    | stop call =>
      simp only
      split
      · next hcall =>
        have hothers := hapart hdestroyed hcall
        unfold stop
        split
        · next hflag =>
          rw [if_pos hflag] at hothers
          exact sound_stop h hflag hothers
        · next hflag =>
          rw [if_neg hflag] at hothers
          exact sound_stop_again h (by simpa using hflag) hothers
      · exact h
    | next call => exact sound_next h call
    | feederLoop feeder => exact sound_feederLoop h feeder
    | destroy call =>
      simp only
      split
      · next hreturned =>
        obtain ⟨hflag, hjoining⟩ := hapart hdestroyed hreturned
        exact sound_destroy h hflag hjoining
      · exact h

end steps

/-! ## The law along runs -/

theorem Sound.lawful (h : Sound s) : Lawful s where
  neverTerminates := h.neverTerminates
  oneFeeder := by
    have hlength := h.feeders.length_le
    cases hthread : s.feederThread <;> simp_all
  stopped call hcall := by
    obtain ⟨-, hdone⟩ := h.undone call (by rw [hcall]; rfl)
    rw [hcall] at hdone
    exact ⟨h.no_feeder hdone.1, hdone.2⟩

variable [DecidableEq ι]

/-- Calls that are kept apart start and stop the loop one after the other. -/
theorem feeder_lifecycle (events : List (FeederEvent ι)) (h : Along step Apart {} events) :
    Always step Lawful ({} : RingRtcSipBridge ι) events :=
  (Always.of_along sound_step sound_init h).imp fun _ => Sound.lawful

instance [Fintype ι] (s : RingRtcSipBridge ι) : ∀ e, Decidable (Apart s e)
  | .start call => inferInstanceAs (Decidable (s.destroyed = false → s.calls call = .notBegun →
      s.feederRunning = false → ∀ other, (s.calls other).joining = false))
  | .stop call => inferInstanceAs (Decidable (s.destroyed = false → s.calls call = .notBegun →
      if s.feederRunning then ∀ other, (s.calls other).starting = false
      else ∀ other, (s.calls other).stopping ≠ some s.startsBegun))
  | .destroy call => inferInstanceAs (Decidable (s.destroyed = false →
      (s.calls call).stopReturned → s.feederRunning = false ∧
        ∀ other, (s.calls other).joining = false))
  | .next _ | .feederLoop _ => inferInstanceAs (Decidable (s.destroyed = false → True))

/-- A `Start` and a `Stop`, then the destructor's `Stop`. -/
theorem feeder_lifecycle_one_round :
    Always step Lawful ({} : RingRtcSipBridge (Fin 3))
      [.start 0, .next 0, .next 0, .next 0, .stop 1, .feederLoop 0, .next 1, .next 1, .next 1,
        .stop 2, .destroy 2] :=
  feeder_lifecycle _ (by decide)

/-- The destructor's `Stop` comes between the exchange of the first `Stop` and the assignment of the
`Start` before it, and destroys a joinable thread. -/
theorem not_feeder_lifecycle :
    ¬ ∀ events : List (FeederEvent Nat), Always step Lawful {} events := by
  intro h
  have hlast := (h [.start 0, .stop 1, .next 1, .next 1, .next 1, .next 0, .next 0, .next 0,
    .stop 2, .destroy 2]).last.neverTerminates
  exact absurd hlast (by decide)

/-! ## What the excluded calls can lead to -/

/-- A `Start` that sets the flag before the `join` of a `Stop` assigns to a joinable thread. -/
theorem start_overtakes_join (h : Sound s) (hdestroyed : s.destroyed = false) {call other : ι}
    (hcall : s.calls call = .notBegun) (hflag : s.feederRunning = false)
    (hother : (s.calls other).joining) :
    (Runs.final step s [.start call, .next call, .next call, .next call]).terminated := by
  have hthread := (h.joins other hother).2
  simp [step, start, next, assignThread, setCall, h.neverTerminates, hdestroyed, hcall, hflag,
    Option.isSome_iff_ne_none, hthread]

/-- A `Stop` that clears the flag between the exchange of a `Start` and its assignment has nothing to
join; destroying the members after it destroys a joinable thread. -/
theorem stop_overtakes_start (h : Sound s) (hdestroyed : s.destroyed = false) {call other : ι}
    (hcall : s.calls call = .notBegun) (hflag : s.feederRunning = true)
    (hother : (s.calls other).starting) :
    (Runs.final step s [.stop call, .next call, .next call, .next call, .next other, .next other,
      .next other, .destroy call]).terminated := by
  obtain ⟨-, hthread, -⟩ := h.starting other hother
  have hne : other ≠ call := by
    rintro rfl
    rw [hcall] at hother
    cases hother
  cases hphase : s.calls other with
  | startInput | startOutput | assignThread =>
    simp [step, stop, next, assignThread, setCall, destroy, FeederCall.stopReturned,
      h.neverTerminates, hdestroyed, hcall, hflag, hthread, hphase, Function.update_of_ne hne,
      Function.update_of_ne hne.symm]
  | _ =>
    rw [hphase] at hother
    cases hother

end RingRtcSipBridge

end Signal2sip.Voip
