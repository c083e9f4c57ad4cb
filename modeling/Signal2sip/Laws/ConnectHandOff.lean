import Signal2sip.Lib.Run
import Signal2sip.Signal.ConnectState

/-!
# Who deletes the connect state

The state belongs to the waiting side until its wait ends. A wait that ends with the result leaves it
there, and the waiting side deletes it; a wait that ends without sets `abandoned` and leaves it to the
callback. Both sides decide under the mutex, so they agree on who deletes.

The callback that has handed over the result still has to notify, though, and does so after the
unlock. The waiting side needs no notification: it tests `done` before its first wait and after a
timeout. Once it has seen `done` it may delete the state at any time, and a notification that comes
after that is sent on a condition variable that is gone.

`Notified` says that the waiting side does not delete between the unlock and the notification.

- `handOff_owned`: the law along every run of that kind, for both functions;
- `handOff_owned_iff`: where no notification is outstanding at the end, these are the runs that keep
  the law.
-/

namespace Signal2sip.ConnectState

open Runs (Along Always)

variable {late : Bool} {s : Attempt}

def Waiter.finished : Waiter → Bool
  | .returned | .gaveUp | .refused => true
  | _ => false

def Callback.finished : Callback → Bool
  | .refused | .returned | .cleanedUp => true
  | _ => false

/-- Nothing uses the state after its `delete`, there is one `delete` when both sides are done and none
too many before, and a connection that comes too late is disconnected and destroyed. -/
structure Owned (disconnectsLate : Bool) (s : Attempt) : Prop where
  untouched : s.touchedDead = false
  deletedAtMostOnce : s.deletes ≤ 1
  deleted : s.waiter.finished → s.callback.finished → s.deletes = 1
  late : disconnectsLate → s.waiter = .gaveUp → s.callback.finished →
    s.connection = .none ∨ s.connection = .destroyed

/-- The waiting side does not delete the state between the callback's unlock and its notification. -/
def Notified (s : Attempt) (e : AttemptEvent) : Prop :=
  e = .waiter → s.waiter = .deleting → s.callback ≠ .notifying

instance (s : Attempt) (e : AttemptEvent) : Decidable (Notified s e) :=
  inferInstanceAs (Decidable (e = .waiter → s.waiter = .deleting → s.callback ≠ .notifying))

/-! ## Phases -/

namespace Waiter

/-- It has the mutex. -/
def holds : Waiter → Bool
  | .testing _ | .leaving | .givingUp => true
  | _ => false

/-- Its wait has ended with the result. -/
def got : Waiter → Bool
  | .leaving | .reading | .deleting | .returned => true
  | _ => false

/-- Its wait has ended without the result. -/
def gives : Waiter → Bool
  | .givingUp | .gaveUp => true
  | _ => false

/-- Its call was refused. -/
def wasRefused : Waiter → Bool
  | .deletingRefused | .refused => true
  | _ => false

/-- It has deleted the state. -/
def deleted : Waiter → Bool
  | .returned | .refused => true
  | _ => false

end Waiter

namespace Callback

/-- It has the mutex. -/
def holds : Callback → Bool
  | .writing _ | .unlocking | .unlockingAbandoned _ => true
  | _ => false

/-- It has handed the result over. -/
def told : Callback → Bool
  | .unlocking | .notifying | .returned => true
  | _ => false

/-- It has found the state abandoned. -/
def selfCleanup : Callback → Bool
  | .unlockingAbandoned _ | .cleaning _ | .disconnecting | .destroying | .deleting
  | .cleanedUp => true
  | _ => false

/-- It is neither at its end nor about to notify. -/
def midway : Callback → Bool
  | .refused | .notifying | .returned | .cleanedUp => false
  | _ => true

/-- What has become of the connection by then, where a late one is disconnected. -/
def ConnectionAt (connection : Connection) : Callback → Prop
  | .locking c | .writing c | .unlockingAbandoned c | .cleaning c =>
    connection = if c.connected then .opened else .none
  | .deleting | .cleanedUp => connection = .none ∨ connection = .destroyed
  | _ => True

end Callback

structure Sound (late : Bool) (s : Attempt) : Prop where
  untouched : s.touchedDead = false
  waiterHolds : s.waiter.holds = true ↔ s.mutex = some .waiter
  callbackHolds : s.callback.holds = true ↔ s.mutex = some .callback
  done : s.done = s.callback.told
  abandoned : s.abandoned = true ↔ s.waiter = .gaveUp
  selfCleanup : s.callback.selfCleanup = true → s.abandoned = true
  got : s.waiter.got = true → s.callback = .notifying ∨ s.callback = .returned
  refused : s.callback = .refused ↔ s.waiter.wasRefused = true
  gives : s.waiter.gives = true → s.done = false
  deletes : s.deletes = s.waiter.deleted.toNat + (decide (s.callback = .cleanedUp)).toNat
  notified : s.waiter = .returned → s.callback = .returned
  connection : late = true → s.callback.ConnectionAt s.connection

theorem sound_init : Sound late {} := by
  constructor <;> simp [Waiter.holds, Callback.holds, Callback.told, Callback.selfCleanup,
    Waiter.got, Waiter.wasRefused, Waiter.deleted, Callback.ConnectionAt]

/-- A state that has been deleted is used by nobody. -/
theorem Sound.touchesDead (h : Sound late s) (e : AttemptEvent) : s.touchesDead e = false := by
  have hdeletes := h.deletes
  unfold Attempt.touchesDead
  cases hwaiter : s.waiter with
  | returned =>
    rw [h.notified hwaiter]
    cases e <;> simp [Waiter.touches, Callback.touches]
  | refused =>
    rw [h.refused.mpr (by rw [hwaiter]; rfl)]
    cases e <;> simp [Waiter.touches, Callback.touches]
  | gaveUp =>
    cases hcallback : s.callback with
    | cleanedUp => cases e <;> simp [Waiter.touches, Callback.touches]
    | _ => simp [hdeletes, hwaiter, hcallback, Waiter.deleted]
  | _ =>
    have hcallback : s.callback ≠ .cleanedUp := by
      intro hcleaned
      have := h.abandoned.mp (h.selfCleanup (by rw [hcleaned]; rfl))
      rw [hwaiter] at this
      cases this
    simp [hdeletes, hwaiter, hcallback, Waiter.deleted]

/-! ## One step -/

namespace Sound

theorem waiter_waits (h : Sound late s) (hmutex : s.mutex ≠ some .waiter) :
    ¬ s.waiter.holds = true :=
  fun hholds => hmutex (h.waiterHolds.mp hholds)

theorem callback_waits (h : Sound late s) (hmutex : s.mutex ≠ some .callback) :
    ¬ s.callback.holds = true :=
  fun hholds => hmutex (h.callbackHolds.mp hholds)

theorem not_abandoned (h : Sound late s) (hwaiter : s.waiter ≠ .gaveUp) : ¬ s.abandoned = true :=
  fun habandoned => hwaiter (h.abandoned.mp habandoned)

theorem not_got (h : Sound late s) (hmidway : s.callback.midway = true) :
    ¬ s.waiter.got = true := by
  intro hgot
  obtain hcallback | hcallback := h.got hgot
  all_goals
    rw [hcallback] at hmidway
    cases hmidway

theorem not_returned (h : Sound late s) (hmidway : s.callback.midway = true) :
    s.waiter ≠ .returned :=
  fun hreturned => h.not_got hmidway (by rw [hreturned]; rfl)

theorem not_refused (h : Sound late s) (hmidway : s.callback.midway = true) :
    ¬ s.waiter.wasRefused = true := by
  intro hrefused
  rw [h.refused.mpr hrefused] at hmidway
  cases hmidway

theorem deletes_midway (h : Sound late s) (hmidway : s.callback.midway = true) :
    s.deletes = s.waiter.deleted.toNat := by
  have hcallback : s.callback ≠ .cleanedUp := by
    intro hcleaned
    rw [hcleaned] at hmidway
    cases hmidway
  simpa [hcallback] using h.deletes

/-- The waiting side goes on. It gives nothing up and deletes nothing. -/
theorem waiter_moves (h : Sound late s) {before waiter : Waiter} {mutex : Option Side}
    (hbefore : s.waiter = before) (hgaveUp : before ≠ .gaveUp) (hgaveUp' : waiter ≠ .gaveUp)
    (hwaiter : waiter.holds = true ↔ mutex = some .waiter)
    (hcallback : s.callback.holds = true ↔ mutex = some .callback)
    (hgot : waiter.got = true → s.callback = .notifying ∨ s.callback = .returned)
    (hrefused : waiter.wasRefused = before.wasRefused)
    (hgives : waiter.gives = true → s.done = false)
    (hdeleted : waiter.deleted = before.deleted) (hreturned : waiter ≠ .returned) :
    Sound late { s with mutex := mutex, waiter := waiter } := by
  subst hbefore
  exact { h with
    waiterHolds := hwaiter
    callbackHolds := hcallback
    abandoned := iff_of_false (h.not_abandoned hgaveUp) hgaveUp'
    got := hgot
    refused := hrefused ▸ h.refused
    gives := hgives
    deletes := hdeleted ▸ h.deletes
    notified := fun hwaiter => absurd hwaiter hreturned }

/-- The callback goes on. It hands nothing over and deletes nothing. -/
theorem callback_moves (h : Sound late s) {before callback : Callback} {mutex : Option Side}
    {connection : Connection} (hbefore : s.callback = before) (hmidway : before.midway = true)
    (hwaiter : s.waiter.holds = true ↔ mutex = some .waiter)
    (hcallback : callback.holds = true ↔ mutex = some .callback)
    (htold : callback.told = before.told)
    (hself : callback.selfCleanup = true → s.abandoned = true) (hrefused : callback ≠ .refused)
    (hcleanedUp : callback ≠ .cleanedUp)
    (hconnection : late = true → callback.ConnectionAt connection) :
    Sound late { s with mutex := mutex, callback := callback, connection := connection } := by
  subst hbefore
  exact { h with
    waiterHolds := hwaiter
    callbackHolds := hcallback
    done := h.done.trans htold.symm
    selfCleanup := hself
    got := fun hgot => absurd hgot (h.not_got hmidway)
    refused := iff_of_false hrefused (h.not_refused hmidway)
    deletes := by simpa [hcleanedUp] using h.deletes_midway hmidway
    notified := fun hreturned => absurd hreturned (h.not_returned hmidway)
    connection := hconnection }

end Sound

theorem sound_callReturns (h : Sound late s) (callErr : Bool) :
    Sound late (s.callReturns callErr) := by
  unfold Attempt.callReturns
  split
  · next hwaiter =>
    have hmutex := h.waiterHolds
    rw [hwaiter] at hmutex
    split
    · split
      · next hcallback =>
        -- the promise is never completed
        have hfree := h.callbackHolds
        have hdone := h.done
        have hdeletes := h.deletes
        rw [hcallback] at hfree hdone hdeletes
        rw [hwaiter] at hdeletes
        exact { h with
          waiterHolds := hmutex
          callbackHolds := hfree
          done := hdone
          abandoned := iff_of_false (h.not_abandoned (by rw [hwaiter]; nofun)) nofun
          selfCleanup := nofun
          got := nofun
          refused := ⟨fun _ => rfl, fun _ => rfl⟩
          gives := nofun
          deletes := hdeletes
          notified := nofun
          connection := fun _ => trivial }
      · exact h
    · exact h.waiter_moves hwaiter nofun nofun hmutex h.callbackHolds nofun rfl nofun rfl nofun
  · exact h

/-- The waiting side, one phase after the other. It has the result only after the callback's unlock,
and it gives up only before the callback's write. -/
theorem sound_waiterStep (h : Sound late s)
    (hnotified : s.waiter = .deleting → s.callback ≠ .notifying) : Sound late s.waiterStep := by
  have hmutex := h.waiterHolds
  have hgot := h.got
  have hrefused := h.refused
  have hdeletes := h.deletes
  unfold Attempt.waiterStep
  cases hwaiter : s.waiter with
  | locking timedOut =>
    simp only
    cases hfree : s.mutex with
    | none =>
      have hcallback := h.callback_waits (by rw [hfree]; nofun)
      exact h.waiter_moves hwaiter nofun nofun ⟨fun _ => rfl, fun _ => rfl⟩
        (iff_of_false hcallback nofun) nofun rfl nofun rfl nofun
    | some holder => exact h
  | testing timedOut =>
    rw [hwaiter] at hmutex
    have hcallback := h.callback_waits (by rw [hmutex.mp rfl]; nofun)
    simp only
    split
    · next hdone =>
      -- the callback has written and unlocked
      have htold : s.callback = .notifying ∨ s.callback = .returned := by
        have htold := h.done.symm.trans hdone
        cases hphase : s.callback with
        | notifying => exact .inl rfl
        | returned => exact .inr rfl
        | unlocking => exact absurd (by rw [hphase]; rfl) hcallback
        | _ =>
          rw [hphase] at htold
          cases htold
      exact h.waiter_moves hwaiter nofun nofun hmutex h.callbackHolds (fun _ => htold) rfl nofun
        rfl nofun
    · next hdone =>
      split
      · exact h.waiter_moves hwaiter nofun nofun hmutex h.callbackHolds nofun rfl
          (fun _ => by simpa using hdone) rfl nofun
      · exact h.waiter_moves hwaiter nofun nofun ⟨nofun, nofun⟩ (iff_of_false hcallback nofun)
          nofun rfl nofun rfl nofun
  | leaving =>
    rw [hwaiter] at hmutex hgot
    have hcallback := h.callback_waits (by rw [hmutex.mp rfl]; nofun)
    exact h.waiter_moves hwaiter nofun nofun ⟨nofun, nofun⟩ (iff_of_false hcallback nofun) hgot rfl
      nofun rfl nofun
  | reading =>
    rw [hwaiter] at hmutex hgot
    exact h.waiter_moves hwaiter nofun nofun hmutex h.callbackHolds hgot rfl nofun rfl nofun
  | deleting =>
    rw [hwaiter] at hmutex hgot hrefused hdeletes
    have hreturned : s.callback = .returned := (hgot rfl).resolve_left (hnotified hwaiter)
    rw [hreturned] at hdeletes
    exact { h with
      waiterHolds := hmutex
      abandoned := iff_of_false (h.not_abandoned (by rw [hwaiter]; nofun)) nofun
      got := hgot
      refused := hrefused
      gives := nofun
      deletes := by rw [hdeletes, hreturned]; rfl
      notified := fun _ => hreturned }
  | givingUp =>
    rw [hwaiter] at hmutex hrefused hdeletes
    have hcallback := h.callback_waits (by rw [hmutex.mp rfl]; nofun)
    have hdone := h.gives (by rw [hwaiter]; rfl)
    exact { h with
      waiterHolds := ⟨nofun, nofun⟩
      callbackHolds := iff_of_false hcallback nofun
      abandoned := ⟨fun _ => rfl, fun _ => rfl⟩
      selfCleanup := fun _ => rfl
      got := nofun
      refused := hrefused
      gives := fun _ => hdone
      deletes := hdeletes
      notified := nofun }
  | deletingRefused =>
    rw [hwaiter] at hmutex hrefused hdeletes
    have hcallback := hrefused.mpr rfl
    rw [hcallback] at hdeletes
    exact { h with
      waiterHolds := hmutex
      abandoned := iff_of_false (h.not_abandoned (by rw [hwaiter]; nofun)) nofun
      got := nofun
      refused := hrefused
      gives := nofun
      deletes := by rw [hdeletes, hcallback]; rfl
      notified := nofun }
  | calling | waiting | returned | gaveUp | refused => exact h

/-- A wake-up changes nothing but where the waiting side is. -/
theorem sound_wake (h : Sound late s) (timedOut : Bool) : Sound late (s.wake timedOut) := by
  have hmutex := h.waiterHolds
  unfold Attempt.wake
  split
  · next hwaiter =>
    rw [hwaiter] at hmutex
    exact h.waiter_moves hwaiter nofun nofun hmutex h.callbackHolds nofun rfl nofun rfl nofun
  · exact h

theorem sound_complete (h : Sound late s) (c : Completion) : Sound late (s.complete c) := by
  have hmutex := h.callbackHolds
  unfold Attempt.complete
  split
  · next hcallback =>
    rw [hcallback] at hmutex
    exact h.callback_moves hcallback rfl h.waiterHolds hmutex rfl nofun nofun nofun fun _ => rfl
  · exact h

/-- The callback, one phase after the other. What it finds under the mutex decides who deletes. -/
theorem sound_callbackStep (h : Sound late s) : Sound late (s.callbackStep late) := by
  have hmutex := h.callbackHolds
  have hcleanup := h.selfCleanup
  have hconnection := h.connection
  unfold Attempt.callbackStep
  cases hcallback : s.callback with
  | locking c =>
    rw [hcallback] at hconnection
    simp only
    cases hfree : s.mutex with
    | none =>
      have hwaiter := h.waiter_waits (by rw [hfree]; nofun)
      exact h.callback_moves hcallback rfl (iff_of_false hwaiter nofun)
        ⟨fun _ => rfl, fun _ => rfl⟩ rfl nofun nofun nofun hconnection
    | some holder => exact h
  | writing c =>
    rw [hcallback] at hmutex hconnection
    simp only
    split
    · next hset =>
      exact h.callback_moves hcallback rfl h.waiterHolds hmutex rfl (fun _ => hset) nofun nofun
        hconnection
    · next hset =>
      -- the waiting side has not given up, nor can it before the unlock
      have hwaiter := h.waiter_waits (by rw [hmutex.mp rfl]; nofun)
      have hmidway : s.callback.midway = true := by
        rw [hcallback]
        rfl
      have hgives : ¬ s.waiter.gives = true := by
        intro hgives
        cases hphase : s.waiter with
        | givingUp => exact hwaiter (by rw [hphase]; rfl)
        | gaveUp => exact hset (h.abandoned.mpr hphase)
        | _ =>
          rw [hphase] at hgives
          cases hgives
      exact { h with
        callbackHolds := hmutex
        done := rfl
        selfCleanup := nofun
        got := fun hgot => absurd hgot (h.not_got hmidway)
        refused := iff_of_false nofun (h.not_refused hmidway)
        gives := fun hgave => absurd hgave hgives
        deletes := h.deletes_midway hmidway
        notified := fun hreturned => absurd hreturned (h.not_returned hmidway)
        connection := fun _ => trivial }
  | unlocking =>
    rw [hcallback] at hmutex
    have hwaiter := h.waiter_waits (by rw [hmutex.mp rfl]; nofun)
    exact h.callback_moves hcallback rfl (iff_of_false hwaiter nofun) ⟨nofun, nofun⟩ rfl nofun
      nofun nofun fun _ => trivial
  | notifying =>
    have hwake := sound_wake h false
    have hstill : (s.wake false).callback = .notifying := by
      rw [← hcallback, Attempt.wake]
      split <;> rfl
    have hfree := hwake.callbackHolds
    have hdone := hwake.done
    have hrefused := hwake.refused
    have hdeletes := hwake.deletes
    rw [hstill] at hfree hdone hrefused hdeletes
    exact { hwake with
      callbackHolds := hfree
      done := hdone
      selfCleanup := nofun
      got := fun _ => .inr rfl
      refused := iff_of_false nofun fun hwas => nomatch hrefused.mpr hwas
      deletes := hdeletes
      notified := fun _ => rfl
      connection := fun _ => trivial }
  | unlockingAbandoned c =>
    rw [hcallback] at hmutex hcleanup hconnection
    have hwaiter := h.waiter_waits (by rw [hmutex.mp rfl]; nofun)
    exact h.callback_moves hcallback rfl (iff_of_false hwaiter nofun) ⟨nofun, nofun⟩ rfl hcleanup
      nofun nofun hconnection
  | cleaning c =>
    rw [hcallback] at hmutex hcleanup hconnection
    simp only
    split
    · exact h.callback_moves hcallback rfl h.waiterHolds hmutex rfl hcleanup nofun nofun
        fun _ => trivial
    · next hnot =>
      refine h.callback_moves hcallback rfl h.waiterHolds hmutex rfl hcleanup nofun nofun
        fun hlate => .inl ?_
      have hlost : c.connected = false := by simpa [hlate] using hnot
      simpa [Callback.ConnectionAt, hlost] using hconnection hlate
  | disconnecting =>
    rw [hcallback] at hmutex hcleanup
    exact h.callback_moves hcallback rfl h.waiterHolds hmutex rfl hcleanup nofun nofun
      fun _ => trivial
  | destroying =>
    rw [hcallback] at hmutex hcleanup
    exact h.callback_moves hcallback rfl h.waiterHolds hmutex rfl hcleanup nofun nofun
      fun _ => .inr rfl
  | deleting =>
    rw [hcallback] at hmutex hcleanup hconnection
    have hmidway : s.callback.midway = true := by
      rw [hcallback]
      rfl
    have hdone := h.done
    rw [hcallback] at hdone
    exact { h with
      callbackHolds := hmutex
      done := hdone
      selfCleanup := hcleanup
      got := fun hgot => absurd hgot (h.not_got hmidway)
      refused := iff_of_false nofun (h.not_refused hmidway)
      deletes := by rw [h.deletes_midway hmidway]; rfl
      notified := fun hreturned => absurd hreturned (h.not_returned hmidway)
      connection := hconnection }
  | pending | refused | returned | cleanedUp => exact h

theorem sound_step (s : Attempt) (e : AttemptEvent) (h : Sound late s) (hnotified : Notified s e) :
    Sound late (Attempt.step late s e) := by
  unfold Attempt.step
  rw [h.untouched, h.touchesDead e]
  cases e with
  | callReturns callErr => exact sound_callReturns h callErr
  | waiter => exact sound_waiterStep h (hnotified rfl)
  | wake timedOut => exact sound_wake h timedOut
  | complete c => exact sound_complete h c
  | callback => exact sound_callbackStep h

/-! ## The law along runs -/

/-- A callback that is done after a timeout has found the state abandoned. -/
theorem Sound.cleanedUp (h : Sound late s) (hwaiter : s.waiter = .gaveUp)
    (hcallback : s.callback.finished = true) : s.callback = .cleanedUp := by
  have hdone := h.done
  have hrefused := h.refused
  rw [h.gives (by rw [hwaiter]; rfl)] at hdone
  rw [hwaiter] at hrefused
  cases hphase : s.callback with
  | cleanedUp => rfl
  | refused => cases hrefused.mp hphase
  | returned =>
    rw [hphase] at hdone
    cases hdone
  | _ =>
    rw [hphase] at hcallback
    cases hcallback

theorem Sound.owned (h : Sound late s) : Owned late s where
  untouched := h.untouched
  deletedAtMostOnce := by
    rw [h.deletes]
    by_cases hcleaned : s.callback = .cleanedUp
    · rw [h.abandoned.mp (h.selfCleanup (by rw [hcleaned]; rfl)), hcleaned]
      decide
    · simpa [hcleaned] using Bool.toNat_le _
  deleted hwaiter hcallback := by
    rw [h.deletes]
    cases hphase : s.waiter with
    | returned =>
      rw [h.notified hphase]
      rfl
    | refused =>
      rw [h.refused.mpr (by rw [hphase]; rfl)]
      rfl
    | gaveUp =>
      rw [h.cleanedUp hphase hcallback]
      rfl
    | _ =>
      rw [hphase] at hwaiter
      cases hwaiter
  late hlate hwaiter hcallback := by
    simpa [h.cleanedUp hwaiter hcallback, Callback.ConnectionAt] using h.connection hlate

theorem sound_along {events : List AttemptEvent}
    (h : Along (Attempt.step late) Notified {} events) :
    Always (Attempt.step late) (Sound late) {} events :=
  Always.of_along sound_step sound_init h

/-- The side that finds the other one gone deletes the state, and nobody uses it afterwards. -/
theorem handOff_owned (events : List AttemptEvent) :
    (Along doConnect Notified {} events → Always doConnect (Owned true) {} events) ∧
      (Along waitForProvisionMessage Notified {} events →
        Always waitForProvisionMessage (Owned false) {} events) :=
  ⟨fun h => (sound_along h).imp fun _ => Sound.owned,
    fun h => (sound_along h).imp fun _ => Sound.owned⟩

/-- `doConnect` times out before its connection comes, `waitForProvisionMessage` gets its connection
before it waits. -/
theorem handOff_owned_late_and_early :
    Always doConnect (Owned true) {} [.callReturns false, .waiter, .waiter, .wake true, .waiter,
        .waiter, .waiter, .complete ⟨false, true⟩, .callback, .callback, .callback, .callback,
        .callback, .callback, .callback] ∧
      Always waitForProvisionMessage (Owned false) {} [.complete ⟨false, true⟩, .callReturns false,
        .callback, .callback, .callback, .callback, .waiter, .waiter, .waiter, .waiter, .waiter] :=
  ⟨(handOff_owned _).1 (by decide), (handOff_owned _).2 (by decide)⟩

/-- The completion comes before the wait begins. The waiting side finds it done, returns with the
connection and deletes the state; the callback notifies. -/
theorem not_handOff_owned :
    ¬ ∀ events, Always doConnect (Owned true) {} events ∧
      Always waitForProvisionMessage (Owned false) {} events := by
  intro h
  have huntouched := (h [.callReturns false, .complete ⟨false, true⟩, .callback, .callback, .callback,
    .waiter, .waiter, .waiter, .waiter, .waiter, .callback]).1.last.untouched
  exact absurd huntouched (by decide)

/-! ## A notification that comes too late -/

/-- The callback is about to notify a waiting side that has deleted the state. -/
structure Dangling (s : Attempt) : Prop where
  returned : s.waiter = .returned
  notifying : s.callback = .notifying
  deleted : s.deletes ≠ 0

theorem dangling_step (h : Dangling s) (e : AttemptEvent) :
    Dangling (Attempt.step late s e) ∨ (Attempt.step late s e).touchedDead = true := by
  obtain ⟨hreturned, hnotifying, hdeleted⟩ := h
  unfold Attempt.step
  split
  · next hdead => exact .inr hdead
  · cases e with
    | callback => simp [Attempt.touchesDead, hdeleted, hnotifying, Callback.touches]
    | callReturns callErr =>
      simp [Attempt.touchesDead, Attempt.callReturns, hreturned]
      exact .inl ⟨hreturned, hnotifying, hdeleted⟩
    | waiter =>
      simp [Attempt.touchesDead, Attempt.waiterStep, hreturned, Waiter.touches]
      exact .inl ⟨hreturned, hnotifying, hdeleted⟩
    | wake timedOut =>
      simp [Attempt.touchesDead, Attempt.wake, hreturned, Waiter.touches]
      exact .inl ⟨hreturned, hnotifying, hdeleted⟩
    | complete c =>
      simp [Attempt.touchesDead, Attempt.complete, hnotifying]
      exact .inl ⟨hreturned, hnotifying, hdeleted⟩

theorem dangling_final (events : List AttemptEvent)
    (h : Dangling s ∨ s.touchedDead = true) :
    Dangling (Runs.final (Attempt.step late) s events) ∨
      (Runs.final (Attempt.step late) s events).touchedDead = true := by
  induction events generalizing s with
  | nil => exact h
  | cons e events ih =>
    refine ih ?_
    obtain hdangling | hdead := h
    · exact dangling_step hdangling e
    · simp [Attempt.step, hdead]

/-- A `delete` between the callback's unlock and its notification. -/
theorem dangling_of_deletes (late : Bool) (hwaiter : s.waiter = .deleting)
    (hcallback : s.callback = .notifying) :
    Dangling (Attempt.step late s .waiter) ∨ (Attempt.step late s .waiter).touchedDead = true := by
  unfold Attempt.step
  split
  · next hdead => exact .inr hdead
  · split
    · exact .inr rfl
    · simp only [Attempt.waiterStep, hwaiter]
      exact .inl ⟨rfl, hcallback, Nat.succ_ne_zero _⟩

/-- The runs that keep the law are those in which every notification finds its state, where the last
one has been sent. -/
theorem handOff_owned_iff {events : List AttemptEvent}
    (hsent : (Runs.final (Attempt.step late) {} events).callback = .notifying →
      (Runs.final (Attempt.step late) {} events).touchedDead = true) :
    Always (Attempt.step late) (Owned late) {} events ↔
      Along (Attempt.step late) Notified {} events := by
  refine ⟨fun h => ?_, fun h => (sound_along h).imp fun _ => Sound.owned⟩
  rw [Runs.along_iff_forall_prefix]
  rintro pre e post rfl rfl hwaiter hcallback
  rw [Runs.final_append, Runs.final_cons] at hsent
  have huntouched := h.last.untouched
  rw [Runs.final_append, Runs.final_cons] at huntouched
  obtain hdangling | hdead := dangling_final post (dangling_of_deletes late hwaiter hcallback)
  · rw [hsent hdangling.notifying] at huntouched
    cases huntouched
  · rw [hdead] at huntouched
    cases huntouched

end Signal2sip.ConnectState
