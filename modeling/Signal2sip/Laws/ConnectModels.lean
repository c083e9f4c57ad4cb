import Signal2sip.Daemon.MainLoop
import Signal2sip.Laws.ConnectHandOff
import Signal2sip.Signal.AuthSocket
import Signal2sip.Signal.ChatHandle

/-!
# One `doConnect`

Three models cut `AuthSocket::Impl::doConnect` into steps, each around another part of the object: its
two flags, the handle in `chat`, and the state that it shares with the completion callback. The main
loop takes it for one step. Here the four are put side by side.

- `sameConnect_run`: until `close`, the flags can follow whatever happens to the handle, with the same
  `connected` and at the same place in `doConnect`;
- `doConnect_answers`: the connection that the shared state tells the other two of is open, and where it
  tells them of none, none is left over;
- `doConnect_returns`, `doConnect_throws`, `callback_interrupts`: with nothing in between, `doConnect`
  and a callback are the step that the main loop takes them for.
-/

namespace Signal2sip

open Runs (Along Always final)

/-! ## The handle and the flags -/

namespace ChatHandle.Impl

variable {ι : Type} {s s' : Impl ι} {flags : AuthSocket.Impl}

/-- Where in `doConnect` the flags are, for a place of the main thread outside of `close`. -/
def connectStep : Owner → Option AuthSocket.ConnectStep
  | .idle | .clearConnected _ => some .idle
  | .disconnect (.doConnect _) | .destroy (.doConnect _) _ | .reset (.doConnect _) => some .cleared
  | .connecting _ => some .dropped
  | .assign _ _ | .initListener _ => some .opened
  | .storeConnected _ => some .listening
  | .disconnect .close | .destroy .close _ | .reset .close | .joining | .clearClosed | .closed => none

structure SameConnect (s : Impl ι) (flags : AuthSocket.Impl) : Prop where
  connected : flags.connected = s.connected
  at_ : connectStep s.owner = some flags.at_

theorem sameConnect_start : SameConnect ({} : Impl ι) {} := ⟨rfl, rfl⟩

/-- The flags need not move. -/
theorem SameConnect.stay (h : SameConnect s flags) (hconnected : s'.connected = s.connected)
    (howner : connectStep s'.owner = connectStep s.owner) :
    ∃ events, SameConnect s' (final AuthSocket.Impl.step flags events) :=
  ⟨[], h.connected.trans hconnected.symm, howner.trans h.at_⟩

theorem SameConnect.at_eq (h : SameConnect s flags) {at_ : AuthSocket.ConnectStep}
    (howner : connectStep s.owner = some at_) : flags.at_ = at_ :=
  Option.some.inj (h.at_.symm.trans howner)

theorem sameConnect_owner (h : SameConnect s flags) :
    ∃ events, SameConnect s.ownerStep (final AuthSocket.Impl.step flags events) := by
  have hclose (hnone : connectStep s.owner = none) :
      ∃ events, SameConnect s.ownerStep (final AuthSocket.Impl.step flags events) := by
    rw [h.at_] at hnone
    cases hnone
  unfold ownerStep at hclose ⊢
  cases howner : s.owner with
  | clearConnected starts =>
    have hat : flags.at_ = .idle := h.at_eq (by rw [howner]; rfl)
    refine ⟨[.clearConnected], ?_, ?_⟩ <;>
      simp [final, AuthSocket.Impl.step, AuthSocket.Impl.doConnect, hat, connectStep]
  | disconnect teardown =>
    cases teardown with
    | doConnect starts => cases s.chat <;> exact h.stay rfl (by rw [howner]; rfl)
    | close => simpa [howner] using hclose (by rw [howner]; rfl)
  | destroy teardown handle =>
    cases teardown with
    | doConnect starts => exact h.stay rfl (by rw [howner]; rfl)
    | close => simpa [howner] using hclose (by rw [howner]; rfl)
  | reset teardown =>
    cases teardown with
    | doConnect starts =>
      have hat : flags.at_ = .cleared := h.at_eq (by rw [howner]; rfl)
      refine ⟨[.dropOld], ?_, ?_⟩ <;>
        simp [final, AuthSocket.Impl.step, AuthSocket.Impl.doConnect, hat, connectStep, h.connected]
    | close => simpa [howner] using hclose (by rw [howner]; rfl)
  | assign starts handle => exact h.stay rfl (by rw [howner]; rfl)
  | storeConnected starts =>
    have hat : flags.at_ = .listening := h.at_eq (by rw [howner]; rfl)
    refine ⟨[.storeAuthorized, .storeConnected], ?_, ?_⟩ <;>
      simp [final, AuthSocket.Impl.step, AuthSocket.Impl.doConnect, hat, connectStep]
  | joining => simpa [howner] using hclose (by rw [howner]; rfl)
  | clearClosed => simpa [howner] using hclose (by rw [howner]; rfl)
  | closed => simpa [howner] using hclose (by rw [howner]; rfl)
  | idle => exact h.stay rfl (by rw [howner])
  | connecting starts => exact h.stay rfl (by rw [howner])
  | initListener starts => exact h.stay rfl (by rw [howner])

variable [DecidableEq ι]

theorem requestStep_kept (s : Impl ι) (caller : Caller ι) :
    (s.requestStep caller).connected = s.connected ∧ (s.requestStep caller).owner = s.owner := by
  unfold requestStep
  split
  · exact ⟨rfl, rfl⟩
  · exact ⟨rfl, rfl⟩
  · split <;> exact ⟨rfl, rfl⟩
  · exact ⟨rfl, rfl⟩
  · exact ⟨rfl, rfl⟩

theorem sameConnect_step {e : ImplEvent ι} (h : SameConnect s flags) (hopen : e ≠ .close) :
    ∃ events, SameConnect (s.step e) (final AuthSocket.Impl.step flags events) := by
  cases e with
  | connect =>
    simp only [step]
    split
    · next hidle => exact h.stay rfl (by rw [hidle.1]; rfl)
    · exact h.stay rfl rfl
  | reconnect =>
    simp only [step]
    split
    · next hidle => exact h.stay rfl (by rw [hidle.1]; rfl)
    · exact h.stay rfl rfl
  | close => exact absurd rfl hopen
  | owner => exact sameConnect_owner h
  | connectReturns ok =>
    simp only [step]
    split
    · next starts howner =>
      have hat : flags.at_ = .dropped := h.at_eq (by rw [howner]; rfl)
      cases ok with
      | true =>
        refine ⟨[.connectOpens], ?_, ?_⟩ <;>
          simp [final, AuthSocket.Impl.step, AuthSocket.Impl.doConnect, hat, connectStep, h.connected]
      | false =>
        refine ⟨[.connectFails false], ?_, ?_⟩ <;>
          simp [final, AuthSocket.Impl.step, AuthSocket.Impl.doConnect, hat, connectStep, h.connected]
    · exact h.stay rfl rfl
  | listenReturns ok =>
    simp only [step]
    split
    · next starts howner =>
      have hat : flags.at_ = .opened := h.at_eq (by rw [howner]; rfl)
      cases ok with
      | true =>
        refine ⟨[.listen], ?_, ?_⟩ <;>
          simp [final, AuthSocket.Impl.step, AuthSocket.Impl.doConnect, hat, connectStep, h.connected]
      | false =>
        refine ⟨[.listenFails], ?_, ?_⟩ <;>
          simp [final, AuthSocket.Impl.step, AuthSocket.Impl.doConnect, hat, connectStep, h.connected]
    · exact h.stay rfl rfl
  | interrupted =>
    refine ⟨[.interrupt flags.connection false], ?_, ?_⟩ <;>
      simp [final, AuthSocket.Impl.step, AuthSocket.Impl.interrupt, step, h.at_]
  | keepAlive =>
    simp only [step, keepAliveLoop]
    split
    · split <;> exact h.stay rfl rfl
    · exact h.stay rfl rfl
  | request i =>
    simp only [step]
    split <;> exact h.stay rfl rfl
  | next caller =>
    obtain ⟨hconnected, howner⟩ := requestStep_kept s caller
    exact h.stay hconnected (congrArg connectStep howner)
  | complete caller =>
    simp only [step, complete]
    split <;> exact h.stay rfl rfl

/-- In every run of connects, reconnects, requests and interruptions, the flags can follow the handle. -/
theorem sameConnect_run {events : List (ImplEvent ι)}
    (hopen : Along step (fun _ e => e ≠ .close) {} events) :
    ∃ flagEvents, SameConnect (final step {} events) (final AuthSocket.Impl.step {} flagEvents) :=
  Runs.exists_final_of_along (fun _ _ _ => sameConnect_step) sameConnect_start hopen

end ChatHandle.Impl

/-! ## The shared state and the connection -/

namespace ConnectState

variable {late : Bool} {s : Attempt}

/-- Whether `doConnect` goes on with a connection, once it has its answer. -/
def Attempt.answer (s : Attempt) : Option Bool :=
  match s.waiter with
  | .returned => some (!s.error && s.result)
  | .gaveUp | .refused => some false
  | _ => none

/-- What the callback has handed over is there. -/
def Delivered (s : Attempt) : Prop :=
  match s.callback with
  | .pending | .refused => s.connection = .none
  | .unlocking | .notifying | .returned =>
    s.connection = (if s.result then .opened else .none) ∧ (s.result = true → s.error = false)
  | _ => True

theorem Delivered.of_kept {s' : Attempt} (h : Delivered s) (hcallback : s'.callback = s.callback)
    (hconnection : s'.connection = s.connection) (hresult : s'.result = s.result)
    (herror : s'.error = s.error) : Delivered s' := by
  unfold Delivered at h ⊢
  rw [hcallback, hconnection, hresult, herror]
  exact h

theorem delivered_waiterStep (h : Delivered s) : Delivered s.waiterStep := by
  unfold Attempt.waiterStep
  split
  · split <;> exact h.of_kept rfl rfl rfl rfl
  · split
    · exact h.of_kept rfl rfl rfl rfl
    · split <;> exact h.of_kept rfl rfl rfl rfl
  all_goals exact h.of_kept rfl rfl rfl rfl

theorem wake_kept (s : Attempt) (timedOut : Bool) :
    (s.wake timedOut).connection = s.connection ∧ (s.wake timedOut).result = s.result ∧
      (s.wake timedOut).error = s.error ∧ (s.wake timedOut).callback = s.callback := by
  unfold Attempt.wake
  split <;> exact ⟨rfl, rfl, rfl, rfl⟩

theorem delivered_callbackStep (hsound : Sound true s) (h : Delivered s) :
    Delivered (s.callbackStep true) := by
  have hconnection := hsound.connection rfl
  unfold Attempt.callbackStep
  cases hcallback : s.callback with
  | writing c =>
    rw [hcallback] at hconnection
    simp only
    split
    · trivial
    · refine ⟨hconnection, fun hresult => ?_⟩
      simpa using (Bool.and_eq_true_iff.mp (show (!c.error && c.result) = true from hresult)).1
  | locking c =>
    simp only
    split
    · trivial
    · rw [Delivered, hcallback]
      trivial
  | unlocking =>
    rw [Delivered, hcallback] at h
    exact h
  | notifying =>
    rw [Delivered, hcallback] at h
    obtain ⟨hkept, hresult, herror, -⟩ := wake_kept s false
    show _ ∧ _
    rw [hkept, hresult, herror]
    exact h
  | cleaning c => cases hconnected : c.connected <;> simp [Delivered, hconnected]
  | pending => exact h
  | refused => exact h
  | returned => exact h
  | cleanedUp => exact h
  | unlockingAbandoned c => trivial
  | disconnecting => trivial
  | destroying => trivial
  | deleting => trivial

theorem delivered_step (e : AttemptEvent) (hsound : Sound true s) (h : Delivered s) :
    Delivered (doConnect s e) := by
  unfold doConnect Attempt.step
  rw [if_neg (by rw [hsound.untouched]; decide), if_neg (by rw [hsound.touchesDead]; decide)]
  cases e with
  | callReturns callErr =>
    simp only [Attempt.callReturns]
    split
    · split
      · split
        · next hpending =>
          rw [Delivered, hpending] at h
          exact h
        · exact h
      · exact h.of_kept rfl rfl rfl rfl
    · exact h
  | waiter => exact delivered_waiterStep h
  | wake timedOut =>
    obtain ⟨hconnection, hresult, herror, hcallback⟩ := wake_kept s timedOut
    exact h.of_kept hcallback hconnection hresult herror
  | complete c =>
    simp only [Attempt.complete]
    split
    · trivial
    · exact h
  | callback => exact delivered_callbackStep hsound h

/-- The connection that `doConnect` goes on with is open. When it gives up, fails or is refused, and the
callback is done, no connection is left over. -/
theorem doConnect_answers {events : List AttemptEvent} (h : Along doConnect Notified {} events) :
    let s := final doConnect {} events
    (s.answer = some true → s.connection = .opened) ∧
      (s.answer = some false → s.callback.finished →
        s.connection = .none ∨ s.connection = .destroyed) := by
  intro s
  have hboth : Always doConnect (fun s => Sound true s ∧ Delivered s) {} events :=
    Always.of_along (fun s e hs hn => ⟨sound_step s e hs.1 hn, delivered_step e hs.1 hs.2⟩)
      ⟨sound_init, rfl⟩ h
  obtain ⟨hsound, hdelivered⟩ : Sound true s ∧ Delivered s := hboth.last
  cases hwaiter : s.waiter with
  | returned =>
    have hcallback := hsound.notified hwaiter
    rw [Delivered, hcallback] at hdelivered
    obtain ⟨hconnection, herror⟩ := hdelivered
    simp only [Attempt.answer, hwaiter, Option.some.injEq]
    constructor
    · intro hanswer
      rw [hconnection, if_pos (Bool.and_eq_true_iff.mp hanswer).2]
    · intro hanswer _
      cases hresult : s.result with
      | true =>
        rw [herror hresult, hresult] at hanswer
        cases hanswer
      | false =>
        rw [hresult] at hconnection
        exact .inl hconnection
  | gaveUp =>
    refine ⟨fun hanswer => ?_, fun _ hfinished => ?_⟩
    · simp [Attempt.answer, hwaiter] at hanswer
    · rcases hsound.owned.late rfl hwaiter hfinished with hnone | hdestroyed
      · exact .inl hnone
      · exact .inr hdestroyed
  | refused =>
    refine ⟨fun hanswer => ?_, fun _ _ => ?_⟩
    · simp [Attempt.answer, hwaiter] at hanswer
    · have hcallback := hsound.refused.mpr (by rw [hwaiter]; rfl)
      rw [Delivered, hcallback] at hdelivered
      exact .inl hdelivered
  | _ => simp [Attempt.answer, hwaiter]

end ConnectState

/-! ## The main loop's step -/

namespace AuthSocket.Impl

/-- The two flags that the rest of the daemon reads. -/
def flags (s : Impl) : AuthSocket where
  connected := s.connected
  deauthorized := s.deauthorized

theorem doConnect_returns {s : Impl} (h : s.at_ = .idle) :
    (final step s [.clearConnected, .dropOld, .connectOpens, .listen, .storeAuthorized,
      .storeConnected]).flags = s.flags.reconnect (.connected false) := by
  simp [final, step, doConnect, h, flags, reconnect]

theorem doConnect_throws {s : Impl} (h : s.at_ = .idle) (deregistered : Bool) :
    (final step s [.clearConnected, .dropOld, .connectFails deregistered]).flags =
      s.flags.reconnect (.failed deregistered) := by
  simp [final, step, doConnect, h, flags, reconnect]

theorem callback_interrupts {s : Impl} (h : s.callbacks = []) (invalidated : Bool) :
    (final step s [.interrupt s.connection invalidated, .interruptRest 0]).flags =
      s.flags.interrupted invalidated := by
  simp [final, step, interrupt, interruptRest, h, flags, AuthSocket.interrupted]

end AuthSocket.Impl

end Signal2sip
