import Signal2sip.Lib.Run
import Signal2sip.Signal.ChatHandle

/-!
# Sends on the chat handle

A send uses its handle from the moment `doRequest` reads it until the promise completes. The main
thread destroys the handle in `chat` without asking who sends on it, and resets `chat` only afterwards.

`Undisturbed` says that neither happens: no handle is destroyed while a request sends on it, and none
is read between its destruction and the reset.

- `sends_alive_iff`: the runs of that kind are exactly those in which no send is on a destroyed
  handle;
- `close_waits_for_ping`: `close` never destroys the handle of a ping. Reconnecting may.
-/

namespace Signal2sip.ChatHandle

open Runs (Along Always)

variable {ι : Type} {s : Impl ι}

def SendsAlive (s : Impl ι) : Prop :=
  ∀ caller handle, s.requests caller = .sending handle → handle ∉ s.destroyed

def Undisturbed (s : Impl ι) : ImplEvent ι → Prop
  | .owner => ∀ teardown handle, s.owner = .destroy teardown handle →
      ∀ caller, s.requests caller ≠ .sending handle
  | .next caller => s.requests caller = .reading →
      ∀ teardown, s.owner = .reset teardown → s.chat = none
  | _ => True

/-- The main thread is in `close`, past the join. -/
def Owner.joined : Owner → Bool
  | .disconnect .close | .destroy .close _ | .reset .close | .clearClosed | .closed => true
  | _ => false

/-- Handles are numbered by `handles`, `chat` holds a destroyed one only until it is reset, and the
keepalive thread pings while it runs. -/
structure Sound (s : Impl ι) : Prop where
  numbered : ∀ handle ∈ s.destroyed, handle < s.handles
  chat : ∀ handle, s.chat = some handle → handle < s.handles ∧
    (handle ∈ s.destroyed ↔ ∃ teardown, s.owner = .reset teardown)
  destroying : ∀ teardown handle, s.owner = .destroy teardown handle → s.chat = some handle
  opened : ∀ starts handle, s.owner = .assign starts handle →
    handle < s.handles ∧ handle ∉ s.destroyed
  joined : s.owner.joined → s.keepAlive ≠ .running
  pings : s.keepAlive ≠ .running → s.requests .keepAlive = .idle

theorem sound_init : Sound ({} : Impl ι) where
  numbered := nofun
  chat := nofun
  destroying := nofun
  opened := nofun
  joined := nofun
  pings _ := rfl

/-! ## One step -/

/-- Where the main thread goes when it neither tears down nor opens a connection. -/
theorem Sound.goes (h : Sound s) (owner : Owner)
    (hreset : (∃ teardown, owner = .reset teardown) ↔ ∃ teardown, s.owner = .reset teardown)
    (hdestroy : ∀ teardown handle, owner = .destroy teardown handle → s.chat = some handle)
    (hassign : ∀ starts handle, owner ≠ .assign starts handle)
    (hjoined : owner.joined → s.keepAlive ≠ .running) : Sound { s with owner := owner } :=
  { h with
    chat := fun handle hchat => ⟨(h.chat handle hchat).1, (h.chat handle hchat).2.trans hreset.symm⟩
    destroying := hdestroy
    opened := fun starts handle howner => (hassign starts handle howner).elim
    joined := hjoined }

theorem sound_ownerStep (h : Sound s) : Sound s.ownerStep := by
  have hjoined := h.joined
  unfold Impl.ownerStep
  cases howner : s.owner with
  | clearConnected starts =>
    exact { h.goes (.disconnect (.doConnect starts)) (by simp [howner]) nofun nofun nofun with }
  | disconnect teardown =>
    rw [howner] at hjoined
    simp only
    split
    · next hnone =>
      refine { h with
        chat := fun handle hs => ?_
        destroying := nofun
        opened := nofun
        joined := ?_ }
      · rw [hnone] at hs
        cases hs
      · cases teardown with
        | doConnect starts => exact nofun
        | close => exact hjoined
    · next handle hsome =>
      refine h.goes _ (by simp [howner]) ?_ nofun ?_
      · rintro _ _ ⟨⟩
        exact hsome
      · cases teardown with
        | doConnect starts => exact nofun
        | close => exact hjoined
  | destroy teardown handle =>
    rw [howner] at hjoined
    have hsome := h.destroying teardown handle howner
    have hlt := (h.chat handle hsome).1
    refine { h with
      numbered := ?_
      chat := ?_
      destroying := nofun
      opened := nofun
      joined := ?_ }
    · intro other hmem
      obtain rfl | hmem := List.mem_cons.mp hmem
      · exact hlt
      · exact h.numbered other hmem
    · intro other hs
      rw [hsome] at hs
      cases hs
      exact ⟨hlt, fun _ => ⟨teardown, rfl⟩, fun _ => List.mem_cons_self⟩
    · cases teardown with
      | doConnect starts => exact nofun
      | close => exact hjoined
  | reset teardown =>
    rw [howner] at hjoined
    cases teardown with
    | doConnect starts =>
      exact { h with chat := nofun, destroying := nofun, opened := nofun, joined := nofun }
    | close =>
      exact { h with chat := nofun, destroying := nofun, opened := nofun, joined := hjoined }
  | assign starts handle =>
    obtain ⟨hlt, halive⟩ := h.opened starts handle howner
    refine { h with chat := ?_, destroying := nofun, opened := nofun, joined := nofun }
    rintro other ⟨⟩
    exact ⟨hlt, fun hdead => (halive hdead).elim, nofun⟩
  | storeConnected starts =>
    refine { h.goes .idle (by simp [howner]) nofun nofun nofun with
      joined := nofun
      pings := ?_ }
    cases starts with
    | true => exact fun hnot => (hnot rfl).elim
    | false => exact h.pings
  | joining =>
    simp only
    split
    · exact h
    · next hstopped => exact h.goes _ (by simp [howner]) nofun nofun fun _ => hstopped
  | clearClosed =>
    rw [howner] at hjoined
    exact { h.goes .closed (by simp [howner]) nofun nofun hjoined with }
  | idle | connecting starts | initListener starts | closed => exact h

/-- A call that has begun is not that of a keepalive thread that has ended. -/
theorem Sound.running (h : Sound s) {caller : Caller ι} (hbegun : s.requests caller ≠ .idle)
    (hcaller : caller = .keepAlive) : s.keepAlive = .running := by
  subst hcaller
  by_contra hstopped
  exact hbegun (h.pings hstopped)

/-- Destroying is the only step of the main thread that can meet a send. -/
theorem sendsAlive_ownerStep (hs : SendsAlive s) :
    SendsAlive s.ownerStep ↔ Undisturbed s .owner := by
  unfold Impl.ownerStep Undisturbed
  cases howner : s.owner with
  | destroy teardown handle =>
    constructor
    · rintro halive _ _ ⟨⟩ caller hcaller
      exact halive caller handle hcaller List.mem_cons_self
    · intro hnone caller other hcaller hmem
      obtain rfl | hmem := List.mem_cons.mp hmem
      · exact hnone teardown other rfl caller hcaller
      · exact hs caller other hcaller hmem
  | disconnect teardown =>
    refine iff_of_true ?_ nofun
    simp only
    split <;> exact hs
  | reset teardown => cases teardown <;> exact iff_of_true hs nofun
  | joining =>
    refine iff_of_true ?_ nofun
    simp only
    split <;> exact hs
  | _ => exact iff_of_true hs nofun

variable [DecidableEq ι]

/-- A call of another thread than the keepalive thread, or a ping of a running one. -/
theorem Sound.calls (h : Sound s) {caller : Caller ι} {request : Request}
    (hpings : caller = .keepAlive → s.keepAlive = .running) :
    Sound (s.setRequest caller request) := by
  refine { h with pings := fun hstopped => ?_ }
  have hne : Caller.keepAlive ≠ caller := by
    rintro rfl
    exact hstopped (hpings rfl)
  exact (Function.update_of_ne hne ..).trans (h.pings hstopped)

theorem sound_requestStep (h : Sound s) (caller : Caller ι) : Sound (s.requestStep caller) := by
  unfold Impl.requestStep
  split
  · next hcaller => exact h.calls (h.running (by simp [hcaller]))
  · next hcaller => exact h.calls (h.running (by simp [hcaller]))
  · next hcaller =>
    split
    · exact h.calls (h.running (by simp [hcaller]))
    · exact h.calls (h.running (by simp [hcaller]))
  · exact h
  · exact h

theorem sound_complete (h : Sound s) (caller : Caller ι) : Sound (s.complete caller) := by
  unfold Impl.complete
  split
  · next hcaller => exact h.calls (h.running (by simp [hcaller]))
  · exact h

theorem sound_keepAliveLoop (h : Sound s) : Sound s.keepAliveLoop := by
  unfold Impl.keepAliveLoop
  split
  · next hloop =>
    split
    · exact { h with joined := fun _ => nofun, pings := fun _ => hloop.2 }
    · exact h.calls fun _ => hloop.1
  · exact h

theorem sound_step (s : Impl ι) (e : ImplEvent ι) (h : Sound s) : Sound (s.step e) := by
  cases e with
  | connect =>
    rw [Impl.step]
    split
    · next hidle => exact h.goes _ (by simp [hidle.1]) nofun nofun nofun
    · exact h
  | reconnect =>
    rw [Impl.step]
    split
    · next hidle => exact h.goes _ (by simp [hidle.1]) nofun nofun nofun
    · exact h
  | close =>
    rw [Impl.step]
    split
    · next hidle => exact { h.goes .joining (by simp [hidle]) nofun nofun nofun with }
    · exact h
  | owner => exact sound_ownerStep h
  | connectReturns ok =>
    simp only [Impl.step]
    split
    · next starts howner =>
      split
      · have hnew : s.handles ∉ s.destroyed := fun hmem => Nat.lt_irrefl _ (h.numbered _ hmem)
        refine { h with
          numbered := fun handle hmem => Nat.lt_succ_of_lt (h.numbered handle hmem)
          chat := fun handle hs => ⟨Nat.lt_succ_of_lt (h.chat handle hs).1, ?_⟩
          destroying := nofun
          opened := ?_
          joined := nofun }
        · rw [(h.chat handle hs).2, howner]
          simp
        · rintro _ _ ⟨⟩
          exact ⟨Nat.lt_succ_self _, hnew⟩
      · exact h.goes _ (by simp [howner]) nofun nofun nofun
    · exact h
  | listenReturns ok =>
    simp only [Impl.step]
    split
    · next starts howner =>
      cases ok with
      | true => exact h.goes _ (by simp [howner]) nofun nofun nofun
      | false => exact h.goes _ (by simp [howner]) nofun nofun nofun
    · exact h
  | interrupted => exact { h with }
  | keepAlive => exact sound_keepAliveLoop h
  | request i =>
    rw [Impl.step]
    split
    · exact h.calls nofun
    · exact h
  | next caller => exact sound_requestStep h caller
  | complete caller => exact sound_complete h caller

/-! ## Sends -/

theorem sendsAlive_setRequest (hs : SendsAlive s) (caller : Caller ι) (request : Request) :
    SendsAlive (s.setRequest caller request) ↔
      ∀ handle, request = .sending handle → handle ∉ s.destroyed := by
  constructor
  · intro halive handle hrequest
    exact halive caller handle ((Function.update_self ..).trans hrequest)
  · intro hnew other handle hother
    change Function.update s.requests caller request other = .sending handle at hother
    by_cases heq : other = caller
    · subst heq
      rw [Function.update_self] at hother
      exact hnew handle hother
    · rw [Function.update_of_ne heq] at hother
      exact hs other handle hother

theorem sendsAlive_setRequest_idle (hs : SendsAlive s) (caller : Caller ι) {request : Request}
    (hrequest : ∀ handle, request ≠ .sending handle) : SendsAlive (s.setRequest caller request) :=
  (sendsAlive_setRequest hs caller request).mpr fun handle heq => (hrequest handle heq).elim

/-- Reading the handle is the only step of a request that can meet a destroyed one. -/
theorem sendsAlive_requestStep (h : Sound s) (hs : SendsAlive s) (caller : Caller ι) :
    SendsAlive (s.requestStep caller) ↔ Undisturbed s (.next caller) := by
  unfold Impl.requestStep
  simp only [Undisturbed]
  cases hcaller : s.requests caller with
  | reading =>
    simp only
    cases hchat : s.chat with
    | none => exact iff_of_true (sendsAlive_setRequest_idle hs caller nofun) fun _ _ _ => rfl
    | some handle =>
      have hdead := (h.chat handle hchat).2
      rw [sendsAlive_setRequest hs]
      constructor
      · intro halive _ teardown howner
        exact (halive handle rfl (hdead.mpr ⟨teardown, howner⟩)).elim
      · rintro hreset _ ⟨⟩ hmem
        obtain ⟨teardown, howner⟩ := hdead.mp hmem
        cases hreset trivial teardown howner
  | pinging =>
    refine iff_of_true (sendsAlive_setRequest_idle hs caller ?_) nofun
    intro handle
    split <;> nofun
  | checking =>
    refine iff_of_true (sendsAlive_setRequest_idle hs caller ?_) nofun
    intro handle
    split <;> nofun
  | idle => exact iff_of_true hs nofun
  | sending handle => exact iff_of_true hs nofun

theorem sendsAlive_step_iff (h : Sound s) (hs : SendsAlive s) (e : ImplEvent ι) :
    SendsAlive (s.step e) ↔ Undisturbed s e := by
  cases e with
  | owner => exact sendsAlive_ownerStep hs
  | next caller => exact sendsAlive_requestStep h hs caller
  | complete caller =>
    refine iff_of_true ?_ trivial
    rw [Impl.step, Impl.complete]
    split
    · exact sendsAlive_setRequest_idle hs caller nofun
    · exact hs
  | keepAlive =>
    refine iff_of_true ?_ trivial
    rw [Impl.step, Impl.keepAliveLoop]
    split
    · split
      · exact hs
      · exact sendsAlive_setRequest_idle hs .keepAlive nofun
    · exact hs
  | request i =>
    refine iff_of_true ?_ trivial
    rw [Impl.step]
    split
    · exact sendsAlive_setRequest_idle hs (.thread i) nofun
    · exact hs
  | connect | reconnect | close | interrupted =>
    refine iff_of_true ?_ trivial
    simp only [Impl.step]
    first | exact hs | (split <;> exact hs)
  | connectReturns ok | listenReturns ok =>
    refine iff_of_true ?_ trivial
    simp only [Impl.step]
    split
    · first | exact hs | (split <;> exact hs)
    · exact hs

/-! ## Runs -/

/-- No send is on a destroyed handle exactly when none is destroyed under a send and none read before
it is reset. -/
theorem sends_alive_iff (events : List (ImplEvent ι)) :
    Always Impl.step SendsAlive {} events ↔ Along Impl.step Undisturbed {} events :=
  Runs.always_congr (fun s e h _ _ => sound_step s e h) (fun _ e h hs => sendsAlive_step_iff h hs e)
    sound_init nofun

/-- A request sends on the connection of `connect`, which drops; the watchdog reconnects and destroys
the handle before the send completes. -/
theorem reconnect_destroys_under_send :
    ¬ ∀ events : List (ImplEvent Nat), Always Impl.step SendsAlive {} events := by
  intro h
  have hlast := (h [.connect, .owner, .owner, .owner, .connectReturns true, .owner, .listenReturns true,
    .owner, .request 0, .next (.thread 0), .next (.thread 0), .interrupted, .reconnect, .owner, .owner,
    .owner]).last (.thread 0) 0
  exact absurd (hlast (by decide)) (by decide)

/-- `close` has joined the keepalive thread before it destroys anything. -/
theorem close_waits_for_ping (events : List (ImplEvent ι)) {handle : Nat}
    (howner : (Runs.final Impl.step ({} : Impl ι) events).owner = .destroy .close handle) :
    (Runs.final Impl.step ({} : Impl ι) events).requests .keepAlive = .idle := by
  have h : Sound (Runs.final Impl.step ({} : Impl ι) events) :=
    (Always.of_keep sound_step sound_init).last
  exact h.pings (h.joined (by rw [howner]; rfl))

end Signal2sip.ChatHandle
