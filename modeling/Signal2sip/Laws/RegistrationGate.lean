import Signal2sip.Daemon.MainLoop
import Signal2sip.Laws.ReloadPass

/-!
# SIP registration follows the websocket

The main loop takes an account's SIP registration down when its websocket drops, and brings it back
with the websocket. The registration watchdog works on the same registration from a clock of its
own, which `onRegState` starts as soon as the registration is down, and it looks at the websocket
only to see whether the credentials were rejected.

- `registers_of_mem_step`: the two steps that ask for a registration;
- `registration_gated_along_iff`: no account is registered while its websocket is down in exactly
  the runs in which the watchdog's timer never runs out during an outage.
-/

namespace Signal2sip

open Runs (Along)

/-- `isConnected()` is false for the account's websocket. -/
def Daemon.websocketDown (d : Daemon) (name : String) : Prop :=
  ∃ acct socket, d.g_accounts.lookup name = some acct ∧ acct.socket = some socket ∧
    socket.connected = false

/-- No step asks for the registration of an account whose websocket is down, after the reconnect
that the step may have made. -/
def RegistrationGated (l : Option MainLoop) (e : LoopEvent) : Prop :=
  ∀ l', MainLoop.step l e = some l' → ∀ name, .setRegistration name true ∈ l'.daemon.out →
    ¬ l'.daemon.websocketDown name

/-- The registration watchdog's timer does not run out while the account's websocket is down. -/
def TimerOutlastsOutage (l : Option MainLoop) (e : LoopEvent) : Prop :=
  match l, e with
  | some l, .registrationWatchdog name nowMs _ =>
    l.daemon.websocketDown name → l.daemon.forcesRegistration name nowMs = false
  | _, _ => True

/-! ## Handlers and reloads ask for no registration -/

section Silent

/-- No registration is asked for. -/
def Daemon.RegistersNothing (d : Daemon) : Prop := ∀ name, .setRegistration name true ∉ d.out

variable {d d' : Daemon}

theorem registersNothing_quiet (d : Daemon) : d.quiet.RegistersNothing := by
  intro name hmem
  cases hmem

theorem registersNothing_step (d : Daemon) (e : DaemonEvent) : (d.step e).RegistersNothing := by
  intro name hmem
  cases requests_of_mem_step hmem

theorem registersNothing_teardown (h : d.RegistersNothing) (name : String) (closes : Bool) :
    (d.teardown name closes).RegistersNothing := by
  by_cases hrunning : name ∈ d.g_accounts
  · obtain ⟨ts, more, hrun, hmore⟩ := exec_teardownAccount hrunning closes d
    intro name' hmem
    rw [Daemon.teardown, hrun] at hmem
    rcases List.mem_append.mp hmem with hlegs | hmem
    · rcases mem_legless_out.mp hlegs with hout | ⟨leg, hleg, -⟩
      · exact h name' hout
      · cases hleg
    · cases hmore _ hmem
  · rwa [Daemon.teardown, teardownAccount, if_neg hrunning]

theorem registersNothing_startAccount {db : Db} {config : AccountConfig} {o : SetupOutcomes}
    (hname : config.name ∉ d.g_accounts) (h : d.RegistersNothing)
    (hrun : d.startAccount db config o = some d') : d'.RegistersNothing := by
  have hsetup : d.setup db config o = d' := by
    rw [Daemon.startAccount] at hrun
    rw [Daemon.setup, if_neg hname]
    generalize setupAccount db config o d = result at hrun ⊢
    obtain ⟨d₁, ok | info | _⟩ := result
    · exact Option.some.inj hrun
    · cases hrun
    · cases hrun
  intro name hmem
  rw [← hsetup] at hmem
  rcases (setup_effect db config o d).out _ hmem with hout | ⟨target, htarget⟩
  · exact h name hout
  · cases htarget

theorem registersNothing_reloadAccount {db : Db} {o : ReloadOutcomes} {config : AccountConfig}
    (h : d.RegistersNothing) (hrun : reloadAccount db o d config = some d') :
    d'.RegistersNothing := by
  rw [reloadAccount_eq] at hrun
  cases hsetup : setupState o d config with
  | none =>
    rw [hsetup] at hrun
    cases hrun
    exact h
  | some d₁ =>
    rw [hsetup] at hrun
    refine registersNothing_startAccount (setupState_lookup hsetup).1 ?_ hrun
    unfold setupState at hsetup
    split at hsetup
    · cases hsetup
      exact h
    · split at hsetup
      · cases hsetup
        exact registersNothing_teardown h _ _
      · cases hsetup

theorem registersNothing_reload {r : ReloadInput} {l l' : MainLoop}
    (h : l.daemon.RegistersNothing) (hrun : l.reload r = some l') : l'.daemon.RegistersNothing := by
  obtain ⟨d', hreload, rfl⟩ := Option.map_eq_some_iff.mp hrun
  unfold reloadConfig at hreload
  split at hreload
  · cases hreload
    exact h
  · refine Reconcile.loop_keeps (fun d config d' => registersNothing_reloadAccount) ?_ hreload
    -- the first loop tears accounts down
    exact List.foldlRecOn _ _ h fun d hd name _ => registersNothing_teardown hd name _

end Silent

/-! ## The two watchdogs -/

section Watchdogs

variable {d : Daemon} {name name' : String} {nowMs : Int}

theorem setRegistrationIfSip_accounts (d : Daemon) (name : String) (up : Bool) :
    (d.setRegistrationIfSip name up).g_accounts = d.g_accounts := by
  unfold Daemon.setRegistrationIfSip
  split <;> rfl

theorem mem_setRegistrationIfSip {up : Bool} {a : Action}
    (h : a ∈ (d.setRegistrationIfSip name up).out) : a ∈ d.out ∨ a = .setRegistration name up := by
  unfold Daemon.setRegistrationIfSip at h
  split at h
  · simpa [Daemon.emit] using h
  · exact .inl h

/-- Taking the registration down registers nothing. -/
theorem registersNothing_noticeSocket (hquiet : d.RegistersNothing) (name : String)
    (acct : AccountState) (nowConnected : Bool) :
    (d.noticeSocket name acct nowConnected).RegistersNothing := by
  intro name₁ hmem
  unfold Daemon.noticeSocket Daemon.modifyAccount at hmem
  simp only at hmem
  split at hmem
  · rcases mem_setRegistrationIfSip hmem with hout | hup
    · exact hquiet name₁ hout
    · cases hup
  · exact hquiet name₁ hmem

/-- A registration that comes with a reconnect is the account's own, and the websocket is up. -/
theorem reconnectSocket_registers {outcome : ReconnectOutcome} (hquiet : d.RegistersNothing)
    (h : .setRegistration name' true ∈ (d.reconnectSocket name nowMs outcome).out) :
    name' = name ∧ ∀ acct socket,
      (d.reconnectSocket name nowMs outcome).g_accounts.lookup name = some acct →
      acct.socket = some socket → socket.connected = true := by
  cases outcome with
  | failed deregistered => exact absurd h (hquiet name')
  | connected invalidated =>
    rcases mem_setRegistrationIfSip h with hout | hname
    · exact absurd hout (hquiet name')
    · cases hname
      refine ⟨rfl, fun acct socket hacct hsocket => ?_⟩
      simp only [Daemon.reconnectSocket, setRegistrationIfSip_accounts, Daemon.modifyAccount,
        AList.lookup_modify_self, Option.map_map] at hacct
      obtain ⟨acct₀, -, rfl⟩ := Option.map_eq_some_iff.mp hacct
      obtain ⟨socket₀, -, rfl⟩ := Option.map_eq_some_iff.mp hsocket
      rfl

/-- A registration that the websocket watchdog asks for comes with the reconnected websocket. -/
theorem socketWatchdog_registers {outcome : ReconnectOutcome} (hquiet : d.RegistersNothing)
    (h : .setRegistration name' true ∈ (d.socketWatchdog name nowMs outcome).out) :
    ¬ (d.socketWatchdog name nowMs outcome).websocketDown name' := by
  unfold Daemon.socketWatchdog at h ⊢
  split at h
  · exact absurd h (hquiet name')
  · next acct hacct =>
    split at h
    · exact absurd h (hquiet name')
    · next socket hsocket =>
      have hdropped := registersNothing_noticeSocket hquiet name acct socket.connected
      split at h
      · exact absurd h (hdropped name')
      · next hfinal =>
        split at h
        · next hdue =>
          rw [if_neg hfinal, if_pos hdue]
          obtain ⟨rfl, hup⟩ := reconnectSocket_registers hdropped h
          rintro ⟨acct', socket', hacct', hsocket', hdown⟩
          rw [hup acct' socket' hacct' hsocket'] at hdown
          cases hdown
        · exact absurd h (hdropped name')

/-- The registration watchdog asks for the registration when its timer has run out, and leaves the
accounts as they are. -/
theorem mem_registrationWatchdog {meanwhile : Option Bool} (hquiet : d.RegistersNothing) :
    .setRegistration name' true ∈ (d.registrationWatchdog name nowMs meanwhile).out ↔
      name' = name ∧ d.forcesRegistration name nowMs = true := by
  unfold Daemon.registrationWatchdog
  split
  · next hforces =>
    have hnot := hquiet name'
    simp [Daemon.emit, hforces, hnot]
  · next hforces =>
    have hnot := hquiet name'
    simp [hforces, hnot]

theorem registrationWatchdog_websocketDown {meanwhile : Option Bool} :
    (d.registrationWatchdog name nowMs meanwhile).websocketDown name' ↔ d.websocketDown name' := by
  unfold Daemon.registrationWatchdog
  split <;> rfl

end Watchdogs

/-! ## Along runs -/

/-- An event after which no registration is asked for is gated. -/
theorem gated_of_registersNothing {l : Option MainLoop} {e : LoopEvent}
    (h : ∀ l', MainLoop.step l e = some l' → l'.daemon.RegistersNothing) : RegistrationGated l e :=
  fun l' hstep name' hmem => absurd hmem (h l' hstep name')

theorem registrationWatchdog_gated_iff {l : MainLoop} {name : String} {nowMs : Int}
    {meanwhile : Option Bool} :
    RegistrationGated (some l) (.registrationWatchdog name nowMs meanwhile) ↔
      (l.daemon.websocketDown name → l.daemon.forcesRegistration name nowMs = false) := by
  have hquiet := registersNothing_quiet l.daemon
  constructor
  · intro hgated hdown
    by_contra hforces
    have hforces' : l.daemon.forcesRegistration name nowMs = true := by simpa using hforces
    refine hgated _ rfl name ((mem_registrationWatchdog hquiet).mpr ⟨rfl, hforces'⟩) ?_
    exact registrationWatchdog_websocketDown.mpr hdown
  · intro hwaits l' hstep name' hmem hdown
    cases hstep
    obtain ⟨rfl, hforces⟩ := (mem_registrationWatchdog hquiet).mp hmem
    have hnot := hwaits ((registrationWatchdog_websocketDown (d := l.daemon.quiet)).mp hdown)
    exact absurd (hforces.symm.trans hnot) (by decide)

theorem registrationGated_iff (l : Option MainLoop) (e : LoopEvent) :
    RegistrationGated l e ↔ TimerOutlastsOutage l e := by
  cases l with
  | none => exact ⟨fun _ => trivial, fun _ l' hstep => by cases hstep⟩
  | some l =>
    have hquiet := registersNothing_quiet l.daemon
    cases e with
    | registrationWatchdog name nowMs meanwhile => exact registrationWatchdog_gated_iff
    | socketWatchdog name nowMs outcome =>
      refine ⟨fun _ => trivial, fun _ l' hstep name' hmem => ?_⟩
      cases hstep
      exact socketWatchdog_registers hquiet hmem
    | handler e =>
      refine ⟨fun _ => trivial, fun _ => gated_of_registersNothing fun l' hstep => ?_⟩
      cases hstep
      exact registersNothing_step _ e
    | interrupted name invalidated | storageSync name nowMs syncedAtMs =>
      refine ⟨fun _ => trivial, fun _ => gated_of_registersNothing fun l' hstep => ?_⟩
      cases hstep
      exact hquiet
    | reloadRequested r =>
      refine ⟨fun _ => trivial, fun _ => gated_of_registersNothing fun l' hstep => ?_⟩
      exact registersNothing_reload (r := r) hquiet hstep
    | pollConfig nowMs r =>
      refine ⟨fun _ => trivial, fun _ => gated_of_registersNothing fun l' hstep => ?_⟩
      simp only [MainLoop.step, Option.bind_some, MainLoop.stepQuiet, MainLoop.pollConfig] at hstep
      split at hstep
      · exact registersNothing_reload (r := r) hquiet hstep
      · cases hstep
        exact hquiet

/-- Along every run from every state of the loop: no account is registered while its websocket is
down exactly when the watchdog's timer never runs out during an outage. -/
theorem registration_gated_along_iff (l : MainLoop) (events : List LoopEvent) :
    Along MainLoop.step RegistrationGated (some l) events ↔
      Along MainLoop.step TimerOutlastsOutage (some l) events :=
  Runs.along_congr (I := fun _ => True) (fun _ _ _ _ => trivial)
    (fun l e _ => registrationGated_iff l e) trivial

/-! ## An outage longer than the timer -/

/-- A tick in which no reconnect succeeds, with the row of the account unchanged. -/
def outageTick (nowMs : Int) : List LoopEvent :=
  Tick.events { nowMs := nowMs, poll := { file := .ok idleDaemon.g_global, db := trunkDb } }
    ["line3"] ["line3"]

/-- The account is set up and its websocket drops. The next tick takes the registration down, and
PJSIP reports it. -/
def outage : List LoopEvent :=
  [.handler (.setup trunkDb trunkConfig {}), .interrupted "line3" false] ++ outageTick 10000 ++
    [.handler (.regState "line3" false 10200)]

/-- A minute later the websocket is still down, and the watchdog registers the account. -/
theorem outage_is_registered :
    ¬ Along MainLoop.step RegistrationGated (some ⟨idleDaemon, 0⟩) (outage ++ outageTick 71000) := by
  intro hgated
  have hwatchdog := Runs.along_iff_forall_prefix.mp hgated (outage ++ (outageTick 71000).take 1)
    (.registrationWatchdog "line3" 71000 none) ((outageTick 71000).drop 2) rfl
  obtain ⟨l', hstep, hresult⟩ := (Option.any_eq_true _ _).mp (show
    (MainLoop.step (Runs.final MainLoop.step (some ⟨idleDaemon, 0⟩)
        (outage ++ (outageTick 71000).take 1)) (.registrationWatchdog "line3" 71000 none)).any
      (fun l => l.daemon.out == [.setRegistration "line3" true] &&
        (l.daemon.g_accounts.lookup "line3").bind (·.socket) == some ⟨false, false⟩) = true by decide)
  obtain ⟨hout, hsocket⟩ := Bool.and_eq_true_iff.mp hresult
  obtain ⟨acct, hacct, hsocket⟩ := Option.bind_eq_some_iff.mp (beq_iff_eq.mp hsocket)
  refine hwatchdog l' hstep "line3" ?_ ⟨acct, _, hacct, hsocket, rfl⟩
  rw [beq_iff_eq.mp hout]
  exact List.mem_singleton_self _

end Signal2sip
