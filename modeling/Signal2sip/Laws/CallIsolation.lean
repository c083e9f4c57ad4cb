import Signal2sip.Lib.Run
import Signal2sip.Laws.CallSteps

/-!
# Calls keep to their own legs

A leg is for one Signal call: the one whose ringing it was dialled for, or the one that was started
for it. `Isolated` says of one handler that what it asks for on a leg is done for that call, or for
a teardown of the account.

The handlers do not compare call ids. `OwnCallOnly` is what has to hold of the calls instead, read
off the state before the handler runs: while an account has a leg, RingRTC ends no other call of the
account and connects none that the leg could be mistaken for, and the PBX answers a leg while the
last call that RingRTC reported is the leg's.

- `isolated_iff`: one handler keeps to its own legs exactly when `OwnCallOnly` holds;
- `isolated_along_iff`: so does every handler of a run.
-/

namespace Signal2sip

open Runs (Along)

/-- The event is an end of the leg: of its call, of the setup of its call, of its account. -/
def EndsLeg (d : Daemon) (e : DaemonEvent) (leg : Nat) (l : Leg) : Prop :=
  match e with
  | .callState _ _ callId state _ =>
    (state = .ended ∨ state = .concluded) ∧ l.call = some callId
  | .inviteResolved leg' resolvedTarget callId => setupFails resolvedTarget callId ∧ leg' = leg
  | .teardown name _ => d.holds name leg
  | _ => False

/-- The event is the connection of the leg's call. -/
def ConnectsLeg (e : DaemonEvent) (l : Leg) : Prop :=
  match e with
  | .callState _ _ callId state _ => state = .connected ∧ l.call = some callId
  | _ => False

/-- What the handler of an event does to legs, it does for their own calls. -/
structure Isolated (d : Daemon) (e : DaemonEvent) : Prop where
  hangup : ∀ leg l, .hangupLeg leg ∈ (d.step e).out → d.legs.lookup leg = some l →
    EndsLeg d e leg l
  accept : ∀ leg l callId, .accept leg callId ∈ (d.step e).out → d.legs.lookup leg = some l →
    l.call = some callId
  answer : ∀ leg l, .answer leg 200 ∈ (d.step e).out → d.legs.lookup leg = some l →
    ConnectsLeg e l

/-- The call an event is about is the call of every leg that its handler takes for that call's. -/
def OwnCallOnly (d : Daemon) (e : DaemonEvent) : Prop :=
  match e with
  | .callState account _ callId state _ =>
    (state = .ended ∨ state = .concluded → ∀ leg l, d.holds account leg →
      d.legs.lookup leg = some l → l.call = some callId) ∧
    (state = .connected → ∀ acct leg l, d.g_accounts.lookup account = some acct →
      acct.isCallee = false → acct.incomingSipCall = some leg → d.legs.lookup leg = some l →
      l.call = some callId)
  | .legState leg state =>
    state = .confirmed → ∀ l acct, d.legs.lookup leg = some l → d.account? l.acct = some acct →
      l.kind = .bridgeCall → l.acceptSent = false → l.call = some acct.activeCallId
  | .inviteResolved leg resolvedTarget callId =>
    setupFails resolvedTarget callId → ∀ acct leg' l, d.pendingInvites.lookup leg = some acct →
      (d.account? acct).isSome → d.heldLeg .incomingSipCall acct.name = some leg' →
      d.legs.lookup leg' = some l → leg = leg'
  | _ => True

section Step

variable {d : Daemon} {e : DaemonEvent}

theorem isolated_of_ownCallOnly (h : OwnCallOnly d e) : Isolated d e where
  hangup := by
    intro leg l hmem hl
    cases requests_of_mem_step hmem with
    | ended hstate hholds => exact ⟨hstate, h.1 hstate leg l hholds hl⟩
    | startFailed hpending halive hfails hheld =>
      exact ⟨hfails, h hfails _ leg l hpending halive hheld hl⟩
    | teardown hholds => exact hholds
  accept := by
    intro leg l callId hmem hl
    cases requests_of_mem_step hmem with
    | accept hl' hacct hkind haccept =>
      obtain rfl := Option.some.inj (hl'.symm.trans hl)
      exact h rfl _ _ hl hacct hkind haccept
  answer := by
    intro leg l hmem hl
    cases requests_of_mem_step hmem with
    | answerOk hacct hcallee hleg => exact ⟨rfl, h.2 rfl _ leg l hacct hcallee hleg hl⟩

theorem ownCallOnly_of_isolated (h : Isolated d e) : OwnCallOnly d e := by
  cases e with
  | callState account remotePeerId callId state contact =>
    constructor
    · intro hstate leg l hholds hl
      exact (h.hangup leg l (hangup_mem_step_ended hstate hholds) hl).2
    · rintro rfl acct leg l hacct hcallee hleg hl
      exact (h.answer leg l (answer_mem_step hacct hcallee hleg) hl).2
  | legState leg state =>
    rintro rfl l acct hl hacct hkind haccept
    exact h.accept leg l _ (accept_mem_step hl hacct hkind haccept) hl
  | inviteResolved leg resolvedTarget callId =>
    intro hfails acct leg' l hpending halive hheld hl
    exact (h.hangup leg' l (hangup_mem_step_startFailed hpending halive hfails hheld) hl).2
  | invite sip localPort requestUser => trivial
  | regState sip regIsActive nowMs => trivial
  | setup db config o => trivial
  | teardown name closes => trivial

theorem isolated_iff : Isolated d e ↔ OwnCallOnly d e :=
  ⟨ownCallOnly_of_isolated, isolated_of_ownCallOnly⟩

end Step

/-- Along every run from every state: each handler keeps to the legs of its own call exactly when
the calls are as `OwnCallOnly` wants them. -/
theorem isolated_along_iff (d : Daemon) (events : List DaemonEvent) :
    Along Daemon.step Isolated d events ↔ Along Daemon.step OwnCallOnly d events :=
  Runs.along_congr (I := fun _ => True) (fun _ _ _ _ => trivial) (fun _ _ _ => isolated_iff) trivial

/-! ## A second caller -/

/-- Call 1 rings and its leg is dialled; call 2 is turned away, and its end hangs up the leg. -/
theorem second_call_hangs_up_first :
    ¬ Along Daemon.step Isolated idleDaemon
      [bringUp, .report 1 .incomingAudio, .report 1 .ringing, .report 2 .concluded] := by
  rintro ⟨-, -, -, h, -⟩
  have hends := h.hangup 3
    { kind := .bridgeCall, acc := ⟨"line3", 1⟩, bridge := 2, acct := ⟨"line3", 0⟩, call := some 1 }
    (by decide) (by decide)
  exact absurd hends.2 (by decide)

end Signal2sip
