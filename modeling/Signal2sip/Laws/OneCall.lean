import Signal2sip.Lib.Run
import Signal2sip.Laws.CallSteps

/-!
# One call per account

An account has two slots for legs and is meant to use one at a time. `OneCallStep` says of one
handler that it keeps to that: no account ends up with two legs, no leg's pointer is lost before the
leg was hung up and deleted, and an INVITE for an account that is about to take an incoming Signal
call is answered 486 and changes nothing.

The handlers look at the slots in one direction only: `onIncomingCall` does, `startSipDial` does
not, and neither looks at the other's flag. `NoOverlap` is the rest of what has to hold before a
handler runs.

- `slot_of_step`: what one handler can do to one slot of one account;
- `oneCallStep_iff`: a handler keeps to one call exactly when `NoOverlap` holds;
- `oneCall_along_iff`: so does every handler of a run.
-/

namespace Signal2sip

open Script (exec)
open Runs (Along)

/-! ## One slot of one account -/

section Slots

variable {d : Daemon} {e : DaemonEvent} {name : String} {kind : LegKind}

/-- The handler opens a leg in a slot. -/
inductive Opens (d : Daemon) : DaemonEvent → String → LegKind → Prop
  | ringing {account remotePeerId callId contact acct} :
    d.g_accounts.lookup account = some acct → Dials d acct →
    Opens d (.callState account remotePeerId callId .ringing contact) account .bridgeCall
  | invite {sip localPort requestUser p acct} :
    InviteFor d sip localPort p → d.account? p = some acct → d.busy p = false →
    normalizeDestUser requestUser ≠ "" →
    Opens d (.invite sip localPort requestUser) p.name .incomingSipCall

/-- The three things that a handler can do to a slot: nothing, hang up and delete its leg, or put a
new leg there. -/
inductive SlotStep (d : Daemon) (e : DaemonEvent) (name : String) (kind : LegKind) : Prop
  | same : (d.step e).heldLeg kind name = d.heldLeg kind name → SlotStep d e name kind
  | closed : (d.step e).heldLeg kind name = none →
    (∀ leg, d.heldLeg kind name = some leg →
      .hangupLeg leg ∈ (d.step e).out ∧ (d.step e).legs.lookup leg = none) → SlotStep d e name kind
  | opened : Opens d e name kind → (d.step e).heldLeg kind name = some (d.nextSerial + 1) →
    d.nextSerial + 2 = (d.step e).nextSerial → SlotStep d e name kind

theorem heldLeg_openLeg (kind kind' : LegKind) (name : String) (acc : ObjPtr)
    (call : Option CallId) {acct : ObjPtr} {a : AccountState} (h : d.account? acct = some a) :
    (d.openLeg kind' acc acct call).heldLeg kind name =
      if name = acct.name ∧ kind = kind' then some (d.nextSerial + 1) else d.heldLeg kind name := by
  by_cases hname : name = acct.name
  · subst hname
    rw [Daemon.heldLeg, openLeg_lookup h, heldLeg_eq _ (account?_eq_some.mp h).1, Option.bind_some]
    by_cases hkind : kind = kind'
    · subst hkind
      rw [if_pos ⟨rfl, rfl⟩, ← setLeg_leg a kind (some (d.nextSerial + 1))]
      cases kind <;> rfl
    · rw [if_neg fun h => hkind h.2, ← setLeg_leg_ne hkind a (some (d.nextSerial + 1))]
      cases kind <;> rfl
  · rw [if_neg fun h => hname h.1, Daemon.heldLeg, openLeg_lookup_ne hname, Daemon.heldLeg]

theorem slot_legless (d : Daemon) (kind : LegKind) (name : String) :
    (d.legless name).heldLeg kind name = none ∧
      ∀ leg, d.heldLeg kind name = some leg →
        .hangupLeg leg ∈ (d.legless name).out ∧ (d.legless name).legs.lookup leg = none := by
  refine ⟨?_, fun leg hleg => ⟨mem_legless_out.mpr (.inr ⟨leg, rfl, kind, hleg⟩), ?_⟩⟩
  · rw [Daemon.heldLeg, legless_lookup]
    cases d.g_accounts.lookup name with
    | none => rfl
    | some acct => cases kind <;> rfl
  · cases hl : (d.legless name).legs.lookup leg with
    | none => rfl
    | some l => exact absurd ⟨kind, hleg⟩ (legless_legs.mp hl).2

theorem slot_legless_ne {name' : String} (h : name' ≠ name) :
    (d.legless name).heldLeg kind name' = d.heldLeg kind name' := by
  rw [Daemon.heldLeg, legless_lookup_ne h, Daemon.heldLeg]

/-- The ringing of a call that is dialled. -/
theorem step_dials (kind : LegKind) (name remotePeerId : String) (callId : CallId)
    (contact : Except RuntimeError (Option SyncedContactRecord)) {account : String}
    {acct : AccountState} (hacct : d.g_accounts.lookup account = some acct) (h : Dials d acct) :
    (d.step (.callState account remotePeerId callId .ringing contact)).heldLeg kind name =
        (if name = account ∧ kind = .bridgeCall then some (d.nextSerial + 1)
          else d.heldLeg kind name) ∧
      (d.step (.callState account remotePeerId callId .ringing contact)).nextSerial =
        d.nextSerial + 2 := by
  obtain ⟨sip, out, hstep⟩ := @step_callState_dials d account remotePeerId callId contact acct hacct h
  have hrecord := recordCall_account? (d := d.quiet) remotePeerId callId hacct
  have hopen := heldLeg_openLeg kind .bridgeCall name ⟨acct.config.name, sip.serial⟩ (some callId)
    hrecord
  rw [recordCall_heldLeg] at hopen
  rw [hstep]
  exact ⟨hopen, rfl⟩

theorem slot_callState {account remotePeerId : String} {callId : CallId} {state : CallState}
    {contact : Except RuntimeError (Option SyncedContactRecord)} :
    SlotStep d (.callState account remotePeerId callId state contact) name kind := by
  cases hacct : d.g_accounts.lookup account with
  | none =>
    refine .same ?_
    simp only [Daemon.step, DaemonEvent.script, hacct]
    rfl
  | some acct =>
    have hended : state = .ended ∨ state = .concluded →
        SlotStep d (.callState account remotePeerId callId state contact) name kind := by
      intro hstate
      have hstep : d.step (.callState account remotePeerId callId state contact) =
          ((d.quiet.recordCall account remotePeerId callId).legless account).modifyAccount account
            fun a => { a with isCallee := false } := by
        rw [step_callState hacct]
        rcases hstate with rfl | rfl <;> rfl
      have hheld : ∀ name, (d.step (.callState account remotePeerId callId state contact)).heldLeg
          kind name =
          ((d.quiet.recordCall account remotePeerId callId).legless account).heldLeg kind name := by
        intro name
        rw [hstep]
        exact modifyAccount_heldLeg fun _ => by cases kind <;> rfl
      by_cases hname : name = account
      · subst hname
        obtain ⟨hnone, hclosed⟩ := slot_legless
          (d.quiet.recordCall name remotePeerId callId) kind name
        refine .closed ((hheld name).trans hnone) fun leg hleg => ?_
        rw [hstep]
        exact hclosed leg (by rw [recordCall_heldLeg]; exact hleg)
      · refine .same ?_
        rw [hheld, slot_legless_ne hname, recordCall_heldLeg]
        rfl
    cases state with
    | incomingAudio =>
      refine .same ?_
      rw [step_callState hacct]
      simp only [onCallState]
      split
      · have hcallee : ((d.quiet.recordCall account remotePeerId callId).modifyAccount account
            fun a => { a with isCallee := true }).heldLeg kind name =
            (d.quiet.recordCall account remotePeerId callId).heldLeg kind name :=
          modifyAccount_heldLeg fun _ => by cases kind <;> rfl
        exact hcallee.trans recordCall_heldLeg
      · exact recordCall_heldLeg
    | outgoingAudio =>
      refine .same ?_
      rw [step_callState hacct]
      exact recordCall_heldLeg
    | ringing =>
      by_cases hdials : Dials d acct
      · obtain ⟨hheld, hserial⟩ := step_dials kind name remotePeerId callId contact
          hacct hdials
        by_cases hslot : name = account ∧ kind = .bridgeCall
        · rw [if_pos hslot] at hheld
          obtain ⟨rfl, rfl⟩ := hslot
          exact .opened (.ringing hacct hdials) hheld hserial.symm
        · rw [if_neg hslot] at hheld
          exact .same hheld
      · refine .same ?_
        rw [step_callState hacct, onCallState_not_dials hdials]
        exact recordCall_heldLeg
    | connected =>
      refine .same ?_
      rw [step_callState hacct]
      simp only [onCallState]
      split
      · exact recordCall_heldLeg
      · split
        · exact recordCall_heldLeg
        · split <;> exact recordCall_heldLeg
    | connecting =>
      refine .same ?_
      rw [step_callState hacct]
      exact recordCall_heldLeg
    | ended => exact hended (.inl rfl)
    | rejected =>
      refine .same ?_
      rw [step_callState hacct]
      exact recordCall_heldLeg
    | concluded => exact hended (.inr rfl)

/-- A leg's own handler changes legs and requests only. -/
theorem step_legState (d : Daemon) (leg : Nat) (state : InvState) :
    ∃ legs out, d.step (.legState leg state) = { d with legs := legs, out := out } := by
  show ∃ legs out, (exec (onLegState leg state d) d.quiet).1 = { d with legs := legs, out := out }
  unfold onLegState
  split
  · exact ⟨d.legs, [], rfl⟩
  · split
    · exact ⟨d.legs, [], rfl⟩
    · split
      · unfold BridgeCall.onCallState
        split
        · split <;> exact ⟨_, _, rfl⟩
        · rw [Script.exec_act_cons]
          split <;> exact ⟨_, _, rfl⟩
        · exact ⟨_, _, rfl⟩
      · unfold IncomingSipCall.onCallState
        split
        · rw [Script.exec_act_cons]
          split <;> exact ⟨_, _, rfl⟩
        · exact ⟨_, _, rfl⟩

theorem slot_invite {sip : String} {localPort : Option Int} {requestUser : String} :
    SlotStep d (.invite sip localPort requestUser) name kind := by
  obtain ⟨p, hfor, hbusy, huser⟩ | hnil | ⟨statusCode, hreject⟩ :=
    onIncomingCall_cases d sip localPort requestUser
  · obtain ⟨sipAccount, -, hscript⟩ := onIncomingCall_opens hfor hbusy huser
    have hheld : (d.step (.invite sip localPort requestUser)).heldLeg kind name =
        (d.quiet.openLeg .incomingSipCall ⟨sip, sipAccount.serial⟩ p none).heldLeg kind name := by
      simp only [Daemon.step, DaemonEvent.script, hscript]
      rfl
    cases hp : d.account? p with
    | none =>
      refine .same (hheld.trans ?_)
      rw [Daemon.heldLeg, openLeg_dead (d := d.quiet) hp]
      rfl
    | some acct =>
      rw [heldLeg_openLeg (d := d.quiet) _ _ _ _ _ hp] at hheld
      by_cases hslot : name = p.name ∧ kind = .incomingSipCall
      · rw [if_pos hslot] at hheld
        obtain ⟨rfl, rfl⟩ := hslot
        refine .opened (.invite hfor hp hbusy huser) hheld ?_
        simp only [Daemon.step, DaemonEvent.script, hscript]
        rfl
      · rw [if_neg hslot] at hheld
        exact .same hheld
  · refine .same ?_
    simp only [Daemon.step, DaemonEvent.script, hnil]
    rfl
  · refine .same ?_
    simp only [Daemon.step, DaemonEvent.script, hreject]
    rfl

/-- Closing the leg of one slot: the slot is empty, its leg hung up and deleted. -/
theorem slot_stopped {kind' : LegKind} {name' : String} :
    (d.stopped kind' name').heldLeg kind name =
      if name = name' ∧ kind = kind' then none else d.heldLeg kind name := by
  by_cases hname : name = name'
  · subst hname
    by_cases hkind : kind = kind'
    · subst hkind
      rw [if_pos ⟨rfl, rfl⟩, Daemon.heldLeg, stopped_lookup]
      cases d.g_accounts.lookup name with
      | none => rfl
      | some acct => cases kind <;> rfl
    · rw [if_neg fun h => hkind h.2, stopped_heldLeg_ne hkind]
  · rw [if_neg fun h => hname h.1, Daemon.heldLeg, stopped_lookup_ne hname, Daemon.heldLeg]

theorem closed_stopped {leg : Nat} (h : d.heldLeg kind name = some leg) :
    .hangupLeg leg ∈ (d.stopped kind name).out ∧
      (d.stopped kind name).legs.lookup leg = none := by
  constructor
  · rw [stopped_out, List.mem_append, mem_hangups]
    exact .inr ⟨leg, rfl, h⟩
  · rw [stopped_legs, h]
    exact AList.lookup_erase _ _

/-- Where the handler of a looked-up INVITE ends: with the leg stopped, or not, after changes that
touch no slot. -/
theorem step_inviteResolved (d : Daemon) (leg : Nat)
    (resolvedTarget : Except RuntimeError String) (callId : CallId) :
    ∃ d₁ : Daemon, (∀ kind name, d₁.heldLeg kind name = d.heldLeg kind name) ∧
      d₁.nextSerial = d.nextSerial ∧
      (d.step (.inviteResolved leg resolvedTarget callId) = d₁ ∨
        ∃ p, d.step (.inviteResolved leg resolvedTarget callId) =
          d₁.stopped .incomingSipCall p) := by
  have hcallee : ∀ (d₁ : Daemon) (p : String) (kind : LegKind) (name : String),
      (d₁.modifyAccount p fun a => { a with isCallee := false }).heldLeg kind name =
        d₁.heldLeg kind name :=
    fun d₁ p kind name => modifyAccount_heldLeg fun _ => by cases kind <;> rfl
  show ∃ d₁ : Daemon, _ ∧ _ ∧
    ((exec (onInviteResolved leg resolvedTarget callId d) d.quiet).1 = d₁ ∨
      ∃ p, (exec (onInviteResolved leg resolvedTarget callId d) d.quiet).1 =
        d₁.stopped .incomingSipCall p)
  unfold onInviteResolved
  split
  · exact ⟨d.quiet, fun _ _ => rfl, rfl, .inl rfl⟩
  · next p _ =>
    rw [Script.exec_act_cons]
    split
    · unfold startOutgoingCall
      split
      · refine ⟨_, ?_, ?_, .inr ⟨p.name, exec_stopIncomingSipCall⟩⟩
        · exact fun _ _ => rfl
        · rfl
      · next target =>
        split
        · refine ⟨_, ?_, ?_, .inr ⟨p.name, exec_stopIncomingSipCall⟩⟩
          · exact fun _ _ => rfl
          · rfl
        · rw [Script.exec_act_cons, Script.exec_act_cons]
          split
          · refine ⟨_, ?_, ?_, .inr ⟨p.name, exec_stopIncomingSipCall⟩⟩
            · exact hcallee _ p.name
            · rfl
          · refine ⟨_, ?_, ?_, .inl rfl⟩
            · exact hcallee _ p.name
            · rfl
    · refine ⟨_, ?_, ?_, .inl rfl⟩
      · exact fun _ _ => rfl
      · rfl

theorem slot_inviteResolved {leg : Nat} {resolvedTarget : Except RuntimeError String}
    {callId : CallId} : SlotStep d (.inviteResolved leg resolvedTarget callId) name kind := by
  obtain ⟨d₁, hheld, -, hstep | ⟨p, hstep⟩⟩ := step_inviteResolved d leg resolvedTarget callId
  · exact .same (by rw [hstep, hheld])
  · by_cases hslot : name = p ∧ kind = .incomingSipCall
    · obtain ⟨rfl, rfl⟩ := hslot
      refine .closed ?_ fun leg hleg => ?_
      · rw [hstep, slot_stopped, if_pos ⟨rfl, rfl⟩]
      · rw [hstep]
        exact closed_stopped (by rw [hheld]; exact hleg)
    · refine .same ?_
      rw [hstep, slot_stopped, if_neg hslot, hheld]

theorem slot_setup {db : Db} {config : AccountConfig} {o : SetupOutcomes} :
    SlotStep d (.setup db config o) name kind := by
  refine .same ?_
  show (d.quiet.setup db config o).heldLeg kind name = d.heldLeg kind name
  rcases (setup_effect db config o d.quiet).accounts with
    hsame | ⟨acct, hnew, hinsert, hnone, -⟩
  · rw [Daemon.heldLeg, hsame]
    rfl
  · rw [Daemon.heldLeg, hinsert]
    by_cases hname : name = config.name
    · subst hname
      have hbefore : d.g_accounts.lookup config.name = none := AList.lookup_eq_none.mpr hnew
      rw [AList.lookup_insert, Daemon.heldLeg, hbefore]
      exact hnone kind
    · rw [AList.lookup_insert_ne hname]
      rfl

theorem step_teardown (d : Daemon) (p : String) (closes : Bool) :
    (p ∉ d.g_accounts → d.step (.teardown p closes) = d.quiet) ∧
    (p ∈ d.g_accounts →
      (d.step (.teardown p closes)).g_accounts = (d.quiet.legless p).g_accounts.erase p ∧
      (d.step (.teardown p closes)).legs = (d.quiet.legless p).legs ∧
      (d.step (.teardown p closes)).nextSerial = d.nextSerial ∧
      ∀ a ∈ (d.quiet.legless p).out, a ∈ (d.step (.teardown p closes)).out) := by
  constructor
  · intro hp
    simp only [Daemon.step, DaemonEvent.script, teardownAccount, if_neg hp]
    rfl
  · intro hp
    obtain ⟨ts, more, hrun, -⟩ := exec_teardownAccount hp closes d.quiet
    have hstep : d.step (.teardown p closes) =
        { d.quiet.legless p with
          transports := ts, out := (d.quiet.legless p).out ++ more
          g_sipAccounts := (d.quiet.legless p).g_sipAccounts.erase p
          g_accounts := (d.quiet.legless p).g_accounts.erase p } := by
      rw [Daemon.step, DaemonEvent.script, hrun]
    rw [hstep]
    exact ⟨rfl, rfl, legless_rest.2.2.1, fun a ha => List.mem_append_left _ ha⟩

theorem slot_teardown {p : String} {closes : Bool} :
    SlotStep d (.teardown p closes) name kind := by
  by_cases hp : p ∈ d.g_accounts
  · obtain ⟨haccounts, hlegs, -, hout⟩ := (step_teardown d p closes).2 hp
    by_cases hname : name = p
    · subst hname
      obtain ⟨-, hclosed⟩ := slot_legless d.quiet kind name
      refine .closed ?_ fun leg hleg => ?_
      · rw [Daemon.heldLeg, haccounts, AList.lookup_erase]
        rfl
      · rw [hlegs]
        exact (hclosed leg hleg).imp_left (hout _)
    · refine .same ?_
      rw [Daemon.heldLeg, haccounts, AList.lookup_erase_ne hname]
      exact slot_legless_ne (d := d.quiet) hname
  · refine .same ?_
    rw [(step_teardown d p closes).1 hp]
    rfl

/-- What one handler can do to one slot of one account. -/
theorem slot_of_step (d : Daemon) (e : DaemonEvent) (name : String) (kind : LegKind) :
    SlotStep d e name kind := by
  cases e with
  | callState account remotePeerId callId state contact => exact slot_callState
  | legState leg state =>
    obtain ⟨legs, out, hstep⟩ := step_legState d leg state
    exact .same (by rw [hstep]; rfl)
  | invite sip localPort requestUser => exact slot_invite
  | inviteResolved leg resolvedTarget callId => exact slot_inviteResolved
  | regState sip regIsActive nowMs => exact .same rfl
  | setup db config o => exact slot_setup
  | teardown p closes => exact slot_teardown

/-- Serial numbers are given out, never taken back. -/
theorem step_nextSerial : d.nextSerial ≤ (d.step e).nextSerial := by
  cases e with
  | callState account remotePeerId callId state contact =>
    cases hacct : d.g_accounts.lookup account with
    | none =>
      have hstep : d.step (.callState account remotePeerId callId state contact) = d.quiet := by
        simp only [Daemon.step, DaemonEvent.script, hacct]
        rfl
      rw [hstep]
      exact Nat.le_refl _
    | some acct =>
      have hended : ∀ d₁ : Daemon, (d₁.legless account).nextSerial = d₁.nextSerial :=
        fun d₁ => legless_rest.2.2.1
      cases state with
      | ringing =>
        by_cases hdials : Dials d acct
        · rw [(step_dials .bridgeCall account remotePeerId callId contact hacct hdials).2]
          omega
        · rw [step_callState hacct, onCallState_not_dials hdials]
          exact Nat.le_refl _
      | incomingAudio =>
        rw [step_callState hacct]
        simp only [onCallState]
        split <;> exact Nat.le_refl _
      | connected =>
        rw [step_callState hacct]
        simp only [onCallState]
        split
        · exact Nat.le_refl _
        · split
          · exact Nat.le_refl _
          · split <;> exact Nat.le_refl _
      | ended =>
        rw [step_callState hacct]
        exact Nat.le_of_eq (hended (d.quiet.recordCall account remotePeerId callId)).symm
      | concluded =>
        rw [step_callState hacct]
        exact Nat.le_of_eq (hended (d.quiet.recordCall account remotePeerId callId)).symm
      | outgoingAudio | connecting | rejected =>
        rw [step_callState hacct]
        exact Nat.le_refl _
  | legState leg state =>
    obtain ⟨legs, out, hstep⟩ := step_legState d leg state
    rw [hstep]
  | invite sip localPort requestUser =>
    obtain ⟨p, hfor, hbusy, huser⟩ | hnil | ⟨statusCode, hreject⟩ :=
      onIncomingCall_cases d sip localPort requestUser
    · obtain ⟨sipAccount, -, hscript⟩ := onIncomingCall_opens hfor hbusy huser
      simp only [Daemon.step, DaemonEvent.script, hscript]
      exact Nat.le_add_right _ 2
    · simp only [Daemon.step, DaemonEvent.script, hnil]
      exact Nat.le_refl _
    · simp only [Daemon.step, DaemonEvent.script, hreject]
      exact Nat.le_refl _
  | inviteResolved leg resolvedTarget callId =>
    obtain ⟨d₁, -, hserial, hstep | ⟨p, hstep⟩⟩ := step_inviteResolved d leg
      resolvedTarget callId
    · rw [hstep, hserial]
    · rw [hstep, (stopped_rest _ _ _).2.2.1, hserial]
  | regState sip regIsActive nowMs => exact Nat.le_refl _
  | setup db config o => exact (setup_effect db config o d.quiet).nextSerial
  | teardown p closes =>
    by_cases hp : p ∈ d.g_accounts
    · rw [((step_teardown d p closes).2 hp).2.2.1]
    · rw [(step_teardown d p closes).1 hp]
      exact Nat.le_refl _

end Slots

/-! ## One call -/

/-- At most one of an account's `sipCall` and `incomingSipCall` is set. -/
def AtMostOneLeg (d : Daemon) : Prop :=
  ∀ name, d.heldLeg .bridgeCall name = none ∨ d.heldLeg .incomingSipCall name = none

/-- The legs that accounts hold were made by the daemon. -/
def HeldMade (d : Daemon) : Prop :=
  ∀ name kind leg, d.heldLeg kind name = some leg → leg < d.nextSerial

/-- The handler of an event keeps the account to one call. -/
structure OneCallStep (d : Daemon) (e : DaemonEvent) : Prop where
  /-- No account ends up with two legs. -/
  one : AtMostOneLeg (d.step e)
  /-- A leg's pointer stays, or its leg was hung up and deleted. -/
  kept : ∀ name kind leg, d.heldLeg kind name = some leg →
    (d.step e).heldLeg kind name = some leg ∨
      .hangupLeg leg ∈ (d.step e).out ∧ (d.step e).legs.lookup leg = none
  /-- An INVITE between a proceeded incoming call and its leg is turned away. -/
  busy : ∀ sip localPort requestUser p acct, e = .invite sip localPort requestUser →
    InviteFor d sip localPort p → d.account? p = some acct → acct.isCallee = true →
    acct.sipCall = none → acct.incomingSipCall = none →
    (d.step e).out = [.rejectInvite sip 486] ∧
      ∃ acct', (d.step e).account? p = some acct' ∧ acct'.isCallee = true ∧
        acct'.bridge = acct.bridge ∧ acct'.sipCall = none ∧ acct'.incomingSipCall = none

/-- A ringing call is dialled only for an account without a leg, and an INVITE does not come for an
account that has proceeded an incoming call and holds no leg. -/
def NoOverlap (d : Daemon) (e : DaemonEvent) : Prop :=
  match e with
  | .callState account _ _ state _ =>
    state = .ringing → ∀ acct, d.g_accounts.lookup account = some acct → Dials d acct →
      ∀ kind, acct.leg kind = none
  | .invite sip localPort _ =>
    ∀ p acct, InviteFor d sip localPort p → d.account? p = some acct → acct.isCallee = true →
      ∃ kind, acct.leg kind ≠ none
  | _ => True

section Step

variable {d : Daemon} {e : DaemonEvent}

/-- Under `NoOverlap`, a leg is opened only where the account has none. -/
theorem Opens.free {name : String} {kind : LegKind} (h : Opens d e name kind) (hq : NoOverlap d e)
    (kind' : LegKind) : d.heldLeg kind' name = none := by
  cases h with
  | ringing hacct hdials => rw [heldLeg_eq _ hacct, hq rfl _ hacct hdials kind']
  | invite hfor hp hbusy huser =>
    rw [heldLeg_eq _ (account?_eq_some.mp hp).1, (busy_eq_false hp).mp hbusy kind']

/-- A slot that is filled after the step was filled before, or is the one that was opened. -/
theorem filled_before {name : String} {kind : LegKind} {leg : Nat}
    (h : (d.step e).heldLeg kind name = some leg) :
    d.heldLeg kind name = some leg ∨ Opens d e name kind ∧ leg = d.nextSerial + 1 ∧
      d.nextSerial + 2 = (d.step e).nextSerial := by
  cases slot_of_step d e name kind with
  | same hsame => exact .inl (hsame ▸ h)
  | closed hnone => rw [hnone] at h; cases h
  | opened hopens hsome hserial =>
    rw [hsome] at h
    exact .inr ⟨hopens, (Option.some.inj h).symm, hserial⟩

theorem Opens.kind_eq {name name' : String} {kind kind' : LegKind} (h : Opens d e name kind)
    (h' : Opens d e name' kind') : kind = kind' := by
  cases h <;> cases h' <;> rfl

theorem heldMade_step (h : HeldMade d) : HeldMade (d.step e) := by
  intro name kind leg hleg
  rcases filled_before hleg with hbefore | ⟨-, rfl, hserial⟩
  · exact Nat.lt_of_lt_of_le (h name kind leg hbefore) step_nextSerial
  · omega

theorem oneCallStep_of_noOverlap (h : AtMostOneLeg d) (hq : NoOverlap d e) : OneCallStep d e where
  one := by
    intro name
    by_contra hno
    rw [not_or] at hno
    obtain ⟨l₁, h₁⟩ := Option.ne_none_iff_exists'.mp hno.1
    obtain ⟨l₂, h₂⟩ := Option.ne_none_iff_exists'.mp hno.2
    rcases filled_before h₁ with hb₁ | ⟨ho₁, -⟩
    · rcases filled_before h₂ with hb₂ | ⟨ho₂, -⟩
      · rcases h name with hn | hn
        · rw [hn] at hb₁; cases hb₁
        · rw [hn] at hb₂; cases hb₂
      · rw [ho₂.free hq .bridgeCall] at hb₁; cases hb₁
    · rcases filled_before h₂ with hb₂ | ⟨ho₂, -⟩
      · rw [ho₁.free hq .incomingSipCall] at hb₂; cases hb₂
      · exact absurd (ho₁.kind_eq ho₂) (by decide)
  kept := by
    intro name kind leg hleg
    cases slot_of_step d e name kind with
    | same hsame => exact .inl (hsame.trans hleg)
    | closed hnone hclosed => exact .inr (hclosed leg hleg)
    | opened hopens hsome hserial => rw [hopens.free hq kind] at hleg; cases hleg
  busy := by
    rintro sip localPort requestUser p acct rfl hfor hp hcallee hsipCall hincoming
    obtain ⟨kind, hkind⟩ := hq p acct hfor hp hcallee
    cases kind with
    | bridgeCall => exact absurd hsipCall hkind
    | incomingSipCall => exact absurd hincoming hkind

/-- The ringing handler hangs nothing up. -/
theorem ringing_hangs_up_nothing {account remotePeerId : String} {callId : CallId}
    {contact : Except RuntimeError (Option SyncedContactRecord)} {leg : Nat} :
    .hangupLeg leg ∉ (d.step (.callState account remotePeerId callId .ringing contact)).out := by
  intro hmem
  cases requests_of_mem_step hmem with
  | ended hstate _ => rcases hstate with hs | hs <;> cases hs

theorem noOverlap_of_oneCallStep (hmade : HeldMade d) (h : OneCallStep d e) : NoOverlap d e := by
  cases e with
  | callState account remotePeerId callId state contact =>
    rintro rfl acct hacct hdials kind
    have hdialled : (d.step (.callState account remotePeerId callId .ringing contact)).heldLeg
        .bridgeCall account = some (d.nextSerial + 1) := by
      rw [(step_dials _ _ _ _ _ hacct hdials).1, if_pos ⟨rfl, rfl⟩]
    cases hleg : acct.leg kind with
    | none => rfl
    | some leg =>
      have hheld : d.heldLeg kind account = some leg := by rw [heldLeg_eq kind hacct, hleg]
      rcases h.kept account kind leg hheld with hkept | ⟨hhangup, -⟩
      · cases kind with
        | bridgeCall =>
          -- the slot now holds the new leg, which the old one is not
          rw [hdialled] at hkept
          have hlt := hmade account _ leg hheld
          have heq := Option.some.inj hkept
          omega
        | incomingSipCall =>
          rcases h.one account with hn | hn
          · rw [hdialled] at hn; cases hn
          · rw [hkept] at hn; cases hn
      · exact absurd hhangup ringing_hangs_up_nothing
  | invite sip localPort requestUser =>
    intro p acct hfor hp hcallee
    by_contra hno
    have hnone : ∀ kind, acct.leg kind = none := fun kind => by
      by_contra hk
      exact hno ⟨kind, hk⟩
    have hout := (h.busy sip localPort requestUser p acct rfl hfor hp hcallee (hnone .bridgeCall)
      (hnone .incomingSipCall)).1
    have hbusy := (busy_eq_false hp).mpr hnone
    by_cases huser : normalizeDestUser requestUser = ""
    · obtain ⟨sipAccount, acctState, hsip, hstate, rfl⟩ := hfor
      simp [Daemon.step, DaemonEvent.script, onIncomingCall, hsip, hstate, hbusy, huser,
        Daemon.emit, Daemon.quiet] at hout
    · obtain ⟨sipAccount, -, hscript⟩ := onIncomingCall_opens hfor hbusy huser
      simp [Daemon.step, DaemonEvent.script, hscript, Daemon.emit, Daemon.quiet] at hout
  | legState leg state => trivial
  | inviteResolved leg resolvedTarget callId => trivial
  | regState sip regIsActive nowMs => trivial
  | setup db config o => trivial
  | teardown name closes => trivial

/-- A handler keeps every account to one call exactly when calls of the two directions do not
overlap. -/
theorem oneCallStep_iff (h : AtMostOneLeg d) (hmade : HeldMade d) :
    OneCallStep d e ↔ NoOverlap d e :=
  ⟨noOverlap_of_oneCallStep hmade, oneCallStep_of_noOverlap h⟩

end Step

/-- A daemon without accounts holds no legs. -/
theorem Daemon.Started.oneCall {d : Daemon} (h : d.Started) : AtMostOneLeg d ∧ HeldMade d := by
  have hnone : ∀ name kind, d.heldLeg kind name = none := by
    intro name kind
    rw [Daemon.heldLeg, h.g_accounts]
    rfl
  refine ⟨fun name => .inl (hnone name _), fun name kind leg hleg => ?_⟩
  rw [hnone] at hleg
  cases hleg

/-- Along every run from the daemon's start: each handler keeps every account to one call exactly
when calls of the two directions do not overlap. -/
theorem oneCall_along_iff {d : Daemon} (h : d.Started) (events : List DaemonEvent) :
    Along Daemon.step OneCallStep d events ↔ Along Daemon.step NoOverlap d events := by
  refine Runs.along_congr (I := fun d => AtMostOneLeg d ∧ HeldMade d) ?_ ?_ h.oneCall
  · intro d e h hq
    exact ⟨(oneCallStep_of_noOverlap h.1 hq).one, heldMade_step h.2⟩
  · intro d e h
    exact oneCallStep_iff h.1 h.2

/-! ## A line with calls in both directions -/

/-- An incoming call from its offer to its end. -/
theorem oneCall_along_iff_incoming :
    Along Daemon.step OneCallStep idleDaemon
      [bringUp, .report 1 .incomingAudio, .report 1 .ringing, .report 1 .ended] := by
  refine (oneCall_along_iff ⟨rfl, rfl, rfl, rfl⟩ _).mpr ⟨trivial, ?_, ?_, ?_, trivial⟩
  · exact fun h => by cases h
  · intro _ acct hacct _ kind
    rw [← heldLeg_eq kind hacct]
    cases kind <;> decide
  · exact fun h => by cases h

/-- Call 1 has been proceeded and not dialled yet; an INVITE is accepted all the same. -/
theorem invite_accepted_before_ringing :
    ¬ Along Daemon.step OneCallStep idleDaemon
      [bringUp, .report 1 .incomingAudio, .invite "line3" none "100"] := by
  rintro ⟨-, -, h, -⟩
  generalize hd : (idleDaemon.step bringUp).step (.report 1 .incomingAudio) = d at h
  obtain ⟨sip, hsip⟩ : ∃ sip, d.g_sipAccounts.lookup "line3" = some sip :=
    Option.isSome_iff_exists.mp (by rw [← hd]; decide)
  obtain ⟨acct, hacct⟩ : ∃ acct, d.account? ⟨"line3", 0⟩ = some acct :=
    Option.isSome_iff_exists.mp (by rw [← hd]; decide)
  have hstate : (d.g_sipAccounts.lookup "line3").bind (·.acctState) = some ⟨"line3", 0⟩ := by
    rw [← hd]
    decide
  have hslots : (d.account? ⟨"line3", 0⟩).map
      (fun a => (a.isCallee, a.sipCall, a.incomingSipCall)) = some (true, none, none) := by
    rw [← hd]
    decide
  rw [hsip] at hstate
  rw [hacct] at hslots
  obtain ⟨hcallee, hslots⟩ := Prod.mk.inj (Option.some.inj hslots)
  obtain ⟨hsipCall, hincoming⟩ := Prod.mk.inj hslots
  have hout := (h.busy "line3" none "100" ⟨"line3", 0⟩ acct rfl ⟨sip, _, hsip, hstate, rfl⟩ hacct
    hcallee hsipCall hincoming).1
  rw [← hd] at hout
  exact absurd hout (by decide)

end Signal2sip
