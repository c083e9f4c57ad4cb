import Signal2sip.Daemon.Calls
import Signal2sip.Laws.SetupAtomicity

/-!
# What one handler can do

The properties of calls read what a handler asks for and what it changes off the lemmas of this
module, and unfold no handler themselves:

- `stopped_*`: what `stopSipBridge` and `stopIncomingSipCall` do;
- `SetupEffect`: what a setup adds, which is at most one account and its `BridgeAccount`;
- `hangupLeg_mem_step`, `accept_mem_step`, `answer_mem_step`: when a handler hangs up a leg, accepts
  the Signal call of one, or answers one.
-/

namespace Signal2sip

open Script (exec Through)

/-! ## Small laws of the operations -/

section Operations

variable {d : Daemon} {name : String} {kind : LegKind}

@[simp] theorem setLeg_leg (acct : AccountState) (kind : LegKind) (leg : Option Nat) :
    (acct.setLeg kind leg).leg kind = leg := by
  cases kind <;> rfl

theorem setLeg_leg_ne {kind kind' : LegKind} (h : kind' ≠ kind) (acct : AccountState)
    (leg : Option Nat) : (acct.setLeg kind leg).leg kind' = acct.leg kind' := by
  cases kind <;> cases kind' <;> first | rfl | exact absurd rfl h

theorem setLeg_same {acct : AccountState} {leg : Option Nat} (h : acct.leg kind = leg) :
    acct.setLeg kind leg = acct := by
  cases kind <;> subst h <;> rfl

@[simp] theorem setLeg_serial (acct : AccountState) (kind : LegKind) (leg : Option Nat) :
    (acct.setLeg kind leg).serial = acct.serial := by
  cases kind <;> rfl

@[simp] theorem setLeg_bridge (acct : AccountState) (kind : LegKind) (leg : Option Nat) :
    (acct.setLeg kind leg).bridge = acct.bridge := by
  cases kind <;> rfl

/-- A pointer leads to an account when that account, with its serial, is stored under its name. -/
theorem account?_eq_some {p : ObjPtr} {acct : AccountState} :
    d.account? p = some acct ↔ d.g_accounts.lookup p.name = some acct ∧ acct.serial = p.serial := by
  simp [Daemon.account?, Option.filter_eq_some_iff]

theorem sipAccount?_eq_some {p : ObjPtr} {sip : BridgeAccount} :
    d.sipAccount? p = some sip ↔ d.g_sipAccounts.lookup p.name = some sip ∧ sip.serial = p.serial := by
  simp [Daemon.sipAccount?, Option.filter_eq_some_iff]

theorem heldLeg_eq (kind : LegKind) {acct : AccountState} (h : d.g_accounts.lookup name = some acct) :
    d.heldLeg kind name = acct.leg kind := by
  simp [Daemon.heldLeg, h]

/-- A change of an account that keeps the slot. -/
theorem modifyAccount_heldLeg {f : AccountState → AccountState} {name' : String}
    (hf : ∀ acct, (f acct).leg kind = acct.leg kind) :
    (d.modifyAccount name f).heldLeg kind name' = d.heldLeg kind name' := by
  unfold Daemon.heldLeg Daemon.modifyAccount
  by_cases h : name' = name
  · subst h
    rw [AList.lookup_modify_self]
    cases d.g_accounts.lookup name' with
    | none => rfl
    | some acct => exact hf acct
  · rw [AList.lookup_modify_ne h]

end Operations

/-! ## Opening a leg -/

section Opened

variable {d : Daemon} {kind : LegKind} {acc acct : ObjPtr} {call : Option CallId}

theorem modifyAt_rest (p : ObjPtr) (f : AccountState → AccountState) :
    (d.modifyAt p f).out = d.out ∧ (d.modifyAt p f).legs = d.legs ∧
      (d.modifyAt p f).g_sipAccounts = d.g_sipAccounts ∧
      (d.modifyAt p f).pendingInvites = d.pendingInvites := by
  unfold Daemon.modifyAt
  split <;> exact ⟨rfl, rfl, rfl, rfl⟩

@[simp] theorem openLeg_out : (d.openLeg kind acc acct call).out = d.out := (modifyAt_rest _ _).1

@[simp] theorem openLeg_g_sipAccounts :
    (d.openLeg kind acc acct call).g_sipAccounts = d.g_sipAccounts := (modifyAt_rest _ _).2.2.1

@[simp] theorem openLeg_pendingInvites :
    (d.openLeg kind acc acct call).pendingInvites = d.pendingInvites := (modifyAt_rest _ _).2.2.2

theorem openLeg_lookup {a : AccountState} (h : d.account? acct = some a) :
    (d.openLeg kind acc acct call).g_accounts.lookup acct.name =
      some { a.setLeg kind (some (d.nextSerial + 1)) with bridge := some d.nextSerial } := by
  have hlookup := (account?_eq_some.mp h).1
  simp only [Daemon.openLeg, Daemon.modifyAt, h, Option.isSome_some, if_true, Daemon.modifyAccount,
    AList.lookup_modify_self, hlookup, Option.map_some]

theorem openLeg_lookup_ne {name : String} (h : name ≠ acct.name) :
    (d.openLeg kind acc acct call).g_accounts.lookup name = d.g_accounts.lookup name := by
  unfold Daemon.openLeg Daemon.modifyAt
  split
  · exact AList.lookup_modify_ne h _ _
  · rfl

/-- A leg for a destroyed account is on the heap, and no account has it. -/
theorem openLeg_dead (h : d.account? acct = none) :
    (d.openLeg kind acc acct call).g_accounts = d.g_accounts := by
  simp [Daemon.openLeg, Daemon.modifyAt, h]

/-- Asking for the INVITE changes nothing else. -/
theorem placeBridgeCall_eq_some {a : AccountState} {leg : Nat} {remotePeerId : String}
    {contact : Except RuntimeError (Option SyncedContactRecord)} {d' : Daemon}
    (h : placeBridgeCall a leg remotePeerId contact d = some d') :
    ∃ destUri headers, d' = d.emit (.makeCall leg destUri headers) := by
  unfold placeBridgeCall at h
  simp only at h
  split at h
  · cases h
    exact ⟨_, _, rfl⟩
  · split at h
    · cases h
    · cases h
      exact ⟨_, _, rfl⟩

theorem exec_placeBridgeCall (a : AccountState) (leg : Nat) (remotePeerId : String)
    (contact : Except RuntimeError (Option SyncedContactRecord)) :
    (exec [placeBridgeCall a leg remotePeerId contact] d).1 = d ∨
      ∃ destUri headers,
        (exec [placeBridgeCall a leg remotePeerId contact] d).1 =
          d.emit (.makeCall leg destUri headers) := by
  cases hplace : placeBridgeCall a leg remotePeerId contact d with
  | none => exact .inl (by rw [Script.exec_cons_none hplace])
  | some d' =>
    rw [Script.exec_cons_some hplace]
    exact .inr (placeBridgeCall_eq_some hplace)

end Opened

/-! ## Closing a leg -/

section Stopped

variable {d : Daemon} {name : String} {kind : LegKind}

/-- The state `stopLeg` leaves. -/
def Daemon.stopped (kind : LegKind) (name : String) (d : Daemon) : Daemon :=
  ((d.hangupHeld kind name).deleteHeld kind name).resetBridge name

/-- The hangups that `stopLeg` asks for. -/
def Daemon.hangups (kind : LegKind) (name : String) (d : Daemon) : List Action :=
  (d.heldLeg kind name).toList.map .hangupLeg

theorem exec_stopIncomingSipCall :
    (exec (stopIncomingSipCall name) d).1 = d.stopped .incomingSipCall name := rfl

theorem through_stopLeg_append {I : Daemon → Prop} {fs : Script Daemon} :
    Through I (stopLeg kind name ++ fs) d ↔
      I d ∧ I (d.hangupHeld kind name) ∧ I ((d.hangupHeld kind name).deleteHeld kind name) ∧
        Through I fs (d.stopped kind name) := by
  simp [stopLeg, Daemon.stopped]

@[simp] theorem hangupHeld_g_accounts : (d.hangupHeld kind name).g_accounts = d.g_accounts := by
  unfold Daemon.hangupHeld
  split <;> rfl

@[simp] theorem hangupHeld_heldLeg {kind' : LegKind} {name' : String} :
    (d.hangupHeld kind name).heldLeg kind' name' = d.heldLeg kind' name' := by
  rw [Daemon.heldLeg, hangupHeld_g_accounts, Daemon.heldLeg]

theorem hangupHeld_legs :
    (d.hangupHeld kind name).legs =
      match d.heldLeg kind name with
      | none => d.legs
      | some leg => d.legs.modify leg fun l => { l with weHungUp := true } := by
  unfold Daemon.hangupHeld
  cases d.heldLeg kind name <;> rfl

theorem deleteHeld_legs :
    (d.deleteHeld kind name).legs =
      match d.heldLeg kind name with
      | none => d.legs
      | some leg => d.legs.erase leg := by
  unfold Daemon.deleteHeld
  cases d.heldLeg kind name <;> rfl

theorem deleteHeld_lookup :
    (d.deleteHeld kind name).g_accounts.lookup name =
      (d.g_accounts.lookup name).map fun acct => acct.setLeg kind none := by
  unfold Daemon.deleteHeld
  split
  · next hnone =>
    cases hacct : d.g_accounts.lookup name with
    | none => rfl
    | some acct =>
      rw [heldLeg_eq kind hacct] at hnone
      rw [Option.map_some, setLeg_same hnone]
  · exact AList.lookup_modify_self name _ _

theorem deleteHeld_lookup_ne {name' : String} (h : name' ≠ name) :
    (d.deleteHeld kind name).g_accounts.lookup name' = d.g_accounts.lookup name' := by
  unfold Daemon.deleteHeld
  split
  · rfl
  · exact AList.lookup_modify_ne h _ _

/-- The account has no leg in the slot and no bridge, whatever it had before. -/
theorem stopped_lookup :
    (d.stopped kind name).g_accounts.lookup name =
      (d.g_accounts.lookup name).map fun acct => { acct.setLeg kind none with bridge := none } := by
  rw [Daemon.stopped, Daemon.resetBridge, Daemon.modifyAccount, AList.lookup_modify_self,
    deleteHeld_lookup, hangupHeld_g_accounts, Option.map_map]
  rfl

theorem stopped_lookup_ne {name' : String} (h : name' ≠ name) :
    (d.stopped kind name).g_accounts.lookup name' = d.g_accounts.lookup name' := by
  rw [Daemon.stopped, Daemon.resetBridge, Daemon.modifyAccount, AList.lookup_modify_ne h,
    deleteHeld_lookup_ne h, hangupHeld_g_accounts]

theorem stopped_legs :
    (d.stopped kind name).legs =
      match d.heldLeg kind name with
      | none => d.legs
      | some leg => d.legs.erase leg := by
  rw [Daemon.stopped, Daemon.resetBridge, Daemon.modifyAccount, deleteHeld_legs,
    hangupHeld_heldLeg, hangupHeld_legs]
  cases d.heldLeg kind name with
  | none => rfl
  | some leg => exact AList.erase_modify leg _ _

theorem stopped_out : (d.stopped kind name).out = d.out ++ d.hangups kind name := by
  have hdelete : ∀ d : Daemon, (d.deleteHeld kind name).out = d.out := by
    intro d
    unfold Daemon.deleteHeld
    split <;> rfl
  have hhangup : (d.hangupHeld kind name).out = d.out ++ d.hangups kind name := by
    unfold Daemon.hangupHeld Daemon.hangups
    split
    · next hnone => simp [hnone]
    · next leg hsome => simp [hsome, Daemon.emit, Daemon.modifyLeg]
  rw [Daemon.stopped, Daemon.resetBridge, Daemon.modifyAccount, hdelete, hhangup]

/-- Closing a leg leaves everything but the account, its leg and the requests as it was. -/
theorem stopped_rest (d : Daemon) (kind : LegKind) (name : String) :
    (d.stopped kind name).g_sipAccounts = d.g_sipAccounts ∧
      (d.stopped kind name).pendingInvites = d.pendingInvites ∧
      (d.stopped kind name).nextSerial = d.nextSerial ∧ (d.stopped kind name).g_ep = d.g_ep := by
  unfold Daemon.stopped Daemon.hangupHeld Daemon.deleteHeld
  split <;> split <;> exact ⟨rfl, rfl, rfl, rfl⟩

theorem stopped_heldLeg_ne {kind' : LegKind} (h : kind' ≠ kind) :
    (d.stopped kind name).heldLeg kind' name = d.heldLeg kind' name := by
  rw [Daemon.heldLeg, stopped_lookup, Daemon.heldLeg]
  cases d.g_accounts.lookup name with
  | none => rfl
  | some acct =>
    rw [Option.map_some, Option.bind_some, Option.bind_some, ← setLeg_leg_ne h acct none]
    cases kind' <;> rfl

theorem mem_hangups {a : Action} :
    a ∈ d.hangups kind name ↔ ∃ leg, a = .hangupLeg leg ∧ d.heldLeg kind name = some leg := by
  simp [Daemon.hangups, eq_comm, and_comm]

end Stopped

/-! ## A setup -/

section Setup

variable {db : Db} {config : AccountConfig} {o : SetupOutcomes} {d d' : Daemon}

/-- What a setup may change: it adds at most one account without a leg, at most one `BridgeAccount`
under the same name, and asks for at most one outgoing call. -/
structure SetupEffect (name : String) (d d' : Daemon) : Prop where
  legs : d'.legs = d.legs
  pendingInvites : d'.pendingInvites = d.pendingInvites
  nextSerial : d.nextSerial ≤ d'.nextSerial
  accounts : d'.g_accounts = d.g_accounts ∨
    ∃ acct : AccountState, name ∉ d.g_accounts ∧ d'.g_accounts = d.g_accounts.insert name acct ∧
      (∀ kind, acct.leg kind = none) ∧ acct.bridge = none ∧ acct.serial = d.nextSerial ∧
      d.nextSerial < d'.nextSerial
  sipAccounts : d'.g_sipAccounts = d.g_sipAccounts ∨
    ∃ sip, name ∉ d.g_accounts ∧ name ∈ d'.g_accounts ∧
      d'.g_sipAccounts = d.g_sipAccounts.insert name sip
  out : ∀ a ∈ d'.out, a ∈ d.out ∨ ∃ target, a = .startOutgoing name target

theorem SetupEffect.refl (name : String) (d : Daemon) : SetupEffect name d d :=
  ⟨rfl, rfl, Nat.le_refl _, .inl rfl, .inl rfl, fun _ h => .inl h⟩

/-- The SIP half changes the four SIP fields and takes a serial number. -/
theorem setupSip_eq (config : AccountConfig) (o : SetupOutcomes) (d : Daemon) (p : ObjPtr) :
    ∃ ep ts ports sips n, (setupSip config o p d).1 =
        { d with g_ep := ep, transports := ts, g_portToAccount := ports, g_sipAccounts := sips,
                 nextSerial := n } ∧
      d.nextSerial ≤ n ∧
      (sips = d.g_sipAccounts ∨ ∃ sip, sips = d.g_sipAccounts.insert config.name sip) := by
  have htransport : ∃ ep ts, ((d.ensureSharedEndpoint o.endpointAgain).createAccountTransport
      o.transportCreate).1 = { d with g_ep := ep, transports := ts } := by
    unfold Daemon.createAccountTransport
    split
    · split <;> exact ⟨_, _, rfl⟩
    · exact ⟨_, _, rfl⟩
  have hport : ∀ (d : Daemon) (a : Option String),
      ∃ ports, d.recordPort a p = { d with g_portToAccount := ports } := by
    intro d a
    unfold Daemon.recordPort
    split <;> exact ⟨_, rfl⟩
  obtain ⟨ep, ts, htransport⟩ := htransport
  unfold setupSip
  split
  · split
    · next hnone =>
      rw [hnone] at htransport
      exact ⟨ep, ts, d.g_portToAccount, d.g_sipAccounts, d.nextSerial, htransport, Nat.le_refl _,
        .inl rfl⟩
    · next d₁ transportId hsome =>
      rw [hsome] at htransport
      obtain rfl : d₁ = _ := htransport
      obtain ⟨ports, hports⟩ := hport { d with g_ep := ep, transports := ts } o.localAddress
      simp only [hports]
      split
      · exact ⟨ep, ts, ports, d.g_sipAccounts, d.nextSerial, rfl, Nat.le_refl _, .inl rfl⟩
      · exact ⟨ep, ts, ports, _, d.nextSerial + 1, rfl, Nat.le_succ _, .inr ⟨_, rfl⟩⟩
  · exact ⟨d.g_ep, d.transports, d.g_portToAccount, d.g_sipAccounts, d.nextSerial, rfl,
      Nat.le_refl _, .inl rfl⟩

/-- Placing the configured call is asking for it. -/
theorem placeOutgoingCall_eq (config : AccountConfig) (o : SetupOutcomes) (d : Daemon) :
    d.placeOutgoingCall config o = d ∨
      ∃ target, d.placeOutgoingCall config o = d.emit (.startOutgoing config.name target) := by
  unfold Daemon.placeOutgoingCall
  split
  · exact .inl rfl
  · split
    · exact .inl rfl
    · next target _ =>
      split
      · exact .inl rfl
      · exact .inr ⟨target, rfl⟩

/-- A finished Signal half and what the SIP half adds to it. -/
theorem setupEffect_of_connects {account : AccountRecord} (hname : config.name ∉ d.g_accounts)
    (hc : Constructs db config o account) (hn : Connects o account)
    {ok : Bool} (h : setupAccount db config o d = (d', .returned ok)) :
    SetupEffect config.name d d' := by
  rw [setup_of_connects hc hn] at h
  obtain ⟨ep, ts, ports, sips, n, hsip, hle, hsips⟩ := setupSip_eq config o
    (d.withAccount config o (builtAccount d config o account)) ⟨config.name, d.nextSerial⟩
  split at h
  · cases h
  · next d₁ hrun =>
    rw [hrun] at hsip
    obtain rfl : d₁ = _ := hsip
    obtain ⟨rfl, -⟩ := Prod.mk.inj h
    have hlt : d.nextSerial < n := hle
    have haccounts : ∃ acct : AccountState, config.name ∉ d.g_accounts ∧
        d.g_accounts.insert config.name (builtAccount d config o account) =
          d.g_accounts.insert config.name acct ∧
        (∀ kind, acct.leg kind = none) ∧ acct.bridge = none ∧ acct.serial = d.nextSerial ∧
        d.nextSerial < n :=
      ⟨_, hname, rfl, fun kind => by cases kind <;> rfl, rfl, rfl, hlt⟩
    have hsip' : sips = d.g_sipAccounts ∨ ∃ sip, config.name ∉ d.g_accounts ∧
        config.name ∈ d.g_accounts.insert config.name (builtAccount d config o account) ∧
        sips = d.g_sipAccounts.insert config.name sip := by
      rcases hsips with hsame | ⟨sip, hsip⟩
      · exact .inl hsame
      · exact .inr ⟨sip, hname, by simp, hsip⟩
    rcases placeOutgoingCall_eq config o
      ({ d.withAccount config o (builtAccount d config o account) with
        g_ep := ep, transports := ts, g_portToAccount := ports, g_sipAccounts := sips,
        nextSerial := n }) with hplace | ⟨target, hplace⟩
    · rw [hplace]
      exact ⟨rfl, rfl, Nat.le_of_lt hlt, .inr haccounts, hsip', fun a ha => .inl ha⟩
    · rw [hplace]
      refine ⟨rfl, rfl, Nat.le_of_lt hlt, .inr haccounts, hsip', fun a ha => ?_⟩
      rcases List.mem_append.mp ha with hmem | hmem
      · exact .inl hmem
      · exact .inr ⟨target, List.mem_singleton.mp hmem⟩

theorem setup_effect (db : Db) (config : AccountConfig) (o : SetupOutcomes) (d : Daemon) :
    SetupEffect config.name d (d.setup db config o) := by
  unfold Daemon.setup
  split
  · exact .refl _ d
  · next hname =>
    split
    · next d' ok hrun =>
      by_cases hc : ∃ account, Constructs db config o account
      · obtain ⟨account, hc⟩ := hc
        by_cases hn : Connects o account
        · exact setupEffect_of_connects hname hc hn hrun
        · -- the handler takes the account out again, and nothing else happened
          have hfailed := (setup_failed hname hc hn).2
          rw [hrun] at hfailed
          have hrest : d'.legs = d.legs ∧ d'.pendingInvites = d.pendingInvites ∧
              d'.nextSerial = d.nextSerial + 1 ∧ d'.out = d.out := by
            rw [setupAccount, setupSteps_of_constructs hc] at hrun
            cases hsteps : runSteps (connectionSteps o) (constructedAccount d config account) with
            | mk acct thrown =>
              cases thrown with
              | none => exact absurd (connection_of_none hsteps) hn
              | some e =>
                rw [hsteps] at hrun
                simp only [setupFailed, Daemon.withAccount, AList.lookup_insert] at hrun
                split at hrun
                · cases hrun
                · cases hrun
                  exact ⟨rfl, rfl, rfl, rfl⟩
          obtain ⟨hlegs, hpending, hserial, hout⟩ := hrest
          exact ⟨hlegs, hpending, by omega, .inl hfailed.g_accounts, .inl hfailed.g_sipAccounts,
            fun a ha => .inl (hout ▸ ha)⟩
      · have hundefined := setup_undefined (d := d) (not_exists.mp hc)
        rw [hrun] at hundefined
        cases hundefined
    · exact .refl _ d

end Setup

/-! ## Closing both legs -/

section Legless

variable {d : Daemon} {name : String}

/-- An account owns a leg when one of its slots holds it. -/
def Daemon.holds (d : Daemon) (name : String) (leg : Nat) : Prop :=
  ∃ kind, d.heldLeg kind name = some leg

/-- The state after `stopSipBridge` and `stopIncomingSipCall`. -/
def Daemon.legless (name : String) (d : Daemon) : Daemon :=
  (d.stopped .bridgeCall name).stopped .incomingSipCall name

theorem exec_stopBoth_append (fs : Script Daemon) :
    exec (stopSipBridge name ++ stopIncomingSipCall name ++ fs) d = exec fs (d.legless name) := rfl

theorem legless_lookup :
    (d.legless name).g_accounts.lookup name =
      (d.g_accounts.lookup name).map fun acct =>
        { acct with sipCall := none, incomingSipCall := none, bridge := none } := by
  rw [Daemon.legless, stopped_lookup, stopped_lookup, Option.map_map]
  rfl

theorem legless_lookup_ne {name' : String} (h : name' ≠ name) :
    (d.legless name).g_accounts.lookup name' = d.g_accounts.lookup name' := by
  rw [Daemon.legless, stopped_lookup_ne h, stopped_lookup_ne h]

/-- The legs that are left are those the account did not own. -/
theorem legless_legs {leg : Nat} {l : Leg} :
    (d.legless name).legs.lookup leg = some l ↔ d.legs.lookup leg = some l ∧ ¬ d.holds name leg := by
  have herase : ∀ (t : Table Nat Leg) (held : Option Nat),
      (match held with | none => t | some k => t.erase k).lookup leg = some l ↔
        t.lookup leg = some l ∧ held ≠ some leg := by
    intro t held
    cases held with
    | none => simp
    | some k =>
      by_cases hk : leg = k
      · subst hk
        simp
      · have hk' : ¬ k = leg := fun h => hk h.symm
        simp [AList.lookup_erase_ne hk, hk']
  have hother : (d.stopped .bridgeCall name).heldLeg .incomingSipCall name =
      d.heldLeg .incomingSipCall name := stopped_heldLeg_ne (by decide)
  rw [Daemon.legless, stopped_legs, herase, stopped_legs, herase, hother, and_assoc]
  apply and_congr_right
  intro _
  constructor
  · rintro ⟨hb, hi⟩ ⟨kind, hkind⟩
    cases kind with
    | bridgeCall => exact hb hkind
    | incomingSipCall => exact hi hkind
  · exact fun h => ⟨fun hb => h ⟨_, hb⟩, fun hi => h ⟨_, hi⟩⟩

theorem legless_out :
    (d.legless name).out =
      d.out ++ d.hangups .bridgeCall name ++ d.hangups .incomingSipCall name := by
  have hother : (d.stopped .bridgeCall name).hangups .incomingSipCall name =
      d.hangups .incomingSipCall name := by
    rw [Daemon.hangups, stopped_heldLeg_ne (by decide), Daemon.hangups]
  rw [Daemon.legless, stopped_out, stopped_out, hother]

theorem mem_legless_out {a : Action} :
    a ∈ (d.legless name).out ↔ a ∈ d.out ∨ ∃ leg, a = .hangupLeg leg ∧ d.holds name leg := by
  rw [legless_out, List.mem_append, List.mem_append, mem_hangups, mem_hangups, or_assoc]
  refine or_congr_right ?_
  constructor
  · rintro (⟨leg, ha, hleg⟩ | ⟨leg, ha, hleg⟩)
    · exact ⟨leg, ha, _, hleg⟩
    · exact ⟨leg, ha, _, hleg⟩
  · rintro ⟨leg, ha, kind, hleg⟩
    cases kind with
    | bridgeCall => exact .inl ⟨leg, ha, hleg⟩
    | incomingSipCall => exact .inr ⟨leg, ha, hleg⟩

theorem legless_rest :
    (d.legless name).g_sipAccounts = d.g_sipAccounts ∧
      (d.legless name).pendingInvites = d.pendingInvites ∧
      (d.legless name).nextSerial = d.nextSerial ∧ (d.legless name).g_ep = d.g_ep := by
  obtain ⟨h₁, h₂, h₃, h₄⟩ := stopped_rest d .bridgeCall name
  obtain ⟨g₁, g₂, g₃, g₄⟩ :=
    stopped_rest (d.stopped .bridgeCall name) .incomingSipCall name
  exact ⟨g₁.trans h₁, g₂.trans h₂, g₃.trans h₃, g₄.trans h₄⟩

end Legless

/-! ## Closing an account's transport -/

/-- Closing the SIP side changes the transports and asks at most for an unregistration. -/
theorem closeSip_eq {d : Daemon} (name : String) (closes : Bool) :
    ∃ ts more, d.closeSip name closes = { d with transports := ts, out := d.out ++ more } ∧
      ∀ a ∈ more, a = .setRegistration name false := by
  have hnil : ∀ ts, ∃ ts' more, { d with transports := ts } =
      { d with transports := ts', out := d.out ++ more } ∧
        ∀ a ∈ more, a = Action.setRegistration name false :=
    fun ts => ⟨ts, [], by simp, fun a ha => by cases ha⟩
  have hone : ∀ ts, ∃ ts' more, { d.emit (.setRegistration name false) with transports := ts } =
      { d with transports := ts', out := d.out ++ more } ∧
        ∀ a ∈ more, a = Action.setRegistration name false :=
    fun ts => ⟨ts, [.setRegistration name false], rfl, fun a ha => List.mem_singleton.mp ha⟩
  unfold Daemon.closeSip
  split
  · exact hnil d.transports
  · next sip _ =>
    split
    · by_cases hreg : sip.registered
      · simp only [hreg, if_true]
        split
        · exact hone d.transports
        · next id _ =>
          split
          · exact hone (d.transports.erase id)
          · exact hone d.transports
      · simp only [hreg]
        split
        · exact hnil d.transports
        · next id _ =>
          split
          · exact hnil (d.transports.erase id)
          · exact hnil d.transports
    · exact hnil d.transports

/-- A teardown closes the account's legs and takes it out of both tables. -/
theorem exec_teardownAccount {d : Daemon} {name : String} (h : name ∈ d.g_accounts) (closes : Bool)
    (d₁ : Daemon) :
    ∃ ts more, exec (teardownAccount name closes d) d₁ =
        ({ d₁.legless name with
            transports := ts
            out := (d₁.legless name).out ++ more
            g_sipAccounts := (d₁.legless name).g_sipAccounts.erase name
            g_accounts := (d₁.legless name).g_accounts.erase name }, true) ∧
      ∀ a ∈ more, a = .setRegistration name false := by
  obtain ⟨ts, more, hclosed, hmore⟩ := closeSip_eq (d := d₁.legless name) name closes
  refine ⟨ts, more, ?_, hmore⟩
  rw [teardownAccount, if_pos h, exec_stopBoth_append, Script.exec_act_cons, hclosed]
  rfl

/-! ## What a handler asks for -/

section Requests

variable {d : Daemon}

/-- The setup of an outgoing call fails: no target, or no call. -/
def setupFails (resolvedTarget : Except RuntimeError String) (callId : CallId) : Prop :=
  ∀ target, resolvedTarget = .ok target → target = "" ∨ callId = 0

/-- What the handler of an event asks RingRTC and PJSIP for. -/
inductive Requests (d : Daemon) : DaemonEvent → Action → Prop
  | proceed {account remotePeerId callId state contact} :
    Requests d (.callState account remotePeerId callId state contact) (.proceed account callId)
  | makeCall {account remotePeerId callId contact leg destUri headers} :
    Requests d (.callState account remotePeerId callId .ringing contact)
      (.makeCall leg destUri headers)
  | answerOk {account remotePeerId callId contact acct leg} :
    d.g_accounts.lookup account = some acct → acct.isCallee = false →
    acct.incomingSipCall = some leg →
    Requests d (.callState account remotePeerId callId .connected contact) (.answer leg 200)
  | runProbe {account remotePeerId callId contact} :
    Requests d (.callState account remotePeerId callId .connected contact) (.runProbe account)
  | ended {account remotePeerId callId state contact leg} :
    state = .ended ∨ state = .concluded → d.holds account leg →
    Requests d (.callState account remotePeerId callId state contact) (.hangupLeg leg)
  | accept {leg l acct} :
    d.legs.lookup leg = some l → d.account? l.acct = some acct → l.kind = .bridgeCall →
    l.acceptSent = false → Requests d (.legState leg .confirmed) (.accept leg acct.activeCallId)
  | hangupSignal {leg state account} : Requests d (.legState leg state) (.hangupSignal account)
  | rejectInvite {sip localPort requestUser statusCode} :
    Requests d (.invite sip localPort requestUser) (.rejectInvite sip statusCode)
  | ringing {sip localPort requestUser leg} :
    Requests d (.invite sip localPort requestUser) (.answer leg 180)
  | startOutgoing {leg resolvedTarget callId account target} :
    Requests d (.inviteResolved leg resolvedTarget callId) (.startOutgoing account target)
  | startFailed {leg resolvedTarget callId acct leg'} :
    d.pendingInvites.lookup leg = some acct → (d.account? acct).isSome →
    setupFails resolvedTarget callId → d.heldLeg .incomingSipCall acct.name = some leg' →
    Requests d (.inviteResolved leg resolvedTarget callId) (.hangupLeg leg')
  | configuredCall {db config o target} :
    Requests d (.setup db config o) (.startOutgoing config.name target)
  | teardown {name closes leg} :
    d.holds name leg → Requests d (.teardown name closes) (.hangupLeg leg)
  | unregister {name closes} : Requests d (.teardown name closes) (.setRegistration name false)

theorem step_callState {account remotePeerId : String} {callId : CallId} {state : CallState}
    {contact : Except RuntimeError (Option SyncedContactRecord)} {acct : AccountState}
    (h : d.g_accounts.lookup account = some acct) :
    d.step (.callState account remotePeerId callId state contact) =
      (exec (onCallState account acct remotePeerId callId state contact d) d.quiet).1 := by
  simp only [Daemon.step, DaemonEvent.script, h]

@[simp] theorem recordCall_heldLeg {name remotePeerId name' : String} {callId : CallId}
    {kind : LegKind} :
    (d.recordCall name remotePeerId callId).heldLeg kind name' = d.heldLeg kind name' :=
  modifyAccount_heldLeg fun _ => by cases kind <;> rfl

/-- The account that a callback is for, after it was recorded. -/
theorem recordCall_account? {name : String} (remotePeerId : String) (callId : CallId)
    {acct : AccountState} (h : d.g_accounts.lookup name = some acct) :
    (d.recordCall name remotePeerId callId).account? (Daemon.ptr name acct) =
      some { acct with activeCallId := callId, remotePeerId := remotePeerId } := by
  rw [account?_eq_some]
  refine ⟨?_, rfl⟩
  simp only [Daemon.recordCall, Daemon.modifyAccount, Daemon.ptr, AList.lookup_modify_self, h,
    Option.map_some]

theorem recordCall_lookup {name : String} (remotePeerId : String) (callId : CallId)
    {acct : AccountState} (h : d.g_accounts.lookup name = some acct) :
    (d.recordCall name remotePeerId callId).g_accounts.lookup name =
      some { acct with activeCallId := callId, remotePeerId := remotePeerId } :=
  (account?_eq_some.mp (recordCall_account? remotePeerId callId h)).1

/-- The requests of RingRTC's callback. -/
theorem requests_onCallState {account remotePeerId : String} {callId : CallId} {state : CallState}
    {contact : Except RuntimeError (Option SyncedContactRecord)} {acct : AccountState} {a : Action}
    (hacct : d.g_accounts.lookup account = some acct)
    (h : a ∈ (exec (onCallState account acct remotePeerId callId state contact d) d.quiet).1.out) :
    Requests d (.callState account remotePeerId callId state contact) a := by
  unfold onCallState at h
  rw [Script.exec_act_cons] at h
  have hended : state = .ended ∨ state = .concluded →
      a ∈ (exec (stopSipBridge account ++ stopIncomingSipCall account ++
        [Script.act (Daemon.modifyAccount · account fun a => { a with isCallee := false })])
        (d.quiet.recordCall account remotePeerId callId)).1.out →
      Requests d (.callState account remotePeerId callId state contact) a := by
    intro hstate hmem
    rw [exec_stopBoth_append] at hmem
    rcases mem_legless_out.mp hmem with hnil | ⟨leg, rfl, kind, hleg⟩
    · cases hnil
    · rw [recordCall_heldLeg] at hleg
      exact .ended hstate ⟨kind, hleg⟩
  cases state with
  | outgoingAudio =>
    obtain rfl := List.mem_singleton.mp h
    exact .proceed
  | incomingAudio =>
    simp only at h
    split at h
    · obtain rfl := List.mem_singleton.mp h
      exact .proceed
    · cases h
  | ringing =>
    simp only [startSipDial] at h
    split at h
    · split at h
      · cases h
      · split at h
        · rw [Script.exec_act_cons] at h
          rcases exec_placeBridgeCall acct (d.nextSerial + 1) remotePeerId contact with
            hplace | ⟨destUri, headers, hplace⟩
          · rw [hplace, openLeg_out] at h
            cases h
          · rw [hplace, Daemon.emit, openLeg_out] at h
            obtain rfl := List.mem_singleton.mp h
            exact .makeCall
        · cases h
    · cases h
  | connected =>
    simp only at h
    split at h
    · cases h
    · next hcallee =>
      split at h
      · next leg hleg =>
        obtain rfl := List.mem_singleton.mp h
        exact .answerOk hacct (Bool.eq_false_iff.mpr hcallee) hleg
      · split at h
        · cases h
        · obtain rfl := List.mem_singleton.mp h
          exact .runProbe
  | connecting => cases h
  | ended => exact hended (.inl rfl) h
  | rejected => cases h
  | concluded => exact hended (.inr rfl) h

/-- The requests of a leg's own handler. -/
theorem requests_onLegState {leg : Nat} {state : InvState} {a : Action}
    (h : a ∈ (exec (onLegState leg state d) d.quiet).1.out) :
    Requests d (.legState leg state) a := by
  unfold onLegState at h
  split at h
  · cases h
  · next l hl =>
    split at h
    · cases h
    · next acct hacct =>
      split at h
      · next hkind =>
        unfold BridgeCall.onCallState at h
        split at h
        · split at h
          · cases h
          · next haccept =>
            obtain rfl := List.mem_singleton.mp h
            exact .accept hl hacct hkind (Bool.eq_false_iff.mpr haccept)
        · rw [Script.exec_act_cons] at h
          simp only [Daemon.modifyLeg, Script.exec_nil] at h
          split at h
          · obtain rfl := List.mem_singleton.mp h
            exact .hangupSignal
          · cases h
        · cases h
      · unfold IncomingSipCall.onCallState at h
        split at h
        · rw [Script.exec_act_cons] at h
          simp only [Daemon.modifyLeg, Script.exec_nil] at h
          split at h
          · cases h
          · obtain rfl := List.mem_singleton.mp h
            exact .hangupSignal
        · cases h

/-- The requests of an INVITE. -/
theorem requests_onIncomingCall {sip : String} {localPort : Option Int} {requestUser : String}
    {a : Action} (h : a ∈ (exec (onIncomingCall sip localPort requestUser d) d.quiet).1.out) :
    Requests d (.invite sip localPort requestUser) a := by
  unfold onIncomingCall at h
  split at h
  · cases h
  · split at h
    · obtain rfl := List.mem_singleton.mp h
      exact .rejectInvite
    · simp only at h
      split at h
      · obtain rfl := List.mem_singleton.mp h
        exact .rejectInvite
      · split at h
        · obtain rfl := List.mem_singleton.mp h
          exact .rejectInvite
        · simp only [Script.exec_act_cons, Script.exec_nil, Daemon.emit, openLeg_out] at h
          obtain rfl := List.mem_singleton.mp h
          exact .ringing

/-- The requests of an INVITE whose target has been looked up. -/
theorem requests_onInviteResolved {leg : Nat} {resolvedTarget : Except RuntimeError String}
    {callId : CallId} {a : Action}
    (h : a ∈ (exec (onInviteResolved leg resolvedTarget callId d) d.quiet).1.out) :
    Requests d (.inviteResolved leg resolvedTarget callId) a := by
  unfold onInviteResolved at h
  split at h
  · cases h
  · next acct hacct =>
    rw [Script.exec_act_cons] at h
    split at h
    · next hsome =>
      have hstop : setupFails resolvedTarget callId → ∀ d₁ : Daemon,
          a ∈ (exec (stopIncomingSipCall acct.name) d₁).1.out →
          d₁.heldLeg .incomingSipCall acct.name = d.heldLeg .incomingSipCall acct.name →
          a ∈ d₁.out ∨ Requests d (.inviteResolved leg resolvedTarget callId) a := by
        intro hfails d₁ hmem hheld
        have hmem' : a ∈ (d₁.stopped .incomingSipCall acct.name).out := hmem
        rw [stopped_out, List.mem_append, mem_hangups, hheld] at hmem'
        rcases hmem' with hout | ⟨leg', rfl, hleg'⟩
        · exact .inl hout
        · exact .inr (.startFailed hacct hsome hfails hleg')
      unfold startOutgoingCall at h
      split at h
      · rcases hstop (fun target ht => by cases ht) _ h rfl with hnil | hreq
        · cases hnil
        · exact hreq
      · next target =>
        split at h
        · next hempty =>
          rcases hstop (fun target' ht => by cases ht; exact .inl hempty) _ h rfl with hnil | hreq
          · cases hnil
          · exact hreq
        · rw [Script.exec_act_cons, Script.exec_act_cons] at h
          split at h
          · next hzero =>
            have hheld : ∀ d₁ : Daemon, (d₁.modifyAccount acct.name fun a =>
                { a with isCallee := false }).heldLeg .incomingSipCall acct.name =
                d₁.heldLeg .incomingSipCall acct.name :=
              fun d₁ => modifyAccount_heldLeg fun _ => rfl
            rcases hstop (fun _ _ => .inr hzero) _ h (hheld _) with hout | hreq
            · obtain rfl := List.mem_singleton.mp hout
              exact .startOutgoing
            · exact hreq
          · obtain rfl := List.mem_singleton.mp h
            exact .startOutgoing
    · cases h

/-- The requests of a teardown. -/
theorem requests_teardownAccount {name : String} {closes : Bool} {a : Action}
    (h : a ∈ (exec (teardownAccount name closes d) d.quiet).1.out) :
    Requests d (.teardown name closes) a := by
  by_cases hname : name ∈ d.g_accounts
  · obtain ⟨ts, more, hrun, hmore⟩ := exec_teardownAccount hname closes d.quiet
    rw [hrun] at h
    rcases List.mem_append.mp h with hmem | hmem
    · rcases mem_legless_out.mp hmem with hnil | ⟨leg, rfl, hleg⟩
      · cases hnil
      · exact .teardown hleg
    · obtain rfl := hmore a hmem
      exact .unregister
  · rw [teardownAccount, if_neg hname] at h
    cases h

/-- Whatever a handler asks for, it asks for as `Requests` says. -/
theorem requests_of_mem_step {e : DaemonEvent} {a : Action} (h : a ∈ (d.step e).out) :
    Requests d e a := by
  cases e with
  | callState account remotePeerId callId state contact =>
    unfold Daemon.step DaemonEvent.script at h
    cases hacct : d.g_accounts.lookup account with
    | none => simp only [hacct] at h; cases h
    | some acct => simp only [hacct] at h; exact requests_onCallState hacct h
  | legState leg state => exact requests_onLegState h
  | invite sip localPort requestUser => exact requests_onIncomingCall h
  | inviteResolved leg resolvedTarget callId => exact requests_onInviteResolved h
  | regState sip regIsActive nowMs => cases h
  | setup db config o =>
    rcases (setup_effect db config o d.quiet).out a h with hnil | ⟨target, rfl⟩
    · cases hnil
    · exact .configuredCall
  | teardown name closes => exact requests_teardownAccount h

/-! The requests that concern a leg are made whenever their premises hold. -/

theorem hangup_mem_step_ended {account remotePeerId : String} {callId : CallId} {state : CallState}
    {contact : Except RuntimeError (Option SyncedContactRecord)} {leg : Nat}
    (hstate : state = .ended ∨ state = .concluded) (h : d.holds account leg) :
    .hangupLeg leg ∈ (d.step (.callState account remotePeerId callId state contact)).out := by
  obtain ⟨kind, hkind⟩ := h
  cases hacct : d.g_accounts.lookup account with
  | none => simp [Daemon.heldLeg, hacct] at hkind
  | some acct =>
    have hmem : .hangupLeg leg ∈
        ((d.quiet.recordCall account remotePeerId callId).legless account).out :=
      mem_legless_out.mpr (.inr ⟨leg, rfl, kind, by rw [recordCall_heldLeg]; exact hkind⟩)
    unfold Daemon.step DaemonEvent.script
    simp only [hacct]
    rcases hstate with rfl | rfl <;> exact hmem

theorem hangup_mem_step_startFailed {leg leg' : Nat} {acct : ObjPtr}
    {resolvedTarget : Except RuntimeError String} {callId : CallId}
    (hpending : d.pendingInvites.lookup leg = some acct) (halive : (d.account? acct).isSome)
    (hfails : setupFails resolvedTarget callId)
    (hheld : d.heldLeg .incomingSipCall acct.name = some leg') :
    .hangupLeg leg' ∈ (d.step (.inviteResolved leg resolvedTarget callId)).out := by
  have hstop : ∀ d₁ : Daemon,
      d₁.heldLeg .incomingSipCall acct.name = d.heldLeg .incomingSipCall acct.name →
      .hangupLeg leg' ∈ (exec (stopIncomingSipCall acct.name) d₁).1.out := by
    intro d₁ hsame
    have hmem : .hangupLeg leg' ∈ (d₁.stopped .incomingSipCall acct.name).out := by
      rw [stopped_out, List.mem_append, mem_hangups, hsame]
      exact .inr ⟨leg', rfl, hheld⟩
    exact hmem
  unfold Daemon.step DaemonEvent.script onInviteResolved
  simp only [hpending, halive, if_true, Script.exec_act_cons]
  unfold startOutgoingCall
  split
  · exact hstop _ rfl
  · next target =>
    split
    · exact hstop _ rfl
    · next hne =>
      rcases hfails target rfl with hempty | hzero
      · exact absurd hempty hne
      · rw [if_pos hzero, Script.exec_act_cons, Script.exec_act_cons]
        exact hstop _ (modifyAccount_heldLeg fun _ => rfl)

theorem accept_mem_step {leg : Nat} {l : Leg} {acct : AccountState}
    (hl : d.legs.lookup leg = some l) (hacct : d.account? l.acct = some acct)
    (hkind : l.kind = .bridgeCall) (haccept : l.acceptSent = false) :
    .accept leg acct.activeCallId ∈ (d.step (.legState leg .confirmed)).out := by
  simp [Daemon.step, DaemonEvent.script, onLegState, hl, hacct, hkind, BridgeCall.onCallState,
    haccept, Daemon.emit]

theorem answer_mem_step {account remotePeerId : String} {callId : CallId}
    {contact : Except RuntimeError (Option SyncedContactRecord)} {acct : AccountState} {leg : Nat}
    (hacct : d.g_accounts.lookup account = some acct) (hcallee : acct.isCallee = false)
    (hleg : acct.incomingSipCall = some leg) :
    .answer leg 200 ∈ (d.step (.callState account remotePeerId callId .connected contact)).out := by
  simp [Daemon.step, DaemonEvent.script, hacct, onCallState, hcallee, hleg, Daemon.emit]

end Requests

/-! ## Where a leg comes from -/

section Opens

variable {d : Daemon}

/-- The handler of a ringing call dials for the account. -/
def Dials (d : Daemon) (acct : AccountState) : Prop :=
  acct.isCallee = true ∧ d.canBridgeToSip acct.config = true

/-- The account that the handler of an INVITE takes it to be for. -/
def InviteFor (d : Daemon) (sip : String) (localPort : Option Int) (p : ObjPtr) : Prop :=
  ∃ sipAccount acctState, d.g_sipAccounts.lookup sip = some sipAccount ∧
    sipAccount.acctState = some acctState ∧ p = d.inviteTarget acctState localPort

theorem Dials.sipAccount {acct : AccountState} (h : Dials d acct) :
    ∃ sip, d.g_sipAccounts.lookup acct.config.name = some sip ∧ sip.registered = true := by
  have hany := (Bool.and_eq_true_iff.mp h.2).2
  cases hsip : d.g_sipAccounts.lookup acct.config.name with
  | none => rw [hsip] at hany; cases hany
  | some sip => rw [hsip] at hany; exact ⟨sip, rfl, hany⟩

/-- The script of a ringing call that is dialled. -/
theorem onCallState_dials {account remotePeerId : String} {callId : CallId}
    {contact : Except RuntimeError (Option SyncedContactRecord)} {acct : AccountState}
    (h : Dials d acct) {sip : BridgeAccount}
    (hsip : d.g_sipAccounts.lookup acct.config.name = some sip) (hreg : sip.registered = true) :
    onCallState account acct remotePeerId callId .ringing contact d =
      [Script.act (Daemon.recordCall account remotePeerId callId),
        Script.act (Daemon.openLeg .bridgeCall ⟨acct.config.name, sip.serial⟩
          (Daemon.ptr account acct) (some callId)),
        placeBridgeCall acct (d.nextSerial + 1) remotePeerId contact] := by
  simp [onCallState, h.1, h.2, startSipDial, hsip, hreg]

/-- Its leg is open, and the call on it is asked for or not. -/
theorem step_callState_dials {account remotePeerId : String} {callId : CallId}
    {contact : Except RuntimeError (Option SyncedContactRecord)} {acct : AccountState}
    (hacct : d.g_accounts.lookup account = some acct) (h : Dials d acct) :
    ∃ (sip : BridgeAccount) (out : List Action),
      d.step (.callState account remotePeerId callId .ringing contact) =
        { (d.quiet.recordCall account remotePeerId callId).openLeg .bridgeCall
          ⟨acct.config.name, sip.serial⟩ (Daemon.ptr account acct) (some callId) with out := out } := by
  obtain ⟨sip, hsip, hreg⟩ := h.sipAccount
  refine ⟨sip, ?_⟩
  rw [step_callState hacct, onCallState_dials h hsip hreg, Script.exec_act_cons, Script.exec_act_cons]
  rcases exec_placeBridgeCall
    (d := (d.quiet.recordCall account remotePeerId callId).openLeg .bridgeCall
      ⟨acct.config.name, sip.serial⟩ (Daemon.ptr account acct) (some callId))
    acct (d.nextSerial + 1) remotePeerId contact with hplace | ⟨destUri, headers, hplace⟩
  · exact ⟨_, hplace⟩
  · exact ⟨_, hplace⟩

/-- The script of a ringing call that is not dialled. -/
theorem onCallState_not_dials {account remotePeerId : String} {callId : CallId}
    {contact : Except RuntimeError (Option SyncedContactRecord)} {acct : AccountState}
    (h : ¬ Dials d acct) :
    onCallState account acct remotePeerId callId .ringing contact d =
      [Script.act (Daemon.recordCall account remotePeerId callId)] := by
  have hcond : ¬ ((acct.isCallee && d.canBridgeToSip acct.config) = true) := by
    rw [Bool.and_eq_true_iff]
    exact h
  simp only [onCallState]
  rw [if_neg hcond]

/-- The script of an INVITE for an account without a leg. -/
theorem onIncomingCall_opens {sip : String} {localPort : Option Int} {requestUser : String}
    {p : ObjPtr} (h : InviteFor d sip localPort p) (hbusy : d.busy p = false)
    (huser : normalizeDestUser requestUser ≠ "") :
    ∃ sipAccount, d.g_sipAccounts.lookup sip = some sipAccount ∧
      onIncomingCall sip localPort requestUser d =
        [Script.act (Daemon.openLeg .incomingSipCall ⟨sip, sipAccount.serial⟩ p none),
          Script.act (Daemon.emit · (.answer (d.nextSerial + 1) 180)),
          Script.act fun d' => { d' with
            pendingInvites := (d.nextSerial + 1, p) :: d'.pendingInvites }] := by
  obtain ⟨sipAccount, acctState, hsip, hstate, rfl⟩ := h
  refine ⟨sipAccount, hsip, ?_⟩
  simp [onIncomingCall, hsip, hstate, hbusy, huser]

/-- The script of an INVITE that does not open a leg. -/
theorem onIncomingCall_cases (d : Daemon) (sip : String) (localPort : Option Int)
    (requestUser : String) :
    (∃ p, InviteFor d sip localPort p ∧ d.busy p = false ∧ normalizeDestUser requestUser ≠ "") ∨
      onIncomingCall sip localPort requestUser d = [] ∨
      ∃ statusCode, onIncomingCall sip localPort requestUser d =
        [Script.act (Daemon.emit · (.rejectInvite sip statusCode))] := by
  by_cases h : ∃ p, InviteFor d sip localPort p ∧ d.busy p = false ∧
      normalizeDestUser requestUser ≠ ""
  · exact .inl h
  · right
    unfold onIncomingCall
    split
    · exact .inl rfl
    · next sipAccount hsip =>
      split
      · exact .inr ⟨_, rfl⟩
      · next acctState hstate =>
        simp only
        split
        · exact .inr ⟨_, rfl⟩
        · next hbusy =>
          have hempty : normalizeDestUser requestUser = "" := by
            by_contra huser
            exact h ⟨_, ⟨sipAccount, acctState, hsip, hstate, rfl⟩, Bool.not_eq_true _ ▸ hbusy, huser⟩
          rw [if_pos hempty]
          exact .inr ⟨_, rfl⟩

theorem busy_eq_false {p : ObjPtr} {acct : AccountState} (h : d.account? p = some acct) :
    d.busy p = false ↔ ∀ kind, acct.leg kind = none := by
  simp only [Daemon.busy, h, Bool.or_eq_false_iff, Option.isSome_eq_false_iff,
    Option.isNone_iff_eq_none]
  constructor
  · rintro ⟨hi, hb⟩ kind
    cases kind with
    | bridgeCall => exact hb
    | incomingSipCall => exact hi
  · exact fun hall => ⟨hall .incomingSipCall, hall .bridgeCall⟩

end Opens

/-! ## A daemon with one line

An account with a SIP trunk that takes calls in both directions, as `setupAccount` brings it up. The
runs that the properties fail on start from it. -/

def bridgedRecord : AccountRecord := { trunkRecord with sipBridgeDid := "200" }

def bridgedDb : Db := { account := AList.insert "line3" bridgedRecord ∅ }

def bringUp : DaemonEvent := .setup bridgedDb (configOfRecord "line3" bridgedRecord) {}

/-- RingRTC reports a state of a call of the line. -/
def DaemonEvent.report (callId : CallId) (state : CallState) : DaemonEvent :=
  .callState "line3" "peer" callId state (.ok none)

end Signal2sip
