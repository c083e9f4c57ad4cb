import Signal2sip.Lib.Run
import Signal2sip.Laws.OneCall
import Signal2sip.Laws.Ownership

/-!
# What a leg refers to outlives it

A leg keeps bare references to a bridge, a `BridgeAccount` and an account. `LegsAlive` says that all
of them exist for every leg that does, at every point inside a handler as well as between handlers.

`Daemon.objects` forgets everything but the objects, and the steps of the handlers are operations on
these (`objects_*`). With that, the laws of `Objects` say which handlers keep every leg alive:
`LegsSafe` is the condition on the state before a handler.

- `through_legsAlive_iff`: every leg is alive throughout a handler exactly when `LegsSafe` holds;
- `legsAlive_along_iff`: so it is throughout a run, from the daemon's start.
-/

namespace Signal2sip

open Script (exec Through act)
open Runs (Along)

/-- The bridge, the `BridgeAccount` and the account of every leg exist. -/
def LegsAlive (d : Daemon) : Prop :=
  ∀ leg l, d.legs.lookup leg = some l →
    d.bridgeExists l.bridge ∧ (d.sipAccount? l.acc).isSome ∧ (d.account? l.acct).isSome

/-! ## The daemon's objects -/

def AccountState.refs (acct : AccountState) : AccountRefs :=
  ⟨acct.serial, acct.bridge, acct.leg⟩

def Leg.refs (l : Leg) : LegRefs := ⟨l.kind, l.acc, l.bridge, l.acct⟩

def Daemon.objects (d : Daemon) : Objects where
  account name := (d.g_accounts.lookup name).map AccountState.refs
  sip name := (d.g_sipAccounts.lookup name).map (·.serial)
  leg k := (d.legs.lookup k).map Leg.refs
  waiting k p := (k, p) ∈ d.pendingInvites
  next := d.nextSerial

section Objects

variable {d : Daemon} {name : String} {kind : LegKind}

theorem objects_account {acct : AccountState} (h : d.g_accounts.lookup name = some acct) :
    d.objects.account name = some acct.refs := by
  simp [Daemon.objects, h]

theorem objects_account_cases {a : AccountRefs} (h : d.objects.account name = some a) :
    ∃ acct, d.g_accounts.lookup name = some acct ∧ acct.refs = a :=
  Option.map_eq_some_iff.mp h

theorem objects_leg {leg : Nat} {l : Leg} (h : d.legs.lookup leg = some l) :
    d.objects.leg leg = some l.refs := by
  simp [Daemon.objects, h]

theorem objects_leg_cases {leg : Nat} {r : LegRefs} (h : d.objects.leg leg = some r) :
    ∃ l, d.legs.lookup leg = some l ∧ l.refs = r :=
  Option.map_eq_some_iff.mp h

theorem objects_at {p : ObjPtr} {acct : AccountState} (h : d.account? p = some acct) :
    d.objects.At p acct.refs :=
  ⟨objects_account (account?_eq_some.mp h).1, (account?_eq_some.mp h).2⟩

/-- A pointer that leads to no account leads to none of the objects. -/
theorem objects_not_at {p : ObjPtr} (h : d.account? p = none) (a : AccountRefs) :
    ¬ d.objects.At p a := by
  rintro ⟨ha, hserial⟩
  obtain ⟨acct, hacct, rfl⟩ := objects_account_cases ha
  cases h.symm.trans (account?_eq_some.mpr ⟨hacct, hserial⟩)

theorem legsAlive_iff : LegsAlive d ↔ d.objects.Alive := by
  constructor
  · intro h leg r hr
    obtain ⟨l, hl, rfl⟩ := objects_leg_cases hr
    obtain ⟨⟨name, acct, hacct, hbridge⟩, hsip, hat⟩ := h leg l hl
    obtain ⟨sip, hsip⟩ := Option.isSome_iff_exists.mp hsip
    obtain ⟨hsip, hserial⟩ := sipAccount?_eq_some.mp hsip
    obtain ⟨acct', hat⟩ := Option.isSome_iff_exists.mp hat
    refine ⟨⟨name, acct.refs, objects_account hacct, hbridge⟩, ?_, _, objects_at hat⟩
    show (d.g_sipAccounts.lookup l.acc.name).map (·.serial) = some l.acc.serial
    rw [hsip, Option.map_some, hserial]
  · intro h leg l hl
    obtain ⟨⟨name, a, ha, hbridge⟩, hsip, a', hat⟩ := h leg l.refs (objects_leg hl)
    obtain ⟨acct, hacct, rfl⟩ := objects_account_cases ha
    obtain ⟨acct', hacct', rfl⟩ := objects_account_cases hat.1
    obtain ⟨sip, hsip, hserial⟩ := Option.map_eq_some_iff.mp hsip
    refine ⟨⟨name, acct, hacct, hbridge⟩, ?_, ?_⟩
    · exact Option.isSome_iff_exists.mpr ⟨sip, sipAccount?_eq_some.mpr ⟨hsip, hserial⟩⟩
    · exact Option.isSome_iff_exists.mpr ⟨acct', account?_eq_some.mpr ⟨hacct', hat.2⟩⟩

/-! ## The steps of the handlers, as operations on objects -/

theorem objects_modifyAccount_eq (d : Daemon) (name : String) (f : AccountState → AccountState)
    (g : AccountRefs → AccountRefs)
    (hf : ∀ acct, (f acct).refs = g acct.refs) :
    (d.modifyAccount name f).objects = d.objects.mapAccount name g := by
  apply Objects.ext
  · funext name'
    show ((d.g_accounts.modify name f).lookup name').map AccountState.refs =
      Function.update d.objects.account name ((d.objects.account name).map g) name'
    by_cases h : name' = name
    · subst h
      rw [Function.update_self, AList.lookup_modify_self]
      show _ = ((d.g_accounts.lookup name').map AccountState.refs).map g
      rw [Option.map_map, Option.map_map]
      exact congrArg (fun h => Option.map h _) (funext hf)
    · rw [Function.update_of_ne h, AList.lookup_modify_ne h]
      rfl
  all_goals rfl

/-- A change of an account that keeps what it refers to. -/
theorem objects_modifyAccount {f : AccountState → AccountState}
    (hf : ∀ acct, (f acct).refs = acct.refs) : (d.modifyAccount name f).objects = d.objects := by
  rw [objects_modifyAccount_eq d name f id hf]
  apply Objects.ext
  · funext name'
    show Function.update d.objects.account name ((d.objects.account name).map id) name' = _
    rw [Option.map_id_fun, id, Function.update_eq_self]
  all_goals rfl

theorem objects_modifyLeg {leg : Nat} {f : Leg → Leg} (hf : ∀ l, (f l).refs = l.refs) :
    (d.modifyLeg leg f).objects = d.objects := by
  apply Objects.ext
  case leg =>
    funext k
    show ((d.legs.modify leg f).lookup k).map Leg.refs = (d.legs.lookup k).map Leg.refs
    by_cases h : k = leg
    · subst h
      rw [AList.lookup_modify_self, Option.map_map]
      exact congrArg (fun h => Option.map h _) (funext hf)
    · rw [AList.lookup_modify_ne h]
  all_goals rfl

theorem objects_recordCall {remotePeerId : String} {callId : CallId} :
    (d.recordCall name remotePeerId callId).objects = d.objects :=
  objects_modifyAccount fun _ => rfl

theorem objects_hangupHeld : (d.hangupHeld kind name).objects = d.objects := by
  unfold Daemon.hangupHeld
  split
  · rfl
  · next leg _ =>
    have hleg : (d.modifyLeg leg fun l => { l with weHungUp := true }).objects = d.objects :=
      objects_modifyLeg fun _ => rfl
    exact hleg

theorem objects_deleteHeld_none (h : d.heldLeg kind name = none) :
    (d.deleteHeld kind name).objects = d.objects := by
  rw [Daemon.deleteHeld, h]

theorem objects_deleteHeld {leg : Nat} (h : d.heldLeg kind name = some leg) :
    (d.deleteHeld kind name).objects = d.objects.dropLeg kind name leg := by
  have hmap := objects_modifyAccount_eq d name (fun a => a.setLeg kind none)
    (fun a => { a with slot := Function.update a.slot kind none }) fun acct => by
      apply AccountRefs.ext
      · exact setLeg_serial acct kind none
      · exact setLeg_bridge acct kind none
      · funext kind'
        show (acct.setLeg kind none).leg kind' = Function.update acct.leg kind none kind'
        by_cases hk : kind' = kind
        · rw [hk, Function.update_self, setLeg_leg]
        · rw [Function.update_of_ne hk, setLeg_leg_ne hk]
  have hdelete : d.deleteHeld kind name =
      { d.modifyAccount name fun a => a.setLeg kind none with legs := d.legs.erase leg } := by
    rw [Daemon.deleteHeld, h]
  rw [hdelete]
  apply Objects.ext
  case account =>
    have haccount := congrArg Objects.account hmap
    exact haccount
  case leg =>
    funext k
    exact AList.map_lookup_erase d.legs Leg.refs leg k
  all_goals rfl

theorem objects_resetBridge : (d.resetBridge name).objects = d.objects.dropBridge name :=
  objects_modifyAccount_eq d name _ _ fun _ => rfl

theorem objects_openLeg {acc acct : ObjPtr} {call : Option CallId} :
    (d.openLeg kind acc acct call).objects = d.objects.openLeg kind acc acct := by
  have hlegs : (d.openLeg kind acc acct call).objects.leg =
      (d.objects.openLeg kind acc acct).leg := by
    funext k
    show ((d.legs.insert (d.nextSerial + 1) _).lookup k).map Leg.refs =
      Function.update d.objects.leg (d.nextSerial + 1) _ k
    by_cases hk : k = d.nextSerial + 1
    · rw [hk, Function.update_self, AList.lookup_insert]
      rfl
    · rw [Function.update_of_ne hk, AList.lookup_insert_ne hk]
      rfl
  have haccounts : (d.openLeg kind acc acct call).objects.account =
      (d.objects.openLeg kind acc acct).account := by
    funext name
    cases hp : d.account? acct with
    | none =>
      have hsame : (d.openLeg kind acc acct call).objects.account name = d.objects.account name := by
        show ((d.openLeg kind acc acct call).g_accounts.lookup name).map AccountState.refs = _
        rw [openLeg_dead hp]
        rfl
      rw [hsame]
      show _ = Function.update d.objects.account acct.name _ name
      by_cases hname : name = acct.name
      · subst hname
        rw [Function.update_self]
        cases ha : d.objects.account acct.name with
        | none => rfl
        | some a =>
          have hne : a.serial ≠ acct.serial := fun heq => objects_not_at hp a ⟨ha, heq⟩
          rw [Option.map_some, if_neg hne]
      · rw [Function.update_of_ne hname]
    | some a =>
      have hrep := Objects.openLeg_replaces kind acc (objects_at hp)
      by_cases hname : name = acct.name
      · subst hname
        rw [hrep.self]
        show ((d.openLeg kind acc acct call).g_accounts.lookup acct.name).map AccountState.refs = _
        rw [openLeg_lookup hp, Option.map_some]
        refine congrArg some (AccountRefs.ext ?_ rfl ?_)
        · exact setLeg_serial a kind _
        · funext kind'
          have hslot : ({ a.setLeg kind (some (d.nextSerial + 1)) with
              bridge := some d.nextSerial } : AccountState).leg kind' =
              (a.setLeg kind (some (d.nextSerial + 1))).leg kind' := by cases kind' <;> rfl
          refine hslot.trans ?_
          show _ = Function.update a.leg kind (some (d.nextSerial + 1)) kind'
          by_cases hk : kind' = kind
          · rw [hk, Function.update_self, setLeg_leg]
          · rw [Function.update_of_ne hk, setLeg_leg_ne hk]
      · rw [hrep.other _ hname]
        show ((d.openLeg kind acc acct call).g_accounts.lookup name).map AccountState.refs = _
        rw [openLeg_lookup_ne hname]
        rfl
  refine Objects.ext haccounts ?_ ?_ ?_ ?_
  · show ((fun name => ((d.openLeg kind acc acct call).g_sipAccounts.lookup name).map _) = _)
    rw [openLeg_g_sipAccounts]
    rfl
  · exact hlegs
  · show ((fun k p => (k, p) ∈ (d.openLeg kind acc acct call).pendingInvites) = _)
    rw [openLeg_pendingInvites]
    rfl
  · rfl

end Objects

/-! ## Handlers that keep the discipline -/

section Keep

variable {d : Daemon} {name : String} {acct : AccountState} {fs : Script Daemon}

/-- The objects of the daemon are owned as they should be. -/
def Daemon.Owned (d : Daemon) : Prop := d.objects.Owned

theorem Daemon.Owned.legsAlive (h : d.Owned) : LegsAlive d := legsAlive_iff.mpr h.alive

theorem Daemon.Owned.of_objects {d' : Daemon} (h : d.Owned) (heq : d'.objects = d.objects) :
    d'.Owned := by
  unfold Daemon.Owned
  rw [heq]
  exact h

/-- Stopping the only leg of an account that nobody waits for. -/
theorem owned_stop (kind : LegKind) (h : d.Owned) (ha : d.g_accounts.lookup name = some acct)
    (hother : ∀ kind', kind' ≠ kind → acct.leg kind' = none)
    (hwait : ∀ leg, acct.leg kind = some leg → kind = .incomingSipCall →
      ∀ p, d.objects.At p acct.refs → ∀ k, ¬ d.objects.waiting k p) :
    (d.hangupHeld kind name).Owned ∧ ((d.hangupHeld kind name).deleteHeld kind name).Owned ∧
      (d.stopped kind name).Owned := by
  have hhangup : (d.hangupHeld kind name).Owned := h.of_objects objects_hangupHeld
  have hdelete : ((d.hangupHeld kind name).deleteHeld kind name).Owned := by
    cases hleg : acct.leg kind with
    | none =>
      refine hhangup.of_objects (objects_deleteHeld_none ?_)
      rw [hangupHeld_heldLeg, heldLeg_eq _ ha, hleg]
    | some leg =>
      have hheld : (d.hangupHeld kind name).heldLeg kind name = some leg := by
        rw [hangupHeld_heldLeg, heldLeg_eq _ ha, hleg]
      have hdrop := Objects.Owned.dropLeg h (objects_account ha) hleg (hwait leg hleg)
      unfold Daemon.Owned
      rw [objects_deleteHeld hheld, objects_hangupHeld]
      exact hdrop
  refine ⟨hhangup, hdelete, ?_⟩
  have hlookup : ((d.hangupHeld kind name).deleteHeld kind name).g_accounts.lookup name =
      some (acct.setLeg kind none) := by
    rw [deleteHeld_lookup, hangupHeld_g_accounts, ha, Option.map_some]
  have hdrop := Objects.Owned.dropBridge hdelete (objects_account hlookup) fun kind' => by
    show (acct.setLeg kind none).leg kind' = none
    by_cases hk : kind' = kind
    · rw [hk, setLeg_leg]
    · rw [setLeg_leg_ne hk, hother kind' hk]
  rw [← objects_resetBridge] at hdrop
  exact hdrop

/-- An account without an incoming leg loses the one it has, and its bridge, in the right order. -/
theorem owned_stopBoth (h : d.Owned) (ha : d.g_accounts.lookup name = some acct)
    (hincoming : acct.incomingSipCall = none) :
    (d.legless name).Owned ∧ ∀ fs, Through Daemon.Owned fs (d.legless name) →
      Through Daemon.Owned (stopSipBridge name ++ stopIncomingSipCall name ++ fs) d := by
  obtain ⟨hhangup, hdelete, hstopped⟩ := owned_stop .bridgeCall h ha
    (fun kind' hk => by
      cases kind' with
      | bridgeCall => exact absurd rfl hk
      | incomingSipCall => exact hincoming)
    (fun _ _ hkind => by cases hkind)
  have hlookup : (d.stopped .bridgeCall name).g_accounts.lookup name =
      some { acct.setLeg .bridgeCall none with bridge := none } := by
    rw [stopped_lookup, ha, Option.map_some]
  obtain ⟨hhangup', hdelete', hstopped'⟩ := owned_stop .incomingSipCall hstopped hlookup
    (fun kind' hk => by
      cases kind' with
      | bridgeCall => rfl
      | incomingSipCall => exact absurd rfl hk)
    (fun leg hleg => by
      have hnone : acct.incomingSipCall = some leg := hleg
      rw [hincoming] at hnone
      cases hnone)
  refine ⟨hstopped', fun fs hfs => ?_⟩
  rw [List.append_assoc, stopSipBridge, stopIncomingSipCall, through_stopLeg_append,
    through_stopLeg_append]
  exact ⟨h, hhangup, hdelete, hstopped, hhangup', hdelete', hfs⟩

/-- With an incoming leg, `stopSipBridge` destroys the bridge that the leg refers to. -/
theorem not_through_stopBoth {leg : Nat} (h : d.Owned) (ha : d.g_accounts.lookup name = some acct)
    (hincoming : acct.incomingSipCall = some leg) :
    ¬ Through LegsAlive (stopSipBridge name ++ stopIncomingSipCall name ++ fs) d := by
  intro hthrough
  rw [List.append_assoc, stopSipBridge, through_stopLeg_append] at hthrough
  have halive := legsAlive_iff.mp hthrough.2.2.2.start
  have hsipCall : acct.sipCall = none := by
    rcases h.one name acct.refs (objects_account ha) with hnone | hnone
    · exact hnone
    · exact absurd (hincoming.symm.trans hnone) (by simp)
  have hobjects : (d.stopped .bridgeCall name).objects = d.objects.dropBridge name := by
    have hheld : (d.hangupHeld .bridgeCall name).heldLeg .bridgeCall name = none := by
      rw [hangupHeld_heldLeg, heldLeg_eq _ ha]
      exact hsipCall
    rw [Daemon.stopped, objects_resetBridge, objects_deleteHeld_none hheld, objects_hangupHeld]
  rw [hobjects] at halive
  exact Objects.not_alive_dropBridge .incomingSipCall h (objects_account ha) hincoming halive

/-- A leg opened for an account that has none, on a `BridgeAccount` that exists. -/
theorem owned_openLeg (kind : LegKind) (call : Option CallId) {p : ObjPtr} {sipName : String}
    {sip : BridgeAccount} (h : d.Owned) (hp : d.account? p = some acct)
    (hnone : ∀ kind, acct.leg kind = none) (hsip : d.g_sipAccounts.lookup sipName = some sip) :
    (d.openLeg kind ⟨sipName, sip.serial⟩ p call).Owned := by
  unfold Daemon.Owned
  rw [objects_openLeg]
  refine Objects.Owned.openLeg h (objects_at hp) hnone ?_
  show (d.g_sipAccounts.lookup sipName).map (·.serial) = some sip.serial
  rw [hsip, Option.map_some]

end Keep

/-! ## One handler -/

/-- The moments at which a handler keeps every leg alive: the end of a call finds no incoming leg, a
ringing call is dialled for an account without legs, an INVITE that is taken is for an account that
exists, and a teardown finds no incoming leg and no other account's leg on its `BridgeAccount`. -/
def LegsSafe (d : Daemon) (e : DaemonEvent) : Prop :=
  match e with
  | .callState account _ _ state _ =>
    ∀ acct, d.g_accounts.lookup account = some acct →
      (state = .ended ∨ state = .concluded → acct.incomingSipCall = none) ∧
      (state = .ringing → Dials d acct → ∀ kind, acct.leg kind = none)
  | .invite sip localPort requestUser =>
    ∀ p, InviteFor d sip localPort p → normalizeDestUser requestUser ≠ "" →
      (d.account? p).isSome
  | .teardown name _ =>
    ∀ acct, d.g_accounts.lookup name = some acct →
      acct.incomingSipCall = none ∧
      ∀ leg l, d.legs.lookup leg = some l → l.acc.name = name → l.acct.name = name
  | _ => True

section Safe

variable {d : Daemon}

theorem through_owned_onCallState {name remotePeerId : String} {callId : CallId}
    {state : CallState} {contact : Except RuntimeError (Option SyncedContactRecord)}
    {acct : AccountState} (h : d.Owned) (hacct : d.g_accounts.lookup name = some acct)
    (hended : state = .ended ∨ state = .concluded → acct.incomingSipCall = none)
    (hringing : state = .ringing → Dials d acct → ∀ kind, acct.leg kind = none) :
    Through Daemon.Owned (onCallState name acct remotePeerId callId state contact d) d.quiet := by
  have hquiet : d.quiet.Owned := h
  have hrecord : (d.quiet.recordCall name remotePeerId callId).Owned :=
    hquiet.of_objects objects_recordCall
  have hlookup := recordCall_lookup (d := d.quiet) remotePeerId callId hacct
  have hstop : acct.incomingSipCall = none → Through Daemon.Owned
      (stopSipBridge name ++ stopIncomingSipCall name ++
        [act (Daemon.modifyAccount · name fun a => { a with isCallee := false })])
      (d.quiet.recordCall name remotePeerId callId) := by
    intro hincoming
    obtain ⟨hlegless, hthrough⟩ := owned_stopBoth hrecord hlookup hincoming
    refine hthrough _ (Script.through_act_cons.mpr ⟨hlegless, ?_⟩)
    exact hlegless.of_objects (objects_modifyAccount fun _ => rfl)
  cases state with
  | incomingAudio =>
    simp only [onCallState]
    split
    · refine Script.through_act_cons.mpr ⟨hquiet, Script.through_act_cons.mpr ⟨hrecord, ?_⟩⟩
      have hcallee : ((d.quiet.recordCall name remotePeerId callId).modifyAccount name
          fun a => { a with isCallee := true }).Owned :=
        hrecord.of_objects (objects_modifyAccount fun _ => rfl)
      exact Script.through_act_cons.mpr ⟨hcallee, hcallee⟩
    · exact Script.through_act_cons.mpr ⟨hquiet, hrecord⟩
  | outgoingAudio =>
    exact Script.through_act_cons.mpr ⟨hquiet, Script.through_act_cons.mpr ⟨hrecord, hrecord⟩⟩
  | ringing =>
    by_cases hdials : Dials d acct
    · obtain ⟨sip, hsip, hreg⟩ := hdials.sipAccount
      have hopen := owned_openLeg .bridgeCall (some callId) hrecord
        (recordCall_account? (d := d.quiet) remotePeerId callId hacct)
        (fun kind => by
          have hnone := hringing rfl hdials kind
          cases kind <;> exact hnone)
        hsip
      rw [onCallState_dials hdials hsip hreg]
      refine Script.through_act_cons.mpr ⟨hquiet, Script.through_act_cons.mpr ⟨hrecord, hopen, ?_⟩⟩
      intro d' hplace
      obtain ⟨destUri, headers, rfl⟩ := placeBridgeCall_eq_some hplace
      exact hopen
    · rw [onCallState_not_dials hdials]
      exact Script.through_act_cons.mpr ⟨hquiet, hrecord⟩
  | connected =>
    simp only [onCallState]
    split
    · exact Script.through_act_cons.mpr ⟨hquiet, hrecord⟩
    · split
      · exact Script.through_act_cons.mpr ⟨hquiet, Script.through_act_cons.mpr ⟨hrecord, hrecord⟩⟩
      · split
        · exact Script.through_act_cons.mpr ⟨hquiet, hrecord⟩
        · exact Script.through_act_cons.mpr
            ⟨hquiet, Script.through_act_cons.mpr ⟨hrecord, hrecord⟩⟩
  | connecting => exact Script.through_act_cons.mpr ⟨hquiet, hrecord⟩
  | ended => exact Script.through_act_cons.mpr ⟨hquiet, hstop (hended (.inl rfl))⟩
  | rejected => exact Script.through_act_cons.mpr ⟨hquiet, hrecord⟩
  | concluded => exact Script.through_act_cons.mpr ⟨hquiet, hstop (hended (.inr rfl))⟩

/-- A leg's own handler changes its flags. -/
theorem through_owned_onLegState {leg : Nat} {state : InvState} (h : d.Owned) :
    Through Daemon.Owned (onLegState leg state d) d.quiet := by
  have hquiet : d.quiet.Owned := h
  have hflags : ∀ (out : List Action) (f : Leg → Leg), (∀ l, (f l).refs = l.refs) →
      ({ d.quiet.modifyLeg leg f with out := out } : Daemon).Owned :=
    fun out f hf => hquiet.of_objects (objects_modifyLeg (d := { d.quiet with out := out }) hf)
  unfold onLegState
  split
  · exact hquiet
  · split
    · exact hquiet
    · split
      · unfold BridgeCall.onCallState
        split
        · split
          · exact hquiet
          · exact Script.through_act_cons.mpr ⟨hquiet, hflags _ _ fun _ => rfl⟩
        · refine Script.through_act_cons.mpr ⟨hquiet, ?_⟩
          split <;> exact hflags _ (fun l => { l with disconnected := true }) fun _ => rfl
        · exact hquiet
      · unfold IncomingSipCall.onCallState
        split
        · refine Script.through_act_cons.mpr ⟨hquiet, ?_⟩
          split <;>
            exact hflags _ (fun l => { l with weHungUp := true, disconnected := true }) fun _ => rfl
        · exact hquiet

theorem through_owned_onIncomingCall {sip : String} {localPort : Option Int}
    {requestUser : String} (h : d.Owned)
    (halive : ∀ p, InviteFor d sip localPort p → normalizeDestUser requestUser ≠ "" →
      (d.account? p).isSome) :
    Through Daemon.Owned (onIncomingCall sip localPort requestUser d) d.quiet := by
  have hquiet : d.quiet.Owned := h
  obtain ⟨p, hfor, hbusy, huser⟩ | hnil | ⟨statusCode, hreject⟩ :=
    onIncomingCall_cases d sip localPort requestUser
  · obtain ⟨acct, hp⟩ := Option.isSome_iff_exists.mp (halive p hfor huser)
    obtain ⟨sipAccount, hsip, hscript⟩ := onIncomingCall_opens hfor hbusy huser
    have hopen := owned_openLeg .incomingSipCall none hquiet hp ((busy_eq_false hp).mp hbusy)
      hsip
    have hat : (d.quiet.openLeg .incomingSipCall ⟨sip, sipAccount.serial⟩ p none).objects.At p
        { acct.refs with
          bridge := some d.nextSerial
          slot := Function.update acct.leg .incomingSipCall (some (d.nextSerial + 1)) } := by
      rw [objects_openLeg]
      exact ⟨(Objects.openLeg_replaces .incomingSipCall _ (objects_at (d := d.quiet) hp)).self,
        (objects_at hp).2⟩
    rw [hscript]
    refine Script.through_act_cons.mpr ⟨hquiet, Script.through_act_cons.mpr ⟨hopen, ?_⟩⟩
    refine Script.through_act_cons.mpr ⟨hopen, ?_⟩
    have hslot : Function.update acct.leg .incomingSipCall (some (d.nextSerial + 1))
        .incomingSipCall = some (d.nextSerial + 1) := Function.update_self _ _ _
    have hwait := Objects.Owned.wait hopen hat hslot
    refine Eq.mp (congrArg Objects.Owned ?_) hwait
    apply Objects.ext
    case waiting =>
      funext k p'
      exact propext (by simp [Objects.wait, Daemon.objects, Prod.ext_iff, Daemon.emit])
    all_goals rfl
  · rw [hnil]
    exact hquiet
  · rw [hreject]
    exact Script.through_act_cons.mpr ⟨hquiet, hquiet⟩

theorem through_owned_onInviteResolved {leg : Nat} {resolvedTarget : Except RuntimeError String}
    {callId : CallId} (h : d.Owned) :
    Through Daemon.Owned (onInviteResolved leg resolvedTarget callId d) d.quiet := by
  have hquiet : d.quiet.Owned := h
  unfold onInviteResolved
  split
  · exact hquiet
  · next p hpending =>
    have hresume : ({ d.quiet with
        pendingInvites := d.quiet.pendingInvites.filter fun i => i.1 ≠ leg } : Daemon).objects =
        d.objects.resume leg := by
      apply Objects.ext
      case waiting =>
        funext k p'
        exact propext (by simp [Objects.resume, Daemon.objects, Daemon.quiet, and_comm])
      all_goals rfl
    have howned : ({ d.quiet with
        pendingInvites := d.quiet.pendingInvites.filter fun i => i.1 ≠ leg } : Daemon).Owned := by
      unfold Daemon.Owned
      rw [hresume]
      exact Objects.Owned.resume h leg
    refine Script.through_act_cons.mpr ⟨hquiet, ?_⟩
    split
    · next hsome =>
      obtain ⟨acct, hp⟩ := Option.isSome_iff_exists.mp hsome
      obtain ⟨hacct, -⟩ := account?_eq_some.mp hp
      have hwaiting : d.objects.waiting leg p := by
        obtain ⟨l₁, l₂, hl, -⟩ := List.lookup_eq_some_iff.mp hpending
        show (leg, p) ∈ d.pendingInvites
        rw [hl]
        exact List.mem_append_right _ List.mem_cons_self
      have hslot : acct.incomingSipCall = some leg := h.waiting leg p acct.refs hwaiting (objects_at hp)
      have hsipCall : acct.sipCall = none := by
        rcases h.one p.name acct.refs (objects_account hacct) with hnone | hnone
        · exact hnone
        · cases hslot.symm.trans hnone
      -- whoever waits for this account has its leg, and this handler no longer waits for it
      have hstop : ∀ (d₁ : Daemon) (acct₁ : AccountState), d₁.Owned →
          d₁.g_accounts.lookup p.name = some acct₁ → acct₁.refs = acct.refs →
          d₁.objects.waiting = (d.objects.resume leg).waiting →
          Through Daemon.Owned (stopIncomingSipCall p.name) d₁ := by
        intro d₁ acct₁ howned₁ hacct₁ hrefs hwaiting₁
        have hlegs : ∀ kind, acct₁.leg kind = acct.leg kind :=
          fun kind => congrFun (congrArg AccountRefs.slot hrefs) kind
        obtain ⟨hhangup, hdelete, hstopped⟩ := owned_stop .incomingSipCall howned₁ hacct₁
          (fun kind' hk => by
            cases kind' with
            | bridgeCall => exact (hlegs _).trans hsipCall
            | incomingSipCall => exact absurd rfl hk)
          (fun leg' hleg' _ p' hp' k hk => by
            have hown := howned₁.waiting k p' acct₁.refs hk hp'
            rw [hwaiting₁] at hk
            have heq : acct.incomingSipCall = some k := (hlegs .incomingSipCall).symm.trans hown
            exact hk.1 (Option.some.inj (heq.symm.trans hslot)))
        exact Script.through_act_cons.mpr ⟨howned₁, Script.through_act_cons.mpr
          ⟨hhangup, Script.through_act_cons.mpr ⟨hdelete, hstopped⟩⟩⟩
      have hfail := hstop _ acct howned hacct rfl (congrArg Objects.waiting hresume)
      unfold startOutgoingCall
      split
      · exact hfail
      · next target =>
        split
        · exact hfail
        · have hcallee : (Daemon.modifyAccount { d.quiet with
              pendingInvites := d.quiet.pendingInvites.filter fun i => i.1 ≠ leg } p.name
              fun a => { a with isCallee := false }).objects = d.objects.resume leg :=
            (objects_modifyAccount (f := fun a => { a with isCallee := false }) fun _ => rfl).trans
              hresume
          have hcalleeOwned : (Daemon.modifyAccount { d.quiet with
              pendingInvites := d.quiet.pendingInvites.filter fun i => i.1 ≠ leg } p.name
              fun a => { a with isCallee := false }).Owned := by
            unfold Daemon.Owned
            rw [hcallee]
            exact Objects.Owned.resume h leg
          refine Script.through_act_cons.mpr ⟨howned, Script.through_act_cons.mpr ⟨hcalleeOwned, ?_⟩⟩
          split
          · refine hstop _ { acct with isCallee := false } hcalleeOwned ?_ rfl
              (congrArg Objects.waiting hcallee)
            show ((d.quiet.g_accounts.modify p.name _).lookup p.name) = _
            have hq : d.quiet.g_accounts.lookup p.name = some acct := hacct
            rw [AList.lookup_modify_self, hq, Option.map_some]
          · refine Script.through_act_cons.mpr ⟨hcalleeOwned, ?_⟩
            exact hcalleeOwned.of_objects (objects_modifyLeg fun _ => rfl)
    · exact howned

/-- A setup adds objects that nothing refers to yet. -/
theorem owned_setup (db : Db) (config : AccountConfig) (o : SetupOutcomes) (h : d.Owned) :
    (d.setup db config o).Owned := by
  obtain ⟨hlegs, hpending, hserial, haccounts, hsips, -⟩ := setup_effect db config o d
  generalize d.setup db config o = d' at *
  have hleg : d'.objects.leg = d.objects.leg := by
    funext k
    show (d'.legs.lookup k).map Leg.refs = _
    rw [hlegs]
    rfl
  have hwaiting : d'.objects.waiting = d.objects.waiting := by
    funext k p
    show ((k, p) ∈ d'.pendingInvites) = _
    rw [hpending]
    rfl
  -- the accounts first, as if no `BridgeAccount` had been added
  have hgrown : ∃ o' : Objects, o'.Owned ∧ o'.account = d'.objects.account ∧ o'.sip = d.objects.sip ∧
      o'.leg = d.objects.leg ∧ o'.waiting = d.objects.waiting ∧ o'.next = d'.objects.next := by
    rcases haccounts with hsame | ⟨acct, hnew, hinsert, hnone, hbridge, hacct, hlt⟩
    · refine ⟨d.objects.grow d'.nextSerial, Objects.Owned.grow h hserial, ?_, rfl, rfl, rfl, rfl⟩
      funext name
      show (d.g_accounts.lookup name).map AccountState.refs =
        (d'.g_accounts.lookup name).map AccountState.refs
      rw [hsame]
    · have hbefore : d.objects.account config.name = none := by
        show (d.g_accounts.lookup config.name).map _ = none
        rw [AList.lookup_eq_none.mpr hnew, Option.map_none]
      refine ⟨d.objects.addAccount config.name d'.nextSerial,
        Objects.Owned.addAccount h hbefore hlt, ?_, rfl, rfl, rfl, rfl⟩
      funext name
      show Function.update d.objects.account config.name _ name =
        (d'.g_accounts.lookup name).map AccountState.refs
      rw [hinsert]
      by_cases hname : name = config.name
      · rw [hname, Function.update_self, AList.lookup_insert, Option.map_some]
        exact congrArg some (AccountRefs.ext hacct.symm hbridge.symm (funext fun k => (hnone k).symm))
      · rw [Function.update_of_ne hname, AList.lookup_insert_ne hname]
        rfl
  obtain ⟨o', howned, hoa, hos, hol, how, hon⟩ := hgrown
  rcases hsips with hsame | ⟨sip, hnew, hmem, hinsert⟩
  · have heq : d'.objects = o' := by
      refine Objects.ext hoa.symm ?_ ?_ ?_ ?_
      · funext name
        show (d'.g_sipAccounts.lookup name).map _ = o'.sip name
        rw [hsame, hos]
        rfl
      · rw [hleg, hol]
      · rw [hwaiting, how]
      · exact hon.symm
    unfold Daemon.Owned
    rw [heq]
    exact howned
  · have hsipNone : o'.sip config.name = none := by
      rw [hos]
      cases hsip : d.objects.sip config.name with
      | none => rfl
      | some serial =>
        obtain ⟨a, ha⟩ := h.sip config.name serial hsip
        obtain ⟨acct, hacct, -⟩ := objects_account_cases ha
        cases (AList.lookup_eq_none.mpr hnew).symm.trans hacct
    obtain ⟨acct, hacct⟩ := Option.isSome_iff_exists.mp (AList.lookup_isSome.mpr hmem)
    have haccount : o'.account config.name = some acct.refs := by
      rw [hoa]
      exact objects_account hacct
    have heq : d'.objects = o'.addSip config.name sip.serial := by
      refine Objects.ext hoa.symm ?_ ?_ ?_ ?_
      · funext name
        show (d'.g_sipAccounts.lookup name).map _ = Function.update o'.sip config.name _ name
        rw [hinsert, hos]
        by_cases hname : name = config.name
        · rw [hname, Function.update_self, AList.lookup_insert, Option.map_some]
        · rw [Function.update_of_ne hname, AList.lookup_insert_ne hname]
          rfl
      · exact hleg.trans hol.symm
      · exact hwaiting.trans how.symm
      · exact hon.symm
    unfold Daemon.Owned
    rw [heq]
    exact Objects.Owned.addSip howned hsipNone haccount sip.serial

theorem closeSip_objects (name : String) (closes : Bool) :
    (d.closeSip name closes).objects = d.objects := by
  obtain ⟨ts, more, hclosed, -⟩ := closeSip_eq (d := d) name closes
  rw [hclosed]
  rfl

theorem dropSip_objects (name : String) :
    ({ d with g_sipAccounts := d.g_sipAccounts.erase name } : Daemon).objects =
      d.objects.dropSip name := by
  refine Objects.ext rfl ?_ ?_ ?_ ?_
  · funext name'
    exact AList.map_lookup_erase d.g_sipAccounts _ name name'
  all_goals rfl

theorem dropAccount_objects (name : String) :
    ({ d with g_accounts := d.g_accounts.erase name } : Daemon).objects =
      d.objects.dropAccount name := by
  apply Objects.ext
  · funext name'
    exact AList.map_lookup_erase d.g_accounts _ name name'
  all_goals rfl

/-- The legs that are left when an account has lost its own are other accounts'. -/
theorem legless_strangers {name : String} {acct : AccountState} (h : (d.legless name).Owned)
    (ha : d.g_accounts.lookup name = some acct) {leg : Nat} {l : Leg}
    (hl : (d.legless name).legs.lookup leg = some l) : l.acct.name ≠ name := by
  intro hname
  obtain ⟨a, hat, hslot, -⟩ := h.owner leg l.refs (objects_leg hl)
  obtain ⟨acct', hacct', rfl⟩ := objects_account_cases hat.1
  have hname' : l.refs.acct.name = name := hname
  rw [hname', legless_lookup, ha] at hacct'
  obtain rfl := Option.some.inj hacct'
  revert hslot
  show AccountState.leg _ l.kind = some leg → False
  cases l.kind <;> exact fun hslot => by cases hslot

theorem through_owned_teardownAccount {name : String} {closes : Bool} (h : d.Owned)
    (hsafe : LegsSafe d (.teardown name closes)) :
    Through Daemon.Owned (teardownAccount name closes d) d.quiet := by
  have hquiet : d.quiet.Owned := h
  unfold teardownAccount
  split
  · next hmem =>
    obtain ⟨acct, hacct⟩ := Option.isSome_iff_exists.mp (AList.lookup_isSome.mpr hmem)
    obtain ⟨hincoming, hstrangers⟩ := hsafe acct hacct
    obtain ⟨hlegless, hthrough⟩ := owned_stopBoth (d := d.quiet) hquiet hacct hincoming
    have hclosed : ((d.quiet.legless name).closeSip name closes).Owned :=
      hlegless.of_objects (closeSip_objects name closes)
    have hlegs : ∀ k r, (d.quiet.legless name).objects.leg k = some r →
        r.acc.name ≠ name ∧ r.acct.name ≠ name := by
      intro k r hr
      obtain ⟨l, hl, rfl⟩ := objects_leg_cases hr
      have hne := legless_strangers hlegless hacct hl
      exact ⟨fun hacc => hne (hstrangers k l (legless_legs.mp hl).1 hacc), hne⟩
    have hdropSip := Objects.Owned.dropSip hlegless fun k r hr => (hlegs k r hr).1
    have hdropAccount := Objects.Owned.dropAccount hdropSip
      (fun k r hr => (hlegs k r hr).2) (Function.update_self name _ _)
    refine hthrough _ (Script.through_act_cons.mpr ⟨hlegless, ?_⟩)
    refine Script.through_act_cons.mpr ⟨hclosed, ?_⟩
    have hafterSip := dropSip_objects (d := (d.quiet.legless name).closeSip name closes) name
    rw [closeSip_objects] at hafterSip
    have hafter := dropAccount_objects (d := { (d.quiet.legless name).closeSip name closes with
      g_sipAccounts := ((d.quiet.legless name).closeSip name closes).g_sipAccounts.erase name }) name
    rw [hafterSip] at hafter
    rw [← hafterSip] at hdropSip
    rw [← hafter] at hdropAccount
    exact Script.through_act_cons.mpr ⟨hdropSip, hdropAccount⟩
  · exact hquiet

/-- A handler at a safe moment keeps the discipline at every point. -/
theorem through_owned_of_legsSafe {e : DaemonEvent} (h : d.Owned) (hq : LegsSafe d e) :
    Through Daemon.Owned (e.script d) d.quiet := by
  have hquiet : d.quiet.Owned := h
  cases e with
  | callState account remotePeerId callId state contact =>
    cases hacct : d.g_accounts.lookup account with
    | none =>
      simp only [DaemonEvent.script, hacct]
      exact hquiet
    | some acct =>
      obtain ⟨hended, hringing⟩ := hq acct hacct
      simp only [DaemonEvent.script, hacct]
      exact through_owned_onCallState h hacct hended hringing
  | legState leg state => exact through_owned_onLegState h
  | invite sip localPort requestUser => exact through_owned_onIncomingCall h hq
  | inviteResolved leg resolvedTarget callId => exact through_owned_onInviteResolved h
  | regState sip regIsActive nowMs =>
    refine Script.through_act_cons.mpr ⟨hquiet, hquiet.of_objects ?_⟩
    refine Objects.ext rfl ?_ ?_ ?_ ?_
    · funext name
      show ((d.g_sipAccounts.modify sip _).lookup name).map _ = (d.g_sipAccounts.lookup name).map _
      by_cases hname : name = sip
      · rw [hname, AList.lookup_modify_self, Option.map_map]
        rfl
      · rw [AList.lookup_modify_ne hname]
    all_goals rfl
  | setup db config o => exact Script.through_act_cons.mpr ⟨hquiet, owned_setup db config o hquiet⟩
  | teardown name closes => exact through_owned_teardownAccount h hq

/-- A handler that keeps every leg alive is at a safe moment. -/
theorem legsSafe_of_through {e : DaemonEvent} (h : d.Owned)
    (hp : Through LegsAlive (e.script d) d.quiet) : LegsSafe d e := by
  have hquiet : d.quiet.Owned := h
  cases e with
  | callState account remotePeerId callId state contact =>
    intro acct hacct
    simp only [DaemonEvent.script, hacct] at hp
    have hrecord : (d.quiet.recordCall account remotePeerId callId).Owned :=
      hquiet.of_objects objects_recordCall
    constructor
    · intro hstate
      cases hincoming : acct.incomingSipCall with
      | none => rfl
      | some leg =>
        have hnot : ¬ Through LegsAlive (stopSipBridge account ++ stopIncomingSipCall account ++
            [act (Daemon.modifyAccount · account fun a => { a with isCallee := false })])
            (d.quiet.recordCall account remotePeerId callId) :=
          not_through_stopBoth hrecord
            (recordCall_lookup (d := d.quiet) remotePeerId callId hacct) hincoming
        rcases hstate with rfl | rfl
        · exact absurd (Script.through_act_cons.mp hp).2 hnot
        · exact absurd (Script.through_act_cons.mp hp).2 hnot
    · rintro rfl hdials kind
      obtain ⟨sip, hsip, hreg⟩ := hdials.sipAccount
      cases hslot : acct.leg kind with
      | none => rfl
      | some leg =>
        rw [onCallState_dials hdials hsip hreg] at hp
        have halive := legsAlive_iff.mp (Script.through_act_cons.mp
          (Script.through_act_cons.mp hp).2).2.start
        rw [objects_openLeg] at halive
        have hslot' : (AccountState.refs { acct with
            activeCallId := callId, remotePeerId := remotePeerId }).slot kind = some leg := by
          cases kind <;> exact hslot
        exact absurd halive (Objects.not_alive_openLeg kind hrecord
          (objects_at (recordCall_account? (d := d.quiet) remotePeerId callId hacct)) hslot')
  | invite sip localPort requestUser =>
    intro p hfor huser
    cases hp' : d.account? p with
    | some acct => rfl
    | none =>
      have hbusy : d.busy p = false := by
        rw [Daemon.busy, hp']
      obtain ⟨sipAccount, -, hscript⟩ := onIncomingCall_opens hfor hbusy huser
      simp only [DaemonEvent.script, hscript] at hp
      have halive := legsAlive_iff.mp (Script.through_act_cons.mp hp).2.start
      rw [objects_openLeg] at halive
      exact absurd halive (Objects.not_alive_openLeg_dead (objects_not_at (d := d.quiet) hp'))
  | teardown name closes =>
    intro acct hacct
    have hmem : name ∈ d.g_accounts := AList.lookup_isSome.mp (by rw [hacct]; rfl)
    simp only [DaemonEvent.script, teardownAccount, if_pos hmem] at hp
    have hincoming : acct.incomingSipCall = none := by
      cases hincoming : acct.incomingSipCall with
      | none => rfl
      | some leg => exact absurd hp (not_through_stopBoth (d := d.quiet) hquiet hacct hincoming)
    refine ⟨hincoming, fun leg l hl hacc => ?_⟩
    by_contra hname
    -- the leg outlives what is closed here, and its `BridgeAccount` does not
    have hother : ¬ d.quiet.holds name leg := by
      rintro ⟨kind, hheld⟩
      rw [heldLeg_eq (d := d.quiet) _ hacct] at hheld
      obtain ⟨r, hr, -, hacct'⟩ := hquiet.slot name acct.refs kind leg (objects_account hacct) hheld
      obtain ⟨l', hl', rfl⟩ := objects_leg_cases hr
      obtain rfl := Option.some.inj (hl.symm.trans hl')
      exact hname (congrArg ObjPtr.name hacct')
    have hkept : (d.quiet.legless name).legs.lookup leg = some l := legless_legs.mpr ⟨hl, hother⟩
    rw [List.append_assoc, stopSipBridge, stopIncomingSipCall, through_stopLeg_append,
      through_stopLeg_append] at hp
    have hrest := hp.2.2.2.2.2.2
    have halive := legsAlive_iff.mp (Script.through_act_cons.mp
      (Script.through_act_cons.mp hrest).2).2.start
    rw [dropSip_objects, closeSip_objects] at halive
    exact Objects.not_alive_dropSip (objects_leg hkept) hacc halive
  | legState leg state => trivial
  | inviteResolved leg resolvedTarget callId => trivial
  | regState sip regIsActive nowMs => trivial
  | setup db config o => trivial

/-- Every leg is alive at every point of a handler exactly when the moment is safe. -/
theorem through_legsAlive_iff {e : DaemonEvent} (h : d.Owned) :
    Through LegsAlive (e.script d) d.quiet ↔ LegsSafe d e :=
  ⟨legsSafe_of_through h, fun hq => (through_owned_of_legsSafe h hq).imp fun _ => Daemon.Owned.legsAlive⟩

end Safe

/-! ## Runs -/

theorem Daemon.Started.owned {d : Daemon} (h : d.Started) : d.Owned := by
  have haccount : ∀ name, d.objects.account name = none := by
    intro name
    show (d.g_accounts.lookup name).map _ = none
    rw [h.g_accounts]
    rfl
  have hsip : ∀ name, d.objects.sip name = none := by
    intro name
    show (d.g_sipAccounts.lookup name).map _ = none
    rw [h.g_sipAccounts]
    rfl
  have hleg : ∀ k, d.objects.leg k = none := by
    intro k
    show (d.legs.lookup k).map _ = none
    rw [h.legs]
    rfl
  have hwaiting : ∀ k p, ¬ d.objects.waiting k p := by
    intro k p hw
    have hmem : (k, p) ∈ d.pendingInvites := hw
    rw [h.pendingInvites] at hmem
    cases hmem
  constructor
  case owner => exact fun k r hr => by cases (hleg k).symm.trans hr
  case acc => exact fun k r hr => by cases (hleg k).symm.trans hr
  case slot => exact fun name a _ _ ha => by cases (haccount name).symm.trans ha
  case one => exact fun name a ha => by cases (haccount name).symm.trans ha
  case bridge => exact fun name _ a _ _ ha => by cases (haccount name).symm.trans ha
  case sip => exact fun name serial hs => by cases (hsip name).symm.trans hs
  case waiting => exact fun k p _ hw => absurd hw (hwaiting k p)
  case madeAccount => exact fun name a ha => by cases (haccount name).symm.trans ha
  case madeBridge => exact fun name a _ ha => by cases (haccount name).symm.trans ha
  case madeLeg => exact fun k r hr => by cases (hleg k).symm.trans hr
  case madeWaiting => exact fun k p hw => absurd hw (hwaiting k p)

/-- Every leg is alive at every point of a handler, and the handler starts with one alive. -/
theorem owned_step {d : Daemon} {e : DaemonEvent} (h : d.Owned) (hq : LegsSafe d e) :
    (d.step e).Owned := (through_owned_of_legsSafe h hq).final

/-- Along every run from the daemon's start: every leg's references are alive at every point exactly
when each handler comes at a safe moment. -/
theorem legsAlive_along_iff {d : Daemon} (h : d.Started) (events : List DaemonEvent) :
    Along Daemon.step (fun d e => Through LegsAlive (e.script d) d.quiet) d events ↔
      Along Daemon.step LegsSafe d events :=
  Runs.along_congr (I := Daemon.Owned) (fun _ _ => owned_step) (fun _ _ => through_legsAlive_iff)
    h.owned

/-! ## A call that the daemon started for the PBX -/

/-- An INVITE on the line is for the line. -/
theorem legsSafe_invite_line3 :
    LegsSafe (idleDaemon.step bringUp) (.invite "line3" none "100") := by
  rintro p ⟨sip, acctState, hsip, hstate, hp⟩ -
  have hline : ((idleDaemon.step bringUp).g_sipAccounts.lookup "line3").bind (·.acctState) =
      some ⟨"line3", 0⟩ := by decide
  rw [hsip] at hline
  have hptr : acctState = ⟨"line3", 0⟩ := Option.some.inj (hstate.symm.trans hline)
  rw [hp, hptr]
  decide

/-- An incoming call from its offer to its end. -/
theorem legsAlive_along_iff_incoming :
    Along Daemon.step (fun d e => Through LegsAlive (e.script d) d.quiet) idleDaemon
      [bringUp, .report 1 .incomingAudio, .report 1 .ringing, .report 1 .ended] := by
  refine (legsAlive_along_iff ⟨rfl, rfl, rfl, rfl⟩ _).mpr ⟨trivial, ?_, ?_, ?_, trivial⟩
  · exact fun _ _ => ⟨(by rintro (h | h) <;> cases h), (by rintro h; cases h)⟩
  · refine fun acct hacct => ⟨(by rintro (h | h) <;> cases h), fun _ _ kind => ?_⟩
    rw [← heldLeg_eq _ hacct]
    cases kind <;> decide
  · refine fun acct hacct => ⟨fun _ => ?_, (by rintro h; cases h)⟩
    have hheld := heldLeg_eq .incomingSipCall hacct
    exact hheld.symm.trans (by decide)

/-- The call that an INVITE started ends: its leg is hung up after its bridge was destroyed. -/
theorem ended_outgoing_call_dangles :
    ¬ Along Daemon.step (fun d e => Through LegsAlive (e.script d) d.quiet) idleDaemon
      [bringUp, .invite "line3" none "100", .report 7 .ended] := by
  rintro ⟨-, -, h, -⟩
  have hstarted : idleDaemon.Started := ⟨rfl, rfl, rfl, rfl⟩
  have hline : (idleDaemon.step bringUp).Owned := owned_step hstarted.owned trivial
  have hcall := owned_step hline legsSafe_invite_line3
  obtain ⟨acct, hacct⟩ : ∃ acct, ((idleDaemon.step bringUp).step
      (.invite "line3" none "100")).g_accounts.lookup "line3" = some acct :=
    Option.isSome_iff_exists.mp (by decide)
  have hnone := (legsSafe_of_through hcall h acct hacct).1 (.inl rfl)
  have hheld := heldLeg_eq .incomingSipCall hacct
  exact absurd (hheld.trans hnone) (by decide)

end Signal2sip
