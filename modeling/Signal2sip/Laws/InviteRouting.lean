import Signal2sip.Daemon.Routing
import Signal2sip.Laws.ReloadPass
import Signal2sip.Lib.Run

/-!
# The account an INVITE is for

`g_portToAccount` maps a bare port number to the account of the last setup that recorded it, running
or not. So an INVITE is handled with its socket's account in two cases: that account's own setup is
the last one that recorded the number, or no setup ever recorded it and PJSIP invoked the right
account by itself.

- `setup_tables`: what a setup does to the map and to the tables next to it;
- `Latest`, `latest_step`: the map holds the newest recording of each port;
- `invites_routed_along_iff`: the two cases above, for every history;
- `udp_invites_routed`: with UDP only, and addresses that can be read, the operating system's rules
  leave the first case.
-/

namespace Signal2sip

open Runs (Along)

/-! ## What a setup records -/

section Setup

variable {d : Daemon} {db : Db} {config : AccountConfig} {o : SetupOutcomes}

/-- The port that a setup reads off its transport. -/
def SetupOutcomes.readPort (o : SetupOutcomes) : Option Int := o.localAddress.bind portOfLocalAddress

/-- The tables after a setup that opened a transport, or after one that did not. -/
structure OpensTransport (d : Daemon) (config : AccountConfig) (o : SetupOutcomes) (d' : Daemon) :
    Prop where
  g_accounts : ∃ acct : AccountState, acct.serial = d.nextSerial ∧ acct.config = config ∧
    d'.g_accounts = d.g_accounts.insert config.name acct
  g_sipAccounts : ∃ sip : BridgeAccount, sip.acctState = some ⟨config.name, d.nextSerial⟩ ∧
    d'.g_sipAccounts = d.g_sipAccounts.insert config.name sip
  g_portToAccount : d'.g_portToAccount = match o.readPort with
    | some port => d.g_portToAccount.insert port ⟨config.name, d.nextSerial⟩
    | none => d.g_portToAccount
  nextSerial : d.nextSerial < d'.nextSerial

structure OpensNothing (d : Daemon) (config : AccountConfig) (d' : Daemon) : Prop where
  g_accounts : d'.g_accounts = d.g_accounts ∨
    ∃ acct : AccountState, config.name ∉ d.g_accounts ∧
      d'.g_accounts = d.g_accounts.insert config.name acct
  g_sipAccounts : d'.g_sipAccounts = d.g_sipAccounts
  g_portToAccount : d'.g_portToAccount = d.g_portToAccount
  nextSerial : d.nextSerial ≤ d'.nextSerial

theorem OpensNothing.of_tables {d' : Daemon} (h : SameTables d d')
    (hserial : d.nextSerial ≤ d'.nextSerial) : OpensNothing d config d' :=
  ⟨.inl h.g_accounts, h.g_sipAccounts, h.g_portToAccount, hserial⟩

theorem recordPort_eq (d : Daemon) (o : SetupOutcomes) (p : ObjPtr) :
    d.recordPort o.localAddress p =
      { d with g_portToAccount := match o.readPort with
        | some port => d.g_portToAccount.insert port p
        | none => d.g_portToAccount } := by
  unfold Daemon.recordPort SetupOutcomes.readPort
  cases o.localAddress.bind portOfLocalAddress with
  | none => rfl
  | some port => rfl

/-- The SIP half throws, opens nothing, or opens a transport with a SIP account on it. -/
theorem setupSip_cases (config : AccountConfig) (o : SetupOutcomes) (p : ObjPtr) (d : Daemon) :
    (∃ d' info, setupSip config o p d = (d', some info)) ∨
    (∃ d', setupSip config o p d = (d', none) ∧ SameTables d { d' with transports := d.transports } ∧
      d'.nextSerial = d.nextSerial ∧
      (config.hasSip && d'.g_ep && o.transportCreate.isSome) = false) ∨
    (∃ d', setupSip config o p d = (d', none) ∧ d'.g_accounts = d.g_accounts ∧
      (∃ sip : BridgeAccount, sip.acctState = some p ∧
        d'.g_sipAccounts = d.g_sipAccounts.insert config.name sip) ∧
      (d'.g_portToAccount = match o.readPort with
        | some port => d.g_portToAccount.insert port p
        | none => d.g_portToAccount) ∧
      d'.nextSerial = d.nextSerial + 1 ∧
      (config.hasSip && d'.g_ep && o.transportCreate.isSome) = true) := by
  rw [setupSip]
  split
  · next hsip =>
    have hnone : ∀ d₁ : Daemon, d₁ = d.ensureSharedEndpoint o.endpointAgain →
        SameTables d { d₁ with transports := d.transports } ∧ d₁.nextSerial = d.nextSerial := by
      rintro d₁ rfl
      exact ⟨⟨rfl, rfl, rfl, rfl⟩, rfl⟩
    cases hep : (d.ensureSharedEndpoint o.endpointAgain).g_ep with
    | false =>
      have hrun : (d.ensureSharedEndpoint o.endpointAgain).createAccountTransport o.transportCreate =
          (d.ensureSharedEndpoint o.endpointAgain, none) := by
        simp [Daemon.createAccountTransport, hep]
      rw [hrun]
      obtain ⟨hsame, hserial⟩ := hnone _ rfl
      exact .inr (.inl ⟨_, rfl, hsame, hserial, by simp [hep]⟩)
    | true =>
      cases hcreate : o.transportCreate with
      | none =>
        have hrun : (d.ensureSharedEndpoint o.endpointAgain).createAccountTransport none =
            (d.ensureSharedEndpoint o.endpointAgain, none) := by
          simp [Daemon.createAccountTransport]
        rw [hrun]
        obtain ⟨hsame, hserial⟩ := hnone _ rfl
        exact .inr (.inl ⟨_, rfl, hsame, hserial, by simp⟩)
      | some id =>
        have hrun : (d.ensureSharedEndpoint o.endpointAgain).createAccountTransport (some id) =
            ({ d.ensureSharedEndpoint o.endpointAgain with
                transports := id :: (d.ensureSharedEndpoint o.endpointAgain).transports }, some id) := by
          simp [Daemon.createAccountTransport, hep]
        rw [hrun]
        simp only [recordPort_eq]
        cases o.createAccount with
        | some info => exact .inl ⟨_, info, rfl⟩
        | none =>
          refine .inr (.inr ⟨_, rfl, rfl, ⟨_, ?_, rfl⟩, rfl, rfl, ?_⟩)
          · rfl
          · simp [hsip, hep]
  · next hsip =>
    exact .inr (.inl ⟨d, rfl, ⟨rfl, rfl, rfl, rfl⟩, rfl, by simp [hsip]⟩)

theorem placeOutgoingCall_out (config : AccountConfig) (o : SetupOutcomes) (d : Daemon) :
    ∃ out, d.placeOutgoingCall config o = { d with out := out } := by
  rcases placeOutgoingCall_eq config o d with h | ⟨target, h⟩
  · exact ⟨d.out, h⟩
  · exact ⟨_, h⟩

theorem setup_tables (d : Daemon) (db : Db) (config : AccountConfig) (o : SetupOutcomes) :
    if d.opensTransport db config o then OpensTransport d config o (d.setup db config o)
    else OpensNothing d config (d.setup db config o) := by
  have hserial := (setup_effect db config o d).nextSerial
  by_cases hname : config.name ∈ d.g_accounts
  · have hsetup : d.setup db config o = d := by rw [Daemon.setup, if_pos hname]
    rw [if_neg (by simp [Daemon.opensTransport, hname]), hsetup]
    exact .of_tables ⟨rfl, rfl, rfl, rfl⟩ (Nat.le_refl _)
  obtain ⟨d₁, result, hrun⟩ : ∃ d₁ result, setupAccount db config o d = (d₁, result) := ⟨_, _, rfl⟩
  have hopens : d.opensTransport db config o =
      (decide (result = .returned true) && config.hasSip && d₁.g_ep && o.transportCreate.isSome) := by
    simp [Daemon.opensTransport, hrun, hname]
  have hreturned : ∀ ok, result = .returned ok → d.setup db config o = d₁ := by
    rintro ok rfl
    rw [Daemon.setup, if_neg hname, hrun]
  have hended : (∀ ok, result ≠ .returned ok) →
      ¬ d.opensTransport db config o ∧ d.setup db config o = d := by
    intro hnot
    rw [hopens, Daemon.setup, if_neg hname, hrun]
    cases result with
    | returned ok => exact absurd rfl (hnot ok)
    | escaped info => simp
    | undefined => simp
  by_cases hc : ∃ account, Constructs db config o account
  · obtain ⟨account, hc⟩ := hc
    by_cases hn : Connects o account
    · rw [setup_of_connects hc hn] at hrun
      rcases setupSip_cases config o ⟨config.name, d.nextSerial⟩
          (d.withAccount config o (builtAccount d config o account)) with
        ⟨d', info, hsip⟩ | ⟨d', hsip, hsame, hserial', hnot⟩ |
          ⟨d', hsip, haccounts, ⟨sip, hptr, hsips⟩, hports, hserial', hopen⟩
      · rw [hsip] at hrun
        cases hrun
        obtain ⟨hno, hkept⟩ := hended fun ok => by simp
        rw [if_neg hno, hkept]
        exact .of_tables ⟨rfl, rfl, rfl, rfl⟩ (Nat.le_refl _)
      · rw [hsip] at hrun
        cases hrun
        obtain ⟨out, hout⟩ := placeOutgoingCall_out config o d'
        rw [if_neg (by simp [hopens, hout, hnot]), hreturned true rfl, hout]
        have hlt : d.nextSerial < d'.nextSerial := by
          rw [hserial']
          exact Nat.lt_succ_self _
        exact ⟨.inr ⟨_, hname, hsame.g_accounts⟩, hsame.g_sipAccounts, hsame.g_portToAccount,
          Nat.le_of_lt hlt⟩
      · rw [hsip] at hrun
        cases hrun
        obtain ⟨out, hout⟩ := placeOutgoingCall_out config o d'
        rw [if_pos (by simpa [hopens, hout] using hopen), hreturned true rfl, hout]
        have hlt : d.nextSerial < d'.nextSerial := by
          rw [hserial']
          exact Nat.lt_succ_of_lt (Nat.lt_succ_self _)
        exact ⟨⟨_, rfl, rfl, haccounts⟩, ⟨sip, hptr, hsips⟩, hports, hlt⟩
    · have hfailed := setup_failed hname hc hn
      rw [hrun] at hfailed
      obtain ⟨rfl, htables⟩ := hfailed
      rw [if_neg (by simp [hopens]), hreturned false rfl]
      rw [hreturned false rfl] at hserial
      exact .of_tables htables hserial
  · have hundefined := setup_undefined (d := d) (not_exists.mp hc)
    rw [hrun] at hundefined
    obtain rfl : result = .undefined := hundefined
    obtain ⟨hno, hkept⟩ := hended fun ok => by simp
    rw [if_neg hno, hkept]
    exact .of_tables ⟨rfl, rfl, rfl, rfl⟩ (Nat.le_refl _)

end Setup

/-! ## What a teardown leaves -/

section Teardown

variable {d : Daemon}

theorem stopped_ports (d : Daemon) (kind : LegKind) (name : String) :
    (d.stopped kind name).g_portToAccount = d.g_portToAccount := by
  unfold Daemon.stopped Daemon.hangupHeld Daemon.deleteHeld
  split <;> split <;> rfl

/-- A teardown takes the account out of its two tables and leaves the ports. -/
theorem teardown_tables (d : Daemon) (name : String) (closes : Bool) :
    (d.teardown name closes).g_portToAccount = d.g_portToAccount ∧
      (d.teardown name closes).nextSerial = d.nextSerial ∧
      ((d.teardown name closes).g_sipAccounts = d.g_sipAccounts.erase name ∨
        (d.teardown name closes).g_sipAccounts = d.g_sipAccounts ∧ name ∉ d.g_accounts) := by
  by_cases hrunning : name ∈ d.g_accounts
  · obtain ⟨ts, more, hrun, -⟩ := exec_teardownAccount hrunning closes d
    have hrest : (d.legless name).g_sipAccounts = d.g_sipAccounts ∧ _ := legless_rest
    obtain ⟨hsips, -, hserial, -⟩ := hrest
    have hports : (d.legless name).g_portToAccount = d.g_portToAccount := by
      rw [Daemon.legless, stopped_ports, stopped_ports]
    rw [Daemon.teardown, hrun]
    exact ⟨hports, hserial, .inl (congrArg (AList.erase name) hsips)⟩
  · rw [Daemon.teardown, teardownAccount, if_neg hrunning]
    exact ⟨rfl, rfl, .inr ⟨rfl, hrunning⟩⟩

end Teardown

/-! ## The map and the recordings -/

namespace Routing

/-- The map holds the newest recording of each port, every recording has a serial number that is
used up, and every SIP account belongs to the account that runs under its name. -/
structure Latest (s : Routing) : Prop where
  unrecorded : ∀ port, s.daemon.g_portToAccount.lookup port = none → ∀ p, (port, p) ∉ s.recordings
  newest : ∀ port p, s.daemon.g_portToAccount.lookup port = some p →
    (port, p) ∈ s.recordings ∧ ∀ q, (port, q) ∈ s.recordings → q = p ∨ q.serial < p.serial
  usedUp : ∀ port p, (port, p) ∈ s.recordings → p.serial < s.daemon.nextSerial
  sip : ∀ name sip, s.daemon.g_sipAccounts.lookup name = some sip →
    ∃ acct, s.daemon.g_accounts.lookup name = some acct ∧
      sip.acctState = some (Daemon.ptr name acct)

theorem latest_setup {s : Routing} (h : Latest s) (db : Db) (config : AccountConfig)
    (o : SetupOutcomes) (port : Int) : Latest (s.setup db config o port) := by
  have htables := setup_tables s.daemon db config o
  unfold setup
  split at htables
  · next hopens =>
    rw [if_pos hopens]
    obtain ⟨⟨acct, hacct, -, haccounts⟩, ⟨sip, hptr, hsips⟩, hports, hserial⟩ := htables
    have hsip : ∀ name sip',
        (s.daemon.setup db config o).g_sipAccounts.lookup name = some sip' →
        ∃ acct, (s.daemon.setup db config o).g_accounts.lookup name = some acct ∧
          sip'.acctState = some (Daemon.ptr name acct) := by
      intro name sip' hsip'
      rw [hsips] at hsip'
      rw [haccounts]
      by_cases hname : name = config.name
      · subst hname
        rw [AList.lookup_insert] at hsip' ⊢
        cases hsip'
        exact ⟨acct, rfl, by rw [hptr, Daemon.ptr, hacct]⟩
      · rw [AList.lookup_insert_ne hname] at hsip' ⊢
        exact h.sip name sip' hsip'
    have hused : ∀ port p, (port, p) ∈ s.recordings →
        p.serial < (s.daemon.setup db config o).nextSerial :=
      fun port p hmem => (h.usedUp port p hmem).trans hserial
    unfold SetupOutcomes.readPort at hports
    cases hread : o.localAddress.bind portOfLocalAddress with
    | none =>
      rw [hread] at hports
      simp only at hports
      exact ⟨fun port hnone => h.unrecorded port (hports ▸ hnone),
        fun port p hsome => h.newest port p (hports ▸ hsome), hused, hsip⟩
    | some read =>
      -- the new recording has the highest serial number so far
      rw [hread] at hports
      simp only at hports
      refine ⟨fun port hnone p hmem => ?_, fun port p hsome => ?_, fun port p hmem => ?_, hsip⟩
      · rw [hports] at hnone
        by_cases hport : port = read
        · rw [hport, AList.lookup_insert] at hnone
          cases hnone
        · rw [AList.lookup_insert_ne hport] at hnone
          rcases List.mem_cons.mp hmem with heq | hold
          · exact hport (Prod.mk.inj heq).1
          · exact h.unrecorded port hnone p hold
      · rw [hports] at hsome
        by_cases hport : port = read
        · rw [hport, AList.lookup_insert] at hsome
          cases hsome
          refine ⟨List.mem_cons.mpr (.inl (by rw [hport])), fun q hq => ?_⟩
          rcases List.mem_cons.mp hq with heq | hold
          · exact .inl (Prod.mk.inj heq).2
          · exact .inr (h.usedUp port q hold)
        · rw [AList.lookup_insert_ne hport] at hsome
          obtain ⟨hmem, hnewest⟩ := h.newest port p hsome
          refine ⟨List.mem_cons_of_mem _ hmem, fun q hq => ?_⟩
          rcases List.mem_cons.mp hq with heq | hold
          · exact absurd (Prod.mk.inj heq).1 hport
          · exact hnewest q hold
      · rcases List.mem_cons.mp hmem with heq | hold
        · rw [(Prod.mk.inj heq).2]
          exact hserial
        · exact hused port p hold
  · next hopens =>
    rw [if_neg hopens]
    obtain ⟨haccounts, hsips, hports, hserial⟩ := htables
    refine ⟨fun port hnone => h.unrecorded port (hports ▸ hnone),
      fun port p hsome => h.newest port p (hports ▸ hsome),
      fun port p hmem => (h.usedUp port p hmem).trans_le hserial, fun name sip hsip => ?_⟩
    obtain ⟨acct, hacct, hptr⟩ := h.sip name sip (hsips ▸ hsip)
    refine ⟨acct, ?_, hptr⟩
    rcases haccounts with hsame | ⟨acct', hname, hinsert⟩
    · exact hsame ▸ hacct
    · have hne : name ≠ config.name := by
        rintro rfl
        exact hname (AList.lookup_isSome.mp (Option.isSome_iff_exists.mpr ⟨acct, hacct⟩))
      rw [← hacct]
      exact (congrArg (AList.lookup name) hinsert).trans (AList.lookup_insert_ne hne)

theorem latest_teardown {s : Routing} (h : Latest s) (name : String) (closes : Bool) :
    Latest (s.teardown name closes) := by
  obtain ⟨hports, hserial, hsips⟩ := teardown_tables s.daemon name closes
  refine ⟨fun port hnone => ?_, fun port p hsome => ?_, fun port p hmem => ?_,
    fun name' sip hsip => ?_⟩
  · exact h.unrecorded port (hports ▸ hnone)
  · exact h.newest port p (hports ▸ hsome)
  · exact lt_of_lt_of_eq (h.usedUp port p hmem) hserial.symm
  · have hold : name' ≠ name ∧ s.daemon.g_sipAccounts.lookup name' = some sip := by
      rcases hsips with herased | ⟨hsame, hgone⟩
      · have hne : name' ≠ name := by
          rintro rfl
          have hnone : (s.teardown name' closes).daemon.g_sipAccounts.lookup name' = none :=
            herased ▸ AList.lookup_erase _ _
          rw [hnone] at hsip
          cases hsip
        exact ⟨hne, by rwa [← AList.lookup_erase_ne hne, ← herased]⟩
      · have hsip' : s.daemon.g_sipAccounts.lookup name' = some sip := hsame ▸ hsip
        refine ⟨?_, hsip'⟩
        rintro rfl
        obtain ⟨acct, hacct, -⟩ := h.sip name' sip hsip'
        exact hgone (AList.lookup_isSome.mp (Option.isSome_iff_exists.mpr ⟨acct, hacct⟩))
    obtain ⟨acct, hacct, hptr⟩ := h.sip name' sip hold.2
    refine ⟨acct, ?_, hptr⟩
    rw [← hacct]
    exact (teardown_lookup s.daemon name closes name').trans (if_neg hold.1)

theorem latest_step (s : Routing) (e : RoutingEvent) (h : Latest s) : Latest (s.step e) := by
  cases e with
  | setup db config o port => exact latest_setup h db config o port
  | teardown name closes => exact latest_teardown h name closes
  | connect name port =>
    rw [step, connect]
    split
    · exact h
    · exact ⟨h.unrecorded, h.newest, h.usedUp, h.sip⟩
  | disconnect socket => exact ⟨h.unrecorded, h.newest, h.usedUp, h.sip⟩
  | invite socket invoked => exact h

/-! ## The handling of an INVITE -/

/-- An INVITE is handled with the running account that its socket belongs to, whichever SIP account
PJSIP invokes. -/
def InviteRouted (s : Routing) : RoutingEvent → Prop
  | .invite socket invoked => socket ∈ s.sockets → ∀ sip acctState,
    s.daemon.g_sipAccounts.lookup invoked = some sip → sip.acctState = some acctState →
      s.daemon.inviteTarget acctState (some socket.port) = socket.owner ∧
        (s.daemon.account? socket.owner).isSome
  | _ => True

/-- The owner's own setup recorded the port, and no later setup recorded the same number. -/
def RecordedLast (s : Routing) (socket : Socket) : Prop :=
  (socket.port, socket.owner) ∈ s.recordings ∧
    ∀ p, (socket.port, p) ∈ s.recordings → p.serial ≤ socket.owner.serial

/-- The account runs, and its setup was the last one that recorded the port; or no setup did, and
PJSIP invoked the account by itself. -/
def PortTellsOwner (s : Routing) : RoutingEvent → Prop
  | .invite socket invoked => socket ∈ s.sockets → invoked ∈ s.daemon.g_sipAccounts →
    (s.daemon.account? socket.owner).isSome ∧
      (s.RecordedLast socket ∨
        (∀ p, (socket.port, p) ∉ s.recordings) ∧ invoked = socket.owner.name)
  | _ => True

theorem inviteTarget_some {d : Daemon} {p : ObjPtr} {port : Int} :
    d.inviteTarget p (some port) = (d.g_portToAccount.lookup port).getD p := rfl

theorem inviteRouted_iff {s : Routing} (h : Latest s) (e : RoutingEvent) :
    InviteRouted s e ↔ PortTellsOwner s e := by
  cases e with
  | invite socket invoked =>
    constructor
    · intro hrouted hopen hinvoked
      obtain ⟨sip, hsip⟩ := Option.isSome_iff_exists.mp (AList.lookup_isSome.mpr hinvoked)
      obtain ⟨acct, -, hptr⟩ := h.sip invoked sip hsip
      obtain ⟨htarget, halive⟩ := hrouted hopen sip _ hsip hptr
      refine ⟨halive, ?_⟩
      rw [inviteTarget_some] at htarget
      cases hport : s.daemon.g_portToAccount.lookup socket.port with
      | none =>
        rw [hport, Option.getD_none] at htarget
        exact .inr ⟨h.unrecorded socket.port hport, congrArg ObjPtr.name htarget⟩
      | some p =>
        rw [hport, Option.getD_some] at htarget
        subst htarget
        obtain ⟨hmem, hnewest⟩ := h.newest socket.port _ hport
        refine .inl ⟨hmem, fun q hq => ?_⟩
        rcases hnewest q hq with rfl | hlt
        · exact Nat.le_refl _
        · exact Nat.le_of_lt hlt
    · intro htells hopen sip acctState hsip hptr
      have hinvoked : invoked ∈ s.daemon.g_sipAccounts :=
        AList.lookup_isSome.mp (Option.isSome_iff_exists.mpr ⟨sip, hsip⟩)
      obtain ⟨halive, hrecorded | ⟨hnever, hname⟩⟩ := htells hopen hinvoked
      · refine ⟨?_, halive⟩
        rw [inviteTarget_some]
        cases hport : s.daemon.g_portToAccount.lookup socket.port with
        | none => exact absurd hrecorded.1 (h.unrecorded socket.port hport _)
        | some p =>
          obtain ⟨hmem, hnewest⟩ := h.newest socket.port p hport
          rcases hnewest _ hrecorded.1 with heq | hlt
          · exact heq.symm
          · have hle := hrecorded.2 p hmem
            omega
      · refine ⟨?_, halive⟩
        rw [inviteTarget_some]
        cases hport : s.daemon.g_portToAccount.lookup socket.port with
        | some p => exact absurd (h.newest socket.port p hport).1 (hnever p)
        | none =>
          -- the invoked account and the owner run under one name, so they are one
          obtain ⟨acct, hacct, hptr'⟩ := h.sip invoked sip hsip
          obtain ⟨owner, howner⟩ := Option.isSome_iff_exists.mp halive
          obtain ⟨hlookup, hserial⟩ := account?_eq_some.mp howner
          subst hname
          obtain rfl : acct = owner := Option.some.inj (hacct.symm.trans hlookup)
          obtain rfl : acctState = _ := Option.some.inj (hptr.symm.trans hptr')
          rw [Option.getD_none, Daemon.ptr, hserial]
  | setup db config o port => exact Iff.rfl
  | teardown name closes => exact Iff.rfl
  | connect name port => exact Iff.rfl
  | disconnect socket => exact Iff.rfl

/-- The process has started and nothing is set up. -/
def initial (global : GlobalConfig) : Routing where
  daemon := { g_global := global }

theorem latest_initial (global : GlobalConfig) : Latest (initial global) where
  unrecorded _ _ _ hmem := nomatch hmem
  newest _ _ hsome := nomatch hsome
  usedUp _ _ hmem := nomatch hmem
  sip _ _ hsip := nomatch hsip

end Routing

/-- In every history since the start of the process: every INVITE is handled with the running account
that its socket belongs to exactly when the ports tell the owner. -/
theorem invites_routed_along_iff (global : GlobalConfig) (events : List RoutingEvent) :
    Along Routing.step Routing.InviteRouted (.initial global) events ↔
      Along Routing.step Routing.PortTellsOwner (.initial global) events :=
  Runs.along_congr (fun s e h _ => Routing.latest_step s e h)
    (fun _ e h => Routing.inviteRouted_iff h e) (Routing.latest_initial global)

/-! ## With UDP only -/

namespace Routing

/-- The transport that a setup opens is a UDP one whose port it reads. -/
def UdpSetup (s : Routing) : RoutingEvent → Prop
  | .setup db config o _ =>
    s.daemon.opensTransport db config o = true → config.protocol = .udp ∧ o.readPort ≠ none
  | _ => True

/-- Every socket is an account's own transport, and its port was recorded last for it. -/
structure UdpOnly (s : Routing) : Prop where
  latest : Latest s
  protocol : ∀ name acct, name ∈ s.daemon.g_sipAccounts →
    s.daemon.g_accounts.lookup name = some acct → acct.config.protocol = .udp
  sockets : ∀ socket ∈ s.sockets, socket.protocol = .udp ∧ s.RecordedLast socket

theorem udpOnly_setup {s : Routing} (h : UdpOnly s) {db : Db} {config : AccountConfig}
    {o : SetupOutcomes} {port : Int} (hpossible : s.Possible (.setup db config o port))
    (hudp : s.UdpSetup (.setup db config o port)) : UdpOnly (s.setup db config o port) := by
  have htables := setup_tables s.daemon db config o
  have hlatest := latest_setup h.latest db config o port
  unfold setup at hlatest ⊢
  split at htables
  · next hopens =>
    obtain ⟨hfree, htruth⟩ := hpossible hopens
    obtain ⟨hprotocol, hread⟩ := hudp hopens
    obtain ⟨read, hread⟩ := Option.ne_none_iff_exists'.mp hread
    obtain rfl : read = port := htruth read hread
    obtain ⟨⟨acct, -, hconfig, haccounts⟩, ⟨sip, -, hsips⟩, -, -⟩ := htables
    unfold SetupOutcomes.readPort at hread
    rw [if_pos hopens] at hlatest ⊢
    simp only [hread, Option.toList_some, List.map_cons, List.map_nil, List.cons_append,
      List.nil_append] at hlatest ⊢
    refine ⟨hlatest, fun name acct' hmem hacct' => ?_, fun socket hsocket => ?_⟩
    · rw [haccounts] at hacct'
      by_cases hname : name = config.name
      · subst hname
        rw [AList.lookup_insert] at hacct'
        cases hacct'
        rw [hconfig, hprotocol]
      · rw [AList.lookup_insert_ne hname] at hacct'
        rw [hsips, AList.mem_insert] at hmem
        exact h.protocol name acct' (hmem.resolve_left hname) hacct'
    · rcases List.mem_cons.mp hsocket with rfl | hold
      · refine ⟨hprotocol, List.mem_cons_self, fun p hp => ?_⟩
        rcases List.mem_cons.mp hp with heq | hmem
        · rw [(Prod.mk.inj heq).2]
        · exact Nat.le_of_lt (h.latest.usedUp _ p hmem)
      · obtain ⟨hsocketUdp, hmem, hlast⟩ := h.sockets socket hold
        refine ⟨hsocketUdp, List.mem_cons_of_mem _ hmem, fun p hp => ?_⟩
        rcases List.mem_cons.mp hp with heq | hp'
        · -- the operating system does not give the port of an open socket out again
          exact absurd (Prod.mk.inj heq).1 (hfree socket hold (hsocketUdp.trans hprotocol.symm))
        · exact hlast p hp'
  · next hopens =>
    rw [if_neg hopens] at hlatest ⊢
    obtain ⟨haccounts, hsips, -, -⟩ := htables
    refine ⟨hlatest, fun name acct hmem hacct => ?_, h.sockets⟩
    have hmem' : name ∈ s.daemon.g_sipAccounts := hsips ▸ hmem
    obtain ⟨sip, hsip⟩ := Option.isSome_iff_exists.mp (AList.lookup_isSome.mpr hmem')
    obtain ⟨acct₀, hacct₀, -⟩ := h.latest.sip name sip hsip
    refine h.protocol name acct hmem' ?_
    rcases haccounts with hsame | ⟨acct', hname, hinsert⟩
    · exact hsame ▸ hacct
    · have hne : name ≠ config.name := by
        rintro rfl
        exact hname (AList.lookup_isSome.mp (Option.isSome_iff_exists.mpr ⟨acct₀, hacct₀⟩))
      exact (AList.lookup_insert_ne hne).symm.trans
        ((congrArg (AList.lookup name) hinsert).symm.trans hacct)

theorem udpOnly_teardown {s : Routing} (h : UdpOnly s) (name : String) (closes : Bool) :
    UdpOnly (s.teardown name closes) := by
  refine ⟨latest_teardown h.latest name closes, fun name' acct hmem hacct => ?_,
    fun socket hsocket => ?_⟩
  · have hlookup := (teardown_lookup s.daemon name closes name').symm.trans hacct
    split at hlookup
    · cases hlookup
    · refine h.protocol name' acct ?_ hlookup
      rcases (teardown_tables s.daemon name closes).2.2 with herased | ⟨hsame, -⟩
      · have hmem' : name' ∈ s.daemon.g_sipAccounts.erase name := herased ▸ hmem
        exact (AList.mem_erase.mp hmem').2
      · exact hsame ▸ hmem
  · exact h.sockets socket (List.mem_filter.mp hsocket).1

theorem udpOnly_step (s : Routing) (e : RoutingEvent) (h : UdpOnly s)
    (hguard : s.Possible e ∧ s.UdpSetup e) : UdpOnly (s.step e) := by
  cases e with
  | setup db config o port => exact udpOnly_setup h hguard.1 hguard.2
  | teardown name closes => exact udpOnly_teardown h name closes
  | connect name port =>
    obtain ⟨acct, hacct, hsip, htcp, -⟩ := hguard.1
    have hudp := h.protocol name acct hsip hacct
    rw [htcp] at hudp
    cases hudp
  | disconnect socket =>
    refine ⟨latest_step s (.disconnect socket) h.latest, h.protocol, fun socket' hsocket' => ?_⟩
    exact h.sockets socket' (List.mem_of_mem_erase hsocket')
  | invite socket invoked => exact h

theorem udpOnly_initial (global : GlobalConfig) : UdpOnly (initial global) :=
  ⟨latest_initial global, fun _ _ hmem => (nomatch hmem), fun _ hmem => (nomatch hmem)⟩

end Routing

/-- With UDP transports only, an INVITE on the transport of a running account is handled with it. -/
theorem udp_invites_routed {global : GlobalConfig} {events : List RoutingEvent}
    (h : Along Routing.step (fun s e => s.Possible e ∧ s.UdpSetup e) (.initial global) events) :
    Along Routing.step (fun s e => ∀ socket invoked, e = .invite socket invoked →
      (s.daemon.account? socket.owner).isSome → s.InviteRouted e) (.initial global) events := by
  refine h.imp_of_inv Routing.udpOnly_step ?_ (Routing.udpOnly_initial global)
  rintro s e hudp - socket invoked rfl halive
  refine (Routing.inviteRouted_iff hudp.latest _).mpr fun hopen _ => ⟨halive, .inl ?_⟩
  exact (hudp.sockets socket hopen).2

/-! ## A port used again -/

/-- A line over TLS. -/
def tlsConfig : AccountConfig := { trunkConfig with name := "line4", sipTransport := "tls" }

def tlsDb : Db := { account := AList.insert "line4" trunkRecord ∅ }

/-- The connection of the TLS line, from a port that a torn down line had. -/
def tlsConnection : Socket := ⟨⟨"line4", 2⟩, .tcp, 40000, false⟩

/-- The UDP line is set up on port 40000 and torn down, the TLS line is set up, and its connection to
the PBX gets the free port 40000. -/
def reusedPort : List RoutingEvent :=
  [.setup trunkDb trunkConfig { localAddress := some "10.0.0.1:40000" } 40000,
    .teardown "line3" true,
    .setup tlsDb tlsConfig { localAddress := some "10.0.0.1:50000" } 50000,
    .connect "line4" 40000]

def reusedPortState : Routing := Runs.final Routing.step (.initial idleDaemon.g_global) reusedPort

/-- The run is possible, and the INVITE on the connection goes to the account that is gone. -/
theorem reused_port_dangles :
    Along Routing.step Routing.Possible (.initial idleDaemon.g_global)
        (reusedPort ++ [.invite tlsConnection "line4"]) ∧
      ¬ Along Routing.step Routing.InviteRouted (.initial idleDaemon.g_global)
        (reusedPort ++ [.invite tlsConnection "line4"]) := by
  refine ⟨⟨?_, trivial, ?_, ?_, ⟨by decide, by decide⟩, trivial⟩, fun hrouted => ?_⟩
  · refine fun _ => ⟨by decide, fun p hp => ?_⟩
    exact Option.some.inj (hp.symm.trans (by decide))
  · refine fun _ => ⟨by decide, fun p hp => ?_⟩
    exact Option.some.inj (hp.symm.trans (by decide))
  · obtain ⟨acct, hacct, htcp⟩ := Option.map_eq_some_iff.mp (show
      ((Runs.final Routing.step (.initial idleDaemon.g_global)
        (reusedPort.take 3)).daemon.g_accounts.lookup "line4").map (·.config.protocol) = some .tcp by
        decide)
    exact ⟨acct, hacct, by decide, htcp, by decide⟩
  · have hinvite : reusedPortState.InviteRouted (.invite tlsConnection "line4") :=
      (Runs.along_append.mp hrouted).2.1
    obtain ⟨sip, hsip, hptr⟩ := Option.bind_eq_some_iff.mp (show
      (reusedPortState.daemon.g_sipAccounts.lookup "line4").bind (·.acctState) = some ⟨"line4", 2⟩ by
        decide)
    exact absurd (hinvite (by decide) sip _ hsip hptr).1 (by decide)

end Signal2sip
