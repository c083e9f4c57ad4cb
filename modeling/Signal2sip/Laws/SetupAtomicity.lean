import Signal2sip.Daemon.Setup

/-!
# What a failed `setupAccount` leaves behind

`setupAccount` builds an account in four tables: the accounts, the SIP accounts, the port map and the
open transports. The theorems follow its steps in order and say, for each place where it can stop,
how it ends and what the tables then hold:

- `setup_undefined`: it stops before the dispatch queue runs, and the handler locks a mutex that does
  not exist;
- `setup_failed`: it stops in connecting or in the two requests after it; it returns false and every
  table is as before;
- `setup_without_sip`: the endpoint or the transport cannot be made; the account stays, without SIP,
  and the three SIP tables are as before;
- `setup_succeeded`: nothing of these happens, and creating the SIP account does not throw (its
  `pj::Error` would leave the function); the account is the one its row describes.

`setup_atomic_or_without_sip` puts the last three together: once the dispatch queue runs, a failure of
the Signal half is all or nothing, and the SIP half's own failures are tolerated. Its premise that the
account is not running yet is what the two callers of `setupAccount` see to.
-/

namespace Signal2sip

/-! ## The Signal half -/

section SignalHalf

variable {db : Db} {config : AccountConfig} {o : SetupOutcomes} {d : Daemon}

theorem runSteps_append (xs ys : List SetupStep) (acct : AccountState) :
    runSteps (xs ++ ys) acct =
      match runSteps xs acct with
      | (acct', some e) => (acct', some e)
      | (acct', none) => runSteps ys acct' := by
  induction xs generalizing acct with
  | nil => rfl
  | cons x xs ih =>
    cases hx : x acct with
    | error e => simp [runSteps, hx]
    | ok acct' => simp only [List.cons_append, runSteps, hx, ih]

/-- The steps before the dispatch queue succeed, and the account's row is read. -/
structure Constructs (db : Db) (config : AccountConfig) (o : SetupOutcomes)
    (account : AccountRecord) : Prop where
  storage : o.openStorage = none
  account : (Storage.loadAccount db config.name o.loadAccount).value = .ok account
  callManager : o.callManager = true
  proxy : ∃ proxy, applyProxyConfig config.signalProxy = .ok proxy
  socket : o.authSocket = none

/-- Connecting and the requests after it succeed. -/
structure Connects (o : SetupOutcomes) (account : AccountRecord) : Prop where
  connect : o.connect = none
  prekeys : o.refreshPrekeys = none
  attributes : account.flow = some "standalone" → o.attributesPut = none

/-- The account when the dispatch queue is about to be started. -/
def constructedAccount (d : Daemon) (config : AccountConfig) (account : AccountRecord) :
    AccountState :=
  { freshAccount d config with
    account := account, localServiceId := account.aci, handle := true, socket := some {} }

/-- The account that a finished Signal half has built. -/
def builtAccount (d : Daemon) (config : AccountConfig) (o : SetupOutcomes)
    (account : AccountRecord) : AccountState :=
  { constructedAccount d config account with
    socket := some { connected := true }
    dispatchQueue := { state := some [], joinable := true }
    lastStorageSyncMs := o.nowMs }

/-- A step that leaves the dispatch queue alone where it does not throw. -/
def KeepsQueue (step : SetupStep) : Prop :=
  ∀ acct acct', step acct = .ok acct' → acct'.dispatchQueue = acct.dispatchQueue

theorem runSteps_keepsQueue {steps : List SetupStep} (h : ∀ step ∈ steps, KeepsQueue step)
    (acct : AccountState) : (runSteps steps acct).1.dispatchQueue = acct.dispatchQueue := by
  induction steps generalizing acct with
  | nil => rfl
  | cons step steps ih =>
    cases hs : step acct with
    | error e => simp [runSteps, hs]
    | ok acct' =>
      have hq : acct'.dispatchQueue = acct.dispatchQueue := h step List.mem_cons_self acct acct' hs
      simp only [runSteps, hs]
      rw [ih (fun s hmem => h s (List.mem_cons_of_mem step hmem)), hq]

theorem attempt_keepsQueue (outcome : Option RuntimeError) : KeepsQueue (attempt outcome) := by
  intro acct acct' h
  unfold attempt at h
  cases outcome with
  | some e => cases h
  | none => cases h; rfl

theorem constructionSteps_keepQueue (db : Db) (o : SetupOutcomes) :
    ∀ step ∈ constructionSteps db o, KeepsQueue step := by
  intro step hstep
  simp only [constructionSteps, List.mem_cons, List.not_mem_nil, or_false] at hstep
  rcases hstep with rfl | rfl | rfl | rfl
  · exact attempt_keepsQueue o.openStorage
  · intro acct acct' h
    unfold loadAccountStep at h
    cases hl : (Storage.loadAccount db acct.config.name o.loadAccount).value with
    | error e => rw [hl] at h; cases h
    | ok account => rw [hl] at h; cases h; rfl
  · intro acct acct' h
    unfold createCallManager at h
    split at h <;> cases h
    rfl
  · intro acct acct' h
    unfold createAuthSocket at h
    cases hp : applyProxyConfig acct.config.signalProxy with
    | error e => rw [hp] at h; cases h
    | ok proxy =>
      rw [hp] at h
      cases hs : o.authSocket with
      | some e => rw [Except.bind, hs] at h; cases h
      | none => rw [Except.bind, hs] at h; cases h; rfl

/-- After the dispatch queue was started, no step touches it. -/
theorem connectionSteps_tail_keepQueue (o : SetupOutcomes) :
    ∀ step ∈ (connectionSteps o).tail, KeepsQueue step := by
  intro step hstep
  simp only [connectionSteps, List.tail_cons, List.mem_cons, List.not_mem_nil, or_false] at hstep
  rcases hstep with rfl | rfl | rfl | rfl | rfl
  · intro acct acct' h
    unfold connectSocket at h
    cases hc : o.connect with
    | some e => rw [hc] at h; cases h
    | none => rw [hc] at h; cases h; rfl
  · exact attempt_keepsQueue o.refreshPrekeys
  · intro acct acct' h
    unfold refreshAccountAttributes at h
    split at h
    · exact attempt_keepsQueue o.attributesPut acct acct' h
    · cases h; rfl
  · intro acct acct' h
    cases h
    rfl
  · intro acct acct' h
    cases h
    rfl

theorem construction_ok {account : AccountRecord} (h : Constructs db config o account) :
    runSteps (constructionSteps db o) (freshAccount d config) =
      (constructedAccount d config account, none) := by
  obtain ⟨proxy, hproxy⟩ := h.proxy
  simp [constructionSteps, runSteps, attempt, h.storage, loadAccountStep, freshAccount, h.account,
    Except.map, createCallManager, h.callManager, createAuthSocket, hproxy, Except.bind, h.socket,
    constructedAccount]

/-- A construction that does not throw is one in which every step succeeded. -/
theorem construction_of_none {acct : AccountState}
    (h : runSteps (constructionSteps db o) (freshAccount d config) = (acct, none)) :
    ∃ account, Constructs db config o account := by
  simp only [constructionSteps, runSteps, attempt] at h
  cases hopen : o.openStorage with
  | some e => simp [hopen] at h
  | none =>
    cases hl : (Storage.loadAccount db config.name o.loadAccount).value with
    | error e => simp [hopen, loadAccountStep, freshAccount, hl, Except.map] at h
    | ok account =>
      cases hm : o.callManager with
      | false =>
        simp [hopen, loadAccountStep, freshAccount, hl, Except.map, createCallManager, hm] at h
      | true =>
        cases hp : applyProxyConfig config.signalProxy with
        | error e =>
          simp [hopen, loadAccountStep, freshAccount, hl, Except.map, createCallManager, hm,
            createAuthSocket, hp, Except.bind] at h
        | ok proxy =>
          cases hs : o.authSocket with
          | some e =>
            simp [hopen, loadAccountStep, freshAccount, hl, Except.map, createCallManager, hm,
              createAuthSocket, hp, Except.bind, hs] at h
          | none => exact ⟨account, hopen, hl, hm, ⟨proxy, hp⟩, hs⟩

theorem connection_ok {account : AccountRecord} (h : Connects o account) :
    runSteps (connectionSteps o) (constructedAccount d config account) =
      (builtAccount d config o account, none) := by
  by_cases hflow : account.flow = some "standalone"
  · simp [connectionSteps, runSteps, startDispatchQueue, connectSocket, h.connect, attempt,
      h.prekeys, refreshAccountAttributes, constructedAccount, hflow, h.attributes hflow,
      syncStorageContactsStep, attemptQuietly, builtAccount, EnvelopeDispatchQueue.start,
      freshAccount]
  · simp [connectionSteps, runSteps, startDispatchQueue, connectSocket, h.connect, attempt,
      h.prekeys, refreshAccountAttributes, constructedAccount, hflow,
      syncStorageContactsStep, attemptQuietly, builtAccount, EnvelopeDispatchQueue.start,
      freshAccount]

theorem connection_of_none {account : AccountRecord} {acct : AccountState}
    (h : runSteps (connectionSteps o) (constructedAccount d config account) = (acct, none)) :
    Connects o account := by
  cases hc : o.connect with
  | some e => simp [connectionSteps, runSteps, startDispatchQueue, connectSocket, hc] at h
  | none =>
    cases hp : o.refreshPrekeys with
    | some e =>
      simp [connectionSteps, runSteps, startDispatchQueue, connectSocket, hc, attempt, hp] at h
    | none =>
      refine ⟨hc, hp, fun hflow => ?_⟩
      cases ha : o.attributesPut with
      | none => rfl
      | some e =>
        simp [connectionSteps, runSteps, startDispatchQueue, connectSocket, hc, attempt, hp,
          refreshAccountAttributes, constructedAccount, hflow, ha] at h

end SignalHalf

/-! ## The whole function -/

section Setup

variable {db : Db} {config : AccountConfig} {o : SetupOutcomes} {d : Daemon}
  {account : AccountRecord}

/-- The tables that a setup builds an account in are the same. -/
structure SameTables (d d' : Daemon) : Prop where
  g_accounts : d'.g_accounts = d.g_accounts
  g_sipAccounts : d'.g_sipAccounts = d.g_sipAccounts
  g_portToAccount : d'.g_portToAccount = d.g_portToAccount
  transports : d'.transports = d.transports

/-- No transport comes out of the endpoint: it does not start, or it cannot make one. -/
def NoTransport (o : SetupOutcomes) (d : Daemon) : Prop :=
  (d.g_ep = false ∧ o.endpoint = false ∧ o.endpointAgain = false) ∨ o.transportCreate = none

theorem setupSteps_of_constructs (h : Constructs db config o account) :
    runSteps (setupSteps db o) (freshAccount d config) =
      runSteps (connectionSteps o) (constructedAccount d config account) := by
  rw [setupSteps, runSteps_append, construction_ok h]

/-- Before the dispatch queue runs, the handler has no mutex to lock. -/
theorem setup_undefined (h : ∀ account, ¬ Constructs db config o account) :
    (setupAccount db config o d).2 = .undefined := by
  obtain ⟨acct, thrown, hrun⟩ : ∃ acct thrown,
      runSteps (constructionSteps db o) (freshAccount d config) = (acct, thrown) := ⟨_, _, rfl⟩
  have hqueue : acct.dispatchQueue = {} := by
    have hkeep := runSteps_keepsQueue (constructionSteps_keepQueue db o)
      (freshAccount d config)
    rwa [hrun] at hkeep
  cases thrown with
  | none =>
    obtain ⟨account, hconstructs⟩ := construction_of_none hrun
    exact absurd hconstructs (h account)
  | some e =>
    rw [setupAccount, setupSteps, runSteps_append, hrun]
    simp [setupFailed, Daemon.withAccount, hqueue]

/-- A failure of the Signal half from connecting on takes the account out again. -/
theorem setup_failed (hname : config.name ∉ d.g_accounts) (hc : Constructs db config o account)
    (hf : ¬ Connects o account) :
    (setupAccount db config o d).2 = .returned false ∧
      SameTables d (setupAccount db config o d).1 := by
  obtain ⟨acct, thrown, hrun⟩ : ∃ acct thrown,
      runSteps (connectionSteps o) (constructedAccount d config account) = (acct, thrown) :=
    ⟨_, _, rfl⟩
  have hqueue : acct.dispatchQueue.state = some [] := by
    have hkeep := runSteps_keepsQueue (connectionSteps_tail_keepQueue o)
      { constructedAccount d config account with
        dispatchQueue := (constructedAccount d config account).dispatchQueue.start }
    have htail : runSteps (connectionSteps o) (constructedAccount d config account) =
        runSteps (connectionSteps o).tail { constructedAccount d config account with
          dispatchQueue := (constructedAccount d config account).dispatchQueue.start } := rfl
    rw [← htail, hrun] at hkeep
    rw [hkeep]
    rfl
  cases thrown with
  | none => exact absurd (connection_of_none hrun) hf
  | some e =>
    rw [setupAccount, setupSteps_of_constructs hc, hrun]
    simp only [setupFailed, Daemon.withAccount, AList.lookup_insert, hqueue, true_and]
    exact ⟨AList.erase_insert_of_notMem hname, rfl, rfl, rfl⟩

/-- Once the Signal half is done, what is left is the SIP half. -/
theorem setup_of_connects (hc : Constructs db config o account) (hn : Connects o account) :
    setupAccount db config o d =
      match setupSip config o ⟨config.name, d.nextSerial⟩
          (d.withAccount config o (builtAccount d config o account)) with
      | (d, some info) => (d, .escaped info)
      | (d, none) => (d.placeOutgoingCall config o, .returned true) := by
  rw [setupAccount, setupSteps_of_constructs hc, connection_ok hn]
  rfl

/-- Placing the configured call changes no table. -/
theorem placeOutgoingCall_tables (config : AccountConfig) (o : SetupOutcomes) (d : Daemon) :
    SameTables d (d.placeOutgoingCall config o) := by
  unfold Daemon.placeOutgoingCall
  split
  · exact ⟨rfl, rfl, rfl, rfl⟩
  · split
    · exact ⟨rfl, rfl, rfl, rfl⟩
    · split <;> exact ⟨rfl, rfl, rfl, rfl⟩

theorem placeOutgoingCall_tables_of {d' : Daemon} (h : SameTables d d') :
    SameTables d (d'.placeOutgoingCall config o) := by
  have hplace := placeOutgoingCall_tables config o d'
  exact ⟨hplace.g_accounts.trans h.g_accounts, hplace.g_sipAccounts.trans h.g_sipAccounts,
    hplace.g_portToAccount.trans h.g_portToAccount, hplace.transports.trans h.transports⟩

/-- Without a transport, the SIP half does nothing but start the endpoint. -/
theorem setupSip_without_transport (p : ObjPtr) (acct : AccountState)
    (h : NoTransport o d) (hs : config.hasSip = true) :
    ∃ d', setupSip config o p (d.withAccount config o acct) = (d', none) ∧
      SameTables (d.withAccount config o acct) d' := by
  refine ⟨(d.withAccount config o acct).ensureSharedEndpoint o.endpointAgain, ?_, rfl, rfl, rfl, rfl⟩
  have hnone : ((d.withAccount config o acct).ensureSharedEndpoint
      o.endpointAgain).createAccountTransport o.transportCreate =
      ((d.withAccount config o acct).ensureSharedEndpoint o.endpointAgain, none) := by
    rcases h with ⟨hep, hstart, hagain⟩ | hcreate
    · simp [Daemon.createAccountTransport, Daemon.ensureSharedEndpoint, Daemon.withAccount, hep,
        hstart, hagain]
    · unfold Daemon.createAccountTransport
      split
      · rw [hcreate]
      · rfl
  rw [setupSip, if_pos hs, hnone]

/-- A missing endpoint or transport leaves the account running without SIP. -/
theorem setup_without_sip (hc : Constructs db config o account) (hn : Connects o account)
    (hs : config.hasSip = true) (ht : NoTransport o d) :
    (setupAccount db config o d).2 = .returned true ∧
      SameTables (d.withAccount config o (builtAccount d config o account))
        (setupAccount db config o d).1 := by
  obtain ⟨d', hsip, hsame⟩ := setupSip_without_transport
    ⟨config.name, d.nextSerial⟩ (builtAccount d config o account) ht hs
  rw [setup_of_connects hc hn, hsip]
  exact ⟨rfl, placeOutgoingCall_tables_of hsame⟩

/-- The SIP half keeps the accounts, and throws only what creating the SIP account throws. -/
theorem setupSip_accounts (config : AccountConfig) (o : SetupOutcomes) (d : Daemon) (p : ObjPtr) :
    (setupSip config o p d).1.g_accounts = d.g_accounts ∧
      (o.createAccount = none → (setupSip config o p d).2 = none) := by
  have hport : ∀ (d : Daemon) (a : Option String),
      (d.recordPort a p).g_accounts = d.g_accounts := by
    intro d a
    unfold Daemon.recordPort
    split <;> rfl
  have htransport : ((d.ensureSharedEndpoint o.endpointAgain).createAccountTransport
      o.transportCreate).1.g_accounts = d.g_accounts := by
    unfold Daemon.createAccountTransport
    split
    · split <;> rfl
    · rfl
  unfold setupSip
  split
  · split
    · next hnone =>
      rw [hnone] at htransport
      exact ⟨htransport, fun _ => rfl⟩
    · next d' transportId hsome =>
      rw [hsome] at htransport
      simp only
      cases hcreate : o.createAccount with
      | some info => exact ⟨(hport _ _).trans htransport, fun hno => by cases hno⟩
      | none => exact ⟨(hport _ _).trans htransport, fun _ => rfl⟩
  · exact ⟨rfl, fun _ => rfl⟩

/-- Unless creating the SIP account throws, a finished Signal half means success, and the account is
the one that its configuration and its row describe. -/
theorem setup_succeeded (hc : Constructs db config o account) (hn : Connects o account)
    (hcreate : o.createAccount = none) :
    (setupAccount db config o d).2 = .returned true ∧
      (setupAccount db config o d).1.g_accounts =
        d.g_accounts.insert config.name (builtAccount d config o account) := by
  obtain ⟨haccounts, hnone⟩ := setupSip_accounts config o
    (d.withAccount config o (builtAccount d config o account)) ⟨config.name, d.nextSerial⟩
  obtain ⟨d', thrown, hrun⟩ : ∃ d' thrown, setupSip config o ⟨config.name, d.nextSerial⟩
      (d.withAccount config o (builtAccount d config o account)) = (d', thrown) := ⟨_, _, rfl⟩
  rw [hrun] at haccounts hnone
  obtain rfl : thrown = none := hnone hcreate
  rw [setup_of_connects hc hn, hrun]
  exact ⟨rfl, (placeOutgoingCall_tables config o d').g_accounts.trans haccounts⟩

/-- With the dispatch queue running, a failure of the Signal half is all or nothing. After it the
account is there; without a transport, the SIP tables are what they were. -/
theorem setup_atomic_or_without_sip (hname : config.name ∉ d.g_accounts)
    (hc : Constructs db config o account) :
    (¬ Connects o account →
      (setupAccount db config o d).2 = .returned false ∧
        SameTables d (setupAccount db config o d).1) ∧
    (Connects o account → config.hasSip = true → NoTransport o d →
      (setupAccount db config o d).2 = .returned true ∧
        SameTables (d.withAccount config o (builtAccount d config o account))
          (setupAccount db config o d).1) ∧
    (Connects o account → o.createAccount = none →
      (setupAccount db config o d).2 = .returned true ∧
        (setupAccount db config o d).1.g_accounts =
          d.g_accounts.insert config.name (builtAccount d config o account)) := by
  refine ⟨?_, ?_, ?_⟩
  · intro hf
    exact setup_failed hname hc hf
  · intro hn hs ht
    exact setup_without_sip hc hn hs ht
  · intro hn hcreate
    exact setup_succeeded hc hn hcreate

end Setup

/-! ## An account whose transport cannot be made -/

/-- A registered account with a SIP trunk. -/
def trunkRecord : AccountRecord :=
  { e164 := "+380000000003", aci := "a", pni := "p", password := "w", sipHost := "pbx",
    sipExtension := "100" }

def trunkDb : Db := { account := AList.insert "line3" trunkRecord ∅ }

def trunkConfig : AccountConfig := configOfRecord "line3" trunkRecord

def idleDaemon : Daemon := { g_global := { dbPath := "db", dbKey := "k" } }

theorem trunk_constructs (o : SetupOutcomes) (ho : o.openStorage = none)
    (hl : o.loadAccount = .quiet) (hm : o.callManager = true) (hs : o.authSocket = none) :
    Constructs trunkDb trunkConfig o trunkRecord where
  storage := ho
  account := by rw [hl]; decide
  callManager := hm
  proxy := ⟨none, rfl⟩
  socket := hs

/-- The prekey upload fails and the daemon is as idle as before; the transport fails and only the
account is new; nothing fails and the account runs. -/
theorem setup_atomic_or_without_sip_trunk :
    ((setupAccount trunkDb trunkConfig { refreshPrekeys := some ⟨"timeout"⟩ } idleDaemon).2 =
        .returned false ∧
      SameTables idleDaemon
        (setupAccount trunkDb trunkConfig { refreshPrekeys := some ⟨"timeout"⟩ } idleDaemon).1) ∧
    ((setupAccount trunkDb trunkConfig { transportCreate := none } idleDaemon).2 =
        .returned true ∧
      SameTables (idleDaemon.withAccount trunkConfig { transportCreate := none }
          (builtAccount idleDaemon trunkConfig { transportCreate := none } trunkRecord))
        (setupAccount trunkDb trunkConfig { transportCreate := none } idleDaemon).1) ∧
    (setupAccount trunkDb trunkConfig {} idleDaemon).2 = .returned true := by
  have hidle : trunkConfig.name ∉ idleDaemon.g_accounts := by decide
  refine ⟨?_, ?_, ?_⟩
  · exact (setup_atomic_or_without_sip hidle (trunk_constructs _ rfl rfl rfl rfl)).1
      fun h => by cases h.prekeys
  · exact (setup_atomic_or_without_sip hidle (trunk_constructs _ rfl rfl rfl rfl)).2.1
      ⟨rfl, rfl, fun _ => rfl⟩ (by decide) (.inr rfl)
  · exact ((setup_atomic_or_without_sip hidle (trunk_constructs _ rfl rfl rfl rfl)).2.2
      ⟨rfl, rfl, fun _ => rfl⟩ rfl).1

/-- Only the transport fails: the setup returns true, and the account runs. -/
theorem refused_transport_keeps_account :
    ¬ ((setupAccount trunkDb trunkConfig { transportCreate := none } idleDaemon).2 =
        .returned false ∧
      SameTables idleDaemon
        (setupAccount trunkDb trunkConfig { transportCreate := none } idleDaemon).1) := by
  rintro ⟨hend, -⟩
  exact absurd hend (by decide)

end Signal2sip
