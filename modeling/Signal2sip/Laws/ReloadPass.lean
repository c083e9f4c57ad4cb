import Signal2sip.Daemon.Reload
import Signal2sip.Laws.CallSteps
import Signal2sip.Lib.Reconcile

/-!
# What one reload does

A reload is one pass of keyed reconciliation over the accounts' names. What is wanted are the loaded
configurations, and a running account is taken for current when it was set up with the
`config_version` that was loaded.

- `mem_load_accounts`: a configuration is loaded when its row was read (`RowRead`), is enabled and is
  accepted;
- `teardown_lookup`, `startAccount_cases`, `startAccount_lookup_ne`: what the two operations do to the
  table of accounts, at the account's own name and elsewhere;
- `reload_pass`: the pass.
-/

namespace Signal2sip

open Sqlite (Faults rowsFrom)
open Reconcile (Pass Framed EachStep)

/-! ## The rows that a load reads -/

section Load

variable {db : Db} {f : LoadFaults} {name : String} {record : AccountRecord}

theorem mem_accountsByName : (name, record) ∈ db.accountsByName ↔ db.row name = some record := by
  constructor
  · intro h
    obtain ⟨name', -, h⟩ := List.mem_filterMap.mp h
    obtain ⟨record', hrow, heq⟩ := Option.map_eq_some_iff.mp h
    cases heq
    exact hrow
  · intro hrow
    refine List.mem_filterMap.mpr ⟨name, (List.mem_insertionSort _).mpr ?_, by rw [hrow]; rfl⟩
    exact AList.lookup_isSome.mp (Option.isSome_iff_exists.mpr ⟨record, hrow⟩)

theorem accountsByName_names :
    db.accountsByName.map Prod.fst = db.account.keys.insertionSort (· ≤ ·) := by
  rw [Db.accountsByName, List.map_filterMap]
  have hkey : ∀ name ∈ db.account.keys.insertionSort (· ≤ ·),
      Option.map Prod.fst ((db.row name).map (name, ·)) = some name := by
    intro name hname
    obtain ⟨record, hrow⟩ := Option.isSome_iff_exists.mp
      (AList.lookup_isSome.mpr ((List.mem_insertionSort _).mp hname))
    simp [Db.row, hrow]
  rw [List.filterMap_congr hkey, List.filterMap_some]

theorem accountsByName_nodup (db : Db) : (db.accountsByName.map Prod.fst).Nodup := by
  rw [accountsByName_names]
  exact (List.perm_insertionSort _ _).nodup_iff.mpr db.account.keys_nodup

/-- A load reads a row: the listing comes to it before a step fails, and the account's own open and
statement do not fail. -/
structure RowRead (db : Db) (f : LoadFaults) (name : String) (record : AccountRecord) : Prop where
  listed : ∃ n, db.accountsByName[n]? = some (name, record) ∧ ∀ j ≤ n, f.list.step j = none
  opened : f.accountOpen name = none
  prepared : (f.account name).prepare = none
  stepped : (f.account name).step 0 = none

theorem RowRead.row (h : RowRead db f name record) : db.row name = some record := by
  obtain ⟨n, hn, -⟩ := h.listed
  exact mem_accountsByName.mp (List.mem_of_getElem? hn)

/-- A configuration that a load may collect, with the row it is made of. -/
structure Loads (db : Db) (f : LoadFaults) (config : AccountConfig) (record : AccountRecord) :
    Prop where
  read : RowRead db f config.name record
  enabled : record.enabled = true
  accepted : accountConfigFromRecord config.name record = .ok config

theorem Loads.config_eq {config : AccountConfig} (h : Loads db f config record) :
    config = configOfRecord config.name record := accountConfigFromRecord_ok h.accepted

theorem Loads.configVersion {config : AccountConfig} (h : Loads db f config record) :
    config.configVersion = record.configVersion := by
  rw [h.config_eq]
  rfl

/-- With nothing failing, every enabled and accepted row is loaded. -/
theorem loads_quiet {config : AccountConfig} (hrow : db.row name = some record)
    (henabled : record.enabled = true)
    (haccepted : accountConfigFromRecord name record = .ok config) :
    Loads db .quiet config record := by
  obtain rfl := accountConfigFromRecord_name haccepted
  obtain ⟨n, hn⟩ := List.mem_iff_getElem?.mp (mem_accountsByName.mpr hrow)
  exact ⟨⟨⟨n, hn, fun _ _ => rfl⟩, rfl, rfl, rfl⟩, henabled, haccepted⟩

/-- What loading one account means. -/
theorem loadAccountConfig_ok_iff {config : AccountConfig} :
    loadAccountConfig db f name = .ok config ↔
      f.accountOpen name = none ∧ (f.account name).prepare = none ∧
        (f.account name).step 0 = none ∧
        ∃ record, db.row name = some record ∧ accountConfigFromRecord name record = .ok config := by
  unfold loadAccountConfig
  cases f.accountOpen name with
  | some e => simp
  | none =>
    simp only [true_and]
    constructor
    · intro h
      cases hload : (Storage.loadAccount db name (f.account name)).value with
      | error e =>
        rw [hload] at h
        cases h
      | ok record =>
        rw [hload] at h
        obtain ⟨hprepare, hstep, hrow⟩ := Storage.loadAccount_ok_iff.mp hload
        exact ⟨hprepare, hstep, record, hrow, h⟩
    · rintro ⟨hprepare, hstep, record, hrow, haccepted⟩
      rw [Storage.loadAccount_ok_iff.mpr ⟨hprepare, hstep, hrow⟩]
      exact haccepted

theorem loadAccountConfig_name {config : AccountConfig}
    (h : loadAccountConfig db f name = .ok config) : config.name = name := by
  obtain ⟨-, -, -, record, -, haccepted⟩ := loadAccountConfig_ok_iff.mp h
  exact accountConfigFromRecord_name haccepted

/-- What a load without an exception is: the file was read, the listing was opened and prepared, and
the accounts are those of the rows that the listing came to. -/
theorem load_ok_iff {file : Except RuntimeError GlobalConfig} {newConfig : DaemonConfig} :
    DaemonConfig.load file db f = .ok newConfig ↔
      file = .ok newConfig.global ∧ f.listOpen = none ∧ f.list.prepare = none ∧
        newConfig.accounts =
          loadAccounts db f ((rowsFrom f.list 0 db.accountsByName).2.map AccountSummary.ofRow) := by
  unfold DaemonConfig.load listAllAccounts listAllAccountsRows Sqlite.collectRows
  cases file with
  | error e => simp [Except.bind]
  | ok global =>
    cases f.listOpen with
    | some e => simp [Except.bind, Except.map]
    | none =>
      cases f.list.prepare with
      | some e => simp [Except.bind, Except.map]
      | none =>
        cases newConfig
        simp [Except.bind, Except.map, eq_comm]

/-- The configurations that a load collects. -/
theorem mem_load_accounts {file : Except RuntimeError GlobalConfig} {newConfig : DaemonConfig}
    (h : DaemonConfig.load file db f = .ok newConfig) {config : AccountConfig} :
    config ∈ newConfig.accounts ↔ ∃ record, Loads db f config record := by
  obtain ⟨-, -, -, haccounts⟩ := load_ok_iff.mp h
  rw [haccounts, loadAccounts, List.mem_filterMap]
  constructor
  · rintro ⟨summary, hsummary, hconfig⟩
    obtain ⟨⟨name, record⟩, hrow, rfl⟩ := List.mem_map.mp hsummary
    obtain ⟨n, hn, hsilent⟩ := Sqlite.mem_rowsFrom_iff.mp hrow
    split at hconfig
    · next henabled =>
      cases hload : loadAccountConfig db f name with
      | error e =>
        rw [AccountSummary.ofRow, hload] at hconfig
        cases hconfig
      | ok config' =>
        rw [AccountSummary.ofRow, hload] at hconfig
        cases hconfig
        have hname := loadAccountConfig_name hload
        obtain ⟨hopened, hprepared, hstepped, record', hrow', haccepted⟩ :=
          loadAccountConfig_ok_iff.mp hload
        have hrecord : record' = record := Option.some.inj (hrow'.symm.trans
          (mem_accountsByName.mp (List.mem_of_getElem? hn)))
        subst hname hrecord
        refine ⟨record', ⟨⟨n, hn, fun j hj => ?_⟩, hopened, hprepared, hstepped⟩, henabled, haccepted⟩
        simpa using hsilent j hj
    · cases hconfig
  · rintro ⟨record, ⟨⟨n, hn, hsilent⟩, hopened, hprepared, hstepped⟩, henabled, haccepted⟩
    refine ⟨AccountSummary.ofRow (config.name, record), List.mem_map_of_mem ?_, ?_⟩
    · exact Sqlite.mem_rowsFrom_iff.mpr ⟨n, hn, fun j hj => by simpa using hsilent j hj⟩
    · have hload : loadAccountConfig db f config.name = .ok config :=
        loadAccountConfig_ok_iff.mpr ⟨hopened, hprepared, hstepped, record,
          mem_accountsByName.mp (List.mem_of_getElem? hn), haccepted⟩
      simp [AccountSummary.ofRow, henabled, hload, Except.toOption]

/-- No two loaded configurations have one name. -/
theorem load_names_nodup {file : Except RuntimeError GlobalConfig} {newConfig : DaemonConfig}
    (h : DaemonConfig.load file db f = .ok newConfig) :
    (newConfig.accounts.map (·.name)).Nodup := by
  obtain ⟨-, -, -, haccounts⟩ := load_ok_iff.mp h
  have hsublist : ∀ summaries : List AccountSummary,
      ((loadAccounts db f summaries).map (·.name)).Sublist (summaries.map (·.accountName)) := by
    intro summaries
    induction summaries with
    | nil => exact List.Sublist.slnil
    | cons summary summaries ih =>
      rw [loadAccounts, List.filterMap_cons]
      split
      · exact ih.cons summary.accountName
      · next config hconfig =>
        have hname : config.name = summary.accountName := by
          split at hconfig
          · cases hload : loadAccountConfig db f summary.accountName with
            | error e =>
              rw [hload] at hconfig
              cases hconfig
            | ok config' =>
              rw [hload] at hconfig
              cases hconfig
              exact loadAccountConfig_name hload
          · cases hconfig
        rw [List.map_cons, List.map_cons, hname]
        exact ih.cons_cons summary.accountName
  have hnames : ∀ rows : List (String × AccountRecord),
      (rows.map AccountSummary.ofRow).map (·.accountName) = rows.map Prod.fst := by
    intro rows
    rw [List.map_map]
    rfl
  rw [haccounts]
  refine (hsublist _).nodup ?_
  rw [hnames]
  exact (((Sqlite.rowsFrom_prefix f.list _ 0).sublist.map Prod.fst).nodup) (accountsByName_nodup db)

end Load

/-! ## What tearing down and setting up do to the accounts -/

section Operations

variable {db : Db} {config : AccountConfig} {d d' : Daemon}

/-- After a teardown the account is gone, and the others are as before. -/
theorem teardown_lookup (d : Daemon) (name : String) (closes : Bool) (name' : String) :
    (d.teardown name closes).g_accounts.lookup name' =
      if name' = name then none else d.g_accounts.lookup name' := by
  by_cases hrunning : name ∈ d.g_accounts
  · obtain ⟨ts, more, hrun, -⟩ := exec_teardownAccount hrunning closes d
    rw [Daemon.teardown, hrun]
    split
    · next hname => rw [hname, AList.lookup_erase]
    · next hname => rw [AList.lookup_erase_ne hname, legless_lookup_ne hname]
  · rw [Daemon.teardown, teardownAccount, if_neg hrunning]
    split
    · next hname => rw [hname]; exact AList.lookup_eq_none.mpr hrunning
    · rfl

/-- The record of an account under construction is the database's row. -/
theorem Constructs.row {o : SetupOutcomes} {account : AccountRecord}
    (h : Constructs db config o account) : db.row config.name = some account :=
  (Storage.loadAccount_ok_iff.mp h.account).2.2

/-- A setup that returns puts the account it built into the table, or leaves the table alone. -/
theorem startAccount_cases {o : SetupOutcomes} (hname : config.name ∉ d.g_accounts)
    (h : d.startAccount db config o = some d') :
    ∃ account, Constructs db config o account ∧
      ((¬ Connects o account ∧ (setupAccount db config o d).2 = .returned false ∧
          d'.g_accounts = d.g_accounts) ∨
        (Connects o account ∧ (setupAccount db config o d).2 = .returned true ∧
          d'.g_accounts = d.g_accounts.insert config.name (builtAccount d config o account))) := by
  unfold Daemon.startAccount at h
  split at h
  · next d₁ ok hrun =>
    cases h
    by_cases hc : ∃ account, Constructs db config o account
    · obtain ⟨account, hc⟩ := hc
      refine ⟨account, hc, ?_⟩
      by_cases hn : Connects o account
      · -- the Signal half is done, and the SIP half has not thrown
        have haccounts := (setupSip_accounts config o
          (d.withAccount config o (builtAccount d config o account)) ⟨config.name, d.nextSerial⟩).1
        rw [setup_of_connects hc hn] at hrun ⊢
        split at hrun
        · cases hrun
        · next d₂ hsip =>
          rw [hsip] at haccounts
          obtain ⟨rfl, -⟩ := Prod.mk.inj hrun
          refine .inr ⟨hn, rfl, ?_⟩
          exact (placeOutgoingCall_tables config o d₂).g_accounts.trans haccounts
      · obtain ⟨hend, htables⟩ := setup_failed hname hc hn
        rw [hrun] at htables
        exact .inl ⟨hn, hend, htables.g_accounts⟩
    · have hundefined := setup_undefined (d := d) (not_exists.mp hc)
      rw [hrun] at hundefined
      cases hundefined
  · cases h

theorem startAccount_lookup_ne {o : SetupOutcomes} (hname : config.name ∉ d.g_accounts)
    (h : d.startAccount db config o = some d') {name : String} (hne : name ≠ config.name) :
    d'.g_accounts.lookup name = d.g_accounts.lookup name := by
  obtain ⟨account, -, ⟨-, -, haccounts⟩ | ⟨-, -, haccounts⟩⟩ := startAccount_cases hname h
  · rw [haccounts]
  · rw [haccounts, AList.lookup_insert_ne hne]

end Operations

/-! ## The two loops -/

section Reload

variable {file : Except RuntimeError GlobalConfig} {db : Db} {f : LoadFaults} {o : ReloadOutcomes}
  {d d' : Daemon} {config : AccountConfig} {accounts : List AccountConfig} {name : String}

/-- The running account was set up with the `config_version` of the configuration. -/
def Current (acct : AccountState) (config : AccountConfig) : Prop :=
  acct.config.configVersion = config.configVersion

theorem teardowns_lookup (names : List String) (d : Daemon) :
    (names.foldl (fun d name => d.teardown name (o.closes name)) d).g_accounts.lookup name =
      if name ∈ names then none else d.g_accounts.lookup name := by
  induction names generalizing d with
  | nil => rfl
  | cons name' names ih =>
    rw [List.foldl_cons, ih, teardown_lookup]
    by_cases hname : name = name'
    · simp [hname]
    · simp [hname]

/-- The first loop leaves the accounts that were loaded. -/
theorem removeAccounts_lookup :
    (d.removeAccounts accounts o).g_accounts.lookup name =
      if ∃ config ∈ accounts, config.name = name then d.g_accounts.lookup name else none := by
  rw [Daemon.removeAccounts, teardowns_lookup]
  by_cases hloaded : ∃ config ∈ accounts, config.name = name
  · rw [if_pos hloaded, if_neg]
    obtain ⟨config, hconfig, hname⟩ := hloaded
    intro hmem
    have hall := List.all_eq_true.mp (List.mem_filter.mp hmem).2 config hconfig
    simp [hname] at hall
  · rw [if_neg hloaded]
    split
    · rfl
    · next hmem =>
      refine AList.lookup_eq_none.mpr fun hrunning => hmem (List.mem_filter.mpr ⟨?_, ?_⟩)
      · exact (List.mem_insertionSort _).mpr hrunning
      · exact List.all_eq_true.mpr fun config hconfig => by
          simpa using fun hname => hloaded ⟨config, hconfig, hname⟩

/-- The daemon in which the body of the second loop calls `setupAccount`, if it does. -/
def setupState (o : ReloadOutcomes) (d : Daemon) (config : AccountConfig) : Option Daemon :=
  match d.g_accounts.lookup config.name with
  | none => some d
  | some acct =>
    if acct.config.configVersion ≠ config.configVersion then
      some (d.teardown config.name (o.closes config.name))
    else none

theorem reloadAccount_eq :
    reloadAccount db o d config =
      match setupState o d config with
      | none => some d
      | some d₁ => d₁.startAccount db config (o.setups config.name) := by
  unfold reloadAccount setupState
  cases d.g_accounts.lookup config.name with
  | none => rfl
  | some acct =>
    simp only
    split <;> rfl

/-- No setup is called for an account that is current. -/
theorem setupState_eq_none_iff :
    setupState o d config = none ↔
      ∃ acct, d.g_accounts.lookup config.name = some acct ∧ Current acct config := by
  unfold setupState Current
  cases d.g_accounts.lookup config.name with
  | none => simp
  | some acct => simp

/-- A setup is called without the account, and next to the other ones. -/
theorem setupState_lookup {d₁ : Daemon} (h : setupState o d config = some d₁) :
    config.name ∉ d₁.g_accounts ∧
      ∀ name, name ≠ config.name → d₁.g_accounts.lookup name = d.g_accounts.lookup name := by
  unfold setupState at h
  split at h
  · next hnone =>
    cases h
    exact ⟨AList.lookup_eq_none.mp hnone, fun _ _ => rfl⟩
  · split at h
    · cases h
      refine ⟨AList.lookup_eq_none.mp ?_, fun name hne => ?_⟩
      · rw [teardown_lookup, if_pos rfl]
      · rw [teardown_lookup, if_neg hne]
    · cases h

theorem reloadAccount_framed :
    Framed (reloadAccount db o) (·.name) fun d name => d.g_accounts.lookup name := by
  intro d config d' hstep name hne
  rw [reloadAccount_eq] at hstep
  split at hstep
  · cases hstep
    rfl
  · next d₁ hd₁ =>
    obtain ⟨hname, hothers⟩ := setupState_lookup hd₁
    exact (startAccount_lookup_ne hname hstep hne).trans (hothers name hne)

/-- The setup that the body of the second loop calls, if any, returns true. -/
def SetupSucceeds (db : Db) (o : ReloadOutcomes) (d : Daemon) (config : AccountConfig) : Prop :=
  ∀ d₁, setupState o d config = some d₁ →
    (setupAccount db config (o.setups config.name) d₁).2 = .returned true

/-- Every setup of a reload returns true. -/
def SetupsSucceed (file : Except RuntimeError GlobalConfig) (db : Db) (f : LoadFaults)
    (o : ReloadOutcomes) (d : Daemon) : Prop :=
  ∀ newConfig, DaemonConfig.load file db f = .ok newConfig →
    EachStep (reloadAccount db o) (SetupSucceeds db o)
      ({ d with g_global := newConfig.global }.removeAccounts newConfig.accounts o)
      newConfig.accounts

/-- When no call outside the program fails, the setups of a reload that returns succeed. -/
theorem setupsSucceed_of_returns (hrun : reloadConfig file db f {} d = some d') :
    SetupsSucceed file db f {} d := by
  intro newConfig hload
  rw [reloadConfig, hload] at hrun
  refine Reconcile.eachStep_of_run (fun d₁ config d₂ hstep d₃ hd₃ => ?_) hrun
  rw [reloadAccount_eq, hd₃] at hstep
  obtain ⟨account, -, ⟨hfails, -⟩ | ⟨-, hend, -⟩⟩ :=
    startAccount_cases (setupState_lookup hd₃).1 hstep
  · exact absurd ⟨rfl, rfl, fun _ => rfl⟩ hfails
  · exact hend

/-- What can come of a setup: the account with the given configuration and the row of the database,
or no account, but not when the setups succeed. -/
def Built (db : Db) (succeed : Prop) (name : String) (config : AccountConfig)
    (acct : Option AccountState) : Prop :=
  (acct = none ∧ ¬ succeed) ∨ ∃ a, acct = some a ∧ a.config = config ∧ db.row name = some a.account

/-- What was loaded for an account. -/
def wantedAccount (accounts : List AccountConfig) (name : String) : Option AccountConfig :=
  accounts.find? fun config => config.name = name

theorem wantedAccount_eq_some_iff (hnodup : (accounts.map (·.name)).Nodup) :
    wantedAccount accounts name = some config ↔ config ∈ accounts ∧ config.name = name := by
  constructor
  · intro h
    exact ⟨List.mem_of_find?_eq_some h, by simpa using List.find?_some h⟩
  · rintro ⟨hmem, rfl⟩
    cases hfound : wantedAccount accounts config.name with
    | none => exact absurd (List.find?_eq_none.mp hfound config hmem) (by simp)
    | some config' =>
      have hname : config'.name = config.name := by simpa using List.find?_some hfound
      exact congrArg some (List.inj_on_of_nodup_map hnodup (List.mem_of_find?_eq_some hfound) hmem hname)

/-- A reload that reads the configuration and returns is one pass over the accounts. -/
theorem reload_pass {newConfig : DaemonConfig} (hload : DaemonConfig.load file db f = .ok newConfig)
    (hrun : reloadConfig file db f o d = some d') :
    Pass Current (Built db (SetupsSucceed file db f o d)) (wantedAccount newConfig.accounts)
      (fun name => d.g_accounts.lookup name) (fun name => d'.g_accounts.lookup name) := by
  have hnodup := load_names_nodup hload
  rw [reloadConfig, hload] at hrun
  have hremoved : ∀ name config, wantedAccount newConfig.accounts name = some config →
      ({ d with g_global := newConfig.global }.removeAccounts newConfig.accounts o).g_accounts.lookup
        name = d.g_accounts.lookup name := by
    intro name config hwanted
    rw [removeAccounts_lookup, if_pos]
    exact ⟨config, (wantedAccount_eq_some_iff hnodup).mp hwanted⟩
  have hat : ∀ name config, wantedAccount newConfig.accounts name = some config →
      ∃ d₁ d₂, d₁.g_accounts.lookup name = d.g_accounts.lookup name ∧
        (SetupsSucceed file db f o d → SetupSucceeds db o d₁ config) ∧
        reloadAccount db o d₁ config = some d₂ ∧
        d'.g_accounts.lookup name = d₂.g_accounts.lookup name := by
    intro name config hwanted
    obtain ⟨hmem, rfl⟩ := (wantedAccount_eq_some_iff hnodup).mp hwanted
    have hsteps : EachStep (reloadAccount db o)
        (fun d₁ config => SetupsSucceed file db f o d → SetupSucceeds db o d₁ config)
        ({ d with g_global := newConfig.global }.removeAccounts newConfig.accounts o)
        newConfig.accounts := by
      by_cases hall : SetupsSucceed file db f o d
      · exact (hall newConfig hload).imp fun _ _ hsucceeds _ => hsucceeds
      · exact Reconcile.eachStep_of_run (fun _ _ _ _ hyes => absurd hyes hall) hrun
    obtain ⟨d₁, d₂, hbefore, hsucceeds, hstep, hafter⟩ :=
      Reconcile.loop_at reloadAccount_framed hrun hsteps hnodup hmem
    exact ⟨d₁, d₂, hbefore.trans (hremoved _ _ hwanted), hsucceeds, hstep, hafter⟩
  refine ⟨fun name hwanted => ?_, fun name config acct hwanted hbefore hcurrent => ?_,
    fun name config hwanted hnot => ?_⟩
  · have hnone : ∀ config ∈ newConfig.accounts, name ≠ config.name := by
      rintro config hmem rfl
      rw [(wantedAccount_eq_some_iff hnodup).mpr ⟨hmem, rfl⟩] at hwanted
      cases hwanted
    have hend := Reconcile.loop_elsewhere reloadAccount_framed hrun hnone
    rw [hend, removeAccounts_lookup, if_neg]
    rintro ⟨config, hmem, rfl⟩
    exact hnone config hmem rfl
  · obtain ⟨d₁, d₂, hbefore', -, hstep, hafter⟩ := hat name config hwanted
    obtain ⟨-, rfl⟩ := (wantedAccount_eq_some_iff hnodup).mp hwanted
    have hnosetup : setupState o d₁ config = none :=
      setupState_eq_none_iff.mpr ⟨acct, hbefore'.trans hbefore, hcurrent⟩
    rw [reloadAccount_eq, hnosetup] at hstep
    cases hstep
    exact hafter.trans (hbefore'.trans hbefore)
  · obtain ⟨d₁, d₂, hbefore', hsucceeds, hstep, hafter⟩ := hat name config hwanted
    obtain ⟨-, rfl⟩ := (wantedAccount_eq_some_iff hnodup).mp hwanted
    cases hsetup : setupState o d₁ config with
    | none =>
      obtain ⟨acct, hacct, hcurrent⟩ := setupState_eq_none_iff.mp hsetup
      exact absurd hcurrent (hnot acct (hbefore'.symm.trans hacct))
    | some d₃ =>
      obtain ⟨hname, -⟩ := setupState_lookup hsetup
      rw [reloadAccount_eq, hsetup] at hstep
      obtain ⟨account, hc, ⟨-, hend, haccounts⟩ | ⟨-, -, haccounts⟩⟩ := startAccount_cases hname hstep
      · refine .inl ⟨?_, fun hall => ?_⟩
        · rw [hafter, haccounts]
          exact AList.lookup_eq_none.mpr hname
        · have htrue := hsucceeds hall d₃ hsetup
          rw [hend] at htrue
          cases htrue
      · refine .inr ⟨builtAccount d₃ config (o.setups config.name) account, ?_, rfl, hc.row⟩
        rw [hafter, haccounts, AList.lookup_insert]

end Reload

end Signal2sip
