import Signal2sip.Laws.ReloadPass

/-!
# Read failures and the running accounts

A reload takes down what the database no longer wants, so a row that it could not read must not pass
for a row that is gone. It does in two places: the loop of `listAllAccounts` ends at any result but a
row, which shortens the list, and an exception of one account's `Storage` skips that account.

- `KeepsHealthyAccounts` is the law for one reload, whatever its setups and teardowns come to;
- `reload_of_nothingRead`: an exception of the load itself keeps everything;
- `reload_of_readsWhatRuns`: so does a load that collects just what runs;
- `keepsHealthyAccounts_iff`: apart from a complete read, these are the only cases in which the law
  holds.
-/

namespace Signal2sip

open Sqlite (Faults)

section ReadFailures

variable {file : Except RuntimeError GlobalConfig} {db : Db} {f : LoadFaults} {o : ReloadOutcomes}
  {d d' : Daemon} {name : String}

/-- What in the database speaks for taking a running account down: its row is absent, disabled, not
accepted, or of another `config_version`. -/
def Unhealthy (db : Db) (name : String) (acct : AccountState) : Prop :=
  ∀ record config, db.row name = some record → record.enabled = true →
    accountConfigFromRecord name record = .ok config → ¬ Current acct config

/-- No open, prepare or step of the load fails. -/
structure ReadComplete (db : Db) (f : LoadFaults) : Prop where
  listOpen : f.listOpen = none
  prepare : f.list.prepare = none
  list : ∀ j ≤ db.accountsByName.length, f.list.step j = none
  accounts : ∀ name record, db.row name = some record → record.enabled = true →
    f.accountOpen name = none ∧ (f.account name).prepare = none ∧ (f.account name).step 0 = none

/-- A running account is taken down for what its row says only, and an incomplete read leaves the
running accounts as they are. -/
structure KeepsHealthyAccounts (file : Except RuntimeError GlobalConfig) (db : Db) (f : LoadFaults)
    (d : Daemon) : Prop where
  healthy : ∀ o d', reloadConfig file db f o d = some d' → ∀ name acct,
    d.g_accounts.lookup name = some acct → d'.g_accounts.lookup name ≠ some acct →
      Unhealthy db name acct
  incomplete : ¬ ReadComplete db f → ∀ o, ∃ d', reloadConfig file db f o d = some d' ∧
    ∀ name, d'.g_accounts.lookup name = d.g_accounts.lookup name

/-- The load throws before it reads a row. -/
def NothingRead (file : Except RuntimeError GlobalConfig) (f : LoadFaults) : Prop :=
  (∃ e, file = .error e) ∨ f.listOpen ≠ none ∨ f.list.prepare ≠ none

/-- The rows that are read are those of the running accounts, and the running accounts are current. -/
structure ReadsWhatRuns (db : Db) (f : LoadFaults) (d : Daemon) : Prop where
  running : ∀ name acct, d.g_accounts.lookup name = some acct →
    ∃ config record, config.name = name ∧ Loads db f config record ∧ Current acct config
  others : ∀ config record, Loads db f config record → config.name ∈ d.g_accounts

theorem load_of_not_nothingRead (db : Db) (h : ¬ NothingRead file f) :
    ∃ newConfig, DaemonConfig.load file db f = .ok newConfig := by
  obtain ⟨hfile, hopen, hprepare⟩ :
      (∀ e, file ≠ .error e) ∧ f.listOpen = none ∧ f.list.prepare = none := by
    refine ⟨fun e he => h (.inl ⟨e, he⟩), ?_, ?_⟩
    · by_contra hopen
      exact h (.inr (.inl hopen))
    · by_contra hprepare
      exact h (.inr (.inr hprepare))
  cases file with
  | error e => exact absurd rfl (hfile e)
  | ok global => exact ⟨⟨global, _⟩, load_ok_iff.mpr ⟨rfl, hopen, hprepare, rfl⟩⟩

theorem reload_of_nothingRead (h : NothingRead file f) : reloadConfig file db f o d = some d := by
  cases hload : DaemonConfig.load file db f with
  | error e => rw [reloadConfig, hload]
  | ok newConfig =>
    obtain ⟨hfile, hopen, hprepare, -⟩ := load_ok_iff.mp hload
    rcases h with ⟨e, he⟩ | hopen' | hprepare'
    · rw [he] at hfile
      cases hfile
    · exact absurd hopen hopen'
    · exact absurd hprepare hprepare'

/-- The second loop does nothing for accounts that are current. -/
theorem reloadAccounts_of_current {accounts : List AccountConfig}
    (h : ∀ config ∈ accounts,
      ∃ acct, d.g_accounts.lookup config.name = some acct ∧ Current acct config) :
    accounts.foldlM (reloadAccount db o) d = some d := by
  induction accounts with
  | nil => rfl
  | cons config accounts ih =>
    have hsame : reloadAccount db o d config = some d := by
      rw [reloadAccount_eq, setupState_eq_none_iff.mpr (h config List.mem_cons_self)]
    refine Reconcile.loop_cons.mpr ⟨d, hsame, ih fun config' hconfig' => ?_⟩
    exact h config' (List.mem_cons_of_mem config hconfig')

/-- A load that collects what runs leaves nothing to do. -/
theorem reload_of_readsWhatRuns (h : ReadsWhatRuns db f d) {newConfig : DaemonConfig}
    (hload : DaemonConfig.load file db f = .ok newConfig) :
    reloadConfig file db f o d = some { d with g_global := newConfig.global } := by
  have hnothing : { d with g_global := newConfig.global }.removeAccounts newConfig.accounts o =
      { d with g_global := newConfig.global } := by
    rw [Daemon.removeAccounts, List.filter_eq_nil_iff.mpr]
    · rfl
    · intro name hname hall
      have hmem : name ∈ d.g_accounts := (List.mem_insertionSort _).mp hname
      obtain ⟨acct, hacct⟩ := Option.isSome_iff_exists.mp (AList.lookup_isSome.mpr hmem)
      obtain ⟨config, record, rfl, hloads, -⟩ := h.running name acct hacct
      have hne := List.all_eq_true.mp hall config ((mem_load_accounts hload).mpr ⟨record, hloads⟩)
      simp at hne
  rw [reloadConfig, hload]
  simp only [hnothing]
  apply reloadAccounts_of_current
  intro config hconfig
  obtain ⟨record, hloads⟩ := (mem_load_accounts hload).mp hconfig
  obtain ⟨acct, hacct⟩ := Option.isSome_iff_exists.mp
    (AList.lookup_isSome.mpr (h.others config record hloads))
  obtain ⟨config', record', hname, hloads', hcurrent⟩ := h.running config.name acct hacct
  have hrow : db.row config.name = some record' := hname ▸ hloads'.read.row
  have hrecord : record' = record := Option.some.inj (hrow.symm.trans hloads.read.row)
  refine ⟨acct, hacct, hcurrent.trans ?_⟩
  rw [hloads'.configVersion, hloads.configVersion, hrecord]

/-- With a complete read, an account that is taken down is unhealthy. -/
theorem unhealthy_of_complete (hcomplete : ReadComplete db f)
    (hrun : reloadConfig file db f o d = some d') {acct : AccountState}
    (hacct : d.g_accounts.lookup name = some acct)
    (hgone : d'.g_accounts.lookup name ≠ some acct) : Unhealthy db name acct := by
  intro record config hrow henabled haccepted hcurrent
  by_cases hread : NothingRead file f
  · rw [reload_of_nothingRead hread] at hrun
    cases hrun
    exact hgone hacct
  · obtain ⟨newConfig, hload⟩ := load_of_not_nothingRead db hread
    obtain rfl := accountConfigFromRecord_name haccepted
    obtain ⟨n, hn⟩ := List.mem_iff_getElem?.mp (mem_accountsByName.mpr hrow)
    have hlength : n < db.accountsByName.length := (List.getElem?_eq_some_iff.mp hn).1
    obtain ⟨hopened, hprepared, hstepped⟩ := hcomplete.accounts config.name record hrow henabled
    have hloads : Loads db f config record :=
      ⟨⟨⟨n, hn, fun j hj => hcomplete.list j (by omega)⟩, hopened, hprepared, hstepped⟩, henabled,
        haccepted⟩
    have hwanted : wantedAccount newConfig.accounts config.name = some config :=
      (wantedAccount_eq_some_iff (load_names_nodup hload)).mpr
        ⟨(mem_load_accounts hload).mpr ⟨record, hloads⟩, rfl⟩
    exact hgone ((reload_pass hload hrun).kept config.name config acct hwanted hacct hcurrent)

/-- A reload that changes nothing has read what runs. -/
theorem readsWhatRuns_of_same (hload : ∃ newConfig, DaemonConfig.load file db f = .ok newConfig)
    (hrun : reloadConfig file db f {} d = some d')
    (hsame : ∀ name, d'.g_accounts.lookup name = d.g_accounts.lookup name) :
    ReadsWhatRuns db f d := by
  obtain ⟨newConfig, hload⟩ := hload
  have hbuilt : ∀ name config acct, Built db (SetupsSucceed file db f {} d) name config acct →
      ∃ a, acct = some a ∧ Current a config := by
    rintro name config acct (⟨-, hfails⟩ | ⟨a, rfl, hconfig, -⟩)
    · exact absurd (setupsSucceed_of_returns hrun) hfails
    · exact ⟨a, rfl, by rw [Current, hconfig]⟩
  obtain ⟨hrunning, hothers⟩ := ((reload_pass hload hrun).same_iff hbuilt).mp hsame
  have hnodup := load_names_nodup hload
  constructor
  · intro name acct hacct
    obtain ⟨config, hwanted, hcurrent⟩ := hrunning name acct hacct
    obtain ⟨hmem, hname⟩ := (wantedAccount_eq_some_iff hnodup).mp hwanted
    obtain ⟨record, hloads⟩ := (mem_load_accounts hload).mp hmem
    exact ⟨config, record, hname, hloads, hcurrent⟩
  · intro config record hloads
    have hmem := (mem_load_accounts hload).mpr ⟨record, hloads⟩
    obtain ⟨acct, hacct⟩ := hothers config.name config
      ((wantedAccount_eq_some_iff hnodup).mpr ⟨hmem, rfl⟩)
    exact AList.lookup_isSome.mp (Option.isSome_iff_exists.mpr ⟨acct, hacct⟩)

end ReadFailures

/-- A reload keeps the healthy accounts exactly when its load throws before it reads a row, or reads
everything, or happens to read just what runs. -/
theorem keepsHealthyAccounts_iff (file : Except RuntimeError GlobalConfig) (db : Db)
    (f : LoadFaults) (d : Daemon) :
    KeepsHealthyAccounts file db f d ↔
      NothingRead file f ∨ ReadComplete db f ∨ ReadsWhatRuns db f d := by
  constructor
  · intro hkeeps
    by_cases hread : NothingRead file f
    · exact .inl hread
    by_cases hcomplete : ReadComplete db f
    · exact .inr (.inl hcomplete)
    obtain ⟨d', hrun, hsame⟩ := hkeeps.incomplete hcomplete {}
    exact .inr (.inr (readsWhatRuns_of_same (load_of_not_nothingRead db hread) hrun hsame))
  · rintro (hread | hcomplete | hruns)
    · constructor
      · intro o d' hrun name acct hacct hgone
        rw [reload_of_nothingRead hread] at hrun
        cases hrun
        exact absurd hacct hgone
      · intro _ o
        exact ⟨d, reload_of_nothingRead hread, fun _ => rfl⟩
    · constructor
      · intro o d' hrun name acct hacct hgone
        exact unhealthy_of_complete hcomplete hrun hacct hgone
      · intro hincomplete
        exact absurd hcomplete hincomplete
    · by_cases hread : NothingRead file f
      · constructor
        · intro o d' hrun name acct hacct hgone
          rw [reload_of_nothingRead hread] at hrun
          cases hrun
          exact absurd hacct hgone
        · intro _ o
          exact ⟨d, reload_of_nothingRead hread, fun _ => rfl⟩
      · obtain ⟨newConfig, hload⟩ := load_of_not_nothingRead db hread
        constructor
        · intro o d' hrun name acct hacct hgone
          rw [reload_of_readsWhatRuns hruns hload] at hrun
          cases hrun
          exact absurd hacct hgone
        · intro _ o
          exact ⟨_, reload_of_readsWhatRuns hruns hload, fun _ => rfl⟩

/-! ## A listing that ends early -/

/-- A second account in the database, without SIP. -/
def plainRecord : AccountRecord :=
  { e164 := "+380000000004", aci := "b", pni := "q", password := "w" }

def pairDb : Db := { account := (AList.insert "line3" trunkRecord ∅).insert "line4" plainRecord }

/-- Both accounts run, set up with what the database says. -/
def runningPair : Daemon :=
  { idleDaemon with
    g_accounts :=
      (AList.insert "line3" { serial := 0, config := trunkConfig, account := trunkRecord } ∅).insert
        "line4" { serial := 1, config := configOfRecord "line4" plainRecord, account := plainRecord }
    nextSerial := 2 }

/-- The step for the second row of the listing finds the database busy. -/
def busyListing : LoadFaults :=
  { list := { step := fun i => if i = 1 then some ⟨.busy, "database is locked"⟩ else none } }

/-- The listing ends after the first row, and the second account, which nobody touched, is torn
down. -/
theorem busy_listing_takes_account_down :
    ¬ KeepsHealthyAccounts (.ok idleDaemon.g_global) pairDb busyListing runningPair := by
  intro hkeeps
  have hgone : (reloadConfig (.ok idleDaemon.g_global) pairDb busyListing {} runningPair).map
      (fun d => (d.g_accounts.lookup "line4").isSome) = some false := by decide
  obtain ⟨d', hrun, hnone⟩ := Option.map_eq_some_iff.mp hgone
  refine hkeeps.healthy {} d' hrun "line4" _ rfl ?_ plainRecord _ rfl rfl rfl rfl
  intro hkept
  rw [hkept] at hnone
  cases hnone

end Signal2sip
