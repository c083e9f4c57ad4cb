import Signal2sip.Laws.GendbRows
import Signal2sip.Laws.ReloadPass
import Signal2sip.Lib.Run

/-!
# Whether a reload converges

The daemon learns of a changed account by one number. `config set`, `enable` and `disable` count it up;
a new row starts at 0, so an account that was deleted and made again under its name can carry the
number that the running one was set up with.

- `converged_iff`: after a reload whose setups succeed, what runs is what the database says exactly
  when the rows that the reload took for unchanged are the ones their accounts were set up from;
- `reload_converges_along_iff`: so it is at every reload of every history of `gendb` runs;
- `converges_of_leavesRows`: a history in which no running account's row is deleted, and in which
  `hasAccount` answers, is one in which every reload converges.
-/

namespace Signal2sip

open Runs (Along)

/-! ## One reload -/

section Reload

variable {global : GlobalConfig} {db : Db} {o : ReloadOutcomes} {d d' : Daemon}

/-- The running accounts are the enabled and accepted rows, and each is the one its row describes. -/
structure Converged (db : Db) (d : Daemon) : Prop where
  running : ∀ name, (∃ acct, d.g_accounts.lookup name = some acct) ↔
    ∃ config record, db.row name = some record ∧ record.enabled = true ∧
      accountConfigFromRecord name record = .ok config
  agree : ∀ name acct, d.g_accounts.lookup name = some acct →
    ∃ record, db.row name = some record ∧ accountConfigFromRecord name record = .ok acct.config ∧
      acct.account = record

/-- A running account whose row counts as unchanged was set up from this row. -/
def RowsKept (db : Db) (d : Daemon) : Prop :=
  ∀ name acct record config, d.g_accounts.lookup name = some acct → db.row name = some record →
    record.enabled = true → accountConfigFromRecord name record = .ok config → Current acct config →
      acct.config = config ∧ acct.account = record

/-- With nothing failing, the loaded configurations are those of the enabled and accepted rows. -/
theorem wantedAccount_quiet_iff {newConfig : DaemonConfig}
    (hload : DaemonConfig.load (.ok global) db .quiet = .ok newConfig) {name : String}
    {config : AccountConfig} :
    wantedAccount newConfig.accounts name = some config ↔
      ∃ record, db.row name = some record ∧ record.enabled = true ∧
        accountConfigFromRecord name record = .ok config := by
  rw [wantedAccount_eq_some_iff (load_names_nodup hload), mem_load_accounts hload]
  constructor
  · rintro ⟨⟨record, hloads⟩, rfl⟩
    exact ⟨record, hloads.read.row, hloads.enabled, hloads.accepted⟩
  · rintro ⟨record, hrow, henabled, haccepted⟩
    exact ⟨⟨record, loads_quiet hrow henabled haccepted⟩, accountConfigFromRecord_name haccepted⟩

theorem load_quiet (global : GlobalConfig) (db : Db) :
    ∃ newConfig, DaemonConfig.load (.ok global) db .quiet = .ok newConfig :=
  ⟨⟨global, _⟩, load_ok_iff.mpr ⟨rfl, rfl, rfl, rfl⟩⟩

/-- A reload converges exactly when the rows it took for unchanged are unchanged. -/
theorem converged_iff (hrun : reloadConfig (.ok global) db .quiet o d = some d')
    (hsucceed : SetupsSucceed (.ok global) db .quiet o d) : Converged db d' ↔ RowsKept db d := by
  obtain ⟨newConfig, hload⟩ := load_quiet global db
  have hbuilt : ∀ name config acct,
      Built db (SetupsSucceed (.ok global) db .quiet o d) name config acct →
      ∃ a, acct = some a ∧ (a.config = config ∧ db.row name = some a.account) := by
    rintro name config acct (⟨-, hfails⟩ | ⟨a, rfl, hconfig, hrow⟩)
    · exact absurd hsucceed hfails
    · exact ⟨a, rfl, hconfig, hrow⟩
  have hpass := (reload_pass hload hrun).converges_iff hbuilt
  have hconverged : Converged db d' ↔
      (∀ name, (∃ acct, d'.g_accounts.lookup name = some acct) ↔
          ∃ config, wantedAccount newConfig.accounts name = some config) ∧
        ∀ name acct, d'.g_accounts.lookup name = some acct →
          ∃ config, wantedAccount newConfig.accounts name = some config ∧
            (acct.config = config ∧ db.row name = some acct.account) := by
    simp only [wantedAccount_quiet_iff hload]
    constructor
    · intro h
      refine ⟨h.running, fun name acct hacct => ?_⟩
      obtain ⟨record, hrow, haccepted, haccount⟩ := h.agree name acct hacct
      obtain ⟨config, record', hrow', henabled, -⟩ := (h.running name).mp ⟨acct, hacct⟩
      obtain rfl : record' = record := Option.some.inj (hrow'.symm.trans hrow)
      exact ⟨acct.config, ⟨record', hrow, henabled, haccepted⟩, rfl, haccount ▸ hrow⟩
    · rintro ⟨hrunning, hagree⟩
      refine ⟨hrunning, fun name acct hacct => ?_⟩
      obtain ⟨config, ⟨record, hrow, -, haccepted⟩, rfl, haccount⟩ := hagree name acct hacct
      exact ⟨record, hrow, haccepted, Option.some.inj (haccount.symm.trans hrow)⟩
  rw [hconverged, hpass]
  simp only [wantedAccount_quiet_iff hload, RowsKept]
  constructor
  · intro h name acct record config hacct hrow henabled haccepted hcurrent
    obtain ⟨hconfig, haccount⟩ :=
      h name config acct ⟨record, hrow, henabled, haccepted⟩ hacct hcurrent
    exact ⟨hconfig, Option.some.inj (haccount.symm.trans hrow)⟩
  · rintro h name config acct ⟨record, hrow, henabled, haccepted⟩ hacct hcurrent
    obtain ⟨hconfig, haccount⟩ := h name acct record config hacct hrow henabled haccepted hcurrent
    exact ⟨hconfig, haccount ▸ hrow⟩

/-- A reload returns when its setups do. -/
theorem reload_returns (hsucceed : SetupsSucceed (.ok global) db .quiet o d) :
    ∃ d', reloadConfig (.ok global) db .quiet o d = some d' := by
  obtain ⟨newConfig, hload⟩ := load_quiet global db
  rw [reloadConfig, hload]
  refine Reconcile.loop_returns (fun d₁ config hsetup => ?_) (hsucceed newConfig hload)
  rw [reloadAccount_eq]
  split
  · exact ⟨d₁, rfl⟩
  · next d₂ hd₂ =>
    have hend := hsetup d₂ hd₂
    unfold Daemon.startAccount
    split
    · next d₃ _ _ => exact ⟨d₃, rfl⟩
    · next hnot =>
      rw [show setupAccount db config (o.setups config.name) d₂ =
        ((setupAccount db config (o.setups config.name) d₂).1, .returned true) from
        Prod.ext rfl hend] at hnot
      exact absurd rfl (hnot _ _)

end Reload

/-! ## Histories -/

/-- The database that `gendb` and the daemon share, and the daemon. -/
structure System where
  files : Files
  daemon : Daemon

/-- Runs of `gendb`, and reloads during which nothing else writes the database and no read fails. -/
inductive SystemEvent
  | gendb (i : Invocation)
  | reload (global : GlobalConfig) (o : ReloadOutcomes)

/-- A reload that does not return ends the daemon; the accounts stay what they were. -/
def System.step (s : System) : SystemEvent → System
  | .gendb i => { s with files := (i.run s.files).1 }
  | .reload global o =>
    { s with daemon := (reloadConfig (.ok global) s.files.db .quiet o s.daemon).getD s.daemon }

/-- A reload in which every setup succeeds converges. -/
def ReloadConverges (s : System) : SystemEvent → Prop
  | .gendb _ => True
  | .reload global o => SetupsSucceed (.ok global) s.files.db .quiet o s.daemon →
      Converged s.files.db (s.step (.reload global o)).daemon

/-- A reload in which every setup succeeds finds the rows that count as unchanged unchanged. -/
def ReloadFindsRows (s : System) : SystemEvent → Prop
  | .gendb _ => True
  | .reload global o => SetupsSucceed (.ok global) s.files.db .quiet o s.daemon →
      RowsKept s.files.db s.daemon

theorem reloadConverges_iff (s : System) (e : SystemEvent) :
    ReloadConverges s e ↔ ReloadFindsRows s e := by
  cases e with
  | gendb i => exact Iff.rfl
  | reload global o =>
    apply imp_congr_right
    intro hsucceed
    obtain ⟨d', hrun⟩ := reload_returns hsucceed
    rw [← converged_iff hrun hsucceed, System.step, hrun]
    rfl

/-- Every reload of a history converges exactly when each finds every row that counts as unchanged
to be the one its account was set up from. -/
theorem reload_converges_along_iff (s : System) (events : List SystemEvent) :
    Along System.step ReloadConverges s events ↔ Along System.step ReloadFindsRows s events :=
  Runs.along_congr (I := fun _ => True) (fun _ _ _ _ => trivial)
    (fun s e _ => reloadConverges_iff s e) trivial

/-! ## Histories that leave the running accounts' rows in place -/

/-- The row of a running account is the one it was set up from, or it has counted up since. -/
def Tracks (db : Db) (d : Daemon) : Prop :=
  ∀ name acct, d.g_accounts.lookup name = some acct → ∃ record, db.row name = some record ∧
    ((acct.account = record ∧ acct.config = configOfRecord name record) ∨
      acct.config.configVersion < record.configVersion)

theorem Tracks.rowsKept {db : Db} {d : Daemon} (h : Tracks db d) : RowsKept db d := by
  intro name acct record config hacct hrow _ haccepted hcurrent
  have hconfig := accountConfigFromRecord_ok haccepted
  obtain ⟨record', hrow', hsame | hcounted⟩ := h name acct hacct
  · obtain rfl : record' = record := Option.some.inj (hrow'.symm.trans hrow)
    exact ⟨hsame.2.trans hconfig.symm, hsame.1⟩
  · obtain rfl : record' = record := Option.some.inj (hrow'.symm.trans hrow)
    have hversion : acct.config.configVersion = record'.configVersion := by
      rw [hcurrent, hconfig]
      rfl
    omega

/-- No running account's row is deleted, and `hasAccount` answers. -/
def LeavesRows (s : System) : SystemEvent → Prop
  | .gendb i => i.faults.hasAccount = .quiet ∧
      (i.command.deletes = true → i.accountName ∉ s.daemon.g_accounts)
  | .reload _ _ => True

theorem tracks_gendb {s : System} {i : Invocation} (h : Tracks s.files.db s.daemon)
    (hleaves : LeavesRows s (.gendb i)) : Tracks (i.run s.files).1.db s.daemon := by
  obtain ⟨hquiet, hdeletes⟩ := hleaves
  intro name acct hacct
  obtain ⟨record, hrow, htracks⟩ := h name acct hacct
  have hkeeps : i.command.deletes = true → name ≠ i.accountName := by
    rintro hdel rfl
    exact hdeletes hdel (AList.lookup_isSome.mp (Option.isSome_iff_exists.mpr ⟨acct, hacct⟩))
  rcases run_row hquiet hkeeps hrow with hsame | ⟨record', hcounted, hlt⟩
  · exact ⟨record, hsame, htracks⟩
  · refine ⟨record', hcounted, .inr ?_⟩
    rcases htracks with ⟨-, hconfig⟩ | hless
    · have hversion : acct.config.configVersion = record.configVersion := by
        rw [hconfig]
        rfl
      omega
    · omega

/-- A reload keeps accounts that track their rows, and builds such. -/
theorem tracks_reload {global : GlobalConfig} {db : Db} {o : ReloadOutcomes} {d d' : Daemon}
    (h : Tracks db d) (hrun : reloadConfig (.ok global) db .quiet o d = some d') : Tracks db d' := by
  obtain ⟨newConfig, hload⟩ := load_quiet global db
  have hpass := reload_pass hload hrun
  intro name acct hacct
  cases hwanted : wantedAccount newConfig.accounts name with
  | none =>
    rw [hpass.stopped name hwanted] at hacct
    cases hacct
  | some config =>
    by_cases hkept : ∃ a, d.g_accounts.lookup name = some a ∧ Current a config
    · obtain ⟨a, ha, hcurrent⟩ := hkept
      obtain rfl : a = acct :=
        Option.some.inj ((hpass.kept name config a hwanted ha hcurrent).symm.trans hacct)
      exact h name a ha
    · have hnew := hpass.built name config hwanted fun a ha hcurrent => hkept ⟨a, ha, hcurrent⟩
      obtain ⟨hnone, -⟩ | ⟨a, ha, hconfig, hrow⟩ := hnew
      · rw [hnone] at hacct
        cases hacct
      · obtain rfl : a = acct := Option.some.inj (ha.symm.trans hacct)
        obtain ⟨record, hrow', -, haccepted⟩ := (wantedAccount_quiet_iff hload).mp hwanted
        obtain rfl : a.account = record := Option.some.inj (hrow.symm.trans hrow')
        exact ⟨a.account, hrow, .inl ⟨rfl, hconfig.trans (accountConfigFromRecord_ok haccepted)⟩⟩

theorem tracks_step (s : System) (e : SystemEvent) (h : Tracks s.files.db s.daemon)
    (hleaves : LeavesRows s e) : Tracks (s.step e).files.db (s.step e).daemon := by
  cases e with
  | gendb i => exact tracks_gendb h hleaves
  | reload global o =>
    cases hrun : reloadConfig (.ok global) s.files.db .quiet o s.daemon with
    | none =>
      rw [System.step, hrun]
      exact h
    | some d' =>
      rw [System.step, hrun]
      exact tracks_reload h hrun

/-- From a daemon that runs nothing, every reload of such a history converges. -/
theorem converges_of_leavesRows {s : System} {events : List SystemEvent}
    (hstart : s.daemon.g_accounts = ∅) (h : Along System.step LeavesRows s events) :
    Along System.step ReloadConverges s events := by
  refine h.imp_of_inv (I := fun s => Tracks s.files.db s.daemon) tracks_step
    (fun s e htracks _ => (reloadConverges_iff s e).mpr ?_) fun name acct hacct => ?_
  · cases e with
    | gendb i => trivial
    | reload global o => exact fun _ => htracks.rowsKept
  · rw [hstart] at hacct
    cases hacct

/-! ## An account that is linked anew -/

/-- The account is linked anew under its name, with other keys and another device. -/
def relink : LinkReplies where
  provisioned := .ok
    { e164 := "+380000000003", aciIdentity := ⟨[], []⟩, pniIdentity := ⟨[], []⟩, profileKey := none,
      accountEntropyPool := some "pool", mediaRootBackupKey := none }
  password := "w2"
  keys :=
    { registrationId := 7, pniRegistrationId := 8, aciSignedPreKey := ⟨1, []⟩,
      pniSignedPreKey := ⟨1, []⟩, aciKyberPreKey := ⟨1, []⟩, pniKyberPreKey := ⟨1, []⟩, now := 0 }
  response := .ok (some ⟨"a", "p", 2⟩)

def Invocation.ofTrunk (command : Command) : Invocation where
  accountName := "line3"
  command := command
  file := .ok idleDaemon.g_global

/-- The account is set up, unlinked and linked again. -/
def relinkedHistory : List SystemEvent :=
  [.reload idleDaemon.g_global {}, .gendb (.ofTrunk .unlink), .gendb (.ofTrunk (.link relink))]

def relinkedSystem : System := Runs.final System.step ⟨{ db := trunkDb }, idleDaemon⟩ relinkedHistory

/-- The new row starts at the number of the old one, and the next reload leaves the old account
running. -/
theorem relinked_account_is_not_reloaded :
    ¬ Along System.step ReloadConverges ⟨{ db := trunkDb }, idleDaemon⟩
      (relinkedHistory ++ [.reload idleDaemon.g_global {}]) := by
  intro hconverges
  have hreload : ReloadConverges relinkedSystem (.reload idleDaemon.g_global {}) :=
    (Runs.along_append.mp hconverges).2.1
  have hreturns : (reloadConfig (.ok idleDaemon.g_global) relinkedSystem.files.db .quiet {}
      relinkedSystem.daemon).isSome = true := by decide
  obtain ⟨d', hrun⟩ := Option.isSome_iff_exists.mp hreturns
  have hconverged := hreload (setupsSucceed_of_returns hrun)
  have hrunning : ((relinkedSystem.step (.reload idleDaemon.g_global {})).daemon.g_accounts.lookup
      "line3").map (·.account.password) = some "w" := by decide
  have hrow : (relinkedSystem.files.db.row "line3").map (·.password) = some "w2" := by decide
  obtain ⟨acct, hacct, hpassword⟩ := Option.map_eq_some_iff.mp hrunning
  obtain ⟨record, hrecord, -, haccount⟩ := hconverged.agree "line3" acct hacct
  rw [hrecord, Option.map_some, ← haccount, hpassword] at hrow
  exact absurd hrow (by decide)

end Signal2sip
