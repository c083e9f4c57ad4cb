import Signal2sip.Gendb.Captcha
import Signal2sip.Laws.ConfigEdits

/-!
# One account for a phone number

`verify` and `link` ask `requireE164NotUsedByOtherAccount` before they save an account. It looks at
the accounts of the loaded configuration, and those are the enabled ones with an accepted row: the
number of a disabled account, or of one that the daemon rejects, is free to it.

- `oneNumber_step_iff`: a run keeps the numbers of the rows distinct exactly when every row that holds
  the number that the run is about to save is one that the run's own load has listed;
- `oneNumber_iff`: the same along every history of runs;
- `disabled_number_reused`: a disabled account's number is linked a second time.
-/

namespace Signal2sip

open Runs (Always Along)

/-- No two rows of `account` have one number. -/
def UniqueNumbers (files : Files) : Prop :=
  ∀ name name' record record', files.db.row name = some record →
    files.db.row name' = some record' → record.e164 = record'.e164 → name = name'

section Run

variable {config : DaemonConfig} {files : Files} {accountName e164 : String} {f : CommandFaults}
  {i : Invocation}

/-- The guard passes when no other listed account has the number. -/
theorem requireE164_ok_iff :
    requireE164NotUsedByOtherAccount config accountName e164 = .ok () ↔
      ∀ account ∈ config.accounts, account.name ≠ accountName → account.e164 ≠ e164 := by
  unfold requireE164NotUsedByOtherAccount
  cases hfind : config.accounts.find? fun a => a.name ≠ accountName ∧ a.e164 = e164 with
  | none =>
    apply iff_of_true rfl
    intro account hmem hname he164
    have hno := List.find?_eq_none.mp hfind account hmem
    exact hno (decide_eq_true ⟨hname, he164⟩)
  | some account =>
    have hfound := List.find?_some hfind
    obtain ⟨hname, he164⟩ : account.name ≠ accountName ∧ account.e164 = e164 := by simpa using hfound
    apply iff_of_false (by simp)
    intro h
    exact h account (List.mem_of_find?_eq_some hfind) hname he164

/-- The number that `verify` saves. -/
def verifiedNumber (config : DaemonConfig) (accountName : String) (pending : PendingRegistration) :
    String :=
  if (resolveAccount config accountName).1.e164 = "" then pending.e164
  else (resolveAccount config accountName).1.e164

/-- The number that `link` saves. -/
def linkedNumber (config : DaemonConfig) (accountName : String)
    (provisioned : ProvisionMessageResult) : String :=
  if (resolveAccount config accountName).1.e164 ≠ "" then (resolveAccount config accountName).1.e164
  else provisioned.e164

/-- What `verify` has checked before it talks to the service. -/
theorem verifyTarget_ok_iff {pending : PendingRegistration} :
    verifyTarget config files accountName f = .ok (e164, pending) ↔
      f.openStorage = none ∧ requireNoExistingAccount files.db accountName f = .ok () ∧
        loadPending files accountName = .ok pending ∧
        e164 = verifiedNumber config accountName pending ∧
        requireE164NotUsedByOtherAccount config accountName e164 = .ok () := by
  constructor
  · intro h
    obtain ⟨_, hopen, h⟩ := except_bind_ok.mp h
    obtain ⟨_, hnone, h⟩ := except_bind_ok.mp h
    obtain ⟨_, hpending, h⟩ := except_bind_ok.mp h
    obtain ⟨_, hguard, h⟩ := except_bind_ok.mp h
    cases h
    exact ⟨succeeds_ok_iff.mp hopen, hnone, hpending, rfl, hguard⟩
  · rintro ⟨hopen, hnone, hpending, rfl, hguard⟩
    refine except_bind_ok.mpr ⟨(), succeeds_ok_iff.mpr hopen, ?_⟩
    refine except_bind_ok.mpr ⟨(), hnone, ?_⟩
    refine except_bind_ok.mpr ⟨pending, hpending, ?_⟩
    exact except_bind_ok.mpr ⟨(), hguard, rfl⟩

theorem verifyChecks_ok_iff {r : VerifyReplies} {pending : PendingRegistration} {verified : Bool} :
    verifyChecks config files accountName f r = .ok (e164, pending, verified) ↔
      verifyTarget config files accountName f = .ok (e164, pending) ∧
        r.resumeSession = none ∧ r.submitVerificationCode = .ok verified := by
  constructor
  · intro h
    obtain ⟨_, htarget, h⟩ := except_bind_ok.mp h
    obtain ⟨_, hresume, h⟩ := except_bind_ok.mp h
    obtain ⟨_, hsubmit, h⟩ := except_bind_ok.mp h
    cases h
    exact ⟨htarget, succeeds_ok_iff.mp hresume, hsubmit⟩
  · rintro ⟨htarget, hresume, hsubmit⟩
    refine except_bind_ok.mpr ⟨(e164, pending), htarget, ?_⟩
    refine except_bind_ok.mpr ⟨(), succeeds_ok_iff.mpr hresume, ?_⟩
    exact except_bind_ok.mpr ⟨verified, hsubmit, rfl⟩

theorem linkChecks_ok_iff {r : LinkReplies} {provisioned : ProvisionMessageResult} :
    linkChecks config files accountName f r = .ok (provisioned, e164) ↔
      f.openStorage = none ∧ requireNoExistingAccount files.db accountName f = .ok () ∧
        r.provisioned = .ok provisioned ∧
        e164 = linkedNumber config accountName provisioned ∧
        requireE164NotUsedByOtherAccount config accountName e164 = .ok () := by
  constructor
  · intro h
    obtain ⟨_, hopen, h⟩ := except_bind_ok.mp h
    obtain ⟨_, hnone, h⟩ := except_bind_ok.mp h
    obtain ⟨_, hprovisioned, h⟩ := except_bind_ok.mp h
    obtain ⟨_, hguard, h⟩ := except_bind_ok.mp h
    cases h
    exact ⟨succeeds_ok_iff.mp hopen, hnone, hprovisioned, rfl, hguard⟩
  · rintro ⟨hopen, hnone, hprovisioned, rfl, hguard⟩
    refine except_bind_ok.mpr ⟨(), succeeds_ok_iff.mpr hopen, ?_⟩
    refine except_bind_ok.mpr ⟨(), hnone, ?_⟩
    refine except_bind_ok.mpr ⟨provisioned, hprovisioned, ?_⟩
    exact except_bind_ok.mpr ⟨(), hguard, rfl⟩

/-- Apart from the guard, the run gets as far as saving its account, and under this number: `verify`
with an accepted code and registration, `link` with an accepted link. -/
def SavesUnlessGuarded (config : DaemonConfig) (files : Files) (i : Invocation) (e164 : String) :
    Prop :=
  i.faults.openStorage = none ∧
    requireNoExistingAccount files.db i.accountName i.faults = .ok () ∧
    Answers (i.faults.finish 0) ∧
    match i.command with
    | .verify r => ∃ pending ids, loadPending files i.accountName = .ok pending ∧
        e164 = verifiedNumber config i.accountName pending ∧ r.resumeSession = none ∧
        r.submitVerificationCode = .ok true ∧ r.registerAccount = .ok ids
    | .link r => ∃ provisioned device, r.provisioned = .ok provisioned ∧
        e164 = linkedNumber config i.accountName provisioned ∧ r.response = .ok (some device)
    | _ => False

/-- If the guard passes, the run saves the number. -/
theorem run_saves (hload : DaemonConfig.load i.file files.db i.load = .ok config)
    (hsaves : SavesUnlessGuarded config files i e164)
    (hguard : requireE164NotUsedByOtherAccount config i.accountName e164 = .ok ()) :
    ∃ record, record.e164 = e164 ∧ (i.run files).1.db.row i.accountName = some record := by
  obtain ⟨name, command, file, load, f⟩ := i
  obtain ⟨hopen, hnone, hanswers, hcommand⟩ := hsaves
  have hsaved (account : FinishedAccount) (now : Int) :
      (saveFinishedAccount files.db name account now f.finish).1.row name =
        some (Storage.withIdentity (files.db.row name) (account.record now).toIdentityColumns) := by
    rcases saveFinishedAccount_cases files.db name account now f.finish with ⟨-, -, hrows⟩ | ⟨hno, -⟩
    · rw [hrows]
      exact AList.lookup_insert _
    · exact absurd hanswers hno
  have hidentity (old : Option AccountRecord) (identity : IdentityColumns) :
      (Storage.withIdentity old identity).e164 = identity.e164 := by
    cases old <;> rfl
  unfold Invocation.run
  rw [hload]
  cases command with
  | verify r =>
    obtain ⟨pending, ⟨aci, pni⟩, hpending, he164, hresume, hsubmit, hregister⟩ := hcommand
    have hchecks : verifyChecks config files name f r = .ok (e164, pending, true) :=
      verifyChecks_ok_iff.mpr ⟨verifyTarget_ok_iff.mpr ⟨hopen, hnone, hpending, he164, hguard⟩, hresume,
        hsubmit⟩
    simp only [Command.run, cmdVerify, hchecks, hregister]
    split <;> next hsave =>
      refine ⟨_, ?_, (congrArg (fun ended => Db.row ended.1 name) hsave).symm.trans (hsaved _ _)⟩
      rw [hidentity]
      rfl
  | link r =>
    obtain ⟨provisioned, device, hprovisioned, he164, hresponse⟩ := hcommand
    have hchecks : linkChecks config files name f r = .ok (provisioned, e164) :=
      linkChecks_ok_iff.mpr ⟨hopen, hnone, hprovisioned, he164, hguard⟩
    simp only [Command.run, cmdLink, hchecks, hresponse]
    refine ⟨_, ?_, hsaved _ _⟩
    rw [hidentity]
    rfl
  | _ => exact hcommand.elim

/-- A row keeps its number, or goes. -/
def KeepsNumber (before after : Option AccountRecord) : Prop :=
  ∀ record', after = some record' → ∃ record, before = some record ∧ record.e164 = record'.e164

theorem KeepsNumber.refl (row : Option AccountRecord) : KeepsNumber row row :=
  fun record' h => ⟨record', h, rfl⟩

/-- A command that saves no account keeps the number. -/
theorem keepsNumber_of_leaves {command : Command} (hsaves : command.saves = false) {db' : Db}
    (h : command.Leaves files accountName f db') :
    KeepsNumber (files.db.row accountName) (db'.row accountName) := by
  cases h with
  | same => exact .refl _
  | saved hsaves' => rw [hsaves] at hsaves'; cases hsaves'
  | deleted hdeletes haccount =>
    intro record' hrow'
    rw [Db.row, haccount, AList.lookup_erase] at hrow'
    cases hrow'
  | configured account =>
    intro record' hrow'
    have hmodified : (files.db.account.modify accountName _).lookup accountName = some record' :=
      hrow'
    rw [AList.lookup_modify_self] at hmodified
    obtain ⟨record, hold, rfl⟩ := Option.map_eq_some_iff.mp hmodified
    exact ⟨record, hold, rfl⟩

/-- If the guard does not let it save, the run leaves its row's number as it was. -/
theorem run_keepsNumber
    (hno : ∀ config e164, DaemonConfig.load i.file files.db i.load = .ok config →
      SavesUnlessGuarded config files i e164 →
      requireE164NotUsedByOtherAccount config i.accountName e164 ≠ .ok ()) :
    KeepsNumber (files.db.row i.accountName) ((i.run files).1.db.row i.accountName) := by
  obtain ⟨name, command, file, load, f⟩ := i
  have hunsaved (account : FinishedAccount) (now : Int) (h : ¬ Answers (f.finish 0)) :
      (saveFinishedAccount files.db name account now f.finish).1.row name = files.db.row name := by
    rcases saveFinishedAccount_cases files.db name account now f.finish with ⟨hp, hs, -⟩ | ⟨-, hdb⟩
    · exact absurd ⟨hp, hs⟩ h
    · rw [hdb]
  unfold Invocation.run
  split
  · exact .refl _
  · next config hload =>
    cases command with
    | verify r =>
      simp only [Command.run, cmdVerify]
      split
      · exact .refl _
      · exact .refl _
      · exact .refl _
      · next e164 pending aci pni hchecks hregister =>
        obtain ⟨htarget, hresume, hsubmit⟩ := verifyChecks_ok_iff.mp hchecks
        obtain ⟨hopen, hnone, hpending, he164, hguard⟩ := verifyTarget_ok_iff.mp htarget
        have hanswers : ¬ Answers (f.finish 0) := fun hanswers =>
          hno config e164 hload ⟨hopen, hnone, hanswers, pending, _, hpending, he164, hresume,
            hsubmit, hregister⟩ hguard
        split <;> next hsave =>
          rw [← congrArg (fun ended => Db.row ended.1 name) hsave, hunsaved _ _ hanswers]
          exact .refl _
    | link r =>
      simp only [Command.run, cmdLink]
      split
      · exact .refl _
      · exact .refl _
      · exact .refl _
      · next provisioned e164 device hchecks hresponse =>
        obtain ⟨hopen, hnone, hprovisioned, he164, hguard⟩ := linkChecks_ok_iff.mp hchecks
        have hanswers : ¬ Answers (f.finish 0) := fun hanswers =>
          hno config e164 hload ⟨hopen, hnone, hanswers, provisioned, device, hprovisioned, he164,
            hresponse⟩ hguard
        show KeepsNumber _ ((saveFinishedAccount _ _ _ _ _).1.row name)
        rw [hunsaved _ _ hanswers]
        exact .refl _
    | _ => exact keepsNumber_of_leaves rfl (Command.run_leaves _ _ _ _ _)

end Run

/-! ## Histories -/

/-- Every row of another account with the number that the run would save is one that its own load
lists: enabled, accepted, and read. -/
def HoldersListed (files : Files) : GendbRun → Prop
  | .registerCaptcha .. => True
  | .invoke i => ∀ config e164, DaemonConfig.load i.file files.db i.load = .ok config →
      SavesUnlessGuarded config files i e164 →
      ∀ name record, name ≠ i.accountName → files.db.row name = some record →
        record.e164 = e164 → ∃ account ∈ config.accounts, account.name = name

/-- One run keeps the numbers distinct exactly when it lists whoever has the number it saves. -/
theorem uniqueNumbers_step_iff {files : Files} (r : GendbRun) (h : UniqueNumbers files) :
    UniqueNumbers (GendbRun.step files r) ↔ HoldersListed files r := by
  cases r with
  | registerCaptcha => exact iff_of_true h trivial
  | invoke i =>
    show UniqueNumbers (i.run files).1 ↔ _
    -- a listed account has the number of its row
    have hlisted {config : DaemonConfig} (hload : DaemonConfig.load i.file files.db i.load = .ok config)
        {account : AccountConfig} (hmem : account ∈ config.accounts) :
        ∃ record, files.db.row account.name = some record ∧ record.e164 = account.e164 := by
      obtain ⟨record, hloads⟩ := (mem_load_accounts hload).mp hmem
      exact ⟨record, hloads.read.row, by rw [hloads.config_eq]; rfl⟩
    constructor
    · intro h' config e164 hload hsaves name record hne hrow he164
      by_contra hhidden
      -- nobody that is listed has the number, so the guard passes
      have hguard : requireE164NotUsedByOtherAccount config i.accountName e164 = .ok () := by
        refine requireE164_ok_iff.mpr fun account hmem hname haccount => hhidden ⟨account, hmem, ?_⟩
        obtain ⟨record', hrow', he164'⟩ := hlisted hload hmem
        exact h _ _ _ _ hrow' hrow (he164'.trans (haccount.trans he164.symm))
      obtain ⟨saved, hsaved, hrow'⟩ := run_saves hload hsaves hguard
      exact hne (h' _ _ _ _ ((run_row_ne hne).trans hrow) hrow' (he164.trans hsaved.symm))
    · intro hholders
      -- the row of the run's account has no other row's number
      have hown : ∀ name record record', name ≠ i.accountName → files.db.row name = some record →
          (i.run files).1.db.row i.accountName = some record' → record.e164 ≠ record'.e164 := by
        intro name record record' hne hrow hrow' he164
        by_cases hsaving : ∃ config e164, DaemonConfig.load i.file files.db i.load = .ok config ∧
            SavesUnlessGuarded config files i e164 ∧
            requireE164NotUsedByOtherAccount config i.accountName e164 = .ok ()
        · obtain ⟨config, e164, hload, hsaves, hguard⟩ := hsaving
          obtain ⟨saved, hsaved, hrowSaved⟩ := run_saves hload hsaves hguard
          obtain rfl : record' = saved := Option.some.inj (hrow'.symm.trans hrowSaved)
          have hholds : record.e164 = e164 := he164.trans hsaved
          obtain ⟨account, hmem, rfl⟩ := hholders config e164 hload hsaves name record hne hrow hholds
          obtain ⟨listed, hrowListed, haccount⟩ := hlisted hload hmem
          obtain rfl : listed = record := Option.some.inj (hrowListed.symm.trans hrow)
          exact requireE164_ok_iff.mp hguard account hmem hne (haccount.symm.trans hholds)
        · obtain ⟨old, hold, hsame⟩ := run_keepsNumber (fun config e164 hload hsaves hguard =>
            hsaving ⟨config, e164, hload, hsaves, hguard⟩) record' hrow'
          exact hne (h _ _ _ _ hrow hold (he164.trans hsame.symm))
      intro name name' record record' hrow hrow' he164
      by_cases hname : name = i.accountName <;> by_cases hname' : name' = i.accountName
      · rw [hname, hname']
      · subst hname
        rw [run_row_ne hname'] at hrow'
        exact absurd he164.symm (hown _ _ _ hname' hrow' hrow)
      · subst hname'
        rw [run_row_ne hname] at hrow
        exact absurd he164 (hown _ _ _ hname hrow hrow')
      · rw [run_row_ne hname] at hrow
        rw [run_row_ne hname'] at hrow'
        exact h _ _ _ _ hrow hrow' he164

/-- Along a history of runs no two rows ever have one number exactly when every run lists whoever has
the number that it saves. -/
theorem oneNumber_iff (files : Files) (runs : List GendbRun) (hstart : UniqueNumbers files) :
    Always GendbRun.step UniqueNumbers files runs ↔ Along GendbRun.step HoldersListed files runs :=
  Runs.always_congr (I := fun _ => True) (fun _ _ _ _ _ => trivial)
    (fun _ r _ hunique => uniqueNumbers_step_iff r hunique) trivial hstart

/-- A `link` that everything accepts. -/
def linkRun (accountName e164 : String) : GendbRun :=
  .invoke
    { accountName := accountName
      file := .ok { dbPath := "signal2sip.db", dbKey := "key" }
      command := .link
        { provisioned := .ok ⟨e164, ⟨[], []⟩, ⟨[], []⟩, none, none, none⟩
          password := "password"
          keys := ⟨1, 2, ⟨1, []⟩, ⟨1, []⟩, ⟨1, []⟩, ⟨1, []⟩, 0⟩
          response := .ok (some ⟨"aci", "pni", 2⟩) } }

def disableRun (accountName : String) : GendbRun :=
  .invoke
    { accountName := accountName
      file := .ok { dbPath := "signal2sip.db", dbKey := "key" }
      command := .setEnabled false }

theorem uniqueNumbers_empty : UniqueNumbers {} := by
  intro name name' record record' hrow
  cases hrow

/-- Linking one account and disabling it keeps the numbers distinct. -/
theorem linked_and_disabled :
    Always GendbRun.step UniqueNumbers {} [linkRun "office" "+4930900", disableRun "office"] := by
  refine (oneNumber_iff {} _ uniqueNumbers_empty).mpr ⟨?_, ?_, trivial⟩
  · intro config e164 hload hsaves name record hne hrow
    cases hrow
  · intro config e164 hload hsaves
    exact hsaves.2.2.2.elim

/-- A number is linked, its account is disabled, and the number is linked again under another name.
All three commands succeed. -/
theorem disabled_number_reused :
    UniqueNumbers {} ∧
      Along GendbRun.step (fun files r => (r.run files).2 = none) {}
        [linkRun "office" "+4930900", disableRun "office", linkRun "home" "+4930900"] ∧
      ¬ Always GendbRun.step UniqueNumbers {}
        [linkRun "office" "+4930900", disableRun "office", linkRun "home" "+4930900"] := by
  refine ⟨uniqueNumbers_empty, ⟨rfl, rfl, rfl, trivial⟩, fun h => ?_⟩
  have hsame := h.last "office" "home" _ _ rfl rfl rfl
  exact absurd hsame (by decide)

end Signal2sip
