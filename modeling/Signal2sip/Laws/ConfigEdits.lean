import Signal2sip.Gendb.ConcurrentWrites
import Signal2sip.Laws.GendbRows
import Signal2sip.Laws.ReloadPass
import Signal2sip.Lib.Run

/-!
# What `config set` does to an account that works

The setters of `config set` check one setting each. The daemon's check of a row relates three of
them: with `tls` there must be a CA file, or verification must be switched off. So a value that every
check of `config set` lets pass can still take the account out of the daemon's configuration.

- `set_accepted_iff`: an edit of an accepted row is rejected by the daemon exactly when it leaves `tls`
  without either of the two (`LosesTrust`);
- `configEdits_iff`: along a sequence of `config set` commands the account stays usable exactly when
  no edit does that;
- `transport_before_trust`: the first of two edits that are fine together.
-/

namespace Signal2sip

open Sqlite (Faults)
open Runs (Always Along)

/-! ## Rows that the daemon accepts -/

/-- What the checks of `accountConfigFromRecord` ask of a row. -/
structure Accepted (record : AccountRecord) : Prop where
  e164 : record.e164 ≠ ""
  sipSrtp : record.sipSrtp ∈ ["", "disabled", "optional", "mandatory"]
  sipTransport : record.sipTransport ∈ ["", "udp", "tls"]
  trust : record.sipTransport = "tls" → record.sipTlsCaFile ≠ "" ∨ record.sipTlsInsecure = true

theorem sipSrtp_passes_iff (setting : String) :
    ¬ (orDefault setting "disabled" ≠ "disabled" ∧ orDefault setting "disabled" ≠ "optional" ∧
        orDefault setting "disabled" ≠ "mandatory") ↔
      setting ∈ ["", "disabled", "optional", "mandatory"] := by
  by_cases hempty : setting = "" <;> simp [orDefault, hempty]
  tauto

theorem sipTransport_passes_iff (setting : String) :
    ¬ (orDefault setting "udp" ≠ "udp" ∧ orDefault setting "udp" ≠ "tls") ↔
      setting ∈ ["", "udp", "tls"] := by
  by_cases hempty : setting = "" <;> simp [orDefault, hempty]
  tauto

/-- An empty transport is not `tls`. -/
theorem trust_passes_iff (setting caFile : String) (insecure : Bool) :
    ¬ (orDefault setting "udp" = "tls" ∧ caFile = "" ∧ !insecure) ↔
      (setting = "tls" → caFile ≠ "" ∨ insecure = true) := by
  by_cases hempty : setting = "" <;> simp [orDefault, hempty]
  tauto

theorem accepted_iff {name : String} {record : AccountRecord} :
    (∃ config, accountConfigFromRecord name record = .ok config) ↔ Accepted record := by
  constructor
  · rintro ⟨config, h⟩
    simp only [accountConfigFromRecord] at h
    split at h
    · cases h
    · next he164 =>
      split at h
      · cases h
      · next hsrtp =>
        split at h
        · cases h
        · next htransport =>
          split at h
          · cases h
          · next htrust =>
            exact ⟨he164, (sipSrtp_passes_iff _).mp hsrtp, (sipTransport_passes_iff _).mp htransport,
              (trust_passes_iff _ _ _).mp htrust⟩
  · intro h
    refine ⟨configOfRecord name record, ?_⟩
    have hsrtp := (sipSrtp_passes_iff record.sipSrtp).mpr h.sipSrtp
    have htransport := (sipTransport_passes_iff record.sipTransport).mpr h.sipTransport
    have htrust := (trust_passes_iff _ _ _).mpr h.trust
    unfold accountConfigFromRecord
    exact (if_neg h.e164).trans
      ((if_neg hsrtp).trans ((if_neg htransport).trans (if_neg htrust)))

/-! ## One edit -/

/-- The edits after which `tls` has neither a CA file nor `sip_tls_insecure`. -/
def LosesTrust (record : AccountRecord) (field value : String) : Prop :=
  field = "sip_transport" ∧ value = "tls" ∧ record.sipTlsCaFile = "" ∧
      record.sipTlsInsecure = false ∨
    field = "sip_tls_ca_file" ∧ value = "" ∧ record.sipTransport = "tls" ∧
      record.sipTlsInsecure = false ∨
    field = "sip_tls_insecure" ∧ value ∉ ["yes", "true", "1"] ∧ record.sipTransport = "tls" ∧
      record.sipTlsCaFile = ""

instance (record : AccountRecord) (field value : String) :
    Decidable (LosesTrust record field value) :=
  inferInstanceAs (Decidable (_ ∨ _ ∨ _))

/-- With the other checks passed, the last one decides. -/
theorem accepted_iff_trust {record : AccountRecord} (he164 : record.e164 ≠ "")
    (hsrtp : record.sipSrtp ∈ ["", "disabled", "optional", "mandatory"])
    (htransport : record.sipTransport ∈ ["", "udp", "tls"]) :
    Accepted record ↔ ¬ (record.sipTransport = "tls" ∧ record.sipTlsCaFile = "" ∧
      record.sipTlsInsecure = false) := by
  have hsecure : record.sipTlsInsecure = true ↔ ¬ record.sipTlsInsecure = false :=
    by simp
  constructor
  · rintro h ⟨htls, hempty, hno⟩
    rcases h.trust htls with hne | hyes
    · exact hne hempty
    · exact hsecure.mp hyes hno
  · intro h
    refine ⟨he164, hsrtp, htransport, fun htls => ?_⟩
    rw [hsecure, ← not_and_or]
    exact fun hnone => h ⟨htls, hnone⟩

theorem findConfigField_ok_iff {name : String} {field : ConfigField} :
    findConfigField name = .ok field ↔ configFields.find? (fun f => f.name = name) = some field := by
  unfold findConfigField
  cases configFields.find? fun f => f.name = name <;> simp

/-- A field that is found is one of the table, under its name. -/
theorem findConfigField_mem {name : String} {field : ConfigField}
    (h : findConfigField name = .ok field) : field ∈ configFields ∧ field.name = name := by
  have hfind := findConfigField_ok_iff.mp h
  exact ⟨List.mem_of_find?_eq_some hfind, by simpa using List.find?_some hfind⟩

/-- A setter changes configuration columns only. -/
theorem set_columns {record edited : AccountRecord} {value : String} {field : ConfigField}
    (hmem : field ∈ configFields) (hset : field.set record value = .ok edited) :
    edited = { record with toConfigColumns := edited.toConfigColumns } := by
  cases ConfigField.ofKind hmem with
  | text name h =>
    obtain rfl := ConfigField.text_set_ok.mp hset
    rfl
  | word name words h =>
    obtain ⟨-, rfl⟩ := ConfigField.word_set_ok.mp hset
    rfl
  | flag name h =>
    obtain rfl := ConfigField.flag_set_ok.mp hset
    rfl

/-! ## The settings that `tls` depends on -/

structure TlsSettings where
  transport : String
  caFile : String
  insecure : Bool
deriving DecidableEq, Repr

def AccountRecord.tls (record : AccountRecord) : TlsSettings :=
  ⟨record.sipTransport, record.sipTlsCaFile, record.sipTlsInsecure⟩

namespace TlsSettings

def Trusted (t : TlsSettings) : Prop :=
  ¬ (t.transport = "tls" ∧ t.caFile = "" ∧ t.insecure = false)

instance : DecidablePred Trusted := fun _ => inferInstanceAs (Decidable (¬ _))

/-- What an accepted `config set` does to them. -/
def set (t : TlsSettings) (field value : String) : TlsSettings :=
  if field = "sip_transport" then { t with transport := value }
  else if field = "sip_tls_ca_file" then { t with caFile := value }
  else if field = "sip_tls_insecure" then
    { t with insecure := value = "yes" || value = "true" || value = "1" }
  else t

end TlsSettings

/-- The checks of a row apart from the one on `tls`. -/
structure AcceptedButTls (record : AccountRecord) : Prop where
  e164 : record.e164 ≠ ""
  sipSrtp : record.sipSrtp ∈ ["", "disabled", "optional", "mandatory"]
  sipTransport : record.sipTransport ∈ ["", "udp", "tls"]

theorem Accepted.butTls {record : AccountRecord} (h : Accepted record) : AcceptedButTls record :=
  ⟨h.e164, h.sipSrtp, h.sipTransport⟩

theorem AcceptedButTls.accepted_iff {record : AccountRecord} (h : AcceptedButTls record) :
    Accepted record ↔ record.tls.Trusted :=
  accepted_iff_trust h.e164 h.sipSrtp h.sipTransport

/-- An accepted edit does just that, and keeps the other checks passed. -/
theorem set_tls {record edited : AccountRecord} {field : ConfigField} {value : String}
    (hmem : field ∈ configFields) (hset : field.set record value = .ok edited) :
    edited.tls = record.tls.set field.name value ∧
      (AcceptedButTls record → AcceptedButTls edited) := by
  simp only [configFields, List.mem_cons, List.not_mem_nil, or_false] at hmem
  rcases hmem with rfl | rfl | rfl | rfl | rfl | rfl | rfl | rfl | rfl | rfl | rfl | rfl | rfl
  case inr.inr.inr.inr.inr.inr.inl =>
    obtain ⟨hword, rfl⟩ := ConfigField.word_set_ok.mp hset
    exact ⟨rfl, fun h => ⟨h.e164, List.mem_cons_of_mem "" hword, h.sipTransport⟩⟩
  case inr.inr.inr.inr.inr.inr.inr.inl =>
    obtain ⟨hword, rfl⟩ := ConfigField.word_set_ok.mp hset
    exact ⟨rfl, fun h => ⟨h.e164, h.sipSrtp, List.mem_cons_of_mem "" hword⟩⟩
  all_goals
    cases hset
    exact ⟨rfl, fun h => ⟨h.e164, h.sipSrtp, h.sipTransport⟩⟩

/-- Trust is lost by an edit of one of the three only. -/
theorem trusted_set_iff {record : AccountRecord} (h : record.tls.Trusted) (name value : String) :
    (record.tls.set name value).Trusted ↔ ¬ LosesTrust record name value := by
  unfold TlsSettings.set
  split_ifs with htransport hfile hinsecure
  · subst htransport
    simp [TlsSettings.Trusted, AccountRecord.tls, LosesTrust]
  · subst hfile
    simp [TlsSettings.Trusted, AccountRecord.tls, LosesTrust, and_left_comm]
  · subst hinsecure
    simp [TlsSettings.Trusted, AccountRecord.tls, LosesTrust]
    tauto
  · refine iff_of_true h ?_
    rintro (⟨hname, -⟩ | ⟨hname, -⟩ | ⟨hname, -⟩)
    · exact htransport hname
    · exact hfile hname
    · exact hinsecure hname

/-- An edit that the setter lets pass leaves an accepted row accepted exactly when it does not lose
the trust of `tls`. -/
theorem set_accepted_iff {record edited : AccountRecord} {name value : String} {field : ConfigField}
    (hfield : findConfigField name = .ok field) (hset : field.set record value = .ok edited)
    (haccepted : Accepted record) : Accepted edited ↔ ¬ LosesTrust record name value := by
  obtain ⟨hmem, rfl⟩ := findConfigField_mem hfield
  obtain ⟨htls, hkeeps⟩ := set_tls hmem hset
  have htrusted : record.tls.Trusted := haccepted.butTls.accepted_iff.mp haccepted
  rw [(hkeeps haccepted.butTls).accepted_iff, htls, trusted_set_iff htrusted]

/-! ## One command -/

section OneCommand

variable {files : Files} {accountName : String} {f : CommandFaults} {record : AccountRecord}

/-- A statement that is stepped once does not fail. -/
def Answers (f : Faults) : Prop := f.prepare = none ∧ f.step 0 = none

instance (f : Faults) : Decidable (Answers f) := inferInstanceAs (Decidable (_ ∧ _))

/-- Nothing fails that a command does to load its account's row. -/
structure LoadsQuietly (f : CommandFaults) : Prop where
  openStorage : f.openStorage = none
  hasAccount : Answers f.hasAccount
  loadAccount : Answers f.loadAccount

theorem hasAccount_true_iff {db : Db} {fs : Faults} :
    (Storage.hasAccount db accountName fs).value = .ok true ↔
      Answers fs ∧ accountName ∈ db.account := by
  have hfirst (column : Option Nat) :
      (Sqlite.firstRow prepareFailed fs [if accountName ∈ db.account then 1 else 0]).value =
          .ok column ↔
        fs.prepare = none ∧ column = if fs.step 0 = none then
          some (if accountName ∈ db.account then 1 else 0) else none := Sqlite.firstRow_ok_iff
  rw [Storage.hasAccount, Sqlite.Outcome.map_value]
  constructor
  · intro h
    cases hvalue : (Sqlite.firstRow prepareFailed fs
        [if accountName ∈ db.account then 1 else 0]).value with
    | error e => rw [hvalue] at h; cases h
    | ok column =>
      rw [hvalue] at h
      obtain ⟨hprepare, hcolumn⟩ := (hfirst column).mp hvalue
      have hpos : column.getD 0 > 0 := of_decide_eq_true (Except.ok.inj h)
      by_cases hstep : fs.step 0 = none
      · rw [hcolumn, if_pos hstep] at hpos
        refine ⟨⟨hprepare, hstep⟩, ?_⟩
        by_contra hno
        simp [hno] at hpos
      · rw [hcolumn, if_neg hstep] at hpos
        simp at hpos
  · rintro ⟨⟨hprepare, hstep⟩, hmem⟩
    rw [(hfirst _).mpr ⟨hprepare, (if_pos hstep).symm⟩]
    simp [hmem, Except.map]

theorem succeeds_ok_iff {outcome : Option RuntimeError} :
    succeeds outcome = .ok () ↔ outcome = none := by
  cases outcome <;> simp [succeeds]

theorem ensure_ok_iff {check : Bool} {e : RuntimeError} :
    ensure check e = .ok () ↔ check = true := by
  cases check <;> simp [ensure]

/-- The record that a command has loaded is the row. -/
theorem loadSavedAccount_ok_iff {db : Db} {hint : String} :
    loadSavedAccount db accountName hint f = .ok record ↔
      LoadsQuietly f ∧ db.row accountName = some record := by
  constructor
  · intro h
    obtain ⟨_, hopen, h⟩ := except_bind_ok.mp h
    obtain ⟨existing, hhas, h⟩ := except_bind_ok.mp h
    obtain ⟨_, hensure, hload⟩ := except_bind_ok.mp h
    obtain rfl : existing = true := ensure_ok_iff.mp hensure
    obtain ⟨hprepare, hstep, hrow⟩ := Storage.loadAccount_ok_iff.mp hload
    exact ⟨⟨succeeds_ok_iff.mp hopen, (hasAccount_true_iff.mp hhas).1, hprepare, hstep⟩, hrow⟩
  · rintro ⟨⟨hopen, hhas, hload⟩, hrow⟩
    have hmem : accountName ∈ db.account := AList.lookup_isSome.mp (Option.isSome_of_mem hrow)
    refine except_bind_ok.mpr ⟨(), succeeds_ok_iff.mpr hopen, ?_⟩
    refine except_bind_ok.mpr ⟨true, hasAccount_true_iff.mpr ⟨hhas, hmem⟩, ?_⟩
    exact except_bind_ok.mpr ⟨(), rfl, Storage.loadAccount_ok_iff.mpr ⟨hload.1, hload.2, hrow⟩⟩

/-- What an `UPDATE` of the configuration columns leaves of the files. -/
def Files.configured (files : Files) (accountName : String) (config : ConfigColumns) : Files :=
  { files with db := (Storage.updateAccountConfig files.db accountName config).1 }

theorem Files.configured_row (hrow : files.db.row accountName = some record)
    (config : ConfigColumns) :
    (files.configured accountName config).db.row accountName = some (record.configured config) :=
  updateAccountConfig_row hrow config

theorem saveChangedConfig_ok_iff {account : AccountRecord} {files' : Files}
    (hrow : files.db.row accountName = some record) :
    saveChangedConfig files accountName account f = .ok files' ↔
      Answers f.saveAccountConfig ∧ files' = files.configured accountName account.toConfigColumns := by
  have hmem : accountName ∈ files.db.account := AList.lookup_isSome.mp (Option.isSome_of_mem hrow)
  constructor
  · intro h
    cases hsave : (Storage.saveAccountConfig files.db accountName account
        f.saveAccountConfig).value with
    | error e => rw [saveChangedConfig, hsave] at h; cases h
    | ok db =>
      rw [saveChangedConfig, hsave] at h
      obtain ⟨⟨_, changes⟩, hupdate, -⟩ := Sqlite.Outcome.bind_ok_iff.mp hsave
      obtain ⟨hprepare, hstep, -⟩ := Sqlite.execute_ok_iff.mp hupdate
      refine ⟨⟨hprepare, hstep⟩, ?_⟩
      rw [← Except.ok.inj h, (Storage.saveAccountConfig_ok hsave).2]
      rfl
  · rintro ⟨⟨hprepare, hstep⟩, rfl⟩
    have hsave : (Storage.saveAccountConfig files.db accountName account
        f.saveAccountConfig).value = .ok (files.configured accountName account.toConfigColumns).db := by
      rw [Storage.saveAccountConfig, Sqlite.Outcome.bind_value_of_ok
        (Sqlite.execute_ok_iff.mpr ⟨hprepare, hstep, rfl⟩)]
      simp only [Storage.updateAccountConfig, if_pos hmem]
      rfl
    rw [saveChangedConfig, hsave]
    rfl

/-- Nothing fails that `config set`, `enable` and `disable` do. -/
structure EditsQuietly (f : CommandFaults) : Prop where
  load : LoadsQuietly f
  save : Answers f.saveAccountConfig

/-- A setting's name is known and its setter takes the value. -/
def SetsTo (record : AccountRecord) (field value : String) (edited : AccountRecord) : Prop :=
  ∃ configField, findConfigField field = .ok configField ∧
    configField.set record value = .ok edited

/-- A command for a row that is there either writes the edited row, or throws and changes nothing. -/
theorem ConfigWrite.run_cases (hrow : files.db.row accountName = some record) (write : ConfigWrite) :
    (EditsQuietly f ∧ ∃ edited, write.edit record = .ok edited ∧
      write.run files accountName f = (files.configured accountName edited.toConfigColumns, none)) ∨
    (¬ (EditsQuietly f ∧ ∃ edited, write.edit record = .ok edited) ∧
      ∃ e, write.run files accountName f = (files, some e)) := by
  rw [ConfigWrite.run_eq]
  generalize hresult : (do
    let account ← loadSavedAccount files.db accountName "" f
    let account ← write.edit account
    saveChangedConfig files accountName account f) = result
  cases result with
  | ok files' =>
    obtain ⟨account, hload, hrest⟩ := except_bind_ok.mp hresult
    obtain ⟨edited, hedit, hsave⟩ := except_bind_ok.mp hrest
    obtain ⟨hload, hrow'⟩ := loadSavedAccount_ok_iff.mp hload
    obtain rfl : account = record := Option.some.inj (hrow'.symm.trans hrow)
    obtain ⟨hanswers, rfl⟩ := (saveChangedConfig_ok_iff hrow).mp hsave
    exact .inl ⟨⟨hload, hanswers⟩, edited, hedit, rfl⟩
  | error e =>
    refine .inr ⟨?_, e, rfl⟩
    rintro ⟨⟨hload, hsave⟩, edited, hedit⟩
    have hok : Except.error e = .ok (files.configured accountName edited.toConfigColumns) := by
      rw [← hresult]
      refine except_bind_ok.mpr ⟨record, loadSavedAccount_ok_iff.mpr ⟨hload, hrow⟩, ?_⟩
      exact except_bind_ok.mpr ⟨edited, hedit, (saveChangedConfig_ok_iff hrow).mpr ⟨hsave, rfl⟩⟩
    cases hok

/-- A `config set` either writes the edited row, or throws and changes nothing. -/
theorem cmdConfigSet_cases (hrow : files.db.row accountName = some record) (field value : String) :
    (EditsQuietly f ∧ ∃ edited, SetsTo record field value edited ∧
      cmdConfigSet files accountName field value f =
        (files.configured accountName edited.toConfigColumns, none)) ∨
    (¬ (EditsQuietly f ∧ ∃ edited, SetsTo record field value edited) ∧
      ∃ e, cmdConfigSet files accountName field value f = (files, some e)) := by
  have hedit (edited : AccountRecord) :
      (ConfigWrite.set field value).edit record = .ok edited ↔ SetsTo record field value edited :=
    except_bind_ok
  simp only [← hedit]
  exact ConfigWrite.run_cases hrow (.set field value)

end OneCommand

/-! ## Sequences of commands -/

section Edits

variable {accountName : String} {files : Files} {record : AccountRecord}

/-- One `config set` for the account, and what fails while it runs. -/
structure ConfigEdit where
  field : String
  value : String
  faults : CommandFaults := {}

def ConfigEdit.run (accountName : String) (files : Files) (edit : ConfigEdit) : Files :=
  (cmdConfigSet files accountName edit.field edit.value edit.faults).1

/-- The daemon accepts the account's row, and has the account in its configuration if it is
enabled. -/
structure Usable (accountName : String) (files : Files) : Prop where
  accepted : ∃ record config, files.db.row accountName = some record ∧
    accountConfigFromRecord accountName record = .ok config
  loaded : ∀ record, files.db.row accountName = some record → record.enabled = true →
    ∀ global newConfig, DaemonConfig.load (.ok global) files.db .quiet = .ok newConfig →
      ∃ config ∈ newConfig.accounts, config.name = accountName

/-- Which only takes an accepted row. -/
theorem usable_iff (hrow : files.db.row accountName = some record) :
    Usable accountName files ↔ Accepted record := by
  constructor
  · rintro ⟨⟨record', config, hrow', hconfig⟩, -⟩
    obtain rfl : record' = record := Option.some.inj (hrow'.symm.trans hrow)
    exact accepted_iff.mp ⟨config, hconfig⟩
  · intro haccepted
    obtain ⟨config, hconfig⟩ := accepted_iff.mpr haccepted
    refine ⟨⟨record, config, hrow, hconfig⟩, fun record' hrow' henabled global newConfig hload => ?_⟩
    obtain rfl : record' = record := Option.some.inj (hrow'.symm.trans hrow)
    exact ⟨config, (mem_load_accounts hload).mpr ⟨record', loads_quiet hrow henabled hconfig⟩,
      accountConfigFromRecord_name hconfig⟩

/-- An edit that goes through leaves `tls` with a CA file or with `sip_tls_insecure`. -/
def KeepsTrust (accountName : String) (files : Files) (edit : ConfigEdit) : Prop :=
  ∀ record, files.db.row accountName = some record → EditsQuietly edit.faults →
    ¬ LosesTrust record edit.field edit.value

/-- The values with which trust is lost are values that the setters take. -/
theorem LosesTrust.sets {field value : String} (h : LosesTrust record field value) :
    ∃ edited, SetsTo record field value edited := by
  rcases h with ⟨rfl, rfl, -⟩ | ⟨rfl, -⟩ | ⟨rfl, -⟩
  · exact ⟨_, _, rfl, rfl⟩
  · exact ⟨_, _, rfl, rfl⟩
  · exact ⟨_, _, rfl, rfl⟩

/-- The row that is written is accepted when the edited record is: the setters leave the identity
columns alone. -/
theorem accepted_configured_iff {edited : AccountRecord} {field value : String}
    (h : SetsTo record field value edited) :
    Accepted (record.configured edited.toConfigColumns) ↔ Accepted edited := by
  obtain ⟨configField, hfield, hset⟩ := h
  rw [set_columns (findConfigField_mem hfield).1 hset]
  exact ⟨fun h => ⟨h.e164, h.sipSrtp, h.sipTransport, h.trust⟩,
    fun h => ⟨h.e164, h.sipSrtp, h.sipTransport, h.trust⟩⟩

/-- One step of such a sequence. -/
theorem configEdit_usable_iff (edit : ConfigEdit) (h : Usable accountName files) :
    Usable accountName (edit.run accountName files) ↔ KeepsTrust accountName files edit := by
  obtain ⟨record, _, hrow, -⟩ := h.accepted
  have haccepted := (usable_iff hrow).mp h
  have hkeeps : KeepsTrust accountName files edit ↔
      (EditsQuietly edit.faults → ¬ LosesTrust record edit.field edit.value) := by
    constructor
    · exact fun hk => hk record hrow
    · intro hk record' hrow'
      obtain rfl : record' = record := Option.some.inj (hrow'.symm.trans hrow)
      exact hk
  rw [hkeeps]
  unfold ConfigEdit.run
  rcases cmdConfigSet_cases (f := edit.faults) hrow edit.field edit.value with
    ⟨hquiet, edited, hsets, hrun⟩ | ⟨hrefused, e, hrun⟩
  · obtain ⟨configField, hfield, hset⟩ := hsets
    rw [hrun, usable_iff (Files.configured_row hrow _),
      accepted_configured_iff ⟨configField, hfield, hset⟩, set_accepted_iff hfield hset haccepted]
    exact ⟨fun h _ => h, fun h => h hquiet⟩
  · rw [hrun]
    exact iff_of_true h fun hquiet hloses => hrefused ⟨hquiet, hloses.sets⟩

/-- Along a sequence of `config set` commands an account that the daemon accepts stays usable exactly
when no edit takes the trust from `tls`. -/
theorem configEdits_iff (accountName : String) (files : Files) (edits : List ConfigEdit)
    (hstart : Usable accountName files) :
    Always (ConfigEdit.run accountName) (Usable accountName) files edits ↔
      Along (ConfigEdit.run accountName) (KeepsTrust accountName) files edits :=
  Runs.always_congr (I := fun _ => True) (fun _ _ _ _ _ => trivial)
    (fun _ edit _ husable => configEdit_usable_iff edit husable) trivial hstart

/-- An account on `udp`, as a registration leaves it. -/
def udpRecord : AccountRecord := { e164 := "+4930900", aci := "aci-0", pni := "", password := "" }

def udpAccount : Files := { db := { account := AList.insert "trunk" udpRecord ∅ } }

theorem udpAccount_usable : Usable "trunk" udpAccount :=
  (usable_iff (show udpAccount.db.row "trunk" = some udpRecord from rfl)).mpr
    ⟨by decide, by decide, by decide, by decide⟩

/-- The CA file first, then `tls`: the account stays usable. -/
theorem trust_before_transport : Always (ConfigEdit.run "trunk") (Usable "trunk") udpAccount
    [⟨"sip_tls_ca_file", "/etc/asterisk/ca.pem", {}⟩, ⟨"sip_transport", "tls", {}⟩] := by
  refine (configEdits_iff "trunk" udpAccount _ udpAccount_usable).mpr ⟨?_, ?_, trivial⟩
  · intro record hrow _
    obtain rfl : udpRecord = record := Option.some.inj hrow
    decide
  · intro record hrow _
    obtain rfl : udpRecord.configured { udpRecord with sipTlsCaFile := "/etc/asterisk/ca.pem" } =
      record := Option.some.inj hrow
    decide

/-- `tls` first: the command succeeds, and the daemon no longer has the account. -/
theorem transport_before_trust : Usable "trunk" udpAccount ∧
    (cmdConfigSet udpAccount "trunk" "sip_transport" "tls" {}).2 = none ∧
    ¬ Usable "trunk" (cmdConfigSet udpAccount "trunk" "sip_transport" "tls" {}).1 := by
  refine ⟨udpAccount_usable, rfl, fun h => ?_⟩
  have hrow : (cmdConfigSet udpAccount "trunk" "sip_transport" "tls" {}).1.db.row "trunk" =
      some (udpRecord.configured { udpRecord with sipTransport := "tls" }) := rfl
  have htrust := ((usable_iff hrow).mp h).trust
  revert htrust
  decide

end Edits

end Signal2sip
