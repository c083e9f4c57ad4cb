import Signal2sip.Gendb.ConfigColumns
import Signal2sip.Laws.AccountWrites
import Signal2sip.Laws.ConfigEdits
import Signal2sip.Lib.Registers

/-!
# `config get` shows what `config set` has written

Each of the thirteen settings has a column of `account` (`ConfigSetting.column`). The field that the code
keeps under the setting's name shows that column and changes no other one (`exists_field`), through a
load and a save that only know positions. So a command changes one column or nothing, on the columns as
on the records (`step_cases`), and the settings are registers of their own (`lawful`): what is shown
after a run is the last value that went through.

A process loads `device_id` as an `int`, so what it has in memory is not always the row's record; no
command writes it back.
-/

namespace Signal2sip

open Sqlite (Casts Faults Value)

/-! ## The settings -/

/-- The thirteen fields of `config get` and `config set`. -/
inductive ConfigSetting
  | serverUrl | sipHost | sipExtension | sipPassword | sipBridgeDestination | sipBridgeDid
  | sipSrtp | sipTransport | sipTlsCaFile | sipTlsInsecure | outgoingCallTarget
  | signalProxy | signalCensorshipCircumvention
deriving DecidableEq, Repr

inductive SettingKind
  | text
  | word (words : List String)
  | flag
deriving DecidableEq, Repr

/-- What a flag takes for yes; everything else is no. -/
def saysYes (value : String) : Bool := value = "yes" || value = "true" || value = "1"

namespace SettingKind

def accepts : SettingKind → String → Prop
  | word words, value => value ∈ words
  | _, _ => True

/-- What is stored for a value, and how `config get` shows it. -/
def stored : SettingKind → String → Value
  | flag, value => bindBool (saysYes value)
  | _, value => .text value

def shows : SettingKind → String → String
  | flag, value => if saysYes value then "yes" else "no"
  | _, value => value

/-- How `config get` shows what a column holds. -/
def shown (cast : Casts) : SettingKind → Value → String
  | flag, v => if columnInt cast v = 0 then "no" else "yes"
  | _, v => columnText cast v

instance (kind : SettingKind) (value : String) : Decidable (kind.accepts value) := by
  cases kind <;> unfold accepts <;> infer_instance

theorem shown_stored (cast : Casts) (kind : SettingKind) (value : String) :
    kind.shown cast (kind.stored value) = kind.shows value := by
  cases kind with
  | text => rfl
  | word words => rfl
  | flag =>
    simp only [shown, stored, shows, columnInt_bindBool]
    cases saysYes value <;> rfl

end SettingKind

namespace ConfigSetting

def all : List ConfigSetting :=
  [serverUrl, sipHost, sipExtension, sipPassword, sipBridgeDestination, sipBridgeDid, sipSrtp,
    sipTransport, sipTlsCaFile, sipTlsInsecure, outgoingCallTarget, signalProxy,
    signalCensorshipCircumvention]

def name : ConfigSetting → String
  | serverUrl => "server_url"
  | sipHost => "sip_host"
  | sipExtension => "sip_extension"
  | sipPassword => "sip_password"
  | sipBridgeDestination => "sip_bridge_destination"
  | sipBridgeDid => "sip_bridge_did"
  | sipSrtp => "sip_srtp"
  | sipTransport => "sip_transport"
  | sipTlsCaFile => "sip_tls_ca_file"
  | sipTlsInsecure => "sip_tls_insecure"
  | outgoingCallTarget => "outgoing_call_target"
  | signalProxy => "signal_proxy"
  | signalCensorshipCircumvention => "signal_censorship_circumvention"

def column : ConfigSetting → AccountColumn
  | serverUrl => .serverUrl
  | sipHost => .sipHost
  | sipExtension => .sipExtension
  | sipPassword => .sipPassword
  | sipBridgeDestination => .sipBridgeDestination
  | sipBridgeDid => .sipBridgeDid
  | sipSrtp => .sipSrtp
  | sipTransport => .sipTransport
  | sipTlsCaFile => .sipTlsCaFile
  | sipTlsInsecure => .sipTlsInsecure
  | outgoingCallTarget => .outgoingCallTarget
  | signalProxy => .signalProxy
  | signalCensorshipCircumvention => .signalCensorshipCircumvention

def kind : ConfigSetting → SettingKind
  | sipSrtp => .word ["disabled", "optional", "mandatory"]
  | sipTransport => .word ["udp", "tls"]
  | sipTlsInsecure | signalCensorshipCircumvention => .flag
  | _ => .text

theorem name_injective {s s' : ConfigSetting} (h : s.name = s'.name) : s = s' := by
  cases s <;> cases s' <;> first | rfl | exact absurd h (by decide)

theorem column_injective {s s' : ConfigSetting} (h : s.column = s'.column) : s = s' := by
  cases s <;> cases s' <;> first | rfl | exact absurd h (by decide)

end ConfigSetting

/-! ## A field of the code and its setting -/

/-- The row with one column changed, and the counter one higher. -/
def changedRow (cast : Casts) (row : AccountRow) (column : AccountColumn) (v : Value) : AccountRow :=
  Function.update (Function.update row column v) .configVersion
    (bindInt (columnInt64 cast (row .configVersion) + 1))

/-- The getter shows the setting's column, and the setter changes that column alone. -/
structure Implements (field : ConfigField) (s : ConfigSetting) : Prop where
  get : ∀ cast accountName record,
    field.get record = s.kind.shown cast (columnsOf accountName record s.column)
  accepts : ∀ record value, s.kind.accepts value ↔ ∃ edited, field.set record value = .ok edited
  set : ∀ loaded value edited, field.set loaded value = .ok edited → ∀ cast accountName record,
    record.toConfigColumns = loaded.toConfigColumns →
      columnsOf accountName (AccountRows.withConfig record edited.toConfigColumns) =
        changedRow cast (columnsOf accountName record) s.column (s.kind.stored value)

section Kinds

variable {name : String} {s : ConfigSetting}

theorem implements_text {get : ConfigColumns → String} {put : ConfigColumns → String → ConfigColumns}
    (hkind : s.kind = .text)
    (hget : ∀ accountName record, columnsOf accountName record s.column =
      .text (get record.toConfigColumns))
    (hput : ∀ cast accountName record value,
      columnsOf accountName (AccountRows.withConfig record (put record.toConfigColumns value)) =
        changedRow cast (columnsOf accountName record) s.column (.text value)) :
    Implements (.text name get put) s where
  get cast accountName record := by
    rw [hkind, hget]
    rfl
  accepts record value := by
    rw [hkind]
    exact iff_of_true trivial ⟨_, rfl⟩
  set loaded value edited hset cast accountName record hsame := by
    obtain rfl := ConfigField.text_set_ok.mp hset
    rw [hkind, ← hsame]
    exact hput cast accountName record value

theorem implements_word {words : List String} {get : ConfigColumns → String}
    {put : ConfigColumns → String → ConfigColumns} (hkind : s.kind = .word words)
    (hget : ∀ accountName record, columnsOf accountName record s.column =
      .text (get record.toConfigColumns))
    (hput : ∀ cast accountName record value,
      columnsOf accountName (AccountRows.withConfig record (put record.toConfigColumns value)) =
        changedRow cast (columnsOf accountName record) s.column (.text value)) :
    Implements (.word name words get put) s where
  get cast accountName record := by
    rw [hkind, hget]
    rfl
  accepts record value := by
    rw [hkind]
    constructor
    · exact fun hword => ⟨_, ConfigField.word_set_ok.mpr ⟨hword, rfl⟩⟩
    · rintro ⟨edited, hset⟩
      exact (ConfigField.word_set_ok.mp hset).1
  set loaded value edited hset cast accountName record hsame := by
    obtain ⟨-, rfl⟩ := ConfigField.word_set_ok.mp hset
    rw [hkind, ← hsame]
    exact hput cast accountName record value

theorem implements_flag {get : ConfigColumns → Bool} {put : ConfigColumns → Bool → ConfigColumns}
    (hkind : s.kind = .flag)
    (hget : ∀ accountName record, columnsOf accountName record s.column =
      bindBool (get record.toConfigColumns))
    (hput : ∀ cast accountName record value,
      columnsOf accountName (AccountRows.withConfig record (put record.toConfigColumns value)) =
        changedRow cast (columnsOf accountName record) s.column (bindBool value)) :
    Implements (.flag name get put) s where
  get cast accountName record := by
    rw [hkind, hget, SettingKind.shown]
    simp only [columnInt_bindBool, ConfigField.flag]
    cases get record.toConfigColumns <;> rfl
  accepts record value := by
    rw [hkind]
    exact iff_of_true trivial ⟨_, rfl⟩
  set loaded value edited hset cast accountName record hsame := by
    obtain rfl := ConfigField.flag_set_ok.mp hset
    rw [hkind, ← hsame]
    exact hput cast accountName record _

end Kinds

/-- Every setting has its field, under its name. -/
theorem exists_field (s : ConfigSetting) :
    ∃ field, findConfigField s.name = .ok field ∧ Implements field s := by
  cases s
  case sipSrtp | sipTransport =>
    refine ⟨_, rfl, implements_word rfl (fun _ _ => rfl) fun cast accountName record value => ?_⟩
    funext c
    cases c <;> rfl
  case sipTlsInsecure | signalCensorshipCircumvention =>
    refine ⟨_, rfl, implements_flag rfl (fun _ _ => rfl) fun cast accountName record value => ?_⟩
    funext c
    cases c <;> rfl
  all_goals
    refine ⟨_, rfl, implements_text rfl (fun _ _ => rfl) fun cast accountName record value => ?_⟩
    funext c
    cases c <;> rfl

/-- And there are no other fields. -/
theorem exists_setting {name : String} {field : ConfigField} (h : findConfigField name = .ok field) :
    ∃ s : ConfigSetting, s.name = name := by
  obtain ⟨hmem, rfl⟩ := findConfigField_mem h
  have hnames : configFields.map ConfigField.name = ConfigSetting.all.map ConfigSetting.name := rfl
  have hname : field.name ∈ ConfigSetting.all.map ConfigSetting.name :=
    hnames ▸ List.mem_map_of_mem hmem
  obtain ⟨s, -, hs⟩ := List.mem_map.mp hname
  exact ⟨s, hs⟩

/-! ## One change -/

def ConfigSetting.ofName (name : String) : Option ConfigSetting :=
  ConfigSetting.all.find? fun s => s.name = name

theorem ConfigSetting.ofName_iff {name : String} {s : ConfigSetting} :
    ConfigSetting.ofName name = some s ↔ s.name = name := by
  constructor
  · intro h
    have hname := List.find?_some h
    exact of_decide_eq_true hname
  · rintro rfl
    cases s <;> rfl

namespace ConfigWrite

/-- The column that a command changes and what it puts there; nothing for an unknown field and for a
value that the field does not take. -/
def target : ConfigWrite → Option (AccountColumn × Value)
  | .set field value => do
    let s ← ConfigSetting.ofName field
    if s.kind.accepts value then some (s.column, s.kind.stored value) else none
  | .setEnabled enabled => some (.enabled, bindBool enabled)

variable {write : ConfigWrite} {loaded : AccountRecord}

theorem target_set_iff {field value : String} {column : AccountColumn} {v : Value} :
    (ConfigWrite.set field value).target = some (column, v) ↔
      ∃ s : ConfigSetting, s.name = field ∧ s.kind.accepts value ∧ column = s.column ∧
        v = s.kind.stored value := by
  rw [target, Option.bind_eq_bind, Option.bind_eq_some_iff]
  constructor
  · rintro ⟨s, hname, htarget⟩
    obtain ⟨haccepts, heq⟩ := Option.ite_none_right_eq_some.mp htarget
    cases heq
    exact ⟨s, ConfigSetting.ofName_iff.mp hname, haccepts, rfl, rfl⟩
  · rintro ⟨s, hname, haccepts, rfl, rfl⟩
    exact ⟨s, ConfigSetting.ofName_iff.mpr hname, if_pos haccepts⟩

/-- An edit that goes through changes the column of the command in any row with the same settings. -/
theorem edit_ok {edited : AccountRecord} (h : write.edit loaded = .ok edited) :
    ∃ column v, write.target = some (column, v) ∧ ∀ cast accountName record,
      record.toConfigColumns = loaded.toConfigColumns →
        columnsOf accountName (AccountRows.withConfig record edited.toConfigColumns) =
          changedRow cast (columnsOf accountName record) column v := by
  cases write with
  | set name value =>
    obtain ⟨field, hfield, hset⟩ := except_bind_ok.mp h
    obtain ⟨s, rfl⟩ := exists_setting hfield
    obtain ⟨field', hfield', himplements⟩ := exists_field s
    obtain rfl : field = field' := Except.ok.inj (hfield.symm.trans hfield')
    have haccepts := (himplements.accepts loaded value).mpr ⟨edited, hset⟩
    exact ⟨s.column, s.kind.stored value, target_set_iff.mpr ⟨s, rfl, haccepts, rfl, rfl⟩,
      himplements.set loaded value edited hset⟩
  | setEnabled enabled =>
    cases h
    refine ⟨.enabled, bindBool enabled, rfl, fun cast accountName record hsame => ?_⟩
    rw [← hsame]
    funext c
    cases c <;> rfl

/-- It goes through when there is such a column. -/
theorem exists_edit (h : write.target.isSome) : ∃ edited, write.edit loaded = .ok edited := by
  cases write with
  | set name value =>
    obtain ⟨⟨column, v⟩, htarget⟩ := Option.isSome_iff_exists.mp h
    obtain ⟨s, rfl, haccepts, -, -⟩ := target_set_iff.mp htarget
    obtain ⟨field, hfield, himplements⟩ := exists_field s
    obtain ⟨edited, hset⟩ := (himplements.accepts loaded value).mp haccepts
    exact ⟨edited, except_bind_ok.mpr ⟨field, hfield, hset⟩⟩
  | setEnabled enabled => exact ⟨_, rfl⟩

end ConfigWrite

/-! ## Loading and saving by position -/

namespace AccountRows

variable {t : AccountRows} {db : Db} {accountName : String} {cast : Casts} {f : CommandFaults}

/-- The table has a row for the accounts that have a record. -/
theorem text_mem_iff (h : t.Represents db) : Value.text accountName ∈ t ↔ accountName ∈ db.account := by
  rw [← AList.lookup_isSome, ← AList.lookup_isSome,
    show t.lookup (.text accountName) = _ from h accountName, Option.isSome_map]
  rfl

/-- What a command loads is made of the record. -/
theorem loadSavedAccount_eq (h : t.Represents db) :
    t.loadSavedAccount accountName cast f =
      (Signal2sip.loadSavedAccount db accountName "" f).map loadedRecord := by
  have hhas : t.hasAccount accountName f.hasAccount =
      Storage.hasAccount db accountName f.hasAccount := by
    simp only [hasAccount, Storage.hasAccount, text_mem_iff h]
  have hload := (loadAccount_loaded h accountName cast f.loadAccount).value.eq_map
  rw [loadSavedAccount, Signal2sip.loadSavedAccount, hhas, hload, String.append_empty]
  cases succeeds f.openStorage with
  | error e => rfl
  | ok _ =>
    cases (Storage.hasAccount db accountName f.hasAccount).value with
    | error e => rfl
    | ok existing => cases existing <;> rfl

theorem loadSavedAccount_ok_iff (h : t.Represents db) {loaded : AccountRecord} :
    t.loadSavedAccount accountName cast f = .ok loaded ↔
      LoadsQuietly f ∧ ∃ record, db.row accountName = some record ∧ loaded = loadedRecord record := by
  rw [loadSavedAccount_eq h]
  constructor
  · intro hmap
    cases hrecord : Signal2sip.loadSavedAccount db accountName "" f with
    | error e =>
      rw [hrecord] at hmap
      cases hmap
    | ok record =>
      rw [hrecord] at hmap
      obtain ⟨hquiet, hrow⟩ := Signal2sip.loadSavedAccount_ok_iff.mp hrecord
      exact ⟨hquiet, record, hrow, (Except.ok.inj hmap).symm⟩
  · rintro ⟨hquiet, record, hrow, rfl⟩
    rw [Signal2sip.loadSavedAccount_ok_iff.mpr ⟨hquiet, hrow⟩]
    rfl

theorem saveAccountConfig_ok_iff {record account : AccountRecord}
    (h : t.Keeps accountName (some record)) {fs : Faults} {t' : AccountRows} :
    (t.saveAccountConfig accountName cast account fs).value = .ok t' ↔
      Answers fs ∧ t' = t.insert (.text accountName)
        (columnsOf accountName (withConfig record account.toConfigColumns)) := by
  have hupdate := updateRow_keeps h cast account
  have hbound : Sqlite.bound (saveAccountConfigBinds accountName account) 15 = .text accountName := rfl
  rw [saveAccountConfig, Sqlite.Outcome.bind_ok_iff]
  simp only [hbound, hupdate, Option.elim_some, Sqlite.execute_ok_iff]
  constructor
  · rintro ⟨⟨t'', changes⟩, ⟨hprepare, hstep, heq⟩, hsaved⟩
    cases heq
    exact ⟨⟨hprepare, hstep⟩, (Except.ok.inj hsaved).symm⟩
  · rintro ⟨⟨hprepare, hstep⟩, rfl⟩
    exact ⟨_, ⟨hprepare, hstep, rfl⟩, rfl⟩

end AccountRows

/-! ## One command -/

namespace ConfigCommand

variable {c : ConfigCommand} {cast : Casts} {t : AccountRows} {db : Db}

/-- Nothing fails, the account has a row, and the command has a column to change. -/
structure Goes (c : ConfigCommand) (db : Db) : Prop where
  quiet : EditsQuietly c.faults
  row : (db.row c.accountName).isSome
  target : c.write.target.isSome

theorem runRows_eq (c : ConfigCommand) (cast : Casts) (t : AccountRows) :
    c.runRows cast t = t.attempt (do
      let account ← t.loadSavedAccount c.accountName cast c.faults
      let account ← c.write.edit account
      (t.saveAccountConfig c.accountName cast account c.faults.saveAccountConfig).value) := by
  rw [runRows]
  cases c.write with
  | set field value => simp only [ConfigWrite.edit, AccountRows.cmdConfigSet, bind_assoc]
  | setEnabled enabled => rfl

/-- On the columns a command changes one of them and counts, or throws and leaves the rows. -/
theorem runRows_cases (cast : Casts) (h : t.Represents db) (c : ConfigCommand) :
    (∃ record column v, c.Goes db ∧ db.row c.accountName = some record ∧
      c.write.target = some (column, v) ∧
        c.runRows cast t = (t.insert (.text c.accountName)
          (changedRow cast (columnsOf c.accountName record) column v), none)) ∨
    (¬ c.Goes db ∧ ∃ e, c.runRows cast t = (t, some e)) := by
  rw [runRows_eq]
  generalize hresult : (do
    let account ← t.loadSavedAccount c.accountName cast c.faults
    let account ← c.write.edit account
    (t.saveAccountConfig c.accountName cast account c.faults.saveAccountConfig).value) = result
  cases result with
  | ok t' =>
    obtain ⟨loaded, hload, hrest⟩ := except_bind_ok.mp hresult
    obtain ⟨edited, hedit, hsave⟩ := except_bind_ok.mp hrest
    obtain ⟨hquiet, record, hrow, rfl⟩ := (AccountRows.loadSavedAccount_ok_iff h).mp hload
    obtain ⟨column, v, htarget, hcolumns⟩ := ConfigWrite.edit_ok hedit
    have hkeeps : t.Keeps c.accountName (some record) := hrow ▸ h c.accountName
    obtain ⟨hanswers, rfl⟩ := (AccountRows.saveAccountConfig_ok_iff hkeeps).mp hsave
    refine .inl ⟨record, column, v, ⟨⟨hquiet, hanswers⟩, ?_, ?_⟩, hrow, htarget, ?_⟩
    · rw [hrow]
      rfl
    · rw [htarget]
      rfl
    · rw [hcolumns cast c.accountName record rfl]
      rfl
  | error e =>
    refine .inr ⟨fun hgoes => ?_, e, rfl⟩
    obtain ⟨record, hrow⟩ := Option.isSome_iff_exists.mp hgoes.row
    obtain ⟨edited, hedit⟩ : ∃ edited, c.write.edit (AccountRows.loadedRecord record) = .ok edited :=
      ConfigWrite.exists_edit hgoes.target
    have hkeeps : t.Keeps c.accountName (some record) := hrow ▸ h c.accountName
    have hok : Except.error e = .ok (t.insert (.text c.accountName)
        (columnsOf c.accountName (AccountRows.withConfig record edited.toConfigColumns))) := by
      rw [← hresult]
      refine except_bind_ok.mpr ⟨AccountRows.loadedRecord record, ?_, ?_⟩
      · exact (AccountRows.loadSavedAccount_ok_iff h).mpr ⟨hgoes.quiet.load, record, hrow, rfl⟩
      · refine except_bind_ok.mpr ⟨edited, hedit, ?_⟩
        exact (AccountRows.saveAccountConfig_ok_iff hkeeps).mpr ⟨hgoes.quiet.save, rfl⟩
    cases hok

/-- And so it does on the records. -/
theorem run_cases (files : Files) (c : ConfigCommand) :
    (∃ record edited, c.Goes files.db ∧ files.db.row c.accountName = some record ∧
      c.write.edit record = .ok edited ∧ c.write.run files c.accountName c.faults =
        (files.configured c.accountName edited.toConfigColumns, none)) ∨
    (¬ c.Goes files.db ∧ ∃ e, c.write.run files c.accountName c.faults = (files, some e)) := by
  cases hrow : files.db.row c.accountName with
  | none =>
    have hno : ¬ c.Goes files.db := by
      rintro ⟨-, hsome, -⟩
      rw [hrow] at hsome
      cases hsome
    cases hload : loadSavedAccount files.db c.accountName "" c.faults with
    | error e =>
      refine .inr ⟨hno, e, ?_⟩
      rw [ConfigWrite.run_eq, hload]
      rfl
    | ok record => cases hrow.symm.trans (loadSavedAccount_ok_iff.mp hload).2
  | some record =>
    rcases ConfigWrite.run_cases (f := c.faults) hrow c.write with
      ⟨hquiet, edited, hedit, hrun⟩ | ⟨hrefused, e, hrun⟩
    · obtain ⟨column, v, htarget, -⟩ := ConfigWrite.edit_ok hedit
      exact .inl ⟨record, edited, ⟨hquiet, hrow ▸ rfl, htarget ▸ rfl⟩, rfl, hedit, hrun⟩
    · exact .inr ⟨fun hgoes => hrefused ⟨hgoes.quiet, ConfigWrite.exists_edit hgoes.target⟩, e, hrun⟩

/-- A step does on the columns what it does on the records. -/
theorem step_cases (cast : Casts) {s : Stored} (h : s.rows.Represents s.files.db) (c : ConfigCommand) :
    (∃ row column v config, c.Goes s.files.db ∧ s.rows.lookup (.text c.accountName) = some row ∧
      c.write.target = some (column, v) ∧ c.step cast s =
        (⟨s.rows.insert (.text c.accountName) (changedRow cast row column v),
          s.files.configured c.accountName config⟩, none) ∧
      (c.step cast s).1.rows.Represents (c.step cast s).1.files.db) ∨
    (¬ c.Goes s.files.db ∧ ∃ e, c.step cast s = (s, some e)) := by
  rcases runRows_cases cast h c with ⟨record, column, v, hgoes, hrow, htarget, hrows⟩ | ⟨hno, e, hrows⟩
  · rcases run_cases s.files c with ⟨record', edited, -, hrow', hedit, hrun⟩ | ⟨hno, -⟩
    · obtain rfl : record = record' := Option.some.inj (hrow.symm.trans hrow')
      obtain ⟨column', v', htarget', hcolumns⟩ := ConfigWrite.edit_ok hedit
      obtain ⟨rfl, rfl⟩ : column = column' ∧ v = v' :=
        Prod.mk.inj (Option.some.inj (htarget.symm.trans htarget'))
      have hstep : c.step cast s = (⟨s.rows.insert (.text c.accountName)
          (changedRow cast (columnsOf c.accountName record) column v),
            s.files.configured c.accountName edited.toConfigColumns⟩, none) := by
        rw [step, hrows, hrun]
      refine .inl ⟨columnsOf c.accountName record, column, v, edited.toConfigColumns, hgoes, ?_,
        htarget, hstep, ?_⟩
      · rw [show s.rows.lookup (.text c.accountName) = _ from h c.accountName, hrow]
        rfl
      · have hothers := AccountRows.updateAccountConfig_row s.files.db c.accountName
          edited.toConfigColumns
        rw [hstep, ← hcolumns cast c.accountName record rfl]
        refine h.put ?_ fun name hname => ?_
        · exact (Files.configured_row hrow _)
        · exact (hothers name).trans (if_neg hname)
    · exact absurd hgoes hno
  · rcases run_cases s.files c with ⟨-, -, hgoes, -⟩ | ⟨-, e', hrun⟩
    · exact absurd hgoes hno
    · refine .inr ⟨hno, e, ?_⟩
      rw [step, hrows, hrun]

end ConfigCommand

/-! ## Runs of commands -/

theorem ConfigSetting.column_ne (s : ConfigSetting) :
    s.column ≠ .configVersion ∧ s.column ≠ .enabled := by
  cases s <;> exact ⟨by decide, by decide⟩

theorem changedRow_column {cast : Casts} {row : AccountRow} {column : AccountColumn} {v : Value}
    (s : ConfigSetting) :
    changedRow cast row column v s.column = if s.column = column then v else row s.column := by
  rw [changedRow, Function.update_of_ne s.column_ne.1, Function.update_apply]

/-- What a setting of an account shows. -/
def Stored.shown (cast : Casts) (k : String × ConfigSetting) (s : Stored) : String :=
  ((s.rows.lookup (.text k.1)).map fun row => k.2.kind.shown cast (row k.2.column)).getD ""

namespace ConfigCommand

/-- What a command that goes through makes a setting of an account show. -/
def shows (k : String × ConfigSetting) (c : ConfigCommand) : Option String :=
  match c.write with
  | .set field value =>
    if c.accountName = k.1 ∧ field = k.2.name then some (k.2.kind.shows value) else none
  | .setEnabled _ => none

/-- The column that was changed, shown. -/
theorem shown_changedRow {cast : Casts} {row : AccountRow} {column : AccountColumn} {v : Value}
    {c : ConfigCommand} (htarget : c.write.target = some (column, v)) (s : ConfigSetting) :
    s.kind.shown cast (changedRow cast row column v s.column) =
      (c.shows (c.accountName, s)).getD (s.kind.shown cast (row s.column)) := by
  rw [changedRow_column]
  cases hwrite : c.write with
  | set field value =>
    rw [hwrite] at htarget
    obtain ⟨s', rfl, -, rfl, rfl⟩ := ConfigWrite.target_set_iff.mp htarget
    by_cases hsame : s' = s
    · subst hsame
      have hshows : c.shows (c.accountName, s') = some (s'.kind.shows value) := by
        rw [shows, hwrite]
        exact if_pos ⟨rfl, rfl⟩
      rw [if_pos rfl, SettingKind.shown_stored, hshows, Option.getD_some]
    · have hcolumn : s.column ≠ s'.column := fun h => hsame (ConfigSetting.column_injective h).symm
      have hshows : c.shows (c.accountName, s) = none := by
        rw [shows, hwrite]
        exact if_neg fun h => hsame (ConfigSetting.name_injective h.2)
      rw [if_neg hcolumn, hshows, Option.getD_none]
  | setEnabled enabled =>
    have hshows : c.shows (c.accountName, s) = none := by rw [shows, hwrite]
    rw [hwrite] at htarget
    cases htarget
    rw [if_neg s.column_ne.2, hshows, Option.getD_none]

theorem shows_ne {c : ConfigCommand} {k : String × ConfigSetting} (h : k.1 ≠ c.accountName) :
    c.shows k = none := by
  rw [shows]
  cases c.write with
  | set field value => exact if_neg fun hsame => h hsame.1.symm
  | setEnabled enabled => rfl

theorem lawful (cast : Casts) : Registers.Lawful (step cast)
    (fun s => s.rows.Represents s.files.db) (Stored.shown cast) shows where
  keep s c h := by
    rcases step_cases cast h c with ⟨row, column, v, config, -, -, -, -, hnext⟩ | ⟨-, e, hstep⟩
    · exact hnext
    · rw [Registers.next, hstep]
      exact h
  accepts s c k h haccepted := by
    rcases step_cases cast h c with ⟨row, column, v, config, -, hrow, htarget, hstep, -⟩ |
      ⟨-, e, hstep⟩
    · rw [Registers.next, hstep, Stored.shown, Stored.shown]
      by_cases hname : k.1 = c.accountName
      · rw [hname, AList.lookup_insert, hrow]
        have hshown : k.2.kind.shown cast (changedRow cast row column v k.2.column) =
            (c.shows (c.accountName, k.2)).getD (k.2.kind.shown cast (row k.2.column)) :=
          shown_changedRow htarget k.2
        rw [← hname] at hshown
        exact hshown
      · have hkey : Value.text k.1 ≠ .text c.accountName := fun h => hname (Value.text.inj h)
        rw [AList.lookup_insert_ne hkey, shows_ne hname]
        rfl
    · rw [hstep] at haccepted
      cases haccepted
  refuses s c k h hrefused := by
    rcases step_cases cast h c with ⟨row, column, v, config, -, -, -, hstep, -⟩ | ⟨-, e, hstep⟩
    · rw [hstep] at hrefused
      exact absurd rfl hrefused
    · rw [Registers.next, hstep]

/-- What a command may do: it goes through exactly when nothing fails, its account has a row, and there
is a column for it to change; then that column and the counter are all that changes in the rows of
`account`, and no other table does. A command that throws changes nothing. -/
structure ChangesOneColumn (cast : Casts) (s : Stored) (c : ConfigCommand) : Prop where
  accepted_iff : (c.step cast s).2 = none ↔
    EditsQuietly c.faults ∧ .text c.accountName ∈ s.rows ∧ c.write.target.isSome
  accepted : (c.step cast s).2 = none → ∃ row column v,
    s.rows.lookup (.text c.accountName) = some row ∧ c.write.target = some (column, v) ∧
      (c.step cast s).1.rows =
        s.rows.insert (.text c.accountName) (changedRow cast row column v) ∧
      ∃ account, (c.step cast s).1.files = { s.files with db := { s.files.db with account := account } }
  rejected : (c.step cast s).2 ≠ none → (c.step cast s).1 = s

theorem changesOneColumn (cast : Casts) {s : Stored} (h : s.rows.Represents s.files.db)
    (c : ConfigCommand) : c.ChangesOneColumn cast s := by
  have hrow : Value.text c.accountName ∈ s.rows ↔ (s.files.db.row c.accountName).isSome :=
    (AccountRows.text_mem_iff h).trans AList.lookup_isSome.symm
  rcases step_cases cast h c with ⟨row, column, v, config, hgoes, hlookup, htarget, hstep, -⟩ |
    ⟨hno, e, hstep⟩
  · refine ⟨?_, fun _ => ⟨row, column, v, hlookup, htarget, ?_, ?_⟩, ?_⟩
    · rw [hstep]
      exact iff_of_true rfl ⟨hgoes.quiet, hrow.mpr hgoes.row, hgoes.target⟩
    · rw [hstep]
    · rw [hstep]
      exact ⟨_, rfl⟩
    · intro hrejected
      rw [hstep] at hrejected
      exact absurd rfl hrejected
  · refine ⟨?_, ?_, ?_⟩
    · rw [hstep]
      refine iff_of_false (Option.some_ne_none e) ?_
      exact fun hall => hno ⟨hall.1, hrow.mp hall.2.1, hall.2.2⟩
    · intro haccepted
      rw [hstep] at haccepted
      exact absurd haccepted (Option.some_ne_none e)
    · intro _
      rw [hstep]

/-- A row stays. -/
theorem row_stays (cast : Casts) {s : Stored} (h : s.rows.Represents s.files.db) (c : ConfigCommand)
    {accountName : String} (hrow : Value.text accountName ∈ s.rows) :
    Value.text accountName ∈ (c.step cast s).1.rows := by
  rcases step_cases cast h c with ⟨row, column, v, config, -, -, -, hstep, -⟩ | ⟨-, e, hstep⟩
  · rw [hstep]
    exact (AList.mem_insert s.rows).mpr (.inr hrow)
  · rw [hstep]
    exact hrow

/-- The state after a run. -/
def after (cast : Casts) (s : Stored) (commands : List ConfigCommand) : Stored :=
  Runs.final (Registers.next (step cast)) s commands

/-- The value of the last command of a run that went through for a setting, as it is shown. -/
def lastShown (cast : Casts) (s : Stored) (commands : List ConfigCommand) (accountName : String)
    (setting : ConfigSetting) : Option String :=
  Registers.lastSet shows (accountName, setting) (Registers.accepted (step cast) s commands)

theorem shown_after (cast : Casts) {s : Stored} (h : s.rows.Represents s.files.db)
    (commands : List ConfigCommand) (accountName : String) (setting : ConfigSetting) :
    (after cast s commands).shown cast (accountName, setting) =
      (lastShown cast s commands accountName setting).getD (s.shown cast (accountName, setting)) :=
  (lawful cast).read_final h commands (accountName, setting)

theorem after_keeps (cast : Casts) {s : Stored} (h : s.rows.Represents s.files.db)
    (commands : List ConfigCommand) {accountName : String} (hrow : Value.text accountName ∈ s.rows) :
    (after cast s commands).rows.Represents (after cast s commands).files.db ∧
      Value.text accountName ∈ (after cast s commands).rows := by
  have hkeep : ∀ (s : Stored) (c : ConfigCommand),
      (s.rows.Represents s.files.db ∧ Value.text accountName ∈ s.rows) →
        (Registers.next (step cast) s c).rows.Represents (Registers.next (step cast) s c).files.db ∧
          Value.text accountName ∈ (Registers.next (step cast) s c).rows :=
    fun s c hs => ⟨(lawful cast).keep s c hs.1, row_stays cast hs.1 c hs.2⟩
  have halways : Runs.Always (Registers.next (step cast))
      (fun s => s.rows.Represents s.files.db ∧ Value.text accountName ∈ s.rows) s commands :=
    Runs.Always.of_keep hkeep ⟨h, hrow⟩
  exact halways.last

end ConfigCommand

/-! ## The law -/

/-- A getter shows its setting's column of the row. -/
theorem cmdConfigGet_ok_iff {t : AccountRows} {db : Db} (h : t.Represents db) {accountName : String}
    {cast : Casts} {f : CommandFaults} {row : AccountRow}
    (hrow : t.lookup (.text accountName) = some row) (s : ConfigSetting) {text : String} :
    t.cmdConfigGet accountName cast s.name f = .ok text ↔
      LoadsQuietly f ∧ text = s.name ++ "=" ++ s.kind.shown cast (row s.column) ++ "\n" := by
  obtain ⟨record, hrecord, rfl⟩ :=
    Option.map_eq_some_iff.mp ((show t.lookup (.text accountName) = _ from h accountName).symm.trans hrow)
  obtain ⟨field, hfield, himplements⟩ := exists_field s
  have hname : s.name ≠ "" := by cases s <;> decide
  have hcolumn : columnsOf accountName (AccountRows.loadedRecord record) s.column =
      columnsOf accountName record s.column := by
    cases s <;> rfl
  have hget : field.get (AccountRows.loadedRecord record) =
      s.kind.shown cast (columnsOf accountName record s.column) := by
    rw [himplements.get cast accountName, hcolumn]
  rw [AccountRows.cmdConfigGet]
  constructor
  · intro hok
    obtain ⟨loaded, hload, hrest⟩ := except_bind_ok.mp hok
    obtain ⟨hquiet, record', hrecord', rfl⟩ := (AccountRows.loadSavedAccount_ok_iff h).mp hload
    obtain rfl : record = record' := Option.some.inj (hrecord.symm.trans hrecord')
    rw [if_pos hname, hfield] at hrest
    rw [← hget]
    exact ⟨hquiet, (Except.ok.inj hrest).symm⟩
  · rintro ⟨hquiet, rfl⟩
    refine except_bind_ok.mpr ⟨AccountRows.loadedRecord record, ?_, ?_⟩
    · exact (AccountRows.loadSavedAccount_ok_iff h).mpr ⟨hquiet, record, hrecord, rfl⟩
    · rw [if_pos hname, hfield, ← hget]
      rfl

open ConfigCommand in
/-- After any run of `config set`, `enable` and `disable`, `config get` shows for each setting of an
account the last value that a command got through, or what the row held before the run; along the run
every command changes one column or nothing. -/
theorem configLens (cast : Casts) {rows : AccountRows} {files : Files}
    (hfile : rows.Represents files.db) (commands : List ConfigCommand) :
    (∀ accountName row, rows.lookup (.text accountName) = some row →
      ∀ (s : ConfigSetting) (f : CommandFaults) (text : String),
        (after cast ⟨rows, files⟩ commands).rows.cmdConfigGet accountName cast s.name f = .ok text ↔
          LoadsQuietly f ∧ text = s.name ++ "=" ++
            (lastShown cast ⟨rows, files⟩ commands accountName s).getD
              (s.kind.shown cast (row s.column)) ++ "\n") ∧
      Runs.Along (Registers.next (step cast)) (fun s c => c.ChangesOneColumn cast s) ⟨rows, files⟩
        commands := by
  constructor
  · intro accountName row hrow s f text
    have hmem : Value.text accountName ∈ rows := AList.lookup_isSome.mp (Option.isSome_of_mem hrow)
    obtain ⟨hfile', hmem'⟩ := after_keeps cast (s := ⟨rows, files⟩) hfile commands hmem
    obtain ⟨row', hrow'⟩ := Option.isSome_iff_exists.mp (AList.lookup_isSome.mpr hmem')
    have hafter := shown_after cast (s := ⟨rows, files⟩) hfile commands accountName s
    rw [Stored.shown, Stored.shown, hrow', hrow] at hafter
    have hshown : s.kind.shown cast (row' s.column) =
        (lastShown cast ⟨rows, files⟩ commands accountName s).getD (s.kind.shown cast (row s.column)) :=
      hafter
    rw [cmdConfigGet_ok_iff hfile' hrow' s, hshown]
  · refine Runs.along_iff_forall_prefix.mpr fun before c behind _ => changesOneColumn cast ?_ c
    exact (Runs.Always.of_keep (fun s c hs => (lawful cast).keep s c hs) hfile).last

/-- The account of `udpAccount`, by its columns. -/
def udpRows : AccountRows := AList.insert (.text "trunk") (columnsOf "trunk" udpRecord) ∅

theorem udpRows_represents : udpRows.Represents udpAccount.db :=
  AccountRows.Represents.put (show AccountRows.Represents ∅ {} from fun _ => rfl) rfl
    fun _ hname => AList.lookup_insert_ne hname

/-- Two settings of one account in turn, with commands that are refused between them. -/
def trunkCommands : List ConfigCommand :=
  [{ accountName := "trunk", write := .set "sip_tls_insecure" "1" },
    { accountName := "trunk", write := .set "sip_srtp" "always" },
    { accountName := "trunk", write := .set "sip_host" "pbx" },
    { accountName := "other", write := .set "sip_tls_insecure" "no" },
    { accountName := "trunk", write := .setEnabled false }]

theorem trunk_insecure : (ConfigCommand.after noCasts ⟨udpRows, udpAccount⟩ trunkCommands).rows.cmdConfigGet
    "trunk" noCasts "sip_tls_insecure" {} = .ok "sip_tls_insecure=yes\n" :=
  ((configLens noCasts udpRows_represents trunkCommands).1 "trunk" _ rfl .sipTlsInsecure {} _).mpr
    ⟨⟨rfl, by decide, by decide⟩, rfl⟩

end Signal2sip
