import Signal2sip.Gendb.ConcurrentWrites
import Signal2sip.Laws.ConfigEdits
import Mathlib.Data.Fintype.Card

/-!
# Configuration commands that run at the same time

`config set`, `enable` and `disable` change one setting each, but they write all of them. A command
that loaded its row before another one wrote puts the other's setting back to what it was. The row
counts every write, so `config_version` does not tell.

- `lostUpdates_iff`: for commands on pairwise different settings, in any order of their turns, no
  value is ever lost exactly when each write is made from a record that holds the values of all
  commands that have written by then;
- `sameTime_lost`: two commands that load before either of them writes.
-/

namespace Signal2sip

open Runs (Always Along)

/-! ## Settings do not interfere -/

section Settings

variable {record record' edited : AccountRecord} {field other : ConfigField} {value : String}

/-- Setting a field again changes nothing more. -/
theorem set_set (hmem : field ∈ configFields) (hset : field.set record value = .ok edited) :
    field.set edited value = .ok edited := by
  cases ConfigField.ofKind hmem with
  | text name h =>
    obtain rfl := ConfigField.text_set_ok.mp hset
    rw [ConfigField.text_set_ok, h.put_put]
  | word name words h =>
    obtain ⟨hword, rfl⟩ := ConfigField.word_set_ok.mp hset
    rw [ConfigField.word_set_ok, h.put_put]
    exact ⟨hword, rfl⟩
  | flag name h =>
    obtain rfl := ConfigField.flag_set_ok.mp hset
    rw [ConfigField.flag_set_ok, h.put_put]

/-- Setting one field leaves what another one shows. -/
theorem get_set_ne (hfield : field ∈ configFields) (hother : other ∈ configFields)
    (hne : field.name ≠ other.name) (hset : field.set record value = .ok edited) :
    other.get edited = other.get record := by
  simp only [configFields, List.mem_cons, List.not_mem_nil, or_false] at hfield hother
  rcases hfield with rfl | rfl | rfl | rfl | rfl | rfl | rfl | rfl | rfl | rfl | rfl | rfl | rfl
  case inr.inr.inr.inr.inr.inr.inl | inr.inr.inr.inr.inr.inr.inr.inl =>
    obtain ⟨-, rfl⟩ := ConfigField.word_set_ok.mp hset
    rcases hother with rfl | rfl | rfl | rfl | rfl | rfl | rfl | rfl | rfl | rfl | rfl | rfl | rfl
    all_goals first | rfl | exact absurd rfl hne
  all_goals
    cases hset
    rcases hother with rfl | rfl | rfl | rfl | rfl | rfl | rfl | rfl | rfl | rfl | rfl | rfl | rfl
    all_goals first | rfl | exact absurd rfl hne

/-- When writing a column changes nothing. -/
theorem put_self_iff {α : Type} {get : ConfigColumns → α} {put : ConfigColumns → α → ConfigColumns}
    (h : IsColumn get put) {v : α} :
    record = { record with toConfigColumns := put record.toConfigColumns v } ↔
      get record.toConfigColumns = v := by
  constructor
  · intro heq
    have hcolumns : record.toConfigColumns = put record.toConfigColumns v :=
      congrArg AccountRecord.toConfigColumns heq
    rw [hcolumns, h.get_put]
  · rintro rfl
    rw [h.put_get]

theorem yesNo_injective {a b : Bool}
    (h : (if a then "yes" else "no") = if b then "yes" else "no") : a = b := by
  cases a <;> cases b
  · rfl
  · exact absurd h (by decide)
  · exact absurd h (by decide)
  · rfl

/-- Whether setting a field changes a record depends on what the field shows of it. -/
theorem set_self_congr (hmem : field ∈ configFields) (hget : field.get record = field.get record')
    (hset : field.set record value = .ok record) : field.set record' value = .ok record' := by
  cases ConfigField.ofKind hmem with
  | text name h =>
    rw [ConfigField.text_set_ok, put_self_iff h] at hset ⊢
    exact hget.symm.trans hset
  | word name words h =>
    rw [ConfigField.word_set_ok, put_self_iff h] at hset ⊢
    exact ⟨hset.1, hget.symm.trans hset.2⟩
  | flag name h =>
    rw [ConfigField.flag_set_ok, put_self_iff h] at hset ⊢
    exact (yesNo_injective hget).symm.trans hset

/-- What a field shows is a matter of the configuration columns. -/
theorem get_columns (hmem : field ∈ configFields)
    (h : record.toConfigColumns = record'.toConfigColumns) : field.get record = field.get record' := by
  cases ConfigField.ofKind hmem with
  | text name hcolumn => simp only [ConfigField.text, h]
  | word name words hcolumn => simp only [ConfigField.word, h]
  | flag name hcolumn => simp only [ConfigField.flag, h]

/-- No field touches `enabled`. -/
theorem set_enabled (hmem : field ∈ configFields) (hset : field.set record value = .ok edited) :
    edited.enabled = record.enabled := by
  cases ConfigField.ofKind hmem with
  | text name h =>
    obtain rfl := ConfigField.text_set_ok.mp hset
    exact h.enabled_put _ _
  | word name words h =>
    obtain ⟨-, rfl⟩ := ConfigField.word_set_ok.mp hset
    exact h.enabled_put _ _
  | flag name h =>
    obtain rfl := ConfigField.flag_set_ok.mp hset
    exact h.enabled_put _ _

/-- And no field shows it. -/
theorem get_enabled (hmem : field ∈ configFields) (enabled : Bool) :
    field.get { record with enabled := enabled } = field.get record := by
  cases ConfigField.ofKind hmem with
  | text name h => exact h.get_enabled _ _
  | word name words h => exact h.get_enabled _ _
  | flag name h => exact congrArg (fun b => if b then "yes" else "no") (h.get_enabled _ _)

end Settings

/-! ## Commands do not interfere -/

namespace ConfigWrite

variable {write other : ConfigWrite} {record record' edited : AccountRecord}

/-- The record has the command's value: writing it again changes nothing. -/
def Holds (write : ConfigWrite) (record : AccountRecord) : Prop := write.edit record = .ok record

/-- What the command's setting shows of a record. -/
def shown (write : ConfigWrite) (record : AccountRecord) : Option String :=
  match write with
  | .set field _ => (findConfigField field).toOption.map fun field => field.get record
  | .setEnabled _ => some (if record.enabled then "yes" else "no")

theorem edit_holds (h : write.edit record = .ok edited) : write.Holds edited := by
  cases write with
  | set name value =>
    obtain ⟨field, hfield, hset⟩ := except_bind_ok.mp h
    exact except_bind_ok.mpr ⟨field, hfield, set_set (findConfigField_mem hfield).1 hset⟩
  | setEnabled enabled =>
    cases h
    rfl

/-- A command leaves what a command on another setting shows. -/
theorem shown_edit_ne (hne : write.field ≠ other.field) (h : write.edit record = .ok edited) :
    other.shown edited = other.shown record := by
  cases write with
  | set name value =>
    obtain ⟨field, hfield, hset⟩ := except_bind_ok.mp h
    obtain ⟨hmem, rfl⟩ := findConfigField_mem hfield
    cases other with
    | set name' value' =>
      simp only [shown]
      cases hother : findConfigField name' with
      | error e => rfl
      | ok other =>
        obtain ⟨hmem', rfl⟩ := findConfigField_mem hother
        exact congrArg some (get_set_ne hmem hmem' hne hset)
    | setEnabled enabled' => simp only [shown, set_enabled hmem hset]
  | setEnabled enabled =>
    cases h
    cases other with
    | set name' value' =>
      simp only [shown]
      cases hother : findConfigField name' with
      | error e => rfl
      | ok other => exact congrArg some (get_enabled (findConfigField_mem hother).1 enabled)
    | setEnabled enabled' => exact absurd rfl hne

/-- Whether a record has the value depends on what the setting shows. -/
theorem Holds.congr (h : write.Holds record) (hshown : write.shown record = write.shown record') :
    write.Holds record' := by
  cases write with
  | set name value =>
    obtain ⟨field, hfield, hset⟩ := except_bind_ok.mp h
    simp only [shown, hfield] at hshown
    exact except_bind_ok.mpr ⟨field, hfield,
      set_self_congr (findConfigField_mem hfield).1 (Option.some.inj hshown) hset⟩
  | setEnabled enabled =>
    have hrecord : { record with enabled := enabled } = record := Except.ok.inj h
    have henabled : enabled = record.enabled := congrArg (fun r : AccountRecord => r.enabled) hrecord
    have hsame := yesNo_injective (Option.some.inj hshown)
    show Except.ok { record' with enabled := enabled } = .ok record'
    rw [henabled, hsame]

theorem shown_columns (h : record.toConfigColumns = record'.toConfigColumns) :
    write.shown record = write.shown record' := by
  cases write with
  | set name value =>
    simp only [shown]
    cases hfield : findConfigField name with
    | error e => rfl
    | ok field => exact congrArg some (get_columns (findConfigField_mem hfield).1 h)
  | setEnabled enabled => simp only [shown, h]

end ConfigWrite

/-! ## Turns -/

section Turns

variable {ι : Type} [Fintype ι] (accountName : String) (client : ι → Client)

/-- The processes whose command has succeeded. -/
def Together.saved (s : Together ι) : Finset ι := Finset.univ.filter fun i => s.phase i = .exited none

/-- The row has the value of every command that has succeeded, and has counted them. -/
def NoneLost (version : Int) (s : Together ι) : Prop :=
  ∃ record, s.files.db.row accountName = some record ∧
    (∀ i ∈ s.saved, (client i).write.Holds record) ∧
    record.configVersion = version + s.saved.card

/-- The write of a process that has loaded this record goes through. -/
def Client.Writes (c : Client) (account : AccountRecord) : Prop :=
  Answers c.faults.saveAccountConfig ∧ ∃ edited, c.write.edit account = .ok edited

/-- A process that writes has loaded a record with the values of all commands that have succeeded. -/
def LoadedCurrent (s : Together ι) (i : ι) : Prop :=
  ∀ account, s.phase i = .loaded account → (client i).Writes account →
    ∀ j ∈ s.saved, (client j).write.Holds account

variable {accountName client} {s : Together ι} {i : ι} {record : AccountRecord}

theorem mem_saved {j : ι} : j ∈ s.saved ↔ s.phase j = .exited none := by
  simp [Together.saved]

variable [DecidableEq ι]

/-- A turn that does not write leaves who has succeeded. -/
theorem saved_update {phase : Phase} (hbefore : s.phase i ≠ .exited none)
    (hafter : phase ≠ .exited none) :
    Together.saved { s with phase := Function.update s.phase i phase } = s.saved := by
  ext j
  rw [mem_saved, mem_saved]
  by_cases hj : j = i
  · subst hj
    simp [hbefore, hafter]
  · simp [hj]

/-- What a turn can do: write the edited columns back, or leave the files alone. -/
theorem turn_cases (client : ι → Client) (hrow : s.files.db.row accountName = some record) (i : ι) :
    (∃ account edited, s.phase i = .loaded account ∧ Answers (client i).faults.saveAccountConfig ∧
      (client i).write.edit account = .ok edited ∧
      s.turn accountName client i =
        ⟨s.files.configured accountName edited.toConfigColumns,
          Function.update s.phase i (.exited none)⟩) ∨
    ((∀ account, s.phase i = .loaded account → ¬ (client i).Writes account) ∧
      (s.turn accountName client i).files = s.files ∧
      (s.turn accountName client i).saved = s.saved) := by
  unfold Together.turn
  cases hphase : s.phase i with
  | ready =>
    refine .inr ⟨by rintro _ ⟨⟩, ?_⟩
    simp only
    split
    · exact ⟨rfl, saved_update (by simp [hphase]) (by simp)⟩
    · exact ⟨rfl, saved_update (by simp [hphase]) (by simp)⟩
  | exited thrown => exact .inr ⟨by rintro _ ⟨⟩, rfl, rfl⟩
  | loaded account =>
    simp only
    split
    · next e herror =>
      refine .inr ⟨?_, rfl, saved_update (by simp [hphase]) (by simp)⟩
      rintro _ ⟨⟩ ⟨hanswers, edited, hedit⟩
      have hok : Except.error e = .ok (s.files.configured accountName edited.toConfigColumns) := by
        rw [← herror]
        exact except_bind_ok.mpr ⟨edited, hedit,
          (saveChangedConfig_ok_iff hrow).mpr ⟨hanswers, rfl⟩⟩
      cases hok
    · next files hok =>
      obtain ⟨edited, hedit, hsave⟩ := except_bind_ok.mp hok
      obtain ⟨hanswers, rfl⟩ := (saveChangedConfig_ok_iff hrow).mp hsave
      exact .inl ⟨account, edited, rfl, hanswers, hedit, rfl⟩

/-- One turn loses no value exactly when what is written back was current. -/
theorem noneLost_turn_iff {version : Int}
    (hdistinct : ∀ i j, i ≠ j → (client i).write.field ≠ (client j).write.field) (i : ι)
    (h : NoneLost accountName client version s) :
    NoneLost accountName client version (s.turn accountName client i) ↔ LoadedCurrent client s i := by
  obtain ⟨record, hrow, hholds, hversion⟩ := h
  rcases turn_cases client hrow i with
    ⟨account, edited, hphase, hanswers, hedit, hturn⟩ | ⟨hno, hfiles, hsaved⟩
  · have hfresh : i ∉ s.saved := by
      rw [mem_saved, hphase]
      simp
    have hrow' := s.files.configured_row hrow edited.toConfigColumns
    have hsaved : (s.turn accountName client i).saved = insert i s.saved := by
      ext j
      rw [mem_saved, hturn, Finset.mem_insert, mem_saved]
      by_cases hj : j = i
      · simp [hj]
      · simp [hj]
    have hshown (j : ι) : (client j).write.shown (record.configured edited.toConfigColumns) =
        (client j).write.shown edited := ConfigWrite.shown_columns rfl
    -- the row has another command's value when the record that was loaded has it
    have hother (j : ι) (hj : j ≠ i) :
        (client j).write.Holds (record.configured edited.toConfigColumns) ↔
          (client j).write.Holds account := by
      have hsame := (hshown j).trans (ConfigWrite.shown_edit_ne (hdistinct i j hj.symm) hedit)
      exact ⟨fun h => h.congr hsame, fun h => h.congr hsame.symm⟩
    constructor
    · rintro ⟨record', hrecord', hholds', -⟩ account' haccount' - j hj
      rw [hphase] at haccount'
      cases haccount'
      rw [hturn] at hrecord'
      obtain rfl := Option.some.inj (hrow'.symm.trans hrecord')
      refine (hother j fun hji => hfresh (hji ▸ hj)).mp (hholds' j ?_)
      rw [hsaved]
      exact Finset.mem_insert_of_mem hj
    · intro hcurrent
      refine ⟨_, by rw [hturn]; exact hrow', fun j hj => ?_, ?_⟩
      · rw [hsaved] at hj
        rcases Finset.mem_insert.mp hj with rfl | hj
        · exact (ConfigWrite.edit_holds hedit).congr (hshown j).symm
        · exact (hother j fun hji => hfresh (hji ▸ hj)).mpr
            (hcurrent account hphase ⟨hanswers, edited, hedit⟩ j hj)
      · rw [hsaved, Finset.card_insert_of_notMem hfresh]
        show record.configVersion + 1 = _
        rw [hversion]
        omega
  · refine iff_of_true ⟨record, by rw [hfiles]; exact hrow, ?_, by rw [hsaved]; exact hversion⟩ ?_
    · rw [hsaved]
      exact hholds
    · exact fun account hphase hwrites => absurd hwrites (hno account hphase)

/-- For commands on pairwise different settings no value is lost in any state of a schedule exactly
when every write is made from a current record; then, once all have succeeded, the row has all values
and has counted all commands. -/
theorem lostUpdates_iff (accountName : String) (client : ι → Client) (files : Files)
    (record : AccountRecord) (hrow : files.db.row accountName = some record)
    (hdistinct : ∀ i j, i ≠ j → (client i).write.field ≠ (client j).write.field)
    (schedule : List ι) :
    (Always (Together.turn accountName client) (NoneLost accountName client record.configVersion)
        (.start files) schedule ↔
      Along (Together.turn accountName client) (LoadedCurrent client) (.start files) schedule) ∧
    (Along (Together.turn accountName client) (LoadedCurrent client) (.start files) schedule →
      (∀ i, (Runs.final (Together.turn accountName client) (.start files) schedule).phase i =
        .exited none) →
      ∃ record', (Runs.final (Together.turn accountName client) (.start files)
          schedule).files.db.row accountName = some record' ∧
        (∀ i, (client i).write.Holds record') ∧
        record'.configVersion = record.configVersion + Fintype.card ι) := by
  have hstart : NoneLost accountName client record.configVersion (.start files) := by
    have hnobody : (Together.start files : Together ι).saved = ∅ := by
      simp [Together.saved, Together.start]
    refine ⟨record, hrow, fun i hi => ?_, ?_⟩
    · rw [hnobody] at hi
      exact absurd hi (Finset.notMem_empty i)
    · rw [hnobody]
      simp
  have hiff : Always (Together.turn accountName client)
      (NoneLost accountName client record.configVersion) (.start files) schedule ↔
        Along (Together.turn accountName client) (LoadedCurrent client) (.start files) schedule :=
    Runs.always_congr (I := fun _ => True) (fun _ _ _ _ _ => trivial)
      (fun _ i _ h => noneLost_turn_iff hdistinct i h) trivial hstart
  refine ⟨hiff, fun halong hall => ?_⟩
  obtain ⟨record', hrow', hholds, hversion⟩ := (hiff.mpr halong).last
  have hsaved : (Runs.final (Together.turn accountName client) (.start files) schedule).saved =
      Finset.univ := by
    ext i
    simp [mem_saved, hall i]
  rw [hsaved] at hholds hversion
  exact ⟨record', hrow', fun i => hholds i (Finset.mem_univ i), hversion⟩

/-- Two processes with a setting each. -/
def twoWrites (i : Bool) : Client :=
  if i then { write := .set "sip_host" "pbx" } else { write := .set "sip_extension" "100" }

theorem twoWrites_distinct (i j : Bool) (h : i ≠ j) :
    (twoWrites i).write.field ≠ (twoWrites j).write.field := by
  revert i j
  decide

/-- The two commands that interleave, seen from the end of a schedule. -/
def afterSchedule (schedule : List Bool) : Together Bool :=
  Runs.final (Together.turn "trunk" twoWrites) (.start udpAccount) schedule

/-- One after the other, both are kept. -/
theorem oneByOne_kept : ∃ record, (afterSchedule [true, true, false, false]).files.db.row "trunk" =
      some record ∧ (∀ i, (twoWrites i).write.Holds record) ∧
    record.configVersion = udpRecord.configVersion + Fintype.card Bool := by
  refine (lostUpdates_iff "trunk" twoWrites udpAccount udpRecord rfl twoWrites_distinct
    [true, true, false, false]).2 ⟨?_, ?_, ?_, ?_, trivial⟩ fun i => by cases i <;> rfl
  · intro account haccount
    cases haccount
  · intro account haccount _ j hj
    cases j <;> cases mem_saved.mp hj
  · intro account haccount
    cases haccount
  · intro account haccount _ j hj
    obtain rfl : udpRecord.configured { udpRecord with sipHost := "pbx" } = account :=
      Phase.loaded.inj haccount
    cases j with
    | false => cases mem_saved.mp hj
    | true => rfl

/-- Both load before either writes: both succeed, the row counts two writes, and the host that was
set first is gone. -/
theorem sameTime_lost :
    (∀ i, (afterSchedule [true, false, true, false]).phase i = .exited none) ∧
    ∃ record, (afterSchedule [true, false, true, false]).files.db.row "trunk" = some record ∧
      record.configVersion = 2 ∧ record.sipHost = "" ∧ ¬ (twoWrites true).write.Holds record := by
  refine ⟨fun i => by cases i <;> rfl, _, rfl, rfl, rfl, fun h => ?_⟩
  exact absurd (congrArg (fun r : AccountRecord => r.sipHost) (Except.ok.inj h)) (by decide)

end Turns

end Signal2sip
