import Signal2sip.Laws.TuiArguments

/-!
# The rows between the commands of one save

The TUI checks what the settings will be after a save, and then has `signal2sip-gendb` write them one at
a time. The daemon is told to reload after each of them, so every row in between counts. The order of
the commands is that of the table: the transport first, then the CA file, then `sip_tls_insecure`. A
text that is taken for a help flag and a run that fails leave the setting as it was, and the next
command follows all the same.

- `alwaysAccepted_iff`: a save runs through the rows that a walk over three settings runs through;
- `tuiEdits_iff`: every row in between is accepted exactly when the row has what `tls` needs before and
  after the command for the CA file, and after the one for `sip_tls_insecure`;
- `tls_enabled_with_file`: `tls` and a CA file, chosen together.
-/

namespace Signal2sip

open Gendb (Disk Surroundings)
open Runs (Always)

/-! ## The commands of a save -/

/-- The command for a setting reaches the row: nothing in it is taken for something else, its run comes
to its end, and nothing fails in it. -/
structure Reaches (path accountName : String) (file : ConfigFile) (run : Tui.Launch × Surroundings)
    (value : String) : Prop where
  meant : Unmistakable path accountName (CxxString.cStr value)
  exits : run.1 matches .exits
  loads : (loadGlobal path file).isOk = true
  lists : run.2.load.listOpen = none ∧ run.2.load.list.prepare = none
  edits : EditsQuietly run.2.faults

section Commands

variable {record edited : AccountRecord} {field : ConfigField} {value : String}

theorem screen_setting {f : ConfigFieldDef} (hmem : f ∈ kConfigFields) :
    ∃ s : ConfigSetting, s.name = f.key := by
  simp only [kConfigFields, List.mem_cons, List.not_mem_nil, or_false] at hmem
  rcases hmem with rfl | rfl | rfl | rfl | rfl | rfl | rfl | rfl | rfl | rfl
  · exact ⟨.sipHost, rfl⟩
  · exact ⟨.sipExtension, rfl⟩
  · exact ⟨.sipPassword, rfl⟩
  · exact ⟨.sipBridgeDestination, rfl⟩
  · exact ⟨.sipBridgeDid, rfl⟩
  · exact ⟨.sipSrtp, rfl⟩
  · exact ⟨.sipTransport, rfl⟩
  · exact ⟨.sipTlsCaFile, rfl⟩
  · exact ⟨.sipTlsInsecure, rfl⟩
  · exact ⟨.outgoingCallTarget, rfl⟩

/-- The setters take what the screen allows. -/
theorem screen_sets {f : ConfigFieldDef} (hmem : f ∈ kConfigFields)
    (hvalue : f.kind = .enum → value ∈ f.options) (record : AccountRecord) :
    ∃ edited, SetsTo record f.key value edited := by
  simp only [kConfigFields, List.mem_cons, List.not_mem_nil, or_false] at hmem
  rcases hmem with rfl | rfl | rfl | rfl | rfl | rfl | rfl | rfl | rfl | rfl
  case inr.inr.inr.inr.inr.inl | inr.inr.inr.inr.inr.inr.inl =>
    exact ⟨_, _, rfl, if_pos (hvalue rfl)⟩
  all_goals exact ⟨_, _, rfl, rfl⟩

/-- The options of the screen have no NUL. -/
theorem cStr_option {f : ConfigFieldDef} (hmem : f ∈ kConfigFields) (hvalue : value ∈ f.options) :
    CxxString.cStr value = value := by
  have hall : ∀ f ∈ kConfigFields, ∀ option ∈ f.options, CxxString.cStr option = option := by decide
  exact hall f hmem value hvalue

variable {path accountName : String} {opened : GlobalConfig} {disk : Disk}
  {runs : String → Tui.Launch × Surroundings}

/-- What one `config set` leaves of the row, for a text that the screen allows. -/
theorem configSet_row {files : Files} {f : ConfigFieldDef} (hmem : f ∈ kConfigFields)
    (hvalue : f.kind = .enum → value ∈ f.options) (hrow : files.db.row accountName = some record)
    (hrecord : AcceptedButTls record) (faults : CommandFaults) :
    ∃ record', (cmdConfigSet files accountName f.key value faults).1.db.row accountName =
        some record' ∧ AcceptedButTls record' ∧
      (EditsQuietly faults → record'.tls = record.tls.set f.key value) ∧
      (¬ EditsQuietly faults → record' = record) := by
  rcases cmdConfigSet_cases (f := faults) hrow f.key value with
    ⟨hquiet, edited, ⟨field, hfield, hset⟩, hcommand⟩ | ⟨hrefused, e, hcommand⟩
  · obtain ⟨hfieldMem, hname⟩ := findConfigField_mem hfield
    obtain ⟨htls, hkeeps⟩ := set_tls hfieldMem hset
    have hedited := hkeeps hrecord
    rw [hcommand]
    refine ⟨_, files.configured_row hrow _,
      ⟨hrecord.e164, hedited.sipSrtp, hedited.sipTransport⟩, fun _ => ?_, fun hno => absurd hquiet hno⟩
    rw [← hname, ← htls]
    rfl
  · rw [hcommand]
    refine ⟨record, hrow, hrecord, fun hquiet => ?_, fun _ => rfl⟩
    exact absurd ⟨hquiet, screen_sets hmem hvalue record⟩ hrefused

/-- The configuration of the TUI is still there: nothing changes it but a run that takes the account's
name for an option. -/
def StaysStarted (path accountName : String) (opened : GlobalConfig) (file : ConfigFile)
    (disk : Disk) : Prop :=
  accountName ∉ ["--e164", "--config"] → Tui.Started path opened disk ∧ disk.configs path = file

theorem StaysStarted.of_configs {file : ConfigFile} {disk' : Disk}
    (h : StaysStarted path accountName opened file disk)
    (hconfigs : accountName ∉ ["--e164", "--config"] → disk'.configs = disk.configs) :
    StaysStarted path accountName opened file disk' := by
  intro hnone
  obtain ⟨hstarted, hfile⟩ := h hnone
  refine ⟨⟨hstarted.named, hstarted.noNul, ?_, hstarted.dbPath, hstarted.dbKey⟩, ?_⟩
  · rw [hconfigs hnone]
    exact hstarted.lenient
  · rw [hconfigs hnone]
    exact hfile

/-- One command of a save either reaches the row and sets the setting, or leaves the row. -/
theorem saveStep_row {file : ConfigFile} (hpath : '\x00' ∉ path.toList)
    (hstarted : StaysStarted path accountName opened file disk)
    (haccountName : '\x00' ∉ accountName.toList) {f : ConfigFieldDef} (hmem : f ∈ kConfigFields)
    (hvalue : f.kind = .enum → value ∈ f.options)
    (hkilled : ∀ left, (runs f.key).1 ≠ .signaled left)
    (hrow : (disk.databases opened.dbPath).db.row accountName = some record)
    (hrecord : AcceptedButTls record) :
    ∃ record', ((Tui.saveStep path accountName runs disk (f.key, value)).databases
        opened.dbPath).db.row accountName = some record' ∧ AcceptedButTls record' ∧
      (Reaches path accountName file (runs f.key) value →
        record'.tls = record.tls.set f.key (CxxString.cStr value)) ∧
      (¬ Reaches path accountName file (runs f.key) value → record' = record) ∧
      StaysStarted path accountName opened file
        (Tui.saveStep path accountName runs disk (f.key, value)) := by
  obtain ⟨s, hname⟩ := screen_setting hmem
  have hstep : Tui.saveStep path accountName runs disk (f.key, value) =
      (Tui.runGendb (Tui.configSetArgs path accountName s.name value) (runs f.key).1 (runs f.key).2
        disk).1 := by
    rw [hname]
    rfl
  have hoption : f.kind = .enum → CxxString.cStr value ∈ f.options := by
    intro henum
    rw [cStr_option hmem (hvalue henum)]
    exact hvalue henum
  rw [hstep]
  generalize runs f.key = run at hkilled ⊢
  obtain ⟨launch, r⟩ := run
  cases launch with
  | notStarted => exact ⟨record, hrow, hrecord, fun h => (by cases h.exits), fun _ => rfl, hstarted⟩
  | notExecuted => exact ⟨record, hrow, hrecord, fun h => (by cases h.exits), fun _ => rfl, hstarted⟩
  | signaled left => exact absurd rfl (hkilled left)
  | exits =>
    by_cases hmeant : Unmistakable path accountName (CxxString.cStr value)
    · obtain ⟨hnow, hfile⟩ := hstarted hmeant.noOption
      rw [runGendb_meant hnow haccountName hmeant, hfile]
      cases hload : loadGlobal path file with
      | error e =>
        refine ⟨record, hrow, hrecord, fun h => ?_, fun _ => rfl, hstarted⟩
        have hloads := h.loads
        rw [hload] at hloads
        cases hloads
      | ok global =>
        simp only [Disk.withFiles_databases, Invocation.run, Gendb.invocation]
        cases hlist : DaemonConfig.load (.ok global) (disk.databases opened.dbPath).db r.load with
        | error e =>
          refine ⟨record, hrow, hrecord, fun h => ?_, fun _ => rfl, hstarted.of_configs fun _ => rfl⟩
          have hlists : DaemonConfig.load (.ok global) (disk.databases opened.dbPath).db r.load =
              .ok ⟨global, _⟩ := load_ok_iff.mpr ⟨rfl, h.lists.1, h.lists.2, rfl⟩
          rw [hlist] at hlists
          cases hlists
        | ok config =>
          obtain ⟨-, hopen, hprepare, -⟩ := load_ok_iff.mp hlist
          obtain ⟨record', hrow', hrecord', hsets, hkeeps⟩ :=
            configSet_row hmem hoption hrow hrecord r.faults
          rw [← hname] at hrow'
          refine ⟨record', hrow', hrecord', fun h => hsets h.edits, fun h => ?_,
            hstarted.of_configs fun _ => rfl⟩
          refine hkeeps fun hedits => h ⟨hmeant, rfl, ?_, ⟨hopen, hprepare⟩, hedits⟩
          rw [hload]
          rfl
    · refine ⟨record, ?_, hrecord, fun h => absurd h.meant hmeant, fun _ => rfl,
        hstarted.of_configs fun hnone => ?_⟩
      · rw [(runGendb_mistaken hpath haccountName hmeant).1]
        exact hrow
      · rw [(runGendb_mistaken hpath haccountName hmeant).2 hnone]

end Commands

/-! ## The rows of a save -/

/-- The daemon accepts the account's row. -/
def RowAccepted (dbPath accountName : String) (disk : Disk) : Prop :=
  ∃ record config, (disk.databases dbPath).db.row accountName = some record ∧
    accountConfigFromRecord accountName record = .ok config

theorem rowAccepted_iff {dbPath accountName : String} {disk : Disk} {record : AccountRecord}
    (hrow : (disk.databases dbPath).db.row accountName = some record)
    (hrecord : AcceptedButTls record) :
    RowAccepted dbPath accountName disk ↔ record.tls.Trusted := by
  rw [← hrecord.accepted_iff, ← accepted_iff]
  constructor
  · rintro ⟨record', config, hrow', hconfig⟩
    obtain rfl : record' = record := Option.some.inj (hrow'.symm.trans hrow)
    exact ⟨config, hconfig⟩
  · rintro ⟨config, hconfig⟩
    exact ⟨record, config, hrow, hconfig⟩

/-- The walk over the table: what a save does to the three settings, when the edits of `reaches` reach
the row. -/
def tlsStep (originalValues editValues : EditValues) (reaches : String → Prop) [DecidablePred reaches]
    (t : TlsSettings) (f : ConfigFieldDef) : TlsSettings :=
  if editValues f.key ≠ originalValues f.key ∧ reaches f.key then
    t.set f.key (CxxString.cStr (editValues f.key))
  else t

section Rows

variable {path accountName : String} {opened : GlobalConfig}
  {runs : String → Tui.Launch × Surroundings} {originalValues editValues : EditValues}

/-- The rows of a save are accepted as long as the walk stays trusted. -/
theorem alwaysAccepted_iff (hpath : '\x00' ∉ path.toList) (haccountName : '\x00' ∉ accountName.toList)
    (hkilled : ∀ key left, (runs key).1 ≠ .signaled left)
    (hvalues : ∀ f ∈ kConfigFields, f.kind = .enum → editValues f.key ∈ f.options)
    {file : ConfigFile} {reaches : String → Prop} [DecidablePred reaches]
    (hreaches : ∀ key, reaches key ↔ Reaches path accountName file (runs key) (editValues key))
    {fields : List ConfigFieldDef} (hfields : ∀ f ∈ fields, f ∈ kConfigFields) :
    ∀ (disk : Disk) (record : AccountRecord), StaysStarted path accountName opened file disk →
      (disk.databases opened.dbPath).db.row accountName = some record → AcceptedButTls record →
      (Always (Tui.saveStep path accountName runs) (RowAccepted opened.dbPath accountName) disk
          (fields.flatMap (fieldCommands originalValues editValues)) ↔
        Always (tlsStep originalValues editValues reaches) TlsSettings.Trusted record.tls fields) := by
  induction fields with
  | nil => exact fun _ _ _ hrow hrecord => rowAccepted_iff hrow hrecord
  | cons f rest ih =>
    intro disk record hstarted hrow hrecord
    have hmem := hfields f List.mem_cons_self
    have hrest := ih fun g hg => hfields g (List.mem_cons_of_mem f hg)
    rw [List.flatMap_cons, fieldCommands]
    by_cases hsame : editValues f.key = originalValues f.key
    · have hstep : tlsStep originalValues editValues reaches record.tls f = record.tls :=
        if_neg fun h => h.1 hsame
      rw [if_pos hsame, List.nil_append, hrest disk record hstarted hrow hrecord]
      show _ ↔ record.tls.Trusted ∧
        Always _ _ (tlsStep originalValues editValues reaches record.tls f) rest
      rw [hstep]
      exact ⟨fun h => ⟨h.head, h⟩, fun h => h.2⟩
    · obtain ⟨record', hrow', hrecord', hsets, hkeeps, hstarted'⟩ :=
        saveStep_row hpath hstarted haccountName hmem (hvalues f hmem) (hkilled f.key) hrow hrecord
      have hstep : tlsStep originalValues editValues reaches record.tls f = record'.tls := by
        rw [tlsStep]
        split
        · next h => exact (hsets ((hreaches f.key).mp h.2)).symm
        · next h => rw [hkeeps fun hreach => h ⟨hsame, (hreaches f.key).mpr hreach⟩]
      rw [if_neg hsame]
      show RowAccepted opened.dbPath accountName disk ∧
          Always _ _ (Tui.saveStep path accountName runs disk _) _ ↔
        record.tls.Trusted ∧ Always _ _ (tlsStep originalValues editValues reaches record.tls f) rest
      rw [rowAccepted_iff hrow hrecord, hstep]
      exact and_congr_right fun _ => hrest _ record' hstarted' hrow' hrecord'

end Rows

/-! ## What a person can enter -/

theorem nextOption_mem {options : List String} (h : options ≠ []) (value : String) :
    nextOption options value ∈ options := by
  unfold nextOption
  split
  · have hlt : (options.idxOf value + 1) % options.length < options.length :=
      Nat.mod_lt _ (List.length_pos_of_ne_nil h)
    rw [List.getD_eq_getElem?_getD, List.getElem?_eq_getElem hlt, Option.getD_some]
    exact List.getElem_mem hlt
  · cases options with
    | nil => exact absurd rfl h
    | cons option options => exact List.mem_cons_self

theorem toggled_mem (value : String) : toggled value ∈ ["yes", "no"] := by
  unfold toggled
  split
  · exact List.mem_cons_of_mem "yes" List.mem_cons_self
  · exact List.mem_cons_self

/-- Enum fields hold one of their options, bool fields yes or no. -/
def Offered (values : EditValues) : Prop :=
  ∀ f ∈ kConfigFields, (f.kind = .enum → values f.key ∈ f.options) ∧
    (f.kind = .bool → values f.key ∈ ["yes", "no"])

theorem openConfig_offered {record : AccountRecord} (h : AcceptedButTls record) :
    Offered (openConfig record) := by
  intro f hmem
  have hsrtp := h.sipSrtp
  have htransport := h.sipTransport
  simp only [kConfigFields, List.mem_cons, List.not_mem_nil, or_false] at hmem
  rcases hmem with rfl | rfl | rfl | rfl | rfl | rfl | rfl | rfl | rfl | rfl
  case inr.inr.inr.inr.inr.inl =>
    refine ⟨fun _ => ?_, fun hkind => by cases hkind⟩
    show (if record.sipSrtp = "" then "disabled" else record.sipSrtp) ∈ _
    split
    · exact List.mem_cons_self
    · next hne => exact (List.mem_cons.mp hsrtp).resolve_left hne
  case inr.inr.inr.inr.inr.inr.inl =>
    refine ⟨fun _ => ?_, fun hkind => by cases hkind⟩
    show (if record.sipTransport = "" then "udp" else record.sipTransport) ∈ _
    split
    · exact List.mem_cons_self
    · next hne => exact (List.mem_cons.mp htransport).resolve_left hne
  case inr.inr.inr.inr.inr.inr.inr.inr.inl =>
    refine ⟨fun hkind => (by cases hkind), fun _ => ?_⟩
    show (if record.sipTlsInsecure then "yes" else "no") ∈ _
    split
    · exact List.mem_cons_self
    · exact List.mem_cons_of_mem "yes" List.mem_cons_self
  all_goals exact ⟨fun hkind => (by cases hkind), fun hkind => (by cases hkind)⟩

theorem edited_offered {record : AccountRecord} {values : EditValues} (h : AcceptedButTls record)
    (hedited : Edited record values) : Offered values := by
  have hkeys : ∀ f ∈ kConfigFields, ∀ g ∈ kConfigFields, f.key = g.key → f = g := by decide
  have hoptions : ∀ f ∈ kConfigFields, f.kind = .enum → f.options ≠ [] := by decide
  induction hedited with
  | refl => exact openConfig_offered h
  | tail _ hstep ih =>
    obtain ⟨f, hf, value, hedit, rfl⟩ := hstep
    intro g hg
    by_cases hkey : g.key = f.key
    · obtain rfl := hkeys g hg f hf hkey
      simp only
      cases hedit with
      | typed typed hkind =>
        constructor
        · intro henum
          rcases hkind with hkind | hkind <;> cases henum.symm.trans hkind
        · intro hbool
          rcases hkind with hkind | hkind <;> cases hbool.symm.trans hkind
      | chosen hkind =>
        exact ⟨fun _ => nextOption_mem (hoptions g hg hkind) _, fun hbool => by
          cases hbool.symm.trans hkind⟩
      | toggled hkind =>
        exact ⟨fun henum => (by cases henum.symm.trans hkind), fun _ => toggled_mem _⟩
    · simp only [if_neg hkey]
      exact ih g hg

/-! ## The law -/

instance (path accountName value : String) : Decidable (Unmistakable path accountName value) :=
  decidable_of_iff (¬ (path ∈ Gendb.helpFlags ∨ accountName ∈ Gendb.helpFlags ∨
      value ∈ Gendb.helpFlags) ∧ accountName ∉ ["--e164", "--config"])
    ⟨fun h => ⟨h.1, h.2⟩, fun h => ⟨h.noHelp, h.noOption⟩⟩

instance (f : CommandFaults) : Decidable (EditsQuietly f) :=
  decidable_of_iff (f.openStorage = none ∧ Answers f.hasAccount ∧ Answers f.loadAccount ∧
      Answers f.saveAccountConfig)
    ⟨fun h => ⟨⟨h.1, h.2.1, h.2.2.1⟩, h.2.2.2⟩,
      fun h => ⟨h.load.openStorage, h.load.hasAccount, h.load.loadAccount, h.save⟩⟩

instance (path accountName : String) (file : ConfigFile) (run : Tui.Launch × Surroundings)
    (value : String) : Decidable (Reaches path accountName file run value) :=
  decidable_of_iff (Unmistakable path accountName (CxxString.cStr value) ∧ (run.1 matches .exits) ∧
      (loadGlobal path file).isOk = true ∧
      (run.2.load.listOpen = none ∧ run.2.load.list.prepare = none) ∧ EditsQuietly run.2.faults)
    ⟨fun h => ⟨h.1, h.2.1, h.2.2.1, h.2.2.2.1, h.2.2.2.2⟩,
      fun h => ⟨h.meant, h.exits, h.loads, h.lists, h.edits⟩⟩

/-- The three settings of a row, with the edits that reach it. -/
def editedTls (record : AccountRecord) (editValues : EditValues) (reaches : String → Prop)
    [DecidablePred reaches] : TlsSettings where
  transport :=
    if editValues "sip_transport" ≠ openConfig record "sip_transport" ∧ reaches "sip_transport" then
      editValues "sip_transport"
    else record.sipTransport
  caFile :=
    if editValues "sip_tls_ca_file" ≠ openConfig record "sip_tls_ca_file" ∧
        reaches "sip_tls_ca_file" then
      CxxString.cStr (editValues "sip_tls_ca_file")
    else record.sipTlsCaFile
  insecure :=
    if editValues "sip_tls_insecure" ≠ openConfig record "sip_tls_insecure" ∧
        reaches "sip_tls_insecure" then
      editValues "sip_tls_insecure" = "yes"
    else record.sipTlsInsecure

/-- The trust of `tls` is there in every step. With a CA file after the save there has to be one, or
`sip_tls_insecure`, when `tls` comes; without one `sip_tls_insecure` has to be there all along. -/
def KeepsTlsTrust (before after : TlsSettings) : Prop :=
  after.transport = "tls" →
    after.caFile ≠ "" ∧ (before.caFile ≠ "" ∨ before.insecure = true) ∨
      before.insecure = true ∧ after.insecure = true

/-- Step by step: `tls` comes, the CA file goes or comes, `sip_tls_insecure` goes or comes. -/
theorem keepsTlsTrust_iff {before after : TlsSettings} :
    KeepsTlsTrust before after ↔
      TlsSettings.Trusted ⟨after.transport, before.caFile, before.insecure⟩ ∧
        TlsSettings.Trusted ⟨after.transport, after.caFile, before.insecure⟩ ∧ after.Trusted := by
  obtain ⟨-, file, insecure⟩ := before
  obtain ⟨transport', file', insecure'⟩ := after
  simp only [KeepsTlsTrust, TlsSettings.Trusted]
  cases insecure with
  | true => cases insecure' <;> simp
  | false => cases insecure' <;> simp <;> tauto

theorem tlsStep_other {originalValues editValues : EditValues} {reaches : String → Prop}
    [DecidablePred reaches] {t : TlsSettings} {f : ConfigFieldDef} (htransport : f.key ≠ "sip_transport")
    (hfile : f.key ≠ "sip_tls_ca_file") (hinsecure : f.key ≠ "sip_tls_insecure") :
    tlsStep originalValues editValues reaches t f = t := by
  simp [tlsStep, TlsSettings.set, htransport, hfile, hinsecure]

/-- The walk over the table, stop by stop. -/
theorem walk_iff {record : AccountRecord} {editValues : EditValues} {reaches : String → Prop}
    [DecidablePred reaches] (hoffered : Offered editValues) {after : TlsSettings}
    (hafter : after = editedTls record editValues reaches) :
    Always (tlsStep (openConfig record) editValues reaches) TlsSettings.Trusted record.tls
        kConfigFields ↔
      record.tls.Trusted ∧ KeepsTlsTrust record.tls after := by
  have hfixed := hoffered { key := "sip_transport", kind := .enum, options := ["udp", "tls"] } (by decide)
  have hcStr : CxxString.cStr (editValues "sip_transport") = editValues "sip_transport" :=
    cStr_option (f := { key := "sip_transport", kind := .enum, options := ["udp", "tls"] }) (by decide)
      (hfixed.1 rfl)
  have hyesNo := (hoffered { key := "sip_tls_insecure", kind := .bool } (by decide)).2 rfl
  have hone : tlsStep (openConfig record) editValues reaches record.tls
      { key := "sip_transport", kind := .enum, options := ["udp", "tls"] } =
      ⟨after.transport, record.sipTlsCaFile, record.sipTlsInsecure⟩ := by
    simp only [tlsStep, hafter, editedTls]
    split
    · rw [hcStr]
      rfl
    · rfl
  have htwo : tlsStep (openConfig record) editValues reaches
      ⟨after.transport, record.sipTlsCaFile, record.sipTlsInsecure⟩
      { key := "sip_tls_ca_file", kind := .text } =
      ⟨after.transport, after.caFile, record.sipTlsInsecure⟩ := by
    simp only [tlsStep, hafter, editedTls]
    split
    · rfl
    · rfl
  have hthree : tlsStep (openConfig record) editValues reaches
      ⟨after.transport, after.caFile, record.sipTlsInsecure⟩
      { key := "sip_tls_insecure", kind := .bool } = after := by
    simp only [tlsStep, hafter, editedTls]
    split
    · simp only [List.mem_cons, List.not_mem_nil, or_false] at hyesNo
      rcases hyesNo with h | h <;> rw [h] <;> rfl
    · rfl
  rw [keepsTlsTrust_iff]
  simp (disch := decide) only [kConfigFields, Always, tlsStep_other, hone, htwo, hthree]
  simp only [AccountRecord.tls]
  tauto

/-- For an accepted row and edits without errors, however the runs of `signal2sip-gendb` go that are not
killed, every row of the save is accepted exactly when the trust of `tls` is there in every step, before
and after the edits that reach the row. -/
theorem tuiEdits_iff (path accountName : String) (opened : GlobalConfig) (disk : Disk)
    (record : AccountRecord) (config : AccountConfig) (editValues : EditValues)
    (runs : String → Tui.Launch × Surroundings) (hstarted : Tui.Started path opened disk)
    (haccountName : '\x00' ∉ accountName.toList) (hkilled : ∀ key left, (runs key).1 ≠ .signaled left)
    (hrow : (disk.databases opened.dbPath).db.row accountName = some record)
    (haccepted : accountConfigFromRecord accountName record = .ok config)
    (hedited : Edited record editValues) (herrors : configErrors editValues = []) :
    Always (Tui.saveStep path accountName runs) (RowAccepted opened.dbPath accountName) disk
        (saveConfig (openConfig record) editValues) ↔
      KeepsTlsTrust record.tls (editedTls record editValues fun key =>
        Reaches path accountName (disk.configs path) (runs key) (editValues key)) := by
  have hacc := accepted_iff.mp ⟨config, haccepted⟩
  have hoffered := edited_offered hacc.butTls hedited
  have hsave : saveConfig (openConfig record) editValues =
      kConfigFields.flatMap (fieldCommands (openConfig record) editValues) :=
    if_neg (not_not_intro herrors)
  rw [hsave, alwaysAccepted_iff hstarted.noNul haccountName hkilled (fun f hf => (hoffered f hf).1)
    (fun _ => Iff.rfl) (fun _ h => h) disk record (fun _ => ⟨hstarted, rfl⟩) hrow hacc.butTls,
    walk_iff hoffered rfl]
  exact and_iff_right (hacc.butTls.accepted_iff.mp hacc)

/-- The screen after one text field was retyped. -/
def typed (values : EditValues) (field text : String) : EditValues :=
  fun key => if key = field then text else values key

/-- The screen of `udpRecord` after a CA file was entered. -/
def fileEntered : EditValues :=
  typed (openConfig udpRecord) "sip_tls_ca_file" "/etc/asterisk/ca.pem"

theorem fileEntered_edited : Edited udpRecord fileEntered :=
  .single ⟨{ key := "sip_tls_ca_file", kind := .text }, by decide, _, .typed _ (.inl rfl), rfl⟩

/-- Nothing fails in a run, and no server answers. -/
def quietRun : Tui.Launch × Surroundings :=
  let offline : RuntimeError := ⟨"offline"⟩
  let keys : NewKeys :=
    { registrationId := 1, pniRegistrationId := 2, aciSignedPreKey := ⟨1, []⟩,
      pniSignedPreKey := ⟨1, []⟩, aciKyberPreKey := ⟨1, []⟩, pniKyberPreKey := ⟨1, []⟩, now := 0 }
  (.exits,
    { system := { databaseExists := fun _ => .ok true, opens := true, randBytes := none }
      replies :=
        { register := { session := .error offline, password := "" }
          verify :=
            { submitVerificationCode := .error offline, aciIdentity := ⟨[], []⟩,
              pniIdentity := ⟨[], []⟩, keys := keys, registerAccount := .error offline }
          link :=
            { provisioned := .error offline, password := "", keys := keys,
              response := .error offline }
          deleteAccount := { status := .error offline } } })

/-- The configuration of `trunkDisk`. -/
def trunkGlobal : GlobalConfig := { dbPath := "signal2sip.db", dbKey := "key" }

theorem trunkDisk_started : Tui.Started "signal2sip.conf" trunkGlobal trunkDisk :=
  ⟨by decide, by decide, by decide, by decide, by decide⟩

/-- A CA file without `tls` is fine. -/
theorem file_alone : Always (Tui.saveStep "signal2sip.conf" "trunk" fun _ => quietRun)
    (RowAccepted "signal2sip.db" "trunk") trunkDisk (saveConfig (openConfig udpRecord) fileEntered) :=
  (tuiEdits_iff "signal2sip.conf" "trunk" trunkGlobal trunkDisk udpRecord _ fileEntered
    (fun _ => quietRun) trunkDisk_started (by decide) (fun _ _ => (nomatch ·)) rfl rfl
    fileEntered_edited (by decide)).mpr fun htransport => absurd htransport (by decide)

/-- And then `tls`, before saving. -/
def tlsChosen : EditValues := typed fileEntered "sip_transport" "tls"

theorem tlsChosen_edited : Edited udpRecord tlsChosen :=
  .tail fileEntered_edited
    ⟨{ key := "sip_transport", kind := .enum, options := ["udp", "tls"] }, by decide, _,
      .chosen rfl, rfl⟩

/-- `tls` and a CA file, chosen together on an account without either. The screen has no errors, and
the row after the first command is rejected. -/
theorem tls_enabled_with_file : RowAccepted "signal2sip.db" "trunk" trunkDisk ∧
    Edited udpRecord tlsChosen ∧ configErrors tlsChosen = [] ∧
    ¬ Always (Tui.saveStep "signal2sip.conf" "trunk" fun _ => quietRun)
      (RowAccepted "signal2sip.db" "trunk") trunkDisk
      (saveConfig (openConfig udpRecord) tlsChosen) := by
  refine ⟨⟨udpRecord, _, rfl, rfl⟩, tlsChosen_edited, by decide, fun h => ?_⟩
  have hcommands : saveConfig (openConfig udpRecord) tlsChosen =
      [("sip_transport", "tls"), ("sip_tls_ca_file", "/etc/asterisk/ca.pem")] := by decide
  rw [hcommands] at h
  obtain ⟨record, config, hrow, hconfig⟩ := h.2.head
  obtain rfl : udpRecord.configured { udpRecord with sipTransport := "tls" } = record :=
    Option.some.inj hrow
  have htrust := (accepted_iff.mp ⟨config, hconfig⟩).trust
  revert htrust
  decide

end Signal2sip
