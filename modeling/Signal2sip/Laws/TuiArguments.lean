import Signal2sip.Laws.CommandLine
import Signal2sip.Laws.ConfigLens
import Signal2sip.Tui.RunGendb

/-!
# What a `config set` of the TUI is taken for

No shell reads what a person has typed, but `signal2sip-gendb` does. A help flag is looked for among all
arguments, the values of options included, and the options are taken out before the account is. A value
in last place is no option's, so only the flags matter there; an account called like an option takes
the word behind it along.

- `arrives_iff`: a call is read as it is meant, and leaves the value in the row whenever it exits with
  0, exactly when none of its three strings is a flag and the account is not called like an option;
- `runGendb_zero`: when it exits with 0 the value is in the row, or nothing was done at all because help
  was asked for;
- `help_as_password`: a password of `-h`;
- `runGendb_meant`, `runGendb_mistaken`: without such strings a call does to the database what its
  command does, and with one it leaves every database.

A yes/no setting is held as the number that its setter makes of the text.
-/

namespace Signal2sip

open Gendb (Disk Surroundings)

/-! ## Reading the arguments -/

section Reading

variable {path accountName value : String} {s : ConfigSetting}

namespace Tui

/-- How the arguments of one call are meant. -/
def configSetMeant (path accountName key value : String) : Gendb.ParsedArgs where
  accountName := accountName
  command := "config"
  positional := ["set", key, value]
  configPath := path

theorem asksForHelp_configSetArgs :
    Gendb.asksForHelp (configSetArgs path accountName s.name value) = true ↔
      path ∈ Gendb.helpFlags ∨ accountName ∈ Gendb.helpFlags ∨ value ∈ Gendb.helpFlags := by
  have hname : s.name ∉ Gendb.helpFlags := by cases s <;> decide
  have hwords : "--config" ∉ Gendb.helpFlags ∧ "config" ∉ Gendb.helpFlags ∧ "set" ∉ Gendb.helpFlags :=
    ⟨by decide, by decide, by decide⟩
  rw [Gendb.asksForHelp_iff]
  simp [configSetArgs, hname, hwords]

/-- The options in front, and the rest by itself. -/
theorem scan_configSetArgs :
    Arguments.scan Gendb.option {} (configSetArgs path accountName s.name value) =
      Arguments.scan Gendb.option { configPath := path }
        [accountName, "config", "set", s.name, value] := by
  have hconfig : Gendb.option "--config" =
      some fun value result => { result with configPath := value } := rfl
  exact Arguments.scan_option hconfig

theorem option_name : Gendb.option s.name = none := by
  cases s <;> rfl

theorem parseArgs_configSetArgs (h : Gendb.option accountName = none) :
    Gendb.parseArgs (configSetArgs path accountName s.name value) =
      .ok (configSetMeant path accountName s.name value) := by
  have hplain : ∀ arg ∈ [accountName, "config", "set", s.name, value].dropLast,
      Gendb.option arg = none := by
    simp only [List.dropLast, List.forall_mem_cons]
    exact ⟨h, rfl, rfl, option_name, fun _ hmem => absurd hmem List.not_mem_nil⟩
  exact Gendb.parseArgs_ok (scan_configSetArgs.trans (Arguments.scan_plain hplain))

/-- An account that is called like an option takes `config` along, and `set` is the account. -/
theorem parseArgs_option {set : String → Gendb.ParsedArgs → Gendb.ParsedArgs}
    (h : Gendb.option accountName = some set) :
    Gendb.parseArgs (configSetArgs path accountName s.name value) =
      .ok { set "config" { configPath := path } with
        accountName := "set", command := s.name, positional := [value] } := by
  have hplain : ∀ arg ∈ ["set", s.name, value].dropLast, Gendb.option arg = none := by
    simp only [List.dropLast, List.forall_mem_cons]
    exact ⟨rfl, option_name, fun _ hmem => absurd hmem List.not_mem_nil⟩
  exact Gendb.parseArgs_ok (scan_configSetArgs.trans
    ((Arguments.scan_option h).trans (Arguments.scan_plain hplain)))

end Tui

end Reading

/-! ## What a run leaves -/

/-- The configuration at a path names a database, and there the account's row has the value in the
column of the setting. -/
def Gendb.Disk.Holds (disk : Disk) (configPath accountName : String) (s : ConfigSetting)
    (value : String) : Prop :=
  ∃ global record, loadGlobal configPath (disk.configs configPath) = .ok global ∧
    (disk.databases global.dbPath).db.row accountName = some record ∧
      columnsOf accountName record s.column = s.kind.stored value

section Running

variable {accountName value : String} {s : ConfigSetting} {disk disk' : Disk} {r : Surroundings}

/-- A `config set` that throws nothing has written the value. -/
theorem cmdConfigSet_stored {files : Files} {f : CommandFaults}
    (h : (cmdConfigSet files accountName s.name value f).2 = none) :
    ∃ record, (cmdConfigSet files accountName s.name value f).1.db.row accountName = some record ∧
      columnsOf accountName record s.column = s.kind.stored value := by
  let c : ConfigCommand := { accountName := accountName, write := .set s.name value, faults := f }
  have hrun : c.write.run files c.accountName c.faults =
      cmdConfigSet files accountName s.name value f := rfl
  rcases ConfigCommand.run_cases files c with
    ⟨record, edited, -, hrow, hedit, hwritten⟩ | ⟨-, e, hthrown⟩
  · obtain ⟨column, v, htarget, hcolumns⟩ := ConfigWrite.edit_ok hedit
    obtain ⟨s', hname, -, rfl, rfl⟩ := ConfigWrite.target_set_iff.mp htarget
    obtain rfl : s' = s := ConfigSetting.name_injective hname
    rw [← hrun, hwritten]
    refine ⟨_, Files.configured_row hrow _, ?_⟩
    have hrow' := congrFun (hcolumns noCasts accountName record rfl) s'.column
    rw [changedRow_column, if_pos rfl] at hrow'
    exact hrow'
  · rw [← hrun, hthrown] at h
    cases h

/-- A run that is meant as it is read, and exits with 0. -/
theorem run_holds {path : String}
    (h : Gendb.run (Tui.configSetMeant path accountName s.name value) disk r = (disk', 0)) :
    disk'.Holds (Gendb.resolveGendbConfigPath disk.configs path) accountName s value := by
  obtain ⟨file, config, hload, hperform⟩ := Gendb.run_zero h
  have hglobal := Gendb.loadConfig_global hload
  have hperformed : Gendb.perform (Tui.configSetMeant path accountName s.name value) config
      (disk.withConfig (Gendb.resolveGendbConfigPath disk.configs path) file) r = _ := rfl
  obtain ⟨rfl, hcode⟩ := Prod.mk.inj (hperformed.symm.trans hperform)
  obtain ⟨record, hrow, hcolumn⟩ := cmdConfigSet_stored (Gendb.exitCode_eq_zero_iff.mp hcode)
  refine ⟨config.global, record, ?_, ?_, hcolumn⟩
  · rw [Disk.withFiles_configs]
    exact hglobal
  · rw [Disk.withFiles_databases]
    exact hrow

/-- With an account that is called like an option there is no such command. -/
theorem run_option {path : String} {set : String → Gendb.ParsedArgs → Gendb.ParsedArgs} :
    Gendb.run { set "config" { configPath := path } with
      accountName := "set", command := s.name, positional := [value] } disk r ≠ (disk', 0) := by
  intro h
  obtain ⟨file, config, -, hperform⟩ := Gendb.run_zero h
  have husage : Gendb.requested { set "config" { configPath := path } with
      accountName := "set", command := s.name, positional := [value] } r.replies = .ok .usage := by
    cases s <;> rfl
  rw [Gendb.perform, husage] at hperform
  cases congrArg Prod.snd hperform

end Running

/-! ## One call -/

/-- None of the three strings is a flag, and the account is not called like an option. -/
structure Unmistakable (path accountName value : String) : Prop where
  noHelp : ¬ (path ∈ Gendb.helpFlags ∨ accountName ∈ Gendb.helpFlags ∨ value ∈ Gendb.helpFlags)
  noOption : accountName ∉ ["--e164", "--config"]

/-- A call for one setting is not taken for anything else, and whenever it exits with 0 the row has the
value. -/
structure Arrives (path accountName : String) (s : ConfigSetting) (value : String) : Prop where
  noHelp : Gendb.asksForHelp
    ((Tui.configSetArgs path accountName s.name value).map CxxString.cStr) = false
  meant : Gendb.parseArgs ((Tui.configSetArgs path accountName s.name value).map CxxString.cStr) =
    .ok (Tui.configSetMeant path accountName s.name value)
  held : ∀ launch r disk disk',
    Tui.runGendb (Tui.configSetArgs path accountName s.name value) launch r disk = (disk', 0) →
      disk'.Holds (Gendb.resolveGendbConfigPath disk.configs path) accountName s value

section Calls

variable {path accountName value : String}

/-- The path and the account come from an `argv`; of the value, what is before its first NUL arrives. -/
theorem configSetArgs_map (hpath : '\x00' ∉ path.toList) (haccountName : '\x00' ∉ accountName.toList)
    (value : String) (s : ConfigSetting) :
    (Tui.configSetArgs path accountName s.name value).map CxxString.cStr =
      Tui.configSetArgs path accountName s.name (CxxString.cStr value) := by
  have hname : CxxString.cStr s.name = s.name :=
    CxxString.cStr_eq_self (by cases s <;> decide)
  simp only [Tui.configSetArgs, List.map_cons, List.map_nil, hname, CxxString.cStr_eq_self hpath,
    CxxString.cStr_eq_self haccountName]
  rfl

/-- Without a NUL the arguments are what was typed. -/
theorem configSetArgs_cStr (hpath : '\x00' ∉ path.toList) (haccountName : '\x00' ∉ accountName.toList)
    (hvalue : '\x00' ∉ value.toList) (s : ConfigSetting) :
    (Tui.configSetArgs path accountName s.name value).map CxxString.cStr =
      Tui.configSetArgs path accountName s.name value := by
  rw [configSetArgs_map hpath haccountName, CxxString.cStr_eq_self hvalue]

/-- A call that exits with 0 has left the value in the row, or has only printed the usage. -/
theorem runGendb_zero (hpath : '\x00' ∉ path.toList) (haccountName : '\x00' ∉ accountName.toList)
    (hvalue : '\x00' ∉ value.toList) {s : ConfigSetting} {launch : Tui.Launch} {r : Surroundings}
    {disk disk' : Disk}
    (h : Tui.runGendb (Tui.configSetArgs path accountName s.name value) launch r disk = (disk', 0)) :
    (path ∈ Gendb.helpFlags ∨ accountName ∈ Gendb.helpFlags ∨ value ∈ Gendb.helpFlags) ∧ disk' = disk ∨
      Unmistakable path accountName value ∧
        disk'.Holds (Gendb.resolveGendbConfigPath disk.configs path) accountName s value := by
  cases launch with
  | notStarted => cases congrArg Prod.snd h
  | notExecuted => cases congrArg Prod.snd h
  | signaled left => cases congrArg Prod.snd h
  | exits =>
    rw [Tui.runGendb, configSetArgs_cStr hpath haccountName hvalue, Gendb.main] at h
    by_cases hhelp : Gendb.asksForHelp (Tui.configSetArgs path accountName s.name value) = true
    · rw [if_pos hhelp] at h
      exact .inl ⟨Tui.asksForHelp_configSetArgs.mp hhelp, (Prod.mk.inj h).1.symm⟩
    · rw [if_neg hhelp] at h
      cases hoption : Gendb.option accountName with
      | none =>
        rw [Tui.parseArgs_configSetArgs hoption] at h
        exact .inr ⟨⟨fun hflag => hhelp (Tui.asksForHelp_configSetArgs.mpr hflag),
          Gendb.option_eq_none_iff.mp hoption⟩, run_holds h⟩
      | some set =>
        rw [Tui.parseArgs_option hoption] at h
        exact absurd h run_option

/-- A call arrives exactly when none of its strings can be mistaken, whatever is on the disk and
whatever happens on the way. -/
theorem arrives_iff (hpath : '\x00' ∉ path.toList) (haccountName : '\x00' ∉ accountName.toList)
    (hvalue : '\x00' ∉ value.toList) (s : ConfigSetting) :
    Arrives path accountName s value ↔ Unmistakable path accountName value := by
  have hargs := configSetArgs_cStr hpath haccountName hvalue s
  constructor
  · rintro ⟨hhelp, hmeant, -⟩
    rw [hargs] at hhelp hmeant
    constructor
    case noHelp =>
      intro hflag
      rw [Tui.asksForHelp_configSetArgs.mpr hflag] at hhelp
      cases hhelp
    case noOption =>
      refine Gendb.option_eq_none_iff.mp (Option.eq_none_iff_forall_ne_some.mpr fun set hset => ?_)
      -- the account would be `set`, which is no option
      rw [Tui.parseArgs_option hset] at hmeant
      have hname : "set" = accountName := congrArg Gendb.ParsedArgs.accountName (Except.ok.inj hmeant)
      rw [← hname] at hset
      cases hset
  · rintro ⟨hhelp, hoption⟩
    constructor
    case noHelp =>
      rw [hargs, ← Bool.not_eq_true, Tui.asksForHelp_configSetArgs]
      exact hhelp
    case meant =>
      rw [hargs, Tui.parseArgs_configSetArgs (Gendb.option_eq_none_iff.mpr hoption)]
    case held =>
      intro launch r disk disk' hzero
      rcases runGendb_zero hpath haccountName hvalue hzero with ⟨hflag, -⟩ | ⟨-, hholds⟩
      · exact absurd hflag hhelp
      · exact hholds

/-- A password that looks like an option. -/
theorem option_as_password : Arrives "signal2sip.conf" "trunk" .sipPassword "--config" :=
  (arrives_iff (by decide) (by decide) (by decide) .sipPassword).mpr ⟨by decide, by decide⟩

/-- The account of `udpAccount`, which has no password. -/
def trunkDisk : Disk where
  configs _ := .text "[global]\ndb_path=signal2sip.db\ndb_key=key\n"
  databases _ := udpAccount

/-- With `-h` for a password every call exits with 0 and leaves everything as it was. -/
theorem help_as_password : ¬ Arrives "signal2sip.conf" "trunk" .sipPassword "-h" ∧
    (∀ r disk, Tui.runGendb (Tui.configSetArgs "signal2sip.conf" "trunk" "sip_password" "-h") .exits r
      disk = (disk, 0)) ∧
    ¬ trunkDisk.Holds "signal2sip.conf" "trunk" .sipPassword "-h" := by
  refine ⟨fun harrives => ?_, fun r disk => rfl, ?_⟩
  · have hhelp := harrives.noHelp
    revert hhelp
    decide
  · rintro ⟨global, record, -, hrow, hcolumn⟩
    obtain rfl : udpRecord = record := Option.some.inj hrow
    exact absurd hcolumn (by decide)

end Calls

/-! ## What a call leaves, however it ends -/

section Leaves

variable {path accountName value : String} {s : ConfigSetting} {opened : GlobalConfig}
  {r : Surroundings} {disk : Disk}

/-- The TUI has started: the configuration at its path names a database and has a key. -/
structure Tui.Started (path : String) (opened : GlobalConfig) (disk : Disk) : Prop where
  named : path ≠ ""
  noNul : '\x00' ∉ path.toList
  lenient : loadGlobalConfigLenient path (disk.configs path) = .ok opened
  dbPath : opened.dbPath ≠ ""
  dbKey : opened.dbKey ≠ ""

theorem resolve_named (h : path ≠ "") : Gendb.resolveGendbConfigPath disk.configs path = path := by
  simp [Gendb.resolveGendbConfigPath, resolveConfigPath, Option.filter, h]

/-- A call that can be mistaken leaves every database; with an account that is not called like an
option it leaves everything. -/
theorem runGendb_mistaken (hpath : '\x00' ∉ path.toList) (haccountName : '\x00' ∉ accountName.toList)
    (h : ¬ Unmistakable path accountName (CxxString.cStr value)) :
    (Tui.runGendb (Tui.configSetArgs path accountName s.name value) .exits r disk).1.databases =
        disk.databases ∧
      (accountName ∉ ["--e164", "--config"] →
        (Tui.runGendb (Tui.configSetArgs path accountName s.name value) .exits r disk).1 = disk) := by
  rw [Tui.runGendb, configSetArgs_map hpath haccountName, Gendb.main]
  by_cases hhelp : Gendb.asksForHelp
      (Tui.configSetArgs path accountName s.name (CxxString.cStr value)) = true
  · rw [if_pos hhelp]
    exact ⟨rfl, fun _ => rfl⟩
  · rw [if_neg hhelp]
    have hflag : ¬ (path ∈ Gendb.helpFlags ∨ accountName ∈ Gendb.helpFlags ∨
        CxxString.cStr value ∈ Gendb.helpFlags) :=
      fun hflag => hhelp (Tui.asksForHelp_configSetArgs.mpr hflag)
    cases hoption : Gendb.option accountName with
    | none => exact absurd ⟨hflag, Gendb.option_eq_none_iff.mp hoption⟩ h
    | some set =>
      rw [Tui.parseArgs_option hoption]
      exact ⟨Gendb.run_usage_databases (by cases s <;> rfl), fun hnone => absurd ⟨hflag, hnone⟩ h⟩

/-- Any other is its command on the database of the TUI, unless the configuration does not load. -/
theorem runGendb_meant (hstarted : Tui.Started path opened disk)
    (haccountName : '\x00' ∉ accountName.toList)
    (h : Unmistakable path accountName (CxxString.cStr value)) :
    (Tui.runGendb (Tui.configSetArgs path accountName s.name value) .exits r disk).1 =
      match loadGlobal path (disk.configs path) with
      | .error _ => disk
      | .ok global => disk.withFiles opened.dbPath
          ((Gendb.invocation (Tui.configSetMeant path accountName s.name (CxxString.cStr value))
            (.configSet s.name (CxxString.cStr value)) global r).run
              (disk.databases opened.dbPath)).1 := by
  have hhelp : ¬ Gendb.asksForHelp
      (Tui.configSetArgs path accountName s.name (CxxString.cStr value)) = true :=
    fun hflag => h.noHelp (Tui.asksForHelp_configSetArgs.mp hflag)
  have hresolve : Gendb.resolveGendbConfigPath disk.configs path = path := resolve_named hstarted.named
  rw [Tui.runGendb, configSetArgs_map hstarted.noNul haccountName, Gendb.main, if_neg hhelp,
    Tui.parseArgs_configSetArgs (Gendb.option_eq_none_iff.mpr h.noOption)]
  cases hload : loadGlobal path (disk.configs path) with
  | error e =>
    have hrun := @Gendb.run_not_loaded
      (Tui.configSetMeant path accountName s.name (CxxString.cStr value)) disk r opened e
    simp only [Tui.configSetMeant, hresolve] at hrun
    exact congrArg Prod.fst (hrun hstarted.lenient hstarted.dbPath hstarted.dbKey hload)
  | ok global =>
    have hsame : global.dbPath = opened.dbPath := by
      have hlenient := hstarted.lenient.symm.trans (lenient_of_loadGlobal hload).1
      exact (congrArg GlobalConfig.dbPath (Except.ok.inj hlenient)).symm
    have hrun := @Gendb.run_eq_invocation
      (Tui.configSetMeant path accountName s.name (CxxString.cStr value)) disk r
      (.configSet s.name (CxxString.cStr value)) global rfl
    simp only [Tui.configSetMeant, hresolve] at hrun
    rw [← hsame]
    exact congrArg Prod.fst (hrun hload)

end Leaves

end Signal2sip
