import Signal2sip.Gendb.Main
import Signal2sip.Laws.ConfigBootstrap
import Signal2sip.Laws.ReloadPass

/-!
# From the command line to the command

What the arguments of `signal2sip-gendb` say is a fact about lists. A run that exits with 0 has loaded a
configuration and has performed its command (`run_zero`). With a configuration that loads, a run is the
command's `Invocation` on the database that the configuration names, and touches nothing else
(`run_eq_invocation`). A complete configuration that does not load ends the run (`run_not_loaded`).
-/

namespace Signal2sip.Gendb

/-! ## The arguments -/

theorem option_eq_none_iff {arg : String} : option arg = none ↔ arg ∉ ["--e164", "--config"] := by
  rw [option]
  split_ifs with he164 hconfig
  · simp [he164]
  · simp [hconfig]
  · simp [he164, hconfig]

/-- Two arguments that are left over are an account and its command. -/
theorem parseArgs_ok {args : List String} {result : ParsedArgs} {accountName command : String}
    {positional : List String}
    (h : Arguments.scan option {} args = (result, accountName :: command :: positional)) :
    parseArgs args = .ok { result with
      accountName := accountName, command := command, positional := positional } := by
  simp only [parseArgs, h]

theorem asksForHelp_iff {args : List String} :
    asksForHelp args = true ↔ ∃ arg ∈ args, arg ∈ helpFlags := by
  simp only [asksForHelp, List.any_eq_true, decide_eq_true_eq]

/-! ## The run -/

variable {args : ParsedArgs} {disk disk' : Disk} {r : Surroundings}

theorem exitCode_eq_zero_iff {thrown : Option RuntimeError} :
    exitCode thrown = 0 ↔ thrown = none := by
  cases thrown <;> simp [exitCode]

theorem loadConfig_global {configPath : String} {config : DaemonConfig}
    (h : loadConfig configPath disk r = .ok config) :
    loadGlobal configPath (disk.configs configPath) = .ok config.global := by
  rw [loadConfig] at h
  cases hglobal : loadGlobal configPath (disk.configs configPath) with
  | error e =>
    rw [hglobal] at h
    cases h
  | ok global =>
    rw [hglobal] at h
    exact (load_ok_iff.mp h).1

/-- A run that exits with 0 has a configuration, and its command went through. -/
theorem run_zero (h : run args disk r = (disk', 0)) :
    ∃ file config,
      loadConfig (resolveGendbConfigPath disk.configs args.configPath)
          (disk.withConfig (resolveGendbConfigPath disk.configs args.configPath) file) r = .ok config ∧
        perform args config (disk.withConfig
          (resolveGendbConfigPath disk.configs args.configPath) file) r = (disk', 0) := by
  have hcode (disk : Disk) : (disk, (1 : Int)) ≠ (disk', 0) := fun heq => by
    cases congrArg Prod.snd heq
  unfold run at h
  generalize resolveGendbConfigPath disk.configs args.configPath = configPath at h ⊢
  cases hbootstrap : bootstrapGlobalConfigIfNeeded configPath r.system (disk.configs configPath) with
  | mk file bootstrapped =>
    simp only [hbootstrap] at h
    cases bootstrapped with
    | error e => exact absurd h (hcode _)
    | ok _ =>
      cases hload : loadConfig configPath (disk.withConfig configPath file) r with
      | error e =>
        simp only [hload] at h
        exact absurd h (hcode _)
      | ok config =>
        simp only [hload] at h
        exact ⟨file, config, hload, h⟩

/-- What a command line comes to, for a command that writes. -/
def invocation (args : ParsedArgs) (command : Command) (global : GlobalConfig) (r : Surroundings) :
    Invocation where
  accountName := args.accountName
  command := command
  file := .ok global
  load := r.load
  faults := r.faults

/-- With a configuration that loads, a run is the invocation of its command. -/
theorem run_eq_invocation {command : Command} {global : GlobalConfig}
    (hrequested : requested args r.replies = .ok (.command command))
    (hglobal : loadGlobal (resolveGendbConfigPath disk.configs args.configPath)
      (disk.configs (resolveGendbConfigPath disk.configs args.configPath)) = .ok global) :
    run args disk r = disk.exit global.dbPath
      ((invocation args command global r).run (disk.databases global.dbPath)) := by
  unfold run
  generalize resolveGendbConfigPath disk.configs args.configPath = configPath at hglobal ⊢
  simp only [bootstrap_of_loadGlobal hglobal, Disk.withConfig_self]
  rw [loadConfig, hglobal, Invocation.run]
  simp only [invocation]
  cases hload : DaemonConfig.load (.ok global) (disk.databases global.dbPath).db r.load with
  | error e => simp only [Disk.exit, Disk.withFiles_self, exitCode, Option.isSome_some, if_true]
  | ok config =>
    obtain rfl : global = config.global := Except.ok.inj (load_ok_iff.mp hload).1
    simp only [perform, hrequested]

/-- Without a configuration that loads, a run with a complete one ends before its command. -/
theorem run_not_loaded {existing : GlobalConfig} {e : RuntimeError}
    (hlenient : loadGlobalConfigLenient (resolveGendbConfigPath disk.configs args.configPath)
      (disk.configs (resolveGendbConfigPath disk.configs args.configPath)) = .ok existing)
    (hpath : existing.dbPath ≠ "") (hkey : existing.dbKey ≠ "")
    (hglobal : loadGlobal (resolveGendbConfigPath disk.configs args.configPath)
      (disk.configs (resolveGendbConfigPath disk.configs args.configPath)) = .error e) :
    run args disk r = (disk, 1) := by
  unfold run
  generalize resolveGendbConfigPath disk.configs args.configPath = configPath at hlenient hglobal ⊢
  simp only [bootstrap_complete hlenient hpath hkey, Disk.withConfig_self]
  rw [loadConfig, hglobal]

/-- A run that only prints the usage leaves the databases. -/
theorem run_usage_databases (h : requested args r.replies = .ok .usage) :
    (run args disk r).1.databases = disk.databases := by
  unfold run
  generalize resolveGendbConfigPath disk.configs args.configPath = configPath
  cases hbootstrap : bootstrapGlobalConfigIfNeeded configPath r.system (disk.configs configPath) with
  | mk file bootstrapped =>
    simp only [hbootstrap]
    cases bootstrapped with
    | error e => rfl
    | ok _ =>
      cases loadConfig configPath (disk.withConfig configPath file) r with
      | error e => rfl
      | ok config =>
        simp only [perform, h]
        rfl

end Signal2sip.Gendb
