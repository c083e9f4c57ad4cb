import Signal2sip.Daemon.ConfigFile
import Signal2sip.Laws.ReloadPass

/-!
# The numbers of `[global]`

`std::stoul` stops at the first character that is no digit, takes a minus sign modulo 2⁶⁴, and its
result is narrowed to 32 bits. So a setting is the number that is written exactly when all of its text
writes a number below 2³²; any other text that `std::stoul` accepts becomes another number, silently.
-/

namespace Signal2sip

open CxxString (stoul numeral stoul_of_numeral)

/-- The numeric settings. -/
inductive NumericSetting
  | sipRegWatchdogSec
  | resolvedContactTtlSec
  | storageSyncIntervalSec
  | configPollIntervalSec
deriving DecidableEq, Repr

namespace NumericSetting

def key : NumericSetting → String
  | sipRegWatchdogSec => "sip_reg_watchdog_sec"
  | resolvedContactTtlSec => "resolved_contact_ttl_sec"
  | storageSyncIntervalSec => "storage_sync_interval_sec"
  | configPollIntervalSec => "config_poll_interval_sec"

def fallback : NumericSetting → String
  | sipRegWatchdogSec => "60"
  | resolvedContactTtlSec => "86400"
  | storageSyncIntervalSec => "43200"
  | configPollIntervalSec => "30"

def field (global : GlobalConfig) : NumericSetting → Nat
  | sipRegWatchdogSec => global.sipRegWatchdogSec
  | resolvedContactTtlSec => global.resolvedContactTtlSec
  | storageSyncIntervalSec => global.storageSyncIntervalSec
  | configPollIntervalSec => global.configPollIntervalSec

/-- The text that `load` reads. -/
def text (s : NumericSetting) (ini : IniMap) : String := getOr ini "global" s.key s.fallback

/-- The number that the file writes: the default, if there is no value or an empty one. -/
def written (s : NumericSetting) (ini : IniMap) : Option Int :=
  ((ini.entry "global" s.key).filter (· ≠ "")).elim
    (some (s.field { dbPath := "", dbKey := "" } : Int)) numeral

/-- The defaults of `GlobalConfig` are those of `load`. -/
theorem written_eq (s : NumericSetting) (ini : IniMap) : s.written ini = numeral (s.text ini) := by
  have hfallback : numeral s.fallback = some (s.field { dbPath := "", dbKey := "" } : Int) := by
    cases s <;> decide
  rw [written, text, getOr_eq]
  cases (ini.entry "global" s.key).filter (· ≠ "") with
  | none => exact hfallback.symm
  | some value => rfl

end NumericSetting

/-- What makes `load` throw. -/
def LoadThrows (file : ConfigFile) (f : LoadFaults) : Prop :=
  (∀ content, file ≠ .text content) ∨ getOr (iniOf file) "global" "db_path" "" = "" ∨
    getOr (iniOf file) "global" "db_key" "" = "" ∨
    (∃ s : NumericSetting, stoul (s.text (iniOf file)) = none) ∨
    f.listOpen ≠ none ∨ f.list.prepare ≠ none

section Loading

variable {path : String} {file : ConfigFile} {db : Db} {f : LoadFaults}

theorem unsignedSetting_ok_iff {ini : IniMap} {key fallback : String} {k : Nat} :
    unsignedSetting ini key fallback = .ok k ↔
      ∃ n, stoul (getOr ini "global" key fallback) = some n ∧ k = n.toUInt32.toNat := by
  rw [unsignedSetting]
  cases stoul (getOr ini "global" key fallback) with
  | none => simp
  | some n => simp [eq_comm]

/-- What is loaded of a file. -/
theorem loadGlobal_ok_iff {global : GlobalConfig} :
    loadGlobal path file = .ok global ↔
      (∃ content, file = .text content) ∧
      global.dbPath = getOr (iniOf file) "global" "db_path" "" ∧ global.dbPath ≠ "" ∧
      global.dbKey = getOr (iniOf file) "global" "db_key" "" ∧ global.dbKey ≠ "" ∧
      ∀ s : NumericSetting, ∃ n, stoul (s.text (iniOf file)) = some n ∧
        s.field global = n.toUInt32.toNat := by
  rw [loadGlobal, except_bind_ok]
  cases file with
  | missing => simp [parseIni]
  | unreadable => simp [parseIni]
  | text content =>
    constructor
    · rintro ⟨ini, hini, hload⟩
      obtain rfl : Ini.parse content = ini := Except.ok.inj hini
      simp only at hload
      split at hload
      · cases hload
      · next hpath =>
        split at hload
        · cases hload
        · next hkey =>
          obtain ⟨sipReg, hsipReg, hload⟩ := except_bind_ok.mp hload
          obtain ⟨ttl, httl, hload⟩ := except_bind_ok.mp hload
          obtain ⟨sync, hsync, hload⟩ := except_bind_ok.mp hload
          obtain ⟨poll, hpoll, hload⟩ := except_bind_ok.mp hload
          obtain rfl := Except.ok.inj hload
          refine ⟨⟨content, rfl⟩, rfl, hpath, rfl, hkey, fun s => ?_⟩
          cases s with
          | sipRegWatchdogSec => exact unsignedSetting_ok_iff.mp hsipReg
          | resolvedContactTtlSec => exact unsignedSetting_ok_iff.mp httl
          | storageSyncIntervalSec => exact unsignedSetting_ok_iff.mp hsync
          | configPollIntervalSec => exact unsignedSetting_ok_iff.mp hpoll
    · rintro ⟨-, hpath, hpathSet, hkey, hkeySet, hsettings⟩
      refine ⟨Ini.parse content, rfl, ?_⟩
      simp only
      rw [if_neg (hpath ▸ hpathSet), if_neg (hkey ▸ hkeySet)]
      have hset := fun s => unsignedSetting_ok_iff.mpr (hsettings s)
      refine except_bind_ok.mpr ⟨_, hset .sipRegWatchdogSec, ?_⟩
      refine except_bind_ok.mpr ⟨_, hset .resolvedContactTtlSec, ?_⟩
      refine except_bind_ok.mpr ⟨_, hset .storageSyncIntervalSec, ?_⟩
      refine except_bind_ok.mpr ⟨_, hset .configPollIntervalSec, ?_⟩
      obtain ⟨dbPath, dbKey, sipReg, ttl, sync, poll⟩ := global
      obtain rfl : dbPath = _ := hpath
      obtain rfl : dbKey = _ := hkey
      rfl

/-- A load without an exception, and a setting in it. -/
theorem loadFile_setting {config : DaemonConfig}
    (hload : DaemonConfig.loadFile path file db f = .ok config) (s : NumericSetting) :
    ∃ n, stoul (s.text (iniOf file)) = some n ∧ s.field config.global = n.toUInt32.toNat :=
  (loadGlobal_ok_iff.mp (load_ok_iff.mp hload).1).2.2.2.2.2 s

/-- What makes `load` throw does, and nothing else does. -/
theorem loadThrows_iff :
    LoadThrows file f ↔ ∀ config, DaemonConfig.loadFile path file db f ≠ .ok config := by
  constructor
  · intro hthrows config hload
    obtain ⟨hglobal, hopen, hprepare, -⟩ := load_ok_iff.mp hload
    obtain ⟨⟨content, hfile⟩, hpath, hpathSet, hkey, hkeySet, hsettings⟩ :=
      loadGlobal_ok_iff.mp hglobal
    rcases hthrows with hread | hempty | hempty | ⟨s, hnone⟩ | hopen' | hprepare'
    · exact hread content hfile
    · exact hpathSet (hpath.trans hempty)
    · exact hkeySet (hkey.trans hempty)
    · obtain ⟨n, hsome, -⟩ := hsettings s
      cases hnone.symm.trans hsome
    · exact hopen' hopen
    · exact hprepare' hprepare
  · intro hnever
    by_contra hthrows
    simp only [LoadThrows, not_or, not_forall, not_exists, not_not] at hthrows
    obtain ⟨⟨content, hfile⟩, hpath, hkey, hsettings, hopen, hprepare⟩ := hthrows
    choose n hn using fun s => Option.ne_none_iff_exists'.mp (hsettings s)
    have hglobal : loadGlobal path file = .ok
        { dbPath := getOr (iniOf file) "global" "db_path" ""
          dbKey := getOr (iniOf file) "global" "db_key" ""
          sipRegWatchdogSec := (n .sipRegWatchdogSec).toUInt32.toNat
          resolvedContactTtlSec := (n .resolvedContactTtlSec).toUInt32.toNat
          storageSyncIntervalSec := (n .storageSyncIntervalSec).toUInt32.toNat
          configPollIntervalSec := (n .configPollIntervalSec).toUInt32.toNat } := by
      refine loadGlobal_ok_iff.mpr ⟨⟨content, hfile⟩, rfl, hpath, rfl, hkey, fun s => ?_⟩
      refine ⟨n s, hn s, ?_⟩
      cases s <;> rfl
    exact hnever ⟨_, _⟩ (load_ok_iff.mpr ⟨hglobal, hopen, hprepare, rfl⟩)

end Loading

/-- For every file, every database and every failure, each numeric setting: `load` throws or sets it
to the number that is written, exactly when it throws or all of the text writes a number below 2³². -/
theorem numericSetting_iff (path : String) (file : ConfigFile) (db : Db) (f : LoadFaults)
    (s : NumericSetting) :
    (∀ config, DaemonConfig.loadFile path file db f = .ok config →
        s.written (iniOf file) = some (s.field config.global : Int)) ↔
      LoadThrows file f ∨
        ∃ n : Nat, n < 4294967296 ∧ s.written (iniOf file) = some (n : Int) := by
  rw [NumericSetting.written_eq]
  constructor
  · intro hmeant
    by_cases hthrows : LoadThrows file f
    · exact .inl hthrows
    · have hreturns : ∃ config, DaemonConfig.loadFile path file db f = .ok config := by
        by_contra hnone
        exact hthrows (loadThrows_iff.mpr fun config hload => hnone ⟨config, hload⟩)
      obtain ⟨config, hload⟩ := hreturns
      obtain ⟨n, -, hfield⟩ := loadFile_setting hload s
      refine .inr ⟨s.field config.global, ?_, hmeant config hload⟩
      rw [hfield]
      exact n.toUInt32.toNat_lt
  · rintro (hthrows | ⟨n, hn, hwritten⟩) config hload
    · exact absurd hload (loadThrows_iff.mp hthrows config)
    · obtain ⟨m, hm, hfield⟩ := loadFile_setting hload s
      obtain rfl := Option.some.inj (hm.symm.trans (stoul_of_numeral hwritten (by omega)))
      rw [hwritten, hfield, UInt64.toNat_toUInt32, UInt64.toNat_ofNat']
      congr 2
      omega

/-- A minus sign turns the registration watchdog off. -/
def signedWatchdog : ConfigFile :=
  .text "[global]\ndb_path=signal2sip.db\ndb_key=key\nsip_reg_watchdog_sec=-1\n"

theorem signed_watchdog :
    ¬ ∀ config, DaemonConfig.loadFile "signal2sip.conf" signedWatchdog {} .quiet = .ok config →
      NumericSetting.sipRegWatchdogSec.written (iniOf signedWatchdog) =
        some (NumericSetting.sipRegWatchdogSec.field config.global : Int) := by
  intro hmeant
  have hload : DaemonConfig.loadFile "signal2sip.conf" signedWatchdog {} .quiet =
      .ok ⟨⟨"signal2sip.db", "key", 4294967295, 86400, 43200, 30⟩, []⟩ := by decide
  exact absurd (hmeant _ hload) (by decide)

end Signal2sip
