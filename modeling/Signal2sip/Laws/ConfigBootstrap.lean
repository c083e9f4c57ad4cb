import Signal2sip.Gendb.Bootstrap
import Signal2sip.Laws.Base64
import Signal2sip.Lib.Strip

/-!
# Bootstrapping the configuration

An appended section is read back behind every text (`parse_append`): the parser is in no state between
two lines but its section, and the text starts with a newline and a section of its own. So what
`bootstrapGlobalConfigIfNeeded` appends is what is read afterwards, and nothing else changes.

It throws before it writes anything, but for one exception: the key is made when the section is
already written.
-/

namespace Signal2sip

/-! ## Reading an appended section -/

/-- An entry that a line `name=value` is read as. -/
structure PlainEntry (name value : List Char) : Prop where
  untrimmed : ∀ c ∈ name ++ value, Ini.isTrimmed c = false
  noEquals : '=' ∉ name
  starts : ∃ c rest, name = c :: rest ∧ c ≠ ';' ∧ c ≠ '#' ∧ c ≠ '['

/-- The lines of some entries. -/
def entriesText : List (String × String) → String
  | [] => ""
  | e :: entries => e.1 ++ "=" ++ e.2 ++ "\n" ++ entriesText entries

def setAll (ini : IniMap) (sectionName : String) (entries : List (String × String)) : IniMap :=
  entries.foldl (fun ini e => ini.set sectionName e.1 e.2) ini

theorem trim_eq_self {s : List Char} (h : ∀ c ∈ s, Ini.isTrimmed c = false) : Ini.trim s = s :=
  Strip.strip_eq_self (.of_forall h)

theorem parseLine_blank (s : Ini.State) : Ini.parseLine s [] = s := rfl

theorem parseLine_global (s : Ini.State) :
    Ini.parseLine s "[global]".toList = { s with sectionName := "global" } := rfl

theorem PlainEntry.parseLine {name value : List Char} (h : PlainEntry name value) (s : Ini.State) :
    Ini.parseLine s (name ++ '=' :: value) =
      { s with result := s.result.set s.sectionName (String.ofList name) (String.ofList value) } := by
  obtain ⟨c, rest, hname, hsemicolon, hhash, hbracket⟩ := h.starts
  have hkey : Ini.trim name = name :=
    trim_eq_self fun d hd => h.untrimmed d (List.mem_append_left _ hd)
  have hvalue : Ini.trim value = value :=
    trim_eq_self fun d hd => h.untrimmed d (List.mem_append_right _ hd)
  have hline : Ini.trim (name ++ '=' :: value) = name ++ '=' :: value := by
    refine trim_eq_self fun d hd => ?_
    rcases List.mem_append.mp hd with hmem | hmem
    · exact h.untrimmed d (List.mem_append_left _ hmem)
    · rcases List.mem_cons.mp hmem with rfl | hmem
      · rfl
      · exact h.untrimmed d (List.mem_append_right _ hmem)
  have hhead : (name ++ '=' :: value).head? = some c := by rw [hname]; rfl
  have hne : ∀ d ∈ name, decide (d ≠ '=') = true := fun d hd =>
    decide_eq_true fun heq => h.noEquals (heq ▸ hd)
  have hbefore : (name ++ '=' :: value).takeWhile (· ≠ '=') = name := by
    rw [List.takeWhile_append_of_pos hne]
    exact List.append_nil _
  have hafter : (name ++ '=' :: value).dropWhile (· ≠ '=') = '=' :: value := by
    rw [List.dropWhile_append_of_pos hne]
    rfl
  rw [Ini.parseLine, hline]
  simp only
  rw [if_neg, if_neg, if_neg, hbefore, hafter, hkey, List.tail_cons, hvalue]
  · exact not_not.mpr (List.mem_append_right _ List.mem_cons_self)
  · rw [hhead]
    exact fun hsection => hbracket (Option.some.inj hsection.1)
  · rw [hhead]
    rintro (hnil | hcomment | hcomment)
    · exact List.append_ne_nil_of_right_ne_nil _ (List.cons_ne_nil _ _) hnil
    · exact hsemicolon (Option.some.inj hcomment)
    · exact hhash (Option.some.inj hcomment)

theorem PlainEntry.newline_not_mem {name value : List Char} (h : PlainEntry name value) :
    '\n' ∉ name ++ '=' :: value := by
  have hnewline : '\n' ∉ name ++ value := fun hmem => by cases h.untrimmed '\n' hmem
  intro hmem
  rcases List.mem_append.mp hmem with hmem | hmem
  · exact hnewline (List.mem_append_left _ hmem)
  · rcases List.mem_cons.mp hmem with heq | hmem
    · exact absurd heq (by decide)
    · exact hnewline (List.mem_append_right _ hmem)

theorem readLines_entries {entries : List (String × String)}
    (h : ∀ e ∈ entries, PlainEntry e.1.toList e.2.toList) (s : Ini.State) :
    Lines.readLines Ini.parseLine s (entriesText entries).toList =
      { s with result := setAll s.result s.sectionName entries } := by
  induction entries generalizing s with
  | nil => rfl
  | cons e entries ih =>
    have hplain := h e List.mem_cons_self
    have htext : (entriesText (e :: entries)).toList =
        (e.1.toList ++ '=' :: e.2.toList) ++ '\n' :: (entriesText entries).toList := by
      rw [entriesText, String.toList_append, String.toList_append, String.toList_append,
        String.toList_append]
      simp only [List.append_assoc]
      rfl
    rw [htext, Lines.readLines_line hplain.newline_not_mem, hplain.parseLine,
      ih fun e he => h e (List.mem_cons_of_mem _ he), String.ofList_toList, String.ofList_toList]
    rfl

/-- Entries that are appended in a section of their own are set, whatever the text before. -/
theorem parse_append {entries : List (String × String)}
    (h : ∀ e ∈ entries, PlainEntry e.1.toList e.2.toList) (content : String) :
    Ini.parse (content ++ "\n[global]\n" ++ entriesText entries) =
      setAll (Ini.parse content) "global" entries := by
  have htext : (content ++ "\n[global]\n" ++ entriesText entries).toList =
      content.toList ++ '\n' :: ("[global]".toList ++ '\n' :: (entriesText entries).toList) := by
    rw [String.toList_append, String.toList_append, List.append_assoc]
    rfl
  rw [Ini.parse, htext, Lines.readLines_append parseLine_blank,
    Lines.readLines_line (by decide), parseLine_global, readLines_entries h]
  rfl

/-! ## The generated key -/

theorem untrimmed_of_all {s : List Char} (h : s.all (fun c => !Ini.isTrimmed c) = true) :
    ∀ c ∈ s, Ini.isTrimmed c = false :=
  fun c hc => Bool.not_eq_true' _ ▸ List.all_eq_true.mp h c hc

theorem plainEntry_dbKey (bytes : Bytes) :
    PlainEntry "db_key".toList (generatedKey bytes).toList where
  untrimmed := by
    have halphabet := @untrimmed_of_all (Base64.kAlphabet.map Char.ofUInt8) (by decide)
    intro c hc
    rcases List.mem_append.mp hc with hc | hc
    · exact @untrimmed_of_all "db_key".toList (by decide) c hc
    · rw [generatedKey, String.toList_ofList] at hc
      obtain ⟨d, hd, rfl⟩ := List.mem_map.mp hc
      exact halphabet _ (List.mem_map_of_mem (Base64.mem_kAlphabet_of_noPadding bytes d hd))
  noEquals := by decide
  starts := ⟨'d', _, rfl, by decide, by decide, by decide⟩

theorem plainEntry_dbPath : PlainEntry "db_path".toList kDefaultDbPath.toList where
  untrimmed := untrimmed_of_all (by decide)
  noEquals := by decide
  starts := ⟨'d', _, rfl, by decide, by decide, by decide⟩

theorem generatedKey_ne_empty {bytes : Bytes} (h : 0 < bytes.length) : generatedKey bytes ≠ "" := by
  intro hempty
  have hnil := congrArg String.toList hempty
  rw [generatedKey, String.toList_ofList] at hnil
  exact Base64.noPadding_ne_nil h (List.map_eq_nil_iff.mp hnil)

/-! ## What a run leaves -/

/-- What is missing is set, what is there stays, everything else reads as before, and another run,
whatever the system answers then, changes nothing. -/
structure Bootstrapped (configPath : String) (file after : ConfigFile) : Prop where
  global : ∃ before global, loadGlobalConfigLenient configPath file = .ok before ∧
    loadGlobalConfigLenient configPath after = .ok global ∧
    global.dbPath ≠ "" ∧ global.dbKey ≠ "" ∧
    (before.dbPath ≠ "" → global.dbPath = before.dbPath) ∧
    (before.dbKey ≠ "" → global.dbKey = before.dbKey)
  others : ∀ sectionName key, ¬ (sectionName = "global" ∧ (key = "db_path" ∨ key = "db_key")) →
    (iniOf after).entry sectionName key = (iniOf file).entry sectionName key
  again : ∀ system, bootstrapGlobalConfigIfNeeded configPath system after = (after, .ok ())

/-- Throw and leave the file as it is, or return and leave it bootstrapped. -/
def KeepsOrBootstraps (configPath : String) (system : BootstrapSystem) (file : ConfigFile) : Prop :=
  (∃ e, bootstrapGlobalConfigIfNeeded configPath system file = (file, .error e)) ∨
    ∃ after, bootstrapGlobalConfigIfNeeded configPath system file = (after, .ok ()) ∧
      Bootstrapped configPath file after

/-- A key has to be made, and nothing is in its way. -/
def MakesKey (configPath : String) (system : BootstrapSystem) (file : ConfigFile) : Prop :=
  ∃ existing, loadGlobalConfigLenient configPath file = .ok existing ∧ existing.dbKey = "" ∧
    system.databaseExists (dbPathOf existing) = .ok false ∧ system.opens = true

section Runs

variable {configPath : String} {system : BootstrapSystem} {file : ConfigFile}
  {existing : GlobalConfig}

theorem bootstrap_error {e : RuntimeError}
    (hload : loadGlobalConfigLenient configPath file = .error e) :
    bootstrapGlobalConfigIfNeeded configPath system file = (file, .error e) := by
  rw [bootstrapGlobalConfigIfNeeded, hload]

theorem bootstrap_complete (hload : loadGlobalConfigLenient configPath file = .ok existing)
    (hpath : existing.dbPath ≠ "") (hkey : existing.dbKey ≠ "") :
    bootstrapGlobalConfigIfNeeded configPath system file = (file, .ok ()) := by
  rw [bootstrapGlobalConfigIfNeeded, hload]
  exact if_pos ⟨hpath, hkey⟩

/-- A configuration that loads is complete, and the lenient load reads the same of it. -/
theorem lenient_of_loadGlobal {global : GlobalConfig} (h : loadGlobal configPath file = .ok global) :
    loadGlobalConfigLenient configPath file =
        .ok { dbPath := global.dbPath, dbKey := global.dbKey } ∧
      global.dbPath ≠ "" ∧ global.dbKey ≠ "" := by
  obtain ⟨ini, hini, h⟩ := except_bind_ok.mp h
  have hthere : fileExists file = true := by
    cases file with
    | missing => cases hini
    | unreadable => rfl
    | text content => rfl
  have hlenient : loadGlobalConfigLenient configPath file =
      .ok { dbPath := getOr ini "global" "db_path" "", dbKey := getOr ini "global" "db_key" "" } := by
    rw [loadGlobalConfigLenient, if_pos hthere, hini]
    rfl
  by_cases hpath : getOr ini "global" "db_path" "" = ""
  · simp only [if_pos hpath] at h
    cases h
  · simp only [if_neg hpath] at h
    by_cases hkey : getOr ini "global" "db_key" "" = ""
    · simp only [if_pos hkey] at h
      cases h
    · simp only [if_neg hkey] at h
      obtain ⟨_, -, h⟩ := except_bind_ok.mp h
      obtain ⟨_, -, h⟩ := except_bind_ok.mp h
      obtain ⟨_, -, h⟩ := except_bind_ok.mp h
      obtain ⟨_, -, h⟩ := except_bind_ok.mp h
      cases h
      exact ⟨hlenient, hpath, hkey⟩

theorem bootstrap_of_loadGlobal {global : GlobalConfig} (h : loadGlobal configPath file = .ok global) :
    bootstrapGlobalConfigIfNeeded configPath system file = (file, .ok ()) := by
  obtain ⟨hlenient, hpath, hkey⟩ := lenient_of_loadGlobal h
  exact bootstrap_complete hlenient hpath hkey

/-- Otherwise the run throws before it writes, or writes. -/
theorem bootstrap_incomplete (hload : loadGlobalConfigLenient configPath file = .ok existing)
    (hmissing : existing.dbPath = "" ∨ existing.dbKey = "") :
    ((∃ e, bootstrapGlobalConfigIfNeeded configPath system file = (file, .error e)) ∧
        ¬ MakesKey configPath system file) ∨
      (bootstrapGlobalConfigIfNeeded configPath system file =
          writeGlobal system file (existing.dbPath = "") (existing.dbKey = "") (dbPathOf existing) ∧
        (existing.dbKey = "" → MakesKey configPath system file)) := by
  have hmakes : MakesKey configPath system file →
      existing.dbKey = "" ∧ system.databaseExists (dbPathOf existing) = .ok false ∧
        system.opens = true := by
    rintro ⟨existing', hload', hmakes⟩
    obtain rfl := Except.ok.inj (hload.symm.trans hload')
    exact hmakes
  rw [bootstrapGlobalConfigIfNeeded, hload]
  simp only
  rw [if_neg fun h => hmissing.elim h.1 h.2]
  cases hexists : (if existing.dbKey = "" then system.databaseExists (dbPathOf existing)
    else .ok false) with
  | error e =>
    refine .inl ⟨⟨e, rfl⟩, fun h => ?_⟩
    obtain ⟨hkey, hfalse, -⟩ := hmakes h
    rw [if_pos hkey, hfalse] at hexists
    cases hexists
  | ok found =>
    cases found with
    | true =>
      refine .inl ⟨⟨_, rfl⟩, fun h => ?_⟩
      obtain ⟨hkey, hfalse, -⟩ := hmakes h
      rw [if_pos hkey, hfalse] at hexists
      cases hexists
    | false =>
      cases hopens : system.opens with
      | false =>
        refine .inl ⟨⟨_, rfl⟩, fun h => ?_⟩
        cases hopens.symm.trans (hmakes h).2.2
      | true =>
        refine .inr ⟨rfl, fun hkey => ⟨existing, hload, hkey, ?_, hopens⟩⟩
        rw [if_pos hkey] at hexists
        exact hexists

/-- A database that is there is not given a new key. -/
theorem bootstrap_refuses (hload : loadGlobalConfigLenient configPath file = .ok existing)
    (hkey : existing.dbKey = "") (hexists : system.databaseExists (dbPathOf existing) = .ok true) :
    bootstrapGlobalConfigIfNeeded configPath system file =
      (file, .error (refuseToInvent configPath (dbPathOf existing))) := by
  rw [bootstrapGlobalConfigIfNeeded, hload]
  simp only [hkey, not_true_eq_false, and_false, if_false, if_true, hexists]

/-! ## Writing -/

theorem load_of_readable (hfile : file ≠ .unreadable) :
    loadGlobalConfigLenient configPath file = .ok
      { dbPath := getOr (iniOf file) "global" "db_path" ""
        dbKey := getOr (iniOf file) "global" "db_key" "" } := by
  cases file with
  | missing => rfl
  | unreadable => exact absurd rfl hfile
  | text content => rfl

theorem readable_of_load (hload : loadGlobalConfigLenient configPath file = .ok existing) :
    file ≠ .unreadable := by
  rintro rfl
  cases hload

theorem append_readable (hfile : file ≠ .unreadable) (written : String) :
    file.append written ≠ .unreadable := by
  cases file with
  | missing => exact ConfigFile.noConfusion
  | unreadable => exact hfile
  | text content => exact ConfigFile.noConfusion

theorem append_append (written written' : String) :
    (file.append written).append written' = file.append (written ++ written') := by
  cases file with
  | missing => rfl
  | unreadable => rfl
  | text content => exact congrArg ConfigFile.text (String.append_assoc ..)

/-- Writing something changes the file. -/
theorem append_ne (hfile : file ≠ .unreadable) (written : String) :
    file.append ("\n[global]\n" ++ written) ≠ file := by
  cases file with
  | missing => exact ConfigFile.noConfusion
  | unreadable => exact absurd rfl hfile
  | text content =>
    intro heq
    have hlength := congrArg String.length (ConfigFile.text.inj heq)
    rw [String.length_append, String.length_append] at hlength
    have hheader : "\n[global]\n".length = 10 := by decide
    omega

theorem iniOf_append (hfile : file ≠ .unreadable) {entries : List (String × String)}
    (h : ∀ e ∈ entries, PlainEntry e.1.toList e.2.toList) :
    iniOf (file.append ("\n[global]\n" ++ entriesText entries)) =
      setAll (iniOf file) "global" entries := by
  cases file with
  | missing =>
    have hparse := parse_append h ""
    rw [String.empty_append] at hparse
    exact hparse
  | unreadable => exact absurd rfl hfile
  | text content =>
    rw [ConfigFile.append, iniOf, ← String.append_assoc]
    exact parse_append h content

/-- The entries that are written. -/
def missingEntries (dbPathMissing dbKeyMissing : Bool) (dbPath dbKey : String) :
    List (String × String) :=
  (if dbPathMissing then [("db_path", dbPath)] else []) ++
    if dbKeyMissing then [("db_key", dbKey)] else []

theorem entry_missingEntries (ini : IniMap) (dbPathMissing dbKeyMissing : Bool)
    (dbPath dbKey sectionName key : String) :
    (setAll ini "global" (missingEntries dbPathMissing dbKeyMissing dbPath dbKey)).entry sectionName
        key =
      if sectionName = "global" ∧ key = "db_key" ∧ dbKeyMissing then some dbKey
      else if sectionName = "global" ∧ key = "db_path" ∧ dbPathMissing then some dbPath
      else ini.entry sectionName key := by
  cases dbPathMissing <;> cases dbKeyMissing <;>
    simp [missingEntries, setAll, IniMap.entry_set]

theorem getOr_of_entry {ini : IniMap} {sectionName key value : String}
    (h : ini.entry sectionName key = some value) : getOr ini sectionName key "" = value := by
  rw [getOr_eq, h]
  by_cases hvalue : value = ""
  · subst hvalue
    rfl
  · rw [Option.filter_some_pos (by simpa using hvalue), Option.getD_some]

/-- Reading the two settings back. -/
theorem getOr_missingEntries (ini : IniMap) (dbPathMissing dbKeyMissing : Bool)
    (dbPath dbKey : String) :
    let written := setAll ini "global" (missingEntries dbPathMissing dbKeyMissing dbPath dbKey)
    getOr written "global" "db_path" "" =
        (if dbPathMissing then dbPath else getOr ini "global" "db_path" "") ∧
      getOr written "global" "db_key" "" =
        if dbKeyMissing then dbKey else getOr ini "global" "db_key" "" := by
  intro written
  have hpath := entry_missingEntries ini dbPathMissing dbKeyMissing dbPath dbKey "global" "db_path"
  have hkey := entry_missingEntries ini dbPathMissing dbKeyMissing dbPath dbKey "global" "db_key"
  constructor
  · cases dbPathMissing with
    | false => rw [getOr_eq, hpath, if_neg (by simp), if_neg (by simp), if_neg (by decide), getOr_eq]
    | true => exact getOr_of_entry (hpath.trans ((if_neg (by simp)).trans (if_pos (by simp))))
  · cases dbKeyMissing with
    | false => rw [getOr_eq, hkey, if_neg (by simp), if_neg (by simp), if_neg (by decide), getOr_eq]
    | true => exact getOr_of_entry (hkey.trans (if_pos (by simp)))

theorem entriesText_cons (name name' value : String) (hname : name ++ "=" = name')
    (entries : List (String × String)) :
    entriesText ((name, value) :: entries) = name' ++ value ++ "\n" ++ entriesText entries := by
  rw [entriesText, hname]

/-- The lines of `writeGlobal` are those of its entries. -/
theorem writeGlobal_ok (dbPathMissing dbKeyMissing : Bool) (dbPath : String)
    {bytes : { bytes : Bytes // bytes.length = 32 }}
    (hbytes : dbKeyMissing = true → system.randBytes = some bytes) :
    writeGlobal system file dbPathMissing dbKeyMissing dbPath =
      (file.append ("\n[global]\n" ++ entriesText
        (missingEntries dbPathMissing dbKeyMissing dbPath (generatedKey bytes.1))), .ok ()) := by
  have hpath : ∀ entries, entriesText
      ((if dbPathMissing then [("db_path", dbPath)] else []) ++ entries) =
      (if dbPathMissing then "db_path=" ++ dbPath ++ "\n" else "") ++ entriesText entries := by
    intro entries
    cases dbPathMissing with
    | false => exact String.empty_append.symm
    | true => exact entriesText_cons "db_path" "db_path=" dbPath rfl entries
  rw [missingEntries, hpath, writeGlobal]
  cases dbKeyMissing with
  | false =>
    simp only [Bool.false_eq_true, if_false]
    rw [entriesText, String.append_empty]
  | true =>
    simp only [if_true, BootstrapSystem.randomBytes, hbytes rfl]
    rw [append_append, entriesText_cons "db_key" "db_key=" _ rfl, entriesText, String.append_empty,
      String.append_assoc]

/-- The file is written when the bytes of the key cannot be had. -/
theorem writeGlobal_error (dbPathMissing : Bool) (dbPath : String) (hbytes : system.randBytes = none) :
    ∃ written, writeGlobal system file dbPathMissing true dbPath =
      (file.append ("\n[global]\n" ++ written), .error ⟨"RAND_bytes failed"⟩) := by
  rw [writeGlobal]
  simp only [if_true, BootstrapSystem.randomBytes, hbytes]
  exact ⟨_, rfl⟩

theorem plainEntry_missingEntries (existing : GlobalConfig) (bytes : Bytes) :
    ∀ e ∈ missingEntries (existing.dbPath = "") (existing.dbKey = "") (dbPathOf existing)
        (generatedKey bytes), PlainEntry e.1.toList e.2.toList := by
  intro e he
  rcases List.mem_append.mp he with hpath | hkey
  · split at hpath
    · next hmissing =>
      rw [List.mem_singleton.mp hpath, dbPathOf, if_pos (of_decide_eq_true hmissing)]
      exact plainEntry_dbPath
    · exact absurd hpath List.not_mem_nil
  · split at hkey
    · rw [List.mem_singleton.mp hkey]
      exact plainEntry_dbKey bytes
    · exact absurd hkey List.not_mem_nil

/-- What is written for what is missing bootstraps the file. -/
theorem bootstrapped_append (hload : loadGlobalConfigLenient configPath file = .ok existing)
    {bytes : Bytes} (hbytes : 0 < bytes.length) :
    Bootstrapped configPath file (file.append ("\n[global]\n" ++ entriesText
      (missingEntries (existing.dbPath = "") (existing.dbKey = "") (dbPathOf existing)
        (generatedKey bytes)))) := by
  have hfile := readable_of_load hload
  have hini := iniOf_append hfile (plainEntry_missingEntries existing bytes)
  have hafter := @load_of_readable configPath _ (append_readable hfile ("\n[global]\n" ++
    entriesText (missingEntries (existing.dbPath = "") (existing.dbKey = "") (dbPathOf existing)
      (generatedKey bytes))))
  obtain ⟨hpath, hkey⟩ := getOr_missingEntries (iniOf file) (existing.dbPath = "")
    (existing.dbKey = "") (dbPathOf existing) (generatedKey bytes)
  rw [hini, hpath, hkey] at hafter
  have hread := Except.ok.inj (hload.symm.trans (load_of_readable hfile))
  have hdbPath : getOr (iniOf file) "global" "db_path" "" = existing.dbPath := by rw [hread]
  have hdbKey : getOr (iniOf file) "global" "db_key" "" = existing.dbKey := by rw [hread]
  rw [hdbPath, hdbKey] at hafter
  have hpathSet :
      (if decide (existing.dbPath = "") then dbPathOf existing else existing.dbPath) ≠ "" := by
    split
    · next hmissing =>
      rw [dbPathOf, if_pos (of_decide_eq_true hmissing)]
      decide
    · next hthere => simpa using hthere
  have hkeySet : (if decide (existing.dbKey = "") then generatedKey bytes else existing.dbKey) ≠ "" := by
    split
    · exact generatedKey_ne_empty hbytes
    · next hthere => simpa using hthere
  constructor
  case global =>
    refine ⟨existing, _, hload, hafter, hpathSet, hkeySet, fun hthere => ?_, fun hthere => ?_⟩
    · exact if_neg (by simpa using hthere)
    · exact if_neg (by simpa using hthere)
  case others =>
    intro sectionName key hother
    rw [hini, entry_missingEntries, if_neg, if_neg]
    · exact fun h => hother ⟨h.1, .inl h.2.1⟩
    · exact fun h => hother ⟨h.1, .inr h.2.1⟩
  case again => exact fun system => bootstrap_complete hafter hpathSet hkeySet

theorem bootstrapped_self (hload : loadGlobalConfigLenient configPath file = .ok existing)
    (hpath : existing.dbPath ≠ "") (hkey : existing.dbKey ≠ "") :
    Bootstrapped configPath file file where
  global := ⟨existing, existing, hload, hload, hpath, hkey, fun _ => rfl, fun _ => rfl⟩
  others := fun _ _ _ => rfl
  again := fun _ => bootstrap_complete hload hpath hkey

/-- A run that writes. -/
theorem keepsOrBootstraps_writes (hload : loadGlobalConfigLenient configPath file = .ok existing)
    (hwrites : bootstrapGlobalConfigIfNeeded configPath system file =
      writeGlobal system file (existing.dbPath = "") (existing.dbKey = "") (dbPathOf existing))
    (hmakes : existing.dbKey = "" → MakesKey configPath system file) :
    KeepsOrBootstraps configPath system file ↔
      (MakesKey configPath system file → system.randBytes ≠ none) := by
  rw [KeepsOrBootstraps, hwrites]
  have hdone : ∀ bytes : { bytes : Bytes // bytes.length = 32 },
      (decide (existing.dbKey = "") = true → system.randBytes = some bytes) →
      ∃ after, writeGlobal system file (existing.dbPath = "") (existing.dbKey = "")
          (dbPathOf existing) = (after, .ok ()) ∧ Bootstrapped configPath file after :=
    fun bytes hbytes => ⟨_, writeGlobal_ok _ _ _ hbytes,
      bootstrapped_append hload (by rw [bytes.2]; decide)⟩
  by_cases hkey : existing.dbKey = ""
  · cases hbytes : system.randBytes with
    | none =>
      refine iff_of_false ?_ fun h => h (hmakes hkey) rfl
      rw [decide_eq_true hkey]
      obtain ⟨written, herror⟩ := @writeGlobal_error system file (existing.dbPath = "")
        (dbPathOf existing) hbytes
      rw [herror]
      rintro (⟨e, heq⟩ | ⟨after, heq, -⟩)
      · exact append_ne (readable_of_load hload) written (congrArg Prod.fst heq)
      · cases congrArg Prod.snd heq
    | some bytes => exact iff_of_true (.inr (hdone bytes fun _ => hbytes)) fun _ => Option.some_ne_none _
  · refine iff_of_true (.inr (hdone ⟨List.replicate 32 0, List.length_replicate⟩ fun h =>
      absurd (of_decide_eq_true h) hkey)) ?_
    rintro ⟨existing', hexisting, hempty, -⟩
    obtain rfl := Except.ok.inj (hload.symm.trans hexisting)
    exact absurd hempty hkey

end Runs

/-- For every text or absence of the configuration and everything that the system answers: the run
throws and leaves the file as it is, or returns and leaves it bootstrapped, exactly when the bytes for
a key can be had where one is made. A database that is there is never given a new key. -/
theorem keepsOrBootstraps_iff (configPath : String) (system : BootstrapSystem) (file : ConfigFile) :
    (KeepsOrBootstraps configPath system file ↔
      (MakesKey configPath system file → system.randBytes ≠ none)) ∧
    ∀ existing, loadGlobalConfigLenient configPath file = .ok existing → existing.dbKey = "" →
      system.databaseExists (dbPathOf existing) = .ok true →
        bootstrapGlobalConfigIfNeeded configPath system file =
          (file, .error (refuseToInvent configPath (dbPathOf existing))) := by
  refine ⟨?_, fun existing => bootstrap_refuses⟩
  cases hload : loadGlobalConfigLenient configPath file with
  | error e =>
    refine iff_of_true (.inl ⟨e, bootstrap_error hload⟩) ?_
    rintro ⟨existing, hexisting, -⟩
    cases hload.symm.trans hexisting
  | ok existing =>
    by_cases hmissing : existing.dbPath = "" ∨ existing.dbKey = ""
    · rcases @bootstrap_incomplete configPath system file existing hload hmissing with
        ⟨hthrows, hmakes⟩ | ⟨hwrites, hmakes⟩
      · exact iff_of_true (.inl hthrows) fun h => absurd h hmakes
      · exact keepsOrBootstraps_writes hload hwrites hmakes
    · obtain ⟨hpath, hkey⟩ := not_or.mp hmissing
      refine iff_of_true (.inr ⟨file, bootstrap_complete hload hpath hkey,
        bootstrapped_self hload hpath hkey⟩) ?_
      rintro ⟨existing', hexisting, hempty, -⟩
      obtain rfl := Except.ok.inj (hload.symm.trans hexisting)
      exact absurd hempty hkey

/-- A configuration that has only `db_path`, on a system that has no random bytes. -/
def withoutKey : ConfigFile := .text "[global]\ndb_path=signal2sip.db\n"

def withoutRandomness : BootstrapSystem := ⟨fun _ => .ok false, true, none⟩

/-- An empty section is left behind. -/
theorem section_left_behind :
    ¬ KeepsOrBootstraps "signal2sip.conf" withoutRandomness withoutKey := by
  have hended : (bootstrapGlobalConfigIfNeeded "signal2sip.conf" withoutRandomness withoutKey).1 ≠
      withoutKey := by decide
  have hthrows : (bootstrapGlobalConfigIfNeeded "signal2sip.conf" withoutRandomness
      withoutKey).2.isOk = false := by decide
  rintro (⟨e, heq⟩ | ⟨after, heq, -⟩)
  · exact hended (congrArg Prod.fst heq)
  · rw [heq] at hthrows
    cases hthrows

end Signal2sip
