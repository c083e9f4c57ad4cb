import Signal2sip.Lib.Phases
import Signal2sip.Storage.Storage
import Signal2sip.Laws.TuiScreens

/-!
# Visits to an account

From Return on the list until the list is shown again, the TUI is at one account: on its detail screen,
in a dialog or in one of the two settings editors. Every visit starts at the highlighted row
(`visit_entry`), and stays with its name (`Visiting.step`). What it shows was read from the database
under that name, unless a read error is on display: a failed read keeps the record of whichever account
was read before.

`gendb_of_visit`: the account that `gendb` is run for is the one that was highlighted, and a `config set`
sends a value that differs from what was read of it.
-/

namespace Signal2sip.Tui

open Runs (final Always)
open Ui (SameAccount)

variable {m : Setting} {s : Ui} {e : Event × Answers} {name : String} {reads : List (Event × Answers)}

/-! ## The highlighted row -/

/-- The highlighted row is a row of the list, if there is one. -/
def InRange (s : Ui) : Prop := s.accounts = [] ∨ s.selected < s.accounts.length

theorem inRange_reload (a : Answers) (s : Ui) : InRange (s.reload a) := by
  by_cases hnone : (s.reload a).accounts = []
  · exact .inl hnone
  refine .inr ?_
  have hpos : 0 < (s.reload a).accounts.length := List.length_pos_iff.mpr hnone
  change (if (s.reload a).accounts.length ≤ s.selected then (s.reload a).accounts.length - 1
    else s.selected) < _
  split_ifs with hselected <;> omega

theorem Ui.SameAccount.inRange {s' : Ui} (h : SameAccount s s') (hs : InRange s) : InRange s' := by
  rw [InRange, h.accounts, h.selected]
  exact hs

theorem inRange_openDetail (a : Answers) (hs : InRange s) : InRange (s.openDetail a) := by
  unfold Ui.openDetail Ui.rereadDetail
  split_ifs
  · exact hs
  · split <;> exact hs

theorem inRange_handleList (a : Answers) (e : Event) (hs : InRange s) :
    InRange (s.handleList a e).1 := by
  unfold Ui.handleList
  split_ifs with hdown hnone hup hnone'
  · exact hs
  · refine .inr ?_
    have hpos : 0 < s.accounts.length := by simpa [List.length_pos_iff] using hnone
    change min (s.selected + 1) (s.accounts.length - 1) < s.accounts.length
    omega
  · exact hs
  · refine .inr ?_
    have hlt := hs.resolve_left (by simpa using hnone')
    change s.selected - 1 < s.accounts.length
    omega
  · exact inRange_openDetail a hs
  · exact hs
  · exact inRange_reload a s
  · exact hs
  · exact hs

theorem inRange_handleConfirm (a : Answers) (e : Event) (hs : InRange s) :
    InRange (s.handleConfirm m a e).1 := by
  obtain ⟨-, hleft⟩ | ⟨-, -, hleft⟩ | ⟨hopen, hescape⟩ := Ui.handleConfirm_cases m a s e
  · rw [hleft]
    exact inRange_reload a _
  · rw [hleft]
    exact hs
  · obtain ⟨-, hrun⟩ | ⟨-, -, hstays⟩ := Ui.handleConfirm_answer m a hopen hescape
    · rw [hrun, Ui.runPendingAction]
      split <;> exact hs
    · exact hstays.toSameAccount.inRange hs

theorem inRange_step (s : Ui) (e : Event × Answers) (hs : InRange s) : InRange (s.step m e) := by
  rw [Ui.step, Ui.handle]
  split
  next hscreen =>
    obtain ⟨hleft, -⟩ | ⟨hsame, -⟩ := Ui.handleWizard_move m e.2 s e.1 hscreen
    · rw [hleft]
      exact inRange_reload e.2 _
    · rw [InRange, hsame.accounts, hsame.selected]
      exact hs
  next hscreen =>
    obtain hleft | ⟨hsame, -⟩ := Ui.handleConfig_cases m e.2 s e.1 hscreen
    · rw [hleft]
      exact inRange_reload e.2 _
    · exact hsame.inRange hs
  next hscreen =>
    obtain hleft | ⟨hsame, -⟩ := Ui.handleSignalConfig_cases m e.2 s e.1 hscreen
    · rw [hleft]
      exact inRange_reload e.2 _
    · exact hsame.inRange hs
  next => exact inRange_handleConfirm e.2 e.1 hs
  next => exact inRange_handleList e.2 e.1 hs
  next hscreen =>
    obtain ⟨-, hopen⟩ | ⟨-, -, hopen | hopen | ⟨hsame, -⟩⟩ := Ui.handleDetail_cases s e.1 hscreen
    · rw [hopen]
      exact hs
    · rw [hopen]
      exact hs
    · rw [hopen]
      exact hs
    · exact hsame.inRange hs

/-- The highlighted row is in range in every state that the TUI reaches. -/
theorem inRange_run (m : Setting) (a : Answers) (es : List (Event × Answers)) :
    InRange (final (Ui.step m) (Ui.start a) es) :=
  (Always.of_keep inRange_step (inRange_reload a _)).last

/-! ## A visit -/

/-- The screens of one account. -/
def InVisit (s : Ui) : Prop := s.screenIndex ≠ .list ∧ s.screenIndex ≠ .wizard

/-- An exception of the database says what went wrong. -/
def Telling (e : Event × Answers) : Prop :=
  ∀ name error, e.2.loadAccount name = .error error → error.what ≠ ""

theorem append_ne_empty {p : String} (hp : p ≠ "") (s : String) : p ++ s ≠ "" := by
  intro h
  have hchars := congrArg String.toList h
  rw [String.toList_append] at hchars
  exact hp (String.toList_inj.mp (List.append_eq_nil_iff.mp hchars).1)

/-- The exceptions of `Storage::loadAccount` do. -/
theorem telling_of_loadAccount
    (h : ∀ name, ∃ db f, e.2.loadAccount name = (Storage.loadAccount db name f).value) : Telling e := by
  intro name error hread
  obtain ⟨db, f, heq⟩ := h name
  rw [heq] at hread
  rcases Sqlite.Outcome.bind_error_iff.mp hread with hlookup | ⟨row, -, hrow⟩
  · obtain ⟨e, -, rfl⟩ := Sqlite.firstRow_error hlookup
    exact append_ne_empty (by decide) e.message
  · cases row with
    | none =>
      cases hrow
      decide
    | some account => cases hrow

/-- What a visit to an account knows: the name, and what the database answered under it. The settings
editors start from what was read. -/
structure Visiting (name : String) (reads : List (Event × Answers)) (s : Ui) : Prop where
  detailName : s.detailName = name
  detail : s.detailError = "" → ∃ read ∈ reads, read.2.loadAccount name = .ok s.detail
  originalValues : s.screenIndex = .config → s.originalValues = openConfig s.detail
  signalOriginalValues : s.screenIndex = .signalConfig →
    s.signalOriginalValues = Ui.signalValues s.detail

theorem rereadDetail_read {a : Answers}
    (htelling : ∀ name error, a.loadAccount name = .error error → error.what ≠ "")
    (h : (s.rereadDetail a).detailError = "") :
    a.loadAccount s.detailName = .ok (s.rereadDetail a).detail := by
  unfold Ui.rereadDetail at h ⊢
  split at h
  next record hread => rw [hread]
  next error hread => exact absurd h (htelling _ _ hread)

/-- What was read stays known as long as the account stays the same. -/
theorem Visiting.of_same {s' : Ui} (h : Visiting name reads s) (hsame : SameAccount s s')
    (hconfig : s'.screenIndex = .config → s'.originalValues = openConfig s.detail)
    (hsignal : s'.screenIndex = .signalConfig → s'.signalOriginalValues = Ui.signalValues s.detail) :
    Visiting name (reads ++ [e]) s' where
  detailName := hsame.detailName.trans h.detailName
  detail hnone := by
    obtain ⟨read, hmem, hread⟩ := h.detail (hsame.detailError ▸ hnone)
    exact ⟨read, List.mem_append_left _ hmem, hsame.detail.symm ▸ hread⟩
  originalValues hscreen := hsame.detail.symm ▸ hconfig hscreen
  signalOriginalValues hscreen := hsame.detail.symm ▸ hsignal hscreen

/-- A visit goes on from the detail screen after a read. -/
theorem visiting_rereadDetail (htelling : Telling e) (hname : s.detailName = name)
    (hscreen : s.screenIndex = .detail) : Visiting name (reads ++ [e]) (s.rereadDetail e.2) where
  detailName := (Ui.rereadDetail_detailName e.2 s).trans hname
  detail hnone := ⟨e, by simp, hname ▸ rereadDetail_read htelling hnone⟩
  originalValues h := by simp [hscreen] at h
  signalOriginalValues h := by simp [hscreen] at h

/-- The list does not touch what is known of the account. -/
theorem Visiting.dismissed (h : Visiting name reads (s.rereadDetail e.2)) :
    Visiting name reads (s.dismissed e.2) :=
  ⟨h.detailName, h.detail, h.originalValues, h.signalOriginalValues⟩

theorem Visiting.step (htelling : Telling e) (h : Visiting name reads s) (hin : InVisit s)
    (hafter : InVisit (s.step m e)) : Visiting name (reads ++ [e]) (s.step m e) := by
  revert hafter
  rw [Ui.step, Ui.handle]
  split
  next hscreen => exact absurd hscreen hin.2
  next hscreen =>
    intro _
    obtain hleft | ⟨hsame, hto, -⟩ := Ui.handleConfig_cases m e.2 s e.1 hscreen
    · rw [hleft]
      refine Visiting.dismissed (visiting_rereadDetail htelling ?_ ?_)
      · exact h.detailName
      · rfl
    · obtain hdetail | ⟨hconfig, hvalues⟩ := hto
      · exact h.of_same hsame (by simp [hdetail]) (by simp [hdetail])
      · exact h.of_same hsame (fun _ => hvalues.trans (h.originalValues hscreen)) (by simp [hconfig])
  next hscreen =>
    intro _
    obtain hleft | ⟨hsame, hto, -⟩ := Ui.handleSignalConfig_cases m e.2 s e.1 hscreen
    · rw [hleft]
      refine Visiting.dismissed (visiting_rereadDetail htelling ?_ ?_)
      · exact h.detailName
      · rfl
    · obtain hdetail | ⟨hsignal, hvalues⟩ := hto
      · exact h.of_same hsame (by simp [hdetail]) (by simp [hdetail])
      · exact h.of_same hsame (by simp [hsignal]) fun _ =>
          hvalues.trans (h.signalOriginalValues hscreen)
  next hscreen =>
    intro hafter
    obtain ⟨-, hleft⟩ | ⟨-, -, hleft⟩ | ⟨hopen, hescape⟩ := Ui.handleConfirm_cases m e.2 s e.1
    · rw [hleft] at hafter
      exact absurd rfl hafter.1
    · rw [hleft]
      exact h.of_same ⟨rfl, rfl, rfl, rfl, rfl⟩ (by simp) (by simp)
    · obtain ⟨-, hrun⟩ | ⟨-, -, hstays⟩ := Ui.handleConfirm_answer m e.2 hopen hescape
      · rw [hrun, Ui.runPendingAction]
        split <;> exact h.of_same ⟨rfl, rfl, rfl, rfl, rfl⟩ (by simp [hscreen]) (by simp [hscreen])
      · have hshown := hstays.screenIndex.trans hscreen
        exact h.of_same hstays.toSameAccount (by simp [hshown]) (by simp [hshown])
  next hscreen => exact absurd hscreen hin.1
  next hscreen =>
    intro _
    obtain ⟨-, hopen⟩ | ⟨-, -, hopen | hopen | ⟨hsame, hto⟩⟩ := Ui.handleDetail_cases s e.1 hscreen
    · rw [hopen]
      exact h.of_same ⟨rfl, rfl, rfl, rfl, rfl⟩ (by simp [Ui.openConfirm]) (by simp [Ui.openConfirm])
    · rw [hopen]
      exact h.of_same ⟨rfl, rfl, rfl, rfl, rfl⟩ (fun _ => rfl) (by simp [Ui.openConfig])
    · rw [hopen]
      exact h.of_same ⟨rfl, rfl, rfl, rfl, rfl⟩ (by simp [Ui.openSignalConfig]) fun _ => rfl
    · obtain hlist | hdetail := hto
      · exact h.of_same hsame (by simp [hlist]) (by simp [hlist])
      · exact h.of_same hsame (by simp [hdetail]) (by simp [hdetail])

theorem visiting_openDetail (htelling : Telling e) (hname : s.accounts[s.selected]? = some name) :
    Visiting name [e] (s.openDetail e.2) := by
  have hne : ¬ s.accounts.isEmpty = true := by
    intro hempty
    simp [List.isEmpty_iff.mp hempty] at hname
  have hget : s.accounts.getD s.selected "" = name := by simp [List.getD, hname]
  rw [Ui.openDetail, if_neg hne, hget]
  set opened : Ui := { s with detailName := name, detailError := "" }
  exact
    { detailName := Ui.rereadDetail_detailName e.2 opened
      detail := fun hnone => ⟨e, by simp, rereadDetail_read (s := opened) htelling hnone⟩
      originalValues := fun h => by cases h
      signalOriginalValues := fun h => by cases h }

/-- A visit starts with Return on the list, at the highlighted row. -/
theorem visit_entry (hrange : InRange s) (htelling : Telling e) (hbefore : ¬ InVisit s)
    (hafter : InVisit (s.step m e)) :
    s.screenIndex = .list ∧ e.1 = .enter ∧
      ∃ name, s.accounts[s.selected]? = some name ∧ Visiting name [e] (s.step m e) := by
  have hmoved := Ui.moved m s e
  generalize s.step m e = s' at hafter hmoved
  cases hmoved with
  | opened hscreen henter hne =>
    have hname := List.getElem?_eq_getElem (hrange.resolve_left hne)
    exact ⟨hscreen, henter, _, hname, visiting_openDetail htelling hname⟩
  | wizard _ => exact absurd rfl hafter.2
  | asked hscreen _ | config hscreen | signalConfig hscreen =>
    exact absurd ⟨by simp [hscreen], by simp [hscreen]⟩ hbefore
  | back _ hscreen => exact absurd (hscreen.resolve_left hafter.1).2 hbefore
  | same _ hscreen => exact absurd ⟨hscreen ▸ hafter.1, hscreen ▸ hafter.2⟩ hbefore

theorem Visiting.run {post : List (Event × Answers)} (htelling : ∀ e ∈ post, Telling e)
    (h : Visiting name reads s) (hin : Always (Ui.step m) InVisit s post) :
    Visiting name (reads ++ post) (final (Ui.step m) s post) := by
  induction post generalizing s reads with
  | nil => rwa [List.append_nil]
  | cons e post ih =>
    have hstep := h.step (htelling e List.mem_cons_self) hin.1 hin.2.head
    have hrest := ih (fun e' he' => htelling e' (List.mem_cons_of_mem _ he')) hstep hin.2
    rwa [List.append_assoc, List.singleton_append] at hrest

/-! ## What is run during a visit -/

/-- What the settings editors show of a record, under the name that `config set` has for it. -/
def shownValue (record : AccountRecord) (key : String) : String :=
  if key ∈ kSignalConfigFields.map ConfigFieldDef.key then Ui.signalValues record key
  else openConfig record key

theorem ne_of_fieldCommands {original edited : EditValues} {fields : List ConfigFieldDef}
    {edit : String × String} (h : edit ∈ fields.flatMap (fieldCommands original edited)) :
    edit.1 ∈ fields.map ConfigFieldDef.key ∧ edit.2 ≠ original edit.1 := by
  obtain ⟨f, hf, hedit⟩ := List.mem_flatMap.mp h
  rw [fieldCommands] at hedit
  split_ifs at hedit with hsame
  · cases hedit
  · cases List.mem_singleton.mp hedit
    exact ⟨List.mem_map_of_mem hf, hsame⟩

theorem sip_key_not_signal :
    ∀ key ∈ kConfigFields.map ConfigFieldDef.key, key ∉ kSignalConfigFields.map ConfigFieldDef.key := by
  decide

/-- The arguments that a run in a visit has: the name, and a value that is not the one on record. -/
theorem Visiting.gendb {argv : List String} (h : Visiting name reads s) (hin : InVisit s)
    (hrun : .gendb argv ∈ s.effects m e) :
    ∃ rest, argv = "--config" :: m.configPath :: name :: rest ∧
      ∀ key value, rest = ["config", "set", key, value] → s.detailError = "" →
        ∃ read ∈ reads, ∃ record, read.2.loadAccount name = .ok record ∧ value ≠ shownValue record key := by
  by_cases hscreen : s.screenIndex = .confirm
  · obtain ⟨-, -, _, hargv, heq⟩ := (Ui.mem_effects_confirm hscreen).mp hrun
    obtain ⟨command, -, rfl⟩ := Option.map_eq_some_iff.mp hargv
    cases heq
    exact ⟨[command], by rw [h.detailName], fun key value heq => by simp at heq⟩
  cases Ui.issued hscreen hrun with
  | sipSetting hconfig edit hedit =>
    refine ⟨["config", "set", edit.1, edit.2], by rw [h.detailName]; rfl, fun key value heq hnone => ?_⟩
    simp only [List.cons.injEq, true_and, and_true] at heq
    obtain ⟨rfl, rfl⟩ := heq
    rw [saveConfig] at hedit
    split_ifs at hedit
    · cases hedit
    obtain ⟨hkey, hvalue⟩ := ne_of_fieldCommands hedit
    obtain ⟨read, hread, hrecord⟩ := h.detail hnone
    refine ⟨read, hread, s.detail, hrecord, ?_⟩
    rwa [shownValue, if_neg (sip_key_not_signal _ hkey), ← h.originalValues hconfig]
  | signalSetting hsignal edit hedit =>
    refine ⟨["config", "set", edit.1, edit.2], by rw [h.detailName]; rfl, fun key value heq hnone => ?_⟩
    simp only [List.cons.injEq, true_and, and_true] at heq
    obtain ⟨rfl, rfl⟩ := heq
    obtain ⟨hkey, hvalue⟩ := ne_of_fieldCommands hedit
    obtain ⟨read, hread, hrecord⟩ := h.detail hnone
    refine ⟨read, hread, s.detail, hrecord, ?_⟩
    rwa [shownValue, if_pos hkey, ← h.signalOriginalValues hsignal]
  | register hwizard _ | captcha hwizard _ | verify hwizard _ => exact absurd hwizard hin.2

/-- **The account that is acted on.** In every run of the TUI, whatever `gendb` is run with outside of
the wizard names the account whose row was highlighted when Return opened the visit, and the TUI has
stayed at that account since. Unless a read error is on display, a value that `config set` sends is not
the one that the account's row had when it was read during the visit. -/
theorem gendb_of_visit (m : Setting) (a : Answers) (es : List (Event × Answers)) (e : Event × Answers)
    (htelling : ∀ e ∈ es, Telling e) {argv : List String}
    (hwizard : (final (Ui.step m) (Ui.start a) es).screenIndex ≠ .wizard)
    (hrun : .gendb argv ∈ (final (Ui.step m) (Ui.start a) es).effects m e) :
    ∃ pre r post name rest, es = pre ++ r :: post ∧
      argv = "--config" :: m.configPath :: name :: rest ∧
      (final (Ui.step m) (Ui.start a) pre).screenIndex = .list ∧ r.1 = .enter ∧
      (final (Ui.step m) (Ui.start a) pre).accounts[(final (Ui.step m) (Ui.start a) pre).selected]? =
        some name ∧
      Always (Ui.step m) InVisit (final (Ui.step m) (Ui.start a) (pre ++ [r])) post ∧
      ∀ key value, rest = ["config", "set", key, value] →
        (final (Ui.step m) (Ui.start a) es).detailError = "" →
        ∃ read ∈ r :: post, ∃ record,
          read.2.loadAccount name = .ok record ∧ value ≠ shownValue record key := by
  have hin : InVisit (final (Ui.step m) (Ui.start a) es) := by
    refine ⟨fun hlist => ?_, hwizard⟩
    have hissued := Ui.issued (by simp [hlist]) hrun
    cases hissued with
    | sipSetting h _ _ | signalSetting h _ _ | register h _ | captcha h _ | verify h _ =>
      simp [hlist] at h
  have hstart : ¬ InVisit (Ui.start a) := fun h => h.1 rfl
  obtain ⟨pre, r, post, rfl, hbefore, hpost⟩ := Runs.exists_entry hstart hin
  obtain ⟨hlist, henter, name, hname, hvisit⟩ :=
    visit_entry (inRange_run m a pre) (htelling r (by simp)) hbefore hpost.head
  have hrest : ∀ e ∈ post, Telling e := fun e he => htelling e (by simp [he])
  have hend := hvisit.run hrest hpost
  rw [Runs.final_append, Runs.final_cons] at hrun hin ⊢
  obtain ⟨rest, hargv, hset⟩ := hend.gendb hin hrun
  refine ⟨pre, r, post, name, rest, rfl, hargv, hlist, henter, hname, ?_, hset⟩
  rwa [Runs.final_concat]

/-- One account, whose row has no setting yet. -/
def oneAccount : Answers where
  listAllAccounts := .ok ["alice"]
  loadAccount _ := .ok { e164 := "+15550100", aci := "", pni := "", password := "" }
  gendb _ := { exitCode := 0 }
  link := none

/-- Opening the account and typing a target into the last field of its SIP settings. -/
def typedTarget : List (Event × Answers) :=
  [(.enter, oneAccount), (.char 'c', oneAccount), (.arrowUp, oneAccount), (.char '7', oneAccount)]

theorem gendb_of_visit_target :
    ∃ pre r post name rest, typedTarget = pre ++ r :: post ∧
      ["--config", "signal2sip.conf", "alice", "config", "set", "outgoing_call_target", "7"] =
        "--config" :: "signal2sip.conf" :: name :: rest ∧ r.1 = .enter := by
  have hrun : .gendb ["--config", "signal2sip.conf", "alice", "config", "set", "outgoing_call_target", "7"] ∈
      (final (Ui.step ⟨"signal2sip.conf", fun _ => ""⟩) (Ui.start oneAccount) typedTarget).effects
        ⟨"signal2sip.conf", fun _ => ""⟩ (.ctrlO, oneAccount) := by
    decide
  obtain ⟨pre, r, post, name, rest, hsplit, hargv, -, henter, -⟩ :=
    gendb_of_visit _ oneAccount typedTarget (.ctrlO, oneAccount)
      (by simp [typedTarget, Telling, oneAccount]) (by decide) hrun
  exact ⟨pre, r, post, name, rest, hsplit, hargv, henter⟩

end Signal2sip.Tui
