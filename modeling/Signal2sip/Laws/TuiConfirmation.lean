import Signal2sip.Lib.Phases
import Signal2sip.Laws.TuiScreens

/-!
# What the TUI runs after a dialog

Four actions are run from a dialog: enabling, disabling and deactivating an account, and deleting it.
What is typed into a dialog is what the keys since its opening leave, `typeInto` being the machine that
keeps it. An open dialog follows that machine until it is answered or left (`Follows.step`,
`not_asking_step`), and it opens on the detail screen only (`asking_entry`).

`runsAction_iff` says, of every run of the TUI, exactly when an action runs: a deletion runs for an
account when `x` was pressed on its detail screen, and the keys since then spell its whole name, with no
Escape and no earlier Return on the whole name among them, and Return is pressed.
-/

namespace Signal2sip.Tui

open Runs (final Always Along)
open Ui (Confirms step_confirm step_detail mem_effects_confirm)

variable {m : Setting} {s : Ui} {e : Event × Answers} {action : PendingAction} {name typed : String}

/-- The handling of the event runs the action's command for the account. -/
def RunsAction (m : Setting) (s : Ui) (e : Event × Answers) (action : PendingAction) (name : String) :
    Prop :=
  ∃ command, action.command = some command ∧
    .gendb ["--config", m.configPath, name, command] ∈ s.effects m e

/-- A key that neither answers the dialog nor leaves it. -/
def Unanswered (action : PendingAction) (name typed : String) (e : Event) : Prop :=
  e ≠ .escape ∧ ¬ Confirms action name typed e

/-! ## An open dialog -/

/-- The dialog of an action is shown and waits for an answer. -/
structure Asking (action : PendingAction) (s : Ui) : Prop where
  screenIndex : s.screenIndex = .confirm
  pending : s.pending = action
  lastResult : s.lastResult = none

/-- The dialog for an account, with what has been typed since it opened. -/
structure Follows (action : PendingAction) (name typed : String) (s : Ui) : Prop
    extends Asking action s where
  detailName : s.detailName = name
  typedConfirm : action = .deleteAccount → s.typedConfirm = typed

/-- Only the deletion looks at what is typed. -/
theorem Follows.confirms_iff (h : Follows action name typed s) (e : Event) :
    Confirms s.pending s.detailName s.typedConfirm e ↔ Confirms action name typed e := by
  rw [h.pending, h.detailName]
  cases action with
  | deleteAccount => rw [h.typedConfirm rfl]
  | none | enable | disable | deactivate => rfl

/-- An unanswered dialog keeps the typed text as the machine does. -/
theorem Follows.step (h : Follows action name typed s) (hkey : Unanswered action name typed e.1) :
    Follows action name (typeInto typed e.1) (s.step m e) := by
  rw [step_confirm h.screenIndex]
  obtain ⟨hanswer, -⟩ | ⟨-, -, hopen⟩ := Ui.handleConfirm_answer m e.2 h.lastResult hkey.1
  · exact absurd ((h.confirms_iff e.1).mp hanswer) hkey.2
  · exact
      { screenIndex := hopen.screenIndex.trans h.screenIndex
        pending := hopen.pending.trans h.pending
        lastResult := hopen.lastResult.trans h.lastResult
        detailName := hopen.detailName.trans h.detailName
        typedConfirm := fun hdelete => by
          rw [hopen.typedConfirm (h.pending.trans hdelete), h.typedConfirm hdelete] }

/-- An answered dialog, and one that is left, no longer asks. -/
theorem Follows.not_asking_step (h : Follows action name typed s) (haction : action ≠ .none)
    (hkey : ¬ Unanswered action name typed e.1) : ¬ Asking action (s.step m e) := by
  intro hasking
  rw [step_confirm h.screenIndex] at hasking
  obtain ⟨hresult, -⟩ | ⟨-, -, hleft⟩ | ⟨hopen, hescape⟩ := Ui.handleConfirm_cases m e.2 s e.1
  · rw [h.lastResult] at hresult
    exact absurd hresult Bool.false_ne_true
  · rw [hleft] at hasking
    exact absurd hasking.screenIndex (by simp)
  · obtain ⟨-, hrun⟩ | ⟨hno, -, -⟩ := Ui.handleConfirm_answer m e.2 hopen hescape
    · rw [hrun, Ui.runPendingAction, Ui.pendingArgv, h.pending] at hasking
      cases action with
      | none => exact haction rfl
      | enable | disable | deactivate | deleteAccount => cases hasking.lastResult
    · exact hkey ⟨hescape, fun hconfirms => hno ((h.confirms_iff e.1).mpr hconfirms)⟩

/-! ## Opening a dialog -/

theorem askedAction_opens (hscreen : s.screenIndex = .detail) (haction : s.askedAction e.1 = action)
    (hne : action ≠ .none) : Follows action s.detailName "" (s.step m e) := by
  rw [step_detail hscreen]
  obtain ⟨-, hopen⟩ | ⟨hnone, -⟩ := Ui.handleDetail_cases s e.1 hscreen
  · rw [hopen, haction]
    exact ⟨⟨rfl, rfl, rfl⟩, rfl, fun _ => rfl⟩
  · exact absurd (haction ▸ hnone) hne

/-- An event that leads to the confirmation screen from another one comes from the detail screen. -/
theorem confirm_entry (hbefore : s.screenIndex ≠ .confirm)
    (hafter : (s.step m e).screenIndex = .confirm) :
    s.screenIndex = .detail ∧ s.askedAction e.1 ≠ .none := by
  have hmoved := Ui.moved m s e
  generalize s.step m e = s' at hafter hmoved
  cases hmoved with
  | asked hscreen hasked => exact ⟨hscreen, hasked⟩
  | opened hscreen _ hne => simp [Ui.openDetail, hne] at hafter
  | wizard _ | config _ | signalConfig _ => cases hafter
  | back _ hscreen => simp [hafter] at hscreen
  | same _ hscreen => exact absurd (hscreen.symm.trans hafter) hbefore

theorem asking_entry (hbefore : ¬ Asking action s)
    (hafter : Asking action (s.step m e)) : s.screenIndex = .detail ∧ s.askedAction e.1 = action := by
  by_cases hscreen : s.screenIndex = .confirm
  · -- Within the dialogs no event changes the pending action without leaving them.
    exfalso
    rw [step_confirm hscreen] at hafter
    obtain ⟨-, hleft⟩ | ⟨-, -, hleft⟩ | ⟨hopen, hescape⟩ := Ui.handleConfirm_cases m e.2 s e.1
    · rw [hleft] at hafter
      exact absurd hafter.screenIndex (by simp)
    · rw [hleft] at hafter
      exact absurd hafter.screenIndex (by simp)
    · have hpending : s.pending ≠ action := fun h => hbefore ⟨hscreen, h, hopen⟩
      obtain ⟨-, hrun⟩ | ⟨-, -, hstays⟩ := Ui.handleConfirm_answer m e.2 hopen hescape
      · rw [hrun, Ui.runPendingAction] at hafter
        cases hargv : s.pendingArgv m with
        | none => exact hpending (by simpa [hargv] using hafter.pending)
        | some argv => exact hpending (by simpa [hargv] using hafter.pending)
      · exact hpending (hstays.pending.symm.trans hafter.pending)
  · obtain ⟨hdetail, hasked⟩ := confirm_entry hscreen hafter.screenIndex
    refine ⟨hdetail, ?_⟩
    have hfollows : Follows (s.askedAction e.1) s.detailName "" (s.step m e) :=
      askedAction_opens hdetail rfl hasked
    exact hfollows.pending.symm.trans hafter.pending

/-! ## A dialog over its keys -/

/-- An open dialog follows the typed text along keys that do not answer it. -/
theorem Follows.run {keys : List (Event × Answers)} (h : Follows action name typed s)
    (hkeys : Along typeInto (Unanswered action name) typed (keys.map Prod.fst)) :
    Follows action name (final typeInto typed (keys.map Prod.fst)) (final (Ui.step m) s keys) := by
  induction keys generalizing typed s with
  | nil => exact h
  | cons e keys ih => exact ih (h.step hkeys.1) hkeys.2

/-- A dialog that is open all along has not been answered. -/
theorem Follows.unanswered {keys : List (Event × Answers)} (haction : action ≠ .none)
    (h : Follows action name typed s) (hopen : Always (Ui.step m) (Asking action) s keys) :
    Along typeInto (Unanswered action name) typed (keys.map Prod.fst) := by
  induction keys generalizing typed s with
  | nil => trivial
  | cons e keys ih =>
    have hkey : Unanswered action name typed e.1 := by
      by_contra hanswered
      exact h.not_asking_step haction hanswered hopen.2.head
    exact ⟨hkey, ih (h.step hkey) hopen.2⟩

/-! ## What is run -/

/-- The commands with four arguments are run from the dialogs. -/
theorem RunsAction.confirm (h : RunsAction m s e action name) : s.screenIndex = .confirm := by
  obtain ⟨command, -, hrun⟩ := h
  by_contra hscreen
  have hlength := Ui.Issued.five_le_length (Ui.issued hscreen hrun)
  simp at hlength

/-- An action is run by an answer to its dialog. -/
theorem runsAction_iff_answer :
    RunsAction m s e action name ↔
      Asking action s ∧ s.detailName = name ∧ Confirms action name s.typedConfirm e.1 := by
  constructor
  · intro h
    have hscreen := h.confirm
    obtain ⟨command, hcommand, hrun⟩ := h
    obtain ⟨hopen, hanswer, argv, hargv, heq⟩ := (mem_effects_confirm hscreen).mp hrun
    obtain ⟨command', hcommand', rfl⟩ := Option.map_eq_some_iff.mp hargv
    cases heq
    have hpending : s.pending = action := by
      revert hcommand hcommand'
      cases s.pending <;> cases action <;> simp [PendingAction.command] <;> rintro rfl <;> simp
    exact ⟨⟨hscreen, hpending, hopen⟩, rfl, hpending ▸ hanswer⟩
  · rintro ⟨⟨hscreen, rfl, hopen⟩, rfl, hanswer⟩
    obtain ⟨command, hcommand⟩ : ∃ command, s.pending.command = some command := by
      revert hanswer
      cases s.pending <;> simp [Confirms, PendingAction.command]
    refine ⟨command, hcommand, (mem_effects_confirm hscreen).mpr ⟨hopen, hanswer, _, ?_, rfl⟩⟩
    rw [Ui.pendingArgv, hcommand]
    rfl

/-- **What the TUI runs after a dialog.** In every run of the TUI, the handling of an event runs an
action for an account exactly when the run since the dialog opened is a confirmation of it: the key of
the action on the account's detail screen, then keys that neither answer the dialog nor leave it, then
the answer. The answer to a deletion is Return after the whole name. -/
theorem runsAction_iff (m : Setting) (a : Answers) (es : List (Event × Answers)) (e : Event × Answers)
    (action : PendingAction) (name : String) :
    RunsAction m (final (Ui.step m) (Ui.start a) es) e action name ↔
      ∃ pre k keys, es = pre ++ k :: keys ∧
        (final (Ui.step m) (Ui.start a) pre).screenIndex = .detail ∧
        (final (Ui.step m) (Ui.start a) pre).detailName = name ∧
        (final (Ui.step m) (Ui.start a) pre).askedAction k.1 = action ∧
        Along typeInto (Unanswered action name) "" (keys.map Prod.fst) ∧
        Confirms action name (final typeInto "" (keys.map Prod.fst)) e.1 := by
  rw [runsAction_iff_answer]
  constructor
  · rintro ⟨hasking, rfl, hanswer⟩
    have hne : action ≠ .none := by
      rintro rfl
      exact hanswer
    have hstart : ¬ Asking action (Ui.start a) := fun h => nomatch h.screenIndex
    obtain ⟨pre, k, keys, rfl, hbefore, hopen⟩ := Runs.exists_entry hstart hasking
    obtain ⟨hdetail, hasked⟩ := asking_entry hbefore hopen.head
    have hfollows := askedAction_opens (m := m) hdetail hasked hne
    have hkeys := hfollows.unanswered hne hopen
    have hend := hfollows.run (m := m) hkeys
    rw [Runs.final_append, Runs.final_cons] at hanswer ⊢
    refine ⟨pre, k, keys, rfl, hdetail, hend.detailName.symm, hasked, ?_⟩
    rw [hend.detailName] at hanswer ⊢
    refine ⟨hkeys, (hend.confirms_iff e.1).mp ?_⟩
    rwa [hend.pending, hend.detailName]
  · rintro ⟨pre, k, keys, rfl, hdetail, rfl, hasked, hkeys, hanswer⟩
    have hne : action ≠ .none := by
      rintro rfl
      exact hanswer
    have hend := (askedAction_opens (m := m) hdetail hasked hne).run (m := m) hkeys
    rw [Runs.final_append, Runs.final_cons]
    refine ⟨hend.toAsking, hend.detailName, ?_⟩
    have hconfirms := (hend.confirms_iff e.1).mpr hanswer
    rwa [hend.pending, hend.detailName] at hconfirms

end Signal2sip.Tui
