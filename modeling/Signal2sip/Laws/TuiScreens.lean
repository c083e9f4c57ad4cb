import Signal2sip.Tui.Screens

/-!
# What one event can do, screen by screen

Each screen of the TUI has an inversion lemma: the screens that an event can lead to, what it keeps of
the account that is being looked at (`SameAccount`), and the effects that it can have. The laws about
runs go through these lemmas and do not open the handlers again.
-/

namespace Signal2sip.Tui

namespace Ui

variable {m : Setting} {a : Answers} {s s' : Ui} {e : Event} {effects : List Effect}

/-! ## Reading the database -/

@[simp] theorem reload_screenIndex (a : Answers) (s : Ui) : (s.reload a).screenIndex = s.screenIndex :=
  rfl

@[simp] theorem reload_detail (a : Answers) (s : Ui) : (s.reload a).detail = s.detail := rfl

@[simp] theorem reload_detailName (a : Answers) (s : Ui) : (s.reload a).detailName = s.detailName := rfl

@[simp] theorem reload_detailError (a : Answers) (s : Ui) : (s.reload a).detailError = s.detailError :=
  rfl

@[simp] theorem rereadDetail_screenIndex (a : Answers) (s : Ui) :
    (s.rereadDetail a).screenIndex = s.screenIndex := by
  unfold rereadDetail
  split <;> rfl

@[simp] theorem rereadDetail_detailName (a : Answers) (s : Ui) :
    (s.rereadDetail a).detailName = s.detailName := by
  unfold rereadDetail
  split <;> rfl

/-- The account that is being looked at, what was read of it, and the list that it was chosen from. -/
structure SameAccount (s s' : Ui) : Prop where
  detail : s'.detail = s.detail
  detailName : s'.detailName = s.detailName
  detailError : s'.detailError = s.detailError
  accounts : s'.accounts = s.accounts
  selected : s'.selected = s.selected

/-! ## The list -/

theorem handleList_cases (a : Answers) (s : Ui) (e : Event) (hscreen : s.screenIndex = .list) :
    (e = .enter ∧ s.accounts ≠ [] ∧ handleList a s e = (openDetail a s, [])) ∨
    handleList a s e = (openWizard s, []) ∨
    ((handleList a s e).1.screenIndex = .list ∧ ∀ effect ∈ (handleList a s e).2, effect = .exitLoop) := by
  by_cases henter : e = .enter
  · subst henter
    have hopen : handleList a s .enter = (openDetail a s, []) := by simp [handleList, Event.char]
    by_cases hnone : s.accounts = []
    · refine .inr (.inr ?_)
      simp [hopen, openDetail, hnone, hscreen]
    · exact .inl ⟨rfl, hnone, hopen⟩
  by_cases hnew : e = .char 'n'
  · subst hnew
    exact .inr (.inl (by simp [handleList, Event.char]))
  refine .inr (.inr ?_)
  simp only [handleList, if_neg henter, if_neg hnew]
  split_ifs <;> simp [hscreen]

/-! ## The detail screen -/

theorem handleDetail_cases (s : Ui) (e : Event) (hscreen : s.screenIndex = .detail) :
    (s.askedAction e ≠ .none ∧ handleDetail s e = (openConfirm (s.askedAction e) s, [])) ∨
    (s.askedAction e = .none ∧ (handleDetail s e).2 = [] ∧
      (handleDetail s e = (openConfig s, []) ∨ handleDetail s e = (openSignalConfig s, []) ∨
        (SameAccount s (handleDetail s e).1 ∧
          ((handleDetail s e).1.screenIndex = .list ∨ (handleDetail s e).1.screenIndex = .detail)))) := by
  unfold handleDetail
  split_ifs with hescape hasked hconfig hsignal
  · refine .inr ⟨?_, rfl, .inr (.inr ⟨⟨rfl, rfl, rfl, rfl, rfl⟩, .inl rfl⟩)⟩
    simp [askedAction, hescape, Event.char]
  · exact .inl ⟨hasked, rfl⟩
  all_goals have hnone := not_not.mp hasked
  · exact .inr ⟨hnone, rfl, .inl rfl⟩
  · exact .inr ⟨hnone, rfl, .inr (.inl rfl)⟩
  · exact .inr ⟨hnone, rfl, .inr (.inr ⟨⟨rfl, rfl, rfl, rfl, rfl⟩, .inr hscreen⟩)⟩

/-! ## The settings editors -/

/-- After a save has been looked at, the account is read again. -/
def dismissed (a : Answers) (s : Ui) : Ui := reload a (rereadDetail a s)

theorem handleConfig_cases (m : Setting) (a : Answers) (s : Ui) (e : Event)
    (hscreen : s.screenIndex = .config) :
    handleConfig m a s e =
      (dismissed a { s with configSaveDone := false, screenIndex := .detail }, []) ∨
    (SameAccount s (handleConfig m a s e).1 ∧
      ((handleConfig m a s e).1.screenIndex = .detail ∨
        (handleConfig m a s e).1.screenIndex = .config ∧
          (handleConfig m a s e).1.originalValues = s.originalValues) ∧
      ∀ effect ∈ (handleConfig m a s e).2,
        ∃ edit ∈ Signal2sip.saveConfig s.originalValues s.editValues,
          effect = .gendb (configSetArgs m.configPath s.detailName edit.1 edit.2)) := by
  unfold handleConfig
  split
  · exact .inl rfl
  · refine .inr ?_
    split
    case h_2 =>
      unfold saveConfig
      split_ifs
      · exact ⟨⟨rfl, rfl, rfl, rfl, rfl⟩, .inr ⟨hscreen, rfl⟩, by simp⟩
      · refine ⟨⟨rfl, rfl, rfl, rfl, rfl⟩, .inr ⟨hscreen, rfl⟩, fun effect heffect => ?_⟩
        simp only [setArgvs, List.map_map, List.mem_map, Function.comp_apply] at heffect
        obtain ⟨edit, hedit, rfl⟩ := heffect
        exact ⟨edit, hedit, rfl⟩
    case h_7 => split <;> exact ⟨⟨rfl, rfl, rfl, rfl, rfl⟩, .inr ⟨hscreen, rfl⟩, by simp⟩
    case h_1 => exact ⟨⟨rfl, rfl, rfl, rfl, rfl⟩, .inl rfl, by simp⟩
    all_goals exact ⟨⟨rfl, rfl, rfl, rfl, rfl⟩, .inr ⟨hscreen, rfl⟩, by simp⟩

theorem handleSignalConfig_cases (m : Setting) (a : Answers) (s : Ui) (e : Event)
    (hscreen : s.screenIndex = .signalConfig) :
    handleSignalConfig m a s e =
      (dismissed a { s with signalSaveDone := false, screenIndex := .detail }, []) ∨
    (SameAccount s (handleSignalConfig m a s e).1 ∧
      ((handleSignalConfig m a s e).1.screenIndex = .detail ∨
        (handleSignalConfig m a s e).1.screenIndex = .signalConfig ∧
          (handleSignalConfig m a s e).1.signalOriginalValues = s.signalOriginalValues) ∧
      ∀ effect ∈ (handleSignalConfig m a s e).2,
        ∃ edit ∈ kSignalConfigFields.flatMap (fieldCommands s.signalOriginalValues s.signalEditValues),
          effect = .gendb (configSetArgs m.configPath s.detailName edit.1 edit.2)) := by
  unfold handleSignalConfig
  split
  · exact .inl rfl
  · refine .inr ?_
    split
    case h_2 =>
      refine ⟨⟨rfl, rfl, rfl, rfl, rfl⟩, .inr ⟨hscreen, rfl⟩, fun effect heffect => ?_⟩
      simp only [saveSignalConfig, setArgvs, List.map_map, List.mem_map, Function.comp_apply] at heffect
      obtain ⟨edit, hedit, rfl⟩ := heffect
      exact ⟨edit, hedit, rfl⟩
    case h_7 => split <;> exact ⟨⟨rfl, rfl, rfl, rfl, rfl⟩, .inr ⟨hscreen, rfl⟩, by simp⟩
    case h_1 => exact ⟨⟨rfl, rfl, rfl, rfl, rfl⟩, .inl rfl, by simp⟩
    all_goals exact ⟨⟨rfl, rfl, rfl, rfl, rfl⟩, .inr ⟨hscreen, rfl⟩, by simp⟩

/-! ## The dialogs -/

/-- The answer that the dialog of an action waits for. The deletion waits for the whole name. -/
def Confirms (action : PendingAction) (name typed : String) (e : Event) : Prop :=
  match action with
  | .none => False
  | .deleteAccount => e = .enter ∧ typed = name
  | .enable | .disable | .deactivate => e = .char 'y'

instance (action : PendingAction) (name typed : String) (e : Event) :
    Decidable (Confirms action name typed e) := by
  cases action <;> unfold Confirms <;> infer_instance

/-- The dialog stays open, and the event has at most changed what is typed. -/
structure StillOpen (s s' : Ui) (e : Event) : Prop extends SameAccount s s' where
  screenIndex : s'.screenIndex = s.screenIndex
  pending : s'.pending = s.pending
  lastResult : s'.lastResult = s.lastResult
  typedConfirm : s.pending = .deleteAccount → s'.typedConfirm = typeInto s.typedConfirm e

theorem handleConfirm_open (m : Setting) (a : Answers) {s : Ui} {e : Event}
    (hopen : s.lastResult = none) (hescape : e ≠ .escape) :
    handleConfirm m a s e =
      if s.pending = .deleteAccount then
        if e = .enter then if s.typedConfirm = s.detailName then runPendingAction m a s else (s, [])
        else ({ s with typedConfirm := typeInto s.typedConfirm e }, [])
      else if e = .char 'y' then runPendingAction m a s
      else (s, []) := by
  have hresult : ¬ s.lastResult.isSome = true := by simp [hopen]
  rw [handleConfirm, if_neg hresult, if_neg hescape]

theorem runPendingAction_none (m : Setting) (a : Answers) {s : Ui} (h : s.pending = .none) :
    runPendingAction m a s = (s, []) := by
  have hargv : pendingArgv m s = none := by simp [pendingArgv, h, PendingAction.command]
  rw [runPendingAction, hargv]

/-- An open dialog takes an answer, or stays open. -/
theorem handleConfirm_answer (m : Setting) (a : Answers) {s : Ui} {e : Event}
    (hopen : s.lastResult = none) (hescape : e ≠ .escape) :
    (Confirms s.pending s.detailName s.typedConfirm e ∧ handleConfirm m a s e = runPendingAction m a s) ∨
    (¬ Confirms s.pending s.detailName s.typedConfirm e ∧ (handleConfirm m a s e).2 = [] ∧
      StillOpen s (handleConfirm m a s e).1 e) := by
  rw [handleConfirm_open m a hopen hescape]
  by_cases hdelete : s.pending = .deleteAccount
  · rw [if_pos hdelete]
    have hsevere : Confirms s.pending s.detailName s.typedConfirm e ↔
        e = .enter ∧ s.typedConfirm = s.detailName := by
      rw [hdelete]
      rfl
    rw [hsevere]
    split_ifs with henter htyped
    · exact .inl ⟨⟨henter, htyped⟩, rfl⟩
    · refine .inr ⟨fun h => htyped h.2, rfl, ⟨rfl, rfl, rfl, rfl, rfl⟩, rfl, rfl, rfl, fun _ => ?_⟩
      rw [henter]
      rfl
    · exact .inr ⟨fun h => henter h.1, rfl, ⟨rfl, rfl, rfl, rfl, rfl⟩, rfl, rfl, rfl, fun _ => rfl⟩
  · rw [if_neg hdelete]
    have hsame : StillOpen s s e := ⟨⟨rfl, rfl, rfl, rfl, rfl⟩, rfl, rfl, rfl, fun h => absurd h hdelete⟩
    by_cases hnone : s.pending = .none
    · refine .inr ⟨by rw [hnone]; exact not_false, ?_⟩
      split_ifs
      · rw [runPendingAction_none m a hnone]
        exact ⟨rfl, hsame⟩
      · exact ⟨rfl, hsame⟩
    · have hmild : Confirms s.pending s.detailName s.typedConfirm e ↔ e = .char 'y' := by
        revert hdelete hnone
        cases s.pending <;> simp [Confirms]
      split_ifs with hyes
      · exact .inl ⟨hmild.mpr hyes, rfl⟩
      · exact .inr ⟨fun h => hyes (hmild.mp h), rfl, hsame⟩

theorem handleConfirm_cases (m : Setting) (a : Answers) (s : Ui) (e : Event) :
    (s.lastResult.isSome ∧ handleConfirm m a s e =
      (reload a { s with pending := .none, lastResult := none, screenIndex := .list }, [])) ∨
    (s.lastResult = none ∧ e = .escape ∧
      handleConfirm m a s e = ({ s with pending := .none, screenIndex := .detail }, [])) ∨
    (s.lastResult = none ∧ e ≠ .escape) := by
  by_cases hresult : s.lastResult.isSome
  · exact .inl ⟨hresult, by rw [handleConfirm, if_pos hresult]⟩
  have hopen : s.lastResult = none := by simpa using hresult
  by_cases hescape : e = .escape
  · exact .inr (.inl ⟨hopen, hescape, by rw [handleConfirm, if_neg hresult, if_pos hescape]⟩)
  · exact .inr (.inr ⟨hopen, hescape⟩)

/-! ## The wizard -/

/-- What the wizard keeps from event to event: the listed accounts, and the name once it is chosen. -/
structure SameWizard (s s' : Ui) : Prop where
  screenIndex : s'.screenIndex = .wizard
  accounts : s'.accounts = s.accounts
  selected : s'.selected = s.selected
  wizName : s.wizardStep ≠ .chooseType ∨ s'.wizardStep ≠ .chooseType → s'.wizName = s.wizName

/-- The steps of the wizard, with what they run. -/
inductive Turn (m : Setting) (s : Ui) : WizardStep → List Effect → Prop
  | stay : Turn m s s.wizardStep []
  | named (h : s.wizardStep = .chooseType) (hname : s.wizName ≠ "") (hnew : s.wizName ∉ s.accounts) :
    Turn m s .registerForm []
  | linked (h : s.wizardStep = .chooseType) (hname : s.wizName ≠ "") (hnew : s.wizName ∉ s.accounts) :
    Turn m s .linkWaiting [.startLinkThread s.wizName]
  | registered (h : s.wizardStep = .registerForm) (he164 : s.wizE164 ≠ "") :
    Turn m s .registerResult [.gendb (registerArgv m s)]
  | toCaptcha (h : s.wizardStep = .registerResult) : Turn m s .captchaForm []
  | captcha (h : s.wizardStep = .captchaForm) : Turn m s .captchaResult [.gendb (captchaArgv m s)]
  | toVerify (h : s.wizardStep = .registerResult ∨ s.wizardStep = .captchaResult) :
    Turn m s .verifyForm []
  | verified (h : s.wizardStep = .verifyForm) : Turn m s .verifyResult [.gendb (verifyArgv m s)]
  | scanned (h : s.wizardStep = .linkWaiting) : Turn m s .linkResult [.joinLinkThread]

/-- An event of the wizard: what it leaves, and what it runs. -/
def WizardMove (m : Setting) (a : Answers) (s : Ui) (after : Ui × List Effect) : Prop :=
  (after.1 = reload a { s with screenIndex := .list } ∧
    (after.2 = [] ∨ s.wizardStep = .linkWaiting ∧ after.2 = [.cancelLinkThread])) ∨
  (SameWizard s after.1 ∧ Turn m s after.1.wizardStep after.2)

theorem WizardMove.stay {after : Ui} (hscreen : after.screenIndex = .wizard)
    (haccounts : after.accounts = s.accounts) (hselected : after.selected = s.selected)
    (hstep : after.wizardStep = s.wizardStep)
    (hname : s.wizardStep ≠ .chooseType → after.wizName = s.wizName) :
    WizardMove m a s (after, []) :=
  .inr ⟨⟨hscreen, haccounts, hselected, fun h => hname (by rwa [hstep, or_self] at h)⟩, by
    rw [show (after, ([] : List Effect)).1.wizardStep = s.wizardStep from hstep]
    exact .stay⟩

theorem handleChooseType_move (a : Answers) (hscreen : s.screenIndex = .wizard)
    (hstep : s.wizardStep = .chooseType) : WizardMove m a s (handleChooseType m s e) := by
  have hname {p : Prop} (h : s.wizardStep ≠ .chooseType) : p := absurd hstep h
  unfold handleChooseType
  split_ifs with hctrlO hempty htaken hlink hfield hmethod henter
  · exact .stay hscreen rfl rfl rfl hname
  · exact .stay hscreen rfl rfl rfl hname
  · exact .inr ⟨⟨hscreen, rfl, rfl, fun _ => rfl⟩, .linked hstep hempty htaken⟩
  · exact .inr ⟨⟨hscreen, rfl, rfl, fun _ => rfl⟩, .named hstep hempty htaken⟩
  · exact .stay hscreen rfl rfl rfl hname
  · exact .stay hscreen rfl rfl rfl hname
  · exact .stay hscreen rfl rfl rfl hname
  · split <;> exact .stay hscreen rfl rfl rfl hname

theorem handleRegisterForm_move (hscreen : s.screenIndex = .wizard)
    (hstep : s.wizardStep = .registerForm) : WizardMove m a s (handleRegisterForm m a s e) := by
  unfold handleRegisterForm
  split_ifs with hctrlO hempty hfield hmethod henter
  · exact .stay hscreen rfl rfl rfl fun _ => rfl
  · exact .inr ⟨⟨hscreen, rfl, rfl, fun _ => rfl⟩, .registered hstep hempty⟩
  · exact .stay hscreen rfl rfl rfl fun _ => rfl
  · exact .stay hscreen rfl rfl rfl fun _ => rfl
  · exact .stay hscreen rfl rfl rfl fun _ => rfl
  · exact .stay hscreen rfl rfl rfl fun _ => rfl
  · split <;> exact .stay hscreen rfl rfl rfl fun _ => rfl

theorem handleCaptchaForm_move (hscreen : s.screenIndex = .wizard)
    (hstep : s.wizardStep = .captchaForm) : WizardMove m a s (handleCaptchaForm m a s e) := by
  unfold handleCaptchaForm
  split_ifs
  · exact .inr ⟨⟨hscreen, rfl, rfl, fun _ => rfl⟩, .captcha hstep⟩
  · exact .stay hscreen rfl rfl rfl fun _ => rfl

theorem handleVerifyForm_move (hscreen : s.screenIndex = .wizard)
    (hstep : s.wizardStep = .verifyForm) : WizardMove m a s (handleVerifyForm m a s e) := by
  unfold handleVerifyForm
  split_ifs
  · exact .inr ⟨⟨hscreen, rfl, rfl, fun _ => rfl⟩, .verified hstep⟩
  · exact .stay hscreen rfl rfl rfl fun _ => rfl

theorem handleLinkWaiting_move (hscreen : s.screenIndex = .wizard)
    (hstep : s.wizardStep = .linkWaiting) : WizardMove m a s (handleLinkWaiting a s e) := by
  unfold handleLinkWaiting
  split
  · split
    · exact .inr ⟨⟨hscreen, rfl, rfl, fun _ => rfl⟩, .scanned hstep⟩
    · exact .stay hscreen rfl rfl rfl fun _ => rfl
  · exact .inl ⟨rfl, .inr ⟨hstep, rfl⟩⟩
  · exact .stay hscreen rfl rfl rfl fun _ => rfl

theorem handleWizard_move (m : Setting) (a : Answers) (s : Ui) (e : Event)
    (hscreen : s.screenIndex = .wizard) : WizardMove m a s (handleWizard m a s e) := by
  unfold handleWizard
  by_cases hwaiting : s.wizardStep = .linkWaiting
  · rw [if_pos hwaiting]
    exact handleLinkWaiting_move hscreen hwaiting
  rw [if_neg hwaiting]
  by_cases hleave : s.wizardStep = .verifyResult ∨ s.wizardStep = .linkResult ∨ e = .escape
  · rw [if_pos hleave]
    exact .inl ⟨rfl, .inl rfl⟩
  rw [if_neg hleave]
  split
  case h_1 hstep => exact handleChooseType_move a hscreen hstep
  case h_2 hstep => exact handleRegisterForm_move hscreen hstep
  case h_3 hstep =>
    split_ifs
    · exact .inr ⟨⟨hscreen, rfl, rfl, fun _ => rfl⟩, .toCaptcha hstep⟩
    · exact .inr ⟨⟨hscreen, rfl, rfl, fun _ => rfl⟩, .toVerify (.inl hstep)⟩
    · exact .stay hscreen rfl rfl rfl fun _ => rfl
  case h_4 hstep => exact handleCaptchaForm_move hscreen hstep
  case h_5 hstep =>
    split_ifs
    · exact .inr ⟨⟨hscreen, rfl, rfl, fun _ => rfl⟩, .toVerify (.inr hstep)⟩
    · exact .stay hscreen rfl rfl rfl fun _ => rfl
  case h_6 hstep => exact handleVerifyForm_move hscreen hstep
  all_goals exact .stay hscreen rfl rfl rfl fun _ => rfl

/-! ## Steps -/

section Steps

variable {event : Event × Answers}

theorem step_confirm (h : s.screenIndex = .confirm) :
    s.step m event = (s.handleConfirm m event.2 event.1).1 := by
  rw [step, handle, h]

theorem effects_confirm (h : s.screenIndex = .confirm) :
    s.effects m event = (s.handleConfirm m event.2 event.1).2 := by
  rw [effects, handle, h]

theorem step_detail (h : s.screenIndex = .detail) : s.step m event = (s.handleDetail event.1).1 := by
  rw [step, handle, h]

/-- A dialog that has been answered runs its action; nothing else on that screen has an effect. -/
theorem mem_effects_confirm (hscreen : s.screenIndex = .confirm) {effect : Effect} :
    effect ∈ s.effects m event ↔
      s.lastResult = none ∧ Confirms s.pending s.detailName s.typedConfirm event.1 ∧
        ∃ argv, s.pendingArgv m = some argv ∧ effect = .gendb argv := by
  rw [effects_confirm hscreen]
  obtain ⟨hresult, hrun⟩ | ⟨hopen, hescape, hrun⟩ | ⟨hopen, hescape⟩ :=
    handleConfirm_cases m event.2 s event.1
  · have hne : s.lastResult ≠ none := Option.isSome_iff_ne_none.mp hresult
    simp [hrun, hne]
  · have hno : ¬ Confirms s.pending s.detailName s.typedConfirm event.1 := by
      rw [hescape]
      cases s.pending <;> simp [Confirms, Event.char]
    simp [hrun, hno]
  · obtain ⟨hanswer, hrun⟩ | ⟨hno, hnothing, -⟩ := handleConfirm_answer m event.2 hopen hescape
    · rw [hrun, runPendingAction]
      cases hargv : s.pendingArgv m with
      | none => simp
      | some argv' => simp [hopen, hanswer]
    · simp [hnothing, hno]

/-- What an event can lead to: how each screen is opened, and where it leads back to. -/
inductive Moved (a : Answers) (s : Ui) (e : Event) : Ui → Prop
  | opened (hscreen : s.screenIndex = .list) (henter : e = .enter) (hne : s.accounts ≠ []) :
    Moved a s e (openDetail a s)
  | wizard (hscreen : s.screenIndex = .list) : Moved a s e (openWizard s)
  | asked (hscreen : s.screenIndex = .detail) (hasked : s.askedAction e ≠ .none) :
    Moved a s e (openConfirm (s.askedAction e) s)
  | config (hscreen : s.screenIndex = .detail) : Moved a s e (openConfig s)
  | signalConfig (hscreen : s.screenIndex = .detail) : Moved a s e (openSignalConfig s)
  | back (s' : Ui) (hscreen : s'.screenIndex = .list ∨
      s'.screenIndex = .detail ∧ s.screenIndex ≠ .list ∧ s.screenIndex ≠ .wizard) : Moved a s e s'
  | same (s' : Ui) (hscreen : s'.screenIndex = s.screenIndex) : Moved a s e s'

theorem moved (m : Setting) (s : Ui) (event : Event × Answers) :
    Moved event.2 s event.1 (s.step m event) := by
  rw [step, handle]
  split
  next hscreen =>
    obtain ⟨hleft, -⟩ | ⟨hsame, -⟩ := handleWizard_move m event.2 s event.1 hscreen
    · exact .back _ (.inl (by rw [hleft]; rfl))
    · exact .same _ (hsame.screenIndex.trans hscreen.symm)
  next hscreen =>
    have hvisit : s.screenIndex ≠ .list ∧ s.screenIndex ≠ .wizard := by simp [hscreen]
    obtain hleft | ⟨-, hdetail | ⟨hconfig, -⟩, -⟩ := handleConfig_cases m event.2 s event.1 hscreen
    · exact .back _ (.inr ⟨by simp [hleft, dismissed], hvisit⟩)
    · exact .back _ (.inr ⟨hdetail, hvisit⟩)
    · exact .same _ (hconfig.trans hscreen.symm)
  next hscreen =>
    have hvisit : s.screenIndex ≠ .list ∧ s.screenIndex ≠ .wizard := by simp [hscreen]
    obtain hleft | ⟨-, hdetail | ⟨hconfig, -⟩, -⟩ :=
      handleSignalConfig_cases m event.2 s event.1 hscreen
    · exact .back _ (.inr ⟨by simp [hleft, dismissed], hvisit⟩)
    · exact .back _ (.inr ⟨hdetail, hvisit⟩)
    · exact .same _ (hconfig.trans hscreen.symm)
  next hscreen =>
    have hvisit : s.screenIndex ≠ .list ∧ s.screenIndex ≠ .wizard := by simp [hscreen]
    obtain ⟨-, hleft⟩ | ⟨-, -, hleft⟩ | ⟨hopen, hescape⟩ := handleConfirm_cases m event.2 s event.1
    · exact .back _ (.inl (by rw [hleft]; rfl))
    · exact .back _ (.inr ⟨by rw [hleft], hvisit⟩)
    · obtain ⟨-, hrun⟩ | ⟨-, -, hstays⟩ := handleConfirm_answer m event.2 hopen hescape
      · rw [hrun, runPendingAction]
        split <;> exact .same _ rfl
      · exact .same _ hstays.screenIndex
  next hscreen =>
    obtain ⟨henter, hne, hopen⟩ | hopen | ⟨hlist, -⟩ := handleList_cases event.2 s event.1 hscreen
    · rw [hopen]
      exact .opened hscreen henter hne
    · rw [hopen]
      exact .wizard hscreen
    · exact .same _ (hlist.trans hscreen.symm)
  next hscreen =>
    obtain ⟨hasked, hopen⟩ | ⟨-, -, hopen | hopen | ⟨-, hlist | hdetail⟩⟩ :=
      handleDetail_cases s event.1 hscreen
    · rw [hopen]
      exact .asked hscreen hasked
    · rw [hopen]
      exact .config hscreen
    · rw [hopen]
      exact .signalConfig hscreen
    · exact .back _ (.inl hlist)
    · exact .same _ (hdetail.trans hscreen.symm)

end Steps

/-! ## What is done outside of the dialogs -/

/-- The effects that an event can have outside of the dialogs. -/
inductive Issued (m : Setting) (s : Ui) : Effect → Prop
  | exit : Issued m s .exitLoop
  | sipSetting (hscreen : s.screenIndex = .config) (edit : String × String)
    (hedit : edit ∈ Signal2sip.saveConfig s.originalValues s.editValues) :
    Issued m s (.gendb (configSetArgs m.configPath s.detailName edit.1 edit.2))
  | signalSetting (hscreen : s.screenIndex = .signalConfig) (edit : String × String)
    (hedit : edit ∈ kSignalConfigFields.flatMap (fieldCommands s.signalOriginalValues s.signalEditValues)) :
    Issued m s (.gendb (configSetArgs m.configPath s.detailName edit.1 edit.2))
  | register (hscreen : s.screenIndex = .wizard) (hstep : s.wizardStep = .registerForm) :
    Issued m s (.gendb (registerArgv m s))
  | captcha (hscreen : s.screenIndex = .wizard) (hstep : s.wizardStep = .captchaForm) :
    Issued m s (.gendb (captchaArgv m s))
  | verify (hscreen : s.screenIndex = .wizard) (hstep : s.wizardStep = .verifyForm) :
    Issued m s (.gendb (verifyArgv m s))
  | link (hscreen : s.screenIndex = .wizard) (hname : s.wizName ≠ "") (hnew : s.wizName ∉ s.accounts) :
    Issued m s (.startLinkThread s.wizName)
  | cancelLink (hstep : s.wizardStep = .linkWaiting) : Issued m s .cancelLinkThread
  | joinLink (hstep : s.wizardStep = .linkWaiting) : Issued m s .joinLinkThread

theorem issued {event : Event × Answers} {effect : Effect} (hconfirm : s.screenIndex ≠ .confirm)
    (h : effect ∈ s.effects m event) : Issued m s effect := by
  cases hscreen : s.screenIndex with
  | confirm => exact absurd hscreen hconfirm
  | list =>
    rw [effects, handle, hscreen] at h
    obtain ⟨-, -, hrun⟩ | hrun | ⟨-, hexit⟩ := handleList_cases event.2 s event.1 hscreen
    · simp [hrun] at h
    · simp [hrun] at h
    · rw [hexit _ h]
      exact .exit
  | detail =>
    rw [effects, handle, hscreen] at h
    obtain ⟨-, hrun⟩ | ⟨-, hrun, -⟩ := handleDetail_cases s event.1 hscreen
    · simp [hrun] at h
    · simp [hrun] at h
  | config =>
    rw [effects, handle, hscreen] at h
    obtain hrun | ⟨-, -, hsets⟩ := handleConfig_cases m event.2 s event.1 hscreen
    · simp [hrun] at h
    · obtain ⟨edit, hedit, rfl⟩ := hsets _ h
      exact .sipSetting hscreen edit hedit
  | signalConfig =>
    rw [effects, handle, hscreen] at h
    obtain hrun | ⟨-, -, hsets⟩ := handleSignalConfig_cases m event.2 s event.1 hscreen
    · simp [hrun] at h
    · obtain ⟨edit, hedit, rfl⟩ := hsets _ h
      exact .signalSetting hscreen edit hedit
  | wizard =>
    rw [effects, handle, hscreen] at h
    obtain ⟨-, hrun | ⟨hstep, hrun⟩⟩ | ⟨-, hturn⟩ := handleWizard_move m event.2 s event.1 hscreen
    · simp [hrun] at h
    · rw [hrun] at h
      cases List.mem_singleton.mp h
      exact .cancelLink hstep
    · generalize (handleWizard m event.2 s event.1).1.wizardStep = next at hturn
      generalize (handleWizard m event.2 s event.1).2 = effects at h hturn
      cases hturn with
      | registered hstep _ => cases List.mem_singleton.mp h; exact .register hscreen hstep
      | captcha hstep => cases List.mem_singleton.mp h; exact .captcha hscreen hstep
      | verified hstep => cases List.mem_singleton.mp h; exact .verify hscreen hstep
      | linked _ hname hnew => cases List.mem_singleton.mp h; exact .link hscreen hname hnew
      | scanned hstep => cases List.mem_singleton.mp h; exact .joinLink hstep
      | stay | named _ _ _ | toCaptcha _ | toVerify _ => cases h

theorem Issued.five_le_length {argv : List String} (h : Issued m s (.gendb argv)) : 5 ≤ argv.length := by
  cases h with
  | sipSetting _ edit _ | signalSetting _ edit _ => simp [configSetArgs]
  | register _ _ => simp [registerArgv]
  | captcha _ _ => simp [captchaArgv]
  | verify _ _ => simp [verifyArgv]

end Ui

end Signal2sip.Tui
