import Signal2sip.Lib.Phases
import Signal2sip.Laws.TuiScreens

/-!
# What the new-account wizard runs

The wizard registers or links an account that does not exist yet. The name is checked against the list
once, when it is entered; the list stays as it is until the wizard is left, and so does the name, so the
check holds of everything that the wizard runs later (`newName_run`).

A captcha token and a verification code are sent for an account that this visit of the wizard has asked
to register: `Registering` is the part of the wizard that only the registration leads to
(`registering_entry`).
-/

namespace Signal2sip.Tui

open Runs (final Always)
open Ui (Turn SameWizard registerArgv)

variable {m : Setting} {s : Ui} {e : Event × Answers} {name : String}

theorem step_wizard (h : s.screenIndex = .wizard) : s.step m e = (s.handleWizard m e.2 e.1).1 := by
  rw [Ui.step, Ui.handle, h]

theorem effects_wizard (h : s.screenIndex = .wizard) :
    s.effects m e = (s.handleWizard m e.2 e.1).2 := by
  rw [Ui.effects, Ui.handle, h]

/-- An event that opens the wizard starts it from the beginning. -/
theorem wizard_entry (hbefore : s.screenIndex ≠ .wizard)
    (hafter : (s.step m e).screenIndex = .wizard) : s.step m e = s.openWizard := by
  have hmoved := Ui.moved m s e
  generalize s.step m e = s' at hafter hmoved
  cases hmoved with
  | wizard _ => rfl
  | opened _ _ hne => simp [Ui.openDetail, hne] at hafter
  | asked _ _ | config _ | signalConfig _ => cases hafter
  | back _ hscreen => simp [hafter] at hscreen
  | same _ hscreen => exact absurd (hscreen.symm.trans hafter) hbefore

/-! ## The name -/

/-- A name that is none of the listed accounts. -/
def NewName (s : Ui) : Prop := s.wizName ≠ "" ∧ s.wizName ∉ s.accounts

/-- Past its first form, the wizard has a new name. -/
def Named (s : Ui) : Prop := s.screenIndex = .wizard → s.wizardStep ≠ .chooseType → NewName s

theorem SameWizard.newName {s' : Ui} (h : SameWizard s s')
    (hstep : s.wizardStep ≠ .chooseType ∨ s'.wizardStep ≠ .chooseType) (hs : NewName s) : NewName s' := by
  rw [NewName, h.wizName hstep, h.accounts]
  exact hs

/-- A turn of the wizard that leads past the first form starts from a new name. -/
theorem Turn.newName {next : WizardStep} {effects : List Effect} (h : Turn m s next effects)
    (hnext : next ≠ .chooseType) (hs : s.wizardStep ≠ .chooseType → NewName s) : NewName s := by
  cases h with
  | stay => exact hs hnext
  | named _ hname hnew | linked _ hname hnew => exact ⟨hname, hnew⟩
  | registered h _ | toCaptcha h | captcha h | verified h | scanned h => exact hs (by simp [h])
  | toVerify h => exact hs (by obtain h | h := h <;> simp [h])

theorem named_step (s : Ui) (e : Event × Answers) (hs : Named s) : Named (s.step m e) := by
  intro hafter hnext
  by_cases hscreen : s.screenIndex = .wizard
  · rw [step_wizard hscreen] at hafter hnext ⊢
    obtain ⟨hleft, -⟩ | ⟨hsame, hturn⟩ := Ui.handleWizard_move m e.2 s e.1 hscreen
    · simp [hleft] at hafter
    · exact SameWizard.newName hsame (.inr hnext) (Turn.newName hturn hnext (hs hscreen))
  · rw [wizard_entry hscreen hafter] at hnext
    exact absurd rfl hnext

theorem named_run (m : Setting) (a : Answers) (es : List (Event × Answers)) :
    Named (final (Ui.step m) (Ui.start a) es) :=
  (Always.of_keep named_step fun h => by cases h).last

/-! ## The registration -/

/-- The steps that only a registration leads to. -/
def WizardStep.afterRegister : WizardStep → Bool
  | .registerResult | .captchaForm | .captchaResult | .verifyForm | .verifyResult => true
  | .chooseType | .registerForm | .linkWaiting | .linkResult => false

/-- The wizard has asked to register the account of this name. -/
structure Registering (name : String) (s : Ui) : Prop where
  screenIndex : s.screenIndex = .wizard
  wizardStep : s.wizardStep.afterRegister
  wizName : s.wizName = name

/-- Registering is entered by running `register`. -/
theorem registering_entry (hbefore : ¬ Registering name s) (hafter : Registering name (s.step m e)) :
    s.effects m e = [.gendb (registerArgv m s)] ∧ s.wizName = name ∧ s.wizE164 ≠ "" := by
  by_cases hscreen : s.screenIndex = .wizard
  · rw [step_wizard hscreen] at hafter
    rw [effects_wizard hscreen]
    obtain ⟨hleft, -⟩ | ⟨hsame, hturn⟩ := Ui.handleWizard_move m e.2 s e.1 hscreen
    · exact absurd hafter.screenIndex (by simp [hleft])
    · have hnext : (s.handleWizard m e.2 e.1).1.wizardStep ≠ .chooseType := by
        intro h
        have hstep := hafter.wizardStep
        rw [h] at hstep
        cases hstep
      have hname : s.wizName = name := (hsame.wizName (.inr hnext)).symm.trans hafter.wizName
      have hnot : ¬ s.wizardStep.afterRegister = true := fun h => hbefore ⟨hscreen, h, hname⟩
      have hstep := hafter.wizardStep
      revert hturn hstep
      generalize (s.handleWizard m e.2 e.1).1.wizardStep = next
      generalize (s.handleWizard m e.2 e.1).2 = effects
      intro hturn hstep
      cases hturn with
      | stay => exact absurd hstep hnot
      | registered h he164 => exact ⟨rfl, hname, he164⟩
      | named _ _ _ | linked _ _ _ | scanned _ => cases hstep
      | toCaptcha h | captcha h | verified h => exact absurd (by rw [h]; rfl) hnot
      | toVerify h => exact absurd (by obtain h | h := h <;> rw [h] <;> rfl) hnot
  · have hstep := hafter.wizardStep
    rw [wizard_entry hscreen hafter.screenIndex] at hstep
    cases hstep

/-! ## What is run -/

/-- An earlier event of the run registered the account, and the wizard has stayed with it since. -/
def Registered (m : Setting) (a : Answers) (es : List (Event × Answers)) (name : String) : Prop :=
  ∃ pre k post, es = pre ++ k :: post ∧
    (∃ e164 transport, e164 ≠ "" ∧ (final (Ui.step m) (Ui.start a) pre).effects m k =
      [.gendb ["--config", m.configPath, name, "register", "--e164", e164, transport]]) ∧
    Always (Ui.step m) (Registering name) (final (Ui.step m) (Ui.start a) (pre ++ [k])) post

theorem registered_of_registering {a : Answers} {es : List (Event × Answers)}
    (h : Registering name (final (Ui.step m) (Ui.start a) es)) : Registered m a es name := by
  have hstart : ¬ Registering name (Ui.start a) := fun h => by cases h.screenIndex
  obtain ⟨pre, k, post, rfl, hbefore, hpost⟩ := Runs.exists_entry hstart h
  obtain ⟨hrun, hname, he164⟩ := registering_entry hbefore hpost.head
  rw [registerArgv, hname] at hrun
  refine ⟨pre, k, post, rfl, ⟨_, _, he164, hrun⟩, ?_⟩
  rwa [Runs.final_concat]

/-- **What the wizard runs.** In every run of the TUI, everything that the wizard runs or links is for a
name that is not empty and not on the list. It runs `register`, or a `register-captcha` or a `verify`
for a name that it has registered before without being left since. -/
theorem wizard_runs (m : Setting) (a : Answers) (es : List (Event × Answers)) (e : Event × Answers)
    (hwizard : (final (Ui.step m) (Ui.start a) es).screenIndex = .wizard) :
    (∀ name, .startLinkThread name ∈ (final (Ui.step m) (Ui.start a) es).effects m e →
      name ≠ "" ∧ name ∉ (final (Ui.step m) (Ui.start a) es).accounts) ∧
    ∀ argv, .gendb argv ∈ (final (Ui.step m) (Ui.start a) es).effects m e →
      ∃ name command rest, argv = "--config" :: m.configPath :: name :: command :: rest ∧
        name ≠ "" ∧ name ∉ (final (Ui.step m) (Ui.start a) es).accounts ∧
        (command = "register" ∨
          (command = "register-captcha" ∨ command = "verify") ∧ Registered m a es name) := by
  have hnamed := named_run m a es hwizard
  constructor
  · intro name hlink
    cases Ui.issued (by simp [hwizard]) hlink with
    | link _ hname hnew => exact ⟨hname, hnew⟩
  · intro argv hrun
    cases Ui.issued (by simp [hwizard]) hrun with
    | sipSetting h _ _ | signalSetting h _ _ => simp [hwizard] at h
    | register _ hstep =>
      have hnew := hnamed (by simp [hstep])
      exact ⟨_, _, _, rfl, hnew.1, hnew.2, .inl rfl⟩
    | captcha _ hstep =>
      have hnew := hnamed (by simp [hstep])
      exact ⟨_, _, _, rfl, hnew.1, hnew.2, .inr ⟨.inl rfl,
        registered_of_registering ⟨hwizard, by rw [hstep]; rfl, rfl⟩⟩⟩
    | verify _ hstep =>
      have hnew := hnamed (by simp [hstep])
      exact ⟨_, _, _, rfl, hnew.1, hnew.2, .inr ⟨.inr rfl,
        registered_of_registering ⟨hwizard, by rw [hstep]; rfl, rfl⟩⟩⟩

/-- A database without accounts. -/
def noAccount : Answers where
  listAllAccounts := .ok []
  loadAccount _ := .error ⟨"no row"⟩
  gendb _ := { exitCode := 0 }
  link := none

/-- Registering an account, and typing its code. -/
def typedCode : List (Event × Answers) :=
  [(.char 'n', noAccount), (.char 'b', noAccount), (.ctrlO, noAccount), (.character "+1", noAccount),
    (.ctrlO, noAccount), (.char 'v', noAccount), (.char '7', noAccount)]

theorem wizard_runs_code :
    ∃ name command rest, ["--config", "signal2sip.conf", "b", "verify", "7"] =
      "--config" :: "signal2sip.conf" :: name :: command :: rest ∧ name ≠ "" := by
  obtain ⟨-, hruns⟩ :=
    wizard_runs ⟨"signal2sip.conf", fun _ => ""⟩ noAccount typedCode (.ctrlO, noAccount) (by decide)
  obtain ⟨name, command, rest, hargv, hname, -⟩ :=
    hruns ["--config", "signal2sip.conf", "b", "verify", "7"] (by decide)
  exact ⟨name, command, rest, hargv, hname⟩

end Signal2sip.Tui
