import Signal2sip.Tui.RunGendb

/-!
# The screens of the TUI

The event handler of `tui/main.cpp`: the account list, the detail screen, the confirmation dialogs, the
two settings editors and the new-account wizard. An event brings what the database and
`signal2sip-gendb` would answer while it is handled. The handler returns the next state, and what it did
outside of it in order.

A `std::string` is a sequence of bytes, and a character of a text stands for one byte here. A key whose
glyph is not ASCII comes as all the bytes of its encoding, and Backspace takes the last byte away.

Only the names of the listed accounts reach the handler; the other columns are for the rendering.
-/

namespace Signal2sip.Tui

structure GendbResult where
  exitCode : Int := -1
  output : String := ""
deriving DecidableEq, Repr

/-- `ftxui::Event`. Ctrl+O is `Special("\x0f")`; `other` is every event that no branch names. -/
inductive Event
  | character (glyph : String)
  | backspace | enter | escape | arrowUp | arrowDown | tab | tabReverse | ctrlO | custom | other
deriving DecidableEq, Repr

/-- What the world answers while one event is handled. `link` is what stands behind `linkDone`. -/
structure Answers where
  listAllAccounts : Except RuntimeError (List String)
  loadAccount : String → Except RuntimeError AccountRecord
  gendb : List String → GendbResult
  link : Option GendbResult

/-- What the handler does outside of its own state. -/
inductive Effect
  | gendb (argv : List String)
  | startLinkThread (name : String)
  | cancelLinkThread
  | joinLinkThread
  | exitLoop
deriving DecidableEq, Repr

/-- The texts of the catalogue that the state keeps. -/
inductive Key
  | noChanges | errEnterAccountName | errAccountExists | errEnterE164
deriving DecidableEq, Repr

/-- What `main` fixes before the loop starts. -/
structure Setting where
  configPath : String
  tr : Key → String

/-- `screenIndex`, 0 to 5. -/
inductive Screen
  | list | detail | confirm | config | wizard | signalConfig
deriving DecidableEq, Repr

inductive WizardStep
  | chooseType | registerForm | registerResult | captchaForm | captchaResult | verifyForm | verifyResult
  | linkWaiting | linkResult
deriving DecidableEq, Repr

inductive PendingAction
  | none | enable | disable | deactivate | deleteAccount
deriving DecidableEq, Repr

/-- The `gendb` command of an action. -/
def PendingAction.command : PendingAction → Option String
  | .enable => "enable"
  | .disable => "disable"
  | .deactivate => "deactivate"
  | .deleteAccount => "delete-account"
  | .none => Option.none

def kSignalConfigFields : List ConfigFieldDef :=
  [{ key := "server_url", kind := .text },
    { key := "signal_proxy", kind := .text },
    { key := "signal_censorship_circumvention", kind := .bool }]

/-- The variables that the handler captures. -/
structure Ui where
  accounts : List String := []
  loadError : String := ""
  selected : Nat := 0
  quit : Bool := false
  screenIndex : Screen := .list
  detail : AccountRecord := { e164 := "", aci := "", pni := "", password := "" }
  detailName : String := ""
  detailError : String := ""
  editValues : EditValues := fun _ => ""
  originalValues : EditValues := fun _ => ""
  editField : Nat := 0
  configSaveDone : Bool := false
  configSaveOutput : String := ""
  configSaveOk : Bool := true
  signalEditValues : EditValues := fun _ => ""
  signalOriginalValues : EditValues := fun _ => ""
  signalEditField : Nat := 0
  signalSaveDone : Bool := false
  signalSaveOutput : String := ""
  signalSaveOk : Bool := true
  wizardStep : WizardStep := .chooseType
  wizField : Nat := 0
  wizName : String := ""
  wizLink : Bool := false
  wizE164 : String := ""
  wizTransport : String := "sms"
  wizCaptchaToken : String := ""
  wizVerifyCode : String := ""
  wizResult : Option GendbResult := none
  wizError : String := ""
  pending : PendingAction := .none
  typedConfirm : String := ""
  lastResult : Option GendbResult := none

/-- `std::string::pop_back`, guarded by `empty`. -/
def popBack (s : String) : String := String.ofList s.toList.dropLast

def Event.char (c : Char) : Event := .character (String.singleton c)

/-- What an event does to a text that is being typed. -/
def typeInto (s : String) : Event → String
  | .backspace => popBack s
  | .character glyph => s ++ glyph
  | _ => s

namespace Ui

/-! ## Reading the database -/

/-- `reload`. A listing that throws leaves no accounts and its message; no listing clears the message. -/
def reload (a : Answers) (s : Ui) : Ui :=
  let (accounts, loadError) := match a.listAllAccounts with
    | .ok names => (names, s.loadError)
    | .error e => ([], e.what)
  { s with
    accounts := accounts, loadError := loadError
    selected := if accounts.length ≤ s.selected then accounts.length - 1 else s.selected }

/-- Reading the account whose detail is open; a failure keeps the record that was there. -/
def rereadDetail (a : Answers) (s : Ui) : Ui :=
  match a.loadAccount s.detailName with
  | .ok record => { s with detail := record }
  | .error e => { s with detailError := e.what }

def openDetail (a : Answers) (s : Ui) : Ui :=
  if s.accounts.isEmpty then s
  else
    { rereadDetail a { s with detailName := s.accounts.getD s.selected "", detailError := "" } with
      screenIndex := .detail }

/-! ## The two settings editors -/

def openConfig (s : Ui) : Ui :=
  { s with
    editValues := Signal2sip.openConfig s.detail, originalValues := Signal2sip.openConfig s.detail
    editField := 0, configSaveDone := false, configSaveOutput := "", screenIndex := .config }

/-- The values that the other screen opens with. -/
def signalValues (detail : AccountRecord) : EditValues
  | "server_url" => detail.serverUrl
  | "signal_proxy" => detail.signalProxy
  | "signal_censorship_circumvention" => if detail.signalCensorshipCircumvention then "yes" else "no"
  | _ => ""

def openSignalConfig (s : Ui) : Ui :=
  { s with
    signalEditValues := signalValues s.detail, signalOriginalValues := signalValues s.detail
    signalEditField := 0, signalSaveDone := false, signalSaveOutput := "", screenIndex := .signalConfig }

/-- The `config set` runs for a list of edits, and what they printed. -/
def setArgvs (m : Setting) (detailName : String) (edits : List (String × String)) :
    List (List String) :=
  edits.map fun (key, value) => configSetArgs m.configPath detailName key value

/-- What a save shows: the outputs one after the other, or that there was nothing to change. -/
def saveOutput (m : Setting) (results : List GendbResult) : String :=
  let combined := String.join (results.map GendbResult.output)
  if combined = "" then m.tr .noChanges else combined

def saveConfig (m : Setting) (a : Answers) (s : Ui) : Ui × List Effect :=
  if configErrors s.editValues ≠ [] then (s, [])
  else
    let argvs := setArgvs m s.detailName (Signal2sip.saveConfig s.originalValues s.editValues)
    let results := argvs.map a.gendb
    ({ s with
        configSaveOutput := saveOutput m results, configSaveOk := results.all (·.exitCode = 0)
        configSaveDone := true },
      argvs.map .gendb)

def saveSignalConfig (m : Setting) (a : Answers) (s : Ui) : Ui × List Effect :=
  let argvs := setArgvs m s.detailName
    (kSignalConfigFields.flatMap (fieldCommands s.signalOriginalValues s.signalEditValues))
  let results := argvs.map a.gendb
  ({ s with
      signalSaveOutput := saveOutput m results, signalSaveOk := results.all (·.exitCode = 0)
      signalSaveDone := true },
    argvs.map .gendb)

/-- What an event does to the value of the field that is being edited. -/
def editValue (f : ConfigFieldDef) (e : Event) (value : String) : String :=
  match f.kind with
  | .enum => if e = .enter then nextOption f.options value else value
  | .bool => if e = .enter then toggled value else value
  | .text | .masked => typeInto value e

/-- The values after an event on one field. -/
def editAt (f : ConfigFieldDef) (e : Event) (values : EditValues) : EditValues :=
  fun key => if key = f.key then editValue f e (values f.key) else values key

def handleConfig (m : Setting) (a : Answers) (s : Ui) (e : Event) : Ui × List Effect :=
  if s.configSaveDone then
    (reload a (rereadDetail a { s with configSaveDone := false, screenIndex := .detail }), [])
  else match e with
    | .escape => ({ s with screenIndex := .detail }, [])
    | .ctrlO => saveConfig m a s
    | .arrowDown | .tab => ({ s with editField := (s.editField + 1) % kConfigFields.length }, [])
    | .arrowUp | .tabReverse =>
      ({ s with editField := (s.editField + kConfigFields.length - 1) % kConfigFields.length }, [])
    | _ => match kConfigFields[s.editField]? with
      | none => (s, [])
      | some f => ({ s with editValues := editAt f e s.editValues }, [])

def handleSignalConfig (m : Setting) (a : Answers) (s : Ui) (e : Event) : Ui × List Effect :=
  if s.signalSaveDone then
    (reload a (rereadDetail a { s with signalSaveDone := false, screenIndex := .detail }), [])
  else match e with
    | .escape => ({ s with screenIndex := .detail }, [])
    | .ctrlO => saveSignalConfig m a s
    | .arrowDown | .tab =>
      ({ s with signalEditField := (s.signalEditField + 1) % kSignalConfigFields.length }, [])
    | .arrowUp | .tabReverse =>
      ({ s with
          signalEditField :=
            (s.signalEditField + kSignalConfigFields.length - 1) % kSignalConfigFields.length }, [])
    | _ => match kSignalConfigFields[s.signalEditField]? with
      | none => (s, [])
      | some f => ({ s with signalEditValues := editAt f e s.signalEditValues }, [])

/-! ## The dialogs -/

def openConfirm (action : PendingAction) (s : Ui) : Ui :=
  { s with pending := action, typedConfirm := "", lastResult := none, screenIndex := .confirm }

/-- The arguments of the pending action, if there is one. -/
def pendingArgv (m : Setting) (s : Ui) : Option (List String) :=
  s.pending.command.map fun command => ["--config", m.configPath, s.detailName, command]

def runPendingAction (m : Setting) (a : Answers) (s : Ui) : Ui × List Effect :=
  match pendingArgv m s with
  | none => (s, [])
  | some argv => ({ s with lastResult := a.gendb argv }, [.gendb argv])

def handleConfirm (m : Setting) (a : Answers) (s : Ui) (e : Event) : Ui × List Effect :=
  if s.lastResult.isSome then
    (reload a { s with pending := .none, lastResult := none, screenIndex := .list }, [])
  else if e = .escape then ({ s with pending := .none, screenIndex := .detail }, [])
  else if s.pending = .deleteAccount then
    if e = .enter then
      if s.typedConfirm = s.detailName then runPendingAction m a s else (s, [])
    else ({ s with typedConfirm := typeInto s.typedConfirm e }, [])
  else if e = .char 'y' then runPendingAction m a s
  else (s, [])

/-! ## The list and the detail screen -/

def openWizard (s : Ui) : Ui :=
  { s with
    wizardStep := .chooseType, wizField := 0, wizName := "", wizLink := false, wizE164 := ""
    wizTransport := "sms", wizCaptchaToken := "", wizVerifyCode := "", wizResult := none, wizError := ""
    screenIndex := .wizard }

def handleList (a : Answers) (s : Ui) (e : Event) : Ui × List Effect :=
  if e = .arrowDown ∨ e = .char 'j' then
    (if s.accounts.isEmpty then s
      else { s with selected := min (s.selected + 1) (s.accounts.length - 1) }, [])
  else if e = .arrowUp ∨ e = .char 'k' then
    (if s.accounts.isEmpty then s else { s with selected := s.selected - 1 }, [])
  else if e = .enter then (openDetail a s, [])
  else if e = .char 'n' then (openWizard s, [])
  else if e = .char 'r' then (reload a s, [])
  else if e = .char 'q' ∨ e = .escape then ({ s with quit := true }, [.exitLoop])
  else (s, [])

/-- The action that a key of the detail screen asks for. -/
def askedAction (s : Ui) (e : Event) : PendingAction :=
  if e = .char 'd' then if s.detail.enabled then .disable else .enable
  else if e = .char 'u' then .deactivate
  else if e = .char 'x' then .deleteAccount
  else .none

def handleDetail (s : Ui) (e : Event) : Ui × List Effect :=
  if e = .escape then ({ s with screenIndex := .list }, [])
  else if s.askedAction e ≠ .none then (openConfirm (s.askedAction e) s, [])
  else if e = .char 'c' then (openConfig s, [])
  else if e = .char 's' then (openSignalConfig s, [])
  else (s, [])

/-! ## The wizard -/

def registerArgv (m : Setting) (s : Ui) : List String :=
  ["--config", m.configPath, s.wizName, "register", "--e164", s.wizE164, s.wizTransport]

def captchaArgv (m : Setting) (s : Ui) : List String :=
  ["--config", m.configPath, s.wizName, "register-captcha", s.wizCaptchaToken]

def verifyArgv (m : Setting) (s : Ui) : List String :=
  ["--config", m.configPath, s.wizName, "verify", s.wizVerifyCode]

/-- Up, Down, Tab and Shift-Tab: the forms of the wizard have two fields. -/
def isFieldKey (e : Event) : Bool :=
  e = .arrowDown || e = .tab || e = .arrowUp || e = .tabReverse

def handleChooseType (m : Setting) (s : Ui) (e : Event) : Ui × List Effect :=
  if e = .ctrlO then
    if s.wizName = "" then ({ s with wizError := m.tr .errEnterAccountName }, [])
    else if s.wizName ∈ s.accounts then ({ s with wizError := m.tr .errAccountExists }, [])
    else if s.wizLink then
      ({ s with wizError := "", wizardStep := .linkWaiting }, [.startLinkThread s.wizName])
    else ({ s with wizError := "", wizField := 0, wizardStep := .registerForm }, [])
  else if isFieldKey e then ({ s with wizField := 1 - s.wizField }, [])
  else if s.wizField = 1 then (if e = .enter then { s with wizLink := !s.wizLink } else s, [])
  else match e with
    | .backspace | .character _ => ({ s with wizName := typeInto s.wizName e, wizError := "" }, [])
    | _ => (s, [])

def handleRegisterForm (m : Setting) (a : Answers) (s : Ui) (e : Event) : Ui × List Effect :=
  if e = .ctrlO then
    if s.wizE164 = "" then ({ s with wizError := m.tr .errEnterE164 }, [])
    else
      ({ s with
          wizError := "", wizResult := a.gendb (registerArgv m s), wizardStep := .registerResult },
        [.gendb (registerArgv m s)])
  else if isFieldKey e then ({ s with wizField := 1 - s.wizField }, [])
  else if s.wizField = 1 then
    (if e = .enter then { s with wizTransport := if s.wizTransport = "sms" then "voice" else "sms" }
      else s, [])
  else match e with
    | .backspace | .character _ => ({ s with wizE164 := typeInto s.wizE164 e, wizError := "" }, [])
    | _ => (s, [])

def handleCaptchaForm (m : Setting) (a : Answers) (s : Ui) (e : Event) : Ui × List Effect :=
  if e = .ctrlO then
    ({ s with wizResult := a.gendb (captchaArgv m s), wizardStep := .captchaResult },
      [.gendb (captchaArgv m s)])
  else ({ s with wizCaptchaToken := typeInto s.wizCaptchaToken e }, [])

def handleVerifyForm (m : Setting) (a : Answers) (s : Ui) (e : Event) : Ui × List Effect :=
  if e = .ctrlO then
    ({ s with wizResult := a.gendb (verifyArgv m s), wizardStep := .verifyResult },
      [.gendb (verifyArgv m s)])
  else ({ s with wizVerifyCode := typeInto s.wizVerifyCode e }, [])

/-- Waiting for a phone to scan the code. The result is taken over when the thread is done. -/
def handleLinkWaiting (a : Answers) (s : Ui) (e : Event) : Ui × List Effect :=
  match e with
  | .custom => match a.link with
    | some result => ({ s with wizResult := result, wizardStep := .linkResult }, [.joinLinkThread])
    | none => (s, [])
  | .escape => (reload a { s with screenIndex := .list }, [.cancelLinkThread])
  | _ => (s, [])

def handleWizard (m : Setting) (a : Answers) (s : Ui) (e : Event) : Ui × List Effect :=
  if s.wizardStep = .linkWaiting then handleLinkWaiting a s e
  else if s.wizardStep = .verifyResult ∨ s.wizardStep = .linkResult ∨ e = .escape then
    (reload a { s with screenIndex := .list }, [])
  else match s.wizardStep with
    | .chooseType => handleChooseType m s e
    | .registerForm => handleRegisterForm m a s e
    | .registerResult =>
      if e = .char 'g' then ({ s with wizardStep := .captchaForm }, [])
      else if e = .char 'v' then ({ s with wizardStep := .verifyForm }, [])
      else (s, [])
    | .captchaForm => handleCaptchaForm m a s e
    | .captchaResult => if e = .char 'v' then ({ s with wizardStep := .verifyForm }, []) else (s, [])
    | .verifyForm => handleVerifyForm m a s e
    | .verifyResult | .linkWaiting | .linkResult => (s, [])

/-! ## The handler -/

/-- The `CatchEvent` handler: one event on the screen that is shown. -/
def handle (m : Setting) (a : Answers) (s : Ui) (e : Event) : Ui × List Effect :=
  match s.screenIndex with
  | .wizard => handleWizard m a s e
  | .config => handleConfig m a s e
  | .signalConfig => handleSignalConfig m a s e
  | .confirm => handleConfirm m a s e
  | .list => handleList a s e
  | .detail => handleDetail s e

/-- The state that `main` enters the loop with. -/
def start (a : Answers) : Ui := reload a {}

/-- One event of a run, with what the world answered. -/
def step (m : Setting) (s : Ui) (e : Event × Answers) : Ui := (s.handle m e.2 e.1).1

/-- What the handling of an event did outside. -/
def effects (m : Setting) (s : Ui) (e : Event × Answers) : List Effect := (s.handle m e.2 e.1).2

end Ui

end Signal2sip.Tui
