import Signal2sip.Gendb.Commands

/-!
# `register-captcha`

The command that resumes a pending registration with a solved captcha. It reads the pending
registration and writes nothing: not the database, and not the pending registration either, which
`verify` still needs.

A token arrives as a person has copied it. `cleanCaptchaToken` takes off white space, one pair of
quotes, the scheme of the redirect and the slashes at its end.
-/

namespace Signal2sip

/-- The characters of `find_first_not_of(" \\t\\r\\n")`. -/
def isTrimmed (c : Char) : Bool := c = ' ' || c = '\t' || c = '\r' || c = '\n'

def trim (s : List Char) : List Char :=
  ((s.dropWhile isTrimmed).reverse.dropWhile isTrimmed).reverse

/-- The text between two equal quotes. -/
def unquote (s : List Char) : List Char :=
  if 2 ≤ s.length ∧ (s.head? = some '"' ∧ s.getLast? = some '"' ∨
      s.head? = some '\'' ∧ s.getLast? = some '\'') then s.tail.dropLast
  else s

def captchaScheme : List Char := "signalcaptcha://".toList

def cleanCaptchaToken (token : String) : String :=
  let s := trim (unquote (trim token.toList))
  let s := if captchaScheme.isPrefixOf s then s.drop captchaScheme.length else s
  String.ofList (s.reverse.dropWhile (· = '/')).reverse

example : cleanCaptchaToken "\"signalcaptcha://abc/\"\n" = "abc" := by decide

structure CaptchaReplies where
  resumeSession : Option RuntimeError := none
  submitCaptcha : Except RuntimeError RegistrationSession
  requestVerificationCode : Option RuntimeError := none

/-- A captcha that does not suffice is reported, not thrown. -/
def cmdRegisterCaptcha (files : Files) (accountName token : String) (r : CaptchaReplies) :
    Except RuntimeError Unit := do
  ensure (cleanCaptchaToken token ≠ "") ⟨"captcha token is empty after cleanup"⟩
  let _ ← loadPending files accountName
  succeeds r.resumeSession
  let session ← r.submitCaptcha
  if session.allowedToRequestCode then succeeds r.requestVerificationCode else .ok ()

/-- The exception that a run ended with. -/
def thrown {α : Type} : Except RuntimeError α → Option RuntimeError
  | .ok _ => none
  | .error e => some e

/-- A completed run of the program. -/
inductive GendbRun
  | invoke (i : Invocation)
  | registerCaptcha (accountName token : String) (file : Except RuntimeError GlobalConfig)
      (load : LoadFaults) (r : CaptchaReplies)

/-- `main`: the configuration is loaded first, whatever the command. -/
def GendbRun.run (files : Files) : GendbRun → Ended
  | .invoke i => i.run files
  | .registerCaptcha accountName token file load r =>
    (files, thrown do
      let _ ← DaemonConfig.load file files.db load
      cmdRegisterCaptcha files accountName token r)

/-- The files after a run. -/
def GendbRun.step (files : Files) (r : GendbRun) : Files := (r.run files).1

end Signal2sip
