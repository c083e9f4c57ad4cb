import Signal2sip.Tui.Screens

/-!
# Linking in the background

`startLinkThread` and `cancelLinkThread` of `tui/main.cpp`, with the two places of the event handler
that join the thread and the code after the event loop that joins it on the way out. The main thread and
the link thread share five variables and a mutex; the link thread forks `signal2sip-gendb`, collects what
it writes, and wakes the event loop by posting `Event::Custom`.

A move is one step of one party: a key arrives, the main thread goes on, the screen is drawn, the link
thread goes on, or the child writes or ends. A party that waits for the mutex, for the child or for the
other thread stays where it is. A section under a `lock_guard` that does nothing but read and write is one
step; the two that do more, the failure of `pipe` or `fork` and the joining of a finished thread, hold the
mutex over several.

`linkName` is the name that the thread captures. `child`, `interrupted`, `killed` and `shown` are not variables of the program: they are the child and its
pipe, whether a `read` or the `waitpid` failed, the processes that SIGTERM was sent to, and the output
that was drawn last.
-/

namespace Signal2sip.Tui

/-- How a process ends. -/
inductive ChildEnd
  | exited (code : Nat)
  | signaled
deriving DecidableEq, Repr

/-- `WIFEXITED(status) ? WEXITSTATUS(status) : -1`. -/
def ChildEnd.exitCode : ChildEnd → Int
  | .exited code => code
  | .signaled => -1

/-- The process that the link thread forked: what it has written, and what of that is in the pipe. -/
structure Child where
  argv : List String
  pid : Nat
  written : String := ""
  unread : String := ""
  ended : Option ChildEnd := none
deriving DecidableEq, Repr

/-- Where the link thread is: what it does next. -/
inductive LinkStep
  | pipe
  | fork
  | fail (message : String)
  | failPost
  | failUnlock
  | publish
  | read
  | append (chunk : String)
  | post
  | wait
  | store (exitCode : Int)
  | setDone
  | postDone
  | finished
deriving DecidableEq, Repr

/-- What the main thread joins the link thread for. -/
inductive Joining
  | taken (result : GendbResult)
  | cancelled
  | exiting
  | restart (name : String)
deriving DecidableEq, Repr

/-- Where the main thread is. -/
inductive MainStep
  | idle
  | take
  | lockPid (exiting : Bool)
  | kill (pid : Option Nat) (exiting : Bool)
  | join (why : Joining)
  | returned
deriving DecidableEq, Repr

inductive Party
  | main | link
deriving DecidableEq, Repr

/-- What the system answers to the link thread. A `read` returns at least a byte and at most a buffer. -/
structure OsAnswers where
  pipe : Bool := true
  fork : Option Nat := some 1
  read : Option Nat := some 4095
  waitpid : Bool := true

structure LinkSystem where
  ui : Ui
  queue : List Event := []
  main : MainStep := .idle
  linkMutex : Option Party := none
  linkOutput : String := ""
  linkDone : Bool := false
  linkExitCode : Int := -1
  linkPid : Option Nat := none
  linkName : String := ""
  linkThread : Option LinkStep := none
  child : Option Child := none
  interrupted : Bool := false
  killed : List Nat := []
  shown : String := ""

inductive Move
  | key (e : Event)
  | main (a : Answers)
  | draw
  | link (o : OsAnswers)
  | childWrites (text : String)
  | childEnds (how : ChildEnd)
  | leave

/-- The wizard waits for a phone to scan the code. -/
def Ui.waiting (s : Ui) : Bool := s.screenIndex = .wizard && s.wizardStep = .linkWaiting

/-- The text up to a place, and the rest. -/
def splitText (n : Nat) (s : String) : String × String :=
  (String.ofList (s.toList.take n), String.ofList (s.toList.drop n))

namespace LinkSystem

/-! ## The link thread -/

def linkArgv (m : Setting) (name : String) : List String := ["--config", m.configPath, name, "link"]

/-- The next step of the link thread. -/
def linkMove (m : Setting) (o : OsAnswers) (s : LinkSystem) : LinkSystem :=
  match s.linkThread with
  | none | some .finished => s
  | some .pipe =>
    { s with linkThread := some (if o.pipe then .fork else .fail "pipe() failed") }
  | some .fork => match o.fork with
    | none => { s with linkThread := some (.fail "fork() failed") }
    | some pid => { s with child := some { argv := linkArgv m s.linkName, pid }, linkThread := some .publish }
  | some (.fail message) =>
    if s.linkMutex = none then
      { s with
        linkMutex := some .link, linkOutput := message, linkDone := true, linkThread := some .failPost }
    else s
  | some .failPost => { s with queue := s.queue ++ [.custom], linkThread := some .failUnlock }
  | some .failUnlock => { s with linkMutex := none, linkThread := some .finished }
  | some .publish =>
    if s.linkMutex = none then { s with linkPid := s.child.map Child.pid, linkThread := some .read }
    else s
  | some .read => match o.read, s.child with
    | none, _ => { s with interrupted := true, linkThread := some .wait }
    | some n, some c =>
      if c.unread = "" then if c.ended.isSome then { s with linkThread := some .wait } else s
      else
        let (chunk, rest) := splitText (min (n + 1) 4096) c.unread
        { s with child := some { c with unread := rest }, linkThread := some (.append chunk) }
    | some _, none => s
  | some (.append chunk) =>
    if s.linkMutex = none then { s with linkOutput := s.linkOutput ++ chunk, linkThread := some .post }
    else s
  | some .post => { s with queue := s.queue ++ [.custom], linkThread := some .read }
  | some .wait =>
    if o.waitpid then match s.child.bind Child.ended with
      | some how => { s with linkThread := some (.store how.exitCode) }
      | none => s
    else { s with interrupted := true, linkThread := some (.store 0) }
  | some (.store exitCode) =>
    if s.linkMutex = none then { s with linkExitCode := exitCode, linkThread := some .setDone } else s
  | some .setDone => { s with linkDone := true, linkThread := some .postDone }
  | some .postDone => { s with queue := s.queue ++ [.custom], linkThread := some .finished }

/-! ## The main thread -/

/-- The thread starts with no child yet. -/
def launch (name : String) (s : LinkSystem) : LinkSystem :=
  { s with linkName := name, linkThread := some .pipe, child := none, interrupted := false, main := .idle }

def startLinkThread (name : String) (s : LinkSystem) : LinkSystem :=
  let s := { s with linkOutput := "", linkDone := false, linkExitCode := -1, linkPid := none }
  if s.linkThread.isSome then { s with main := .join (.restart name) } else launch name s

/-- An effect of the handler on the link thread. The two that join it are steps of their own. -/
def perform (s : LinkSystem) : Effect → LinkSystem
  | .startLinkThread name => startLinkThread name s
  | .gendb _ | .cancelLinkThread | .joinLinkThread | .exitLoop => s

/-- The handler takes an event. While the wizard waits, the wake-up of a finished thread and Escape go
on in steps of their own, and nothing else has an effect. -/
def takeEvent (m : Setting) (a : Answers) (s : LinkSystem) (e : Event) : LinkSystem :=
  if s.ui.waiting then match e with
    | .custom => if s.linkDone then { s with main := .take } else s
    | .escape => { s with main := .lockPid false }
    | _ => s
  else
    let (ui, effects) := s.ui.handle m a e
    effects.foldl perform { s with ui }

/-- What the main thread does when the link thread has been joined. -/
def joined (m : Setting) (a : Answers) (s : LinkSystem) : Joining → LinkSystem
  | .taken result =>
    { s with
      ui := (s.ui.handle m { a with link := some result } .custom).1
      linkMutex := none, linkThread := none, main := .idle }
  | .cancelled => { s with ui := (s.ui.handle m a .escape).1, linkThread := none, main := .idle }
  | .exiting => { s with linkThread := none, main := .returned }
  | .restart name => launch name { s with linkThread := none }

/-- The next step of the main thread. -/
def mainMove (m : Setting) (a : Answers) (s : LinkSystem) : LinkSystem :=
  match s.main with
  | .idle => match s.queue with
    | [] => s
    | e :: queue => takeEvent m a { s with queue } e
  | .take =>
    if s.linkMutex = none then
      { s with
        linkMutex := some .main, main := .join (.taken { exitCode := s.linkExitCode, output := s.linkOutput }) }
    else s
  | .lockPid exiting => if s.linkMutex = none then { s with main := .kill s.linkPid exiting } else s
  | .kill pid exiting =>
    { s with
      killed := s.killed ++ pid.toList, main := .join (if exiting then .exiting else .cancelled) }
  | .join why =>
    if s.linkThread = none ∨ s.linkThread = some .finished then joined m a s why else s
  | .returned => s

/-- Drawing the wizard copies the output under the mutex. -/
def draw (s : LinkSystem) : LinkSystem :=
  if s.main = .idle ∧ s.ui.waiting ∧ s.linkMutex = none then { s with shown := s.linkOutput } else s

/-- The code after the event loop. -/
def leave (s : LinkSystem) : LinkSystem :=
  if s.main = .idle ∧ s.ui.quit then
    { s with main := if s.linkThread.isSome then .lockPid true else .returned }
  else s

/-! ## The child -/

def childWrites (text : String) (s : LinkSystem) : LinkSystem :=
  match s.child with
  | some c =>
    if c.ended.isSome then s
    else { s with child := some { c with written := c.written ++ text, unread := c.unread ++ text } }
  | none => s

def childEnds (how : ChildEnd) (s : LinkSystem) : LinkSystem :=
  match s.child with
  | some c => if c.ended.isSome then s else { s with child := some { c with ended := some how } }
  | none => s

/-! ## The system -/

def step (m : Setting) (s : LinkSystem) : Move → LinkSystem
  | .key e => { s with queue := s.queue ++ [e] }
  | .main a => mainMove m a s
  | .draw => draw s
  | .link o => linkMove m o s
  | .childWrites text => childWrites text s
  | .childEnds how => childEnds how s
  | .leave => leave s

/-- The state that `main` enters the event loop with. -/
def start (a : Answers) : LinkSystem := { ui := Ui.start a }

end LinkSystem

end Signal2sip.Tui
