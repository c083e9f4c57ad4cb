import Signal2sip.Gendb.Main
import Signal2sip.Tui.ConfigEditor

/-!
# Running `signal2sip-gendb` from the TUI

`runGendb` of `tui/main.cpp`, and the arguments that `saveConfig` gives it. The arguments reach the
other program through an `argv`, so no shell reads them, and each ends before its first NUL. The exit
code is all that says how it went; the output is left out.
-/

namespace Signal2sip.Tui

open Gendb (Disk Surroundings)

/-- How far `runGendb` comes: no pipe or no child, a child that executes nothing, a child that exits, and
one that a signal ends, with what it has left by then. -/
inductive Launch
  | notStarted
  | notExecuted
  | exits
  | signaled (left : Disk)

/-- What a call leaves, and its `exitCode`. -/
def runGendb (args : List String) (launch : Launch) (r : Surroundings) (disk : Disk) : Disk × Int :=
  match launch with
  | .notStarted => (disk, -1)
  | .notExecuted => (disk, 127)
  | .exits => Gendb.main (args.map CxxString.cStr) disk r
  | .signaled left => (left, -1)

def configSetArgs (configPath detailName key value : String) : List String :=
  ["--config", configPath, detailName, "config", "set", key, value]

/-- One command of `saveConfig`, when the run for each setting goes as `runs` says. A run that fails is
followed by the next command all the same. -/
def saveStep (configPath detailName : String) (runs : String → Launch × Surroundings) (disk : Disk)
    (command : String × String) : Disk :=
  let (launch, r) := runs command.1
  (runGendb (configSetArgs configPath detailName command.1 command.2) launch r disk).1

end Signal2sip.Tui
