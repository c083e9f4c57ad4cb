import Signal2sip.Gendb.Commands
import Mathlib.Logic.Function.Basic

/-!
# `config set`, `enable` and `disable` run together

The three commands have one shape: load the account's row, change one setting of the record in
memory, and write all of the configuration columns back. The load and the write are statements of
their own, with no transaction around the two, so the commands of several processes interleave
between them. A process takes its turns one at a time and in any order.
-/

namespace Signal2sip

/-- What one of the commands changes. -/
inductive ConfigWrite
  | set (field value : String)
  | setEnabled (enabled : Bool)
deriving DecidableEq, Repr

/-- The setting that a command touches. -/
def ConfigWrite.field : ConfigWrite → String
  | .set field _ => field
  | .setEnabled _ => "enabled"

/-- The change to the record in memory. -/
def ConfigWrite.edit : ConfigWrite → AccountRecord → Except RuntimeError AccountRecord
  | .set field value, account => do
    let field ← findConfigField field
    field.set account value
  | .setEnabled enabled, account => .ok { account with enabled := enabled }

/-- The command as one uninterrupted run. -/
def ConfigWrite.run (write : ConfigWrite) (files : Files) (accountName : String)
    (f : CommandFaults) : Ended :=
  match write with
  | .set field value => cmdConfigSet files accountName field value f
  | .setEnabled enabled => cmdSetEnabled files accountName enabled f

/-- All of them load, change and write back. -/
theorem ConfigWrite.run_eq (write : ConfigWrite) (files : Files) (accountName : String)
    (f : CommandFaults) :
    write.run files accountName f = files.attempt (do
      let account ← loadSavedAccount files.db accountName "" f
      let account ← write.edit account
      saveChangedConfig files accountName account f) := by
  cases write with
  | set field value => simp only [ConfigWrite.run, ConfigWrite.edit, cmdConfigSet, bind_assoc]
  | setEnabled enabled => rfl

/-- One process: its command, and the failures of its statements. -/
structure Client where
  write : ConfigWrite
  faults : CommandFaults := {}

inductive Phase
  | ready
  | loaded (account : AccountRecord)
  | exited (thrown : Option RuntimeError)
deriving DecidableEq, Repr

/-- The files, and how far each process is. -/
structure Together (ι : Type) where
  files : Files
  phase : ι → Phase

/-- Nobody has started. -/
def Together.start {ι : Type} (files : Files) : Together ι := ⟨files, fun _ => .ready⟩

section Turns

variable {ι : Type} [DecidableEq ι] (accountName : String) (client : ι → Client)

/-- The next turn of one process: the load of `ConfigWrite.run_eq`, or its change and write. -/
def Together.turn (s : Together ι) (i : ι) : Together ι :=
  match s.phase i with
  | .ready =>
    match loadSavedAccount s.files.db accountName "" (client i).faults with
    | .error e => { s with phase := Function.update s.phase i (.exited (some e)) }
    | .ok account => { s with phase := Function.update s.phase i (.loaded account) }
  | .loaded account =>
    match (client i).write.edit account >>= fun account =>
        saveChangedConfig s.files accountName account (client i).faults with
    | .error e => { s with phase := Function.update s.phase i (.exited (some e)) }
    | .ok files => ⟨files, Function.update s.phase i (.exited none)⟩
  | .exited _ => s

end Turns

end Signal2sip
