import Signal2sip.Gendb.ConcurrentWrites
import Signal2sip.Storage.AccountColumns

/-!
# The configuration commands on the columns

`config get`, `config set`, `enable` and `disable` once more, on the rows of `account` as the engine
keeps them: what a command loads it reads by position, and what it saves it binds by position. A run is
a process of its own, so the rows are all that one leaves to the next. The other tables are in no
statement of the four commands.
-/

namespace Signal2sip

open Sqlite (Casts Faults Value firstRow)

namespace AccountRows

variable (t : AccountRows) (accountName : String)

def hasAccount (f : Faults) : Result Bool :=
  let count : Nat := if Value.text accountName ∈ t then 1 else 0
  (firstRow prepareFailed f [count]).map fun column => decide (column.getD 0 > 0)

/-- The checks of the commands for an account that exists, and its row. -/
def loadSavedAccount (cast : Casts) (f : CommandFaults) : Except RuntimeError AccountRecord := do
  succeeds f.openStorage
  let existing ← (t.hasAccount accountName f.hasAccount).value
  ensure existing ⟨"account '" ++ accountName ++ "' has no saved account in the database"⟩
  (t.loadAccount accountName cast f.loadAccount).value

/-- What `config get` prints; without a field that is every setting and the two columns that go with
them. -/
def cmdConfigGet (cast : Casts) (field : String) (f : CommandFaults) : Except RuntimeError String := do
  let account ← t.loadSavedAccount accountName cast f
  if field ≠ "" then
    let configField ← findConfigField field
    return field ++ "=" ++ configField.get account ++ "\n"
  else
    return String.join (configFields.map fun f => f.name ++ "=" ++ f.get account ++ "\n") ++
      "enabled=" ++ (if account.enabled then "yes" else "no") ++ "\n" ++
      "config_version=" ++ toString account.configVersion ++ "\n"

/-- A command that writes all or nothing. -/
def attempt (result : Except RuntimeError AccountRows) : AccountRows × Option RuntimeError :=
  match result with
  | .ok t' => (t', none)
  | .error e => (t, some e)

def cmdConfigSet (cast : Casts) (field value : String) (f : CommandFaults) :
    AccountRows × Option RuntimeError :=
  t.attempt do
    let account ← t.loadSavedAccount accountName cast f
    let configField ← findConfigField field
    let account ← configField.set account value
    (t.saveAccountConfig accountName cast account f.saveAccountConfig).value

def cmdSetEnabled (cast : Casts) (enabled : Bool) (f : CommandFaults) :
    AccountRows × Option RuntimeError :=
  t.attempt do
    let account ← t.loadSavedAccount accountName cast f
    (t.saveAccountConfig accountName cast { account with enabled := enabled } f.saveAccountConfig).value

end AccountRows

/-- One run of a command that changes a setting: whose account, which change, and what fails. -/
structure ConfigCommand where
  accountName : String
  write : ConfigWrite
  faults : CommandFaults := {}

/-- The rows of `account` by their columns, and all tables as records. -/
structure Stored where
  rows : AccountRows
  files : Files

namespace ConfigCommand

variable (c : ConfigCommand)

def runRows (cast : Casts) (t : AccountRows) : AccountRows × Option RuntimeError :=
  match c.write with
  | .set field value => t.cmdConfigSet c.accountName cast field value c.faults
  | .setEnabled enabled => t.cmdSetEnabled c.accountName cast enabled c.faults

/-- The command on both; whether it throws is what the columns say. -/
def step (cast : Casts) (s : Stored) (c : ConfigCommand) : Stored × Option RuntimeError :=
  (⟨(c.runRows cast s.rows).1, (c.write.run s.files c.accountName c.faults).1⟩,
    (c.runRows cast s.rows).2)

end ConfigCommand

end Signal2sip
