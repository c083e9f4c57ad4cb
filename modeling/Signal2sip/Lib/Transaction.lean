import Signal2sip.Lib.Sqlite

/-!
# The transaction of a connection

A connection sees the committed contents of a file, or those of the transaction it has open. A write
outside a transaction is committed at once. One inside it is seen by this connection alone until a
`COMMIT` succeeds, and is lost when the transaction is rolled back or the connection closed.

`BEGIN` is refused inside a transaction and `COMMIT` outside one. A `COMMIT` that fails either leaves
the transaction as it was, to be committed again or rolled back (`SQLITE_BUSY` does, when readers of a
rollback journal are waited for), or has ended it (the engine rolls back by itself after a full disk
or a failed write).
-/

namespace Sqlite

/-- One connection to a file: the committed contents, and those of the open transaction. -/
@[ext] structure Connection (σ : Type*) where
  file : σ
  transaction : Option σ := none

/-- How a `COMMIT` fails. -/
structure CommitFault where
  error : Error
  staysOpen : Bool
deriving DecidableEq, Repr

def nestedBegin : Error := ⟨.error, "cannot start a transaction within a transaction"⟩

def noTransaction : Error := ⟨.error, "cannot commit - no transaction is active"⟩

namespace Connection

variable {σ : Type*} (conn : Connection σ)

/-- What a statement of the connection works on. -/
def view : σ := conn.transaction.getD conn.file

/-- The connection after a statement has left `s`. -/
def written (s : σ) : Connection σ :=
  match conn.transaction with
  | none => { conn with file := s }
  | some _ => { conn with transaction := some s }

def begin (fault : Option Error) : Except Error (Connection σ) :=
  match conn.transaction, fault with
  | some _, _ => .error nestedBegin
  | none, some e => .error e
  | none, none => .ok { conn with transaction := some conn.file }

/-- The connection after `COMMIT`, and the error if it failed. -/
def commit (fault : Option CommitFault) : Connection σ × Option Error :=
  match conn.transaction, fault with
  | none, _ => (conn, some noTransaction)
  | some s, none => ({ file := s }, none)
  | some _, some fault =>
    (if fault.staysOpen then conn else { conn with transaction := none }, some fault.error)

/-- Outside a transaction there is nothing to undo. -/
def rollback : Connection σ := { conn with transaction := none }

variable {conn} {file s : σ}

@[simp] theorem view_closed : (⟨file, none⟩ : Connection σ).view = file := rfl

@[simp] theorem view_open : (⟨file, some s⟩ : Connection σ).view = s := rfl

@[simp] theorem written_closed (t : σ) : (⟨file, none⟩ : Connection σ).written t = ⟨t, none⟩ := rfl

@[simp] theorem written_open (t : σ) : (⟨file, some s⟩ : Connection σ).written t = ⟨file, some t⟩ := rfl

@[simp] theorem rollback_eq (t : Option σ) : (⟨file, t⟩ : Connection σ).rollback = ⟨file, none⟩ := rfl

@[simp] theorem begin_open (fault : Option Error) :
    (⟨file, some s⟩ : Connection σ).begin fault = .error nestedBegin := rfl

/-- A connection outside a transaction is back where it was, unless its `COMMIT` left one open. -/
theorem commit_failed (fault : CommitFault) :
    (⟨file, some s⟩ : Connection σ).commit (some fault) =
      (⟨file, if fault.staysOpen then some s else none⟩, some fault.error) := by
  cases hopen : fault.staysOpen <;> simp [commit, hopen]

end Connection

end Sqlite
