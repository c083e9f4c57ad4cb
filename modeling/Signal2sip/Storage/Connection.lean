import Signal2sip.Lib.Transaction
import Signal2sip.Storage.Calls

/-!
# The connection of a `Storage` object

A `Storage` object has one connection for its whole life. Every operation is a statement that commits
by itself, but for `deleteAccount`, whose ten statements share a transaction: a failed delete rolls it
back, a failed `BEGIN` or `COMMIT` is only reported. The constructor sets WAL mode, in which a `COMMIT`
that fails has ended its transaction (`RemovalFaults.InWal`).
-/

namespace Signal2sip

open Sqlite (CommitFault Connection Faults execute)

namespace Storage

/-- The failures injected into the ten statements of `deleteAccount`. -/
structure RemovalFaults where
  begin : Option Sqlite.Error := none
  delete : TableName → Faults := fun _ => .quiet
  commit : Option CommitFault := none

/-- The engine's `COMMIT` in WAL mode: nothing that reads makes a writer's `COMMIT` busy, and after any
other error the engine has rolled back. -/
structure RemovalFaults.InWal (faults : RemovalFaults) : Prop where
  notBusy : ∀ fault, faults.commit = some fault → fault.error.code ≠ .busy
  ends : ∀ fault, faults.commit = some fault → fault.error.code ≠ .busy → fault.staysOpen = false

/-- The loop over `kTables`, up to the first delete that throws. -/
def deleteTablesOn (accountName_ : String) (f : TableName → Faults) :
    Connection Db → List TableName → Connection Db × Except RuntimeError Unit
  | conn, [] => (conn, .ok ())
  | conn, t :: ts =>
    match (execute prepareFailed (stepFailed ("DELETE FROM " ++ t.sqlName)) (f t)
      (.ok (deleteFrom conn.view accountName_ t))).value with
    | .error x => (conn, .error x)
    | .ok db => deleteTablesOn accountName_ f (conn.written db) ts

/-- The connection that `deleteAccount` leaves, and whether it returned or threw. -/
def deleteAccountOn (conn : Connection Db) (accountName_ : String) (faults : RemovalFaults) :
    Connection Db × Except RuntimeError Unit :=
  match conn.begin faults.begin with
  | .error e => (conn, .error ⟨"deleteAccount: BEGIN failed: " ++ e.message⟩)
  | .ok conn =>
    match deleteTablesOn accountName_ faults.delete conn kTables with
    | (conn, .error x) => (conn.rollback, .error x)
    | (conn, .ok ()) =>
      match conn.commit faults.commit with
      | (conn, some e) => (conn, .error ⟨"deleteAccount: COMMIT failed: " ++ e.message⟩)
      | (conn, none) => (conn, .ok ())

end Storage

/-- A call of a `Storage` object on its connection. The flag says what a failing `COMMIT` does to the
transaction. -/
def StorageCall.runOn (conn : Connection Db) (accountName_ : String) (staysOpen : Bool) :
    StorageCall → Connection Db × Except RuntimeError StorageAnswer
  | .deleteAccount beginFault f commitFault =>
    (Storage.deleteAccountOn conn accountName_
      ⟨beginFault, f, commitFault.map fun e => ⟨e, staysOpen⟩⟩).map id (·.map fun _ => .done)
  | c =>
    match (c.run conn.view accountName_).value with
    | .error x => (conn, .error x)
    | .ok (db, answer) => (conn.written db, .ok answer)

end Signal2sip
