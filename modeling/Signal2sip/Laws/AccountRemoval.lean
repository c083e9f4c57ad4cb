import Signal2sip.Laws.AccountIsolation
import Signal2sip.Storage.Connection

/-!
# Removing an account is atomic

`deleteAccount` throws when one of its ten statements fails, and no row is gone then. What it owes
besides is a connection that works on. A delete that fails is followed by `ROLLBACK`. A `COMMIT` that
fails is not, so the removal relies on the engine there: in WAL mode a failed `COMMIT` has ended its
transaction.

- `removal_atomic`: the removal is atomic, wherever it fails;
- `removal_atomic_iff`: what it needs of the engine for that, exactly: no `COMMIT` fails and leaves
  its transaction open;
- `run_refines`: so a connection does to the file what the calls do (`StorageCall.step`), over whole
  runs;
- `run_open`: nothing that is done on a connection inside a transaction that a removal has left reaches
  the file, since no call ends it.
-/

namespace Signal2sip

open Parties (stateAfter)
open Sqlite (CommitFault Connection Faults Outcome execute)
open Storage (RemovalFaults TableName deleteAccountOn deleteTablesOn kTables)

variable {db : Db} {accountName : String}

/-! ## The loop over the tables -/

/-- The file without the rows of an account. -/
def withoutAccount (db : Db) (accountName : String) : Db :=
  { db with
    account := db.account.erase accountName
    identityKeypair := db.identityKeypair.filterKeys (·.1 ≠ accountName)
    signedPrekey := db.signedPrekey.filterKeys (·.1 ≠ accountName)
    kyberPrekey := db.kyberPrekey.filterKeys (·.1 ≠ accountName)
    session := db.session.filterKeys (·.1 ≠ accountName)
    remoteIdentity := db.remoteIdentity.filterKeys (·.1 ≠ accountName)
    resolvedContact := db.resolvedContact.filterKeys (·.1 ≠ accountName)
    syncedContact := db.syncedContact.filter (·.accountName ≠ accountName) }

/-- The rows of the account are gone from the eight tables, and the other rows are there. -/
structure Removed (accountName : String) (db db' : Db) : Prop where
  contents : db' = withoutAccount db accountName
  gone : SameRows accountName db' {}
  others : ∀ other, other ≠ accountName → SameRows other db' db

/-- The deletes, one after the other, leave the file without the account. -/
theorem foldl_deleteFrom (db : Db) (accountName : String) :
    kTables.foldl (fun d t => Storage.deleteFrom d accountName t) db = withoutAccount db accountName :=
  rfl

/-- A removal that returns has emptied the eight tables of the account. -/
theorem deleteAccount_removes {db' : Db} {beginFault commitFault : Option Sqlite.Error}
    {f : TableName → Faults}
    (h : (Storage.deleteAccount db accountName beginFault f commitFault).value = .ok db') :
    db' = withoutAccount db accountName := by
  unfold Storage.deleteAccount at h
  split at h
  · cases h
  · obtain ⟨db₁, hdelete, hcommit⟩ := Outcome.bind_ok_iff.mp h
    split at hcommit
    · cases hcommit
    · cases hcommit
      obtain ⟨-, rfl⟩ := Storage.deleteTables_ok_iff.mp hdelete
      exact foldl_deleteFrom db accountName

theorem removed_withoutAccount (db : Db) (accountName : String) :
    Removed accountName db (withoutAccount db accountName) where
  contents := rfl
  gone := by
    have hnone {α : Type} (t : Table (String × String) α) :
        rowsOf accountName (t.filterKeys (·.1 ≠ accountName)) = [] := rowsOf_filterKeys_self t
    exact {
      account := AList.lookup_erase accountName db.account
      identityKeypair := hnone _
      signedPrekey := hnone _
      kyberPrekey := hnone _
      session := hnone _
      remoteIdentity := hnone _
      resolvedContact := hnone _
      syncedContact := by
        simp [contactsOf, ownContactRows, withoutAccount, List.filter_filter] }
  others := by
    intro other hne
    rw [← foldl_deleteFrom]
    suffices ∀ (ts : List TableName) (d : Db),
        SameRows other (ts.foldl (fun d t => Storage.deleteFrom d accountName t) d) d from this _ db
    intro ts
    induction ts with
    | nil => exact SameRows.refl other
    | cons t ts ih => exact fun d => (ih _).trans (deleteFrom_frame hne.symm d t)

/-- None of the deletes fails. -/
def Storage.RemovalFaults.DeletesPass (faults : RemovalFaults) : Prop :=
  ∀ t, (faults.delete t).prepare = none ∧ (faults.delete t).step 0 = none

/-- The loop over an open transaction does what its model without a connection says, and throws when
that does. -/
theorem deleteTablesOn_open (accountName : String) (f : TableName → Faults) (ts : List TableName)
    (file s : Db) :
    (∀ s', (Storage.deleteTables accountName f s ts).value = .ok s' →
      deleteTablesOn accountName f ⟨file, some s⟩ ts = (⟨file, some s'⟩, .ok ())) ∧
    ∀ x, (Storage.deleteTables accountName f s ts).value = .error x →
      ∃ s', deleteTablesOn accountName f ⟨file, some s⟩ ts = (⟨file, some s'⟩, .error x) := by
  induction ts generalizing s with
  | nil =>
    refine ⟨fun s' h => ?_, fun x h => ?_⟩
    · cases h
      rfl
    · cases h
  | cons t ts ih =>
    rw [Storage.deleteTables, deleteTablesOn, Connection.view_open]
    cases hvalue : (execute prepareFailed (stepFailed ("DELETE FROM " ++ t.sqlName)) (f t)
        (.ok (Storage.deleteFrom s accountName t))).value with
    | error x =>
      rw [Outcome.bind, hvalue]
      refine ⟨fun s' h => ?_, fun x' h => ?_⟩
      · cases h
      · cases h
        exact ⟨s, rfl⟩
    | ok d =>
      rw [Outcome.bind_value_of_ok hvalue]
      exact ih d

/-- Either all the deletes pass, or the first that does not throws and the file is as it was. -/
theorem deleteTablesOn_cases (accountName : String) (f : TableName → Faults) (ts : List TableName)
    (file s : Db) :
    ((∀ t ∈ ts, (f t).prepare = none ∧ (f t).step 0 = none) ∧
      (Storage.deleteTables accountName f s ts).value =
        .ok (ts.foldl (fun d t => Storage.deleteFrom d accountName t) s) ∧
      deleteTablesOn accountName f ⟨file, some s⟩ ts =
        (⟨file, some (ts.foldl (fun d t => Storage.deleteFrom d accountName t) s)⟩, .ok ())) ∨
    ((¬ ∀ t ∈ ts, (f t).prepare = none ∧ (f t).step 0 = none) ∧
      ∃ x s', (Storage.deleteTables accountName f s ts).value = .error x ∧
        deleteTablesOn accountName f ⟨file, some s⟩ ts = (⟨file, some s'⟩, .error x)) := by
  obtain ⟨hreturns, hthrows⟩ := deleteTablesOn_open accountName f ts file s
  cases hvalue : (Storage.deleteTables accountName f s ts).value with
  | ok s' =>
    obtain ⟨hpass, rfl⟩ := Storage.deleteTables_ok_iff.mp hvalue
    exact Or.inl ⟨hpass, rfl, hreturns _ hvalue⟩
  | error x =>
    obtain ⟨s', hloop⟩ := hthrows x hvalue
    refine Or.inr ⟨fun hpass => ?_, x, s', rfl, hloop⟩
    rw [Storage.deleteTables_ok_iff.mpr ⟨hpass, rfl⟩] at hvalue
    cases hvalue

/-! ## The ten statements -/

/-- No statement fails. -/
structure Storage.RemovalFaults.Quiet (faults : RemovalFaults) : Prop where
  begin : faults.begin = none
  deletes : faults.DeletesPass
  commit : faults.commit = none

/-- Everything passes but the `COMMIT`, and that leaves the transaction open. -/
structure Storage.RemovalFaults.LeavesOpen (faults : RemovalFaults) : Prop where
  begin : faults.begin = none
  deletes : faults.DeletesPass
  commit : ∃ fault, faults.commit = some fault ∧ fault.staysOpen = true

/-- What a removal on a connection outside a transaction does, beside what its model without a
connection says. -/
theorem deleteAccountOn_cases (db : Db) (accountName : String) (faults : RemovalFaults) :
    let model := (Storage.deleteAccount db accountName faults.begin faults.delete
      (faults.commit.map (·.error))).value
    (faults.Quiet ∧ model = .ok (withoutAccount db accountName) ∧
      deleteAccountOn ⟨db, none⟩ accountName faults = (⟨withoutAccount db accountName, none⟩, .ok ())) ∨
    (¬ faults.Quiet ∧ ¬ faults.LeavesOpen ∧ ∃ x, model = .error x ∧
      deleteAccountOn ⟨db, none⟩ accountName faults = (⟨db, none⟩, .error x)) ∨
    (faults.LeavesOpen ∧ ∃ x, model = .error x ∧
      deleteAccountOn ⟨db, none⟩ accountName faults =
        (⟨db, some (withoutAccount db accountName)⟩, .error x)) := by
  obtain ⟨beginFault, f, commitFault⟩ := faults
  cases beginFault with
  | some e =>
    refine Or.inr (Or.inl ⟨fun h => ?_, fun h => ?_, _, rfl, rfl⟩)
    · cases h.begin
    · cases h.begin
  | none =>
    have hbegin : (⟨db, none⟩ : Connection Db).begin none = .ok ⟨db, some db⟩ := rfl
    rw [Storage.deleteAccount, deleteAccountOn, hbegin]
    simp only
    rcases deleteTablesOn_cases accountName f kTables db db with
      ⟨hpass, hmodel, hloop⟩ | ⟨hfail, x, s, hmodel, hloop⟩
    · rw [Outcome.bind_value_of_ok hmodel, hloop, foldl_deleteFrom]
      have hdeletes : ∀ t, (f t).prepare = none ∧ (f t).step 0 = none :=
        fun t => hpass t (by cases t <;> decide)
      cases commitFault with
      | none => exact Or.inl ⟨⟨rfl, hdeletes, rfl⟩, rfl, rfl⟩
      | some fault =>
        simp only [Connection.commit_failed]
        cases hopen : fault.staysOpen with
        | true => exact Or.inr (Or.inr ⟨⟨rfl, hdeletes, fault, rfl, hopen⟩, _, rfl, rfl⟩)
        | false =>
          refine Or.inr (Or.inl ⟨fun h => ?_, fun h => ?_, _, rfl, rfl⟩)
          · cases h.commit
          · obtain ⟨_, heq, hstays⟩ := h.commit
            cases heq
            exact absurd (hopen.symm.trans hstays) (by decide)
    · rw [hloop]
      refine Or.inr (Or.inl ⟨fun h => ?_, fun h => ?_, x, ?_, rfl⟩)
      · exact hfail fun t _ => h.deletes t
      · exact hfail fun t _ => h.deletes t
      · rw [Outcome.bind, hmodel]

/-! ## Calls on a connection -/

/-- The call is a removal whose `COMMIT` fails and leaves the transaction open. -/
def StorageCall.LeavesOpen (staysOpen : Bool) : StorageCall → Prop
  | .deleteAccount beginFault f commitFault =>
    (⟨beginFault, f, commitFault.map fun e => ⟨e, staysOpen⟩⟩ : RemovalFaults).LeavesOpen
  | _ => False

theorem removal_or_not (c : StorageCall) :
    (∃ beginFault f commitFault, c = .deleteAccount beginFault f commitFault) ∨
      ∀ beginFault f commitFault, c ≠ .deleteAccount beginFault f commitFault := by
  by_cases hc : ∃ beginFault f commitFault, c = .deleteAccount beginFault f commitFault
  · exact .inl hc
  · exact .inr fun beginFault f commitFault h => hc ⟨beginFault, f, commitFault, h⟩

/-- A call that is no removal throws and leaves the connection, or writes what it makes of the rows
that the connection sees. -/
theorem runOn_of_not_removal {c : StorageCall}
    (hc : ∀ beginFault f commitFault, c ≠ .deleteAccount beginFault f commitFault)
    (conn : Connection Db) (accountName : String) (staysOpen : Bool) :
    (∃ x, (c.run conn.view accountName).value = .error x ∧
      c.runOn conn accountName staysOpen = (conn, .error x)) ∨
    ∃ db answer, (c.run conn.view accountName).value = .ok (db, answer) ∧
      c.runOn conn accountName staysOpen = (conn.written db, .ok answer) := by
  rw [StorageCall.runOn]
  · cases (c.run conn.view accountName).value with
    | error x => exact .inl ⟨x, rfl, rfl⟩
    | ok p => exact .inr ⟨p.1, p.2, rfl, rfl⟩
  · exact hc

/-- Outside a transaction a call that is no removal does what its model without a connection says. -/
theorem runOn_closed_plain {c : StorageCall}
    (hc : ∀ beginFault f commitFault, c ≠ .deleteAccount beginFault f commitFault) (db : Db)
    (accountName : String) (staysOpen : Bool) :
    c.runOn ⟨db, none⟩ accountName staysOpen =
      (⟨(StorageCall.step db (accountName, c)).1, none⟩,
        (StorageCall.step db (accountName, c)).2.value) := by
  rcases runOn_of_not_removal hc ⟨db, none⟩ accountName staysOpen with
    ⟨x, hvalue, hconn⟩ | ⟨db', answer, hvalue, hconn⟩
  · have hrun : (c.run db accountName).value = .error x := hvalue
    rw [hconn]
    simp only [StorageCall.step, Outcome.after, Outcome.map_value, hrun]
    rfl
  · have hrun : (c.run db accountName).value = .ok (db', answer) := hvalue
    rw [hconn]
    simp only [StorageCall.step, Outcome.after, Outcome.map_value, hrun]
    rfl

/-- Outside a transaction a call does what its model without a connection says, and is outside one
again after it, unless it leaves a transaction open. -/
theorem runOn_closed (db : Db) (accountName : String) (staysOpen : Bool) (c : StorageCall) :
    (c.runOn ⟨db, none⟩ accountName staysOpen).2 =
        (StorageCall.step db (accountName, c)).2.value ∧
      (c.runOn ⟨db, none⟩ accountName staysOpen).1.file =
        (StorageCall.step db (accountName, c)).1 ∧
      (¬ c.LeavesOpen staysOpen → (c.runOn ⟨db, none⟩ accountName staysOpen).1.transaction = none) ∧
      (c.LeavesOpen staysOpen →
        (c.runOn ⟨db, none⟩ accountName staysOpen).1 =
          ⟨db, some (withoutAccount db accountName)⟩) := by
  rcases removal_or_not c with ⟨beginFault, f, commitFault, rfl⟩ | hc
  · have hcases := deleteAccountOn_cases db accountName
      ⟨beginFault, f, commitFault.map fun e => ⟨e, staysOpen⟩⟩
    have hfault : (commitFault.map fun e => (⟨e, staysOpen⟩ : CommitFault)).map (·.error) =
        commitFault := by
      cases commitFault <;> rfl
    simp only [hfault] at hcases
    simp only [StorageCall.runOn, StorageCall.step, StorageCall.run, StorageCall.wrote,
      StorageCall.LeavesOpen, Outcome.after, Outcome.map_value]
    rcases hcases with ⟨hquiet, hmodel, hconn⟩ | ⟨-, hclosed, x, hmodel, hconn⟩ |
      ⟨hopen, x, hmodel, hconn⟩
    · rw [hmodel, hconn]
      refine ⟨rfl, rfl, fun _ => rfl, fun h => ?_⟩
      obtain ⟨fault, hcommit, -⟩ := h.commit
      rw [hquiet.commit] at hcommit
      cases hcommit
    · rw [hmodel, hconn]
      exact ⟨rfl, rfl, fun _ => rfl, fun h => absurd h hclosed⟩
    · rw [hmodel, hconn]
      exact ⟨rfl, rfl, fun h => absurd hopen h, fun _ => rfl⟩
  · rw [runOn_closed_plain hc]
    refine ⟨rfl, rfl, fun _ => rfl, fun h => ?_⟩
    rw [StorageCall.LeavesOpen] at h
    · cases h
    · exact hc

/-- Inside a transaction that a removal has left, no call reaches the file, and none ends the
transaction. -/
theorem runOn_open (file s : Db) (accountName : String) (staysOpen : Bool) (c : StorageCall) :
    ∃ s', (c.runOn ⟨file, some s⟩ accountName staysOpen).1 = ⟨file, some s'⟩ := by
  rcases removal_or_not c with ⟨beginFault, f, commitFault, rfl⟩ | hc
  · exact ⟨s, rfl⟩
  · rcases runOn_of_not_removal hc ⟨file, some s⟩ accountName staysOpen with
      ⟨x, -, hconn⟩ | ⟨db', answer, -, hconn⟩
    · exact ⟨s, by rw [hconn]⟩
    · exact ⟨db', by rw [hconn]; rfl⟩

/-- A removal inside a transaction is refused. -/
theorem removal_refused (file s : Db) (accountName : String) (faults : RemovalFaults) :
    deleteAccountOn ⟨file, some s⟩ accountName faults =
      (⟨file, some s⟩, .error ⟨"deleteAccount: BEGIN failed: " ++ Sqlite.nestedBegin.message⟩) := rfl

/-! ## Runs of one object -/

/-- The connection of an account's object after a call. -/
def connectionStep (accountName : String) (conn : Connection Db) (e : StorageCall × Bool) :
    Connection Db :=
  (e.1.runOn conn accountName e.2).1

/-- Over a run in which no `COMMIT` leaves its transaction open, the file is what the calls make of
it, and the connection is outside a transaction at the end. -/
theorem run_refines (accountName : String) (db : Db) (calls : List (StorageCall × Bool))
    (hcalls : ∀ e ∈ calls, ¬ e.1.LeavesOpen e.2) :
    Runs.final (connectionStep accountName) ⟨db, none⟩ calls =
      ⟨stateAfter StorageCall.step db (calls.map fun e => (accountName, e.1)), none⟩ := by
  induction calls generalizing db with
  | nil => rfl
  | cons e calls ih =>
    obtain ⟨-, hfile, hclosed, -⟩ := runOn_closed db accountName e.2 e.1
    have hstep : connectionStep accountName ⟨db, none⟩ e =
        ⟨(StorageCall.step db (accountName, e.1)).1, none⟩ :=
      Connection.ext hfile (hclosed (hcalls e List.mem_cons_self))
    rw [Runs.final_cons, hstep, ih _ fun e' he' => hcalls e' (List.mem_cons_of_mem e he')]
    rfl

/-- After a removal whose `COMMIT` has left the transaction open, no run of calls on the object
changes the file. -/
theorem run_open (accountName : String) (file s : Db) (calls : List (StorageCall × Bool)) :
    ∃ s', Runs.final (connectionStep accountName) ⟨file, some s⟩ calls = ⟨file, some s'⟩ := by
  induction calls generalizing s with
  | nil => exact ⟨s, rfl⟩
  | cons e calls ih =>
    obtain ⟨s', hstep⟩ := runOn_open file s accountName e.2 e.1
    rw [Runs.final_cons, connectionStep, hstep]
    exact ih s'

/-! ## Atomicity -/

/-- Every call has the effect on the file, and the answer, that it should. -/
def NormalEffect (conn : Connection Db) : Prop :=
  ∀ (accountName : String) (c : StorageCall) (staysOpen : Bool),
    (c.runOn conn accountName staysOpen).2 =
        (StorageCall.step conn.file (accountName, c)).2.value ∧
      (c.runOn conn accountName staysOpen).1.file = (StorageCall.step conn.file (accountName, c)).1

/-- The removal of an account: all of its rows and no others, or none, with an exception, and a
connection that works on. -/
structure Atomic (db : Db) (accountName : String) (faults : RemovalFaults) : Prop where
  passes : faults.Quiet →
    (deleteAccountOn ⟨db, none⟩ accountName faults).2 = .ok () ∧
      Removed accountName db (deleteAccountOn ⟨db, none⟩ accountName faults).1.file
  fails : ¬ faults.Quiet →
    (∃ x, (deleteAccountOn ⟨db, none⟩ accountName faults).2 = .error x) ∧
      (deleteAccountOn ⟨db, none⟩ accountName faults).1.file = db ∧
      NormalEffect (deleteAccountOn ⟨db, none⟩ accountName faults).1

theorem normalEffect_closed (db : Db) : NormalEffect ⟨db, none⟩ := by
  intro accountName c staysOpen
  obtain ⟨hanswer, hfile, -, -⟩ := runOn_closed db accountName staysOpen c
  exact ⟨hanswer, hfile⟩

/-- Inside a transaction a removal that should pass throws. -/
theorem not_normalEffect_open (file s : Db) : ¬ NormalEffect ⟨file, some s⟩ := by
  intro h
  have hanswer := (h "" (.deleteAccount none (fun _ => .quiet) none) false).1
  cases hanswer

/-- A removal is atomic exactly when its `COMMIT` does not fail with the transaction left open. -/
theorem removal_atomic_iff (db : Db) (accountName : String) (faults : RemovalFaults) :
    Atomic db accountName faults ↔ ¬ faults.LeavesOpen := by
  rcases deleteAccountOn_cases db accountName faults with ⟨hquiet, -, hconn⟩ |
    ⟨hfail, hclosed, x, -, hconn⟩ | ⟨hopen, x, -, hconn⟩
  · refine iff_of_true ⟨fun _ => ?_, fun hfail => absurd hquiet hfail⟩ fun hopen => ?_
    · rw [hconn]
      exact ⟨rfl, removed_withoutAccount db accountName⟩
    · obtain ⟨fault, hcommit, -⟩ := hopen.commit
      rw [hquiet.commit] at hcommit
      cases hcommit
  · refine iff_of_true ⟨fun hquiet => absurd hquiet hfail, fun _ => ?_⟩ hclosed
    rw [hconn]
    exact ⟨⟨x, rfl⟩, rfl, normalEffect_closed db⟩
  · refine iff_of_false (fun h => ?_) fun hno => hno hopen
    have hfail : ¬ faults.Quiet := by
      intro hquiet
      obtain ⟨fault, hcommit, -⟩ := hopen.commit
      rw [hquiet.commit] at hcommit
      cases hcommit
    obtain ⟨-, -, hnormal⟩ := h.fails hfail
    rw [hconn] at hnormal
    exact not_normalEffect_open _ _ hnormal

theorem Storage.RemovalFaults.InWal.not_leavesOpen {faults : RemovalFaults} (h : faults.InWal) :
    ¬ faults.LeavesOpen := by
  intro hopen
  obtain ⟨fault, hcommit, hstays⟩ := hopen.commit
  have hends : fault.staysOpen = false := h.ends fault hcommit (h.notBusy fault hcommit)
  rw [hends] at hstays
  cases hstays

/-- In WAL mode a removal is atomic, whichever of its statements fail: all rows of the account are gone
and no others, or it throws, no row is gone and every call on the connection has its normal effect. -/
theorem removal_atomic (db : Db) (accountName : String) (faults : RemovalFaults)
    (hwal : faults.InWal) : Atomic db accountName faults :=
  (removal_atomic_iff db accountName faults).mpr hwal.not_leavesOpen

/-- A file with one account. -/
def oneAccount : Db where
  account := (∅ : Table String AccountRecord).insert "trunk"
    { e164 := "+4930900", aci := "aci-0", pni := "", password := "" }

/-- The disk is full when the removal commits, and the engine rolls back. -/
def fullDisk : RemovalFaults where
  commit := some ⟨⟨.full, "database or disk is full"⟩, false⟩

/-- The removal throws, the account is still in the file, and the same object can remove it afterwards. -/
theorem removal_on_fullDisk :
    (deleteAccountOn ⟨oneAccount, none⟩ "trunk" fullDisk).2 =
        .error ⟨"deleteAccount: COMMIT failed: database or disk is full"⟩ ∧
      (deleteAccountOn (deleteAccountOn ⟨oneAccount, none⟩ "trunk" fullDisk).1 "trunk" {}).2 = .ok () ∧
      Atomic oneAccount "trunk" fullDisk := by
  refine ⟨rfl, rfl, removal_atomic oneAccount "trunk" fullDisk ⟨?_, ?_⟩⟩
  · rintro fault ⟨⟩
    decide
  · rintro fault ⟨⟩ -
    rfl

end Signal2sip
