import Signal2sip.Storage.AccountColumns
import Mathlib.Data.List.Induction

/-!
# Two writers of one row

`saveAccount` and `saveAccountConfig` write the same row of `account`, from any number of `Storage`
objects and in any order. Each owns its columns, so after any such run the row is determined by the
last call of each kind that answered: the identity columns are those of the last `saveAccount`, the
configuration columns those of the last `saveAccountConfig` or the schema's defaults, and the
counter is the number of `saveAccountConfig` calls. `loadAccount` returns just that record.

The law is about the columns themselves. It is proved on the records of the storage model and
carried to the columns by the agreement of the two.
-/

namespace Signal2sip

open Sqlite (Agree Casts Faults Outcome succeeded)

/-- A call of one of the two writes, from any `Storage` object. -/
inductive AccountWrite
  | saveAccount (accountName_ : String) (account : SizedAccount) (f : Faults)
  | saveAccountConfig (accountName_ : String) (account : AccountRecord) (f : Faults)

namespace AccountWrite

/-- The account of the object that the call is made on. -/
def accountName : AccountWrite → String
  | .saveAccount accountName_ _ _ => accountName_
  | .saveAccountConfig accountName_ _ _ => accountName_

def identity? : AccountWrite → Option IdentityColumns
  | .saveAccount _ account _ => some account.account.toIdentityColumns
  | .saveAccountConfig _ _ _ => none

def config? : AccountWrite → Option ConfigColumns
  | .saveAccount _ _ _ => none
  | .saveAccountConfig _ account _ => some account.toConfigColumns

/-- The call on the columns. -/
def call (cast : Casts) (t : AccountRows) : AccountWrite → Result AccountRows
  | .saveAccount accountName_ account f => t.saveAccount accountName_ account.account f
  | .saveAccountConfig accountName_ account f => t.saveAccountConfig accountName_ cast account f

/-- The call on the records. -/
def callDb (db : Db) : AccountWrite → Result Db
  | .saveAccount accountName_ account f => Storage.saveAccount db accountName_ account.account f
  | .saveAccountConfig accountName_ account f =>
    Storage.saveAccountConfig db accountName_ account f

theorem call_agree {t : AccountRows} {db : Db} (h : t.Represents db) (cast : Casts)
    (w : AccountWrite) : Agree AccountRows.Represents (w.call cast t) (w.callDb db) := by
  cases w with
  | saveAccount name account f => exact AccountRows.saveAccount_agree h name account.account f
  | saveAccountConfig name account f =>
    exact AccountRows.saveAccountConfig_agree h name cast account f

/-- The identity columns of the last `saveAccount`. -/
def lastIdentity (ws : List AccountWrite) : Option IdentityColumns :=
  (ws.filterMap identity?).getLast?

/-- The configuration columns of the last `saveAccountConfig`. -/
def lastConfig (ws : List AccountWrite) : Option ConfigColumns := (ws.filterMap config?).getLast?

/-- The number of `saveAccountConfig` calls. -/
def configCount (ws : List AccountWrite) : Nat := (ws.filterMap config?).length

/-- The row that a new account has after some writes. -/
def rowAfter (ws : List AccountWrite) : Option AccountRecord :=
  (lastIdentity ws).map fun identity =>
    { toIdentityColumns := identity
      toConfigColumns := (lastConfig ws).getD {}
      configVersion := configCount ws }

/-- The file after a run of calls. -/
def afterAll (cast : Casts) (t : AccountRows) (ws : List AccountWrite) : AccountRows :=
  Runs.final (fun t w => (w.call cast t).after t) t ws

/-- The writes of one account that answered. -/
def answeredOf (cast : Casts) (accountName_ : String) (t : AccountRows) (ws : List AccountWrite) :
    List AccountWrite :=
  (succeeded (call cast) t ws).filter fun w => w.accountName = accountName_

/-! ## The law on the records -/

/-- What an answered write does to its account's row. -/
def effect (row : Option AccountRecord) : AccountWrite → Option AccountRecord
  | .saveAccount _ account _ => some (Storage.withIdentity row account.account.toIdentityColumns)
  | .saveAccountConfig _ account _ =>
    row.map fun row => AccountRows.withConfig row account.toConfigColumns

/-- A call that answers has its effect on its own account's row, and a `saveAccountConfig` only
answers when there is a row. -/
theorem callDb_ok {db db' : Db} {w : AccountWrite} (h : (w.callDb db).value = .ok db') :
    db'.row w.accountName = w.effect (db.row w.accountName) ∧
      (w.effect (db.row w.accountName)).isSome ∧
      ∀ name ≠ w.accountName, db'.row name = db.row name := by
  cases w with
  | saveAccount accountName_ account f =>
    obtain ⟨-, -, heq⟩ := Sqlite.execute_ok_iff.mp h
    cases heq
    exact ⟨AList.lookup_insert db.account, rfl, fun name hname => AList.lookup_insert_ne hname⟩
  | saveAccountConfig accountName_ account f =>
    obtain ⟨hmem, rfl⟩ := Storage.saveAccountConfig_ok h
    have hrows := AccountRows.updateAccountConfig_row db accountName_ account.toConfigColumns
    refine ⟨?_, ?_, ?_⟩
    · show Db.row _ accountName_ = _
      rw [hrows, if_pos rfl]
      rfl
    · show ((db.row accountName_).map _).isSome
      rw [Option.isSome_map]
      exact AList.lookup_isSome.mpr hmem
    · intro name hname
      rw [hrows]
      exact if_neg hname

/-- The file of records after a run of calls. -/
def afterAllDb (db : Db) (ws : List AccountWrite) : Db :=
  Runs.final (fun db w => (w.callDb db).after db) db ws

def answeredOfDb (accountName_ : String) (db : Db) (ws : List AccountWrite) : List AccountWrite :=
  (succeeded callDb db ws).filter fun w => w.accountName = accountName_

/-- One more call adds itself, if it was the account's and answered. -/
theorem answeredOfDb_append_singleton (accountName_ : String) (db : Db) (ws : List AccountWrite)
    (w : AccountWrite) :
    answeredOfDb accountName_ db (ws ++ [w]) =
      answeredOfDb accountName_ db ws ++
        if w.accountName = accountName_ ∧ (w.callDb (afterAllDb db ws)).answered then [w] else [] := by
  unfold answeredOfDb afterAllDb
  rw [Sqlite.succeeded_append_singleton, List.filter_append]
  congr 1
  by_cases hname : w.accountName = accountName_ <;>
    cases (w.callDb (Runs.final (fun db w => (w.callDb db).after db) db ws)).answered <;>
    simp [hname]

/-- The row of a list of writes, one write later. -/
theorem rowAfter_append_singleton {ws : List AccountWrite} (hfirst : rowAfter ws = none → ws = [])
    (w : AccountWrite) : rowAfter (ws ++ [w]) = w.effect (rowAfter ws) := by
  cases w with
  | saveAccount accountName_ account f =>
    cases hrow : rowAfter ws with
    | none =>
      obtain rfl := hfirst hrow
      rfl
    | some row =>
      obtain ⟨identity, hidentity, rfl⟩ := Option.map_eq_some_iff.mp hrow
      have hconfigs : (ws ++ [saveAccount accountName_ account f]).filterMap config? =
          ws.filterMap config? := by
        rw [List.filterMap_append]
        exact List.append_nil _
      have hlast : lastIdentity (ws ++ [saveAccount accountName_ account f]) =
          some account.account.toIdentityColumns := by
        rw [lastIdentity, List.filterMap_append]
        exact List.getLast?_concat
      rw [rowAfter, hlast, lastConfig, configCount, hconfigs]
      rfl
  | saveAccountConfig accountName_ account f =>
    have hidentity : lastIdentity (ws ++ [.saveAccountConfig accountName_ account f]) =
        lastIdentity ws := by
      simp [lastIdentity, identity?]
    simp only [rowAfter, hidentity, effect, Option.map_map]
    congr 1
    funext identity
    simp [lastConfig, configCount, config?, AccountRows.withConfig]

/-- The row of a new account is that of its answered writes, and they start with a `saveAccount`. -/
theorem row_afterAllDb {db : Db} {accountName_ : String} (hnew : db.row accountName_ = none)
    (ws : List AccountWrite) :
    (afterAllDb db ws).row accountName_ = rowAfter (answeredOfDb accountName_ db ws) ∧
      (rowAfter (answeredOfDb accountName_ db ws) = none → answeredOfDb accountName_ db ws = []) := by
  induction ws using List.reverseRecOn with
  | nil => exact ⟨hnew, fun _ => rfl⟩
  | append_singleton ws w ih =>
    obtain ⟨hrow, hfirst⟩ := ih
    rw [answeredOfDb_append_singleton]
    have hstep : afterAllDb db (ws ++ [w]) = (w.callDb (afterAllDb db ws)).after (afterAllDb db ws) :=
      Runs.final_append _ db ws [w]
    rw [hstep, Outcome.after, Outcome.answered]
    cases hvalue : (w.callDb (afterAllDb db ws)).value with
    | error e =>
      rw [if_neg fun h => (by cases h.2), List.append_nil]
      exact ⟨hrow, hfirst⟩
    | ok db' =>
      obtain ⟨hself, hsome, hother⟩ := callDb_ok hvalue
      by_cases hname : w.accountName = accountName_
      · subst hname
        rw [if_pos ⟨rfl, rfl⟩, rowAfter_append_singleton hfirst, ← hrow]
        refine ⟨hself, fun hnone => ?_⟩
        rw [hnone] at hsome
        cases hsome
      · rw [if_neg fun h => hname h.1, List.append_nil]
        exact ⟨(hother accountName_ fun h => hname h.symm).trans hrow, hfirst⟩

/-! ## The law on the columns -/

/-- The two files stay in agreement along a run, and the same calls answer. -/
theorem afterAll_represents {t : AccountRows} {db : Db} (h : t.Represents db) (cast : Casts)
    (accountName_ : String) (ws : List AccountWrite) :
    (afterAll cast t ws).Represents (afterAllDb db ws) ∧
      answeredOf cast accountName_ t ws = answeredOfDb accountName_ db ws := by
  obtain ⟨hrep, hsucceeded⟩ := Agree.run (fun t db w ht => call_agree ht cast w) h ws
  exact ⟨hrep, by rw [answeredOf, answeredOfDb, hsucceeded]⟩

/-- The `device_id` of a written row is the `int` that a caller passed. -/
theorem rowAfter_deviceId {ws : List AccountWrite} {row : AccountRecord}
    (h : rowAfter ws = some row) : -2 ^ 31 ≤ row.deviceId ∧ row.deviceId < 2 ^ 31 := by
  obtain ⟨identity, hlast, rfl⟩ := Option.map_eq_some_iff.mp h
  obtain ⟨w, -, hw⟩ := List.mem_filterMap.mp (List.mem_of_getLast? hlast)
  cases w with
  | saveAccount accountName_ account f =>
    cases hw
    exact ⟨account.deviceId_low, account.deviceId_high⟩
  | saveAccountConfig accountName_ account f => cases hw

end AccountWrite

open AccountWrite in
/-- After any run of the two writes, by any number of objects, an account that started without a
row has the identity columns of its last answered `saveAccount`, the configuration columns of its
last answered `saveAccountConfig` (the schema's defaults before one), and counts the latter.
`loadAccount` returns that record and nothing else; while there is no row, `saveAccountConfig`
throws and leaves the file as it is. -/
theorem accountWrites (cast : Casts) {t : AccountRows} {db : Db} (hfile : t.Represents db)
    {accountName_ : String} (hnew : db.row accountName_ = none) (ws : List AccountWrite) :
    (afterAll cast t ws).Keeps accountName_ (rowAfter (answeredOf cast accountName_ t ws)) ∧
      (∀ f account, ((afterAll cast t ws).loadAccount accountName_ cast f).value = .ok account ↔
        f.prepare = none ∧ f.step 0 = none ∧
          rowAfter (answeredOf cast accountName_ t ws) = some account) ∧
      (rowAfter (answeredOf cast accountName_ t ws) = none → ∀ account,
        Sqlite.updateRow cast accountSchema AccountRows.configAssignments (.text accountName_)
            (Sqlite.bound (AccountRows.saveAccountConfigBinds accountName_ account))
            (afterAll cast t ws) = .ok (afterAll cast t ws, 0) ∧
          ∀ f, ∃ e,
            ((afterAll cast t ws).saveAccountConfig accountName_ cast account f).value = .error e ∧
              (f.prepare = none → f.step 0 = none → e = ⟨"saveAccountConfig: no account row named '"
                ++ accountName_ ++ "' to update"⟩)) := by
  obtain ⟨hrep, hanswered⟩ := afterAll_represents hfile cast accountName_ ws
  obtain ⟨hrow, -⟩ := row_afterAllDb hnew ws
  rw [← hanswered] at hrow
  have hkeeps := hrow ▸ hrep accountName_
  refine ⟨hkeeps, fun f account => ?_, fun hnone account => ?_⟩
  · have hload := AccountRows.loadAccount_agree hrep accountName_
      (fun row h => rowAfter_deviceId (hrow.symm.trans h)) cast f
    rw [hload.value.eq_of_answers, Storage.loadAccount_ok_iff, hrow]
  · rw [hnone] at hkeeps
    exact ⟨AccountRows.updateRow_keeps hkeeps cast account,
      AccountRows.saveAccountConfig_absent hkeeps cast account⟩

/-- No conversion between storage classes that a concrete run would need. -/
def noCasts : Casts := ⟨fun _ => "", fun _ => "", fun _ => [], fun _ => 0⟩

/-- A linked account without a cached profile key and with an empty one. -/
def savedAccount (profileKey : Option Bytes) : SizedAccount where
  account :=
    { e164 := "+3800", aci := "aci", pni := "pni", password := "pw", deviceId := -1
      flow := some "", profileKey := profileKey, linkedAt := some 0, sipHost := "lost" }
  deviceId_low := (by decide : (-2 ^ 31 : Int) ≤ -1)
  deviceId_high := (by decide : (-1 : Int) < 2 ^ 31)

/-- A first `config set` that finds no row, and the writes of a new account. -/
def interleavedWrites : List AccountWrite :=
  [.saveAccountConfig "alice" { (savedAccount none).account with sipHost := "early" } .quiet,
    .saveAccount "alice" (savedAccount none) .quiet,
    .saveAccountConfig "alice" { (savedAccount none).account with sipHost := "pbx" } .quiet,
    .saveAccount "bob" (savedAccount none) .quiet,
    .saveAccount "alice" (savedAccount (some [])) .quiet]

theorem accountWrites_interleaved :
    ((AccountWrite.afterAll noCasts ∅ interleavedWrites).loadAccount "alice" noCasts .quiet).value =
      .ok { (savedAccount (some [])).account with sipHost := "pbx", configVersion := 1 } :=
  ((accountWrites noCasts (show AccountRows.Represents ∅ {} from fun _ => rfl)
    (rfl : Db.row {} "alice" = none) interleavedWrites).2.1 .quiet _).mpr ⟨rfl, rfl, rfl⟩

end Signal2sip
