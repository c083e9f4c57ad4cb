import Signal2sip.Lib.Sqlite
import Signal2sip.Lib.Table

/-!
# Rows by position

A statement of an SQL engine names its parameters by position: the client binds a value to each
`?`, counted from 1, and reads the columns of a `SELECT`, counted from 0. Nothing in the engine ties
a position to the column the client had in mind. So a row here is a value for each column, and the
three statement forms are given by their lists of columns, in the order of the statement's text:

- `insertRow`, an `INSERT` whose `ON CONFLICT` clause overwrites some columns of the row there is;
- `updateRow`, an `UPDATE` of the row with a given key;
- `selectRow`, a `SELECT` of one row.

A table is keyed by the value of its primary key. `NOT NULL` is checked for the row that a write
would leave, and a parameter that no call has bound is `NULL`. How the engine converts between its
storage classes is a parameter (`Casts`): a client that reads each column as it bound it never
meets a conversion.
-/

namespace Sqlite

/-- A value with its storage class. -/
inductive Value
  | null
  | integer (n : Int)
  | text (s : String)
  | blob (b : List UInt8)
deriving DecidableEq, Repr

/-- The engine's conversions between storage classes. -/
structure Casts where
  textOfInteger : Int → String
  textOfBlob : List UInt8 → String
  blobOfText : String → List UInt8
  integerOfText : String → Int

/-- `sqlite3_column_int64`, and the operand of an arithmetic operator. -/
def Casts.toInteger (cast : Casts) : Value → Int
  | .null => 0
  | .integer n => n
  | .text s => cast.integerOfText s
  | .blob b => cast.integerOfText (cast.textOfBlob b)

/-- `sqlite3_column_text` with its length; a null pointer for `NULL`. -/
def Casts.toText (cast : Casts) : Value → Option String
  | .null => none
  | .integer n => some (cast.textOfInteger n)
  | .text s => some s
  | .blob b => some (cast.textOfBlob b)

/-- `sqlite3_column_blob` with its length; a null pointer for `NULL` and for no bytes at all. -/
def Casts.toBlob (cast : Casts) : Value → Option (List UInt8)
  | .null => none
  | .integer n => some (cast.blobOfText (cast.textOfInteger n))
  | .text s => some (cast.blobOfText s)
  | .blob b => if b = [] then none else some b

/-- What the parameters of a statement hold after a list of binds. -/
def bound (binds : List (Nat × Value)) : Nat → Value :=
  binds.foldl (fun p b n => if n = b.1 then b.2 else p n) fun _ => .null

/-- A table's declaration. -/
structure Schema (κ : Type*) where
  columns : List κ
  key : κ
  notNull : κ → Bool
  defaults : κ → Value

/-- The right side of an assignment: a parameter, or a column plus one. -/
inductive Assigned (κ : Type*)
  | param (n : Nat)
  | plusOne (c : κ)

/-- A table of rows, by the value of the primary key. -/
abbrev Rows (κ : Type*) := Table Value (κ → Value)

section Statements

variable {κ : Type*}

def notNullFailed : Error := ⟨.constraint, "NOT NULL constraint failed"⟩

/-- Put a row under its key, unless a `NOT NULL` column of it is `NULL`. -/
def putRow (schema : Schema κ) (t : Rows κ) (row : κ → Value) : Except Error (Rows κ) :=
  if schema.columns.any (fun c => schema.notNull c && row c = .null) then .error notNullFailed
  else .ok (t.insert (row schema.key) row)

/-- A row without a forbidden `NULL` is put under its key, and no other row changes. -/
theorem putRow_ok_iff {schema : Schema κ} {t t' : Rows κ} {row : κ → Value} :
    putRow schema t row = .ok t' ↔
      (∀ c ∈ schema.columns, schema.notNull c → row c ≠ .null) ∧
        t' = t.insert (row schema.key) row := by
  unfold putRow
  split
  · next h =>
    simp only [List.any_eq_true, Bool.and_eq_true, decide_eq_true_eq] at h
    obtain ⟨c, hc, hnotNull, hnull⟩ := h
    exact ⟨fun h => (by cases h), fun h => absurd hnull (h.1 c hc hnotNull)⟩
  · next h =>
    simp only [List.any_eq_true, Bool.and_eq_true, decide_eq_true_eq, not_exists, not_and] at h
    refine ⟨fun heq => ⟨fun c hc hnotNull => h c hc hnotNull, ?_⟩, fun heq => ?_⟩
    · cases heq
      rfl
    · rw [heq.2]

variable [DecidableEq κ]

/-- The row of `(columns) VALUES (?, …)`: the parameters in order, and the default elsewhere. -/
def valuesRow (schema : Schema κ) (columns : List κ) (p : Nat → Value) : κ → Value := fun c =>
  match columns.idxOf? c with
  | some i => p (i + 1)
  | none => schema.defaults c

/-- The row of `SET c = excluded.c, …`. -/
def overwriteRow (overwritten : List κ) (excluded row : κ → Value) : κ → Value := fun c =>
  if c ∈ overwritten then excluded c else row c

/-- `INSERT INTO t (columns) VALUES (?, …) ON CONFLICT (key) DO UPDATE SET c = excluded.c, …`. -/
def insertRow (schema : Schema κ) (columns overwritten : List κ) (p : Nat → Value) (t : Rows κ) :
    Except Error (Rows κ) :=
  match t.lookup (valuesRow schema columns p schema.key) with
  | none => putRow schema t (valuesRow schema columns p)
  | some row => putRow schema t (overwriteRow overwritten (valuesRow schema columns p) row)

def Assigned.eval (cast : Casts) (p : Nat → Value) (row : κ → Value) : Assigned κ → Value
  | .param n => p n
  | .plusOne c => if row c = .null then .null else .integer (cast.toInteger (row c) + 1)

/-- The row of an `UPDATE`'s `SET` clause; the right sides are read from the old row. -/
def setRow (cast : Casts) (set : List (κ × Assigned κ)) (p : Nat → Value) (row : κ → Value) :
    κ → Value := fun c =>
  match set.lookup c with
  | some e => e.eval cast p row
  | none => row c

/-- `UPDATE t SET c = …, … WHERE key = …`, and `sqlite3_changes` after it. -/
def updateRow (cast : Casts) (schema : Schema κ) (set : List (κ × Assigned κ)) (key : Value)
    (p : Nat → Value) (t : Rows κ) : Except Error (Rows κ × Nat) :=
  match t.lookup key with
  | none => .ok (t, 0)
  | some row =>
    (putRow schema t (setRow cast set p row)).map fun t' => (t', 1)

/-- `SELECT columns FROM t WHERE key = …`: the selected values of the row, by position. -/
def selectRow (columns : List κ) (key : Value) (t : Rows κ) : Option (Nat → Value) :=
  (t.lookup key).map fun row i => (columns[i]?).elim .null row

end Statements

end Sqlite
