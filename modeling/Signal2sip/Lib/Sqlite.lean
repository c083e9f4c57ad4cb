import Mathlib.Data.List.Basic

/-!
# Statements of an SQL engine that can fail

A prepared statement is stepped until it has no more rows. Each call of `sqlite3_step` returns one
of three things: a row, `SQLITE_DONE`, or an error code. A client that tests only for "is it a row"
cannot tell the last two apart, so what a client reports and what the engine returned are two
different things, and a model of the client has to keep both.

`Outcome` is that pair: the results the steps returned, in order, and the value or exception the
client made of them. The statement forms below are the ones a client uses:

- `firstRow` steps once and reports the row, if the result was one;
- `collectRows` steps while the result is a row;
- `execute` steps once and demands `SQLITE_DONE`.

`Outcome.FailsClosed` says that no answer rests on a step that failed. The laws say exactly when
each form has it: `execute` always, the other two when no step that they take fails.

A failure may be injected at any prepare and any step (`Faults`). Nothing is assumed about when the
engine fails or with which code.
-/

namespace Sqlite

/-- The engine's primary error codes: every result code of a step but `SQLITE_ROW` and
`SQLITE_DONE`. -/
inductive ErrorCode
  | error | internal | perm | abort | busy | locked | nomem | readonly | interrupt | ioerr | corrupt
  | notfound | full | cantopen | protocol | empty | schema | toobig | constraint | mismatch | misuse
  | nolfs | auth | format | range | notadb
deriving DecidableEq, Repr

/-- An error code with the text `sqlite3_errmsg` gives for it. -/
structure Error where
  code : ErrorCode
  message : String
deriving DecidableEq, Repr

/-- What one call of `sqlite3_step` returned. -/
inductive StepResult
  | row
  | done
  | error (e : Error)
deriving DecidableEq, Repr

/-- The failures injected into one statement: at its prepare, and at each of its steps. -/
structure Faults where
  prepare : Option Error := none
  step : Nat → Option Error := fun _ => none

/-- A statement during which nothing fails. -/
def Faults.quiet : Faults := {}

/-- No step up to the `n`-th fails, or the statement is never stepped because its prepare fails. -/
def Faults.SilentUpTo (f : Faults) (n : Nat) : Prop :=
  f.prepare = none → ∀ i ≤ n, f.step i = none

/-- What the engine returned, step by step, and what the client made of it. -/
structure Outcome (ξ α : Type*) where
  steps : List StepResult
  value : Except ξ α

namespace Outcome

variable {ξ α β : Type*}

/-- Post-process the client's answer; the steps are the same. -/
def map (g : α → β) (o : Outcome ξ α) : Outcome ξ β := ⟨o.steps, o.value.map g⟩

/-- Continue with another statement, unless the first one raised. -/
def bind (o : Outcome ξ α) (k : α → Outcome ξ β) : Outcome ξ β :=
  match o.value with
  | .error x => ⟨o.steps, .error x⟩
  | .ok a => ⟨o.steps ++ (k a).steps, (k a).value⟩

/-- An exception raised without touching the engine. -/
def throw (x : ξ) : Outcome ξ α := ⟨[], .error x⟩

/-- A value produced without touching the engine. -/
def pure (a : α) : Outcome ξ α := ⟨[], .ok a⟩

/-- No answer rests on a failed step: whatever is reported, every step was a row or `DONE`. -/
def FailsClosed (o : Outcome ξ α) : Prop :=
  ∀ a, o.value = .ok a → ∀ e, StepResult.error e ∉ o.steps

/-- The answers in `ends` (those that say that nothing more is there) are given only after the
engine said `DONE`. -/
def DoneBefore (ends : α → Prop) (o : Outcome ξ α) : Prop :=
  ∀ a, o.value = .ok a → ends a → StepResult.done ∈ o.steps

@[simp] theorem map_value (g : α → β) (o : Outcome ξ α) : (o.map g).value = o.value.map g := rfl

/-- After a statement that answered, the next one decides. -/
theorem bind_value_of_ok {k : α → Outcome ξ β} {o : Outcome ξ α} {a : α} (h : o.value = .ok a) :
    (o.bind k).value = (k a).value := by
  rw [bind, h]

/-- A statement and the one after it answer when both do. -/
theorem bind_ok_iff {k : α → Outcome ξ β} {o : Outcome ξ α} {b : β} :
    (o.bind k).value = .ok b ↔ ∃ a, o.value = .ok a ∧ (k a).value = .ok b := by
  unfold bind
  cases o.value <;> simp

theorem bind_error_iff {k : α → Outcome ξ β} {o : Outcome ξ α} {x : ξ} :
    (o.bind k).value = .error x ↔
      o.value = .error x ∨ ∃ a, o.value = .ok a ∧ (k a).value = .error x := by
  unfold bind
  cases o.value <;> simp

/-- Post-processing an answer neither hides nor makes up a failure. -/
theorem failsClosed_map {g : α → β} {o : Outcome ξ α} : (o.map g).FailsClosed ↔ o.FailsClosed := by
  constructor
  · intro h a ha
    exact h (g a) (by rw [map_value, ha]; rfl)
  · intro h b hb
    cases hv : o.value with
    | error x => rw [map_value, hv] at hb; cases hb
    | ok a => exact h a hv

theorem doneBefore_map {g : α → β} {o : Outcome ξ α} {ends : β → Prop} :
    (o.map g).DoneBefore ends ↔ o.DoneBefore fun a => ends (g a) := by
  constructor
  · intro h a ha hends
    exact h (g a) (by rw [map_value, ha]; rfl) hends
  · intro h b hb hends
    cases hv : o.value with
    | error x => rw [map_value, hv] at hb; cases hb
    | ok a =>
      rw [map_value, hv] at hb
      cases hb
      exact h a hv hends

end Outcome

section Statements

variable {ξ ρ : Type*} (raise : Error → ξ)

/-- Prepare, step once, and report the row if the result was one:
`if (sqlite3_step(stmt) != SQLITE_ROW) return std::nullopt;`. -/
def firstRow (f : Faults) (rows : List ρ) : Outcome ξ (Option ρ) :=
  match f.prepare with
  | some e => ⟨[], .error (raise e)⟩
  | none =>
    match f.step 0, rows with
    | some e, _ => ⟨[.error e], .ok none⟩
    | none, [] => ⟨[.done], .ok none⟩
    | none, r :: _ => ⟨[.row], .ok (some r)⟩

/-- The loop `while (sqlite3_step(stmt) == SQLITE_ROW)` from step `i` on, over the rows still to
come: the results of its steps and the rows it saw. -/
def rowsFrom (f : Faults) : Nat → List ρ → List StepResult × List ρ
  | i, [] =>
    match f.step i with
    | some e => ([.error e], [])
    | none => ([.done], [])
  | i, r :: rest =>
    match f.step i with
    | some e => ([.error e], [])
    | none => (.row :: (rowsFrom f (i + 1) rest).1, r :: (rowsFrom f (i + 1) rest).2)

/-- Prepare, and collect rows for as long as steps return them. -/
def collectRows (f : Faults) (rows : List ρ) : Outcome ξ (List ρ) :=
  match f.prepare with
  | some e => ⟨[], .error (raise e)⟩
  | none => ⟨(rowsFrom f 0 rows).1, .ok (rowsFrom f 0 rows).2⟩

/-- Prepare, step once, and raise unless the result is `DONE`. The effect is what the statement
does when the engine runs it: a new state, or the constraint it violates. -/
def execute (failed : Error → ξ) (f : Faults) (effect : Except Error ρ) : Outcome ξ ρ :=
  match f.prepare with
  | some e => ⟨[], .error (raise e)⟩
  | none =>
    match f.step 0, effect with
    | some e, _ => ⟨[.error e], .error (failed e)⟩
    | none, .error e => ⟨[.error e], .error (failed e)⟩
    | none, .ok s => ⟨[.done], .ok s⟩

variable {raise}

@[simp] theorem firstRow_quiet (rows : List ρ) :
    (firstRow raise .quiet rows).value = .ok rows.head? := by
  cases rows <;> rfl

/-- What a one-row lookup answers: the first row, and nothing when its step fails. -/
theorem firstRow_ok_iff {f : Faults} {rows : List ρ} {answer : Option ρ} :
    (firstRow raise f rows).value = .ok answer ↔
      f.prepare = none ∧ answer = if f.step 0 = none then rows.head? else none := by
  unfold firstRow
  cases f.prepare with
  | some e => simp
  | none =>
    cases f.step 0 with
    | some e => simp [eq_comm]
    | none => cases rows <;> simp [eq_comm]

/-- A one-row lookup raises only what a failed prepare is turned into. -/
theorem firstRow_error {f : Faults} {rows : List ρ} {x : ξ}
    (h : (firstRow raise f rows).value = .error x) : ∃ e, f.prepare = some e ∧ x = raise e := by
  unfold firstRow at h
  split at h
  · next e hprepare =>
    cases h
    exact ⟨e, hprepare, rfl⟩
  · split at h <;> cases h

/-- A write succeeds when nothing fails and the engine accepts its effect. -/
theorem execute_ok_iff {failed : Error → ξ} {f : Faults} {effect : Except Error ρ} {s : ρ} :
    (execute raise failed f effect).value = .ok s ↔
      f.prepare = none ∧ f.step 0 = none ∧ effect = .ok s := by
  unfold execute
  cases f.prepare with
  | some e => simp
  | none =>
    cases f.step 0 with
    | some e => simp
    | none => cases effect <;> simp

@[simp] theorem execute_quiet (failed : Error → ξ) (effect : Except Error ρ) :
    (execute raise failed .quiet effect).value = effect.mapError failed := by
  cases effect <;> rfl

theorem rowsFrom_of_silent (f : Faults) (rows : List ρ) (i : Nat)
    (h : ∀ j ≤ rows.length, f.step (i + j) = none) :
    rowsFrom f i rows = (List.replicate rows.length .row ++ [.done], rows) := by
  induction rows generalizing i with
  | nil =>
    have h0 : f.step i = none := h 0 (Nat.le_refl _)
    simp [rowsFrom, h0]
  | cons r rest ih =>
    have h0 : f.step i = none := h 0 (Nat.zero_le _)
    have hrest : rowsFrom f (i + 1) rest = (List.replicate rest.length .row ++ [.done], rest) := by
      apply ih (i + 1)
      intro j hj
      have hj' := h (j + 1) (by simpa using hj)
      rwa [← Nat.add_assoc, Nat.add_right_comm] at hj'
    simp [rowsFrom, h0, hrest, List.replicate_succ]

/-- No step of the loop failed exactly when none of the steps up to the end of the rows does. -/
theorem rowsFrom_no_error_iff (f : Faults) (rows : List ρ) (i : Nat) :
    (∀ e, StepResult.error e ∉ (rowsFrom f i rows).1) ↔
      ∀ j ≤ rows.length, f.step (i + j) = none := by
  refine ⟨fun h => ?_, fun h e => by simp [rowsFrom_of_silent f rows i h]⟩
  induction rows generalizing i with
  | nil =>
    intro j hj
    obtain rfl : j = 0 := by simpa using hj
    cases hs : f.step i with
    | none => rfl
    | some e => exact absurd (by simp [rowsFrom, hs]) (h e)
  | cons r rest ih =>
    cases hs : f.step i with
    | some e => exact absurd (by simp [rowsFrom, hs]) (h e)
    | none =>
      simp only [rowsFrom, hs, List.mem_cons, reduceCtorEq, false_or] at h
      intro j hj
      cases j with
      | zero => exact hs
      | succ j =>
        have := ih (i + 1) h j (by simpa using hj)
        rwa [Nat.add_right_comm, Nat.add_assoc] at this

/-- The loop collects an initial part of the rows. -/
theorem rowsFrom_prefix (f : Faults) (rows : List ρ) (i : Nat) : (rowsFrom f i rows).2 <+: rows := by
  induction rows generalizing i with
  | nil =>
    cases hs : f.step i <;> simp [rowsFrom, hs]
  | cons r rest ih =>
    cases hs : f.step i with
    | some e => simp [rowsFrom, hs]
    | none => simpa [rowsFrom, hs] using ih (i + 1)

/-- The loop collects a row when no step up to the one that returns it fails. -/
theorem mem_rowsFrom_iff {f : Faults} {rows : List ρ} {i : Nat} {r : ρ} :
    r ∈ (rowsFrom f i rows).2 ↔ ∃ n, rows[n]? = some r ∧ ∀ j ≤ n, f.step (i + j) = none := by
  induction rows generalizing i with
  | nil =>
    cases hs : f.step i <;> simp [rowsFrom, hs]
  | cons r₀ rest ih =>
    cases hs : f.step i with
    | some e =>
      simp only [rowsFrom, hs, List.not_mem_nil, false_iff]
      rintro ⟨n, -, hsilent⟩
      exact absurd (hs.symm.trans (hsilent 0 (Nat.zero_le n))) (by simp)
    | none =>
      simp only [rowsFrom, hs, List.mem_cons, ih]
      constructor
      · rintro (rfl | ⟨n, hn, hsilent⟩)
        · refine ⟨0, rfl, fun j hj => ?_⟩
          obtain rfl : j = 0 := by omega
          exact hs
        · refine ⟨n + 1, hn, fun j hj => ?_⟩
          cases j with
          | zero => exact hs
          | succ j =>
            have hstep := hsilent j (by omega)
            rwa [Nat.add_right_comm, Nat.add_assoc] at hstep
      · rintro ⟨n, hn, hsilent⟩
        cases n with
        | zero => exact .inl (Option.some.inj hn).symm
        | succ n =>
          refine .inr ⟨n, hn, fun j hj => ?_⟩
          have hstep := hsilent (j + 1) (by omega)
          rwa [Nat.add_right_comm, Nat.add_assoc]

/-- A one-row lookup fails closed exactly when its step does not fail. -/
theorem firstRow_failsClosed_iff {f : Faults} {rows : List ρ} :
    (firstRow raise f rows).FailsClosed ↔ f.SilentUpTo 0 := by
  unfold Outcome.FailsClosed Faults.SilentUpTo firstRow
  cases f.prepare with
  | some e => simp
  | none =>
    cases hs : f.step 0 with
    | some e => simp [hs]
    | none => cases rows <;> simp [hs]

/-- A collecting loop fails closed exactly when none of its steps fails. -/
theorem collectRows_failsClosed_iff {f : Faults} {rows : List ρ} :
    (collectRows raise f rows).FailsClosed ↔ f.SilentUpTo rows.length := by
  unfold Outcome.FailsClosed Faults.SilentUpTo collectRows
  cases f.prepare with
  | some e => simp
  | none =>
    have h := rowsFrom_no_error_iff f rows 0
    simp only [Nat.zero_add] at h
    simp [h]

/-- When no step fails, "no row" is what the engine said. -/
theorem firstRow_doneBefore {f : Faults} {rows : List ρ} (h : f.SilentUpTo 0) :
    (firstRow raise f rows).DoneBefore (· = none) := by
  unfold Faults.SilentUpTo at h
  unfold Outcome.DoneBefore firstRow
  cases hp : f.prepare with
  | some e => simp
  | none => cases rows <;> simp [h hp 0 (Nat.le_refl _)]

/-- When no step fails, a collecting loop ends because the engine said `DONE`. -/
theorem collectRows_doneBefore {f : Faults} {rows : List ρ} (h : f.SilentUpTo rows.length) :
    (collectRows raise f rows).DoneBefore fun _ => True := by
  unfold Faults.SilentUpTo at h
  unfold Outcome.DoneBefore collectRows
  cases hp : f.prepare with
  | some e => simp
  | none => simp [rowsFrom_of_silent f rows 0 (by simpa using h hp)]

end Statements

/-- `LIKE` with its two wildcards, `%` for any run of characters and `_` for one character. Letters
match without regard to ASCII case. -/
def like : List Char → List Char → Bool
  | [], [] => true
  | [], _ :: _ => false
  | p :: ps, cs =>
    if p = '%' then cs.tails.any (like ps)
    else
      match cs with
      | [] => false
      | c :: cs => (p = '_' || p.toLower = c.toLower) && like ps cs

/-- `LIKE` on texts. It reads a text up to the first U+0000, if there is one. -/
def likeText (pattern text : String) : Bool :=
  like (pattern.toList.takeWhile (· ≠ Char.ofNat 0)) (text.toList.takeWhile (· ≠ Char.ofNat 0))

end Sqlite
