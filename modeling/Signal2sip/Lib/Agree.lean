import Signal2sip.Lib.Run
import Signal2sip.Lib.Sqlite

/-!
# Two clients that cannot be told apart

`Agree R` relates two statements, or two functions made of statements, that a caller cannot tell
apart but by what `R` allows their values to differ in: the engine's steps are the same, both raise
the same exception or both answer, and then `R` relates the answers. It is what a simulation between
two descriptions of one file, or between two files, has to show of each call.

The relation passes through the statement forms, so an agreement of two functions is shown along
their text: the rows or effects of each statement agree, and so does what follows on related values.

A call that raises leaves the state it started from (`Outcome.after`), and `succeeded` are the calls
of a run that did not raise.
-/

namespace Sqlite

variable {ξ α β γ δ : Type*}

/-- The same exception, or related values. -/
inductive SameAnswer (R : α → β → Prop) : Except ξ α → Except ξ β → Prop
  | error (x : ξ) : SameAnswer R (.error x) (.error x)
  | ok {a : α} {b : β} (h : R a b) : SameAnswer R (.ok a) (.ok b)

/-- The same steps, and the same exception or related values. -/
structure Agree (R : α → β → Prop) (o : Outcome ξ α) (o' : Outcome ξ β) : Prop where
  steps : o.steps = o'.steps
  value : SameAnswer R o.value o'.value

namespace SameAnswer

theorem map {R : α → β → Prop} {S : γ → δ → Prop} {f : α → γ} {g : β → δ}
    (h : ∀ a b, R a b → S (f a) (g b)) {x : Except ξ α} {y : Except ξ β} (hxy : SameAnswer R x y) :
    SameAnswer S (x.map f) (y.map g) := by
  cases hxy with
  | error x => exact .error x
  | ok hab => exact .ok (h _ _ hab)

/-- Answers that are related by equality are equal. -/
theorem eq_of_answers {x y : Except ξ α} (h : SameAnswer (· = ·) x y) : x = y := by
  cases h with
  | error x => rfl
  | ok hab => rw [hab]

/-- The one answer is made of the other. -/
theorem eq_map {g : β → α} {x : Except ξ α} {y : Except ξ β}
    (h : SameAnswer (fun a b => a = g b) x y) : x = y.map g := by
  cases h with
  | error x => rfl
  | ok hab => rw [hab, Except.map]

theorem refl {R : α → α → Prop} (h : ∀ a, R a a) (x : Except ξ α) : SameAnswer R x x := by
  cases x with
  | error x => exact .error x
  | ok a => exact .ok (h a)

end SameAnswer

namespace Agree

theorem refl {R : α → α → Prop} (h : ∀ a, R a a) (o : Outcome ξ α) : Agree R o o :=
  ⟨rfl, .refl h o.value⟩

theorem pure {R : α → β → Prop} {a : α} {b : β} (h : R a b) :
    Agree R (.pure a : Outcome ξ α) (.pure b) :=
  ⟨rfl, .ok h⟩

theorem throw {R : α → β → Prop} (x : ξ) : Agree R (.throw x) (.throw x) := ⟨rfl, .error x⟩

theorem map {R : α → β → Prop} {S : γ → δ → Prop} {f : α → γ} {g : β → δ}
    (h : ∀ a b, R a b → S (f a) (g b)) {o : Outcome ξ α} {o' : Outcome ξ β} (hoo : Agree R o o') :
    Agree S (o.map f) (o'.map g) :=
  ⟨hoo.steps, hoo.value.map h⟩

/-- Agreement goes on when what follows agrees on related values. -/
theorem bind {R : α → β → Prop} {S : γ → δ → Prop} {k : α → Outcome ξ γ} {k' : β → Outcome ξ δ}
    (h : ∀ a b, R a b → Agree S (k a) (k' b)) {o : Outcome ξ α} {o' : Outcome ξ β}
    (hoo : Agree R o o') : Agree S (o.bind k) (o'.bind k') := by
  obtain ⟨steps, value⟩ := o
  obtain ⟨steps', value'⟩ := o'
  obtain ⟨hsteps, hvalue⟩ := hoo
  cases hvalue with
  | error x => exact ⟨hsteps, .error x⟩
  | ok hab =>
    obtain ⟨hrest, hanswer⟩ := h _ _ hab
    refine ⟨?_, hanswer⟩
    simp only [Outcome.bind] at hsteps hrest ⊢
    rw [hsteps, hrest]

/-- Functions that agree by equality are the same. -/
theorem eq {o o' : Outcome ξ α} (h : Agree (· = ·) o o') : o = o' := by
  obtain ⟨steps, value⟩ := o
  obtain ⟨steps', value'⟩ := o'
  obtain ⟨rfl, hvalue⟩ := h
  rw [show value = value' from hvalue.eq_of_answers]

section Statements

variable {raise : Error → ξ} {R : α → β → Prop}

/-- A one-row lookup sees the first row of either list. -/
theorem firstRow {rows : List α} {rows' : List β} (h : Option.Rel R rows.head? rows'.head?)
    (f : Faults) : Agree (Option.Rel R) (firstRow raise f rows) (firstRow raise f rows') := by
  unfold Sqlite.firstRow
  cases f.prepare with
  | some e => exact ⟨rfl, .error _⟩
  | none =>
    cases f.step 0 with
    | some e => exact ⟨rfl, .ok .none⟩
    | none =>
      cases rows with
      | nil =>
        cases rows' with
        | nil => exact ⟨rfl, .ok .none⟩
        | cons b bs => cases h
      | cons a as =>
        cases rows' with
        | nil => cases h
        | cons b bs => exact ⟨rfl, .ok h⟩

/-- A write whose effects agree. -/
theorem execute {failed : Error → ξ} {effect : Except Error α} {effect' : Except Error β}
    (h : SameAnswer R effect effect') (f : Faults) :
    Agree R (execute raise failed f effect) (execute raise failed f effect') := by
  unfold Sqlite.execute
  cases f.prepare with
  | some e => exact ⟨rfl, .error _⟩
  | none =>
    cases f.step 0 with
    | some e => exact ⟨rfl, .error _⟩
    | none =>
      cases h with
      | error e => exact ⟨rfl, .error _⟩
      | ok hab => exact ⟨rfl, .ok hab⟩

end Statements

end Agree

/-! ## Runs of calls that can raise -/

section Calls

variable {σ τ ε : Type*}

/-- The state after a write: what it returned, or the state before it if it raised. -/
def Outcome.after (o : Outcome ξ σ) (s : σ) : σ :=
  match o.value with
  | .ok s' => s'
  | .error _ => s

theorem Agree.after {R : σ → τ → Prop} {o : Outcome ξ σ} {o' : Outcome ξ τ} (h : Agree R o o')
    {s : σ} {t : τ} (hst : R s t) : R (o.after s) (o'.after t) := by
  obtain ⟨steps, value⟩ := o
  obtain ⟨steps', value'⟩ := o'
  obtain ⟨-, hvalue⟩ := h
  cases hvalue with
  | error x => exact hst
  | ok hab => exact hab

/-- Whether a call answered. -/
def Outcome.answered (o : Outcome ξ σ) : Bool := o.value.isOk

theorem Agree.answered {R : σ → τ → Prop} {o : Outcome ξ σ} {o' : Outcome ξ τ} (h : Agree R o o') :
    o.answered = o'.answered := by
  obtain ⟨steps, value⟩ := o
  obtain ⟨steps', value'⟩ := o'
  obtain ⟨-, hvalue⟩ := h
  cases hvalue <;> rfl

/-- The calls of a run that answered, in order. -/
def succeeded (call : σ → ε → Outcome ξ σ) : σ → List ε → List ε
  | _, [] => []
  | s, e :: es =>
    if (call s e).answered then e :: succeeded call ((call s e).after s) es
    else succeeded call ((call s e).after s) es

theorem succeeded_append_singleton (call : σ → ε → Outcome ξ σ) (s : σ) (es : List ε) (e : ε) :
    succeeded call s (es ++ [e]) =
      succeeded call s es ++
        if (call (Runs.final (fun s e => (call s e).after s) s es) e).answered then [e] else [] := by
  induction es generalizing s with
  | nil => rfl
  | cons e' es ih =>
    simp only [List.cons_append, succeeded, ih, Runs.final_cons]
    split <;> rfl

/-- Two systems whose calls agree end every run of calls in related states, and the same calls
answer. -/
theorem Agree.run {R : σ → τ → Prop} {call : σ → ε → Outcome ξ σ} {call' : τ → ε → Outcome ξ τ}
    (h : ∀ s t e, R s t → Agree R (call s e) (call' t e)) {s : σ} {t : τ} (hst : R s t)
    (es : List ε) :
    R (Runs.final (fun s e => (call s e).after s) s es)
        (Runs.final (fun t e => (call' t e).after t) t es) ∧
      succeeded call s es = succeeded call' t es := by
  induction es generalizing s t with
  | nil => exact ⟨hst, rfl⟩
  | cons e es ih =>
    obtain ⟨hfinal, hsucceeded⟩ := ih ((h s t e hst).after hst)
    refine ⟨hfinal, ?_⟩
    rw [succeeded, succeeded, (h s t e hst).answered, hsucceeded]

end Calls

end Sqlite
