import Mathlib.Data.List.Basic

/-!
# Runs of an event-driven system

A system is a step function from a state and an event to the next state. A run is a list of
events, so nondeterminism lives in the events: whatever an environment may choose is written in
the event that carries the choice.

`Along step P s es` says that every step of the run `es` from `s` meets `P`, a predicate read at
the state before the step and the event. `Always step I s es` says that every state the run visits
satisfies `I`. The laws below are the induction on runs, packaged once:

- `Always.of_along`: a predicate that each guarded step preserves holds in every state visited;
- `along_congr`: two step predicates that agree wherever an invariant holds, and whose truth keeps
  the invariant, hold along the same runs;
- `always_congr`: a state predicate that a step keeps exactly when a guard holds is an invariant of
  exactly the guarded runs;
- `exists_final_of_along`: a system that can follow each guarded step of another can follow its guarded
  runs.

`along_congr` and `always_congr` are what turns a fact about one step into an exact fact about runs.
-/

namespace Runs

variable {σ ε : Type*}

/-- The state a run ends in. -/
def final (step : σ → ε → σ) (s : σ) (es : List ε) : σ := es.foldl step s

@[simp] theorem final_nil (step : σ → ε → σ) (s : σ) : final step s [] = s := rfl

@[simp] theorem final_cons (step : σ → ε → σ) (s : σ) (e : ε) (es : List ε) :
    final step s (e :: es) = final step (step s e) es := rfl

theorem final_append (step : σ → ε → σ) (s : σ) (es fs : List ε) :
    final step s (es ++ fs) = final step (final step s es) fs := List.foldl_append

/-- Every step of the run meets `P` at the state it is taken from. -/
def Along (step : σ → ε → σ) (P : σ → ε → Prop) : σ → List ε → Prop
  | _, [] => True
  | s, e :: es => P s e ∧ Along step P (step s e) es

/-- Every state the run visits, the first and the last included, satisfies `I`. -/
def Always (step : σ → ε → σ) (I : σ → Prop) : σ → List ε → Prop
  | s, [] => I s
  | s, e :: es => I s ∧ Always step I (step s e) es

variable {step : σ → ε → σ}

@[simp] theorem along_nil {P : σ → ε → Prop} {s : σ} : Along step P s [] := trivial

@[simp] theorem along_cons {P : σ → ε → Prop} {s : σ} {e : ε} {es : List ε} :
    Along step P s (e :: es) ↔ P s e ∧ Along step P (step s e) es := Iff.rfl

instance decidableAlong {P : σ → ε → Prop} [∀ s e, Decidable (P s e)] :
    ∀ (s : σ) (es : List ε), Decidable (Along step P s es)
  | _, [] => isTrue trivial
  | s, e :: es =>
    have : Decidable (Along step P (step s e) es) := decidableAlong (step s e) es
    inferInstanceAs (Decidable (P s e ∧ Along step P (step s e) es))

theorem along_append {P : σ → ε → Prop} {s : σ} {es fs : List ε} :
    Along step P s (es ++ fs) ↔ Along step P s es ∧ Along step P (final step s es) fs := by
  induction es generalizing s with
  | nil => simp
  | cons e es ih => simp only [List.cons_append, along_cons, ih, final_cons, and_assoc]

/-- What each step of a run meets is met at the end of every prefix that a step follows. -/
theorem along_iff_forall_prefix {P : σ → ε → Prop} {s : σ} {es : List ε} :
    Along step P s es ↔ ∀ pre e post, es = pre ++ e :: post → P (final step s pre) e := by
  constructor
  · rintro h pre e post rfl
    exact (along_append.mp h).2.1
  · intro h
    induction es generalizing s with
    | nil => trivial
    | cons e es ih =>
      refine ⟨h [] e es rfl, ih fun pre e' post heq => ?_⟩
      exact h (e :: pre) e' post (by rw [heq, List.cons_append])

theorem Always.head {I : σ → Prop} {s : σ} {es : List ε} (h : Always step I s es) : I s := by
  cases es with
  | nil => exact h
  | cons e es => exact h.1

/-- An invariant of a run is one of every prefix's last state. -/
theorem always_iff_forall_prefix {I : σ → Prop} {s : σ} {es : List ε} :
    Always step I s es ↔ ∀ pre, pre <+: es → I (final step s pre) := by
  induction es generalizing s with
  | nil => simp [Always, List.prefix_nil]
  | cons e es ih =>
    constructor
    · rintro ⟨h, ht⟩ pre hpre
      cases pre with
      | nil => exact h
      | cons e' pre =>
        obtain ⟨rfl, htail⟩ := List.cons_prefix_cons.mp hpre
        exact ih.mp ht pre htail
    · intro h
      refine ⟨h [] List.nil_prefix, ih.mpr fun pre hpre => ?_⟩
      exact h (e :: pre) (List.cons_prefix_cons.mpr ⟨rfl, hpre⟩)

/-- The run induction: what a guarded step preserves, a guarded run keeps in every state. -/
theorem Always.of_along {P : σ → ε → Prop} {I : σ → Prop}
    (keep : ∀ s e, I s → P s e → I (step s e)) {s : σ} {es : List ε} (hs : I s)
    (h : Along step P s es) : Always step I s es := by
  induction es generalizing s with
  | nil => exact hs
  | cons e es ih => exact ⟨hs, ih (keep s e hs h.1) h.2⟩

/-- What every step preserves holds in every state of every run. -/
theorem Always.of_keep {I : σ → Prop} (keep : ∀ s e, I s → I (step s e)) {s : σ} {es : List ε}
    (hs : I s) : Always step I s es := by
  induction es generalizing s with
  | nil => exact hs
  | cons e es ih => exact ⟨hs, ih (keep s e hs)⟩

theorem Always.imp {I J : σ → Prop} (hij : ∀ s, I s → J s) {s : σ} {es : List ε}
    (h : Always step I s es) : Always step J s es := by
  induction es generalizing s with
  | nil => exact hij s h
  | cons e es ih => exact ⟨hij s h.1, ih h.2⟩

theorem Always.last {I : σ → Prop} {s : σ} {es : List ε} (h : Always step I s es) :
    I (final step s es) := by
  induction es generalizing s with
  | nil => exact h
  | cons e es ih => exact ih h.2

/-- A step predicate that follows from another wherever an invariant holds, along runs. -/
theorem Along.imp_of_inv {P Q : σ → ε → Prop} {I : σ → Prop}
    (keep : ∀ s e, I s → P s e → I (step s e)) (imp : ∀ s e, I s → P s e → Q s e)
    {s : σ} {es : List ε} (hs : I s) (h : Along step P s es) : Along step Q s es := by
  induction es generalizing s with
  | nil => trivial
  | cons e es ih => exact ⟨imp s e hs h.1, ih (keep s e hs h.1) h.2⟩

/-- Step predicates that agree under an invariant hold along the same runs, when either one of
them keeps the invariant. -/
theorem along_congr {P Q : σ → ε → Prop} {I : σ → Prop}
    (keep : ∀ s e, I s → Q s e → I (step s e)) (agree : ∀ s e, I s → (P s e ↔ Q s e))
    {s : σ} {es : List ε} (hs : I s) : Along step P s es ↔ Along step Q s es :=
  ⟨fun h => h.imp_of_inv (fun s e hi hp => keep s e hi ((agree s e hi).mp hp))
      (fun s e hi hp => (agree s e hi).mp hp) hs,
    fun h => h.imp_of_inv keep (fun s e hi hq => (agree s e hi).mpr hq) hs⟩

/-- An invariant under whose truth a step keeps `J` exactly when its guard holds: `J` is an
invariant of exactly the guarded runs. `I` carries whatever else the equivalence needs. -/
theorem always_congr {Q : σ → ε → Prop} {I J : σ → Prop}
    (keep : ∀ s e, I s → J s → Q s e → I (step s e))
    (agree : ∀ s e, I s → J s → (J (step s e) ↔ Q s e))
    {s : σ} {es : List ε} (hi : I s) (hj : J s) : Always step J s es ↔ Along step Q s es := by
  induction es generalizing s with
  | nil => simp [Always, hj]
  | cons e es ih =>
    constructor
    · rintro ⟨-, ht⟩
      have hq := (agree s e hi hj).mp ht.head
      exact ⟨hq, (ih (keep s e hi hj hq) ht.head).mp ht⟩
    · rintro ⟨hq, ht⟩
      have hj' := (agree s e hi hj).mpr hq
      exact ⟨hj, (ih (keep s e hi hj hq) hj').mpr ht⟩

/-- Where another system can follow each guarded step in steps of its own, none included, it can follow
a guarded run. -/
theorem exists_final_of_along {σ' ε' : Type*} {step' : σ' → ε' → σ'} {P : σ → ε → Prop}
    {R : σ → σ' → Prop} (follow : ∀ s t e, R s t → P s e → ∃ fs, R (step s e) (final step' t fs))
    {s : σ} {t : σ'} {es : List ε} (hst : R s t) (h : Along step P s es) :
    ∃ fs, R (final step s es) (final step' t fs) := by
  induction es generalizing s t with
  | nil => exact ⟨[], hst⟩
  | cons e es ih =>
    obtain ⟨first, hfirst⟩ := follow s t e hst h.1
    obtain ⟨more, hmore⟩ := ih hfirst h.2
    refine ⟨first ++ more, ?_⟩
    rw [final_append]
    exact hmore

end Runs
