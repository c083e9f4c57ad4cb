import Mathlib.Data.List.Basic
import Mathlib.Tactic.Common

/-!
# Computations that record their calls

A computation that may fail, with the calls it made on the way. What was called stays recorded when
the computation fails afterwards, so that a law can say what came to a call and what never did.

`Within` bounds the calls and the failures of a computation. It is proved along the computation, of a
sequence from its parts (`Within.bind`).
-/

universe u v w

structure Recorded (ε : Type u) (κ : Type v) (α : Type w) where
  calls : List κ
  outcome : Except ε α

namespace Recorded

variable {ε : Type u} {κ : Type v} {α β : Type w}

/-- The second computation starts when the first has returned. -/
def andThen (p : Recorded ε κ α) (f : α → Recorded ε κ β) : Recorded ε κ β :=
  match p.outcome with
  | .ok a => ⟨p.calls ++ (f a).calls, (f a).outcome⟩
  | .error e => ⟨p.calls, .error e⟩

instance : Monad (Recorded ε κ) where
  pure a := ⟨[], .ok a⟩
  bind := andThen

def fail (e : ε) : Recorded ε κ α := ⟨[], .error e⟩

def failIf (c : Prop) [Decidable c] (e : ε) : Recorded ε κ PUnit := if c then fail e else pure ⟨⟩

/-- One call and what came of it. -/
def call (c : κ) (x : Except ε α) : Recorded ε κ α := ⟨[c], x⟩

/-- A computation that makes no call. -/
def ofExcept (x : Except ε α) : Recorded ε κ α := ⟨[], x⟩

variable {p : Recorded ε κ α} {f : α → Recorded ε κ β} {a : α} {e : ε}

@[simp] theorem pure_bind (a : α) (f : α → Recorded ε κ β) : (pure a >>= f) = f a := rfl

@[simp] theorem fail_bind (e : ε) (f : α → Recorded ε κ β) : (fail e >>= f) = fail e := rfl

theorem failIf_pos {c : Prop} [Decidable c] (h : c) : (failIf c e : Recorded ε κ _) = fail e := if_pos h

theorem failIf_neg {c : Prop} [Decidable c] (h : ¬ c) : (failIf c e : Recorded ε κ _) = pure ⟨⟩ :=
  if_neg h

theorem bind_of_ok (h : p.outcome = .ok a) :
    (p >>= f) = ⟨p.calls ++ (f a).calls, (f a).outcome⟩ := by
  change andThen p f = _
  rw [andThen, h]

theorem bind_of_error (h : p.outcome = .error e) : (p >>= f) = ⟨p.calls, .error e⟩ := by
  change andThen p f = _
  rw [andThen, h]

/-- A sequence returns when both its parts do. -/
theorem bind_outcome_ok_iff {b : β} :
    (p >>= f).outcome = .ok b ↔ ∃ a, p.outcome = .ok a ∧ (f a).outcome = .ok b := by
  cases h : p.outcome with
  | ok a => simp [bind_of_ok h]
  | error e => simp [bind_of_error h]

/-- A sequence makes the calls of its first part, and those of the second when the first returns. -/
theorem bind_calls (p : Recorded ε κ α) (f : α → Recorded ε κ β) :
    (p >>= f).calls = p.calls ∨
      ∃ a, p.outcome = .ok a ∧ (p >>= f).calls = p.calls ++ (f a).calls := by
  cases h : p.outcome with
  | ok a => exact Or.inr ⟨a, rfl, by rw [bind_of_ok h]⟩
  | error e => exact Or.inl (by rw [bind_of_error h])

/-- A second part that makes no call leaves those of the first. -/
theorem bind_calls_of_silent (hf : ∀ a, (f a).calls = []) : (p >>= f).calls = p.calls := by
  rcases bind_calls p f with h | ⟨a, -, h⟩
  · exact h
  · rw [h, hf, List.append_nil]

@[simp] theorem failIf_outcome_ok_iff {c : Prop} [Decidable c] {u : PUnit} :
    (failIf c e : Recorded ε κ _).outcome = .ok u ↔ ¬ c := by
  by_cases h : c
  · rw [failIf_pos h]
    exact ⟨fun hok => (nomatch hok), fun hn => absurd h hn⟩
  · rw [failIf_neg h]
    exact ⟨fun _ => h, fun _ => rfl⟩

@[simp] theorem failIf_calls {c : Prop} [Decidable c] : (failIf c e : Recorded ε κ _).calls = [] := by
  by_cases h : c
  · rw [failIf_pos h]
    rfl
  · rw [failIf_neg h]
    rfl

/-- What is called, and what it fails with. -/
structure Within (C : κ → Prop) (E : ε → Prop) (p : Recorded ε κ α) : Prop where
  calls : ∀ c ∈ p.calls, C c
  fails : ∀ e, p.outcome = .error e → E e

variable {C : κ → Prop} {E : ε → Prop}

theorem within_pure (a : α) : Within C E (pure a : Recorded ε κ α) where
  calls _ hc := absurd hc List.not_mem_nil
  fails _ he := nomatch he

theorem within_fail (he : E e) : Within C E (fail e : Recorded ε κ α) where
  calls _ hc := absurd hc List.not_mem_nil
  fails _ he' := Except.error.inj he' ▸ he

theorem within_failIf {c : Prop} [Decidable c] (he : E e) :
    Within C E (failIf c e : Recorded ε κ _) := by
  by_cases h : c
  · rw [failIf_pos h]
    exact within_fail he
  · rw [failIf_neg h]
    exact within_pure _

theorem within_call {c : κ} {x : Except ε α} (hc : C c) (hx : ∀ e, x = .error e → E e) :
    Within C E (call c x) where
  calls _ hc' := List.mem_singleton.mp hc' ▸ hc
  fails := hx

theorem Within.bind (hp : Within C E p) (hf : ∀ a, p.outcome = .ok a → Within C E (f a)) :
    Within C E (p >>= f) := by
  cases h : p.outcome with
  | ok a =>
    rw [bind_of_ok h]
    refine ⟨fun c hc => ?_, (hf a h).fails⟩
    exact (List.mem_append.mp hc).elim (hp.calls c) ((hf a h).calls c)
  | error e =>
    rw [bind_of_error h]
    exact ⟨hp.calls, fun e' he' => hp.fails e' (h.trans (congrArg Except.error (Except.error.inj he')))⟩

end Recorded
