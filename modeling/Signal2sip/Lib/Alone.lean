import Signal2sip.Lib.Locked

/-!
# A program alone

A program that nothing interferes with: every access finds the shared state as the one before left
it, and the mutex is always free. What its environment answers is still up to the run.

`Does p R` says what such a run of `p` can be, as a relation `R` between the state before, what was
asked, the state after and the result. It is proved along the program: a sequence does one relation
after the other (`Does.bind`), and a lock guard changes nothing (`does_locked`).
-/

namespace Locked

variable {σ Q : Type} {A : Q → Type} {α β : Type}

/-- A run that is over. -/
structure Played (σ Q : Type) (A : Q → Type) (α : Type) where
  trace : Trace Q A
  state : σ
  result : α

/-- Play a program alone, with the answers from the `n`-th on. -/
def Prog.alone (answer : Nat → (q : Q) → A q) : Prog σ Q A α → Nat → σ → Played σ Q A α
  | .ret a, _, s => ⟨[], s, a⟩
  | .lock k, n, s => k.alone answer n s
  | .unlock k, n, s => k.alone answer n s
  | .work w k, n, s => (k (w.run s).1).alone answer n (w.run s).2
  | .ask q k, n, s =>
    let r := (k (answer n q)).alone answer (n + 1) s
    ⟨⟨q, answer n q⟩ :: r.trace, r.state, r.result⟩

theorem Prog.alone_bind (answer : Nat → (q : Q) → A q) (p : Prog σ Q A α) (f : α → Prog σ Q A β)
    (n : Nat) (s : σ) :
    (p.bind f).alone answer n s =
      let r := p.alone answer n s
      let r' := (f r.result).alone answer (n + r.trace.length) r.state
      ⟨r.trace ++ r'.trace, r'.state, r'.result⟩ := by
  induction p generalizing n s with
  | ret a => rfl
  | lock k ih => exact ih n s
  | unlock k ih => exact ih n s
  | work w k ih => exact ih (w.run s).1 n (w.run s).2
  | ask q k ih =>
    show Prog.alone answer (.ask q fun a => (k a).bind f) n s = _
    rw [Prog.alone, ih (answer n q) (n + 1) s]
    simp only [Prog.alone, List.cons_append, List.length_cons, Nat.add_right_comm n 1, Nat.add_assoc]

namespace Throwing

variable {ε : Type}

/-- What runs of a program alone can be. -/
abbrev Runs (ε σ Q : Type) (A : Q → Type) (α : Type) :=
  σ → Trace Q A → σ → Except ε α → Prop

def Does (p : Throwing ε σ Q A α) (R : Runs ε σ Q A α) : Prop :=
  ∀ (answer : Nat → (q : Q) → A q) (n : Nat) (s : σ),
    R s (p.run.alone answer n s).trace (p.run.alone answer n s).state (p.run.alone answer n s).result

/-- Nothing is asked, the state stays, and the result is `r`. -/
def Returns (r : Except ε α) : Runs ε σ Q A α := fun s t s' x => t = [] ∧ s' = s ∧ x = r

variable {R R' : Runs ε σ Q A α} {S : α → Runs ε σ Q A β} {p : Throwing ε σ Q A α}

theorem Does.mono (hp : Does p R) (h : ∀ s t s' x, R s t s' x → R' s t s' x) : Does p R' :=
  fun answer n s => h _ _ _ _ (hp answer n s)

theorem does_pure (a : α) : Does (pure a : Throwing ε σ Q A α) (Returns (.ok a)) :=
  fun _ _ _ => ⟨rfl, rfl, rfl⟩

theorem does_throw (e : ε) : Does (throw e : Throwing ε σ Q A α) (Returns (.error e)) :=
  fun _ _ _ => ⟨rfl, rfl, rfl⟩

theorem does_ofExcept (r : Except ε α) : Does (ofExcept r : Throwing ε σ Q A α) (Returns r) :=
  fun _ _ _ => ⟨rfl, rfl, rfl⟩

/-- One relation after the other, and an exception ends it. -/
inductive Then (R : Runs ε σ Q A α) (S : α → Runs ε σ Q A β) : Runs ε σ Q A β
  | error {s t s' e} (h : R s t s' (.error e)) : Then R S s t s' (.error e)
  | ok {s t s' a t' s'' x} (h : R s t s' (.ok a)) (h' : S a s' t' s'' x) : Then R S s (t ++ t') s'' x

theorem Does.bind {f : α → Throwing ε σ Q A β} (hp : Does p R) (hf : ∀ a, Does (f a) (S a)) :
    Does (p >>= f) (Then R S) := by
  intro answer n s
  have hr := hp answer n s
  have hplay : (p >>= f).run.alone answer n s = _ := Prog.alone_bind answer p.run _ n s
  rw [hplay]
  cases hresult : (p.run.alone answer n s).result with
  | error e =>
    rw [hresult] at hr
    simp only [hresult]
    show Then R S s ((p.run.alone answer n s).trace ++ []) _ (.error e)
    rw [List.append_nil]
    exact .error hr
  | ok a =>
    rw [hresult] at hr
    simp only [hresult]
    exact .ok hr (hf a _ _ _)

theorem does_locked {body : Throwing ε σ Q A α} (hbody : Does body R) : Does (locked body) R := by
  intro answer n s
  have hplay : (locked body).run.alone answer n s = body.run.alone answer n s := by
    refine (Prog.alone_bind answer body.run (fun a => .unlock (.ret a)) n s).trans ?_
    simp only [Prog.alone, List.append_nil]
  rw [hplay]
  exact hbody answer n s

/-- An exception that is caught and leaves nothing but a value. -/
theorem Does.tryCatch_pure (hp : Does p R) (a : α) :
    Does (tryCatch p fun _ => pure a)
      (fun s t s' x => (∃ b, R s t s' (.ok b) ∧ x = .ok b) ∨ ∃ e, R s t s' (.error e) ∧ x = .ok a) := by
  intro answer n s
  have hr := hp answer n s
  have hplay : (tryCatch p fun _ => pure a).run.alone answer n s = _ :=
    Prog.alone_bind answer p.run _ n s
  rw [hplay]
  cases hresult : (p.run.alone answer n s).result with
  | error e =>
    rw [hresult] at hr
    simp only [hresult]
    refine .inr ⟨e, ?_, rfl⟩
    show R s ((p.run.alone answer n s).trace ++ []) _ (.error e)
    rw [List.append_nil]
    exact hr
  | ok b =>
    rw [hresult] at hr
    simp only [hresult]
    refine .inl ⟨b, ?_, rfl⟩
    show R s ((p.run.alone answer n s).trace ++ []) _ (.ok b)
    rw [List.append_nil]
    exact hr

end Throwing

end Locked
