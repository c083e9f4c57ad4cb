import Mathlib.Logic.Function.Basic
import Signal2sip.Lib.Run

/-!
# Programs around one mutex

Threads share a state that one mutex guards. A program locks and unlocks the mutex, works on the
shared state one access at a time, and asks its environment for whatever else it needs: a clock, a
server, another library. What the environment answers is up to the run.

`Leads ok h p h'` says that a program, entered with the mutex held or not (`h`), keeps to the rules:
it locks only a mutex that it does not hold, unlocks and works only while it holds it, asks only what
`ok` allows with the mutex as it then is, and leaves the mutex as `h'` says. It is proved along the
program: of a sequence from its parts (`Leads.bind`), of a guarded section from its body
(`leads_locked`).

When every program keeps to the rules:

- `disciplined_always`: in every state of every run, nobody who holds the mutex asks for it again, or
  for anything that is not allowed;
- `serial`: every run is a run in which each piece of work is done at once, except that the holder
  of the mutex may be inside one; so the shared state is what its pieces of work make of it one
  after the other (`shared_eq_effects`).
-/

namespace Locked

/-! ## Work and programs -/

/-- Work on a shared state. An access leaves the next state, and what follows may depend on the one
it found. -/
inductive Work (σ β : Type) : Type
  | done (result : β)
  | access (next : σ → σ) (rest : σ → Work σ β)

/-- All of the work at once: its result and the state it leaves. -/
def Work.run {σ β : Type} : Work σ β → σ → β × σ
  | .done result, s => (result, s)
  | .access next rest, s => (rest s).run (next s)

/-- A program that returns an `α`. -/
inductive Prog (σ Q : Type) (A : Q → Type) (α : Type) : Type 1
  | ret (a : α)
  | lock (k : Prog σ Q A α)
  | unlock (k : Prog σ Q A α)
  | work {β : Type} (w : Work σ β) (k : β → Prog σ Q A α)
  | ask (q : Q) (k : A q → Prog σ Q A α)

variable {σ Q : Type} {A : Q → Type} {α β : Type}

namespace Prog

protected def bind : Prog σ Q A α → (α → Prog σ Q A β) → Prog σ Q A β
  | .ret a, f => f a
  | .lock k, f => .lock (k.bind f)
  | .unlock k, f => .unlock (k.bind f)
  | .work w k, f => .work w fun b => (k b).bind f
  | .ask q k, f => .ask q fun a => (k a).bind f

instance : Monad (Prog σ Q A) where
  pure := .ret
  bind := Prog.bind

/-- The body under a lock guard. -/
def locked (body : Prog σ Q A α) : Prog σ Q A α :=
  .lock (body.bind fun a => .unlock (.ret a))

/-- Keeping to the rules from one end of a program to the other. -/
def Leads (ok : Bool → Q → Prop) : Bool → Prog σ Q A α → Bool → Prop
  | h, .ret _, h' => h = h'
  | h, .lock k, h' => h = false ∧ Leads ok true k h'
  | h, .unlock k, h' => h = true ∧ Leads ok false k h'
  | h, .work _ k, h' => h = true ∧ ∀ b, Leads ok true (k b) h'
  | h, .ask q k, h' => ok h q ∧ ∀ a, Leads ok h (k a) h'

variable {ok ok' : Bool → Q → Prop} {h h' h'' : Bool}

theorem Leads.mono {p : Prog σ Q A α} (hok : ∀ h q, ok h q → ok' h q) (hp : Leads ok h p h') :
    Leads ok' h p h' := by
  induction p generalizing h with
  | ret a => exact hp
  | lock k ih => exact ⟨hp.1, ih hp.2⟩
  | unlock k ih => exact ⟨hp.1, ih hp.2⟩
  | work w k ih => exact ⟨hp.1, fun b => ih b (hp.2 b)⟩
  | ask q k ih => exact ⟨hok h q hp.1, fun a => ih a (hp.2 a)⟩

theorem Leads.bind {p : Prog σ Q A α} {f : α → Prog σ Q A β} (hp : Leads ok h p h')
    (hf : ∀ a, Leads ok h' (f a) h'') : Leads ok h (p.bind f) h'' := by
  induction p generalizing h with
  | ret a =>
    cases hp
    exact hf a
  | lock k ih => exact ⟨hp.1, ih hp.2⟩
  | unlock k ih => exact ⟨hp.1, ih hp.2⟩
  | work w k ih => exact ⟨hp.1, fun b => ih b (hp.2 b)⟩
  | ask q k ih => exact ⟨hp.1, fun a => ih a (hp.2 a)⟩

theorem leads_locked {body : Prog σ Q A α} (hbody : Leads ok true body true) :
    Leads ok false (locked body) false :=
  ⟨rfl, hbody.bind fun _ => ⟨rfl, rfl⟩⟩

end Prog

/-! ## Programs that throw -/

/-- A program that may end in an exception. -/
abbrev Throwing (ε σ Q : Type) (A : Q → Type) := ExceptT ε (Prog σ Q A)

namespace Throwing

variable {ε : Type} {ok ok' : Bool → Q → Prop} {h : Bool}

/-- The lock guard unlocks on an exception too. -/
def locked (body : Throwing ε σ Q A α) : Throwing ε σ Q A α := Prog.locked body.run

/-- Keeping to the rules, with the mutex at either end as it was at the start. -/
def Keeps (ok : Bool → Q → Prop) (h : Bool) (p : Throwing ε σ Q A α) : Prop := p.run.Leads ok h h

theorem Keeps.mono {p : Throwing ε σ Q A α} (hok : ∀ h q, ok h q → ok' h q) (hp : Keeps ok h p) :
    Keeps ok' h p := Prog.Leads.mono hok hp

theorem keeps_pure (a : α) : Keeps ok h (pure a : Throwing ε σ Q A α) := rfl

theorem keeps_throw (e : ε) : Keeps ok h (throw e : Throwing ε σ Q A α) := rfl

/-- A computation that asks nothing. -/
def ofExcept (x : Except ε α) : Throwing ε σ Q A α := ExceptT.mk (.ret x)

theorem keeps_ofExcept (x : Except ε α) : Keeps ok h (ofExcept x : Throwing ε σ Q A α) := rfl

theorem Keeps.bind {p : Throwing ε σ Q A α} {f : α → Throwing ε σ Q A β} (hp : Keeps ok h p)
    (hf : ∀ a, Keeps ok h (f a)) : Keeps ok h (p >>= f) := by
  apply Prog.Leads.bind hp
  intro result
  cases result with
  | ok a => exact hf a
  | error e => rfl

theorem Keeps.tryCatch {p : Throwing ε σ Q A α} {f : ε → Throwing ε σ Q A α} (hp : Keeps ok h p)
    (hf : ∀ e, Keeps ok h (f e)) : Keeps ok h (tryCatch p f) := by
  apply Prog.Leads.bind hp
  intro result
  cases result with
  | ok a => rfl
  | error e => exact hf e

theorem keeps_locked {body : Throwing ε σ Q A α} (hbody : Keeps ok true body) :
    Keeps ok false (locked body) := Prog.leads_locked hbody

end Throwing

/-! ## A program by itself -/

/-- What a program meets: the shared state at each of its pieces of work, and the answers. -/
structure Oracle (σ Q : Type) (A : Q → Type) where
  state : Nat → σ
  answer : Nat → (q : Q) → A q

/-- What a program asked, and what it was answered. -/
abbrev Trace (Q : Type) (A : Q → Type) := List (Sigma A)

/-- Play a program from a turn on: its trace, the turn after its last one, and its result. -/
def Prog.play (o : Oracle σ Q A) : Prog σ Q A α → Nat → Trace Q A × Nat × α
  | .ret a, n => ([], n, a)
  | .lock k, n => k.play o n
  | .unlock k, n => k.play o n
  | .work w k, n => (k (w.run (o.state n)).1).play o (n + 1)
  | .ask q k, n =>
    let r := (k (o.answer n q)).play o (n + 1)
    (⟨q, o.answer n q⟩ :: r.1, r.2)

/-- What a program that keeps to the rules asks. -/
theorem Prog.Leads.asked {ok : Bool → Q → Prop} {h h' : Bool} {p : Prog σ Q A α}
    (hp : p.Leads ok h h') (o : Oracle σ Q A) (n : Nat) :
    ∀ e ∈ (p.play o n).1, ∃ held, ok held e.1 := by
  induction p generalizing h n with
  | ret a => exact fun e he => nomatch he
  | lock k ih => exact ih hp.2 n
  | unlock k ih => exact ih hp.2 n
  | work w k ih => exact ih _ (hp.2 _) (n + 1)
  | ask q k ih =>
    intro e he
    rcases List.mem_cons.mp he with rfl | htail
    · exact ⟨h, hp.1⟩
    · exact ih _ (hp.2 _) (n + 1) e htail

theorem Prog.play_bind (o : Oracle σ Q A) (p : Prog σ Q A α) (f : α → Prog σ Q A β) (n : Nat) :
    (p.bind f).play o n =
      ((p.play o n).1 ++ ((f (p.play o n).2.2).play o (p.play o n).2.1).1,
        ((f (p.play o n).2.2).play o (p.play o n).2.1).2) := by
  induction p generalizing n with
  | ret a => rfl
  | lock k ih => exact ih n
  | unlock k ih => exact ih n
  | work w k ih => exact ih (w.run (o.state n)).1 (n + 1)
  | ask q k ih =>
    show Prog.play o (.ask q fun a => (k a).bind f) n = _
    rw [Prog.play, ih (o.answer n q) (n + 1)]
    rfl

namespace Throwing

variable {ε : Type} {o : Oracle σ Q A} {p : Throwing ε σ Q A α} {n : Nat}

/-- A program that throws ends there. -/
theorem play_bind_error {e : ε} (h : (p.run.play o n).2.2 = .error e)
    (f : α → Throwing ε σ Q A β) :
    (p >>= f).run.play o n = ((p.run.play o n).1, (p.run.play o n).2.1, .error e) := by
  refine (Prog.play_bind o p.run _ n).trans ?_
  rw [h]
  show ((p.run.play o n).1 ++ [], _, _) = _
  rw [List.append_nil]

/-- Otherwise what follows it goes on from its result. -/
theorem play_bind_ok {a : α} (h : (p.run.play o n).2.2 = .ok a) (f : α → Throwing ε σ Q A β) :
    (p >>= f).run.play o n =
      ((p.run.play o n).1 ++ ((f a).run.play o (p.run.play o n).2.1).1,
        ((f a).run.play o (p.run.play o n).2.1).2) := by
  refine (Prog.play_bind o p.run _ n).trans ?_
  rw [h]
  rfl

/-- A sequence that does not throw, from its parts. -/
theorem play_bind_eq_ok {f : α → Throwing ε σ Q A β} {b : β}
    (h : ((p >>= f).run.play o n).2.2 = .ok b) :
    ∃ a, (p.run.play o n).2.2 = .ok a ∧ ((f a).run.play o (p.run.play o n).2.1).2.2 = .ok b := by
  cases hresult : (p.run.play o n).2.2 with
  | error e =>
    rw [play_bind_error hresult] at h
    cases h
  | ok a =>
    rw [play_bind_ok hresult] at h
    exact ⟨a, rfl, h⟩

/-- The mutex does not show. -/
theorem play_locked (body : Throwing ε σ Q A α) (o : Oracle σ Q A) (n : Nat) :
    (locked body).run.play o n = body.run.play o n := by
  refine (Prog.play_bind o body.run (fun a => .unlock (.ret a)) n).trans ?_
  simp only [Prog.play, List.append_nil]

theorem Keeps.asked {ok : Bool → Q → Prop} {h : Bool} (hp : Keeps ok h p) :
    ∀ e ∈ (p.run.play o n).1, ∃ held, ok held e.1 := Prog.Leads.asked hp o n

/-- What a sequence asks: what its parts ask. -/
theorem asked_bind {ok : Bool → Q → Prop} {h : Bool} {f : α → Throwing ε σ Q A β}
    (hp : Keeps ok h p)
    (hf : ∀ a, (p.run.play o n).2.2 = .ok a →
      ∀ e ∈ ((f a).run.play o (p.run.play o n).2.1).1, ∃ held, ok held e.1) :
    ∀ e ∈ ((p >>= f).run.play o n).1, ∃ held, ok held e.1 := by
  cases hresult : (p.run.play o n).2.2 with
  | error e =>
    rw [play_bind_error hresult]
    exact hp.asked
  | ok a =>
    rw [play_bind_ok hresult]
    intro e he
    rcases List.mem_append.mp he with hpart | hrest
    · exact hp.asked e hpart
    · exact hf a hresult e hrest

end Throwing

/-! ## Threads -/

/-- The shared state, the thread that holds the mutex, and what each thread has still to run. -/
structure System (σ Q : Type) (A : Q → Type) where
  shared : σ
  holder : Option Nat
  threads : Nat → Prog σ Q A Unit

/-- A thread that has nothing to run takes a job; a thread takes its next step, with the answer if
it asks for one. -/
inductive Event (J Q : Type) (A : Q → Type)
  | start (thread : Nat) (job : J)
  | run (thread : Nat) (answer : (q : Q) → A q)

/-- What a step of a thread at a piece of work does. -/
abbrev Working (σ Q : Type) (A : Q → Type) :=
  {β : Type} → Work σ β → (β → Prog σ Q A Unit) → σ → σ × Prog σ Q A Unit

/-- One access of the work. -/
def oneAccess : Working σ Q A
  | _, .done b, k, s => (s, k b)
  | _, .access next rest, k, s => (next s, .work (rest s) k)

/-- All of the work. -/
def wholeWork : Working σ Q A := fun w k s => ((w.run s).2, k (w.run s).1)

namespace System

variable {J : Type} (code : J → Prog σ Q A Unit)

def put (S : System σ Q A) (i : Nat) (p : Prog σ Q A Unit) : System σ Q A :=
  { S with threads := Function.update S.threads i p }

@[simp] theorem put_holder (S : System σ Q A) (i : Nat) (p : Prog σ Q A Unit) :
    (S.put i p).holder = S.holder := rfl

@[simp] theorem put_self (S : System σ Q A) (i : Nat) (p : Prog σ Q A Unit) :
    (S.put i p).threads i = p := by
  simp only [put, Function.update_self]

theorem put_ne (S : System σ Q A) {i j : Nat} (h : j ≠ i) (p : Prog σ Q A Unit) :
    (S.put i p).threads j = S.threads j := by
  simp only [put, Function.update_of_ne h]

/-- One event. A thread that wants a mutex which is held stays where it is. -/
def stepWith (working : Working σ Q A) (S : System σ Q A) : Event J Q A → System σ Q A
  | .start i job =>
    match S.threads i with
    | .ret _ => S.put i (code job)
    | _ => S
  | .run i answer =>
    match S.threads i with
    | .ret _ => S
    | .lock k =>
      match S.holder with
      | none => { S.put i k with holder := some i }
      | some _ => S
    | .unlock k => { S.put i k with holder := none }
    | .work w k => { S.put i (working w k S.shared).2 with shared := (working w k S.shared).1 }
    | .ask q k => S.put i (k (answer q))

/-- The system as it runs. -/
def step (S : System σ Q A) (e : Event J Q A) : System σ Q A := S.stepWith code oneAccess e

/-- The system in which work is done at once. -/
def atomicStep (S : System σ Q A) (e : Event J Q A) : System σ Q A := S.stepWith code wholeWork e

/-- No thread runs, and the mutex is free. -/
def idle (s : σ) : System σ Q A := ⟨s, none, fun _ => .ret ()⟩

/-! ## Keeping to the rules -/

/-- Every thread keeps to the rules from where it is. -/
def Disciplined (ok : Bool → Q → Prop) (S : System σ Q A) : Prop :=
  ∀ i, (S.threads i).Leads ok (decide (S.holder = some i)) false

/-- The holder of the mutex neither asks for it again nor for anything that is not allowed. -/
def Safe (ok : Bool → Q → Prop) (S : System σ Q A) : Prop :=
  ∀ i, S.holder = some i → (∀ k, S.threads i ≠ .lock k) ∧ ∀ q k, S.threads i = .ask q k → ok true q

variable {code} {ok : Bool → Q → Prop} {S : System σ Q A}

theorem disciplined_idle (s : σ) : Disciplined ok (idle s : System σ Q A) := fun _ => rfl

theorem Disciplined.safe (h : Disciplined ok S) : Safe ok S := by
  intro i hholder
  have hi := h i
  rw [decide_eq_true hholder] at hi
  constructor
  · intro k hk
    rw [hk] at hi
    cases hi.1
  · intro q k hk
    rw [hk] at hi
    exact hi.1

/-- A thread that works or unlocks holds the mutex. -/
theorem Disciplined.holds_of_work (h : Disciplined ok S) {i : Nat} {β : Type} {w : Work σ β}
    {k : β → Prog σ Q A Unit} (hi : S.threads i = .work w k) : S.holder = some i := by
  have hlead := h i
  rw [hi] at hlead
  exact of_decide_eq_true hlead.1

theorem Disciplined.holds_of_unlock (h : Disciplined ok S) {i : Nat} {k : Prog σ Q A Unit}
    (hi : S.threads i = .unlock k) : S.holder = some i := by
  have hlead := h i
  rw [hi] at hlead
  exact of_decide_eq_true hlead.1

/-- One thread goes on, and the mutex changes hands at most with it. -/
theorem Disciplined.of_put (h : Disciplined ok S) {i : Nat} {p : Prog σ Q A Unit} {s : σ}
    {holder : Option Nat} (hp : p.Leads ok (decide (holder = some i)) false)
    (hothers : ∀ j, j ≠ i → (holder = some j ↔ S.holder = some j)) :
    Disciplined ok { S.put i p with shared := s, holder := holder } := by
  intro j
  by_cases hj : j = i
  · subst hj
    show ((S.put j p).threads j).Leads ok _ false
    rw [put_self]
    exact hp
  · show ((S.put i p).threads j).Leads ok _ false
    rw [put_ne S hj]
    simp only [hothers j hj]
    exact h j

theorem step_disciplined (hcode : ∀ job, (code job).Leads ok false false) (h : Disciplined ok S)
    (e : Event J Q A) : Disciplined ok (S.step code e) := by
  cases e with
  | start i job =>
    simp only [step, stepWith]
    split
    · next hi =>
      have hlead := h i
      rw [hi] at hlead
      refine h.of_put ?_ fun _ _ => Iff.rfl
      rw [show decide (S.holder = some i) = false from hlead]
      exact hcode job
    · exact h
  | run i answer =>
    have hlead := h i
    simp only [step, stepWith]
    split
    · exact h
    · next k hi =>
      rw [hi] at hlead
      split
      · next hfree =>
        refine h.of_put ?_ fun j hj => ?_
        · rw [decide_eq_true rfl]
          exact hlead.2
        · rw [hfree]
          simp [Ne.symm hj]
      · exact h
    · next k hi =>
      rw [hi] at hlead
      have hholder := h.holds_of_unlock hi
      refine h.of_put ?_ fun j hj => ?_
      · simpa using hlead.2
      · rw [hholder]
        simp [Ne.symm hj]
    · next w k hi =>
      rw [hi] at hlead
      refine h.of_put ?_ fun _ _ => Iff.rfl
      rw [put_holder, hlead.1]
      cases w with
      | done b => exact hlead.2 b
      | access next rest => exact ⟨rfl, hlead.2⟩
    · next q k hi =>
      rw [hi] at hlead
      exact h.of_put (hlead.2 (answer q)) fun _ _ => Iff.rfl

/-- In every state of every run from an idle system, the holder of the mutex is safe. -/
theorem safe_always (hcode : ∀ job, (code job).Leads ok false false) (s : σ)
    (events : List (Event J Q A)) :
    Runs.Always (System.step code) (Safe ok) (idle s) events := by
  have hkeep : Runs.Always (System.step code) (Disciplined ok) (idle s) events :=
    Runs.Always.of_keep (fun _ e h => step_disciplined hcode h e) (disciplined_idle s)
  exact hkeep.imp fun _ h => h.safe

/-! ## Work done at once -/

/-- The system as it runs, next to one in which work is done at once: they are the same, or the
holder of the mutex is inside a piece of work that the other has still to do. -/
inductive Ahead (T S : System σ Q A) : Prop
  | same : T = S → Ahead T S
  | inside {i : Nat} {β : Type} {whole w : Work σ β} {k : β → Prog σ Q A Unit} {s : σ} :
    T.holder = some i → T.threads i = .work whole k → w.run s = whole.run T.shared →
    S = { T.put i (.work w k) with shared := s } → Ahead T S

/-- Nobody is inside a piece of work while the mutex is free. -/
theorem Ahead.shared_of_free {T : System σ Q A} (h : Ahead T S) (hfree : S.holder = none) :
    T.shared = S.shared := by
  cases h with
  | same hsame => rw [hsame]
  | inside hholder _ _ hinside =>
    rw [hinside] at hfree
    exact absurd (hholder.symm.trans hfree) (by simp)

theorem put_put (S : System σ Q A) (i : Nat) (p p' : Prog σ Q A Unit) :
    (S.put i p).put i p' = S.put i p' := by
  simp only [put, Function.update_idem]

theorem put_comm (S : System σ Q A) {i j : Nat} (h : i ≠ j) (p p' : Prog σ Q A Unit) :
    (S.put i p).put j p' = (S.put j p').put i p := by
  simp only [put, Function.update_comm h]

/-- From one and the same system, the two go on together unless a piece of work is begun. -/
theorem ahead_of_same (hS : Disciplined ok S) (e : Event J Q A) :
    Ahead S (S.step code e) ∨ Ahead (S.atomicStep code e) (S.step code e) := by
  cases e with
  | start i job => exact .inr (.same rfl)
  | run i answer =>
    cases hi : S.threads i with
    | ret a => exact .inr (.same (by simp only [step, atomicStep, stepWith, hi]))
    | lock k => exact .inr (.same (by simp only [step, atomicStep, stepWith, hi]))
    | unlock k => exact .inr (.same (by simp only [step, atomicStep, stepWith, hi]))
    | ask q k => exact .inr (.same (by simp only [step, atomicStep, stepWith, hi]))
    | work w k =>
      cases w with
      | done b =>
        refine .inr (.same ?_)
        simp only [step, atomicStep, stepWith, hi]
        rfl
      | access next rest =>
        refine .inl (.inside (hS.holds_of_work hi) hi ?_ ?_ (w := rest S.shared)
          (s := next S.shared))
        · rfl
        · simp only [step, stepWith, hi]
          rfl

/-- While the holder of the mutex is inside a piece of work, the other threads go on together, and
the holder by itself until the work is done. -/
theorem ahead_of_inside {T : System σ Q A} {i : Nat} {β : Type} {whole w : Work σ β}
    {k : β → Prog σ Q A Unit} {s : σ} (hholder : T.holder = some i)
    (hwhole : T.threads i = .work whole k) (hrun : w.run s = whole.run T.shared)
    (hS : Disciplined ok ({ T.put i (.work w k) with shared := s } : System σ Q A))
    (e : Event J Q A) :
    Ahead T (System.step code { T.put i (.work w k) with shared := s } e) ∨
      Ahead (T.atomicStep code e)
        (System.step code { T.put i (.work w k) with shared := s } e) := by
  have hself : (T.put i (.work w k)).threads i = .work w k := put_self T i _
  have hstays : Ahead T ({ T.put i (.work w k) with shared := s } : System σ Q A) :=
    .inside hholder hwhole hrun rfl
  -- another thread that only changes what it has still to run does so on both sides
  have hother : ∀ {j : Nat} (p : Prog σ Q A Unit), j ≠ i →
      Ahead (T.put j p)
        { T.put i (.work w k) with
          threads := Function.update (T.put i (.work w k)).threads j p, shared := s } := by
    intro j p hj
    refine .inside (i := i) (w := w) (k := k) (s := s) hholder ?_ hrun ?_
    · rw [put_ne T (Ne.symm hj), hwhole]
    · rw [put_comm T hj]
      rfl
  cases e with
  | start j job =>
    by_cases hj : j = i
    · subst hj
      refine .inl ?_
      simp only [step, stepWith, hself]
      exact hstays
    · have hsame : (T.put i (.work w k)).threads j = T.threads j := put_ne T hj _
      simp only [step, atomicStep, stepWith, hsame]
      split
      · exact .inr (hother _ hj)
      · exact .inl hstays
  | run j answer =>
    by_cases hj : j = i
    · subst hj
      cases w with
      | done b =>
        refine .inr (.same ?_)
        have hb : whole.run T.shared = (b, s) := hrun.symm
        simp only [step, atomicStep, stepWith, hself, hwhole, wholeWork, oneAccess, hb]
        rw [← put_put T j (.work (.done b) k) (k b)]
        rfl
      | access next rest =>
        refine .inl (.inside (w := rest s) (s := next s) hholder hwhole hrun ?_)
        simp only [step, stepWith, hself, oneAccess]
        rw [← put_put T j (.work (.access next rest) k) (.work (rest s) k)]
        rfl
    · have hsame : (T.put i (.work w k)).threads j = T.threads j := put_ne T hj _
      have hnot : T.holder ≠ some j := by
        rw [hholder]
        exact fun h => hj (Option.some.inj h).symm
      cases hthread : T.threads j with
      | ret a =>
        refine .inl ?_
        simp only [step, stepWith, hsame, hthread]
        exact hstays
      | lock k' =>
        refine .inl ?_
        simpa only [step, stepWith, hsame, hthread, put_holder, hholder] using hstays
      | unlock k' => exact absurd (hS.holds_of_unlock (hsame.trans hthread)) hnot
      | work w' k' => exact absurd (hS.holds_of_work (hsame.trans hthread)) hnot
      | ask q k' =>
        refine .inr ?_
        simp only [step, atomicStep, stepWith, hsame, hthread]
        exact hother _ hj

/-- One event keeps the two systems together; the one that works at once may have to do nothing. -/
theorem Ahead.step {T : System σ Q A} (h : Ahead T S) (hS : Disciplined ok S) (e : Event J Q A) :
    Ahead T (S.step code e) ∨ Ahead (T.atomicStep code e) (S.step code e) := by
  cases h with
  | same hsame =>
    subst hsame
    exact ahead_of_same hS e
  | inside hholder hwhole hrun hinside =>
    subst hinside
    exact ahead_of_inside hholder hwhole hrun hS e

/-- Every run is one in which work is done at once, by some of its events in their order, as far as
the holder of the mutex may be ahead of it. -/
theorem serial (hcode : ∀ job, (code job).Leads ok false false) (s : σ)
    (events : List (Event J Q A)) :
    ∃ atomic, atomic.Sublist events ∧ Ahead (Runs.final (System.atomicStep code) (idle s) atomic)
      (Runs.final (System.step code) (idle s) events) := by
  have hmain : ∀ (T S : System σ Q A), Ahead T S → Disciplined ok S →
      ∃ atomic, atomic.Sublist events ∧ Ahead (Runs.final (System.atomicStep code) T atomic)
        (Runs.final (System.step code) S events) := by
    induction events with
    | nil => exact fun T S h _ => ⟨[], .slnil, h⟩
    | cons e events ih =>
      intro T S h hS
      rcases h.step hS e with hstay | hstep
      · obtain ⟨atomic, hsub, hahead⟩ := ih T _ hstay (step_disciplined hcode hS e)
        exact ⟨atomic, hsub.cons e, hahead⟩
      · obtain ⟨atomic, hsub, hahead⟩ := ih _ _ hstep (step_disciplined hcode hS e)
        exact ⟨e :: atomic, hsub.cons_cons e, hahead⟩
  exact hmain _ _ (.same rfl) (disciplined_idle s)

/-! ## The order of the pieces of work -/

/-- The piece of work that an event does when work is done at once: its effect on the shared
state. -/
def effect (S : System σ Q A) : Event J Q A → Option (σ → σ)
  | .start _ _ => none
  | .run i _ =>
    match S.threads i with
    | .work w _ => some fun s => (w.run s).2
    | _ => none

/-- The effects of the pieces of work of a run, in their order. -/
def effects (code : J → Prog σ Q A Unit) : System σ Q A → List (Event J Q A) → List (σ → σ)
  | _, [] => []
  | S, e :: events => (S.effect e).toList ++ effects code (S.atomicStep code e) events

theorem atomicStep_shared (S : System σ Q A) (e : Event J Q A) :
    (S.atomicStep code e).shared = (S.effect e).toList.foldl (fun s f => f s) S.shared := by
  cases e with
  | start i job =>
    simp only [atomicStep, stepWith, effect]
    split <;> rfl
  | run i answer =>
    simp only [atomicStep, stepWith, effect]
    cases S.threads i with
    | lock k =>
      simp only
      split <;> rfl
    | _ => rfl

/-- The shared state is what the pieces of work make of it one after the other. -/
theorem shared_eq_effects (S : System σ Q A) (events : List (Event J Q A)) :
    (Runs.final (System.atomicStep code) S events).shared =
      (effects code S events).foldl (fun s f => f s) S.shared := by
  induction events generalizing S with
  | nil => rfl
  | cons e events ih => rw [Runs.final_cons, ih, effects, List.foldl_append, atomicStep_shared]

end System

end Locked
