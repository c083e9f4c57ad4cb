import Signal2sip.Lib.Run
import Mathlib.Algebra.GroupWithZero.Nat
import Mathlib.Logic.Function.Basic

/-!
# Migrations that check and then act

A client brings a store up to date by steps that it takes one after the other. A step looks at the
store, once for each of its checks, and leaves if there is nothing to do; otherwise it runs its
statements. A check is atomic and so is a statement, but nothing holds the store between two of them.

The store goes through stages: stage `k` is what the first `k` statements of the migration make of
it, where a statement that the store refuses makes nothing. A client is behind stage `k` when it has
passed only statements that stage `k` has behind it. What makes a migration sound is local to a stage
(`Sound`): a statement that the stage has behind it, run again, changes nothing, and a check that
fails passes over statements that would have changed nothing.

- `advance_behind`: a client that is behind the stage, and whose next statement is fresh, takes the
  store to that stage or a later one and is behind it again;
- `System.succeeding_always`: so do any number of clients at once, in every order of their steps;
- `opened_of_settled`, `killed_of_settled`: a client alone finds its statements fresh by its own checks,
  from every stage that is settled; so it ends at the last stage, or where it is killed;
- `play_keeps`: what every step keeps, a client alone keeps.
-/

namespace Migration

/-! ## Clients -/

/-- A step of a migration, and what becomes of an error of the store in it. -/
structure Step (C S ε E : Type) where
  checks : List C
  statements : List S
  rethrow : ε → E

/-- A client: the steps it has still to take, with the number of checks that passed and of statements
that ran in the first of them. -/
inductive Client (C S ε E : Type)
  | running (steps : List (Step C S ε E)) (checked ran : Nat)
  | failed (e : E)

/-- What checks and statements mean on a store. -/
structure Engine (C S σ ε : Type) where
  holds : C → σ → Bool
  exec : S → σ → Except ε σ

variable {C S σ ε E V : Type}

def Client.begin (steps : List (Step C S ε E)) : Client C S ε E := .running steps 0 0

def Client.Finished : Client C S ε E → Prop
  | .running [] _ _ => True
  | _ => False

def Client.Failed : Client C S ε E → Prop
  | .failed _ => True
  | _ => False

theorem Client.Finished.not_failed {client : Client C S ε E} (h : client.Finished) :
    ¬ client.Failed := by
  cases client with
  | running steps checked ran => exact id
  | failed e => cases h

/-- The statements that a client has not passed yet. -/
def Client.left : Client C S ε E → List S
  | .running (step :: rest) _ ran => step.statements.drop ran ++ rest.flatMap (·.statements)
  | _ => []

/-- The statement that a client runs next, once its checks have passed. -/
def Client.next : Client C S ε E → Option S
  | .running (step :: _) checked ran =>
    if checked < step.checks.length then none else step.statements[ran]?
  | _ => none

@[simp] theorem left_begin (steps : List (Step C S ε E)) :
    (Client.begin steps).left = steps.flatMap (·.statements) := by
  cases steps <;> rfl

namespace Engine

variable (engine : Engine C S σ ε)

/-- The next check or statement of a client, or its way from one step to the next. -/
def advance (s : σ) : Client C S ε E → σ × Client C S ε E
  | .running (step :: rest) checked ran =>
    match step.checks[checked]? with
    | some c =>
      if engine.holds c s then (s, .running (step :: rest) (checked + 1) ran) else (s, .begin rest)
    | none =>
      match step.statements[ran]? with
      | some f =>
        match engine.exec f s with
        | .ok s' => (s', .running (step :: rest) checked (ran + 1))
        | .error e => (s, .failed (step.rethrow e))
      | none => (s, .begin rest)
  | client => (s, client)

/-! ## Stages -/

/-- A statement that the store refuses leaves it. -/
def apply (f : S) (s : σ) : σ :=
  match engine.exec f s with
  | .ok s' => s'
  | .error _ => s

theorem apply_ok {f : S} {s s' : σ} (h : engine.exec f s = .ok s') : engine.apply f s = s' := by
  rw [apply, h]

theorem apply_error {f : S} {s : σ} {e : ε} (h : engine.exec f s = .error e) :
    engine.apply f s = s := by
  rw [apply, h]

/-- What the first `k` statements make of the store. -/
def stage (statements : List S) (s₀ : σ) (k : Nat) : σ :=
  (statements.take k).foldl (fun s f => engine.apply f s) s₀

variable {engine} {statements : List S} {s₀ : σ}

theorem stage_succ {k : Nat} {f : S} (h : statements[k]? = some f) :
    engine.stage statements s₀ (k + 1) = engine.apply f (engine.stage statements s₀ k) := by
  rw [stage, List.take_add_one, h, List.foldl_append]
  rfl

/-- Statements that change nothing make no stage of their own. -/
theorem stage_eq_of_apply {k m : Nat} (hkm : k ≤ m)
    (h : ∀ i f, k ≤ i → i < m → statements[i]? = some f →
      engine.apply f (engine.stage statements s₀ k) = engine.stage statements s₀ k) :
    engine.stage statements s₀ m = engine.stage statements s₀ k := by
  induction hkm with
  | refl => rfl
  | @step m hkm ih =>
    have hm := ih fun i f hki him => h i f hki (by omega)
    cases hf : statements[m]? with
    | none => rw [← hm, stage, stage, List.take_add_one, hf, Option.toList_none, List.append_nil]
    | some f => rw [stage_succ hf, hm, h m f hkm (by omega) hf]

end Engine

/-! ## Sound migrations -/

/-- What a migration needs of the stages it goes through. `fresh` says when a statement still is what
its client found it to be. -/
structure Sound (engine : Engine C S σ ε) (code : V → List (Step C S ε E)) (fresh : S → σ → Prop)
    (statements : List S) (s₀ : σ) : Prop where
  lists : ∀ v, (code v).flatMap (·.statements) = statements
  again : ∀ {j k f s'}, statements[j]? = some f → j < k → k ≤ statements.length →
    fresh f (engine.stage statements s₀ k) →
    engine.exec f (engine.stage statements s₀ k) = .ok s' → s' = engine.stage statements s₀ k
  skips : ∀ {v step c f i k}, step ∈ code v → c ∈ step.checks → f ∈ step.statements →
    statements[i]? = some f → k ≤ i → engine.holds c (engine.stage statements s₀ k) = false →
    engine.apply f (engine.stage statements s₀ k) = engine.stage statements s₀ k

/-- No stage refuses a fresh statement: neither the next one nor one that it has behind it. -/
def Proceeds (engine : Engine C S σ ε) (fresh : S → σ → Prop) (statements : List S) (s₀ : σ) : Prop :=
  ∀ j k f, j ≤ k → k ≤ statements.length → statements[j]? = some f →
    fresh f (engine.stage statements s₀ k) →
    ∃ s', engine.exec f (engine.stage statements s₀ k) = .ok s'

/-- A client that has passed only statements that stage `k` has behind it. -/
structure Behind (code : V → List (Step C S ε E)) (statements : List S) (k : Nat)
    (steps : List (Step C S ε E)) (checked ran : Nat) : Prop where
  ofCode : ∃ v, steps <:+ code v
  passed : ∃ j, j ≤ k ∧ (Client.running steps checked ran).left = statements.drop j

section Behind

variable {engine : Engine C S σ ε} {code : V → List (Step C S ε E)} {fresh : S → σ → Prop}
  {statements : List S} {s₀ : σ} {k : Nat} {steps rest : List (Step C S ε E)}
  {step : Step C S ε E} {checked ran : Nat}

theorem Behind.mono {k' : Nat} (h : Behind code statements k steps checked ran) (hk : k ≤ k') :
    Behind code statements k' steps checked ran := by
  obtain ⟨hcode, j, hj, hleft⟩ := h
  exact ⟨hcode, j, by omega, hleft⟩

theorem behind_begin (hs : Sound engine code fresh statements s₀) (v : V) :
    Behind code statements k (code v) 0 0 := by
  refine ⟨⟨v, List.suffix_rfl⟩, 0, Nat.zero_le k, ?_⟩
  exact (left_begin (code v)).trans (hs.lists v)

/-- A client that has nothing left is behind the last stage only. -/
theorem Behind.last (h : Behind code statements k [] checked ran) : statements.length ≤ k := by
  obtain ⟨-, j, hj, hleft⟩ := h
  have hlength : (statements.drop j).length = 0 := by
    rw [← hleft]
    rfl
  rw [List.length_drop] at hlength
  omega

/-- Leaving a step whose remaining statements change nothing. -/
theorem Behind.leave (h : Behind code statements k (step :: rest) checked ran)
    (hk : k ≤ statements.length)
    (hskip : ∀ i f, f ∈ step.statements.drop ran → statements[i]? = some f → k ≤ i →
      engine.apply f (engine.stage statements s₀ k) = engine.stage statements s₀ k) :
    ∃ k', k ≤ k' ∧ k' ≤ statements.length ∧
      engine.stage statements s₀ k' = engine.stage statements s₀ k ∧
      Behind code statements k' rest 0 0 := by
  obtain ⟨⟨v, hv⟩, j, hj, hleft⟩ := h
  have hparts : step.statements.drop ran ++ rest.flatMap (·.statements) = statements.drop j := hleft
  generalize step.statements.drop ran = mine at hparts hskip
  have hrest : (Client.running rest 0 0).left = statements.drop (j + mine.length) := by
    refine (left_begin rest).trans ?_
    rw [← List.drop_drop, ← hparts, List.drop_left]
  have hcode : ∃ v, rest <:+ code v := ⟨v, (List.suffix_cons step rest).trans hv⟩
  have hlength := congrArg List.length hparts
  rw [List.length_append, List.length_drop] at hlength
  by_cases hm : j + mine.length ≤ k
  · exact ⟨k, Nat.le_refl k, hk, rfl, hcode, _, hm, hrest⟩
  · refine ⟨j + mine.length, by omega, by omega, Engine.stage_eq_of_apply (by omega) ?_, hcode, _,
      Nat.le_refl _, hrest⟩
    intro i f hki him hf
    refine hskip i f ?_ hf hki
    have hat : (mine ++ rest.flatMap (·.statements))[i - j]? = some f := by
      rw [hparts, List.getElem?_drop, Nat.add_sub_cancel' (by omega), hf]
    rw [List.getElem?_append_left (by omega)] at hat
    exact List.mem_of_getElem? hat

/-- The statement that a client runs next is the next one of the migration that it has not passed. -/
theorem Behind.next (h : Behind code statements k (step :: rest) checked ran) {f : S}
    (hf : step.statements[ran]? = some f) :
    ∃ j, j ≤ k ∧ statements[j]? = some f ∧
      (Client.running (step :: rest) checked (ran + 1)).left = statements.drop (j + 1) := by
  obtain ⟨-, j, hj, hleft⟩ := h
  obtain ⟨hlt, hget⟩ := List.getElem?_eq_some_iff.mp hf
  have hparts : f :: (step.statements.drop (ran + 1) ++ rest.flatMap (·.statements)) =
      statements.drop j := by
    rw [← hleft, Client.left, List.drop_eq_getElem_cons hlt, hget, List.cons_append]
  refine ⟨j, hj, ?_, ?_⟩
  · have hhead := congrArg List.head? hparts
    rw [List.head?_drop] at hhead
    exact hhead.symm
  · rw [← List.drop_drop, ← hparts]
    rfl

/-- A client whose next statement is fresh runs it: as the next one of the stage, or once more and for
nothing; unless the store refuses it. -/
theorem Behind.exec (hs : Sound engine code fresh statements s₀) (hk : k ≤ statements.length)
    (h : Behind code statements k (step :: rest) checked ran) {f : S}
    (hf : step.statements[ran]? = some f) (hnow : fresh f (engine.stage statements s₀ k)) :
    (∃ k', k ≤ k' ∧ k' ≤ statements.length ∧
        engine.exec f (engine.stage statements s₀ k) = .ok (engine.stage statements s₀ k') ∧
        Behind code statements k' (step :: rest) checked (ran + 1)) ∨
      (∃ e, engine.exec f (engine.stage statements s₀ k) = .error e) ∧
        ¬ Proceeds engine fresh statements s₀ := by
  obtain ⟨j, hj, hat, hleft⟩ := h.next hf
  cases hexec : engine.exec f (engine.stage statements s₀ k) with
  | error e =>
    refine .inr ⟨⟨e, rfl⟩, fun hproceeds => ?_⟩
    obtain ⟨s', hok⟩ := hproceeds j k f hj hk hat hnow
    rw [hok] at hexec
    cases hexec
  | ok s' =>
    by_cases hjk : j = k
    · subst hjk
      have hlt := (List.getElem?_eq_some_iff.mp hat).1
      refine .inl ⟨j + 1, by omega, by omega, ?_, h.ofCode, j + 1, Nat.le_refl _, hleft⟩
      rw [Engine.stage_succ hat, Engine.apply_ok engine hexec]
    · refine .inl ⟨k, Nat.le_refl k, hk, ?_, h.ofCode, j + 1, by omega, hleft⟩
      rw [hs.again hat (by omega) hk hnow hexec]

/-- One step of a client whose next statement is fresh: the store goes to the stage it was at or to a
later one, and the client is behind that one; unless the store refuses the statement. -/
theorem advance_behind (hs : Sound engine code fresh statements s₀) (hk : k ≤ statements.length)
    (h : Behind code statements k steps checked ran)
    (hfresh : ∀ f, (Client.running steps checked ran).next = some f →
      fresh f (engine.stage statements s₀ k)) :
    (∃ k' steps' checked' ran', k ≤ k' ∧ k' ≤ statements.length ∧
        engine.advance (engine.stage statements s₀ k) (.running steps checked ran) =
          (engine.stage statements s₀ k', .running steps' checked' ran') ∧
        Behind code statements k' steps' checked' ran') ∨
      (engine.advance (engine.stage statements s₀ k) (.running steps checked ran)).2.Failed ∧
        ¬ Proceeds engine fresh statements s₀ := by
  cases steps with
  | nil => exact .inl ⟨k, [], checked, ran, Nat.le_refl k, hk, rfl, h⟩
  | cons step rest =>
    cases hcheck : step.checks[checked]? with
    | some c =>
      cases hholds : engine.holds c (engine.stage statements s₀ k) with
      | true =>
        refine .inl ⟨k, step :: rest, checked + 1, ran, Nat.le_refl k, hk, ?_, h.ofCode, h.passed⟩
        simp only [Engine.advance, hcheck, hholds, if_true]
      | false =>
        obtain ⟨v, hv⟩ := h.ofCode
        have hmem : step ∈ code v := hv.subset List.mem_cons_self
        obtain ⟨k', hkk', hk', hstage, hrest⟩ := h.leave hk fun i f hf hi hki =>
          hs.skips hmem (List.mem_of_getElem? hcheck) (List.mem_of_mem_drop hf) hi hki hholds
        refine .inl ⟨k', rest, 0, 0, hkk', hk', ?_, hrest⟩
        simp [Engine.advance, hcheck, hholds, hstage, Client.begin]
    | none =>
      cases hf : step.statements[ran]? with
      | none =>
        have hdone : ∀ i f, f ∈ step.statements.drop ran → statements[i]? = some f → k ≤ i →
            engine.apply f (engine.stage statements s₀ k) = engine.stage statements s₀ k := by
          rw [List.drop_eq_nil_of_le (List.getElem?_eq_none_iff.mp hf)]
          exact fun i f hmem => nomatch hmem
        obtain ⟨k', hkk', hk', hstage, hrest⟩ := h.leave hk hdone
        refine .inl ⟨k', rest, 0, 0, hkk', hk', ?_, hrest⟩
        simp [Engine.advance, hcheck, hf, hstage, Client.begin]
      | some f =>
        have hchecked : step.checks.length ≤ checked := List.getElem?_eq_none_iff.mp hcheck
        have hnow : fresh f (engine.stage statements s₀ k) :=
          hfresh f (by rw [Client.next, if_neg (by omega), hf])
        rcases h.exec hs hk hf hnow with ⟨k', hkk', hk', hexec, hbehind⟩ | ⟨⟨e, hexec⟩, hstuck⟩
        · refine .inl ⟨k', step :: rest, checked, ran + 1, hkk', hk', ?_, hbehind⟩
          simp only [Engine.advance, hcheck, hf, hexec]
        · exact .inr ⟨by simp only [Engine.advance, hcheck, hf, hexec, Client.Failed], hstuck⟩

end Behind

/-! ## Any number of clients -/

/-- The store and the clients that have come to it so far. -/
structure System (C S σ ε E : Type) where
  shared : σ
  clients : Nat → Option (Client C S ε E)

/-- A client comes, or takes its next step. -/
inductive Event (V : Type)
  | start (client : Nat) (v : V)
  | run (client : Nat)

namespace System

/-- Nobody has come yet. -/
def quiet (s : σ) : System C S σ ε E := ⟨s, fun _ => none⟩

variable (engine : Engine C S σ ε) (code : V → List (Step C S ε E))

def put (T : System C S σ ε E) (i : Nat) (s : σ) (client : Client C S ε E) : System C S σ ε E :=
  ⟨s, Function.update T.clients i (some client)⟩

theorem put_self (T : System C S σ ε E) (i : Nat) (s : σ) (client : Client C S ε E) :
    (T.put i s client).clients i = some client := by
  simp only [put, Function.update_self]

theorem put_ne (T : System C S σ ε E) {i j : Nat} (h : j ≠ i) (s : σ) (client : Client C S ε E) :
    (T.put i s client).clients j = T.clients j := by
  simp only [put, Function.update_of_ne h]

def step (T : System C S σ ε E) : Event V → System C S σ ε E
  | .start i v =>
    match T.clients i with
    | none => T.put i T.shared (.begin (code v))
    | some _ => T
  | .run i =>
    match T.clients i with
    | none => T
    | some client =>
      let r := engine.advance T.shared client
      T.put i r.1 r.2

/-- A client that takes a step finds its statement as it was when it checked. -/
def Fresh (fresh : S → σ → Prop) (T : System C S σ ε E) : Event V → Prop
  | .start _ _ => True
  | .run i => ∀ f ∈ (T.clients i).bind Client.next, fresh f T.shared

instance {fresh : S → σ → Prop} [∀ f s, Decidable (fresh f s)] (T : System C S σ ε E) :
    ∀ e : Event V, Decidable (Fresh fresh T e)
  | .start _ _ => isTrue trivial
  | .run i => inferInstanceAs (Decidable (∀ f ∈ (T.clients i).bind Client.next, fresh f T.shared))

variable {engine code} {fresh : S → σ → Prop} {statements : List S} {s₀ : σ}
  {T : System C S σ ε E}

/-- The store is at a stage that every client is behind. -/
def AtStage (engine : Engine C S σ ε) (code : V → List (Step C S ε E)) (statements : List S)
    (s₀ : σ) (T : System C S σ ε E) : Prop :=
  ∃ k, k ≤ statements.length ∧ T.shared = engine.stage statements s₀ k ∧
    ∀ i client, T.clients i = some client → ∃ steps checked ran,
      client = .running steps checked ran ∧ Behind code statements k steps checked ran

theorem atStage_quiet : AtStage engine code statements s₀ (quiet s₀ : System C S σ ε E) :=
  ⟨0, Nat.zero_le _, rfl, fun _ _ h => nomatch h⟩

theorem atStage_put {k : Nat} (hk : k ≤ statements.length) {i : Nat}
    {steps : List (Step C S ε E)} {checked ran : Nat}
    (hold : ∀ j client, T.clients j = some client → ∃ steps checked ran,
      client = .running steps checked ran ∧ Behind code statements k steps checked ran)
    (hnew : Behind code statements k steps checked ran) :
    AtStage engine code statements s₀
      (T.put i (engine.stage statements s₀ k) (.running steps checked ran)) := by
  refine ⟨k, hk, rfl, fun j client hj => ?_⟩
  by_cases hji : j = i
  · subst hji
    rw [put_self] at hj
    cases hj
    exact ⟨steps, checked, ran, rfl, hnew⟩
  · rw [put_ne T hji] at hj
    exact hold j client hj

theorem step_atStage (hs : Sound engine code fresh statements s₀)
    (hproceeds : Proceeds engine fresh statements s₀) (hT : AtStage engine code statements s₀ T)
    {e : Event V} (hfresh : Fresh fresh T e) :
    AtStage engine code statements s₀ (T.step engine code e) := by
  obtain ⟨k, hk, hshared, hclients⟩ := hT
  cases e with
  | start i v =>
    cases hi : T.clients i with
    | none =>
      simp only [step, hi, hshared]
      exact atStage_put hk hclients (behind_begin hs v)
    | some client =>
      simp only [step, hi]
      exact ⟨k, hk, hshared, hclients⟩
  | run i =>
    cases hi : T.clients i with
    | none =>
      simp only [step, hi]
      exact ⟨k, hk, hshared, hclients⟩
    | some client =>
      obtain ⟨steps, checked, ran, rfl, hbehind⟩ := hclients i client hi
      have hnow : ∀ f, (Client.running steps checked ran).next = some f →
          fresh f (engine.stage statements s₀ k) := by
        intro f hf
        refine hshared ▸ hfresh f ?_
        rw [hi]
        exact hf
      rcases advance_behind hs hk hbehind hnow with
        ⟨k', steps', checked', ran', hkk', hk', hadvance, hbehind'⟩ | ⟨-, hstuck⟩
      · simp only [step, hi, hshared, hadvance]
        refine atStage_put hk' (fun j client hj => ?_) hbehind'
        obtain ⟨steps, checked, ran, hclient, hbehind⟩ := hclients j client hj
        exact ⟨steps, checked, ran, hclient, hbehind.mono hkk'⟩
      · exact absurd hproceeds hstuck

/-- No client has failed, and if one has finished the store is what it should be. -/
def Succeeding (final : σ) (T : System C S σ ε E) : Prop :=
  ∀ i client, T.clients i = some client → ¬ client.Failed ∧ (client.Finished → T.shared = final)

theorem AtStage.succeeding (hT : AtStage engine code statements s₀ T) :
    Succeeding (engine.stage statements s₀ statements.length) T := by
  obtain ⟨k, hk, hshared, hclients⟩ := hT
  intro i client hi
  obtain ⟨steps, checked, ran, rfl, hbehind⟩ := hclients i client hi
  refine ⟨not_false, fun hfinished => ?_⟩
  cases steps with
  | nil => rw [hshared, Nat.le_antisymm hk hbehind.last]
  | cons step rest => cases hfinished

/-- In every run in which every statement is fresh when it is run, no client fails, and the store is
at the last stage as soon as one client has finished. -/
theorem succeeding_always (hs : Sound engine code fresh statements s₀)
    (hproceeds : Proceeds engine fresh statements s₀) {events : List (Event V)}
    (hfresh : Runs.Along (step engine code) (Fresh fresh) (quiet s₀) events) :
    Runs.Always (step engine code) (Succeeding (engine.stage statements s₀ statements.length))
      (quiet s₀ : System C S σ ε E) events := by
  have hstage : Runs.Always (step engine code) (AtStage engine code statements s₀)
      (quiet s₀ : System C S σ ε E) events :=
    Runs.Always.of_along (fun _ _ hT he => step_atStage hs hproceeds hT he) atStage_quiet hfresh
  exact hstage.imp fun _ h => h.succeeding

end System

/-! ## One client alone -/

namespace Engine

variable (engine : Engine C S σ ε)

/-- The next `n` steps of a client that is alone. -/
def play : Nat → σ × Client C S ε E → σ × Client C S ε E
  | 0, x => x
  | n + 1, x => play n (engine.advance x.1 x.2)

end Engine

/-- How many steps a client takes at most. -/
def Client.weight : Client C S ε E → Nat
  | .running (step :: rest) checked ran =>
    (step.checks.length - checked) + (step.statements.length - ran) + 1 +
      (rest.map fun step => step.checks.length + step.statements.length + 1).sum
  | _ => 0

/-- A whole migration that nothing interrupts. -/
def Engine.opened (engine : Engine C S σ ε) (steps : List (Step C S ε E)) (s : σ) :
    σ × Client C S ε E :=
  engine.play (Client.begin steps).weight (s, .begin steps)

section Alone

variable {engine : Engine C S σ ε} {code : V → List (Step C S ε E)} {fresh : S → σ → Prop}
  {statements : List S} {s₀ : σ}

theorem weight_begin (steps : List (Step C S ε E)) :
    (Client.begin steps).weight =
      (steps.map fun step => step.checks.length + step.statements.length + 1).sum := by
  cases steps with
  | nil => rfl
  | cons step rest => simp [Client.begin, Client.weight]

theorem weight_advance (s : σ) (client : Client C S ε E) :
    (engine.advance s client).2.weight ≤ client.weight - 1 := by
  cases client with
  | failed e => exact Nat.le_refl _
  | running steps checked ran =>
    cases steps with
    | nil => exact Nat.le_refl _
    | cons step rest =>
      have hleave : (Client.begin rest).weight ≤
          (Client.running (step :: rest) checked ran).weight - 1 := by
        rw [weight_begin, Client.weight]
        omega
      simp only [Engine.advance]
      split
      · next c hc =>
        have hlt := (List.getElem?_eq_some_iff.mp hc).1
        split
        · simp only [Client.weight]
          omega
        · exact hleave
      · split
        · next f hf =>
          have hlt := (List.getElem?_eq_some_iff.mp hf).1
          split
          · simp only [Client.weight]
            omega
          · exact Nat.zero_le _
        · exact hleave

theorem weight_play (n : Nat) (x : σ × Client C S ε E) :
    (engine.play n x).2.weight ≤ x.2.weight - n := by
  induction n generalizing x with
  | zero => exact Nat.le_refl _
  | succ n ih =>
    have hstep : (engine.advance x.1 x.2).2.weight ≤ x.2.weight - 1 := weight_advance x.1 x.2
    have hplay := ih (engine.advance x.1 x.2)
    rw [Engine.play]
    omega

theorem ended_of_weight {client : Client C S ε E} (h : client.weight = 0) :
    client.Finished ∨ client.Failed := by
  cases client with
  | failed e => exact .inr trivial
  | running steps checked ran =>
    cases steps with
    | nil => exact .inl trivial
    | cons step rest =>
      rw [Client.weight] at h
      omega

/-- Every migration that nothing interrupts comes to an end. -/
theorem opened_ends (steps : List (Step C S ε E)) (s : σ) :
    (engine.opened steps s).2.Finished ∨ (engine.opened steps s).2.Failed := by
  have hweight : (engine.opened steps s).2.weight ≤
      (Client.begin steps).weight - (Client.begin steps).weight := weight_play _ _
  exact ended_of_weight (by omega)

theorem play_failed (n : Nat) (s : σ) (e : E) :
    engine.play n (s, (.failed e : Client C S ε E)) = (s, .failed e) := by
  induction n with
  | zero => rfl
  | succ n ih => exact ih

/-- Between two statements of one step. -/
def Client.Inside : Client C S ε E → Prop
  | .running (step :: _) _ ran => 0 < ran ∧ ran < step.statements.length
  | _ => False

/-- What a client that is alone can rely on: the checks that it made find its first statement fresh,
one statement leaves the next one fresh, and the last one leaves the store settled. -/
structure Reliable (engine : Engine C S σ ε) (code : V → List (Step C S ε E))
    (fresh : S → σ → Prop) (settled : σ → Prop) : Prop where
  enters : ∀ {v step s f}, step ∈ code v → settled s → (∀ c ∈ step.checks, engine.holds c s = true) →
    step.statements[0]? = some f → fresh f s
  continues : ∀ {v step i s s' f f'}, step ∈ code v → step.statements[i]? = some f →
    step.statements[i + 1]? = some f' → fresh f s → engine.exec f s = .ok s' → fresh f' s'
  completes : ∀ {v step i s s' f}, step ∈ code v → step.statements[i]? = some f →
    i + 1 = step.statements.length → (i = 0 → settled s) → fresh f s → engine.exec f s = .ok s' →
    settled s'

/-- What a client that is alone knows of the store. -/
def Knows (engine : Engine C S σ ε) (fresh : S → σ → Prop) (settled : σ → Prop) (s : σ) :
    List (Step C S ε E) → Nat → Nat → Prop
  | [], _, _ => settled s
  | step :: _, checked, 0 => settled s ∧ ∀ c ∈ step.checks.take checked, engine.holds c s = true
  | step :: _, checked, ran + 1 =>
    step.checks.length ≤ checked ∧ (∀ f, step.statements[ran + 1]? = some f → fresh f s) ∧
      (step.statements.length ≤ ran + 1 → settled s)

variable {settled : σ → Prop} {k : Nat} {steps rest : List (Step C S ε E)} {step : Step C S ε E}
  {checked ran : Nat} {s : σ}

theorem knows_begin (h : settled s) (steps : List (Step C S ε E)) :
    Knows engine fresh settled s steps 0 0 := by
  cases steps with
  | nil => exact h
  | cons step rest => exact ⟨h, fun c hc => nomatch hc⟩

/-- Outside its steps a client that is alone leaves the store settled. -/
theorem knows_settled (h : Knows engine fresh settled s steps checked ran)
    (hout : ¬ (Client.running steps checked ran).Inside) : settled s := by
  cases steps with
  | nil => exact h
  | cons step rest =>
    cases ran with
    | zero => exact h.1
    | succ ran => exact h.2.2 (Nat.le_of_not_lt fun hlt => hout ⟨Nat.succ_pos ran, hlt⟩)

theorem knows_fresh (hreliable : Reliable engine code fresh settled) {v : V} (hcode : steps <:+ code v)
    (h : Knows engine fresh settled s steps checked ran) {f : S}
    (hf : (Client.running steps checked ran).next = some f) : fresh f s := by
  cases steps with
  | nil => cases hf
  | cons step rest =>
    rw [Client.next] at hf
    split at hf
    · cases hf
    · next hchecked =>
      cases ran with
      | zero =>
        obtain ⟨hsettled, hholds⟩ := h
        rw [List.take_of_length_le (Nat.le_of_not_lt hchecked)] at hholds
        exact hreliable.enters (hcode.subset List.mem_cons_self) hsettled hholds hf
      | succ ran => exact h.2.1 f hf

/-- One step of a client keeps what it knows. -/
theorem knows_advance (hreliable : Reliable engine code fresh settled) {v : V}
    (hcode : steps <:+ code v) (h : Knows engine fresh settled s steps checked ran) {s' : σ}
    {steps' : List (Step C S ε E)} {checked' ran' : Nat}
    (hadvance : engine.advance s (.running steps checked ran) = (s', .running steps' checked' ran')) :
    Knows engine fresh settled s' steps' checked' ran' := by
  cases steps with
  | nil =>
    cases hadvance
    exact h
  | cons step rest =>
    have hmem : step ∈ code v := hcode.subset List.mem_cons_self
    simp only [Engine.advance] at hadvance
    cases hcheck : step.checks[checked]? with
    | some c =>
      have hlt := (List.getElem?_eq_some_iff.mp hcheck).1
      cases ran with
      | succ ran => exact absurd h.1 (by omega)
      | zero =>
        cases hholds : engine.holds c s with
        | true =>
          simp only [hcheck, hholds, if_true] at hadvance
          cases hadvance
          refine ⟨h.1, fun c' hc' => ?_⟩
          rw [List.take_add_one, hcheck] at hc'
          rcases List.mem_append.mp hc' with hold | hnew
          · exact h.2 c' hold
          · cases List.mem_singleton.mp hnew
            exact hholds
        | false =>
          simp only [hcheck, hholds] at hadvance
          cases hadvance
          exact knows_begin h.1 _
    | none =>
      have hchecked : step.checks.length ≤ checked := List.getElem?_eq_none_iff.mp hcheck
      cases hf : step.statements[ran]? with
      | none =>
        simp only [hcheck, hf] at hadvance
        cases hadvance
        refine knows_begin (knows_settled h fun hinside => ?_) _
        exact absurd hinside.2 (Nat.not_lt_of_le (List.getElem?_eq_none_iff.mp hf))
      | some f =>
        have hnow := knows_fresh hreliable hcode h (f := f)
          (by rw [Client.next, if_neg (by omega), hf])
        cases hexec : engine.exec f s with
        | error e =>
          simp only [hcheck, hf, hexec] at hadvance
          cases hadvance
        | ok t =>
          simp only [hcheck, hf, hexec] at hadvance
          cases hadvance
          have hlt := (List.getElem?_eq_some_iff.mp hf).1
          refine ⟨hchecked, fun f' hf' => hreliable.continues hmem hf hf' hnow hexec, fun hend => ?_⟩
          refine hreliable.completes hmem hf (by omega) (fun hzero => ?_) hnow hexec
          subst hzero
          exact h.1

/-- A client alone takes the store through stages, and knows the one it is at; unless the store refuses
a statement. -/
theorem alone_play (hs : Sound engine code fresh statements s₀)
    (hreliable : Reliable engine code fresh settled) (hk : k ≤ statements.length)
    (hbehind : Behind code statements k steps checked ran)
    (hknows : Knows engine fresh settled (engine.stage statements s₀ k) steps checked ran) (n : Nat) :
    (∃ k' steps' checked' ran', k' ≤ statements.length ∧
        engine.play n (engine.stage statements s₀ k, .running steps checked ran) =
          (engine.stage statements s₀ k', .running steps' checked' ran') ∧
        Behind code statements k' steps' checked' ran' ∧
        Knows engine fresh settled (engine.stage statements s₀ k') steps' checked' ran') ∨
      (engine.play n (engine.stage statements s₀ k, .running steps checked ran)).2.Failed ∧
        ¬ Proceeds engine fresh statements s₀ := by
  induction n generalizing k steps checked ran with
  | zero => exact .inl ⟨k, steps, checked, ran, hk, rfl, hbehind, hknows⟩
  | succ n ih =>
    obtain ⟨v, hv⟩ := hbehind.ofCode
    have hfresh : ∀ f, (Client.running steps checked ran).next = some f →
        fresh f (engine.stage statements s₀ k) := fun f hf => knows_fresh hreliable hv hknows hf
    rw [Engine.play]
    rcases advance_behind hs hk hbehind hfresh with
      ⟨k', steps', checked', ran', -, hk', hadvance, hbehind'⟩ | ⟨hfailed, hstuck⟩
    · have hknows' := knows_advance hreliable hv hknows hadvance
      rw [hadvance]
      exact ih hk' hbehind' hknows'
    · refine .inr ⟨?_, hstuck⟩
      generalize engine.advance (engine.stage statements s₀ k) (.running steps checked ran) = x
        at hfailed
      obtain ⟨s, client⟩ := x
      cases client with
      | running steps checked ran => cases hfailed
      | failed e =>
        rw [play_failed]
        trivial

/-- From a settled stage, a migration that nothing interrupts ends at the last stage; unless it
fails. -/
theorem opened_of_settled (hs : Sound engine code fresh statements s₀)
    (hreliable : Reliable engine code fresh settled) (hk : k ≤ statements.length)
    (hsettled : settled (engine.stage statements s₀ k)) (v : V) :
    ((engine.opened (code v) (engine.stage statements s₀ k)).1 =
        engine.stage statements s₀ statements.length ∧
      (engine.opened (code v) (engine.stage statements s₀ k)).2.Finished) ∨
      (engine.opened (code v) (engine.stage statements s₀ k)).2.Failed ∧
        ¬ Proceeds engine fresh statements s₀ := by
  have hends : (engine.opened (code v) (engine.stage statements s₀ k)).2.Finished ∨
      (engine.opened (code v) (engine.stage statements s₀ k)).2.Failed := opened_ends _ _
  have hplay := alone_play hs hreliable hk (behind_begin hs v) (knows_begin hsettled (code v))
    (Client.begin (code v)).weight
  rcases hplay with ⟨k', steps, checked, ran, hk', hplay, hbehind, -⟩ | hfailed
  · have hopened : engine.opened (code v) (engine.stage statements s₀ k) =
        (engine.stage statements s₀ k', .running steps checked ran) := hplay
    rw [hopened] at hends ⊢
    rcases hends with hfinished | hfailed
    · cases steps with
      | cons step rest => cases hfinished
      | nil => exact .inl ⟨by rw [Nat.le_antisymm hk' hbehind.last], trivial⟩
    · cases hfailed
  · exact .inr hfailed

/-- A client that is killed leaves a stage behind, of which it knew. -/
theorem killed_of_settled (hs : Sound engine code fresh statements s₀)
    (hreliable : Reliable engine code fresh settled) (hproceeds : Proceeds engine fresh statements s₀)
    (hk : k ≤ statements.length) (hsettled : settled (engine.stage statements s₀ k)) (v : V) (n : Nat) :
    ∃ k' steps checked ran, k' ≤ statements.length ∧
      engine.play n (engine.stage statements s₀ k, .begin (code v)) =
        (engine.stage statements s₀ k', .running steps checked ran) ∧
      Behind code statements k' steps checked ran ∧
      Knows engine fresh settled (engine.stage statements s₀ k') steps checked ran := by
  rcases alone_play hs hreliable hk (behind_begin hs v) (knows_begin hsettled (code v)) n with
    hplay | ⟨-, hstuck⟩
  · exact hplay
  · exact absurd hproceeds hstuck

end Alone

/-! ## Every client comes to an end -/

def Event.moves (i : Nat) : Event V → Bool
  | .run j => j == i
  | _ => false

namespace System

variable (engine : Engine C S σ ε) (code : V → List (Step C S ε E)) {T : System C S σ ε E}

/-- The steps of the others leave a client where it is. -/
theorem weight_step {i : Nat} {client : Client C S ε E} (hi : T.clients i = some client)
    (e : Event V) :
    ∃ client', (T.step engine code e).clients i = some client' ∧
      client'.weight ≤ client.weight - if e.moves i then 1 else 0 := by
  cases e with
  | start j v =>
    cases hj : T.clients j with
    | some other => exact ⟨client, by simp only [step, hj, hi], Nat.le_refl _⟩
    | none =>
      have hji : i ≠ j := by
        rintro rfl
        rw [hi] at hj
        cases hj
      refine ⟨client, ?_, Nat.le_refl _⟩
      simp only [step, hj]
      rw [put_ne T hji, hi]
  | run j =>
    by_cases hji : i = j
    · subst hji
      refine ⟨(engine.advance T.shared client).2, ?_, ?_⟩
      · simp only [step, hi, put_self]
      · rw [Event.moves, beq_self_eq_true, if_pos rfl]
        exact weight_advance T.shared client
    · refine ⟨client, ?_, ?_⟩
      · cases hj : T.clients j with
        | none => simp only [step, hj, hi]
        | some other =>
          simp only [step, hj]
          rw [put_ne T hji, hi]
      · rw [Event.moves, beq_false_of_ne (Ne.symm hji), if_neg Bool.false_ne_true]
        exact Nat.le_refl _

theorem weight_run {i : Nat} {client : Client C S ε E} (hi : T.clients i = some client)
    (events : List (Event V)) :
    ∃ client', (Runs.final (step engine code) T events).clients i = some client' ∧
      client'.weight ≤ client.weight - events.countP (·.moves i) := by
  induction events generalizing T client with
  | nil => exact ⟨client, hi, Nat.le_refl _⟩
  | cons e events ih =>
    obtain ⟨next, hnext, hstep⟩ := weight_step engine code hi e
    obtain ⟨last, hlast, hrun⟩ := ih hnext
    refine ⟨last, hlast, ?_⟩
    rw [List.countP_cons]
    omega

variable {engine code} in
/-- A client that has come and has taken its steps is at its end. -/
theorem ended_of_moves {i : Nat} {v : V} (hi : T.clients i = none) {events : List (Event V)}
    (hmoves : (Client.begin (code v)).weight ≤ events.countP (·.moves i)) :
    ∃ client, (Runs.final (step engine code) T (.start i v :: events)).clients i = some client ∧
      (client.Finished ∨ client.Failed) := by
  have hcome : (T.step engine code (.start i v)).clients i = some (.begin (code v)) := by
    simp only [step, hi, put_self]
  obtain ⟨client, hclient, hweight⟩ := weight_run engine code hcome events
  exact ⟨client, hclient, ended_of_weight (by omega)⟩

end System

/-! ## What the steps of a client keep -/

/-- Statements one after the other. -/
def Engine.execAll (engine : Engine C S σ ε) (fs : List S) (s : σ) : Except ε σ :=
  fs.foldlM (fun s f => engine.exec f s) s

/-- A property of the store that a step keeps, from where its checks pass on. -/
def StepsKeep (engine : Engine C S σ ε) (code : V → List (Step C S ε E)) (keeps : σ → Prop) : Prop :=
  ∀ v, ∀ step ∈ code v, ∀ s, keeps s → (∀ c ∈ step.checks, engine.holds c s = true) →
    ∀ i s', engine.execAll (step.statements.take i) s = .ok s' → keeps s'

section Keeps

variable {engine : Engine C S σ ε} {code : V → List (Step C S ε E)} {keeps : σ → Prop}

/-- The store that a client alone started its step from, and what it has made of it. -/
def KeepsFrom (engine : Engine C S σ ε) (keeps : σ → Prop) (s : σ) : Client C S ε E → Prop
  | .running (step :: _) checked ran =>
    ∃ t, keeps t ∧ (∀ c ∈ step.checks.take checked, engine.holds c t = true) ∧
      engine.execAll (step.statements.take ran) t = .ok s ∧
      (0 < ran → step.checks.length ≤ checked)
  | _ => keeps s

theorem keepsFrom_begin {s : σ} (h : keeps s) (steps : List (Step C S ε E)) :
    KeepsFrom engine keeps s (.begin steps) := by
  cases steps with
  | nil => exact h
  | cons step rest => exact ⟨s, h, fun c hc => (nomatch hc), rfl, fun hran => absurd hran (by omega)⟩

/-- What the steps keep holds in the middle of a step too. -/
theorem keepsFrom_keeps (hkeep : StepsKeep engine code keeps) {v : V}
    {steps : List (Step C S ε E)} {checked ran : Nat} {s : σ} (hcode : steps <:+ code v)
    (h : KeepsFrom engine keeps s (.running steps checked ran)) : keeps s := by
  cases steps with
  | nil => exact h
  | cons step rest =>
    obtain ⟨t, ht, hchecks, hrun, hran⟩ := h
    cases ran with
    | zero =>
      cases hrun
      exact ht
    | succ ran =>
      rw [List.take_of_length_le (hran (Nat.succ_pos ran))] at hchecks
      exact hkeep v step (hcode.subset List.mem_cons_self) t ht hchecks (ran + 1) s hrun

theorem execAll_nil {s s' : σ} : engine.execAll [] s = .ok s' ↔ s = s' := by
  constructor
  · rintro ⟨⟩
    rfl
  · rintro rfl
    rfl

theorem execAll_cons {f : S} {fs : List S} {s s' : σ} :
    engine.execAll (f :: fs) s = .ok s' ↔
      ∃ t, engine.exec f s = .ok t ∧ engine.execAll fs t = .ok s' := by
  rw [Engine.execAll, List.foldlM_cons]
  cases engine.exec f s with
  | error e =>
    constructor
    · rintro ⟨⟩
    · rintro ⟨t, ⟨⟩, -⟩
  | ok t =>
    constructor
    · exact fun h => ⟨t, rfl, h⟩
    · rintro ⟨t, ⟨⟩, h⟩
      exact h

theorem execAll_append (fs : List S) (f : S) {s t s' : σ} (h : engine.execAll fs s = .ok t)
    (hf : engine.exec f t = .ok s') : engine.execAll (fs ++ [f]) s = .ok s' := by
  have hlast : engine.execAll [f] t = .ok s' := execAll_cons.mpr ⟨s', hf, rfl⟩
  rw [Engine.execAll, List.foldlM_append]
  exact (congrArg (· >>= engine.execAll [f]) h).trans hlast

theorem keepsFrom_advance (hkeep : StepsKeep engine code keeps) {v : V} {s s' : σ}
    {steps steps' : List (Step C S ε E)} {checked ran checked' ran' : Nat} (hcode : steps <:+ code v)
    (h : KeepsFrom engine keeps s (.running steps checked ran))
    (hadvance : engine.advance s (.running steps checked ran) = (s', .running steps' checked' ran')) :
    KeepsFrom engine keeps s' (.running steps' checked' ran') := by
  have hnow := keepsFrom_keeps hkeep hcode h
  cases steps with
  | nil =>
    cases hadvance
    exact h
  | cons step rest =>
    obtain ⟨t, ht, hchecks, hrun, hran⟩ := h
    simp only [Engine.advance] at hadvance
    cases hcheck : step.checks[checked]? with
    | some c =>
      have hlt := (List.getElem?_eq_some_iff.mp hcheck).1
      obtain rfl : ran = 0 := by
        by_contra hne
        have := hran (by omega)
        omega
      cases hrun
      cases hholds : engine.holds c s with
      | false =>
        simp only [hcheck, hholds] at hadvance
        cases hadvance
        exact keepsFrom_begin hnow _
      | true =>
        simp only [hcheck, hholds, if_true] at hadvance
        cases hadvance
        refine ⟨s, ht, fun c' hc' => ?_, rfl, fun hran => absurd hran (by omega)⟩
        rw [List.take_add_one, hcheck] at hc'
        rcases List.mem_append.mp hc' with hold | hnew
        · exact hchecks c' hold
        · cases List.mem_singleton.mp hnew
          exact hholds
    | none =>
      have hchecked : step.checks.length ≤ checked := List.getElem?_eq_none_iff.mp hcheck
      cases hf : step.statements[ran]? with
      | none =>
        simp only [hcheck, hf] at hadvance
        cases hadvance
        exact keepsFrom_begin hnow _
      | some f =>
        cases hexec : engine.exec f s with
        | error e =>
          simp only [hcheck, hf, hexec] at hadvance
          cases hadvance
        | ok u =>
          simp only [hcheck, hf, hexec] at hadvance
          cases hadvance
          refine ⟨t, ht, hchecks, ?_, fun _ => hchecked⟩
          rw [List.take_add_one, hf]
          exact execAll_append _ f hrun hexec

theorem advance_suffix {s s' : σ} {steps steps' : List (Step C S ε E)} {checked ran checked' ran' : Nat}
    (hadvance : engine.advance s (.running steps checked ran) = (s', .running steps' checked' ran')) :
    steps' <:+ steps := by
  cases steps with
  | nil =>
    cases hadvance
    exact List.suffix_rfl
  | cons step rest =>
    simp only [Engine.advance] at hadvance
    split at hadvance
    · split at hadvance <;> cases hadvance
      · exact List.suffix_rfl
      · exact List.suffix_cons step _
    · split at hadvance
      · split at hadvance <;> cases hadvance
        exact List.suffix_rfl
      · cases hadvance
        exact List.suffix_cons step _

/-- A client that fails leaves the store. -/
theorem advance_failed {s s' : σ} {steps : List (Step C S ε E)} {checked ran : Nat} {e : E}
    (hadvance : engine.advance s (.running steps checked ran) = (s', .failed e)) : s' = s := by
  cases steps with
  | nil => cases hadvance
  | cons step rest =>
    simp only [Engine.advance] at hadvance
    split at hadvance
    · split at hadvance <;> cases hadvance
    · split at hadvance
      · split at hadvance <;> cases hadvance
        rfl
      · cases hadvance

/-- What the steps keep holds wherever a client alone is killed. -/
theorem play_keeps (hkeep : StepsKeep engine code keeps) (v : V) (n : Nat) {s : σ} (h : keeps s) :
    keeps (engine.play n (s, .begin (code v))).1 := by
  have hmain : ∀ (n : Nat) (s : σ) (steps : List (Step C S ε E)) (checked ran : Nat),
      steps <:+ code v → KeepsFrom engine keeps s (.running steps checked ran) →
      keeps (engine.play n (s, .running steps checked ran)).1 := by
    intro n
    induction n with
    | zero => exact fun s steps checked ran hcode h => keepsFrom_keeps hkeep hcode h
    | succ n ih =>
      intro s steps checked ran hcode h
      rw [Engine.play]
      cases hadvance : engine.advance s (.running steps checked ran) with
      | mk s' client =>
        cases client with
        | running steps' checked' ran' =>
          exact ih s' steps' checked' ran' ((advance_suffix hadvance).trans hcode)
            (keepsFrom_advance hkeep hcode h hadvance)
        | failed e =>
          rw [play_failed, advance_failed hadvance]
          exact keepsFrom_keeps hkeep hcode h
  exact hmain n s (code v) 0 0 List.suffix_rfl (keepsFrom_begin h (code v))

end Keeps

end Migration
