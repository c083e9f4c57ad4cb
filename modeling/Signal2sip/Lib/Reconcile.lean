import Mathlib.Data.List.Nodup

/-!
# Keyed reconciliation

A reconciler keeps a table of things that run, reads what is wanted, and makes the one like the other:
it stops what nobody wants any more, leaves alone what it takes for current, and builds the rest. It
works through the keys one after the other, and a step concerns its own key only.

- `loop_elsewhere`, `loop_at`: what a loop of such steps leaves at a key is what that key's step left.
- `Pass` says what one pass does at each key, and the theorems after it what follows from that alone:
  - `Pass.keeps_iff`: which of the running things a pass leaves as they are;
  - `Pass.same_iff`: when a pass changes nothing;
  - `Pass.converges_iff`: what runs afterwards is what is wanted, and agrees with it, exactly when the
    things that the pass took for current agreed.

Whether the test for "current" is any good is the question that `converges_iff` leaves open.
-/

namespace Reconcile

/-! ## Loops over keys -/

section Loops

variable {σ ε κ γ : Type*} {step : σ → ε → Option σ} {key : ε → κ} {view : σ → κ → γ}

/-- A step changes what is seen at its own key and nowhere else. -/
def Framed (step : σ → ε → Option σ) (key : ε → κ) (view : σ → κ → γ) : Prop :=
  ∀ s e s', step s e = some s' → ∀ k, k ≠ key e → view s' k = view s k

/-- Every step that the loop comes to meets `P`. -/
def EachStep (step : σ → ε → Option σ) (P : σ → ε → Prop) : σ → List ε → Prop
  | _, [] => True
  | s, e :: es => P s e ∧ ∀ s', step s e = some s' → EachStep step P s' es

theorem EachStep.imp {P Q : σ → ε → Prop} (h : ∀ s e, P s e → Q s e) {s : σ} {es : List ε}
    (hP : EachStep step P s es) : EachStep step Q s es := by
  induction es generalizing s with
  | nil => trivial
  | cons e es ih => exact ⟨h s e hP.1, fun s' hs' => ih (hP.2 s' hs')⟩

theorem loop_cons {s s' : σ} {e : ε} {es : List ε} :
    (e :: es).foldlM step s = some s' ↔ ∃ s₁, step s e = some s₁ ∧ es.foldlM step s₁ = some s' := by
  rw [List.foldlM_cons]
  exact Option.bind_eq_some_iff

/-- What every step that returns meets, a loop that returns meets throughout. -/
theorem eachStep_of_run {P : σ → ε → Prop} (h : ∀ s e s', step s e = some s' → P s e) {s s' : σ}
    {es : List ε} (hrun : es.foldlM step s = some s') : EachStep step P s es := by
  induction es generalizing s with
  | nil => trivial
  | cons e es ih =>
    obtain ⟨s₁, hstep, hrest⟩ := loop_cons.mp hrun
    refine ⟨h s e s₁ hstep, fun s₂ hs₂ => ?_⟩
    rw [hstep] at hs₂
    exact Option.some.inj hs₂ ▸ ih hrest

/-- A loop returns when what its steps meet makes them return. -/
theorem loop_returns {P : σ → ε → Prop} (h : ∀ s e, P s e → ∃ s', step s e = some s') {s : σ}
    {es : List ε} (hP : EachStep step P s es) : ∃ s', es.foldlM step s = some s' := by
  induction es generalizing s with
  | nil => exact ⟨s, rfl⟩
  | cons e es ih =>
    obtain ⟨s₁, hstep⟩ := h s e hP.1
    obtain ⟨s', hrest⟩ := ih (hP.2 s₁ hstep)
    exact ⟨s', loop_cons.mpr ⟨s₁, hstep, hrest⟩⟩

/-- What every step keeps, the loop keeps. -/
theorem loop_keeps {I : σ → Prop} (keep : ∀ s e s', I s → step s e = some s' → I s') {s s' : σ}
    {es : List ε} (hs : I s) (hrun : es.foldlM step s = some s') : I s' := by
  induction es generalizing s with
  | nil =>
    cases hrun
    exact hs
  | cons e es ih =>
    obtain ⟨s₁, hstep, hrest⟩ := loop_cons.mp hrun
    exact ih (keep s e s₁ hs hstep) hrest

/-- A loop with no step for a key changes nothing there. -/
theorem loop_elsewhere (framed : Framed step key view) {s s' : σ} {es : List ε} {k : κ}
    (hrun : es.foldlM step s = some s') (hk : ∀ e ∈ es, k ≠ key e) : view s' k = view s k := by
  induction es generalizing s with
  | nil =>
    cases hrun
    rfl
  | cons e es ih =>
    obtain ⟨s₁, hstep, hrest⟩ := loop_cons.mp hrun
    rw [ih hrest fun e' he' => hk e' (List.mem_cons_of_mem e he')]
    exact framed s e s₁ hstep k (hk e List.mem_cons_self)

/-- What a loop leaves at a key with one step is what the step made of what was there. -/
theorem loop_at (framed : Framed step key view) {P : σ → ε → Prop} {s s' : σ} {es : List ε} {e : ε}
    (hrun : es.foldlM step s = some s') (hP : EachStep step P s es) (hnodup : (es.map key).Nodup)
    (he : e ∈ es) :
    ∃ s₁ s₂, view s₁ (key e) = view s (key e) ∧ P s₁ e ∧ step s₁ e = some s₂ ∧
      view s' (key e) = view s₂ (key e) := by
  induction es generalizing s with
  | nil => cases he
  | cons e₀ es ih =>
    obtain ⟨s₁, hstep, hrest⟩ := loop_cons.mp hrun
    obtain ⟨hnew, hnodup'⟩ := List.nodup_cons.mp hnodup
    rcases List.mem_cons.mp he with rfl | hmem
    · refine ⟨s, s₁, rfl, hP.1, hstep, loop_elsewhere framed hrest fun e' he' heq => ?_⟩
      exact hnew (heq ▸ List.mem_map_of_mem he')
    · have hne : key e ≠ key e₀ := fun heq => hnew (heq ▸ List.mem_map_of_mem hmem)
      obtain ⟨t₁, t₂, hview, hp, ht, hend⟩ := ih hrest (hP.2 s₁ hstep) hnodup' hmem
      exact ⟨t₁, t₂, hview.trans (framed s e₀ s₁ hstep _ hne), hp, ht, hend⟩

end Loops

/-! ## One pass -/

section Passes

variable {κ α β : Type*} {current : β → α → Prop} {Built : κ → α → Option β → Prop}
  {wanted : κ → Option α} {before after : κ → Option β}

/-- One pass over all keys. `current` is the test by which a running thing is left alone, and `Built`
says what can come of building one: something, or nothing when that fails. -/
structure Pass (current : β → α → Prop) (Built : κ → α → Option β → Prop) (wanted : κ → Option α)
    (before after : κ → Option β) : Prop where
  stopped : ∀ k, wanted k = none → after k = none
  kept : ∀ k a b, wanted k = some a → before k = some b → current b a → after k = some b
  built : ∀ k a, wanted k = some a → (∀ b, before k = some b → ¬ current b a) → Built k a (after k)

namespace Pass

variable (h : Pass current Built wanted before after)

include h

/-- A running thing stays as it is when it is wanted and current; what is built would be current. -/
theorem keeps_iff (hbuilt : ∀ k a b, Built k a (some b) → current b a) {k : κ} {b : β}
    (hb : before k = some b) : after k = some b ↔ ∃ a, wanted k = some a ∧ current b a := by
  constructor
  · intro hkept
    cases hw : wanted k with
    | none =>
      rw [h.stopped k hw] at hkept
      cases hkept
    | some a =>
      refine ⟨a, rfl, ?_⟩
      by_contra hnot
      have hnew : Built k a (after k) :=
        h.built k a hw fun b' hb' => by rwa [← Option.some.inj (hb.symm.trans hb')]
      rw [hkept] at hnew
      exact hnot (hbuilt k a b hnew)
  · rintro ⟨a, hw, hcurrent⟩
    exact h.kept k a b hw hb hcurrent

/-- A pass in which no build fails changes nothing exactly when what runs is current and wanted, and
nothing else is wanted. -/
theorem same_iff (hbuilt : ∀ k a x, Built k a x → ∃ b, x = some b ∧ current b a) :
    (∀ k, after k = before k) ↔
      (∀ k b, before k = some b → ∃ a, wanted k = some a ∧ current b a) ∧
        ∀ k a, wanted k = some a → ∃ b, before k = some b := by
  have hbuilt' : ∀ k a b, Built k a (some b) → current b a := by
    intro k a b hnew
    obtain ⟨b', hb', hcurrent⟩ := hbuilt k a _ hnew
    cases hb'
    exact hcurrent
  constructor
  · intro hsame
    refine ⟨fun k b hb => (h.keeps_iff hbuilt' hb).mp ((hsame k).trans hb), fun k a hw => ?_⟩
    cases hb : before k with
    | some b => exact ⟨b, rfl⟩
    | none =>
      have hnew := h.built k a hw fun b hb' => by rw [hb] at hb'; cases hb'
      rw [hsame k, hb] at hnew
      obtain ⟨b, hnone, -⟩ := hbuilt k a none hnew
      cases hnone
  · rintro ⟨hcurrent, hwanted⟩ k
    cases hb : before k with
    | some b => exact (h.keeps_iff hbuilt' hb).mpr (hcurrent k b hb)
    | none =>
      cases hw : wanted k with
      | none => exact h.stopped k hw
      | some a =>
        obtain ⟨b, hb'⟩ := hwanted k a hw
        rw [hb] at hb'
        cases hb'

/-- After a pass in which no build fails, the wanted things run, and they agree with what is wanted
exactly when those did that the pass took for current. -/
theorem converges_iff {Agrees : κ → β → α → Prop}
    (hbuilt : ∀ k a x, Built k a x → ∃ b, x = some b ∧ Agrees k b a) :
    ((∀ k, (∃ b, after k = some b) ↔ ∃ a, wanted k = some a) ∧
        ∀ k b, after k = some b → ∃ a, wanted k = some a ∧ Agrees k b a) ↔
      ∀ k a b, wanted k = some a → before k = some b → current b a → Agrees k b a := by
  constructor
  · rintro ⟨-, hagree⟩ k a b hw hb hcurrent
    obtain ⟨a', hw', ha'⟩ := hagree k b (h.kept k a b hw hb hcurrent)
    rwa [Option.some.inj (hw.symm.trans hw')]
  · intro hsound
    have hwanted : ∀ k b, after k = some b → ∃ a, wanted k = some a ∧ Agrees k b a := by
      intro k b hb
      cases hw : wanted k with
      | none =>
        rw [h.stopped k hw] at hb
        cases hb
      | some a =>
        refine ⟨a, rfl, ?_⟩
        by_cases hkept : ∃ b', before k = some b' ∧ current b' a
        · obtain ⟨b', hb', hcurrent⟩ := hkept
          have hsame : b' = b := Option.some.inj ((h.kept k a b' hw hb' hcurrent).symm.trans hb)
          exact hsame ▸ hsound k a b' hw hb' hcurrent
        · obtain ⟨b', hb', hagrees⟩ := hbuilt k a _ (h.built k a hw fun b' hb' hcurrent =>
            hkept ⟨b', hb', hcurrent⟩)
          rwa [Option.some.inj (hb.symm.trans hb')]
    refine ⟨fun k => ⟨?_, ?_⟩, hwanted⟩
    · rintro ⟨b, hb⟩
      obtain ⟨a, hw, -⟩ := hwanted k b hb
      exact ⟨a, hw⟩
    · rintro ⟨a, hw⟩
      by_cases hkept : ∃ b', before k = some b' ∧ current b' a
      · obtain ⟨b', hb', hcurrent⟩ := hkept
        exact ⟨b', h.kept k a b' hw hb' hcurrent⟩
      · obtain ⟨b', hb', -⟩ := hbuilt k a _ (h.built k a hw fun b' hb' hcurrent =>
          hkept ⟨b', hb', hcurrent⟩)
        exact ⟨b', hb'⟩

end Pass

end Passes

end Reconcile
