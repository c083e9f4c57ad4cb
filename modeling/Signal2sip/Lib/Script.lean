import Mathlib.Data.List.Basic

/-!
# Scripts

A function with side effects, cut into the steps between which another party may look: a list of
state changes, each of which may instead end the whole script (an exception that is not caught in
it). `exec` gives the state a script ends in and whether it ran to its end; `Through I` says that
`I` holds in the state it starts from and after each of its steps.
-/

/-- A list of steps; a step that returns `none` ends the script where it stands. -/
abbrev Script (σ : Type*) := List (σ → Option σ)

namespace Script

variable {σ : Type*}

/-- The state a script ends in, and whether every step of it ran. -/
def exec : Script σ → σ → σ × Bool
  | [], s => (s, true)
  | f :: fs, s =>
    match f s with
    | none => (s, false)
    | some s' => exec fs s'

/-- `I` holds before the script and after each step that ran. -/
def Through (I : σ → Prop) : Script σ → σ → Prop
  | [], s => I s
  | f :: fs, s => I s ∧ ∀ s', f s = some s' → Through I fs s'

/-- A step that cannot end the script. -/
def act (f : σ → σ) : σ → Option σ := fun s => some (f s)

@[simp] theorem exec_nil (s : σ) : exec [] s = (s, true) := rfl

@[simp] theorem through_nil {I : σ → Prop} {s : σ} : Through I [] s ↔ I s := Iff.rfl

theorem exec_cons_some {f : σ → Option σ} {fs : Script σ} {s s' : σ} (h : f s = some s') :
    exec (f :: fs) s = exec fs s' := by
  rw [exec, h]

theorem exec_cons_none {f : σ → Option σ} {fs : Script σ} {s : σ} (h : f s = none) :
    exec (f :: fs) s = (s, false) := by
  rw [exec, h]

theorem through_cons_some {I : σ → Prop} {f : σ → Option σ} {fs : Script σ} {s s' : σ}
    (h : f s = some s') : Through I (f :: fs) s ↔ I s ∧ Through I fs s' := by
  simp [Through, h]

theorem through_cons_none {I : σ → Prop} {f : σ → Option σ} {fs : Script σ} {s : σ}
    (h : f s = none) : Through I (f :: fs) s ↔ I s := by
  simp [Through, h]

@[simp] theorem exec_act_cons (f : σ → σ) (fs : Script σ) (s : σ) :
    exec (act f :: fs) s = exec fs (f s) := rfl

@[simp] theorem through_act_cons {I : σ → Prop} {f : σ → σ} {fs : Script σ} {s : σ} :
    Through I (act f :: fs) s ↔ I s ∧ Through I fs (f s) := through_cons_some rfl

theorem Through.start {I : σ → Prop} {fs : Script σ} {s : σ} (h : Through I fs s) : I s := by
  cases fs with
  | nil => exact h
  | cons f fs => exact h.1

theorem Through.imp {I J : σ → Prop} {fs : Script σ} {s : σ} (h : Through I fs s)
    (hij : ∀ s, I s → J s) : Through J fs s := by
  induction fs generalizing s with
  | nil => exact hij s h
  | cons f fs ih => exact ⟨hij s h.1, fun s' hf => ih (h.2 s' hf)⟩

/-- What holds through a script holds where it ends. -/
theorem Through.final {I : σ → Prop} {fs : Script σ} {s : σ} (h : Through I fs s) :
    I (exec fs s).1 := by
  induction fs generalizing s with
  | nil => exact h
  | cons f fs ih =>
    cases hf : f s with
    | none => rw [exec_cons_none hf]; exact h.1
    | some s' => rw [exec_cons_some hf]; exact ih (h.2 s' hf)

theorem exec_append (fs gs : Script σ) (s : σ) :
    exec (fs ++ gs) s = if (exec fs s).2 then exec gs (exec fs s).1 else exec fs s := by
  induction fs generalizing s with
  | nil => rfl
  | cons f fs ih =>
    cases hf : f s with
    | none =>
      rw [List.cons_append, exec_cons_none hf, exec_cons_none hf]
      rfl
    | some s' => rw [List.cons_append, exec_cons_some hf, exec_cons_some hf, ih]

theorem through_append {I : σ → Prop} {fs gs : Script σ} {s : σ} :
    Through I (fs ++ gs) s ↔
      Through I fs s ∧ ((exec fs s).2 = true → Through I gs (exec fs s).1) := by
  induction fs generalizing s with
  | nil => simpa using fun h => h.start
  | cons f fs ih =>
    cases hf : f s with
    | none => simp [through_cons_none hf, exec_cons_none hf]
    | some s' =>
      rw [List.cons_append, through_cons_some hf, through_cons_some hf, ih, exec_cons_some hf,
        and_assoc]

/-- What every step keeps holds through the script. -/
theorem through_of_keep {I : σ → Prop} {fs : Script σ} {s : σ}
    (keep : ∀ f ∈ fs, ∀ s s', I s → f s = some s' → I s') (hs : I s) : Through I fs s := by
  induction fs generalizing s with
  | nil => exact hs
  | cons f fs ih =>
    refine ⟨hs, fun s' hf => ?_⟩
    exact ih (fun g hg => keep g (List.mem_cons_of_mem f hg)) (keep f List.mem_cons_self s s' hs hf)

end Script
