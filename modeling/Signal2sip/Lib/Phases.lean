import Signal2sip.Lib.Run
import Mathlib.Data.List.Induction

/-!
# Phases of a run

A predicate on states cuts a run into phases. When a run starts outside of a phase and ends inside of
it, there is a last step that entered it, and every state since is inside (`exists_entry`). What has to
be said of the end of such a run is then said of the entry, and carried over the steps inside.
-/

namespace Runs

variable {σ ε : Type*} {step : σ → ε → σ} {I : σ → Prop} {s : σ} {es : List ε} {e : ε}

theorem final_concat : final step s (es ++ [e]) = step (final step s es) e := by
  rw [final_append, final_cons, final_nil]

theorem always_concat :
    Always step I s (es ++ [e]) ↔ Always step I s es ∧ I (step (final step s es) e) := by
  induction es generalizing s with
  | nil => simp [Always]
  | cons e' es ih => simp only [List.cons_append, Always, ih, final_cons, and_assoc]

/-- The last entry into a phase that the run is in at its end. -/
theorem exists_entry (hs : ¬ I s) (h : I (final step s es)) :
    ∃ pre e post, es = pre ++ e :: post ∧ ¬ I (final step s pre) ∧
      Always step I (step (final step s pre) e) post := by
  induction es using List.reverseRecOn with
  | nil => exact absurd h hs
  | append_singleton es e ih =>
    rw [final_concat] at h
    by_cases hbefore : I (final step s es)
    · obtain ⟨pre, entry, post, rfl, hpre, hpost⟩ := ih hbefore
      refine ⟨pre, entry, post ++ [e], by simp, hpre, always_concat.mpr ⟨hpost, ?_⟩⟩
      rwa [final_append, final_cons] at h
    · exact ⟨es, e, [], rfl, hbefore, h⟩

end Runs
