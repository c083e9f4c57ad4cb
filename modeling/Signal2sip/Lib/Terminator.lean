import Mathlib.Data.List.Induction

/-!
# A message, a terminator, and filler

A message of any content is brought to a longer size by one terminator and filler after it. The
message may itself end in terminators and in filler, and still it is known from the result: the end
is the last terminator with nothing but filler behind it, so a scan from the back finds it. One
element of that scan is `padded_snoc`.
-/

namespace Terminator

variable {α : Type _} {mark fill : α} {m m' x : List α}

/-- `x` is `m`, the terminator `mark`, and any number of `fill`. -/
def Padded (mark fill : α) (m x : List α) : Prop :=
  ∃ k, x = m ++ mark :: List.replicate k fill

theorem not_padded_nil : ¬ Padded mark fill m [] := by
  rintro ⟨k, h⟩
  exact absurd h.symm (List.append_ne_nil_of_right_ne_nil _ (List.cons_ne_nil _ _))

/-- The last element is the terminator itself, or filler behind an earlier one. -/
theorem padded_snoc {b : α} :
    Padded mark fill m (x ++ [b]) ↔ (b = mark ∧ x = m) ∨ (b = fill ∧ Padded mark fill m x) := by
  constructor
  · rintro ⟨k, h⟩
    cases k with
    | zero =>
      obtain ⟨hx, hb⟩ := List.append_inj' h rfl
      exact .inl ⟨List.head_eq_of_cons_eq hb, hx⟩
    | succ k =>
      rw [List.replicate_succ', ← List.cons_append, ← List.append_assoc] at h
      obtain ⟨hx, hb⟩ := List.append_inj' h rfl
      exact .inr ⟨List.head_eq_of_cons_eq hb, k, hx⟩
  · rintro (⟨rfl, rfl⟩ | ⟨rfl, k, rfl⟩)
    · exact ⟨0, rfl⟩
    · refine ⟨k + 1, ?_⟩
      rw [List.replicate_succ', ← List.cons_append, ← List.append_assoc]

/-- Filler is not a terminator, so a padded message is known. -/
theorem Padded.unique (hne : mark ≠ fill) (h : Padded mark fill m x)
    (h' : Padded mark fill m' x) : m = m' := by
  induction x using List.reverseRecOn with
  | nil => exact absurd h not_padded_nil
  | append_singleton x b ih =>
    rcases padded_snoc.mp h with ⟨hb, rfl⟩ | ⟨hb, hx⟩
    · rcases padded_snoc.mp h' with ⟨-, rfl⟩ | ⟨hb', -⟩
      · rfl
      · exact absurd (hb.symm.trans hb') hne
    · rcases padded_snoc.mp h' with ⟨hb', -⟩ | ⟨-, hx'⟩
      · exact absurd (hb'.symm.trans hb) hne
      · exact ih hx hx'

/-- The scan from the back in one expression: what is left when the filler has gone. -/
theorem padded_iff_dropWhile [DecidableEq α] (hne : mark ≠ fill) :
    Padded mark fill m x ↔ x.reverse.dropWhile (· = fill) = mark :: m.reverse := by
  induction x using List.reverseRecOn with
  | nil => exact iff_of_false not_padded_nil (List.cons_ne_nil _ _).symm
  | append_singleton x b ih =>
    rw [padded_snoc, ih, List.reverse_append, List.reverse_singleton, List.singleton_append,
      List.dropWhile_cons]
    by_cases hfill : b = fill
    · rw [if_pos (decide_eq_true hfill)]
      have hmark : b ≠ mark := fun hmark => hne (hmark.symm.trans hfill)
      simp only [hfill, true_and, hfill ▸ hmark, false_and, false_or]
    · rw [if_neg (by simpa using hfill)]
      simp only [hfill, false_and, or_false, List.cons.injEq, List.reverse_inj]

end Terminator
