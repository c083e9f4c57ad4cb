import Mathlib.Data.List.DropRight

/-!
# Stripping the ends of a list

What a predicate marks is taken off one end of a list or off both. A list that has no marked element
at its ends comes back from any marked surroundings.
-/

namespace Strip

variable {α : Type _} {p : α → Bool} {s before after : List α}

/-- What `p` marks comes off both ends. -/
def strip (p : α → Bool) (s : List α) : List α := (s.dropWhile p).rdropWhile p

/-- `p` marks neither end. -/
structure Bare (p : α → Bool) (s : List α) : Prop where
  head : ∀ a ∈ s.head?, p a = false
  last : ∀ a ∈ s.getLast?, p a = false

theorem Bare.of_forall (h : ∀ a ∈ s, p a = false) : Bare p s :=
  ⟨fun a ha => h a (List.mem_of_mem_head? ha), fun a ha => h a (List.mem_of_getLast? ha)⟩

theorem dropWhile_append (hbefore : ∀ a ∈ before, p a = true) (h : ∀ a ∈ s.head?, p a = false) :
    (before ++ s).dropWhile p = s := by
  rw [List.dropWhile_append_of_pos hbefore]
  cases s with
  | nil => rfl
  | cons a s => exact List.dropWhile_cons_of_neg (Bool.eq_false_iff.mp (h a rfl))

theorem rdropWhile_append (hafter : ∀ a ∈ after, p a = true) (h : ∀ a ∈ s.getLast?, p a = false) :
    (s ++ after).rdropWhile p = s := by
  rw [List.rdropWhile, List.reverse_append, dropWhile_append, List.reverse_reverse]
  · exact fun a ha => hafter a (List.mem_reverse.mp ha)
  · rw [List.head?_reverse]
    exact h

/-- Marked surroundings come off. -/
theorem strip_append (hbefore : ∀ a ∈ before, p a = true) (hafter : ∀ a ∈ after, p a = true)
    (h : Bare p s) : strip p (before ++ s ++ after) = s := by
  cases s with
  | nil =>
    have hall : ∀ a ∈ before ++ after, p a = true := fun a ha =>
      (List.mem_append.mp ha).elim (hbefore a) (hafter a)
    rw [strip, List.append_nil, List.dropWhile_eq_nil_iff.mpr hall]
    rfl
  | cons a s =>
    have hhead : ∀ c ∈ (a :: s ++ after).head?, p c = false := h.head
    rw [strip, List.append_assoc, dropWhile_append hbefore hhead]
    exact rdropWhile_append hafter h.last

theorem strip_eq_self (h : Bare p s) : strip p s = s := by
  have hnone : ∀ a ∈ ([] : List α), p a = true := fun a ha => absurd ha List.not_mem_nil
  have hstrip := strip_append hnone hnone h
  rwa [List.nil_append, List.append_nil] at hstrip

end Strip
