import Mathlib.Data.List.Induction
import Mathlib.Order.Lattice

/-!
# A consumer that takes portions

A consumer comes again and again and takes up to `portion` of what has arrived. It counts arrivals from
the start, and what it sees of them may be out of date: `seen` has the count that it saw each time.

What it has taken by now is the least of what it would have taken had it always found enough, and, for
each of its visits, what had arrived at that visit and full portions from then on (`le_served_iff`).
-/

namespace Portions

variable {portion : Nat}

/-- What has been taken after visits that saw these counts. -/
def served (portion : Nat) (seen : List Nat) : Nat :=
  seen.foldl (fun taken count => taken + min portion (count - taken)) 0

@[simp] theorem served_nil : served portion [] = 0 := rfl

theorem served_concat (seen : List Nat) (count : Nat) :
    served portion (seen ++ [count]) =
      served portion seen + min portion (count - served portion seen) := by
  rw [served, List.foldl_append]
  rfl

/-- Counts that were seen one after the other, none of them above a bound. -/
def Seen (seen : List Nat) (bound : Nat) : Prop :=
  seen.Pairwise (· ≤ ·) ∧ ∀ count ∈ seen, count ≤ bound

theorem Seen.nil (bound : Nat) : Seen [] bound := ⟨List.Pairwise.nil, by simp⟩

theorem Seen.mono {seen : List Nat} {bound bound' : Nat} (h : Seen seen bound) (hle : bound ≤ bound') :
    Seen seen bound' := ⟨h.1, fun count hmem => (h.2 count hmem).trans hle⟩

theorem seen_concat {seen : List Nat} {count bound : Nat} :
    Seen (seen ++ [count]) bound ↔ Seen seen count ∧ count ≤ bound := by
  simp only [Seen, List.pairwise_append, List.pairwise_cons, List.mem_append, List.mem_singleton]
  constructor
  · rintro ⟨⟨hseen, -, hle⟩, hbound⟩
    exact ⟨⟨hseen, fun c hc => hle c hc count rfl⟩, hbound count (.inr rfl)⟩
  · rintro ⟨⟨hseen, hle⟩, hbound⟩
    refine ⟨⟨hseen, by simp, fun c hc c' hc' => hc' ▸ hle c hc⟩, ?_⟩
    rintro c (hc | rfl)
    · exact (hle c hc).trans hbound
    · exact hbound

theorem Seen.take {seen : List Nat} {bound : Nat} (h : Seen seen bound) (k : Nat) :
    Seen (seen.take k) bound :=
  ⟨h.1.sublist (List.take_sublist k seen), fun count hmem => h.2 count (List.mem_of_mem_take hmem)⟩

/-- More visits take no less. -/
theorem served_le_append (seen more : List Nat) : served portion seen ≤ served portion (seen ++ more) := by
  induction more using List.reverseRecOn with
  | nil => rw [List.append_nil]
  | append_singleton more count ih =>
    rw [← List.append_assoc, served_concat]
    exact Nat.le_add_right_of_le ih

/-- Nothing is taken that was not seen. -/
theorem served_le {seen : List Nat} {bound : Nat} (h : Seen seen bound) : served portion seen ≤ bound := by
  induction seen using List.reverseRecOn generalizing bound with
  | nil => exact Nat.zero_le bound
  | append_singleton seen count ih =>
    obtain ⟨hseen, hbound⟩ := seen_concat.mp h
    have hle := ih hseen
    rw [served_concat]
    omega

/-- At least `x` has been taken exactly when full portions would have sufficed from the start, and from
every visit on, with what had arrived by it. -/
theorem le_served_iff {seen : List Nat} {bound x : Nat} (h : Seen seen bound) :
    x ≤ served portion seen ↔
      x ≤ portion * seen.length ∧
        ∀ pre count post, seen = pre ++ count :: post → x ≤ count + portion * post.length := by
  induction seen using List.reverseRecOn generalizing bound x with
  | nil => simp
  | append_singleton seen last ih =>
    obtain ⟨hseen, -⟩ := seen_concat.mp h
    have hle : served portion seen ≤ last := served_le hseen
    -- the last visit takes a full portion, or all that it sees
    have hlast : x ≤ served portion (seen ++ [last]) ↔ x - portion ≤ served portion seen ∧ x ≤ last := by
      rw [served_concat]
      omega
    rw [hlast, ih hseen]
    constructor
    · rintro ⟨⟨hstart, hvisits⟩, hx⟩
      refine ⟨?_, fun pre count post heq => ?_⟩
      · rw [List.length_append, List.length_singleton, Nat.mul_succ]
        omega
      · rcases List.eq_nil_or_concat post with rfl | ⟨post', last', rfl⟩
        · obtain ⟨rfl, hcount⟩ := List.append_inj' heq rfl
          obtain rfl : last = count := by simpa using hcount
          exact Nat.le_add_right_of_le hx
        · have heq' : seen ++ [last] = (pre ++ count :: post') ++ [last'] := by simpa using heq
          obtain ⟨rfl, -⟩ := List.append_inj' heq' rfl
          have hvisit := hvisits pre count post' rfl
          rw [List.concat_eq_append, List.length_append, List.length_singleton, Nat.mul_succ]
          omega
    · rintro ⟨hstart, hvisits⟩
      rw [List.length_append, List.length_singleton, Nat.mul_succ] at hstart
      refine ⟨⟨by omega, ?_⟩, ?_⟩
      · rintro pre count post rfl
        have hvisit := hvisits pre count (post ++ [last]) (by simp)
        rw [List.length_append, List.length_singleton, Nat.mul_succ] at hvisit
        omega
      · have hvisit := hvisits seen last [] rfl
        simpa using hvisit

/-- After enough visits that saw at least `x`, that much has been taken. -/
theorem le_served_of_visits {seen visits : List Nat} {bound x : Nat} (h : Seen (seen ++ visits) bound)
    (hsaw : ∀ count ∈ visits, x ≤ count)
    (henough : x ≤ served portion seen + portion * visits.length) :
    x ≤ served portion (seen ++ visits) := by
  induction visits using List.reverseRecOn generalizing bound x with
  | nil => simpa using henough
  | append_singleton visits last ih =>
    rw [← List.append_assoc] at h ⊢
    obtain ⟨hseen, -⟩ := seen_concat.mp h
    have hlast : x ≤ last := hsaw last (by simp)
    rw [List.length_append, List.length_singleton, Nat.mul_succ] at henough
    -- a portion less had been taken one visit before
    have hbefore : x - portion ≤ served portion (seen ++ visits) :=
      ih hseen (fun count hcount => (Nat.sub_le x portion).trans (hsaw count (by simp [hcount])))
        (by omega)
    rw [served_concat]
    omega

end Portions
