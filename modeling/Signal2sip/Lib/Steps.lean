import Mathlib.Data.List.Basic
import Mathlib.Tactic.Common

/-!
# The values of a loop variable

`for (i = first; i < last; i += step)`: the values that `i` takes, in order. `values_of_lt` and
`values_of_le` are the loop one turn at a time. A loop whose body stops at one of them stops
(`mapM_none`, `foldlM_none`).
-/

namespace Steps

def values (first last : Int) (step : Nat) : List Int :=
  (List.range ((last - first + (step - 1)).toNat / step)).map fun i : Nat => first + step * i

variable {first last : Int} {step : Nat}

theorem values_of_le (hstep : 0 < step) (h : last ≤ first) : values first last step = [] := by
  have hnone : (last - first + (step - 1)).toNat / step = 0 := by
    apply Nat.div_eq_of_lt
    omega
  rw [values, hnone]
  rfl

theorem values_of_lt (hstep : 0 < step) (h : first < last) :
    values first last step = first :: values (first + step) last step := by
  have hcount : (last - first + (step - 1)).toNat / step =
      (last - (first + step) + (step - 1)).toNat / step + 1 := by
    have hturn : (last - first + (step - 1)).toNat =
        (last - (first + step) + (step - 1)).toNat + step := by omega
    rw [hturn, Nat.add_div_right _ hstep]
  rw [values, hcount, List.range_succ_eq_map, List.map_cons, List.map_map, values]
  refine congr (congrArg _ (by simp)) (List.map_congr_left fun i _ => ?_)
  have hnext : (step : Int) * ((i + 1 : Nat) : Int) = step * i + step := by
    rw [Int.natCast_add, Int.natCast_one, Int.mul_add, Int.mul_one]
  simp only [Function.comp_apply, Nat.succ_eq_add_one, hnext]
  omega

/-- Counting up. -/
theorem values_one (first : Int) (n : Nat) :
    values first (first + n) 1 = (List.range n).map fun i : Nat => first + i := by
  induction n generalizing first with
  | zero => exact values_of_le (by decide) (by omega)
  | succ n ih =>
    have hlast : first + ((n + 1 : Nat) : Int) = first + (1 : Nat) + n := by omega
    rw [values_of_lt (by decide) (by omega), hlast, ih, List.range_succ_eq_map, List.map_cons,
      List.map_map]
    refine congr (congrArg _ (by omega)) (List.map_congr_left fun i _ => ?_)
    simp only [Function.comp_apply, Nat.succ_eq_add_one]
    omega

/-! ## What the turns of a loop put together -/

variable {α : Type _}

/-- Two turns at a time. -/
theorem flatMap_pair (f : Nat → α) (n : Nat) :
    ((List.range n).flatMap fun i => [f (2 * i), f (2 * i + 1)]) = (List.range (2 * n)).map f := by
  induction n with
  | zero => rfl
  | succ n ih =>
    have hdouble : 2 * (n + 1) = 2 * n + 1 + 1 := by omega
    rw [List.range_succ, List.flatMap_append, ih, hdouble, List.range_succ, List.range_succ]
    simp

theorem map_range_const {f : Nat → α} {x : α} {n : Nat} (h : ∀ i < n, f i = x) :
    (List.range n).map f = List.replicate n x := by
  rw [List.map_congr_left fun i hi => h i (List.mem_range.mp hi), List.map_const', List.length_range]

/-- Before, inside and behind. -/
theorem map_range_add (f : Nat → α) (a b c : Nat) :
    (List.range (a + b + c)).map f = (List.range a).map f ++
      (List.range b).map (fun i => f (a + i)) ++ (List.range c).map (fun i => f (a + b + i)) := by
  rw [List.range_add, List.range_add, List.map_append, List.map_append, List.map_map, List.map_map]
  rfl

/-- A turn writes the entry with its number. -/
theorem foldl_set (f : Nat → α) {l : List α} {n : Nat} (h : n ≤ l.length) :
    (List.range n).foldl (fun l i => l.set i (f i)) l = (List.range n).map f ++ l.drop n := by
  induction n with
  | zero => rfl
  | succ n ih =>
    have hlength : ((List.range n).map f).length = n := by rw [List.length_map, List.length_range]
    have hset : (l.drop n).set 0 (f n) = f n :: l.drop (n + 1) := by
      rw [List.drop_eq_getElem_cons h, List.set_cons_zero]
    rw [List.range_succ, List.foldl_append, ih (by omega), List.foldl_cons, List.foldl_nil,
      List.set_append_right _ _ (Nat.le_of_eq hlength), hlength, Nat.sub_self, hset, List.map_append,
      List.append_assoc]
    rfl

/-! ## Loops that stop -/

/-- A loop that stops at a value stops. -/
theorem mapM_none {α β : Type} {f : α → Option β} {xs : List α} {a : α} (ha : a ∈ xs)
    (h : f a = none) : xs.mapM f = none := by
  induction xs with
  | nil => exact nomatch ha
  | cons x xs ih =>
    rw [List.mapM_cons]
    obtain rfl | hrest := List.mem_cons.mp ha
    · rw [h]
      rfl
    · cases f x with
      | none => rfl
      | some b =>
        rw [ih hrest]
        rfl

/-- A loop that stops at a value, whatever was there before, stops. -/
theorem foldlM_none {α β : Type} {f : β → α → Option β} {xs : List α} {a : α} (ha : a ∈ xs)
    (h : ∀ b, f b a = none) (b : β) : xs.foldlM f b = none := by
  induction xs generalizing b with
  | nil => exact nomatch ha
  | cons x xs ih =>
    rw [List.foldlM_cons]
    obtain rfl | hrest := List.mem_cons.mp ha
    · rw [h]
      rfl
    · cases f b x with
      | none => rfl
      | some c => exact ih hrest c

end Steps
