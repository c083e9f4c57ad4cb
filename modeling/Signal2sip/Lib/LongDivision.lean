import Mathlib.Algebra.Polynomial.Div

/-!
# Long division of polynomials

The coefficients of a dividend arrive one after the other, the highest first, and a register keeps the
remainder of what has arrived. Such a register answers the remainder by polynomial division
(`foldl_step`): of the dividend that is moved up by the degree of the divisor, and of what was in the
register before the first coefficient.
-/

namespace LongDivision

open Polynomial

variable {R : Type*} [CommRing R]

/-- The polynomial with these coefficients, the highest first. -/
noncomputable def ofList : List R → R[X]
  | [] => 0
  | a :: l => C a * X ^ l.length + ofList l

/-- One more coefficient. It goes in at the top, where the divisor has its leading coefficient. -/
noncomputable def step (p r : R[X]) (a : R) : R[X] := (X * r + C a * X ^ p.natDegree) %ₘ p

theorem ofList_append_singleton (l : List R) (a : R) : ofList (l ++ [a]) = X * ofList l + C a := by
  induction l with
  | nil => simp [ofList]
  | cons b l ih =>
    rw [List.cons_append, ofList, ofList, ih, List.length_append, List.length_singleton, pow_succ]
    ring

/-- A remainder may stand for its dividend in a sum. -/
theorem mul_modByMonic_add {p : R[X]} (hp : p.Monic) (q f g : R[X]) :
    (q * (f %ₘ p) + g) %ₘ p = (q * f + g) %ₘ p := by
  refine modByMonic_eq_of_dvd_sub hp ?_
  have hsub : q * (f %ₘ p) + g - (q * f + g) = q * (f %ₘ p - f) := by ring
  rw [hsub]
  exact (dvd_modByMonic_sub f p).mul_left q

theorem step_modByMonic {p : R[X]} (hp : p.Monic) (f : R[X]) (a : R) :
    step p (f %ₘ p) a = (X * f + C a * X ^ p.natDegree) %ₘ p :=
  mul_modByMonic_add hp X f _

/-- The register after a whole dividend. -/
theorem foldl_step {p : R[X]} (hp : p.Monic) (r : R[X]) (l : List R) :
    l.foldl (step p) (r %ₘ p) = (ofList l * X ^ p.natDegree + r * X ^ l.length) %ₘ p := by
  induction l using List.reverseRecOn with
  | nil => simp [ofList]
  | append_singleton l a ih =>
    have hnext : X * (ofList l * X ^ p.natDegree + r * X ^ l.length) + C a * X ^ p.natDegree =
        ofList (l ++ [a]) * X ^ p.natDegree + r * X ^ (l ++ [a]).length := by
      rw [ofList_append_singleton, List.length_append, List.length_singleton, pow_succ]
      ring
    rw [List.foldl_append, List.foldl_cons, List.foldl_nil, ih, step_modByMonic hp, hnext]

end LongDivision
