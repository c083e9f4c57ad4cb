import Mathlib.Algebra.CharP.Two
import Mathlib.Algebra.Field.ZMod
import Mathlib.Algebra.Polynomial.OfFn
import Signal2sip.Lib.Crc32
import Signal2sip.Lib.LongDivision

/-!
# CRC-32 as a remainder

A register is a polynomial over the two bits, with its lowest bit at the top (`poly`). A shift is then
one step of a long division by `generator`, and the checksum of some bytes is a remainder: of the
message with 32 zeros behind it and of the register's first value in front of it (`crc32_eq_iff`).
-/

namespace Crc32

open Polynomial
open LongDivision (ofList step)

def coefficient (b : Bool) : ZMod 2 := b.toNat

/-- A reflected register: the coefficient of `X ^ i` is the bit `31 - i`. -/
noncomputable def poly (c : UInt32) : (ZMod 2)[X] :=
  ofFn 32 fun i => coefficient (c.toNat.testBit (31 - i))

/-- The leading coefficient does not fit into a register. -/
noncomputable def generator : (ZMod 2)[X] := X ^ 32 + poly polynomial

/-- The lowest bit first. -/
def bits (byte : UInt8) : List (ZMod 2) :=
  (List.range 8).map fun i => coefficient (byte.toNat.testBit i)

/-- The first bit of the data has the highest power. -/
noncomputable def message (data : List UInt8) : (ZMod 2)[X] := ofList (data.flatMap bits)

/-! ## Registers as polynomials -/

theorem coefficient_xor (a b : Bool) : coefficient (a ^^ b) = coefficient a + coefficient b := by
  cases a <;> cases b <;> decide

theorem coefficient_injective : Function.Injective coefficient := by decide

theorem coeff_poly {i : Nat} (hi : i < 32) (c : UInt32) :
    (poly c).coeff i = coefficient (c.toNat.testBit (31 - i)) :=
  ofFn_coeff_eq_val_of_lt _ hi

theorem coeff_poly_of_le {i : Nat} (hi : 32 ≤ i) (c : UInt32) : (poly c).coeff i = 0 :=
  ofFn_coeff_eq_zero_of_ge _ hi

theorem degree_poly_lt (c : UInt32) : (poly c).degree < (32 : Nat) := ofFn_degree_lt _

theorem poly_xor (a b : UInt32) : poly (a ^^^ b) = poly a + poly b := by
  ext i
  rw [coeff_add]
  by_cases hi : i < 32
  · rw [coeff_poly hi, coeff_poly hi, coeff_poly hi, UInt32.toNat_xor, Nat.testBit_xor,
      coefficient_xor]
  · rw [coeff_poly_of_le (not_lt.mp hi), coeff_poly_of_le (not_lt.mp hi),
      coeff_poly_of_le (not_lt.mp hi), add_zero]

theorem testBit_of_le {i : Nat} (hi : 32 ≤ i) (c : UInt32) : c.toNat.testBit i = false :=
  Nat.testBit_lt_two_pow (lt_of_lt_of_le c.toNat_lt (Nat.pow_le_pow_right (by decide) hi))

theorem poly_injective : Function.Injective poly := by
  intro a b h
  refine UInt32.toNat_inj.mp (Nat.eq_of_testBit_eq fun i => ?_)
  by_cases hi : i < 32
  · have hcoeff : (poly a).coeff (31 - i) = (poly b).coeff (31 - i) := by rw [h]
    have hback : 31 - (31 - i) = i := by omega
    rw [coeff_poly (by omega), coeff_poly (by omega), hback] at hcoeff
    exact coefficient_injective hcoeff
  · rw [testBit_of_le (not_lt.mp hi), testBit_of_le (not_lt.mp hi)]

theorem monic_generator : generator.Monic := monic_X_pow_add (degree_poly_lt polynomial)

theorem degree_generator : generator.degree = (32 : Nat) := by
  rw [generator, degree_add_eq_left_of_degree_lt, degree_X_pow]
  rw [degree_X_pow]
  exact degree_poly_lt polynomial

theorem natDegree_generator : generator.natDegree = 32 :=
  natDegree_eq_of_degree_eq_some degree_generator

/-- The divisor in full. -/
theorem generator_eq : generator = X ^ 32 + (X ^ 26 + X ^ 23 + X ^ 22 + X ^ 16 + X ^ 12 + X ^ 11 +
    X ^ 10 + X ^ 8 + X ^ 7 + X ^ 5 + X ^ 4 + X ^ 2 + X + 1) := by
  rw [generator]
  refine congrArg (X ^ 32 + ·) ?_
  ext i
  by_cases hi : i < 32
  · rw [coeff_poly hi]
    simp only [coeff_add, coeff_X_pow, coeff_X, coeff_one]
    revert i
    decide
  · rw [coeff_poly_of_le (not_lt.mp hi)]
    simp (disch := omega) only [coeff_add, coeff_X_pow, coeff_X, coeff_one, if_neg, add_zero]

/-- A register is its own remainder. -/
theorem poly_modByMonic (c : UInt32) : poly c %ₘ generator = poly c := by
  rw [modByMonic_eq_self_iff monic_generator, degree_generator]
  exact degree_poly_lt c

/-! ## A shift is a step of the division -/

/-- The bit that falls out at the bottom would be the coefficient of `X ^ 32`. -/
theorem X_mul_poly (c : UInt32) :
    X * poly c = poly (c >>> 1) + C (coefficient (c.toNat.testBit 0)) * X ^ 32 := by
  have hbit (i : Nat) : (c >>> 1).toNat.testBit i = c.toNat.testBit (i + 1) := by
    rw [toNat_halve, Nat.testBit_add_one]
  ext i
  rw [coeff_add, coeff_C_mul, coeff_X_pow]
  cases i with
  | zero =>
    rw [coeff_X_mul_zero, coeff_poly (by decide), hbit, testBit_of_le (by decide)]
    simp [coefficient]
  | succ i =>
    rw [coeff_X_mul]
    obtain hlt | rfl | hgt := lt_trichotomy i 31
    · have hplace : 31 - (i + 1) + 1 = 31 - i := by omega
      rw [coeff_poly (by omega), coeff_poly (by omega), hbit, hplace, if_neg (by omega), mul_zero,
        add_zero]
    · rw [coeff_poly (by decide), coeff_poly_of_le (by decide), if_pos rfl, mul_one, zero_add]
    · rw [coeff_poly_of_le (by omega), coeff_poly_of_le (by omega), if_neg (by omega), mul_zero,
        add_zero]

/-- The divisor is subtracted when the leading bit is set. -/
theorem poly_shift_add (c : UInt32) :
    poly (shift c) + generator * C (coefficient (c.toNat.testBit 0)) = X * poly c := by
  rw [X_mul_poly, Nat.testBit_zero]
  by_cases h : c.toNat % 2 = 1
  · have hone : coefficient (decide (c.toNat % 2 = 1)) = 1 := by rw [decide_eq_true h]; rfl
    have htwice : poly polynomial + poly polynomial = 0 := CharTwo.add_self_eq_zero _
    calc poly (shift c) + generator * C (coefficient (decide (c.toNat % 2 = 1)))
        = (poly polynomial + poly polynomial) + poly (c >>> 1) + X ^ 32 := by
          rw [shift_odd h, poly_xor, hone, C_1, mul_one, generator]
          ring
      _ = poly (c >>> 1) + C (coefficient (decide (c.toNat % 2 = 1))) * X ^ 32 := by
          rw [htwice, zero_add, hone, C_1, one_mul]
  · have hzero : coefficient (decide (c.toNat % 2 = 1)) = 0 := by rw [decide_eq_false h]; rfl
    rw [shift_even h, hzero, C_0, mul_zero, zero_mul]

theorem poly_shift (c : UInt32) : poly (shift c) = (X * poly c) %ₘ generator := by
  have hdegree : (poly (shift c)).degree < generator.degree := by
    rw [degree_generator]
    exact degree_poly_lt _
  exact (div_modByMonic_unique _ _ monic_generator ⟨poly_shift_add c, hdegree⟩).2.symm

/-- A bit in the lowest place. -/
theorem poly_bit (b : Bool) : poly (UInt32.ofNat b.toNat) = C (coefficient b) * X ^ 31 := by
  ext i
  rw [coeff_C_mul, coeff_X_pow]
  obtain hlt | rfl | hgt := lt_trichotomy i 31
  · have hplace : 31 - i = (30 - i) + 1 := by omega
    have hhalf : (UInt32.ofNat b.toNat).toNat / 2 = 0 := by cases b <;> rfl
    rw [coeff_poly (by omega), hplace, Nat.testBit_add_one, hhalf, Nat.zero_testBit, if_neg (by omega),
      mul_zero]
    rfl
  · rw [coeff_poly (by decide), if_pos rfl, mul_one]
    cases b <;> rfl
  · rw [coeff_poly_of_le (by omega), if_neg (by omega), mul_zero]

theorem poly_shift_bit (c : UInt32) (b : Bool) :
    poly (shift (c ^^^ UInt32.ofNat b.toNat)) = step generator (poly c) (coefficient b) := by
  have htop : X * (poly c + C (coefficient b) * X ^ 31) = X * poly c + C (coefficient b) * X ^ 32 := by
    ring
  rw [poly_shift, poly_xor, poly_bit, htop, step, natDegree_generator]

/-! ## The data -/

theorem poly_feed (c : UInt32) (k n : Nat) : poly (feed c k n) =
    ((List.range k).map fun i => coefficient (n.testBit i)).foldl (step generator) (poly c) := by
  induction k generalizing c n with
  | zero => rfl
  | succ k ih =>
    have hbit : n % 2 = (n.testBit 0).toNat := by
      rw [Nat.toNat_testBit, Nat.pow_zero, Nat.div_one]
    rw [feed, ih, hbit, poly_shift_bit, List.range_succ_eq_map, List.map_cons, List.foldl_cons,
      List.map_map]
    simp only [Function.comp_def, Nat.testBit_succ]

theorem poly_foldl_update (c : UInt32) (data : List UInt8) : poly (data.foldl update c) =
    (message data * X ^ 32 + poly c * X ^ (8 * data.length)) %ₘ generator := by
  have hfold : poly (data.foldl update c) = (data.flatMap bits).foldl (step generator) (poly c) := by
    induction data generalizing c with
    | nil => rfl
    | cons byte data ih =>
      rw [List.foldl_cons, ih, update, poly_feed, List.flatMap_cons, List.foldl_append, bits]
  have hlength : (data.flatMap bits).length = 8 * data.length := by
    simp [List.length_flatMap, bits, Nat.mul_comm]
  rw [hfold, ← poly_modByMonic c, LongDivision.foldl_step monic_generator, natDegree_generator, hlength,
    poly_modByMonic, message]

/-- The checksum is the one register with this remainder. -/
theorem crc32_eq_iff (data : List UInt8) (c : UInt32) : crc32 data = c ↔
    poly (c ^^^ 0xFFFFFFFF) =
      (message data * X ^ 32 + poly 0xFFFFFFFF * X ^ (8 * data.length)) %ₘ generator := by
  rw [← poly_foldl_update, poly_injective.eq_iff, crc32]
  constructor
  · rintro rfl
    rw [UInt32.xor_assoc, UInt32.xor_self, UInt32.xor_zero]
  · intro h
    rw [← h, UInt32.xor_assoc, UInt32.xor_self, UInt32.xor_zero]

end Crc32
