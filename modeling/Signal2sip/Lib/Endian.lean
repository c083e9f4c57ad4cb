import Mathlib.Algebra.Group.Nat.Defs
import Mathlib.Data.List.Basic
import Mathlib.Tactic.Common

/-!
# Numbers in a fixed number of bytes

The most significant byte comes first; for the other order a text is reversed. What was written is
read back as long as the number fits.
-/

namespace Endian

/-- The last `k` bytes of a number. -/
def bytes : Nat → Nat → List UInt8
  | 0, _ => []
  | k + 1, n => bytes k (n / 256) ++ [UInt8.ofNat (n % 256)]

def value (s : List UInt8) : Nat := s.foldl (fun n byte => 256 * n + byte.toNat) 0

@[simp] theorem length_bytes (k n : Nat) : (bytes k n).length = k := by
  induction k generalizing n with
  | zero => rfl
  | succ k ih => rw [bytes, List.length_append, ih, List.length_singleton]

theorem value_append_singleton (s : List UInt8) (byte : UInt8) :
    value (s ++ [byte]) = 256 * value s + byte.toNat := by
  rw [value, List.foldl_append]
  rfl

/-- What does not fit is lost at the top. -/
theorem value_bytes_mod (k n : Nat) : value (bytes k n) = n % 256 ^ k := by
  induction k generalizing n with
  | zero => rw [Nat.pow_zero, Nat.mod_one]; rfl
  | succ k ih =>
    rw [bytes, value_append_singleton, ih, UInt8.toNat_ofNat', Nat.mod_mod, Nat.pow_succ', Nat.mod_mul,
      Nat.add_comm]

theorem bytes_mod (k n : Nat) : bytes k (n % 256 ^ k) = bytes k n := by
  induction k generalizing n with
  | zero => rfl
  | succ k ih =>
    have hdiv : n % 256 ^ (k + 1) / 256 = n / 256 % 256 ^ k := by
      rw [Nat.pow_succ', Nat.mod_mul_right_div_self]
    have hmod : n % 256 ^ (k + 1) % 256 = n % 256 := by
      rw [Nat.pow_succ', Nat.mod_mul_right_mod]
    rw [bytes, bytes, hdiv, ih, hmod]

theorem value_bytes {k n : Nat} (h : n < 256 ^ k) : value (bytes k n) = n := by
  rw [value_bytes_mod, Nat.mod_eq_of_lt h]

end Endian
