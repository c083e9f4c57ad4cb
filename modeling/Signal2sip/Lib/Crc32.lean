import Mathlib.Algebra.Order.Ring.Nat
import Mathlib.Logic.Function.Iterate

/-!
# CRC-32

The checksum bit by bit: a register of 32 bits that is divided by the reflected polynomial, one message
bit after the other and the lowest bit of each byte first.

A shift of the register is additive for exclusive or (`shift_xor`), and what has enough low zeros only
moves down (`iterate_shift_of_toNat`). So the eight shifts of a byte are those of the register's low
byte and the rest of the register eight places down, which is what a table of 256 registers computes
(`update_eq_table`).
-/

namespace Crc32

def polynomial : UInt32 := 0xEDB88320

/-- One step of the division. -/
def shift (c : UInt32) : UInt32 := if c &&& 1 = 1 then polynomial ^^^ (c >>> 1) else c >>> 1

/-- The lowest `k` bits of `n`, the lowest first. -/
def feed (c : UInt32) : Nat → Nat → UInt32
  | 0, _ => c
  | k + 1, n => feed (shift (c ^^^ UInt32.ofNat (n % 2))) k (n / 2)

def update (c : UInt32) (byte : UInt8) : UInt32 := feed c 8 byte.toNat

/-- The register starts with all ones and is complemented in the end. -/
def crc32 (data : List UInt8) : UInt32 := data.foldl update 0xFFFFFFFF ^^^ 0xFFFFFFFF

/-! ## A shift is additive -/

theorem and_one_iff (c : UInt32) : c &&& 1 = 1 ↔ c.toNat % 2 = 1 := by
  rw [← UInt32.toNat_inj, UInt32.toNat_and]
  exact Eq.congr (Nat.and_one_is_mod _) rfl

theorem toNat_halve (c : UInt32) : (c >>> 1).toNat = c.toNat / 2 := by
  rw [UInt32.toNat_shiftRight]
  exact Nat.shiftRight_eq_div_pow _ 1

theorem shift_odd {c : UInt32} (h : c.toNat % 2 = 1) : shift c = polynomial ^^^ (c >>> 1) :=
  if_pos ((and_one_iff c).mpr h)

theorem shift_even {c : UInt32} (h : ¬ c.toNat % 2 = 1) : shift c = c >>> 1 :=
  if_neg (mt (and_one_iff c).mp h)

theorem shift_xor (a b : UInt32) : shift (a ^^^ b) = shift a ^^^ shift b := by
  have hlow : (a ^^^ b).toNat % 2 = 1 ↔ ¬ (a.toNat % 2 = 1 ↔ b.toNat % 2 = 1) := by
    rw [UInt32.toNat_xor, Nat.xor_mod_two_eq_one]
  by_cases ha : a.toNat % 2 = 1
  · by_cases hb : b.toNat % 2 = 1
    · rw [shift_even (mt hlow.mp (not_not.mpr (iff_of_true ha hb))), shift_odd ha, shift_odd hb,
        UInt32.shiftRight_xor, UInt32.xor_comm polynomial, UInt32.xor_assoc,
        ← UInt32.xor_assoc polynomial, UInt32.xor_self, UInt32.zero_xor]
    · rw [shift_odd (hlow.mpr fun h => hb (h.mp ha)), shift_odd ha, shift_even hb,
        UInt32.shiftRight_xor, UInt32.xor_assoc]
  · by_cases hb : b.toNat % 2 = 1
    · rw [shift_odd (hlow.mpr fun h => ha (h.mpr hb)), shift_even ha, shift_odd hb,
        UInt32.shiftRight_xor, ← UInt32.xor_assoc, ← UInt32.xor_assoc,
        UInt32.xor_comm polynomial (a >>> 1)]
    · rw [shift_even (mt hlow.mp (not_not.mpr (iff_of_false ha hb))), shift_even ha, shift_even hb,
        UInt32.shiftRight_xor]

theorem iterate_shift_xor (k : Nat) (a b : UInt32) :
    shift^[k] (a ^^^ b) = shift^[k] a ^^^ shift^[k] b := by
  induction k generalizing a b with
  | zero => rfl
  | succ k ih => rw [Function.iterate_succ_apply, shift_xor, ih]; rfl

/-- Low zeros are shifted out. -/
theorem shift_of_toNat {c w : UInt32} (h : c.toNat = 2 * w.toNat) : shift c = w := by
  rw [shift_even (by omega), ← UInt32.toNat_inj, toNat_halve]
  omega

theorem iterate_shift_of_toNat {k : Nat} {c w : UInt32} (h : c.toNat = 2 ^ k * w.toNat) :
    shift^[k] c = w := by
  induction k generalizing c with
  | zero =>
    rw [Nat.pow_zero, Nat.one_mul] at h
    exact UInt32.toNat_inj.mp h
  | succ k ih =>
    have hdouble : c.toNat = 2 * (2 ^ k * w.toNat) := by
      rw [h, Nat.pow_succ', Nat.mul_assoc]
    have hhalf : (UInt32.ofNat (2 ^ k * w.toNat)).toNat = 2 ^ k * w.toNat := by
      have hlt := c.toNat_lt
      rw [UInt32.toNat_ofNat', Nat.mod_eq_of_lt (by omega)]
    rw [Function.iterate_succ_apply, shift_of_toNat (hhalf ▸ hdouble)]
    exact ih hhalf

/-! ## A byte at a time -/

/-- The lowest bit and the others. -/
theorem low_xor_rest (n : Nat) : n % 2 ^^^ 2 * (n / 2) = n := by
  have hlow : (n % 2 ^^^ 2 * (n / 2)) % 2 = n % 2 := by
    rw [← Nat.pow_one 2, Nat.xor_mod_two_pow, Nat.pow_one, Nat.mod_mod, Nat.mul_mod_right, Nat.xor_zero]
  have hrest : (n % 2 ^^^ 2 * (n / 2)) / 2 = n / 2 := by
    have hzero : n % 2 / 2 = 0 := by omega
    rw [Nat.xor_div_two, hzero, Nat.zero_xor, Nat.mul_div_cancel_left _ (by decide)]
  omega

theorem feed_eq {k n : Nat} (c : UInt32) (hn : n < 2 ^ k) (hk : k ≤ 32) :
    feed c k n = shift^[k] (c ^^^ UInt32.ofNat n) := by
  induction k generalizing c n with
  | zero =>
    obtain rfl : n = 0 := by simpa using hn
    exact UInt32.xor_zero.symm
  | succ k ih =>
    have hhalf : n / 2 < 2 ^ k := by
      rw [Nat.pow_succ] at hn
      omega
    have hrest : shift (UInt32.ofNat (2 * (n / 2))) = UInt32.ofNat (n / 2) := by
      have hbound : 2 ^ (k + 1) ≤ 2 ^ 32 := Nat.pow_le_pow_right (by decide) hk
      refine shift_of_toNat ?_
      rw [UInt32.toNat_ofNat', UInt32.toNat_ofNat']
      omega
    have hstep : shift (c ^^^ UInt32.ofNat n) =
        shift (c ^^^ UInt32.ofNat (n % 2)) ^^^ UInt32.ofNat (n / 2) := by
      calc shift (c ^^^ UInt32.ofNat n)
          = shift (c ^^^ UInt32.ofNat (n % 2 ^^^ 2 * (n / 2))) := by rw [low_xor_rest]
        _ = shift (c ^^^ UInt32.ofNat (n % 2) ^^^ UInt32.ofNat (2 * (n / 2))) := by
            rw [UInt32.ofNat_xor, UInt32.xor_assoc]
        _ = shift (c ^^^ UInt32.ofNat (n % 2)) ^^^ UInt32.ofNat (n / 2) := by rw [shift_xor, hrest]
    rw [feed, ih _ hhalf (by omega), Function.iterate_succ_apply, hstep]

/-- The low byte apart from the rest of the register. -/
theorem iterate_shift_eight (v : UInt32) :
    shift^[8] v = shift^[8] (v &&& 0xFF) ^^^ (v >>> 8) := by
  have hlow : (v &&& 0xFF).toNat = v.toNat % 2 ^ 8 := by
    rw [UInt32.toNat_and]
    exact Nat.and_two_pow_sub_one_eq_mod _ 8
  have hhigh : (v ^^^ (v &&& 0xFF)).toNat = 2 ^ 8 * (v >>> 8).toNat := by
    have hshift : (v >>> 8).toNat = v.toNat / 2 ^ 8 := by
      rw [UInt32.toNat_shiftRight]
      exact Nat.shiftRight_eq_div_pow _ 8
    have hmod : (v.toNat ^^^ v.toNat % 2 ^ 8) % 2 ^ 8 = 0 := by
      rw [Nat.xor_mod_two_pow, Nat.mod_mod, Nat.xor_self]
    have hdiv : (v.toNat ^^^ v.toNat % 2 ^ 8) / 2 ^ 8 = v.toNat / 2 ^ 8 := by
      have hzero : v.toNat % 2 ^ 8 / 2 ^ 8 = 0 := by omega
      rw [Nat.xor_div_two_pow, hzero, Nat.xor_zero]
    rw [UInt32.toNat_xor, hlow, hshift]
    omega
  calc shift^[8] v
      = shift^[8] ((v &&& 0xFF) ^^^ (v ^^^ (v &&& 0xFF))) := by
        rw [UInt32.xor_comm v, ← UInt32.xor_assoc, UInt32.xor_self, UInt32.zero_xor]
    _ = shift^[8] (v &&& 0xFF) ^^^ (v >>> 8) := by
        rw [iterate_shift_xor, iterate_shift_of_toNat hhigh]

/-- One step with a table of what eight shifts make of a byte. -/
theorem update_eq_table (c : UInt32) (byte : UInt8) :
    update c byte = shift^[8] ((c ^^^ byte.toUInt32) &&& 0xFF) ^^^ (c >>> 8) := by
  have hbyte : UInt32.ofNat byte.toNat = byte.toUInt32 := by
    have hlt := byte.toNat_lt
    rw [← UInt32.toNat_inj, UInt32.toNat_ofNat', UInt8.toNat_toUInt32]
    omega
  have hnone : byte.toUInt32 >>> 8 = 0 := by
    have hlt := byte.toNat_lt
    have hshift : (byte.toUInt32 >>> 8).toNat = byte.toNat / 2 ^ 8 := by
      rw [UInt32.toNat_shiftRight, UInt8.toNat_toUInt32]
      exact Nat.shiftRight_eq_div_pow _ 8
    rw [← UInt32.toNat_inj, hshift]
    exact Nat.div_eq_of_lt hlt
  rw [update, feed_eq c byte.toNat_lt (by decide), iterate_shift_eight, hbyte, UInt32.shiftRight_xor,
    hnone, UInt32.xor_zero]

end Crc32
