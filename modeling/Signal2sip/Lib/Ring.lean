import Mathlib.Data.Nat.ModEq

/-!
# A window on a ring of slots

A bounded queue keeps the elements from the `a`-th to the `b`-th of an endless sequence, and the
`k`-th of them in slot `k % n`. It stores the two ends as slots, so it knows them modulo `n` only.
With fewer than `n` elements in the window that loses nothing: the slots of the window are distinct
(`slot_injOn`), and the distance of the two slots is the number of elements (`distance`).
-/

namespace Ring

variable {n a b : Nat}

/-- No two of `n` elements in a row share a slot. -/
theorem slot_injOn (hab : a ≤ b) (hb : b < a + n) (h : a % n = b % n) : a = b := by
  have hdvd : n ∣ b - a := (Nat.modEq_iff_dvd' hab).mp h
  have hzero : b - a = 0 := Nat.eq_zero_of_dvd_of_lt hdvd (by omega)
  omega

/-- Two elements of one window share a slot only if they are the same. -/
theorem slot_ne {k l : Nat} (hk : a ≤ k) (hk' : k < a + n) (hl : a ≤ l) (hl' : l < a + n)
    (hne : k ≠ l) : k % n ≠ l % n := by
  intro h
  rcases Nat.le_total k l with hkl | hlk
  · exact hne (slot_injOn hkl (by omega) h)
  · exact hne (slot_injOn hlk (by omega) h.symm).symm

/-- The distance between the slots of the two ends is the number of elements. -/
theorem distance (hab : a ≤ b) (hb : b < a + n) : (b % n + n - a % n) % n = b - a := by
  have hn : 0 < n := by omega
  have ha : a % n < n := Nat.mod_lt a hn
  have hsum : b % n = (a % n + (b - a)) % n := by
    rw [Nat.mod_add_mod, Nat.add_sub_cancel' hab]
  by_cases hwrap : a % n + (b - a) < n
  · rw [Nat.mod_eq_of_lt hwrap] at hsum
    rw [hsum, show a % n + (b - a) + n - a % n = (b - a) + n by omega, Nat.add_mod_right]
    exact Nat.mod_eq_of_lt (by omega)
  · -- the window goes round the end of the ring
    have hwrapped : b % n = a % n + (b - a) - n :=
      hsum.trans ((Nat.mod_eq_sub_mod (by omega)).trans (Nat.mod_eq_of_lt (by omega)))
    rw [hwrapped, show a % n + (b - a) - n + n - a % n = b - a by omega]
    exact Nat.mod_eq_of_lt (by omega)

end Ring
