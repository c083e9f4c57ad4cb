import Mathlib.Algebra.Group.Nat.Defs
import Mathlib.Data.List.Induction
import Mathlib.Data.Nat.Bitwise

/-!
# Bit strings

Numbers written with a fixed number of bits, the highest bit first, and strung together. A string is
cut into words again by `words`, which drops what is left at the end. A reader that gets the string
piece by piece keeps the bits that do not fill a word yet in an accumulator of a fixed width. The
accumulator may hold anything above those bits, and what is shifted out at its top is lost. `Pending`
says that neither matters: the low bits of the accumulator are the bits that wait.
-/

namespace BitString

/-- The low `w` bits of `n`. -/
def bits : Nat → Nat → List Bool
  | 0, _ => []
  | w + 1, n => n.testBit w :: bits w n

/-- The number that a bit string spells. -/
def value : List Bool → Nat
  | [] => 0
  | b :: l => b.toNat * 2 ^ l.length + value l

/-- The complete words of `w` bits. -/
def words (w : Nat) (l : List Bool) : List Nat :=
  (List.range (l.length / w)).map fun i => value ((l.drop (w * i)).take w)

variable {v w n k : Nat} {p l m : List Bool}

/-! ## Numbers as bit strings -/

@[simp] theorem length_bits : (bits w n).length = w := by
  induction w with
  | zero => rfl
  | succ w ih => rw [bits, List.length_cons, ih]

theorem value_append : value (l ++ m) = value l * 2 ^ m.length + value m := by
  induction l with
  | nil => rw [List.nil_append, value, Nat.zero_mul, Nat.zero_add]
  | cons b l ih =>
    rw [List.cons_append, value, value, ih, List.length_append, Nat.pow_add, Nat.add_mul,
      Nat.mul_assoc, Nat.add_assoc]

theorem value_lt : value l < 2 ^ l.length := by
  induction l with
  | nil => exact Nat.one_pos
  | cons b l ih =>
    have hb : b.toNat * 2 ^ l.length ≤ 1 * 2 ^ l.length := Nat.mul_le_mul_right _ (Bool.toNat_le b)
    rw [value, List.length_cons, Nat.pow_succ]
    omega

theorem value_bits : value (bits w n) = n % 2 ^ w := by
  induction w with
  | zero => rw [Nat.pow_zero, Nat.mod_one]; rfl
  | succ w ih =>
    rw [bits, value, ih, length_bits, Nat.toNat_testBit, Nat.mod_pow_succ, Nat.mul_comm, Nat.add_comm]

/-- The high bits and the low bits. -/
theorem bits_add : bits (v + w) n = bits v (n / 2 ^ w) ++ bits w n := by
  induction v with
  | zero => rw [Nat.zero_add]; rfl
  | succ v ih =>
    rw [Nat.succ_add, bits, ih, bits, Nat.testBit_div_two_pow, Nat.add_comm v w, List.cons_append]

/-- Bits above the string do not count. -/
theorem bits_mod (h : w ≤ k) : bits w (n % 2 ^ k) = bits w n := by
  induction w with
  | zero => rfl
  | succ w ih => rw [bits, bits, ih (by omega), Nat.testBit_mod_two_pow, decide_eq_true (by omega),
      Bool.true_and]

/-! ## Words -/

theorem words_of_lt (h : l.length < w) : words w l = [] := by
  rw [words, Nat.div_eq_of_lt h]
  rfl

theorem words_append (hw : 0 < w) (hp : p.length = w) : words w (p ++ l) = value p :: words w l := by
  have hcount : (p ++ l).length / w = l.length / w + 1 := by
    rw [List.length_append, hp, Nat.add_comm, Nat.add_div_right _ hw]
  rw [words, hcount, List.range_succ_eq_map, List.map_cons, List.map_map, words]
  congr 1
  · rw [Nat.mul_zero, List.drop_zero, ← hp, List.take_left]
  · refine List.map_congr_left fun i _ => ?_
    show value (((p ++ l).drop (w * (i + 1))).take w) = _
    rw [Nat.mul_succ, Nat.add_comm, ← hp, ← List.drop_drop, List.drop_left]

/-- Words written one after the other, with less than a word behind them. -/
theorem words_flatMap_bits (hw : 0 < w) {ns : List Nat} (hns : ∀ n ∈ ns, n < 2 ^ w)
    (hl : l.length < w) : words w (ns.flatMap (bits w) ++ l) = ns := by
  induction ns with
  | nil => exact words_of_lt hl
  | cons n ns ih =>
    rw [List.flatMap_cons, List.append_assoc, words_append hw length_bits, value_bits,
      Nat.mod_eq_of_lt (hns n List.mem_cons_self),
      ih fun n' hn' => hns n' (List.mem_cons_of_mem _ hn')]

/-! ## The accumulator of a reader -/

/-- The bits `p` wait in the accumulator `buffer`. -/
def Pending (p : List Bool) (buffer : Nat) : Prop := buffer % 2 ^ p.length = value p

theorem pending_nil (buffer : Nat) : Pending [] buffer := Nat.mod_one _

/-- The next piece goes in from below. What the accumulator of `k` bits loses is not waiting. -/
theorem Pending.push {buffer : Nat} (h : Pending p buffer) (hk : p.length + w ≤ k)
    (hn : n < 2 ^ w) : Pending (p ++ bits w n) ((buffer * 2 ^ w + n) % 2 ^ k) := by
  have hdvd : 2 ^ (p.length + w) ∣ 2 ^ k := Nat.pow_dvd_pow 2 hk
  have hhigh : (2 ^ w * buffer + n) / 2 ^ w = buffer := by
    rw [Nat.mul_add_div (Nat.two_pow_pos w), Nat.div_eq_of_lt hn, Nat.add_zero]
  rw [Pending, List.length_append, length_bits, Nat.mod_mod_of_dvd _ hdvd, value_append, value_bits,
    length_bits, Nat.mod_eq_of_lt hn, ← h, Nat.mul_comm buffer, Nat.pow_add,
    Nat.mul_comm (2 ^ p.length), Nat.mod_mul, hhigh, Nat.mul_add_mod, Nat.mod_eq_of_lt hn,
    Nat.add_comm, Nat.mul_comm]

/-- The first of the waiting bits come out from above. -/
theorem Pending.pop {buffer : Nat} (h : Pending (p ++ l) buffer) :
    buffer / 2 ^ l.length % 2 ^ p.length = value p ∧ Pending l buffer := by
  have hl : value l < 2 ^ l.length := value_lt
  rw [Pending, List.length_append, value_append, Nat.pow_add, Nat.mul_comm (2 ^ p.length),
    Nat.mod_mul, Nat.add_comm, Nat.mul_comm (value p)] at h
  have hlow : buffer % 2 ^ l.length = value l := by
    have hmod := congrArg (· % 2 ^ l.length) h
    simpa only [Nat.mul_add_mod, Nat.mod_mod, Nat.mod_eq_of_lt hl] using hmod
  refine ⟨?_, hlow⟩
  rw [hlow] at h
  exact Nat.eq_of_mul_eq_mul_left (Nat.two_pow_pos _) (Nat.add_right_cancel h)

end BitString
