import Mathlib.Data.List.Basic
import Mathlib.Data.List.TakeWhile
import Mathlib.Tactic.Common

/-!
# The C++ string functions the model uses

`std::string::rfind` with the two `substr` calls that follow it, `c_str`, `std::stoi` and `std::stoul`.
Strings are lists of characters underneath, and each function is a structural recursion or a
`takeWhile`, so it evaluates.

Both numeric readers throw in two ways, `std::invalid_argument` and `std::out_of_range`; both are
exceptions of the standard hierarchy and callers do not tell them apart, so both are `none` here.
-/

namespace CxxString

/-- `s.rfind(c)` with the text before and after the position found; `none` for `npos`. -/
def splitLast (c : Char) (s : String) : Option (String × String) :=
  let tail := s.toList.reverse.takeWhile (· ≠ c)
  match s.toList.reverse.drop tail.length with
  | [] => none
  | _ :: head => some (String.ofList head.reverse, String.ofList tail.reverse)

/-- What a function of C reads of `s.c_str()`: it ends before the first NUL. -/
def cStr (s : String) : String := String.ofList (s.toList.takeWhile (· ≠ '\x00'))

/-- `std::isspace` in the C locale. -/
def isSpace (c : Char) : Bool :=
  c = ' ' || c = '\t' || c = '\n' || c = '\r' || c.toNat = 11 || c.toNat = 12

/-- The digits at the front of a text as a number, or `none` when it starts with none. -/
def leadingNat (cs : List Char) : Option Nat :=
  match cs.takeWhile Char.isDigit with
  | [] => none
  | ds => some (ds.foldl (fun n d => 10 * n + (d.toNat - '0'.toNat)) 0)

/-- `std::stoi`: white space, an optional sign and digits; what follows the digits is ignored. It
throws (`none`) without digits and outside the range of a 32-bit `int`. -/
def stoi (s : String) : Option Int :=
  let read : List Char → Option Int
    | '-' :: cs => (leadingNat cs).map fun n => -(n : Int)
    | '+' :: cs => (leadingNat cs).map fun n => (n : Int)
    | cs => (leadingNat cs).map fun n => (n : Int)
  (read (s.toList.dropWhile isSpace)).filter fun n => -2147483648 ≤ n ∧ n ≤ 2147483647

/-- `std::stoul`: the same, with digits that are less than 2⁶⁴; a minus sign is taken modulo 2⁶⁴. -/
def stoul (s : String) : Option UInt64 :=
  let read : List Char → Option Nat := fun cs => (leadingNat cs).filter fun n => n < 18446744073709551616
  match s.toList.dropWhile isSpace with
  | '-' :: cs => (read cs).map fun n => -UInt64.ofNat n
  | '+' :: cs => (read cs).map UInt64.ofNat
  | cs => (read cs).map UInt64.ofNat

/-- The number that a whole text writes in decimal: white space, an optional sign, and digits to the
end. -/
def numeral (s : String) : Option Int :=
  let digits : List Char → Option Nat := fun cs => if cs.all Char.isDigit then leadingNat cs else none
  match s.toList.dropWhile isSpace with
  | '-' :: cs => (digits cs).map fun n : Nat => -(n : Int)
  | '+' :: cs => (digits cs).map fun n : Nat => (n : Int)
  | cs => (digits cs).map fun n : Nat => (n : Int)

/-- The split undoes a concatenation around the character, when the part after it has none. -/
theorem splitLast_append {c : Char} {s t : String} (h : c ∉ t.toList) :
    splitLast c (s ++ String.singleton c ++ t) = some (s, t) := by
  have hrev : (s ++ String.singleton c ++ t).toList.reverse =
      t.toList.reverse ++ c :: s.toList.reverse := by simp
  have htail : (t.toList.reverse ++ c :: s.toList.reverse).takeWhile (· ≠ c) =
      t.toList.reverse := by
    rw [List.takeWhile_append_of_pos (by
      intro a ha
      have : a ≠ c := fun hac => h (hac ▸ List.mem_reverse.mp ha)
      simpa using this)]
    simp
  simp only [splitLast, hrev, htail]
  simp

theorem cStr_eq_self {s : String} (h : '\x00' ∉ s.toList) : cStr s = s := by
  have hall : s.toList.takeWhile (· ≠ '\x00') = s.toList :=
    List.takeWhile_eq_self_iff.mpr fun c hc => decide_eq_true fun heq => h (heq ▸ hc)
  rw [cStr, hall, String.ofList_toList]

/-- A character of a decimal numeral is neither a sign nor white space. -/
theorem not_isSpace_of_isDigit {c : Char} (h : c.isDigit = true) :
    isSpace c = false ∧ c ≠ '-' ∧ c ≠ '+' := by
  have hrange : 48 ≤ c.toNat ∧ c.toNat ≤ 57 := Char.isDigit_iff_toNat.mp h
  have hne (d : Char) (hd : ¬ (48 ≤ d.toNat ∧ d.toNat ≤ 57)) : c ≠ d := fun heq => hd (heq ▸ hrange)
  refine ⟨?_, hne '-' (by decide), hne '+' (by decide)⟩
  simp only [isSpace, Bool.or_eq_false_iff, decide_eq_false_iff_not]
  refine ⟨⟨⟨⟨⟨hne ' ' (by decide), hne '\t' (by decide)⟩, hne '\n' (by decide)⟩,
    hne '\r' (by decide)⟩, ?_⟩, ?_⟩
  · omega
  · omega

/-- `std::stoi` reads a decimal numeral back, up to the largest `int`. -/
theorem stoi_toString (n : Nat) :
    stoi (toString n) = if n ≤ 2147483647 then some (n : Int) else none := by
  have hdigits : ∀ c ∈ Nat.toDigits 10 n, Char.isDigit c = true :=
    fun c hc => Nat.isDigit_of_mem_toDigits (by decide) (by decide) hc
  have hnat : leadingNat (Nat.toDigits 10 n) = some n := by
    have hall : (Nat.toDigits 10 n).takeWhile Char.isDigit = Nat.toDigits 10 n :=
      List.takeWhile_eq_self_iff.mpr hdigits
    rw [leadingNat, hall]
    cases hn : Nat.toDigits 10 n with
    | nil => exact absurd hn Nat.toDigits_ne_nil
    | cons c cs =>
      have hread := Nat.ofDigitChars_ten_toDigits (n := n)
      rw [hn, Nat.ofDigitChars_eq_foldl] at hread
      exact congrArg some hread
  rw [stoi, Nat.toString_eq_ofList_toDigits, String.toList_ofList]
  cases hn : Nat.toDigits 10 n with
  | nil => exact absurd hn Nat.toDigits_ne_nil
  | cons c cs =>
    obtain ⟨hspace, hminus, hplus⟩ := not_isSpace_of_isDigit (hdigits c (hn ▸ List.mem_cons_self))
    rw [hn] at hnat
    rw [List.dropWhile_cons, hspace]
    simp only [Bool.false_eq_true, if_false]
    split
    · next heq => exact absurd (List.cons.inj heq).1 hminus
    · next heq => exact absurd (List.cons.inj heq).1 hplus
    · rw [hnat]
      show (some (n : Int)).filter (fun n => -2147483648 ≤ n ∧ n ≤ 2147483647) = _
      split
      · next hle => exact Option.filter_some_pos (decide_eq_true (by omega))
      · next hlt => exact Option.filter_some_neg (decide_eq_false (by omega))

/-- `std::stoul` reads a numeral that is not negative and fits. -/
theorem stoul_of_numeral {s : String} {n : Nat} (h : numeral s = some (n : Int))
    (hn : n < 18446744073709551616) : stoul s = some (UInt64.ofNat n) := by
  have hdigits : ∀ {cs : List Char} {k : Nat},
      (if cs.all Char.isDigit then leadingNat cs else none) = some k → leadingNat cs = some k := by
    intro cs k hk
    split at hk
    · exact hk
    · cases hk
  have hfits : ∀ k < 18446744073709551616,
      (some k).filter (fun n => n < 18446744073709551616) = some k :=
    fun k hk => Option.filter_some_pos (decide_eq_true hk)
  rw [numeral] at h
  rw [stoul]
  split at h
  · obtain ⟨k, hk, hneg⟩ := Option.map_eq_some_iff.mp h
    obtain rfl : n = 0 := by omega
    obtain rfl : k = 0 := by omega
    simp only [hdigits hk, hfits 0 hn]
    rfl
  · obtain ⟨k, hk, hpos⟩ := Option.map_eq_some_iff.mp h
    obtain rfl : k = n := Int.ofNat.inj hpos
    simp only [hdigits hk, hfits k hn]
    rfl
  · obtain ⟨k, hk, hpos⟩ := Option.map_eq_some_iff.mp h
    obtain rfl : k = n := Int.ofNat.inj hpos
    simp only [hdigits hk, hfits k hn]
    rfl

example : splitLast '.' "b1d2.a-c.17" = some ("b1d2.a-c", "17") := by decide

example : stoi " +42x" = some 42 ∧ stoi "x" = none ∧ stoi "2147483648" = none := by decide

example : stoul "-1" = some 18446744073709551615 ∧ stoul "5m" = some 5 ∧ stoul "" = none := by decide

end CxxString
