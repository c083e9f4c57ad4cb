import Mathlib.Algebra.Group.Nat.Defs
import Mathlib.Data.List.Basic
import Mathlib.Tactic.Common

/-!
# Archives of the `ar` format

An archive is a magic text and entries. An entry is a header of sixty bytes, the content, and a newline
behind a content of odd length. The header is 48 bytes with the name, the date, the owner, the group
and the mode, then the size in decimal, filled up to ten bytes with blanks, then two bytes that end it.
The symbol index and the table of long names are entries like the others.

Ten places hold sizes below 10¹⁰, so a content carries that bound.
-/

namespace Ar

structure Content where
  bytes : List UInt8
  length_lt : bytes.length < 10 ^ 10

structure Entry where
  /-- The header in front of the size. -/
  front : List UInt8
  content : Content
  length_front : front.length = 48

/-- `!<arch>` and a newline. -/
def magic : List UInt8 := [0x21, 0x3C, 0x61, 0x72, 0x63, 0x68, 0x3E, 0x0A]

def sizeText (n : Nat) : List UInt8 :=
  ((Nat.toDigits 10 n).map fun c => UInt8.ofNat c.toNat).rightpad 10 0x20

def headerEnd : List UInt8 := [0x60, 0x0A]

def padding (n : Nat) : List UInt8 := if n % 2 = 1 then [0x0A] else []

namespace Entry

variable (e : Entry)

def size : Nat := e.content.bytes.length

def header : List UInt8 := e.front ++ (sizeText e.size ++ headerEnd)

def bytes : List UInt8 := e.header ++ (e.content.bytes ++ padding e.size)

end Entry

def archive (entries : List Entry) : List UInt8 := magic ++ entries.flatMap Entry.bytes

/-! ## Lengths -/

theorem length_sizeText {n : Nat} (h : n < 10 ^ 10) : (sizeText n).length = 10 := by
  have hdigits : (Nat.toDigits 10 n).length ≤ 10 :=
    (Nat.length_toDigits_le_iff (by decide) (by decide)).mpr h
  rw [sizeText, List.length_rightpad, List.length_map]
  omega

theorem length_padding (n : Nat) : (padding n).length = n % 2 := by
  rw [padding]
  split
  · exact Eq.symm ‹_›
  · exact (Nat.mod_two_ne_one.mp ‹_›).symm

namespace Entry

variable (e : Entry)

theorem size_lt : e.size < 10 ^ 10 := e.content.length_lt

theorem length_header : e.header.length = 60 := by
  rw [header, List.length_append, List.length_append, e.length_front, length_sizeText e.size_lt]
  rfl

theorem length_bytes : e.bytes.length = 60 + e.size + e.size % 2 := by
  rw [bytes, List.length_append, List.length_append, length_header, length_padding, Nat.add_assoc]
  rfl

end Entry

end Ar
