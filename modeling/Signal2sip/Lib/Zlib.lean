import Mathlib.Algebra.Order.Ring.Nat
import Mathlib.Data.List.Induction
import Signal2sip.Lib.Endian

/-!
# zlib streams of stored blocks

A zlib stream is a header of two bytes, deflate blocks, and the Adler-32 of what the blocks hold. Of the
three types of blocks `inflate` reads the stored one: the type, the length and its complement, the bytes
themselves.

What is cut into pieces of at most 65535 bytes, with the last one marked, is read back whole, and
nothing is left (`decode_stream`).
-/

namespace Zlib

/-! ## Adler-32 -/

/-- One and the bytes. -/
def sumA (data : List UInt8) : Nat := 1 + (data.map UInt8.toNat).sum

/-- The first sum after each of the bytes, summed up. -/
def sumB (data : List UInt8) : Nat :=
  ((List.range data.length).map fun i => sumA (data.take (i + 1))).sum

/-- Both sums modulo the largest prime below 2¹⁶. -/
def adler32 (data : List UInt8) : Nat := sumB data % 65521 * 65536 + sumA data % 65521

theorem sumA_append_singleton (data : List UInt8) (byte : UInt8) :
    sumA (data ++ [byte]) = sumA data + byte.toNat := by
  simp only [sumA, List.map_append, List.sum_append, List.map_cons, List.map_nil, List.sum_singleton]
  omega

theorem sumB_append_singleton (data : List UInt8) (byte : UInt8) :
    sumB (data ++ [byte]) = sumB data + sumA (data ++ [byte]) := by
  have hlast : (data ++ [byte]).take (data.length + 1) = data ++ [byte] :=
    List.take_of_length_le (by simp)
  have hearlier : ∀ i ∈ List.range data.length,
      sumA ((data ++ [byte]).take (i + 1)) = sumA (data.take (i + 1)) := by
    intro i hi
    rw [List.take_append_of_le_length (List.mem_range.mp hi)]
  rw [sumB, List.length_append, List.length_singleton, List.range_succ, List.map_append,
    List.sum_append, List.map_singleton, List.sum_singleton, hlast, List.map_congr_left hearlier, sumB]

/-! ## Blocks -/

/-- The header of a stored block and its bytes. -/
def block (final : Bool) (content : List UInt8) : List UInt8 :=
  (if final then 1 else 0) :: ((Endian.bytes 2 content.length).reverse ++
    (Endian.bytes 2 (65535 - content.length)).reverse ++ content)

/-- Blocks for the pieces, of which the last one is marked. -/
def blocks : List (List UInt8) → List UInt8
  | [] => []
  | [content] => block true content
  | content :: rest => block false content ++ blocks rest

/-- A stored block: whether it is the last one, its bytes, and what is behind it. -/
def stored : List UInt8 → Option (Bool × List UInt8 × List UInt8)
  | head :: l0 :: l1 :: n0 :: n1 :: rest =>
    let len := Endian.value [l1, l0]
    if head.toNat / 2 % 4 = 0 ∧ Endian.value [n1, n0] = 65535 - len ∧ len ≤ rest.length then
      some (head.toNat % 2 = 1, rest.take len, rest.drop len)
    else none
  | _ => none

/-- At most so many blocks: the bytes that they hold, and what is behind the last one. -/
def inflate : Nat → List UInt8 → Option (List UInt8 × List UInt8)
  | 0, _ => none
  | n + 1, s => do
    let (final, content, rest) ← stored s
    if final then return (content, rest)
    else
      let (more, rest) ← inflate n rest
      return (content ++ more, rest)

theorem bytes_two (n : Nat) : Endian.bytes 2 n = [UInt8.ofNat (n / 256 % 256), UInt8.ofNat (n % 256)] :=
  rfl

theorem stored_block (final : Bool) {content : List UInt8} (h : content.length ≤ 65535)
    (rest : List UInt8) : stored (block final content ++ rest) = some (final, content, rest) := by
  have hlen : Endian.value (Endian.bytes 2 content.length) = content.length :=
    Endian.value_bytes (by omega)
  have hnlen : Endian.value (Endian.bytes 2 (65535 - content.length)) = 65535 - content.length :=
    Endian.value_bytes (by omega)
  rw [bytes_two] at hlen hnlen
  have hfits : content.length ≤ (content ++ rest).length := by
    rw [List.length_append]
    omega
  have hhead : (if final then (1 : UInt8) else 0).toNat / 2 % 4 = 0 ∧
      decide ((if final then (1 : UInt8) else 0).toNat % 2 = 1) = final := by
    cases final <;> decide
  simp only [block, bytes_two, List.reverse_cons, List.reverse_nil, List.nil_append, List.cons_append,
    stored, hlen, hnlen, true_and]
  rw [if_pos ⟨hhead.1, hfits⟩, hhead.2, List.take_left, List.drop_left]

theorem blocks_cons {content : List UInt8} {pieces : List (List UInt8)} (h : pieces ≠ []) :
    blocks (content :: pieces) = block false content ++ blocks pieces := by
  cases pieces with
  | nil => exact absurd rfl h
  | cons next pieces => rfl

/-- The pieces come back, with whatever is behind the last block. -/
theorem inflate_blocks {pieces : List (List UInt8)} (hne : pieces ≠ [])
    (h : ∀ content ∈ pieces, content.length ≤ 65535) (rest : List UInt8) {n : Nat}
    (hn : pieces.length ≤ n) : inflate n (blocks pieces ++ rest) = some (pieces.flatten, rest) := by
  induction pieces generalizing n with
  | nil => exact absurd rfl hne
  | cons content pieces ih =>
    have hcontent := h content List.mem_cons_self
    cases n with
    | zero => exact absurd hn (Nat.not_succ_le_zero _)
    | succ n =>
      by_cases hlast : pieces = []
      · subst hlast
        rw [blocks, inflate, stored_block true hcontent]
        simp
      · have hrest := ih hlast (fun c hc => h c (List.mem_cons_of_mem _ hc)) (Nat.le_of_succ_le_succ hn)
        rw [blocks_cons hlast, List.append_assoc, inflate, stored_block false hcontent]
        simp [hrest]

theorem length_block (final : Bool) (content : List UInt8) :
    (block final content).length = 5 + content.length := by
  simp only [block, List.length_cons, List.length_append, List.length_reverse, Endian.length_bytes]
  omega

theorem length_blocks (pieces : List (List UInt8)) :
    (blocks pieces).length = 5 * pieces.length + pieces.flatten.length := by
  induction pieces with
  | nil => rfl
  | cons content pieces ih =>
    by_cases hlast : pieces = []
    · subst hlast
      simp only [blocks, length_block, List.length_cons, List.length_nil, List.flatten_cons,
        List.flatten_nil, List.append_nil]
    · simp only [blocks_cons hlast, List.length_append, length_block, ih, List.length_cons,
        List.flatten_cons]
      omega

/-! ## Streams -/

/-- Deflate with a window of at most 32 KiB, no preset dictionary, and a multiple of 31. -/
def HeaderOk (cmf flg : UInt8) : Prop :=
  cmf.toNat % 16 = 8 ∧ cmf.toNat / 16 ≤ 7 ∧ (256 * cmf.toNat + flg.toNat) % 31 = 0 ∧
    flg.toNat / 32 % 2 = 0

instance (cmf flg : UInt8) : Decidable (HeaderOk cmf flg) :=
  inferInstanceAs (Decidable (_ ∧ _ ∧ _ ∧ _))

/-- The bytes that a stream holds, when its header and its checksum are right and nothing is left. -/
def decode : List UInt8 → Option (List UInt8)
  | cmf :: flg :: s => do
    guard (HeaderOk cmf flg)
    let (content, check) ← inflate s.length s
    guard (check = Endian.bytes 4 (adler32 content))
    return content
  | _ => none

def stream (cmf flg : UInt8) (pieces : List (List UInt8)) : List UInt8 :=
  cmf :: flg :: (blocks pieces ++ Endian.bytes 4 (adler32 pieces.flatten))

/-- A stream whose blocks and checksum are right. -/
theorem decode_of_inflate {cmf flg : UInt8} {s content check : List UInt8} (hheader : HeaderOk cmf flg)
    (hinflate : inflate s.length s = some (content, check))
    (hcheck : check = Endian.bytes 4 (adler32 content)) : decode (cmf :: flg :: s) = some content := by
  have hheaderGuard : (guard (HeaderOk cmf flg) : Option Unit) = some () := if_pos hheader
  have hcheckGuard : (guard (check = Endian.bytes 4 (adler32 content)) : Option Unit) = some () :=
    if_pos hcheck
  rw [decode, hheaderGuard, hinflate]
  show (guard (check = Endian.bytes 4 (adler32 content)) >>= fun _ => some content) = some content
  rw [hcheckGuard]
  rfl

theorem decode_stream {cmf flg : UInt8} {pieces : List (List UInt8)} (hheader : HeaderOk cmf flg)
    (hne : pieces ≠ []) (h : ∀ content ∈ pieces, content.length ≤ 65535) :
    decode (stream cmf flg pieces) = some pieces.flatten := by
  have hfuel : pieces.length ≤ (blocks pieces ++
      Endian.bytes 4 (adler32 pieces.flatten)).length := by
    rw [List.length_append, length_blocks]
    omega
  exact decode_of_inflate hheader (inflate_blocks hne h _ hfuel) rfl

end Zlib
