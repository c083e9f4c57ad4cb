import Mathlib.Data.List.Induction
import Signal2sip.Gendb.QrPng
import Signal2sip.Lib.Zlib

/-!
# The stored stream is a zlib stream

`zlibStoreUncompressed` cuts its data into pieces of 65535 bytes (`piecesOf`), the last of which may be
shorter, or empty when there is no data at all. Each turn of its loop writes the block of one piece, and
the sums behind the loop are the two of Adler-32, so a reader gets the data back and finds nothing else.
-/

namespace Signal2sip

/-- Pieces of 65535 bytes, and what is left. -/
def piecesOf (data : Bytes) : List Bytes :=
  if 65535 < data.length then data.take 65535 :: piecesOf (data.drop 65535) else [data]
termination_by data.length
decreasing_by
  rw [List.length_drop]
  omega

theorem piecesOf_ne_nil (data : Bytes) : piecesOf data ≠ [] := by
  rw [piecesOf]
  split
  · exact List.cons_ne_nil _ _
  · exact List.cons_ne_nil _ _

theorem length_piecesOf (data : Bytes) : (piecesOf data).length = (data.length - 1) / 65535 + 1 := by
  induction data using piecesOf.induct with
  | case1 data hlong ih =>
    rw [piecesOf, if_pos hlong, List.length_cons, ih, List.length_drop]
    omega
  | case2 data hshort =>
    rw [piecesOf, if_neg hshort, List.length_singleton]
    omega

theorem flatten_piecesOf (data : Bytes) : (piecesOf data).flatten = data := by
  induction data using piecesOf.induct with
  | case1 data hlong ih =>
    rw [piecesOf, if_pos hlong, List.flatten_cons, ih, List.take_append_drop]
  | case2 data hshort =>
    rw [piecesOf, if_neg hshort, List.flatten_cons, List.flatten_nil, List.append_nil]

theorem length_le_of_mem_piecesOf (data : Bytes) : ∀ piece ∈ piecesOf data, piece.length ≤ 65535 := by
  induction data using piecesOf.induct with
  | case1 data hlong ih =>
    intro piece hpiece
    rw [piecesOf, if_pos hlong] at hpiece
    obtain rfl | hrest := List.mem_cons.mp hpiece
    · exact List.length_take_le _ _
    · exact ih piece hrest
  | case2 data hshort =>
    intro piece hpiece
    rw [piecesOf, if_neg hshort] at hpiece
    obtain rfl := List.mem_singleton.mp hpiece
    omega

/-! ## Bytes -/

theorem putBE32_eq (out : Bytes) (v : UInt32) : putBE32 out v = out ++ Endian.bytes 4 v.toNat := by
  have hbyte {k : Nat} {s : UInt32} (hs : s.toNat % 32 = k) :
      (v >>> s).toUInt8 = UInt8.ofNat (v.toNat / 2 ^ k % 256) := by
    rw [← UInt8.toNat_inj, UInt32.toNat_toUInt8, UInt32.toNat_shiftRight, hs,
      Nat.shiftRight_eq_div_pow, UInt8.toNat_ofNat', Nat.mod_mod]
  have hlast : v.toUInt8 = UInt8.ofNat (v.toNat % 256) := by
    rw [← UInt8.toNat_inj, UInt32.toNat_toUInt8, UInt8.toNat_ofNat', Nat.mod_mod]
  have hdigits : v.toNat / 256 / 256 = v.toNat / 2 ^ 16 ∧ v.toNat / 2 ^ 16 / 256 = v.toNat / 2 ^ 24 := by
    omega
  simp only [putBE32, Endian.bytes, List.nil_append, List.cons_append]
  rw [hbyte (k := 24) (by decide), hbyte (k := 16) (by decide), hbyte (k := 8) (by decide), hlast,
    hdigits.1, hdigits.2]
  rfl

/-- A 16-bit number, the low byte first. -/
theorem lowHigh_eq (v : UInt16) : [v.toUInt8, (v >>> 8).toUInt8] = (Endian.bytes 2 v.toNat).reverse := by
  have hlow : v.toUInt8 = UInt8.ofNat (v.toNat % 256) := by
    rw [← UInt8.toNat_inj, UInt16.toNat_toUInt8, UInt8.toNat_ofNat', Nat.mod_mod]
  have hhigh : (v >>> 8).toUInt8 = UInt8.ofNat (v.toNat / 256 % 256) := by
    rw [← UInt8.toNat_inj, UInt16.toNat_toUInt8, UInt16.toNat_shiftRight, UInt8.toNat_ofNat', Nat.mod_mod]
    exact congrArg (· % 256) (Nat.shiftRight_eq_div_pow _ 8)
  rw [hlow, hhigh]
  rfl

/-- The length of a piece and its complement. -/
theorem lengths_eq {n : Nat} (h : n ≤ 65535) :
    (UInt16.ofNat n).toNat = n ∧ (~~~UInt16.ofNat n).toNat = 65535 - n := by
  have hn : (UInt16.ofNat n).toNat = n := by
    rw [UInt16.toNat_ofNat']
    omega
  rw [UInt16.toNat_not, hn]
  exact ⟨rfl, rfl⟩

/-- What one turn of the loop appends. -/
theorem blockHeader_append (final : Bool) {piece : Bytes} (h : piece.length ≤ 65535) :
    blockHeader final piece.length ++ piece = Zlib.block final piece := by
  obtain ⟨hlen, hnlen⟩ := lengths_eq h
  have hlow := lowHigh_eq (UInt16.ofNat piece.length)
  have hcomplement := lowHigh_eq (~~~UInt16.ofNat piece.length)
  rw [hlen] at hlow
  rw [hnlen] at hcomplement
  rw [Zlib.block, ← hlow, ← hcomplement]
  rfl

/-! ## The loop -/

/-- From an offset on the loop writes the blocks of the rest. -/
theorem storeBlocks_eq (data out : Bytes) {offset : Nat} (h : offset ≤ data.length) :
    storeBlocks data out offset = out ++ Zlib.blocks (piecesOf (data.drop offset)) := by
  induction hrest : data.drop offset using piecesOf.induct generalizing out offset with
  | case1 rest hlong ih =>
    have hlength : rest.length = data.length - offset := by rw [← hrest, List.length_drop]
    have hchunk : min 65535 (data.length - offset) = 65535 := by omega
    have hnext : data.drop (offset + 65535) = rest.drop 65535 := by rw [← hrest, List.drop_drop]
    have hpiece : (rest.take 65535).length = 65535 := by
      rw [List.length_take]
      omega
    have hblock := blockHeader_append false (Nat.le_of_eq hpiece)
    rw [hpiece] at hblock
    rw [storeBlocks, hchunk, if_pos (by omega), decide_eq_false (by omega), hrest,
      ih _ (by omega) hnext, piecesOf.eq_def rest, if_pos hlong, Zlib.blocks_cons (piecesOf_ne_nil _),
      List.append_assoc out, hblock, List.append_assoc]
  | case2 rest hshort =>
    have hlength : rest.length = data.length - offset := by rw [← hrest, List.length_drop]
    have hchunk : min 65535 (data.length - offset) = rest.length := by omega
    have hblock := blockHeader_append true (Nat.not_lt.mp hshort)
    rw [storeBlocks, hchunk, if_neg (by omega), decide_eq_true (by omega), hrest, List.take_length,
      piecesOf, if_neg hshort, List.append_assoc, hblock]
    rfl

/-! ## The sums -/

theorem adlerSums_eq (data : Bytes) : (adlerSums data).1.toNat = Zlib.sumA data % 65521 ∧
    (adlerSums data).2.toNat = Zlib.sumB data % 65521 := by
  induction data using List.reverseRecOn with
  | nil => exact ⟨rfl, rfl⟩
  | append_singleton data byte ih =>
    have hbyte := byte.toNat_lt
    have hlarge : (65521 : UInt32).toNat = 65521 := rfl
    have hstep : adlerSums (data ++ [byte]) =
        (((adlerSums data).1 + byte.toUInt32) % 65521,
          ((adlerSums data).2 + ((adlerSums data).1 + byte.toUInt32) % 65521) % 65521) := by
      rw [adlerSums, List.foldl_append]
      rfl
    have hA : (((adlerSums data).1 + byte.toUInt32) % 65521).toNat =
        Zlib.sumA (data ++ [byte]) % 65521 := by
      rw [Zlib.sumA_append_singleton, UInt32.toNat_mod, UInt32.toNat_add, UInt8.toNat_toUInt32, hlarge,
        ih.1]
      omega
    refine ⟨by rw [hstep, hA], ?_⟩
    rw [hstep, Zlib.sumB_append_singleton, UInt32.toNat_mod, UInt32.toNat_add, hA, hlarge, ih.2]
    omega

/-- The two sums in one number. -/
theorem adlerSums_or (data : Bytes) :
    (((adlerSums data).2 <<< 16) ||| (adlerSums data).1).toNat = Zlib.adler32 data := by
  obtain ⟨hA, hB⟩ := adlerSums_eq data
  have hAlt : (adlerSums data).1.toNat < 2 ^ 16 := by omega
  have hshift : ((adlerSums data).2 <<< 16).toNat = 2 ^ 16 * (adlerSums data).2.toNat := by
    have hplaces : (16 : UInt32).toNat % 32 = 16 := rfl
    rw [UInt32.toNat_shiftLeft, hplaces, Nat.shiftLeft_eq]
    omega
  rw [UInt32.toNat_or, hshift, ← Nat.two_pow_add_eq_or_of_lt hAlt, hA, hB, Zlib.adler32]
  omega

/-! ## The law -/

theorem zlibStoreUncompressed_eq (data : Bytes) :
    zlibStoreUncompressed data = Zlib.stream 0x78 0x01 (piecesOf data) := by
  rw [zlibStoreUncompressed, storeBlocks_eq _ _ (Nat.zero_le _), List.drop_zero]
  simp only [putBE32_eq, adlerSums_or, Zlib.stream, flatten_piecesOf, List.cons_append, List.nil_append]

/-- The bytes of a stream that holds `n` bytes. -/
def streamLength (n : Nat) : Nat := 6 + n + 5 * ((n - 1) / 65535 + 1)

theorem length_zlibStoreUncompressed (data : Bytes) :
    (zlibStoreUncompressed data).length = streamLength data.length := by
  rw [zlibStoreUncompressed_eq, Zlib.stream, List.length_cons, List.length_cons, List.length_append,
    Zlib.length_blocks, Endian.length_bytes, length_piecesOf, flatten_piecesOf, streamLength]
  omega

theorem headerOk : Zlib.HeaderOk 0x78 0x01 := by decide

theorem decode_zlibStoreUncompressed (data : Bytes) :
    Zlib.decode (zlibStoreUncompressed data) = some data := by
  rw [zlibStoreUncompressed_eq, Zlib.decode_stream headerOk (piecesOf_ne_nil data)
    (length_le_of_mem_piecesOf data), flatten_piecesOf]

/-- Stored blocks whose pieces are the data, in a stream that is read back whole. -/
theorem zlibStoreUncompressed_valid (data : Bytes) : ∃ pieces : List Bytes, pieces ≠ [] ∧
    pieces.flatten = data ∧ (∀ piece ∈ pieces, piece.length ≤ 65535) ∧
      zlibStoreUncompressed data = Zlib.stream 0x78 0x01 pieces ∧ Zlib.HeaderOk 0x78 0x01 ∧
        Zlib.decode (zlibStoreUncompressed data) = some data :=
  ⟨piecesOf data, piecesOf_ne_nil data, flatten_piecesOf data, length_le_of_mem_piecesOf data,
    zlibStoreUncompressed_eq data, headerOk, decode_zlibStoreUncompressed data⟩

end Signal2sip
