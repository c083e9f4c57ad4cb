import Signal2sip.Gendb.QrPng
import Signal2sip.Lib.Crc32Division
import Signal2sip.Lib.Run

/-!
# The checksum of a chunk

The table has what eight shifts make of a byte, so a step with the table is a byte of CRC-32 bit by bit.
The first call fills it, and no call changes it then: whichever calls there have been, the next one
returns the CRC-32 of its bytes, which is a remainder of a polynomial division.
-/

namespace Signal2sip

/-! ## The table -/

theorem crcShift_eq (c : UInt32) : crcShift c = Crc32.shift c := by
  by_cases h : c.toNat % 2 = 1
  · have hone : c &&& 1 ≠ 0 := by
      rw [(Crc32.and_one_iff c).mpr h]
      decide
    rw [crcShift, Crc32.shift_odd h, if_pos hone]
    rfl
  · have hzero : c &&& 1 = 0 := by
      rw [← UInt32.toNat_inj, UInt32.toNat_and]
      exact (Nat.and_one_is_mod _).trans (Nat.mod_two_ne_one.mp h)
    rw [crcShift, Crc32.shift_even h, if_neg (not_not.mpr hzero)]

theorem crcTable_getD {v : UInt32} (h : v.toNat < 256) :
    crcTable.getD v.toNat 0 = Crc32.shift^[8] v := by
  have hentry : (List.range 8).foldl (fun c _ => crcShift c) v = Crc32.shift^[8] v := by
    rw [List.foldl_const, funext crcShift_eq]
    rfl
  rw [crcTable, List.getD_eq_getElem?_getD, List.getElem?_map, List.getElem?_range h]
  rw [← hentry]
  simp

theorem crcStep_eq (crc : UInt32) (byte : UInt8) : crcStep crc byte = Crc32.update crc byte := by
  have hlow : ((crc ^^^ byte.toUInt32) &&& 0xFF).toNat < 256 := by
    rw [UInt32.toNat_and]
    exact Nat.lt_of_le_of_lt Nat.and_le_right (by decide)
  rw [crcStep, crcTable_getD hlow, Crc32.update_eq_table]

theorem crc32Of_eq (data : Bytes) : crc32Of data = Crc32.crc32 data := by
  rw [crc32Of, Crc32.crc32, funext fun crc => funext (crcStep_eq crc)]

/-- The bytes of `123456789`, with which CRC-32 is checked. -/
example : crc32Of [49, 50, 51, 52, 53, 54, 55, 56, 57] = 0xCBF43926 := by decide +kernel

/-! ## The statics -/

namespace CrcStatics

/-- A table that is said to be ready has been filled. -/
structure Sound (s : CrcStatics) : Prop where
  length : s.table.length = 256
  filled : s.tableReady = true → s.table = crcTable

theorem sound_start : Sound {} := ⟨List.length_replicate, nofun⟩

theorem fill_eq {s : CrcStatics} (h : s.Sound) : s.fill = ⟨crcTable, true⟩ := by
  rw [fill]
  cases hready : s.tableReady with
  | true =>
    rw [if_pos rfl]
    cases s
    exact congr (congrArg mk (h.filled hready)) hready
  | false =>
    have htable := Steps.foldl_set
      (fun n => (List.range 8).foldl (fun c _ => crcShift c) (UInt32.ofNat n)) h.length.ge
    rw [List.drop_of_length_le h.length.le, List.append_nil] at htable
    rw [if_neg Bool.false_ne_true]
    exact congrArg (mk · true) htable

theorem crc32Of_eq {s : CrcStatics} (h : s.Sound) (data : Bytes) :
    s.crc32Of data = (Signal2sip.crc32Of data, ⟨crcTable, true⟩) := by
  rw [crc32Of, fill_eq h]
  rfl

/-- What a call leaves. -/
def next (s : CrcStatics) (data : Bytes) : CrcStatics := (s.crc32Of data).2

theorem sound_next (s : CrcStatics) (data : Bytes) (h : s.Sound) : (s.next data).Sound := by
  rw [next, crc32Of_eq h]
  exact ⟨by rw [crcTable, List.length_map, List.length_range], fun _ => rfl⟩

/-- After any calls. -/
def after (calls : List Bytes) : CrcStatics := Runs.final next {} calls

theorem sound_after (calls : List Bytes) : (after calls).Sound :=
  (Runs.Always.of_keep sound_next sound_start).last

end CrcStatics

open Polynomial in
/-- What a call returns, whatever was called before it. -/
theorem crc32Of_longDivision (calls : List Bytes) (data : Bytes) :
    ((CrcStatics.after calls).crc32Of data).1 = crc32Of data ∧
    crc32Of data = Crc32.crc32 data ∧
    ∀ c, crc32Of data = c ↔ Crc32.poly (c ^^^ 0xFFFFFFFF) =
      (Crc32.message data * X ^ 32 + Crc32.poly 0xFFFFFFFF * X ^ (8 * data.length)) %ₘ
        Crc32.generator := by
  refine ⟨?_, crc32Of_eq data, fun c => ?_⟩
  · rw [CrcStatics.crc32Of_eq (CrcStatics.sound_after calls)]
  · rw [crc32Of_eq]
    exact Crc32.crc32_eq_iff data c

end Signal2sip
