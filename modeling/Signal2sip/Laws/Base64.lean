import Signal2sip.Lib.BitString
import Signal2sip.Util.Base64

/-!
# Base64, both ways

Decoding is read against the definition of the format: the characters of the alphabet before the
first `=` spell six bits each, and the complete bytes of the bit string come out. The accumulator of
`base64Decode` is a `BitString.Pending`: fewer than eight bits wait in it, so it never loses one of
them, and the stale bits above them reach no byte.

Encoding spells the bits of the bytes, with fewer than eight bits behind them (`EncodesAs`), so
decoding gives the bytes back, whatever foreign characters stand between those of the text.
-/

namespace Signal2sip.Base64

open BitString (bits words Pending bits_add bits_mod length_bits words_of_lt words_append)

/-! ## The alphabet -/

theorem length_kAlphabet : kAlphabet.length = 64 := by decide +kernel

theorem nodup_kAlphabet : kAlphabet.Nodup := by decide +kernel

theorem padding_not_mem : padding ∉ kAlphabet := by decide +kernel

/-- The six bits that a character stands for. -/
def charValue (c : UInt8) : Option Nat :=
  if c ∈ kAlphabet then some (kAlphabet.idxOf c) else none

theorem charValue_lt {c : UInt8} {n : Nat} (h : charValue c = some n) : n < 64 := by
  rw [charValue] at h
  split at h
  · next hmem =>
    rw [← Option.some.inj h, ← length_kAlphabet]
    exact List.idxOf_lt_length_of_mem hmem
  · cases h

/-- A table filled for some characters, at one of them and elsewhere. -/
theorem fillTable_getD {cs : Bytes} {i : Int} {table : List Int} (hnodup : cs.Nodup)
    (hlength : table.length = 256) (c : UInt8) :
    (fillTable cs i table).getD c.toNat (-1) =
      if c ∈ cs then i + cs.idxOf c else table.getD c.toNat (-1) := by
  induction cs generalizing i table with
  | nil => rfl
  | cons a cs ih =>
    obtain ⟨hmem, hnodup⟩ := List.nodup_cons.mp hnodup
    rw [fillTable, ih hnodup (List.length_set.trans hlength)]
    by_cases hca : c = a
    · subst hca
      rw [if_neg hmem, if_pos List.mem_cons_self, List.idxOf_cons_self,
        List.getD_eq_getElem?_getD, List.getElem?_set_self (hlength ▸ c.toNat_lt)]
      exact (Int.add_zero i).symm
    · have hne : a.toNat ≠ c.toNat := fun h => hca (UInt8.toNat_inj.mp h).symm
      have htable : (table.set a.toNat i).getD c.toNat (-1) = table.getD c.toNat (-1) := by
        rw [List.getD_eq_getElem?_getD, List.getElem?_set_ne hne, ← List.getD_eq_getElem?_getD]
      rw [htable, List.idxOf_cons_ne _ (Ne.symm hca)]
      simp only [List.mem_cons, hca, false_or]
      split
      · omega
      · rfl

theorem kTable_getD (c : UInt8) :
    kTable.getD c.toNat (-1) = if c ∈ kAlphabet then (kAlphabet.idxOf c : Int) else -1 := by
  rw [kTable, fillTable_getD nodup_kAlphabet List.length_replicate, Int.zero_add]
  congr 1
  rw [List.getD_eq_getElem?_getD, List.getElem?_replicate_of_lt c.toNat_lt, Option.getD_some]

/-! ## Decoding -/

/-- The bits that a text spells up to its first `=`. -/
def textBits (input : Bytes) : List Bool :=
  ((input.takeWhile (· ≠ padding)).filterMap charValue).flatMap (bits 6)

/-- The reference: the complete bytes of the bits that the text spells. -/
def referenceDecode (input : Bytes) : Bytes :=
  (words 8 (textBits input)).map UInt8.ofNat

theorem textBits_cons_char {c : UInt8} {n : Nat} {rest : Bytes} (hpad : c ≠ padding)
    (hvalue : charValue c = some n) : textBits (c :: rest) = bits 6 n ++ textBits rest := by
  rw [textBits, List.takeWhile_cons_of_pos (by simpa using hpad), List.filterMap_cons_some hvalue,
    List.flatMap_cons]
  rfl

theorem textBits_cons_foreign {c : UInt8} {rest : Bytes} (hpad : c ≠ padding)
    (hvalue : charValue c = none) : textBits (c :: rest) = textBits rest := by
  rw [textBits, List.takeWhile_cons_of_pos (by simpa using hpad), List.filterMap_cons_none hvalue]
  rfl

theorem textBits_cons_padding {rest : Bytes} : textBits (padding :: rest) = [] := by
  rw [textBits, List.takeWhile_cons_of_neg (by simp)]
  rfl

/-- What a character does to the loop. -/
theorem decodeLoop_cons_char {out : Bytes} {buffer : UInt32} {pending n : Nat} {c : UInt8}
    {rest : Bytes} (hpad : c ≠ padding) (hvalue : charValue c = some n) :
    decodeLoop out buffer pending (c :: rest) =
      let buffer := (buffer <<< 6) ||| UInt32.ofNat n
      if pending + 6 ≥ 8 then
        decodeLoop (out ++ [((buffer >>> UInt32.ofNat (pending + 6 - 8)) &&& 0xFF).toUInt8]) buffer
          (pending + 6 - 8) rest
      else decodeLoop out buffer (pending + 6) rest := by
  rw [charValue] at hvalue
  split at hvalue
  · next hmem =>
    rw [decodeLoop, if_neg hpad, kTable_getD, if_pos hmem, ← Option.some.inj hvalue]
    rw [if_neg (Int.not_lt.mpr (Int.natCast_nonneg _)), Int.toNat_natCast]
  · cases hvalue

theorem decodeLoop_cons_foreign {out : Bytes} {buffer : UInt32} {pending : Nat} {c : UInt8}
    {rest : Bytes} (hpad : c ≠ padding) (hvalue : charValue c = none) :
    decodeLoop out buffer pending (c :: rest) = decodeLoop out buffer pending rest := by
  rw [charValue] at hvalue
  split at hvalue
  · cases hvalue
  · next hmem =>
    rw [decodeLoop, if_neg hpad, kTable_getD, if_neg hmem]
    rfl

/-- The accumulator as a number. -/
theorem toNat_push (buffer : UInt32) {n : Nat} (hn : n < 64) :
    ((buffer <<< 6) ||| UInt32.ofNat n).toNat = (buffer.toNat * 2 ^ 6 + n) % 2 ^ 32 := by
  have hshift : (buffer <<< 6).toNat = 2 ^ 6 * (buffer.toNat % 2 ^ 26) := by
    rw [UInt32.toNat_shiftLeft, Nat.shiftLeft_eq, ← Nat.mul_mod_mul_left, Nat.mul_comm]
    rfl
  rw [UInt32.toNat_or, hshift, UInt32.toNat_ofNat_of_lt' (Nat.lt_trans hn (by decide)),
    ← Nat.two_pow_add_eq_or_of_lt hn]
  omega

/-- A byte of the accumulator as a number. -/
theorem toUInt8_byte (buffer : UInt32) {k : Nat} (hk : k < 32) :
    ((buffer >>> UInt32.ofNat k) &&& 0xFF).toUInt8 = UInt8.ofNat (buffer.toNat / 2 ^ k % 2 ^ 8) := by
  apply UInt8.toNat_inj.mp
  have hk' : (UInt32.ofNat k).toNat % 32 = k := by
    rw [UInt32.toNat_ofNat_of_lt' (Nat.lt_trans hk (by decide)), Nat.mod_eq_of_lt hk]
  rw [UInt32.toNat_toUInt8, UInt32.toNat_and, UInt32.toNat_shiftRight, hk', Nat.shiftRight_eq_div_pow,
    UInt8.toNat_ofNat']
  congr 1
  exact Nat.and_two_pow_sub_one_eq_mod _ 8

/-- The loop from a state in which fewer than eight bits wait. -/
theorem decodeLoop_eq {out input : Bytes} {buffer : UInt32} {p : List Bool} (hp : p.length < 8)
    (h : Pending p buffer.toNat) :
    decodeLoop out buffer p.length input =
      out ++ (words 8 (p ++ textBits input)).map UInt8.ofNat := by
  induction input generalizing out buffer p with
  | nil =>
    rw [decodeLoop, textBits, List.takeWhile_nil, List.filterMap_nil, List.flatMap_nil,
      List.append_nil, words_of_lt hp, List.map_nil, List.append_nil]
  | cons c rest ih =>
    by_cases hpad : c = padding
    · rw [hpad, textBits_cons_padding, List.append_nil, words_of_lt hp, List.map_nil,
        List.append_nil, decodeLoop, if_pos rfl]
    · cases hvalue : charValue c with
      | none =>
        rw [decodeLoop_cons_foreign hpad hvalue, textBits_cons_foreign hpad hvalue]
        exact ih hp h
      | some n =>
        have hn := charValue_lt hvalue
        have hpush : Pending (p ++ bits 6 n) ((buffer <<< 6) ||| UInt32.ofNat n).toNat := by
          rw [toNat_push buffer hn]
          exact h.push (by omega) hn
        have hlength : (p ++ bits 6 n).length = p.length + 6 := by
          rw [List.length_append, length_bits]
        rw [decodeLoop_cons_char hpad hvalue, textBits_cons_char hpad hvalue, ← List.append_assoc,
          ← hlength]
        simp only
        split
        · next hfull =>
          -- the first eight of the waiting bits leave
          obtain ⟨first, left, hsplit, hfirst⟩ : ∃ first left, p ++ bits 6 n = first ++ left ∧
              first.length = 8 := ⟨_, _, (List.take_append_drop 8 _).symm, by
                rw [List.length_take]
                exact Nat.min_eq_left hfull⟩
          have hleft : (first ++ left).length - 8 = left.length := by
            rw [List.length_append, hfirst, Nat.add_sub_cancel_left]
          have hleft_lt : left.length < 8 := by
            rw [hsplit, List.length_append] at hlength
            omega
          rw [hsplit] at hpush ⊢
          obtain ⟨hbyte, hrest⟩ := hpush.pop
          rw [hfirst] at hbyte
          rw [hleft, toUInt8_byte _ (by omega), hbyte, ih hleft_lt hrest, List.append_assoc first,
            words_append (by decide) hfirst, List.map_cons, List.append_assoc]
          rfl
        · next hfew => exact ih (Nat.not_le.mp hfew) hpush

/-- Decoding with the 32-bit accumulator is the reference decoding, for every input. -/
theorem base64Decode_reference (input : Bytes) : base64Decode input = referenceDecode input :=
  decodeLoop_eq (by decide) (BitString.pending_nil _)

/-- A text that spells the bits of some bytes, with fewer than eight bits behind them. -/
theorem base64Decode_of_textBits {input b : Bytes} {tail : List Bool} (htail : tail.length < 8)
    (h : textBits input = (b.map UInt8.toNat).flatMap (bits 8) ++ tail) : base64Decode input = b := by
  have hwords : words 8 (textBits input) = b.map UInt8.toNat := by
    rw [h]
    refine BitString.words_flatMap_bits (by decide) (fun n hn => ?_) htail
    obtain ⟨byte, -, rfl⟩ := List.mem_map.mp hn
    exact byte.toNat_lt
  have hloop : base64Decode input = (words 8 (textBits input)).map UInt8.ofNat :=
    decodeLoop_eq (by decide) (BitString.pending_nil _)
  rw [hloop, hwords, List.map_map]
  exact List.map_id'' (fun byte => UInt8.ofNat_toNat) b

/-! ## Foreign characters -/

/-- `text` is `core` with characters inserted that are neither in the alphabet nor the padding. -/
inductive Inserted : Bytes → Bytes → Prop
  | nil : Inserted [] []
  | keep (c : UInt8) {core text : Bytes} (h : Inserted core text) : Inserted (c :: core) (c :: text)
  | insert (c : UInt8) {core text : Bytes} (hforeign : c ∉ kAlphabet) (hpad : c ≠ padding)
      (h : Inserted core text) : Inserted core (c :: text)

theorem Inserted.refl (core : Bytes) : Inserted core core := by
  induction core with
  | nil => exact .nil
  | cons c core ih => exact .keep c ih

theorem Inserted.textBits_eq {core text : Bytes} (h : Inserted core text) :
    textBits text = textBits core := by
  induction h with
  | nil => rfl
  | keep c _ ih =>
    by_cases hpad : c = padding
    · rw [hpad, textBits_cons_padding, textBits_cons_padding]
    · cases hvalue : charValue c with
      | none => rw [textBits_cons_foreign hpad hvalue, textBits_cons_foreign hpad hvalue, ih]
      | some n => rw [textBits_cons_char hpad hvalue, textBits_cons_char hpad hvalue, ih]
  | insert c hforeign hpad _ ih => rw [textBits_cons_foreign hpad (if_neg hforeign), ih]

/-! ## Encoding -/

/-- The character of the alphabet with a value. -/
def charOf (value : Nat) : UInt8 := kAlphabet.getD value 0

theorem charOf_mem {n : Nat} (hn : n < 64) : charOf n ∈ kAlphabet := by
  rw [charOf, List.getD_eq_getElem?_getD, List.getElem?_eq_getElem (length_kAlphabet.symm ▸ hn)]
  exact List.getElem_mem _

theorem charValue_charOf {n : Nat} (hn : n < 64) : charValue (charOf n) = some n := by
  rw [charValue, if_pos (charOf_mem hn), charOf, List.getD_eq_getElem?_getD,
    List.getElem?_eq_getElem (length_kAlphabet.symm ▸ hn), Option.getD_some,
    nodup_kAlphabet.idxOf_getElem]

/-- How the text of some bytes is made: characters that spell their bits with `tail` behind, and
`k` characters of padding. -/
structure EncodesAs (b text : Bytes) (values : List Nat) (k : Nat) (tail : List Bool) : Prop where
  text_eq : text = values.map charOf ++ List.replicate k padding
  values_lt : ∀ n ∈ values, n < 64
  bits_eq : values.flatMap (bits 6) = (b.map UInt8.toNat).flatMap (bits 8) ++ tail
  tail_lt : tail.length < 8
  k_le : k ≤ 2
  length_eq : values.length + k = 4 * ((b.length + 2) / 3)

/-- A byte moved up in a 32-bit word. -/
theorem toNat_shift (b : UInt8) {s : UInt32} (hs : s.toNat ≤ 24) :
    (b.toUInt32 <<< s).toNat = 2 ^ s.toNat * b.toNat := by
  have hb : b.toNat * 2 ^ s.toNat < 2 ^ 32 :=
    calc b.toNat * 2 ^ s.toNat < 2 ^ 8 * 2 ^ s.toNat :=
          Nat.mul_lt_mul_of_pos_right b.toNat_lt (Nat.two_pow_pos _)
      _ = 2 ^ (8 + s.toNat) := (Nat.pow_add 2 8 _).symm
      _ ≤ 2 ^ 32 := Nat.pow_le_pow_right (by decide) (by omega)
  have hs' : s.toNat % 32 = s.toNat := Nat.mod_eq_of_lt (by omega)
  rw [UInt32.toNat_shiftLeft, UInt8.toNat_toUInt32, hs', Nat.shiftLeft_eq, Nat.mod_eq_of_lt hb,
    Nat.mul_comm]

/-- Two bytes of a group as a number. -/
theorem toNat_two (b0 b1 : UInt8) :
    ((b0.toUInt32 <<< 16) ||| (b1.toUInt32 <<< 8)).toNat = 2 ^ 8 * (2 ^ 8 * b0.toNat + b1.toNat) := by
  have h0 : (b0.toUInt32 <<< 16).toNat = 2 ^ 16 * b0.toNat := toNat_shift b0 (by decide)
  have h1 : (b1.toUInt32 <<< 8).toNat = 2 ^ 8 * b1.toNat := toNat_shift b1 (by decide)
  have hlt := b1.toNat_lt
  rw [UInt32.toNat_or, h0, h1, ← Nat.two_pow_add_eq_or_of_lt (by omega)]
  omega

/-- The three bytes of a group as a number. -/
theorem toNat_three (b0 b1 b2 : UInt8) :
    ((b0.toUInt32 <<< 16) ||| (b1.toUInt32 <<< 8) ||| b2.toUInt32).toNat =
      2 ^ 8 * (2 ^ 8 * b0.toNat + b1.toNat) + b2.toNat := by
  rw [UInt32.toNat_or, toNat_two, UInt8.toNat_toUInt32, ← Nat.two_pow_add_eq_or_of_lt b2.toNat_lt]

theorem alphabetChar_eq (n : UInt32) : alphabetChar n = charOf (n.toNat % 2 ^ 6) := by
  rw [alphabetChar, charOf, UInt32.toNat_and]
  congr 1
  exact Nat.and_two_pow_sub_one_eq_mod _ 6

theorem alphabetChar_shift (n : UInt32) {s : UInt32} (hs : s.toNat < 32) :
    alphabetChar (n >>> s) = charOf (n.toNat / 2 ^ s.toNat % 2 ^ 6) := by
  rw [alphabetChar_eq, UInt32.toNat_shiftRight, Nat.mod_eq_of_lt hs, Nat.shiftRight_eq_div_pow]

/-- The six bits of a number from each of the places on. -/
def sextets (n : Nat) (places : List Nat) : List Nat := places.map fun k => n / 2 ^ k % 2 ^ 6

theorem sextets_lt {n v : Nat} {places : List Nat} (hv : v ∈ sextets n places) : v < 64 := by
  obtain ⟨k, -, rfl⟩ := List.mem_map.mp hv
  exact Nat.mod_lt _ (by decide)

theorem length_sextets (n : Nat) (places : List Nat) : (sextets n places).length = places.length :=
  List.length_map _

theorem bits_sextets (n : Nat) (places : List Nat) :
    (sextets n places).flatMap (bits 6) = places.flatMap fun k => bits 6 (n / 2 ^ k) := by
  rw [sextets, List.flatMap_map]
  congr 1
  funext k
  exact bits_mod (Nat.le_refl 6)

/-- Four values of six bits are three of eight. -/
theorem bits_three {n x y z : Nat} (hn : n = 2 ^ 8 * (2 ^ 8 * x + y) + z) (hy : y < 2 ^ 8)
    (hz : z < 2 ^ 8) :
    (sextets n [18, 12, 6, 0]).flatMap (bits 6) = [x, y, z].flatMap (bits 8) := by
  have hsix : bits 24 n =
      bits 6 (n / 2 ^ 18) ++ (bits 6 (n / 2 ^ 12) ++ (bits 6 (n / 2 ^ 6) ++ bits 6 n)) := by
    rw [← bits_add (v := 6) (w := 6), ← bits_add (v := 6) (w := 12), ← bits_add (v := 6) (w := 18)]
  have height : bits 24 n = bits 8 (n / 2 ^ 16) ++ (bits 8 (n / 2 ^ 8) ++ bits 8 n) := by
    rw [← bits_add (v := 8) (w := 8), ← bits_add (v := 8) (w := 16)]
  have hx' : n / 2 ^ 16 = x := by omega
  have hy' : n / 2 ^ 8 % 2 ^ 8 = y := by omega
  have hz' : n % 2 ^ 8 = z := by omega
  rw [bits_sextets]
  simp only [List.flatMap_cons, List.flatMap_nil, List.append_nil, Nat.pow_zero, Nat.div_one]
  rw [← hsix, height, hx', ← hy', ← hz', bits_mod (Nat.le_refl 8), bits_mod (Nat.le_refl 8)]

/-- Three values of six bits are two of eight, and two bits. -/
theorem bits_two {n x y : Nat} (hn : n = 2 ^ 8 * (2 ^ 8 * x + y)) (hy : y < 2 ^ 8) :
    (sextets n [18, 12, 6]).flatMap (bits 6) =
      [x, y].flatMap (bits 8) ++ bits 2 (n / 2 ^ 6) := by
  have hsix : bits 18 (n / 2 ^ 6) =
      bits 6 (n / 2 ^ 18) ++ (bits 6 (n / 2 ^ 12) ++ bits 6 (n / 2 ^ 6)) := by
    have h18 : n / 2 ^ 6 / 2 ^ 12 = n / 2 ^ 18 := Nat.div_div_eq_div_mul _ _ _
    have h12 : n / 2 ^ 6 / 2 ^ 6 = n / 2 ^ 12 := Nat.div_div_eq_div_mul _ _ _
    rw [← h18, ← h12, ← bits_add (v := 6) (w := 6), ← bits_add (v := 6) (w := 12)]
  have height : bits 18 (n / 2 ^ 6) = bits 8 x ++ (bits 8 (n / 2 ^ 8) ++ bits 2 (n / 2 ^ 6)) := by
    have hx' : n / 2 ^ 6 / 2 ^ 10 = x := by omega
    have hy' : n / 2 ^ 6 / 2 ^ 2 = n / 2 ^ 8 := Nat.div_div_eq_div_mul _ _ _
    rw [← hx', ← hy', ← bits_add (v := 8) (w := 2), ← bits_add (v := 8) (w := 10)]
  have hy' : n / 2 ^ 8 % 2 ^ 8 = y := by omega
  rw [bits_sextets]
  simp only [List.flatMap_cons, List.flatMap_nil, List.append_nil]
  rw [← hsix, height, ← hy', bits_mod (Nat.le_refl 8), List.append_assoc]

/-- Two values of six bits are one of eight, and four bits. -/
theorem bits_one {n x : Nat} (hn : n = 2 ^ 16 * x) :
    (sextets n [18, 12]).flatMap (bits 6) = [x].flatMap (bits 8) ++ bits 4 (n / 2 ^ 12) := by
  have hsix : bits 12 (n / 2 ^ 12) = bits 6 (n / 2 ^ 18) ++ bits 6 (n / 2 ^ 12) := by
    have h18 : n / 2 ^ 12 / 2 ^ 6 = n / 2 ^ 18 := Nat.div_div_eq_div_mul _ _ _
    rw [← h18, ← bits_add (v := 6) (w := 6)]
  have height : bits 12 (n / 2 ^ 12) = bits 8 x ++ bits 4 (n / 2 ^ 12) := by
    have hx' : n / 2 ^ 12 / 2 ^ 4 = x := by omega
    rw [← hx', ← bits_add (v := 8) (w := 4)]
  rw [bits_sextets]
  simp only [List.flatMap_cons, List.flatMap_nil, List.append_nil]
  rw [← hsix, height]

/-- A group of three in front. -/
theorem EncodesAs.three {b0 b1 b2 : UInt8} {rest : Bytes} {values : List Nat} {k : Nat}
    {tail : List Bool} (h : EncodesAs rest (base64Encode rest) values k tail) :
    ∃ values', EncodesAs (b0 :: b1 :: b2 :: rest) (base64Encode (b0 :: b1 :: b2 :: rest)) values' k
      tail := by
  rw [base64Encode]
  have hn := toNat_three b0 b1 b2
  generalize (b0.toUInt32 <<< 16) ||| (b1.toUInt32 <<< 8) ||| b2.toUInt32 = n at hn ⊢
  refine ⟨sextets n.toNat [18, 12, 6, 0] ++ values, ?_⟩
  constructor
  case text_eq =>
    rw [@alphabetChar_shift n 18 (by decide), @alphabetChar_shift n 12 (by decide),
      @alphabetChar_shift n 6 (by decide), alphabetChar_eq, h.text_eq, List.map_append, sextets]
    simp only [List.map_cons, List.map_nil, Nat.pow_zero, Nat.div_one]
    rfl
  case values_lt =>
    intro v hv
    rcases List.mem_append.mp hv with hv | hv
    · exact sextets_lt hv
    · exact h.values_lt v hv
  case bits_eq =>
    rw [List.flatMap_append, bits_three hn b1.toNat_lt b2.toNat_lt, h.bits_eq, ← List.append_assoc,
      ← List.flatMap_append]
    rfl
  case tail_lt => exact h.tail_lt
  case k_le => exact h.k_le
  case length_eq =>
    have hlength := h.length_eq
    rw [List.length_append, length_sextets]
    simp only [List.length_cons, List.length_nil]
    omega

/-- Two bytes left. -/
theorem encodesAs_two (b0 b1 : UInt8) :
    ∃ values tail, EncodesAs [b0, b1] (base64Encode [b0, b1]) values 1 tail := by
  rw [base64Encode]
  have hn := toNat_two b0 b1
  generalize (b0.toUInt32 <<< 16) ||| (b1.toUInt32 <<< 8) = n at hn ⊢
  refine ⟨sextets n.toNat [18, 12, 6], bits 2 (n.toNat / 2 ^ 6), ?_⟩
  constructor
  case text_eq =>
    rw [@alphabetChar_shift n 18 (by decide), @alphabetChar_shift n 12 (by decide),
      @alphabetChar_shift n 6 (by decide)]
    rfl
  case values_lt => exact fun v hv => sextets_lt hv
  case bits_eq => exact bits_two hn b1.toNat_lt
  case tail_lt => rw [length_bits]; decide
  case k_le => decide
  case length_eq => simp only [length_sextets, List.length_cons, List.length_nil]

/-- One byte left. -/
theorem encodesAs_one (b0 : UInt8) :
    ∃ values tail, EncodesAs [b0] (base64Encode [b0]) values 2 tail := by
  rw [base64Encode]
  have hn : (b0.toUInt32 <<< 16).toNat = 2 ^ 16 * b0.toNat := toNat_shift b0 (by decide)
  generalize b0.toUInt32 <<< 16 = n at hn ⊢
  refine ⟨sextets n.toNat [18, 12], bits 4 (n.toNat / 2 ^ 12), ?_⟩
  constructor
  case text_eq =>
    rw [@alphabetChar_shift n 18 (by decide), @alphabetChar_shift n 12 (by decide)]
    rfl
  case values_lt => exact fun v hv => sextets_lt hv
  case bits_eq => exact bits_one hn
  case tail_lt => rw [length_bits]; decide
  case k_le => decide
  case length_eq => simp only [length_sextets, List.length_cons, List.length_nil]

theorem exists_encodesAs (b : Bytes) :
    ∃ values k tail, EncodesAs b (base64Encode b) values k tail := by
  induction b using base64Encode.induct with
  | case1 b0 b1 b2 rest ih =>
    obtain ⟨values, k, tail, h⟩ := ih
    obtain ⟨values', h'⟩ := h.three
    exact ⟨values', k, tail, h'⟩
  | case2 b0 =>
    obtain ⟨values, tail, h⟩ := encodesAs_one b0
    exact ⟨values, 2, tail, h⟩
  | case3 b0 b1 =>
    obtain ⟨values, tail, h⟩ := encodesAs_two b0 b1
    exact ⟨values, 1, tail, h⟩
  | case4 => exact ⟨[], 0, [], rfl, by simp, rfl, by decide, by decide, rfl⟩

/-! ## Round trips -/

section RoundTrip

variable {b text : Bytes} {values : List Nat} {k : Nat} {tail : List Bool}

theorem EncodesAs.charOf_ne (h : EncodesAs b text values k tail) :
    ∀ c ∈ values.map charOf, c ∈ kAlphabet ∧ c ≠ padding := by
  intro c hc
  obtain ⟨n, hn, rfl⟩ := List.mem_map.mp hc
  have hmem := charOf_mem (h.values_lt n hn)
  exact ⟨hmem, fun hpad => padding_not_mem (hpad ▸ hmem)⟩

/-- Padding behind the characters spells nothing, however much of it there is. -/
theorem EncodesAs.textBits_eq (h : EncodesAs b text values k tail) (j : Nat) :
    textBits (values.map charOf ++ List.replicate j padding) =
      (b.map UInt8.toNat).flatMap (bits 8) ++ tail := by
  have hcore : (values.map charOf ++ List.replicate j padding).takeWhile (· ≠ padding) =
      values.map charOf := by
    rw [List.takeWhile_append_of_pos fun c hc => decide_eq_true (h.charOf_ne c hc).2]
    cases j with
    | zero => exact List.append_nil _
    | succ j => rw [List.replicate_succ, List.takeWhile_cons_of_neg (by simp), List.append_nil]
  have hvalues : (values.map charOf).filterMap charValue = values := by
    have hsome : values.filterMap (charValue ∘ charOf) = values.filterMap some :=
      List.filterMap_congr fun n hn => charValue_charOf (h.values_lt n hn)
    rw [List.filterMap_map, hsome, List.filterMap_some]
  rw [textBits, hcore, hvalues, h.bits_eq]

/-- Without its padding the text is the characters alone. -/
theorem EncodesAs.noPadding_eq (h : EncodesAs b (base64Encode b) values k tail) :
    base64NoPadding b = values.map charOf := by
  have hstrip : ∀ j, (values.map charOf ++ List.replicate j padding).rdropWhile (· = padding) =
      values.map charOf := by
    intro j
    induction j with
    | zero =>
      rw [List.replicate_zero, List.append_nil, List.rdropWhile_eq_self_iff]
      intro hne
      have hlast := (h.charOf_ne _ (List.getLast_mem hne)).2
      simpa using hlast
    | succ j ih =>
      rw [List.replicate_succ', ← List.append_assoc, List.rdropWhile_concat_pos _ _ _ (by simp), ih]
  rw [base64NoPadding, h.text_eq, hstrip k]

/-- The form without padding is all of the alphabet. -/
theorem mem_kAlphabet_of_noPadding (b : Bytes) : ∀ c ∈ base64NoPadding b, c ∈ kAlphabet := by
  obtain ⟨values, k, tail, h⟩ := exists_encodesAs b
  rw [h.noPadding_eq]
  exact fun c hc => (h.charOf_ne c hc).1

theorem noPadding_ne_nil {b : Bytes} (hb : 0 < b.length) : base64NoPadding b ≠ [] := by
  obtain ⟨values, k, tail, h⟩ := exists_encodesAs b
  rw [h.noPadding_eq]
  intro hnil
  have hlength := h.length_eq
  rw [List.map_eq_nil_iff.mp hnil, List.length_nil] at hlength
  have hk := h.k_le
  omega

/-- Both forms decode, with anything foreign in between. -/
theorem decode_inserted
    (h : Inserted (base64Encode b) text ∨ Inserted (base64NoPadding b) text) :
    base64Decode text = b := by
  obtain ⟨values, k, tail, hb⟩ := exists_encodesAs b
  refine base64Decode_of_textBits hb.tail_lt ?_
  rcases h with h | h
  · rw [h.textBits_eq, hb.text_eq]
    exact hb.textBits_eq k
  · have hzero := hb.textBits_eq 0
    rw [List.replicate_zero, List.append_nil] at hzero
    rw [h.textBits_eq, hb.noPadding_eq, hzero]

end RoundTrip

/-- The text of some bytes has four characters for every three of them, all of the alphabet but at
most two of padding at the end. Decoding gives the bytes back from it, from the form without padding,
and from either with foreign characters anywhere; so different bytes have different texts. -/
theorem base64_roundTrip (b : Bytes) :
    (base64Encode b).length = 4 * ((b.length + 2) / 3) ∧
    (∃ core k, base64Encode b = core ++ List.replicate k padding ∧
      (∀ c ∈ core, c ∈ kAlphabet) ∧ k ≤ 2) ∧
    base64Decode (base64Encode b) = b ∧
    base64Decode (base64NoPadding b) = b ∧
    (∀ text, Inserted (base64Encode b) text ∨ Inserted (base64NoPadding b) text →
      base64Decode text = b) ∧
    ∀ b', base64Encode b' = base64Encode b → b' = b := by
  obtain ⟨values, k, tail, h⟩ := exists_encodesAs b
  have hdecode : ∀ b, base64Decode (base64Encode b) = b := fun b => decode_inserted (.inl (.refl _))
  refine ⟨?_, ⟨values.map charOf, k, h.text_eq, fun c hc => (h.charOf_ne c hc).1, h.k_le⟩, hdecode b,
    decode_inserted (.inr (.refl _)), fun text htext => decode_inserted htext, ?_⟩
  · rw [h.text_eq, List.length_append, List.length_map, List.length_replicate, h.length_eq]
  · intro b' heq
    rw [← hdecode b', heq, hdecode b]

end Signal2sip.Base64
