import Mathlib.Data.List.Basic
import Signal2sip.Lib.Crc32
import Signal2sip.Lib.Zlib

/-!
# PNG files of one bit per pixel

A file is a signature and chunks: a length, a type of four bytes, the data, and the CRC-32 of type and
data. `decode` reads the plain kind: a header, the data in one or more `IDAT` chunks, and an empty
`IEND`; the data is a zlib stream of scanlines, each with a filter byte in front, and a scanline packs
eight pixels into a byte, the leftmost in the highest bit.

A length is less than 2³¹. The four bytes of a length hold more than that, and a chunk that says more is
no chunk (`readChunk_long`).
-/

namespace Png

def signature : List UInt8 := [0x89, 0x50, 0x4E, 0x47, 0x0D, 0x0A, 0x1A, 0x0A]

/-! ## Chunks -/

structure Chunk where
  type : List UInt8
  data : List UInt8
deriving DecidableEq

def Chunk.bytes (c : Chunk) : List UInt8 :=
  Endian.bytes 4 c.data.length ++ (c.type ++ (c.data ++
    Endian.bytes 4 (Crc32.crc32 (c.type ++ c.data)).toNat))

/-- The chunk at the front, and what is behind it. -/
def readChunk (s : List UInt8) : Option (Chunk × List UInt8) :=
  let length := Endian.value (s.take 4)
  let type := (s.drop 4).take 4
  let data := (s.drop 8).take length
  let behind := (s.drop 8).drop length
  if length < 2 ^ 31 ∧ 8 + length + 4 ≤ s.length ∧
      behind.take 4 = Endian.bytes 4 (Crc32.crc32 (type ++ data)).toNat then
    some (⟨type, data⟩, behind.drop 4)
  else none

/-- The chunks of a text, at most so many. -/
def readChunks : Nat → List UInt8 → Option (List Chunk)
  | _, [] => some []
  | 0, _ :: _ => none
  | n + 1, byte :: s => do
    let (c, rest) ← readChunk (byte :: s)
    return c :: (← readChunks n rest)

/-- A type of four bytes, and data whose length may stand in a chunk. -/
structure Chunk.Ok (c : Chunk) : Prop where
  type : c.type.length = 4
  data : c.data.length < 2 ^ 31

theorem Chunk.length_bytes (c : Chunk) : c.bytes.length = 8 + c.type.length + c.data.length := by
  simp only [Chunk.bytes, List.length_append, Endian.length_bytes]
  omega

theorem readChunk_bytes {c : Chunk} (h : c.Ok) (rest : List UInt8) :
    readChunk (c.bytes ++ rest) = some (c, rest) := by
  have hlength := c.length_bytes
  have htype := h.type
  have hdata := h.data
  have hfront : c.bytes ++ rest = Endian.bytes 4 c.data.length ++ (c.type ++ (c.data ++
      (Endian.bytes 4 (Crc32.crc32 (c.type ++ c.data)).toNat ++ rest))) := by
    simp only [Chunk.bytes, List.append_assoc]
  have htake : (c.bytes ++ rest).take 4 = Endian.bytes 4 c.data.length := by
    rw [hfront]
    exact List.take_left' (Endian.length_bytes 4 _)
  have hdrop : (c.bytes ++ rest).drop 4 = c.type ++ (c.data ++
      (Endian.bytes 4 (Crc32.crc32 (c.type ++ c.data)).toNat ++ rest)) := by
    rw [hfront]
    exact List.drop_left' (Endian.length_bytes 4 _)
  have hdrop8 : (c.bytes ++ rest).drop 8 = c.data ++
      (Endian.bytes 4 (Crc32.crc32 (c.type ++ c.data)).toNat ++ rest) := by
    rw [← List.drop_drop (i := 4) (j := 4), hdrop]
    exact List.drop_left' htype
  have hvalue : Endian.value (Endian.bytes 4 c.data.length) = c.data.length :=
    Endian.value_bytes (by omega)
  have htotal : (c.bytes ++ rest).length = 8 + c.type.length + c.data.length + rest.length := by
    rw [List.length_append, hlength]
  have hcheck : (Endian.bytes 4 (Crc32.crc32 (c.type ++ c.data)).toNat).length = 4 :=
    Endian.length_bytes 4 _
  simp only [readChunk, htake, hdrop, hdrop8, hvalue, List.take_left' htype, List.take_left,
    List.drop_left, List.take_left' hcheck, List.drop_left' hcheck, and_true]
  exact if_pos ⟨hdata, by omega⟩

theorem readChunk_long {s : List UInt8} (h : 2 ^ 31 ≤ Endian.value (s.take 4)) : readChunk s = none :=
  if_neg fun hc => absurd hc.1 (Nat.not_lt.mpr h)

theorem readChunks_step {s rest : List UInt8} {c : Chunk} (n : Nat) (h : readChunk s = some (c, rest)) :
    readChunks (n + 1) s = (readChunks n rest).map (c :: ·) := by
  cases s with
  | nil => exact nomatch h
  | cons byte s =>
    rw [readChunks, h]
    cases hrest : readChunks n rest <;> simp [hrest]

theorem readChunks_none {s : List UInt8} (hs : s ≠ []) (h : readChunk s = none) (n : Nat) :
    readChunks n s = none := by
  cases s with
  | nil => exact absurd rfl hs
  | cons byte s =>
    cases n with
    | zero => rfl
    | succ n =>
      rw [readChunks, h]
      rfl

theorem readChunks_bytes {chunks : List Chunk} (h : ∀ c ∈ chunks, c.Ok) {n : Nat}
    (hn : chunks.length ≤ n) : readChunks n (chunks.flatMap Chunk.bytes) = some chunks := by
  induction chunks generalizing n with
  | nil => cases n <;> rfl
  | cons c chunks ih =>
    cases n with
    | zero => exact absurd hn (Nat.not_succ_le_zero _)
    | succ n =>
      have hrest := ih (fun d hd => h d (List.mem_cons_of_mem c hd)) (Nat.le_of_succ_le_succ hn)
      rw [List.flatMap_cons, readChunks_step n (readChunk_bytes (h c List.mem_cons_self) _), hrest]
      rfl

theorem length_le_flatMap (chunks : List Chunk) :
    chunks.length ≤ (chunks.flatMap Chunk.bytes).length := by
  induction chunks with
  | nil => exact Nat.le_refl 0
  | cons c chunks ih =>
    rw [List.flatMap_cons, List.length_append, List.length_cons, c.length_bytes]
    omega

/-! ## Scanlines -/

/-- So many scanlines and nothing else, each with the filter that leaves its bytes as they are. -/
def scanlines (rowBytes : Nat) : Nat → List UInt8 → Option (List (List UInt8))
  | 0, [] => some []
  | 0, _ :: _ => none
  | _ + 1, [] => none
  | n + 1, filter :: s =>
    if filter = 0 ∧ rowBytes ≤ s.length then
      (scanlines rowBytes n (s.drop rowBytes)).map (s.take rowBytes :: ·)
    else none

theorem scanlines_flatMap {rowBytes : Nat} {lines : List (List UInt8)}
    (h : ∀ line ∈ lines, line.length = rowBytes) :
    scanlines rowBytes lines.length (lines.flatMap (0 :: ·)) = some lines := by
  induction lines with
  | nil => rfl
  | cons line lines ih =>
    have hline := h line List.mem_cons_self
    have hrest := ih fun other hother => h other (List.mem_cons_of_mem line hother)
    have hfits : rowBytes ≤ (line ++ lines.flatMap (0 :: ·)).length := by
      rw [List.length_append]
      omega
    rw [List.flatMap_cons, List.cons_append, List.length_cons, scanlines, if_pos ⟨rfl, hfits⟩,
      List.take_left' hline, List.drop_left' hline, hrest, Option.map_some]

/-- The pixel in column `x`: a set bit is white. -/
def sample (line : List UInt8) (x : Nat) : Bool := (line.getD (x / 8) 0).toBitVec.getMsbD (x % 8)

/-! ## Files -/

structure Image where
  width : Nat
  height : Nat
  /-- The pixel in column `x` of row `y`. -/
  white : Fin width → Fin height → Bool

def IHDR : List UInt8 := [73, 72, 68, 82]
def IDAT : List UInt8 := [73, 68, 65, 84]
def IEND : List UInt8 := [73, 69, 78, 68]

/-- One bit of greyscale, deflate, filters by scanline, not interlaced. -/
def plainFormat : List UInt8 := [1, 0, 0, 0, 0]

def readHeader (data : List UInt8) : Option (Nat × Nat) :=
  let width := Endian.value (data.take 4)
  let height := Endian.value ((data.drop 4).take 4)
  if 0 < width ∧ width < 2 ^ 31 ∧ 0 < height ∧ height < 2 ^ 31 ∧ data.drop 8 = plainFormat then
    some (width, height)
  else none

def headerData (width height : Nat) : List UInt8 :=
  Endian.bytes 4 width ++ (Endian.bytes 4 height ++ plainFormat)

theorem readHeader_headerData {width height : Nat} (hwidth : 0 < width ∧ width < 2 ^ 31)
    (hheight : 0 < height ∧ height < 2 ^ 31) :
    readHeader (headerData width height) = some (width, height) := by
  have hwidth' : Endian.value (Endian.bytes 4 width) = width := Endian.value_bytes (by omega)
  have hheight' : Endian.value (Endian.bytes 4 height) = height := Endian.value_bytes (by omega)
  have hdrop : (headerData width height).drop 4 = Endian.bytes 4 height ++ plainFormat :=
    List.drop_left' (Endian.length_bytes 4 _)
  have hdrop8 : (headerData width height).drop 8 = plainFormat := by
    rw [← List.drop_drop (i := 4) (j := 4), hdrop]
    exact List.drop_left' (Endian.length_bytes 4 _)
  have htake : (headerData width height).take 4 = Endian.bytes 4 width :=
    List.take_left' (Endian.length_bytes 4 _)
  simp only [readHeader, htake, hdrop, hdrop8, List.take_left' (Endian.length_bytes 4 height), hwidth',
    hheight', and_true]
  exact if_pos ⟨hwidth.1, hwidth.2, hheight.1, hheight.2⟩

def decode (file : List UInt8) : Option Image := do
  let s ← file.dropPrefix? signature
  let chunks ← readChunks s.length s
  let header ← chunks.head?
  let (width, height) ← readHeader header.data
  let parts ← chunks.tail.dropSuffix? [⟨IEND, []⟩]
  if header.type = IHDR ∧ parts ≠ [] ∧ ∀ part ∈ parts, part.type = IDAT then
    let raw ← Zlib.decode (parts.flatMap Chunk.data)
    let lines ← scanlines ((width + 7) / 8) height raw
    return { width, height, white := fun x y => sample (lines.getD y []) x }
  else none

/-- The chunks of a file with one `IDAT`. -/
def chunksFor (width height : Nat) (idat : List UInt8) : List Chunk :=
  [⟨IHDR, headerData width height⟩, ⟨IDAT, idat⟩, ⟨IEND, []⟩]

def write (width height : Nat) (idat : List UInt8) : List UInt8 :=
  signature ++ (chunksFor width height idat).flatMap Chunk.bytes

theorem length_headerData (width height : Nat) : (headerData width height).length = 13 := by
  rw [headerData, List.length_append, List.length_append, Endian.length_bytes, Endian.length_bytes]
  rfl

theorem dropPrefix_signature (s : List UInt8) : (signature ++ s).dropPrefix? signature = some s :=
  List.dropPrefix?_append_of_beq s (BEq.refl signature)

theorem decode_write {width height : Nat} {idat raw : List UInt8} {lines : List (List UInt8)}
    (hwidth : 0 < width ∧ width < 2 ^ 31) (hheight : 0 < height ∧ height < 2 ^ 31)
    (hidat : idat.length < 2 ^ 31) (hraw : Zlib.decode idat = some raw)
    (hlines : scanlines ((width + 7) / 8) height raw = some lines) :
    decode (write width height idat) = some
      { width, height, white := fun x y => sample (lines.getD y []) x } := by
  have hok : ∀ c ∈ chunksFor width height idat, c.Ok := by
    intro c hc
    simp only [chunksFor, List.mem_cons, List.not_mem_nil, or_false] at hc
    obtain rfl | rfl | rfl := hc
    · exact ⟨rfl, by rw [length_headerData]; decide⟩
    · exact ⟨rfl, hidat⟩
    · exact ⟨rfl, by decide⟩
  have hchunks := readChunks_bytes hok (length_le_flatMap _)
  have hsuffix : (chunksFor width height idat).tail.dropSuffix? [⟨IEND, []⟩] =
      some [⟨IDAT, idat⟩] :=
    List.dropSuffix?_eq_some_iff.mpr ⟨[⟨IEND, []⟩], rfl, BEq.refl _⟩
  rw [decode, write, dropPrefix_signature]
  simp only [Option.bind_eq_bind, Option.bind_some, hchunks, hsuffix]
  simp [chunksFor, readHeader_headerData hwidth hheight, hraw, hlines]

/-- With a longer `IDAT` that says so it is no file. -/
theorem decode_write_long {width height : Nat} {idat : List UInt8}
    (h : 2 ^ 31 ≤ idat.length % 2 ^ 32) : decode (write width height idat) = none := by
  have hheader : Chunk.Ok ⟨IHDR, headerData width height⟩ :=
    ⟨rfl, by rw [length_headerData]; decide⟩
  have hlong (rest : List UInt8) : readChunk (Chunk.bytes ⟨IDAT, idat⟩ ++ rest) = none := by
    refine readChunk_long ?_
    rw [Chunk.bytes, List.append_assoc, List.take_left' (Endian.length_bytes 4 _),
      Endian.value_bytes_mod]
    exact h
  have hnone (n : Nat) : readChunks (n + 1) ((chunksFor width height idat).flatMap Chunk.bytes) =
      none := by
    rw [chunksFor, List.flatMap_cons, readChunks_step n (readChunk_bytes hheader _),
      List.flatMap_cons, readChunks_none _ (hlong _)]
    · rfl
    · exact List.append_ne_nil_of_left_ne_nil (List.ne_nil_of_length_pos
        (by rw [Chunk.length_bytes]; omega)) _
  have hpos : ((chunksFor width height idat).flatMap Chunk.bytes).length ≠ 0 := by
    have hlength := length_le_flatMap (chunksFor width height idat)
    simp only [chunksFor, List.length_cons, List.length_nil] at hlength ⊢
    omega
  obtain ⟨n, hn⟩ := Nat.exists_eq_succ_of_ne_zero hpos
  rw [decode, write, dropPrefix_signature]
  simp only [Option.bind_eq_bind, Option.bind_some, hn, Nat.succ_eq_add_one, hnone, Option.bind_none]

end Png
