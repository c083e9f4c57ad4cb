import Mathlib.Data.List.Basic
import Signal2sip.Lib.Png
import Signal2sip.Laws.Checksum
import Signal2sip.Laws.QrText
import Signal2sip.Laws.StoredStream

/-!
# The PNG file shows the QR code

The file is the one that `Png.write` puts together of the rows: the checksum with the table is CRC-32
bit by bit, and a row has a bit cleared for each dark pixel. So a reader gets the picture back, as long
as the stream fits into one chunk; a longer one is announced with a length that no chunk may have.
-/

namespace Signal2sip

/-! ## The file -/

theorem writePngChunk_eq (out : Bytes) {type : String} {code : Bytes}
    (hcode : (type.toList.map Base64.charByte).take 4 = code) (data : Bytes) :
    writePngChunk out type data = out ++ Png.Chunk.bytes ⟨code, data⟩ := by
  have hlength : Endian.bytes 4 (UInt32.ofNat data.length).toNat = Endian.bytes 4 data.length := by
    rw [UInt32.toNat_ofNat']
    exact Endian.bytes_mod 4 _
  simp only [writePngChunk, putBE32_eq, hlength, hcode, crc32Of_eq, Png.Chunk.bytes, List.append_assoc]

namespace QRcode

variable (qr : QRcode) (scale : Nat)

theorem ihdr_eq : qr.ihdr scale = Png.headerData (qr.size scale) (qr.size scale) := by
  have hsize : Endian.bytes 4 (UInt32.ofNat (qr.size scale)).toNat =
      Endian.bytes 4 (qr.size scale) := by
    rw [UInt32.toNat_ofNat']
    exact Endian.bytes_mod 4 _
  rw [ihdr, putBE32_eq, putBE32_eq, hsize, List.nil_append, List.append_assoc]
  rfl

/-- A file with the rows that are given. -/
def fileOf (raw : Bytes) : Bytes :=
  Png.write (qr.size scale) (qr.size scale) (zlibStoreUncompressed raw)

theorem png_eq : qr.png scale = (qr.raw scale).map (qr.fileOf scale) := by
  have hIHDR : ("IHDR".toList.map Base64.charByte).take 4 = Png.IHDR := by decide
  have hIDAT : ("IDAT".toList.map Base64.charByte).take 4 = Png.IDAT := by decide
  have hIEND : ("IEND".toList.map Base64.charByte).take 4 = Png.IEND := by decide
  have hfile (raw : Bytes) : writePngChunk (writePngChunk (writePngChunk Png.signature "IHDR"
      (qr.ihdr scale)) "IDAT" (zlibStoreUncompressed raw)) "IEND" [] = qr.fileOf scale raw := by
    simp only [writePngChunk_eq _ hIHDR, writePngChunk_eq _ hIDAT, writePngChunk_eq _ hIEND, ihdr_eq,
      fileOf, Png.write, Png.chunksFor, List.flatMap_cons, List.flatMap_nil, List.append_assoc,
      List.append_nil]
  rw [png]
  cases qr.raw scale with
  | none => rfl
  | some raw => exact congrArg some (hfile raw)

/-! ## One pixel -/

/-- What is shown in a pixel. -/
def pixel (x y : Nat) : Bool := qr.shown ((x / scale : Nat) - 4) ((y / scale : Nat) - 4)

/-- The two functions that draw look at a module in the same way. -/
theorem darkPixel_eq_dark (x y : Nat) :
    qr.darkPixel scale x y = qr.dark ((x / scale : Nat) - 4) ((y / scale : Nat) - 4) := by
  have hquiet : (kQuietModules : Int) = 4 := rfl
  rw [darkPixel, dark, hquiet]
  refine (if_congr ?_ rfl rfl).trans (ite_not _ _ _)
  simp only [Bool.and_eq_true, Bool.or_eq_true, decide_eq_true_eq]
  omega

theorem darkPixel_eq (hwidth : qr.width ≤ 46340) (x y : Nat) :
    qr.darkPixel scale x y = some (qr.pixel scale x y) := by
  rw [darkPixel_eq_dark, qr.dark_eq hwidth, pixel]

/-- A module under the pixel, and dark. -/
theorem pixel_iff (x y : Nat) : qr.pixel scale x y = true ↔
    ∃ mx my, x / scale = mx + 4 ∧ y / scale = my + 4 ∧ mx < qr.width ∧ my < qr.width ∧
      qr.moduleAt mx my = true := by
  have hshift {a b : Nat} (h : a = b + 4) : (a : Int) - 4 = (b : Int) := by omega
  constructor
  · intro hdark
    have hinside : ¬ (((x / scale : Nat) : Int) - 4 < 0 ∨ ((y / scale : Nat) : Int) - 4 < 0 ∨
        (qr.width : Int) ≤ (x / scale : Nat) - 4 ∨ (qr.width : Int) ≤ (y / scale : Nat) - 4) := by
      intro houtside
      exact Bool.false_ne_true ((qr.shown_outside houtside).symm.trans hdark)
    have hx : x / scale = (x / scale - 4) + 4 := by omega
    have hy : y / scale = (y / scale - 4) + 4 := by omega
    have hmx : x / scale - 4 < qr.width := by omega
    have hmy : y / scale - 4 < qr.width := by omega
    rw [pixel, hshift hx, hshift hy, qr.shown_inside hmx hmy] at hdark
    exact ⟨_, _, hx, hy, hmx, hmy, hdark⟩
  · rintro ⟨mx, my, hx, hy, hmx, hmy, hmodule⟩
    rw [pixel, hshift hx, hshift hy, qr.shown_inside hmx hmy, hmodule]

/-! ## The rows -/

/-- The row with the pixel drawn. -/
def drawn (y : Nat) (row : Bytes) (x : Nat) : Bytes :=
  if qr.pixel scale x y then row.modify (x / 8) (· &&& ~~~(0x80 >>> UInt8.ofNat (x % 8))) else row

/-- The row after the first `n` turns. -/
def rowAfter (y n : Nat) : Bytes :=
  (List.range n).foldl (qr.drawn scale y) (List.replicate (qr.rowBytes scale) 0xFF)

theorem drawPixel_eq (hwidth : qr.width ≤ 46340) (y : Nat) (row : Bytes) (x : Nat) :
    qr.drawPixel scale y row x = some (qr.drawn scale y row x) := by
  rw [drawPixel, qr.darkPixel_eq scale hwidth, drawn]
  cases qr.pixel scale x y <;> rfl

theorem pngRow_eq (hwidth : qr.width ≤ 46340) (y : Nat) :
    qr.pngRow scale y = some (qr.rowAfter scale y (qr.size scale)) := by
  have hturn : qr.drawPixel scale y = fun row x => pure (qr.drawn scale y row x) :=
    funext fun row => funext fun x => qr.drawPixel_eq scale hwidth y row x
  rw [pngRow, hturn, List.foldlM_pure]
  rfl

theorem length_drawn (y x : Nat) (row : Bytes) : (qr.drawn scale y row x).length = row.length := by
  rw [drawn]
  split
  · exact List.length_modify _ _ _
  · rfl

theorem length_rowAfter (y n : Nat) : (qr.rowAfter scale y n).length = qr.rowBytes scale := by
  induction n with
  | zero => exact List.length_replicate
  | succ n ih =>
    rw [rowAfter, List.range_succ, List.foldl_concat, length_drawn]
    exact ih

/-- The mask clears one bit, counted from the left. -/
theorem getMsbD_mask {j i : Nat} (hj : j < 8) (hi : i < 8) :
    (~~~((0x80 : UInt8) >>> UInt8.ofNat j)).toBitVec.getMsbD i = !decide (i = j) := by
  have hall : ∀ j < 8, ∀ i < 8,
      (~~~((0x80 : UInt8) >>> UInt8.ofNat j)).toBitVec.getMsbD i = !decide (i = j) := by decide
  exact hall j hj i hi

theorem sample_modify {row : Bytes} {k x : Nat} (hk : k / 8 < row.length) :
    Png.sample (row.modify (k / 8) (· &&& ~~~(0x80 >>> UInt8.ofNat (k % 8)))) x =
      (Png.sample row x && !decide (x = k)) := by
  by_cases hbyte : x / 8 = k / 8
  · have hsame : decide (x % 8 = k % 8) = decide (x = k) := decide_eq_decide.mpr (by omega)
    have hmask := getMsbD_mask (j := k % 8) (i := x % 8) (Nat.mod_lt _ (by decide))
      (Nat.mod_lt _ (by decide))
    rw [Png.sample, Png.sample, List.getD_eq_getElem?_getD, hbyte, List.getElem?_modify_eq,
      List.getD_eq_getElem?_getD, List.getElem?_eq_getElem hk, Option.map_eq_map, Option.map_some,
      Option.getD_some, Option.getD_some, UInt8.toBitVec_and, BitVec.getMsbD_and, hmask, hsame]
  · have hother : decide (x = k) = false := decide_eq_false fun h => hbyte (congrArg (· / 8) h)
    rw [Png.sample, List.getD_eq_getElem?_getD, List.getElem?_modify_ne _ _ fun h => hbyte h.symm, hother,
      Bool.not_false, Bool.and_true, Png.sample, List.getD_eq_getElem?_getD]

theorem sample_drawn (y : Nat) {row : Bytes} {k : Nat} (hk : k / 8 < row.length) (x : Nat) :
    Png.sample (qr.drawn scale y row k) x =
      (Png.sample row x && !(decide (x = k) && qr.pixel scale k y)) := by
  rw [drawn]
  by_cases hdark : qr.pixel scale k y = true
  · rw [if_pos hdark, sample_modify hk, hdark, Bool.and_true]
  · rw [if_neg hdark, Bool.eq_false_iff.mpr hdark, Bool.and_false, Bool.not_false, Bool.and_true]

/-- A byte of ones is eight white pixels. -/
theorem sample_white {n x : Nat} (h : x / 8 < n) : Png.sample (List.replicate n 0xFF) x = true := by
  have hall : ∀ i < 8, (0xFF : UInt8).toBitVec.getMsbD i = true := by decide
  rw [Png.sample, List.getD_eq_getElem?_getD, List.getElem?_replicate, if_pos h, Option.getD_some]
  exact hall _ (Nat.mod_lt _ (by decide))

/-- After the first `n` turns the pixels before `n` have their colors and the others are white. -/
theorem sample_rowAfter (y : Nat) {n x : Nat} (hn : n ≤ qr.size scale) (hx : x < qr.size scale) :
    Png.sample (qr.rowAfter scale y n) x = !(decide (x < n) && qr.pixel scale x y) := by
  induction n with
  | zero =>
    have hfits : x / 8 < qr.rowBytes scale := by
      rw [rowBytes]
      omega
    rw [rowAfter, List.range_zero, List.foldl_nil, sample_white hfits,
      decide_eq_false (Nat.not_lt_zero x)]
    rfl
  | succ n ih =>
    have hfits : n / 8 < (qr.rowAfter scale y n).length := by
      rw [length_rowAfter, rowBytes]
      omega
    have hturn : qr.rowAfter scale y (n + 1) = qr.drawn scale y (qr.rowAfter scale y n) n := by
      rw [rowAfter, List.range_succ, List.foldl_concat]
      rfl
    rw [hturn, sample_drawn _ _ _ hfits, ih (Nat.le_of_succ_le hn)]
    by_cases hlast : x = n
    · subst hlast
      rw [decide_eq_false (Nat.lt_irrefl x), decide_eq_true rfl, decide_eq_true (Nat.lt_succ_self x)]
      rfl
    · have hsame : decide (x < n + 1) = decide (x < n) := decide_eq_decide.mpr (by omega)
      rw [hsame, decide_eq_false hlast, Bool.false_and, Bool.not_false, Bool.and_true]

/-! ## The picture -/

/-- The rows of the picture, each after its last turn. -/
def pngRows : List Bytes :=
  (List.range (qr.size scale)).map fun y => qr.rowAfter scale y (qr.size scale)

theorem raw_eq (hwidth : qr.width ≤ 46340) :
    qr.raw scale = some ((qr.pngRows scale).flatMap (0 :: ·)) := by
  have hrows : qr.pngRow scale = fun y => pure (qr.rowAfter scale y (qr.size scale)) :=
    funext (qr.pngRow_eq scale hwidth)
  rw [raw, hrows, List.mapM_pure]
  rfl

theorem length_of_mem_pngRows : ∀ row ∈ qr.pngRows scale, row.length = qr.rowBytes scale := by
  intro row hrow
  obtain ⟨y, -, rfl⟩ := List.mem_map.mp hrow
  exact qr.length_rowAfter scale y _

theorem length_pngRows : (qr.pngRows scale).length = qr.size scale := by
  rw [pngRows, List.length_map, List.length_range]

/-- The bytes of the zlib stream. -/
def idatLength : Nat := streamLength (qr.size scale * (1 + qr.rowBytes scale))

theorem length_idat :
    (zlibStoreUncompressed ((qr.pngRows scale).flatMap (0 :: ·))).length = qr.idatLength scale := by
  have hline : ∀ row ∈ qr.pngRows scale,
      ((0 : UInt8) :: row).length = 1 + qr.rowBytes scale := by
    intro row hrow
    rw [List.length_cons, qr.length_of_mem_pngRows scale row hrow, Nat.add_comm]
  rw [length_zlibStoreUncompressed, List.length_flatMap, List.map_congr_left hline, List.map_const',
    List.sum_replicate_nat, length_pngRows, idatLength]

/-- The picture of the code. -/
def picture : Png.Image where
  width := qr.size scale
  height := qr.size scale
  white := fun x y => !qr.pixel scale x y

theorem decode_fileOf (hscale : 1 ≤ scale) (hidat : qr.idatLength scale < 2 ^ 31) :
    Png.decode (qr.fileOf scale ((qr.pngRows scale).flatMap (0 :: ·))) = some (qr.picture scale) := by
  have hpos : 0 < qr.size scale := Nat.mul_pos (Nat.add_pos_right _ (by decide)) hscale
  have hlt : qr.size scale < 2 ^ 31 := by
    have hle : qr.size scale ≤ qr.size scale * (1 + qr.rowBytes scale) :=
      Nat.le_mul_of_pos_right _ (by omega)
    rw [idatLength, streamLength] at hidat
    omega
  have hscanlines := Png.scanlines_flatMap (qr.length_of_mem_pngRows scale)
  rw [length_pngRows] at hscanlines
  rw [fileOf, Png.decode_write ⟨hpos, hlt⟩ ⟨hpos, hlt⟩ ((qr.length_idat scale).trans_lt hidat)
    (decode_zlibStoreUncompressed _) hscanlines, picture]
  refine congrArg (fun white => some (Png.Image.mk _ _ white)) (funext fun x => funext fun y => ?_)
  have hrow : (qr.pngRows scale).getD y [] = qr.rowAfter scale y (qr.size scale) := by
    rw [pngRows, List.getD_eq_getElem?_getD, List.getElem?_map, List.getElem?_range y.isLt]
    rfl
  rw [hrow, qr.sample_rowAfter scale y (Nat.le_refl _) x.isLt, decide_eq_true x.isLt, Bool.true_and]

/-- A file whose stream fits into a chunk is the picture: a pixel is black where a dark module is under
it. -/
theorem writeQrPng_shows (path : String) (hwidth : qr.width ≤ 46340) (hscale : 1 ≤ scale)
    (hidat : qr.idatLength scale < 2 ^ 31) :
    ∃ file image, qr.writeQrPng scale path true = some (.ok file) ∧ Png.decode file = some image ∧
      image.width = (qr.width + 8) * scale ∧ image.height = (qr.width + 8) * scale ∧
        ∀ (x : Fin image.width) (y : Fin image.height), image.white x y = false ↔
          ∃ mx my, x / scale = mx + 4 ∧ y / scale = my + 4 ∧ mx < qr.width ∧ my < qr.width ∧
            qr.moduleAt mx my = true := by
  refine ⟨_, qr.picture scale, ?_, qr.decode_fileOf scale hscale hidat, rfl, rfl, ?_⟩
  · rw [writeQrPng, png_eq, qr.raw_eq scale hwidth]
    rfl
  · intro x y
    rw [← qr.pixel_iff, ← Bool.not_eq_false']
    rfl

/-- The code of a single dark module, a hundred pixels wide. -/
theorem one_module_shows : ∃ file image,
    (⟨1, [1], rfl⟩ : QRcode).writeQrPng 100 "qr.png" true = some (.ok file) ∧
      Png.decode file = some image ∧ image.width = (1 + 8) * 100 ∧ image.height = (1 + 8) * 100 ∧
        ∀ (x : Fin image.width) (y : Fin image.height), image.white x y = false ↔
          ∃ mx my, (x : Nat) / 100 = mx + 4 ∧ (y : Nat) / 100 = my + 4 ∧ mx < 1 ∧ my < 1 ∧
            (⟨1, [1], rfl⟩ : QRcode).moduleAt mx my = true :=
  writeQrPng_shows ⟨1, [1], rfl⟩ 100 "qr.png" (by decide) (by decide) (by decide)

/-! ## What does not come back -/

/-- A small code in a picture so large that no chunk can announce the stream. -/
theorem long_stream_unread : ∃ file,
    (⟨0, [], rfl⟩ : QRcode).writeQrPng 28500 "qr.png" true = some (.ok file) ∧
      Png.decode file = none := by
  have hlong : 2 ^ 31 ≤ (⟨0, [], rfl⟩ : QRcode).idatLength 28500 % 2 ^ 32 := by decide
  refine ⟨(⟨0, [], rfl⟩ : QRcode).fileOf 28500
    (((⟨0, [], rfl⟩ : QRcode).pngRows 28500).flatMap (0 :: ·)), ?_, ?_⟩
  · rw [writeQrPng, png_eq, raw_eq _ _ (by decide)]
    rfl
  · rw [← length_idat] at hlong
    exact Png.decode_write_long hlong

theorem writeQrPng_tooWide : tooWide.writeQrPng 1 "qr.png" true = none := by
  have hdark : tooWide.darkPixel 1 46344 46344 = none := by
    rw [darkPixel_eq_dark]
    exact tooWide.dark_last (by decide)
  have hmem : 46344 ∈ List.range (tooWide.size 1) := List.mem_range.mpr (by decide)
  have hrow : tooWide.pngRow 1 46344 = none := by
    refine Steps.foldlM_none hmem (fun row => ?_) _
    rw [drawPixel, hdark]
    rfl
  rw [writeQrPng, png_eq, raw, Steps.mapM_none hmem hrow]
  rfl

/-- Both sides fit into 31 bits. -/
theorem large_png_unread :
    ((⟨0, [], rfl⟩ : QRcode).size 28500 < 2 ^ 31 ∧ ∃ file,
      (⟨0, [], rfl⟩ : QRcode).writeQrPng 28500 "qr.png" true = some (.ok file) ∧
        Png.decode file = none) ∧
      tooWide.size 1 < 2 ^ 31 ∧ tooWide.writeQrPng 1 "qr.png" true = none :=
  ⟨⟨by decide, long_stream_unread⟩, by decide, writeQrPng_tooWide⟩

end QRcode

end Signal2sip
