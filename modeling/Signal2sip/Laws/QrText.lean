import Signal2sip.Gendb.QrCode
import Signal2sip.Lib.Lines

/-!
# What the terminal shows

`decodeQr` reads the printed text cell by cell, two rows of modules for a line. It finds the matrix in
a light frame (`QRcode.framed`), wherever the pairs of rows fall: with an odd width the last row shares
its line with the frame, which is one module higher there.
-/

namespace Signal2sip

open Steps (values values_one flatMap_pair map_range_const map_range_add)
open Lines (getlines getlines_line)

/-- The two modules of a cell, the upper one first. -/
def cellModules : Char → Option (Bool × Bool)
  | '█' => some (true, true)
  | '▀' => some (true, false)
  | '▄' => some (false, true)
  | ' ' => some (false, false)
  | _ => none

/-- The rows of modules between the two color sequences. -/
def decodeQr (text : String) : Option (List (List Bool)) := do
  let body ← text.toList.dropPrefix? QRcode.sgrColors
  let body ← body.dropSuffix? QRcode.sgrReset
  let lines ← (getlines body).mapM (·.mapM cellModules)
  return lines.flatMap fun cells => [cells.map Prod.fst, cells.map Prod.snd]

namespace QRcode

variable (qr : QRcode)

/-- The module in column `x` of row `y`. -/
def moduleAt (x y : Nat) : Bool := qr.data.getD (y * qr.width + x) 0 &&& 1 ≠ 0

def light (n : Nat) : List Bool := List.replicate n false

/-- The matrix in a light frame. -/
def framed (top right bottom left : Nat) : List (List Bool) :=
  let blank := light (left + qr.width + right)
  let rows := (List.range qr.width).map fun y =>
    light left ++ (List.range qr.width).map (fun x => qr.moduleAt x y) ++ light right
  List.replicate top blank ++ rows ++ List.replicate bottom blank

theorem length_framed (top right bottom left : Nat) :
    ∀ row ∈ qr.framed top right bottom left, row.length = left + qr.width + right := by
  intro row hrow
  have hblank {n : Nat} (h : row ∈ List.replicate n (light (left + qr.width + right))) :
      row.length = left + qr.width + right := by
    rw [List.eq_of_mem_replicate h, light, List.length_replicate]
  simp only [framed, List.mem_append] at hrow
  obtain (htop | hrows) | hbottom := hrow
  · exact hblank htop
  · obtain ⟨y, -, rfl⟩ := List.mem_map.mp hrows
    simp only [light, List.length_append, List.length_replicate, List.length_map, List.length_range]
  · exact hblank hbottom

/-! ## One module -/

/-- What is shown at a place: the module, or light where there is none. -/
def shown (x y : Int) : Bool :=
  0 ≤ x && x < qr.width && 0 ≤ y && y < qr.width && qr.moduleAt x.toNat y.toNat

theorem shown_inside {x y : Nat} (hx : x < qr.width) (hy : y < qr.width) :
    qr.shown x y = qr.moduleAt x y := by
  rw [shown, decide_eq_true (Int.natCast_nonneg x), decide_eq_true (Int.ofNat_lt.mpr hx),
    decide_eq_true (Int.natCast_nonneg y), decide_eq_true (Int.ofNat_lt.mpr hy)]
  rfl

theorem shown_outside {x y : Int} (h : x < 0 ∨ y < 0 ∨ qr.width ≤ x ∨ qr.width ≤ y) :
    qr.shown x y = false := by
  rw [Bool.eq_false_iff, shown]
  simp only [ne_eq, Bool.and_eq_true, decide_eq_true_eq]
  omega

theorem index_lt {x y : Nat} (hx : x < qr.width) (hy : y < qr.width) :
    y * qr.width + x < qr.width * qr.width := by
  calc y * qr.width + x < (y + 1) * qr.width := by
        rw [Nat.add_mul]
        omega
    _ ≤ qr.width * qr.width := Nat.mul_le_mul_right _ hy

/-- The code reads inside the data, at an index that is an `int`. -/
theorem darkAt_eq (hwidth : qr.width ≤ 46340) {x y : Nat} (hx : x < qr.width) (hy : y < qr.width) :
    qr.darkAt (y * qr.width + x) = some (qr.moduleAt x y) := by
  have hlt := qr.index_lt hx hy
  have hint : qr.width * qr.width ≤ 46340 * 46340 := Nat.mul_le_mul hwidth hwidth
  have hdata : y * qr.width + x < qr.data.length := hlt.trans_eq qr.length_data.symm
  have hindex : (y : Int) * qr.width + x = ((y * qr.width + x : Nat) : Int) := rfl
  have hrange : 0 ≤ ((y * qr.width + x : Nat) : Int) ∧ ((y * qr.width + x : Nat) : Int) ≤ intMax := by
    have hmax : intMax = 2147483647 := rfl
    omega
  rw [hindex, darkAt, if_pos hrange, Int.toNat_natCast, List.getElem?_eq_getElem hdata, Option.map_some,
    moduleAt, List.getD_eq_getElem?_getD, List.getElem?_eq_getElem hdata, Option.getD_some]

theorem dark_eq (hwidth : qr.width ≤ 46340) (x y : Int) : qr.dark x y = some (qr.shown x y) := by
  by_cases houtside : x < 0 ∨ y < 0 ∨ qr.width ≤ x ∨ qr.width ≤ y
  · rw [qr.shown_outside houtside]
    refine if_pos ?_
    simp only [Bool.or_eq_true, decide_eq_true_eq]
    omega
  · obtain ⟨x, rfl⟩ := Int.eq_ofNat_of_zero_le (a := x) (by omega)
    obtain ⟨y, rfl⟩ := Int.eq_ofNat_of_zero_le (a := y) (by omega)
    have hx : x < qr.width := by omega
    have hy : y < qr.width := by omega
    rw [qr.shown_inside hx hy, ← qr.darkAt_eq hwidth hx hy]
    refine if_neg ?_
    simp only [Bool.or_eq_true, decide_eq_true_eq]
    omega

/-- The last module of a wider matrix has an index that is no `int`. -/
theorem dark_last (hwidth : 46340 < qr.width) :
    qr.dark (qr.width - 1 : Nat) (qr.width - 1 : Nat) = none := by
  have hlarge : 46341 * (qr.width - 1) ≤ qr.width * (qr.width - 1) := Nat.mul_le_mul_right _ hwidth
  have hindex : ((qr.width - 1 : Nat) : Int) * qr.width + (qr.width - 1 : Nat) =
      ((qr.width * (qr.width - 1) + (qr.width - 1) : Nat) : Int) := by
    rw [Nat.mul_comm]
    rfl
  have hguard : ¬ ((((qr.width - 1 : Nat) : Int) < 0 || ((qr.width - 1 : Nat) : Int) < 0 ||
      ((qr.width - 1 : Nat) : Int) ≥ qr.width || ((qr.width - 1 : Nat) : Int) ≥ qr.width) = true) := by
    simp only [Bool.or_eq_true, decide_eq_true_eq]
    omega
  rw [dark, if_neg hguard, hindex, darkAt, if_neg]
  have hmax : intMax = 2147483647 := rfl
  omega

/-! ## One row -/

/-- The modules that are printed for row `y`. -/
def shownRow (y : Int) : List Bool :=
  (List.range (6 + qr.width + 6)).map fun i : Nat => qr.shown (-6 + i) y

theorem shownRow_inside {y : Nat} (hy : y < qr.width) :
    qr.shownRow y = light 6 ++ (List.range qr.width).map (fun x => qr.moduleAt x y) ++ light 6 := by
  rw [shownRow, map_range_add]
  refine congrArg₂ _ (congrArg₂ _ ?_ ?_) ?_
  · exact map_range_const fun i hi => qr.shown_outside (by omega)
  · refine List.map_congr_left fun i hi => ?_
    have hcolumn : -6 + ((6 + i : Nat) : Int) = (i : Int) := by omega
    rw [hcolumn]
    exact qr.shown_inside (List.mem_range.mp hi) hy
  · exact map_range_const fun i hi => qr.shown_outside (by omega)

theorem shownRow_outside {y : Int} (hy : y < 0 ∨ qr.width ≤ y) :
    qr.shownRow y = light (6 + qr.width + 6) :=
  map_range_const fun i hi => qr.shown_outside (by omega)

/-- All rows from the first printed one on. -/
theorem shownRows_framed (bottom : Nat) :
    ((List.range (6 + qr.width + bottom)).map fun j : Nat => qr.shownRow (-6 + j)) =
      qr.framed 6 6 bottom 6 := by
  rw [map_range_add, framed]
  refine congrArg₂ _ (congrArg₂ _ ?_ ?_) ?_
  · exact map_range_const fun j hj => qr.shownRow_outside (by omega)
  · refine List.map_congr_left fun j hj => ?_
    have hrow : -6 + ((6 + j : Nat) : Int) = (j : Int) := by omega
    rw [hrow]
    exact qr.shownRow_inside (List.mem_range.mp hj)
  · exact map_range_const fun j hj => qr.shownRow_outside (by omega)

/-! ## One line -/

theorem cellModules_cell (top bottom : Bool) : cellModules (cell top bottom) = some (top, bottom) := by
  cases top <;> cases bottom <;> rfl

theorem cell_ne_newline (top bottom : Bool) : '\n' ≠ cell top bottom := by
  cases top <;> cases bottom <;> decide

/-- The cells of the line for the rows `y` and `y + 1`. -/
def cells (y : Int) : List (Bool × Bool) :=
  (List.range (6 + qr.width + 6)).map fun i : Nat => (qr.shown (-6 + i) y, qr.shown (-6 + i) (y + 1))

def textLine (y : Int) : List Char := (qr.cells y).map fun modules => cell modules.1 modules.2

theorem printedLine_eq (hwidth : qr.width ≤ 46340) (y : Int) :
    qr.printedLine y = some (qr.textLine y) := by
  have hlast : (qr.width : Int) + 6 = -6 + ((6 + qr.width + 6 : Nat) : Int) := by omega
  have hcells : (fun x => do return cell (← qr.dark x y) (← qr.dark x (y + 1))) =
      fun x => (pure (cell (qr.shown x y) (qr.shown x (y + 1))) : Option Char) := by
    funext x
    rw [qr.dark_eq hwidth, qr.dark_eq hwidth]
    rfl
  rw [printedLine, hcells, List.mapM_pure, textLine, cells, hlast, values_one, List.map_map,
    List.map_map]
  rfl

theorem mapM_cell (modules : List (Bool × Bool)) :
    (modules.map fun m => cell m.1 m.2).mapM cellModules = some modules := by
  induction modules with
  | nil => rfl
  | cons m modules ih =>
    rw [List.map_cons, List.mapM_cons, cellModules_cell, ih]
    rfl

theorem newline_not_mem (y : Int) : '\n' ∉ qr.textLine y := by
  rw [textLine]
  intro hmem
  obtain ⟨modules, -, heq⟩ := List.mem_map.mp hmem
  exact cell_ne_newline _ _ heq.symm

/-! ## The text -/

theorem getlines_lines (ys : List Int) :
    getlines ((ys.map qr.textLine).flatMap (· ++ ['\n'])) = ys.map qr.textLine := by
  induction ys with
  | nil => rfl
  | cons y ys ih =>
    rw [List.map_cons, List.flatMap_cons, List.append_assoc, List.singleton_append,
      getlines_line (qr.newline_not_mem y), ih]

theorem mapM_lines (ys : List Int) :
    (ys.map qr.textLine).mapM (·.mapM cellModules) = some (ys.map qr.cells) := by
  induction ys with
  | nil => rfl
  | cons y ys ih =>
    rw [List.map_cons, List.mapM_cons, textLine, mapM_cell, ih]
    rfl

theorem decode_lines (ys : List Int) :
    decodeQr (String.ofList (sgrColors ++ (ys.map qr.textLine).flatMap (· ++ ['\n']) ++ sgrReset)) =
      some (ys.flatMap fun y => [qr.shownRow y, qr.shownRow (y + 1)]) := by
  have hrows (y : Int) : (qr.cells y).map Prod.fst = qr.shownRow y ∧
      (qr.cells y).map Prod.snd = qr.shownRow (y + 1) := by
    simp only [cells, shownRow, List.map_map]
    exact ⟨rfl, rfl⟩
  have hprefix (rest : List Char) : (sgrColors ++ rest).dropPrefix? sgrColors = some rest :=
    List.dropPrefix?_append_of_beq rest (BEq.refl sgrColors)
  have hsuffix (rest : List Char) : (rest ++ sgrReset).dropSuffix? sgrReset = some rest :=
    List.dropSuffix?_eq_some_iff.mpr ⟨sgrReset, rfl, BEq.refl sgrReset⟩
  rw [decodeQr, String.toList_ofList, List.append_assoc, hprefix]
  simp only [Option.bind_eq_bind, Option.bind_some, hsuffix, getlines_lines, mapM_lines]
  simp only [List.flatMap_map, hrows]
  rfl

/-- What is printed for a matrix whose modules an `int` can count. -/
def qrText : String :=
  String.ofList (sgrColors ++
    ((values (-6) (qr.width + 6) 2).map qr.textLine).flatMap (· ++ ['\n']) ++ sgrReset)

theorem printQrAscii_eq (hwidth : qr.width ≤ 46340) : qr.printQrAscii = some qr.qrText := by
  have hlines : qr.printedLine = fun y => pure (qr.textLine y) := funext (qr.printedLine_eq hwidth)
  rw [printQrAscii, hlines, List.mapM_pure]
  rfl

theorem decode_qrText : decodeQr qr.qrText = some (qr.framed 6 6 (6 + qr.width % 2) 6) := by
  have hrows : 2 * (((qr.width : Int) + 6 - -6 + ((2 : Nat) - 1)).toNat / 2) =
      6 + qr.width + (6 + qr.width % 2) := by omega
  rw [qrText, decode_lines, values, List.flatMap_map, ← shownRows_framed, ← hrows, ← flatMap_pair]
  refine congrArg some (List.flatMap_congr fun i _ => ?_)
  have heven : -6 + ((2 : Nat) : Int) * (i : Int) = -6 + ((2 * i : Nat) : Int) := by omega
  have hodd : -6 + ((2 : Nat) : Int) * (i : Int) + 1 = -6 + ((2 * i + 1 : Nat) : Int) := by omega
  rw [hodd, heven]

/-- The matrix in a light frame of six modules, or seven below a matrix of odd width; every line is
as long as the frame is wide. -/
theorem printQrAscii_shows (hwidth : qr.width ≤ 46340) : ∃ text, qr.printQrAscii = some text ∧
    decodeQr text = some (qr.framed 6 6 (6 + qr.width % 2) 6) ∧
      ∀ row ∈ qr.framed 6 6 (6 + qr.width % 2) 6, row.length = 6 + qr.width + 6 :=
  ⟨qr.qrText, qr.printQrAscii_eq hwidth, qr.decode_qrText, qr.length_framed _ _ _ _⟩

/-- The single dark module. -/
theorem one_module_printed : ∃ text, (⟨1, [1], rfl⟩ : QRcode).printQrAscii = some text ∧
    decodeQr text = some ((⟨1, [1], rfl⟩ : QRcode).framed 6 6 7 6) ∧
      ∀ row ∈ (⟨1, [1], rfl⟩ : QRcode).framed 6 6 7 6, row.length = 13 :=
  printQrAscii_shows ⟨1, [1], rfl⟩ (by decide)

/-- The narrowest matrix that is too wide. -/
def tooWide : QRcode := ⟨46341, List.replicate (46341 * 46341) 0, List.length_replicate⟩

theorem printQrAscii_tooWide : tooWide.printQrAscii = none := by
  have hdark : tooWide.dark 46340 46340 = none := tooWide.dark_last (by decide)
  have hline : tooWide.printedLine 46340 = none := by
    refine Steps.mapM_none (a := 46340) (List.mem_map.mpr ⟨46346, List.mem_range.mpr (by decide), rfl⟩) ?_
    rw [hdark]
    rfl
  have hmem : (46340 : Int) ∈ values (-6) (tooWide.width + 6) 2 :=
    List.mem_map.mpr ⟨23173, List.mem_range.mpr (by decide), rfl⟩
  rw [printQrAscii, Steps.mapM_none hmem hline]
  rfl

end QRcode

end Signal2sip
