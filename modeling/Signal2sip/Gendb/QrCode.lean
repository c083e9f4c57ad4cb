import Signal2sip.Util.Base64
import Signal2sip.Lib.Steps

/-!
# The QR code on the terminal

A module matrix as libqrencode gives it, and `printQrAscii`. The one `int` that can be too large is the
index of a module: an `int` holds the indices of a matrix that is at most 46340 modules wide. What the
code does beyond that is undefined (`none`).
-/

namespace Signal2sip

/-- libqrencode's code: a square of modules, row after row. The lowest bit of a module is its color. -/
structure QRcode where
  width : Nat
  data : Bytes
  length_data : data.length = width * width

namespace QRcode

variable (qr : QRcode)

/-- The largest `int`. -/
def intMax : Int := 2147483647

/-- `(qr->data[index] & 1) != 0`; `none` when the index is no `int` or outside the data. -/
def darkAt (index : Int) : Option Bool :=
  if 0 ≤ index ∧ index ≤ intMax then (qr.data[index.toNat]?).map (· &&& 1 ≠ 0) else none

/-- The `dark` of `printQrAscii`. -/
def dark (x y : Int) : Option Bool :=
  if x < 0 || y < 0 || x ≥ qr.width || y ≥ qr.width then some false else qr.darkAt (y * qr.width + x)

def cell (top bottom : Bool) : Char :=
  if top && bottom then '█'
  else if top then '▀'
  else if bottom then '▄'
  else ' '

/-- One turn of the loop over `y`. -/
def printedLine (y : Int) : Option (List Char) :=
  (Steps.values (-6) (qr.width + 6) 1).mapM fun x => do
    return cell (← qr.dark x y) (← qr.dark x (y + 1))

/-- Black on bright white, and back to the terminal's own colors. -/
def sgrColors : List Char := "\x1b[30;107m".toList
def sgrReset : List Char := "\x1b[0m".toList

/-- What is printed. -/
def printQrAscii : Option String := do
  let lines ← (Steps.values (-6) (qr.width + 6) 2).mapM qr.printedLine
  return String.ofList (sgrColors ++ lines.flatMap (· ++ ['\n']) ++ sgrReset)

end QRcode

end Signal2sip
