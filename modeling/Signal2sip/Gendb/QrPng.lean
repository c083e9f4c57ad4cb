import Signal2sip.Gendb.QrCode

/-!
# The QR code as a PNG file

`writeQrPng` and what it is made of: the checksum with its table, the chunks, and the zlib stream of
stored blocks. The vectors that the source appends to are given and returned. The table is built once,
by the first call (`CrcStatics`), from nothing that changes; so it is a constant in what calls
`crc32Of`. The side of the picture is taken to be an `int`.
-/

namespace Signal2sip

open Base64 (charByte)

/-- One turn of the loop that fills the table. -/
def crcShift (c : UInt32) : UInt32 :=
  if c &&& 1 ≠ 0 then (0xEDB88320 : UInt32) ^^^ (c >>> 1) else c >>> 1

def crcTable : List UInt32 :=
  (List.range 256).map fun n => (List.range 8).foldl (fun c _ => crcShift c) (UInt32.ofNat n)

/-- One turn of the loop over the data. -/
def crcStep (crc : UInt32) (byte : UInt8) : UInt32 :=
  crcTable.getD ((crc ^^^ byte.toUInt32) &&& 0xFF).toNat 0 ^^^ (crc >>> 8)

def crc32Of (data : Bytes) : UInt32 := data.foldl crcStep 0xFFFFFFFF ^^^ 0xFFFFFFFF

/-- The statics of `crc32Of`, as the program starts with them. -/
structure CrcStatics where
  table : List UInt32 := List.replicate 256 0
  tableReady : Bool := false

namespace CrcStatics

/-- The table is filled unless it has been. -/
def fill (s : CrcStatics) : CrcStatics :=
  if s.tableReady then s
  else
    let entry (n : Nat) := (List.range 8).foldl (fun c _ => crcShift c) (UInt32.ofNat n)
    { table := (List.range 256).foldl (fun table n => table.set n (entry n)) s.table
      tableReady := true }

/-- A call of `crc32Of`: what it returns and what it leaves in the statics. -/
def crc32Of (s : CrcStatics) (data : Bytes) : UInt32 × CrcStatics :=
  let s := s.fill
  let turn crc (byte : UInt8) :=
    s.table.getD ((crc ^^^ byte.toUInt32) &&& 0xFF).toNat 0 ^^^ (crc >>> 8)
  (data.foldl turn 0xFFFFFFFF ^^^ 0xFFFFFFFF, s)

end CrcStatics

def putBE32 (out : Bytes) (v : UInt32) : Bytes :=
  out ++ [(v >>> 24).toUInt8, (v >>> 16).toUInt8, (v >>> 8).toUInt8, v.toUInt8]

def writePngChunk (out : Bytes) (type : String) (data : Bytes) : Bytes :=
  let out := putBE32 out (UInt32.ofNat data.length)
  let typeAndData := (type.toList.map charByte).take 4 ++ data
  putBE32 (out ++ typeAndData) (crc32Of typeAndData)

/-- The five bytes in front of a block: `BFINAL`, the length and its complement. -/
def blockHeader (isLast : Bool) (chunkLen : Nat) : Bytes :=
  let len := UInt16.ofNat chunkLen
  let nlen := ~~~len
  [if isLast then 1 else 0, len.toUInt8, (len >>> 8).toUInt8, nlen.toUInt8, (nlen >>> 8).toUInt8]

/-- The `do` loop of `zlibStoreUncompressed`. -/
def storeBlocks (data out : Bytes) (offset : Nat) : Bytes :=
  let chunkLen := min 65535 (data.length - offset)
  let isLast : Bool := offset + chunkLen ≥ data.length
  let out := out ++ blockHeader isLast chunkLen ++ (data.drop offset).take chunkLen
  if offset + chunkLen < data.length then storeBlocks data out (offset + chunkLen) else out
termination_by data.length - offset
decreasing_by omega

/-- The two sums of the loop behind the blocks. -/
def adlerSums (data : Bytes) : UInt32 × UInt32 :=
  data.foldl (fun sums byte =>
    let a := (sums.1 + byte.toUInt32) % 65521
    (a, (sums.2 + a) % 65521)) (1, 0)

def zlibStoreUncompressed (data : Bytes) : Bytes :=
  let out := storeBlocks data [0x78, 0x01] 0
  let sums := adlerSums data
  putBE32 out ((sums.2 <<< 16) ||| sums.1)

namespace QRcode

variable (qr : QRcode) (scale : Nat)

def kQuietModules : Nat := 4

def size : Nat := (qr.width + kQuietModules * 2) * scale

def rowBytes : Nat := (qr.size scale + 7) / 8

/-- The `dark` of `writeQrPng`. -/
def darkPixel (x y : Nat) : Option Bool :=
  let qx : Int := (x / scale : Nat) - kQuietModules
  let qy : Int := (y / scale : Nat) - kQuietModules
  if qx ≥ 0 && qx < qr.width && qy ≥ 0 && qy < qr.width then qr.darkAt (qy * qr.width + qx)
  else some false

/-- One turn of the inner loop: a dark pixel clears its bit. -/
def drawPixel (y : Nat) (row : Bytes) (x : Nat) : Option Bytes := do
  if ← qr.darkPixel scale x y then
    return row.modify (x / 8) (· &&& ~~~(0x80 >>> UInt8.ofNat (x % 8)))
  else return row

def pngRow (y : Nat) : Option Bytes :=
  (List.range (qr.size scale)).foldlM (qr.drawPixel scale y) (List.replicate (qr.rowBytes scale) 0xFF)

/-- The scanlines, each behind its filter type. -/
def raw : Option Bytes := do
  let rows ← (List.range (qr.size scale)).mapM (qr.pngRow scale)
  return rows.flatMap (0 :: ·)

def ihdr : Bytes :=
  putBE32 (putBE32 [] (UInt32.ofNat (qr.size scale))) (UInt32.ofNat (qr.size scale)) ++ [1, 0, 0, 0, 0]

def png : Option Bytes := do
  let raw ← qr.raw scale
  let png := [0x89, 0x50, 0x4E, 0x47, 0x0D, 0x0A, 0x1A, 0x0A]
  let png := writePngChunk png "IHDR" (qr.ihdr scale)
  let png := writePngChunk png "IDAT" (zlibStoreUncompressed raw)
  return writePngChunk png "IEND" []

/-- The bytes that are written to the file, if it opens. -/
def writeQrPng (path : String) (opens : Bool) : Option (Except RuntimeError Bytes) := do
  let png ← qr.png scale
  return if opens then .ok png else .error ⟨"cannot write " ++ path⟩

end QRcode

end Signal2sip
