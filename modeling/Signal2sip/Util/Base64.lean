import Signal2sip.Storage.Records
import Mathlib.Data.List.DropRight

/-!
# `Base64.cpp`

Encoding by groups of three bytes and decoding through a 32-bit accumulator, with `base64NoPadding` of
`gendb`. A `char` is a byte here, and a `std::string` the list of its bytes.

A vector's size is far below the range of `size_t`, so the loop over groups is a recursion over the
list. The pending `bits` are an `int` that stays small, so they are a number.
-/

namespace Signal2sip.Base64

def charByte (c : Char) : UInt8 := UInt8.ofNat c.toNat

/-- Both functions have this table under a name of their own. -/
def kAlphabet : Bytes :=
  "ABCDEFGHIJKLMNOPQRSTUVWXYZabcdefghijklmnopqrstuvwxyz0123456789+/".toList.map charByte

def padding : UInt8 := charByte '='

/-- `kAlphabet[n & 0x3F]`. -/
def alphabetChar (n : UInt32) : UInt8 := kAlphabet.getD (n &&& 0x3F).toNat 0

def base64Encode : Bytes → Bytes
  | b0 :: b1 :: b2 :: rest =>
    let n := (b0.toUInt32 <<< 16) ||| (b1.toUInt32 <<< 8) ||| b2.toUInt32
    alphabetChar (n >>> 18) :: alphabetChar (n >>> 12) :: alphabetChar (n >>> 6) :: alphabetChar n ::
      base64Encode rest
  | [b0] =>
    let n := b0.toUInt32 <<< 16
    [alphabetChar (n >>> 18), alphabetChar (n >>> 12), padding, padding]
  | [b0, b1] =>
    let n := (b0.toUInt32 <<< 16) ||| (b1.toUInt32 <<< 8)
    [alphabetChar (n >>> 18), alphabetChar (n >>> 12), alphabetChar (n >>> 6), padding]
  | [] => []

/-- `base64NoPadding`: `pop_back` while the last character is the padding. -/
def base64NoPadding (data : Bytes) : Bytes := (base64Encode data).rdropWhile (· = padding)

/-- `for (int i = 0; i < 64; i++) table[alphabet[i]] = i`, with the characters from the `i`-th on to
come. -/
def fillTable : Bytes → Int → List Int → List Int
  | [], _, table => table
  | c :: cs, i, table => fillTable cs (i + 1) (table.set c.toNat i)

def kTable : List Int := fillTable kAlphabet 0 (List.replicate 256 (-1))

/-- The loop of `base64Decode` with the characters to come. -/
def decodeLoop (out : Bytes) (buffer : UInt32) (bits : Nat) : Bytes → Bytes
  | [] => out
  | c :: rest =>
    if c = padding then out
    else
      let value := kTable.getD c.toNat (-1)
      if value < 0 then decodeLoop out buffer bits rest
      else
        let buffer := (buffer <<< 6) ||| UInt32.ofNat value.toNat
        let bits := bits + 6
        if bits ≥ 8 then
          let bits := bits - 8
          decodeLoop (out ++ [((buffer >>> UInt32.ofNat bits) &&& 0xFF).toUInt8]) buffer bits rest
        else decodeLoop out buffer bits rest

def base64Decode (input : Bytes) : Bytes := decodeLoop [] 0 0 input

end Signal2sip.Base64
