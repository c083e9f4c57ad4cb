import Signal2sip.Lib.Ar
import Signal2sip.Lib.Strip
import Signal2sip.Storage.Records
import Signal2sip.Tools.IsolateSymbols

/-!
# The archives of the two scripts

`parse_members` and the loop of `main` that writes the new archive. The scripts have the same text for
both, so each of the two functions is one definition here that both scripts have under their own name.

An exception is `none`. `int` reads digits; a sign or an underscore, which it takes too, is in no
archive.
-/

namespace Signal2sip.Tools

def MAGIC : Bytes := "!<arch>\n".toList.map fun c => UInt8.ofNat c.toNat

def HDR_LEN : Nat := 60

/-- `data[first:last]`. -/
def slice (data : Bytes) (first last : Nat) : Bytes := (data.drop first).take (last - first)

/-- `decode("ascii")`. -/
def decodeAscii (b : Bytes) : Option (List Char) :=
  if b.all (· < 128) then some (b.map fun byte => Char.ofNat byte.toNat) else none

def encodeAscii (text : List Char) : Bytes := text.map fun c => UInt8.ofNat c.toNat

def ljust (text : List Char) (width : Nat) : List Char :=
  text ++ List.replicate (width - text.length) ' '

def isdigit (text : List Char) : Bool := text ≠ [] && text.all Char.isDigit

def int (text : List Char) : Option Nat :=
  if isdigit text then some (Nat.ofDigitChars 10 text 0) else none

/-- `gnu_names.index(b"/\n", off)`. -/
def index (gnuNames : Bytes) (off : Nat) : Option Nat :=
  ((gnuNames.drop off).tails.findIdx? ([0x2F, 0x0A].isPrefixOf ·)).map (off + ·)

/-- What `parse_members` says of a member. -/
structure ParsedMember where
  name : List Char
  offset : Nat
  size : Nat
  hdrOffset : Nat
deriving DecidableEq, Repr

def nameField (hdr : Bytes) : Option (List Char) :=
  (decodeAscii (slice hdr 0 16)).map (·.rdropWhile isSpace)

def sizeField (hdr : Bytes) : Option Nat := do
  int (Strip.strip isSpace (← decodeAscii (slice hdr 48 58)))

/-- A name that is a slash and digits stands in the table of long names. -/
def realName (nameField : List Char) (gnuNames : Bytes) : Option (List Char) := do
  if nameField.head? = some '/' ∧ isdigit nameField.tail then
    let off ← int nameField.tail
    let stop ← index gnuNames off
    decodeAscii (slice gnuNames off stop)
  else return nameField.rdropWhile (· = '/')

/-- The loop of `parse_members`. -/
def parseFrom (data : Bytes) (pos : Nat) (gnuNames : Bytes) : Option (List ParsedMember) :=
  if _h : pos < data.length then
    if pos + HDR_LEN > data.length then some []
    else do
      let hdr := slice data pos (pos + HDR_LEN)
      let nameField ← nameField hdr
      let size ← sizeField hdr
      let dataStart := pos + HDR_LEN
      if nameField = ['/', '/'] then
        parseFrom data (dataStart + size + size % 2) (slice data dataStart (dataStart + size))
      else if nameField = ['/'] then
        parseFrom data (dataStart + size + size % 2) gnuNames
      else
        let name ← realName nameField gnuNames
        let members ← parseFrom data (dataStart + size + size % 2) gnuNames
        return { name, offset := dataStart, size, hdrOffset := pos } :: members
  else some []
termination_by data.length - pos
decreasing_by all_goals (simp only [HDR_LEN]; omega)

def parseArchive (data : Bytes) : Option (List ParsedMember) :=
  if slice data 0 8 = MAGIC then parseFrom data 8 [] else none

/-- The new size in the header; a text of more than ten digits makes the header longer. -/
def withSize (hdr : Bytes) (n : Nat) : Bytes :=
  hdr.take 48 ++ encodeAscii (ljust (Nat.toDigits 10 n) 10) ++ hdr.drop 58

/-- The loop that writes the archive; `replacements` has the new contents by the offset of the header. -/
def rewriteFrom (data : Bytes) (replacements : Nat → Option Bytes) (pos : Nat) (out : Bytes) :
    Option Bytes :=
  if _h : pos < data.length then
    if pos + HDR_LEN > data.length then some out
    else do
      let hdr := slice data pos (pos + HDR_LEN)
      let size ← sizeField hdr
      let dataStart := pos + HDR_LEN
      let written := match replacements pos with
        | some newContent =>
          withSize hdr newContent.length ++ newContent ++
            (if newContent.length % 2 = 1 then [0x0A] else [])
        | none => hdr ++ slice data dataStart (dataStart + size) ++ (if size % 2 = 1 then [0x0A] else [])
      rewriteFrom data replacements (dataStart + size + size % 2) (out ++ written)
  else some out
termination_by data.length - pos
decreasing_by simp only [HDR_LEN]; omega

def rewriteArchive (data : Bytes) (replacements : Nat → Option Bytes) : Option Bytes :=
  rewriteFrom data replacements 8 MAGIC

/-- One of the two scripts: how it reads an archive and how it writes one. -/
structure Script where
  parseMembers : Bytes → Option (List ParsedMember)
  rewritten : Bytes → (Nat → Option Bytes) → Option Bytes

def isolateWebrtcBoringsslSymbols : Script := ⟨parseArchive, rewriteArchive⟩

def isolateWebrtcSrtpSymbols : Script := ⟨parseArchive, rewriteArchive⟩

end Signal2sip.Tools
