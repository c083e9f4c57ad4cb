import Mathlib.Data.List.Infix

/-!
# `isolate_webrtc_boringssl_symbols.py`

The tool rewrites a static archive. It runs `nm` over every member, collects the names that a member
defines and the system's OpenSSL exports too, and renames these in every member that has one of them
among the names `nm` printed.

What a member is to it is its symbol table. `nm` and `objcopy` are as documented: `nm` prints a line
for a symbol, with the value (blanks for an undefined symbol), a letter for its kind and its name, and
`--redefine-syms` renames every symbol of a member whose name is in the map. Strings are taken apart
the way Python does it.
-/

namespace Signal2sip.Tools

/-! ## Symbol tables and `nm` -/

inductive Binding
  | stbLocal
  | stbGlobal
  | stbWeak
  | stbGnuUnique
deriving DecidableEq, Repr

inductive Section
  | undefined
  | text
  | data
  | bss
  | rodata
  | common
  | absolute
  | ifunc
  | other
deriving DecidableEq, Repr

structure Symbol where
  name : String
  binding : Binding
  place : Section
  object : Bool := false
  value : Nat := 0
deriving DecidableEq, Repr

abbrev Member := List Symbol

abbrev Archive := List Member

namespace Symbol

def isUndefined (s : Symbol) : Bool := s.place = .undefined

/-- A definition that other members can refer to. -/
def isGlobalDefinition (s : Symbol) : Bool := s.place ≠ .undefined && s.binding ≠ .stbLocal

/-- The letter of a symbol in a section of its own kind: lower case for a local one. -/
def sectionLetter (s : Symbol) (global localLetter : Char) : Char :=
  match s.binding with
  | .stbLocal => localLetter
  | .stbGlobal => global
  | .stbWeak => if s.object then 'V' else 'W'
  | .stbGnuUnique => 'u'

def nmLetter (s : Symbol) : Char :=
  match s.place with
  | .undefined => if s.binding = .stbWeak then (if s.object then 'v' else 'w') else 'U'
  | .common => 'C'
  | .ifunc => 'i'
  | .text => s.sectionLetter 'T' 't'
  | .data => s.sectionLetter 'D' 'd'
  | .bss => s.sectionLetter 'B' 'b'
  | .rodata => s.sectionLetter 'R' 'r'
  | .absolute => s.sectionLetter 'A' 'a'
  | .other => s.sectionLetter 'N' 'n'

/-- The first column: sixteen hexadecimal digits or as many blanks. -/
def valueColumn (s : Symbol) : List Char :=
  if s.isUndefined then List.replicate 16 ' '
  else (Nat.toDigits 16 s.value).leftpad 16 '0'

def nmLine (s : Symbol) : List Char :=
  s.valueColumn ++ ' ' :: s.nmLetter :: ' ' :: s.name.toList

end Symbol

def nm (member : Member) : List Char := member.flatMap fun s => s.nmLine ++ ['\n']

/-! ## Python's strings -/

/-- The separators of `str.splitlines`. -/
def isLineBreak (c : Char) : Bool :=
  c.toNat ∈ [0x0a, 0x0b, 0x0c, 0x0d, 0x1c, 0x1d, 0x1e, 0x85, 0x2028, 0x2029]

/-- The separators of `str.split`. -/
def isSpace (c : Char) : Bool :=
  isLineBreak c || c.toNat ∈ [0x09, 0x1f, 0x20, 0xa0, 0x1680, 0x202f, 0x205f, 0x3000] ||
    (0x2000 ≤ c.toNat && c.toNat ≤ 0x200a)

/-- Empty lines make no parts, so it does not matter that `"\r\n"` is one break in Python. -/
def splitlines (text : List Char) : List (List Char) := text.splitOnP isLineBreak

def split (line : List Char) : List (List Char) := (line.splitOnP isSpace).filter (· ≠ [])

/-! ## The tool -/

/-- What a line of `nm` is taken for. -/
inductive NmEntry
  | defined (name : String)
  | undefined (name : String)
  | skipped
deriving DecidableEq, Repr

def definedLetters : List Char := "TtWwDdBbRr".toList

/-- The letter is searched as a substring. -/
def nmEntry (line : List Char) : NmEntry :=
  match split line with
  | [kind, name] => if kind = ['U'] then .undefined (String.ofList name) else .skipped
  | [_, kind, name] =>
    if kind <:+: definedLetters then .defined (String.ofList name) else .skipped
  | _ => .skipped

/-- `nm_defined_and_undefined`. -/
def nmDefinedAndUndefined (member : Member) : List String × List String :=
  let entries := (splitlines (nm member)).map nmEntry
  (entries.filterMap fun | .defined name => some name | _ => none,
    entries.filterMap fun | .undefined name => some name | _ => none)

section Archives

variable (systemSyms : String → Bool)

/-- `is_target_symbol`. -/
def isTargetSymbol (name : String) : Bool := !("_Z".toList.isPrefixOf name.toList) && systemSyms name

/-- `target_syms`. -/
def targetSyms (archive : Archive) : List String :=
  archive.flatMap fun member => (nmDefinedAndUndefined member).1.filter (isTargetSymbol systemSyms)

def webrtcvendored (name : String) : String := "webrtcvendored_" ++ name

/-- `if (d | u) & target_syms`. -/
def touched (archive : Archive) (member : Member) : Bool :=
  ((nmDefinedAndUndefined member).1 ++ (nmDefinedAndUndefined member).2).any
    (· ∈ targetSyms systemSyms archive)

/-- `--redefine-syms` with the map of the archive. -/
def redefineSyms (archive : Archive) (s : Symbol) : Symbol :=
  if s.name ∈ targetSyms systemSyms archive then { s with name := webrtcvendored s.name } else s

/-- The archive that `main` writes. -/
def isolate (archive : Archive) : Archive :=
  archive.map fun member =>
    if touched systemSyms archive member then member.map (redefineSyms systemSyms archive) else member

end Archives

/-! ## Linking -/

/-- The symbols of the archives in link order; where one stands in this list is which one it is. -/
def symbols (archives : List Archive) : List Symbol := archives.flatten.flatten

/-- The definition a name resolves to: the first global one. -/
def resolve (table : List Symbol) (name : String) : Option Nat :=
  table.findIdx? fun s => s.isGlobalDefinition && s.name = name

end Signal2sip.Tools
