import Mathlib.Data.List.Forall2
import Signal2sip.Tools.Archive

/-!
# Rewriting an archive keeps its members

Both walks go from entry to entry (`parseFrom_eq`, `rewriteFrom_eq`): the size in a header is read back
from what the format writes, and the next header is behind the content and its padding. So the output is
an archive again, with the entries of the input but for the contents that were replaced, and the reader
finds the same names in it: names stand in the part of a header that nobody writes, or in the table of
long names, which is no member and so is not replaced.
-/

namespace Signal2sip.Tools

open Ar (Entry)

/-! ## The size -/

theorem decodeAscii_encodeAscii {text : List Char} (h : ∀ c ∈ text, c.toNat < 128) :
    decodeAscii (encodeAscii text) = some text := by
  have hbyte {c : Char} (hc : c ∈ text) : (UInt8.ofNat c.toNat).toNat = c.toNat := by
    have hlt := h c hc
    rw [UInt8.toNat_ofNat']
    omega
  have hall : (encodeAscii text).all (· < 128) = true := by
    rw [List.all_eq_true]
    intro byte hmem
    obtain ⟨c, hc, rfl⟩ := List.mem_map.mp hmem
    have hlt := h c hc
    rw [decide_eq_true_eq, UInt8.lt_iff_toNat_lt, hbyte hc]
    exact hlt
  have hback : (encodeAscii text).map (fun byte => Char.ofNat byte.toNat) = text := by
    rw [encodeAscii, List.map_map]
    refine (List.map_congr_left fun c hc => ?_).trans (List.map_id _)
    exact (congrArg Char.ofNat (hbyte hc)).trans (Char.ofNat_toNat c)
  rw [decodeAscii, if_pos hall, hback]

theorem isDigit_range {c : Char} (h : c.isDigit = true) : 48 ≤ c.toNat ∧ c.toNat ≤ 57 :=
  Char.isDigit_iff_toNat.mp h

/-- The digits of a size come back. -/
theorem int_toDigits (n : Nat) : int (Nat.toDigits 10 n) = some n := by
  have hdigits : isdigit (Nat.toDigits 10 n) = true := by
    rw [isdigit, Bool.and_eq_true, decide_eq_true_eq, List.all_eq_true]
    exact ⟨Nat.toDigits_ne_nil, fun c hc => Nat.isDigit_of_mem_toDigits (by decide) (by decide) hc⟩
  rw [int, if_pos hdigits, Nat.ofDigitChars_toDigits (by decide) (by decide)]

theorem not_isSpace_of_isDigit {c : Char} (h : c.isDigit = true) : isSpace c = false := by
  have hrange := isDigit_range h
  simp only [isSpace, isLineBreak, List.mem_cons, List.not_mem_nil, or_false, Bool.or_eq_false_iff,
    Bool.and_eq_false_iff, decide_eq_false_iff_not]
  omega

theorem strip_ljust (n width : Nat) :
    Strip.strip isSpace (ljust (Nat.toDigits 10 n) width) = Nat.toDigits 10 n := by
  have hblank : ∀ c ∈ List.replicate (width - (Nat.toDigits 10 n).length) ' ', isSpace c = true := by
    intro c hc
    rw [List.eq_of_mem_replicate hc]
    decide
  have hbare : Strip.Bare isSpace (Nat.toDigits 10 n) := Strip.Bare.of_forall fun c hc =>
    not_isSpace_of_isDigit (Nat.isDigit_of_mem_toDigits (by decide) (by decide) hc)
  have hnone : ∀ c ∈ ([] : List Char), isSpace c = true := fun _ hc => absurd hc List.not_mem_nil
  exact Strip.strip_append hnone hblank hbare

theorem encodeAscii_ljust (n : Nat) :
    encodeAscii (ljust (Nat.toDigits 10 n) 10) = Ar.sizeText n := by
  rw [encodeAscii, ljust, List.map_append, List.map_replicate, Ar.sizeText, List.rightpad,
    List.length_map]
  rfl

theorem decodeAscii_sizeText (n : Nat) :
    decodeAscii (Ar.sizeText n) = some (ljust (Nat.toDigits 10 n) 10) := by
  rw [← encodeAscii_ljust]
  refine decodeAscii_encodeAscii fun c hc => ?_
  obtain hdigit | hblank := List.mem_append.mp hc
  · have hrange := isDigit_range (Nat.isDigit_of_mem_toDigits (by decide) (by decide) hdigit)
    omega
  · rw [List.eq_of_mem_replicate hblank]
    decide

theorem slice_header (e : Entry) : slice e.header 48 58 = Ar.sizeText e.size := by
  rw [slice, Entry.header, List.drop_left' e.length_front]
  exact List.take_left' (Ar.length_sizeText e.size_lt)

theorem sizeField_header (e : Entry) : sizeField e.header = some e.size := by
  rw [sizeField, slice_header, decodeAscii_sizeText, Option.bind_eq_bind, Option.bind_some, strip_ljust,
    int_toDigits]

/-! ## One entry -/

section Entries

variable {data : Bytes} {pos : Nat} {e : Entry} {rest : Bytes}

/-- Where the data goes on with an entry there are a header, the content, and what is behind. -/
theorem header_of_drop (h : data.drop pos = e.bytes ++ rest) :
    slice data pos (pos + HDR_LEN) = e.header := by
  have hlength : pos + HDR_LEN - pos = 60 := Nat.add_sub_cancel_left pos 60
  rw [slice, h, hlength, Entry.bytes, List.append_assoc]
  exact List.take_left' e.length_header

theorem drop_header (h : data.drop pos = e.bytes ++ rest) :
    data.drop (pos + HDR_LEN) = e.content.bytes ++ (Ar.padding e.size ++ rest) := by
  rw [← List.drop_drop, h, Entry.bytes, List.append_assoc, List.append_assoc]
  exact List.drop_left' e.length_header

theorem content_of_drop (h : data.drop pos = e.bytes ++ rest) :
    slice data (pos + HDR_LEN) (pos + HDR_LEN + e.size) = e.content.bytes := by
  rw [slice, drop_header h, Nat.add_sub_cancel_left]
  exact List.take_left' rfl

theorem next_of_drop (h : data.drop pos = e.bytes ++ rest) :
    data.drop (pos + HDR_LEN + e.size + e.size % 2) = rest := by
  have hnext : pos + HDR_LEN + e.size + e.size % 2 = pos + e.bytes.length := by
    rw [e.length_bytes, HDR_LEN]
    omega
  rw [hnext, ← List.drop_drop, h, List.drop_left]

theorem fits_of_drop (h : data.drop pos = e.bytes ++ rest) : pos + HDR_LEN ≤ data.length := by
  have hlength := congrArg List.length h
  rw [List.length_drop, List.length_append, e.length_bytes] at hlength
  rw [HDR_LEN]
  omega

theorem lt_of_drop (h : data.drop pos = e.bytes ++ rest) : pos < data.length := by
  have hfits := fits_of_drop h
  rw [HDR_LEN] at hfits
  omega

end Entries

/-! ## The reader -/

/-- What `parse_members` finds from a position on, each with its entry. -/
def walk (gnuNames : Bytes) (pos : Nat) : List Entry → Option (List (ParsedMember × Entry))
  | [] => some []
  | e :: entries => do
    let field ← nameField e.header
    let next := pos + HDR_LEN + e.size + e.size % 2
    if field = ['/', '/'] then walk e.content.bytes next entries
    else if field = ['/'] then walk gnuNames next entries
    else
      let name ← realName field gnuNames
      let found ← walk gnuNames next entries
      return ({ name, offset := pos + HDR_LEN, size := e.size, hdrOffset := pos }, e) :: found

section Walks

variable {gnuNames : Bytes} {pos : Nat} {e : Entry} {entries : List Entry} {field name : List Char}

theorem walk_table (hfield : nameField e.header = some ['/', '/']) :
    walk gnuNames pos (e :: entries) =
      walk e.content.bytes (pos + HDR_LEN + e.size + e.size % 2) entries := by
  rw [walk, hfield]
  rfl

theorem walk_index (hfield : nameField e.header = some ['/']) :
    walk gnuNames pos (e :: entries) = walk gnuNames (pos + HDR_LEN + e.size + e.size % 2) entries := by
  rw [walk, hfield]
  rfl

theorem walk_member (hfield : nameField e.header = some field) (htable : field ≠ ['/', '/'])
    (hindex : field ≠ ['/']) (hname : realName field gnuNames = some name) :
    walk gnuNames pos (e :: entries) =
      (walk gnuNames (pos + HDR_LEN + e.size + e.size % 2) entries).map
        (({ name, offset := pos + HDR_LEN, size := e.size, hdrOffset := pos }, e) :: ·) := by
  rw [walk, hfield]
  simp only [Option.bind_eq_bind, Option.bind_some, if_neg htable, if_neg hindex, hname]
  cases walk gnuNames (pos + HDR_LEN + e.size + e.size % 2) entries <;> rfl

/-- The three kinds of entries that the reader gets past. -/
theorem walk_cases {found : List (ParsedMember × Entry)}
    (h : walk gnuNames pos (e :: entries) = some found) :
    (nameField e.header = some ['/', '/'] ∧
      walk e.content.bytes (pos + HDR_LEN + e.size + e.size % 2) entries = some found) ∨
    (nameField e.header = some ['/'] ∧
      walk gnuNames (pos + HDR_LEN + e.size + e.size % 2) entries = some found) ∨
    ∃ field name rest, nameField e.header = some field ∧ field ≠ ['/', '/'] ∧ field ≠ ['/'] ∧
      realName field gnuNames = some name ∧
        walk gnuNames (pos + HDR_LEN + e.size + e.size % 2) entries = some rest ∧
          found = ({ name, offset := pos + HDR_LEN, size := e.size, hdrOffset := pos }, e) :: rest := by
  cases hfield : nameField e.header with
  | none =>
    rw [walk, hfield] at h
    exact nomatch h
  | some field =>
    by_cases htable : field = ['/', '/']
    · subst htable
      exact .inl ⟨rfl, (walk_table hfield).symm.trans h⟩
    by_cases hindex : field = ['/']
    · subst hindex
      exact .inr (.inl ⟨rfl, (walk_index hfield).symm.trans h⟩)
    cases hname : realName field gnuNames with
    | none =>
      rw [walk, hfield] at h
      simp only [Option.bind_eq_bind, Option.bind_some, if_neg htable, if_neg hindex, hname] at h
      exact nomatch h
    | some name =>
      rw [walk_member hfield htable hindex hname] at h
      obtain ⟨rest, hrest, hfound⟩ := Option.map_eq_some_iff.mp h
      exact .inr (.inr ⟨field, name, rest, rfl, htable, hindex, hname, hrest, hfound.symm⟩)

end Walks

theorem parseFrom_eq {data : Bytes} {entries : List Entry} {pos : Nat} (gnuNames : Bytes)
    (h : data.drop pos = entries.flatMap Entry.bytes) :
    parseFrom data pos gnuNames = (walk gnuNames pos entries).map (·.map Prod.fst) := by
  induction entries generalizing pos gnuNames with
  | nil =>
    have hend : ¬ pos < data.length := Nat.not_lt.mpr (List.drop_eq_nil_iff.mp h)
    rw [parseFrom, dif_neg hend]
    rfl
  | cons e entries ih =>
    rw [List.flatMap_cons] at h
    rw [parseFrom, dif_pos (lt_of_drop h), if_neg (Nat.not_lt.mpr (fits_of_drop h)), walk]
    simp only [header_of_drop h, sizeField_header, content_of_drop h, Option.bind_eq_bind,
      Option.bind_some, ih _ (next_of_drop h)]
    cases nameField e.header with
    | none => rfl
    | some field =>
      simp only [Option.bind_some]
      split_ifs
      · rfl
      · rfl
      · cases realName field gnuNames with
        | none => rfl
        | some name => cases walk gnuNames (pos + HDR_LEN + e.size + e.size % 2) entries <;> rfl

theorem archive_drop (entries : List Entry) :
    (Ar.archive entries).drop 8 = entries.flatMap Entry.bytes :=
  List.drop_left' rfl

theorem parseArchive_eq (entries : List Entry) :
    parseArchive (Ar.archive entries) = (walk [] 8 entries).map (·.map Prod.fst) := by
  have hmagic : slice (Ar.archive entries) 0 8 = MAGIC := List.take_left' rfl
  rw [parseArchive, if_pos hmagic, parseFrom_eq [] (archive_drop entries)]

/-! ## The writer -/

/-- The entry with another content, if there is one. -/
def replaceContent (e : Entry) (content : Option Ar.Content) : Entry :=
  { e with content := content.getD e.content }

/-- The entries with the contents that are given for their positions. -/
def replaced (replacements : Nat → Option Ar.Content) (pos : Nat) : List Entry → List Entry
  | [] => []
  | e :: entries => replaceContent e (replacements pos) ::
      replaced replacements (pos + HDR_LEN + e.size + e.size % 2) entries

theorem take_header (e : Entry) : e.header.take 48 = e.front := by
  rw [Entry.header, List.take_left' e.length_front]

theorem header_end (e : Entry) : e.header.drop 58 = Ar.headerEnd := by
  rw [Entry.header, ← List.append_assoc]
  refine List.drop_left' ?_
  rw [List.length_append, e.length_front, Ar.length_sizeText e.size_lt]

theorem withSize_header (e : Entry) (content : Ar.Content) :
    withSize e.header content.bytes.length = (replaceContent e (some content)).header := by
  rw [withSize, header_end, encodeAscii_ljust, take_header, List.append_assoc]
  rfl

theorem rewriteFrom_eq {data : Bytes} {entries : List Entry} {pos : Nat} (out : Bytes)
    (replacements : Nat → Option Ar.Content) (h : data.drop pos = entries.flatMap Entry.bytes) :
    rewriteFrom data (fun pos => (replacements pos).map Ar.Content.bytes) pos out =
      some (out ++ (replaced replacements pos entries).flatMap Entry.bytes) := by
  induction entries generalizing pos out with
  | nil =>
    have hend : ¬ pos < data.length := Nat.not_lt.mpr (List.drop_eq_nil_iff.mp h)
    rw [rewriteFrom, dif_neg hend, replaced, List.flatMap_nil, List.append_nil]
  | cons e entries ih =>
    rw [List.flatMap_cons] at h
    rw [rewriteFrom, dif_pos (lt_of_drop h), if_neg (Nat.not_lt.mpr (fits_of_drop h)), replaced,
      List.flatMap_cons]
    simp only [header_of_drop h, sizeField_header, content_of_drop h, Option.bind_eq_bind,
      Option.bind_some, ih _ (next_of_drop h)]
    cases replacements pos with
    | none =>
      simp only [Option.map_none, Entry.bytes, List.append_assoc]
      rfl
    | some content =>
      simp only [Option.map_some, withSize_header, Entry.bytes, List.append_assoc]
      rfl

theorem rewriteArchive_eq (entries : List Entry) (replacements : Nat → Option Ar.Content) :
    rewriteArchive (Ar.archive entries) (fun pos => (replacements pos).map Ar.Content.bytes) =
      some (Ar.archive (replaced replacements 8 entries)) :=
  rewriteFrom_eq MAGIC replacements (archive_drop entries)

/-! ## The members -/

/-- The header of a member, and its content. -/
def ParsedMember.header (m : ParsedMember) (data : Bytes) : Bytes :=
  slice data m.hdrOffset (m.hdrOffset + HDR_LEN)

def ParsedMember.content (m : ParsedMember) (data : Bytes) : Bytes :=
  slice data m.offset (m.offset + m.size)

/-- Where a member stands there is its entry. -/
structure Stands (data : Bytes) (m : ParsedMember) (e : Entry) : Prop where
  header : m.header data = e.header
  content : m.content data = e.content.bytes
  size : m.size = e.size

theorem walk_stands {data : Bytes} {entries : List Entry} {pos : Nat} {gnuNames : Bytes}
    {found : List (ParsedMember × Entry)} (hwalk : walk gnuNames pos entries = some found)
    (h : data.drop pos = entries.flatMap Entry.bytes) : ∀ f ∈ found, Stands data f.1 f.2 := by
  induction entries generalizing pos gnuNames found with
  | nil =>
    obtain rfl := Option.some_inj.mp hwalk
    exact fun f hf => absurd hf List.not_mem_nil
  | cons e entries ih =>
    rw [List.flatMap_cons] at h
    obtain ⟨-, hrest⟩ | ⟨-, hrest⟩ | ⟨field, name, rest, -, -, -, -, hrest, rfl⟩ := walk_cases hwalk
    · exact ih hrest (next_of_drop h)
    · exact ih hrest (next_of_drop h)
    · intro f hf
      obtain rfl | hf := List.mem_cons.mp hf
      · exact ⟨header_of_drop h, content_of_drop h, rfl⟩
      · exact ih hrest (next_of_drop h) f hf

theorem walk_le {entries : List Entry} {pos : Nat} {gnuNames : Bytes}
    {found : List (ParsedMember × Entry)} (hwalk : walk gnuNames pos entries = some found) :
    ∀ f ∈ found, pos ≤ f.1.hdrOffset := by
  induction entries generalizing pos gnuNames found with
  | nil =>
    obtain rfl := Option.some_inj.mp hwalk
    exact fun f hf => absurd hf List.not_mem_nil
  | cons e entries ih =>
    have hnext {names : Bytes} {rest : List (ParsedMember × Entry)}
        (hrest : walk names (pos + HDR_LEN + e.size + e.size % 2) entries = some rest) :
        ∀ f ∈ rest, pos ≤ f.1.hdrOffset := by
      intro f hf
      have hle := ih hrest f hf
      omega
    obtain ⟨-, hrest⟩ | ⟨-, hrest⟩ | ⟨field, name, rest, -, -, -, -, hrest, rfl⟩ := walk_cases hwalk
    · exact hnext hrest
    · exact hnext hrest
    · intro f hf
      obtain rfl | hf := List.mem_cons.mp hf
      · exact Nat.le_refl pos
      · exact hnext hrest f hf

/-! ## The law -/

theorem nameField_replaceContent (e : Entry) (content : Option Ar.Content) :
    nameField (replaceContent e content).header = nameField e.header := by
  have hname (e : Entry) : slice e.header 0 16 = e.front.take 16 :=
    List.take_append_of_le_length (by rw [e.length_front]; decide)
  rw [nameField, nameField, hname, hname]
  rfl

/-- The names in the order of the entries, and each entry with what is given for its old position. -/
def SameMembers (replacements : Nat → Option Ar.Content) (f f' : ParsedMember × Entry) : Prop :=
  f'.1.name = f.1.name ∧ f'.2 = replaceContent f.2 (replacements f.1.hdrOffset)

theorem walk_replaced {replacements : Nat → Option Ar.Content} {entries : List Entry} {pos : Nat}
    {gnuNames : Bytes} {found : List (ParsedMember × Entry)}
    (hwalk : walk gnuNames pos entries = some found)
    (hpositions : ∀ p, pos ≤ p → (replacements p).isSome → ∃ f ∈ found, f.1.hdrOffset = p) (pos' : Nat) :
    ∃ found', walk gnuNames pos' (replaced replacements pos entries) = some found' ∧
      List.Forall₂ (SameMembers replacements) found found' := by
  induction entries generalizing pos gnuNames found pos' with
  | nil =>
    obtain rfl := Option.some_inj.mp hwalk
    exact ⟨[], rfl, .nil⟩
  | cons e entries ih =>
    have hlater : ∀ p, pos + HDR_LEN + e.size + e.size % 2 ≤ p → pos < p := by
      intro p hp
      rw [HDR_LEN] at hp
      omega
    -- The index and the table are no members, so their positions are not in the map.
    have hkept {names : Bytes}
        (hrest : walk names (pos + HDR_LEN + e.size + e.size % 2) entries = some found) :
        replaceContent e (replacements pos) = e := by
      cases hcontent : replacements pos with
      | none => rfl
      | some content =>
        obtain ⟨f, hf, hoffset⟩ := hpositions pos (Nat.le_refl pos) (by rw [hcontent]; rfl)
        have hlt := hlater _ (walk_le hrest f hf)
        omega
    have hfield := nameField_replaceContent e (replacements pos)
    rw [replaced]
    obtain ⟨htable, hrest⟩ | ⟨hindex, hrest⟩ |
      ⟨field, name, rest, hmember, htable, hindex, hname, hrest, rfl⟩ := walk_cases hwalk
    · rw [hkept hrest, walk_table htable]
      exact ih hrest (fun p hp => hpositions p (Nat.le_of_lt (hlater p hp))) _
    · rw [hkept hrest, walk_index hindex]
      exact ih hrest (fun p hp => hpositions p (Nat.le_of_lt (hlater p hp))) _
    · rw [walk_member (hfield.trans hmember) htable hindex hname]
      have hothers : ∀ p, pos + HDR_LEN + e.size + e.size % 2 ≤ p → (replacements p).isSome →
          ∃ f ∈ rest, f.1.hdrOffset = p := by
        intro p hp hsome
        obtain ⟨f, hf, hoffset⟩ := hpositions p (Nat.le_of_lt (hlater p hp)) hsome
        obtain rfl | hf := List.mem_cons.mp hf
        · exact absurd hoffset (Nat.ne_of_lt (hlater p hp))
        · exact ⟨f, hf, hoffset⟩
      obtain ⟨found', hfound', hsame⟩ := ih hrest hothers _
      rw [hfound']
      exact ⟨_, rfl, .cons ⟨rfl, rfl⟩ hsame⟩

/-- A member of the input and the one that the reader finds in its place in the output. -/
structure Kept (data out : Bytes) (replacements : Nat → Option Bytes) (m m' : ParsedMember) : Prop where
  name : m'.name = m.name
  content : m'.content out = (replacements m.hdrOffset).getD (m.content data)
  size : m'.size = (m'.content out).length
  /-- The fields in front of the size and behind it. -/
  front : (m'.header out).take 48 = (m.header data).take 48
  back : (m'.header out).drop 58 = (m.header data).drop 58
  untouched : replacements m.hdrOffset = none → m'.header out = m.header data

theorem kept_of_same {data out : Bytes} {replacements : Nat → Option Ar.Content}
    {f f' : ParsedMember × Entry} (hsame : SameMembers replacements f f') (h : Stands data f.1 f.2)
    (h' : Stands out f'.1 f'.2) :
    Kept data out (fun pos => (replacements pos).map Ar.Content.bytes) f.1 f'.1 := by
  obtain ⟨hname, hentry⟩ := hsame
  refine ⟨hname, ?_, ?_, ?_, ?_, ?_⟩
  · rw [h'.content, h.content, hentry, replaceContent]
    cases replacements f.1.hdrOffset <;> rfl
  · rw [h'.size, h'.content]
    rfl
  · rw [h'.header, h.header, take_header, take_header, hentry]
    rfl
  · rw [h'.header, h.header, header_end, header_end]
  · intro hnone
    rw [h'.header, h.header, hentry, Option.map_eq_none_iff.mp hnone]
    rfl

theorem kept_of_sameMembers {data out : Bytes} {replacements : Nat → Option Ar.Content}
    {found found' : List (ParsedMember × Entry)}
    (hsame : List.Forall₂ (SameMembers replacements) found found')
    (h : ∀ f ∈ found, Stands data f.1 f.2) (h' : ∀ f' ∈ found', Stands out f'.1 f'.2) :
    List.Forall₂ (Kept data out fun pos => (replacements pos).map Ar.Content.bytes)
      (found.map Prod.fst) (found'.map Prod.fst) := by
  induction hsame with
  | nil => exact .nil
  | cons hhead _ ih =>
    refine .cons (kept_of_same hhead (h _ List.mem_cons_self) (h' _ List.mem_cons_self)) (ih ?_ ?_)
    · exact fun f hf => h f (List.mem_cons_of_mem _ hf)
    · exact fun f hf => h' f (List.mem_cons_of_mem _ hf)

/-- What either script writes has the members of the archive that it reads, each with the new content
where there is one. -/
theorem rewriting_keeps_members {script : Script}
    (hscript : script ∈ [isolateWebrtcBoringsslSymbols, isolateWebrtcSrtpSymbols])
    (entries : List Entry) {members : List ParsedMember}
    (hmembers : script.parseMembers (Ar.archive entries) = some members)
    (replacements : Nat → Option Ar.Content)
    (hpositions : ∀ pos content, replacements pos = some content → ∃ m ∈ members, m.hdrOffset = pos) :
    ∃ out members',
      script.rewritten (Ar.archive entries) (fun pos => (replacements pos).map Ar.Content.bytes) =
        some out ∧ script.parseMembers out = some members' ∧
      List.Forall₂ (Kept (Ar.archive entries) out fun pos => (replacements pos).map Ar.Content.bytes)
        members members' := by
  have hboth : script = ⟨parseArchive, rewriteArchive⟩ := by
    simp only [List.mem_cons, List.not_mem_nil, or_false] at hscript
    obtain rfl | rfl := hscript <;> rfl
  subst hboth
  have hparse := (parseArchive_eq entries).symm.trans hmembers
  obtain ⟨found, hfound, rfl⟩ := Option.map_eq_some_iff.mp hparse
  have hreplaced : ∀ p, 8 ≤ p → (replacements p).isSome → ∃ f ∈ found, f.1.hdrOffset = p := by
    intro p _ hsome
    obtain ⟨content, hcontent⟩ := Option.isSome_iff_exists.mp hsome
    obtain ⟨m, hm, hoffset⟩ := hpositions p content hcontent
    obtain ⟨f, hf, rfl⟩ := List.mem_map.mp hm
    exact ⟨f, hf, hoffset⟩
  obtain ⟨found', hfound', hsame⟩ := walk_replaced hfound hreplaced 8
  refine ⟨_, found'.map Prod.fst, rewriteArchive_eq entries replacements, ?_, ?_⟩
  · change parseArchive (Ar.archive (replaced replacements 8 entries)) = _
    rw [parseArchive_eq, hfound']
    rfl
  · exact kept_of_sameMembers hsame (walk_stands hfound (archive_drop entries))
      (walk_stands hfound' (archive_drop (replaced replacements 8 entries)))

/-! ## Archives -/

/-- The front of a header as the archiver writes it. -/
def frontOf (name : String) : Bytes :=
  encodeAscii (ljust name.toList 16 ++ "0           0     0     100644  ".toList)

/-- An index, a table with one name, its member and another one. -/
def smallArchive : List Entry :=
  [⟨frontOf "/", ⟨[0, 0, 0, 0], by decide⟩, by decide⟩,
    ⟨frontOf "//", ⟨encodeAscii "null_cipher_type.o/\n".toList, by decide⟩, by decide⟩,
    ⟨frontOf "/0", ⟨[1, 2, 3], by decide⟩, by decide⟩,
    ⟨frontOf "srtp.o/", ⟨[4, 5], by decide⟩, by decide⟩]

def smallMembers : List ParsedMember :=
  [⟨"null_cipher_type.o".toList, 212, 3, 152⟩, ⟨"srtp.o".toList, 276, 2, 216⟩]

theorem parse_smallArchive : parseArchive (Ar.archive smallArchive) = some smallMembers := by
  rw [parseArchive_eq]
  decide +kernel

/-- The long-named member becomes shorter, and even. -/
def smallReplacements (pos : Nat) : Option Ar.Content :=
  if pos = 152 then some ⟨[6, 7], by decide⟩ else none

theorem smallArchive_kept : ∃ out members',
    isolateWebrtcSrtpSymbols.rewritten (Ar.archive smallArchive)
        (fun pos => (smallReplacements pos).map Ar.Content.bytes) = some out ∧
      isolateWebrtcSrtpSymbols.parseMembers out = some members' ∧
        List.Forall₂ (Kept (Ar.archive smallArchive) out fun pos =>
          (smallReplacements pos).map Ar.Content.bytes) smallMembers members' := by
  refine rewriting_keeps_members (List.mem_cons_of_mem _ List.mem_cons_self) smallArchive
    parse_smallArchive smallReplacements ?_
  intro pos content hcontent
  rw [smallReplacements] at hcontent
  split at hcontent
  · exact ⟨_, List.mem_cons_self, Eq.symm ‹_›⟩
  · exact nomatch hcontent

/-- One member, without content. -/
def emptyObject : Entry := ⟨frontOf "a.o/", ⟨[], by decide⟩, by decide⟩

/-- Its header for 10¹⁰ bytes: the size has eleven digits. -/
def longHeader : Bytes := emptyObject.front ++ encodeAscii "10000000000`\n".toList

theorem rewrite_long {content : Bytes} (h : content.length = 10 ^ 10) :
    rewriteArchive (Ar.archive [emptyObject]) (fun pos => if pos = 8 then some content else none) =
      some (MAGIC ++ (longHeader ++ content)) := by
  have hdrop : (Ar.archive [emptyObject]).drop 8 = emptyObject.bytes ++ [] := archive_drop [emptyObject]
  have hlength : (Ar.archive [emptyObject]).length = 68 := by decide
  have hheader : withSize emptyObject.header content.length = longHeader := by
    rw [h]
    decide
  have heven : ¬ content.length % 2 = 1 := by
    rw [h]
    decide
  rw [rewriteArchive, rewriteFrom, dif_pos (lt_of_drop hdrop),
    if_neg (Nat.not_lt.mpr (fits_of_drop hdrop))]
  simp only [header_of_drop hdrop, sizeField_header, Option.bind_eq_bind, Option.bind_some, if_true,
    hheader, if_neg heven, List.append_nil]
  rw [rewriteFrom, dif_neg]
  rw [hlength]
  decide

/-- The reader takes the first ten digits, and looks for the next header in the content. -/
theorem parse_long {n : Nat} (h : n = 10 ^ 10) :
    parseArchive (MAGIC ++ (longHeader ++ List.replicate n 0)) = none := by
  obtain ⟨out, hout⟩ : ∃ out, out = MAGIC ++ (longHeader ++ List.replicate n (0 : UInt8)) := ⟨_, rfl⟩
  have hlongHeader : longHeader.length = 61 := by decide
  have hmagic : MAGIC.length = 8 := by decide
  have hlength : out.length = 69 + n := by
    rw [hout, List.length_append, List.length_append, hlongHeader, hmagic, List.length_replicate,
      ← Nat.add_assoc]
  have hstart : slice out 0 8 = MAGIC := by
    rw [hout]
    exact List.take_left' hmagic
  have hfirst : slice out 8 (8 + HDR_LEN) = longHeader.take 60 := by
    rw [slice, hout, List.drop_left' hmagic]
    exact List.take_append_of_le_length (by rw [hlongHeader]; decide)
  have hsecond : slice out 1000000068 (1000000068 + HDR_LEN) = List.replicate 60 0 := by
    have hbehind : out.drop 69 = List.replicate n 0 := by
      rw [hout, ← List.append_assoc]
      exact List.drop_left' (by rw [List.length_append, hlongHeader, hmagic])
    have hdrop : out.drop 1000000068 = List.replicate (n - 999999999) 0 := by
      rw [show 1000000068 = 69 + 999999999 from rfl, ← List.drop_drop, hbehind, List.drop_replicate]
    have hmin : min (1000000068 + HDR_LEN - 1000000068) (n - 999999999) = 60 := by
      rw [HDR_LEN]
      omega
    rw [slice, hdrop, List.take_replicate, hmin]
  have hname : nameField (longHeader.take 60) = some "a.o/".toList := by decide
  have hsize : sizeField (longHeader.take 60) = some 1000000000 := by decide +kernel
  have hzeros : sizeField (List.replicate 60 0) = none := by decide +kernel
  have hlost (names : Bytes) : parseFrom out 1000000068 names = none := by
    rw [parseFrom, dif_pos (by omega), if_neg (by rw [HDR_LEN]; omega)]
    simp only [hsecond, hzeros]
    cases nameField (List.replicate 60 0) <;> rfl
  have htable : "a.o/".toList ≠ ['/', '/'] ∧ "a.o/".toList ≠ ['/'] := by decide
  have hnext : 8 + HDR_LEN + 1000000000 + 1000000000 % 2 = 1000000068 := rfl
  rw [← hout, parseArchive, if_pos hstart, parseFrom, dif_pos (by omega), if_neg (by rw [HDR_LEN]; omega)]
  simp only [hfirst, hname, hsize, Option.bind_eq_bind, Option.bind_some, if_neg htable.1, if_neg htable.2,
    hnext, hlost]
  cases realName "a.o/".toList [] <;> rfl

/-- The member of an archive gets more bytes than ten digits can say, and nobody reads the output. -/
theorem long_content_is_lost :
    isolateWebrtcBoringsslSymbols.parseMembers (Ar.archive [emptyObject]) =
        some [⟨"a.o".toList, 68, 0, 8⟩] ∧
      ∃ out, isolateWebrtcBoringsslSymbols.rewritten (Ar.archive [emptyObject])
          (fun pos => if pos = 8 then some (List.replicate (10 ^ 10) 0) else none) = some out ∧
        isolateWebrtcBoringsslSymbols.parseMembers out = none := by
  refine ⟨?_, _, rewrite_long List.length_replicate, parse_long rfl⟩
  refine (parseArchive_eq [emptyObject]).trans ?_
  decide +kernel

end Signal2sip.Tools
