import Mathlib.Data.List.Basic
import Mathlib.Tactic.Common

/-!
# Percent-encoding and queries

A text of bytes stands in a URL with its unreserved characters as they are and with three characters
for every other byte. `decode` reads it back, and `parse` takes a URL with a query apart at its
delimiters: one question mark, ampersands between the fields, one equals sign in each.

What is encoded has no delimiter, so a URL that is put together of encoded values is taken apart into
them (`parse_url`), whatever they stand for.
-/

namespace Percent

abbrev Text := List UInt8

/-- Letters, digits and `-`, `.`, `_`, `~`. -/
def unreserved (c : UInt8) : Bool :=
  (48 ≤ c && c ≤ 57) || (65 ≤ c && c ≤ 90) || (97 ≤ c && c ≤ 122) ||
    c = 45 || c = 46 || c = 95 || c = 126

/-- A hexadecimal digit, in either case. -/
def hexValue (c : UInt8) : Option UInt8 :=
  if 48 ≤ c ∧ c ≤ 57 then some (c - 48)
  else if 65 ≤ c ∧ c ≤ 70 then some (c - 55)
  else if 97 ≤ c ∧ c ≤ 102 then some (c - 87)
  else none

/-- The per cent sign and two hexadecimal digits for one byte; `none` for an incomplete triple. -/
def decode : Text → Option Text
  | [] => some []
  | c :: rest =>
    if c = 37 then
      match rest with
      | x :: y :: rest => do
        let hi ← hexValue x
        let lo ← hexValue y
        return (16 * hi + lo) :: (← decode rest)
      | _ => none
    else do return c :: (← decode rest)

/-- A byte and a text that may stand for it. -/
inductive Spells : UInt8 → Text → Prop
  | itself {c : UInt8} (h : unreserved c = true) : Spells c [c]
  | triple {x y hi lo : UInt8} (hx : hexValue x = some hi) (hy : hexValue y = some lo) :
      Spells (16 * hi + lo) [37, x, y]

/-- Unreserved characters and triples, and nothing else. -/
inductive Escaped : Text → Prop
  | nil : Escaped []
  | cons {c : UInt8} {text rest : Text} (h : Spells c text) (hrest : Escaped rest) :
      Escaped (text ++ rest)

variable {c : UInt8} {s text rest : Text} {encode : UInt8 → Text}

theorem decode_unreserved (hc : unreserved c = true) :
    decode (c :: rest) = (decode rest).map (c :: ·) := by
  have hpercent : c ≠ 37 := by
    rintro rfl
    exact Bool.false_ne_true hc
  rw [decode.eq_def]
  refine (if_neg hpercent).trans ?_
  cases decode rest <;> rfl

theorem Spells.decode_append (h : Spells c text) :
    decode (text ++ rest) = (decode rest).map (c :: ·) := by
  cases h with
  | itself hc => exact decode_unreserved hc
  | triple hx hy =>
    rw [List.cons_append, decode.eq_def]
    refine (if_pos rfl).trans ?_
    simp only [List.cons_append, List.nil_append, hx, hy]
    cases decode rest <;> rfl

theorem escaped_flatMap (h : ∀ c, Spells c (encode c)) (s : Text) : Escaped (s.flatMap encode) := by
  induction s with
  | nil => exact .nil
  | cons c s ih => exact .cons (h c) ih

theorem decode_flatMap (h : ∀ c, Spells c (encode c)) (s : Text) :
    decode (s.flatMap encode) = some s := by
  induction s with
  | nil => rfl
  | cons c s ih => rw [List.flatMap_cons, (h c).decode_append, ih, Option.map_some]

theorem hexValue_unreserved {x v : UInt8} (h : hexValue x = some v) : unreserved x = true := by
  simp only [unreserved, Bool.or_eq_true, Bool.and_eq_true, decide_eq_true_eq]
  grind [hexValue]

/-- A character that is reserved and no per cent sign. -/
def Delimiter (c : UInt8) : Prop := unreserved c = false ∧ c ≠ 37

theorem Spells.not_mem (h : Spells c text) {d : UInt8} (hd : Delimiter d) : d ∉ text := by
  cases h with
  | itself hc =>
    intro hmem
    obtain rfl := List.mem_singleton.mp hmem
    exact Bool.false_ne_true (hd.1.symm.trans hc)
  | triple hx hy =>
    intro hmem
    obtain rfl | hmem := List.mem_cons.mp hmem
    · exact hd.2 rfl
    obtain rfl | hmem := List.mem_cons.mp hmem
    · exact Bool.false_ne_true (hd.1.symm.trans (hexValue_unreserved hx))
    · obtain rfl := List.mem_singleton.mp hmem
      exact Bool.false_ne_true (hd.1.symm.trans (hexValue_unreserved hy))

theorem Escaped.not_mem (h : Escaped s) {d : UInt8} (hd : Delimiter d) : d ∉ s := by
  induction h with
  | nil => exact List.not_mem_nil
  | cons hspells _ ih => exact fun hmem => (List.mem_append.mp hmem).elim (hspells.not_mem hd) ih

/-! ## Queries -/

/-- A name and a value. -/
abbrev Field := Text × Text

def field (s : Text) : Option Field :=
  match s.splitOn 61 with
  | [name, value] => some (name, value)
  | _ => none

/-- What is before the question mark, and the fields behind it. -/
def parse (url : Text) : Option (Text × List Field) :=
  match url.splitOn 63 with
  | [base, query] => do return (base, ← (query.splitOn 38).mapM field)
  | _ => none

def writeField (f : Field) : Text := f.1 ++ 61 :: f.2

def url (base : Text) (fields : List Field) : Text :=
  base ++ 63 :: [38].intercalate (fields.map writeField)

/-- No delimiter of a query. -/
def Plain (s : Text) : Prop := 63 ∉ s ∧ 38 ∉ s ∧ 61 ∉ s

theorem Escaped.plain (h : Escaped s) : Plain s :=
  ⟨h.not_mem ⟨by decide, by decide⟩, h.not_mem ⟨by decide, by decide⟩,
    h.not_mem ⟨by decide, by decide⟩⟩

theorem splitOn_pair {d : UInt8} {a b : Text} (ha : d ∉ a) (hb : d ∉ b) :
    (a ++ d :: b).splitOn d = [a, b] := by
  have hparts : ∀ l ∈ [a, b], d ∉ l := by
    intro l hl
    obtain rfl | hl := List.mem_cons.mp hl
    · exact ha
    · obtain rfl := List.mem_singleton.mp hl
      exact hb
  simpa [List.intercalate] using List.splitOn_intercalate d hparts (List.cons_ne_nil a [b])

theorem field_writeField {f : Field} (hname : Plain f.1) (hvalue : Plain f.2) :
    field (writeField f) = some f := by
  rw [field, writeField, splitOn_pair hname.2.2 hvalue.2.2]

theorem mapM_field {fields : List Field} (h : ∀ f ∈ fields, Plain f.1 ∧ Plain f.2) :
    (fields.map writeField).mapM field = some fields := by
  induction fields with
  | nil => rfl
  | cons f fields ih =>
    obtain ⟨hname, hvalue⟩ := h f List.mem_cons_self
    have hrest := ih fun g hg => h g (List.mem_cons_of_mem f hg)
    rw [List.map_cons, List.mapM_cons, field_writeField hname hvalue, hrest]
    rfl

theorem mem_intercalate {d c : UInt8} {parts : List Text} (h : c ∈ [d].intercalate parts) :
    c = d ∨ ∃ part ∈ parts, c ∈ part := by
  induction parts with
  | nil => exact absurd h List.not_mem_nil
  | cons part parts ih =>
    by_cases hparts : parts = []
    · subst hparts
      rw [List.intercalate_singleton] at h
      exact .inr ⟨part, List.mem_cons_self, h⟩
    · rw [List.intercalate_cons_of_ne_nil hparts, List.append_assoc, List.mem_append,
        List.singleton_append, List.mem_cons] at h
      obtain hpart | rfl | hrest := h
      · exact .inr ⟨part, List.mem_cons_self, hpart⟩
      · exact .inl rfl
      · obtain hd | ⟨other, hother, hmem⟩ := ih hrest
        · exact .inl hd
        · exact .inr ⟨other, List.mem_cons_of_mem part hother, hmem⟩

/-- A URL is taken apart into what it was put together of. -/
theorem parse_url {base : Text} {fields : List Field} (hbase : 63 ∉ base) (hfields : fields ≠ [])
    (h : ∀ f ∈ fields, Plain f.1 ∧ Plain f.2) : parse (url base fields) = some (base, fields) := by
  have hparts : ∀ {d : UInt8}, d ≠ 61 → (∀ f ∈ fields, d ∉ f.1 ∧ d ∉ f.2) →
      ∀ part ∈ fields.map writeField, d ∉ part := by
    intro d hd hnone part hpart
    obtain ⟨f, hf, rfl⟩ := List.mem_map.mp hpart
    obtain ⟨hname, hvalue⟩ := hnone f hf
    simp [writeField, hname, hvalue, hd]
  have hquery : 63 ∉ [38].intercalate (fields.map writeField) := by
    intro hmem
    obtain hamp | ⟨part, hpart, hmem⟩ := mem_intercalate hmem
    · exact absurd hamp (by decide)
    · exact hparts (by decide) (fun f hf => ⟨(h f hf).1.1, (h f hf).2.1⟩) part hpart hmem
  have hamps := List.splitOn_intercalate 38
    (hparts (by decide) fun f hf => ⟨(h f hf).1.2.1, (h f hf).2.2.1⟩) (mt List.map_eq_nil_iff.mp hfields)
  rw [parse, url, splitOn_pair hbase hquery]
  simp only [hamps, mapM_field h]
  rfl

end Percent
