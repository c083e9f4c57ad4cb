import Signal2sip.Tools.IsolateSymbols

/-!
# What symbol isolation leaves

The tool renames a name in the members of an archive in which `nm` printed it, or another target, as
defined or as `U`. A weak reference is printed with another letter, a definition with a letter that is
not in the list is not seen, and the targets of one archive mean nothing to the next one.

`Isolable` is what the archives must be like: every member with a symbol of a target name is one the
tool rewrites with that target, no new name is a target, every target that is referred to has a global
definition, and none that already has the new name comes first in link order.

- `isolatedSymbols_renamed`: then the tool renames the targets throughout and nothing else;
- `symbolIsolation_iff`: the archives of that kind are exactly those that isolation leaves closed;
- `touched_iff`: which members the tool rewrites, where names are single words.
-/

namespace Signal2sip.Tools

variable {systemSyms : String → Bool} {archives : List Archive}

/-- A name that the tool isolates in one of the archives. -/
def Target (systemSyms : String → Bool) (archives : List Archive) (name : String) : Prop :=
  ∃ archive ∈ archives, name ∈ targetSyms systemSyms archive

instance (name : String) : Decidable (Target systemSyms archives name) :=
  inferInstanceAs (Decidable (∃ archive ∈ archives, name ∈ targetSyms systemSyms archive))

/-- The symbols of the archives that the tool writes. -/
def isolatedSymbols (systemSyms : String → Bool) (archives : List Archive) : List Symbol :=
  symbols (archives.map (isolate systemSyms))

/-- The symbol at a place has another name afterwards. -/
def Renamed (systemSyms : String → Bool) (archives : List Archive) (i : Nat) : Prop :=
  ∃ s s', (symbols archives)[i]? = some s ∧ (isolatedSymbols systemSyms archives)[i]? = some s' ∧
    s'.name ≠ s.name

/-- A reference and what has become of it. -/
structure Reference (systemSyms : String → Bool) (archives : List Archive) (s s' : Symbol) : Prop where
  isUndefined : s.isUndefined
  places : ∃ i : Nat,
    (symbols archives)[i]? = some s ∧ (isolatedSymbols systemSyms archives)[i]? = some s'

/-- No symbol has a target's name any more. A reference that resolved to a renamed definition resolves
to it still, and every other one keeps its name. -/
structure Closed (systemSyms : String → Bool) (archives : List Archive) : Prop where
  isolated : ∀ s ∈ isolatedSymbols systemSyms archives, ¬ Target systemSyms archives s.name
  resolved : ∀ s s', Reference systemSyms archives s s' →
    ∀ i, resolve (symbols archives) s.name = some i → Renamed systemSyms archives i →
      resolve (isolatedSymbols systemSyms archives) s'.name = some i
  kept : ∀ s s', Reference systemSyms archives s s' →
    (∀ i, resolve (symbols archives) s.name = some i → ¬ Renamed systemSyms archives i) →
      s'.name = s.name

/-- Every member with a symbol of a target name is rewritten, with that target. -/
def Rewritten (systemSyms : String → Bool) (archives : List Archive) : Prop :=
  ∀ archive ∈ archives, ∀ member ∈ archive, ∀ s ∈ member, Target systemSyms archives s.name →
    s.name ∈ targetSyms systemSyms archive ∧ touched systemSyms archive member

structure Isolable (systemSyms : String → Bool) (archives : List Archive) : Prop where
  rewritten : Rewritten systemSyms archives
  fresh : ∀ s ∈ symbols archives, Target systemSyms archives s.name →
    ¬ Target systemSyms archives (webrtcvendored s.name)
  defined : ∀ s ∈ symbols archives, s.isUndefined → Target systemSyms archives s.name →
    resolve (symbols archives) s.name ≠ none
  first : ∀ s ∈ symbols archives, s.isUndefined → Target systemSyms archives s.name →
    ∀ i j, resolve (symbols archives) s.name = some i →
      resolve (symbols archives) (webrtcvendored s.name) = some j → i < j

/-! ## Resolving a name -/

/-- A symbol that a reference to the name can resolve to. -/
def Symbol.Defines (s : Symbol) (name : String) : Prop := s.isGlobalDefinition ∧ s.name = name

theorem resolve_eq_some_iff {table : List Symbol} {name : String} {i : Nat} :
    resolve table name = some i ↔
      (∃ s, table[i]? = some s ∧ s.Defines name) ∧
        ∀ j < i, ∀ s, table[j]? = some s → ¬ s.Defines name := by
  unfold resolve Symbol.Defines
  rw [List.findIdx?_eq_some_iff_getElem]
  constructor
  · rintro ⟨hi, hdefines, hbefore⟩
    refine ⟨⟨table[i], List.getElem?_eq_getElem hi, by simpa using hdefines⟩, ?_⟩
    intro j hj s hs
    obtain ⟨hlt, rfl⟩ := List.getElem?_eq_some_iff.mp hs
    simpa using hbefore j hj
  · rintro ⟨⟨s, hs, hdefines⟩, hbefore⟩
    obtain ⟨hi, rfl⟩ := List.getElem?_eq_some_iff.mp hs
    refine ⟨hi, by simpa using hdefines, fun j hj => ?_⟩
    have hnot := hbefore j hj _ (List.getElem?_eq_getElem (by omega))
    simpa using hnot

theorem resolve_ne_none_iff {table : List Symbol} {name : String} :
    resolve table name ≠ none ↔ ∃ s ∈ table, s.Defines name := by
  unfold resolve Symbol.Defines
  rw [ne_eq, List.findIdx?_eq_none_iff]
  simp

theorem exists_resolve {table : List Symbol} {name : String} {i : Nat} {s : Symbol}
    (hs : table[i]? = some s) (hdefines : s.Defines name) :
    ∃ j ≤ i, resolve table name = some j := by
  cases hresolve : resolve table name with
  | none =>
    exact (resolve_ne_none_iff.mpr ⟨s, List.mem_of_getElem? hs, hdefines⟩ hresolve).elim
  | some j =>
    refine ⟨j, Nat.le_of_not_lt fun hlt => ?_, rfl⟩
    exact (resolve_eq_some_iff.mp hresolve).2 i hlt s hs hdefines

theorem webrtcvendored_ne (name : String) : webrtcvendored name ≠ name := by
  intro h
  have hlength := congrArg String.length h
  rw [webrtcvendored, String.length_append] at hlength
  have : "webrtcvendored_".length = 15 := rfl
  omega

theorem webrtcvendored_injective : Function.Injective webrtcvendored := fun a b h => by
  have := congrArg String.toList h
  exact String.toList_injective (by simpa [webrtcvendored] using this)

/-! ## One symbol after the other -/

/-- What becomes of a symbol of a member. -/
def rewrittenIn (systemSyms : String → Bool) (archive : Archive) (member : Member) (s : Symbol) :
    Symbol :=
  if touched systemSyms archive member then redefineSyms systemSyms archive s else s

theorem isolatedSymbols_eq (systemSyms : String → Bool) (archives : List Archive) :
    isolatedSymbols systemSyms archives = archives.flatMap fun archive =>
      archive.flatMap fun member => member.map (rewrittenIn systemSyms archive member) := by
  unfold isolatedSymbols symbols isolate rewrittenIn
  induction archives with
  | nil => rfl
  | cons archive archives ih =>
    rw [List.map_cons, List.flatten_cons, List.flatten_append, ih, List.flatMap_cons]
    congr 1
    rw [← List.flatMap_def]
    congr 1
    funext member
    split <;> simp_all

theorem rewrittenIn_name {archive : Archive} {member : Member} {s : Symbol} :
    (rewrittenIn systemSyms archive member s).name =
      if s.name ∈ targetSyms systemSyms archive ∧ touched systemSyms archive member then
        webrtcvendored s.name
      else s.name := by
  unfold rewrittenIn redefineSyms
  by_cases htouched : touched systemSyms archive member <;>
    by_cases htarget : s.name ∈ targetSyms systemSyms archive <;> simp [htouched, htarget]

/-- A target gets its new name, whatever archive it is in. -/
def renameTarget (systemSyms : String → Bool) (archives : List Archive) (s : Symbol) : Symbol :=
  if Target systemSyms archives s.name then { s with name := webrtcvendored s.name } else s

theorem rewrittenIn_eq_renameTarget (h : Rewritten systemSyms archives) {archive : Archive}
    (harchive : archive ∈ archives) {member : Member} (hmember : member ∈ archive) {s : Symbol}
    (hs : s ∈ member) :
    rewrittenIn systemSyms archive member s = renameTarget systemSyms archives s := by
  unfold rewrittenIn redefineSyms renameTarget
  by_cases htarget : Target systemSyms archives s.name
  · obtain ⟨hmem, htouched⟩ := h archive harchive member hmember s hs htarget
    rw [if_pos htouched, if_pos hmem, if_pos htarget]
  · have hnot : s.name ∉ targetSyms systemSyms archive := fun hmem => htarget ⟨archive, harchive, hmem⟩
    rw [if_neg hnot, if_neg htarget, ite_self]

theorem mem_symbols {s : Symbol} :
    s ∈ symbols archives ↔ ∃ archive ∈ archives, ∃ member ∈ archive, s ∈ member := by
  unfold symbols
  simp only [List.mem_flatten]
  exact ⟨fun ⟨member, ⟨archive, harchive, hmember⟩, hs⟩ => ⟨archive, harchive, member, hmember, hs⟩,
    fun ⟨archive, harchive, member, hmember, hs⟩ => ⟨member, ⟨archive, harchive, hmember⟩, hs⟩⟩

/-- Then the tool renames the targets throughout, and nothing else. -/
theorem isolatedSymbols_renamed (h : Rewritten systemSyms archives) :
    isolatedSymbols systemSyms archives =
      (symbols archives).map (renameTarget systemSyms archives) := by
  rw [isolatedSymbols_eq, symbols, List.flatten_eq_flatMap, List.flatten_eq_flatMap, List.flatMap_assoc,
    List.map_flatMap]
  refine List.flatMap_congr fun archive harchive => ?_
  rw [id_eq, List.map_flatMap]
  refine List.flatMap_congr fun member hmember => ?_
  exact List.map_congr_left fun s hs => rewrittenIn_eq_renameTarget h harchive hmember hs

/-! ## References -/

section References

variable {s : Symbol}

theorem renameTarget_name (s : Symbol) :
    (renameTarget systemSyms archives s).name =
      if Target systemSyms archives s.name then webrtcvendored s.name else s.name := by
  unfold renameTarget
  split <;> rfl

theorem renameTarget_isGlobalDefinition (s : Symbol) :
    (renameTarget systemSyms archives s).isGlobalDefinition = s.isGlobalDefinition := by
  unfold renameTarget
  split <;> rfl

/-- The new name of a target belongs to what had the old one, and to what had the new one before. -/
theorem renameTarget_defines_iff {name : String} (htarget : Target systemSyms archives name)
    (hfresh : ¬ Target systemSyms archives (webrtcvendored name)) :
    (renameTarget systemSyms archives s).Defines (webrtcvendored name) ↔
      s.Defines name ∨ s.Defines (webrtcvendored name) := by
  unfold Symbol.Defines
  rw [renameTarget_isGlobalDefinition, renameTarget_name, ← and_or_left]
  refine and_congr_right fun _ => ?_
  constructor
  · intro hname
    split at hname
    · exact .inl (webrtcvendored_injective hname)
    · exact .inr hname
  · rintro (rfl | hname)
    · rw [if_pos htarget]
    · rw [if_neg (hname ▸ hfresh), hname]

/-- A place is renamed when a target stands there. -/
theorem renamed_iff (h : Rewritten systemSyms archives) {i : Nat} {d : Symbol}
    (hd : (symbols archives)[i]? = some d) :
    Renamed systemSyms archives i ↔ Target systemSyms archives d.name := by
  unfold Renamed
  rw [isolatedSymbols_renamed h]
  simp only [List.getElem?_map, hd, Option.map_some, Option.some.injEq]
  constructor
  · rintro ⟨s, s', rfl, rfl, hne⟩
    by_contra hnot
    exact hne (by rw [renameTarget_name, if_neg hnot])
  · intro htarget
    refine ⟨d, _, rfl, rfl, ?_⟩
    rw [renameTarget_name, if_pos htarget]
    exact webrtcvendored_ne _

theorem reference_eq (h : Rewritten systemSyms archives) {s' : Symbol}
    (hs : Reference systemSyms archives s s') :
    s ∈ symbols archives ∧ s' = renameTarget systemSyms archives s := by
  obtain ⟨i, hi, hi'⟩ := hs.places
  rw [isolatedSymbols_renamed h, List.getElem?_map, hi] at hi'
  exact ⟨List.mem_of_getElem? hi, (Option.some.inj hi').symm⟩

/-- Every reference stands somewhere. -/
theorem exists_reference (h : Rewritten systemSyms archives) (hs : s ∈ symbols archives)
    (hundefined : s.isUndefined) :
    Reference systemSyms archives s (renameTarget systemSyms archives s) := by
  obtain ⟨i, hi⟩ := List.getElem?_of_mem hs
  refine ⟨hundefined, i, hi, ?_⟩
  rw [isolatedSymbols_renamed h, List.getElem?_map, hi]
  rfl

/-! ## The law -/

theorem Closed.rewritten_fresh (h : Closed systemSyms archives) :
    Rewritten systemSyms archives ∧ ∀ s ∈ symbols archives, Target systemSyms archives s.name →
      ¬ Target systemSyms archives (webrtcvendored s.name) := by
  have hsite (archive : Archive) (harchive : archive ∈ archives) (member : Member)
      (hmember : member ∈ archive) (s : Symbol) (hs : s ∈ member)
      (htarget : Target systemSyms archives s.name) :
      (s.name ∈ targetSyms systemSyms archive ∧ touched systemSyms archive member) ∧
        ¬ Target systemSyms archives (webrtcvendored s.name) := by
    have hisolated := h.isolated (rewrittenIn systemSyms archive member s) (by
      rw [isolatedSymbols_eq]
      exact List.mem_flatMap.mpr ⟨archive, harchive, List.mem_flatMap.mpr ⟨member, hmember,
        List.mem_map_of_mem hs⟩⟩)
    rw [rewrittenIn_name] at hisolated
    split at hisolated
    · next hrewritten => exact ⟨hrewritten, hisolated⟩
    · exact (hisolated htarget).elim
  refine ⟨fun archive harchive member hmember s hs htarget =>
    (hsite archive harchive member hmember s hs htarget).1, fun s hs htarget => ?_⟩
  obtain ⟨archive, harchive, member, hmember, hs⟩ := mem_symbols.mp hs
  exact (hsite archive harchive member hmember s hs htarget).2

theorem Closed.isolable (h : Closed systemSyms archives) : Isolable systemSyms archives := by
  obtain ⟨hrewritten, hfresh⟩ := h.rewritten_fresh
  refine ⟨hrewritten, hfresh, ?_, ?_⟩
  · intro s hs hundefined htarget hnone
    have hkept := h.kept s _ (exists_reference hrewritten hs hundefined) (by simp [hnone])
    rw [renameTarget_name, if_pos htarget] at hkept
    exact webrtcvendored_ne _ hkept
  · intro s hs hundefined htarget i j hi hj
    obtain ⟨⟨d, hd, hdefines⟩, -⟩ := resolve_eq_some_iff.mp hi
    have hrenamed := (renamed_iff hrewritten hd).mpr (hdefines.2 ▸ htarget)
    have hresolved := h.resolved s _ (exists_reference hrewritten hs hundefined) i hi hrenamed
    rw [renameTarget_name, if_pos htarget, isolatedSymbols_renamed hrewritten] at hresolved
    obtain ⟨-, hbefore⟩ := resolve_eq_some_iff.mp hresolved
    obtain ⟨⟨e, he, hedefines⟩, -⟩ := resolve_eq_some_iff.mp hj
    have hne : j ≠ i := by
      rintro rfl
      rw [hd] at he
      cases he
      exact webrtcvendored_ne s.name (hedefines.2.symm.trans hdefines.2)
    have hle : i ≤ j := by
      by_contra hlt
      refine hbefore j (by omega) (renameTarget systemSyms archives e) ?_ ?_
      · rw [List.getElem?_map, he]
        rfl
      · exact (renameTarget_defines_iff htarget (hfresh s hs htarget)).mpr (.inr hedefines)
    omega

theorem Isolable.closed (h : Isolable systemSyms archives) : Closed systemSyms archives := by
  have hrenamed := isolatedSymbols_renamed h.rewritten
  refine ⟨?_, ?_, ?_⟩
  · intro s' hs'
    rw [hrenamed] at hs'
    obtain ⟨s, hs, rfl⟩ := List.mem_map.mp hs'
    rw [renameTarget_name]
    split
    · next htarget => exact h.fresh s hs htarget
    · next hnot => exact hnot
  · intro s s' hreference i hi hplace
    obtain ⟨hs, rfl⟩ := reference_eq h.rewritten hreference
    obtain ⟨⟨d, hd, hdefines⟩, hbefore⟩ := resolve_eq_some_iff.mp hi
    have htarget : Target systemSyms archives s.name := by
      have := (renamed_iff h.rewritten hd).mp hplace
      rwa [hdefines.2] at this
    have hfresh := h.fresh s hs htarget
    rw [renameTarget_name, if_pos htarget, hrenamed]
    refine resolve_eq_some_iff.mpr ⟨⟨renameTarget systemSyms archives d, ?_, ?_⟩, ?_⟩
    · rw [List.getElem?_map, hd]
      rfl
    · exact (renameTarget_defines_iff htarget hfresh).mpr (.inl hdefines)
    · intro k hk t' ht' hdefines'
      rw [List.getElem?_map, Option.map_eq_some_iff] at ht'
      obtain ⟨t, ht, rfl⟩ := ht'
      obtain hold | hnew := (renameTarget_defines_iff htarget hfresh).mp hdefines'
      · exact hbefore k hk t ht hold
      · obtain ⟨j, hjk, hj⟩ := exists_resolve ht hnew
        have := h.first s hs hreference.isUndefined htarget i j hi hj
        omega
  · intro s s' hreference hnone
    obtain ⟨hs, rfl⟩ := reference_eq h.rewritten hreference
    rw [renameTarget_name]
    split
    · next htarget =>
      exfalso
      obtain ⟨i, hi⟩ := Option.ne_none_iff_exists'.mp (h.defined s hs hreference.isUndefined htarget)
      obtain ⟨⟨d, hd, hdefines⟩, -⟩ := resolve_eq_some_iff.mp hi
      exact hnone i hi ((renamed_iff h.rewritten hd).mpr (hdefines.2 ▸ htarget))
    · rfl

/-- Isolation is closed for exactly the archives that can be isolated. -/
theorem symbolIsolation_iff (systemSyms : String → Bool) (archives : List Archive) :
    Closed systemSyms archives ↔ Isolable systemSyms archives :=
  ⟨Closed.isolable, Isolable.closed⟩

/-- `ssl.o` defines a function of OpenSSL's, and `user.o` refers to it weakly. -/
theorem weak_reference_keeps_target :
    ¬ ∀ (systemSyms : String → Bool) (archives : List Archive), Closed systemSyms archives := by
  intro h
  have hisolated := (h (· = "SSL_free") [[[⟨"SSL_free", .stbGlobal, .text, false, 0⟩],
    [⟨"SSL_free", .stbWeak, .undefined, false, 0⟩]]]).isolated
    ⟨"SSL_free", .stbWeak, .undefined, false, 0⟩ (by decide)
  exact hisolated (by decide)

end References

/-! ## What the tool reads off `nm` -/

/-- A name that a C or C++ compiler makes: one word. -/
def OneWord (name : String) : Prop := name ≠ "" ∧ ∀ c ∈ name.toList, isSpace c = false

theorem exists_digitChar {n : Nat} {c : Char} (h : c ∈ Nat.toDigits 16 n) :
    ∃ d < 16, c = Nat.digitChar d := by
  induction n using Nat.strongRecOn with
  | ind n ih =>
    rw [Nat.toDigits_eq_if (by decide)] at h
    split at h
    · next hlt => exact ⟨n, hlt, List.mem_singleton.mp h⟩
    · next hle =>
      obtain h | h := List.mem_append.mp h
      · exact ih (n / 16) (by omega) h
      · exact ⟨n % 16, by omega, List.mem_singleton.mp h⟩

theorem isSpace_of_isLineBreak {c : Char} (h : isLineBreak c = true) : isSpace c = true := by
  simp [isSpace, h]

theorem isSpace_nmLetter (s : Symbol) : isSpace s.nmLetter = false := by
  obtain ⟨name, binding, place, object, value⟩ := s
  cases place <;> cases binding <;> cases object <;> rfl

theorem valueColumn_isSpace {s : Symbol} (h : s.isUndefined = false) :
    ∀ c ∈ s.valueColumn, isSpace c = false := by
  intro c hc
  rw [Symbol.valueColumn, if_neg (by simp [h]), List.leftpad] at hc
  obtain hc | hc := List.mem_append.mp hc
  · rw [List.eq_of_mem_replicate hc]
    rfl
  · obtain ⟨d, hd, rfl⟩ := exists_digitChar hc
    exact (by decide : ∀ d < 16, isSpace (Nat.digitChar d) = false) d hd

theorem valueColumn_ne_nil {s : Symbol} : s.valueColumn ≠ [] := by
  intro hnil
  have hlength := congrArg List.length hnil
  unfold Symbol.valueColumn at hlength
  split at hlength <;> simp at hlength

theorem split_blank (line : List Char) :
    ((' ' :: line).splitOnP isSpace).filter (· ≠ []) = (line.splitOnP isSpace).filter (· ≠ []) := by
  rw [List.splitOnP_cons_eq_if_modifyHead, if_pos (by rfl), List.filter_cons_of_neg (by simp)]

theorem split_blanks (n : Nat) (line : List Char) :
    ((List.replicate n ' ' ++ line).splitOnP isSpace).filter (· ≠ []) =
      (line.splitOnP isSpace).filter (· ≠ []) := by
  induction n with
  | zero => rfl
  | succ n ih => rw [List.replicate_succ, List.cons_append, split_blank, ih]

theorem split_nmLine {s : Symbol} (h : OneWord s.name) :
    split s.nmLine =
      (if s.isUndefined then [] else [s.valueColumn]) ++ [[s.nmLetter], s.name.toList] := by
  have hname : s.name.toList ≠ [] := by simpa using h.1
  have hword : s.name.toList.splitOnP isSpace = [s.name.toList] := List.splitOnP_eq_singleton h.2
  have hrest : (s.nmLetter :: ' ' :: s.name.toList).splitOnP isSpace =
      [[s.nmLetter], s.name.toList] := by
    rw [← List.singleton_append, List.splitOnP_append_cons_of_forall_mem _ _ (by rfl), hword]
    simpa using isSpace_nmLetter s
  unfold split Symbol.nmLine
  cases hundefined : s.isUndefined with
  | true =>
    rw [show s.valueColumn = List.replicate 16 ' ' from if_pos hundefined]
    rw [split_blanks, split_blank, hrest]
    simp [hname]
  | false =>
    rw [List.splitOnP_append_cons_of_forall_mem (valueColumn_isSpace hundefined) _ (by rfl), hrest]
    simp [valueColumn_ne_nil, hname]

theorem nmEntry_nmLine {s : Symbol} (h : OneWord s.name) :
    nmEntry s.nmLine =
      if s.isUndefined then (if s.nmLetter = 'U' then .undefined s.name else .skipped)
      else if s.nmLetter ∈ definedLetters then .defined s.name else .skipped := by
  unfold nmEntry
  rw [split_nmLine h]
  cases s.isUndefined with
  | true => simp
  | false => simp only [Bool.false_eq_true, if_false, List.singleton_append, List.singleton_infix_iff,
      String.ofList_toList]

theorem nmLine_isLineBreak {s : Symbol} (h : OneWord s.name) :
    ∀ c ∈ s.nmLine, isLineBreak c = false := by
  have hnot {c : Char} (hc : isSpace c = false) : isLineBreak c = false := by
    by_contra hbreak
    rw [isSpace_of_isLineBreak (by simpa using hbreak)] at hc
    cases hc
  intro c hc
  simp only [Symbol.nmLine, List.mem_append, List.mem_cons] at hc
  obtain hc | rfl | rfl | rfl | hc := hc
  · cases hundefined : s.isUndefined with
    | true =>
      rw [Symbol.valueColumn, if_pos hundefined] at hc
      rw [List.eq_of_mem_replicate hc]
      rfl
    | false => exact hnot (valueColumn_isSpace hundefined c hc)
  · rfl
  · exact hnot (isSpace_nmLetter s)
  · rfl
  · exact hnot (h.2 c hc)

theorem splitlines_nm {member : Member} (h : ∀ s ∈ member, OneWord s.name) :
    splitlines (nm member) = member.map Symbol.nmLine ++ [[]] := by
  unfold splitlines nm
  induction member with
  | nil => rfl
  | cons s member ih =>
    rw [List.flatMap_cons, List.append_assoc, List.singleton_append,
      List.splitOnP_append_cons_of_forall_mem (nmLine_isLineBreak (h s List.mem_cons_self)) _ (by rfl),
      ih fun s hs => h s (List.mem_cons_of_mem _ hs)]
    rfl

theorem mem_nmEntries_iff {member : Member} (h : ∀ s ∈ member, OneWord s.name) (e : NmEntry)
    (hread : e ≠ .skipped) :
    e ∈ (splitlines (nm member)).map nmEntry ↔ ∃ s ∈ member, nmEntry s.nmLine = e := by
  have hempty : nmEntry [] ≠ e := fun heq => hread heq.symm
  rw [splitlines_nm h, List.map_append, List.mem_append, List.map_map, List.mem_map, List.map_singleton,
    List.mem_singleton]
  exact or_iff_left hempty.symm

/-- A name counts as defined in a member that has a definition of it with one of the letters. -/
theorem mem_defined_iff {member : Member} (h : ∀ s ∈ member, OneWord s.name) {name : String} :
    name ∈ (nmDefinedAndUndefined member).1 ↔
      ∃ s ∈ member, s.isUndefined = false ∧ s.nmLetter ∈ definedLetters ∧ s.name = name := by
  have hmem : name ∈ (nmDefinedAndUndefined member).1 ↔
      .defined name ∈ (splitlines (nm member)).map nmEntry := by
    unfold nmDefinedAndUndefined
    rw [List.mem_filterMap]
    constructor
    · rintro ⟨e, he, hname⟩
      cases e <;> simp_all
    · intro he
      exact ⟨_, he, rfl⟩
  rw [hmem, mem_nmEntries_iff h (.defined name) nofun]
  refine exists_congr fun s => and_congr_right fun hs => ?_
  rw [nmEntry_nmLine (h s hs)]
  cases s.isUndefined with
  | true =>
    simp only [if_true, Bool.true_eq_false, false_and, iff_false]
    split <;> nofun
  | false =>
    simp only [Bool.false_eq_true, if_false, true_and]
    split
    · next hletter => simp [hletter]
    · next hletter => simp [hletter]

/-- It counts as undefined where there is a strong reference to it. -/
theorem mem_undefined_iff {member : Member} (h : ∀ s ∈ member, OneWord s.name) {name : String} :
    name ∈ (nmDefinedAndUndefined member).2 ↔
      ∃ s ∈ member, s.isUndefined ∧ s.binding ≠ .stbWeak ∧ s.name = name := by
  have hmem : name ∈ (nmDefinedAndUndefined member).2 ↔
      .undefined name ∈ (splitlines (nm member)).map nmEntry := by
    unfold nmDefinedAndUndefined
    rw [List.mem_filterMap]
    constructor
    · rintro ⟨e, he, hname⟩
      cases e <;> simp_all
    · intro he
      exact ⟨_, he, rfl⟩
  have hletter {s : Symbol} (hundefined : s.isUndefined = true) :
      s.nmLetter = 'U' ↔ s.binding ≠ .stbWeak := by
    have hplace : s.place = .undefined := by simpa [Symbol.isUndefined] using hundefined
    simp only [Symbol.nmLetter, hplace]
    split
    · next hweak =>
      refine iff_of_false ?_ (fun hne => hne hweak)
      split <;> decide
    · next hstrong => exact iff_of_true rfl hstrong
  rw [hmem, mem_nmEntries_iff h (.undefined name) nofun]
  refine exists_congr fun s => and_congr_right fun hs => ?_
  rw [nmEntry_nmLine (h s hs)]
  cases hundefined : s.isUndefined with
  | true =>
    rw [if_pos rfl, ← hletter hundefined]
    split
    · next hletter => simp [hletter]
    · next hletter => simp [hletter]
  | false =>
    simp only [Bool.false_eq_true, if_false, false_and, iff_false]
    split <;> nofun

/-- The tool rewrites a member that has a target among what it reads. -/
theorem touched_iff {archive : Archive} {member : Member}
    (h : ∀ s ∈ member, OneWord s.name) :
    touched systemSyms archive member ↔
      ∃ s ∈ member, s.name ∈ targetSyms systemSyms archive ∧
        if s.isUndefined then s.binding ≠ .stbWeak else s.nmLetter ∈ definedLetters := by
  unfold touched
  simp only [List.any_append, Bool.or_eq_true, List.any_eq_true, decide_eq_true_eq, mem_defined_iff h,
    mem_undefined_iff h]
  constructor
  · rintro (⟨_, ⟨s, hs, hundefined, hletter, rfl⟩, htarget⟩ |
      ⟨_, ⟨s, hs, hundefined, hstrong, rfl⟩, htarget⟩)
    · exact ⟨s, hs, htarget, by simpa [hundefined] using hletter⟩
    · exact ⟨s, hs, htarget, by simpa [hundefined] using hstrong⟩
  · rintro ⟨s, hs, htarget, hprinted⟩
    cases hundefined : s.isUndefined with
    | true =>
      rw [hundefined, if_pos rfl] at hprinted
      exact .inr ⟨_, ⟨s, hs, hundefined, hprinted, rfl⟩, htarget⟩
    | false =>
      rw [hundefined] at hprinted
      exact .inl ⟨_, ⟨s, hs, hundefined, by simpa using hprinted, rfl⟩, htarget⟩

end Signal2sip.Tools
