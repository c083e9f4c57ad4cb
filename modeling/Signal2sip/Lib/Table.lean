import Mathlib.Data.List.AList

/-!
# Keyed tables

A table is Mathlib's association list with a key-independent value type: a finite map whose
entries have an order, so a loop over it is a loop over a list, and whose keys are distinct by
construction. This module adds the two operations Mathlib's association lists lack, updating one
value in place (`modify`) and keeping the entries whose keys pass a test (`filterKeys`), with
their lookup laws.
-/

/-- A finite map from `κ` to `α` whose entries are in an order of their own. -/
abbrev Table (κ : Type*) (α : Type*) := AList fun _ : κ => α

namespace AList

section Values

variable {κ α : Type*}

theorem keys_map_snd (f : κ → α → α) (l : List (Sigma fun _ : κ => α)) :
    (l.map fun e => (⟨e.1, f e.1 e.2⟩ : Sigma fun _ : κ => α)).keys = l.keys := by
  simp only [List.keys, List.map_map, Function.comp_def]

/-- Replace every value by a function of its key and itself; keys and order stay. -/
def mapValues (f : κ → α → α) (t : Table κ α) : Table κ α :=
  ⟨t.entries.map fun e => ⟨e.1, f e.1 e.2⟩, by
    rw [List.NodupKeys, keys_map_snd]
    exact t.nodupKeys⟩

/-- Keep the entries whose key passes the test. -/
def filterKeys (p : κ → Bool) (t : Table κ α) : Table κ α :=
  ⟨t.entries.filter fun e => p e.1, t.nodupKeys.sublist List.filter_sublist⟩

end Values

variable {κ α : Type*} [DecidableEq κ]

/-- Looking a key up passes over an entry with another key. -/
theorem dlookup_cons_other {j k : κ} (h : j ≠ k) (v : α) (l : List (Sigma fun _ : κ => α)) :
    List.dlookup j ((⟨k, v⟩ : Sigma fun _ : κ => α) :: l) = List.dlookup j l :=
  List.dlookup_cons_ne l ⟨k, v⟩ h

/-- Update the value at one key in place; a table without the key is unchanged. -/
def modify (k : κ) (f : α → α) (t : Table κ α) : Table κ α :=
  t.mapValues fun j v => if j = k then f v else v

@[simp] theorem lookup_mapValues (f : κ → α → α) (t : Table κ α) (j : κ) :
    (t.mapValues f).lookup j = (t.lookup j).map (f j) := by
  obtain ⟨l, hl⟩ := t
  show List.dlookup j (l.map fun e => (⟨e.1, f e.1 e.2⟩ : Sigma fun _ : κ => α)) =
    (List.dlookup j l).map (f j)
  clear hl
  induction l with
  | nil => rfl
  | cons e l ih =>
    obtain ⟨k, v⟩ := e
    by_cases h : j = k
    · subst h
      simp
    · rw [List.map_cons, dlookup_cons_other h, dlookup_cons_other h, ih]

@[simp] theorem lookup_modify_self (k : κ) (f : α → α) (t : Table κ α) :
    (t.modify k f).lookup k = (t.lookup k).map f := by
  simp [modify]

theorem mem_modify {j k : κ} {f : α → α} {t : Table κ α} : j ∈ t.modify k f ↔ j ∈ t := by
  rw [← lookup_isSome, ← lookup_isSome, modify, lookup_mapValues, Option.isSome_map]

theorem lookup_modify_ne {j k : κ} (h : j ≠ k) (f : α → α) (t : Table κ α) :
    (t.modify k f).lookup j = t.lookup j := by
  simp [modify, h]

/-- A view of the values has nothing for a key that was erased, and the others stay. -/
theorem map_lookup_erase {β : Type*} (t : Table κ α) (f : α → β) (k j : κ) :
    ((t.erase k).lookup j).map f = Function.update (fun j => (t.lookup j).map f) k none j := by
  by_cases h : j = k
  · rw [h, Function.update_self, lookup_erase, Option.map_none]
  · rw [Function.update_of_ne h, lookup_erase_ne h]

/-- A key that fails the test is gone, and the others stay. -/
theorem lookup_filterKeys (p : κ → Bool) (t : Table κ α) (k : κ) :
    (t.filterKeys p).lookup k = if p k then t.lookup k else none := by
  obtain ⟨l, hl⟩ := t
  show List.dlookup k (l.filter fun e => p e.1) = if p k then List.dlookup k l else none
  clear hl
  induction l with
  | nil => simp
  | cons e l ih =>
    obtain ⟨j, v⟩ := e
    by_cases hkey : k = j
    · subst hkey
      cases hp : p k with
      | true => simp [hp]
      | false => simpa [hp] using ih
    · rw [dlookup_cons_other hkey]
      cases hp : p j with
      | true => simpa [hp, dlookup_cons_other hkey] using ih
      | false => simpa [hp] using ih

/-- Inserting a new key and erasing it again gives the table back, order and all. -/
theorem erase_insert_of_notMem {k : κ} {v : α} {t : Table κ α} (h : k ∉ t) :
    (t.insert k v).erase k = t := by
  apply AList.ext
  rw [insert_of_notMem h]
  exact List.kerase_cons_eq rfl

/-- Updating the value of a key that is erased next makes no difference. -/
theorem erase_modify (k : κ) (f : α → α) (t : Table κ α) : (t.modify k f).erase k = t.erase k := by
  apply AList.ext
  obtain ⟨l, hl⟩ := t
  show List.kerase k (l.map fun e => ⟨e.1, if e.1 = k then f e.2 else e.2⟩) = List.kerase k l
  have hnd : l.keys.Nodup := hl
  clear hl
  induction l with
  | nil => rfl
  | cons e l ih =>
    obtain ⟨j, v⟩ := e
    simp only [List.keys_cons, List.nodup_cons] at hnd
    by_cases h : k = j
    · subst h
      -- the erased key occurs once, so the update leaves the rest of the list alone
      have hid : (l.map fun e => (⟨e.1, if e.1 = k then f e.2 else e.2⟩ : Sigma fun _ : κ => α)) = l := by
        conv_rhs => rw [← List.map_id l]
        apply List.map_congr_left
        intro e he
        have hne : e.1 ≠ k := fun heq => hnd.1 (heq ▸ List.mem_keys_of_mem he)
        simp [hne]
      simp [hid]
    · have hne : j ≠ k := fun heq => h heq.symm
      simp only [List.map_cons, if_neg hne]
      rw [List.kerase_cons_ne h, List.kerase_cons_ne h, ih hnd.2]

end AList
