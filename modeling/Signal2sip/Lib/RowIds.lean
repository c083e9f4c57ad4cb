import Mathlib.Data.List.Nodup

/-!
# Rows with an id

A table may number its rows. A client that looks a row up and then writes "the row with that id"
means the row it found; it writes that row, and no other, because ids are unique. Read without the
ids, the write replaces the first row that the lookup accepts (`map_value_update`), and the other
rows are all but that one (`map_value_filter_ne`).
-/

namespace RowIds

variable {ρ ι α : Type*}

/-- Replace the first value that passes a test. -/
def replaceFirst (p : α → Bool) (a : α) : List α → List α
  | [] => []
  | b :: l => if p b then a :: l else b :: replaceFirst p a l

variable {id : ρ → ι} {value : ρ → α} {p : α → Bool} {row : ρ}

/-- Whether a lookup finds a row, and with which value, can be told from the values. -/
theorem find?_map_value (rows : List ρ) :
    (rows.find? fun r => p (value r)).map value = (rows.map value).find? p := by
  rw [List.find?_map]
  rfl

variable [DecidableEq ι]

/-- The rows with another id are all but the first that the lookup accepts. -/
theorem map_value_filter_ne {rows : List ρ} (hids : (rows.map id).Nodup)
    (h : rows.find? (fun r => p (value r)) = some row) :
    (rows.filter fun r => id r ≠ id row).map value = (rows.map value).eraseP p := by
  induction rows with
  | nil => cases h
  | cons r rows ih =>
    obtain ⟨hnotMem, hnodup⟩ := List.nodup_cons.mp hids
    by_cases hp : p (value r) = true
    · simp only [List.find?_cons, hp] at h
      cases h
      have hrest : rows.filter (fun s => id s ≠ id row) = rows :=
        List.filter_eq_self.mpr fun s hs => decide_eq_true fun heq =>
          hnotMem (heq ▸ List.mem_map_of_mem hs)
      rw [List.filter_cons_of_neg (by simp), hrest, List.map_cons, List.eraseP_cons_of_pos hp]
    · simp only [List.find?_cons, hp] at h
      have hne : id r ≠ id row := fun heq =>
        hnotMem (heq ▸ List.mem_map_of_mem (List.mem_of_find?_eq_some h))
      rw [List.filter_cons_of_pos (by simpa using hne), List.map_cons, List.map_cons,
        List.eraseP_cons_of_neg hp, ih hnodup h]

/-- Writing the row with the id that was found replaces the first row that the lookup accepts. -/
theorem map_value_update {rows : List ρ} (hids : (rows.map id).Nodup)
    (h : rows.find? (fun r => p (value r)) = some row) {write : ρ → ρ} {a : α}
    (hwrite : ∀ r, value (write r) = a) :
    (rows.map fun r => if id r = id row then write r else r).map value =
      replaceFirst p a (rows.map value) := by
  induction rows with
  | nil => cases h
  | cons r rows ih =>
    obtain ⟨hnotMem, hnodup⟩ := List.nodup_cons.mp hids
    by_cases hp : p (value r) = true
    · simp only [List.find?_cons, hp] at h
      cases h
      have hrest : rows.map (fun s => if id s = id row then write s else s) = rows := by
        refine (List.map_congr_left fun s hs => if_neg fun heq => ?_).trans (List.map_id rows)
        exact hnotMem (heq ▸ List.mem_map_of_mem hs)
      rw [List.map_cons, if_pos rfl, hrest, List.map_cons, hwrite, List.map_cons, replaceFirst,
        if_pos hp]
    · simp only [List.find?_cons, hp] at h
      have hne : id r ≠ id row := fun heq =>
        hnotMem (heq ▸ List.mem_map_of_mem (List.mem_of_find?_eq_some h))
      rw [List.map_cons, if_neg hne, List.map_cons, List.map_cons, replaceFirst, if_neg hp,
        ih hnodup h]

end RowIds
