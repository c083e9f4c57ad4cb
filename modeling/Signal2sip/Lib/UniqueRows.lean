import Mathlib.Data.Multiset.Filter

/-!
# Rows that take the place of the row they clash with

A table may not hold two rows that clash (two rows with one value in a unique column). A new row
that clashes with no row is added; one that clashes with a single row takes its place; one that
clashes with two rows cannot be placed, and the table stays as it is. The clash is any symmetric
relation, and a table is a multiset: what it holds does not depend on where it holds it.

**The law** (`orderFree_iff`): a batch of rows that do not clash with each other ends in the same
table in every order, with every row of the batch in it, exactly when no row of the batch clashes
with two rows of the table the batch starts from. What the batch does to the table on the way does
not matter: a row that a placed row has displaced can only lower the count.

With such a batch the table ends as the batch and the rows that clash with none of it
(`placeAll_eq`).
-/

namespace UniqueRows

variable {ρ : Type*} (clash : ρ → ρ → Prop) [DecidableRel clash]

/-- Put a row into the table, unless it clashes with two rows of it. -/
def place (t : Multiset ρ) (r : ρ) : Multiset ρ :=
  if (t.filter (clash r)).card ≤ 1 then r ::ₘ t.filter (¬ clash r ·) else t

/-- Put the rows of a batch into the table, one after the other. -/
def placeAll (t : Multiset ρ) (l : List ρ) : Multiset ρ := l.foldl (place clash) t

/-- No row of the table clashes with another one. -/
def Consistent (t : Multiset ρ) : Prop := ∀ r ∈ t, (t.filter (clash r)).card ≤ 1

variable {clash}

theorem place_of_le_one {t : Multiset ρ} {r : ρ} (h : (t.filter (clash r)).card ≤ 1) :
    place clash t r = r ::ₘ t.filter (¬ clash r ·) :=
  if_pos h

theorem place_of_one_lt {t : Multiset ρ} {r : ρ} (h : ¬ (t.filter (clash r)).card ≤ 1) :
    place clash t r = t :=
  if_neg h

/-- A list of one element at most has no two. -/
theorem eq_of_length_le_one {l : List ρ} (h : l.length ≤ 1) {r s : ρ} (hr : r ∈ l) (hs : s ∈ l) :
    r = s := by
  obtain ⟨x, rfl⟩ := List.length_eq_one_iff.mp (Nat.le_antisymm h (List.length_pos_of_mem hr))
  rw [List.mem_singleton.mp hr, List.mem_singleton.mp hs]

theorem length_le_one_iff {l : List ρ} (hl : l.Nodup) :
    l.length ≤ 1 ↔ ∀ r ∈ l, ∀ s ∈ l, r = s := by
  constructor
  · exact fun h r hr s hs => eq_of_length_le_one h hr hs
  · intro h
    cases l with
    | nil => exact Nat.zero_le 1
    | cons x l =>
      rw [List.eq_replicate_of_mem fun r hr => h r hr x List.mem_cons_self] at hl
      rw [List.eq_replicate_of_mem fun r hr => h r hr x List.mem_cons_self]
      simpa using List.nodup_replicate.mp hl

/-- Fewer rows are as consistent. -/
theorem Consistent.mono {s t : Multiset ρ} (h : Consistent clash t) (hle : s ≤ t) :
    Consistent clash s := fun r hr =>
  le_trans (Multiset.card_le_card (Multiset.filter_le_filter _ hle)) (h r (Multiset.mem_of_le hle hr))

/-- A row that clashes with no row of a consistent table can be added to it. -/
theorem Consistent.cons [Std.Symm clash] {t : Multiset ρ} (h : Consistent clash t) {r : ρ}
    (hr : ∀ s ∈ t, ¬ clash r s) : Consistent clash (r ::ₘ t) := by
  intro a ha
  rcases Multiset.mem_cons.mp ha with rfl | ha
  · have hnone : t.filter (clash a) = 0 := Multiset.filter_eq_nil.mpr hr
    by_cases haa : clash a a
    · rw [Multiset.filter_cons_of_pos _ haa, hnone]
      exact le_rfl
    · rw [Multiset.filter_cons_of_neg _ haa, hnone]
      exact Nat.zero_le 1
  · rw [Multiset.filter_cons_of_neg _ fun har => hr a ha (symm har)]
    exact h a ha

/-- Placing a row keeps the table consistent: what clashed with it is gone. -/
theorem Consistent.place [Std.Symm clash] {t : Multiset ρ} (h : Consistent clash t) (r : ρ) :
    Consistent clash (place clash t r) := by
  by_cases hle : (t.filter (clash r)).card ≤ 1
  · rw [place_of_le_one hle]
    exact (h.mono (Multiset.filter_le _ t)).cons fun s hs => (Multiset.mem_filter.mp hs).2
  · rw [place_of_one_lt hle]
    exact h

/-- A row of the table was in it before, or is one of those placed. -/
theorem mem_of_mem_place {t : Multiset ρ} {r s : ρ} (h : s ∈ place clash t r) : s = r ∨ s ∈ t := by
  unfold place at h
  split at h
  · exact (Multiset.mem_cons.mp h).imp_right Multiset.mem_of_mem_filter
  · exact Or.inr h

theorem mem_of_mem_placeAll {l : List ρ} {t : Multiset ρ} {s : ρ} (h : s ∈ placeAll clash t l) :
    s ∈ l ∨ s ∈ t := by
  induction l generalizing t with
  | nil => exact Or.inr h
  | cons r l ih =>
    rcases ih h with hl | ht
    · exact Or.inl (List.mem_cons_of_mem r hl)
    · rcases mem_of_mem_place ht with rfl | ht
      · exact Or.inl List.mem_cons_self
      · exact Or.inr ht

/-- What a batch that can be placed leaves: itself, and the rows that clash with none of it. -/
theorem placeAll_eq {l : List ρ} {t : Multiset ρ} (hl : l.Pairwise fun r s => ¬ clash s r)
    (h : ∀ r ∈ l, (t.filter (clash r)).card ≤ 1) :
    placeAll clash t l = l + t.filter fun s => ∀ r ∈ l, ¬ clash r s := by
  induction l generalizing t with
  | nil => simp [placeAll]
  | cons r l ih =>
    obtain ⟨hr, hl⟩ := List.pairwise_cons.mp hl
    have hplace := place_of_le_one (h r List.mem_cons_self)
    -- a later row meets no more rows than it met at the start
    have hlater : ∀ s ∈ l, ((place clash t r).filter (clash s)).card ≤ 1 := by
      intro s hs
      rw [hplace, Multiset.filter_cons_of_neg _ (hr s hs)]
      exact le_trans (Multiset.card_le_card (Multiset.filter_le_filter _ (Multiset.filter_le _ t)))
        (h s (List.mem_cons_of_mem r hs))
    calc placeAll clash t (r :: l)
        = placeAll clash (place clash t r) l := rfl
      _ = l + (r ::ₘ t.filter (¬ clash r ·)).filter fun s => ∀ r ∈ l, ¬ clash r s := by
          rw [ih hl hlater, hplace]
      _ = l + (r ::ₘ t.filter fun s => ∀ r' ∈ r :: l, ¬ clash r' s) := by
          rw [Multiset.filter_cons_of_pos _ hr, Multiset.filter_filter]
          simp only [List.forall_mem_cons, and_comm]
      _ = (r :: l : List ρ) + t.filter fun s => ∀ r' ∈ r :: l, ¬ clash r' s := by
          rw [Multiset.add_cons, ← Multiset.cons_coe, Multiset.cons_add]

/-- A row that clashes with two rows of a consistent table is not in it. -/
theorem Consistent.notMem {t : Multiset ρ} (h : Consistent clash t) {r : ρ}
    (hr : ¬ (t.filter (clash r)).card ≤ 1) : r ∉ t :=
  fun hmem => hr (h r hmem)

/-- Placed first, a row that clashes with two rows of the table is lost for good. -/
theorem notMem_placeAll_of_first {t : Multiset ρ} (ht : Consistent clash t) {r : ρ} {l : List ρ}
    (hself : clash r r) (hr : ¬ (t.filter (clash r)).card ≤ 1) (hl : ∀ s ∈ l, ¬ clash s r) :
    r ∉ placeAll clash t (r :: l) := by
  intro hmem
  have hrest : r ∈ placeAll clash t l := by
    rwa [placeAll, List.foldl_cons, place_of_one_lt hr] at hmem
  rcases mem_of_mem_placeAll hrest with hrl | hrt
  · exact hl r hrl hself
  · exact ht.notMem hr hrt

/-- A batch ends in the same table in every order, with all of its rows in it, exactly when none of
its rows clashes with two rows of the table it starts from. -/
theorem orderFree_iff [Std.Symm clash] {t : Multiset ρ} (ht : Consistent clash t)
    {l : List ρ} (hself : ∀ r ∈ l, clash r r) (hl : l.Pairwise fun r s => ¬ clash r s) :
    ((∀ l' : List ρ, l'.Perm l → placeAll clash t l' = placeAll clash t l) ∧
        ∀ r ∈ l, r ∈ placeAll clash t l) ↔
      ∀ r ∈ l, (t.filter (clash r)).card ≤ 1 := by
  classical
  have hpair {l' : List ρ} (hperm : l'.Perm l) : l'.Pairwise fun r s => ¬ clash s r :=
    (hperm.pairwise_iff fun h h' => h (symm h')).mpr (hl.imp fun h h' => h (symm h'))
  constructor
  · rintro ⟨horder, hall⟩ r hr
    by_contra hcard
    -- the batch with this row in front
    have hperm : (r :: l.erase r).Perm l := (List.perm_cons_erase hr).symm
    have hrest : ∀ s ∈ l.erase r, ¬ clash s r := (List.pairwise_cons.mp (hpair hperm)).1
    apply notMem_placeAll_of_first ht (hself r hr) hcard hrest
    rw [horder _ hperm]
    exact hall r hr
  · intro h
    have heq {l' : List ρ} (hperm : l'.Perm l) :=
      placeAll_eq (hpair hperm) fun r hr => h r (hperm.mem_iff.mp hr)
    constructor
    · intro l' hperm
      rw [heq hperm, heq (List.Perm.refl l), Multiset.coe_eq_coe.mpr hperm]
      simp only [hperm.mem_iff]
    · intro r hr
      rw [heq (List.Perm.refl l)]
      exact Multiset.mem_add.mpr (Or.inl (Multiset.mem_coe.mpr hr))

end UniqueRows
