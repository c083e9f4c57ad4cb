import Signal2sip.Lib.Sqlite
import Mathlib.Data.List.Infix
import Mathlib.Data.List.TakeWhile

/-!
# What `LIKE` matches

`LIKE` is not "begins with". Wildcards in the pattern match more than themselves, and letters match
without regard to case.

- `likeText_append`: a text that begins with the pattern before its final `%` always matches;
- `likeText_prefix_iff`: without a wildcard before the final `%`, what matches are the texts that begin
  with the pattern, but for the case of letters.
-/

namespace Sqlite

variable {p c : Char} {ps cs : List Char}

/-- A `%` matches any beginning. -/
theorem like_percent_cons : like ('%' :: ps) cs = cs.tails.any (like ps) := by
  rw [like.eq_def]
  simp

theorem like_cons_nil (hp : p ≠ '%') : like (p :: ps) [] = false := by
  rw [like.eq_def]
  simp [hp]

theorem like_cons_cons (hp : p ≠ '%') :
    like (p :: ps) (c :: cs) = ((p = '_' || p.toLower = c.toLower) && like ps cs) := by
  rw [like.eq_def]
  simp [hp]

/-- A text that is the pattern's beginning can be put before both. -/
theorem like_append_self (p : List Char) (h : like ps cs = true) :
    like (p ++ ps) (p ++ cs) = true := by
  induction p with
  | nil => exact h
  | cons c p ih =>
    rw [List.cons_append, List.cons_append]
    by_cases hc : c = '%'
    · -- a `%` matches itself, among other things
      rw [hc, like_percent_cons]
      refine List.any_eq_true.mpr ⟨p ++ cs, ?_, ih⟩
      exact (List.mem_tails _ _).mpr (List.suffix_cons _ _)
    · rw [like_cons_cons hc, ih]
      simp

theorem like_self (p : List Char) : like p p = true := by
  have h := like_append_self p (show like [] [] = true from rfl)
  rwa [List.append_nil] at h

theorem like_percent (cs : List Char) : like ['%'] cs = true := by
  rw [like_percent_cons]
  exact List.any_eq_true.mpr ⟨[], (List.mem_tails _ _).mpr (List.nil_suffix), rfl⟩

/-- A pattern that ends in `%` matches every text that begins with what is before it. -/
theorem likeText_append (s t : String) : likeText (s ++ "%") (s ++ t) = true := by
  rw [likeText, String.toList_append, String.toList_append, List.takeWhile_append,
    List.takeWhile_append]
  split
  · exact like_append_self s.toList (like_percent _)
  · exact like_self _

/-- Without wildcards before it, a final `%` matches the rest of a text that begins with the pattern,
but for the case of letters. -/
theorem like_prefix_iff {p : List Char} (hp : ∀ c ∈ p, c ≠ '%' ∧ c ≠ '_') (cs : List Char) :
    like (p ++ ['%']) cs = true ↔ (cs.take p.length).map Char.toLower = p.map Char.toLower := by
  induction p generalizing cs with
  | nil => simp [like_percent]
  | cons c p ih =>
    obtain ⟨hpercent, hunderscore⟩ := hp c List.mem_cons_self
    have ih := ih fun d hd => hp d (List.mem_cons_of_mem c hd)
    rw [List.cons_append]
    cases cs with
    | nil => simp [like_cons_nil hpercent]
    | cons d ds =>
      simp only [like_cons_cons hpercent, hunderscore, decide_false, Bool.false_or,
        Bool.and_eq_true, decide_eq_true_eq, ih ds, List.length_cons, List.take_succ_cons,
        List.map_cons, List.cons.injEq]
      exact and_congr_left' eq_comm

/-- On texts, where the beginning is a name and a separator. -/
theorem likeText_prefix_iff {p cs : List Char} (hp : ∀ c ∈ p, c ≠ '%' ∧ c ≠ '_')
    (hpNul : ∀ c ∈ p, c ≠ Char.ofNat 0) (hcsNul : ∀ c ∈ cs, c ≠ Char.ofNat 0) :
    likeText (String.ofList (p ++ ['%'])) (String.ofList cs) = true ↔
      (cs.take p.length).map Char.toLower = p.map Char.toLower := by
  have hwhole {l : List Char} (hl : ∀ c ∈ l, c ≠ Char.ofNat 0) :
      l.takeWhile (· ≠ Char.ofNat 0) = l :=
    List.takeWhile_eq_self_iff.mpr fun c hc => decide_eq_true (hl c hc)
  have hpattern : ∀ c ∈ p ++ ['%'], c ≠ Char.ofNat 0 := by
    intro c hc
    rcases List.mem_append.mp hc with hc | hc
    · exact hpNul c hc
    · rw [List.mem_singleton.mp hc]
      decide
  rw [likeText, String.toList_ofList, String.toList_ofList, hwhole hpattern, hwhole hcsNul]
  exact like_prefix_iff hp cs

end Sqlite
