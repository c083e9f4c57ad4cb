import Mathlib.Data.List.Basic
import Mathlib.Tactic.Common

/-!
# Reading a text line by line

`std::getline` in a loop: the lines of a text are the pieces that newlines end, and what is left
behind the last of them, if anything is. A reader that keeps a state goes from line to line.

Text that is appended behind a newline is read from the state that the text before leaves
(`readLines_append`), whether or not that text ended with a newline, if the reader passes over blank
lines.
-/

namespace Lines

/-- The lines that `std::getline` gives one after the other. -/
def getlines : List Char → List (List Char)
  | [] => []
  | c :: cs =>
    if c = '\n' then [] :: getlines cs
    else
      match getlines cs with
      | [] => [[c]]
      | line :: lines => (c :: line) :: lines

theorem getlines_cons_newline (cs : List Char) : getlines ('\n' :: cs) = [] :: getlines cs :=
  if_pos rfl

theorem getlines_cons {c : Char} (hc : c ≠ '\n') {cs line : List Char} {lines : List (List Char)}
    (h : getlines cs = line :: lines) : getlines (c :: cs) = (c :: line) :: lines := by
  rw [getlines, if_neg hc, h]

theorem getlines_ne_nil {cs : List Char} (h : cs ≠ []) : getlines cs ≠ [] := by
  cases cs with
  | nil => exact absurd rfl h
  | cons c cs =>
    rw [getlines]
    split
    · exact List.cons_ne_nil _ _
    · split
      · exact List.cons_ne_nil _ _
      · exact List.cons_ne_nil _ _

/-- A line that a newline ends. -/
theorem getlines_line {line : List Char} (h : '\n' ∉ line) (cs : List Char) :
    getlines (line ++ '\n' :: cs) = line :: getlines cs := by
  induction line with
  | nil => exact getlines_cons_newline cs
  | cons c line ih =>
    obtain ⟨hc, hline⟩ := not_or.mp (mt List.mem_cons.mpr h)
    exact getlines_cons (Ne.symm hc) (ih hline)

/-- A newline behind a text ends its last line, or is a blank line of its own. -/
theorem getlines_append (cs ds : List Char) :
    ∃ blank, (blank = [] ∨ blank = [[]]) ∧
      getlines (cs ++ '\n' :: ds) = getlines cs ++ blank ++ getlines ds := by
  induction cs with
  | nil => exact ⟨[[]], .inr rfl, getlines_cons_newline ds⟩
  | cons c cs ih =>
    obtain ⟨blank, hblank, hlines⟩ := ih
    by_cases hc : c = '\n'
    · subst hc
      refine ⟨blank, hblank, ?_⟩
      rw [List.cons_append, getlines_cons_newline, getlines_cons_newline, hlines]
      rfl
    · by_cases hcs : cs = []
      · subst hcs
        refine ⟨[], .inl rfl, ?_⟩
        rw [List.cons_append, List.nil_append, getlines_cons hc (getlines_cons_newline ds), getlines,
          if_neg hc]
        rfl
      · refine ⟨blank, hblank, ?_⟩
        cases hfirst : getlines cs with
        | nil => exact absurd hfirst (getlines_ne_nil hcs)
        | cons line lines =>
          rw [hfirst] at hlines
          rw [List.cons_append, getlines_cons hc hlines, getlines_cons hc hfirst]
          rfl

section Reading

variable {σ : Type*} (step : σ → List Char → σ)

/-- Read all lines of a text. -/
def readLines (s : σ) (cs : List Char) : σ := (getlines cs).foldl step s

variable {step}

theorem readLines_line {line : List Char} (h : '\n' ∉ line) (cs : List Char) (s : σ) :
    readLines step s (line ++ '\n' :: cs) = readLines step (step s line) cs := by
  rw [readLines, getlines_line h]
  rfl

/-- What is appended behind a newline is read where the text before it ends. -/
theorem readLines_append (hblank : ∀ s, step s [] = s) (cs ds : List Char) (s : σ) :
    readLines step s (cs ++ '\n' :: ds) = readLines step (readLines step s cs) ds := by
  obtain ⟨blank, hlines, happend⟩ := getlines_append cs ds
  rw [readLines, happend, List.foldl_append, List.foldl_append]
  rcases hlines with rfl | rfl
  · rfl
  · rw [List.foldl_cons, hblank]
    rfl

end Reading

end Lines
