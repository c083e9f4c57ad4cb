import Mathlib.Data.List.Basic

/-!
# Options among arguments

A program goes through its arguments once. An option takes the argument behind it, whatever that looks
like; every other argument is left over, and so is an option that nothing follows. `scan` is this loop,
for any type of arguments and any record of what the options said.

So a list in which no argument but the last is an option is left over whole (`scan_plain`).
-/

namespace Arguments

variable {α σ : Type*}

/-- What the options said, on top of `s`, and the arguments that are left over. -/
def scan (option : α → Option (α → σ → σ)) : σ → List α → σ × List α
  | s, [] => (s, [])
  | s, [arg] => (s, [arg])
  | s, arg :: value :: args =>
    match option arg with
    | some set => scan option (set value s) args
    | none => ((scan option s (value :: args)).1, arg :: (scan option s (value :: args)).2)

variable {option : α → Option (α → σ → σ)} {s : σ} {arg value : α} {args : List α}

theorem scan_option {set : α → σ → σ} (h : option arg = some set) :
    scan option s (arg :: value :: args) = scan option (set value s) args := by
  rw [scan, h]

/-- Without an option that something follows, everything is left over. -/
theorem scan_plain (h : ∀ arg ∈ args.dropLast, option arg = none) :
    scan option s args = (s, args) := by
  fun_induction scan option s args with
  | case1 s => rfl
  | case2 s arg => rfl
  | case3 s arg value args set hset ih =>
    have hnone := h arg List.mem_cons_self
    rw [hnone] at hset
    cases hset
  | case4 s arg value args _ ih => rw [ih fun arg' hmem => h arg' (List.mem_cons_of_mem arg hmem)]

end Arguments
