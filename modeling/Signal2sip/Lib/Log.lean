import Signal2sip.Lib.Run

/-!
# Logs whose entries are backed

A log grows at its end. `Backed J log` says that every entry of the log meets `J` at the entries before
it, so that what an entry refers to has been said earlier.

- `backed_append`: a log is extended by what is backed where it ends, one entry after the other;
- `backed_iff`: the same as a statement about every place in the log.
-/

namespace Log

open Runs (Along along_append along_iff_forall_prefix final)

variable {α : Type*}

/-- One more entry. -/
def say (said : List α) (entry : α) : List α := said ++ [entry]

@[simp] theorem final_say (said entries : List α) : final say said entries = said ++ entries := by
  induction entries generalizing said with
  | nil => simp
  | cons entry entries ih => simp [say, ih]

/-- Every entry of `entries` meets `J` at what was said before it. -/
def BackedAfter (J : List α → α → Prop) (said entries : List α) : Prop := Along say J said entries

def Backed (J : List α → α → Prop) (log : List α) : Prop := BackedAfter J [] log

variable {J : List α → α → Prop} {said entries log : List α} {entry : α}

@[simp] theorem backedAfter_nil : BackedAfter J said [] := trivial

@[simp] theorem backedAfter_cons :
    BackedAfter J said (entry :: entries) ↔ J said entry ∧ BackedAfter J (said ++ [entry]) entries :=
  Iff.rfl

theorem backedAfter_append {more : List α} :
    BackedAfter J said (entries ++ more) ↔
      BackedAfter J said entries ∧ BackedAfter J (said ++ entries) more := by
  rw [BackedAfter, along_append, final_say]
  rfl

theorem backed_append : Backed J (log ++ entries) ↔ Backed J log ∧ BackedAfter J log entries :=
  backedAfter_append

theorem backed_iff :
    Backed J log ↔ ∀ pre entry post, log = pre ++ entry :: post → J pre entry := by
  rw [Backed, BackedAfter, along_iff_forall_prefix]
  simp

end Log
