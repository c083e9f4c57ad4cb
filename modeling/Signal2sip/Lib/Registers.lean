import Signal2sip.Lib.Run

/-!
# Readings that events set

An event is accepted or refused. A refused event changes no reading; an accepted one sets some of the
readings, to values that only the event decides, and leaves the others. After a run a reading shows the
value of the last accepted event that set it, or what it showed before (`Lawful.read_final`).
-/

namespace Registers

variable {σ ε ξ κ β : Type*}

/-- The state after an event. -/
def next (step : σ → ε → σ × Option ξ) (s : σ) (e : ε) : σ := (step s e).1

/-- The events of a run that were accepted. -/
def accepted (step : σ → ε → σ × Option ξ) : σ → List ε → List ε
  | _, [] => []
  | s, e :: es =>
    if (step s e).2.isNone then e :: accepted step (next step s e) es
    else accepted step (next step s e) es

/-- The value of the last event that sets a reading. -/
def lastSet (value : κ → ε → Option β) (k : κ) (es : List ε) : Option β :=
  (es.filterMap (value k)).getLast?

theorem lastSet_cons (value : κ → ε → Option β) (k : κ) (e : ε) (es : List ε) (b : β) :
    (lastSet value k (e :: es)).getD b = (lastSet value k es).getD ((value k e).getD b) := by
  rw [lastSet, List.filterMap_cons]
  cases value k e with
  | none => rfl
  | some v =>
    rw [List.getLast?_cons]
    rfl

/-- What the two kinds of events do to readings, in the states of an invariant. -/
structure Lawful (step : σ → ε → σ × Option ξ) (I : σ → Prop) (read : κ → σ → β)
    (value : κ → ε → Option β) : Prop where
  keep : ∀ s e, I s → I (next step s e)
  accepts : ∀ s e k, I s → (step s e).2 = none → read k (next step s e) = (value k e).getD (read k s)
  refuses : ∀ s e k, I s → (step s e).2 ≠ none → read k (next step s e) = read k s

variable {step : σ → ε → σ × Option ξ} {I : σ → Prop} {read : κ → σ → β} {value : κ → ε → Option β}

theorem Lawful.read_final (h : Lawful step I read value) {s : σ} (hs : I s) (es : List ε) (k : κ) :
    read k (Runs.final (next step) s es) = (lastSet value k (accepted step s es)).getD (read k s) := by
  induction es generalizing s with
  | nil => rfl
  | cons e es ih =>
    rw [Runs.final_cons, ih (h.keep s e hs), accepted]
    cases houtcome : (step s e).2 with
    | none =>
      rw [h.accepts s e k hs houtcome]
      exact (lastSet_cons value k e _ _).symm
    | some x =>
      have hrefused : (step s e).2 ≠ none := by
        rw [houtcome]
        exact Option.some_ne_none x
      rw [h.refuses s e k hs hrefused]
      rfl

end Registers
