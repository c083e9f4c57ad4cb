import Signal2sip.Lib.Run

/-!
# Parties that share a state

Several parties act on one state, each call with a result of its own. A party is isolated from the
others when it cannot tell whether they are there: in every interleaving, the results of its calls
and what it can see of the state are those of its calls alone.

`Unwinding` is what one step has to satisfy for that, for a relation "looks the same to `k`": a call
of `k` returns the same from two states that look the same, and leaves two that do; a call of
anybody else leaves a state that looks the same as the one before it. `Unwinding.run` is the theorem
about runs.
-/

namespace Parties

variable {σ ε κ ρ : Type*} [DecidableEq κ]

/-- The calls of one party, in order. -/
def callsOf (owner : ε → κ) (k : κ) (es : List ε) : List ε := es.filter fun e => owner e = k

/-- What a party's calls return along a run. -/
def resultsOf (step : σ → ε → σ × ρ) (owner : ε → κ) (k : κ) : σ → List ε → List ρ
  | _, [] => []
  | s, e :: es =>
    if owner e = k then (step s e).2 :: resultsOf step owner k (step s e).1 es
    else resultsOf step owner k (step s e).1 es

/-- The state after a run. -/
abbrev stateAfter (step : σ → ε → σ × ρ) (s : σ) (es : List ε) : σ :=
  Runs.final (fun s e => (step s e).1) s es

/-- What one step must do for `LooksSame k` to be all that the party `k` can see. -/
structure Unwinding (step : σ → ε → σ × ρ) (owner : ε → κ) (LooksSame : κ → σ → σ → Prop) :
    Prop where
  own {s s' : σ} (e : ε) (h : LooksSame (owner e) s s') :
    (step s e).2 = (step s' e).2 ∧ LooksSame (owner e) (step s e).1 (step s' e).1
  other {s s' : σ} (e : ε) {k : κ} (hk : owner e ≠ k) (h : LooksSame k s s') :
    LooksSame k (step s e).1 s'

/-- A party's results and its view after any interleaving are those of its calls alone. -/
theorem Unwinding.run {step : σ → ε → σ × ρ} {owner : ε → κ} {LooksSame : κ → σ → σ → Prop}
    (h : Unwinding step owner LooksSame) (k : κ) {s s' : σ} (hs : LooksSame k s s') (es : List ε) :
    resultsOf step owner k s es = resultsOf step owner k s' (callsOf owner k es) ∧
      LooksSame k (stateAfter step s es) (stateAfter step s' (callsOf owner k es)) := by
  induction es generalizing s s' with
  | nil => exact ⟨rfl, hs⟩
  | cons e es ih =>
    unfold callsOf at ih ⊢
    by_cases hk : owner e = k
    · subst hk
      obtain ⟨hresult, hlooks⟩ := h.own e hs
      obtain ⟨hresults, hfinal⟩ := ih hlooks
      rw [List.filter_cons_of_pos (by simp), resultsOf, resultsOf, if_pos rfl, if_pos rfl]
      exact ⟨by rw [hresult, hresults], hfinal⟩
    · rw [List.filter_cons_of_neg (by simpa using hk), resultsOf, if_neg hk]
      exact ih (h.other e hk hs)

end Parties
