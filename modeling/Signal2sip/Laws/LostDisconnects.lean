import Signal2sip.Lib.Run
import Signal2sip.Signal.AuthSocket

/-!
# Disconnects that get lost

`doConnect` sets the listener on a new connection first and its two flags after that, so an
interruption that comes in between is overwritten. From then on the flags say that the connection
stands, and the main loop has no reason to reconnect.

- `honest_step_iff`: the two writes that can hide an interruption, and when they do;
- `disconnects_seen_iff`: the flags are honest throughout exactly the runs in which no interruption
  overtakes these writes.
-/

namespace Signal2sip.AuthSocket.Impl

open Runs (Along Always)

/-- What was delivered for the newest connection shows in the flags. -/
structure Honest (s : Impl) : Prop where
  connected : s.interrupted = true → s.connected = false
  deauthorized : s.invalidated = true → s.deauthorized = true

/-- The last two writes of `doConnect` find the new connection not interrupted yet. -/
def NotOvertaken (s : Impl) : ImplEvent → Prop
  | .storeAuthorized => s.at_ = .listening → s.invalidated = false
  | .storeConnected => s.at_ = .authorized → s.interrupted = false
  | _ => True

/-- From honest flags a step makes honest flags exactly when it hides no interruption. -/
theorem honest_step_iff {s : Impl} (h : s.Honest) (e : ImplEvent) :
    (s.step e).Honest ↔ s.NotOvertaken e := by
  cases e with
  | clearConnected =>
    refine ⟨fun _ => trivial, fun _ => ?_⟩
    simp only [step, doConnect]
    split
    · exact ⟨fun _ => rfl, h.deauthorized⟩
    · exact h
  | dropOld | connectOpens | listenFails =>
    refine ⟨fun _ => trivial, fun _ => ?_⟩
    simp only [step, doConnect]
    split
    · exact ⟨h.connected, h.deauthorized⟩
    · exact h
  | connectFails deregistered =>
    refine ⟨fun _ => trivial, fun _ => ?_⟩
    simp only [step, doConnect]
    split
    · exact ⟨h.connected, fun hinvalidated => by simp [h.deauthorized hinvalidated]⟩
    · exact h
  | listen =>
    refine ⟨fun _ => trivial, fun _ => ?_⟩
    simp only [step, doConnect]
    split
    · exact ⟨fun hnew => (nomatch hnew), fun hnew => (nomatch hnew)⟩
    · exact h
  | storeAuthorized =>
    simp only [step, doConnect, NotOvertaken]
    split
    · next hat =>
      constructor
      · intro hhonest _
        by_contra hinvalidated
        have hstored := hhonest.deauthorized (by simpa using hinvalidated)
        cases hstored
      · intro hnot
        refine ⟨h.connected, fun hinvalidated => ?_⟩
        rw [hnot hat] at hinvalidated
        cases hinvalidated
    · next hat => exact ⟨fun _ hat' => absurd hat' hat, fun _ => h⟩
  | storeConnected =>
    simp only [step, doConnect, NotOvertaken]
    split
    · next hat =>
      constructor
      · intro hhonest _
        by_contra hinterrupted
        have hstored := hhonest.connected (by simpa using hinterrupted)
        cases hstored
      · intro hnot
        refine ⟨fun hinterrupted => ?_, h.deauthorized⟩
        rw [hnot hat] at hinterrupted
        cases hinterrupted
    · next hat => exact ⟨fun _ hat' => absurd hat' hat, fun _ => h⟩
  | interrupt connection invalidated =>
    refine ⟨fun _ => trivial, fun _ => ?_⟩
    simp only [step, interrupt]
    split
    · exact ⟨fun _ => rfl, h.deauthorized⟩
    · exact h
  | interruptRest callback =>
    refine ⟨fun _ => trivial, fun _ => ?_⟩
    simp only [step, interruptRest]
    split
    · exact h
    · next connection invalidated _ =>
      refine ⟨h.connected, fun hinvalidated => ?_⟩
      rcases Bool.or_eq_true_iff.mp hinvalidated with hold | hnew
      · simp [h.deauthorized hold]
      · simp [(Bool.and_eq_true_iff.mp hnew).1]

/-- In every run of connects, reconnects and callbacks: the flags show every interruption of the
newest connection until there is a newer one exactly when none overtakes the writes of `doConnect`. -/
theorem disconnects_seen_iff (events : List ImplEvent) :
    Always step Honest {} events ↔ Along step NotOvertaken {} events :=
  Runs.always_congr (I := fun _ => True) (fun _ _ _ _ _ => trivial)
    (fun _ e _ h => honest_step_iff h e) trivial ⟨fun h => (nomatch h), fun h => (nomatch h)⟩

/-- The first connection is interrupted as soon as the listener is set, and stays connected. -/
theorem early_interruption_is_lost :
    ¬ Always step Honest {}
      [.clearConnected, .dropOld, .connectOpens, .listen, .interrupt 1 false, .interruptRest 0,
        .storeAuthorized, .storeConnected] := by
  intro hhonest
  have hend := Runs.always_iff_forall_prefix.mp hhonest _ (List.prefix_refl _)
  exact absurd (hend.connected (by decide)) (by decide)

end Signal2sip.AuthSocket.Impl
