import Mathlib.Data.List.Basic

/-!
# A bounded queue that never fails

A queue of at most `limit` elements. A push that does not fit keeps the front of what it was given
and drops the rest; a pop of more than there is gets `fill` behind what there is. So both always
return, and a pop returns as many elements as it was asked for.
-/

namespace BoundedQueue

variable {α : Type _}

/-- The first `min(n, free)` of the elements go in. -/
def push (limit : Nat) (queue given : List α) : List α :=
  queue ++ given.take (min given.length (limit - queue.length))

/-- What a pop of `n` returns: the first `min(n, stored)` elements, then `fill` up to `n`. -/
def popped (fill : α) (queue : List α) (n : Nat) : List α :=
  queue.take (min n queue.length) ++ List.replicate (n - min n queue.length) fill

/-- What a pop of `n` leaves. -/
def rest (queue : List α) (n : Nat) : List α := queue.drop (min n queue.length)

/-- A use of the queue: an operation and, for a pop, how much is asked for. -/
inductive Use (α : Type _)
  | push (given : List α)
  | pop (n : Nat)

/-- The queue and what its pops have returned. -/
structure State (α : Type _) where
  queue : List α := []
  outputs : List (List α) := []

def State.use (limit : Nat) (fill : α) (s : State α) : Use α → State α
  | .push given => { s with queue := push limit s.queue given }
  | .pop n => { queue := rest s.queue n, outputs := s.outputs ++ [popped fill s.queue n] }

end BoundedQueue
