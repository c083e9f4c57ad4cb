import Signal2sip.Lib.Run
import Mathlib.Algebra.GroupWithZero.Nat
import Mathlib.Data.List.Basic
import Mathlib.Data.Set.BooleanAlgebra
import Mathlib.Logic.Function.Basic
import Mathlib.Logic.Function.Iterate
import Mathlib.Order.CompletePartialOrder

/-!
# `RingBuffer`

The ring buffer of `ring_buffer.h`, one memory access at a time. One producer calls `push` and one
consumer calls `pop`; each call is a sequence of steps, and a step is a load of an index, the copy of
one element, or a store of an index. Memory is sequentially consistent: the steps of the two sides
interleave in any order, and a step sees all the steps before it.

A side keeps the indices it has loaded, so what it works with can be out of date. `size_t` is a
64-bit word and wraps.

`accepted` and `returned` are what the two sides have done so far: the samples of the `push` calls
that were not cut off, in the order of their stores, and the arrays that the `pop` calls have filled,
each with the number of samples that are not padding.
-/

namespace Signal2sip.Voip

/-- A capacity of at least one sample and at most `2^63`, so that an index and a capacity add up
without wrapping. -/
structure Capacity where
  value : UInt64
  pos : 0 < value.toNat
  le : value.toNat ≤ 2 ^ 63

/-- The array of a `push` call; a `size_t` counts its samples. -/
structure PcmData where
  samples : List Int16
  length_lt : samples.length < 2 ^ 64

def PcmData.size (data : PcmData) : UInt64 := UInt64.ofNat data.samples.length

/-- Where the producer is. -/
inductive PushPhase
  | idle
  | called (data : PcmData)
  | loadedHead (data : PcmData) (head : UInt64)
  | copying (data : PcmData) (head samples i : UInt64)

/-- Where the consumer is; `data` is the part of the caller's array that is filled. -/
inductive PopPhase
  | idle
  | called (samples : UInt64)
  | loadedHead (samples head : UInt64)
  | copying (samples tail toCopy i : UInt64) (data : List Int16)

structure RingBuffer where
  buffer_ : Nat → Int16 := fun _ => 0
  head_ : UInt64 := 0
  tail_ : UInt64 := 0
  producer : PushPhase := .idle
  consumer : PopPhase := .idle
  accepted : List Int16 := []
  returned : List (List Int16 × UInt64) := []

namespace RingBuffer

variable (capacity_ : Capacity) (s : RingBuffer)

/-- An index into `buffer_`. -/
def slot (index offset : UInt64) : Nat := ((index + offset) % capacity_.value).toNat

/-- `(head - tail + capacity_) % capacity_`. -/
def occupied (head tail : UInt64) : UInt64 :=
  (head - tail + capacity_.value) % capacity_.value

/-- The number of samples that a `push` copies. -/
def samplesFor (data : PcmData) (head tail : UInt64) : UInt64 :=
  let available := capacity_.value - 1 - occupied capacity_ head tail
  if data.size > available then available else data.size

/-- The next step of `push`. -/
def producerStep : RingBuffer :=
  match s.producer with
  | .idle => s
  | .called data => { s with producer := .loadedHead data s.head_ }
  | .loadedHead data head =>
    let samples := samplesFor capacity_ data head s.tail_
    if samples = 0 then { s with producer := .idle }
    else { s with producer := .copying data head samples 0 }
  | .copying data head samples i =>
    if i < samples then
      { s with
        buffer_ := Function.update s.buffer_ (slot capacity_ head i) (data.samples.getD i.toNat 0)
        producer := .copying data head samples (i + 1) }
    else
      { s with
        head_ := (head + samples) % capacity_.value
        producer := .idle
        accepted := s.accepted ++ data.samples.take samples.toNat }

/-- The next step of `pop`. -/
def consumerStep : RingBuffer :=
  match s.consumer with
  | .idle => s
  | .called samples => { s with consumer := .loadedHead samples s.head_ }
  | .loadedHead samples head =>
    let tail := s.tail_
    let available := occupied capacity_ head tail
    let toCopy := if samples < available then samples else available
    { s with consumer := .copying samples tail toCopy 0 [] }
  | .copying samples tail toCopy i data =>
    if i < toCopy then
      { s with
        consumer := .copying samples tail toCopy (i + 1) (data ++ [s.buffer_ (slot capacity_ tail i)]) }
    else if i < samples then
      { s with consumer := .copying samples tail toCopy (i + 1) (data ++ [0]) }
    else
      { s with
        tail_ := (tail + toCopy) % capacity_.value
        consumer := .idle
        returned := s.returned ++ [(data, toCopy)] }

/-- What can happen next: a call on a side that is in no call, or a step of one that is. -/
inductive Event
  | push (data : PcmData)
  | producer
  | pop (samples : UInt64)
  | consumer

def step : Event → RingBuffer
  | .push data =>
    match s.producer with
    | .idle => { s with producer := .called data }
    | _ => s
  | .producer => producerStep capacity_ s
  | .pop samples =>
    match s.consumer with
    | .idle => { s with consumer := .called samples }
    | _ => s
  | .consumer => consumerStep capacity_ s

/-- The samples that a `pop` call in progress has copied. -/
def poppedNow : PopPhase → List Int16
  | .copying _ _ toCopy _ data => data.take toCopy.toNat
  | _ => []

/-- The samples popped so far that are not padding, in the order in which they were popped. -/
def popped : List Int16 :=
  s.returned.flatMap (fun r => r.1.take r.2.toNat) ++ poppedNow s.consumer

/-- The number of samples whose slots the consumer has given back. -/
def released : Nat := (s.returned.map fun r => r.2.toNat).sum

/-- The slots that the consumer has still to read in this call. -/
def toRead : Set Nat :=
  match s.consumer with
  | .copying _ tail toCopy i _ => {k | ∃ j, i ≤ j ∧ j < toCopy ∧ k = slot capacity_ tail j}
  | _ => ∅

/-- The slots that the producer may write in this call. -/
def mayWrite : Set Nat :=
  match s.producer with
  | .idle => ∅
  | .called data =>
    {k | ∃ j, j < samplesFor capacity_ data s.head_ s.tail_ ∧ k = slot capacity_ s.head_ j}
  | .loadedHead data head =>
    {k | ∃ j, j < samplesFor capacity_ data head s.tail_ ∧ k = slot capacity_ head j}
  | .copying _ head samples _ => {k | ∃ j, j < samples ∧ k = slot capacity_ head j}

/-! ## Whole calls

A call with nothing in between takes the steps of its side until it is over. A side that is in no call
stays as it is, so more steps than a call needs do no harm.
-/

/-- `push`: two loads, a copy for each sample, and the store of the head. -/
def push (data : PcmData) : RingBuffer :=
  (producerStep capacity_)^[data.samples.length + 3] (step capacity_ s (.push data))

/-- `pop`: two loads, an element of the caller's array at a time, and the store of the tail. -/
def pop (samples : UInt64) : RingBuffer :=
  (consumerStep capacity_)^[samples.toNat + 3] (step capacity_ s (.pop samples))

inductive Call
  | push (data : PcmData)
  | pop (samples : UInt64)

def call : Call → RingBuffer
  | .push data => push capacity_ s data
  | .pop samples => pop capacity_ s samples

/-- The samples in the slots from the tail to the head. -/
def contents : List Int16 :=
  (List.range (occupied capacity_ s.head_ s.tail_).toNat).map fun i =>
    s.buffer_ (slot capacity_ s.tail_ (UInt64.ofNat i))

end RingBuffer

end Signal2sip.Voip
