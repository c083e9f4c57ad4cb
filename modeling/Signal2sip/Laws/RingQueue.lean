import Signal2sip.Lib.BoundedQueue
import Signal2sip.Laws.SampleOrder

/-!
# Call after call, the ring buffer is a queue

Calls that do not overlap are one order of the steps of `RingBuffer`, so the invariant of all orders
holds between them, and what is left to say is what a whole call returns (`push_spec`, `pop_spec`).
Both follow their loop to its end. The buffer is then a `BoundedQueue` of one sample less than its
capacity (`Refines`): what lies between tail and head is the queue, and every array that a `pop` fills
is what the queue returns.
-/

namespace Signal2sip.Voip.RingBuffer

variable {capacity_ : Capacity} {s : RingBuffer}

/-! ## The producer's loop -/

/-- What a step of the producer leaves alone. -/
theorem producerStep_kept :
    (producerStep capacity_ s).consumer = s.consumer ∧
      (producerStep capacity_ s).returned = s.returned := by
  unfold producerStep
  split
  · exact ⟨rfl, rfl⟩
  · exact ⟨rfl, rfl⟩
  · simp only
    split <;> exact ⟨rfl, rfl⟩
  · split <;> exact ⟨rfl, rfl⟩

theorem producerSteps_kept (n : Nat) :
    ((producerStep capacity_)^[n] s).consumer = s.consumer ∧
      ((producerStep capacity_)^[n] s).returned = s.returned := by
  induction n with
  | zero => exact ⟨rfl, rfl⟩
  | succ n ih =>
    rw [Function.iterate_succ_apply', producerStep_kept.1, producerStep_kept.2]
    exact ih

theorem producerSteps_idle (hp : s.producer = .idle) (n : Nat) :
    (producerStep capacity_)^[n] s = s :=
  Function.iterate_fixed (by rw [producerStep, hp]) n

theorem producerStep_loadedHead {data : PcmData} {head : UInt64}
    (hp : s.producer = .loadedHead data head) :
    producerStep capacity_ s =
      if samplesFor capacity_ data head s.tail_ = 0 then { s with producer := .idle }
      else
        { s with producer := .copying data head (samplesFor capacity_ data head s.tail_) 0 } := by
  rw [producerStep, hp]

/-- The rest of the loop, with enough steps for it. -/
theorem producerSteps_copying {n : Nat} {data : PcmData} {head samples i : UInt64}
    (hp : s.producer = .copying data head samples i) (hi : i.toNat ≤ samples.toNat)
    (hn : samples.toNat < n + i.toNat) :
    ((producerStep capacity_)^[n] s).producer = .idle ∧
      ((producerStep capacity_)^[n] s).accepted = s.accepted ++ data.samples.take samples.toNat := by
  induction n generalizing s i with
  | zero => omega
  | succ n ih =>
    rw [Function.iterate_succ_apply, producerStep, hp]
    simp only
    by_cases hlt : i < samples
    · have hnext := toNat_succ_of_lt hlt
      have hin := UInt64.lt_iff_toNat_lt.mp hlt
      rw [if_pos hlt]
      exact ih rfl (by omega) (by omega)
    · rw [if_neg hlt, producerSteps_idle rfl]
      exact ⟨rfl, rfl⟩

theorem sound_producerSteps (h : Sound capacity_ s) (n : Nat) :
    Sound capacity_ ((producerStep capacity_)^[n] s) := by
  induction n with
  | zero => exact h
  | succ n ih =>
    rw [Function.iterate_succ_apply']
    exact sound_producerStep ih

/-- A whole `push`. -/
theorem push_spec (h : Sound capacity_ s) (hp : s.producer = .idle) (data : PcmData) :
    Sound capacity_ (push capacity_ s data) ∧
      (push capacity_ s data).producer = .idle ∧
      (push capacity_ s data).consumer = s.consumer ∧
      (push capacity_ s data).returned = s.returned ∧
      (push capacity_ s data).accepted =
        s.accepted ++ data.samples.take (samplesFor capacity_ data s.head_ s.tail_).toNat := by
  have hcalled : step capacity_ s (.push data) = { s with producer := .called data } := by
    rw [step, hp]
  have hkept := @producerSteps_kept capacity_ { s with producer := .called data }
    (data.samples.length + 3)
  have hsamples := (samplesFor_le data h.tail h.head h.le h.room).1
  rw [push, hcalled]
  refine ⟨sound_producerSteps (hcalled ▸ sound_push h data) _, ?_⟩
  obtain ⟨hidle, haccepted⟩ :
      ((producerStep capacity_)^[data.samples.length + 3]
        { s with producer := .called data }).producer = .idle ∧
      ((producerStep capacity_)^[data.samples.length + 3]
        { s with producer := .called data }).accepted =
          s.accepted ++ data.samples.take (samplesFor capacity_ data s.head_ s.tail_).toNat := by
    have hload : producerStep capacity_ { s with producer := .called data } =
        { s with producer := .loadedHead data s.head_ } := rfl
    rw [Function.iterate_succ_apply, Function.iterate_succ_apply, hload, producerStep_loadedHead rfl]
    by_cases hzero : samplesFor capacity_ data s.head_ s.tail_ = 0
    · rw [if_pos hzero, producerSteps_idle rfl, hzero]
      exact ⟨rfl, (List.append_nil _).symm⟩
    · rw [if_neg hzero]
      refine producerSteps_copying rfl (Nat.zero_le _) ?_
      show _ < data.samples.length + 1 + 0
      omega
  exact ⟨hidle, hkept.1, hkept.2, haccepted⟩

/-! ## The consumer's loop -/

/-- What a step of the consumer leaves alone. -/
theorem consumerStep_kept :
    (consumerStep capacity_ s).producer = s.producer ∧
      (consumerStep capacity_ s).accepted = s.accepted := by
  unfold consumerStep
  split
  · exact ⟨rfl, rfl⟩
  · exact ⟨rfl, rfl⟩
  · exact ⟨rfl, rfl⟩
  · split
    · exact ⟨rfl, rfl⟩
    · split <;> exact ⟨rfl, rfl⟩

theorem consumerSteps_kept (n : Nat) :
    ((consumerStep capacity_)^[n] s).producer = s.producer ∧
      ((consumerStep capacity_)^[n] s).accepted = s.accepted := by
  induction n with
  | zero => exact ⟨rfl, rfl⟩
  | succ n ih =>
    rw [Function.iterate_succ_apply', consumerStep_kept.1, consumerStep_kept.2]
    exact ih

theorem consumerSteps_idle (hp : s.consumer = .idle) (n : Nat) :
    (consumerStep capacity_)^[n] s = s :=
  Function.iterate_fixed (by rw [consumerStep, hp]) n

theorem sound_consumerSteps (h : Sound capacity_ s) (n : Nat) :
    Sound capacity_ ((consumerStep capacity_)^[n] s) := by
  induction n with
  | zero => exact h
  | succ n ih =>
    rw [Function.iterate_succ_apply']
    exact sound_consumerStep ih

theorem consumerStep_copying {samples tail toCopy i : UInt64} {data : List Int16}
    (hp : s.consumer = .copying samples tail toCopy i data) :
    consumerStep capacity_ s =
      if i < toCopy then
        { s with
          consumer := .copying samples tail toCopy (i + 1)
            (data ++ [s.buffer_ (slot capacity_ tail i)]) }
      else if i < samples then
        { s with consumer := .copying samples tail toCopy (i + 1) (data ++ [0]) }
      else
        { s with
          tail_ := (tail + toCopy) % capacity_.value
          consumer := .idle
          returned := s.returned ++ [(data, toCopy)] } := by
  rw [consumerStep, hp]

/-- The rest of the loop, with enough steps for it: the array ends as the samples that are there and
zeros behind them. -/
theorem consumerSteps_copying {n : Nat} {samples tail toCopy i : UInt64} {data : List Int16}
    (h : Sound capacity_ s) (hp : s.consumer = .copying samples tail toCopy i data)
    (hzeros : data.drop toCopy.toNat = List.replicate (i.toNat - toCopy.toNat) 0)
    (hn : samples.toNat < n + i.toNat) :
    ((consumerStep capacity_)^[n] s).consumer = .idle ∧
      ((consumerStep capacity_)^[n] s).returned = s.returned ++
        [((s.accepted.drop s.released).take toCopy.toNat ++
          List.replicate (samples.toNat - toCopy.toNat) 0, toCopy)] := by
  induction n generalizing s i data with
  | zero =>
    have hphase := h.consumer
    rw [hp] at hphase
    obtain ⟨-, -, -, hi, -⟩ := hphase
    omega
  | succ n ih =>
    have hphase := h.consumer
    rw [hp] at hphase
    have hstep := sound_consumerStep h
    rw [Function.iterate_succ_apply]
    rw [consumerStep_copying hp] at hstep ⊢
    obtain ⟨-, -, hcopy, hi, hdata, hpopped⟩ := hphase
    by_cases hlt : i < toCopy
    · have hnext := toNat_succ_of_lt hlt
      have hin := UInt64.lt_iff_toNat_lt.mp hlt
      rw [if_pos hlt] at hstep ⊢
      refine ih hstep rfl ?_ (by omega)
      rw [List.drop_eq_nil_of_le (by rw [List.length_append, List.length_singleton]; omega),
        Nat.sub_eq_zero_of_le (by omega)]
      rfl
    · have hin := mt UInt64.lt_iff_toNat_lt.mpr hlt
      rw [if_neg hlt] at hstep ⊢
      by_cases hpad : i < samples
      · have hnext := toNat_succ_of_lt hpad
        rw [if_pos hpad] at hstep ⊢
        refine ih hstep rfl ?_ (by omega)
        rw [List.drop_append_of_le_length (by omega), hzeros, hnext,
          Nat.succ_sub (Nat.not_lt.mp hin), List.replicate_succ']
      · have hdone := mt UInt64.lt_iff_toNat_lt.mpr hpad
        have hi' : i.toNat = samples.toNat := by omega
        rw [if_neg hpad, consumerSteps_idle rfl]
        rw [Nat.min_eq_right (Nat.not_lt.mp hin)] at hpopped
        rw [← hpopped, ← hi', ← hzeros, List.take_append_drop]
        exact ⟨rfl, rfl⟩

/-- A whole `pop`. -/
theorem pop_spec (h : Sound capacity_ s) (hp : s.consumer = .idle) (samples : UInt64) :
    Sound capacity_ (pop capacity_ s samples) ∧
      (pop capacity_ s samples).consumer = .idle ∧
      (pop capacity_ s samples).producer = s.producer ∧
      (pop capacity_ s samples).accepted = s.accepted ∧
      ∃ toCopy : UInt64, toCopy.toNat = min samples.toNat (s.accepted.length - s.released) ∧
        (pop capacity_ s samples).returned = s.returned ++
          [((s.accepted.drop s.released).take toCopy.toNat ++
            List.replicate (samples.toNat - toCopy.toNat) 0, toCopy)] := by
  have hcalled : step capacity_ s (.pop samples) = { s with consumer := .called samples } := by
    rw [step, hp]
  have hkept := @consumerSteps_kept capacity_ { s with consumer := .called samples }
    (samples.toNat + 3)
  have hsound := hcalled ▸ sound_pop h samples
  rw [pop, hcalled]
  refine ⟨sound_consumerSteps hsound _, ?_⟩
  let available := occupied capacity_ s.head_ s.tail_
  let toCopy := if samples < available then samples else available
  have hload : consumerStep capacity_
      (consumerStep capacity_ { s with consumer := .called samples }) =
        { s with consumer := .copying samples s.tail_ toCopy 0 [] } := rfl
  have hsound' := sound_consumerStep (sound_consumerStep hsound)
  rw [hload] at hsound'
  have hsteps : (consumerStep capacity_)^[samples.toNat + 3] { s with consumer := .called samples } =
      (consumerStep capacity_)^[samples.toNat + 1]
        { s with consumer := .copying samples s.tail_ toCopy 0 [] } := by
    rw [Function.iterate_succ_apply, Function.iterate_succ_apply, hload]
  obtain ⟨hidle, hreturned⟩ := consumerSteps_copying (n := samples.toNat + 1) hsound' rfl
    (by rw [List.drop_nil, UInt64.toNat_zero, Nat.zero_sub]; rfl) (Nat.lt_succ_self _)
  have hoccupied := occupied_eq h.tail h.head h.le h.room
  have htoCopy : toCopy.toNat = min samples.toNat (s.accepted.length - s.released) := by
    simp only [toCopy, available]
    split
    · next hlt =>
      rw [UInt64.lt_iff_toNat_lt, hoccupied] at hlt
      omega
    · next hlt =>
      rw [UInt64.lt_iff_toNat_lt, hoccupied] at hlt
      omega
  refine ⟨?_, hkept.1, hkept.2, toCopy, htoCopy, ?_⟩
  · rw [hsteps]
    exact hidle
  · rw [hsteps]
    exact hreturned

/-! ## Between the calls -/

/-- What lies between tail and head is what is accepted and not yet released. -/
theorem Sound.contents_eq (h : Sound capacity_ s) :
    s.contents capacity_ = s.accepted.drop s.released := by
  have hoccupied := occupied_eq h.tail h.head h.le h.room
  have hroom := h.room
  have hle := capacity_.le
  apply List.ext_getElem
  · rw [contents, List.length_map, List.length_range, hoccupied, List.length_drop]
  · intro i hi hi'
    rw [List.length_drop] at hi'
    have hword : (UInt64.ofNat i).toNat = i := UInt64.toNat_ofNat_of_lt' (by
      show i < 2 ^ 64
      omega)
    have hslot : slot capacity_ s.tail_ (UInt64.ofNat i) = (s.released + i) % capacity_.value.toNat := by
      rw [slot_eq h.tail (by omega), hword]
    simp only [contents, List.getElem_map, List.getElem_range, hslot, List.getElem_drop]
    exact h.slots _ _ (Nat.le_add_right _ _) (List.getElem?_eq_getElem (by omega))

/-- No call is going on, and the buffer is the queue `q` after the same calls. -/
structure Refines (capacity_ : Capacity) (s : RingBuffer) (q : BoundedQueue.State Int16) : Prop where
  sound : Sound capacity_ s
  producer : s.producer = .idle
  consumer : s.consumer = .idle
  queue : s.accepted.drop s.released = q.queue
  outputs : s.returned.map Prod.fst = q.outputs

/-- The use of the queue that a call is. -/
def Call.use : Call → BoundedQueue.Use Int16
  | .push data => .push data.samples
  | .pop samples => .pop samples.toNat

variable {q : BoundedQueue.State Int16}

theorem Refines.length_queue (h : Refines capacity_ s q) :
    q.queue.length = s.accepted.length - s.released := by
  rw [← h.queue, List.length_drop]

/-- A `push` copies what fits. -/
theorem Refines.samplesFor_eq (h : Refines capacity_ s q) (data : PcmData) :
    (samplesFor capacity_ data s.head_ s.tail_).toNat =
      min data.samples.length (capacity_.value.toNat - 1 - q.queue.length) := by
  have hsize := size_toNat data
  have havailable := available_eq h.sound.tail h.sound.head h.sound.le h.sound.room
  rw [h.length_queue]
  simp only [samplesFor, gt_iff_lt]
  split
  · next hlt =>
    rw [UInt64.lt_iff_toNat_lt, havailable, hsize] at hlt
    omega
  · next hlt =>
    rw [UInt64.lt_iff_toNat_lt, havailable, hsize] at hlt
    omega

theorem Refines.call (h : Refines capacity_ s q) (c : Call) :
    Refines capacity_ (s.call capacity_ c) (q.use (capacity_.value.toNat - 1) 0 c.use) := by
  cases c with
  | push data =>
    obtain ⟨hsound, hproducer, hconsumer, hreturned, haccepted⟩ := push_spec h.sound h.producer data
    have hreleased : (push capacity_ s data).released = s.released := by
      rw [released, hreturned, released]
    refine ⟨hsound, hproducer, hconsumer.trans h.consumer, ?_, ?_⟩
    · show (push capacity_ s data).accepted.drop (push capacity_ s data).released =
        BoundedQueue.push (capacity_.value.toNat - 1) q.queue data.samples
      rw [haccepted, hreleased, List.drop_append_of_le_length h.sound.le, h.queue, h.samplesFor_eq,
        BoundedQueue.push]
    · show (push capacity_ s data).returned.map Prod.fst = q.outputs
      rw [hreturned, h.outputs]
  | pop samples =>
    obtain ⟨hsound, hconsumer, hproducer, haccepted, toCopy, htoCopy, hreturned⟩ :=
      pop_spec h.sound h.consumer samples
    rw [← h.length_queue] at htoCopy
    have hreleased : (pop capacity_ s samples).released = s.released + toCopy.toNat := by
      rw [released, hreturned, List.map_append, List.sum_append, ← released]
      rfl
    refine ⟨hsound, hproducer.trans h.producer, hconsumer, ?_, ?_⟩
    · show (pop capacity_ s samples).accepted.drop (pop capacity_ s samples).released =
        BoundedQueue.rest q.queue samples.toNat
      rw [haccepted, hreleased, ← List.drop_drop, h.queue, htoCopy, BoundedQueue.rest]
    · show (pop capacity_ s samples).returned.map Prod.fst =
        q.outputs ++ [BoundedQueue.popped 0 q.queue samples.toNat]
      rw [hreturned, List.map_append, h.outputs, h.queue, htoCopy, BoundedQueue.popped]
      rfl

theorem refines_init : Refines capacity_ {} {} :=
  ⟨sound_init, rfl, rfl, rfl, rfl⟩

theorem Refines.calls (h : Refines capacity_ s q) (calls : List Call) :
    Refines capacity_ (calls.foldl (RingBuffer.call capacity_) s)
      ((calls.map Call.use).foldl (BoundedQueue.State.use (capacity_.value.toNat - 1) 0) q) := by
  induction calls generalizing s q with
  | nil => exact h
  | cons c calls ih => exact ih (h.call c)

/-- After any calls, one after the other: the samples between tail and head and the arrays that the
`pop` calls have filled are those of a queue of `capacity_ - 1` samples. Both indices are below the
capacity, and the two numbers that the calls compute with words are the queue's own: how many samples
are stored, and how many more fit. -/
theorem ringBuffer_queue (capacity_ : Capacity) (calls : List Call) :
    let s : RingBuffer := calls.foldl (call capacity_) {}
    let q : BoundedQueue.State Int16 :=
      (calls.map Call.use).foldl (BoundedQueue.State.use (capacity_.value.toNat - 1) 0) {}
    s.contents capacity_ = q.queue ∧ s.returned.map Prod.fst = q.outputs ∧
      s.head_ < capacity_.value ∧ s.tail_ < capacity_.value ∧
      q.queue.length ≤ capacity_.value.toNat - 1 ∧
      (occupied capacity_ s.head_ s.tail_).toNat = q.queue.length ∧
      (capacity_.value - 1 - occupied capacity_ s.head_ s.tail_).toNat =
        capacity_.value.toNat - 1 - q.queue.length := by
  intro s q
  have h : Refines capacity_ s q := refines_init.calls calls
  have hpos := capacity_.pos
  have hroom := h.sound.room
  have hlength := h.length_queue
  refine ⟨h.sound.contents_eq.trans h.queue, h.outputs, ?_, ?_, by omega, ?_, ?_⟩
  · rw [UInt64.lt_iff_toNat_lt, h.sound.head]
    exact Nat.mod_lt _ hpos
  · rw [UInt64.lt_iff_toNat_lt, h.sound.tail]
    exact Nat.mod_lt _ hpos
  · rw [occupied_eq h.sound.tail h.sound.head h.sound.le hroom, hlength]
  · rw [available_eq h.sound.tail h.sound.head h.sound.le hroom, hlength]

end Signal2sip.Voip.RingBuffer
