import Signal2sip.Lib.Ring
import Signal2sip.Voip.RingBuffer
import Mathlib.Data.Set.Disjoint

/-!
# Samples leave in the order in which they came

In every interleaving of the steps of one producer and one consumer, the samples popped so far are
the first ones accepted, and the rest is in the buffer, in order. The two sides never meet in a slot.

The invariant (`Sound`) counts samples from the start: `released` of them have been given back and
`accepted` of them stored, and the two indices are those counts modulo the capacity. A side's copy of
the other's index is the count at an earlier moment. That is on the safe side for both: the consumer
sees no more samples than there are, and the producer no more free slots.
-/

namespace Signal2sip.Voip.RingBuffer

variable {capacity_ : Capacity} {s : RingBuffer}

/-! ## Indices as counts -/

/-- A slot is a count modulo the capacity; the sum of index and offset does not wrap. -/
theorem slot_eq {index offset : UInt64} {k : Nat}
    (hindex : index.toNat = k % capacity_.value.toNat)
    (hoffset : offset.toNat ≤ capacity_.value.toNat) :
    slot capacity_ index offset = (k + offset.toNat) % capacity_.value.toNat := by
  have hlt := Nat.mod_lt k capacity_.pos
  have hle := capacity_.le
  have hword : (index + offset).toNat = k % capacity_.value.toNat + offset.toNat := by
    rw [UInt64.toNat_add, hindex]
    omega
  rw [slot, UInt64.toNat_mod, hword, Nat.mod_add_mod]

/-- The wrapping formula for the occupied slots is the difference of the counts. -/
theorem occupied_eq {head tail : UInt64} {a b : Nat}
    (htail : tail.toNat = a % capacity_.value.toNat)
    (hhead : head.toNat = b % capacity_.value.toNat) (hab : a ≤ b)
    (hb : b < a + capacity_.value.toNat) : (occupied capacity_ head tail).toNat = b - a := by
  have hpos := capacity_.pos
  have hle := capacity_.le
  have hta := Nat.mod_lt a hpos
  have hhb := Nat.mod_lt b hpos
  have hword : (head - tail + capacity_.value).toNat =
      b % capacity_.value.toNat + capacity_.value.toNat - a % capacity_.value.toNat := by
    rw [UInt64.toNat_add, UInt64.toNat_sub, htail, hhead]
    omega
  rw [occupied, UInt64.toNat_mod, hword, Ring.distance hab hb]

/-- The free slots but one. No subtraction wraps below zero. -/
theorem available_eq {head tail : UInt64} {a b : Nat}
    (htail : tail.toNat = a % capacity_.value.toNat)
    (hhead : head.toNat = b % capacity_.value.toNat) (hab : a ≤ b)
    (hb : b < a + capacity_.value.toNat) :
    (capacity_.value - 1 - occupied capacity_ head tail).toNat =
      capacity_.value.toNat - 1 - (b - a) := by
  have hoccupied := occupied_eq htail hhead hab hb
  have hpos := capacity_.pos
  have hle := capacity_.le
  rw [UInt64.toNat_sub, UInt64.toNat_sub, hoccupied, UInt64.toNat_one]
  omega

theorem size_toNat (data : PcmData) : data.size.toNat = data.samples.length :=
  UInt64.toNat_ofNat_of_lt' data.length_lt

/-- A `push` copies no more samples than it is given and than there are free slots. -/
theorem samplesFor_le {head tail : UInt64} {a b : Nat} (data : PcmData)
    (htail : tail.toNat = a % capacity_.value.toNat)
    (hhead : head.toNat = b % capacity_.value.toNat) (hab : a ≤ b)
    (hb : b < a + capacity_.value.toNat) :
    (samplesFor capacity_ data head tail).toNat ≤ data.samples.length ∧
      b + (samplesFor capacity_ data head tail).toNat < a + capacity_.value.toNat := by
  have hpos := capacity_.pos
  have hsize := size_toNat data
  have havailable := available_eq htail hhead hab hb
  simp only [samplesFor, gt_iff_lt]
  split
  · next h =>
    rw [UInt64.lt_iff_toNat_lt, havailable, hsize] at h
    rw [havailable]
    omega
  · next h =>
    rw [UInt64.lt_iff_toNat_lt, havailable, hsize] at h
    rw [hsize]
    omega

/-! ## The invariant -/

/-- What the producer may rely on: its head is the current one, and the slots it writes are free. -/
def ProducerSound (capacity_ : Capacity) (s : RingBuffer) : PushPhase → Prop
  | .idle => True
  | .called _ => True
  | .loadedHead _ head => head = s.head_
  | .copying data head samples i =>
    head = s.head_ ∧ samples.toNat ≤ data.samples.length ∧
      s.accepted.length + samples.toNat < s.released + capacity_.value.toNat ∧
      i.toNat ≤ samples.toNat ∧
      ∀ j < i.toNat,
        s.buffer_ ((s.accepted.length + j) % capacity_.value.toNat) = data.samples.getD j 0

/-- What the consumer may rely on: its head is one from before, and the samples it copies are there. -/
def ConsumerSound (capacity_ : Capacity) (s : RingBuffer) : PopPhase → Prop
  | .idle => True
  | .called _ => True
  | .loadedHead _ head =>
    ∃ count, s.released ≤ count ∧ count ≤ s.accepted.length ∧
      head.toNat = count % capacity_.value.toNat
  | .copying samples tail toCopy i data =>
    tail = s.tail_ ∧ s.released + toCopy.toNat ≤ s.accepted.length ∧
      toCopy.toNat ≤ samples.toNat ∧ i.toNat ≤ samples.toNat ∧ data.length = i.toNat ∧
      data.take toCopy.toNat = (s.accepted.drop s.released).take (min i.toNat toCopy.toNat)

/-- The indices are counts of samples, and the slots between them hold those samples. -/
structure Sound (capacity_ : Capacity) (s : RingBuffer) : Prop where
  tail : s.tail_.toNat = s.released % capacity_.value.toNat
  head : s.head_.toNat = s.accepted.length % capacity_.value.toNat
  le : s.released ≤ s.accepted.length
  room : s.accepted.length < s.released + capacity_.value.toNat
  slots : ∀ k x, s.released ≤ k → s.accepted[k]? = some x →
    s.buffer_ (k % capacity_.value.toNat) = x
  returned : s.returned.flatMap (fun r => r.1.take r.2.toNat) = s.accepted.take s.released
  producer : ProducerSound capacity_ s s.producer
  consumer : ConsumerSound capacity_ s s.consumer

theorem sound_init : Sound capacity_ {} where
  tail := (Nat.zero_mod _).symm
  head := (Nat.zero_mod _).symm
  le := Nat.le_refl 0
  room := by
    show 0 < 0 + capacity_.value.toNat
    rw [Nat.zero_add]
    exact capacity_.pos
  slots k x _ h := by cases h
  returned := rfl
  producer := trivial
  consumer := trivial

/-! ## One step -/

/-- The distance between an offset in a loop and its bound, as numbers. -/
theorem toNat_succ_of_lt {i n : UInt64} (h : i < n) : (i + 1).toNat = i.toNat + 1 := by
  have hi := UInt64.lt_iff_toNat_lt.mp h
  have hn := n.toNat_lt
  rw [UInt64.toNat_add, UInt64.toNat_one]
  omega

theorem sound_push (h : Sound capacity_ s) (data : PcmData) :
    Sound capacity_ (step capacity_ s (.push data)) := by
  rw [step]
  split
  · exact { h with producer := trivial }
  · exact h

theorem sound_pop (h : Sound capacity_ s) (samples : UInt64) :
    Sound capacity_ (step capacity_ s (.pop samples)) := by
  rw [step]
  split
  · exact { h with consumer := trivial }
  · exact h

/-- The producer copies one sample into a slot outside the window. -/
theorem sound_write (h : Sound capacity_ s) {data : PcmData} {head samples i : UInt64}
    (hphase : ProducerSound capacity_ s (.copying data head samples i)) (hi : i < samples) :
    Sound capacity_ { s with
      buffer_ := Function.update s.buffer_ (slot capacity_ head i) (data.samples.getD i.toNat 0)
      producer := .copying data head samples (i + 1) } := by
  obtain ⟨rfl, hsamples, hroom, -, hwritten⟩ := hphase
  have hin := UInt64.lt_iff_toNat_lt.mp hi
  have hslot : slot capacity_ s.head_ i = (s.accepted.length + i.toNat) % capacity_.value.toNat :=
    slot_eq h.head (by have := h.le; omega)
  refine { h with slots := fun k x hk hx => ?_, producer := ⟨rfl, hsamples, hroom, ?_, ?_⟩ }
  · have hklt : k < s.accepted.length := (List.getElem?_eq_some_iff.mp hx).1
    have hne : k % capacity_.value.toNat ≠
        (s.accepted.length + i.toNat) % capacity_.value.toNat :=
      Ring.slot_ne (show s.released ≤ k from hk) (by have := h.room; omega)
        (Nat.le_add_right_of_le h.le) (by omega) (by omega)
    show Function.update s.buffer_ _ _ _ = x
    rw [hslot, Function.update_of_ne hne]
    exact h.slots k x hk hx
  · rw [toNat_succ_of_lt hi]
    exact hin
  · intro j hj
    rw [toNat_succ_of_lt hi] at hj
    show Function.update s.buffer_ _ _ _ = _
    rw [hslot]
    by_cases heq : j = i.toNat
    · rw [heq, Function.update_self]
    · have hne : (s.accepted.length + j) % capacity_.value.toNat ≠
          (s.accepted.length + i.toNat) % capacity_.value.toNat :=
        Ring.slot_ne (Nat.le_add_right_of_le h.le) (by omega) (Nat.le_add_right_of_le h.le)
          (by omega) (by omega)
      rw [Function.update_of_ne hne]
      exact hwritten j (by omega)

/-- More accepted samples are no less to the consumer. -/
theorem ConsumerSound.accept {phase : PopPhase} {s' : RingBuffer} {l : List Int16}
    (hphase : ConsumerSound capacity_ s phase) (htail : s'.tail_ = s.tail_)
    (hreleased : s'.released = s.released) (haccepted : s'.accepted = s.accepted ++ l) :
    ConsumerSound capacity_ s' phase := by
  have hlength : s.accepted.length ≤ s'.accepted.length := by
    rw [haccepted, List.length_append]
    exact Nat.le_add_right _ _
  cases phase with
  | idle => trivial
  | called samples => trivial
  | loadedHead samples head =>
    obtain ⟨count, hle, hle', hhead⟩ := hphase
    exact ⟨count, hreleased ▸ hle, hle'.trans hlength, hhead⟩
  | copying samples tail toCopy i data =>
    obtain ⟨htail', hcopy, hsamples, hi, hdata, hpopped⟩ := hphase
    refine ⟨htail'.trans htail.symm, hreleased ▸ hcopy.trans hlength, hsamples, hi, hdata, ?_⟩
    rw [hpopped, hreleased, haccepted, List.drop_append_of_le_length (by omega),
      List.take_append_of_le_length (by rw [List.length_drop]; omega)]

/-- The store of the head publishes what was copied. -/
theorem sound_publish (h : Sound capacity_ s) {data : PcmData} {head samples i : UInt64}
    (hphase : ProducerSound capacity_ s (.copying data head samples i)) (hi : ¬ i < samples) :
    Sound capacity_ { s with
      head_ := (head + samples) % capacity_.value
      producer := .idle
      accepted := s.accepted ++ data.samples.take samples.toNat } := by
  obtain ⟨rfl, hsamples, hroom, hle, hwritten⟩ := hphase
  rw [UInt64.lt_iff_toNat_lt] at hi
  have hcopied : i.toNat = samples.toNat := by omega
  have hlength : (s.accepted ++ data.samples.take samples.toNat).length =
      s.accepted.length + samples.toNat := by
    rw [List.length_append, List.length_take, Nat.min_eq_left hsamples]
  refine ⟨h.tail, ?_, ?_, ?_, fun k x hk hx => ?_, ?_, trivial, h.consumer.accept rfl rfl rfl⟩
  · rw [hlength]
    exact slot_eq h.head (by have := h.le; omega)
  · rw [hlength]
    exact Nat.le_add_right_of_le h.le
  · rw [hlength]
    exact hroom
  · by_cases hold : k < s.accepted.length
    · rw [List.getElem?_append_left hold] at hx
      exact h.slots k x hk hx
    · -- one of the samples that this call has copied
      rw [List.getElem?_append_right (by omega), List.getElem?_take] at hx
      split at hx
      · next hnew =>
        have hslot := hwritten (k - s.accepted.length) (by omega)
        rw [Nat.add_sub_cancel' (by omega), List.getD_eq_getElem?_getD, hx] at hslot
        exact hslot
      · cases hx
  · exact h.returned.trans (List.take_append_of_le_length h.le).symm

/-- The consumer copies one sample out of a slot of the window. -/
theorem sound_read (h : Sound capacity_ s) {samples tail toCopy i : UInt64} {data : List Int16}
    (hphase : ConsumerSound capacity_ s (.copying samples tail toCopy i data)) (hi : i < toCopy) :
    Sound capacity_ { s with
      consumer := .copying samples tail toCopy (i + 1)
        (data ++ [s.buffer_ (slot capacity_ tail i)]) } := by
  obtain ⟨rfl, hcopy, hsamples, -, hdata, hpopped⟩ := hphase
  have hin := UInt64.lt_iff_toNat_lt.mp hi
  have hslot : slot capacity_ s.tail_ i = (s.released + i.toNat) % capacity_.value.toNat :=
    slot_eq h.tail (by have := h.room; omega)
  have hlt : s.released + i.toNat < s.accepted.length := by omega
  have hread : s.buffer_ (slot capacity_ s.tail_ i) = s.accepted[s.released + i.toNat] := by
    rw [hslot]
    exact h.slots _ _ (Nat.le_add_right _ _) (List.getElem?_eq_getElem hlt)
  rw [Nat.min_eq_left hin.le, List.take_of_length_le (by omega)] at hpopped
  refine { h with consumer := ⟨rfl, hcopy, hsamples, ?_, ?_, ?_⟩ }
  · rw [toNat_succ_of_lt hi]
    omega
  · rw [toNat_succ_of_lt hi, List.length_append, hdata, List.length_singleton]
  · rw [toNat_succ_of_lt hi, Nat.min_eq_left hin, List.take_of_length_le (by simp; omega), hread]
    show data ++ [s.accepted[s.released + i.toNat]] =
      (s.accepted.drop s.released).take (i.toNat + 1)
    rw [List.take_add_one, ← hpopped, List.getElem?_drop, List.getElem?_eq_getElem hlt]
    rfl

/-- Padding goes behind the samples. -/
theorem sound_pad (h : Sound capacity_ s) {samples tail toCopy i : UInt64} {data : List Int16}
    (hphase : ConsumerSound capacity_ s (.copying samples tail toCopy i data)) (hi : ¬ i < toCopy)
    (hi' : i < samples) :
    Sound capacity_ { s with consumer := .copying samples tail toCopy (i + 1) (data ++ [0]) } := by
  obtain ⟨htail, hcopy, hsamples, -, hdata, hpopped⟩ := hphase
  have hin := UInt64.lt_iff_toNat_lt.mp hi'
  rw [UInt64.lt_iff_toNat_lt] at hi
  refine { h with consumer := ⟨htail, hcopy, hsamples, ?_, ?_, ?_⟩ }
  · rw [toNat_succ_of_lt hi']
    exact hin
  · rw [toNat_succ_of_lt hi', List.length_append, hdata, List.length_singleton]
  · rw [toNat_succ_of_lt hi', List.take_append_of_le_length (by omega), hpopped,
      Nat.min_eq_right (by omega), Nat.min_eq_right (by omega)]
    rfl

/-- Slots that are given back are free to the producer. -/
theorem ProducerSound.release {phase : PushPhase} {s' : RingBuffer}
    (hphase : ProducerSound capacity_ s phase) (hhead : s'.head_ = s.head_)
    (hbuffer : s'.buffer_ = s.buffer_) (haccepted : s'.accepted = s.accepted)
    (hreleased : s.released ≤ s'.released) : ProducerSound capacity_ s' phase := by
  cases phase with
  | idle => trivial
  | called data => trivial
  | loadedHead data head => exact Eq.trans hphase hhead.symm
  | copying data head samples i =>
    obtain ⟨hhead', hsamples, hroom, hi, hwritten⟩ := hphase
    rw [ProducerSound, haccepted, hbuffer]
    exact ⟨hhead'.trans hhead.symm, hsamples, by omega, hi, hwritten⟩

/-- The store of the tail gives the slots back. -/
theorem sound_release (h : Sound capacity_ s) {samples tail toCopy i : UInt64} {data : List Int16}
    (hphase : ConsumerSound capacity_ s (.copying samples tail toCopy i data))
    (hi : ¬ i < toCopy) :
    Sound capacity_ { s with
      tail_ := (tail + toCopy) % capacity_.value
      consumer := .idle
      returned := s.returned ++ [(data, toCopy)] } := by
  obtain ⟨rfl, hcopy, hsamples, -, hdata, hpopped⟩ := hphase
  rw [UInt64.lt_iff_toNat_lt] at hi
  rw [Nat.min_eq_right (by omega)] at hpopped
  have hreleased : released { s with
      tail_ := (s.tail_ + toCopy) % capacity_.value
      consumer := .idle
      returned := s.returned ++ [(data, toCopy)] } = s.released + toCopy.toNat := by
    simp [released]
  have hroom := h.room
  refine ⟨?_, h.head, ?_, ?_, fun k x hk hx => h.slots k x ?_ hx, ?_,
    h.producer.release rfl rfl rfl (by omega), trivial⟩
  · rw [hreleased]
    exact slot_eq h.tail (by omega)
  · rw [hreleased]
    exact hcopy
  · rw [hreleased]
    show s.accepted.length < _
    omega
  · omega
  · rw [hreleased, List.flatMap_append, List.take_add, h.returned, ← hpopped]
    simp

theorem sound_producerStep (h : Sound capacity_ s) : Sound capacity_ (producerStep capacity_ s) := by
  have hphase := h.producer
  unfold producerStep
  cases hp : s.producer with
  | idle => exact h
  | called data => exact { h with producer := rfl }
  | loadedHead data head =>
    rw [hp] at hphase
    obtain rfl : head = s.head_ := hphase
    obtain ⟨hle, hroom⟩ := samplesFor_le data h.tail h.head h.le h.room
    simp only
    split
    · exact { h with producer := trivial }
    · exact { h with producer := ⟨rfl, hle, hroom, Nat.zero_le _, fun j hj => by cases hj⟩ }
  | copying data head samples i =>
    rw [hp] at hphase
    simp only
    split
    · next hi => exact sound_write h hphase hi
    · next hi => exact sound_publish h hphase hi

theorem sound_consumerStep (h : Sound capacity_ s) : Sound capacity_ (consumerStep capacity_ s) := by
  have hphase := h.consumer
  unfold consumerStep
  cases hp : s.consumer with
  | idle => exact h
  | called samples =>
    exact { h with consumer := ⟨s.accepted.length, h.le, Nat.le_refl _, h.head⟩ }
  | loadedHead samples head =>
    rw [hp] at hphase
    obtain ⟨count, hle, hle', hhead⟩ := hphase
    have hoccupied := occupied_eq h.tail hhead hle (by have := h.room; omega)
    simp only
    split
    · next hlt =>
      rw [UInt64.lt_iff_toNat_lt, hoccupied] at hlt
      have hcopy : s.released + samples.toNat ≤ s.accepted.length := by omega
      exact { h with consumer := ⟨rfl, hcopy, Nat.le_refl _, Nat.zero_le _, rfl, by simp⟩ }
    · next hlt =>
      rw [UInt64.lt_iff_toNat_lt, hoccupied] at hlt
      have hcopy : s.released + (occupied capacity_ head s.tail_).toNat ≤ s.accepted.length := by
        omega
      exact { h with consumer := ⟨rfl, hcopy, by omega, Nat.zero_le _, rfl, by simp⟩ }
  | copying samples tail toCopy i data =>
    rw [hp] at hphase
    simp only
    split
    · next hi => exact sound_read h hphase hi
    · next hi =>
      split
      · next hi' => exact sound_pad h hphase hi hi'
      · exact sound_release h hphase hi

theorem sound_step (h : Sound capacity_ s) (e : Event) : Sound capacity_ (step capacity_ s e) := by
  cases e with
  | push data => exact sound_push h data
  | producer => exact sound_producerStep h
  | pop samples => exact sound_pop h samples
  | consumer => exact sound_consumerStep h

/-! ## The law -/

/-- What was popped is what was accepted, as far as it goes. -/
theorem Sound.popped_eq (h : Sound capacity_ s) :
    ∃ n, s.popped = s.accepted.take (s.released + n) ∧ s.released + n ≤ s.accepted.length := by
  have hphase := h.consumer
  cases hp : s.consumer with
  | copying samples tail toCopy i data =>
    rw [hp] at hphase
    obtain ⟨-, hcopy, -, -, -, hpopped⟩ := hphase
    refine ⟨min i.toNat toCopy.toNat, ?_, by omega⟩
    rw [popped, hp, poppedNow, h.returned, hpopped, List.take_add]
  | _ =>
    refine ⟨0, ?_, h.le⟩
    rw [popped, hp, h.returned]
    exact List.append_nil _

/-- A slot still to be read has a sample of the window. -/
theorem Sound.toRead_slot (h : Sound capacity_ s) {k : Nat} (hread : k ∈ s.toRead capacity_) :
    ∃ l, s.released ≤ l ∧ l < s.accepted.length ∧ k = l % capacity_.value.toNat := by
  have hconsumer := h.consumer
  have hroom := h.room
  unfold toRead at hread
  cases hp : s.consumer with
  | copying samples tail toCopy i data =>
    rw [hp] at hread hconsumer
    obtain ⟨rfl, hcopy, -⟩ := hconsumer
    obtain ⟨j, -, hj, rfl⟩ := hread
    rw [UInt64.lt_iff_toNat_lt] at hj
    exact ⟨s.released + j.toNat, Nat.le_add_right _ _, by omega, slot_eq h.tail (by omega)⟩
  | _ => rw [hp] at hread; cases hread

/-- A slot that may be written is one of the free ones behind the window. -/
theorem Sound.mayWrite_slot (h : Sound capacity_ s) {k : Nat} (hwrite : k ∈ s.mayWrite capacity_) :
    ∃ m, s.accepted.length ≤ m ∧ m < s.released + capacity_.value.toNat ∧
      k = m % capacity_.value.toNat := by
  have hproducer := h.producer
  have hle := h.le
  have hfree {j : UInt64} (hj : s.accepted.length + j.toNat < s.released + capacity_.value.toNat)
      (hslot : k = slot capacity_ s.head_ j) :
      ∃ m, s.accepted.length ≤ m ∧ m < s.released + capacity_.value.toNat ∧
        k = m % capacity_.value.toNat :=
    ⟨s.accepted.length + j.toNat, Nat.le_add_right _ _, hj, hslot.trans (slot_eq h.head (by omega))⟩
  have hfits (data : PcmData) {j : UInt64}
      (hj : j < samplesFor capacity_ data s.head_ s.tail_) :
      s.accepted.length + j.toNat < s.released + capacity_.value.toNat := by
    have hspace := (samplesFor_le data h.tail h.head h.le h.room).2
    rw [UInt64.lt_iff_toNat_lt] at hj
    omega
  unfold mayWrite at hwrite
  cases hp : s.producer with
  | idle => rw [hp] at hwrite; cases hwrite
  | called data =>
    rw [hp] at hwrite
    obtain ⟨j, hj, hslot⟩ := hwrite
    exact hfree (hfits data hj) hslot
  | loadedHead data head =>
    rw [hp] at hwrite hproducer
    obtain rfl : head = s.head_ := hproducer
    obtain ⟨j, hj, hslot⟩ := hwrite
    exact hfree (hfits data hj) hslot
  | copying data head samples i =>
    rw [hp] at hwrite hproducer
    obtain ⟨rfl, -, hspace, -⟩ := hproducer
    obtain ⟨j, hj, hslot⟩ := hwrite
    rw [UInt64.lt_iff_toNat_lt] at hj
    exact hfree (by omega) hslot

/-- A slot still to be read is in the window; a slot that may be written is outside. -/
theorem Sound.disjoint (h : Sound capacity_ s) :
    Disjoint (s.toRead capacity_) (s.mayWrite capacity_) := by
  rw [Set.disjoint_left]
  intro k hread hwrite
  have hroom := h.room
  obtain ⟨l, hl, hl', rfl⟩ := h.toRead_slot hread
  obtain ⟨m, hm, hm', hslot⟩ := h.mayWrite_slot hwrite
  exact Ring.slot_ne hl (by omega) (hl.trans (hl'.le.trans hm)) hm' (by omega) hslot

/-- In every state of every interleaving: the samples popped so far are a prefix of those accepted so
far; those accepted and not yet popped are in their slots; and no slot that the consumer has still to
read is one that the producer may write. -/
theorem sampleOrder (capacity_ : Capacity) (events : List Event) :
    Runs.Always (step capacity_) (fun s =>
        s.popped <+: s.accepted ∧
        (∀ k x, s.popped.length ≤ k → s.accepted[k]? = some x →
          s.buffer_ (k % capacity_.value.toNat) = x) ∧
        Disjoint (s.toRead capacity_) (s.mayWrite capacity_)) {} events := by
  have hsound : Runs.Always (step capacity_) (Sound capacity_) {} events :=
    .of_keep (fun s e h => sound_step h e) sound_init
  apply hsound.imp
  intro s h
  obtain ⟨n, hpopped, hn⟩ := h.popped_eq
  refine ⟨hpopped ▸ List.take_prefix _ _, fun k x hk hx => h.slots k x ?_ hx, h.disjoint⟩
  rw [hpopped, List.length_take, Nat.min_eq_left hn] at hk
  omega

/-- Three samples into a buffer of three slots: one slot stays free, so two are accepted, and a `pop`
of three is padded. -/
example :
    let three : Capacity := ⟨3, by decide, by decide⟩
    let calls : List Event :=
      .push ⟨[7, 8, 9], by decide⟩ :: List.replicate 5 .producer ++
        .pop 3 :: List.replicate 6 .consumer
    (Runs.final (step three) {} calls).returned = [([7, 8, 0], 2)] := by
  rfl

end Signal2sip.Voip.RingBuffer
