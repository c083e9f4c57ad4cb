import Signal2sip.Laws.RingQueue
import Signal2sip.Lib.Portions
import Signal2sip.Voip.AudioBridge

/-!
# What a ring buffer loses, and how long it keeps the rest

The consumer of a `Channel` pops the same number of samples every time, so what it has given back is
`Portions.served` of the counts that its pops have seen, stale as they may be (`Tracked`). That decides two
things, in every interleaving of the steps of the two sides:

- `nothingLost_step_iff`: the buffer drops nothing exactly when, at the moment a `push` loads the tail,
  what came in since any earlier pop is less than the capacity and what the later pops take;
- `delivered`: once enough pops are over, every sample that had been accepted before them is out.
-/

namespace Signal2sip.Voip

open RingBuffer (Sound Event released occupied samplesFor)
open Portions (Seen served)

variable {capacity_ : Capacity} {portion : UInt64} {c : Channel} {e : Event}

namespace Channel

/-! ## The invariant -/

/-- What a `pop` that is under way has seen, and how much it copies. -/
def PopTracked (capacity_ : Capacity) (portion : UInt64) (c : Channel) : PopPhase → Prop
  | .idle => True
  | .called samples => samples = portion
  | .loadedHead samples head =>
    samples = portion ∧ Seen c.loads c.load ∧ c.load ≤ c.ring.accepted.length ∧
      head.toNat = c.load % capacity_.value.toNat
  | .copying samples _ toCopy i data =>
    samples = portion ∧ Seen c.loads c.load ∧ c.load ≤ c.ring.accepted.length ∧
      toCopy.toNat = min portion.toNat (c.load - c.ring.released) ∧
      data.drop toCopy.toNat = List.replicate (i.toNat - toCopy.toNat) 0

/-- An array of a portion, with silence behind its samples. -/
structure IsFrame (portion : UInt64) (frame : List Int16 × UInt64) : Prop where
  length : frame.1.length = portion.toNat
  silence : frame.1.drop frame.2.toNat = List.replicate (portion.toNat - frame.2.toNat) 0

/-- Every pop takes what it has seen, a portion at most, and fills its array. -/
structure Tracked (capacity_ : Capacity) (portion : UInt64) (c : Channel) : Prop where
  sound : Sound capacity_ c.ring
  taken : ∀ k, ((c.ring.returned.take k).map fun r => r.2.toNat).sum =
    served portion.toNat (c.loads.take k)
  length : c.loads.length = c.ring.returned.length
  frames : ∀ frame ∈ c.ring.returned, IsFrame portion frame
  seen : Seen c.loads c.ring.accepted.length
  pop : PopTracked capacity_ portion c c.ring.consumer

theorem tracked_init (capacity_ : Capacity) (portion : UInt64) : Tracked capacity_ portion {} where
  sound := RingBuffer.sound_init
  taken k := by simp
  length := rfl
  frames := by simp
  seen := .nil _
  pop := trivial

theorem Tracked.released_eq (h : Tracked capacity_ portion c) :
    c.ring.released = served portion.toNat c.loads := by
  have htaken := h.taken c.loads.length
  rwa [List.take_length, h.length, List.take_length] at htaken

/-- What the steps of the producer leave alone is all that a pop relies on, but for more samples. -/
theorem PopTracked.accept {c' : Channel} {phase : PopPhase}
    (h : PopTracked capacity_ portion c phase) (hload : c'.load = c.load) (hloads : c'.loads = c.loads)
    (hreleased : c'.ring.released = c.ring.released)
    (haccepted : c.ring.accepted.length ≤ c'.ring.accepted.length) :
    PopTracked capacity_ portion c' phase := by
  cases phase with
  | idle => trivial
  | called samples => exact h
  | loadedHead samples head =>
    obtain ⟨hsamples, hseen, hle, hhead⟩ := h
    rw [PopTracked, hload, hloads]
    exact ⟨hsamples, hseen, hle.trans haccepted, hhead⟩
  | copying samples tail toCopy i data =>
    obtain ⟨hsamples, hseen, hle, hcopy, hzeros⟩ := h
    rw [PopTracked, hload, hloads, hreleased]
    exact ⟨hsamples, hseen, hle.trans haccepted, hcopy, hzeros⟩

/-- The producer only ever accepts more. -/
theorem producerStep_accepted (s : RingBuffer) :
    s.accepted <+: (RingBuffer.producerStep capacity_ s).accepted := by
  unfold RingBuffer.producerStep
  split
  · exact List.prefix_refl _
  · exact List.prefix_refl _
  · simp only
    split <;> exact List.prefix_refl _
  · split
    · exact List.prefix_refl _
    · exact List.prefix_append _ _

/-- A step that touches neither the consumer nor what was returned keeps the invariant. -/
theorem Tracked.of_kept {c' : Channel} (h : Tracked capacity_ portion c)
    (hsound : Sound capacity_ c'.ring) (hload : c'.load = c.load) (hloads : c'.loads = c.loads)
    (hconsumer : c'.ring.consumer = c.ring.consumer) (hreturned : c'.ring.returned = c.ring.returned)
    (haccepted : c.ring.accepted <+: c'.ring.accepted) : Tracked capacity_ portion c' where
  sound := hsound
  taken k := by rw [hreturned, hloads, h.taken]
  length := by rw [hreturned, hloads, h.length]
  frames := by
    rw [hreturned]
    exact h.frames
  seen := by
    rw [hloads]
    exact h.seen.mono haccepted.length_le
  pop := by
    rw [hconsumer]
    refine h.pop.accept hload hloads ?_ haccepted.length_le
    rw [released, hreturned, released]

theorem tracked_push (h : Tracked capacity_ portion c) (data : PcmData) :
    Tracked capacity_ portion (c.step capacity_ (.push data)) := by
  have hsound := RingBuffer.sound_push h.sound data
  cases hp : c.ring.producer with
  | idle =>
    have hring : RingBuffer.step capacity_ c.ring (.push data) =
        { c.ring with producer := .called data } := by rw [RingBuffer.step, hp]
    rw [hring] at hsound
    simp only [step, hp, hring]
    exact h.of_kept hsound rfl rfl rfl rfl (List.prefix_refl _)
  | _ =>
    have hring : RingBuffer.step capacity_ c.ring (.push data) = c.ring := by
      rw [RingBuffer.step, hp]
    simp only [step, hp, hring]
    exact h

theorem step_producer : c.step capacity_ .producer =
    { c with ring := RingBuffer.producerStep capacity_ c.ring } := rfl

theorem tracked_producer (h : Tracked capacity_ portion c) :
    Tracked capacity_ portion (c.step capacity_ .producer) := by
  obtain ⟨hconsumer, hreturned⟩ := @RingBuffer.producerStep_kept capacity_ c.ring
  rw [step_producer]
  exact h.of_kept (RingBuffer.sound_producerStep h.sound) rfl rfl hconsumer hreturned
    (producerStep_accepted c.ring)

theorem step_pop (samples : UInt64) : c.step capacity_ (.pop samples) =
    { c with ring := RingBuffer.step capacity_ c.ring (.pop samples) } := rfl

theorem tracked_pop (h : Tracked capacity_ portion c) :
    Tracked capacity_ portion (c.step capacity_ (.pop portion)) := by
  have hsound := RingBuffer.sound_pop h.sound portion
  rw [step_pop]
  cases hp : c.ring.consumer with
  | idle =>
    have hring : RingBuffer.step capacity_ c.ring (.pop portion) =
        { c.ring with consumer := .called portion } := by rw [RingBuffer.step, hp]
    rw [hring] at hsound ⊢
    exact ⟨hsound, h.taken, h.length, h.frames, h.seen, rfl⟩
  | _ =>
    have hring : RingBuffer.step capacity_ c.ring (.pop portion) = c.ring := by
      rw [RingBuffer.step, hp]
    rw [hring]
    exact h

/-- What a step of the consumer leaves alone. -/
theorem step_consumer (capacity_ : Capacity) (c : Channel) :
    (c.step capacity_ .consumer).given = c.given ∧
      (c.step capacity_ .consumer).ring = RingBuffer.consumerStep capacity_ c.ring := by
  simp only [step]
  split <;> exact ⟨rfl, rfl⟩

/-- The step that ends a pop. -/
theorem step_release (capacity_ : Capacity) {samples tail toCopy i : UInt64} {data : List Int16}
    (hp : c.ring.consumer = .copying samples tail toCopy i data) (hi : ¬ i < toCopy)
    (hi' : ¬ i < samples) :
    c.step capacity_ .consumer =
      { c with
        ring := RingBuffer.consumerStep capacity_ c.ring
        loads := c.loads ++ [c.load] } ∧
      (RingBuffer.consumerStep capacity_ c.ring).returned = c.ring.returned ++ [(data, toCopy)] ∧
      (RingBuffer.consumerStep capacity_ c.ring).consumer = .idle := by
  have hring := @RingBuffer.consumerStep_copying capacity_ c.ring _ _ _ _ _ hp
  rw [if_neg hi, if_neg hi'] at hring
  refine ⟨?_, by rw [hring], by rw [hring]⟩
  simp only [step, RingBuffer.step, hp, hring]

/-- The end of a pop. -/
theorem tracked_release (h : Tracked capacity_ portion c) {samples tail toCopy i : UInt64}
    {data : List Int16} (hp : c.ring.consumer = .copying samples tail toCopy i data)
    (hsound : Sound capacity_ (RingBuffer.consumerStep capacity_ c.ring)) (hi : ¬ i < toCopy)
    (hi' : ¬ i < samples) : Tracked capacity_ portion (c.step capacity_ .consumer) := by
  obtain ⟨hstep, hreturned, hidle⟩ := step_release capacity_ hp hi hi'
  have haccepted := (@RingBuffer.consumerStep_kept capacity_ c.ring).2
  have hpop := h.pop
  have hconsumer := h.sound.consumer
  rw [hp] at hpop hconsumer
  obtain ⟨rfl, hseen, hle, hcopy, hzeros⟩ := hpop
  obtain ⟨-, -, -, hend, hdata, -⟩ := hconsumer
  have hdone := mt UInt64.lt_iff_toNat_lt.mpr hi'
  have hfull : i.toNat = samples.toNat := by omega
  rw [hstep]
  refine ⟨hsound, fun k => ?_, ?_, ?_, ?_, ?_⟩
  · rw [hreturned]
    rcases Nat.lt_or_ge c.ring.returned.length k with hk | hk
    · have hsum := h.released_eq
      rw [List.take_of_length_le (by simp; omega),
        List.take_of_length_le (by rw [List.length_append, h.length]; simp; omega),
        Portions.served_concat, List.map_append, List.sum_append, ← hsum, ← hcopy]
      simp [released]
    · rw [List.take_append_of_le_length hk, List.take_append_of_le_length (h.length ▸ hk), h.taken]
  · rw [hreturned, List.length_append, List.length_append, h.length]
    rfl
  · rw [hreturned]
    intro frame hmem
    rcases List.mem_append.mp hmem with hold | hnew
    · exact h.frames frame hold
    · rw [List.mem_singleton.mp hnew]
      exact ⟨hdata.trans hfull, by rw [hzeros, hfull]⟩
  · rw [haccepted]
    exact Portions.seen_concat.mpr ⟨hseen, hle⟩
  · rw [hidle]
    trivial

theorem tracked_consumer (h : Tracked capacity_ portion c) :
    Tracked capacity_ portion (c.step capacity_ .consumer) := by
  have hsound := RingBuffer.sound_consumerStep h.sound
  have hpop := h.pop
  cases hp : c.ring.consumer with
  | idle =>
    have hring : RingBuffer.consumerStep capacity_ c.ring = c.ring := by
      rw [RingBuffer.consumerStep, hp]
    simp only [step, RingBuffer.step, hp, hring]
    exact h
  | called samples =>
    rw [hp] at hpop
    have hring : RingBuffer.consumerStep capacity_ c.ring =
        { c.ring with consumer := .loadedHead samples c.ring.head_ } := by
      rw [RingBuffer.consumerStep, hp]
    rw [hring] at hsound
    simp only [step, RingBuffer.step, hp, hring]
    exact ⟨hsound, h.taken, h.length, h.frames, h.seen, hpop, h.seen, Nat.le_refl _, h.sound.head⟩
  | loadedHead samples head =>
    rw [hp] at hpop
    obtain ⟨rfl, hseen, hle, hhead⟩ := hpop
    have hreleased : c.ring.released ≤ c.load := by
      rw [h.released_eq]
      exact Portions.served_le hseen
    have hoccupied := RingBuffer.occupied_eq h.sound.tail hhead hreleased
      (by have := h.sound.room; omega)
    have hring : RingBuffer.consumerStep capacity_ c.ring =
        { c.ring with
          consumer := .copying samples c.ring.tail_
            (if samples < occupied capacity_ head c.ring.tail_ then samples
              else occupied capacity_ head c.ring.tail_) 0 [] } := by
      rw [RingBuffer.consumerStep, hp]
    rw [hring] at hsound
    simp only [step, RingBuffer.step, hp, hring]
    refine ⟨hsound, h.taken, h.length, h.frames, h.seen, rfl, hseen, hle, ?_, by simp⟩
    show _ = min samples.toNat (c.load - c.ring.released)
    split
    · next hlt =>
      rw [UInt64.lt_iff_toNat_lt, hoccupied] at hlt
      omega
    · next hlt =>
      rw [UInt64.lt_iff_toNat_lt, hoccupied] at hlt
      omega
  | copying samples tail toCopy i data =>
    rw [hp] at hpop
    obtain ⟨rfl, hseen, hle, hcopy, hzeros⟩ := hpop
    have hconsumer := h.sound.consumer
    rw [hp] at hconsumer
    obtain ⟨-, -, -, hend, hdata, -⟩ := hconsumer
    have hring := @RingBuffer.consumerStep_copying capacity_ c.ring _ _ _ _ _ hp
    by_cases hi : i < toCopy
    · have hnext := RingBuffer.toNat_succ_of_lt hi
      have hin := UInt64.lt_iff_toNat_lt.mp hi
      rw [if_pos hi] at hring
      rw [hring] at hsound
      simp only [step, RingBuffer.step, hp, hring]
      refine ⟨hsound, h.taken, h.length, h.frames, h.seen, rfl, hseen, hle, hcopy, ?_⟩
      rw [List.drop_eq_nil_of_le (by rw [List.length_append, List.length_singleton]; omega),
        Nat.sub_eq_zero_of_le (by omega)]
      rfl
    · have hin := mt UInt64.lt_iff_toNat_lt.mpr hi
      rw [if_neg hi] at hring
      by_cases hi' : i < samples
      · have hnext := RingBuffer.toNat_succ_of_lt hi'
        rw [if_pos hi'] at hring
        rw [hring] at hsound
        simp only [step, RingBuffer.step, hp, hring]
        refine ⟨hsound, h.taken, h.length, h.frames, h.seen, rfl, hseen, hle, hcopy, ?_⟩
        rw [List.drop_append_of_le_length (by omega), hzeros, hnext, Nat.succ_sub (Nat.not_lt.mp hin),
          List.replicate_succ']
      · exact tracked_release h hp hsound hi hi'

/-- The portion is the same in every pop. -/
def Portioned (portion : UInt64) (e : Event) : Prop := ∀ samples, e = .pop samples → samples = portion

theorem tracked_step (h : Tracked capacity_ portion c) (he : Portioned portion e) :
    Tracked capacity_ portion (c.step capacity_ e) := by
  cases e with
  | push data => exact tracked_push h data
  | producer => exact tracked_producer h
  | pop samples =>
    obtain rfl := he samples rfl
    exact tracked_pop h
  | consumer => exact tracked_consumer h

/-! ## What is lost -/

/-- The samples of a `push` that is under way, as many of them as it copies once it has loaded the
tail. -/
def offered : PushPhase → List Int16
  | .idle => []
  | .called data | .loadedHead data _ => data.samples
  | .copying data _ samples _ => data.samples.take samples.toNat

/-- Everything that was given is accepted or about to be. -/
def NothingLost (c : Channel) : Prop := c.given = c.ring.accepted ++ offered c.ring.producer

/-- When a `push` loads the tail there is room: counted from the start, and from any earlier pop on, what
has come in by the end of the push stays below the capacity and what the pops since have taken. -/
def Fits (capacity_ : Capacity) (portion : UInt64) (c : Channel) (e : Event) : Prop :=
  e = .producer → ∀ data head, c.ring.producer = .loadedHead data head →
    c.ring.accepted.length + data.samples.length <
      capacity_.value.toNat + portion.toNat * c.loads.length ∧
    ∀ pre load post, c.loads = pre ++ load :: post →
      c.ring.accepted.length + data.samples.length <
        capacity_.value.toNat + load + portion.toNat * post.length

/-- There is room exactly when that many samples fit. -/
theorem room_iff (h : Tracked capacity_ portion c) (count : Nat) :
    (count < capacity_.value.toNat + portion.toNat * c.loads.length ∧
      ∀ pre load post, c.loads = pre ++ load :: post →
        count < capacity_.value.toNat + load + portion.toNat * post.length) ↔
    count < capacity_.value.toNat + c.ring.released := by
  have hpos := capacity_.pos
  have hserved := @Portions.le_served_iff portion.toNat _ _ (count + 1 - capacity_.value.toNat) h.seen
  rw [← h.released_eq] at hserved
  constructor
  · rintro ⟨hstart, hsince⟩
    have hle := hserved.mpr ⟨by omega, fun pre load post heq => by
      have := hsince pre load post heq
      omega⟩
    omega
  · intro hroom
    obtain ⟨hstart, hsince⟩ := hserved.mp (by omega)
    refine ⟨by omega, fun pre load post heq => ?_⟩
    have := hsince pre load post heq
    omega

/-- A `push` copies all of its samples exactly when they fit. -/
theorem samplesFor_all_iff (h : Tracked capacity_ portion c) (data : PcmData) :
    data.samples.length ≤ (samplesFor capacity_ data c.ring.head_ c.ring.tail_).toNat ↔
      c.ring.accepted.length + data.samples.length < capacity_.value.toNat + c.ring.released := by
  have hsize := RingBuffer.size_toNat data
  have hroom := h.sound.room
  have hle := h.sound.le
  have havailable := RingBuffer.available_eq h.sound.tail h.sound.head hle hroom
  simp only [samplesFor, gt_iff_lt]
  split
  · next hlt =>
    rw [UInt64.lt_iff_toNat_lt, havailable, hsize] at hlt
    rw [havailable]
    omega
  · next hlt =>
    rw [UInt64.lt_iff_toNat_lt, havailable, hsize] at hlt
    rw [hsize]
    omega

/-- The step at which samples are dropped, if any are. -/
theorem nothingLost_loadTail {data : PcmData} {head : UInt64} (h : Tracked capacity_ portion c)
    (hp : c.ring.producer = .loadedHead data head) (hlost : NothingLost c) :
    NothingLost (c.step capacity_ .producer) ↔
      data.samples.length ≤ (samplesFor capacity_ data c.ring.head_ c.ring.tail_).toNat := by
  have hproducer := h.sound.producer
  rw [hp] at hproducer
  obtain rfl : head = c.ring.head_ := hproducer
  have hgiven : c.given = c.ring.accepted ++ data.samples := by
    rw [NothingLost, hp] at hlost
    exact hlost
  rw [step_producer, RingBuffer.producerStep_loadedHead hp, NothingLost, hgiven]
  split
  · next hzero =>
    rw [hzero]
    simp [offered]
  · simp only [offered, List.append_cancel_left_eq]
    constructor
    · intro hall
      have hlength := congrArg List.length hall
      rw [List.length_take] at hlength
      omega
    · exact fun hle => (List.take_of_length_le hle).symm

theorem nothingLost_producer (h : Tracked capacity_ portion c) (hlost : NothingLost c) :
    NothingLost (c.step capacity_ .producer) ↔ Fits capacity_ portion c .producer := by
  cases hp : c.ring.producer with
  | loadedHead data head =>
    rw [nothingLost_loadTail h hp hlost, samplesFor_all_iff h, ← room_iff h]
    constructor
    · rintro hroom - data' head' hp'
      rw [hp] at hp'
      cases hp'
      exact hroom
    · intro hfits
      exact hfits rfl data head hp
  | idle =>
    have hring : RingBuffer.producerStep capacity_ c.ring = c.ring := by
      rw [RingBuffer.producerStep, hp]
    rw [step_producer, hring]
    exact iff_of_true hlost fun _ data head hp' => by rw [hp] at hp'; cases hp'
  | called data =>
    refine iff_of_true ?_ fun _ data head hp' => by rw [hp] at hp'; cases hp'
    have hring : RingBuffer.producerStep capacity_ c.ring =
        { c.ring with producer := .loadedHead data c.ring.head_ } := by
      rw [RingBuffer.producerStep, hp]
    rw [NothingLost, hp] at hlost
    rw [step_producer, hring]
    exact hlost
  | copying data head samples i =>
    refine iff_of_true ?_ fun _ data head hp' => by rw [hp] at hp'; cases hp'
    rw [NothingLost, hp] at hlost
    rw [step_producer, RingBuffer.producerStep, hp]
    simp only
    split
    · exact hlost
    · rw [NothingLost, hlost]
      exact (List.append_nil _).symm

/-- One step loses nothing exactly when it fits. -/
theorem nothingLost_step_iff (h : Tracked capacity_ portion c) (hlost : NothingLost c) (e : Event) :
    NothingLost (c.step capacity_ e) ↔ Fits capacity_ portion c e := by
  have hother {e : Event} (hne : e ≠ .producer) : Fits capacity_ portion c e := fun he => absurd he hne
  cases e with
  | producer => exact nothingLost_producer h hlost
  | push data =>
    refine iff_of_true ?_ (hother Event.noConfusion)
    cases hp : c.ring.producer with
    | idle =>
      rw [NothingLost, hp] at hlost
      simp only [step, RingBuffer.step, hp, NothingLost, hlost]
      simp [offered]
    | _ =>
      simp only [step, RingBuffer.step, hp]
      exact hlost
  | pop samples =>
    refine iff_of_true ?_ (hother Event.noConfusion)
    rw [step_pop, RingBuffer.step]
    split <;> exact hlost
  | consumer =>
    refine iff_of_true ?_ (hother Event.noConfusion)
    obtain ⟨hproducer, haccepted⟩ := @RingBuffer.consumerStep_kept capacity_ c.ring
    obtain ⟨hgiven, hring⟩ := step_consumer capacity_ c
    rw [NothingLost, hgiven, hring, hproducer, haccepted]
    exact hlost

/-! ## What is delivered -/

/-- The samples of the first `k` arrays that the pops have filled, without the padding. -/
def out (c : Channel) (k : Nat) : List Int16 :=
  (c.ring.returned.take k).flatMap fun r => r.1.take r.2.toNat

/-- They are the first ones that were accepted. -/
theorem Tracked.out_eq (h : Tracked capacity_ portion c) (k : Nat) :
    c.out k = c.ring.accepted.take (served portion.toNat (c.loads.take k)) := by
  have hall : (c.ring.returned.take k).flatMap (fun r => r.1.take r.2.toNat) ++
      (c.ring.returned.drop k).flatMap (fun r => r.1.take r.2.toNat) =
        c.ring.accepted.take c.ring.released := by
    rw [← List.flatMap_append, List.take_append_drop, h.sound.returned]
  -- no array has fewer samples than it should
  have hle (l : List (List Int16 × UInt64)) :
      (l.flatMap fun r => r.1.take r.2.toNat).length ≤ (l.map fun r => r.2.toNat).sum := by
    induction l with
    | nil => exact Nat.le_refl 0
    | cons r l ih =>
      rw [List.flatMap_cons, List.length_append, List.length_take, List.map_cons, List.sum_cons]
      omega
  have htotal : ((c.ring.returned.take k).map fun r => r.2.toNat).sum +
      ((c.ring.returned.drop k).map fun r => r.2.toNat).sum = c.ring.released := by
    rw [← List.sum_append, ← List.map_append, List.take_append_drop, released]
  have hlength := congrArg List.length hall
  rw [List.length_append, List.length_take, Nat.min_eq_left h.sound.le] at hlength
  have htake := hle (c.ring.returned.take k)
  have hdrop := hle (c.ring.returned.drop k)
  have hprefix : c.out k <+: c.ring.accepted :=
    (hall ▸ List.prefix_append _ _ : c.out k <+: c.ring.accepted.take c.ring.released).trans
      (List.take_prefix _ _)
  rw [← h.taken k, List.prefix_iff_eq_take.mp hprefix]
  congr 1
  show (List.flatMap _ _).length = _
  omega

/-- What has happened to a channel since: the pops that are over now and have begun since have seen all
that was accepted before. The first one may have begun earlier. -/
structure Since (before c : Channel) : Prop where
  accepted : before.ring.accepted <+: c.ring.accepted
  loads : ∃ more, c.loads = before.loads ++ more ∧
    (∀ load ∈ more.drop 1, before.ring.accepted.length ≤ load) ∧
    (more ≠ [] → match c.ring.consumer with
      | .loadedHead _ _ | .copying .. => before.ring.accepted.length ≤ c.load
      | _ => True)

theorem Since.refl (c : Channel) : Since c c where
  accepted := List.prefix_refl _
  loads := ⟨[], (List.append_nil _).symm, by simp, fun h => absurd rfl h⟩

/-- The producer and the beginning of a pop are no pop that is over. -/
theorem Since.of_kept {before c' : Channel} (h : Since before c)
    (haccepted : c.ring.accepted <+: c'.ring.accepted) (hload : c'.load = c.load)
    (hloads : c'.loads = c.loads) (hconsumer : c'.ring.consumer = c.ring.consumer) :
    Since before c' where
  accepted := h.accepted.trans haccepted
  loads := by
    rw [hload, hloads, hconsumer]
    exact h.loads

theorem since_consumer {before : Channel} (h : Since before c) :
    Since before (c.step capacity_ .consumer) := by
  obtain ⟨haccepted, more, hloads, hmore, hload⟩ := h
  have hkept := (@RingBuffer.consumerStep_kept capacity_ c.ring).2
  cases hp : c.ring.consumer with
  | idle =>
    have hring : RingBuffer.consumerStep capacity_ c.ring = c.ring := by
      rw [RingBuffer.consumerStep, hp]
    simp only [step, RingBuffer.step, hp, hring]
    exact ⟨haccepted, more, hloads, hmore, hload⟩
  | called samples =>
    have hring : RingBuffer.consumerStep capacity_ c.ring =
        { c.ring with consumer := .loadedHead samples c.ring.head_ } := by
      rw [RingBuffer.consumerStep, hp]
    simp only [step, RingBuffer.step, hp, hring]
    exact ⟨haccepted, more, hloads, hmore, fun _ => haccepted.length_le⟩
  | loadedHead samples head =>
    rw [hp] at hload
    have hring : ∃ toCopy, RingBuffer.consumerStep capacity_ c.ring =
        { c.ring with consumer := .copying samples c.ring.tail_ toCopy 0 [] } :=
      ⟨_, by rw [RingBuffer.consumerStep, hp]⟩
    obtain ⟨toCopy, hring⟩ := hring
    simp only [step, RingBuffer.step, hp, hring]
    exact ⟨haccepted, more, hloads, hmore, hload⟩
  | copying samples tail toCopy i data =>
    rw [hp] at hload
    by_cases hdone : i < toCopy ∨ i < samples
    · have hring : ∃ data', RingBuffer.consumerStep capacity_ c.ring =
          { c.ring with consumer := .copying samples tail toCopy (i + 1) data' } := by
        rw [RingBuffer.consumerStep_copying hp]
        by_cases hi : i < toCopy
        · exact ⟨_, if_pos hi⟩
        · exact ⟨_, by rw [if_neg hi, if_pos (hdone.resolve_left hi)]⟩
      obtain ⟨data', hring⟩ := hring
      simp only [step, RingBuffer.step, hp, hring]
      exact ⟨haccepted, more, hloads, hmore, hload⟩
    · obtain ⟨hi, hi'⟩ := not_or.mp hdone
      obtain ⟨hstep, -, hidle⟩ := step_release capacity_ hp hi hi'
      rw [hstep]
      refine ⟨?_, more ++ [c.load], ?_, ?_, ?_⟩
      · show _ <+: (RingBuffer.consumerStep capacity_ c.ring).accepted
        rw [hkept]
        exact haccepted
      · rw [hloads, List.append_assoc]
      · intro load hmem
        cases more with
        | nil => cases hmem
        | cons first more =>
          rcases List.mem_append.mp hmem with hold | hnew
          · exact hmore load hold
          · rw [List.mem_singleton.mp hnew]
            exact hload (List.cons_ne_nil _ _)
      · intro _
        rw [hidle]
        trivial

theorem since_step {before : Channel} (h : Since before c) (e : Event) :
    Since before (c.step capacity_ e) := by
  cases e with
  | push data =>
    cases hp : c.ring.producer <;> simp only [step, RingBuffer.step, hp] <;>
      exact h.of_kept (List.prefix_refl _) rfl rfl rfl
  | producer =>
    obtain ⟨hconsumer, -⟩ := @RingBuffer.producerStep_kept capacity_ c.ring
    rw [step_producer]
    exact h.of_kept (producerStep_accepted c.ring) rfl rfl hconsumer
  | pop samples =>
    rw [step_pop, RingBuffer.step]
    split
    · next hidle =>
      obtain ⟨haccepted, more, hloads, hmore, -⟩ := h
      exact ⟨haccepted, more, hloads, hmore, fun _ => trivial⟩
    · exact h.of_kept (List.prefix_refl _) rfl rfl rfl
  | consumer => exact since_consumer h

/-- Once one pop and as many more as empty a full buffer are over, all that had been accepted before is
out, in order. -/
theorem delivered {before : Channel} (hbefore : Tracked capacity_ portion before)
    (h : Tracked capacity_ portion c) (hsince : Since before c) {visits k : Nat}
    (hfull : capacity_.value.toNat ≤ portion.toNat * visits + 1)
    (hk : before.ring.returned.length + visits + 1 ≤ k) (hk' : k ≤ c.ring.returned.length) :
    before.ring.accepted <+: c.out k := by
  obtain ⟨haccepted, more, hloads, hmore, -⟩ := hsince
  have hseen := h.seen.take k
  have hlength := h.length
  have hbeforeLength := hbefore.length
  have hroom := hbefore.sound.room
  rw [hloads, List.length_append] at hlength
  -- the pops after the first, as far as the `k`-th
  have hsplit : c.loads.take k =
      before.loads ++ more.take 1 ++ (more.drop 1).take (k - before.loads.length - 1) := by
    rw [hloads, List.take_append, List.take_of_length_le (by omega), List.append_assoc,
      ← List.take_add, show 1 + (k - before.loads.length - 1) = k - before.loads.length by omega]
  have hserved : before.ring.accepted.length ≤ served portion.toNat (c.loads.take k) := by
    rw [hsplit] at hseen ⊢
    refine Portions.le_served_of_visits hseen (fun load hmem => hmore load (List.mem_of_mem_take hmem)) ?_
    have hfirst := @Portions.served_le_append portion.toNat before.loads (more.take 1)
    rw [← hbefore.released_eq] at hfirst
    have hcount : visits ≤ ((more.drop 1).take (k - before.loads.length - 1)).length := by
      rw [List.length_take, List.length_drop]
      omega
    have hportions := Nat.mul_le_mul_left portion.toNat hcount
    omega
  rw [h.out_eq]
  exact List.prefix_take_iff.mpr ⟨haccepted, hserved⟩

end Channel

end Signal2sip.Voip
