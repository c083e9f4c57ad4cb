import Signal2sip.Laws.ChannelFlow
import Signal2sip.Lib.Run

/-!
# The audio of a call, end to end

Both directions of a call go through a ring buffer of two seconds, and both are emptied ten milliseconds
at a time: the feeder loop hands every frame to RingRTC, and PJSIP's clock asks for one frame after the
other. Whatever the interleaving,

- `lossless_iff`: no sample is lost in either direction exactly when every `push` fits, which is to say
  that over no stretch of the call the one side is two seconds ahead of the other;
- `delivers`: the other side gets full frames with the accepted samples in order, silence behind them and
  nothing else, and a sample that is accepted is with it within 202 frames.
-/

namespace Signal2sip.Voip.AudioBridge

open Channel (IsFrame Tracked Portioned Since tracked_step since_step nothingLost_step_iff)
open RingBuffer (Event)
open Runs (Always Along final)

variable {s : AudioBridge} {e : AudioEvent}

/-! ## The two buffers -/

/-- What an event does to `mic_buffer_`. -/
def micEvent (s : AudioBridge) : AudioEvent → Option Event
  | .putFrame (.audio buf) => if s.input_active_ then some (.push buf) else none
  | .inputStep => some .producer
  | .tick =>
    match s.feeder with
    | .sleeping => some (.pop kSamplesPerFrame)
    | _ => none
  | .feederStep _ =>
    match s.feeder with
    | .popping => some .consumer
    | _ => none
  | _ => none

/-- What an event does to `playout_buffer_`. -/
def playoutEvent (s : AudioBridge) : AudioEvent → Option Event
  | .getFrame => if s.output_active_ then some (.pop kSamplesPerFrame) else none
  | .outputStep => some .consumer
  | .feederStep got =>
    match s.feeder with
    | .pulling => some (.push got)
    | .pushing => some .producer
    | _ => none
  | _ => none

/-- A channel after a step, if there is one. -/
def after (c : Channel) (e : Option Event) : Channel :=
  e.elim c (c.step kRingBufferCapacitySamples)

theorem step_mic (s : AudioBridge) (e : AudioEvent) :
    (s.step e).mic_buffer_ = after s.mic_buffer_ (s.micEvent e) := by
  cases e with
  | putFrame frame =>
    cases frame with
    | other => rfl
    | audio buf =>
      simp only [step, putFrame, micEvent]
      split <;> rfl
  | getFrame =>
    simp only [step, getFrame]
    split <;> rfl
  | tick =>
    cases hf : s.feeder <;> simp only [step, tick, micEvent, hf]
    all_goals rfl
  | feederStep got =>
    cases hf : s.feeder <;> simp only [step, feederStep, micEvent, hf]
    case testing => split <;> rfl
    case popping => split <;> rfl
    case pushing => split <;> rfl
    all_goals rfl
  | _ => rfl

theorem step_playout (s : AudioBridge) (e : AudioEvent) :
    (s.step e).playout_buffer_ = after s.playout_buffer_ (s.playoutEvent e) := by
  cases e with
  | putFrame frame =>
    cases frame with
    | other => rfl
    | audio buf =>
      simp only [step, putFrame]
      split <;> rfl
  | getFrame =>
    simp only [step, getFrame, playoutEvent]
    split <;> rfl
  | tick =>
    cases hf : s.feeder <;> simp only [step, tick, hf]
    all_goals rfl
  | feederStep got =>
    cases hf : s.feeder <;> simp only [step, feederStep, playoutEvent, hf]
    case testing => split <;> rfl
    case popping => split <;> rfl
    case pushing => split <;> rfl
    all_goals rfl
  | _ => rfl

/-- Every pop is for one frame. -/
theorem micEvent_portioned {event : Event} (h : s.micEvent e = some event) :
    Portioned kSamplesPerFrame event := by
  rintro samples rfl
  unfold micEvent at h
  split at h
  · split at h <;> cases h
  · cases h
  · split at h
    · exact (Event.pop.inj (Option.some.inj h)).symm
    · cases h
  · split at h <;> cases h
  · cases h

theorem playoutEvent_portioned {event : Event} (h : s.playoutEvent e = some event) :
    Portioned kSamplesPerFrame event := by
  rintro samples rfl
  unfold playoutEvent at h
  split at h
  · split at h
    · exact (Event.pop.inj (Option.some.inj h)).symm
    · cases h
  · cases h
  · split at h <;> cases h
  · cases h

/-! ## The invariant -/

/-- The frame that the loop has popped and not yet handed over. -/
def held : FeederPhase → List (List Int16 × UInt64)
  | .recording frame => [frame]
  | _ => []

def inPop : FeederPhase → Prop
  | .popping => True
  | _ => False

/-- The two buffers are in order, the loop is in a pop when it says so, and it has handed over every frame
but the one that it holds. -/
structure Bridged (s : AudioBridge) : Prop where
  mic : Tracked kRingBufferCapacitySamples kSamplesPerFrame s.mic_buffer_
  playout : Tracked kRingBufferCapacitySamples kSamplesPerFrame s.playout_buffer_
  popping : s.mic_buffer_.ring.consumer = .idle ↔ ¬ inPop s.feeder
  recorded : s.mic_buffer_.ring.returned = s.recorded ++ held s.feeder

theorem bridged_init : Bridged {} where
  mic := Channel.tracked_init _ _
  playout := Channel.tracked_init _ _
  popping := iff_of_true rfl not_false
  recorded := rfl

/-- The consumer of `mic_buffer_` and what it has returned, after an event that is no part of a pop. -/
theorem consumer_kept {c : Channel} {event : Event} (h : ∀ samples, event ≠ .pop samples)
    (h' : event ≠ .consumer) :
    (c.step kRingBufferCapacitySamples event).ring.consumer = c.ring.consumer ∧
      (c.step kRingBufferCapacitySamples event).ring.returned = c.ring.returned := by
  cases event with
  | push data =>
    cases hp : c.ring.producer <;> simp [Channel.step, RingBuffer.step, hp]
  | producer => exact RingBuffer.producerStep_kept
  | pop samples => exact absurd rfl (h samples)
  | consumer => exact absurd rfl h'

/-- A step of a pop that is under way ends it with one more frame, or not yet. -/
theorem consumer_step {c : Channel} (h : c.ring.consumer ≠ .idle) :
    ((c.step kRingBufferCapacitySamples .consumer).ring.consumer = .idle ∧
      ∃ frame, (c.step kRingBufferCapacitySamples .consumer).ring.returned =
        c.ring.returned ++ [frame]) ∨
    ((c.step kRingBufferCapacitySamples .consumer).ring.consumer ≠ .idle ∧
      (c.step kRingBufferCapacitySamples .consumer).ring.returned = c.ring.returned) := by
  rw [(Channel.step_consumer kRingBufferCapacitySamples c).2]
  unfold RingBuffer.consumerStep
  split
  · next hidle => exact absurd hidle h
  · exact .inr ⟨PopPhase.noConfusion, rfl⟩
  · exact .inr ⟨PopPhase.noConfusion, rfl⟩
  · split
    · exact .inr ⟨PopPhase.noConfusion, rfl⟩
    · split
      · exact .inr ⟨PopPhase.noConfusion, rfl⟩
      · exact .inl ⟨rfl, _, rfl⟩

theorem tracked_after {c : Channel} {e : Option Event}
    (h : Tracked kRingBufferCapacitySamples kSamplesPerFrame c)
    (hportion : ∀ event, e = some event → Portioned kSamplesPerFrame event) :
    Tracked kRingBufferCapacitySamples kSamplesPerFrame (after c e) := by
  cases e with
  | none => exact h
  | some event => exact tracked_step h (hportion event rfl)

/-- The loop's next step, as far as its frames go. -/
theorem frames_feederStep (h : Bridged s) (got : PcmData) :
    ((s.feederStep got).mic_buffer_.ring.consumer = .idle ↔ ¬ inPop (s.feederStep got).feeder) ∧
      (s.feederStep got).mic_buffer_.ring.returned =
        (s.feederStep got).recorded ++ held (s.feederStep got).feeder := by
  obtain ⟨-, -, hpopping, hrecorded⟩ := h
  cases hf : s.feeder with
  | testing =>
    rw [hf] at hpopping hrecorded
    rw [feederStep, hf]
    simp only
    split
    · exact ⟨hpopping, hrecorded⟩
    · rw [hf]
      exact ⟨hpopping, hrecorded⟩
  | sleeping =>
    have hsame : s.feederStep got = s := by rw [feederStep, hf]
    rw [hsame]
    exact ⟨hpopping, hrecorded⟩
  | popping =>
    rw [hf] at hpopping hrecorded
    have hbusy : s.mic_buffer_.ring.consumer ≠ .idle := fun hidle => hpopping.mp hidle trivial
    rw [feederStep, hf]
    simp only
    rcases consumer_step hbusy with ⟨hidle, frame, hreturned⟩ | ⟨hbusy', hreturned⟩
    · have hidle' : (s.mic .consumer).mic_buffer_.ring.consumer = .idle := hidle
      have hlast : (s.mic .consumer).mic_buffer_.ring.returned.getLast? = some frame := by
        rw [mic, hreturned, List.getLast?_concat]
      rw [hidle', hlast]
      refine ⟨iff_of_true hidle not_false, ?_⟩
      rw [show (s.mic .consumer).recorded ++ held (.recording frame) = s.recorded ++ [frame] from rfl]
      exact hreturned.trans (by rw [hrecorded]; simp [held])
    · have hbusy'' : (s.mic .consumer).mic_buffer_.ring.consumer ≠ .idle := hbusy'
      split
      · next hidle _ => exact absurd hidle hbusy''
      · rw [show (s.mic .consumer).feeder = .popping from hf]
        exact ⟨iff_of_false hbusy'' fun h => h trivial, hreturned.trans hrecorded⟩
  | recording frame =>
    rw [hf] at hpopping hrecorded
    rw [feederStep, hf]
    exact ⟨hpopping, by rw [hrecorded]; simp [held]⟩
  | pulling =>
    rw [hf] at hpopping hrecorded
    rw [feederStep, hf]
    exact ⟨hpopping, hrecorded⟩
  | pushing =>
    rw [hf] at hpopping hrecorded
    rw [feederStep, hf]
    simp only
    split
    · exact ⟨hpopping, hrecorded⟩
    · rw [show (s.playout .producer).feeder = .pushing from hf]
      exact ⟨hpopping, hrecorded⟩

theorem frames_step (h : Bridged s) (e : AudioEvent) :
    ((s.step e).mic_buffer_.ring.consumer = .idle ↔ ¬ inPop (s.step e).feeder) ∧
      (s.step e).mic_buffer_.ring.returned = (s.step e).recorded ++ held (s.step e).feeder := by
  have hkeep {s' : AudioBridge} (hfeeder : s'.feeder = s.feeder) (hrecorded : s'.recorded = s.recorded)
      (hmic : s'.mic_buffer_.ring.consumer = s.mic_buffer_.ring.consumer ∧
        s'.mic_buffer_.ring.returned = s.mic_buffer_.ring.returned) :
      (s'.mic_buffer_.ring.consumer = .idle ↔ ¬ inPop s'.feeder) ∧
        s'.mic_buffer_.ring.returned = s'.recorded ++ held s'.feeder := by
    rw [hmic.1, hmic.2, hfeeder, hrecorded]
    exact ⟨h.popping, h.recorded⟩
  cases e with
  | putFrame frame =>
    cases frame with
    | other => exact ⟨h.popping, h.recorded⟩
    | audio buf =>
      simp only [step, putFrame]
      split
      · exact hkeep rfl rfl (consumer_kept (fun _ => Event.noConfusion) Event.noConfusion)
      · exact ⟨h.popping, h.recorded⟩
  | inputStep => exact hkeep rfl rfl (consumer_kept (fun _ => Event.noConfusion) Event.noConfusion)
  | getFrame =>
    simp only [step, getFrame]
    split <;> exact ⟨h.popping, h.recorded⟩
  | tick =>
    obtain ⟨-, -, hpopping, hrecorded⟩ := h
    simp only [step, tick]
    cases hf : s.feeder with
    | sleeping =>
      rw [hf] at hpopping hrecorded
      have hidle : s.mic_buffer_.ring.consumer = .idle := hpopping.mpr not_false
      have hring : RingBuffer.step kRingBufferCapacitySamples s.mic_buffer_.ring
          (.pop kSamplesPerFrame) =
            { s.mic_buffer_.ring with consumer := .called kSamplesPerFrame } := by
        rw [RingBuffer.step, hidle]
      simp only [mic, Channel.step_pop, hring]
      exact ⟨iff_of_false PopPhase.noConfusion fun h => h trivial, hrecorded⟩
    | _ => exact ⟨hpopping, hrecorded⟩
  | feederStep got => exact frames_feederStep h got
  | _ => exact ⟨h.popping, h.recorded⟩

theorem bridged_step (h : Bridged s) (e : AudioEvent) : Bridged (s.step e) where
  mic := by
    rw [step_mic]
    exact tracked_after h.mic fun event => micEvent_portioned
  playout := by
    rw [step_playout]
    exact tracked_after h.playout fun event => playoutEvent_portioned
  popping := (frames_step h e).1
  recorded := (frames_step h e).2

theorem bridged_run (es : List AudioEvent) : Bridged (final step {} es) := by
  have halways : Always step Bridged {} es := Always.of_keep (fun _ e h => bridged_step h e) bridged_init
  exact halways.last

/-! ## What is lost -/

/-- Both directions still have, in their buffers or beyond, every sample that they were given. -/
def NothingLost (s : AudioBridge) : Prop :=
  Channel.NothingLost s.mic_buffer_ ∧ Channel.NothingLost s.playout_buffer_

/-- The `push` that loads the tail, if one does, has room. -/
def Fits (s : AudioBridge) (e : AudioEvent) : Prop :=
  (∀ event, s.micEvent e = some event →
    Channel.Fits kRingBufferCapacitySamples kSamplesPerFrame s.mic_buffer_ event) ∧
  ∀ event, s.playoutEvent e = some event →
    Channel.Fits kRingBufferCapacitySamples kSamplesPerFrame s.playout_buffer_ event

theorem nothingLost_after_iff {c : Channel} {e : Option Event}
    (h : Tracked kRingBufferCapacitySamples kSamplesPerFrame c) (hlost : Channel.NothingLost c) :
    Channel.NothingLost (after c e) ↔ ∀ event, e = some event →
      Channel.Fits kRingBufferCapacitySamples kSamplesPerFrame c event := by
  cases e with
  | none => exact iff_of_true hlost fun event h => by cases h
  | some event =>
    refine (nothingLost_step_iff h hlost event).trans ⟨?_, fun hfits => hfits event rfl⟩
    rintro hfits _ ⟨⟩
    exact hfits

/-- Over every interleaving, nothing is lost in either direction exactly when every push fits. -/
theorem lossless_iff (es : List AudioEvent) :
    Always step NothingLost {} es ↔ Along step Fits {} es := by
  refine Runs.always_congr (I := Bridged) (fun s e h _ _ => bridged_step h e) (fun s e h hlost => ?_)
    bridged_init ⟨rfl, rfl⟩
  rw [NothingLost, step_mic, step_playout, nothingLost_after_iff h.mic hlost.1,
    nothingLost_after_iff h.playout hlost.2]
  rfl

/-! ## What is delivered -/

/-- What has happened to both buffers since. -/
def SinceBoth (before s : AudioBridge) : Prop :=
  Since before.mic_buffer_ s.mic_buffer_ ∧ Since before.playout_buffer_ s.playout_buffer_

theorem since_after {before c : Channel} (h : Since before c) (e : Option Event) :
    Since before (after c e) := by
  cases e with
  | none => exact h
  | some event => exact since_step h event

theorem since_run (s : AudioBridge) (es : List AudioEvent) : SinceBoth s (final step s es) := by
  refine (Always.of_keep (I := SinceBoth s) (fun s' e h => ?_) ⟨Since.refl _, Since.refl _⟩).last
  rw [SinceBoth, step_mic, step_playout]
  exact ⟨since_after h.1 _, since_after h.2 _⟩

/-- The frames that RingRTC was handed are the first ones that were popped. -/
theorem Bridged.heard_eq (h : Bridged s) : s.heard = s.mic_buffer_.out s.recorded.length := by
  rw [heard, Channel.out, h.recorded, List.take_left]

theorem played_eq (s : AudioBridge) :
    s.played = s.playout_buffer_.out s.playout_buffer_.ring.returned.length := by
  rw [played, Channel.out, List.take_length]

/-- Every frame that the other side gets is a full frame, with silence behind its samples. The samples
are the accepted ones in order, and whatever had been accepted is handed over within 202 frames. -/
theorem delivers (es fs : List AudioEvent) :
    let s := final step {} es
    let t := final step s fs
    (∀ frame ∈ t.recorded ++ t.playout_buffer_.ring.returned, IsFrame kSamplesPerFrame frame) ∧
    (t.heard <+: t.mic_buffer_.ring.accepted ∧
      (s.recorded.length + 202 ≤ t.recorded.length → s.mic_buffer_.ring.accepted <+: t.heard)) ∧
    t.played <+: t.playout_buffer_.ring.accepted ∧
      (s.playout_buffer_.ring.returned.length + 201 ≤ t.playout_buffer_.ring.returned.length →
        s.playout_buffer_.ring.accepted <+: t.played) := by
  intro s t
  have hs : Bridged s := bridged_run es
  have ht : Bridged t := by
    have hrun := bridged_run (es ++ fs)
    rwa [Runs.final_append] at hrun
  obtain ⟨hmic, hplayout⟩ : SinceBoth s t := since_run s fs
  have hfull : kRingBufferCapacitySamples.value.toNat ≤ kSamplesPerFrame.toNat * 200 + 1 := by decide
  have hheld : s.mic_buffer_.ring.returned.length ≤ s.recorded.length + 1 := by
    rw [hs.recorded, List.length_append]
    cases s.feeder <;> simp [held]
  have hrecorded : t.recorded.length ≤ t.mic_buffer_.ring.returned.length := by
    rw [ht.recorded, List.length_append]
    exact Nat.le_add_right _ _
  rw [ht.heard_eq, played_eq]
  refine ⟨fun frame hmem => ?_, ⟨?_, fun hframes => ?_⟩, ?_, fun hframes => ?_⟩
  · rcases List.mem_append.mp hmem with hrecorded | hreturned
    · exact ht.mic.frames frame (by rw [ht.recorded]; exact List.mem_append_left _ hrecorded)
    · exact ht.playout.frames frame hreturned
  · rw [ht.mic.out_eq]
    exact List.take_prefix _ _
  · exact Channel.delivered hs.mic ht.mic hmic hfull (by omega) hrecorded
  · rw [ht.playout.out_eq]
    exact List.take_prefix _ _
  · exact Channel.delivered hs.playout ht.playout hplayout hfull (by omega) (Nat.le_refl _)

end Signal2sip.Voip.AudioBridge
