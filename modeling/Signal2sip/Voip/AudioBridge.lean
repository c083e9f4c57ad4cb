import Signal2sip.Voip.RingBuffer

/-!
# The audio of a call

`audio_bridge.cpp` and the feeder loop of `RingRtcSipBridge`. PJSIP's media clock puts frames into
`mic_buffer_` and gets frames out of `playout_buffer_`; the feeder loop pops the one for RingRTC and
pushes what RingRTC has decoded into the other. The four calls on the two buffers interleave at single
memory accesses.

`Start` and `Stop` set three flags, one after the other. Here each may change at any time, and one feeder
loop runs at a time.
-/

namespace Signal2sip.Voip

/-- A ring buffer, all that was given to `push`, and for each `pop` that is over how many samples were
in the buffer or gone when it loaded the head; `load` is the same for the `pop` that is under way. -/
structure Channel where
  ring : RingBuffer := {}
  given : List Int16 := []
  load : Nat := 0
  loads : List Nat := []

namespace Channel

variable (capacity_ : Capacity) (c : Channel)

/-- One step of the buffer. -/
def step (e : RingBuffer.Event) : Channel :=
  let ring := RingBuffer.step capacity_ c.ring e
  match e with
  | .push data =>
    match c.ring.producer with
    | .idle => { c with ring := ring, given := c.given ++ data.samples }
    | _ => { c with ring := ring }
  | .consumer =>
    match c.ring.consumer, ring.consumer with
    | .called _, _ => { c with ring := ring, load := c.ring.accepted.length }
    | .copying .., .idle => { c with ring := ring, loads := c.loads ++ [c.load] }
    | _, _ => { c with ring := ring }
  | .producer | .pop _ => { c with ring := ring }

end Channel

def kRingBufferCapacitySamples : Capacity := ⟨48000 * 2, by decide, by decide⟩

def kSamplesPerFrame : UInt64 := 480

/-- A `pjmedia_frame`: its samples, if its type is `PJMEDIA_FRAME_TYPE_AUDIO`. -/
inductive MediaFrame
  | audio (buf : PcmData)
  | other

/-- Where the feeder loop is: at its condition, where it also ends and the next one begins, or at one of
its calls. A frame comes with the number of its samples that are not padding, as in
`RingBuffer.returned`. -/
inductive FeederPhase
  | testing
  | sleeping
  | popping
  | recording (frame : List Int16 × UInt64)
  | pulling
  | pushing

/-- `recorded` is what was handed to `signal2sip_push_recorded_samples`. -/
structure AudioBridge where
  mic_buffer_ : Channel := {}
  playout_buffer_ : Channel := {}
  input_active_ : Bool := false
  output_active_ : Bool := false
  feeder_running_ : Bool := false
  feeder : FeederPhase := .testing
  recorded : List (List Int16 × UInt64) := []

/-- What can happen next: one of the flags is set, PJSIP's clock calls back or goes on with a call, the
loop's sleep is over, or the loop goes on. RingRTC's samples come with the event. -/
inductive AudioEvent
  | setInputActive (active : Bool)
  | setOutputActive (active : Bool)
  | setFeederRunning (running : Bool)
  | putFrame (frame : MediaFrame)
  | inputStep
  | getFrame
  | outputStep
  | tick
  | feederStep (got : PcmData)

namespace AudioBridge

variable (s : AudioBridge)

def mic (e : RingBuffer.Event) : AudioBridge :=
  { s with mic_buffer_ := s.mic_buffer_.step kRingBufferCapacitySamples e }

def playout (e : RingBuffer.Event) : AudioBridge :=
  { s with playout_buffer_ := s.playout_buffer_.step kRingBufferCapacitySamples e }

/-- `SoftwareAudioInput::PutFrameCallback`. -/
def putFrame : MediaFrame → AudioBridge
  | .other => s
  | .audio buf => if s.input_active_ then s.mic (.push buf) else s

/-- `SoftwareAudioOutput::GetFrameCallback`. -/
def getFrame : AudioBridge :=
  if s.output_active_ then s.playout (.pop kSamplesPerFrame) else s

/-- The sleep of `FeederLoop` is over. -/
def tick : AudioBridge :=
  match s.feeder with
  | .sleeping => { s.mic (.pop kSamplesPerFrame) with feeder := .popping }
  | _ => s

/-- The next step of `FeederLoop`. -/
def feederStep (got : PcmData) : AudioBridge :=
  match s.feeder with
  | .testing => if s.feeder_running_ then { s with feeder := .sleeping } else s
  | .sleeping => s
  | .popping =>
    let s := s.mic .consumer
    match s.mic_buffer_.ring.consumer, s.mic_buffer_.ring.returned.getLast? with
    | .idle, some frame => { s with feeder := .recording frame }
    | _, _ => s
  | .recording frame => { s with recorded := s.recorded ++ [frame], feeder := .pulling }
  | .pulling => { s.playout (.push got) with feeder := .pushing }
  | .pushing =>
    let s := s.playout .producer
    match s.playout_buffer_.ring.producer with
    | .idle => { s with feeder := .testing }
    | _ => s

def step : AudioEvent → AudioBridge
  | .setInputActive active => { s with input_active_ := active }
  | .setOutputActive active => { s with output_active_ := active }
  | .setFeederRunning running => { s with feeder_running_ := running }
  | .putFrame frame => s.putFrame frame
  | .inputStep => s.mic .producer
  | .getFrame => s.getFrame
  | .outputStep => s.playout .consumer
  | .tick => s.tick
  | .feederStep got => s.feederStep got

/-- The samples that RingRTC was handed, without the padding. -/
def heard : List Int16 := s.recorded.flatMap fun frame => frame.1.take frame.2.toNat

/-- The samples that PJSIP was handed, without the padding. -/
def played : List Int16 := s.playout_buffer_.ring.returned.flatMap fun frame => frame.1.take frame.2.toNat

end AudioBridge

end Signal2sip.Voip
