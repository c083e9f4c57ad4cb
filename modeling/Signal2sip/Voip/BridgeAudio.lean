import Mathlib.Data.List.Basic

/-!
# `wireBridgeAudio`

PJSIP calls `onCallMediaState` any number of times for a call, and `wireBridgeAudio` puts two resample
ports into the conference bridge for each audio stream that it can use: one in front of each ring-buffer
port. It records the last two, and the destructor of `RingRtcSipBridge` removes what is recorded
before the ring-buffer ports go.

What PJSIP answers is part of the event: the streams of the call, whether asking for one throws,
whether the conference bridge takes a port. A pool is always created. A port gets a number of its own,
and it is connected to the call's port as soon as it is in the conference bridge.
-/

namespace Signal2sip.Voip

/-- The ports over the two ring buffers. -/
inductive RingPort
  | input
  | output
deriving DecidableEq, Repr

/-- A resample port in the conference bridge, connected to a port of the call. -/
structure ResamplePort where
  id : Nat
  downstream : RingPort
  clockRate : Nat
  callPort : Nat
deriving DecidableEq, Repr

/-- An `AudioMedia` of the call, and what happens while it is wired: whether `pjsua_conf_add_port`
takes the two ports, and whether `Start` throws. -/
structure AudioMedia where
  portId : Nat
  clockRate : Nat
  inAdded : Bool := true
  outAdded : Bool := true
  startThrows : Bool := false
deriving DecidableEq, Repr

/-- An entry of `ci.media`. -/
inductive MediaStream
  | notAudio
  | noMedia
  | portInfoThrows
  | audio (aud : AudioMedia)
deriving DecidableEq, Repr

/-- The members of a `RingRtcSipBridge` that have to do with resample ports, and the resample ports of
the conference bridge that lead to it. `none` is `PJSUA_INVALID_ID` or a null pool. -/
structure BridgePorts where
  resamplePool : Option Nat := none
  inResampleId : Option Nat := none
  outResampleId : Option Nat := none
  confBridge : List ResamplePort := []
  nextId : Nat := 0
  nextPool : Nat := 0
  ringPortsDestroyed : Bool := false
deriving DecidableEq, Repr

namespace BridgePorts

variable (s : BridgePorts)

def hasResamplePorts : Bool := s.resamplePool.isSome

def setResamplePorts (pool : Nat) (inId outId : Option Nat) : BridgePorts :=
  { s with resamplePool := some pool, inResampleId := inId, outResampleId := outId }

/-- `pjsua_conf_add_port` and the `pjsua_conf_connect` after it; a port that is not taken has no id. -/
def confAddPort (downstream : RingPort) (aud : AudioMedia) (added : Bool) :
    BridgePorts × Option Nat :=
  if added then
    ({ s with
        confBridge := s.confBridge ++ [⟨s.nextId, downstream, aud.clockRate, aud.portId⟩]
        nextId := s.nextId + 1 },
      some s.nextId)
  else (s, none)

/-- The body of the loop for an audio stream. -/
def wire (aud : AudioMedia) : BridgePorts :=
  let pool := s.nextPool
  let s := { s with nextPool := pool + 1 }
  let (s, inResampleId) := s.confAddPort .input aud aud.inAdded
  let (s, outResampleId) := s.confAddPort .output aud aud.outAdded
  s.setResamplePorts pool inResampleId outResampleId

/-- The loop, with the streams to come. An exception leaves it. -/
def wireLoop (s : BridgePorts) : List MediaStream → BridgePorts
  | [] => s
  | .notAudio :: rest => s.wireLoop rest
  | .noMedia :: rest => s.wireLoop rest
  | .portInfoThrows :: _ => s
  | .audio aud :: rest => if aud.startThrows then s.wire aud else (s.wire aud).wireLoop rest

/-- `getInfo` throws (`none`) or returns the streams. -/
def wireBridgeAudio (info : Option (List MediaStream)) : BridgePorts :=
  if s.hasResamplePorts then s
  else
    match info with
    | none => s
    | some media => s.wireLoop media

/-- `pjsua_conf_remove_port`. -/
def confRemovePort (id : Option Nat) : BridgePorts :=
  { s with confBridge := s.confBridge.filter fun port => some port.id ≠ id }

/-- The destructor, and the destruction of the ring-buffer ports after its body. -/
def destroy : BridgePorts :=
  let s :=
    if s.hasResamplePorts then
      { (s.confRemovePort s.inResampleId).confRemovePort s.outResampleId with resamplePool := none }
    else s
  { s with ringPortsDestroyed := true }

inductive Event
  | onCallMediaState (info : Option (List MediaStream))
  | destroy
deriving DecidableEq, Repr

/-- Nothing happens to a bridge that is destroyed. -/
def step (s : BridgePorts) (e : Event) : BridgePorts :=
  if s.ringPortsDestroyed then s
  else
    match e with
    | .onCallMediaState info => s.wireBridgeAudio info
    | .destroy => s.destroy

end BridgePorts

end Signal2sip.Voip
