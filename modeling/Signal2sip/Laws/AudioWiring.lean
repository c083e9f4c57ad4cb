import Signal2sip.Lib.Run
import Signal2sip.Voip.BridgeAudio

/-!
# Audio is wired once

The guard of `wireBridgeAudio` looks at the record before the loop, and the loop writes the record once
for each stream it wires. So the first firing that finds a usable stream decides: when it gets more
than one stream's ports into the conference bridge, only the last of them are recorded, and the others
stay there when the ring-buffer ports are destroyed (`wiredOnce_iff`). Later firings change nothing.
-/

namespace Signal2sip.Voip.BridgePorts

variable {s : BridgePorts}

/-- The id that is recorded for a resample port over a ring-buffer port. -/
def recordedId (s : BridgePorts) : RingPort → Option Nat
  | .input => s.inResampleId
  | .output => s.outResampleId

/-- At most one resample port leads to each ring-buffer port, it is the recorded one, and none is left
once the ring-buffer ports are destroyed. -/
structure WiredOnce (s : BridgePorts) : Prop where
  one : ∀ downstream, (s.confBridge.filter (·.downstream = downstream)).length ≤ 1
  recorded : ∀ port ∈ s.confBridge, some port.id = s.recordedId port.downstream
  removed : s.ringPortsDestroyed = true → s.confBridge = []

/-- The audio streams that the loop gets to. -/
def reached : List MediaStream → List AudioMedia
  | [] => []
  | .notAudio :: rest => reached rest
  | .noMedia :: rest => reached rest
  | .portInfoThrows :: _ => []
  | .audio aud :: rest => if aud.startThrows then [aud] else aud :: reached rest

theorem wireLoop_eq_foldl (s : BridgePorts) (media : List MediaStream) :
    s.wireLoop media = (reached media).foldl wire s := by
  induction media generalizing s with
  | nil => rfl
  | cons stream rest ih =>
    cases stream with
    | notAudio => exact ih s
    | noMedia => exact ih s
    | portInfoThrows => rfl
    | audio aud =>
      rw [wireLoop, reached]
      split
      · rfl
      · rw [ih, List.foldl_cons]

/-- A firing: nothing when there is a record, else one stream after the other. -/
theorem wireBridgeAudio_some (s : BridgePorts) (media : List MediaStream) :
    s.wireBridgeAudio (some media) =
      if s.hasResamplePorts then s else (reached media).foldl wire s := by
  rw [← wireLoop_eq_foldl]
  rfl

theorem wireBridgeAudio_none (s : BridgePorts) : s.wireBridgeAudio none = s := ite_self s

/-! ## One stream -/

/-- The ids of a stream's two ports, when the next one is `id`. -/
def inId (aud : AudioMedia) (id : Nat) : Option Nat := if aud.inAdded then some id else none

def outId (aud : AudioMedia) (id : Nat) : Option Nat :=
  if aud.outAdded then some (if aud.inAdded then id + 1 else id) else none

/-- The resample ports that a stream gets into the conference bridge. -/
def portsOf (aud : AudioMedia) (id : Nat) : List ResamplePort :=
  (inId aud id).toList.map (⟨·, .input, aud.clockRate, aud.portId⟩) ++
    (outId aud id).toList.map (⟨·, .output, aud.clockRate, aud.portId⟩)

theorem mem_portsOf {aud : AudioMedia} {id : Nat} {port : ResamplePort}
    (h : port ∈ portsOf aud id) :
    (port.downstream = .input ∧ inId aud id = some port.id) ∨
      (port.downstream = .output ∧ outId aud id = some port.id) := by
  rw [portsOf, List.mem_append] at h
  rcases h with h | h
  · obtain ⟨i, hi, rfl⟩ := List.mem_map.mp h
    exact .inl ⟨rfl, Option.mem_toList.mp hi⟩
  · obtain ⟨i, hi, rfl⟩ := List.mem_map.mp h
    exact .inr ⟨rfl, Option.mem_toList.mp hi⟩

theorem portsOf_eq_nil {aud : AudioMedia} {id : Nat} :
    portsOf aud id = [] ↔ aud.inAdded = false ∧ aud.outAdded = false := by
  cases hin : aud.inAdded <;> cases hout : aud.outAdded <;> simp [portsOf, inId, outId, hin, hout]

/-- No two of a stream's ports lead to one ring-buffer port. -/
theorem length_filter_portsOf (aud : AudioMedia) (id : Nat) (downstream : RingPort) :
    ((portsOf aud id).filter (·.downstream = downstream)).length ≤ 1 := by
  cases hin : aud.inAdded <;> cases hout : aud.outAdded <;> cases downstream <;>
    simp [portsOf, inId, outId, hin, hout]

/-- What wiring a stream does. -/
theorem wire_eq (s : BridgePorts) (aud : AudioMedia) :
    s.wire aud =
      { s with
        resamplePool := some s.nextPool
        inResampleId := inId aud s.nextId
        outResampleId := outId aud s.nextId
        confBridge := s.confBridge ++ portsOf aud s.nextId
        nextId := s.nextId + (portsOf aud s.nextId).length
        nextPool := s.nextPool + 1 } := by
  cases hin : aud.inAdded <;> cases hout : aud.outAdded <;>
    simp [wire, confAddPort, setResamplePorts, portsOf, inId, outId, hin, hout]

/-- The ids that are recorded for a stream are new. -/
theorem nextId_le_of_recordedId {aud : AudioMedia} {downstream : RingPort} {id : Nat}
    (h : some id = (s.wire aud).recordedId downstream) : s.nextId ≤ id := by
  rw [wire_eq] at h
  cases downstream with
  | input =>
    have hin : inId aud s.nextId = some id := h.symm
    rw [inId] at hin
    split at hin
    · exact Nat.le_of_eq (Option.some.inj hin)
    · cases hin
  | output =>
    have hout : outId aud s.nextId = some id := h.symm
    rw [outId] at hout
    split at hout
    · have hid := Option.some.inj hout
      split at hid <;> omega
    · cases hout

/-! ## Several streams -/

/-- The ids in the conference bridge are below the next one. -/
def Numbered (s : BridgePorts) : Prop := ∀ port ∈ s.confBridge, port.id < s.nextId

theorem length_portsOf (aud : AudioMedia) (id : Nat) :
    (portsOf aud id).length = (if aud.inAdded then 1 else 0) + (if aud.outAdded then 1 else 0) := by
  rw [portsOf, inId, outId]
  cases aud.inAdded <;> cases aud.outAdded <;> rfl

theorem id_lt_of_mem_portsOf {aud : AudioMedia} {id : Nat} {port : ResamplePort}
    (h : port ∈ portsOf aud id) : port.id < id + (portsOf aud id).length := by
  rw [length_portsOf]
  rcases mem_portsOf h with ⟨-, hid⟩ | ⟨-, hid⟩
  · rw [inId] at hid
    split at hid
    next hin =>
      have hport := Option.some.inj hid
      rw [if_pos hin]
      omega
    next => cases hid
  · rw [outId] at hid
    split at hid
    next hout =>
      have hport := Option.some.inj hid
      rw [if_pos hout]
      -- the output port comes after the input port, when there is one
      split at hport
      next hin => rw [if_pos hin]; omega
      next hin => rw [if_neg hin]; omega
    next => cases hid

theorem Numbered.wire (h : Numbered s) (aud : AudioMedia) : Numbered (s.wire aud) := by
  intro port hport
  rw [wire_eq] at hport ⊢
  rcases List.mem_append.mp hport with hold | hnew
  · exact Nat.lt_add_right _ (h port hold)
  · exact id_lt_of_mem_portsOf hnew

theorem Numbered.foldl_wire (h : Numbered s) (auds : List AudioMedia) :
    Numbered (auds.foldl BridgePorts.wire s) := by
  induction auds generalizing s with
  | nil => exact h
  | cons aud auds ih => exact ih (h.wire aud)

theorem foldl_wire_ringPortsDestroyed (auds : List AudioMedia) :
    (auds.foldl wire s).ringPortsDestroyed = s.ringPortsDestroyed := by
  induction auds generalizing s with
  | nil => rfl
  | cons aud auds ih => rw [List.foldl_cons, ih, wire_eq]

theorem foldl_wire_confBridge {auds : List AudioMedia} :
    (auds.foldl wire s).confBridge = [] ↔
      s.confBridge = [] ∧ ∀ aud ∈ auds, aud.inAdded = false ∧ aud.outAdded = false := by
  induction auds generalizing s with
  | nil => simp
  | cons aud auds ih =>
    rw [List.foldl_cons, ih, wire_eq]
    simp only [List.append_eq_nil_iff, portsOf_eq_nil, List.mem_cons, forall_eq_or_imp, and_assoc]

/-- The record has room for one stream, so what was there before it is not recorded any more. -/
theorem wiredOnce_wire_iff (hnumbered : Numbered s) (hdestroyed : s.ringPortsDestroyed = false)
    (aud : AudioMedia) : WiredOnce (s.wire aud) ↔ s.confBridge = [] := by
  constructor
  · intro h
    rw [List.eq_nil_iff_forall_not_mem]
    intro port hport
    have hmem : port ∈ (s.wire aud).confBridge := by
      rw [wire_eq]
      exact List.mem_append_left _ hport
    have hnew := nextId_le_of_recordedId (h.recorded port hmem)
    exact absurd (hnumbered port hport) (Nat.not_lt.mpr hnew)
  · intro hnil
    have hports : (s.wire aud).confBridge = portsOf aud s.nextId := by
      rw [wire_eq, hnil]
      rfl
    constructor
    case one =>
      rw [hports]
      exact length_filter_portsOf aud s.nextId
    case recorded =>
      rw [hports, wire_eq]
      intro port hport
      rcases mem_portsOf hport with ⟨hdown, hid⟩ | ⟨hdown, hid⟩
      · rw [hdown]
        exact hid.symm
      · rw [hdown]
        exact hid.symm
    case removed =>
      intro h
      rw [wire_eq] at h
      exact absurd h (by simp [hdestroyed])

/-- All streams but the last get no port into the conference bridge; so it is with one stream. -/
def LastOnly (auds : List AudioMedia) : Prop :=
  ∀ aud ∈ auds.dropLast, aud.inAdded = false ∧ aud.outAdded = false

theorem wiredOnce_foldl_wire_iff (hnumbered : Numbered s) (hdestroyed : s.ringPortsDestroyed = false)
    (hnil : s.confBridge = []) (hwired : WiredOnce s) (auds : List AudioMedia) :
    WiredOnce (auds.foldl wire s) ↔ LastOnly auds := by
  rcases List.eq_nil_or_concat auds with rfl | ⟨init, last, rfl⟩
  · exact iff_of_true hwired fun aud haud => absurd haud List.not_mem_nil
  · have hiff := wiredOnce_wire_iff (hnumbered.foldl_wire init)
      ((foldl_wire_ringPortsDestroyed init).trans hdestroyed) last
    rw [List.concat_eq_append, List.foldl_append, List.foldl_cons, List.foldl_nil, hiff,
      foldl_wire_confBridge, LastOnly, List.dropLast_concat]
    exact and_iff_right hnil

/-! ## One event -/

/-- What holds of every bridge. -/
structure Sound (s : BridgePorts) : Prop where
  numbered : Numbered s
  none : s.ringPortsDestroyed = false → s.hasResamplePorts = false → s.confBridge = []

/-- The condition on an event: a firing that finds no record and gets to streams of which all but the
last stay out of the conference bridge. -/
def Guarded (s : BridgePorts) : Event → Prop
  | .onCallMediaState (some media) =>
    s.ringPortsDestroyed = true ∨ s.hasResamplePorts = true ∨ LastOnly (reached media)
  | .onCallMediaState none => True
  | .destroy => True

theorem Sound.wire (h : Sound s) (aud : AudioMedia) : Sound (s.wire aud) := by
  refine ⟨h.numbered.wire aud, fun _ hnone => ?_⟩
  rw [wire_eq] at hnone
  cases hnone

theorem Sound.foldl_wire (h : Sound s) (auds : List AudioMedia) :
    Sound (auds.foldl BridgePorts.wire s) := by
  induction auds generalizing s with
  | nil => exact h
  | cons aud auds ih => exact ih (h.wire aud)

/-- The destructor removes what is recorded. -/
theorem mem_destroy_confBridge {port : ResamplePort} (h : port ∈ s.destroy.confBridge) :
    port ∈ s.confBridge ∧
      (s.hasResamplePorts = true → ∀ downstream, some port.id ≠ s.recordedId downstream) := by
  rw [destroy] at h
  by_cases hports : s.hasResamplePorts = true
  · rw [if_pos hports] at h
    obtain ⟨h, hout⟩ := List.mem_filter.mp h
    obtain ⟨h, hin⟩ := List.mem_filter.mp h
    refine ⟨h, fun _ downstream => ?_⟩
    cases downstream with
    | input => exact of_decide_eq_true hin
    | output => exact of_decide_eq_true hout
  · rw [if_neg hports] at h
    exact ⟨h, fun hports' => absurd hports' hports⟩

theorem sound_destroy (h : Sound s) : Sound s.destroy := by
  refine ⟨fun port hport => ?_, fun hdestroyed => by cases hdestroyed⟩
  have hid := h.numbered port (mem_destroy_confBridge hport).1
  have hnext : s.destroy.nextId = s.nextId := by
    rw [destroy]
    split <;> rfl
  rw [hnext]
  exact hid

/-- What is recorded is all there is, so nothing is left. -/
theorem wiredOnce_destroy (h : Sound s) (hdestroyed : s.ringPortsDestroyed = false)
    (hwired : WiredOnce s) : WiredOnce s.destroy := by
  have hnil : s.destroy.confBridge = [] := by
    rw [List.eq_nil_iff_forall_not_mem]
    intro port hport
    obtain ⟨hmem, hremoved⟩ := mem_destroy_confBridge hport
    cases hports : s.hasResamplePorts with
    | true => exact hremoved hports _ (hwired.recorded port hmem)
    | false =>
      rw [h.none hdestroyed hports] at hmem
      exact absurd hmem List.not_mem_nil
  refine ⟨fun downstream => ?_, fun port hport => ?_, fun _ => hnil⟩
  · rw [hnil]
    exact Nat.zero_le 1
  · rw [hnil] at hport
    exact absurd hport List.not_mem_nil

theorem sound_step (h : Sound s) (e : Event) : Sound (s.step e) := by
  unfold step
  split
  · exact h
  · cases e with
    | destroy => exact sound_destroy h
    | onCallMediaState info =>
      show Sound (s.wireBridgeAudio info)
      cases info with
      | none => rwa [wireBridgeAudio_none]
      | some media =>
        rw [wireBridgeAudio_some]
        split
        · exact h
        · exact h.foldl_wire _

theorem wiredOnce_step_iff (h : Sound s) (hwired : WiredOnce s) (e : Event) :
    WiredOnce (s.step e) ↔ Guarded s e := by
  cases hdestroyed : s.ringPortsDestroyed with
  | true =>
    unfold step
    rw [if_pos hdestroyed]
    refine iff_of_true hwired ?_
    cases e with
    | destroy => trivial
    | onCallMediaState info =>
      cases info with
      | none => trivial
      | some media => exact .inl hdestroyed
  | false =>
    unfold step
    rw [if_neg (by simp [hdestroyed])]
    cases e with
    | destroy => exact iff_of_true (wiredOnce_destroy h hdestroyed hwired) trivial
    | onCallMediaState info =>
      show WiredOnce (s.wireBridgeAudio info) ↔ _
      cases info with
      | none =>
        rw [wireBridgeAudio_none]
        exact iff_of_true hwired trivial
      | some media =>
        rw [wireBridgeAudio_some]
        cases hports : s.hasResamplePorts with
        | true =>
          rw [if_pos rfl]
          exact iff_of_true hwired (.inr (.inl hports))
        | false =>
          rw [if_neg (by decide), wiredOnce_foldl_wire_iff h.numbered hdestroyed
            (h.none hdestroyed hports) hwired]
          simp only [Guarded, hdestroyed, hports, Bool.false_eq_true, false_or]

/-! ## Runs -/

/-- In every run of firings and the destruction: audio is wired once in every state reached exactly
when each firing finds a record, or gets to streams of which all but the last stay out of the
conference bridge. -/
theorem wiredOnce_iff (events : List Event) :
    Runs.Always step WiredOnce {} events ↔ Runs.Along step Guarded {} events :=
  Runs.always_congr (fun _ e h _ _ => sound_step h e) (fun _ e h hwired => wiredOnce_step_iff h hwired e)
    ⟨fun _ hport => absurd hport List.not_mem_nil, fun _ _ => rfl⟩
    ⟨fun _ => Nat.zero_le 1, fun _ hport => absurd hport List.not_mem_nil, fun _ => rfl⟩

/-- Two audio streams in the first firing: the first one's ports are still in the conference bridge
when the ring-buffer ports are gone. -/
theorem twoStreams_leak :
    ¬ Runs.Always step WiredOnce {}
      [.onCallMediaState (some [.audio ⟨1, 8000, true, true, false⟩,
        .audio ⟨2, 16000, true, true, false⟩]), .destroy] := by
  intro hwired
  have hend := Runs.always_iff_forall_prefix.mp hwired _ (List.prefix_refl _)
  exact absurd (hend.removed (by decide)) (by decide)

end Signal2sip.Voip.BridgePorts
