import Signal2sip.Laws.SendReports

/-!
# Call messages for one device

Every message goes to all devices of an account. `destinationDeviceId`, which `sendIce` sets, says
which of them a `CallMessage` is meant for; `handleCallMessage` does not look at it, and tells RingRTC
of every part, in order. It tells nothing only of a message without parts, or when a read of the
identity keys for its first part throws.
-/

namespace Signal2sip

open Locked (Prog Throwing Oracle Trace)
open Locked.Throwing (Keeps keeps_pure keeps_locked)

/-! ## What RingRTC is to be told -/

/-- The message that is sent, as it arrives. -/
def OutgoingCallMessage.toCallMessage : OutgoingCallMessage → CallMessage
  | .offer id _ content => { offer := some (id, content) }
  | .answer id content => { answer := some (id, content) }
  | .iceUpdate id content destinationDeviceId =>
    { iceUpdate := [(id, content)], destinationDeviceId := destinationDeviceId }
  | .hangup id type deviceId => { hangup := some (id, type, deviceId) }

namespace CallMessage

/-- Is the message meant for the device? -/
def isFor (message : CallMessage) (deviceId : UInt32) : Bool :=
  message.destinationDeviceId.all (· = deviceId)

def hasNoPart (message : CallMessage) : Prop :=
  message.offer = none ∧ message.answer = none ∧ message.iceUpdate = [] ∧ message.hangup = none ∧
    message.busy = none

section Calls

variable (senderServiceId : String) (senderDeviceId localDeviceId : UInt32)

def offerCalls (message : CallMessage) (keys : Bytes × Bytes) : List RingRtcCall :=
  (message.offer.map fun (id, content) =>
    .receivedOffer senderServiceId id senderDeviceId localDeviceId content keys.1 keys.2).toList

def answerCalls (message : CallMessage) (keys : Bytes × Bytes) : List RingRtcCall :=
  (message.answer.map fun (id, content) =>
    .receivedAnswer senderServiceId id senderDeviceId content keys.1 keys.2).toList

def otherCalls (message : CallMessage) : List RingRtcCall :=
  (message.iceUpdate.map fun (id, content) =>
    .receivedIce senderServiceId id senderDeviceId content) ++
  (message.hangup.map fun (id, type, deviceId) =>
    .receivedHangup senderServiceId id senderDeviceId type deviceId).toList ++
  (message.busy.map fun id => .receivedBusy senderServiceId id senderDeviceId).toList

/-- One call for each part, in order. -/
def calls (message : CallMessage) (offerKeys answerKeys : Bytes × Bytes) : List RingRtcCall :=
  message.offerCalls senderServiceId senderDeviceId localDeviceId offerKeys ++
    (message.answerCalls senderServiceId senderDeviceId answerKeys ++
      message.otherCalls senderServiceId senderDeviceId)

variable {senderServiceId senderDeviceId localDeviceId} {message : CallMessage}

theorem offerCalls_eq_nil {keys : Bytes × Bytes} :
    message.offerCalls senderServiceId senderDeviceId localDeviceId keys = [] ↔
      message.offer = none := by
  rw [offerCalls, Option.toList_eq_nil_iff, Option.map_eq_none_iff]

theorem answerCalls_eq_nil {keys : Bytes × Bytes} :
    message.answerCalls senderServiceId senderDeviceId keys = [] ↔ message.answer = none := by
  rw [answerCalls, Option.toList_eq_nil_iff, Option.map_eq_none_iff]

theorem otherCalls_eq_nil :
    message.otherCalls senderServiceId senderDeviceId = [] ↔
      message.iceUpdate = [] ∧ message.hangup = none ∧ message.busy = none := by
  rw [otherCalls, List.append_eq_nil_iff, List.append_eq_nil_iff, List.map_eq_nil_iff,
    Option.toList_eq_nil_iff, Option.map_eq_none_iff, Option.toList_eq_nil_iff,
    Option.map_eq_none_iff, and_assoc]

/-- The keys make no difference to how many calls there are. -/
theorem length_offerCalls (keys keys' : Bytes × Bytes) :
    (message.offerCalls senderServiceId senderDeviceId localDeviceId keys).length =
      (message.offerCalls senderServiceId senderDeviceId localDeviceId keys').length := by
  rw [offerCalls, offerCalls]
  cases message.offer with
  | none => rfl
  | some offer => rfl

/-- The calls up to the first part for which no key can be read. -/
def callsRead (senderServiceId : String) (senderDeviceId localDeviceId : UInt32)
    (message : CallMessage) (offerRead answerRead : Bool) (offerKeys answerKeys : Bytes × Bytes) :
    List RingRtcCall :=
  if offerRead then
    message.offerCalls senderServiceId senderDeviceId localDeviceId offerKeys ++
      if answerRead then
        message.answerCalls senderServiceId senderDeviceId answerKeys ++
          message.otherCalls senderServiceId senderDeviceId
      else []
  else []

variable {offerRead answerRead : Bool} {offerKeys answerKeys : Bytes × Bytes}

/-- They are all of them when every key can be read. -/
theorem callsRead_eq_calls_iff (hoffer : offerRead = false → message.offer ≠ none)
    (hanswer : answerRead = false → message.answer ≠ none) :
    (∃ offerKeys' answerKeys',
      message.callsRead senderServiceId senderDeviceId localDeviceId offerRead answerRead offerKeys
          answerKeys =
        message.calls senderServiceId senderDeviceId localDeviceId offerKeys' answerKeys') ↔
      offerRead = true ∧ answerRead = true := by
  constructor
  · rintro ⟨offerKeys', answerKeys', hcalls⟩
    rw [callsRead, calls] at hcalls
    cases offerRead with
    | false => exact absurd (offerCalls_eq_nil.mp (List.append_eq_nil_iff.mp hcalls.symm).1) (hoffer rfl)
    | true =>
      rw [if_pos rfl] at hcalls
      cases answerRead with
      | false =>
        have hlength := congrArg List.length hcalls
        rw [if_neg (by decide), List.append_nil, List.length_append,
          length_offerCalls offerKeys offerKeys'] at hlength
        have hnil := List.length_eq_zero_iff.mp (Nat.left_eq_add.mp hlength)
        exact absurd (answerCalls_eq_nil.mp (List.append_eq_nil_iff.mp hnil).1) (hanswer rfl)
      | true => exact ⟨rfl, rfl⟩
  · rintro ⟨rfl, rfl⟩
    exact ⟨offerKeys, answerKeys, rfl⟩

/-- There are none when the message has no part, or the keys for its first part cannot be read. -/
theorem callsRead_eq_nil_iff :
    message.callsRead senderServiceId senderDeviceId localDeviceId offerRead answerRead offerKeys
        answerKeys = [] ↔
      message.hasNoPart ∨ offerRead = false ∨ message.offer = none ∧ answerRead = false := by
  rw [callsRead]
  cases offerRead with
  | false => exact iff_of_true rfl (.inr (.inl rfl))
  | true =>
    rw [if_pos rfl, List.append_eq_nil_iff, offerCalls_eq_nil]
    cases answerRead with
    | false =>
      constructor
      · exact fun h => .inr (.inr ⟨h.1, rfl⟩)
      · rintro (hempty | hread | ⟨hnone, -⟩)
        · exact ⟨hempty.1, rfl⟩
        · cases hread
        · exact ⟨hnone, rfl⟩
    | true =>
      rw [if_pos rfl, List.append_eq_nil_iff, answerCalls_eq_nil, otherCalls_eq_nil]
      constructor
      · exact .inl
      · rintro (hempty | hread | ⟨-, hread⟩)
        · exact hempty
        · cases hread
        · cases hread

end Calls

end CallMessage

/-! ## What RingRTC is told -/

def receivedCall {ν : Type} : Sigma (Answer ν) → Option RingRtcCall
  | ⟨.ringRtc call, _⟩ => some call
  | _ => none

def received {ν : Type} (trace : Trace Query (Answer ν)) : List RingRtcCall :=
  trace.filterMap receivedCall

/-- RingRTC is told of every part of a message that is meant for the device, and of none of any
other. -/
def ToldIfMeant {ν : Type} (senderServiceId : String) (senderDeviceId localDeviceId : UInt32)
    (message : CallMessage) (trace : Trace Query (Answer ν)) : Prop :=
  if message.isFor localDeviceId then
    ∃ offerKeys answerKeys, received trace =
      message.calls senderServiceId senderDeviceId localDeviceId offerKeys answerKeys
  else received trace = []

/-- Neither read of the identity keys throws: the sender's, at a turn, and the key pair's after it. A
row that is not there, or not found, is no exception. -/
def identityKeysRead {ν : Type} (senderServiceId : String)
    (o : Oracle AccountStores Query (Answer ν)) (n : Nat) : Bool :=
  (o.answer n (.loadRemoteIdentity senderServiceId)).isOk &&
    (o.answer (n + 2) .loadIdentityKeypair).isOk

/-- The identity keys can be read for a part that comes at a turn, if it is there. -/
def keysRead {ν α : Type} (senderServiceId : String) (part : Option α)
    (o : Oracle AccountStores Query (Answer ν)) (n : Nat) : Bool :=
  part.isNone || identityKeysRead senderServiceId o n

/-- The rule of what tells RingRTC nothing. -/
def Query.silent (_ : Bool) (q : Query) : Prop := ∀ call, q ≠ .ringRtc call

theorem Query.silent_of_fetching (held : Bool) (q : Query) (h : q.fetching held) :
    q.silent held := by
  rintro call rfl
  rcases h with hlocal | ⟨-, path, hget⟩
  · cases hlocal
  · cases hget

theorem Query.puts_silent (destination : String) (messages : List OutgoingMessage) :
    Query.Puts Query.silent destination messages :=
  ⟨fun _ => (nomatch ·), fun _ _ _ _ _ => (nomatch ·)⟩

section Handling

variable {ν : Type} {env : Signaling ν} {localAddress : Address}
  {o : Oracle AccountStores Query (Answer ν)} {n : Nat}

theorem received_append (trace trace' : Trace Query (Answer ν)) :
    received (trace ++ trace') = received trace ++ received trace' := List.filterMap_append

theorem received_of_silent {trace : Trace Query (Answer ν)}
    (h : ∀ e ∈ trace, ∃ held, e.1.silent held) : received trace = [] := by
  refine List.filterMap_eq_nil_iff.mpr fun e he => ?_
  obtain ⟨held, hsilent⟩ := h e he
  obtain ⟨q, answer⟩ := e
  cases q with
  | ringRtc call => exact absurd rfl (hsilent call)
  | _ => rfl

/-- What a part of `handleCallMessage` tells, and whether it returns. -/
def Tells (p : Call ν Unit) (o : Oracle AccountStores Query (Answer ν)) (n : Nat)
    (calls : List RingRtcCall) (returns : Bool) : Prop :=
  received (p.run.play o n).1 = calls ∧ (p.run.play o n).2.2.isOk = returns

theorem Tells.bind {p : Call ν Unit} {f : Unit → Call ν Unit} {calls calls' : List RingRtcCall}
    {returns : Bool} (hp : Tells p o n calls true)
    (hf : Tells (f ()) o (p.run.play o n).2.1 calls' returns) :
    Tells (p >>= f) o n (calls ++ calls') returns := by
  obtain ⟨hcalls, hreturns⟩ := hp
  cases hresult : (p.run.play o n).2.2 with
  | error e =>
    rw [hresult] at hreturns
    cases hreturns
  | ok a =>
    rw [Tells, Throwing.play_bind_ok hresult, received_append, hcalls]
    exact ⟨congrArg _ hf.1, hf.2⟩

theorem Tells.throws {p : Call ν Unit} {calls : List RingRtcCall} (hp : Tells p o n calls false)
    (f : Unit → Call ν Unit) : Tells (p >>= f) o n calls false := by
  obtain ⟨hcalls, hreturns⟩ := hp
  cases hresult : (p.run.play o n).2.2 with
  | error e =>
    rw [Tells, Throwing.play_bind_error hresult]
    exact ⟨hcalls, rfl⟩
  | ok a =>
    rw [hresult] at hreturns
    cases hreturns

/-- A call, whatever RingRTC sends meanwhile. -/
theorem tells_ringRtc (call : RingRtcCall) (n : Nat) :
    Tells (ringRtc env localAddress call) o n [call] true := by
  have hasked : ((ask (.ringRtc call) : Call ν SendCallbacks).run.play o n).2.2 =
      .ok (o.answer n (.ringRtc call)) := rfl
  have hsilent : Keeps Query.silent false (ExceptT.lift (SendCallbacks.run env localAddress
      (o.answer n (.ringRtc call))) : Call ν Unit) :=
    keeps_lift (leads_callbacks Query.silent_of_fetching Query.puts_silent
      (fun _ _ => (nomatch ·)) _)
  rw [Tells, ringRtc, Throwing.play_bind_ok hasked, received_append,
    received_of_silent hsilent.asked]
  constructor
  · rfl
  · have hlift : ∀ p : Routine ν Unit, ∀ m,
        ((ExceptT.lift p : Call ν Unit).run.play o m).2.2.isOk = true := fun p m => by
      have hplay : (ExceptT.lift p : Call ν Unit).run.play o m = _ := Prog.play_bind o p _ m
      rw [hplay]
      rfl
    exact hlift _ _

theorem tells_pure (n : Nat) : Tells (pure () : Call ν Unit) o n [] true := ⟨rfl, rfl⟩

theorem silent_identityKeys (senderServiceId : String) :
    Keeps Query.silent true (identityKeys senderServiceId : Call ν (Bytes × Bytes)) := by
  have hremote : Keeps Query.silent true
      (loadRemoteIdentity senderServiceId : Call ν (Option Bytes)) :=
    (keeps_ask fun _ => (nomatch ·)).bind fun statement => keeps_loading statement _
  refine hremote.bind fun stored => ?_
  exact (keeps_ask fun _ => (nomatch ·)).bind fun keypair =>
    (Throwing.keeps_ofExcept _).bind fun _ => keeps_pure _

/-- The keys can be had when neither read throws. -/
theorem isOk_identityKeys (senderServiceId : String) (n : Nat) :
    ((Throwing.locked (identityKeys senderServiceId) : Call ν (Bytes × Bytes)).run.play o n).2.2.isOk =
      identityKeysRead senderServiceId o n := by
  have hasked : ((ask (.loadRemoteIdentity senderServiceId) :
      Call ν (Answer ν (.loadRemoteIdentity senderServiceId))).run.play o n).2.2 =
        .ok (o.answer n (.loadRemoteIdentity senderServiceId)) := rfl
  rw [Throwing.play_locked, identityKeys, identityKeysRead]
  cases hstatement : o.answer n (.loadRemoteIdentity senderServiceId) with
  | error e =>
    rw [hstatement] at hasked
    have hthrows : ((loadRemoteIdentity senderServiceId : Call ν (Option Bytes)).run.play o n).2.2 =
        .error e := by
      rw [loadRemoteIdentity, Throwing.play_bind_ok hasked]
      rfl
    rw [Throwing.play_bind_error hthrows]
    rfl
  | ok steps =>
    rw [hstatement] at hasked
    have hstored : ((loadRemoteIdentity senderServiceId : Call ν (Option Bytes)).run.play o n).2 =
        (n + 2, .ok (if steps then (o.state (n + 1)).remoteIdentities.lookup senderServiceId
          else none)) := by
      rw [loadRemoteIdentity, Throwing.play_bind_ok hasked]
      rfl
    have hkeypair : ((ask .loadIdentityKeypair : Call ν (Answer ν .loadIdentityKeypair)).run.play o
        (n + 2)).2.2 = .ok (o.answer (n + 2) .loadIdentityKeypair) := rfl
    rw [Throwing.play_bind_ok (congrArg Prod.snd hstored), congrArg Prod.fst hstored,
      Throwing.play_bind_ok hkeypair]
    cases o.answer (n + 2) .loadIdentityKeypair with
    | error e => rfl
    | ok keypair => rfl

/-- A part for which the identity keys are read first. -/
theorem tells_keyed (senderServiceId : String) (call : Bytes × Bytes → RingRtcCall) (n : Nat) :
    ∃ keys, Tells
      (do
        let keys ← Throwing.locked (identityKeys senderServiceId)
        ringRtc env localAddress (call keys)) o n
      (if identityKeysRead senderServiceId o n then [call keys] else [])
      (identityKeysRead senderServiceId o n) := by
  have hsilent := keeps_locked (silent_identityKeys (ν := ν) senderServiceId)
  rw [← isOk_identityKeys senderServiceId n]
  cases hkeys : ((Throwing.locked (identityKeys senderServiceId) :
      Call ν (Bytes × Bytes)).run.play o n).2.2 with
  | error e =>
    refine ⟨default, ?_⟩
    rw [Tells, Throwing.play_bind_error hkeys]
    exact ⟨received_of_silent hsilent.asked, rfl⟩
  | ok keys =>
    refine ⟨keys, ?_⟩
    rw [Tells, Throwing.play_bind_ok hkeys, received_append, received_of_silent hsilent.asked]
    exact tells_ringRtc (call keys) _

/-- The same, of an optional part. -/
theorem tells_part {α : Type} (senderServiceId : String) (part : Option α)
    (call : α → Bytes × Bytes → RingRtcCall) (n : Nat) :
    ∃ keys, Tells
      (whenPresent part fun a => do
        let keys ← Throwing.locked (identityKeys senderServiceId)
        ringRtc env localAddress (call a keys)) o n
      (if keysRead senderServiceId part o n then (part.map (call · keys)).toList else [])
      (keysRead senderServiceId part o n) := by
  cases part with
  | none => exact ⟨default, tells_pure n⟩
  | some a => exact tells_keyed senderServiceId (call a) n

theorem tells_otherCalls (senderServiceId : String) (senderDeviceId : UInt32)
    (message : CallMessage) (n : Nat) :
    Tells
      (do
        receivedIceUpdates env localAddress senderServiceId senderDeviceId message.iceUpdate
        whenPresent message.hangup fun (id, type, deviceId) =>
          ringRtc env localAddress (.receivedHangup senderServiceId id senderDeviceId type deviceId)
        whenPresent message.busy fun id =>
          ringRtc env localAddress (.receivedBusy senderServiceId id senderDeviceId)) o n
      (message.otherCalls senderServiceId senderDeviceId) true := by
  have hices : ∀ (ices : List (CallId × Bytes)) (n : Nat), Tells
      (receivedIceUpdates env localAddress senderServiceId senderDeviceId ices) o n
      (ices.map fun (id, content) => .receivedIce senderServiceId id senderDeviceId content)
      true := by
    intro ices
    induction ices with
    | nil => exact tells_pure
    | cons ice ices ih => exact fun n => (tells_ringRtc _ n).bind (ih _)
  have hwhen : ∀ {α : Type} (part : Option α) (call : α → RingRtcCall) (n : Nat), Tells
      (whenPresent part fun a => ringRtc env localAddress (call a)) o n (part.map call).toList
      true := by
    intro α part call n
    cases part with
    | none => exact tells_pure n
    | some a => exact tells_ringRtc (call a) n
  rw [CallMessage.otherCalls, List.append_assoc]
  exact (hices message.iceUpdate n).bind ((hwhen message.hangup _ _).bind (hwhen message.busy _ _))

/-- What `handleCallMessage` does with an offer. -/
def handleOffer (env : Signaling ν) (localAddress : Address) (senderServiceId : String)
    (senderDeviceId : UInt32) (message : CallMessage) : Call ν Unit :=
  whenPresent message.offer fun (id, content) => do
    let keys ← Throwing.locked (identityKeys senderServiceId)
    ringRtc env localAddress (.receivedOffer senderServiceId id senderDeviceId localAddress.deviceId
      content keys.1 keys.2)

/-- The turn at which the answer is handled. -/
def answerTurn (env : Signaling ν) (localAddress : Address) (senderServiceId : String)
    (senderDeviceId : UInt32) (message : CallMessage)
    (o : Oracle AccountStores Query (Answer ν)) (n : Nat) : Nat :=
  ((handleOffer env localAddress senderServiceId senderDeviceId message).run.play o n).2.1

/-- RingRTC is told of the parts, in order, up to the first for which no key can be read. -/
theorem received_handleCallMessage (senderServiceId : String) (senderDeviceId : UInt32)
    (message : CallMessage) (n : Nat) :
    ∃ offerKeys answerKeys,
      received ((handleCallMessage env localAddress senderServiceId senderDeviceId message).run.play
        o n).1 =
        message.callsRead senderServiceId senderDeviceId localAddress.deviceId
          (keysRead senderServiceId message.offer o n)
          (keysRead senderServiceId message.answer o
            (answerTurn env localAddress senderServiceId senderDeviceId message o n))
          offerKeys answerKeys := by
  obtain ⟨offerKeys, hoffer⟩ := @tells_part ν env localAddress o _ senderServiceId message.offer
    (fun (id, content) keys => .receivedOffer senderServiceId id senderDeviceId localAddress.deviceId
      content keys.1 keys.2) n
  obtain ⟨answerKeys, hanswer⟩ := @tells_part ν env localAddress o _ senderServiceId message.answer
    (fun (id, content) keys => .receivedAnswer senderServiceId id senderDeviceId content keys.1 keys.2)
    (answerTurn env localAddress senderServiceId senderDeviceId message o n)
  refine ⟨offerKeys, answerKeys, ?_⟩
  cases hofferRead : keysRead senderServiceId message.offer o n with
  | false =>
    rw [hofferRead] at hoffer
    exact (hoffer.throws _).1
  | true =>
    rw [hofferRead] at hoffer
    cases hanswerRead : keysRead senderServiceId message.answer o
      (answerTurn env localAddress senderServiceId senderDeviceId message o n) with
    | false =>
      rw [hanswerRead] at hanswer
      exact (hoffer.bind (hanswer.throws _)).1
    | true =>
      rw [hanswerRead] at hanswer
      exact (hoffer.bind (hanswer.bind (tells_otherCalls _ _ message _))).1

theorem ne_none_of_keysRead {α : Type} {senderServiceId : String} {part : Option α}
    (h : keysRead senderServiceId part o n = false) :
    part ≠ none := by
  rintro rfl
  cases h

/-- RingRTC is told as `destinationDeviceId` says exactly when the message is meant for the device
and no read of the identity keys for its offer and its answer throws, or it is not and has no part, or
first an offer or an answer for which such a read throws. -/
theorem toldIfMeant_iff (env : Signaling ν) (localAddress : Address) (senderServiceId : String)
    (senderDeviceId : UInt32) (message : CallMessage)
    (o : Oracle AccountStores Query (Answer ν)) (n : Nat) :
    let offerRead := keysRead senderServiceId message.offer o n
    let answerRead := keysRead senderServiceId message.answer o
      (answerTurn env localAddress senderServiceId senderDeviceId message o n)
    ToldIfMeant senderServiceId senderDeviceId localAddress.deviceId message
        ((handleCallMessage env localAddress senderServiceId senderDeviceId message).run.play o n).1 ↔
      if message.isFor localAddress.deviceId then offerRead = true ∧ answerRead = true
      else message.hasNoPart ∨ offerRead = false ∨ message.offer = none ∧ answerRead = false := by
  intro offerRead answerRead
  obtain ⟨offerKeys, answerKeys, hreceived⟩ := @received_handleCallMessage ν env localAddress o
    senderServiceId senderDeviceId message n
  rw [ToldIfMeant, hreceived]
  split
  · exact CallMessage.callsRead_eq_calls_iff ne_none_of_keysRead ne_none_of_keysRead
  · exact CallMessage.callsRead_eq_nil_iff

end Handling

/-- An ICE update for the second device of an account is told to RingRTC on the first. -/
theorem iceUpdate_for_other_device :
    ¬ ToldIfMeant "peer" 1 1 (OutgoingCallMessage.iceUpdate 7 [] (some 2)).toCallMessage
      ((handleCallMessage refusing ⟨"self", 1⟩ "peer" 1
        (OutgoingCallMessage.iceUpdate 7 [] (some 2)).toCallMessage).run.play offline 0).1 := by
  intro htold
  rw [ToldIfMeant, if_neg (by decide)] at htold
  exact List.cons_ne_nil _ _ htold

end Signal2sip
