import Signal2sip.Laws.SessionSerial

/-!
# What a send callback reports

RingRTC sends its next message when it is told what became of the last one. The daemon only ever
tells it that a message was sent. A message whose last `PUT /v1/messages` was answered 2xx is reported
so, once; a send that ends in an exception is not reported at all, and RingRTC's own timeout ends the
call.

`send_ok_of_delivered` is the bridge between the two: nothing that follows a delivery throws, since
the retry of a 409 swallows its own exceptions.
-/

namespace Signal2sip

open Locked (Prog Throwing Oracle Trace)
open Locked.Throwing (Keeps keeps_locked)

/-! ## Reports and deliveries -/

inductive Report
  | sent (callId : CallId)
  | sendFailure (callId : CallId)
  deriving DecidableEq

def reportOf {ν : Type} : Sigma (Answer ν) → Option Report
  | ⟨.messageSent callId, _⟩ => some (.sent callId)
  | ⟨.messageSendFailure callId, _⟩ => some (.sendFailure callId)
  | _ => none

def reports {ν : Type} (trace : Trace Query (Answer ν)) : List Report := trace.filterMap reportOf

def putAnswer {ν : Type} : Sigma (Answer ν) → Option (Except RuntimeError Response)
  | ⟨.request "PUT" _ _, answer⟩ => some answer
  | _ => none

/-- The answers to the `PUT`s of a trace. -/
def putAnswers {ν : Type} (trace : Trace Query (Answer ν)) : List (Except RuntimeError Response) :=
  trace.filterMap putAnswer

/-- The last `PUT` was answered 2xx. -/
def Delivered {ν : Type} (trace : Trace Query (Answer ν)) : Prop :=
  ∃ response, (putAnswers trace).getLast? = some (.ok response) ∧ response.status / 100 = 2

section Sending

variable {ν : Type} {env : Signaling ν} {localAddress : Address}

theorem reports_append (trace trace' : Trace Query (Answer ν)) :
    reports (trace ++ trace') = reports trace ++ reports trace' := List.filterMap_append

theorem putAnswers_append (trace trace' : Trace Query (Answer ν)) :
    putAnswers (trace ++ trace') = putAnswers trace ++ putAnswers trace' := List.filterMap_append

theorem not_delivered_of_no_put {trace : Trace Query (Answer ν)} (h : putAnswers trace = []) :
    ¬ Delivered trace := by
  rintro ⟨response, hlast, -⟩
  rw [h] at hlast
  cases hlast

theorem not_delivered_of_error {trace : Trace Query (Answer ν)} {e : RuntimeError}
    (h : (putAnswers trace).getLast? = some (.error e)) : ¬ Delivered trace := by
  rintro ⟨response, hlast, -⟩
  rw [h] at hlast
  cases hlast

/-! ## What the parts of a send ask -/

/-- Sending reports nothing. -/
theorem reports_of_keeps {α : Type} {p : Call ν α} (hp : Keeps Query.sending false p)
    (o : Oracle AccountStores Query (Answer ν)) (n : Nat) : reports (p.run.play o n).1 = [] := by
  apply List.filterMap_eq_nil_iff.mpr
  intro e he
  obtain ⟨held, -, hnot⟩ := Prog.Leads.asked hp o n e he
  obtain ⟨q, answer⟩ := e
  cases q with
  | messageSent callId => exact absurd rfl (hnot callId).1
  | messageSendFailure callId => exact absurd rfl (hnot callId).2
  | _ => rfl

/-- Finding out a peer's devices and encrypting for them puts nothing. -/
theorem putAnswers_of_keeps {α : Type} {p : Call ν α} (hp : Keeps Query.fetching false p)
    (o : Oracle AccountStores Query (Answer ν)) (n : Nat) : putAnswers (p.run.play o n).1 = [] := by
  apply List.filterMap_eq_nil_iff.mpr
  intro e he
  obtain ⟨held, hfetching⟩ := Prog.Leads.asked hp o n e he
  obtain ⟨q, answer⟩ := e
  rcases hfetching with hlocal | ⟨-, path, rfl⟩
  · cases q with
    | request verb path body => cases hlocal
    | _ => rfl
  · rfl

/-- A `PUT` that throws is the last one. -/
theorem putMessages_error {destination : String} {messages : List OutgoingMessage} {online : Bool}
    {o : Oracle AccountStores Query (Answer ν)} {n : Nat} {e : RuntimeError}
    (h : ((putMessages destination messages online).run.play o n).2.2 = .error e) :
    (putAnswers ((putMessages destination messages online).run.play o n).1).getLast? =
      some (.error e) := by
  have hanswer : o.answer (n + 1) (.request "PUT" ("/v1/messages/" ++ destination ++ "?story=false")
      (some ⟨destination, o.answer n .systemNow, messages, online⟩)) = .error e := h
  exact congrArg some hanswer

/-- A computation after which nothing throws. -/
def NeverThrows {α : Type} (p : Call ν α) : Prop :=
  ∀ (o : Oracle AccountStores Query (Answer ν)) (n : Nat), ∃ a, (p.run.play o n).2.2 = .ok a

theorem NeverThrows.bind {α β : Type} {p : Call ν α} {f : α → Call ν β} (hp : NeverThrows p)
    (hf : ∀ a, NeverThrows (f a)) : NeverThrows (p >>= f) := by
  intro o n
  obtain ⟨a, ha⟩ := hp o n
  obtain ⟨b, hb⟩ := hf a o (p.run.play o n).2.1
  exact ⟨b, by rw [Throwing.play_bind_ok ha, hb]⟩

theorem neverThrows_pure {α : Type} (a : α) : NeverThrows (pure a : Call ν α) := fun _ _ => ⟨a, rfl⟩

theorem neverThrows_tryCatch_pure {α : Type} (p : Call ν α) (a : α) :
    NeverThrows (tryCatch p fun _ => pure a) := by
  intro o n
  have hplay : ((tryCatch p fun _ => pure a).run.play o n).2 =
      _ := congrArg Prod.snd (Prog.play_bind o p.run _ n)
  rw [hplay]
  cases (p.run.play o n).2.2 with
  | ok b => exact ⟨b, rfl⟩
  | error e => exact ⟨a, rfl⟩

theorem neverThrows_lastResponse (destinationServiceId : String) (messages : List OutgoingMessage)
    (response : Response) :
    NeverThrows (lastResponse env destinationServiceId messages response) := by
  unfold lastResponse
  split
  · exact neverThrows_tryCatch_pure _ _
  · exact neverThrows_pure _

theorem neverThrows_forgetStaleDevices (destinationServiceId : String) (response : Response) :
    NeverThrows (forgetStaleDevices destinationServiceId response : Call ν Unit) := by
  unfold forgetStaleDevices
  split
  · exact fun _ _ => ⟨(), rfl⟩
  · exact neverThrows_pure _

/-! ## What follows a delivery -/

/-- Where a computation throws, its last `PUT` was not answered 2xx. -/
def ThrowsUndelivered {α : Type} (p : Call ν α) : Prop :=
  ∀ (o : Oracle AccountStores Query (Answer ν)) (n : Nat) (e : RuntimeError),
    (p.run.play o n).2.2 = .error e → ¬ Delivered (p.run.play o n).1

theorem NeverThrows.throwsUndelivered {α : Type} {p : Call ν α} (hp : NeverThrows p) :
    ThrowsUndelivered p := by
  intro o n e he
  obtain ⟨a, ha⟩ := hp o n
  rw [ha] at he
  cases he

theorem ThrowsUndelivered.bind {α β : Type} {p : Call ν α} {f : α → Call ν β}
    (hp : ThrowsUndelivered p) (hf : ∀ a, NeverThrows (f a)) : ThrowsUndelivered (p >>= f) := by
  intro o n e he
  cases hresult : (p.run.play o n).2.2 with
  | error e' =>
    rw [Throwing.play_bind_error hresult]
    exact hp o n e' hresult
  | ok a =>
    obtain ⟨b, hb⟩ := hf a o (p.run.play o n).2.1
    rw [Throwing.play_bind_ok hresult, hb] at he
    cases he

/-- What puts nothing before it changes nothing. -/
theorem ThrowsUndelivered.after {α β : Type} {p : Call ν α} {f : α → Call ν β}
    (hp : Keeps Query.fetching false p) (hf : ∀ a, ThrowsUndelivered (f a)) :
    ThrowsUndelivered (p >>= f) := by
  intro o n e he
  have hpart := putAnswers_of_keeps hp o n
  cases hresult : (p.run.play o n).2.2 with
  | error e' =>
    rw [Throwing.play_bind_error hresult]
    exact not_delivered_of_no_put hpart
  | ok a =>
    rw [Throwing.play_bind_ok hresult] at he ⊢
    rw [Delivered, putAnswers_append, hpart, List.nil_append]
    exact hf a o _ e he

theorem throwsUndelivered_sendContent (destinationServiceId : String) (content : OutgoingContent) :
    ThrowsUndelivered (sendContent env localAddress destinationServiceId content) := by
  refine .after (keeps_resolveDeviceList _) fun deviceIds => ?_
  split
  · exact (neverThrows_pure _).throwsUndelivered
  · refine .after (keeps_locked (keeps_encryptAll _ _ _)) fun messages => ?_
    have hput : ThrowsUndelivered
        (putMessages destinationServiceId messages true : Call ν Response) :=
      fun _ _ _ he => not_delivered_of_error (putMessages_error he)
    refine hput.bind fun response => (neverThrows_lastResponse _ _ _).bind fun response => ?_
    exact (neverThrows_forgetStaleDevices _ _).bind fun _ => neverThrows_pure _

/-- Nothing that follows a delivery throws. -/
theorem send_ok_of_delivered (callback : SendCallback) {o : Oracle AccountStores Query (Answer ν)}
    {n : Nat} (h : Delivered ((callback.send env localAddress).run.play o n).1) :
    ∃ deviceIds, ((callback.send env localAddress).run.play o n).2.2 = .ok deviceIds := by
  have hundelivered : ThrowsUndelivered (callback.send env localAddress) := by
    cases callback <;> exact throwsUndelivered_sendContent _ _
  have hthrows := hundelivered o n
  cases hresult : ((callback.send env localAddress).run.play o n).2.2 with
  | ok deviceIds => exact ⟨deviceIds, rfl⟩
  | error e => exact absurd h (hthrows e hresult)

/-! ## The callback -/

/-- The caller drops the result, and whatever is thrown. -/
theorem play_dropped {α : Type} (f : Call ν α) (o : Oracle AccountStores Query (Answer ν))
    (n : Nat) :
    ((f.run.bind fun _ => .ret () : Routine ν Unit).play o n).1 = (f.run.play o n).1 := by
  rw [Prog.play_bind]
  exact List.append_nil _

theorem play_safeCallback (f : Call ν Unit) (o : Oracle AccountStores Query (Answer ν)) (n : Nat) :
    ((safeCallback f).play o n).1 = (f.run.play o n).1 :=
  play_dropped f o n

theorem play_lift (p : Routine ν Unit) (o : Oracle AccountStores Query (Answer ν)) (n : Nat) :
    ((ExceptT.lift p : Call ν Unit).run.play o n).1 = (p.play o n).1 := by
  refine (congrArg Prod.fst (Prog.play_bind o p _ n)).trans ?_
  exact List.append_nil _

/-- A send that throws is the end of the callback. -/
theorem onSend_trace_error {callback : SendCallback} {inside : Routine ν Unit}
    {o : Oracle AccountStores Query (Answer ν)} {n : Nat} {e : RuntimeError}
    (h : ((callback.send env localAddress).run.play o n).2.2 = .error e) :
    ((onSend env localAddress callback inside).play o n).1 =
      ((callback.send env localAddress).run.play o n).1 := by
  rw [onSend, play_safeCallback, Throwing.play_bind_error h]

/-- After any other, the message is reported as sent. -/
theorem onSend_trace_ok {callback : SendCallback} {inside : Routine ν Unit}
    {o : Oracle AccountStores Query (Answer ν)} {n : Nat} {deviceIds : List Int}
    (h : ((callback.send env localAddress).run.play o n).2.2 = .ok deviceIds) :
    ((onSend env localAddress callback inside).play o n).1 =
      ((callback.send env localAddress).run.play o n).1 ++
        ⟨.messageSent callback.callId, ()⟩ ::
          (inside.play o (((callback.send env localAddress).run.play o n).2.1 + 1)).1 := by
  rw [onSend, play_safeCallback, Throwing.play_bind_ok h, ← play_lift]
  rfl

/-- For every libsignal, every callback and every outcome of its requests, with what RingRTC does
while it is told: the callback reports nothing, or it reports that its message was sent, once, and
then come the reports of the callbacks inside. It reports nothing when the send throws, and it does
report when the last `PUT` was answered 2xx. -/
theorem send_reported (env : Signaling ν) (localAddress : Address) (callback : SendCallback)
    (inside : Routine ν Unit) (o : Oracle AccountStores Query (Answer ν)) (n : Nat) :
    let sending := (callback.send env localAddress).run.play o n
    let reported := reports ((onSend env localAddress callback inside).play o n).1
    let sent := .sent callback.callId :: reports (inside.play o (sending.2.1 + 1)).1
    (reported = [] ∨ reported = sent) ∧
      (∀ e, sending.2.2 = .error e → reported = []) ∧
      (Delivered sending.1 → reported = sent) := by
  intro sending reported sent
  have hquiet : reports sending.1 = [] := reports_of_keeps
    (keeps_send Query.sending_of_fetching Query.puts_sending callback) o n
  have herror : ∀ e, sending.2.2 = .error e → reported = [] := fun e he =>
    (congrArg reports (onSend_trace_error he)).trans hquiet
  have hok : ∀ deviceIds, sending.2.2 = .ok deviceIds → reported = sent := fun deviceIds h => by
    refine (congrArg reports (onSend_trace_ok h)).trans ?_
    rw [reports_append, hquiet]
    rfl
  refine ⟨?_, herror, fun hdelivered => ?_⟩
  · cases hresult : sending.2.2 with
    | error e => exact .inl (herror e hresult)
    | ok deviceIds => exact .inr (hok deviceIds hresult)
  · obtain ⟨deviceIds, h⟩ := send_ok_of_delivered callback hdelivered
    exact hok deviceIds h

end Sending

/-! ## A send that throws -/

/-- One report for each message: sent if the last `PUT` was answered 2xx, a failure otherwise. -/
def ReportsOutcome {ν : Type} (callback : SendCallback) (sending whole : Trace Query (Answer ν)) :
    Prop :=
  (Delivered sending → reports whole = [.sent callback.callId]) ∧
    (¬ Delivered sending → reports whole = [.sendFailure callback.callId])

/-- No request is answered. -/
def offline : Oracle AccountStores Query (Answer Unit) where
  state := fun _ => {}
  answer
    | _, .request _ _ _ => .error ⟨"request timed out"⟩
    | _, .libsignal => ()
    | _, .steadyNow => 0
    | _, .systemNow => 0
    | _, .loadSession _ => .ok true
    | _, .loadRemoteIdentity _ => .ok true
    | _, .loadIdentityKeypair => .ok none
    | _, .ringRtc _ => .none
    | _, .messageSent _ => ()
    | _, .messageSendFailure _ => ()

/-- A libsignal that accepts nothing. -/
def refusing : Signaling Unit :=
  let refused : RuntimeError := ⟨"invalid argument"⟩
  { processPreKeyBundle := fun _ _ _ => .ret (.error refused)
    encryptMessage := fun _ _ _ _ => .ret (.error refused)
    decryptPreKeyMessage := fun _ _ _ _ => .ret (.error refused)
    decryptMessage := fun _ _ _ _ => .ret (.error refused)
    sealedSessionCipherDecryptToUsmc := fun _ _ => .ret (.error refused)
    senderCertificateValidate := fun _ _ => .error refused
    serviceIdFromBinary := fun _ => .error refused
    remoteRegistrationId := fun _ => .error refused
    buildDecryptionErrorMessage := fun _ _ _ _ => .error refused
    parseKeys := fun _ _ => .error refused
    parseExtraDevices := fun _ => .error refused
    serialize := fun _ => [] }

/-- A hangup that cannot be sent is never reported. -/
theorem offline_hangup_unreported :
    ¬ ReportsOutcome (.sendHangup "peer" 1 0 1)
      (((SendCallback.sendHangup "peer" 1 0 1).send refusing ⟨"self", 1⟩).run.play offline 0).1
      ((onSend refusing ⟨"self", 1⟩ (.sendHangup "peer" 1 0 1) (.ret ())).play offline 0).1 := by
  rintro ⟨-, hfailure⟩
  refine absurd (hfailure (not_delivered_of_no_put ?_)) ?_
  · decide
  · decide

end Signal2sip
