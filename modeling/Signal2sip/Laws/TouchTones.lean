import Signal2sip.Laws.CallSteps
import Signal2sip.Laws.KeysAuthority

/-!
# Touch tones go to the right call

A text of one to 32 touch-tone characters is dialled into the leg that the account holds when its
sender is the account's `remotePeerId`. That is the peer of the last call state reported for the
account, of whichever call, and it outlives the call. `farEnd` records for each leg who is really at
the other end of the Signal call that it bridges: the peer whose ringing dialled the leg, or the
target that the outgoing call of an INVITE was placed to.

Pushes come on threads of their own, so they run between any two steps of the handler that is under
way (`LineRun.handler`); `callHandoffMutex` makes the check and the dialling one step.

- `onPush_dials_iff`: when `onPush` dials, and what;
- `rightCall_iff`: one push, in any state;
- `rightCall_along_iff`: along every run, the tones go to the right call exactly when no tones of
  the remembered peer arrive while the leg that the account holds has another far end, or none yet.
-/

namespace Signal2sip

open Sqlite (Faults)
open Runs (Along)

/-! ## Texts -/

section Texts

variable (env : PushEnv) (db : Db) (acct : AccountState) (verb path : String) (body : Bytes)

/-- The text message that a push carries. -/
def pushedText : Option DataMessage :=
  match (receive env db acct verb path body).2 with
  | .decrypted _ _ plaintext =>
    match env.parseContent plaintext with
    | some (.dataMessage message) => some message
    | _ => none
  | _ => none

/-- A text that may be meant as touch tones. -/
def DataMessage.isTones (message : DataMessage) : Prop :=
  isDtmf message.body = true ∧ message.hasGroupV2 = false

/-- The leg that tones go into. -/
def AccountState.bridgedLeg (acct : AccountState) : Option Nat := acct.sipCall.or acct.incomingSipCall

variable {env db acct verb path body} {leg : Nat} {digits : String}

theorem handleDataMessage_dials_iff {senderServiceId : String} {message : DataMessage} :
    .dialDtmf leg digits ∈ handleDataMessage acct senderServiceId message ↔
      message.isTones ∧ senderServiceId = acct.remotePeerId ∧ acct.bridgedLeg = some leg ∧
        digits = message.body := by
  unfold handleDataMessage DataMessage.isTones AccountState.bridgedLeg
  split
  · next h =>
    obtain ⟨hgroup, hdtmf, hsender⟩ := h
    cases hleg : acct.sipCall.or acct.incomingSipCall with
    | none => simp
    | some leg' =>
      simp only [List.mem_singleton, Action.dialDtmf.injEq, Option.some.injEq]
      constructor
      · rintro ⟨rfl, rfl⟩
        exact ⟨⟨hdtmf, by simpa using hgroup⟩, hsender, rfl, rfl⟩
      · rintro ⟨-, -, rfl, rfl⟩
        exact ⟨rfl, rfl⟩
  · next h =>
    simp only [List.not_mem_nil, false_iff]
    rintro ⟨⟨hdtmf, hgroup⟩, hsender, -⟩
    exact h ⟨by simp [hgroup], hdtmf, hsender⟩

/-- A push dials for a text only: one that the account's remembered peer sent. -/
theorem onPush_dials_iff {f : Faults} :
    .dialDtmf leg digits ∈ (onPush env db acct verb path body f).out ↔
      ∃ message, pushedText env db acct verb path body = some message ∧ message.isTones ∧
        authenticatedSender env db acct verb path body = some acct.remotePeerId ∧
        acct.bridgedLeg = some leg ∧ digits = message.body := by
  unfold onPush pushedText authenticatedSender
  generalize receive env db acct verb path body = received
  obtain ⟨db', received⟩ := received
  cases received with
  | ignored => simp
  | failed reply => cases reply <;> simp
  | decrypted sender device plaintext =>
    cases hc : env.parseContent plaintext with
    | none => simp [hc]
    | some content =>
      cases content with
      | dataMessage message =>
        simp only [hc, handleContent, handleDataMessage_dials_iff, Option.some.injEq]
        constructor
        · rintro ⟨htones, hsender, hleg, hdigits⟩
          exact ⟨message, rfl, htones, hsender, hleg, hdigits⟩
        · rintro ⟨message', rfl, htones, hsender, hleg, hdigits⟩
          exact ⟨htones, hsender, hleg, hdigits⟩
      | callMessage message => simp [hc, handleContent]
      | other => simp [hc, handleContent]
      | syncMessage message =>
        obtain ⟨keys⟩ := message
        rcases keys with _ | _ | aep
        · simp [hc, handleContent]
        · simp [hc, handleContent]
        · simp only [hc, handleContent, handleKeys, reduceCtorEq, false_and, exists_false, iff_false]
          split <;> simp

end Texts

/-! ## Who is at the other end -/

/-- The far end that the handler of an event gives to a leg: to the one that it dials for a ringing call
(`farEndOf_ringing`), and to an INVITE's when it has the call to the resolved target placed
(`farEndOf_inviteResolved`). -/
def farEndOf (d : Daemon) : DaemonEvent → Option (Nat × String)
  | .callState account remotePeerId _ .ringing _ =>
    match d.g_accounts.lookup account with
    | none => none
    | some acct =>
      if acct.isCallee && d.canBridgeToSip acct.config then some (d.nextSerial + 1, remotePeerId)
      else none
  | .inviteResolved leg (.ok target) _ =>
    match d.pendingInvites.lookup leg with
    | none => none
    | some acct =>
      if (d.account? acct).isSome ∧ target ≠ "" then some (leg, target) else none
  | _ => none

/-- The leg that a ringing call is given as its far end's is the one dialled for that call. -/
theorem farEndOf_ringing {d : Daemon} {account remotePeerId : String} {callId : CallId}
    {contact : Except RuntimeError (Option SyncedContactRecord)} {leg : Nat} {peer : String}
    (h : farEndOf d (.callState account remotePeerId callId .ringing contact) = some (leg, peer)) :
    peer = remotePeerId ∧
      ∃ l, (d.step (.callState account remotePeerId callId .ringing contact)).legs.lookup leg =
        some l ∧ l.call = some callId := by
  simp only [farEndOf] at h
  split at h
  · cases h
  · next acct hacct =>
    split at h
    · next hdials =>
      obtain ⟨rfl, rfl⟩ := Prod.mk.inj (Option.some.inj h)
      have hdials : Dials d acct := Bool.and_eq_true_iff.mp hdials
      obtain ⟨sip, out, hstep⟩ := @step_callState_dials d account remotePeerId callId contact acct hacct
        hdials
      rw [hstep]
      exact ⟨rfl, _, AList.lookup_insert _, rfl⟩
    · cases h

/-- The leg of an INVITE is given the target as its far end when the call to it is asked for. -/
theorem farEndOf_inviteResolved {d : Daemon} {leg leg' : Nat}
    {resolvedTarget : Except RuntimeError String} {callId : CallId} {peer : String}
    (h : farEndOf d (.inviteResolved leg' resolvedTarget callId) = some (leg, peer)) :
    leg = leg' ∧ resolvedTarget = .ok peer ∧ ∃ acct, d.pendingInvites.lookup leg = some acct ∧
      .startOutgoing acct.name peer ∈ (d.step (.inviteResolved leg' resolvedTarget callId)).out := by
  cases resolvedTarget with
  | error e => cases h
  | ok target =>
    simp only [farEndOf] at h
    split at h
    · cases h
    · next acct hpending =>
      split at h
      · next hcond =>
        obtain ⟨rfl, rfl⟩ := Prod.mk.inj (Option.some.inj h)
        refine ⟨rfl, rfl, acct, hpending, ?_⟩
        unfold Daemon.step DaemonEvent.script onInviteResolved
        simp only [hpending, hcond.1, if_true, Script.exec_act_cons]
        unfold startOutgoingCall
        simp only
        rw [if_neg hcond.2, Script.exec_act_cons, Script.exec_act_cons]
        split
        · show _ ∈ (Daemon.stopped .incomingSipCall acct.name _).out
          rw [stopped_out]
          exact List.mem_append_left _ List.mem_cons_self
        · exact List.mem_cons_self
      · cases h

/-! ## Runs -/

/-- A daemon and its database, the rest of the handler that is under way, and who is at the far end
of each leg, as `farEndOf` gives it. -/
structure LineRun where
  db : Db
  daemon : Daemon
  handler : Script Daemon := []
  farEnd : Table Nat String := ∅

/-- An event finds its handler; the handler under way takes its next step; a push arrives; another
process writes to the database. -/
inductive LineEvent
  | start (e : DaemonEvent)
  | advance
  | push (account verb path : String) (body : Bytes) (f : Faults)
  | elsewhere (db : Db)

namespace LineRun

/-- Handlers other than `onPush` take turns. -/
def start (s : LineRun) (e : DaemonEvent) : LineRun :=
  if s.handler = [] then
    { s with
      daemon := s.daemon.quiet
      handler := e.script s.daemon
      farEnd := match farEndOf s.daemon e with
        | some (leg, peer) => s.farEnd.insert leg peer
        | none => s.farEnd }
  else s

def advance (s : LineRun) : LineRun :=
  match s.handler with
  | [] => s
  | f :: fs =>
    match f s.daemon with
    | some d => { s with daemon := d, handler := fs }
    | none => { s with handler := [] }

/-- What `onPush` does to the account it is for, if it is running. -/
def pushResult (env : PushEnv) (s : LineRun) (account verb path : String) (body : Bytes)
    (f : Faults) : Option PushResult :=
  (s.daemon.g_accounts.lookup account).map fun acct => onPush env s.db acct verb path body f

def step (env : PushEnv) (s : LineRun) : LineEvent → LineRun
  | .start e => s.start e
  | .advance => s.advance
  | .push account verb path body f =>
    match s.pushResult env account verb path body f with
    | none => s
    | some r => { s with db := r.db, daemon := s.daemon.modifyAccount account fun _ => r.acct }
  | .elsewhere db => { s with db := db }

/-- Every leg that `onPush` dials into has the sender at its far end, and what it dials is a text of
touch tones outside of any group. -/
def RightCall (env : PushEnv) (s : LineRun) : LineEvent → Prop
  | .push account verb path body f =>
    ∀ r leg digits, s.pushResult env account verb path body f = some r →
      .dialDtmf leg digits ∈ r.out →
      ∃ acct message sender, s.daemon.g_accounts.lookup account = some acct ∧
        pushedText env s.db acct verb path body = some message ∧ message.isTones ∧
        digits = message.body ∧ authenticatedSender env s.db acct verb path body = some sender ∧
        s.farEnd.lookup leg = some sender
  | _ => True

/-- When tones of the remembered peer arrive, that peer is the far end of the leg. -/
def PeerIsFarEnd (env : PushEnv) (s : LineRun) : LineEvent → Prop
  | .push account verb path body _ =>
    ∀ acct message leg, s.daemon.g_accounts.lookup account = some acct →
      pushedText env s.db acct verb path body = some message → message.isTones →
      authenticatedSender env s.db acct verb path body = some acct.remotePeerId →
      acct.bridgedLeg = some leg → s.farEnd.lookup leg = some acct.remotePeerId
  | _ => True

variable {env : PushEnv} {s : LineRun}

/-- One push, in any state. -/
theorem rightCall_iff (e : LineEvent) : s.RightCall env e ↔ s.PeerIsFarEnd env e := by
  cases e with
  | start e => exact Iff.rfl
  | advance => exact Iff.rfl
  | elsewhere db => exact Iff.rfl
  | push account verb path body f =>
    constructor
    · intro h acct message leg hacct htext htones hsender hleg
      have hdials : .dialDtmf leg message.body ∈ (onPush env s.db acct verb path body f).out :=
        onPush_dials_iff.mpr ⟨message, htext, htones, hsender, hleg, rfl⟩
      obtain ⟨acct', -, sender, hacct', -, -, -, hsender', hfar⟩ :=
        h _ leg message.body (by rw [pushResult, hacct, Option.map_some]) hdials
      obtain rfl := Option.some.inj (hacct.symm.trans hacct')
      rw [hfar, ← hsender', hsender]
    · intro h r leg digits hr hdials
      obtain ⟨acct, hacct, rfl⟩ := Option.map_eq_some_iff.mp hr
      obtain ⟨message, htext, htones, hsender, hleg, hdigits⟩ := onPush_dials_iff.mp hdials
      exact ⟨acct, message, acct.remotePeerId, hacct, htext, htones, hdigits, hsender,
        h acct message leg hacct htext htones hsender hleg⟩

end LineRun

/-- Along every run from every state, whatever libsignal and the parsers do: each push dials into
the right call exactly when no tones of a remembered peer find a leg with another far end. -/
theorem rightCall_along_iff (env : PushEnv) (s : LineRun) (events : List LineEvent) :
    Along (LineRun.step env) (LineRun.RightCall env) s events ↔
      Along (LineRun.step env) (LineRun.PeerIsFarEnd env) s events :=
  Runs.along_congr (I := fun _ => True) (fun _ _ _ _ => trivial)
    (fun _ e _ => LineRun.rightCall_iff e) trivial

/-! ## The last caller's tones -/

/-- Every message decrypts to the text "1" of a sender called alice. -/
def aliceEnv : PushEnv where
  lib := { plainEnv.lib with serviceIdFromBinary := fun _ => .ok "alice" }
  parseEnvelope := plainEnv.parseEnvelope
  parseContent := fun _ => some (.dataMessage ⟨"1", false⟩)

def idleLine : LineRun where
  db := {}
  daemon := idleDaemon

/-- An event and the first steps of its handler. -/
def handled (e : DaemonEvent) (steps : Nat) : List LineEvent :=
  .start e :: List.replicate steps .advance

/-- Alice's call comes and ends; an INVITE for someone else opens a leg, and its target is still
being resolved. -/
def aliceThenInvite : List LineEvent :=
  handled bringUp 1 ++ handled (.callState "line3" "alice" 1 .incomingAudio (.ok none)) 3 ++
    handled (.callState "line3" "alice" 1 .concluded (.ok none)) 8 ++
    handled (.invite "line3" none "100") 3

/-- Alice's tones go into a leg that has nothing to do with her. -/
theorem last_caller_dials_into_next_call :
    ¬ Along (LineRun.step aliceEnv) (LineRun.RightCall aliceEnv) idleLine
      (aliceThenInvite ++ [.push "line3" "PUT" "/api/v1/message" [7] .quiet]) := by
  intro h
  have hlast := (LineRun.rightCall_iff _).mp (Runs.along_append.mp h).2.1
  generalize hs : Runs.final (LineRun.step aliceEnv) idleLine aliceThenInvite = s at hlast
  have hacct : (s.daemon.g_accounts.lookup "line3").map (fun acct =>
      (acct.remotePeerId, acct.bridgedLeg,
        pushedText aliceEnv s.db acct "PUT" "/api/v1/message" [7],
        authenticatedSender aliceEnv s.db acct "PUT" "/api/v1/message" [7])) =
      some ("alice", some 3, some ⟨"1", false⟩, some "alice") := by
    rw [← hs]
    decide
  have hfar : s.farEnd.lookup 3 = none := by
    rw [← hs]
    decide
  obtain ⟨acct, hacct, hfacts⟩ := Option.map_eq_some_iff.mp hacct
  obtain ⟨hpeer, hleg, htext, hsender⟩ : acct.remotePeerId = "alice" ∧ acct.bridgedLeg = some 3 ∧
      pushedText aliceEnv s.db acct "PUT" "/api/v1/message" [7] = some ⟨"1", false⟩ ∧
      authenticatedSender aliceEnv s.db acct "PUT" "/api/v1/message" [7] = some "alice" := by
    simpa only [Prod.mk.injEq] using hfacts
  have hsome := hlast acct _ 3 hacct htext ⟨by decide, rfl⟩ (by rw [hsender, hpeer]) hleg
  rw [hfar] at hsome
  cases hsome

end Signal2sip
