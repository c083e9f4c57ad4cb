import Signal2sip.Gendb.ProvisioningClient
import Signal2sip.Laws.ProvisioningCipher
import Signal2sip.Lib.Run

/-!
# The first event that ends the link

The link is over with the first envelope that is read or not, the first interruption or the deadline,
and what that event says is what `waitForProvisionMessage` should return or throw (`Watched.first`).
`onConnectionInterrupted` leaves an outcome alone that is there already; `onReceivedEnvelope` does not,
and a failure goes before a result. So the first event decides exactly in the runs in which no later
envelope finds the waiter still waiting and says something else.

`text` is what counts of an exception: all of it, or nothing but that one is thrown.
-/

namespace Signal2sip.Provisioning

open Runs (Along Always always_congr)

variable (lib : Libraries)

/-- What an envelope says; every envelope says something (`outcomeOf_isSome`). -/
def Libraries.outcomeOf (envelopeBytes : Bytes) : Option Outcome :=
  match lib.readEnvelope envelopeBytes with
  | .ok r => some (.ok r)
  | .error (.thrown e) => some (.error e)
  | .error .undefined => none

theorem Libraries.outcomeOf_isSome (envelopeBytes : Bytes) :
    (lib.outcomeOf envelopeBytes).isSome = true := by
  have hundefined : lib.readEnvelope envelopeBytes ≠ .error .undefined := by
    intro h
    unfold Libraries.readEnvelope at h
    split at h
    · next pe _ =>
      cases hplaintext : (decryptProvisionEnvelope lib.primitives lib.ourPrivateKey pe.publicKey
          pe.body).outcome with
      | ok plaintext =>
        simp only [hplaintext, bind, Except.bind] at h
        split at h
        · exact nomatch h
        · exact nomatch h
      | error failure =>
        simp only [hplaintext, bind, Except.bind] at h
        exact outcome_ne_undefined (hplaintext.trans (congrArg Except.error (Except.error.inj h)))
    · exact nomatch h
  cases hread : lib.readEnvelope envelopeBytes with
  | ok r => simp only [outcomeOf, hread, Option.isSome_some]
  | error failure =>
    cases failure with
    | thrown e => simp only [outcomeOf, hread, Option.isSome_some]
    | undefined => exact absurd hread hundefined

namespace Client

variable (s : Client)

/-- What a waiter that looks now has returned or thrown. -/
def outcomeNow : Option Outcome :=
  match s.wake.waiter with
  | .done outcome => some outcome
  | _ => none

/-- What the two variables hold: a failure goes first. -/
def held : Option Outcome :=
  match s.failure, s.result with
  | some failure, _ => some (.error failure)
  | none, some r => some (.ok r)
  | none, none => none

theorem failure_of_held_ok {s : Client} {r : ProvisionMessageResult} (h : s.held = some (.ok r)) :
    s.failure = none := by
  cases hfailure : s.failure with
  | none => rfl
  | some failure => simp [held, hfailure] at h

theorem failure_of_held_error {s : Client} {e : RuntimeError} (h : s.held = some (.error e)) :
    s.failure = some e := by
  cases hfailure : s.failure with
  | none => cases hresult : s.result <;> simp [held, hfailure, hresult] at h
  | some failure =>
    simp only [held, hfailure] at h
    exact congrArg some (Except.error.inj (Option.some.inj h))

/-- An envelope overwrites its own variable, and a failure goes first. -/
def overwritten : Outcome → Outcome
  | .error e => .error e
  | .ok r => (s.failure.map Except.error).getD (.ok r)

def Waiting : Prop := ∀ outcome, s.waiter ≠ .done outcome

theorem outcomeNow_done {s : Client} {outcome : Outcome} (h : s.waiter = .done outcome) :
    s.outcomeNow = some outcome := by
  simp only [outcomeNow, wake, h]

theorem outcomeNow_waiting {s : Client} (h : s.Waiting) : s.outcomeNow = s.held := by
  obtain ⟨gotAddress, result, failure, waiter⟩ := s
  cases waiter with
  | awaitingAddress => cases gotAddress <;> cases failure <;> cases result <;> rfl
  | awaitingLink => cases failure <;> cases result <;> rfl
  | done outcome => exact absurd rfl (h outcome)

/-- The event that ends the link, and what it says. -/
def terminal : ClientEvent → Option Outcome
  | .receivedEnvelope envelopeBytes => lib.outcomeOf envelopeBytes
  | .connectionInterrupted => some (.error ⟨"socket closed before linking completed"⟩)
  | .deadline =>
    match s.waiter with
    | .awaitingAddress =>
      if s.gotAddress then none else some (.error ⟨"no address received within 10s"⟩)
    | .awaitingLink => some (.error ⟨"lifespan expired with no completed link (90s)"⟩)
    | .done _ => none
  | _ => none

/-- Only an envelope may speak over what was said before. -/
theorem outcomeNow_step (e : ClientEvent) (he : ∀ envelopeBytes, e ≠ .receivedEnvelope envelopeBytes) :
    (s.step lib e).outcomeNow = (s.outcomeNow <|> s.terminal lib e) := by
  obtain ⟨gotAddress, result, failure, waiter⟩ := s
  cases e with
  | receivedEnvelope envelopeBytes => exact absurd rfl (he envelopeBytes)
  | receivedAddress | wake | deadline | connectionInterrupted =>
    cases waiter <;> cases gotAddress <;> cases failure <;> cases result <;> rfl

theorem outcomeNow_receivedEnvelope {s : Client} (h : s.Waiting) {envelopeBytes : Bytes}
    {later : Outcome} (hlater : lib.outcomeOf envelopeBytes = some later) :
    (s.step lib (.receivedEnvelope envelopeBytes)).outcomeNow = some (s.overwritten later) := by
  cases hread : lib.readEnvelope envelopeBytes with
  | ok r =>
    simp only [Libraries.outcomeOf, hread] at hlater
    obtain rfl := Option.some.inj hlater
    simp only [step, onReceivedEnvelope, hread]
    rw [outcomeNow_waiting (by exact h)]
    cases hfailure : s.failure <;> simp [held, overwritten, hfailure]
  | error failure =>
    cases failure with
    | undefined => simp only [Libraries.outcomeOf, hread, reduceCtorEq] at hlater
    | thrown e =>
      simp only [Libraries.outcomeOf, hread] at hlater
      obtain rfl := Option.some.inj hlater
      simp only [step, onReceivedEnvelope, hread]
      rw [outcomeNow_waiting (by exact h)]
      rfl

theorem outcomeNow_receivedEnvelope_done {s : Client} {outcome : Outcome}
    (h : s.waiter = .done outcome) (envelopeBytes : Bytes) :
    (s.step lib (.receivedEnvelope envelopeBytes)).outcomeNow = some outcome := by
  simp only [step, onReceivedEnvelope]
  split <;> exact outcomeNow_done h

end Client

/-! ## The law -/

/-- The client, and what the first event said that ended the link. -/
structure Watched where
  client : Client := {}
  first : Option Outcome := none

def Watched.step (w : Watched) (e : ClientEvent) : Watched where
  client := w.client.step lib e
  first := w.first <|> w.client.terminal lib e

variable {τ : Type} (text : RuntimeError → τ)

/-- The waiter that looks now has what the first event said, and has nothing without one. -/
def Decided (w : Watched) : Prop :=
  w.client.outcomeNow.map (·.mapError text) = w.first.map (·.mapError text)

/-- After a result the same result, and after a failure any result or the same failure. -/
def Harmless (first later : Outcome) : Prop :=
  match first with
  | .ok r => later = .ok r
  | .error e => ∀ e', later = .error e' → text e' = text e

/-- No envelope that says something else comes between the first event and the end of the wait. -/
def Undisturbed (w : Watched) : ClientEvent → Prop
  | .receivedEnvelope envelopeBytes => w.client.Waiting →
    ∀ first ∈ w.first, ∀ later ∈ lib.outcomeOf envelopeBytes, Harmless text first later
  | _ => True

theorem map_orElse {α β : Type} {f : α → β} {a b : Option α} (h : a.map f = b.map f) (c : Option α) :
    (a <|> c).map f = (b <|> c).map f := by
  cases a with
  | none =>
    obtain rfl : b = none := Option.map_eq_none_iff.mp h.symm
    rfl
  | some a =>
    cases b with
    | none => exact nomatch h
    | some b => exact h

/-- The first envelope, with nothing held. -/
theorem decided_first {w : Watched} (h : Decided text w) (hwaiting : w.client.Waiting)
    (hfirst : w.first = none) {envelopeBytes : Bytes} {later : Outcome}
    (hlater : lib.outcomeOf envelopeBytes = some later) :
    Decided text (w.step lib (.receivedEnvelope envelopeBytes)) := by
  rw [Decided, Client.outcomeNow_waiting hwaiting, hfirst, Option.map_none, Option.map_eq_none_iff] at h
  have hfailure : w.client.failure = none := by
    cases hfailure : w.client.failure with
    | none => rfl
    | some failure => simp [Client.held, hfailure] at h
  have hspoken : w.client.overwritten later = later := by
    cases later <;> simp [Client.overwritten, hfailure]
  rw [Decided, Watched.step, Client.outcomeNow_receivedEnvelope lib hwaiting hlater, hspoken, hfirst]
  simp only [Client.terminal, hlater]
  rfl

/-- A later envelope, after a result or after a failure. -/
theorem decided_later_iff {w : Watched} (h : Decided text w) (hwaiting : w.client.Waiting)
    {first : Outcome} (hfirst : w.first = some first) {envelopeBytes : Bytes} {later : Outcome}
    (hlater : lib.outcomeOf envelopeBytes = some later) :
    Decided text (w.step lib (.receivedEnvelope envelopeBytes)) ↔ Harmless text first later := by
  rw [Decided, Client.outcomeNow_waiting hwaiting, hfirst] at h
  obtain ⟨held, hheld, heq⟩ := Option.map_eq_some_iff.mp h
  have hfirst' : (w.first <|> lib.outcomeOf envelopeBytes) = some first := by
    rw [hfirst]
    rfl
  rw [Decided, Watched.step, Client.outcomeNow_receivedEnvelope lib hwaiting hlater]
  simp only [Client.terminal, hfirst']
  cases first with
  | ok r =>
    cases held with
    | error failure => exact nomatch heq
    | ok r' =>
      have hfailure := Client.failure_of_held_ok hheld
      cases later <;> simp [Client.overwritten, hfailure, Harmless, Except.mapError]
  | error e =>
    cases held with
    | ok r => exact nomatch heq
    | error failure =>
      have hfailure := Client.failure_of_held_error hheld
      cases later with
      | ok r =>
        simp only [Client.overwritten, hfailure]
        exact ⟨fun _ e' he' => (nomatch he'), fun _ => congrArg some heq⟩
      | error e' => simp [Client.overwritten, Harmless, Except.mapError]

theorem decided_step_iff {w : Watched} (h : Decided text w) (e : ClientEvent) :
    Decided text (w.step lib e) ↔ Undisturbed lib text w e := by
  by_cases he : ∀ envelopeBytes, e ≠ .receivedEnvelope envelopeBytes
  · have hstep : Decided text (w.step lib e) := by
      rw [Decided, Watched.step, Client.outcomeNow_step lib _ e he]
      exact map_orElse h _
    refine ⟨fun _ => ?_, fun _ => hstep⟩
    cases e with
    | receivedEnvelope envelopeBytes => exact absurd rfl (he envelopeBytes)
    | receivedAddress | wake | deadline | connectionInterrupted => trivial
  simp only [not_forall, not_not] at he
  obtain ⟨envelopeBytes, rfl⟩ := he
  obtain ⟨later, hlater⟩ := Option.isSome_iff_exists.mp (lib.outcomeOf_isSome envelopeBytes)
  by_cases hwaiting : w.client.Waiting
  · cases hfirst : w.first with
    | none =>
      refine ⟨fun _ _ first hmem => ?_, fun _ => decided_first lib text h hwaiting hfirst hlater⟩
      rw [hfirst] at hmem
      exact nomatch hmem
    | some first =>
      rw [decided_later_iff lib text h hwaiting hfirst hlater]
      simp [Undisturbed, hwaiting, hfirst, hlater]
  · simp only [Client.Waiting, not_forall, not_not] at hwaiting
    obtain ⟨outcome, hdone⟩ := hwaiting
    have hstep : Decided text (w.step lib (.receivedEnvelope envelopeBytes)) := by
      have hnow := Client.outcomeNow_done hdone
      rw [Decided, hnow] at h
      rw [Decided, Watched.step, Client.outcomeNow_receivedEnvelope_done lib hdone]
      exact map_orElse (a := some outcome) h _
    exact ⟨fun _ hwaiting => absurd hdone (hwaiting outcome), fun _ => hstep⟩

/-- In every run the first event decides throughout exactly when nothing disturbs it. -/
theorem first_event_wins_iff (events : List ClientEvent) :
    Always (Watched.step lib) (Decided text) {} events ↔
      Along (Watched.step lib) (Undisturbed lib text) {} events :=
  always_congr (I := fun _ => True) (fun _ _ _ _ _ => trivial)
    (fun _ e _ h => decided_step_iff lib text h e) trivial rfl

/-! ## An empty envelope behind the link -/

namespace Sample

/-- The fields `publicKey` and `body` of a `ProvisionEnvelope`. -/
def envelopeBytes : Bytes := [0x0a, 33] ++ publicKey ++ [0x12, 65] ++ envelope.body

def libraries : Libraries where
  primitives := primitives
  ourPrivateKey := ourPrivateKey
  parseEnvelope bytes :=
    if bytes = envelopeBytes then some { publicKey := publicKey, body := envelope.body }
    else if bytes = [] then some {}
    else none
  parseMessage bytes := if bytes = plaintext then some { number := some "+49" } else none

end Sample

theorem empty_envelope_undoes_link :
    ¬ Always (Watched.step Sample.libraries) (Decided fun _ => ()) {}
      [.receivedAddress, .receivedEnvelope Sample.envelopeBytes, .receivedEnvelope [], .wake] := by
  intro halways
  have hend := Runs.always_iff_forall_prefix.mp halways _ (List.prefix_refl _)
  rw [Decided] at hend
  exact absurd hend (by decide +kernel)

end Signal2sip.Provisioning
