import Signal2sip.Lib.Alone
import Signal2sip.Laws.SendReports

/-!
# The device list cache after a refusal

The server refuses a `PUT /v1/messages` that addresses the wrong devices, with 409 or 410, and the list
that was used is wrong. `sendContent` looks at its last answer and forgets the list if that is a
refusal; `sendDecryptionErrorReply` never forgets. So the list is fetched again after a send that was
refused exactly when the send is a `sendContent` and its last answer is a refusal too: a retry that is
accepted keeps the list with the devices that it left out.
-/

namespace Signal2sip

open Locked (Prog Throwing Trace)
open Locked.Throwing (Does Returns Then does_pure does_throw does_ofExcept does_locked)

/-! ## Sends -/

/-- A call of one of the two functions that use the cache. -/
inductive PeerSend
  | content (destinationServiceId : String) (content : OutgoingContent)
  | decryptionErrorReply (senderServiceId : String) (senderDeviceId : UInt32)
      (originalCiphertext : Bytes) (originalType : UInt8) (originalTimestamp : UInt64)

def PeerSend.peer : PeerSend → String
  | .content destinationServiceId _ => destinationServiceId
  | .decryptionErrorReply senderServiceId _ _ _ _ => senderServiceId

/-- Does the function ever forget a list? -/
def PeerSend.forgets : PeerSend → Bool
  | .content _ _ => true
  | .decryptionErrorReply _ _ _ _ _ => false

def PeerSend.code {ν : Type} (env : Signaling ν) (localAddress : Address) :
    PeerSend → Routine ν Unit
  | .content destinationServiceId message =>
    (sendContent env localAddress destinationServiceId message).run.bind fun _ => .ret ()
  | .decryptionErrorReply senderServiceId senderDeviceId originalCiphertext originalType
      originalTimestamp =>
    sendDecryptionErrorReply env localAddress senderServiceId senderDeviceId originalCiphertext
      originalType originalTimestamp

deriving instance DecidableEq for OutgoingMessage, MessagesBody, RingRtcCall, Query

section Traces

variable {ν : Type}

/-- The answers to the `PUT`s that were not exceptions. -/
def answered (answers : List (Except RuntimeError Response)) : List Response :=
  answers.filterMap Except.toOption

def Response.isRefusal (response : Response) : Bool := response.status = 409 ∨ response.status = 410

/-- The refusals of a send. -/
def refusals (trace : Trace Query (Answer ν)) : List Response :=
  (answered (putAnswers trace)).filter Response.isRefusal

/-- The last answer is a refusal. -/
def LastRefused (trace : Trace Query (Answer ν)) : Prop :=
  ∃ response, (answered (putAnswers trace)).getLast? = some response ∧ response.isRefusal = true

/-- The devices that the refusals name as extra. -/
def namedExtra (env : Signaling ν) (trace : Trace Query (Answer ν)) : List Int :=
  (refusals trace).flatMap fun response => ((env.parseExtraDevices response.body).toOption).getD []

/-- The device list of a peer is fetched. -/
def Fetches (peer : String) (trace : Trace Query (Answer ν)) : Prop :=
  ∃ e ∈ trace, e.1 = .request "GET" ("/v2/keys/" ++ peer ++ "/*") none

instance (peer : String) (trace : Trace Query (Answer ν)) : Decidable (Fetches peer trace) :=
  inferInstanceAs (Decidable (∃ e ∈ trace, e.1 = .request "GET" ("/v2/keys/" ++ peer ++ "/*") none))

/-- The devices that the `PUT`s of a trace address. -/
def addressed (trace : Trace Query (Answer ν)) : List Int :=
  trace.flatMap fun e =>
    match e.1 with
    | .request "PUT" _ (some body) => body.messages.map (·.destinationDeviceId)
    | _ => []

end Traces

/-! ## Sequences of sends -/

/-- The stores, and for each peer what the last send to it was told: the extra devices, if it was
refused. -/
structure SendHistory where
  stores : AccountStores
  refused : String → Option (List Int) := fun _ => none

/-- A send, and what it is answered. -/
structure SendEvent (ν : Type) where
  send : PeerSend
  answer : Nat → (q : Query) → Answer ν q

section Histories

variable {ν : Type} (env : Signaling ν) (localAddress : Address)

/-- A send after the others. -/
def SendEvent.played (stores : AccountStores) (e : SendEvent ν) :
    Locked.Played AccountStores Query (Answer ν) Unit :=
  (e.send.code env localAddress).alone e.answer 0 stores

def SendHistory.step (h : SendHistory) (e : SendEvent ν) : SendHistory :=
  let r := e.played env localAddress h.stores
  { stores := r.state
    refused := Function.update h.refused e.send.peer
      (if (refusals r.trace).isEmpty then none else some (namedExtra env r.trace)) }

/-- After a send to the peer that was refused, the next one fetches the list, or addresses none of the
devices that were named as extra. -/
def NotUsedAgain (h : SendHistory) (e : SendEvent ν) : Prop :=
  ∀ extra, h.refused e.send.peer = some extra →
    Fetches e.send.peer (e.played env localAddress h.stores).trace ∨
      ∀ deviceId ∈ extra, deviceId ∉ addressed (e.played env localAddress h.stores).trace

/-- The condition on a send: it is not refused, or it is one that forgets and its last answer is a
refusal. -/
def Heals (h : SendHistory) (e : SendEvent ν) : Prop :=
  refusals (e.played env localAddress h.stores).trace = [] ∨
    e.send.forgets = true ∧ LastRefused (e.played env localAddress h.stores).trace

end Histories

/-- No list is cached that the server has refused. -/
def SendHistory.Healed (h : SendHistory) : Prop :=
  ∀ peer, (h.refused peer).isSome = true → h.stores.deviceListCache.lookup peer = none

/-! ## What the parts of a send do -/

section Parts

variable {ν : Type} {env : Signaling ν} {localAddress : Address} {α β : Type}

/-- Nothing is put, and the cache stays. -/
def Quiet : Throwing.Runs RuntimeError AccountStores Query (Answer ν) α := fun s t s' _ =>
  putAnswers t = [] ∧ s'.deviceListCache = s.deviceListCache

theorem Quiet.bind {p : Call ν α} {f : α → Call ν β} (hp : Does p Quiet)
    (hf : ∀ a, Does (f a) Quiet) : Does (p >>= f) Quiet := by
  refine (hp.bind hf).mono fun s t s' x h => ?_
  cases h with
  | error h => exact h
  | ok h h' => exact ⟨by rw [putAnswers_append, h.1, h'.1]; rfl, h'.2.trans h.2⟩

theorem quiet_returns {p : Call ν α} {r : Except RuntimeError α} (hp : Does p (Returns r)) :
    Does p Quiet :=
  hp.mono fun _ _ _ _ h => ⟨by rw [h.1]; rfl, by rw [h.2.1]⟩

theorem does_reading (f : AccountStores → α) :
    Does (reading f : Call ν α) fun s t s' x => t = [] ∧ s' = s ∧ x = .ok (f s) :=
  fun _ _ _ => ⟨rfl, rfl, rfl⟩

theorem does_writing (f : AccountStores → AccountStores) :
    Does (writing f : Call ν Unit) fun s t s' x => t = [] ∧ s' = f s ∧ x = .ok () :=
  fun _ _ _ => ⟨rfl, rfl, rfl⟩

theorem does_ask (q : Query) :
    Does (ask q : Call ν (Answer ν q)) fun s t s' x => ∃ a, t = [⟨q, a⟩] ∧ s' = s ∧ x = .ok a :=
  fun _ _ _ => ⟨_, rfl, rfl, rfl⟩

theorem does_request (verb path : String) (body : Option MessagesBody) :
    Does (request verb path body : Call ν Response) fun s t s' x =>
      t = [⟨.request verb path body, x⟩] ∧ s' = s :=
  fun _ _ _ => ⟨rfl, rfl⟩

/-- A call of libsignal does not touch the cache. -/
theorem libsignal_deviceListCache (call : Libsignal β) (s : AccountStores) :
    (call.work.run s).2.deviceListCache = s.deviceListCache := by
  induction call generalizing s with
  | ret result => rfl
  | loadSession address reads k ih => exact ih _ s
  | getIdentityKey address reads k ih => exact ih _ s
  | storeSession address record writes k ih =>
    refine (ih _).trans ?_
    split <;> rfl
  | saveIdentityKey address publicKey writes k ih =>
    refine (ih _ _).trans ?_
    split <;> rfl

theorem quiet_callLibsignal (call : ν → Libsignal (Except RuntimeError β)) :
    Does (callLibsignal call) Quiet :=
  fun _ _ s => ⟨rfl, libsignal_deviceListCache _ s⟩

theorem quiet_establishAll (bundles : List RemotePreKeyBundle) :
    Does (establishAll env localAddress bundles) Quiet := by
  induction bundles with
  | nil => exact quiet_returns (does_pure _)
  | cons bundle bundles ih =>
    refine Quiet.bind (quiet_callLibsignal _) fun _ => Quiet.bind ih fun _ => ?_
    exact quiet_returns (does_pure _)

theorem quiet_reading (f : AccountStores → α) : Does (reading f : Call ν α) Quiet :=
  (does_reading f).mono fun _ _ _ _ h => ⟨by rw [h.1]; rfl, by rw [h.2.1]⟩

theorem quiet_ask (q : Query) (hput : ∀ a : Answer ν q, putAnswer ⟨q, a⟩ = none) :
    Does (ask q : Call ν (Answer ν q)) Quiet := by
  refine (does_ask q).mono fun s t s' x h => ?_
  obtain ⟨a, rfl, rfl, -⟩ := h
  exact ⟨List.filterMap_cons_none (hput a), rfl⟩

theorem quiet_loadSession (address : String) :
    Does (loadSession address : Call ν (Option Bytes)) Quiet := by
  refine Quiet.bind (quiet_ask (.loadSession address) fun _ => rfl) fun statement => ?_
  exact Quiet.bind (quiet_returns (does_ofExcept _)) fun steps => quiet_reading _

theorem quiet_remoteRegistrationIdFromSession (address : String) :
    Does (remoteRegistrationIdFromSession env address) Quiet := by
  refine Quiet.bind (quiet_loadSession address) fun record => ?_
  cases record with
  | none => exact quiet_returns (does_pure _)
  | some record => exact quiet_returns (does_ofExcept _)

theorem quiet_encryptAll (destinationServiceId : String) (plaintext : Bytes)
    (deviceIds : List Int) :
    Does (encryptAll env localAddress destinationServiceId plaintext deviceIds) Quiet := by
  induction deviceIds with
  | nil => exact quiet_returns (does_pure _)
  | cons deviceId deviceIds ih =>
    refine Quiet.bind (quiet_callLibsignal _) fun encrypted => ?_
    refine Quiet.bind (quiet_remoteRegistrationIdFromSession _) fun registrationId => ?_
    exact Quiet.bind ih fun messages => quiet_returns (does_pure _)

theorem quiet_replyMessages (senderServiceId : String) (plaintextContent : Bytes)
    (deviceIds : List Int) :
    Does (replyMessages env localAddress senderServiceId plaintextContent deviceIds) Quiet := by
  induction deviceIds with
  | nil => exact quiet_returns (does_pure _)
  | cons deviceId deviceIds ih =>
    rw [replyMessages]
    split
    · exact ih
    · refine Quiet.bind (quiet_remoteRegistrationIdFromSession _) fun registrationId => ?_
      exact Quiet.bind ih fun messages => quiet_returns (does_pure _)

/-- Fetching asks for the peer's keys, and leaves the cache. -/
theorem does_fetchAndEstablishSessions (peer : String) :
    Does (fetchAndEstablishSessions env localAddress peer) fun s t s' _ =>
      putAnswers t = [] ∧ s'.deviceListCache = s.deviceListCache ∧ Fetches peer t := by
  refine Does.mono (Does.bind (does_request _ _ _) (?_ : ∀ response, Does _ Quiet))
    fun s t s' x h => ?_
  · intro response
    split
    · exact quiet_returns (does_throw _)
    · exact Quiet.bind (quiet_returns (does_ofExcept _)) fun bundles =>
        does_locked (quiet_establishAll bundles)
  · cases h with
    | error h =>
      obtain ⟨rfl, rfl⟩ := h
      exact ⟨rfl, rfl, _, List.mem_singleton_self _, rfl⟩
    | ok h h' =>
      obtain ⟨rfl, rfl⟩ := h
      refine ⟨?_, h'.2, _, List.mem_append_left _ (List.mem_singleton_self _), rfl⟩
      rw [putAnswers_append, h'.1]
      rfl

/-- Looking into the cache: only a list that is there is returned. -/
theorem does_cachedDeviceList (peer : String) :
    Does (cachedDeviceList peer : Call ν (Option (List Int))) fun s t s' x =>
      putAnswers t = [] ∧ s' = s ∧
        ∃ cached, x = .ok cached ∧ (s.deviceListCache.lookup peer = none → cached = none) := by
  refine Does.mono (Does.bind (does_reading _) (?_ : ∀ entry, Does _ fun s t s' x =>
      putAnswers t = [] ∧ s' = s ∧ ∃ cached, x = .ok cached ∧ (entry = none → cached = none)))
    fun s t s' x h => ?_
  · intro entry
    cases entry with
    | none =>
      refine (does_pure _).mono fun s t s' x h => ?_
      obtain ⟨rfl, rfl, rfl⟩ := h
      exact ⟨rfl, rfl, none, rfl, fun _ => rfl⟩
    | some entry =>
      refine ((does_ask .steadyNow).bind fun now => does_pure _).mono fun s t s' x h => ?_
      cases h with
      | error h =>
        obtain ⟨a, -, -, hresult⟩ := h
        cases hresult
      | ok h h' =>
        obtain ⟨a, rfl, rfl, -⟩ := h
        obtain ⟨rfl, rfl, rfl⟩ := h'
        exact ⟨rfl, rfl, _, rfl, fun hnone => by cases hnone⟩
  · cases h with
    | error h =>
      obtain ⟨-, -, hresult⟩ := h
      cases hresult
    | ok h h' =>
      obtain ⟨rfl, rfl, hentry⟩ := h
      obtain ⟨hput, rfl, cached, rfl, hcached⟩ := h'
      rw [Except.ok.inj hentry] at hcached
      exact ⟨hput, rfl, cached, rfl, hcached⟩

/-- What becomes of the cache when the device list of a peer is found out: other peers keep theirs,
the peer has one if it is found, and it is fetched if there was none. -/
def Resolves (peer : String) : Throwing.Runs RuntimeError AccountStores Query (Answer ν) (List Int) :=
  fun s t s' x =>
    putAnswers t = [] ∧
      (∀ other, other ≠ peer →
        s'.deviceListCache.lookup other = s.deviceListCache.lookup other) ∧
      (∀ deviceIds, x = .ok deviceIds → s'.deviceListCache.lookup peer ≠ none) ∧
      (s.deviceListCache.lookup peer = none → Fetches peer t)

/-- Storing a fetched list. -/
theorem does_storeDeviceList (peer : String) (deviceIds : List Int) :
    Does (Throwing.locked do
        let now ← ask .steadyNow
        writing fun s =>
          { s with deviceListCache := s.deviceListCache.insert peer (deviceIds, now) } : Call ν Unit)
      fun s t s' x => putAnswers t = [] ∧ x = .ok () ∧
        ∃ now, s'.deviceListCache = s.deviceListCache.insert peer (deviceIds, now) := by
  refine (does_locked ((does_ask .steadyNow).bind fun now => does_writing _)).mono
    fun s t s' x h => ?_
  cases h with
  | error h =>
    obtain ⟨a, -, -, hresult⟩ := h
    cases hresult
  | ok h h' =>
    obtain ⟨a, rfl, rfl, -⟩ := h
    obtain ⟨rfl, rfl, rfl⟩ := h'
    exact ⟨rfl, rfl, _, rfl⟩

theorem resolves_fetch (peer : String) :
    Does (do
      let deviceIds ← fetchAndEstablishSessions env localAddress peer
      Throwing.locked do
        let now ← ask .steadyNow
        writing fun s =>
          { s with deviceListCache := s.deviceListCache.insert peer (deviceIds, now) }
      return deviceIds) (Resolves peer) := by
  refine ((does_fetchAndEstablishSessions peer).bind fun deviceIds =>
    (does_storeDeviceList peer deviceIds).bind fun _ => does_pure deviceIds).mono
      fun s t s' x h => ?_
  cases h with
  | error h =>
    obtain ⟨hput, hcache, hfetch⟩ := h
    exact ⟨hput, fun other _ => (by rw [hcache]), fun _ hok => (by cases hok), fun _ => hfetch⟩
  | ok h h' =>
    obtain ⟨hput, hcache, e, he, hfetch⟩ := h
    cases h' with
    | error h' =>
      obtain ⟨-, hresult, -⟩ := h'
      cases hresult
    | ok h' hreturn =>
      obtain ⟨hput', -, now, hstored⟩ := h'
      obtain ⟨rfl, rfl, rfl⟩ := hreturn
      refine ⟨?_, fun other hother => ?_, fun _ _ => ?_, fun _ => ⟨e, ?_, hfetch⟩⟩
      · rw [putAnswers_append, putAnswers_append, hput, hput']
        rfl
      · rw [hstored, AList.lookup_insert_ne hother, hcache]
      · rw [hstored, AList.lookup_insert]
        exact Option.some_ne_none _
      · exact List.mem_append_left _ he

theorem resolves_resolveDeviceList (peer : String) :
    Does (resolveDeviceList env localAddress peer) (Resolves peer) := by
  refine Does.mono (Does.bind (does_locked (does_cachedDeviceList peer))
      (?_ : ∀ cached, Does _ fun s t s' x =>
        (cached = none ∧ Resolves peer s t s' x) ∨ (cached ≠ none ∧ t = [] ∧ s' = s)))
    fun s t s' x h => ?_
  · intro cached
    cases cached with
    | some deviceIds =>
      refine (does_pure deviceIds).mono fun s t s' x h => ?_
      exact .inr ⟨Option.some_ne_none _, h.1, h.2.1⟩
    | none => exact (resolves_fetch peer).mono fun s t s' x h => .inl ⟨rfl, h⟩
  · cases h with
    | error h =>
      obtain ⟨-, -, cached, hresult, -⟩ := h
      cases hresult
    | ok h h' =>
      obtain ⟨hput, rfl, cached, hresult, hcached⟩ := h
      obtain rfl := Except.ok.inj hresult
      rcases h' with ⟨-, hput', hothers, hpeer, hfetch⟩ | ⟨hne, rfl, rfl⟩
      · refine ⟨?_, hothers, hpeer, fun hnone => ?_⟩
        · rw [putAnswers_append, hput, hput']
          rfl
        · obtain ⟨e, he, hkeys⟩ := hfetch hnone
          exact ⟨e, List.mem_append_right _ he, hkeys⟩
      · rw [List.append_nil]
        exact ⟨hput, fun _ _ => rfl, fun _ _ hnone => hne (hcached hnone),
          fun hnone => absurd (hcached hnone) hne⟩

/-! ## Sending to the devices -/

theorem does_putMessages (destination : String) (messages : List OutgoingMessage) (online : Bool) :
    Does (putMessages destination messages online : Call ν Response) fun s t s' x =>
      putAnswers t = [x] ∧ s' = s := by
  refine ((does_ask .systemNow).bind fun timestamp => does_request _ _ _).mono
    fun s t s' x h => ?_
  cases h with
  | error h =>
    obtain ⟨a, -, -, hresult⟩ := h
    cases hresult
  | ok h h' =>
    obtain ⟨a, rfl, rfl, -⟩ := h
    obtain ⟨rfl, rfl⟩ := h'
    exact ⟨rfl, rfl⟩

/-- The retry: what `lastResponse` returns is the last answer that was no exception. -/
theorem does_lastResponse (destinationServiceId : String) (messages : List OutgoingMessage)
    (response : Response) :
    Does (lastResponse env destinationServiceId messages response) fun s t s' x =>
      s' = s ∧ ∃ last, x = .ok last ∧
        (answered (.ok response :: putAnswers t)).getLast? = some last := by
  unfold lastResponse
  split
  · refine Does.mono (Does.tryCatch_pure (Does.bind (does_ofExcept _)
        (?_ : ∀ extraDevices : List Int, Does _ fun s t s' x =>
          s' = s ∧ (putAnswers t = [] ∧ x = .ok response ∨ putAnswers t = [x]))) response)
      fun s t s' x h => ?_
    · intro extraDevices
      simp only
      split
      · refine (does_pure response).mono fun s t s' x h => ?_
        obtain ⟨rfl, rfl, rfl⟩ := h
        exact ⟨rfl, .inl ⟨rfl, rfl⟩⟩
      · exact (does_putMessages _ _ _).mono fun s t s' x h => ⟨h.2, .inr h.1⟩
    · rcases h with ⟨b, h, rfl⟩ | ⟨e, h, rfl⟩
      · cases h with
        | ok h h' =>
          obtain ⟨rfl, rfl, -⟩ := h
          obtain ⟨rfl, ⟨hput, hresult⟩ | hput⟩ := h'
          · rw [List.nil_append, hput]
            exact ⟨rfl, b, rfl, congrArg some (Except.ok.inj hresult).symm⟩
          · rw [List.nil_append, hput]
            exact ⟨rfl, b, rfl, rfl⟩
      · cases h with
        | error h =>
          obtain ⟨rfl, rfl, -⟩ := h
          exact ⟨rfl, response, rfl, rfl⟩
        | ok h h' =>
          obtain ⟨rfl, rfl, -⟩ := h
          obtain ⟨rfl, ⟨-, hresult⟩ | hput⟩ := h'
          · cases hresult
          · rw [List.nil_append, hput]
            exact ⟨rfl, response, rfl, rfl⟩
  · refine (does_pure response).mono fun s t s' x h => ?_
    obtain ⟨rfl, rfl, rfl⟩ := h
    exact ⟨rfl, response, rfl, rfl⟩

theorem does_forgetStaleDevices (destinationServiceId : String) (response : Response) :
    Does (forgetStaleDevices destinationServiceId response : Call ν Unit) fun s t s' x =>
      t = [] ∧ x = .ok () ∧
        s'.deviceListCache =
          if response.isRefusal then s.deviceListCache.erase destinationServiceId
          else s.deviceListCache := by
  have hrefusal : (response.status / 100 ≠ 2 ∧ (response.status = 409 ∨ response.status = 410)) ↔
      response.isRefusal = true := by
    rw [Response.isRefusal, decide_eq_true_iff]
    omega
  unfold forgetStaleDevices
  split
  · next h =>
    refine (does_locked (does_writing _)).mono fun s t s' x hwritten => ?_
    obtain ⟨rfl, rfl, rfl⟩ := hwritten
    exact ⟨rfl, rfl, (if_pos (hrefusal.mp h)).symm⟩
  · next h =>
    refine (does_pure ()).mono fun s t s' x hreturn => ?_
    obtain ⟨rfl, rfl, rfl⟩ := hreturn
    exact ⟨rfl, rfl, (if_neg (mt hrefusal.mpr h)).symm⟩

theorem not_lastRefused_of_no_put {t : Trace Query (Answer ν)} (h : putAnswers t = []) :
    ¬ LastRefused t := by
  rintro ⟨response, hlast, -⟩
  rw [h] at hlast
  cases hlast

theorem lastRefused_append {t t' : Trace Query (Answer ν)} (h : putAnswers t = []) :
    LastRefused (t ++ t') ↔ LastRefused t' := by
  rw [LastRefused, putAnswers_append, h, List.nil_append]
  rfl

/-- Sending to devices that are known: a sender that forgets does so if the last answer is a
refusal. -/
def Forgets (peer : String) (forgets : Bool) :
    Throwing.Runs RuntimeError AccountStores Query (Answer ν) α :=
  fun s t s' _ =>
    ((forgets = true ∧ LastRefused t) ∧
        s'.deviceListCache = s.deviceListCache.erase peer) ∨
      (¬ (forgets = true ∧ LastRefused t) ∧ s'.deviceListCache = s.deviceListCache)

theorem forgets_of_last {peer : String} {s s' : AccountStores} {t : Trace Query (Answer ν)}
    {x : Except RuntimeError α} {last : Response}
    (hlast : (answered (putAnswers t)).getLast? = some last)
    (hcache : s'.deviceListCache =
      if last.isRefusal then s.deviceListCache.erase peer else s.deviceListCache) :
    Forgets peer true s t s' x := by
  cases hrefusal : last.isRefusal with
  | true =>
    rw [hrefusal, if_pos rfl] at hcache
    exact .inl ⟨⟨rfl, last, hlast, hrefusal⟩, hcache⟩
  | false =>
    rw [hrefusal, if_neg (by decide)] at hcache
    refine .inr ⟨?_, hcache⟩
    rintro ⟨-, response, hresponse, hrefused⟩
    rw [← Option.some.inj (hlast.symm.trans hresponse), hrefusal] at hrefused
    cases hrefused

/-- What puts nothing before it and leaves the cache changes nothing. -/
theorem Forgets.after {peer : String} {forgets : Bool} {p : Call ν α} {f : α → Call ν β}
    (hp : Does p Quiet) (hf : ∀ a, Does (f a) (Forgets peer forgets)) :
    Does (p >>= f) (Forgets peer forgets) := by
  refine (hp.bind hf).mono fun s t s' x h => ?_
  cases h with
  | error h => exact .inr ⟨fun hlast => not_lastRefused_of_no_put h.1 hlast.2, h.2⟩
  | ok h h' =>
    obtain ⟨hput, hcache⟩ := h
    rw [Forgets, lastRefused_append hput, ← hcache]
    exact h'

/-- The answers to the messages, the retry and what is forgotten. -/
theorem forgets_put (destinationServiceId : String) (messages : List OutgoingMessage)
    (deviceIds : List Int) :
    Does (do
      let response ← putMessages destinationServiceId messages true
      let response ← lastResponse env destinationServiceId messages response
      forgetStaleDevices destinationServiceId response
      return deviceIds : Call ν (List Int)) (Forgets destinationServiceId true) := by
  refine ((does_putMessages _ _ _).bind fun response =>
    (does_lastResponse destinationServiceId messages response).bind fun last =>
      (does_forgetStaleDevices destinationServiceId last).bind fun _ =>
        does_pure deviceIds).mono fun s t s' x h => ?_
  cases h with
  | error h =>
    obtain ⟨hput, rfl⟩ := h
    refine .inr ⟨?_, rfl⟩
    rintro ⟨-, response, hlast, -⟩
    rw [hput] at hlast
    cases hlast
  | ok h h' =>
    obtain ⟨hput, rfl⟩ := h
    cases h' with
    | error h' =>
      obtain ⟨-, last, hresult, -⟩ := h'
      cases hresult
    | ok h' hforget =>
      obtain ⟨rfl, last, hresult, hlast⟩ := h'
      obtain rfl := Except.ok.inj hresult
      cases hforget with
      | error hforget =>
        obtain ⟨-, hresult, -⟩ := hforget
        cases hresult
      | ok hforget hreturn =>
        obtain ⟨rfl, -, hcache⟩ := hforget
        obtain ⟨rfl, rfl, rfl⟩ := hreturn
        refine forgets_of_last ?_ hcache
        rw [List.nil_append, List.append_nil, putAnswers_append, hput]
        exact hlast

/-- What a send to a peer does to the cache. -/
structure SendRun (peer : String) (forgets : Bool) (s : AccountStores)
    (t : Trace Query (Answer ν)) (s' : AccountStores) : Prop where
  others : ∀ other, other ≠ peer →
    s'.deviceListCache.lookup other = s.deviceListCache.lookup other
  cached : refusals t ≠ [] →
    (s'.deviceListCache.lookup peer = none ↔ forgets = true ∧ LastRefused t)
  fetches : s.deviceListCache.lookup peer = none → Fetches peer t ∨ putAnswers t = []

theorem refusals_of_no_put {t : Trace Query (Answer ν)} (h : putAnswers t = []) :
    refusals t = [] := by
  rw [refusals, h]
  rfl

/-- Find out the devices, then send to them. -/
theorem sendRun_of_resolves {peer : String} {forgets : Bool} {f : List Int → Call ν α}
    (hf : ∀ deviceIds, Does (f deviceIds) (Forgets peer forgets)) :
    Does (resolveDeviceList env localAddress peer >>= f) fun s t s' _ =>
      SendRun peer forgets s t s' := by
  refine ((resolves_resolveDeviceList peer).bind hf).mono fun s t s' x h => ?_
  cases h with
  | error h =>
    obtain ⟨hput, hothers, -, hfetch⟩ := h
    exact ⟨hothers, fun hrefused => absurd (refusals_of_no_put hput) hrefused,
      fun hnone => .inl (hfetch hnone)⟩
  | ok h h' =>
    obtain ⟨hput, hothers, hpeer, hfetch⟩ := h
    have hpeer := hpeer _ rfl
    constructor
    case others =>
      intro other hother
      rcases h' with ⟨-, hcache⟩ | ⟨-, hcache⟩
      · rw [hcache, AList.lookup_erase_ne hother]
        exact hothers other hother
      · rw [hcache]
        exact hothers other hother
    case cached =>
      intro _
      rw [lastRefused_append hput]
      rcases h' with ⟨hforgets, hcache⟩ | ⟨hforgets, hcache⟩
      · rw [hcache]
        exact iff_of_true (AList.lookup_erase _ _) hforgets
      · rw [hcache]
        exact iff_of_false hpeer hforgets
    case fetches =>
      intro hnone
      obtain ⟨e, he, hkeys⟩ := hfetch hnone
      exact .inl ⟨e, List.mem_append_left _ he, hkeys⟩

theorem sendRun_sendContent (destinationServiceId : String) (message : OutgoingContent) :
    Does (sendContent env localAddress destinationServiceId message) fun s t s' _ =>
      SendRun destinationServiceId true s t s' := by
  refine sendRun_of_resolves fun deviceIds => ?_
  split
  · refine (does_pure deviceIds).mono fun s t s' x h => ?_
    obtain ⟨rfl, rfl, rfl⟩ := h
    exact .inr ⟨fun hlast => not_lastRefused_of_no_put rfl hlast.2, rfl⟩
  · exact Forgets.after (does_locked (quiet_encryptAll _ _ _)) fun messages =>
      forgets_put destinationServiceId messages deviceIds

/-- The caller drops the result, and whatever is thrown. -/
theorem alone_dropped (f : Call ν α) (answer : Nat → (q : Query) → Answer ν q) (n : Nat)
    (s : AccountStores) :
    ((f.run.bind fun _ => .ret () : Routine ν Unit).alone answer n s).trace =
        (f.run.alone answer n s).trace ∧
      ((f.run.bind fun _ => .ret () : Routine ν Unit).alone answer n s).state =
        (f.run.alone answer n s).state := by
  rw [Prog.alone_bind]
  exact ⟨List.append_nil _, rfl⟩

theorem sendRun_reply (senderServiceId : String) (senderDeviceId : UInt32)
    (originalCiphertext : Bytes) (originalType : UInt8) (originalTimestamp : UInt64)
    (answer : Nat → (q : Query) → Answer ν q) (n : Nat) (s : AccountStores) :
    SendRun senderServiceId false s
      ((sendDecryptionErrorReply env localAddress senderServiceId senderDeviceId originalCiphertext
        originalType originalTimestamp).alone answer n s).trace
      ((sendDecryptionErrorReply env localAddress senderServiceId senderDeviceId originalCiphertext
        originalType originalTimestamp).alone answer n s).state := by
  rw [sendDecryptionErrorReply, safeCallback, (alone_dropped _ answer n s).1,
    (alone_dropped _ answer n s).2]
  refine (?_ : Does _ fun s t s' _ => SendRun senderServiceId false s t s') answer n s
  refine Does.mono (Does.bind (does_ofExcept _) fun serializedDem =>
      sendRun_of_resolves fun deviceIds => Forgets.after (does_locked (quiet_replyMessages _ _ _))
        (?_ : ∀ messages, Does _ (Forgets senderServiceId false))) fun s t s' x h => ?_
  · intro messages
    refine ((does_putMessages _ _ _).bind fun _ => does_pure ()).mono fun s t s' x h => ?_
    refine .inr ⟨fun hforgets => absurd hforgets.1 (by decide), ?_⟩
    cases h with
    | error h => rw [h.2]
    | ok h h' => rw [h'.2.1, h.2]
  · cases h with
    | error h =>
      obtain ⟨rfl, rfl, -⟩ := h
      exact ⟨fun _ _ => rfl, fun hrefused => absurd rfl hrefused, fun _ => .inr rfl⟩
    | ok h h' =>
      obtain ⟨rfl, rfl, -⟩ := h
      rw [List.nil_append]
      exact h'

theorem sendRun_code (send : PeerSend) (answer : Nat → (q : Query) → Answer ν q) (n : Nat)
    (s : AccountStores) :
    SendRun send.peer send.forgets s ((send.code env localAddress).alone answer n s).trace
      ((send.code env localAddress).alone answer n s).state := by
  cases send with
  | content destinationServiceId message =>
    obtain ⟨htrace, hstate⟩ :=
      alone_dropped (sendContent env localAddress destinationServiceId message) answer n s
    rw [PeerSend.code, htrace, hstate]
    exact sendRun_sendContent destinationServiceId message answer n s
  | decryptionErrorReply senderServiceId senderDeviceId ciphertext type timestamp =>
    exact sendRun_reply senderServiceId senderDeviceId ciphertext type timestamp answer n s

end Parts

/-! ## Sequences of sends -/

section Runs

variable {ν : Type} {env : Signaling ν} {localAddress : Address} {h : SendHistory}

/-- What a send leaves, for the peer and for the others. -/
theorem step_refused_self (e : SendEvent ν) :
    (h.step env localAddress e).refused e.send.peer =
      if (refusals (e.played env localAddress h.stores).trace).isEmpty then none
      else some (namedExtra env (e.played env localAddress h.stores).trace) :=
  Function.update_self _ _ _

theorem step_refused_ne (e : SendEvent ν) {other : String} (hother : other ≠ e.send.peer) :
    (h.step env localAddress e).refused other = h.refused other :=
  Function.update_of_ne hother _ _

/-- A send leaves no refused list behind exactly when it meets the condition. -/
theorem healed_step_iff (hhealed : h.Healed) (e : SendEvent ν) :
    (h.step env localAddress e).Healed ↔ Heals env localAddress h e := by
  have hrun := @sendRun_code ν env localAddress e.send e.answer 0 h.stores
  constructor
  · intro hstep
    by_cases hrefused : refusals (e.played env localAddress h.stores).trace = []
    · exact .inl hrefused
    · refine .inr ((hrun.cached hrefused).mp (hstep e.send.peer ?_))
      rw [step_refused_self, if_neg (by simpa using hrefused)]
      rfl
  · intro hheals peer hpeer
    by_cases hsame : peer = e.send.peer
    · subst hsame
      rw [step_refused_self] at hpeer
      by_cases hrefused : refusals (e.played env localAddress h.stores).trace = []
      · rw [hrefused] at hpeer
        cases hpeer
      · exact (hrun.cached hrefused).mpr (hheals.resolve_left hrefused)
    · rw [step_refused_ne e hsame] at hpeer
      exact (hrun.others peer hsame).trans (hhealed peer hpeer)

/-- The addresses of a trace are those of its `PUT`s. -/
theorem addressed_of_no_put {t : Trace Query (Answer ν)} (ht : putAnswers t = []) :
    addressed t = [] := by
  refine List.flatMap_eq_nil_iff.mpr fun e he => ?_
  have hput := List.filterMap_eq_nil_iff.mp ht e he
  split
  · next path body hquery =>
    obtain ⟨q, answer⟩ := e
    subst hquery
    cases hput
  · rfl

/-- Where no refused list is cached, none is used again. -/
theorem notUsedAgain_of_healed (hhealed : h.Healed) (e : SendEvent ν) :
    NotUsedAgain env localAddress h e := by
  intro extra hextra
  have hrun := @sendRun_code ν env localAddress e.send e.answer 0 h.stores
  rcases hrun.fetches (hhealed e.send.peer (by rw [hextra]; rfl)) with hfetch | hput
  · exact .inl hfetch
  · refine .inr fun deviceId _ hmem => ?_
    rw [SendEvent.played, addressed_of_no_put hput] at hmem
    cases hmem

end Runs

/-- In every sequence of sends from a state in which no refused list is cached: if every send meets
the condition, the list that was used in a send that was refused is not used again. No refused list is
cached in any state of the sequence exactly when every send meets the condition. -/
theorem deviceListCache_heals {ν : Type} (env : Signaling ν) (localAddress : Address)
    (stores : AccountStores) (sends : List (SendEvent ν)) :
    (Runs.Along (SendHistory.step env localAddress) (Heals env localAddress) ⟨stores, fun _ => none⟩
        sends →
      Runs.Along (SendHistory.step env localAddress) (NotUsedAgain env localAddress)
        ⟨stores, fun _ => none⟩ sends) ∧
    (Runs.Always (SendHistory.step env localAddress) SendHistory.Healed ⟨stores, fun _ => none⟩
        sends ↔
      Runs.Along (SendHistory.step env localAddress) (Heals env localAddress) ⟨stores, fun _ => none⟩
        sends) := by
  have hstart : SendHistory.Healed ⟨stores, fun _ => none⟩ := fun _ hpeer => by cases hpeer
  constructor
  · intro hheals
    exact hheals.imp_of_inv (fun h e hhealed hstep => (healed_step_iff hhealed e).mpr hstep)
      (fun h e hhealed _ => notUsedAgain_of_healed hhealed e) hstart
  · exact Runs.always_congr (I := fun _ => True) (fun _ _ _ _ _ => trivial)
      (fun h e _ hhealed => healed_step_iff hhealed e) trivial hstart

/-! ## A retry that is accepted -/

/-- The peer has two devices, and the server wants only the first. -/
def twoDevices : Signaling Unit :=
  let bundle (serviceId : String) (deviceId : UInt32) : RemotePreKeyBundle :=
    ⟨serviceId, deviceId, 1, none, 1, [], [], [], 1, [], []⟩
  { refusing with
    processPreKeyBundle := fun _ _ _ => .ret (.ok ())
    encryptMessage := fun _ _ _ _ => .ret (.ok ⟨[], ciphertextMessageTypeWhisper⟩)
    parseKeys := fun serviceId _ => .ok [bundle serviceId 1, bundle serviceId 2]
    parseExtraDevices := fun _ => .ok [2] }

/-- The first `PUT` is answered 409, everything else 200. -/
def onlyFirstDevice : Nat → (q : Query) → Answer Unit q
  | _, .request "PUT" _ (some body) => .ok ⟨if body.messages.length = 1 then 200 else 409, []⟩
  | _, .request _ _ _ => .ok ⟨200, []⟩
  | _, .libsignal => ()
  | _, .steadyNow => 0
  | _, .systemNow => 0
  | _, .loadSession _ => .ok true
  | _, .loadRemoteIdentity _ => .ok true
  | _, .loadIdentityKeypair => .ok none
  | _, .ringRtc _ => .none
  | _, .messageSent _ => ()
  | _, .messageSendFailure _ => ()

/-- A second keys request addresses the extra device again. -/
theorem retry_keeps_list :
    let request : SendEvent Unit := ⟨.content "peer" .keysRequest, onlyFirstDevice⟩
    ¬ Runs.Along (SendHistory.step twoDevices ⟨"self", 1⟩) (NotUsedAgain twoDevices ⟨"self", 1⟩)
      ⟨{}, fun _ => none⟩ [request, request] := by
  intro request halong
  have hsecond := halong.2.1 [2] (by decide)
  rcases hsecond with hfetch | hunused
  · exact absurd hfetch (by decide)
  · exact absurd (hunused 2 (by decide)) (by decide)

end Signal2sip
