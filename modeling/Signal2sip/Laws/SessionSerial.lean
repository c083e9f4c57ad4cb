import Signal2sip.Daemon.CallSignaling

/-!
# Sessions change one operation at a time

An encryption, a decryption and the establishment of a session each read and write sessions through
several store callbacks. All of them run under the mutex of `ProtocolStores`, which is taken narrowly:
around the loop over the devices, around one decryption, around one look at the cache, and never
around a request or a call into RingRTC, which may call send callbacks on the same thread.

- `leads_code`: every job keeps to that, on every path through it, exceptions included;
- `sessions_serialised`: so in every interleaving of any number of threads the stores are what whole
  operations made of them one after the other, and nobody waits for the network, for RingRTC or for
  the mutex itself while holding it.

The mutex is a property of an account: two accounts share neither stores nor cache.
-/

namespace Signal2sip

open Locked (Work Prog Throwing)
open Locked.Throwing (Keeps keeps_locked keeps_pure keeps_throw keeps_ofExcept)

/-- What does not wait for the network or for RingRTC. -/
def Query.local : Query → Prop
  | .libsignal | .steadyNow | .systemNow | .loadSession _ | .loadRemoteIdentity _
  | .loadIdentityKeypair => True
  | .request _ _ _ | .ringRtc _ | .messageSent _ | .messageSendFailure _ => False

/-- The rule of the mutex: what is asked while it is held is local. -/
def Query.allowed (held : Bool) (q : Query) : Prop := held = true → q.local

/-- The rule that sending keeps to besides: nothing is reported. -/
def Query.sending (held : Bool) (q : Query) : Prop :=
  q.allowed held ∧ ∀ callId, q ≠ .messageSent callId ∧ q ≠ .messageSendFailure callId

/-- The rule that finding out a peer's devices keeps to besides: nothing but keys is requested. -/
def Query.fetching (held : Bool) (q : Query) : Prop :=
  q.local ∨ held = false ∧ ∃ path, q = .request "GET" path none

/-- A rule that lets messages be put, or some of them. -/
def Query.Puts (ok : Bool → Query → Prop) (destination : String) (messages : List OutgoingMessage) :
    Prop :=
  ok false .systemNow ∧ ∀ timestamp online put, (∀ m ∈ put, m ∈ messages) →
    ok false (.request "PUT" ("/v1/messages/" ++ destination ++ "?story=false")
      (some ⟨destination, timestamp, put, online⟩))

theorem Query.puts_sending (destination : String) (messages : List OutgoingMessage) :
    Query.Puts Query.sending destination messages :=
  ⟨⟨fun _ => trivial, fun _ => ⟨(nomatch ·), (nomatch ·)⟩⟩,
    fun _ _ _ _ => ⟨(nomatch ·), fun _ => ⟨(nomatch ·), (nomatch ·)⟩⟩⟩

theorem Query.sending_of_fetching (held : Bool) (q : Query) (h : q.fetching held) :
    q.sending held := by
  rcases h with hlocal | ⟨rfl, path, rfl⟩
  · refine ⟨fun _ => hlocal, fun callId => ⟨?_, ?_⟩⟩ <;> rintro rfl <;> exact hlocal
  · exact ⟨fun h => (nomatch h), fun callId => ⟨(nomatch ·), (nomatch ·)⟩⟩

theorem Query.allowed_of_fetching (held : Bool) (q : Query) (h : q.fetching held) :
    q.allowed held :=
  (sending_of_fetching held q h).1

section Keeps

variable {ν : Type} {env : Signaling ν} {localAddress : Address}

theorem keeps_ask {ok : Bool → Query → Prop} {h : Bool} {q : Query} (hq : ok h q) :
    Keeps ok h (ask q : Call ν (Answer ν q)) :=
  ⟨hq, fun _ => rfl⟩

theorem keeps_request {ok : Bool → Query → Prop} {verb path : String} {body : Option MessagesBody}
    (hq : ok false (.request verb path body)) :
    Keeps ok false (request verb path body : Call ν Response) :=
  ⟨hq, fun _ => rfl⟩

theorem keeps_working {ok : Bool → Query → Prop} {β : Type} (w : Work AccountStores β) :
    Keeps ok true (working w : Call ν β) :=
  ⟨rfl, fun _ => rfl⟩

theorem keeps_callLibsignal {β : Type} (call : ν → Libsignal (Except RuntimeError β)) :
    Keeps Query.fetching true (callLibsignal call) :=
  ⟨.inl trivial, fun _ => ⟨rfl, fun _ => rfl⟩⟩

/-! ### Finding out a peer's devices, and encrypting for them -/

theorem keeps_establishAll (bundles : List RemotePreKeyBundle) :
    Keeps Query.fetching true (establishAll env localAddress bundles) := by
  induction bundles with
  | nil => exact keeps_pure _
  | cons bundle bundles ih =>
    exact (keeps_callLibsignal _).bind fun _ => ih.bind fun _ => keeps_pure _

theorem keeps_fetchAndEstablishSessions (remoteServiceId : String) :
    Keeps Query.fetching false
      (fetchAndEstablishSessions env localAddress remoteServiceId) := by
  refine (keeps_request (.inr ⟨rfl, _, rfl⟩)).bind fun response => ?_
  split
  · exact keeps_throw _
  · exact (keeps_ofExcept _).bind fun bundles => keeps_locked (keeps_establishAll bundles)

theorem keeps_loading {ok : Bool → Query → Prop} {β : Type} (statement : Except RuntimeError Bool)
    (f : AccountStores → Option β) : Keeps ok true (loading statement f : Call ν (Option β)) :=
  (keeps_ofExcept _).bind fun _ => keeps_working _

theorem keeps_remoteRegistrationIdFromSession (address : String) :
    Keeps Query.fetching true (remoteRegistrationIdFromSession env address) := by
  refine Keeps.bind ((keeps_ask (.inl trivial)).bind fun statement => keeps_loading statement _) ?_
  intro record
  cases record with
  | none => exact keeps_pure _
  | some record => exact keeps_ofExcept _

theorem keeps_cachedDeviceList (remotePeerId : String) :
    Keeps Query.fetching true (cachedDeviceList remotePeerId : Call ν (Option (List Int))) := by
  apply (keeps_working _).bind
  intro cached
  cases cached with
  | none => exact keeps_pure _
  | some cached =>
    exact (keeps_ask (q := .steadyNow) (.inl trivial)).bind fun now => keeps_pure _

theorem keeps_resolveDeviceList (remotePeerId : String) :
    Keeps Query.fetching false (resolveDeviceList env localAddress remotePeerId) := by
  apply (keeps_locked (keeps_cachedDeviceList remotePeerId)).bind
  intro cached
  cases cached with
  | some deviceIds => exact keeps_pure _
  | none =>
    apply (keeps_fetchAndEstablishSessions remotePeerId).bind
    intro deviceIds
    refine Keeps.bind (keeps_locked ?_) fun _ => keeps_pure _
    exact (keeps_ask (q := .steadyNow) (.inl trivial)).bind fun now => keeps_working _

theorem keeps_encryptAll (destinationServiceId : String) (plaintext : Bytes) (deviceIds : List Int) :
    Keeps Query.fetching true
      (encryptAll env localAddress destinationServiceId plaintext deviceIds) := by
  induction deviceIds with
  | nil => exact keeps_pure _
  | cons deviceId deviceIds ih =>
    apply (keeps_callLibsignal _).bind
    intro encrypted
    apply (keeps_remoteRegistrationIdFromSession _).bind
    intro registrationId
    exact ih.bind fun messages => keeps_pure _

/-! ### Sending -/

section Sending

variable {ok : Bool → Query → Prop}

theorem keeps_putMessages {destination : String} {messages : List OutgoingMessage}
    (hput : Query.Puts ok destination messages) (online : Bool) :
    Keeps ok false (putMessages destination messages online : Call ν Response) :=
  (keeps_ask hput.1).bind fun timestamp =>
    keeps_request (hput.2 timestamp online messages fun _ => id)

/-- A retry puts some of the messages again. -/
theorem keeps_lastResponse {destinationServiceId : String} {messages : List OutgoingMessage}
    (hput : Query.Puts ok destinationServiceId messages) (response : Response) :
    Keeps ok false (lastResponse env destinationServiceId messages response) := by
  unfold lastResponse
  split
  · refine Keeps.tryCatch ?_ fun _ => keeps_pure _
    apply (keeps_ofExcept _).bind
    intro extraDevices
    dsimp only
    split
    · exact keeps_pure _
    · exact keeps_putMessages ⟨hput.1, fun timestamp online put hsome =>
        hput.2 timestamp online put fun m hm => (List.mem_filter.mp (hsome m hm)).1⟩ true
  · exact keeps_pure _

theorem keeps_forgetStaleDevices (destinationServiceId : String)
    (response : Response) :
    Keeps ok false (forgetStaleDevices destinationServiceId response : Call ν Unit) := by
  unfold forgetStaleDevices
  split
  · exact keeps_locked (keeps_working _)
  · exact keeps_pure _

theorem keeps_sendContent (hfetch : ∀ held q, Query.fetching held q → ok held q)
    {destinationServiceId : String} (hput : ∀ messages, Query.Puts ok destinationServiceId messages)
    (content : OutgoingContent) :
    Keeps ok false (sendContent env localAddress destinationServiceId content) := by
  apply ((keeps_resolveDeviceList _).mono hfetch).bind
  intro deviceIds
  split
  · exact keeps_pure _
  · refine ((keeps_locked (keeps_encryptAll _ _ _)).mono hfetch).bind fun messages => ?_
    apply (keeps_putMessages (hput messages) true).bind
    intro response
    apply (keeps_lastResponse (hput messages) response).bind
    intro response
    exact (keeps_forgetStaleDevices _ _).bind fun _ => keeps_pure _

theorem keeps_send (hfetch : ∀ held q, Query.fetching held q → ok held q)
    (hput : ∀ destination messages, Query.Puts ok destination messages) (callback : SendCallback) :
    Keeps ok false (callback.send env localAddress) := by
  cases callback <;> exact keeps_sendContent hfetch (hput _) _

/-! ### Callbacks and the dispatch queue -/

theorem leads_safeCallback {f : Call ν Unit} (h : Keeps ok false f) :
    (safeCallback f).Leads ok false false :=
  Prog.Leads.bind h fun _ => rfl

theorem keeps_lift {α : Type} {p : Routine ν α} (h : p.Leads ok false false) :
    Keeps ok false (ExceptT.lift p : Call ν α) :=
  Prog.Leads.bind h fun _ => rfl

theorem leads_callbacks (hfetch : ∀ held q, Query.fetching held q → ok held q)
    (hput : ∀ destination messages, Query.Puts ok destination messages)
    (hreport : ∀ callId, ok false (.messageSent callId)) (callbacks : SendCallbacks) :
    (callbacks.run env localAddress).Leads ok false false := by
  induction callbacks with
  | none => rfl
  | more callback inside rest ihInside ihRest =>
    refine Prog.Leads.bind (leads_safeCallback ?_) fun _ => ihRest
    exact (keeps_send hfetch hput callback).bind fun _ =>
      (keeps_ask (hreport _)).bind fun _ => keeps_lift ihInside

end Sending

theorem Query.puts_allowed (destination : String) (messages : List OutgoingMessage) :
    Query.Puts Query.allowed destination messages :=
  ⟨fun _ => trivial, fun _ _ _ _ => (nomatch ·)⟩

theorem keeps_ringRtc (call : RingRtcCall) :
    Keeps Query.allowed false (ringRtc env localAddress call) :=
  (keeps_ask (nomatch ·)).bind fun callbacks => keeps_lift
    (leads_callbacks Query.allowed_of_fetching Query.puts_allowed (fun _ => (nomatch ·)) callbacks)

theorem keeps_identityKeys (senderServiceId : String) :
    Keeps Query.allowed true (identityKeys senderServiceId : Call ν (Bytes × Bytes)) := by
  refine Keeps.bind ((keeps_ask fun _ => trivial).bind fun statement => keeps_loading statement _) ?_
  intro stored
  refine (keeps_ask (q := .loadIdentityKeypair) fun _ => trivial).bind fun keypair => ?_
  exact (keeps_ofExcept _).bind fun keypair => keeps_pure _

theorem keeps_receivedIceUpdates (senderServiceId : String) (senderDeviceId : UInt32)
    (ices : List (CallId × Bytes)) :
    Keeps Query.allowed false
      (receivedIceUpdates env localAddress senderServiceId senderDeviceId ices) := by
  induction ices with
  | nil => exact keeps_pure _
  | cons ice ices ih => exact (keeps_ringRtc _).bind fun _ => ih

theorem keeps_whenPresent {α : Type} (part : Option α) {f : α → Call ν Unit}
    (h : ∀ a, Keeps Query.allowed false (f a)) :
    Keeps Query.allowed false (whenPresent part f) := by
  cases part with
  | none => exact keeps_pure _
  | some a => exact h a

theorem keeps_handleCallMessage (senderServiceId : String) (senderDeviceId : UInt32)
    (message : CallMessage) :
    Keeps Query.allowed false
      (handleCallMessage env localAddress senderServiceId senderDeviceId message) := by
  refine (keeps_whenPresent _ fun offer => ?_).bind fun _ => ?_
  · exact (keeps_locked (keeps_identityKeys _)).bind fun keys => keeps_ringRtc _
  refine (keeps_whenPresent _ fun answer => ?_).bind fun _ => ?_
  · exact (keeps_locked (keeps_identityKeys _)).bind fun keys => keeps_ringRtc _
  apply (keeps_receivedIceUpdates _ _ _).bind
  intro _
  refine (keeps_whenPresent _ fun hangup => keeps_ringRtc _).bind fun _ => ?_
  exact keeps_whenPresent _ fun id => keeps_ringRtc _

theorem keeps_replyMessages (senderServiceId : String) (plaintextContent : Bytes)
    (deviceIds : List Int) :
    Keeps Query.fetching true
      (replyMessages env localAddress senderServiceId plaintextContent deviceIds) := by
  induction deviceIds with
  | nil => exact keeps_pure _
  | cons deviceId deviceIds ih =>
    unfold replyMessages
    split
    · exact ih
    · apply (keeps_remoteRegistrationIdFromSession _).bind
      intro registrationId
      exact ih.bind fun messages => keeps_pure _

theorem leads_sendDecryptionErrorReply (senderServiceId : String) (senderDeviceId : UInt32)
    (originalCiphertext : Bytes) (originalType : UInt8) (originalTimestamp : UInt64) :
    (sendDecryptionErrorReply env localAddress senderServiceId senderDeviceId originalCiphertext
      originalType originalTimestamp).Leads Query.allowed false false := by
  refine leads_safeCallback ((keeps_ofExcept _).bind fun serializedDem => ?_)
  apply ((keeps_resolveDeviceList _).mono Query.allowed_of_fetching).bind
  intro deviceIds
  apply ((keeps_locked (keeps_replyMessages _ _ _)).mono Query.allowed_of_fetching).bind
  intro messages
  exact (keeps_putMessages (Query.puts_allowed _ messages) false).bind fun _ => keeps_pure _

theorem keeps_decryptCiphertextCall (remoteAddress : Address) (messageType : UInt8)
    (ciphertext : Bytes) :
    Keeps Query.fetching true
      (decryptCiphertextCall env localAddress remoteAddress messageType ciphertext) :=
  (keeps_callLibsignal _).bind fun _ => keeps_pure _

theorem keeps_decryptSealedSenderCall (sealedSenderCiphertext : Bytes) (serverTimestamp : UInt64) :
    Keeps Query.fetching true
      (decryptSealedSenderCall env localAddress sealedSenderCiphertext serverTimestamp) := by
  refine (keeps_callLibsignal _).bind fun usmc => (keeps_ofExcept _).bind fun valid => ?_
  split
  · exact keeps_throw _
  · exact (keeps_decryptCiphertextCall _ _ _).bind fun plaintext => keeps_pure _

theorem keeps_decryptEnvelope (envelope : Envelope) :
    Keeps Query.fetching false (decryptEnvelope env localAddress envelope) := by
  refine keeps_locked ?_
  split
  · exact (keeps_decryptSealedSenderCall _ _).bind fun _ => keeps_pure _
  · split
    · apply (keeps_ofExcept _).bind
      intro senderServiceId
      exact (keeps_decryptCiphertextCall _ _ _).bind fun plaintext => keeps_pure _
    · exact keeps_pure _

/-- Every job of the account's threads keeps to the rules of the mutex. -/
theorem leads_code (job : SignalingJob) :
    (job.code env localAddress).Leads Query.allowed false false := by
  cases job with
  | push envelope =>
    exact Prog.Leads.bind ((keeps_decryptEnvelope envelope).mono Query.allowed_of_fetching)
      fun _ => rfl
  | callbacks made =>
    exact leads_callbacks Query.allowed_of_fetching Query.puts_allowed (fun _ => (nomatch ·)) made
  | callMessage senderServiceId senderDeviceId message =>
    exact leads_safeCallback (keeps_handleCallMessage _ _ _)
  | decryptionErrorReply senderServiceId senderDeviceId originalCiphertext originalType
      originalTimestamp => exact leads_sendDecryptionErrorReply _ _ _ _ _
  | keysRequest =>
    exact Prog.Leads.bind
      (keeps_sendContent Query.allowed_of_fetching (Query.puts_allowed _) _) fun _ => rfl

end Keeps

section Threads

variable {ν : Type} (env : Signaling ν) (localAddress : Address)

/-- The stores of an account, their mutex and the threads that use them. -/
abbrev SignalingThreads (ν : Type) := Locked.System AccountStores Query (Answer ν)

abbrev SignalingEvent (ν : Type) := Locked.Event SignalingJob Query (Answer ν)

/-- The threads of an account, one access to its stores at a time. -/
def signalingStep : SignalingThreads ν → SignalingEvent ν → SignalingThreads ν :=
  Locked.System.step (SignalingJob.code env localAddress)

/-- The same, with every operation on the stores done at once. -/
def signalingAtomic : SignalingThreads ν → SignalingEvent ν → SignalingThreads ν :=
  Locked.System.atomicStep (SignalingJob.code env localAddress)

/-- For every libsignal, every stores, every number of threads and every interleaving of their steps,
with whatever the servers, the clocks and RingRTC answer: the run is one in which each operation on
the stores is done at once, with the holder of the mutex possibly inside one more; so whenever the
mutex is free, the stores are what the operations made of them in that order. And no thread that
holds the mutex takes it again, or asks for anything but the time, randomness and the own keys. -/
theorem sessions_serialised (stores : AccountStores) (events : List (SignalingEvent ν)) :
    let idle : SignalingThreads ν := Locked.System.idle stores
    let reached := Runs.final (signalingStep env localAddress) idle events
    (∃ atomic, atomic.Sublist events ∧
      Locked.System.Ahead (Runs.final (signalingAtomic env localAddress) idle atomic) reached ∧
      (reached.holder = none →
        reached.shared =
          (Locked.System.effects (SignalingJob.code env localAddress) idle atomic).foldl
            (fun s operation => operation s) stores)) ∧
    Runs.Always (signalingStep env localAddress) (Locked.System.Safe Query.allowed) idle events := by
  intro idle reached
  refine ⟨?_, Locked.System.safe_always leads_code stores events⟩
  have hcode : ∀ job : SignalingJob, (job.code env localAddress).Leads Query.allowed false false :=
    leads_code
  obtain ⟨atomic, hsub, hahead⟩ := Locked.System.serial hcode stores events
  refine ⟨atomic, hsub, hahead, fun hfree => ?_⟩
  have hshared := hahead.shared_of_free hfree
  exact hshared.symm.trans (Locked.System.shared_eq_effects _ atomic)

end Threads

end Signal2sip
