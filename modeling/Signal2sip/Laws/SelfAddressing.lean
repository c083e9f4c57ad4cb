import Signal2sip.Laws.DeviceListCache

/-!
# Messages to our own account

The server takes a `PUT /v1/messages` to the account that sends it for a sync message, and refuses it
if it addresses the sending device too. The device list of the own account names that device like any
other. `sendDecryptionErrorReply` leaves it out; `sendContent`, and so `sendKeysRequest`, does not.
-/

namespace Signal2sip

open Locked (Prog Throwing Oracle Trace)
open Locked.Throwing (Keeps keeps_pure keeps_locked keeps_ofExcept)

/-- Does the function leave this device out of a message to its own account? -/
def PeerSend.leavesOutSelf : PeerSend → Bool
  | .content _ _ => false
  | .decryptionErrorReply _ _ _ _ _ => true

/-- The messages of a `PUT` to an account. -/
def messagesTo {ν : Type} (serviceId : String) : Sigma (Answer ν) → List OutgoingMessage
  | ⟨.request "PUT" path (some body), _⟩ =>
    if path = "/v1/messages/" ++ serviceId ++ "?story=false" then body.messages else []
  | _ => []

/-- No message to the own account is for the local device. -/
def SparesSelf {ν : Type} (localAddress : Address) (trace : Trace Query (Answer ν)) : Prop :=
  ∀ e ∈ trace, ∀ m ∈ messagesTo localAddress.serviceId e,
    UInt32.ofInt m.destinationDeviceId ≠ localAddress.deviceId

instance {ν : Type} (localAddress : Address) (trace : Trace Query (Answer ν)) :
    Decidable (SparesSelf localAddress trace) :=
  inferInstanceAs (Decidable (∀ e ∈ trace, ∀ m ∈ messagesTo localAddress.serviceId e, _))

/-- Nothing is put but messages to the devices of one account that `P` allows. -/
def Query.addressing (peer : String) (P : Int → Prop) (held : Bool) (q : Query) : Prop :=
  q.fetching held ∨
    ∃ body, q = .request "PUT" ("/v1/messages/" ++ peer ++ "?story=false") (some body) ∧
      ∀ m ∈ body.messages, P m.destinationDeviceId

theorem Query.addressing_of_fetching {peer : String} {P : Int → Prop} (held : Bool) (q : Query)
    (h : q.fetching held) : q.addressing peer P held := .inl h

/-- The device that the server names is the device that is addressed. -/
theorem ofInt_intOfUInt32 (deviceId : UInt32) : UInt32.ofInt (intOfUInt32 deviceId) = deviceId := by
  have hmod : intOfUInt32 deviceId % (2 ^ 32 : Int) = deviceId.toNat :=
    Int.bmod_emod.trans
      (Int.emod_eq_of_lt (Int.natCast_nonneg _) (Int.ofNat_lt.mpr deviceId.toNat_lt))
  rw [UInt32.ofInt, hmod, Int.toNat_natCast, UInt32.ofNat_toNat]

section Sending

variable {ν : Type} {env : Signaling ν} {localAddress : Address} {peer : String} {P : Int → Prop}

theorem sparesSelf_of_addressing {trace : Trace Query (Answer ν)}
    (htrace : ∀ e ∈ trace, ∃ held, e.1.addressing peer P held)
    (hself : peer = localAddress.serviceId →
      ∀ deviceId, P deviceId → UInt32.ofInt deviceId ≠ localAddress.deviceId) :
    SparesSelf localAddress trace := by
  intro e he m hm
  obtain ⟨held, hfetching | ⟨body, hput, hmessages⟩⟩ := htrace e he
  · obtain ⟨q, answer⟩ := e
    rcases hfetching with hlocal | ⟨-, path, rfl⟩
    · cases q with
      | request verb path body => cases hlocal
      | _ => cases hm
    · cases hm
  · obtain ⟨q, answer⟩ := e
    subst hput
    rw [messagesTo] at hm
    split at hm
    · next hpath =>
      have hpeer : peer = localAddress.serviceId :=
        (String.append_right_inj _).mp ((String.append_left_inj _).mp hpath)
      exact hself hpeer _ (hmessages m hm)
    · cases hm

/-! ## What the parts of a send address -/

theorem puts_addressing {messages : List OutgoingMessage}
    (hmessages : ∀ m ∈ messages, P m.destinationDeviceId) :
    Query.Puts (Query.addressing peer P) peer messages :=
  ⟨.inl (.inl trivial), fun _ _ _ hput => .inr ⟨_, rfl, fun m hm => hmessages m (hput m hm)⟩⟩

theorem encryptAll_deviceIds (plaintext : Bytes) {deviceIds : List Int}
    {o : Oracle AccountStores Query (Answer ν)} {n : Nat} {messages : List OutgoingMessage}
    (h : ((encryptAll env localAddress peer plaintext deviceIds).run.play o n).2.2 = .ok messages) :
    messages.map (·.destinationDeviceId) = deviceIds := by
  induction deviceIds generalizing n messages with
  | nil =>
    cases h
    rfl
  | cons deviceId deviceIds ih =>
    obtain ⟨encrypted, -, h⟩ := Throwing.play_bind_eq_ok h
    obtain ⟨registrationId, -, h⟩ := Throwing.play_bind_eq_ok h
    obtain ⟨others, hothers, h⟩ := Throwing.play_bind_eq_ok h
    cases h
    exact congrArg (deviceId :: ·) (ih hothers)

theorem replyMessages_others (plaintextContent : Bytes) {deviceIds : List Int}
    {o : Oracle AccountStores Query (Answer ν)} {n : Nat} {messages : List OutgoingMessage}
    (h : ((replyMessages env localAddress peer plaintextContent deviceIds).run.play o n).2.2 =
      .ok messages) :
    ∀ m ∈ messages, ¬ (peer = localAddress.serviceId ∧
      UInt32.ofInt m.destinationDeviceId = localAddress.deviceId) := by
  induction deviceIds generalizing n messages with
  | nil =>
    cases h
    exact fun m hm => absurd hm List.not_mem_nil
  | cons deviceId deviceIds ih =>
    rw [replyMessages] at h
    split at h
    · exact ih h
    · next hother =>
      obtain ⟨registrationId, -, h⟩ := Throwing.play_bind_eq_ok h
      obtain ⟨others, hothers, h⟩ := Throwing.play_bind_eq_ok h
      cases h
      intro m hm
      rcases List.mem_cons.mp hm with rfl | hm
      · exact hother
      · exact ih hothers m hm

/-! ## Whole sends -/

/-- A send to no device but those of the list. -/
theorem addressing_sendContent {content : OutgoingContent} {deviceIds : List Int}
    {o : Oracle AccountStores Query (Answer ν)} {n : Nat}
    (hresolve : ∀ found, ((resolveDeviceList env localAddress peer).run.play o n).2.2 = .ok found →
      found = deviceIds) :
    ∀ e ∈ ((sendContent env localAddress peer content).run.play o n).1,
      ∃ held, e.1.addressing peer (· ∈ deviceIds) held := by
  refine Throwing.asked_bind ((keeps_resolveDeviceList peer).mono Query.addressing_of_fetching)
    fun found hfound => ?_
  obtain rfl := hresolve found hfound
  split
  · exact fun e he => absurd he List.not_mem_nil
  refine Throwing.asked_bind
    ((keeps_locked (keeps_encryptAll _ _ _)).mono Query.addressing_of_fetching)
    fun messages hencrypted => ?_
  rw [Throwing.play_locked] at hencrypted
  have hmessages : ∀ m ∈ messages, m.destinationDeviceId ∈ found := fun m hm => by
    rw [← encryptAll_deviceIds _ hencrypted]
    exact List.mem_map_of_mem hm
  refine Keeps.asked (h := false) ?_
  refine (keeps_putMessages (puts_addressing hmessages) true).bind fun response => ?_
  refine (keeps_lastResponse (puts_addressing hmessages) response).bind fun last => ?_
  exact (keeps_forgetStaleDevices _ _).bind fun _ => keeps_pure _

theorem addressing_reply (senderDeviceId : UInt32) (originalCiphertext : Bytes)
    (originalType : UInt8) (originalTimestamp : UInt64)
    (o : Oracle AccountStores Query (Answer ν)) (n : Nat) :
    ∀ e ∈ ((sendDecryptionErrorReply env localAddress peer senderDeviceId originalCiphertext
        originalType originalTimestamp).play o n).1,
      ∃ held, e.1.addressing peer (fun deviceId => ¬ (peer = localAddress.serviceId ∧
        UInt32.ofInt deviceId = localAddress.deviceId)) held := by
  rw [sendDecryptionErrorReply, play_safeCallback]
  refine Throwing.asked_bind (keeps_ofExcept (h := false) _) fun serializedDem _ => ?_
  refine Throwing.asked_bind ((keeps_resolveDeviceList peer).mono Query.addressing_of_fetching)
    fun deviceIds _ => ?_
  refine Throwing.asked_bind ((keeps_locked (keeps_replyMessages _ _ _)).mono
    Query.addressing_of_fetching) fun messages hmessages => ?_
  rw [Throwing.play_locked] at hmessages
  refine Keeps.asked (h := false) ?_
  exact (keeps_putMessages (puts_addressing (replyMessages_others _ hmessages)) false).bind
    fun _ => keeps_pure _

end Sending

/-! ## Sends that reach the server -/

/-- Every request is answered 200. -/
def accepted (stores : AccountStores) : Oracle AccountStores Query (Answer Unit) where
  state := fun _ => stores
  answer
    | _, .request _ _ _ => .ok ⟨200, []⟩
    | _, .libsignal => ()
    | _, .steadyNow => 0
    | _, .systemNow => 0
    | _, .loadSession _ => .ok true
    | _, .loadRemoteIdentity _ => .ok true
    | _, .loadIdentityKeypair => .ok none
    | _, .ringRtc _ => .none
    | _, .messageSent _ => ()
    | _, .messageSendFailure _ => ()

/-- The device list of the peer is cached. -/
def cachedList (peer : String) (deviceIds : List Int) : Oracle AccountStores Query (Answer Unit) :=
  accepted { deviceListCache := AList.insert peer (deviceIds, 0) ∅ }

theorem resolveDeviceList_cachedList (env : Signaling Unit) (localAddress : Address) (peer : String)
    (deviceIds : List Int) (n : Nat) :
    ((resolveDeviceList env localAddress peer).run.play (cachedList peer deviceIds) n).2.2 =
      .ok deviceIds := by
  have hlookup : (AList.insert peer (deviceIds, (0 : Int)) (∅ : Table String (List Int × Int))).lookup
      peer = some (deviceIds, 0) := AList.lookup_insert _
  have hcached : ((Throwing.locked (cachedDeviceList peer) : Call Unit (Option (List Int))).run.play
      (cachedList peer deviceIds) n).2.2 = .ok (some deviceIds) := by
    have hread : ((reading fun s => s.deviceListCache.lookup peer :
        Call Unit (Option (List Int × Int))).run.play (cachedList peer deviceIds) n).2.2 =
          .ok (some (deviceIds, 0)) := congrArg Except.ok hlookup
    rw [Throwing.play_locked, cachedDeviceList, Throwing.play_bind_ok hread]
    rfl
  rw [resolveDeviceList, Throwing.play_bind_ok hcached]
  rfl

theorem encryptAll_cachedList (localAddress : Address) (peer : String) (plaintext : Bytes)
    (list deviceIds : List Int) (n : Nat) :
    ∃ messages,
      ((encryptAll twoDevices localAddress peer plaintext deviceIds).run.play
        (cachedList peer list) n).2.2 = .ok messages := by
  induction deviceIds generalizing n with
  | nil => exact ⟨[], rfl⟩
  | cons deviceId deviceIds ih =>
    have hencrypted : ∀ n, ((callLibsignal fun v => twoDevices.encryptMessage v localAddress
        ⟨peer, UInt32.ofInt deviceId⟩ (padMessageBody plaintext)).run.play (cachedList peer list)
          n).2.2 = .ok ⟨[], ciphertextMessageTypeWhisper⟩ := fun n => rfl
    have hregistration : ∀ n, ((remoteRegistrationIdFromSession twoDevices
        (peer ++ "." ++ toString deviceId)).run.play (cachedList peer list) n).2.2 = .ok 0 :=
      fun n => rfl
    rw [encryptAll, Throwing.play_bind_ok (hencrypted n), Throwing.play_bind_ok (hregistration _)]
    obtain ⟨messages, hmessages⟩ := ih _
    rw [Throwing.play_bind_ok hmessages]
    exact ⟨_, rfl⟩

/-- `sendContent` addresses the whole list. -/
theorem sendContent_addresses (localAddress : Address) (peer : String) (content : OutgoingContent)
    {deviceIds : List Int} {deviceId : Int} (hmem : deviceId ∈ deviceIds) :
    ∃ e ∈ ((sendContent twoDevices localAddress peer content).run.play
        (cachedList peer deviceIds) 0).1, ∃ m ∈ messagesTo peer e, m.destinationDeviceId = deviceId := by
  have hresolve := resolveDeviceList_cachedList twoDevices localAddress peer deviceIds 0
  rw [sendContent, Throwing.play_bind_ok hresolve, if_neg (List.ne_nil_of_mem hmem)]
  obtain ⟨messages, hmessages⟩ := encryptAll_cachedList localAddress peer
    (twoDevices.serialize content) deviceIds deviceIds
    ((resolveDeviceList twoDevices localAddress peer).run.play (cachedList peer deviceIds) 0).2.1
  have hids := encryptAll_deviceIds _ hmessages
  rw [← Throwing.play_locked] at hmessages
  rw [Throwing.play_bind_ok hmessages]
  rw [← hids] at hmem
  obtain ⟨m, hm, hdevice⟩ := List.mem_map.mp hmem
  refine ⟨_, List.mem_append_right _ (List.mem_append_right _
    (List.mem_cons_of_mem _ List.mem_cons_self)), m, ?_, hdevice⟩
  rw [messagesTo, if_pos rfl]
  exact hm

/-- For every sending function, every local device and every device list of the account that is sent
to: whatever libsignal, the stores and the server do, no message to the own account is for the local
device, exactly when the function leaves this device out, the account is another one or its list does
not name this device. -/
theorem sparesSelf_iff (localAddress : Address) (send : PeerSend) (deviceIds : List UInt32) :
    (∀ (ν : Type) (env : Signaling ν) (o : Oracle AccountStores Query (Answer ν)) (n : Nat),
        (∀ found, ((resolveDeviceList env localAddress send.peer).run.play o n).2.2 = .ok found →
          found = deviceIds.map intOfUInt32) →
          SparesSelf localAddress ((send.code env localAddress).play o n).1) ↔
      (send.leavesOutSelf = true ∨ send.peer ≠ localAddress.serviceId ∨
        localAddress.deviceId ∉ deviceIds) := by
  cases send with
  | decryptionErrorReply senderServiceId senderDeviceId ciphertext type timestamp =>
    refine iff_of_true (fun ν env o n _ => ?_) (.inl rfl)
    exact sparesSelf_of_addressing (addressing_reply senderDeviceId ciphertext type timestamp o n)
      fun hself deviceId hother hlocal => hother ⟨hself, hlocal⟩
  | content peer content =>
    constructor
    · intro hspares
      by_contra hnot
      obtain ⟨-, hnot⟩ := not_or.mp hnot
      obtain ⟨hpeer, hmem⟩ := not_or.mp hnot
      obtain rfl : peer = localAddress.serviceId := not_not.mp hpeer
      have hlist : ∀ found, _ = Except.ok found → found = deviceIds.map intOfUInt32 :=
        fun found hfound => Except.ok.inj (hfound.symm.trans (resolveDeviceList_cachedList twoDevices
          localAddress localAddress.serviceId (deviceIds.map intOfUInt32) 0))
      have hrun := hspares Unit twoDevices _ 0 hlist
      rw [PeerSend.code, play_dropped] at hrun
      obtain ⟨e, he, m, hm, hdevice⟩ := sendContent_addresses localAddress
        localAddress.serviceId content (List.mem_map_of_mem (not_not.mp hmem))
      refine hrun e he m hm ?_
      rw [hdevice, ofInt_intOfUInt32]
    · intro hcond ν env o n hlist
      rw [PeerSend.code, play_dropped]
      refine sparesSelf_of_addressing (addressing_sendContent hlist) fun hself deviceId hmem hlocal => ?_
      rcases hcond with hleaves | hother | hnotmem
      · cases hleaves
      · exact hother hself
      · obtain ⟨named, hnamed, rfl⟩ := List.mem_map.mp hmem
        rw [ofInt_intOfUInt32] at hlocal
        exact hnotmem (hlocal ▸ hnamed)

/-- The keys request of a setup addresses this device, when the server lists it. -/
theorem keysRequest_addresses_self :
    ¬ SparesSelf ⟨"self", 1⟩
      (((sendKeysRequest twoDevices ⟨"self", 1⟩).run.play (accepted {}) 0).1 :
        Trace Query (Answer Unit)) := by
  decide +kernel

end Signal2sip
