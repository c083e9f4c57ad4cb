import Signal2sip.Gendb.ProvisioningCipher

/-!
# Decryption after authentication

A body of more than 49 bytes is put together of a version, an initialization vector, a ciphertext and
a code in exactly one way (`Envelope`), and the four vectors that `decryptProvisionEnvelope` copies are
these parts of it. With them the function is its three checks in a row (`decrypt_body`), and what was
called is read off that.
-/

namespace Signal2sip.Provisioning

open Base64 (charByte)
open Recorded (call failIf fail failIf_pos failIf_neg bind_of_ok bind_of_error Within within_pure
  within_fail within_failIf within_call)

/-! ## Envelopes -/

@[ext] structure Envelope where
  version : UInt8
  iv : Bytes
  ciphertext : Bytes
  mac : Bytes
  length_iv : iv.length = 16
  length_mac : mac.length = 32

namespace Envelope

/-- What the code authenticates. -/
def authenticated (e : Envelope) : Bytes := e.version :: (e.iv ++ e.ciphertext)

def body (e : Envelope) : Bytes := e.authenticated ++ e.mac

variable (e : Envelope)

theorem length_authenticated : e.authenticated.length = 17 + e.ciphertext.length := by
  rw [authenticated, List.length_cons, List.length_append, e.length_iv]
  omega

theorem length_body : e.body.length = 49 + e.ciphertext.length := by
  rw [body, List.length_append, length_authenticated, e.length_mac]
  omega

theorem take_body : e.body.take (e.body.length - 32) = e.authenticated := by
  have hlength : e.body.length - 32 = e.authenticated.length := by
    rw [length_body, length_authenticated]
    omega
  rw [hlength, body, List.take_left]

theorem drop_body : e.body.drop (e.body.length - 32) = e.mac := by
  have hlength : e.body.length - 32 = e.authenticated.length := by
    rw [length_body, length_authenticated]
    omega
  rw [hlength, body, List.drop_left]

end Envelope

/-- The lengths of the parts tell where they end. -/
theorem Envelope.body_injective {e e' : Envelope} (h : e.body = e'.body) : e = e' := by
  have hlength := congrArg List.length h
  rw [e.length_body, e'.length_body] at hlength
  obtain ⟨hauthenticated, hmac⟩ := List.append_inj' h (by rw [e.length_mac, e'.length_mac])
  obtain ⟨hversion, hrest⟩ := List.cons.inj hauthenticated
  obtain ⟨hiv, hciphertext⟩ := List.append_inj hrest (by rw [e.length_iv, e'.length_iv])
  exact Envelope.ext hversion hiv hciphertext hmac

/-- Every body that is long enough has the four parts. -/
theorem exists_envelope {b : Bytes} (h : 49 ≤ b.length) : ∃ e : Envelope, e.body = b := by
  cases b with
  | nil => exact absurd h (by decide)
  | cons version b =>
    rw [List.length_cons] at h
    refine ⟨⟨version, b.take 16, (b.drop 16).take (b.length - 48), (b.drop 16).drop (b.length - 48),
      ?_, ?_⟩, ?_⟩
    · rw [List.length_take]
      omega
    · rw [List.length_drop, List.length_drop]
      omega
    · rw [Envelope.body, Envelope.authenticated, List.cons_append, List.append_assoc,
        List.take_append_drop, List.take_append_drop]

/-! ## The parts are what is copied -/

/-- The ends of a part are inside the whole. -/
theorem slice_append (a b c : Bytes) {first last : Int} (hfirst : first = a.length)
    (hlast : last = a.length + b.length) : slice (a ++ b ++ c) first last = pure b := by
  have hinside : 0 ≤ first ∧ first ≤ last ∧ last ≤ ((a ++ b ++ c).length : Int) := by
    simp only [List.length_append]
    omega
  have hto : last.toNat = (a ++ b).length := by
    rw [List.length_append]
    omega
  have hfrom : first.toNat = a.length := by omega
  rw [slice, if_pos hinside, hto, hfrom, List.take_left, List.drop_left]

section

variable (p : Primitives) (ourPrivateKey publicKey : Bytes)

theorem decrypt_short {b : Bytes} (h : b.length ≤ 49) :
    decryptProvisionEnvelope p ourPrivateKey publicKey b =
      fail (.thrown ⟨"Provisioning envelope body too short"⟩) := by
  rw [decryptProvisionEnvelope, failIf_pos (c := b.length ≤ 1 + kIvLength + kMacLength) h]
  rfl

/-- The function behind the check of the length, with the parts for what it copies. -/
theorem decrypt_long (e : Envelope) (h : e.ciphertext ≠ []) :
    decryptProvisionEnvelope p ourPrivateKey publicKey e.body = (do
      failIf (e.version ≠ 1) (.thrown
        ⟨"Provisioning cipher version mismatch: expected 1, got " ++ toString e.version.toNat⟩)
      let keys ← deriveKeys p ourPrivateKey publicKey
      let ourMac ← hmacSha256 p keys.macKey e.authenticated
      failIf (ourMac.length ≠ e.mac.length ∨ memoryDiffers ourMac e.mac ourMac.length)
        (.thrown ⟨"Provisioning cipher MAC mismatch"⟩)
      aes256CbcDecrypt p keys.cipherKey e.iv e.ciphertext) := by
  have hivLength := e.length_iv
  have hmacLength := e.length_mac
  have hauthenticated := e.length_authenticated
  have hbody := e.length_body
  have hlong : ¬ e.body.length ≤ 1 + kIvLength + kMacLength := by
    have hpos := List.length_pos_of_ne_nil h
    simp only [kIvLength, kMacLength]
    omega
  have hversion : byteAt e.body 0 = pure e.version := rfl
  have hiv : slice e.body 1 (1 + kIvLength) = pure e.iv := by
    have hparts : e.body = [e.version] ++ e.iv ++ (e.ciphertext ++ e.mac) := by
      simp [Envelope.body, Envelope.authenticated]
    have hlast : (1 + (kIvLength : Int)) = [e.version].length + e.iv.length := by
      simp only [kIvLength, List.length_singleton]
      omega
    rw [hparts]
    exact slice_append _ _ _ rfl hlast
  have hmac : slice e.body (e.body.length - kMacLength) e.body.length = pure e.mac := by
    have hfirst : (e.body.length : Int) - kMacLength = e.authenticated.length := by
      simp only [kMacLength]
      omega
    have hlast : (e.body.length : Int) = e.authenticated.length + e.mac.length := by omega
    have hslice := slice_append e.authenticated e.mac [] hfirst hlast
    rwa [List.append_nil] at hslice
  have hmacInput : slice e.body 0 (e.body.length - kMacLength) = pure e.authenticated := by
    have hlast : (e.body.length : Int) - kMacLength =
        ([] : Bytes).length + e.authenticated.length := by
      simp only [kMacLength, List.length_nil]
      omega
    exact slice_append [] e.authenticated e.mac rfl hlast
  have hciphertext : slice e.body (1 + kIvLength) (e.body.length - kMacLength) =
      pure e.ciphertext := by
    have hfirst : (1 + (kIvLength : Int)) = (e.version :: e.iv).length := by
      simp only [kIvLength, List.length_cons]
      omega
    have hlast : (e.body.length : Int) - kMacLength =
        (e.version :: e.iv).length + e.ciphertext.length := by
      simp only [kMacLength, List.length_cons]
      omega
    exact slice_append (e.version :: e.iv) e.ciphertext e.mac hfirst hlast
  rw [decryptProvisionEnvelope, failIf_neg hlong]
  simp only [Recorded.pure_bind, hversion, hiv, hmac, hmacInput, hciphertext]

/-! ## Calls and failures -/

/-- The calls that `aes256CbcDecrypt` makes. -/
def PrimitiveCall.ofAes : PrimitiveCall → Bool
  | .cipherCtxNew => true
  | .evpDecrypt _ _ _ => true
  | _ => false

/-- Every failure is an exception. -/
def Failure.IsThrown (f : Failure) : Prop := ∃ e, f = .thrown e

/-- Exceptions only, and no decryption. -/
abbrev Apart {α : Type} (c : Cipher α) : Prop := Within (·.ofAes = false) Failure.IsThrown c

theorem apart_callThrowing {α : Type} {c : PrimitiveCall} (x : Except RuntimeError α)
    (hc : c.ofAes = false) : Apart (callThrowing c x) := by
  refine within_call hc fun f hf => ?_
  cases x with
  | ok a => exact nomatch hf
  | error e => exact ⟨e, (Except.error.inj hf).symm⟩

theorem apart_deriveKeys : Apart (deriveKeys p ourPrivateKey publicKey) := by
  refine (apart_callThrowing _ (by rfl)).bind fun ourKey _ => ?_
  refine (apart_callThrowing _ (by rfl)).bind fun theirKey _ => ?_
  refine (apart_callThrowing _ (by rfl)).bind fun sharedSecret _ => ?_
  refine (apart_callThrowing _ (by rfl)).bind fun _ _ => ?_
  refine (apart_callThrowing _ (by rfl)).bind fun _ _ => ?_
  refine (apart_callThrowing _ (by rfl)).bind fun derived _ => ?_
  have hlength := derived.property
  have hcipherKey : slice derived.val 0 32 = pure _ := if_pos (by omega)
  have hmacKey : slice derived.val 32 derived.val.length = pure _ := if_pos (by omega)
  rw [hcipherKey, Recorded.pure_bind, hmacKey, Recorded.pure_bind]
  exact within_pure _

theorem apart_hmacSha256 (key data : Bytes) : Apart (hmacSha256 p key data) := by
  refine (within_call (by rfl) fun f hf => nomatch hf).bind fun out _ => ?_
  cases out with
  | some out => exact within_pure out
  | none => exact within_fail ⟨_, rfl⟩

theorem hmacSha256_ok {key data out : Bytes} (h : (hmacSha256 p key data).outcome = .ok out) :
    p.hmac key data = some out := by
  rw [hmacSha256, bind_of_ok (a := p.hmac key data) rfl] at h
  cases hout : p.hmac key data with
  | some mac =>
    rw [hout] at h
    exact congrArg some (Except.ok.inj h)
  | none =>
    rw [hout] at h
    exact nomatch h

theorem thrown_aes256CbcDecrypt (key iv ciphertext : Bytes) :
    Within (fun c => c = .cipherCtxNew ∨ c = .evpDecrypt key iv ciphertext) Failure.IsThrown
      (aes256CbcDecrypt p key iv ciphertext) := by
  refine (within_call (.inl rfl) fun f hf => nomatch hf).bind fun ctx _ => ?_
  refine (within_failIf ⟨_, rfl⟩).bind fun _ _ => ?_
  refine (within_call (.inr rfl) fun f hf => nomatch hf).bind fun out _ => ?_
  cases out with
  | some plaintext => exact within_pure plaintext
  | none => exact within_fail ⟨_, rfl⟩

theorem mac_ne_iff (ourMac theirMac : Bytes) :
    (ourMac.length ≠ theirMac.length ∨ memoryDiffers ourMac theirMac ourMac.length = true) ↔
      ourMac ≠ theirMac := by
  rw [memoryDiffers, List.take_length, decide_eq_true_eq]
  constructor
  · rintro (hlength | hdiffers) rfl
    · exact hlength rfl
    · exact hdiffers List.take_length.symm
  · intro hne
    by_cases hlength : ourMac.length = theirMac.length
    · right
      rwa [hlength, List.take_length]
    · exact .inl hlength

/-! ## The law -/

/-- A body that passes the three checks. -/
structure Authentic (body : Bytes) (e : Envelope) (keys : DerivedKeys) : Prop where
  parts : e.body = body
  long : 49 < body.length
  first : body.head? = some 1
  derived : (deriveKeys p ourPrivateKey publicKey).outcome = .ok keys
  mac : p.hmac keys.macKey (body.take (body.length - 32)) = some (body.drop (body.length - 32))

/-- An exception, before the decryption. -/
def Rejected (c : Cipher Bytes) : Prop :=
  (∃ e, c.outcome = .error (.thrown e)) ∧ ∀ call ∈ c.calls, call.ofAes = false

theorem rejected_fail (e : RuntimeError) : Rejected (fail (.thrown e)) :=
  ⟨⟨e, rfl⟩, fun _ hcall => absurd hcall List.not_mem_nil⟩

theorem rejected_bind {α : Type} {c : Cipher α} {f : α → Cipher Bytes} (hc : Apart c)
    (hf : ∀ a, c.outcome = .ok a → Rejected (f a)) : Rejected (c >>= f) := by
  cases h : c.outcome with
  | ok a =>
    obtain ⟨hthrown, hcalls⟩ := hf a h
    rw [bind_of_ok h]
    exact ⟨hthrown, fun call hcall => (List.mem_append.mp hcall).elim (hc.calls call) (hcalls call)⟩
  | error f' =>
    obtain ⟨e, rfl⟩ := hc.fails f' h
    rw [bind_of_error h]
    exact ⟨⟨e, rfl⟩, hc.calls⟩

theorem length_ciphertext_pos {e : Envelope} (h : 49 < e.body.length) : e.ciphertext ≠ [] := by
  have hlength := e.length_body
  apply List.ne_nil_of_length_pos
  omega

variable {p ourPrivateKey publicKey} {body : Bytes} {e : Envelope} {keys : DerivedKeys}

theorem rejected_of_not_authentic (h : ¬ ∃ e keys, Authentic p ourPrivateKey publicKey body e keys) :
    Rejected (decryptProvisionEnvelope p ourPrivateKey publicKey body) := by
  by_cases hlength : body.length ≤ 49
  · rw [decrypt_short p ourPrivateKey publicKey hlength]
    exact rejected_fail _
  have hlong : 49 < body.length := by omega
  obtain ⟨e, rfl⟩ := exists_envelope hlong.le
  rw [decrypt_long p ourPrivateKey publicKey e (length_ciphertext_pos hlong)]
  by_cases hversion : e.version = 1
  · rw [failIf_neg (not_not.mpr hversion), Recorded.pure_bind]
    refine rejected_bind (apart_deriveKeys p ourPrivateKey publicKey) fun keys hkeys => ?_
    refine rejected_bind (apart_hmacSha256 p _ _) fun ourMac hmac => ?_
    have hne : ourMac ≠ e.mac := by
      rintro rfl
      refine h ⟨e, keys, rfl, hlong, congrArg some hversion, hkeys, ?_⟩
      rw [e.take_body, e.drop_body]
      exact hmacSha256_ok p hmac
    rw [failIf_pos ((mac_ne_iff _ _).mpr hne)]
    exact rejected_fail _
  · rw [failIf_pos hversion]
    exact rejected_fail _

theorem Authentic.decrypt_eq (h : Authentic p ourPrivateKey publicKey body e keys) :
    decryptProvisionEnvelope p ourPrivateKey publicKey body =
      let aes := aes256CbcDecrypt p keys.cipherKey e.iv e.ciphertext
      ⟨(deriveKeys p ourPrivateKey publicKey).calls ++ .hmac keys.macKey e.authenticated :: aes.calls,
        aes.outcome⟩ := by
  obtain ⟨rfl, hlong, hfirst, hderived, hmac⟩ := h
  have hversion : ¬ e.version ≠ 1 := not_not.mpr (Option.some.inj hfirst)
  rw [e.take_body, e.drop_body] at hmac
  have hcode : hmacSha256 p keys.macKey e.authenticated =
      ⟨[.hmac keys.macKey e.authenticated], .ok e.mac⟩ := by
    rw [hmacSha256, bind_of_ok (a := p.hmac keys.macKey e.authenticated) rfl, hmac]
    rfl
  have hequal : ¬ (e.mac.length ≠ e.mac.length ∨ memoryDiffers e.mac e.mac e.mac.length = true) :=
    mt (mac_ne_iff _ _).mp (not_not.mpr rfl)
  rw [decrypt_long p ourPrivateKey publicKey e (length_ciphertext_pos hlong), failIf_neg hversion,
    Recorded.pure_bind, bind_of_ok hderived, hcode, bind_of_ok (a := e.mac) rfl, failIf_neg hequal]
  rfl

theorem aes256CbcDecrypt_nil (key iv plaintext : Bytes) :
    (aes256CbcDecrypt p key iv []).outcome ≠ .ok plaintext := by
  rw [aes256CbcDecrypt, bind_of_ok (a := p.cipherCtxNew) rfl]
  intro h
  by_cases hctx : p.cipherCtxNew = false
  · rw [failIf_pos hctx] at h
    exact nomatch h
  · rw [failIf_neg hctx, Recorded.pure_bind, p.evpDecrypt_nil,
      bind_of_ok (a := (none : Option Bytes)) rfl] at h
    exact nomatch h

theorem authentic_of_mem_calls {call : PrimitiveCall}
    (hcall : call ∈ (decryptProvisionEnvelope p ourPrivateKey publicKey body).calls)
    (haes : call.ofAes = true) : ∃ e keys, Authentic p ourPrivateKey publicKey body e keys ∧
      (call = .cipherCtxNew ∨ call = .evpDecrypt keys.cipherKey e.iv e.ciphertext) := by
  by_cases h : ∃ e keys, Authentic p ourPrivateKey publicKey body e keys
  · obtain ⟨e, keys, h⟩ := h
    refine ⟨e, keys, h, ?_⟩
    rw [h.decrypt_eq] at hcall
    obtain hkeys | hcall := List.mem_append.mp hcall
    · have hapart := (apart_deriveKeys p ourPrivateKey publicKey).calls call hkeys
      exact absurd haes (Bool.eq_false_iff.mp hapart)
    obtain rfl | hcall := List.mem_cons.mp hcall
    · exact absurd haes Bool.false_ne_true
    · exact (thrown_aes256CbcDecrypt p _ _ _).calls call hcall
  · have hrejected := (rejected_of_not_authentic h).2 call hcall
    exact absurd haes (Bool.eq_false_iff.mp hrejected)

/-- No copy leaves the body. -/
theorem outcome_ne_undefined :
    (decryptProvisionEnvelope p ourPrivateKey publicKey body).outcome ≠ .error .undefined := by
  intro hundefined
  by_cases h : ∃ e keys, Authentic p ourPrivateKey publicKey body e keys
  · obtain ⟨e, keys, h⟩ := h
    rw [h.decrypt_eq] at hundefined
    obtain ⟨error, herror⟩ := (thrown_aes256CbcDecrypt p _ _ _).fails _ hundefined
    exact nomatch herror
  · obtain ⟨error, herror⟩ := (rejected_of_not_authentic h).1
    rw [herror] at hundefined
    exact nomatch hundefined

/-- Without a ciphertext neither the function nor the cipher returns. -/
theorem outcome_of_encoding (hversion : e.version = 1)
    (hderived : (deriveKeys p ourPrivateKey publicKey).outcome = .ok keys)
    (hmac : p.hmac keys.macKey e.authenticated = some e.mac) (plaintext : Bytes) :
    (decryptProvisionEnvelope p ourPrivateKey publicKey e.body).outcome = .ok plaintext ↔
      (aes256CbcDecrypt p keys.cipherKey e.iv e.ciphertext).outcome = .ok plaintext := by
  by_cases hnil : e.ciphertext = []
  · have hshort : e.body.length ≤ 49 := by
      rw [e.length_body, hnil]
      rfl
    rw [decrypt_short p ourPrivateKey publicKey hshort, hnil]
    constructor
    · intro h
      exact nomatch h
    · intro h
      exact absurd h (aes256CbcDecrypt_nil _ _ _)
  · have hlong : 49 < e.body.length := by
      have hpos := List.length_pos_of_ne_nil hnil
      rw [e.length_body]
      omega
    rw [← e.take_body] at hmac
    have hauthentic : Authentic p ourPrivateKey publicKey e.body e keys :=
      ⟨rfl, hlong, congrArg some hversion, hderived, hmac.trans (congrArg some e.drop_body.symm)⟩
    rw [hauthentic.decrypt_eq]

variable (p ourPrivateKey publicKey)

/-- Decryption is reached by authentic bodies only; no copy leaves the body, which has its four parts
in one way; an encoding under the derived keys is decrypted, and what the code does not match is
rejected. -/
theorem decryptProvisionEnvelope_authenticates :
    (∀ body call, call ∈ (decryptProvisionEnvelope p ourPrivateKey publicKey body).calls →
      call.ofAes = true → ∃ e keys, Authentic p ourPrivateKey publicKey body e keys ∧
        (call = .cipherCtxNew ∨ call = .evpDecrypt keys.cipherKey e.iv e.ciphertext)) ∧
    (∀ body, (decryptProvisionEnvelope p ourPrivateKey publicKey body).outcome ≠
      .error .undefined) ∧
    (∀ body : Bytes, 49 ≤ body.length → ∃! e : Envelope, e.body = body) ∧
    (∀ (e : Envelope) (keys : DerivedKeys), e.version = 1 →
      (deriveKeys p ourPrivateKey publicKey).outcome = .ok keys →
      p.hmac keys.macKey e.authenticated = some e.mac → ∀ plaintext,
        (decryptProvisionEnvelope p ourPrivateKey publicKey e.body).outcome = .ok plaintext ↔
          (aes256CbcDecrypt p keys.cipherKey e.iv e.ciphertext).outcome = .ok plaintext) ∧
    ∀ body : Bytes, (∀ keys, (deriveKeys p ourPrivateKey publicKey).outcome = .ok keys →
        p.hmac keys.macKey (body.take (body.length - 32)) ≠
          some (body.drop (body.length - 32))) →
      Rejected (decryptProvisionEnvelope p ourPrivateKey publicKey body) := by
  refine ⟨fun body call hcall haes => authentic_of_mem_calls hcall haes,
    fun body => outcome_ne_undefined, fun body hlength => ?_,
    fun e keys hversion hderived hmac => outcome_of_encoding hversion hderived hmac,
    fun body hmac => rejected_of_not_authentic ?_⟩
  · obtain ⟨e, rfl⟩ := exists_envelope hlength
    exact ⟨e, rfl, fun e' he' => Envelope.body_injective he'⟩
  · rintro ⟨e, keys, h⟩
    exact hmac keys h.derived h.mac

end

/-! ## One envelope, with the values that the libraries compute for it -/

namespace Sample

def bytesOf (length n : Nat) : Bytes :=
  (List.range length).map fun i => UInt8.ofNat (n >>> (8 * (length - 1 - i)))

def ourPrivateKey : Bytes :=
  bytesOf 32 0x0002030405060708090a0b0c0d0e0f101112131415161718191a1b1c1d1e1f60

def publicKey : Bytes :=
  bytesOf 33 0x055869aff450549732cbaaed5e5df9b30a6da31cb0e5742bad5ad4a1a768f1a67b

def sharedSecret : Bytes :=
  bytesOf 32 0xa84dc7c3c8f058b1b2dc4cd1e9b5dc0a7987f88b6a9564cde3391fc421159e77

def keys : DerivedKeys where
  cipherKey := bytesOf 32 0x7c06da22f07ea16654554e781fba4d7a47cd30cb3d91a750062b33537a9ff569
  macKey := bytesOf 32 0x2ada4b37dc02f5b5797f79093049724e6a6ce603da2308c82839163154132211

def envelope : Envelope where
  version := 1
  iv := bytesOf 16 0x000102030405060708090a0b0c0d0e0f
  ciphertext := bytesOf 16 0x50b184181603c79a0e6226d8a60af555
  mac := bytesOf 32 0x888c18515d4fe8981173ae0febdcedb68caed8b04cf835aea351cdea4095514b
  length_iv := rfl
  length_mac := rfl

/-- The field `number` of a `ProvisionMessage`. -/
def plaintext : Bytes := [0x1a, 3] ++ "+49".toList.map charByte

def primitives : Primitives where
  PrivateKey := Bytes
  PublicKey := Bytes
  privateKeyDeserialize := .ok
  publicKeyDeserialize := .ok
  agree _ _ := .ok sharedSecret
  publicKeyDestroy _ := .ok ()
  privateKeyDestroy _ := .ok ()
  hkdfDerive _ _ _ := .ok ⟨keys.cipherKey ++ keys.macKey, rfl⟩
  hmac _ _ := some envelope.mac
  cipherCtxNew := true
  evpDecrypt _ _ ciphertext := if ciphertext = [] then none else some plaintext
  evpDecrypt_nil _ _ := rfl

theorem decrypt_envelope :
    (decryptProvisionEnvelope primitives ourPrivateKey publicKey envelope.body).outcome =
      .ok plaintext :=
  have hlaw := decryptProvisionEnvelope_authenticates primitives ourPrivateKey publicKey
  (hlaw.2.2.2.1 envelope keys rfl rfl rfl plaintext).mpr rfl

end Sample

end Signal2sip.Provisioning
