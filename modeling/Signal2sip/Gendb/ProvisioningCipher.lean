import Signal2sip.Lib.Recorded
import Signal2sip.Util.Base64

/-!
# `ProvisioningCipher.cpp`

`decryptProvisionEnvelope` over the primitives of libsignal and OpenSSL, with a record of the calls
that reach them. The vectors that it copies out of the body are given by their two ends, as in the
source; ends that are not inside the body would leave the behaviour undefined, which is a failure of
its own here.
-/

namespace Signal2sip.Provisioning

open Base64 (charByte)

/-- The libraries' functions. The keys are libsignal's own objects. -/
structure Primitives where
  PrivateKey : Type
  PublicKey : Type
  privateKeyDeserialize : Bytes → Except RuntimeError PrivateKey
  publicKeyDeserialize : Bytes → Except RuntimeError PublicKey
  agree : PrivateKey → PublicKey → Except RuntimeError Bytes
  publicKeyDestroy : PublicKey → Except RuntimeError Unit
  privateKeyDestroy : PrivateKey → Except RuntimeError Unit
  /-- `signal_hkdf_derive` fills the buffer of 64 bytes that it is given. -/
  hkdfDerive (sharedSecret info salt : Bytes) : Except RuntimeError { out : Bytes // out.length = 64 }
  /-- `none` is the null pointer. -/
  hmac (key data : Bytes) : Option Bytes
  cipherCtxNew : Bool
  /-- The `EVP_Decrypt` functions one after the other; `none` when one of them fails. -/
  evpDecrypt (key iv ciphertext : Bytes) : Option Bytes
  /-- With padding there is a last block, so `EVP_DecryptFinal_ex` fails without one. -/
  evpDecrypt_nil (key iv : Bytes) : evpDecrypt key iv [] = none

inductive Failure
  | thrown (e : RuntimeError)
  /-- The C++ behaviour is undefined. -/
  | undefined
deriving DecidableEq, Repr

inductive PrimitiveCall
  | privateKeyDeserialize (data : Bytes)
  | publicKeyDeserialize (data : Bytes)
  | agree
  | publicKeyDestroy
  | privateKeyDestroy
  | hkdfDerive (sharedSecret info salt : Bytes)
  | hmac (key data : Bytes)
  | cipherCtxNew
  | evpDecrypt (key iv ciphertext : Bytes)
deriving DecidableEq, Repr

abbrev Cipher := Recorded Failure PrimitiveCall

open Recorded (call failIf fail)

/-- A call that may throw. -/
def callThrowing {α : Type} (c : PrimitiveCall) (x : Except RuntimeError α) : Cipher α :=
  call c (x.mapError .thrown)

def kIvLength : Nat := 16
def kMacLength : Nat := 32
def kInfo : Bytes := "TextSecure Provisioning Message".toList.map charByte

/-- `Bytes(begin + first, begin + last)`. -/
def slice (b : Bytes) (first last : Int) : Cipher Bytes :=
  if 0 ≤ first ∧ first ≤ last ∧ last ≤ b.length then
    pure ((b.take last.toNat).drop first.toNat)
  else fail .undefined

/-- `b[i]`. -/
def byteAt (b : Bytes) (i : Nat) : Cipher UInt8 :=
  match b[i]? with
  | some byte => pure byte
  | none => fail .undefined

def hmacSha256 (p : Primitives) (key data : Bytes) : Cipher Bytes := do
  match ← call (.hmac key data) (.ok (p.hmac key data)) with
  | some out => return out
  | none => fail (.thrown ⟨"HMAC-SHA256 failed"⟩)

def aes256CbcDecrypt (p : Primitives) (key iv ciphertext : Bytes) : Cipher Bytes := do
  let ctx ← call .cipherCtxNew (.ok p.cipherCtxNew)
  failIf (ctx = false) (.thrown ⟨"EVP_CIPHER_CTX_new failed"⟩)
  match ← call (.evpDecrypt key iv ciphertext) (.ok (p.evpDecrypt key iv ciphertext)) with
  | some plaintext => return plaintext
  | none =>
    fail (.thrown ⟨"Provisioning cipher: AES-256-CBC decrypt failed (bad key/iv/padding)"⟩)

structure DerivedKeys where
  cipherKey : Bytes
  macKey : Bytes

/-- The key agreement and the derivation of the two keys. -/
def deriveKeys (p : Primitives) (ourPrivateKey envelopePublicKey : Bytes) : Cipher DerivedKeys := do
  let ourKey ← callThrowing (.privateKeyDeserialize ourPrivateKey)
    (p.privateKeyDeserialize ourPrivateKey)
  let theirKey ← callThrowing (.publicKeyDeserialize envelopePublicKey)
    (p.publicKeyDeserialize envelopePublicKey)
  let sharedSecret ← callThrowing .agree (p.agree ourKey theirKey)
  callThrowing .publicKeyDestroy (p.publicKeyDestroy theirKey)
  callThrowing .privateKeyDestroy (p.privateKeyDestroy ourKey)
  let salt := []
  let derived ← callThrowing (.hkdfDerive sharedSecret kInfo salt)
    (p.hkdfDerive sharedSecret kInfo salt)
  let cipherKey ← slice derived.val 0 32
  let macKey ← slice derived.val 32 derived.val.length
  return { cipherKey, macKey }

/-- `CRYPTO_memcmp(a, b, length) != 0`. -/
def memoryDiffers (a b : Bytes) (length : Nat) : Bool := a.take length ≠ b.take length

def decryptProvisionEnvelope (p : Primitives) (ourPrivateKey envelopePublicKey envelopeBody : Bytes) :
    Cipher Bytes := do
  failIf (envelopeBody.length ≤ 1 + kIvLength + kMacLength)
    (.thrown ⟨"Provisioning envelope body too short"⟩)
  let version ← byteAt envelopeBody 0
  failIf (version ≠ 1) (.thrown
    ⟨"Provisioning cipher version mismatch: expected 1, got " ++ toString version.toNat⟩)
  let bodyEnd : Int := envelopeBody.length
  let iv ← slice envelopeBody 1 (1 + kIvLength)
  let theirMac ← slice envelopeBody (bodyEnd - kMacLength) bodyEnd
  let macInput ← slice envelopeBody 0 (bodyEnd - kMacLength)
  let ciphertext ← slice envelopeBody (1 + kIvLength) (bodyEnd - kMacLength)
  let keys ← deriveKeys p ourPrivateKey envelopePublicKey
  let ourMac ← hmacSha256 p keys.macKey macInput
  failIf (ourMac.length ≠ theirMac.length ∨ memoryDiffers ourMac theirMac ourMac.length)
    (.thrown ⟨"Provisioning cipher MAC mismatch"⟩)
  aes256CbcDecrypt p keys.cipherKey iv ciphertext

end Signal2sip.Provisioning
