import Signal2sip.Storage.Storage

/-!
# `ProtocolStores`

The libsignal callbacks of `ProtocolStores.cpp`. libsignal hands each callback owned handles; a
handle is modelled by what it serialises to, so an address is its name and device id and a key or a
record is its bytes. libsignal's own (de)serialisers are taken to succeed: a callback can fail only
through the storage layer or by what its own body throws.

`guardCallback` turns any exception into the result code -1, which is `none` here. A callback that
can write also returns the database it leaves.
-/

namespace Signal2sip

open Sqlite (Faults)

/-- libsignal's `ProtocolAddress`. -/
structure ProtocolAddress where
  name : String
  deviceId : UInt32
deriving DecidableEq, Repr

/-- `addressKeyAndDestroy`: `"<name>.<deviceId>"`. -/
def addressKey (address : ProtocolAddress) : String :=
  address.name ++ String.singleton '.' ++ toString address.deviceId.toNat

/-- The part of an address key before its last dot. -/
def serviceIdFromAddressKey (key : String) : String :=
  match CxxString.splitLast '.' key with
  | none => key
  | some (serviceId, _) => serviceId

/-- Decimal digits contain no dot. -/
theorem dot_notMem_toString (n : Nat) : '.' ∉ (toString n).toList := by
  intro h
  rw [Nat.toString_eq_ofList_toDigits, String.toList_ofList] at h
  have hdigit : Char.isDigit '.' = true :=
    Nat.isDigit_of_mem_toDigits (by decide : 0 < 10) (by decide) h
  exact absurd hdigit (by decide)

/-- A remote identity is keyed by exactly the address's name, dots in the name included. -/
@[simp] theorem serviceIdFromAddressKey_addressKey (address : ProtocolAddress) :
    serviceIdFromAddressKey (addressKey address) = address.name := by
  rw [serviceIdFromAddressKey, addressKey, CxxString.splitLast_append (dot_notMem_toString _)]

/-- Decimal numerals determine their number. -/
theorem toString_nat_injective {m n : Nat} (h : toString m = toString n) : m = n := by
  have hdigits : Nat.toDigits 10 m = Nat.toDigits 10 n := by
    rw [Nat.toString_eq_ofList_toDigits, Nat.toString_eq_ofList_toDigits] at h
    exact String.ofList_injective h
  calc m = Nat.ofDigitChars 10 (Nat.toDigits 10 m) 0 :=
        (Nat.ofDigitChars_toDigits (by decide) (by decide)).symm
    _ = Nat.ofDigitChars 10 (Nat.toDigits 10 n) 0 := by rw [hdigits]
    _ = n := Nat.ofDigitChars_toDigits (by decide) (by decide)

/-- An address key determines the name and the device id, dots in the name included. -/
theorem addressKey_injective {a b : ProtocolAddress} (h : addressKey a = addressKey b) : a = b := by
  have hsplit : some (a.name, toString a.deviceId.toNat) = some (b.name, toString b.deviceId.toNat) := by
    rw [← CxxString.splitLast_append (c := '.') (dot_notMem_toString a.deviceId.toNat),
      ← CxxString.splitLast_append (c := '.') (dot_notMem_toString b.deviceId.toNat)]
    exact congrArg (CxxString.splitLast '.') h
  obtain ⟨hname, hdevice⟩ := Prod.mk.inj (Option.some.inj hsplit)
  obtain ⟨name, deviceId⟩ := a
  obtain ⟨name', deviceId'⟩ := b
  cases hname
  exact congrArg (ProtocolAddress.mk name) (UInt32.toNat_inj.mp (toString_nat_injective hdevice))

/-- Result code 0 and the out parameter, or result code -1. -/
def guardCallback {α : Type} (body : Except RuntimeError α) : Option α := body.toOption

theorem guardCallback_eq_some {α : Type} {body : Except RuntimeError α} {a : α} :
    guardCallback body = some a ↔ body = .ok a := by
  cases body <;> simp [guardCallback, Except.toOption]

namespace ProtocolStores

variable (db : Db) (accountName identity : String)

/-! ## Sessions -/

def loadSession (address : ProtocolAddress) (f : Faults) : Option (Option Bytes) :=
  guardCallback (Storage.loadSession db accountName (addressKey address) f).value

def storeSession (address : ProtocolAddress) (record : Bytes) (f : Faults) : Option Db :=
  guardCallback (Storage.saveSession db accountName (addressKey address) record f).value

/-! ## Identities -/

def getLocalIdentityKeyPair (f : Faults) : Option IdentityKeypairRecord :=
  guardCallback <| (Storage.loadIdentityKeypair db accountName identity f).value.bind fun
    | none => .error ⟨"no identity keypair stored for " ++ identity⟩
    | some keypair => .ok keypair

/-- The registration id, cut to 32 bits. -/
def getLocalRegistrationId (f : Faults) : Option UInt32 :=
  guardCallback <| (Storage.loadAccount db accountName f).value.map fun account =>
    UInt32.ofInt (if identity = "pni" then account.pniRegistrationId else account.registrationId)

def getIdentityKey (address : ProtocolAddress) (f : Faults) : Option (Option Bytes) :=
  let key := serviceIdFromAddressKey (addressKey address)
  guardCallback (Storage.loadRemoteIdentity db accountName key f).value

/-- The outcome of `save_identity_key`: `SignalIdentityChangeReplacedExisting` or not. -/
def saveIdentityKey (address : ProtocolAddress) (publicKey : Bytes) (fLoad fSave : Faults) :
    Option (Bool × Db) :=
  let key := serviceIdFromAddressKey (addressKey address)
  guardCallback <| (Storage.loadRemoteIdentity db accountName key fLoad).value.bind fun existing =>
    (Storage.saveRemoteIdentity db accountName key publicKey fSave).value.map fun db' =>
      (existing.any (· ≠ publicKey), db')

/-- A save that reports success has put the key into the address's row, and nothing else. -/
theorem saveIdentityKey_ok {db db' : Db} {accountName : String} {address : ProtocolAddress}
    {publicKey : Bytes} {fLoad fSave : Faults} {replaced : Bool}
    (h : saveIdentityKey db accountName address publicKey fLoad fSave = some (replaced, db')) :
    db' = { db with
      remoteIdentity := db.remoteIdentity.insert (accountName, address.name) publicKey } := by
  rw [saveIdentityKey, guardCallback_eq_some, serviceIdFromAddressKey_addressKey] at h
  cases hload : (Storage.loadRemoteIdentity db accountName address.name fLoad).value with
  | error x => rw [hload] at h; cases h
  | ok existing =>
    cases hsave : (Storage.saveRemoteIdentity db accountName address.name publicKey fSave).value with
    | error x => rw [hload, Except.bind, hsave] at h; cases h
    | ok saved =>
      rw [hload, Except.bind, hsave] at h
      cases h
      exact Storage.saveRemoteIdentity_ok hsave

/-- Trust on first use: nothing stored, or the same key. -/
def isTrustedIdentity (address : ProtocolAddress) (publicKey : Bytes) (f : Faults) : Option Bool :=
  let key := serviceIdFromAddressKey (addressKey address)
  guardCallback <| (Storage.loadRemoteIdentity db accountName key f).value.map fun existing =>
    existing.all (· = publicKey)

/-! ## Prekeys -/

def loadSignedPreKey (id : UInt32) (f : Faults) : Option Bytes :=
  guardCallback <| (Storage.loadSignedPrekey db accountName identity f).value.bind fun stored =>
    match stored.filter (·.keyId = (id.toNat : Int)) with
    | none => .error ⟨"no signed prekey " ++ toString id.toNat ++ " on file"⟩
    | some prekey => .ok prekey.record

def storeSignedPreKey (id : UInt32) (record : Bytes) (f : Faults) : Option Db :=
  guardCallback (Storage.saveSignedPrekey db accountName identity ⟨id.toNat, record⟩ f).value

def loadKyberPreKey (id : UInt32) (f : Faults) : Option Bytes :=
  guardCallback <| (Storage.loadKyberPrekey db accountName identity f).value.bind fun stored =>
    match stored.filter (·.keyId = (id.toNat : Int)) with
    | none => .error ⟨"no kyber prekey " ++ toString id.toNat ++ " on file"⟩
    | some prekey => .ok prekey.record

def storeKyberPreKey (id : UInt32) (record : Bytes) (f : Faults) : Option Db :=
  guardCallback (Storage.saveKyberPrekey db accountName identity ⟨id.toNat, record⟩ f).value

end ProtocolStores

end Signal2sip
