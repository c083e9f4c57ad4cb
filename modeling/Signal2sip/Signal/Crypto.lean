import Signal2sip.Signal.ProtocolStores

/-!
# Decryption

`decryptCiphertext` and `decryptSealedSender` of `Crypto.cpp`, over libsignal. What libsignal does is
a parameter (`LibSignal`): its functions are arbitrary, and while one of them decrypts it may write
through the store callbacks, in any order and with any failures (`StoreWrite`). That is all it can do
to the database, so whatever libsignal is, decryption leaves the account's row alone.
-/

namespace Signal2sip

open Sqlite (Faults)

/-- A service id and a device id. -/
structure Address where
  serviceId : String
  deviceId : UInt32
deriving DecidableEq, Repr

/-- A call of one of the store callbacks that write. -/
inductive StoreWrite
  | storeSession (address : ProtocolAddress) (record : Bytes) (f : Faults)
  | saveIdentityKey (address : ProtocolAddress) (publicKey : Bytes) (fLoad fSave : Faults)
  | storeSignedPreKey (id : UInt32) (record : Bytes) (f : Faults)
  | storeKyberPreKey (id : UInt32) (record : Bytes) (f : Faults)

/-- What a callback leaves in the database; a callback that fails leaves it unchanged. -/
def StoreWrite.apply (accountName identity : String) (db : Db) : StoreWrite → Db
  | .storeSession address record f =>
    (ProtocolStores.storeSession db accountName address record f).getD db
  | .saveIdentityKey address publicKey fLoad fSave =>
    ((ProtocolStores.saveIdentityKey db accountName address publicKey fLoad fSave).map
      Prod.snd).getD db
  | .storeSignedPreKey id record f =>
    (ProtocolStores.storeSignedPreKey db accountName identity id record f).getD db
  | .storeKyberPreKey id record f =>
    (ProtocolStores.storeKyberPreKey db accountName identity id record f).getD db

/-- An unsealed sender message: the parts of its certificate and its content that are read. -/
structure UnidentifiedSenderMessageContent where
  senderUuid : String
  senderDeviceId : UInt32
  certificate : Bytes
  msgType : UInt8
  contents : Bytes
deriving DecidableEq, Repr

/-- libsignal. A decryption returns the callbacks it made next to its result. -/
structure LibSignal where
  sealedSessionCipherDecryptToUsmc :
    Db → Bytes → Except RuntimeError UnidentifiedSenderMessageContent
  senderCertificateValidate : Bytes → UInt64 → Except RuntimeError Bool
  decryptPreKeyMessage : Db → Address → Address → Bytes → List StoreWrite × Except RuntimeError Bytes
  decryptMessage : Db → Address → Address → Bytes → List StoreWrite × Except RuntimeError Bytes
  serviceIdFromBinary : Bytes → Except RuntimeError String

/-- The types of a `CiphertextMessage` that are told apart. -/
def ciphertextMessageTypeWhisper : UInt8 := 2

def ciphertextMessageTypePreKey : UInt8 := 3

/-- Cut trailing zeros and the 0x80 before them; a message that does not end so is unpadded. -/
def stripPaddingMessageBody (messageWithPadding : Bytes) : Bytes :=
  match messageWithPadding.reverse.dropWhile (· = 0) with
  | 0x80 :: body => body.reverse
  | _ => messageWithPadding

/-- `resolveServiceId`: an empty field resolves to an empty service id. -/
def resolveServiceId (lib : LibSignal) (binary : Bytes) : Except RuntimeError String :=
  if binary = [] then .ok "" else lib.serviceIdFromBinary binary

section Decrypt

variable (lib : LibSignal) (db : Db) (accountName : String)

/-- The stores of an account's ACI are the ones that decrypt. -/
def decryptCiphertext (localAddress remoteAddress : Address) (messageType : UInt8)
    (ciphertext : Bytes) : Db × Except RuntimeError Bytes :=
  let (writes, result) :=
    if messageType = ciphertextMessageTypePreKey then
      lib.decryptPreKeyMessage db remoteAddress localAddress ciphertext
    else lib.decryptMessage db remoteAddress localAddress ciphertext
  (writes.foldl (StoreWrite.apply accountName "aci") db, result.map stripPaddingMessageBody)

structure SealedSenderResult where
  senderServiceId : String
  senderDeviceId : UInt32
  plaintext : Bytes
deriving DecidableEq, Repr

/-- The sender is the one the certificate names, and only after its trust root has validated. -/
def decryptSealedSender (localAddress : Address) (sealedSenderCiphertext : Bytes)
    (serverTimestamp : UInt64) : Db × Except RuntimeError SealedSenderResult :=
  match lib.sealedSessionCipherDecryptToUsmc db sealedSenderCiphertext with
  | .error e => (db, .error e)
  | .ok usmc =>
    match lib.senderCertificateValidate usmc.certificate serverTimestamp with
    | .error e => (db, .error e)
    | .ok false =>
      (db, .error ⟨"sealed sender: sender certificate failed trust root validation"⟩)
    | .ok true =>
      let (db', plaintext) := decryptCiphertext lib db accountName localAddress
        ⟨usmc.senderUuid, usmc.senderDeviceId⟩ usmc.msgType usmc.contents
      (db', plaintext.map fun plaintext => ⟨usmc.senderUuid, usmc.senderDeviceId, plaintext⟩)

end Decrypt

/-! ## Decryption and the account's row -/

theorem StoreWrite.apply_account (accountName identity : String) (db : Db) (write : StoreWrite) :
    (write.apply accountName identity db).account = db.account := by
  cases write with
  | storeSession address record f =>
    simp only [StoreWrite.apply]
    cases h : ProtocolStores.storeSession db accountName address record f with
    | none => rfl
    | some db' =>
      rw [ProtocolStores.storeSession, guardCallback_eq_some] at h
      obtain ⟨t, -, rfl⟩ := execute_map_ok h
      rfl
  | saveIdentityKey address publicKey fLoad fSave =>
    simp only [StoreWrite.apply]
    cases h : ProtocolStores.saveIdentityKey db accountName address publicKey fLoad fSave with
    | none => rfl
    | some result =>
      obtain ⟨replaced, db'⟩ := result
      rw [ProtocolStores.saveIdentityKey_ok h]
      rfl
  | storeSignedPreKey id record f =>
    simp only [StoreWrite.apply]
    cases h : ProtocolStores.storeSignedPreKey db accountName identity id record f with
    | none => rfl
    | some db' =>
      rw [ProtocolStores.storeSignedPreKey, guardCallback_eq_some] at h
      rw [Storage.saveSignedPrekey_ok h]
      rfl
  | storeKyberPreKey id record f =>
    simp only [StoreWrite.apply]
    cases h : ProtocolStores.storeKyberPreKey db accountName identity id record f with
    | none => rfl
    | some db' =>
      rw [ProtocolStores.storeKyberPreKey, guardCallback_eq_some] at h
      rw [Storage.saveKyberPrekey_ok h]
      rfl

theorem decryptCiphertext_account (lib : LibSignal) (db : Db) (accountName : String)
    (localAddress remoteAddress : Address) (messageType : UInt8) (ciphertext : Bytes) :
    (decryptCiphertext lib db accountName localAddress remoteAddress messageType
      ciphertext).1.account = db.account := by
  have keep : ∀ (writes : List StoreWrite) (db₀ : Db),
      (writes.foldl (StoreWrite.apply accountName "aci") db₀).account = db₀.account := by
    intro writes
    induction writes with
    | nil => exact fun _ => rfl
    | cons write writes ih =>
      intro db₀
      rw [List.foldl_cons, ih, StoreWrite.apply_account]
  exact keep _ db

theorem decryptSealedSender_account (lib : LibSignal) (db : Db) (accountName : String)
    (localAddress : Address) (ciphertext : Bytes) (serverTimestamp : UInt64) :
    (decryptSealedSender lib db accountName localAddress ciphertext serverTimestamp).1.account =
      db.account := by
  unfold decryptSealedSender
  split
  · rfl
  · split
    · rfl
    · rfl
    · exact decryptCiphertext_account lib db accountName localAddress _ _ _

end Signal2sip
