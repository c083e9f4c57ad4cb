import Signal2sip.Daemon.CallSignaling
import Signal2sip.Storage.SyncedContacts
import Signal2sip.Util.Base64
import Signal2sip.Util.RegistrationClient

/-!
# `StorageServiceSync.cpp`

`fetchStorageContacts` over the functions of libsignal, OpenSSL, the JSON library and the generated
protobuf parsers, with a record of the requests that it makes: one on the socket, for credentials, and
two to the storage service. What the storage service holds is sealed; the service has no key.

Of the messages the model has the fields that are read. The sizes that are cast to an `int` are far
below its range.
-/

namespace Signal2sip.StorageService

open Base64 (charByte base64Encode)
open Recorded (call failIf fail ofExcept)

/-! ## The messages of `StorageService.proto` -/

structure StorageManifest where
  version : UInt64
  value : Bytes
deriving DecidableEq, Repr

structure StorageItem where
  key : Bytes
  value : Bytes
deriving DecidableEq, Repr

/-- The enumeration is open: a parser keeps a number that it does not know. -/
inductive IdentifierType
  | unknown
  | contact
  | groupV1
  | groupV2
  | account
  | storyDistributionList
  | stickerPack
  | callLink
  | chatFolder
  | notificationProfile
  | unrecognized (value : Int32)
deriving DecidableEq, Repr

structure Identifier where
  raw : Bytes
  type : IdentifierType
deriving DecidableEq, Repr

structure ManifestRecord where
  identifiers : List Identifier
  recordIkm : Bytes
deriving DecidableEq, Repr

structure ContactRecord where
  aci : String := ""
  e164 : String := ""
  pni : String := ""
  profileKey : Bytes := []
  givenName : String := ""
  familyName : String := ""
  aciBinary : Bytes := []
  pniBinary : Bytes := []
deriving DecidableEq, Repr

/-- `none` is a record of another kind. -/
structure StorageRecord where
  contact : Option ContactRecord
deriving DecidableEq, Repr

/-! ## What is below -/

structure Libraries where
  deriveSvrKey : String → Except RuntimeError Bytes
  deriveStorageServiceKey : Bytes → Except RuntimeError Bytes
  /-- `none` is the null pointer. -/
  hmac (key data : Bytes) : Option Bytes
  hkdfDerive (ikm info salt : Bytes) : Except RuntimeError Bytes
  cipherCtxNew : Bool
  /-- The `EVP` functions of `aesGcmDecrypt` one after the other; `none` when one of them fails. -/
  evpDecrypt (key iv ciphertext tag : Bytes) : Option Bytes
  /-- The user name and the password of the JSON text. -/
  parseAuth : Bytes → Except RuntimeError (String × String)
  parseManifest : Bytes → Option StorageManifest
  parseManifestRecord : Bytes → Option ManifestRecord
  serializeReadOperation : List Bytes → Bytes
  parseItems : Bytes → Option (List StorageItem)
  parseRecord : Bytes → Option StorageRecord

/-- The socket of the account, and `curl`. -/
structure Network where
  request (verb path : String) : Except RuntimeError Response
  curl : Curl

inductive Request
  | socket (verb path : String)
  | http (request : CurlRequest)
deriving DecidableEq, Repr

/-! ## Keys and ciphertexts -/

def kStorageHost : String := "storage.signal.org"

variable (lib : Libraries)

def hmacSha256 (key data : Bytes) : Except RuntimeError Bytes :=
  match lib.hmac key data with
  | some out => .ok out
  | none => .error ⟨"HMAC-SHA256 failed"⟩

def kIvLen : Nat := 12
def kTagLen : Nat := 16

def aesGcmDecrypt (key ivCiphertextTag : Bytes) : Except RuntimeError Bytes :=
  if ivCiphertextTag.length < kIvLen + kTagLen then
    .error ⟨"storage record too short to be a valid AES-GCM blob"⟩
  else
    let iv := ivCiphertextTag.take kIvLen
    let ciphertextLen := ivCiphertextTag.length - kIvLen - kTagLen
    let ciphertext := (ivCiphertextTag.drop kIvLen).take ciphertextLen
    let tag := ivCiphertextTag.drop (kIvLen + ciphertextLen)
    if lib.cipherCtxNew = false then .error ⟨"EVP_CIPHER_CTX_new failed"⟩
    else
      match lib.evpDecrypt key iv ciphertext tag with
      | some plaintext => .ok plaintext
      | none =>
        .error ⟨"storage record AES-256-GCM decrypt/auth failed (wrong key, or tampered)"⟩

def deriveStorageServiceKey (accountEntropyPool : String) : Except RuntimeError Bytes := do
  let svrKey ← lib.deriveSvrKey (CxxString.cStr accountEntropyPool)
  lib.deriveStorageServiceKey svrKey

def deriveManifestKey (storageServiceKey : Bytes) (version : UInt64) : Except RuntimeError Bytes :=
  hmacSha256 lib storageServiceKey (("Manifest_" ++ toString version.toNat).toList.map charByte)

def deriveItemKey (storageServiceKey rawId : Bytes) : Except RuntimeError Bytes :=
  hmacSha256 lib storageServiceKey ("Item_".toList.map charByte ++ base64Encode rawId)

def kInfoPrefix : Bytes := "20240801_SIGNAL_STORAGE_SERVICE_ITEM_".toList.map charByte

def deriveItemKeyFromRecordIkm (recordIkm rawId : Bytes) : Except RuntimeError Bytes :=
  lib.hkdfDerive recordIkm (kInfoPrefix ++ rawId) []

/-- The key of an item: without key material in the manifest it is the legacy one. -/
def itemKey (storageServiceKey recordIkm rawId : Bytes) : Except RuntimeError Bytes :=
  if recordIkm = [] then deriveItemKey lib storageServiceKey rawId
  else deriveItemKeyFromRecordIkm lib recordIkm rawId

/-! ## Contacts -/

def hexDigit (n : Nat) : Char := "0123456789abcdef".toList.getD n '0'

/-- `%02x`. -/
def hexByte (b : UInt8) : List Char := [hexDigit (b.toNat / 16), hexDigit (b.toNat % 16)]

def uuidBytesToStringOrEmpty (bytes : Bytes) : String :=
  if bytes.length ≠ 16 then ""
  else
    let part (first last : Nat) := ((bytes.take last).drop first).flatMap hexByte
    String.ofList (part 0 4 ++ '-' :: part 4 6 ++ '-' :: part 6 8 ++ '-' :: part 8 10 ++ '-' :: part 10 16)

/-- The contact of a record. The binary ids come first. -/
def ContactRecord.toContact (c : ContactRecord) : StorageContact where
  aci := if c.aciBinary ≠ [] then uuidBytesToStringOrEmpty c.aciBinary else c.aci
  pni := if c.pniBinary ≠ [] then uuidBytesToStringOrEmpty c.pniBinary else c.pni
  e164 := c.e164
  profileKey := c.profileKey
  givenName := c.givenName
  familyName := c.familyName

/-- The contacts so far, and the items that could not be decrypted. -/
structure Fetched where
  contacts : List StorageContact := []
  skipped : Nat := 0
deriving DecidableEq, Repr

/-- One turn of the loop over the items. Only a failed decryption counts as skipped, and only it is
caught: a key that cannot be derived ends the fetch. -/
def readItem (storageServiceKey recordIkm : Bytes) (s : Fetched) (item : StorageItem) :
    Except RuntimeError Fetched := do
  let itemKey ← itemKey lib storageServiceKey recordIkm item.key
  match aesGcmDecrypt lib itemKey item.value with
  | .error _ => return { s with skipped := s.skipped + 1 }
  | .ok itemPlaintext =>
    match lib.parseRecord itemPlaintext with
    | none => return s
    | some record =>
      match record.contact with
      | none => return s
      | some c => return { s with contacts := s.contacts ++ [c.toContact] }

def readItems (storageServiceKey recordIkm : Bytes) : Fetched → List StorageItem →
    Except RuntimeError Fetched
  | s, [] => .ok s
  | s, item :: items => do
    let s ← readItem lib storageServiceKey recordIkm s item
    readItems storageServiceKey recordIkm s items

/-! ## The fetch -/

/-- The keys that the fetch reads: the ids of the contacts. -/
def ManifestRecord.readKeys (manifestRecord : ManifestRecord) : List Bytes :=
  (manifestRecord.identifiers.filter fun identifier => identifier.type = .contact).map (·.raw)

variable (net : Network)

/-- The credentials for the storage service. -/
def fetchAuth : Recorded RuntimeError Request (String × String) := do
  let authResp ← call (.socket "GET" "/v1/storage/auth") (net.request "GET" "/v1/storage/auth")
  failIf (authResp.status ≠ 200) ⟨"GET /v1/storage/auth -> status " ++ toString authResp.status⟩
  ofExcept (lib.parseAuth authResp.body)

/-- The manifest, opened. -/
def fetchManifest (storageServiceKey : Bytes) (username password : String) :
    Recorded RuntimeError Request ManifestRecord := do
  let manifestResp ← RegistrationClient.request net.curl .http kStorageHost "GET"
    "/v1/storage/manifest" [] username password
  failIf (manifestResp.status ≠ 200)
    ⟨"GET /v1/storage/manifest -> status " ++ toString manifestResp.status⟩
  let some manifest := lib.parseManifest manifestResp.body
    | fail ⟨"failed to parse StorageManifest protobuf"⟩
  let manifestKey ← ofExcept (deriveManifestKey lib storageServiceKey manifest.version)
  let manifestPlaintext ← ofExcept (aesGcmDecrypt lib manifestKey manifest.value)
  let some manifestRecord := lib.parseManifestRecord manifestPlaintext
    | fail ⟨"failed to parse ManifestRecord protobuf"⟩
  return manifestRecord

/-- The items of some keys. -/
def fetchItems (readKeys : List Bytes) (username password : String) :
    Recorded RuntimeError Request (List StorageItem) := do
  let itemsResp ← RegistrationClient.requestRaw net.curl .http kStorageHost "PUT" "/v1/storage/read"
    (lib.serializeReadOperation readKeys) "application/x-protobuf" username password
  failIf (itemsResp.status ≠ 200)
    ⟨"PUT /v1/storage/read -> status " ++ toString itemsResp.status⟩
  let some items := lib.parseItems itemsResp.body | fail ⟨"failed to parse StorageItems protobuf"⟩
  return items

/-- `fetchStorageContacts`, with the count of its log line. -/
def fetchStorageContacts (accountEntropyPool : String) : Recorded RuntimeError Request Fetched := do
  failIf (accountEntropyPool = "")
    ⟨"no account_entropy_pool stored for this account - cannot derive storage key"⟩
  let storageServiceKey ← ofExcept (deriveStorageServiceKey lib accountEntropyPool)
  let (username, password) ← fetchAuth lib net
  let manifestRecord ← fetchManifest lib net storageServiceKey username password
  if manifestRecord.readKeys = [] then return {}
  else
    let items ← fetchItems lib net manifestRecord.readKeys username password
    ofExcept (readItems lib storageServiceKey manifestRecord.recordIkm {} items)

end Signal2sip.StorageService
