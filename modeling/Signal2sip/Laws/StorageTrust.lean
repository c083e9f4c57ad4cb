import Signal2sip.Daemon.StorageService
import Signal2sip.Daemon.StorageSync
import Signal2sip.Lib.Endian
import Signal2sip.Lib.Run
import Signal2sip.Storage.OwnRows

/-!
# The storage service is not trusted

The service keeps what the account's devices have sealed, and has no key. Whatever it answers, in any
number of syncs, and whatever fails in the file:

- `syncs_keep_genuine`: the contacts that the account has cached are ones that a device of the account
  has stored. A forged manifest does not help the service either: the key material of the items comes
  out of a manifest that a device has sealed;
- and it is asked for credentials, for the manifest, and for the contacts of a manifest that a device has
  sealed, in this order and for nothing else.

A service can hold items back, repeat them, or bring up old ones: the code does not compare what it got
with what it asked for.
-/

namespace Signal2sip.StorageService

open Base64 (charByte)
open Recorded (bind_outcome_ok_iff bind_calls)

/-! ## What the devices have stored -/

/-- What the devices that have the account's keys have ever stored: manifests with their versions, and
records under the key material of a manifest and an id. -/
structure Vault where
  manifests : Set (UInt64 × ManifestRecord)
  records : Set (Bytes × Bytes × StorageRecord)

/-- The contact is one of the records. -/
def Vault.Has (vault : Vault) (contact : StorageContact) : Prop :=
  ∃ version manifest rawId record c, (version, manifest) ∈ vault.manifests ∧
    (manifest.recordIkm, rawId, record) ∈ vault.records ∧ record.contact = some c ∧
      c.toContact = contact

/-- What opens under one of the account's keys is what a device has sealed with it. -/
structure Sealed (lib : Libraries) (storageServiceKey : Bytes) (vault : Vault) : Prop where
  manifest (version : UInt64) (key : Bytes)
    (hkey : deriveManifestKey lib storageServiceKey version = .ok key)
    (iv ciphertext tag plaintext : Bytes)
    (hopens : lib.evpDecrypt key iv ciphertext tag = some plaintext) :
    ∃ manifest, (version, manifest) ∈ vault.manifests ∧
      lib.parseManifestRecord plaintext = some manifest
  record (version : UInt64) (manifest : ManifestRecord)
    (hmanifest : (version, manifest) ∈ vault.manifests) (rawId key : Bytes)
    (hkey : itemKey lib storageServiceKey manifest.recordIkm rawId = .ok key)
    (iv ciphertext tag plaintext : Bytes)
    (hopens : lib.evpDecrypt key iv ciphertext tag = some plaintext) :
    ∃ record, (manifest.recordIkm, rawId, record) ∈ vault.records ∧
      lib.parseRecord plaintext = some record

section

variable {lib : Libraries} {net : Network} {vault : Vault} {storageServiceKey : Bytes}

/-! ## The fetch -/

/-- What decrypts has been opened by the library. -/
theorem aesGcmDecrypt_ok {key ivCiphertextTag plaintext : Bytes}
    (h : aesGcmDecrypt lib key ivCiphertextTag = .ok plaintext) :
    ∃ iv ciphertext tag, lib.evpDecrypt key iv ciphertext tag = some plaintext := by
  unfold aesGcmDecrypt at h
  split at h
  · cases h
  · dsimp only at h
    split at h
    · cases h
    · split at h
      · next hopens =>
        cases h
        exact ⟨_, _, _, hopens⟩
      · cases h

/-- A turn of the loop adds no contact, or that of a record that opened under the item's own key. -/
theorem readItem_ok {recordIkm : Bytes} {s s' : Fetched} {item : StorageItem}
    (h : readItem lib storageServiceKey recordIkm s item = .ok s') :
    s'.contacts = s.contacts ∨
      ∃ key plaintext record c, itemKey lib storageServiceKey recordIkm item.key = .ok key ∧
        aesGcmDecrypt lib key item.value = .ok plaintext ∧ lib.parseRecord plaintext = some record ∧
        record.contact = some c ∧ s'.contacts = s.contacts ++ [c.toContact] := by
  unfold readItem at h
  cases hkey : itemKey lib storageServiceKey recordIkm item.key with
  | error e => simp [hkey, bind, Except.bind] at h
  | ok key =>
    simp only [hkey, bind, Except.bind] at h
    cases hplain : aesGcmDecrypt lib key item.value with
    | error e =>
      rw [hplain] at h
      cases h
      exact Or.inl rfl
    | ok plaintext =>
      rw [hplain] at h
      dsimp only at h
      cases hrecord : lib.parseRecord plaintext with
      | none =>
        rw [hrecord] at h
        cases h
        exact Or.inl rfl
      | some record =>
        rw [hrecord] at h
        dsimp only at h
        cases hcontact : record.contact with
        | none =>
          rw [hcontact] at h
          cases h
          exact Or.inl rfl
        | some c =>
          rw [hcontact] at h
          cases h
          exact Or.inr ⟨key, plaintext, record, c, rfl, hplain, hrecord, hcontact, rfl⟩

/-- The contacts of the items of a manifest that a device has sealed are the devices'. -/
theorem readItems_genuine (hsealed : Sealed lib storageServiceKey vault) {version : UInt64}
    {manifest : ManifestRecord} (hmanifest : (version, manifest) ∈ vault.manifests)
    {items : List StorageItem} {s s' : Fetched}
    (h : readItems lib storageServiceKey manifest.recordIkm s items = .ok s')
    (hs : ∀ contact ∈ s.contacts, vault.Has contact) : ∀ contact ∈ s'.contacts, vault.Has contact := by
  induction items generalizing s with
  | nil =>
    cases h
    exact hs
  | cons item items ih =>
    cases hitem : readItem lib storageServiceKey manifest.recordIkm s item with
    | error e => simp [readItems, hitem, bind, Except.bind] at h
    | ok turn =>
      simp only [readItems, hitem, bind, Except.bind] at h
      apply ih h
      rcases readItem_ok hitem with hsame | ⟨key, plaintext, record, c, hkey, hplain, hparse, hc, happ⟩
      · rwa [hsame]
      · obtain ⟨iv, ciphertext, tag, hopens⟩ := aesGcmDecrypt_ok hplain
        obtain ⟨record', hstored, hparse'⟩ :=
          hsealed.record version manifest hmanifest item.key key hkey iv ciphertext tag plaintext hopens
        rw [hparse] at hparse'
        cases hparse'
        rw [happ]
        intro contact hcontact
        rcases List.mem_append.mp hcontact with hbefore | hnew
        · exact hs contact hbefore
        · exact ⟨version, manifest, item.key, record, c, hmanifest, hstored, hc,
            (List.mem_singleton.mp hnew).symm⟩

/-! ## The requests -/

def authRequest : Request := .socket "GET" "/v1/storage/auth"

def manifestRequest (username password : String) : Request :=
  .http (curlRequest kStorageHost "GET" "/v1/storage/manifest" [] "application/json" username password)

def readRequest (lib : Libraries) (readKeys : List Bytes) (username password : String) : Request :=
  .http (curlRequest kStorageHost "PUT" "/v1/storage/read" (lib.serializeReadOperation readKeys)
    "application/x-protobuf" username password)

/-- A request is made when `curl` starts, and before the function returns. -/
theorem doRequest_calls (curl : Curl) {serverHost method path : String} {body : Bytes}
    {contentType username password : String} :
    let p := doRequest curl Request.http serverHost method path body contentType username password
    let request := curlRequest serverHost method path body contentType username password
    (p.calls = [] ∧ ∀ response, p.outcome ≠ .ok response) ∨ p.calls = [.http request] := by
  dsimp only
  unfold doRequest
  by_cases hinit : curl.easyInit = false
  · rw [Recorded.failIf_pos hinit]
    exact Or.inl ⟨rfl, fun response h => by cases h⟩
  · rw [Recorded.failIf_neg hinit]
    refine Or.inr ?_
    simp only [Recorded.pure_bind]
    rw [Recorded.bind_of_ok (a := curl.easyPerform _) rfl]
    cases curl.easyPerform
      (curlRequest serverHost method path body contentType username password) <;> rfl

theorem fetchAuth_calls : (fetchAuth lib net).calls = [authRequest] := by
  unfold fetchAuth
  cases hauth : net.request "GET" "/v1/storage/auth" with
  | error e => rfl
  | ok authResp =>
    rw [Recorded.bind_of_ok (a := authResp) rfl]
    by_cases hstatus : authResp.status ≠ 200
    · rw [Recorded.failIf_pos hstatus]
      rfl
    · rw [Recorded.failIf_neg hstatus]
      rfl

/-- Opening the manifest is silent. -/
theorem fetchManifest_calls {username password : String} :
    (fetchManifest lib net storageServiceKey username password).calls =
      (doRequest net.curl .http kStorageHost "GET" "/v1/storage/manifest" [] "application/json" username
        password).calls := by
  apply Recorded.bind_calls_of_silent
  intro manifestResp
  rw [Recorded.bind_calls_of_silent, Recorded.failIf_calls]
  intro _
  cases lib.parseManifest manifestResp.body with
  | none => rfl
  | some manifest =>
    apply Recorded.bind_calls_of_silent
    intro key
    apply Recorded.bind_calls_of_silent
    intro plaintext
    cases lib.parseManifestRecord plaintext <;> rfl

theorem fetchItems_calls {readKeys : List Bytes} {username password : String} :
    (fetchItems lib net readKeys username password).calls =
      (doRequest net.curl .http kStorageHost "PUT" "/v1/storage/read"
        (lib.serializeReadOperation readKeys) "application/x-protobuf" username password).calls := by
  apply Recorded.bind_calls_of_silent
  intro itemsResp
  rw [Recorded.bind_calls_of_silent, Recorded.failIf_calls]
  intro _
  cases lib.parseItems itemsResp.body <;> rfl

/-- The manifest that the fetch goes on with is one that a device has sealed. -/
theorem fetchManifest_sealed (hsealed : Sealed lib storageServiceKey vault) {username password : String}
    {manifestRecord : ManifestRecord}
    (h : (fetchManifest lib net storageServiceKey username password).outcome = .ok manifestRecord) :
    ∃ version, (version, manifestRecord) ∈ vault.manifests := by
  obtain ⟨manifestResp, -, h⟩ := bind_outcome_ok_iff.mp h
  obtain ⟨-, -, h⟩ := bind_outcome_ok_iff.mp h
  cases hmanifest : lib.parseManifest manifestResp.body with
  | none =>
    rw [hmanifest] at h
    cases h
  | some manifest =>
    rw [hmanifest] at h
    obtain ⟨key, hkey, h⟩ := bind_outcome_ok_iff.mp h
    obtain ⟨plaintext, hplain, h⟩ := bind_outcome_ok_iff.mp h
    obtain ⟨iv, ciphertext, tag, hopens⟩ := aesGcmDecrypt_ok hplain
    obtain ⟨record, hstored, hparse⟩ :=
      hsealed.manifest manifest.version key hkey iv ciphertext tag plaintext hopens
    rw [hparse] at h
    cases h
    exact ⟨manifest.version, hstored⟩

/-- What a fetch asks for: less and less of it the sooner it fails. The credentials are those that the
socket answered, and the keys are the contacts' in a manifest that a device has sealed. -/
inductive Asked (lib : Libraries) (net : Network) (vault : Vault) : List Request → Prop
  | nothing : Asked lib net vault []
  | auth : Asked lib net vault [authRequest]
  | manifest (username password : String)
      (hauth : (fetchAuth lib net).outcome = .ok (username, password)) :
    Asked lib net vault [authRequest, manifestRequest username password]
  | read (username password : String)
      (hauth : (fetchAuth lib net).outcome = .ok (username, password)) (version : UInt64)
      (manifest : ManifestRecord) (hmanifest : (version, manifest) ∈ vault.manifests)
      (hcontacts : manifest.readKeys ≠ []) :
    Asked lib net vault [authRequest, manifestRequest username password,
      readRequest lib manifest.readKeys username password]

variable {pool : String}

theorem fetchStorageContacts_asked
    (hsealed : ∀ key, deriveStorageServiceKey lib pool = .ok key → Sealed lib key vault) :
    Asked lib net vault (fetchStorageContacts lib net pool).calls := by
  unfold fetchStorageContacts
  rcases bind_calls (Recorded.failIf (pool = "") _) _ with h | ⟨_, -, h⟩ <;> rw [h]
  · rw [Recorded.failIf_calls]
    exact .nothing
  rw [Recorded.failIf_calls, List.nil_append]
  rcases bind_calls (Recorded.ofExcept (deriveStorageServiceKey lib pool)) _ with h | ⟨key, hkey, h⟩ <;>
    rw [h]
  · exact .nothing
  change Asked lib net vault ([] ++ _)
  rw [List.nil_append]
  rcases bind_calls (fetchAuth lib net) _ with h | ⟨⟨username, password⟩, hauth, h⟩ <;>
    rw [h, fetchAuth_calls]
  · exact .auth
  dsimp only
  rcases bind_calls (fetchManifest lib net key username password) _ with h | ⟨manifest, hok, h⟩ <;>
    rw [h, fetchManifest_calls]
  · rcases doRequest_calls net.curl with ⟨hnone, -⟩ | hone
    · rw [hnone]
      exact .auth
    · rw [hone]
      exact .manifest username password hauth
  obtain ⟨version, hmanifest⟩ := fetchManifest_sealed (hsealed key hkey) hok
  rcases doRequest_calls net.curl with ⟨-, hfails⟩ | hone
  · obtain ⟨manifestResp, hresp, -⟩ := bind_outcome_ok_iff.mp hok
    exact absurd hresp (hfails manifestResp)
  rw [hone]
  split
  · exact .manifest username password hauth
  · next hcontacts =>
    rw [Recorded.bind_calls_of_silent fun items => rfl, fetchItems_calls]
    rcases doRequest_calls net.curl with ⟨hnone, -⟩ | hone
    · rw [hnone]
      exact .manifest username password hauth
    · rw [hone]
      exact .read username password hauth version manifest hmanifest hcontacts

/-- The contacts of a fetch are the devices'. -/
theorem fetchStorageContacts_genuine
    (hsealed : ∀ key, deriveStorageServiceKey lib pool = .ok key → Sealed lib key vault)
    {fetched : Fetched} (h : (fetchStorageContacts lib net pool).outcome = .ok fetched) :
    ∀ contact ∈ fetched.contacts, vault.Has contact := by
  obtain ⟨-, -, h⟩ := bind_outcome_ok_iff.mp h
  obtain ⟨key, hkey, h⟩ := bind_outcome_ok_iff.mp h
  obtain ⟨⟨username, password⟩, -, h⟩ := bind_outcome_ok_iff.mp h
  obtain ⟨manifest, hok, h⟩ := bind_outcome_ok_iff.mp h
  obtain ⟨version, hmanifest⟩ := fetchManifest_sealed (hsealed key hkey) hok
  split at h
  · cases h
    intro contact hcontact
    cases hcontact
  · obtain ⟨items, -, h⟩ := bind_outcome_ok_iff.mp h
    refine readItems_genuine (hsealed key hkey) hmanifest h ?_
    intro contact hcontact
    cases hcontact

/-! ## The syncs of an account -/

/-- What a sync meets: the network, the clock, and the calls of `saveSyncedContact`. -/
structure Sync where
  net : Network
  steadyNowMs : Int
  calls : Nat → SaveCall

/-- What a sync of the account leaves in the file. -/
def Sync.run (lib : Libraries) (accountName pool : String) (db : Db) (sync : Sync) : Db :=
  (syncStorageContacts db accountName (some pool) sync.steadyNowMs
    ((fetchStorageContacts lib sync.net pool).outcome.map (·.contacts)) sync.calls).db

/-- Every contact that the account has cached is one that a device of the account has stored. -/
def Genuine (vault : Vault) (accountName : String) (db : Db) : Prop :=
  ∀ contact, (accountName, contact) ∈ db.contacts → vault.Has contact

variable {db : Db} {accountName : String}

/-- A written contact is the only one that was not there before. -/
theorem mem_contacts_of_written {db' : Db} {record : SyncedContactRecord}
    (h : ContactWritten accountName record db db') {row : String × StorageContact}
    (hrow : row ∈ db'.contacts) : row ∈ db.contacts ∨ row.2 = record.listed := by
  obtain ⟨r, hr, rfl⟩ := List.mem_map.mp (Multiset.mem_coe.mp hrow)
  cases h with
  | updated old hold haccepted hdb =>
    subst hdb
    obtain ⟨before, hbefore, rfl⟩ := List.mem_map.mp hr
    by_cases hid : before.id = old.id
    · rw [if_pos hid]
      exact Or.inr rfl
    · rw [if_neg hid]
      exact Or.inl (Multiset.mem_coe.mpr (List.mem_map_of_mem hbefore))
  | added haccepted hdb =>
    subst hdb
    rcases List.mem_append.mp hr with hbefore | hnew
    · exact Or.inl (Multiset.mem_coe.mpr (List.mem_map_of_mem hbefore))
    · rw [List.mem_singleton.mp hnew]
      exact Or.inr rfl

theorem cacheContact_genuine {call : SaveCall} {s : Db × Nat} {contact : StorageContact}
    (hcontact : vault.Has contact) (hs : Genuine vault accountName s.1) :
    Genuine vault accountName (cacheContact accountName call s contact).1 := by
  unfold cacheContact
  split
  · exact hs
  · split
    · next db' hsave =>
      intro c hc
      rcases mem_contacts_of_written (saveSyncedContact_ok hsave) hc with hbefore | hnew
      · exact hs c hbefore
      · have hlisted : c = contact := hnew
        rwa [hlisted]
    · exact hs

theorem cacheContacts_genuine {calls : Nat → SaveCall} {contacts : List StorageContact}
    (hcontacts : ∀ contact ∈ contacts, vault.Has contact) (i : Nat) {s : Db × Nat}
    (hs : Genuine vault accountName s.1) :
    Genuine vault accountName (cacheContacts accountName calls i s contacts).1 := by
  induction contacts generalizing i s with
  | nil => exact hs
  | cons contact rest ih =>
    have hturn : Genuine vault accountName (cacheContact accountName (calls i) s contact).1 :=
      cacheContact_genuine (hcontacts contact List.mem_cons_self) hs
    exact ih (fun c hc => hcontacts c (List.mem_cons_of_mem contact hc)) (i + 1) hturn

/-- A sync with any service keeps the cached contacts genuine. -/
theorem sync_genuine (hsealed : ∀ key, deriveStorageServiceKey lib pool = .ok key → Sealed lib key vault)
    (sync : Sync) (h : Genuine vault accountName db) :
    Genuine vault accountName (sync.run lib accountName pool db) := by
  unfold Sync.run syncStorageContacts
  split
  · exact h
  · cases hfetch : (fetchStorageContacts lib sync.net pool).outcome with
    | error e => exact h
    | ok fetched => exact cacheContacts_genuine (fetchStorageContacts_genuine hsealed hfetch) 0 h

/-- What the account's keys protect it from, whatever the service answers. -/
structure Protected (lib : Libraries) (vault : Vault) (accountName pool : String) (db : Db) : Prop where
  /-- After any syncs, the contacts are genuine. -/
  genuine (syncs : List Sync) :
    Genuine vault accountName (Runs.final (Sync.run lib accountName pool) db syncs)
  /-- The service learns no more than what a fetch asks for. -/
  asked (net : Network) : Asked lib net vault (fetchStorageContacts lib net pool).calls

theorem syncs_keep_genuine (lib : Libraries) (vault : Vault) (accountName pool : String) (db : Db)
    (hsealed : ∀ key, deriveStorageServiceKey lib pool = .ok key → Sealed lib key vault)
    (hdb : Genuine vault accountName db) : Protected lib vault accountName pool db where
  genuine syncs := by
    induction syncs generalizing db with
    | nil => exact hdb
    | cons sync syncs ih => exact ih (sync.run lib accountName pool db) (sync_genuine hsealed sync hdb)
  asked net := fetchStorageContacts_asked hsealed

end

/-! ## One account, with the values that the libraries compute for it -/

namespace Sample

open Endian (bytes)

def pool : String := "abcdefghijklmnopqrstuvwxyz0123456789abcdefghijklmnopqrstuvwxyz01"

def svrKey : Bytes :=
  bytes 32 0xcb6c24194d64032ec9e5f0f6c44adda278efe66d774e1d34ae83334a61f5140b

def storageServiceKey : Bytes :=
  bytes 32 0x239b8ec5fd486edbe2068872dbf6df56c72c4e4e0b27bd7d53d95cceab30dbc8

def manifestKey : Bytes :=
  bytes 32 0xd1d79fe0a3ddf5911cff8524daa9a4f8f3419b5a579fb33c0ca73d5405645356

def recordIkm : Bytes :=
  bytes 32 0x000102030405060708090a0b0c0d0e0f101112131415161718191a1b1c1d1e1f

def contactId : Bytes :=
  bytes 16 0x000102030405060708090a0b0c0d0e0f

def accountId : Bytes :=
  bytes 16 0x101112131415161718191a1b1c1d1e1f

/-- The key of the contact, from its id. -/
def contactKey : Bytes :=
  bytes 32 0x360383d271b1af21d10ffcc21b9090864ad638b637b16acd39e8133ffd472d90

def manifest : ManifestRecord where
  identifiers := [⟨contactId, .contact⟩, ⟨accountId, .account⟩]
  recordIkm

def manifestPlaintext : Bytes :=
  [0x08, 7, 0x12, 20, 0x0a, 16] ++ contactId ++ [0x10, 1, 0x12, 20, 0x0a, 16] ++ accountId ++
    [0x10, 4, 0x22, 32] ++ recordIkm

def contact : ContactRecord where
  e164 := "+4930901"
  givenName := "Ada"
  aciBinary := bytes 16 0x00112233445566778899aabbccddeeff

def recordPlaintext : Bytes :=
  [0x0a, 34, 0x12, 8] ++ "+4930901".toList.map charByte ++ [0x32, 3] ++ "Ada".toList.map charByte ++
    [0xca, 0x01, 16] ++ contact.aciBinary

/-- Initialization vector, ciphertext and tag. -/
structure Box where
  iv : Bytes
  ciphertext : Bytes
  tag : Bytes
deriving DecidableEq

def Box.blob (box : Box) : Bytes := box.iv ++ box.ciphertext ++ box.tag

def manifestBox : Box where
  iv := bytes 12 0x000102030405060708090a0b
  ciphertext := bytes 32 0xc9f4f652bdb0043f94bcc0796b33651a79272a722de27cd97d1a9fe61f95c73a ++
    bytes 32 0xf1332e6efc813c4e5392bfcee3462905431bf40de0056ad6d7ff90eb0b6b997e ++
    bytes 16 0x41fab861f5a13ac9fe32ef18a56a6614
  tag := bytes 16 0x6ecd17f8d9b3be00292f37040a6f5a40

def contactBox : Box where
  iv := bytes 12 0x0c0d0e0f1011121314151617
  ciphertext := bytes 36 0xc655b11399247ca7b757e3de2330665848cf170706caf506ca87bfa259e3de0f9ba4dddc
  tag := bytes 16 0x6f0159aaebb997567bafa52347853c88

def authBody : Bytes := "\x7b\"username\":\"u\",\"password\":\"p\"\x7d".toList.map charByte

def manifestBody : Bytes := [0x08, 7, 0x12, 108] ++ manifestBox.blob

/-- The contact's item, after one without a value. -/
def items : List StorageItem := [⟨contactId, []⟩, ⟨contactId, contactBox.blob⟩]

def itemsBody : Bytes :=
  [0x0a, 18, 0x0a, 16] ++ contactId ++ [0x0a, 84, 0x0a, 16] ++ contactId ++ [0x12, 64] ++
    contactBox.blob

def libraries : Libraries where
  deriveSvrKey _ := .ok svrKey
  deriveStorageServiceKey _ := .ok storageServiceKey
  hmac key data :=
    if (key, data) = (storageServiceKey, "Manifest_7".toList.map charByte) then some manifestKey
    else none
  hkdfDerive ikm info _ :=
    if (ikm, info) = (recordIkm, kInfoPrefix ++ contactId) then .ok contactKey
    else .error ⟨"signal_hkdf_derive"⟩
  cipherCtxNew := true
  evpDecrypt key iv ciphertext tag :=
    if (key, Box.mk iv ciphertext tag) = (manifestKey, manifestBox) then some manifestPlaintext
    else if (key, Box.mk iv ciphertext tag) = (contactKey, contactBox) then some recordPlaintext
    else none
  parseAuth body := if body = authBody then .ok ("u", "p") else .error ⟨"parse error"⟩
  parseManifest body := if body = manifestBody then some ⟨7, manifestBox.blob⟩ else none
  parseManifestRecord plaintext := if plaintext = manifestPlaintext then some manifest else none
  serializeReadOperation readKeys :=
    readKeys.flatMap fun readKey => 0x0a :: UInt8.ofNat readKey.length :: readKey
  parseItems body := if body = itemsBody then some items else none
  parseRecord plaintext := if plaintext = recordPlaintext then some ⟨some contact⟩ else none

/-- One manifest, sealed for every version that has its key, and one contact. -/
def vault : Vault where
  manifests := {m | deriveManifestKey libraries storageServiceKey m.1 = .ok manifestKey ∧ m.2 = manifest}
  records := {(recordIkm, contactId, ⟨some contact⟩)}

theorem manifestKey_ne_contactKey : manifestKey ≠ contactKey := by decide

theorem evpDecrypt_manifestKey {iv ciphertext tag plaintext : Bytes}
    (h : libraries.evpDecrypt manifestKey iv ciphertext tag = some plaintext) :
    plaintext = manifestPlaintext := by
  simp only [libraries, Prod.mk.injEq, manifestKey_ne_contactKey, false_and, if_false] at h
  split at h
  · exact (Option.some.inj h).symm
  · cases h

theorem evpDecrypt_contactKey {iv ciphertext tag plaintext : Bytes}
    (h : libraries.evpDecrypt contactKey iv ciphertext tag = some plaintext) :
    plaintext = recordPlaintext := by
  simp only [libraries, Prod.mk.injEq, manifestKey_ne_contactKey.symm, false_and, if_false] at h
  split at h
  · exact (Option.some.inj h).symm
  · cases h

theorem deriveManifestKey_ok {version : UInt64} {key : Bytes}
    (h : deriveManifestKey libraries storageServiceKey version = .ok key) : key = manifestKey := by
  simp only [deriveManifestKey, hmacSha256, libraries] at h
  split at h
  · next hsome =>
    cases h
    split at hsome
    · exact (Option.some.inj hsome).symm
    · cases hsome
  · cases h

theorem itemKey_ok {rawId key : Bytes} (h : itemKey libraries storageServiceKey recordIkm rawId = .ok key) :
    rawId = contactId ∧ key = contactKey := by
  rw [itemKey, if_neg (by decide)] at h
  simp only [deriveItemKeyFromRecordIkm, libraries, Prod.mk.injEq, true_and, List.append_cancel_left_eq] at h
  split at h
  · next hid => exact ⟨hid, (Except.ok.inj h).symm⟩
  · cases h

theorem parse_manifest : libraries.parseManifestRecord manifestPlaintext = some manifest := by
  simp only [libraries, if_true]

theorem parse_record : libraries.parseRecord recordPlaintext = some ⟨some contact⟩ := by
  simp only [libraries, if_true]

theorem sealed_vault : Sealed libraries storageServiceKey vault where
  manifest version key hkey iv ciphertext tag plaintext hopens := by
    obtain rfl := deriveManifestKey_ok hkey
    obtain rfl := evpDecrypt_manifestKey hopens
    exact ⟨manifest, ⟨hkey, rfl⟩, parse_manifest⟩
  record version m hm rawId key hkey iv ciphertext tag plaintext hopens := by
    obtain ⟨-, rfl⟩ := hm
    obtain ⟨rfl, rfl⟩ := itemKey_ok hkey
    obtain rfl := evpDecrypt_contactKey hopens
    exact ⟨⟨some contact⟩, rfl, parse_record⟩

/-- The account before its first sync. -/
def linked : Db where
  account := (∅ : Table String AccountRecord).insert "trunk"
    { e164 := "+4930900", aci := "aci-0", pni := "", password := "" }

theorem syncs_keep_genuine_linked : Protected libraries vault "trunk" pool linked :=
  syncs_keep_genuine libraries vault "trunk" pool linked
    (fun key hkey => Except.ok.inj hkey ▸ sealed_vault) fun contact hcontact => by cases hcontact

end Sample

end Signal2sip.StorageService
