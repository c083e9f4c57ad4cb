import Signal2sip.Daemon.ContactResolver
import Signal2sip.Laws.ContactSync
import Signal2sip.Laws.StorageTrust

/-!
# What a device has stored, the daemon calls

From a contact that a device of the account puts into the storage service to the service id that a call
for its number is placed to. The service hands the sealed records out in any order, and with them items
that do not open, as many and wherever it likes.

- `fetchStorageContacts_contacts`: the fetch gives the contacts of the stored records, each of them once;
- `storedContacts_resolve`: after a sync the account's cache has them, next to the rows that share no key
  with any of them, and a call for a stored number is placed to the stored ACI without asking the
  network.
-/

namespace Signal2sip.StorageService

open Recorded (bind_outcome_ok_iff)
open Sqlite (Faults)
open UniqueRows (placeAll)

/-! ## What is stored -/

structure StoredRecord where
  rawId : Bytes
  type : IdentifierType
  record : StorageRecord

def StoredRecord.contact (r : StoredRecord) : Option StorageContact :=
  r.record.contact.map (·.toContact)

/-- What the account's devices keep in the service. -/
structure Contents where
  version : UInt64
  recordIkm : Bytes
  records : List StoredRecord

namespace Contents

def manifest (contents : Contents) : ManifestRecord where
  identifiers := contents.records.map fun r => ⟨r.rawId, r.type⟩
  recordIkm := contents.recordIkm

def contactRecords (contents : Contents) : List StoredRecord :=
  contents.records.filter fun r => r.type = .contact

def contacts (contents : Contents) : List StorageContact :=
  contents.contactRecords.filterMap (·.contact)

/-- The ids of the contacts, and of no other record. -/
theorem readKeys_manifest (contents : Contents) :
    contents.manifest.readKeys = contents.contactRecords.map (·.rawId) := by
  simp [ManifestRecord.readKeys, manifest, contactRecords, List.filter_map, Function.comp_def]

end Contents

section

variable (lib : Libraries)

/-- A sealed plaintext: the initialization vector, the ciphertext and the tag. -/
def Blob (key plaintext blob : Bytes) : Prop :=
  ∃ iv ciphertext tag, iv.length = kIvLen ∧ tag.length = kTagLen ∧ blob = iv ++ ciphertext ++ tag ∧
    lib.evpDecrypt key iv ciphertext tag = some plaintext

/-- The item of a record, sealed under the key of its id. -/
def ItemOf (storageServiceKey recordIkm : Bytes) (item : StorageItem) (r : StoredRecord) : Prop :=
  item.key = r.rawId ∧ ∃ key plaintext, itemKey lib storageServiceKey recordIkm r.rawId = .ok key ∧
    Blob lib key plaintext item.value ∧ lib.parseRecord plaintext = some r.record

/-- An item that does not open under the key of its id. -/
def Unopened (storageServiceKey recordIkm : Bytes) (item : StorageItem) : Prop :=
  ∃ key e, itemKey lib storageServiceKey recordIkm item.key = .ok key ∧
    aesGcmDecrypt lib key item.value = .error e

/-- The items of some records, in any order and among others that do not open. -/
def Delivered (storageServiceKey recordIkm : Bytes) (records : List StoredRecord)
    (items : List StorageItem) : Prop :=
  ∃ stored others, items.Perm (stored ++ others) ∧
    List.Forall₂ (ItemOf lib storageServiceKey recordIkm) stored records ∧
    ∀ item ∈ others, Unopened lib storageServiceKey recordIkm item

/-- The service serves the contents, to whoever comes with the credentials. -/
structure Serves (net : Network) (storageServiceKey : Bytes) (username password : String)
    (contents : Contents) : Prop where
  auth : ∃ body, net.request "GET" "/v1/storage/auth" = .ok ⟨200, body⟩ ∧
    lib.parseAuth body = .ok (username, password)
  curl : net.curl.easyInit = true
  manifest : ∃ body value key plaintext,
    net.curl.easyPerform (curlRequest kStorageHost "GET" "/v1/storage/manifest" [] "application/json"
      username password) = .ok ⟨200, body⟩ ∧
    lib.parseManifest body = some ⟨contents.version, value⟩ ∧
    deriveManifestKey lib storageServiceKey contents.version = .ok key ∧
    Blob lib key plaintext value ∧ lib.parseManifestRecord plaintext = some contents.manifest
  read : ∃ body items,
    net.curl.easyPerform (curlRequest kStorageHost "PUT" "/v1/storage/read"
      (lib.serializeReadOperation (contents.contactRecords.map (·.rawId))) "application/x-protobuf"
      username password) = .ok ⟨200, body⟩ ∧
    lib.parseItems body = some items ∧
    Delivered lib storageServiceKey contents.recordIkm contents.contactRecords items

/-! ## The fetch -/

variable {lib} {net : Network} {storageServiceKey recordIkm : Bytes}

theorem aesGcmDecrypt_blob (hctx : lib.cipherCtxNew = true) {key plaintext blob : Bytes}
    (h : Blob lib key plaintext blob) : aesGcmDecrypt lib key blob = .ok plaintext := by
  obtain ⟨iv, ciphertext, tag, hiv, htag, rfl, hopens⟩ := h
  have hlength : (iv ++ ciphertext ++ tag).length = kIvLen + ciphertext.length + kTagLen := by
    simp only [List.length_append, hiv, htag]
  have hlong : ¬ (iv ++ ciphertext ++ tag).length < kIvLen + kTagLen := by omega
  have hciphertext : (iv ++ ciphertext ++ tag).length - kIvLen - kTagLen = ciphertext.length := by omega
  have htake : (iv ++ ciphertext ++ tag).take kIvLen = iv := by
    rw [List.append_assoc, ← hiv, List.take_left]
  have hdrop : (iv ++ ciphertext ++ tag).drop kIvLen = ciphertext ++ tag := by
    rw [List.append_assoc, ← hiv, List.drop_left]
  have htail : (iv ++ ciphertext ++ tag).drop (kIvLen + ciphertext.length) = tag := by
    rw [← hiv, ← List.length_append, List.drop_left]
  rw [aesGcmDecrypt, if_neg hlong]
  simp only [hciphertext, htake, hdrop, htail, List.take_left, hopens, hctx, Bool.true_eq_false, if_false]

/-- What an item contributes. -/
def itemContact (lib : Libraries) (storageServiceKey recordIkm : Bytes) (item : StorageItem) :
    Option StorageContact :=
  match itemKey lib storageServiceKey recordIkm item.key with
  | .error _ => none
  | .ok key =>
    match aesGcmDecrypt lib key item.value with
    | .error _ => none
    | .ok plaintext => (lib.parseRecord plaintext).bind fun record => record.contact.map (·.toContact)

theorem readItem_eq {item : StorageItem} {key : Bytes}
    (hkey : itemKey lib storageServiceKey recordIkm item.key = .ok key) (s : Fetched) :
    ∃ skipped, readItem lib storageServiceKey recordIkm s item =
      .ok ⟨s.contacts ++ (itemContact lib storageServiceKey recordIkm item).toList, skipped⟩ := by
  simp only [readItem, itemContact, hkey, bind, Except.bind]
  cases aesGcmDecrypt lib key item.value with
  | error e => exact ⟨s.skipped + 1, by rw [Option.toList_none, List.append_nil]; rfl⟩
  | ok plaintext =>
    dsimp only
    refine ⟨s.skipped, ?_⟩
    cases hrecord : lib.parseRecord plaintext with
    | none => rw [Option.bind_none, Option.toList_none, List.append_nil]; rfl
    | some record =>
      rw [Option.bind_some]
      cases hcontact : record.contact with
      | none =>
        dsimp only
        rw [hcontact, Option.map_none, Option.toList_none, List.append_nil]
        rfl
      | some c =>
        dsimp only
        rw [hcontact]
        rfl

/-- When every item has a key, each of them contributes what it contributes alone. -/
theorem readItems_eq {items : List StorageItem}
    (hkeys : ∀ item ∈ items, ∃ key, itemKey lib storageServiceKey recordIkm item.key = .ok key)
    (s : Fetched) :
    ∃ skipped, readItems lib storageServiceKey recordIkm s items =
      .ok ⟨s.contacts ++ items.filterMap (itemContact lib storageServiceKey recordIkm), skipped⟩ := by
  induction items generalizing s with
  | nil => exact ⟨s.skipped, by simp [readItems]⟩
  | cons item items ih =>
    obtain ⟨key, hkey⟩ := hkeys item List.mem_cons_self
    obtain ⟨skipped, hitem⟩ := readItem_eq hkey s
    obtain ⟨skipped', hitems⟩ := ih (fun i hi => hkeys i (List.mem_cons_of_mem item hi))
      ⟨s.contacts ++ (itemContact lib storageServiceKey recordIkm item).toList, skipped⟩
    refine ⟨skipped', ?_⟩
    simp only [readItems, hitem, bind, Except.bind, hitems]
    cases hcontact : itemContact lib storageServiceKey recordIkm item with
    | none => rw [List.filterMap_cons_none hcontact, Option.toList_none, List.append_nil]
    | some contact =>
      rw [List.filterMap_cons_some hcontact, Option.toList_some, List.append_assoc,
        List.singleton_append]

theorem itemContact_of_itemOf (hctx : lib.cipherCtxNew = true) {item : StorageItem} {r : StoredRecord}
    (h : ItemOf lib storageServiceKey recordIkm item r) :
    itemContact lib storageServiceKey recordIkm item = r.contact := by
  obtain ⟨hid, key, plaintext, hkey, hblob, hrecord⟩ := h
  simp only [itemContact, hid, hkey, aesGcmDecrypt_blob hctx hblob, hrecord, Option.bind_some]
  rfl

theorem itemContact_of_unopened {item : StorageItem}
    (h : Unopened lib storageServiceKey recordIkm item) :
    itemContact lib storageServiceKey recordIkm item = none := by
  obtain ⟨key, e, hkey, hdecrypt⟩ := h
  simp only [itemContact, hkey, hdecrypt]

/-- An item of a delivered record is sealed under the key of its id. -/
theorem exists_itemOf {items : List StorageItem} {records : List StoredRecord}
    (h : List.Forall₂ (ItemOf lib storageServiceKey recordIkm) items records) {item : StorageItem}
    (hitem : item ∈ items) : ∃ r, ItemOf lib storageServiceKey recordIkm item r := by
  induction h with
  | nil => cases hitem
  | cons hhead _ ih =>
    rcases List.mem_cons.mp hitem with rfl | htail
    · exact ⟨_, hhead⟩
    · exact ih htail

/-- What is delivered contributes the contacts of the records. -/
theorem Delivered.contacts (hctx : lib.cipherCtxNew = true) {records : List StoredRecord}
    {items : List StorageItem} (h : Delivered lib storageServiceKey recordIkm records items) :
    (∀ item ∈ items, ∃ key, itemKey lib storageServiceKey recordIkm item.key = .ok key) ∧
      (items.filterMap (itemContact lib storageServiceKey recordIkm)).Perm
        (records.filterMap (·.contact)) := by
  obtain ⟨stored, others, hperm, hstored, hothers⟩ := h
  constructor
  · intro item hitem
    rcases List.mem_append.mp (hperm.mem_iff.mp hitem) with hmem | hmem
    · obtain ⟨r, hid, key, plaintext, hkey, -⟩ := exists_itemOf hstored hmem
      exact ⟨key, hid ▸ hkey⟩
    · obtain ⟨key, e, hkey, -⟩ := hothers item hmem
      exact ⟨key, hkey⟩
  · refine (hperm.filterMap _).trans ?_
    have hnone : others.filterMap (itemContact lib storageServiceKey recordIkm) = [] :=
      List.filterMap_eq_nil_iff.mpr fun item hitem => itemContact_of_unopened (hothers item hitem)
    rw [List.filterMap_append, hnone, List.append_nil]
    clear hperm
    induction hstored with
    | nil => rfl
    | cons hitem _ ih =>
      rw [List.filterMap_cons, List.filterMap_cons, itemContact_of_itemOf hctx hitem]
      split
      · exact ih
      · exact ih.cons _

variable {pool username password : String} {contents : Contents}

theorem Serves.fetchAuth (h : Serves lib net storageServiceKey username password contents) :
    (fetchAuth lib net).outcome = .ok (username, password) := by
  obtain ⟨body, hrequest, hparse⟩ := h.auth
  refine bind_outcome_ok_iff.mpr ⟨⟨200, body⟩, hrequest, ?_⟩
  exact bind_outcome_ok_iff.mpr ⟨⟨⟩, Recorded.failIf_outcome_ok_iff.mpr (not_not.mpr rfl), hparse⟩

/-- An answered request returns. -/
theorem doRequest_outcome {curl : Curl} (hinit : curl.easyInit = true)
    {serverHost method path : String} {body : Bytes} {contentType username password : String}
    {response : HttpResponse}
    (h : curl.easyPerform (curlRequest serverHost method path body contentType username password) =
      .ok response) :
    (doRequest curl Request.http serverHost method path body contentType username password).outcome =
      .ok response := by
  refine bind_outcome_ok_iff.mpr
    ⟨⟨⟩, Recorded.failIf_outcome_ok_iff.mpr (by rw [hinit]; exact Bool.true_eq_false.mp), ?_⟩
  refine bind_outcome_ok_iff.mpr ⟨.ok response, congrArg _ h, rfl⟩

theorem Serves.fetchManifest (hctx : lib.cipherCtxNew = true)
    (h : Serves lib net storageServiceKey username password contents) :
    (fetchManifest lib net storageServiceKey username password).outcome = .ok contents.manifest := by
  obtain ⟨body, value, key, plaintext, hrequest, hparse, hkey, hblob, hrecord⟩ := h.manifest
  refine bind_outcome_ok_iff.mpr ⟨⟨200, body⟩, doRequest_outcome h.curl hrequest, ?_⟩
  refine bind_outcome_ok_iff.mpr
    ⟨⟨⟩, Recorded.failIf_outcome_ok_iff.mpr (not_not.mpr rfl), ?_⟩
  rw [hparse]
  refine bind_outcome_ok_iff.mpr ⟨key, hkey, ?_⟩
  refine bind_outcome_ok_iff.mpr ⟨plaintext, aesGcmDecrypt_blob hctx hblob, ?_⟩
  rw [hrecord]
  rfl

theorem Serves.fetchItems (h : Serves lib net storageServiceKey username password contents) :
    ∃ items, (fetchItems lib net contents.manifest.readKeys username password).outcome = .ok items ∧
      Delivered lib storageServiceKey contents.recordIkm contents.contactRecords items := by
  obtain ⟨body, items, hrequest, hparse, hdelivered⟩ := h.read
  refine ⟨items, ?_, hdelivered⟩
  rw [contents.readKeys_manifest]
  refine bind_outcome_ok_iff.mpr ⟨⟨200, body⟩, doRequest_outcome h.curl hrequest, ?_⟩
  refine bind_outcome_ok_iff.mpr
    ⟨⟨⟩, Recorded.failIf_outcome_ok_iff.mpr (not_not.mpr rfl), ?_⟩
  rw [hparse]
  rfl

/-- A fetch from a service that serves the contents comes to the items, when it asks for any. -/
theorem Serves.fetchStorageContacts (hpool : pool ≠ "")
    (hkey : deriveStorageServiceKey lib pool = .ok storageServiceKey) (hctx : lib.cipherCtxNew = true)
    (h : Serves lib net storageServiceKey username password contents) {fetched : Fetched}
    (hrest : (if contents.manifest.readKeys = [] then pure {}
      else do
        let items ← StorageService.fetchItems lib net contents.manifest.readKeys username password
        Recorded.ofExcept (readItems lib storageServiceKey contents.recordIkm {} items) :
      Recorded RuntimeError Request Fetched).outcome = .ok fetched) :
    (fetchStorageContacts lib net pool).outcome = .ok fetched := by
  refine bind_outcome_ok_iff.mpr ⟨⟨⟩, Recorded.failIf_outcome_ok_iff.mpr hpool, ?_⟩
  refine bind_outcome_ok_iff.mpr ⟨storageServiceKey, hkey, ?_⟩
  refine bind_outcome_ok_iff.mpr ⟨(username, password), h.fetchAuth, ?_⟩
  exact bind_outcome_ok_iff.mpr ⟨contents.manifest, h.fetchManifest hctx, hrest⟩

/-- The fetch gives the contacts of the stored records, in some order. -/
theorem fetchStorageContacts_contacts (hpool : pool ≠ "")
    (hkey : deriveStorageServiceKey lib pool = .ok storageServiceKey) (hctx : lib.cipherCtxNew = true)
    (hserves : Serves lib net storageServiceKey username password contents) :
    ∃ fetched, (fetchStorageContacts lib net pool).outcome = .ok fetched ∧
      fetched.contacts.Perm contents.contacts := by
  by_cases hnone : contents.manifest.readKeys = []
  · refine ⟨{}, hserves.fetchStorageContacts hpool hkey hctx ?_, ?_⟩
    · rw [if_pos hnone]
      rfl
    · rw [contents.readKeys_manifest, List.map_eq_nil_iff] at hnone
      rw [Contents.contacts, hnone]
      exact .nil
  · obtain ⟨items, hitems, hdelivered⟩ := hserves.fetchItems
    obtain ⟨hkeys, hcontacts⟩ := hdelivered.contacts hctx
    obtain ⟨skipped, hread⟩ := readItems_eq hkeys {}
    refine ⟨⟨_, skipped⟩, hserves.fetchStorageContacts hpool hkey hctx ?_, hcontacts⟩
    rw [if_neg hnone]
    exact bind_outcome_ok_iff.mpr ⟨items, hitems, hread⟩

/-! ## From the fetch to the call -/

/-- Being distinct does not depend on the order. -/
theorem distinctKeys_perm {contacts contacts' : List StorageContact} (h : DistinctKeys contacts)
    (hperm : contacts'.Perm contacts) : DistinctKeys contacts' := by
  have hsymm {c d : String} (hcd : c ≠ "" → c ≠ d) (hne : d ≠ "") : d ≠ c := by
    rintro rfl
    exact hcd hne rfl
  exact ⟨(hperm.pairwise_iff hsymm).mpr h.e164s, (hperm.pairwise_iff hsymm).mpr h.acis⟩

/-- A sync during which no statement fails. -/
def quietlySync (net : Network) (steadyNowMs : Int) (clock : Nat → Int) : Sync where
  net
  steadyNowMs
  calls := quietCalls clock

variable {db : Db} {accountName : String}

/-- A contact that reads back is called under its ACI, from the file alone. -/
theorem resolve_of_readBack {contact : StorageContact} (h : ReadBack db accountName contact)
    (he164 : contact.e164.toList.head? = some '+') (haci : contact.aci ≠ "") (ttlSec : UInt32)
    {call : ResolveCall} (hcall : call.loadSynced = .quiet) :
    resolveOutgoingTarget db accountName contact.e164 ttlSec call = ⟨db, [], .ok contact.aci⟩ := by
  have hne : contact.e164 ≠ "" := by
    intro hempty
    rw [hempty] at he164
    cases he164
  obtain ⟨r, hload, rfl⟩ := h.byE164 hne
  rw [resolveOutgoingTarget, if_neg (not_not.mpr he164), hcall, hload]
  have hfilter : (some r).filter (fun synced => decide (synced.aci ≠ "")) = some r :=
    Option.filter_some_pos (decide_eq_true haci)
  simp only [hfilter]
  rfl

/-- What a sync leaves: the stored contacts and the rows that share no key with them, and for each
stored contact a call that is placed to its ACI. -/
structure Resolves (db : Db) (accountName : String) (contents : Contents) (after : Db) : Prop where
  contacts : after.contacts = (batchRows accountName contents.contacts : Multiset _) +
    db.contacts.filter fun s => ∀ r ∈ batchRows accountName contents.contacts, ¬ SharesKey r s
  calls (contact : StorageContact) (hcontact : contact ∈ contents.contacts)
    (he164 : contact.e164.toList.head? = some '+') (haci : contact.aci ≠ "") (ttlSec : UInt32)
    (call : ResolveCall) (hcall : call.loadSynced = .quiet) :
    resolveOutgoingTarget after accountName contact.e164 ttlSec call = ⟨after, [], .ok contact.aci⟩

/-- Contacts with distinct keys, none of which is on two rows of the account, resolve after a sync. -/
theorem storedContacts_resolve (lib : Libraries) (net : Network) (pool username password : String)
    (storageServiceKey : Bytes) (contents : Contents) (db : Db) (accountName : String)
    (hpool : pool ≠ "") (hkey : deriveStorageServiceKey lib pool = .ok storageServiceKey)
    (hctx : lib.cipherCtxNew = true)
    (hserves : Serves lib net storageServiceKey username password contents)
    (hsound : db.ContactsSound) (haccount : accountName ∈ db.account)
    (hdistinct : DistinctKeys contents.contacts)
    (hrows : ∀ contact ∈ contents.contacts, KeysOnOneRow db accountName contact)
    (steadyNowMs : Int) (clock : Nat → Int) :
    Resolves db accountName contents
      ((quietlySync net steadyNowMs clock).run lib accountName pool db) := by
  obtain ⟨fetched, hfetch, hperm⟩ := fetchStorageContacts_contacts hpool hkey hctx hserves
  have hafter : (quietlySync net steadyNowMs clock).run lib accountName pool db =
      quietSync db accountName (some pool) steadyNowMs clock fetched.contacts := by
    rw [Sync.run, quietlySync, hfetch]
    rfl
  obtain ⟨hplaced, hsound'⟩ :=
    quietSync_placeAll hsound haccount hpool steadyNowMs clock fetched.contacts
  rw [← hafter] at hplaced hsound'
  -- the batch in the order of the service is one in the order of the records
  have hbatch : (batchRows accountName fetched.contacts).Perm
      (batchRows accountName contents.contacts) := (hperm.filter _).map _
  have hone (r : String × StorageContact) (hr : r ∈ batchRows accountName fetched.contacts) :
      (db.contacts.filter (SharesKey r)).card ≤ 1 := by
    obtain ⟨rfl, -, hmem⟩ := mem_batchRows.mp hr
    exact (card_le_one_iff hsound r.2).mpr (hrows r.2 (hperm.mem_iff.mp hmem))
  have hapart : (batchRows accountName fetched.contacts).Pairwise fun r s => ¬ SharesKey r s :=
    batchRows_pairwise (distinctKeys_perm hdistinct hperm)
  have hall := UniqueRows.placeAll_eq (hapart.imp fun h h' => h (symm h')) hone
  have hcontacts : ((quietlySync net steadyNowMs clock).run lib accountName pool db).contacts =
      (batchRows accountName contents.contacts : Multiset _) +
        db.contacts.filter fun s => ∀ r ∈ batchRows accountName contents.contacts, ¬ SharesKey r s := by
    rw [hplaced, hall, Multiset.coe_eq_coe.mpr hbatch]
    simp only [hbatch.mem_iff]
  refine ⟨hcontacts, ?_⟩
  intro contact hcontact he164 haci ttlSec call hcall
  have hkeyed : contact.Keyed := Or.inr haci
  refine resolve_of_readBack ((readBack_iff hsound' hkeyed).mpr ?_) he164 haci ttlSec hcall
  rw [hcontacts]
  exact Multiset.mem_add.mpr (Or.inl (Multiset.mem_coe.mpr (mem_batchRows.mpr ⟨rfl, hkeyed, hcontact⟩)))

end

namespace Sample

def contents : Contents where
  version := 7
  recordIkm
  records := [⟨contactId, .contact, ⟨some contact⟩⟩, ⟨accountId, .account, ⟨none⟩⟩]

/-- The service, with an item without a value before the contact's. -/
def network : Network where
  request _ _ := .ok ⟨200, authBody⟩
  curl := {
    easyInit := true
    easyPerform := fun request => .ok ⟨200, if request.method = "GET" then manifestBody else itemsBody⟩ }

theorem itemKey_contactId : itemKey libraries storageServiceKey recordIkm contactId = .ok contactKey := by
  rw [itemKey, if_neg (by decide)]
  simp only [deriveItemKeyFromRecordIkm, libraries, if_true]

theorem contactItem :
    ItemOf libraries storageServiceKey recordIkm ⟨contactId, contactBox.blob⟩
      ⟨contactId, .contact, ⟨some contact⟩⟩ := by
  refine ⟨rfl, contactKey, recordPlaintext, itemKey_contactId, ?_, parse_record⟩
  refine ⟨contactBox.iv, contactBox.ciphertext, contactBox.tag, rfl, rfl, rfl, ?_⟩
  simp only [libraries, Prod.mk.injEq, manifestKey_ne_contactKey.symm, false_and, if_false, and_self,
    if_true]

theorem serves : Serves libraries network storageServiceKey "u" "p" contents where
  auth := ⟨authBody, rfl, by simp only [libraries, if_true]⟩
  curl := rfl
  manifest := by
    refine ⟨manifestBody, manifestBox.blob, manifestKey, manifestPlaintext, rfl, ?_, ?_, ?_,
      parse_manifest⟩
    · simp only [libraries, if_true]
      rfl
    · simp only [deriveManifestKey, hmacSha256, libraries]
      rfl
    · refine ⟨manifestBox.iv, manifestBox.ciphertext, manifestBox.tag, rfl, rfl, rfl, ?_⟩
      simp only [libraries, if_true]
  read := by
    refine ⟨itemsBody, items, rfl, by simp only [libraries, if_true], ?_⟩
    refine ⟨[⟨contactId, contactBox.blob⟩], [⟨contactId, []⟩], ?_, .cons contactItem .nil, ?_⟩
    · exact List.Perm.swap _ _ _
    · intro item hitem
      rw [List.mem_singleton.mp hitem]
      exact ⟨contactKey, _, itemKey_contactId, rfl⟩

/-- The number is on a row of the account, and its owner has changed. -/
theorem storedContacts_resolve_twoContacts :
    Resolves twoContacts "trunk" contents
      ((quietlySync network 0 fun _ => 0).run libraries "trunk" pool twoContacts) :=
  storedContacts_resolve libraries network pool "u" "p" storageServiceKey contents twoContacts "trunk"
    (by decide) rfl rfl serves twoContacts_sound (by decide) ⟨by decide, by decide⟩
    (by unfold KeysOnOneRow; decide) 0 fun _ => 0

end Sample

end Signal2sip.StorageService
