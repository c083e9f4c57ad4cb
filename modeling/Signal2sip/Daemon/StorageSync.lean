import Signal2sip.Storage.SyncedContacts

/-!
# The contact sync

`syncStorageContacts` of `main.cpp`: fetch the contact records of the account's storage service and
cache each of them with `saveSyncedContact`. A contact with neither an `e164` nor an `aci` is passed
over. An exception of one call is caught and the loop goes on; one of the fetch ends the sync. The
function throws in neither case, and takes the time of the attempt first.

The fetch is the network's business: the model is told what it gave. Of the log lines it keeps the
two counts of the last one.
-/

namespace Signal2sip

open Sqlite (Faults)

/-- What one call of `saveSyncedContact` meets: the clock, and failures of its statements. -/
structure SaveCall where
  now : Int
  findE164 : Faults := .quiet
  findAci : Faults := .quiet
  write : Faults := .quiet

/-- One turn of the loop: the file, and `cachedCount`. -/
def cacheContact (accountName : String) (call : SaveCall) (s : Db × Nat)
    (contact : StorageContact) : Db × Nat :=
  if contact.e164 = "" ∧ contact.aci = "" then s
  else
    match (Storage.saveSyncedContact s.1 accountName contact.e164 contact.aci contact.pni
      contact.profileKey contact.givenName contact.familyName call.now call.findE164 call.findAci
      call.write).value with
    | .ok db' => (db', s.2 + 1)
    | .error _ => s

/-- The loop, from the `i`-th contact on. -/
def cacheContacts (accountName : String) (calls : Nat → SaveCall) :
    Nat → Db × Nat → List StorageContact → Db × Nat
  | _, s, [] => s
  | i, s, contact :: rest =>
    cacheContacts accountName calls (i + 1) (cacheContact accountName (calls i) s contact) rest

/-- What a sync leaves: the time of the attempt, the file, and the counts that it reports when it
gets to its end. -/
structure SyncAttempt where
  lastStorageSyncMs : Int
  db : Db
  report : Option (Nat × Nat)

/-- Only a linked account has an entropy pool to derive the storage service's key from. -/
def syncStorageContacts (db : Db) (accountName : String) (accountEntropyPool : Option String)
    (steadyNowMs : Int) (fetched : Except RuntimeError (List StorageContact))
    (calls : Nat → SaveCall) : SyncAttempt :=
  if accountEntropyPool.getD "" = "" then ⟨steadyNowMs, db, none⟩
  else
    match fetched with
    | .error _ => ⟨steadyNowMs, db, none⟩
    | .ok contacts =>
      let (db', cachedCount) := cacheContacts accountName calls 0 (db, 0) contacts
      ⟨steadyNowMs, db', some (contacts.length, cachedCount)⟩

end Signal2sip
