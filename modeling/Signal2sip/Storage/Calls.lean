import Signal2sip.Lib.Agree
import Signal2sip.Storage.Storage

/-!
# The calls of a `Storage` object

Every function of `Storage` as one value, with its arguments, the clock reading it takes and the
failures injected into its statements. A call is made on an object, that is, on the name of an
account, and returns the file and an answer, or throws and leaves the file as it was.
-/

namespace Signal2sip

open Sqlite (Faults Outcome)

/-- A call of a `Storage` object. -/
inductive StorageCall
  | hasAccount (f : Faults)
  | loadAccount (f : Faults)
  | saveAccount (account : AccountRecord) (f : Faults)
  | saveAccountConfig (account : AccountRecord) (f : Faults)
  | saveIdentityKeypair (identity : String) (keypair : IdentityKeypairRecord) (f : Faults)
  | loadIdentityKeypair (identity : String) (f : Faults)
  | saveSignedPrekey (identity : String) (prekey : SignedPrekeyRecord) (f : Faults)
  | loadSignedPrekey (identity : String) (f : Faults)
  | saveKyberPrekey (identity : String) (prekey : KyberPrekeyRecord) (f : Faults)
  | loadKyberPrekey (identity : String) (f : Faults)
  | saveSession (address : String) (record : Bytes) (f : Faults)
  | loadSession (address : String) (f : Faults)
  | knownDeviceIdsFor (serviceId : String) (f : Faults)
  | saveRemoteIdentity (address : String) (publicKey : Bytes) (f : Faults)
  | loadRemoteIdentity (address : String) (f : Faults)
  | saveResolvedContact (e164 aci pni : String) (now : Int) (f : Faults)
  | loadResolvedContact (e164 : String) (f : Faults)
  | saveSyncedContact (e164 aci pni : String) (profileKey : Bytes) (givenName familyName : String)
      (now : Int) (fE164 fAci fWrite : Faults)
  | loadSyncedContact (e164 : String) (f : Faults)
  | loadSyncedContactByAci (aci : String) (f : Faults)
  | deleteAccount (beginFault : Option Sqlite.Error) (f : Storage.TableName → Faults)
      (commitFault : Option Sqlite.Error)

/-- What a call returns to its caller. -/
inductive StorageAnswer
  | done
  | has (present : Bool)
  | account (account : AccountRecord)
  | keypair (keypair : Option IdentityKeypairRecord)
  | signedPrekey (prekey : Option SignedPrekeyRecord)
  | kyberPrekey (prekey : Option KyberPrekeyRecord)
  | bytes (record : Option Bytes)
  | deviceIds (ids : List Int)
  | resolvedContact (contact : Option ResolvedContactRecord)
  | syncedContact (contact : Option SyncedContactRecord)

namespace StorageCall

/-- A function that writes. -/
def wrote (o : Result Db) : Result (Db × StorageAnswer) := o.map fun db => (db, .done)

/-- A function that reads. -/
def read {α : Type} (db : Db) (answer : α → StorageAnswer) (o : Result α) :
    Result (Db × StorageAnswer) :=
  o.map fun a => (db, answer a)

def run (db : Db) (accountName_ : String) : StorageCall → Result (Db × StorageAnswer)
  | .hasAccount f => read db .has (Storage.hasAccount db accountName_ f)
  | .loadAccount f => read db .account (Storage.loadAccount db accountName_ f)
  | .saveAccount account f => wrote (Storage.saveAccount db accountName_ account f)
  | .saveAccountConfig account f => wrote (Storage.saveAccountConfig db accountName_ account f)
  | .saveIdentityKeypair identity keypair f =>
    wrote (Storage.saveIdentityKeypair db accountName_ identity keypair f)
  | .loadIdentityKeypair identity f =>
    read db .keypair (Storage.loadIdentityKeypair db accountName_ identity f)
  | .saveSignedPrekey identity prekey f =>
    wrote (Storage.saveSignedPrekey db accountName_ identity prekey f)
  | .loadSignedPrekey identity f =>
    read db .signedPrekey (Storage.loadSignedPrekey db accountName_ identity f)
  | .saveKyberPrekey identity prekey f =>
    wrote (Storage.saveKyberPrekey db accountName_ identity prekey f)
  | .loadKyberPrekey identity f =>
    read db .kyberPrekey (Storage.loadKyberPrekey db accountName_ identity f)
  | .saveSession address record f => wrote (Storage.saveSession db accountName_ address record f)
  | .loadSession address f => read db .bytes (Storage.loadSession db accountName_ address f)
  | .knownDeviceIdsFor serviceId f =>
    read db .deviceIds (Storage.knownDeviceIdsFor db accountName_ serviceId f)
  | .saveRemoteIdentity address publicKey f =>
    wrote (Storage.saveRemoteIdentity db accountName_ address publicKey f)
  | .loadRemoteIdentity address f =>
    read db .bytes (Storage.loadRemoteIdentity db accountName_ address f)
  | .saveResolvedContact e164 aci pni now f =>
    wrote (Storage.saveResolvedContact db accountName_ e164 aci pni now f)
  | .loadResolvedContact e164 f =>
    read db .resolvedContact (Storage.loadResolvedContact db accountName_ e164 f)
  | .saveSyncedContact e164 aci pni profileKey givenName familyName now fE164 fAci fWrite =>
    wrote (Storage.saveSyncedContact db accountName_ e164 aci pni profileKey givenName familyName
      now fE164 fAci fWrite)
  | .loadSyncedContact e164 f =>
    read db .syncedContact (Storage.loadSyncedContact db accountName_ e164 f)
  | .loadSyncedContactByAci aci f =>
    read db .syncedContact (Storage.loadSyncedContactByAci db accountName_ aci f)
  | .deleteAccount beginFault f commitFault =>
    wrote (Storage.deleteAccount db accountName_ beginFault f commitFault)

/-- The contact that a call writes to `synced_contact`. -/
def contact : StorageCall → Option SyncedContactRecord
  | .saveSyncedContact e164 aci pni profileKey givenName familyName now _ _ _ =>
    some ⟨e164, aci, pni, profileKey, givenName, familyName, now⟩
  | _ => none

/-- The file after a call on an object of an account, and what the call returned: the engine's
steps, and the answer or the exception. -/
def step (db : Db) (e : String × StorageCall) : Db × Result StorageAnswer :=
  let o := e.2.run db e.1
  ((o.map Prod.fst).after db, o.map Prod.snd)

end StorageCall

end Signal2sip
