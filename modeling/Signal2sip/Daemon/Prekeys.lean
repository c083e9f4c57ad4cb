import Signal2sip.Lib.Run
import Signal2sip.Lib.Script
import Signal2sip.Signal.ProtocolStores

/-!
# `refreshPrekeys`

The daemon makes a signed and a last-resort Kyber prekey for each identity, writes both into the
identity's single row of `signed_prekey` and `kyber_prekey`, and then uploads them. This module
follows the function step by step, with the server's side of the agreement next to the local one:
for each identity, the prekey ids of the upload that the server last took over.

A refresh is given the wall-clock second it runs at, the keys libsignal generates (or that
generating them throws), and what becomes of each `PUT /v2/keys`. Storage calls succeed wherever
the schema lets them.
-/

namespace Signal2sip

open Sqlite (Faults)

/-- What a peer names in a PreKey message to one of our identities. -/
structure UploadedKeys where
  signedPreKeyId : UInt32
  pqLastResortPreKeyId : UInt32
deriving DecidableEq, Repr

/-- The local database and, for each identity, the upload the server last accepted. -/
structure PrekeyWorld where
  db : Db
  accepted : Table String UploadedKeys := ∅

/-- How `AuthSocket::request` ends: with a response, or with an exception, before or after the
server took the request. -/
inductive PutOutcome
  | response (status : Nat)
  | exception (taken : Bool)
deriving DecidableEq, Repr

/-- The server took the upload over. -/
def PutOutcome.accepted : PutOutcome → Bool
  | .response status => 200 ≤ status && status < 300
  | .exception taken => taken

def PutOutcome.throws : PutOutcome → Bool
  | .response _ => false
  | .exception _ => true

/-- The part of a generated pair of prekeys that is stored. -/
structure GeneratedPreKeys where
  signedRecord : Bytes
  kyberRecord : Bytes
deriving DecidableEq, Repr

/-- One identity's share of a refresh: the keys generated for it (`none` if that throws), and how
its upload ends. -/
structure IdentityRefresh where
  generated : Option GeneratedPreKeys
  put : PutOutcome
deriving DecidableEq, Repr

/-- One run of `refreshPrekeys`. -/
structure Refresh where
  seconds : Nat
  aci : IdentityRefresh
  pni : IdentityRefresh
deriving DecidableEq, Repr

/-- `keyId`: seconds since the epoch modulo 0xfffffe. -/
def Refresh.keyId (r : Refresh) : Nat := r.seconds % 0xfffffe

theorem Refresh.keyId_lt (r : Refresh) : r.keyId < UInt32.size := by
  have : r.keyId < 0xfffffe := Nat.mod_lt _ (by decide)
  exact Nat.lt_trans this (by decide)

/-- The ids in the upload's body. -/
def Refresh.uploadedKeys (r : Refresh) : UploadedKeys :=
  ⟨UInt32.ofNat r.keyId, UInt32.ofNat r.keyId⟩

namespace PrekeyWorld

/-- A storage write; its exception ends the refresh. -/
def save (op : Db → Result Db) (w : PrekeyWorld) : Option PrekeyWorld :=
  (op w.db).value.toOption.map fun db' => { w with db := db' }

theorem save_eq_some {op : Db → Result Db} {w w' : PrekeyWorld} (h : save op w = some w') :
    ∃ db', (op w.db).value = .ok db' ∧ w' = { w with db := db' } := by
  obtain ⟨db', hop, rfl⟩ := Option.map_eq_some_iff.mp h
  exact ⟨db', guardCallback_eq_some.mp hop, rfl⟩

/-- The request reaches the server, or not. -/
def serverPut (identity : String) (keys : UploadedKeys) (put : PutOutcome) (w : PrekeyWorld) :
    Option PrekeyWorld :=
  some (if put.accepted then { w with accepted := w.accepted.insert identity keys } else w)

/-- `request` returns, or throws. The status it returns is printed and not looked at. -/
def awaitResponse (put : PutOutcome) (w : PrekeyWorld) : Option PrekeyWorld :=
  if put.throws then none else some w

end PrekeyWorld

/-- `refreshOne`: generate, save both records, upload. -/
def refreshOne (accountName identity : String) (r : Refresh) (i : IdentityRefresh) :
    Script PrekeyWorld :=
  match i.generated with
  | none => [fun _ => none]
  | some keys =>
    [PrekeyWorld.save fun db =>
        Storage.saveSignedPrekey db accountName identity ⟨r.keyId, keys.signedRecord⟩ .quiet,
      PrekeyWorld.save fun db =>
        Storage.saveKyberPrekey db accountName identity ⟨r.keyId, keys.kyberRecord⟩ .quiet,
      PrekeyWorld.serverPut identity r.uploadedKeys i.put,
      PrekeyWorld.awaitResponse i.put]

/-- `loadIdentityKeypair` finds a keypair. -/
def hasKeypair (db : Db) (accountName identity : String) : Bool :=
  (Storage.loadIdentityKeypair db accountName identity .quiet).value.toOption.join.isSome

/-- `refreshPrekeys`: both keypairs are loaded first, then each identity that has one is refreshed.
An exception leaves the function. -/
def refreshScript (accountName : String) (w : PrekeyWorld) (r : Refresh) : Script PrekeyWorld :=
  (if hasKeypair w.db accountName "aci" then refreshOne accountName "aci" r r.aci else []) ++
  (if hasKeypair w.db accountName "pni" then refreshOne accountName "pni" r r.pni else [])

/-- The world a refresh leaves, also when it throws. -/
def refreshPrekeys (accountName : String) (w : PrekeyWorld) (r : Refresh) : PrekeyWorld :=
  (Script.exec (refreshScript accountName w r) w).1

end Signal2sip
