import Signal2sip.Daemon.CallSignaling

/-!
# `resolveOutgoingTarget`

`ContactResolver.cpp`: the service id to call for a phone number. A contact that the sync has cached
comes first, then a cached answer of the directory that is young enough, then the directory itself,
whose answer is cached.

The network is a parameter of a call: what the socket answers, how the token in that answer reads, and
what the directory returns for a token. The model keeps the requests that are made.
-/

namespace Signal2sip

open Sqlite (Faults)

structure CdsiLookupResult where
  e164 : String
  aci : String
  pni : String
deriving DecidableEq, Repr

/-- A use of the network: the request for a directory token, and the lookup. -/
inductive NetworkRequest
  | directoryAuth
  | cdsiLookup (username password : String) (e164s : List String)
deriving DecidableEq, Repr

/-- What one call meets: the network, the two readings of the clock, and failures of its statements. -/
structure ResolveCall where
  request : Except RuntimeError Response
  parseToken : Bytes → Except RuntimeError (String × String)
  cdsiLookup : String → String → List String → Except RuntimeError (List CdsiLookupResult)
  checkedAt : Int
  savedAt : Int
  loadSynced : Faults := .quiet
  loadResolved : Faults := .quiet
  save : Faults := .quiet

/-- What a call leaves in the file, what it asked the network, and what it returns or throws. -/
structure ResolveOutcome where
  db : Db
  requests : List NetworkRequest
  value : Except RuntimeError String

/-- The ACI if there is one, else the marked PNI, else the exception. -/
def serviceIdOr (aci pni : String) (notOnSignal : RuntimeError) : Except RuntimeError String :=
  if aci ≠ "" then .ok aci
  else if pni ≠ "" then .ok ("PNI:" ++ pni)
  else .error notOnSignal

/-- The slow path: a token, a lookup with it, and the first result, which is cached. -/
def lookUpTarget (db : Db) (accountName target : String) (call : ResolveCall) : ResolveOutcome :=
  match call.request with
  | .error e => ⟨db, [.directoryAuth], .error e⟩
  | .ok authResponse =>
    if authResponse.status ≠ 200 then
      ⟨db, [.directoryAuth],
        .error ⟨"GET /v2/directory/auth -> status " ++ toString authResponse.status⟩⟩
    else
      match call.parseToken authResponse.body with
      | .error e => ⟨db, [.directoryAuth], .error e⟩
      | .ok (username, password) =>
        let requests := [.directoryAuth, .cdsiLookup username password [target]]
        match call.cdsiLookup username password [target] with
        | .error e => ⟨db, requests, .error e⟩
        | .ok [] =>
          ⟨db, requests, .error ⟨"CDSI lookup for " ++ target ++ " returned no result"⟩⟩
        | .ok (result :: _) =>
          match (Storage.saveResolvedContact db accountName target result.aci result.pni call.savedAt
            call.save).value with
          | .error e => ⟨db, requests, .error e⟩
          | .ok db' =>
            ⟨db', requests, serviceIdOr result.aci result.pni
              ⟨target ++ " is not on Signal (CDSI lookup found nothing)"⟩⟩

/-- A cached answer that is younger than the time to live. -/
def youngEnough (ttlSec : UInt32) (now : Int) (cached : ResolvedContactRecord) : Bool :=
  now - cached.resolvedAt < (ttlSec.toNat : Int)

def resolveOutgoingTarget (db : Db) (accountName target : String) (ttlSec : UInt32)
    (call : ResolveCall) : ResolveOutcome :=
  if target.toList.head? ≠ some '+' then ⟨db, [], .ok target⟩
  else
    match (Storage.loadSyncedContact db accountName target call.loadSynced).value with
    | .error e => ⟨db, [], .error e⟩
    | .ok synced =>
      match synced.filter (·.aci ≠ "") with
      | some synced => ⟨db, [], .ok synced.aci⟩
      | none =>
        match (Storage.loadResolvedContact db accountName target call.loadResolved).value with
        | .error e => ⟨db, [], .error e⟩
        | .ok cached =>
          match cached.filter (youngEnough ttlSec call.checkedAt) with
          | some cached =>
            ⟨db, [], serviceIdOr cached.aci cached.pni
              ⟨target ++ " is not on Signal (cached CDSI result)"⟩⟩
          | none => lookUpTarget db accountName target call

end Signal2sip
