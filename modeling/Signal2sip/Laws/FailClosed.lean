import Signal2sip.Lib.Run
import Signal2sip.Signal.ProtocolStores

/-!
# Storage reads under failing steps

A read fails closed when "absent", or the end of a list, is reported only after SQLite said `DONE`,
and every other result that is not a row raises. The writes of `Storage.cpp` do; its reads compare
the result with `SQLITE_ROW` only, so a read whose step fails reports "absent".

- `lookup_failsClosed_iff`: each lookup fails closed on exactly the statements none of whose steps
  fails, or which are never stepped because their prepare fails;
- `isTrusted_true_iff`: `is_trusted_identity` reports true in exactly three situations, one of them
  a failed step;
- `storage_reads_failClosed_iff`: the two together, the second one along every run of the
  identity-store callbacks.

Concurrency is not part of this module: SQLite runs one statement at a time on a connection, and a
failure of contention is one of the injected codes.
-/

namespace Signal2sip

open Sqlite (Faults Outcome)
open Runs (Along)

/-! ## The lookups -/

/-- The lookups of `Storage.cpp` that can report "absent", with their arguments. -/
inductive Lookup
  | hasAccount
  | identityKeypair (identity : String)
  | signedPrekey (identity : String)
  | kyberPrekey (identity : String)
  | session (address : String)
  | knownDeviceIds (serviceId : String)
  | remoteIdentity (address : String)
  | resolvedContact (e164 : String)
  | syncedContact (e164 : String)
  | syncedContactByAci (aci : String)
  | findByE164 (e164 : String)
  | findByAci (aci : String)
deriving DecidableEq, Repr

/-- An outcome reports only what SQLite said: no answer over a failed step, and no answer in `ends`
without a `DONE`. -/
def Reports {α : Type} (ends : α → Prop) (o : Result α) : Prop := o.FailsClosed ∧ o.DoneBefore ends

/-- The lookup fails closed under the given failures. "Absent" is the answer `none`, and a device
list always claims to be whole. `count(*)` returns a row, so a count is never an absence. -/
def Lookup.FailsClosed (db : Db) (accountName : String) (f : Faults) : Lookup → Prop
  | .hasAccount => Reports (fun _ => False) (Storage.hasAccount db accountName f)
  | .identityKeypair identity =>
    Reports (· = none) (Storage.loadIdentityKeypair db accountName identity f)
  | .signedPrekey identity => Reports (· = none) (Storage.loadSignedPrekey db accountName identity f)
  | .kyberPrekey identity => Reports (· = none) (Storage.loadKyberPrekey db accountName identity f)
  | .session address => Reports (· = none) (Storage.loadSession db accountName address f)
  | .knownDeviceIds serviceId =>
    Reports (fun _ => True) (Storage.knownDeviceIdsFor db accountName serviceId f)
  | .remoteIdentity address =>
    Reports (· = none) (Storage.loadRemoteIdentity db accountName address f)
  | .resolvedContact e164 => Reports (· = none) (Storage.loadResolvedContact db accountName e164 f)
  | .syncedContact e164 => Reports (· = none) (Storage.loadSyncedContact db accountName e164 f)
  | .syncedContactByAci aci =>
    Reports (· = none) (Storage.loadSyncedContactByAci db accountName aci f)
  | .findByE164 e164 =>
    Reports (· = none) (Storage.findSyncedContact db accountName (·.e164) e164 f)
  | .findByAci aci => Reports (· = none) (Storage.findSyncedContact db accountName (·.aci) aci f)

/-- The number of the last step the lookup may take: a one-row lookup steps once, the device scan
once more than it has rows. -/
def Lookup.lastStep (db : Db) (accountName : String) : Lookup → Nat
  | .knownDeviceIds serviceId => (Storage.addressesLike db accountName (serviceId ++ ".%")).length
  | _ => 0

/-- A one-row lookup reports only what SQLite said exactly when its step does not fail. -/
theorem reports_firstRow_iff {ρ β : Type} {f : Faults} {rows : List ρ} {g : Option ρ → β}
    {ends : β → Prop} (hends : ∀ r, ends (g r) → r = none) :
    Reports ends ((Sqlite.firstRow prepareFailed f rows).map g) ↔ f.SilentUpTo 0 := by
  rw [Reports, Outcome.failsClosed_map, Sqlite.firstRow_failsClosed_iff]
  refine ⟨And.left, fun h => ⟨h, ?_⟩⟩
  rw [Outcome.doneBefore_map]
  intro r hr hend
  exact Sqlite.firstRow_doneBefore h r hr (hends r hend)

theorem reports_lookupRow_iff {κ α : Type} [DecidableEq κ] {t : Table κ α} {k : κ} {f : Faults} :
    Reports (· = none) (Storage.lookupRow t k f) ↔ f.SilentUpTo 0 :=
  ⟨fun h => Sqlite.firstRow_failsClosed_iff.mp h.1,
    fun h => ⟨Sqlite.firstRow_failsClosed_iff.mpr h, Sqlite.firstRow_doneBefore h⟩⟩

/-- Every lookup fails closed exactly when no step it takes fails. -/
theorem lookup_failsClosed_iff (db : Db) (accountName : String) (q : Lookup) (f : Faults) :
    q.FailsClosed db accountName f ↔ f.SilentUpTo (q.lastStep db accountName) := by
  cases q with
  | hasAccount => exact reports_firstRow_iff fun _ h => h.elim
  | identityKeypair identity => exact reports_lookupRow_iff
  | signedPrekey identity => exact reports_lookupRow_iff
  | kyberPrekey identity => exact reports_lookupRow_iff
  | session address => exact reports_lookupRow_iff
  | knownDeviceIds serviceId =>
    show Reports (fun _ => True) (Outcome.map _ _) ↔ _
    rw [Reports, Outcome.failsClosed_map, Sqlite.collectRows_failsClosed_iff]
    refine ⟨And.left, fun h => ⟨h, ?_⟩⟩
    rw [Outcome.doneBefore_map]
    exact Sqlite.collectRows_doneBefore h
  | remoteIdentity address => exact reports_lookupRow_iff
  | resolvedContact e164 => exact reports_lookupRow_iff
  | syncedContact e164 => exact reports_firstRow_iff fun _ h => Option.map_eq_none_iff.mp h
  | syncedContactByAci aci => exact reports_firstRow_iff fun _ h => Option.map_eq_none_iff.mp h
  | findByE164 e164 => exact reports_firstRow_iff fun _ h => Option.map_eq_none_iff.mp h
  | findByAci aci => exact reports_firstRow_iff fun _ h => Option.map_eq_none_iff.mp h

/-! ## The identity store under failures -/

/-- One call of an identity-store callback, with the failures of its statements. -/
inductive IdentityCall
  | getIdentityKey (address : ProtocolAddress) (f : Faults)
  | saveIdentityKey (address : ProtocolAddress) (publicKey : Bytes) (fLoad fSave : Faults)
  | isTrustedIdentity (address : ProtocolAddress) (publicKey : Bytes) (f : Faults)

/-- The database, and what a caller remembers: for each service id the key that
`save_identity_key` last reported as saved. -/
structure IdentityRun where
  db : Db
  lastSaved : String → Option Bytes

/-- Before the first call, the key last saved for a service id is the one in its row. -/
def IdentityRun.init (accountName : String) (db : Db) : IdentityRun :=
  ⟨db, fun serviceId => db.remoteIdentity.lookup (accountName, serviceId)⟩

def IdentityRun.step (accountName : String) (s : IdentityRun) : IdentityCall → IdentityRun
  | .getIdentityKey _ _ => s
  | .saveIdentityKey address publicKey fLoad fSave =>
    match ProtocolStores.saveIdentityKey s.db accountName address publicKey fLoad fSave with
    | none => s
    | some (_, db') => ⟨db', Function.update s.lastSaved address.name (some publicKey)⟩
  | .isTrustedIdentity _ _ _ => s

/-- The call does not report a key as trusted that differs from the one last saved. -/
def IdentityRun.TrustHolds (accountName : String) (s : IdentityRun) : IdentityCall → Prop
  | .isTrustedIdentity address publicKey f =>
    ProtocolStores.isTrustedIdentity s.db accountName address publicKey f = some true →
      ∀ key, s.lastSaved address.name = some key → key = publicKey
  | _ => True

/-- A trust query for a key other than the one last saved reads without a failed step. -/
def IdentityRun.ReadsRivalKeys (s : IdentityRun) : IdentityCall → Prop
  | .isTrustedIdentity address publicKey f =>
    ∀ key, s.lastSaved address.name = some key → key ≠ publicKey → f.SilentUpTo 0
  | _ => True

/-- The caller's memory is the table. -/
def IdentityRun.Agrees (accountName : String) (s : IdentityRun) : Prop :=
  ∀ serviceId, s.lastSaved serviceId = s.db.remoteIdentity.lookup (accountName, serviceId)

theorem IdentityRun.agrees_step {accountName : String} {s : IdentityRun} {c : IdentityCall}
    (h : s.Agrees accountName) : (s.step accountName c).Agrees accountName := by
  cases c with
  | getIdentityKey address f => exact h
  | isTrustedIdentity address publicKey f => exact h
  | saveIdentityKey address publicKey fLoad fSave =>
    simp only [IdentityRun.step]
    split
    · exact h
    · next hsave =>
      intro serviceId
      rw [ProtocolStores.saveIdentityKey_ok hsave]
      by_cases hid : serviceId = address.name
      · subst hid
        simp
      · have hkey : (accountName, serviceId) ≠ (accountName, address.name) := by
          simpa using hid
        show Function.update s.lastSaved address.name (some publicKey) serviceId = _
        rw [Function.update_of_ne hid, AList.lookup_insert_ne hkey]
        exact h serviceId

/-- Trust is reported when the statement ran and its step failed, or found nothing, or found the
same key. -/
theorem isTrusted_true_iff {db : Db} {accountName : String} {address : ProtocolAddress}
    {publicKey : Bytes} {f : Faults} :
    ProtocolStores.isTrustedIdentity db accountName address publicKey f = some true ↔
      f.prepare = none ∧ (f.step 0 = none →
        ∀ key, db.remoteIdentity.lookup (accountName, address.name) = some key → key = publicKey) := by
  rw [ProtocolStores.isTrustedIdentity, guardCallback_eq_some, serviceIdFromAddressKey_addressKey]
  cases hload : (Storage.loadRemoteIdentity db accountName address.name f).value with
  | error x =>
    refine ⟨fun h => (by cases h), fun h => ?_⟩
    have hok : (Storage.loadRemoteIdentity db accountName address.name f).value = .ok _ :=
      Storage.lookupRow_ok_iff.mpr ⟨h.1, rfl⟩
    rw [hok] at hload
    cases hload
  | ok existing =>
    obtain ⟨hprepare, rfl⟩ := Storage.lookupRow_ok_iff.mp hload
    simp only [Except.map, hprepare, true_and, Except.ok.injEq]
    cases f.step 0 with
    | some e => simp
    | none =>
      cases db.remoteIdentity.lookup (accountName, address.name) <;> simp

/-- One query: it is sound exactly when it reads a rival key without a failed step. -/
theorem IdentityRun.trustHolds_iff {accountName : String} {s : IdentityRun} {c : IdentityCall}
    (h : s.Agrees accountName) : s.TrustHolds accountName c ↔ s.ReadsRivalKeys c := by
  cases c with
  | getIdentityKey address f => exact Iff.rfl
  | saveIdentityKey address publicKey fLoad fSave => exact Iff.rfl
  | isTrustedIdentity address publicKey f =>
    simp only [IdentityRun.TrustHolds, IdentityRun.ReadsRivalKeys, isTrusted_true_iff,
      ← h address.name, Faults.SilentUpTo]
    constructor
    · intro htrust key hkey hne hprepare i hi
      obtain rfl : i = 0 := Nat.le_zero.mp hi
      by_contra hstep
      exact hne (htrust ⟨hprepare, fun hnone => absurd hnone hstep⟩ key hkey)
    · rintro hreads ⟨hprepare, hrow⟩ key hkey
      by_contra hne
      exact hne (hrow (hreads key hkey hne hprepare 0 (Nat.le_refl 0)) key hkey)

/-- Reads fail closed exactly where no step of them fails, and trust stays with the key last saved
along exactly the runs in which no query for another key meets a failed step. -/
theorem storage_reads_failClosed_iff (accountName : String) :
    (∀ (db : Db) (q : Lookup) (f : Faults),
      q.FailsClosed db accountName f ↔ f.SilentUpTo (q.lastStep db accountName)) ∧
    (∀ (db : Db) (calls : List IdentityCall),
      Along (IdentityRun.step accountName) (IdentityRun.TrustHolds accountName)
          (.init accountName db) calls ↔
        Along (IdentityRun.step accountName) IdentityRun.ReadsRivalKeys
          (.init accountName db) calls) := by
  refine ⟨fun db q f => lookup_failsClosed_iff db accountName q f, fun db calls => ?_⟩
  exact Runs.along_congr (fun s c hs _ => IdentityRun.agrees_step hs)
    (fun s c hs => IdentityRun.trustHolds_iff hs) (fun _ => rfl)

/-! ## Lock contention read as missing data -/

/-- A database with one account that has met one peer. -/
def contendedDb : Db where
  account := AList.insert "line1" { e164 := "+380000000001", aci := "a", pni := "p", password := "w" } ∅
  remoteIdentity := AList.insert ("line1", "peer") [5, 1] ∅

/-- A statement whose first step finds the file locked. -/
def contended : Faults where
  step := fun i => if i = 0 then some ⟨.busy, "database is locked"⟩ else none

/-- Under one `SQLITE_BUSY`, `hasAccount` reports an existing account as absent and
`is_trusted_identity` trusts a key that is not the one saved. -/
theorem busy_reads_as_absent :
    ¬ Lookup.FailsClosed contendedDb "line1" contended .hasAccount ∧
    ¬ Along (IdentityRun.step "line1") (IdentityRun.TrustHolds "line1") (.init "line1" contendedDb)
      [.isTrustedIdentity ⟨"peer", 1⟩ [5, 2] contended] := by
  constructor
  · intro h
    exact h.1 false rfl ⟨.busy, "database is locked"⟩ (by decide)
  · intro h
    exact absurd (h.1 (by decide) [5, 1] (by decide)) (by decide)

end Signal2sip
