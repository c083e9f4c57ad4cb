import Signal2sip.Lib.Run
import Signal2sip.Signal.ProtocolStores
import Mathlib.Data.List.Induction

/-!
# Sessions and trust on first use

What the session and identity callbacks are for: a store that maps each address, a name with a
device id, to the session record stored for it last, and each name to the identity key saved for it
last (`TrustStore`). The callbacks refine it as long as storage succeeds (`Callback.call_refines`),
so every answer is a matter of the history of calls alone.

The rows behind it are keyed by text. That the composed key `name.device` determines both parts, for
any name, keeps sessions apart; that the split at its last dot gives the name back makes the devices
of a name share an identity, and no two names.

`save_identity_key` compares with the key it replaces. A key that comes back after another one was
saved is reported as a replacement, and saved once more as unchanged, whatever had been saved before
(`trustStore_saved_again`).
-/

namespace Signal2sip

open Sqlite (Faults)

/-- A call of one of the five callbacks, with the failures of its statements. -/
inductive Callback
  | storeSession (address : ProtocolAddress) (record : Bytes) (f : Faults)
  | loadSession (address : ProtocolAddress) (f : Faults)
  | saveIdentityKey (address : ProtocolAddress) (publicKey : Bytes) (fLoad fSave : Faults)
  | getIdentityKey (address : ProtocolAddress) (f : Faults)
  | isTrustedIdentity (address : ProtocolAddress) (publicKey : Bytes) (f : Faults)

/-- What a callback writes through its out parameter. -/
inductive CallbackAnswer
  | stored
  | session (record : Option Bytes)
  | saved (replacedExisting : Bool)
  | identityKey (publicKey : Option Bytes)
  | trusted (result : Bool)
deriving DecidableEq, Repr

/-- A statement during which nothing fails. -/
def Silent (f : Faults) : Prop := f.prepare = none ∧ f.step 0 = none

namespace Callback

/-- Storage succeeds in the call. -/
def Succeeds : Callback → Prop
  | .storeSession _ _ f => Silent f
  | .loadSession _ f => Silent f
  | .saveIdentityKey _ _ fLoad fSave => Silent fLoad ∧ Silent fSave
  | .getIdentityKey _ f => Silent f
  | .isTrustedIdentity _ _ f => Silent f

/-- The callback: its answer and the file it leaves, or result code -1. -/
def call (accountName : String) (db : Db) : Callback → Option (CallbackAnswer × Db)
  | .storeSession address record f =>
    (ProtocolStores.storeSession db accountName address record f).map fun db' => (.stored, db')
  | .loadSession address f =>
    (ProtocolStores.loadSession db accountName address f).map fun record => (.session record, db)
  | .saveIdentityKey address publicKey fLoad fSave =>
    (ProtocolStores.saveIdentityKey db accountName address publicKey fLoad fSave).map
      fun (replaced, db') => (.saved replaced, db')
  | .getIdentityKey address f =>
    (ProtocolStores.getIdentityKey db accountName address f).map fun key => (.identityKey key, db)
  | .isTrustedIdentity address publicKey f =>
    (ProtocolStores.isTrustedIdentity db accountName address publicKey f).map
      fun result => (.trusted result, db)

/-- The file after a callback; one that fails has written nothing. -/
def after (accountName : String) (db : Db) (c : Callback) : Db :=
  ((c.call accountName db).map Prod.snd).getD db

end Callback

/-! ## The abstract store -/

/-- The last record stored for each address and the last key saved for each name. -/
structure TrustStore where
  sessions : ProtocolAddress → Option Bytes
  identities : String → Option Bytes

namespace TrustStore

def empty : TrustStore := ⟨fun _ => none, fun _ => none⟩

/-- Trust on first use: nothing saved, or the same key. -/
def apply (s : TrustStore) : Callback → CallbackAnswer × TrustStore
  | .storeSession address record _ =>
    (.stored, { s with sessions := Function.update s.sessions address (some record) })
  | .loadSession address _ => (.session (s.sessions address), s)
  | .saveIdentityKey address publicKey _ _ =>
    (.saved ((s.identities address.name).any (· ≠ publicKey)),
      { s with identities := Function.update s.identities address.name (some publicKey) })
  | .getIdentityKey address _ => (.identityKey (s.identities address.name), s)
  | .isTrustedIdentity address publicKey _ =>
    (.trusted ((s.identities address.name).all (· = publicKey)), s)

/-- What the rows of an account say. -/
def ofRows (accountName : String) (db : Db) : TrustStore where
  sessions address := db.session.lookup (accountName, addressKey address)
  identities name := db.remoteIdentity.lookup (accountName, name)

end TrustStore

/-! ## The callbacks refine it -/

section Refinement

variable {accountName : String} {db : Db}

theorem loadSession_silent {f : Faults} (hf : Silent f) (address : ProtocolAddress) :
    ProtocolStores.loadSession db accountName address f =
      some ((TrustStore.ofRows accountName db).sessions address) :=
  guardCallback_eq_some.mpr (Storage.lookupRow_ok_iff.mpr ⟨hf.1, (if_pos hf.2).symm⟩)

/-- A read of the remote identity of a name. -/
theorem loadRemoteIdentity_silent {f : Faults} (hf : Silent f) (address : ProtocolAddress) :
    (Storage.loadRemoteIdentity db accountName (serviceIdFromAddressKey (addressKey address))
      f).value = .ok ((TrustStore.ofRows accountName db).identities address.name) := by
  rw [serviceIdFromAddressKey_addressKey]
  exact Storage.lookupRow_ok_iff.mpr ⟨hf.1, (if_pos hf.2).symm⟩

/-- An upsert of the account meets no constraint once the account has a row. -/
theorem upsert_silent {κ α : Type} [DecidableEq κ] {f : Faults} (hf : Silent f)
    (hrow : accountName ∈ db.account) (failed : Sqlite.Error → RuntimeError) (t : Table κ α) (k : κ)
    (v : α) (g : Table κ α → Db) :
    (Sqlite.execute prepareFailed failed f ((upsert db accountName t k v).map g)).value =
      .ok (g (t.insert k v)) := by
  refine Sqlite.execute_ok_iff.mpr ⟨hf.1, hf.2, ?_⟩
  rw [upsert, if_pos (Or.inr hrow)]
  rfl

/-- Writing one session row updates the store at that address only. -/
theorem ofRows_session_insert (address : ProtocolAddress) (record : Bytes) :
    TrustStore.ofRows accountName
        { db with session := db.session.insert (accountName, addressKey address) record } =
      { TrustStore.ofRows accountName db with
        sessions := Function.update (TrustStore.ofRows accountName db).sessions address
          (some record) } := by
  simp only [TrustStore.ofRows, TrustStore.mk.injEq, and_true]
  funext other
  by_cases h : other = address
  · subst h
    rw [AList.lookup_insert, Function.update_self]
  · have hkey : (accountName, addressKey other) ≠ (accountName, addressKey address) := fun heq =>
      h (addressKey_injective (Prod.mk.inj heq).2)
    rw [AList.lookup_insert_ne hkey, Function.update_of_ne h]

/-- Writing one identity row updates the store at that name only. -/
theorem ofRows_identity_insert (name : String) (publicKey : Bytes) :
    TrustStore.ofRows accountName
        { db with remoteIdentity := db.remoteIdentity.insert (accountName, name) publicKey } =
      { TrustStore.ofRows accountName db with
        identities := Function.update (TrustStore.ofRows accountName db).identities name
          (some publicKey) } := by
  simp only [TrustStore.ofRows, TrustStore.mk.injEq, true_and]
  funext other
  by_cases h : other = name
  · subst h
    rw [AList.lookup_insert, Function.update_self]
  · have hkey : (accountName, other) ≠ (accountName, name) := fun heq => h (Prod.mk.inj heq).2
    rw [AList.lookup_insert_ne hkey, Function.update_of_ne h]

theorem getIdentityKey_silent {f : Faults} (hf : Silent f) (address : ProtocolAddress) :
    ProtocolStores.getIdentityKey db accountName address f =
      some ((TrustStore.ofRows accountName db).identities address.name) :=
  guardCallback_eq_some.mpr (loadRemoteIdentity_silent hf address)

theorem isTrustedIdentity_silent {f : Faults} (hf : Silent f) (address : ProtocolAddress)
    (publicKey : Bytes) :
    ProtocolStores.isTrustedIdentity db accountName address publicKey f =
      some (((TrustStore.ofRows accountName db).identities address.name).all (· = publicKey)) := by
  rw [ProtocolStores.isTrustedIdentity, guardCallback_eq_some]
  simp only [loadRemoteIdentity_silent hf]
  rfl

theorem storeSession_silent {f : Faults} (hf : Silent f) (hrow : accountName ∈ db.account)
    (address : ProtocolAddress) (record : Bytes) :
    ProtocolStores.storeSession db accountName address record f =
      some { db with session := db.session.insert (accountName, addressKey address) record } :=
  guardCallback_eq_some.mpr (upsert_silent hf hrow _ _ _ _ _)

theorem saveIdentityKey_silent {fLoad fSave : Faults} (hLoad : Silent fLoad) (hSave : Silent fSave)
    (hrow : accountName ∈ db.account) (address : ProtocolAddress) (publicKey : Bytes) :
    ProtocolStores.saveIdentityKey db accountName address publicKey fLoad fSave =
      some (((TrustStore.ofRows accountName db).identities address.name).any (· ≠ publicKey),
        { db with
          remoteIdentity := db.remoteIdentity.insert (accountName, address.name) publicKey }) := by
  have hsave : (Storage.saveRemoteIdentity db accountName
      (serviceIdFromAddressKey (addressKey address)) publicKey fSave).value = .ok { db with
        remoteIdentity := db.remoteIdentity.insert (accountName, address.name) publicKey } := by
    rw [serviceIdFromAddressKey_addressKey]
    exact upsert_silent hSave hrow _ _ _ _ _
  rw [ProtocolStores.saveIdentityKey, guardCallback_eq_some]
  simp only [loadRemoteIdentity_silent hLoad, hsave]
  rfl

/-- A callback answers as the store does, and leaves rows that say what the store says then. -/
theorem Callback.call_refines (hrow : accountName ∈ db.account) {c : Callback} (hc : c.Succeeds) :
    ∃ db', c.call accountName db = some (((TrustStore.ofRows accountName db).apply c).1, db') ∧
      TrustStore.ofRows accountName db' = ((TrustStore.ofRows accountName db).apply c).2 ∧
      accountName ∈ db'.account := by
  cases c with
  | storeSession address record f =>
    refine ⟨{ db with session := db.session.insert (accountName, addressKey address) record }, ?_,
      ofRows_session_insert address record, hrow⟩
    rw [Callback.call, storeSession_silent hc hrow]
    rfl
  | loadSession address f =>
    refine ⟨db, ?_, rfl, hrow⟩
    rw [Callback.call, loadSession_silent hc]
    rfl
  | saveIdentityKey address publicKey fLoad fSave =>
    refine ⟨{ db with
      remoteIdentity := db.remoteIdentity.insert (accountName, address.name) publicKey }, ?_,
      ofRows_identity_insert address.name publicKey, hrow⟩
    rw [Callback.call, saveIdentityKey_silent hc.1 hc.2 hrow]
    rfl
  | getIdentityKey address f =>
    refine ⟨db, ?_, rfl, hrow⟩
    rw [Callback.call, getIdentityKey_silent hc]
    rfl
  | isTrustedIdentity address publicKey f =>
    refine ⟨db, ?_, rfl, hrow⟩
    rw [Callback.call, isTrustedIdentity_silent hc]
    rfl

end Refinement

/-! ## Histories -/

namespace Callback

/-- The file after a sequence of callbacks. -/
def afterAll (accountName : String) (db : Db) (calls : List Callback) : Db :=
  Runs.final (after accountName) db calls

/-- The records stored for an address, in order. -/
def recordsFor (address : ProtocolAddress) (calls : List Callback) : List Bytes :=
  calls.filterMap fun
    | .storeSession address' record _ => if address' = address then some record else none
    | _ => none

/-- The keys saved for a name, from any of its devices, in order. -/
def keysFor (name : String) (calls : List Callback) : List Bytes :=
  calls.filterMap fun
    | .saveIdentityKey address publicKey _ _ => if address.name = name then some publicKey else none
    | _ => none

/-- The store that a history of calls makes of an empty one. -/
def storeOf (calls : List Callback) : TrustStore where
  sessions address := (recordsFor address calls).getLast?
  identities name := (keysFor name calls).getLast?

/-- One more call updates the store as the callback does. -/
theorem storeOf_append_singleton (calls : List Callback) (c : Callback) :
    storeOf (calls ++ [c]) = ((storeOf calls).apply c).2 := by
  cases c with
  | storeSession address record f =>
    simp only [storeOf, TrustStore.apply, TrustStore.mk.injEq]
    constructor
    · funext other
      rw [recordsFor, List.filterMap_append]
      by_cases h : address = other
      · subst h
        simp [Function.update_self]
      · simp [recordsFor, h, Function.update_of_ne fun heq => h heq.symm]
    · funext name
      simp [keysFor]
  | saveIdentityKey address publicKey fLoad fSave =>
    simp only [storeOf, TrustStore.apply, TrustStore.mk.injEq]
    constructor
    · funext other
      simp [recordsFor]
    · funext name
      rw [keysFor, List.filterMap_append]
      by_cases h : address.name = name
      · subst h
        simp [Function.update_self]
      · simp [keysFor, h, Function.update_of_ne fun heq => h heq.symm]
  | _ => simp [storeOf, TrustStore.apply, recordsFor, keysFor]

/-- After any calls with storage succeeding, the rows say what the history says. -/
theorem ofRows_afterAll {accountName : String} {db : Db}
    (hempty : TrustStore.ofRows accountName db = .empty) (hrow : accountName ∈ db.account)
    {calls : List Callback} (hcalls : ∀ c ∈ calls, c.Succeeds) :
    TrustStore.ofRows accountName (afterAll accountName db calls) = storeOf calls ∧
      accountName ∈ (afterAll accountName db calls).account := by
  induction calls using List.reverseRecOn with
  | nil => exact ⟨hempty, hrow⟩
  | append_singleton calls c ih =>
    obtain ⟨hstore, hacc⟩ := ih fun c' hc' => hcalls c' (List.mem_append_left [c] hc')
    obtain ⟨db', hcall, hrows, hacc'⟩ :=
      call_refines hacc (hcalls c (List.mem_append_right calls (List.mem_singleton_self c)))
    have hafter : afterAll accountName db (calls ++ [c]) = db' := by
      rw [afterAll, Runs.final_append]
      show after accountName (afterAll accountName db calls) c = db'
      rw [after, hcall]
      rfl
    rw [hafter, storeOf_append_singleton, ← hstore]
    exact ⟨hrows, hacc'⟩

end Callback

open Callback in
/-- After any sequence of the five callbacks on an account that has a row and started with neither
sessions nor identities, storage succeeding in each: `load_session` returns the last record stored
for the address; `is_trusted_identity` is true exactly when no key was saved for the name or the last
one is the candidate; `save_identity_key` reports a replacement exactly when the last key saved for
the name is a different one, and then the key is that of every device of the name, and of no other
name. -/
theorem trustStore_history {accountName : String} {db : Db}
    (hempty : TrustStore.ofRows accountName db = .empty) (hrow : accountName ∈ db.account)
    {calls : List Callback} (hcalls : ∀ c ∈ calls, c.Succeeds) :
    (∀ address f, Silent f →
      ProtocolStores.loadSession (afterAll accountName db calls) accountName address f =
        some (recordsFor address calls).getLast?) ∧
    (∀ address f, Silent f →
      ProtocolStores.getIdentityKey (afterAll accountName db calls) accountName address f =
        some (keysFor address.name calls).getLast?) ∧
    (∀ address candidate f, Silent f → ∃ result,
      ProtocolStores.isTrustedIdentity (afterAll accountName db calls) accountName address candidate
          f = some result ∧
        (result = true ↔ keysFor address.name calls = [] ∨
          (keysFor address.name calls).getLast? = some candidate)) ∧
    ∀ address publicKey fLoad fSave, Silent fLoad → Silent fSave → ∃ replaced db',
      ProtocolStores.saveIdentityKey (afterAll accountName db calls) accountName address publicKey
          fLoad fSave = some (replaced, db') ∧
        (replaced = true ↔ ∃ last, (keysFor address.name calls).getLast? = some last ∧
          last ≠ publicKey) ∧
        ∀ other f, Silent f → ProtocolStores.getIdentityKey db' accountName other f =
          some (if other.name = address.name then some publicKey
            else (keysFor other.name calls).getLast?) := by
  obtain ⟨hstore, hacc⟩ := ofRows_afterAll hempty hrow hcalls
  refine ⟨fun address f hf => ?_, fun address f hf => ?_, fun address candidate f hf => ?_,
    fun address publicKey fLoad fSave hLoad hSave => ?_⟩
  · rw [loadSession_silent hf, hstore]
    rfl
  · rw [getIdentityKey_silent hf, hstore]
    rfl
  · refine ⟨_, isTrustedIdentity_silent hf address candidate, ?_⟩
    simp only [hstore, storeOf, ← List.getLast?_eq_none_iff]
    cases (keysFor address.name calls).getLast? <;> simp
  · refine ⟨_, _, saveIdentityKey_silent hLoad hSave hacc address publicKey, ?_,
      fun other f hf => ?_⟩
    · simp only [hstore, storeOf]
      cases (keysFor address.name calls).getLast? <;> simp
    · rw [getIdentityKey_silent hf, ofRows_identity_insert, hstore]
      by_cases h : other.name = address.name
      · simp only [h, Function.update_self, if_pos]
      · simp only [Function.update_of_ne h, if_neg h]
        rfl

/-- A file with one account that has met nobody. -/
def freshAccountDb : Db where
  account := AList.insert "line1" { e164 := "+3800", aci := "a", pni := "p", password := "w" } ∅

/-- Two devices of a name with dots, and a name that looks like an address of another. -/
def dottedCalls : List Callback :=
  [.storeSession ⟨"a.b", 1⟩ [1] .quiet, .storeSession ⟨"a", 1⟩ [2] .quiet,
    .saveIdentityKey ⟨"a.b", 1⟩ [5, 1] .quiet .quiet,
    .saveIdentityKey ⟨"a.b", 2⟩ [5, 2] .quiet .quiet]

theorem trustStore_history_dotted :
    ProtocolStores.loadSession (Callback.afterAll "line1" freshAccountDb dottedCalls) "line1"
        ⟨"a.b", 1⟩ .quiet = some (some [1]) ∧
      ProtocolStores.getIdentityKey (Callback.afterAll "line1" freshAccountDb dottedCalls) "line1"
        ⟨"a.b", 7⟩ .quiet = some (some [5, 2]) :=
  have hcalls : ∀ c ∈ dottedCalls, c.Succeeds := by
    simp [dottedCalls, Callback.Succeeds, Silent, Faults.quiet]
  have h := trustStore_history (rfl : TrustStore.ofRows "line1" freshAccountDb = .empty) (by decide)
    hcalls
  ⟨h.1 ⟨"a.b", 1⟩ .quiet ⟨rfl, rfl⟩, h.2.1 ⟨"a.b", 7⟩ .quiet ⟨rfl, rfl⟩⟩

/-- Replacement is not a matter of all keys saved before: after two keys, the second one saved again
is reported as unchanged. -/
theorem trustStore_saved_again :
    ¬ ∀ (calls : List Callback), (∀ c ∈ calls, c.Succeeds) → ∀ address publicKey replaced db',
      ProtocolStores.saveIdentityKey (Callback.afterAll "line1" freshAccountDb calls) "line1" address
          publicKey .quiet .quiet = some (replaced, db') →
        (replaced = true ↔ ∃ before ∈ Callback.keysFor address.name calls, before ≠ publicKey) := by
  intro h
  let calls : List Callback :=
    [.saveIdentityKey ⟨"peer", 1⟩ [5, 1] .quiet .quiet,
      .saveIdentityKey ⟨"peer", 1⟩ [5, 2] .quiet .quiet]
  have hcalls : ∀ c ∈ calls, c.Succeeds := by
    simp [calls, Callback.Succeeds, Silent, Faults.quiet]
  obtain ⟨hstore, hacc⟩ := Callback.ofRows_afterAll
    (rfl : TrustStore.ofRows "line1" freshAccountDb = .empty) (by decide) hcalls
  have hquiet : Silent .quiet := ⟨rfl, rfl⟩
  have hsaved := saveIdentityKey_silent hquiet hquiet hacc ⟨"peer", 1⟩ [5, 2]
  rw [hstore] at hsaved
  have hreports := (h calls hcalls ⟨"peer", 1⟩ [5, 2] _ _ hsaved).mpr ⟨[5, 1], by decide, by decide⟩
  exact absurd hreports (by decide)

end Signal2sip
