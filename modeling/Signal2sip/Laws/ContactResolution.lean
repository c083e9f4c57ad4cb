import Signal2sip.Daemon.ContactResolver
import Signal2sip.Laws.SyncedContactEffect

/-!
# The cache of directory lookups agrees with the directory

`resolveOutgoingTarget` has three sources for a number. What it answers must not depend on which of them
it takes, as long as they are about the same lookup.

- `contactResolution`: after a lookup that got a reply, every call for the number within the time to
  live answers as the lookup did and asks nobody, over every history of the daemon in which no sync
  writes the number. A synced ACI wins over the other two, a PNI is always marked and an ACI never is,
  and without a reply nothing is cached;
- `resolvedBy`: what a call can do, one case for each source.

The histories are the daemon's. It makes every call of `Storage` but two: a lookup is saved by
`resolveOutgoingTarget` alone, and an account is removed only by `gendb`. Other accounts may do
anything.
-/

namespace Signal2sip

open Sqlite (Faults)

variable {db : Db} {accountName target : String} {ttlSec : UInt32}

/-! ## What a call can do -/

/-- The first result of the lookup, when the token request and the lookup give one. -/
def ResolveCall.reply (call : ResolveCall) (target : String) : Option CdsiLookupResult :=
  match call.request with
  | .error _ => none
  | .ok authResponse =>
    if authResponse.status ≠ 200 then none
    else
      match call.parseToken authResponse.body with
      | .error _ => none
      | .ok (username, password) =>
        match call.cdsiLookup username password [target] with
        | .error _ => none
        | .ok results => results.head?

/-- The file after a lookup has been saved. -/
def withResolvedContact (db : Db) (accountName e164 : String) (contact : ResolvedContactRecord) : Db :=
  { db with resolvedContact := db.resolvedContact.insert (accountName, e164) contact }

/-- What was saved is in the file. -/
theorem saveResolvedContact_ok {e164 aci pni : String} {now : Int} {f : Faults} {db' : Db}
    (h : (Storage.saveResolvedContact db accountName e164 aci pni now f).value = .ok db') :
    db' = withResolvedContact db accountName e164 ⟨aci, pni, now⟩ := by
  obtain ⟨t, ht, rfl⟩ := execute_map_ok h
  rw [upsert_ok ht]
  rfl

/-- What the slow path does with a reply, and without one. -/
inductive LookedUp (db : Db) (accountName target : String) (call : ResolveCall) : ResolveOutcome → Prop
  | noReply (requests : List NetworkRequest) (e : RuntimeError) (hreply : call.reply target = none) :
    LookedUp db accountName target call ⟨db, .directoryAuth :: requests, .error e⟩
  | notSaved (requests : List NetworkRequest) (e : RuntimeError) (reply : CdsiLookupResult)
      (hreply : call.reply target = some reply)
      (hsave : (Storage.saveResolvedContact db accountName target reply.aci reply.pni call.savedAt
        call.save).value = .error e) :
    LookedUp db accountName target call ⟨db, .directoryAuth :: requests, .error e⟩
  | saved (requests : List NetworkRequest) (reply : CdsiLookupResult) (e : RuntimeError)
      (hreply : call.reply target = some reply) :
    LookedUp db accountName target call
      ⟨withResolvedContact db accountName target ⟨reply.aci, reply.pni, call.savedAt⟩,
        .directoryAuth :: requests, serviceIdOr reply.aci reply.pni e⟩

theorem lookedUp (db : Db) (accountName target : String) (call : ResolveCall) :
    LookedUp db accountName target call (lookUpTarget db accountName target call) := by
  unfold lookUpTarget
  cases hrequest : call.request with
  | error e => exact .noReply [] e (by rw [ResolveCall.reply, hrequest])
  | ok authResponse =>
    by_cases hstatus : authResponse.status = 200
    · simp only [hstatus, ne_eq, not_true_eq_false, if_false]
      cases htoken : call.parseToken authResponse.body with
      | error e => exact .noReply [] e (by simp [ResolveCall.reply, hrequest, hstatus, htoken])
      | ok token =>
        obtain ⟨username, password⟩ := token
        have hreply : call.reply target =
            match call.cdsiLookup username password [target] with
            | .error _ => none
            | .ok results => results.head? := by
          simp [ResolveCall.reply, hrequest, hstatus, htoken]
        cases hlookup : call.cdsiLookup username password [target] with
        | error e =>
          simp only [hlookup]
          exact .noReply _ e (by rw [hreply, hlookup])
        | ok results =>
          cases results with
          | nil =>
            simp only [hlookup]
            exact .noReply _ _ (by rw [hreply, hlookup]; rfl)
          | cons result rest =>
            have hresult : call.reply target = some result := by rw [hreply, hlookup]; rfl
            simp only [hlookup]
            cases hsave : (Storage.saveResolvedContact db accountName target result.aci result.pni
                call.savedAt call.save).value with
            | error e => exact .notSaved _ e result hresult hsave
            | ok db' =>
              rw [saveResolvedContact_ok hsave]
              exact .saved _ result _ hresult
    · simp only [ne_eq, hstatus, not_false_eq_true, if_true]
      exact .noReply [] _ (by simp [ResolveCall.reply, hrequest, hstatus])

/-- What a call does: one case for each source, and one for a statement that cannot be prepared. -/
inductive ResolvedBy (db : Db) (accountName target : String) (ttlSec : UInt32) (call : ResolveCall) :
    ResolveOutcome → Prop
  | serviceId (htarget : target.toList.head? ≠ some '+') :
    ResolvedBy db accountName target ttlSec call ⟨db, [], .ok target⟩
  | unreadable (e : RuntimeError) :
    ResolvedBy db accountName target ttlSec call ⟨db, [], .error e⟩
  | synced (contact : SyncedContactRecord)
      (hload : (Storage.loadSyncedContact db accountName target call.loadSynced).value =
        .ok (some contact))
      (haci : contact.aci ≠ "") :
    ResolvedBy db accountName target ttlSec call ⟨db, [], .ok contact.aci⟩
  | cached (contact : ResolvedContactRecord) (e : RuntimeError)
      (hload : (Storage.loadResolvedContact db accountName target call.loadResolved).value =
        .ok (some contact))
      (hyoung : youngEnough ttlSec call.checkedAt contact = true) :
    ResolvedBy db accountName target ttlSec call ⟨db, [], serviceIdOr contact.aci contact.pni e⟩
  | directory (htarget : target.toList.head? = some '+') (synced : Option SyncedContactRecord)
      (hsynced : (Storage.loadSyncedContact db accountName target call.loadSynced).value = .ok synced)
      (hnone : ∀ contact, synced = some contact → contact.aci = "")
      (cached : Option ResolvedContactRecord)
      (hcached : (Storage.loadResolvedContact db accountName target call.loadResolved).value =
        .ok cached)
      (hold : ∀ contact, cached = some contact → youngEnough ttlSec call.checkedAt contact = false) :
    ResolvedBy db accountName target ttlSec call (lookUpTarget db accountName target call)

theorem resolvedBy (db : Db) (accountName target : String) (ttlSec : UInt32) (call : ResolveCall) :
    ResolvedBy db accountName target ttlSec call
      (resolveOutgoingTarget db accountName target ttlSec call) := by
  unfold resolveOutgoingTarget
  split
  · next htarget => exact .serviceId htarget
  · next htarget =>
    split
    · next e _ => exact .unreadable e
    · next synced hsynced =>
      split
      · next contact hcontact =>
        obtain ⟨rfl, haci⟩ := Option.filter_eq_some_iff.mp hcontact
        exact .synced contact hsynced (of_decide_eq_true haci)
      · next hnone =>
        split
        · next e _ => exact .unreadable e
        · next cached hcached =>
          split
          · next contact hcontact =>
            obtain ⟨rfl, hyoung⟩ := Option.filter_eq_some_iff.mp hcontact
            exact .cached contact _ hcached hyoung
          · next hold =>
            refine .directory (not_not.mp htarget) synced hsynced ?_ cached hcached ?_
            · rintro contact rfl
              simpa using Option.filter_eq_none_iff.mp hnone contact rfl
            · rintro contact rfl
              simpa using Option.filter_eq_none_iff.mp hold contact rfl

/-! ## Histories of the daemon -/

/-- Something that happens to the file: a resolution, or a call of `Storage` that is made for anything
else. -/
inductive StorageEvent
  | resolve (accountName target : String) (call : ResolveCall)
  | storage (accountName : String) (c : StorageCall)

/-- The file after an event; all resolutions have the configured time to live. -/
def StorageEvent.step (ttlSec : UInt32) (db : Db) : StorageEvent → Db
  | .resolve accountName target call => (resolveOutgoingTarget db accountName target ttlSec call).db
  | .storage accountName c => (StorageCall.step db (accountName, c)).1

/-- The readings of the clock that an event makes, in their order. -/
def StorageEvent.readings : StorageEvent → List Int
  | .resolve _ _ call => [call.checkedAt, call.savedAt]
  | .storage _ (.saveResolvedContact _ _ _ now _) => [now]
  | .storage _ (.saveSyncedContact _ _ _ _ _ _ now _ _ _) => [now]
  | .storage _ _ => []

/-- A call that the daemon makes for an account of its own, other than by `resolveOutgoingTarget`. -/
def StorageCall.MadeByDaemon : StorageCall → Prop
  | .saveResolvedContact .. => False
  | .deleteAccount .. => False
  | _ => True

/-- No statement of the call fails. -/
structure ResolveCall.Quiet (call : ResolveCall) : Prop where
  loadSynced : call.loadSynced = .quiet
  loadResolved : call.loadResolved = .quiet
  save : call.save = .quiet

/-- What may happen between a lookup of a number and a later call for it: the clock does not go back,
the storage calls of resolutions of the number succeed, the account's other calls are the daemon's, and
no sync writes the number. -/
structure Between (accountName target : String) (first : ResolveCall) (events : List StorageEvent)
    (later : ResolveCall) : Prop where
  clock : (first.savedAt :: (events.flatMap StorageEvent.readings ++ [later.checkedAt])).Pairwise (· ≤ ·)
  quiet : ∀ call, .resolve accountName target call ∈ events → call.Quiet
  made : ∀ c, .storage accountName c ∈ events → c.MadeByDaemon
  noSync : ∀ c contact, .storage accountName c ∈ events → c.contact = some contact →
    contact.e164 ≠ target

/-- One outcome is a string and the other the same string, or both are exceptions. -/
def SameOrThrows (x y : Except RuntimeError String) : Prop :=
  (∃ s, x = .ok s ∧ y = .ok s) ∨ (∃ e, x = .error e) ∧ ∃ e, y = .error e

/-- The exception's text is all that the sources differ in. -/
theorem sameOrThrows_serviceIdOr (aci pni : String) (e e' : RuntimeError) :
    SameOrThrows (serviceIdOr aci pni e) (serviceIdOr aci pni e') := by
  unfold serviceIdOr
  split
  · exact Or.inl ⟨aci, rfl, rfl⟩
  · split
    · exact Or.inl ⟨"PNI:" ++ pni, rfl, rfl⟩
    · exact Or.inr ⟨⟨e, rfl⟩, e', rfl⟩

/-! ## What a lookup leaves -/

/-- The lookup is cached, and no synced contact takes its place. -/
structure Cached (db : Db) (accountName target : String) (contact : ResolvedContactRecord) : Prop where
  sound : db.ContactsSound
  resolved : db.resolvedContact.lookup (accountName, target) = some contact
  noAci : ∀ c ∈ contactsOf accountName db, c.e164 = target → c.aci = ""

/-- A synced contact is found by its number when no other contact of the account has it. -/
theorem noAci_of_loadSynced (hsound : db.ContactsSound) (htarget : target ≠ "")
    {synced : Option SyncedContactRecord}
    (hload : (Storage.loadSyncedContact db accountName target .quiet).value = .ok synced)
    (hnone : ∀ contact, synced = some contact → contact.aci = "") :
    ∀ c ∈ contactsOf accountName db, c.e164 = target → c.aci = "" := by
  intro c hc he164
  obtain ⟨row, hrow, rfl⟩ := List.mem_map.mp hc
  obtain ⟨hmem, hown⟩ := List.mem_filter.mp hrow
  have haccount : row.accountName = accountName := of_decide_eq_true hown
  have hhead := syncedRowsBy_of_mem hsound (·.e164) hmem
    fun s hs hse => ⟨hs.symm, Or.inl ⟨show row.contact.e164 ≠ "" from he164 ▸ htarget, hse.symm⟩⟩
  rw [Storage.loadSyncedContact, Sqlite.Outcome.map_value, Sqlite.firstRow_quiet, ← he164, ← haccount,
    hhead] at hload
  exact hnone _ (Except.ok.inj hload).symm

/-- While the lookup is cached, the account's synced contact for the number has no ACI. -/
theorem Cached.loadSynced {contact : ResolvedContactRecord} (h : Cached db accountName target contact) :
    ∃ synced, (Storage.loadSyncedContact db accountName target .quiet).value = .ok synced ∧
      synced.filter (·.aci ≠ "") = none := by
  refine ⟨_, by rw [Storage.loadSyncedContact, Sqlite.Outcome.map_value, Sqlite.firstRow_quiet]; rfl, ?_⟩
  rw [head?_syncedRowsBy]
  cases hfind : (ownContactRows accountName db).find? fun r => r.contact.e164 = target with
  | none => rfl
  | some row =>
    have hkey : row.contact.e164 = target := by simpa using List.find?_some hfind
    have hempty : row.contact.aci = "" :=
      h.noAci row.contact (List.mem_map_of_mem (List.mem_of_find?_eq_some hfind)) hkey
    simp [hempty]

/-- A call that finds the lookup cached and young answers from it. -/
theorem Cached.resolve {contact : ResolvedContactRecord} (h : Cached db accountName target contact)
    (htarget : target.toList.head? = some '+') {call : ResolveCall} (hquiet : call.Quiet)
    (hyoung : youngEnough ttlSec call.checkedAt contact = true) :
    ∃ e, resolveOutgoingTarget db accountName target ttlSec call =
      ⟨db, [], serviceIdOr contact.aci contact.pni e⟩ := by
  obtain ⟨synced, hsynced, hnone⟩ := h.loadSynced
  have hcached : (Storage.loadResolvedContact db accountName target .quiet).value =
      .ok (some contact) := by
    refine Storage.lookupRow_ok_iff.mpr ⟨rfl, ?_⟩
    rw [if_pos (show Faults.quiet.step 0 = none from rfl), h.resolved]
  rw [resolveOutgoingTarget, if_neg (not_not.mpr htarget), hquiet.loadSynced, hquiet.loadResolved,
    hsynced, hcached]
  simp only [hnone, Option.filter_some_pos hyoung]
  exact ⟨_, rfl⟩

/-- A lookup that was saved is cached. -/
theorem cached_of_lookup (hsound : db.ContactsSound) {first : ResolveCall} (hquiet : first.Quiet)
    (hlookup : (resolveOutgoingTarget db accountName target ttlSec first).requests ≠ [])
    {reply : CdsiLookupResult} (hreply : first.reply target = some reply)
    (hsave : ∃ db', (Storage.saveResolvedContact db accountName target reply.aci reply.pni
      first.savedAt first.save).value = .ok db') :
    target.toList.head? = some '+' ∧
      Cached (resolveOutgoingTarget db accountName target ttlSec first).db accountName target
        ⟨reply.aci, reply.pni, first.savedAt⟩ ∧
      ∃ e, (resolveOutgoingTarget db accountName target ttlSec first).value =
        serviceIdOr reply.aci reply.pni e := by
  have hby := resolvedBy db accountName target ttlSec first
  generalize resolveOutgoingTarget db accountName target ttlSec first = outcome at hby hlookup ⊢
  cases hby with
  | directory htarget synced hsynced hnone cached hcached hold =>
    refine ⟨htarget, ?_⟩
    have hlooked := lookedUp db accountName target first
    generalize lookUpTarget db accountName target first = outcome at hlooked ⊢
    cases hlooked with
    | noReply requests e hno => rw [hno] at hreply; cases hreply
    | notSaved requests e reply' hreply' hsave' =>
      obtain ⟨db', hsave⟩ := hsave
      rw [hreply'] at hreply
      cases hreply
      rw [hsave'] at hsave
      cases hsave
    | saved requests reply' e hreply' =>
      rw [hreply'] at hreply
      cases hreply
      rw [hquiet.loadSynced] at hsynced
      have hnonempty : target ≠ "" := by
        rintro rfl
        cases htarget
      have hnoAci := noAci_of_loadSynced hsound hnonempty hsynced hnone
      exact ⟨⟨⟨hsound.ids, hsound.range, hsound.next, hsound.keys⟩, AList.lookup_insert _, hnoAci⟩,
        e, rfl⟩
  | _ => exact absurd rfl hlookup

/-! ## What the events keep -/

/-- A call of the account other than a save or a removal leaves the cached lookups. -/
theorem StorageCall.run_resolvedContact {db' : Db} {c : StorageCall} {answer : StorageAnswer}
    (hmade : c.MadeByDaemon) (h : (c.run db accountName).value = .ok (db', answer)) :
    db'.resolvedContact = db.resolvedContact := by
  cases c with
  | saveAccount account f =>
    obtain ⟨-, -, heffect⟩ := Sqlite.execute_ok_iff.mp (wrote_ok h)
    cases heffect
    rfl
  | saveAccountConfig account f =>
    obtain ⟨-, rfl⟩ := Storage.saveAccountConfig_ok (wrote_ok h)
    rfl
  | saveIdentityKeypair identity keypair f => obtain ⟨t, -, rfl⟩ := execute_map_ok (wrote_ok h); rfl
  | saveSignedPrekey identity prekey f => obtain ⟨t, -, rfl⟩ := execute_map_ok (wrote_ok h); rfl
  | saveKyberPrekey identity prekey f => obtain ⟨t, -, rfl⟩ := execute_map_ok (wrote_ok h); rfl
  | saveSession address record f => obtain ⟨t, -, rfl⟩ := execute_map_ok (wrote_ok h); rfl
  | saveRemoteIdentity address publicKey f => obtain ⟨t, -, rfl⟩ := execute_map_ok (wrote_ok h); rfl
  | saveResolvedContact e164 aci pni now f => exact absurd hmade id
  | saveSyncedContact e164 aci pni profileKey givenName familyName now fE164 fAci fWrite =>
    cases saveSyncedContact_ok (wrote_ok h) with
    | updated row hrow haccepted hdb => rw [hdb]; rfl
    | added haccepted hdb => rw [hdb]; rfl
  | deleteAccount beginFault f commitFault => exact absurd hmade id
  | _ => rw [read_ok h]

/-- A contact of the account after a call was there before, or is the one that the call wrote. -/
theorem StorageCall.run_contactsOf {db' : Db} {c : StorageCall} {answer : StorageAnswer}
    (h : (c.run db accountName).value = .ok (db', answer)) :
    ∀ contact ∈ contactsOf accountName db',
      contact ∈ contactsOf accountName db ∨ c.contact = some contact := by
  intro contact hcontact
  rcases run_contacts h with ⟨hrows, -⟩ | ⟨record, hrecord, hwritten⟩
  · exact Or.inl (((hrows.filter _).map _).subset hcontact)
  · obtain ⟨row', hrow', rfl⟩ := List.mem_map.mp hcontact
    cases hwritten with
    | updated row hrow haccepted hdb =>
      rw [hdb, ownContactRows_withContactAt] at hrow'
      obtain ⟨s, hs, rfl⟩ := List.mem_map.mp hrow'
      split
      · exact Or.inr hrecord
      · exact Or.inl (List.mem_map_of_mem hs)
    | added haccepted hdb =>
      rw [hdb, ownContactRows, withNewContact, List.filter_append, List.mem_append] at hrow'
      rcases hrow' with hold | hnew
      · exact Or.inl (List.mem_map_of_mem hold)
      · rw [List.mem_singleton.mp (List.mem_filter.mp hnew).1]
        exact Or.inr hrecord

/-- An event that keeps a cached lookup: for the number itself, a resolution that finds it young, and
for the account, a call that does not write the number. -/
def StorageEvent.Keeps (accountName target : String) (ttlSec : UInt32) (contact : ResolvedContactRecord) :
    StorageEvent → Prop
  | .resolve name number call => name = accountName → number = target →
    call.Quiet ∧ youngEnough ttlSec call.checkedAt contact = true
  | .storage name c => name = accountName →
    c.MadeByDaemon ∧ ∀ written, c.contact = some written → written.e164 ≠ target

/-- A resolution of another number, or for another account, leaves the cached lookup. -/
theorem Cached.resolve_other {contact : ResolvedContactRecord}
    (h : Cached db accountName target contact) {name number : String}
    (hother : (name, number) ≠ (accountName, target)) (call : ResolveCall) :
    Cached (resolveOutgoingTarget db name number ttlSec call).db accountName target contact := by
  have hby := resolvedBy db name number ttlSec call
  generalize resolveOutgoingTarget db name number ttlSec call = outcome at hby ⊢
  cases hby with
  | directory htarget synced hsynced hnone cached hcached hold =>
    have hlooked := lookedUp db name number call
    generalize lookUpTarget db name number call = outcome at hlooked ⊢
    cases hlooked with
    | saved requests reply e hreply =>
      refine ⟨⟨h.sound.ids, h.sound.range, h.sound.next, h.sound.keys⟩, ?_, h.noAci⟩
      exact (AList.lookup_insert_ne hother.symm).trans h.resolved
    | _ => exact h
  | _ => exact h

/-- So does a call of another account. -/
theorem Cached.storage_other {contact : ResolvedContactRecord}
    (h : Cached db accountName target contact) {name : String} (hother : name ≠ accountName)
    (c : StorageCall) : Cached (StorageCall.step db (name, c)).1 accountName target contact := by
  have hsound := StorageCall.step_contactsSound h.sound (name, c)
  rcases StorageCall.step_cases db (name, c) with hdb | ⟨answer, hrun⟩
  · rwa [hdb]
  · have hsame := StorageCall.run_frame hother h.sound.contactIds hrun
    refine ⟨hsound, ?_, ?_⟩
    · rw [lookup_eq_rowsOf, hsame.resolvedContact, ← lookup_eq_rowsOf, h.resolved]
    · rw [hsame.syncedContact]
      exact h.noAci

/-- And a call of the account that does not write the number. -/
theorem Cached.storage_own {contact : ResolvedContactRecord} (h : Cached db accountName target contact)
    {c : StorageCall} (hmade : c.MadeByDaemon)
    (hno : ∀ written, c.contact = some written → written.e164 ≠ target) :
    Cached (StorageCall.step db (accountName, c)).1 accountName target contact := by
  have hsound := StorageCall.step_contactsSound h.sound (accountName, c)
  rcases StorageCall.step_cases db (accountName, c) with hdb | ⟨answer, hrun⟩
  · rwa [hdb]
  · refine ⟨hsound, ?_, fun written hwritten he164 => ?_⟩
    · rw [StorageCall.run_resolvedContact hmade hrun, h.resolved]
    · rcases StorageCall.run_contactsOf hrun written hwritten with hbefore | hnew
      · exact h.noAci written hbefore he164
      · exact absurd he164 (hno written hnew)

theorem Cached.step {contact : ResolvedContactRecord} (htarget : target.toList.head? = some '+')
    (h : Cached db accountName target contact) {e : StorageEvent}
    (he : e.Keeps accountName target ttlSec contact) :
    Cached (e.step ttlSec db) accountName target contact := by
  cases e with
  | resolve name number call =>
    by_cases hsame : (name, number) = (accountName, target)
    · obtain ⟨rfl, rfl⟩ := Prod.mk.inj hsame
      obtain ⟨hquiet, hyoung⟩ := he rfl rfl
      obtain ⟨e, hresolve⟩ := h.resolve htarget hquiet hyoung
      rwa [StorageEvent.step, hresolve]
    · exact h.resolve_other hsame call
  | storage name c =>
    by_cases hname : name = accountName
    · subst hname
      obtain ⟨hmade, hno⟩ := he rfl
      exact h.storage_own hmade hno
    · exact h.storage_other hname c

/-- What each event keeps, a history keeps. -/
theorem Cached.run {contact : ResolvedContactRecord} (htarget : target.toList.head? = some '+')
    (h : Cached db accountName target contact) {events : List StorageEvent}
    (hevents : ∀ e ∈ events, e.Keeps accountName target ttlSec contact) :
    Cached (Runs.final (StorageEvent.step ttlSec) db events) accountName target contact := by
  induction events generalizing db with
  | nil => exact h
  | cons e events ih =>
    exact ih (h.step htarget (hevents e List.mem_cons_self))
      fun e' he' => hevents e' (List.mem_cons_of_mem e he')

/-- A history between a lookup and a call that finds it young keeps it: the clock has not gone back, so
every resolution on the way found it young. -/
theorem Between.keeps {first later : ResolveCall} {events : List StorageEvent}
    (h : Between accountName target first events later) {aci pni : String}
    (hyoung : later.checkedAt - first.savedAt < (ttlSec.toNat : Int)) :
    ∀ e ∈ events, e.Keeps accountName target ttlSec ⟨aci, pni, first.savedAt⟩ := by
  intro e he
  cases e with
  | resolve name number call =>
    rintro rfl rfl
    refine ⟨h.quiet call he, ?_⟩
    have hle : call.checkedAt ≤ later.checkedAt := by
      have hread : call.checkedAt ∈ events.flatMap StorageEvent.readings :=
        List.mem_flatMap.mpr ⟨_, he, List.mem_cons_self⟩
      exact (List.pairwise_append.mp (List.pairwise_cons.mp h.clock).2).2.2 _ hread _
        (List.mem_singleton_self _)
    show decide (call.checkedAt - first.savedAt < (ttlSec.toNat : Int)) = true
    exact decide_eq_true (by omega)
  | storage name c =>
    rintro rfl
    exact ⟨h.made c he, fun written hwritten => h.noSync c written he hwritten⟩

/-! ## The law -/

/-- What a source knows of the number: an ACI that was synced, what is cached, or what the directory
replied. -/
inductive Known (db : Db) (accountName target : String) (call : ResolveCall) : String → String → Prop
  | synced (contact : SyncedContactRecord)
      (hload : (Storage.loadSyncedContact db accountName target call.loadSynced).value =
        .ok (some contact))
      (haci : contact.aci ≠ "") :
    Known db accountName target call contact.aci contact.pni
  | cached (contact : ResolvedContactRecord)
      (hload : (Storage.loadResolvedContact db accountName target call.loadResolved).value =
        .ok (some contact)) :
    Known db accountName target call contact.aci contact.pni
  | replied (reply : CdsiLookupResult) (hreply : call.reply target = some reply) :
    Known db accountName target call reply.aci reply.pni

/-- How an ACI and a PNI are shown: the ACI as it is, and without one the PNI with its mark. -/
def ShownAs (aci pni s : String) : Prop :=
  aci ≠ "" ∧ s = aci ∨ aci = "" ∧ pni ≠ "" ∧ s = "PNI:" ++ pni

theorem shownAs_of_serviceIdOr {aci pni s : String} {e : RuntimeError}
    (h : serviceIdOr aci pni e = .ok s) : ShownAs aci pni s := by
  unfold serviceIdOr at h
  split at h
  · next haci =>
    cases h
    exact Or.inl ⟨haci, rfl⟩
  · next haci =>
    split at h
    · next hpni =>
      cases h
      exact Or.inr ⟨not_not.mp haci, hpni, rfl⟩
    · cases h

/-- The cache agrees with the directory. -/
structure ContactResolution (db : Db) (accountName target : String) (ttlSec : UInt32) : Prop where
  /-- Within the time to live, every later call answers as the lookup did, without a request. -/
  cached (first : ResolveCall) (hfirst : first.Quiet)
    (hlookup : (resolveOutgoingTarget db accountName target ttlSec first).requests ≠ [])
    (reply : CdsiLookupResult) (hreply : first.reply target = some reply)
    (hsave : ∃ db', (Storage.saveResolvedContact db accountName target reply.aci reply.pni
      first.savedAt first.save).value = .ok db')
    (events : List StorageEvent) (later : ResolveCall) (hlater : later.Quiet)
    (hbetween : Between accountName target first events later)
    (hyoung : later.checkedAt - first.savedAt < (ttlSec.toNat : Int)) :
    let after := resolveOutgoingTarget (Runs.final (StorageEvent.step ttlSec)
      (resolveOutgoingTarget db accountName target ttlSec first).db events) accountName target ttlSec
        later
    after.requests = [] ∧
      SameOrThrows (resolveOutgoingTarget db accountName target ttlSec first).value after.value
  /-- A synced ACI is the answer, whatever is cached. -/
  synced (htarget : target.toList.head? = some '+') (call : ResolveCall)
    (contact : SyncedContactRecord)
    (hload : (Storage.loadSyncedContact db accountName target call.loadSynced).value =
      .ok (some contact))
    (haci : contact.aci ≠ "") :
    resolveOutgoingTarget db accountName target ttlSec call = ⟨db, [], .ok contact.aci⟩
  /-- The answer for a number is an ACI, or a marked PNI of a number without an ACI. -/
  shown (htarget : target.toList.head? = some '+') (call : ResolveCall) (s : String)
    (hvalue : (resolveOutgoingTarget db accountName target ttlSec call).value = .ok s) :
    ∃ aci pni, Known db accountName target call aci pni ∧ ShownAs aci pni s
  /-- Without a reply nothing is cached. -/
  unchanged (call : ResolveCall) (hreply : call.reply target = none) :
    (resolveOutgoingTarget db accountName target ttlSec call).db.resolvedContact = db.resolvedContact

/-- An answer that the call found in one of the three sources. -/
theorem shown_of_resolve (htarget : target.toList.head? = some '+') (call : ResolveCall) {s : String}
    (hvalue : (resolveOutgoingTarget db accountName target ttlSec call).value = .ok s) :
    ∃ aci pni, Known db accountName target call aci pni ∧ ShownAs aci pni s := by
  have hby := resolvedBy db accountName target ttlSec call
  generalize resolveOutgoingTarget db accountName target ttlSec call = outcome at hby hvalue
  cases hby with
  | serviceId hno => exact absurd htarget hno
  | unreadable e => cases hvalue
  | synced contact hload haci =>
    cases hvalue
    exact ⟨_, _, .synced contact hload haci, Or.inl ⟨haci, rfl⟩⟩
  | cached contact e hload hyoung =>
    exact ⟨_, _, .cached contact hload, shownAs_of_serviceIdOr hvalue⟩
  | directory htarget synced hsynced hnone cached hcached hold =>
    have hlooked := lookedUp db accountName target call
    generalize lookUpTarget db accountName target call = outcome at hlooked hvalue
    cases hlooked with
    | saved requests reply e hreply =>
      exact ⟨_, _, .replied reply hreply, shownAs_of_serviceIdOr hvalue⟩
    | noReply requests e hreply => cases hvalue
    | notSaved requests e reply hreply hsave => cases hvalue

theorem db_of_no_reply (call : ResolveCall) (hreply : call.reply target = none) :
    (resolveOutgoingTarget db accountName target ttlSec call).db = db := by
  have hby := resolvedBy db accountName target ttlSec call
  generalize resolveOutgoingTarget db accountName target ttlSec call = outcome at hby ⊢
  cases hby with
  | directory htarget synced hsynced hnone cached hcached hold =>
    have hlooked := lookedUp db accountName target call
    generalize lookUpTarget db accountName target call = outcome at hlooked ⊢
    cases hlooked with
    | saved requests reply e hsaved => rw [hreply] at hsaved; cases hsaved
    | _ => rfl
  | _ => rfl

/-- On every sound file, the three sources answer alike. -/
theorem contactResolution (hsound : db.ContactsSound) (accountName target : String)
    (ttlSec : UInt32) : ContactResolution db accountName target ttlSec where
  cached := by
    intro first hfirst hlookup reply hreply hsave events later hlater hbetween hyoung
    obtain ⟨htarget, hcached, e, hvalue⟩ := cached_of_lookup hsound hfirst hlookup hreply hsave
    obtain ⟨e', hlaterValue⟩ := (hcached.run htarget (hbetween.keeps hyoung)).resolve htarget hlater
      (decide_eq_true hyoung)
    rw [hlaterValue, hvalue]
    exact ⟨rfl, sameOrThrows_serviceIdOr _ _ e e'⟩
  synced := by
    intro htarget call contact hload haci
    have hfilter : (some contact).filter (·.aci ≠ "") = some contact :=
      Option.filter_some_pos (decide_eq_true haci)
    rw [resolveOutgoingTarget, if_neg (not_not.mpr htarget), hload]
    simp only [hfilter]
  shown := fun htarget call s hvalue => shown_of_resolve htarget call hvalue
  unchanged := fun call hreply => congrArg Db.resolvedContact (db_of_no_reply call hreply)

/-- A call at a given time, of a directory that knows a PNI of every number and no ACI. -/
def pniCall (now : Int) : ResolveCall where
  request := .ok ⟨200, []⟩
  parseToken _ := .ok ("user", "token")
  cdsiLookup _ _ e164s := .ok (e164s.map fun e164 => ⟨e164, "", "pni-of-" ++ e164⟩)
  checkedAt := now
  savedAt := now

/-- The daemon looks a number up, a sync writes another number, and the daemon calls the first one
again. -/
theorem contactResolution_pni :
    let first := resolveOutgoingTarget twoContacts "trunk" "+4930909" 60 (pniCall 100)
    let later := resolveOutgoingTarget (Runs.final (StorageEvent.step 60) first.db
      [.storage "trunk" (saveCall (keyedContact "+4930903" "aci-1") 120)]) "trunk" "+4930909" 60
        (pniCall 159)
    later.requests = [] ∧ SameOrThrows first.value later.value := by
  refine (contactResolution twoContacts_sound "trunk" "+4930909" 60).cached (pniCall 100)
    ⟨rfl, rfl, rfl⟩ (by decide) ⟨"+4930909", "", "pni-of-+4930909"⟩ rfl ⟨_, rfl⟩ _ (pniCall 159)
    ⟨rfl, rfl, rfl⟩ ?_ (by decide)
  constructor
  · decide
  · intro call hcall
    cases List.mem_singleton.mp hcall
  · intro c hc
    cases List.mem_singleton.mp hc
    trivial
  · intro c contact hc hwritten
    cases List.mem_singleton.mp hc
    cases hwritten
    decide

end Signal2sip
