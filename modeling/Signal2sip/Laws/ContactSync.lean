import Signal2sip.Daemon.StorageSync

/-!
# What a contact sync leaves

A sync writes its contacts one by one, and a contact takes over the row it shares a key with. Which
row that is depends on what the contacts before it did, so a batch in which contacts trade keys
(a number moves to another person's account) need not end in the same table in every order, nor
with all of its contacts.

- `contactSync_iff`: it does exactly when no contact has its `e164` on one row that the account had
  before the sync and its `aci` on another. Such a contact is refused when it comes first, and
  nothing comes back to it;
- `contactSync_swap`: two rows whose contacts have exchanged numbers.
-/

namespace Signal2sip

open UniqueRows (placeAll)

variable {db : Db} {accountName : String}

/-! ## Reading a contact back -/

/-- A key finds the one row that has it. -/
theorem syncedRowsBy_of_mem (hsound : db.ContactsSound) (column : SyncedContactRecord → String)
    {row : SyncedContactRow} (hrow : row ∈ db.syncedContact)
    (hshares : ∀ s : SyncedContactRow, s.accountName = row.accountName →
      column s.contact = column row.contact → SharesKey row.listed s.listed) :
    (Storage.syncedRowsBy db row.accountName column (column row.contact)).head? = some row := by
  have hfound : row ∈ Storage.syncedRowsBy db row.accountName column (column row.contact) :=
    List.mem_filter.mpr ⟨hrow, decide_eq_true ⟨rfl, rfl⟩⟩
  cases hhead : (Storage.syncedRowsBy db row.accountName column (column row.contact)).head? with
  | none =>
    rw [List.head?_eq_none_iff.mp hhead] at hfound
    cases hfound
  | some first =>
    obtain ⟨hfirst, hkey⟩ := List.mem_filter.mp (List.mem_of_mem_head? hhead)
    obtain ⟨haccount, hcolumn⟩ := of_decide_eq_true hkey
    rw [Storage.eq_of_sharesKey hsound hrow hfirst (hshares first haccount hcolumn)]

/-- A contact is found by a key that it has exactly when it is in the table. -/
theorem syncedRowsBy_head_iff (hsound : db.ContactsSound) (column : SyncedContactRecord → String)
    (contact : StorageContact)
    (hshares : ∀ row : SyncedContactRow, row.accountName = accountName →
      column row.contact = column (contact.syncedAt 0) →
      SharesKey (accountName, contact) row.listed)
    (hlisted : ∀ r : SyncedContactRecord, r.listed = contact →
      column r = column (contact.syncedAt 0)) :
    (∃ r, ((Storage.syncedRowsBy db accountName column (column (contact.syncedAt 0))).head?.map
        (·.contact)) = some r ∧ r.listed = contact) ↔ (accountName, contact) ∈ db.contacts := by
  constructor
  · rintro ⟨r, hr, rfl⟩
    obtain ⟨row, hrow, rfl⟩ := Option.map_eq_some_iff.mp hr
    obtain ⟨hmem, hrow⟩ := List.mem_filter.mp (List.mem_of_mem_head? hrow)
    have haccount : row.accountName = accountName := (of_decide_eq_true hrow).1
    exact Multiset.mem_coe.mpr (List.mem_map.mpr ⟨row, hmem, by rw [← haccount]; rfl⟩)
  · intro hmem
    obtain ⟨row, hrow, hrowListed⟩ := List.mem_map.mp (Multiset.mem_coe.mp hmem)
    have haccount : row.accountName = accountName := congrArg Prod.fst hrowListed
    have hcontact : row.contact.listed = contact := congrArg Prod.snd hrowListed
    have hkey := hlisted _ hcontact
    have hhead := syncedRowsBy_of_mem hsound column hrow fun s hs hcolumn =>
      hrowListed ▸ hshares s (hs.trans haccount) (hcolumn.trans hkey)
    rw [haccount, hkey] at hhead
    exact ⟨row.contact, by rw [hhead]; rfl, hcontact⟩

/-- A contact comes back, with its listed fields, under each key that it has. -/
structure ReadBack (db : Db) (accountName : String) (contact : StorageContact) : Prop where
  byE164 : contact.e164 ≠ "" → ∃ r,
    (Storage.loadSyncedContact db accountName contact.e164 .quiet).value = .ok (some r) ∧
      r.listed = contact
  byAci : contact.aci ≠ "" → ∃ r,
    (Storage.loadSyncedContactByAci db accountName contact.aci .quiet).value = .ok (some r) ∧
      r.listed = contact

/-- It does exactly when the table has it. -/
theorem readBack_iff (hsound : db.ContactsSound) {contact : StorageContact}
    (hkey : contact.e164 ≠ "" ∨ contact.aci ≠ "") :
    ReadBack db accountName contact ↔ (accountName, contact) ∈ db.contacts := by
  have hE (hne : contact.e164 ≠ "") := syncedRowsBy_head_iff hsound (·.e164) contact
    (fun row (haccount : row.accountName = accountName) he =>
      ⟨haccount.symm, Or.inl ⟨hne, he.symm⟩⟩) fun r hr => hr ▸ rfl
  have hA (hne : contact.aci ≠ "") := syncedRowsBy_head_iff hsound (·.aci) contact
    (fun row (haccount : row.accountName = accountName) ha =>
      ⟨haccount.symm, Or.inr ⟨hne, ha.symm⟩⟩) fun r hr => hr ▸ rfl
  have hload (column : SyncedContactRecord → String) (text : String) :
      ((Sqlite.firstRow prepareFailed .quiet
        (Storage.syncedRowsBy db accountName column text)).map fun row =>
          row.map (·.contact)).value =
      .ok ((Storage.syncedRowsBy db accountName column text).head?.map (·.contact)) := by
    rw [Sqlite.Outcome.map_value, Sqlite.firstRow_quiet, Except.map]
  constructor
  · intro h
    rcases hkey with hne | hne
    · obtain ⟨r, hr, hlisted⟩ := h.byE164 hne
      rw [Storage.loadSyncedContact, hload] at hr
      exact (hE hne).mp ⟨r, Except.ok.inj hr, hlisted⟩
    · obtain ⟨r, hr, hlisted⟩ := h.byAci hne
      rw [Storage.loadSyncedContactByAci, hload] at hr
      exact (hA hne).mp ⟨r, Except.ok.inj hr, hlisted⟩
  · intro hmem
    constructor
    · intro hne
      obtain ⟨r, hr, hlisted⟩ := (hE hne).mpr hmem
      exact ⟨r, by rw [Storage.loadSyncedContact, hload]; exact congrArg _ hr, hlisted⟩
    · intro hne
      obtain ⟨r, hr, hlisted⟩ := (hA hne).mpr hmem
      exact ⟨r, by rw [Storage.loadSyncedContactByAci, hload]; exact congrArg _ hr, hlisted⟩

/-! ## The loop -/

/-- A contact that the loop does not pass over. -/
def StorageContact.Keyed (contact : StorageContact) : Prop :=
  contact.e164 ≠ "" ∨ contact.aci ≠ ""

instance : DecidablePred StorageContact.Keyed := fun _ => inferInstanceAs (Decidable (_ ∨ _))

/-- The contacts of a batch that are cached, as rows of the account. -/
def batchRows (accountName : String) (contacts : List StorageContact) :
    List (String × StorageContact) :=
  (contacts.filter fun contact => contact.Keyed).map fun contact => (accountName, contact)

/-- The calls of a sync during which no statement fails. -/
def quietCalls (clock : Nat → Int) (i : Nat) : SaveCall := { now := clock i }

/-- The loop places the contacts that have a key, in their order. -/
theorem cacheContacts_placeAll (clock : Nat → Int) (contacts : List StorageContact) :
    ∀ (i : Nat) (s : Db × Nat), s.1.ContactsSound → accountName ∈ s.1.account →
      (cacheContacts accountName (quietCalls clock) i s contacts).1.contacts =
          placeAll SharesKey s.1.contacts (batchRows accountName contacts) ∧
        (cacheContacts accountName (quietCalls clock) i s contacts).1.ContactsSound := by
  induction contacts with
  | nil => exact fun i s hsound haccount => ⟨rfl, hsound⟩
  | cons contact rest ih =>
    intro i s hsound haccount
    by_cases hkey : contact.Keyed
    · have hplace := Storage.saveSyncedContact_place hsound haccount contact (clock i)
      have hturn : (cacheContact accountName (quietCalls clock i) s contact).1 =
          Storage.keptAfter s.1 (Storage.saveSyncedContact s.1 accountName contact.e164 contact.aci
            contact.pni contact.profileKey contact.givenName contact.familyName (clock i) .quiet
            .quiet .quiet).value := by
        rw [cacheContact, if_neg (by unfold StorageContact.Keyed at hkey; tauto)]
        simp only [quietCalls]
        generalize (Storage.saveSyncedContact s.1 accountName contact.e164 contact.aci contact.pni
          contact.profileKey contact.givenName contact.familyName (clock i) .quiet .quiet
          .quiet).value = written
        cases written <;> rfl
      rw [← hturn] at hplace
      obtain ⟨hcontacts, hsound', haccounts⟩ := hplace
      have hrest := ih (i + 1) (cacheContact accountName (quietCalls clock i) s contact) hsound'
        (haccounts ▸ haccount)
      have hbatch : batchRows accountName (contact :: rest) =
          (accountName, contact) :: batchRows accountName rest := by
        simp [batchRows, hkey]
      rw [hbatch]
      rw [hcontacts] at hrest
      exact hrest
    · have hturn : cacheContact accountName (quietCalls clock i) s contact = s :=
        if_pos (by unfold StorageContact.Keyed at hkey; tauto)
      have hbatch : batchRows accountName (contact :: rest) = batchRows accountName rest := by
        simp [batchRows, hkey]
      rw [cacheContacts, hturn, hbatch]
      exact ih (i + 1) s hsound haccount

/-! ## The batch as a whole -/

/-- The non-empty numbers of a list are pairwise distinct, and so are the non-empty `aci`s. -/
structure DistinctKeys (contacts : List StorageContact) : Prop where
  e164s : contacts.Pairwise fun c d => c.e164 ≠ "" → c.e164 ≠ d.e164
  acis : contacts.Pairwise fun c d => c.aci ≠ "" → c.aci ≠ d.aci

/-- The contact's number and its `aci` are not on two different rows that the account has. -/
def KeysOnOneRow (db : Db) (accountName : String) (contact : StorageContact) : Prop :=
  ∀ r ∈ db.syncedContact, ∀ s ∈ db.syncedContact,
    r.accountName = accountName → contact.e164 ≠ "" → r.contact.e164 = contact.e164 →
    s.accountName = accountName → contact.aci ≠ "" → s.contact.aci = contact.aci → r = s

/-- A contact can be placed exactly when its keys are on one row at most. -/
theorem card_le_one_iff (hsound : db.ContactsSound) (contact : StorageContact) :
    (db.contacts.filter (SharesKey (accountName, contact))).card ≤ 1 ↔
      KeysOnOneRow db accountName contact := by
  have hnodup : (Storage.clashing db accountName contact).Nodup :=
    (List.Nodup.of_map _ hsound.ids).filter _
  rw [Storage.card_clashing, UniqueRows.length_le_one_iff hnodup]
  have hmem {row : SyncedContactRow} : row ∈ Storage.clashing db accountName contact ↔
      row ∈ db.syncedContact ∧ SharesKey (accountName, contact) row.listed := Storage.mem_clashing
  constructor
  · intro h r hr s hs hra hce hre hsa hca hsaci
    exact h r (hmem.mpr ⟨hr, hra.symm, Or.inl ⟨hce, hre.symm⟩⟩)
      s (hmem.mpr ⟨hs, hsa.symm, Or.inr ⟨hca, hsaci.symm⟩⟩)
  · intro h r hr s hs
    obtain ⟨hr, hra, hrk⟩ := hmem.mp hr
    obtain ⟨hs, hsa, hsk⟩ := hmem.mp hs
    rcases hrk with ⟨hce, hre⟩ | ⟨hca, hra'⟩ <;> rcases hsk with ⟨hce', hse⟩ | ⟨hca', hsa'⟩
    · exact Storage.eq_of_sharesKey hsound hr hs
        ⟨hra.symm.trans hsa, Or.inl ⟨hre ▸ hce, hre.symm.trans hse⟩⟩
    · exact h r hr s hs hra.symm hce hre.symm hsa.symm hca' hsa'.symm
    · exact (h s hs r hr hsa.symm hce' hse.symm hra.symm hca hra'.symm).symm
    · exact Storage.eq_of_sharesKey hsound hr hs
        ⟨hra.symm.trans hsa, Or.inr ⟨hra' ▸ hca, hra'.symm.trans hsa'⟩⟩

/-- A contact without a key is on no row. -/
theorem KeysOnOneRow.of_not_keyed {contact : StorageContact} (h : ¬ contact.Keyed) :
    KeysOnOneRow db accountName contact := by
  intro r hr s hs hra hce
  exact absurd (Or.inl hce) h

theorem mem_batchRows {contacts : List StorageContact} {row : String × StorageContact} :
    row ∈ batchRows accountName contacts ↔
      row.1 = accountName ∧ row.2.Keyed ∧ row.2 ∈ contacts := by
  obtain ⟨name, contact⟩ := row
  simp only [batchRows, List.mem_map, List.mem_filter, Prod.mk.injEq, decide_eq_true_eq]
  constructor
  · rintro ⟨c, ⟨hmem, hkey⟩, rfl, rfl⟩
    exact ⟨rfl, hkey, hmem⟩
  · rintro ⟨rfl, hkey, hmem⟩
    exact ⟨contact, ⟨hmem, hkey⟩, rfl, rfl⟩

/-- A contact with a key clashes with itself. -/
theorem SharesKey.of_keyed {row : String × StorageContact} (h : row.2.Keyed) : SharesKey row row :=
  ⟨rfl, h.imp (fun hne => ⟨hne, rfl⟩) fun hne => ⟨hne, rfl⟩⟩

/-- Rows of a batch with distinct keys do not clash. -/
theorem batchRows_pairwise {contacts : List StorageContact} (h : DistinctKeys contacts) :
    (batchRows accountName contacts).Pairwise fun r s => ¬ SharesKey r s := by
  refine ((h.e164s.and h.acis).filter _).map _ ?_
  rintro c d ⟨he, ha⟩ ⟨-, ⟨hne, heq⟩ | ⟨hne, heq⟩⟩
  · exact he hne heq
  · exact ha hne heq

/-- Every order of a batch's rows is that of an order of the batch. -/
theorem exists_batch_of_perm {contacts : List StorageContact}
    {rows : List (String × StorageContact)}
    (h : rows.Perm (batchRows accountName contacts)) :
    ∃ contacts' : List StorageContact, contacts'.Perm contacts ∧
      batchRows accountName contacts' = rows := by
  refine ⟨rows.map Prod.snd ++ contacts.filter fun contact => ¬ contact.Keyed, ?_, ?_⟩
  · have hkeyed : (rows.map Prod.snd).Perm (contacts.filter fun contact => contact.Keyed) := by
      simpa [batchRows, Function.comp_def] using h.map Prod.snd
    refine (hkeyed.append_right _).trans ?_
    simpa using List.filter_append_perm (fun contact => decide contact.Keyed) contacts
  · have hrows (row : String × StorageContact) (hrow : row ∈ rows) :
        row.1 = accountName ∧ row.2.Keyed :=
      have := mem_batchRows.mp (h.mem_iff.mp hrow)
      ⟨this.1, this.2.1⟩
    have hall : (rows.map Prod.snd).filter (fun contact => contact.Keyed) = rows.map Prod.snd := by
      apply List.filter_eq_self.mpr
      intro contact hcontact
      obtain ⟨row, hrow, rfl⟩ := List.mem_map.mp hcontact
      exact decide_eq_true (hrows row hrow).2
    have hnone : (contacts.filter fun contact => ¬ contact.Keyed).filter
        (fun contact => contact.Keyed) = [] := by
      simp [List.filter_filter]
    rw [batchRows, List.filter_append, hall, hnone, List.append_nil, List.map_map]
    refine (List.map_congr_left (g := id) fun row hrow => ?_).trans (List.map_id _)
    exact Prod.ext (hrows row hrow).1.symm rfl

/-! ## The sync -/

/-- A sync of the fetched contacts during which no statement fails. -/
def quietSync (db : Db) (accountName : String) (accountEntropyPool : Option String)
    (steadyNowMs : Int) (clock : Nat → Int) (contacts : List StorageContact) : Db :=
  (syncStorageContacts db accountName accountEntropyPool steadyNowMs (.ok contacts)
    (quietCalls clock)).db

/-- The table after a sync is that of every order of the list, and every contact of the list comes
back from it. -/
structure SyncedInAnyOrder (db : Db) (accountName : String) (accountEntropyPool : Option String)
    (contacts : List StorageContact) : Prop where
  order : ∀ contacts' : List StorageContact, contacts'.Perm contacts →
    ∀ (steadyNowMs steadyNowMs' : Int) (clock clock' : Nat → Int),
      (quietSync db accountName accountEntropyPool steadyNowMs' clock' contacts').contacts =
        (quietSync db accountName accountEntropyPool steadyNowMs clock contacts).contacts
  complete : ∀ (steadyNowMs : Int) (clock : Nat → Int), ∀ contact ∈ contacts,
    ReadBack (quietSync db accountName accountEntropyPool steadyNowMs clock contacts) accountName
      contact

/-- A sync of an account with an entropy pool places the batch. -/
theorem quietSync_placeAll (hsound : db.ContactsSound) (haccount : accountName ∈ db.account)
    {pool : String} (hpool : pool ≠ "") (steadyNowMs : Int) (clock : Nat → Int)
    (contacts : List StorageContact) :
    (quietSync db accountName (some pool) steadyNowMs clock contacts).contacts =
        placeAll SharesKey db.contacts (batchRows accountName contacts) ∧
      (quietSync db accountName (some pool) steadyNowMs clock contacts).ContactsSound := by
  rw [quietSync, syncStorageContacts, if_neg (show (some pool).getD "" ≠ "" from hpool)]
  exact cacheContacts_placeAll clock contacts 0 (db, 0) hsound haccount

/-- A batch with distinct keys ends in one table in every order, with all its contacts in it, exactly
when none of them has its keys on two rows that the account had before. -/
theorem contactSync_iff (db : Db) (accountName pool : String) (hpool : pool ≠ "")
    (hsound : db.ContactsSound) (haccount : accountName ∈ db.account)
    (contacts : List StorageContact) (hdistinct : DistinctKeys contacts) :
    SyncedInAnyOrder db accountName (some pool) contacts ↔
      ∀ contact ∈ contacts, KeysOnOneRow db accountName contact := by
  have hplace := quietSync_placeAll hsound haccount hpool
  have hlib := UniqueRows.orderFree_iff hsound.keys (l := batchRows accountName contacts)
    (fun r hr => SharesKey.of_keyed (mem_batchRows.mp hr).2.1)
    (batchRows_pairwise hdistinct)
  have hrows : (∀ r ∈ batchRows accountName contacts,
      (db.contacts.filter (SharesKey r)).card ≤ 1) ↔
        ∀ contact ∈ contacts, KeysOnOneRow db accountName contact := by
    constructor
    · intro h contact hcontact
      by_cases hkey : contact.Keyed
      · exact (card_le_one_iff hsound contact).mp
          (h (accountName, contact) (mem_batchRows.mpr ⟨rfl, hkey, hcontact⟩))
      · exact KeysOnOneRow.of_not_keyed hkey
    · intro h r hr
      obtain ⟨rfl, -, hmem⟩ := mem_batchRows.mp hr
      exact (card_le_one_iff hsound r.2).mpr (h r.2 hmem)
  rw [← hrows, ← hlib]
  constructor
  · intro h
    constructor
    · intro rows hperm
      obtain ⟨contacts', hperm', rfl⟩ := exists_batch_of_perm hperm
      have horder := h.order contacts' hperm' 0 0 (fun _ => 0) fun _ => 0
      rwa [(hplace _ _ _).1, (hplace _ _ _).1] at horder
    · intro r hr
      obtain ⟨rfl, hkey, hmem⟩ := mem_batchRows.mp hr
      have hback := h.complete 0 (fun _ => 0) r.2 hmem
      rw [readBack_iff (hplace _ _ _).2 hkey, (hplace _ _ _).1] at hback
      exact hback
  · rintro ⟨horder, hall⟩
    refine ⟨fun contacts' hperm steadyNowMs steadyNowMs' clock clock' => ?_,
      fun steadyNowMs clock contact hmem => ?_⟩
    · rw [(hplace _ _ _).1, (hplace _ _ _).1]
      exact horder _ ((hperm.filter _).map _)
    · by_cases hkey : contact.Keyed
      · rw [readBack_iff (hplace _ _ _).2 hkey, (hplace _ _ _).1]
        exact hall _ (mem_batchRows.mpr ⟨rfl, hkey, hmem⟩)
      · exact ⟨fun hne => absurd (Or.inl hne) hkey, fun hne => absurd (Or.inr hne) hkey⟩

/-- A row of a contact that has nothing but its keys. -/
def keyedRow (id : Int) (accountName e164 aci : String) : SyncedContactRow :=
  ⟨id, accountName, e164, aci, "", [], "", "", 0⟩

def keyedContact (e164 aci : String) : StorageContact := ⟨aci, "", e164, [], "", ""⟩

/-- The file of one linked account with two cached contacts. -/
def twoContacts : Db where
  account := (∅ : Table String AccountRecord).insert "trunk"
    { e164 := "+4930900", aci := "aci-0", pni := "", password := "" }
  syncedContact := [keyedRow 1 "trunk" "+4930901" "aci-1", keyedRow 2 "trunk" "+4930902" "aci-2"]
  nextContactId := 3

theorem twoContacts_sound : twoContacts.ContactsSound where
  ids := by decide
  range := by decide
  next := by decide
  keys := by
    show ∀ r ∈ twoContacts.contacts, _
    decide

/-- A contact changes its number, and a new one appears with the old number: the batch ends in the
same table in both orders. -/
theorem contactSync_moved : SyncedInAnyOrder twoContacts "trunk" (some "pool")
    [keyedContact "+4930903" "aci-1", keyedContact "+4930901" "aci-3"] :=
  (contactSync_iff twoContacts "trunk" "pool" (by decide) twoContacts_sound (by decide) _
    ⟨by decide, by decide⟩).mpr (by unfold KeysOnOneRow; decide)

/-- Two contacts have exchanged their numbers. Each of them has its number on one row and its `aci`
on the other, so both calls throw and neither contact comes back. -/
theorem contactSync_swap : twoContacts.ContactsSound ∧ "trunk" ∈ twoContacts.account ∧
    DistinctKeys [keyedContact "+4930901" "aci-2", keyedContact "+4930902" "aci-1"] ∧
    ¬ SyncedInAnyOrder twoContacts "trunk" (some "pool")
      [keyedContact "+4930901" "aci-2", keyedContact "+4930902" "aci-1"] := by
  refine ⟨twoContacts_sound, by decide, ⟨by decide, by decide⟩, fun h => ?_⟩
  obtain ⟨r, hr, hlisted⟩ := (h.complete 0 (fun _ => 0) (keyedContact "+4930901" "aci-2")
    List.mem_cons_self).byE164 (by decide)
  have hstale : (Storage.loadSyncedContact (quietSync twoContacts "trunk" (some "pool") 0
      (fun _ => 0) [keyedContact "+4930901" "aci-2", keyedContact "+4930902" "aci-1"]) "trunk"
      "+4930901" .quiet).value = .ok (some (keyedRow 1 "trunk" "+4930901" "aci-1").contact) := rfl
  rw [show (keyedContact "+4930901" "aci-2").e164 = "+4930901" from rfl, hstale] at hr
  cases hr
  exact absurd hlisted (by decide)

end Signal2sip
