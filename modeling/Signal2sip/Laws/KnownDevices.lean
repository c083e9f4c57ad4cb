import Signal2sip.Lib.Like
import Signal2sip.Signal.ProtocolStores
import Signal2sip.Storage.OwnRows

/-!
# The known devices of a service id

A session is stored under `name.deviceId`. `knownDeviceIdsFor` selects the addresses that are `LIKE`
`serviceId.%` and reads the text after their last dot with `std::stoi`. The pattern takes wildcards in
the service id for wildcards, does not tell upper from lower case, and matches longer names; `stoi`
knows no id from 2³¹ on.

- `knownDevices_iff`: the answer is the ids stored under the service id, each once, exactly when none of
  them is from 2³¹ on and no other name's address, with a smaller id, matches the pattern;
- `knownDevices_of_plain`: names without wildcards, dots and capital letters, such as service ids, are
  told apart.
-/

namespace Signal2sip

open Sqlite (Faults likeText)

variable {db : Db} {accountName serviceId : String}

/-! ## The addresses of an account -/

/-- Two elements with one image are one, in a list without repetitions and with none in its image. -/
theorem nodup_filterMap_iff {α β : Type} {f : α → Option β} {l : List α} (hl : l.Nodup) :
    (l.filterMap f).Nodup ↔
      ∀ a ∈ l, ∀ b ∈ l, ∀ x, f a = some x → f b = some x → a = b := by
  rw [List.Nodup, List.pairwise_filterMap]
  constructor
  · intro h a ha b hb x hfa hfb
    by_contra hne
    have hsymm : Std.Symm fun a b => ∀ x, f a = some x → ∀ y, f b = some y → x ≠ y :=
      ⟨fun a b hab x hb y ha hxy => hab y ha x hb hxy.symm⟩
    exact List.Pairwise.forall h ha hb hne x hfa x hfb rfl
  · intro h
    refine hl.imp_of_mem fun {a b} ha hb hne x hfa y hfb hxy => ?_
    exact hne (h a ha b hb x hfa (hxy ▸ hfb))

/-- The keys of an account's rows. -/
theorem mem_rowsOf_keys {κ α : Type} [DecidableEq κ] {t : Table (String × κ) α} {k : κ} :
    k ∈ (rowsOf accountName t).map Prod.fst ↔ (accountName, k) ∈ t := by
  rw [rowsOf_eq, AList.mem_keys, AList.keys, List.keys]
  constructor
  · intro h
    obtain ⟨⟨k', v⟩, hrow, rfl⟩ := List.mem_map.mp h
    obtain ⟨⟨⟨name, j⟩, w⟩, hentry, hown⟩ := List.mem_filterMap.mp hrow
    unfold ownEntry at hown
    split at hown
    · next hname =>
      cases hown
      exact List.mem_map.mpr ⟨_, hentry, Prod.ext hname rfl⟩
    · cases hown
  · intro h
    obtain ⟨⟨⟨name, j⟩, w⟩, hentry, heq⟩ := List.mem_map.mp h
    obtain ⟨rfl, rfl⟩ := Prod.mk.inj heq
    exact List.mem_map.mpr ⟨(j, w), List.mem_filterMap.mpr ⟨_, hentry, if_pos rfl⟩, rfl⟩

theorem nodup_rowsOf_keys {κ α : Type} (t : Table (String × κ) α) :
    ((rowsOf accountName t).map Prod.fst).Nodup := by
  have hkeys : (rowsOf accountName t).map Prod.fst =
      t.keys.filterMap fun k => if k.1 = accountName then some k.2 else none := by
    rw [rowsOf_eq, AList.keys, List.keys, List.filterMap_map, List.map_filterMap]
    refine List.filterMap_congr fun e _ => ?_
    unfold ownEntry
    by_cases hname : e.1.1 = accountName
    · simp [hname]
    · simp [hname]
  rw [hkeys]
  refine t.keys_nodup.filterMap fun k k' j hk hk' => ?_
  obtain ⟨name, i⟩ := k
  obtain ⟨name', i'⟩ := k'
  simp only [Option.mem_def, Option.ite_none_right_eq_some, Option.some.injEq] at hk hk'
  obtain ⟨rfl, rfl⟩ := hk
  obtain ⟨rfl, rfl⟩ := hk'
  rfl

/-! ## What is selected, and what is read -/

/-- Without a failure, the answer is what is read of the addresses that match. -/
theorem knownDeviceIdsFor_quiet (db : Db) (accountName serviceId : String) :
    (Storage.knownDeviceIdsFor db accountName serviceId .quiet).value =
      .ok ((Storage.addressesLike db accountName (serviceId ++ ".%")).filterMap
        Storage.deviceIdOfAddress) := by
  have hrows := Sqlite.rowsFrom_of_silent .quiet
    (Storage.addressesLike db accountName (serviceId ++ ".%")) 0 fun _ _ => rfl
  rw [Storage.knownDeviceIdsFor, Sqlite.Outcome.map_value, Sqlite.collectRows]
  simp only [Faults.quiet]
  rw [← Faults.quiet, hrows]
  rfl

/-- What is read of an address is its device id, if an `int` holds it. -/
theorem deviceIdOfAddress_addressKey (address : ProtocolAddress) :
    Storage.deviceIdOfAddress (addressKey address) =
      if address.deviceId.toNat ≤ 2147483647 then some (address.deviceId.toNat : Int) else none := by
  rw [Storage.deviceIdOfAddress, addressKey, CxxString.splitLast_append (dot_notMem_toString _)]
  exact CxxString.stoi_toString address.deviceId.toNat

/-- The pattern matches every address of the service id itself. -/
theorem likeText_own (serviceId : String) (deviceId : UInt32) :
    likeText (serviceId ++ ".%") (addressKey ⟨serviceId, deviceId⟩) = true := by
  have hpattern : serviceId ++ ".%" = serviceId ++ String.singleton '.' ++ "%" := by
    rw [String.append_assoc]
    rfl
  rw [hpattern, addressKey]
  exact Sqlite.likeText_append _ _

/-! ## The law -/

/-- The account has a session under the address. -/
def StoredSession (db : Db) (accountName : String) (address : ProtocolAddress) : Prop :=
  (accountName, addressKey address) ∈ db.session

/-- Every session of the account is stored under the key of an address. -/
def AddressesOnly (db : Db) (accountName : String) : Prop :=
  ∀ key, (accountName, key) ∈ db.session → ∃ address : ProtocolAddress, key = addressKey address

/-- The answer is the device ids with a session under exactly the service id, each of them once. -/
def KnownDevices (db : Db) (accountName serviceId : String) : Prop :=
  ∃ ids, (Storage.knownDeviceIdsFor db accountName serviceId .quiet).value = .ok ids ∧ ids.Nodup ∧
    ∀ n : Int, n ∈ ids ↔ ∃ d : UInt32, StoredSession db accountName ⟨serviceId, d⟩ ∧ n = d.toNat

/-- `stoi` can read the ids under the service id, and what else matches the pattern has one that it
cannot read. -/
structure ToldApart (db : Db) (accountName serviceId : String) : Prop where
  readable : ∀ d : UInt32, StoredSession db accountName ⟨serviceId, d⟩ → d.toNat ≤ 2147483647
  others : ∀ address : ProtocolAddress, StoredSession db accountName address →
    address.name ≠ serviceId → likeText (serviceId ++ ".%") (addressKey address) = true →
      2147483647 < address.deviceId.toNat

/-- The addresses that match. -/
theorem mem_addressesLike {key : String} :
    key ∈ Storage.addressesLike db accountName (serviceId ++ ".%") ↔
      (accountName, key) ∈ db.session ∧ likeText (serviceId ++ ".%") key = true := by
  rw [Storage.addressesLike, List.mem_insertionSort, List.mem_filter, mem_rowsOf_keys]

theorem nodup_addressesLike (db : Db) (accountName pattern : String) :
    (Storage.addressesLike db accountName pattern).Nodup :=
  (List.perm_insertionSort _ _).nodup_iff.mpr ((nodup_rowsOf_keys db.session).filter _)

/-- An id that is read comes from an address that matches, and is its id. -/
theorem mem_known_iff (honly : AddressesOnly db accountName) {n : Int} :
    n ∈ (Storage.addressesLike db accountName (serviceId ++ ".%")).filterMap
        Storage.deviceIdOfAddress ↔
      ∃ address : ProtocolAddress, StoredSession db accountName address ∧
        likeText (serviceId ++ ".%") (addressKey address) = true ∧
        address.deviceId.toNat ≤ 2147483647 ∧ n = address.deviceId.toNat := by
  constructor
  · intro hn
    obtain ⟨key, hkey, hread⟩ := List.mem_filterMap.mp hn
    obtain ⟨hstored, hmatches⟩ := mem_addressesLike.mp hkey
    obtain ⟨address, rfl⟩ := honly key hstored
    rw [deviceIdOfAddress_addressKey] at hread
    split at hread
    · next hle => exact ⟨address, hstored, hmatches, hle, (Option.some.inj hread).symm⟩
    · cases hread
  · rintro ⟨address, hstored, hmatches, hle, rfl⟩
    refine List.mem_filterMap.mpr ⟨addressKey address, mem_addressesLike.mpr ⟨hstored, hmatches⟩, ?_⟩
    rw [deviceIdOfAddress_addressKey, if_pos hle]

/-- Only the service id's own addresses are read. -/
theorem name_of_readable (htold : ToldApart db accountName serviceId) {address : ProtocolAddress}
    (hstored : StoredSession db accountName address)
    (hmatches : likeText (serviceId ++ ".%") (addressKey address) = true)
    (hle : address.deviceId.toNat ≤ 2147483647) : address = ⟨serviceId, address.deviceId⟩ := by
  obtain ⟨name, deviceId⟩ := address
  by_cases hname : name = serviceId
  · rw [hname]
  · have hlt := htold.others ⟨name, deviceId⟩ hstored hname hmatches
    exact absurd hle (Nat.not_le.mpr hlt)

theorem knownDevices_of_toldApart (honly : AddressesOnly db accountName)
    (htold : ToldApart db accountName serviceId) : KnownDevices db accountName serviceId := by
  refine ⟨_, knownDeviceIdsFor_quiet db accountName serviceId, ?_, fun n => ?_⟩
  · refine (nodup_filterMap_iff (nodup_addressesLike _ _ _)).mpr fun a ha b hb x hreada hreadb => ?_
    obtain ⟨hstoreda, hmatchesa⟩ := mem_addressesLike.mp ha
    obtain ⟨hstoredb, hmatchesb⟩ := mem_addressesLike.mp hb
    obtain ⟨addressa, rfl⟩ := honly a hstoreda
    obtain ⟨addressb, rfl⟩ := honly b hstoredb
    rw [deviceIdOfAddress_addressKey] at hreada hreadb
    simp only [Option.ite_none_right_eq_some, Option.some.injEq] at hreada hreadb
    obtain ⟨hlea, rfl⟩ := hreada
    obtain ⟨hleb, hids⟩ := hreadb
    -- both are addresses of the service id, with the same device id
    rw [name_of_readable htold hstoreda hmatchesa hlea, name_of_readable htold hstoredb hmatchesb hleb,
      UInt32.toNat_inj.mp (Int.ofNat.inj hids)]
  · rw [mem_known_iff honly]
    constructor
    · rintro ⟨address, hstored, hmatches, hle, rfl⟩
      rw [name_of_readable htold hstored hmatches hle] at hstored
      exact ⟨address.deviceId, hstored, rfl⟩
    · rintro ⟨d, hstored, rfl⟩
      exact ⟨⟨serviceId, d⟩, hstored, likeText_own serviceId d, htold.readable d hstored, rfl⟩

/-- The answer is right exactly when no session under the service id has an id from 2³¹ on and no
session of another name with a smaller one matches the pattern. -/
theorem knownDevices_iff (honly : AddressesOnly db accountName) (serviceId : String) :
    KnownDevices db accountName serviceId ↔ ToldApart db accountName serviceId := by
  refine ⟨fun hknown => ?_, knownDevices_of_toldApart honly⟩
  obtain ⟨ids, hvalue, hnodup, hexact⟩ := hknown
  rw [knownDeviceIdsFor_quiet] at hvalue
  cases hvalue
  constructor
  · intro d hstored
    obtain ⟨address, -, -, hle, hid⟩ := (mem_known_iff honly).mp ((hexact d.toNat).mpr ⟨d, hstored, rfl⟩)
    exact Int.ofNat.inj hid ▸ hle
  · intro address hstored hname hmatches
    by_contra hle
    have hle := Nat.not_lt.mp hle
    -- the id is in the answer, so the service id has it as well, and it is there twice
    have hin := (mem_known_iff honly).mpr ⟨address, hstored, hmatches, hle, rfl⟩
    obtain ⟨d, hown, hid⟩ := (hexact _).mp hin
    have hdevice : address.deviceId = d := UInt32.toNat_inj.mp (Int.ofNat.inj hid)
    rw [nodup_filterMap_iff (nodup_addressesLike _ _ _)] at hnodup
    have hread := deviceIdOfAddress_addressKey address
    have hreadOwn := deviceIdOfAddress_addressKey ⟨serviceId, d⟩
    rw [if_pos hle] at hread
    rw [if_pos (hdevice ▸ hle), ← hdevice] at hreadOwn
    have hsame := hnodup _ (mem_addressesLike.mpr ⟨hstored, hmatches⟩) _
      (mem_addressesLike.mpr ⟨hdevice ▸ hown, likeText_own serviceId _⟩) _ hread hreadOwn
    exact hname (congrArg ProtocolAddress.name (addressKey_injective hsame))

/-- Sessions with `bob`'s first device and with the seventh of `bob.work`. -/
def bobs : Db where
  session := ((∅ : Table (String × String) Bytes).insert ("trunk", "bob.1") [1]).insert
    ("trunk", "bob.work.7") [2]

theorem bobs_sessions {address : ProtocolAddress} (h : StoredSession bobs "trunk" address) :
    address = ⟨"bob", 1⟩ ∨ address = ⟨"bob.work", 7⟩ := by
  rcases AList.mem_insert _ |>.mp h with hwork | h
  · exact Or.inr (addressKey_injective (Prod.mk.inj hwork).2)
  · rcases AList.mem_insert _ |>.mp h with hbob | h
    · exact Or.inl (addressKey_injective (Prod.mk.inj hbob).2)
    · exact absurd h (AList.notMem_empty _)

theorem bobs_addresses : AddressesOnly bobs "trunk" := by
  intro key h
  rcases AList.mem_insert _ |>.mp h with hwork | h
  · exact ⟨⟨"bob.work", 7⟩, (Prod.mk.inj hwork).2⟩
  · rcases AList.mem_insert _ |>.mp h with hbob | h
    · exact ⟨⟨"bob", 1⟩, (Prod.mk.inj hbob).2⟩
    · exact absurd h (AList.notMem_empty _)

/-- The two names are told apart when asked for `bob.work`. -/
theorem bobs_knownDevices_iff :
    KnownDevices bobs "trunk" "bob.work" ↔ ToldApart bobs "trunk" "bob.work" :=
  knownDevices_iff bobs_addresses "bob.work"

/-- When asked for `bob`, the seventh device of `bob.work` is returned as well. -/
theorem dottedName_refutes : AddressesOnly bobs "trunk" ∧ ¬ KnownDevices bobs "trunk" "bob" := by
  refine ⟨bobs_addresses, ?_⟩
  rintro ⟨ids, hvalue, -, hexact⟩
  have hanswer : (Storage.knownDeviceIdsFor bobs "trunk" "bob" .quiet).value = .ok [1, 7] := by decide
  rw [hanswer] at hvalue
  cases hvalue
  obtain ⟨d, hstored, hid⟩ := (hexact 7).mp (List.mem_cons_of_mem 1 List.mem_cons_self)
  rcases bobs_sessions hstored with heq | heq
  · obtain rfl : d = 1 := congrArg ProtocolAddress.deviceId heq
    exact absurd hid (by decide)
  · exact absurd (show "bob" = "bob.work" from congrArg ProtocolAddress.name heq) (by decide)

/-! ## Plain names -/

/-- No wildcard, no dot, and no end of text for `LIKE`. -/
def PlainName (name : String) : Prop :=
  ∀ c ∈ name.toList, c ≠ '%' ∧ c ≠ '_' ∧ c ≠ '.' ∧ c ≠ Char.ofNat 0

instance : DecidablePred PlainName := fun name =>
  inferInstanceAs (Decidable (∀ c ∈ name.toList, _))

/-- A name without regard to case. -/
def foldedName (name : String) : List Char := name.toList.map Char.toLower

/-- Only a dot is a dot in small letters. -/
theorem toLower_eq_dot {c : Char} (h : c.toLower = '.') : c = '.' := by
  unfold Char.toLower at h
  split at h
  · next hupper =>
    have hval : c.val + 32 = 46 := congrArg Char.val h
    have hchar : c.val = 46 - 32 := by rw [← hval, UInt32.add_sub_cancel]
    have hle := hupper.1
    rw [hchar] at hle
    exact absurd hle (by decide)
  · exact h

/-- What is before the first dot. -/
theorem takeWhile_dot {l r : List Char} (hl : '.' ∉ l) : (l ++ '.' :: r).takeWhile (· ≠ '.') = l := by
  have hall : ∀ c ∈ l, decide (c ≠ '.') = true := by
    intro c hc
    have hne : c ≠ '.' := fun heq => hl (heq ▸ hc)
    exact decide_eq_true hne
  rw [List.takeWhile_append_of_pos hall]
  simp

/-- An address of a plain name that matches a plain pattern is of the same name, but for case. -/
theorem foldedName_of_likeText (hplain : PlainName serviceId) {address : ProtocolAddress}
    (hname : PlainName address.name)
    (hmatches : likeText (serviceId ++ ".%") (addressKey address) = true) :
    foldedName address.name = foldedName serviceId := by
  have hdot {name : String} (h : PlainName name) : '.' ∉ foldedName name := by
    intro hmem
    obtain ⟨c, hc, hlower⟩ := List.mem_map.mp hmem
    exact (h c hc).2.2.1 (toLower_eq_dot hlower)
  have hpattern : serviceId ++ ".%" = String.ofList ((serviceId.toList ++ ['.']) ++ ['%']) := by
    apply String.toList_inj.mp
    simp
  have hkey : addressKey address = String.ofList
      (address.name.toList ++ '.' :: Nat.toDigits 10 address.deviceId.toNat) := by
    apply String.toList_inj.mp
    simp [addressKey]
  have hdigit : ∀ c ∈ Nat.toDigits 10 address.deviceId.toNat, c.isDigit = true :=
    fun c hc => Nat.isDigit_of_mem_toDigits (by decide) (by decide) hc
  rw [hpattern, hkey, Sqlite.likeText_prefix_iff] at hmatches
  · -- both sides up to their first dot
    rw [List.map_take, List.map_append, List.map_append, List.map_cons, List.map_cons] at hmatches
    have hbegins := List.take_append_drop (serviceId.toList ++ ['.']).length
      (foldedName address.name ++ '.' :: (Nat.toDigits 10 address.deviceId.toNat).map Char.toLower)
    have hfront := congrArg (List.takeWhile (· ≠ '.')) hbegins
    rw [takeWhile_dot (hdot hname)] at hfront
    rw [← hfront, show ((foldedName address.name ++
      '.' :: (Nat.toDigits 10 address.deviceId.toNat).map Char.toLower).take
        (serviceId.toList ++ ['.']).length) = foldedName serviceId ++ ['.'] from hmatches,
      List.append_assoc]
    exact takeWhile_dot (hdot hplain)
  · intro c hc
    rcases List.mem_append.mp hc with hc | hc
    · exact ⟨(hplain c hc).1, (hplain c hc).2.1⟩
    · rw [List.mem_singleton.mp hc]
      decide
  · intro c hc
    rcases List.mem_append.mp hc with hc | hc
    · exact (hplain c hc).2.2.2
    · rw [List.mem_singleton.mp hc]
      decide
  · intro c hc
    rcases List.mem_append.mp hc with hc | hc
    · exact (hname c hc).2.2.2
    · rcases List.mem_cons.mp hc with rfl | hc
      · decide
      · exact fun heq => absurd (hdigit c hc) (by rw [heq]; decide)

/-- Plain names that differ in more than case are told apart, for ids below 2³¹. -/
theorem knownDevices_of_plain (honly : AddressesOnly db accountName) (hplain : PlainName serviceId)
    (hnames : ∀ address, StoredSession db accountName address →
      PlainName address.name ∧ (foldedName address.name = foldedName serviceId → address.name = serviceId))
    (hreadable : ∀ d : UInt32, StoredSession db accountName ⟨serviceId, d⟩ → d.toNat ≤ 2147483647) :
    KnownDevices db accountName serviceId := by
  refine knownDevices_of_toldApart honly ⟨hreadable, fun address hstored hother hmatches => ?_⟩
  obtain ⟨hname, hcase⟩ := hnames address hstored
  exact absurd (hcase (foldedName_of_likeText hplain hname hmatches)) hother

end Signal2sip
