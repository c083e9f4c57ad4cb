import Signal2sip.Laws.GendbRows
import Signal2sip.Lib.Run
import Signal2sip.Storage.OwnRows

/-!
# Saving a finished account

`saveFinishedAccount` saves what the server has already agreed to: the account row, then six keys. The
seven writes commit one by one, and the row that `requireNoExistingAccount` looks for is the first.

- `savedWhole_iff`: all or nothing is saved exactly when no write fails, or the first one does;
- `retries_refused`: from any failure between the two on there is a row, whose keys are missing, and
  every `verify` and `link` of the account is refused.
-/

namespace Signal2sip

open Sqlite (Faults)

variable {db : Db} {accountName : String} {account : FinishedAccount} {now : Int} {fs : Nat → Faults}

/-! ## The writes when nothing fails -/

/-- The one step of a write does not fail, nor does its prepare. -/
def Passes (f : Faults) : Prop := f.prepare = none ∧ f.step 0 = none

/-- No write of `saveFinishedAccount` fails. -/
def NoneFails (fs : Nat → Faults) : Prop := ∀ i < 7, Passes (fs i)

/-- An upsert of an account with a row meets no constraint. -/
theorem upsertIdentity_accepted {α : Type} (haccount : accountName ∈ db.account) {identity : String}
    (hidentity : identity = "aci" ∨ identity = "pni") (t : Table (String × String) α) (v : α) :
    upsertIdentity db accountName identity t v = .ok (t.insert (accountName, identity) v) := by
  rw [upsertIdentity, if_pos hidentity, upsert, if_pos (Or.inr haccount)]

/-- So a key write that does not fail writes its key. -/
theorem keyWrite_passes {α : Type} (haccount : accountName ∈ db.account) {identity : String}
    (hidentity : identity = "aci" ∨ identity = "pni") {f : Faults} (hf : Passes f)
    (t : Table (String × String) α) (v : α) (g : Table (String × String) α → Db)
    (failed : Sqlite.Error → RuntimeError) :
    (Sqlite.execute prepareFailed failed f
      ((upsertIdentity db accountName identity t v).map g)).value =
        .ok (g (t.insert (accountName, identity) v)) := by
  rw [upsertIdentity_accepted haccount hidentity]
  exact Sqlite.execute_ok_iff.mpr ⟨hf.1, hf.2, rfl⟩

/-- The file with all seven records. -/
def withFinishedAccount (db : Db) (accountName : String) (account : FinishedAccount) (now : Int) : Db :=
  { Storage.withSavedAccount db accountName (account.record now) with
    identityKeypair := (db.identityKeypair.insert (accountName, "aci") account.aciIdentity).insert
      (accountName, "pni") account.pniIdentity
    signedPrekey := (db.signedPrekey.insert (accountName, "aci") account.aciSignedPreKey).insert
      (accountName, "pni") account.pniSignedPreKey
    kyberPrekey := (db.kyberPrekey.insert (accountName, "aci") account.aciKyberPreKey).insert
      (accountName, "pni") account.pniKyberPreKey }

/-- A write that returns is followed by the next one. -/
theorem writeAll_cons_ok {write : Db → Result Db} {writes : List (Db → Result Db)} {db' : Db}
    (h : (write db).value = .ok db') : writeAll (write :: writes) db = writeAll writes db' := by
  rw [writeAll, h]

theorem saveFinishedAccount_passes (hpass : NoneFails fs) :
    saveFinishedAccount db accountName account now fs =
      (withFinishedAccount db accountName account now, none) := by
  have hrow : accountName ∈ (Storage.withSavedAccount db accountName (account.record now)).account :=
    AList.mem_insert _ |>.mpr (Or.inl rfl)
  have haci : "aci" = "aci" ∨ "aci" = "pni" := Or.inl rfl
  have hpni : "pni" = "aci" ∨ "pni" = "pni" := Or.inr rfl
  have hsaved : (Storage.saveAccount db accountName (account.record now) (fs 0)).value =
      .ok (Storage.withSavedAccount db accountName (account.record now)) :=
    Sqlite.execute_ok_iff.mpr ⟨(hpass 0 (by decide)).1, (hpass 0 (by decide)).2, rfl⟩
  rw [saveFinishedAccount, writeAll_cons_ok hsaved,
    writeAll_cons_ok (keyWrite_passes hrow haci (hpass 1 (by decide)) _ _ _ _),
    writeAll_cons_ok (keyWrite_passes hrow hpni (hpass 2 (by decide)) _ _ _ _),
    writeAll_cons_ok (keyWrite_passes hrow haci (hpass 3 (by decide)) _ _ _ _),
    writeAll_cons_ok (keyWrite_passes hrow hpni (hpass 4 (by decide)) _ _ _ _),
    writeAll_cons_ok (keyWrite_passes hrow haci (hpass 5 (by decide)) _ _ _ _),
    writeAll_cons_ok (keyWrite_passes hrow hpni (hpass 6 (by decide)) _ _ _ _)]
  rfl

/-- The seven records are in the file, with the data of the account. -/
structure HoldsFinished (db : Db) (accountName : String) (account : FinishedAccount) (now : Int) :
    Prop where
  record : (Storage.loadAccount db accountName .quiet).value = .ok (account.record now)
  aciIdentity :
    (Storage.loadIdentityKeypair db accountName "aci" .quiet).value = .ok (some account.aciIdentity)
  pniIdentity :
    (Storage.loadIdentityKeypair db accountName "pni" .quiet).value = .ok (some account.pniIdentity)
  aciSignedPreKey :
    (Storage.loadSignedPrekey db accountName "aci" .quiet).value = .ok (some account.aciSignedPreKey)
  pniSignedPreKey :
    (Storage.loadSignedPrekey db accountName "pni" .quiet).value = .ok (some account.pniSignedPreKey)
  aciKyberPreKey :
    (Storage.loadKyberPrekey db accountName "aci" .quiet).value = .ok (some account.aciKyberPreKey)
  pniKyberPreKey :
    (Storage.loadKyberPrekey db accountName "pni" .quiet).value = .ok (some account.pniKyberPreKey)

theorem holdsFinished (hnew : db.row accountName = none) (account : FinishedAccount) (now : Int) :
    HoldsFinished (withFinishedAccount db accountName account now) accountName account now := by
  have hkey {α : Type} (t : Table (String × String) α) (aci pni : α) :
      (Storage.lookupRow ((t.insert (accountName, "aci") aci).insert (accountName, "pni") pni)
          (accountName, "aci") .quiet).value = .ok (some aci) ∧
        (Storage.lookupRow ((t.insert (accountName, "aci") aci).insert (accountName, "pni") pni)
          (accountName, "pni") .quiet).value = .ok (some pni) := by
    constructor
    · refine Storage.lookupRow_ok_iff.mpr ⟨rfl, ?_⟩
      rw [if_pos (show Faults.quiet.step 0 = none from rfl), AList.lookup_insert_ne (by simp),
        AList.lookup_insert]
    · refine Storage.lookupRow_ok_iff.mpr ⟨rfl, ?_⟩
      rw [if_pos (show Faults.quiet.step 0 = none from rfl), AList.lookup_insert]
  have hrow : (withFinishedAccount db accountName account now).row accountName =
      some (account.record now) := by
    show (db.account.insert accountName _).lookup accountName = _
    rw [AList.lookup_insert, hnew]
    rfl
  obtain ⟨haciIdentity, hpniIdentity⟩ :=
    hkey db.identityKeypair account.aciIdentity account.pniIdentity
  obtain ⟨haciSigned, hpniSigned⟩ :=
    hkey db.signedPrekey account.aciSignedPreKey account.pniSignedPreKey
  obtain ⟨haciKyber, hpniKyber⟩ := hkey db.kyberPrekey account.aciKyberPreKey account.pniKyberPreKey
  exact ⟨Storage.loadAccount_ok_iff.mpr ⟨rfl, rfl, hrow⟩, haciIdentity, hpniIdentity, haciSigned,
    hpniSigned, haciKyber, hpniKyber⟩

/-! ## The retry -/

/-- With a row there, the check of `verify` and `link` throws, whatever else is there. -/
theorem requireNoExistingAccount_refuses (hrow : accountName ∈ db.account) {f : CommandFaults}
    (hf : Passes f.hasAccount) : ∃ e, requireNoExistingAccount db accountName f = .error e := by
  have hhas : (Storage.hasAccount db accountName f.hasAccount).value = .ok true := by
    rw [Storage.hasAccount, Sqlite.Outcome.map_value, if_pos hrow,
      Sqlite.firstRow_ok_iff.mpr ⟨hf.1, by rw [if_pos hf.2]⟩]
    rfl
  rw [requireNoExistingAccount, hhas]
  exact ⟨_, rfl⟩

/-- Without one it passes. -/
theorem requireNoExistingAccount_passes (hrow : db.row accountName = none) {f : CommandFaults}
    (hf : Passes f.hasAccount) : requireNoExistingAccount db accountName f = .ok () := by
  have hhas : (Storage.hasAccount db accountName f.hasAccount).value = .ok false := by
    rw [Storage.hasAccount, Sqlite.Outcome.map_value, if_neg (AList.lookup_eq_none.mp hrow),
      Sqlite.firstRow_ok_iff.mpr ⟨hf.1, by rw [if_pos hf.2]⟩]
    rfl
  rw [requireNoExistingAccount, hhas]
  rfl

/-- A `verify` or a `link` for an account with a row ends with an exception and changes nothing. -/
theorem existing_refused (config : DaemonConfig) (files : Files) (f : CommandFaults)
    (hrow : accountName ∈ files.db.account) (hf : Passes f.hasAccount) :
    (∀ r : VerifyReplies, ∃ e, cmdVerify config files accountName f r = (files, some e)) ∧
      ∀ r : LinkReplies, ∃ e, cmdLink config files accountName f r = (files, some e) := by
  obtain ⟨e, hrefused⟩ := requireNoExistingAccount_refuses hrow hf
  have hchecks {α : Type} (k : Unit → Except RuntimeError α) :
      ∃ e, (do succeeds f.openStorage; let x ← requireNoExistingAccount files.db accountName f; k x) =
        Except.error e := by
    rw [hrefused]
    cases f.openStorage with
    | none => exact ⟨e, rfl⟩
    | some e' => exact ⟨e', rfl⟩
  constructor
  · intro r
    obtain ⟨e, htarget⟩ : ∃ e, verifyTarget config files accountName f = .error e := hchecks _
    have hverify : verifyChecks config files accountName f r = .error e := by
      rw [verifyChecks, htarget]
      rfl
    exact ⟨e, by rw [cmdVerify, hverify]⟩
  · intro r
    obtain ⟨e, hlink⟩ : ∃ e, linkChecks config files accountName f r = .error e := hchecks _
    exact ⟨e, by rw [cmdLink, hlink]⟩

/-- A run that tries to register or link the account, and whose `hasAccount` answers. -/
structure Invocation.Retries (accountName : String) (i : Invocation) : Prop where
  name : i.accountName = accountName
  command : (∃ r, i.command = .verify r) ∨ ∃ r, i.command = .link r
  hasAccount : Passes i.faults.hasAccount

theorem retry_refused {files : Files} (hrow : accountName ∈ files.db.account) {i : Invocation}
    (hi : i.Retries accountName) : ∃ e, i.run files = (files, some e) := by
  obtain ⟨name, command, file, load, f⟩ := i
  obtain ⟨rfl, hcommand, hf⟩ := hi
  unfold Invocation.run
  split
  · next e _ => exact ⟨e, rfl⟩
  · next config _ =>
    obtain ⟨hverify, hlink⟩ := existing_refused config files f hrow hf
    rcases hcommand with ⟨r, rfl⟩ | ⟨r, rfl⟩
    · exact hverify r
    · exact hlink r

/-- No number of retries changes that. -/
theorem retries_refused {files : Files} (hrow : accountName ∈ files.db.account)
    (retries : List Invocation) (hretries : ∀ i ∈ retries, i.Retries accountName) :
    Runs.final (fun files i => (i.run files).1) files retries = files := by
  induction retries with
  | nil => rfl
  | cons i retries ih =>
    obtain ⟨e, hrun⟩ := retry_refused hrow (hretries i List.mem_cons_self)
    rw [Runs.final_cons, hrun]
    exact ih fun i' hi' => hretries i' (List.mem_cons_of_mem i hi')

/-! ## All or nothing -/

/-- The account is saved completely, or as if nothing had been tried. -/
structure SavedWhole (db : Db) (accountName : String) (account : FinishedAccount) (now : Int)
    (fs : Nat → Faults) : Prop where
  passes : NoneFails fs →
    (saveFinishedAccount db accountName account now fs).2 = none ∧
      HoldsFinished (saveFinishedAccount db accountName account now fs).1 accountName account now
  fails : ¬ NoneFails fs →
    (∃ e, (saveFinishedAccount db accountName account now fs).2 = some e) ∧
      SameRows accountName (saveFinishedAccount db accountName account now fs).1 db ∧
      (Storage.hasAccount (saveFinishedAccount db accountName account now fs).1 accountName
        .quiet).value = .ok false ∧
      requireNoExistingAccount (saveFinishedAccount db accountName account now fs).1 accountName {} =
        .ok ()

/-- The first write decides whether there is a row at the end. -/
theorem saveFinishedAccount_mem (hfirst : Passes (fs 0)) :
    accountName ∈ (saveFinishedAccount db accountName account now fs).1.account := by
  rcases saveFinishedAccount_cases db accountName account now fs with ⟨-, -, hrows⟩ | ⟨hno, -⟩
  · have hrow := hrows accountName
    rw [Db.row, Db.row, Storage.withSavedAccount, AList.lookup_insert] at hrow
    exact AList.lookup_isSome.mp (by rw [hrow]; rfl)
  · exact absurd hfirst hno

/-- When the first write fails it throws, and nothing is written. -/
theorem saveFinishedAccount_first_fails (db : Db) (accountName : String) (account : FinishedAccount)
    (now : Int) (hfirst : ¬ Passes (fs 0)) :
    ∃ e, saveFinishedAccount db accountName account now fs = (db, some e) := by
  rcases Storage.saveAccount_cases db accountName (account.record now) (fs 0) with
    ⟨hprepare, hstep, -⟩ | ⟨-, e, hsave⟩
  · exact absurd ⟨hprepare, hstep⟩ hfirst
  · exact ⟨e, by rw [saveFinishedAccount, writeAll, hsave]⟩

/-- A new account is saved completely or not at all exactly when no write fails or the first one
does. -/
theorem savedWhole_iff (hnew : db.row accountName = none) (account : FinishedAccount) (now : Int)
    (fs : Nat → Faults) :
    SavedWhole db accountName account now fs ↔ NoneFails fs ∨ ¬ Passes (fs 0) := by
  constructor
  · intro hwhole
    by_contra hnot
    obtain ⟨hfail, hfirst⟩ := not_or.mp hnot
    -- the row is written, so a retry is refused
    obtain ⟨-, -, -, hretry⟩ := hwhole.fails hfail
    obtain ⟨e, hrefused⟩ := requireNoExistingAccount_refuses
      (saveFinishedAccount_mem (not_not.mp hfirst)) (f := {}) ⟨rfl, rfl⟩
    rw [hretry] at hrefused
    cases hrefused
  · rintro (hpass | hfirst)
    · refine ⟨fun _ => ?_, fun hfail => absurd hpass hfail⟩
      rw [saveFinishedAccount_passes hpass]
      exact ⟨rfl, holdsFinished hnew account now⟩
    · refine ⟨fun hpass => absurd (hpass 0 (by decide)) hfirst, fun _ => ?_⟩
      obtain ⟨e, hsave⟩ := saveFinishedAccount_first_fails db accountName account now hfirst
      rw [hsave]
      refine ⟨⟨e, rfl⟩, SameRows.refl accountName db, ?_, requireNoExistingAccount_passes hnew ⟨rfl, rfl⟩⟩
      rw [Storage.hasAccount, Sqlite.Outcome.map_value, if_neg (AList.lookup_eq_none.mp hnew)]
      rfl

/-- An account as `link` has it at the end. -/
def linkedTrunk : FinishedAccount where
  e164 := "+4930900"
  aci := "aci-0"
  pni := "pni-0"
  password := "secret"
  deviceId := 2
  registrationId := 17
  pniRegistrationId := 18
  aciIdentity := ⟨[1], [2]⟩
  pniIdentity := ⟨[3], [4]⟩
  aciSignedPreKey := ⟨1, [5]⟩
  pniSignedPreKey := ⟨1, [6]⟩
  aciKyberPreKey := ⟨1, [7]⟩
  pniKyberPreKey := ⟨1, [8]⟩
  flow := "linked"

/-- The write of the first key meets a locked database. -/
def lockedAfterFirst (i : Nat) : Faults :=
  if i = 1 then { step := fun _ => some ⟨.busy, "database is locked"⟩ } else .quiet

/-- A linked account in an empty file. -/
theorem savedWhole_linked : SavedWhole {} "trunk" linkedTrunk 7 fun _ => .quiet :=
  (savedWhole_iff rfl linkedTrunk 7 fun _ => .quiet).mpr (Or.inl fun _ _ => ⟨rfl, rfl⟩)

/-- The account row is saved, the keys are not, and `hasAccount` says that there is an account. -/
theorem lockedAfterFirst_refutes : (Db.row {} "trunk" = none) ∧
    ¬ SavedWhole {} "trunk" linkedTrunk 7 lockedAfterFirst := by
  refine ⟨rfl, fun hwhole => ?_⟩
  obtain ⟨-, -, hhas, -⟩ := hwhole.fails fun hpass => by cases (hpass 1 (by decide)).2
  have hthere : (Storage.hasAccount (saveFinishedAccount {} "trunk" linkedTrunk 7
      lockedAfterFirst).1 "trunk" .quiet).value = .ok true := rfl
  rw [hthere] at hhas
  cases hhas

end Signal2sip
