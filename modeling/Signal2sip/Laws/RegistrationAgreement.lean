import Signal2sip.Gendb.Registration
import Signal2sip.Laws.OneNumber
import Signal2sip.Laws.SavedRows
import Signal2sip.Lib.Log

/-!
# `gendb` and Signal's servers agree on the accounts

Two parties keep an account: the database, with its row and its private keys, and the server, which was
told the password, the ids and the public halves in the request that it has answered. `Agreement` says
that they have the same one, and that every request refers to what an earlier answer has made true: a
session that was created for the number, a session that was verified, an account that was registered
or linked.

- `agreement_always`: it holds at every point of every history of runs from an empty database;
- `account_lasts`: an account's identity and keys stay as they are until a run unlinks it, or the
  server confirms its deletion to the account itself.

Both need `hasAccount` to answer: a step that fails there reads as "no account".
-/

namespace Signal2sip.Registration

open Runs (Always Along)
open Log (Backed BackedAfter)

variable (lib : PreKeyLibrary)

/-! ## What is agreed on -/

/-- The two halves of a prekey: the record that is stored was made from the key that is sent, and the
identity has signed it. -/
structure Halves (make : UInt32 → UInt64 → Bytes → Bytes → Bytes → Bytes)
    (identity : IdentityKeypairRecord) (sent : WirePreKey) (keyId : Int) (record : Bytes) : Prop where
  sameId : sent.keyId = keyId
  made : ∃ key : KeyMaterial, sent.publicKey = key.publicKey ∧
    sent.signature = lib.sign identity.privateKey key.publicKey key.randomness ∧
    record = make (toUInt32 keyId) key.timestamp key.publicKey key.privateKey sent.signature

structure PrekeyHalves (identity : IdentityKeypairRecord) (signed : SignedPrekeyRecord)
    (kyber : KyberPrekeyRecord) (signedSent kyberSent : WirePreKey) : Prop where
  signed : Halves lib lib.signedPreKeyRecord identity signedSent signed.keyId signed.record
  kyber : Halves lib lib.kyberPreKeyRecord identity kyberSent kyber.keyId kyber.record

/-- The request registers the account. -/
structure RegisteredWith (account : FinishedAccount) (request : RegisterAccountRequest) : Prop where
  flow : account.flow = "standalone"
  deviceId : account.deviceId = 1
  password : request.accountPassword = account.password
  registrationId : (request.registrationId.toNat : Int) = account.registrationId
  pniRegistrationId : (request.pniRegistrationId.toNat : Int) = account.pniRegistrationId
  aci : ∃ signed kyber, PrekeyHalves lib account.aciIdentity account.aciSignedPreKey
    account.aciKyberPreKey signed kyber ∧
    request.aci = ⟨account.aciIdentity.publicKey, wireUpload signed, wireUpload kyber⟩
  pni : ∃ signed kyber, PrekeyHalves lib account.pniIdentity account.pniSignedPreKey
    account.pniKyberPreKey signed kyber ∧
    request.pni = ⟨account.pniIdentity.publicKey, wireUpload signed, wireUpload kyber⟩

/-- The body links the account. The identity keys were scanned, so they are not in it. -/
structure LinkedWith (account : FinishedAccount) (body : LinkBody) : Prop where
  flow : account.flow = "linked"
  registrationId : body.registrationId = account.registrationId
  pniRegistrationId : body.pniRegistrationId = account.pniRegistrationId
  aci : ∃ signed kyber, PrekeyHalves lib account.aciIdentity account.aciSignedPreKey
    account.aciKyberPreKey signed kyber ∧
    body.aciSignedPreKey = preKeyJson signed ∧ body.aciPqLastResortPreKey = preKeyJson kyber
  pni : ∃ signed kyber, PrekeyHalves lib account.pniIdentity account.pniSignedPreKey
    account.pniKyberPreKey signed kyber ∧
    body.pniSignedPreKey = preKeyJson signed ∧ body.pniPqLastResortPreKey = preKeyJson kyber

/-- The server has answered with the account: it was registered in a session for its number that was
verified, or linked. -/
inductive Accepted (said : List Exchange) (account : FinishedAccount) : Prop
  | registered {sessionId code : String} {request : RegisterAccountRequest}
    (hsaid : [.resumeSession sessionId account.e164 true,
      .submitVerificationCode sessionId code (some true),
      .registerAccount sessionId request (some (account.aci, account.pni))] <:+: said)
    (hrequest : RegisteredWith lib account request)
  | linked {username : String} {body : LinkBody}
    (hsaid : .linkDevice username account.password body
      (some ⟨account.aci, account.pni, account.deviceId⟩) ∈ said)
    (hbody : LinkedWith lib account body)

/-- The row is that of an account that the server has answered with. -/
def AcceptedRecord (said : List Exchange) (record : AccountRecord) : Prop :=
  ∃ account now, Accepted lib said account ∧
    record.toIdentityColumns = (account.record now).toIdentityColumns

/-- What the database has of an account is what the server has accepted. -/
def Agreed (said : List Exchange) (saved : SavedRows) : Prop :=
  match saved.row with
  | none => saved = .none
  | some record => ∃ account now, Accepted lib said account ∧
      record.toIdentityColumns = (account.record now).toIdentityColumns ∧ saved.KeysOf account

/-- The user name and the password are those of an account that the server has answered with. -/
def Authentic (said : List Exchange) (user password : String) (also : AccountRecord → Prop) : Prop :=
  ∃ record, AcceptedRecord lib said record ∧ user = username record ∧ password = record.password ∧
    also record

/-- What a request refers to has been said. -/
def Follows (said : List Exchange) : Exchange → Prop
  | .createSession _ _ | .linkDevice _ _ _ _ => True
  | .resumeSession sessionId number _ => .createSession number (some sessionId) ∈ said
  | .submitCaptcha sessionId _ | .submitVerificationCode sessionId _ _ =>
    ∃ number, .resumeSession sessionId number true ∈ said
  | .requestVerificationCode sessionId _ => ∃ number, .createSession number (some sessionId) ∈ said
  | .registerAccount sessionId _ _ => ∃ code, .submitVerificationCode sessionId code (some true) ∈ said
  | .putAttributes user password body _ => Authentic lib said user password fun record =>
      body.registrationId = record.registrationId ∧ body.pniRegistrationId = record.pniRegistrationId
  | .removeRegistrationLock user password _ | .deleteAccount user password _ =>
    Authentic lib said user password fun _ => True

structure Agreement (h : History) : Prop where
  accounts : ∀ name, Agreed lib h.exchanges (h.files.db.saved name)
  pending : ∀ name pending, h.files.pending.lookup name = some pending →
    .createSession pending.e164 (some pending.sessionId) ∈ h.exchanges
  backed : Backed (Follows lib) h.exchanges

variable {lib}

/-! ## More is said -/

section Monotone

variable {said more : List Exchange} {account : FinishedAccount}

theorem Accepted.append_left (h : Accepted lib more account) : Accepted lib (said ++ more) account := by
  cases h with
  | registered hsaid hrequest => exact .registered (hsaid.trans (List.suffix_append _ _).isInfix) hrequest
  | linked hsaid hbody => exact .linked (List.mem_append_right said hsaid) hbody

theorem Accepted.append_right (h : Accepted lib said account) : Accepted lib (said ++ more) account := by
  cases h with
  | registered hsaid hrequest => exact .registered (hsaid.trans (List.prefix_append _ _).isInfix) hrequest
  | linked hsaid hbody => exact .linked (List.mem_append_left more hsaid) hbody

theorem AcceptedRecord.append_right {record : AccountRecord} (h : AcceptedRecord lib said record) :
    AcceptedRecord lib (said ++ more) record := by
  obtain ⟨account, now, haccepted, hrow⟩ := h
  exact ⟨account, now, haccepted.append_right, hrow⟩

theorem Agreed.append_right {saved : SavedRows} (h : Agreed lib said saved) :
    Agreed lib (said ++ more) saved := by
  unfold Agreed at h ⊢
  split at h
  · exact h
  · obtain ⟨account, now, haccepted, hrow, hkeys⟩ := h
    exact ⟨account, now, haccepted.append_right, hrow, hkeys⟩

/-- A row is that of an accepted account. -/
theorem Agreed.record {saved : SavedRows} {record : AccountRecord} (h : Agreed lib said saved)
    (hrow : saved.row = some record) : AcceptedRecord lib said record := by
  rw [Agreed, hrow] at h
  obtain ⟨account, now, haccepted, hidentity, -⟩ := h
  exact ⟨account, now, haccepted, hidentity⟩

theorem Agreed.of_none {saved : SavedRows} (h : Agreed lib said saved) (hrow : saved.row = none) :
    saved = .none := by
  rwa [Agreed, hrow] at h

end Monotone

/-! ## What is sent -/

section Sent

variable {identity : IdentityKeypairRecord} {aciPrivateKey pniPrivateKey : Bytes}

theorem halves_signed (identity : IdentityKeypairRecord) (keyId : Int) (key : KeyMaterial) :
    Halves lib lib.signedPreKeyRecord identity
      (generateSignedPreKey lib identity.privateKey keyId key).wire
      (generateSignedPreKey lib identity.privateKey keyId key).stored.keyId
      (generateSignedPreKey lib identity.privateKey keyId key).stored.record :=
  ⟨rfl, key, rfl, rfl, rfl⟩

theorem halves_kyber (identity : IdentityKeypairRecord) (keyId : Int) (key : KeyMaterial) :
    Halves lib lib.kyberPreKeyRecord identity
      (generateKyberPreKey lib identity.privateKey keyId key).wire
      (generateKyberPreKey lib identity.privateKey keyId key).stored.keyId
      (generateKyberPreKey lib identity.privateKey keyId key).stored.record :=
  ⟨rfl, key, rfl, rfl, rfl⟩

/-- A registration id fits the 16 bits of the request. -/
theorem toUInt16_registrationId (id : RegistrationId) : ((toUInt16 id.val).toNat : Int) = id.val := by
  obtain ⟨n, hlow, hhigh⟩ := id
  show (((BitVec.ofInt 16 n).toNat : Nat) : Int) = n
  rw [BitVec.toNat_ofInt]
  omega

/-- The account that `verify` saves. -/
def VerifyAttempt.account (lib : PreKeyLibrary) (a : VerifyAttempt) (e164 password aci pni : String) :
    FinishedAccount where
  e164
  aci
  pni
  password
  registrationId := a.registrationId.val
  pniRegistrationId := a.pniRegistrationId.val
  aciIdentity := a.aciIdentity
  pniIdentity := a.pniIdentity
  aciSignedPreKey := (a.generated lib).aciSignedPreKey.stored
  pniSignedPreKey := (a.generated lib).pniSignedPreKey.stored
  aciKyberPreKey := (a.generated lib).aciKyberPreKey.stored
  pniKyberPreKey := (a.generated lib).pniKyberPreKey.stored
  flow := "standalone"

theorem VerifyAttempt.registeredWith (a : VerifyAttempt) (e164 password aci pni : String) :
    RegisteredWith lib (a.account lib e164 password aci pni) (a.request lib password) where
  flow := rfl
  deviceId := rfl
  password := rfl
  registrationId := toUInt16_registrationId a.registrationId
  pniRegistrationId := toUInt16_registrationId a.pniRegistrationId
  aci := ⟨_, _, ⟨halves_signed a.aciIdentity _ _, halves_kyber a.aciIdentity _ _⟩, rfl⟩
  pni := ⟨_, _, ⟨halves_signed a.pniIdentity _ _, halves_kyber a.pniIdentity _ _⟩, rfl⟩

/-- The account that `link` saves. -/
def LinkAttempt.account (lib : PreKeyLibrary) (a : LinkAttempt) (result : ProvisionMessageResult)
    (e164 : String) (device : LinkedDevice) : FinishedAccount where
  e164
  aci := device.uuid
  pni := device.pni
  password := a.password
  deviceId := device.deviceId
  registrationId := a.registrationId.val
  pniRegistrationId := a.pniRegistrationId.val
  aciIdentity := result.aciIdentity
  pniIdentity := result.pniIdentity
  aciSignedPreKey := (a.generated lib result).aciSignedPreKey.stored
  pniSignedPreKey := (a.generated lib result).pniSignedPreKey.stored
  aciKyberPreKey := (a.generated lib result).aciKyberPreKey.stored
  pniKyberPreKey := (a.generated lib result).pniKyberPreKey.stored
  flow := "linked"
  accountEntropyPool := result.accountEntropyPool
  mediaRootBackupKey := result.mediaRootBackupKey
  profileKey := result.profileKey

theorem LinkAttempt.linkedWith (a : LinkAttempt) (provisioned : ProvisionedDevice) (e164 : String)
    (device : LinkedDevice) :
    LinkedWith lib (a.account lib provisioned.result e164 device) (a.body lib provisioned) where
  flow := rfl
  registrationId := rfl
  pniRegistrationId := rfl
  aci := ⟨_, _, ⟨halves_signed provisioned.result.aciIdentity _ _,
    halves_kyber provisioned.result.aciIdentity _ _⟩, rfl, rfl⟩
  pni := ⟨_, _, ⟨halves_signed provisioned.result.pniIdentity _ _,
    halves_kyber provisioned.result.pniIdentity _ _⟩, rfl, rfl⟩

end Sent

/-! ## What a run leaves -/

/-- Why a run takes an account's rows away: `unlink`, or the server has confirmed the deletion that the
account itself asked for. -/
def Attempt.Ends (lib : PreKeyLibrary) (a : Attempt) (files : Files) (record : AccountRecord) : Prop :=
  a.action = .unlink ∨ ∃ status, status / 100 = 2 ∧
    .deleteAccount (username record) record.password (some status) ∈ a.exchanges lib files

/-- The files after a run, with the exchanges of the run that made them so. -/
inductive Attempt.Leaves (lib : PreKeyLibrary) (a : Attempt) (files : Files) : Files → Prop
  | same : Leaves lib a files files
  | pended {pending : PendingRegistration}
    (hcreated : .createSession pending.e164 (some pending.sessionId) ∈ a.exchanges lib files) :
    Leaves lib a files { files with pending := files.pending.insert a.accountName pending }
  | saved {account : FinishedAccount} {now : Int} {pending : Table String PendingRegistration}
    (hnone : files.db.row a.accountName = none)
    (haccepted : Accepted lib (a.exchanges lib files) account)
    (hpending : pending = files.pending ∨ pending = files.pending.erase a.accountName) :
    Leaves lib a files
      ⟨(saveFinishedAccount files.db a.accountName account now a.faults.finish).1, pending⟩
  | removed {record : AccountRecord} (hrow : files.db.row a.accountName = some record)
    (hends : a.Ends lib files record) :
    Leaves lib a files { files with db := withoutAccount files.db a.accountName }
  | configured (config : ConfigColumns) :
    Leaves lib a files
      { files with db := (Storage.updateAccountConfig files.db a.accountName config).1 }

theorem Attempt.Leaves.attempt {a : Attempt} {files : Files} {result : Except RuntimeError Files}
    (h : ∀ files', result = .ok files' → a.Leaves lib files files') :
    a.Leaves lib files (files.attempt result).1 := by
  cases result with
  | error e => exact .same
  | ok files' => exact h files' rfl

theorem saveChangedConfig_configures {files files' : Files} {accountName : String}
    {account : AccountRecord} {f : CommandFaults}
    (h : saveChangedConfig files accountName account f = .ok files') :
    files' = { files with
      db := (Storage.updateAccountConfig files.db accountName account.toConfigColumns).1 } := by
  have hdb := saveChangedConfig_ok h
  unfold saveChangedConfig at h
  cases hsave : (Storage.saveAccountConfig files.db accountName account f.saveAccountConfig).value with
  | error e =>
    rw [hsave] at h
    cases h
  | ok db =>
    rw [hsave] at h
    cases h
    rw [← hdb]

theorem deletePending_cases (files : Files) (accountName : String) (f : CommandFaults) :
    deletePending files accountName f = files.pending ∨
      deletePending files accountName f = files.pending.erase accountName := by
  unfold deletePending
  split
  · exact .inr rfl
  · exact .inl rfl

section Leaves

variable {config : DaemonConfig} {files : Files} {a : Attempt}

theorem leaves_register {e164 transport : String} {r : RegisterReplies}
    (hload : DaemonConfig.load a.file files.db a.load = .ok config)
    (haction : a.action = .register e164 transport r) :
    a.Leaves lib files (cmdRegister config files a.accountName e164 transport a.faults r).1 := by
  unfold cmdRegister
  split
  · exact .same
  · exact .same
  · exact .same
  · next account session hchecks hsession _ =>
    refine .pended ?_
    rw [Attempt.exchanges, hload]
    simp only [haction, registerExchanges, hchecks, hsession]
    exact List.mem_cons_self

theorem leaves_verify {v : VerifyAttempt} (hquiet : a.faults.hasAccount = .quiet)
    (hload : DaemonConfig.load a.file files.db a.load = .ok config) (haction : a.action = .verify v) :
    a.Leaves lib files (cmdVerify config files a.accountName a.faults (v.replies lib)).1 := by
  unfold cmdVerify
  split
  · exact .same
  · exact .same
  · exact .same
  · next e164 pending aci pni hchecks hregister =>
    obtain ⟨htarget, hresume, hsubmit⟩ := verifyChecks_ok_iff.mp hchecks
    obtain ⟨-, hnone, -, -, -⟩ := verifyTarget_ok_iff.mp htarget
    have hresumed : v.resumeSession = none := hresume
    have hsubmitted : v.submitVerificationCode = .ok true := hsubmit
    have hregistered : v.registerAccount = .ok (aci, pni) := hregister
    have hexchanges : a.exchanges lib files =
        [.resumeSession pending.sessionId e164 true,
          .submitVerificationCode pending.sessionId v.code (some true),
          .registerAccount pending.sessionId (v.request lib pending.password) (some (aci, pni))] := by
      rw [Attempt.exchanges, hload]
      simp only [haction, verifyExchanges, htarget, hresumed, hsubmitted, hregistered]
      rfl
    have haccepted : Accepted lib (a.exchanges lib files)
        (v.account lib e164 pending.password aci pni) := by
      rw [hexchanges]
      exact .registered (List.infix_refl _) (v.registeredWith e164 pending.password aci pni)
    have hrow := requireNoExistingAccount_ok hquiet hnone
    split <;> next hsave =>
      obtain rfl := congrArg Prod.fst hsave
      first
        | exact .saved hrow haccepted (.inl rfl)
        | exact .saved hrow haccepted (deletePending_cases files a.accountName a.faults)

theorem leaves_link {l : LinkAttempt} (hquiet : a.faults.hasAccount = .quiet)
    (hload : DaemonConfig.load a.file files.db a.load = .ok config) (haction : a.action = .link l) :
    a.Leaves lib files (cmdLink config files a.accountName a.faults (l.replies lib)).1 := by
  unfold cmdLink
  split
  · exact .same
  · exact .same
  · exact .same
  · next result e164 device hchecks hresponse =>
    obtain ⟨-, hnone, hprovisioned, -, -⟩ := linkChecks_ok_iff.mp hchecks
    have hresponded : l.response = .ok (some device) := hresponse
    have hscanned : l.provisioned.map (·.result) = .ok result := hprovisioned
    cases hdevice : l.provisioned with
    | error e =>
      rw [hdevice] at hscanned
      cases hscanned
    | ok provisioned =>
      rw [hdevice] at hscanned
      obtain rfl := Except.ok.inj hscanned
      have haccepted : Accepted lib (a.exchanges lib files)
          (l.account lib provisioned.result e164 device) := by
        rw [Attempt.exchanges, hload]
        simp only [haction, linkExchanges, hchecks, hdevice, hresponded]
        exact .linked List.mem_cons_self (l.linkedWith provisioned e164 device)
      have hrow := requireNoExistingAccount_ok hquiet hnone
      simp only [LinkAttempt.replies, LinkAttempt.keys, hdevice]
      exact .saved hrow haccepted (.inl rfl)

/-- A removal needs the row, which `loadSavedAccount` has read. -/
theorem leaves_unlink (haction : a.action = .unlink) :
    a.Leaves lib files (cmdUnlink files a.accountName a.faults).1 := by
  apply Attempt.Leaves.attempt
  intro files' h
  obtain ⟨record, hload, hdelete⟩ := except_bind_ok.mp h
  rw [deleteSavedAccount_removes hdelete]
  exact .removed (loadSavedAccount_ok_iff.mp hload).2 (.inl haction)

theorem leaves_deleteAccount {d : DeleteAttempt}
    (hload : DaemonConfig.load a.file files.db a.load = .ok config)
    (haction : a.action = .deleteAccount d) :
    a.Leaves lib files (cmdDeleteAccount files a.accountName a.faults d.replies).1 := by
  apply Attempt.Leaves.attempt
  intro files' h
  obtain ⟨record, hloadAccount, h⟩ := except_bind_ok.mp h
  obtain ⟨_, hconnect, h⟩ := except_bind_ok.mp h
  obtain ⟨status, hstatus, h⟩ := except_bind_ok.mp h
  split at h
  · next hconfirmed =>
    rw [deleteSavedAccount_removes h]
    refine .removed (loadSavedAccount_ok_iff.mp hloadAccount).2 (.inr ⟨status, hconfirmed, ?_⟩)
    rw [Attempt.exchanges, hload]
    simp only [haction, deleteAccountExchanges, hloadAccount, succeeds_ok_iff.mp hconnect, hstatus]
    exact List.mem_cons_of_mem _ List.mem_cons_self
  · split at h
    · cases h
      exact .same
    · cases h

theorem leaves_configured {result : Except RuntimeError Files}
    (h : ∀ files', result = .ok files' → ∃ account,
      saveChangedConfig files a.accountName account a.faults = .ok files') :
    a.Leaves lib files (files.attempt result).1 := by
  apply Attempt.Leaves.attempt
  intro files' hresult
  obtain ⟨account, hsave⟩ := h files' hresult
  rw [saveChangedConfig_configures hsave]
  exact .configured account.toConfigColumns

/-- One lemma for each command, put together. -/
theorem Attempt.leaves (a : Attempt) (files : Files) (hquiet : a.faults.hasAccount = .quiet) :
    a.Leaves lib files (a.files lib files) := by
  unfold Attempt.files
  split
  · exact .same
  · next command hcommand =>
    unfold Invocation.run
    split
    · exact .same
    · next config hload =>
      have hload : DaemonConfig.load a.file files.db a.load = .ok config := hload
      cases haction : a.action with
      | register e164 transport r =>
        rw [haction] at hcommand
        obtain rfl := Option.some.inj hcommand
        exact leaves_register hload haction
      | registerCaptcha token r =>
        rw [haction] at hcommand
        cases hcommand
      | verify v =>
        rw [haction] at hcommand
        obtain rfl := Option.some.inj hcommand
        exact leaves_verify hquiet hload haction
      | link l =>
        rw [haction] at hcommand
        obtain rfl := Option.some.inj hcommand
        exact leaves_link hquiet hload haction
      | unlink =>
        rw [haction] at hcommand
        obtain rfl := Option.some.inj hcommand
        exact leaves_unlink haction
      | setFetchesMessages fetchesMessages r =>
        rw [haction] at hcommand
        cases hcommand
      | deleteAccount d =>
        rw [haction] at hcommand
        obtain rfl := Option.some.inj hcommand
        exact leaves_deleteAccount hload haction
      | configSet field value =>
        rw [haction] at hcommand
        obtain rfl := Option.some.inj hcommand
        refine leaves_configured fun files' h => ?_
        obtain ⟨_, -, h⟩ := except_bind_ok.mp h
        obtain ⟨_, -, h⟩ := except_bind_ok.mp h
        obtain ⟨account, -, hsave⟩ := except_bind_ok.mp h
        exact ⟨account, hsave⟩
      | setEnabled enabled =>
        rw [haction] at hcommand
        obtain rfl := Option.some.inj hcommand
        refine leaves_configured fun files' h => ?_
        obtain ⟨account, -, hsave⟩ := except_bind_ok.mp h
        exact ⟨_, hsave⟩

end Leaves

/-! ## What is said follows -/

section Said

variable {config : DaemonConfig} {h : History} {a : Attempt}

/-- Without a row the configuration has no number for the name. -/
theorem resolveAccount_absent {files : Files} {name : String} {file : Except RuntimeError GlobalConfig}
    {load : LoadFaults} (hload : DaemonConfig.load file files.db load = .ok config)
    (hnone : files.db.row name = none) : (resolveAccount config name).1.e164 = "" := by
  unfold resolveAccount
  split
  · next account hfind =>
    have hname : account.name = name := by simpa using List.find?_some hfind
    obtain ⟨record, hloads⟩ := (mem_load_accounts hload).mp (List.mem_of_find?_eq_some hfind)
    have hrow := hloads.read.row
    rw [hname, hnone] at hrow
    cases hrow
  · rfl

theorem loadPending_ok_iff {files : Files} {name : String} {pending : PendingRegistration} :
    loadPending files name = .ok pending ↔ files.pending.lookup name = some pending := by
  unfold loadPending
  split
  · next h => simp [h]
  · next h => simp [h]

theorem follows_register (e164 transport : String) (r : RegisterReplies) :
    BackedAfter (Follows lib) h.exchanges
      (registerExchanges config h.files a.accountName a.faults e164 transport r) := by
  unfold registerExchanges
  split
  · exact Log.backedAfter_nil
  · next account _ =>
    refine Log.backedAfter_cons.mpr ⟨trivial, ?_⟩
    cases r.session with
    | error e => exact Log.backedAfter_nil
    | ok session =>
      dsimp only
      split
      · exact Log.backedAfter_cons.mpr
          ⟨⟨account.e164, List.mem_append_right _ List.mem_cons_self⟩, Log.backedAfter_nil⟩
      · exact Log.backedAfter_nil

theorem follows_registerCaptcha (hagreed : Agreement lib h) (token : String) (r : CaptchaReplies) :
    BackedAfter (Follows lib) h.exchanges (registerCaptchaExchanges h.files a.accountName token r) := by
  unfold registerCaptchaExchanges
  generalize cleanCaptchaToken token = cleaned
  split
  · exact Log.backedAfter_nil
  · next pending hpending =>
    have hcreated := hagreed.pending a.accountName pending (loadPending_ok_iff.mp hpending)
    split
    · exact Log.backedAfter_nil
    · refine Log.backedAfter_cons.mpr ⟨hcreated, ?_⟩
      cases r.resumeSession with
      | some e => exact Log.backedAfter_nil
      | none =>
        refine Log.backedAfter_cons.mpr
          ⟨⟨pending.e164, List.mem_append_right _ List.mem_cons_self⟩, ?_⟩
        cases r.submitCaptcha with
        | error e => exact Log.backedAfter_nil
        | ok session =>
          dsimp only
          split
          · refine Log.backedAfter_cons.mpr ⟨⟨pending.e164, ?_⟩, Log.backedAfter_nil⟩
            exact List.mem_append_left _ (List.mem_append_left _ hcreated)
          · exact Log.backedAfter_nil

theorem follows_verify (hagreed : Agreement lib h) (hquiet : a.faults.hasAccount = .quiet)
    (hload : DaemonConfig.load a.file h.files.db a.load = .ok config) (v : VerifyAttempt) :
    BackedAfter (Follows lib) h.exchanges
      (verifyExchanges lib config h.files a.accountName a.faults v) := by
  unfold verifyExchanges
  split
  · exact Log.backedAfter_nil
  · next e164 pending htarget =>
    obtain ⟨-, hnone, hpending, he164, -⟩ := verifyTarget_ok_iff.mp htarget
    have hcreated := hagreed.pending a.accountName pending (loadPending_ok_iff.mp hpending)
    -- there is no row, so the number is that of the session
    have hnumber : e164 = pending.e164 := by
      rw [he164, verifiedNumber,
        if_pos (resolveAccount_absent hload (requireNoExistingAccount_ok hquiet hnone))]
    subst hnumber
    refine Log.backedAfter_cons.mpr ⟨hcreated, ?_⟩
    cases v.resumeSession with
    | some e => exact Log.backedAfter_nil
    | none =>
      refine Log.backedAfter_cons.mpr
        ⟨⟨pending.e164, List.mem_append_right _ List.mem_cons_self⟩, ?_⟩
      cases v.submitVerificationCode with
      | error e => exact Log.backedAfter_nil
      | ok verified =>
        cases verified with
        | false => exact Log.backedAfter_nil
        | true =>
          exact Log.backedAfter_cons.mpr
            ⟨⟨v.code, List.mem_append_right _ List.mem_cons_self⟩, Log.backedAfter_nil⟩

theorem follows_link (l : LinkAttempt) :
    BackedAfter (Follows lib) h.exchanges
      (linkExchanges lib config h.files a.accountName a.faults l) := by
  unfold linkExchanges
  split
  · exact Log.backedAfter_cons.mpr ⟨trivial, Log.backedAfter_nil⟩
  · exact Log.backedAfter_nil

/-- The record that a command has loaded is that of an accepted account. -/
theorem loaded_accepted (hagreed : Agreement lib h) {hint : String} {record : AccountRecord}
    (hload : loadSavedAccount h.files.db a.accountName hint a.faults = .ok record) :
    AcceptedRecord lib h.exchanges record :=
  (hagreed.accounts a.accountName).record (loadSavedAccount_ok_iff.mp hload).2

theorem follows_attributes (hagreed : Agreement lib h) (fetchesMessages : Bool)
    (r : AttributesReplies) :
    BackedAfter (Follows lib) h.exchanges
      (attributesExchanges h.files a.accountName a.faults fetchesMessages r) := by
  unfold attributesExchanges
  split
  · next account hload _ =>
    extract_lets name
    cases name with
    | error e => exact Log.backedAfter_nil
    | ok name =>
      exact Log.backedAfter_cons.mpr
        ⟨⟨account, loaded_accepted hagreed hload, rfl, rfl, rfl, rfl⟩, Log.backedAfter_nil⟩
  · exact Log.backedAfter_nil

theorem follows_deleteAccount (hagreed : Agreement lib h) (d : DeleteAttempt) :
    BackedAfter (Follows lib) h.exchanges
      (deleteAccountExchanges h.files a.accountName a.faults d) := by
  unfold deleteAccountExchanges
  split
  · next account hload _ =>
    have haccepted := loaded_accepted hagreed hload
    refine Log.backedAfter_cons.mpr ⟨⟨account, haccepted, rfl, rfl, trivial⟩, ?_⟩
    exact Log.backedAfter_cons.mpr
      ⟨⟨account, haccepted.append_right, rfl, rfl, trivial⟩, Log.backedAfter_nil⟩
  · exact Log.backedAfter_nil

theorem Attempt.follows (hagreed : Agreement lib h) (hquiet : a.faults.hasAccount = .quiet) :
    BackedAfter (Follows lib) h.exchanges (a.exchanges lib h.files) := by
  unfold Attempt.exchanges
  split
  · trivial
  · next config hload =>
    split
    · exact follows_register _ _ _
    · exact follows_registerCaptcha hagreed _ _
    · exact follows_verify hagreed hquiet hload _
    · exact follows_link _
    · trivial
    · exact follows_attributes hagreed _ _
    · exact follows_deleteAccount hagreed _
    · trivial
    · trivial

end Said

/-! ## Every history -/

section Histories

variable {h : History} {a : Attempt}

/-- Settings are no part of what is agreed on. -/
theorem Agreed.configured {said : List Exchange} {saved : SavedRows} (h : Agreed lib said saved)
    (config : ConfigColumns) :
    Agreed lib said { saved with row := saved.row.map (·.configured config) } := by
  obtain ⟨row, identityKeypair, signedPrekey, kyberPrekey⟩ := saved
  cases row with
  | none => exact h
  | some record =>
    obtain ⟨account, now, haccepted, hidentity, hidentityKeys, hsigned, hkyber⟩ := h
    exact ⟨account, now, haccepted, hidentity, hidentityKeys, hsigned, hkyber⟩

/-- One run keeps the agreement. -/
theorem agreement_step (hagreed : Agreement lib h) (hquiet : a.faults.hasAccount = .quiet) :
    Agreement lib (h.step lib a) := by
  have hbacked := Log.backed_append.mpr ⟨hagreed.backed, a.follows hagreed hquiet⟩
  have hpending : ∀ name pending, h.files.pending.lookup name = some pending →
      .createSession pending.e164 pending.sessionId ∈ h.exchanges ++ a.exchanges lib h.files :=
    fun name pending hlookup => List.mem_append_left _ (hagreed.pending name pending hlookup)
  have haccounts : ∀ name, Agreed lib (h.exchanges ++ a.exchanges lib h.files)
      (h.files.db.saved name) := fun name => (hagreed.accounts name).append_right
  have hleaves : a.Leaves lib h.files (a.files lib h.files) := a.leaves h.files hquiet
  unfold History.step
  generalize a.files lib h.files = files' at hleaves ⊢
  cases hleaves with
  | same => exact ⟨haccounts, hpending, hbacked⟩
  | pended hcreated =>
    refine ⟨haccounts, fun name pending hlookup => ?_, hbacked⟩
    by_cases hname : name = a.accountName
    · rw [hname, AList.lookup_insert] at hlookup
      obtain rfl := Option.some.inj hlookup
      exact List.mem_append_right _ hcreated
    · rw [AList.lookup_insert_ne hname] at hlookup
      exact hpending name pending hlookup
  | saved hnone haccepted hkept =>
    refine ⟨fun name => ?_, fun name pending hlookup => ?_, hbacked⟩
    · by_cases hname : name = a.accountName
      · subst hname
        rcases saveFinishedAccount_saved ((hagreed.accounts a.accountName).of_none hnone)
          a.faults.finish with hsame | ⟨hrow, hkeys⟩
        · rw [hsame]
          exact haccounts a.accountName
        · rw [Agreed, show (Db.saved _ a.accountName).row = _ from hrow]
          exact ⟨_, _, haccepted.append_left, rfl, hkeys⟩
      · rw [saveFinishedAccount_others hname]
        exact haccounts name
    · rcases hkept with rfl | rfl
      · exact hpending name pending hlookup
      · by_cases hname : name = a.accountName
        · rw [hname, AList.lookup_erase] at hlookup
          cases hlookup
        · rw [AList.lookup_erase_ne hname] at hlookup
          exact hpending name pending hlookup
  | removed hrow hends =>
    refine ⟨fun name => ?_, hpending, hbacked⟩
    rw [withoutAccount_saved]
    split
    · exact rfl
    · exact haccounts name
  | configured config =>
    refine ⟨fun name => ?_, hpending, hbacked⟩
    rw [updateAccountConfig_saved]
    split
    · exact (haccounts name).configured config
    · exact haccounts name

theorem agreement_empty : Agreement lib {} where
  accounts := fun _ => rfl
  pending := by
    intro name pending hlookup
    cases hlookup
  backed := trivial

/-- At every point of every history, each account of the database is one that the server has accepted,
with that account's private keys, and nothing was said that does not follow from what was said
before. -/
theorem agreement_always (lib : PreKeyLibrary) (attempts : List Attempt)
    (hquiet : ∀ a ∈ attempts, a.faults.hasAccount = .quiet) :
    Always (History.step lib) (Agreement lib) {} attempts := by
  have halong : Along (History.step lib) (fun _ a => a.faults.hasAccount = .quiet) {} attempts :=
    Runs.along_iff_forall_prefix.mpr fun pre a post heq => hquiet a (by rw [heq]; simp)
  exact Always.of_along (fun h a hagreed hq => agreement_step hagreed hq) agreement_empty halong

end Histories

/-! ## How an account ends -/

section Lasts

variable {h : History} {a : Attempt} {name : String}

/-- The identity columns and the keys of an account are the same. -/
structure Same (saved saved' : SavedRows) : Prop where
  identity : saved'.row.map (·.toIdentityColumns) = saved.row.map (·.toIdentityColumns)
  identityKeypair : saved'.identityKeypair = saved.identityKeypair
  signedPrekey : saved'.signedPrekey = saved.signedPrekey
  kyberPrekey : saved'.kyberPrekey = saved.kyberPrekey

theorem Same.refl (saved : SavedRows) : Same saved saved := ⟨rfl, rfl, rfl, rfl⟩

theorem Same.trans {s s' s'' : SavedRows} (h : Same s s') (h' : Same s' s'') : Same s s'' :=
  ⟨h'.identity.trans h.identity, h'.identityKeypair.trans h.identityKeypair,
    h'.signedPrekey.trans h.signedPrekey, h'.kyberPrekey.trans h.kyberPrekey⟩

theorem Same.identity_row {saved saved' : SavedRows} {record : AccountRecord} (h : Same saved saved')
    (hrow : saved.row = some record) :
    ∃ record', saved'.row = some record' ∧ record'.toIdentityColumns = record.toIdentityColumns := by
  have hidentity := h.identity
  rw [hrow] at hidentity
  exact Option.map_eq_some_iff.mp hidentity

/-- Only the identity columns matter to how a run ends an account. -/
theorem Attempt.Ends.of_identity {files : Files} {record record' : AccountRecord}
    (hsame : record'.toIdentityColumns = record.toIdentityColumns) (h : a.Ends lib files record') :
    a.Ends lib files record := by
  have huser : username record' = username record := by
    rw [username, username, hsame]
  rwa [Attempt.Ends, huser, hsame] at h

/-- One run keeps the identity and the keys of an account, or ends it. -/
theorem lasts_step (lib : PreKeyLibrary) {record : AccountRecord} (hquiet : a.faults.hasAccount = .quiet)
    (hrow : h.files.db.row name = some record) :
    Same (h.files.db.saved name) ((h.step lib a).files.db.saved name) ∨
      (a.accountName = name ∧ a.Ends lib h.files record) := by
  have hleaves : a.Leaves lib h.files (a.files lib h.files) := a.leaves h.files hquiet
  unfold History.step
  generalize a.files lib h.files = files' at hleaves ⊢
  cases hleaves with
  | same => exact .inl (.refl _)
  | pended hcreated => exact .inl (.refl _)
  | saved hnone haccepted hkept =>
    have hne : name ≠ a.accountName := by
      rintro rfl
      rw [hrow] at hnone
      cases hnone
    rw [saveFinishedAccount_others hne]
    exact .inl (.refl _)
  | @removed record' hrow' hends =>
    by_cases hname : name = a.accountName
    · subst hname
      obtain rfl := Option.some.inj (hrow'.symm.trans hrow)
      exact .inr ⟨rfl, hends⟩
    · rw [withoutAccount_saved, if_neg hname]
      exact .inl (.refl _)
  | configured config =>
    rw [updateAccountConfig_saved]
    refine .inl ⟨?_, rfl, rfl, rfl⟩
    show Option.map _ (if name = a.accountName then _ else _) = _
    split
    · rw [Option.map_map]
      rfl
    · rfl

/-- The identity columns and the keys of an account stay as they are, over any number of runs, until a
run unlinks the account or the server confirms its deletion to the account itself. -/
theorem account_lasts (lib : PreKeyLibrary) (name : String) (record : AccountRecord) (h : History)
    (hrow : h.files.db.row name = some record) (attempts : List Attempt)
    (hquiet : ∀ a ∈ attempts, a.faults.hasAccount = .quiet) :
    Same (h.files.db.saved name) ((Runs.final (History.step lib) h attempts).files.db.saved name) ∨
      ∃ pre a post, attempts = pre ++ a :: post ∧ a.accountName = name ∧
        Same (h.files.db.saved name) ((Runs.final (History.step lib) h pre).files.db.saved name) ∧
        a.Ends lib (Runs.final (History.step lib) h pre).files record := by
  induction attempts generalizing h record with
  | nil => exact .inl (.refl _)
  | cons a attempts ih =>
    rcases lasts_step lib (hquiet a List.mem_cons_self) hrow with hsame | ⟨hname, hends⟩
    · obtain ⟨record', hrow', hidentity⟩ := hsame.identity_row hrow
      rcases ih record' (h.step lib a) hrow' fun a' ha' => hquiet a' (List.mem_cons_of_mem a ha') with
        hlasts | ⟨pre, a', post, rfl, hname, hlasts, hends⟩
      · exact .inl (hsame.trans hlasts)
      · exact .inr ⟨a :: pre, a', post, rfl, hname, hsame.trans hlasts, hends.of_identity hidentity⟩
    · exact .inr ⟨[], a, attempts, rfl, hname, .refl _, hends⟩

end Lasts

/-! ## A number that is registered -/

namespace Sample

/-- A library whose records show what they are made of. -/
def library : PreKeyLibrary where
  sign privateKey message randomness := privateKey ++ message ++ randomness
  signedPreKeyRecord _ _ publicKey privateKey signature := publicKey ++ privateKey ++ signature
  kyberPreKeyRecord _ _ publicKey secretKey signature := publicKey ++ secretKey ++ signature

def key (n : UInt8) : KeyMaterial := ⟨[n], [n + 1], [n + 2], 0⟩

def attempt (action : Action) : Attempt where
  accountName := "trunk"
  action
  file := .ok { dbPath := "signal2sip.db", dbKey := "key" }

def registers : Attempt := attempt <|
  .register "+4930900" "sms" { session := .ok ⟨"session", true, []⟩, password := "password" }

def verifies : Attempt := attempt <|
  .verify
    { code := "123456", submitVerificationCode := .ok true, aciIdentity := ⟨[1], [2]⟩
      pniIdentity := ⟨[3], [4]⟩, registrationId := ⟨17, by decide⟩, pniRegistrationId := ⟨18, by decide⟩
      prekeys := ⟨key 10, key 20, key 30, key 40⟩, now := 7, registerAccount := .ok ("aci", "pni") }

def deactivates : Attempt := attempt <|
  .setFetchesMessages false { encryptDeviceName := fun _ => "", status := .ok 204 }

def deletes : Attempt := attempt <|
  .deleteAccount { registrationLock := .ok 204, replies := { status := .ok 204 } }

/-- The history in which the account is saved. -/
def registered : History := Runs.final (History.step library) {} [registers, verifies]

end Sample

theorem agreement_always_trunk :
    Always (History.step Sample.library) (Agreement Sample.library) {}
      [Sample.registers, Sample.verifies, Sample.deactivates, Sample.deletes] ∧
      (Sample.registered.files.db.row "trunk").isSome ∧ Sample.registered.exchanges.length = 5 := by
  refine ⟨agreement_always Sample.library _ fun a ha => ?_, rfl, rfl⟩
  simp only [List.mem_cons, List.not_mem_nil, or_false] at ha
  rcases ha with rfl | rfl | rfl | rfl <;> rfl

theorem account_lasts_trunk :
    ∃ record, Sample.registered.files.db.row "trunk" = some record ∧
      (Same (Sample.registered.files.db.saved "trunk") ((Runs.final (History.step Sample.library)
          Sample.registered [Sample.deactivates, Sample.deletes]).files.db.saved "trunk") ∨
        ∃ pre a post, [Sample.deactivates, Sample.deletes] = pre ++ a :: post ∧
          a.accountName = "trunk" ∧
          Same (Sample.registered.files.db.saved "trunk")
            ((Runs.final (History.step Sample.library) Sample.registered pre).files.db.saved "trunk") ∧
          a.Ends Sample.library (Runs.final (History.step Sample.library) Sample.registered pre).files
            record) := by
  refine ⟨_, rfl, account_lasts Sample.library "trunk" _ Sample.registered rfl _ fun a ha => ?_⟩
  simp only [List.mem_cons, List.not_mem_nil, or_false] at ha
  rcases ha with rfl | rfl <;> rfl

end Signal2sip.Registration
