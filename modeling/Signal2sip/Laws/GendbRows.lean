import Signal2sip.Gendb.Commands

/-!
# What `gendb` does to a row

The rows of `account` that a run of `gendb` leaves. A run touches the row of its own account at most.
It may delete that row, it may write the configuration columns, which counts `config_version` up, and
it may save a new account, which it does only where it found no row.

- `Command.run_leaves`: what each command may leave in the database;
- `run_row_ne`: the other accounts' rows stay;
- `run_configured`: a row that is not deleted stays as it is or is configured, which counts it up
  (`run_row`).

The last needs `hasAccount` to answer: a step that fails there reads as "no account", and then the
identity columns of an existing row are overwritten without counting.
-/

namespace Signal2sip

open Sqlite (Faults)

/-! ## The writes -/

section Writes

variable {db db' : Db} {accountName name : String} {f : CommandFaults}

theorem deleteAccount_ok {beginFault commitFault : Option Sqlite.Error}
    {fs : Storage.TableName → Faults}
    (h : (Storage.deleteAccount db accountName beginFault fs commitFault).value = .ok db') :
    db'.account = db.account.erase accountName := by
  unfold Storage.deleteAccount at h
  split at h
  · cases h
  · obtain ⟨db₁, hdelete, hcommit⟩ := Sqlite.Outcome.bind_ok_iff.mp h
    split at hcommit
    · cases hcommit
    · cases hcommit
      obtain ⟨-, rfl⟩ := Storage.deleteTables_ok_iff.mp hdelete
      rfl

/-- Writes that keep a row keep it together. -/
theorem writeAll_row {writes : List (Db → Result Db)}
    (hwrites : ∀ write ∈ writes, ∀ db db', (write db).value = .ok db' → db'.row name = db.row name)
    (db : Db) : (writeAll writes db).1.row name = db.row name := by
  induction writes generalizing db with
  | nil => rfl
  | cons write writes ih =>
    unfold writeAll
    cases hw : (write db).value with
    | error e => rfl
    | ok db' =>
      rw [ih (fun w hmem => hwrites w (List.mem_cons_of_mem write hmem)) db']
      exact hwrites write List.mem_cons_self db db' hw

/-- The writes of `saveFinishedAccount` after the first: the identity key pairs and prekeys. -/
def FinishedAccount.keyWrites (account : FinishedAccount) (accountName : String) (f : Nat → Faults) :
    List (Db → Result Db) :=
  [fun db => Storage.saveIdentityKeypair db accountName "aci" account.aciIdentity (f 1),
    fun db => Storage.saveIdentityKeypair db accountName "pni" account.pniIdentity (f 2),
    fun db => Storage.saveSignedPrekey db accountName "aci" account.aciSignedPreKey (f 3),
    fun db => Storage.saveSignedPrekey db accountName "pni" account.pniSignedPreKey (f 4),
    fun db => Storage.saveKyberPrekey db accountName "aci" account.aciKyberPreKey (f 5),
    fun db => Storage.saveKyberPrekey db accountName "pni" account.pniKyberPreKey (f 6)]

/-- They leave the rows of `account`. -/
theorem keyWrites_row (account : FinishedAccount) (fs : Nat → Faults) (db : Db) :
    (writeAll (account.keyWrites accountName fs) db).1.row name = db.row name := by
  have hkeys : ∀ {τ : Type} (g : τ → Db → Db), (∀ t db, (g t db).account = db.account) →
      ∀ {table : Db → Except Sqlite.Error τ} {failed : Sqlite.Error → RuntimeError} {fs : Faults}
        (db db' : Db),
      (Sqlite.execute prepareFailed failed fs ((table db).map fun t => g t db)).value = .ok db' →
        db'.row name = db.row name := by
    intro τ g hg table failed fs db db' h
    obtain ⟨t, -, rfl⟩ := execute_map_ok h
    rw [Db.row, hg, Db.row]
  refine writeAll_row ?_ db
  intro write hwrite
  simp only [FinishedAccount.keyWrites, List.mem_cons, List.not_mem_nil, or_false] at hwrite
  rcases hwrite with rfl | rfl | rfl | rfl | rfl | rfl
  · exact hkeys (fun t db => { db with identityKeypair := t }) fun _ _ => rfl
  · exact hkeys (fun t db => { db with identityKeypair := t }) fun _ _ => rfl
  · exact hkeys (fun t db => { db with signedPrekey := t }) fun _ _ => rfl
  · exact hkeys (fun t db => { db with signedPrekey := t }) fun _ _ => rfl
  · exact hkeys (fun t db => { db with kyberPrekey := t }) fun _ _ => rfl
  · exact hkeys (fun t db => { db with kyberPrekey := t }) fun _ _ => rfl

/-- `saveFinishedAccount` writes the row first; if that write throws it is the only one. -/
theorem saveFinishedAccount_cases (db : Db) (accountName : String) (account : FinishedAccount)
    (now : Int) (fs : Nat → Faults) :
    ((fs 0).prepare = none ∧ (fs 0).step 0 = none ∧
      ∀ name, (saveFinishedAccount db accountName account now fs).1.row name =
        (Storage.withSavedAccount db accountName (account.record now)).row name) ∨
    (¬ ((fs 0).prepare = none ∧ (fs 0).step 0 = none) ∧
      (saveFinishedAccount db accountName account now fs).1 = db) := by
  have hwrites : saveFinishedAccount db accountName account now fs =
      writeAll ((fun db => Storage.saveAccount db accountName (account.record now) (fs 0)) ::
        account.keyWrites accountName fs) db := rfl
  rw [hwrites, writeAll]
  rcases Storage.saveAccount_cases db accountName (account.record now) (fs 0) with
    ⟨hprepare, hstep, hsave⟩ | ⟨hfails, e, hsave⟩
  · rw [hsave]
    exact .inl ⟨hprepare, hstep, fun name => keyWrites_row account fs _⟩
  · rw [hsave]
    refine .inr ⟨fun h => ?_, rfl⟩
    rcases hfails with hprepare | hstep
    · exact hprepare h.1
    · exact hstep h.2

/-- The writes of a finished account leave the rows of the other accounts. -/
theorem saveFinishedAccount_row_ne (hne : name ≠ accountName) (db : Db) (account : FinishedAccount)
    (now : Int) (fs : Nat → Faults) :
    (saveFinishedAccount db accountName account now fs).1.row name = db.row name := by
  rcases saveFinishedAccount_cases db accountName account now fs with ⟨-, -, hrows⟩ | ⟨-, hdb⟩
  · rw [hrows]
    exact AList.lookup_insert_ne hne
  · rw [hdb]

/-- The check for an existing account passes only without a row, unless its step fails. -/
theorem requireNoExistingAccount_ok (hquiet : f.hasAccount = .quiet)
    (h : requireNoExistingAccount db accountName f = .ok ()) : db.row accountName = none := by
  obtain ⟨existing, hhas, hcheck⟩ := except_bind_ok.mp h
  rw [hquiet, Storage.hasAccount, Sqlite.Outcome.map_value, Sqlite.firstRow_quiet] at hhas
  cases hhas
  by_cases hmem : accountName ∈ db.account
  · simp [ensure, hmem] at hcheck
  · exact AList.lookup_eq_none.mpr hmem

end Writes

/-! ## The commands -/

section Commands

variable {config : DaemonConfig} {files : Files} {accountName name : String} {f : CommandFaults}
  {record : AccountRecord}

theorem deleteSavedAccount_ok {files' : Files}
    (h : deleteSavedAccount files accountName f = .ok files') :
    files'.db.account = files.db.account.erase accountName := by
  unfold deleteSavedAccount at h
  cases hdelete : (Storage.deleteAccount files.db accountName f.deleteBegin f.delete
      f.deleteCommit).value with
  | error e =>
    rw [hdelete] at h
    cases h
  | ok db =>
    rw [hdelete] at h
    cases h
    exact deleteAccount_ok hdelete

theorem saveChangedConfig_ok {account : AccountRecord} {files' : Files}
    (h : saveChangedConfig files accountName account f = .ok files') :
    files'.db = (Storage.updateAccountConfig files.db accountName account.toConfigColumns).1 := by
  unfold saveChangedConfig at h
  cases hsave : (Storage.saveAccountConfig files.db accountName account f.saveAccountConfig).value with
  | error e =>
    rw [hsave] at h
    cases h
  | ok db =>
    rw [hsave] at h
    cases h
    exact (Storage.saveAccountConfig_ok hsave).2

/-- The commands that delete an account's rows. -/
def Command.deletes : Command → Bool
  | .unlink | .deleteAccount _ => true
  | _ => false

/-- The commands that save a new account. -/
def Command.saves : Command → Bool
  | .verify _ | .link _ => true
  | _ => false

/-- The database after a command: what it was, with the account that the command has saved where none
was, without the account's row, or with the account's settings written. -/
inductive Command.Leaves (command : Command) (files : Files) (accountName : String)
    (f : CommandFaults) : Db → Prop
  | same : Leaves command files accountName f files.db
  | saved (hsaves : command.saves = true)
    (habsent : requireNoExistingAccount files.db accountName f = .ok ()) (account : FinishedAccount)
    (now : Int) :
    Leaves command files accountName f (saveFinishedAccount files.db accountName account now f.finish).1
  | deleted (hdeletes : command.deletes = true) {db : Db}
    (haccount : db.account = files.db.account.erase accountName) :
    Leaves command files accountName f db
  | configured (account : AccountRecord) :
    Leaves command files accountName f
      (Storage.updateAccountConfig files.db accountName account.toConfigColumns).1

theorem Command.Leaves.attempt {command : Command} {result : Except RuntimeError Files}
    (h : ∀ files', result = .ok files' → command.Leaves files accountName f files'.db) :
    command.Leaves files accountName f (files.attempt result).1.db := by
  cases result with
  | error e => exact .same
  | ok files' => exact h files' rfl

theorem leaves_of_delete {command : Command} (hdeletes : command.deletes = true) {files' : Files}
    (h : deleteSavedAccount files accountName f = .ok files') :
    command.Leaves files accountName f files'.db :=
  .deleted hdeletes (deleteSavedAccount_ok h)

theorem leaves_of_configure {command : Command} {account : AccountRecord} {files' : Files}
    (h : saveChangedConfig files accountName account f = .ok files') :
    command.Leaves files accountName f files'.db := by
  rw [saveChangedConfig_ok h]
  exact .configured account

theorem Command.run_leaves (command : Command) (config : DaemonConfig) (files : Files)
    (accountName : String) (f : CommandFaults) :
    command.Leaves files accountName f (command.run config files accountName f).1.db := by
  cases command with
  | register e164 transport r =>
    simp only [Command.run, cmdRegister]
    split <;> exact .same
  | verify r =>
    simp only [Command.run, cmdVerify]
    split
    · exact .same
    · exact .same
    · exact .same
    · next e164 pending aci pni hchecks _ =>
      obtain ⟨_, htarget, -⟩ := except_bind_ok.mp hchecks
      obtain ⟨_, -, h⟩ := except_bind_ok.mp htarget
      obtain ⟨_, habsent, -⟩ := except_bind_ok.mp h
      split <;> next hsave =>
        obtain rfl := congrArg Prod.fst hsave
        exact .saved rfl habsent _ _
  | link r =>
    simp only [Command.run, cmdLink]
    split
    · exact .same
    · exact .same
    · exact .same
    · next provisioned e164 device hchecks _ =>
      obtain ⟨_, -, h⟩ := except_bind_ok.mp hchecks
      obtain ⟨_, habsent, -⟩ := except_bind_ok.mp h
      exact .saved rfl habsent _ _
  | unlink =>
    apply Leaves.attempt
    intro files' h
    obtain ⟨_, -, hdelete⟩ := except_bind_ok.mp h
    exact leaves_of_delete rfl hdelete
  | deleteAccount r =>
    apply Leaves.attempt
    intro files' h
    obtain ⟨_, -, h⟩ := except_bind_ok.mp h
    obtain ⟨_, -, h⟩ := except_bind_ok.mp h
    obtain ⟨status, -, h⟩ := except_bind_ok.mp h
    split at h
    · exact leaves_of_delete rfl h
    · split at h
      · cases h
        exact .same
      · cases h
  | configSet field value =>
    apply Leaves.attempt
    intro files' h
    obtain ⟨_, -, h⟩ := except_bind_ok.mp h
    obtain ⟨_, -, h⟩ := except_bind_ok.mp h
    obtain ⟨_, -, h⟩ := except_bind_ok.mp h
    exact leaves_of_configure h
  | setEnabled enabled =>
    apply Leaves.attempt
    intro files' h
    obtain ⟨_, -, h⟩ := except_bind_ok.mp h
    exact leaves_of_configure h

/-- A run leaves the rows of the other accounts. -/
def KeepsOthers (accountName : String) (files files' : Files) : Prop :=
  ∀ name, name ≠ accountName → files'.db.row name = files.db.row name

/-- A command touches the row of its own account at most. -/
theorem command_row_ne (command : Command) (config : DaemonConfig) (files : Files)
    (accountName : String) (f : CommandFaults) :
    KeepsOthers accountName files (command.run config files accountName f).1 := by
  intro name hne
  have hleaves := command.run_leaves config files accountName f
  generalize (command.run config files accountName f).1.db = db' at hleaves ⊢
  cases hleaves with
  | same => rfl
  | saved hsaves habsent account now => exact saveFinishedAccount_row_ne hne _ account now _
  | deleted hdeletes haccount =>
    rw [Db.row, haccount]
    exact AList.lookup_erase_ne hne
  | configured account => exact AList.lookup_modify_ne hne _ _

/-- The row after the configuration columns were written, which count themselves. -/
def AccountRecord.configured (record : AccountRecord) (config : ConfigColumns) : AccountRecord :=
  { record with toConfigColumns := config, configVersion := record.configVersion + 1 }

theorem updateAccountConfig_row (hrow : files.db.row accountName = some record) (config : ConfigColumns) :
    (Storage.updateAccountConfig files.db accountName config).1.row accountName =
      some (record.configured config) := by
  show (files.db.account.modify accountName _).lookup accountName = _
  rw [AList.lookup_modify_self]
  exact (congrArg (Option.map _) hrow).trans rfl

/-- A row that outlives a command is as it was, or was configured. -/
def KeptOrConfigured (record : AccountRecord) (row : Option AccountRecord) : Prop :=
  row = some record ∨ ∃ config, row = some (record.configured config)

/-- A row that outlives a command is as it was, or has counted up. -/
def KeptOrCounted (record : AccountRecord) (row : Option AccountRecord) : Prop :=
  row = some record ∨ ∃ record', row = some record' ∧ record.configVersion < record'.configVersion

theorem KeptOrConfigured.keptOrCounted {row : Option AccountRecord}
    (h : KeptOrConfigured record row) : KeptOrCounted record row := by
  rcases h with hsame | ⟨config, hrow⟩
  · exact .inl hsame
  · exact .inr ⟨_, hrow, Int.lt_succ record.configVersion⟩

/-- A command that does not delete the row keeps it or configures it. -/
theorem command_configured (command : Command) (config : DaemonConfig)
    (hquiet : f.hasAccount = .quiet) (hkeeps : command.deletes = false)
    (hrow : files.db.row accountName = some record) :
    KeptOrConfigured record ((command.run config files accountName f).1.db.row accountName) := by
  have hleaves := command.run_leaves config files accountName f
  generalize (command.run config files accountName f).1.db = db' at hleaves ⊢
  cases hleaves with
  | same => exact .inl hrow
  | saved hsaves habsent account now =>
    rw [requireNoExistingAccount_ok hquiet habsent] at hrow
    cases hrow
  | deleted hdeletes haccount =>
    rw [hkeeps] at hdeletes
    cases hdeletes
  | configured account => exact .inr ⟨_, updateAccountConfig_row hrow _⟩

end Commands

/-! ## Runs -/

section Runs

variable {i : Invocation} {files : Files} {name : String} {record : AccountRecord}

theorem run_row_ne (hne : name ≠ i.accountName) :
    (i.run files).1.db.row name = files.db.row name := by
  unfold Invocation.run
  split
  · rfl
  · exact command_row_ne _ _ _ _ _ name hne

/-- A run keeps every row that it does not delete, or configures it. -/
theorem run_configured (hquiet : i.faults.hasAccount = .quiet)
    (hkeeps : i.command.deletes = true → name ≠ i.accountName)
    (hrow : files.db.row name = some record) :
    KeptOrConfigured record ((i.run files).1.db.row name) := by
  by_cases hname : name = i.accountName
  · subst hname
    unfold Invocation.run
    split
    · exact .inl hrow
    · refine command_configured _ _ hquiet ?_ hrow
      cases hdeletes : i.command.deletes with
      | false => rfl
      | true => exact absurd rfl (hkeeps hdeletes)
  · exact .inl ((run_row_ne hname).trans hrow)

/-- A run keeps every row that it does not delete, or counts it up. -/
theorem run_row (hquiet : i.faults.hasAccount = .quiet)
    (hkeeps : i.command.deletes = true → name ≠ i.accountName)
    (hrow : files.db.row name = some record) :
    KeptOrCounted record ((i.run files).1.db.row name) :=
  (run_configured hquiet hkeeps hrow).keptOrCounted

end Runs

end Signal2sip
