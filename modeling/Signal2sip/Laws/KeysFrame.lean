import Signal2sip.Laws.GendbRows
import Signal2sip.Laws.KeysAuthority
import Signal2sip.Laws.SetupAtomicity

/-!
# What a new entropy pool leaves alone

The `Keys` handler writes the account's whole record back, as the daemon has held it since
`setupAccount`. `saveAccount` is an upsert of the identity columns, so the row takes all of them from
the daemon's record, and a row that is gone comes back. `gendb` works on the same row meanwhile.

- `keysFrame_iff`: one push changes the entropy pool of its row only, exactly when the row is there
  and its other identity columns are those that the daemon holds (`RowCurrent`), or nothing is saved;
- `keysFrame_along_iff`: the same along every history of pushes and `gendb` runs;
- `keysFrame_of_keeps`: so in a history in which `gendb` neither unlinks nor deletes the account,
  whatever else it does to it;
- `keysFrame_since_setup`: from where a setup leaves the account.
-/

namespace Signal2sip

open Sqlite (Faults)
open Runs (Along)

/-! ## The identity columns next to the pool -/

/-- The identity columns without the entropy pool. -/
def IdentityColumns.withoutPool (identity : IdentityColumns) : IdentityColumns :=
  { identity with accountEntropyPool := none }

/-- A row without the entropy pool. -/
def AccountRecord.withoutPool (account : AccountRecord) : AccountRecord :=
  { account with accountEntropyPool := none }

theorem withEntropyPool_withoutPool (account : AccountRecord) (aep : String) :
    (account.withEntropyPool aep).toIdentityColumns.withoutPool =
      account.toIdentityColumns.withoutPool := rfl

/-- A row whose identity columns are replaced changes in its pool only exactly when the others were
the same before. -/
theorem withIdentity_withoutPool_iff {row : AccountRecord} {identity : IdentityColumns} :
    (Storage.withIdentity (some row) identity).withoutPool = row.withoutPool ↔
      row.toIdentityColumns.withoutPool = identity.withoutPool := by
  constructor
  · intro h
    exact (congrArg AccountRecord.toIdentityColumns h).symm
  · intro h
    have hcolumns : row.withoutPool =
        { row with toIdentityColumns := row.toIdentityColumns.withoutPool } := rfl
    rw [hcolumns, h]
    rfl

/-! ## One push -/

section Push

variable {env : PushEnv} {db : Db} {acct : AccountState} {verb path : String} {body : Bytes}
  {f : Faults}

/-- Where there was no row there is none, and a row that was there differs in its pool at most. -/
def PoolOnly (before after : Option AccountRecord) : Prop :=
  after.map AccountRecord.withoutPool = before.map AccountRecord.withoutPool

/-- The account's row is there, and next to the pool its identity columns are those of the record
that the daemon holds. -/
def RowCurrent (db : Db) (acct : AccountState) : Prop :=
  ∃ row, db.row acct.config.name = some row ∧
    row.toIdentityColumns.withoutPool = acct.account.toIdentityColumns.withoutPool

/-- A new entropy pool goes into its row's pool and nowhere else in the table. -/
def KeysFrame (env : PushEnv) (db : Db) (acct : AccountState) (verb path : String) (body : Bytes)
    (f : Faults) : Prop :=
  pushedEntropyPool env db acct verb path body ≠ none →
    PoolOnly (db.row acct.config.name)
      ((onPush env db acct verb path body f).db.row acct.config.name) ∧
    ∀ name, name ≠ acct.config.name → (onPush env db acct verb path body f).db.row name = db.row name

/-- A new entropy pool that gets saved finds a current row. -/
def SavesCurrent (env : PushEnv) (db : Db) (acct : AccountState) (verb path : String) (body : Bytes)
    (f : Faults) : Prop :=
  pushedEntropyPool env db acct verb path body ≠ none → f.prepare = none → f.step 0 = none →
    RowCurrent db acct

/-- The `Keys` handler and the table: it saves the record, or its statement fails. -/
theorem handleKeys_account (db : Db) (acct : AccountState) (aep : String) (f : Faults) :
    (f.prepare = none ∧ f.step 0 = none ∧ (handleKeys db acct aep f).db.account =
      (Storage.withSavedAccount db acct.config.name (acct.account.withEntropyPool aep)).account) ∨
    ((f.prepare ≠ none ∨ f.step 0 ≠ none) ∧ (handleKeys db acct aep f).db.account = db.account) := by
  unfold handleKeys
  rcases Storage.saveAccount_cases db acct.config.name (acct.account.withEntropyPool aep) f with
    ⟨hp, hs, hv⟩ | ⟨hfail, e, hv⟩
  · simp only [hv]
    exact .inl ⟨hp, hs, trivial⟩
  · simp only [hv]
    exact .inr ⟨hfail, trivial⟩

theorem withSavedAccount_row (db : Db) (accountName : String) (account : AccountRecord) :
    (Storage.withSavedAccount db accountName account).row accountName =
      some (Storage.withIdentity (db.row accountName) account.toIdentityColumns) :=
  AList.lookup_insert _

theorem poolOnly_saved_iff {aep : String} :
    PoolOnly (db.row acct.config.name) ((Storage.withSavedAccount db acct.config.name
      (acct.account.withEntropyPool aep)).row acct.config.name) ↔ RowCurrent db acct := by
  rw [withSavedAccount_row, PoolOnly, RowCurrent]
  cases hrow : db.row acct.config.name with
  | none => simp
  | some row =>
    simp only [Option.map_some, Option.some.injEq, withIdentity_withoutPool_iff,
      withEntropyPool_withoutPool]
    constructor
    · exact fun h => ⟨row, rfl, h⟩
    · rintro ⟨row', rfl, h⟩
      exact h

/-- One push, in any state. -/
theorem keysFrame_iff :
    KeysFrame env db acct verb path body f ↔ SavesCurrent env db acct verb path body f := by
  unfold KeysFrame SavesCurrent
  apply imp_congr_right
  intro hpool
  obtain ⟨aep, -, hpush⟩ | ⟨hnone, -⟩ := onPush_cases env db acct verb path body f
  · have hreceive := receive_account env db acct verb path body
    generalize (receive env db acct verb path body).1 = db' at hpush hreceive
    have hrows : ∀ name, db'.row name = db.row name := fun name => by rw [Db.row, hreceive, Db.row]
    have hcurrent : RowCurrent db' acct ↔ RowCurrent db acct := by rw [RowCurrent, hrows, RowCurrent]
    rw [hpush]
    rcases handleKeys_account db' acct aep f with ⟨hp, hs, haccount⟩ | ⟨hfail, haccount⟩
    · have hafter : ∀ name, (handleKeys db' acct aep f).db.row name =
          (Storage.withSavedAccount db' acct.config.name (acct.account.withEntropyPool aep)).row
            name := fun name => by rw [Db.row, haccount, Db.row]
      rw [hafter, ← hrows, poolOnly_saved_iff, hcurrent]
      constructor
      · exact fun h _ _ => h.1
      · refine fun h => ⟨h hp hs, fun name hne => ?_⟩
        rw [hafter, ← hrows]
        exact AList.lookup_insert_ne hne
    · have hafter : ∀ name, (handleKeys db' acct aep f).db.row name = db.row name :=
        fun name => by rw [Db.row, haccount, ← hrows, Db.row]
      constructor
      · intro _ hp hs
        rcases hfail with hne | hne
        · exact absurd hp hne
        · exact absurd hs hne
      · exact fun _ => ⟨congrArg _ (hafter _), fun name _ => hafter name⟩
  · exact absurd hnone hpool

/-- No content handler assigns the configuration. -/
theorem onPush_config : (onPush env db acct verb path body f).acct.config = acct.config := by
  obtain ⟨aep, -, hpush⟩ | ⟨-, hhandled⟩ := onPush_handles env db acct verb path body f
  · rw [hpush, handleKeys]
    split <;> rfl
  · exact hhandled.config

/-- A push that finds a current row leaves one. -/
theorem onPush_current (h : RowCurrent db acct) :
    RowCurrent (onPush env db acct verb path body f).db (onPush env db acct verb path body f).acct := by
  obtain ⟨row, hrow, hcolumns⟩ := h
  rw [RowCurrent, onPush_config]
  obtain ⟨aep, -, hpush⟩ | ⟨-, haccount, hsame⟩ := onPush_cases env db acct verb path body f
  · have hreceive := receive_account env db acct verb path body
    generalize (receive env db acct verb path body).1 = db' at hpush hreceive
    have hrow' : db'.row acct.config.name = some row := by rw [Db.row, hreceive]; exact hrow
    have hrecord : (handleKeys db' acct aep f).acct.account = acct.account.withEntropyPool aep := by
      simp only [handleKeys]
      split <;> rfl
    rw [hpush, hrecord, withEntropyPool_withoutPool]
    rcases handleKeys_account db' acct aep f with ⟨-, -, haccount⟩ | ⟨-, haccount⟩
    · rw [Db.row, haccount, ← Db.row, withSavedAccount_row, hrow']
      exact ⟨_, rfl, rfl⟩
    · rw [Db.row, haccount, ← Db.row]
      exact ⟨row, hrow', hcolumns⟩
  · rw [hsame, haccount]
    exact ⟨row, hrow, hcolumns⟩

end Push

/-! ## Histories -/

/-- A running account, and the files that it shares with `gendb`. -/
structure SharedRow where
  files : Files
  acct : AccountState

/-- A push with the failures of its save, a run of `gendb`, or anything else that the daemon does:
no other handler writes the account table or assigns the account's record or its configuration. -/
inductive SharedEvent
  | push (verb path : String) (body : Bytes) (f : Faults)
  | gendb (i : Invocation)
  | elsewhere (db : Db) (acct : AccountState)

namespace SharedRow

def step (env : PushEnv) (s : SharedRow) : SharedEvent → SharedRow
  | .push verb path body f =>
    let r := onPush env s.files.db s.acct verb path body f
    ⟨{ s.files with db := r.db }, r.acct⟩
  | .gendb i => { s with files := (i.run s.files).1 }
  | .elsewhere db acct =>
    ⟨{ s.files with db := { db with account := s.files.db.account } },
      { acct with account := s.acct.account, config := s.acct.config }⟩

def KeysFrame (env : PushEnv) (s : SharedRow) : SharedEvent → Prop
  | .push verb path body f => Signal2sip.KeysFrame env s.files.db s.acct verb path body f
  | _ => True

def SavesCurrent (env : PushEnv) (s : SharedRow) : SharedEvent → Prop
  | .push verb path body f => Signal2sip.SavesCurrent env s.files.db s.acct verb path body f
  | _ => True

end SharedRow

/-- Along every history from every state, whatever libsignal and the parsers do: each new entropy
pool changes the pool of its row only, exactly when each one that is saved finds a current row. -/
theorem keysFrame_along_iff (env : PushEnv) (s : SharedRow) (events : List SharedEvent) :
    Along (SharedRow.step env) (SharedRow.KeysFrame env) s events ↔
      Along (SharedRow.step env) (SharedRow.SavesCurrent env) s events := by
  refine Runs.along_congr (I := fun _ => True) (fun _ _ _ _ => trivial) (fun s e _ => ?_) trivial
  cases e with
  | push verb path body f => exact keysFrame_iff
  | gendb i => exact Iff.rfl
  | elsewhere db acct => exact Iff.rfl

/-! ## Histories without a deletion -/

section Kept

variable {env : PushEnv} {s : SharedRow}

/-- A run of `gendb` that does not delete the account, and whose look-up of it answers. -/
def SharedRow.Keeps (s : SharedRow) : SharedEvent → Prop
  | .gendb i => i.faults.hasAccount = .quiet ∧
      (i.command.deletes = true → s.acct.config.name ≠ i.accountName)
  | _ => True

/-- Whatever happens to the account short of a deletion, its row stays current. -/
theorem step_current (e : SharedEvent) (h : RowCurrent s.files.db s.acct) (hkeeps : s.Keeps e) :
    RowCurrent (s.step env e).files.db (s.step env e).acct := by
  cases e with
  | push verb path body f => exact onPush_current h
  | elsewhere db acct => exact h
  | gendb i =>
    obtain ⟨row, hrow, hcolumns⟩ := h
    rcases run_configured hkeeps.1 hkeeps.2 hrow with hsame | ⟨config, hconfigured⟩
    · exact ⟨row, hsame, hcolumns⟩
    · exact ⟨_, hconfigured, hcolumns⟩

/-- A history without a deletion changes the pool only. -/
theorem keysFrame_of_keeps {events : List SharedEvent} (h : RowCurrent s.files.db s.acct)
    (hkeeps : Along (SharedRow.step env) SharedRow.Keeps s events) :
    Along (SharedRow.step env) (SharedRow.KeysFrame env) s events := by
  refine Runs.Along.imp_of_inv (I := fun s : SharedRow => RowCurrent s.files.db s.acct)
    (fun s e hs hk => step_current e hs hk) (fun s e hs _ => ?_) h hkeeps
  cases e with
  | push verb path body f => exact keysFrame_iff.mpr fun _ _ _ => hs
  | gendb i => trivial
  | elsewhere db acct => trivial

/-- So it is since the setup, which reads the record that the daemon holds from that row. -/
theorem keysFrame_since_setup {files : Files} {config : AccountConfig} {o : SetupOutcomes} {d : Daemon}
    {account : AccountRecord} {events : List SharedEvent} (h : Constructs files.db config o account)
    (hkeeps : Along (SharedRow.step env) SharedRow.Keeps ⟨files, builtAccount d config o account⟩ events) :
    Along (SharedRow.step env) (SharedRow.KeysFrame env) ⟨files, builtAccount d config o account⟩ events :=
  keysFrame_of_keeps ⟨account, (Storage.loadAccount_ok_iff.mp h.account).2.2, rfl⟩ hkeeps

end Kept

/-! ## An account that was unlinked -/

/-- Every message decrypts to new keys of the account itself. -/
def ownKeysEnv : PushEnv :=
  { plainEnv with lib := { plainEnv.lib with serviceIdFromBinary := fun _ => .ok "me" } }

def sharedLine : SharedRow := ⟨{ db := linkedRun.db }, linkedRun.acct⟩

/-- `gendb unlink line2`. -/
def unlinkLine : Invocation :=
  { accountName := "line2", command := .unlink, file := .ok { dbPath := "db", dbKey := "k" } }

/-- The account is unlinked, and its next new entropy pool brings the row back. -/
theorem keys_after_unlink_bring_row_back :
    ¬ Along (SharedRow.step ownKeysEnv) (SharedRow.KeysFrame ownKeysEnv) sharedLine
      [.gendb unlinkLine, .push "PUT" "/api/v1/message" [7] .quiet] := by
  rintro ⟨-, h, -⟩
  have hframe : Option.map _ _ = Option.map _ _ := (h (by decide)).1
  exact absurd hframe (by decide)

end Signal2sip
