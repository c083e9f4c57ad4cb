import Signal2sip.Laws.AccountRemoval
import Signal2sip.Laws.GendbRows

/-!
# What `gendb`'s writes leave of an account

`Db.saved` is what the database has of one account: its row and its own keys. Saving a finished account,
removing one and writing its settings each say what they leave of every account.

- `saveFinishedAccount_saved`: a new account is saved as far as the writes got, with its own keys only;
- `saveFinishedAccount_others`: the other accounts keep all that they have;
- `withoutAccount_saved`: a removal leaves nothing of its account;
- `updateAccountConfig_saved`: settings are written into one row.
-/

namespace Signal2sip

/-! ## The rows of one account -/

/-- The row of an account and its own keys. -/
@[ext]
structure SavedRows where
  row : Option AccountRecord
  identityKeypair : String → Option IdentityKeypairRecord
  signedPrekey : String → Option SignedPrekeyRecord
  kyberPrekey : String → Option KyberPrekeyRecord

def Db.saved (db : Db) (name : String) : SavedRows where
  row := db.row name
  identityKeypair := fun identity => db.identityKeypair.lookup (name, identity)
  signedPrekey := fun identity => db.signedPrekey.lookup (name, identity)
  kyberPrekey := fun identity => db.kyberPrekey.lookup (name, identity)

/-- Nothing is left of an account. -/
def SavedRows.none : SavedRows where
  row := .none
  identityKeypair := fun _ => .none
  signedPrekey := fun _ => .none
  kyberPrekey := fun _ => .none

/-- The value of one of the two identities. -/
def ofIdentity {α : Type} (aci pni : α) (identity : String) : Option α :=
  if identity = "aci" then some aci else if identity = "pni" then some pni else none

/-- The keys are of the account, as far as they are there. -/
structure SavedRows.KeysOf (saved : SavedRows) (account : FinishedAccount) : Prop where
  identityKeypair : ∀ identity key, saved.identityKeypair identity = some key →
    ofIdentity account.aciIdentity account.pniIdentity identity = some key
  signedPrekey : ∀ identity key, saved.signedPrekey identity = some key →
    ofIdentity account.aciSignedPreKey account.pniSignedPreKey identity = some key
  kyberPrekey : ∀ identity key, saved.kyberPrekey identity = some key →
    ofIdentity account.aciKyberPreKey account.pniKyberPreKey identity = some key

variable {db db' : Db} {name other identity : String} {account : FinishedAccount} {now : Int}

/-! ## Saving -/

section Insert

variable {α : Type} {t : Table (String × String) α} {v : α}

theorem lookup_insert_other (hne : other ≠ name) (identity' : String) :
    (t.insert (name, identity) v).lookup (other, identity') = t.lookup (other, identity') :=
  AList.lookup_insert_ne fun h => hne (congrArg Prod.fst h)

theorem lookup_insert_own {expected : String → Option α} (hv : expected identity = some v)
    (h : ∀ identity key, t.lookup (name, identity) = some key → expected identity = some key)
    (identity' : String) (key : α)
    (hkey : (t.insert (name, identity) v).lookup (name, identity') = some key) :
    expected identity' = some key := by
  by_cases hsame : identity' = identity
  · rw [hsame, AList.lookup_insert] at hkey
    rw [hsame, hv, hkey]
  · rw [AList.lookup_insert_ne fun heq => hsame (congrArg Prod.snd heq)] at hkey
    exact h identity' key hkey

end Insert

/-- One more key of an account. -/
inductive KeyInserted (name : String) (account : FinishedAccount) (db : Db) : Db → Prop
  | identityKeypair {identity : String} {key : IdentityKeypairRecord}
    (hkey : ofIdentity account.aciIdentity account.pniIdentity identity = some key) :
    KeyInserted name account db
      { db with identityKeypair := db.identityKeypair.insert (name, identity) key }
  | signedPrekey {identity : String} {key : SignedPrekeyRecord}
    (hkey : ofIdentity account.aciSignedPreKey account.pniSignedPreKey identity = some key) :
    KeyInserted name account db
      { db with signedPrekey := db.signedPrekey.insert (name, identity) key }
  | kyberPrekey {identity : String} {key : KyberPrekeyRecord}
    (hkey : ofIdentity account.aciKyberPreKey account.pniKyberPreKey identity = some key) :
    KeyInserted name account db
      { db with kyberPrekey := db.kyberPrekey.insert (name, identity) key }

theorem keyWrites_insert {fs : Nat → Sqlite.Faults} {write : Db → Result Db}
    (hwrite : write ∈ account.keyWrites name fs) (h : (write db).value = .ok db') :
    KeyInserted name account db db' := by
  simp only [FinishedAccount.keyWrites, List.mem_cons, List.not_mem_nil, or_false] at hwrite
  rcases hwrite with rfl | rfl | rfl | rfl | rfl | rfl <;>
    obtain ⟨t, hinsert, rfl⟩ := execute_map_ok h <;>
    obtain rfl := upsertIdentity_ok hinsert
  · exact .identityKeypair rfl
  · exact .identityKeypair rfl
  · exact .signedPrekey rfl
  · exact .signedPrekey rfl
  · exact .kyberPrekey rfl
  · exact .kyberPrekey rfl

theorem KeyInserted.others (h : KeyInserted name account db db') (hne : other ≠ name) :
    db'.saved other = db.saved other := by
  cases h <;> simp only [Db.saved, lookup_insert_other hne, Db.row]

theorem KeyInserted.row (h : KeyInserted name account db db') : db'.row name = db.row name := by
  cases h <;> rfl

theorem KeyInserted.keysOf (h : KeyInserted name account db db')
    (hkeys : (db.saved name).KeysOf account) : (db'.saved name).KeysOf account := by
  obtain ⟨hidentity, hsigned, hkyber⟩ := hkeys
  cases h with
  | identityKeypair hkey => exact ⟨lookup_insert_own hkey hidentity, hsigned, hkyber⟩
  | signedPrekey hkey => exact ⟨hidentity, lookup_insert_own hkey hsigned, hkyber⟩
  | kyberPrekey hkey => exact ⟨hidentity, hsigned, lookup_insert_own hkey hkyber⟩

/-- What every write keeps, the writes up to a failure keep. -/
theorem writeAll_keeps {P : Db → Prop} {writes : List (Db → Result Db)}
    (hwrites : ∀ write ∈ writes, ∀ db db', (write db).value = .ok db' → P db → P db') (h : P db) :
    P (writeAll writes db).1 := by
  induction writes generalizing db with
  | nil => exact h
  | cons write writes ih =>
    unfold writeAll
    cases hw : (write db).value with
    | error e => exact h
    | ok db' =>
      exact ih (fun w hmem => hwrites w (List.mem_cons_of_mem write hmem))
        (hwrites write List.mem_cons_self db db' hw h)

/-- Nothing is written, or the row and then keys. -/
theorem saveFinishedAccount_keeps {P : Db → Prop}
    (hkeeps : ∀ db db', KeyInserted name account db db' → P db → P db')
    (h : P (Storage.withSavedAccount db name (account.record now))) (fs : Nat → Sqlite.Faults) :
    (saveFinishedAccount db name account now fs).1 = db ∨
      P (saveFinishedAccount db name account now fs).1 := by
  have hwrites : saveFinishedAccount db name account now fs =
      writeAll ((fun db => Storage.saveAccount db name (account.record now) (fs 0)) ::
        account.keyWrites name fs) db := rfl
  rw [hwrites, writeAll]
  rcases Storage.saveAccount_cases db name (account.record now) (fs 0) with
    ⟨-, -, hsave⟩ | ⟨-, e, hsave⟩
  · rw [hsave]
    refine .inr (writeAll_keeps (fun write hwrite d d' hvalue => ?_) h)
    exact hkeeps d d' (keyWrites_insert hwrite hvalue)
  · rw [hsave]
    exact .inl rfl

/-- The other accounts keep all that they have. -/
theorem saveFinishedAccount_others (hne : other ≠ name) (fs : Nat → Sqlite.Faults) :
    (saveFinishedAccount db name account now fs).1.saved other = db.saved other := by
  have hfirst : (Storage.withSavedAccount db name (account.record now)).saved other =
      db.saved other := by
    have hrow : (Storage.withSavedAccount db name (account.record now)).row other = db.row other :=
      AList.lookup_insert_ne hne
    ext1
    · exact hrow
    all_goals rfl
  rcases saveFinishedAccount_keeps (P := fun d => d.saved other = db.saved other)
    (fun d d' hkey hsame => (hkey.others hne).trans hsame) hfirst fs with hsame | hothers
  · rw [hsame]
  · exact hothers

/-- A new account is saved as far as the writes got, with its own keys only, or nothing is. -/
theorem saveFinishedAccount_saved (hnone : db.saved name = .none) (fs : Nat → Sqlite.Faults) :
    (saveFinishedAccount db name account now fs).1 = db ∨
      ((saveFinishedAccount db name account now fs).1.row name =
          some (Storage.withIdentity none (account.record now).toIdentityColumns) ∧
        ((saveFinishedAccount db name account now fs).1.saved name).KeysOf account) := by
  refine saveFinishedAccount_keeps
    (P := fun d => d.row name = some _ ∧ (d.saved name).KeysOf account)
    (fun d d' hkey hd => ⟨hkey.row.trans hd.1, hkey.keysOf hd.2⟩) ⟨?_, ?_⟩ fs
  · have hrow : db.row name = none := congrArg SavedRows.row hnone
    rw [← hrow]
    exact AList.lookup_insert db.account
  · have hkeys : (Storage.withSavedAccount db name (account.record now)).saved name =
        { SavedRows.none with
          row := (Storage.withSavedAccount db name (account.record now)).row name } := by
      rw [← hnone]
      rfl
    rw [hkeys]
    constructor <;> · rintro identity key ⟨⟩

/-! ## Removing and configuring -/

/-- What a removal leaves of an account. -/
theorem withoutAccount_saved (db : Db) (name other : String) :
    (withoutAccount db name).saved other = if other = name then .none else db.saved other := by
  have hkeys {α : Type} (t : Table (String × String) α) (identity : String) :
      (t.filterKeys (·.1 ≠ name)).lookup (other, identity) =
        if other = name then none else t.lookup (other, identity) := by
    rw [AList.lookup_filterKeys]
    by_cases h : other = name <;> simp [h]
  split
  · next h =>
    subst h
    simp only [if_true] at hkeys
    ext1
    · exact AList.lookup_erase other db.account
    · exact funext fun identity => hkeys _ identity
    · exact funext fun identity => hkeys _ identity
    · exact funext fun identity => hkeys _ identity
  · next h =>
    simp only [if_neg h] at hkeys
    ext1
    · exact AList.lookup_erase_ne h
    · exact funext fun identity => hkeys _ identity
    · exact funext fun identity => hkeys _ identity
    · exact funext fun identity => hkeys _ identity

theorem deleteSavedAccount_removes {files files' : Files} {f : CommandFaults}
    (h : deleteSavedAccount files name f = .ok files') :
    files' = { files with db := withoutAccount files.db name } := by
  unfold deleteSavedAccount at h
  cases hdelete : (Storage.deleteAccount files.db name f.deleteBegin f.delete f.deleteCommit).value with
  | error e =>
    rw [hdelete] at h
    cases h
  | ok db =>
    rw [hdelete] at h
    cases h
    rw [deleteAccount_removes hdelete]

/-- The settings change the settings of one row. -/
theorem updateAccountConfig_saved (db : Db) (name : String) (config : ConfigColumns) (other : String) :
    (Storage.updateAccountConfig db name config).1.saved other =
      { db.saved other with
        row := if other = name then (db.row other).map (·.configured config) else db.row other } := by
  ext1
  · show (db.account.modify name _).lookup other = if other = name then _ else _
    split
    · next h =>
      rw [h]
      exact AList.lookup_modify_self name _ db.account
    · next h => exact AList.lookup_modify_ne h _ db.account
  all_goals rfl

end Signal2sip
