import Signal2sip.Laws.MigrationKills

/-!
# Opens at the same time

Several processes open one file of the older version, statement by statement in whatever order. Each
finds out by its own checks what to do, and does it some statements later, when another process may have
done it already. SQLite then refuses the rename, the `DROP` or the new column, or the copy has its rows
twice: the open throws, though the file is as it should be.

- `openers_succeed`: where every statement still is what its opener found it to be, every opener
  succeeds and leaves the file that one alone would leave;
- `both_rename_is_a_failure`: where it is not, an opener fails.
-/

namespace Signal2sip

open Migration (Client)

/-- The file and the processes that are opening it. -/
abbrev Openers := Migration.System MigrationCheck MigrationSql DatabaseFile String RuntimeError

namespace Openers

/-- Nobody has come to the file. -/
abbrev before (file : DatabaseFile) : Openers := Migration.System.quiet file

/-- An opener comes, or takes its next step. -/
abbrev step (openers : Openers) (e : Migration.Event Opener) : Openers :=
  Migration.System.step sqlite Opener.steps openers e

/-- An opener that runs a statement finds what it found when it checked. -/
abbrev Fresh (openers : Openers) (e : Migration.Event Opener) : Prop :=
  Migration.System.Fresh MigrationSql.Fresh openers e

/-- No opener has failed, and one that has finished leaves the file of an open alone. -/
def AsAlone (file : DatabaseFile) (openers : Openers) : Prop :=
  ∀ alone : Opener, openers.Succeeding (alone.open file).1

end Openers

namespace OriginalFile

theorem openers_asAlone (o : OriginalFile) (haci : o.AciUnique)
    {events : List (Migration.Event Opener)}
    (hfresh : Runs.Along Openers.step Openers.Fresh (Openers.before o.file) events) :
    Runs.Always Openers.step (Openers.AsAlone o.file) (Openers.before o.file) events := by
  have hproceeds := o.proceeds_open haci
  apply (Migration.System.succeeding_always o.sound_open hproceeds hfresh).imp
  intro openers h alone
  rcases o.open_file alone with ⟨hlast, -⟩ | ⟨-, hstuck⟩
  · rw [hlast]
    exact h
  · exact absurd hproceeds hstuck

/-- An opener that has taken as many steps as it has at most has finished. -/
theorem opener_finishes (o : OriginalFile) (haci : o.AciUnique)
    {before after : List (Migration.Event Opener)} {i : Nat} {opener : Opener}
    (hfresh : Runs.Along Openers.step Openers.Fresh (Openers.before o.file)
      (before ++ .start i opener :: after))
    (hnew : (Runs.final Openers.step (Openers.before o.file) before).clients i = none)
    (hmoves : (Client.begin opener.steps).weight ≤ after.countP (·.moves i)) :
    ∃ client, (Runs.final Openers.step (Openers.before o.file)
      (before ++ .start i opener :: after)).clients i = some client ∧ client.Finished := by
  obtain ⟨client, hclient, hended⟩ := Migration.System.ended_of_moves hnew hmoves
  rw [← Runs.final_append] at hclient
  refine ⟨client, hclient, hended.resolve_right ?_⟩
  exact ((o.openers_asAlone haci hfresh).last .storage i client hclient).1

end OriginalFile

/-- For every file of the older version in which no account has one `aci` under two numbers, any number
of openers and every order of their steps in which each statement still is what its opener found it to
be: no opener ever fails, whoever has finished leaves the file of one alone, and every opener that takes
its steps finishes. -/
theorem openers_succeed (o : OriginalFile) (haci : o.AciUnique)
    (events : List (Migration.Event Opener))
    (hfresh : Runs.Along Openers.step Openers.Fresh (Openers.before o.file) events) :
    Runs.Always Openers.step (Openers.AsAlone o.file) (Openers.before o.file) events ∧
      ∀ before i opener after, events = before ++ .start i opener :: after →
        (Runs.final Openers.step (Openers.before o.file) before).clients i = none →
        (Client.begin opener.steps).weight ≤ after.countP (·.moves i) →
        ∃ client, (Runs.final Openers.step (Openers.before o.file) events).clients i = some client ∧
          client.Finished := by
  refine ⟨o.openers_asAlone haci hfresh, ?_⟩
  rintro before i opener after rfl hnew hmoves
  exact o.opener_finishes haci hfresh hnew hmoves

/-- The next `n` steps of opener `i`. -/
def steps (i n : Nat) : List (Migration.Event Opener) := List.replicate n (.run i)

/-- The daemon and a `listAllAccounts` come at once. The daemon goes first until it has dropped the
temporary table, then the other opens the file from the start to the end, then the daemon goes on. -/
def dropThenOther : List (Migration.Event Opener) :=
  .start 0 .storage :: .start 1 .listAllAccounts :: (steps 0 30 ++ steps 1 75 ++ steps 0 45)

theorem openers_succeed_drop_then_other :
    oneContact.AciUnique ∧
      Runs.Along Openers.step Openers.Fresh (Openers.before oneContact.file) dropThenOther ∧
      Runs.Always Openers.step (Openers.AsAlone oneContact.file) (Openers.before oneContact.file)
        dropThenOther ∧
      ∃ client, (Runs.final Openers.step (Openers.before oneContact.file) dropThenOther).clients 1 =
        some client ∧ client.Finished := by
  have hfresh :
      Runs.Along Openers.step Openers.Fresh (Openers.before oneContact.file) dropThenOther := by
    decide +kernel
  obtain ⟨halways, hfinish⟩ :=
    openers_succeed oneContact.toOriginalFile oneContact.aciUnique dropThenOther hfresh
  have hmoves : (Client.begin Opener.listAllAccounts.steps).weight ≤
      (steps 0 30 ++ steps 1 75 ++ steps 0 45).countP (·.moves 1) := by decide +kernel
  exact ⟨oneContact.aciUnique, hfresh, halways,
    hfinish [.start 0 .storage] 1 .listAllAccounts _ rfl rfl hmoves⟩

/-- Both openers see the original table, and both rename it. -/
def bothRename : List (Migration.Event Opener) :=
  .start 0 .storage :: .start 1 .listAllAccounts :: (steps 0 2 ++ steps 1 2 ++ steps 0 1 ++ steps 1 1)

theorem both_rename_is_a_failure :
    ¬ Runs.Always Openers.step (Openers.AsAlone oneContact.file) (Openers.before oneContact.file)
      bothRename := by
  intro h
  have hfailed : (Runs.final Openers.step (Openers.before oneContact.file) bothRename).clients 1 =
      some (.failed ⟨"failed to rename old synced_contact table for migration: " ++
        noSuchTable "synced_contact"⟩) := rfl
  exact (h.last .storage 1 _ hfailed).1 trivial

end Signal2sip
