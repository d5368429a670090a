import PlanBuddy.MigrationRunner

/-!
# Who records a migration

The description of `apply-all-migrations.js` ends with recording each migration in
`schema_migrations`, and the script decides by that table what is pending. It never writes
to it. Some of the SQL files insert their own version, others do not, and one deletes rows.

So a second run has nothing to do exactly if what the pending files say about the table
themselves, one after the other, leaves a row for each file of the directory. Of an SQL file
only these statements matter here; a file that succeeds has executed all of them.
-/

namespace PlanBuddy.Migrations

section Model

structure LedgerRow where
  version : String
  filename : String
deriving DecidableEq

/-- The rows of `schema_migrations`, where the table exists. -/
abbrev Ledger := Option (List LedgerRow)

/-- The statements about the table in the SQL files: CREATE TABLE IF NOT EXISTS, INSERT with ON
CONFLICT (version) DO NOTHING, and DELETE by the name of a file. -/
inductive Bookkeeping
  | create
  | insert (version filename : String)
  | delete (filename : String)

def LedgerRow.insertInto (row : LedgerRow) (rows : List LedgerRow) : List LedgerRow :=
  if row.version ∈ rows.map LedgerRow.version then rows else rows ++ [row]

def Bookkeeping.run (ledger : Ledger) : Bookkeeping → Ledger
  | .create => some (ledger.getD [])
  | .insert version filename => ledger.map (LedgerRow.insertInto ⟨version, filename⟩)
  | .delete filename => ledger.map fun rows => rows.filter fun row => decide (row.filename ≠ filename)

def Ledger.versions (ledger : Ledger) : List String := (ledger.getD []).map LedgerRow.version

variable {Sql δ : Type}

/-- The versions are read from the table, and a query that succeeds has changed the table by
its statements about it, and by nothing else. -/
structure Keeps (host : Host Sql δ) (bookkeeping : Sql → List Bookkeeping) (ledger : δ → Ledger) :
    Prop where
  selects : ∀ db, host.selectVersions db =
    match ledger db with
    | some rows => .ok (rows.map LedgerRow.version)
    | none => .error "relation \"schema_migrations\" does not exist"
  executes : ∀ sql db next, host.query sql db = (.ok (), next) →
    ledger next = (bookkeeping sql).foldl Bookkeeping.run (ledger db)

/-- What the files say about the table, one after the other. -/
def afterFiles (host : Host Sql δ) (bookkeeping : Sql → List Bookkeeping) (files : List String)
    (ledger : Ledger) : Ledger :=
  files.foldl (fun ledger file =>
    match host.readFile file with
    | .ok sql => (bookkeeping sql).foldl Bookkeeping.run ledger
    | .error _ => ledger) ledger

end Model

section Runs

variable {Sql δ : Type} {host : Host Sql δ} {bookkeeping : Sql → List Bookkeeping}
  {ledger : δ → Ledger} {names : List String}

/-- The versions that were applied are those of the ledger. -/
theorem applied_versions (keeps : Keeps host bookkeeping ledger) (db : δ) :
    getAppliedMigrations host db = (ledger db).versions := by
  rw [getAppliedMigrations, keeps.selects]
  cases ledger db <;> rfl

/-- A file that succeeds leaves its statements in the table. -/
theorem applyMigration_ledger (keeps : Keeps host bookkeeping ledger) {file : String} {db : δ}
    (success : (applyMigration host file db).1.success = true) :
    ledger (applyMigration host file db).2 = afterFiles host bookkeeping [file] (ledger db) := by
  cases read : host.readFile file with
  | error message => simp [applyMigration, read] at success
  | ok sql =>
    cases answered : host.query sql db with
    | mk answer next =>
      cases answer with
      | error message => simp [applyMigration, read, answered] at success
      | ok =>
        have executed := keeps.executes sql db next answered
        simp [applyMigration, afterFiles, read, answered, executed]

/-- A successful run keeps the books of all its files. -/
theorem applyAll_ledger (keeps : Keeps host bookkeeping ledger) {files : List String} {db : δ}
    (successes : ∀ result ∈ (applyAll host files db).1, result.success = true) :
    ledger (applyAll host files db).2 = afterFiles host bookkeeping files (ledger db) := by
  induction files generalizing db with
  | nil => rfl
  | cons file rest inductionHypothesis =>
    simp only [applyAll, List.forall_mem_cons] at successes
    have first := applyMigration_ledger keeps successes.1
    have later := inductionHypothesis successes.2
    rw [first] at later
    exact later

/-- A run that exits with zero has executed the statements of the pending files. -/
theorem main_ledger (keeps : Keeps host bookkeeping ledger) {db : δ}
    (listed : host.readdir = .ok names) (exited : (main host db).exitCode = 0) :
    ledger (main host db).db =
      afterFiles host bookkeeping (pendingFiles host db names) (ledger db) := by
  have successes := (main_exitCode listed).mp exited
  rw [main_listed listed] at successes ⊢
  exact applyAll_ledger keeps successes

/-- With every version recorded a run finds nothing pending. -/
theorem main_recorded {db : δ} (listed : host.readdir = .ok names)
    (recorded : ∀ file ∈ names.filter isMigration, AppliedBefore host db file) :
    main host db = ⟨db, [], 0⟩ := by
  have empty : pendingFiles host db names = [] := by
    rw [List.eq_nil_iff_forall_not_mem]
    intro file member
    obtain ⟨inside, sql, fresh⟩ := mem_pendingFiles.mp member
    exact fresh (recorded file (List.mem_filter.mpr ⟨inside, sql⟩))
  rw [main_listed listed, empty]
  rfl

/-- After a run that exits with zero every version is recorded and the next run does nothing,
exactly if the statements of the pending files record every version. -/
theorem rerun_iff (host : Host Sql δ) (bookkeeping : Sql → List Bookkeeping) (ledger : δ → Ledger)
    (names : List String) (db : δ) (keeps : Keeps host bookkeeping ledger)
    (listed : host.readdir = .ok names) (exited : (main host db).exitCode = 0) :
    ((∀ file ∈ names.filter isMigration, version file ∈ (ledger (main host db).db).versions) ∧
      main host (main host db).db = ⟨(main host db).db, [], 0⟩) ↔
      ∀ file ∈ names.filter isMigration, version file ∈
        (afterFiles host bookkeeping (pendingFiles host db names) (ledger db)).versions := by
  rw [← main_ledger keeps listed exited]
  refine ⟨And.left, fun recorded => ⟨recorded, main_recorded listed ?_⟩⟩
  intro file member
  rw [AppliedBefore, applied_versions keeps]
  exact recorded file member

end Runs

section Sample

/-- A directory of files that succeed, given by their statements about the table. -/
def directory (files : List (String × List Bookkeeping)) : Host (List Bookkeeping) Ledger where
  readdir := .ok (files.map Prod.fst)
  readFile file :=
    match files.lookup file with
    | some sql => .ok sql
    | none => .error "ENOENT: no such file or directory"
  query sql ledger := (.ok (), sql.foldl Bookkeeping.run ledger)
  selectVersions
    | some rows => .ok (rows.map LedgerRow.version)
    | none => .error "relation \"schema_migrations\" does not exist"

/-- The directory of the sample keeps its books. -/
theorem directory_keeps (files : List (String × List Bookkeeping)) :
    Keeps (directory files) id id := by
  constructor
  · intro ledger
    cases ledger <;> rfl
  · rintro sql ledger next ⟨⟩
    rfl

/-- The file that has no statement about the table. -/
def unrecorded : List (String × List Bookkeeping) := [("180_webhook_authenticity_convergence.sql", [])]

/-- One that records itself. -/
def recorded : List (String × List Bookkeeping) :=
  [("190_payment_integrity_log.sql", [.insert "190" "190_payment_integrity_log.sql"])]

/-- The file succeeds, is not recorded, and is executed again by the next run. -/
theorem unrecorded_runs_again :
    (main (directory unrecorded) (some [])).exitCode = 0 ∧
      version "180_webhook_authenticity_convergence.sql" ∉
        (main (directory unrecorded) (some [])).db.versions ∧
      (main (directory unrecorded) (main (directory unrecorded) (some [])).db).results.map
        Result.filename = ["180_webhook_authenticity_convergence.sql"] := by
  decide

/-- Its second run executes nothing, since all versions are recorded. -/
theorem rerun_iff_recorded :
    ((∀ file ∈ (recorded.map Prod.fst).filter isMigration,
        version file ∈ (main (directory recorded) (some [])).db.versions) ∧
      main (directory recorded) (main (directory recorded) (some [])).db =
        ⟨(main (directory recorded) (some [])).db, [], 0⟩) ↔
      ∀ file ∈ (recorded.map Prod.fst).filter isMigration, version file ∈
        (afterFiles (directory recorded) id
          (pendingFiles (directory recorded) (some []) (recorded.map Prod.fst)) (some [])).versions :=
  rerun_iff (directory recorded) id id _ (some []) (directory_keeps recorded) rfl (by decide)

end Sample

end PlanBuddy.Migrations
