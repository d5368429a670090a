import PlanBuddy.ParseInt
import Mathlib.Data.List.Sort

/-!
# Applying all migrations

`apply-all-migrations.js` lists the migration files, sorts them by the number their names
start with, leaves out those whose version is recorded, and executes the others one after
the other. A file that fails does not keep the later ones from being executed, so that one
run shows the full picture; the exit code tells whether all went well.

So the order is kept among the files that are attempted, but the migrations applied in the
end need not be a first part of the list: they are exactly where no file succeeded after one
of a lower number failed.

The file system and the database are parameters, and so is what an SQL file does. Numbers
are those of `parseInt`; a comparator that answers NaN counts as zero.
-/

namespace PlanBuddy.Migrations

section Model

/-- `file.split('_')[0]`, as characters. -/
def start (file : String) : List Char := file.toList.takeWhile (· != '_')

def version (file : String) : String := String.ofList (start file)

def number (file : String) : Option Int := ParseInt.parseInt none (start file)

/-- `text.includes(part)`. -/
def includes (part : List Char) : List Char → Bool
  | [] => part.isEmpty
  | char :: rest => part.isPrefixOf (char :: rest) || includes part rest

def isMigration (file : String) : Bool :=
  ".sql".toList.isSuffixOf file.toList && !includes "rollback".toList file.toList

/-- The comparator of the sort. -/
def compareFiles (left right : String) : Int :=
  match number left, number right with
  | some aVersion, some bVersion => aVersion - bVersion
  | _, _ => 0

def sortsBefore (left right : String) : Prop := compareFiles left right ≤ 0

instance : DecidableRel sortsBefore := fun left right =>
  inferInstanceAs (Decidable (compareFiles left right ≤ 0))

/-- What the script asks of its surroundings. A query answers, or raises with a message, and
leaves a database either way. -/
structure Host (Sql δ : Type) where
  readdir : Except String (List String)
  readFile : String → Except String Sql
  query : Sql → δ → Except String Unit × δ
  selectVersions : δ → Except String (List String)

structure Result where
  success : Bool
  version : String
  filename : String
  error : Option String
deriving DecidableEq

structure Outcome (δ : Type) where
  db : δ
  results : List Result
  exitCode : Nat

variable {Sql δ : Type}

def getMigrationFiles (host : Host Sql δ) : Except String (List String) :=
  host.readdir.map fun names => (names.filter isMigration).insertionSort sortsBefore

def getAppliedMigrations (host : Host Sql δ) (db : δ) : List String :=
  match host.selectVersions db with
  | .ok versions => versions
  | .error _ => []

def applyMigration (host : Host Sql δ) (file : String) (db : δ) : Result × δ :=
  match host.readFile file with
  | .error message => (⟨false, version file, file, some message⟩, db)
  | .ok sql =>
    match host.query sql db with
    | (.ok _, next) => (⟨true, version file, file, none⟩, next)
    | (.error message, next) => (⟨false, version file, file, some message⟩, next)

/-- The loop over the pending files. -/
def applyAll (host : Host Sql δ) : List String → δ → List Result × δ
  | [], db => ([], db)
  | file :: rest, db =>
    let (result, next) := applyMigration host file db
    let (results, final) := applyAll host rest next
    (result :: results, final)

def isPending (host : Host Sql δ) (db : δ) (file : String) : Bool :=
  !decide (version file ∈ getAppliedMigrations host db)

def main (host : Host Sql δ) (db : δ) : Outcome δ :=
  match getMigrationFiles host with
  | .error _ => ⟨db, [], 1⟩
  | .ok files =>
    let pending := files.filter (isPending host db)
    if pending.length = 0 then ⟨db, [], 0⟩
    else
      let (results, final) := applyAll host pending db
      ⟨final, results, if 0 < results.countP (fun result => !result.success) then 1 else 0⟩

end Model

section Purpose

variable {Sql δ : Type}

/-- The number of one file is below that of the other. -/
def Precedes (left right : String) : Prop :=
  ∃ first second, number left = some first ∧ number right = some second ∧ first < second

/-- With a migration every one of a lower number has been applied. -/
def DownwardClosed (files : List String) (applied : String → Prop) : Prop :=
  ∀ earlier ∈ files, ∀ later ∈ files, Precedes earlier later → applied later → applied earlier

/-- The version of the file is recorded. -/
def AppliedBefore (host : Host Sql δ) (db : δ) (file : String) : Prop :=
  version file ∈ getAppliedMigrations host db

/-- It was, or the run has executed the file without an error. -/
def AppliedAfter (host : Host Sql δ) (db : δ) (file : String) : Prop :=
  AppliedBefore host db file ∨
    ∃ result ∈ (main host db).results, result.filename = file ∧ result.success = true

end Purpose

section Sorting

/-- The number of a file whose name starts with one. -/
def key (file : String) : Int := (number file).getD 0

/-- Files with numbers are sorted by them. -/
theorem sortsBefore_iff {left right : String} (numericLeft : (number left).isSome)
    (numericRight : (number right).isSome) : sortsBefore left right ↔ key left ≤ key right := by
  obtain ⟨first, foundFirst⟩ := Option.isSome_iff_exists.mp numericLeft
  obtain ⟨second, foundSecond⟩ := Option.isSome_iff_exists.mp numericRight
  simp only [sortsBefore, compareFiles, key, foundFirst, foundSecond, Option.getD_some]
  omega

/-- Where all names start with a number, sorting is by that number. -/
theorem sorted_numbers {files : List String} (numeric : ∀ file ∈ files, (number file).isSome) :
    (files.insertionSort sortsBefore).Pairwise fun left right => ¬ Precedes right left := by
  have sorted : ((files.insertionSort sortsBefore).map key).Pairwise (· ≤ ·) := by
    rw [List.map_insertionSort sortsBefore (· ≤ ·) key files fun left memberLeft right memberRight =>
      sortsBefore_iff (numeric left memberLeft) (numeric right memberRight)]
    exact List.pairwise_insertionSort _ _
  refine (List.pairwise_map.mp sorted).imp ?_
  rintro left right ordered ⟨first, second, foundRight, foundLeft, less⟩
  simp [key, foundLeft, foundRight] at ordered
  omega

end Sorting

section Loop

variable {Sql δ : Type} {host : Host Sql δ} {db : δ} {names : List String}

/-- A result names its file. -/
theorem applyMigration_filename (host : Host Sql δ) (file : String) (db : δ) :
    (applyMigration host file db).1.filename = file := by
  unfold applyMigration
  split
  · rfl
  · split <;> rfl

/-- The loop goes on after a failure: every file has its result, in order. -/
theorem applyAll_filenames (host : Host Sql δ) (files : List String) (db : δ) :
    (applyAll host files db).1.map Result.filename = files := by
  induction files generalizing db with
  | nil => rfl
  | cons file rest inductionHypothesis =>
    simp only [applyAll, List.map_cons, applyMigration_filename, inductionHypothesis]

/-- The files that are to be executed, in order. -/
def pendingFiles (host : Host Sql δ) (db : δ) (names : List String) : List String :=
  ((names.filter isMigration).insertionSort sortsBefore).filter (isPending host db)

/-- Without a pending file the loop has nothing to do, and the early exit is its result. -/
theorem main_listed (listed : host.readdir = .ok names) :
    main host db =
      let (results, final) := applyAll host (pendingFiles host db names) db
      ⟨final, results, if 0 < results.countP (fun result => !result.success) then 1 else 0⟩ := by
  have named : ((names.filter isMigration).insertionSort sortsBefore).filter (isPending host db) =
      pendingFiles host db names := rfl
  simp only [main, getMigrationFiles, listed, Except.map, named]
  cases pendingFiles host db names with
  | nil => rfl
  | cons file rest => rfl

/-- The files that are attempted are the pending ones. -/
theorem main_filenames (listed : host.readdir = .ok names) :
    (main host db).results.map Result.filename = pendingFiles host db names := by
  rw [main_listed listed]
  exact applyAll_filenames host _ db

/-- The run exits with 0 when all of them succeed. -/
theorem main_exitCode (listed : host.readdir = .ok names) :
    (main host db).exitCode = 0 ↔ ∀ result ∈ (main host db).results, result.success = true := by
  rw [main_listed listed]
  simp [List.countP_pos_iff]

/-- The pending files are the listed migrations that were not applied. -/
theorem mem_pendingFiles {file : String} :
    file ∈ pendingFiles host db names ↔
      file ∈ names ∧ isMigration file = true ∧ ¬ AppliedBefore host db file := by
  simp [pendingFiles, isPending, AppliedBefore, and_assoc]

/-- None is pending twice. -/
theorem pendingFiles_nodup (distinct : names.Nodup) : (pendingFiles host db names).Nodup := by
  refine List.Nodup.filter _ ?_
  exact ((List.perm_insertionSort sortsBefore _).nodup_iff).mpr (distinct.filter _)

/-- They are attempted in the order of their numbers. -/
theorem pendingFiles_sorted (numeric : ∀ file ∈ names, isMigration file = true → (number file).isSome) :
    (pendingFiles host db names).Pairwise fun left right => ¬ Precedes right left := by
  refine List.Pairwise.filter _ (sorted_numbers ?_)
  intro file member
  exact numeric file (List.mem_filter.mp member).1 (List.mem_filter.mp member).2

end Loop

section Claims

variable {Sql δ : Type} {host : Host Sql δ} {db : δ} {names : List String}

/-- The applied migrations stay a first part of the list exactly if none succeeded after one of a
lower number failed. -/
theorem closed_iff (listed : host.readdir = .ok names) (distinct : names.Nodup)
    (closed : DownwardClosed (names.filter isMigration) (AppliedBefore host db)) :
    DownwardClosed (names.filter isMigration) (AppliedAfter host db) ↔
      ¬ ∃ failed ∈ (main host db).results, ∃ succeeded ∈ (main host db).results,
        failed.success = false ∧ succeeded.success = true ∧
          Precedes failed.filename succeeded.filename := by
  have attempted : (main host db).results.map Result.filename = pendingFiles host db names :=
    main_filenames listed
  have unique : ∀ one ∈ (main host db).results, ∀ other ∈ (main host db).results,
      one.filename = other.filename → one = other :=
    fun one member other another same => List.inj_on_of_nodup_map
      (attempted ▸ pendingFiles_nodup distinct) member another same
  have pending : ∀ result ∈ (main host db).results, result.filename ∈ names.filter isMigration ∧
      ¬ AppliedBefore host db result.filename := by
    intro result member
    have there : result.filename ∈ pendingFiles host db names :=
      attempted ▸ List.mem_map_of_mem member
    obtain ⟨inside, sql, fresh⟩ := mem_pendingFiles.mp there
    exact ⟨List.mem_filter.mpr ⟨inside, sql⟩, fresh⟩
  constructor
  · rintro closedAfter ⟨failed, memberFailed, succeeded, memberSucceeded, failure, success, before⟩
    have applied := closedAfter _ (pending failed memberFailed).1 _
      (pending succeeded memberSucceeded).1 before (.inr ⟨succeeded, memberSucceeded, rfl, success⟩)
    rcases applied with recorded | ⟨result, member, same, success⟩
    · exact (pending failed memberFailed).2 recorded
    · obtain rfl := unique result member failed memberFailed same
      rw [failure] at success
      cases success
  · intro none earlier memberEarlier later memberLater before applied
    rcases applied with recorded | ⟨succeeded, memberSucceeded, rfl, success⟩
    · exact .inl (closed earlier memberEarlier later memberLater before recorded)
    · by_cases recorded : AppliedBefore host db earlier
      · exact .inl recorded
      · obtain ⟨inside, sql⟩ := List.mem_filter.mp memberEarlier
        have there : earlier ∈ (main host db).results.map Result.filename :=
          attempted ▸ mem_pendingFiles.mpr ⟨inside, sql, recorded⟩
        obtain ⟨result, member, rfl⟩ := List.mem_map.mp there
        refine .inr ⟨result, member, rfl, ?_⟩
        rw [← Bool.not_eq_false]
        intro failure
        exact none ⟨result, member, succeeded, memberSucceeded, failure, success, before⟩

/-- Every pending migration is attempted once, whatever failed before it, and in the order of the
numbers if each name starts with one; the run exits with zero if nothing failed, and then a
first part of the list that was applied before it is a first part still. -/
theorem migrations_attempted (host : Host Sql δ) (db : δ) (names : List String)
    (listed : host.readdir = .ok names) (distinct : names.Nodup)
    (closed : DownwardClosed (names.filter isMigration) (AppliedBefore host db)) :
    (∀ file, file ∈ (main host db).results.map Result.filename ↔
      file ∈ names ∧ isMigration file = true ∧ ¬ AppliedBefore host db file) ∧
    ((main host db).results.map Result.filename).Nodup ∧
    ((∀ file ∈ names, isMigration file = true → (number file).isSome) →
      ((main host db).results.map Result.filename).Pairwise fun left right =>
        ¬ Precedes right left) ∧
    ((main host db).exitCode = 0 ↔ ∀ result ∈ (main host db).results, result.success = true) ∧
    (DownwardClosed (names.filter isMigration) (AppliedAfter host db) ↔
      ¬ ∃ failed ∈ (main host db).results, ∃ succeeded ∈ (main host db).results,
        failed.success = false ∧ succeeded.success = true ∧
          Precedes failed.filename succeeded.filename) ∧
    ((main host db).exitCode = 0 →
      DownwardClosed (names.filter isMigration) (AppliedAfter host db)) := by
  rw [main_filenames listed]
  have exits : (main host db).exitCode = 0 ↔
      ∀ result ∈ (main host db).results, result.success = true := main_exitCode listed
  refine ⟨fun file => mem_pendingFiles, pendingFiles_nodup distinct, pendingFiles_sorted,
    exits, closed_iff listed distinct closed, fun zero => ?_⟩
  rw [closed_iff listed distinct closed]
  rintro ⟨failed, member, -, -, failure, -⟩
  rw [exits.mp zero failed member] at failure
  cases failure

end Claims

section Sample

/-- Two migrations, and a database in which the index of the first cannot be built. The
database lists the files it has executed, and nothing is recorded. -/
def convergence : Host String (List String) where
  readdir := .ok ["190_payment_integrity_log.sql", "180_webhook_authenticity_convergence.sql"]
  readFile file := .ok file
  query sql db :=
    if sql = "180_webhook_authenticity_convergence.sql" then
      (.error "could not create unique index", db)
    else (.ok (), db ++ [sql])
  selectVersions _ := .ok []

/-- The first file of the sample fails and the second is applied. -/
theorem convergence_results :
    (main convergence []).results =
      [⟨false, "180", "180_webhook_authenticity_convergence.sql", some "could not create unique index"⟩,
        ⟨true, "190", "190_payment_integrity_log.sql", none⟩] := by
  decide

/-- The first one comes first. -/
theorem convergence_precedes :
    Precedes "180_webhook_authenticity_convergence.sql" "190_payment_integrity_log.sql" :=
  ⟨180, 190, by decide, by decide, by decide⟩

/-- No later file was applied before an earlier one. -/
theorem convergence_closed : DownwardClosed
    (["190_payment_integrity_log.sql", "180_webhook_authenticity_convergence.sql"].filter isMigration)
    (AppliedBefore convergence []) := by
  intro earlier _ later _ _ applied
  cases applied

/-- The file of the higher number is applied after the other has failed. -/
theorem later_applied_after_failure :
    ¬ ∀ (host : Host String (List String)) names db, host.readdir = .ok names →
      DownwardClosed (names.filter isMigration) (AppliedBefore host db) →
        DownwardClosed (names.filter isMigration) (AppliedAfter host db) := by
  intro prefixes
  have closed := prefixes convergence _ [] rfl convergence_closed
  have applied : AppliedAfter convergence [] "190_payment_integrity_log.sql" := by
    refine .inr ⟨⟨true, "190", "190_payment_integrity_log.sql", none⟩, ?_, rfl, rfl⟩
    rw [convergence_results]
    decide
  rcases closed "180_webhook_authenticity_convergence.sql" (by decide)
    "190_payment_integrity_log.sql" (by decide) convergence_precedes applied with recorded |
      ⟨result, member, same, success⟩
  · cases recorded
  · rw [convergence_results] at member
    simp only [List.mem_cons, List.not_mem_nil, or_false] at member
    rcases member with rfl | rfl
    · cases success
    · exact absurd same (by decide)

/-- Both are attempted, once and in order. -/
theorem migrations_attempted_convergence :
    ((main convergence []).results.map Result.filename).Nodup ∧
      (((main convergence []).results.map Result.filename).Pairwise fun left right =>
        ¬ Precedes right left) ∧
      ((main convergence []).exitCode = 0 ↔
        ∀ result ∈ (main convergence []).results, result.success = true) := by
  have attempted := migrations_attempted convergence [] _ rfl (by decide) convergence_closed
  exact ⟨attempted.2.1, attempted.2.2.1 (by decide), attempted.2.2.2.1⟩

end Sample

end PlanBuddy.Migrations
