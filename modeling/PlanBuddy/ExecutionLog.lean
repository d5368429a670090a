import PlanBuddy.JobEngine
import PlanBuddy.Parties
import PlanBuddy.Queues
import PlanBuddy.Runs

/-!
# The execution guard of version 2

`checkExecutionIdempotency` inserts a marker row under the key of an operation and tells the
caller to execute it when the row was new; every later caller is told that it has been executed,
with whatever result the row holds. The operation itself comes after the marker, and
`recordExecutionResult` after the operation. Workers interleave statement by statement and may
crash anywhere.

The primary key lets one worker at most be told to execute. That the operation has been executed
is true of what the others are told only once that worker has performed it. The state keeps
which operations have been performed, which no statement of the guard can see.
-/

namespace PlanBuddy.ExecutionLog

open JobEngine (JobId)

section Model

structure LogRow where
  operationKey : String
  queue : String
  jobId : JobId
  executedAt : Time
  result : Option Json
  workerId : WorkerId

/-- A worker, by the statement or the operation it comes to next. -/
inductive Phase
  | inserting
  | selecting
  /-- Told `alreadyExecuted: false`. -/
  | executing
  | executed (result : Option Json)
  | recorded
  /-- Told `alreadyExecuted: true`, with the result. -/
  | skipped (result : Option Json)
  | crashed (told performed : Bool)

structure Worker where
  operationKey : String
  queue : String
  jobId : JobId
  workerId : WorkerId
  phase : Phase

structure State where
  log : Table LogRow.operationKey
  workers : List Worker
  /-- The keys of the operations that have been performed. -/
  performed : List String

def State.initial : State := ⟨Table.empty, [], []⟩

/-- The worker was told to execute. -/
def Worker.told (worker : Worker) : Bool :=
  match worker.phase with
  | .executing => true
  | .executed _ => true
  | .recorded => true
  | .crashed told _ => told
  | _ => false

/-- The worker has performed the operation. -/
def Worker.didPerform (worker : Worker) : Bool :=
  match worker.phase with
  | .executed _ => true
  | .recorded => true
  | .crashed _ performed => performed
  | _ => false

def Worker.ended (worker : Worker) : Bool :=
  match worker.phase with
  | .recorded => true
  | .skipped _ => true
  | .crashed _ _ => true
  | _ => false

def Worker.at (worker : Worker) (phase : Phase) : Worker := { worker with phase := phase }

/-- The row of the INSERT. -/
def Worker.row (worker : Worker) (now : Time) : LogRow :=
  ⟨worker.operationKey, worker.queue, worker.jobId, now, none, worker.workerId⟩

def State.move (state : State) (index : Nat) (worker : Worker) (phase : Phase) : State :=
  { state with workers := state.workers.set index (worker.at phase) }

/-- The INSERT of `checkExecutionIdempotency`, and what it returns on a new row. -/
def State.insert (state : State) (index : Nat) (worker : Worker) (now : Time) : State :=
  let (log, inserted) := state.log.insert (worker.row now)
  { state with log := log }.move index worker (if inserted then .executing else .selecting)

/-- Its SELECT, and what it returns: `existing[0]?.result ?? null`. -/
def State.select (state : State) (index : Nat) (worker : Worker) : State :=
  state.move index worker (.skipped ((state.log.lookup worker.operationKey).bind LogRow.result))

/-- `recordExecutionResult`. -/
def recordExecutionResult (operationKey : String) (result : Option Json)
    (log : Table LogRow.operationKey) : Table LogRow.operationKey :=
  log.update (fun row => decide (row.operationKey = operationKey))
    (fun row => { row with result := storedJson result })

inductive Action
  | check (operationKey queue : String) (jobId : JobId) (workerId : WorkerId)
  | insert (index : Nat) (now : Time)
  | select (index : Nat)
  | execute (index : Nat) (result : Option Json)
  | record (index : Nat)
  | crash (index : Nat)

def perform (state : State) : Action → Option State
  | .check operationKey queue jobId workerId =>
    some { state with
      workers := state.workers ++ [⟨operationKey, queue, jobId, workerId, .inserting⟩] }
  | .insert index now => do
    let worker ← state.workers[index]?
    match worker.phase with
    | .inserting => some (state.insert index worker now)
    | _ => none
  | .select index => do
    let worker ← state.workers[index]?
    match worker.phase with
    | .selecting => some (state.select index worker)
    | _ => none
  | .execute index result => do
    let worker ← state.workers[index]?
    match worker.phase with
    | .executing =>
      some { state.move index worker (.executed result) with
        performed := worker.operationKey :: state.performed }
    | _ => none
  | .record index => do
    let worker ← state.workers[index]?
    match worker.phase with
    | .executed result =>
      some { state.move index worker .recorded with
        log := recordExecutionResult worker.operationKey result state.log }
    | _ => none
  | .crash index => do
    let worker ← state.workers[index]?
    if worker.ended then none
    else some (state.move index worker (.crashed worker.told worker.didPerform))

/-- The steps of a run are recorded with the states they are taken in. -/
def machine (state : State) (action : Action) : Option (State × List (State × Action)) :=
  (perform state action).map fun next => (next, [(state, action)])

end Model

section Purpose

/-- No two workers were told to execute one operation. -/
def Exclusive (state : State) : Prop :=
  Parties.Apart (fun left right => left.operationKey = right.operationKey →
    ¬ (left.told = true ∧ right.told = true)) state.workers

/-- A worker that a step tells that its operation has been executed is told the truth. -/
def Truthful (state : State) : Action → Prop
  | .select index => ∀ worker ∈ state.workers[index]?, worker.operationKey ∈ state.performed
  | _ => True

/-- When a worker selects the result, nobody who was told to execute the same operation is
still before it, and nobody has crashed there. -/
def Settled (state : State) : Action → Prop
  | .select index => ∀ worker ∈ state.workers[index]?, ∀ other ∈ state.workers,
    other.operationKey = worker.operationKey → other.told = true → other.didPerform = true
  | _ => True

instance (state : State) : (action : Action) → Decidable (Truthful state action)
  | .select index => inferInstanceAs (Decidable
      (∀ worker ∈ state.workers[index]?, worker.operationKey ∈ state.performed))
  | .check _ _ _ _ => instDecidableTrue
  | .insert _ _ => instDecidableTrue
  | .execute _ _ => instDecidableTrue
  | .record _ => instDecidableTrue
  | .crash _ => instDecidableTrue

instance (state : State) : (action : Action) → Decidable (Settled state action)
  | .select index => inferInstanceAs (Decidable
      (∀ worker ∈ state.workers[index]?, ∀ other ∈ state.workers,
        other.operationKey = worker.operationKey → other.told = true → other.didPerform = true))
  | .check _ _ _ _ => instDecidableTrue
  | .insert _ _ => instDecidableTrue
  | .execute _ _ => instDecidableTrue
  | .record _ => instDecidableTrue
  | .crash _ => instDecidableTrue

end Purpose

section Invariants

variable {state next : State}

/-- The rows are those of the workers that were told to execute, and the operations performed
are theirs. -/
structure Consistent (state : State) : Prop where
  exclusive : Exclusive state
  marked : ∀ worker ∈ state.workers, worker.told = true →
    worker.operationKey ∈ state.log.rows.map LogRow.operationKey
  inserted : ∀ operationKey ∈ state.log.rows.map LogRow.operationKey,
    ∃ worker ∈ state.workers, worker.operationKey = operationKey ∧ worker.told = true
  performs : ∀ worker ∈ state.workers, worker.didPerform = true →
    worker.told = true ∧ worker.operationKey ∈ state.performed
  performed : ∀ operationKey ∈ state.performed,
    ∃ worker ∈ state.workers, worker.operationKey = operationKey ∧ worker.didPerform = true
  selects : ∀ worker ∈ state.workers, worker.phase = .selecting →
    worker.operationKey ∈ state.log.rows.map LogRow.operationKey

/-- Among those that conflict with the marker, the truth is told exactly when the worker that
inserted it has performed the operation. -/
theorem truthful_iff (consistent : Consistent state) {index : Nat} {worker : Worker}
    (stored : state.workers[index]? = some worker) (selects : worker.phase = .selecting) :
    Truthful state (.select index) ↔ Settled state (.select index) := by
  have member := List.mem_of_getElem? stored
  simp only [Truthful, Settled, stored, Option.mem_def, Option.some.injEq, forall_eq']
  constructor
  · intro performed other present same told
    obtain ⟨performer, there, sameKey, did⟩ := consistent.performed _ performed
    obtain ⟨left, foundOther⟩ := List.mem_iff_getElem?.mp present
    obtain ⟨right, foundPerformer⟩ := List.mem_iff_getElem?.mp there
    by_cases position : left = right
    · subst position
      rw [foundOther] at foundPerformer
      cases foundPerformer
      exact did
    · have both := consistent.exclusive left right other performer position foundOther
        foundPerformer (same.trans sameKey.symm)
      exact absurd ⟨told, (consistent.performs performer there did).1⟩ both
  · intro settled
    obtain ⟨inserter, there, sameKey, told⟩ := consistent.inserted _
      (consistent.selects worker member selects)
    have did := settled inserter there sameKey told
    exact sameKey ▸ (consistent.performs inserter there did).2

/-- A worker moves on, with the row it has inserted and the operation it has performed. What it
was told and what it has done it does not lose, and it is told to execute only on a new row. -/
theorem consistent_move (consistent : Consistent state) {index : Nat} {worker : Worker}
    (stored : state.workers[index]? = some worker) (phase : Phase) {log : Table LogRow.operationKey}
    {performed : List String}
    (keys : ∀ operationKey, operationKey ∈ log.rows.map LogRow.operationKey ↔
      operationKey ∈ state.log.rows.map LogRow.operationKey ∨
        operationKey = worker.operationKey ∧ (worker.at phase).told = true)
    (effects : ∀ operationKey, operationKey ∈ performed ↔ operationKey ∈ state.performed ∨
      operationKey = worker.operationKey ∧ (worker.at phase).didPerform = true)
    (told : worker.told = true → (worker.at phase).told = true)
    (did : worker.didPerform = true → (worker.at phase).didPerform = true)
    (tells : (worker.at phase).told = true → worker.told = true ∨
      worker.operationKey ∉ state.log.rows.map LogRow.operationKey)
    (performs : (worker.at phase).didPerform = true → (worker.at phase).told = true)
    (selects : phase = .selecting →
      worker.operationKey ∈ state.log.rows.map LogRow.operationKey) :
    Consistent ⟨log, state.workers.set index (worker.at phase), performed⟩ := by
  constructor
  · refine Parties.apart_set ?_ consistent.exclusive ?_
    · exact fun apart same both => apart same.symm both.symm
    · rintro position other away found same ⟨toldNow, otherTold⟩
      rcases tells toldNow with before | free
      · exact consistent.exclusive index position worker other (Ne.symm away) stored found same
          ⟨before, otherTold⟩
      · have marked := consistent.marked other (List.mem_of_getElem? found) otherTold
        exact free ((show worker.operationKey = other.operationKey from same) ▸ marked)
  · intro other member toldOther
    rw [keys]
    rcases Parties.mem_set_cases member with rfl | ⟨position, -, found⟩
    · exact .inr ⟨rfl, toldOther⟩
    · exact .inl (consistent.marked other (List.mem_of_getElem? found) toldOther)
  · intro operationKey present
    rcases (keys operationKey).mp present with old | ⟨rfl, toldNow⟩
    · exact Parties.exists_set stored (fun held => ⟨held.1, told held.2⟩)
        (consistent.inserted operationKey old)
    · exact ⟨_, List.mem_of_getElem? (Parties.set_moved _ stored), rfl, toldNow⟩
  · intro other member didOther
    rcases Parties.mem_set_cases member with rfl | ⟨position, -, found⟩
    · exact ⟨performs didOther, (effects _).mpr (.inr ⟨rfl, didOther⟩)⟩
    · have old := consistent.performs other (List.mem_of_getElem? found) didOther
      exact ⟨old.1, (effects _).mpr (.inl old.2)⟩
  · intro operationKey present
    rcases (effects operationKey).mp present with old | ⟨rfl, didNow⟩
    · exact Parties.exists_set stored (fun held => ⟨held.1, did held.2⟩)
        (consistent.performed operationKey old)
    · exact ⟨_, List.mem_of_getElem? (Parties.set_moved _ stored), rfl, didNow⟩
  · intro other member selecting
    rw [keys]
    rcases Parties.mem_set_cases member with rfl | ⟨position, -, found⟩
    · exact .inl (selects selecting)
    · exact .inl (consistent.selects other (List.mem_of_getElem? found) selecting)

/-- A worker that moves on without being told or doing anything. -/
theorem consistent_idle (consistent : Consistent state) {index : Nat} {worker : Worker}
    (stored : state.workers[index]? = some worker) (phase : Phase) {log : Table LogRow.operationKey}
    (keys : log.rows.map LogRow.operationKey = state.log.rows.map LogRow.operationKey)
    (told : (worker.at phase).told = worker.told)
    (did : (worker.at phase).didPerform = worker.didPerform)
    (selects : phase = .selecting →
      worker.operationKey ∈ state.log.rows.map LogRow.operationKey) :
    Consistent ⟨log, state.workers.set index (worker.at phase), state.performed⟩ := by
  have member := List.mem_of_getElem? stored
  refine consistent_move consistent stored phase ?_ ?_ ?_ ?_ ?_ ?_ selects
  · intro operationKey
    rw [keys, told, iff_self_or]
    rintro ⟨rfl, before⟩
    exact consistent.marked worker member before
  · intro operationKey
    rw [did, iff_self_or]
    rintro ⟨rfl, before⟩
    exact (consistent.performs worker member before).2
  · exact told.trans
  · exact did.trans
  · exact fun now => .inl (told.symm.trans now)
  · intro now
    exact told.trans (consistent.performs worker member (did.symm.trans now)).1

end Invariants

section Steps

variable {state next : State}

/-- A worker that joins leaves the log consistent. -/
theorem check_consistent (consistent : Consistent state) (operationKey queue : String)
    (jobId : JobId) (workerId : WorkerId) :
    Consistent { state with
      workers := state.workers ++ [⟨operationKey, queue, jobId, workerId, .inserting⟩] } := by
  have before : ∀ {holds : Worker → Prop}, (∃ worker ∈ state.workers, holds worker) →
      ∃ worker ∈ state.workers ++ [⟨operationKey, queue, jobId, workerId, .inserting⟩],
        holds worker := by
    rintro holds ⟨worker, member, held⟩
    exact ⟨worker, List.mem_append_left _ member, held⟩
  constructor
  · refine Parties.apart_append ?_ consistent.exclusive ?_
    · exact fun apart same both => apart same.symm both.symm
    · rintro other - - ⟨told, -⟩
      cases told
  · exact forall_mem_snoc consistent.marked nofun
  · exact fun key present => before (consistent.inserted key present)
  · exact forall_mem_snoc consistent.performs nofun
  · exact fun key present => before (consistent.performed key present)
  · exact forall_mem_snoc consistent.selects nofun

/-- So does an INSERT. -/
theorem insert_consistent (consistent : Consistent state) {index : Nat} {worker : Worker}
    (stored : state.workers[index]? = some worker) (inserting : worker.phase = .inserting)
    (now : Time) : Consistent (state.insert index worker now) := by
  have fresh : worker.told = false ∧ worker.didPerform = false := by
    simp [Worker.told, Worker.didPerform, inserting]
  rw [State.insert]
  by_cases taken : (worker.row now).operationKey ∈ state.log.rows.map LogRow.operationKey
  · have kept : state.log.insert (worker.row now) = (state.log, false) := by
      simp only [Table.insert, dif_pos taken]
    rw [kept]
    exact consistent_idle consistent stored .selecting rfl fresh.1.symm fresh.2.symm fun _ => taken
  · have added : (state.log.insert (worker.row now)).2 = true := by
      simp only [Table.insert, dif_neg taken]
    have rows : (state.log.insert (worker.row now)).1.rows = state.log.rows ++ [worker.row now] := by
      simp only [Table.insert, dif_neg taken]
    dsimp only
    rw [added, if_pos rfl]
    refine consistent_move consistent stored .executing ?_ ?_ (fun _ => rfl) ?_ (fun _ => .inr taken)
      (by rintro ⟨⟩) (by rintro ⟨⟩)
    · intro operationKey
      rw [rows, List.map_append, List.mem_append]
      refine or_congr_right ?_
      rw [List.map_singleton, List.mem_singleton]
      exact (and_iff_left rfl).symm
    · intro operationKey
      exact iff_self_or.mpr (by rintro ⟨-, ⟨⟩⟩)
    · rw [fresh.2]
      rintro ⟨⟩

/-- So does every step. -/
theorem perform_consistent {action : Action} (consistent : Consistent state)
    (taken : perform state action = some next) : Consistent next := by
  cases action with
  | check operationKey queue jobId workerId =>
    cases taken
    exact check_consistent consistent operationKey queue jobId workerId
  | insert index now =>
    obtain ⟨worker, stored, taken⟩ := Option.bind_eq_some_iff.mp taken
    split at taken
    · next inserting =>
      cases taken
      exact insert_consistent consistent stored inserting now
    · cases taken
  | select index =>
    obtain ⟨worker, stored, taken⟩ := Option.bind_eq_some_iff.mp taken
    split at taken
    · next selecting =>
      cases taken
      refine consistent_idle consistent stored _ rfl ?_ ?_ (by rintro ⟨⟩)
      · simp [Worker.told, Worker.at, selecting]
      · simp [Worker.didPerform, Worker.at, selecting]
    · cases taken
  | execute index result =>
    obtain ⟨worker, stored, taken⟩ := Option.bind_eq_some_iff.mp taken
    split at taken
    · next executing =>
      cases taken
      have told : worker.told = true := by simp [Worker.told, executing]
      have marked := consistent.marked worker (List.mem_of_getElem? stored) told
      refine consistent_move consistent stored (.executed result) ?_ ?_ (fun _ => rfl)
        (fun _ => rfl) (fun _ => .inl told) (fun _ => rfl) (by rintro ⟨⟩)
      · intro operationKey
        refine iff_self_or.mpr ?_
        rintro ⟨rfl, -⟩
        exact marked
      · intro operationKey
        rw [List.mem_cons, or_comm]
        exact or_congr_right (and_iff_left rfl).symm
    · cases taken
  | record index =>
    obtain ⟨worker, stored, taken⟩ := Option.bind_eq_some_iff.mp taken
    split at taken
    · next result executed =>
      cases taken
      refine consistent_idle consistent stored _ ?_ ?_ ?_ (by rintro ⟨⟩)
      · exact Table.rewrite_keys _ _ _ fun _ => rfl
      · simp [Worker.told, Worker.at, executed]
      · simp [Worker.didPerform, Worker.at, executed]
    · cases taken
  | crash index =>
    obtain ⟨worker, stored, taken⟩ := Option.bind_eq_some_iff.mp taken
    rw [Option.ite_none_left_eq_some] at taken
    obtain ⟨-, taken⟩ := taken
    cases taken
    exact consistent_idle consistent stored _ rfl rfl rfl (by rintro ⟨⟩)

/-- A step tells the truth exactly if what it tells of is settled. -/
theorem step_truthful_iff {action : Action} (consistent : Consistent state)
    (taken : perform state action = some next) : Truthful state action ↔ Settled state action := by
  cases action with
  | select index =>
    obtain ⟨worker, stored, taken⟩ := Option.bind_eq_some_iff.mp taken
    split at taken
    · next selecting => exact truthful_iff consistent stored selecting
    · cases taken
  | _ => exact Iff.rfl

end Steps

section Claims

variable {history : List (State × Action)} {state : State}

/-- The empty log is consistent. -/
theorem initial_consistent : Consistent .initial :=
  ⟨nofun, nofun, nofun, nofun, nofun, nofun⟩

/-- A run keeps it so, and its answers are true exactly of settled states. -/
theorem run_consistent (run : Run (takes machine anyAction) .initial history state) :
    Consistent state ∧ ∀ step ∈ history, Truthful step.1 step.2 ↔ Settled step.1 step.2 := by
  refine run.invariant (fun history state =>
    Consistent state ∧ ∀ step ∈ history, Truthful step.1 step.2 ↔ Settled step.1 step.2)
    ⟨initial_consistent, nofun⟩ ?_
  rintro history observed state next - ⟨consistent, earlier⟩ ⟨action, -, taken⟩
  rw [machine, Option.map_eq_some_iff] at taken
  obtain ⟨reached, performed, same⟩ := taken
  cases same
  exact ⟨perform_consistent consistent performed,
    forall_mem_snoc earlier (step_truthful_iff consistent performed)⟩

/-- In every run one worker at most is told to execute an operation; and all workers that are
told that it has been executed are told the truth exactly if each of them selects the result
when nobody who was told to execute it is still, or has crashed, before it. -/
theorem guard_truthful_iff (run : Run (takes machine anyAction) .initial history state) :
    (Exclusive state ∧ ∀ step ∈ history, Truthful step.1 step.2) ↔
      ∀ step ∈ history, Settled step.1 step.2 := by
  obtain ⟨consistent, steps⟩ := run_consistent run
  rw [and_iff_right consistent.exclusive]
  exact forall₂_congr steps

/-- A second worker that comes after the first one has done its work. -/
def oneAfterAnother : List Action :=
  [.check "refund-1" "refund_jobs" 1 "worker-a", .insert 0 10, .execute 0 (some (.bool true)),
    .record 0, .check "refund-1" "refund_jobs" 1 "worker-b", .insert 1 20, .select 1]

/-- One worker after another gets true answers. -/
theorem guard_truthful_later :
    Exclusive ((execute machine .initial oneAfterAnother).get rfl).1 ∧
      ∀ step ∈ ((execute machine .initial oneAfterAnother).get rfl).2, Truthful step.1 step.2 :=
  (guard_truthful_iff (run_of_schedule oneAfterAnother rfl)).mpr (by decide)

/-- The first worker crashes between its marker and the operation, and the job is retried. -/
def crashedBefore : List Action :=
  [.check "refund-1" "refund_jobs" 1 "worker-a", .insert 0 10, .crash 0,
    .check "refund-1" "refund_jobs" 1 "worker-b", .insert 1 20, .select 1]

/-- The retry is told that the operation has been executed, which nobody has performed. -/
theorem crash_skips_operation :
    ((execute machine .initial crashedBefore).get rfl).1.performed = [] ∧
      ¬ ∀ step ∈ ((execute machine .initial crashedBefore).get rfl).2,
        Truthful step.1 step.2 := by decide

end Claims

end PlanBuddy.ExecutionLog
