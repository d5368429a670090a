import PlanBuddy.Sessions
import Mathlib.Data.List.Basic

/-!
# The transaction runner

`_runTransaction` and `adminQuery` of `config/db.js`. The runner acquires a client, runs
the callback in a transaction and starts over on another client after a serialization
failure or a deadlock.

What the database and the callback do in an attempt is a script: where an error is raised,
which statements the callback runs and how it ends. A callback propagates the errors of its
own statements, so one that returns has run all of them. A COMMIT that raises has not
committed. An error of ROLLBACK is swallowed; it means that the connection is lost, which
ends the block as well.

Neither the label nor the isolation level nor the delay before a retry changes any of this.
-/

namespace PlanBuddy.TransactionRunner

open Sessions

universe u v w
variable {γ : Type u} {δ : Type v} {ρ : Type w}

section Model

inductive Setting where
  | statementTimeout
  | idleInTransactionSessionTimeout
deriving DecidableEq

structure DbError where
  code : Option String
  message : String
deriving DecidableEq

def maxRetries : Nat := 3

/-- `env.DB_STATEMENT_TIMEOUT_MS || 5000`. -/
def statementTimeout (configured : Nat) : Nat := if configured = 0 then 5000 else configured

def isRetryable (raised : DbError) : Bool :=
  decide (raised.code = some "40001" ∨ raised.code = some "40P01")

/-- What the callback does in an attempt: the statements it runs, of which the last may be
the one that raises, and how it ends. -/
structure Conduct (δ : Type v) (ρ : Type w) where
  statements : List δ
  outcome : Except DbError ρ

/-- An attempt: the client that the pool hands out, the errors raised, and the callback. -/
structure Script (γ : Type u) (δ : Type v) (ρ : Type w) where
  connect : Except DbError γ
  setTimeout : Option DbError
  setIdleTimeout : Option DbError
  begin : Option DbError
  callback : Conduct δ ρ
  commit : Option DbError

inductive Event (γ : Type u) (δ : Type v) where
  | acquired (client : γ)
  /-- The callback starts. -/
  | called
  /-- A statement is executed, under these settings. -/
  | queried (client : γ) (inForce : Setting → Nat) (statement : δ)
  | raised (error : DbError)
  | released (client : γ)

/-- The sessions of the clients, what is committed, and what happened so far. -/
structure World (γ : Type u) (δ : Type v) where
  sessions : γ → Session Setting Nat δ
  committed : List δ
  trace : List (Event γ δ)

/-- Clients in no transaction, with the settings of their sessions. -/
def World.start (settings : γ → Setting → Nat) (committed : List δ) : World γ δ :=
  ⟨fun client => .idle (settings client), committed, []⟩

def World.record (world : World γ δ) (event : Event γ δ) : World γ δ :=
  { world with trace := world.trace ++ [event] }

variable [DecidableEq γ]

def World.run (world : World γ δ) (client : γ) (statement : Statement Setting Nat δ) :
    World γ δ :=
  let (session, changes) := (world.sessions client).run statement
  { world with
    sessions := Function.update world.sessions client session
    committed := world.committed ++ changes }

/-- A statement of the callback. -/
def World.query (world : World γ δ) (client : γ) (statement : δ) : World γ δ :=
  (world.record (.queried client (world.sessions client).inForce statement)).run client
    (.work statement)

/-- A statement of the runner, which is executed unless it raises. -/
def execute (client : γ) (statement : Statement Setting Nat δ) (raised : Option DbError)
    (rest : World γ δ → Except DbError ρ × World γ δ) (world : World γ δ) :
    Except DbError ρ × World γ δ :=
  match raised with
  | some error => (.error error, world)
  | none => rest (world.run client statement)

/-- The body of `try`. -/
def tryBody (stmtTimeout : Nat) (client : γ) (script : Script γ δ ρ) :
    World γ δ → Except DbError ρ × World γ δ :=
  execute client (.setLocal .statementTimeout stmtTimeout) script.setTimeout <|
  execute client (.setLocal .idleInTransactionSessionTimeout (stmtTimeout * 2))
    script.setIdleTimeout <|
  execute client .begin script.begin fun world =>
    let world := script.callback.statements.foldl (fun world => world.query client)
      (world.record .called)
    match script.callback.outcome with
    | .error error => (.error error, world)
    | .ok result =>
      execute client .commit script.commit (fun world => (.ok result, world)) world

/-- The loop, from an attempt on. -/
def loop (stmtTimeout : Nat) (scripts : Nat → Script γ δ ρ) (attempt : Nat)
    (world : World γ δ) : Except DbError ρ × World γ δ :=
  match (scripts attempt).connect with
  | .error error => (.error error, world)
  | .ok client =>
    match tryBody stmtTimeout client (scripts attempt) (world.record (.acquired client)) with
    | (.ok result, world) => (.ok result, world.record (.released client))
    | (.error error, world) =>
      let world := (world.record (.raised error)).run client .rollback
      let world := world.record (.released client)
      if isRetryable error = true ∧ attempt < maxRetries then
        loop stmtTimeout scripts (attempt + 1) world
      else (.error error, world)
termination_by maxRetries - attempt

/-- `_runTransaction`. -/
def runTransaction (configured : Nat) (scripts : Nat → Script γ δ ρ) (world : World γ δ) :
    Except DbError ρ × World γ δ :=
  loop (statementTimeout configured) scripts 1 world

/-- `adminQuery`. The statement is a transaction of its own, and `answer` is what comes of it. -/
def adminQuery (timeoutMs : Nat) (connect : Except DbError γ) (setTimeout : Option DbError)
    (statement : δ) (answer : Except DbError ρ) (world : World γ δ) :
    Except DbError ρ × World γ δ :=
  match connect with
  | .error error => (.error error, world)
  | .ok client =>
    let (outcome, world) := execute client (.setLocal .statementTimeout timeoutMs) setTimeout
      (fun world =>
        match answer with
        | .error error =>
          (.error error,
            world.record (.queried client (world.sessions client).inForce statement))
        | .ok result => (.ok result, world.query client statement))
      (world.record (.acquired client))
    (outcome, world.record (.released client))

end Model

section Attempts

/-- The error that keeps an attempt from the callback. -/
def Script.early (script : Script γ δ ρ) : Option DbError :=
  script.setTimeout <|> script.setIdleTimeout <|> script.begin

/-- The first error of an attempt, or the result of the callback. -/
def Script.outcome (script : Script γ δ ρ) : Except DbError ρ :=
  match script.early, script.callback.outcome, script.commit with
  | some error, _, _ => .error error
  | none, .error error, _ => .error error
  | none, .ok _, some error => .error error
  | none, .ok result, none => .ok result

/-- What is seen of the callback in an attempt. -/
def Script.calls (script : Script γ δ ρ) (client : γ) (settings : Setting → Nat) :
    List (Event γ δ) :=
  if script.early.isNone then .called :: script.callback.statements.map (.queried client settings)
  else []

/-- A round of the loop that got a client. -/
structure Round (γ : Type u) (δ : Type v) (ρ : Type w) where
  client : γ
  script : Script γ δ ρ

/-- What is seen of a round. -/
def Round.events (settings : γ → Setting → Nat) (round : Round γ δ ρ) : List (Event γ δ) :=
  .acquired round.client :: (round.script.calls round.client (settings round.client) ++
    match round.script.outcome with
    | .ok _ => [.released round.client]
    | .error error => [.raised error, .released round.client])

/-- The rounds of the loop from an attempt on, its outcome, and what it commits. -/
inductive Course (scripts : Nat → Script γ δ ρ) :
    Nat → List (Round γ δ ρ) → Except DbError ρ → List δ → Prop
  | unconnected {attempt : Nat} {error : DbError}
      (refused : (scripts attempt).connect = .error error) :
      Course scripts attempt [] (.error error) []
  | returned {attempt : Nat} {client : γ} {result : ρ}
      (connected : (scripts attempt).connect = .ok client)
      (succeeded : (scripts attempt).outcome = .ok result) :
      Course scripts attempt [⟨client, scripts attempt⟩] (.ok result)
        (scripts attempt).callback.statements
  | failed {attempt : Nat} {client : γ} {error : DbError}
      (connected : (scripts attempt).connect = .ok client)
      (raised : (scripts attempt).outcome = .error error)
      (final : ¬ (isRetryable error = true ∧ attempt < maxRetries)) :
      Course scripts attempt [⟨client, scripts attempt⟩] (.error error) []
  | retried {attempt : Nat} {client : γ} {error : DbError} {rounds : List (Round γ δ ρ)}
      {outcome : Except DbError ρ} {changes : List δ}
      (connected : (scripts attempt).connect = .ok client)
      (raised : (scripts attempt).outcome = .error error)
      (conflict : isRetryable error = true) (remaining : attempt < maxRetries)
      (later : Course scripts (attempt + 1) rounds outcome changes) :
      Course scripts attempt (⟨client, scripts attempt⟩ :: rounds) outcome changes

/-- Clients in no transaction. -/
def World.Idle (world : World γ δ) (settings : γ → Setting → Nat) : Prop :=
  world.sessions = fun client => .idle (settings client)

/-- A world begins idle. -/
theorem start_idle (settings : γ → Setting → Nat) (committed : List δ) :
    (World.start settings committed).Idle settings := rfl

variable [DecidableEq γ] {world : World γ δ} {settings : γ → Setting → Nat}

/-- The statements of the callback are done in the block, under the settings of the session. -/
theorem queries_work (world : World γ δ) (client : γ) (inForce : Setting → Nat)
    (statements pending : List δ) :
    statements.foldl (fun world => world.query client)
      { world with
        sessions := Function.update world.sessions client (.working inForce pending) } =
      { world with
        sessions := Function.update world.sessions client
          (.working inForce (pending ++ statements))
        trace := world.trace ++ statements.map (.queried client inForce) } := by
  induction statements generalizing world pending with
  | nil => simp
  | cons statement rest inductionHypothesis =>
    have first : World.query { world with
        sessions := Function.update world.sessions client (.working inForce pending) } client
          statement =
        { sessions := Function.update world.sessions client
            (.working inForce (pending ++ [statement]))
          committed := world.committed
          trace := world.trace ++ [.queried client inForce statement] } := by
      simp [World.query, World.run, World.record]
    rw [List.foldl_cons, first]
    have tail := inductionHypothesis { world with
      trace := world.trace ++ [.queried client inForce statement] } (pending ++ [statement])
    simpa using tail

/-- The timeouts are set before the block begins, which changes nothing. -/
theorem run_setLocal (idle : world.Idle settings) (client : γ) (setting : Setting)
    (value : Nat) : world.run client (.setLocal setting value) = world := by
  have session : world.sessions client = .idle (settings client) := congrFun idle client
  have unchanged : Function.update world.sessions client (.idle (settings client)) =
      world.sessions := Function.update_eq_self_iff.mpr session.symm
  simp only [World.run, session, idle_setLocal, unchanged, List.append_nil]

/-- An early error leaves everything as it was. -/
theorem tryBody_early (idle : world.Idle settings) (stmtTimeout : Nat) (client : γ)
    {script : Script γ δ ρ} {error : DbError} (early : script.early = some error) :
    tryBody stmtTimeout client script world = (.error error, world) := by
  unfold Script.early at early
  cases setTimeout : script.setTimeout with
  | some raised => simp_all [tryBody, execute]
  | none =>
    cases setIdleTimeout : script.setIdleTimeout with
    | some raised => simp_all [tryBody, execute, run_setLocal idle]
    | none => simp_all [tryBody, execute, run_setLocal idle]

/-- The world in which the callback of an attempt has ended. -/
def World.worked (world : World γ δ) (client : γ) (inForce : Setting → Nat)
    (script : Script γ δ ρ) : World γ δ :=
  { world with
    sessions := Function.update world.sessions client
      (.working inForce script.callback.statements)
    trace := world.trace ++ script.calls client inForce }

/-- Without an early error the callback does its work in the block. -/
theorem tryBody_begun (idle : world.Idle settings) (stmtTimeout : Nat) (client : γ)
    {script : Script γ δ ρ} (begun : script.early = none) :
    tryBody stmtTimeout client script world =
      match script.callback.outcome with
      | .error error => (.error error, world.worked client (settings client) script)
      | .ok result =>
        execute client .commit script.commit (fun world => (.ok result, world))
          (world.worked client (settings client) script) := by
  obtain ⟨setTimeout, setIdleTimeout, begins⟩ : script.setTimeout = none ∧
      script.setIdleTimeout = none ∧ script.begin = none := by
    simpa [Script.early] using begun
  have session : world.sessions client = .idle (settings client) := congrFun idle client
  have started : (world.run client .begin).record .called = { world with
      sessions := Function.update world.sessions client (.working (settings client) [])
      trace := world.trace ++ [.called] } := by
    simp [World.run, World.record, session]
  have queries := queries_work { world with trace := world.trace ++ [.called] }
    client (settings client) script.callback.statements []
  have worked : script.callback.statements.foldl (fun world => world.query client)
      ((world.run client .begin).record .called) =
        world.worked client (settings client) script := by
    rw [started, World.worked, Script.calls, begun]
    simpa using queries
  rw [tryBody, setTimeout, setIdleTimeout, begins]
  simp only [execute, run_setLocal idle, worked]

/-- An attempt commits what the callback did, or leaves a session that ROLLBACK clears. -/
theorem tryBody_cases (idle : world.Idle settings) (stmtTimeout : Nat) (client : γ)
    (script : Script γ δ ρ) :
    (∃ result, script.outcome = .ok result ∧
      tryBody stmtTimeout client script world =
        (.ok result, { world with
          committed := world.committed ++ script.callback.statements
          trace := world.trace ++ script.calls client (settings client) })) ∨
    ∃ error session, script.outcome = .error error ∧
      Session.run session .rollback = (.idle (settings client), []) ∧
      tryBody stmtTimeout client script world =
        (.error error, { world with
          sessions := Function.update world.sessions client session
          trace := world.trace ++ script.calls client (settings client) }) := by
  have session : world.sessions client = .idle (settings client) := congrFun idle client
  have unchanged : Function.update world.sessions client (.idle (settings client)) =
      world.sessions := Function.update_eq_self_iff.mpr session.symm
  have cleared : Session.run (.working (settings client) script.callback.statements) .rollback =
      (.idle (settings client), []) := working_rollback script.callback.statements
  cases early : script.early with
  | some error =>
    refine .inr ⟨error, .idle (settings client), by simp [Script.outcome, early], rfl, ?_⟩
    rw [tryBody_early idle stmtTimeout client early, unchanged]
    simp [Script.calls, early]
  | none =>
    rw [tryBody_begun idle stmtTimeout client early]
    cases outcome : script.callback.outcome with
    | error error =>
      exact .inr ⟨error, _, by simp [Script.outcome, early, outcome], cleared, rfl⟩
    | ok result =>
      cases commit : script.commit with
      | some error =>
        exact .inr ⟨error, _, by simp [Script.outcome, early, outcome, commit], cleared, rfl⟩
      | none =>
        refine .inl ⟨result, by simp [Script.outcome, early, outcome, commit], ?_⟩
        simp [execute, World.worked, World.run, unchanged]

/-- ROLLBACK and the release leave the clients as they were before the attempt. -/
theorem rolled_back (idle : world.Idle settings) (client : γ)
    {session : Session Setting Nat δ} (trace : List (Event γ δ)) (error : DbError)
    (cleared : session.run .rollback = (.idle (settings client), [])) :
    ((World.record ⟨Function.update world.sessions client session, world.committed, trace⟩
      (.raised error)).run client .rollback).record (.released client) =
        { world with trace := trace ++ [.raised error, .released client] } := by
  have session : world.sessions client = .idle (settings client) := congrFun idle client
  have unchanged : Function.update world.sessions client (.idle (settings client)) =
      world.sessions := Function.update_eq_self_iff.mpr session.symm
  simp [World.run, World.record, cleared, unchanged]

/-- The world after a round that committed nothing. -/
def World.after (world : World γ δ) (settings : γ → Setting → Nat) (round : Round γ δ ρ) :
    World γ δ :=
  { world with trace := world.trace ++ round.events settings }

/-- An attempt that succeeds ends the loop. -/
theorem loop_returned (idle : world.Idle settings) (stmtTimeout : Nat)
    {scripts : Nat → Script γ δ ρ} {attempt : Nat} {client : γ} {result : ρ}
    (connected : (scripts attempt).connect = .ok client)
    (succeeded : (scripts attempt).outcome = .ok result) :
    loop stmtTimeout scripts attempt world = (.ok result,
      { world.after settings ⟨client, scripts attempt⟩ with
        committed := world.committed ++ (scripts attempt).callback.statements }) := by
  have acquired : (world.record (.acquired client)).Idle settings := idle
  obtain ⟨returned, outcome, body⟩ | ⟨error, session, raised, -, -⟩ :=
    tryBody_cases acquired stmtTimeout client (scripts attempt)
  · obtain rfl : returned = result := Except.ok.inj (outcome.symm.trans succeeded)
    rw [loop]
    simp only [connected, body]
    simp [World.record, World.after, Round.events, succeeded]
  · rw [succeeded] at raised
    cases raised

/-- One that fails begins another, or ends it with its error. -/
theorem loop_raised (idle : world.Idle settings) (stmtTimeout : Nat)
    {scripts : Nat → Script γ δ ρ} {attempt : Nat} {client : γ} {error : DbError}
    (connected : (scripts attempt).connect = .ok client)
    (raised : (scripts attempt).outcome = .error error) :
    loop stmtTimeout scripts attempt world =
      if isRetryable error = true ∧ attempt < maxRetries then
        loop stmtTimeout scripts (attempt + 1) (world.after settings ⟨client, scripts attempt⟩)
      else (.error error, world.after settings ⟨client, scripts attempt⟩) := by
  have acquired : (world.record (.acquired client)).Idle settings := idle
  obtain ⟨result, succeeded, -⟩ | ⟨other, session, outcome, cleared, body⟩ :=
    tryBody_cases acquired stmtTimeout client (scripts attempt)
  · rw [raised] at succeeded
    cases succeeded
  · obtain rfl : other = error := Except.error.inj (outcome.symm.trans raised)
    have after := rolled_back acquired client ((world.record (.acquired client)).trace ++
      (scripts attempt).calls client (settings client)) other cleared
    have events : (world.record (.acquired client)).trace ++
        (scripts attempt).calls client (settings client) ++ [.raised other, .released client] =
          world.trace ++ Round.events settings ⟨client, scripts attempt⟩ := by
      simp [World.record, Round.events, raised]
    rw [loop]
    simp only [connected, body, after, events]
    rfl

/-- The loop takes its course, and leaves no client in a transaction. The induction is on
the attempts that remain. -/
theorem loop_course (idle : world.Idle settings) (stmtTimeout : Nat)
    (scripts : Nat → Script γ δ ρ) (attempt : Nat) :
    ∃ rounds outcome changes, Course scripts attempt rounds outcome changes ∧
      loop stmtTimeout scripts attempt world = (outcome, { world with
        committed := world.committed ++ changes
        trace := world.trace ++ rounds.flatMap (Round.events settings) }) := by
  generalize left : maxRetries - attempt = remaining
  induction remaining using Nat.strongRecOn generalizing attempt world with
  | ind remaining inductionHypothesis =>
    cases connected : (scripts attempt).connect with
    | error error =>
      refine ⟨[], .error error, [], .unconnected connected, ?_⟩
      rw [loop]
      simp [connected]
    | ok client =>
      cases outcome : (scripts attempt).outcome with
      | ok result =>
        refine ⟨_, _, _, .returned connected outcome, ?_⟩
        rw [loop_returned idle stmtTimeout connected outcome]
        simp [World.after]
      | error error =>
        have raised := loop_raised idle stmtTimeout connected outcome
        by_cases again : isRetryable error = true ∧ attempt < maxRetries
        · have after : (world.after settings ⟨client, scripts attempt⟩).Idle settings := idle
          obtain ⟨rounds, final, changes, course, rest⟩ :=
            inductionHypothesis (maxRetries - (attempt + 1)) (by omega) after (attempt + 1) rfl
          refine ⟨_, final, changes, .retried connected outcome again.1 again.2 course, ?_⟩
          rw [raised, if_pos again, rest]
          simp [World.after]
        · refine ⟨_, _, _, .failed connected outcome again, ?_⟩
          rw [raised, if_neg again]
          simp [World.after]

end Attempts

section Runs

variable {settings : γ → Setting → Nat} {scripts : Nat → Script γ δ ρ}

def Event.isCall : Event γ δ → Bool
  | .called => true
  | _ => false

def Event.isAcquired : Event γ δ → Bool
  | .acquired _ => true
  | _ => false

def Event.ofPool : Event γ δ → Bool
  | .acquired _ => true
  | .released _ => true
  | _ => false

/-- Between any two calls of the callback a retryable error was raised. -/
def Separated (trace : List (Event γ δ)) : Prop :=
  ∀ before between later, trace = before ++ .called :: (between ++ .called :: later) →
    ∃ error, .raised error ∈ between ∧ isRetryable error = true

/-- What a run of the runner guarantees, from what was committed before it. -/
structure Correct (scripts : Nat → Script γ δ ρ) (committed : List δ)
    (outcome : Except DbError ρ) (world : World γ δ) : Prop where
  bounded : world.trace.countP Event.isCall ≤ maxRetries
  separated : Separated world.trace
  /-- The last attempt is the one for which the last client was acquired. -/
  returns : ∀ result, outcome = .ok result → ∃ statements,
    (scripts (world.trace.countP Event.isAcquired)).callback = ⟨statements, .ok result⟩ ∧
      world.committed = committed ++ statements
  throws : ∀ error, outcome = .error error → world.committed = committed
  released : ∃ clients : List γ, world.trace.filter Event.ofPool =
    clients.flatMap fun client => [.acquired client, .released client]

/-- What succeeds has a callback that succeeds. -/
theorem Script.outcome_ok {script : Script γ δ ρ} {result : ρ}
    (succeeded : script.outcome = .ok result) : script.callback.outcome = .ok result := by
  unfold Script.outcome at succeeded
  split at succeeded <;> cases succeeded
  assumption

/-- The events of a round: the callback is called at most once, and a single client is
acquired first and released last. -/
theorem events_counts (settings : γ → Setting → Nat) (round : Round γ δ ρ) :
    (round.events settings).countP Event.isCall ≤ 1 ∧
      (round.events settings).countP Event.isAcquired = 1 ∧
      (round.events settings).filter Event.ofPool =
        [.acquired round.client, .released round.client] := by
  unfold Round.events Script.calls
  cases round.script.outcome <;> cases round.script.early.isNone <;>
    simp [List.countP_cons, List.filter_cons, Event.isCall, Event.isAcquired, Event.ofPool,
      Function.comp_def]

/-- There are no more rounds than attempts. -/
theorem course_length {attempt : Nat} {rounds : List (Round γ δ ρ)} {outcome : Except DbError ρ}
    {changes : List δ} (course : Course scripts attempt rounds outcome changes)
    (started : attempt ≤ maxRetries) : rounds.length + attempt ≤ maxRetries + 1 := by
  induction course with
  | unconnected => simpa using Nat.le_succ_of_le started
  | returned => simpa [Nat.add_comm] using started
  | failed => simpa [Nat.add_comm] using started
  | retried _ _ _ remaining _ inductionHypothesis =>
    have rest := inductionHypothesis remaining
    rw [List.length_cons]
    omega

/-- A course that returns commits what the callback of its last attempt did. -/
theorem course_returned {attempt : Nat} {rounds : List (Round γ δ ρ)}
    {outcome : Except DbError ρ} {changes : List δ} {result : ρ}
    (course : Course scripts attempt rounds outcome changes) (returns : outcome = .ok result) :
    ∃ last, attempt + rounds.length = last + 1 ∧
      (scripts last).callback = ⟨changes, .ok result⟩ := by
  induction course with
  | unconnected => cases returns
  | @returned attempt client _ _ succeeded =>
    cases returns
    exact ⟨attempt, rfl, by rw [← Script.outcome_ok succeeded]⟩
  | failed => cases returns
  | retried _ _ _ _ _ inductionHypothesis =>
    obtain ⟨last, count, callback⟩ := inductionHypothesis returns
    refine ⟨last, ?_, callback⟩
    rw [List.length_cons]
    omega

/-- A course that throws has changed nothing. -/
theorem course_thrown {attempt : Nat} {rounds : List (Round γ δ ρ)}
    {outcome : Except DbError ρ} {changes : List δ} {error : DbError}
    (course : Course scripts attempt rounds outcome changes) (throws : outcome = .error error) :
    changes = [] := by
  induction course with
  | unconnected => rfl
  | returned => cases throws
  | failed => rfl
  | retried _ _ _ _ _ inductionHypothesis => exact inductionHypothesis throws

/-- The callback of a round is called before its error is raised. -/
theorem call_raised {round : Round γ δ ρ} {error : DbError} {before after : List (Event γ δ)}
    (raised : round.script.outcome = .error error)
    (split : round.events settings = before ++ .called :: after) :
    .called ∉ after ∧ .raised error ∈ after := by
  rw [Round.events, Script.calls, raised] at split
  cases early : round.script.early.isNone with
  | false =>
    have member : Event.called ∈ before ++ .called :: after :=
      List.mem_append_right _ (List.mem_cons_self ..)
    rw [← split, early] at member
    simp at member
  | true =>
    rw [early, if_pos rfl] at split
    match before, split with
    | [], split => cases split
    | [_], split =>
      obtain ⟨-, -, rfl⟩ := by simpa using split
      simp
    | _ :: _ :: before, split =>
      have member : Event.called ∈ before ++ .called :: after :=
        List.mem_append_right _ (List.mem_cons_self ..)
      simp only [List.cons_append, List.cons.injEq] at split
      rw [← split.2.2] at member
      simp at member

/-- A round that ends in a conflict may be put in front. -/
theorem separated_round {round : Round γ δ ρ} {error : DbError} {rest : List (Event γ δ)}
    (raised : round.script.outcome = .error error) (conflict : isRetryable error = true)
    (separated : Separated rest) : Separated (round.events settings ++ rest) := by
  intro before between later split
  rcases List.append_eq_append_iff.mp split with ⟨offset, -, inRest⟩ | ⟨offset, inRound, tail⟩
  · exact separated offset between later inRest
  · cases offset with
    | nil => exact separated [] between later tail.symm
    | cons first offset =>
      obtain ⟨rfl, remainder⟩ := List.cons.inj tail
      obtain ⟨once, afterwards⟩ := call_raised raised inRound
      refine ⟨error, ?_, conflict⟩
      rcases List.append_eq_append_iff.mp remainder with
        ⟨left, sameOffset, further⟩ | ⟨left, sameBetween, -⟩
      · cases left with
        | nil => exact (List.append_nil between) ▸ sameOffset ▸ afterwards
        | cons again left =>
          obtain ⟨rfl, -⟩ := List.cons.inj further
          exact absurd (sameOffset ▸ List.mem_append_right _ (List.mem_cons_self ..)) once
      · exact sameBetween ▸ List.mem_append_left _ afterwards

/-- The events of one round are separated. -/
theorem separated_single (round : Round γ δ ρ) : Separated (round.events settings) := by
  intro before between later split
  have calls := (events_counts settings round).1
  rw [split] at calls
  simp only [List.countP_append, List.countP_cons, Event.isCall, ↓reduceIte] at calls
  omega

/-- So are those of a course. -/
theorem course_separated {attempt : Nat} {rounds : List (Round γ δ ρ)}
    {outcome : Except DbError ρ} {changes : List δ}
    (course : Course scripts attempt rounds outcome changes) :
    Separated (rounds.flatMap (Round.events settings)) := by
  induction course with
  | unconnected => exact fun before _ _ split => by cases before <;> cases split
  | returned => simpa using separated_single _
  | failed => simpa using separated_single _
  | retried _ raised conflict _ _ inductionHypothesis =>
    exact separated_round raised conflict inductionHypothesis

/-- The events of a course: each round calls the callback at most once, and acquires and
releases one client. -/
theorem course_counts (settings : γ → Setting → Nat) (rounds : List (Round γ δ ρ)) :
    (rounds.flatMap (Round.events settings)).countP Event.isCall ≤ rounds.length ∧
      (rounds.flatMap (Round.events settings)).countP Event.isAcquired = rounds.length ∧
      (rounds.flatMap (Round.events settings)).filter Event.ofPool =
        (rounds.map Round.client).flatMap fun client => [.acquired client, .released client] := by
  induction rounds with
  | nil => exact ⟨Nat.le_refl 0, rfl, rfl⟩
  | cons round rest inductionHypothesis =>
    obtain ⟨calls, acquired, ofPool⟩ := events_counts settings round
    obtain ⟨restCalls, restAcquired, restOfPool⟩ := inductionHypothesis
    simp only [List.flatMap_cons, List.countP_append, List.filter_append, List.length_cons,
      List.map_cons, acquired, ofPool, restAcquired, restOfPool]
    exact ⟨by omega, by omega, trivial⟩

variable [DecidableEq γ]

/-- Whatever raises an error and whatever the callback does, the runner calls it at most
three times and again only after a conflict, commits what its last attempt did exactly if
it returns, and releases each client that it acquired. -/
theorem transaction_runs (configured : Nat) (scripts : Nat → Script γ δ ρ)
    (settings : γ → Setting → Nat) (committed : List δ) :
    Correct scripts committed (runTransaction configured scripts (.start settings committed)).1
      (runTransaction configured scripts (.start settings committed)).2 := by
  obtain ⟨rounds, outcome, changes, course, run⟩ :=
    loop_course (start_idle settings committed) (statementTimeout configured) scripts 1
  obtain ⟨calls, acquired, ofPool⟩ := course_counts settings rounds
  have length := course_length course (by decide)
  rw [runTransaction, run]
  simp only [World.start, List.nil_append]
  refine ⟨by simpa using Nat.le_trans calls (Nat.le_of_succ_le_succ length),
    course_separated course, ?_, ?_, rounds.map Round.client, ofPool⟩
  · intro result returns
    obtain ⟨last, count, callback⟩ := course_returned course returns
    refine ⟨changes, ?_, rfl⟩
    rw [acquired, show rounds.length = last by omega, callback]
  · intro error throws
    rw [course_thrown course throws, List.append_nil]

end Runs

end PlanBuddy.TransactionRunner
