import PlanBuddy.TransactionRunner

/-!
# Statement timeouts

Both runners of `config/db.js` issue SET LOCAL while no transaction block is open:
`_runTransaction` before BEGIN, `adminQuery` in front of a statement that is a transaction of
its own. Nothing is set, so every statement is executed under the settings of its session.
-/

namespace PlanBuddy.StatementTimeouts

open TransactionRunner Sessions

universe u v w
variable {γ : Type u} {δ : Type v} {ρ : Type w}

section Transactions

/-- From an attempt on, the callback runs a statement on the client. -/
inductive Served (scripts : Nat → Script γ δ ρ) : Nat → γ → Prop
  | here {attempt : Nat} {client : γ} (connected : (scripts attempt).connect = .ok client)
      (begun : (scripts attempt).early = none)
      (working : (scripts attempt).callback.statements ≠ []) : Served scripts attempt client
  | later {attempt : Nat} {other client : γ} {error : DbError}
      (connected : (scripts attempt).connect = .ok other)
      (raised : (scripts attempt).outcome = .error error) (conflict : isRetryable error = true)
      (remaining : attempt < maxRetries) (served : Served scripts (attempt + 1) client) :
      Served scripts attempt client

variable {scripts : Nat → Script γ δ ρ} {settings : γ → Setting → Nat}

/-- The callback of a round runs a statement on the client. -/
def Serves (round : Round γ δ ρ) (client : γ) : Prop :=
  round.client = client ∧ round.script.early = none ∧ round.script.callback.statements ≠ []

/-- The statements of a round are executed under the settings of the session. -/
theorem round_queried {round : Round γ δ ρ} {client : γ} {inForce : Setting → Nat} :
    (∃ statement, .queried client inForce statement ∈ round.events settings) ↔
      Serves round client ∧ inForce = settings client := by
  have called : ∀ statement, .queried client inForce statement ∈ round.events settings ↔
      .queried client inForce statement ∈
        round.script.calls round.client (settings round.client) := by
    intro statement
    unfold Round.events
    cases round.script.outcome <;> simp
  simp only [called, Script.calls, Serves]
  cases early : round.script.early with
  | some error => simp
  | none =>
    have queried : ∀ statement, (.queried client inForce statement : Event γ δ) ∈
        (.called :: round.script.callback.statements.map
          (.queried round.client (settings round.client))) ↔
        statement ∈ round.script.callback.statements ∧ round.client = client ∧
          settings round.client = inForce := by
      intro statement
      simp
    simp only [Option.isNone_none, ↓reduceIte, queried, true_and]
    constructor
    · rintro ⟨statement, member, rfl, rfl⟩
      exact ⟨⟨rfl, List.ne_nil_of_mem member⟩, rfl⟩
    · rintro ⟨⟨rfl, working⟩, rfl⟩
      obtain ⟨statement, member⟩ := List.exists_mem_of_ne_nil _ working
      exact ⟨statement, member, rfl, rfl⟩

/-- An attempt that got a client serves it, or leaves it to the next one. -/
theorem served_iff {attempt : Nat} {other client : γ}
    (connected : (scripts attempt).connect = .ok other) :
    Served scripts attempt client ↔ Serves ⟨other, scripts attempt⟩ client ∨
      ∃ error, (scripts attempt).outcome = .error error ∧ isRetryable error = true ∧
        attempt < maxRetries ∧ Served scripts (attempt + 1) client := by
  constructor
  · intro served
    cases served with
    | here also begun working =>
      exact .inl ⟨Except.ok.inj (connected.symm.trans also), begun, working⟩
    | later _ raised conflict remaining served =>
      exact .inr ⟨_, raised, conflict, remaining, served⟩
  · rintro (⟨rfl, begun, working⟩ | ⟨error, raised, conflict, remaining, served⟩)
    · exact .here connected begun working
    · exact .later connected raised conflict remaining served

/-- A client is served in one of the rounds. -/
theorem course_served {attempt : Nat} {rounds : List (Round γ δ ρ)}
    {outcome : Except DbError ρ} {changes : List δ} {client : γ}
    (course : Course scripts attempt rounds outcome changes) :
    Served scripts attempt client ↔ ∃ round ∈ rounds, Serves round client := by
  induction course with
  | @unconnected attempt _ refused =>
    have unserved : ¬ Served scripts attempt client := by
      intro served
      cases served <;> simp_all
    simp [unserved]
  | returned connected succeeded =>
    rw [served_iff connected, succeeded]
    simp
  | failed connected raised final =>
    rw [served_iff connected, raised]
    refine ⟨?_, fun ⟨round, member, serves⟩ => .inl (List.mem_singleton.mp member ▸ serves)⟩
    rintro (serves | ⟨error, same, conflict, remaining, -⟩)
    · exact ⟨_, List.mem_singleton_self _, serves⟩
    · cases same
      exact absurd ⟨conflict, remaining⟩ final
  | retried connected raised conflict remaining _ inductionHypothesis =>
    rw [served_iff connected, raised, List.exists_mem_cons_iff, ← inductionHypothesis]
    simp [conflict, remaining]

variable [DecidableEq γ]

/-- The statements of a callback are executed under the settings of their sessions. -/
theorem transaction_queried (configured : Nat) (committed : List δ) {client : γ}
    {inForce : Setting → Nat} :
    (∃ statement, .queried client inForce statement ∈
        (runTransaction configured scripts (.start settings committed)).2.trace) ↔
      Served scripts 1 client ∧ inForce = settings client := by
  obtain ⟨rounds, outcome, changes, course, run⟩ :=
    loop_course (start_idle settings committed) (statementTimeout configured) scripts 1
  have members : (∃ statement, .queried client inForce statement ∈
      rounds.flatMap (Round.events settings)) ↔
        ∃ round ∈ rounds, ∃ statement, .queried client inForce statement ∈
          round.events settings := by
    simp only [List.mem_flatMap]
    exact exists_comm.trans (exists_congr fun round => exists_and_left)
  rw [runTransaction, run, course_served course]
  simp only [World.start, List.nil_append, members, round_queried]
  simp only [← and_assoc, exists_and_right]

/-- Between two transactions no session is changed. -/
theorem transaction_sessions (configured : Nat) (committed : List δ) :
    (runTransaction configured scripts (.start settings committed)).2.sessions =
      (World.start settings committed : World γ δ).sessions := by
  obtain ⟨rounds, outcome, changes, -, run⟩ :=
    loop_course (start_idle settings committed) (statementTimeout configured) scripts 1
  rw [runTransaction, run]

end Transactions

section Admin

variable [DecidableEq γ] {settings : γ → Setting → Nat} {committed : List δ} {timeoutMs : Nat}
  {connect : Except DbError γ} {setTimeout : Option DbError} {statement : δ}
  {answer : Except DbError ρ}

/-- On a client `adminQuery` leaves the sessions as they were. -/
theorem admin_world (settings : γ → Setting → Nat) (committed : List δ) (timeoutMs : Nat)
    (setTimeout : Option DbError) (statement : δ) (answer : Except DbError ρ) (client : γ) :
    ∃ changes, (adminQuery timeoutMs (.ok client) setTimeout statement answer
      (.start settings committed)).2 = { World.start settings committed with
        committed := committed ++ changes
        trace := .acquired client :: ((if setTimeout.isNone then
          [.queried client (settings client) statement] else []) ++ [.released client]) } := by
  have acquired : ((World.start settings committed).record (.acquired client)).Idle settings :=
    start_idle settings committed
  have unset := run_setLocal acquired client .statementTimeout timeoutMs
  cases setTimeout with
  | some error => exact ⟨[], by simp [adminQuery, TransactionRunner.execute, World.record, World.start]⟩
  | none =>
    cases answer with
    | error error =>
      refine ⟨[], ?_⟩
      simp only [adminQuery, TransactionRunner.execute, unset]
      simp [World.record, World.start]
    | ok result =>
      refine ⟨[statement], ?_⟩
      simp only [adminQuery, TransactionRunner.execute, unset]
      simp [World.record, World.start, World.query, World.run]

/-- The statement of `adminQuery` is executed under the settings of its session. -/
theorem admin_queried (settings : γ → Setting → Nat) (committed : List δ) (timeoutMs : Nat)
    (connect : Except DbError γ) (setTimeout : Option DbError) (statement : δ)
    (answer : Except DbError ρ) {client : γ} {inForce : Setting → Nat} :
    (∃ executed, .queried client inForce executed ∈ (adminQuery timeoutMs connect setTimeout
        statement answer (.start settings committed)).2.trace) ↔
      (connect = .ok client ∧ setTimeout = none) ∧ inForce = settings client := by
  cases connect with
  | error error => simp [adminQuery, World.start]
  | ok other =>
    obtain ⟨changes, world⟩ :=
      admin_world settings committed timeoutMs setTimeout statement answer other
    rw [world]
    cases setTimeout with
    | some error => simp
    | none =>
      simp only [Option.isNone_none, ↓reduceIte, List.cons_append, List.nil_append, List.mem_cons,
        reduceCtorEq, Event.queried.injEq, List.not_mem_nil, or_false, false_or, Except.ok.injEq,
        and_true]
      constructor
      · rintro ⟨_, rfl, rfl, -⟩
        exact ⟨rfl, rfl⟩
      · rintro ⟨rfl, rfl⟩
        exact ⟨statement, rfl, rfl, rfl⟩

/-- `adminQuery` leaves the sessions as they were. -/
theorem admin_sessions : (adminQuery timeoutMs connect setTimeout statement answer
    (.start settings committed)).2.sessions =
      (World.start settings committed : World γ δ).sessions := by
  cases connect with
  | error error => rfl
  | ok client =>
    obtain ⟨changes, world⟩ :=
      admin_world settings committed timeoutMs setTimeout statement answer client
    rw [world]

end Admin

section Timeouts

/-- A run of `adminQuery`. -/
structure AdminCall (γ : Type u) (δ : Type v) (ρ : Type w) where
  timeoutMs : Nat
  connect : Except DbError γ
  setTimeout : Option DbError
  statement : δ
  answer : Except DbError ρ

variable [DecidableEq γ]

def AdminCall.run (call : AdminCall γ δ ρ) (world : World γ δ) : Except DbError ρ × World γ δ :=
  adminQuery call.timeoutMs call.connect call.setTimeout call.statement call.answer world

/-- A transaction and an administrative query run their statements under the timeouts they
ask for, and leave the sessions of the pool as they were. -/
structure TimeoutsInForce (configured : Nat) (scripts : Nat → Script γ δ ρ)
    (call : AdminCall γ δ ρ) (world : World γ δ) : Prop where
  transaction : ∀ client inForce statement,
    .queried client inForce statement ∈ (runTransaction configured scripts world).2.trace →
      inForce .statementTimeout = statementTimeout configured ∧
        inForce .idleInTransactionSessionTimeout = statementTimeout configured * 2
  admin : ∀ client inForce statement,
    .queried client inForce statement ∈ (call.run world).2.trace →
      inForce .statementTimeout = call.timeoutMs
  sessions : (runTransaction configured scripts world).2.sessions = world.sessions ∧
    (call.run world).2.sessions = world.sessions

/-- The timeouts are in force exactly where the sessions have them anyway. -/
theorem timeouts_in_force_iff (configured : Nat) (scripts : Nat → Script γ δ ρ)
    (call : AdminCall γ δ ρ) (settings : γ → Setting → Nat) (committed : List δ) :
    TimeoutsInForce configured scripts call (.start settings committed) ↔
      (∀ client, Served scripts 1 client →
        settings client .statementTimeout = statementTimeout configured ∧
          settings client .idleInTransactionSessionTimeout = statementTimeout configured * 2) ∧
      ∀ client, call.connect = .ok client → call.setTimeout = none →
        settings client .statementTimeout = call.timeoutMs := by
  constructor
  · rintro ⟨transaction, admin, -⟩
    constructor
    · intro client served
      obtain ⟨statement, queried⟩ :=
        (transaction_queried configured committed).mpr ⟨served, rfl⟩
      exact transaction client _ statement queried
    · intro client connected set
      obtain ⟨statement, queried⟩ := (admin_queried settings committed call.timeoutMs
        call.connect call.setTimeout call.statement call.answer).mpr ⟨⟨connected, set⟩, rfl⟩
      exact admin client _ statement queried
  · rintro ⟨transaction, admin⟩
    refine ⟨?_, ?_, transaction_sessions configured committed, admin_sessions⟩
    · intro client inForce statement queried
      obtain ⟨served, rfl⟩ :=
        (transaction_queried configured committed).mp ⟨statement, queried⟩
      exact transaction client served
    · intro client inForce statement queried
      obtain ⟨⟨connected, set⟩, rfl⟩ := (admin_queried settings committed call.timeoutMs
        call.connect call.setTimeout call.statement call.answer).mp ⟨statement, queried⟩
      exact admin client connected set

/-- A pool of one client with the session that the configuration gives it. -/
def sampleSettings : Unit → Setting → Nat
  | _, .statementTimeout => 30000
  | _, .idleInTransactionSessionTimeout => 0

/-- A transaction of one statement. -/
def sampleScript : Script Unit Unit Unit where
  connect := .ok ()
  setTimeout := none
  setIdleTimeout := none
  begin := none
  callback := ⟨[()], .ok ()⟩
  commit := none

/-- A transaction may stay idle without a limit, and a query that asks for two minutes
has thirty seconds. -/
theorem session_timeouts_remain :
    ¬ ∀ (configured : Nat) (scripts : Nat → Script Unit Unit Unit)
      (call : AdminCall Unit Unit Unit) (settings : Unit → Setting → Nat),
      TimeoutsInForce configured scripts call (.start settings []) := by
  intro inForce
  have timeouts := inForce 30000 (fun _ => sampleScript)
    ⟨120000, .ok (), none, (), .ok ()⟩ sampleSettings
  obtain ⟨statement, queried⟩ := (admin_queried sampleSettings [] 120000 (.ok ()) none ()
    (.ok () : Except DbError Unit)).mpr ⟨⟨rfl, rfl⟩, rfl⟩
  have limit := timeouts.admin () _ statement queried
  revert limit
  decide

end Timeouts

end PlanBuddy.StatementTimeouts
