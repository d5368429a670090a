import PlanBuddy.Runs
import PlanBuddy.Table

/-!
# Webhook leases

`acquire_webhook_lease` of migration 120, over the table of migration 130. Before PL/pgSQL
runs a statement it resolves each unqualified name in its expressions, against the variables
of the function and the columns of the table. The columns that a function returns are
variables of it, so that `lease_version` names two things here.

A call is a transaction of its own. NOW() is when it began; its UPDATE locks the row and takes
effect at one moment not before. A holder writes under the version of its lease, as the
migration asks. The trigger on the table sets `updated_at`, which the UPDATE sets as well.
-/

namespace PlanBuddy.WebhookLeases

section Names

/-- The message of a raised exception. -/
abbrev Raised := String

/-- `plpgsql.variable_conflict`. -/
inductive VariableConflict where
  | error
  | useVariable
  | useColumn

inductive Reference where
  | toVariable
  | toColumn

/-- The parameters, the returned columns and the declared variable. -/
def variableNames : List String :=
  ["p_event_id", "p_lease_duration", "acquired", "lease_version", "v_version"]

def columnNames : List String :=
  ["id", "event_id", "provider", "provider_event_id", "type", "event_type", "payload", "status",
    "correlation_id", "request_id", "error_message", "attempt_count", "lease_version",
    "lease_expires_at", "last_attempt_at", "processed_at", "razorpay_event_id", "created_at",
    "updated_at"]

def ambiguous (name : String) : Raised := "column reference \"" ++ name ++ "\" is ambiguous"

def missing (name : String) : Raised := "column \"" ++ name ++ "\" does not exist"

def resolve (conflict : VariableConflict) (name : String) : Except Raised Reference :=
  match variableNames.contains name, columnNames.contains name, conflict with
  | true, true, .error => .error (ambiguous name)
  | true, true, .useVariable => .ok .toVariable
  | true, true, .useColumn => .ok .toColumn
  | true, false, _ => .ok .toVariable
  | false, true, _ => .ok .toColumn
  | false, false, _ => .error (missing name)

/-- The unqualified names of the UPDATE in the order in which they are resolved. What SET
assigns to is a column by its position. -/
def updateNames : List String :=
  ["lease_version", "p_lease_duration", "event_id", "p_event_id", "status", "status",
    "lease_expires_at", "lease_version"]

/-- What a name refers to, given both of its values. -/
def Reference.read {α : Type} (value stored : α) : Reference → α
  | .toVariable => value
  | .toColumn => stored

end Names

section Procedure

abbrev Timestamp := Int

/-- An interval, by what it makes of a timestamp. -/
abbrev Interval := Timestamp → Timestamp

/-- The five values that the CHECK constraint admits. -/
inductive Status where
  | received
  | processing
  | processed
  | failed
  | deadLetter
deriving DecidableEq

structure EventRow where
  eventId : String
  status : Status
  leaseVersion : Option Int
  leaseExpiresAt : Option Timestamp
  lastAttemptAt : Option Timestamp
  updatedAt : Timestamp

abbrev Events := Table EventRow.eventId

structure Acquisition where
  acquired : Bool
  leaseVersion : Option Int

/-- The states in which the WHERE clause finds an event. -/
def EventRow.Claimable (now : Timestamp) (row : EventRow) : Prop :=
  (row.status = .received ∨ row.status = .failed) ∨
    row.status = .processing ∧ ∃ expiry ∈ row.leaseExpiresAt, expiry < now

instance (now : Timestamp) (row : EventRow) : Decidable (row.Claimable now) :=
  inferInstanceAs (Decidable (_ ∨ _))

def matching (eventId : Option String) (now : Timestamp) (row : EventRow) : Bool :=
  decide (some row.eventId = eventId ∧ row.Claimable now)

/-- The SET list. The variable `lease_version` is NULL, as nothing assigns to it. -/
def claim (leaseVersion : Reference) (duration : Option Interval) (now : Timestamp)
    (row : EventRow) : EventRow :=
  { row with
    status := .processing
    leaseVersion := some ((leaseVersion.read none row.leaseVersion).getD 0 + 1)
    leaseExpiresAt := duration.map (· now)
    lastAttemptAt := some now
    updatedAt := now }

/-- The greatest INTEGER. -/
def maxInteger : Int := 2147483647

def outOfRange (row : EventRow) : Bool := row.leaseVersion.any (maxInteger < ·)

def acquireWebhookLease (conflict : VariableConflict) (eventId : Option String)
    (duration : Option Interval) (now : Timestamp) (events : Events) :
    Except Raised (Acquisition × Events) := do
  let _ ← updateNames.mapM (resolve conflict)
  let leaseVersion ← resolve conflict "lease_version"
  let returned := events.returning (matching eventId now) (claim leaseVersion duration now)
  if returned.any outOfRange then
    .error "integer out of range"
  else
    let acquisition : Acquisition := match returned with
      | row :: _ => ⟨true, leaseVersion.read none row.leaseVersion⟩
      | [] => ⟨false, none⟩
    .ok (acquisition, events.update (matching eventId now) (claim leaseVersion duration now))

/-- Under the default setting the name of the version stops every call. -/
theorem acquire_ambiguous (eventId : Option String) (duration : Option Interval)
    (now : Timestamp) (events : Events) :
    acquireWebhookLease .error eventId duration now events =
      .error (ambiguous "lease_version") := rfl

/-- The names of the UPDATE can be told apart if columns come first. -/
theorem names_columns : ∃ references, updateNames.mapM (resolve .useColumn) = .ok references :=
  ⟨_, rfl⟩

/-- No version in the table is the greatest INTEGER. -/
def InRange (events : Events) : Prop :=
  ∀ row ∈ events.rows, ∀ version ∈ row.leaseVersion, version < maxInteger

/-- A name that is read as the column leaves an UPDATE of the claimable event. -/
theorem acquire_column {eventId : Option String} {duration : Option Interval} {now : Timestamp}
    {events : Events} (inRange : InRange events) :
    acquireWebhookLease .useColumn eventId duration now events =
      .ok (match events.returning (matching eventId now) (claim .toColumn duration now) with
        | row :: _ => ⟨true, row.leaseVersion⟩
        | [] => ⟨false, none⟩,
        events.update (matching eventId now) (claim .toColumn duration now)) := by
  obtain ⟨references, names⟩ := names_columns
  have version : resolve .useColumn "lease_version" = .ok .toColumn := rfl
  have fits : (events.returning (matching eventId now) (claim .toColumn duration now)).any
      outOfRange = false := by
    rw [List.any_eq_false]
    intro claimed member
    obtain ⟨row, selected, rfl⟩ := List.mem_map.mp member
    have bound := inRange row (Table.mem_select.mp selected).1
    cases stored : row.leaseVersion with
    | none => simp [outOfRange, claim, Reference.read, stored, maxInteger]
    | some version =>
      have below := bound version stored
      simp only [outOfRange, claim, Reference.read, stored, Option.getD_some, Option.any_some,
        decide_eq_true_eq]
      omega
  simp only [acquireWebhookLease, names, version, bind, Except.bind, fits]
  rfl

end Procedure

section Runs

structure Call where
  eventId : Option String
  duration : Option Interval
  now : Timestamp

def Call.run (conflict : VariableConflict) (call : Call) (events : Events) :
    Except Raised (Acquisition × Events) :=
  acquireWebhookLease conflict call.eventId call.duration call.now events

/-- What a worker makes of an event. -/
inductive Outcome where
  | processed
  | failed
  | deadLetter

def Outcome.status : Outcome → Status
  | .processed => .processed
  | .failed => .failed
  | .deadLetter => .deadLetter

/-- A status write by the holder of a lease. -/
structure Write where
  eventId : String
  leaseVersion : Int
  outcome : Outcome

def Write.run (write : Write) (events : Events) : Events :=
  events.update
    (fun row => decide (row.eventId = write.eventId ∧ row.status = .processing ∧
      row.leaseVersion = some write.leaseVersion))
    (fun row => { row with status := write.outcome.status })

inductive Deed where
  | called (call : Call) (answer : Except Raised Acquisition)
  | written (write : Write)

/-- A transaction that took effect, with the table before and after it. -/
structure Entry where
  time : Timestamp
  before : Events
  deed : Deed
  after : Events

structure World where
  clock : Timestamp
  events : Events

inductive Step (conflict : VariableConflict) : World → List Entry → World → Prop
  | acquired {world : World} {call : Call} {time : Timestamp} {acquisition : Acquisition}
      {events : Events} (later : world.clock ≤ time) (begun : call.now ≤ time)
      (returns : call.run conflict world.events = .ok (acquisition, events)) :
      Step conflict world [⟨time, world.events, .called call (.ok acquisition), events⟩]
        ⟨time, events⟩
  /-- The transaction of a call that raises is rolled back. -/
  | raised {world : World} {call : Call} {time : Timestamp} {error : Raised}
      (later : world.clock ≤ time) (begun : call.now ≤ time)
      (raises : call.run conflict world.events = .error error) :
      Step conflict world [⟨time, world.events, .called call (.error error), world.events⟩]
        ⟨time, world.events⟩
  | written {world : World} {time : Timestamp} (write : Write) (later : world.clock ≤ time) :
      Step conflict world [⟨time, world.events, .written write, write.run world.events⟩]
        ⟨time, write.run world.events⟩

structure Lease where
  eventId : String
  leaseVersion : Int
  expiresAt : Option Timestamp

/-- The lease that a transaction grants. -/
def Entry.lease (entry : Entry) : Option Lease :=
  match entry.deed with
  | .called call (.ok ⟨true, some version⟩) =>
    call.eventId.map fun eventId => ⟨eventId, version, call.duration.map (· call.now)⟩
  | _ => none

/-- The holder of the lease writes the status of the event. -/
def Entry.Ends (entry : Entry) (lease : Lease) : Prop :=
  ∃ write, entry.deed = .written write ∧ write.eventId = lease.eventId ∧
    write.leaseVersion = lease.leaseVersion

/-- A lease has run out, or its holder has written the status of the event. -/
def Lease.Over (lease : Lease) (history : List Entry) (time : Timestamp) : Prop :=
  (∃ entry ∈ history, entry.Ends lease) ∨ ∃ expiry ∈ lease.expiresAt, expiry < time

def Acquirable (call : Call) (events : Events) : Prop :=
  ∃ row ∈ events.rows, call.eventId = some row.eventId ∧ row.Claimable call.now

def Terminal (events : Events) (eventId : String) : Prop :=
  ∃ row ∈ events.rows, row.eventId = eventId ∧
    (row.status = .processed ∨ row.status = .deadLetter)

structure LeasesCorrect (history : List Entry) : Prop where
  /-- No call raises. -/
  returns : ∀ entry ∈ history, ∀ call answer, entry.deed = .called call answer →
    ∃ acquisition, answer = .ok acquisition
  /-- A call on an event that it may claim returns a version above every earlier one. -/
  acquires : ∀ earlier entry later call answer, history = earlier ++ entry :: later →
    entry.deed = .called call answer → Acquirable call entry.before →
      ∃ version, answer = .ok ⟨true, some version⟩ ∧
        ∀ lease ∈ earlier.filterMap Entry.lease, call.eventId = some lease.eventId →
          lease.leaseVersion < version
  /-- Any other call changes nothing. -/
  refuses : ∀ entry ∈ history, ∀ call answer, entry.deed = .called call answer →
    ¬ Acquirable call entry.before → answer = .ok ⟨false, none⟩ ∧ entry.after = entry.before
  /-- A lease is granted only after every earlier one of the event is over. -/
  disjoint : ∀ earlier entry later lease next, history = earlier ++ entry :: later →
    lease ∈ earlier.filterMap Entry.lease → entry.lease = some next →
      next.eventId = lease.eventId → lease.Over earlier entry.time
  /-- An event that was processed or given up is not acquired again. -/
  terminal : ∀ earlier entry later lease, history = earlier ++ entry :: later →
    entry.lease = some lease → ∀ old ∈ earlier ++ [entry], ¬ Terminal old.before lease.eventId

/-- Without a call there is nothing to promise. -/
theorem uncalled_correct {history : List Entry}
    (uncalled : ∀ entry ∈ history, ∀ call answer, entry.deed ≠ .called call answer) :
    LeasesCorrect history := by
  have grantless : ∀ entry ∈ history, entry.lease = none := by
    intro entry member
    unfold Entry.lease
    split
    · next call version deed => exact absurd deed (uncalled entry member call _)
    · rfl
  have inside : ∀ {earlier : List Entry} {entry : Entry} {later : List Entry},
      history = earlier ++ entry :: later → entry ∈ history := by
    intro earlier entry later split
    rw [split]
    exact List.mem_append_right _ (List.mem_cons_self ..)
  constructor
  · intro entry member call answer deed
    exact absurd deed (uncalled entry member call answer)
  · intro earlier entry later call answer split deed
    exact absurd deed (uncalled entry (inside split) call answer)
  · intro entry member call answer deed
    exact absurd deed (uncalled entry member call answer)
  · intro earlier entry later lease next split _ grant
    rw [grantless entry (inside split)] at grant
    cases grant
  · intro earlier entry later lease split grant
    rw [grantless entry (inside split)] at grant
    cases grant

/-- By default every call raises the error. -/
theorem run_raises {start final : World} {history : List Entry}
    (run : Run (Step .error) start history final) :
    ∀ entry ∈ history, ∀ call answer, entry.deed = .called call answer →
      answer = .error (ambiguous "lease_version") := by
  refine run.invariant (fun history _ => ∀ entry ∈ history, ∀ call answer,
    entry.deed = .called call answer → answer = .error (ambiguous "lease_version")) ?_ ?_
  · intro entry member
    cases member
  · intro history observed state next _ raised step entry member call answer deed
    rcases List.mem_append.mp member with old | new
    · exact raised entry old call answer deed
    · cases step with
      | acquired later begun returns =>
        rw [Call.run, acquire_ambiguous] at returns
        cases returns
      | raised later begun raises =>
        rw [Call.run, acquire_ambiguous] at raises
        obtain rfl := List.mem_singleton.mp new
        cases deed
        cases raises
        rfl
      | written write later =>
        obtain rfl := List.mem_singleton.mp new
        cases deed

/-- The leases of a run are what they should be exactly if the procedure is never called. -/
theorem leases_correct_iff {start final : World} {history : List Entry}
    (run : Run (Step .error) start history final) :
    LeasesCorrect history ↔ ∀ entry ∈ history, ∀ call answer, entry.deed ≠ .called call answer := by
  constructor
  · intro correct entry member call answer deed
    obtain ⟨acquisition, returns⟩ := correct.returns entry member call answer deed
    rw [run_raises run entry member call answer deed] at returns
    cases returns
  · exact uncalled_correct

/-- A single event that was received. -/
def sampleEvents : Events :=
  ⟨[⟨"evt_1", .received, none, none, none, 0⟩], List.nodup_singleton _⟩

/-- A call on it that may last five minutes. -/
def sampleCall : Call := ⟨some "evt_1", some (· + 300000000), 0⟩

def sampleEntry : Entry :=
  ⟨0, sampleEvents, .called sampleCall (.error (ambiguous "lease_version")), sampleEvents⟩

/-- The run of the sample. -/
theorem sample_run : Run (Step .error) ⟨0, sampleEvents⟩ ([] ++ [sampleEntry]) ⟨0, sampleEvents⟩ :=
  Run.start.step (.raised (Int.le_refl 0) (Int.le_refl 0) rfl)

/-- It gives no lease. -/
theorem sample_leases : ¬ LeasesCorrect [sampleEntry] := by
  intro correct
  exact (leases_correct_iff sample_run).mp correct sampleEntry (List.mem_singleton_self _) _ _ rfl

/-- The first call on the first event raises. -/
theorem received_raises : ¬ ∀ (start final : World) (history : List Entry),
    Run (Step .error) start history final → LeasesCorrect history := by
  intro correct
  obtain ⟨acquisition, returns⟩ := (correct _ _ _ sample_run).returns sampleEntry
    (List.mem_singleton_self _) _ _ rfl
  cases returns

end Runs

section Columns

variable {history : List Entry} {world : World}

/-- What holds of a history and of its last transaction holds of both. -/
theorem correct_append {entry : Entry} (correct : LeasesCorrect history)
    (returns : ∀ call answer, entry.deed = .called call answer →
      ∃ acquisition, answer = .ok acquisition)
    (acquires : ∀ call answer, entry.deed = .called call answer → Acquirable call entry.before →
      ∃ version, answer = .ok ⟨true, some version⟩ ∧
        ∀ lease ∈ history.filterMap Entry.lease, call.eventId = some lease.eventId →
          lease.leaseVersion < version)
    (refuses : ∀ call answer, entry.deed = .called call answer →
      ¬ Acquirable call entry.before → answer = .ok ⟨false, none⟩ ∧ entry.after = entry.before)
    (disjoint : ∀ lease next, lease ∈ history.filterMap Entry.lease → entry.lease = some next →
      next.eventId = lease.eventId → lease.Over history entry.time)
    (terminal : ∀ lease, entry.lease = some lease →
      ∀ old ∈ history ++ [entry], ¬ Terminal old.before lease.eventId) :
    LeasesCorrect (history ++ [entry]) := by
  constructor
  · exact forall_mem_snoc correct.returns returns
  · intro earlier other later call answer split
    obtain ⟨-, rfl, rfl⟩ | ⟨between, -, rfl⟩ := snoc_split split
    · exact acquires call answer
    · exact correct.acquires earlier other between call answer rfl
  · exact forall_mem_snoc correct.refuses refuses
  · intro earlier other later lease next split
    obtain ⟨-, rfl, rfl⟩ | ⟨between, -, rfl⟩ := snoc_split split
    · exact disjoint lease next
    · exact correct.disjoint earlier other between lease next rfl
  · intro earlier other later lease split
    obtain ⟨-, rfl, rfl⟩ | ⟨between, -, rfl⟩ := snoc_split split
    · exact terminal lease
    · exact correct.terminal earlier other between lease rfl

/-- The event is processed under the lease. -/
def Lease.Current (lease : Lease) (row : EventRow) : Prop :=
  row.status = .processing ∧ row.leaseVersion = some lease.leaseVersion ∧
    row.leaseExpiresAt = lease.expiresAt

/-- What the table knows of a lease: its version is not above that of the event, and the
lease is over or the current one. -/
def Lease.Known (lease : Lease) (history : List Entry) (time : Timestamp) (row : EventRow) : Prop :=
  row.eventId = lease.eventId ∧ (∃ version ∈ row.leaseVersion, lease.leaseVersion ≤ version) ∧
    (lease.Over history time ∨ lease.Current row)

structure Recorded (history : List Entry) (world : World) : Prop where
  correct : LeasesCorrect history
  terminal : ∀ entry ∈ history, ∀ eventId, Terminal entry.before eventId →
    Terminal world.events eventId
  known : ∀ lease ∈ history.filterMap Entry.lease, ∃ row ∈ world.events.rows,
    lease.Known history world.clock row

/-- A lease that is over stays over. -/
theorem over_later {lease : Lease} {entry : Entry} {time : Timestamp}
    (lapsed : lease.Over history time) (later : time ≤ entry.time) :
    lease.Over (history ++ [entry]) entry.time := by
  rcases lapsed with ⟨write, member, ends⟩ | ⟨expiry, expires, past⟩
  · exact .inl ⟨write, List.mem_append_left _ member, ends⟩
  · exact .inr ⟨expiry, expires, Int.lt_of_lt_of_le past later⟩

/-- An UPDATE that spares terminal events keeps them terminal. -/
theorem terminal_update {events next : Events} {matching : EventRow → Bool}
    {assign : EventRow → EventRow}
    (updated : next.rows = events.rows.map fun row => if matching row then assign row else row)
    (spares : ∀ row, row.status = .processed ∨ row.status = .deadLetter → matching row = false)
    {eventId : String} (terminal : Terminal events eventId) : Terminal next eventId := by
  obtain ⟨row, stored, named, status⟩ := terminal
  refine ⟨row, ?_, named, status⟩
  rw [updated, List.mem_map]
  exact ⟨row, stored, by simp [spares row status]⟩

/-- What was terminal at some time is so still, if the last transaction keeps it. -/
theorem terminal_append {entry : Entry} {next : Events} (recorded : Recorded history world)
    (here : entry.before = world.events)
    (keeps : ∀ eventId, Terminal world.events eventId → Terminal next eventId) :
    ∀ old ∈ history ++ [entry], ∀ eventId, Terminal old.before eventId →
      Terminal next eventId := by
  refine forall_mem_snoc ?_ ?_
  · intro old member eventId terminal
    exact keeps eventId (recorded.terminal old member eventId terminal)
  · rw [here]
    exact keeps

/-- What can be claimed is neither processed nor dead. -/
theorem claimable_open {now : Timestamp} {row : EventRow} (claimable : row.Claimable now) :
    ¬ (row.status = .processed ∨ row.status = .deadLetter) := by
  rcases claimable with (received | failed) | ⟨processing, -⟩
  · simp [received]
  · simp [failed]
  · simp [processing]

/-- The row of an event is the only one under its name. -/
theorem row_unique {events : Events} {row other : EventRow} (stored : row ∈ events.rows)
    (also : other ∈ events.rows) (same : other.eventId = row.eventId) : other = row :=
  List.inj_on_of_nodup_map events.unique also stored same

/-- An acquirable event is claimed alone. -/
theorem claims_one {call : Call} {events : Events} {row : EventRow} (stored : row ∈ events.rows)
    (named : call.eventId = some row.eventId) (claimable : row.Claimable call.now) :
    events.returning (matching call.eventId call.now) (claim .toColumn call.duration call.now) =
      [claim .toColumn call.duration call.now row] := by
  have hit : matching call.eventId call.now row = true := by
    simp [matching, named, claimable]
  have only : ∀ other ∈ events.rows, matching call.eventId call.now other = true →
      other = row := by
    intro other also matched
    simp only [matching, named, Option.some.injEq, decide_eq_true_eq] at matched
    exact row_unique stored also matched.1
  rw [Table.returning, Table.select_single stored hit only]
  rfl

/-- A call that may not acquire matches no row. -/
theorem claims_none {call : Call} {events : Events} (refused : ¬ Acquirable call events) :
    ∀ row ∈ events.rows, matching call.eventId call.now row = false := by
  intro row stored
  simp only [matching, decide_eq_false_iff_not]
  rintro ⟨named, claimable⟩
  exact refused ⟨row, stored, named.symm, claimable⟩

/-- A write or a refused call leaves what is known of a lease. -/
theorem known_kept {lease : Lease} {entry : Entry} {row : EventRow}
    (known : lease.Known history world.clock row) (later : world.clock ≤ entry.time) :
    lease.Known (history ++ [entry]) entry.time row := by
  obtain ⟨named, bound, state⟩ := known
  exact ⟨named, bound, state.imp_left fun lapsed => over_later lapsed later⟩

/-- The write of a holder ends its own lease and no other. -/
theorem write_recorded {time : Timestamp} {write : Write} (recorded : Recorded history world)
    (later : world.clock ≤ time) :
    Recorded (history ++ [⟨time, world.events, .written write, write.run world.events⟩])
      ⟨time, write.run world.events⟩ := by
  have spares : ∀ row : EventRow, row.status = .processed ∨ row.status = .deadLetter →
      decide (row.eventId = write.eventId ∧ row.status = .processing ∧
        row.leaseVersion = some write.leaseVersion) = false := by
    intro row terminal
    rcases terminal with processed | dead
    · simp [processed]
    · simp [dead]
  constructor
  · refine correct_append recorded.correct ?_ ?_ ?_ ?_ ?_
    · intro call answer deed
      cases deed
    · intro call answer deed
      cases deed
    · intro call answer deed
      cases deed
    · intro lease next _ grant
      cases grant
    · intro lease grant
      cases grant
  · exact terminal_append recorded rfl fun _ => terminal_update rfl spares
  · intro lease member
    have granted : lease ∈ history.filterMap Entry.lease := by
      simpa [List.filterMap_append, Entry.lease] using member
    obtain ⟨row, stored, known⟩ := recorded.known lease granted
    have kept : lease.Known
        (history ++ [⟨time, world.events, .written write, write.run world.events⟩]) time row :=
      known_kept known later
    refine ⟨_, List.mem_map.mpr ⟨row, stored, rfl⟩, ?_⟩
    split
    · next matched =>
      obtain ⟨event, processing, version⟩ := of_decide_eq_true matched
      obtain ⟨named, bound, lapsed | ⟨-, current, -⟩⟩ := kept
      · exact ⟨named, bound, .inl lapsed⟩
      · refine ⟨named, bound, .inl (.inl ⟨_, List.mem_append_right _ (List.mem_singleton_self _),
          write, rfl, event.symm.trans named, ?_⟩)⟩
        exact Option.some.inj (version.symm.trans current)
    · exact kept

/-- A call that finds nothing to claim records nothing. -/
theorem refusal_recorded {time : Timestamp} {call : Call} (recorded : Recorded history world)
    (later : world.clock ≤ time) (refused : ¬ Acquirable call world.events) :
    Recorded (history ++ [⟨time, world.events, .called call (.ok ⟨false, none⟩), world.events⟩])
      ⟨time, world.events⟩ := by
  constructor
  · refine correct_append recorded.correct ?_ ?_ ?_ ?_ ?_
    · rintro _ _ ⟨⟩
      exact ⟨_, rfl⟩
    · rintro _ _ ⟨⟩ acquirable
      exact absurd acquirable refused
    · rintro _ _ ⟨⟩ _
      exact ⟨rfl, rfl⟩
    · intro lease next _ grant
      cases grant
    · intro lease grant
      cases grant
  · exact terminal_append recorded rfl fun _ terminal => terminal
  · intro lease member
    have granted : lease ∈ history.filterMap Entry.lease := by
      simpa [List.filterMap_append, Entry.lease] using member
    obtain ⟨row, stored, known⟩ := recorded.known lease granted
    exact ⟨row, stored, known_kept known later⟩

/-- A claimed event gets a version above every earlier one, after every earlier lease. -/
theorem claim_recorded {time : Timestamp} {call : Call} {row : EventRow}
    (recorded : Recorded history world) (later : world.clock ≤ time) (begun : call.now ≤ time)
    (stored : row ∈ world.events.rows) (named : call.eventId = some row.eventId)
    (claimable : row.Claimable call.now) :
    Recorded (history ++ [⟨time, world.events,
        .called call (.ok ⟨true, (claim .toColumn call.duration call.now row).leaseVersion⟩),
        world.events.update (matching call.eventId call.now)
          (claim .toColumn call.duration call.now)⟩])
      ⟨time, world.events.update (matching call.eventId call.now)
        (claim .toColumn call.duration call.now)⟩ := by
  have hit : matching call.eventId call.now row = true := by
    simp [matching, named, claimable]
  have spares : ∀ row : EventRow, row.status = .processed ∨ row.status = .deadLetter →
      matching call.eventId call.now row = false := by
    intro row terminal
    simp only [matching, decide_eq_false_iff_not]
    exact fun matched => claimable_open matched.2 terminal
  -- What is known of an earlier lease of this event is known of this row.
  have earlier : ∀ lease ∈ history.filterMap Entry.lease, row.eventId = lease.eventId →
      lease.Known history world.clock row := by
    intro lease member same
    obtain ⟨other, also, known⟩ := recorded.known lease member
    exact row_unique stored also (known.1.trans same.symm) ▸ known
  have below : ∀ lease ∈ history.filterMap Entry.lease, row.eventId = lease.eventId →
      lease.leaseVersion < row.leaseVersion.getD 0 + 1 := by
    intro lease member same
    obtain ⟨-, ⟨version, current, bound⟩, -⟩ := earlier lease member same
    rw [Option.mem_def.mp current, Option.getD_some]
    omega
  have lapsed : ∀ lease ∈ history.filterMap Entry.lease, row.eventId = lease.eventId →
      lease.Over history time := by
    intro lease member same
    obtain ⟨-, -, lapsed | ⟨processing, -, expires⟩⟩ := earlier lease member same
    · exact lapsed.imp_right fun ⟨expiry, expires, past⟩ =>
        ⟨expiry, expires, Int.lt_of_lt_of_le past later⟩
    · obtain (received | failed) | ⟨-, expiry, stale, past⟩ := claimable
      · cases received.symm.trans processing
      · cases failed.symm.trans processing
      · exact .inr ⟨expiry, expires ▸ stale, Int.lt_of_lt_of_le past begun⟩
  constructor
  · refine correct_append recorded.correct ?_ ?_ ?_ ?_ ?_
    · rintro _ _ ⟨⟩
      exact ⟨_, rfl⟩
    · rintro _ _ ⟨⟩ -
      refine ⟨_, rfl, ?_⟩
      intro lease member same
      exact below lease member (Option.some.inj (named.symm.trans same))
    · rintro _ _ ⟨⟩ refused
      exact absurd ⟨row, stored, named, claimable⟩ refused
    · intro lease next member grant same
      simp only [Entry.lease, claim, named, Option.map_some, Option.some.injEq] at grant
      subst grant
      exact lapsed lease member same
    · intro lease grant old member terminal
      simp only [Entry.lease, claim, named, Option.map_some, Option.some.injEq] at grant
      subst grant
      obtain ⟨other, also, same, status⟩ : Terminal world.events row.eventId :=
        terminal_append recorded rfl (fun _ kept => kept) old member _ terminal
      exact claimable_open claimable (row_unique stored also same ▸ status)
  · exact terminal_append recorded rfl fun _ => terminal_update rfl spares
  · intro lease member
    rw [List.filterMap_append, List.mem_append] at member
    rcases member with granted | new
    · by_cases same : row.eventId = lease.eventId
      · refine ⟨_, List.mem_map.mpr ⟨row, stored, if_pos hit⟩, same, ⟨_, rfl, ?_⟩, .inl ?_⟩
        · exact Int.le_of_lt (below lease granted same)
        · exact over_later (lapsed lease granted same) (Int.le_refl time)
      · obtain ⟨other, also, known⟩ := recorded.known lease granted
        have missed : matching call.eventId call.now other = false := by
          simp only [matching, named, Option.some.injEq, decide_eq_false_iff_not]
          exact fun matched => same (matched.1.symm.trans known.1)
        refine ⟨other, List.mem_map.mpr ⟨other, also, ?_⟩, known_kept known later⟩
        simp [missed]
    · simp only [Entry.lease, claim, named, Option.map_some, List.filterMap_cons,
        List.filterMap_nil, List.mem_singleton] at new
      subst new
      exact ⟨_, List.mem_map.mpr ⟨row, stored, if_pos hit⟩, rfl, ⟨_, rfl, Int.le_refl _⟩,
        .inr ⟨rfl, rfl, rfl⟩⟩

/-- With columns first every lease is recorded. -/
theorem step_recorded {observed : List Entry} {next : World} (recorded : Recorded history world)
    (step : Step .useColumn world observed next)
    (inRange : ∀ entry ∈ observed, InRange entry.before) :
    Recorded (history ++ observed) next := by
  cases step with
  | @acquired call time acquisition events later begun returns =>
    have room : InRange world.events := inRange _ (List.mem_singleton_self _)
    unfold Call.run at returns
    rw [acquire_column room] at returns
    by_cases acquirable : Acquirable call world.events
    · obtain ⟨row, stored, named, claimable⟩ := acquirable
      rw [claims_one stored named claimable] at returns
      cases returns
      exact claim_recorded recorded later begun stored named claimable
    · have unmatched := claims_none acquirable
      rw [Table.returning, Table.select_none unmatched] at returns
      obtain ⟨rfl, updated⟩ := Prod.mk.inj (Except.ok.inj returns)
      obtain rfl : world.events = events :=
        (Table.update_unmatched _ _ _ _ unmatched).symm.trans updated
      exact refusal_recorded recorded later acquirable
  | raised later begun raises =>
    have room : InRange world.events := inRange _ (List.mem_singleton_self _)
    unfold Call.run at raises
    rw [acquire_column room] at raises
    cases raises
  | written write later => exact write_recorded recorded later

/-- With the names read as columns the leases are what they should be, as long as the
version of no event has reached the greatest INTEGER. -/
theorem column_leases {start final : World} (run : Run (Step .useColumn) start history final)
    (inRange : ∀ entry ∈ history, InRange entry.before) : LeasesCorrect history := by
  have recorded := run.invariant
    (fun history world => (∀ entry ∈ history, InRange entry.before) → Recorded history world)
    (fun _ => ⟨uncalled_correct (by simp), by simp, by simp⟩) ?_
  · exact (recorded inRange).correct
  · intro history observed state next _ recorded step inRange
    have before := recorded fun entry member => inRange entry (List.mem_append_left _ member)
    exact step_recorded before step
      fun entry member => inRange entry (List.mem_append_right _ member)

end Columns

end PlanBuddy.WebhookLeases
