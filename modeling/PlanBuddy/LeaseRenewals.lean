import Mathlib.Tactic.Linarith
import Mathlib.Tactic.Positivity
import PlanBuddy.JobRuns

/-!
# Renewing the lease of a running job

`_executeItem` of `base-worker.js` sets an interval timer for as long as it processes an item;
each tick of it sends an `extendLease`. A state is the job engine together with the database
time, the timer of one such call and the renewals that have been sent and have not reached the
database. Every other worker may take any step of the engine at any time.

What the timer and the network promise is a parameter. The timer is set by a known instant, a
tick is at most `lag` late, and a renewal reaches the database at most `latency` after its tick;
time does not pass beyond what is due. An `extendLease` that rejects is an unhandled rejection,
which ends the process, so a renewal is lost only together with the call it belongs to.
-/

namespace PlanBuddy.LeaseRenewals

open JobEngine

/-- `HEARTBEAT_INTERVAL_MS`. -/
def heartbeatIntervalMs : QueueKey → Option Nat
  | .webhookEvents => some 10000
  | .emailDispatch => some 20000
  | .refundRetry => some 40000
  | .bookingExpiry => some 18000
  | .paymentReconciliation => some 90000
  | .outboxRelay => some 10000

/-- `this.heartbeatMs`. -/
def heartbeatMs (queueKey : QueueKey) : Nat := (heartbeatIntervalMs queueKey).getD 15000

/-- `LEASE_TIMEOUT_MS[this.queueKey] ?? 30_000`. -/
def leaseMs (config : QueueConfig) (queueKey : QueueKey) : Nat :=
  (config.leaseTimeoutMs queueKey).getD 30000

/-- When the timer is set at the latest, and how late a tick and a renewal can be. -/
structure Delays where
  armedBy : Time
  lag : Nat
  latency : Nat

inductive Timer where
  | unset
  | running (lastTick : Time)
  | cleared
deriving DecidableEq

/-- One call of `_executeItem`. The renewals on their way are kept as the instants of their
ticks. -/
structure Holder where
  server : Server
  now : Time
  timer : Timer
  sent : List Time
  alive : Bool

inductive Action where
  | elapse (later : Time)
  | setTimer
  | tick
  | renew (position : Nat)
  | crash
  | other (action : JobEngine.Action)

deriving instance DecidableEq for LeaseCall

/-- The call a statement carries, if it is one of a lease holder. -/
def carried : JobEngine.Action → Option LeaseCall
  | .extendLease call _ _ => some call
  | .commitSuccess call _ _ => some call
  | .commitFailureSelect call _ => some call
  | _ => none

/-- `NOW()` of a statement that reads it. -/
def databaseTime : JobEngine.Action → Option Time
  | .atomicClaim _ _ _ now _ _ => some now
  | .extendLease _ _ now => some now
  | .commitSuccess _ _ now => some now
  | .commitFailureUpdate _ _ now _ => some now
  | .reclaimExpiredLeasesPending now => some now
  | .reclaimExpiredLeasesDeadLetter now => some now
  | _ => none

/-- Until when nothing is overdue. -/
def Holder.inTime (delays : Delays) (interval : Nat) (holder : Holder) (later : Time) : Bool :=
  (match holder.timer with
    | .unset => decide (later ≤ delays.armedBy)
    | .running lastTick => decide (later ≤ lastTick + interval + delays.lag)
    | .cleared => true) &&
  holder.sent.all fun tick => decide (later ≤ tick + delays.latency)

/-- One step of the clock, of the call or of another worker. A tick comes no earlier than one
interval after the one before; a renewal that extends no row clears the timer. -/
def move (config : QueueConfig) (queueKey : QueueKey) (delays : Delays) (call : LeaseCall)
    (holder : Holder) : Action → Option (Holder × List Event)
  | .elapse later =>
    if holder.now ≤ later ∧
        (holder.alive = true → holder.inTime delays (heartbeatMs queueKey) later = true) then
      some ({ holder with now := later }, [])
    else none
  | .setTimer =>
    if holder.alive = true ∧ holder.timer = .unset then
      some ({ holder with timer := .running holder.now }, [])
    else none
  | .tick =>
    match holder.timer with
    | .running lastTick =>
      if holder.alive = true ∧ lastTick + heartbeatMs queueKey ≤ holder.now then
        some ({ holder with timer := .running holder.now, sent := holder.sent ++ [holder.now] },
          [])
      else none
    | _ => none
  | .renew position =>
    (holder.sent[position]?).bind fun _ =>
      let extendMs : Int := (leaseMs config queueKey : Nat)
      let ok := (extendLease call extendMs holder.now holder.server.jobs).2
      (step config queueKey holder.server (.extendLease call extendMs holder.now)).map
        fun (server, observed) =>
          ({ holder with
              server
              timer := if ok then holder.timer else .cleared
              sent := holder.sent.eraseIdx position }, observed)
  | .crash => some ({ holder with alive := false }, [])
  | .other action =>
    if carried action ≠ some call ∧ (databaseTime action).all (fun now => now = holder.now) then
      (step config queueKey holder.server action).map fun (server, observed) =>
        ({ holder with server }, observed)
    else none

abbrev moves (config : QueueConfig) (queueKey : QueueKey) (delays : Delays) (call : LeaseCall) :
    Holder → List Event → Holder → Prop :=
  takes (move config queueKey delays call) anyAction

/-- The longest time from one renewal that reaches the database to the next. -/
def gap (queueKey : QueueKey) (delays : Delays) : Nat :=
  heartbeatMs queueKey + delays.lag + delays.latency

/-- The row is held by the call and its lease has not expired. -/
def Kept (call : LeaseCall) (holder : Holder) : Prop :=
  ∃ row, holder.server.jobs.lookup call.id = some row ∧ call.holds row = true ∧
    row.expired holder.now = false

section Foreign

variable {config : QueueConfig} {queueKey : QueueKey} {call : LeaseCall} {row : JobRow}

/-- A statement whose WHERE clause misses the row leaves it and its history alone. -/
theorem missed (jobs : Jobs) (matching : JobRow → Bool) (assign : JobRow → JobRow)
    (keeps : ∀ row, (assign row).id = row.id) (event : JobRow → Event)
    (named : ∀ row, matching row = true → (event row).job = row.id)
    (found : jobs.lookup call.id = some row) (misses : matching row = false) :
    (jobs.update matching assign keeps).lookup call.id = some row ∧
      jobHistory call.id ((jobs.select matching).map event) = [] := by
  constructor
  · rw [Table.lookup_update, found]
    simp [misses]
  · have events : jobHistory call.id ((jobs.select matching).map event) =
        ((jobs.lookup call.id).filter matching).toList.map event :=
      Table.statement_events jobs matching event Event.job named call.id
    rw [events, found]
    simp [Option.filter, misses]

/-- Another call does not hold a row that this one holds. -/
theorem other_misses {other : LeaseCall} (held : call.holds row = true) (different : other ≠ call) :
    other.holds row = false := by
  rw [Bool.eq_false_iff]
  intro holds
  obtain ⟨sameId, holder, version, -⟩ := (holds_iff call row).mp held
  obtain ⟨otherId, otherHolder, otherVersion, -⟩ := (holds_iff other row).mp holds
  apply different
  obtain ⟨otherCallId, otherWorker, otherCallVersion⟩ := other
  obtain ⟨callId, worker, callVersion⟩ := call
  simp only [LeaseCall.mk.injEq]
  exact ⟨otherId.symm.trans sameId, Option.some.inj (otherHolder.symm.trans holder),
    otherVersion.symm.trans version⟩

/-- A job that is enqueued is not the one that is processed. -/
theorem enqueue_misses (jobs : Jobs) (job : NewJob) (found : jobs.lookup call.id = some row) :
    (jobs.insert job.row).1.lookup call.id = some row ∧
      jobHistory call.id (if (jobs.insert job.row).2 then [.enqueued job.id] else []) = [] := by
  cases inserted : (jobs.insert job.row).2 with
  | false =>
    refine ⟨?_, rfl⟩
    rw [Table.lookup_insert, found, Option.getD_some, ite_self]
  | true =>
    have absent : jobs.lookup job.id = none := Table.insert_inserted.mp inserted
    have different : job.id ≠ call.id := fun same => by
      rw [same, found] at absent
      cases absent
    refine ⟨?_, ?_⟩
    · rw [Table.lookup_insert, found, Option.getD_some, ite_self]
    · simp [jobHistory, Event.job, Option.guard, different]

/-- A lease that runs is reclaimed by neither UPDATE. -/
theorem fresh_misses {now : Time} (limit : Nat) (fresh : row.expired now = false) :
    recoverable limit now row = false ∧ exhausted limit now row = false := by
  simp [recoverable, exhausted, fresh]

/-- The call that holds a row extends its lease. -/
theorem holder_extends {jobs : Jobs} (stored : jobs.lookup call.id = some row)
    (held : call.holds row = true) (extendMs : Int) (now : Time) :
    (extendLease call extendMs now jobs).2 = true ∧
      (extendLease call extendMs now jobs).1.lookup call.id = some (row.extend extendMs now) := by
  constructor
  · have selected := Table.mem_select.mpr ⟨Table.lookup_mem stored, held⟩
    simp only [extendLease, decide_eq_true_eq]
    exact List.length_pos_of_mem selected
  · have updated := Table.lookup_update jobs call.holds (fun row => row.extend extendMs now)
      (fun _ => rfl) call.id
    rw [stored, Option.map_some, if_pos held] at updated
    exact updated

/-- A statement of anyone else, at an instant at which the lease runs, does not touch the row. -/
theorem foreign_misses {server next : Server} {observed : List Event} {instant : Time}
    {action : JobEngine.Action} (found : server.jobs.lookup call.id = some row)
    (held : call.holds row = true) (fresh : row.expired instant = false)
    (reads : ∀ write ∈ server.failures, write.call ≠ call) (foreign : carried action ≠ some call)
    (timed : (databaseTime action).all (fun now => now = instant) = true)
    (taken : step config queueKey server action = some (next, observed)) :
    next.jobs.lookup call.id = some row ∧ jobHistory call.id observed = [] := by
  obtain ⟨sameId, -, -, processing⟩ := (holds_iff call row).mp held
  cases action with
  | enqueue job =>
    simp only [step, Option.some.injEq, Prod.mk.injEq] at taken
    obtain ⟨rfl, rfl⟩ := taken
    exact enqueue_misses server.jobs job found
  | atomicClaim request drainRows clock now locked scan =>
    simp only [step, Option.some.injEq, Prod.mk.injEq] at taken
    obtain ⟨rfl, rfl⟩ := taken
    unfold atomicClaim
    by_cases draining : drainRows.head?.getD false = true
    · simpa [draining, jobHistory] using found
    · simp only [draining, Bool.false_eq_true, if_false, Table.returning, List.map_map]
      apply missed _ _ _ _ _ (fun _ _ => rfl) found
      rw [decide_eq_false_iff_not]
      intro chosen
      have pending := claimChoice_pending (Table.lookup_mem found) chosen
      rw [processing] at pending
      cases pending
  | extendLease other extendMs now =>
    have different : other ≠ call := fun same => foreign (by rw [same]; rfl)
    simp only [step, Option.some.injEq, Prod.mk.injEq] at taken
    obtain ⟨rfl, rfl⟩ := taken
    exact missed server.jobs other.holds (fun row => row.extend extendMs now) (fun _ => rfl)
      (fun _ => .extended other) (fun row holds => ((holds_iff other row).mp holds).1.symm) found
      (other_misses held different)
  | commitSuccess other result now =>
    have different : other ≠ call := fun same => foreign (by rw [same]; rfl)
    simp only [step, Option.some.injEq, Prod.mk.injEq] at taken
    obtain ⟨rfl, rfl⟩ := taken
    exact missed server.jobs other.holds (fun row => row.succeed result now) (fun _ => rfl)
      (fun _ => .succeeded other) (fun row holds => ((holds_iff other row).mp holds).1.symm) found
      (other_misses held different)
  | commitFailureSelect other thrown =>
    simp only [step, Option.some.injEq, Prod.mk.injEq] at taken
    obtain ⟨rfl, rfl⟩ := taken
    exact ⟨found, rfl⟩
  | commitFailureUpdate position clock now draw =>
    simp only [step, Option.map_eq_some_iff, Prod.mk.injEq] at taken
    obtain ⟨write, pending, rfl, rfl⟩ := taken
    have misses := other_misses held (reads write (List.mem_of_getElem? pending))
    have named : ∀ row, write.call.holds row = true → (Event.failed write.call).job = row.id :=
      fun row holds => ((holds_iff write.call row).mp holds).1.symm
    unfold commitFailureUpdate
    split
    · exact missed server.jobs write.call.holds
        (fun row => row.bury write.nextAttempt write.thrown now) (fun _ => rfl) _ named found misses
    · exact missed server.jobs write.call.holds
        (fun row => row.retry write.nextAttempt
          (computeNextRunAt config queueKey write.nextAttempt clock draw) write.thrown now)
        (fun _ => rfl) _ named found misses
  | reclaimExpiredLeasesPending now =>
    simp only [databaseTime, Option.all_some, decide_eq_true_eq] at timed
    simp only [step, Option.some.injEq, Prod.mk.injEq] at taken
    obtain ⟨rfl, rfl⟩ := taken
    exact missed server.jobs _ (fun row => row.recover now) (fun _ => rfl) _ (fun _ _ => rfl) found
      (fresh_misses _ (timed ▸ fresh)).1
  | reclaimExpiredLeasesDeadLetter now =>
    simp only [databaseTime, Option.all_some, decide_eq_true_eq] at timed
    simp only [step, Option.ite_none_left_eq_some, Option.some.injEq, Prod.mk.injEq] at taken
    obtain ⟨-, rfl, rfl⟩ := taken
    exact missed server.jobs _ (fun row => row.abandon now) (fun _ => rfl) _ (fun _ _ => rfl) found
      (fresh_misses _ (timed ▸ fresh)).2

/-- No statement but the call's own reads a failure of this call. -/
theorem foreign_reads {server next : Server} {observed : List Event} {action : JobEngine.Action}
    (reads : ∀ write ∈ server.failures, write.call ≠ call) (foreign : carried action ≠ some call)
    (taken : step config queueKey server action = some (next, observed)) :
    ∀ write ∈ next.failures, write.call ≠ call := by
  intro write member
  cases action with
  | commitFailureSelect other thrown =>
    simp only [step, Option.some.injEq, Prod.mk.injEq] at taken
    obtain ⟨rfl, -⟩ := taken
    rcases List.mem_append.mp member with old | read
    · exact reads write old
    · obtain ⟨row, -, rfl⟩ := Option.map_eq_some_iff.mp (Option.mem_toList.mp read)
      exact fun same => foreign (congrArg some same)
  | commitFailureUpdate position clock now draw =>
    simp only [step, Option.map_eq_some_iff, Prod.mk.injEq] at taken
    obtain ⟨pending, -, rfl, -⟩ := taken
    exact reads write (List.mem_of_mem_eraseIdx member)
  | reclaimExpiredLeasesDeadLetter now =>
    simp only [step, Option.ite_none_left_eq_some, Option.some.injEq, Prod.mk.injEq] at taken
    obtain ⟨-, rfl, -⟩ := taken
    exact reads write member
  | _ =>
    simp only [step, Option.some.injEq, Prod.mk.injEq] at taken
    obtain ⟨rfl, -⟩ := taken
    exact reads write member

end Foreign

section Coverage

variable {config : QueueConfig} {queueKey : QueueKey} {delays : Delays} {call : LeaseCall}
  {holder next : Holder} {observed : List Event}

/-- A lease that was last renewed at an instant, and what is still due before the time it was
renewed for runs out. If nothing is on its way, the last tick has been renewed; otherwise some
tick on its way came no later than one interval after the renewal. -/
structure Covered (queueKey : QueueKey) (delays : Delays) (call : LeaseCall) (holder : Holder)
    (row : JobRow) (expiry renewed : Time) : Prop where
  stored : holder.server.jobs.lookup call.id = some row
  held : call.holds row = true
  expires : row.leaseExpiresAt = some expiry
  lasts : renewed + gap queueKey delays ≤ expiry
  unread : ∀ write ∈ holder.server.failures, write.call ≠ call
  armed : holder.timer = .unset →
    holder.now ≤ delays.armedBy ∧ delays.armedBy ≤ renewed ∧ holder.sent = []
  ticking : ∀ lastTick, holder.timer = .running lastTick →
    holder.now ≤ lastTick + heartbeatMs queueKey + delays.lag ∧
      (holder.sent = [] → lastTick ≤ renewed)
  uncleared : holder.timer ≠ .cleared
  past : ∀ lastTick, holder.timer = .running lastTick → lastTick ≤ holder.now
  sent : ∀ tick ∈ holder.sent, tick ≤ holder.now ∧ holder.now ≤ tick + delays.latency
  waiting : holder.sent ≠ [] →
    ∃ tick ∈ holder.sent, tick ≤ renewed + heartbeatMs queueKey + delays.lag

variable {row : JobRow} {expiry renewed : Time}

/-- The time the lease was renewed for has not run out. -/
theorem Covered.early (covered : Covered queueKey delays call holder row expiry renewed) :
    holder.now ≤ renewed + gap queueKey delays := by
  have whole : (gap queueKey delays : Time) =
      heartbeatMs queueKey + delays.lag + delays.latency := by
    simp [gap]
  have later : (0 : Time) ≤ heartbeatMs queueKey ∧ (0 : Time) ≤ delays.lag ∧
      (0 : Time) ≤ delays.latency := ⟨by positivity, by positivity, by positivity⟩
  by_cases idle : holder.sent = []
  · cases timer : holder.timer with
    | unset =>
      have armed := covered.armed timer
      linarith
    | running lastTick =>
      have ticking := covered.ticking lastTick timer
      have landed := ticking.2 idle
      linarith
    | cleared => exact absurd timer covered.uncleared
  · obtain ⟨tick, member, soon⟩ := covered.waiting idle
    have arrives := (covered.sent tick member).2
    linarith

/-- A covered lease has not expired. -/
theorem Covered.fresh (covered : Covered queueKey delays call holder row expiry renewed) :
    row.expired holder.now = false := by
  simp only [JobRow.expired, covered.expires, Option.any_some, Bool.and_eq_false_imp,
    decide_eq_false_iff_not, not_lt]
  exact fun _ => le_trans covered.early covered.lasts

/-- A covered lease is kept. -/
theorem Covered.kept (covered : Covered queueKey delays call holder row expiry renewed) :
    Kept call holder :=
  ⟨row, covered.stored, covered.held, covered.fresh⟩

/-- What is observed at the row, if anything, is that the call extended its lease. -/
def OnlyExtended (call : LeaseCall) (history : List Event) : Prop :=
  ∀ event ∈ jobHistory call.id history, event = .extended call

/-- Time passes only as far as nothing is overdue. -/
theorem elapse_covered {later : Time}
    (covered : Covered queueKey delays call holder row expiry renewed)
    (forward : holder.now ≤ later)
    (due : holder.inTime delays (heartbeatMs queueKey) later = true) :
    Covered queueKey delays call { holder with now := later } row expiry renewed := by
  simp only [Holder.inTime, Bool.and_eq_true, List.all_eq_true, decide_eq_true_eq] at due
  refine
    { covered with
      armed := ?_
      ticking := ?_
      past := fun lastTick timer => le_trans (covered.past lastTick timer) forward
      sent := fun tick member =>
        ⟨le_trans (covered.sent tick member).1 forward, due.2 tick member⟩ }
  · intro timer
    have unset : holder.timer = .unset := timer
    refine ⟨?_, (covered.armed unset).2⟩
    simpa [unset] using due.1
  · intro lastTick timer
    have running : holder.timer = .running lastTick := timer
    refine ⟨?_, (covered.ticking lastTick running).2⟩
    simpa [running] using due.1

/-- Setting the timer leaves the lease covered. -/
theorem setTimer_covered (covered : Covered queueKey delays call holder row expiry renewed)
    (unset : holder.timer = .unset) :
    Covered queueKey delays call { holder with timer := .running holder.now } row expiry
      renewed := by
  have armed := covered.armed unset
  refine
    { covered with
      armed := by rintro ⟨⟩
      ticking := ?_
      uncleared := by rintro ⟨⟩
      past := ?_ }
  · rintro lastTick ⟨⟩
    have later : (0 : Time) ≤ heartbeatMs queueKey ∧ (0 : Time) ≤ delays.lag :=
      ⟨by positivity, by positivity⟩
    exact ⟨by linarith, fun _ => le_trans armed.1 armed.2.1⟩
  · rintro lastTick ⟨⟩
    exact le_refl _

/-- A tick joins the renewals on their way. It is the first of them only if the tick before it
has been renewed. -/
theorem tick_covered {lastTick : Time}
    (covered : Covered queueKey delays call holder row expiry renewed)
    (running : holder.timer = .running lastTick) :
    Covered queueKey delays call
      { holder with timer := .running holder.now, sent := holder.sent ++ [holder.now] } row expiry
      renewed := by
  have later : (0 : Time) ≤ heartbeatMs queueKey ∧ (0 : Time) ≤ delays.lag ∧
      (0 : Time) ≤ delays.latency := ⟨by positivity, by positivity, by positivity⟩
  obtain ⟨punctual, landed⟩ := covered.ticking lastTick running
  refine
    { covered with
      armed := by rintro ⟨⟩
      ticking := ?_
      uncleared := by rintro ⟨⟩
      past := ?_
      sent := forall_mem_snoc covered.sent ⟨le_refl _, by linarith⟩
      waiting := ?_ }
  · rintro tick ⟨⟩
    refine ⟨by linarith, fun empty => ?_⟩
    simp at empty
  · rintro tick ⟨⟩
    exact le_refl _
  · intro _
    by_cases idle : holder.sent = []
    · have soon := landed idle
      exact ⟨holder.now, List.mem_append_right _ (List.mem_singleton_self _), by linarith⟩
    · obtain ⟨tick, member, soon⟩ := covered.waiting idle
      exact ⟨tick, List.mem_append_left _ member, soon⟩

/-- A renewal that arrives renews the lease from now on, whichever tick it is from. -/
theorem renew_covered {position : Nat} {server : Server}
    (covered : Covered queueKey delays call holder row expiry renewed)
    (long : gap queueKey delays ≤ leaseMs config queueKey) {arriving : Time}
    (under : holder.sent[position]? = some arriving)
    (taken : step config queueKey holder.server
      (.extendLease call (leaseMs config queueKey : Nat) holder.now) = some (server, observed)) :
    Covered queueKey delays call
      { holder with server, sent := holder.sent.eraseIdx position }
      (row.extend (leaseMs config queueKey : Nat) holder.now)
      (holder.now + (leaseMs config queueKey : Nat)) holder.now := by
  have later : (0 : Time) ≤ heartbeatMs queueKey ∧ (0 : Time) ≤ delays.lag :=
    ⟨by positivity, by positivity⟩
  simp only [step, Option.some.injEq, Prod.mk.injEq] at taken
  obtain ⟨rfl, -⟩ := taken
  refine
    { stored := (holder_extends covered.stored covered.held _ _).2
      held := covered.held
      expires := rfl
      lasts := by simpa using long
      unread := covered.unread
      armed := ?_
      ticking := ?_
      uncleared := covered.uncleared
      past := covered.past
      sent := fun tick member => covered.sent tick (List.mem_of_mem_eraseIdx member)
      waiting := ?_ }
  · intro unset
    rw [(covered.armed unset).2.2, List.getElem?_nil] at under
    cases under
  · intro lastTick running
    exact ⟨(covered.ticking lastTick running).1, fun _ => covered.past lastTick running⟩
  · intro remains
    obtain ⟨tick, member⟩ := List.exists_mem_of_ne_nil _ remains
    have past := (covered.sent tick (List.mem_of_mem_eraseIdx member)).1
    refine ⟨tick, member, ?_⟩
    show tick ≤ holder.now + _ + _
    linarith

/-- A step of anybody else does not touch the row. -/
theorem foreign_covered {server : Server} {action : JobEngine.Action}
    (covered : Covered queueKey delays call holder row expiry renewed)
    (foreign : carried action ≠ some call)
    (timed : (databaseTime action).all (fun now => now = holder.now) = true)
    (taken : step config queueKey holder.server action = some (server, observed)) :
    Covered queueKey delays call { holder with server } row expiry renewed ∧
      jobHistory call.id observed = [] := by
  have missed := foreign_misses covered.stored covered.held covered.fresh covered.unread foreign
    timed taken
  exact ⟨{ covered with
      stored := missed.1
      unread := foreign_reads covered.unread foreign taken }, missed.2⟩

/-- A renewal logs nothing else about the job. -/
theorem renew_history {server : Server} {extendMs : Int} {now : Time}
    (taken : step config queueKey holder.server (.extendLease call extendMs now) =
      some (server, observed)) : OnlyExtended call observed := by
  simp only [step, Option.some.injEq, Prod.mk.injEq] at taken
  obtain ⟨-, rfl⟩ := taken
  intro event member
  obtain ⟨seen, old, kept⟩ := List.mem_filterMap.mp member
  obtain ⟨-, -, rfl⟩ := List.mem_map.mp old
  exact (Option.guard_eq_some_iff.mp kept).1.symm

/-- A call that is alive was alive before. -/
theorem alive_before (taken : moves config queueKey delays call holder observed next)
    (alive : next.alive = true) : holder.alive = true := by
  obtain ⟨action, -, taken⟩ := taken
  cases action with
  | elapse later =>
    simp only [move, Option.ite_none_right_eq_some, Option.some.injEq, Prod.mk.injEq] at taken
    obtain ⟨-, rfl, -⟩ := taken
    exact alive
  | setTimer =>
    simp only [move, Option.ite_none_right_eq_some, Option.some.injEq, Prod.mk.injEq] at taken
    exact taken.1.1
  | tick =>
    simp only [move] at taken
    split at taken
    · simp only [Option.ite_none_right_eq_some] at taken
      exact taken.1.1
    · cases taken
  | renew position =>
    simp only [move, Option.bind_eq_some_iff, Option.map_eq_some_iff, Prod.exists,
      Prod.mk.injEq] at taken
    obtain ⟨_, _, _, _, _, rfl, _⟩ := taken
    exact alive
  | crash =>
    simp only [move, Option.some.injEq, Prod.mk.injEq] at taken
    obtain ⟨rfl, -⟩ := taken
    cases alive
  | other action =>
    simp only [move, Option.ite_none_right_eq_some, Option.map_eq_some_iff, Prod.exists,
      Prod.mk.injEq] at taken
    obtain ⟨_, _, _, _, rfl, _⟩ := taken
    exact alive

/-- One step of anyone, while the call is alive. -/
theorem move_covered (long : gap queueKey delays ≤ leaseMs config queueKey)
    (covered : Covered queueKey delays call holder row expiry renewed)
    (living : holder.alive = true) (taken : moves config queueKey delays call holder observed next) :
    (next.alive = true → ∃ after expiry renewed,
      Covered queueKey delays call next after expiry renewed ∧
        after.attemptCount = row.attemptCount) ∧ OnlyExtended call observed := by
  obtain ⟨action, -, taken⟩ := taken
  have quiet : OnlyExtended call [] := by
    rintro event ⟨⟩
  cases action with
  | elapse later =>
    simp only [move, Option.ite_none_right_eq_some, Option.some.injEq, Prod.mk.injEq] at taken
    obtain ⟨⟨forward, due⟩, rfl, rfl⟩ := taken
    exact ⟨fun _ => ⟨_, _, _, elapse_covered covered forward (due living), rfl⟩, quiet⟩
  | setTimer =>
    simp only [move, Option.ite_none_right_eq_some, Option.some.injEq, Prod.mk.injEq] at taken
    obtain ⟨⟨-, unset⟩, rfl, rfl⟩ := taken
    exact ⟨fun _ => ⟨_, _, _, setTimer_covered covered unset, rfl⟩, quiet⟩
  | tick =>
    simp only [move] at taken
    cases running : holder.timer with
    | running lastTick =>
      simp only [running, Option.ite_none_right_eq_some, Option.some.injEq, Prod.mk.injEq] at taken
      obtain ⟨-, rfl, rfl⟩ := taken
      exact ⟨fun _ => ⟨_, _, _, tick_covered covered running, rfl⟩, quiet⟩
    | unset => simp [running] at taken
    | cleared => simp [running] at taken
  | renew position =>
    simp only [move, Option.bind_eq_some_iff, Option.map_eq_some_iff, Prod.exists,
      Prod.mk.injEq] at taken
    obtain ⟨arriving, under, server, seen, stepped, rfl, rfl⟩ := taken
    have ok := (holder_extends covered.stored covered.held (leaseMs config queueKey : Nat)
      holder.now).1
    have extended := renew_covered covered long under stepped
    simp only [ok, if_true]
    exact ⟨fun _ => ⟨_, _, _, extended, rfl⟩, renew_history stepped⟩
  | crash =>
    simp only [move, Option.some.injEq, Prod.mk.injEq] at taken
    obtain ⟨rfl, rfl⟩ := taken
    exact ⟨by rintro ⟨⟩, quiet⟩
  | other action =>
    simp only [move, Option.ite_none_right_eq_some, Option.map_eq_some_iff, Prod.exists,
      Prod.mk.injEq] at taken
    obtain ⟨⟨foreign, timed⟩, server, seen, stepped, rfl, rfl⟩ := taken
    obtain ⟨kept, unseen⟩ := foreign_covered covered foreign timed stepped
    refine ⟨fun _ => ⟨_, _, _, kept, rfl⟩, ?_⟩
    intro event member
    rw [unseen] at member
    cases member

/-- Nor do two in a row. -/
theorem OnlyExtended.append {first second : List Event} (before : OnlyExtended call first)
    (after : OnlyExtended call second) : OnlyExtended call (first ++ second) := by
  intro event member
  rw [jobHistory, List.filterMap_append] at member
  rcases List.mem_append.mp member with old | new
  · exact before event old
  · exact after event new

/-- A covered lease stays covered for as long as its call is alive, over every interleaving, and
no attempt is counted meanwhile. -/
theorem run_covered (long : gap queueKey delays ≤ leaseMs config queueKey)
    (covered : Covered queueKey delays call holder row expiry renewed) {history : List Event}
    {final : Holder} (run : Run (moves config queueKey delays call) holder history final)
    (living : final.alive = true) :
    (∃ after expiry renewed, Covered queueKey delays call final after expiry renewed ∧
      after.attemptCount = row.attemptCount) ∧ OnlyExtended call history := by
  have invariant := run.invariant
    (fun history (holder : Holder) => holder.alive = true →
      (∃ after expiry renewed, Covered queueKey delays call holder after expiry renewed ∧
        after.attemptCount = row.attemptCount) ∧ OnlyExtended call history)
    (fun _ => ⟨⟨row, expiry, renewed, covered, rfl⟩, by rintro event ⟨⟩⟩)
    (by
      rintro before observed state next _ kept taken alive
      have wasAlive : state.alive = true := alive_before taken alive
      obtain ⟨⟨current, expiry, renewed, covered, counted⟩, only⟩ := kept wasAlive
      obtain ⟨stays, seen⟩ := move_covered long covered wasAlive taken
      obtain ⟨after, expiry, renewed, covered, same⟩ := stays alive
      exact ⟨⟨after, expiry, renewed, covered, same.trans counted⟩, only.append seen⟩)
  exact invariant living

end Coverage

section Overdue

variable {config : QueueConfig} {queueKey : QueueKey} {delays : Delays} {call : LeaseCall}

/-- No heartbeat interval is empty. -/
theorem heartbeatMs_pos (queueKey : QueueKey) : 0 < heartbeatMs queueKey := by
  cases queueKey <;> decide

/-- The timer of a call has just ticked, and what is on its way can take until an instant. -/
structure Waits (delays : Delays) (target : Time) (holder : Holder) : Prop where
  alive : holder.alive = true
  running : holder.timer = .running holder.now
  before : holder.now ≤ target
  slow : ∀ tick ∈ holder.sent, tick ≤ holder.now ∧ target ≤ tick + delays.latency

/-- Time passes while no tick and no renewal is overdue. -/
theorem elapse_moves {later : Time} {holder : Holder} (forward : holder.now ≤ later)
    (due : holder.inTime delays (heartbeatMs queueKey) later = true) :
    moves config queueKey delays call holder [] { holder with now := later } :=
  ⟨.elapse later, trivial, if_pos ⟨forward, fun _ => due⟩⟩

/-- A tick sends a renewal. -/
theorem tick_moves {lastTick : Time} {holder : Holder} (alive : holder.alive = true)
    (running : holder.timer = .running lastTick)
    (past : lastTick + heartbeatMs queueKey ≤ holder.now) :
    moves config queueKey delays call holder []
      { holder with timer := .running holder.now, sent := holder.sent ++ [holder.now] } := by
  refine ⟨.tick, trivial, ?_⟩
  simp only [move, running]
  exact if_pos ⟨alive, past⟩

variable {target : Time}

/-- A holder that waits lets time pass. -/
theorem Waits.elapse {holder : Holder} {later : Time} (waits : Waits delays target holder)
    (forward : holder.now ≤ later) (reaches : later ≤ target)
    (soon : later ≤ holder.now + heartbeatMs queueKey + delays.lag) :
    moves config queueKey delays call holder [] { holder with now := later } := by
  apply elapse_moves forward
  simp only [Holder.inTime, waits.running, Bool.and_eq_true, List.all_eq_true, decide_eq_true_eq]
  exact ⟨soon, fun tick member => le_trans reaches (waits.slow tick member).2⟩

/-- A punctual tick while an older renewal is on its way. -/
theorem Waits.tick {holder : Holder} (waits : Waits delays target holder) (sent : holder.sent ≠ [])
    (beyond : holder.now + heartbeatMs queueKey ≤ target) :
    ∃ later, Run (moves config queueKey delays call) holder [] later ∧
      later.server = holder.server ∧ later.now = holder.now + heartbeatMs queueKey ∧
      later.sent ≠ [] ∧ Waits delays target later := by
  have positive : (0 : Time) ≤ heartbeatMs queueKey ∧ (0 : Time) ≤ delays.lag :=
    ⟨by positivity, by positivity⟩
  let later : Holder := { holder with now := holder.now + heartbeatMs queueKey }
  have elapsed : moves config queueKey delays call holder [] later :=
    waits.elapse (by linarith) beyond (by linarith)
  have ticked : moves config queueKey delays call later []
      { later with timer := .running later.now, sent := later.sent ++ [later.now] } :=
    tick_moves waits.alive waits.running (le_refl _)
  obtain ⟨oldest, member⟩ := List.exists_mem_of_ne_nil _ sent
  have slow := waits.slow oldest member
  refine ⟨_, .step (.step .start elapsed) ticked, rfl, rfl, by simp, waits.alive, rfl, beyond,
    forall_mem_snoc ?_ ⟨le_refl _, by show target ≤ holder.now + _ + _; linarith⟩⟩
  intro tick stays
  have stillSlow := waits.slow tick stays
  exact ⟨by show tick ≤ holder.now + _; linarith, stillSlow.2⟩

/-- No renewal has to arrive before an instant that the oldest can take; the timer ticks on. -/
theorem waits_until (steps : Nat) {holder : Holder} (waits : Waits delays target holder)
    (sent : holder.sent ≠ []) (near : target ≤ holder.now + steps) :
    ∃ later, Run (moves config queueKey delays call) holder [] later ∧
      later.server = holder.server ∧ later.now = target ∧ later.alive = true := by
  induction steps generalizing holder with
  | zero =>
    have reached : holder.now = target := le_antisymm waits.before (by simpa using near)
    exact ⟨holder, .start, rfl, reached, waits.alive⟩
  | succ steps inductionHypothesis =>
    by_cases soon : target ≤ holder.now + heartbeatMs queueKey + delays.lag
    · exact ⟨_, .step .start (waits.elapse waits.before (le_refl _) soon), rfl, rfl, waits.alive⟩
    · have positive : (1 : Time) ≤ heartbeatMs queueKey := by
        exact_mod_cast heartbeatMs_pos queueKey
      have lags : (0 : Time) ≤ delays.lag := by positivity
      obtain ⟨later, run, same, passed, stillSent, stillWaits⟩ : ∃ later,
          Run (moves config queueKey delays call) holder [] later ∧
            later.server = holder.server ∧ later.now = holder.now + heartbeatMs queueKey ∧
            later.sent ≠ [] ∧ Waits delays target later := waits.tick sent (by linarith)
      push_cast at near
      obtain ⟨final, rest, sameServer, reached, alive⟩ :=
        inductionHypothesis stillWaits stillSent (by rw [passed]; linarith)
      exact ⟨final, run.trans rest, sameServer.trans same, reached, alive⟩

/-- The late tick of a timer that has sent nothing. -/
theorem late_tick {holder : Holder} (alive : holder.alive = true)
    (running : holder.timer = .running holder.now) (idle : holder.sent = []) {late : Time}
    (latest : late = holder.now + heartbeatMs queueKey + delays.lag) :
    Run (moves config queueKey delays call) holder []
      { holder with now := late, timer := .running late, sent := [late] } := by
  have positive : (0 : Time) ≤ heartbeatMs queueKey ∧ (0 : Time) ≤ delays.lag :=
    ⟨by positivity, by positivity⟩
  let later : Holder := { holder with now := late }
  have elapsed : moves config queueKey delays call holder [] later := by
    apply elapse_moves (by linarith)
    simp [Holder.inTime, running, idle, latest]
  have ticked : moves config queueKey delays call later []
      { later with timer := .running later.now, sent := later.sent ++ [later.now] } :=
    tick_moves alive running (by show holder.now + _ ≤ late; linarith)
  have run := (Run.start.step elapsed).step ticked
  simpa [later, idle] using run

/-- From a timer that has sent nothing, a whole gap can pass without a renewal. -/
theorem gap_passes {holder : Holder} (alive : holder.alive = true)
    (running : holder.timer = .running holder.now) (idle : holder.sent = []) :
    ∃ later, Run (moves config queueKey delays call) holder [] later ∧
      later.server = holder.server ∧ later.now = holder.now + gap queueKey delays ∧
      later.alive = true := by
  let late : Time := holder.now + heartbeatMs queueKey + delays.lag
  have first : Run (moves config queueKey delays call) holder []
      { holder with now := late, timer := .running late, sent := [late] } :=
    late_tick alive running idle rfl
  have target : late + delays.latency = holder.now + gap queueKey delays := by
    simp only [late, gap]
    push_cast
    linarith
  have waits : Waits delays (late + delays.latency)
      { holder with now := late, timer := .running late, sent := [late] } :=
    { alive
      running := rfl
      before := by simp
      slow := by simp }
  obtain ⟨later, rest, same, reached, stillAlive⟩ : ∃ later,
      Run (moves config queueKey delays call)
        { holder with now := late, timer := .running late, sent := [late] } [] later ∧
        later.server = holder.server ∧ later.now = late + delays.latency ∧ later.alive = true :=
    waits_until delays.latency waits (by simp) (le_refl _)
  exact ⟨later, first.trans rest, same, reached.trans target, stillAlive⟩

end Overdue

section Claimed

variable {config : QueueConfig} {queueKey : QueueKey} {delays : Delays} {request : ClaimRequest}
  {drainRows : List Bool} {clock now : Time} {locked : JobId → Bool} {scan : JobId → Nat}

/-- The call that a claimed row is processed under. -/
def callOf (request : ClaimRequest) (row : JobRow) : LeaseCall :=
  ⟨row.id, request.workerId, row.leaseVersion⟩

/-- Right after the claim: no timer has been set. -/
def claimed (config : QueueConfig) (queueKey : QueueKey) (request : ClaimRequest)
    (drainRows : List Bool) (clock now : Time) (locked : JobId → Bool) (scan : JobId → Nat)
    (server : Server) : Holder where
  server := { server with
    jobs := (atomicClaim config queueKey request drainRows clock now locked scan server.jobs).1 }
  now := now
  timer := .unset
  sent := []
  alive := true

/-- A row that a claim returned is stored, held by the caller, and expires one lease after the
caller's clock; no failure of the new version has been read. -/
theorem claimed_row {server : Server} {row : JobRow} (current : ReadsCurrent server)
    (returned : row ∈ (atomicClaim config queueKey request drainRows clock now locked scan
      server.jobs).2) :
    (claimed config queueKey request drainRows clock now locked scan server).server.jobs.lookup
        row.id = some row ∧
      (callOf request row).holds row = true ∧
      row.leaseExpiresAt = some (clock + (leaseMs config queueKey : Nat)) ∧
      ∀ write ∈ server.failures, write.call ≠ callOf request row := by
  by_cases draining : drainRows.head?.getD false = true
  · simp [atomicClaim, draining] at returned
  · simp only [atomicClaim, draining, Bool.false_eq_true, if_false, Table.returning] at returned
    obtain ⟨old, selected, rfl⟩ := List.mem_map.mp returned
    obtain ⟨stored, matched⟩ := Table.mem_select.mp selected
    refine ⟨?_, ?_, rfl, ?_⟩
    · have found : server.jobs.lookup old.id = some old := Table.mem_lookup stored
      have updated := Table.lookup_update server.jobs
        (fun row => decide (row.id ∈ claimChoice request
          (request.regionId.getD config.currentRegion) now locked scan server.jobs))
        (fun row => row.claim request.workerId (clock + (leaseMs config queueKey : Nat)) now)
        (fun _ => rfl) old.id
      rw [found, Option.map_some, if_pos matched] at updated
      simp only [claimed, atomicClaim, draining, Bool.false_eq_true, if_false]
      exact updated
    · exact (holds_iff _ _).mpr ⟨rfl, rfl, rfl, rfl⟩
    · intro write member same
      obtain ⟨read, found, bound, -⟩ := current write member
      have known : read = old := by
        have found' : server.jobs.lookup old.id = some read := by
          rw [← found, same]
          rfl
        exact Option.some.inj (found'.symm.trans (Table.mem_lookup stored))
      have version : write.call.leaseVersion = old.leaseVersion + 1 := by rw [same]; rfl
      rw [known] at bound
      omega

variable {server : Server} {row : JobRow}

/-- What a lease is renewed for at first: up to the instant its timer is set by. -/
theorem claimed_covered (current : ReadsCurrent server)
    (returned : row ∈ (atomicClaim config queueKey request drainRows clock now locked scan
      server.jobs).2) (arms : now ≤ delays.armedBy)
    (first : delays.armedBy + gap queueKey delays ≤ clock + (leaseMs config queueKey : Nat)) :
    Covered queueKey delays (callOf request row)
      (claimed config queueKey request drainRows clock now locked scan server) row
      (clock + (leaseMs config queueKey : Nat)) delays.armedBy := by
  obtain ⟨stored, held, expires, unread⟩ := claimed_row current returned
  exact
    { stored
      held
      expires
      lasts := first
      unread
      armed := fun _ => ⟨arms, le_refl _, rfl⟩
      ticking := by rintro lastTick ⟨⟩
      uncleared := by rintro ⟨⟩
      past := by rintro lastTick ⟨⟩
      sent := by rintro tick ⟨⟩
      waiting := fun sent => absurd rfl sent }

/-- The timer is set at the last instant. -/
theorem armed_late (call : LeaseCall) (arms : now ≤ delays.armedBy) :
    Run (moves config queueKey delays call)
      (claimed config queueKey request drainRows clock now locked scan server) []
      { claimed config queueKey request drainRows clock now locked scan server with
        now := delays.armedBy, timer := .running delays.armedBy } := by
  let start := claimed config queueKey request drainRows clock now locked scan server
  have elapsed : moves config queueKey delays call start []
      { start with now := delays.armedBy } := by
    apply elapse_moves arms
    simp [Holder.inTime, start, claimed]
  have set : moves config queueKey delays call { start with now := delays.armedBy } []
      { start with now := delays.armedBy, timer := .running delays.armedBy } :=
    ⟨.setTimer, trivial, by simp [move, start, claimed]⟩
  exact (Run.start.step elapsed).step set

/-- A renewal may arrive right after its tick. -/
theorem renews_at_once {call : LeaseCall} (holder : Holder) {tick : Time}
    (stored : holder.server.jobs.lookup call.id = some row) (held : call.holds row = true)
    (sent : holder.sent = [tick]) :
    ∃ next observed, moves config queueKey delays call holder observed next ∧
      next.server.jobs.lookup call.id =
        some (row.extend (leaseMs config queueKey : Nat) holder.now) ∧
      next.sent = [] ∧ next.timer = holder.timer ∧ next.now = holder.now ∧
      next.alive = holder.alive := by
  obtain ⟨ok, extended⟩ := holder_extends stored held (leaseMs config queueKey : Nat) holder.now
  let jobs := (extendLease call (leaseMs config queueKey : Nat) holder.now holder.server.jobs).1
  let observed := (holder.server.jobs.select call.holds).map fun _ => Event.extended call
  refine ⟨{ holder with server := { holder.server with jobs }, sent := [] }, observed,
    ⟨.renew 0, trivial, ?_⟩, extended, rfl, rfl, rfl, rfl⟩
  simp only [move, sent, List.getElem?_cons_zero, Option.bind_some, step, Option.map_some, ok,
    if_true, List.eraseIdx_cons_zero]
  rfl

/-- A row whose expiry has passed is not kept. -/
theorem passed_unkept {call : LeaseCall} {holder : Holder} {expiry : Time}
    (stored : holder.server.jobs.lookup call.id = some row) (held : call.holds row = true)
    (expires : row.leaseExpiresAt = some expiry) (passed : expiry < holder.now) :
    ¬ Kept call holder := by
  rintro ⟨other, found, -, fresh⟩
  obtain rfl : row = other := Option.some.inj (stored.symm.trans found)
  have processing := ((holds_iff call row).mp held).2.2.2
  simp [JobRow.expired, processing, expires, passed] at fresh

/-- The first lease runs out when the timer may be set too late. -/
theorem first_lost (current : ReadsCurrent server)
    (returned : row ∈ (atomicClaim config queueKey request drainRows clock now locked scan
      server.jobs).2) (arms : now ≤ delays.armedBy)
    (short : clock + (leaseMs config queueKey : Nat) < delays.armedBy + gap queueKey delays) :
    ∃ history holder, Run (moves config queueKey delays (callOf request row))
        (claimed config queueKey request drainRows clock now locked scan server) history holder ∧
      holder.alive = true ∧ ¬ Kept (callOf request row) holder := by
  obtain ⟨stored, held, expires, -⟩ := claimed_row current returned
  let armed : Holder :=
    { claimed config queueKey request drainRows clock now locked scan server with
      now := delays.armedBy, timer := .running delays.armedBy }
  obtain ⟨later, rest, same, reached, alive⟩ : ∃ later,
      Run (moves config queueKey delays (callOf request row)) armed [] later ∧
        later.server = armed.server ∧ later.now = armed.now + gap queueKey delays ∧
        later.alive = true := gap_passes rfl rfl rfl
  refine ⟨_, later, (armed_late _ arms).trans rest, alive, passed_unkept ?_ held expires ?_⟩
  · rw [same]
    exact stored
  · rw [reached]
    exact short

/-- A renewed lease runs out when the next renewal may come later than it lasts. -/
theorem next_lost (current : ReadsCurrent server)
    (returned : row ∈ (atomicClaim config queueKey request drainRows clock now locked scan
      server.jobs).2) (arms : now ≤ delays.armedBy)
    (short : leaseMs config queueKey < gap queueKey delays) :
    ∃ history holder, Run (moves config queueKey delays (callOf request row))
        (claimed config queueKey request drainRows clock now locked scan server) history holder ∧
      holder.alive = true ∧ ¬ Kept (callOf request row) holder := by
  obtain ⟨stored, held, -, -⟩ := claimed_row current returned
  let late : Time := delays.armedBy + heartbeatMs queueKey + delays.lag
  let armed : Holder :=
    { claimed config queueKey request drainRows clock now locked scan server with
      now := delays.armedBy, timer := .running delays.armedBy }
  let ticked : Holder := { armed with now := late, timer := .running late, sent := [late] }
  have first : Run (moves config queueKey delays (callOf request row)) armed [] ticked :=
    late_tick rfl rfl rfl rfl
  -- The tick is renewed at once, so that the lease runs from it.
  obtain ⟨next, seen, taken, extended, idle, running, stands, living⟩ :=
    renews_at_once ticked stored held rfl
  obtain ⟨later, rest, same, reached, alive⟩ : ∃ later,
      Run (moves config queueKey delays (callOf request row)) next [] later ∧
        later.server = next.server ∧ later.now = next.now + gap queueKey delays ∧
        later.alive = true := gap_passes living (running.trans (by rw [stands])) idle
  have extended' : later.server.jobs.lookup (callOf request row).id =
      some (row.extend (leaseMs config queueKey : Nat) late) := by
    rw [same]
    exact extended
  refine ⟨_, later, (((armed_late _ arms).trans first).step taken).trans rest, alive,
    passed_unkept extended' held rfl ?_⟩
  rw [reached, stands]
  show late + _ < late + _
  exact Int.add_lt_add_left (by exact_mod_cast short) late

/-- The lease of a claimed job survives every interleaving exactly when it outlasts the longest
gap between renewals, from the claim as from every renewal. The claim is any claim of any run of
the engine. -/
theorem lease_kept_iff {jobs : Jobs} {before : List Event}
    (reached : Run (transition config queueKey) (Server.idle jobs) before server)
    (returned : row ∈ (atomicClaim config queueKey request drainRows clock now locked scan
      server.jobs).2) (arms : now ≤ delays.armedBy) :
    (∀ history holder, Run (moves config queueKey delays (callOf request row))
        (claimed config queueKey request drainRows clock now locked scan server) history holder →
      holder.alive = true → Kept (callOf request row) holder) ↔
    delays.armedBy + gap queueKey delays ≤ clock + (leaseMs config queueKey : Nat) ∧
      gap queueKey delays ≤ leaseMs config queueKey := by
  have current := run_reads (idle_reads jobs) reached
  constructor
  · intro kept
    constructor
    · by_contra short
      obtain ⟨history, holder, run, alive, lost⟩ :=
        first_lost current returned arms (not_le.mp short)
      exact lost (kept history holder run alive)
    · by_contra short
      obtain ⟨history, holder, run, alive, lost⟩ :=
        next_lost current returned arms (not_le.mp short)
      exact lost (kept history holder run alive)
  · rintro ⟨first, next⟩ history holder run alive
    obtain ⟨⟨_, _, _, covered, -⟩, -⟩ :=
      run_covered next (claimed_covered current returned arms first) run alive
    exact covered.kept

/-- The shipped intervals fit into the shipped leases three times. -/
theorem shipped_intervals (queueKey : QueueKey) :
    3 * heartbeatMs queueKey ≤ leaseMs queues queueKey := by
  cases queueKey <;> decide

/-- What the UPDATE of `commitFailure` makes of a row that it finds. -/
def failedRow (config : QueueConfig) (queueKey : QueueKey) (write : FailureWrite) (clock now : Time)
    (draw : Nat) (row : JobRow) : JobRow :=
  if write.isDead config queueKey then row.bury write.nextAttempt write.thrown now
  else row.retry write.nextAttempt (computeNextRunAt config queueKey write.nextAttempt clock draw)
    write.thrown now

/-- The UPDATE of `commitFailure` by the call that holds the row. -/
theorem holder_fails {jobs : Jobs} (write : FailureWrite)
    (stored : jobs.lookup write.call.id = some row) (held : write.call.holds row = true)
    (clock now : Time) (draw : Nat) :
    (commitFailureUpdate config queueKey write clock now draw jobs).lookup write.call.id =
      some (failedRow config queueKey write clock now draw row) := by
  unfold commitFailureUpdate failedRow
  split
  · have updated := Table.lookup_update jobs write.call.holds
      (fun row => row.bury write.nextAttempt write.thrown now) (fun _ => rfl) write.call.id
    rwa [stored, Option.map_some, if_pos held] at updated
  · have updated := Table.lookup_update jobs write.call.holds
      (fun row => row.retry write.nextAttempt
        (computeNextRunAt config queueKey write.nextAttempt clock draw) write.thrown now)
      (fun _ => rfl) write.call.id
    rwa [stored, Option.map_some, if_pos held] at updated

/-- The SELECT of `commitFailure` by the call that holds the row. -/
theorem holder_selects {jobs : Jobs} {call : LeaseCall} (stored : jobs.lookup call.id = some row)
    (held : call.holds row = true) (thrown : Thrown) :
    commitFailureSelect call thrown jobs = some ⟨call, thrown, row.attemptCount + 1⟩ := by
  have selected : jobs.select call.holds = [row] := by
    refine Table.select_single (Table.lookup_mem stored) held fun other member holds => ?_
    have sameId : other.id = call.id := ((holds_iff call other).mp holds).1
    have found := Table.mem_lookup member
    rw [sameId, stored] at found
    exact (Option.some.inj found).symm
  rw [commitFailureSelect, selected]
  rfl

/-- The failure of a call that holds its row is committed: the SELECT finds the row, and whatever
comes between, while the call is alive, so does the UPDATE, which counts one attempt. -/
def FailureCommits (config : QueueConfig) (queueKey : QueueKey) (delays : Delays) (call : LeaseCall)
    (holder : Holder) : Prop :=
  ∀ thrown, ∃ write, commitFailureSelect call thrown holder.server.jobs = some write ∧
    ∀ between later, Run (moves config queueKey delays call) holder between later →
      later.alive = true → ∃ stored, later.server.jobs.lookup call.id = some stored ∧
        write.nextAttempt = stored.attemptCount + 1 ∧
        ∀ clock draw,
          (commitFailureUpdate config queueKey write clock later.now draw later.server.jobs).lookup
            call.id = some (failedRow config queueKey write clock later.now draw stored)

/-- The failure of a covered lease is committed. -/
theorem failure_commits {call : LeaseCall} {holder : Holder} {expiry renewed : Time}
    (long : gap queueKey delays ≤ leaseMs config queueKey)
    (covered : Covered queueKey delays call holder row expiry renewed) :
    FailureCommits config queueKey delays call holder := by
  intro thrown
  refine ⟨_, holder_selects covered.stored covered.held thrown, ?_⟩
  intro between later rest alive
  obtain ⟨⟨stored, _, _, still, counted⟩, -⟩ := run_covered long covered rest alive
  refine ⟨stored, still.stored, congrArg (· + 1) counted.symm, fun clock draw => ?_⟩
  exact holder_fails ⟨call, thrown, row.attemptCount + 1⟩ still.stored still.held clock
    later.now draw

/-- With the shipped tables, as long as ticks and renewals together are at most two intervals
late, from the claim on as later, a job that is being processed is handed to no one else: all that
happens to its row is that its own call renews it, no reclaim finds it, and either commit of the
call takes effect. -/
theorem processed_once {jobs : Jobs} {before : List Event}
    (reached : Run (transition queues queueKey) (Server.idle jobs) before server)
    (returned : row ∈ (atomicClaim queues queueKey request drainRows clock now locked scan
      server.jobs).2) (arms : now ≤ delays.armedBy)
    (prompt : delays.armedBy + (delays.lag + delays.latency : Nat) ≤
      clock + (2 * heartbeatMs queueKey : Nat))
    (late : delays.lag + delays.latency ≤ 2 * heartbeatMs queueKey) {history : List Event}
    {holder : Holder}
    (run : Run (moves queues queueKey delays (callOf request row))
      (claimed queues queueKey request drainRows clock now locked scan server) history holder)
    (alive : holder.alive = true) :
    (∀ event ∈ jobHistory row.id history, event = .extended (callOf request row)) ∧
      (∀ limit, ∀ stored ∈ holder.server.jobs.rows, stored.id = row.id →
        recoverable limit holder.now stored = false ∧ exhausted limit holder.now stored = false) ∧
      (∀ result, ∃ stored : JobRow, holder.server.jobs.lookup row.id = some stored ∧
        (commitSuccess (callOf request row) result holder.now holder.server.jobs).lookup row.id =
          some (stored.succeed result holder.now)) ∧
      FailureCommits queues queueKey delays (callOf request row) holder := by
  have long : gap queueKey delays ≤ leaseMs queues queueKey := by
    have fits := shipped_intervals queueKey
    unfold gap
    omega
  have first : delays.armedBy + gap queueKey delays ≤ clock + (leaseMs queues queueKey : Nat) := by
    have fits : (3 * heartbeatMs queueKey : Time) ≤ leaseMs queues queueKey := by
      exact_mod_cast shipped_intervals queueKey
    simp only [gap]
    push_cast at prompt ⊢
    linarith
  have current := run_reads (idle_reads jobs) reached
  obtain ⟨⟨stored, _, _, covered, -⟩, only⟩ :=
    run_covered long (claimed_covered current returned arms first) run alive
  refine ⟨only, ?_, ?_, failure_commits long covered⟩
  · intro limit found member sameId
    have same : found = stored := by
      have lookup := Table.mem_lookup member
      rw [sameId] at lookup
      exact Option.some.inj (lookup.symm.trans covered.stored)
    exact fresh_misses limit (same ▸ covered.fresh)
  · intro result
    refine ⟨stored, covered.stored, ?_⟩
    have updated := Table.lookup_update holder.server.jobs (callOf request row).holds
      (fun row => row.succeed result holder.now) (fun _ => rfl) (callOf request row).id
    rw [covered.stored, Option.map_some, if_pos covered.held] at updated
    exact updated

end Claimed

section Sample

/-- A refund job, enqueued and not yet claimed. -/
def refundQueue : Server :=
  Server.idle ((Table.empty : Jobs).insert (NewJob.row { id := 7, createdAt := 0 })).1

/-- The job as the claim of one worker returns it. -/
def refundJob : JobRow :=
  (NewJob.row { id := 7, createdAt := 0 }).claim "worker" 120000 0

/-- The sample claims the refund. -/
theorem refund_claimed :
    refundJob ∈ (atomicClaim queues .refundRetry ⟨1, "worker", none, none⟩ [] 0 0 (fun _ => false)
      id refundQueue.jobs).2 :=
  List.mem_singleton.mpr rfl

/-- A round trip of a tenth of a second, and renewals up to a minute late. -/
def refundDelays : Delays := ⟨100, 20, 60000⟩

/-- The shipped lease of a refund is kept. -/
theorem refund_lease_kept :
    gap .refundRetry refundDelays ≤ leaseMs queues .refundRetry ∧
      ∀ history holder,
        Run (moves queues .refundRetry refundDelays ⟨7, "worker", 1⟩)
          (claimed queues .refundRetry ⟨1, "worker", none, none⟩ [] 0 0 (fun _ => false) id
            refundQueue) history holder →
        holder.alive = true → Kept ⟨7, "worker", 1⟩ holder :=
  ⟨by decide, (lease_kept_iff .start refund_claimed (by decide)).mpr ⟨by decide, by decide⟩⟩

/-- Two renewals arrive together, just before the second is overdue; the lease is then reclaimed
in vain, past its first expiry. -/
def refundSchedule : List Action :=
  [.elapse 100, .setTimer, .elapse 40120, .tick, .elapse 80140, .tick, .elapse 100000, .renew 1,
    .renew 0, .elapse 120160, .tick, .elapse 130000, .other (.reclaimExpiredLeasesPending 130000),
    .renew 0]

/-- The sample goes through. -/
theorem refund_accepted :
    (execute (move queues .refundRetry refundDelays ⟨7, "worker", 1⟩)
      (claimed queues .refundRetry ⟨1, "worker", none, none⟩ [] 0 0 (fun _ => false) id refundQueue)
      refundSchedule).isSome := by
  decide

/-- After that schedule the job is still its first worker's, to succeed or to fail. -/
theorem refund_processed_once :
    ∃ history holder,
      Run (moves queues .refundRetry refundDelays ⟨7, "worker", 1⟩)
        (claimed queues .refundRetry ⟨1, "worker", none, none⟩ [] 0 0 (fun _ => false) id
          refundQueue) history holder ∧
      holder.now = 130000 ∧ history.length = 3 ∧
      (∀ event ∈ jobHistory 7 history, event = .extended ⟨7, "worker", 1⟩) ∧
      FailureCommits queues .refundRetry refundDelays ⟨7, "worker", 1⟩ holder := by
  have run := run_of_schedule refundSchedule refund_accepted
  have once := processed_once .start refund_claimed (by decide) (by decide) (by decide) run
    (by decide)
  exact ⟨_, _, run, by decide, by decide, once.1, once.2.2.2⟩

end Sample

end PlanBuddy.LeaseRenewals
