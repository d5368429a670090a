import Mathlib.Algebra.Order.Field.Rat
import Mathlib.Tactic.Linarith
import Mathlib.Tactic.Ring
import PlanBuddy.Spending

/-!
# The token bucket of a provider

`atomic_token_deduct` on the row of one bucket. The row stays locked from its SELECT to
the commit, so calls take it one after the other; but `NOW()` is the start of the calling
transaction, and a call that waited for the lock may read an earlier time than the one
before it. The refill is then negative.

Over-granting does not depend on that. Tokens minus what would have been refilled by
`last_refill_at` is a potential: no call raises it, whatever it reads, and a grant lowers
it by the amount granted.
-/

namespace PlanBuddy.RateLimits

/-- A `TIMESTAMPTZ`, in microseconds. -/
abbrev Timestamp := Int

/-- The columns of `rate_limit_buckets` that the function reads or writes. -/
structure RateLimitBucket where
  tokens : Rat
  capacity : Rat
  refillRatePerSec : Rat
  lastRefillAt : Timestamp
  throttledUntil : Option Timestamp
  consecutiveThrottles : Nat
deriving DecidableEq

/-- `EXTRACT(EPOCH FROM (later - earlier))`. -/
def secondsBetween (earlier later : Timestamp) : Rat := ((later - earlier : Int) : Rat) / 1000000

/-- `INTERVAL '30 seconds'`. -/
def penalty : Int := 30 * 1000000

section Deduct

variable (needed : Rat) (now : Timestamp) (row : RateLimitBucket)

/-- `throttled_until IS NOT NULL AND throttled_until > NOW()`. -/
def RateLimitBucket.penalised : Bool :=
  row.throttledUntil.any fun throttledUntil => decide (now < throttledUntil)

/-- `v_new_tokens`. -/
def RateLimitBucket.newTokens : Rat :=
  min row.capacity (row.tokens + secondsBetween row.lastRefillAt now * row.refillRatePerSec)

/-- The UPDATE of a refused call. -/
def RateLimitBucket.throttle : RateLimitBucket :=
  { row with
    tokens := row.newTokens now
    lastRefillAt := now
    consecutiveThrottles := row.consecutiveThrottles + 1
    throttledUntil := if 5 ≤ row.consecutiveThrottles then some (now + penalty) else none }

/-- The UPDATE of a granted call. -/
def RateLimitBucket.deduct : RateLimitBucket :=
  { row with
    tokens := row.newTokens now - needed
    lastRefillAt := now
    consecutiveThrottles := 0
    throttledUntil := none }

/-- The function once it has found and locked a row. -/
def RateLimitBucket.draw : RateLimitBucket × Bool :=
  if row.penalised now then (row, false)
  else if row.newTokens now < needed then (row.throttle now, false)
  else (row.deduct needed now, true)

end Deduct

/-- The whole function, on the row under its key. No bucket means no limit. -/
def atomicTokenDeduct (needed : Rat) (now : Timestamp) :
    Option RateLimitBucket → Option RateLimitBucket × Bool
  | none => (none, true)
  | some row => ((some (row.draw needed now).1), (row.draw needed now).2)

section Draw

/-- All that a call can do to the row. -/
inductive Draws (needed : Rat) (now : Timestamp) (row : RateLimitBucket) :
    RateLimitBucket → Bool → Prop
  | penalised (waits : row.penalised now = true) : Draws needed now row row false
  | throttled (served : row.penalised now = false) (short : row.newTokens now < needed) :
      Draws needed now row (row.throttle now) false
  | granted (served : row.penalised now = false) (enough : needed ≤ row.newTokens now) :
      Draws needed now row (row.deduct needed now) true

/-- A call draws in one of these ways. -/
theorem draw_cases {needed : Rat} {now : Timestamp} {row next : RateLimitBucket} {allowed : Bool}
    (drawn : row.draw needed now = (next, allowed)) : Draws needed now row next allowed := by
  unfold RateLimitBucket.draw at drawn
  split at drawn
  · next waits =>
    cases drawn
    exact .penalised waits
  · next served =>
    split at drawn
    · next short =>
      cases drawn
      exact .throttled (Bool.eq_false_iff.mpr served) short
    · next enough =>
      cases drawn
      exact .granted (Bool.eq_false_iff.mpr served) (not_lt.mp enough)

variable {needed : Rat} {now : Timestamp} {row next : RateLimitBucket} {allowed : Bool}

/-- The settings of the bucket stay as they are. -/
theorem draws_settings (draws : Draws needed now row next allowed) :
    next.capacity = row.capacity ∧ next.refillRatePerSec = row.refillRatePerSec := by
  cases draws <;> exact ⟨rfl, rfl⟩

/-- A bucket is never filled beyond its capacity. -/
theorem newTokens_capacity : row.newTokens now ≤ row.capacity := min_le_left _ _

/-- Nor by more than its rate. -/
theorem newTokens_refill :
    row.newTokens now ≤ row.tokens + secondsBetween row.lastRefillAt now * row.refillRatePerSec :=
  min_le_right _ _

/-- No call fills a bucket beyond its capacity. -/
theorem draws_capacity (asks : 0 ≤ needed) (within : row.tokens ≤ row.capacity)
    (draws : Draws needed now row next allowed) : next.tokens ≤ next.capacity := by
  cases draws with
  | penalised waits => exact within
  | throttled served short => exact newTokens_capacity
  | granted served enough =>
    have bound : row.newTokens now ≤ row.capacity := newTokens_capacity
    show row.newTokens now - needed ≤ row.capacity
    linarith

/-- The tokens a bucket would hold had it been filled at its rate since time zero. -/
def RateLimitBucket.potential (row : RateLimitBucket) : Rat :=
  row.tokens - secondsBetween 0 row.lastRefillAt * row.refillRatePerSec

/-- Time is counted from any origin. -/
theorem secondsBetween_split (earlier later : Timestamp) :
    secondsBetween earlier later = secondsBetween 0 later - secondsBetween 0 earlier := by
  unfold secondsBetween
  push_cast
  ring

/-- The potential drops at least by what is granted, whatever the call reads. -/
theorem draws_potential (draws : Draws needed now row next allowed) :
    (if allowed then needed else 0) + next.potential ≤ row.potential := by
  have refill : row.newTokens now ≤
      row.tokens + secondsBetween row.lastRefillAt now * row.refillRatePerSec := newTokens_refill
  rw [secondsBetween_split row.lastRefillAt now, sub_mul] at refill
  cases draws with
  | penalised waits => simp
  | throttled served short =>
    simp only [RateLimitBucket.potential, RateLimitBucket.throttle, Bool.false_eq_true, if_false]
    linarith
  | granted served enough =>
    simp only [RateLimitBucket.potential, RateLimitBucket.deduct, if_true]
    linarith

end Draw

section Sequence

/-- A call of the function, with its reading of the clock. -/
structure Draft where
  needed : Rat
  now : Timestamp

/-- An answer TRUE. -/
structure Grant where
  amount : Rat
  grantedAt : Timestamp

/-- Calls on an existing bucket, one after the other. -/
def serve (row : RateLimitBucket) (call : Draft) : Option (RateLimitBucket × List Grant) :=
  let (stored, allowed) := atomicTokenDeduct call.needed call.now (some row)
  stored.map fun next => (next, if allowed then [⟨call.needed, call.now⟩] else [])

/-- No call asks for a negative amount. -/
def Asks (_ : RateLimitBucket) (call : Draft) : Prop := 0 ≤ call.needed

instance (row : RateLimitBucket) (call : Draft) : Decidable (Asks row call) :=
  inferInstanceAs (Decidable (0 ≤ call.needed))

/-- The total amount granted. -/
def granted (history : List Grant) : Rat := Spending.spent Grant.amount history

/-- A call draws from the row and is granted, or not. -/
theorem serve_draws {row next : RateLimitBucket} {call : Draft} {observed : List Grant}
    (served : serve row call = some (next, observed)) :
    ∃ allowed, Draws call.needed call.now row next allowed ∧
      observed = if allowed then [⟨call.needed, call.now⟩] else [] := by
  simp only [serve, atomicTokenDeduct, Option.map_some, Option.some.injEq,
    Prod.mk.injEq] at served
  obtain ⟨rfl, rfl⟩ := served
  exact ⟨_, draw_cases rfl, rfl⟩

variable {start row : RateLimitBucket} {history : List Grant}

/-- No call changes the settings of a bucket. -/
theorem run_settings (run : Run (takes serve Asks) start history row) :
    row.capacity = start.capacity ∧ row.refillRatePerSec = start.refillRatePerSec := by
  apply run.invariant (fun _ row =>
    row.capacity = start.capacity ∧ row.refillRatePerSec = start.refillRatePerSec)
  · exact ⟨rfl, rfl⟩
  · intro _ _ _ _ _ same taken
    obtain ⟨call, -, served⟩ := taken
    obtain ⟨allowed, draws, -⟩ := serve_draws served
    have kept := draws_settings draws
    exact ⟨kept.1.trans same.1, kept.2.trans same.2⟩

/-- None fills it beyond its capacity. -/
theorem run_capacity (within : start.tokens ≤ start.capacity)
    (run : Run (takes serve Asks) start history row) : row.tokens ≤ row.capacity := by
  apply run.invariant (fun _ row => row.tokens ≤ row.capacity)
  · exact within
  · intro _ _ _ _ _ within taken
    obtain ⟨call, asks, served⟩ := taken
    obtain ⟨allowed, draws, -⟩ := serve_draws served
    exact draws_capacity asks within draws

/-- The potential pays for all that is granted. -/
theorem run_potential (run : Run (takes serve Asks) start history row) :
    granted history + row.potential ≤ start.potential := by
  apply Spending.run_spent RateLimitBucket.potential _ run
  intro _ observed row next _ taken
  obtain ⟨call, -, served⟩ := taken
  obtain ⟨allowed, draws, rfl⟩ := serve_draws served
  have paid := draws_potential draws
  cases allowed with
  | false => exact paid
  | true => rwa [if_pos rfl, Spending.spent_singleton]

/-- A grant leaves the bucket with what it did not take, so its reading bounds the
potential left behind. -/
theorem granted_potential {needed : Rat} {now : Timestamp} {next : RateLimitBucket}
    (draws : Draws needed now row next true) :
    -(secondsBetween 0 now * row.refillRatePerSec) ≤ next.potential := by
  cases draws with
  | granted served enough =>
    simp only [RateLimitBucket.potential, RateLimitBucket.deduct]
    linarith

/-- At every grant, all that was granted is within what the bucket held and was refilled. -/
def Covered (start : RateLimitBucket) (history : List Grant) : Prop :=
  ∀ (earlier later : List Grant) (grant : Grant), history = earlier ++ grant :: later →
    granted (earlier ++ [grant]) ≤ start.tokens +
      start.refillRatePerSec * secondsBetween start.lastRefillAt grant.grantedAt

/-- All grants are covered. -/
theorem run_covered (run : Run (takes serve Asks) start history row) : Covered start history := by
  apply run.invariant (fun history _ => Covered start history)
  · intro earlier later grant split
    simp at split
  · intro history observed row next before covered taken
    obtain ⟨call, asks, served⟩ := taken
    obtain ⟨allowed, draws, rfl⟩ := serve_draws served
    cases allowed with
    | false => simpa using covered
    | true =>
      intro earlier later grant split
      rw [if_pos rfl] at split
      rcases snoc_split split with ⟨rfl, rfl, rfl⟩ | ⟨between, rfl, old⟩
      · -- The new grant: all that was granted is paid for by the potential that is gone.
        have paid : granted (history ++ [⟨call.needed, call.now⟩]) + next.potential ≤
            start.potential := run_potential (before.step ⟨call, asks, served⟩)
        have left := granted_potential draws
        rw [(run_settings before).2] at left
        rw [secondsBetween_split start.lastRefillAt]
        unfold RateLimitBucket.potential at paid left
        linarith
      · exact covered earlier between grant old

/-- A bucket holds at most its capacity, and all its grants are covered. -/
theorem bucket_never_overgrants (within : start.tokens ≤ start.capacity)
    (run : Run (takes serve Asks) start history row) :
    row.tokens ≤ start.capacity ∧ Covered start history := by
  have capacity : row.tokens ≤ row.capacity := run_capacity within run
  exact ⟨(run_settings run).1 ▸ capacity, run_covered run⟩

/-- Two tokens, refilled by one each second. -/
def pairBucket : RateLimitBucket where
  tokens := 2
  capacity := 2
  refillRatePerSec := 1
  lastRefillAt := 1000000
  throttledUntil := none
  consecutiveThrottles := 0

/-- The second call began before the first and waited for the lock. -/
def waitingCalls : List Draft := [⟨1, 1500000⟩, ⟨1 / 2, 1250000⟩, ⟨3, 1750000⟩]

/-- This holds of the sample, whose clock runs backwards. -/
theorem bucket_never_overgrants_backwards :
    ∃ row history, Run (takes serve Asks) pairBucket history row ∧
      granted history = 3 / 2 ∧ row.tokens ≤ 2 ∧ Covered pairBucket history := by
  have run : Run (takes serve Asks) pairBucket _ _ :=
    run_of_restricted waitingCalls (by decide +kernel)
  exact ⟨_, _, run, by decide +kernel, bucket_never_overgrants (by decide +kernel) run⟩

end Sequence

end PlanBuddy.RateLimits
