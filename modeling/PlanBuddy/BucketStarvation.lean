import Mathlib.Algebra.Order.Field.Basic
import PlanBuddy.BucketTransactions

/-!
# How long a bucket refuses

After more than five refusals in a row `atomic_token_deduct` refuses everything for thirty
seconds, and then looks at the tokens again. Refused calls leave the refill in the bucket, and
the penalty does not stop it; so refusals come to an end: once enough time has passed since the
last grant for the largest amount to be refilled, only the penalty of an earlier refusal is
left.

The calls read times that are not before the last refill, as they do when no transaction waits
for one that began later.
-/

namespace PlanBuddy.RateLimits

section Refusals

/-- An answer of the function, with the time that the call read. -/
structure Answer where
  needed : Rat
  now : Timestamp
  allowed : Bool
deriving DecidableEq

/-- Calls on an existing bucket, one after the other. -/
def answer (row : RateLimitBucket) (call : Draft) : Option (RateLimitBucket × List Answer) :=
  let (stored, allowed) := atomicTokenDeduct call.needed call.now (some row)
  stored.map fun next => (next, [⟨call.needed, call.now, allowed⟩])

/-- A call asks for no more than the largest amount, and reads no time before the refill. -/
def Modest (largest : Rat) (row : RateLimitBucket) (call : Draft) : Prop :=
  call.needed ≤ largest ∧ row.lastRefillAt ≤ call.now

instance (largest : Rat) (row : RateLimitBucket) (call : Draft) :
    Decidable (Modest largest row call) :=
  inferInstanceAs (Decidable (_ ∧ _))

/-- When the last grant was, or the start. -/
def lastGrant (start : Timestamp) (history : List Answer) : Timestamp :=
  history.foldl (fun last answer => if answer.allowed then answer.now else last) start

/-- The last grant of a longer history. -/
theorem lastGrant_snoc (start : Timestamp) (history : List Answer) (answer : Answer) :
    lastGrant start (history ++ [answer]) =
      if answer.allowed then answer.now else lastGrant start history := by
  rw [lastGrant, List.foldl_append]
  rfl

variable {largest : Rat} {since now : Timestamp} {row next : RateLimitBucket} {needed : Rat}
  {allowed : Bool}

/-- What is refilled is in the bucket, and no penalty outlasts the refusal that set it. -/
structure Filling (largest : Rat) (since : Timestamp) (row : RateLimitBucket) : Prop where
  filled : min row.capacity (secondsBetween since row.lastRefillAt * row.refillRatePerSec) ≤
    row.tokens
  penalty : ∀ throttledUntil, row.throttledUntil = some throttledUntil →
    secondsBetween since throttledUntil * row.refillRatePerSec <
      largest + 30 * row.refillRatePerSec

/-- Time adds up. -/
theorem secondsBetween_add (earlier between later : Timestamp) :
    secondsBetween earlier between + secondsBetween between later =
      secondsBetween earlier later := by
  unfold secondsBetween
  push_cast
  ring

/-- What has been refilled since the last grant is there at the next call. -/
theorem Filling.newTokens (filling : Filling largest since row) (rate : 0 ≤ row.refillRatePerSec)
    (forward : row.lastRefillAt ≤ now) :
    min row.capacity (secondsBetween since now * row.refillRatePerSec) ≤ row.newTokens now := by
  have refill : 0 ≤ secondsBetween row.lastRefillAt now * row.refillRatePerSec :=
    mul_nonneg (secondsBetween_nonneg forward) rate
  rw [← secondsBetween_add since row.lastRefillAt now, add_mul]
  refine le_min (min_le_left ..) ?_
  rcases min_cases row.capacity (secondsBetween since row.lastRefillAt * row.refillRatePerSec) with
    ⟨least, -⟩ | ⟨least, -⟩
  · refine le_trans (min_le_left ..) ?_
    linarith [least ▸ filling.filled]
  · refine le_trans (min_le_right ..) ?_
    linarith [least ▸ filling.filled]

/-- A call that is refused for want of tokens comes before the largest amount is refilled. -/
theorem Filling.short (filling : Filling largest since row) (rate : 0 ≤ row.refillRatePerSec)
    (fits : largest ≤ row.capacity) (modest : needed ≤ largest)
    (forward : row.lastRefillAt ≤ now) (short : row.newTokens now < needed) :
    secondsBetween since now * row.refillRatePerSec < largest := by
  have there := filling.newTokens rate forward
  by_contra enough
  have : largest ≤ min row.capacity (secondsBetween since now * row.refillRatePerSec) :=
    le_min fits (le_of_not_gt enough)
  linarith

/-- The penalty takes thirty seconds. -/
theorem seconds_penalty : secondsBetween now (now + penalty) = 30 := by
  simp [secondsBetween, penalty]
  norm_num

/-- What a call leaves of this, and that it is not refused for long. -/
theorem draws_filling (filling : Filling largest since row) (rate : 0 < row.refillRatePerSec)
    (fits : largest ≤ row.capacity) (modest : needed ≤ largest)
    (forward : row.lastRefillAt ≤ now) (draws : Draws needed now row next allowed) :
    Filling largest (if allowed then now else since) next ∧
      (allowed = false → secondsBetween since now * row.refillRatePerSec <
        largest + 30 * row.refillRatePerSec) := by
  cases draws with
  | penalised waits =>
    refine ⟨filling, fun _ => ?_⟩
    simp only [RateLimitBucket.penalised, Option.any_eq_true, decide_eq_true_eq] at waits
    obtain ⟨throttledUntil, set, later⟩ := waits
    have rest : 0 ≤ secondsBetween now throttledUntil * row.refillRatePerSec :=
      mul_nonneg (secondsBetween_nonneg later.le) rate.le
    have penalty := filling.penalty throttledUntil set
    rw [← secondsBetween_add since now, add_mul] at penalty
    linarith
  | throttled served short =>
    have early := filling.short rate.le fits modest forward short
    refine ⟨⟨filling.newTokens rate.le forward, fun throttledUntil set => ?_⟩, fun _ => ?_⟩
    · simp only [RateLimitBucket.throttle, Option.ite_none_right_eq_some,
        Option.some.injEq] at set
      obtain ⟨-, rfl⟩ := set
      simp only [RateLimitBucket.throttle, Bool.false_eq_true, if_false]
      rw [← secondsBetween_add since now, seconds_penalty, add_mul]
      linarith
    · linarith
  | granted served enough =>
    refine ⟨⟨?_, by rintro _ ⟨⟩⟩, by rintro ⟨⟩⟩
    have zero : secondsBetween now now = 0 := by simp [secondsBetween]
    simp only [RateLimitBucket.deduct, if_true, zero, zero_mul]
    exact le_trans (min_le_right ..) (sub_nonneg.mpr enough)

end Refusals

section Runs

variable {largest : Rat} {start row : RateLimitBucket} {history : List Answer}

/-- At every refusal, the last grant is not long ago. -/
def RefusedBriefly (largest : Rat) (start : RateLimitBucket) (history : List Answer) : Prop :=
  ∀ (earlier later : List Answer) (refusal : Answer), history = earlier ++ refusal :: later →
    refusal.allowed = false →
      secondsBetween (lastGrant start.lastRefillAt earlier) refusal.now <
        largest / start.refillRatePerSec + 30

structure Refilled (largest : Rat) (start : RateLimitBucket) (history : List Answer)
    (row : RateLimitBucket) : Prop where
  settings : row.capacity = start.capacity ∧ row.refillRatePerSec = start.refillRatePerSec
  filling : Filling largest (lastGrant start.lastRefillAt history) row
  brief : RefusedBriefly largest start history

/-- A run of modest calls refills the bucket. -/
theorem run_refilled (rate : 0 < start.refillRatePerSec) (fits : largest ≤ start.capacity)
    (tokens : 0 ≤ start.tokens) (served : start.throttledUntil = none)
    (run : Run (takes answer (Modest largest)) start history row) :
    Refilled largest start history row := by
  refine run.invariant (Refilled largest start) ⟨⟨rfl, rfl⟩, ⟨?_, ?_⟩, ?_⟩ ?_
  · have zero : secondsBetween start.lastRefillAt start.lastRefillAt = 0 := by
      simp [secondsBetween]
    simp only [lastGrant, List.foldl_nil, zero, zero_mul]
    exact le_trans (min_le_right ..) tokens
  · intro throttledUntil set
    rw [served] at set
    cases set
  · intro earlier later refusal split
    simp at split
  · rintro history observed row next - ⟨settings, filling, brief⟩ ⟨call, modest, taken⟩
    simp only [answer, atomicTokenDeduct, Option.map_some, Option.some.injEq,
      Prod.mk.injEq] at taken
    obtain ⟨rfl, rfl⟩ := taken
    have draws : Draws call.needed call.now row _ _ := draw_cases rfl
    have kept := draws_settings draws
    obtain ⟨filled, early⟩ := draws_filling filling (settings.2 ▸ rate) (settings.1 ▸ fits)
      modest.1 modest.2 draws
    refine ⟨⟨kept.1.trans settings.1, kept.2.trans settings.2⟩, ?_, ?_⟩
    · rw [lastGrant_snoc]
      exact filled
    · intro earlier later refusal split refused
      rcases snoc_split split with ⟨rfl, rfl, rfl⟩ | ⟨between, rfl, old⟩
      · have bound := early refused
        rw [settings.2] at bound
        rw [← sub_lt_iff_lt_add, lt_div_iff₀ rate, sub_mul]
        linarith
      · exact brief earlier between refusal old refused

/-- A bucket that refuses has granted a call, or was filled for the first time, less than
thirty seconds and the time to refill the largest amount ago. -/
theorem refusals_end (rate : 0 < start.refillRatePerSec) (fits : largest ≤ start.capacity)
    (tokens : 0 ≤ start.tokens) (served : start.throttledUntil = none)
    (run : Run (takes answer (Modest largest)) start history row) :
    RefusedBriefly largest start history :=
  (run_refilled rate fits tokens served run).brief

/-- Two tokens, then ten calls for two more within a second, and one within the penalty. -/
def eagerCalls : List Draft :=
  ((List.range 11).map fun index => ⟨2, 1000000 + index * 100000⟩) ++ [⟨2, 31500000⟩]

/-- A bucket with tokens may refuse, briefly. -/
theorem refused_with_tokens :
    ∃ history row, Run (takes answer (Modest 2)) pairBucket history row ∧
      history.getLast? = some ⟨2, 31500000, false⟩ ∧
      lastGrant pairBucket.lastRefillAt history = 1000000 ∧ RefusedBriefly 2 pairBucket history := by
  have run : Run (takes answer (Modest 2)) pairBucket _ _ :=
    run_of_restricted eagerCalls (by decide +kernel)
  exact ⟨_, _, run, by decide +kernel, by decide +kernel,
    refusals_end (by decide +kernel) (by decide +kernel) (by decide +kernel) rfl run⟩

end Runs

end PlanBuddy.RateLimits
