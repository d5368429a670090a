import PlanBuddy.TokenBucket
import PlanBuddy.WorkerSlots

/-!
# The calls to a provider and its tokens

The workers of all queues that call one provider share its bucket. A poll draws one token,
and then claims a batch; processing an item calls the provider.
-/

namespace PlanBuddy.Workers

open RateLimits (RateLimitBucket Timestamp Grant atomicTokenDeduct Covered granted secondsBetween)

section Model

/-- A worker of a rate-limited queue. -/
structure Member where
  config : Config
  worker : Worker
  rateLimited : config.rateLimited = true

/-- The bucket of a provider and the workers that share it, with the number of tokens
deducted from it and of items whose processing has started. -/
structure Provider where
  bucket : RateLimitBucket
  members : List Member
  deducted : Nat
  calls : Nat

inductive ProviderAction
  | join (config : Config) (rateLimited : config.rateLimited = true)
  /-- `acquireRateLimit` for a poll, with the reading of the clock. -/
  | draw (position index : Nat) (now : Timestamp)
  | move (position : Nat) (action : Action)

def moveMember (position : Nat) (action : Action) (provider : Provider) : Option Provider := do
  let member ← provider.members[position]?
  let (worker, observed) ← step member.config member.worker action
  some { provider with
    members := provider.members.set position { member with worker }
    calls := provider.calls + started observed }

/-- A move of the loop that waits for no answer of the bucket. -/
def freeAction : Action → Bool
  | .acquireRateLimit _ _ => false
  | _ => true

/-- What is observed are the grants of the bucket. -/
def provide (provider : Provider) : ProviderAction → Option (Provider × List Grant)
  | .join config rateLimited =>
    some ({ provider with
      members := provider.members ++ [⟨config, .listening, rateLimited⟩] }, [])
  | .draw position index now => do
    let (stored, allowed) := atomicTokenDeduct 1 now (some provider.bucket)
    let bucket ← stored
    let next ← moveMember position (.acquireRateLimit index allowed) provider
    some ({ next with bucket, deducted := next.deducted + if allowed then 1 else 0 },
      if allowed then [⟨1, now⟩] else [])
  | .move position action =>
    if freeAction action then (moveMember position action provider).map fun next => (next, [])
    else none

end Model

section Payment

/-- The items that may still be started on the claims in flight. -/
def Provider.claims (provider : Provider) : Nat :=
  Parties.shares (fun member => member.worker.claims) provider.members

/-- A poll that computes its slots asks for no more than the tokens deducted so far leave
beside the items started and the claims in flight. -/
def Paid (provider : Provider) : ProviderAction → Prop
  | .move position action => ∀ member ∈ provider.members[position]?,
    seeks member.config member.worker action = true →
      provider.calls + provider.claims + asked member.config member.worker action ≤
        provider.deducted
  | _ => True

instance (provider : Provider) (action : ProviderAction) : Decidable (Paid provider action) :=
  match action with
  | .move position action => inferInstanceAs (Decidable (∀ member ∈ provider.members[position]?,
      seeks member.config member.worker action = true → _ ≤ _))
  | .join _ _ | .draw _ _ _ => .isTrue trivial

variable {provider next : Provider} {observed history : List Grant} {position : Nat}
  {action : Action}

/-- A step is one of a member. -/
theorem moveMember_cases (moved : moveMember position action provider = some next) :
    ∃ member worker seen, provider.members[position]? = some member ∧
      step member.config member.worker action = some (worker, seen) ∧
      next = { provider with
        members := provider.members.set position { member with worker }
        calls := provider.calls + started seen } := by
  simp only [moveMember, Option.bind_eq_bind, Option.bind_eq_some_iff, Prod.exists,
    Option.some.injEq] at moved
  obtain ⟨member, stored, worker, seen, stepped, rfl⟩ := moved
  exact ⟨member, worker, seen, stored, stepped, rfl⟩

/-- Items are started out of claims, and claims come out of what is asked for. -/
theorem moveMember_claims (amount : Nat)
    (asks : ∀ member ∈ provider.members[position]?,
      asked member.config member.worker action ≤ amount)
    (moved : moveMember position action provider = some next) :
    next.calls + next.claims ≤ provider.calls + provider.claims + amount ∧
      next.deducted = provider.deducted ∧ next.bucket = provider.bucket := by
  obtain ⟨member, worker, seen, stored, stepped, rfl⟩ := moveMember_cases moved
  have shares : Parties.shares (fun member => member.worker.claims)
      (provider.members.set position { member with worker }) + member.worker.claims =
        provider.claims + worker.claims := Parties.shares_set _ stored
  obtain ⟨claims, -⟩ := step_slots stepped
  have bound := asks member stored
  refine ⟨?_, rfl, rfl⟩
  simp only [Provider.claims] at shares ⊢
  omega

/-- A member that seeks no slots asks for no token. -/
theorem unsought_asked {config : Config} {worker : Worker}
    (unsought : ¬ seeks config worker action = true) : asked config worker action = 0 :=
  if_neg unsought

/-- All that a step can do: what it does to the bucket, and what it asks for. -/
theorem provide_cases {step : ProviderAction}
    (provided : provide provider step = some (next, observed)) :
    (next.bucket = provider.bucket ∧ next.deducted = provider.deducted ∧ observed = [] ∧
        (Paid provider step → provider.calls + provider.claims ≤ provider.deducted →
          next.calls + next.claims ≤ provider.deducted)) ∨
      ∃ now allowed, provider.bucket.draw 1 now = (next.bucket, allowed) ∧
        next.deducted = provider.deducted + (if allowed then 1 else 0) ∧
        observed = (if allowed then [⟨1, now⟩] else []) ∧
        next.calls + next.claims ≤ provider.calls + provider.claims := by
  cases step with
  | join config rateLimited =>
    cases provided
    refine .inl ⟨rfl, rfl, rfl, ?_⟩
    intro _ bounded
    have joined : Parties.shares (fun member => member.worker.claims)
        (provider.members ++ [⟨config, .listening, rateLimited⟩]) = provider.claims + 0 :=
      Parties.shares_append _
    simp only [Provider.claims] at joined bounded ⊢
    omega
  | draw position index now =>
    simp only [provide, atomicTokenDeduct, Option.bind_eq_bind, Option.bind_some,
      Option.bind_eq_some_iff, Option.some.injEq, Prod.mk.injEq] at provided
    obtain ⟨moved, move, rfl, rfl⟩ := provided
    obtain ⟨claims, deducted, -⟩ := moveMember_claims 0 (by
      intro member _
      exact (unsought_asked (by simp [seeks])).le) move
    exact .inr ⟨now, (provider.bucket.draw 1 now).2, rfl, congrArg (· + _) deducted, rfl, claims⟩
  | move position action =>
    simp only [provide, Option.ite_none_right_eq_some, Option.map_eq_some_iff, Prod.mk.injEq]
      at provided
    obtain ⟨-, moved, move, rfl, rfl⟩ := provided
    obtain ⟨member, worker, seen, stored, stepped, same⟩ := moveMember_cases move
    obtain ⟨claims, deducted, bucket⟩ := moveMember_claims
      (asked member.config member.worker action) (by
        intro other found
        rw [Option.mem_def, stored, Option.some.injEq] at found
        rw [found]) move
    refine .inl ⟨bucket, deducted, rfl, ?_⟩
    intro paid bounded
    by_cases sought : seeks member.config member.worker action = true
    · have budget := paid member stored sought
      omega
    · rw [unsought_asked sought] at claims
      omega

/-- Every token was deducted by a call of the function, and pays for one item. -/
structure Funded (bucket : RateLimitBucket) (history : List Grant) (provider : Provider) :
    Prop where
  drawn : Run (takes RateLimits.serve RateLimits.Asks) bucket history provider.bucket
  counted : granted history = provider.deducted
  covered : provider.calls + provider.claims ≤ provider.deducted

variable {bucket : RateLimitBucket}

/-- All tokens of a run are funded. -/
theorem run_funded (run : Run (takes provide Paid) ⟨bucket, [], 0, 0⟩ history provider) :
    Funded bucket history provider := by
  apply run.invariant (Funded bucket)
  · exact ⟨.start, by simp [granted], Nat.le_refl _⟩
  · intro history observed provider next _ funded taken
    obtain ⟨step, paid, provided⟩ := taken
    rcases provide_cases provided with
      ⟨bucketKept, deductedKept, rfl, covers⟩ | ⟨now, allowed, drawn, deducted, rfl, covers⟩
    · rw [List.append_nil]
      refine ⟨bucketKept ▸ funded.drawn, ?_, ?_⟩
      · rw [deductedKept, funded.counted]
      · rw [deductedKept]
        exact covers paid funded.covered
    · refine ⟨funded.drawn.step ⟨⟨1, now⟩, zero_le_one, ?_⟩, ?_, ?_⟩
      · simp [RateLimits.serve, atomicTokenDeduct, drawn]
      · rw [granted, Spending.spent_append, ← granted, funded.counted, deducted]
        cases allowed <;> simp [Spending.spent]
      · have before := funded.covered
        rw [deducted]
        omega

end Payment

section Serving

variable {provider next : Provider} {observed history : List Grant}

/-- To serve under a limit costs no token. -/
theorem serves_free {limit : Nat} {action : Action} (serves : Serves limit action) :
    freeAction action = true := by
  cases action with
  | selectDrain | claim | resume => rfl
  | start | wakeup | timeout | acquireRateLimit | finish | stop | drain | deregister => cases serves

/-- What serves the claims of one worker serves them among the others. -/
theorem member_serves {position limit : Nat} {member : Member} {seen : List Event} {worker : Worker}
    (stored : provider.members[position]? = some member)
    (run : Run (takes (step member.config) fun _ => Serves limit) member.worker seen worker) :
    Run (takes provide anyAction) provider [] { provider with
      members := provider.members.set position { member with worker }
      calls := provider.calls + started seen } := by
  induction run with
  | start =>
    have same : provider.members.set position member = provider.members := by
      obtain ⟨bound, rfl⟩ := List.getElem?_eq_some_iff.mp stored
      exact List.set_getElem_self bound
    rw [same]
    exact .start
  | @step seen observed before after _ taken inductionHypothesis =>
    obtain ⟨action, serves, stepped⟩ := taken
    refine inductionHypothesis.step ⟨.move position action, trivial, ?_⟩
    have found := Parties.set_moved { member with worker := before } stored
    simp [provide, serves_free serves, moveMember, found, stepped, started, Spending.spent_append,
      Nat.add_assoc]

/-- All claims in flight can be served, with no further token. -/
theorem claims_served (provider : Provider) :
    ∃ final, Run (takes provide anyAction) provider [] final ∧
      final.calls = provider.calls + provider.claims ∧ final.deducted = provider.deducted := by
  rcases Nat.eq_zero_or_pos provider.claims with none | some
  · exact ⟨provider, .start, by omega, rfl⟩
  · obtain ⟨member, belongs, asks⟩ := Parties.exists_share some
    obtain ⟨position, stored⟩ := List.mem_iff_getElem?.mp belongs
    obtain ⟨seen, worker, run, starts, -, claims⟩ :
      Returns member.config 0 member.worker.claims member.worker := claims_return member.worker
    let served : Provider := { provider with
      members := provider.members.set position { member with worker }
      calls := provider.calls + started seen }
    have shares : served.claims + member.worker.claims = provider.claims + worker.claims :=
      Parties.shares_set _ stored
    have fewer : served.claims < provider.claims := by omega
    obtain ⟨final, rest, calls, deducted⟩ := claims_served served
    refine ⟨final, (member_serves stored run).trans rest, ?_, deducted⟩
    rw [calls]
    show provider.calls + started seen + served.claims = _
    omega
termination_by provider.claims

/-- Where a poll's batch is not paid for, it brings the claims beyond the tokens. -/
theorem unpaid_claims {step : ProviderAction} (unpaid : ¬ Paid provider step)
    (provided : provide provider step = some (next, observed)) :
    next.deducted < next.calls + next.claims := by
  cases step with
  | join | draw => exact absurd trivial unpaid
  | move position action =>
    simp only [provide, Option.ite_none_right_eq_some, Option.map_eq_some_iff, Prod.mk.injEq]
      at provided
    obtain ⟨-, moved, move, rfl, rfl⟩ := provided
    obtain ⟨member, worker, seen, stored, stepped, rfl⟩ := moveMember_cases move
    have shares : Parties.shares (fun member => member.worker.claims)
        (provider.members.set position { member with worker }) + member.worker.claims =
          provider.claims + worker.claims := Parties.shares_set _ stored
    simp only [Paid, stored, Option.mem_def, Option.some.injEq, forall_eq', Classical.not_imp,
      not_le] at unpaid
    obtain ⟨sought, beyond⟩ := unpaid
    obtain ⟨-, claims, nothing⟩ := step_asks sought stepped
    simp only [Provider.claims] at shares beyond ⊢
    omega

variable {bucket : RateLimitBucket}

/-- Where every batch is paid for, the items started never exceed the tokens deducted, nor
what the bucket held and was refilled by the last of its grants. A batch that is not paid
for can be served, with all others, to exceed them. -/
theorem provider_calls_covered (run : Run (takes provide Paid) ⟨bucket, [], 0, 0⟩ history provider) :
    provider.calls ≤ provider.deducted ∧
      (∀ earlier last, history = earlier ++ [last] → (provider.calls : Rat) ≤
        bucket.tokens + bucket.refillRatePerSec *
          secondsBetween bucket.lastRefillAt last.grantedAt) ∧
      ∀ (step : ProviderAction) (next : Provider) (observed : List Grant),
        provide provider step = some (next, observed) → ¬ Paid provider step →
          ∃ later final, Run (takes provide anyAction) next later final ∧
            final.deducted < final.calls := by
  have funded : Funded bucket history provider := run_funded run
  have covered : provider.calls ≤ provider.deducted :=
    (Nat.le_add_right _ _).trans funded.covered
  refine ⟨covered, ?_, ?_⟩
  · intro earlier last split
    have refilled := RateLimits.run_covered funded.drawn earlier [] last split
    rw [← split, funded.counted] at refilled
    calc (provider.calls : Rat) ≤ provider.deducted := by exact_mod_cast covered
      _ ≤ _ := refilled
  · intro step next observed provided unpaid
    obtain ⟨final, served, calls, deducted⟩ := claims_served next
    have beyond := unpaid_claims unpaid provided
    exact ⟨_, final, served, by omega⟩

/-- The bucket of a provider as it is created, full. -/
def fullBucket : RateLimitBucket where
  tokens := 100
  capacity := 100
  refillRatePerSec := 20
  lastRefillAt := 0
  throttledUntil := none
  consecutiveThrottles := 0

/-- A poll of the only worker, with `count` free slots, that claims as many items. -/
def pollOnce (count : Nat) : List ProviderAction :=
  [.join refundConfig rfl, .move 0 .start, .move 0 (.timeout true 3), .draw 0 0 1000000,
    .move 0 (.resume 0 count), .move 0 (.selectDrain 0 (some false)), .move 0 (.resume 0 count),
    .move 0 (.claim 0 (some count)), .move 0 (.resume 0 count)]

/-- One token pays for a batch of three. -/
theorem batch_exceeds_token :
    ∃ history provider, Run (takes provide anyAction) ⟨fullBucket, [], 0, 0⟩ history provider ∧
      provider.deducted = 1 ∧ provider.calls = 3 := by
  have run : Run (takes provide anyAction) ⟨fullBucket, [], 0, 0⟩ _ _ :=
    run_of_schedule (pollOnce 3) (by decide +kernel)
  exact ⟨_, _, run, by decide +kernel, by decide +kernel⟩

/-- A batch of one is covered. -/
theorem provider_calls_covered_single :
    ∃ history provider, Run (takes provide Paid) ⟨fullBucket, [], 0, 0⟩ history provider ∧
      provider.calls = 1 ∧ provider.calls ≤ provider.deducted := by
  have run : Run (takes provide Paid) ⟨fullBucket, [], 0, 0⟩ _ _ :=
    run_of_restricted (pollOnce 1) (by decide +kernel)
  exact ⟨_, _, run, by decide +kernel, (provider_calls_covered run).1⟩

end Serving

end PlanBuddy.Workers
