import Mathlib.Algebra.BigOperators.Group.Finset.Basic
import Mathlib.Algebra.Order.BigOperators.Group.Finset
import PlanBuddy.FixedWindow
import PlanBuddy.MiddlewareStack

/-!
# The rate limiters of a fleet

`middleware/rateLimit.js`. Each limiter makes its store when the module is loaded: one in Redis
if the client is ready by then, and otherwise one in the memory of the process, which it keeps.
So the processes that were loaded too early count for themselves, and the limit of a client is
multiplied by their number. A limiter that fails closed still asks for Redis before it counts.

The stores of `express-rate-limit` and `rate-limit-redis` are what `FixedWindow.Store` promises,
and the middleware between a store and the route is what `RateLimit` promises. All the stores of
the fleet are one, whose keys say where a counter is, and they have one clock. A command to Redis
may fail, whether it was executed or not; the request then goes to the error handler. The texts
of the answers and the metrics are left out.
-/

namespace PlanBuddy.RateLimiters

open FixedWindow MiddlewareStack

section Limiters

/-- What `ioredis` reports of a client. -/
inductive Status where
  | wait
  | connecting
  | connect
  | ready
  | reconnecting
  | close
  | ended
deriving DecidableEq

/-- The client, if there is one. -/
def isRedisReady (redisClient : Option Status) : Bool := decide (redisClient = some .ready)

/-- What a limiter looks at. The path is the one below the mount. -/
structure Arrival where
  path : Path
  originalUrl : Path
  ip : String
  userId : Option String
deriving DecidableEq

/-- What `makeLimiter` is called with. -/
structure Options where
  name : String
  windowMs : Nat
  max : Nat
  byUser : Bool
  failClosed : Bool
  skipsWebhook : Bool

/-- The limiters of the module. `adminReconcile` is another name of the admin limiter. -/
inductive Limiter where
  | global
  | auth
  | booking
  | verifyPayment
  | webhook
  | admin
  | idempotencyConflict
deriving DecidableEq

/-- The limits of each, and the paths that it leaves to another one. -/
def Limiter.options : Limiter → Options
  | .global => ⟨"global", 15 * 60 * 1000, 500, false, false, true⟩
  | .auth => ⟨"auth", 15 * 60 * 1000, 20, false, true, false⟩
  | .booking => ⟨"booking", 60 * 1000, 10, true, false, false⟩
  | .verifyPayment => ⟨"verify-payment", 60 * 1000, 10, true, true, false⟩
  | .webhook => ⟨"webhook", 60 * 1000, 100, false, true, false⟩
  | .admin => ⟨"admin", 15 * 60 * 1000, 100, true, false, false⟩
  | .idempotencyConflict => ⟨"idempotency_conflict", 5 * 60 * 1000, 3, false, false, false⟩

/-- Where a counter is. -/
inductive Place where
  | redis
  | memory (process : Nat)
deriving DecidableEq

/-- The key of a counter: its limiter is the name in the prefix of the keys in Redis. -/
structure CounterKey where
  place : Place
  limiter : Limiter
  client : String
deriving DecidableEq

/-- A counter counts over the window of its limiter. -/
def CounterKey.windowMs (key : CounterKey) : Nat := key.limiter.options.windowMs

/-- `makeRedisStore`, called when a process loads the module. -/
def makeRedisStore (clientAtLoad : Nat → Option Status) (process : Nat) : Place :=
  if isRedisReady (clientAtLoad process) then .redis else .memory process

/-- `ipKey` and `userKey`. An empty id is falsy. -/
def Options.keyGenerator (options : Options) (ipKeyGenerator : String → String)
    (arrival : Arrival) : String :=
  let byIp := ipKeyGenerator arrival.ip
  if options.byUser then (arrival.userId.filter fun id => decide (id ≠ "")).getD byIp else byIp

/-- `skip`, with the predicate of `extraSkip`. -/
def Options.skip (options : Options) (arrival : Arrival) : Bool :=
  isBypassPath arrival.path arrival.originalUrl ||
    (options.skipsWebhook && isWebhookPath arrival.path arrival.originalUrl)

end Limiters

section Middleware

universe u
variable {σ : Type u}

/-- How a command to the store ends. -/
inductive Reply where
  | answered
  | refused
  | lost
deriving DecidableEq

/-- How the middleware goes on: with `next()`, with `handler`, or with `next(error)`. -/
inductive Outcome where
  | next
  | tooMany
  | error
deriving DecidableEq

/-- The middleware that `rateLimit` of `express-rate-limit` returns for a limit, given what `skip`
answers, with what it promises. A request that is skipped goes on and is not counted. Any other one
counts as one hit of its key, and it goes on exactly when the hits are within the limit. Only a
command to Redis can fail. -/
structure RateLimit (store : Store CounterKey σ CounterKey.windowMs) where
  limiter (max : Nat) (skip : Bool) (counters : σ) (key : CounterKey) (now : Time)
    (reply : Reply) : Option (σ × Outcome)
  skips : ∀ max counters key now reply,
    limiter max true counters key now reply = some (counters, .next)
  counts : ∀ max counters key now,
    limiter max false counters key now .answered =
      some ((store.increment counters key now).1,
        if (store.increment counters key now).2 ≤ max then .next else .tooMany)
  refuses : ∀ max counters key now,
    limiter max false counters key now .refused =
      if key.place = .redis then some (counters, .error) else none
  loses : ∀ max counters key now,
    limiter max false counters key now .lost =
      if key.place = .redis then some ((store.increment counters key now).1, .error) else none

/-- A middleware that does this and no more. -/
def RateLimit.plain (store : Store CounterKey σ CounterKey.windowMs) : RateLimit store where
  limiter max skip counters key now reply :=
    let (counted, totalHits) := store.increment counters key now
    match skip, reply with
    | true, _ => some (counters, .next)
    | false, .answered => some (counted, if totalHits ≤ max then .next else .tooMany)
    | false, .refused => if key.place = .redis then some (counters, .error) else none
    | false, .lost => if key.place = .redis then some (counted, .error) else none
  skips _ _ _ _ _ := rfl
  counts _ _ _ _ := rfl
  refuses _ _ _ _ := rfl
  loses _ _ _ _ := rfl

end Middleware

section Fleet

universe u
variable {σ : Type u} {store : Store CounterKey σ CounterKey.windowMs}
  (rateLimit : RateLimit store) (ipKeyGenerator : String → String) (processes : Nat)
  (clientAtLoad : Nat → Option Status)

/-- The clock and the counters of the fleet. -/
structure Fleet (σ : Type u) where
  now : Time
  counters : σ

/-- Time passes, or a request arrives at a limiter of a process, whose client is as it is then. -/
inductive Action where
  | elapse (later : Time)
  | request (process : Nat) (limiter : Limiter) (arrival : Arrival) (client : Option Status)
      (reply : Reply)

/-- What becomes of a request: it is passed on uncounted, it is answered with 503, or the store is
asked for its key. -/
inductive Event where
  | skipped (limiter : Limiter) (arrival : Arrival)
  | unavailable (limiter : Limiter)
  | counted (key : CounterKey) (now : Time) (client : Option Status) (outcome : Outcome)
deriving DecidableEq

/-- `limiter(req, res, next)` -/
def limit (fleet : Fleet σ) (limiter : Limiter) (key : CounterKey) (arrival : Arrival)
    (client : Option Status) (reply : Reply) : Option (Fleet σ × List Event) :=
  let options := limiter.options
  let skip := options.skip arrival
  (rateLimit.limiter options.max skip fleet.counters key fleet.now reply).map
    fun (counters, outcome) =>
      (⟨fleet.now, counters⟩, [if skip then Event.skipped limiter arrival
        else .counted key fleet.now client outcome])

/-- A request meets a limiter that `makeLimiter` has made. One that fails closed is wrapped. -/
def step (fleet : Fleet σ) : Action → Option (Fleet σ × List Event)
  | .elapse later => if fleet.now ≤ later then some (⟨later, fleet.counters⟩, []) else none
  | .request process limiter arrival client reply =>
    let options := limiter.options
    let key : CounterKey := ⟨makeRedisStore clientAtLoad process, limiter,
      options.keyGenerator ipKeyGenerator arrival⟩
    if processes ≤ process then none
    else if !options.failClosed then limit rateLimit fleet limiter key arrival client reply
    else if isBypassPath arrival.path arrival.originalUrl then
      some (fleet, [.skipped limiter arrival])
    else if !isRedisReady client then some (fleet, [.unavailable limiter])
    else limit rateLimit fleet limiter key arrival client reply

/-- One step of the fleet. -/
abbrev steps : Fleet σ → List Event → Fleet σ → Prop :=
  takes (step rateLimit ipKeyGenerator processes clientAtLoad) anyAction

/-- The places where the fleet counts. -/
def places : Finset Place := (Finset.range processes).image (makeRedisStore clientAtLoad)

end Fleet

section Admissions

universe u
variable {σ : Type u} {store : Store CounterKey σ CounterKey.windowMs}
  {rateLimit : RateLimit store} {ipKeyGenerator : String → String} {processes : Nat}
  {clientAtLoad : Nat → Option Status}
  {fleet next : Fleet σ} {history observed : List Event} {limiter : Limiter} {client : String}
  {start : Time}

/-- Where a request of a client was counted and let through, within a window's length. -/
def admission (limiter : Limiter) (client : String) (start : Time) : Event → Option Place
  | .counted key now _ .next =>
    if key.limiter = limiter ∧ key.client = client ∧ start ≤ now ∧
        now < start + limiter.options.windowMs then some key.place
    else none
  | _ => none

/-- The places of all of them, in the order of the requests. -/
def admissions (limiter : Limiter) (client : String) (start : Time) (history : List Event) :
    List Place :=
  history.filterMap (admission limiter client start)

/-- All that one step can do. -/
inductive Steps (store : Store CounterKey σ CounterKey.windowMs) (processes : Nat)
    (clientAtLoad : Nat → Option Status) (fleet : Fleet σ) : Fleet σ → List Event → Prop
  | elapsed (later : Time) (forward : fleet.now ≤ later) :
      Steps store processes clientAtLoad fleet ⟨later, fleet.counters⟩ []
  | skipped (limiter : Limiter) (arrival : Arrival)
      (skips : limiter.options.skip arrival = true) :
      Steps store processes clientAtLoad fleet fleet [.skipped limiter arrival]
  | unavailable (limiter : Limiter) :
      Steps store processes clientAtLoad fleet fleet [.unavailable limiter]
  | refused (key : CounterKey) (status : Option Status)
      (open' : key.limiter.options.failClosed = true → isRedisReady status = true) :
      Steps store processes clientAtLoad fleet fleet [.counted key fleet.now status .error]
  | counted (key : CounterKey) (status : Option Status) (outcome : Outcome)
      (placed : key.place ∈ places processes clientAtLoad)
      (open' : key.limiter.options.failClosed = true → isRedisReady status = true)
      (within : outcome = .next →
        (store.increment fleet.counters key fleet.now).2 ≤ key.limiter.options.max) :
      Steps store processes clientAtLoad fleet
        ⟨fleet.now, (store.increment fleet.counters key fleet.now).1⟩
        [.counted key fleet.now status outcome]

/-- What the middleware makes of a request that reaches it. -/
theorem limit_cases (key : CounterKey) {arrival : Arrival} {status : Option Status} {reply : Reply}
    (placed : key.place ∈ places processes clientAtLoad)
    (open' : key.limiter.options.failClosed = true → isRedisReady status = true)
    (taken : limit rateLimit fleet key.limiter key arrival status reply = some (next, observed)) :
    Steps store processes clientAtLoad fleet next observed := by
  unfold limit at taken
  cases skips : key.limiter.options.skip arrival with
  | true =>
    simp only [skips, rateLimit.skips, Option.map_some, if_true, Option.some.injEq,
      Prod.mk.injEq] at taken
    obtain ⟨rfl, rfl⟩ := taken
    exact .skipped _ _ skips
  | false =>
    cases reply with
    | answered =>
      simp only [skips, rateLimit.counts, Option.map_some, Bool.false_eq_true, if_false,
        Option.some.injEq, Prod.mk.injEq] at taken
      obtain ⟨rfl, rfl⟩ := taken
      refine .counted key status _ placed open' fun passes => ?_
      by_contra more
      rw [if_neg more] at passes
      cases passes
    | refused =>
      simp only [skips, rateLimit.refuses, Bool.false_eq_true, if_false, Option.map_eq_some_iff,
        Option.ite_none_right_eq_some] at taken
      obtain ⟨_, ⟨-, ⟨⟩⟩, ⟨⟩⟩ := taken
      exact .refused key status open'
    | lost =>
      simp only [skips, rateLimit.loses, Bool.false_eq_true, if_false, Option.map_eq_some_iff,
        Option.ite_none_right_eq_some] at taken
      obtain ⟨_, ⟨-, ⟨⟩⟩, ⟨⟩⟩ := taken
      exact .counted key status .error placed open' (by rintro ⟨⟩)

/-- A step is one of these. -/
theorem step_cases
    (taken : steps rateLimit ipKeyGenerator processes clientAtLoad fleet observed next) :
    Steps store processes clientAtLoad fleet next observed := by
  obtain ⟨action, -, taken⟩ := taken
  cases action with
  | elapse later =>
    simp only [step, Option.ite_none_right_eq_some, Option.some.injEq, Prod.mk.injEq] at taken
    obtain ⟨forward, rfl, rfl⟩ := taken
    exact .elapsed later forward
  | request process limiter arrival status reply =>
    simp only [step, Option.ite_none_left_eq_some, not_le] at taken
    obtain ⟨inside, taken⟩ := taken
    have placed : makeRedisStore clientAtLoad process ∈ places processes clientAtLoad :=
      Finset.mem_image_of_mem _ (Finset.mem_range.mpr inside)
    let key : CounterKey := ⟨makeRedisStore clientAtLoad process, limiter,
      limiter.options.keyGenerator ipKeyGenerator arrival⟩
    split at taken
    · rename_i fallsBack
      exact limit_cases key placed (fun closed => by simp_all [key]) taken
    split at taken
    · rename_i bypassed
      obtain ⟨rfl, rfl⟩ := Prod.mk.inj (Option.some.inj taken)
      exact .skipped _ _ (by rw [Options.skip, bypassed, Bool.true_or])
    split at taken
    · obtain ⟨rfl, rfl⟩ := Prod.mk.inj (Option.some.inj taken)
      exact .unavailable _
    · rename_i ready
      exact limit_cases key placed (fun _ => by simpa using ready) taken

/-- At each place the open window of the client bounds what an interval has let through. -/
structure Limited (store : Store CounterKey σ CounterKey.windowMs) (processes : Nat)
    (clientAtLoad : Nat → Option Status) (limiter : Limiter) (client : String) (start : Time)
    (history : List Event) (fleet : Fleet σ) : Prop where
  bounded : ∀ place, Bounded limiter.options.max limiter.options.windowMs start fleet.now
    ((admissions limiter client start history).count place)
    (store.live fleet.counters ⟨place, limiter, client⟩ fleet.now)
  placed : ∀ place ∈ admissions limiter client start history,
    place ∈ places processes clientAtLoad

/-- One more event. -/
theorem admissions_snoc (event : Event) :
    admissions limiter client start (history ++ [event]) =
      admissions limiter client start history ++
        (admission limiter client start event).toList := by
  unfold admissions
  rw [List.filterMap_append]
  cases added : admission limiter client start event <;> simp [added]

/-- No window is empty. -/
theorem windowMs_pos (key : CounterKey) : 0 < key.windowMs := by
  unfold CounterKey.windowMs
  cases key.limiter <;> decide

/-- A counter that is incremented, and all the others. -/
theorem Limited.incremented (limited : Limited store processes clientAtLoad limiter client start
    history fleet) (key : CounterKey) (event : Event)
    (placed : key.place ∈ places processes clientAtLoad ∨
      admission limiter client start event = none)
    (counts : admission limiter client start event = none ∨
      admission limiter client start event = some key.place ∧ key.limiter = limiter ∧
        key.client = client ∧ start ≤ fleet.now ∧
        fleet.now < start + limiter.options.windowMs ∧
        (store.increment fleet.counters key fleet.now).2 ≤ limiter.options.max) :
    Limited store processes clientAtLoad limiter client start (history ++ [event])
      ⟨fleet.now, (store.increment fleet.counters key fleet.now).1⟩ where
  bounded place := by
    have bounded := limited.bounded place
    rw [admissions_snoc, List.count_append]
    by_cases same : key = ⟨place, limiter, client⟩
    · subst same
      rw [store.live_increment (windowMs_pos _)]
      rcases counts with none | ⟨added, -, -, since, inside, within⟩
      · simpa [none, CounterKey.windowMs] using bounded.uncounted
      · rw [store.counts] at within
        have open' (current : Window)
            (opened : store.live fleet.counters ⟨place, limiter, client⟩ fleet.now = some current) :
            fleet.now < current.resetTime := store.live_open opened
        simpa [added, CounterKey.windowMs] using bounded.admitted open' since inside within
    · rw [store.spares _ _ _ _ (Ne.symm same)]
      rcases counts with none | ⟨added, sameLimiter, sameClient, -⟩
      · simpa [none] using bounded
      · have elsewhere : key.place ≠ place := by
          rintro rfl
          exact same (by rw [← sameLimiter, ← sameClient])
        simpa [added, elsewhere] using bounded
  placed place member := by
    rw [admissions_snoc, List.mem_append] at member
    rcases member with before | now
    · exact limited.placed place before
    · rcases counts with none | ⟨added, -⟩
      · simp [none] at now
      · rcases placed with placed | none
        · rw [added, Option.toList_some, List.mem_singleton] at now
          exact now ▸ placed
        · simp [none] at now

/-- An event that is no admission changes nothing. -/
theorem Limited.unchanged (limited : Limited store processes clientAtLoad limiter client start
    history fleet) (event : Event) (none : admission limiter client start event = none) :
    Limited store processes clientAtLoad limiter client start (history ++ [event]) fleet := by
  have same : admissions limiter client start (history ++ [event]) =
      admissions limiter client start history := by
    rw [admissions_snoc, none, Option.toList_none, List.append_nil]
  exact ⟨fun place => same ▸ limited.bounded place, fun place => same ▸ limited.placed place⟩

/-- Each step keeps the bounds. -/
theorem limited_step (limited : Limited store processes clientAtLoad limiter client start
    history fleet) (steps : Steps store processes clientAtLoad fleet next observed) :
    Limited store processes clientAtLoad limiter client start (history ++ observed) next := by
  cases steps with
  | elapsed later forward =>
    rw [List.append_nil]
    refine ⟨fun place => ?_, limited.placed⟩
    rw [store.ages _ _ _ _ forward]
    exact (limited.bounded place).aged forward
  | skipped limiter arrival => exact limited.unchanged (.skipped limiter arrival) rfl
  | unavailable limiter => exact limited.unchanged (.unavailable limiter) rfl
  | refused key status => exact limited.unchanged (.counted key fleet.now status .error) rfl
  | counted key status outcome placed open' within =>
    refine limited.incremented key _ (.inl placed) ?_
    cases outcome with
    | next =>
      by_cases counts : key.limiter = limiter ∧ key.client = client ∧ start ≤ fleet.now ∧
          fleet.now < start + limiter.options.windowMs
      · refine .inr ⟨if_pos counts, counts.1, counts.2.1, counts.2.2.1, counts.2.2.2, ?_⟩
        exact counts.1 ▸ within rfl
      · exact .inl (if_neg counts)
    | tooMany => exact .inl rfl
    | error => exact .inl rfl

/-- A run keeps them from empty stores on. -/
theorem run_limited {now : Time}
    (run : Run (steps rateLimit ipKeyGenerator processes clientAtLoad) ⟨now, store.empty⟩ history
      fleet) (limiter : Limiter) (client : String) (start : Time) :
    Limited store processes clientAtLoad limiter client start history fleet := by
  refine run.invariant
    (Limited store processes clientAtLoad limiter client start) ⟨fun place => ?_, by rintro _ ⟨⟩⟩
    fun _ limited taken => limited_step limited (step_cases taken)
  rw [store.nothing]
  exact Bounded.empty ..

/-- A limiter that fails closed asks the store only while Redis is ready. -/
theorem fails_closed {origin : Fleet σ}
    (run : Run (steps rateLimit ipKeyGenerator processes clientAtLoad) origin history fleet) :
    ∀ key time status outcome, .counted key time status outcome ∈ history →
      key.limiter.options.failClosed = true → status = some .ready := by
  refine run.invariant (fun history _ => ∀ key time status outcome,
    .counted key time status outcome ∈ history → key.limiter.options.failClosed = true →
      status = some .ready) (by rintro _ _ _ _ ⟨⟩) ?_
  intro history observed fleet next _ before taken key time status outcome member closed
  rcases List.mem_append.mp member with old | new
  · exact before key time status outcome old closed
  · cases step_cases taken with
    | elapsed => cases new
    | skipped | unavailable => cases List.mem_singleton.mp new
    | refused key status ready | counted key status outcome placed ready =>
      cases List.mem_singleton.mp new
      exact of_decide_eq_true (ready closed)

/-- The global limiter alone leaves the webhooks to another one. -/
theorem skip_paths {arrival : Arrival} (skips : limiter.options.skip arrival = true) :
    isBypassPath arrival.path arrival.originalUrl = true ∨
      limiter = .global ∧ isWebhookPath arrival.path arrival.originalUrl = true := by
  rw [Options.skip, Bool.or_eq_true, Bool.and_eq_true] at skips
  refine skips.imp id fun webhook => ⟨?_, webhook.2⟩
  have left := webhook.1
  cases limiter with
  | global => rfl
  | auth | booking | verifyPayment | webhook | admin | idempotencyConflict => cases left

/-- Only requests on these paths are passed on uncounted. -/
theorem skipped_paths {origin : Fleet σ}
    (run : Run (steps rateLimit ipKeyGenerator processes clientAtLoad) origin history fleet) :
    ∀ limiter arrival, .skipped limiter arrival ∈ history →
      isBypassPath arrival.path arrival.originalUrl = true ∨
        limiter = .global ∧ isWebhookPath arrival.path arrival.originalUrl = true := by
  refine run.invariant (fun history _ => ∀ limiter arrival, .skipped limiter arrival ∈ history →
    isBypassPath arrival.path arrival.originalUrl = true ∨
      limiter = .global ∧ isWebhookPath arrival.path arrival.originalUrl = true)
    (by rintro _ _ ⟨⟩) ?_
  intro history observed fleet next _ before taken limiter arrival member
  rcases List.mem_append.mp member with old | new
  · exact before limiter arrival old
  · cases step_cases taken with
    | elapsed => cases new
    | unavailable | refused | counted => cases List.mem_singleton.mp new
    | skipped limiter arrival skips =>
      cases List.mem_singleton.mp new
      exact skip_paths skips

/-- What a client is let through in all is what it is let through at each place. -/
theorem Limited.total (limited : Limited store processes clientAtLoad limiter client start
    history fleet) :
    ∑ place ∈ places processes clientAtLoad,
      (admissions limiter client start history).count place =
        (admissions limiter client start history).length := by
  have counts := Multiset.sum_count_eq_card (s := places processes clientAtLoad)
    (m := admissions limiter client start history) limited.placed
  simpa only [Multiset.coe_count, Multiset.coe_card] using counts

end Admissions

section Attained

universe u
variable {σ : Type u} {store : Store CounterKey σ CounterKey.windowMs}
  (rateLimit : RateLimit store) {ipKeyGenerator : String → String} {processes : Nat}
  {clientAtLoad : Nat → Option Status} {arrival : Arrival} {key : CounterKey}
  {process : Nat}

/-- A request that is not skipped, while Redis is there. -/
theorem request_step (fleet : Fleet σ) (inside : process < processes)
    (placed : makeRedisStore clientAtLoad process = key.place)
    (named : key.limiter.options.keyGenerator ipKeyGenerator arrival = key.client)
    (counted : key.limiter.options.skip arrival = false)
    (within : (store.increment fleet.counters key fleet.now).2 ≤ key.limiter.options.max) :
    step rateLimit ipKeyGenerator processes clientAtLoad fleet
        (.request process key.limiter arrival (some .ready) .answered) =
      some (⟨fleet.now, (store.increment fleet.counters key fleet.now).1⟩,
        [.counted key fleet.now (some .ready) .next]) := by
  have unskipped : isBypassPath arrival.path arrival.originalUrl = false := by
    unfold Options.skip at counted
    exact (Bool.or_eq_false_iff.mp counted).1
  have ready : isRedisReady (some .ready) = true := rfl
  have reaches : limit rateLimit fleet key.limiter key arrival (some .ready) .answered =
      some (⟨fleet.now, (store.increment fleet.counters key fleet.now).1⟩,
        [.counted key fleet.now (some .ready) .next]) := by
    simp [limit, counted, rateLimit.counts, within]
  simp [step, Nat.not_le_of_lt inside, unskipped, ready, named, placed, reaches]

/-- Requests of one client that one process serves at one instant, within the limit. -/
theorem served (fleet : Fleet σ) (key : CounterKey) (inside : process < processes)
    (placed : makeRedisStore clientAtLoad process = key.place)
    (named : key.limiter.options.keyGenerator ipKeyGenerator arrival = key.client)
    (counted : key.limiter.options.skip arrival = false)
    (fresh : store.live fleet.counters key fleet.now = none) (requests : Nat)
    (within : requests ≤ key.limiter.options.max) :
    ∃ history counters,
      Run (steps rateLimit ipKeyGenerator processes clientAtLoad) fleet history
        ⟨fleet.now, counters⟩ ∧
      admissions key.limiter key.client fleet.now history = List.replicate requests key.place ∧
      (∀ other, other ≠ key → store.live counters other fleet.now =
        store.live fleet.counters other fleet.now) ∧
      (Window.hit key.windowMs fleet.now (store.live counters key fleet.now)).hits =
        requests + 1 := by
  induction requests with
  | zero =>
    refine ⟨[], fleet.counters, .start, rfl, fun _ _ => rfl, ?_⟩
    rw [fresh]
    rfl
  | succ requests inductionHypothesis =>
    obtain ⟨history, counters, run, admitted, others, hits⟩ :=
      inductionHypothesis (Nat.le_of_succ_le within)
    have total : (store.increment counters key fleet.now).2 = requests + 1 := by
      rw [store.counts, hits]
    have taken := request_step rateLimit ⟨fleet.now, counters⟩ inside placed named
      counted (total.trans_le within)
    have added : admission key.limiter key.client fleet.now
        (.counted key fleet.now (some .ready) .next) = some key.place := by
      have positive : (0 : Time) < key.windowMs := by exact_mod_cast windowMs_pos key
      exact if_pos ⟨rfl, rfl, le_refl _, lt_add_of_pos_right fleet.now positive⟩
    refine ⟨_, _, run.step ⟨_, trivial, taken⟩, ?_, fun other different => ?_, ?_⟩
    · rw [admissions_snoc, added, admitted, List.replicate_succ', Option.toList_some]
    · rw [store.spares _ _ _ _ different, others other different]
    · rw [store.live_increment (windowMs_pos key)]
      simp only [Window.hit] at hits ⊢
      rw [← hits]

/-- The same for several places, one after the other. -/
theorem served_everywhere (fleet : Fleet σ) (limiter : Limiter)
    (counted : limiter.options.skip arrival = false)
    (fresh : ∀ key, store.live fleet.counters key fleet.now = none) (chosen : Finset Place)
    (known : chosen ⊆ places processes clientAtLoad) :
    ∃ history counters,
      Run (steps rateLimit ipKeyGenerator processes clientAtLoad) fleet history
        ⟨fleet.now, counters⟩ ∧
      (∀ place ∈ chosen, (admissions limiter
        (limiter.options.keyGenerator ipKeyGenerator arrival) fleet.now history).count place =
          limiter.options.max) ∧
      (∀ place ∉ chosen, (admissions limiter
        (limiter.options.keyGenerator ipKeyGenerator arrival) fleet.now history).count place = 0) ∧
      ∀ key, key.place ∉ chosen → store.live counters key fleet.now = none := by
  induction chosen using Finset.induction_on with
  | empty =>
    exact ⟨[], fleet.counters, .start, by rintro _ ⟨⟩, fun _ _ => rfl, fun key _ => fresh key⟩
  | insert place chosen new inductionHypothesis =>
    obtain ⟨history, counters, run, full, none, idle⟩ :=
      inductionHypothesis fun other member => known (Finset.mem_insert_of_mem member)
    obtain ⟨process, inside, placed⟩ :=
      Finset.mem_image.mp (known (Finset.mem_insert_self place chosen))
    let key : CounterKey :=
      ⟨place, limiter, limiter.options.keyGenerator ipKeyGenerator arrival⟩
    obtain ⟨later, final, more, admitted, others, -⟩ :=
      served rateLimit ⟨fleet.now, counters⟩ key (Finset.mem_range.mp inside)
        placed rfl counted (idle key new) limiter.options.max (le_refl _)
    have counts (other : Place) : (admissions limiter key.client fleet.now
        (history ++ later)).count other =
          (admissions limiter key.client fleet.now history).count other +
            if place = other then limiter.options.max else 0 := by
      rw [admissions, List.filterMap_append, List.count_append]
      refine congrArg _ ((congrArg (List.count other) admitted).trans ?_)
      simp only [List.count_replicate, beq_iff_eq, key]
    refine ⟨_, _, run.trans more, fun other member => ?_, fun other outside => ?_,
      fun other outside => ?_⟩
    · refine (counts other).trans ?_
      rcases Finset.mem_insert.mp member with rfl | old
      · rw [none other new, if_pos rfl, Nat.zero_add]
      · rw [full other old, if_neg (ne_of_mem_of_not_mem old new).symm, Nat.add_zero]
    · rw [Finset.mem_insert, not_or] at outside
      exact (counts other).trans (by rw [none other outside.2, if_neg (Ne.symm outside.1)])
    · rw [Finset.mem_insert, not_or] at outside
      rw [others other fun same => outside.1 (same ▸ rfl), idle other outside.2]

/-- In any interval of a window's length a limiter lets at most twice its limit of a client's
requests through at each place where the fleet counts, of which every process that was loaded
before Redis was ready is one, and the fleet can let the limit through at each of them at one
instant. Beside these it passes on the requests of a few paths, uncounted. A limiter that fails
closed asks no store while Redis is not ready. -/
theorem fleet_limited (ipKeyGenerator : String → String) (processes : Nat)
    (clientAtLoad : Nat → Option Status) (now : Time) (limiter : Limiter) :
    (∀ history fleet,
      Run (steps rateLimit ipKeyGenerator processes clientAtLoad) ⟨now, store.empty⟩ history
        fleet →
        (∀ client start,
          (∀ place, (admissions limiter client start history).count place ≤
            2 * limiter.options.max) ∧
          (admissions limiter client start history).length ≤
            2 * limiter.options.max * (places processes clientAtLoad).card) ∧
        (∀ limiter arrival, .skipped limiter arrival ∈ history →
          isBypassPath arrival.path arrival.originalUrl = true ∨
            limiter = .global ∧ isWebhookPath arrival.path arrival.originalUrl = true) ∧
        ∀ key time status outcome, .counted key time status outcome ∈ history →
          key.limiter.options.failClosed = true → status = some .ready) ∧
    ∀ arrival, limiter.options.skip arrival = false →
      ∃ history counters,
        Run (steps rateLimit ipKeyGenerator processes clientAtLoad) ⟨now, store.empty⟩ history
          ⟨now, counters⟩ ∧
        (∀ place ∈ places processes clientAtLoad,
          (admissions limiter (limiter.options.keyGenerator ipKeyGenerator arrival) now
            history).count place = limiter.options.max) ∧
        (admissions limiter (limiter.options.keyGenerator ipKeyGenerator arrival) now
          history).length = limiter.options.max * (places processes clientAtLoad).card := by
  refine ⟨fun history fleet run => ⟨fun client start => ?_, skipped_paths run, fails_closed run⟩,
    fun arrival counted => ?_⟩
  · have limited := run_limited run limiter client start
    have twice (place : Place) : (admissions limiter client start history).count place ≤
        2 * limiter.options.max := (limited.bounded place).twice
    refine ⟨twice, ?_⟩
    rw [← limited.total, Nat.mul_comm]
    exact Finset.sum_le_card_nsmul _ _ _ fun place _ => twice place
  · obtain ⟨history, counters, run, full, -⟩ :=
      served_everywhere rateLimit ⟨now, store.empty⟩ limiter counted
        (fun key => store.nothing key now) (places processes clientAtLoad) (Finset.Subset.refl _)
    refine ⟨history, counters, run, full, ?_⟩
    rw [← (run_limited run limiter _ now).total, Finset.sum_congr rfl full, Finset.sum_const,
      Nat.nsmul_eq_mul, Nat.mul_comm]

/-- A login from an address. -/
def login : Arrival := ⟨"/login".toList, "/api/v1/auth/login".toList, "10.0.0.1", none⟩

/-- Two processes that were loaded while their clients were connecting let forty logins through
at once, twenty each. -/
theorem forty_logins : ∃ history counters,
    Run (steps (.plain (memoryStore CounterKey.windowMs)) id 2 fun _ => some .connecting)
      ⟨0, (memoryStore CounterKey.windowMs).empty⟩ history ⟨0, counters⟩ ∧
    (admissions .auth "10.0.0.1" 0 history).count (.memory 0) = 20 ∧
    (admissions .auth "10.0.0.1" 0 history).length = 40 ∧
    (admissions .auth "10.0.0.1" (-1) history).length ≤ 2 * 20 * 2 := by
  obtain ⟨bounded, attained⟩ := fleet_limited (.plain (memoryStore CounterKey.windowMs)) id 2
    (fun _ => some .connecting) 0 .auth
  obtain ⟨history, counters, run, full, admitted⟩ := attained login (by decide +kernel)
  have two : (places 2 fun _ => some .connecting).card = 2 := by decide
  rw [two] at admitted
  refine ⟨history, counters, run, full _ (by decide), admitted, ?_⟩
  have limit := ((bounded history _ run).1 "10.0.0.1" (-1)).2
  rwa [two] at limit

end Attained

end PlanBuddy.RateLimiters
