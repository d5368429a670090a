import PlanBuddy.Queues

/-!
# Counted requests behind a guard

The two guards of the root backpressure module. Each is an async function that counts the
request, calls `next()` inside `try` and counts it off in `finally`. Nothing is awaited, so the
`finally` runs when `next()` has returned, which is when the handlers have been started and not
when they have answered. Between two turns of the event loop both counters are therefore back at
what they were, however many requests are under way.

An action is one turn: a request that passes the global guard, and the booking guard too if it
is reached before `next()` returns; a request that reaches the booking guard later; the end of a
refresh of the pool's health; the end of a response. Which requests are admitted and which
responses have ended is recorded beside the counters.
-/

namespace PlanBuddy.RequestGuards

section Model

inductive Scope where
  | global
  | booking
deriving DecidableEq

/-- `MAX_CONCURRENT_GLOBAL` and `MAX_CONCURRENT_BOOKING`. -/
def Scope.maximum : Scope → Nat
  | .global => 200
  | .booking => 50

structure PoolCounts where
  totalCount : Nat
  idleCount : Nat

structure DbHealth where
  isDbOverloaded : Bool
  checkedAt : Time

/-- The body of a response with status 503. -/
structure Refusal where
  message : String
  code : String
  retryAfter : Nat

def serviceOverloaded : Refusal :=
  ⟨"Service temporarily busy. Please try again.", "SERVICE_OVERLOADED", 5⟩

def bookingOverloaded : Refusal :=
  ⟨"Booking temporarily unavailable. Please try again.", "BOOKING_OVERLOADED", 10⟩

/-- A refused request, with how many of its scope were in flight. -/
structure Rejection where
  id : Nat
  scope : Scope
  refusal : Refusal
  inFlight : Nat

/-- The variables of the module, and what has happened to the requests so far. -/
structure State where
  activeRequests : Int
  bookingActiveRequests : Int
  dbHealthCache : Option DbHealth
  /-- What the refresh under way has read. -/
  dbHealthRefreshInFlight : Option Bool
  admitted : List (Scope × Nat)
  finished : List Nat
  rejections : List Rejection

def State.initial : State := ⟨0, 0, none, none, [], [], []⟩

def State.counter (state : State) : Scope → Int
  | .global => state.activeRequests
  | .booking => state.bookingActiveRequests

/-- Add to the counter of a scope. -/
def State.count (scope : Scope) (change : Int) (state : State) : State :=
  match scope with
  | .global => { state with activeRequests := state.activeRequests + change }
  | .booking => { state with bookingActiveRequests := state.bookingActiveRequests + change }

/-- How many admitted requests of a scope have an unfinished response. -/
def State.inFlight (state : State) (scope : Scope) : Nat :=
  state.admitted.countP fun entry => decide (entry.1 = scope) && decide (entry.2 ∉ state.finished)

/-- Nine tenths of fifty connections are in use. -/
def fetchDbPoolHealth : Option PoolCounts → Bool
  | none => false
  | some pool => decide (45 ≤ (pool.totalCount : Int) - pool.idleCount)

def refreshDbHealthCache (pool : Option PoolCounts) (state : State) : State :=
  match state.dbHealthRefreshInFlight with
  | some _ => state
  | none => { state with dbHealthRefreshInFlight := some (fetchDbPoolHealth pool) }

def isDbOverloadedCached (clock : Time) (pool : Option PoolCounts) (state : State) : State × Bool :=
  match state.dbHealthCache with
  | none => (refreshDbHealthCache pool state, false)
  | some cached =>
    (if 5000 < clock - cached.checkedAt then refreshDbHealthCache pool state else state,
      cached.isDbOverloaded)

def isOverloaded (clock : Time) (pool : Option PoolCounts) (state : State) : State × Bool :=
  if 200 ≤ state.activeRequests then (state, true) else isDbOverloadedCached clock pool state

/-- The comparison of the booking guard is strict. -/
def isBookingOverloaded (state : State) : State × Bool :=
  (state, decide (50 < state.bookingActiveRequests))

def State.recordAdmission (scope : Scope) (id : Nat) (state : State) : State :=
  { state with admitted := state.admitted ++ [(scope, id)] }

/-- The response is sent at once. -/
def State.reject (scope : Scope) (refusal : Refusal) (id : Nat) (state : State) : State :=
  { state with
    finished := state.finished ++ [id]
    rejections := state.rejections ++ [⟨id, scope, refusal, state.inFlight scope⟩] }

/-- Count, check, refuse or call `next()`, and count off in `finally`. -/
def guarded (scope : Scope) (overloaded : State → State × Bool) (refusal : Refusal) (id : Nat)
    (next : State → State) (state : State) : State :=
  let (checked, refused) := overloaded (state.count scope 1)
  let answered :=
    if refused then checked.reject scope refusal id else next (checked.recordAdmission scope id)
  answered.count scope (-1)

def isProbe (path : String) : Bool :=
  "/api/health".toList.isPrefixOf path.toList || decide (path = "/health") ||
    decide (path = "/metrics") || "/internal".toList.isPrefixOf path.toList

def backpressureMiddleware (path : String) (clock : Time) (pool : Option PoolCounts) (id : Nat)
    (next : State → State) (state : State) : State :=
  if isProbe path then next state
  else guarded .global (isOverloaded clock pool) serviceOverloaded id next state

def bookingBackpressureMiddleware (id : Nat) (next : State → State) (state : State) : State :=
  guarded .booking isBookingOverloaded bookingOverloaded id next state

/-- Starting a handler that answers later changes nothing here. -/
def handler (state : State) : State := state

inductive Action where
  | request (id : Nat) (path : String) (clock : Time) (pool : Option PoolCounts) (books : Bool)
  | bookingRequest (id : Nat)
  | refreshed (clock : Time)
  | finish (id : Nat)

def perform (state : State) : Action → State
  | .request id path clock pool books =>
    let next := if books then bookingBackpressureMiddleware id handler else handler
    backpressureMiddleware path clock pool id next state
  | .bookingRequest id => bookingBackpressureMiddleware id handler state
  | .refreshed clock =>
    match state.dbHealthRefreshInFlight with
    | none => state
    | some overloaded =>
      { state with dbHealthCache := some ⟨overloaded, clock⟩, dbHealthRefreshInFlight := none }
  | .finish id => { state with finished := state.finished ++ [id] }

def performAll (actions : List Action) : State := actions.foldl perform .initial

end Model

section Purpose

/-- The guards that an action brings a request to. -/
def Action.passes : Action → List (Scope × Nat)
  | .request id path _ _ books =>
    (if isProbe path then [] else [(.global, id)]) ++ if books then [(.booking, id)] else []
  | .bookingRequest id => [(.booking, id)]
  | .refreshed _ => []
  | .finish _ => []

def Action.finishes : Action → List Nat
  | .finish id => [id]
  | _ => []

/-- The pool is not overloaded when the action reads it. -/
def Action.Healthy : Action → Prop
  | .request _ _ _ pool _ => fetchDbPoolHealth pool = false
  | _ => True

/-- The counters are the numbers in flight, these are within the maxima, and requests were
refused only at the maximum. -/
structure Exact (state : State) : Prop where
  counted : ∀ scope, state.counter scope = state.inFlight scope
  bounded : ∀ scope, state.inFlight scope ≤ scope.maximum
  refused : ∀ rejection ∈ state.rejections, rejection.scope.maximum ≤ rejection.inFlight

/-- Every request that reached a guard has got its response. -/
def AllAnswered (actions : List Action) : Prop :=
  ∀ entry ∈ actions.flatMap Action.passes, entry.2 ∈ actions.flatMap Action.finishes

end Purpose

section Turns

variable {state : State}

/-- Between two turns: nothing is counted, nothing was refused, and the pool looks healthy. -/
structure Idle (state : State) : Prop where
  active : state.activeRequests = 0
  booking : state.bookingActiveRequests = 0
  unrefused : state.rejections = []
  cached : ∀ health ∈ state.dbHealthCache, health.isDbOverloaded = false
  read : ∀ overloaded ∈ state.dbHealthRefreshInFlight, overloaded = false

/-- A turn leaves an idle state, with these requests admitted and these responses ended. -/
structure Follows (state next : State) (passed : List (Scope × Nat)) (ended : List Nat) : Prop where
  idle : Idle next
  admitted : next.admitted = state.admitted ++ passed
  finished : next.finished = state.finished ++ ended

/-- The counter of the booking guard is one inside of it, and as before when it returns. -/
theorem booking_passes (idle : state.bookingActiveRequests = 0) (id : Nat) :
    bookingBackpressureMiddleware id handler state = state.recordAdmission .booking id := by
  have room : ¬ 50 < state.bookingActiveRequests + 1 := by omega
  have restored : state.bookingActiveRequests + 1 + -1 = state.bookingActiveRequests := by omega
  simp [bookingBackpressureMiddleware, guarded, isBookingOverloaded, State.count,
    State.recordAdmission, handler, room, restored]

/-- The booking guard admits its request and leaves an idle state. -/
theorem booking_follows (idle : Idle state) (id : Nat) :
    Follows state (bookingBackpressureMiddleware id handler state) [(.booking, id)] [] := by
  rw [booking_passes idle.booking]
  exact ⟨⟨idle.active, idle.booking, idle.unrefused, idle.cached, idle.read⟩, rfl,
    (List.append_nil _).symm⟩

/-- Refreshing the health of a pool that is healthy keeps it so. -/
theorem refresh_healthy {pool : Option PoolCounts} (healthy : fetchDbPoolHealth pool = false)
    (read : ∀ overloaded ∈ state.dbHealthRefreshInFlight, overloaded = false) :
    ∃ reading, refreshDbHealthCache pool state =
        { state with dbHealthRefreshInFlight := reading } ∧
      ∀ overloaded ∈ reading, overloaded = false := by
  cases underway : state.dbHealthRefreshInFlight with
  | none =>
    exact ⟨some (fetchDbPoolHealth pool), by simp [refreshDbHealthCache, underway], by simp [healthy]⟩
  | some overloaded =>
    have same : refreshDbHealthCache pool state = state := by simp [refreshDbHealthCache, underway]
    exact ⟨state.dbHealthRefreshInFlight, same, read⟩

/-- While the counter is small and the pool healthy, a request is not found too many. -/
theorem isOverloaded_healthy (state : State) {pool : Option PoolCounts} (clock : Time)
    (healthy : fetchDbPoolHealth pool = false) (room : state.activeRequests < 200)
    (cached : ∀ health ∈ state.dbHealthCache, health.isDbOverloaded = false)
    (read : ∀ overloaded ∈ state.dbHealthRefreshInFlight, overloaded = false) :
    ∃ reading, isOverloaded clock pool state =
        ({ state with dbHealthRefreshInFlight := reading }, false) ∧
      ∀ overloaded ∈ reading, overloaded = false := by
  obtain ⟨reading, refreshed, sound⟩ := refresh_healthy healthy read
  have small : ¬ 200 ≤ state.activeRequests := Int.not_le.mpr room
  cases cache : state.dbHealthCache with
  | none =>
    exact ⟨reading, by simp [isOverloaded, small, isDbOverloadedCached, cache, refreshed], sound⟩
  | some health =>
    have well : health.isDbOverloaded = false := cached health cache
    by_cases stale : 5000 < clock - health.checkedAt
    · refine ⟨reading, ?_, sound⟩
      simp [isOverloaded, small, isDbOverloadedCached, cache, stale, refreshed, well]
    · have same : isOverloaded clock pool state = (state, false) := by
        simp [isOverloaded, small, isDbOverloadedCached, cache, stale, well]
      exact ⟨state.dbHealthRefreshInFlight, by rw [same, ← cache], read⟩

/-- The global guard lets a request pass and returns with its counter at zero, when what comes
next does not touch the counter. -/
theorem global_passes {id : Nat} {clock : Time} {pool : Option PoolCounts} {next : State → State}
    {rest : List (Scope × Nat)} (healthy : fetchDbPoolHealth pool = false) (idle : Idle state)
    (started : ∀ entered : State, entered.bookingActiveRequests = 0 →
      next entered = { entered with admitted := entered.admitted ++ rest }) :
    Follows state (guarded .global (isOverloaded clock pool) serviceOverloaded id next state)
      ((.global, id) :: rest) [] := by
  obtain ⟨reading, checked, sound⟩ := isOverloaded_healthy (state.count .global 1) clock
    healthy (by simp [State.count, idle.active]) idle.cached idle.read
  have passed := started ({ state.count .global 1 with
    dbHealthRefreshInFlight := reading }.recordAdmission .global id) idle.booking
  simp only [guarded, checked, passed]
  refine ⟨⟨?_, idle.booking, idle.unrefused, idle.cached, sound⟩, ?_, (List.append_nil _).symm⟩
  · simp [State.count, State.recordAdmission, idle.active]
  · simp [State.count, State.recordAdmission]

/-- A turn admits what its request passes and leaves an idle state. -/
theorem request_follows {id : Nat} {path : String} {clock : Time} {pool : Option PoolCounts}
    {books : Bool} (healthy : fetchDbPoolHealth pool = false) (idle : Idle state) :
    Follows state (perform state (.request id path clock pool books))
      (Action.request id path clock pool books).passes [] := by
  rw [perform, backpressureMiddleware, Action.passes]
  by_cases probe : isProbe path = true
  · simp only [probe, if_true, List.nil_append]
    cases books with
    | false => exact ⟨idle, (List.append_nil _).symm, (List.append_nil _).symm⟩
    | true => exact booking_follows idle id
  · simp only [probe]
    cases books with
    | false => exact global_passes healthy idle fun entered _ => by simp [handler]
    | true => exact global_passes healthy idle fun entered clear => booking_passes clear id

/-- Every turn of an idle state ends in an idle one. -/
theorem perform_follows {action : Action} (healthy : action.Healthy) (idle : Idle state) :
    Follows state (perform state action) action.passes action.finishes := by
  cases action with
  | request id path clock pool books => exact request_follows healthy idle
  | bookingRequest id => exact booking_follows idle id
  | refreshed clock =>
    rw [perform]
    cases underway : state.dbHealthRefreshInFlight with
    | none => exact ⟨idle, (List.append_nil _).symm, (List.append_nil _).symm⟩
    | some overloaded =>
      have well : overloaded = false := idle.read overloaded underway
      refine ⟨⟨idle.active, idle.booking, idle.unrefused, ?_, nofun⟩, (List.append_nil _).symm,
        (List.append_nil _).symm⟩
      rintro health ⟨⟩
      exact well
  | finish id =>
    exact ⟨⟨idle.active, idle.booking, idle.unrefused, idle.cached, idle.read⟩,
      (List.append_nil _).symm, rfl⟩

/-- At first nothing is counted. -/
theorem initial_idle : Idle .initial := ⟨rfl, rfl, rfl, nofun, nofun⟩

/-- So do all turns, one after the other. -/
theorem performAll_follows {actions : List Action}
    (healthy : ∀ action ∈ actions, action.Healthy) :
    Follows .initial (performAll actions) (actions.flatMap Action.passes)
      (actions.flatMap Action.finishes) := by
  have general : ∀ state, Idle state → Follows state (actions.foldl perform state)
      (actions.flatMap Action.passes) (actions.flatMap Action.finishes) := by
    induction actions with
    | nil => exact fun state idle => ⟨idle, (List.append_nil _).symm, (List.append_nil _).symm⟩
    | cons action rest inductionHypothesis =>
      intro state idle
      obtain ⟨now, later⟩ := List.forall_mem_cons.mp healthy
      have first := perform_follows now idle
      have whole := inductionHypothesis later (perform state action) first.idle
      refine ⟨whole.idle, ?_, ?_⟩
      · rw [List.foldl_cons, whole.admitted, first.admitted, List.flatMap_cons, List.append_assoc]
      · rw [List.foldl_cons, whole.finished, first.finished, List.flatMap_cons, List.append_assoc]
  exact general .initial initial_idle

end Turns

section Claims

/-- Nothing is in flight exactly if every request that reached a guard is answered. -/
theorem none_inFlight_iff {actions : List Action} (healthy : ∀ action ∈ actions, action.Healthy) :
    (∀ scope, (performAll actions).inFlight scope = 0) ↔ AllAnswered actions := by
  have reached := performAll_follows healthy
  have admitted : (performAll actions).admitted = actions.flatMap Action.passes := reached.admitted
  have finished : (performAll actions).finished = actions.flatMap Action.finishes := reached.finished
  simp only [State.inFlight, admitted, finished, List.countP_eq_zero, AllAnswered]
  constructor
  · intro quiet entry member
    refine Decidable.byContradiction fun waiting => ?_
    exact quiet entry.1 entry member (by simp [waiting])
  · intro answered scope entry member
    simp [answered entry member]

/-- After any turns, the counters of the two guards are exact precisely if every request that
reached one of them is answered: with a request under way they are zero. -/
theorem guards_exact_iff (actions : List Action) (healthy : ∀ action ∈ actions, action.Healthy) :
    Exact (performAll actions) ↔ AllAnswered actions := by
  have idle := (performAll_follows healthy).idle
  have zero : ∀ scope, (performAll actions).counter scope = 0 := by
    intro scope
    cases scope with
    | global => exact idle.active
    | booking => exact idle.booking
  rw [← none_inFlight_iff healthy]
  constructor
  · intro exact scope
    have counted := exact.counted scope
    rw [zero] at counted
    omega
  · intro quiet
    refine ⟨fun scope => by rw [zero, quiet, Int.natCast_zero], fun scope => ?_, ?_⟩
    · rw [quiet]
      exact Nat.zero_le _
    · rw [idle.unrefused]
      exact nofun

/-- Two requests of which the first is answered: the second one is not counted. -/
theorem guards_exact_second : ¬ Exact (performAll
    [.request 1 "/api/trips" 0 none false, .request 2 "/api/bookings" 0 none true, .finish 1]) :=
  fun exact => absurd ((guards_exact_iff _ (by simp [Action.Healthy, fetchDbPoolHealth])).mp exact)
    (by unfold AllAnswered; decide)

/-- Fifty-one bookings are under way at once, and none of them was refused. -/
theorem bookings_past_maximum :
    let state := performAll ((List.range 51).map fun id => .request id "/api/bookings" 0 none true)
    state.inFlight .booking = 51 ∧ state.bookingActiveRequests = 0 ∧ ¬ Exact state := by
  have past : (performAll ((List.range 51).map fun id =>
      .request id "/api/bookings" 0 none true)).inFlight .booking = 51 := by decide +kernel
  refine ⟨past, by decide +kernel, fun exact => ?_⟩
  have bounded := exact.bounded .booking
  rw [past] at bounded
  exact absurd bounded (by decide)

end Claims

end PlanBuddy.RequestGuards
