import PlanBuddy.MiddlewareStack
import PlanBuddy.Queues
import PlanBuddy.Runs

/-!
# Slots that responses give back

The backpressure middleware of the API counts a request when it has read the health of the
pool, and leaves it to two listeners on the response to count it off: 'finish' always does, and
'close' does unless `end()` has been called. Beside the variables of the module the state keeps
which responses were ended, finished and closed, and for which of them a listener has counted
off. Events come in the orders that Node allows: a response finishes at most once, after
`end()`, and nothing follows its closing.

A slot is lost when the connection breaks between `end()` and 'finish', for then neither
listener counts off, and when the response is over before the listeners are attached.
-/

namespace PlanBuddy.ResponseSlots

open MiddlewareStack (Path Tier getPriorityTier shouldBypassBackpressure)

section Model

/-- What the closures of the middleware keep of a request. -/
structure Tracked where
  id : Nat
  tier : Tier
  startTime : Time

/-- A request that waits for the health of the pool, with what was read when it arrived. -/
structure Waiting extends Tracked where
  /-- In nanoseconds. -/
  lag : Nat
  isCritical : Bool

/-- The body of the response with status 503. -/
structure Refusal where
  id : Nat
  error : String
  retryAfter : Nat
  tier : Tier

structure State where
  activeRequests : Nat
  totalRequests : Nat
  rejectedRequests : Nat
  slowResponses : Nat
  lastSlowAt : Option Time
  eventLoopLag : Nat
  arrived : List Nat
  waiting : List Waiting
  admitted : List Tracked
  refusals : List Refusal
  /-- `res.writableEnded`. -/
  ended : List Nat
  finished : List Nat
  closed : List Nat
  /-- Counted off by a listener. -/
  returned : List Nat

def State.initial : State := ⟨0, 0, 0, 0, none, 0, [], [], [], [], [], [], [], []⟩

structure PoolCounts where
  total : Nat
  idle : Nat

/-- At least 85 % of the pool are in use, or it could not be read. -/
def isCritical : Option PoolCounts → Bool
  | none => true
  | some pool => decide (0 < pool.total) && decide (85 * pool.total ≤ 100 * (pool.total - pool.idle))

inductive RejectReason where
  | loadHigh
  | loadCritical
  | dbCritical
  | eventLoopLag
  | extremeOverload
deriving DecidableEq

/-- A load is a fraction of 50 concurrent requests: 35 of them are 0.7, 45 are 0.9 and 49 are
0.98. The lag is compared with 100 milliseconds. -/
def rejectReason (tier : Tier) (active : Nat) (critical : Bool) (lag : Nat) : Option RejectReason :=
  match tier with
  | .low =>
    if 35 ≤ active then some .loadHigh
    else if critical then some .dbCritical
    else if 100000000 < lag then some .eventLoopLag
    else none
  | .medium =>
    if 45 ≤ active then some .loadCritical
    else if critical then some .dbCritical
    else none
  | .high => if 49 ≤ active ∨ critical = true then some .extremeOverload else none

/-- The middleware after the await: count, decide, and attach the listeners. A refusal is
answered at once. -/
def State.resume (state : State) (waiting : Waiting) : State :=
  let active := state.activeRequests + 1
  let counted := { state with
    activeRequests := active
    totalRequests := state.totalRequests + 1
    waiting := state.waiting.filter fun other => decide (other.id ≠ waiting.id) }
  match rejectReason waiting.tier active waiting.isCritical waiting.lag with
  | some _ =>
    { counted with
      rejectedRequests := state.rejectedRequests + 1
      activeRequests := active - 1
      refusals := ⟨waiting.id, "SERVER_OVERLOADED", 2, waiting.tier⟩ :: state.refusals
      ended := waiting.id :: state.ended }
  | none => { counted with admitted := waiting.toTracked :: state.admitted }

/-- `Math.max(0, activeRequests - 1)` is the subtraction of natural numbers. -/
def State.countOff (state : State) (id : Nat) : State :=
  { state with activeRequests := state.activeRequests - 1, returned := id :: state.returned }

/-- The listener of 'finish'. -/
def State.onFinish (state : State) (clock : Time) (tracked : Tracked) : State :=
  let state := state.countOff tracked.id
  if 2000 < clock - tracked.startTime then
    { state with slowResponses := state.slowResponses + 1, lastSlowAt := some clock }
  else state

/-- The listener of 'close'. -/
def State.onClose (state : State) (tracked : Tracked) : State :=
  if tracked.id ∈ state.ended then state else state.countOff tracked.id

/-- The request whose listeners are attached to a response. -/
def State.listener (state : State) (id : Nat) : Option Tracked :=
  state.admitted.find? fun tracked => decide (tracked.id = id)

inductive Action where
  | arrive (id : Nat) (path : Path) (clock : Time) (lag : Nat) (pool : Option PoolCounts)
  | resume (id : Nat)
  | endResponse (id : Nat)
  | finish (id : Nat) (clock : Time)
  | close (id : Nat)

/-- One event, when it may come now. -/
def perform (state : State) : Action → Option State
  | .arrive id path clock lag pool =>
    if id ∈ state.arrived then none
    else
      let state := { state with arrived := id :: state.arrived }
      if shouldBypassBackpressure path then some state
      else some { state with
        eventLoopLag := lag
        waiting := ⟨⟨id, getPriorityTier path, clock⟩, lag, isCritical pool⟩ :: state.waiting }
  | .resume id => (state.waiting.find? fun waiting => decide (waiting.id = id)).map state.resume
  | .endResponse id =>
    if id ∈ state.ended then none else some { state with ended := id :: state.ended }
  | .finish id clock =>
    if id ∈ state.ended ∧ id ∉ state.finished ∧ id ∉ state.closed then
      let state := { state with finished := id :: state.finished }
      some ((state.listener id).elim state (state.onFinish clock))
    else none
  | .close id =>
    if id ∈ state.closed then none
    else
      let state := { state with closed := id :: state.closed }
      some ((state.listener id).elim state state.onClose)

/-- The steps of a run are recorded with the states they are taken in. -/
def machine (state : State) (action : Action) : Option (State × List (State × Action)) :=
  (perform state action).map fun next => (next, [(state, action)])

end Model

section Purpose

/-- The response has been finished, or its connection is closed. -/
def State.Over (state : State) (id : Nat) : Prop := id ∈ state.finished ∨ id ∈ state.closed

instance (state : State) (id : Nat) : Decidable (state.Over id) :=
  inferInstanceAs (Decidable (_ ∨ _))

/-- The counter is the number of admitted requests whose response is open, and each admitted
request whose response is over was counted off once. -/
structure Exact (state : State) : Prop where
  counted : state.activeRequests =
    state.admitted.countP fun tracked => decide ¬ state.Over tracked.id
  once : ∀ tracked ∈ state.admitted,
    state.returned.count tracked.id = if state.Over tracked.id then 1 else 0

/-- Steps that lose no slot: listeners are attached to a response that is not over, and the
response of an admitted request is not closed between `end()` and 'finish'. -/
def KeepsSlot (state : State) : Action → Prop
  | .resume id => ∀ waiting ∈ state.waiting, waiting.id = id →
    rejectReason waiting.tier (state.activeRequests + 1) waiting.isCritical waiting.lag = none →
      ¬ state.Over id
  | .close id => id ∈ state.admitted.map Tracked.id → id ∈ state.ended → id ∈ state.finished
  | .arrive _ _ _ _ _ => True
  | .endResponse _ => True
  | .finish _ _ => True

instance (state : State) : (action : Action) → Decidable (KeepsSlot state action)
  | .resume id => inferInstanceAs (Decidable (∀ waiting ∈ state.waiting, waiting.id = id →
      rejectReason waiting.tier (state.activeRequests + 1) waiting.isCritical waiting.lag = none →
        ¬ state.Over id))
  | .close id => inferInstanceAs (Decidable
      (id ∈ state.admitted.map Tracked.id → id ∈ state.ended → id ∈ state.finished))
  | .arrive _ _ _ _ _ => instDecidableTrue
  | .endResponse _ => instDecidableTrue
  | .finish _ _ => instDecidableTrue

end Purpose

section Accounting

variable {state next : State}

/-- Every admission is counted, and every count-off is of a request that is over. -/
structure Accounted (state : State) : Prop where
  distinct : (state.waiting.map (·.id) ++ state.admitted.map Tracked.id).Nodup
  arrived : ∀ id ∈ state.waiting.map (·.id) ++ state.admitted.map Tracked.id, id ∈ state.arrived
  once : state.returned.Nodup
  returned : ∀ id ∈ state.returned, id ∈ state.admitted.map Tracked.id ∧ state.Over id
  ended : ∀ id ∈ state.finished, id ∈ state.ended
  counted : state.activeRequests + state.returned.length = state.admitted.length

/-- No admitted request is over without being counted off. -/
def Kept (state : State) : Prop :=
  ∀ id ∈ state.admitted.map Tracked.id, state.Over id → id ∈ state.returned

/-- No request is admitted twice. -/
theorem admitted_distinct (accounted : Accounted state) :
    (state.admitted.map Tracked.id).Nodup := (List.nodup_append.mp accounted.distinct).2.1

/-- Counting off exactly those that are over keeps the counter exact. -/
theorem exact_iff_kept (accounted : Accounted state) : Exact state ↔ Kept state := by
  have distinct := admitted_distinct accounted
  constructor
  · rintro ⟨-, once⟩ id member isOver
    obtain ⟨tracked, stored, rfl⟩ := List.mem_map.mp member
    have count := once tracked stored
    rw [if_pos isOver] at count
    exact List.count_pos_iff.mp (by omega)
  · intro kept
    have isOver : ((state.admitted.map Tracked.id).filter fun id => decide (state.Over id)).Perm
        state.returned := by
      refine (List.perm_ext_iff_of_nodup (distinct.filter _) accounted.once).mpr fun id => ?_
      rw [List.mem_filter, decide_eq_true_eq]
      exact ⟨fun found => kept id found.1 found.2, fun back => accounted.returned id back⟩
    constructor
    · have parts := List.length_eq_countP_add_countP
        (fun tracked : Tracked => decide (state.Over tracked.id)) (l := state.admitted)
      have size := isOver.length_eq
      rw [← List.countP_eq_length_filter, List.countP_map] at size
      have counted := accounted.counted
      simp only [Function.comp_def, decide_eq_true_eq] at size parts
      omega
    · intro tracked stored
      have member : tracked.id ∈ state.admitted.map Tracked.id := List.mem_map_of_mem stored
      by_cases ends : state.Over tracked.id
      · rw [if_pos ends]
        exact List.count_eq_one_of_mem accounted.once (kept _ member ends)
      · rw [if_neg ends, List.count_eq_zero]
        exact fun back => ends (accounted.returned _ back).2

/-- An action that neither admits, nor ends a response, nor counts off. -/
theorem idle_step (accounted : Accounted state)
    (distinct : (next.waiting.map (·.id) ++ next.admitted.map Tracked.id).Nodup)
    (arrived : ∀ id ∈ next.waiting.map (·.id) ++ next.admitted.map Tracked.id, id ∈ next.arrived)
    (ended : ∀ id ∈ state.ended, id ∈ next.ended) (active : next.activeRequests = state.activeRequests)
    (admitted : next.admitted = state.admitted) (finished : next.finished = state.finished)
    (closed : next.closed = state.closed) (returned : next.returned = state.returned) :
    Accounted next ∧ (Kept next ↔ Kept state) := by
  have isOver : ∀ id, next.Over id ↔ state.Over id := by
    intro id
    rw [State.Over, State.Over, finished, closed]
  constructor
  · refine ⟨distinct, arrived, returned ▸ accounted.once, ?_, ?_, ?_⟩
    · intro id back
      rw [admitted, isOver]
      exact accounted.returned id (returned ▸ back)
    · exact fun id done => ended id (accounted.ended id (finished ▸ done))
    · rw [active, returned, admitted]
      exact accounted.counted
  · simp only [Kept, admitted, isOver, returned]

/-- The response of `id` becomes over, and a listener counts it off, or none does. -/
theorem over_step (id : Nat) (back : Prop) [Decidable back] (accounted : Accounted state)
    (waiting : next.waiting = state.waiting) (admitted : next.admitted = state.admitted)
    (arrived : next.arrived = state.arrived) (ended : ∀ other ∈ next.finished, other ∈ next.ended)
    (isOver : ∀ other, next.Over other ↔ other = id ∨ state.Over other)
    (fresh : back → id ∈ state.admitted.map Tracked.id ∧ ¬ state.Over id)
    (returned : next.returned = if back then id :: state.returned else state.returned)
    (active : next.activeRequests =
      if back then state.activeRequests - 1 else state.activeRequests) :
    Accounted next ∧ (Kept next ↔ Kept state ∧
      (¬ back → id ∈ state.admitted.map Tracked.id → id ∈ state.returned)) := by
  by_cases counts : back
  · obtain ⟨member, notOver⟩ := fresh counts
    have absent : id ∉ state.returned := fun old => notOver (accounted.returned id old).2
    rw [if_pos counts] at returned active
    -- one more admission than count-offs, so the counter is positive
    have room : state.returned.length < state.admitted.length := by
      have within : (id :: state.returned).length ≤ (state.admitted.map Tracked.id).length := by
        refine List.Subperm.length_le (List.subperm_of_subset ?_ ?_)
        · exact List.nodup_cons.mpr ⟨absent, accounted.once⟩
        · rintro other (_ | old)
          · exact member
          · next old => exact (accounted.returned other old).1
      simp only [List.length_cons, List.length_map] at within
      exact within
    have counted := accounted.counted
    constructor
    · refine ⟨?_, ?_, ?_, ?_, ended, ?_⟩
      · rw [waiting, admitted]
        exact accounted.distinct
      · rw [waiting, admitted, arrived]
        exact accounted.arrived
      · rw [returned]
        exact List.nodup_cons.mpr ⟨absent, accounted.once⟩
      · intro other found
        rw [returned] at found
        rw [admitted, isOver]
        rcases List.mem_cons.mp found with rfl | old
        · exact ⟨member, .inl rfl⟩
        · exact ⟨(accounted.returned other old).1, .inr (accounted.returned other old).2⟩
      · rw [active, returned, admitted, List.length_cons]
        omega
    · simp only [Kept, admitted, isOver, returned, counts, not_true, false_imp_iff, and_true]
      constructor
      · intro kept other found ends
        rcases List.mem_cons.mp (kept other found (.inr ends)) with rfl | old
        · exact absurd ends notOver
        · exact old
      · rintro kept other found (rfl | ends)
        · exact List.mem_cons_self
        · exact List.mem_cons_of_mem _ (kept other found ends)
  · rw [if_neg counts] at returned active
    constructor
    · refine ⟨?_, ?_, returned ▸ accounted.once, ?_, ended, ?_⟩
      · rw [waiting, admitted]
        exact accounted.distinct
      · rw [waiting, admitted, arrived]
        exact accounted.arrived
      · intro other found
        rw [admitted, isOver]
        have old := accounted.returned other (returned ▸ found)
        exact ⟨old.1, .inr old.2⟩
      · rw [active, returned, admitted]
        exact accounted.counted
    · simp only [Kept, admitted, isOver, returned, counts, not_false_eq_true, true_imp_iff]
      constructor
      · intro kept
        exact ⟨fun other found ends => kept other found (.inr ends),
          fun found => kept id found (.inl rfl)⟩
      · rintro ⟨kept, now⟩ other found (rfl | ends)
        · exact now found
        · exact kept other found ends

/-- Whether listeners are attached to a response. -/
theorem listener_cases (state : State) (id : Nat) :
    (state.listener id = none ∧ id ∉ state.admitted.map Tracked.id) ∨
      ∃ tracked, state.listener id = some tracked ∧ tracked.id = id ∧
        id ∈ state.admitted.map Tracked.id := by
  cases found : state.listener id with
  | none =>
    refine .inl ⟨rfl, fun member => ?_⟩
    obtain ⟨tracked, stored, same⟩ := List.mem_map.mp member
    rw [State.listener, List.find?_eq_none] at found
    exact found tracked stored (decide_eq_true same)
  | some tracked =>
    rw [State.listener] at found
    have chosen := List.find?_some found
    have same : tracked.id = id := of_decide_eq_true chosen
    exact .inr ⟨tracked, rfl, same, List.mem_map.mpr ⟨tracked, List.mem_of_find?_eq_some found, same⟩⟩

end Accounting

section Steps

variable {state next : State}

/-- The next state is accounted, and keeps every slot if the step does. -/
def Sound (state next : State) (action : Action) : Prop :=
  Accounted next ∧ (Kept next ↔ Kept state ∧ KeepsSlot state action)

/-- An arrival is accounted for. -/
theorem arrive_sound {id : Nat} {path : Path} {clock : Time} {lag : Nat} {pool : Option PoolCounts}
    (accounted : Accounted state) (taken : perform state (.arrive id path clock lag pool) = some next) :
    Sound state next (.arrive id path clock lag pool) := by
  rw [perform, Option.ite_none_left_eq_some] at taken
  obtain ⟨fresh, taken⟩ := taken
  rw [Sound, KeepsSlot, and_true]
  dsimp only at taken
  split at taken
  · cases taken
    exact idle_step accounted accounted.distinct
      (fun other member => List.mem_cons_of_mem _ (accounted.arrived other member))
      (fun _ member => member) rfl rfl rfl rfl rfl
  · cases taken
    refine idle_step accounted ?_ ?_ (fun _ member => member) rfl rfl rfl rfl rfl
    · exact List.nodup_cons.mpr ⟨fun member => fresh (accounted.arrived id member), accounted.distinct⟩
    · rintro other (_ | member)
      · exact List.mem_cons_self
      · next member => exact List.mem_cons_of_mem _ (accounted.arrived other member)

/-- So is the end of a response. -/
theorem endResponse_sound {id : Nat} (accounted : Accounted state)
    (taken : perform state (.endResponse id) = some next) : Sound state next (.endResponse id) := by
  rw [perform, Option.ite_none_left_eq_some] at taken
  obtain ⟨-, taken⟩ := taken
  cases taken
  rw [Sound, KeepsSlot, and_true]
  exact idle_step accounted accounted.distinct accounted.arrived
    (fun _ member => List.mem_cons_of_mem _ member) rfl rfl rfl rfl rfl

/-- Where the request waiting for the health of the pool stands. -/
theorem waiting_split {waiting : Waiting} (accounted : Accounted state)
    (found : waiting ∈ state.waiting) :
    waiting.id ∉ state.admitted.map Tracked.id ∧
      (waiting.id :: ((state.waiting.filter fun other => decide (other.id ≠ waiting.id)).map (·.id) ++
        state.admitted.map Tracked.id)).Nodup := by
  obtain ⟨waits, admitted, apart⟩ := List.nodup_append.mp accounted.distinct
  have listed : waiting.id ∈ state.waiting.map (·.id) := List.mem_map_of_mem found
  have absent : waiting.id ∉ state.admitted.map Tracked.id := fun member =>
    apart waiting.id listed waiting.id member rfl
  have rest : ((state.waiting.filter fun other => decide (other.id ≠ waiting.id)).map (·.id)).Sublist
      (state.waiting.map (·.id)) := List.filter_sublist.map _
  refine ⟨absent, List.nodup_cons.mpr ⟨fun member => ?_, ?_⟩⟩
  · rcases List.mem_append.mp member with still | old
    · obtain ⟨other, kept, same⟩ := List.mem_map.mp still
      exact of_decide_eq_true (List.mem_filter.mp kept).2 same
    · exact absent old
  · refine List.nodup_append.mpr ⟨waits.sublist rest, admitted, fun one left other right => ?_⟩
    exact apart one (rest.subset left) other right

/-- So is a handler that goes on. -/
theorem resume_sound {id : Nat} (accounted : Accounted state)
    (taken : perform state (.resume id) = some next) : Sound state next (.resume id) := by
  rw [perform, Option.map_eq_some_iff] at taken
  obtain ⟨waiting, found, resumed⟩ := taken
  have chosen := List.find?_some found
  obtain rfl : waiting.id = id := of_decide_eq_true chosen
  have stored := List.mem_of_find?_eq_some found
  obtain ⟨absent, distinct⟩ := waiting_split accounted stored
  have here : waiting.id ∈ state.arrived :=
    accounted.arrived _ (List.mem_append_left _ (List.mem_map_of_mem stored))
  have others : ∀ other ∈ (state.waiting.filter fun other => decide (other.id ≠ waiting.id)).map
      (·.id) ++ state.admitted.map Tracked.id, other ∈ state.arrived := by
    intro other member
    refine accounted.arrived other ?_
    exact ((List.filter_sublist.map _).append_right _).subset member
  have only : ∀ other ∈ state.waiting, other.id = waiting.id → other = waiting := by
    intro other member same
    have waits := (List.nodup_append.mp accounted.distinct).1
    exact List.inj_on_of_nodup_map waits member stored same
  rw [Sound, KeepsSlot]
  rw [State.resume] at resumed
  cases decision : rejectReason waiting.tier (state.activeRequests + 1) waiting.isCritical
      waiting.lag with
  | some reason =>
    simp only [decision, Nat.add_sub_cancel] at resumed
    subst resumed
    have refused : ∀ other ∈ state.waiting, other.id = waiting.id →
        rejectReason other.tier (state.activeRequests + 1) other.isCritical other.lag = none →
          ¬ state.Over waiting.id := by
      intro other member same admitted
      rw [only other member same, decision] at admitted
      cases admitted
    rw [and_iff_left refused]
    exact idle_step accounted (List.nodup_cons.mp distinct).2 others
      (fun _ member => List.mem_cons_of_mem _ member) rfl rfl rfl rfl rfl
  | none =>
    simp only [decision] at resumed
    subst resumed
    have unreturned : waiting.id ∉ state.returned := fun back =>
      absent (accounted.returned _ back).1
    constructor
    · refine ⟨?_, ?_, accounted.once, ?_, accounted.ended, ?_⟩
      · rw [List.map_cons]
        exact List.perm_middle.nodup_iff.mpr distinct
      · intro other member
        rw [List.map_cons] at member
        rcases List.mem_cons.mp (List.perm_middle.subset member) with rfl | old
        · exact here
        · exact others other old
      · intro other back
        have old := accounted.returned other back
        exact ⟨List.mem_cons_of_mem _ old.1, old.2⟩
      · have counted := accounted.counted
        simp only [List.length_cons]
        omega
    · constructor
      · intro kept
        constructor
        · exact fun other member ends => kept other (List.mem_cons_of_mem _ member) ends
        · intro other member same _ ends
          exact unreturned (kept waiting.id List.mem_cons_self ends)
      · rintro ⟨kept, fresh⟩ other member ends
        rcases List.mem_cons.mp member with rfl | old
        · exact absurd ends (fresh waiting stored rfl decision)
        · exact kept other old ends

/-- So is a response that is finished. -/
theorem finish_sound {id : Nat} {clock : Time} (accounted : Accounted state)
    (taken : perform state (.finish id clock) = some next) : Sound state next (.finish id clock) := by
  rw [perform, Option.ite_none_right_eq_some] at taken
  obtain ⟨⟨ended, unfinished, unclosed⟩, taken⟩ := taken
  have finishedEnded : ∀ other ∈ id :: state.finished, other ∈ state.ended := by
    rintro other (_ | old)
    · exact ended
    · next old => exact accounted.ended other old
  have isOver : ∀ other, (other ∈ id :: state.finished ∨ other ∈ state.closed) ↔
      other = id ∨ state.Over other := by
    intro other
    rw [List.mem_cons, State.Over, or_assoc]
  have listens : ({ state with finished := id :: state.finished } : State).listener id =
      state.listener id := rfl
  dsimp only at taken
  rw [listens] at taken
  rw [Sound, KeepsSlot, and_true]
  rcases listener_cases state id with ⟨unheard, absent⟩ | ⟨tracked, heard, rfl, member⟩
  · rw [unheard] at taken
    cases taken
    refine And.imp_right (fun kept => kept.trans ?_)
      (over_step id False accounted rfl rfl rfl finishedEnded isOver False.elim rfl rfl)
    exact and_iff_left fun _ member => absurd member absent
  · rw [heard] at taken
    have fresh : tracked.id ∈ state.admitted.map Tracked.id ∧ ¬ state.Over tracked.id :=
      ⟨member, not_or.mpr ⟨unfinished, unclosed⟩⟩
    simp only [Option.elim_some, Option.some.injEq, State.onFinish] at taken
    -- a slow response is also noted, which concerns no slot
    split at taken
    all_goals
      subst taken
      refine And.imp_right (fun kept => kept.trans ?_)
        (over_step tracked.id True accounted rfl rfl rfl finishedEnded isOver (fun _ => fresh) rfl rfl)
      exact and_iff_left fun impossible => absurd trivial impossible

/-- So is a connection that is closed. -/
theorem close_sound {id : Nat} (accounted : Accounted state)
    (taken : perform state (.close id) = some next) : Sound state next (.close id) := by
  rw [perform, Option.ite_none_left_eq_some] at taken
  obtain ⟨unclosed, taken⟩ := taken
  have isOver : ∀ other, (other ∈ state.finished ∨ other ∈ id :: state.closed) ↔
      other = id ∨ state.Over other := by
    intro other
    rw [List.mem_cons, State.Over, or_left_comm]
  have listens : ({ state with closed := id :: state.closed } : State).listener id =
      state.listener id := rfl
  dsimp only at taken
  rw [listens] at taken
  rw [Sound, KeepsSlot]
  rcases listener_cases state id with ⟨unheard, absent⟩ | ⟨tracked, heard, rfl, member⟩
  · rw [unheard] at taken
    cases taken
    refine And.imp_right (fun kept => kept.trans (and_congr_right fun _ => ?_))
      (over_step id False accounted rfl rfl rfl accounted.ended isOver False.elim rfl rfl)
    exact iff_of_true (fun _ member => absurd member absent) fun member => absurd member absent
  · rw [heard] at taken
    simp only [Option.elim_some, Option.some.injEq, State.onClose] at taken
    by_cases ended : tracked.id ∈ state.ended
    · rw [if_pos ended] at taken
      subst taken
      refine And.imp_right (fun kept => kept.trans (and_congr_right fun slots => ?_))
        (over_step tracked.id False accounted rfl rfl rfl accounted.ended isOver False.elim rfl rfl)
      constructor
      · intro back _ _
        have ends := (accounted.returned _ (back not_false member)).2
        exact ends.resolve_right unclosed
      · intro finished _ _
        exact slots _ member (.inl (finished member ended))
    · rw [if_neg ended] at taken
      subst taken
      have fresh : tracked.id ∈ state.admitted.map Tracked.id ∧ ¬ state.Over tracked.id :=
        ⟨member, not_or.mpr ⟨fun finished => ended (accounted.ended _ finished), unclosed⟩⟩
      refine And.imp_right (fun kept => kept.trans (and_congr_right fun _ => ?_))
        (over_step tracked.id True accounted rfl rfl rfl accounted.ended isOver (fun _ => fresh) rfl rfl)
      exact iff_of_true (fun impossible => absurd trivial impossible) fun _ began =>
        absurd began ended

/-- So is every event. -/
theorem perform_sound {action : Action} (accounted : Accounted state)
    (taken : perform state action = some next) : Sound state next action := by
  cases action with
  | arrive id path clock lag pool => exact arrive_sound accounted taken
  | resume id => exact resume_sound accounted taken
  | endResponse id => exact endResponse_sound accounted taken
  | finish id clock => exact finish_sound accounted taken
  | close id => exact close_sound accounted taken

end Steps

section Claims

variable {history : List (State × Action)} {state : State}

/-- At first there is nothing to account for. -/
theorem initial_accounted : Accounted .initial :=
  ⟨List.nodup_nil, nofun, List.nodup_nil, nofun, nofun, rfl⟩

/-- Along a run the slots are accounted for, and none is lost exactly if every step keeps its
slot: a slot that is lost stays lost. -/
theorem run_sound (run : Run (takes machine anyAction) .initial history state) :
    Accounted state ∧ (Kept state ↔ ∀ step ∈ history, KeepsSlot step.1 step.2) := by
  refine run.invariant (fun history state =>
    Accounted state ∧ (Kept state ↔ ∀ step ∈ history, KeepsSlot step.1 step.2)) ?_ ?_
  · exact ⟨initial_accounted, iff_of_true nofun nofun⟩
  · rintro history observed state next - ⟨accounted, kept⟩ ⟨action, -, taken⟩
    rw [machine, Option.map_eq_some_iff] at taken
    obtain ⟨reached, performed, same⟩ := taken
    cases same
    obtain ⟨sound, slots⟩ := perform_sound accounted performed
    refine ⟨sound, slots.trans ?_⟩
    rw [kept, List.forall_mem_append, List.forall_mem_singleton]

/-- In every run, the counter is the number of open responses of admitted requests, each of
which is counted off once when it is over, exactly if every step of the run keeps its slot. -/
theorem slots_exact_iff (run : Run (takes machine anyAction) .initial history state) :
    Exact state ↔ ∀ step ∈ history, KeepsSlot step.1 step.2 :=
  have sound := run_sound run
  (exact_iff_kept sound.1).trans sound.2

/-- Two requests; the first is answered and finished, the second loses its connection before
it is answered. -/
def twoRequests : List Action :=
  [.arrive 1 "/api/payment".toList 0 0 (some ⟨10, 10⟩), .resume 1,
    .arrive 2 "/api/trips".toList 1 0 (some ⟨10, 9⟩), .resume 2, .close 2, .endResponse 1,
    .finish 1 5, .endResponse 2, .close 1]

/-- The slots of two requests are exact. -/
theorem slots_exact_two :
    Exact ((execute machine .initial twoRequests).get (by decide)).1 :=
  (slots_exact_iff (run_of_schedule twoRequests (by decide))).mpr (by decide)

/-- The connection breaks when `end()` has been called and the response is not yet flushed. -/
def brokenOff : List Action :=
  [.arrive 1 "/api/payment".toList 0 0 (some ⟨10, 10⟩), .resume 1, .endResponse 1, .close 1]

/-- No listener counts the request off. -/
theorem broken_off_leaks :
    let state := ((execute machine .initial brokenOff).get (by decide)).1
    state.activeRequests = 1 ∧ state.returned = [] ∧ ¬ Exact state := by
  refine ⟨by decide, by decide, fun exact => ?_⟩
  exact absurd exact.counted (by decide)

end Claims

end PlanBuddy.ResponseSlots
