import PlanBuddy.WorkerLoop

/-!
# Requests to drain a worker

`requestWorkerDrain` sets `drain_requested` in the worker's row of `worker_heartbeats`, from
any process; `atomicClaim` reads it before it claims. The worker's own heartbeat writes the
same column every fifteen seconds, with the value of `_draining` from when the timer fired.
That value is FALSE until the worker itself is told to drain.
-/

namespace PlanBuddy.Workers

section Model

structure Registration where
  worker : Worker
  /-- `drain_requested`, where the worker has a row. -/
  heartbeat : Option Bool
  /-- The heartbeat was registered, and its timer started. -/
  refreshing : Bool
  /-- What the refreshes in flight write to `drain_requested`. -/
  refreshes : List Bool
deriving DecidableEq

/-- What the worker does by itself, and what the statements on its row do. -/
inductive RowAction
  | loop (action : Action)
  | selectDrain (index : Nat)
  | refresh
  | update (position : Nat)
  | loseRefresh (position : Nat)
  | requestWorkerDrain
  | delete (index : Nat)

inductive RowEvent
  | loop (event : Event)
  | requested
  | deregistered
deriving DecidableEq

/-- An action of the loop that does not read the row: an executed SELECT is not. -/
def ownAction : Action → Bool
  | .selectDrain _ (some _) => false
  | _ => true

/-- A move of the loop. -/
def moveWorker (config : Config) (registration : Registration) (action : Action) :
    Option (Registration × List RowEvent) :=
  (step config registration.worker action).map fun (worker, observed) =>
    ({ registration with worker }, observed.map .loop)

/-- A `stop()` past its wait has cleared the timer of the heartbeat. A DELETE that fails is
an action of the loop like any other. -/
def act (config : Config) (registration : Registration) :
    RowAction → Option (Registration × List RowEvent)
  | .loop action => if ownAction action then moveWorker config registration action else none
  | .selectDrain index =>
    moveWorker config registration (.selectDrain index (some (registration.heartbeat.getD false)))
  | .refresh =>
    if registration.refreshing ∧ ∀ call ∈ registration.worker.stops, call = .draining then
      some ({ registration with
        refreshes := registration.refreshes ++ [registration.worker.draining] }, [])
    else none
  | .update position => do
    let draining ← registration.refreshes[position]?
    some ({ registration with
      heartbeat := registration.heartbeat.map fun _ => draining
      refreshes := registration.refreshes.eraseIdx position }, [])
  | .loseRefresh position => do
    let _ ← registration.refreshes[position]?
    some ({ registration with refreshes := registration.refreshes.eraseIdx position }, [])
  | .requestWorkerDrain =>
    some ({ registration with heartbeat := registration.heartbeat.map fun _ => true },
      if registration.heartbeat.isSome then [.requested] else [])
  | .delete index => do
    let (worker, _) ← step config registration.worker (.deregister index)
    some ({ registration with worker, heartbeat := none }, [.deregistered])

end Model

section Requests

/-- No refresh takes a request back. -/
def Respects (registration : Registration) : RowAction → Prop
  | .update position =>
    registration.refreshes[position]? = some false → registration.heartbeat ≠ some true
  | _ => True

instance (registration : Registration) (action : RowAction) :
    Decidable (Respects registration action) :=
  match action with
  | .update position => inferInstanceAs (Decidable
      (registration.refreshes[position]? = some false → registration.heartbeat ≠ some true))
  | .loop _ | .selectDrain _ | .refresh | .loseRefresh _ | .requestWorkerDrain | .delete _ =>
    .isTrue trivial

/-- A claim begun after a request, and answered before the worker deregisters, is empty. -/
def Sticks (history : List RowEvent) : Prop :=
  ∀ (earlier between later : List RowEvent) (index count : Nat),
    history = (earlier ++ .requested :: between) ++ .loop (.returned index count) :: later →
      .loop (.begun index) ∈ between → .deregistered ∉ between → count = 0

/-- A poll in `atomicClaim` that will return without items. -/
def Poll.refused : Poll → Bool
  | .checking _ | .checked _ none | .checked _ (some true) | .ended => true
  | _ => false

variable {config : Config} {worker next : Worker} {observed : List Event}

/-- A poll that was refused stays refused. -/
theorem resume_refused {before after : Poll} {concurrency count : Nat}
    (refused : before.refused = true)
    (continues : before.resume config concurrency worker.activeSlots = some (after, count)) :
    after.refused = true := by
  cases before with
  | checked batch drainRequested => cases drainRequested with
    | none =>
      cases continues
      rfl
    | some drainRequested => cases drainRequested with
      | false => cases refused
      | true =>
        cases continues
        rfl
  | checking | ended => cases continues
  | limiting | limited | claiming | claimed => cases refused

/-- A refused poll stays refused unless its SELECT finds no request. -/
theorem step_refused {action : Action} {index : Nat} {poll : Poll}
    (stored : worker.polls[index]? = some poll) (refused : poll.refused = true)
    (told : action ≠ .selectDrain index (some false))
    (stepped : step config worker action = some (next, observed)) :
    ∃ after, next.polls[index]? = some after ∧ after.refused = true := by
  have moves : ∀ (position : Nat) (after : Poll), (position = index → after.refused = true) →
      ∃ after', (worker.polls.set position after)[index]? = some after' ∧
        after'.refused = true := by
    intro position after own
    by_cases same : position = index
    · subst same
      exact ⟨after, Parties.set_moved after stored, own rfl⟩
    · exact ⟨poll, (List.getElem?_set_ne same).trans stored, refused⟩
  cases step_cases stepped with
  | timed | stopped | drained | deregistered => exact ⟨poll, stored, refused⟩
  | joined concurrency runs serves =>
    have bound := (List.getElem?_eq_some_iff.mp stored).1
    exact ⟨poll, (List.getElem?_append_left bound).trans stored, refused⟩
  | sought concurrency armed runs serves unlimited next same =>
    have bound := (List.getElem?_eq_some_iff.mp stored).1
    exact ⟨poll, (List.getElem?_append_left bound).trans stored, refused⟩
  | answered action position before after found answers =>
    apply moves
    rintro rfl
    obtain rfl := Option.some.inj (stored.symm.trans found)
    cases answers with
    | limited | claimed => cases refused
    | checked batch drainRequested => cases drainRequested with
      | none => rfl
      | some drainRequested => cases drainRequested with
        | false => exact absurd rfl told
        | true => rfl
  | resumed position concurrency armed before after count found continues =>
    apply moves
    rintro rfl
    obtain rfl := Option.some.inj (stored.symm.trans found)
    exact resume_refused refused continues
  | finished busy =>
    unfold notifyDrainIfIdle
    split <;> exact ⟨poll, stored, refused⟩

/-- What a step lets a caller of `atomicClaim` see. -/
inductive Observes (worker next : Worker) : List Event → Prop
  | nothing : Observes worker next []
  | begun (index batch : Nat) (stored : next.polls[index]? = some (.checking batch)) :
      Observes worker next [.begun index]
  | returned (index count : Nat) (before : Poll) (stored : worker.polls[index]? = some before)
      (honest : before.refused = true → count = 0) :
      Observes worker next [.returned index count]

/-- A poll that looks for slots says so. -/
theorem sought_observes {index concurrency activeSlots : Nat}
    (stored : next.polls[index]? = some (seekSlots config concurrency activeSlots)) :
    Observes worker next
      ((Poll.limited true).observed index (seekSlots config concurrency activeSlots)) := by
  simp only [seekSlots] at stored ⊢
  split
  · exact .nothing
  · next free =>
    rw [if_neg free] at stored
    exact .begun index _ stored

/-- One that goes on says what it has become. -/
theorem resumed_observes {before after : Poll} {index concurrency count : Nat}
    (stored : worker.polls[index]? = some before) (moved : next.polls[index]? = some after)
    (continues : before.resume config concurrency worker.activeSlots = some (after, count)) :
    Observes worker next (before.observed index after) := by
  cases before with
  | limited allowed => cases allowed with
    | false =>
      cases continues
      exact .nothing
    | true =>
      cases continues
      exact sought_observes moved
  | checked batch drainRequested => cases drainRequested with
    | none =>
      cases continues
      exact .nothing
    | some drainRequested => cases drainRequested with
      | false =>
        cases continues
        exact .nothing
      | true =>
        cases continues
        exact .returned index 0 _ stored fun _ => rfl
  | claimed count => cases count with
    | none =>
      cases continues
      exact .nothing
    | some count =>
      cases continues
      exact .returned index count _ stored (by simp [Poll.refused])
  | limiting | checking | claiming | ended => cases continues

/-- A step says of each poll what it has become. -/
theorem step_observes {action : Action}
    (stepped : step config worker action = some (next, observed)) :
    Observes worker next observed := by
  cases step_cases stepped with
  | timed | joined | answered | finished | stopped | drained | deregistered => exact .nothing
  | sought concurrency armed runs serves unlimited next same =>
    subst same
    exact sought_observes List.getElem?_concat_length
  | resumed index concurrency armed before after count stored continues =>
    exact resumed_observes stored (Parties.set_moved after stored) continues

end Requests

section Histories

def Refuses (registration : Registration) (index : Nat) : Prop :=
  ∃ poll, registration.worker.polls[index]? = some poll ∧ poll.refused = true

/-- Since a request, and until the worker deregisters, its row says so and every claim that
was begun will be refused. -/
def Heeded (history : List RowEvent) (registration : Registration) : Prop :=
  ∀ (earlier between : List RowEvent), history = earlier ++ .requested :: between →
    .deregistered ∉ between → registration.heartbeat = some true ∧
      ∀ index, .loop (.begun index) ∈ between → Refuses registration index

variable {config : Config} {registration next : Registration} {observed history : List RowEvent}

/-- The row still says so, and refused claims are still refused. -/
def Keeps (registration next : Registration) : Prop :=
  registration.heartbeat = some true → next.heartbeat = some true ∧
    ∀ index, Refuses registration index → Refuses next index

/-- A request that is heeded stays so while the registration is kept. -/
theorem Heeded.keep (heeded : Heeded history registration) (keeps : Keeps registration next) :
    Heeded history next := by
  intro earlier between split registered
  obtain ⟨flagged, refused⟩ := heeded earlier between split registered
  obtain ⟨stillFlagged, stillRefused⟩ := keeps flagged
  exact ⟨stillFlagged, fun index begun => stillRefused index (refused index begun)⟩

/-- An event is heeded as long as polls that begin after a request are refused. -/
theorem Heeded.snoc {event : RowEvent} (heeded : Heeded history registration)
    (keeps : Keeps registration next)
    (requested : event = .requested → next.heartbeat = some true)
    (begun : ∀ index, event = .loop (.begun index) → Refuses next index) :
    Heeded (history ++ [event]) next := by
  intro earlier between split registered
  rcases snoc_split split with ⟨rfl, same, -⟩ | ⟨before, rfl, old⟩
  · exact ⟨requested same, by simp⟩
  · have registeredBefore : .deregistered ∉ before :=
      fun member => registered (List.mem_append_left _ member)
    obtain ⟨flagged, refused⟩ := heeded.keep keeps earlier before old registeredBefore
    refine ⟨flagged, ?_⟩
    intro index member
    rcases List.mem_append.mp member with earlierClaim | lastClaim
    · exact refused index earlierClaim
    · exact begun index (List.mem_singleton.mp lastClaim).symm

/-- A request sticks as long as polls that begin after it claim nothing. -/
theorem Sticks.snoc {event : RowEvent} (sticks : Sticks history)
    (honest : ∀ earlier between index count, event = .loop (.returned index count) →
      history = earlier ++ .requested :: between → .loop (.begun index) ∈ between →
        .deregistered ∉ between → count = 0) : Sticks (history ++ [event]) := by
  intro earlier between later index count split begun registered
  rcases snoc_split split with ⟨-, same, rfl⟩ | ⟨rest, -, old⟩
  · exact honest earlier between index count same rfl begun registered
  · exact sticks earlier between rest index count old begun registered

/-- A worker keeps its registration as long as it is told of the request. -/
theorem moveWorker_keeps {action : Action}
    (told : registration.heartbeat = some true → ∀ index, action ≠ .selectDrain index (some false))
    (moved : moveWorker config registration action = some (next, observed)) :
    Keeps registration next := by
  simp only [moveWorker, Option.map_eq_some_iff, Prod.exists, Prod.mk.injEq] at moved
  obtain ⟨worker, seen, stepped, rfl, rfl⟩ := moved
  intro flagged
  refine ⟨flagged, ?_⟩
  intro index refuses
  obtain ⟨poll, stored, refused⟩ := refuses
  exact step_refused stored refused (told flagged index) stepped

/-- A move of the loop that finds the request where there is one. -/
theorem moveWorker_heeds {action : Action} (heeded : Heeded history registration)
    (sticks : Sticks history)
    (told : registration.heartbeat = some true → ∀ index, action ≠ .selectDrain index (some false))
    (moved : moveWorker config registration action = some (next, observed)) :
    Heeded (history ++ observed) next ∧ Sticks (history ++ observed) := by
  have keeps : Keeps registration next := moveWorker_keeps told moved
  simp only [moveWorker, Option.map_eq_some_iff, Prod.exists, Prod.mk.injEq] at moved
  obtain ⟨worker, seen, stepped, rfl, rfl⟩ := moved
  cases step_observes stepped with
  | nothing =>
    rw [List.map_nil, List.append_nil]
    exact ⟨heeded.keep keeps, sticks⟩
  | begun index batch stored =>
    rw [List.map_singleton]
    refine ⟨heeded.snoc keeps nofun ?_, sticks.snoc nofun⟩
    intro other same
    cases same
    exact ⟨_, stored, rfl⟩
  | returned index count before stored honest =>
    rw [List.map_singleton]
    refine ⟨heeded.snoc keeps nofun nofun, sticks.snoc ?_⟩
    intro earlier between other total same split begun registered
    cases same
    obtain ⟨poll, found, refused⟩ := (heeded earlier between split registered).2 index begun
    obtain rfl := Option.some.inj (stored.symm.trans found)
    exact honest refused

/-- A step heeds the request. -/
theorem act_heeds {action : RowAction} (heeded : Heeded history registration)
    (sticks : Sticks history) (respects : Respects registration action)
    (acted : act config registration action = some (next, observed)) :
    Heeded (history ++ observed) next ∧ Sticks (history ++ observed) := by
  cases action with
  | loop action =>
    simp only [act, Option.ite_none_right_eq_some] at acted
    obtain ⟨own, moved⟩ := acted
    refine moveWorker_heeds heeded sticks ?_ moved
    rintro - index rfl
    cases own
  | selectDrain index =>
    refine moveWorker_heeds heeded sticks ?_ acted
    intro flagged other same
    simp [flagged] at same
  | refresh =>
    simp only [act, Option.ite_none_right_eq_some, Option.some.injEq, Prod.mk.injEq] at acted
    obtain ⟨-, rfl, rfl⟩ := acted
    rw [List.append_nil]
    exact ⟨heeded.keep fun flagged => ⟨flagged, fun index refuses => refuses⟩, sticks⟩
  | update position =>
    simp only [act, Option.bind_eq_bind, Option.bind_eq_some_iff, Option.some.injEq,
      Prod.mk.injEq] at acted
    obtain ⟨draining, sent, rfl, rfl⟩ := acted
    rw [List.append_nil]
    refine ⟨heeded.keep ?_, sticks⟩
    intro flagged
    cases draining with
    | false => exact absurd flagged (respects sent)
    | true => exact ⟨by simp [flagged], fun index refuses => refuses⟩
  | loseRefresh position =>
    simp only [act, Option.bind_eq_bind, Option.bind_eq_some_iff, Option.some.injEq,
      Prod.mk.injEq] at acted
    obtain ⟨draining, sent, rfl, rfl⟩ := acted
    rw [List.append_nil]
    exact ⟨heeded.keep fun flagged => ⟨flagged, fun index refuses => refuses⟩, sticks⟩
  | requestWorkerDrain =>
    simp only [act, Option.some.injEq, Prod.mk.injEq] at acted
    obtain ⟨rfl, rfl⟩ := acted
    have keeps : Keeps registration
        { registration with heartbeat := registration.heartbeat.map fun _ => true } :=
      fun flagged => ⟨by simp [flagged], fun index refuses => refuses⟩
    split
    · next present =>
      obtain ⟨drainRequested, stored⟩ := Option.isSome_iff_exists.mp present
      exact ⟨heeded.snoc keeps (by simp [stored]) nofun, sticks.snoc nofun⟩
    · rw [List.append_nil]
      exact ⟨heeded.keep keeps, sticks⟩
  | delete index =>
    simp only [act, Option.bind_eq_bind, Option.bind_eq_some_iff, Prod.exists, Option.some.injEq,
      Prod.mk.injEq] at acted
    obtain ⟨worker, seen, stepped, rfl, rfl⟩ := acted
    refine ⟨?_, sticks.snoc nofun⟩
    intro earlier between split registered
    rcases snoc_split split with ⟨-, same, -⟩ | ⟨before, rfl, -⟩
    · cases same
    · exact absurd (List.mem_append_right before (.head _)) registered

/-- As long as no refresh takes it back, a request sticks. -/
theorem drain_request_sticks {heartbeat : Option Bool} {refreshing : Bool}
    (run : Run (takes (act config) Respects) ⟨.listening, heartbeat, refreshing, []⟩ history
      registration) : Sticks history := by
  have kept : Heeded history registration ∧ Sticks history := by
    apply run.invariant fun history registration => Heeded history registration ∧ Sticks history
    · exact ⟨by simp [Heeded], by simp [Sticks]⟩
    · intro _ _ _ _ _ kept taken
      obtain ⟨action, respects, acted⟩ := taken
      exact act_heeds kept.1 kept.2 respects acted
  exact kept.2

/-- An operator asks the worker to drain; its next refresh takes the request back, and its
next claim returns an item. -/
theorem refresh_undoes_request :
    ∃ registration, Run (takes (act relayConfig) anyAction) ⟨.listening, some false, true, []⟩
      [.requested, .loop (.begun 0), .loop (.returned 0 1)] registration ∧
        ¬ Sticks [.requested, .loop (.begun 0), .loop (.returned 0 1)] := by
  have run : Run (takes (act relayConfig) anyAction) ⟨.listening, some false, true, []⟩ _ _ :=
    run_of_schedule [.loop .start, .requestWorkerDrain, .refresh, .update 0,
      .loop (.timeout true 5), .selectDrain 0, .loop (.resume 0 5), .loop (.claim 0 (some 1)),
      .loop (.resume 0 5)] rfl
  refine ⟨_, run, ?_⟩
  intro sticks
  exact absurd (sticks [] [.loop (.begun 0)] [] 0 1 rfl (.head _) (by decide)) (by decide)

/-- A poll that begins after a request returns without rows. -/
theorem drain_request_sticks_refused :
    ∃ history registration, Run (takes (act relayConfig) Respects)
      ⟨.listening, some false, true, []⟩ history registration ∧
        .loop (.returned 0 0) ∈ history ∧ Sticks history := by
  have run : Run (takes (act relayConfig) Respects) ⟨.listening, some false, true, []⟩ _ _ :=
    run_of_restricted [.loop .start, .refresh, .update 0, .requestWorkerDrain,
      .loop (.timeout true 5), .selectDrain 0, .loop (.resume 0 5)] rfl
  exact ⟨_, _, run, by decide, drain_request_sticks run⟩

end Histories

end PlanBuddy.Workers
