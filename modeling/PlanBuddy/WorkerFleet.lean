import PlanBuddy.AdaptiveController
import PlanBuddy.Runs
import Mathlib.Data.List.Perm.Basic
import Mathlib.Logic.Function.Basic

/-!
# Workers of one queue under the controller

Any number of `BaseWorker`s of one process share the controller's entries for
their queue. A poll runs from the circuit gate through the rate limit and the
claim; a claimed item runs until its commits are done. Polls and items advance
one await at a time and in any order, also several polls of one worker.

The rate limit check answers yes or no and never throws. A claim may throw or
return any number of items up to its batch. An item ends with a success, a
failure, or unreported when its failure commit throws. The slot of an item is
freed in the step that reports it. Timers and statistics are left out: when a
poll is started is not restricted.
-/

namespace PlanBuddy.WorkerFleet

open AdaptiveController

structure Worker where
  running : Bool
  draining : Bool
  activeSlots : Nat

/-- A poll past the circuit gate: waiting for the rate limit, or for its claim of up
to `batch` items. -/
inductive Poll where
  | limiting (worker : Nat)
  | claiming (worker : Nat) (batch : Nat)

/-- The controller's entries for the queue, the workers by number, the polls past the
gate, and the worker of each item in flight. -/
structure Fleet where
  control : QueueControl
  workers : Nat → Worker
  polls : List Poll
  items : List Nat

/-- How an item ends. An item is lost when committing its failure throws. -/
inductive Outcome where
  | succeeded
  | failed
  | lost
deriving DecidableEq

inductive Action where
  | start (worker : Nat)
  | stop (worker : Nat)
  | drain (worker : Nat)
  | poll (worker : Nat) (clock : Time)
  | acquireRateLimit (position : Nat) (allowed : Bool)
  | atomicClaim (position : Nat) (claimed : Option Nat)
  | executeItem (position : Nat) (outcome : Outcome) (clock : Time)

/-- A poll let through by the circuit. -/
inductive Event where
  | admitted (worker : Nat)

section Steps

variable (config : QueueConfig) (queueKey : QueueKey)

/-- A process that has just constructed the controller; no worker was started. -/
def Fleet.initial : Fleet where
  control := QueueControl.initial config queueKey
  workers _ := ⟨false, false, 0⟩
  polls := []
  items := []

/-- The check for a free slot, and the claim it leads to. Without a free slot the poll ends. -/
def seekSlots (worker : Nat) (fleet : Fleet) : Fleet :=
  let available := fleet.control.currentConcurrency - (fleet.workers worker).activeSlots
  if available = 0 then fleet
  else { fleet with
    polls := fleet.polls ++ [.claiming worker (min available ((config.batchSize queueKey).getD 20))] }

/-- `_poll` up to its first await. -/
def startPoll (worker : Nat) (clock : Time) (fleet : Fleet) : Fleet × List Event :=
  if (fleet.workers worker).running = false then (fleet, [])
  else if (fleet.workers worker).draining then (fleet, [])
  else
    let (control, admitted) := canProcess config queueKey clock fleet.control
    let fleet := { fleet with control }
    if admitted = false then (fleet, [])
    else if config.rateLimitEnabled queueKey then
      ({ fleet with polls := fleet.polls ++ [.limiting worker] }, [.admitted worker])
    else (seekSlots config queueKey worker fleet, [.admitted worker])

/-- Claimed items start at once, each in a slot of its worker. -/
def startItems (worker count : Nat) (fleet : Fleet) : Fleet :=
  { fleet with
    workers := Function.update fleet.workers worker
      { fleet.workers worker with activeSlots := (fleet.workers worker).activeSlots + count }
    items := fleet.items ++ List.replicate count worker }

/-- The end of `_executeItem`: the controller hears of a success or a failure, and of
nothing when the item is lost. -/
def report (outcome : Outcome) (clock : Time) (control : QueueControl) : QueueControl :=
  match outcome with
  | .succeeded => onSuccess config queueKey control
  | .failed => onFailure config queueKey clock control
  | .lost => control

def finishItem (position worker : Nat) (outcome : Outcome) (clock : Time) (fleet : Fleet) : Fleet :=
  { fleet with
    control := report config queueKey outcome clock fleet.control
    workers := Function.update fleet.workers worker
      { fleet.workers worker with activeSlots := (fleet.workers worker).activeSlots - 1 }
    items := fleet.items.eraseIdx position }

def setWorker (worker : Nat) (value : Worker) (fleet : Fleet) : Fleet :=
  { fleet with workers := Function.update fleet.workers worker value }

def step (fleet : Fleet) : Action → Option (Fleet × List Event)
  | .start worker =>
    some (setWorker worker { fleet.workers worker with running := true } fleet, [])
  | .stop worker =>
    some (setWorker worker { fleet.workers worker with running := false } fleet, [])
  | .drain worker =>
    if (fleet.workers worker).draining then some (fleet, [])
    else some (setWorker worker { fleet.workers worker with draining := true }
      { fleet with control := setDraining config queueKey true fleet.control }, [])
  | .poll worker clock => some (startPoll config queueKey worker clock fleet)
  | .acquireRateLimit position allowed =>
    match fleet.polls[position]? with
    | some (.limiting worker) =>
      let fleet := { fleet with polls := fleet.polls.eraseIdx position }
      if allowed then some (seekSlots config queueKey worker fleet, [])
      else some ({ fleet with control := onRateLimited config queueKey fleet.control }, [])
    | _ => none
  | .atomicClaim position claimed =>
    match fleet.polls[position]? with
    | some (.claiming worker batch) =>
      let fleet := { fleet with polls := fleet.polls.eraseIdx position }
      match claimed with
      | none => some (fleet, [])
      | some count => if count ≤ batch then some (startItems worker count fleet, []) else none
    | _ => none
  | .executeItem position outcome clock =>
    (fleet.items[position]?).map fun worker =>
      (finishItem config queueKey position worker outcome clock fleet, [])

/-- What each action does where it can be taken. -/
inductive Stepped (fleet : Fleet) : Action → Fleet → Prop
  | marked (action : Action) (worker : Nat) (value : Worker)
    (kind : action = .start worker ∨ action = .stop worker)
    (kept : value.activeSlots = (fleet.workers worker).activeSlots) :
    Stepped fleet action (setWorker worker value fleet)
  | drained (worker : Nat) : Stepped fleet (.drain worker) fleet
  | drains (worker : Nat) :
    Stepped fleet (.drain worker) (setWorker worker { fleet.workers worker with draining := true }
      { fleet with control := setDraining config queueKey true fleet.control })
  | polled (worker : Nat) (clock : Time) :
    Stepped fleet (.poll worker clock) (startPoll config queueKey worker clock fleet).1
  | granted (position worker : Nat) (present : fleet.polls[position]? = some (.limiting worker)) :
    Stepped fleet (.acquireRateLimit position true)
      (seekSlots config queueKey worker { fleet with polls := fleet.polls.eraseIdx position })
  | limited (position worker : Nat) (present : fleet.polls[position]? = some (.limiting worker)) :
    Stepped fleet (.acquireRateLimit position false)
      { fleet with
        polls := fleet.polls.eraseIdx position
        control := onRateLimited config queueKey fleet.control }
  | unclaimed (position worker batch : Nat)
    (present : fleet.polls[position]? = some (.claiming worker batch)) :
    Stepped fleet (.atomicClaim position none)
      { fleet with polls := fleet.polls.eraseIdx position }
  | claimed (position worker batch count : Nat) (fits : count ≤ batch)
    (present : fleet.polls[position]? = some (.claiming worker batch)) :
    Stepped fleet (.atomicClaim position (some count))
      (startItems worker count { fleet with polls := fleet.polls.eraseIdx position })
  | finished (position worker : Nat) (outcome : Outcome) (clock : Time)
    (present : fleet.items[position]? = some worker) :
    Stepped fleet (.executeItem position outcome clock)
      (finishItem config queueKey position worker outcome clock fleet)

variable {config queueKey}

/-- A step is one of these. -/
theorem stepped {fleet next : Fleet} {action : Action} {observed : List Event}
    (taken : step config queueKey fleet action = some (next, observed)) :
    Stepped config queueKey fleet action next := by
  cases action with
  | start worker =>
    cases taken
    exact .marked _ worker _ (.inl rfl) rfl
  | stop worker =>
    cases taken
    exact .marked _ worker _ (.inr rfl) rfl
  | drain worker =>
    simp only [step] at taken
    split at taken
    · cases taken
      exact .drained worker
    · cases taken
      exact .drains worker
  | poll worker clock =>
    obtain rfl : (startPoll config queueKey worker clock fleet).1 = next :=
      congrArg Prod.fst (Option.some.inj taken)
    exact .polled worker clock
  | acquireRateLimit position allowed =>
    simp only [step] at taken
    split at taken
    case h_2 => cases taken
    case h_1 worker present =>
      cases allowed with
      | false =>
        cases taken
        exact .limited position worker present
      | true =>
        cases taken
        exact .granted position worker present
  | atomicClaim position claimed =>
    simp only [step] at taken
    split at taken
    case h_2 => cases taken
    case h_1 worker batch present =>
      cases claimed with
      | none =>
        cases taken
        exact .unclaimed position worker batch present
      | some count =>
        obtain ⟨fits, same⟩ := Option.ite_none_right_eq_some.mp taken
        cases same
        exact .claimed position worker batch count fits present
  | executeItem position outcome clock =>
    obtain ⟨worker, present, same⟩ := Option.map_eq_some_iff.mp taken
    cases same
    exact .finished position worker outcome clock present

end Steps

end PlanBuddy.WorkerFleet
