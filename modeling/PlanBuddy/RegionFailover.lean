import Mathlib.Logic.Function.Basic
import Mathlib.Tactic.Linarith
import PlanBuddy.RegionManagers

/-!
# How soon a region takes over

The regions of a fleet with the timers of their managers and the calls that are on their way.
`start` registers the region, calls `acquire_region_leader` and then sets an interval timer, whose
every tick calls it again. `stop` and a crash end the ticks, not a call that has been sent: it
reaches the database later, and may renew the lease of a region that has stopped.

The database answers, and executes one call at a time. No timer is served later than `lag`, a call
reaches the database at most `lag` after its tick was due, and `start` is through within `lag`.
With less than ten seconds of lag, a third of a lease, a leader that runs renews in time: only a
region that has stopped loses its lease, and then a tick of any other takes it.
-/

namespace PlanBuddy.RegionFailover

open Regions

section Model

/-- `HEARTBEAT_MS`. -/
def heartbeatMs : Nat := 10000

/-- How far a call of `_tryAcquireLeadership` is. That of `start` comes after the INSERT of
`_register` and before `setInterval`. -/
inductive Stage where
  | registering
  | starting
  | arming
  | ticking
deriving DecidableEq

/-- A call on its way, and when it is through at the latest. -/
structure Call where
  regionId : RegionId
  stage : Stage
  deadline : Time
deriving DecidableEq

/-- The manager of a region: `_running`, when the interval timers it has set are due, a cleared one
never, and which of them `_timer` is. A later `start` may replace `_timer` and leave a timer that
no `stop` clears. Beside these, whether the database has executed a call since it started. -/
structure Process where
  running : Bool
  timers : List (Option Time)
  timer : Option Nat
  called : Bool

/-- The manager of a new process. -/
def Process.new : Process := ⟨false, [], none, false⟩

/-- `setInterval` -/
def Process.setInterval (process : Process) (now : Time) : Process :=
  { process with
    timers := process.timers ++ [some (now + heartbeatMs)]
    timer := some process.timers.length }

/-- `clearInterval(this._timer)` -/
def Process.clearInterval (process : Process) : Process :=
  match process.timer with
  | some timer => { process with timers := process.timers.set timer none }
  | none => process

/-- It runs, and the database has executed a call since it started. -/
def Process.settled (process : Process) : Bool := process.running && process.called

/-- The fleet and its database. -/
structure Election where
  now : Time
  store : Store
  processes : RegionId → Process
  calls : List Call

/-- What happens next. Of the calls on their way any one may go on. -/
inductive Action where
  | elapse (later : Time)
  | start (regionId : RegionId)
  | tick (regionId : RegionId) (timer : Nat)
  | proceed (position : Nat)
  | stop (regionId : RegionId)
  | crash (regionId : RegionId)
  | report (regionId : RegionId) (role : RegionRole) (epoch : Nat)
  | drain (regionId : RegionId)
deriving DecidableEq

/-- A lease that was another region's. -/
inductive Event where
  | taken (regionId holder : RegionId) (holderSettled : Bool)
deriving DecidableEq

variable (fleet : List RegionId) (lag : Nat)

/-- The registry after a statement. -/
def Election.write (election : Election) (registry : Registry) : Election :=
  { election with store := { election.store with registry } }

/-- The manager of a region after a step. -/
def Election.assign (election : Election) (regionId : RegionId) (process : Process) : Election :=
  { election with processes := Function.update election.processes regionId process }

/-- A new call is on its way. -/
def Election.send (election : Election) (call : Call) : Election :=
  { election with calls := election.calls ++ [call] }

/-- The calls on their way except for one. -/
def Election.others (election : Election) (position : Nat) : List Call :=
  election.calls.take position ++ election.calls.drop (position + 1)

/-- One of the calls goes on, or is through. -/
def Election.replace (election : Election) (position : Nat) (next : List Call) : Election :=
  { election with
    calls := election.calls.take position ++ next ++ election.calls.drop (position + 1) }

/-- The database executes `acquire_region_leader`. -/
def Election.acquire (election : Election) (regionId : RegionId) : Election × List Event :=
  let (store, verdict) :=
    acquireRegionLeader regionId leaderLeaseMs election.now election.store
  let observed := match election.store.lock with
    | none => []
    | some lock =>
      if verdict = true ∧ lock.regionId ≠ regionId then
        [.taken regionId lock.regionId (election.processes lock.regionId).settled]
      else []
  ({ election.assign regionId { election.processes regionId with called := true } with store },
    observed)

/-- A call goes on: its statement is executed, or its timer is set. -/
def Election.proceed (election : Election) (position : Nat) (call : Call) :
    Election × List Event :=
  match call.stage with
  | .registering =>
    let registry := register call.regionId election.now election.store.registry
    ((election.write registry).replace position [{ call with stage := .starting }], [])
  | .starting =>
    let (acquired, observed) := election.acquire call.regionId
    (acquired.replace position [{ call with stage := .arming }], observed)
  | .arming =>
    let process := (election.processes call.regionId).setInterval election.now
    ((election.assign call.regionId process).replace position [], [])
  | .ticking =>
    let (acquired, observed) := election.acquire call.regionId
    (acquired.replace position [], observed)

/-- A timer that is due calls `_tick`, and is due again. -/
def Election.tick (election : Election) (regionId : RegionId) (timer : Nat) (due : Time) :
    Election :=
  let process := election.processes regionId
  let later := election.assign regionId
    { process with timers := process.timers.set timer (some (election.now + heartbeatMs)) }
  if process.running then later.send ⟨regionId, .ticking, due + lag⟩ else later

/-- What is left of a call when its process crashes: a statement that has been sent. -/
def Call.orphan (regionId : RegionId) (call : Call) : Option Call :=
  if call.regionId = regionId then
    match call.stage with
    | .registering | .arming => none
    | .starting | .ticking => some { call with stage := .ticking }
  else some call

/-- Until when nothing is overdue. -/
def Election.inTime (election : Election) (later : Time) : Bool :=
  (fleet.all fun regionId => (election.processes regionId).timers.all fun timer =>
    timer.all fun due => decide (later ≤ due + lag)) &&
  election.calls.all fun call => decide (later ≤ call.deadline)

/-- One step of the fleet. -/
def step (election : Election) : Action → Option (Election × List Event)
  | .elapse later =>
    if election.now ≤ later ∧ election.inTime fleet lag later = true then
      some ({ election with now := later }, [])
    else none
  | .start regionId =>
    let process := election.processes regionId
    if regionId ∉ fleet then none
    else if process.running then some (election, [])
    else
      let started := election.assign regionId { process with running := true, called := false }
      some (started.send ⟨regionId, .registering, election.now + lag⟩, [])
  | .tick regionId timer =>
    match (election.processes regionId).timers[timer]? with
    | some (some due) =>
      if due ≤ election.now then some (election.tick lag regionId timer due, []) else none
    | _ => none
  | .proceed position => election.calls[position]?.map (election.proceed position)
  | .stop regionId =>
    let process := { election.processes regionId with running := false }
    some (election.assign regionId process.clearInterval, [])
  | .crash regionId =>
    let crashed := election.assign regionId .new
    some ({ crashed with calls := election.calls.filterMap (Call.orphan regionId) }, [])
  | .report regionId role epoch =>
    some (election.write (report regionId election.now role epoch election.store.registry), [])
  | .drain regionId =>
    some (election.write (drain regionId election.now election.store.registry), [])

/-- One step of any region. -/
abbrev steps : Election → List Event → Election → Prop := takes (step fleet lag) anyAction

/-- No region has started. -/
def stopped (now : Time) : Election := ⟨now, unlocked, fun _ => .new, []⟩

end Model

section Cases

variable {fleet : List RegionId} {lag : Nat} {election next : Election} {observed : List Event}
  {action : Action}

/-- All that a step can do that executes no call. -/
inductive Quiet (fleet : List RegionId) (lag : Nat) (election : Election) :
    Action → Election → Prop
  | elapsed (later : Time) (forward : election.now ≤ later)
      (timers : ∀ regionId ∈ fleet, ∀ due,
        some due ∈ (election.processes regionId).timers → later ≤ due + lag)
      (calls : ∀ call ∈ election.calls, later ≤ call.deadline) :
      Quiet fleet lag election (.elapse later) { election with now := later }
  | wrote (action : Action) (registry : Registry) :
      Quiet fleet lag election action (election.write registry)
  | started (regionId : RegionId) (known : regionId ∈ fleet) :
      Quiet fleet lag election (.start regionId)
        ((election.assign regionId
          { election.processes regionId with running := true, called := false }).send
            ⟨regionId, .registering, election.now + lag⟩)
  | registered (position : Nat) (call : Call) (registry : Registry)
      (sent : election.calls[position]? = some call) (stage : call.stage = .registering) :
      Quiet fleet lag election (.proceed position)
        ((election.write registry).replace position [{ call with stage := .starting }])
  | armed (position : Nat) (call : Call) (sent : election.calls[position]? = some call)
      (stage : call.stage = .arming) :
      Quiet fleet lag election (.proceed position)
        ((election.assign call.regionId
          ((election.processes call.regionId).setInterval election.now)).replace position [])
  | ticked (regionId : RegionId) (timer : Nat) (due : Time)
      (live : (election.processes regionId).timers[timer]? = some (some due))
      (waited : due ≤ election.now) :
      Quiet fleet lag election (.tick regionId timer) (election.tick lag regionId timer due)
  | stopped (regionId : RegionId) :
      Quiet fleet lag election (.stop regionId)
        (election.assign regionId
          ({ election.processes regionId with running := false } : Process).clearInterval)
  | crashed (regionId : RegionId) :
      Quiet fleet lag election (.crash regionId)
        { election.assign regionId .new with
          calls := election.calls.filterMap (Call.orphan regionId) }

/-- All that a step can do. -/
inductive Steps (fleet : List RegionId) (lag : Nat) (election : Election) :
    Action → Election → List Event → Prop
  | quiet {action : Action} {next : Election} (quiet : Quiet fleet lag election action next) :
      Steps fleet lag election action next []
  | executed (position : Nat) (call : Call) (left : List Call)
      (sent : election.calls[position]? = some call)
      (stage : call.stage = .starting ∧ left = [{ call with stage := .arming }] ∨
        call.stage = .ticking ∧ left = []) :
      Steps fleet lag election (.proceed position)
        ((election.acquire call.regionId).1.replace position left)
        (election.acquire call.regionId).2

/-- A step is one of these. -/
theorem step_cases (taken : step fleet lag election action = some (next, observed)) :
    Steps fleet lag election action next observed := by
  cases action with
  | elapse later =>
    simp only [step, Option.ite_none_right_eq_some, Option.some.injEq, Prod.mk.injEq,
      Election.inTime, Bool.and_eq_true, List.all_eq_true, Option.all_eq_true,
      decide_eq_true_eq] at taken
    obtain ⟨⟨forward, timers, calls⟩, rfl, rfl⟩ := taken
    exact .quiet (.elapsed later forward
      (fun regionId known due live => timers regionId known _ live due rfl) calls)
  | start regionId =>
    simp only [step, Option.ite_none_left_eq_some, not_not] at taken
    obtain ⟨known, taken⟩ := taken
    split at taken
    · obtain ⟨rfl, rfl⟩ := Prod.mk.inj (Option.some.inj taken)
      exact .quiet (.wrote _ election.store.registry)
    · obtain ⟨rfl, rfl⟩ := Prod.mk.inj (Option.some.inj taken)
      exact .quiet (.started regionId known)
  | tick regionId timer =>
    simp only [step] at taken
    split at taken
    · rename_i due live
      simp only [Option.ite_none_right_eq_some, Option.some.injEq, Prod.mk.injEq] at taken
      obtain ⟨waited, rfl, rfl⟩ := taken
      exact .quiet (.ticked regionId timer due live waited)
    · cases taken
  | proceed position =>
    simp only [step, Option.map_eq_some_iff] at taken
    obtain ⟨call, sent, went⟩ := taken
    unfold Election.proceed at went
    split at went
    · rename_i stage
      obtain ⟨rfl, rfl⟩ := Prod.mk.inj went
      exact .quiet (.registered position call _ sent stage)
    · rename_i stage
      obtain ⟨rfl, rfl⟩ := Prod.mk.inj went
      exact .executed position call _ sent (.inl ⟨stage, rfl⟩)
    · rename_i stage
      obtain ⟨rfl, rfl⟩ := Prod.mk.inj went
      exact .quiet (.armed position call sent stage)
    · rename_i stage
      obtain ⟨rfl, rfl⟩ := Prod.mk.inj went
      exact .executed position call _ sent (.inr ⟨stage, rfl⟩)
  | stop regionId =>
    obtain ⟨rfl, rfl⟩ := Prod.mk.inj (Option.some.inj taken)
    exact .quiet (.stopped regionId)
  | crash regionId =>
    obtain ⟨rfl, rfl⟩ := Prod.mk.inj (Option.some.inj taken)
    exact .quiet (.crashed regionId)
  | report regionId role epoch =>
    obtain ⟨rfl, rfl⟩ := Prod.mk.inj (Option.some.inj taken)
    exact .quiet (.wrote _ _)
  | drain regionId =>
    obtain ⟨rfl, rfl⟩ := Prod.mk.inj (Option.some.inj taken)
    exact .quiet (.wrote _ _)

end Cases

section Calls

variable {election : Election} {position : Nat} {call other : Call} {new : List Call}

/-- The calls on their way are one of them and the others. -/
theorem mem_calls (sent : election.calls[position]? = some call) :
    other ∈ election.calls ↔ other = call ∨ other ∈ election.others position := by
  obtain ⟨inside, rfl⟩ := List.getElem?_eq_some_iff.mp sent
  have split := List.take_append_drop position election.calls
  rw [List.drop_eq_getElem_cons inside] at split
  conv_lhs => rw [← split]
  simp only [Election.others, List.mem_append, List.mem_cons]
  tauto

/-- The others stay. -/
theorem mem_replaced :
    other ∈ (election.replace position new).calls ↔
      other ∈ new ∨ other ∈ election.others position := by
  simp only [Election.replace, Election.others, List.mem_append]
  tauto

/-- A crash leaves calls of the database only. -/
theorem mem_orphans {regionId : RegionId} :
    other ∈ election.calls.filterMap (Call.orphan regionId) ↔
      (other ∈ election.calls ∧ other.regionId ≠ regionId) ∨
        ∃ call ∈ election.calls, call.regionId = regionId ∧ other = { call with stage := .ticking } ∧
          (call.stage = .starting ∨ call.stage = .ticking) := by
  simp only [List.mem_filterMap, Call.orphan]
  constructor
  · rintro ⟨call, member, left⟩
    split at left
    · rename_i own
      split at left
      · cases left
      · cases left
      · rename_i stage
        exact .inr ⟨call, member, own, (Option.some.inj left).symm, .inl stage⟩
      · rename_i stage
        exact .inr ⟨call, member, own, (Option.some.inj left).symm, .inr stage⟩
    · rename_i foreign
      obtain rfl := Option.some.inj left
      exact .inl ⟨member, foreign⟩
  · rintro (⟨member, foreign⟩ | ⟨call, member, own, rfl, stage⟩)
    · exact ⟨other, member, if_neg foreign⟩
    · refine ⟨call, member, ?_⟩
      rcases stage with stage | stage <;> simp [own, stage]

/-- The manager of a region, and all the others. -/
theorem assign_processes {regionId region : RegionId} {process : Process} :
    (election.assign regionId process).processes region =
      if region = regionId then process else election.processes region := by
  simp only [Election.assign, Function.update_apply]

section Ticks

variable {lag timer : Nat} {regionId region : RegionId} {due : Time}

/-- What `_tick` reads and writes. -/
@[simp] theorem tick_now : (election.tick lag regionId timer due).now = election.now := by
  simp only [Election.tick]
  split <;> rfl

/-- It leaves the database. -/
@[simp] theorem tick_store : (election.tick lag regionId timer due).store = election.store := by
  simp only [Election.tick]
  split <;> rfl

/-- It sets the timer again. -/
theorem tick_processes :
    (election.tick lag regionId timer due).processes region =
      if region = regionId then { election.processes regionId with
        timers := (election.processes regionId).timers.set timer
          (some (election.now + heartbeatMs)) }
      else election.processes region := by
  simp only [Election.tick]
  split <;> exact assign_processes

/-- It sends a call if the manager runs. -/
theorem tick_calls :
    (election.tick lag regionId timer due).calls =
      if (election.processes regionId).running = true then
        election.calls ++ [⟨regionId, .ticking, due + lag⟩]
      else election.calls := by
  simp only [Election.tick]
  split <;> rfl

end Ticks

end Calls

section Timing

variable {fleet : List RegionId} {lag : Nat} {election next : Election} {observed : List Event}
  {action : Action} {region : RegionId} {bound due : Time} {call : Call}

/-- A time within the lag and a heartbeat. -/
def Soon (lag : Nat) (now due : Time) : Prop := now ≤ due + lag ∧ due ≤ now + heartbeatMs

/-- A time within the lag. -/
def Near (lag : Nat) (now deadline : Time) : Prop := now ≤ deadline ∧ deadline ≤ now + lag

/-- The timers and the calls are in time, and whoever runs has a timer or is about to set one. -/
structure Timed (fleet : List RegionId) (lag : Nat) (election : Election) : Prop where
  timers : ∀ region due, some due ∈ (election.processes region).timers →
    region ∈ fleet ∧ Soon lag election.now due
  calls : ∀ call ∈ election.calls, call.regionId ∈ fleet ∧ Near lag election.now call.deadline
  goesOn : ∀ region, (election.processes region).running = true →
    (∃ due, some due ∈ (election.processes region).timers) ∨
      ∃ call ∈ election.calls, call.regionId = region ∧ call.stage ≠ .ticking

/-- Timers and calls that are in time stay so. -/
theorem timers_step (timed : Timed fleet lag election) (quiet : Quiet fleet lag election action next)
    (live : some due ∈ (next.processes region).timers) :
    region ∈ fleet ∧ Soon lag next.now due := by
  have fresh (now : Time) : Soon lag now (now + heartbeatMs) :=
    ⟨by linarith [Int.natCast_nonneg lag, Int.natCast_nonneg heartbeatMs], le_refl _⟩
  cases quiet with
  | elapsed later forward inTime calls =>
    obtain ⟨known, soon⟩ := timed.timers region due live
    exact ⟨known, inTime region known due live, by linarith [soon.2]⟩
  | wrote => exact timed.timers region due live
  | started started known =>
    simp only [Election.send, assign_processes] at live
    split at live
    · rename_i same
      exact same ▸ timed.timers started due live
    · exact timed.timers region due live
  | registered => exact timed.timers region due live
  | armed position call sent stage =>
    simp only [Election.replace, assign_processes] at live
    split at live
    · rename_i same
      rcases List.mem_append.mp live with old | new
      · exact same ▸ timed.timers call.regionId due old
      · cases List.mem_singleton.mp new
        exact ⟨same ▸ (timed.calls call (List.mem_of_getElem? sent)).1, fresh election.now⟩
    · exact timed.timers region due live
  | ticked ticked timer fired found waited =>
    rw [tick_processes] at live
    rw [tick_now]
    split at live
    · rename_i same
      rcases List.mem_or_eq_of_mem_set live with old | new
      · exact same ▸ timed.timers ticked due old
      · cases new
        exact ⟨same ▸ (timed.timers ticked fired (List.mem_of_getElem? found)).1, fresh election.now⟩
    · exact timed.timers region due live
  | stopped stopped =>
    rw [assign_processes] at live
    split at live
    · rename_i same
      unfold Process.clearInterval at live
      split at live
      · rcases List.mem_or_eq_of_mem_set live with old | new
        · exact same ▸ timed.timers stopped due old
        · cases new
      · exact same ▸ timed.timers stopped due live
    · exact timed.timers region due live
  | crashed crashed =>
    rw [assign_processes] at live
    split at live
    · cases live
    · exact timed.timers region due live

/-- So do the calls. -/
theorem calls_step (timed : Timed fleet lag election) (quiet : Quiet fleet lag election action next)
    (member : call ∈ next.calls) :
    call.regionId ∈ fleet ∧ Near lag next.now call.deadline := by
  cases quiet with
  | elapsed later forward timers calls =>
    obtain ⟨known, near⟩ := timed.calls call member
    exact ⟨known, calls call member, by linarith [near.2]⟩
  | wrote => exact timed.calls call member
  | started started known =>
    rcases List.mem_append.mp member with old | new
    · exact timed.calls call old
    · cases List.mem_singleton.mp new
      exact ⟨known, le_add_of_nonneg_right (Int.natCast_nonneg lag), le_refl _⟩
  | registered position sent registry found stage =>
    rcases mem_replaced.mp member with new | old
    · cases List.mem_singleton.mp new
      exact timed.calls sent (List.mem_of_getElem? found)
    · exact timed.calls call ((mem_calls found).mpr (.inr old))
  | armed position sent found stage =>
    rcases mem_replaced.mp member with new | old
    · cases new
    · exact timed.calls call ((mem_calls found).mpr (.inr old))
  | ticked ticked timer fired found waited =>
    rw [tick_calls] at member
    rw [tick_now]
    split at member
    · rcases List.mem_append.mp member with old | new
      · exact timed.calls call old
      · cases List.mem_singleton.mp new
        obtain ⟨known, soon⟩ := timed.timers ticked fired (List.mem_of_getElem? found)
        exact ⟨known, soon.1, by linarith⟩
    · exact timed.calls call member
  | stopped => exact timed.calls call member
  | crashed crashed =>
    rcases mem_orphans.mp member with ⟨old, -⟩ | ⟨sent, old, -, rfl, -⟩
    · exact timed.calls call old
    · exact timed.calls sent old

/-- Of a list with one element replaced, all others are still there. -/
theorem mem_set_or {α : Type} {list : List α} {index : Nat} {old new other : α}
    (found : list[index]? = some old) (member : other ∈ list) :
    other = old ∨ other ∈ list.set index new := by
  obtain ⟨position, inside, rfl⟩ := List.getElem_of_mem member
  by_cases here : index = position
  · subst here
    exact .inl (Option.some.inj ((List.getElem?_eq_getElem inside).symm.trans found))
  · refine .inr (List.mem_of_getElem? (i := position) ?_)
    rw [List.getElem?_set_ne here, List.getElem?_eq_getElem inside]

/-- A region that has stopped or crashed does not run. -/
theorem clear_running (process : Process) : process.clearInterval.running = process.running := by
  unfold Process.clearInterval
  split <;> rfl

/-- Whoever runs goes on. -/
theorem goesOn_step (timed : Timed fleet lag election)
    (quiet : Quiet fleet lag election action next)
    (runs : (next.processes region).running = true) :
    (∃ due, some due ∈ (next.processes region).timers) ∨
      ∃ call ∈ next.calls, call.regionId = region ∧ call.stage ≠ .ticking := by
  cases quiet with
  | elapsed | wrote => exact timed.goesOn region runs
  | started started known =>
    simp only [Election.send, assign_processes] at runs ⊢
    split at runs
    · rename_i same
      exact .inr ⟨_, List.mem_append_right _ (List.mem_cons_self ..), same.symm, by rintro ⟨⟩⟩
    · rename_i other
      rw [if_neg other]
      exact (timed.goesOn region runs).imp_right fun ⟨call, member, about⟩ =>
        ⟨call, List.mem_append_left _ member, about⟩
  | registered position sent registry found stage =>
    refine (timed.goesOn region runs).imp_right ?_
    rintro ⟨call, member, about, waits⟩
    rcases (mem_calls found).mp member with rfl | other
    · exact ⟨_, mem_replaced.mpr (.inl (List.mem_cons_self ..)), about, by rintro ⟨⟩⟩
    · exact ⟨call, mem_replaced.mpr (.inr other), about, waits⟩
  | armed position sent found stage =>
    simp only [Election.replace, assign_processes] at runs ⊢
    split at runs
    · rename_i same
      rw [if_pos same]
      exact .inl ⟨_, List.mem_append_right _ (List.mem_cons_self ..)⟩
    · rename_i foreign
      rw [if_neg foreign]
      refine (timed.goesOn region runs).imp_right ?_
      rintro ⟨call, member, about, waits⟩
      rcases (mem_calls found).mp member with rfl | other
      · exact absurd about.symm foreign
      · exact ⟨call, mem_replaced.mpr (.inr other), about, waits⟩
  | ticked ticked timer fired found waited =>
    simp only [tick_processes, tick_calls] at runs ⊢
    have kept (call : Call) (member : call ∈ election.calls) : call ∈
        if (election.processes ticked).running = true then
          election.calls ++ [⟨ticked, .ticking, fired + lag⟩] else election.calls := by
      split
      · exact List.mem_append_left _ member
      · exact member
    split at runs
    · rename_i same
      rw [if_pos same]
      exact .inl ⟨_, List.mem_set (List.getElem?_eq_some_iff.mp found).1 _⟩
    · rename_i other
      rw [if_neg other]
      exact (timed.goesOn region runs).imp_right fun ⟨call, member, about⟩ =>
        ⟨call, kept call member, about⟩
  | stopped stopped =>
    rw [assign_processes] at runs ⊢
    split at runs
    · rw [clear_running] at runs
      cases runs
    · rename_i other
      rw [if_neg other]
      exact timed.goesOn region runs
  | crashed crashed =>
    rw [assign_processes] at runs ⊢
    split at runs
    · cases runs
    · rename_i other
      rw [if_neg other]
      refine (timed.goesOn region runs).imp_right ?_
      rintro ⟨call, member, about, waits⟩
      exact ⟨call, mem_orphans.mpr (.inl ⟨member, about.trans_ne other⟩), about, waits⟩

/-- The processes after a call is executed. -/
theorem acquire_processes {regionId : RegionId} :
    ((election.acquire regionId).1.processes region) =
      if region = regionId then { election.processes regionId with called := true }
      else election.processes region := assign_processes

/-- A step keeps the fleet in time. -/
theorem timed_step (timed : Timed fleet lag election)
    (steps : Steps fleet lag election action next observed) : Timed fleet lag next := by
  cases steps with
  | quiet quiet =>
    exact ⟨fun region due => timers_step timed quiet, fun call => calls_step timed quiet,
      fun region => goesOn_step timed quiet⟩
  | executed position sent left found stage =>
    have processes (region : RegionId) :
        (((election.acquire sent.regionId).1.processes region).timers =
          (election.processes region).timers) ∧
        ((election.acquire sent.regionId).1.processes region).running =
          (election.processes region).running := by
      rw [acquire_processes]
      split
      · rename_i same
        exact same ▸ ⟨rfl, rfl⟩
      · exact ⟨rfl, rfl⟩
    refine ⟨fun region due live => ?_, fun call member => ?_, fun region runs => ?_⟩
    · exact timed.timers region due ((processes region).1 ▸ live)
    · rcases mem_replaced.mp member with new | other
      · have before := timed.calls sent (List.mem_of_getElem? found)
        rcases stage with ⟨-, rfl⟩ | ⟨-, rfl⟩
        · cases List.mem_singleton.mp new
          exact before
        · cases new
      · exact timed.calls call ((mem_calls found).mpr (.inr other))
    · rcases timed.goesOn region ((processes region).2.symm.trans runs) with ⟨due, live⟩ |
        ⟨call, member, about, waits⟩
      · exact .inl ⟨due, (processes region).1.symm ▸ live⟩
      · rcases (mem_calls found).mp member with rfl | other
        · rcases stage with ⟨-, rfl⟩ | ⟨ticking, -⟩
          · exact .inr ⟨_, mem_replaced.mpr (.inl (List.mem_cons_self ..)), about, by rintro ⟨⟩⟩
          · exact absurd ticking waits
        · exact .inr ⟨call, mem_replaced.mpr (.inr other), about, waits⟩

end Timing

section Renewals

variable {fleet : List RegionId} {lag : Nat} {election next : Election} {observed : List Event}
  {action : Action} {region : RegionId} {bound later : Time}

/-- When the database executes a call at the latest, or the next one that a timer sends. -/
def Call.latest (lag : Nat) (call : Call) : Time :=
  match call.stage with
  | .arming => call.deadline + heartbeatMs + lag
  | .registering | .starting | .ticking => call.deadline

/-- A region that runs calls the database once more until then. -/
def Renews (lag : Nat) (election : Election) (region : RegionId) (bound : Time) : Prop :=
  (∃ due, some due ∈ (election.processes region).timers ∧ due + lag ≤ bound) ∨
    ∃ call ∈ election.calls, call.regionId = region ∧ call.latest lag ≤ bound

/-- Whatever comes is later. -/
theorem Renews.mono (renews : Renews lag election region bound) (more : bound ≤ later) :
    Renews lag election region later :=
  renews.imp (fun ⟨due, live, soon⟩ => ⟨due, live, soon.trans more⟩)
    fun ⟨call, member, about, soon⟩ => ⟨call, member, about, soon.trans more⟩

/-- It is not too late for it. -/
theorem Renews.inTime (timed : Timed fleet lag election)
    (renews : Renews lag election region bound) : election.now ≤ bound := by
  rcases renews with ⟨due, live, soon⟩ | ⟨call, member, -, soon⟩
  · exact (timed.timers region due live).2.1.trans soon
  · have least : call.deadline ≤ call.latest lag := by
      unfold Call.latest
      split <;> linarith [Int.natCast_nonneg lag, Int.natCast_nonneg heartbeatMs]
    exact (timed.calls call member).2.1.trans (least.trans soon)

/-- Whoever runs calls again within a heartbeat and twice the lag. -/
theorem Timed.renews (timed : Timed fleet lag election)
    (runs : (election.processes region).running = true) :
    Renews lag election region (election.now + heartbeatMs + 2 * lag) := by
  have lagging := Int.natCast_nonneg lag
  have beating := Int.natCast_nonneg heartbeatMs
  rcases timed.goesOn region runs with ⟨due, live⟩ | ⟨call, member, about, -⟩
  · exact .inl ⟨due, live, by linarith [(timed.timers region due live).2.2]⟩
  · refine .inr ⟨call, member, about, ?_⟩
    have near := (timed.calls call member).2.2
    unfold Call.latest
    split <;> linarith

/-- A step that executes no call puts none off, as long as the region runs. -/
theorem renews_step (timed : Timed fleet lag election)
    (quiet : Quiet fleet lag election action next)
    (ran : (election.processes region).running = true)
    (runs : (next.processes region).running = true)
    (renews : Renews lag election region bound) : Renews lag next region bound := by
  cases quiet with
  | elapsed | wrote => exact renews
  | started started known =>
    refine renews.imp (fun ⟨due, live, soon⟩ => ⟨due, ?_, soon⟩)
      fun ⟨call, member, about⟩ => ⟨call, List.mem_append_left _ member, about⟩
    simp only [Election.send, assign_processes]
    split
    · rename_i same
      exact same ▸ live
    · exact live
  | registered position sent registry found stage =>
    refine renews.imp_right ?_
    rintro ⟨call, member, about, soon⟩
    rcases (mem_calls found).mp member with rfl | other
    · rw [Call.latest, stage] at soon
      exact ⟨_, mem_replaced.mpr (.inl (List.mem_cons_self ..)), about, soon⟩
    · exact ⟨call, mem_replaced.mpr (.inr other), about, soon⟩
  | armed position sent found stage =>
    rcases renews with ⟨due, live, soon⟩ | ⟨call, member, about, soon⟩
    · refine .inl ⟨due, ?_, soon⟩
      simp only [Election.replace, assign_processes]
      split
      · rename_i same
        exact List.mem_append_left _ (same ▸ live)
      · exact live
    · rcases (mem_calls found).mp member with rfl | other
      · refine .inl ⟨election.now + heartbeatMs, ?_, ?_⟩
        · simp only [Election.replace, assign_processes, if_pos about.symm]
          exact List.mem_append_right _ (List.mem_cons_self ..)
        · rw [Call.latest, stage] at soon
          linarith [(timed.calls call member).2.1]
      · exact .inr ⟨call, mem_replaced.mpr (.inr other), about, soon⟩
  | ticked ticked timer fired found waited =>
    rcases renews with ⟨due, live, soon⟩ | ⟨call, member, about, soon⟩
    · by_cases same : region = ticked
      · subst same
        rcases mem_set_or found live with ⟨⟨⟩⟩ | other
        · refine .inr ⟨⟨region, .ticking, fired + lag⟩, ?_, rfl, soon⟩
          rw [tick_calls, if_pos ran]
          exact List.mem_append_right _ (List.mem_cons_self ..)
        · refine .inl ⟨due, ?_, soon⟩
          rw [tick_processes, if_pos rfl]
          exact other
      · refine .inl ⟨due, ?_, soon⟩
        rw [tick_processes, if_neg same]
        exact live
    · refine .inr ⟨call, ?_, about, soon⟩
      rw [tick_calls]
      split
      · exact List.mem_append_left _ member
      · exact member
  | stopped stopped =>
    rw [assign_processes] at runs
    split at runs
    · rw [clear_running] at runs
      cases runs
    · rename_i other
      refine renews.imp_left fun ⟨due, live, soon⟩ => ⟨due, ?_, soon⟩
      rw [assign_processes, if_neg other]
      exact live
  | crashed crashed =>
    rw [assign_processes] at runs
    split at runs
    · cases runs
    · rename_i other
      rcases renews with ⟨due, live, soon⟩ | ⟨call, member, about, soon⟩
      · refine .inl ⟨due, ?_, soon⟩
        rw [assign_processes, if_neg other]
        exact live
      · exact .inr ⟨call, mem_orphans.mpr (.inl ⟨member, about.trans_ne other⟩), about, soon⟩

/-- Nor does a call of another region. -/
theorem renews_other {position : Nat} {sent : Call} {left : List Call}
    (found : election.calls[position]? = some sent) (other : region ≠ sent.regionId)
    (renews : Renews lag election region bound) :
    Renews lag ((election.acquire sent.regionId).1.replace position left) region bound := by
  rcases renews with ⟨due, live, soon⟩ | ⟨call, member, about, soon⟩
  · refine .inl ⟨due, ?_, soon⟩
    rw [Election.replace, acquire_processes, if_neg other]
    exact live
  · rcases (mem_calls found).mp member with rfl | kept
    · exact absurd about.symm other
    · exact .inr ⟨call, mem_replaced.mpr (.inr kept), about, soon⟩

/-- What such a step says of the lease and of those who have settled. -/
theorem quiet_frame (quiet : Quiet fleet lag election action next) :
    next.store.lock = election.store.lock ∧ election.now ≤ next.now ∧
      ∀ region, (next.processes region).settled = true →
        (election.processes region).settled = true := by
  cases quiet with
  | elapsed later forward => exact ⟨rfl, forward, fun _ settled => settled⟩
  | wrote | registered => exact ⟨rfl, le_refl _, fun _ settled => settled⟩
  | started started known =>
    refine ⟨rfl, le_refl _, fun region settled => ?_⟩
    simp only [Election.send, assign_processes] at settled
    split at settled
    · simp [Process.settled] at settled
    · exact settled
  | armed position sent found stage =>
    refine ⟨rfl, le_refl _, fun region settled => ?_⟩
    simp only [Election.replace, assign_processes] at settled
    split at settled
    · rename_i same
      exact same ▸ settled
    · exact settled
  | ticked ticked timer fired found waited =>
    rw [tick_now, tick_store]
    refine ⟨rfl, le_refl _, fun region settled => ?_⟩
    rw [tick_processes] at settled
    split at settled
    · rename_i same
      exact same ▸ settled
    · exact settled
  | stopped stopped =>
    refine ⟨rfl, le_refl _, fun region settled => ?_⟩
    rw [assign_processes] at settled
    split at settled
    · simp [Process.settled, clear_running] at settled
    · exact settled
  | crashed crashed =>
    refine ⟨rfl, le_refl _, fun region settled => ?_⟩
    rw [assign_processes] at settled
    split at settled
    · cases settled
    · exact settled

/-- Whoever has settled runs. -/
theorem settled_runs {process : Process} (settled : process.settled = true) :
    process.running = true := (Bool.and_eq_true_iff.mp settled).1

end Renewals

section Leases

variable {fleet : List RegionId} {lag : Nat} {election next : Election} {observed : List Event}
  {action : Action} {regionId : RegionId}

/-- Whoever has settled and holds the lease calls again before it ends, and looks at an ended one
soon. -/
structure Leased (lag : Nat) (election : Election) : Prop where
  locked : ∀ region, (election.processes region).settled = true →
    ∃ lock, election.store.lock = some lock
  renewed : ∀ lock, election.store.lock = some lock →
    (election.processes lock.regionId).settled = true →
      ∃ bound < lock.expiresAt, Renews lag election lock.regionId bound
  bounded : ∀ lock, election.store.lock = some lock →
    lock.expiresAt ≤ election.now + leaderLeaseMs
  noticed : ∀ lock region, election.store.lock = some lock →
    (election.processes region).settled = true → lock.expiresAt ≤ election.now →
      Renews lag election region (lock.expiresAt + heartbeatMs + 2 * lag)

/-- While it runs, a leader has a lease. -/
theorem Leased.unexpired (leased : Leased lag election) (timed : Timed fleet lag election)
    {lock : LeaderLock} (locked : election.store.lock = some lock)
    (settled : (election.processes lock.regionId).settled = true) :
    election.now < lock.expiresAt := by
  obtain ⟨bound, before, renews⟩ := leased.renewed lock locked settled
  exact lt_of_le_of_lt (renews.inTime timed) before

/-- A call that succeeds on a lock of another region finds its lease expired. -/
theorem taken_expired {lock : LeaderLock} {store : Store} {verdict : Bool} {now : Time}
    (acquires : Acquires regionId leaderLeaseMs now election.store store verdict)
    (locked : election.store.lock = some lock) (granted : verdict = true)
    (foreign : lock.regionId ≠ regionId) : lock.expiresAt ≤ now := by
  cases acquires with
  | first absent =>
    rw [locked] at absent
    cases absent
  | renewed other found own =>
    obtain rfl : lock = other := Option.some.inj (locked.symm.trans found)
    exact absurd own foreign
  | stolen other found expired =>
    obtain rfl : lock = other := Option.some.inj (locked.symm.trans found)
    exact expired
  | refused => cases granted

/-- Whom a call takes the lease from. -/
theorem acquire_taken (leased : Leased lag election) (timed : Timed fleet lag election) :
    ∀ thief victim settled, .taken thief victim settled ∈ (election.acquire regionId).2 →
      settled = false := by
  intro thief victim settled member
  simp only [Election.acquire] at member
  split at member
  · cases member
  · rename_i lock locked
    split at member
    · rename_i stolen
      cases List.mem_singleton.mp member
      have expired := taken_expired (acquire_cases rfl) locked stolen.1 stolen.2
      cases runs : (election.processes lock.regionId).settled with
      | false => rfl
      | true => exact absurd (leased.unexpired timed locked runs) (not_lt_of_ge expired)
    · cases member

/-- What a call leaves: the caller's own fresh lease, or an unexpired one of another region. -/
theorem acquire_lock (regionId : RegionId) (now : Time) (store : Store) :
    ∃ lock, (acquireRegionLeader regionId leaderLeaseMs now store).1.lock = some lock ∧
      (lock.regionId = regionId ∧ lock.expiresAt = now + leaderLeaseMs ∨
        lock.regionId ≠ regionId ∧ now < lock.expiresAt ∧ store.lock = some lock) := by
  generalize called : acquireRegionLeader regionId leaderLeaseMs now store = outcome
  obtain ⟨next, verdict⟩ := outcome
  cases acquire_cases called with
  | first absent => exact ⟨_, rfl, .inl ⟨rfl, rfl⟩⟩
  | renewed lock found own => exact ⟨_, rfl, .inl ⟨own, rfl⟩⟩
  | stolen lock found expired => exact ⟨_, rfl, .inl ⟨rfl, rfl⟩⟩
  | refused lock found foreign unexpired => exact ⟨_, found, .inr ⟨foreign, unexpired, found⟩⟩

/-- A step that executes no call leaves the lease to be renewed in time. -/
theorem leased_quiet (leased : Leased lag election) (timed : Timed fleet lag election)
    (quiet : Quiet fleet lag election action next) : Leased lag next := by
  obtain ⟨same, forward, settled⟩ := quiet_frame quiet
  have goesOn {region : RegionId} {bound : Time} (stays : (next.processes region).settled = true)
      (renews : Renews lag election region bound) : Renews lag next region bound :=
    renews_step timed quiet (settled_runs (settled region stays)) (settled_runs stays) renews
  refine ⟨fun region stays => ?_, fun lock locked stays => ?_, fun lock locked => ?_,
    fun lock region locked stays expired => ?_⟩
  · rw [same]
    exact leased.locked region (settled region stays)
  · obtain ⟨bound, before, renews⟩ := leased.renewed lock (same ▸ locked) (settled _ stays)
    exact ⟨bound, before, goesOn stays renews⟩
  · linarith [leased.bounded lock (same ▸ locked)]
  · refine goesOn stays ?_
    rcases lt_or_ge election.now lock.expiresAt with lives | ended
    · exact (timed.renews (settled_runs (settled region stays))).mono (by linarith)
    · exact leased.noticed lock region (same ▸ locked) (settled region stays) ended

/-- Nor does a call that the database executes. -/
theorem leased_executed (small : lag < 10000) (leased : Leased lag election)
    {position : Nat} {sent : Call} {left : List Call}
    (found : election.calls[position]? = some sent)
    (timed : Timed fleet lag ((election.acquire sent.regionId).1.replace position left)) :
    Leased lag ((election.acquire sent.regionId).1.replace position left) := by
  obtain ⟨lock, locked, kinds⟩ := acquire_lock sent.regionId election.now election.store
  have stored : ((election.acquire sent.regionId).1.replace position left).store.lock =
      some lock := locked
  have clock : ((election.acquire sent.regionId).1.replace position left).now = election.now := rfl
  have lease : leaderLeaseMs = 30000 := rfl
  have beat : (heartbeatMs : Time) = 10000 := rfl
  have smaller : (lag : Time) < 10000 := by exact_mod_cast small
  have lives : election.now < lock.expiresAt := by
    rcases kinds with ⟨-, fresh⟩ | ⟨-, unexpired, -⟩
    · rw [fresh, lease]
      linarith
    · exact unexpired
  refine ⟨fun _ _ => ⟨lock, stored⟩, fun other present settled => ?_, fun other present => ?_,
    fun other region present settled expired => ?_⟩
  · obtain rfl : lock = other := Option.some.inj (stored.symm.trans present)
    rcases kinds with ⟨-, fresh⟩ | ⟨foreign, -, before⟩
    · refine ⟨_, ?_, timed.renews (settled_runs settled)⟩
      rw [clock, fresh, lease, beat]
      linarith
    · have same : ((election.acquire sent.regionId).1.processes lock.regionId) =
          election.processes lock.regionId := by rw [acquire_processes, if_neg foreign]
      have was : (election.processes lock.regionId).settled = true := by rw [← same]; exact settled
      obtain ⟨bound, early, renews⟩ := leased.renewed lock before was
      exact ⟨bound, early, renews_other found foreign renews⟩
  · obtain rfl : lock = other := Option.some.inj (stored.symm.trans present)
    rcases kinds with ⟨-, fresh⟩ | ⟨-, -, before⟩
    · exact le_of_eq fresh
    · exact leased.bounded lock before
  · obtain rfl : lock = other := Option.some.inj (stored.symm.trans present)
    exact absurd expired (not_le_of_gt lives)

/-- No step lets a leader that runs miss its lease. -/
theorem leased_step (small : lag < 10000) (leased : Leased lag election)
    (timed : Timed fleet lag election) (steps : Steps fleet lag election action next observed) :
    Leased lag next := by
  have after := timed_step timed steps
  cases steps with
  | quiet quiet => exact leased_quiet leased timed quiet
  | executed position sent left found stage => exact leased_executed small leased found after

/-- Nor takes it from one. -/
theorem taken_step (leased : Leased lag election) (timed : Timed fleet lag election)
    (steps : Steps fleet lag election action next observed) :
    ∀ thief victim settled, .taken thief victim settled ∈ observed → settled = false := by
  cases steps with
  | quiet => exact fun _ _ _ member => absurd member List.not_mem_nil
  | executed position sent left found stage => exact acquire_taken leased timed

/-- What a region that has stopped may still hold: its calls that are on their way may renew its
lease once more. -/
structure Down (lag : Nat) (down : RegionId) (stoppedAt : Time) (election : Election) : Prop where
  stopped : (election.processes down).running = false
  sent : ∀ call ∈ election.calls, call.regionId = down → call.deadline ≤ stoppedAt + lag
  old : ∀ lock, election.store.lock = some lock → lock.regionId = down →
    lock.expiresAt ≤ stoppedAt + lag + leaderLeaseMs

/-- A region stays down, and sends no other call. -/
theorem down_quiet {down : RegionId} {stoppedAt : Time} (stays : Down lag down stoppedAt election)
    (never : action ≠ .start down) (quiet : Quiet fleet lag election action next) :
    Down lag down stoppedAt next := by
  have lock := (quiet_frame quiet).1
  refine ⟨?_, fun call member own => ?_, fun found locked => stays.old found (lock ▸ locked)⟩
  · cases quiet with
    | elapsed | wrote | registered => exact stays.stopped
    | started started known =>
      have other : down ≠ started := fun same => never (same ▸ rfl)
      rw [Election.send, assign_processes, if_neg other]
      exact stays.stopped
    | armed position call sent stage =>
      rw [Election.replace, assign_processes]
      split
      · rename_i same
        exact same ▸ stays.stopped
      · exact stays.stopped
    | ticked ticked timer due =>
      rw [tick_processes]
      split
      · rename_i same
        exact same ▸ stays.stopped
      · exact stays.stopped
    | stopped stopped =>
      rw [assign_processes]
      split
      · exact clear_running _
      · exact stays.stopped
    | crashed crashed =>
      rw [assign_processes]
      split
      · rfl
      · exact stays.stopped
  · cases quiet with
    | elapsed | wrote | stopped => exact stays.sent call member own
    | started started known =>
      rcases List.mem_append.mp member with old | new
      · exact stays.sent call old own
      · cases List.mem_singleton.mp new
        exact absurd (own ▸ rfl) never
    | registered position sent registry found stage =>
      rcases mem_replaced.mp member with new | other
      · cases List.mem_singleton.mp new
        exact stays.sent sent (List.mem_of_getElem? found) own
      · exact stays.sent call ((mem_calls found).mpr (.inr other)) own
    | armed position sent found stage =>
      rcases mem_replaced.mp member with new | other
      · cases new
      · exact stays.sent call ((mem_calls found).mpr (.inr other)) own
    | ticked ticked timer due =>
      rw [tick_calls] at member
      split at member
      · rename_i runs
        rcases List.mem_append.mp member with old | new
        · exact stays.sent call old own
        · cases List.mem_singleton.mp new
          cases (own ▸ stays.stopped).symm.trans runs
      · exact stays.sent call member own
    | crashed crashed =>
      rcases mem_orphans.mp member with ⟨old, -⟩ | ⟨sent, old, same, rfl, -⟩
      · exact stays.sent call old own
      · exact stays.sent sent old own

/-- A call of it that is executed was sent before. -/
theorem down_step {down : RegionId} {stoppedAt : Time} (timed : Timed fleet lag election)
    (stays : Down lag down stoppedAt election) (never : action ≠ .start down)
    (steps : Steps fleet lag election action next observed) : Down lag down stoppedAt next := by
  cases steps with
  | quiet quiet => exact down_quiet stays never quiet
  | executed position sent left found stage =>
    have member := List.mem_of_getElem? found
    obtain ⟨lock, locked, kinds⟩ := acquire_lock sent.regionId election.now election.store
    refine ⟨?_, fun call after own => ?_, fun other present own => ?_⟩
    · rw [Election.replace, acquire_processes]
      split
      · rename_i same
        exact same ▸ stays.stopped
      · exact stays.stopped
    · rcases mem_replaced.mp after with new | other
      · rcases stage with ⟨-, rfl⟩ | ⟨-, rfl⟩
        · cases List.mem_singleton.mp new
          exact stays.sent sent member own
        · cases new
      · exact stays.sent call ((mem_calls found).mpr (.inr other)) own
    · obtain rfl : lock = other := Option.some.inj (locked.symm.trans present)
      rcases kinds with ⟨same, fresh⟩ | ⟨-, -, before⟩
      · have deadline := stays.sent sent member (same.symm.trans own)
        linarith [(timed.calls sent member).2.1]
      · exact stays.old lock before own

end Leases

section Runs

variable {fleet : List RegionId} {lag : Nat} {election later : Election}
  {history rest : List Event} {now : Time}

/-- A fleet that starts stopped stays in time, and its leaders keep their leases. -/
theorem run_leased (small : lag < 10000)
    (run : Run (steps fleet lag) (stopped now) history election) :
    Timed fleet lag election ∧ Leased lag election := by
  refine run.invariant (fun _ election => Timed fleet lag election ∧ Leased lag election) ?_ ?_
  · refine ⟨⟨fun _ _ live => ?_, fun _ member => ?_, by rintro _ ⟨⟩⟩,
      ⟨by rintro _ ⟨⟩, by rintro _ ⟨⟩, by rintro _ ⟨⟩, by rintro _ _ ⟨⟩⟩⟩
    · exact absurd live List.not_mem_nil
    · exact absurd member List.not_mem_nil
  · rintro history observed election next - ⟨timed, leased⟩ ⟨action, -, taken⟩
    have steps := step_cases taken
    exact ⟨timed_step timed steps, leased_step small leased timed steps⟩

/-- No lease is taken from a region that has settled. -/
theorem run_taken (small : lag < 10000)
    (run : Run (steps fleet lag) (stopped now) history election) :
    ∀ thief victim settled, .taken thief victim settled ∈ history → settled = false := by
  refine run.invariant (fun history _ => ∀ thief victim settled,
    .taken thief victim settled ∈ history → settled = false)
    (fun _ _ _ member => absurd member List.not_mem_nil) ?_
  rintro history observed election next before inductionHypothesis ⟨action, -, taken⟩
    thief victim settled member
  rcases List.mem_append.mp member with old | new
  · exact inductionHypothesis thief victim settled old
  · obtain ⟨timed, leased⟩ := run_leased small before
    exact taken_step leased timed (step_cases taken) thief victim settled new

/-- A region that stops stays down until it is started. -/
theorem run_down {down : RegionId} (timed : Timed fleet lag election)
    (leased : Leased lag election) (idle : (election.processes down).running = false)
    (more : Run (takes (step fleet lag) fun _ action => action ≠ .start down) election rest later) :
    Timed fleet lag later ∧ Down lag down election.now later := by
  refine more.invariant (fun _ later => Timed fleet lag later ∧ Down lag down election.now later)
    ⟨timed, idle, fun call member _ => (timed.calls call member).2.2, fun lock locked _ => ?_⟩ ?_
  · linarith [leased.bounded lock locked, Int.natCast_nonneg lag]
  · rintro history observed election next - ⟨timed, stays⟩ ⟨action, never, taken⟩
    have steps := step_cases taken
    exact ⟨timed_step timed steps, down_step timed stays never steps⟩

/-- While any region runs, from its first call on, there is a lock, and its lease has not been over
for longer than a heartbeat and twice the lag. No such region loses its lease to another. When one
has stopped for a lease, a heartbeat and three times the lag, the lock is another's, if any other
runs. -/
theorem leader_available (small : lag < 10000)
    (run : Run (steps fleet lag) (stopped now) history election) :
    (∀ region, (election.processes region).settled = true → ∃ lock,
      election.store.lock = some lock ∧ election.now ≤ lock.expiresAt + 10000 + 2 * lag) ∧
    (∀ thief victim settled, .taken thief victim settled ∈ history → settled = false) ∧
    ∀ down successor rest later, (election.processes down).running = false →
      Run (takes (step fleet lag) fun _ action => action ≠ .start down) election rest later →
      (later.processes successor).settled = true → election.now + 40000 + 3 * lag < later.now →
        ∃ lock, later.store.lock = some lock ∧ lock.regionId ≠ down := by
  have available {history : List Event} {election : Election}
      (run : Run (steps fleet lag) (stopped now) history election) (region : RegionId)
      (settled : (election.processes region).settled = true) : ∃ lock,
        election.store.lock = some lock ∧ election.now ≤ lock.expiresAt + 10000 + 2 * lag := by
    obtain ⟨timed, leased⟩ := run_leased small run
    obtain ⟨lock, locked⟩ := leased.locked region settled
    refine ⟨lock, locked, ?_⟩
    rcases lt_or_ge election.now lock.expiresAt with lives | ended
    · linarith [Int.natCast_nonneg lag]
    · exact (leased.noticed lock region locked settled ended).inTime timed
  refine ⟨available run, run_taken small run,
    fun down successor rest later idle more settled late => ?_⟩
  have all : Run (steps fleet lag) (stopped now) (history ++ rest) later :=
    run.trans (more.mono fun ⟨action, _, taken⟩ => ⟨action, trivial, taken⟩)
  obtain ⟨lock, locked, recent⟩ := available all successor settled
  refine ⟨lock, locked, fun holds => ?_⟩
  obtain ⟨timed, leased⟩ := run_leased small run
  have old := (run_down timed leased idle more).2.old lock locked holds
  have lease : leaderLeaseMs = 30000 := rfl
  rw [lease] at old
  linarith

/-- Two regions start and tick, and the leader stops with a call on its way. -/
def beforeStop : List Action :=
  [.start "us-east-1", .proceed 0, .proceed 0, .proceed 0, .elapse 5000, .start "eu-west-1",
    .proceed 0, .proceed 0, .proceed 0, .elapse 10000, .tick "us-east-1" 0, .proceed 0,
    .elapse 15000, .tick "eu-west-1" 0, .proceed 0, .elapse 20000, .tick "us-east-1" 0,
    .stop "us-east-1"]

/-- The call renews the lease of the stopped region, and the other region goes on. -/
def afterStop : List Action :=
  [.elapse 22000, .proceed 0, .elapse 25000, .tick "eu-west-1" 0, .proceed 0, .elapse 35000,
    .tick "eu-west-1" 0, .proceed 0, .elapse 45000, .tick "eu-west-1" 0, .proceed 0,
    .elapse 55000, .tick "eu-west-1" 0, .proceed 0, .elapse 65000, .tick "eu-west-1" 0,
    .proceed 0, .elapse 66001]

/-- The regions of the fleet. -/
def regions : List RegionId := ["us-east-1", "eu-west-1"]

/-- Both parts go through. -/
theorem stop_accepted : (execute (step regions 2000) (stopped 0) beforeStop).isSome := by
  decide +kernel

/-- The fleet when the leader stops. -/
def halfStopped : Election :=
  ((execute (step regions 2000) (stopped 0) beforeStop).get stop_accepted).1

/-- The rest of it goes through as well. -/
theorem takeover_accepted : (execute (restrict (step regions 2000)
    fun _ action => action ≠ .start "us-east-1") halfStopped afterStop).isSome := by decide +kernel

/-- The other region leads in the end. -/
theorem successor_leads : ∃ history rest later lock,
    Run (steps regions 2000) (stopped 0) history halfStopped ∧
    Run (takes (step regions 2000) fun _ action => action ≠ .start "us-east-1") halfStopped rest
      later ∧
    halfStopped.now = 20000 ∧ halfStopped.calls.length = 1 ∧ later.now = 66001 ∧
    later.store.lock = some lock ∧ lock.regionId ≠ "us-east-1" := by
  have stop : Run (steps regions 2000) (stopped 0) _ halfStopped :=
    run_of_schedule beforeStop stop_accepted
  have more : Run (takes (step regions 2000) fun _ action => action ≠ .start "us-east-1")
      halfStopped _ _ := run_of_restricted afterStop takeover_accepted
  obtain ⟨lock, locked, other⟩ := (leader_available (by decide) stop).2.2 "us-east-1" "eu-west-1"
    _ _ (by decide +kernel) more (by decide +kernel) (by decide +kernel)
  exact ⟨_, _, _, lock, stop, more, by decide +kernel, by decide +kernel, by decide +kernel, locked,
    other⟩

end Runs

end PlanBuddy.RegionFailover
