import PlanBuddy.Idempotency

/-!
# Ownership of the idempotency lock

Seen at the lock key alone, a run of requests is a run of a lock that expires,
provided every deletion follows the discipline of that lock: the request that
deletes acquired the key less than its lifetime ago, or there is no key. The code
checks neither. The release after a handler and the clean-up after an unexpected
error delete the key by name.

Nothing here depends on what is cached or answered, nor on which commands fail.
-/

namespace PlanBuddy.Idempotency

/-- The part of a history that concerns the lock key. -/
def lockEvent : Event → Option (TimedLock.Event RequestId)
  | .acquired request => some (.acquired request)
  | .deleted request owner => some (.deleted request owner)
  | _ => none

/-- A deletion of the lock key, if this action issues one, follows the discipline. -/
def OwnRelease (server : Server) : Action → Prop
  | .cleanUp request ready succeeded | .deleteLock request ready succeeded =>
    ready = true → succeeded = true → TimedLock.OwnDelete lockTtl server.lock request
  | _ => True

instance (server : Server) : (action : Action) → Decidable (OwnRelease server action)
  | .cleanUp _ _ _ | .deleteLock _ _ _ => inferInstanceAs (Decidable (_ → _ → _))
  | .pass _ | .arrive _ _ | .getDone _ _ | .deleteDone _ _ | .getRow _ _ | .setLock _ _
  | .trackConflict _ | .intercept _ | .throw _ | .respond _ _ | .setDone _ _ _ | .setRow _ _ =>
    inferInstanceAs (Decidable True)

/-- No deletion among the events removed the lock of another request. -/
def OwnDeletions (observed : List Event) : Prop :=
  ∀ request owner, .deleted request (some owner) ∈ observed → owner = request

variable {hours : Option Nat} {parse : String → Option Json}

/-- A release in time is a deletion of the own lock. -/
theorem releaseLock_step {server : Server} {request : RequestId} {ready succeeded : Bool}
    (own : ready = true → succeeded = true → TimedLock.OwnDelete lockTtl server.lock request) :
    TimedLock.Step lockTtl server.lock
      ((releaseLock server request ready succeeded).2.filterMap lockEvent)
      (releaseLock server request ready succeeded).1.lock := by
  unfold releaseLock
  by_cases issued : (ready && succeeded) = true
  · rw [if_pos issued]
    rw [Bool.and_eq_true] at issued
    exact .delete server.lock request (own issued.1 issued.2)
  · rw [if_neg issued]
    exact .idle server.lock

/-- A step whose deletion follows the discipline is a step of the expiring lock. -/
theorem step_lock {server next : Server} {action : Action} {observed : List Event}
    (own : OwnRelease server action)
    (taken : step hours parse server action = some (next, observed)) :
    TimedLock.Step lockTtl server.lock (observed.filterMap lockEvent) next.lock := by
  cases step_cases taken with
  | pass elapsed => exact .pass server.lock _ (by omega)
  | lockAcquired request stands free => exact .acquire server.lock request free
  | cleanUp request ready succeeded answered stands => exact releaseLock_step own
  | setRow request succeeded response lockAcquired stands =>
    cases lockAcquired <;> exact .idle _
  | deleteLock request ready succeeded response stands =>
    have quiet : [Event.replied request .executed response].filterMap lockEvent = [] := rfl
    rw [List.filterMap_append, quiet, List.append_nil]
    exact releaseLock_step own
  | _ => exact .idle _

/-- A release that removes at most the releaser's own lock follows the discipline. -/
theorem releaseLock_own {server : Server} (kept : TimedLock.Kept lockTtl server.lock)
    {request : RequestId} {ready succeeded : Bool}
    (own : OwnDeletions (releaseLock server request ready succeeded).2) (isReady : ready = true)
    (succeeds : succeeded = true) : TimedLock.OwnDelete lockTtl server.lock request := by
  rw [← TimedLock.delete_own_iff kept]
  intro removed held
  refine own request removed ?_
  simp [releaseLock, isReady, succeeds, held]

/-- In a state reached under the discipline, an action deletes no lock of another
request if and only if it follows the discipline itself. -/
theorem step_own_iff {server next : Server} {action : Action} {observed : List Event}
    (kept : TimedLock.Kept lockTtl server.lock)
    (taken : step hours parse server action = some (next, observed)) :
    OwnDeletions observed ↔ OwnRelease server action := by
  constructor
  · intro own
    cases step_cases taken with
    | cleanUp request ready succeeded answered stands => exact releaseLock_own kept own
    | deleteLock request ready succeeded response stands =>
      exact releaseLock_own kept fun deleter owner member =>
        own deleter owner (List.mem_append_left _ member)
    | _ => trivial
  · intro release request owner member
    exact TimedLock.step_deletions kept (step_lock release taken) request owner
      (List.mem_filterMap.mpr ⟨_, member, rfl⟩)

/-- A whole run under the discipline is a run of the expiring lock. -/
theorem lock_run {start server : Server} {history : List Event}
    (run : Run (takes (step hours parse) OwnRelease) start history server) :
    Run (TimedLock.Step lockTtl) start.lock (history.filterMap lockEvent) server.lock :=
  run.simulates Server.lock lockEvent fun _ ⟨_, own, taken⟩ => step_lock own taken

/-- At first nobody holds it. -/
theorem start_kept (now : Time) (done row : Option Stored) :
    TimedLock.Kept lockTtl (Server.start now done row).lock := by
  constructor
  · intro request acquired absent
    cases absent
  · intro cell absent
    cases absent

/-- The lock over every interleaving in which each deletion of its key is issued by a
request that acquired the key less than its lifetime ago, or meets no key. Then no
deletion removes the lock of another request; the requests that acquired the lock, have
not deleted it and are within its lifetime are never two; and such a request is the one
the key protects. In each state so reached, an action deletes another request's lock
exactly when it breaks that condition. -/
theorem release_own {now : Time} {done row : Option Stored} {history : List Event} {server : Server}
    (run : Run (takes (step hours parse) OwnRelease) (Server.start now done row) history server) :
    OwnDeletions history ∧
      (∀ request other, TimedLock.Current lockTtl server.lock request →
        TimedLock.Current lockTtl server.lock other → request = other) ∧
      (∀ request, TimedLock.Current lockTtl server.lock request →
        server.lock.holder = some request) ∧
      (∀ action next observed, step hours parse server action = some (next, observed) →
        (OwnDeletions observed ↔ OwnRelease server action)) := by
  obtain ⟨own, kept⟩ := TimedLock.run_kept (start_kept now done row) (lock_run run)
  refine ⟨?_, ?_, ?_, ?_⟩
  · intro request owner member
    exact own request owner (List.mem_filterMap.mpr ⟨_, member, rfl⟩)
  · exact fun request other => TimedLock.current_unique kept
  · exact fun request => TimedLock.current_holder kept
  · exact fun action next observed taken => step_own_iff kept taken

section Sample

/-- The first handler outlasts the lock, a second request takes it, and the first one's
release deletes it. A third request then holds the lock together with the second. -/
theorem slow_release :
    ∃ history server,
      Run (takes (step none fun _ => none) anyAction) (Server.start 0 none none) history server ∧
        .deleted 1 (some 2) ∈ history ∧
        TimedLock.Current lockTtl server.lock 2 ∧ TimedLock.Current lockTtl server.lock 3 := by
  refine ⟨_, _, run_of_schedule (enter 1 ++ [.pass 31000] ++ enter 2 ++
    [.respond 1 ⟨500, .null⟩, .deleteLock 1 true true] ++ enter 3) rfl, ?_, ?_, ?_⟩
  · exact .tail _ (.tail _ (.tail _ (.head _)))
  · decide
  · decide

/-- The requests of the sample delete their own locks only. -/
theorem release_own_in_time :
    ∃ history server,
      Run (takes (step none fun _ => none) OwnRelease) (Server.start 0 none none) history server ∧
        history.length = 5 ∧ OwnDeletions history := by
  -- the first request releases within its lifetime, the second then acquires
  have run : Run (takes (step none fun _ => none) OwnRelease) (Server.start 0 none none) _ _ :=
    run_of_restricted (enter 1 ++ [.pass 29000, .respond 1 ⟨500, .null⟩, .deleteLock 1 true true] ++
      enter 2 ++ [.pass 31000]) rfl
  exact ⟨_, _, run, rfl, (release_own run).1⟩

end Sample

end PlanBuddy.Idempotency
