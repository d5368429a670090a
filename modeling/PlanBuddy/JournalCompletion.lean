import PlanBuddy.JournalRuns

/-!
# Completion of a journal entry

Whether completion is final depends on what arrives afterwards, because no
statement of the journal looks at the state it overwrites. Three late writes
undo or alter a completed entry: a failure report, the `executing` update of a
call whose INSERT came first, and a completion with another response. As long as
none of them is executed for the key, the entry stays as it is and every call
begun later is told so; each of them destroys the property at once.
-/

namespace PlanBuddy.SideEffects

open JobEngine (Thrown)

/-- The entry under a key is completed with the given stored response. -/
def CompletedWith (journal : Journal) (operationKey : String) (response : Option Json) : Prop :=
  ∃ entry, journal.entries.lookup operationKey = some entry ∧ entry.state = .completed ∧
    entry.providerResponse = response

/-- An action that is not a late write to an entry completed with `response`: no failure
report for its key, no `executing` update for it, and no completion that stores
another response. -/
def NoLateWrite (operationKey : String) (response : Option Json) (server : Server) :
    Action → Prop
  | .acquire _ _ => True
  | .proceed position _ =>
    ∀ call token, server.pending[position]? ≠ some (.executing call operationKey token)
  | .complete reported value _ _ => reported = operationKey → storedJson value = response
  | .fail reported _ => reported ≠ operationKey

section Writes

/-- A write to another operation leaves a completed one. -/
theorem write_other {journal : Journal} {updated operationKey : String} {response : Option Json}
    (set : EntrySet) (different : operationKey ≠ updated)
    (completed : CompletedWith journal operationKey response) :
    CompletedWith (journal.write updated set) operationKey response := by
  obtain ⟨entry, found, done, same⟩ := completed
  exact ⟨entry, by rw [lookup_write, if_neg different, found], done, same⟩

/-- An update of the key itself determines what the entry is completed with, if at all. -/
theorem write_same {journal : Journal} {operationKey : String} {response : Option Json}
    (set : EntrySet) (completed : CompletedWith journal operationKey response) :
    ∃ entry, (journal.write operationKey set).entries.lookup operationKey =
      some (set.assign entry) := by
  obtain ⟨entry, found, -⟩ := completed
  exact ⟨entry, by rw [lookup_write, if_pos rfl, found]; rfl⟩

end Writes

variable {fingerprint : Json → String} {operationKey : String} {response : Option Json}

/-- A step keeps a completed entry as it is if and only if it is not a late write. -/
theorem step_completed_iff {server next : Server} {action : Action} {observed : List Event}
    (completed : CompletedWith server.journal operationKey response)
    (taken : step fingerprint server action = some (next, observed)) :
    CompletedWith next.journal operationKey response ↔
      NoLateWrite operationKey response server action := by
  cases action with
  | acquire slot drawn =>
    simp only [step, Option.map_eq_some_iff, Prod.exists, Prod.mk.injEq] at taken
    obtain ⟨journal, inserted, accepted, rfl, -⟩ := taken
    obtain ⟨entry, found, done, same⟩ := completed
    exact iff_of_true ⟨entry, insert_keeps accepted found, done, same⟩ trivial
  | proceed position now =>
    simp only [step, Option.map_eq_some_iff] at taken
    obtain ⟨pending, present, moved⟩ := taken
    cases pending with
    | executing call key drawn =>
      obtain ⟨rfl, -⟩ := Prod.mk.inj moved
      by_cases here : operationKey = key
      · subst here
        obtain ⟨entry, written⟩ := write_same (setExecuting now) completed
        refine iff_of_false ?_ (fun harmless => harmless call drawn present)
        rintro ⟨after, found, done, -⟩
        rw [acquireSideEffectExecuting, written, Option.some.injEq] at found
        subst found
        simp [setExecuting] at done
      · refine iff_of_true (write_other _ here completed) ?_
        intro other token same
        rw [present] at same
        cases same
        exact here rfl
    | reading call key =>
      obtain ⟨rfl, -⟩ := Prod.mk.inj moved
      refine iff_of_true completed ?_
      intro other token same
      rw [present] at same
      cases same
  | complete key value httpStatus now =>
    simp only [step, Option.some.injEq, Prod.mk.injEq] at taken
    obtain ⟨rfl, -⟩ := taken
    by_cases here : operationKey = key
    · subst here
      obtain ⟨entry, written⟩ :=
        write_same (setCompleted fingerprint value httpStatus now) completed
      constructor
      · rintro ⟨after, found, -, same⟩ -
        rw [completeSideEffect, written, Option.some.injEq] at found
        subst found
        exact same
      · intro harmless
        exact ⟨_, written, rfl, harmless rfl⟩
    · exact iff_of_true (write_other _ here completed) (fun same => absurd same.symm here)
  | fail key thrown =>
    simp only [step, Option.some.injEq, Prod.mk.injEq] at taken
    obtain ⟨rfl, -⟩ := taken
    by_cases here : operationKey = key
    · subst here
      obtain ⟨entry, written⟩ := write_same (setFailed thrown) completed
      refine iff_of_false ?_ (fun harmless => harmless rfl)
      rintro ⟨after, found, done, -⟩
      rw [failSideEffect, written, Option.some.injEq] at found
      subst found
      simp [setFailed] at done
    · exact iff_of_true (write_other _ here completed) (Ne.symm here)

/-- A read of a completed entry reports the execution and its response. -/
theorem select_completed {journal : Journal}
    (completed : CompletedWith journal operationKey response) :
    (acquireSideEffectSelect operationKey journal).alreadyExecuted = true ∧
      (acquireSideEffectSelect operationKey journal).result = response := by
  obtain ⟨entry, found, done, same⟩ := completed
  simp [acquireSideEffectSelect, found, done, same]

/-- What holds from the moment an entry is completed, while no late write is executed.
A call that returns for the key was reading it, since the only other way to return is
the `executing` update. -/
structure Settled (operationKey : String) (response : Option Json) (history : List Event)
    (server : Server) : Prop where
  completed : CompletedWith server.journal operationKey response
  returned : ∀ call result, .returned call operationKey result ∈ history →
    result.alreadyExecuted = true ∧ result.result = response

/-- As long as no write comes late, a completed operation stays so. -/
theorem step_settled {history observed : List Event} {server next : Server}
    (settled : Settled operationKey response history server)
    (taken : takes (step fingerprint) (NoLateWrite operationKey response) server observed next) :
    Settled operationKey response (history ++ observed) next := by
  obtain ⟨action, harmless, taken⟩ := taken
  refine ⟨(step_completed_iff settled.completed taken).mpr harmless, ?_⟩
  intro call result member
  rcases List.mem_append.mp member with old | new
  · exact settled.returned call result old
  · cases action with
    | acquire slot drawn =>
      simp only [step, Option.map_eq_some_iff, Prod.exists, Prod.mk.injEq] at taken
      obtain ⟨_, _, -, -, rfl⟩ := taken
      simp at new
    | proceed position now =>
      simp only [step, Option.map_eq_some_iff] at taken
      obtain ⟨pending, present, moved⟩ := taken
      cases pending with
      | executing other key drawn =>
        obtain ⟨-, rfl⟩ := Prod.mk.inj moved
        simp only [List.mem_singleton, Event.returned.injEq] at new
        obtain ⟨rfl, rfl, -⟩ := new
        exact absurd present (harmless call drawn)
      | reading other key =>
        obtain ⟨-, rfl⟩ := Prod.mk.inj moved
        simp only [List.mem_singleton, Event.returned.injEq] at new
        obtain ⟨rfl, rfl, rfl⟩ := new
        exact select_completed settled.completed
    | complete key value httpStatus now =>
      simp only [step, Option.some.injEq, Prod.mk.injEq] at taken
      obtain ⟨-, rfl⟩ := taken
      simp at new
    | fail key thrown =>
      simp only [step, Option.some.injEq, Prod.mk.injEq] at taken
      obtain ⟨-, rfl⟩ := taken
      simp at new

/-- Completion is final while no late write is executed, over every interleaving and
from any state in which the entry is completed, whatever calls are in progress there.
The entry stays completed with its response, and every call for the key that returns
from then on, in particular one begun later, returns that response as already
executed. Exactly the late writes are excluded: in each state so reached, a step keeps
the entry as it is if and only if it is none. -/
theorem completion_final {server later : Server} {history : List Event}
    (completed : CompletedWith server.journal operationKey response)
    (run : Run (takes (step fingerprint) (NoLateWrite operationKey response))
      server history later) :
    CompletedWith later.journal operationKey response ∧
      (∀ call result, .returned call operationKey result ∈ history →
        result.alreadyExecuted = true ∧ result.result = response) ∧
      (∀ action next observed, step fingerprint later action = some (next, observed) →
        (CompletedWith next.journal operationKey response ↔
          NoLateWrite operationKey response later action)) := by
  have settled := run.invariant (Settled operationKey response)
    ⟨completed, by simp⟩ (fun _ settled taken => step_settled settled taken)
  refine ⟨settled.completed, settled.returned, ?_⟩
  intro action next observed taken
  exact step_completed_iff settled.completed taken

section Sample

/-- A worker acquires a slot and loses its lease. A second worker finds the slot and
completes it. -/
def stolenSlot : List Action :=
  [.acquire (refundSlot "first") 1, .proceed 0 1,
    .acquire (refundSlot "second") 2, .proceed 0 3,
    .complete "refund:7:attempt:1" (some (.bool true)) (some 200) 4]

/-- The first worker's late failure report reopens the completed slot: the next call is
told to execute again. -/
theorem zombie_failure :
    ∃ before server history later,
      Run (transition fun _ => "") (Server.idle Journal.empty) before server ∧
        CompletedWith server.journal "refund:7:attempt:1" (some (.bool true)) ∧
        Run (transition fun _ => "") server history later ∧
        ¬ CompletedWith later.journal "refund:7:attempt:1" (some (.bool true)) ∧
        Event.began 2 "refund:7:attempt:1" ∈ history ∧
        Event.returned 2 "refund:7:attempt:1" ⟨false, none, some 1⟩ ∈ history := by
  refine ⟨_, _, _, _, run_of_schedule stolenSlot rfl, ⟨_, rfl, rfl, rfl⟩,
    run_of_schedule [.fail "refund:7:attempt:1" (.other "lease lost" false),
      .acquire (refundSlot "third") 3, .proceed 0 6] rfl, ?_, ?_, ?_⟩
  · rintro ⟨entry, found, done, -⟩
    cases found
    cases done
  · exact .head _
  · exact .tail _ (.head _)

def completedSlot : Server :=
  ((execute (step fun _ => "") (Server.idle Journal.empty) stolenSlot).map Prod.fst).getD
    (Server.idle Journal.empty)

/-- A repeated completion and a later call leave the completed slot alone. -/
theorem completion_final_repeated :
    CompletedWith completedSlot.journal "refund:7:attempt:1" (some (.bool true)) ∧
      ∃ history later,
        Run (takes (step fun _ => "") (NoLateWrite "refund:7:attempt:1" (some (.bool true))))
          completedSlot history later ∧ history.length = 2 ∧
        CompletedWith later.journal "refund:7:attempt:1" (some (.bool true)) := by
  have completed : CompletedWith completedSlot.journal "refund:7:attempt:1"
      (some (.bool true)) := ⟨_, rfl, rfl, rfl⟩
  have repeated : Run (takes (step fun _ => "")
      (NoLateWrite "refund:7:attempt:1" (some (.bool true)))) completedSlot _ _ :=
    Run.start.step ⟨.complete "refund:7:attempt:1" (some (.bool true)) none 5, fun _ => rfl, rfl⟩
  have asked := repeated.step ⟨.acquire (refundSlot "third") 3, trivial, rfl⟩
  have told := asked.step ⟨.proceed 0 6, by rintro call token ⟨⟩, rfl⟩
  exact ⟨completed, _, _, told, rfl, (completion_final completed told).1⟩

end Sample

end PlanBuddy.SideEffects
