import PlanBuddy.WorkerLoop

/-!
# Stopping and draining a worker

`stop()` and `drain()` set a flag that `_poll` reads when it starts, and never again. A poll
that is suspended at the time still claims a batch and starts it, after `drain()` has
returned, or after `stop()` has seen the last item in flight off and resolved.
-/

namespace PlanBuddy.Workers

section Shutdown

/-- A poll that may still start items. -/
def Poll.unsettled : Poll → Bool
  | .limiting | .limited true | .checking _ | .checked _ (some false) | .claiming _ => true
  | .claimed count => decide (0 < count.getD 0)
  | _ => false

/-- `stop()` and `drain()` are called when no poll of the worker is on its way. -/
def Quiet (worker : Worker) : Action → Prop
  | .stop | .drain => ∀ poll ∈ worker.polls, poll.unsettled = false
  | _ => True

instance (worker : Worker) (action : Action) : Decidable (Quiet worker action) :=
  match action with
  | .stop | .drain => inferInstanceAs (Decidable (∀ poll ∈ worker.polls, poll.unsettled = false))
  | .start | .wakeup | .timeout _ _ | .acquireRateLimit _ _ | .selectDrain _ _ | .claim _ _
  | .resume _ _ | .finish | .deregister _ => .isTrue trivial

/-- Every claim came back empty. -/
def StartsNothing (history : List Event) : Prop :=
  ∀ index count, .returned index count ∈ history → count = 0

def Worker.Closed (worker : Worker) : Prop := worker.running = false ∨ worker.draining = true

structure Sound (worker : Worker) : Prop where
  stopped : worker.stops ≠ [] → worker.running = false
  settled : worker.Closed → ∀ poll ∈ worker.polls, poll.unsettled = false
  /-- A `stop()` past its wait has seen the last item off. -/
  idle : ∀ call ∈ worker.stops, call ≠ .draining → worker.activeSlots = 0

variable {config : Config} {worker next : Worker} {observed : List Event}

/-- Only a poll that is under way is answered. -/
theorem answers_settled {index : Nat} {action : Action} {before after : Poll}
    (answers : Answers index action before after) :
    before.unsettled = true := by
  cases answers <;> rfl

/-- A settled poll ends without starting anything. -/
theorem settled_resumes {before after : Poll} {started concurrency : Nat} (index : Nat)
    (settled : before.unsettled = false)
    (continues : before.resume config concurrency worker.activeSlots = some (after, started)) :
    after = .ended ∧ started = 0 ∧ StartsNothing (before.observed index after) := by
  cases before with
  | limited allowed => cases allowed with
    | false =>
      cases continues
      exact ⟨rfl, rfl, by simp [StartsNothing, Poll.observed]⟩
    | true => cases settled
  | checked batch drainRequested => cases drainRequested with
    | none =>
      cases continues
      exact ⟨rfl, rfl, by simp [StartsNothing, Poll.observed]⟩
    | some drainRequested => cases drainRequested with
      | false => cases settled
      | true =>
        cases continues
        exact ⟨rfl, rfl, by simp [StartsNothing, Poll.observed]⟩
  | claimed count =>
    cases continues
    cases count with
    | none => exact ⟨rfl, rfl, by simp [StartsNothing, Poll.observed]⟩
    | some count =>
      obtain rfl : count = 0 := by simpa [Poll.unsettled] using settled
      exact ⟨rfl, rfl, by simp [StartsNothing, Poll.observed]⟩
  | limiting | checking | claiming | ended => cases continues

/-- What a step leaves of a worker that was closed before it. -/
structure Closes (worker next : Worker) (observed : List Event) : Prop where
  closed : next.Closed
  settled : ∀ poll ∈ next.polls, poll.unsettled = false
  slots : next.activeSlots ≤ worker.activeSlots
  nothing : StartsNothing observed

/-- A closed worker whose polls are all settled starts nothing more. -/
theorem step_closes {action : Action} (closed : worker.Closed)
    (settled : ∀ poll ∈ worker.polls, poll.unsettled = false)
    (stepped : step config worker action = some (next, observed)) :
    Closes worker next observed := by
  have silent : StartsNothing [] := by simp [StartsNothing]
  cases step_cases stepped with
  | timed action armed starting => exact ⟨closed, settled, Nat.le_refl _, silent⟩
  | joined concurrency runs serves => simp [Worker.Closed, runs, serves] at closed
  | sought concurrency armed runs serves => simp [Worker.Closed, runs, serves] at closed
  | answered action index before after stored answers =>
    have waiting := settled before (List.mem_of_getElem? stored)
    simp [answers_settled answers] at waiting
  | resumed index concurrency armed before after started stored continues =>
    obtain ⟨rfl, rfl, nothing⟩ :=
      settled_resumes index (settled before (List.mem_of_getElem? stored)) continues
    refine ⟨closed, ?_, Nat.le_refl _, nothing⟩
    intro poll member
    rcases Parties.mem_set_cases member with rfl | ⟨position, away, old⟩
    · rfl
    · exact settled poll (List.mem_of_getElem? old)
  | finished busy =>
    unfold notifyDrainIfIdle
    split <;> exact ⟨closed, settled, Nat.sub_le _ _, silent⟩
  | stopped => exact ⟨.inl rfl, settled, Nat.le_refl _, silent⟩
  | drained => exact ⟨.inr rfl, settled, Nat.le_refl _, silent⟩
  | deregistered index stored => exact ⟨closed, settled, Nat.le_refl _, silent⟩

/-- From the first `stop` on a worker does not run. -/
theorem step_stopped {action : Action} (sound : Sound worker)
    (stepped : step config worker action = some (next, observed)) (called : next.stops ≠ []) :
    next.running = false := by
  cases step_cases stepped with
  | timed | joined | sought | answered | resumed | drained => exact sound.stopped called
  | finished busy =>
    revert called
    unfold notifyDrainIfIdle
    split
    · simpa using sound.stopped
    · exact sound.stopped
  | stopped => rfl
  | deregistered index stored => exact sound.stopped (by simpa using called)

/-- As long as no poll is under way when it closes, none is after. -/
theorem step_settled {action : Action} (quiet : Quiet worker action) (sound : Sound worker)
    (stepped : step config worker action = some (next, observed)) (closed : next.Closed) :
    ∀ poll ∈ next.polls, poll.unsettled = false := by
  by_cases before : worker.Closed
  · exact (step_closes before (sound.settled before) stepped).settled
  · cases step_cases stepped with
    | timed | joined | sought | answered | resumed => exact absurd closed before
    | finished busy =>
      unfold notifyDrainIfIdle at closed
      split at closed <;> exact absurd closed before
    | stopped => exact quiet
    | drained => exact quiet
    | deregistered index stored => exact absurd closed before

/-- A `stop` that waits no longer has found no item in progress. -/
theorem step_idle {action : Action} (sound : Sound worker)
    (stepped : step config worker action = some (next, observed)) :
    ∀ call ∈ next.stops, call ≠ .draining → next.activeSlots = 0 := by
  cases step_cases stepped with
  | timed | joined | sought | answered | drained => exact sound.idle
  | resumed index concurrency armed before after started stored continues =>
    intro call member past
    have closed : worker.Closed := .inl (sound.stopped (List.ne_nil_of_mem member))
    have settled := sound.settled closed before (List.mem_of_getElem? stored)
    obtain ⟨-, rfl, -⟩ := settled_resumes index settled continues
    exact sound.idle call member past
  | finished busy =>
    intro call member past
    unfold notifyDrainIfIdle at member ⊢
    split at member
    · next last =>
      rw [if_pos last]
      exact last
    · have none := sound.idle call member past
      omega
  | stopped =>
    intro call member past
    rcases List.mem_append.mp member with old | new
    · exact sound.idle call old past
    · by_cases idle : worker.activeSlots = 0
      · exact idle
      · rw [if_neg idle] at new
        exact absurd (List.mem_singleton.mp new) past
  | deregistered index stored =>
    intro call member past
    exact sound.idle _ (List.mem_of_getElem? stored) (by simp)

/-- Such a step keeps a worker sound. -/
theorem step_sound {action : Action} (quiet : Quiet worker action) (sound : Sound worker)
    (stepped : step config worker action = some (next, observed)) : Sound next where
  stopped := step_stopped sound stepped
  settled := step_settled quiet sound stepped
  idle := step_idle sound stepped

/-- A worker that has just started is sound. -/
theorem listening_sound : Sound .listening where
  stopped called := absurd rfl called
  settled _ := by simp [Worker.listening]
  idle := by simp [Worker.listening]

/-- A `stop` that is through stays through. -/
theorem step_resolved {action : Action} (resolved : .resolved ∈ worker.stops)
    (stepped : step config worker action = some (next, observed)) : .resolved ∈ next.stops := by
  cases step_cases stepped with
  | timed | joined | sought | answered | resumed | drained => exact resolved
  | finished busy =>
    unfold notifyDrainIfIdle
    split
    · exact List.mem_map.mpr ⟨.resolved, resolved, rfl⟩
    · exact resolved
  | stopped => exact List.mem_append_left _ resolved
  | deregistered index stored => exact Parties.mem_set_other stored resolved (by simp)

/-- A closed worker starts nothing any more, and a resolved `stop()` leaves it idle. -/
theorem closed_run {history : List Event} {final : Worker} (sound : Sound worker)
    (closed : worker.Closed) (run : Run (takes (step config) Quiet) worker history final) :
    StartsNothing history ∧ (.resolved ∈ worker.stops → final.activeSlots = 0) := by
  have kept : Sound final ∧ final.Closed ∧ StartsNothing history ∧
      (.resolved ∈ worker.stops → .resolved ∈ final.stops) := by
    apply run.invariant fun history final => Sound final ∧ final.Closed ∧ StartsNothing history ∧
      (.resolved ∈ worker.stops → .resolved ∈ final.stops)
    · exact ⟨sound, closed, by simp [StartsNothing], id⟩
    · intro history observed state next _ kept taken
      obtain ⟨sound, closed, nothing, resolved⟩ := kept
      obtain ⟨action, quiet, stepped⟩ := taken
      have closes := step_closes closed (sound.settled closed) stepped
      refine ⟨step_sound quiet sound stepped, closes.closed, ?_, ?_⟩
      · intro index count member
        rcases List.mem_append.mp member with old | new
        · exact nothing index count old
        · exact closes.nothing index count new
      · exact fun before => step_resolved (resolved before) stepped
  obtain ⟨sound, -, nothing, resolved⟩ := kept
  exact ⟨nothing, fun before => sound.idle _ (resolved before) (by simp)⟩

end Shutdown

section Late

/-- Batches asked for are not empty. -/
def Poll.Asks : Poll → Prop
  | .checking batch | .checked batch _ | .claiming batch => 0 < batch
  | _ => True

def Worker.Asks (worker : Worker) : Prop := ∀ poll ∈ worker.polls, poll.Asks

variable {config : Config} {worker next : Worker} {observed history : List Event}

/-- A poll asks for a positive number of rows, if for any. -/
theorem seekSlots_asks (concurrency activeSlots : Nat) :
    (seekSlots config concurrency activeSlots).Asks := by
  have positive := config.batchSize_pos
  simp only [seekSlots]
  split
  · trivial
  · simp only [Poll.Asks]
    omega

/-- It does so at every answer. -/
theorem resume_asks {before after : Poll} {concurrency started : Nat} (asks : before.Asks)
    (continues : before.resume config concurrency worker.activeSlots = some (after, started)) :
    after.Asks := by
  cases before with
  | limited allowed => cases allowed with
    | false =>
      cases continues
      trivial
    | true =>
      cases continues
      exact seekSlots_asks _ _
  | checked batch drainRequested => cases drainRequested with
    | none =>
      cases continues
      trivial
    | some drainRequested => cases drainRequested with
      | false =>
        cases continues
        exact asks
      | true =>
        cases continues
        trivial
  | claimed count =>
    cases continues
    trivial
  | limiting | checking | claiming | ended => cases continues

/-- So do all polls of a worker. -/
theorem step_asked {action : Action} (asks : worker.Asks)
    (stepped : step config worker action = some (next, observed)) : next.Asks := by
  have joins : ∀ joined : Poll, joined.Asks → ∀ poll ∈ worker.polls ++ [joined], poll.Asks :=
    fun _ => forall_mem_snoc asks
  have moves : ∀ index (after : Poll), after.Asks → ∀ poll ∈ worker.polls.set index after,
      poll.Asks := by
    intro index after asked poll member
    rcases Parties.mem_set_cases member with rfl | ⟨position, away, old⟩
    · exact asked
    · exact asks poll (List.mem_of_getElem? old)
  cases step_cases stepped with
  | timed | stopped | drained | deregistered => exact asks
  | joined concurrency runs serves => exact joins .limiting trivial
  | sought concurrency armed runs serves unlimited next same =>
    exact joins next (same ▸ seekSlots_asks _ _)
  | answered action index before after stored answers =>
    refine moves index after ?_
    have asked := asks before (List.mem_of_getElem? stored)
    cases answers with
    | limited => trivial
    | checked => exact asked
    | claimed => trivial
  | resumed index concurrency armed before after started stored continues =>
    exact moves index after (resume_asks (asks before (List.mem_of_getElem? stored)) continues)
  | finished busy =>
    unfold notifyDrainIfIdle
    split <;> exact asks

/-- Some continuation starts an item. -/
def CanStart (config : Config) (worker : Worker) : Prop :=
  ∃ later final, Run (takes (step config) anyAction) worker later final ∧ ¬ StartsNothing later

/-- What can start items after a step can do so before it. -/
theorem CanStart.before {action : Action} (can : CanStart config next)
    (stepped : step config worker action = some (next, observed)) : CanStart config worker := by
  obtain ⟨later, final, run, starts⟩ := can
  refine ⟨observed ++ later, final, .after ⟨action, trivial, stepped⟩ run, ?_⟩
  intro nothing
  exact starts fun index count member => nothing index count (List.mem_append_right _ member)

/-- Claimed rows are started at the next answer. -/
theorem claimed_starts {index count : Nat} (counted : 0 < count)
    (stored : worker.polls[index]? = some (.claimed (some count))) : CanStart config worker := by
  refine ⟨_, _, .after ⟨.resume index 0, trivial, step_claimed 0 stored⟩ .start, ?_⟩
  intro nothing
  have none : count = 0 := nothing index count (by simp)
  omega

/-- A poll that claims may get a row. -/
theorem claiming_starts {index batch : Nat} (asks : 0 < batch)
    (stored : worker.polls[index]? = some (.claiming batch)) : CanStart config worker :=
  .before (claimed_starts Nat.one_pos (Parties.set_moved _ stored)) (step_claim asks stored)

/-- A poll that has not been told to drain claims. -/
theorem checked_starts {index batch : Nat} (asks : 0 < batch)
    (stored : worker.polls[index]? = some (.checked batch (some false))) :
    CanStart config worker :=
  .before (claiming_starts asks (Parties.set_moved _ stored)) (step_checked 0 stored)

/-- A poll that asks whether to drain may go on. -/
theorem checking_starts {index batch : Nat} (asks : 0 < batch)
    (stored : worker.polls[index]? = some (.checking batch)) : CanStart config worker :=
  .before (checked_starts asks (Parties.set_moved _ stored)) (step_selectDrain (some false) stored)

/-- A poll that is not limited looks for slots. -/
theorem limited_starts {index : Nat} (stored : worker.polls[index]? = some (.limited true)) :
    CanStart config worker := by
  have room : worker.activeSlots + 1 - worker.activeSlots = 1 := by omega
  have resumed : step config worker (.resume index (worker.activeSlots + 1)) =
      some (setPoll index (.checking (min 1 config.batchSize)) worker,
        [.begun index]) := by
    simp [step, resumePoll, stored, Poll.resume, Poll.observed, setPoll, seekSlots, room]
  have positive := config.batchSize_pos
  exact .before (checking_starts (by omega) (Parties.set_moved _ stored)) resumed

/-- A poll that asks for a token may get it. -/
theorem limiting_starts {index : Nat} (stored : worker.polls[index]? = some .limiting) :
    CanStart config worker := by
  have allowed : step config worker (.acquireRateLimit index true) =
      some (setPoll index (.limited true) worker, []) := by
    simp [step, stored]
  exact .before (limited_starts (Parties.set_moved _ stored)) allowed

/-- Any poll under way can still start items. -/
theorem unsettled_starts {poll : Poll} (asks : worker.Asks) (member : poll ∈ worker.polls)
    (unsettled : poll.unsettled = true) : CanStart config worker := by
  have asked := asks poll member
  obtain ⟨index, stored⟩ := List.mem_iff_getElem?.mp member
  cases poll with
  | limiting => exact limiting_starts stored
  | limited allowed => cases allowed with
    | false => cases unsettled
    | true => exact limited_starts stored
  | checking batch => exact checking_starts asked stored
  | checked batch drainRequested => cases drainRequested with
    | none => cases unsettled
    | some drainRequested => cases drainRequested with
      | false => exact checked_starts asked stored
      | true => cases unsettled
  | claiming batch => exact claiming_starts asked stored
  | claimed count => cases count with
    | none => cases unsettled
    | some count => exact claimed_starts (by simpa [Poll.unsettled] using unsettled) stored
  | ended => cases unsettled

/-- The items in flight end one after the other, and then the call resolves. -/
theorem stop_resolves (busy : Nat) : ∀ (worker : Worker) (index : Nat),
    worker.activeSlots = busy →
    worker.stops[index]? = some (if worker.activeSlots = 0 then .deregistering else .draining) →
      ∃ history next, Run (takes (step config) anyAction) worker history next ∧
        .resolved ∈ next.stops ∧ next.polls = worker.polls := by
  induction busy with
  | zero =>
    intro worker index idle stored
    rw [if_pos idle] at stored
    have deregistered : step config worker (.deregister index) =
        some ({ worker with stops := worker.stops.set index .resolved }, []) := by
      simp [step, stored]
    refine ⟨_, _, .after ⟨_, trivial, deregistered⟩ .start, ?_, rfl⟩
    exact List.mem_of_getElem? (Parties.set_moved _ stored)
  | succ busy inductionHypothesis =>
    intro worker index active stored
    have finished : step config worker .finish =
        some (notifyDrainIfIdle { worker with activeSlots := busy }, []) := by
      simp [step, active]
    rw [if_neg (by omega)] at stored
    obtain ⟨history, next, run, resolved, same⟩ :=
      inductionHypothesis (notifyDrainIfIdle { worker with activeSlots := busy }) index
        (by unfold notifyDrainIfIdle; split <;> rfl)
        (by
          unfold notifyDrainIfIdle
          split
          · next last =>
            simp [stored, Stop.release]
          · next more =>
            have more : busy ≠ 0 := more
            simp [stored])
    refine ⟨_, next, .after ⟨_, trivial, finished⟩ run, resolved, same.trans ?_⟩
    unfold notifyDrainIfIdle
    split <;> rfl

/-- The call has been made, and an item is started all the same. -/
def StartsLate (config : Config) (worker : Worker) : Prop :=
  ∃ between called, Run (takes (step config) anyAction) worker between called ∧
    (.resolved ∈ called.stops ∨ called.draining = true) ∧ CanStart config called

/-- So `stop` during a poll leaves items that start after it. -/
theorem stop_late {poll : Poll} (asks : worker.Asks) (member : poll ∈ worker.polls)
    (unsettled : poll.unsettled = true) : StartsLate config (stop worker) := by
  obtain ⟨between, called, run, resolved, same⟩ : ∃ between called,
      Run (takes (step config) anyAction) (stop worker) between called ∧
        .resolved ∈ called.stops ∧ called.polls = worker.polls :=
    stop_resolves worker.activeSlots (stop worker) worker.stops.length rfl
      List.getElem?_concat_length
  have asked : called.Asks := fun poll member => asks poll (same ▸ member)
  exact ⟨between, called, run, .inl resolved, unsettled_starts asked (same ▸ member) unsettled⟩

/-- And so does `drain`. -/
theorem drain_late {poll : Poll} (asks : worker.Asks) (member : poll ∈ worker.polls)
    (unsettled : poll.unsettled = true) :
    StartsLate config { worker with draining := true } :=
  ⟨[], _, .start, .inr rfl, unsettled_starts asks member unsettled⟩

/-- Calls made while no poll is on its way are final; any other call can be followed by the
start of an item, after `drain()` has set its flag or `stop()` has resolved. -/
theorem worker_shutdown_final
    (run : Run (takes (step config) Quiet) .listening history worker) :
    (∀ later final, Run (takes (step config) Quiet) worker later final →
        (.resolved ∈ worker.stops → final.activeSlots = 0 ∧ StartsNothing later) ∧
          (worker.draining = true → StartsNothing later)) ∧
      ∀ (action : Action) (next : Worker) (observed : List Event),
        step config worker action = some (next, observed) → ¬ Quiet worker action →
          StartsLate config next := by
  have kept : Sound worker ∧ worker.Asks := by
    apply run.invariant fun _ worker => Sound worker ∧ worker.Asks
    · exact ⟨listening_sound, by simp [Worker.Asks, Worker.listening]⟩
    · intro _ _ _ _ _ kept taken
      obtain ⟨action, quiet, stepped⟩ := taken
      exact ⟨step_sound quiet kept.1 stepped, step_asked kept.2 stepped⟩
  obtain ⟨sound, asks⟩ := kept
  refine ⟨?_, ?_⟩
  · intro later final continued
    refine ⟨?_, ?_⟩
    · intro resolved
      have closed : worker.Closed := .inl (sound.stopped (List.ne_nil_of_mem resolved))
      obtain ⟨nothing, idle⟩ := closed_run sound closed continued
      exact ⟨idle resolved, nothing⟩
    · intro draining
      exact (closed_run sound (.inr draining) continued).1
  · intro action next observed stepped early
    cases action with
    | stop =>
      cases stepped
      simp only [Quiet, Classical.not_forall, Bool.not_eq_false] at early
      obtain ⟨poll, member, unsettled⟩ := early
      exact stop_late asks member unsettled
    | drain =>
      cases stepped
      simp only [Quiet, Classical.not_forall, Bool.not_eq_false] at early
      obtain ⟨poll, member, unsettled⟩ := early
      exact drain_late asks member unsettled
    | start | wakeup | timeout | acquireRateLimit | selectDrain | claim | resume | finish
    | deregister => exact absurd trivial early

/-- `stop()` is called while a poll awaits the rate limit; the item it claims afterwards is
in flight when `stop()` has resolved. -/
theorem stop_leaves_item :
    ∃ history worker, Run (takes (step refundConfig) anyAction) .listening history worker ∧
      worker.stops = [.resolved] ∧ worker.activeSlots = 1 ∧ .returned 0 1 ∈ history := by
  have run : Run (takes (step refundConfig) anyAction) .listening _ _ :=
    run_of_schedule [.start, .timeout true 3, .stop, .deregister 0, .acquireRateLimit 0 true,
      .resume 0 3, .selectDrain 0 (some false), .resume 0 3, .claim 0 (some 1), .resume 0 3] rfl
  exact ⟨_, _, run, rfl, rfl, by decide⟩

/-- An idle worker stops at once. -/
theorem worker_shutdown_final_idle :
    ∃ history worker, Run (takes (step refundConfig) Quiet) .listening history worker ∧
      .resolved ∈ worker.stops ∧ worker.activeSlots = 0 := by
  have run : Run (takes (step refundConfig) Quiet) .listening _ _ :=
    run_of_restricted [.start, .timeout true 3, .acquireRateLimit 0 true, .resume 0 3,
      .selectDrain 0 (some false), .resume 0 3, .claim 0 (some 1), .resume 0 3, .stop, .finish,
      .deregister 0] rfl
  exact ⟨_, _, run, by decide, (((worker_shutdown_final run).1 _ _ .start).1 (by decide)).1⟩

end Late

end PlanBuddy.Workers
