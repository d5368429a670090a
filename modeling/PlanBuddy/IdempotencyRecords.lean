import PlanBuddy.IdempotencyOnce

/-!
# Where replayed responses come from

Under one scoped key, the history of `runIdempotency` together with a record of every
response that reaches Redis or the database. What one step can do is said once, for
all steps: it moves one request, it stores what that request is about to store, and it
replays nothing but what is stored. From this follows where a replay comes from.

A response in the database is parsed a second time when its body is a text. The
handlers answer a success with an object, and then the replayed response is the stored
one.
-/

namespace PlanBuddy.Idempotency

/-- An event, or a response that was written to Redis or to the database. -/
inductive Record where
  | served (event : Event)
  | stored (request : RequestId) (response : Response)

/-- The request a step belongs to. Time passes for all of them. -/
def Action.request : Action → Option RequestId
  | .pass _ => none
  | .arrive request _ | .getDone request _ | .deleteDone request _ | .getRow request _
  | .setLock request _ | .trackConflict request | .intercept request | .throw request
  | .cleanUp request _ _ | .respond request _ | .setDone request _ _ | .setRow request _
  | .deleteLock request _ _ => some request

def Event.request : Event → RequestId
  | .acquired request | .deleted request _ | .executed request _ | .replied request _ _ => request

def Record.request : Record → RequestId
  | .served event => event.request
  | .stored request _ => request

/-- The response a request is about to store. -/
def Phase.stores : Phase → Option Response
  | .settingDone response | .settingRow response _ => some response
  | _ => none

/-- What the two writes store when they succeed. -/
def storing (server : Server) : Action → List Record
  | .setDone request true true | .setRow request true =>
    ((server.phases request).stores.map (.stored request)).toList
  | _ => []

/-- A step together with the records of it. -/
def record (hours : Option Nat) (parse : String → Option Json) (server : Server) (action : Action) :
    Option (Server × List Record) :=
  (step hours parse server action).map fun (next, observed) =>
    (next, storing server action ++ observed.map .served)

/-- A handler answers a success with an object. -/
def Answers : Action → Prop
  | .respond _ response => response.successful = true → isText response.body = false
  | _ => True

instance : (action : Action) → Decidable (Answers action)
  | .respond _ _ => inferInstanceAs (Decidable (_ → _))
  | .pass _ | .arrive _ _ | .getDone _ _ | .deleteDone _ _ | .getRow _ _ | .setLock _ _
  | .trackConflict _ | .intercept _ | .throw _ | .cleanUp _ _ _ | .setDone _ _ _ | .setRow _ _
  | .deleteLock _ _ _ => inferInstanceAs (Decidable True)

section Effects

variable {hours : Option Nat} {parse : String → Option Json}

/-- A stored response is dropped, kept, or replaced by what the request stores. -/
def KeptOrStored (observed : List Record) (request : RequestId) (before after : Option Stored) : Prop :=
  after = none ∨ after = before ∨ ∃ response, .stored request response ∈ observed ∧
    after.map Stored.response = some response

/-- Everything a step of one request can do. -/
structure Effects (parse : String → Option Json) (server : Server) (action : Action)
    (request : RequestId) (next : Server) (observed : List Record) : Prop where
  clock : next.lock.now = server.lock.now
  others : ∀ other ≠ request, next.phases other = server.phases other ∧
    next.lock.since other = server.lock.since other
  own : ∀ entry ∈ observed, entry.request = request
  done : KeptOrStored observed request server.done next.done
  row : KeptOrStored observed request server.row next.row
  stores : ∀ response, (next.phases request).stores = some response →
    (server.phases request).stores = some response ∨
      response.successful = true ∧ action = .respond request response
  stored : ∀ response, .stored request response ∈ observed →
    (server.phases request).stores = some response
  replayed : ∀ response, .served (.replied request .replayed response) ∈ observed →
    server.done.map Stored.response = some response ∨
      ∃ stored, server.row = some stored ∧ stored.response.status = response.status ∧
        rowBody parse stored.response.body = some response.body

variable {server : Server} {action : Action} {request : RequestId}

/-- A request that only moves on stores nothing and replays nothing. -/
theorem effects_moved (phase : Phase) (idle : phase.stores = none) (observed : List Record)
    (own : ∀ entry ∈ observed, entry.request = request)
    (quiet : ∀ response, .stored request response ∉ observed ∧
      .served (.replied request .replayed response) ∉ observed) :
    Effects parse server action request (server.move request phase) observed where
  clock := rfl
  others other different := ⟨move_other server phase different, rfl⟩
  own := own
  done := .inr (.inl rfl)
  row := .inr (.inl rfl)
  stores := by simp [idle]
  stored response member := absurd member (quiet response).1
  replayed response member := absurd member (quiet response).2

/-- Releasing the lock touches neither of the stored responses. -/
theorem effects_released (phase : Phase) (idle : phase.stores = none) (ready succeeded : Bool)
    (answer : List Event) (own : ∀ event ∈ answer, event.request = request)
    (quiet : ∀ response, .replied request .replayed response ∉ answer) :
    Effects parse server action request
      ((releaseLock server request ready succeeded).1.move request phase)
      (((releaseLock server request ready succeeded).2 ++ answer).map .served) := by
  by_cases issued : (ready && succeeded) = true
  · simp only [releaseLock, if_pos issued]
    constructor
    · rfl
    · intro other different
      exact ⟨move_other _ phase different, Function.update_of_ne different ..⟩
    · simpa [Record.request, Event.request] using own
    · exact .inr (.inl rfl)
    · exact .inr (.inl rfl)
    · simp [idle]
    · simp
    · simp [quiet]
  · simp only [releaseLock, if_neg issued, List.nil_append]
    exact effects_moved phase idle _ (by simpa [Record.request] using own) (by simp [quiet])

/-- A replay answers with what one of the two stores holds. -/
theorem effects_replayed {response : Response}
    (source : server.done.map Stored.response = some response ∨
      ∃ stored, server.row = some stored ∧ stored.response.status = response.status ∧
        rowBody parse stored.response.body = some response.body) :
    Effects parse server action request (server.move request .replied)
      [.served (.replied request .replayed response)] where
  clock := rfl
  others other different := ⟨move_other server _ different, rfl⟩
  own := by simp [Record.request, Event.request]
  done := .inr (.inl rfl)
  row := .inr (.inl rfl)
  stores := by simp [Phase.stores]
  stored := by simp
  replayed := by
    intro replayed member
    rw [List.mem_singleton] at member
    cases member
    exact source

/-- The write to the database, whether or not the lock is still to be released. -/
theorem effects_written {response : Response}
    (about : (server.phases request).stores = some response) (phase : Phase)
    (idle : phase.stores = none) (succeeded : Bool) (answer : List Event)
    (own : ∀ event ∈ answer, event.request = request)
    (quiet : ∀ response, .replied request .replayed response ∉ answer) :
    Effects parse server (.setRow request succeeded) request
      ({ server with
          row := if succeeded then some (dbSet hours server.lock.now response server.row)
            else server.row }.move request phase)
      (storing server (.setRow request succeeded) ++ answer.map .served) := by
  refine ⟨rfl, fun other different => ⟨move_other _ _ different, rfl⟩, ?_, .inr (.inl rfl), ?_,
    by simp [idle], ?_, ?_⟩
  · cases succeeded <;> simpa [storing, about, Record.request] using own
  · cases succeeded with
    | true =>
      have written : (dbSet hours server.lock.now response server.row).response = response := by
        cases server.row <;> rfl
      exact .inr (.inr ⟨response, by simp [storing, about], congrArg some written⟩)
    | false => exact .inr (.inl rfl)
  · intro stored member
    cases succeeded with
    | true =>
      have same : stored = response := by simpa [storing, about] using member
      rw [about, same]
    | false => simp [storing] at member
  · intro replayed member
    cases succeeded <;> simp [storing, about, quiet] at member

/-- Every branch of `step` stays within these effects. -/
theorem record_effects {next : Server} {observed : List Record}
    (asked : action.request = some request)
    (taken : record hours parse server action = some (next, observed)) :
    Effects parse server action request next observed := by
  simp only [record, Option.map_eq_some_iff, Prod.mk.injEq, Prod.exists] at taken
  obtain ⟨next, events, taken, rfl, rfl⟩ := taken
  cases step_cases taken with
  | pass elapsed => cases asked
  | arrive | unwritten =>
    cases asked
    exact effects_moved _ (by split <;> rfl) _ (by simp [storing]) (by simp [storing])
  | corrupt | uncached | lockFailed | lockHeld | intercept | throw =>
    cases asked
    exact effects_moved _ rfl _ (by simp [storing]) (by simp [storing])
  | trackConflict | failLocked | answer | answerEarly =>
    cases asked
    exact effects_moved _ rfl _ (by simp [storing, Record.request, Event.request]) (by simp [storing])
  | cached request response stands found =>
    cases asked
    obtain ⟨stored, isStored, -, same⟩ := unexpired_iff.mp found
    exact effects_replayed (.inl (by rw [isStored, ← same]; rfl))
  | deleteDone request succeeded stands =>
    cases asked
    refine ⟨rfl, fun other different => ⟨move_other _ _ different, rfl⟩, by simp [storing], ?_,
      .inr (.inl rfl), by simp [Phase.stores], by simp [storing], by simp [storing]⟩
    cases succeeded with
    | true => exact .inl rfl
    | false => exact .inr (.inl rfl)
  | written request useRedis response body stands found parsed =>
    cases asked
    obtain ⟨stored, isStored, -, same⟩ := unexpired_iff.mp found
    exact effects_replayed (.inr ⟨stored, isStored, by rw [same], by rw [same]; exact parsed⟩)
  | lockAcquired request stands free =>
    cases asked
    refine ⟨rfl, ?_, by simp [storing, Record.request, Event.request], .inr (.inl rfl),
      .inr (.inl rfl), by simp [Phase.stores], by simp [storing], by simp [storing]⟩
    intro other different
    exact ⟨move_other _ _ different, Function.update_of_ne different ..⟩
  | cleanUp request ready succeeded answered stands =>
    cases asked
    have released : Effects parse server (.cleanUp request ready succeeded) request _ _ :=
      effects_released (if answered then .replied else .handlingBare) (by split <;> rfl) ready
        succeeded [] (by simp) (by simp)
    simpa [storing] using released
  | succeed request response lockAcquired stands success =>
    cases asked
    refine ⟨rfl, fun other different => ⟨move_other _ _ different, rfl⟩,
      by simp [storing, Record.request, Event.request], .inr (.inl rfl), .inr (.inl rfl), ?_,
      by simp [storing], by simp [storing]⟩
    intro stored stores
    rw [move_same] at stores
    have same : response = stored := by
      cases lockAcquired <;> exact Option.some.inj stores
    exact .inr ⟨same ▸ success, same ▸ rfl⟩
  | setDone request ready succeeded response stands =>
    cases asked
    have about : (server.phases request).stores = some response := by rw [stands]; rfl
    refine ⟨rfl, fun other different => ⟨move_other _ _ different, rfl⟩, ?_, ?_, .inr (.inl rfl),
      ?_, ?_, ?_⟩
    · cases ready <;> cases succeeded <;> simp [storing, about, Record.request]
    · cases ready <;> cases succeeded <;> simp [KeptOrStored, storing, about]
    · intro stored stores
      rw [move_same] at stores
      exact .inl (about.trans stores)
    · intro stored member
      cases ready <;> cases succeeded <;> simp [storing, about] at member
      rw [about, member]
    · cases ready <;> cases succeeded <;> simp [storing, about]
  | setRow request succeeded response lockAcquired stands =>
    cases asked
    have about : (server.phases request).stores = some response := by rw [stands]; rfl
    cases lockAcquired with
    | true => exact effects_written about _ rfl succeeded [] (by simp) (by simp)
    | false =>
      exact effects_written about _ rfl succeeded [.replied request .executed response]
        (by simp [Event.request]) (by simp)
  | deleteLock request ready succeeded response stands =>
    cases asked
    have released : Effects parse server (.deleteLock request ready succeeded) request _ _ :=
      effects_released .replied rfl ready succeeded [.replied request .executed response]
        (by simp [Event.request]) (by simp)
    simpa [storing] using released

/-- Time passes under one key. -/
theorem record_pass (server : Server) (elapsed : Nat) :
    record hours parse server (.pass elapsed) =
      some ({ server with lock := { server.lock with now := server.lock.now + elapsed } }, []) := rfl

/-- Letting no time pass changes nothing. -/
theorem record_still (server : Server) :
    record hours parse server (.pass 0) = some (server, []) := by
  simp [record_pass]

end Effects

section Sources

variable {hours : Option Nat} {parse : String → Option Json}

/-- What is stored was written by a request, and is no text. -/
def Backed (history : List Record) (stored : Option Stored) : Prop :=
  ∀ found, stored = some found → isText found.response.body = false ∧
    ∃ storer, .stored storer found.response ∈ history

/-- What is stored, or about to be, and where every replay came from. -/
structure Sourced (history : List Record) (server : Server) : Prop where
  done : Backed history server.done
  row : Backed history server.row
  stores : ∀ request response, (server.phases request).stores = some response →
    isText response.body = false
  replayed : ∀ earlier later request response,
    history = earlier ++ .served (.replied request .replayed response) :: later →
      ∃ storer, .stored storer response ∈ earlier

/-- What is stored after a step was stored in it or before. -/
theorem backed_next {history observed : List Record} {request : RequestId}
    {before after : Option Stored} (backed : Backed history before)
    (plain : ∀ response, .stored request response ∈ observed → isText response.body = false)
    (kept : KeptOrStored observed request before after) : Backed (history ++ observed) after := by
  intro found isFound
  rcases kept with none | same | ⟨response, written, replaced⟩
  · rw [none] at isFound
    cases isFound
  · obtain ⟨noText, storer, member⟩ := backed found (same ▸ isFound)
    exact ⟨noText, storer, List.mem_append_left _ member⟩
  · rw [isFound, Option.map_some, Option.some.injEq] at replaced
    rw [replaced]
    exact ⟨plain response written, request, List.mem_append_right _ written⟩

/-- A replay yields what is stored: a body that is no text is not parsed again. -/
theorem replay_backed {history : List Record} {server next : Server} {action : Action}
    {request : RequestId} {observed : List Record} (sourced : Sourced history server)
    (effects : Effects parse server action request next observed) {response : Response}
    (replays : .served (.replied request .replayed response) ∈ observed) :
    ∃ storer, .stored storer response ∈ history := by
  rcases effects.replayed response replays with cached | ⟨stored, isStored, status, body⟩
  · obtain ⟨stored, isStored, same⟩ := Option.map_eq_some_iff.mp cached
    exact same ▸ (sourced.done stored isStored).2
  · obtain ⟨noText, storer, member⟩ := sourced.row stored isStored
    rw [rowBody_of_isText noText, Option.some.injEq] at body
    have same : stored.response = response := by
      cases response
      cases isResponse : stored.response
      simp only [isResponse] at status body
      rw [status, body]
    exact ⟨storer, same ▸ member⟩

/-- What is replayed has its source. -/
theorem sourced_next {history observed : List Record} {server next : Server} {action : Action}
    (sourced : Sourced history server) (answers : Answers action)
    (taken : record hours parse server action = some (next, observed)) :
    Sourced (history ++ observed) next := by
  cases asked : action.request with
  | none =>
    cases action with
    | pass elapsed =>
      rw [record_pass, Option.some.injEq, Prod.mk.injEq] at taken
      obtain ⟨rfl, rfl⟩ := taken
      rw [List.append_nil]
      exact ⟨sourced.done, sourced.row, sourced.stores, sourced.replayed⟩
    | _ => cases asked
  | some request =>
    have effects := record_effects asked taken
    have plain : ∀ response, .stored request response ∈ observed → isText response.body = false :=
      fun response member => sourced.stores request response (effects.stored response member)
    refine ⟨backed_next sourced.done plain effects.done, backed_next sourced.row plain effects.row,
      ?_, ?_⟩
    · intro other response stores
      by_cases here : other = request
      · subst here
        rcases effects.stores response stores with before | ⟨successful, rfl⟩
        · exact sourced.stores other response before
        · exact answers successful
      · rw [(effects.others other here).1] at stores
        exact sourced.stores other response stores
    · intro earlier later replayer response split
      have fromObserved : .served (.replied replayer .replayed response) ∈ observed →
          ∃ storer, .stored storer response ∈ history := by
        intro member
        have here : replayer = request := effects.own _ member
        subst here
        exact replay_backed sourced effects member
      rcases List.append_eq_append_iff.mp split with ⟨between, rfl, rest⟩ | ⟨between, old, rest⟩
      · obtain ⟨storer, member⟩ := fromObserved (rest ▸ by simp)
        exact ⟨storer, List.mem_append_left _ member⟩
      · cases between with
        | nil =>
          rw [List.nil_append] at rest
          rw [List.append_nil] at old
          obtain ⟨storer, member⟩ := fromObserved (rest ▸ List.mem_cons_self)
          exact ⟨storer, old ▸ member⟩
        | cons head tail =>
          rw [List.cons_append, List.cons.injEq] at rest
          exact sourced.replayed earlier tail replayer response (rest.1 ▸ old)

/-- Over every run under one key, with nothing stored at the start. -/
theorem run_sourced {now : Time} {history : List Record} {server : Server}
    (run : Run (takes (record hours parse) fun _ action => Answers action)
      (Server.start now none none) history server) : Sourced history server := by
  refine run.invariant Sourced ⟨by simp [Backed, Server.start], by simp [Backed, Server.start],
    by simp [Server.start, Phase.stores], by simp⟩ ?_
  rintro _ _ _ _ _ sourced ⟨action, answers, taken⟩
  exact sourced_next sourced answers taken

end Sources

end PlanBuddy.Idempotency
