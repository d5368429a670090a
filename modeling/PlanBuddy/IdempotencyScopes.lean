import Mathlib.Data.List.Basic
import Mathlib.Logic.Equiv.Basic
import PlanBuddy.IdempotencyRecords
import PlanBuddy.ScopedKeys

/-!
# Idempotency across users and endpoints

All requests of all users before one Redis and one database. A request works on the
three entries that its scoped key names, so the part of the system under one scoped
key is the server of that key; where different keys name different entries, the rest
of the system leaves that server alone but for the clock.

Two properties follow. A replayed response was stored by a request with the same user,
method, path and trimmed raw key. And what a user is answered is determined by the
user's own requests, by what happened to them and by when.

Which request carries which header is fixed at the outset. Counting conflicts writes
counters by client address, which no strict route reads; they are left out.
-/

namespace PlanBuddy.Idempotency

section Gateway

/-- What Redis holds under a key of the middleware. -/
inductive Entry where
  | lock (cell : TimedLock.Cell RequestId)
  | response (stored : Stored)

def lockIn : Option Entry → Option (TimedLock.Cell RequestId)
  | some (.lock cell) => some cell
  | _ => none

def responseIn : Option Entry → Option Stored
  | some (.response stored) => some stored
  | _ => none

/-- A lock is found in the value that holds it. -/
@[simp] theorem lockIn_map (cell : Option (TimedLock.Cell RequestId)) :
    lockIn (cell.map .lock) = cell := by
  cases cell <;> rfl

/-- So is a response. -/
@[simp] theorem responseIn_map (stored : Option Stored) :
    responseIn (stored.map .response) = stored := by
  cases stored <;> rfl

/-- Redis and the table of idempotency keys, each by its keys, and every request. -/
structure Gateway where
  now : Time
  redis : String → Option Entry
  rows : String → Option Stored
  since : RequestId → Option Int
  phases : RequestId → Phase

def Gateway.start (now : Time) : Gateway :=
  ⟨now, fun _ => none, fun _ => none, fun _ => none, fun _ => .arriving⟩

/-- The scoped key, of a request whose header is accepted. -/
def Request.key (request : Request) : Option String :=
  match request.rawKey with
  | .ok rawKey => some (request.scopedKey rawKey)
  | .error _ => none

/-- The time that an action lets pass. -/
def Action.elapsed : Action → Nat
  | .pass elapsed => elapsed
  | _ => 0

variable (requests : RequestId → Request) (hash : String → String)

/-- The part of the system under one scoped key: its entries, and the requests that
carry it. -/
def Gateway.server (gateway : Gateway) (key : String) : Server where
  lock := ⟨gateway.now, lockIn (gateway.redis (lockKey key)),
    fun request => if (requests request).key = some key then gateway.since request else none⟩
  done := responseIn (gateway.redis (doneKey key))
  row := gateway.rows (dbKey hash key)
  phases request := if (requests request).key = some key then gateway.phases request else .arriving

/-- The entries under the scoped key of a request, and where the request stands. -/
def Gateway.store (gateway : Gateway) (request : RequestId) (key : String) (server : Server) :
    Gateway where
  now := gateway.now
  redis := Function.update (Function.update gateway.redis (lockKey key) (server.lock.cell.map .lock))
    (doneKey key) (server.done.map .response)
  rows := Function.update gateway.rows (dbKey hash key) server.row
  since := Function.update gateway.since request (server.lock.since request)
  phases := Function.update gateway.phases request (server.phases request)

variable (hours : Option Nat) (parse : String → Option Json)

/-- A request with an unacceptable header is answered at once. Any other runs on the
entries of its scoped key. -/
def Gateway.step (gateway : Gateway) (action : Action) : Option (Gateway × List Record) :=
  match action.request with
  | none => some ({ gateway with now := gateway.now + action.elapsed }, [])
  | some request =>
    match (requests request).rawKey with
    | .error refusal =>
      match action, gateway.phases request with
      | .arrive _ _, .arriving =>
        some ({ gateway with phases := Function.update gateway.phases request .replied },
          [.served (.replied request .refused refusal)])
      | _, _ => none
    | .ok rawKey =>
      let key := (requests request).scopedKey rawKey
      (record hours parse (gateway.server requests hash key) action).map fun (server, observed) =>
        (gateway.store hash request key server, observed)

end Gateway

section Views

variable {requests : RequestId → Request} {hash : String → String} {hours : Option Nat}
  {parse : String → Option Json} {gateway : Gateway} {request : RequestId} {key : String}

/-- Writing back under a key is seen under that key. -/
theorem server_store {action : Action} {next : Server} {observed : List Record}
    (carries : (requests request).key = some key)
    (effects : Effects parse (gateway.server requests hash key) action request next observed) :
    (gateway.store hash request key next).server requests hash key = next := by
  obtain ⟨⟨now, cell, since⟩, done, row, phases⟩ := next
  have clock : gateway.now = now := effects.clock.symm
  have lock : (gateway.store hash request key ⟨⟨now, cell, since⟩, done, row, phases⟩).redis
      (lockKey key) = cell.map .lock := by
    simp [Gateway.store, (doneKey_ne_lockKey key key).symm]
  simp only [Gateway.server, Server.mk.injEq, TimedLock.State.mk.injEq, lock, lockIn_map]
  refine ⟨⟨clock, trivial, ?_⟩, by simp [Gateway.store], by simp [Gateway.store], ?_⟩
  · funext other
    by_cases here : other = request
    · subst here
      simp [carries, Gateway.store]
    · have kept := (effects.others other here).2
      simp only [Gateway.store, Function.update_of_ne here]
      exact kept.symm
  · funext other
    by_cases here : other = request
    · subst here
      simp [carries, Gateway.store]
    · have kept := (effects.others other here).1
      simp only [Gateway.store, Function.update_of_ne here]
      exact kept.symm

/-- It is not seen under any other key. -/
theorem server_store_other (injective : Function.Injective hash) {other : String}
    (different : other ≠ key) (carries : (requests request).key = some key) (next : Server) :
    (gateway.store hash request key next).server requests hash other =
      gateway.server requests hash other := by
  have otherLock : lockKey other ≠ lockKey key := fun same => different (lockKey_injective same)
  have otherDone : doneKey other ≠ doneKey key := fun same => different (doneKey_injective same)
  have otherRow : dbKey hash other ≠ dbKey hash key :=
    fun same => different (dbKey_injective injective same)
  have elsewhere : ∀ member, (requests member).key = some other → member ≠ request := by
    rintro member carriesOther rfl
    exact different (Option.some.inj (carriesOther.symm.trans carries))
  simp only [Gateway.server, Gateway.store, Server.mk.injEq, TimedLock.State.mk.injEq, true_and,
    Function.update_of_ne otherLock, Function.update_of_ne otherDone, Function.update_of_ne otherRow,
    Function.update_of_ne (doneKey_ne_lockKey key other).symm,
    Function.update_of_ne (doneKey_ne_lockKey other key)]
  constructor
  · funext member
    by_cases carriesOther : (requests member).key = some other
    · simp [carriesOther, Function.update_of_ne (elsewhere member carriesOther)]
    · simp [carriesOther]
  · funext member
    by_cases carriesOther : (requests member).key = some other
    · simp [carriesOther, Function.update_of_ne (elsewhere member carriesOther)]
    · simp [carriesOther]

/-- A request without a scoped key is part of no server. -/
theorem server_refused (keyless : (requests request).key = none) (phase : Phase) :
    ({ gateway with phases := Function.update gateway.phases request phase } : Gateway).server
      requests hash key = gateway.server requests hash key := by
  simp only [Gateway.server, Server.mk.injEq, true_and]
  funext other
  by_cases here : other = request
  · simp [here, keyless]
  · simp [Function.update_of_ne here]

/-- The scoped key of the request an action belongs to. -/
def actionKey (requests : RequestId → Request) (action : Action) : Option String :=
  action.request.bind fun request => (requests request).key

/-- No time passes while a request takes a step. -/
theorem elapsed_asked {action : Action} (asked : action.request = some request) :
    action.elapsed = 0 := by
  cases action with
  | pass elapsed => cases asked
  | _ => rfl

/-- A request has no key exactly when it is refused. -/
theorem key_none_iff {request : Request} :
    request.key = none ↔ ∃ refusal, request.rawKey = .error refusal := by
  cases accepted : request.rawKey <;> simp [Request.key, accepted]

/-- Time passes, a request is refused for its header, or a request runs under its key. -/
theorem gateway_step_cases {action : Action} {next : Gateway} {observed : List Record}
    (taken : gateway.step requests hash hours parse action = some (next, observed)) :
    (∃ elapsed, action = .pass elapsed ∧ next = { gateway with now := gateway.now + elapsed } ∧
      observed = []) ∨
    (∃ request ready refusal, action = .arrive request ready ∧
      (requests request).rawKey = .error refusal ∧
      next = { gateway with phases := Function.update gateway.phases request .replied } ∧
      observed = [.served (.replied request .refused refusal)]) ∨
    ∃ request key server, action.request = some request ∧ (requests request).key = some key ∧
      record hours parse (gateway.server requests hash key) action = some (server, observed) ∧
      next = gateway.store hash request key server := by
  unfold Gateway.step at taken
  split at taken
  · next asked =>
    cases action with
    | pass elapsed =>
      cases taken
      exact .inl ⟨elapsed, rfl, rfl, rfl⟩
    | _ => cases asked
  · next request asked =>
    split at taken
    · next refusal rejected =>
      split at taken
      · cases asked
        cases taken
        exact .inr (.inl ⟨request, _, refusal, rfl, rejected, rfl, rfl⟩)
      · cases taken
    · next rawKey accepted =>
      simp only [Option.map_eq_some_iff, Prod.mk.injEq, Prod.exists] at taken
      obtain ⟨server, events, recorded, rfl, rfl⟩ := taken
      have carries : (requests request).key = some ((requests request).scopedKey rawKey) := by
        simp [Request.key, accepted]
      exact .inr (.inr ⟨request, _, server, asked, carries, recorded, rfl⟩)

/-- What is observed of a step belongs to the request that takes it. -/
theorem gateway_step_own {action : Action} {next : Gateway} {observed : List Record}
    (taken : gateway.step requests hash hours parse action = some (next, observed)) :
    ∀ entry ∈ observed, action.request = some entry.request := by
  rcases gateway_step_cases taken with
    ⟨elapsed, -, -, rfl⟩ | ⟨request, ready, refusal, rfl, -, -, rfl⟩ |
      ⟨request, key, server, asked, -, recorded, -⟩
  · simp
  · simp [Action.request, Record.request, Event.request]
  · intro entry member
    rw [asked, (record_effects asked recorded).own entry member]

/-- What a step of the system is under one scoped key: a step there, if the request
carries that key, and else the time that passed. -/
theorem step_server (injective : Function.Injective hash) (key : String) {action : Action} {next : Gateway}
    {observed : List Record}
    (taken : gateway.step requests hash hours parse action = some (next, observed)) :
    if actionKey requests action = some key then
      record hours parse (gateway.server requests hash key) action =
        some (next.server requests hash key, observed)
    else
      record hours parse (gateway.server requests hash key) (.pass action.elapsed) =
        some (next.server requests hash key, []) := by
  rcases gateway_step_cases taken with
    ⟨elapsed, rfl, rfl, rfl⟩ | ⟨request, ready, refusal, rfl, rejected, rfl, rfl⟩ |
      ⟨request, carried, server, asked, carries, recorded, rfl⟩
  · rw [if_neg (by simp [actionKey, Action.request]), record_pass]
    rfl
  · have keyless : (requests request).key = none := key_none_iff.mpr ⟨refusal, rejected⟩
    rw [if_neg (by simp [actionKey, Action.request, keyless]), server_refused keyless]
    exact record_still _
  · have isCarried : actionKey requests action = some carried := by
      rw [actionKey, asked, Option.bind_some, carries]
    by_cases here : carried = key
    · subst here
      rw [if_pos isCarried, server_store carries (record_effects asked recorded)]
      exact recorded
    · rw [isCarried, if_neg (by simpa using here),
        server_store_other injective (Ne.symm here) carries, elapsed_asked asked]
      exact record_still _

/-- A request whose header is rejected is answered when it arrives, and by that alone. -/
theorem step_rejected {action : Action} {next : Gateway} {observed : List Record}
    (asked : action.request = some request) {refusal : Response}
    (rejected : (requests request).rawKey = .error refusal)
    (taken : gateway.step requests hash hours parse action = some (next, observed)) :
    (∃ ready, action = .arrive request ready) ∧
      observed = [.served (.replied request .refused refusal)] := by
  have keyless : (requests request).key = none := key_none_iff.mpr ⟨refusal, rejected⟩
  rcases gateway_step_cases taken with
    ⟨elapsed, rfl, -, -⟩ | ⟨other, ready, otherRefusal, rfl, also, -, rfl⟩ |
      ⟨other, key, server, alsoAsked, carries, -, -⟩
  · cases asked
  · cases asked
    cases rejected.symm.trans also
    exact ⟨⟨ready, rfl⟩, rfl⟩
  · cases Option.some.inj (asked.symm.trans alsoAsked)
    rw [keyless] at carries
    cases carries

/-- The records of requests that carry a scoped key. -/
def atKey (requests : RequestId → Request) (key : String) (entry : Record) : Option Record :=
  if (requests entry.request).key = some key then some entry else none

/-- What a step tells of a key is all or nothing. -/
theorem atKey_observed {action : Action} {observed : List Record}
    (own : ∀ entry ∈ observed, action.request = some entry.request) :
    observed.filterMap (atKey requests key) =
      if actionKey requests action = some key then observed else [] := by
  have keyed : ∀ entry ∈ observed, (requests entry.request).key = actionKey requests action := by
    intro entry member
    rw [actionKey, own entry member, Option.bind_some]
  split
  · next carried =>
    have all : ∀ entry ∈ observed, atKey requests key entry = some (id entry) := by
      intro entry member
      rw [atKey, keyed entry member, if_pos carried]
      rfl
    rw [List.filterMap_eq_map_iff_forall_eq_some.mpr all, List.map_id]
  · next elsewhere =>
    apply List.filterMap_eq_nil_iff.mpr
    intro entry member
    rw [atKey, keyed entry member, if_neg elsewhere]

/-- At first no key holds anything. -/
theorem server_start (now : Time) :
    (Gateway.start now).server requests hash key = Server.start now none none := by
  simp [Gateway.start, Gateway.server, Server.start, lockIn, responseIn]

/-- A run of the system is, under each scoped key, a run of the server of that key. -/
theorem run_server (injective : Function.Injective hash) (key : String) {now : Time}
    {history : List Record}
    (run : Run (takes (Gateway.step requests hash hours parse) fun _ action => Answers action)
      (Gateway.start now) history gateway) :
    Run (takes (record hours parse) fun _ action => Answers action) (Server.start now none none)
      (history.filterMap (atKey requests key)) (gateway.server requests hash key) := by
  rw [← server_start now]
  refine run.simulates (fun gateway => gateway.server requests hash key) (atKey requests key) ?_
  rintro _ observed _ _ _ ⟨action, answers, taken⟩
  have seen := step_server injective key taken
  rw [atKey_observed (gateway_step_own taken)]
  by_cases carried : actionKey requests action = some key
  · rw [if_pos carried] at seen ⊢
    exact ⟨action, answers, seen⟩
  · rw [if_neg carried] at seen ⊢
    exact ⟨.pass action.elapsed, trivial, seen⟩

end Views

section Provenance

variable {requests : RequestId → Request} {hash : String → String} {hours : Option Nat}
  {parse : String → Option Json} {gateway : Gateway}

/-- The same user, method, path and trimmed raw key. -/
def SameScope (one other : Request) : Prop :=
  one.userId = other.userId ∧ one.method = other.method ∧ one.path = other.path ∧
    ∃ rawKey, one.rawKey = .ok rawKey ∧ other.rawKey = .ok rawKey

/-- Requests that reach the same key have one scope. -/
theorem sameScope_of_key {uuid : String → Bool} (writes : WritesUuids uuid) {one other : Request}
    (reachesOne : Reaches uuid one) (reachesOther : Reaches uuid other) {key : String}
    (carries : one.key = some key) (also : other.key = some key) : SameScope one other := by
  unfold Request.key at carries also
  split at carries
  · next rawKey accepted =>
    split at also
    · next otherKey otherAccepted =>
      have same := Option.some.inj (carries.trans also.symm)
      obtain ⟨user, method, path, raw⟩ := scopedKey_injective writes reachesOne reachesOther same
      exact ⟨user, method, path, rawKey, accepted, raw ▸ otherAccepted⟩
    · cases also
  · cases carries

/-- Only a request with a scoped key is replayed to. -/
theorem replay_keyed {now : Time} {history : List Record}
    (run : Run (takes (Gateway.step requests hash hours parse) fun _ action => Answers action)
      (Gateway.start now) history gateway) :
    ∀ request response, .served (.replied request .replayed response) ∈ history →
      (requests request).key ≠ none := by
  refine run.invariant (fun history _ => ∀ request response,
    .served (.replied request .replayed response) ∈ history → (requests request).key ≠ none)
    (by simp) ?_
  intro _ observed _ _ _ before taken request response member
  obtain ⟨action, -, taken⟩ := taken
  rcases List.mem_append.mp member with earlier | now
  · exact before request response earlier
  · intro keyless
    obtain ⟨refusal, rejected⟩ := key_none_iff.mp keyless
    have asked : action.request = some request := gateway_step_own taken _ now
    rw [(step_rejected asked rejected taken).2] at now
    simp at now

/-- Every replayed response was stored before, under the same scope. -/
theorem replay_scoped {uuid : String → Bool} (writes : WritesUuids uuid)
    (injective : Function.Injective hash) (reaches : ∀ request, Reaches uuid (requests request))
    {now : Time} {history : List Record}
    (run : Run (takes (Gateway.step requests hash hours parse) fun _ action => Answers action)
      (Gateway.start now) history gateway)
    {earlier later : List Record} {request : RequestId} {response : Response}
    (replayed : history = earlier ++ .served (.replied request .replayed response) :: later) :
    ∃ storer, .stored storer response ∈ earlier ∧
      SameScope (requests storer) (requests request) := by
  have member : .served (.replied request .replayed response) ∈ history := by simp [replayed]
  obtain ⟨key, carries⟩ := Option.ne_none_iff_exists'.mp (replay_keyed run request response member)
  have sourced := run_sourced (run_server injective key run)
  have kept : atKey requests key (.served (.replied request .replayed response)) =
      some (.served (.replied request .replayed response)) := if_pos carries
  have split : history.filterMap (atKey requests key) =
      earlier.filterMap (atKey requests key) ++
        .served (.replied request .replayed response) :: later.filterMap (atKey requests key) := by
    rw [replayed, List.filterMap_append, List.filterMap_cons, kept]
  obtain ⟨storer, stored⟩ := sourced.replayed _ _ request response split
  obtain ⟨entry, before, seen⟩ := List.mem_filterMap.mp stored
  unfold atKey at seen
  split at seen
  · next storerCarries =>
    cases seen
    exact ⟨storer, before, sameScope_of_key writes (reaches storer) (reaches request) storerCarries
      carries⟩
  · cases seen

end Provenance

section Noninterference

variable {requests others : RequestId → Request} {hash : String → String} {hours : Option Nat}
  {parse : String → Option Json}

/-- The actions of the requests, each with the time at which it is taken. -/
def timed : Time → List Action → List (Time × Action)
  | _, [] => []
  | now, action :: rest =>
    match action.request with
    | none => timed (now + action.elapsed) rest
    | some _ => (now, action) :: timed now rest

/-- What happens to the requests of one user, and when. -/
def ownActions (requests : RequestId → Request) (user : Option String) (now : Time)
    (schedule : List Action) : List (Time × Action) :=
  (timed now schedule).filter fun entry =>
    entry.2.request.any fun request => decide ((requests request).userId = user)

/-- What happens under one scoped key, and when. -/
def keyActions (requests : RequestId → Request) (key : String) (now : Time)
    (schedule : List Action) : List (Time × Action) :=
  (timed now schedule).filter fun entry => decide (actionKey requests entry.2 = some key)

def Server.at (server : Server) (now : Time) : Server :=
  { server with lock := { server.lock with now } }

/-- The records of a server that takes actions at given times. -/
def rerun (hours : Option Nat) (parse : String → Option Json) :
    Server → List (Time × Action) → List Record
  | _, [] => []
  | server, (now, action) :: rest =>
    match record hours parse (server.at now) action with
    | none => []
    | some (next, observed) => observed ++ rerun hours parse next rest

/-- A step takes its own time. -/
theorem gateway_step_clock {gateway next : Gateway} {action : Action} {observed : List Record}
    (taken : gateway.step requests hash hours parse action = some (next, observed)) :
    next.now = gateway.now + action.elapsed := by
  rcases gateway_step_cases taken with
    ⟨elapsed, rfl, rfl, -⟩ | ⟨request, ready, refusal, rfl, -, rfl, -⟩ |
      ⟨request, key, server, asked, -, -, rfl⟩
  · rfl
  · simp [Action.elapsed]
  · simp [elapsed_asked asked, Gateway.store]

/-- A request takes its step in no time. -/
theorem gateway_step_still {gateway next : Gateway} {action : Action} {observed : List Record}
    {request : RequestId} (asked : action.request = some request)
    (taken : gateway.step requests hash hours parse action = some (next, observed)) :
    next.now = gateway.now := by
  rw [gateway_step_clock taken, elapsed_asked asked, Int.natCast_zero, Int.add_zero]

/-- What is recorded under a scoped key is determined by what happens under it. -/
theorem rerun_key (injective : Function.Injective hash) (key : String) {schedule : List Action}
    {gateway final : Gateway} {history : List Record}
    (executed : execute (Gateway.step requests hash hours parse) gateway schedule =
      some (final, history))
    {server : Server} (same : server.at gateway.now = gateway.server requests hash key) :
    history.filterMap (atKey requests key) =
      rerun hours parse server (keyActions requests key gateway.now schedule) := by
  induction schedule generalizing gateway history server with
  | nil =>
    cases executed
    rfl
  | cons action rest inductionHypothesis =>
    simp only [execute, Option.bind_eq_some_iff, Option.map_eq_some_iff, Prod.exists,
      Prod.mk.injEq] at executed
    obtain ⟨next, observed, taken, last, later, remaining, rfl, rfl⟩ := executed
    have seen := step_server injective key taken
    rw [List.filterMap_append, atKey_observed (gateway_step_own taken)]
    cases asked : action.request with
    | none =>
      have clock := gateway_step_clock taken
      have elsewhere : actionKey requests action ≠ some key := by simp [actionKey, asked]
      rw [if_neg elsewhere, record_pass] at seen
      have moved : server.at next.now = next.server requests hash key := by
        rw [Option.some.injEq, Prod.mk.injEq] at seen
        rw [← seen.1, ← same, clock]
        rfl
      have dropped : keyActions requests key gateway.now (action :: rest) =
          keyActions requests key next.now rest := by
        simp only [keyActions, timed, asked, clock]
      rw [if_neg elsewhere, dropped, List.nil_append]
      exact inductionHypothesis remaining moved
    | some request =>
      have still := gateway_step_still asked taken
      by_cases carried : actionKey requests action = some key
      · rw [if_pos carried, ← same] at seen
        have kept : keyActions requests key gateway.now (action :: rest) =
            (gateway.now, action) :: keyActions requests key next.now rest := by
          simp [keyActions, timed, asked, carried, still]
        rw [if_pos carried, kept, rerun, seen]
        exact congrArg (observed ++ ·) (inductionHypothesis remaining rfl)
      · rw [if_neg carried] at seen
        rw [elapsed_asked asked, record_still, Option.some.injEq, Prod.mk.injEq] at seen
        have dropped : keyActions requests key gateway.now (action :: rest) =
            keyActions requests key next.now rest := by
          simp [keyActions, timed, asked, carried, still]
        rw [if_neg carried, dropped, List.nil_append]
        exact inductionHypothesis remaining (by rw [still, same, seen.1])

/-- A request with a rejected header is refused if it arrives, and not answered otherwise. -/
theorem rejected_iff {request : RequestId} {refusal : Response}
    (rejected : (requests request).rawKey = .error refusal) {schedule : List Action}
    {gateway final : Gateway} {history : List Record}
    (executed : execute (Gateway.step requests hash hours parse) gateway schedule =
      some (final, history)) (source : Source) (response : Response) :
    .served (.replied request source response) ∈ history ↔
      (source = .refused ∧ response = refusal) ∧
        ∃ time ready, (time, .arrive request ready) ∈ timed gateway.now schedule := by
  induction schedule generalizing gateway history with
  | nil =>
    cases executed
    simp [timed]
  | cons action rest inductionHypothesis =>
    simp only [execute, Option.bind_eq_some_iff, Option.map_eq_some_iff, Prod.exists,
      Prod.mk.injEq] at executed
    obtain ⟨next, observed, taken, last, later, remaining, rfl, rfl⟩ := executed
    have answered : .served (.replied request source response) ∈ observed ↔
        (source = .refused ∧ response = refusal) ∧ action.request = some request := by
      constructor
      · intro member
        have asked : action.request = some request := gateway_step_own taken _ member
        rw [(step_rejected asked rejected taken).2] at member
        simpa [asked] using member
      · rintro ⟨⟨rfl, rfl⟩, asked⟩
        rw [(step_rejected asked rejected taken).2]
        exact List.mem_singleton.mpr rfl
    have arrived : (∃ time ready, (time, .arrive request ready) ∈ timed gateway.now (action :: rest)) ↔
        action.request = some request ∨
          ∃ time ready, (time, .arrive request ready) ∈ timed next.now rest := by
      cases asked : action.request with
      | none => simp [timed, asked, gateway_step_clock taken]
      | some other =>
        have current := gateway_step_still asked taken
        simp only [timed, asked, current, List.mem_cons, Prod.mk.injEq, Option.some.injEq]
        constructor
        · rintro ⟨time, ready, ⟨-, rfl⟩ | later⟩
          · exact .inl (Option.some.inj asked).symm
          · exact .inr ⟨time, ready, later⟩
        · rintro (rfl | ⟨time, ready, later⟩)
          · obtain ⟨ready, rfl⟩ := (step_rejected asked rejected taken).1
            exact ⟨gateway.now, ready, .inl ⟨rfl, rfl⟩⟩
          · exact ⟨time, ready, .inr later⟩
    rw [List.mem_append, answered, arrived, inductionHypothesis remaining, and_or_left]

/-- What happens under a scoped key happens to requests of the one user it names. -/
theorem keyActions_own {user : Option String} {key : String}
    (owned : ∀ request, (requests request).key = some key → (requests request).userId = user)
    (now : Time) (schedule : List Action) :
    keyActions requests key now schedule =
      (ownActions requests user now schedule).filter fun entry =>
        decide (actionKey requests entry.2 = some key) := by
  rw [ownActions, List.filter_filter]
  refine List.filter_congr fun entry _ => ?_
  by_cases carried : actionKey requests entry.2 = some key
  · obtain ⟨request, asked, carries⟩ := Option.bind_eq_some_iff.mp carried
    simp [carried, asked, owned request carries]
  · simp [carried]

/-- A replay is told at its key. -/
theorem mem_atKey {request : RequestId} {key : String} (carries : (requests request).key = some key)
    {source : Source} {response : Response} {history : List Record} :
    .served (.replied request source response) ∈ history.filterMap (atKey requests key) ↔
      .served (.replied request source response) ∈ history := by
  rw [List.mem_filterMap]
  constructor
  · rintro ⟨entry, member, seen⟩
    unfold atKey at seen
    split at seen <;> cases seen
    exact member
  · intro member
    exact ⟨_, member, if_pos carries⟩

/-- Two runs in which the same happens to the requests of a user, at the same times, give
these requests the same answers, whatever the other users send. -/
theorem answers_own {uuid : String → Bool} (writes : WritesUuids uuid)
    (injective : Function.Injective hash) (reaches : ∀ request, Reaches uuid (requests request))
    (reachesOthers : ∀ request, Reaches uuid (others request)) {user : Option String}
    (agree : ∀ request, (requests request).userId = user ∨ (others request).userId = user →
      requests request = others request)
    {now : Time} {schedule otherSchedule : List Action} {final otherFinal : Gateway}
    {history otherHistory : List Record}
    (executed : execute (Gateway.step requests hash hours parse) (Gateway.start now) schedule =
      some (final, history))
    (otherExecuted : execute (Gateway.step others hash hours parse) (Gateway.start now)
      otherSchedule = some (otherFinal, otherHistory))
    (same : ownActions requests user now schedule = ownActions others user now otherSchedule)
    {request : RequestId} (own : (requests request).userId = user) (source : Source)
    (response : Response) :
    .served (.replied request source response) ∈ history ↔
      .served (.replied request source response) ∈ otherHistory := by
  have equal : requests request = others request := agree request (.inl own)
  cases carries : (requests request).key with
  | none =>
    obtain ⟨refusal, rejected⟩ := key_none_iff.mp carries
    have arrived : ∀ time ready, (time, .arrive request ready) ∈ timed now schedule ↔
        (time, .arrive request ready) ∈ timed now otherSchedule := by
      intro time ready
      have mine : (time, .arrive request ready) ∈ ownActions requests user now schedule ↔
          (time, .arrive request ready) ∈ timed now schedule := by
        simp [ownActions, Action.request, own]
      have theirs : (time, .arrive request ready) ∈ ownActions others user now otherSchedule ↔
          (time, .arrive request ready) ∈ timed now otherSchedule := by
        simp [ownActions, Action.request, ← equal, own]
      rw [← mine, same, theirs]
    rw [rejected_iff rejected executed, rejected_iff (equal ▸ rejected) otherExecuted]
    simp only [Gateway.start, arrived]
  | some key =>
    have mine : ∀ other, (requests other).key = some key → (requests other).userId = user := by
      intro other carriesOther
      exact (sameScope_of_key writes (reaches other) (reaches request) carriesOther carries).1.trans
        own
    have theirs : ∀ other, (others other).key = some key → (others other).userId = user := by
      intro other carriesOther
      exact (sameScope_of_key writes (reachesOthers other) (reaches request) carriesOther
        carries).1.trans own
    have actions : keyActions requests key now schedule = keyActions others key now otherSchedule := by
      rw [keyActions_own mine, keyActions_own theirs, ← same]
      refine List.filter_congr fun entry member => ?_
      obtain ⟨asker, asked, owned⟩ := (Option.any_eq_true _ _).mp (List.mem_filter.mp member).2
      rw [actionKey, actionKey, asked, Option.bind_some, Option.bind_some,
        agree asker (.inl (of_decide_eq_true owned))]
    have recorded : history.filterMap (atKey requests key) =
        rerun hours parse (Server.start now none none) (keyActions requests key now schedule) :=
      rerun_key injective key executed (server_start now).symm
    have otherRecorded : otherHistory.filterMap (atKey others key) =
        rerun hours parse (Server.start now none none) (keyActions others key now otherSchedule) :=
      rerun_key injective key otherExecuted (server_start now).symm
    rw [← mem_atKey carries, recorded, actions, ← otherRecorded, mem_atKey (equal ▸ carries)]

end Noninterference

section Scopes

/-- No replay crosses users, endpoints or keys. For every run of authenticated requests on
the strict routes, each replayed response was stored earlier by a request with the same
user, method, path and trimmed raw key; and two runs that agree on what happens to one
user's requests, and when, agree on the answers to them. -/
theorem no_cross_replay {uuid : String → Bool} (writes : WritesUuids uuid) {hash : String → String}
    (injective : Function.Injective hash) {requests : RequestId → Request}
    (reaches : ∀ request, Reaches uuid (requests request)) (hours : Option Nat)
    (parse : String → Option Json) (now : Time) :
    (∀ (earlier later : List Record) (request : RequestId) (response : Response) (gateway : Gateway),
      Run (takes (Gateway.step requests hash hours parse) fun _ action => Answers action)
          (Gateway.start now) (earlier ++ .served (.replied request .replayed response) :: later)
          gateway →
        ∃ storer, .stored storer response ∈ earlier ∧
          SameScope (requests storer) (requests request)) ∧
    ∀ (others : RequestId → Request) (user : Option String),
      (∀ request, Reaches uuid (others request)) →
      (∀ request, (requests request).userId = user ∨ (others request).userId = user →
        requests request = others request) →
      ∀ (schedule otherSchedule : List Action) (final otherFinal : Gateway)
        (history otherHistory : List Record),
        execute (Gateway.step requests hash hours parse) (Gateway.start now) schedule =
          some (final, history) →
        execute (Gateway.step others hash hours parse) (Gateway.start now) otherSchedule =
          some (otherFinal, otherHistory) →
        ownActions requests user now schedule = ownActions others user now otherSchedule →
        ∀ request, (requests request).userId = user → ∀ source response,
          .served (.replied request source response) ∈ history ↔
            .served (.replied request source response) ∈ otherHistory := by
  refine ⟨?_, ?_⟩
  · intro earlier later request response gateway run
    exact replay_scoped writes injective reaches run rfl
  · intro others user reachesOthers agree schedule otherSchedule final otherFinal history otherHistory
      executed otherExecuted same request own source response
    exact answers_own writes injective reaches reachesOthers agree executed otherExecuted same own
      source response

/-- User 7 verifies a payment twice and user 8 once, under one raw key. -/
def verifyRequests (request : RequestId) : Request :=
  if request < 2 then ⟨some "7", "POST", "/payment/verify", some " order:1 "⟩
  else ⟨some "8", "POST", "/payment/verify", some "order:1"⟩

/-- A permutation of all texts that is SHA-256 on the two scoped keys of these requests. -/
def verifyHash (text : String) : String :=
  Equiv.swap "7:POST:/payment/verify:order:1"
      "b36770528176a4315171e28581d97737f226300c24d6e1a0d69930ca0e700416"
    (Equiv.swap "8:POST:/payment/verify:order:1"
      "0aa7ebfbaa282ac2b2f44e13211c11e9b20222b6a9fd96c73df1bef2443a7a2c" text)

/-- The hash of the sample has no collisions. -/
theorem verifyHash_injective : Function.Injective verifyHash :=
  (Equiv.injective _).comp (Equiv.injective _)

/-- Thirty-two hexadecimal digits in groups of 8, 4, 4, 4 and 12. -/
def groupedHex (text : String) : Bool :=
  text.toList.map (fun char => if (hexDigit char).isSome then 'x' else if char = '-' then '-' else '?')
    = "xxxxxxxx-xxxx-xxxx-xxxx-xxxxxxxxxxxx".toList

/-- The identifiers of the sample are written as UUIDs. -/
theorem groupedHex_writes : WritesUuids groupedHex := by
  intro text grouped char member
  have shaped : (if (hexDigit char).isSome then 'x' else if char = '-' then '-' else '?') ∈
      "xxxxxxxx-xxxx-xxxx-xxxx-xxxxxxxxxxxx".toList := by
    rw [← of_decide_eq_true grouped]
    exact List.mem_map_of_mem member
  by_cases hex : (hexDigit char).isSome
  · exact .inl hex
  · by_cases hyphen : char = '-'
    · exact .inr hyphen
    · rw [if_neg hex, if_neg hyphen] at shaped
      exact absurd shaped (by decide)

/-- The requests of the sample reach the store. -/
theorem verifyRequests_reach (request : RequestId) : Reaches groupedHex (verifyRequests request) := by
  have routed : ∃ route ∈ strictRoutes, Admits groupedHex route "/payment/verify".toList := by
    refine ⟨[.literal "payment", .literal "verify"], by simp [strictRoutes], ?_⟩
    have matched : Admits groupedHex [.literal "payment", .literal "verify"]
        ('/' :: ("payment".toList ++ '/' :: ("verify".toList ++ []))) :=
      .literal (by decide) (.literal (by decide) .done)
    exact matched
  by_cases first : request < 2
  · have same : verifyRequests request =
        ⟨some "7", "POST", "/payment/verify", some " order:1 "⟩ := if_pos first
    rw [same]
    exact ⟨⟨"7", rfl, by decide, by decide⟩, rfl, routed⟩
  · have same : verifyRequests request =
        ⟨some "8", "POST", "/payment/verify", some "order:1"⟩ := if_neg first
    rw [same]
    exact ⟨⟨"8", rfl, by decide, by decide⟩, rfl, routed⟩

def verified : Response := ⟨200, .obj [("success", .bool true)]⟩

/-- The first request of user 7 runs and stores its response, and the second one gets it. -/
def verifyTwice : List Action :=
  enter 0 ++ [.respond 0 verified, .setDone 0 true true, .arrive 1 true, .getDone 1 .succeeded]

/-- Meanwhile user 8 asks under the same raw key. -/
def verifyBeside : List Action :=
  enter 0 ++ [.respond 0 verified, .setDone 0 true true, .arrive 2 true, .getDone 2 .succeeded,
    .arrive 1 true, .getDone 1 .succeeded]

/-- A second request of one user is answered with the response to the first. -/
theorem no_cross_replay_verify :
    (∃ storer, .stored storer verified ∈
        [Record.served (.acquired 0), .served (.executed 0 verified), .stored 0 verified] ∧
      SameScope (verifyRequests storer) (verifyRequests 1)) ∧
    ∃ final otherFinal history otherHistory,
      execute (Gateway.step verifyRequests verifyHash none fun _ => none) (Gateway.start 0)
          verifyTwice = some (final, history) ∧
      execute (Gateway.step verifyRequests verifyHash none fun _ => none) (Gateway.start 0)
          verifyBeside = some (otherFinal, otherHistory) ∧
      (.served (.replied 1 .replayed verified) ∈ history ↔
        .served (.replied 1 .replayed verified) ∈ otherHistory) := by
  have scopes := no_cross_replay groupedHex_writes verifyHash_injective verifyRequests_reach none
    (fun _ => none) 0
  refine ⟨?_, ?_⟩
  · have accepted : (execute (restrict (Gateway.step verifyRequests verifyHash none fun _ => none)
        fun _ action => Answers action) (Gateway.start 0) verifyTwice).isSome := by decide
    exact scopes.1 _ [] 1 verified _ (run_of_restricted verifyTwice accepted)
  · refine ⟨_, _, _, _, rfl, rfl, ?_⟩
    exact scopes.2 verifyRequests (some "7") verifyRequests_reach (fun _ _ => rfl) verifyTwice
      verifyBeside _ _ _ _ rfl rfl rfl 1 rfl .replayed verified

end Scopes

end PlanBuddy.Idempotency
