import PlanBuddy.AtMostOnce
import PlanBuddy.Idempotency

/-!
# At most one execution under an idempotency key

With Redis ready, no failing command and handlers that answer within the lifetime
of their lock, the middleware is compared with a front that executes a piece of
work at most once. The comparison holds as long as the lock is obtained only while
the key is fresh: no response has been stored under it, and no earlier lock on it
was left to expire.

Nothing in the code enforces that. The done key is read before the lock is set and
not again after, so a request that stalls in between obtains the lock of a key
whose response is already stored, and its handler runs.
-/

namespace PlanBuddy.Idempotency

/-- The environment in which nothing fails. Redis is ready at every command, no
command fails, no step throws, and a handler answers within the lifetime of its lock. -/
def Reliable (server : Server) : Action → Prop
  | .arrive _ ready => ready = true
  | .getDone _ read | .getRow _ read => read = .succeeded
  | .setLock _ succeeded | .setRow _ succeeded => succeeded = true
  | .setDone _ ready succeeded | .deleteLock _ ready succeeded => ready = true ∧ succeeded = true
  | .respond request _ => TimedLock.Current lockTtl server.lock request
  | .throw _ => False
  | .pass _ | .deleteDone _ _ | .trackConflict _ | .intercept _ | .cleanUp _ _ _ => True

instance (server : Server) : (action : Action) → Decidable (Reliable server action)
  | .arrive _ _ | .getDone _ _ | .getRow _ _ | .setLock _ _ | .setRow _ _ =>
    inferInstanceAs (Decidable (_ = _))
  | .setDone _ _ _ | .deleteLock _ _ _ => inferInstanceAs (Decidable (_ ∧ _))
  | .respond request _ =>
    inferInstanceAs (Decidable (TimedLock.Current lockTtl server.lock request))
  | .throw _ => inferInstanceAs (Decidable False)
  | .pass _ | .deleteDone _ _ | .trackConflict _ | .intercept _ | .cleanUp _ _ _ =>
    inferInstanceAs (Decidable True)

def isText : Json → Bool
  | .str _ => true
  | _ => false

/-- A lock is obtained only under a fresh key, and a row that is read holds no text. -/
def Orderly (server : Server) : Action → Prop
  | .setLock _ _ => server.lock.holder = none → server.done.isNone ∧ server.lock.cell.isNone
  | .getRow _ _ => ∀ response ∈ unexpired server.lock.now server.row, isText response.body = false
  | _ => True

instance (server : Server) : (action : Action) → Decidable (Orderly server action)
  | .setLock _ _ => inferInstanceAs (Decidable (_ → _ ∧ _))
  | .getRow _ _ => inferInstanceAs (Decidable (∀ response ∈ unexpired _ _, _))
  | .pass _ | .arrive _ _ | .getDone _ _ | .deleteDone _ _ | .trackConflict _ | .intercept _
  | .throw _ | .cleanUp _ _ _ | .respond _ _ | .setDone _ _ _ | .setRow _ _ | .deleteLock _ _ _ =>
    inferInstanceAs (Decidable True)

/-- What the front for one piece of work sees of a history. -/
def workEvent : Event → Option (AtMostOnce.Event RequestId Response)
  | .executed request response => some (.executed request response)
  | .replied request .refused answer => some (.refused request answer)
  | .replied request .replayed answer => some (.replayed request answer)
  | .replied request .executed answer => some (.returned request answer)
  | .acquired _ | .deleted _ _ => none

/-- The handlers that ran to a successful response. -/
def successes (history : List Event) : List (RequestId × Response) :=
  AtMostOnce.successes Response.successful (history.filterMap workEvent)

abbrev Results := List (RequestId × Response)

/-- The lock key was last set by this request and has not been deleted. -/
def Owns (lock : TimedLock.State RequestId) (request : RequestId) : Prop :=
  ∃ expiresAt, lock.cell = some ⟨request, expiresAt⟩

def Holds (stored : Option Stored) (response : Response) : Prop :=
  stored.map Stored.response = some response

/-- What a request knows where it stands: between obtaining the lock and deleting it, the
key is its own; until it has stored a successful response, none is stored. -/
def Placed (results : Results) (lock : TimedLock.State RequestId) (done : Option Stored)
    (request : RequestId) : Phase → Prop
  | .arriving | .gettingDone | .gettingRow true | .settingLock | .trackingConflict | .replied => True
  | .intercepting true | .handling true => Owns lock request ∧ done = none
  | .settingDone response =>
    Owns lock request ∧ done = none ∧ response.successful = true ∧ (request, response) ∈ results
  | .settingRow response true =>
    Owns lock request ∧ Holds done response ∧ (request, response) ∈ results
  | .deletingLock response => Owns lock request ∧ (request, response) ∈ results
  | _ => False

/-- The server beside the results its handlers have had. A successful response is stored
under the done key, or its request is about to store it. -/
structure Fits (server : Server) (results : Results) : Prop where
  placed : ∀ request, Placed results server.lock server.done request (server.phases request)
  decided : ∀ winner response, (winner, response) ∈ results → response.successful = true →
    server.phases winner = .settingDone response ∨ Holds server.done response
  stored : ∀ response, Holds server.done response →
    response.successful = true ∧ ∃ winner, (winner, response) ∈ results
  mirrored : ∀ old, server.row = some old →
    old.expiresAt ≤ server.lock.now ∨ Holds server.done old.response

variable {hours : Option Nat} {parse : String → Option Json} {server next : Server}
  {results : Results} {request : RequestId} {observed : List Event}

/-- A body that is no text is stored as it is. -/
theorem rowBody_of_isText {body : Json} (plain : isText body = false) :
    rowBody parse body = some body := by
  cases body with
  | str text => cases plain
  | _ => rfl

/-- A response that is kept and not expired is found. -/
theorem unexpired_iff {now : Time} {stored : Option Stored} {response : Response} :
    unexpired now stored = some response ↔
      ∃ kept, stored = some kept ∧ now < kept.expiresAt ∧ kept.response = response := by
  simp [unexpired, Option.filter_eq_some_iff, and_assoc]

/-- One request owns the lock. -/
theorem owns_unique {lock : TimedLock.State RequestId} {other : RequestId}
    (owns : Owns lock request) (also : Owns lock other) : request = other := by
  obtain ⟨_, stored⟩ := owns
  obtain ⟨_, again⟩ := also
  rw [stored] at again
  cases again
  rfl

/-- What a request knows, seen from where it stands. -/
theorem fits_at (fits : Fits server results) {phase : Phase} (stands : server.phases request = phase) :
    Placed results server.lock server.done request phase :=
  stands ▸ fits.placed request

/-- A request that does not own the key is where neither the key nor the responses matter. -/
theorem placed_elsewhere {lock : TimedLock.State RequestId} {done : Option Stored} {phase : Phase}
    (placed : Placed results lock done request phase) (stranger : ¬ Owns lock request)
    (anyResults : Results) (anyLock : TimedLock.State RequestId) (anyDone : Option Stored) :
    Placed anyResults anyLock anyDone request phase := by
  cases phase with
  | gettingRow useRedis => cases useRedis <;> exact placed
  | intercepting acquired | handling acquired =>
    cases acquired with
    | false => exact placed
    | true => exact absurd placed.1 stranger
  | settingRow response acquired =>
    cases acquired with
    | false => exact placed
    | true => exact absurd placed.1 stranger
  | settingDone response | deletingLock response => exact absurd placed.1 stranger
  | _ => exact placed

/-- While one request owns the key, the others may be met by any change of the rest. -/
theorem placed_others (fits : Fits server results) (owns : Owns server.lock request)
    {other : RequestId} (different : other ≠ request) (anyResults : Results)
    (anyLock : TimedLock.State RequestId) (anyDone : Option Stored) :
    Placed anyResults anyLock anyDone other (server.phases other) :=
  placed_elsewhere (fits.placed other) (fun also => different (owns_unique also owns))
    anyResults anyLock anyDone

/-- While nothing is stored, a success is its owner's, who is about to store it. -/
theorem success_storing (fits : Fits server results) (owns : Owns server.lock request)
    (empty : server.done = none) {winner : RequestId} {response : Response}
    (member : (winner, response) ∈ results) (success : response.successful = true) :
    server.phases request = .settingDone response := by
  have storing : server.phases winner = .settingDone response := by
    rcases fits.decided winner response member success with storing | held
    · exact storing
    · rw [Holds, empty] at held
      cases held
  have placed := fits_at fits storing
  rw [owns_unique owns placed.1]
  exact storing

/-- A request that is not about to store its response may move on by itself. -/
theorem fits_move (fits : Fits server results) (request : RequestId) (phase : Phase)
    (notStoring : ∀ response, server.phases request ≠ .settingDone response)
    (placed : Placed results server.lock server.done request phase) :
    Fits (server.move request phase) results := by
  constructor
  · intro other
    by_cases here : other = request
    · subst here
      simpa using placed
    · rw [move_other server phase here]
      exact fits.placed other
  · intro winner response member success
    rcases fits.decided winner response member success with storing | held
    · left
      have here : winner ≠ request := by
        rintro rfl
        exact notStoring response storing
      rw [move_other server phase here]
      exact storing
    · exact Or.inr held
  · exact fits.stored
  · exact fits.mirrored

/-- Time takes nothing away from what fits. -/
theorem fits_pass (fits : Fits server results) (elapsed : Nat) :
    Fits { server with lock := { server.lock with now := server.lock.now + elapsed } } results := by
  refine ⟨fits.placed, fits.decided, fits.stored, ?_⟩
  intro old found
  rcases fits.mirrored old found with stale | held
  · have later : server.lock.now ≤ server.lock.now + (elapsed : Int) := by omega
    exact Or.inl (Int.le_trans stale later)
  · exact Or.inr held

/-- The lock of a fresh key is set. Until now nobody owns the key. -/
theorem fits_acquire (fits : Fits server results) (empty : server.done = none)
    (absent : server.lock.cell = none) (asking : server.phases request = .settingLock) :
    Fits ({ server with lock := server.lock.acquire lockTtl request }.move request
      (.intercepting true)) results := by
  have unowned (other : RequestId) : ¬ Owns server.lock other := by
    rintro ⟨_, present⟩
    rw [absent] at present
    cases present
  constructor
  · intro other
    by_cases here : other = request
    · subst here
      rw [move_same]
      exact ⟨⟨_, rfl⟩, empty⟩
    · rw [move_other _ _ here]
      exact placed_elsewhere (fits.placed other) (unowned other) _ _ _
  · intro winner response member success
    rcases fits.decided winner response member success with storing | held
    · have placed := fits_at fits storing
      exact absurd placed.1 (unowned winner)
    · exact Or.inr held
  · exact fits.stored
  · exact fits.mirrored

/-- A handler answers. It is the first to succeed, if it does. -/
theorem fits_respond (fits : Fits server results) {response : Response} (phase : Phase)
    (running : server.phases request = .handling true)
    (storing : response.successful = true → phase = .settingDone response)
    (failing : response.successful = false → phase = .deletingLock response) :
    (∀ entry ∈ results, entry.2.successful = false) ∧
      Fits (server.move request phase) (results ++ [(request, response)]) := by
  obtain ⟨owns, empty⟩ := fits_at fits running
  have unfinished : ∀ entry ∈ results, entry.2.successful = false := by
    intro entry member
    by_contra finished
    have storing := success_storing fits owns empty member (by simpa using finished)
    rw [running] at storing
    cases storing
  refine ⟨unfinished, ?_, ?_, ?_, fits.mirrored⟩
  · intro other
    by_cases here : other = request
    · subst here
      rw [move_same]
      cases outcome : response.successful with
      | true =>
        rw [storing outcome]
        exact ⟨owns, empty, outcome, by simp⟩
      | false =>
        rw [failing outcome]
        exact ⟨owns, by simp⟩
    · rw [move_other _ _ here]
      exact placed_others fits owns here _ _ _
  · intro winner answer member success
    rcases List.mem_append.mp member with old | new
    · rw [unfinished _ old] at success
      cases success
    · obtain ⟨rfl, rfl⟩ := Prod.mk.inj (List.mem_singleton.mp new)
      left
      rw [move_same]
      exact storing success
  · intro answer held
    rw [move_done, Holds, empty] at held
    cases held

/-- The owner of the key stores its response under the done key. -/
theorem fits_setDone (fits : Fits server results) {response : Response}
    (storing : server.phases request = .settingDone response) (expiresAt : Time) :
    Fits ({ server with done := some ⟨response, expiresAt⟩ }.move request
      (.settingRow response true)) results := by
  obtain ⟨owns, empty, success, member⟩ := fits_at fits storing
  constructor
  · intro other
    by_cases here : other = request
    · subst here
      rw [move_same]
      exact ⟨owns, rfl, member⟩
    · rw [move_other _ _ here]
      exact placed_others fits owns here _ _ _
  · intro winner answer finished succeeded
    right
    have same := success_storing fits owns empty finished succeeded
    rw [storing] at same
    cases same
    rfl
  · intro answer held
    cases held
    exact ⟨success, request, member⟩
  · intro old found
    rcases fits.mirrored old found with stale | held
    · exact Or.inl stale
    · rw [Holds, empty] at held
      cases held

/-- The owner of the key stores the response in the database as well. -/
theorem fits_setRow (fits : Fits server results) {response : Response}
    (writing : server.phases request = .settingRow response true) :
    Fits ({ server with row := some (dbSet hours server.lock.now response server.row) }.move request
      (.deletingLock response)) results := by
  obtain ⟨owns, held, member⟩ := fits_at fits writing
  have moved := fits_move fits request (.deletingLock response) (by simp [writing]) ⟨owns, member⟩
  refine ⟨moved.placed, moved.decided, moved.stored, ?_⟩
  intro new written
  right
  cases written
  cases server.row <;> exact held

/-- The owner of the key deletes it, and nobody owns it. -/
theorem fits_deleteLock (fits : Fits server results) {response : Response}
    (deleting : server.phases request = .deletingLock response) :
    Fits ({ server with lock := server.lock.delete request }.move request .replied) results := by
  have placed := fits_at fits deleting
  have moved := fits_move fits request .replied (by simp [deleting]) trivial
  refine ⟨?_, moved.decided, fits.stored, fits.mirrored⟩
  intro other
  by_cases here : other = request
  · subst here
    rw [move_same]
    trivial
  · rw [move_other _ _ here]
    exact placed_others fits placed.1 here _ _ _

/-- A response that is read back is the successful one. -/
theorem fits_read (fits : Fits server results) {response : Response}
    (found : unexpired server.lock.now server.done = some response ∨
      unexpired server.lock.now server.row = some response) :
    response.successful = true ∧ ∃ winner, (winner, response) ∈ results := by
  refine fits.stored response ?_
  rcases found with cached | written
  · obtain ⟨kept, present, -, rfl⟩ := unexpired_iff.mp cached
    rw [Holds, present]
    rfl
  · obtain ⟨kept, present, fresh, rfl⟩ := unexpired_iff.mp written
    rcases fits.mirrored kept present with stale | held
    · exact absurd fresh (Int.not_lt.mpr stale)
    · exact held

/-- One step of the server is one step of the front, while nothing fails and locks are
obtained only under a fresh key. -/
theorem step_fits (fits : Fits server results) {action : Action} (reliable : Reliable server action)
    (orderly : Orderly server action)
    (taken : step hours parse server action = some (next, observed)) :
    ∃ later, AtMostOnce.Step Response.successful keyInFlight results (observed.filterMap workEvent)
        later ∧ Fits next later := by
  cases step_cases taken with
  | pass elapsed => exact ⟨results, .idle results, fits_pass fits elapsed⟩
  | arrive request ready stands =>
    obtain rfl : ready = true := reliable
    exact ⟨results, .idle results, fits_move fits request _ (by simp [stands]) trivial⟩
  | cached request response stands found =>
    obtain ⟨success, winner, member⟩ := fits_read fits (Or.inl found)
    exact ⟨results, .replay results request winner response member success,
      fits_move fits request _ (by simp [stands]) trivial⟩
  | corrupt request response stands found => cases reliable
  | uncached request read stands missed =>
    exact ⟨results, .idle results, fits_move fits request _ (by simp [stands]) trivial⟩
  | deleteDone request succeeded stands => exact (fits_at fits stands).elim
  | written request useRedis response body stands found parsed =>
    have same : response.body = body :=
      Option.some.inj ((rowBody_of_isText (orderly response found)).symm.trans parsed)
    subst same
    obtain ⟨success, winner, member⟩ := fits_read fits (Or.inr found)
    exact ⟨results, .replay results request winner response member success,
      fits_move fits request _ (by simp [stands]) trivial⟩
  | unwritten request read useRedis stands missed =>
    have placed := fits_at fits stands
    cases useRedis with
    | false => exact placed.elim
    | true =>
      exact ⟨results, .idle results, fits_move fits request _ (by simp [stands]) trivial⟩
  | lockFailed request stands => cases reliable
  | lockHeld request stands held =>
    exact ⟨results, .idle results, fits_move fits request _ (by simp [stands]) trivial⟩
  | lockAcquired request stands free =>
    obtain ⟨empty, absent⟩ := orderly free
    exact ⟨results, .idle results, fits_acquire fits (Option.isNone_iff_eq_none.mp empty)
      (Option.isNone_iff_eq_none.mp absent) stands⟩
  | trackConflict request stands =>
    exact ⟨results, .refuse results request, fits_move fits request _ (by simp [stands]) trivial⟩
  | intercept request acquired stands =>
    have placed := fits_at fits stands
    cases acquired with
    | false => exact placed.elim
    | true => exact ⟨results, .idle results, fits_move fits request _ (by simp [stands]) placed⟩
  | throw request checking => exact reliable.elim
  | cleanUp request ready succeeded answered stands => exact (fits_at fits stands).elim
  | succeed request response acquired stands success =>
    have placed := fits_at fits stands
    cases acquired with
    | false => exact placed.elim
    | true =>
      obtain ⟨unfinished, responded⟩ := fits_respond fits (.settingDone response) stands
        (fun _ => rfl) (by simp [success])
      exact ⟨_, .execute results request response unfinished, responded⟩
  | failLocked request response stands failure =>
    obtain ⟨unfinished, responded⟩ := fits_respond fits (.deletingLock response) stands
      (by simp [failure]) (fun _ => rfl)
    exact ⟨_, .execute results request response unfinished, responded⟩
  | answer request response stands =>
    rcases stands with ⟨stands, -⟩ | stands
    · exact (fits_at fits stands).elim
    · exact (fits_at fits stands).elim
  | answerEarly request response stands => exact (fits_at fits stands).elim
  | setDone request ready succeeded response stands =>
    obtain ⟨rfl, rfl⟩ : ready = true ∧ succeeded = true := reliable
    exact ⟨results, .idle results, fits_setDone fits stands _⟩
  | setRow request succeeded response acquired stands =>
    obtain rfl : succeeded = true := reliable
    have placed := fits_at fits stands
    cases acquired with
    | false => exact placed.elim
    | true => exact ⟨results, .idle results, fits_setRow fits stands⟩
  | deleteLock request ready succeeded response stands =>
    obtain ⟨rfl, rfl⟩ : ready = true ∧ succeeded = true := reliable
    have placed := fits_at fits stands
    exact ⟨results, .give results request response placed.2, fits_deleteLock fits stands⟩

/-- The refusal, the response of the one successful handler, or the failure of the
request's own handler. The second is a replay unless it is the request's own. -/
def Answered (history : List Event) (request : RequestId) (source : Source)
    (answer : Response) : Prop :=
  (source = .refused ∧ answer = keyInFlight) ∨
    (∃ winner, successes history = [(winner, answer)] ∧ (source = .replayed ∨ winner = request)) ∨
    (source = .executed ∧ .executed request answer ∈ history ∧ answer.successful = false)

variable {now : Time} {row : Option Stored} {history : List Event}

/-- An execution is in the history. -/
theorem executed_mem {response : Response}
    (member : (request, response) ∈ (history.filterMap workEvent).filterMap AtMostOnce.execution) :
    .executed request response ∈ history := by
  simp only [List.mem_filterMap] at member
  obtain ⟨_, ⟨event, present, seen⟩, execution⟩ := member
  cases event with
  | executed other answer =>
    cases seen
    cases execution
    exact present
  | replied other source answer => cases source <;> cases seen <;> cases execution
  | acquired other | deleted other owner => cases seen

/-- The answers of the front, read back as answers of the server. -/
theorem answered_of_front
    (run : Run (AtMostOnce.Step Response.successful keyInFlight) []
      (history.filterMap workEvent) results)
    {source : Source} {answer : Response} (member : .replied request source answer ∈ history) :
    Answered history request source answer := by
  cases source with
  | refused =>
    have seen : .refused request answer ∈ history.filterMap workEvent :=
      List.mem_filterMap.mpr ⟨_, member, rfl⟩
    exact Or.inl ⟨rfl, AtMostOnce.run_grounded run _ seen⟩
  | replayed =>
    have seen : .replayed request answer ∈ history.filterMap workEvent :=
      List.mem_filterMap.mpr ⟨_, member, rfl⟩
    obtain ⟨winner, only⟩ := AtMostOnce.replayed_success run seen
    exact Or.inr (Or.inl ⟨winner, only, Or.inl rfl⟩)
  | executed =>
    have seen : .returned request answer ∈ history.filterMap workEvent :=
      List.mem_filterMap.mpr ⟨_, member, rfl⟩
    rcases AtMostOnce.returned_success run seen with only | ⟨own, failure⟩
    · exact Or.inr (Or.inl ⟨request, only, Or.inr rfl⟩)
    · exact Or.inr (Or.inr ⟨rfl, executed_mem own, failure⟩)

/-- A stale row fits as none. -/
theorem start_fits (stale : ∀ old, row = some old → old.expiresAt ≤ now) :
    Fits (Server.start now none row) [] := by
  constructor
  · exact fun _ => trivial
  · simp
  · intro response held
    cases held
  · exact fun old found => Or.inl (stale old found)

/-- A whole run is a run of the front. -/
theorem run_fits (stale : ∀ old, row = some old → old.expiresAt ≤ now)
    (run : Run (takes (step hours parse)
      (fun server action => Reliable server action ∧ Orderly server action))
      (Server.start now none row) history server) :
    ∃ results, Run (AtMostOnce.Step Response.successful keyInFlight) []
      (history.filterMap workEvent) results ∧ Fits server results :=
  run.refines Fits workEvent (start_fits stale)
    fun _ fits ⟨_, ⟨reliable, orderly⟩, taken⟩ => step_fits fits reliable orderly taken

/-- Every interleaving of any number of requests in which nothing fails, each lock is
obtained under a fresh key and no text is read from the row. At most one handler runs
to a successful response, and every request that is answered is answered by a refusal,
by that response, or by the failure of its own handler. -/
theorem one_execution (stale : ∀ old, row = some old → old.expiresAt ≤ now)
    (run : Run (takes (step hours parse)
      (fun server action => Reliable server action ∧ Orderly server action))
      (Server.start now none row) history server) :
    (successes history).length ≤ 1 ∧
      ∀ request source answer, .replied request source answer ∈ history →
        Answered history request source answer := by
  obtain ⟨results, front, -⟩ := run_fits stale run
  exact ⟨AtMostOnce.run_once front, fun _ _ _ => answered_of_front front⟩

/-- The condition on the lock is needed. Wherever a request is about to ask for the free
lock of a key whose response is stored, its handler can run to a second success. -/
theorem late_lock_repeats (stale : ∀ old, row = some old → old.expiresAt ≤ now)
    (run : Run (takes (step hours parse)
      (fun server action => Reliable server action ∧ Orderly server action))
      (Server.start now none row) history server)
    (asking : server.phases request = .settingLock) (free : server.lock.holder = none)
    (stored : server.done.isSome) {response : Response} (success : response.successful = true) :
    ∃ final, Run (takes (step hours parse) Reliable) (Server.start now none row)
        (history ++ [.acquired request, .executed request response]) final ∧
      1 < (successes (history ++ [.acquired request, .executed request response])).length := by
  obtain ⟨results, front, fits⟩ := run_fits stale run
  have plain : Run (takes (step hours parse) Reliable) (Server.start now none row) history server :=
    run.mono fun ⟨action, allowed, taken⟩ => ⟨action, allowed.1, taken⟩
  let locked := { server with lock := server.lock.acquire lockTtl request }.move request
    (.intercepting true)
  have locks : step hours parse server (.setLock request true) =
      some (locked, [.acquired request]) := by
    simp [step, asking, free, locked]
  have intercepts : step hours parse locked (.intercept request) =
      some (locked.move request (.handling true), []) := by
    simp [step, locked]
  have responds : step hours parse (locked.move request (.handling true))
      (.respond request response) =
        some ((locked.move request (.handling true)).move request (.settingDone response),
          [.executed request response]) := by
    simp [step, success]
  have current : TimedLock.Current lockTtl (locked.move request (.handling true)).lock request := by
    refine ⟨server.lock.now, Function.update_self .., ?_⟩
    exact Int.lt_add_of_pos_right _ (by decide)
  have extended := ((plain.step ⟨.setLock request true, rfl, locks⟩).step
    ⟨.intercept request, trivial, intercepts⟩).step ⟨.respond request response, current, responds⟩
  refine ⟨_, by simpa using extended, ?_⟩
  -- the stored response is a success of the history so far
  obtain ⟨old, stored⟩ := Option.isSome_iff_exists.mp stored
  obtain ⟨finished, winner, member⟩ := fits.stored old.response (by rw [Holds, stored]; rfl)
  rw [AtMostOnce.run_results front] at member
  have earlier : (winner, old.response) ∈ successes history :=
    List.mem_filter.mpr ⟨member, finished⟩
  have again : successes [.acquired request, .executed request response] = [(request, response)] := by
    have seen : [Event.acquired request, .executed request response].filterMap workEvent =
        [.executed request response] := rfl
    rw [successes, seen, AtMostOnce.successes]
    simp [AtMostOnce.execution, success]
  have both : successes (history ++ [.acquired request, .executed request response]) =
      successes history ++ [(request, response)] := by
    rw [← again, successes, List.filterMap_append, AtMostOnce.successes_append]
    rfl
  have counted := List.length_pos_of_mem earlier
  rw [both, List.length_append, List.length_singleton]
  omega

section Sample

/-- What a handler does once it has succeeded with status 200. -/
def complete (request : RequestId) : List Action :=
  [.respond request ⟨200, .null⟩, .setDone request true true, .setRow request true,
    .deleteLock request true true]

/-- The first request stalls after both of its reads, the second one runs to its end, and
the first one's handler then runs as well. -/
theorem stalled_request :
    ∃ history server,
      Run (takes (step none fun _ => none) Reliable) (Server.start 0 none none) history server ∧
        successes history = [(2, ⟨200, .null⟩), (1, ⟨200, .null⟩)] ∧
        server.phases 1 = .replied ∧ server.phases 2 = .replied := by
  refine ⟨_, _, run_of_restricted ([.arrive 1 true, .getDone 1 .succeeded, .getRow 1 .succeeded] ++
    enter 2 ++ complete 2 ++ [.setLock 1 true, .intercept 1] ++ complete 1) rfl, ?_, ?_, ?_⟩
  · rfl
  · rfl
  · rfl

/-- A request that arrives meanwhile is refused, and a later one gets the response. -/
theorem one_execution_replayed :
    ∃ history server,
      Run (takes (step none fun _ => none)
        (fun server action => Reliable server action ∧ Orderly server action))
        (Server.start 0 none none) history server ∧
        history.length = 6 ∧ (successes history).length ≤ 1 ∧
        ∀ request source answer, .replied request source answer ∈ history →
          Answered history request source answer := by
  have run : Run (takes (step none fun _ => none)
      (fun server action => Reliable server action ∧ Orderly server action))
      (Server.start 0 none none) _ _ :=
    run_of_restricted (enter 1 ++ [.arrive 2 true, .getDone 2 .succeeded, .getRow 2 .succeeded,
      .setLock 2 true, .trackConflict 2, .pass 5] ++ complete 1 ++
      [.pass 7, .arrive 3 true, .getDone 3 .succeeded]) rfl
  exact ⟨_, _, run, rfl, one_execution (by simp) run⟩

end Sample

end PlanBuddy.Idempotency
