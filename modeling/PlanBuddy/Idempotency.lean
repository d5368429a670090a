import PlanBuddy.Queues
import PlanBuddy.TimedLock

/-!
# Requests under one idempotency key

The middleware `runIdempotency` and the response interceptor it installs, for all
requests that share a scoped key. A request is a position between two awaits; a
step is one Redis or database command together with the JavaScript up to the
next. The three things shared are the done key, the lock key and the database
row, each with its expiry on one clock.

Whether Redis is ready, whether a command fails and whether a step throws are
choices of the environment. The lock key holds a constant in the source; the
model also records who set it, which no branch reads. A database row keeps the
expiry of its first insertion. JSON objects are compared up to the order of
their keys, which the column does not keep.
-/

namespace PlanBuddy.Idempotency

abbrev RequestId := Nat

structure Response where
  status : Nat
  body : Json

/-- `status >= 200 && status < 300`. -/
def Response.successful (response : Response) : Bool :=
  decide (200 ≤ response.status ∧ response.status < 300)

/-- The answer to a request that meets a lock. -/
def keyInFlight : Response :=
  ⟨409, .obj [("success", .bool false), ("code", .str "IDEMPOTENCY_KEY_IN_FLIGHT"),
    ("message", .str "A request with this Idempotency-Key is already in progress.")]⟩

/-- `LOCK_TTL_S`, in milliseconds. -/
def lockTtl : Int := 30 * 1000

/-- `env.IDEMPOTENCY_TTL_HOURS || 72`, in milliseconds. -/
def responseTtl (hours : Option Nat) : Int :=
  ((hours.filter (fun hours => hours ≠ 0)).getD 72 : Nat) * 3600 * 1000

/-- A stored response, in Redis or in the database. -/
structure Stored where
  response : Response
  expiresAt : Time

def unexpired (now : Time) (stored : Option Stored) : Option Response :=
  (stored.filter (fun stored => decide (now < stored.expiresAt))).map Stored.response

/-- Where a request stands: what it awaits, or whose handler is running. The flag of the
states before the clean-up is both `useRedis` and `lockAcquired`, which agree there. The
deletion of the clean-up is not awaited, so the handler may answer before it. -/
inductive Phase where
  | arriving
  | gettingDone
  | deletingDone
  | gettingRow (useRedis : Bool)
  | settingLock
  | trackingConflict
  | intercepting (lockAcquired : Bool)
  | handling (lockAcquired : Bool)
  | handlingBare
  | settingDone (response : Response)
  | settingRow (response : Response) (lockAcquired : Bool)
  | deletingLock (response : Response)
  | cleaningUp (answered : Bool)
  | replied

structure Server where
  lock : TimedLock.State RequestId
  done : Option Stored
  row : Option Stored
  phases : RequestId → Phase

/-- No request has arrived and no lock is set. -/
def Server.start (now : Time) (done row : Option Stored) : Server where
  lock := ⟨now, none, fun _ => none⟩
  done := done
  row := row
  phases _ := .arriving

def Server.move (server : Server) (request : RequestId) (phase : Phase) : Server :=
  { server with phases := Function.update server.phases request phase }

/-- A request that moves leaves the lock. -/
@[simp] theorem move_lock (server : Server) (request : RequestId) (phase : Phase) :
    (server.move request phase).lock = server.lock := rfl

/-- It leaves the response. -/
@[simp] theorem move_done (server : Server) (request : RequestId) (phase : Phase) :
    (server.move request phase).done = server.done := rfl

/-- It is in its new phase. -/
@[simp] theorem move_same (server : Server) (request : RequestId) (phase : Phase) :
    (server.move request phase).phases request = phase := Function.update_self ..

/-- The others are in theirs. -/
theorem move_other (server : Server) {request other : RequestId} (phase : Phase)
    (different : other ≠ request) :
    (server.move request phase).phases other = server.phases other :=
  Function.update_of_ne different ..

/-- What becomes of a read: it fails, it succeeds, or what it found cannot be parsed or sent. -/
inductive Read where
  | failed
  | succeeded
  | unusable
deriving DecidableEq

inductive Action where
  | pass (elapsed : Nat)
  | arrive (request : RequestId) (ready : Bool)
  | getDone (request : RequestId) (read : Read)
  | deleteDone (request : RequestId) (succeeded : Bool)
  | getRow (request : RequestId) (read : Read)
  | setLock (request : RequestId) (succeeded : Bool)
  | trackConflict (request : RequestId)
  | intercept (request : RequestId)
  | throw (request : RequestId)
  | cleanUp (request : RequestId) (ready succeeded : Bool)
  | respond (request : RequestId) (response : Response)
  | setDone (request : RequestId) (ready succeeded : Bool)
  | setRow (request : RequestId) (succeeded : Bool)
  | deleteLock (request : RequestId) (ready succeeded : Bool)

/-- Where an answer comes from. -/
inductive Source where
  | refused
  | replayed
  | executed
deriving DecidableEq

inductive Event where
  | acquired (request : RequestId)
  | deleted (request : RequestId) (owner : Option RequestId)
  | executed (request : RequestId) (response : Response)
  | replied (request : RequestId) (source : Source) (response : Response)

/-- The body replayed from a database row. A text body is parsed a second time. -/
def rowBody (parse : String → Option Json) : Json → Option Json
  | .str text => parse text
  | body => some body

/-- The upsert of `dbSet`; an existing row keeps its expiry. -/
def dbSet (hours : Option Nat) (now : Time) (response : Response) : Option Stored → Stored
  | none => ⟨response, now + responseTtl hours⟩
  | some old => { old with response }

/-- `redis.del(lockKey)` when Redis is ready and the command succeeds. -/
def releaseLock (server : Server) (request : RequestId) (ready succeeded : Bool) :
    Server × List Event :=
  if ready && succeeded then
    ({ server with lock := server.lock.delete request }, [.deleted request server.lock.holder])
  else (server, [])

def step (hours : Option Nat) (parse : String → Option Json) (server : Server) :
    Action → Option (Server × List Event)
  | .pass elapsed =>
    some ({ server with lock := { server.lock with now := server.lock.now + elapsed } }, [])
  | .arrive request ready =>
    match server.phases request with
    | .arriving => some (server.move request (if ready then .gettingDone else .gettingRow false), [])
    | _ => none
  | .getDone request read =>
    match server.phases request with
    | .gettingDone =>
      match read, unexpired server.lock.now server.done with
      | .succeeded, some response =>
        some (server.move request .replied, [.replied request .replayed response])
      | .unusable, some _ => some (server.move request .deletingDone, [])
      | _, _ => some (server.move request (.gettingRow true), [])
    | _ => none
  | .deleteDone request succeeded =>
    match server.phases request with
    | .deletingDone =>
      some ({ server with done := if succeeded then none else server.done }.move request
        (.gettingRow true), [])
    | _ => none
  | .getRow request read =>
    match server.phases request with
    | .gettingRow useRedis =>
      let missed := server.move request (if useRedis then .settingLock else .intercepting false)
      match read, unexpired server.lock.now server.row with
      | .succeeded, some response =>
        match rowBody parse response.body with
        | some body =>
          some (server.move request .replied, [.replied request .replayed { response with body }])
        | none => some (missed, [])
      | _, _ => some (missed, [])
    | _ => none
  | .setLock request succeeded =>
    match server.phases request with
    | .settingLock =>
      if succeeded = false then some (server.move request .handlingBare, [])
      else if server.lock.holder.isSome then some (server.move request .trackingConflict, [])
      else some ({ server with lock := server.lock.acquire lockTtl request }.move request
        (.intercepting true), [.acquired request])
    | _ => none
  | .trackConflict request =>
    match server.phases request with
    | .trackingConflict =>
      some (server.move request .replied, [.replied request .refused keyInFlight])
    | _ => none
  | .intercept request =>
    match server.phases request with
    | .intercepting lockAcquired => some (server.move request (.handling lockAcquired), [])
    | _ => none
  | .throw request =>
    match server.phases request with
    | .gettingDone | .deletingDone | .gettingRow _ | .settingLock | .trackingConflict
    | .intercepting _ => some (server.move request (.cleaningUp false), [])
    | _ => none
  | .cleanUp request ready succeeded =>
    match server.phases request with
    | .cleaningUp answered =>
      let (released, deletion) := releaseLock server request ready succeeded
      some (released.move request (if answered then .replied else .handlingBare), deletion)
    | _ => none
  | .respond request response =>
    match server.phases request with
    | .handling lockAcquired =>
      if response.successful then
        some (server.move request (if lockAcquired then .settingDone response
          else .settingRow response false), [.executed request response])
      else if lockAcquired then
        some (server.move request (.deletingLock response), [.executed request response])
      else some (server.move request .replied,
        [.executed request response, .replied request .executed response])
    | .handlingBare =>
      some (server.move request .replied,
        [.executed request response, .replied request .executed response])
    | .cleaningUp false =>
      some (server.move request (.cleaningUp true),
        [.executed request response, .replied request .executed response])
    | _ => none
  | .setDone request ready succeeded =>
    match server.phases request with
    | .settingDone response =>
      let done := if ready && succeeded then
        some ⟨response, server.lock.now + responseTtl hours⟩ else server.done
      some ({ server with done }.move request (.settingRow response true), [])
    | _ => none
  | .setRow request succeeded =>
    match server.phases request with
    | .settingRow response lockAcquired =>
      let row := if succeeded then some (dbSet hours server.lock.now response server.row)
        else server.row
      if lockAcquired then some ({ server with row }.move request (.deletingLock response), [])
      else some ({ server with row }.move request .replied, [.replied request .executed response])
    | _ => none
  | .deleteLock request ready succeeded =>
    match server.phases request with
    | .deletingLock response =>
      let (released, deletion) := releaseLock server request ready succeeded
      some (released.move request .replied, deletion ++ [.replied request .executed response])
    | _ => none

/-- A request that the middleware has not let through or answered yet. -/
def Phase.checking : Phase → Bool
  | .gettingDone | .deletingDone | .gettingRow _ | .settingLock | .trackingConflict
  | .intercepting _ => true
  | _ => false

section Branches

variable (hours : Option Nat) (parse : String → Option Json) (server : Server)

/-- The branches of `step`, each with where the request stands and what it reads. -/
inductive Stepped : Action → Server → List Event → Prop where
  | pass (elapsed : Nat) : Stepped (.pass elapsed)
      { server with lock := { server.lock with now := server.lock.now + elapsed } } []
  | arrive (request : RequestId) (ready : Bool) (stands : server.phases request = .arriving) :
      Stepped (.arrive request ready)
        (server.move request (if ready then .gettingDone else .gettingRow false)) []
  | cached (request : RequestId) (response : Response)
      (stands : server.phases request = .gettingDone)
      (found : unexpired server.lock.now server.done = some response) :
      Stepped (.getDone request .succeeded) (server.move request .replied)
        [.replied request .replayed response]
  | corrupt (request : RequestId) (response : Response)
      (stands : server.phases request = .gettingDone)
      (found : unexpired server.lock.now server.done = some response) :
      Stepped (.getDone request .unusable) (server.move request .deletingDone) []
  | uncached (request : RequestId) (read : Read) (stands : server.phases request = .gettingDone)
      (missed : read = .failed ∨ unexpired server.lock.now server.done = none) :
      Stepped (.getDone request read) (server.move request (.gettingRow true)) []
  | deleteDone (request : RequestId) (succeeded : Bool)
      (stands : server.phases request = .deletingDone) :
      Stepped (.deleteDone request succeeded)
        ({ server with done := if succeeded then none else server.done }.move request
          (.gettingRow true)) []
  | written (request : RequestId) (useRedis : Bool) (response : Response) (body : Json)
      (stands : server.phases request = .gettingRow useRedis)
      (found : unexpired server.lock.now server.row = some response)
      (parsed : rowBody parse response.body = some body) :
      Stepped (.getRow request .succeeded) (server.move request .replied)
        [.replied request .replayed { response with body }]
  | unwritten (request : RequestId) (read : Read) (useRedis : Bool)
      (stands : server.phases request = .gettingRow useRedis)
      (missed : read = .succeeded → ∀ response ∈ unexpired server.lock.now server.row,
        rowBody parse response.body = none) :
      Stepped (.getRow request read)
        (server.move request (if useRedis then .settingLock else .intercepting false)) []
  | lockFailed (request : RequestId) (stands : server.phases request = .settingLock) :
      Stepped (.setLock request false) (server.move request .handlingBare) []
  | lockHeld (request : RequestId) (stands : server.phases request = .settingLock)
      (held : server.lock.holder.isSome = true) :
      Stepped (.setLock request true) (server.move request .trackingConflict) []
  | lockAcquired (request : RequestId) (stands : server.phases request = .settingLock)
      (free : server.lock.holder = none) :
      Stepped (.setLock request true)
        ({ server with lock := server.lock.acquire lockTtl request }.move request
          (.intercepting true)) [.acquired request]
  | trackConflict (request : RequestId) (stands : server.phases request = .trackingConflict) :
      Stepped (.trackConflict request) (server.move request .replied)
        [.replied request .refused keyInFlight]
  | intercept (request : RequestId) (lockAcquired : Bool)
      (stands : server.phases request = .intercepting lockAcquired) :
      Stepped (.intercept request) (server.move request (.handling lockAcquired)) []
  | throw (request : RequestId) (checking : (server.phases request).checking = true) :
      Stepped (.throw request) (server.move request (.cleaningUp false)) []
  | cleanUp (request : RequestId) (ready succeeded answered : Bool)
      (stands : server.phases request = .cleaningUp answered) :
      Stepped (.cleanUp request ready succeeded)
        ((releaseLock server request ready succeeded).1.move request
          (if answered then .replied else .handlingBare))
        (releaseLock server request ready succeeded).2
  | succeed (request : RequestId) (response : Response) (lockAcquired : Bool)
      (stands : server.phases request = .handling lockAcquired)
      (success : response.successful = true) :
      Stepped (.respond request response)
        (server.move request (if lockAcquired then .settingDone response
          else .settingRow response false)) [.executed request response]
  | failLocked (request : RequestId) (response : Response)
      (stands : server.phases request = .handling true)
      (failure : response.successful = false) :
      Stepped (.respond request response) (server.move request (.deletingLock response))
        [.executed request response]
  | answer (request : RequestId) (response : Response)
      (stands : server.phases request = .handling false ∧ response.successful = false ∨
        server.phases request = .handlingBare) :
      Stepped (.respond request response) (server.move request .replied)
        [.executed request response, .replied request .executed response]
  | answerEarly (request : RequestId) (response : Response)
      (stands : server.phases request = .cleaningUp false) :
      Stepped (.respond request response) (server.move request (.cleaningUp true))
        [.executed request response, .replied request .executed response]
  | setDone (request : RequestId) (ready succeeded : Bool) (response : Response)
      (stands : server.phases request = .settingDone response) :
      Stepped (.setDone request ready succeeded)
        ({ server with
            done := if ready && succeeded then some ⟨response, server.lock.now + responseTtl hours⟩
              else server.done }.move request (.settingRow response true)) []
  | setRow (request : RequestId) (succeeded : Bool) (response : Response) (lockAcquired : Bool)
      (stands : server.phases request = .settingRow response lockAcquired) :
      Stepped (.setRow request succeeded)
        ({ server with
            row := if succeeded then some (dbSet hours server.lock.now response server.row)
              else server.row }.move request
          (if lockAcquired then .deletingLock response else .replied))
        (if lockAcquired then [] else [.replied request .executed response])
  | deleteLock (request : RequestId) (ready succeeded : Bool) (response : Response)
      (stands : server.phases request = .deletingLock response) :
      Stepped (.deleteLock request ready succeeded)
        ((releaseLock server request ready succeeded).1.move request .replied)
        ((releaseLock server request ready succeeded).2 ++ [.replied request .executed response])

end Branches

/-- A step takes one of the branches. -/
theorem step_cases {hours : Option Nat} {parse : String → Option Json} {server next : Server}
    {action : Action} {observed : List Event}
    (taken : step hours parse server action = some (next, observed)) :
    Stepped hours parse server action next observed := by
  cases action with
  | pass elapsed =>
    cases taken
    exact .pass elapsed
  | arrive request ready =>
    simp only [step] at taken
    split at taken <;> cases taken
    next stands => exact .arrive request ready stands
  | getDone request read =>
    simp only [step] at taken
    split at taken
    · next stands =>
      split at taken
      · next response found =>
        cases taken
        exact .cached request response stands found
      · next response found =>
        cases taken
        exact .corrupt request response stands found
      · next read _ _ usable unusable =>
        cases taken
        refine .uncached request read stands ?_
        cases read with
        | failed => exact .inl rfl
        | succeeded => exact .inr (Option.eq_none_iff_forall_ne_some.mpr fun r => usable r rfl)
        | unusable => exact .inr (Option.eq_none_iff_forall_ne_some.mpr fun r => unusable r rfl)
    · cases taken
  | deleteDone request succeeded =>
    simp only [step] at taken
    split at taken <;> cases taken
    next stands => exact .deleteDone request succeeded stands
  | getRow request read =>
    simp only [step] at taken
    split at taken
    · next useRedis stands =>
      split at taken
      · next response found =>
        split at taken <;> cases taken
        · next body parsed => exact .written request useRedis response body stands found parsed
        · next unparsed =>
          refine .unwritten request .succeeded useRedis stands fun _ other also => ?_
          cases found.symm.trans also
          exact unparsed
      · next read _ _ missed =>
        cases taken
        exact .unwritten request read useRedis stands fun succeeded response found =>
          absurd found (missed response succeeded)
    · cases taken
  | setLock request succeeded =>
    simp only [step] at taken
    split at taken
    · next stands =>
      split at taken
      · next failed =>
        cases taken
        subst failed
        exact .lockFailed request stands
      · next succeeds =>
        obtain rfl : succeeded = true := by simpa using succeeds
        split at taken <;> cases taken
        · next held => exact .lockHeld request stands held
        · next free => exact .lockAcquired request stands (Option.not_isSome_iff_eq_none.mp free)
    · cases taken
  | trackConflict request =>
    simp only [step] at taken
    split at taken <;> cases taken
    next stands => exact .trackConflict request stands
  | intercept request =>
    simp only [step] at taken
    split at taken <;> cases taken
    next lockAcquired stands => exact .intercept request lockAcquired stands
  | throw request =>
    simp only [step] at taken
    split at taken <;> cases taken <;> next stands => exact .throw request (by rw [stands]; rfl)
  | cleanUp request ready succeeded =>
    simp only [step] at taken
    split at taken <;> cases taken
    next answered stands => exact .cleanUp request ready succeeded answered stands
  | respond request response =>
    simp only [step] at taken
    split at taken
    · next lockAcquired stands =>
      split at taken
      · next success =>
        cases taken
        exact .succeed request response lockAcquired stands success
      · next failure =>
        rw [Bool.not_eq_true] at failure
        split at taken <;> cases taken
        · next locked =>
          subst locked
          exact .failLocked request response stands failure
        · next unlocked =>
          rw [Bool.not_eq_true] at unlocked
          subst unlocked
          exact .answer request response (.inl ⟨stands, failure⟩)
    · next stands =>
      cases taken
      exact .answer request response (.inr stands)
    · next stands =>
      cases taken
      exact .answerEarly request response stands
    · cases taken
  | setDone request ready succeeded =>
    simp only [step] at taken
    split at taken <;> cases taken
    next response stands => exact .setDone request ready succeeded response stands
  | setRow request succeeded =>
    simp only [step] at taken
    split at taken
    · next response lockAcquired stands =>
      have branch : Stepped hours parse server _ _ _ :=
        .setRow request succeeded response lockAcquired stands
      split at taken <;> cases taken
      · next locked => simpa only [if_pos locked] using branch
      · next unlocked => simpa only [if_neg unlocked] using branch
    · cases taken
  | deleteLock request ready succeeded =>
    simp only [step] at taken
    split at taken <;> cases taken
    next response stands => exact .deleteLock request ready succeeded response stands

/-- A request on its way to its handler, when nothing is cached and the lock is free. -/
def enter (request : RequestId) : List Action :=
  [.arrive request true, .getDone request .succeeded, .getRow request .succeeded,
    .setLock request true, .intercept request]

end PlanBuddy.Idempotency
