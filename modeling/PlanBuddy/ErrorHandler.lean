import Mathlib.Data.List.Infix
import PlanBuddy.Values

/-!
# The global error handler

`errorHandler` reads a status, a message and a code off the thrown value, counts failures of
payments and sends one JSON response. Three things stop it before the response. The counter is
no export of the monitoring module. A `ZodError` has `issues`, and whether it has `errors` too is
up to the version of Zod. And a code is looked up in the map with what every object inherits, so
that the name of such a member is found and has no status.

Under `idempotency.strict` the response passes through `captureIdempotentResponse`, which
releases the lock of the key. What Express sends under a status is a parameter.
-/

namespace PlanBuddy.ErrorHandler

open Values

section Model

/-- An issue of a `ZodError`. -/
structure Issue where
  path : Option (List String)
  message : String
  code : String
deriving DecidableEq

inductive Kind where
  | zodError (errors : Option (List Issue))
  | other

/-- What the handler reads off a thrown value; what it lacks is undefined. -/
structure Thrown where
  kind : Kind
  statusCode : Value
  status : Value
  message : String
  code : Value
  name : Value
  details : Value
  constraint : Value
  isOperational : Value
  stack : Value

structure Request where
  path : String

/-- An entry of `PG_ERROR_MAP`. -/
structure PgError where
  status : Nat
  message : String
  code : String

def pgErrorMap : List (String × PgError) :=
  [("23505", ⟨409, "Duplicate entry — resource already exists.", "DUPLICATE_ENTRY"⟩),
    ("23503", ⟨400, "Referenced resource does not exist.", "FOREIGN_KEY_VIOLATION"⟩),
    ("23502", ⟨400, "Required field missing.", "NOT_NULL_VIOLATION"⟩),
    ("23514", ⟨400, "Data constraint violation.", "CHECK_VIOLATION"⟩),
    ("42P01", ⟨500, "Database schema error.", "TABLE_NOT_FOUND"⟩),
    ("42703", ⟨500, "Database schema error.", "COLUMN_NOT_FOUND"⟩),
    ("40001", ⟨503, "Service temporarily unavailable — please retry.", "SERIALIZATION_FAILURE"⟩),
    ("40P01", ⟨503, "Service temporarily unavailable — please retry.", "DEADLOCK_DETECTED"⟩),
    ("57014", ⟨504, "Query timeout.", "STATEMENT_TIMEOUT"⟩)]

/-- The branch that a thrown value takes. -/
inductive Branch where
  | validation (errors : Option (List Issue))
  /-- The code cannot be looked up. -/
  | keyless
  | postgres (entry : PgError)
  /-- The code names a member that the map inherits. -/
  | inherited
  | invalidToken
  | expiredToken
  | cors
  | operational
  | programmer

def Thrown.messageText (err : Thrown) : String :=
  if err.message = "" then "Internal Server Error" else err.message

def startsWith (text start : String) : Bool := start.toList.isPrefixOf text.toList

/-- The branches after the lookup. -/
def Thrown.unmapped (err : Thrown) : Branch :=
  if err.name.isText "JsonWebTokenError" then .invalidToken
  else if err.name.isText "TokenExpiredError" then .expiredToken
  else if startsWith err.messageText "CORS:" then .cors
  else if err.isOperational.truthy then .operational
  else .programmer

def Thrown.branch (err : Thrown) : Branch :=
  match err.kind with
  | .zodError errors => .validation errors
  | .other =>
    if err.code.truthy then
      match err.code.key with
      | none => .keyless
      | some none => err.unmapped
      | some (some key) =>
        match pgErrorMap.lookup key with
        | some entry => .postgres entry
        | none => if key ∈ objectMembers then .inherited else err.unmapped
    else err.unmapped

structure ValidationError where
  field : String
  message : String
  code : String
deriving DecidableEq

def Issue.validationError (issue : Issue) : ValidationError where
  field := ((issue.path.map (".".intercalate ·)).filter fun joined => decide (joined ≠ "")).getD
    "unknown"
  message := issue.message
  code := issue.code

/-- The variables that the branches assign. -/
structure Resolved where
  status : Value
  message : Option String
  code : Value
  details : Value
  validationErrors : Option (List ValidationError)

def Thrown.givenStatus (err : Thrown) : Value :=
  err.statusCode.orElse (err.status.orElse (.numeral 500))

def Thrown.given (err : Thrown) : Resolved where
  status := err.givenStatus
  message := some err.messageText
  code := err.code.orElse .null
  details := err.details.orElse .null
  validationErrors := none

def resolve (isProd : Bool) (err : Thrown) : Option Resolved :=
  let given := err.given
  match err.branch with
  | .validation errors => do
    let errors ← errors
    some { given with
      status := .numeral 400
      message := some "Validation failed."
      code := .string "VALIDATION_ERROR"
      validationErrors := some (errors.map Issue.validationError) }
  | .keyless => none
  | .postgres entry =>
    some { given with
      status := .numeral entry.status
      message := some entry.message
      code := .string entry.code
      details := if err.code.isText "23505" && err.constraint.truthy
        then .literal "constraint" err.constraint else given.details }
  | .inherited =>
    some { given with status := .undefined, message := none, code := .undefined }
  | .invalidToken =>
    some { given with
      status := .numeral 401
      message := some "Invalid authentication token."
      code := .string "INVALID_TOKEN" }
  | .expiredToken =>
    some { given with
      status := .numeral 401
      message := some "Authentication token has expired."
      code := .string "TOKEN_EXPIRED" }
  | .cors => some { given with status := .numeral 403, code := .string "CORS_FORBIDDEN" }
  | .operational => some given
  | .programmer => do
    let severe ← given.status.atLeast (.finite 500)
    some (if severe && isProd then
      { given with
        message := some "Internal Server Error"
        code := .string "INTERNAL_ERROR"
        details := .null }
    else given)

/-- What `utils/monitoring.js` exports. -/
def monitoring : List String := ["register", "request_total", "request_duration_ms"]

/-- `monitoring[counter].inc(…)`. -/
def increment (counter : String) : Option Unit := if counter ∈ monitoring then some () else none

inductive LogLevel
  | error
  | warn
deriving DecidableEq

def logLevel (status : Value) : Option (Option LogLevel) := do
  let severe ← status.atLeast (.finite 500)
  if severe then some (some .error)
  else
    let client ← status.atLeast (.finite 400)
    some (if client && !status.isNumeral 404 then some .warn else none)

/-- The body; what is not assigned is undefined. -/
structure Body where
  success : Bool
  status : Value
  message : Option String
  code : Value
  details : Value
  validationErrors : Option (List ValidationError)
  stack : Value

/-- Fields that are undefined are left out of the text. -/
def Body.serializes (body : Body) : Bool :=
  [body.status, body.code, body.details, body.stack].all Value.serializes

/-- `res.status(status).json(body)`, after the line of the log. -/
structure Reply where
  log : Option LogLevel
  status : Value
  body : Body

def includes (text part : String) : Bool := decide (part.toList <:+: text.toList)

def Resolved.body (resolved : Resolved) (isProd : Bool) (err : Thrown) : Body where
  success := false
  status := resolved.status
  message := resolved.message
  code := resolved.code.orElse .undefined
  details := resolved.details.orElse .undefined
  validationErrors := resolved.validationErrors
  stack := if isProd then .undefined else err.stack.orElse .undefined

/-- Nothing is replied when something throws. -/
def errorHandler (isProd : Bool) (request : Request) (err : Thrown) : Option Reply := do
  let resolved ← resolve isProd err
  let log ← logLevel resolved.status
  let severe ← resolved.status.atLeast (.finite 500)
  if severe && includes request.path "/payment" then increment "payment_failures_total"
  some { log, status := resolved.status, body := resolved.body isProd err }

/-- Whether Express sends a body under a status: under the statuses of responses that have one,
and not without a status. -/
structure Express where
  answers : Value → Bool
  regular : ∀ status : Nat, 200 ≤ status → status ≤ 599 → status ∉ [204, 205, 304] →
    answers (.numeral status) = true
  missing : answers .undefined = false

/-- `res.json` of Express, or as `idempotency.strict` wraps it. -/
inductive Json where
  | plain
  | captured (lockAcquired : Bool)

inductive Effect where
  /-- The response is kept for replays. -/
  | cached (reply : Reply)
  | releasedLock
  | sent (reply : Reply)

/-- It throws instead when the body cannot be written or the status cannot be sent. -/
def originalJson (express : Express) (reply : Reply) : List Effect :=
  if reply.body.serializes && express.answers reply.status then [.sent reply] else []

/-- Whatever the writes do, the lock is released; a body that cannot be written is not sent. -/
def captureIdempotentResponse (express : Express) (lockAcquired : Bool) (reply : Reply) :
    List Effect :=
  let status := reply.status.orElse (.numeral 200)
  let released := if lockAcquired then [Effect.releasedLock] else []
  match status.atLeast (.finite 200), status.atLeast (.finite 300) with
  | some atLeastOk, some redirect =>
    if atLeastOk && !redirect then
      if reply.body.serializes then [.cached reply] ++ released ++ originalJson express reply
      else released
    else released ++ originalJson express reply
  | _, _ => released

def Json.call (express : Express) (json : Json) (reply : Reply) : List Effect :=
  match json with
  | .plain => originalJson express reply
  | .captured lockAcquired => captureIdempotentResponse express lockAcquired reply

end Model

section Purpose

variable (isProd : Bool) (express : Express) (request : Request) (err : Thrown)

def Effect.reply : Effect → Option Reply
  | .sent reply => some reply
  | _ => none

/-- Nothing throws, and one response is sent, under the resolved status. A wrapped `res.json`
releases the lock that it holds too. -/
def AnswersOnce : Prop :=
  ∃ resolved reply, resolve isProd err = some resolved ∧
    errorHandler isProd request err = some reply ∧ reply.status = resolved.status ∧
    ∀ json : Json, (json.call express reply).filterMap Effect.reply = [reply] ∧
      (json = .captured true → Effect.releasedLock ∈ json.call express reply)

/-- The values of the thrown value that a response would show. -/
def Thrown.shown : List Value :=
  let stack := if isProd then .undefined else err.stack.orElse .undefined
  let own := [err.givenStatus, err.code.orElse .null, err.details.orElse .null]
  stack :: match err.branch with
    | .operational => own
    | .programmer =>
      if isProd && decide (err.givenStatus.atLeast (.finite 500) = some true)
        then [err.givenStatus] else own
    | .postgres _ =>
      [if err.code.isText "23505" && err.constraint.truthy
        then err.constraint else err.details.orElse .null]
    | _ => [err.details.orElse .null]

/-- A failure of the server on a path of the payments, which the handler would count. -/
def CountedFailure (severe : Bool) : Prop :=
  severe = true ∧ includes request.path "/payment" = true

/-- What the response would show can be written, an error of Zod has `errors`, the code is no
inherited member and can be looked up, a status that the thrown value brings is one that Express
sends, and no failure is counted. -/
def Answerable : Prop :=
  (∀ value ∈ err.shown isProd, value.serializes = true) ∧
    match err.branch with
    | .validation errors => errors.isSome = true
    | .postgres entry => ¬ CountedFailure request (decide (500 ≤ entry.status))
    | .keyless | .inherited => False
    | .invalidToken | .expiredToken | .cors => True
    | .operational | .programmer =>
      express.answers err.givenStatus = true ∧
        ∃ severe, err.givenStatus.atLeast (.finite 500) = some severe ∧
          ¬ CountedFailure request severe

end Purpose

section Replies

variable {isProd : Bool} {express : Express} {request : Request} {err : Thrown}

/-- A status that is compared once can be compared again. -/
theorem atLeast_some {status : Value} {bound : Number} {reached : Bool}
    (compared : status.atLeast bound = some reached) (other : Number) :
    ∃ more, status.atLeast other = some more := by
  obtain ⟨number, converted, -⟩ := Option.map_eq_some_iff.mp compared
  exact ⟨other.atMost number, by rw [Value.atLeast, converted, Option.map_some]⟩

/-- A status that can be compared has a log level. -/
theorem logLevel_some {status : Value} {severe : Bool}
    (compared : status.atLeast (.finite 500) = some severe) : ∃ log, logLevel status = some log := by
  obtain ⟨client, second⟩ := atLeast_some compared (.finite 400)
  cases severe with
  | true => exact ⟨some .error, by simp [logLevel, compared]⟩
  | false => exact ⟨_, by simp only [logLevel, compared, second]; rfl⟩

/-- However `res.json` is wrapped, one response is sent if the body can be written and the status
can be sent. -/
theorem call_sends_iff (express : Express) (reply : Reply) {severe : Bool}
    (compared : reply.status.atLeast (.finite 500) = some severe) :
    (∀ json : Json, (json.call express reply).filterMap Effect.reply = [reply] ∧
      (json = .captured true → Effect.releasedLock ∈ json.call express reply)) ↔
      reply.body.serializes = true ∧ express.answers reply.status = true := by
  constructor
  · intro sends
    have plain := (sends .plain).1
    simp only [Json.call, originalJson] at plain
    split at plain
    · next both => exact Bool.and_eq_true_iff.mp both
    · cases plain
  · rintro ⟨written, answered⟩ json
    have sent : originalJson express reply = [.sent reply] := by
      rw [originalJson, written, answered]
      rfl
    cases json with
    | plain => exact ⟨by rw [Json.call, sent]; rfl, fun captured => nomatch captured⟩
    | captured lockAcquired =>
      have known : ∀ bound, ∃ reached,
          (reply.status.orElse (.numeral 200)).atLeast bound = some reached := by
        intro bound
        rw [Value.orElse]
        split
        · exact atLeast_some compared bound
        · exact ⟨_, rfl⟩
      obtain ⟨atLeastOk, first⟩ := known (.finite 200)
      obtain ⟨redirect, second⟩ := known (.finite 300)
      simp only [Json.call, captureIdempotentResponse, first, second, written, sent]
      cases lockAcquired with
      | false => cases atLeastOk <;> cases redirect <;> exact ⟨rfl, fun captured => nomatch captured⟩
      | true => cases atLeastOk <;> cases redirect <;> exact ⟨rfl, fun _ => by simp⟩

/-- Resolved to these, the thrown value is answered if the status compares with 500, no failure
is counted, the body can be written and Express sends the status. -/
theorem answersOnce_iff {resolved : Resolved} (resolves : resolve isProd err = some resolved) :
    AnswersOnce isProd express request err ↔
      (∃ severe, resolved.status.atLeast (.finite 500) = some severe ∧
        ¬ CountedFailure request severe) ∧
      (resolved.body isProd err).serializes = true ∧ express.answers resolved.status = true := by
  cases compared : resolved.status.atLeast (.finite 500) with
  | none =>
    have silent : errorHandler isProd request err = none := by
      simp [errorHandler, resolves, logLevel, compared]
    simp [AnswersOnce, silent]
  | some severe =>
    obtain ⟨log, logged⟩ := logLevel_some compared
    by_cases counted : CountedFailure request severe
    · -- The counter is no export.
      have silent : errorHandler isProd request err = none := by
        simp [errorHandler, resolves, logged, compared, counted.1, counted.2, increment, monitoring]
      simp [AnswersOnce, silent, counted]
    · have handled : errorHandler isProd request err =
          some ⟨log, resolved.status, resolved.body isProd err⟩ := by
        simp only [errorHandler, resolves, logged, compared, Option.bind_eq_bind, Option.bind_some]
        rw [if_neg fun failure => counted (Bool.and_eq_true_iff.mp failure)]
      have sends := call_sends_iff express ⟨log, resolved.status, resolved.body isProd err⟩ compared
      constructor
      · rintro ⟨_, _, _, again, -, sent⟩
        cases handled.symm.trans again
        exact ⟨⟨severe, rfl, counted⟩, sends.mp sent⟩
      · rintro ⟨-, both⟩
        exact ⟨resolved, _, resolves, handled, rfl, sends.mpr both⟩

end Replies

section Branches

variable {isProd : Bool} {express : Express} {request : Request} {err : Thrown}

/-- A number is severe from 500 on. -/
theorem numeral_severe (status : Nat) :
    (Value.numeral status).atLeast (.finite 500) = some (decide (500 ≤ status)) := by
  have cast : ((500 : Nat) : Rat) ≤ status ↔ 500 ≤ status := Nat.cast_le
  exact congrArg some (decide_eq_decide.mpr cast)

/-- Errors of the database have regular statuses. -/
theorem postgres_regular {entry : PgError} (taken : err.branch = .postgres entry) :
    400 ≤ entry.status ∧ entry.status ≤ 504 := by
  have regular : ∀ mapped ∈ pgErrorMap, 400 ≤ mapped.2.status ∧ mapped.2.status ≤ 504 := by decide
  have unmapped : err.unmapped ≠ .postgres entry := by
    unfold Thrown.unmapped
    split_ifs <;> exact nofun
  unfold Thrown.branch at taken
  split at taken
  · cases taken
  · split_ifs at taken
    · split at taken
      · cases taken
      · exact absurd taken unmapped
      · next key _ =>
        split at taken
        · next found =>
          cases taken
          obtain ⟨before, after, whole, -⟩ := List.lookup_eq_some_iff.mp found
          exact regular (key, entry) (by rw [whole]; simp)
        · split_ifs at taken
          exact absurd taken unmapped
    · exact absurd taken unmapped

/-- An optional value is written as it would be without its default. -/
theorem assigned_serializes (value : Value) :
    (value.orElse .undefined).serializes = (value.orElse .null).serializes := by
  unfold Value.orElse
  split <;> rfl

/-- A missing value is left out. -/
theorem orElse_null (value : Value) :
    (value.orElse .null).orElse .undefined = value.orElse .undefined := by
  cases truthy : value.truthy with
  | true => simp only [Value.orElse, truthy, if_true]
  | false =>
    simp only [Value.orElse, truthy, Bool.false_eq_true, if_false]
    rfl

/-- A body serializes when its parts do. -/
theorem body_serializes (resolved : Resolved) :
    (resolved.body isProd err).serializes = true ↔
      resolved.status.serializes = true ∧ (resolved.code.orElse .undefined).serializes = true ∧
        (resolved.details.orElse .undefined).serializes = true ∧
          (if isProd then .undefined else err.stack.orElse .undefined).serializes = true := by
  simp [Body.serializes, Resolved.body]

/-- An object literal is written as its field is. -/
theorem literal_serializes (field : String) (value : Value) :
    ((Value.literal field value).orElse .undefined).serializes = value.serializes := rfl

/-- A text is written in any case. -/
theorem text_serializes (text : String) :
    ((Value.string text).orElse .undefined).serializes = true := by
  unfold Value.orElse
  split <;> rfl

/-- With a status and a code of the handler's own, only the details and the stack matter besides
the counter. -/
theorem answersOnce_regular {resolved : Resolved} {status : Nat} {code : String}
    (resolves : resolve isProd err = some resolved) (own : resolved.status = .numeral status)
    (range : 400 ≤ status ∧ status ≤ 504) (named : resolved.code = .string code) :
    AnswersOnce isProd express request err ↔
      ((if isProd then .undefined else err.stack.orElse .undefined).serializes = true ∧
        (resolved.details.orElse .undefined).serializes = true) ∧
        ¬ CountedFailure request (decide (500 ≤ status)) := by
  have answered : express.answers (.numeral status) = true := by
    refine express.regular status (by omega) (by omega) ?_
    simp only [List.mem_cons, List.not_mem_nil, or_false]
    omega
  have written : (Value.numeral status).serializes = true := rfl
  rw [answersOnce_iff resolves, body_serializes, own, numeral_severe, named]
  simp only [answered, text_serializes, written, Option.some.injEq, exists_eq_left', true_and, and_true]
  exact ⟨fun ⟨counted, details, stack⟩ => ⟨⟨stack, details⟩, counted⟩,
    fun ⟨⟨stack, details⟩, counted⟩ => ⟨counted, details, stack⟩⟩

/-- With the status that the thrown value brings, its code and details are shown. -/
theorem answersOnce_given (resolves : resolve isProd err = some err.given) :
    AnswersOnce isProd express request err ↔
      (∀ value ∈ [if isProd then .undefined else err.stack.orElse .undefined, err.givenStatus,
        err.code.orElse .null, err.details.orElse .null], value.serializes = true) ∧
        express.answers err.givenStatus = true ∧
          ∃ severe, err.givenStatus.atLeast (.finite 500) = some severe ∧
            ¬ CountedFailure request severe := by
  rw [answersOnce_iff resolves, body_serializes]
  simp only [Thrown.given, orElse_null, assigned_serializes, List.forall_mem_cons,
    List.not_mem_nil, false_implies, implies_true, and_true]
  exact ⟨fun ⟨counted, ⟨status, code, details, stack⟩, answered⟩ =>
      ⟨⟨stack, status, code, details⟩, answered, counted⟩,
    fun ⟨⟨stack, status, code, details⟩, answered, counted⟩ =>
      ⟨counted, ⟨status, code, details, stack⟩, answered⟩⟩

end Branches

section Claims

/-- A thrown value is answered once, under the resolved status, exactly if it is answerable. -/
theorem answers_once_iff (isProd : Bool) (express : Express) (request : Request) (err : Thrown) :
    AnswersOnce isProd express request err ↔ Answerable isProd express request err := by
  cases taken : err.branch with
  | validation errors =>
    cases errors with
    | none => simp [AnswersOnce, Answerable, resolve, taken]
    | some errors =>
      rw [answersOnce_regular (by rw [resolve, taken]; rfl) rfl (by decide) rfl]
      simp only [Answerable, Thrown.shown, taken, Thrown.given, orElse_null, assigned_serializes,
        List.forall_mem_cons]
      simp [CountedFailure]
  | keyless => simp [AnswersOnce, Answerable, resolve, taken]
  | postgres entry =>
    rw [answersOnce_regular (by rw [resolve, taken]) rfl (postgres_regular taken) rfl]
    have shown : ((if err.code.isText "23505" && err.constraint.truthy
        then .literal "constraint" err.constraint else err.given.details).orElse
          .undefined).serializes =
        (if err.code.isText "23505" && err.constraint.truthy
          then err.constraint else err.details.orElse .null).serializes := by
      split
      · exact literal_serializes "constraint" err.constraint
      · exact (congrArg Value.serializes (orElse_null err.details)).trans (assigned_serializes _)
    rw [shown]
    simp [Answerable, Thrown.shown, taken]
  | inherited =>
    rw [answersOnce_iff (by rw [resolve, taken])]
    simp [Answerable, taken, express.missing]
  | invalidToken | expiredToken | cors =>
    rw [answersOnce_regular (by rw [resolve, taken]) rfl (by decide) rfl]
    simp only [Answerable, Thrown.shown, taken, Thrown.given, orElse_null, assigned_serializes,
      List.forall_mem_cons]
    simp [CountedFailure]
  | operational =>
    rw [answersOnce_given (by rw [resolve, taken])]
    simp only [Answerable, Thrown.shown, taken]
  | programmer =>
    cases compared : err.givenStatus.atLeast (.finite 500) with
    | none => simp [AnswersOnce, Answerable, resolve, taken, Thrown.given, compared]
    | some severe =>
      have resolves : resolve isProd err = some (if severe && isProd then
          { err.given with
            message := some "Internal Server Error"
            code := .string "INTERNAL_ERROR"
            details := .null }
          else err.given) := by
        simp [resolve, taken, Thrown.given, compared]
      cases masked : severe && isProd with
      | false =>
        rw [masked] at resolves
        rw [answersOnce_given resolves]
        have shown : (isProd && decide (err.givenStatus.atLeast (.finite 500) = some true)) =
            false := by
          rw [compared]
          cases severe <;> cases isProd <;> first | rfl | cases masked
        simp [Answerable, Thrown.shown, taken, shown]
      | true =>
        -- Of the thrown value only its status is shown.
        rw [masked] at resolves
        obtain ⟨rfl, rfl⟩ := Bool.and_eq_true_iff.mp masked
        rw [answersOnce_iff resolves, body_serializes]
        have hidden : (Value.null.orElse .undefined).serializes = true := rfl
        have undefined : Value.undefined.serializes = true := rfl
        simp only [if_true, Answerable, Thrown.shown, taken, compared, Thrown.given,
          text_serializes, hidden, undefined, Option.some.injEq, exists_eq_left',
          decide_true, Bool.and_self, List.forall_mem_cons, List.not_mem_nil, false_implies,
          implies_true, and_true, true_and]
        exact ⟨fun ⟨counted, status, answered⟩ => ⟨status, answered, counted⟩,
          fun ⟨status, answered, counted⟩ => ⟨counted, status, answered⟩⟩

/-- Express for statuses that are integers. -/
def integerStatuses : Express where
  answers status := status.numeric.any fun
    | .finite value => decide (value.den = 1 ∧ 200 ≤ value.num ∧ value.num ≤ 999 ∧
        value.num ∉ [204, 205, 304])
    | _ => false
  regular := by
    intro status least most sends
    simp only [Value.numeral, Value.numeric, Option.any_some, Rat.den_natCast, Rat.num_natCast,
      decide_eq_true_eq, true_and, List.mem_cons, List.not_mem_nil, or_false] at sends ⊢
    omega
  missing := rfl

/-- An error of the application without a code. -/
def appError (status : Nat) : Thrown where
  kind := .other
  statusCode := .numeral status
  status := .numeral status
  message := "Provider unavailable"
  code := .null
  name := .string "AppError"
  details := .null
  constraint := .undefined
  isOperational := .boolean true
  stack := .undefined

example : AnswersOnce true integerStatuses ⟨"/api/v1/payment/refund"⟩ (appError 409) := by
  have resolves : resolve true (appError 409) = some (appError 409).given := rfl
  refine (answersOnce_given resolves).mpr ⟨?_, ?_, false, numeral_severe 409, nofun⟩
  · simp only [List.forall_mem_cons, List.not_mem_nil, false_implies, implies_true, and_true]
    exact ⟨rfl, rfl, rfl, rfl⟩
  · exact integerStatuses.regular 409 (by decide) (by decide) (by decide)

/-- A failure with status 500 under a path of the payments, an error of Zod without `errors`, and
a code that the map inherits. -/
theorem payment_failure_unanswered :
    ¬ AnswersOnce true integerStatuses ⟨"/api/v1/payment/create-order"⟩ (appError 500) ∧
      ¬ AnswersOnce true integerStatuses ⟨"/api/v1/bookings"⟩
        { appError 500 with kind := .zodError none } ∧
      ¬ AnswersOnce true integerStatuses ⟨"/api/v1/bookings"⟩
        { appError 409 with code := .string "constructor" } := by
  refine ⟨fun answers => ?_, fun answers => ?_, fun answers => ?_⟩
  · have resolves : resolve true (appError 500) = some (appError 500).given := rfl
    obtain ⟨-, -, severe, compared, uncounted⟩ := (answersOnce_given resolves).mp answers
    cases (numeral_severe 500).symm.trans compared
    exact uncounted ⟨rfl, decide_eq_true ⟨"/api/v1".toList, "/create-order".toList, rfl⟩⟩
  · obtain ⟨resolved, -, resolves, -⟩ := answers
    cases resolves
  · have resolves : resolve true { appError 409 with code := .string "constructor" } =
        some { (appError 409).given with
          status := .undefined, message := none, code := .undefined } := rfl
    have answered := ((answersOnce_iff resolves).mp answers).2.2
    exact absurd answered (by rw [integerStatuses.missing]; exact Bool.false_ne_true)

end Claims

end PlanBuddy.ErrorHandler
