import Mathlib.Data.List.Infix
import PlanBuddy.WebhookIngest

/-!
# The middleware in front of the routes

What `app.js` mounts before a route, as far as it can answer a request itself. A stage
passes the request on, possibly changed, or answers it; the first answer ends the stack.
The stages for response headers, request ids, traces and logs pass every request on and
are left out.

Two stages have to agree. In production `csrfProtection` wants the header
X-Requested-With on every request that may change state; the preflight that `cors`
answers does not let a browser send it, and Razorpay does not send it either.
-/

namespace PlanBuddy.MiddlewareStack

open WebhookIngest (lowerCase)

section Requests

/-- A header line, by its name and value. -/
abbrev Header := String × String

/-- A path without its query, as characters. -/
abbrev Path := List Char

structure Request where
  method : String
  originalUrl : String
  headers : List Header
  remoteAddress : Option String

def Request.path (request : Request) : Path :=
  request.originalUrl.toList.takeWhile fun char => decide (char ≠ '?')

/-- `req.headers[name]`. Names have no case, and a repeated header is joined. -/
def Request.header (request : Request) (name : String) : Option String :=
  match request.headers.filter fun header => lowerCase header.1 == lowerCase name with
  | [] => none
  | found => some (", ".intercalate (found.map Prod.snd))

/-- A missing header and an empty one are both falsy. -/
def Request.has (request : Request) (name : String) : Bool :=
  (request.header name).any fun value => decide (value ≠ "")

/-- `delete req.headers[name]` for each of the names. -/
def Request.without (request : Request) (names : List String) : Request :=
  { request with
    headers := request.headers.filter fun header =>
      decide (lowerCase header.1 ∉ names.map lowerCase) }

inductive Reply where
  | json (status : Nat) (code message : String)
  | redirect (status : Nat) (location : String)
  | noContent
  | raised (message : String)
deriving DecidableEq

abbrev Stage := Request → Except Reply Request

def runStack (stages : List Stage) : Stage :=
  fun request => stages.foldlM (fun request stage => stage request) request

/-- A stage that changes no request passes it on or answers it. -/
def Filters (stage : Stage) : Prop := ∀ request passed, stage request = .ok passed → passed = request

/-- A stack of such stages passes on what each of them passes on. -/
theorem runStack_filters {stages : List Stage} (filters : ∀ stage ∈ stages, Filters stage)
    (request passed : Request) :
    runStack stages request = .ok passed ↔
      passed = request ∧ ∀ stage ∈ stages, stage request = .ok request := by
  induction stages with
  | nil => simp [runStack, pure, Except.pure, eq_comm]
  | cons stage rest inductionHypothesis =>
    have unfolded : runStack (stage :: rest) request =
        (stage request).bind (runStack rest) := rfl
    rw [unfolded]
    cases answer : stage request with
    | error reply => simp [Except.bind, answer]
    | ok next =>
      obtain rfl : next = request := filters stage (.head rest) request next answer
      have tail := inductionHypothesis fun other member => filters other (.tail stage member)
      simp [Except.bind, answer, tail]

/-- `name` is none of the deleted headers, so it keeps its value. -/
theorem without_header (request : Request) {names : List String} {name : String}
    (kept : lowerCase name ∉ names.map lowerCase) :
    (request.without names).header name = request.header name := by
  have same : (request.without names).headers.filter
      (fun header => lowerCase header.1 == lowerCase name) =
        request.headers.filter fun header => lowerCase header.1 == lowerCase name := by
    rw [Request.without, List.filter_filter]
    refine List.filter_congr fun header _ => ?_
    by_cases here : lowerCase header.1 = lowerCase name
    · simp [here, kept]
    · simp [here]
  rw [Request.header, same, Request.header]

end Requests

section Stages

/-- The part of `config/env.js` that the stages read. -/
structure Env where
  isProd : Bool
  corsOrigins : List String

/-- Express and the network around it: `req.secure` and `req.hostname`, the known proxies,
and the message with which a body parser rejects a request. -/
structure Host where
  secure : Request → Bool
  hostname : Request → String
  isAllowedProxy : Option String → Bool
  bodyError : Request → Option String

/-- What the limiters and the backpressure controller look at when a request arrives. -/
structure Load where
  globalHits : Nat
  webhookHits : Nat
  redisReady : Bool
  /-- The request itself included. -/
  activeRequests : Nat
  dbCritical : Bool
  eventLoopLag : Nat

def proxyValidation (host : Host) : Stage := fun request =>
  if request.has "x-forwarded-for" = false then .ok request
  else if host.isAllowedProxy request.remoteAddress then .ok request
  else .ok (request.without ["x-forwarded-for", "x-forwarded-proto", "x-forwarded-host"])

def enforceHttps (env : Env) (host : Host) : Stage := fun request =>
  if env.isProd && !host.secure request && decide (request.header "x-forwarded-proto" ≠ some "https")
  then .error (.redirect 301 ("https://" ++ host.hostname request ++ request.originalUrl))
  else .ok request

/-- The middleware that the `cors` package makes of the function `origin` of its options, which
answers with a message for what it refuses. The package promises that a request of a refused origin
goes to the error handler, that any other preflight is answered at once, and that all the rest is
passed on. -/
structure CorsPackage where
  middleware : (origin : Option String → Option String) → Stage
  refuses : ∀ origin (request : Request) message,
    origin (request.header "origin") = some message →
      middleware origin request = .error (.raised message)
  answers : ∀ origin (request : Request), origin (request.header "origin") = none →
    request.method = "OPTIONS" → middleware origin request = .error .noContent
  passes : ∀ origin (request : Request), origin (request.header "origin") = none →
    request.method ≠ "OPTIONS" → middleware origin request = .ok request

/-- A package that does this and no more. -/
def CorsPackage.plain : CorsPackage where
  middleware origin request :=
    match origin (request.header "origin") with
    | some message => .error (.raised message)
    | none => if request.method = "OPTIONS" then .error .noContent else .ok request
  refuses _ _ _ refused := by simp only [refused]
  answers _ _ allowed preflight := by simp only [allowed, if_pos preflight]
  passes _ _ allowed other := by simp only [allowed, if_neg other]

/-- The function `origin` of `app.js`. -/
def corsOrigin (env : Env) : Option String → Option String
  | none => none
  | some origin =>
    if origin = "" ∨ origin ∈ env.corsOrigins then none
    else some ("CORS: origin \"" ++ origin ++ "\" not allowed")

/-- `cors` with the options of `app.js`. -/
def cors (package : CorsPackage) (env : Env) : Stage := package.middleware (corsOrigin env)

def csrfSafeMethods : List String := ["GET", "HEAD", "OPTIONS"]

def csrfRejected : Reply :=
  .json 403 "CSRF_VALIDATION_FAILED" ("CSRF validation failed. API is SPA-only. " ++
    "Clients must set X-Requested-With: XMLHttpRequest header.")

def csrfProtection (env : Env) : Stage := fun request =>
  if request.method ∈ csrfSafeMethods then .ok request
  else if env.isProd && !request.has "x-requested-with" then .error csrfRejected
  else .ok request

def bodyParsers (host : Host) : Stage := fun request =>
  match host.bodyError request with
  | some message => .error (.raised message)
  | none => .ok request

/-- Paths that no limiter looks at, by the path below the mount and the original one. -/
def isBypassPath (path original : Path) : Bool :=
  decide (path ∈ ["/health", "/api/health", "/internal", "/metrics", "/"].map String.toList ∨
    original ∈ ["/health", "/api/health", "/internal", "/metrics"].map String.toList)

def isWebhookPath (path original : Path) : Bool :=
  decide ("/payment/webhook".toList <:+: path ∨ "/payment/webhook".toList <:+: original)

def rateLimitExceeded : Reply :=
  .json 429 "RATE_LIMIT_EXCEEDED" "Too many requests. Please try again later."

/-- Mounted at `/api`. -/
def globalLimiter (load : Load) : Stage := fun request =>
  let path := request.path.drop "/api".length
  if isBypassPath path request.path || isWebhookPath path request.path ||
      decide (load.globalHits ≤ 500) then .ok request
  else .error rateLimitExceeded

inductive Tier where
  | high
  | medium
  | low
deriving DecidableEq

/-- The prefixes of each tier, in the order in which they are tried. -/
def priorityTiers : List (Tier × List String) :=
  [(.high, ["/api/v1/payment", "/api/payment", "/api/v1/booking", "/api/booking"]),
    (.medium, ["/api/v1/auth", "/api/auth"]),
    (.low, ["/api/v1/trips", "/api/trips", "/api/v1/search", "/api/search"])]

def getPriorityTier (path : Path) : Tier :=
  ((priorityTiers.find? fun tier => tier.2.any fun start => start.toList.isPrefixOf path).map
    Prod.fst).getD .medium

def shouldBypassBackpressure (path : Path) : Bool :=
  ["/health", "/metrics", "/internal"].any fun start => start.toList.isPrefixOf path

/-- A load is a fraction of 50 concurrent requests: 35 of them are 0.7, 45 are 0.9 and
49 are 0.98. -/
def backpressureMiddleware (load : Load) : Stage := fun request =>
  if shouldBypassBackpressure request.path then .ok request
  else
    let refused := match getPriorityTier request.path with
      | .low => decide (35 ≤ load.activeRequests) || load.dbCritical || decide (100 < load.eventLoopLag)
      | .medium => decide (45 ≤ load.activeRequests) || load.dbCritical
      | .high => decide (49 ≤ load.activeRequests) || load.dbCritical
    if refused then .error (.json 503 "SERVER_OVERLOADED" "") else .ok request

/-- Fails closed when Redis is down. Its route is below `/api/v1`. -/
def webhookLimiter (load : Load) : Stage := fun request =>
  if isBypassPath (request.path.drop "/api/v1".length) request.path then .ok request
  else if load.redisReady = false then
    .error (.json 503 "SERVICE_UNAVAILABLE"
      "Service temporarily unavailable. Please retry in a moment.")
  else if load.webhookHits ≤ 100 then .ok request
  else .error rateLimitExceeded

end Stages

section Webhook

variable (env : Env) (host : Host) (package : CorsPackage) (load : Load)

def webhookPath : Path := "/api/v1/payment/webhook/razorpay".toList

/-- The stages behind `proxyValidation` that a request to the webhook meets, in order. -/
def webhookStages : List Stage :=
  [enforceHttps env host, cors package env, csrfProtection env, bodyParsers host, globalLimiter load,
    backpressureMiddleware load, webhookLimiter load]

/-- What is mounted in front of `handleRazorpayWebhook`. -/
def webhookRoute : Stage := runStack (proxyValidation host :: webhookStages env host package load)

def ReachesHandler (request : Request) : Prop :=
  ∃ passed, webhookRoute env host package load request = .ok passed

/-- The request as `proxyValidation` passes it on. -/
def validated (request : Request) : Request :=
  if request.has "x-forwarded-for" = false ∨ host.isAllowedProxy request.remoteAddress = true then
    request
  else request.without ["x-forwarded-for", "x-forwarded-proto", "x-forwarded-host"]

variable {env host package load} {request : Request}

/-- `proxyValidation` passes every request on. -/
theorem proxyValidation_ok : proxyValidation host request = .ok (validated host request) := by
  unfold proxyValidation validated
  by_cases forwarded : request.has "x-forwarded-for" = false
  · simp [forwarded]
  · by_cases known : host.isAllowedProxy request.remoteAddress = true <;> simp [forwarded, known]

/-- It keeps the method. -/
theorem validated_method : (validated host request).method = request.method := by
  unfold validated
  split <;> rfl

/-- It keeps the path. -/
theorem validated_path : (validated host request).path = request.path := by
  unfold validated
  split <;> rfl

/-- It removes no header but those a proxy sets. -/
theorem validated_header : (validated host request).header "x-requested-with" =
    request.header "x-requested-with" := by
  unfold validated
  split
  · rfl
  · exact without_header request (by decide)

/-- `cors` changes no request. -/
theorem cors_filters : Filters (cors package env) := by
  intro request passed ok
  unfold cors at ok
  cases refused : corsOrigin env (request.header "origin") with
  | some message =>
    rw [package.refuses _ _ _ refused] at ok
    cases ok
  | none =>
    by_cases preflight : request.method = "OPTIONS"
    · rw [package.answers _ _ refused preflight] at ok
      cases ok
    · rw [package.passes _ _ refused preflight] at ok
      cases ok
      rfl

/-- Nor does any stage behind `proxyValidation`. -/
theorem webhookStages_filter : ∀ stage ∈ webhookStages env host package load, Filters stage := by
  intro stage member
  simp only [webhookStages, List.mem_cons, List.not_mem_nil, or_false] at member
  rcases member with rfl | rfl | rfl | rfl | rfl | rfl | rfl
  on_goal 2 => exact cors_filters
  all_goals
    intro request passed ok
    simp only [enforceHttps, csrfProtection, bodyParsers, globalLimiter,
      backpressureMiddleware, webhookLimiter] at ok
    repeat' split at ok
    all_goals cases ok <;> rfl

/-- A request reaches the handler when every stage lets the validated request through. -/
theorem reachesHandler_iff : ReachesHandler env host package load request ↔
    ∀ stage ∈ webhookStages env host package load,
      stage (validated host request) = .ok (validated host request) := by
  have unfolded : webhookRoute env host package load request =
      runStack (webhookStages env host package load) (validated host request) := by
    have first : webhookRoute env host package load request =
        (proxyValidation host request).bind (runStack (webhookStages env host package load)) := rfl
    rw [first, proxyValidation_ok]
    rfl
  simp only [ReachesHandler, unfolded, runStack_filters webhookStages_filter]
  exact ⟨fun ⟨_, _, all⟩ => all, fun all => ⟨_, rfl, all⟩⟩

/-- A request that may change state passes in production exactly with the header. -/
theorem csrfProtection_ok_iff (stateChanging : request.method ∉ csrfSafeMethods) :
    csrfProtection env request = .ok request ↔
      env.isProd = false ∨ request.has "x-requested-with" = true := by
  rw [csrfProtection, if_neg stateChanging]
  cases env.isProd <;> cases request.has "x-requested-with" <;> simp

/-- The limiters in front of the webhook look at nothing but the load. -/
theorem limiters_ok_iff (path : request.path = webhookPath) :
    (globalLimiter load request = .ok request ∧ backpressureMiddleware load request = .ok request ∧
      webhookLimiter load request = .ok request) ↔
      load.activeRequests < 49 ∧ load.dbCritical = false ∧ load.redisReady = true ∧
        load.webhookHits ≤ 100 := by
  have skipped : isWebhookPath (request.path.drop "/api".length) request.path = true := by
    rw [path]
    decide
  have counted : shouldBypassBackpressure request.path = false := by
    rw [path]
    decide
  have tier : getPriorityTier request.path = .high := by
    rw [path]
    decide
  have limited : isBypassPath (request.path.drop "/api/v1".length) request.path = false := by
    rw [path]
    decide
  have global : globalLimiter load request = .ok request := by
    simp [globalLimiter, skipped]
  have pressure : backpressureMiddleware load request = .ok request ↔
      load.activeRequests < 49 ∧ load.dbCritical = false := by
    simp only [backpressureMiddleware, counted, tier]
    cases load.dbCritical <;> simp
  have webhook : webhookLimiter load request = .ok request ↔
      load.redisReady = true ∧ load.webhookHits ≤ 100 := by
    simp only [webhookLimiter, limited]
    cases load.redisReady <;> simp
  simp only [global, pressure, webhook, true_and, and_assoc]

/-- What a delivery of Razorpay needs to be handled. -/
theorem delivery_handled_iff (method : request.method = "POST") (path : request.path = webhookPath) :
    ReachesHandler env host package load request ↔
      enforceHttps env host (validated host request) = .ok (validated host request) ∧
      cors package env (validated host request) = .ok (validated host request) ∧
      (env.isProd = false ∨ request.has "x-requested-with" = true) ∧
      bodyParsers host (validated host request) = .ok (validated host request) ∧
      load.activeRequests < 49 ∧ load.dbCritical = false ∧ load.redisReady = true ∧
      load.webhookHits ≤ 100 := by
  have stateChanging : (validated host request).method ∉ csrfSafeMethods := by
    rw [validated_method, method]
    decide
  have unmoved : (validated host request).path = webhookPath := validated_path.trans path
  have header : (validated host request).has "x-requested-with" = request.has "x-requested-with" := by
    rw [Request.has, validated_header, Request.has]
  rw [reachesHandler_iff, ← limiters_ok_iff unmoved, ← header, ← csrfProtection_ok_iff stateChanging]
  simp only [webhookStages, List.forall_mem_cons, List.not_mem_nil, false_implies, implies_true,
    and_true]

end Webhook

section Browsers

/-- The options that `cors` is given, as far as they concern preflights. -/
def allowedMethods : List String := ["GET", "POST", "PUT", "PATCH", "DELETE", "OPTIONS"]

def allowedHeaders : List String :=
  ["Content-Type", "Authorization", "X-Correlation-Id", "X-Request-Id", "Idempotency-Key"]

/-- The answer to a preflight: the methods and headers it allows. -/
structure Preflight where
  methods : List String
  headers : List String

/-- `cors` answers a preflight of an origin it knows. -/
def preflight (env : Env) (origin : String) : Option Preflight :=
  if origin ∈ env.corsOrigins then some ⟨allowedMethods, allowedHeaders⟩ else none

/-- The names of the headers that need no permission, if their values are of the kind
that `safeValue` accepts. -/
def safelistedNames : List String :=
  ["Accept", "Accept-Language", "Content-Language", "Content-Type", "Range"]

/-- A browser sends a request after an answer that allows its method and each of its
headers that is not safelisted. -/
def Preflight.Permits (safeValue : Header → Bool) (answer : Preflight) (method : String)
    (headers : List Header) : Prop :=
  (method ∈ ["GET", "HEAD", "POST"] ∨ method ∈ answer.methods) ∧
    ∀ header ∈ headers,
      (lowerCase header.1 ∈ safelistedNames.map lowerCase ∧ safeValue header = true) ∨
        lowerCase header.1 ∈ answer.headers.map lowerCase

/-- The routes below `/api/v1` that are not read-only, by method and path. -/
def stateChangingRoutes : List (String × String) :=
  [("POST", "/auth/register"), ("POST", "/auth/login"), ("POST", "/auth/refresh"),
    ("POST", "/auth/logout"), ("POST", "/bookings/:bookingId/cancel"),
    ("POST", "/payment/create-order"), ("POST", "/payment/verify"),
    ("POST", "/admin/payments/:paymentId/reconcile"), ("POST", "/payment/webhook/razorpay")]

/-- Some set of headers takes a request of this origin past the preflight and past
`csrfProtection`. -/
def Admits (env : Env) (safeValue : Header → Bool) (origin : String) (request : Request) : Prop :=
  ∃ answer headers, preflight env origin = some answer ∧
    answer.Permits safeValue request.method headers ∧
    csrfProtection env { request with headers } = .ok { request with headers }

variable {env : Env}

/-- No permitted header is the one that `csrfProtection` asks for. -/
theorem permitted_without {safeValue : Header → Bool} {origin : String} {answer : Preflight}
    {request : Request} (answered : preflight env origin = some answer)
    (permitted : answer.Permits safeValue request.method request.headers) :
    request.has "x-requested-with" = false := by
  obtain ⟨-, rfl⟩ : origin ∈ env.corsOrigins ∧ (⟨allowedMethods, allowedHeaders⟩ : Preflight) = answer := by
    simpa [preflight] using answered
  have none : request.headers.filter (fun header =>
      lowerCase header.1 == lowerCase "x-requested-with") = [] := by
    rw [List.filter_eq_nil_iff]
    intro header member same
    rw [beq_iff_eq] at same
    have allowed := permitted.2 header member
    rw [same] at allowed
    exact absurd allowed (by rintro (⟨listed, -⟩ | listed) <;> exact absurd listed (by decide))
  rw [Request.has, Request.header, none]
  rfl

/-- Where production asks for the header, no browser of another origin can change state. -/
theorem admits_iff {safeValue : Header → Bool} {origin : String} {request : Request}
    (known : origin ∈ env.corsOrigins)
    (route : ∃ path, (request.method, path) ∈ stateChangingRoutes) :
    Admits env safeValue origin request ↔ env.isProd = false := by
  have posts : ∀ listed ∈ stateChangingRoutes, listed.1 = "POST" := by decide
  obtain ⟨path, listed⟩ := route
  have post : request.method = "POST" := posts _ listed
  have stateChanging : request.method ∉ csrfSafeMethods := by
    rw [post]
    decide
  constructor
  · rintro ⟨answer, headers, answered, permitted, passes⟩
    have sent : ({ request with headers } : Request).method ∉ csrfSafeMethods := stateChanging
    have without : ({ request with headers } : Request).has "x-requested-with" = false :=
      permitted_without answered permitted
    rcases (csrfProtection_ok_iff sent).mp passes with development | present
    · exact development
    · rw [without] at present
      cases present
  · intro development
    have sent : ({ request with headers := [] } : Request).method ∉ csrfSafeMethods := stateChanging
    refine ⟨⟨allowedMethods, allowedHeaders⟩, [], if_pos known, ⟨.inl ?_, by simp⟩, ?_⟩
    · simp [post]
    · exact (csrfProtection_ok_iff sent).mpr (.inl development)

/-- In production the two clients of the API that may change state are kept out. A delivery
of Razorpay, which has no X-Requested-With, does not reach its handler, and no set of
headers takes a request of a known origin past the preflight and past `csrfProtection`. -/
theorem mutating_clients_rejected (host : Host) (package : CorsPackage) (load : Load)
    (safeValue : Header → Bool) (production : env.isProd = true) :
    (∀ request, request.method = "POST" → request.path = webhookPath →
      request.header "x-requested-with" = none → ¬ ReachesHandler env host package load request) ∧
    ∀ origin ∈ env.corsOrigins, ∀ request path, (request.method, path) ∈ stateChangingRoutes →
      ¬ Admits env safeValue origin request := by
  constructor
  · intro request method path missing reached
    rcases ((delivery_handled_iff method path).mp reached).2.2.1 with development | present
    · rw [production] at development
      cases development
    · rw [Request.has, missing] at present
      cases present
  · intro origin known request path route admitted
    have development := (admits_iff known ⟨path, route⟩).mp admitted
    rw [production] at development
    cases development

/-- Production behind a proxy that ends TLS, with one frontend. -/
def productionEnv : Env := ⟨true, ["https://planbuddy.in"]⟩

def behindProxy : Host where
  secure request := decide (request.header "x-forwarded-proto" = some "https")
  hostname _ := "api.planbuddy.in"
  isAllowedProxy address := decide (address = some "10.0.0.1")
  bodyError _ := none

def idle : Load := ⟨0, 1, true, 1, false, 0⟩

/-- The delivery of a payment that was captured. -/
def captureDelivery : Request where
  method := "POST"
  originalUrl := "/api/v1/payment/webhook/razorpay"
  headers := [("X-Forwarded-Proto", "https"), ("Content-Type", "application/json")] ++
    WebhookIngest.captureRequest.headers
  remoteAddress := some "10.0.0.1"

def loginRequest : Request := ⟨"POST", "/api/v1/auth/login", [], some "10.0.0.1"⟩

/-- The handler would accept the delivery, and every other stage lets it through. -/
theorem signed_delivery_rejected :
    (∃ event, WebhookIngest.accept WebhookIngest.captureIngress WebhookIngest.captureRequest =
      .ok event) ∧
    ReachesHandler { productionEnv with isProd := false } behindProxy .plain idle captureDelivery ∧
    enforceHttps productionEnv behindProxy captureDelivery = .ok captureDelivery ∧
    webhookRoute productionEnv behindProxy .plain idle captureDelivery = .error csrfRejected ∧
    ¬ Admits productionEnv (fun _ => true) "https://planbuddy.in" loginRequest := by
  refine ⟨⟨_, WebhookIngest.capture_accepted⟩, ⟨captureDelivery, rfl⟩, rfl, rfl, ?_⟩
  rw [admits_iff (by decide) ⟨"/auth/login", by decide⟩]
  decide

/-- The delivery and the login of the samples are kept out. -/
theorem mutating_clients_rejected_capture :
    ¬ ReachesHandler productionEnv behindProxy .plain idle captureDelivery ∧
      ¬ Admits productionEnv (fun _ => true) "https://planbuddy.in" loginRequest := by
  have rejected := mutating_clients_rejected behindProxy .plain idle (fun _ => true)
    (rfl : productionEnv.isProd = true)
  exact ⟨rejected.1 captureDelivery rfl (by decide) (by decide),
    rejected.2 _ (.head _) loginRequest "/auth/login" (by decide)⟩

end Browsers

end PlanBuddy.MiddlewareStack
