import PlanBuddy.MiddlewareStack
import PlanBuddy.ProxyAddresses

/-!
# Headers of untrusted sources

Two requests of one source that differ in the headers of a proxy only. `proxyValidation`
strips these headers from a source that is no proxy, but it looks at X-Forwarded-For first
and passes every request on that has none. The other two then reach their readers.

What Express reads off a request is a parameter. Its readers look up headers by name, so
they cannot tell requests apart that carry the same headers.
-/

namespace PlanBuddy.ProxyHeaders

open MiddlewareStack

section Requests

def forwardedHeaders : List String := ["x-forwarded-for", "x-forwarded-proto", "x-forwarded-host"]

/-- The requests agree in everything but the headers of a proxy. -/
def DifferInForwarded (one other : Request) : Prop :=
  one.without forwardedHeaders = other.without forwardedHeaders

def SameHeaders (one other : Request) : Prop := ∀ name, one.header name = other.header name

/-- No header of a proxy. -/
def Bare (request : Request) : Prop := ∀ name ∈ forwardedHeaders, request.header name = none

/-- What is read off a request apart from its headers by name. -/
def SameRest (one other : Request) : Prop :=
  one.method = other.method ∧ one.originalUrl = other.originalUrl ∧
    one.remoteAddress = other.remoteAddress

/-- A reader looks up headers by name. -/
def ReadsHeaders {α : Type} (reader : Request → α) : Prop :=
  ∀ one other, SameRest one other → SameHeaders one other → reader one = reader other

/-- The getters of `req` behind `trust proxy`. -/
structure Getters (host : Host) where
  ip : Request → String
  ipReads : ReadsHeaders ip
  secureReads : ReadsHeaders host.secure
  hostnameReads : ReadsHeaders host.hostname

variable {env : Env} {host : Host} {getters : Getters host} {one other : Request}

/-- The answer of a stage, if it does not pass the request on. -/
def answer (stage : Stage) (request : Request) : Option Reply :=
  match stage request with
  | .ok _ => none
  | .error reply => some reply

/-- The requests carry the same headers, and what follows behaves alike for them. -/
structure Alike (env : Env) (host : Host) (getters : Getters host) (one other : Request) :
    Prop where
  headers : SameHeaders one other
  ip : getters.ip one = getters.ip other
  secure : host.secure one = host.secure other
  hostname : host.hostname one = host.hostname other
  https : answer (enforceHttps env host) one = answer (enforceHttps env host) other

/-- What `enforceHttps` answers. -/
theorem https_answer (request : Request) : answer (enforceHttps env host) request =
    if (env.isProd && !host.secure request &&
      decide (request.header "x-forwarded-proto" ≠ some "https")) = true
    then some (.redirect 301 ("https://" ++ host.hostname request ++ request.originalUrl))
    else none := by
  rw [answer, enforceHttps]
  cases (env.isProd && !host.secure request &&
    decide (request.header "x-forwarded-proto" ≠ some "https")) <;> rfl

/-- What reads headers is alike for requests with the same ones. -/
theorem alike_iff (rest : SameRest one other) :
    Alike env host getters one other ↔ SameHeaders one other := by
  refine ⟨Alike.headers, fun same => ?_⟩
  have secure := getters.secureReads one other rest same
  have hostname := getters.hostnameReads one other rest same
  refine ⟨same, getters.ipReads one other rest same, secure, hostname, ?_⟩
  rw [https_answer, https_answer, secure, hostname, same "x-forwarded-proto", rest.2.1]

end Requests

section Stripping

variable {env : Env} {host : Host} {getters : Getters host} {one other request : Request}

/-- Names are compared without regard to case. -/
theorem header_congr {name spelling : String}
    (same : WebhookIngest.lowerCase name = WebhookIngest.lowerCase spelling) :
    request.header name = request.header spelling := by
  rw [Request.header, same, Request.header]

/-- A header that is removed is not found. -/
theorem without_deleted {name : String} (deleted : name ∈ forwardedHeaders) :
    (request.without forwardedHeaders).header name = none := by
  have nothing : (request.without forwardedHeaders).headers.filter (fun header =>
      WebhookIngest.lowerCase header.1 == WebhookIngest.lowerCase name) = [] := by
    rw [List.filter_eq_nil_iff]
    intro header member same
    rw [beq_iff_eq] at same
    have kept := List.of_mem_filter member
    rw [same, decide_eq_true_eq] at kept
    exact kept (List.mem_map_of_mem deleted)
  rw [Request.header, nothing]

/-- Removing headers twice removes no more. -/
theorem without_twice :
    (request.without forwardedHeaders).without forwardedHeaders =
      request.without forwardedHeaders := by
  simp [Request.without]

/-- Requests that differ in the headers of a proxy carry the same headers when they agree
on these. -/
theorem same_iff (differ : DifferInForwarded one other) : SameHeaders one other ↔
    ∀ name ∈ forwardedHeaders, one.header name = other.header name := by
  refine ⟨fun same name _ => same name, fun agree name => ?_⟩
  by_cases forwarded : WebhookIngest.lowerCase name ∈ forwardedHeaders.map WebhookIngest.lowerCase
  · obtain ⟨spelling, member, same⟩ := List.mem_map.mp forwarded
    rw [← header_congr same, ← header_congr same]
    exact agree spelling member
  · rw [← without_header one forwarded, ← without_header other forwarded, differ]

/-- Requests that differ in these headers only are otherwise the same. -/
theorem without_rest (differ : DifferInForwarded one other) : SameRest one other := by
  have same : one.without forwardedHeaders = other.without forwardedHeaders := differ
  have methods := congrArg Request.method same
  have urls := congrArg Request.originalUrl same
  have addresses := congrArg Request.remoteAddress same
  exact ⟨methods, urls, addresses⟩

/-- Nothing else is removed of a request. -/
theorem validated_without :
    (validated host request).without forwardedHeaders = request.without forwardedHeaders := by
  unfold validated
  split
  · rfl
  · exact without_twice

/-- The headers of a proxy that an untrusted request keeps. -/
theorem validated_forwarded (untrusted : host.isAllowedProxy request.remoteAddress = false)
    {name : String} (forwarded : name ∈ forwardedHeaders) :
    (validated host request).header name =
      if request.has "x-forwarded-for" then none else request.header name := by
  cases present : request.has "x-forwarded-for" with
  | false => simp [validated, present]
  | true =>
    have stripped : validated host request = request.without forwardedHeaders :=
      if_neg (by simp [present, untrusted])
    rw [stripped, without_deleted forwarded, if_pos rfl]

/-- Both requests are stripped, or neither is and they agree, or one is and the other has
nothing to strip. -/
def Harmless (one other : Request) : Prop :=
  (one.has "x-forwarded-for" = true ∧ other.has "x-forwarded-for" = true) ∨
    (∀ name ∈ forwardedHeaders, one.header name = other.header name) ∨
    (one.has "x-forwarded-for" = true ∧ Bare other) ∨
    (other.has "x-forwarded-for" = true ∧ Bare one)

/-- Two requests of an untrusted source behave alike exactly if the headers in which they
differ are stripped from both, or from one that is left like the other. -/
theorem untrusted_headers_iff (differ : DifferInForwarded one other)
    (untrusted : host.isAllowedProxy one.remoteAddress = false) :
    Alike env host getters (validated host one) (validated host other) ↔ Harmless one other := by
  have rest := without_rest differ
  have stillDiffer : DifferInForwarded (validated host one) (validated host other) := by
    rw [DifferInForwarded, validated_without, validated_without]
    exact differ
  have alsoUntrusted : host.isAllowedProxy other.remoteAddress = false := rest.2.2 ▸ untrusted
  rw [alike_iff (without_rest stillDiffer), same_iff stillDiffer]
  have kept : (∀ name ∈ forwardedHeaders,
      (validated host one).header name = (validated host other).header name) ↔
        ∀ name ∈ forwardedHeaders,
          (if one.has "x-forwarded-for" then none else one.header name) =
            if other.has "x-forwarded-for" then none else other.header name := by
    refine forall₂_congr fun name forwarded => ?_
    rw [validated_forwarded untrusted forwarded, validated_forwarded alsoUntrusted forwarded]
  have agreeing : (∀ name ∈ forwardedHeaders, one.header name = other.header name) →
      one.has "x-forwarded-for" = other.has "x-forwarded-for" := by
    intro agree
    rw [Request.has, agree _ (.head _), Request.has]
  rw [kept, Harmless]
  cases oneHas : one.has "x-forwarded-for" <;> cases otherHas : other.has "x-forwarded-for" <;>
    rw [oneHas, otherHas] at agreeing
  · simp
  · have disagree : ¬ ∀ name ∈ forwardedHeaders, one.header name = other.header name := by
      intro agree
      cases agreeing agree
    have bare : (∀ name ∈ forwardedHeaders, one.header name = none) ↔ Bare one := Iff.rfl
    simp [bare, disagree]
  · have disagree : ¬ ∀ name ∈ forwardedHeaders, one.header name = other.header name := by
      intro agree
      cases agreeing agree
    have bare : (∀ name ∈ forwardedHeaders, none = other.header name) ↔ Bare other :=
      forall₂_congr fun _ _ => eq_comm
    simp [bare, disagree]
  · simp

end Stripping

section Sample

/-- Production with one known proxy, and what Express reads behind it. -/
def proxyHost : Host where
  secure request := decide (request.header "x-forwarded-proto" = some "https")
  hostname request := ((request.header "x-forwarded-host").orElse fun _ =>
    request.header "host").getD ""
  isAllowedProxy source := ProxyAddresses.isAllowedProxy (fun _ => false)
    ⟨false, some ["10.0.0.0/8".toList]⟩ (source.map String.toList)
  bodyError _ := none

def proxyGetters : Getters proxyHost where
  ip request := ((request.header "x-forwarded-for").orElse fun _ =>
    request.remoteAddress).getD ""
  ipReads := by
    intro one other rest same
    simp only [same "x-forwarded-for", rest.2.2]
  secureReads := by
    intro one other _ same
    simp only [proxyHost, same "x-forwarded-proto"]
  hostnameReads := by
    intro one other _ same
    simp only [proxyHost, same "x-forwarded-host", same "host"]

/-- A request that claims to have come over TLS, and the same without the claim. -/
def claimedRequest : Request :=
  ⟨"GET", "/api/v1/trips", [("X-Forwarded-Proto", "https"), ("Host", "planbuddy.in")],
    some "203.0.113.9"⟩

def plainRequest : Request := { claimedRequest with headers := [("Host", "planbuddy.in")] }

/-- From the same source, with an X-Forwarded-For the claim has no influence. -/
def forgedRequest : Request :=
  { claimedRequest with headers := ("X-Forwarded-For", "198.51.100.7") :: claimedRequest.headers }

/-- The forged headers of the sample change something exactly if they are not harmless. -/
theorem untrusted_headers_iff_forged :
    Alike productionEnv proxyHost proxyGetters (validated proxyHost forgedRequest)
      (validated proxyHost plainRequest) ↔ Harmless forgedRequest plainRequest :=
  untrusted_headers_iff rfl rfl

/-- Without X-Forwarded-For the claim is believed, and the request is not redirected. -/
theorem claimed_proto_believed :
    ¬ ∀ one other : Request, DifferInForwarded one other →
      proxyHost.isAllowedProxy one.remoteAddress = false →
        Alike productionEnv proxyHost proxyGetters (validated proxyHost one)
          (validated proxyHost other) := by
  intro alike
  have https := (alike claimedRequest plainRequest rfl rfl).https
  revert https
  decide +kernel

end Sample

end PlanBuddy.ProxyHeaders
