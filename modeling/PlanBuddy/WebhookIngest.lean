import PlanBuddy.Parties
import PlanBuddy.Runs
import PlanBuddy.Table

/-!
# Ingestion of signed webhook events

`handleRazorpayWebhook` stores a verified event under its provider's id, and adds a job for
it when the row is new. The two are separate steps: the INSERT may have committed although
an error is reported, and the add may fail, which `enqueueWebhookEvent` logs and swallows.
Either way the row is there, and every later delivery of the event is a duplicate, which
is answered with 200 and adds nothing.

The clock check of `webhookAuthenticityService`, HMAC-SHA256 and `JSON.parse` are
parameters. Of a JSON value the handler reads whether it is truthy, and its text.
-/

namespace PlanBuddy.WebhookIngest

section Acceptance

abbrev Bytes := List UInt8

structure Value where
  truthy : Bool
  /-- `String(value)`. -/
  text : String

/-- The properties of a parsed payload that are read, by their paths. -/
structure Envelope where
  id : Value
  eventId : Value
  payloadEventId : Value
  event : Value
  payloadEventType : Value

structure Request where
  headers : List (String × String)
  rawBody : Bytes
  requestId : Option String

/-- What the handler relies on. A rejected timestamp may carry a status of its own. -/
structure Ingress where
  verifyIngressTimestamp : Option String → Except (Option Nat × String) Unit
  webhookSecret : Option String
  hmacSha256 : String → Bytes → Bytes
  parse : Bytes → Option Envelope

inductive Reply
  | success
  | failure (status : Nat) (error : String)
deriving DecidableEq

/-- A verified delivery. -/
structure Event where
  providerEventId : String
  eventType : String
  rawBody : Bytes
  signature : String
  requestId : Option String
deriving DecidableEq

/-- `text.toLowerCase()`. -/
def lowerCase (text : String) : List Char := text.toList.map Char.toLower

def getHeader (request : Request) (name : String) : Option String :=
  (request.headers.find? fun header => lowerCase header.1 == lowerCase name).map Prod.snd

def hexDigit (digit : Char) : Option Nat :=
  if '0' ≤ digit ∧ digit ≤ '9' then some (digit.toNat - 48)
  else if 'a' ≤ digit ∧ digit ≤ 'f' then some (digit.toNat - 87)
  else if 'A' ≤ digit ∧ digit ≤ 'F' then some (digit.toNat - 55)
  else none

/-- `Buffer.from(text, 'hex')` stops at the first pair that is not two digits. -/
def fromHex : List Char → Bytes
  | high :: low :: rest =>
    match hexDigit high, hexDigit low with
    | some high, some low => UInt8.ofNat (16 * high + low) :: fromHex rest
    | _, _ => []
  | _ => []

def verifySignature (ingress : Ingress) (rawBody : Bytes) (signature : Option String) :
    Except Reply String :=
  match signature.filter (· ≠ ""), ingress.webhookSecret.filter (· ≠ "") with
  | none, _ => .error (.failure 401 "SIGNATURE_MISSING")
  | some _, none => .error (.failure 500 "SIGNING_SECRET_MISSING")
  | some signature, some secret =>
    if ingress.hmacSha256 secret rawBody = fromHex signature.toList then .ok signature
    else .error (.failure 401 "SIGNATURE_MISMATCH")

def extractProviderEventId (parsed : Envelope) : Option Value :=
  [parsed.id, parsed.eventId, parsed.payloadEventId].find? Value.truthy

def extractEventType (parsed : Envelope) : String :=
  (([parsed.event, parsed.payloadEventType].find? Value.truthy).map Value.text).getD "unknown"

/-- The steps before the INSERT. -/
def accept (ingress : Ingress) (request : Request) : Except Reply Event := do
  if request.rawBody = [] then throw (.failure 500 "MISSING_RAW_BODY")
  match ingress.verifyIngressTimestamp (getHeader request "x-razorpay-timestamp") with
  | .error (status, code) => throw (.failure (status.getD 401) code)
  | .ok () => pure ()
  let signature ← verifySignature ingress request.rawBody (getHeader request "x-razorpay-signature")
  match ingress.parse request.rawBody with
  | none => throw (.failure 400 "INVALID_JSON")
  | some parsed =>
    match extractProviderEventId parsed with
    | none => throw (.failure 400 "MISSING_EVENT_ID")
    | some providerEventId =>
      return ⟨providerEventId.text, extractEventType parsed, request.rawBody, signature,
        request.requestId⟩

end Acceptance

section Ingestion

/-- A row of `webhook_events`, as it is inserted. -/
structure EventRow where
  id : Nat
  provider : String
  providerEventId : String
  eventType : String
  payloadBytes : Bytes
  signature : String
  requestId : Option String
deriving DecidableEq

/-- The columns of the UNIQUE constraint. -/
abbrev EventRow.identity (row : EventRow) : String × String := (row.provider, row.providerEventId)

structure Job where
  jobId : String
  eventId : String
  provider : String
  providerEventId : String
  eventType : String
  payloadBytes : Bytes
  requestId : Option String
deriving DecidableEq

/-- A delivery of the provider. -/
inductive Delivery
  | rejected (reply : Reply)
  | inserting (event : Event)
  | enqueuing (event : Event) (eventId : Nat)
  | answered (event : Event) (reply : Reply)
deriving DecidableEq

structure Ingestion where
  rows : Table EventRow.identity
  /-- The last value of the sequence of ids. -/
  sequence : Nat
  /-- The jobs added to `webhook-events`. -/
  jobs : List Job
  deliveries : List Delivery

/-- A step of another system may fail without effect, or fail after it took effect. -/
inductive Outcome
  | failed
  | unreported
  | succeeded
deriving DecidableEq

inductive Action
  | receive (request : Request)
  | insert (index : Nat) (outcome : Outcome)
  | enqueue (index : Nat) (outcome : Outcome)

def razorpay : String := "razorpay"

def eventRow (event : Event) (id : Nat) : EventRow where
  id := id
  provider := razorpay
  providerEventId := event.providerEventId
  eventType := event.eventType
  payloadBytes := event.rawBody
  signature := event.signature
  requestId := event.requestId

def jobIdOf (provider providerEventId : String) : String :=
  "webhook-" ++ provider ++ "-" ++ providerEventId

def eventJob (event : Event) (eventId : Nat) : Job where
  jobId := jobIdOf razorpay event.providerEventId
  eventId := toString eventId
  provider := razorpay
  providerEventId := event.providerEventId
  eventType := event.eventType
  payloadBytes := event.rawBody
  requestId := event.requestId

/-- `Queue.add` under a job id of its own ignores a job that is there. -/
def add (job : Job) (jobs : List Job) : List Job :=
  if jobs.any fun other => other.jobId == job.jobId then jobs else jobs ++ [job]

/-- `enqueueWebhookEvent` requires its fields, and answers the same whatever happens. -/
def enqueueWebhookEvent (event : Event) (eventId : Nat) (outcome : Outcome) (jobs : List Job) :
    List Job :=
  if event.providerEventId = "" ∨ event.eventType = "" then jobs
  else if outcome = .failed then jobs
  else add (eventJob event eventId) jobs

def answer (index : Nat) (event : Event) (reply : Reply) (ingestion : Ingestion) :
    Ingestion × List Reply :=
  ({ ingestion with deliveries := ingestion.deliveries.set index (.answered event reply) }, [reply])

/-- What is observed are the replies. -/
def handle (ingress : Ingress) (ingestion : Ingestion) :
    Action → Option (Ingestion × List Reply)
  | .receive request =>
    match accept ingress request with
    | .error reply =>
      some ({ ingestion with deliveries := ingestion.deliveries ++ [.rejected reply] }, [reply])
    | .ok event =>
      some ({ ingestion with deliveries := ingestion.deliveries ++ [.inserting event] }, [])
  | .insert index outcome =>
    match ingestion.deliveries[index]? with
    | some (.inserting event) =>
      let id := ingestion.sequence + 1
      let (rows, wasNew) := ingestion.rows.insert (eventRow event id)
      let numbered := { ingestion with sequence := id }
      match outcome with
      | .failed => some (answer index event (.failure 500 "DB_ERROR") numbered)
      | .unreported =>
        some (answer index event (.failure 500 "DB_ERROR") { numbered with rows })
      | .succeeded =>
        if wasNew then
          some ({ numbered with
            rows
            deliveries := ingestion.deliveries.set index (.enqueuing event id) }, [])
        else some (answer index event .success numbered)
    | _ => none
  | .enqueue index outcome =>
    match ingestion.deliveries[index]? with
    | some (.enqueuing event eventId) =>
      some (answer index event .success { ingestion with
        jobs := enqueueWebhookEvent event eventId outcome ingestion.jobs })
    | _ => none

def Ingestion.empty : Ingestion := ⟨.empty, 0, [], []⟩

end Ingestion

section Rows

variable {ingress : Ingress} {ingestion next : Ingestion} {observed : List Reply}

/-- What a step does to the rows: it inserts one, or leaves them alone. -/
theorem handle_rows {action : Action}
    (handled : handle ingress ingestion action = some (next, observed)) :
    next.rows = ingestion.rows ∨
      ∃ event id, next.rows = (ingestion.rows.insert (eventRow event id)).1 := by
  cases action with
  | receive request =>
    simp only [handle] at handled
    split at handled <;> cases handled <;> exact .inl rfl
  | insert index outcome =>
    simp only [handle] at handled
    split at handled
    · next event stored =>
      cases outcome with
      | failed =>
        cases handled
        exact .inl rfl
      | unreported =>
        cases handled
        exact .inr ⟨event, _, rfl⟩
      | succeeded =>
        simp only at handled
        split at handled <;> cases handled
        · exact .inr ⟨event, _, rfl⟩
        · exact .inl rfl
    · cases handled
  | enqueue index outcome =>
    simp only [handle] at handled
    split at handled <;> cases handled
    exact .inl rfl

/-- Whatever fails, a stored row stays as it is. -/
theorem handle_keeps {action : Action} {identity : String × String} {row : EventRow}
    (handled : handle ingress ingestion action = some (next, observed))
    (stored : ingestion.rows.lookup identity = some row) :
    next.rows.lookup identity = some row := by
  rcases handle_rows handled with same | ⟨event, id, same⟩
  · rw [same]
    exact stored
  · rw [same, Table.lookup_insert, stored]
    split <;> rfl

end Rows

section Jobs

/-- A delivery that has not been answered. -/
def Delivery.Awaits (providerEventId : String) : Delivery → Prop
  | .inserting event | .enqueuing event _ => event.providerEventId = providerEventId
  | _ => False

def HasRow (ingestion : Ingestion) (providerEventId : String) : Prop :=
  (ingestion.rows.lookup (razorpay, providerEventId)).isSome = true

def HasJob (ingestion : Ingestion) (providerEventId : String) : Prop :=
  ∃ job ∈ ingestion.jobs, job.jobId = jobIdOf razorpay providerEventId

/-- When the deliveries of an event have stopped with a success, it has a row and a job. -/
def Delivered (ingestion : Ingestion) : Prop :=
  ∀ event, .answered event .success ∈ ingestion.deliveries →
    (∀ delivery ∈ ingestion.deliveries, ¬ delivery.Awaits event.providerEventId) →
      HasRow ingestion event.providerEventId ∧ HasJob ingestion event.providerEventId

/-- The event of a delivery about to run its INSERT. -/
def Delivery.inserts : Delivery → Option Event
  | .inserting event => some event
  | _ => none

/-- The event of a delivery about to add its job. -/
def Delivery.adds : Delivery → Option Event
  | .enqueuing event _ => some event
  | _ => none

/-- An INSERT that adds a row is not reported as failed, and the job for it can be and is
added. -/
def Reliable (ingestion : Ingestion) : Action → Prop
  | .insert index outcome => ∀ event ∈ ingestion.deliveries[index]?.bind Delivery.inserts,
      ingestion.rows.lookup (razorpay, event.providerEventId) = none → outcome ≠ .unreported
  | .enqueue index outcome => ∀ event ∈ ingestion.deliveries[index]?.bind Delivery.adds,
      event.providerEventId ≠ "" ∧ event.eventType ≠ "" ∧ outcome ≠ .failed
  | .receive _ => True

instance (ingestion : Ingestion) (action : Action) : Decidable (Reliable ingestion action) :=
  match action with
  | .insert index _ => inferInstanceAs (Decidable
      (∀ event ∈ ingestion.deliveries[index]?.bind Delivery.inserts, _ → _))
  | .enqueue index _ => inferInstanceAs (Decidable
      (∀ event ∈ ingestion.deliveries[index]?.bind Delivery.adds, _ ∧ _))
  | .receive _ => .isTrue trivial

/-- A delivery that has seen its event stored. -/
def Delivery.Stores (providerEventId : String) : Delivery → Prop
  | .enqueuing event _ | .answered event .success => event.providerEventId = providerEventId
  | _ => False

def Enqueues (ingestion : Ingestion) (providerEventId : String) : Prop :=
  ∃ event eventId, .enqueuing event eventId ∈ ingestion.deliveries ∧
    event.providerEventId = providerEventId

/-- Every success has its row, and every row its job, or a delivery about to add it. -/
structure Sound (ingestion : Ingestion) : Prop where
  stored : ∀ delivery ∈ ingestion.deliveries, ∀ providerEventId, delivery.Stores providerEventId →
    HasRow ingestion providerEventId
  covered : ∀ providerEventId, HasRow ingestion providerEventId →
    HasJob ingestion providerEventId ∨ Enqueues ingestion providerEventId

variable {ingress : Ingress} {ingestion next : Ingestion} {observed : List Reply}
  {index : Nat} {event : Event}

/-- In a sound state every stored event was delivered. -/
theorem Sound.delivered (sound : Sound ingestion) : Delivered ingestion := by
  intro event answered settled
  have row : HasRow ingestion event.providerEventId := sound.stored _ answered _ rfl
  refine ⟨row, ?_⟩
  rcases sound.covered event.providerEventId row with job | ⟨other, eventId, pending, same⟩
  · exact job
  · exact absurd same (settled _ pending)

/-- Other deliveries are still about to add their jobs. -/
theorem enqueues_kept {moving : Delivery} (moved : Delivery) {providerEventId : String}
    (found : ingestion.deliveries[index]? = some moving) (away : ¬ moving.Stores providerEventId)
    (enqueues : Enqueues ingestion providerEventId) :
    ∃ event eventId, .enqueuing event eventId ∈ ingestion.deliveries.set index moved ∧
      event.providerEventId = providerEventId := by
  obtain ⟨event, eventId, member, same⟩ := enqueues
  refine ⟨event, eventId, Parties.mem_set_other found member ?_, same⟩
  rintro rfl
  exact away same

/-- A delivery that has stored nothing joins in. -/
theorem receive_sound (sound : Sound ingestion) (joined : Delivery)
    (new : ∀ providerEventId, ¬ joined.Stores providerEventId) :
    Sound { ingestion with deliveries := ingestion.deliveries ++ [joined] } where
  stored := by
    intro delivery member providerEventId stores
    rcases List.mem_append.mp member with old | last
    · exact sound.stored delivery old providerEventId stores
    · exact absurd stores (List.mem_singleton.mp last ▸ new providerEventId)
  covered := by
    intro providerEventId row
    refine (sound.covered providerEventId row).imp_right ?_
    rintro ⟨event, eventId, member, same⟩
    exact ⟨event, eventId, List.mem_append_left _ member, same⟩

/-- A delivery is answered without a row of its own. -/
theorem answered_sound (sound : Sound ingestion)
    (found : ingestion.deliveries[index]? = some (.inserting event)) (reply : Reply)
    (sequence : Nat) (stored : reply = .success → HasRow ingestion event.providerEventId) :
    Sound { ingestion with
      sequence
      deliveries := ingestion.deliveries.set index (.answered event reply) } where
  stored := by
    intro delivery member providerEventId stores
    rcases Parties.mem_set_cases member with rfl | ⟨position, away, old⟩
    · cases reply with
      | success => exact stores ▸ stored rfl
      | failure status error => cases stores
    · exact sound.stored delivery (List.mem_of_getElem? old) providerEventId stores
  covered := by
    intro providerEventId row
    exact (sound.covered providerEventId row).imp_right (enqueues_kept _ found id)

/-- A delivery inserts its row, and is about to add the job. -/
theorem inserted_sound (sound : Sound ingestion)
    (found : ingestion.deliveries[index]? = some (.inserting event)) (rowId sequence : Nat) :
    Sound { ingestion with
      rows := (ingestion.rows.insert (eventRow event rowId)).1
      sequence
      deliveries := ingestion.deliveries.set index (.enqueuing event rowId) } where
  stored := by
    intro delivery member providerEventId stores
    simp only [HasRow, Table.lookup_insert]
    rcases Parties.mem_set_cases member with rfl | ⟨position, away, old⟩
    · obtain rfl : event.providerEventId = providerEventId := stores
      simp [eventRow, EventRow.identity]
    · have row : HasRow ingestion providerEventId :=
        sound.stored delivery (List.mem_of_getElem? old) providerEventId stores
      split
      · rfl
      · exact row
  covered := by
    intro providerEventId row
    simp only [HasRow, Table.lookup_insert] at row
    split at row
    · next same =>
      simp only [eventRow, EventRow.identity, Prod.mk.injEq, true_and] at same
      exact .inr ⟨event, rowId, List.mem_of_getElem? (Parties.set_moved _ found), same⟩
    · exact (sound.covered providerEventId row).imp_right (enqueues_kept _ found id)

/-- A job that is added is there, or its like was. -/
theorem mem_add (job : Job) (jobs : List Job) :
    ∃ stored ∈ add job jobs, stored.jobId = job.jobId := by
  unfold add
  split
  · next present =>
    obtain ⟨other, member, same⟩ := List.any_eq_true.mp present
    exact ⟨other, member, eq_of_beq same⟩
  · exact ⟨job, List.mem_append_right _ (List.mem_singleton_self job), rfl⟩

/-- The others stay. -/
theorem add_keeps {job other : Job} {jobs : List Job} (member : other ∈ jobs) :
    other ∈ add job jobs := by
  unfold add
  split
  · exact member
  · exact List.mem_append_left _ member

/-- The job is added before the delivery is answered. -/
theorem enqueued_sound (sound : Sound ingestion) {eventId : Nat}
    (found : ingestion.deliveries[index]? = some (.enqueuing event eventId)) :
    Sound { ingestion with
      jobs := add (eventJob event eventId) ingestion.jobs
      deliveries := ingestion.deliveries.set index (.answered event .success) } where
  stored := by
    intro delivery member providerEventId stores
    rcases Parties.mem_set_cases member with rfl | ⟨position, away, old⟩
    · exact sound.stored _ (List.mem_of_getElem? found) providerEventId stores
    · exact sound.stored delivery (List.mem_of_getElem? old) providerEventId stores
  covered := by
    intro providerEventId row
    by_cases own : event.providerEventId = providerEventId
    · obtain ⟨job, member, same⟩ := mem_add (eventJob event eventId) ingestion.jobs
      exact .inl ⟨job, member, own ▸ same⟩
    · rcases sound.covered providerEventId row with ⟨job, member, same⟩ | enqueues
      · exact .inl ⟨job, add_keeps member, same⟩
      · exact .inr (enqueues_kept _ found own enqueues)

/-- A step of a reliable delivery keeps the state sound. -/
theorem handle_sound {action : Action} (reliable : Reliable ingestion action)
    (sound : Sound ingestion)
    (handled : handle ingress ingestion action = some (next, observed)) : Sound next := by
  cases action with
  | receive request =>
    simp only [handle] at handled
    split at handled
    · cases handled
      exact receive_sound sound _ fun _ stores => stores
    · cases handled
      exact receive_sound sound _ fun _ stores => stores
  | insert index outcome =>
    simp only [handle] at handled
    split at handled
    · next event found =>
      have taken : ∀ row, ingestion.rows.lookup (razorpay, event.providerEventId) = some row →
          ingestion.rows.insert (eventRow event (ingestion.sequence + 1)) =
            (ingestion.rows, false) := fun row stored => Table.insert_conflict stored
      cases outcome with
      | failed =>
        cases handled
        exact answered_sound sound found _ _ nofun
      | unreported =>
        cases handled
        cases stored : ingestion.rows.lookup (razorpay, event.providerEventId) with
        | none => exact absurd rfl (reliable event (by simp [found, Delivery.inserts]) stored)
        | some row =>
          rw [taken row stored]
          exact answered_sound sound found _ _ nofun
      | succeeded =>
        cases stored : ingestion.rows.lookup (razorpay, event.providerEventId) with
        | none =>
          have wasNew : (ingestion.rows.insert (eventRow event (ingestion.sequence + 1))).2 = true :=
            Table.insert_inserted.mpr stored
          simp only [wasNew, if_true] at handled
          cases handled
          exact inserted_sound sound found _ _
        | some row =>
          simp only [taken row stored, Bool.false_eq_true, if_false] at handled
          cases handled
          exact answered_sound sound found _ _ fun _ => by simp [HasRow, stored]
    · cases handled
  | enqueue index outcome =>
    simp only [handle] at handled
    split at handled
    · next event eventId found =>
      obtain ⟨identified, typed, added⟩ := reliable event (by simp [found, Delivery.adds])
      cases handled
      simp only [enqueueWebhookEvent, identified, typed, added, or_self, if_false]
      exact enqueued_sound sound found
    · cases handled

variable {history : List Reply}

/-- Whatever fails, there is one row for an event, and it stays as it was inserted. Where
every INSERT of a new row is reported, and its job is added, no event is lost. -/
theorem no_event_lost (run : Run (takes (handle ingress) Reliable) .empty history ingestion) :
    (ingestion.rows.rows.map EventRow.identity).Nodup ∧
      (∀ later final, Run (takes (handle ingress) anyAction) ingestion later final →
        ∀ identity row, ingestion.rows.lookup identity = some row →
          final.rows.lookup identity = some row) ∧
      Delivered ingestion := by
  refine ⟨ingestion.rows.unique, ?_, ?_⟩
  · intro later final continued identity row stored
    apply continued.invariant fun _ final => final.rows.lookup identity = some row
    · exact stored
    · intro _ _ _ _ _ kept taken
      obtain ⟨action, -, handled⟩ := taken
      exact handle_keeps handled kept
  · have sound : Sound ingestion := by
      apply run.invariant fun _ ingestion => Sound ingestion
      · refine ⟨?_, ?_⟩
        · intro delivery member
          cases member
        · intro providerEventId row
          cases row
      · intro _ _ _ _ _ sound taken
        obtain ⟨action, reliable, handled⟩ := taken
        exact handle_sound reliable sound handled
    exact sound.delivered

end Jobs

section Sample

def captureBody : Bytes :=
  "\x7b\"id\":\"evt_1\",\"event\":\"payment.captured\"\x7d".toList.map fun c => UInt8.ofNat c.toNat

/-- HMAC-SHA256 of the body under `webhook-secret`. -/
def captureDigest : Bytes :=
  [178, 117, 221, 97, 156, 23, 249, 123, 252, 10, 206, 202, 22, 101, 190, 25, 131, 118, 229, 164,
    209, 212, 3, 157, 92, 255, 128, 105, 237, 19, 69, 94]

def absent : Value := ⟨false, "undefined"⟩

/-- The parameters where the body is that of the capture. -/
def captureIngress : Ingress where
  verifyIngressTimestamp _ := .ok ()
  webhookSecret := some "webhook-secret"
  hmacSha256 _ body := if body = captureBody then captureDigest else []
  parse body :=
    if body = captureBody then
      some ⟨⟨true, "evt_1"⟩, absent, absent, ⟨true, "payment.captured"⟩, absent⟩
    else none

def captureRequest : Request where
  headers := [("x-razorpay-signature",
    "b275dd619c17f97bfc0aceca1665be198376e5a4d1d4039d5cff8069ed13455e")]
  rawBody := captureBody
  requestId := none

def captureEvent : Event where
  providerEventId := "evt_1"
  eventType := "payment.captured"
  rawBody := captureBody
  signature := "b275dd619c17f97bfc0aceca1665be198376e5a4d1d4039d5cff8069ed13455e"
  requestId := none

/-- The delivery of the sample is accepted. -/
theorem capture_accepted : accept captureIngress captureRequest = .ok captureEvent := by
  rfl

/-- One delivery, whose add fails: Razorpay gets its success, and no job is ever added. -/
theorem failed_add_loses_event :
    ∃ ingestion, Run (takes (handle captureIngress) anyAction) .empty [.success] ingestion ∧
      ¬ Delivered ingestion := by
  have executed : execute (handle captureIngress) .empty
      [.receive captureRequest, .insert 0 .succeeded, .enqueue 0 .failed] =
        some (⟨(Table.empty.insert (eventRow captureEvent 1)).1, 1, [],
          [.answered captureEvent .success]⟩, [.success]) := by
    simp only [execute, handle, capture_accepted]
    rfl
  refine ⟨_, run_of_execute executed, ?_⟩
  intro delivered
  have job := (delivered captureEvent (.head _) (by simp [Delivery.Awaits])).2
  simp [HasJob] at job

/-- A delivery that fails, its repetition, and a duplicate of it. -/
def captureRetries : List Action :=
  [.receive captureRequest, .insert 0 .failed, .receive captureRequest, .insert 1 .succeeded,
    .receive captureRequest, .insert 2 .succeeded, .enqueue 1 .succeeded]

/-- A delivery that failed to store is retried, and nothing is lost. -/
theorem no_event_lost_retried :
    ∃ history ingestion, Run (takes (handle captureIngress) Reliable) .empty history ingestion ∧
      history = [.failure 500 "DB_ERROR", .success, .success] ∧ Delivered ingestion := by
  have run : Run (takes (handle captureIngress) Reliable) .empty _ _ :=
    run_of_restricted captureRetries (by
      simp only [captureRetries, execute, restrict, handle, capture_accepted]
      rfl)
  refine ⟨_, _, run, ?_, (no_event_lost run).2.2⟩
  simp only [captureRetries, execute, restrict, handle, capture_accepted]
  rfl

end Sample

end PlanBuddy.WebhookIngest
