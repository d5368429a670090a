import PlanBuddy.ParseInt
import PlanBuddy.Runs
import Mathlib.Algebra.Order.Floor.Ring
import Mathlib.Data.Rat.Floor

/-!
# Reconnection to Redis

The circuit breaker and the clients of `config/redis.js`. The library asks `retryStrategy`
after an attempt that failed and after a connection that was lost. For a number it emits
`reconnecting` and attempts again after that delay; for null it ends the client, which then
attempts nothing more. A client that is not for a queue waits for its first use.

Clients share the map of circuits by their names. Times are values of `Date.now()`, and what
the clock and `Math.random()` give is free. Logging and the state of the queues are left out.
-/

namespace PlanBuddy.Reconnection

section Model

structure Settings where
  maxReconnectAttempts : Int
  circuitBreakerCooldownMs : Int
  baseRetryMs : Int
  maxRetryMs : Int

/-- `parseInt(value, 10) || fallback`. -/
def setting (value : Option (List Char)) (fallback : Int) : Int :=
  match value.bind (ParseInt.parseInt (some 10)) with
  | none => fallback
  | some number => if number = 0 then fallback else number

/-- The settings, as the environment gives them. -/
def settingsOf (maxReconnectAttempts circuitCooldownMs baseRetryMs maxRetryMs :
    Option (List Char)) : Settings where
  maxReconnectAttempts := setting maxReconnectAttempts 20
  circuitBreakerCooldownMs := setting circuitCooldownMs 60000
  baseRetryMs := setting baseRetryMs 100
  maxRetryMs := setting maxRetryMs 30000

structure Circuit where
  isOpen : Bool
  openSince : Option Int
  attemptsSinceOpen : Nat

abbrev Circuits := String → Option Circuit

variable (settings : Settings)

/-- The answer, and the map with a circuit whose cooldown has elapsed closed. -/
def isCircuitOpen (now : Int) (name : String) (circuitState : Circuits) : Bool × Circuits :=
  match circuitState name with
  | none => (false, circuitState)
  | some state =>
    if state.isOpen = false then (false, circuitState)
    else if settings.circuitBreakerCooldownMs ≤ now - state.openSince.getD 0 then
      (false, Function.update circuitState name (some ⟨false, none, 0⟩))
    else (true, circuitState)

def tripCircuit (now : Int) (name : String) (circuitState : Circuits) : Circuits :=
  Function.update circuitState name (some ⟨true, some now, 0⟩)

def recordAttempt (now : Int) (name : String) (success : Bool) (circuitState : Circuits) :
    Circuits :=
  match circuitState name with
  | none => Function.update circuitState name (some ⟨false, none, if success then 0 else 1⟩)
  | some state =>
    if success then
      Function.update circuitState name (some { state with attemptsSinceOpen := 0 })
    else if settings.maxReconnectAttempts ≤ (state.attemptsSinceOpen + 1 : Nat) then
      tripCircuit now name circuitState
    else
      Function.update circuitState name
        (some { state with attemptsSinceOpen := state.attemptsSinceOpen + 1 })

/-- The delay, with a jitter of a quarter either way. -/
def jittered (retries : Nat) (random : ℚ) : Int :=
  let delay : Int := min (settings.baseRetryMs * 2 ^ retries) settings.maxRetryMs
  max 0 ⌊(delay : ℚ) + (random * 2 - 1) * (delay * (1 / 4))⌋

def reconnectStrategy (now : Int) (retries : Nat) (random : ℚ) (name : String)
    (circuitState : Circuits) : Option Int × Circuits :=
  match isCircuitOpen settings now name circuitState with
  | (true, circuitState) => (none, circuitState)
  | (false, circuitState) => (some (jittered settings retries random), circuitState)

inductive Status where
  /-- Not used yet. -/
  | wait
  | connecting
  | connected
  | reconnecting (due : Int)
  | ended
deriving DecidableEq

structure Client where
  name : String
  status : Status
  retries : Nat

structure World where
  clock : Int
  circuitState : Circuits
  clients : Nat → Option Client

inductive Event where
  | attempted (id : Nat)
  /-- An attempt has failed or a connection is lost. -/
  | closed (name : String) (time : Int)
  | tripped (name : String) (time : Int)

def start (clock : Int) : World := ⟨clock, fun _ => none, fun _ => none⟩

def World.moved (world : World) (id : Nat) (client : Client) : World :=
  { world with clients := Function.update world.clients id (some client) }

/-- `createClient`. -/
def createClient (id : Nat) (name : String) (isQueue : Bool) (world : World) : World :=
  { world.moved id ⟨name, if isQueue then .connecting else .wait, 0⟩ with
    circuitState := if (world.circuitState name).isSome then world.circuitState
      else Function.update world.circuitState name (some ⟨false, none, 0⟩) }

/-- The handler of `connect`. -/
def connect (id : Nat) (client : Client) (now : Int) (world : World) : World :=
  { world.moved id { client with status := .connected } with
    clock := now
    circuitState := recordAttempt settings now client.name true world.circuitState }

/-- What the library does when a connection is closed, with the handler of `reconnecting`. -/
def close (id : Nat) (client : Client) (now : Int) (random : ℚ) (world : World) :
    World × List Event :=
  let retries := client.retries + 1
  match reconnectStrategy settings now retries random client.name world.circuitState with
  | (none, circuitState) =>
    ({ world.moved id { client with status := .ended, retries } with clock := now, circuitState },
      [.closed client.name now])
  | (some delay, circuitState) =>
    let circuitState := recordAttempt settings now client.name false circuitState
    ({ world.moved id { client with status := .reconnecting (now + delay), retries } with
        clock := now, circuitState },
      .closed client.name now :: if (circuitState client.name).any Circuit.isOpen then
        [.tripped client.name now] else [])

inductive Step : World → List Event → World → Prop
  | created {world : World} {id : Nat} (fresh : world.clients id = none) (name : String)
      (isQueue : Bool) : Step world [] (createClient id name isQueue world)
  | used {world : World} {id : Nat} {client : Client} (found : world.clients id = some client)
      (waits : client.status = .wait) :
      Step world [.attempted id] (world.moved id { client with status := .connecting })
  | succeeded {world : World} {id : Nat} {client : Client} {now : Int}
      (found : world.clients id = some client) (attempts : client.status = .connecting)
      (later : world.clock ≤ now) : Step world [] (connect settings id client now world)
  /-- The library counts the failures since the last `ready`. -/
  | ready {world : World} {id : Nat} {client : Client} (found : world.clients id = some client)
      (connects : client.status = .connected) :
      Step world [] (world.moved id { client with retries := 0 })
  | closed {world : World} {id : Nat} {client : Client} {now : Int} (random : ℚ)
      (found : world.clients id = some client)
      (running : client.status = .connecting ∨ client.status = .connected)
      (later : world.clock ≤ now) :
      Step world (close settings id client now random world).2
        (close settings id client now random world).1
  | elapsed {world : World} {id : Nat} {client : Client} {due now : Int}
      (found : world.clients id = some client) (waits : client.status = .reconnecting due)
      (elapses : due ≤ now) (later : world.clock ≤ now) :
      Step world [.attempted id]
        { world.moved id { client with status := .connecting } with clock := now }

/-- No client is ended, and each one is connected, attempts to connect or can still do so. -/
structure Resumes (world : World) : Prop where
  kept : ∀ id client, world.clients id = some client → client.status ≠ .ended
  again : ∀ id client, world.clients id = some client →
    client.status = .connected ∨ client.status = .connecting ∨
      ∃ later final, Run (Step settings) world later final ∧ .attempted id ∈ later

/-- A connection that is closed after the circuit of its name tripped finds the cooldown
elapsed. -/
def Apart : Event → Event → Prop
  | .tripped name since, .closed other time =>
    name = other → since + settings.circuitBreakerCooldownMs ≤ time
  | _, _ => True

end Model

section Circuits

variable {settings : Settings} {history : List Event} {clock now : Int}
  {circuitState : Circuits} {name : String}

/-- What a circuit says of the trips so far: if it is closed every cooldown is over, and if
it is open all but that of the trip which it records. -/
structure Accurate (settings : Settings) (history : List Event) (clock : Int) (name : String)
    (circuit : Option Circuit) : Prop where
  closed : circuit.any Circuit.isOpen = false → ∀ since, .tripped name since ∈ history →
    since + settings.circuitBreakerCooldownMs ≤ clock
  opened : ∀ state, circuit = some state → state.isOpen = true →
    ∃ since, state.openSince = some since ∧ .tripped name since ∈ history ∧
      ∀ other, .tripped name other ∈ history →
        other = since ∨ other + settings.circuitBreakerCooldownMs ≤ clock

def Recorded (settings : Settings) (history : List Event) (clock : Int)
    (circuitState : Circuits) : Prop :=
  ∀ name, Accurate settings history clock name (circuitState name)

/-- A closed circuit is accurate when all cooldowns are over. -/
theorem accurate_closed {circuit : Option Circuit} (isClosed : circuit.any Circuit.isOpen = false)
    (lapsed : ∀ since, .tripped name since ∈ history →
      since + settings.circuitBreakerCooldownMs ≤ clock) :
    Accurate settings history clock name circuit := by
  refine ⟨fun _ => lapsed, ?_⟩
  rintro state rfl isOpen
  simp [isOpen] at isClosed

/-- It stays so as time passes. -/
theorem accurate_later {circuit : Option Circuit}
    (accurate : Accurate settings history clock name circuit) (later : clock ≤ now) :
    Accurate settings history now name circuit := by
  constructor
  · intro isClosed since tripped
    exact Int.le_trans (accurate.closed isClosed since tripped) later
  · intro state found isOpen
    obtain ⟨since, records, tripped, others⟩ := accurate.opened state found isOpen
    refine ⟨since, records, tripped, ?_⟩
    intro other also
    exact (others other also).imp_right fun lapsed => Int.le_trans lapsed later

/-- It stays so when nothing trips it. -/
theorem accurate_append {circuit : Option Circuit} {observed : List Event}
    (accurate : Accurate settings history clock name circuit)
    (untripped : ∀ since, .tripped name since ∉ observed) :
    Accurate settings (history ++ observed) clock name circuit := by
  have before : ∀ since, .tripped name since ∈ history ++ observed → .tripped name since ∈ history :=
    fun since tripped => (List.mem_append.mp tripped).resolve_right (untripped since)
  constructor
  · exact fun isClosed since tripped => accurate.closed isClosed since (before since tripped)
  · intro state found isOpen
    obtain ⟨since, records, tripped, others⟩ := accurate.opened state found isOpen
    exact ⟨since, records, List.mem_append_left _ tripped,
      fun other also => others other (before other also)⟩

/-- The circuits are recorded as long as each new one is accurate. -/
theorem recorded_update {circuit : Option Circuit}
    (recorded : Recorded settings history clock circuitState)
    (accurate : Accurate settings history clock name circuit) :
    Recorded settings history clock (Function.update circuitState name circuit) := by
  intro other
  by_cases same : other = name
  · subst same
    rw [Function.update_self]
    exact accurate
  · rw [Function.update_of_ne same]
    exact recorded other

/-- A circuit is found open just as long as the cooldown of a trip, and is closed after it. -/
theorem isCircuitOpen_cases (recorded : Recorded settings history clock circuitState)
    (later : clock ≤ now) (name : String) :
    (isCircuitOpen settings now name circuitState = (true, circuitState) ∧
      ∃ since, .tripped name since ∈ history ∧
        now < since + settings.circuitBreakerCooldownMs) ∨
    ∃ next, isCircuitOpen settings now name circuitState = (false, next) ∧
      (next name).any Circuit.isOpen = false ∧ Recorded settings history now next ∧
        ∀ since, .tripped name since ∈ history →
          since + settings.circuitBreakerCooldownMs ≤ now := by
  have recordedNow : Recorded settings history now circuitState :=
    fun other => accurate_later (recorded other) later
  cases found : circuitState name with
  | none =>
    have isClosed : (circuitState name).any Circuit.isOpen = false := by simp [found]
    exact .inr ⟨circuitState, by simp [isCircuitOpen, found], isClosed, recordedNow,
      (recordedNow name).closed isClosed⟩
  | some state =>
    cases isOpen : state.isOpen with
    | false =>
      have isClosed : (circuitState name).any Circuit.isOpen = false := by simp [found, isOpen]
      exact .inr ⟨circuitState, by simp [isCircuitOpen, found, isOpen], isClosed, recordedNow,
        (recordedNow name).closed isClosed⟩
    | true =>
      obtain ⟨since, records, tripped, others⟩ := (recordedNow name).opened state found isOpen
      by_cases elapsed : settings.circuitBreakerCooldownMs ≤ now - since
      · have lapsed : ∀ other, .tripped name other ∈ history →
            other + settings.circuitBreakerCooldownMs ≤ now := by
          intro other also
          rcases others other also with rfl | lapsed
          · omega
          · exact lapsed
        refine .inr ⟨_, by simp [isCircuitOpen, found, isOpen, records, elapsed]; rfl, ?_, ?_, lapsed⟩
        · simp
        · exact recorded_update recordedNow (accurate_closed rfl lapsed)
      · refine .inl ⟨by simp [isCircuitOpen, found, isOpen, records, elapsed], since, tripped, ?_⟩
        omega

/-- A new circuit is closed and recorded. -/
theorem initial_recorded (recorded : Recorded settings history clock circuitState) :
    Recorded settings history clock (if (circuitState name).isSome then circuitState
      else Function.update circuitState name (some ⟨false, none, 0⟩)) := by
  cases found : circuitState name with
  | some state => exact recorded
  | none =>
    have lapsed := (recorded name).closed (by simp [found])
    exact recorded_update recorded (accurate_closed rfl lapsed)

/-- A success is recorded. -/
theorem recordAttempt_success (recorded : Recorded settings history clock circuitState) :
    Recorded settings history clock (recordAttempt settings now name true circuitState) := by
  unfold recordAttempt
  cases found : circuitState name with
  | none =>
    have lapsed := (recorded name).closed (by simp [found])
    exact recorded_update recorded (accurate_closed rfl lapsed)
  | some state =>
    have accurate := recorded name
    rw [found] at accurate
    refine recorded_update recorded ⟨accurate.closed, ?_⟩
    rintro _ ⟨⟩ isOpen
    exact accurate.opened state rfl isOpen

/-- A trip after which every earlier cooldown is over. -/
theorem tripCircuit_recorded (recorded : Recorded settings history now circuitState)
    (lapsed : ∀ since, .tripped name since ∈ history →
      since + settings.circuitBreakerCooldownMs ≤ now) :
    Recorded settings (history ++ [.tripped name now]) now
      (tripCircuit now name circuitState) := by
  intro other
  by_cases same : other = name
  · subst same
    rw [tripCircuit, Function.update_self]
    refine ⟨by simp, ?_⟩
    rintro _ ⟨⟩ -
    refine ⟨now, rfl, List.mem_append_right _ (List.mem_singleton_self _), ?_⟩
    intro since tripped
    rcases List.mem_append.mp tripped with before | new
    · exact .inr (lapsed since before)
    · cases List.mem_singleton.mp new
      exact .inl rfl
  · rw [tripCircuit, Function.update_of_ne same]
    exact accurate_append (recorded other) (by simp [same])

/-- A failed attempt leaves a closed circuit closed, or trips it. -/
theorem recordAttempt_failure (recorded : Recorded settings history now circuitState)
    (isClosed : (circuitState name).any Circuit.isOpen = false) :
    Recorded settings
      (history ++ if (recordAttempt settings now name false circuitState name).any Circuit.isOpen
        then [.tripped name now] else [])
      now (recordAttempt settings now name false circuitState) := by
  have lapsed := (recorded name).closed isClosed
  unfold recordAttempt
  cases found : circuitState name with
  | none =>
    simpa using recorded_update recorded (accurate_closed rfl lapsed)
  | some state =>
    have stays : state.isOpen = false := by simpa [found] using isClosed
    by_cases trips : settings.maxReconnectAttempts ≤ (state.attemptsSinceOpen + 1 : Nat)
    · simp only [Bool.false_eq_true, ↓reduceIte, if_pos trips]
      simpa [tripCircuit] using tripCircuit_recorded recorded lapsed
    · have counted : Accurate settings history now name
          (some { state with attemptsSinceOpen := state.attemptsSinceOpen + 1 }) :=
        accurate_closed stays lapsed
      simp only [Bool.false_eq_true, ↓reduceIte, if_neg trips]
      simpa [stays] using recorded_update recorded counted

end Circuits

section Clients

variable {settings : Settings} {history : List Event} {world : World}

def Kept (world : World) : Prop :=
  ∀ id client, world.clients id = some client → client.status ≠ .ended

/-- The closing of a connection keeps the history spaced if each cooldown is over. -/
theorem spaced_closed {name : String} {now : Int} {tripped : List Event}
    (trips : ∀ event ∈ tripped, event = .tripped name now) :
    (history ++ .closed name now :: tripped).Pairwise (Apart settings) ↔
      history.Pairwise (Apart settings) ∧ ∀ since, .tripped name since ∈ history →
        since + settings.circuitBreakerCooldownMs ≤ now := by
  have within : (.closed name now :: tripped).Pairwise (Apart settings) := by
    rw [List.pairwise_cons]
    refine ⟨fun event member => trivial, ?_⟩
    refine List.pairwise_of_forall_mem_list ?_
    intro one member other also
    rw [trips other also]
    cases one <;> trivial
  rw [List.pairwise_append]
  constructor
  · rintro ⟨spaced, -, across⟩
    refine ⟨spaced, ?_⟩
    intro since member
    exact across _ member _ (List.mem_cons_self ..) rfl
  · rintro ⟨spaced, lapsed⟩
    refine ⟨spaced, within, ?_⟩
    intro one member other also
    rcases List.mem_cons.mp also with rfl | trip
    · cases one with
      | attempted id => trivial
      | closed name time => trivial
      | tripped other since =>
        rintro rfl
        exact lapsed since member
    · rw [trips other trip]
      cases one <;> trivial

/-- Either a cooldown is not over and the client is ended, or it attempts again. -/
theorem close_cases (id : Nat) {client : Client} {now : Int} (random : ℚ)
    (recorded : Recorded settings history world.clock world.circuitState)
    (later : world.clock ≤ now) :
    ((∃ since, .tripped client.name since ∈ history ∧
        now < since + settings.circuitBreakerCooldownMs) ∧
      ∃ retries, close settings id client now random world =
        ({ world.moved id { client with status := .ended, retries } with clock := now },
          [.closed client.name now])) ∨
    (∀ since, .tripped client.name since ∈ history →
        since + settings.circuitBreakerCooldownMs ≤ now) ∧
      ∃ retries due circuitState tripped, close settings id client now random world =
        ({ world.moved id { client with status := .reconnecting due, retries } with
            clock := now, circuitState }, .closed client.name now :: tripped) ∧
        (∀ event ∈ tripped, event = .tripped client.name now) ∧
        Recorded settings (history ++ .closed client.name now :: tripped) now circuitState := by
  obtain ⟨refused, early⟩ | ⟨next, answer, isClosed, recordedNext, lapsed⟩ :=
    isCircuitOpen_cases recorded later client.name
  · refine .inl ⟨early, client.retries + 1, ?_⟩
    simp [close, reconnectStrategy, refused, World.moved]
  · refine .inr ⟨lapsed, client.retries + 1, _, _, _,
      by simp only [close, reconnectStrategy, answer]; rfl, ?_, ?_⟩
    · intro event member
      split at member
      · exact List.mem_singleton.mp member
      · cases member
    · have closing : Recorded settings (history ++ [.closed client.name now]) now next :=
        fun other => accurate_append (recordedNext other) (by simp)
      have attempt := recordAttempt_failure closing isClosed
      rw [List.append_assoc] at attempt
      exact attempt

/-- A map that is accurate, and clients that are kept as long as the history is spaced. -/
structure Known (settings : Settings) (history : List Event) (world : World) : Prop where
  recorded : Recorded settings history world.clock world.circuitState
  kept : Kept world ↔ history.Pairwise (Apart settings)

/-- The clients after one of them has moved. -/
theorem moved_client {id other : Nat} {next stored : Client} :
    (world.moved id next).clients other = some stored ↔
      other = id ∧ next = stored ∨ other ≠ id ∧ world.clients other = some stored := by
  by_cases same : other = id
  · subst same
    simp [World.moved]
  · simp [World.moved, same]

/-- A client that is not ended is all there is under its id. -/
theorem running_only {id : Nat} {client : Client} (found : world.clients id = some client)
    (running : client.status ≠ .ended) :
    ∀ stored, world.clients id = some stored → stored.status ≠ .ended := by
  intro stored also
  obtain rfl := Option.some.inj (found.symm.trans also)
  exact running

/-- None has ended if the one that moved has not. -/
theorem kept_moved {id : Nat} {next : Client}
    (running : ∀ stored, world.clients id = some stored → stored.status ≠ .ended) :
    Kept (world.moved id next) ↔ Kept world ∧ next.status ≠ .ended := by
  constructor
  · intro kept
    refine ⟨?_, kept id next (moved_client.mpr (.inl ⟨rfl, rfl⟩))⟩
    intro other stored also
    by_cases same : other = id
    · subst same
      exact running stored also
    · exact kept other stored (moved_client.mpr (.inr ⟨same, also⟩))
  · rintro ⟨kept, runs⟩ other stored also
    rcases moved_client.mp also with ⟨-, rfl⟩ | ⟨-, before⟩
    · exact runs
    · exact kept other stored before

/-- An attempt is known to the history. -/
theorem attempted_known {id : Nat} {now : Int} {client : Client}
    (known : Known settings history world) (later : world.clock ≤ now) (found : world.clients id = some client)
    (running : client.status ≠ .ended) :
    Known settings (history ++ [.attempted id])
      { world.moved id { client with status := .connecting } with clock := now } := by
  constructor
  · intro name
    exact accurate_append (accurate_later (known.recorded name) later) (by simp)
  · have spaced : (history ++ [Event.attempted id]).Pairwise (Apart settings) ↔
        history.Pairwise (Apart settings) := by
      rw [List.pairwise_append]
      constructor
      · exact fun spaced => spaced.1
      · intro spaced
        refine ⟨spaced, List.pairwise_singleton .., ?_⟩
        intro one _ other also
        cases List.mem_singleton.mp also
        cases one <;> trivial
    rw [spaced, ← known.kept]
    exact (kept_moved (running_only found running)).trans (and_iff_left (by simp))

/-- So is whatever a step does. -/
theorem step_known {observed : List Event} {next : World} (known : Known settings history world)
    (step : Step settings world observed next) : Known settings (history ++ observed) next := by
  cases step with
  | @created id fresh name isQueue =>
    rw [List.append_nil]
    constructor
    · exact initial_recorded known.recorded
    · rw [← known.kept]
      refine (kept_moved (by simp [fresh])).trans (and_iff_left ?_)
      cases isQueue <;> simp
  | used found waits =>
    exact attempted_known known (Int.le_refl _) found (by simp [waits])
  | @succeeded id client now found attempts later =>
    rw [List.append_nil]
    constructor
    · exact recordAttempt_success fun name => accurate_later (known.recorded name) later
    · rw [← known.kept]
      have runs : client.status ≠ .ended := by simp [attempts]
      exact (kept_moved (running_only found runs)).trans (and_iff_left (by simp))
  | @ready id client found connects =>
    rw [List.append_nil]
    refine ⟨known.recorded, ?_⟩
    rw [← known.kept]
    have runs : client.status ≠ .ended := by simp [connects]
    exact (kept_moved (running_only found runs)).trans (and_iff_left runs)
  | @closed id client now random found running later =>
    have runs : client.status ≠ .ended := by
      rcases running with connecting | connected
      · simp [connecting]
      · simp [connected]
    obtain ⟨⟨since, tripped, early⟩, retries, closes⟩ |
      ⟨lapsed, retries, due, circuitState, tripped, closes, trips, recorded⟩ :=
        close_cases id random known.recorded later
    · rw [closes]
      constructor
      · intro name
        exact accurate_append (accurate_later (known.recorded name) later) (by simp)
      · rw [spaced_closed (by simp), ← known.kept]
        refine (kept_moved (running_only found runs)).trans ?_
        simp only [ne_eq, not_true_eq_false, and_false, false_iff, not_and, not_forall]
        intro _
        exact ⟨since, tripped, by omega⟩
    · rw [closes]
      refine ⟨recorded, ?_⟩
      rw [spaced_closed trips, ← known.kept]
      refine (kept_moved (running_only found runs)).trans (and_congr_right fun _ => ?_)
      exact iff_of_true (by simp) lapsed
  | elapsed found waits elapses later =>
    exact attempted_known known later found (by simp [waits])

/-- So is all of a run. -/
theorem run_known {clock : Int} (run : Run (Step settings) (start clock) history world) :
    Known settings history world := by
  refine run.invariant (Known settings) ?_ fun _ known step => step_known known step
  constructor
  · exact fun name => accurate_closed rfl (by simp)
  · simp [Kept, start]

/-- A client that is not ended is connected or goes on attempting. -/
theorem kept_again {id : Nat} {client : Client} (found : world.clients id = some client)
    (running : client.status ≠ .ended) : client.status = .connected ∨ client.status = .connecting ∨
      ∃ later final, Run (Step settings) world later final ∧ .attempted id ∈ later := by
  cases status : client.status with
  | wait =>
    have attempt : Step settings world _ _ := .used found status
    exact .inr (.inr ⟨_, _, Run.after attempt .start, List.mem_cons_self ..⟩)
  | connecting => exact .inr (.inl rfl)
  | connected => exact .inl rfl
  | reconnecting due =>
    have attempt : Step settings world _ _ :=
      .elapsed found status (le_max_left due world.clock) (le_max_right due world.clock)
    exact .inr (.inr ⟨_, _, Run.after attempt .start, List.mem_cons_self ..⟩)
  | ended => exact absurd status running

/-- The clients go on exactly if no connection is closed within the cooldown of a trip of its
circuit. -/
theorem resumes_iff {clock : Int} (run : Run (Step settings) (start clock) history world) :
    Resumes settings world ↔ history.Pairwise (Apart settings) := by
  rw [← (run_known run).kept]
  constructor
  · exact Resumes.kept
  · intro kept
    exact ⟨kept, fun id client found => kept_again found (kept id client found)⟩

/-- One failed attempt trips the circuit; the rest are the defaults. -/
def sampleSettings : Settings := settingsOf (some "1".toList) none none none

def sampleClient : Client := ⟨"queue", .connecting, 0⟩

/-- The first delay of the sample. -/
theorem sample_jittered : jittered sampleSettings 1 (1 / 2) = 200 := by
  decide +kernel

/-- The client of the queue, which attempts to connect. -/
def sampleCreated : World := createClient 0 "queue" true (start 0)

/-- The first attempt has failed. -/
def sampleTripped : World := (close sampleSettings 0 sampleClient 0 (1 / 2) sampleCreated).1

/-- The client waits for its second attempt. -/
theorem tripped_client : sampleTripped.clients 0 = some ⟨"queue", .reconnecting 200, 1⟩ := by
  have due : sampleTripped.clients 0 =
      some ⟨"queue", .reconnecting (0 + jittered sampleSettings 1 (1 / 2)), 1⟩ := rfl
  rw [due, sample_jittered, Int.zero_add]

/-- The next attempt begins after 200 ms. -/
def sampleAttempt : World :=
  { sampleTripped.moved 0 ⟨"queue", .connecting, 1⟩ with clock := 200 }

def sampleHistory : List Event :=
  [.closed "queue" 0, .tripped "queue" 0, .attempted 0, .closed "queue" 200]

/-- The first attempt, and the second one. -/
theorem first_run : Run (Step sampleSettings) (start 0) [.closed "queue" 0, .tripped "queue" 0]
    sampleTripped := by
  have created : Step sampleSettings (start 0) [] sampleCreated := .created rfl "queue" true
  have failed : Step sampleSettings sampleCreated
      (close sampleSettings 0 sampleClient 0 (1 / 2) sampleCreated).2 sampleTripped :=
    .closed (1 / 2) rfl (.inl rfl) (Int.le_refl 0)
  exact Run.after created (Run.after failed .start)

/-- The run of the sample. -/
theorem second_run : Run (Step sampleSettings) (start 0) sampleHistory
    (close sampleSettings 0 ⟨"queue", .connecting, 1⟩ 200 0 sampleAttempt).1 := by
  have attempt : Step sampleSettings sampleTripped [.attempted 0] sampleAttempt :=
    .elapsed tripped_client rfl (Int.le_refl 200) (by decide)
  have failed : Step sampleSettings sampleAttempt
      (close sampleSettings 0 ⟨"queue", .connecting, 1⟩ 200 0 sampleAttempt).2
      (close sampleSettings 0 ⟨"queue", .connecting, 1⟩ 200 0 sampleAttempt).1 :=
    .closed 0 rfl (.inl rfl) (Int.le_refl 200)
  exact first_run.trans (Run.after attempt (Run.after failed .start))

/-- The attempt that follows the trip fails as well, and the client is ended for good. -/
theorem second_failure : ¬ ∀ (settings : Settings) (clock : Int) (history : List Event)
    (world : World), Run (Step settings) (start clock) history world → Resumes settings world := by
  intro resumes
  have spaced := (run_known second_run).kept.mp (resumes _ _ _ _ second_run).kept
  have early := (List.pairwise_cons.mp (List.pairwise_cons.mp spaced).2).1 (.closed "queue" 200)
    (by simp) rfl
  revert early
  decide

/-- A client whose first attempt has failed goes on. -/
theorem tripped_resumes : Resumes sampleSettings sampleTripped :=
  (resumes_iff first_run).mpr (by simp [Apart])

end Clients

end PlanBuddy.Reconnection
