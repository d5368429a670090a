import PlanBuddy.Runs
import Mathlib.Algebra.Group.Nat.Defs

/-!
# The connection of the notification listener

A listener keeps one client of the pool checked out. Attempts to connect, `stop()` and the
reconnect timer overlap: an attempt that awaits `getClient` reads `_stopping` only before the
await, and stores its client without looking at the one stored before.

The pool hands out a new client each time. A client released with `true` is destroyed, and a
destroyed client answers no query. Logging, notifications and the emitter's own listeners
are left out.
-/

namespace PlanBuddy.NotifyListener

section Model

def reconnectBaseMs : Nat := 500

def reconnectMaxMs : Nat := 30000

/-- Clients are known by the order in which the pool handed them out. -/
structure Listener where
  client : Option Nat
  connected : Bool
  /-- `_reconnectTimer` is set, be it pending or cleared. -/
  reconnectTimer : Bool
  /-- The delay of the timer, while it is pending. -/
  pending : Option Nat
  reconnectCount : Nat
  stopping : Bool
  /-- How many attempts to connect await `getClient`. -/
  acquiring : Nat
  /-- The clients whose `LISTEN` is awaited. -/
  listening : List Nat
  /-- The clients whose `UNLISTEN` is awaited, by a `stop()` each. -/
  unlistening : List Nat
  /-- The clients checked out of the pool, and how many ever were. -/
  checkedOut : List Nat
  handedOut : Nat
deriving DecidableEq

def Listener.new : Listener where
  client := none
  connected := false
  reconnectTimer := false
  pending := none
  reconnectCount := 0
  stopping := false
  acquiring := 0
  listening := []
  unlistening := []
  checkedOut := []
  handedOut := 0

inductive Event
  | acquired (client : Nat)
  | released (client : Nat)
  | stopped
deriving DecidableEq

inductive Action
  | start
  | stop
  | getClient (resolves : Bool)
  | listen (client : Nat) (resolves : Bool)
  | unlisten (client : Nat) (resolves : Bool)
  | error
  | «end»
  | reconnect

/-- `_scheduleReconnect`. -/
def scheduleReconnect (listener : Listener) : Listener :=
  if listener.stopping = true ∨ listener.reconnectTimer = true then listener
  else { listener with
    reconnectTimer := true
    pending := some (min (reconnectBaseMs * 2 ^ listener.reconnectCount) reconnectMaxMs)
    reconnectCount := listener.reconnectCount + 1 }

/-- `_connect` up to the await of `getClient`. -/
def connect (listener : Listener) : Listener :=
  if listener.stopping then listener else { listener with acquiring := listener.acquiring + 1 }

/-- `_client.release(true)`; where `_client` is null nothing is released. -/
def release (listener : Listener) : Listener × List Event :=
  match listener.client with
  | none => (listener, [])
  | some client =>
    ({ listener with checkedOut := listener.checkedOut.erase client }, [.released client])

def onError (listener : Listener) : Listener :=
  scheduleReconnect { listener with connected := false }

def onEnd (listener : Listener) : Listener :=
  if listener.stopping then listener else scheduleReconnect { listener with connected := false }

/-- `stop()` up to the await of `UNLISTEN`, or to its end where there is no client. -/
def stop (listener : Listener) : Listener × List Event :=
  let listener := { listener with
    stopping := true
    pending := if listener.reconnectTimer then none else listener.pending }
  match listener.client with
  | none => (listener, [.stopped])
  | some client => ({ listener with unlistening := listener.unlistening ++ [client] }, [])

/-- The reconnect timer fires. -/
def reconnect (listener : Listener) : Listener × List Event :=
  let (listener, released) := release { listener with reconnectTimer := false, pending := none }
  (connect { listener with client := none }, released)

/-- A query is answered only by a client that has not been destroyed. -/
def step (listener : Listener) : Action → Option (Listener × List Event)
  | .start => some (connect listener, [])
  | .stop => some (stop listener)
  | .getClient resolves =>
    if listener.acquiring = 0 then none
    else if resolves then
      some ({ listener with
        acquiring := listener.acquiring - 1
        client := some listener.handedOut
        listening := listener.listening ++ [listener.handedOut]
        checkedOut := listener.checkedOut ++ [listener.handedOut]
        handedOut := listener.handedOut + 1 }, [.acquired listener.handedOut])
    else some (scheduleReconnect { listener with acquiring := listener.acquiring - 1 }, [])
  | .listen client resolves =>
    if client ∈ listener.listening ∧ (resolves = true → client ∈ listener.checkedOut) then
      let listener := { listener with listening := listener.listening.erase client }
      if resolves then some ({ listener with connected := true, reconnectCount := 0 }, [])
      else some (scheduleReconnect listener, [])
    else none
  | .unlisten client resolves =>
    if client ∈ listener.unlistening ∧ (resolves = true → client ∈ listener.checkedOut) then
      let listener := { listener with unlistening := listener.unlistening.erase client }
      if resolves then
        let (listener, released) := release listener
        some (listener, released ++ [.stopped])
      else some (listener, [.stopped])
    else none
  | .error => some (onError listener, [])
  | .end => some (onEnd listener, [])
  | .reconnect => if listener.pending = none then none else some (reconnect listener)

/-- `stop()` has been called, and neither it nor an attempt to connect awaits anything. -/
def Listener.Finished (listener : Listener) : Prop :=
  listener.stopping = true ∧ listener.acquiring = 0 ∧ listener.listening = [] ∧
    listener.unlistening = []

/-- No step leaves a client behind: one is handed out only to a listener that has none and is not
stopping, and `UNLISTEN` fails only on a client that is released, or while another `stop()`
awaits it. -/
def Safe (listener : Listener) : Action → Prop
  | .getClient true => listener.stopping = false ∧ listener.client = none
  | .unlisten client false => client ∉ listener.checkedOut ∨ 1 < listener.unlistening.length
  | _ => True

instance (listener : Listener) : (action : Action) → Decidable (Safe listener action)
  | .getClient true => inferInstanceAs (Decidable (_ ∧ _))
  | .unlisten _ false => inferInstanceAs (Decidable (_ ∨ _))
  | .getClient false | .unlisten _ true => isTrue trivial
  | .start | .stop | .listen _ _ | .error | .end | .reconnect => isTrue trivial

end Model

section Invariant

variable {history observed : List Event} {listener next : Listener}

/-- The listener holds at most one client, which it will release or has released. -/
structure Held (history : List Event) (listener : Listener) : Prop where
  /-- Only the stored client is checked out, and it is while the listener runs. -/
  stored : listener.checkedOut = [] ∨
    ∃ client, listener.client = some client ∧ listener.checkedOut = [client]
  runs : listener.stopping = false → listener.checkedOut = listener.client.toList
  /-- Once it stops, a `stop()` is going to release what is checked out. -/
  stops : listener.stopping = true → listener.checkedOut ≠ [] → listener.unlistening ≠ []
  unlisten : ∀ client ∈ listener.unlistening, listener.client = some client
  early : listener.stopping = false → listener.unlistening = []
  timer : listener.stopping = true → listener.pending = none
  armed : listener.pending ≠ none → listener.reconnectTimer = true
  numbered : ∀ client, listener.client = some client → client < listener.handedOut
  issued : ∀ client, .acquired client ∈ history ↔ client < listener.handedOut
  returned : ∀ client, .released client ∈ history ↔
    client < listener.handedOut ∧ client ∉ listener.checkedOut
  once : ∀ client, history.count (.released client) ≤ 1

/-- A new listener holds no client. -/
theorem held_new : Held [] .new where
  stored := .inl rfl
  runs _ := rfl
  stops := nofun
  unlisten := nofun
  early _ := rfl
  timer := nofun
  armed := by simp [Listener.new]
  numbered := nofun
  issued := by simp [Listener.new]
  returned := by simp [Listener.new]
  once := by simp

/-- Scheduling a connection acquires none. -/
theorem Held.scheduled (held : Held history listener) :
    Held history (scheduleReconnect listener) := by
  unfold scheduleReconnect
  split
  · exact held
  · next idle =>
    rw [not_or] at idle
    exact { held with timer := fun stopping => absurd stopping idle.1, armed := fun _ => rfl }

/-- An attempt begins without one. -/
theorem Held.connect (held : Held history listener) : Held history (connect listener) := by
  unfold NotifyListener.connect
  split
  · exact held
  · exact { held with }

/-- An error of the client leaves it where it is. -/
theorem Held.onError (held : Held history listener) : Held history (onError listener) :=
  Held.scheduled { held with }

/-- The end of its connection releases it. -/
theorem Held.onEnd (held : Held history listener) : Held history (onEnd listener) := by
  unfold NotifyListener.onEnd
  split
  · exact held
  · exact Held.scheduled { held with }

/-- A client is handed out to a listener that runs and has none. -/
theorem Held.acquired (held : Held history listener) (runs : listener.stopping = false)
    (none : listener.client = none) (acquiring : Nat) (listening : List Nat) :
    Held (history ++ [.acquired listener.handedOut]) { listener with
      acquiring := acquiring
      client := some listener.handedOut
      listening := listening
      checkedOut := listener.checkedOut ++ [listener.handedOut]
      handedOut := listener.handedOut + 1 } := by
  have empty : listener.checkedOut = [] := by rw [held.runs runs, none]; rfl
  refine { stored := ?_, runs := ?_, stops := ?_, unlisten := ?_, early := ?_, timer := held.timer,
           armed := held.armed, numbered := ?_, issued := ?_, returned := ?_, once := ?_ }
  · exact .inr ⟨_, rfl, by rw [empty]; rfl⟩
  · intro _
    rw [empty]
    rfl
  · intro stopping
    exact absurd (runs.symm.trans stopping) nofun
  · intro client member
    rw [held.early runs] at member
    cases member
  · exact held.early
  · intro client stored
    rw [← Option.some.inj stored]
    exact Nat.lt_succ_self _
  · intro client
    rw [List.mem_append, held.issued, List.mem_singleton, Event.acquired.injEq]
    exact Nat.lt_succ_iff_lt_or_eq.symm
  · intro client
    rw [List.mem_append, held.returned, empty]
    simp
    omega
  · intro client
    rw [List.count_append, List.count_singleton]
    simpa using held.once client

/-- Releasing the client that is checked out leaves none. -/
theorem Held.out (held : Held history listener) {client : Nat}
    (out : client ∈ listener.checkedOut) :
    listener.client = some client ∧ listener.checkedOut = [client] := by
  rcases held.stored with none | ⟨stored, isStored, only⟩
  · rw [none] at out
    cases out
  · obtain rfl : client = stored := by simpa [only] using out
    exact ⟨isStored, only⟩

/-- A listener with another client stored, once the one checked out is released. -/
theorem Held.released (held : Held history listener) {client : Nat}
    (out : client ∈ listener.checkedOut) {kept : Option Nat} (keeps : kept = some client ∨ kept = none)
    (unlistening : List Nat) (stored : ∀ other ∈ unlistening, kept = some other)
    (early : listener.stopping = false → kept = none ∧ unlistening = []) :
    Held (history ++ [.released client]) { listener with
      client := kept
      unlistening := unlistening
      checkedOut := listener.checkedOut.erase client } := by
  obtain ⟨isClient, only⟩ := held.out out
  have empty : listener.checkedOut.erase client = [] := by simp [only]
  have issued := held.numbered client isClient
  refine { stored := .inl empty, runs := ?_, stops := ?_, unlisten := stored, early := ?_,
           timer := held.timer, armed := held.armed, numbered := ?_, issued := ?_, returned := ?_,
           once := ?_ }
  · intro runs
    rw [(early runs).1]
    exact empty
  · exact fun _ left => absurd empty left
  · exact fun runs => (early runs).2
  · intro other isOther
    rcases keeps with same | none
    · rw [← Option.some.inj (same.symm.trans isOther)]
      exact issued
    · cases none.symm.trans isOther
  · intro other
    rw [List.mem_append, held.issued]
    simp
  · intro other
    rw [List.mem_append, held.returned, empty, only]
    simp
    omega
  · intro other
    rw [List.count_append, List.count_singleton]
    by_cases same : client = other
    · subst same
      have fresh : history.count (.released client) = 0 :=
        List.count_eq_zero.mpr fun before => ((held.returned client).mp before).2 out
      simp [fresh]
    · simpa [same] using held.once other

/-- So does a reconnection, before it acquires another. -/
theorem Held.reconnect (held : Held history listener) (armed : listener.pending ≠ none) :
    Held (history ++ (reconnect listener).2) (reconnect listener).1 := by
  have runs : listener.stopping = false := by
    rw [Bool.eq_false_iff]
    exact fun stopping => armed (held.timer stopping)
  have disarmed : Held history { listener with reconnectTimer := false, pending := none } :=
    { held with timer := fun _ => rfl, armed := fun left => absurd rfl left }
  unfold NotifyListener.reconnect release
  cases stored : listener.client with
  | none =>
    simp only [List.append_nil]
    refine Held.connect ?_
    simpa [← stored] using disarmed
  | some client =>
    have out : client ∈ listener.checkedOut := by simp [held.runs runs, stored]
    refine Held.connect ?_
    simpa [held.early runs] using
      disarmed.released out (.inr rfl) [] nofun (fun _ => ⟨rfl, rfl⟩)

/-- `stop()` leaves no timer pending. -/
theorem Held.stop_timer (held : Held history listener) :
    (if listener.reconnectTimer then none else listener.pending) = none := by
  cases pending : listener.pending with
  | none => simp
  | some delay => rw [if_pos (held.armed (by simp [pending]))]

/-- A listener that is stopping, with calls of `stop()` that will release what it holds. -/
theorem Held.stopping (held : Held history listener) (unlistening : List Nat)
    (stored : ∀ client ∈ unlistening, listener.client = some client)
    (waits : listener.checkedOut ≠ [] → unlistening ≠ []) :
    Held history
      { listener with stopping := true, pending := none, unlistening := unlistening } :=
  { held with runs := nofun, stops := fun _ => waits, unlisten := stored, early := nofun,
              timer := fun _ => rfl, armed := fun left => absurd rfl left }

/-- No client is handed out or released. -/
theorem Held.noted (held : Held history listener) : Held (history ++ [.stopped]) listener :=
  { held with
    issued := fun client => by simpa using held.issued client
    returned := fun client => by simpa using held.returned client
    once := fun client => by simpa using held.once client }

/-- So does `stop()`. -/
theorem Held.stop (held : Held history listener) :
    Held (history ++ (stop listener).2) (stop listener).1 := by
  unfold NotifyListener.stop
  simp only [held.stop_timer]
  split
  · next none =>
    have empty : listener.checkedOut = [] := by
      rcases held.stored with empty | ⟨client, stored, -⟩
      · exact empty
      · cases none.symm.trans stored
    exact (held.stopping listener.unlistening held.unlisten (absurd empty)).noted
  · next client stored =>
    rw [List.append_nil]
    refine held.stopping _ ?_ (by simp)
    exact forall_mem_snoc held.unlisten stored

/-- A `stop()` whose `UNLISTEN` is answered releases the client. -/
theorem Held.unlistened (held : Held history listener) {client : Nat}
    (waits : client ∈ listener.unlistening) (out : client ∈ listener.checkedOut) :
    let (next, observed) :=
      release { listener with unlistening := listener.unlistening.erase client }
    Held (history ++ (observed ++ [.stopped])) next := by
  have stored := held.unlisten client waits
  have stopping : listener.stopping ≠ false := by
    intro runs
    rw [held.early runs] at waits
    cases waits
  have released := held.released out (.inl rfl) (listener.unlistening.erase client)
    (fun other member => (held.unlisten client waits).symm.trans
      (held.unlisten other (List.mem_of_mem_erase member))) (fun runs => absurd runs stopping)
  have noted := released.noted
  rw [List.append_assoc] at noted
  simpa [release, stored] using noted

/-- A `stop()` whose `UNLISTEN` fails leaves nothing to release, or another one that does. -/
theorem Held.unlisten_failed (held : Held history listener) {client : Nat}
    (waits : client ∈ listener.unlistening)
    (safe : client ∉ listener.checkedOut ∨ 1 < listener.unlistening.length) :
    Held (history ++ [.stopped])
      { listener with unlistening := listener.unlistening.erase client } := by
  refine Held.noted { held with stops := ?_, unlisten := ?_, early := ?_ }
  · intro stopping left
    rcases safe with released | another
    · refine absurd ?_ released
      rcases held.stored with empty | ⟨stored, isStored, only⟩
      · exact absurd empty left
      · obtain rfl : client = stored :=
          Option.some.inj ((held.unlisten client waits).symm.trans isStored)
        simp [only]
    · have remaining := List.length_erase_of_mem waits
      intro none
      replace none : listener.unlistening.erase client = [] := none
      rw [none, List.length_nil] at remaining
      omega
  · exact fun other member => held.unlisten other (List.mem_of_mem_erase member)
  · intro runs
    rw [held.early runs] at waits
    cases waits

/-- A safe step leaves no client behind. -/
theorem Held.step (held : Held history listener) {action : Action} (safe : Safe listener action)
    (stepped : step listener action = some (next, observed)) :
    Held (history ++ observed) next := by
  cases action with
  | start =>
    cases stepped
    simpa using held.connect
  | stop =>
    have kept := held.stop
    rw [Option.some.inj stepped] at kept
    exact kept
  | getClient resolves =>
    simp only [NotifyListener.step, Option.ite_none_left_eq_some] at stepped
    obtain ⟨-, stepped⟩ := stepped
    cases resolves with
    | true =>
      cases stepped
      exact held.acquired safe.1 safe.2 _ _
    | false =>
      cases stepped
      rw [List.append_nil]
      exact Held.scheduled { held with }
  | listen client resolves =>
    simp only [NotifyListener.step, Option.ite_none_right_eq_some] at stepped
    obtain ⟨-, stepped⟩ := stepped
    cases resolves with
    | true =>
      cases stepped
      rw [List.append_nil]
      exact { held with }
    | false =>
      cases stepped
      rw [List.append_nil]
      exact Held.scheduled { held with }
  | unlisten client resolves =>
    simp only [NotifyListener.step, Option.ite_none_right_eq_some] at stepped
    obtain ⟨⟨waits, answers⟩, stepped⟩ := stepped
    cases resolves with
    | true =>
      cases stepped
      exact held.unlistened waits (answers rfl)
    | false =>
      cases stepped
      exact held.unlisten_failed waits safe
  | error =>
    cases stepped
    simpa using held.onError
  | «end» =>
    cases stepped
    simpa using held.onEnd
  | reconnect =>
    simp only [NotifyListener.step, Option.ite_none_left_eq_some] at stepped
    obtain ⟨armed, same⟩ := stepped
    have kept := held.reconnect armed
    rw [Option.some.inj same] at kept
    exact kept

/-- An unsafe step has two clients checked out, or leaves a stopping listener with one that no pending
`stop()` will release. -/
theorem Held.unsafe_step (held : Held history listener) {action : Action}
    (notSafe : ¬ Safe listener action)
    (stepped : NotifyListener.step listener action = some (next, observed)) :
    1 < next.checkedOut.length ∨
      next.stopping = true ∧ ∃ client ∈ next.checkedOut, client ∉ next.unlistening := by
  cases action with
  | getClient resolves =>
    simp only [NotifyListener.step, Option.ite_none_left_eq_some] at stepped
    cases resolves with
    | true =>
      cases stepped.2
      cases stopping : listener.stopping with
      | true =>
        refine .inr ⟨rfl, listener.handedOut, by simp, fun waits => ?_⟩
        exact Nat.lt_irrefl _ (held.numbered _ (held.unlisten _ waits))
      | false =>
        have client : listener.client ≠ none := fun none => notSafe ⟨stopping, none⟩
        obtain ⟨stored, isStored⟩ := Option.ne_none_iff_exists'.mp client
        exact .inl (by simp [held.runs stopping, isStored])
    | false => exact absurd trivial notSafe
  | unlisten client resolves =>
    simp only [NotifyListener.step, Option.ite_none_right_eq_some] at stepped
    obtain ⟨⟨waits, -⟩, stepped⟩ := stepped
    cases resolves with
    | true => exact absurd trivial notSafe
    | false =>
      cases stepped
      simp only [Safe, not_or, Decidable.not_not, Nat.not_lt] at notSafe
      obtain ⟨out, last⟩ := notSafe
      refine .inr ⟨?_, client, out, ?_⟩
      · cases stopping : listener.stopping with
        | true => rfl
        | false =>
          rw [held.early stopping] at waits
          cases waits
      · have none := List.length_erase_of_mem waits
        have empty : listener.unlistening.erase client = [] :=
          List.eq_nil_of_length_eq_zero (by omega)
        simp [empty]
  | start | stop | listen client resolves | error | «end» | reconnect =>
    exact absurd trivial notSafe

end Invariant

section Runs

variable {history later observed : List Event} {listener next final : Listener}

/-- Nothing is handed out to a listener that is stopping and awaits no client. -/
theorem step_settled {action : Action} (stopping : listener.stopping = true)
    (settled : listener.acquiring = 0) (stepped : step listener action = some (next, observed)) :
    next.stopping = true ∧ next.acquiring = 0 ∧ ∀ client, .acquired client ∉ observed := by
  cases action with
  | start =>
    cases stepped
    simp [connect, stopping, settled]
  | stop =>
    simp only [step, stop, Option.some.injEq] at stepped
    split at stepped <;> cases stepped <;> exact ⟨rfl, settled, by simp⟩
  | getClient resolves => simp [step, settled] at stepped
  | listen client resolves =>
    simp only [step, Option.ite_none_right_eq_some] at stepped
    cases resolves with
    | true =>
      cases stepped.2
      exact ⟨stopping, settled, nofun⟩
    | false =>
      cases stepped.2
      simp [scheduleReconnect, stopping, settled]
  | unlisten client resolves =>
    simp only [step, release, Option.ite_none_right_eq_some] at stepped
    cases resolves with
    | true =>
      obtain ⟨-, stepped⟩ := stepped
      simp only [if_true, Option.some.injEq] at stepped
      split at stepped <;> cases stepped <;> exact ⟨stopping, settled, by simp⟩
    | false =>
      cases stepped.2
      exact ⟨stopping, settled, by simp⟩
  | error =>
    cases stepped
    simp [onError, scheduleReconnect, stopping, settled]
  | «end» =>
    cases stepped
    simp [onEnd, stopping, settled]
  | reconnect =>
    simp only [step, reconnect, release, Option.ite_none_left_eq_some, Option.some.injEq] at stepped
    obtain ⟨-, stepped⟩ := stepped
    split at stepped <;> cases stepped <;> simp [connect, stopping, settled]

/-- A listener that is stopping and waits for none acquires none. -/
theorem run_settled (stopping : listener.stopping = true) (settled : listener.acquiring = 0)
    (run : Run (takes step anyAction) listener later final) :
    ∀ client, .acquired client ∉ later := by
  have kept : final.stopping = true ∧ final.acquiring = 0 ∧ ∀ client, .acquired client ∉ later := by
    refine run.invariant (fun later final => final.stopping = true ∧ final.acquiring = 0 ∧
      ∀ client, .acquired client ∉ later) ⟨stopping, settled, nofun⟩ ?_
    rintro history observed state next - ⟨stops, none, before⟩ ⟨action, -, stepped⟩
    obtain ⟨stopsNext, noneNext, fresh⟩ := step_settled stops none stepped
    refine ⟨stopsNext, noneNext, fun client member => ?_⟩
    exact (List.mem_append.mp member).elim (before client) (fresh client)
  exact kept.2.2

/-- A safe run keeps count of its clients. -/
theorem run_held (run : Run (takes step Safe) .new history listener) : Held history listener := by
  refine run.invariant Held held_new ?_
  rintro history observed state next - held ⟨action, safe, stepped⟩
  exact held.step safe stepped

/-- In a run of safe steps one client at most is checked out, each is released once at most, and
a listener that has stopped has released all and is handed out no other. -/
theorem clients_released (run : Run (takes step Safe) .new history listener) :
    listener.checkedOut.length ≤ 1 ∧ (∀ client, history.count (.released client) ≤ 1) ∧
      (listener.Finished →
        (∀ client, .acquired client ∈ history → .released client ∈ history) ∧
        ∀ later final, Run (takes step anyAction) listener later final →
          ∀ client, .acquired client ∉ later) := by
  have held := run_held run
  refine ⟨?_, held.once, ?_⟩
  · rcases held.stored with none | ⟨client, -, only⟩
    · simp [none]
    · simp [only]
  · rintro ⟨stopping, settled, -, answered⟩
    have none : listener.checkedOut = [] :=
      Decidable.byContradiction fun left => held.stops stopping left answered
    refine ⟨fun client issued => ?_, fun later final rest => run_settled stopping settled rest⟩
    rw [held.returned, none]
    exact ⟨(held.issued client).mp issued, List.not_mem_nil⟩

/-- The connection ends, the listener reconnects, and `stop()` releases its second client. -/
theorem clients_released_reconnect :
    ∃ history listener, Run (takes step Safe) .new history listener ∧ listener.Finished ∧
      history = [.acquired 0, .released 0, .acquired 1, .released 1, .stopped] ∧
      listener.checkedOut.length ≤ 1 := by
  have run : Run (takes step Safe) .new _ _ :=
    run_of_restricted [.start, .getClient true, .listen 0 true, .end, .reconnect, .getClient true,
      .listen 1 true, .stop, .unlisten 1 true] rfl
  exact ⟨_, _, run, ⟨rfl, rfl, rfl, rfl⟩, rfl, (clients_released run).1⟩

/-- `stop()` is called while the first attempt awaits its client. -/
theorem stop_leaves_client :
    ¬ ∀ (history : List Event) (listener : Listener),
        Run (takes step anyAction) .new history listener → listener.Finished →
          ∀ client, .acquired client ∈ history → .released client ∈ history := by
  intro releases
  have run : Run (takes step anyAction) .new _ _ :=
    run_of_schedule [.start, .stop, .getClient true, .listen 0 true] rfl
  have released := releases _ _ run ⟨rfl, rfl, rfl, rfl⟩ 0 (by decide)
  exact absurd released (by decide)

end Runs

end PlanBuddy.NotifyListener
