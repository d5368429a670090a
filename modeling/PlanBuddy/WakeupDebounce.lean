import PlanBuddy.Queues
import PlanBuddy.Runs
import PlanBuddy.Table
import PlanBuddy.TextKeys
import Mathlib.Algebra.Order.Ring.Unbundled.Rat
import Mathlib.Data.List.MinMax

/-!
# Debounced wakeups

The listener keeps one timer for each table and shard it was notified of, and emits one
`wakeup` when the timer fires. A notification is absorbed only by a timer that is still
pending for its own table and shard, so it is answered when that timer fires.

The system is a timed one: notifications arrive at any time, the clock does not pass the
time at which a pending timer is due, and the timer fires then. The messages are those of
the triggers: what is not JSON is taken for a table of its own.
-/

namespace PlanBuddy.WakeupDebounce

section Model

/-- Milliseconds. -/
abbrev Time := Rat

def channel : String := "queue_wakeup"

def debounceMs : Time := 50

/-- A parsed payload. No `shard_key`, or a null one, is `none`. -/
structure Payload where
  table : String
  shardKey : Option Int
  others : List (String × Json) := []

/-- `msg`; the payload is `none` where `JSON.parse` throws. -/
structure Message where
  channel : String
  payload : Option Payload

def Message.parsed (message : Message) : Payload :=
  message.payload.getD { table := "unknown", shardKey := none }

/-- An integer is written in decimal. -/
def shardText (shardKey : Option Int) : String := (shardKey.map Int.repr).getD "*"

def debounceKey (payload : Payload) : String := payload.table ++ ":" ++ shardText payload.shardKey

/-- A timer of `_debounceTimers`, under its key. -/
structure Timer where
  key : String
  due : Time
  payload : Payload

structure Listener where
  now : Time
  debounceTimers : Table Timer.key

def Listener.idle (now : Time) : Listener := ⟨now, Table.empty⟩

inductive Event
  | notified (now : Time) (payload : Payload)
  | wakeup (now : Time) (payload : Payload)

inductive Action
  | notify (message : Message)
  | fire (key : String)
  | advance (time : Time)

/-- `_onNotification`. A timer of the same key absorbs the notification. -/
def onNotification (message : Message) (listener : Listener) : Listener :=
  if message.channel ≠ channel then listener
  else
    let payload := message.parsed
    { listener with
      debounceTimers := (listener.debounceTimers.insert
        ⟨debounceKey payload, listener.now + debounceMs, payload⟩).1 }

/-- What the server sends on the channel is observed, and what is emitted. -/
def step (listener : Listener) : Action → Option (Listener × List Event)
  | .notify message =>
    some (onNotification message listener,
      if message.channel = channel then [.notified listener.now message.parsed] else [])
  | .fire key =>
    match listener.debounceTimers.lookup key with
    | some timer =>
      if timer.due = listener.now then
        some ({ listener with
          debounceTimers := listener.debounceTimers.delete fun other => other.key = key },
          [.wakeup listener.now timer.payload])
      else none
    | none => none
  | .advance time =>
    if listener.now ≤ time ∧ ∀ timer ∈ listener.debounceTimers.rows, time ≤ timer.due then
      some ({ listener with now := time }, [])
    else none

/-- A table's name has no colon. -/
def Payload.Plain (payload : Payload) : Prop := ':' ∉ payload.table.toList

/-- The payloads of the triggers are well formed. -/
def wellFormed (_ : Listener) : Action → Prop
  | .notify message => ∀ payload ∈ message.payload, payload.Plain
  | _ => True

end Model

section Keys

/-- The same table, and the same shard. -/
def Payload.SameQueue (one other : Payload) : Prop :=
  one.table = other.table ∧ one.shardKey = other.shardKey

/-- No number is written as a star. -/
theorem repr_ne_star (number : Int) : number.repr ≠ "*" := by
  intro text
  have star : '*' ∈ number.repr.toList := by simp [text]
  obtain digit | sign := TextKeys.intRepr_chars star
  · exact absurd digit (by decide)
  · exact absurd sign (by decide)

/-- Shards are told apart by their text. -/
theorem shardText_injective {one other : Option Int} (same : shardText one = shardText other) :
    one = other := by
  cases one with
  | none =>
    cases other with
    | none => rfl
    | some number => exact absurd same.symm (repr_ne_star number)
  | some number =>
    cases other with
    | none => exact absurd same (repr_ne_star number)
    | some otherNumber => exact congrArg some (TextKeys.intRepr_injective same)

/-- So are queues by their key. -/
theorem debounceKey_injective {one other : Payload} (plain : one.Plain) (otherPlain : other.Plain)
    (same : debounceKey one = debounceKey other) : one.SameQueue other := by
  have lists : one.table.toList ++ ':' :: (shardText one.shardKey).toList =
      other.table.toList ++ ':' :: (shardText other.shardKey).toList := by
    simpa [debounceKey] using congrArg String.toList same
  obtain ⟨tables, shards⟩ := TextKeys.cut_unique plain otherPlain lists
  exact ⟨String.toList_injective tables, shardText_injective (String.toList_injective shards)⟩

end Keys

section Kept

def Event.time : Event → Time
  | .notified now _ => now
  | .wakeup now _ => now

def Event.payload : Event → Payload
  | .notified _ payload => payload
  | .wakeup _ payload => payload

/-- Two wakeups of one queue are a debounce apart. -/
def Spaced : Event → Event → Prop
  | .wakeup now payload, .wakeup later other =>
    payload.SameQueue other → now + debounceMs ≤ later
  | _, _ => True

/-- A wakeup that answers a notification: of its queue, not before it and not late. -/
def Answers (now : Time) (payload : Payload) : Event → Prop
  | .notified _ _ => False
  | .wakeup later other => payload.SameQueue other ∧ now ≤ later ∧ later ≤ now + debounceMs

/-- A timer that is going to answer a notification. -/
def Timer.Serves (now : Time) (payload : Payload) (timer : Timer) : Prop :=
  timer.payload.SameQueue payload ∧ now ≤ timer.due ∧ timer.due ≤ now + debounceMs

def Answered (now : Time) (payload : Payload) (later : List Event) (listener : Listener) : Prop :=
  (∃ event ∈ later, Answers now payload event) ∨
    ∃ timer ∈ listener.debounceTimers.rows, timer.Serves now payload

structure Kept (history : List Event) (listener : Listener) : Prop where
  past : ∀ event ∈ history, event.time ≤ listener.now
  plain : ∀ event ∈ history, event.payload.Plain
  keyed : ∀ timer ∈ listener.debounceTimers.rows,
    timer.payload.Plain ∧ timer.key = debounceKey timer.payload
  due : ∀ timer ∈ listener.debounceTimers.rows,
    listener.now ≤ timer.due ∧ timer.due ≤ listener.now + debounceMs
  spaced : ∀ now payload, .wakeup now payload ∈ history →
    ∀ timer ∈ listener.debounceTimers.rows, payload.SameQueue timer.payload →
      now + debounceMs ≤ timer.due
  apart : history.Pairwise Spaced
  answered : ∀ earlier now payload later, history = earlier ++ .notified now payload :: later →
    Answered now payload later listener

variable {history observed : List Event} {listener next : Listener}

/-- An idle listener owes no wakeup. -/
theorem kept_idle (now : Time) : Kept [] (.idle now) where
  past := nofun
  plain := nofun
  keyed := nofun
  due := nofun
  spaced := nofun
  apart := List.Pairwise.nil
  answered _ _ _ _ split := by simp at split

/-- Time passes up to the next timer. -/
theorem Kept.advance (kept : Kept history listener) {time : Time} (later : listener.now ≤ time)
    (undue : ∀ timer ∈ listener.debounceTimers.rows, time ≤ timer.due) :
    Kept history { listener with now := time } where
  past event member := Rat.le_trans (kept.past event member) later
  plain := kept.plain
  keyed := kept.keyed
  due timer member := by
    have bounds := kept.due timer member
    exact ⟨undue timer member, by grind⟩
  spaced := kept.spaced
  apart := kept.apart
  answered := kept.answered

/-- A notification is recorded together with a timer that serves it. -/
theorem Kept.recorded (kept : Kept history listener) {payload : Payload} (plain : payload.Plain)
    {timers : Table Timer.key}
    (more : ∀ timer ∈ listener.debounceTimers.rows, timer ∈ timers.rows)
    (only : ∀ timer ∈ timers.rows, timer ∈ listener.debounceTimers.rows ∨
      timer = ⟨debounceKey payload, listener.now + debounceMs, payload⟩)
    (served : ∃ timer ∈ timers.rows, timer.Serves listener.now payload) :
    Kept (history ++ [.notified listener.now payload])
      { listener with debounceTimers := timers } where
  past := forall_mem_snoc kept.past Rat.le_refl
  plain := forall_mem_snoc kept.plain plain
  keyed timer member := by
    rcases only timer member with old | rfl
    · exact kept.keyed timer old
    · exact ⟨plain, rfl⟩
  due timer member := by
    rcases only timer member with old | rfl
    · exact kept.due timer old
    · exact ⟨by simp only [debounceMs]; grind, Rat.le_refl⟩
  spaced now other member timer present same := by
    have before : .wakeup now other ∈ history := by simpa using member
    rcases only timer present with old | rfl
    · exact kept.spaced now other before timer old same
    · have past : now ≤ listener.now := kept.past _ before
      grind
  apart := by
    refine List.pairwise_append.mpr ⟨kept.apart, List.pairwise_singleton _ _, ?_⟩
    intro before _ after member
    rw [List.mem_singleton.mp member]
    cases before <;> trivial
  answered earlier now other later split := by
    rcases snoc_split split with ⟨rfl, same, rfl⟩ | ⟨between, rfl, before⟩
    · cases same
      exact .inr served
    · rcases kept.answered earlier now other between before with
        ⟨event, member, answers⟩ | ⟨timer, present, serves⟩
      · exact .inl ⟨event, List.mem_append_left _ member, answers⟩
      · exact .inr ⟨timer, more timer present, serves⟩

/-- A notification is absorbed by a timer of its queue, or arms one. -/
theorem Kept.notified (kept : Kept history listener) {payload : Payload} (plain : payload.Plain) :
    Kept (history ++ [.notified listener.now payload]) { listener with
      debounceTimers := (listener.debounceTimers.insert
        ⟨debounceKey payload, listener.now + debounceMs, payload⟩).1 } := by
  cases found : listener.debounceTimers.lookup (debounceKey payload) with
  | some timer =>
    have present := Table.lookup_mem found
    obtain ⟨timerPlain, keyed⟩ := kept.keyed timer present
    have same := debounceKey_injective timerPlain plain (keyed.symm.trans (Table.lookup_key found))
    rw [Table.insert_conflict found]
    exact kept.recorded plain (fun _ old => old) (fun _ old => .inl old)
      ⟨timer, present, same, kept.due timer present⟩
  | none =>
    have rows : (listener.debounceTimers.insert
        ⟨debounceKey payload, listener.now + debounceMs, payload⟩).1.rows =
          listener.debounceTimers.rows ++
            [⟨debounceKey payload, listener.now + debounceMs, payload⟩] :=
      Table.insert_fresh found
    refine kept.recorded plain ?_ ?_ ⟨_, Table.mem_insert (Table.insert_inserted.mpr found), ?_⟩
    · intro timer old
      rw [rows]
      exact List.mem_append_left _ old
    · intro timer member
      rw [rows] at member
      simpa using member
    · exact ⟨⟨rfl, rfl⟩, by simp only [debounceMs]; grind, Rat.le_refl⟩

/-- The timer that fires emits the wakeup of its queue. -/
theorem Kept.fired (kept : Kept history listener) {timer : Timer}
    (fires : timer ∈ listener.debounceTimers.rows) (due : timer.due = listener.now) :
    Kept (history ++ [.wakeup listener.now timer.payload]) { listener with
      debounceTimers := listener.debounceTimers.delete fun other => other.key = timer.key } where
  past := forall_mem_snoc kept.past Rat.le_refl
  plain := forall_mem_snoc kept.plain (kept.keyed timer fires).1
  keyed other member := kept.keyed other (Table.mem_delete.mp member).1
  due other member := kept.due other (Table.mem_delete.mp member).1
  spaced now payload member other present same := by
    obtain ⟨old, different⟩ := Table.mem_delete.mp present
    rcases List.mem_append.mp member with before | new
    · exact kept.spaced now payload before other old same
    · cases List.mem_singleton.mp new
      refine absurd ?_ (of_decide_eq_false different)
      rw [(kept.keyed other old).2, (kept.keyed timer fires).2, debounceKey, debounceKey, same.1,
        same.2]
  apart := by
    refine List.pairwise_append.mpr ⟨kept.apart, List.pairwise_singleton _ _, ?_⟩
    intro before member after last
    rw [List.mem_singleton.mp last]
    cases before with
    | notified now payload => trivial
    | wakeup now payload =>
      intro same
      rw [← due]
      exact kept.spaced now payload member timer fires same
  answered earlier now payload later split := by
    rcases snoc_split split with ⟨-, same, -⟩ | ⟨between, rfl, before⟩
    · cases same
    · rcases kept.answered earlier now payload between before with
        ⟨event, member, answers⟩ | ⟨other, present, serves⟩
      · exact .inl ⟨event, List.mem_append_left _ member, answers⟩
      · by_cases same : other.key = timer.key
        · obtain rfl : other = timer :=
            List.inj_on_of_nodup_map listener.debounceTimers.unique present fires same
          refine .inl ⟨_, List.mem_append_right _ (List.mem_singleton_self _), ?_⟩
          obtain ⟨queue, notBefore, notLate⟩ := serves
          rw [due] at notBefore notLate
          exact ⟨⟨queue.1.symm, queue.2.symm⟩, notBefore, notLate⟩
        · exact .inr ⟨other, Table.mem_delete.mpr ⟨present, decide_eq_false same⟩, serves⟩

/-- A step keeps what it owes. -/
theorem Kept.step (kept : Kept history listener) {action : Action}
    (allowed : wellFormed listener action) (stepped : step listener action = some (next, observed)) :
    Kept (history ++ observed) next := by
  cases action with
  | notify message =>
    cases stepped
    unfold onNotification
    by_cases here : message.channel = channel
    · have plain : message.parsed.Plain := by
        unfold Message.parsed
        cases parsed : message.payload with
        | none => exact by simp [Payload.Plain]
        | some payload => exact allowed payload parsed
      rw [if_neg (not_not_intro here), if_pos here]
      exact kept.notified plain
    · rw [if_pos here, if_neg here, List.append_nil]
      exact kept
  | fire key =>
    simp only [WakeupDebounce.step] at stepped
    split at stepped
    · next timer found =>
      simp only [Option.ite_none_right_eq_some] at stepped
      obtain ⟨due, same⟩ := stepped
      cases same
      have keyed := Table.lookup_key found
      subst keyed
      exact kept.fired (Table.lookup_mem found) due
    · cases stepped
  | advance time =>
    simp only [WakeupDebounce.step, Option.ite_none_right_eq_some] at stepped
    obtain ⟨⟨later, undue⟩, same⟩ := stepped
    cases same
    rw [List.append_nil]
    exact kept.advance later undue

end Kept

section Runs

variable {history : List Event} {listener : Listener} {started : Time}

/-- So does a run. -/
theorem run_kept (run : Run (takes step wellFormed) (.idle started) history listener) :
    Kept history listener := by
  refine run.invariant Kept (kept_idle started) ?_
  rintro history observed state next - kept ⟨action, allowed, stepped⟩
  exact kept.step allowed stepped

/-- Time passes as long as no timer is due. -/
theorem step_advance {time : Time} (later : listener.now ≤ time)
    (undue : ∀ timer ∈ listener.debounceTimers.rows, time ≤ timer.due) :
    step listener (.advance time) = some ({ listener with now := time }, []) := by
  rw [step, if_pos ⟨later, undue⟩]

/-- A timer that is due fires. -/
theorem step_fire {timer : Timer} (present : timer ∈ listener.debounceTimers.rows)
    (due : timer.due = listener.now) :
    step listener (.fire timer.key) = some ({ listener with
      debounceTimers := listener.debounceTimers.delete fun other => other.key = timer.key },
      [.wakeup listener.now timer.payload]) := by
  simp only [step, Table.mem_lookup present, due, if_true]

/-- The clock is never stuck: the timers due before a time can fire, the earliest first. -/
theorem time_passes (timers : Nat) {listener : Listener} {history : List Event}
    (count : listener.debounceTimers.rows.length = timers) (kept : Kept history listener)
    {time : Time} (later : listener.now ≤ time) :
    ∃ emitted final, Run (takes step wellFormed) listener emitted final ∧ final.now = time := by
  induction timers using Nat.strongRecOn generalizing listener history with
  | ind timers inductionHypothesis =>
    cases earliest : listener.debounceTimers.rows.argmin Timer.due with
    | none =>
      have noTimer := List.argmin_eq_none.mp earliest
      have advances := step_advance later (by simp [noTimer])
      exact ⟨_, _, .step .start ⟨.advance time, trivial, advances⟩, rfl⟩
    | some timer =>
      have present := List.argmin_mem earliest
      have first : ∀ other ∈ listener.debounceTimers.rows, timer.due ≤ other.due :=
        fun other member => List.le_of_mem_argmin member earliest
      rcases le_total time timer.due with undue | due
      · have advances := step_advance later
          (fun other member => Rat.le_trans undue (first other member))
        exact ⟨_, _, .step .start ⟨.advance time, trivial, advances⟩, rfl⟩
      · have notBefore := (kept.due timer present).1
        have reached := kept.advance notBefore first
        have fewer : (listener.debounceTimers.delete fun other =>
            other.key = timer.key).rows.length < timers := by
          rw [← count]
          exact List.length_filter_lt_length_iff_exists.mpr ⟨timer, present, by simp⟩
        obtain ⟨emitted, final, run, arrives⟩ :=
          inductionHypothesis _ fewer rfl (reached.fired present rfl) due
        have fires : step { listener with now := timer.due } (.fire timer.key) = some _ :=
          step_fire present rfl
        have fired := run.after ⟨.fire timer.key, trivial, fires⟩
        exact ⟨_, final, fired.after ⟨.advance timer.due, trivial, step_advance notBefore first⟩,
          arrives⟩

/-- No wakeup is lost: once the clock has passed a debounce after a notification, a wakeup of
its queue has answered it in time; and two wakeups of a queue are a debounce apart. The clock
can always pass. -/
theorem wakeups_debounced (run : Run (takes step wellFormed) (.idle started) history listener) :
    (∀ earlier now payload later, history = earlier ++ .notified now payload :: later →
      now + debounceMs < listener.now → ∃ event ∈ later, Answers now payload event) ∧
    (∀ earlier first payload between second other later,
      history = earlier ++ .wakeup first payload :: (between ++ .wakeup second other :: later) →
        payload.SameQueue other → first + debounceMs ≤ second) ∧
    ∀ time, listener.now ≤ time →
      ∃ emitted final, Run (takes step wellFormed) listener emitted final ∧ final.now = time := by
  have kept := run_kept run
  refine ⟨?_, ?_, fun time later => time_passes _ rfl kept later⟩
  · intro earlier now payload later split passed
    rcases kept.answered earlier now payload later split with answered | ⟨timer, present, serves⟩
    · exact answered
    · have pending := (kept.due timer present).1
      have late := serves.2.2
      grind
  · intro earlier first payload between second other later split same
    have apart := kept.apart
    rw [split] at apart
    have after := (List.pairwise_cons.mp (List.pairwise_append.mp apart).2.1).1
    exact after (.wakeup second other) (by simp) same

/-- An insert into a shard is answered when the clock has passed its debounce. -/
theorem wakeups_debounced_insert :
    ∃ emitted listener, Run (takes step wellFormed) (.idle 0)
        ([.notified 0 { table := "email_jobs", shardKey := some 3 }] ++ emitted) listener ∧
      ∃ event ∈ emitted, Answers 0 { table := "email_jobs", shardKey := some 3 } event := by
  have plain : wellFormed (.idle 0) (.notify
      { channel := "queue_wakeup", payload := some { table := "email_jobs", shardKey := some 3 } }) := by
    rintro payload ⟨rfl⟩
    simp [Payload.Plain]
  have inserted : Run (takes step wellFormed) (.idle 0) _ _ := .step .start ⟨_, plain, rfl⟩
  obtain ⟨emitted, listener, run, arrives⟩ := (wakeups_debounced inserted).2.2 51 (by decide)
  have whole := inserted.trans run
  obtain ⟨event, member, answers⟩ := (wakeups_debounced whole).1 [] 0 _ emitted rfl (by
    rw [arrives, debounceMs]
    grind)
  exact ⟨emitted, listener, whole, event, member, answers⟩

end Runs

end PlanBuddy.WakeupDebounce
