import Mathlib.Data.List.Count
import Mathlib.Logic.Function.Basic
import PlanBuddy.Queues
import PlanBuddy.Reconnection
import PlanBuddy.Runs

/-!
# The block list of the conflict limiter

`trackConflict` counts the idempotency conflicts of an address in Redis. The first INCR of a
counter is followed by the EXPIRE that ends it after the window, and a counter at the limit by
the SET of the block flag. A command may fail, or take effect although its reply is lost; either
way the call ends there.

While its counter has a lifetime, what it counts is recent. No call but the first one arms the
lifetime, so when that EXPIRE fails, the counter adds up conflicts of any age. A call takes
place at one instant; calls come in the order of time.
-/

namespace PlanBuddy.ConflictLimiter

open Reconnection (setting)

section Model

/-- An address, as characters. -/
abbrev Ip := List Char

structure Settings where
  conflictLimit : Int
  windowS : Int
  blockS : Int

/-- The settings, as the environment gives them. -/
def settingsOf (conflictLimit conflictWindow blockDuration : Option (List Char)) : Settings where
  conflictLimit := setting conflictLimit 5
  windowS := setting conflictWindow 60
  blockS := setting blockDuration 300

def counterPrefix : List Char := "abuse:idemp-conflict:".toList

def blockPrefix : List Char := "abuse:idemp-blocked:".toList

def counterKey (ip : Ip) : List Char := counterPrefix ++ ip

def blockKey (ip : Ip) : List Char := blockPrefix ++ ip

/-- A number in Redis, with the instant from which it is gone. -/
structure Entry where
  value : Nat
  expiresAt : Option Time

abbrev Store := List Char → Option Entry

/-- An entry whose lifetime has not ended. -/
def Store.live (store : Store) (clock : Time) (key : List Char) : Option Entry :=
  (store key).filter fun entry => entry.expiresAt.all fun due => decide (clock < due)

/-- `INCR` keeps the lifetime of an entry, and starts a new one without any. -/
def Store.incr (store : Store) (clock : Time) (key : List Char) : Store × Nat :=
  match store.live clock key with
  | none => (Function.update store key (some ⟨1, none⟩), 1)
  | some entry =>
    (Function.update store key (some { entry with value := entry.value + 1 }), entry.value + 1)

/-- `EXPIRE` in seconds; a lifetime that is not positive deletes the entry. -/
def Store.expire (store : Store) (clock : Time) (key : List Char) (seconds : Int) : Store :=
  match store.live clock key with
  | none => store
  | some entry =>
    if 0 < seconds then
      Function.update store key (some { entry with expiresAt := some (clock + 1000 * seconds) })
    else Function.update store key none

/-- `SET key '1' EX seconds`. -/
def Store.setFlag (store : Store) (clock : Time) (key : List Char) (seconds : Int) : Store :=
  Function.update store key (some ⟨1, some (clock + 1000 * seconds)⟩)

/-- What becomes of a command: `lost` takes effect, but its reply does not arrive. -/
inductive Outcome
  | done
  | lost
  | failed
deriving DecidableEq

structure Answer where
  blocked : Bool
  conflicts : Nat
deriving DecidableEq

def failOpen : Answer := ⟨false, 0⟩

/-- A call, with what becomes of each command it comes to. -/
structure Call where
  ip : Ip
  clock : Time
  redisReady : Bool
  incr : Outcome
  expire : Outcome
  set : Outcome

/-- What a call leaves: the store, its answer, and whether it has set the block flag. -/
structure Tracked where
  store : Store
  answer : Answer
  listed : Bool

variable (settings : Settings)

/-- The SET at the limit. Redis refuses a lifetime that is not positive. -/
def checkLimit (call : Call) (conflicts : Nat) (store : Store) : Tracked :=
  if settings.conflictLimit ≤ conflicts then
    let blocked := store.setFlag call.clock (blockKey call.ip) settings.blockS
    if settings.blockS ≤ 0 then ⟨store, failOpen, false⟩
    else
      match call.set with
      | .failed => ⟨store, failOpen, false⟩
      | .lost => ⟨blocked, failOpen, true⟩
      | .done => ⟨blocked, ⟨true, conflicts⟩, true⟩
  else ⟨store, ⟨false, conflicts⟩, false⟩

/-- The EXPIRE of the first conflict. -/
def armLifetime (call : Call) (conflicts : Nat) (store : Store) : Tracked :=
  if conflicts = 1 then
    let armed := store.expire call.clock (counterKey call.ip) settings.windowS
    match call.expire with
    | .failed => ⟨store, failOpen, false⟩
    | .lost => ⟨armed, failOpen, false⟩
    | .done => checkLimit settings call conflicts armed
  else checkLimit settings call conflicts store

def trackConflict (call : Call) (store : Store) : Tracked :=
  if call.redisReady = false then ⟨store, failOpen, false⟩
  else
    let (counted, conflicts) := store.incr call.clock (counterKey call.ip)
    match call.incr with
    | .failed => ⟨store, failOpen, false⟩
    | .lost => ⟨counted, failOpen, false⟩
    | .done => armLifetime settings call conflicts counted

/-- The store, the clock, and the conflicts so far, each with its address and instant. -/
structure State where
  store : Store
  clock : Time
  conflicts : List (Ip × Time)

def State.initial : State := ⟨fun _ => none, 0, []⟩

def perform (state : State) (call : Call) : Option State :=
  if state.clock ≤ call.clock then
    some ⟨(trackConflict settings call state.store).store, call.clock,
      state.conflicts ++ [(call.ip, call.clock)]⟩
  else none

/-- The calls of a run are recorded with the states they find. -/
def machine (state : State) (call : Call) : Option (State × List (State × Call)) :=
  (perform settings state call).map fun next => (next, [(state, call)])

end Model

section Purpose

variable (settings : Settings)

/-- How many conflicts of an address there were from an instant on. -/
def recent (conflicts : List (Ip × Time)) (ip : Ip) (since : Time) : Nat :=
  conflicts.countP fun conflict => decide (conflict.1 = ip) && decide (since ≤ conflict.2)

/-- The window that ends at a call. -/
def windowStart (clock : Time) : Time := clock - 1000 * settings.windowS.toNat

/-- An address is put on the block list only with enough conflicts in the window that ends at
the call, the conflict of the call among them. -/
def Justified (state : State) (call : Call) : Prop :=
  (trackConflict settings call state.store).listed = true →
    settings.conflictLimit ≤ recent (state.conflicts ++ [(call.ip, call.clock)]) call.ip
      (windowStart settings call.clock)

/-- A call that brings a counter to the limit, or finds it there, starts the counter or finds it
with a lifetime. -/
def Lasting (state : State) (call : Call) : Prop :=
  ∀ entry ∈ state.store.live call.clock (counterKey call.ip),
    settings.conflictLimit ≤ entry.value + 1 → entry.expiresAt.isSome = true

instance (state : State) (call : Call) : Decidable (Justified settings state call) :=
  inferInstanceAs (Decidable (_ → _))

instance (state : State) (call : Call) : Decidable (Lasting settings state call) :=
  decidable_of_iff ((state.store.live call.clock (counterKey call.ip)).all fun entry =>
    decide (settings.conflictLimit ≤ entry.value + 1 → entry.expiresAt.isSome = true)) (by
      simp only [Lasting, Option.all_eq_true, decide_eq_true_eq, Option.mem_def])

end Purpose

section Keys

/-- Addresses are told apart by their keys. -/
theorem counterKey_inj {left right : Ip} : counterKey left = counterKey right ↔ left = right :=
  List.append_right_inj counterPrefix

/-- The prefixes differ in their thirteenth character. -/
theorem counterKey_ne_blockKey (left right : Ip) : counterKey left ≠ blockKey right := by
  intro same
  have char := congrArg (fun key : List Char => key[12]?) same
  simp only [counterKey, blockKey] at char
  rw [List.getElem?_append_left (by decide), List.getElem?_append_left (by decide)] at char
  exact absurd char (by decide)

end Keys

section Counting

variable {conflicts : List (Ip × Time)} {ip other : Ip} {since clock : Time}

/-- The longer ago the instant is, the more conflicts there were since. -/
theorem recent_mono (conflicts : List (Ip × Time)) (ip : Ip) {earlier since : Time}
    (before : earlier ≤ since) :
    recent conflicts ip since ≤ recent conflicts ip earlier := by
  refine List.countP_mono_left fun conflict _ counted => ?_
  simp only [Bool.and_eq_true, decide_eq_true_eq] at counted ⊢
  exact ⟨counted.1, Int.le_trans before counted.2⟩

/-- One more conflict of an address. -/
theorem recent_own (reached : since ≤ clock) :
    recent (conflicts ++ [(ip, clock)]) ip since = recent conflicts ip since + 1 := by
  simp [recent, List.countP_append, reached]

/-- No conflict takes one away. -/
theorem recent_snoc : recent conflicts other since ≤ recent (conflicts ++ [(ip, clock)]) other since := by
  rw [recent, recent, List.countP_append]
  exact Nat.le_add_right _ _

end Counting

section Counters

variable {settings : Settings} {store : Store} {call : Call} {conflicts : List (Ip × Time)}
  {clock : Time}

/-- A counter counts something, and while it has a lifetime, only conflicts since the window
before its end. -/
structure Counted (settings : Settings) (conflicts : List (Ip × Time)) (clock : Time) (ip : Ip)
    (entry : Entry) : Prop where
  positive : 1 ≤ entry.value
  begun : ∀ due ∈ entry.expiresAt, windowStart settings due ≤ clock
  within : ∀ due ∈ entry.expiresAt, entry.value ≤ recent conflicts ip (windowStart settings due)

def AllCounted (settings : Settings) (conflicts : List (Ip × Time)) (clock : Time) (store : Store) :
    Prop :=
  ∀ ip, ∀ entry ∈ store (counterKey ip), Counted settings conflicts clock ip entry

/-- A later conflict leaves the counters as they are. -/
theorem counted_later {ip : Ip} {entry : Entry} (counted : Counted settings conflicts clock ip entry)
    (ordered : clock ≤ call.clock) :
    Counted settings (conflicts ++ [(call.ip, call.clock)]) call.clock ip entry :=
  ⟨counted.positive, fun due armed => Int.le_trans (counted.begun due armed) ordered,
    fun due armed => Nat.le_trans (counted.within due armed) recent_snoc⟩

/-- What is counted stays so with one more conflict. -/
theorem allCounted_later (counted : AllCounted settings conflicts clock store)
    (ordered : clock ≤ call.clock) :
    AllCounted settings (conflicts ++ [(call.ip, call.clock)]) call.clock store :=
  fun ip entry stored => counted_later (counted ip entry stored) ordered

/-- The other counters are not touched. -/
theorem allCounted_update (counted : AllCounted settings conflicts clock store)
    {cell : Option Entry} (ordered : clock ≤ call.clock)
    (own : ∀ entry ∈ cell,
      Counted settings (conflicts ++ [(call.ip, call.clock)]) call.clock call.ip entry) :
    AllCounted settings (conflicts ++ [(call.ip, call.clock)]) call.clock
      (Function.update store (counterKey call.ip) cell) := by
  intro ip entry stored
  by_cases same : ip = call.ip
  · subst same
    rw [Function.update_self] at stored
    exact own entry stored
  · rw [Function.update_of_ne (fun keys => same (counterKey_inj.mp keys))] at stored
    exact counted_later (counted ip entry stored) ordered

/-- A live entry is stored and not expired. -/
theorem live_stored {key : List Char} {entry : Entry} (live : entry ∈ store.live clock key) :
    entry ∈ store key ∧ ∀ due ∈ entry.expiresAt, clock < due := by
  rw [Store.live, Option.mem_def, Option.filter_eq_some_iff] at live
  refine ⟨live.1, fun due armed => ?_⟩
  have lasts := live.2
  rw [Option.mem_def.mp armed] at lasts
  exact of_decide_eq_true lasts

/-- Counting a conflict keeps the counters right: a lifetime that has not ended began within
the window before this conflict. -/
theorem allCounted_incr (counted : AllCounted settings conflicts clock store)
    (ordered : clock ≤ call.clock) :
    AllCounted settings (conflicts ++ [(call.ip, call.clock)]) call.clock
      (store.incr call.clock (counterKey call.ip)).1 := by
  rw [Store.incr]
  cases found : store.live call.clock (counterKey call.ip) with
  | none =>
    refine allCounted_update counted ordered ?_
    rintro entry ⟨⟩
    exact ⟨Nat.le_refl 1, nofun, nofun⟩
  | some entry =>
    refine allCounted_update counted ordered ?_
    rintro next ⟨⟩
    have old := counted call.ip entry (live_stored found).1
    refine ⟨Nat.le_add_left 1 _, fun due armed => Int.le_trans (old.begun due armed) ordered,
      fun due armed => ?_⟩
    rw [recent_own (Int.le_trans (old.begun due armed) ordered)]
    exact Nat.succ_le_succ (old.within due armed)

/-- The first conflict of a counter is the only one it counts. -/
theorem incr_first (counted : AllCounted settings conflicts clock store)
    (first : (store.incr call.clock (counterKey call.ip)).2 = 1) :
    store.incr call.clock (counterKey call.ip) =
      (Function.update store (counterKey call.ip) (some ⟨1, none⟩), 1) := by
  rw [Store.incr] at first ⊢
  cases found : store.live call.clock (counterKey call.ip) with
  | none => rfl
  | some entry =>
    have positive := (counted call.ip entry (live_stored found).1).positive
    rw [found] at first
    dsimp only at first
    omega

/-- So the lifetime that it arms ends a window after it. -/
theorem allCounted_expire (counted : AllCounted settings conflicts clock store)
    (ordered : clock ≤ call.clock) (first : (store.incr call.clock (counterKey call.ip)).2 = 1) :
    AllCounted settings (conflicts ++ [(call.ip, call.clock)]) call.clock
      ((store.incr call.clock (counterKey call.ip)).1.expire call.clock (counterKey call.ip)
        settings.windowS) := by
  rw [incr_first counted first, Store.expire]
  have live : Store.live (Function.update store (counterKey call.ip) (some ⟨1, none⟩)) call.clock
      (counterKey call.ip) = some ⟨1, none⟩ := by simp [Store.live]
  rw [live]
  dsimp only
  by_cases positive : 0 < settings.windowS
  · have start : windowStart settings (call.clock + 1000 * settings.windowS) = call.clock := by
      rw [windowStart, Int.toNat_of_nonneg (Int.le_of_lt positive)]
      exact Int.add_sub_cancel _ _
    rw [if_pos positive, Function.update_idem]
    refine allCounted_update counted ordered ?_
    rintro entry ⟨⟩
    refine ⟨Nat.le_refl 1, ?_, ?_⟩
    · rintro due ⟨⟩
      exact Int.le_of_eq start
    · rintro due ⟨⟩
      rw [start, recent_own (Int.le_refl _)]
      exact Nat.le_add_left 1 _
  · rw [if_neg positive, Function.update_idem]
    exact allCounted_update counted ordered nofun

/-- The block flag is no counter. -/
theorem allCounted_setFlag (counted : AllCounted settings conflicts clock store) (ip : Ip)
    (now : Time) (seconds : Int) :
    AllCounted settings conflicts clock (store.setFlag now (blockKey ip) seconds) := by
  intro other entry stored
  rw [Store.setFlag, Function.update_of_ne (counterKey_ne_blockKey other ip)] at stored
  exact counted other entry stored

end Counters

section Calls

variable {settings : Settings} {state next : State} {call : Call}

/-- A check takes nothing away. -/
theorem checkLimit_counted {counted : List (Ip × Time)} {clock : Time} {store : Store} (number : Nat)
    (fits : AllCounted settings counted clock store) :
    AllCounted settings counted clock (checkLimit settings call number store).store := by
  rw [checkLimit]
  split
  · dsimp only
    split
    · exact fits
    · cases call.set with
      | failed => exact fits
      | lost => exact allCounted_setFlag fits call.ip call.clock settings.blockS
      | done => exact allCounted_setFlag fits call.ip call.clock settings.blockS
  · exact fits

/-- Whatever becomes of its commands, a call leaves the counters right. -/
theorem trackConflict_counted {conflicts : List (Ip × Time)} {clock : Time} {store : Store}
    (fits : AllCounted settings conflicts clock store) (ordered : clock ≤ call.clock) :
    AllCounted settings (conflicts ++ [(call.ip, call.clock)]) call.clock
      (trackConflict settings call store).store := by
  have unchanged := allCounted_later fits ordered
  have counted := allCounted_incr fits ordered
  rw [trackConflict]
  split
  · exact unchanged
  · dsimp only
    cases call.incr with
    | failed => exact unchanged
    | lost => exact counted
    | done =>
      dsimp only
      rw [armLifetime]
      split
      · next first =>
        have armed := allCounted_expire fits ordered first
        dsimp only
        cases call.expire with
        | failed => exact counted
        | lost => exact armed
        | done => exact checkLimit_counted _ armed
      · exact checkLimit_counted _ counted

/-- An address is put on the block list by a call whose counter has reached the limit. -/
theorem listed_limit {store : Store} (listed : (trackConflict settings call store).listed = true) :
    settings.conflictLimit ≤ (store.incr call.clock (counterKey call.ip)).2 := by
  have reached : ∀ {number : Nat} {store : Store},
      (checkLimit settings call number store).listed = true → settings.conflictLimit ≤ number := by
    intro number store listed
    rw [checkLimit] at listed
    split at listed
    · next limit => exact limit
    · cases listed
  rw [trackConflict] at listed
  split at listed
  · cases listed
  · dsimp only at listed
    cases counted : call.incr with
    | failed => rw [counted] at listed; cases listed
    | lost => rw [counted] at listed; cases listed
    | done =>
      rw [counted] at listed
      dsimp only at listed
      rw [armLifetime] at listed
      split at listed
      · dsimp only at listed
        cases armed : call.expire with
        | failed => rw [armed] at listed; cases listed
        | lost => rw [armed] at listed; cases listed
        | done => rw [armed] at listed; exact reached listed
      · exact reached listed

/-- A call that finds a lasting counter at the limit has that many conflicts in its window. -/
theorem lasting_justified (fits : AllCounted settings state.conflicts state.clock state.store)
    (lasting : Lasting settings state call) :
    Justified settings state call := by
  intro listed
  have limit := listed_limit listed
  have window : windowStart settings call.clock ≤ call.clock := by
    have nonnegative : (0 : Int) ≤ settings.windowS.toNat := Int.natCast_nonneg _
    exact Int.sub_le_self _ (Int.mul_nonneg (by decide) nonnegative)
  rw [recent_own window]
  rw [Store.incr] at limit
  cases found : state.store.live call.clock (counterKey call.ip) with
  | none =>
    rw [found] at limit
    dsimp only at limit
    omega
  | some entry =>
    rw [found] at limit
    dsimp only at limit
    obtain ⟨stored, alive⟩ := live_stored found
    obtain ⟨due, armed⟩ := Option.isSome_iff_exists.mp (lasting entry found (by omega))
    have within := (fits call.ip entry stored).within due armed
    have later : windowStart settings call.clock ≤ windowStart settings due :=
      Int.sub_le_sub_right (Int.le_of_lt (alive due armed)) _
    have more := recent_mono state.conflicts call.ip later
    omega

end Calls

section Claims

variable {settings : Settings} {history : List (State × Call)} {state : State}

/-- In a run every counter that has a lifetime counts conflicts of its window. -/
theorem run_counted (run : Run (takes (machine settings) anyAction) .initial history state) :
    AllCounted settings state.conflicts state.clock state.store ∧
      ∀ step ∈ history, AllCounted settings step.1.conflicts step.1.clock step.1.store := by
  refine run.invariant (fun history state =>
    AllCounted settings state.conflicts state.clock state.store ∧
      ∀ step ∈ history, AllCounted settings step.1.conflicts step.1.clock step.1.store)
    ⟨?_, nofun⟩ ?_
  · intro ip entry stored
    cases stored
  · rintro history observed state next - ⟨fits, earlier⟩ ⟨call, -, taken⟩
    rw [machine, Option.map_eq_some_iff] at taken
    obtain ⟨reached, performed, same⟩ := taken
    cases same
    rw [perform, Option.ite_none_right_eq_some] at performed
    obtain ⟨ordered, performed⟩ := performed
    cases performed
    exact ⟨trackConflict_counted fits ordered, forall_mem_snoc earlier fits⟩

/-- In a run in which every call that reaches the limit finds a counter with a lifetime, or
starts one, an address is put on the block list only with that many conflicts in the window
that ends at that moment. -/
theorem blocks_justified (settings : Settings)
    (run : Run (takes (machine settings) anyAction) .initial history state)
    (lasting : ∀ step ∈ history, Lasting settings step.1 step.2) :
    ∀ step ∈ history, Justified settings step.1 step.2 := by
  intro step member
  exact lasting_justified ((run_counted run).2 step member) (lasting step member)

/-- Five conflicts of one address, and what becomes of the EXPIRE of the first one. -/
def fiveConflicts (gap : Time) (expire : Outcome) : List Call :=
  (List.range 5).map fun index =>
    ⟨"10.0.0.1".toList, gap * index, true, .done, expire, .done⟩

/-- A second apart, with a lifetime that was armed, they block rightly. -/
theorem blocks_justified_seconds :
    let history := ((execute (machine (settingsOf none none none)) .initial
      (fiveConflicts 1000 .lost)).get rfl).2
    history.length = 5 ∧ ∀ step ∈ history, Justified (settingsOf none none none) step.1 step.2 :=
  ⟨by decide, blocks_justified (settingsOf none none none)
    (run_of_schedule (fiveConflicts 1000 .lost) rfl) (by decide)⟩

/-- A day apart, they block when the EXPIRE of the first one has failed. -/
theorem daily_conflicts_block :
    ¬ ∀ step ∈ ((execute (machine (settingsOf none none none)) .initial
        (fiveConflicts 86400000 .failed)).get rfl).2,
      Justified (settingsOf none none none) step.1 step.2 := by decide

end Claims

end PlanBuddy.ConflictLimiter
