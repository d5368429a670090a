import PlanBuddy.Parties
import PlanBuddy.Queues
import PlanBuddy.Runs

/-!
# The lockout of an account

`login` reads the row of the user, compares the password and, for a wrong one, writes back
the count it has read plus one, together with a lock or without it. Other attempts take
their steps in between. A write that follows another one since its own read therefore
loses a failure, and may take a lock away; and while the comparisons run, nothing has been
counted yet.

The three things a lockout is for hold in every run in which a failure is written on the
count that was read, and in which no wrong password is compared once the failures counted
and those still to be written reach the limit.

Attempts for an address without a row, and those whose body is refused, touch nothing and
are left out. Whether a password is right comes with the action.
-/

namespace PlanBuddy.Lockout

section Model

def maxFailedLogins : Nat := 5

def lockoutMinutes : Nat := 15

/-- The columns of the user that `login` reads or writes, the password apart. -/
structure UserRow where
  failedLoginAttempts : Nat
  lockedUntil : Option Time
  isActive : Bool
deriving DecidableEq

/-- An attempt, by the statement or the comparison it awaits, with the row it has read. -/
inductive Login
  | reading
  | comparing (user : UserRow)
  | failing (user : UserRow)
  | succeeding (user : UserRow)
  | answered (status : Nat)
deriving DecidableEq

structure Account where
  row : UserRow
  logins : List Login
deriving DecidableEq

inductive Event
  | compared (passwordValid : Bool)
  | recorded (now : Time) (before after : UserRow)
  | reset
deriving DecidableEq

inductive Action
  | login
  | select (index : Nat) (clock : Time)
  | compare (index : Nat) (passwordValid : Bool)
  | recordFailure (index : Nat) (now : Time)
  | resetAttempts (index : Nat)

/-- An account as it is created. -/
def Account.registered (isActive : Bool) : Account := ⟨⟨0, none, isActive⟩, []⟩

/-- The checks between the SELECT and the comparison, by the clock of the process. -/
def UserRow.check (user : UserRow) (clock : Time) : Login :=
  if user.isActive = false then .answered 403
  else if user.lockedUntil.any fun time => decide (clock < time) then .answered 429
  else .comparing user

/-- The UPDATE after a wrong password, from the row that was read. -/
def UserRow.fail (stored user : UserRow) (now : Time) : UserRow :=
  let newAttempts := user.failedLoginAttempts + 1
  { stored with
    failedLoginAttempts := newAttempts
    lockedUntil := if maxFailedLogins ≤ newAttempts then
      some (now + (lockoutMinutes * 60 * 1000 : Nat)) else none }

/-- What follows the comparison. A success that has read no failures writes nothing. -/
def UserRow.judge (user : UserRow) (passwordValid : Bool) : Login :=
  if passwordValid = false then .failing user
  else if 0 < user.failedLoginAttempts then .succeeding user
  else .answered 200

def serve (account : Account) : Action → Option (Account × List Event)
  | .login => some ({ account with logins := account.logins ++ [.reading] }, [])
  | .select index clock =>
    match account.logins[index]? with
    | some .reading =>
      some ({ account with logins := account.logins.set index (account.row.check clock) }, [])
    | _ => none
  | .compare index passwordValid =>
    match account.logins[index]? with
    | some (.comparing user) =>
      some ({ account with logins := account.logins.set index (user.judge passwordValid) },
        [.compared passwordValid])
    | _ => none
  | .recordFailure index now =>
    match account.logins[index]? with
    | some (.failing user) =>
      some (⟨account.row.fail user now, account.logins.set index (.answered 401)⟩,
        [.recorded now account.row (account.row.fail user now)])
    | _ => none
  | .resetAttempts index =>
    match account.logins[index]? with
    | some (.succeeding _) =>
      some (⟨{ account.row with failedLoginAttempts := 0, lockedUntil := none },
        account.logins.set index (.answered 200)⟩, [.reset])
    | _ => none

end Model

section Purpose

/-- Since the last reset: the wrong passwords compared before a lock, the failures
recorded, and whether the account has been locked. -/
structure Tally where
  compared : Nat
  recorded : Nat
  locked : Bool

def Tally.add (tally : Tally) : Event → Tally
  | .compared true => tally
  | .compared false => if tally.locked then tally else { tally with compared := tally.compared + 1 }
  | .recorded _ _ after =>
    { tally with recorded := tally.recorded + 1, locked := tally.locked || after.lockedUntil.isSome }
  | .reset => ⟨0, 0, false⟩

def tally (history : List Event) : Tally := history.foldl Tally.add ⟨0, 0, false⟩

/-- The tally of a longer history. -/
theorem tally_append (history observed : List Event) :
    tally (history ++ observed) = observed.foldl Tally.add (tally history) :=
  List.foldl_append

/-- A failure that is recorded while a lock has not expired leaves a lock in force. -/
def LockKept (history : List Event) : Prop :=
  ∀ now before after, .recorded now before after ∈ history →
    ∀ time, before.lockedUntil = some time → now < time →
      ∃ later, after.lockedUntil = some later ∧ now < later

end Purpose

section Condition

/-- Wrong passwords compared, the UPDATE still to come. -/
def Login.pending : Login → Nat
  | .failing _ => 1
  | _ => 0

def pending (logins : List Login) : Nat := Parties.shares Login.pending logins

/-- The count it has read is still stored. -/
def Login.current (row : UserRow) : Login → Bool
  | .failing user => decide (user.failedLoginAttempts = row.failedLoginAttempts)
  | _ => true

/-- A failure is recorded on the count that was read, and no wrong password is compared
once those counted and those not yet recorded reach the limit. -/
def Unraced (account : Account) : Action → Prop
  | .compare _ false => account.row.lockedUntil.isSome = true ∨
      account.row.failedLoginAttempts + pending account.logins < maxFailedLogins
  | .recordFailure index _ => (account.logins[index]?).all (Login.current account.row) = true
  | _ => True

instance (account : Account) : (action : Action) → Decidable (Unraced account action)
  | .compare _ false => inferInstanceAs (Decidable (_ ∨ _))
  | .recordFailure _ _ => inferInstanceAs (Decidable (_ = _))
  | .login | .select _ _ | .compare _ true | .resetAttempts _ => inferInstanceAs (Decidable True)

end Condition

section Steps

/-- What a step does, with the condition on it. -/
inductive Stepped (account : Account) : List Event → Account → Prop
  | quiet (logins : List Login) (same : pending logins = pending account.logins) :
    Stepped account [] ⟨account.row, logins⟩
  | right (logins : List Login) (same : pending logins = pending account.logins) :
    Stepped account [.compared true] ⟨account.row, logins⟩
  | wrong (logins : List Login) (more : pending logins = pending account.logins + 1)
    (room : account.row.lockedUntil.isSome = true ∨
      account.row.failedLoginAttempts + pending account.logins < maxFailedLogins) :
    Stepped account [.compared false] ⟨account.row, logins⟩
  | recorded (user : UserRow) (now : Time) (logins : List Login)
    (fewer : pending logins + 1 = pending account.logins)
    (current : user.failedLoginAttempts = account.row.failedLoginAttempts) :
    Stepped account [.recorded now account.row (account.row.fail user now)]
      ⟨account.row.fail user now, logins⟩
  | reset (logins : List Login) (same : pending logins = pending account.logins) :
    Stepped account [.reset] ⟨{ account.row with failedLoginAttempts := 0, lockedUntil := none }, logins⟩

/-- A login that moves changes the failures that are pending by its own. -/
theorem pending_set {logins : List Login} {index : Nat} {login : Login} (next : Login)
    (stored : logins[index]? = some login) :
    pending (logins.set index next) + login.pending = pending logins + next.pending :=
  Parties.shares_set next stored

/-- A login that has only read has none. -/
theorem check_pending (user : UserRow) (clock : Time) : (user.check clock).pending = 0 := by
  unfold UserRow.check
  split
  · rfl
  · split <;> rfl

/-- A right password leaves none. -/
theorem judge_right (user : UserRow) : (user.judge true).pending = 0 := by
  rw [UserRow.judge, if_neg (by simp)]
  split <;> rfl

variable {account next : Account} {observed : List Event} {index : Nat}

/-- A comparison ends with its answer in the history. -/
theorem compare_inv {passwordValid : Bool}
    (taken : serve account (.compare index passwordValid) = some (next, observed)) :
    ∃ user, account.logins[index]? = some (.comparing user) ∧ observed = [.compared passwordValid] ∧
      next = { account with logins := account.logins.set index (user.judge passwordValid) } := by
  simp only [serve] at taken
  split at taken
  case h_2 => cases taken
  case h_1 user stored =>
    cases taken
    exact ⟨user, stored, rfl, rfl⟩

/-- A failure is recorded over the row of that time. -/
theorem recordFailure_inv {now : Time}
    (taken : serve account (.recordFailure index now) = some (next, observed)) :
    ∃ user, account.logins[index]? = some (.failing user) ∧
      observed = [.recorded now account.row (account.row.fail user now)] ∧
      next = ⟨account.row.fail user now, account.logins.set index (.answered 401)⟩ := by
  simp only [serve] at taken
  split at taken
  case h_2 => cases taken
  case h_1 user stored =>
    cases taken
    exact ⟨user, stored, rfl, rfl⟩

/-- A step is one of these. -/
theorem stepped (taken : takes serve Unraced account observed next) : Stepped account observed next := by
  obtain ⟨action, unraced, taken⟩ := taken
  cases action with
  | login =>
    simp only [serve, Option.some.injEq, Prod.mk.injEq] at taken
    obtain ⟨rfl, rfl⟩ := taken
    exact .quiet _ (Parties.shares_append _)
  | select index clock =>
    simp only [serve] at taken
    split at taken
    case h_2 => cases taken
    case h_1 stored =>
      simp only [Option.some.injEq, Prod.mk.injEq] at taken
      obtain ⟨rfl, rfl⟩ := taken
      have moved := pending_set (account.row.check clock) stored
      rw [check_pending] at moved
      exact .quiet _ moved
  | compare index passwordValid =>
    obtain ⟨user, stored, rfl, rfl⟩ := compare_inv taken
    have moved := pending_set (user.judge passwordValid) stored
    cases passwordValid with
    | true =>
      rw [judge_right] at moved
      exact .right _ moved
    | false => exact .wrong _ moved unraced
  | recordFailure index now =>
    obtain ⟨user, stored, rfl, rfl⟩ := recordFailure_inv taken
    have current : user.failedLoginAttempts = account.row.failedLoginAttempts := by
      simpa [Unraced, stored, Login.current] using unraced
    exact .recorded user now _ (pending_set _ stored) current
  | resetAttempts index =>
    simp only [serve] at taken
    split at taken
    case h_2 => cases taken
    case h_1 user stored =>
      simp only [Option.some.injEq, Prod.mk.injEq] at taken
      obtain ⟨rfl, rfl⟩ := taken
      exact .reset _ (pending_set _ stored)

end Steps

section Invariant

variable {history : List Event} {account : Account}

/-- What holds whenever no step has raced. -/
structure Counted (history : List Event) (account : Account) : Prop where
  counter : account.row.failedLoginAttempts = (tally history).recorded
  locked : (tally history).locked = account.row.lockedUntil.isSome
  full : account.row.lockedUntil.isSome = true ↔
    maxFailedLogins ≤ account.row.failedLoginAttempts
  compared : account.row.lockedUntil.isSome = false →
    (tally history).compared ≤ account.row.failedLoginAttempts + pending account.logins
  /-- Before the first reset none of them was compared earlier. -/
  fresh : account.row.lockedUntil.isSome = false → .reset ∉ history →
    account.row.failedLoginAttempts + pending account.logins ≤ (tally history).compared
  bounded : (tally history).compared ≤ maxFailedLogins
  kept : LockKept history

/-- Locks are kept as long as the last event keeps them. -/
theorem kept_append (kept : LockKept history) {event : Event}
    (latest : ∀ now before after, event = .recorded now before after →
      ∀ time, before.lockedUntil = some time → now < time →
        ∃ later, after.lockedUntil = some later ∧ now < later) :
    LockKept (history ++ [event]) := by
  intro now before after member
  rcases List.mem_append.mp member with old | new
  · exact kept now before after old
  · exact latest now before after (List.mem_singleton.mp new).symm

/-- The comparison of a wrong password adds one to either side while there is no lock. -/
theorem wrong_counted {logins : List Login} (counted : Counted history account)
    (more : pending logins = pending account.logins + 1)
    (room : account.row.lockedUntil.isSome = true ∨
      account.row.failedLoginAttempts + pending account.logins < maxFailedLogins) :
    Counted (history ++ [.compared false]) ⟨account.row, logins⟩ := by
  have kept : LockKept (history ++ [.compared false]) := kept_append counted.kept (by simp)
  cases locked : account.row.lockedUntil.isSome with
  | true =>
    have still : tally (history ++ [.compared false]) = tally history := by
      simp [tally_append, Tally.add, counted.locked, locked]
    have closed : account.row.lockedUntil.isSome ≠ false := by simp [locked]
    exact ⟨still ▸ counted.counter, still ▸ counted.locked, counted.full,
      fun unlocked => absurd unlocked closed, fun unlocked => absurd unlocked closed,
      still ▸ counted.bounded, kept⟩
  | false =>
    have grown : tally (history ++ [.compared false]) =
        { tally history with compared := (tally history).compared + 1 } := by
      simp [tally_append, Tally.add, counted.locked, locked]
    have before := counted.compared locked
    have room : account.row.failedLoginAttempts + pending account.logins < maxFailedLogins := by
      simpa [locked] using room
    refine ⟨grown ▸ counted.counter, grown ▸ counted.locked, counted.full, ?_, ?_, ?_, kept⟩
    · intro _
      simp only [grown, more]
      omega
    · intro _ unreset
      have earlier := counted.fresh locked (fun reset => unreset (List.mem_append_left _ reset))
      simp only [grown, more]
      omega
    · simp only [grown]
      omega

/-- A failure locks the account from the limit on. -/
theorem fail_locked (stored user : UserRow) (now : Time) :
    (stored.fail user now).lockedUntil.isSome = true ↔
      maxFailedLogins ≤ (stored.fail user now).failedLoginAttempts := by
  simp only [UserRow.fail]
  split <;> simp [*]

/-- A failure recorded on the stored count adds one to it and to the record. Under a lock the
count is at the limit already, so the lock is renewed. -/
theorem recorded_counted {logins : List Login} {user : UserRow} {now : Time}
    (counted : Counted history account) (fewer : pending logins + 1 = pending account.logins)
    (current : user.failedLoginAttempts = account.row.failedLoginAttempts) :
    Counted (history ++ [.recorded now account.row (account.row.fail user now)])
      ⟨account.row.fail user now, logins⟩ := by
  have count : (account.row.fail user now).failedLoginAttempts =
      account.row.failedLoginAttempts + 1 := by
    rw [UserRow.fail, current]
  have full := fail_locked account.row user now
  have grown : tally (history ++ [.recorded now account.row (account.row.fail user now)]) =
      ⟨(tally history).compared, (tally history).recorded + 1,
        (tally history).locked || (account.row.fail user now).lockedUntil.isSome⟩ := by
    rw [tally_append]
    rfl
  have renewed : account.row.lockedUntil.isSome = true →
      (account.row.fail user now).lockedUntil.isSome = true := by
    intro locked
    have atLimit := counted.full.mp locked
    rw [full, count]
    omega
  have before : (account.row.fail user now).lockedUntil.isSome = false →
      account.row.lockedUntil.isSome = false := by
    intro unlocked
    rw [Bool.eq_false_iff] at unlocked ⊢
    exact fun locked => unlocked (renewed locked)
  refine ⟨?_, ?_, full, ?_, ?_, grown ▸ counted.bounded, kept_append counted.kept ?_⟩
  · rw [grown, count, counted.counter]
  · rw [grown, counted.locked]
    cases locked : account.row.lockedUntil.isSome with
    | true => rw [renewed locked]; rfl
    | false => rfl
  · intro unlocked
    have bound := counted.compared (before unlocked)
    simp only [grown, count]
    omega
  · intro unlocked unreset
    have earlier := counted.fresh (before unlocked)
      (fun reset => unreset (List.mem_append_left _ reset))
    simp only [grown, count]
    omega
  · rintro moment before after recorded time locked inForce
    obtain ⟨rfl, rfl, rfl⟩ := Event.recorded.inj recorded
    have atLimit : maxFailedLogins ≤ user.failedLoginAttempts + 1 := by
      have := counted.full.mp (by rw [locked]; rfl)
      omega
    refine ⟨now + (lockoutMinutes * 60 * 1000 : Nat), by simp [UserRow.fail, atLimit], ?_⟩
    exact Int.lt_add_of_pos_right now (by decide)

/-- A reset begins the count anew. -/
theorem reset_counted {logins : List Login} (counted : Counted history account) :
    Counted (history ++ [.reset])
      ⟨{ account.row with failedLoginAttempts := 0, lockedUntil := none }, logins⟩ := by
  have cleared : tally (history ++ [.reset]) = ⟨0, 0, false⟩ := by
    rw [tally_append]
    rfl
  refine ⟨?_, ?_, by simp [maxFailedLogins], ?_, ?_, ?_, kept_append counted.kept (by simp)⟩
  all_goals simp [cleared]

/-- A step counts its failures. -/
theorem step_counted {next : Account} {observed : List Event} (counted : Counted history account)
    (taken : Stepped account observed next) : Counted (history ++ observed) next := by
  cases taken with
  | quiet logins same =>
    rw [List.append_nil]
    exact { counted with
      compared := fun unlocked => same ▸ counted.compared unlocked
      fresh := fun unlocked unreset => same ▸ counted.fresh unlocked unreset }
  | right logins same =>
    have still : tally (history ++ [.compared true]) = tally history := by
      rw [tally_append]
      rfl
    refine ⟨still ▸ counted.counter, still ▸ counted.locked, counted.full, ?_, ?_,
      still ▸ counted.bounded, kept_append counted.kept (by simp)⟩
    · intro unlocked
      rw [still, same]
      exact counted.compared unlocked
    · intro unlocked unreset
      rw [still, same]
      exact counted.fresh unlocked (fun reset => unreset (List.mem_append_left _ reset))
  | wrong logins more room => exact wrong_counted counted more room
  | recorded user now logins fewer current => exact recorded_counted counted fewer current
  | reset logins same => exact reset_counted counted

/-- An account begins with none. -/
theorem registered_counted (isActive : Bool) : Counted [] (Account.registered isActive) := by
  refine ⟨rfl, rfl, ?_, fun _ => Nat.zero_le _, fun _ _ => Nat.zero_le _, Nat.zero_le _, ?_⟩
  · simp [Account.registered, maxFailedLogins]
  · intro now before after member
    cases member

end Invariant

section Claims

variable {isActive : Bool} {history : List Event} {account : Account}

/-- A run counts them all. -/
theorem run_counted (run : Run (takes serve Unraced) (Account.registered isActive) history account) :
    Counted history account :=
  run.invariant Counted (registered_counted isActive)
    (fun _ counted taken => step_counted counted (stepped taken))

/-- A failure written on another count than the one read is miscounted. -/
theorem stale_miscounted {index : Nat} {now : Time} {next : Account} {observed : List Event}
    (run : Run (takes serve Unraced) (Account.registered isActive) history account)
    (taken : serve account (.recordFailure index now) = some (next, observed))
    (stale : ¬ Unraced account (.recordFailure index now)) :
    next.row.failedLoginAttempts ≠ (tally (history ++ observed)).recorded := by
  have counter := (run_counted run).counter
  obtain ⟨user, stored, rfl, rfl⟩ := recordFailure_inv taken
  have other : user.failedLoginAttempts ≠ account.row.failedLoginAttempts := by
    simpa [Unraced, stored, Login.current] using stale
  simp only [tally_append, List.foldl_cons, List.foldl_nil, Tally.add, UserRow.fail]
  omega

/-- Before the first reset, a wrong password compared where there is no room is one too many. -/
theorem crowded_exceeds {index : Nat} {next : Account} {observed : List Event}
    (run : Run (takes serve Unraced) (Account.registered isActive) history account)
    (unreset : .reset ∉ history)
    (taken : serve account (.compare index false) = some (next, observed))
    (crowded : ¬ Unraced account (.compare index false)) :
    maxFailedLogins < (tally (history ++ observed)).compared := by
  have counted := run_counted run
  obtain ⟨unlocked, full⟩ := not_or.mp crowded
  have unlocked := Bool.eq_false_iff.mpr unlocked
  have earlier := counted.fresh unlocked unreset
  obtain ⟨user, stored, rfl, rfl⟩ := compare_inv taken
  simp only [tally_append, List.foldl_cons, List.foldl_nil, Tally.add, counted.locked, unlocked,
    Bool.false_eq_true, if_false]
  omega

/-- Whenever no step has raced, the count is that of the failures, no more wrong passwords
than the limit were compared before a lock, and no failure has lifted a lock in force. -/
theorem failures_counted
    (run : Run (takes serve Unraced) (Account.registered isActive) history account) :
    (tally history).compared ≤ maxFailedLogins ∧
      account.row.failedLoginAttempts = (tally history).recorded ∧ LockKept history := by
  have counted := run_counted run
  exact ⟨counted.bounded, counted.counter, counted.kept⟩

end Claims

section Sample

/-- A wrong password, from the request to its answer. -/
def attempt (index : Nat) : List Action :=
  [.login, .select index 0, .compare index false, .recordFailure index 0]

/-- Five failures one after the other lock the account. -/
theorem failures_counted_sequence :
    ∃ history account, Run (takes serve Unraced) (Account.registered true) history account ∧
      (tally history).locked = true ∧ (tally history).compared ≤ maxFailedLogins ∧
      account.row.failedLoginAttempts = (tally history).recorded ∧ LockKept history := by
  have run : Run (takes serve Unraced) (Account.registered true) _ _ :=
    run_of_restricted ((List.range 5).flatMap attempt) rfl
  exact ⟨_, _, run, rfl, failures_counted run⟩

/-- Six attempts that compare wrong passwords before one of them has written. -/
def crowd : List Action :=
  List.replicate 6 .login ++ (List.range 6).map (fun index => .select index 0) ++
    (List.range 6).map fun index => .compare index false

/-- An attempt that has read the row before five others fail, and fails after them. -/
def straggler : List Action :=
  [.login, .select 0 0] ++ ((List.range 5).map (· + 1)).flatMap attempt ++
    [.compare 0 false, .recordFailure 0 0]

/-- Six wrong passwords are compared with no lock; and a late failure lifts a lock that has
just been set, and leaves one failure of six in the count. -/
theorem late_failure_lifts_lock :
    (∃ history account, Run (takes serve anyAction) (Account.registered true) history account ∧
      (tally history).locked = false ∧ maxFailedLogins < (tally history).compared) ∧
    ∃ history account, Run (takes serve anyAction) (Account.registered true) history account ∧
      account.row.failedLoginAttempts = 1 ∧ (tally history).recorded = 6 ∧ ¬ LockKept history := by
  have crowded : Run (takes serve anyAction) (Account.registered true) _ _ :=
    run_of_schedule crowd rfl
  have late : Run (takes serve anyAction) (Account.registered true) _ _ :=
    run_of_schedule straggler rfl
  refine ⟨⟨_, _, crowded, rfl, by decide⟩, _, _, late, rfl, rfl, ?_⟩
  intro kept
  have lifted := kept 0 ⟨5, some 900000, true⟩ ⟨1, none, true⟩ (by decide) 900000 rfl (by decide)
  simp at lifted

end Sample

end PlanBuddy.Lockout
