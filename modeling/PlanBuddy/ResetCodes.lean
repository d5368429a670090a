import PlanBuddy.Parties
import PlanBuddy.Queues
import PlanBuddy.Runs

/-!
# One-time reset codes

The row of an account in `password_reset_tokens` holds the hash of one code, until when it
is good, and how many wrong guesses were counted. `resetPassword` reads the row and checks
the count; then it compares the guess, which takes a while; then it adds one to the count of
whatever row there is, or deletes that row along with the change of the password. A request
keeps the hash it has read, so a deleted or replaced code can still be guessed and used.

A code is guessed wrong at most five times as long as it is read only while the count and
the guesses not yet counted leave room, and it is used once as long as no two guesses of it
are found right.

Requests that are refused for their form, and accounts that do not exist, touch nothing and
are left out. A code is known by the order in which it was issued, as its salted hash is.
Whether a guess is right comes with the action.
-/

namespace PlanBuddy.ResetCodes

open Parties

section Model

def maxAttempts : Nat := 5

structure TokenRow where
  code : Nat
  expiresAt : Time
  attempts : Nat
deriving DecidableEq

/-- A `resetPassword` request, by the statement or the comparison it awaits, with the code it
has read. -/
inductive Request
  | reading
  | discarding
  | comparing (code : Nat)
  | failing (code : Nat)
  | resetting (code : Nat)
  | succeeded (code : Nat)
  | refused
deriving DecidableEq

/-- The row of one account, the codes issued so far, and the requests. -/
structure Account where
  token : Option TokenRow
  issued : Nat
  requests : List Request
deriving DecidableEq

inductive Event
  | compared (code : Nat) (valid : Bool)
  | reset (code : Nat)
deriving DecidableEq

inductive Action
  | forgotPassword (now : Time)
  | resetPassword
  | select (index : Nat) (now : Time)
  | discard (index : Nat)
  | compare (index : Nat) (valid : Bool)
  | count (index : Nat)
  | transact (index : Nat)

def Account.registered : Account := ⟨none, 0, []⟩

/-- The upsert of `forgotPassword`. -/
def Account.issue (account : Account) (now : Time) : Account :=
  { account with
    token := some ⟨account.issued, now + (15 * 60 * 1000 : Nat), 0⟩
    issued := account.issued + 1 }

/-- The checks after the SELECT, which returns no expired row. -/
def Request.check (now : Time) : Option TokenRow → Request
  | none => .refused
  | some row =>
    if ¬ now < row.expiresAt then .refused
    else if maxAttempts ≤ row.attempts then .discarding
    else .comparing row.code

def serve (account : Account) : Action → Option (Account × List Event)
  | .forgotPassword now => some (account.issue now, [])
  | .resetPassword => some ({ account with requests := account.requests ++ [.reading] }, [])
  | .select index now =>
    match account.requests[index]? with
    | some .reading =>
      some ({ account with
        requests := account.requests.set index (Request.check now account.token) }, [])
    | _ => none
  | .discard index =>
    match account.requests[index]? with
    | some .discarding =>
      some ({ account with token := none, requests := account.requests.set index .refused }, [])
    | _ => none
  | .compare index valid =>
    match account.requests[index]? with
    | some (.comparing code) =>
      let next : Request := if valid then .resetting code else .failing code
      some ({ account with requests := account.requests.set index next }, [.compared code valid])
    | _ => none
  | .count index =>
    match account.requests[index]? with
    | some (.failing _) =>
      some ({ account with
        token := account.token.map fun row => { row with attempts := row.attempts + 1 }
        requests := account.requests.set index .refused }, [])
    | _ => none
  | .transact index =>
    match account.requests[index]? with
    | some (.resetting code) =>
      some ({ account with
        token := none
        requests := account.requests.set index (.succeeded code) }, [.reset code])
    | _ => none

end Model

section Purpose

/-- Wrong guesses compared with a code. -/
def wrongGuesses (code : Nat) (history : List Event) : Nat :=
  history.count (.compared code false)

/-- Passwords reset with a code. -/
def resets (code : Nat) (history : List Event) : Nat := history.count (.reset code)

end Purpose

section Condition

/-- Requests that are just there. -/
def among (request : Request) (requests : List Request) : Nat :=
  shares (fun other => if other = request then 1 else 0) requests

/-- Guesses of a code that its row has not counted yet. -/
def uncounted (code : Nat) (requests : List Request) : Nat :=
  among (.comparing code) requests + among (.failing code) requests

/-- A row that is good for a guess has room for those not yet counted and one more. -/
def TokenRow.roomy (requests : List Request) (now : Time) (row : TokenRow) : Bool :=
  decide (row.expiresAt ≤ now ∨ maxAttempts ≤ row.attempts ∨
    row.attempts + uncounted row.code requests < maxAttempts)

/-- No other request has guessed the code. -/
def Request.first (requests : List Request) : Request → Bool
  | .comparing code =>
    decide (among (.resetting code) requests = 0 ∧ among (.succeeded code) requests = 0)
  | _ => true

/-- The row is read while it has room, and one guess of a code is found right. -/
def Unraced (account : Account) : Action → Prop
  | .select _ now => account.token.all (TokenRow.roomy account.requests now) = true
  | .compare index true => (account.requests[index]?).all (Request.first account.requests) = true
  | _ => True

instance (account : Account) : (action : Action) → Decidable (Unraced account action)
  | .select _ _ | .compare _ true => inferInstanceAs (Decidable (_ = _))
  | .forgotPassword _ | .resetPassword | .discard _ | .compare _ false | .count _ | .transact _ =>
    inferInstanceAs (Decidable True)

end Condition

section Steps

/-- What a step does, with the condition on it. -/
inductive Stepped (account : Account) : List Event → Account → Prop
  | issued (now : Time) : Stepped account [] (account.issue now)
  | joined : Stepped account [] { account with requests := account.requests ++ [.reading] }
  | turned (index : Nat) (moved : Request) (stored : account.requests[index]? = some .reading)
    (away : moved = .refused ∨ moved = .discarding) :
    Stepped account [] { account with requests := account.requests.set index moved }
  | read (index : Nat) (row : TokenRow) (stored : account.requests[index]? = some .reading)
    (found : account.token = some row)
    (room : row.attempts + uncounted row.code account.requests < maxAttempts) :
    Stepped account [] { account with requests := account.requests.set index (.comparing row.code) }
  | discarded (index : Nat) (stored : account.requests[index]? = some .discarding) :
    Stepped account []
      { account with token := none, requests := account.requests.set index .refused }
  | wrong (index : Nat) (code : Nat) (stored : account.requests[index]? = some (.comparing code)) :
    Stepped account [.compared code false]
      { account with requests := account.requests.set index (.failing code) }
  | right (index : Nat) (code : Nat) (stored : account.requests[index]? = some (.comparing code))
    (unused : among (.resetting code) account.requests = 0 ∧
      among (.succeeded code) account.requests = 0) :
    Stepped account [.compared code true]
      { account with requests := account.requests.set index (.resetting code) }
  | counted (index : Nat) (code : Nat) (stored : account.requests[index]? = some (.failing code)) :
    Stepped account []
      { account with
        token := account.token.map fun row => { row with attempts := row.attempts + 1 }
        requests := account.requests.set index .refused }
  | used (index : Nat) (code : Nat) (stored : account.requests[index]? = some (.resetting code)) :
    Stepped account [.reset code]
      { account with token := none, requests := account.requests.set index (.succeeded code) }

variable {account next : Account} {observed : List Event} {index : Nat}

/-- A SELECT that was sent reads the token of that time. -/
theorem select_inv {now : Time} (taken : serve account (.select index now) = some (next, observed)) :
    account.requests[index]? = some .reading ∧ observed = [] ∧
      next = { account with
        requests := account.requests.set index (Request.check now account.token) } := by
  simp only [serve] at taken
  split at taken
  case h_2 => cases taken
  case h_1 stored =>
    cases taken
    exact ⟨stored, rfl, rfl⟩

/-- A comparison ends with its answer in the history. -/
theorem compare_inv {valid : Bool}
    (taken : serve account (.compare index valid) = some (next, observed)) :
    ∃ code, account.requests[index]? = some (.comparing code) ∧ observed = [.compared code valid] ∧
      next = { account with
        requests := account.requests.set index
          (if valid then .resetting code else .failing code) } := by
  simp only [serve] at taken
  split at taken
  case h_2 => cases taken
  case h_1 code stored =>
    cases taken
    exact ⟨code, stored, rfl, rfl⟩

/-- A request that reads the row is sent away, or takes the code of a row that is good. -/
theorem check_cases (now : Time) (token : Option TokenRow) :
    (Request.check now token = .refused ∨ Request.check now token = .discarding) ∨
      ∃ row, token = some row ∧ Request.check now token = .comparing row.code ∧
        now < row.expiresAt ∧ row.attempts < maxAttempts := by
  cases token with
  | none => exact .inl (.inl rfl)
  | some row =>
    by_cases good : now < row.expiresAt
    · by_cases spent : maxAttempts ≤ row.attempts
      · exact .inl (.inr (by simp [Request.check, good, spent]))
      · exact .inr ⟨row, rfl, by simp [Request.check, good, spent], good, Nat.lt_of_not_le spent⟩
    · exact .inl (.inl (by simp [Request.check, good]))

/-- A step is one of these. -/
theorem stepped (taken : takes serve Unraced account observed next) : Stepped account observed next := by
  obtain ⟨action, unraced, taken⟩ := taken
  cases action with
  | forgotPassword now =>
    simp only [serve, Option.some.injEq, Prod.mk.injEq] at taken
    obtain ⟨rfl, rfl⟩ := taken
    exact .issued now
  | resetPassword =>
    simp only [serve, Option.some.injEq, Prod.mk.injEq] at taken
    obtain ⟨rfl, rfl⟩ := taken
    exact .joined
  | select index now =>
    obtain ⟨stored, rfl, rfl⟩ := select_inv taken
    rcases check_cases now account.token with away | ⟨row, found, comparing, good, unspent⟩
    · exact .turned index _ stored away
    · rw [comparing]
      have roomy : row.expiresAt ≤ now ∨ maxAttempts ≤ row.attempts ∨
          row.attempts + uncounted row.code account.requests < maxAttempts := by
        simpa [Unraced, found, TokenRow.roomy] using unraced
      rcases roomy with expired | spent | room
      · exact absurd good (Int.not_lt.mpr expired)
      · exact absurd spent (Nat.not_le_of_lt unspent)
      · exact .read index row stored found room
  | discard index =>
    simp only [serve] at taken
    split at taken
    case h_2 => cases taken
    case h_1 stored =>
      simp only [Option.some.injEq, Prod.mk.injEq] at taken
      obtain ⟨rfl, rfl⟩ := taken
      exact .discarded index stored
  | compare index valid =>
    obtain ⟨code, stored, rfl, rfl⟩ := compare_inv taken
    cases valid with
    | false => exact .wrong index code stored
    | true =>
      have unused : among (.resetting code) account.requests = 0 ∧
          among (.succeeded code) account.requests = 0 := by
        simpa [Unraced, stored, Request.first] using unraced
      exact .right index code stored unused
  | count index =>
    simp only [serve] at taken
    split at taken
    case h_2 => cases taken
    case h_1 code stored =>
      simp only [Option.some.injEq, Prod.mk.injEq] at taken
      obtain ⟨rfl, rfl⟩ := taken
      exact .counted index code stored
  | transact index =>
    simp only [serve] at taken
    split at taken
    case h_2 => cases taken
    case h_1 code stored =>
      simp only [Option.some.injEq, Prod.mk.injEq] at taken
      obtain ⟨rfl, rfl⟩ := taken
      exact .used index code stored

/-- One more request. -/
theorem among_append (request joined : Request) (requests : List Request) :
    among request (requests ++ [joined]) =
      among request requests + if joined = request then 1 else 0 :=
  shares_append joined

/-- A request that moves leaves one count and joins another. -/
theorem among_set {requests : List Request} {index : Nat} {moving : Request}
    (request moved : Request) (stored : requests[index]? = some moving) :
    among request (requests.set index moved) + (if moving = request then 1 else 0) =
      among request requests + if moved = request then 1 else 0 :=
  shares_set moved stored

/-- All other counts stay. -/
theorem among_other {requests : List Request} {index : Nat} {moving moved request : Request}
    (stored : requests[index]? = some moving) (left : moving ≠ request) (joined : moved ≠ request) :
    among request (requests.set index moved) = among request requests := by
  simpa [left, joined] using among_set request moved stored

/-- Where it left there is one less. -/
theorem among_left {requests : List Request} {index : Nat} {moving moved : Request}
    (stored : requests[index]? = some moving) (different : moved ≠ moving) :
    among moving (requests.set index moved) + 1 = among moving requests := by
  simpa [different] using among_set moving moved stored

/-- Where it joined there is one more. -/
theorem among_joined {requests : List Request} {index : Nat} {moving moved : Request}
    (stored : requests[index]? = some moving) (different : moving ≠ moved) :
    among moved (requests.set index moved) = among moved requests + 1 := by
  simpa [different] using among_set moved moved stored

/-- One more event. -/
theorem wrongGuesses_append (code : Nat) (history : List Event) (event : Event) :
    wrongGuesses code (history ++ [event]) =
      wrongGuesses code history + if event = .compared code false then 1 else 0 := by
  simp [wrongGuesses, List.count_append, List.count_singleton]

/-- The same of resets. -/
theorem resets_append (code : Nat) (history : List Event) (event : Event) :
    resets code (history ++ [event]) = resets code history + if event = .reset code then 1 else 0 := by
  simp [resets, List.count_append, List.count_singleton]

end Steps

section Guesses

variable {history : List Event} {account : Account}

/-- What bounds the wrong guesses of each code. -/
structure Limited (history : List Event) (account : Account) : Prop where
  guesses : ∀ code, wrongGuesses code history + among (.comparing code) account.requests ≤
    maxAttempts
  stored : ∀ row, account.token = some row → row.code < account.issued ∧
    wrongGuesses row.code history ≤ row.attempts + among (.failing row.code) account.requests
  fresh : ∀ code, account.issued ≤ code → wrongGuesses code history = 0 ∧
    among (.comparing code) account.requests = 0

/-- A step that compares nothing wrong, and adds no request that holds a code, keeps the
bounds as long as the row keeps its own. -/
theorem limited_quiet {next : Account} {observed : List Event} (limited : Limited history account)
    (silent : ∀ code, wrongGuesses code (history ++ observed) = wrongGuesses code history)
    (issued : account.issued ≤ next.issued)
    (holding : ∀ code, among (.comparing code) next.requests ≤ among (.comparing code) account.requests)
    (stored : ∀ row, next.token = some row → row.code < next.issued ∧
      wrongGuesses row.code history ≤ row.attempts + among (.failing row.code) next.requests) :
    Limited (history ++ observed) next := by
  refine ⟨fun code => ?_, fun row found => silent row.code ▸ stored row found,
    fun code unissued => ?_⟩
  · have bound := limited.guesses code
    have fewer := holding code
    rw [silent]
    omega
  · have unused := limited.fresh code (Nat.le_trans issued unissued)
    have fewer := holding code
    rw [silent]
    exact ⟨unused.1, by omega⟩

/-- A read takes one of the guesses for which the row has room. -/
theorem read_limited {index : Nat} {row : TokenRow} (limited : Limited history account)
    (stored : account.requests[index]? = some .reading) (found : account.token = some row)
    (room : row.attempts + uncounted row.code account.requests < maxAttempts) :
    Limited history
      { account with requests := account.requests.set index (.comparing row.code) } := by
  have ofRow := limited.stored row found
  have failing : ∀ code, among (.failing code) (account.requests.set index (.comparing row.code)) =
      among (.failing code) account.requests :=
    fun code => among_other stored (by simp) (by simp)
  have comparing : ∀ code, code ≠ row.code →
      among (.comparing code) (account.requests.set index (.comparing row.code)) =
        among (.comparing code) account.requests :=
    fun code different => among_other stored (by simp) (by simpa using Ne.symm different)
  refine ⟨fun code => ?_, ?_, fun code unissued => ?_⟩
  · by_cases same : code = row.code
    · have one : among (.comparing row.code) (account.requests.set index (.comparing row.code)) =
          among (.comparing row.code) account.requests + 1 := among_joined stored (by simp)
      rw [same, one]
      simp only [uncounted] at room
      omega
    · rw [comparing code same]
      exact limited.guesses code
  · intro other still
    rw [failing]
    exact limited.stored other still
  · have later : code ≠ row.code := Nat.ne_of_gt (Nat.lt_of_lt_of_le ofRow.1 unissued)
    rw [comparing code later]
    exact limited.fresh code unissued

/-- A wrong guess is one comparison less to come, and one to be counted. -/
theorem wrong_limited {index : Nat} {code : Nat} (limited : Limited history account)
    (stored : account.requests[index]? = some (.comparing code)) :
    Limited (history ++ [.compared code false])
      { account with requests := account.requests.set index (.failing code) } := by
  have left : among (.comparing code) (account.requests.set index (.failing code)) + 1 =
      among (.comparing code) account.requests := among_left stored (by simp)
  have joined : among (.failing code) (account.requests.set index (.failing code)) =
      among (.failing code) account.requests + 1 := among_joined stored (by simp)
  have comparing : ∀ other, other ≠ code →
      among (.comparing other) (account.requests.set index (.failing code)) =
        among (.comparing other) account.requests :=
    fun other different => among_other stored (by simpa using Ne.symm different) (by simp)
  have failing : ∀ other, other ≠ code →
      among (.failing other) (account.requests.set index (.failing code)) =
        among (.failing other) account.requests :=
    fun other different => among_other stored (by simp) (by simpa using Ne.symm different)
  refine ⟨fun other => ?_, fun row found => ?_, fun other unissued => ?_⟩
  · have bound := limited.guesses other
    rw [wrongGuesses_append]
    by_cases same : other = code
    · subst same
      simp
      omega
    · simpa [comparing other same, Ne.symm same] using bound
  · obtain ⟨known, bound⟩ := limited.stored row found
    refine ⟨known, ?_⟩
    rw [wrongGuesses_append]
    by_cases same : row.code = code
    · rw [same] at bound ⊢
      simp
      omega
    · simpa [failing _ same, Ne.symm same] using bound
  · obtain ⟨unused, none⟩ := limited.fresh other unissued
    have same : other ≠ code := by
      rintro rfl
      omega
    rw [wrongGuesses_append]
    exact ⟨by simpa [Ne.symm same] using unused, (comparing other same).trans none⟩

/-- A step keeps the wrong guesses within the limit. -/
theorem step_limited {next : Account} {observed : List Event} (limited : Limited history account)
    (taken : Stepped account observed next) : Limited (history ++ observed) next := by
  cases taken with
  | issued now =>
    refine limited_quiet limited (by simp) (Nat.le_succ _) (fun _ => Nat.le_refl _) ?_
    rintro row ⟨⟩
    exact ⟨Nat.lt_succ_self _, by rw [(limited.fresh _ (Nat.le_refl _)).1]; exact Nat.zero_le _⟩
  | joined =>
    refine limited_quiet limited (by simp) (Nat.le_refl _) (fun code => ?_) (fun row found => ?_)
    · simp [among_append]
    · simpa [among_append] using limited.stored row found
  | turned index moved stored away =>
    have held : ∀ code, moved ≠ .comparing code ∧ moved ≠ .failing code := by
      rcases away with rfl | rfl <;> simp
    refine limited_quiet limited (by simp) (Nat.le_refl _) (fun code => ?_) (fun row found => ?_)
    · exact Nat.le_of_eq (among_other stored (by simp) (held code).1)
    · rw [among_other stored (by simp) (held _).2]
      exact limited.stored row found
  | read index row stored found room =>
    rw [List.append_nil]
    exact read_limited limited stored found room
  | discarded index stored =>
    refine limited_quiet limited (by simp) (Nat.le_refl _) (fun code => ?_) (by simp)
    exact Nat.le_of_eq (among_other stored (by simp) (by simp))
  | wrong index code stored => exact wrong_limited limited stored
  | right index code stored unused =>
    have silent : ∀ other, wrongGuesses other (history ++ [.compared code true]) =
        wrongGuesses other history := by simp [wrongGuesses_append]
    refine limited_quiet limited silent (Nat.le_refl _) (fun other => ?_) (fun row found => ?_)
    · have moved := among_set (.comparing other) (.resetting code) stored
      simp at moved
      dsimp only
      omega
    · rw [among_other stored (by simp) (by simp)]
      exact limited.stored row found
  | counted index code stored =>
    refine limited_quiet limited (by simp) (Nat.le_refl _) (fun other => ?_) ?_
    · exact Nat.le_of_eq (among_other stored (by simp) (by simp))
    · intro row found
      obtain ⟨old, there, rfl⟩ := Option.map_eq_some_iff.mp found
      obtain ⟨known, bound⟩ := limited.stored old there
      have moved := among_set (.failing old.code) .refused stored
      refine ⟨known, ?_⟩
      simp at moved ⊢
      split at moved <;> omega
  | used index code stored =>
    have silent : ∀ other, wrongGuesses other (history ++ [.reset code]) =
        wrongGuesses other history := by simp [wrongGuesses_append]
    refine limited_quiet limited silent (Nat.le_refl _) (fun other => ?_) (by simp)
    exact Nat.le_of_eq (among_other stored (by simp) (by simp))

end Guesses

section Successes

variable {history : List Event} {account : Account}

/-- At most one right guess of a code is on its way to a reset or has been used for one. -/
structure Single (history : List Event) (account : Account) : Prop where
  done : ∀ code, resets code history = among (.succeeded code) account.requests
  once : ∀ code, among (.resetting code) account.requests + among (.succeeded code) account.requests ≤ 1

/-- A step of a request that neither has a right guess nor gets one changes nothing. -/
theorem single_quiet {next : Account} {observed : List Event} (single : Single history account)
    (silent : ∀ code, resets code (history ++ observed) = resets code history)
    (resetting : ∀ code, among (.resetting code) next.requests = among (.resetting code) account.requests)
    (succeeded : ∀ code, among (.succeeded code) next.requests = among (.succeeded code) account.requests) :
    Single (history ++ observed) next := by
  constructor
  · intro code
    rw [silent, succeeded]
    exact single.done code
  · intro code
    rw [resetting, succeeded]
    exact single.once code

/-- A step keeps the resets of a code single. -/
theorem step_single {next : Account} {observed : List Event} (single : Single history account)
    (taken : Stepped account observed next) : Single (history ++ observed) next := by
  cases taken with
  | issued now => exact single_quiet single (by simp) (fun _ => rfl) (fun _ => rfl)
  | joined =>
    exact single_quiet single (by simp) (by simp [among_append]) (by simp [among_append])
  | turned index moved stored away =>
    have held : ∀ code, moved ≠ .resetting code ∧ moved ≠ .succeeded code := by
      rcases away with rfl | rfl <;> simp
    exact single_quiet single (by simp)
      (fun code => among_other stored (by simp) (held code).1)
      (fun code => among_other stored (by simp) (held code).2)
  | read index row stored found room =>
    exact single_quiet single (by simp) (fun _ => among_other stored (by simp) (by simp))
      (fun _ => among_other stored (by simp) (by simp))
  | discarded index stored =>
    exact single_quiet single (by simp) (fun _ => among_other stored (by simp) (by simp))
      (fun _ => among_other stored (by simp) (by simp))
  | wrong index code stored =>
    exact single_quiet single (by simp [resets_append])
      (fun _ => among_other stored (by simp) (by simp))
      (fun _ => among_other stored (by simp) (by simp))
  | counted index code stored =>
    exact single_quiet single (by simp) (fun _ => among_other stored (by simp) (by simp))
      (fun _ => among_other stored (by simp) (by simp))
  | right index code stored unused =>
    have succeeded : ∀ other, among (.succeeded other)
        (account.requests.set index (.resetting code)) = among (.succeeded other) account.requests :=
      fun other => among_other stored (by simp) (by simp)
    constructor
    · intro other
      rw [resets_append, succeeded]
      simpa using single.done other
    · intro other
      have moved := among_set (.resetting other) (.resetting code) stored
      have bound := single.once other
      rw [succeeded]
      by_cases same : code = other
      · subst same
        simp at moved
        dsimp only
        omega
      · simp [same] at moved
        dsimp only
        omega
  | used index code stored =>
    constructor
    · intro other
      have moved := among_set (.succeeded other) (.succeeded code) stored
      rw [resets_append, single.done other]
      simp at moved ⊢
      omega
    · intro other
      have joined := among_set (.succeeded other) (.succeeded code) stored
      have left := among_set (.resetting other) (.succeeded code) stored
      have bound := single.once other
      simp at joined left
      dsimp only
      omega

end Successes

section Claims

variable {history : List Event} {account : Account}

/-- An account begins without guesses. -/
theorem registered_limited : Limited [] Account.registered := by
  refine ⟨fun code => Nat.zero_le _, ?_, fun code _ => ⟨rfl, rfl⟩⟩
  rintro row ⟨⟩

/-- A run keeps both. -/
theorem run_limited (run : Run (takes serve Unraced) Account.registered history account) :
    Limited history account ∧ Single history account :=
  run.invariant (fun history account => Limited history account ∧ Single history account)
    ⟨registered_limited, fun _ => rfl, fun _ => Nat.zero_le _⟩
    (fun _ holds taken => ⟨step_limited holds.1 (stepped taken), step_single holds.2 (stepped taken)⟩)

/-- Whenever no step has raced, each code has been guessed wrong no more often than allowed, and
has been used once at most. -/
theorem codes_limited (run : Run (takes serve Unraced) Account.registered history account)
    (code : Nat) : wrongGuesses code history ≤ maxAttempts ∧ resets code history ≤ 1 := by
  obtain ⟨limited, single⟩ := run_limited run
  have guesses := limited.guesses code
  have once := single.once code
  have done := single.done code
  omega

end Claims

section Necessity

variable {history : List Event} {account : Account}

/-- Someone is counted. -/
theorem exists_among {request : Request} {requests : List Request}
    (there : among request requests ≠ 0) : ∃ index : Nat, requests[index]? = some request := by
  obtain ⟨other, member, counted⟩ := exists_share (Nat.pos_of_ne_zero there)
  have same : other = request := by
    by_cases same : other = request
    · exact same
    · simp [same] at counted
  exact List.mem_iff_getElem?.mp (same ▸ member)

/-- The transaction asks for nothing. -/
theorem resetting_uses {index : Nat} {code : Nat}
    (stored : account.requests[index]? = some (.resetting code)) :
    takes serve anyAction account [.reset code]
      { account with token := none, requests := account.requests.set index (.succeeded code) } :=
  ⟨.transact index, trivial, by simp [serve, stored]⟩

/-- A guess that is right while another one is, or has been used, can be used as well. -/
theorem second_success {index : Nat} {next : Account} {observed : List Event}
    (run : Run (takes serve Unraced) Account.registered history account)
    (taken : serve account (.compare index true) = some (next, observed))
    (raced : ¬ Unraced account (.compare index true)) :
    ∃ code later final, Run (takes serve anyAction) next later final ∧
      1 < resets code (history ++ observed ++ later) := by
  have done := (run_limited run).2.done
  obtain ⟨code, stored, rfl, rfl⟩ := compare_inv taken
  have second : (account.requests.set index (.resetting code))[index]? = some (.resetting code) :=
    set_moved _ stored
  by_cases used : among (.succeeded code) account.requests = 0
  · have waiting : among (.resetting code) account.requests ≠ 0 := by
      intro none
      exact raced (by simp [Unraced, stored, Request.first, used, none])
    obtain ⟨position, found⟩ := exists_among waiting
    have first : (account.requests.set index (.resetting code))[position]? =
        some (.resetting code) := set_other _ stored found (by simp)
    have away : index ≠ position := by
      rintro rfl
      simp [stored] at found
    have still : ((account.requests.set index (.resetting code)).set position
        (.succeeded code))[index]? = some (.resetting code) := by
      rw [List.getElem?_set_ne (Ne.symm away)]
      exact second
    refine ⟨code, _, _, (Run.start.step (resetting_uses first)).step (resetting_uses still), ?_⟩
    simp [resets, List.count_append]
  · refine ⟨code, _, _, Run.start.step (resetting_uses second), ?_⟩
    have once : List.count (.reset code) history = among (.succeeded code) account.requests :=
      done code
    simp only [resets, List.count_append, List.append_assoc, once]
    simp
    omega

/-- As long as one code has been issued, its row counts no guess of another. -/
structure Sole (history : List Event) (account : Account) : Prop where
  counted : account.issued ≤ 1 → ∀ row, account.token = some row →
    row.attempts + among (.failing row.code) account.requests ≤ wrongGuesses row.code history
  held : ∀ code, account.issued ≤ code → among (.failing code) account.requests = 0

/-- A step that neither counts, compares nor issues leaves it so. -/
theorem sole_quiet {next : Account} {observed : List Event} (sole : Sole history account)
    (silent : ∀ code, wrongGuesses code (history ++ observed) = wrongGuesses code history)
    (issued : next.issued = account.issued)
    (token : ∀ row, next.token = some row → account.token = some row)
    (failing : ∀ code, among (.failing code) next.requests = among (.failing code) account.requests) :
    Sole (history ++ observed) next := by
  constructor
  · intro only row found
    rw [silent, failing]
    exact sole.counted (issued ▸ only) row (token row found)
  · intro code unissued
    rw [failing]
    exact sole.held code (issued ▸ unissued)

/-- A step counts no guess of another code. -/
theorem step_sole {next : Account} {observed : List Event} (limited : Limited history account)
    (sole : Sole history account) (taken : Stepped account observed next) :
    Sole (history ++ observed) next := by
  cases taken with
  | issued now =>
    constructor
    · rintro only row ⟨⟩
      have none := sole.held account.issued (Nat.le_refl _)
      exact Nat.le_trans (Nat.le_of_eq ((Nat.zero_add _).trans none)) (Nat.zero_le _)
    · intro code unissued
      exact sole.held code (Nat.le_of_succ_le unissued)
  | joined => exact sole_quiet sole (by simp) rfl (fun _ found => found) (by simp [among_append])
  | turned index moved stored away =>
    have held : ∀ code, moved ≠ .failing code := by rcases away with rfl | rfl <;> simp
    exact sole_quiet sole (by simp) rfl (fun _ found => found)
      (fun code => among_other stored (by simp) (held code))
  | read index row stored found room =>
    exact sole_quiet sole (by simp) rfl (fun _ found => found)
      (fun _ => among_other stored (by simp) (by simp))
  | discarded index stored =>
    exact sole_quiet sole (by simp) rfl (by simp) (fun _ => among_other stored (by simp) (by simp))
  | right index code stored unused =>
    exact sole_quiet sole (by simp [wrongGuesses_append]) rfl (fun _ found => found)
      (fun _ => among_other stored (by simp) (by simp))
  | used index code stored =>
    exact sole_quiet sole (by simp [wrongGuesses_append]) rfl (by simp)
      (fun _ => among_other stored (by simp) (by simp))
  | wrong index code stored =>
    have left : among (.comparing code) (account.requests.set index (.failing code)) + 1 =
        among (.comparing code) account.requests := among_left stored (by simp)
    have joined : among (.failing code) (account.requests.set index (.failing code)) =
        among (.failing code) account.requests + 1 := among_joined stored (by simp)
    have issued : code < account.issued := by
      apply Nat.lt_of_not_le
      intro unissued
      have none := (limited.fresh code unissued).2
      omega
    constructor
    · intro only row found
      have known := (limited.stored row found).1
      have before := sole.counted only row found
      have same : row.code = code := by
        dsimp only at only
        omega
      rw [wrongGuesses_append]
      rw [same] at before ⊢
      simp
      omega
    · intro other unissued
      have different : code ≠ other := Nat.ne_of_lt (Nat.lt_of_lt_of_le issued unissued)
      have still : among (.failing other) (account.requests.set index (.failing code)) =
          among (.failing other) account.requests := among_other stored (by simp) (by simpa)
      exact still.trans (sole.held other unissued)
  | counted index code stored =>
    have left : among (.failing code) (account.requests.set index .refused) + 1 =
        among (.failing code) account.requests := among_left stored (by simp)
    have issued : code < account.issued := by
      apply Nat.lt_of_not_le
      intro unissued
      have none := sole.held code unissued
      omega
    constructor
    · intro only row found
      obtain ⟨old, there, rfl⟩ := Option.map_eq_some_iff.mp found
      have known := (limited.stored old there).1
      have before := sole.counted only old there
      have same : old.code = code := by
        dsimp only at only
        omega
      rw [List.append_nil]
      dsimp only
      rw [same] at before ⊢
      omega
    · intro other unissued
      have different : code ≠ other := Nat.ne_of_lt (Nat.lt_of_lt_of_le issued unissued)
      have still : among (.failing other) (account.requests.set index .refused) =
          among (.failing other) account.requests := among_other stored (by simpa) (by simp)
      exact still.trans (sole.held other unissued)

/-- Nor does a run. -/
theorem run_sole (run : Run (takes serve Unraced) Account.registered history account) :
    Sole history account := by
  have initially : Sole [] Account.registered := by
    refine ⟨fun _ row found => ?_, fun _ _ => rfl⟩
    cases found
  exact run.invariant Sole initially
    (fun before sole taken => step_sole (run_limited before).1 sole (stepped taken))

/-- Every comparison under way may turn out wrong. -/
theorem all_wrong (code : Nat) (account : Account) :
    ∃ later final, Run (takes serve anyAction) account later final ∧
      wrongGuesses code later = among (.comparing code) account.requests := by
  induction count : among (.comparing code) account.requests generalizing account with
  | zero => exact ⟨[], account, .start, rfl⟩
  | succ rest inductionHypothesis =>
    have there : among (.comparing code) account.requests ≠ 0 := by omega
    obtain ⟨index, stored⟩ := exists_among there
    have left : among (.comparing code) (account.requests.set index (.failing code)) + 1 =
        among (.comparing code) account.requests := among_left stored (by simp)
    obtain ⟨later, final, run, guesses⟩ := inductionHypothesis
      { account with requests := account.requests.set index (.failing code) } (by
        dsimp only
        omega)
    have taken : takes serve anyAction account [.compared code false]
        { account with requests := account.requests.set index (.failing code) } :=
      ⟨.compare index false, trivial, by simp [serve, stored]⟩
    refine ⟨_, final, Run.after taken run, ?_⟩
    simp only [wrongGuesses, List.count_append] at guesses ⊢
    simp [guesses, Nat.add_comm]

/-- While one code only has been issued, a read without room may lead to one wrong guess too
many. -/
theorem crowded_exceeds {index : Nat} {now : Time} {next : Account} {observed : List Event}
    (run : Run (takes serve Unraced) Account.registered history account)
    (only : account.issued ≤ 1) (taken : serve account (.select index now) = some (next, observed))
    (raced : ¬ Unraced account (.select index now)) :
    ∃ code later final, Run (takes serve anyAction) next later final ∧
      maxAttempts < wrongGuesses code (history ++ observed ++ later) := by
  cases found : account.token with
  | none => exact absurd (by simp [Unraced, found]) raced
  | some row =>
    obtain ⟨good, unspent, crowded⟩ : now < row.expiresAt ∧ row.attempts < maxAttempts ∧
        maxAttempts ≤ row.attempts + uncounted row.code account.requests := by
      simpa [Unraced, found, TokenRow.roomy] using raced
    have counted := (run_sole run).counted only row found
    obtain ⟨stored, rfl, rfl⟩ := select_inv taken
    have reads : Request.check now account.token = .comparing row.code := by
      simp [found, Request.check, good, Nat.not_le_of_lt unspent]
    rw [reads]
    obtain ⟨later, final, continued, guesses⟩ := all_wrong row.code
      { account with requests := account.requests.set index (.comparing row.code) }
    have joined : among (.comparing row.code) (account.requests.set index (.comparing row.code)) =
        among (.comparing row.code) account.requests + 1 := among_joined stored (by simp)
    refine ⟨row.code, later, final, continued, ?_⟩
    simp only [wrongGuesses, uncounted, List.append_nil, List.count_append] at *
    omega

end Necessity

section Sample

/-- Requests one after the other guess a code wrong. -/
def wrongGuess (index : Nat) : List Action :=
  [.resetPassword, .select index 0, .compare index false, .count index]

/-- Four wrong guesses and the right one, each after the last. -/
theorem codes_limited_sequence :
    ∃ history account, Run (takes serve Unraced) Account.registered history account ∧
      wrongGuesses 0 history = 4 ∧ resets 0 history = 1 ∧
      ∀ code, wrongGuesses code history ≤ maxAttempts ∧ resets code history ≤ 1 := by
  have run : Run (takes serve Unraced) Account.registered _ _ :=
    run_of_restricted (.forgotPassword 0 :: (List.range 4).flatMap wrongGuess ++
      [.resetPassword, .select 4 0, .compare 4 true, .transact 4]) rfl
  exact ⟨_, _, run, rfl, rfl, codes_limited run⟩

/-- So many requests read the row of one code before the first of them goes on. -/
def readers (requests : Nat) : List Action :=
  .forgotPassword 0 :: List.replicate requests .resetPassword ++
    (List.range requests).map fun index => .select index 0

/-- Six requests that read the row in time guess wrong, and two that do guess right. -/
theorem parallel_guesses :
    (∃ history account, Run (takes serve anyAction) Account.registered history account ∧
      wrongGuesses 0 history = 6) ∧
    ∃ history account, Run (takes serve anyAction) Account.registered history account ∧
      resets 0 history = 2 := by
  have wrong : Run (takes serve anyAction) Account.registered _ _ :=
    run_of_schedule (readers 6 ++ (List.range 6).map fun index => .compare index false) rfl
  have right : Run (takes serve anyAction) Account.registered _ _ :=
    run_of_schedule (readers 2 ++ [.compare 0 true, .compare 1 true, .transact 0, .transact 1]) rfl
  exact ⟨⟨_, _, wrong, rfl⟩, _, _, right, rfl⟩

end Sample

end PlanBuddy.ResetCodes
