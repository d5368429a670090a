import PlanBuddy.TokenBucket

/-!
# Concurrent calls on one bucket

`acquireRateLimit` runs the function in a transaction of its own, whose `NOW()` is the
time it began. Calls wait for the lock of the row, and get it in any order: the row may
have been refilled up to a later time than the one a call goes by. The elapsed time is
then negative, takes tokens away instead of adding them, and moves `last_refill_at` back.
-/

namespace PlanBuddy.RateLimits

section Server

/-- A call that has begun and not yet been served. -/
structure Transaction where
  needed : Rat
  /-- Its `NOW()`. -/
  startedAt : Timestamp
deriving DecidableEq

structure Server where
  clock : Timestamp
  row : RateLimitBucket
  transactions : List Transaction
deriving DecidableEq

inductive Action
  | pass (elapsed : Nat)
  | begin (needed : Rat)
  /-- The transaction at an index gets the lock, and commits. -/
  | serve (index : Nat)
  /-- The connection is lost, or the statement times out. -/
  | rollback (index : Nat)

/-- What is observed are the committed states of the row. -/
def act (server : Server) : Action → Option (Server × List RateLimitBucket)
  | .pass elapsed => some ({ server with clock := server.clock + elapsed }, [])
  | .begin needed =>
    some ({ server with transactions := server.transactions ++ [⟨needed, server.clock⟩] }, [])
  | .serve index => do
    let call ← server.transactions[index]?
    let row ← (atomicTokenDeduct call.needed call.startedAt (some server.row)).1
    some ({ server with row, transactions := server.transactions.eraseIdx index }, [row])
  | .rollback index => do
    let _ ← server.transactions[index]?
    some ({ server with transactions := server.transactions.eraseIdx index }, [])

end Server

section Range

structure InRange (row : RateLimitBucket) : Prop where
  nonneg : 0 ≤ row.tokens
  within : row.tokens ≤ row.capacity

/-- A call does not look back: it is turned away before it computes the refill, or the
row was last refilled no later than the call began. What it asks for, where that is
negative, fits into the bucket. -/
def LooksAhead (call : Transaction) (row : RateLimitBucket) : Prop :=
  row.penalised call.startedAt = true ∨
    row.lastRefillAt ≤ call.startedAt ∧
      (0 ≤ call.needed ∨
        row.tokens + secondsBetween row.lastRefillAt call.startedAt * row.refillRatePerSec ≤
          row.capacity + call.needed)

instance (call : Transaction) (row : RateLimitBucket) : Decidable (LooksAhead call row) :=
  inferInstanceAs (Decidable (_ ∨ _ ∧ (_ ∨ _)))

variable {call : Transaction} {row next : RateLimitBucket} {allowed : Bool}

/-- Time that runs forward is not negative. -/
theorem secondsBetween_nonneg {earlier later : Timestamp} (ordered : earlier ≤ later) :
    0 ≤ secondsBetween earlier later := by
  unfold secondsBetween
  have difference : (0 : Rat) ≤ ((later - earlier : Int) : Rat) := by
    exact_mod_cast Int.sub_nonneg_of_le ordered
  linarith

/-- A refill that looks ahead takes nothing away. -/
theorem newTokens_nonneg {now : Timestamp} (rate : 0 ≤ row.refillRatePerSec)
    (inRange : InRange row) (ordered : row.lastRefillAt ≤ now) : 0 ≤ row.newTokens now := by
  have refill : 0 ≤ secondsBetween row.lastRefillAt now * row.refillRatePerSec :=
    mul_nonneg (secondsBetween_nonneg ordered) rate
  have held := inRange.nonneg
  have within := inRange.within
  exact le_min (by linarith) (by linarith)

/-- Both bounds and the order of the refills, on the side where they hold. -/
theorem draws_inRange (rate : 0 ≤ row.refillRatePerSec) (inRange : InRange row)
    (ahead : LooksAhead call row)
    (draws : Draws call.needed call.startedAt row next allowed) :
    InRange next ∧ row.lastRefillAt ≤ next.lastRefillAt := by
  cases draws with
  | penalised waits => exact ⟨inRange, le_refl _⟩
  | throttled served short =>
    obtain ⟨ordered, -⟩ := ahead.resolve_left (by simp [served])
    exact ⟨⟨newTokens_nonneg rate inRange ordered, newTokens_capacity⟩, ordered⟩
  | granted served enough =>
    obtain ⟨ordered, fits⟩ := ahead.resolve_left (by simp [served])
    refine ⟨⟨sub_nonneg.mpr enough, ?_⟩, ordered⟩
    show row.newTokens call.startedAt - call.needed ≤ row.capacity
    rcases fits with asks | room
    · have bound : row.newTokens call.startedAt ≤ row.capacity := newTokens_capacity
      linarith
    · have refill : row.newTokens call.startedAt ≤ row.tokens +
          secondsBetween row.lastRefillAt call.startedAt * row.refillRatePerSec := newTokens_refill
      linarith

/-- And on the other side: the refills are out of order, or the bucket overflows. -/
theorem looksAhead_of_inRange (draws : Draws call.needed call.startedAt row next allowed)
    (inRange : InRange next) (ordered : row.lastRefillAt ≤ next.lastRefillAt) :
    LooksAhead call row := by
  cases draws with
  | penalised waits => exact .inl waits
  | throttled served short => exact .inr ⟨ordered, .inl (inRange.nonneg.trans short.le)⟩
  | granted served enough =>
    refine .inr ⟨ordered, ?_⟩
    have within : row.newTokens call.startedAt - call.needed ≤ row.capacity := inRange.within
    rw [sub_le_iff_le_add] at within
    rcases min_le_iff.mp within with room | room
    · exact .inl (by linarith)
    · exact .inr room

end Range

section Interleaving

/-- Every call that is served looks ahead. -/
def InTurn (server : Server) : Action → Prop
  | .serve index => ∀ call ∈ server.transactions[index]?, LooksAhead call server.row
  | _ => True

instance (server : Server) (action : Action) : Decidable (InTurn server action) :=
  match action with
  | .serve index => inferInstanceAs (Decidable (∀ call ∈ server.transactions[index]?, _))
  | .pass _ | .begin _ | .rollback _ => .isTrue trivial

/-- What a step does to the row. -/
inductive Steps (server : Server) : Action → Server → List RateLimitBucket → Prop
  | apart (action : Action) (next : Server) (idle : InTurn server action)
      (same : next.row = server.row) : Steps server action next []
  | served (index : Nat) (call : Transaction) (next : Server) (allowed : Bool)
      (stored : server.transactions[index]? = some call)
      (draws : Draws call.needed call.startedAt server.row next.row allowed) :
      Steps server (.serve index) next [next.row]

/-- A step is one of these. -/
theorem act_cases {server next : Server} {action : Action} {observed : List RateLimitBucket}
    (acted : act server action = some (next, observed)) :
    Steps server action next observed := by
  cases action with
  | pass elapsed =>
    cases acted
    exact .apart _ _ trivial rfl
  | begin needed =>
    cases acted
    exact .apart _ _ trivial rfl
  | serve index =>
    simp only [act, atomicTokenDeduct, Option.bind_eq_bind, Option.bind_some,
      Option.bind_eq_some_iff, Option.some.injEq, Prod.mk.injEq] at acted
    obtain ⟨call, stored, rfl, rfl⟩ := acted
    exact .served index call _ _ stored (draw_cases rfl)
  | rollback index =>
    simp only [act, Option.bind_eq_bind, Option.bind_eq_some_iff, Option.some.injEq,
      Prod.mk.injEq] at acted
    obtain ⟨call, stored, rfl, rfl⟩ := acted
    exact .apart _ _ trivial rfl

variable {start server : Server} {history : List RateLimitBucket}

/-- What every run of such calls has committed, the initial row included. -/
structure Ordered (start : Server) (history : List RateLimitBucket) (server : Server) :
    Prop where
  inRange : ∀ row ∈ start.row :: history, InRange row
  settings : server.row.refillRatePerSec = start.row.refillRatePerSec
  refills : (start.row :: history).Pairwise fun earlier later =>
    earlier.lastRefillAt ≤ later.lastRefillAt
  current : server.row ∈ start.row :: history
  latest : ∀ row ∈ start.row :: history, row.lastRefillAt ≤ server.row.lastRefillAt

/-- A run in turn reads the clock forward. -/
theorem run_ordered (rate : 0 ≤ start.row.refillRatePerSec) (inRange : InRange start.row)
    (run : Run (takes act InTurn) start history server) : Ordered start history server := by
  apply run.invariant (Ordered start)
  · exact ⟨by simpa using inRange, rfl, by simp, by simp, by simp⟩
  · intro history observed server next _ ordered taken
    obtain ⟨action, inTurn, acted⟩ := taken
    cases act_cases acted with
    | apart action next idle same =>
      rw [List.append_nil]
      exact ⟨ordered.inRange, same ▸ ordered.settings, ordered.refills, same ▸ ordered.current,
        same ▸ ordered.latest⟩
    | served index call next allowed stored draws =>
      have held : InRange server.row := ordered.inRange _ ordered.current
      obtain ⟨kept, forward⟩ :=
        draws_inRange (ordered.settings ▸ rate) held (inTurn call stored) draws
      have before : ∀ row ∈ start.row :: history, row.lastRefillAt ≤ next.row.lastRefillAt :=
        fun row member => (ordered.latest row member).trans forward
      have member_cases : ∀ row ∈ start.row :: (history ++ [next.row]),
          row ∈ start.row :: history ∨ row = next.row := by
        intro row member
        rw [← List.cons_append] at member
        exact (List.mem_append.mp member).imp_right List.mem_singleton.mp
      refine ⟨?_, (draws_settings draws).2.trans ordered.settings, ?_, by simp, ?_⟩
      · intro row member
        rcases member_cases row member with old | rfl
        · exact ordered.inRange row old
        · exact kept
      · rw [← List.cons_append]
        refine List.pairwise_append.mpr ⟨ordered.refills, List.pairwise_singleton _ _, ?_⟩
        intro row member last new
        exact List.mem_singleton.mp new ▸ before row member
      · intro row member
        rcases member_cases row member with old | rfl
        · exact before row old
        · exact le_refl _

/-- A run whose calls look ahead keeps the row in range and refills it in the order of
time. The step that breaks either is the first one that looks back. -/
theorem bucket_in_range (rate : 0 ≤ start.row.refillRatePerSec) (inRange : InRange start.row)
    (run : Run (takes act InTurn) start history server) :
    (∀ row ∈ start.row :: history, InRange row) ∧
      (start.row :: history).Pairwise (fun earlier later =>
        earlier.lastRefillAt ≤ later.lastRefillAt) ∧
      ∀ (action : Action) (next : Server) (observed : List RateLimitBucket),
        act server action = some (next, observed) →
          (InTurn server action ↔
            InRange next.row ∧ server.row.lastRefillAt ≤ next.row.lastRefillAt) := by
  have ordered : Ordered start history server := run_ordered rate inRange run
  refine ⟨ordered.inRange, ordered.refills, ?_⟩
  have held : InRange server.row := ordered.inRange _ ordered.current
  intro action next observed acted
  cases act_cases acted with
  | apart action next idle same => simp [idle, same, held]
  | served index call next allowed stored draws =>
    constructor
    · intro inTurn
      exact draws_inRange (ordered.settings ▸ rate) held (inTurn call stored) draws
    · intro fine other sought
      obtain rfl := Option.some.inj (stored.symm.trans sought)
      exact looksAhead_of_inRange draws fine.1 fine.2

/-- The bucket of a provider with nothing left, refilled by twenty each second. -/
def drainedBucket : RateLimitBucket where
  tokens := 0
  capacity := 100
  refillRatePerSec := 20
  lastRefillAt := 0
  throttledUntil := none
  consecutiveThrottles := 0

/-- A call that began a second earlier waits for another one: it takes the refill of that
second back, and nineteen tokens turn into minus one. -/
theorem bucket_refilled_backwards :
    InRange drainedBucket ∧ ∃ server row,
      Run (takes act anyAction) ⟨0, drainedBucket, []⟩ [row, server.row] server ∧
        row.tokens = 19 ∧ server.row.tokens = -1 ∧
        server.row.lastRefillAt < row.lastRefillAt := by
  let served : RateLimitBucket := { drainedBucket with tokens := 19, lastRefillAt := 1000000 }
  let overtaken : RateLimitBucket :=
    { drainedBucket with tokens := -1, lastRefillAt := 0, consecutiveThrottles := 1 }
  have executed : execute act ⟨0, drainedBucket, []⟩
      [.begin 1, .pass 1000000, .begin 1, .serve 1, .serve 0] =
        some (⟨1000000, overtaken, []⟩, [served, overtaken]) := by decide +kernel
  exact ⟨⟨by decide +kernel, by decide +kernel⟩, _, _, run_of_execute executed, rfl, rfl,
    by decide +kernel⟩

/-- Two transactions that wait for each other keep the bucket in range. -/
theorem bucket_in_range_waiting :
    ∃ server history, Run (takes act InTurn) ⟨0, drainedBucket, []⟩ history server ∧
      history.length = 2 ∧ ∀ row ∈ drainedBucket :: history, InRange row := by
  have run : Run (takes act InTurn) ⟨0, drainedBucket, []⟩ _ _ :=
    run_of_restricted [.begin 1, .pass 1000000, .begin 1, .serve 0, .serve 0] (by decide +kernel)
  exact ⟨_, _, run, by decide +kernel,
    (bucket_in_range (by decide +kernel) ⟨by decide +kernel, by decide +kernel⟩ run).1⟩

end Interleaving

end PlanBuddy.RateLimits
