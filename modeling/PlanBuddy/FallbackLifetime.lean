import PlanBuddy.IdempotencyOnce

/-!
# The lifetime of the durable fallback

A response written to the row of its key should be found there for the lifetime of such
responses. The upsert replaces the response of a row that exists and leaves its expiry, and the
read ignores a row that has expired, which nothing deletes. So a response outlives its write
only when it inserts the row, or replaces a response in a row that expires late enough.
-/

namespace PlanBuddy.FallbackLifetime

open Idempotency

section Writes

variable (hours : Option Nat) (parse : String → Option Json)

/-- What a step writes to the row. -/
def written (server : Server) : Action → List Response
  | .setRow request true =>
    match server.phases request with
    | .settingRow response _ => [response]
    | _ => []
  | _ => []

/-- A step together with what it writes to the row. -/
def write (server : Server) (action : Action) : Option (Server × List Response) :=
  (step hours parse server action).map fun (next, _) => (next, written server action)

/-- What is found under the key now, and is not expired. -/
def dbGet (server : Server) : Option Response := unexpired server.lock.now server.row

variable {hours} {parse} {server next : Server} {action : Action} {observed : List Response}

/-- A release of the lock touches neither the row nor the clock. -/
theorem releaseLock_row (server : Server) (request : RequestId) (ready succeeded : Bool) :
    (releaseLock server request ready succeeded).1.row = server.row ∧
      (releaseLock server request ready succeeded).1.lock.now = server.lock.now := by
  by_cases issued : (ready && succeeded) = true
  · rw [releaseLock, if_pos issued]
    exact ⟨rfl, rfl⟩
  · rw [releaseLock, if_neg issued]
    exact ⟨rfl, rfl⟩

/-- A step leaves the row, or it writes one response to it; the clock goes only forward. -/
theorem write_cases (taken : write hours parse server action = some (next, observed)) :
    (observed = [] ∧ next.row = server.row ∧ server.lock.now ≤ next.lock.now) ∨
      ∃ response, observed = [response] ∧ next.lock.now = server.lock.now ∧
        next.row = some (dbSet hours server.lock.now response server.row) := by
  obtain ⟨⟨reached, events⟩, stepped, same⟩ := Option.map_eq_some_iff.mp taken
  cases same
  cases step_cases stepped with
  | setRow request succeeded response lockAcquired stands =>
    cases succeeded with
    | true => exact .inr ⟨response, by simp only [written, stands], rfl, rfl⟩
    | false => exact .inl ⟨rfl, rfl, Int.le_refl _⟩
  | pass elapsed => exact .inl ⟨rfl, rfl, Int.le_add_of_nonneg_right (Int.natCast_nonneg _)⟩
  | cleanUp request ready succeeded answered stands =>
    obtain ⟨row, now⟩ := releaseLock_row server request ready succeeded
    exact .inl ⟨rfl, row, Int.le_of_eq now.symm⟩
  | deleteLock request ready succeeded response stands =>
    obtain ⟨row, now⟩ := releaseLock_row server request ready succeeded
    exact .inl ⟨rfl, row, Int.le_of_eq now.symm⟩
  | _ => exact .inl ⟨rfl, rfl, Int.le_refl _⟩

end Writes

section Lifetime

variable {hours : Option Nat} {parse : String → Option Json} {server next : Server}

/-- A response is kept for some time. -/
theorem responseTtl_pos (hours : Option Nat) : 0 < responseTtl hours := by
  cases hours with
  | none => decide
  | some hours =>
    by_cases unset : hours = 0
    · subst unset
      decide
    · have positive : 0 < (hours : Int) := by omega
      simp [responseTtl, Option.filter, unset]
      omega

/-- The row holds one of these responses, up to a deadline at least. -/
def Lasts (deadline : Time) (responses : List Response) (server : Server) : Prop :=
  ∃ stored, server.row = some stored ∧ deadline ≤ stored.expiresAt ∧ stored.response ∈ responses

/-- A later write replaces the response and keeps the expiry. -/
theorem lasts_write {deadline : Time} {responses observed : List Response}
    (lasts : Lasts deadline responses server)
    (taken : takes (write hours parse) anyAction server observed next) :
    Lasts deadline (responses ++ observed) next := by
  obtain ⟨stored, present, late, member⟩ := lasts
  obtain ⟨action, -, taken⟩ := taken
  rcases write_cases taken with ⟨rfl, kept, -⟩ | ⟨response, rfl, -, replaced⟩
  · rw [List.append_nil]
    exact ⟨stored, kept.trans present, late, member⟩
  · rw [present] at replaced
    exact ⟨_, replaced, late, List.mem_append_right _ List.mem_cons_self⟩

/-- A response that lasts does so through any run. -/
theorem lasts_run {deadline : Time} {responses later : List Response} {final : Server}
    (lasts : Lasts deadline responses next)
    (run : Run (takes (write hours parse) anyAction) next later final) :
    Lasts deadline (responses ++ later) final := by
  refine run.invariant (fun later server => Lasts deadline (responses ++ later) server) ?_ ?_
  · rw [List.append_nil]
    exact lasts
  · intro history observed server after _ inductionHypothesis taken
    rw [← List.append_assoc]
    exact lasts_write inductionHypothesis taken

/-- It is found until its deadline. -/
theorem dbGet_of_lasts {deadline : Time} {responses : List Response}
    (lasts : Lasts deadline responses server) (early : server.lock.now < deadline) :
    ∃ response ∈ responses, dbGet server = some response := by
  obtain ⟨stored, present, late, member⟩ := lasts
  exact ⟨stored.response, member,
    unexpired_iff.mpr ⟨stored, present, Int.lt_of_lt_of_le early late, rfl⟩⟩

/-- Without a row at the start, no row outlives a response written now. -/
theorem row_expires {now : Time} {done : Option Stored} {history : List Response}
    (run : Run (takes (write hours parse) anyAction) (Server.start now done none) history server) :
    ∀ stored, server.row = some stored →
      stored.expiresAt ≤ server.lock.now + responseTtl hours := by
  refine run.invariant (fun _ server => ∀ stored, server.row = some stored →
    stored.expiresAt ≤ server.lock.now + responseTtl hours) (fun _ absent => by cases absent) ?_
  rintro history observed server after - inductionHypothesis ⟨action, -, taken⟩ stored present
  rcases write_cases taken with ⟨-, kept, forward⟩ | ⟨response, -, still, replaced⟩
  · have bound := inductionHypothesis stored (kept.symm.trans present)
    omega
  · rw [still]
    rw [replaced] at present
    cases before : server.row with
    | none =>
      rw [before] at present
      cases present
      exact Int.le_refl _
    | some old =>
      rw [before] at present
      cases present
      exact inductionHypothesis old before

/-- A response that was written is found, or one that was written after it, at every time within
its lifetime and whatever happens in between, exactly when no row with an earlier expiry was
there at the write. -/
theorem response_lasts_iff {request : RequestId} {response : Response}
    (taken : write hours parse server (.setRow request true) = some (next, [response])) :
    (∀ later final, Run (takes (write hours parse) anyAction) next later final →
        final.lock.now < server.lock.now + responseTtl hours →
          ∃ latest ∈ response :: later, dbGet final = some latest) ↔
      ∀ old, server.row = some old → server.lock.now + responseTtl hours ≤ old.expiresAt := by
  obtain ⟨⟨⟩, -⟩ | ⟨_, ⟨⟩, still, replaced⟩ := write_cases taken
  constructor
  · intro lasts old present
    rw [present] at replaced
    apply Decidable.byContradiction
    intro early
    -- the row is not found any more once its old expiry has come
    have run : Run (takes (write hours parse) anyAction) next ([] ++ []) _ :=
      Run.start.step ⟨.pass (old.expiresAt - server.lock.now).toNat, trivial, rfl⟩
    have positive := responseTtl_pos hours
    obtain ⟨latest, -, found⟩ := lasts _ _ run (by simp only [still]; omega)
    obtain ⟨stored, isStored, fresh, -⟩ := unexpired_iff.mp found
    cases replaced.symm.trans isStored
    have unexpired : next.lock.now + (old.expiresAt - server.lock.now).toNat < old.expiresAt := fresh
    omega
  · intro late later final run early
    have lasts : Lasts (server.lock.now + responseTtl hours) [response] next := by
      refine ⟨_, replaced, ?_, ?_⟩
      · cases before : server.row with
        | none => exact Int.le_refl _
        | some old => exact late old before
      · cases server.row <;> exact List.mem_cons_self
    exact dbGet_of_lasts (lasts_run lasts run) early

end Lifetime

section Sample

/-- A request that finds Redis down and answers; its response is about to be written. -/
def answerWithoutRedis (request : RequestId) (response : Response) : List Action :=
  [.arrive request false, .getRow request .succeeded, .intercept request, .respond request response]

/-- The first response under a key is found for as long as it should be. -/
theorem response_lasts_iff_first :
    ∃ history server next, Run (takes (write none fun _ => none) anyAction)
        (Server.start 0 none none) history server ∧
      write none (fun _ => none) server (.setRow 1 true) = some (next, [⟨201, .null⟩]) ∧
        ∀ later final, Run (takes (write none fun _ => none) anyAction) next later final →
          final.lock.now < server.lock.now + responseTtl none →
            ∃ latest ∈ ⟨201, .null⟩ :: later, dbGet final = some latest := by
  refine ⟨_, _, _, run_of_schedule (answerWithoutRedis 1 ⟨201, .null⟩) rfl, rfl, ?_⟩
  exact (response_lasts_iff (show write none _ _ (.setRow 1 true) = _ from rfl)).mpr
    fun _ absent => by cases absent

/-- A response that is written 73 hours after the first one is not found at all. -/
theorem stale_row_hides :
    ∃ history server next, Run (takes (write none fun _ => none) anyAction)
        (Server.start 0 none none) history server ∧
      write none (fun _ => none) server (.setRow 2 true) = some (next, [⟨201, .null⟩]) ∧
        next.lock.now < server.lock.now + responseTtl none ∧ dbGet next = none := by
  refine ⟨_, _, _, run_of_schedule (answerWithoutRedis 1 ⟨201, .null⟩ ++
    [.setRow 1 true, .pass 262800000] ++ answerWithoutRedis 2 ⟨201, .null⟩) rfl, rfl, ?_, rfl⟩
  exact Int.lt_add_of_pos_right _ (responseTtl_pos none)

end Sample

end PlanBuddy.FallbackLifetime
