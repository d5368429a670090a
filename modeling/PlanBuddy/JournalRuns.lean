import PlanBuddy.Journal
import PlanBuddy.Runs

/-!
# Interleavings on the side effect journal

A state holds the journal and the acquire calls between their INSERT and their
second statement. Any worker may begin a call, take its second statement, report
completion or report failure at any time and for any key: nothing in the code
ties a report to the worker that acquired the slot, so none is assumed.

The law proved here is about replay tokens. A token enters the journal with its
row and no statement rewrites it, so the token returned by an INSERT and the one
read by a later SELECT are the same. No fresh randomness is needed for this: an
INSERT that repeats a token raises.
-/

namespace PlanBuddy.SideEffects

open JobEngine (Thrown)

/-- An acquire call after its INSERT: it stored its entry, or it met one. -/
inductive PendingSlot where
  | executing (call : Nat) (operationKey : String) (token : Token)
  | reading (call : Nat) (operationKey : String)

/-- Calls are numbered in the order in which they begin. -/
structure Server where
  journal : Journal
  calls : Nat
  pending : List PendingSlot

/-- A journal with no call in progress. -/
def Server.idle (journal : Journal) : Server := ⟨journal, 0, []⟩

inductive Action where
  | acquire (slot : Slot) (token : Token)
  | proceed (position : Nat) (now : Time)
  | complete (operationKey : String) (response : Option Json) (httpStatus : Option Int) (now : Time)
  | fail (operationKey : String) (thrown : Thrown)

inductive Event where
  | began (call : Nat) (operationKey : String)
  | returned (call : Nat) (operationKey : String) (result : SlotResult)

/-- The pending form of a call whose INSERT had the given outcome. -/
def Server.opened (server : Server) (operationKey : String) (token : Token) (inserted : Bool) :
    PendingSlot :=
  if inserted then .executing server.calls operationKey token
  else .reading server.calls operationKey

/-- An INSERT that raises throws out of its call, which is not observed. -/
def step (fingerprint : Json → String) (server : Server) : Action → Option (Server × List Event)
  | .acquire slot token =>
    (acquireSideEffectInsert fingerprint slot token server.journal).map fun (journal, inserted) =>
      (⟨journal, server.calls + 1,
          server.pending ++ [server.opened slot.operationKey token inserted]⟩,
        [.began server.calls slot.operationKey])
  | .proceed position now =>
    (server.pending[position]?).map fun
      | .executing call operationKey token =>
        ({ server with
            journal := acquireSideEffectExecuting operationKey now server.journal
            pending := server.pending.eraseIdx position },
          [.returned call operationKey ⟨false, none, some token⟩])
      | .reading call operationKey =>
        ({ server with pending := server.pending.eraseIdx position },
          [.returned call operationKey (acquireSideEffectSelect operationKey server.journal)])
  | .complete operationKey response httpStatus now =>
    some ({ server with
        journal := completeSideEffect fingerprint operationKey response httpStatus now
          server.journal }, [])
  | .fail operationKey thrown =>
    some ({ server with journal := failSideEffect operationKey thrown server.journal }, [])

/-- One step of any worker. -/
abbrev transition (fingerprint : Json → String) : Server → List Event → Server → Prop :=
  takes (step fingerprint) anyAction

/-- The journal has an entry under the key, with the given token. -/
def HasToken (journal : Journal) (operationKey : String) (token : Token) : Prop :=
  ∃ entry, journal.entries.lookup operationKey = some entry ∧ entry.replayToken = token

/-- An operation has one token. -/
theorem hasToken_unique {journal : Journal} {operationKey : String} {token other : Token}
    (first : HasToken journal operationKey token) (second : HasToken journal operationKey other) :
    token = other := by
  obtain ⟨entry, found, rfl⟩ := first
  obtain ⟨again, foundAgain, rfl⟩ := second
  rw [found, Option.some.injEq] at foundAgain
  rw [foundAgain]

/-- One token belongs to one key: tokens are a unique column. -/
theorem hasToken_key {journal : Journal} {operationKey other : String} {token : Token}
    (first : HasToken journal operationKey token) (second : HasToken journal other token) :
    operationKey = other := by
  obtain ⟨entry, found, sameToken⟩ := first
  obtain ⟨again, foundAgain, sameAgain⟩ := second
  have same : entry = again := List.inj_on_of_nodup_map journal.tokensUnique
    (Table.lookup_mem found) (Table.lookup_mem foundAgain) (sameToken.trans sameAgain.symm)
  rw [← Table.lookup_key found, ← Table.lookup_key foundAgain, same]

/-- No UPDATE of the journal touches a token. -/
theorem write_hasToken (journal : Journal) (updated : String) (set : EntrySet)
    {operationKey : String} {token : Token} (held : HasToken journal operationKey token) :
    HasToken (journal.write updated set) operationKey token := by
  obtain ⟨entry, found, rfl⟩ := held
  rw [HasToken, lookup_write]
  by_cases here : operationKey = updated
  · subst here
    exact ⟨set.assign entry, by simp [found], set.sameToken entry⟩
  · exact ⟨entry, by simp [here, found], rfl⟩

variable {fingerprint : Json → String}

/-- No step of any worker touches a token. -/
theorem step_hasToken {server next : Server} {observed : List Event}
    (taken : transition fingerprint server observed next) {operationKey : String} {token : Token}
    (held : HasToken server.journal operationKey token) :
    HasToken next.journal operationKey token := by
  obtain ⟨action, -, taken⟩ := taken
  cases action with
  | acquire slot drawn =>
    simp only [step, Option.map_eq_some_iff, Prod.exists, Prod.mk.injEq] at taken
    obtain ⟨journal, inserted, accepted, rfl, -⟩ := taken
    obtain ⟨entry, found, same⟩ := held
    exact ⟨entry, insert_keeps accepted found, same⟩
  | proceed position now =>
    simp only [step, Option.map_eq_some_iff] at taken
    obtain ⟨pending, _, moved⟩ := taken
    cases pending with
    | executing call key drawn =>
      obtain ⟨rfl, -⟩ := Prod.mk.inj moved
      exact write_hasToken _ _ _ held
    | reading call key =>
      obtain ⟨rfl, -⟩ := Prod.mk.inj moved
      exact held
  | complete key response httpStatus now =>
    simp only [step, Option.some.injEq, Prod.mk.injEq] at taken
    obtain ⟨rfl, -⟩ := taken
    exact write_hasToken _ _ _ held
  | fail key thrown =>
    simp only [step, Option.some.injEq, Prod.mk.injEq] at taken
    obtain ⟨rfl, -⟩ := taken
    exact write_hasToken _ _ _ held

/-- What the calls of a run know about tokens: a call that stored its entry carries the
token of that entry, a call that met an entry will find one, and every call that
returned did so with the token of its entry. -/
structure Recorded (history : List Event) (server : Server) : Prop where
  executing : ∀ call operationKey token, .executing call operationKey token ∈ server.pending →
    HasToken server.journal operationKey token
  reading : ∀ call operationKey, .reading call operationKey ∈ server.pending →
    ∃ token, HasToken server.journal operationKey token
  returned : ∀ call operationKey result, .returned call operationKey result ∈ history →
    ∃ token, HasToken server.journal operationKey token ∧ result.replayToken = some token

/-- A read of a stored entry returns its token, whatever the entry's state. -/
theorem select_token {journal : Journal} {operationKey : String} {token : Token}
    (held : HasToken journal operationKey token) :
    (acquireSideEffectSelect operationKey journal).replayToken = some token := by
  obtain ⟨entry, found, rfl⟩ := held
  simp only [acquireSideEffectSelect, found]
  split <;> rfl

/-- Tokens known before a step are known after it, and what the step adds must be
shown to be known: a pending call it opened and a call it let return. -/
theorem recorded_step {history observed : List Event} {server next : Server}
    (recorded : Recorded history server) (taken : transition fingerprint server observed next)
    (opened : ∀ pending ∈ next.pending, pending ∈ server.pending ∨
      match pending with
      | .executing _ operationKey token => HasToken next.journal operationKey token
      | .reading _ operationKey => ∃ token, HasToken next.journal operationKey token)
    (added : ∀ call operationKey result, .returned call operationKey result ∈ observed →
      ∃ token, HasToken server.journal operationKey token ∧ result.replayToken = some token) :
    Recorded (history ++ observed) next := by
  refine ⟨?_, ?_, ?_⟩
  · intro call operationKey token member
    rcases opened _ member with old | new
    · exact step_hasToken taken (recorded.executing call operationKey token old)
    · exact new
  · intro call operationKey member
    rcases opened _ member with old | new
    · obtain ⟨token, held⟩ := recorded.reading call operationKey old
      exact ⟨token, step_hasToken taken held⟩
    · exact new
  · intro call operationKey result member
    have known : ∃ token, HasToken server.journal operationKey token ∧
        result.replayToken = some token := by
      rcases List.mem_append.mp member with old | new
      · exact recorded.returned call operationKey result old
      · exact added call operationKey result new
    obtain ⟨token, held, same⟩ := known
    exact ⟨token, step_hasToken taken held, same⟩

/-- A pending call returns with a token that is known. -/
theorem recorded_return {history : List Event} {server next : Server} {position : Nat}
    {call : Nat} {key : String} {result : SlotResult}
    (recorded : Recorded history server)
    (taken : transition fingerprint server [.returned call key result] next)
    (remaining : next.pending = server.pending.eraseIdx position)
    (known : ∃ token, HasToken server.journal key token ∧ result.replayToken = some token) :
    Recorded (history ++ [.returned call key result]) next := by
  refine recorded_step recorded taken (fun pending kept => ?_) ?_
  · rw [remaining] at kept
    exact Or.inl (List.mem_of_mem_eraseIdx kept)
  · intro _ _ _ returned
    simp only [List.mem_singleton, Event.returned.injEq] at returned
    obtain ⟨rfl, rfl, rfl⟩ := returned
    exact known

/-- A step records what it returns. -/
theorem step_recorded {history observed : List Event} {server next : Server}
    (recorded : Recorded history server) (taken : transition fingerprint server observed next) :
    Recorded (history ++ observed) next := by
  have step := taken
  obtain ⟨action, -, taken⟩ := taken
  cases action with
  | acquire slot drawn =>
    simp only [SideEffects.step, Option.map_eq_some_iff, Prod.exists, Prod.mk.injEq] at taken
    obtain ⟨journal, inserted, accepted, rfl, rfl⟩ := taken
    refine recorded_step recorded step ?_ (by simp)
    intro pending member
    rcases List.mem_append.mp member with old | new
    · exact Or.inl old
    · rw [List.mem_singleton] at new
      subst new
      rcases insert_outcome accepted with ⟨rfl, -, stored⟩ | ⟨rfl, rfl, old, found⟩
      · exact Or.inr ⟨_, stored, rfl⟩
      · exact Or.inr ⟨old.replayToken, old, found, rfl⟩
  | proceed position now =>
    simp only [SideEffects.step, Option.map_eq_some_iff] at taken
    obtain ⟨pending, present, moved⟩ := taken
    have member := List.mem_of_getElem? present
    cases pending with
    | executing call key drawn =>
      obtain ⟨rfl, rfl⟩ := Prod.mk.inj moved
      exact recorded_return recorded step rfl ⟨drawn, recorded.executing _ _ _ member, rfl⟩
    | reading call key =>
      obtain ⟨rfl, rfl⟩ := Prod.mk.inj moved
      obtain ⟨token, held⟩ := recorded.reading _ _ member
      exact recorded_return recorded step rfl ⟨token, held, select_token held⟩
  | complete key response httpStatus now =>
    simp only [SideEffects.step, Option.some.injEq, Prod.mk.injEq] at taken
    obtain ⟨rfl, rfl⟩ := taken
    exact recorded_step recorded step (fun pending kept => Or.inl kept) (by simp)
  | fail key thrown =>
    simp only [SideEffects.step, Option.some.injEq, Prod.mk.injEq] at taken
    obtain ⟨rfl, rfl⟩ := taken
    exact recorded_step recorded step (fun pending kept => Or.inl kept) (by simp)

/-- So does a run. -/
theorem run_recorded {journal : Journal} {history : List Event} {server : Server}
    (run : Run (transition fingerprint) (Server.idle journal) history server) :
    Recorded history server :=
  run.invariant Recorded ⟨by simp [Server.idle], by simp [Server.idle], by simp⟩
    (fun _ recorded taken => step_recorded recorded taken)

/-- One replay token per operation, over every interleaving and from any journal. Calls
for one key that return without an execution carry one token; those for different
keys carry different ones; the token of an entry never changes. So if a provider
executes requests of these calls and no token twice, it executes no key twice. -/
theorem one_token_per_operation {journal : Journal} {history : List Event} {server : Server}
    (run : Run (transition fingerprint) (Server.idle journal) history server) :
    (∀ operationKey call result call' result',
      .returned call operationKey result ∈ history → .returned call' operationKey result' ∈ history →
        result.alreadyExecuted = false → result'.alreadyExecuted = false →
          ∃ token, result.replayToken = some token ∧ result'.replayToken = some token) ∧
    (∀ operationKey operationKey' call result call' result', operationKey ≠ operationKey' →
      .returned call operationKey result ∈ history → .returned call' operationKey' result' ∈ history →
        result.alreadyExecuted = false → result'.alreadyExecuted = false →
          result.replayToken ≠ result'.replayToken) ∧
    (∀ {later : Server} {rest : List Event}, Run (transition fingerprint) server rest later →
      ∀ operationKey entry, server.journal.entries.lookup operationKey = some entry →
        ∃ after, later.journal.entries.lookup operationKey = some after ∧
          after.replayToken = entry.replayToken) ∧
    (∀ executions : List (String × Token),
      (∀ execution ∈ executions, ∃ call result, .returned call execution.1 result ∈ history ∧
        result.alreadyExecuted = false ∧ result.replayToken = some execution.2) →
      (executions.map Prod.snd).Nodup → (executions.map Prod.fst).Nodup) := by
  have recorded : Recorded history server := run_recorded run
  refine ⟨?_, ?_, ?_, ?_⟩
  · intro operationKey call result call' result' first second _ _
    obtain ⟨token, held, carried⟩ := recorded.returned call operationKey result first
    obtain ⟨token', held', carried'⟩ := recorded.returned call' operationKey result' second
    exact ⟨token, carried, hasToken_unique held' held ▸ carried'⟩
  · intro operationKey operationKey' call result call' result' different first second _ _ same
    obtain ⟨token, held, carried⟩ := recorded.returned call operationKey result first
    obtain ⟨token', held', carried'⟩ := recorded.returned call' operationKey' result' second
    rw [carried, carried', Option.some.injEq] at same
    exact different (hasToken_key held (same ▸ held'))
  · intro later rest continued operationKey entry found
    exact continued.invariant (fun _ state => HasToken state.journal operationKey entry.replayToken)
      ⟨entry, found, rfl⟩ (fun _ held taken => step_hasToken taken held)
  · intro executions requested once
    rw [List.Nodup, List.pairwise_map] at once ⊢
    refine List.Pairwise.imp_of_mem ?_ once
    intro left right memberLeft memberRight tokensDiffer sameKey
    obtain ⟨call, result, returned, -, carried⟩ := requested left memberLeft
    obtain ⟨call', result', returned', -, carried'⟩ := requested right memberRight
    obtain ⟨token, held, same⟩ := recorded.returned call left.1 result returned
    obtain ⟨token', held', same'⟩ := recorded.returned call' right.1 result' returned'
    rw [carried, Option.some.injEq] at same
    rw [carried', Option.some.injEq] at same'
    exact tokensDiffer (same.trans ((hasToken_unique held (sameKey ▸ held')).trans same'.symm))

/-- The slot of a first refund attempt, as one worker asks for it. -/
def refundSlot (workerId : WorkerId) : Slot :=
  ⟨"refund:7:attempt:1", "refund_retry", 7, workerId, "razorpay", .null⟩

/-- Two calls that race return one token. -/
theorem one_token_race :
    ∃ history server, Run (transition fun _ => "") (Server.idle Journal.empty) history server ∧
      history.length = 4 ∧
      ∀ call result call' result',
        .returned call "refund:7:attempt:1" result ∈ history →
          .returned call' "refund:7:attempt:1" result' ∈ history →
            result.alreadyExecuted = false → result'.alreadyExecuted = false →
              ∃ token, result.replayToken = some token ∧ result'.replayToken = some token := by
  -- two calls race: the second reads before the first marks its entry
  have run : Run (transition fun _ => "") (Server.idle Journal.empty) _ _ :=
    run_of_schedule [.acquire (refundSlot "first") 1, .acquire (refundSlot "second") 2,
      .proceed 1 3, .proceed 0 4] rfl
  exact ⟨_, _, run, rfl, (one_token_per_operation run).1 "refund:7:attempt:1"⟩

end PlanBuddy.SideEffects
