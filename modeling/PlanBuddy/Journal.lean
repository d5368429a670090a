import PlanBuddy.JobEngine

/-!
# The side effect journal

The statements of `acquireSideEffectSlot`, `completeSideEffect` and
`failSideEffect` on the journal table. Acquiring a slot is an INSERT followed,
according to its outcome, by an UPDATE or by a SELECT; the three are separate
definitions, since other statements may run between them.

The random replay token is drawn by the INSERT and arrives as an argument. Both
unique columns are constraints of the table, so an INSERT that repeats a token
under a new key raises. The request and response fingerprints are text computed
outside; nothing here compares them.
-/

namespace PlanBuddy.SideEffects

open JobEngine (JobId Thrown)

inductive JournalState where
  | initiated
  | executing
  | completed
  | failed
  | timedOut
deriving DecidableEq

/-- Sixteen random bytes. -/
abbrev Token := BitVec 128

structure Entry where
  operationKey : String
  queue : String
  jobId : JobId
  workerId : WorkerId
  provider : String
  requestHash : String
  providerResponse : Option Json
  responseHash : Option String
  httpStatus : Option Int
  state : JournalState
  executedAt : Option Time
  completedAt : Option Time
  replayToken : Token
  error : Option String
  retryCount : Nat

/-- The journal table with its two unique columns. -/
@[ext]
structure Journal where
  entries : Table Entry.operationKey
  tokensUnique : (entries.rows.map Entry.replayToken).Nodup

def Journal.empty : Journal := ⟨Table.empty, List.nodup_nil⟩

section Writes

/-- An assignment to entries that leaves both unique columns alone. -/
structure EntrySet where
  assign : Entry → Entry
  sameKey : ∀ entry, (assign entry).operationKey = entry.operationKey
  sameToken : ∀ entry, (assign entry).replayToken = entry.replayToken

/-- `UPDATE … WHERE operation_key = $1`. -/
def Journal.write (journal : Journal) (operationKey : String) (set : EntrySet) : Journal where
  entries := journal.entries.update (fun entry => decide (entry.operationKey = operationKey))
    set.assign set.sameKey
  tokensUnique := by
    have same := Table.rewrite_keys journal.entries.rows
      (fun entry => decide (entry.operationKey = operationKey)) set.assign set.sameToken
    exact same.symm ▸ journal.tokensUnique

/-- An insertion keeps the tokens distinct. -/
theorem insert_tokens {journal : Journal} {entry : Entry}
    (allowed : entry.operationKey ∈ journal.entries.rows.map Entry.operationKey ∨
      entry.replayToken ∉ journal.entries.rows.map Entry.replayToken) :
    ((journal.entries.insert entry).1.rows.map Entry.replayToken).Nodup := by
  by_cases present : entry.operationKey ∈ journal.entries.rows.map Entry.operationKey
  · have kept : (journal.entries.insert entry).1 = journal.entries := by
      simp only [Table.insert, dif_pos present]
    exact kept.symm ▸ journal.tokensUnique
  · have fresh := allowed.resolve_left present
    have appended : (journal.entries.insert entry).1.rows = journal.entries.rows ++ [entry] := by
      simp only [Table.insert, dif_neg present]
    rw [appended, List.map_append, List.nodup_append]
    refine ⟨journal.tokensUnique, List.nodup_singleton _, ?_⟩
    intro old stored new member same
    rw [List.map_singleton, List.mem_singleton] at member
    exact fresh (member ▸ same ▸ stored)

/-- `INSERT … ON CONFLICT (operation_key) DO NOTHING`, which raises when only the token
is taken. The flag says whether the entry was stored. -/
def Journal.insert (journal : Journal) (entry : Entry) : Option (Journal × Bool) :=
  if allowed : entry.operationKey ∈ journal.entries.rows.map Entry.operationKey ∨
      entry.replayToken ∉ journal.entries.rows.map Entry.replayToken then
    some (⟨(journal.entries.insert entry).1, insert_tokens allowed⟩,
      (journal.entries.insert entry).2)
  else none

end Writes

section Operations

/-- The arguments of `acquireSideEffectSlot` that it stores. -/
structure Slot where
  operationKey : String
  queue : String
  jobId : JobId
  workerId : WorkerId
  provider : String
  request : Json

/-- What `acquireSideEffectSlot` returns; absent fields are undefined or null. -/
structure SlotResult where
  alreadyExecuted : Bool
  result : Option Json
  replayToken : Option Token

/-- The entry that the INSERT offers, with the schema defaults. -/
def Slot.entry (slot : Slot) (fingerprint : Json → String) (token : Token) : Entry where
  operationKey := slot.operationKey
  queue := slot.queue
  jobId := slot.jobId
  workerId := slot.workerId
  provider := slot.provider
  requestHash := fingerprint slot.request
  providerResponse := none
  responseHash := none
  httpStatus := none
  state := .initiated
  executedAt := none
  completedAt := none
  replayToken := token
  error := none
  retryCount := 0

/-- The INSERT of `acquireSideEffectSlot`. -/
def acquireSideEffectInsert (fingerprint : Json → String) (slot : Slot) (token : Token)
    (journal : Journal) : Option (Journal × Bool) :=
  journal.insert (slot.entry fingerprint token)

def setExecuting (now : Time) : EntrySet :=
  ⟨fun entry => { entry with state := .executing, executedAt := some now },
    fun _ => rfl, fun _ => rfl⟩

/-- The UPDATE of `acquireSideEffectSlot` after an INSERT that stored its entry. -/
def acquireSideEffectExecuting (operationKey : String) (now : Time) (journal : Journal) : Journal :=
  journal.write operationKey (setExecuting now)

/-- The SELECT of `acquireSideEffectSlot` after a conflict, and what it returns. -/
def acquireSideEffectSelect (operationKey : String) (journal : Journal) : SlotResult :=
  match journal.entries.lookup operationKey with
  | none => ⟨false, none, none⟩
  | some entry =>
    if entry.state = .completed then ⟨true, entry.providerResponse, some entry.replayToken⟩
    else ⟨false, none, some entry.replayToken⟩

def setCompleted (fingerprint : Json → String) (response : Option Json) (httpStatus : Option Int)
    (now : Time) : EntrySet :=
  ⟨fun entry => { entry with
      state := .completed
      providerResponse := storedJson response
      responseHash := some (fingerprint (match response with
        | none | some .null => .obj []
        | some value => value))
      httpStatus := some (httpStatus.getD 200)
      completedAt := some now },
    fun _ => rfl, fun _ => rfl⟩

def completeSideEffect (fingerprint : Json → String) (operationKey : String)
    (response : Option Json) (httpStatus : Option Int) (now : Time) (journal : Journal) : Journal :=
  journal.write operationKey (setCompleted fingerprint response httpStatus now)

def setFailed (thrown : Thrown) : EntrySet :=
  ⟨fun entry => { entry with
      state := .failed, error := some thrown.message, retryCount := entry.retryCount + 1 },
    fun _ => rfl, fun _ => rfl⟩

def failSideEffect (operationKey : String) (thrown : Thrown) (journal : Journal) : Journal :=
  journal.write operationKey (setFailed thrown)

end Operations

section Lookups

/-- A write sets one entry. -/
theorem lookup_write (journal : Journal) (operationKey : String) (set : EntrySet)
    (wanted : String) :
    (journal.write operationKey set).entries.lookup wanted =
      if wanted = operationKey then (journal.entries.lookup wanted).map set.assign
      else journal.entries.lookup wanted := by
  simp only [Journal.write]
  rw [Table.lookup_update]
  cases found : journal.entries.lookup wanted with
  | none => simp
  | some entry =>
    have sameKey : entry.operationKey = wanted := Table.lookup_key found
    by_cases here : wanted = operationKey
    · simp [sameKey, here]
    · simp [sameKey, here]

/-- An INSERT that does not raise stores its entry exactly when the key is free. -/
theorem insert_outcome {journal next : Journal} {entry : Entry} {inserted : Bool}
    (accepted : journal.insert entry = some (next, inserted)) :
    (inserted = true ∧ journal.entries.lookup entry.operationKey = none ∧
        next.entries.lookup entry.operationKey = some entry) ∨
      (inserted = false ∧ next = journal ∧
        ∃ old, journal.entries.lookup entry.operationKey = some old) := by
  simp only [Journal.insert, Option.dite_none_right_eq_some, Option.some.injEq,
    Prod.mk.injEq] at accepted
  obtain ⟨_, rfl, rfl⟩ := accepted
  cases found : journal.entries.lookup entry.operationKey with
  | none =>
    refine Or.inl ⟨Table.insert_inserted.mpr found, rfl, ?_⟩
    rw [Table.lookup_insert]
    simp [found]
  | some old =>
    have conflict : journal.entries.insert entry = (journal.entries, false) :=
      Table.insert_conflict found
    refine Or.inr ⟨by rw [conflict], ?_, old, rfl⟩
    exact Journal.ext (congrArg Prod.fst conflict)

/-- No INSERT touches a stored entry. -/
theorem insert_keeps {journal next : Journal} {entry : Entry} {inserted : Bool}
    (accepted : journal.insert entry = some (next, inserted)) {wanted : String} {old : Entry}
    (found : journal.entries.lookup wanted = some old) : next.entries.lookup wanted = some old := by
  simp only [Journal.insert, Option.dite_none_right_eq_some, Option.some.injEq,
    Prod.mk.injEq] at accepted
  obtain ⟨_, rfl, -⟩ := accepted
  rw [Table.lookup_insert]
  split <;> simp [found]

end Lookups

end PlanBuddy.SideEffects
