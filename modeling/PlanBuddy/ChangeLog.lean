import PlanBuddy.Runs
import Mathlib.Data.List.Sort
import Mathlib.Logic.Function.Basic

/-!
# Logs written by row triggers

Transactions insert and update rows of keyed tables. A row written by a transaction is locked
until it ends, so that no other transaction writes it, and an update sees the last row committed
or the one the transaction wrote itself. An AFTER ROW trigger adds an entry to a log that all the
tables share: for an INSERT always, for an UPDATE when a tracked part of the row differs. Its
number is drawn from a sequence at once and is lost when the transaction rolls back; the entry
carries the instant at which its transaction began.

Row by row the log is exact. The entries about one key, in the order of their numbers, are the
history of a serial run of that row alone from what was stored at first to what is stored now.
The instants do not order them.
-/

namespace PlanBuddy.ChangeLog

universe u v w x
variable {κ : Type u} {τ : Type v} {ρ : Type w} {β : Type x}

/-- Which tables have a trigger, and the part of a row the update triggers compare. -/
structure Triggers (κ : Type u) (ρ : Type w) (β : Type x) where
  tracked : ρ → β
  afterInsert : κ → Bool
  afterUpdate : κ → Bool

inductive Entry (κ : Type u) (ρ : Type w) where
  | inserted (number : Nat) (key : κ) (row : ρ) (began : Int)
  | changed (number : Nat) (key : κ) (old new : ρ) (began : Int)
deriving DecidableEq

def Entry.number : Entry κ ρ → Nat
  | .inserted number _ _ _ => number
  | .changed number _ _ _ _ => number

def Entry.key : Entry κ ρ → κ
  | .inserted _ key _ _ => key
  | .changed _ key _ _ _ => key

def Entry.began : Entry κ ρ → Int
  | .inserted _ _ _ began => began
  | .changed _ _ _ _ began => began

/-- A row beside what it was inserted as, or stored as at first. No step reads the latter: it is
kept for what is said about the log. -/
structure Version (ρ : Type w) where
  original : ρ
  current : ρ
deriving DecidableEq

/-- A row as it is inserted. -/
def Version.fresh (row : ρ) : Version ρ := ⟨row, row⟩

/-- What a transaction has written, and the entries its triggers have added. -/
structure Transaction (κ : Type u) (ρ : Type w) where
  began : Int
  written : κ → Option (Version ρ)
  entries : List (Entry κ ρ)

/-- The committed rows and log, and the transactions in progress. -/
structure Store (κ : Type u) (τ : Type v) (ρ : Type w) where
  rows : κ → Option (Version ρ)
  locks : κ → Option τ
  active : τ → Option (Transaction κ ρ)
  log : List (Entry κ ρ)
  next : Nat

/-- Nothing is logged yet, and no transaction is in progress. -/
def Store.quiet (rows : κ → Option ρ) (next : Nat) : Store κ τ ρ :=
  ⟨fun key => (rows key).map .fresh, fun _ => none, fun _ => none, [], next⟩

inductive Action (κ : Type u) (τ : Type v) (ρ : Type w) where
  | begins (owner : τ) (now : Int)
  | insert (owner : τ) (key : κ) (row : ρ)
  | update (owner : τ) (key : κ) (row : ρ)
  | commit (owner : τ)
  | rollback (owner : τ)

section Step

variable [DecidableEq κ] [DecidableEq τ] [DecidableEq β]

def Triggers.onInsert (triggers : Triggers κ ρ β) (number : Nat) (key : κ) (row : ρ) (began : Int) :
    List (Entry κ ρ) :=
  if triggers.afterInsert key then [.inserted number key row began] else []

def Triggers.onUpdate (triggers : Triggers κ ρ β) (number : Nat) (key : κ) (old new : ρ)
    (began : Int) : List (Entry κ ρ) :=
  if triggers.afterUpdate key = true ∧ triggers.tracked old ≠ triggers.tracked new then
    [.changed number key old new began]
  else []

/-- No other transaction has the lock. -/
def Store.available (store : Store κ τ ρ) (owner : τ) (key : κ) : Prop :=
  store.locks key = none ∨ store.locks key = some owner

instance (store : Store κ τ ρ) (owner : τ) (key : κ) : Decidable (store.available owner key) :=
  inferInstanceAs (Decidable (_ ∨ _))

def Transaction.write (transaction : Transaction κ ρ) (key : κ) (row : Version ρ)
    (fired : List (Entry κ ρ)) : Transaction κ ρ :=
  { transaction with
    written := Function.update transaction.written key (some row)
    entries := transaction.entries ++ fired }

def Store.write (store : Store κ τ ρ) (owner : τ) (transaction : Transaction κ ρ) (key : κ)
    (row : Version ρ) (fired : List (Entry κ ρ)) : Store κ τ ρ :=
  { store with
    locks := Function.update store.locks key (some owner)
    active := Function.update store.active owner (some (transaction.write key row fired))
    next := store.next + fired.length }

/-- The transaction ends and its locks are released. -/
def Store.release (store : Store κ τ ρ) (owner : τ) : Store κ τ ρ :=
  { store with
    locks := fun key => if store.locks key = some owner then none else store.locks key
    active := Function.update store.active owner none }

/-- What is observed is what becomes visible: the entries of a commit. -/
def step (triggers : Triggers κ ρ β) (store : Store κ τ ρ) :
    Action κ τ ρ → Option (Store κ τ ρ × List (Entry κ ρ))
  | .begins owner now =>
    match store.active owner with
    | some _ => none
    | none => some ({ store with
        active := Function.update store.active owner (some ⟨now, fun _ => none, []⟩) }, [])
  | .insert owner key row =>
    (store.active owner).bind fun transaction =>
      match transaction.written key, store.rows key with
      | none, none =>
        if store.available owner key then
          some (store.write owner transaction key (.fresh row)
            (triggers.onInsert store.next key row transaction.began), [])
        else none
      | _, _ => none
  | .update owner key row =>
    (store.active owner).bind fun transaction =>
      if store.available owner key then
        ((transaction.written key).or (store.rows key)).map fun old =>
          (store.write owner transaction key { old with current := row }
            (triggers.onUpdate store.next key old.current row transaction.began), [])
      else none
  | .commit owner =>
    (store.active owner).map fun transaction =>
      ({ store.release owner with
          rows := fun key => (transaction.written key).or (store.rows key)
          log := store.log ++ transaction.entries }, transaction.entries)
  | .rollback owner => (store.active owner).map fun _ => (store.release owner, [])

abbrev steps (triggers : Triggers κ ρ β) : Store κ τ ρ → List (Entry κ ρ) → Store κ τ ρ → Prop :=
  takes (step triggers) anyAction

/-- The entries about one key. -/
def about (key : κ) (entries : List (Entry κ ρ)) : List (Entry κ ρ) :=
  entries.filter fun entry => entry.key = key

/-- One row, written by one statement after the other. -/
inductive RowStep (triggers : Triggers κ ρ β) (key : κ) :
    Option (Version ρ) → List (Entry κ ρ) → Option (Version ρ) → Prop
  | inserted (number : Nat) (row : ρ) (began : Int) :
      RowStep triggers key none (triggers.onInsert number key row began) (some (.fresh row))
  | updated (number : Nat) (old : Version ρ) (new : ρ) (began : Int) :
      RowStep triggers key (some old) (triggers.onUpdate number key old.current new began)
        (some { old with current := new })

end Step

section Finding

variable [DecidableEq τ] {store : Store κ τ ρ} {owner other : τ}
  {transaction found : Transaction κ ρ} {key : κ} {row : Version ρ} {fired : List (Entry κ ρ)}

/-- After a transaction has ended, the others are as before. -/
theorem release_active (running : (store.release owner).active other = some found) :
    other ≠ owner ∧ store.active other = some found := by
  simp only [Store.release, Function.update_apply] at running
  split at running
  · cases running
  · exact ⟨‹_›, running⟩

/-- A lock of another transaction stays. -/
theorem release_locks (locked : store.locks key = some other) (different : other ≠ owner) :
    (store.release owner).locks key = some other := by
  simp only [Store.release, locked, Option.some.injEq, different, if_false]

/-- The transactions that run after one more has begun. -/
theorem begin_active {now : Int}
    (running : Function.update store.active owner (some ⟨now, fun _ => none, []⟩) other =
      some found) :
    found = ⟨now, fun _ => none, []⟩ ∨ store.active other = some found := by
  rw [Function.update_apply] at running
  split at running
  · exact .inl (Option.some.inj running).symm
  · exact .inr running

/-- After a write the writer's transaction is the extended one; the others are as before. -/
theorem write_active [DecidableEq κ]
    (running : (store.write owner transaction key row fired).active other = some found) :
    other = owner ∧ found = transaction.write key row fired ∨
      other ≠ owner ∧ store.active other = some found := by
  simp only [Store.write, Function.update_apply] at running
  split at running
  · exact .inl ⟨‹_›, (Option.some.inj running).symm⟩
  · exact .inr ⟨‹_›, running⟩

end Finding

section Entries

variable [DecidableEq κ]

/-- The entries about a row in a longer log. -/
theorem about_append (key : κ) (before after : List (Entry κ ρ)) :
    about key (before ++ after) = about key before ++ about key after :=
  List.filter_append ..

/-- They are the entries with its key. -/
theorem mem_about {key : κ} {entries : List (Entry κ ρ)} {entry : Entry κ ρ} :
    entry ∈ about key entries ↔ entry ∈ entries ∧ entry.key = key := by
  simp [about]

/-- Every entry is about this key. -/
def Concerns (key : κ) (entries : List (Entry κ ρ)) : Prop := ∀ entry ∈ entries, entry.key = key

/-- Entries that concern one row are about it. -/
theorem Concerns.about_same {key : κ} {entries : List (Entry κ ρ)} (concerns : Concerns key entries) :
    about key entries = entries :=
  List.filter_eq_self.mpr fun entry member => by simpa using concerns entry member

/-- They are not about another one. -/
theorem Concerns.about_other {key other : κ} {entries : List (Entry κ ρ)}
    (concerns : Concerns key entries) (different : other ≠ key) : about other entries = [] := by
  refine List.filter_eq_nil_iff.mpr fun entry member => ?_
  simpa [concerns entry member] using different.symm

end Entries

section Firing

variable {triggers : Triggers κ ρ β}

/-- What a trigger logs of an INSERT concerns the inserted row. -/
theorem onInsert_concerns (number : Nat) (key : κ) (row : ρ) (began : Int) :
    Concerns key (triggers.onInsert number key row began) := by
  unfold Triggers.onInsert
  split
  · exact List.forall_mem_singleton.mpr rfl
  · exact List.forall_mem_nil _

/-- What it logs of an UPDATE concerns the updated one. -/
theorem onUpdate_concerns [DecidableEq β] (number : Nat) (key : κ) (old new : ρ) (began : Int) :
    Concerns key (triggers.onUpdate number key old new began) := by
  unfold Triggers.onUpdate
  split
  · exact List.forall_mem_singleton.mpr rfl
  · exact List.forall_mem_nil _

/-- At most one entry, under the next number. -/
def Fires (number : Nat) (fired : List (Entry κ ρ)) : Prop :=
  fired = [] ∨ ∃ entry, fired = [entry] ∧ entry.number = number

/-- A trigger numbers what it logs of an INSERT. -/
theorem onInsert_fires (number : Nat) (key : κ) (row : ρ) (began : Int) :
    Fires number (triggers.onInsert number key row began) := by
  unfold Triggers.onInsert
  split
  · exact .inr ⟨_, rfl, rfl⟩
  · exact .inl rfl

/-- It numbers what it logs of an UPDATE. -/
theorem onUpdate_fires [DecidableEq β] (number : Nat) (key : κ) (old new : ρ) (began : Int) :
    Fires number (triggers.onUpdate number key old new began) := by
  unfold Triggers.onUpdate
  split
  · exact .inr ⟨_, rfl, rfl⟩
  · exact .inl rfl

/-- The numbers drawn so far are below the next one. -/
theorem below_fires {entries fired : List (Entry κ ρ)} {number : Nat}
    (below : ∀ entry ∈ entries, entry.number < number) (fires : Fires number fired) :
    ∀ entry ∈ entries ++ fired, entry.number < number + fired.length := by
  intro entry member
  rcases List.mem_append.mp member with old | new
  · exact Nat.lt_add_right _ (below entry old)
  · rcases fires with rfl | ⟨last, rfl, same⟩
    · cases new
    · rw [List.mem_singleton.mp new, same]
      exact Nat.lt_succ_self number

end Firing

section Accounts

variable [DecidableEq κ] [DecidableEq β] {triggers : Triggers κ ρ β} {origin : κ → Option ρ}
  {store next : Store κ τ ρ} {owner : τ} {transaction : Transaction κ ρ}
  {observed : List (Entry κ ρ)}

/-- The committed log accounts for every committed row, and the entries of a transaction in
progress for every row it has written; what it has written it has locked. -/
structure Accounts (triggers : Triggers κ ρ β) (origin : κ → Option ρ) (store : Store κ τ ρ) :
    Prop where
  committed : ∀ key, Run (RowStep triggers key) ((origin key).map .fresh) (about key store.log)
    (store.rows key)
  pending : ∀ owner transaction, store.active owner = some transaction →
    ∀ key row, transaction.written key = some row →
      store.locks key = some owner ∧
        Run (RowStep triggers key) (store.rows key) (about key transaction.entries) (some row)
  silent : ∀ owner transaction, store.active owner = some transaction →
    ∀ key, transaction.written key = none → about key transaction.entries = []

/-- A quiet store accounts for its rows with an empty log. -/
theorem quiet_accounts (rows : κ → Option ρ) (number : Nat) :
    Accounts triggers rows (Store.quiet rows number : Store κ τ ρ) where
  committed _ := .start
  pending := by rintro owner transaction ⟨⟩
  silent := by rintro owner transaction ⟨⟩

/-- What a transaction sees of a row, its own entries account for. -/
theorem Accounts.seen (accounts : Accounts triggers origin store)
    (running : store.active owner = some transaction) (key : κ) :
    Run (RowStep triggers key) (store.rows key) (about key transaction.entries)
      ((transaction.written key).or (store.rows key)) := by
  cases written : transaction.written key with
  | none =>
    rw [accounts.silent owner transaction running key written]
    exact .start
  | some row => exact (accounts.pending owner transaction running key row written).2

/-- Two transactions have not written the same row. -/
theorem Accounts.unshared (accounts : Accounts triggers origin store)
    (running : store.active owner = some transaction) {other : τ} {pending : Transaction κ ρ}
    (running' : store.active other = some pending) (different : other ≠ owner) {key : κ}
    {row : Version ρ}
    (written : pending.written key = some row) : transaction.written key = none := by
  cases own : transaction.written key with
  | none => rfl
  | some stored =>
    have locked := (accounts.pending owner transaction running key stored own).1
    have locked' := (accounts.pending other pending running' key row written).1
    exact absurd (Option.some.inj (locked'.symm.trans locked)) different

variable [DecidableEq τ]

/-- A transaction that begins changes nothing of that. -/
theorem begin_accounts (accounts : Accounts triggers origin store) (now : Int) :
    Accounts triggers origin { store with
      active := Function.update store.active owner (some ⟨now, fun _ => none, []⟩) } where
  committed := accounts.committed
  pending := by
    intro other pending found
    rcases begin_active found with rfl | before
    · rintro key row ⟨⟩
    · exact accounts.pending other pending before
  silent := by
    intro other pending found
    rcases begin_active found with rfl | before
    · exact fun _ _ => rfl
    · exact accounts.silent other pending before

/-- A write of one row by a transaction that may lock it. -/
theorem write_accounts (accounts : Accounts triggers origin store)
    (running : store.active owner = some transaction) {key : κ} {row : Version ρ}
    (lockable : store.available owner key) {fired : List (Entry κ ρ)}
    (concerns : Concerns key fired)
    (written : RowStep triggers key ((transaction.written key).or (store.rows key)) fired
      (some row)) : Accounts triggers origin (store.write owner transaction key row fired) where
  committed := accounts.committed
  pending := by
    intro other pending found wanted stored seen
    rcases write_active found with ⟨rfl, rfl⟩ | ⟨different, before⟩
    · by_cases this : wanted = key
      · subst this
        obtain rfl : row = stored := by
          simpa [Transaction.write] using seen
        refine ⟨Function.update_self .., ?_⟩
        rw [Transaction.write, about_append, concerns.about_same]
        exact (accounts.seen running wanted).step written
      · simp only [Transaction.write, Function.update_of_ne this] at seen
        have earlier := accounts.pending other transaction running wanted stored seen
        refine ⟨(Function.update_of_ne this ..).trans earlier.1, ?_⟩
        rw [Transaction.write, about_append, concerns.about_other this, List.append_nil]
        exact earlier.2
    · have earlier := accounts.pending other pending before wanted stored seen
      have unlocked : wanted ≠ key := by
        rintro rfl
        rcases lockable with free | own
        · exact Option.some_ne_none _ (earlier.1.symm.trans free)
        · exact different (Option.some.inj (earlier.1.symm.trans own))
      exact ⟨(Function.update_of_ne unlocked ..).trans earlier.1, earlier.2⟩
  silent := by
    intro other pending found wanted unseen
    rcases write_active found with ⟨rfl, rfl⟩ | ⟨-, before⟩
    · have this : wanted ≠ key := by
        rintro rfl
        simp [Transaction.write] at unseen
      simp only [Transaction.write, Function.update_of_ne this] at unseen
      rw [Transaction.write, about_append, concerns.about_other this, List.append_nil]
      exact accounts.silent other transaction running wanted unseen
    · exact accounts.silent other pending before wanted unseen

/-- A transaction that rolls back leaves nothing. -/
theorem release_accounts (accounts : Accounts triggers origin store) :
    Accounts triggers origin (store.release owner) where
  committed := accounts.committed
  pending := by
    intro other pending found wanted stored seen
    obtain ⟨different, before⟩ := release_active found
    have earlier := accounts.pending other pending before wanted stored seen
    exact ⟨release_locks earlier.1 different, earlier.2⟩
  silent := by
    intro other pending found
    exact accounts.silent other pending (release_active found).2

/-- A commit extends the log by what its own entries account for. -/
theorem commit_accounts (accounts : Accounts triggers origin store)
    (running : store.active owner = some transaction) :
    Accounts triggers origin { store.release owner with
      rows := fun key => (transaction.written key).or (store.rows key)
      log := store.log ++ transaction.entries } where
  committed := by
    intro key
    rw [about_append]
    exact (accounts.committed key).trans (accounts.seen running key)
  pending := by
    intro other pending found wanted stored seen
    obtain ⟨different, before⟩ := release_active found
    have earlier := accounts.pending other pending before wanted stored seen
    have unwritten := accounts.unshared running before different seen
    refine ⟨release_locks earlier.1 different, ?_⟩
    simpa only [unwritten, Option.none_or] using earlier.2
  silent := by
    intro other pending found
    exact accounts.silent other pending (release_active found).2

end Accounts

section Numbers

variable [DecidableEq κ] [DecidableEq β] {triggers : Triggers κ ρ β} {origin : κ → Option ρ}
  {store next : Store κ τ ρ} {owner : τ} {transaction : Transaction κ ρ}
  {observed : List (Entry κ ρ)}

/-- Numbered upwards. -/
def Ascending (entries : List (Entry κ ρ)) : Prop :=
  entries.Pairwise fun earlier later => earlier.number < later.number

/-- All numbers have been drawn, and the entries about one key are numbered in the order in
which they were added, those of a transaction in progress after those that are committed. -/
structure Numbered (store : Store κ τ ρ) : Prop where
  logged : ∀ entry ∈ store.log, entry.number < store.next
  drawn : ∀ owner transaction, store.active owner = some transaction →
    ∀ entry ∈ transaction.entries, entry.number < store.next
  ordered : ∀ key, Ascending (about key store.log)
  orderedPending : ∀ owner transaction, store.active owner = some transaction →
    ∀ key, Ascending (about key (store.log ++ transaction.entries))

/-- An empty log is numbered. -/
theorem quiet_numbered (rows : κ → Option ρ) (number : Nat) :
    Numbered (Store.quiet rows number : Store κ τ ρ) where
  logged := List.forall_mem_nil _
  drawn := by rintro owner transaction ⟨⟩
  ordered _ := List.Pairwise.nil
  orderedPending := by rintro owner transaction ⟨⟩

/-- An entry with a higher number than all comes last. -/
theorem ascending_fires {entries fired : List (Entry κ ρ)} {number : Nat} {key : κ}
    (ascending : Ascending (about key entries)) (below : ∀ entry ∈ entries, entry.number < number)
    (fires : Fires number fired) : Ascending (about key (entries ++ fired)) := by
  rcases fires with rfl | ⟨last, rfl, same⟩
  · rwa [List.append_nil]
  · rw [about_append]
    refine List.pairwise_append.mpr ⟨ascending, ?_, ?_⟩
    · exact List.Pairwise.filter _ (List.pairwise_singleton _ last)
    · intro entry member final isLast
      rw [List.mem_singleton.mp (mem_about.mp isLast).1, same]
      exact below entry (mem_about.mp member).1

variable [DecidableEq τ]

/-- A transaction that begins has drawn no number. -/
theorem begin_numbered (numbered : Numbered store) (now : Int) :
    Numbered { store with
      active := Function.update store.active owner (some ⟨now, fun _ => none, []⟩) } where
  logged := numbered.logged
  drawn := by
    intro other pending found
    rcases begin_active found with rfl | before
    · exact List.forall_mem_nil _
    · exact numbered.drawn other pending before
  ordered := numbered.ordered
  orderedPending := by
    intro other pending found key
    rcases begin_active found with rfl | before
    · rw [List.append_nil]
      exact numbered.ordered key
    · exact numbered.orderedPending other pending before key

/-- A write draws the next ones. -/
theorem write_numbered (numbered : Numbered store) (running : store.active owner = some transaction)
    {key : κ} {row : Version ρ} {fired : List (Entry κ ρ)} (fires : Fires store.next fired) :
    Numbered (store.write owner transaction key row fired) where
  logged entry member := Nat.lt_add_right _ (numbered.logged entry member)
  drawn := by
    intro other pending found
    rcases write_active found with ⟨rfl, rfl⟩ | ⟨-, before⟩
    · exact below_fires (numbered.drawn other transaction running) fires
    · exact fun entry member =>
        Nat.lt_add_right _ (numbered.drawn other pending before entry member)
  ordered := numbered.ordered
  orderedPending := by
    intro other pending found wanted
    rcases write_active found with ⟨rfl, rfl⟩ | ⟨-, before⟩
    · have below : ∀ entry ∈ store.log ++ transaction.entries, entry.number < store.next :=
        List.forall_mem_append.mpr ⟨numbered.logged, numbered.drawn other transaction running⟩
      have ascending := ascending_fires (numbered.orderedPending other transaction running wanted)
        below fires
      rwa [List.append_assoc] at ascending
    · exact numbered.orderedPending other pending before wanted

/-- A transaction that ends gives none back. -/
theorem release_numbered (numbered : Numbered store) : Numbered (store.release owner) where
  logged := numbered.logged
  drawn other pending found := numbered.drawn other pending (release_active found).2
  ordered := numbered.ordered
  orderedPending other pending found :=
    numbered.orderedPending other pending (release_active found).2

/-- The entries of a commit come after all that are committed. Where another transaction in
progress has entries about a key, this one has none. -/
theorem commit_numbered (accounts : Accounts triggers origin store) (numbered : Numbered store)
    (running : store.active owner = some transaction) :
    Numbered { store.release owner with
      rows := fun key => (transaction.written key).or (store.rows key)
      log := store.log ++ transaction.entries } where
  logged := List.forall_mem_append.mpr ⟨numbered.logged, numbered.drawn owner transaction running⟩
  drawn other pending found := numbered.drawn other pending (release_active found).2
  ordered := numbered.orderedPending owner transaction running
  orderedPending := by
    intro other pending found key
    obtain ⟨different, before⟩ := release_active found
    show Ascending (about key (store.log ++ transaction.entries ++ pending.entries))
    cases written : pending.written key with
    | none =>
      rw [about_append, accounts.silent other pending before key written, List.append_nil]
      exact numbered.orderedPending owner transaction running key
    | some row =>
      have unwritten := accounts.unshared running before different written
      rw [about_append, about_append, accounts.silent owner transaction running key unwritten,
        List.append_nil, ← about_append]
      exact numbered.orderedPending other pending before key

end Numbers

section Runs

variable [DecidableEq κ] [DecidableEq τ] [DecidableEq β] {triggers : Triggers κ ρ β}
  {origin : κ → Option ρ} {store next : Store κ τ ρ} {observed : List (Entry κ ρ)}

/-- Every step of any transaction keeps the accounts and the numbers. -/
theorem step_keeps (accounts : Accounts triggers origin store) (numbered : Numbered store)
    (taken : steps triggers store observed next) :
    Accounts triggers origin next ∧ Numbered next ∧ next.log = store.log ++ observed := by
  obtain ⟨action, -, taken⟩ := taken
  cases action with
  | begins owner now =>
    simp only [step] at taken
    split at taken
    · cases taken
    · simp only [Option.some.injEq, Prod.mk.injEq] at taken
      obtain ⟨rfl, rfl⟩ := taken
      exact ⟨begin_accounts accounts now, begin_numbered numbered now, (List.append_nil _).symm⟩
  | insert owner key row =>
    simp only [step, Option.bind_eq_some_iff] at taken
    obtain ⟨transaction, running, taken⟩ := taken
    split at taken
    · rename_i unwritten absent
      simp only [Option.ite_none_right_eq_some, Option.some.injEq, Prod.mk.injEq] at taken
      obtain ⟨lockable, rfl, rfl⟩ := taken
      refine ⟨write_accounts accounts running lockable (onInsert_concerns _ _ _ _) ?_,
        write_numbered numbered running (onInsert_fires _ _ _ _), (List.append_nil _).symm⟩
      rw [unwritten, absent]
      exact .inserted ..
    · cases taken
  | update owner key row =>
    simp only [step, Option.bind_eq_some_iff, Option.ite_none_right_eq_some,
      Option.map_eq_some_iff, Prod.mk.injEq] at taken
    obtain ⟨transaction, running, lockable, old, seen, rfl, rfl⟩ := taken
    refine ⟨write_accounts accounts running lockable (onUpdate_concerns _ _ _ _ _) ?_,
      write_numbered numbered running (onUpdate_fires _ _ _ _ _), (List.append_nil _).symm⟩
    rw [seen]
    exact .updated ..
  | commit owner =>
    simp only [step, Option.map_eq_some_iff, Prod.mk.injEq] at taken
    obtain ⟨transaction, running, rfl, rfl⟩ := taken
    exact ⟨commit_accounts accounts running, commit_numbered accounts numbered running, rfl⟩
  | rollback owner =>
    simp only [step, Option.map_eq_some_iff, Prod.mk.injEq] at taken
    obtain ⟨transaction, -, rfl, rfl⟩ := taken
    exact ⟨release_accounts accounts, release_numbered numbered, (List.append_nil _).symm⟩

/-- Over every interleaving, the log about each key is the history of a serial run of that row
alone, numbered upwards. -/
theorem run_rows {rows : κ → Option ρ} {number : Nat} {history : List (Entry κ ρ)}
    (run : Run (steps triggers) (Store.quiet rows number : Store κ τ ρ) history store) (key : κ) :
    Run (RowStep triggers key) ((rows key).map .fresh) (about key store.log) (store.rows key) ∧
      Ascending (about key store.log) ∧ store.log = history := by
  have kept := run.invariant
    (fun history store => Accounts triggers rows store ∧ Numbered store ∧ store.log = history)
    ⟨quiet_accounts rows number, quiet_numbered rows number, rfl⟩
    (by
      rintro history observed state next _ ⟨accounts, numbered, same⟩ taken
      obtain ⟨accounts', numbered', extended⟩ := step_keeps accounts numbered taken
      exact ⟨accounts', numbered', same ▸ extended⟩)
  exact ⟨kept.1.committed key, kept.2.1.ordered key, kept.2.2⟩

end Runs

section Reading

/-- Entries that lead from one tracked value to another, each a change and each starting where
the one before it ended. -/
def Chain (tracked : ρ → β) : β → List (Entry κ ρ) → β → Prop
  | first, [], last => first = last
  | first, .changed _ _ old new _ :: rest, last =>
    tracked old = first ∧ tracked old ≠ tracked new ∧ Chain tracked (tracked new) rest last
  | _, .inserted _ _ _ _ :: _, _ => False

/-- A row that is there was reached from the value it was inserted with, or stored with at first;
one that is not there was never there. -/
def Leads (tracked : ρ → β) (before : Option ρ) (entries : List (Entry κ ρ)) :
    Option (Version ρ) → Prop
  | none => before = none ∧ entries = []
  | some row => Chain tracked (tracked row.original) entries (tracked row.current) ∧
      ∀ stored, before = some stored → row.original = stored

/-- A row that was inserted has one entry, of the row as it was inserted. -/
def LoggedOnce (key : κ) : Option ρ → List (Entry κ ρ) → Option (Version ρ) → Prop
  | none, entries, none => entries = []
  | none, entries, some row => ∃ number began, entries = [.inserted number key row.original began]
  | some _, entries, after => entries = [] ∧ after.isSome

/-- One more change continues a chain. -/
theorem chain_snoc {tracked : ρ → β} {number : Nat} {key : κ} {old new : ρ} {began : Int}
    (differs : tracked old ≠ tracked new) {entries : List (Entry κ ρ)} {first : β}
    (chain : Chain tracked first entries (tracked old)) :
    Chain tracked first (entries ++ [.changed number key old new began]) (tracked new) := by
  induction entries generalizing first with
  | nil => exact ⟨chain.symm, differs, rfl⟩
  | cons entry rest inductionHypothesis =>
    cases entry with
    | inserted => exact chain.elim
    | changed =>
      obtain ⟨starts, changes, continues⟩ := chain
      exact ⟨starts, changes, inductionHypothesis continues⟩

variable [DecidableEq β] {triggers : Triggers κ ρ β} {key : κ} {before : Option ρ}
  {after : Option (Version ρ)} {entries : List (Entry κ ρ)}

/-- Where only updates are logged, the entries about a row lead from its first tracked value to
the present one. -/
theorem updates_lead (updates : triggers.afterUpdate key = true)
    (inserts : triggers.afterInsert key = false)
    (run : Run (RowStep triggers key) (before.map .fresh) entries after) :
    Leads triggers.tracked before entries after := by
  induction run with
  | start =>
    cases before with
    | none => exact ⟨rfl, rfl⟩
    | some row => exact ⟨rfl, fun stored same => Option.some.inj same⟩
  | step earlier taken inductionHypothesis =>
    cases taken with
    | inserted number row began =>
      obtain ⟨rfl, rfl⟩ := inductionHypothesis
      refine ⟨?_, by rintro stored ⟨⟩⟩
      simp [Triggers.onInsert, inserts, Chain, Version.fresh]
    | updated number old new began =>
      obtain ⟨chain, starts⟩ := inductionHypothesis
      refine ⟨?_, starts⟩
      by_cases differs : triggers.tracked old.current = triggers.tracked new
      · simpa [Triggers.onUpdate, updates, differs] using chain
      · simpa [Triggers.onUpdate, updates, differs] using chain_snoc differs chain

/-- Where only inserts are logged, no update adds to the entry of a row. -/
theorem inserts_once (updates : triggers.afterUpdate key = false)
    (inserts : triggers.afterInsert key = true)
    (run : Run (RowStep triggers key) (before.map .fresh) entries after) :
    LoggedOnce key before entries after := by
  induction run with
  | start =>
    cases before with
    | none => rfl
    | some row => exact ⟨rfl, rfl⟩
  | step earlier taken inductionHypothesis =>
    cases taken with
    | inserted number row began =>
      cases before with
      | none =>
        obtain rfl : _ = [] := inductionHypothesis
        exact ⟨number, began, by simp [Triggers.onInsert, inserts, Version.fresh]⟩
      | some stored =>
        obtain ⟨-, present⟩ := inductionHypothesis
        cases present
    | updated number old new began =>
      have silent : triggers.onUpdate number key old.current new began = [] := by
        simp [Triggers.onUpdate, updates]
      simp only [silent, List.append_nil]
      cases before with
      | none => exact inductionHypothesis
      | some stored => exact ⟨inductionHypothesis.1, rfl⟩

end Reading

/-- A reader that sorts by number gets what was numbered upwards in the order in which it was
added, whatever order it meets it in. -/
theorem read_by_number {γ : Type u} (number : γ → Nat) {scan added : List γ}
    (ascending : added.Pairwise fun earlier later => number earlier < number later)
    (same : scan.Perm added) :
    scan.insertionSort (fun one other => number one ≤ number other) = added := by
  have sorted := List.pairwise_insertionSort (fun one other : γ => number one ≤ number other) scan
  have reads := (List.perm_insertionSort
    (fun one other : γ => number one ≤ number other) scan).trans same
  refine List.Perm.eq_of_pairwise ?_ sorted (ascending.imp Nat.le_of_lt) reads
  intro one other member member' below above
  have distinct : (added.map number).Nodup := List.pairwise_map.mpr (ascending.imp Nat.ne_of_lt)
  exact List.inj_on_of_nodup_map distinct (reads.mem_iff.mp member) member'
    (Nat.le_antisymm below above)

end PlanBuddy.ChangeLog
