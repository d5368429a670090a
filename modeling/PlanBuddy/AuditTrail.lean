import PlanBuddy.ChangeLog
import PlanBuddy.Queues

/-!
# The financial audit log

Migration 170 adds a trigger to each of three tables: AFTER UPDATE on `bookings`, when
`payment_status` differs, AFTER UPDATE on `payments`, when `status` differs, and AFTER INSERT on
`refunds`. All write to `financial_audit_log`, whose id is a SERIAL and whose `created_at` is
`NOW()`, the instant at which the transaction began; nothing else writes to it. The three tables
are the keyed tables of one change log. Columns that no trigger reads are left out, as are the
columns of the log that no trigger sets.

Statements of any transactions are interleaved. A statement whose trigger fails, or that some
other constraint refuses, aborts its transaction, which rolls back.
-/

namespace PlanBuddy.AuditTrail

open ChangeLog

abbrev RowId := Nat

inductive Key where
  | booking (id : RowId)
  | payment (id : RowId)
  | refund (id : RowId)
deriving DecidableEq

/-- The columns the triggers read, of a row of any of the three tables; what its table lacks is
not read. `status` is `payment_status` of a booking, `razorpayId` the `razorpay_payment_id` of a
payment and the `razorpay_refund_id` of a refund. -/
structure Row where
  status : String
  bookingId : RowId := 0
  paymentId : RowId := 0
  razorpayId : Option String := none
  amountPaise : Int := 0
  idempotencyKey : Option String := none
deriving DecidableEq

/-- `booking_audit_trigger`, `payment_audit_trigger` and `refund_audit_trigger`. -/
def triggers : Triggers Key Row String where
  tracked := Row.status
  afterInsert
    | .refund _ => true
    | _ => false
  afterUpdate
    | .refund _ => false
    | _ => true

/-- What `jsonb_build_object` is given; `timestamp` is `NOW()`. -/
inductive Metadata where
  | booking (oldStatus newStatus : String) (timestamp : Time)
  | payment (oldStatus newStatus : String) (razorpayPaymentId : Option String) (timestamp : Time)
  | refund (refundId : RowId) (amountPaise : Int) (razorpayRefundId idempotencyKey : Option String)
      (timestamp : Time)
deriving DecidableEq

/-- A row of `financial_audit_log`. -/
structure Audit where
  id : Nat
  eventType : String
  bookingId : Option RowId
  paymentId : Option RowId
  refundId : Option String
  status : String
  metadata : Metadata
  createdAt : Time
deriving DecidableEq

def auditBookingChanges (number : Nat) (id : RowId) (old new : Row) (now : Time) : Audit where
  id := number
  eventType := "booking_payment_status_changed"
  bookingId := some id
  paymentId := none
  refundId := none
  status := new.status
  metadata := .booking old.status new.status now
  createdAt := now

/-- The subselect on `payments` finds the row that was just written. -/
def auditPaymentChanges (number : Nat) (id : RowId) (old new : Row) (now : Time) : Audit where
  id := number
  eventType := "payment_status_changed"
  bookingId := some new.bookingId
  paymentId := some id
  refundId := none
  status := new.status
  metadata := .payment old.status new.status new.razorpayId now
  createdAt := now

def auditRefundChanges (number : Nat) (id : RowId) (new : Row) (now : Time) : Audit where
  id := number
  eventType := "refund_" ++ new.status
  bookingId := none
  paymentId := some new.paymentId
  refundId := new.razorpayId
  status := new.status
  metadata := .refund id new.amountPaise new.razorpayId new.idempotencyKey now
  createdAt := now

/-- The row of the log that an entry stands for. Where a table has no such trigger there is
none. -/
def audit : Entry Key Row → Option Audit
  | .changed number (.booking id) old new began => some (auditBookingChanges number id old new began)
  | .changed number (.payment id) old new began => some (auditPaymentChanges number id old new began)
  | .inserted number (.refund id) row began => some (auditRefundChanges number id row began)
  | _ => none

/-- `SELECT * FROM financial_audit_log WHERE …` for the history of one row. -/
def concerns : Key → Audit → Bool
  | .booking id, row =>
    decide (row.eventType = "booking_payment_status_changed" ∧ row.bookingId = some id)
  | .payment id, row =>
    decide (row.eventType = "payment_status_changed" ∧ row.paymentId = some id)
  | .refund id, row =>
    match row.metadata with
    | .refund refundId _ _ _ _ => decide (refundId = id)
    | _ => false

/-- The same with `ORDER BY id`, on the rows of the log as a scan meets them. -/
def historyOf (key : Key) (scan : List Audit) : List Audit :=
  (scan.filter (concerns key)).insertionSort fun one other => one.id ≤ other.id

/-- `metadata->>'old_status'`. -/
def Metadata.oldStatus : Metadata → Option String
  | .booking oldStatus _ _ => some oldStatus
  | .payment oldStatus _ _ _ => some oldStatus
  | .refund _ _ _ _ _ => none

/-- Rows of the log that lead from one status to another, each starting where the one before it
ended. -/
def Traces : String → List Audit → String → Prop
  | first, [], last => first = last
  | first, row :: rest, last =>
    row.metadata.oldStatus = some first ∧ row.status ≠ first ∧ Traces row.status rest last

section Records

/-- A row of the log has the number of its entry. -/
theorem audit_id {entry : Entry Key Row} {row : Audit} (logged : audit entry = some row) :
    row.id = entry.number := by
  cases entry with
  | changed number key old new began =>
    cases key with
    | booking id => exact (Option.some.inj logged) ▸ rfl
    | payment id => exact (Option.some.inj logged) ▸ rfl
    | refund id => cases logged
  | inserted number key new began =>
    cases key with
    | booking id => cases logged
    | payment id => cases logged
    | refund id => exact (Option.some.inj logged) ▸ rfl

/-- No status makes the event of a refund that of a booking or a payment. -/
theorem refund_event (status : String) :
    "refund_" ++ status ≠ "booking_payment_status_changed" ∧
      "refund_" ++ status ≠ "payment_status_changed" := by
  constructor
  all_goals
    intro same
    have letters := congrArg String.toList same
    rw [String.toList_append] at letters
    simp at letters

/-- A reader's condition picks the rows that the entries about the key stand for. -/
theorem audit_concerns (key : Key) (entry : Entry Key Row) :
    (audit entry).filter (concerns key) = if entry.key = key then audit entry else none := by
  cases entry with
  | changed number changed old new began =>
    cases changed with
    | booking id => cases key <;> simp [audit, auditBookingChanges, concerns, Entry.key, Option.filter]
    | payment id => cases key <;> simp [audit, auditPaymentChanges, concerns, Entry.key, Option.filter]
    | refund id => simp [audit]
  | inserted number inserted new began =>
    cases inserted with
    | booking id => simp [audit]
    | payment id => simp [audit]
    | refund id =>
      cases key <;>
        simp [audit, auditRefundChanges, concerns, Entry.key, Option.filter, refund_event]

end Records

section Reading

/-- The rows of the log that a reader selects for a key, as the scan meets them. -/
theorem concerns_about (key : Key) (log : List (Entry Key Row)) :
    (log.filterMap audit).filter (concerns key) = (about key log).filterMap audit := by
  rw [List.filter_filterMap, about, List.filterMap_filter]
  refine List.filterMap_congr fun entry _ => ?_
  rw [audit_concerns]
  by_cases same : entry.key = key <;> simp [same]

/-- Sorting by id reads the entries about a key in the order in which they were added. -/
theorem historyOf_about {key : Key} {log : List (Entry Key Row)} {scan : List Audit}
    (ascending : Ascending (about key log)) (scanned : scan.Perm (log.filterMap audit)) :
    historyOf key scan = (about key log).filterMap audit := by
  refine read_by_number Audit.id ?_ (concerns_about key log ▸ scanned.filter _)
  refine List.Pairwise.filterMap _ ?_ ascending
  intro earlier later before row logged row' logged'
  rw [audit_id logged, audit_id logged']
  exact before

/-- The rows of a chain of entries about a booking or a payment trace its statuses. -/
theorem traces_chain {key : Key} (audited : ∀ id, key ≠ .refund id) {entries : List (Entry Key Row)}
    (own : ∀ entry ∈ entries, entry.key = key) {first last : String}
    (chain : Chain Row.status first entries last) :
    Traces first (entries.filterMap audit) last := by
  induction entries generalizing first with
  | nil => exact chain
  | cons entry rest inductionHypothesis =>
    cases entry with
    | inserted => exact chain.elim
    | changed number changed old new began =>
      obtain ⟨starts, differs, continues⟩ := chain
      have traced := inductionHypothesis
        (fun entry member => own entry (List.mem_cons_of_mem _ member)) continues
      have same : changed = key := own _ List.mem_cons_self
      cases changed with
      | booking id =>
        exact ⟨congrArg some starts, fun equal => differs (starts.trans equal.symm), traced⟩
      | payment id =>
        exact ⟨congrArg some starts, fun equal => differs (starts.trans equal.symm), traced⟩
      | refund id => exact absurd same.symm (audited id)

end Reading

section Trail

variable {rows : Key → Option Row} {number : Nat} {history : List (Entry Key Row)} {τ : Type}
  [DecidableEq τ] {store : Store Key τ Row} {scan : List Audit}

/-- Whatever transactions run, how their statements interleave and which of them roll back: read
by id, the log about a booking or a payment leads from the status it had when the trigger was
installed, or was inserted with, to the status it has. -/
theorem audit_traces
    (run : Run (steps triggers) (Store.quiet rows number : Store Key τ Row) history store)
    (scanned : scan.Perm (store.log.filterMap audit)) {key : Key}
    (audited : ∀ id, key ≠ .refund id) {row : Version Row} (stored : store.rows key = some row) :
    Traces row.original.status (historyOf key scan) row.current.status ∧
      ∀ installed, rows key = some installed → row.original = installed := by
  obtain ⟨serial, ascending, -⟩ := run_rows run key
  have leads : Leads Row.status (rows key) (about key store.log) (store.rows key) := by
    cases key with
    | booking id => exact updates_lead rfl rfl serial
    | payment id => exact updates_lead rfl rfl serial
    | refund id => exact absurd rfl (audited id)
  rw [stored] at leads
  obtain ⟨chain, starts⟩ := leads
  refine ⟨?_, starts⟩
  rw [historyOf_about ascending scanned]
  exact traces_chain audited (fun entry member => (mem_about.mp member).2) chain

/-- The log has one row about a refund that was inserted since, of the refund as it was inserted,
and none about any other refund; no later update of the refund is recorded. -/
theorem refund_audited_once
    (run : Run (steps triggers) (Store.quiet rows number : Store Key τ Row) history store)
    (scanned : scan.Perm (store.log.filterMap audit)) (id : RowId) :
    match rows (.refund id), store.rows (.refund id) with
    | none, some row => ∃ number began,
        historyOf (.refund id) scan = [auditRefundChanges number id row.original began]
    | _, _ => historyOf (.refund id) scan = [] := by
  obtain ⟨serial, ascending, -⟩ := run_rows run (.refund id)
  have once : LoggedOnce _ _ _ _ := inserts_once rfl rfl serial
  rw [historyOf_about ascending scanned]
  cases before : rows (.refund id) with
  | some installed =>
    rw [before] at once
    simp only [once.1, List.filterMap_nil]
  | none =>
    rw [before] at once
    cases after : store.rows (.refund id) with
    | none =>
      rw [after] at once
      have unlogged : about (.refund id) store.log = [] := once
      simp only [unlogged, List.filterMap_nil]
    | some current =>
      rw [after] at once
      obtain ⟨drawn, began, single⟩ := once
      exact ⟨drawn, began, by rw [single]; rfl⟩

end Trail

section Sample

/-- Two bookings and a payment, as they are when the triggers are installed. -/
def installed : Key → Option Row
  | .booking 1 => some { status := "unpaid" }
  | .booking 2 => some { status := "paid" }
  | .payment 5 => some { status := "created", bookingId := 1 }
  | _ => none

/-- The first transaction begins first and writes the booking last, after the second has paid
for it, and inserts a refund that it then updates; a third rolls back. -/
def overtaken : List (Action Key Nat Row) :=
  [.begins 1 1000, .begins 2 2000, .begins 3 2500,
    .update 2 (.booking 1) { status := "paid" },
    .update 2 (.payment 5) { status := "captured", bookingId := 1 },
    .update 3 (.booking 2) { status := "refunded" }, .commit 2, .rollback 3,
    .update 1 (.booking 1) { status := "refunded" },
    .insert 1 (.refund 9) { status := "pending", paymentId := 5 },
    .update 1 (.refund 9) { status := "processed", paymentId := 5 }, .commit 1]

/-- The sample goes through. -/
theorem overtaken_accepted :
    (execute (step triggers) (Store.quiet installed 1 : Store Key Nat Row) overtaken).isSome := by
  decide

/-- The log as a scan meets it, newest first. -/
def overtakenScan : List Audit :=
  ((((execute (step triggers) (Store.quiet installed 1 : Store Key Nat Row) overtaken).get
    overtaken_accepted).1.log).filterMap audit).reverse

/-- The booking of the sample. -/
theorem overtaken_stored :
    ((execute (step triggers) (Store.quiet installed 1 : Store Key Nat Row) overtaken).get
      overtaken_accepted).1.rows (.booking 1) =
        some ⟨{ status := "unpaid" }, { status := "refunded" }⟩ := by
  decide

/-- Its refund, which was updated after it was inserted. -/
theorem overtaken_inserted :
    ((execute (step triggers) (Store.quiet installed 1 : Store Key Nat Row) overtaken).get
      overtaken_accepted).1.rows (.refund 9) =
        some ⟨{ status := "pending", paymentId := 5 }, { status := "processed", paymentId := 5 }⟩ := by
  decide

/-- The log of the booking leads from unpaid to refunded. -/
theorem overtaken_traced :
    Traces "unpaid" (historyOf (.booking 1) overtakenScan) "refunded" :=
  (audit_traces (run_of_schedule overtaken overtaken_accepted) (List.reverse_perm _)
    (by simp) overtaken_stored).1

/-- The log of the refund has its status before the update. -/
theorem overtaken_refund : ∃ number began, historyOf (.refund 9) overtakenScan =
    [auditRefundChanges number 9 { status := "pending", paymentId := 5 } began] := by
  have once := refund_audited_once (run_of_schedule overtaken overtaken_accepted)
    (List.reverse_perm _) 9
  rw [overtaken_inserted] at once
  exact once

/-- `created_at` does not order the log: the transaction that began first wrote last. -/
theorem created_at_misleads :
    ¬ ∃ first, Traces first ((overtakenScan.filter (concerns (.booking 1))).insertionSort
      fun one other => one.createdAt ≤ other.createdAt) "refunded" := by
  rintro ⟨first, starts, differs, continues, rest⟩
  exact absurd continues (by decide)

end Sample

end PlanBuddy.AuditTrail
