import PlanBuddy.Queues
import PlanBuddy.Table

/-!
# Payment webhooks and the cross-table triggers

The handlers `applyPaymentEvent` and `applyRefundEvent` on the two tables they
write, under the BEFORE triggers of migration 130. A statement that a trigger
objects to raises, and so does a statement whose parameters have no type; the
surrounding transaction then leaves the database as it was before the event.

The unique indexes on payments and the foreign key to bookings are fields of the
database, so every statement has to keep them. Columns that neither handler nor
trigger reads, the audit triggers and the booking state machine of a later
migration are left out.
-/

namespace PlanBuddy.Payments

/-- Row identifiers are UUIDs, of which only equality matters. -/
abbrev RowId := Nat

inductive PaymentStatus where
  | created
  | captured
  | success
  | failed
  | refunded
  | partiallyRefunded
  | refundFailed
deriving DecidableEq

inductive BookingStatus where
  | pending
  | confirmed
  | cancellationPending
  | cancelled
  | completed
  | failed
  | expired
deriving DecidableEq

inductive BookingPayment where
  | unpaid
  | paid
  | refunded
  | partiallyRefunded
deriving DecidableEq

structure PaymentRow where
  id : RowId
  bookingId : RowId
  razorpayPaymentId : Option String
  status : PaymentStatus
  refundId : Option String
  refundedAt : Option Time
  updatedAt : Option Time

structure BookingRow where
  id : RowId
  status : BookingStatus
  paymentStatus : BookingPayment
  updatedAt : Option Time
deriving DecidableEq

/-- The two tables with their unique indexes and the foreign key between them. -/
@[ext]
structure Database where
  payments : Table PaymentRow.id
  bookings : Table BookingRow.id
  providerIdsUnique : (payments.rows.map PaymentRow.razorpayPaymentId).reduceOption.Nodup
  onePaymentPerBooking : (payments.rows.map PaymentRow.bookingId).Nodup
  booked : ∀ payment ∈ payments.rows, payment.bookingId ∈ bookings.rows.map BookingRow.id

section Triggers

/-- The message of a raised exception. -/
abbrev Raised := String

def paymentStatusText : PaymentStatus → String
  | .created => "created"
  | .captured => "captured"
  | .success => "success"
  | .failed => "failed"
  | .refunded => "refunded"
  | .partiallyRefunded => "partially_refunded"
  | .refundFailed => "refund_failed"

def capturedRequiresPaid (bookingId : RowId) : Raised :=
  "INVARIANT_VIOLATION: payments.status=captured requires bookings.payment_status=paid (booking_id="
    ++ toString bookingId ++ ")"

def refundRequiresRefunded (status : PaymentStatus) (bookingId : RowId) : Raised :=
  "INVARIANT_VIOLATION: payments.status=" ++ paymentStatusText status
    ++ " requires bookings.payment_status=refunded (booking_id=" ++ toString bookingId ++ ")"

def capturedForcesPaid (bookingId : RowId) : Raised :=
  "INVARIANT_VIOLATION: bookings.payment_status != paid despite captured payment (booking_id="
    ++ toString bookingId ++ ")"

/-- `enforce_payment_state_invariance`, on a payment row about to be stored. A missing
booking reads as null. -/
def enforcePaymentStateInvariance (bookings : Table BookingRow.id) (row : PaymentRow) :
    Option Raised :=
  let bookingStatus := (bookings.lookup row.bookingId).map BookingRow.paymentStatus
  if row.status = .captured ∧ bookingStatus ≠ some .paid then
    some (capturedRequiresPaid row.bookingId)
  else if (row.status = .refunded ∨ row.status = .partiallyRefunded) ∧
      bookingStatus ≠ some .refunded then
    some (refundRequiresRefunded row.status row.bookingId)
  else none

/-- `enforce_booking_payment_invariance`, on a booking row about to be stored. -/
def enforceBookingPaymentInvariance (payments : Table PaymentRow.id) (row : BookingRow) :
    Option Raised :=
  let captured := payments.select fun payment =>
    decide (payment.bookingId = row.id ∧ payment.status = .captured)
  if captured.head?.isSome ∧ row.paymentStatus ≠ .paid then some (capturedForcesPaid row.id)
  else none

end Triggers

section Statements

/-- An assignment to payment rows that leaves every indexed column alone. -/
structure PaymentSet where
  assign : PaymentRow → PaymentRow
  sameId : ∀ row, (assign row).id = row.id
  sameBooking : ∀ row, (assign row).bookingId = row.bookingId
  sameProviderId : ∀ row, (assign row).razorpayPaymentId = row.razorpayPaymentId

def Database.writePayments (db : Database) (matching : PaymentRow → Bool) (set : PaymentSet) :
    Database where
  payments := db.payments.update matching set.assign set.sameId
  bookings := db.bookings
  providerIdsUnique := by
    have same := Table.rewrite_keys db.payments.rows matching set.assign set.sameProviderId
    exact same.symm ▸ db.providerIdsUnique
  onePaymentPerBooking := by
    have same := Table.rewrite_keys db.payments.rows matching set.assign set.sameBooking
    exact same.symm ▸ db.onePaymentPerBooking
  booked := by
    intro payment member
    have same := Table.rewrite_keys db.payments.rows matching set.assign set.sameBooking
    have present : payment.bookingId ∈
        (db.payments.update matching set.assign set.sameId).rows.map PaymentRow.bookingId :=
      List.mem_map_of_mem member
    rw [Table.update, same] at present
    obtain ⟨old, stored, kept⟩ := List.mem_map.mp present
    exact kept ▸ db.booked old stored

/-- An UPDATE of payments under its trigger. -/
def Database.updatePayments (db : Database) (matching : PaymentRow → Bool) (set : PaymentSet) :
    Except Raised Database :=
  match db.payments.vetoed matching set.assign (enforcePaymentStateInvariance db.bookings) with
  | some raised => .error raised
  | none => .ok (db.writePayments matching set)

/-- An assignment to booking rows that leaves the key alone. -/
structure BookingSet where
  assign : BookingRow → BookingRow
  sameId : ∀ row, (assign row).id = row.id

def Database.writeBookings (db : Database) (matching : BookingRow → Bool) (set : BookingSet) :
    Database where
  payments := db.payments
  bookings := db.bookings.update matching set.assign set.sameId
  providerIdsUnique := db.providerIdsUnique
  onePaymentPerBooking := db.onePaymentPerBooking
  booked := by
    intro payment member
    have same := Table.rewrite_keys db.bookings.rows matching set.assign set.sameId
    exact same.symm ▸ db.booked payment member

/-- An UPDATE of bookings under its trigger. -/
def Database.updateBookings (db : Database) (matching : BookingRow → Bool) (set : BookingSet) :
    Except Raised Database :=
  match db.bookings.vetoed matching set.assign (enforceBookingPaymentInvariance db.payments) with
  | some raised => .error raised
  | none => .ok (db.writeBookings matching set)

/-- An UPDATE that its trigger lets through writes what it says. -/
theorem updatePayments_ok {db after : Database} {matching : PaymentRow → Bool} {set : PaymentSet}
    (written : db.updatePayments matching set = .ok after) :
    after = db.writePayments matching set := by
  unfold Database.updatePayments at written
  split at written <;> cases written
  rfl

/-- An UPDATE that the triggers let through is written. -/
theorem updateBookings_ok {db after : Database} {matching : BookingRow → Bool} {set : BookingSet}
    (written : db.updateBookings matching set = .ok after) :
    after = db.writeBookings matching set := by
  unfold Database.updateBookings at written
  split at written <;> cases written
  rfl

/-- A sequence of statements succeeds when each of them does. -/
theorem bind_ok {ε α β : Type} {first : Except ε α} {second : α → Except ε β} {result : β}
    (done : first >>= second = .ok result) : ∃ value, first = .ok value ∧ second value = .ok result := by
  cases first with
  | error raised => cases done
  | ok value => exact ⟨value, rfl, done⟩

end Statements

section Handlers

inductive EventType where
  | paymentCaptured
  | paymentAuthorized
  | paymentFailed
  | refundProcessed
  | refundPaid
  | other (name : String)
deriving DecidableEq

/-- A text that JavaScript takes for present: neither missing nor empty. -/
def truthyText (text : Option String) : Option String := text.filter (fun text => text ≠ "")

/-- `razorpay_payment_id = $1`. -/
def PaymentRow.hasProviderId (row : PaymentRow) (paymentId : String) : Bool :=
  decide (row.razorpayPaymentId = some paymentId)

/-- `SELECT booking_id FROM payments WHERE razorpay_payment_id = $1`. -/
def Database.bookingOf (db : Database) (paymentId : String) : Option RowId :=
  (db.payments.select (fun row => row.hasProviderId paymentId)).head?.map PaymentRow.bookingId

def setCaptured (now : Time) : PaymentSet :=
  ⟨fun row => { row with status := .captured, updatedAt := some now },
    fun _ => rfl, fun _ => rfl, fun _ => rfl⟩

def setFailed (now : Time) : PaymentSet :=
  ⟨fun row => { row with status := .failed, updatedAt := some now },
    fun _ => rfl, fun _ => rfl, fun _ => rfl⟩

def setRefunded (refundId : String) (now : Time) : PaymentSet :=
  ⟨fun row => { row with
      status := .refunded, refundId := some refundId, refundedAt := some now, updatedAt := some now },
    fun _ => rfl, fun _ => rfl, fun _ => rfl⟩

def setPaid (now : Time) : BookingSet :=
  ⟨fun row => { row with paymentStatus := .paid, status := .confirmed, updatedAt := some now },
    fun _ => rfl⟩

def setBookingRefunded (now : Time) : BookingSet :=
  ⟨fun row => { row with paymentStatus := .refunded, updatedAt := some now }, fun _ => rfl⟩

def applyPaymentEvent (db : Database) (eventType : EventType) (paymentId : Option String)
    (now : Time) : Except Raised Database :=
  match truthyText paymentId with
  | none => .ok db
  | some paymentId =>
    if (db.payments.select (fun row => row.hasProviderId paymentId)).isEmpty then .ok db
    else match eventType with
      | .paymentCaptured | .paymentAuthorized => do
        let db ← db.updatePayments
          (fun row => row.hasProviderId paymentId && decide (row.status = .created))
          (setCaptured now)
        db.updateBookings
          (fun row => decide (db.bookingOf paymentId = some row.id) && decide (row.status = .pending))
          (setPaid now)
      | .paymentFailed =>
        db.updatePayments
          (fun row => row.hasProviderId paymentId && decide (row.status = .created))
          (setFailed now)
      | _ => .ok db

def undeterminedParameter (parameter : Nat) : Raised :=
  "could not determine data type of parameter $" ++ toString parameter

/-- PostgreSQL types each parameter of a statement by where the statement uses it. A number
that is skipped below the largest one used leaves a parameter without a type, and the statement
is refused before it runs. -/
def describe (named : List Nat) : Except Raised Unit :=
  match (List.range' 1 (named.foldl max 0)).find? (fun parameter => !named.contains parameter) with
  | some parameter => .error (undeterminedParameter parameter)
  | none => .ok ()

/-- The other statements of the handlers use every parameter that they are passed. -/
example : describe [1] = .ok () ∧ describe [1, 2] = .ok () := by decide

/-- `payloadPaymentId` is the payment id the payload carries, if any. Without one the first
WHERE clause compares with null and matches nothing. The UPDATE of bookings names `$2` alone,
though it is passed the refund id as `$1`. -/
def applyRefundEvent (db : Database) (eventType : EventType) (payloadPaymentId refundId : Option String)
    (now : Time) : Except Raised Database :=
  match truthyText refundId with
  | none => .ok db
  | some refundId =>
    let paymentId := truthyText payloadPaymentId
    if paymentId.any (fun paymentId =>
        (db.payments.select (fun row => row.hasProviderId paymentId)).isEmpty) then .ok db
    else match eventType with
      | .refundProcessed | .refundPaid => do
        let db ← db.updatePayments
          (fun row => paymentId.any row.hasProviderId &&
            decide (row.status = .captured ∨ row.status = .success))
          (setRefunded refundId now)
        describe [2]
        db.updateBookings
          (fun row => decide (paymentId.bind db.bookingOf = some row.id))
          (setBookingRefunded now)
      | _ => .ok db

/-- A raised exception rolls the transaction back. -/
def transaction (db : Database) (result : Except Raised Database) : Database :=
  match result with
  | .ok after => after
  | .error _ => db

/-- The booking statement of a refund is refused. -/
theorem describe_second : describe [2] = .error (undeterminedParameter 1) := rfl

/-- So no refund event changes a row: it is ignored or its transaction is rolled back. -/
theorem refund_rolled_back (db : Database) (eventType : EventType)
    (payloadPaymentId refundId : Option String) (now : Time) :
    transaction db (applyRefundEvent db eventType payloadPaymentId refundId now) = db := by
  unfold applyRefundEvent
  split
  · rfl
  · dsimp only
    split
    · rfl
    · cases eventType with
      | refundProcessed | refundPaid =>
        simp only [describe_second]
        cases db.updatePayments _ _ <;> rfl
      | paymentCaptured | paymentAuthorized | paymentFailed | other _ => rfl

end Handlers

end PlanBuddy.Payments
