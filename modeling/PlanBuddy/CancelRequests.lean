import PlanBuddy.CancellationRuns

/-!
# Cancel requests

`bookingController.cancelBooking` over the cancelling transaction. A request reads its
booking without a lock and then takes one of two paths: a paid, confirmed booking is
claimed by a compare-and-set UPDATE and handed to the refund service; any other is
cancelled by `DbService`. Payment events are applied between the steps of requests.

The refund service is not part of the repository. A call of it either succeeds, which
is recorded and may rewrite the booking and its payment in any way, or throws and leaves
the tables as they were. The CHECK constraints on the booking status are a parameter; the
claim is the only statement here that writes a status some version of them refuses.
-/

namespace PlanBuddy.Cancellation

open Payments (RowId BookingRow BookingStatus BookingSet PaymentSet Database EventType truthyText)

section Answers

/-- What a request is answered with; `next` hands an error to the error middleware. -/
inductive Answer where
  | notFound
  | accessDenied
  | alreadyInProgress (booking : Option BookingRow)
  | cancelledWithRefund (booking : Option BookingRow)
  | refundFailed (status : Nat) (code message : String)
  | cancelled (booking : Option BookingRow)
  | rejected (status : Nat) (code message : String)
  | next (error : CancelError)

/-- The outer `catch` of the controller. None of the errors here carries `structured`. -/
def caught (error : CancelError) : Answer :=
  match error.status with
  | some 404 => .rejected 404 ((truthyText error.code).getD "BOOKING_ERROR") error.message
  | some 409 => .rejected 409 ((truthyText error.code).getD "BOOKING_ERROR") error.message
  | _ => .next error

/-- The inner `catch`, around the refund and what follows it. -/
def refundFailure (error : CancelError) : Answer :=
  .refundFailed ((error.status.filter (· ≠ 0)).getD 502)
    ((truthyText error.code).getD "REFUND_FAILED")
    ((truthyText (some error.message)).getD "Refund initiation failed. Please contact support.")

end Answers

section Checks

/-- A CHECK constraint that lists the statuses it admits. -/
structure Check where
  name : String
  admitted : List BookingStatus

def checkViolation (name : String) : CancelError :=
  ⟨"new row for relation \"bookings\" violates check constraint \"" ++ name ++ "\"", none,
    some "23514"⟩

/-- The first constraint that refuses a status. -/
def violated (checks : List Check) (status : BookingStatus) : Option CancelError :=
  (checks.find? fun check => !decide (status ∈ check.admitted)).map
    fun check => checkViolation check.name

/-- The constraints after migrations 070 and 140, in the order they are tested. -/
def bookingChecks : List Check :=
  [⟨"bookings_status_check", [.pending, .confirmed, .cancelled, .completed, .failed, .expired]⟩,
    ⟨"bookings_status_valid_values", [.pending, .confirmed, .cancelled, .failed, .expired]⟩]

end Checks

/-- What a request does next; the refund service answers by a step of its own. -/
inductive RequestPhase where
  | reading
  | claiming
  | readingClaimed
  | refunding
  | notifying
  | cancelling (phase : Phase)
  | emailing (booking : Option BookingRow)
  | answered (answer : Answer)

structure Request where
  bookingId : RowId
  userId : RowId
  isAdmin : Bool
  now : Time
  phase : RequestPhase

/-- The transaction a request runs, if any. -/
def Request.call (request : Request) : Option Call :=
  match request.phase with
  | .cancelling phase => some ⟨request.bookingId, request.now, phase⟩
  | _ => none

/-- `WHERE id = $1 AND status = 'confirmed' AND payment_status = 'paid'`. -/
def claimable (bookingId : RowId) (row : BookingRow) : Bool :=
  decide (row.id = bookingId ∧ row.status = .confirmed ∧ row.paymentStatus = .paid)

def setCancellationPending (now : Time) : BookingSet :=
  ⟨fun row => { row with status := .cancellationPending, updatedAt := some now }, fun _ => rfl⟩

section Execution

/-- The claim UPDATE. It waits for a matching row that a transaction has locked. -/
def Request.claim (checks : List Check) (request : Request) (store : Store) (others : Locks) :
    Option (Store × RequestPhase) :=
  if (store.db.bookings.select (claimable request.bookingId)).isEmpty then
    some (store, .readingClaimed)
  else if others.booking request.bookingId then none
  else match store.db.updateBookings (claimable request.bookingId)
      (setCancellationPending request.now) with
    | .error raised => some (store, .answered (caught (raisedError raised)))
    | .ok db =>
      match violated checks .cancellationPending with
      | some error => some (store, .answered (caught error))
      | none => some ({ store with db }, .refunding)

/-- What the controller does when the cancelling transaction returns or throws. -/
def Phase.resume : Phase → RequestPhase
  | .returned booking => .emailing booking
  | .threw error => .answered (caught error)
  | phase => .cancelling phase

/-- A statement of the cancelling transaction. -/
def Request.cancel (request : Request) (phase : Phase) (store : Store) (others : Locks)
    (fault : Option CancelError) : Option (Store × RequestPhase) :=
  ((⟨request.bookingId, request.now, phase⟩ : Call).proceed store others fault).map
    fun (store, phase, _) => (store, phase.resume)

/-- The next step of a request. A failing email is swallowed. -/
def Request.proceed (checks : List Check) (request : Request) (store : Store) (others : Locks)
    (fault : Option CancelError) : Option (Store × RequestPhase) :=
  match request.phase, fault with
  | .reading, none =>
    match store.joined request.bookingId with
    | none => some (store, .answered .notFound)
    | some existing =>
      if (store.reserved request.bookingId).userId ≠ request.userId ∧ ¬ request.isAdmin then
        some (store, .answered .accessDenied)
      else if existing.status = .confirmed ∧ existing.paymentStatus = .paid then
        some (store, .claiming)
      else some (store, .cancelling .connecting)
  | .reading, some error => some (store, .answered (caught error))
  | .claiming, none => request.claim checks store others
  | .claiming, some error => some (store, .answered (caught error))
  | .readingClaimed, none =>
    some (store, .answered (.alreadyInProgress (store.joined request.bookingId)))
  | .readingClaimed, some error => some (store, .answered (caught error))
  | .refunding, _ => none
  | .notifying, none =>
    some (store, .answered (.cancelledWithRefund (store.joined request.bookingId)))
  | .notifying, some error => some (store, .answered (refundFailure error))
  | .cancelling phase, fault => request.cancel phase store others fault
  | .emailing booking, _ => some (store, .answered (.cancelled booking))
  | .answered _, _ => none

end Execution

/-- How `RefundService.initiateRefund` ends. -/
inductive RefundOutcome where
  | succeeds (payment : PaymentSet) (booking : BookingSet)
  | throws (error : CancelError)

def Store.refund (store : Store) (bookingId : RowId) (payment : PaymentSet) (booking : BookingSet) :
    Store :=
  { store with
    db := (store.db.writePayments (fun row => decide (row.bookingId = bookingId)) payment).writeBookings
      (fun row => decide (row.id = bookingId)) booking }

/-- `refunds` lists the bookings for which `initiateRefund` has succeeded. -/
structure Desk where
  store : Store
  requests : List Request
  refunds : List RowId

inductive RequestAction where
  | cancelBooking (bookingId userId : RowId) (isAdmin : Bool) (now : Time)
  | proceed (index : Nat) (fault : Option CancelError)
  | initiateRefund (index : Nat) (outcome : RefundOutcome)
  | applyPaymentEvent (eventType : EventType) (paymentId : Option String) (now : Time)

/-- A request whose claim UPDATE took the booking. -/
inductive RequestEvent where
  | claimed (request : Nat)

/-- A request that goes on to its refund has claimed the booking. -/
def RequestPhase.events (index : Nat) : RequestPhase → List RequestEvent
  | .refunding => [.claimed index]
  | _ => []

/-- The rows that the transactions of some requests hold. -/
def requestLocks (requests : List Request) : Locks := locksOf (requests.filterMap Request.call)

/-- A payment event would write a booking that a transaction has locked. -/
def eventBlocked (store : Store) (after : Database) (locks : Locks) : Bool :=
  store.db.bookings.rows.any fun row =>
    locks.booking row.id && decide (after.bookings.lookup row.id ≠ some row)

def serve (checks : List Check) (desk : Desk) : RequestAction → Option (Desk × List RequestEvent)
  | .cancelBooking bookingId userId isAdmin now =>
    some ({ desk with requests := desk.requests ++ [⟨bookingId, userId, isAdmin, now, .reading⟩] }, [])
  | .proceed index fault =>
    (desk.requests[index]?).bind fun request =>
      (request.proceed checks desk.store (requestLocks (desk.requests.eraseIdx index)) fault).map
        fun (store, phase) =>
          ({ desk with store, requests := desk.requests.set index { request with phase } },
            phase.events index)
  | .initiateRefund index outcome =>
    (desk.requests[index]?).bind fun request =>
      match request.phase, outcome with
      | .refunding, .succeeds payment booking =>
        some ({
          store := desk.store.refund request.bookingId payment booking
          requests := desk.requests.set index { request with phase := .notifying }
          refunds := request.bookingId :: desk.refunds }, [])
      | .refunding, .throws error =>
        some ({ desk with
          requests := desk.requests.set index
            { request with phase := .answered (refundFailure error) } }, [])
      | _, _ => none
  | .applyPaymentEvent eventType paymentId now =>
    let after := Payments.transaction desk.store.db
      (Payments.applyPaymentEvent desk.store.db eventType paymentId now)
    if eventBlocked desk.store after (requestLocks desk.requests) then none
    else some ({ desk with store := { desk.store with db := after } }, [])

end PlanBuddy.Cancellation
