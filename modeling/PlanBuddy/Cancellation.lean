import PlanBuddy.Payments

/-!
# The cancelling transaction

`DbService.cancelBooking`, one SQL statement at a time. A call names the statement it
executes next and the values it has read so far. A SELECT … FOR UPDATE waits while
another transaction holds its row; a statement of a transaction may fail, and the
`catch` block then rolls back. What a transaction writes is staged in the call and
reaches the tables at COMMIT.

A booking is stored as in the payment handlers, with its status columns; the columns
that no modelled statement writes stand beside them. Texts that are only written, such
as the reason, are left out.
-/

namespace PlanBuddy.Cancellation

open Payments (RowId BookingRow BookingStatus BookingSet Database Raised)

/-- The columns of a booking that nothing here writes. -/
structure Reservation where
  tripId : RowId
  groupSize : Nat
  userId : RowId
deriving DecidableEq

structure TripRow where
  id : RowId
  currentBookings : Int

structure Store where
  db : Database
  reserved : RowId → Reservation
  trips : Table TripRow.id

section Errors

/-- What a JavaScript error carries to the response. -/
structure CancelError where
  message : String
  status : Option Nat
  code : Option String
deriving DecidableEq

def bookingStatusText : BookingStatus → String
  | .pending => "pending"
  | .confirmed => "confirmed"
  | .cancellationPending => "cancellation_pending"
  | .cancelled => "cancelled"
  | .completed => "completed"
  | .failed => "failed"
  | .expired => "expired"

def bookingNotFound : CancelError := ⟨"Booking not found", some 404, some "BOOKING_NOT_FOUND"⟩

def bookingTerminalState (status : BookingStatus) : CancelError :=
  ⟨"Booking is in terminal state: " ++ bookingStatusText status ++ ". Cannot cancel.", some 409,
    some "BOOKING_TERMINAL_STATE"⟩

def tripNotFound : CancelError := ⟨"Associated trip not found", some 404, some "TRIP_NOT_FOUND"⟩

/-- An exception that a trigger raises, under the SQLSTATE of RAISE EXCEPTION. -/
def raisedError (raised : Raised) : CancelError := ⟨raised, none, some "P0001"⟩

end Errors

section Statements

def terminalStatuses : List BookingStatus := [.cancelled, .failed, .expired]

def setCancelled (now : Time) : BookingSet :=
  ⟨fun row => { row with status := .cancelled, updatedAt := some now }, fun _ => rfl⟩

/-- `GREATEST(current_bookings - $1, 0)`. -/
def releasedBookings (currentBookings : Int) (groupSize : Nat) : Int :=
  max (currentBookings - groupSize) 0

/-- The booking of `SELECT b.*, t.title … JOIN trips t ON t.id = b.trip_id WHERE b.id = $1`. -/
def Store.joined (store : Store) (bookingId : RowId) : Option BookingRow :=
  (store.db.bookings.lookup bookingId).filter fun row =>
    (store.trips.lookup (store.reserved row.id).tripId).isSome

/-- Both writes of the transaction, as its COMMIT publishes them. -/
def Store.commit (store : Store) (bookingId tripId : RowId) (count : Option Int) (now : Time) :
    Store :=
  { store with
    db := store.db.writeBookings (fun row => decide (row.id = bookingId)) (setCancelled now)
    trips := store.trips.update (fun trip => decide (trip.id = tripId))
      (fun trip => { trip with currentBookings := count.getD trip.currentBookings }) }

end Statements

/-- The row locks of a transaction. -/
inductive Held where
  | nothing
  | booking
  | both (tripId : RowId)
deriving DecidableEq

/-- The statement a call executes next, with what it has read. -/
inductive Phase where
  | connecting
  | beginning
  | selectingBooking
  | endingTerminal (status : BookingStatus)
  | readingCancelled
  | selectingTrip (booking : Reservation)
  | updatingBooking (booking : Reservation)
  | updatingTrip (booking : Reservation)
  | committing (booking : Reservation) (count : Option Int)
  | readingUpdated
  | rollingBack (error : CancelError) (held : Held)
  | returned (booking : Option BookingRow)
  | threw (error : CancelError)

/-- `now` is the start of the call's transaction. -/
structure Call where
  bookingId : RowId
  now : Time
  phase : Phase

def Phase.held : Phase → Held
  | .endingTerminal _ => .booking
  | .selectingTrip _ => .booking
  | .updatingBooking booking => .both booking.tripId
  | .updatingTrip booking => .both booking.tripId
  | .committing booking _ => .both booking.tripId
  | .rollingBack _ held => held
  | _ => .nothing

def Phase.finished : Phase → Bool
  | .returned _ => true
  | .threw _ => true
  | _ => false

def Call.holdsBooking (call : Call) (bookingId : RowId) : Bool :=
  decide (call.phase.held ≠ .nothing ∧ call.bookingId = bookingId)

def Call.holdsTrip (call : Call) (tripId : RowId) : Bool :=
  decide (call.phase.held = .both tripId)

/-- Rows locked by other transactions. -/
structure Locks where
  booking : RowId → Bool
  trip : RowId → Bool

/-- What a statement does that matters outside its call. -/
inductive Effect where
  | decremented (tripId : RowId) (before : Int) (groupSize : Nat) (after : Int)
  | committed (bookingId : RowId) (booking : Reservation) (count : Option Int) (now : Time)

section Execution

/-- The next statement, when it succeeds; none while it waits for a row lock. -/
def Call.execute (call : Call) (store : Store) (others : Locks) :
    Option (Store × Phase × List Effect) :=
  match call.phase with
  | .connecting => some (store, .beginning, [])
  | .beginning => some (store, .selectingBooking, [])
  | .selectingBooking =>
    if others.booking call.bookingId then none
    else match store.db.bookings.lookup call.bookingId with
      | none => some (store, .rollingBack bookingNotFound .nothing, [])
      | some row =>
        if row.status ∈ terminalStatuses then some (store, .endingTerminal row.status, [])
        else some (store, .selectingTrip (store.reserved call.bookingId), [])
  | .endingTerminal status =>
    if status = .cancelled then some (store, .readingCancelled, [])
    else some (store, .rollingBack (bookingTerminalState status) .nothing, [])
  | .readingCancelled => some (store, .returned (store.joined call.bookingId), [])
  | .selectingTrip booking =>
    if others.trip booking.tripId then none
    else match store.trips.lookup booking.tripId with
      | none => some (store, .rollingBack tripNotFound .booking, [])
      | some _ => some (store, .updatingBooking booking, [])
  | .updatingBooking booking =>
    match store.db.updateBookings (fun row => decide (row.id = call.bookingId))
        (setCancelled call.now) with
    | .error raised => some (store, .rollingBack (raisedError raised) (.both booking.tripId), [])
    | .ok _ => some (store, .updatingTrip booking, [])
  | .updatingTrip booking =>
    match store.trips.lookup booking.tripId with
    | none => some (store, .committing booking none, [])
    | some trip =>
      let after := releasedBookings trip.currentBookings booking.groupSize
      some (store, .committing booking (some after),
        [.decremented booking.tripId trip.currentBookings booking.groupSize after])
  | .committing booking count =>
    some (store.commit call.bookingId booking.tripId count call.now, .readingUpdated,
      [.committed call.bookingId booking count call.now])
  | .readingUpdated => some (store, .returned (store.joined call.bookingId), [])
  | .rollingBack error _ => some (store, .threw error, [])
  | .returned _ => none
  | .threw _ => none

/-- The next statement, when it fails. Outside the `try` block the error is thrown at
once. A failed ROLLBACK ends the connection and with it the transaction. -/
def Phase.fail (error : CancelError) : Phase → Option Phase
  | .connecting => some (.threw error)
  | .rollingBack caught _ => some (.threw caught)
  | .returned _ => none
  | .threw _ => none
  | phase => some (.rollingBack error phase.held)

def Call.proceed (call : Call) (store : Store) (others : Locks) (fault : Option CancelError) :
    Option (Store × Phase × List Effect) :=
  match fault with
  | none => call.execute store others
  | some error => (call.phase.fail error).map fun phase => (store, phase, [])

end Execution

end PlanBuddy.Cancellation
