import Mathlib.Algebra.Order.Field.Rat
import PlanBuddy.Cancellation

/-!
# The amount of an order

`createOrder` compares the amount of a booking with the price of its trip times the size of
the group. The driver returns a NUMERIC column as a text and an INTEGER column as a Number.
The product turns its operands into Numbers, the strict comparison does not, so it compares
a text with a Number and finds every amount wrong.

What follows the order, its storage and its answer, is left out.
-/

namespace PlanBuddy.OrderAmounts

open Cancellation (bookingStatusText)
open Payments (BookingStatus BookingPayment)

section Values

/-- The values that a row of the driver holds. -/
inductive Value where
  | number (value : Float)
  | string (text : String)

/-- The value of a decimal text is the Number nearest to it; other texts are NaN. -/
def readDecimal (text : String) : Float :=
  match text.toList with
  | '-' :: unsigned => -readUnsigned unsigned
  | unsigned => readUnsigned unsigned
where
  readUnsigned (unsigned : List Char) : Float :=
    match unsigned.splitOn '.' with
    | [whole] => ((String.ofList whole).toNat?.map Float.ofNat).getD (0 / 0)
    | [whole, fraction] =>
      ((String.ofList (whole ++ fraction)).toNat?.map fun digits =>
        Float.ofScientific digits true fraction.length).getD (0 / 0)
    | _ => 0 / 0

def toNumber : Value → Float
  | .number value => value
  | .string text => readDecimal text

/-- `one * other`. -/
def multiply (one other : Value) : Value := .number (toNumber one * toNumber other)

/-- `one === other`. Values of different types are different. -/
def strictEquals : Value → Value → Bool
  | .number one, .number other => one == other
  | .string one, .string other => decide (one = other)
  | _, _ => false

/-- `Math.round`. -/
def roundNumber (value : Float) : Float :=
  if value - value.floor < 0.5 then value.floor else value.floor + 1

def rupeesToPaise (rupees : Value) : Float := roundNumber (toNumber rupees * 100)

end Values

section Rows

/-- A value of type NUMERIC(12,2). -/
structure Numeric where
  cents : Int
  inRange : cents.natAbs < 10 ^ 12

/-- The exact decimal. -/
def Numeric.decimal (numeric : Numeric) : Rat := numeric.cents / 100

/-- The text that the server sends for it. -/
def Numeric.text (numeric : Numeric) : String :=
  let digits := (Nat.repr (numeric.cents.natAbs % 100)).toList
  (if numeric.cents < 0 then "-" else "") ++ Nat.repr (numeric.cents.natAbs / 100) ++ "." ++
    String.ofList (digits.leftpad 2 '0')

structure BookingRow where
  id : String
  userId : String
  tripId : String
  totalAmount : Numeric
  currency : String
  status : BookingStatus
  paymentStatus : BookingPayment
  groupSize : Int
  /-- A UUID is no empty text. -/
  identified : id ≠ ""

structure TripRow where
  id : String
  price : Numeric
  isActive : Bool

structure Database where
  bookings : Table BookingRow.id
  trips : Table TripRow.id

/-- A row of the query, as the driver returns it. -/
structure Joined where
  totalAmount : Value
  currency : String
  status : BookingStatus
  paymentStatus : BookingPayment
  groupSize : Value
  price : Value
  isActive : Bool

/-- NUMERIC columns come as texts, INTEGER columns as Numbers. -/
def join (booking : BookingRow) (trip : TripRow) : Joined where
  totalAmount := .string booking.totalAmount.text
  currency := booking.currency
  status := booking.status
  paymentStatus := booking.paymentStatus
  groupSize := .number (Float.ofInt booking.groupSize)
  price := .string trip.price.text
  isActive := trip.isActive

/-- The row of the booking and its trip, if the booking is the user's. -/
def selectBooking (database : Database) (bookingId userId : String) : Option Joined := do
  let booking ← database.bookings.lookup bookingId
  let trip ← database.trips.lookup booking.tripId
  if booking.userId = userId then some (join booking trip) else none

end Rows

section CreateOrder

def paymentText : BookingPayment → String
  | .unpaid => "unpaid"
  | .paid => "paid"
  | .refunded => "refunded"
  | .partiallyRefunded => "partially_refunded"

/-- What Razorpay is asked to create. -/
structure Order where
  amount : Float
  currency : String
  receipt : String
  bookingId : String
  userId : String

inductive Outcome where
  | reply (status : Nat) (code message : String)
  | order (order : Order)

def bookingIdRequired : Outcome := .reply 400 "VALIDATION_ERROR" "bookingId is required"

def bookingNotFound : Outcome := .reply 404 "BOOKING_NOT_FOUND" "Booking not found"

def amountRejected : Outcome :=
  .reply 400 "AMOUNT_VALIDATION_FAILED" "Booking amount validation failed. Please contact support."

def tripInactive : Outcome := .reply 409 "TRIP_INACTIVE" "Trip is no longer available"

def bookingNotEligible (row : Joined) : Outcome :=
  .reply 409 "BOOKING_NOT_ELIGIBLE" ("Cannot create order: booking status is \"" ++
    bookingStatusText row.status ++ "\" / payment is \"" ++ paymentText row.paymentStatus ++ "\"")

def serviceUnavailable : Outcome :=
  .reply 503 "PAYMENT_SERVICE_UNAVAILABLE" "Payment service unavailable"

def orderFor (bookingId userId : String) (row : Joined) : Order where
  amount := rupeesToPaise row.totalAmount
  currency := if row.currency = "" then "INR" else row.currency
  receipt := String.ofList ((bookingId.toList.filter (· ≠ '-')).take 40)
  bookingId
  userId

/-- `createOrder` up to the order. `configured` says whether there is a Razorpay client. -/
def createOrder (configured : Bool) (database : Database) (userId : String)
    (bookingId : Option String) : Outcome :=
  match bookingId.filter (· ≠ "") with
  | none => bookingIdRequired
  | some bookingId =>
    match selectBooking database bookingId userId with
    | none => bookingNotFound
    | some row =>
      let expectedAmount := multiply row.price row.groupSize
      if !strictEquals row.totalAmount expectedAmount then amountRejected
      else if !row.isActive then tripInactive
      else if row.status ≠ .pending ∨ row.paymentStatus ≠ .unpaid then bookingNotEligible row
      else if !configured then serviceUnavailable
      else .order (orderFor bookingId userId row)

end CreateOrder

section Amounts

variable {configured : Bool} {database : Database}

/-- A text is not strictly equal to a product. -/
theorem amount_differs (booking : BookingRow) (trip : TripRow) :
    strictEquals (join booking trip).totalAmount
      (multiply (join booking trip).price (join booking trip).groupSize) = false := rfl

/-- A selected row is a booking with its trip. -/
theorem selectBooking_joined {bookingId userId : String} {row : Joined}
    (selected : selectBooking database bookingId userId = some row) :
    ∃ booking trip, row = join booking trip := by
  simp only [selectBooking, Option.bind_eq_bind, Option.bind_eq_some_iff,
    Option.ite_none_right_eq_some, Option.some.injEq] at selected
  obtain ⟨booking, -, trip, -, -, rfl⟩ := selected
  exact ⟨booking, trip, rfl⟩

/-- No request has an order created. -/
theorem never_ordered (userId : String) (bookingId : Option String) (order : Order) :
    createOrder configured database userId bookingId ≠ .order order := by
  unfold createOrder
  split
  · exact nofun
  · split
    · exact nofun
    · next selected =>
      obtain ⟨booking, trip, rfl⟩ := selectBooking_joined selected
      simp [amount_differs, amountRejected]

/-- Every stored booking is rejected by the amount check. -/
theorem stored_rejected {booking : BookingRow} {trip : TripRow}
    (stored : booking ∈ database.bookings.rows) (offered : trip ∈ database.trips.rows)
    (joined : booking.tripId = trip.id) :
    createOrder configured database booking.userId (some booking.id) = amountRejected := by
  have named : (some booking.id).filter (· ≠ "") = some booking.id := by
    simp [Option.filter, booking.identified]
  have selected : selectBooking database booking.id booking.userId = some (join booking trip) := by
    simp [selectBooking, Table.mem_lookup stored, joined, Table.mem_lookup offered]
  rw [createOrder, named]
  simp [selected, amount_differs]

/-- The check tells whether the amount of a booking is right exactly for the bookings whose
amount is wrong. -/
theorem amount_check_iff {booking : BookingRow} {trip : TripRow}
    (stored : booking ∈ database.bookings.rows) (offered : trip ∈ database.trips.rows)
    (joined : booking.tripId = trip.id) :
    (createOrder configured database booking.userId (some booking.id) ≠ amountRejected ↔
        booking.totalAmount.decimal = trip.price.decimal * booking.groupSize) ↔
      booking.totalAmount.decimal ≠ trip.price.decimal * booking.groupSize := by
  rw [stored_rejected stored offered joined]
  simp

end Amounts

section Sample

/-- Two places of a trip for 1999 rupees each, and the amount for both. -/
def sampleBooking : BookingRow where
  id := "4f9c1d2e-7a3b-4c5d-8e6f-0a1b2c3d4e5f"
  userId := "11111111-2222-4333-8444-555555555555"
  tripId := "99999999-8888-4777-8666-555555555555"
  totalAmount := ⟨399800, by decide⟩
  currency := "INR"
  status := .pending
  paymentStatus := .unpaid
  groupSize := 2
  identified := by decide

def sampleTrip : TripRow := ⟨"99999999-8888-4777-8666-555555555555", ⟨199900, by decide⟩, true⟩

def sampleDatabase : Database where
  bookings := ⟨[sampleBooking], List.nodup_singleton _⟩
  trips := ⟨[sampleTrip], List.nodup_singleton _⟩

/-- The right amount of the sample is rejected. -/
theorem amount_check_iff_sample :
    (createOrder true sampleDatabase sampleBooking.userId (some sampleBooking.id) ≠
        amountRejected ↔
      sampleBooking.totalAmount.decimal = sampleTrip.price.decimal * sampleBooking.groupSize) ↔
      sampleBooking.totalAmount.decimal ≠ sampleTrip.price.decimal * sampleBooking.groupSize :=
  amount_check_iff (List.mem_singleton_self _)
    (List.mem_singleton_self _) rfl

/-- The booking is pending and unpaid, its trip active and its amount right. It is rejected. -/
theorem right_amount_rejected :
    ¬ ∀ (database : Database), ∀ booking ∈ database.bookings.rows,
      ∀ trip ∈ database.trips.rows, booking.tripId = trip.id → booking.status = .pending →
        booking.paymentStatus = .unpaid → trip.isActive = true →
          (createOrder true database booking.userId (some booking.id) ≠ amountRejected ↔
            booking.totalAmount.decimal = trip.price.decimal * booking.groupSize) := by
  intro passes
  have amount : sampleBooking.totalAmount.decimal =
      sampleTrip.price.decimal * sampleBooking.groupSize := by decide +kernel
  have accepted := (passes sampleDatabase sampleBooking (List.mem_singleton_self _) sampleTrip
    (List.mem_singleton_self _) rfl rfl rfl rfl).mpr amount
  exact accepted rfl

end Sample

end PlanBuddy.OrderAmounts
