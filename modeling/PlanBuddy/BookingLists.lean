import PlanBuddy.Joins
import PlanBuddy.Pages
import PlanBuddy.Payments

/-!
# The pages of the booking lists

`getUserBookings` and `getAllBookings` select bookings, left join the rows they show with them,
sort by `created_at DESC` and cut out a page by LIMIT and OFFSET; the count of the bookings
gives the number of pages. The joins repeat no booking, because the joined tables have at most
one row for it. Nothing but the time of creation orders the rows, so bookings of one instant
may change places between the query for one page and the query for the next.
-/

namespace PlanBuddy.BookingLists

universe u v

open Joins
open Pages (ScanOrder Separated pageCount)
open Payments (RowId BookingStatus BookingPayment PaymentStatus PaymentRow)

section Model

structure BookingRow where
  id : RowId
  userId : RowId
  tripId : RowId
  status : BookingStatus
  paymentStatus : BookingPayment
  groupSize : Nat
  slotId : Option String
  /-- A NUMERIC, which the driver reports as text. -/
  totalAmount : String
  /-- The day, counted from some first one. -/
  travelDate : Int
  createdAt : Time
  expiresAt : Option Time
  tripSnapshot : Json

structure TripRow where
  id : RowId
  title : String
  location : String
  coverImage : Option String

structure UserRow where
  id : RowId
  name : String
  email : String

/-- The tables with their keys, and the unique index that admits one payment for a booking. -/
structure Database where
  bookings : Table BookingRow.id
  trips : Table TripRow.id
  users : Table UserRow.id
  payments : Table PaymentRow.id
  onePaymentPerBooking : (payments.rows.map PaymentRow.bookingId).Nodup

/-- The statuses that the schemas of the query string list. -/
def listedStatuses : List BookingStatus :=
  [.pending, .confirmed, .cancelled, .completed, .expired, .failed]

/-- What `GetBookingsSchema` and `AdminBookingsSchema` leave of the query string. -/
structure ListQuery where
  page : Option Nat
  limit : Option Nat
  status : Option BookingStatus
  pageValid : ∀ number ∈ page, 1 ≤ number
  limitValid : ∀ number ∈ limit, 1 ≤ number ∧ number ≤ 50
  statusValid : ∀ value ∈ status, value ∈ listedStatuses

/-- The same query for another page; pages are counted from zero here. -/
def ListQuery.turn (query : ListQuery) (index : Nat) : ListQuery :=
  { query with
    page := some (index + 1)
    pageValid := by
      intro number chosen
      cases chosen
      exact Nat.le_add_left 1 index }

/-- `Math.min(50, parseInt(req.query.limit || '20', 10))`. -/
def ListQuery.pageSize (query : ListQuery) : Nat := min 50 (query.limit.getD 20)

structure Pagination where
  page : Nat
  limit : Nat
  total : Nat
  pages : Nat

/-- The data of a successful response. -/
structure Listing (β : Type u) where
  bookings : List β
  pagination : Pagination

/-- The page of the sorted rows, and the count of all of them. -/
def listing {α : Type u} {β : Type v} {instant : α → Time} (order : ScanOrder instant)
    (rows : List α) (total : Nat) (query : ListQuery) (columns : α → β) : Listing β :=
  let page := max 1 (query.page.getD 1)
  let limit := query.pageSize
  let offset := (page - 1) * limit
  { bookings := (((order.arrange rows).drop offset).take limit).map columns
    pagination := { page, limit, total, pages := pageCount total limit } }

structure UserBooking where
  id : RowId
  status : BookingStatus
  paymentStatus : BookingPayment
  groupSize : Nat
  slotId : Option String
  totalAmount : String
  travelDate : Int
  createdAt : Time
  expiresAt : Option Time
  tripSnapshot : Json
  tripTitle : Option String
  tripLocation : Option String
  tripImage : Option String
  razorpayPaymentId : Option String
  paymentCaptureStatus : Option PaymentStatus

/-- A booking with its trip and its captured payment. -/
structure UserJoin where
  booking : BookingRow
  trip : Option TripRow
  payment : Option PaymentRow

def UserJoin.createdAt (joined : UserJoin) : Time := joined.booking.createdAt

def UserJoin.columns (joined : UserJoin) : UserBooking where
  id := joined.booking.id
  status := joined.booking.status
  paymentStatus := joined.booking.paymentStatus
  groupSize := joined.booking.groupSize
  slotId := joined.booking.slotId
  totalAmount := joined.booking.totalAmount
  travelDate := joined.booking.travelDate
  createdAt := joined.booking.createdAt
  expiresAt := joined.booking.expiresAt
  tripSnapshot := joined.booking.tripSnapshot
  tripTitle := joined.trip.map TripRow.title
  tripLocation := joined.trip.map TripRow.location
  tripImage := joined.trip.bind TripRow.coverImage
  razorpayPaymentId := joined.payment.bind PaymentRow.razorpayPaymentId
  paymentCaptureStatus := joined.payment.map PaymentRow.status

def ofTrip (booking : BookingRow) (trip : TripRow) : Bool := decide (booking.tripId = trip.id)

def ofUser (booking : BookingRow) (user : UserRow) : Bool := decide (booking.userId = user.id)

def capturedFor (booking : BookingRow) (payment : PaymentRow) : Bool :=
  decide (payment.bookingId = booking.id) && decide (payment.status = .captured)

/-- The condition on the status, when the query names one. -/
def hasStatus (query : ListQuery) (booking : BookingRow) : Bool :=
  query.status.all fun status => decide (booking.status = status)

/-- `WHERE b.user_id = $1`, with the status when the query names one. -/
def userMatches (userId : RowId) (query : ListQuery) (booking : BookingRow) : Bool :=
  decide (booking.userId = userId) && hasStatus query booking

def Database.userRows (db : Database) (userId : RowId) (query : ListQuery) : List UserJoin :=
  let joined := leftJoin (leftJoin db.bookings.rows db.trips.rows ofTrip) db.payments.rows
    fun left payment => capturedFor left.1 payment
  (joined.map fun ((booking, trip), payment) => ⟨booking, trip, payment⟩).filter
    fun joined => userMatches userId query joined.booking

def getUserBookings (order : ScanOrder UserJoin.createdAt) (db : Database) (userId : RowId)
    (query : ListQuery) : Listing UserBooking :=
  listing order (db.userRows userId query) (db.bookings.select (userMatches userId query)).length
    query UserJoin.columns

structure AdminBooking where
  id : RowId
  status : BookingStatus
  paymentStatus : BookingPayment
  groupSize : Nat
  totalAmount : String
  travelDate : Int
  createdAt : Time
  tripTitle : Option String
  userName : Option String
  userEmail : Option String

/-- A booking with its trip and its user. -/
structure AdminJoin where
  booking : BookingRow
  trip : Option TripRow
  user : Option UserRow

def AdminJoin.createdAt (joined : AdminJoin) : Time := joined.booking.createdAt

def AdminJoin.columns (joined : AdminJoin) : AdminBooking where
  id := joined.booking.id
  status := joined.booking.status
  paymentStatus := joined.booking.paymentStatus
  groupSize := joined.booking.groupSize
  totalAmount := joined.booking.totalAmount
  travelDate := joined.booking.travelDate
  createdAt := joined.booking.createdAt
  tripTitle := joined.trip.map TripRow.title
  userName := joined.user.map UserRow.name
  userEmail := joined.user.map UserRow.email

def Database.adminRows (db : Database) (query : ListQuery) : List AdminJoin :=
  let joined := leftJoin (leftJoin db.bookings.rows db.trips.rows ofTrip) db.users.rows
    fun left user => ofUser left.1 user
  (joined.map fun ((booking, trip), user) => ⟨booking, trip, user⟩).filter
    fun joined => hasStatus query joined.booking

def getAllBookings (order : ScanOrder AdminJoin.createdAt) (db : Database) (query : ListQuery) :
    Listing AdminBooking :=
  listing order (db.adminRows query) (db.bookings.select (hasStatus query)).length query
    AdminJoin.columns

/-- The bookings on the pages one to `pages`, each page from a request of its own. -/
def allPages {β : Type u} (respond : Nat → Listing β) : List β :=
  (List.range (respond 0).pagination.pages).flatMap fun index => (respond index).bookings

end Model

section Selections

/-- A booking has one trip at most. -/
theorem trips_joined (db : Database) :
    (leftJoin db.bookings.rows db.trips.rows ofTrip).map Prod.fst = db.bookings.rows :=
  leftJoin_left fun booking _ => unique_filter db.trips.unique booking.tripId
    fun _ matched => (of_decide_eq_true matched).symm

/-- The joins leave every booking that is selected once. -/
theorem userRows_bookings (db : Database) (userId : RowId) (query : ListQuery) :
    (db.userRows userId query).map UserJoin.booking =
      db.bookings.select (userMatches userId query) := by
  have payments : (leftJoin (leftJoin db.bookings.rows db.trips.rows ofTrip) db.payments.rows
      fun left payment => capturedFor left.1 payment).map Prod.fst =
        leftJoin db.bookings.rows db.trips.rows ofTrip :=
    leftJoin_left fun left _ => unique_filter db.onePaymentPerBooking left.1.id
      fun payment matched => of_decide_eq_true (Bool.and_eq_true_iff.mp matched).1
  rw [Table.select, ← trips_joined, ← payments, Database.userRows]
  simp only [List.filter_map, List.map_map]
  rfl

/-- The list of the administrators is of the bookings with the status. -/
theorem adminRows_bookings (db : Database) (query : ListQuery) :
    (db.adminRows query).map AdminJoin.booking = db.bookings.select (hasStatus query) := by
  have users : (leftJoin (leftJoin db.bookings.rows db.trips.rows ofTrip) db.users.rows
      fun left user => ofUser left.1 user).map Prod.fst =
        leftJoin db.bookings.rows db.trips.rows ofTrip :=
    leftJoin_left fun left _ => unique_filter db.users.unique left.1.userId
      fun user matched => (of_decide_eq_true matched).symm
  rw [Table.select, ← trips_joined, ← users, Database.adminRows]
  simp only [List.filter_map, List.map_map]
  rfl

/-- No page is empty by its size. -/
theorem pageSize_positive (query : ListQuery) : 1 ≤ query.pageSize := by
  have chosen : 1 ≤ query.limit.getD 20 := by
    cases given : query.limit with
    | none => decide
    | some limit => exact (query.limitValid limit given).1
  exact Nat.le_min.mpr ⟨by decide, chosen⟩

end Selections

section Pages

variable {γ : Type u} {β : Type v}

/-- The pages of joined rows cover the bookings they stand for exactly if no two bookings of
one instant lie on both sides of a boundary. -/
theorem listing_covers_iff {rows : List γ} {booking : γ → BookingRow} {bookings : List BookingRow}
    (columns : γ → β) {shown : β → RowId} (joined : rows.map booking = bookings)
    (unique : (bookings.map BookingRow.id).Nodup)
    (named : ∀ row, shown (columns row) = (booking row).id) (query : ListQuery) :
    (∀ orders : Nat → ScanOrder fun row => (booking row).createdAt,
      ((allPages fun index => listing (orders index) rows bookings.length (query.turn index)
        columns).map shown).Perm (bookings.map BookingRow.id)) ↔
      ∀ index, 1 ≤ index → index < pageCount bookings.length query.pageSize →
        Separated BookingRow.createdAt bookings (index * query.pageSize) := by
  subst joined
  rw [List.map_map] at unique ⊢
  rw [List.length_map]
  have core := Pages.covered_iff (fun row => (booking row).createdAt) (pageSize_positive query) unique
  simp only [Separated, List.countP_map]
  refine Iff.trans ?_ core
  refine forall_congr' fun orders => ?_
  have pages : (allPages fun index => listing (orders index) rows rows.length (query.turn index)
      columns).map shown = (List.range (pageCount rows.length query.pageSize)).flatMap
        fun index => (Pages.page (orders index) rows query.pageSize index).map
          (BookingRow.id ∘ booking) := by
    rw [allPages, List.map_flatMap]
    refine List.flatMap_congr fun index _ => ?_
    rw [listing, List.map_map]
    exact List.map_congr_left fun row _ => named row
  rw [pages]

end Pages

section Claims

/-- For both lists: the pages one to `pages` show every matching booking exactly once, in
whatever order the queries return bookings of one instant, exactly if at every boundary between
two pages the bookings before it are those from some instant on. -/
theorem pages_cover_iff (db : Database) (userId : RowId) (query : ListQuery) :
    ((∀ orders : Nat → ScanOrder UserJoin.createdAt,
        ((allPages fun index => getUserBookings (orders index) db userId (query.turn index)).map
          UserBooking.id).Perm
          ((db.bookings.select (userMatches userId query)).map BookingRow.id)) ↔
      ∀ index, 1 ≤ index →
        index < pageCount (db.bookings.select (userMatches userId query)).length query.pageSize →
        Separated BookingRow.createdAt (db.bookings.select (userMatches userId query))
          (index * query.pageSize)) ∧
    ((∀ orders : Nat → ScanOrder AdminJoin.createdAt,
        ((allPages fun index => getAllBookings (orders index) db (query.turn index)).map
          AdminBooking.id).Perm ((db.bookings.select (hasStatus query)).map BookingRow.id)) ↔
      ∀ index, 1 ≤ index →
        index < pageCount (db.bookings.select (hasStatus query)).length query.pageSize →
        Separated BookingRow.createdAt (db.bookings.select (hasStatus query))
          (index * query.pageSize)) := by
  have unique : ∀ matching : BookingRow → Bool,
      ((db.bookings.select matching).map BookingRow.id).Nodup := fun matching =>
    db.bookings.unique.sublist (List.filter_sublist.map BookingRow.id)
  constructor
  · exact listing_covers_iff UserJoin.columns (userRows_bookings db userId query)
      (unique _) (fun _ => rfl) query
  · exact listing_covers_iff AdminJoin.columns (adminRows_bookings db query)
      (unique _) (fun _ => rfl) query

/-- Two bookings of one user, created at one instant. -/
def twins : Database where
  bookings := ⟨[⟨1, 7, 5, .confirmed, .paid, 2, none, "100.00", 0, 1000, none, .null⟩,
    ⟨2, 7, 6, .confirmed, .paid, 2, none, "100.00", 1, 1000, none, .null⟩], by decide⟩
  trips := ⟨[], List.nodup_nil⟩
  users := ⟨[], List.nodup_nil⟩
  payments := ⟨[], List.nodup_nil⟩
  onePaymentPerBooking := List.nodup_nil

/-- `?limit=1`. -/
def oneAtATime : ListQuery where
  page := none
  limit := some 1
  status := none
  pageValid := nofun
  limitValid := by
    rintro number ⟨⟩
    decide
  statusValid := nofun

/-- The first booking is shown on both pages, and the second one on neither. -/
theorem twins_shown_twice :
    ¬ ((allPages fun index => getUserBookings
      (if index = 0 then .forward UserJoin.createdAt else .backward UserJoin.createdAt) twins 7
      (oneAtATime.turn index)).map UserBooking.id).Perm
        ((twins.bookings.select (userMatches 7 oneAtATime)).map BookingRow.id) := by decide

end Claims

end PlanBuddy.BookingLists
