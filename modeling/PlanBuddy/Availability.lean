import Mathlib.Data.List.Sort
import PlanBuddy.Joins
import PlanBuddy.Payments

/-!
# The two availability queries

`checkAvailability` joins the days of the range with the sums of the bookings by day, and
`getAvailableSlots` joins them with the bookings and sums afterwards; both subtract the sum from
the size of the trip. They differ in three ways. The first one shows the day of the sum, which
is null on a day without bookings, where the second one shows the day of the range. It answers
an empty result with 404. And both take the trip from the query string, while the trip that the
route validates is in its path.
-/

namespace PlanBuddy.Availability

open Joins
open Payments (BookingStatus)

section Model

abbrev TripId := Nat

/-- A day, counted from some first one. -/
abbrev Day := Int

/-- The columns of `trips` that the queries read. -/
structure TripRow where
  id : TripId
  maxGroupSize : Int
  currentBookings : Int
  isActive : Bool
deriving DecidableEq

structure BookingRow where
  tripId : TripId
  groupSize : Int
  travelDate : Day
  status : BookingStatus
deriving DecidableEq

structure Database where
  trips : Table TripRow.id
  bookings : List BookingRow

/-- A parameter as PostgreSQL reads its text; a missing one is NULL. -/
inductive Parameter (α : Type)
  | missing
  | malformed
  | value (read : α)
deriving DecidableEq

/-- The query string. -/
structure Query where
  tripId : Parameter TripId
  startDate : Parameter Day
  endDate : Parameter Day

/-- A request to one of the two routes, with the validated trip of its path. -/
structure Request where
  params : TripId
  query : Query

/-- The data of a success, the 404 or the error that is passed on. -/
inductive Response (ρ : Type)
  | success (tripId : Parameter TripId) (rows : List ρ)
  | notFound (code message : String)
  | failed
deriving DecidableEq

/-- A text that cannot be read raises before the query runs. -/
def Parameter.bound {α : Type} : Parameter α → Option (Option α)
  | .missing => some none
  | .malformed => none
  | .value read => some (some read)

/-- `generate_series($2::date, $3::date, '1 day')`. -/
def series : Option Day → Option Day → List Day
  | some first, some last =>
    (List.range (last - first + 1).toNat).map fun days : Nat => first + (days : Int)
  | _, _ => []

/-- `status NOT IN ('cancelled', 'failed', 'expired')`. -/
def counts (booking : BookingRow) : Bool :=
  decide (booking.status ∉ [.cancelled, .failed, .expired])

structure AvailabilityRow where
  id : TripId
  maxGroupSize : Int
  currentBookings : Int
  availableSlots : Int
  isActive : Bool
  travelDate : Option Day
  bookedOnDate : Int
  availableOnDate : Int
deriving DecidableEq

/-- The sums by day of the bookings of the trip, within the range. -/
def dailySums (db : Database) (tripId : Option TripId) (first last : Option Day) :
    List (Day × Int) :=
  groupSums BookingRow.travelDate BookingRow.groupSize (db.bookings.filter fun booking =>
    decide (some booking.tripId = tripId) && counts booking &&
      first.any (fun first => decide (first ≤ booking.travelDate)) &&
      last.any (fun last => decide (booking.travelDate ≤ last)))

def availabilityColumns (trip : TripRow) (sum : Option (Day × Int)) : AvailabilityRow where
  id := trip.id
  maxGroupSize := trip.maxGroupSize
  currentBookings := trip.currentBookings
  availableSlots := trip.maxGroupSize - trip.currentBookings
  isActive := trip.isActive
  travelDate := sum.map Prod.fst
  bookedOnDate := (sum.map Prod.snd).getD 0
  availableOnDate := trip.maxGroupSize - (sum.map Prod.snd).getD 0

def availabilityRows (db : Database) (tripId : Option TripId) (first last : Option Day) :
    List AvailabilityRow :=
  let trips := db.trips.select fun trip => decide (some trip.id = tripId)
  (leftJoin (trips ×ˢ series first last) (dailySums db tripId first last)
    fun left sum => decide (sum.1 = left.2)).map fun (left, sum) => availabilityColumns left.1 sum

def checkAvailability (db : Database) (request : Request) : Response AvailabilityRow :=
  let { tripId, startDate, endDate } := request.query
  match tripId.bound, startDate.bound, endDate.bound with
  | some trip, some first, some last =>
    let rows := availabilityRows db trip first last
    if rows.length = 0 then .notFound "TRIP_NOT_FOUND" "Trip not found"
    else .success tripId rows
  | _, _, _ => .failed

structure Slot where
  date : Day
  available : Int
  booked : Int
  total : Int
deriving DecidableEq

/-- The groups by day and size, ordered by day. -/
def slotRows (db : Database) (tripId : Option TripId) (first last : Option Day) : List Slot :=
  let trips := db.trips.select fun trip => decide (some trip.id = tripId) && trip.isActive
  let joined := leftJoin (trips ×ˢ series first last) db.bookings fun left booking =>
    decide (booking.tripId = left.1.id) && decide (booking.travelDate = left.2) && counts booking
  let groups := groupSums (fun (left, _) => (left.2, left.1.maxGroupSize))
    (fun (_, booking) => (booking.map BookingRow.groupSize).getD 0) joined
  (groups.insertionSort fun left right => left.1.1 ≤ right.1.1).map fun ((day, size), booked) =>
    ⟨day, size - booked, booked, size⟩

def getAvailableSlots (db : Database) (request : Request) : Response Slot :=
  let { tripId, startDate, endDate } := request.query
  match tripId.bound, startDate.bound, endDate.bound with
  | some trip, some first, some last => .success tripId (slotRows db trip first last)
  | _, _, _ => .failed

end Model

section Purpose

variable (db : Database)

/-- The places booked on a day of a trip. -/
def booked (tripId : TripId) (day : Day) : Int :=
  ((db.bookings.filter fun booking => decide (booking.tripId = tripId) &&
    decide (booking.travelDate = day) && counts booking).map BookingRow.groupSize).sum

/-- One entry for each day of a range, with what is left of the trip on it. -/
def expected (trip : TripRow) (first last : Day) : List (Option Day × Int) :=
  (series (some first) (some last)).map fun day =>
    (some day, trip.maxGroupSize - booked db trip.id day)

def AvailabilityRow.entry (row : AvailabilityRow) : Option Day × Int :=
  (row.travelDate, row.availableOnDate)

def Slot.entry (slot : Slot) : Option Day × Int := (some slot.date, slot.available)

/-- A response for the trip, with these entries. A query without ORDER BY leaves their order
open. -/
def Reports {ρ : Type} (response : Response ρ) (entry : ρ → Option Day × Int) (tripId : TripId)
    (entries : List (Option Day × Int)) : Prop :=
  ∃ rows, response = .success (.value tripId) rows ∧ (rows.map entry).Perm entries

/-- Some booking of the trip counts on this day. -/
def Booked (tripId : TripId) (day : Day) : Prop :=
  ∃ booking ∈ db.bookings, booking.tripId = tripId ∧ booking.travelDate = day ∧
    counts booking = true

end Purpose

section Queries

variable {db : Database} {trip : TripRow} {first last : Day}

instance (db : Database) (tripId : TripId) (day : Day) : Decidable (Booked db tripId day) :=
  inferInstanceAs (Decidable (∃ booking ∈ db.bookings, _))

/-- The days of a series. -/
theorem mem_series {first last day : Int} :
    day ∈ series (some first) (some last) ↔ first ≤ day ∧ day ≤ last := by
  simp only [series, List.mem_map, List.mem_range]
  constructor
  · rintro ⟨days, inside, reached⟩
    change first + (days : Int) = day at reached
    omega
  · rintro ⟨after, before⟩
    have distance : ((day - first).toNat : Int) = day - first := Int.toNat_of_nonneg (by omega)
    refine ⟨(day - first).toNat, by omega, ?_⟩
    rw [distance]
    exact add_sub_cancel first day

/-- It is empty when it ends before it begins. -/
theorem series_empty {first last : Int} :
    (series (some first) (some last)).length = 0 ↔ ¬ first ≤ last := by
  simp only [series, List.length_map, List.length_range]
  omega

/-- No day comes twice. -/
theorem series_nodup : (series (some first) (some last)).Nodup :=
  List.Nodup.map (fun _ _ same => by simpa using same) List.nodup_range

/-- The primary key leaves the one trip, as long as it passes the other conditions. -/
theorem trip_selected (stored : trip ∈ db.trips.rows) (allowed : TripRow → Bool)
    (passes : allowed trip = true) :
    db.trips.select (fun row => decide (some row.id = some trip.id) && allowed row) = [trip] := by
  refine Table.select_single stored (by simp [passes]) ?_
  intro other found matched
  have same : other.id = trip.id := by simpa using (Bool.and_eq_true_iff.mp matched).1
  exact List.inj_on_of_nodup_map db.trips.unique found stored same

/-- The days of the range, each with the trip. -/
theorem trip_days (days : List Day) : [trip] ×ˢ days = days.map fun day => (trip, day) := by
  simp [SProd.sprod, List.product]

/-- Nothing is booked on a free day. -/
theorem booked_unbooked {tripId : TripId} {day : Day} (free : ¬ Booked db tripId day) :
    booked db tripId day = 0 := by
  rw [booked, List.filter_eq_nil_iff.mpr]
  · rfl
  · intro booking member matched
    simp only [Bool.and_eq_true, decide_eq_true_eq] at matched
    exact free ⟨booking, member, matched.1.1, matched.1.2, matched.2⟩

/-- The sum of a day inside the range is there if a booking counts on it. -/
theorem find_dailySums {tripId : TripId} {day : Day} (inside : first ≤ day ∧ day ≤ last) :
    (dailySums db (some tripId) (some first) (some last)).find? (fun sum => decide (sum.1 = day)) =
      if Booked db tripId day then some (day, booked db tripId day) else none := by
  rw [dailySums, find_groupSums, List.filter_filter]
  refine if_congr ?_ ?_ rfl
  · simp only [List.mem_map, List.mem_filter, Booked]
    constructor
    · rintro ⟨booking, ⟨member, matched⟩, rfl⟩
      exact ⟨booking, member, by simp_all⟩
    · rintro ⟨booking, member, named, rfl, counted⟩
      exact ⟨booking, ⟨member, by simp [named, counted, inside]⟩, rfl⟩
  · congr 4
    refine List.filter_congr fun booking _ => ?_
    by_cases same : booking.travelDate = day
    · simp [same, inside]
    · simp [same]

/-- The first query shows the right number on every day, and the day itself where a booking
counts. -/
theorem availability_entries (stored : trip ∈ db.trips.rows) :
    (availabilityRows db (some trip.id) (some first) (some last)).map AvailabilityRow.entry =
      (series (some first) (some last)).map fun day =>
        (if Booked db trip.id day then some day else none,
          trip.maxGroupSize - booked db trip.id day) := by
  have chosen : (db.trips.select fun row => decide (some row.id = some trip.id)) = [trip] := by
    simpa using trip_selected stored (fun _ => true) rfl
  have single : ∀ left ∈ (series (some first) (some last)).map fun day => (trip, day),
      ((dailySums db (some trip.id) (some first) (some last)).filter
        fun sum => decide (sum.1 = left.2)).length ≤ 1 := by
    have distinct :
        ((dailySums db (some trip.id) (some first) (some last)).map Prod.fst).Nodup := by
      rw [dailySums, groupSums_keys]
      exact List.nodup_dedup _
    exact fun left _ => unique_filter distinct left.2 fun sum matched => of_decide_eq_true matched
  rw [availabilityRows, chosen, trip_days, leftJoin_single single]
  simp only [List.map_map, Function.comp_def]
  refine List.map_congr_left fun day inside => ?_
  rw [find_dailySums (mem_series.mp inside), AvailabilityRow.entry, availabilityColumns]
  split
  · rfl
  · next free => simp [booked_unbooked free]

/-- The second query always has the expected entries. -/
theorem slots_entries (stored : trip ∈ db.trips.rows) (active : trip.isActive = true) :
    ((slotRows db (some trip.id) (some first) (some last)).map Slot.entry).Perm
      (expected db trip first last) := by
  have distinct : (((series (some first) (some last)).map fun day => (trip, day)).map
      fun left => (left.2, left.1.maxGroupSize)).Nodup := by
    rw [List.map_map]
    exact series_nodup.map fun _ _ same => (Prod.mk.inj same).1
  rw [slotRows, trip_selected stored TripRow.isActive active, trip_days]
  refine (((List.perm_insertionSort _ _).trans
    (groupSums_leftJoin distinct db.bookings _ BookingRow.groupSize)).map _ |>.map _).trans ?_
  refine List.Perm.of_eq ?_
  simp only [List.map_map, expected]
  refine List.map_congr_left fun day _ => ?_
  rfl

/-- A success repeats the trip of the query string. -/
theorem checkAvailability_trip {request : Request} {tripId : Parameter TripId}
    {rows : List AvailabilityRow} (response : checkAvailability db request = .success tripId rows) :
    request.query.tripId = tripId := by
  simp only [checkAvailability] at response
  split at response
  · split at response
    · cases response
    · cases response
      rfl
  · cases response

/-- For the trip of the query string, only an empty range is answered with 404. -/
theorem checkAvailability_rows {request : Request} (chosen : request.query.tripId = .value trip.id)
    (start : request.query.startDate = .value first) (finish : request.query.endDate = .value last)
    (stored : trip ∈ db.trips.rows) :
    checkAvailability db request =
      if first ≤ last then
        .success (.value trip.id) (availabilityRows db (some trip.id) (some first) (some last))
      else .notFound "TRIP_NOT_FOUND" "Trip not found" := by
  have entries : (availabilityRows db (some trip.id) (some first) (some last)).map
      AvailabilityRow.entry = _ := availability_entries stored
  have length : (availabilityRows db (some trip.id) (some first) (some last)).length =
      (series (some first) (some last)).length := by
    simpa using congrArg List.length entries
  simp only [checkAvailability, chosen, start, finish, Parameter.bound, length]
  by_cases ordered : first ≤ last
  · rw [if_neg fun empty => series_empty.mp empty ordered, if_pos ordered]
  · rw [if_pos (series_empty.mpr ordered), if_neg ordered]

end Queries

section Claims

/-- For an active trip and a range of days, both queries report the trip of the path with one
entry for each day of the range and what is left of the trip on it, exactly if the query string
names that trip too, the range is not empty and every day of it has a booking that counts. -/
theorem availability_agrees_iff {db : Database} {trip : TripRow} {request : Request}
    {first last : Day} (stored : trip ∈ db.trips.rows) (active : trip.isActive = true)
    (routed : request.params = trip.id) (start : request.query.startDate = .value first)
    (finish : request.query.endDate = .value last) :
    (Reports (checkAvailability db request) AvailabilityRow.entry request.params
        (expected db trip first last) ∧
      Reports (getAvailableSlots db request) Slot.entry request.params
        (expected db trip first last)) ↔
      request.query.tripId = .value request.params ∧ first ≤ last ∧
        ∀ day, first ≤ day → day ≤ last → Booked db request.params day := by
  rw [routed]
  constructor
  · rintro ⟨⟨rows, response, same⟩, -⟩
    have chosen := checkAvailability_trip response
    rw [checkAvailability_rows chosen start finish stored] at response
    split at response
    · next ordered =>
      refine ⟨chosen, ordered, fun day after before => ?_⟩
      cases response
      rw [availability_entries stored] at same
      have shown := same.mem_iff.mpr (List.mem_map_of_mem (mem_series.mpr ⟨after, before⟩))
      obtain ⟨reported, -, entry⟩ := List.mem_map.mp shown
      -- Only a day with a booking is shown, so this one is.
      split at entry
      · next counted =>
        cases entry
        exact counted
      · cases entry
    · cases response
  · rintro ⟨chosen, ordered, counted⟩
    constructor
    · refine ⟨_, (checkAvailability_rows chosen start finish stored).trans (if_pos ordered), ?_⟩
      rw [availability_entries stored]
      refine List.Perm.of_eq (List.map_congr_left fun day inside => ?_)
      rw [if_pos (counted day (mem_series.mp inside).1 (mem_series.mp inside).2)]
    · refine ⟨slotRows db (some trip.id) (some first) (some last), ?_, slots_entries stored active⟩
      simp only [getAvailableSlots, chosen, start, finish, Parameter.bound]

/-- A trip for ten, with two places booked on day five. -/
def smallDatabase : Database where
  trips := ⟨[⟨1, 10, 2, true⟩], by decide⟩
  bookings := [⟨1, 2, 5, .confirmed⟩, ⟨1, 4, 5, .cancelled⟩]

/-- Both functions report the booked day of the sample. -/
theorem availability_agrees_booked :
    Reports (checkAvailability smallDatabase ⟨1, .value 1, .value 5, .value 5⟩)
        AvailabilityRow.entry 1 (expected smallDatabase ⟨1, 10, 2, true⟩ 5 5) ∧
      Reports (getAvailableSlots smallDatabase ⟨1, .value 1, .value 5, .value 5⟩)
        Slot.entry 1 (expected smallDatabase ⟨1, 10, 2, true⟩ 5 5) := by
  refine (availability_agrees_iff (List.mem_singleton.mpr rfl) rfl rfl rfl rfl).mpr
    ⟨rfl, by decide, fun day after before => ?_⟩
  rw [show day = 5 from Int.le_antisymm before after]
  decide

/-- On a free day the first query shows no date, a range without days is not found, and neither
is the trip when only the path names it. -/
theorem path_trip_not_found :
    let trip : TripRow := ⟨1, 10, 2, true⟩
    trip ∈ smallDatabase.trips.rows ∧ trip.isActive = true ∧
      expected smallDatabase trip 5 6 = [(some 5, 8), (some 6, 10)] ∧
      checkAvailability smallDatabase ⟨1, .value 1, .value 5, .value 6⟩ =
        .success (.value 1) [⟨1, 10, 2, 8, true, some 5, 2, 8⟩, ⟨1, 10, 2, 8, true, none, 0, 10⟩] ∧
      getAvailableSlots smallDatabase ⟨1, .value 1, .value 5, .value 6⟩ =
        .success (.value 1) [⟨5, 8, 2, 10⟩, ⟨6, 10, 0, 10⟩] ∧
      checkAvailability smallDatabase ⟨1, .value 1, .value 6, .value 5⟩ =
        .notFound "TRIP_NOT_FOUND" "Trip not found" ∧
      getAvailableSlots smallDatabase ⟨1, .value 1, .value 6, .value 5⟩ = .success (.value 1) [] ∧
      getAvailableSlots smallDatabase ⟨1, .missing, .value 5, .value 5⟩ = .success .missing [] ∧
      checkAvailability smallDatabase ⟨1, .missing, .value 5, .value 5⟩ =
        .notFound "TRIP_NOT_FOUND" "Trip not found" ∧
      ¬ (Reports (checkAvailability smallDatabase ⟨1, .missing, .value 5, .value 5⟩)
          AvailabilityRow.entry 1 (expected smallDatabase trip 5 5) ∧
        Reports (getAvailableSlots smallDatabase ⟨1, .missing, .value 5, .value 5⟩)
          Slot.entry 1 (expected smallDatabase trip 5 5)) := by
  have missing : checkAvailability smallDatabase ⟨1, .missing, .value 5, .value 5⟩ =
      .notFound "TRIP_NOT_FOUND" "Trip not found" := by decide
  refine ⟨by decide, rfl, by decide, by decide, by decide, by decide, by decide, by decide,
    missing, ?_⟩
  rintro ⟨⟨rows, response, -⟩, -⟩
  rw [missing] at response
  cases response

end Claims

end PlanBuddy.Availability
