import PlanBuddy.CancellationRuns

/-!
# Capacity under concurrent cancellations

A trip is balanced when its counter is the total size of its bookings that are not
cancelled, failed or expired. A cancellation reads the counter at one statement and
publishes a new one at a later statement; the locks are what keeps it from publishing a
counter that is out of date. A call past its first SELECT therefore knows that its
booking is still active, and a call past its last UPDATE that its count is the current
counter less its own booking.

The tables are those that the COMMITs of a run make of the initial ones, so a call that
reaches none has left no trace in them.
-/

namespace PlanBuddy.Cancellation

open Payments (RowId BookingRow BookingStatus Database)

/-- The share of a booking in the counter of a trip. -/
def activeSize (reserved : RowId → Reservation) (tripId : RowId) (row : BookingRow) : Int :=
  if row.status ∉ terminalStatuses ∧ (reserved row.id).tripId = tripId then
    (reserved row.id).groupSize
  else 0

/-- `current_bookings` of every trip is the total size of its active bookings. -/
def Store.Balanced (store : Store) : Prop :=
  ∀ trip ∈ store.trips.rows,
    trip.currentBookings = store.db.bookings.total (activeSize store.reserved trip.id)

/-- The booking as a call has read it, still active. -/
def Active (store : Store) (bookingId : RowId) (booking : Reservation) : Prop :=
  booking = store.reserved bookingId ∧
    ∃ row, store.db.bookings.lookup bookingId = some row ∧ row.status ∉ terminalStatuses

/-- What a call has read is still so. -/
def Call.Current (store : Store) (call : Call) : Prop :=
  match call.phase with
  | .selectingTrip booking => Active store call.bookingId booking
  | .updatingBooking booking | .updatingTrip booking =>
    Active store call.bookingId booking ∧ ∃ trip, store.trips.lookup booking.tripId = some trip
  | .committing booking count =>
    Active store call.bookingId booking ∧ ∃ trip, store.trips.lookup booking.tripId = some trip ∧
      count = some (releasedBookings trip.currentBookings booking.groupSize)
  | _ => True

/-- A call whose phase holds no rows has nothing to keep current. -/
theorem current_freed {store : Store} {call : Call} (free : call.phase.held = .nothing) :
    call.Current store := by
  unfold Call.Current
  cases phase : call.phase <;> simp [phase, Phase.held] at free <;> trivial

section Balance

variable {store : Store}

/-- No booking takes less than nothing. -/
theorem activeSize_nonneg (reserved : RowId → Reservation) (tripId : RowId) (row : BookingRow) :
    0 ≤ activeSize reserved tripId row := by
  unfold activeSize
  split <;> omega

/-- A commit rewrites no reservation. -/
theorem commit_reserved (bookingId tripId : RowId) (count : Option Int) (now : Time) :
    (store.commit bookingId tripId count now).reserved = store.reserved := rfl

/-- It rewrites the count of its trip. -/
theorem commit_trips (bookingId tripId : RowId) (count : Option Int) (now : Time) :
    (store.commit bookingId tripId count now).trips =
      store.trips.update (fun trip => decide (trip.id = tripId))
        (fun trip => { trip with currentBookings := count.getD trip.currentBookings }) := rfl

/-- It rewrites its booking. -/
theorem commit_bookings (bookingId tripId : RowId) (count : Option Int) (now : Time) :
    (store.commit bookingId tripId count now).db.bookings =
      store.db.bookings.update (fun row => decide (row.id = bookingId)) (setCancelled now).assign
        (setCancelled now).sameId := rfl

/-- In balance, a trip counts at least each of its active bookings, so the clamp at
zero never acts. -/
theorem released_exact (balanced : store.Balanced) {bookingId : RowId} {booking : Reservation}
    (active : Active store bookingId booking) {trip : TripRow}
    (found : store.trips.lookup booking.tripId = some trip) :
    releasedBookings trip.currentBookings booking.groupSize =
      trip.currentBookings - booking.groupSize := by
  obtain ⟨rfl, row, stored, unsettled⟩ := active
  have named : row.id = bookingId := Table.lookup_key stored
  have share : activeSize store.reserved trip.id row = (store.reserved bookingId).groupSize := by
    have sameTrip := Table.lookup_key found
    simp [activeSize, unsettled, named, sameTrip]
  have bound := Table.weight_le_total store.db.bookings (activeSize store.reserved trip.id)
    (activeSize_nonneg store.reserved trip.id) (Table.lookup_mem stored)
  rw [share, ← balanced trip (Table.lookup_mem found)] at bound
  exact max_eq_left (by omega)

/-- A COMMIT removes the share of its booking from its own trip and changes no other
total. -/
theorem commit_total {bookingId : RowId} {booking : Reservation}
    (active : Active store bookingId booking) (count : Option Int) (now : Time) (tripId : RowId) :
    (store.commit bookingId booking.tripId count now).db.bookings.total
        (activeSize store.reserved tripId) =
      store.db.bookings.total (activeSize store.reserved tripId) -
        (if tripId = booking.tripId then (booking.groupSize : Int) else 0) := by
  obtain ⟨rfl, row, stored, unsettled⟩ := active
  have named : row.id = bookingId := Table.lookup_key stored
  subst named
  have removed : activeSize store.reserved tripId ((setCancelled now).assign row) = 0 := by
    simp [activeSize, setCancelled, terminalStatuses]
  have share : activeSize store.reserved tripId row =
      if tripId = (store.reserved row.id).tripId then ((store.reserved row.id).groupSize : Int)
      else 0 := by
    simp only [activeSize, unsettled, not_false_eq_true, true_and, eq_comm]
  have rewritten := Table.total_update store.db.bookings (activeSize store.reserved tripId)
    (setCancelled now).assign (setCancelled now).sameId (Table.lookup_mem stored)
  rw [removed, share, add_zero] at rewritten
  exact rewritten

/-- A COMMIT with a current count keeps every trip balanced. -/
theorem commit_balanced (balanced : store.Balanced) {bookingId : RowId} {booking : Reservation}
    (active : Active store bookingId booking) {trip : TripRow}
    (found : store.trips.lookup booking.tripId = some trip) (now : Time) :
    (store.commit bookingId booking.tripId
      (some (releasedBookings trip.currentBookings booking.groupSize)) now).Balanced := by
  intro next member
  rw [commit_trips] at member
  have total := commit_total active
    (some (releasedBookings trip.currentBookings booking.groupSize)) now next.id
  rw [commit_reserved, total]
  obtain ⟨old, stored, rewritten⟩ := Table.mem_update.mp member
  split at rewritten
  · next here =>
    rw [decide_eq_true_eq] at here
    have same : old = trip := by
      have storedOld := Table.mem_lookup stored
      rw [here, found] at storedOld
      exact (Option.some.inj storedOld).symm
    subst same rewritten
    rw [Option.getD_some, released_exact balanced active found, if_pos here,
      balanced old stored]
  · next elsewhere =>
    rw [decide_eq_true_eq] at elsewhere
    subst rewritten
    rw [if_neg elsewhere, sub_zero]
    exact balanced old stored

end Balance

section Published

/-- The booking whose places a statement gives back for good. -/
def Effect.released : Effect → Option RowId
  | .committed bookingId _ _ _ => some bookingId
  | .decremented _ _ _ _ => none

/-- The bookings released in a history, in order. -/
def releases (history : List Event) : List RowId :=
  history.filterMap fun event => event.effect.released

/-- What an event publishes: the writes of a COMMIT. -/
def Event.publish (store : Store) (event : Event) : Store :=
  match event.effect with
  | .committed bookingId booking count now => store.commit bookingId booking.tripId count now
  | .decremented _ _ _ _ => store

/-- An event that releases nothing publishes nothing. -/
theorem publish_unreleased {store : Store} {event : Event} (quiet : event.effect.released = none) :
    event.publish store = store := by
  unfold Event.publish
  cases effect : event.effect with
  | decremented => rfl
  | committed => simp [effect, Effect.released] at quiet

/-- The events of a call that reaches no COMMIT can be taken out of a history. -/
theorem publish_without {index : Nat} {history : List Event} (store : Store)
    (quiet : ∀ event ∈ history, event.call = index → event.effect.released = none) :
    history.foldl Event.publish store =
      (history.filter fun event => decide (event.call ≠ index)).foldl Event.publish store := by
  induction history generalizing store with
  | nil => rfl
  | cons event rest inductionHypothesis =>
    have later := inductionHypothesis (event.publish store)
      (fun other member => quiet other (List.mem_cons_of_mem event member))
    by_cases own : event.call = index
    · have unchanged : event.publish store = store :=
        publish_unreleased (quiet event List.mem_cons_self own)
      rw [List.filter_cons_of_neg (by simp [own]), List.foldl_cons, later, unchanged]
    · rw [List.filter_cons_of_pos (by simp [own]), List.foldl_cons, List.foldl_cons, later]

end Published

section Runs

/-- A statement publishes nothing, and gives a counter its exact new value if any; or it
is the COMMIT of a call whose count is current. -/
theorem proceeds_writes {store next : Store} {others : Locks} {call : Call} {phase : Phase}
    {effects : List Effect} (balanced : store.Balanced) (current : call.Current store)
    (proceeds : Proceeds store others call next phase effects) :
    (next = store ∧ ∀ effect ∈ effects, effect.released = none ∧
      ∀ tripId before groupSize after,
        effect = .decremented tripId before groupSize after → after = before - groupSize) ∨
    (∃ booking trip, Active store call.bookingId booking ∧
      store.trips.lookup booking.tripId = some trip ∧
      let count := some (releasedBookings trip.currentBookings booking.groupSize)
      call.phase = .committing booking count ∧ phase = .readingUpdated ∧
      next = store.commit call.bookingId booking.tripId count call.now ∧
      effects = [.committed call.bookingId booking count call.now]) := by
  cases proceeds with
  | tripWritten booking trip was found =>
    left
    refine ⟨rfl, ?_⟩
    intro effect member
    rw [List.mem_singleton] at member
    subst member
    refine ⟨rfl, ?_⟩
    intro tripId before groupSize after same
    obtain ⟨-, rfl, rfl, rfl⟩ := Effect.decremented.inj same
    have active : Active store call.bookingId booking := by
      simp only [Call.Current, was] at current
      exact current.1
    exact released_exact balanced active found
  | committed booking count was =>
    right
    simp only [Call.Current, was] at current
    obtain ⟨active, trip, found, rfl⟩ := current
    exact ⟨booking, trip, active, found, was, rfl, rfl, rfl⟩
  | _ =>
    left
    exact ⟨rfl, by simp⟩

/-- What a call has read stays current through its own next statement. -/
theorem proceeds_current {store next : Store} {others : Locks} {call : Call} {phase : Phase}
    {effects : List Effect} (current : call.Current store)
    (proceeds : Proceeds store others call next phase effects) :
    Call.Current next { call with phase } := by
  cases proceeds with
  | freed _ free => exact current_freed free
  | failing error => trivial
  | lockedTerminal status unlocked => trivial
  | lockedBooking row was unlocked found active => exact ⟨rfl, row, found, active⟩
  | lockedTrip booking trip was unlocked found =>
    simp only [Call.Current, was] at current
    exact ⟨current, trip, found⟩
  | bookingWritten booking was =>
    simp only [Call.Current, was] at current
    exact current
  | tripUnwritten booking was missing =>
    simp only [Call.Current, was] at current
    obtain ⟨-, trip, found⟩ := current
    rw [missing] at found
    cases found
  | tripWritten booking trip was found =>
    simp only [Call.Current, was] at current
    exact ⟨current.1, trip, found, rfl⟩
  | committed booking count was => trivial

/-- A COMMIT leaves alone what another call has read, since that call holds other rows. -/
theorem commit_current {store : Store} {call other : Call} {booking : Reservation}
    {count : Option Int} (committing : call.phase = .committing booking count)
    (apart : Apart call other) (current : other.Current store) :
    other.Current (store.commit call.bookingId booking.tripId count call.now) := by
  have ownBooking : call.holdsBooking call.bookingId = true := by
    simp [Call.holdsBooking, committing, Phase.held]
  have ownTrip : call.holdsTrip booking.tripId = true := by
    simp [Call.holdsTrip, committing, Phase.held]
  have activeKept : ∀ {read : Reservation}, other.phase.held ≠ .nothing →
      Active store other.bookingId read →
      Active (store.commit call.bookingId booking.tripId count call.now) other.bookingId read := by
    rintro read busy ⟨rfl, row, found, unsettled⟩
    have different : row.id ≠ call.bookingId := by
      intro same
      have shared := apart.1 call.bookingId ownBooking
      simp [Call.holdsBooking, busy, ← same, Table.lookup_key found] at shared
    refine ⟨rfl, row, ?_, unsettled⟩
    rw [commit_bookings, Table.lookup_update, found]
    simp [different]
  have tripKept : ∀ {tripId : RowId} {trip : TripRow}, other.phase.held = .both tripId →
      store.trips.lookup tripId = some trip →
      (store.commit call.bookingId booking.tripId count call.now).trips.lookup tripId = some trip := by
    intro tripId trip holding found
    have different : trip.id ≠ booking.tripId := by
      intro same
      have shared := apart.2 booking.tripId ownTrip
      simp [Call.holdsTrip, holding, ← same, Table.lookup_key found] at shared
    rw [commit_trips, Table.lookup_update, found]
    simp [different]
  unfold Call.Current at current ⊢
  cases phase : other.phase with
  | selectingTrip read =>
    simp only [phase] at current ⊢
    exact activeKept (by simp [phase, Phase.held]) current
  | updatingBooking read =>
    simp only [phase] at current ⊢
    obtain ⟨active, trip, found⟩ := current
    exact ⟨activeKept (by simp [phase, Phase.held]) active, trip, tripKept (by rw [phase]; rfl) found⟩
  | updatingTrip read =>
    simp only [phase] at current ⊢
    obtain ⟨active, trip, found⟩ := current
    exact ⟨activeKept (by simp [phase, Phase.held]) active, trip, tripKept (by rw [phase]; rfl) found⟩
  | committing read staged =>
    simp only [phase] at current ⊢
    obtain ⟨active, trip, found, same⟩ := current
    exact ⟨activeKept (by simp [phase, Phase.held]) active, trip,
      tripKept (by rw [phase]; rfl) found, same⟩
  | _ => trivial

/-- What holds of a service and of what it has done since its tables were `start`. -/
structure Sound (start : Store) (history : List Event) (service : Service) : Prop where
  exclusive : Exclusive service.calls
  current : ∀ call ∈ service.calls, call.Current service.store
  balanced : service.store.Balanced
  cancelled : ∀ bookingId ∈ releases history, ∃ row,
    service.store.db.bookings.lookup bookingId = some row ∧ row.status = .cancelled
  once : (releases history).Nodup
  exact : ∀ event ∈ history, ∀ tripId before groupSize after,
    event.effect = .decremented tripId before groupSize after → after = before - groupSize
  published : service.store = history.foldl Event.publish start

/-- Without calls a balanced store is sound. -/
theorem idle_sound {start : Store} (balanced : start.Balanced) : Sound start [] ⟨start, []⟩ where
  exclusive := by
    intro left right one other different found
    simp at found
  current := by simp
  balanced := balanced
  cancelled := by simp [releases]
  once := by simp [releases]
  exact := by simp
  published := rfl

/-- A statement that publishes nothing keeps all that concerns the tables. -/
theorem quiet_sound {start : Store} {history observed : List Event} {service : Service}
    {calls : List Call} (sound : Sound start history service) (exclusive : Exclusive calls)
    (current : ∀ call ∈ calls, call.Current service.store)
    (quiet : ∀ event ∈ observed, event.effect.released = none ∧
      ∀ tripId before groupSize after,
        event.effect = .decremented tripId before groupSize after → after = before - groupSize) :
    Sound start (history ++ observed) { service with calls } := by
  have unreleased : releases (history ++ observed) = releases history := by
    have none : releases observed = [] :=
      List.filterMap_eq_nil_iff.mpr fun event member => (quiet event member).1
    rw [releases, List.filterMap_append]
    exact (congrArg (releases history ++ ·) none).trans (List.append_nil _)
  have unpublished : ∀ store, observed.foldl Event.publish store = store := by
    intro store
    calc observed.foldl Event.publish store = observed.foldl (fun kept _ => kept) store :=
          List.foldl_ext _ _ _ fun kept event member => publish_unreleased (quiet event member).1
      _ = store := List.foldl_fixed observed
  exact {
    exclusive := exclusive
    current := current
    balanced := sound.balanced
    cancelled := unreleased ▸ sound.cancelled
    once := unreleased ▸ sound.once
    exact := by
      intro event member
      rcases List.mem_append.mp member with old | new
      · exact sound.exact event old
      · exact (quiet event new).2
    published := by
      rw [List.foldl_append, ← sound.published, unpublished] }

/-- A COMMIT releases a booking that was active, and so for the first time. -/
theorem commit_sound {start : Store} {history : List Event} {service : Service} {index : Nat}
    {call : Call} {booking : Reservation} {trip : TripRow} (sound : Sound start history service)
    (stored : service.calls[index]? = some call)
    (active : Active service.store call.bookingId booking)
    (found : service.store.trips.lookup booking.tripId = some trip)
    (committing : call.phase =
      .committing booking (some (releasedBookings trip.currentBookings booking.groupSize)))
    (exclusive : Exclusive (service.calls.set index { call with phase := .readingUpdated })) :
    Sound start
      (history ++ [⟨index, .committed call.bookingId booking
        (some (releasedBookings trip.currentBookings booking.groupSize)) call.now⟩])
      ⟨service.store.commit call.bookingId booking.tripId
        (some (releasedBookings trip.currentBookings booking.groupSize)) call.now,
        service.calls.set index { call with phase := .readingUpdated }⟩ := by
  have released : releases (history ++ [⟨index, .committed call.bookingId booking
      (some (releasedBookings trip.currentBookings booking.groupSize)) call.now⟩]) =
      releases history ++ [call.bookingId] := by
    simp [releases, Effect.released]
  have fresh : call.bookingId ∉ releases history := by
    intro earlier
    obtain ⟨row, foundRow, cancelled⟩ := sound.cancelled call.bookingId earlier
    obtain ⟨-, read, foundRead, unsettled⟩ := active
    rw [foundRow] at foundRead
    obtain rfl := Option.some.inj foundRead
    simp [cancelled, terminalStatuses] at unsettled
  have cancels : ∀ bookingId row, service.store.db.bookings.lookup bookingId = some row →
      row.status = .cancelled ∨ bookingId = call.bookingId →
      ∃ after, (service.store.commit call.bookingId booking.tripId
        (some (releasedBookings trip.currentBookings booking.groupSize)) call.now).db.bookings.lookup
          bookingId = some after ∧ after.status = .cancelled := by
    intro bookingId row foundRow cause
    rw [commit_bookings, Table.lookup_update, foundRow, Option.map_some]
    by_cases own : row.id = call.bookingId
    · exact ⟨_, rfl, by simp [own, setCancelled]⟩
    · have other : bookingId ≠ call.bookingId := Table.lookup_key foundRow ▸ own
      exact ⟨_, rfl, by simpa [own] using cause.resolve_right other⟩
  constructor
  · exact exclusive
  · intro other member
    obtain ⟨position, foundOther⟩ := List.mem_iff_getElem?.mp member
    rcases Parties.set_cases foundOther with ⟨-, rfl⟩ | ⟨away, old⟩
    · exact trivial
    · exact commit_current committing (sound.exclusive index position call other away.symm stored old)
        (sound.current other (List.mem_of_getElem? old))
  · exact commit_balanced sound.balanced active found call.now
  · rw [released]
    intro bookingId member
    rcases List.mem_append.mp member with earlier | now
    · obtain ⟨row, foundRow, cancelled⟩ := sound.cancelled bookingId earlier
      exact cancels bookingId row foundRow (Or.inl cancelled)
    · rw [List.mem_singleton] at now
      obtain ⟨-, row, foundRow, -⟩ := active
      exact cancels bookingId row (now ▸ foundRow) (Or.inr now)
  · rw [released]
    exact List.nodup_append.mpr ⟨sound.once, List.nodup_singleton _, fun earlier member last same => by
      rw [List.mem_singleton] at same
      exact fun equal => fresh (same ▸ equal ▸ member)⟩
  · refine forall_mem_snoc sound.exact ?_
    intro tripId before groupSize after same
    cases same
  · rw [List.foldl_append, ← sound.published]
    rfl

/-- A step keeps it so. -/
theorem step_sound {start : Store} {history observed : List Event} {service next : Service}
    (sound : Sound start history service) (taken : transition service observed next) :
    Sound start (history ++ observed) next := by
  have exclusive := step_exclusive sound.exclusive taken
  obtain ⟨action, -, taken⟩ := taken
  cases action with
  | cancelBooking bookingId now =>
    simp only [step, Option.some.injEq, Prod.mk.injEq] at taken
    obtain ⟨rfl, rfl⟩ := taken
    apply quiet_sound sound exclusive
    · exact forall_mem_snoc sound.current trivial
    · simp
  | proceed index fault =>
    simp only [step, Option.bind_eq_some_iff, Option.map_eq_some_iff, Prod.exists,
      Prod.mk.injEq] at taken
    obtain ⟨call, stored, store, phase, effects, proceeded, rfl, rfl⟩ := taken
    have proceeds := proceed_cases proceeded
    have current := sound.current call (List.mem_of_getElem? stored)
    rcases proceeds_writes sound.balanced current proceeds with
      ⟨rfl, quiet⟩ | ⟨booking, trip, active, found, committing, rfl, rfl, rfl⟩
    · apply quiet_sound sound exclusive
      · intro other member
        rcases List.mem_or_eq_of_mem_set member with old | rfl
        · exact sound.current other old
        · exact proceeds_current current proceeds
      · intro event member
        obtain ⟨effect, done, rfl⟩ := List.mem_map.mp member
        exact quiet effect done
    · exact commit_sound sound stored active found committing exclusive

/-- So does a run. -/
theorem run_sound {start : Store} (balanced : start.Balanced) {history : List Event}
    {service : Service} (run : Run transition ⟨start, []⟩ history service) :
    Sound start history service :=
  run.invariant (Sound start) (idle_sound balanced) (fun _ sound taken => step_sound sound taken)

end Runs

/-- Concurrent cancellations from balanced tables, over every interleaving of their
statements. Every trip stays balanced; no booking is released twice; the clamp at zero
never changes a counter; a call that reaches no COMMIT leaves the tables as if it had
never been made; no calls wait for each other in a cycle; and while a call has not
ended, one of those that have not can take its next statement. -/
theorem cancellations_conserve_capacity {start : Store} (balanced : start.Balanced)
    {history : List Event} {service : Service}
    (run : Run transition ⟨start, []⟩ history service) :
    service.store.Balanced ∧
    (∀ bookingId, (releases history).count bookingId ≤ 1) ∧
    (∀ event ∈ history, ∀ tripId before groupSize after,
      event.effect = .decremented tripId before groupSize after → after = before - groupSize) ∧
    (∀ index, (∀ event ∈ history, event.call = index → event.effect.released = none) →
      service.store =
        (history.filter fun event => decide (event.call ≠ index)).foldl Event.publish start) ∧
    (∀ index, ¬ Relation.TransGen (Waits service.calls) index index) ∧
    (∀ (index : Nat) call, service.calls[index]? = some call → call.phase.finished = false →
      ∃ position running, service.calls[position]? = some running ∧
        running.phase.finished = false ∧ (step service (.proceed position none)).isSome) := by
  have sound := run_sound balanced run
  refine ⟨sound.balanced, ?_, sound.exact, ?_, ?_, ?_⟩
  · intro bookingId
    exact List.nodup_iff_count_le_one.mp sound.once bookingId
  · intro index quiet
    rw [sound.published]
    exact publish_without start quiet
  · intro index
    exact LockOrder.no_cycle waits_rises index
  · intro index call stored unfinished
    exact some_call_proceeds stored unfinished

section Sample

/-- One trip with two bookings of two and three places. -/
def twoBookings : Store where
  db :=
    { payments := Table.empty
      bookings := ⟨[⟨1, .confirmed, .paid, none⟩, ⟨2, .pending, .unpaid, none⟩], by decide⟩
      providerIdsUnique := by decide
      onePaymentPerBooking := by decide
      booked := by intro payment member; cases member }
  reserved bookingId := ⟨9, if bookingId = 1 then 2 else 3, 7⟩
  trips := ⟨[⟨9, 5⟩], by decide⟩

/-- Two calls for the first booking, the second of which waits and finds it cancelled,
and one for the second booking that fails at its last UPDATE. -/
def racingCalls : List Action :=
  [.cancelBooking 1 0, .cancelBooking 1 0, .cancelBooking 2 0] ++
    List.replicate 3 (.proceed 0 none) ++ List.replicate 2 (.proceed 1 none) ++
    List.replicate 5 (.proceed 0 none) ++ List.replicate 3 (.proceed 1 none) ++
    List.replicate 5 (.proceed 2 none) ++
    [.proceed 2 (some ⟨"deadline", none, none⟩), .proceed 2 none]

/-- Two requests that race for one booking release its seats once. -/
theorem cancellations_conserve_capacity_racing :
    twoBookings.Balanced ∧ ∃ history service,
      Run transition ⟨twoBookings, []⟩ history service ∧
        releases history = [1] ∧ service.store.trips.rows.map TripRow.currentBookings = [3] ∧
        service.store.Balanced ∧ (releases history).count 1 ≤ 1 := by
  have balanced : twoBookings.Balanced := by
    unfold Store.Balanced
    decide
  have run : Run transition ⟨twoBookings, []⟩ _ _ := run_of_schedule racingCalls rfl
  have conserved := cancellations_conserve_capacity balanced run
  exact ⟨balanced, _, _, run, by decide, by decide, conserved.1, conserved.2.1 1⟩

end Sample

end PlanBuddy.Cancellation
