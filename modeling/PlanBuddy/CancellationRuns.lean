import PlanBuddy.Cancellation
import PlanBuddy.LockOrder
import PlanBuddy.Parties
import PlanBuddy.Runs

/-!
# Concurrent cancellations

Any number of calls of `cancelBooking`, started at any time on any bookings, take their
statements in any order. A statement that needs a row lock is taken only while no other
call holds the row; every statement may fail instead.

`Proceeds` says once what a statement of a call can do. Two facts follow for every run:
no row is locked by two calls, and what a call has read under its locks stays true until
it commits or rolls back. A call waits for a trip only while it holds a booking and
holds a trip only when it waits for nothing, so waiting calls form no cycle.
-/

namespace PlanBuddy.Cancellation

open Payments (RowId BookingRow BookingStatus Database)

structure Service where
  store : Store
  calls : List Call

inductive Action where
  | cancelBooking (bookingId : RowId) (now : Time)
  | proceed (index : Nat) (fault : Option CancelError)

/-- What the call at a position has done. -/
structure Event where
  call : Nat
  effect : Effect

/-- The rows that some of the calls hold. -/
def locksOf (calls : List Call) : Locks :=
  ⟨fun bookingId => calls.any (fun call => call.holdsBooking bookingId),
    fun tripId => calls.any (fun call => call.holdsTrip tripId)⟩

def step (service : Service) : Action → Option (Service × List Event)
  | .cancelBooking bookingId now =>
    some ({ service with calls := service.calls ++ [⟨bookingId, now, .connecting⟩] }, [])
  | .proceed index fault =>
    (service.calls[index]?).bind fun call =>
      (call.proceed service.store (locksOf (service.calls.eraseIdx index)) fault).map
        fun (store, phase, effects) =>
          (⟨store, service.calls.set index { call with phase }⟩, effects.map (⟨index, ·⟩))

/-- One statement of any call. -/
abbrev transition : Service → List Event → Service → Prop := takes step anyAction

section Statements

/-- All that one statement of a call can do. Only a COMMIT writes the tables; a lock is
new only where no other call holds it. -/
inductive Proceeds (store : Store) (others : Locks) (call : Call) :
    Store → Phase → List Effect → Prop
  | freed (phase : Phase) (free : phase.held = .nothing) : Proceeds store others call store phase []
  | failing (error : CancelError) :
      Proceeds store others call store (.rollingBack error call.phase.held) []
  | lockedTerminal (status : BookingStatus) (unlocked : others.booking call.bookingId = false) :
      Proceeds store others call store (.endingTerminal status) []
  | lockedBooking (row : BookingRow) (was : call.phase = .selectingBooking)
      (unlocked : others.booking call.bookingId = false)
      (found : store.db.bookings.lookup call.bookingId = some row)
      (active : row.status ∉ terminalStatuses) :
      Proceeds store others call store (.selectingTrip (store.reserved call.bookingId)) []
  | lockedTrip (booking : Reservation) (trip : TripRow) (was : call.phase = .selectingTrip booking)
      (unlocked : others.trip booking.tripId = false)
      (found : store.trips.lookup booking.tripId = some trip) :
      Proceeds store others call store (.updatingBooking booking) []
  | bookingWritten (booking : Reservation) (was : call.phase = .updatingBooking booking) :
      Proceeds store others call store (.updatingTrip booking) []
  | tripUnwritten (booking : Reservation) (was : call.phase = .updatingTrip booking)
      (missing : store.trips.lookup booking.tripId = none) :
      Proceeds store others call store (.committing booking none) []
  | tripWritten (booking : Reservation) (trip : TripRow) (was : call.phase = .updatingTrip booking)
      (found : store.trips.lookup booking.tripId = some trip) :
      Proceeds store others call store
        (.committing booking (some (releasedBookings trip.currentBookings booking.groupSize)))
        [.decremented booking.tripId trip.currentBookings booking.groupSize
          (releasedBookings trip.currentBookings booking.groupSize)]
  | committed (booking : Reservation) (count : Option Int)
      (was : call.phase = .committing booking count) :
      Proceeds store others call (store.commit call.bookingId booking.tripId count call.now)
        .readingUpdated [.committed call.bookingId booking count call.now]

/-- A statement that is executed is one of these. -/
theorem execute_cases {call : Call} {store next : Store} {others : Locks} {phase : Phase}
    {effects : List Effect} (executed : call.execute store others = some (next, phase, effects)) :
    Proceeds store others call next phase effects := by
  unfold Call.execute at executed
  split at executed
  case h_3 was =>
    split at executed
    · cases executed
    · next unlocked =>
      rw [Bool.not_eq_true] at unlocked
      split at executed
      · cases executed
        exact .freed _ rfl
      · next row found =>
        split at executed <;> cases executed
        · exact .lockedTerminal _ unlocked
        · next active => exact .lockedBooking row was unlocked found active
  case h_4 =>
    split at executed <;> cases executed <;> exact .freed _ rfl
  case h_6 booking was =>
    split at executed
    · cases executed
    · next unlocked =>
      rw [Bool.not_eq_true] at unlocked
      split at executed <;> cases executed
      · have same : Phase.rollingBack tripNotFound .booking =
            .rollingBack tripNotFound call.phase.held := by rw [was]; rfl
        rw [same]
        exact .failing tripNotFound
      · next trip found => exact .lockedTrip booking trip was unlocked found
  case h_7 booking was =>
    split at executed <;> cases executed
    · next raised _ =>
      have same : Phase.rollingBack (raisedError raised) (.both booking.tripId) =
          .rollingBack (raisedError raised) call.phase.held := by rw [was]; rfl
      rw [same]
      exact .failing _
    · exact .bookingWritten booking was
  case h_8 booking was =>
    split at executed <;> cases executed
    · next missing => exact .tripUnwritten booking was missing
    · next trip found => exact .tripWritten booking trip was found
  case h_9 booking count was =>
    cases executed
    exact .committed booking count was
  case h_12 => cases executed
  case h_13 => cases executed
  all_goals
    cases executed
    exact .freed _ rfl

/-- So is one that may have failed. -/
theorem proceed_cases {call : Call} {store next : Store} {others : Locks} {phase : Phase}
    {effects : List Effect} {fault : Option CancelError}
    (proceeded : call.proceed store others fault = some (next, phase, effects)) :
    Proceeds store others call next phase effects := by
  cases fault with
  | none => exact execute_cases proceeded
  | some error =>
    simp only [Call.proceed, Option.map_eq_some_iff, Prod.mk.injEq] at proceeded
    obtain ⟨failed, fails, rfl, rfl, rfl⟩ := proceeded
    unfold Phase.fail at fails
    split at fails <;> cases fails
    · exact .freed _ rfl
    · exact .freed _ rfl
    · exact .failing error

end Statements

section Exclusion

/-- Two calls that hold no row in common. -/
def Apart (one other : Call) : Prop :=
  (∀ bookingId, one.holdsBooking bookingId = true → other.holdsBooking bookingId = false) ∧
    (∀ tripId, one.holdsTrip tripId = true → other.holdsTrip tripId = false)

/-- Two calls are apart both ways. -/
theorem Apart.symm {one other : Call} (apart : Apart one other) : Apart other one := by
  constructor
  · intro bookingId held
    by_contra both
    rw [apart.1 bookingId (Bool.of_not_eq_false both)] at held
    cases held
  · intro tripId held
    by_contra both
    rw [apart.2 tripId (Bool.of_not_eq_false both)] at held
    cases held

/-- No row is locked by two calls. -/
def Exclusive (calls : List Call) : Prop :=
  ∀ (left right : Nat) (one other : Call), left ≠ right → calls[left]? = some one → calls[right]? = some other →
    Apart one other

/-- A row that is free of other calls is held by none of them. -/
theorem locksOf_booking {calls : List Call} {index position : Nat} {other : Call}
    {bookingId : RowId} (free : (locksOf (calls.eraseIdx index)).booking bookingId = false)
    (different : position ≠ index) (found : calls[position]? = some other) :
    other.holdsBooking bookingId = false := by
  have member : other ∈ calls.eraseIdx index :=
    List.mem_eraseIdx_iff_getElem?.mpr ⟨position, different, found⟩
  simp only [locksOf, List.any_eq_false] at free
  exact Bool.eq_false_iff.mpr (free other member)

/-- A trip that nobody else has locked is held by no other call. -/
theorem locksOf_trip {calls : List Call} {index position : Nat} {other : Call}
    {tripId : RowId} (free : (locksOf (calls.eraseIdx index)).trip tripId = false)
    (different : position ≠ index) (found : calls[position]? = some other) :
    other.holdsTrip tripId = false := by
  have member : other ∈ calls.eraseIdx index :=
    List.mem_eraseIdx_iff_getElem?.mpr ⟨position, different, found⟩
  simp only [locksOf, List.any_eq_false] at free
  exact Bool.eq_false_iff.mpr (free other member)

/-- The locks of a call after a statement: none, those it had, or one more that was free. -/
theorem proceeds_held {store next : Store} {others : Locks} {call : Call} {phase : Phase}
    {effects : List Effect} (proceeds : Proceeds store others call next phase effects) :
    phase.held = .nothing ∨ phase.held = call.phase.held ∨
      (phase.held = .booking ∧ others.booking call.bookingId = false) ∨
      ∃ tripId, call.phase.held = .booking ∧ phase.held = .both tripId ∧
        others.trip tripId = false := by
  cases proceeds with
  | freed _ free => exact Or.inl free
  | failing error => exact Or.inr (Or.inl rfl)
  | lockedTerminal status unlocked => exact Or.inr (Or.inr (Or.inl ⟨rfl, unlocked⟩))
  | lockedBooking row was unlocked found active => exact Or.inr (Or.inr (Or.inl ⟨rfl, unlocked⟩))
  | lockedTrip booking trip was unlocked found =>
    exact Or.inr (Or.inr (Or.inr ⟨booking.tripId, by rw [was]; rfl, rfl, unlocked⟩))
  | bookingWritten booking was => exact Or.inr (Or.inl (by rw [was]; rfl))
  | tripUnwritten booking was missing => exact Or.inr (Or.inl (by rw [was]; rfl))
  | tripWritten booking trip was found => exact Or.inr (Or.inl (by rw [was]; rfl))
  | committed booking count was => exact Or.inl rfl

/-- A call that shared no row with another shares none after its statement. -/
theorem proceeds_apart {store next : Store} {calls : List Call} {index position : Nat}
    {call other : Call} {phase : Phase} {effects : List Effect}
    (proceeds : Proceeds store (locksOf (calls.eraseIdx index)) call next phase effects)
    (apart : Apart call other) (different : position ≠ index)
    (found : calls[position]? = some other) : Apart { call with phase } other := by
  have booked : ∀ bookingId, call.holdsBooking bookingId = true → other.holdsBooking bookingId = false :=
    apart.1
  have toured : ∀ tripId, call.holdsTrip tripId = true → other.holdsTrip tripId = false := apart.2
  rcases proceeds_held proceeds with free | same | ⟨taken, free⟩ | ⟨newTrip, was, taken, free⟩
  · constructor <;> intro id held <;> simp [Call.holdsBooking, Call.holdsTrip, free] at held
  · constructor
    · intro bookingId held
      exact booked bookingId (by simpa [Call.holdsBooking, same] using held)
    · intro tripId held
      exact toured tripId (by simpa [Call.holdsTrip, same] using held)
  · constructor
    · intro bookingId held
      obtain ⟨-, rfl⟩ := of_decide_eq_true held
      exact locksOf_booking free different found
    · intro tripId held
      simp [Call.holdsTrip, taken] at held
  · constructor
    · intro bookingId held
      obtain ⟨-, rfl⟩ := of_decide_eq_true held
      exact booked call.bookingId (by simp [Call.holdsBooking, was])
    · intro tripId held
      have same : newTrip = tripId := by simpa [Call.holdsTrip, taken] using held
      exact locksOf_trip (same ▸ free) different found

/-- A statement takes no lock that is held. -/
theorem proceeds_exclusive {store next : Store} {calls : List Call} {index : Nat} {call : Call}
    {phase : Phase} {effects : List Effect} (exclusive : Exclusive calls)
    (stored : calls[index]? = some call)
    (proceeds : Proceeds store (locksOf (calls.eraseIdx index)) call next phase effects) :
    Exclusive (calls.set index { call with phase }) := by
  apply Parties.apart_set Apart.symm exclusive
  intro position other away old
  exact proceeds_apart proceeds (exclusive index position call other away.symm stored old) away old

/-- A new call holds nothing. -/
theorem started_exclusive {calls : List Call} (exclusive : Exclusive calls) (bookingId : RowId)
    (now : Time) : Exclusive (calls ++ [⟨bookingId, now, .connecting⟩]) := by
  apply Parties.apart_append Apart.symm exclusive
  intro other _
  constructor
  · intro locked held
    simp [Call.holdsBooking, Phase.held] at held
  · intro locked held
    simp [Call.holdsTrip, Phase.held] at held

/-- Nor does a step. -/
theorem step_exclusive {service next : Service} {observed : List Event}
    (exclusive : Exclusive service.calls) (taken : transition service observed next) :
    Exclusive next.calls := by
  obtain ⟨action, -, taken⟩ := taken
  cases action with
  | cancelBooking bookingId now =>
    simp only [step, Option.some.injEq, Prod.mk.injEq] at taken
    obtain ⟨rfl, -⟩ := taken
    exact started_exclusive exclusive bookingId now
  | proceed index fault =>
    simp only [step, Option.bind_eq_some_iff, Option.map_eq_some_iff, Prod.exists,
      Prod.mk.injEq] at taken
    obtain ⟨call, stored, store, phase, effects, proceeded, rfl, -⟩ := taken
    exact proceeds_exclusive exclusive stored (proceed_cases proceeded)

end Exclusion

section Waiting

/-- The call waits for a row that the other holds. -/
def Call.awaits (waiter holder : Call) : Prop :=
  (waiter.phase = .selectingBooking ∧ holder.holdsBooking waiter.bookingId = true) ∨
    ∃ booking, waiter.phase = .selectingTrip booking ∧ holder.holdsTrip booking.tripId = true

/-- The call at one position is blocked by the call at another. -/
def Waits (calls : List Call) (waiter holder : Nat) : Prop :=
  waiter ≠ holder ∧ ∃ one other, calls[waiter]? = some one ∧ calls[holder]? = some other ∧
    one.awaits other

/-- Bookings are locked before trips, and nothing after them. -/
def Held.rank : Held → Nat
  | .nothing => 0
  | .booking => 1
  | .both _ => 2

def lockRank (calls : List Call) (index : Nat) : Nat :=
  (calls[index]?).elim 0 (fun call => call.phase.held.rank)

/-- A call waits only for a later kind of lock than it holds. -/
theorem awaits_rises {waiter holder : Call} (waiting : waiter.awaits holder) :
    waiter.phase.held.rank < holder.phase.held.rank ∧ holder.phase.finished = false := by
  rcases waiting with ⟨selecting, held⟩ | ⟨booking, selecting, held⟩
  · obtain ⟨busy, -⟩ := of_decide_eq_true held
    constructor
    · cases locks : holder.phase.held with
      | nothing => exact absurd locks busy
      | booking => simp [selecting, Phase.held, Held.rank]
      | both tripId => simp [selecting, Phase.held, Held.rank]
    · cases phase : holder.phase <;> simp [phase, Phase.held] at busy <;> rfl
  · have both : holder.phase.held = .both booking.tripId := of_decide_eq_true held
    constructor
    · rw [both, selecting]
      exact Nat.lt_succ_self 1
    · cases phase : holder.phase <;> simp [phase, Phase.held] at both <;> rfl

/-- So along any chain of waits the locks are of later and later kinds. -/
theorem waits_rises {calls : List Call} (waiter holder : Nat) (waiting : Waits calls waiter holder) :
    lockRank calls waiter < lockRank calls holder := by
  obtain ⟨-, one, other, foundOne, foundOther, awaiting⟩ := waiting
  simpa [lockRank, foundOne, foundOther] using (awaits_rises awaiting).1

/-- An unfinished call executes its next statement unless it waits for a row. -/
theorem execute_ready {call : Call} {store : Store} {others : Locks}
    (unfinished : call.phase.finished = false)
    (booking : call.phase = .selectingBooking → others.booking call.bookingId = false)
    (trip : ∀ booking, call.phase = .selectingTrip booking → others.trip booking.tripId = false) :
    (call.execute store others).isSome := by
  unfold Call.execute
  cases phase : call.phase with
  | selectingBooking =>
    simp only [booking phase, Bool.false_eq_true, if_false]
    split
    · rfl
    · split <;> rfl
  | selectingTrip booking =>
    simp only [trip booking phase, Bool.false_eq_true, if_false]
    split <;> rfl
  | endingTerminal status => simp only; split <;> rfl
  | updatingBooking booking => simp only; split <;> rfl
  | updatingTrip booking => simp only; split <;> rfl
  | returned booking => simp [phase, Phase.finished] at unfinished
  | threw error => simp [phase, Phase.finished] at unfinished
  | _ => rfl

/-- A call that waits for no other has its rows free. -/
theorem unblocked_ready {calls : List Call} {index : Nat} {call : Call} {store : Store}
    (stored : calls[index]? = some call) (unfinished : call.phase.finished = false)
    (unblocked : ∀ holder, ¬ Waits calls index holder) :
    (call.execute store (locksOf (calls.eraseIdx index))).isSome := by
  apply execute_ready unfinished
  · intro selecting
    by_contra locked
    obtain ⟨other, member, held⟩ := List.any_eq_true.mp (Bool.of_not_eq_false locked)
    obtain ⟨position, different, found⟩ := List.mem_eraseIdx_iff_getElem?.mp member
    exact unblocked position
      ⟨different.symm, call, other, stored, found, Or.inl ⟨selecting, held⟩⟩
  · intro booking selecting
    by_contra locked
    obtain ⟨other, member, held⟩ := List.any_eq_true.mp (Bool.of_not_eq_false locked)
    obtain ⟨position, different, found⟩ := List.mem_eraseIdx_iff_getElem?.mp member
    exact unblocked position
      ⟨different.symm, call, other, stored, found, Or.inr ⟨booking, selecting, held⟩⟩

/-- The positions of the calls that have not ended. -/
def unfinishedCalls (calls : List Call) : List Nat :=
  (List.range calls.length).filter fun index =>
    (calls[index]?).any fun call => !call.phase.finished

/-- The calls that have not finished. -/
theorem mem_unfinishedCalls {calls : List Call} {index : Nat} :
    index ∈ unfinishedCalls calls ↔
      ∃ call, calls[index]? = some call ∧ call.phase.finished = false := by
  unfold unfinishedCalls
  rw [List.mem_filter, List.mem_range]
  constructor
  · rintro ⟨inside, running⟩
    refine ⟨calls[index], List.getElem?_eq_getElem inside, ?_⟩
    simpa [List.getElem?_eq_getElem inside] using running
  · rintro ⟨call, found, running⟩
    exact ⟨(List.getElem?_eq_some_iff.mp found).1, by simp [found, running]⟩

/-- While some call has not ended, one of those can take its next statement. -/
theorem some_call_proceeds {service : Service} {index : Nat} {call : Call}
    (stored : service.calls[index]? = some call) (unfinished : call.phase.finished = false) :
    ∃ position running, service.calls[position]? = some running ∧
      running.phase.finished = false ∧ (step service (.proceed position none)).isSome := by
  have nonempty : unfinishedCalls service.calls ≠ [] :=
    List.ne_nil_of_mem (mem_unfinishedCalls.mpr ⟨call, stored, unfinished⟩)
  obtain ⟨position, member, unblocked⟩ := LockOrder.exists_unblocked waits_rises
    (fun waiter _ holder waiting => by
      obtain ⟨-, one, other, -, foundOther, awaiting⟩ := waiting
      exact mem_unfinishedCalls.mpr ⟨other, foundOther, (awaits_rises awaiting).2⟩) nonempty
  obtain ⟨running, found, alive⟩ := mem_unfinishedCalls.mp member
  refine ⟨position, running, found, alive, ?_⟩
  have ready : (running.execute service.store
      (locksOf (service.calls.eraseIdx position))).isSome := unblocked_ready found alive unblocked
  simpa [step, found, Call.proceed] using ready

end Waiting

end PlanBuddy.Cancellation
