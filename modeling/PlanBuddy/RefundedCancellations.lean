import PlanBuddy.CancelRequests

/-!
# Cancelled bookings that were paid

The controller decides between its two paths on an unlocked read. By the time
`DbService` locks the booking it may have been paid, or claimed for a refund that
failed; the locking SELECT returns `payment_status` and nothing looks at it. A paid
booking is cancelled without a refund exactly through that transaction.

A run is followed through two facts: a cancelled, paid booking has been refunded, and
so has any paid booking that a transaction is about to cancel. Payment events wait for
its row lock, so what the SELECT saw still holds at the COMMIT.
-/

namespace PlanBuddy.Cancellation

open Payments (RowId BookingRow BookingStatus Database EventType)

/-- A paid booking for which a refund has been initiated. -/
def Refunded (refunds : List RowId) (row : BookingRow) : Prop :=
  row.paymentStatus = .paid → row.id ∈ refunds

/-- The transaction has found its booking active and not yet ended. -/
def Phase.cancels : Phase → Bool
  | .selectingTrip _ => true
  | .updatingBooking _ => true
  | .updatingTrip _ => true
  | .committing _ _ => true
  | _ => false

def RequestPhase.cancels : RequestPhase → Bool
  | .cancelling phase => phase.cancels
  | _ => false

/-- The next statement is the locking SELECT of the transaction. -/
def RequestPhase.selects : RequestPhase → Bool
  | .cancelling .selectingBooking => true
  | _ => false

/-- The locking SELECT of a transaction finds no paid booking it would go on to cancel,
unless a refund of it has been initiated. -/
def FindsRefunded (desk : Desk) : RequestAction → Prop
  | .proceed index none =>
    ∀ request ∈ desk.requests[index]?, request.phase.selects = true →
      ∀ row ∈ desk.store.db.bookings.lookup request.bookingId, row.status ∉ terminalStatuses →
        row.paymentStatus = .paid → row.id ∈ desk.refunds
  | _ => True

instance (desk : Desk) : (action : RequestAction) → Decidable (FindsRefunded desk action)
  | .proceed index none =>
    inferInstanceAs (Decidable (∀ request ∈ desk.requests[index]?, _ →
      ∀ row ∈ desk.store.db.bookings.lookup request.bookingId, _ → _ → _))
  | .proceed _ (some _) | .initiateRefund _ _ | .cancelBooking _ _ _ _ | .applyPaymentEvent _ _ _ =>
    inferInstanceAs (Decidable True)

/-- No booking is cancelled, or about to be, that was paid and not refunded. -/
structure Settled (desk : Desk) : Prop where
  cancelled : ∀ id row, desk.store.db.bookings.lookup id = some row → row.status = .cancelled →
    Refunded desk.refunds row
  cancelling : ∀ request ∈ desk.requests, request.phase.cancels = true →
    ∀ row, desk.store.db.bookings.lookup request.bookingId = some row → Refunded desk.refunds row

section Writes

/-- A payment event writes no booking except to pay and confirm it. -/
theorem applyPaymentEvent_bookings {db after : Database} {eventType : EventType}
    {paymentId : Option String} {now : Time}
    (applied : Payments.applyPaymentEvent db eventType paymentId now = .ok after) :
    after.bookings = db.bookings ∨ ∃ matching, after.bookings =
      db.bookings.update matching (Payments.setPaid now).assign (Payments.setPaid now).sameId := by
  unfold Payments.applyPaymentEvent at applied
  split at applied
  · cases applied
    exact Or.inl rfl
  · split at applied
    · cases applied
      exact Or.inl rfl
    · have capture : ∀ {payments : Payments.PaymentRow → Bool} {paid : Payments.PaymentSet}
          {bookings : Database → BookingRow → Bool},
          (db.updatePayments payments paid >>= fun db =>
            db.updateBookings (bookings db) (Payments.setPaid now)) = .ok after →
          ∃ matching, after.bookings = db.bookings.update matching (Payments.setPaid now).assign
            (Payments.setPaid now).sameId := by
        intro payments paid bookings both
        obtain ⟨middle, first, second⟩ := Payments.bind_ok both
        refine ⟨bookings middle, ?_⟩
        rw [Payments.updateBookings_ok second, Payments.updatePayments_ok first]
        rfl
      split at applied
      · exact Or.inr (capture applied)
      · exact Or.inr (capture applied)
      · rw [Payments.updatePayments_ok applied]
        exact Or.inl rfl
      · cases applied
        exact Or.inl rfl

/-- A booking found after a payment event was there before, and is the same or confirmed. -/
theorem event_lookup {db : Database} {eventType : EventType} {paymentId : Option String}
    {now : Time} {id : RowId} {after : BookingRow}
    (found : (Payments.transaction db
      (Payments.applyPaymentEvent db eventType paymentId now)).bookings.lookup id = some after) :
    ∃ row, db.bookings.lookup id = some row ∧ (after = row ∨ after.status = .confirmed) := by
  cases applied : Payments.applyPaymentEvent db eventType paymentId now with
  | error raised =>
    rw [applied] at found
    exact ⟨after, found, Or.inl rfl⟩
  | ok next =>
    rw [applied] at found
    have found : next.bookings.lookup id = some after := found
    rcases applyPaymentEvent_bookings applied with same | ⟨matching, rewritten⟩
    · exact ⟨after, same ▸ found, Or.inl rfl⟩
    · rw [rewritten, Table.lookup_update, Option.map_eq_some_iff] at found
      obtain ⟨row, stored, result⟩ := found
      refine ⟨row, stored, ?_⟩
      split at result
      · exact Or.inr (result ▸ rfl)
      · exact Or.inl result.symm

end Writes

section Requests

/-- A statement that is to cancel a booking belongs to a transaction that was about to, or
is the locking SELECT that finds it active. -/
theorem execute_cancels {call : Call} {store next : Store} {others : Locks} {phase : Phase}
    {effects : List Effect} (executed : call.execute store others = some (next, phase, effects)) :
    (next = store ∧ (phase.cancels = true → call.phase.cancels = true ∨
      (call.phase = .selectingBooking ∧ ∃ row,
        store.db.bookings.lookup call.bookingId = some row ∧ row.status ∉ terminalStatuses))) ∨
    (call.phase.cancels = true ∧ phase = .readingUpdated ∧ ∃ tripId count,
      next = store.commit call.bookingId tripId count call.now) := by
  cases execute_cases executed with
  | freed _ free =>
    left
    refine ⟨rfl, ?_⟩
    intro cancels
    cases phase <;> simp [Phase.cancels, Phase.held] at cancels free
  | lockedBooking row was unlocked found active =>
    exact Or.inl ⟨rfl, fun _ => Or.inr ⟨was, row, found, active⟩⟩
  | committed booking count was =>
    exact Or.inr ⟨by rw [was]; rfl, rfl, booking.tripId, count, rfl⟩
  | lockedTrip booking trip was unlocked found =>
    exact Or.inl ⟨rfl, fun _ => Or.inl (by rw [was]; rfl)⟩
  | bookingWritten booking was => exact Or.inl ⟨rfl, fun _ => Or.inl (by rw [was]; rfl)⟩
  | tripUnwritten booking was missing => exact Or.inl ⟨rfl, fun _ => Or.inl (by rw [was]; rfl)⟩
  | tripWritten booking trip was found => exact Or.inl ⟨rfl, fun _ => Or.inl (by rw [was]; rfl)⟩
  | failing error => exact Or.inl ⟨rfl, fun cancels => by cases cancels⟩
  | lockedTerminal status unlocked => exact Or.inl ⟨rfl, fun cancels => by cases cancels⟩

/-- What one step of a request writes, and when it is about to cancel its booking. -/
inductive Serves (request : Request) (store : Store) (fault : Option CancelError) :
    Store → RequestPhase → Prop
  | waits (phase : RequestPhase) (idle : phase.cancels = false) :
      Serves request store fault store phase
  | continues (phase : RequestPhase) (cancels : request.phase.cancels = true) :
      Serves request store fault store phase
  | selects (phase : RequestPhase) (selecting : request.phase.selects = true)
      (succeeded : fault = none) (row : BookingRow)
      (found : store.db.bookings.lookup request.bookingId = some row)
      (active : row.status ∉ terminalStatuses) : Serves request store fault store phase
  | claims : Serves request store fault
      { store with
        db := store.db.writeBookings (claimable request.bookingId)
          (setCancellationPending request.now) } .refunding
  | commits (tripId : RowId) (count : Option Int) (cancels : request.phase.cancels = true) :
      Serves request store fault (store.commit request.bookingId tripId count request.now)
        (.cancelling .readingUpdated)

/-- A claim serves its request. -/
theorem claim_serves {checks : List Check} {request : Request} {store next : Store} {others : Locks}
    {fault : Option CancelError} {phase : RequestPhase}
    (claimed : request.claim checks store others = some (next, phase)) :
    Serves request store fault next phase := by
  unfold Request.claim at claimed
  split at claimed
  · cases claimed
    exact .waits _ rfl
  · split at claimed
    · cases claimed
    · split at claimed
      · cases claimed
        exact .waits _ rfl
      · next db written =>
        split at claimed <;> cases claimed
        · exact .waits _ rfl
        · rw [Payments.updateBookings_ok written]
          exact .claims

/-- A call that goes on is of the same kind. -/
theorem resume_cancels (phase : Phase) : phase.resume.cancels = phase.cancels := by
  cases phase <;> rfl

/-- No failing statement cancels a booking. -/
theorem fail_cancels {error : CancelError} {phase failed : Phase}
    (fails : phase.fail error = some failed) : failed.cancels = false := by
  unfold Phase.fail at fails
  split at fails <;> cases fails <;> rfl

/-- So does a step of a cancellation. -/
theorem cancel_serves {request : Request} {store next : Store} {others : Locks}
    {fault : Option CancelError} {before : Phase} {phase : RequestPhase}
    (was : request.phase = .cancelling before)
    (cancelled : request.cancel before store others fault = some (next, phase)) :
    Serves request store fault next phase := by
  simp only [Request.cancel, Option.map_eq_some_iff, Prod.exists, Prod.mk.injEq] at cancelled
  obtain ⟨store', after, effects, proceeded, rfl, rfl⟩ := cancelled
  cases fault with
  | some error =>
    simp only [Call.proceed, Option.map_eq_some_iff, Prod.mk.injEq] at proceeded
    obtain ⟨failed, fails, rfl, rfl, -⟩ := proceeded
    exact .waits _ ((resume_cancels _).trans (fail_cancels fails))
  | none =>
    rcases execute_cancels proceeded with ⟨rfl, cause⟩ | ⟨cancels, rfl, tripId, count, rfl⟩
    · cases about : after.cancels with
      | false => exact .waits _ ((resume_cancels after).trans about)
      | true =>
        rcases cause about with cancels | ⟨selecting, row, found, active⟩
        · exact .continues _ (by rw [was]; exact cancels)
        · have selecting : before = .selectingBooking := selecting
          exact .selects _ (by rw [was, selecting]; rfl) rfl row found active
    · have cancels : before.cancels = true := cancels
      exact .commits tripId count (by rw [was]; exact cancels)

/-- The step of a request, whatever it meets. -/
theorem proceed_serves {checks : List Check} {request : Request} {store next : Store}
    {others : Locks} {fault : Option CancelError} {phase : RequestPhase}
    (proceeded : request.proceed checks store others fault = some (next, phase)) :
    Serves request store fault next phase := by
  unfold Request.proceed at proceeded
  split at proceeded
  case h_1 =>
    split at proceeded
    · cases proceeded
      exact .waits _ rfl
    · split at proceeded
      · cases proceeded
        exact .waits _ rfl
      · split at proceeded <;> cases proceeded <;> exact .waits _ rfl
  case h_3 => exact claim_serves proceeded
  case h_7 => cases proceeded
  case h_10 before was => exact cancel_serves was proceeded
  case h_12 => cases proceeded
  all_goals
    cases proceeded
    exact .waits _ rfl

end Requests

section Steps

variable {checks : List Check}

/-- A step of a request keeps every payment status, and cancels no booking except its
own, by the COMMIT of a transaction. -/
theorem serves_lookup {request : Request} {store next : Store} {fault : Option CancelError}
    {phase : RequestPhase} (serves : Serves request store fault next phase) {id : RowId}
    {after : BookingRow} (found : next.db.bookings.lookup id = some after) :
    ∃ row, store.db.bookings.lookup id = some row ∧ after.id = row.id ∧
      after.paymentStatus = row.paymentStatus ∧
      (after.status = .cancelled → row.status = .cancelled ∨
        (request.phase.cancels = true ∧ id = request.bookingId)) := by
  cases serves with
  | claims =>
    have rewritten := Table.lookup_update store.db.bookings (claimable request.bookingId)
      (setCancellationPending request.now).assign (setCancellationPending request.now).sameId id
    obtain ⟨row, stored, result⟩ := Option.map_eq_some_iff.mp (rewritten.symm.trans found)
    refine ⟨row, stored, ?_⟩
    split at result <;> subst result
    · exact ⟨rfl, rfl, fun cancelled => by cases cancelled⟩
    · exact ⟨rfl, rfl, Or.inl⟩
  | commits tripId count cancels =>
    have rewritten := Table.lookup_update store.db.bookings
      (fun row => decide (row.id = request.bookingId)) (setCancelled request.now).assign
      (setCancelled request.now).sameId id
    obtain ⟨row, stored, result⟩ := Option.map_eq_some_iff.mp (rewritten.symm.trans found)
    refine ⟨row, stored, ?_⟩
    split at result <;> subst result
    · next own =>
      have here : id = request.bookingId := (Table.lookup_key stored).symm.trans (of_decide_eq_true own)
      exact ⟨rfl, rfl, fun _ => Or.inr ⟨cancels, here⟩⟩
    · exact ⟨rfl, rfl, Or.inl⟩
  | _ => exact ⟨after, found, rfl, rfl, Or.inl⟩

/-- What a request does leaves the desk settled. -/
theorem proceed_settled {desk : Desk} {index : Nat} {request : Request} {fault : Option CancelError}
    {next : Store} {phase : RequestPhase} (settled : Settled desk)
    (stored : desk.requests[index]? = some request)
    (finds : FindsRefunded desk (.proceed index fault))
    (serves : Serves request desk.store fault next phase) :
    Settled { desk with store := next, requests := desk.requests.set index { request with phase } } := by
  have member : request ∈ desk.requests := List.mem_of_getElem? stored
  have kept : ∀ {row after : BookingRow}, after.id = row.id →
      after.paymentStatus = row.paymentStatus → Refunded desk.refunds row →
      Refunded desk.refunds after := by
    intro row after sameId samePayment refunded paid
    rw [sameId]
    exact refunded (samePayment ▸ paid)
  constructor
  · intro id after found cancelled
    obtain ⟨row, foundRow, sameId, samePayment, cause⟩ := serves_lookup serves found
    apply kept sameId samePayment
    rcases cause cancelled with before | ⟨cancels, rfl⟩
    · exact settled.cancelled id row foundRow before
    · exact settled.cancelling request member cancels row foundRow
  · intro other moved cancels after found
    rcases List.mem_or_eq_of_mem_set moved with old | rfl
    · obtain ⟨row, foundRow, sameId, samePayment, -⟩ := serves_lookup serves found
      exact kept sameId samePayment (settled.cancelling other old cancels row foundRow)
    · cases serves with
      | waits _ idle => exact absurd (idle.symm.trans cancels) (by simp)
      | continues _ before => exact settled.cancelling request member before after found
      | selects _ selecting succeeded row foundRow active =>
        subst succeeded
        have same : row = after := Option.some.inj (foundRow.symm.trans found)
        subst same
        exact finds request stored selecting row foundRow active
      | claims => cases cancels
      | commits tripId count before => cases cancels

/-- The refund of a booking settles it, whatever is written to it. -/
theorem refund_settled {desk : Desk} {index : Nat} {request : Request} (settled : Settled desk)
    (payment : Payments.PaymentSet) (booking : Payments.BookingSet) :
    Settled {
      store := desk.store.refund request.bookingId payment booking
      requests := desk.requests.set index { request with phase := .notifying }
      refunds := request.bookingId :: desk.refunds } := by
  have refunded : ∀ {id : RowId} {after : BookingRow},
      (desk.store.refund request.bookingId payment booking).db.bookings.lookup id = some after →
      (∀ row, desk.store.db.bookings.lookup id = some row → after = row →
        Refunded desk.refunds row) →
      Refunded (request.bookingId :: desk.refunds) after := by
    intro id after found before paid
    have rewritten := Table.lookup_update desk.store.db.bookings
      (fun row => decide (row.id = request.bookingId)) booking.assign booking.sameId id
    obtain ⟨row, stored, result⟩ := Option.map_eq_some_iff.mp (rewritten.symm.trans found)
    split at result
    · next own =>
      subst result
      rw [booking.sameId, of_decide_eq_true own]
      exact List.mem_cons_self
    · subst result
      exact List.mem_cons_of_mem _ (before row stored rfl paid)
  constructor
  · intro id after found cancelled
    apply refunded found
    rintro row foundRow rfl
    exact settled.cancelled id after foundRow cancelled
  · intro other moved cancels after found
    apply refunded found
    rintro row foundRow rfl
    rcases List.mem_or_eq_of_mem_set moved with old | rfl
    · exact settled.cancelling other old cancels after foundRow
    · cases cancels

/-- A request about to cancel its booking keeps the booking locked. -/
theorem cancels_locked {requests : List Request} {request : Request} (member : request ∈ requests)
    (cancels : request.phase.cancels = true) :
    (requestLocks requests).booking request.bookingId = true := by
  cases phase : request.phase with
  | cancelling before =>
    rw [phase] at cancels
    have busy : before.held ≠ .nothing := by
      have cancels : before.cancels = true := cancels
      cases before <;> simp [Phase.cancels, Phase.held] at cancels ⊢
    refine List.any_eq_true.mpr ⟨⟨request.bookingId, request.now, before⟩, ?_, ?_⟩
    · exact List.mem_filterMap.mpr ⟨request, member, by simp [Request.call, phase]⟩
    · simp [Call.holdsBooking, busy]
  | _ => simp [phase, RequestPhase.cancels] at cancels

/-- A payment event cancels no booking and passes by those that are locked. -/
theorem event_settled {desk : Desk} {eventType : EventType} {paymentId : Option String} {now : Time}
    (settled : Settled desk)
    (unblocked : eventBlocked desk.store (Payments.transaction desk.store.db
      (Payments.applyPaymentEvent desk.store.db eventType paymentId now))
      (requestLocks desk.requests) = false) :
    Settled { desk with store := { desk.store with
      db := Payments.transaction desk.store.db
        (Payments.applyPaymentEvent desk.store.db eventType paymentId now) } } := by
  constructor
  · intro id after found cancelled
    obtain ⟨row, foundRow, same | confirmed⟩ := event_lookup found
    · subst same
      exact settled.cancelled id after foundRow cancelled
    · rw [confirmed] at cancelled
      cases cancelled
  · intro request member cancels after found
    obtain ⟨row, foundRow, -⟩ := event_lookup found
    have named : row.id = request.bookingId := Table.lookup_key foundRow
    have kept := List.any_eq_false.mp unblocked row (Table.lookup_mem foundRow)
    rw [named, cancels_locked member cancels, Bool.true_and, decide_eq_true_eq, not_not] at kept
    have same : after = row := Option.some.inj (found.symm.trans kept)
    exact same ▸ settled.cancelling request member cancels row foundRow

/-- So does any step. -/
theorem step_settled {desk next : Desk} {observed : List RequestEvent} (settled : Settled desk)
    (taken : takes (serve checks) FindsRefunded desk observed next) : Settled next := by
  obtain ⟨action, finds, taken⟩ := taken
  cases action with
  | cancelBooking bookingId userId isAdmin now =>
    simp only [serve, Option.some.injEq, Prod.mk.injEq] at taken
    obtain ⟨rfl, -⟩ := taken
    refine ⟨settled.cancelled, ?_⟩
    intro request member cancels row found
    rcases List.mem_append.mp member with old | new
    · exact settled.cancelling request old cancels row found
    · rw [List.mem_singleton] at new
      subst new
      cases cancels
  | proceed index fault =>
    simp only [serve, Option.bind_eq_some_iff, Option.map_eq_some_iff, Prod.exists,
      Prod.mk.injEq] at taken
    obtain ⟨request, stored, store, phase, proceeded, rfl, -⟩ := taken
    exact proceed_settled settled stored finds (proceed_serves proceeded)
  | initiateRefund index outcome =>
    simp only [serve, Option.bind_eq_some_iff] at taken
    obtain ⟨request, stored, taken⟩ := taken
    split at taken <;> cases taken
    · exact refund_settled settled _ _
    · refine ⟨settled.cancelled, ?_⟩
      intro other moved cancels row found
      rcases List.mem_or_eq_of_mem_set moved with old | rfl
      · exact settled.cancelling other old cancels row found
      · cases cancels
  | applyPaymentEvent eventType paymentId now =>
    simp only [serve] at taken
    split at taken
    · cases taken
    · next unblocked =>
      cases taken
      exact event_settled settled (Bool.eq_false_iff.mpr unblocked)

end Steps

/-- In every run in which each locking SELECT finds no paid booking that it would go on
to cancel, unless it was refunded, no booking is cancelled and paid without a refund:
whatever the order of requests, refunds that succeed or throw, failing statements and
payment events. -/
theorem paid_cancellations_refunded {checks : List Check} {start : Store} {refunds : List RowId}
    (initially : ∀ id row, start.db.bookings.lookup id = some row → row.status = .cancelled →
      Refunded refunds row)
    {history : List RequestEvent} {desk : Desk}
    (run : Run (takes (serve checks) FindsRefunded) ⟨start, [], refunds⟩ history desk) :
    ∀ row ∈ desk.store.db.bookings.rows, row.status = .cancelled → row.paymentStatus = .paid →
      row.id ∈ desk.refunds := by
  have idle : Settled ⟨start, [], refunds⟩ := ⟨initially, fun request member => by cases member⟩
  have settled : Settled desk :=
    run.invariant (fun _ desk => Settled desk) idle (fun _ settled taken => step_settled settled taken)
  intro row stored cancelled paid
  exact settled.cancelled row.id row (Table.mem_lookup stored) cancelled paid

section Sample

/-- One confirmed booking with a captured payment. -/
def paidBooking : Store where
  db :=
    { payments := ⟨[⟨4, 1, some "pay_1", .captured, none, none, none⟩], by decide⟩
      bookings := ⟨[⟨1, .confirmed, .paid, none⟩], by decide⟩
      providerIdsUnique := by decide
      onePaymentPerBooking := by decide
      booked := by decide }
  reserved _ := ⟨9, 2, 7⟩
  trips := ⟨[⟨9, 2⟩], by decide⟩

/-- The sample has no cancelled booking. -/
theorem paidBooking_uncancelled : ∀ id row, paidBooking.db.bookings.lookup id = some row →
    row.status = .cancelled → Refunded [] row := by
  intro id row found cancelled
  have only : row = ⟨1, .confirmed, .paid, none⟩ := List.mem_singleton.mp (Table.lookup_mem found)
  rw [only] at cancelled
  cases cancelled

/-- The refund of a first request throws. A second request finds the claimed booking and
cancels it through the other path. -/
theorem failed_refund_cancelled :
    ¬ ∀ (start : Store) (refunds : List RowId),
      (∀ id row, start.db.bookings.lookup id = some row → row.status = .cancelled →
        Refunded refunds row) →
      ∀ (history : List RequestEvent) (desk : Desk),
        Run (takes (serve []) anyAction) ⟨start, [], refunds⟩ history desk →
        ∀ row ∈ desk.store.db.bookings.rows, row.status = .cancelled → row.paymentStatus = .paid →
          row.id ∈ desk.refunds := by
  intro refunded
  have run : Run (takes (serve []) anyAction) ⟨paidBooking, [], []⟩ _ _ :=
    run_of_schedule ([.cancelBooking 1 7 false 0, .proceed 0 none, .proceed 0 none,
      .initiateRefund 0 (.throws ⟨"gateway timeout", none, none⟩), .cancelBooking 1 7 false 10] ++
        List.replicate 8 (.proceed 1 none)) rfl
  have empty := refunded _ _ paidBooking_uncancelled _ _ run _ (List.mem_singleton.mpr rfl) rfl rfl
  cases empty

/-- The refund of the only request succeeds and the service cancels the booking. -/
theorem paid_cancellations_refunded_once :
    (∀ id row, paidBooking.db.bookings.lookup id = some row → row.status = .cancelled →
      Refunded [] row) ∧
    ∃ history desk, Run (takes (serve []) FindsRefunded) ⟨paidBooking, [], []⟩ history desk ∧
      desk.store.db.bookings.rows.map BookingRow.status = [.cancelled] ∧
      ∀ row ∈ desk.store.db.bookings.rows, row.status = .cancelled → row.paymentStatus = .paid →
        row.id ∈ desk.refunds := by
  have run : Run (takes (serve []) FindsRefunded) ⟨paidBooking, [], []⟩ _ _ :=
    run_of_restricted [.cancelBooking 1 7 false 0, .proceed 0 none, .proceed 0 none,
      .initiateRefund 0 (.succeeds ⟨id, fun _ => rfl, fun _ => rfl, fun _ => rfl⟩ (setCancelled 5)),
      .proceed 0 none] rfl
  exact ⟨paidBooking_uncancelled, _, _, run, by decide,
    paid_cancellations_refunded paidBooking_uncancelled run⟩

end Sample

end PlanBuddy.Cancellation
