import PlanBuddy.Payments

/-!
# Payment webhooks at one payment

One payment and its booking are followed through the handlers. The unique
indexes make every statement of an event act on these two rows alone, and make
each trigger read the other of them, so a handler is described by the two rows
it finds.

A capture is stored before its booking is paid, and a refund before its booking
is refunded; the payment trigger asks for the opposite order and rejects both.
What does pass are the captures whose first UPDATE matches nothing: they change
the booking alone. A refund that matches nothing does not get that far, since its
second UPDATE is refused.
-/

namespace PlanBuddy.Payments

/-- A payment found under its provider id, and the booking it belongs to. An empty id
names no payment, since the handlers take it for a missing one. -/
structure Focus (db : Database) (paymentId : String) (payment : PaymentRow)
    (booking : BookingRow) : Prop where
  stored : payment ∈ db.payments.rows
  named : payment.razorpayPaymentId = some paymentId
  present : paymentId ≠ ""
  opened : booking ∈ db.bookings.rows
  linked : booking.id = payment.bookingId

section Rows

variable {db : Database} {paymentId : String} {payment : PaymentRow} {booking : BookingRow}

/-- No other payment carries the provider id: the ids that are not null are distinct. -/
theorem only_named (focus : Focus db paymentId payment booking) :
    ∀ other ∈ db.payments.rows, other.hasProviderId paymentId = true → other = payment := by
  intro other stored matched
  exact Table.indexed_unique db.providerIdsUnique stored focus.stored
    (of_decide_eq_true matched) focus.named

/-- No other payment belongs to the booking. -/
theorem only_linked (focus : Focus db paymentId payment booking) :
    ∀ other ∈ db.payments.rows, other.bookingId = payment.bookingId → other = payment :=
  fun _ stored same => List.inj_on_of_nodup_map db.onePaymentPerBooking stored focus.stored same

/-- The payment in focus has the id of the event. -/
theorem focus_provider (focus : Focus db paymentId payment booking) :
    payment.hasProviderId paymentId = true := by
  simp [PaymentRow.hasProviderId, focus.named]

/-- It is the only one. -/
theorem select_named (focus : Focus db paymentId payment booking) :
    db.payments.select (fun row => row.hasProviderId paymentId) = [payment] :=
  Table.select_single focus.stored (focus_provider focus) (only_named focus)

/-- Its booking is the one in focus. -/
theorem bookingOf_focus (focus : Focus db paymentId payment booking) :
    db.bookingOf paymentId = some booking.id := by
  simp [Database.bookingOf, select_named focus, focus.linked]

/-- The payment trigger, on the focused payment rewritten, reads the focused booking. -/
theorem booking_read (focus : Focus db paymentId payment booking) {row : PaymentRow}
    (same : row.bookingId = payment.bookingId) :
    (db.bookings.lookup row.bookingId).map BookingRow.paymentStatus = some booking.paymentStatus := by
  have found : db.bookings.lookup booking.id = some booking := Table.mem_lookup focus.opened
  rw [same, ← focus.linked, found]
  rfl

/-- The booking trigger lets a paid booking through, whatever its payment. -/
theorem paid_accepted (payments : Table PaymentRow.id) {row : BookingRow}
    (paid : row.paymentStatus = .paid) : enforceBookingPaymentInvariance payments row = none := by
  simp [enforceBookingPaymentInvariance, paid]

/-- The booking trigger lets anything through while the payment is not captured. -/
theorem uncaptured_accepted (focus : Focus db paymentId payment booking)
    (uncaptured : payment.status ≠ .captured) {row : BookingRow} (same : row.id = booking.id) :
    enforceBookingPaymentInvariance db.payments row = none := by
  have none : db.payments.select (fun other =>
      decide (other.bookingId = row.id ∧ other.status = .captured)) = [] := by
    apply Table.select_none
    intro other stored
    rw [decide_eq_false_iff_not]
    rintro ⟨linked, captured⟩
    have only := only_linked focus other stored (linked.trans (same.trans focus.linked))
    exact uncaptured (only ▸ captured)
  simp only [enforceBookingPaymentInvariance, none]
  rfl

end Rows

section Writes

variable {db : Database} {paymentId : String} {payment : PaymentRow} {booking : BookingRow}

/-- A payment statement guarded by the provider id visits the focused payment alone,
when the rest of its guard holds there. -/
theorem select_guarded (focus : Focus db paymentId payment booking) (guard : PaymentRow → Bool)
    (hit : guard payment = true) :
    db.payments.select (fun row => row.hasProviderId paymentId && guard row) = [payment] := by
  refine Table.select_single focus.stored (by simp [focus_provider focus, hit]) ?_
  intro other stored matched
  rw [Bool.and_eq_true] at matched
  exact only_named focus other stored matched.1

/-- A guard that it misses lets no row through. -/
theorem select_unguarded (focus : Focus db paymentId payment booking) (guard : PaymentRow → Bool)
    (missed : guard payment = false) :
    ∀ row ∈ db.payments.rows, (row.hasProviderId paymentId && guard row) = false := by
  intro row stored
  by_cases named : row.hasProviderId paymentId = true
  · have only := only_named focus row stored named
    simp [only, missed]
  · simp [named]

/-- A payment statement that matches no row leaves the database alone. -/
theorem updatePayments_unmatched {matching : PaymentRow → Bool} (set : PaymentSet)
    (unmatched : ∀ row ∈ db.payments.rows, matching row = false) :
    db.updatePayments matching set = .ok db := by
  have unwritten : db.payments.update matching set.assign set.sameId = db.payments :=
    Table.update_unmatched _ _ _ _ unmatched
  have same : db.writePayments matching set = db := Database.ext unwritten rfl
  simp [Database.updatePayments, Table.vetoed, Table.returning, Table.select_none unmatched, same]

/-- A payment statement whose guard fails leaves the database alone. -/
theorem updatePayments_skipped (focus : Focus db paymentId payment booking)
    (guard : PaymentRow → Bool) (set : PaymentSet) (missed : guard payment = false) :
    db.updatePayments (fun row => row.hasProviderId paymentId && guard row) set = .ok db :=
  updatePayments_unmatched set (select_unguarded focus guard missed)

/-- A payment statement whose trigger objects raises, and writes nothing. -/
theorem updatePayments_vetoed (focus : Focus db paymentId payment booking)
    (guard : PaymentRow → Bool) (set : PaymentSet) (hit : guard payment = true) {raised : Raised}
    (objection : enforcePaymentStateInvariance db.bookings (set.assign payment) = some raised) :
    db.updatePayments (fun row => row.hasProviderId paymentId && guard row) set = .error raised := by
  simp [Database.updatePayments, Table.vetoed, Table.returning, select_guarded focus guard hit,
    objection]

/-- A payment statement without objection rewrites the focused payment. -/
theorem updatePayments_written (focus : Focus db paymentId payment booking)
    (guard : PaymentRow → Bool) (set : PaymentSet) (hit : guard payment = true)
    (accepted : enforcePaymentStateInvariance db.bookings (set.assign payment) = none) :
    ∃ after, db.updatePayments (fun row => row.hasProviderId paymentId && guard row) set =
        .ok after ∧ Focus after paymentId (set.assign payment) booking := by
  refine ⟨db.writePayments (fun row => row.hasProviderId paymentId && guard row) set, ?_, ?_⟩
  · simp [Database.updatePayments, Table.vetoed, Table.returning, select_guarded focus guard hit,
      accepted]
  · refine ⟨?_, (set.sameProviderId payment).trans focus.named, focus.present, focus.opened,
      focus.linked.trans (set.sameBooking payment).symm⟩
    refine List.mem_map.mpr ⟨payment, focus.stored, ?_⟩
    simp [focus_provider focus, hit]

/-- A booking statement that matches the focused booking alone, and to whose result
the trigger does not object, rewrites that booking. -/
theorem updateBookings_written (focus : Focus db paymentId payment booking)
    (matching : BookingRow → Bool) (set : BookingSet) (hit : matching booking = true)
    (only : ∀ row, matching row = true → row.id = booking.id)
    (accepted : enforceBookingPaymentInvariance db.payments (set.assign booking) = none) :
    ∃ after, db.updateBookings matching set = .ok after ∧
      Focus after paymentId payment (set.assign booking) := by
  have selected : db.bookings.select matching = [booking] := by
    refine Table.select_single focus.opened hit ?_
    intro other stored matched
    exact List.inj_on_of_nodup_map db.bookings.unique stored focus.opened (only other matched)
  refine ⟨db.writeBookings matching set, ?_, ?_⟩
  · simp [Database.updateBookings, Table.vetoed, Table.returning, selected, accepted]
  · refine ⟨focus.stored, focus.named, focus.present, ?_, (set.sameId booking).trans focus.linked⟩
    exact List.mem_map.mpr ⟨booking, focus.opened, by simp [hit]⟩

end Writes

section Handlers

variable {db : Database} {paymentId : String} {payment : PaymentRow} {booking : BookingRow}
  {eventType : EventType}

/-- Text that is not empty is truthy. -/
theorem truthyText_some {text : String} (present : text ≠ "") :
    truthyText (some text) = some text := by
  simp [truthyText, Option.filter, present]

/-- A capture is rejected while the booking is unpaid: its first UPDATE stores the
payment as captured, and the trigger finds a booking that the second UPDATE has not
reached yet. -/
theorem capture_vetoed (focus : Focus db paymentId payment booking)
    (captures : eventType = .paymentCaptured ∨ eventType = .paymentAuthorized)
    (created : payment.status = .created) (unpaid : booking.paymentStatus ≠ .paid) (now : Time) :
    applyPaymentEvent db eventType (some paymentId) now =
      .error (capturedRequiresPaid payment.bookingId) := by
  have read := booking_read focus ((setCaptured now).sameBooking payment)
  have objection : enforcePaymentStateInvariance db.bookings ((setCaptured now).assign payment) =
      some (capturedRequiresPaid payment.bookingId) := by
    simp only [enforcePaymentStateInvariance, read]
    simp [setCaptured, unpaid]
  have vetoed := updatePayments_vetoed focus (fun row => decide (row.status = .created))
    (setCaptured now) (decide_eq_true created) objection
  rcases captures with rfl | rfl <;>
    simp only [applyPaymentEvent, truthyText_some focus.present, select_named focus, vetoed] <;> rfl

/-- A capture that finds the payment no longer created skips it and pays the booking. -/
theorem capture_books (focus : Focus db paymentId payment booking)
    (captures : eventType = .paymentCaptured ∨ eventType = .paymentAuthorized)
    (uncreated : payment.status ≠ .created) (pending : booking.status = .pending) (now : Time) :
    ∃ after, applyPaymentEvent db eventType (some paymentId) now = .ok after ∧
      Focus after paymentId payment ((setPaid now).assign booking) := by
  have skipped := updatePayments_skipped focus (fun row => decide (row.status = .created))
    (setCaptured now) (decide_eq_false uncreated)
  obtain ⟨after, written, focused⟩ := updateBookings_written focus
    (fun row => decide (db.bookingOf paymentId = some row.id) && decide (row.status = .pending))
    (setPaid now) (by simp [bookingOf_focus focus, pending])
    (by simp +contextual [bookingOf_focus focus]) (paid_accepted db.payments rfl)
  refine ⟨after, ?_, focused⟩
  rcases captures with rfl | rfl <;>
    simp only [applyPaymentEvent, truthyText_some focus.present, select_named focus, skipped] <;>
    exact written

/-- A failure event stores a created payment as failed; no trigger objects. -/
theorem failure_written (focus : Focus db paymentId payment booking)
    (created : payment.status = .created) (now : Time) :
    ∃ after, applyPaymentEvent db .paymentFailed (some paymentId) now = .ok after ∧
      Focus after paymentId ((setFailed now).assign payment) booking := by
  obtain ⟨after, written, focused⟩ := updatePayments_written focus
    (fun row => decide (row.status = .created)) (setFailed now) (decide_eq_true created)
    (by simp [enforcePaymentStateInvariance, setFailed])
  refine ⟨after, ?_, focused⟩
  simp only [applyPaymentEvent, truthyText_some focus.present, select_named focus]
  exact written

/-- A failure event on a payment that is no longer created does nothing. -/
theorem failure_skipped (focus : Focus db paymentId payment booking)
    (uncreated : payment.status ≠ .created) (now : Time) :
    applyPaymentEvent db .paymentFailed (some paymentId) now = .ok db := by
  have skipped := updatePayments_skipped focus (fun row => decide (row.status = .created))
    (setFailed now) (decide_eq_false uncreated)
  simp only [applyPaymentEvent, truthyText_some focus.present, select_named focus]
  exact skipped

/-- A refund of a captured payment is rejected while its booking is not refunded: again
the payment is stored first. -/
theorem refund_vetoed (focus : Focus db paymentId payment booking)
    (refunds : eventType = .refundProcessed ∨ eventType = .refundPaid) {refundId : String}
    (issued : refundId ≠ "") (captured : payment.status = .captured)
    (unrefunded : booking.paymentStatus ≠ .refunded) (now : Time) :
    applyRefundEvent db eventType (some paymentId) (some refundId) now =
      .error (refundRequiresRefunded .refunded payment.bookingId) := by
  have read := booking_read focus ((setRefunded refundId now).sameBooking payment)
  have objection : enforcePaymentStateInvariance db.bookings
      ((setRefunded refundId now).assign payment) =
        some (refundRequiresRefunded .refunded payment.bookingId) := by
    simp only [enforcePaymentStateInvariance, read]
    simp [setRefunded, unrefunded]
  have vetoed := updatePayments_vetoed focus
    (fun row => decide (row.status = .captured ∨ row.status = .success))
    (setRefunded refundId now) (by simp [captured]) objection
  rcases refunds with rfl | rfl <;>
    simp only [applyRefundEvent, truthyText_some focus.present, truthyText_some issued,
      Option.any_some, select_named focus, vetoed] <;> rfl

end Handlers

end PlanBuddy.Payments
