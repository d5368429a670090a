import PlanBuddy.PaymentHandlers

/-!
# Agreement of payments and bookings

Two questions about the handlers under their triggers. The first is whether the
transitions they were written for go through: none does, in any database. The
second is whether the two rows agree after any sequence of events: they do
exactly for the sequences that bring no capture after a failure. Refund events
never matter, because none of them commits a change.

Sequences are arbitrary lists of deliveries for one payment, each a transaction
of its own. How the provider orders or repeats them is not restricted.
-/

namespace PlanBuddy.Payments

section Vetoes

/-- A capture that commits and leaves the payment captured and its booking confirmed. -/
def Captures (db : Database) (paymentId : String) (payment : PaymentRow) (now : Time) : Prop :=
  ∃ after, applyPaymentEvent db .paymentCaptured (some paymentId) now = .ok after ∧
    (∃ row, after.payments.lookup payment.id = some row ∧ row.status = .captured) ∧
    ∃ row, after.bookings.lookup payment.bookingId = some row ∧ row.status = .confirmed ∧
      row.paymentStatus = .paid

/-- A refund that commits and leaves payment and booking refunded. -/
def Refunds (db : Database) (eventType : EventType) (paymentId refundId : String)
    (payment : PaymentRow) (now : Time) : Prop :=
  ∃ after, applyRefundEvent db eventType (some paymentId) (some refundId) now = .ok after ∧
    (∃ row, after.payments.lookup payment.id = some row ∧ row.status = .refunded) ∧
    ∃ row, after.bookings.lookup payment.bookingId = some row ∧ row.paymentStatus = .refunded

/-- The triggers reject every legitimate transition. In every database a capture of a
created payment with a pending, unpaid booking fails, and so does a refund of a
captured payment with a paid booking. -/
theorem legitimate_transitions_vetoed (db : Database) (paymentId : String) (payment : PaymentRow)
    (booking : BookingRow) (focus : Focus db paymentId payment booking) (now : Time) :
    (payment.status = .created → booking.status = .pending → booking.paymentStatus = .unpaid →
      ¬ Captures db paymentId payment now) ∧
    (payment.status = .captured → booking.paymentStatus = .paid →
      ∀ eventType refundId, eventType = .refundProcessed ∨ eventType = .refundPaid →
        ¬ Refunds db eventType paymentId refundId payment now) := by
  have current : db.payments.lookup payment.id = some payment := Table.mem_lookup focus.stored
  constructor
  · rintro created - unpaid ⟨after, committed, -⟩
    have vetoed := capture_vetoed focus (Or.inl rfl) created (by simp [unpaid]) now
    rw [vetoed] at committed
    cases committed
  · rintro captured paid eventType refundId refunds ⟨after, committed, ⟨row, found, refunded⟩, -⟩
    by_cases issued : refundId = ""
    · subst issued
      have unchanged : after = db := (Except.ok.inj committed).symm
      rw [unchanged, current, Option.some.injEq] at found
      rw [← found, captured] at refunded
      cases refunded
    · have vetoed := refund_vetoed focus refunds issued captured (by simp [paid]) now
      rw [vetoed] at committed
      cases committed

/-- One payment with its booking, in the given states. -/
def onePayment (payment : PaymentStatus) (booking : BookingStatus)
    (bookingPayment : BookingPayment) : Database where
  payments := ⟨[⟨1, 2, some "pay_1", payment, none, none, none⟩], by simp⟩
  bookings := ⟨[⟨2, booking, bookingPayment, none⟩], by simp⟩
  providerIdsUnique := by simp
  onePaymentPerBooking := by simp
  booked := by simp

/-- The payment and the booking of the sample are in focus. -/
theorem onePayment_focus (payment : PaymentStatus) (booking : BookingStatus)
    (bookingPayment : BookingPayment) :
    Focus (onePayment payment booking bookingPayment) "pay_1"
      ⟨1, 2, some "pay_1", payment, none, none, none⟩ ⟨2, booking, bookingPayment, none⟩ :=
  ⟨by simp [onePayment], rfl, by decide, by simp [onePayment], rfl⟩

/-- The first capture of a fresh payment raises, and so does the refund of a captured one. -/
theorem first_capture_vetoed :
    applyPaymentEvent (onePayment .created .pending .unpaid) .paymentCaptured (some "pay_1") 0 =
        .error (capturedRequiresPaid 2) ∧
      ¬ Captures (onePayment .created .pending .unpaid) "pay_1"
        ⟨1, 2, some "pay_1", .created, none, none, none⟩ 0 ∧
      ¬ Refunds (onePayment .captured .confirmed .paid) .refundProcessed "pay_1" "rfnd_1"
        ⟨1, 2, some "pay_1", .captured, none, none, none⟩ 0 := by
  have capture : applyPaymentEvent (onePayment .created .pending .unpaid) .paymentCaptured
      (some "pay_1") 0 = .error (capturedRequiresPaid 2) := rfl
  have refund : applyRefundEvent (onePayment .captured .confirmed .paid) .refundProcessed
      (some "pay_1") (some "rfnd_1") 0 = .error (refundRequiresRefunded .refunded 2) := rfl
  refine ⟨capture, ?_, ?_⟩
  · rintro ⟨after, committed, -⟩
    rw [capture] at committed
    cases committed
  · rintro ⟨after, committed, -⟩
    rw [refund] at committed
    cases committed

/-- Neither transition of the sample goes through. -/
theorem legitimate_transitions_vetoed_first :
    ¬ Captures (onePayment .created .pending .unpaid) "pay_1"
        ⟨1, 2, some "pay_1", .created, none, none, none⟩ 7 ∧
      ¬ Refunds (onePayment .captured .confirmed .paid) .refundPaid "pay_1" "rfnd_1"
        ⟨1, 2, some "pay_1", .captured, none, none, none⟩ 7 :=
  ⟨(legitimate_transitions_vetoed _ _ _ _ (onePayment_focus .created .pending .unpaid) 7).1
      rfl rfl rfl,
    (legitimate_transitions_vetoed _ _ _ _ (onePayment_focus .captured .confirmed .paid) 7).2
      rfl rfl .refundPaid "rfnd_1" (Or.inr rfl)⟩

end Vetoes

section Sequences

/-- An event as delivered: its type, the refund id in its payload and the time. -/
structure Webhook where
  eventType : EventType
  refundId : Option String
  now : Time

/-- Payment and refund events go to their own handler, each in one transaction. -/
def deliver (paymentId : String) (db : Database) (webhook : Webhook) : Database :=
  transaction db (match webhook.eventType with
    | .refundProcessed | .refundPaid =>
      applyRefundEvent db webhook.eventType (some paymentId) webhook.refundId webhook.now
    | _ => applyPaymentEvent db webhook.eventType (some paymentId) webhook.now)

def Webhook.captures (webhook : Webhook) : Bool :=
  match webhook.eventType with
  | .paymentCaptured | .paymentAuthorized => true
  | _ => false

def Webhook.fails (webhook : Webhook) : Bool :=
  match webhook.eventType with
  | .paymentFailed => true
  | _ => false

/-- A paid booking has a captured payment, and a refunded booking a refunded one. -/
def Agreement (db : Database) (payment booking : RowId) : Prop :=
  ∀ paymentRow bookingRow, db.payments.lookup payment = some paymentRow →
    db.bookings.lookup booking = some bookingRow →
      (bookingRow.paymentStatus = .paid → paymentRow.status = .captured) ∧
      (bookingRow.paymentStatus = .refunded → paymentRow.status = .refunded)

variable {db : Database} {paymentId : String} {payment : PaymentRow} {booking : BookingRow}

/-- Agreement is a matter of the two focused rows. -/
theorem agreement_focus (focus : Focus db paymentId payment booking) :
    Agreement db payment.id payment.bookingId ↔
      (booking.paymentStatus = .paid → payment.status = .captured) ∧
      (booking.paymentStatus = .refunded → payment.status = .refunded) := by
  have current : db.payments.lookup payment.id = some payment := Table.mem_lookup focus.stored
  have opened : db.bookings.lookup payment.bookingId = some booking := by
    rw [← focus.linked]
    exact Table.mem_lookup focus.opened
  constructor
  · intro agreement
    exact agreement payment booking current opened
  · rintro agreement paymentRow bookingRow foundPayment foundBooking
    rw [current, Option.some.injEq] at foundPayment
    rw [opened, Option.some.injEq] at foundBooking
    exact foundPayment ▸ foundBooking ▸ agreement

/-- A capture of a created payment is rolled back. -/
theorem deliver_capture_created (focus : Focus db paymentId payment booking)
    (created : payment.status = .created) (unpaid : booking.paymentStatus = .unpaid)
    {webhook : Webhook} (captures : webhook.captures = true) :
    deliver paymentId db webhook = db := by
  obtain ⟨eventType, refundId, now⟩ := webhook
  have event : eventType = .paymentCaptured ∨ eventType = .paymentAuthorized := by
    cases eventType <;> simp [Webhook.captures] at captures ⊢
  have vetoed := capture_vetoed focus event created (by simp [unpaid]) now
  rcases event with rfl | rfl <;> simp only [deliver, vetoed, transaction]

/-- A capture after the payment left `created` pays the pending booking regardless. -/
theorem deliver_capture_uncreated (focus : Focus db paymentId payment booking)
    (uncreated : payment.status ≠ .created) (pending : booking.status = .pending)
    {webhook : Webhook} (captures : webhook.captures = true) :
    Focus (deliver paymentId db webhook) paymentId payment
      ((setPaid webhook.now).assign booking) := by
  obtain ⟨eventType, refundId, now⟩ := webhook
  have event : eventType = .paymentCaptured ∨ eventType = .paymentAuthorized := by
    cases eventType <;> simp [Webhook.captures] at captures ⊢
  obtain ⟨after, applied, focused⟩ := capture_books focus event uncreated pending now
  rcases event with rfl | rfl <;> simpa only [deliver, applied, transaction] using focused

/-- A failure of a created payment makes it failed. -/
theorem deliver_failure_created (focus : Focus db paymentId payment booking)
    (created : payment.status = .created) {webhook : Webhook} (fails : webhook.fails = true) :
    Focus (deliver paymentId db webhook) paymentId ((setFailed webhook.now).assign payment)
      booking := by
  obtain ⟨eventType, refundId, now⟩ := webhook
  have event : eventType = .paymentFailed := by
    cases eventType <;> simp [Webhook.fails] at fails ⊢
  subst event
  obtain ⟨after, applied, focused⟩ := failure_written focus created now
  simpa only [deliver, applied, transaction] using focused

/-- A failure of any other changes nothing. -/
theorem deliver_failure_uncreated (focus : Focus db paymentId payment booking)
    (uncreated : payment.status ≠ .created) {webhook : Webhook} (fails : webhook.fails = true) :
    deliver paymentId db webhook = db := by
  obtain ⟨eventType, refundId, now⟩ := webhook
  have event : eventType = .paymentFailed := by
    cases eventType <;> simp [Webhook.fails] at fails ⊢
  subst event
  simp only [deliver, failure_skipped focus uncreated now, transaction]

/-- An event that neither captures nor fails leaves the database alone. -/
theorem deliver_ignored {webhook : Webhook} (noCapture : webhook.captures = false)
    (noFailure : webhook.fails = false) : deliver paymentId db webhook = db := by
  obtain ⟨eventType, refundId, now⟩ := webhook
  cases eventType with
  | paymentCaptured => simp [Webhook.captures] at noCapture
  | paymentAuthorized => simp [Webhook.captures] at noCapture
  | paymentFailed => simp [Webhook.fails] at noFailure
  | refundProcessed => exact refund_rolled_back db .refundProcessed (some paymentId) refundId now
  | refundPaid => exact refund_rolled_back db .refundPaid (some paymentId) refundId now
  | other name =>
    have ignored : applyPaymentEvent db (.other name) (some paymentId) now = .ok db := by
      unfold applyPaymentEvent
      split
      · rfl
      · split <;> rfl
    simp only [deliver, ignored, transaction]

/-- The state before a list of actions is the first one reached. -/
theorem start_reached {σ α : Type} (step : σ → α → σ) (state : σ) (actions : List α) :
    state ∈ actions.scanl step state := by
  cases actions <;> simp

/-- Once the payment failed with its booking still pending, the rows keep agreeing as
long as no capture arrives, and no longer. -/
theorem agreement_failed (focus : Focus db paymentId payment booking)
    (failed : payment.status = .failed) (pending : booking.status = .pending)
    (unpaid : booking.paymentStatus = .unpaid) (events : List Webhook) :
    (∀ reached ∈ events.scanl (deliver paymentId) db,
        Agreement reached payment.id payment.bookingId) ↔
      ∀ event ∈ events, event.captures = false := by
  have agreed : Agreement db payment.id payment.bookingId :=
    (agreement_focus focus).mpr ⟨by simp [unpaid], by simp [unpaid]⟩
  induction events with
  | nil => simpa using agreed
  | cons event rest inductionHypothesis =>
    rw [List.scanl_cons, List.forall_mem_cons, List.forall_mem_cons]
    by_cases captures : event.captures = true
    · have focused := deliver_capture_uncreated focus (by simp [failed]) pending captures
      constructor
      · rintro ⟨-, agreement⟩
        have broken := ((agreement_focus focused).mp
          (agreement _ (start_reached (deliver paymentId) _ rest))).1 rfl
        simp [failed] at broken
      · rintro ⟨clean, -⟩
        simp [captures] at clean
    · have kept : deliver paymentId db event = db := by
        by_cases fails : event.fails = true
        · exact deliver_failure_uncreated focus (by simp [failed]) fails
        · exact deliver_ignored (by simpa using captures) (by simpa using fails)
      rw [kept]
      simp [agreed, captures, inductionHypothesis]

/-- When exactly the rows agree, for every sequence of events of a payment that starts
as created with a pending and unpaid booking: no capture comes after a failure. Captures
alone are vetoed, a failure alone is recorded properly, and refunds are rolled back. -/
theorem payment_agreement_iff (focus : Focus db paymentId payment booking)
    (created : payment.status = .created) (pending : booking.status = .pending)
    (unpaid : booking.paymentStatus = .unpaid) (events : List Webhook) :
    (∀ reached ∈ events.scanl (deliver paymentId) db,
        Agreement reached payment.id payment.bookingId) ↔
      events.Pairwise (fun earlier later => earlier.fails = true → later.captures = false) := by
  have agreed : Agreement db payment.id payment.bookingId :=
    (agreement_focus focus).mpr ⟨by simp [unpaid], by simp [unpaid]⟩
  induction events with
  | nil => simpa using agreed
  | cons event rest inductionHypothesis =>
    rw [List.scanl_cons, List.forall_mem_cons, List.pairwise_cons]
    by_cases fails : event.fails = true
    · have focused := deliver_failure_created focus created fails
      have later := agreement_failed focused rfl pending unpaid rest
      constructor
      · rintro ⟨-, agreement⟩
        have clean := later.mp agreement
        refine ⟨fun other member _ => clean other member, ?_⟩
        exact List.pairwise_of_forall_mem_list fun _ _ other member _ => clean other member
      · rintro ⟨uncaptured, -⟩
        exact ⟨agreed, later.mpr fun other member => uncaptured other member fails⟩
    · have kept : deliver paymentId db event = db := by
        by_cases captures : event.captures = true
        · exact deliver_capture_created focus created unpaid captures
        · exact deliver_ignored (by simpa using captures) (by simpa using fails)
      rw [kept]
      simp [agreed, fails, inductionHypothesis]

/-- A payment that fails and is then reported captured ends with a paid booking. -/
theorem capture_after_failure :
    ∃ reached ∈ [⟨.paymentFailed, none, 1⟩, ⟨.paymentCaptured, none, 2⟩].scanl (deliver "pay_1")
        (onePayment .created .pending .unpaid), ¬ Agreement reached 1 2 := by
  refine ⟨_, List.mem_of_getLast? rfl, ?_⟩
  intro agreement
  have broken := (agreement _ _ rfl rfl).1 rfl
  cases broken

/-- A vetoed capture, a failure, a refused refund and the failure once more. -/
theorem payment_agreement_failure_twice :
    ∃ passed, passed = [⟨.paymentCaptured, none, 1⟩, ⟨.paymentFailed, none, 2⟩,
        ⟨.refundProcessed, some "rfnd_1", 3⟩, ⟨.paymentFailed, none, 4⟩].scanl (deliver "pay_1")
          (onePayment .created .pending .unpaid) ∧
      passed.length = 5 ∧ ∀ reached ∈ passed, Agreement reached 1 2 :=
  ⟨_, rfl, rfl, (payment_agreement_iff (onePayment_focus .created .pending .unpaid)
    rfl rfl rfl _).mpr (by decide)⟩

end Sequences

end PlanBuddy.Payments
