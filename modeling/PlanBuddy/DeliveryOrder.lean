import PlanBuddy.Deliveries
import PlanBuddy.PaymentAgreement

/-!
# Delivery order of payment events

What the UPDATE statements of the two handlers do when no trigger objects. They
act on one payment and its booking through three columns, so the handlers become
moves of a triple of statuses: captures, failures, and refunds, whose second
statement is refused so that they move nothing. A capture and a failure do not
commute, because each of them takes only a payment that is still created.
-/

namespace PlanBuddy.Payments

section Updates

/-- The UPDATE statements of `applyPaymentEvent`, without the triggers. -/
def paymentUpdates (db : Database) (eventType : EventType) (paymentId : Option String)
    (now : Time) : Database :=
  match truthyText paymentId with
  | none => db
  | some paymentId =>
    if (db.payments.select (fun row => row.hasProviderId paymentId)).isEmpty then db
    else match eventType with
      | .paymentCaptured | .paymentAuthorized =>
        let db := db.writePayments
          (fun row => row.hasProviderId paymentId && decide (row.status = .created))
          (setCaptured now)
        db.writeBookings
          (fun row => decide (db.bookingOf paymentId = some row.id) && decide (row.status = .pending))
          (setPaid now)
      | .paymentFailed =>
        db.writePayments
          (fun row => row.hasProviderId paymentId && decide (row.status = .created))
          (setFailed now)
      | _ => db

/-- The UPDATE statements of `applyRefundEvent`, without the triggers. The second one is refused
for its parameters, which no trigger has a part in. -/
def refundUpdates (db : Database) (eventType : EventType) (payloadPaymentId refundId : Option String)
    (now : Time) : Except Raised Database :=
  match truthyText refundId with
  | none => .ok db
  | some refundId =>
    let paymentId := truthyText payloadPaymentId
    if paymentId.any (fun paymentId =>
        (db.payments.select (fun row => row.hasProviderId paymentId)).isEmpty) then .ok db
    else match eventType with
      | .refundProcessed | .refundPaid => do
        let db := db.writePayments
          (fun row => paymentId.any row.hasProviderId &&
            decide (row.status = .captured ∨ row.status = .success))
          (setRefunded refundId now)
        describe [2]
        return db.writeBookings
          (fun row => decide (paymentId.bind db.bookingOf = some row.id))
          (setBookingRefunded now)
      | _ => .ok db

/-- A payment handler that commits leaves what its UPDATE statements write. -/
theorem paymentUpdates_committed {db after : Database} {eventType : EventType}
    {paymentId : Option String} {now : Time}
    (committed : applyPaymentEvent db eventType paymentId now = .ok after) :
    after = paymentUpdates db eventType paymentId now := by
  unfold applyPaymentEvent at committed
  unfold paymentUpdates
  split
  · next missing =>
    rw [missing] at committed
    exact (Except.ok.inj committed).symm
  · next paymentId present =>
    simp only [present] at committed
    split
    · next unknown =>
      rw [if_pos unknown] at committed
      exact (Except.ok.inj committed).symm
    · next known =>
      rw [if_neg known] at committed
      cases eventType with
      | paymentFailed => exact updatePayments_ok committed
      | refundProcessed | refundPaid | other => exact (Except.ok.inj committed).symm
      | paymentCaptured | paymentAuthorized =>
        obtain ⟨stored, first, second⟩ := bind_ok committed
        rw [updateBookings_ok second, updatePayments_ok first]

/-- The statements of a refund change nothing even without the triggers. -/
theorem refundUpdates_rolled_back (db : Database) (eventType : EventType)
    (payloadPaymentId refundId : Option String) (now : Time) :
    transaction db (refundUpdates db eventType payloadPaymentId refundId now) = db := by
  unfold refundUpdates
  split
  · rfl
  · dsimp only
    split
    · rfl
    · cases eventType <;> rfl

end Updates

section Focused

variable {db : Database} {paymentId : String} {payment : PaymentRow} {booking : BookingRow}

/-- A guarded write under the provider id rewrites the focused payment or nothing. -/
theorem writePayments_focus (focus : Focus db paymentId payment booking)
    (guard : PaymentRow → Bool) (set : PaymentSet) :
    Focus (db.writePayments (fun row => row.hasProviderId paymentId && guard row) set) paymentId
      (if guard payment then set.assign payment else payment) booking := by
  have rewritten : (if guard payment then set.assign payment else payment) ∈
      (db.writePayments (fun row => row.hasProviderId paymentId && guard row) set).payments.rows := by
    refine List.mem_map.mpr ⟨payment, focus.stored, ?_⟩
    simp [focus_provider focus]
  refine ⟨rewritten, ?_, focus.present, focus.opened, ?_⟩
  · split
    · exact (set.sameProviderId payment).trans focus.named
    · exact focus.named
  · split
    · exact focus.linked.trans (set.sameBooking payment).symm
    · exact focus.linked

/-- A write to the booking of the payment likewise. -/
theorem writeBookings_focus (focus : Focus db paymentId payment booking)
    (guard : BookingRow → Bool) (set : BookingSet) :
    Focus (db.writeBookings (fun row => decide (db.bookingOf paymentId = some row.id) && guard row) set)
      paymentId payment (if guard booking then set.assign booking else booking) := by
  refine ⟨focus.stored, focus.named, focus.present, ?_, ?_⟩
  · refine List.mem_map.mpr ⟨booking, focus.opened, ?_⟩
    simp [bookingOf_focus focus]
  · split
    · exact (set.sameId booking).trans focus.linked
    · exact focus.linked

end Focused

section Standings

/-- The statuses that the handlers decide on and write. -/
structure Standing where
  payment : PaymentStatus
  booking : BookingStatus
  bookingPayment : BookingPayment
deriving DecidableEq

/-- The statuses of a payment and of the booking it belongs to. -/
def standingOf (payment : PaymentRow) (booking : BookingRow) : Standing :=
  ⟨payment.status, booking.status, booking.paymentStatus⟩

/-- The statuses as they are found in the database. -/
def Database.standing (db : Database) (paymentId : String) : Option Standing := do
  let payment ← (db.payments.select (fun row => row.hasProviderId paymentId)).head?
  let booking ← db.bookings.lookup payment.bookingId
  some (standingOf payment booking)

/-- The statuses found are those of the focused rows. -/
theorem standing_focus {db : Database} {paymentId : String} {payment : PaymentRow}
    {booking : BookingRow} (focus : Focus db paymentId payment booking) :
    db.standing paymentId = some (standingOf payment booking) := by
  have found : db.bookings.lookup payment.bookingId = some booking := by
    rw [← focus.linked]
    exact Table.mem_lookup focus.opened
  simp [Database.standing, select_named focus, found]

/-- What the provider reports of a payment. Redeliveries carry the same report. -/
structure Event where
  eventType : EventType
  refundId : Option String
deriving DecidableEq

def Webhook.event (webhook : Webhook) : Event := ⟨webhook.eventType, webhook.refundId⟩

def Event.delivery (now : Time) (event : Event) : Webhook := ⟨event.eventType, event.refundId, now⟩

/-- A delivery of an event is of that event. -/
@[simp] theorem event_delivery (now : Time) (event : Event) : (event.delivery now).event = event := rfl

/-- The three ways in which the handlers treat an event. -/
inductive Kind where
  | capture
  | failure
  | ignored
deriving DecidableEq

def Event.kind (event : Event) : Kind :=
  match event.eventType with
  | .paymentCaptured | .paymentAuthorized => .capture
  | .paymentFailed => .failure
  | .refundProcessed | .refundPaid | .other _ => .ignored

/-- What an event of a kind makes of the statuses. -/
def Standing.receive (standing : Standing) : Kind → Standing
  | .capture =>
    { payment := if standing.payment = .created then .captured else standing.payment
      booking := if standing.booking = .pending then .confirmed else standing.booking
      bookingPayment := if standing.booking = .pending then .paid else standing.bookingPayment }
  | .failure =>
    { standing with payment := if standing.payment = .created then .failed else standing.payment }
  | .ignored => standing

/-- The UPDATE statements of one delivered event, each handler on its own events. -/
def applyUpdates (paymentId : String) (db : Database) (webhook : Webhook) : Database :=
  match webhook.eventType with
  | .refundProcessed | .refundPaid =>
    transaction db
      (refundUpdates db webhook.eventType (some paymentId) webhook.refundId webhook.now)
  | _ => paymentUpdates db webhook.eventType (some paymentId) webhook.now

/-- A delivery that commits leaves what its UPDATE statements write, so the triggers
decide whether an event is applied but not to what effect. -/
theorem deliver_applies (paymentId : String) (db : Database) (webhook : Webhook) :
    deliver paymentId db webhook = applyUpdates paymentId db webhook ∨
      deliver paymentId db webhook = db := by
  obtain ⟨eventType, refundId, now⟩ := webhook
  unfold deliver applyUpdates
  cases eventType with
  | refundProcessed | refundPaid => exact .inr (refund_rolled_back db _ _ _ _)
  | paymentCaptured | paymentAuthorized | paymentFailed | other =>
    dsimp only
    cases applied : applyPaymentEvent db _ (some paymentId) now with
    | error raised => exact .inr rfl
    | ok after => exact .inl (paymentUpdates_committed applied)

/-- One delivered event moves the focused rows as its kind moves their statuses. -/
theorem applyUpdates_focus {db : Database} {paymentId : String} {payment : PaymentRow}
    {booking : BookingRow} (focus : Focus db paymentId payment booking) (webhook : Webhook) :
    ∃ paymentAfter bookingAfter,
      Focus (applyUpdates paymentId db webhook) paymentId paymentAfter bookingAfter ∧
      standingOf paymentAfter bookingAfter =
        (standingOf payment booking).receive webhook.event.kind := by
  obtain ⟨eventType, refundId, now⟩ := webhook
  have truthy := truthyText_some focus.present
  have known := select_named focus
  cases eventType with
  | paymentCaptured | paymentAuthorized =>
    have paid := writePayments_focus focus (fun row => decide (row.status = .created))
      (setCaptured now)
    have booked := writeBookings_focus paid (fun row => decide (row.status = .pending)) (setPaid now)
    simp only [applyUpdates, paymentUpdates, truthy, known]
    refine ⟨_, _, booked, ?_⟩
    by_cases created : payment.status = .created <;>
      by_cases pending : booking.status = .pending <;>
        simp [Webhook.event, Event.kind, Standing.receive, standingOf, setCaptured, setPaid,
          created, pending]
  | paymentFailed =>
    have failed := writePayments_focus focus (fun row => decide (row.status = .created))
      (setFailed now)
    simp only [applyUpdates, paymentUpdates, truthy, known]
    refine ⟨_, _, failed, ?_⟩
    by_cases created : payment.status = .created <;>
      simp [Webhook.event, Event.kind, Standing.receive, standingOf, setFailed, created]
  | other name =>
    refine ⟨payment, booking, ?_, rfl⟩
    simpa [applyUpdates, paymentUpdates, truthy, known] using focus
  | refundProcessed | refundPaid =>
    refine ⟨payment, booking, ?_, rfl⟩
    simp only [applyUpdates, refundUpdates_rolled_back]
    exact focus

/-- A sequence of deliveries moves the statuses as the kinds of its events do. -/
theorem standing_delivered {db : Database} {paymentId : String} {payment : PaymentRow}
    {booking : BookingRow} (focus : Focus db paymentId payment booking) (delivered : List Webhook) :
    (delivered.foldl (applyUpdates paymentId) db).standing paymentId =
      some (((delivered.map Webhook.event).map Event.kind).foldl Standing.receive
        (standingOf payment booking)) := by
  induction delivered generalizing db payment booking with
  | nil => exact standing_focus focus
  | cons webhook rest inductionHypothesis =>
    obtain ⟨paymentAfter, bookingAfter, focused, moved⟩ := applyUpdates_focus focus webhook
    rw [List.foldl_cons, inductionHypothesis focused, moved]
    rfl

end Standings

section Orders

/-- A capture beside a failure: the pairs whose order matters. -/
def Kind.conflicts (one other : Kind) : Prop := one = .capture ∧ other = .failure

/-- All other pairs of events commute, in every state of the two rows. -/
theorem receive_commute {one other : Kind} (forward : ¬ one.conflicts other)
    (backward : ¬ other.conflicts one) (standing : Standing) :
    (standing.receive one).receive other = (standing.receive other).receive one := by
  cases one with
  | ignored => rfl
  | capture =>
    cases other with
    | capture | ignored => rfl
    | failure => exact absurd ⟨rfl, rfl⟩ forward
  | failure =>
    cases other with
    | failure | ignored => rfl
    | capture => exact absurd ⟨rfl, rfl⟩ backward

/-- Every update excludes or preserves its own result. -/
theorem receive_idempotent (kind : Kind) (standing : Standing) :
    (standing.receive kind).receive kind = standing.receive kind := by
  obtain ⟨payment, booking, bookingPayment⟩ := standing
  cases kind with
  | capture => cases payment <;> cases booking <;> rfl
  | failure => cases payment <;> rfl
  | ignored => rfl

/-- Without a conflict among them, two lists of the same kinds have one effect. -/
theorem receive_same_members {kinds others : List Kind}
    (compatible : ∀ one ∈ kinds, ∀ other ∈ kinds, ¬ one.conflicts other)
    (same : ∀ kind, kind ∈ others ↔ kind ∈ kinds) (standing : Standing) :
    others.foldl Standing.receive standing = kinds.foldl Standing.receive standing := by
  refine foldl_same_members ?_ ?_ same standing
  · intro one memberOne other memberOther state
    exact receive_commute (compatible one memberOne other memberOther)
      (compatible other memberOther one memberOne) state
  · intro kind _ state
    exact receive_idempotent kind state

/-- Any number of captures in a row is one capture. -/
theorem receive_captures {kinds : List Kind} (captures : ∀ kind ∈ kinds, kind = .capture)
    (nonempty : kinds ≠ []) (standing : Standing) :
    kinds.foldl Standing.receive standing = standing.receive .capture := by
  have same : ∀ kind, kind ∈ kinds ↔ kind ∈ [Kind.capture] := by
    intro kind
    rw [List.mem_singleton]
    constructor
    · exact captures kind
    · rintro rfl
      obtain ⟨first, member⟩ := List.exists_mem_of_ne_nil kinds nonempty
      exact captures first member ▸ member
  exact receive_same_members (by simp [Kind.conflicts]) same standing

/-- A fresh payment and its booking. -/
def fresh : Standing := ⟨.created, .pending, .unpaid⟩

/-- The final triple betrays whether the captures came before the failures or after them. -/
theorem capture_order_matters {kinds : List Kind} (uncaptured : .capture ∉ kinds)
    (failed : .failure ∈ kinds) :
    kinds.foldl Standing.receive (fresh.receive .capture) ≠
      (kinds.foldl Standing.receive fresh).receive .capture := by
  have same : ∀ kind, kind ∈ [.failure, .ignored].filter (fun kind => decide (kind ∈ kinds)) ↔
      kind ∈ kinds := by
    intro kind
    cases kind <;> simp [uncaptured]
  have compatible : ∀ one ∈ kinds, ∀ other ∈ kinds, ¬ one.conflicts other := by
    rintro one member other _ ⟨rfl, _⟩
    exact uncaptured member
  rw [← receive_same_members compatible same, ← receive_same_members compatible same]
  by_cases ignored : Kind.ignored ∈ kinds <;> simp [failed, ignored, fresh, Standing.receive]

/-- So a capture beside a failure has two orders that end differently, with each event delivered
once: the captures first, and the captures last. -/
theorem orders_differ {happened : List Event}
    (captured : ∃ event ∈ happened, event.kind = .capture)
    (failed : ∃ event ∈ happened, event.kind = .failure) :
    ∃ first last : List Event, first.Perm happened ∧ last.Perm happened ∧
      (first.map Event.kind).foldl Standing.receive fresh ≠
        (last.map Event.kind).foldl Standing.receive fresh := by
  obtain ⟨capture, stored, isCapture⟩ := captured
  obtain ⟨failure, occurred, isFailure⟩ := failed
  let captures := happened.filter fun event => decide (event.kind = .capture)
  let others := happened.filter fun event => !decide (event.kind = .capture)
  have parts : (captures ++ others).Perm happened := List.filter_append_perm _ _
  refine ⟨captures ++ others, others ++ captures, parts, List.perm_append_comm.trans parts, ?_⟩
  have nonempty : captures.map Event.kind ≠ [] := by
    have member : capture ∈ captures := List.mem_filter.mpr ⟨stored, decide_eq_true isCapture⟩
    exact List.ne_nil_of_mem (List.mem_map_of_mem member)
  have onlyCaptures : ∀ kind ∈ captures.map Event.kind, kind = .capture := by
    intro kind present
    obtain ⟨event, member, rfl⟩ := List.mem_map.mp present
    exact of_decide_eq_true (List.mem_filter.mp member).2
  have noCapture : .capture ∉ others.map Event.kind := by
    simp [others]
  have failures : .failure ∈ others.map Event.kind := by
    have member : failure ∈ others := List.mem_filter.mpr ⟨occurred, by simp [isFailure]⟩
    exact isFailure ▸ List.mem_map_of_mem member
  rw [List.map_append, List.map_append, List.foldl_append, List.foldl_append,
    receive_captures onlyCaptures nonempty, receive_captures onlyCaptures nonempty]
  exact capture_order_matters noCapture failures

/-- The order matters exactly when a capture occurs beside a failure: without one, for every
payment and every delivery the UPDATE statements end in one triple of statuses, and with one they
end in two for a fresh payment, whatever else occurs. -/
theorem delivery_order_irrelevant {db : Database} {paymentId : String} {payment : PaymentRow}
    {booking : BookingRow} (focus : Focus db paymentId payment booking)
    (created : payment.status = .created) (pending : booking.status = .pending)
    (unpaid : booking.paymentStatus = .unpaid) (events : Multiset Event) :
    (∃ standing, ∀ delivered : List Webhook, Delivers events (delivered.map Webhook.event) →
        (delivered.foldl (applyUpdates paymentId) db).standing paymentId = some standing) ↔
      ¬ ((∃ event ∈ events, event.kind = .capture) ∧ ∃ event ∈ events, event.kind = .failure) := by
  obtain ⟨happened, rfl⟩ := Quotient.exists_rep events
  change _ ↔ ¬ ((∃ event ∈ happened, _) ∧ ∃ event ∈ happened, _)
  constructor
  · rintro ⟨standing, converges⟩ ⟨captured, failed⟩
    have start : standingOf payment booking = fresh := by
      simp [standingOf, fresh, created, pending, unpaid]
    have reached : ∀ order : List Event, order.Perm happened →
        (order.map Event.kind).foldl Standing.receive fresh = standing := by
      intro order perm
      have final := converges (order.map (Event.delivery 0))
        (by simpa [Function.comp_def] using delivers_perm perm)
      rw [standing_delivered focus, start, Option.some.injEq] at final
      simpa [Function.comp_def] using final
    obtain ⟨first, last, permFirst, permLast, differ⟩ := orders_differ captured failed
    exact differ ((reached first permFirst).trans (reached last permLast).symm)
  · intro compatible
    refine ⟨(happened.map Event.kind).foldl Standing.receive (standingOf payment booking), ?_⟩
    intro delivered delivers
    rw [standing_delivered focus, Option.some.injEq]
    refine receive_same_members ?_ ?_ (standingOf payment booking)
    · rintro one memberOne other memberOther ⟨rfl, isFailure⟩
      obtain ⟨capture, captured, isCapture⟩ := List.mem_map.mp memberOne
      obtain ⟨event, occurred, rfl⟩ := List.mem_map.mp memberOther
      exact compatible ⟨⟨capture, captured, isCapture⟩, event, occurred, isFailure⟩
    · intro kind
      simp only [List.mem_map, delivers.mem_iff]
      rfl

/-- A capture and a failure of one payment, each delivered once: the booking is paid in either
order, but the payment is only captured when the failure comes last. -/
theorem failure_before_capture :
    ¬ ∃ standing, ∀ delivered : List Webhook,
      Delivers {⟨.paymentCaptured, none⟩, ⟨.paymentFailed, none⟩}
          (delivered.map Webhook.event) →
        (delivered.foldl (applyUpdates "pay_1") (onePayment .created .pending .unpaid)).standing
          "pay_1" = some standing := by
  rintro ⟨standing, converges⟩
  have captureFirst := converges [⟨.paymentCaptured, none, 1⟩, ⟨.paymentFailed, none, 2⟩]
    (delivers_perm (List.Perm.refl _))
  have failureFirst := converges [⟨.paymentFailed, none, 1⟩, ⟨.paymentCaptured, none, 2⟩]
    (delivers_perm (List.Perm.swap _ _ _))
  have captured : some (⟨.captured, .confirmed, .paid⟩ : Standing) = some standing := captureFirst
  have failed : some (⟨.failed, .confirmed, .paid⟩ : Standing) = some standing := failureFirst
  exact absurd (captured.trans failed.symm) (by decide)

/-- A failure and a refund end alike in every order. -/
theorem delivery_order_irrelevant_failed :
    ∃ standing, ∀ delivered : List Webhook,
      Delivers {⟨.paymentFailed, none⟩, ⟨.refundPaid, some "rfnd_1"⟩}
          (delivered.map Webhook.event) →
        (delivered.foldl (applyUpdates "pay_1") (onePayment .created .pending .unpaid)).standing
          "pay_1" = some standing :=
  (delivery_order_irrelevant (onePayment_focus .created .pending .unpaid) rfl rfl rfl _).mpr
    (by simp [Event.kind])

end Orders

end PlanBuddy.Payments
