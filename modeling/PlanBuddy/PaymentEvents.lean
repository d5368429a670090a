import PlanBuddy.PaymentHandlers

/-!
# Payment events at different payments

An event of a webhook names a payment or none. Its handler runs two statements, one on payments
and one on bookings, and by the unique indexes each of them concerns the named payment and its
booking alone; so do the triggers. A handler is therefore an operation on these two rows, put
back in place of the old ones, or it changes nothing. The handler of refunds always changes
nothing: the first statement that it needs is rolled back with the second one, which is refused.

From this follows how events combine. An event applied again changes nothing but the times of
its update, two events at different payments may change places, and every other payment keeps
its rows.
-/

namespace PlanBuddy.PaymentEvents

open Payments

section Pairs

/-- A payment and its booking. -/
abbrev Pair := PaymentRow × BookingRow

/-- The two statements of a handler, at a payment and at its booking. -/
structure Effect where
  visits : PaymentRow → Bool
  set : PaymentSet
  visitsBooking : BookingRow → Bool
  setBooking : BookingSet

/-- `enforce_payment_state_invariance`, next to the booking of the row. -/
def vetoesPayment (row : PaymentRow) (booking : BookingRow) : Bool :=
  decide (row.status = .captured ∧ booking.paymentStatus ≠ .paid) ||
    decide ((row.status = .refunded ∨ row.status = .partiallyRefunded) ∧
      booking.paymentStatus ≠ .refunded)

/-- `enforce_booking_payment_invariance`, next to the payment of the row. -/
def vetoesBooking (payment : PaymentRow) (row : BookingRow) : Bool :=
  decide (payment.status = .captured ∧ row.paymentStatus ≠ .paid)

/-- What the first statement leaves, when its trigger lets it pass. -/
def Effect.pay (effect : Effect) (pair : Pair) : Option Pair :=
  if effect.visits pair.1 then
    if vetoesPayment (effect.set.assign pair.1) pair.2 then none
    else some (effect.set.assign pair.1, pair.2)
  else some pair

def Effect.book (effect : Effect) (pair : Pair) : Option Pair :=
  if effect.visitsBooking pair.2 then
    if vetoesBooking pair.1 (effect.setBooking.assign pair.2) then none
    else some (pair.1, effect.setBooking.assign pair.2)
  else some pair

/-- What the transaction of both statements leaves. -/
def Effect.settle (effect : Effect) (pair : Pair) : Pair :=
  ((effect.pay pair).bind effect.book).getD pair

/-- Both rows stay the same rows: in their tables, under the provider's id and to each other. -/
structure Alike (one other : Pair) : Prop where
  id : one.1.id = other.1.id
  bookingId : one.1.bookingId = other.1.bookingId
  razorpayPaymentId : one.1.razorpayPaymentId = other.1.razorpayPaymentId
  booking : one.2.id = other.2.id

/-- Pairs that differ in what may be set are alike in turn. -/
theorem Alike.trans {one other third : Pair} (first : Alike one other) (second : Alike other third) :
    Alike one third :=
  ⟨first.id.trans second.id, first.bookingId.trans second.bookingId,
    first.razorpayPaymentId.trans second.razorpayPaymentId, first.booking.trans second.booking⟩

/-- The UPDATE of a payment sets no more than that. -/
theorem pay_alike {effect : Effect} {pair left : Pair} (paid : effect.pay pair = some left) :
    Alike left pair := by
  simp only [Effect.pay] at paid
  split at paid
  · split at paid <;> cases paid
    exact ⟨effect.set.sameId _, effect.set.sameBooking _, effect.set.sameProviderId _, rfl⟩
  · cases paid
    exact ⟨rfl, rfl, rfl, rfl⟩

/-- Nor does that of a booking. -/
theorem book_alike {effect : Effect} {pair left : Pair} (booked : effect.book pair = some left) :
    Alike left pair := by
  simp only [Effect.book] at booked
  split at booked
  · split at booked <;> cases booked
    exact ⟨rfl, rfl, rfl, effect.setBooking.sameId _⟩
  · cases booked
    exact ⟨rfl, rfl, rfl, rfl⟩

/-- Nor do both. -/
theorem settle_alike (effect : Effect) (pair : Pair) : Alike (effect.settle pair) pair := by
  cases settled : (effect.pay pair).bind effect.book with
  | none => simp [Effect.settle, settled, Alike.mk]
  | some left =>
    obtain ⟨middle, paid, booked⟩ := Option.bind_eq_some_iff.mp settled
    rw [Effect.settle, settled]
    exact (book_alike booked).trans (pay_alike paid)

end Pairs

section Rows

variable {db after : Database} {paymentId : String} {payment : PaymentRow} {booking : BookingRow}

/-- The rows of the pair are put in place of those under their keys, and nothing else changes. -/
structure Wrote (db after : Database) (pair : Pair) : Prop where
  payments : after.payments = db.payments.put pair.1
  bookings : after.bookings = db.bookings.put pair.2

/-- To write nothing is to write what was there. -/
theorem wrote_self (focus : Focus db paymentId payment booking) : Wrote db db (payment, booking) :=
  ⟨(Table.put_self focus.stored).symm, (Table.put_self focus.opened).symm⟩

/-- Two writes in a row write the second. -/
theorem Wrote.trans {middle : Database} {one other : Pair} (first : Wrote db middle one)
    (second : Wrote middle after other) (alike : Alike other one) : Wrote db after other := by
  constructor
  · rw [second.payments, first.payments, Table.put_put _ alike.id.symm]
  · rw [second.bookings, first.bookings, Table.put_put _ alike.booking.symm]

/-- A payment stays in focus with what was put in its place. -/
theorem focus_wrote {pair : Pair} (focus : Focus db paymentId payment booking)
    (wrote : Wrote db after pair) (alike : Alike pair (payment, booking)) :
    Focus after paymentId pair.1 pair.2 := by
  refine ⟨?_, alike.razorpayPaymentId.trans focus.named, focus.present, ?_, ?_⟩
  · rw [wrote.payments]
    exact Table.mem_put_self focus.stored alike.id
  · rw [wrote.bookings]
    exact Table.mem_put_self focus.opened alike.booking
  · exact alike.booking.trans (focus.linked.trans alike.bookingId.symm)

/-- Different payments have different keys, and so have their bookings. -/
theorem focus_apart {otherId : String} {other : PaymentRow} {otherBooking : BookingRow}
    (focus : Focus db paymentId payment booking) (also : Focus db otherId other otherBooking)
    (different : payment ≠ other) : payment.id ≠ other.id ∧ booking.id ≠ otherBooking.id := by
  constructor
  · intro same
    exact different (List.inj_on_of_nodup_map db.payments.unique focus.stored also.stored same)
  · intro same
    exact different (only_linked also payment focus.stored
      (focus.linked.symm.trans (same.trans also.linked)))

/-- A payment stays in focus while another one is written. -/
theorem focus_other {otherId : String} {other : PaymentRow} {otherBooking : BookingRow} {pair : Pair}
    (focus : Focus db paymentId payment booking) (also : Focus db otherId other otherBooking)
    (different : payment ≠ other) (wrote : Wrote db after pair)
    (alike : Alike pair (payment, booking)) : Focus after otherId other otherBooking := by
  obtain ⟨apart, apartBookings⟩ := focus_apart focus also different
  refine ⟨?_, also.named, also.present, ?_, also.linked⟩
  · rw [wrote.payments]
    exact Table.mem_put_other also.stored (fun same => apart (same.trans alike.id).symm)
  · rw [wrote.bookings]
    exact Table.mem_put_other also.opened (fun same => apartBookings (same.trans alike.booking).symm)

end Rows

section Statements

variable {db : Database} {paymentId : String} {payment : PaymentRow} {booking : BookingRow}

/-- The payment trigger reads the booking next to the payment. -/
theorem enforce_payment_vetoes (focus : Focus db paymentId payment booking) {row : PaymentRow}
    (same : row.bookingId = payment.bookingId) :
    (enforcePaymentStateInvariance db.bookings row).isSome = vetoesPayment row booking := by
  simp only [enforcePaymentStateInvariance, booking_read focus same, vetoesPayment, ne_eq,
    Option.some.injEq]
  split
  · next uncovered => simp [uncovered]
  · next covered =>
    split
    · next unrefunded => simp [unrefunded]
    · next refunded => simp only [covered, refunded, decide_false, Bool.or_false, Option.isSome_none]

/-- The booking trigger reads the payment next to the booking. -/
theorem enforce_booking_vetoes (focus : Focus db paymentId payment booking) {row : BookingRow}
    (same : row.id = booking.id) :
    (enforceBookingPaymentInvariance db.payments row).isSome = vetoesBooking payment row := by
  by_cases captured : payment.status = .captured
  · have selected : db.payments.select (fun other =>
        decide (other.bookingId = row.id ∧ other.status = .captured)) = [payment] := by
      refine Table.select_single focus.stored ?_ ?_
      · exact decide_eq_true ⟨focus.linked.symm.trans same.symm, captured⟩
      · intro other stored matched
        have linked := (of_decide_eq_true matched).1
        exact only_linked focus other stored (linked.trans (same.trans focus.linked))
    simp only [enforceBookingPaymentInvariance, selected, vetoesBooking, captured]
    by_cases paid : row.paymentStatus = .paid
    · simp [paid]
    · simp [paid]
  · rw [uncaptured_accepted focus captured same]
    simp [vetoesBooking, captured]

/-- A statement or a transaction leaves the pair in place of its rows, or it raises. -/
def Commits (db : Database) (result : Except Raised Database) : Option Pair → Prop
  | none => ∃ raised, result = .error raised
  | some pair => ∃ after, result = .ok after ∧ Wrote db after pair

/-- The UPDATE of payments commits to the named one, if the triggers let it. -/
theorem updatePayments_commits (focus : Focus db paymentId payment booking) (effect : Effect) :
    Commits db (db.updatePayments (fun row => row.hasProviderId paymentId && effect.visits row)
      effect.set) (effect.pay (payment, booking)) := by
  cases visited : effect.visits payment with
  | false =>
    have skipped := updatePayments_skipped focus effect.visits effect.set visited
    simp only [Effect.pay, visited, Bool.false_eq_true, if_false]
    exact ⟨db, skipped, wrote_self focus⟩
  | true =>
    have vetoes := enforce_payment_vetoes focus (effect.set.sameBooking payment)
    cases objection : enforcePaymentStateInvariance db.bookings (effect.set.assign payment) with
    | some raised =>
      rw [objection] at vetoes
      simp only [Effect.pay, visited, ← vetoes, Option.isSome_some, if_true]
      exact ⟨raised, updatePayments_vetoed focus effect.visits effect.set visited objection⟩
    | none =>
      rw [objection] at vetoes
      simp only [Effect.pay, visited, ← vetoes, Option.isSome_none, Bool.false_eq_true, if_false,
        if_true]
      obtain ⟨after, written, -⟩ :=
        updatePayments_written focus effect.visits effect.set visited objection
      have hit : (payment.hasProviderId paymentId && effect.visits payment) = true := by
        simp [focus_provider focus, visited]
      cases updatePayments_ok written
      refine ⟨_, written, ?_, (Table.put_self focus.opened).symm⟩
      exact Table.update_single effect.set.sameId focus.stored hit fun other stored matched =>
        only_named focus other stored (Bool.and_eq_true_iff.mp matched).1

/-- A booking statement that matches no row leaves the database alone. -/
theorem updateBookings_unmatched {matching : BookingRow → Bool} (set : BookingSet)
    (unmatched : ∀ row ∈ db.bookings.rows, matching row = false) :
    db.updateBookings matching set = .ok db := by
  have unwritten : db.bookings.update matching set.assign set.sameId = db.bookings :=
    Table.update_unmatched _ _ _ _ unmatched
  have same : db.writeBookings matching set = db := Database.ext rfl unwritten
  simp [Database.updateBookings, Table.vetoed, Table.returning, Table.select_none unmatched, same]

/-- A booking statement that matches the focused booking alone. -/
theorem updateBookings_only (focus : Focus db paymentId payment booking)
    {matching : BookingRow → Bool} (set : BookingSet) (hit : matching booking = true)
    (only : ∀ row ∈ db.bookings.rows, matching row = true → row = booking) :
    Commits db (db.updateBookings matching set)
      (if vetoesBooking payment (set.assign booking) then none
        else some (payment, set.assign booking)) := by
  have selected := Table.select_single focus.opened hit only
  rw [← enforce_booking_vetoes focus (set.sameId booking)]
  cases objection : enforceBookingPaymentInvariance db.payments (set.assign booking) with
  | some raised =>
    refine ⟨raised, ?_⟩
    simp [Database.updateBookings, Table.vetoed, Table.returning, selected, objection]
  | none =>
    refine ⟨db.writeBookings matching set, ?_, ?_, ?_⟩
    · simp [Database.updateBookings, Table.vetoed, Table.returning, selected, objection]
    · exact (Table.put_self focus.stored).symm
    · exact Table.update_single set.sameId focus.opened hit only

/-- That of bookings commits to its booking. -/
theorem updateBookings_commits (focus : Focus db paymentId payment booking) (effect : Effect) :
    Commits db (db.updateBookings (fun row =>
      decide (db.bookingOf paymentId = some row.id) && effect.visitsBooking row) effect.setBooking)
      (effect.book (payment, booking)) := by
  have only : ∀ row ∈ db.bookings.rows, (decide (db.bookingOf paymentId = some row.id) &&
      effect.visitsBooking row) = true → row = booking := by
    intro row stored matched
    have named := of_decide_eq_true (Bool.and_eq_true_iff.mp matched).1
    rw [bookingOf_focus focus, Option.some.injEq] at named
    exact List.inj_on_of_nodup_map db.bookings.unique stored focus.opened named.symm
  cases visited : effect.visitsBooking booking with
  | false =>
    simp only [Effect.book, visited, Bool.false_eq_true, if_false]
    refine ⟨db, updateBookings_unmatched effect.setBooking ?_, wrote_self focus⟩
    intro row stored
    apply Bool.eq_false_iff.mpr
    intro matched
    rw [only row stored matched, visited, Bool.and_false] at matched
    cases matched
  | true =>
    simp only [Effect.book, visited, if_true]
    exact updateBookings_only focus effect.setBooking (by simp [bookingOf_focus focus, visited]) only

/-- Both statements in a row, the second one on what the first one left. -/
theorem statements_commit (focus : Focus db paymentId payment booking) (effect : Effect) :
    Commits db (do
        let middle ← db.updatePayments
          (fun row => row.hasProviderId paymentId && effect.visits row) effect.set
        middle.updateBookings (fun row =>
          decide (middle.bookingOf paymentId = some row.id) && effect.visitsBooking row)
          effect.setBooking)
      ((effect.pay (payment, booking)).bind effect.book) := by
  have first := updatePayments_commits focus effect
  cases paid : effect.pay (payment, booking) with
  | none =>
    rw [paid] at first
    obtain ⟨raised, failed⟩ := first
    rw [failed]
    exact ⟨raised, rfl⟩
  | some pair =>
    rw [paid] at first
    obtain ⟨middle, done, wrote⟩ := first
    have second := updateBookings_commits (focus_wrote focus wrote (pay_alike paid)) effect
    rw [done, Option.bind_some]
    cases booked : effect.book pair with
    | none =>
      rw [booked] at second
      exact second
    | some left =>
      rw [booked] at second
      obtain ⟨after, done, later⟩ := second
      exact ⟨after, done, wrote.trans later (book_alike booked)⟩

/-- What a transaction leaves, whether or not it is rolled back. -/
theorem transaction_wrote (focus : Focus db paymentId payment booking) {result : Except Raised Database}
    {settled : Option Pair} (commits : Commits db result settled) :
    Wrote db (transaction db result) (settled.getD (payment, booking)) := by
  cases settled with
  | none =>
    obtain ⟨raised, rfl⟩ := commits
    exact wrote_self focus
  | some pair =>
    obtain ⟨after, rfl, wrote⟩ := commits
    exact wrote

end Statements

section Events

/-- What the two handlers are called with. -/
inductive Event where
  | payment (eventType : EventType) (paymentId : Option String)
  | refund (eventType : EventType) (payloadPaymentId refundId : Option String)

/-- The payment that an event names. -/
def Event.named : Event → Option String
  | .payment _ paymentId => truthyText paymentId
  | .refund _ payloadPaymentId _ => truthyText payloadPaymentId

/-- The handler of an event, in a transaction of its own. -/
def apply (db : Database) (event : Event) (now : Time) : Database :=
  transaction db (match event with
    | .payment eventType paymentId => applyPaymentEvent db eventType paymentId now
    | .refund eventType payloadPaymentId refundId =>
      applyRefundEvent db eventType payloadPaymentId refundId now)

def Effect.none : Effect :=
  ⟨fun _ => false, ⟨id, fun _ => rfl, fun _ => rfl, fun _ => rfl⟩, fun _ => false, ⟨id, fun _ => rfl⟩⟩

/-- What the handler of an event does to the payment that it names. -/
def Event.effect (now : Time) : Event → Effect
  | .payment .paymentCaptured _ | .payment .paymentAuthorized _ =>
    ⟨fun row => decide (row.status = .created), setCaptured now,
      fun row => decide (row.status = .pending), setPaid now⟩
  | .payment .paymentFailed _ =>
    { Effect.none with visits row := decide (row.status = .created), set := setFailed now }
  | _ => Effect.none

variable {db : Database} {paymentId : String} {payment : PaymentRow} {booking : BookingRow}
  {event : Event}

/-- The payment handler, once it has found its payment. -/
theorem applyPaymentEvent_found (focus : Focus db paymentId payment booking) {eventType : EventType}
    {given : Option String} (named : truthyText given = some paymentId) (now : Time) :
    ∃ settled, Commits db (applyPaymentEvent db eventType given now) settled ∧
      settled.getD (payment, booking) =
        ((Event.payment eventType given).effect now).settle (payment, booking) := by
  have present := select_named focus
  have idle : Commits db (.ok db) (some (payment, booking)) := ⟨db, rfl, wrote_self focus⟩
  rw [applyPaymentEvent, named]
  simp only [present]
  cases eventType with
  | paymentCaptured | paymentAuthorized =>
    exact ⟨_, statements_commit focus ((Event.payment .paymentCaptured given).effect now), rfl⟩
  | paymentFailed =>
    refine ⟨_, updatePayments_commits focus ((Event.payment .paymentFailed given).effect now), ?_⟩
    rw [Effect.settle]
    cases ((Event.payment .paymentFailed given).effect now).pay (payment, booking) <;> rfl
  | refundProcessed | refundPaid | other _ => exact ⟨_, idle, rfl⟩

/-- A handler is its effect on the named payment and its booking. -/
theorem apply_wrote (focus : Focus db paymentId payment booking)
    (named : event.named = some paymentId) (now : Time) :
    Wrote db (apply db event now) ((event.effect now).settle (payment, booking)) := by
  cases event with
  | payment eventType given =>
    obtain ⟨settled, commits, same⟩ := applyPaymentEvent_found focus named now
    exact same ▸ transaction_wrote focus commits
  | refund eventType given refundId =>
    have unchanged : apply db (.refund eventType given refundId) now = db :=
      refund_rolled_back db eventType given refundId now
    rw [unchanged]
    exact wrote_self focus

/-- A handler that finds no payment of that name changes nothing. -/
theorem apply_unnamed (unnamed : ∀ paymentId, event.named = some paymentId →
      ∀ row ∈ db.payments.rows, row.hasProviderId paymentId = false) (now : Time) :
    apply db event now = db := by
  cases event with
  | payment eventType given =>
    cases named : truthyText given with
    | none => simp only [apply, applyPaymentEvent, named, transaction]
    | some paymentId =>
      have missing := Table.select_none (unnamed paymentId named)
      simp only [apply, applyPaymentEvent, named, missing, List.isEmpty_nil, if_true, transaction]
  | refund eventType given refundId => exact refund_rolled_back db eventType given refundId now

/-- The payment that an event names is found with its booking. -/
theorem focus_named (named : event.named = some paymentId) (stored : payment ∈ db.payments.rows)
    (provider : payment.razorpayPaymentId = some paymentId) :
    ∃ booking, event.named = some paymentId ∧ Focus db paymentId payment booking := by
  obtain ⟨booking, opened, linked⟩ := List.mem_map.mp (db.booked payment stored)
  have present : paymentId ≠ "" := by
    cases event <;> simpa using (Option.filter_eq_some_iff.mp named).2
  exact ⟨booking, named, stored, provider, present, opened, linked⟩

/-- An event finds the payment that it names, with its booking, or there is none. -/
theorem focus_or_unnamed (db : Database) (event : Event) :
    (∃ paymentId payment booking, event.named = some paymentId ∧
        Focus db paymentId payment booking) ∨
      ∀ paymentId, event.named = some paymentId →
        ∀ row ∈ db.payments.rows, row.hasProviderId paymentId = false := by
  by_cases unnamed : ∀ paymentId, event.named = some paymentId →
      ∀ row ∈ db.payments.rows, row.hasProviderId paymentId = false
  · exact .inr unnamed
  · simp only [not_forall, Bool.not_eq_false] at unnamed
    obtain ⟨paymentId, named, payment, stored, provider⟩ := unnamed
    exact .inl ⟨paymentId, payment, focus_named named stored (of_decide_eq_true provider)⟩

end Events

section Laws

variable {db : Database} {event other : Event}

/-- The event names this payment. -/
def Event.names (event : Event) (payment : PaymentRow) : Prop :=
  ∃ paymentId, event.named = some paymentId ∧ payment.razorpayPaymentId = some paymentId

def timelessPayment (row : PaymentRow) : PaymentRow := { row with updatedAt := none }

def timelessBooking (row : BookingRow) : BookingRow := { row with updatedAt := none }

/-- All rows, `updated_at` aside. -/
def timeless (db : Database) : List PaymentRow × List BookingRow :=
  (db.payments.rows.map timelessPayment, db.bookings.rows.map timelessBooking)

def timelessPair (pair : Pair) : Pair := (timelessPayment pair.1, timelessBooking pair.2)

/-- An effect that has settled changes nothing but times any more. -/
theorem settle_again (event : Event) (now later : Time) (pair : Pair) :
    timelessPair ((event.effect later).settle ((event.effect now).settle pair)) =
      timelessPair ((event.effect now).settle pair) := by
  obtain ⟨payment, booking⟩ := pair
  cases event with
  | payment eventType paymentId =>
    cases eventType with
    | paymentCaptured | paymentAuthorized =>
      by_cases created : payment.status = .created
      · by_cases paid : booking.paymentStatus = .paid
        · by_cases pending : booking.status = .pending
          · simp [Event.effect, Effect.settle, Effect.pay, Effect.book, vetoesPayment, vetoesBooking,
              setCaptured, setPaid, created, paid, pending]
          · simp [Event.effect, Effect.settle, Effect.pay, Effect.book, vetoesPayment,
              setCaptured, created, paid, pending]
        · simp [Event.effect, Effect.settle, Effect.pay, vetoesPayment, setCaptured, created, paid]
      · by_cases pending : booking.status = .pending
        · simp [Event.effect, Effect.settle, Effect.pay, Effect.book, vetoesBooking, setPaid, created,
            pending]
        · simp [Event.effect, Effect.settle, Effect.pay, Effect.book, created, pending]
    | paymentFailed =>
      by_cases created : payment.status = .created
      · simp [Event.effect, Effect.none, Effect.settle, Effect.pay, Effect.book, vetoesPayment,
          setFailed, created]
      · simp [Event.effect, Effect.none, Effect.settle, Effect.pay, Effect.book, created]
    | refundProcessed | refundPaid | other _ => rfl
  | refund eventType paymentId refundId => rfl

/-- Applying an event twice in a row. -/
theorem apply_again (db : Database) (event : Event) (now later : Time) :
    timeless (apply (apply db event now) event later) = timeless (apply db event now) := by
  rcases focus_or_unnamed db event with ⟨paymentId, payment, booking, named, focus⟩ | unnamed
  · have wrote := apply_wrote focus named now
    have alike := settle_alike (event.effect now) (payment, booking)
    have again := apply_wrote (focus_wrote focus wrote alike) named later
    have twice := wrote.trans again (settle_alike _ _)
    have same := settle_again event now later (payment, booking)
    have keys := settle_alike (event.effect later) ((event.effect now).settle (payment, booking))
    simp only [timeless, Prod.mk.injEq]
    constructor
    · rw [twice.payments, wrote.payments]
      exact Table.map_put _ _ keys.id (congrArg Prod.fst same)
    · rw [twice.bookings, wrote.bookings]
      exact Table.map_put _ _ keys.booking (congrArg Prod.snd same)
  · rw [apply_unnamed unnamed now, apply_unnamed unnamed later]

/-- Events at different payments may change places. -/
theorem apply_swap {payment otherPayment : PaymentRow} (stored : payment ∈ db.payments.rows)
    (otherStored : otherPayment ∈ db.payments.rows) (names : event.names payment)
    (otherNames : other.names otherPayment) (different : payment ≠ otherPayment) (now later : Time) :
    apply (apply db event now) other later = apply (apply db other later) event now := by
  obtain ⟨paymentId, named, provider⟩ := names
  obtain ⟨otherId, otherNamed, otherProvider⟩ := otherNames
  obtain ⟨booking, -, focus⟩ := focus_named named stored provider
  obtain ⟨otherBooking, -, otherFocus⟩ := focus_named otherNamed otherStored otherProvider
  have alike := settle_alike (event.effect now) (payment, booking)
  have otherAlike := settle_alike (other.effect later) (otherPayment, otherBooking)
  have first := apply_wrote focus named now
  have otherFirst := apply_wrote otherFocus otherNamed later
  have second := apply_wrote (focus_other focus otherFocus different first alike) otherNamed later
  have otherSecond :=
    apply_wrote (focus_other otherFocus focus different.symm otherFirst otherAlike) named now
  obtain ⟨apart, apartBookings⟩ := focus_apart focus otherFocus different
  apply Database.ext
  · rw [second.payments, first.payments, otherSecond.payments, otherFirst.payments]
    exact Table.put_comm _ (alike.id ▸ otherAlike.id ▸ apart)
  · rw [second.bookings, first.bookings, otherSecond.bookings, otherFirst.bookings]
    exact Table.put_comm _ (alike.booking ▸ otherAlike.booking ▸ apartBookings)

/-- A payment that an event does not name keeps its row, and so does its booking. -/
theorem apply_frame {payment : PaymentRow} (stored : payment ∈ db.payments.rows)
    (unnamed : ¬ event.names payment) (now : Time) :
    (apply db event now).payments.lookup payment.id = db.payments.lookup payment.id ∧
      (apply db event now).bookings.lookup payment.bookingId =
        db.bookings.lookup payment.bookingId := by
  rcases focus_or_unnamed db event with ⟨paymentId, named, booking, isNamed, focus⟩ | missing
  · have wrote := apply_wrote focus isNamed now
    have alike := settle_alike (event.effect now) (named, booking)
    have different : payment ≠ named := by
      rintro rfl
      exact unnamed ⟨paymentId, isNamed, focus.named⟩
    obtain ⟨itsBooking, opened, linked⟩ := List.mem_map.mp (db.booked payment stored)
    constructor
    · rw [wrote.payments]
      refine Table.lookup_put_other stored fun same => different ?_
      exact List.inj_on_of_nodup_map db.payments.unique stored focus.stored (same.trans alike.id)
    · rw [wrote.bookings, ← linked]
      refine Table.lookup_put_other opened fun same => different ?_
      exact only_linked focus payment stored
        (linked.symm.trans (same.trans (alike.booking.trans focus.linked)))
  · rw [apply_unnamed missing now]
    exact ⟨rfl, rfl⟩

/-- In every database, an event applied twice in a row leaves what it leaves once; two events that
name different payments leave the same in either order; and a payment that an event does not name
keeps its row and its booking. -/
theorem events_independent (db : Database) :
    (∀ event now later,
      timeless (apply (apply db event now) event later) = timeless (apply db event now)) ∧
    (∀ event other now later, ∀ payment ∈ db.payments.rows, ∀ otherPayment ∈ db.payments.rows,
      event.names payment → other.names otherPayment → payment ≠ otherPayment →
        apply (apply db event now) other later = apply (apply db other later) event now) ∧
    ∀ event now, ∀ payment ∈ db.payments.rows, ¬ event.names payment →
      (apply db event now).payments.lookup payment.id = db.payments.lookup payment.id ∧
        (apply db event now).bookings.lookup payment.bookingId =
          db.bookings.lookup payment.bookingId := by
  refine ⟨apply_again db, ?_, ?_⟩
  · intro event other now later payment stored otherPayment otherStored names otherNames different
    exact apply_swap stored otherStored names otherNames different now later
  · intro event now payment stored unnamed
    exact apply_frame stored unnamed now

end Laws

section Sample

/-- A payment whose booking is still pending, and one that was not captured yet. -/
def twoPayments : Database where
  payments := ⟨[⟨1, 3, some "pay_1", .success, none, none, none⟩,
    ⟨2, 4, some "pay_2", .created, none, none, none⟩], by decide⟩
  bookings := ⟨[⟨3, .pending, .unpaid, none⟩, ⟨4, .pending, .unpaid, none⟩], by decide⟩
  providerIdsUnique := by decide
  onePaymentPerBooking := by decide
  booked := by decide

/-- The first payment's booking is confirmed and the second payment fails, in either order. -/
theorem events_independent_two :
    let capture := Event.payment .paymentCaptured (some "pay_1")
    let failure := Event.payment .paymentFailed (some "pay_2")
    apply (apply twoPayments capture 5) failure 7 = apply (apply twoPayments failure 7) capture 5 :=
  (events_independent twoPayments).2.1 _ _ 5 7 _ List.mem_cons_self _
    (List.mem_cons_of_mem _ List.mem_cons_self) ⟨"pay_1", by decide, rfl⟩ ⟨"pay_2", by decide, rfl⟩
    (by simp)

end Sample

end PlanBuddy.PaymentEvents
