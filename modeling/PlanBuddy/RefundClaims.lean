import PlanBuddy.PaymentHandlers
import PlanBuddy.RefundedCancellations

/-!
# Refund claims under the status constraints

A refund starts with a compare-and-set on the booking, meant to be won by one request.
The status it writes is in neither list that migrations 070 and 140 admit, so the UPDATE
raises for whoever comes first, and leaves the booking for the next request to fail on
in the same way. The constraints are evaluated against the written row here; the race
between the requests plays no part.
-/

namespace PlanBuddy.Cancellation

open Payments (RowId BookingRow BookingStatus Database)

/-- The requests whose claim UPDATE took the booking. -/
def claims (history : List RequestEvent) : List Nat :=
  history.map fun
    | .claimed request => request

/-- One request wins the claim, every other is told that a cancellation is in progress,
and none is handed to the error middleware. -/
structure OneClaim (history : List RequestEvent) (requests : List Request) : Prop where
  winner : ∃ request, claims history = [request]
  others : ∀ (index : Nat) request, requests[index]? = some request → index ∉ claims history →
    ∃ booking, request.phase = .answered (.alreadyInProgress booking)
  clean : ∀ request ∈ requests, ∀ error, request.phase ≠ .answered (.next error)

/-- Only the given requests act, and no statement fails by itself. -/
def Undisturbed : Desk → RequestAction → Prop
  | _, .proceed _ none => True
  | _, .initiateRefund _ _ => True
  | _, _ => False

instance (desk : Desk) : (action : RequestAction) → Decidable (Undisturbed desk action)
  | .proceed _ none | .initiateRefund _ _ => inferInstanceAs (Decidable True)
  | .proceed _ (some _) | .cancelBooking _ _ _ _ | .applyPaymentEvent _ _ _ =>
    inferInstanceAs (Decidable False)

/-- A request to cancel a booking, made by its owner. -/
def Request.ownedBy (request : Request) (bookingId owner : RowId) : Prop :=
  request.bookingId = bookingId ∧ request.userId = owner

/-- How a claim ends under both constraints. -/
def claimRefused : Answer := .next (checkViolation "bookings_status_check")

/-- A request that has not got past its claim. -/
def RequestPhase.unclaimed (phase : RequestPhase) : Prop :=
  phase = .reading ∨ phase = .claiming ∨ phase = .answered claimRefused

section Refused

variable {store : Store} {bookingId : RowId} {row : BookingRow}

/-- The joined read returns the stored booking. -/
theorem joined_stored (found : store.joined bookingId = some row) :
    store.db.bookings.lookup bookingId = some row := by
  rw [Store.joined, Option.filter_eq_some_iff] at found
  exact found.1

/-- The payment trigger has no objection to the claim of a paid booking. -/
theorem claim_accepted (db : Database) (bookingId : RowId) (now : Time) :
    db.updateBookings (claimable bookingId) (setCancellationPending now) =
      .ok (db.writeBookings (claimable bookingId) (setCancellationPending now)) := by
  have accepted : db.bookings.vetoed (claimable bookingId) (setCancellationPending now).assign
      (Payments.enforceBookingPaymentInvariance db.payments) = none := by
    rw [Table.vetoed, List.findSome?_eq_none_iff]
    intro written member
    obtain ⟨old, selected, rfl⟩ := List.mem_map.mp member
    have matched := of_decide_eq_true (Table.mem_select.mp selected).2
    exact Payments.paid_accepted db.payments matched.2.2
  rw [Database.updateBookings, accepted]

/-- The claim of a confirmed, paid booking raises, whatever the other requests do. -/
theorem claim_refused {request : Request} {others : Locks} {next : Store} {phase : RequestPhase}
    (found : store.db.bookings.lookup request.bookingId = some row)
    (confirmed : row.status = .confirmed) (paid : row.paymentStatus = .paid)
    (claimed : request.claim bookingChecks store others = some (next, phase)) :
    next = store ∧ phase = .answered claimRefused := by
  have selected : row ∈ store.db.bookings.select (claimable request.bookingId) := by
    apply Table.mem_select.mpr
    exact ⟨Table.lookup_mem found, decide_eq_true ⟨Table.lookup_key found, confirmed, paid⟩⟩
  have refused : violated bookingChecks .cancellationPending =
      some (checkViolation "bookings_status_check") := rfl
  rw [Request.claim, claim_accepted, refused,
    if_neg (by simp [List.isEmpty_iff, List.ne_nil_of_mem selected])] at claimed
  split at claimed <;> cases claimed
  exact ⟨rfl, rfl⟩

/-- A request of the owner reads the booking and fails on its claim. -/
theorem unclaimed_proceeds {request : Request} {others : Locks} {next : Store}
    {phase : RequestPhase} (found : store.joined bookingId = some row)
    (confirmed : row.status = .confirmed) (paid : row.paymentStatus = .paid)
    (owned : request.ownedBy bookingId (store.reserved bookingId).userId)
    (unclaimed : request.phase.unclaimed)
    (proceeded : request.proceed bookingChecks store others none = some (next, phase)) :
    next = store ∧ phase.unclaimed ∧ phase ≠ .refunding := by
  obtain ⟨rfl, owner⟩ := owned
  rcases unclaimed with reading | claiming | refused
  · simp [Request.proceed, reading, found, owner, confirmed, paid] at proceeded
    obtain ⟨rfl, rfl⟩ := proceeded
    exact ⟨rfl, Or.inr (Or.inl rfl), by simp⟩
  · have claimed : request.claim bookingChecks store others = some (next, phase) := by
      simpa only [Request.proceed, claiming] using proceeded
    obtain ⟨rfl, rfl⟩ := claim_refused (joined_stored found) confirmed paid claimed
    exact ⟨rfl, Or.inr (Or.inr rfl), by simp⟩
  · simp [Request.proceed, refused] at proceeded

end Refused

/-- Where every request stands after any number of steps. -/
structure Unclaimed (start : Store) (bookingId : RowId) (history : List RequestEvent)
    (desk : Desk) : Prop where
  store : desk.store = start
  none : claims history = []
  requests : ∀ request ∈ desk.requests,
    request.ownedBy bookingId (start.reserved bookingId).userId ∧ request.phase.unclaimed

/-- As long as nothing disturbs it, a paid booking is not claimed. -/
theorem step_unclaimed {start : Store} {bookingId : RowId} {row : BookingRow}
    (found : start.joined bookingId = some row) (confirmed : row.status = .confirmed)
    (paid : row.paymentStatus = .paid) {history observed : List RequestEvent} {desk next : Desk}
    (unclaimed : Unclaimed start bookingId history desk)
    (taken : takes (serve bookingChecks) Undisturbed desk observed next) :
    Unclaimed start bookingId (history ++ observed) next := by
  obtain ⟨action, undisturbed, taken⟩ := taken
  obtain ⟨rfl, none, requests⟩ := unclaimed
  cases action with
  | cancelBooking bookingId userId isAdmin now => cases undisturbed
  | applyPaymentEvent eventType paymentId now => cases undisturbed
  | proceed index fault =>
    cases fault with
    | some error => cases undisturbed
    | none =>
      simp only [serve, Option.bind_eq_some_iff, Option.map_eq_some_iff, Prod.exists,
        Prod.mk.injEq] at taken
      obtain ⟨request, stored, store, phase, proceeded, rfl, rfl⟩ := taken
      obtain ⟨owned, waiting⟩ := requests request (List.mem_of_getElem? stored)
      obtain ⟨rfl, stays, unwon⟩ := unclaimed_proceeds found confirmed paid owned waiting proceeded
      refine ⟨rfl, ?_, ?_⟩
      · have silent : phase.events index = [] := by
          cases phase with
          | refunding => exact absurd rfl unwon
          | _ => rfl
        rw [silent, List.append_nil]
        exact none
      · intro other moved
        rcases List.mem_or_eq_of_mem_set moved with old | rfl
        · exact requests other old
        · exact ⟨owned, stays⟩
  | initiateRefund index outcome =>
    simp only [serve, Option.bind_eq_some_iff] at taken
    obtain ⟨request, stored, taken⟩ := taken
    obtain ⟨-, waiting⟩ := requests request (List.mem_of_getElem? stored)
    have unwon : request.phase ≠ .refunding := by
      rcases waiting with phase | phase | phase <;> simp [phase]
    split at taken
    · next refunding => exact absurd refunding unwon
    · next refunding => exact absurd refunding unwon
    · cases taken

/-- Under the constraints of migrations 070 and 140, and for any number of requests of
the owner on a confirmed, paid booking, no claim ever succeeds and every request that is
answered has failed with the violated constraint. So there is never one winner. -/
theorem refund_claim_never_wins {start : Store} {bookingId : RowId} {row : BookingRow}
    (found : start.joined bookingId = some row) (confirmed : row.status = .confirmed)
    (paid : row.paymentStatus = .paid) {requests : List Request}
    (fresh : ∀ request ∈ requests,
      request.ownedBy bookingId (start.reserved bookingId).userId ∧ request.phase = .reading)
    {refunds : List RowId} {history : List RequestEvent} {desk : Desk}
    (run : Run (takes (serve bookingChecks) Undisturbed) ⟨start, requests, refunds⟩ history desk) :
    claims history = [] ∧
    (∀ request ∈ desk.requests, ∀ answer, request.phase = .answered answer →
      answer = claimRefused) ∧
    ¬ OneClaim history desk.requests := by
  have unclaimed : Unclaimed start bookingId history desk := by
    apply run.invariant (Unclaimed start bookingId)
    · exact ⟨rfl, rfl, fun request member =>
        ⟨(fresh request member).1, Or.inl (fresh request member).2⟩⟩
    · intro history observed desk next _ unclaimed taken
      exact step_unclaimed found confirmed paid unclaimed taken
  refine ⟨unclaimed.none, ?_, ?_⟩
  · intro request member answer answered
    rcases (unclaimed.requests request member).2 with phase | phase | phase
    · rw [answered] at phase
      cases phase
    · rw [answered] at phase
      cases phase
    · rw [answered] at phase
      exact RequestPhase.answered.inj phase
  · intro won
    obtain ⟨winner, only⟩ := won.winner
    rw [unclaimed.none] at only
    cases only

section Sample

/-- Two requests of the owner, at once. -/
def ownerRequests : List Request := [⟨1, 7, false, 0, .reading⟩, ⟨1, 7, false, 0, .reading⟩]

/-- Both are answered, and neither has claimed the booking. -/
theorem refund_claim_refused :
    ¬ ∀ (start : Store) (bookingId : RowId) (row : BookingRow) (requests : List Request),
      start.joined bookingId = some row → row.status = .confirmed → row.paymentStatus = .paid →
      requests ≠ [] →
      (∀ request ∈ requests,
        request.ownedBy bookingId (start.reserved bookingId).userId ∧ request.phase = .reading) →
      ∀ (history : List RequestEvent) (desk : Desk),
        Run (takes (serve bookingChecks) Undisturbed) ⟨start, requests, []⟩ history desk →
        (∀ request ∈ desk.requests, ∃ answer, request.phase = .answered answer) →
        OneClaim history desk.requests := by
  intro wins
  have run : Run (takes (serve bookingChecks) Undisturbed) ⟨paidBooking, ownerRequests, []⟩ _ _ :=
    run_of_restricted [.proceed 0 none, .proceed 1 none, .proceed 1 none, .proceed 0 none] rfl
  have fresh : ∀ request ∈ ownerRequests,
      request.ownedBy 1 (paidBooking.reserved 1).userId ∧ request.phase = .reading := by
    simp [ownerRequests, Request.ownedBy, paidBooking]
  have won := wins paidBooking 1 _ ownerRequests rfl rfl rfl (by simp [ownerRequests]) fresh _ _ run
    (by
      intro request member
      rcases List.mem_cons.mp member with rfl | rest
      · exact ⟨claimRefused, rfl⟩
      · rw [List.mem_singleton.mp rest]
        exact ⟨claimRefused, rfl⟩)
  obtain ⟨winner, only⟩ := won.winner
  cases only

/-- Neither of two requests claims the booking. -/
theorem refund_claim_never_wins_two :
    ∃ history desk,
      Run (takes (serve bookingChecks) Undisturbed) ⟨paidBooking, ownerRequests, []⟩ history desk ∧
      claims history = [] ∧ ¬ OneClaim history desk.requests := by
  have run : Run (takes (serve bookingChecks) Undisturbed) ⟨paidBooking, ownerRequests, []⟩ _ _ :=
    run_of_restricted [.proceed 0 none, .proceed 1 none, .proceed 1 none, .proceed 0 none] rfl
  have found : paidBooking.joined 1 = some ⟨1, .confirmed, .paid, none⟩ := rfl
  have never := refund_claim_never_wins found rfl rfl
    (by simp [ownerRequests, Request.ownedBy, paidBooking]) run
  exact ⟨_, _, run, never.1, never.2.2⟩

end Sample

end PlanBuddy.Cancellation
