import PlanBuddy.OutboxRuns

/-!
# The order of deliveries within an aggregate

A claim sorts the rows it takes, and so orders one batch. Nothing keeps it from taking
an event while an earlier one of the same aggregate is leased elsewhere, waits for its
retry, or stands in the same batch and may still fail. The order of deliveries holds
exactly as far as no claim takes such an event and no INSERT appears behind a claimed
one.

Handing an event to its target is a step of its own, which a relay may take at any time
after its claim, with or without a valid lease.
-/

namespace PlanBuddy.Outbox

/-- Both events belong to one aggregate, and the first has the smaller number. -/
def Precedes (earlier row : OutboxRow) : Prop :=
  earlier.aggregateType = row.aggregateType ∧ earlier.aggregateId = row.aggregateId ∧
    earlier.sequenceNumber < row.sequenceNumber

instance (earlier row : OutboxRow) : Decidable (Precedes earlier row) :=
  inferInstanceAs (Decidable (_ ∧ _ ∧ _))

/-- Every earlier event of the aggregate is delivered or dead-lettered. -/
def Clear (outbox : OutboxEvents) (row : OutboxRow) : Prop :=
  ∀ earlier ∈ outbox.rows, Precedes earlier row → earlier.settled

instance (outbox : OutboxEvents) (row : OutboxRow) : Decidable (Clear outbox row) :=
  inferInstanceAs (Decidable (∀ earlier ∈ outbox.rows, Precedes earlier row → earlier.settled))

/-- How many rows a claim could take that come strictly before a row. -/
def ahead (request : ClaimRequest) (now : Time) (locked : EventId → Bool) (scan : EventId → Nat)
    (outbox : OutboxEvents) (row : OutboxRow) : Nat :=
  ((outbox.select fun other => claimable request now other && !locked other.id).filter
    fun other => decide ¬ claimsBefore scan row other).length

/-- A claim finds a clear aggregate for each claimable row within its batch size, and an
INSERT adds no number below that of a claimed event of its aggregate. -/
def Orderly (server : Server) : Action → Prop
  | .claimOutboxBatch request _ now locked scan =>
    ∀ row ∈ server.outbox.rows, claimable request now row = true → locked row.id = false →
      ahead request now locked scan server.outbox row < request.batchSize → Clear server.outbox row
  | .writeOutboxEvent event =>
    (writeOutboxEvent event server.outbox).2 = true → ∀ row ∈ server.held, ¬ Precedes event.row row
  | _ => True

instance (server : Server) : (action : Action) → Decidable (Orderly server action)
  | .claimOutboxBatch _ _ _ _ _ =>
    inferInstanceAs (Decidable (∀ row ∈ server.outbox.rows, _ → _ → _ → Clear server.outbox row))
  | .writeOutboxEvent event =>
    inferInstanceAs (Decidable (_ → ∀ row ∈ server.held, ¬ Precedes event.row row))
  | .deliver _ | .commitOutboxSuccess _ _ | .commitOutboxFailureSelect _ _ _
  | .commitOutboxFailureUpdate _ _ _ | .reclaimExpiredOutboxLeases _ =>
    inferInstanceAs (Decidable True)

/-- Any claimed event could be handed to its target now. -/
def InOrder (server : Server) : Prop := ∀ row ∈ server.held, Clear server.outbox row

/-- A row that overtakes none is clear. -/
theorem overtaken_nil {outbox : OutboxEvents} {row : OutboxRow} :
    overtaken outbox row = [] ↔ Clear outbox row := by
  unfold overtaken Table.select Clear Precedes
  rw [List.filter_eq_nil_iff]
  constructor
  · intro none earlier stored ⟨sameType, sameId, smaller⟩
    by_contra unsettled
    exact none earlier stored (decide_eq_true ⟨sameType, sameId, smaller, unsettled⟩)
  · intro clear earlier stored matched
    obtain ⟨sameType, sameId, smaller, unsettled⟩ := of_decide_eq_true matched
    exact unsettled (clear earlier stored ⟨sameType, sameId, smaller⟩)

section Choice

/-- The order of the claims is reflexive. -/
theorem claimsBefore_refl (scan : EventId → Nat) (row : OutboxRow) : claimsBefore scan row row :=
  Or.inr ⟨rfl, Nat.le_refl _⟩

instance (scan : EventId → Nat) : Std.Total (claimsBefore scan) where
  total left right := by
    unfold claimsBefore
    omega

instance (scan : EventId → Nat) : IsTrans OutboxRow (claimsBefore scan) where
  trans first second third := by
    unfold claimsBefore
    omega

/-- A row that a claim takes is claimable and not locked, and stands within the batch. -/
theorem claimChoice_ahead {request : ClaimRequest} {now : Time} {locked : EventId → Bool}
    {scan : EventId → Nat} {outbox : OutboxEvents} {row : OutboxRow} (stored : row ∈ outbox.rows)
    (chosen : row.id ∈ claimChoice request now locked scan outbox) :
    claimable request now row = true ∧ locked row.id = false ∧
      ahead request now locked scan outbox row < request.batchSize := by
  obtain ⟨other, taken, sameId⟩ := List.mem_map.mp chosen
  have selected := (List.mem_insertionSort (claimsBefore scan)).mp (List.mem_of_mem_take taken)
  obtain ⟨member, matched⟩ := Table.mem_select.mp selected
  have same : other = row := List.inj_on_of_nodup_map outbox.unique member stored sameId
  subst same
  rw [Bool.and_eq_true, Bool.not_eq_true'] at matched
  refine ⟨matched.1, matched.2, ?_⟩
  have ranked := Table.limit_rank (claimsBefore_refl scan)
    (List.pairwise_insertionSort (claimsBefore scan) _) taken
  have sorted := List.perm_insertionSort (claimsBefore scan)
    (outbox.select fun other => claimable request now other && !locked other.id)
  rw [(sorted.filter _).length_eq] at ranked
  exact ranked

end Choice

section Preserved

variable {outbox : OutboxEvents} {row : OutboxRow}

/-- A statement that touches unsettled rows only, and keeps what orders them, keeps
every aggregate clear that was. -/
theorem update_clear {matching : OutboxRow → Bool} {assign : OutboxRow → OutboxRow}
    {keeps : ∀ row, (assign row).id = row.id} (clear : Clear outbox row)
    (unsettled : ∀ old ∈ outbox.rows, matching old = true → ¬ old.settled)
    (placed : ∀ old, Precedes (assign old) row → Precedes old row) :
    Clear (outbox.update matching assign keeps) row := by
  apply Table.forall_update clear
  intro old stored matched settled earlier
  exact absurd (settled (placed old earlier)) (unsettled old stored matched)

/-- A fence matches no settled row. -/
theorem holds_unsettled {call : JobEngine.LeaseCall} (held : holds call row = true) :
    ¬ row.settled := by
  have processing := ((holds_iff call row).mp held).2.2.2
  simp [OutboxRow.settled, processing]

/-- A failure leaves a row clear. -/
theorem failure_clear {write : FailureWrite} (clock now : Time) (clear : Clear outbox row) :
    Clear (commitOutboxFailureUpdate write clock now outbox) row := by
  unfold commitOutboxFailureUpdate
  split
  · apply update_clear clear (fun old _ held => holds_unsettled held)
    exact fun old earlier => earlier
  · apply update_clear clear (fun old _ held => holds_unsettled held)
    exact fun old earlier => earlier

/-- So does a success. -/
theorem success_clear {call : JobEngine.LeaseCall} (now : Time) (clear : Clear outbox row) :
    Clear (commitOutboxSuccess call now outbox) row := by
  unfold commitOutboxSuccess
  apply update_clear clear (fun old _ held => holds_unsettled held)
  exact fun old earlier => earlier

/-- So does a reclaim. -/
theorem reclaim_clear (now : Time) (clear : Clear outbox row) :
    Clear (reclaimExpiredOutboxLeases now outbox) row := by
  unfold reclaimExpiredOutboxLeases
  apply update_clear clear
  · intro old _ matched
    rw [recoverable, Bool.and_eq_true] at matched
    simp [OutboxRow.settled, expired_processing matched.1]
  · exact fun old earlier => earlier

/-- So does a claim. -/
theorem claim_clear (request : ClaimRequest) (clock now : Time) (locked : EventId → Bool)
    (scan : EventId → Nat) (clear : Clear outbox row) :
    Clear (claimOutboxBatch request clock now locked scan outbox).1 row := by
  simp only [claimOutboxBatch]
  apply update_clear clear
  · intro old stored chosen
    have pending := claimChoice_pending stored (of_decide_eq_true chosen)
    simp [OutboxRow.settled, pending]
  · exact fun old earlier => earlier

/-- So does a new event, unless it comes before the row. -/
theorem write_clear {event : NewEvent} (clear : Clear outbox row)
    (behind : (writeOutboxEvent event outbox).2 = true → ¬ Precedes event.row row) :
    Clear (writeOutboxEvent event outbox).1 row := by
  unfold writeOutboxEvent at behind ⊢
  split at behind
  · next taken =>
    rw [if_pos taken]
    exact clear
  · next free =>
    rw [if_neg free]
    exact Table.forall_insert clear (fun added earlier => absurd earlier (behind added))

/-- A row that an orderly claim returns has a clear aggregate, before the claim and after. -/
theorem claimed_clear {server : Server} {request : ClaimRequest} {clock now : Time}
    {locked : EventId → Bool} {scan : EventId → Nat}
    (orderly : Orderly server (.claimOutboxBatch request clock now locked scan))
    {row : OutboxRow}
    (returned : row ∈ (claimOutboxBatch request clock now locked scan server.outbox).2) :
    Clear (claimOutboxBatch request clock now locked scan server.outbox).1 row := by
  apply claim_clear
  obtain ⟨old, selected, rfl⟩ := List.mem_map.mp returned
  obtain ⟨stored, chosen⟩ := Table.mem_select.mp selected
  obtain ⟨matched, unlocked, within⟩ := claimChoice_ahead stored (of_decide_eq_true chosen)
  exact orderly old stored matched unlocked within

end Preserved

/-- An orderly step keeps every claimed event deliverable, and delivers none that
overtakes another. -/
theorem step_inOrder {server next : Server} {observed : List Event} (inOrder : InOrder server)
    (taken : takes step Orderly server observed next) :
    InOrder next ∧ ∀ row behind, .delivered row behind ∈ observed → behind = [] := by
  obtain ⟨action, orderly, taken⟩ := taken
  cases action with
  | writeOutboxEvent event =>
    simp only [step, Option.some.injEq, Prod.mk.injEq] at taken
    obtain ⟨rfl, rfl⟩ := taken
    constructor
    · exact fun row held => write_clear (inOrder row held) (fun added => orderly added row held)
    · intro row behind member
      split at member <;> simp at member
  | claimOutboxBatch request clock now locked scan =>
    simp only [step, Option.some.injEq, Prod.mk.injEq] at taken
    obtain ⟨rfl, rfl⟩ := taken
    constructor
    · intro row held
      rcases List.mem_append.mp held with old | returned
      · exact claim_clear request clock now locked scan (inOrder row old)
      · exact claimed_clear orderly returned
    · intro row behind member
      simp at member
  | deliver position =>
    simp only [step, Option.map_eq_some_iff, Prod.mk.injEq] at taken
    obtain ⟨row, held, rfl, rfl⟩ := taken
    constructor
    · exact fun other member => inOrder other (List.mem_of_mem_eraseIdx member)
    · intro delivered behind member
      simp only [List.mem_singleton, Event.delivered.injEq] at member
      obtain ⟨rfl, rfl⟩ := member
      exact overtaken_nil.mpr (inOrder delivered (List.mem_of_getElem? held))
  | commitOutboxSuccess call now =>
    simp only [step, Option.some.injEq, Prod.mk.injEq] at taken
    obtain ⟨rfl, rfl⟩ := taken
    constructor
    · exact fun row held => success_clear now (inOrder row held)
    · intro row behind member
      simp at member
  | commitOutboxFailureSelect call thrown maxAttempts =>
    simp only [step, Option.some.injEq, Prod.mk.injEq] at taken
    obtain ⟨rfl, rfl⟩ := taken
    exact ⟨inOrder, by simp⟩
  | commitOutboxFailureUpdate position clock now =>
    simp only [step, Option.map_eq_some_iff, Prod.mk.injEq] at taken
    obtain ⟨write, -, rfl, rfl⟩ := taken
    constructor
    · exact fun row held => failure_clear clock now (inOrder row held)
    · intro row behind member
      simp at member
  | reclaimExpiredOutboxLeases now =>
    simp only [step, Option.some.injEq, Prod.mk.injEq] at taken
    obtain ⟨rfl, rfl⟩ := taken
    constructor
    · exact fun row held => reclaim_clear now (inOrder row held)
    · intro row behind member
      simp at member

/-- In an orderly run every delivery is in order. -/
theorem run_inOrder {history : List Event} {state : Server}
    (run : Run (takes step Orderly) (Server.idle Table.empty) history state) :
    InOrder state ∧ ∀ row behind, .delivered row behind ∈ history → behind = [] := by
  apply run.invariant (fun history server =>
    InOrder server ∧ ∀ row behind, .delivered row behind ∈ history → behind = [])
  · constructor
    · intro row held
      cases held
    · intro row behind member
      cases member
  · intro history observed server next _ ordered taken
    obtain ⟨inOrder, unordered⟩ := step_inOrder ordered.1 taken
    refine ⟨inOrder, ?_⟩
    intro row behind member
    rcases List.mem_append.mp member with old | new
    · exact ordered.2 row behind old
    · exact unordered row behind new

section Disorder

variable {server next : Server} {outbox : OutboxEvents} {row : OutboxRow}

/-- The rows of a table are met one after the other. -/
def Action.scans : Action → Prop
  | .claimOutboxBatch _ _ _ _ scan => Function.Injective scan
  | _ => True

/-- A claimed event may be handed over next, ahead of an earlier one of its aggregate. -/
def Overtakes (server : Server) : Prop :=
  ∃ position later row behind,
    step server (.deliver position) = some (later, [.delivered row behind]) ∧ behind ≠ []

/-- Any other row can be delivered over an earlier one. -/
theorem unordered_overtakes (unordered : ¬ InOrder server) : Overtakes server := by
  simp only [InOrder, not_forall] at unordered
  obtain ⟨row, held, unclear⟩ := unordered
  obtain ⟨position, found⟩ := List.mem_iff_getElem?.mp held
  have delivered : step server (.deliver position) =
      some ({ server with held := server.held.eraseIdx position },
        [.delivered row (overtaken server.outbox row)]) := by
    simp only [step, found, Option.map_some]
  exact ⟨position, _, row, _, delivered, fun empty => unclear (overtaken_nil.mp empty)⟩

/-- A written event is stored. -/
theorem write_stored {event : NewEvent} (added : (writeOutboxEvent event outbox).2 = true) :
    event.row ∈ (writeOutboxEvent event outbox).1.rows := by
  unfold writeOutboxEvent at added ⊢
  split at added
  · cases added
  · next free =>
    rw [if_neg free]
    exact Table.mem_insert added

/-- Where no two rows are met at once, a claim takes each claimable row within its batch. -/
theorem ahead_chosen {request : ClaimRequest} {now : Time} {locked : EventId → Bool}
    {scan : EventId → Nat} (scans : Function.Injective scan) (stored : row ∈ outbox.rows)
    (matched : claimable request now row = true) (unlocked : locked row.id = false)
    (within : ahead request now locked scan outbox row < request.batchSize) :
    row.id ∈ claimChoice request now locked scan outbox := by
  have sorted := List.perm_insertionSort (claimsBefore scan)
    (outbox.select fun other => claimable request now other && !locked other.id)
  have member := sorted.mem_iff.mpr (Table.mem_select.mpr ⟨stored, by rw [matched, unlocked]; rfl⟩)
  unfold ahead at within
  rw [← (sorted.filter _).length_eq] at within
  apply List.mem_map_of_mem
  apply Table.rank_limit (List.pairwise_insertionSort (claimsBefore scan) _) member _ within
  intro other selected behind before
  obtain ⟨storedOther, -⟩ := Table.mem_select.mp (sorted.mem_iff.mp selected)
  apply List.inj_on_of_nodup_map outbox.unique storedOther stored
  apply scans
  unfold claimsBefore at behind before
  omega

/-- A claim settles no event. -/
theorem claim_unclear {request : ClaimRequest} {clock now : Time} {locked : EventId → Bool}
    {scan : EventId → Nat} (unclear : ¬ Clear outbox row) :
    ¬ Clear (claimOutboxBatch request clock now locked scan outbox).1 row := by
  intro clear
  apply unclear
  intro earlier stored precedes
  simp only [claimOutboxBatch] at clear
  have kept := clear _ (Table.mem_update.mpr ⟨earlier, stored, rfl⟩)
  split at kept
  · rcases kept precedes with delivered | buried
    · cases delivered
    · cases buried
  · exact kept precedes

/-- A step that is not orderly leaves a claimed event behind an unsettled one. -/
theorem disorderly_unordered {action : Action} {observed : List Event} (scans : action.scans)
    (taken : step server action = some (next, observed)) (disorderly : ¬ Orderly server action) :
    ¬ InOrder next := by
  intro inOrder
  cases action with
  | writeOutboxEvent event =>
    simp only [step, Option.some.injEq, Prod.mk.injEq] at taken
    obtain ⟨rfl, -⟩ := taken
    apply disorderly
    intro added row held precedes
    rcases inOrder row held event.row (write_stored added) precedes with delivered | buried
    · cases delivered
    · cases buried
  | claimOutboxBatch request clock now locked scan =>
    simp only [step, Option.some.injEq, Prod.mk.injEq] at taken
    obtain ⟨rfl, -⟩ := taken
    apply disorderly
    intro row stored matched unlocked within
    have chosen := ahead_chosen scans stored matched unlocked within
    have returned : row.claim request.workerId (clock + leaseMs) now ∈
        (claimOutboxBatch request clock now locked scan server.outbox).2 :=
      List.mem_map_of_mem (Table.mem_select.mpr ⟨stored, decide_eq_true chosen⟩)
    have clear := inOrder _ (List.mem_append_right server.held returned)
    by_contra unclear
    exact claim_unclear unclear clear
  | deliver | commitOutboxSuccess | commitOutboxFailureSelect | commitOutboxFailureUpdate
  | reclaimExpiredOutboxLeases => exact absurd trivial disorderly

end Disorder

/-- In every run of orderly steps, whatever the relays do, no event is handed to its
target while an earlier one of its aggregate is neither delivered nor dead-lettered.
After any other step one may be. -/
theorem deliveries_in_order {history : List Event} {state : Server}
    (run : Run (takes step Orderly) (Server.idle Table.empty) history state) :
    (∀ row behind, .delivered row behind ∈ history → behind = []) ∧
      ∀ action next observed, action.scans → step state action = some (next, observed) →
        ¬ Orderly state action → Overtakes next := by
  constructor
  · exact (run_inOrder run).2
  · intro action next observed scans taken disorderly
    exact unordered_overtakes (disorderly_unordered scans taken disorderly)

section Sample

/-- Two events of one refund, in order. -/
def refundEvents : List Action :=
  [.writeOutboxEvent
      { id := 1, aggregateType := "refund", aggregateId := "r", sequenceNumber := 1, createdAt := 0 },
    .writeOutboxEvent
      { id := 2, aggregateType := "refund", aggregateId := "r", sequenceNumber := 2, createdAt := 0 }]

/-- One relay claims the first event and is slow; another claims the second and hands
it to the target. -/
theorem delivery_overtakes :
    ¬ ∀ (history : List Event) (state : Server),
      Run transition (Server.idle Table.empty) history state →
        ∀ row behind, .delivered row behind ∈ history → behind = [] := by
  intro ordered
  have run : Run transition (Server.idle Table.empty) _ _ :=
    run_of_schedule (refundEvents ++
      [.claimOutboxBatch ⟨"slow", 1, none⟩ 0 0 (fun _ => false) id,
        .claimOutboxBatch ⟨"quick", 1, none⟩ 0 0 (fun _ => false) id,
        .deliver 1]) rfl
  have empty := ordered _ _ run _ _ (List.mem_of_getElem? (show _[4]? = _ from rfl))
  revert empty
  decide

/-- With batches of one, each claimed after the previous event was delivered and
committed, the same events stay in order. -/
theorem deliveries_in_order_single :
    ∃ history state, Run (takes step Orderly) (Server.idle Table.empty) history state ∧
      state.outbox.rows.map OutboxRow.status = [.delivered, .delivered] ∧
      ∀ row behind, .delivered row behind ∈ history → behind = [] := by
  have run : Run (takes step Orderly) (Server.idle Table.empty) _ _ :=
    run_of_restricted (refundEvents ++
      [.claimOutboxBatch ⟨"slow", 1, none⟩ 0 0 (fun _ => false) id,
        .deliver 0,
        .commitOutboxSuccess ⟨1, "slow", 1⟩ 10,
        .claimOutboxBatch ⟨"quick", 1, none⟩ 20 20 (fun _ => false) id,
        .deliver 0,
        .commitOutboxSuccess ⟨2, "quick", 1⟩ 30]) rfl
  exact ⟨_, _, run, by decide, (deliveries_in_order run).1⟩

end Sample

end PlanBuddy.Outbox
