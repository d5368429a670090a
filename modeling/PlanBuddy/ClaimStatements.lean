import PlanBuddy.Outbox
import PlanBuddy.SqlConditions

/-!
# The filters that the claims spell out

`atomicClaim` and `claimOutboxBatch` write the region, the shards and the aggregate type into the
text of their statements. The text is built here character by character, cut into tokens, and the
condition of its inner WHERE clause is read and evaluated on the columns of a row.

Whatever these values are, each statement is the same up to its filter, no text can leave its
constant, and the filter is the one that the claims are modelled with.
-/

namespace PlanBuddy.ClaimStatements

open SqlText SqlConditions

section Texts

/-- The lines of `atomicClaim` around its parameters. -/
def claimUpdate : String := "\n      UPDATE "

def claimSet : String :=
  "\n      SET\n        status           = 'processing',\n        leased_by        = $1,\n" ++
  "        lease_expires_at = $2,\n        lease_version    = lease_version + 1,\n" ++
  "        updated_at       = NOW()\n      WHERE id IN (\n        SELECT id FROM "

def claimWhere : String := "\n        WHERE\n          "

def claimPending : String :=
  "status = 'pending'\n          AND (run_after IS NULL OR run_after <= NOW())\n          "

def claimGap : String := "\n          "

def claimOrder : String :=
  "\n        ORDER BY priority DESC, created_at ASC\n        LIMIT $3\n" ++
  "        FOR UPDATE SKIP LOCKED\n      )\n      RETURNING *\n      "

def shardClause : Option (List Int) → List Char
  | none | some [] => []
  | some keys => "AND shard_key = ANY(ARRAY[".toList ++ join keys ++ "])".toList

def regionClause (region : String) : List Char := "AND region_id = ".toList ++ quote region.toList

/-- The text that `atomicClaim` sends. -/
def atomicClaim (tableName : String) (shardKeys : Option (List Int)) (region : String) : List Char :=
  claimUpdate.toList ++ (tableName.toList ++ (claimSet.toList ++ (tableName.toList ++
    (claimWhere.toList ++ (claimPending.toList ++ (shardClause shardKeys ++ (claimGap.toList ++
      (regionClause region ++ claimOrder.toList))))))))

def outboxUpdate : String :=
  "\n      UPDATE outbox_events\n      SET\n        status           = 'processing',\n" ++
  "        leased_by        = $1,\n        lease_expires_at = $2,\n" ++
  "        lease_version    = lease_version + 1,\n        updated_at       = NOW()\n" ++
  "      WHERE id IN (\n        SELECT id FROM outbox_events\n        WHERE "

def outboxOrder : String :=
  "\n        ORDER BY sequence_number ASC\n        LIMIT $3\n        FOR UPDATE SKIP LOCKED\n" ++
  "      )\n      RETURNING *\n      "

/-- An empty aggregate type is falsy. -/
def aggregateClause : Option String → List Char
  | none | some "" => []
  | some aggregateType => "AND aggregate_type = ".toList ++ quote aggregateType.toList

/-- The text that `claimOutboxBatch` sends. -/
def claimOutboxBatch (aggregateType : Option String) : List Char :=
  outboxUpdate.toList ++ (claimPending.toList ++ (aggregateClause aggregateType ++ outboxOrder.toList))

end Texts

section Columns

/-- The labels of `queue_status`. -/
def queueStatus : JobEngine.QueueStatus → String
  | .pending => "pending"
  | .processing => "processing"
  | .processed => "processed"
  | .failed => "failed"
  | .deadLetter => "dead_letter"

/-- The labels of `outbox_status`. -/
def outboxStatus : Outbox.OutboxStatus → String
  | .pending => "pending"
  | .processing => "processing"
  | .delivered => "delivered"
  | .deadLetter => "dead_letter"

/-- The columns of a job that the filter names. -/
def jobColumns (row : JobEngine.JobRow) (name : List Char) : Value :=
  if name = "status".toList then .text (queueStatus row.status).toList
  else if name = "run_after".toList then row.runAfter.elim .null .instant
  else if name = "shard_key".toList then .integer row.shardKey
  else if name = "region_id".toList then .text row.regionId.toList
  else .null

/-- The columns of an outbox event that the filter names. -/
def outboxColumns (row : Outbox.OutboxRow) (name : List Char) : Value :=
  if name = "status".toList then .text (outboxStatus row.status).toList
  else if name = "run_after".toList then row.runAfter.elim .null .instant
  else if name = "aggregate_type".toList then .text row.aggregateType.toList
  else .null

end Columns

section Tokens

/-- The tokens of a text without a parameter. -/
def tokens (text : String) : List Token := (tokenize text.toList).getD []

/-- The tokens of a filter up to its clauses. -/
def pendingTokens : List Token :=
  [word "status", operator "=", .constant "pending".toList, word "AND", .mark '(', word "run_after",
    word "IS", word "NULL", word "OR", word "run_after", operator "<=", word "NOW", .mark '(',
    .mark ')', .mark ')']

def shardTokens : Option (List Int) → List Token
  | none | some [] => []
  | some keys => [word "AND", word "shard_key", operator "=", word "ANY", .mark '(', word "ARRAY",
      .mark '['] ++ (listTokens keys ++ [.mark ')'])

def regionTokens (region : String) : List Token :=
  [word "AND", word "region_id", operator "=", .constant region.toList]

def aggregateTokens : Option String → List Token
  | none | some "" => []
  | some aggregateType =>
    [word "AND", word "aggregate_type", operator "=", .constant aggregateType.toList]

/-- The tokens of `atomicClaim` before its filter. -/
def claimTokens (tableName : String) : List Token :=
  tokens claimUpdate ++ .word tableName.toList :: (tokens claimSet ++ .word tableName.toList ::
    tokens claimWhere)

/-- A text without a parameter that ends between two tokens. -/
theorem scan_fixed {text : String}
    (ends : (scan (.between false) text.toList).map Prod.snd = some (.between false)) :
    scan (.between false) text.toList = some (tokens text, .between false) := by
  obtain ⟨⟨read, mode⟩, scanned, rfl⟩ := Option.map_eq_some_iff.mp ends
  rw [tokens, tokenize_eq scanned rfl, scanned]
  simp

/-- The texts around the parameters end between two tokens, and what follows a parameter starts with
a new line. Behind a filter it starts with the order, and is read after a constant as elsewhere. -/
theorem texts_read :
    scan (.between false) claimUpdate.toList = some (tokens claimUpdate, .between false) ∧
    scan (.between false) outboxUpdate.toList = some (tokens outboxUpdate, .between false) ∧
    scan (.between false) claimPending.toList = some (pendingTokens, .between false) ∧
    (∀ text ∈ [claimSet, claimWhere], text.toList.head? = some '\n' ∧
      scan (.between false) text.toList = some (tokens text, .between false)) ∧
    ∀ text ∈ [claimOrder, outboxOrder], text.toList.head? = some '\n' ∧
      scan (.between false) text.toList = some (tokens text, .between false) ∧
      scan (.between true) text.toList = some (tokens text, .between false) ∧
      (tokens text).head? = some (word "ORDER") := by
  simp only [List.forall_mem_cons, List.not_mem_nil, false_imp_iff, implies_true, and_true]
  refine ⟨scan_fixed ?_, scan_fixed ?_, ?_, ⟨?_, ?_⟩, ?_, ?_⟩
  · rw [claimUpdate, toList_spelled rfl]
    decide +kernel
  · unfold outboxUpdate
    rw [String.toList_append, String.toList_append, String.toList_append, toList_spelled rfl,
      toList_spelled rfl, toList_spelled rfl, toList_spelled rfl]
    decide +kernel
  · rw [claimPending, toList_spelled rfl]
    decide +kernel
  · unfold tokens claimSet
    rw [String.toList_append, String.toList_append, toList_spelled rfl, toList_spelled rfl,
      toList_spelled rfl]
    decide +kernel
  · unfold tokens claimWhere
    rw [toList_spelled rfl]
    decide +kernel
  · unfold tokens claimOrder
    rw [String.toList_append, toList_spelled rfl, toList_spelled rfl]
    decide +kernel
  · unfold tokens outboxOrder
    rw [String.toList_append, toList_spelled rfl, toList_spelled rfl]
    decide +kernel

/-- The clause about the shards is cut into its tokens. -/
theorem scan_shardClause (shardKeys : Option (List Int)) :
    scan (.between false) (shardClause shardKeys) = some (shardTokens shardKeys, .between false) := by
  match shardKeys with
  | none => rfl
  | some [] => rfl
  | some (key :: keys) =>
    have opened : scan (.between false) "AND shard_key = ANY(ARRAY[".toList =
        some ([word "AND", word "shard_key", operator "=", word "ANY", .mark '(', word "ARRAY",
          .mark '['], .between false) := by
      rw [toList_spelled rfl]
      rfl
    have closed : scan (.between false) [')'] = some ([.mark ')'], .between false) := rfl
    have spelled : shardClause (some (key :: keys)) =
        "AND shard_key = ANY(ARRAY[".toList ++ ((join (key :: keys) ++ [']']) ++ [')']) := by
      simp [shardClause]
    rw [spelled]
    exact scan_append opened (scan_append (scan_join (key :: keys)) closed)

/-- The clause about the region ends in its constant. -/
theorem scan_regionClause (region : String) (zeroless : '\x00' ∉ region.toList) :
    scan (.between false) (regionClause region) =
      some ([word "AND", word "region_id", operator "="], .closing region.toList) := by
  have opened : scan (.between false) "AND region_id = ".toList =
      some ([word "AND", word "region_id", operator "="], .between false) := by
    rw [toList_spelled rfl]
    rfl
  exact scan_append opened (scan_quote region.toList zeroless)

/-- The tokens of `atomicClaim`: those of a fixed statement with the filter in it. -/
theorem tokenize_atomicClaim {tableName region : String} (named : Plain tableName.toList)
    (zeroless : '\x00' ∉ region.toList) (shardKeys : Option (List Int)) :
    tokenize (atomicClaim tableName shardKeys region) =
      some (claimTokens tableName ++ (pendingTokens ++ (shardTokens shardKeys ++
        regionTokens region)) ++ tokens claimOrder) := by
  obtain ⟨update, -, pending, middles, tails⟩ := texts_read
  obtain ⟨setLine, set⟩ := middles claimSet (by simp)
  obtain ⟨whereLine, filtered⟩ := middles claimWhere (by simp)
  obtain ⟨line, -, behind, -⟩ := tails claimOrder (by simp)
  have gap : scan (.between false) claimGap.toList = some ([], .between false) := rfl
  have order : scan (.closing region.toList) claimOrder.toList =
      some (.constant region.toList :: tokens claimOrder, .between false) :=
    scan_ended rfl line behind
  have filter := scan_append pending (scan_append (scan_shardClause shardKeys)
    (scan_append gap (scan_append (scan_regionClause region zeroless) order)))
  have name := scan_plain named false
  have whole := scan_append update (scan_append name (scan_append (scan_ended rfl setLine set)
    (scan_append name (scan_append (scan_ended rfl whereLine filtered) filter))))
  have read := tokenize_eq whole rfl
  rw [atomicClaim, read, claimTokens, regionTokens]
  -- A step by definition would have the kernel cut the fixed lines into their tokens.
  simp -implicitDefEqProofs only [List.append_assoc, List.cons_append, List.nil_append,
    List.append_nil]

/-- The same for `claimOutboxBatch`. -/
theorem tokenize_claimOutboxBatch {aggregateType : Option String}
    (zeroless : ∀ text, aggregateType = some text → '\x00' ∉ text.toList) :
    tokenize (claimOutboxBatch aggregateType) =
      some (tokens outboxUpdate ++ (pendingTokens ++ aggregateTokens aggregateType) ++
        tokens outboxOrder) := by
  obtain ⟨-, update, pending, -, tails⟩ := texts_read
  obtain ⟨line, unfiltered, behind, -⟩ := tails outboxOrder (by simp)
  have plain : tokenize (outboxUpdate.toList ++ (claimPending.toList ++ outboxOrder.toList)) =
      some (tokens outboxUpdate ++ (pendingTokens ++ tokens outboxOrder) ++ []) :=
    tokenize_eq (scan_append update (scan_append pending unfiltered)) rfl
  rcases aggregateType with _ | text
  · simpa [claimOutboxBatch, aggregateClause, aggregateTokens] using plain
  · by_cases empty : text = ""
    · subst empty
      simpa [claimOutboxBatch, aggregateClause, aggregateTokens] using plain
    · have opened : scan (.between false) "AND aggregate_type = ".toList =
          some ([word "AND", word "aggregate_type", operator "="], .between false) := by
        rw [toList_spelled rfl]
        rfl
      have quoted := scan_append opened (scan_append (scan_quote text.toList (zeroless text rfl))
        (scan_ended rfl line behind))
      have whole := scan_append update (scan_append pending quoted)
      have read := tokenize_eq whole rfl
      have spelled : claimOutboxBatch (some text) = outboxUpdate.toList ++ (claimPending.toList ++
          ("AND aggregate_type = ".toList ++ (quote text.toList ++ outboxOrder.toList))) := by
        simp [claimOutboxBatch, aggregateClause]
      have counted : aggregateTokens (some text) =
          [word "AND", word "aggregate_type", operator "=", .constant text.toList] := by
        simp [aggregateTokens]
      rw [spelled, read, counted]
      simp

end Tokens

section Filters

/-- The conditions that the filters spell. -/
def pendingCondition : Condition := .equal (.column "status".toList) (.constant "pending".toList)

def dueCondition : Condition :=
  .either (.isNull (.column "run_after".toList)) (.atMost (.column "run_after".toList) .now)

def shardCondition (keys : List Int) : Condition := .equalAny (.column "shard_key".toList) keys

def regionCondition (region : String) : Condition :=
  .equal (.column "region_id".toList) (.constant region.toList)

def jobCondition : Option (List Int) → String → Condition
  | none, region | some [], region =>
    .both pendingCondition (.both dueCondition (regionCondition region))
  | some keys, region => .both pendingCondition (.both dueCondition
      (.both (shardCondition keys) (regionCondition region)))

/-- The filter ends where the rows are ordered. -/
def Ordered (rest : List Token) : Prop := rest.head? = some (word "ORDER")

variable {rest : List Token} {fuel : Nat}

/-- The text behind a filter goes on with no operator. -/
theorem Ordered.last (ordered : Ordered rest) :
    rest.head? ≠ some (word "AND") ∧ rest.head? ≠ some (word "OR") := by
  rw [ordered]
  decide

/-- The group of the two tests of the time. -/
theorem read_due (clauses : List Token) :
    readPrimary (fuel + 5) (pendingTokens.drop 4 ++ clauses) = some (dueCondition, clauses) := by
  have unset : readBoth (fuel + 3) (pendingTokens.drop 5 ++ clauses) =
      some (.isNull (.column "run_after".toList), pendingTokens.drop 8 ++ clauses) :=
    readBoth_last (readPrimary_test (by rintro ⟨⟩) readTest_isNull) (by rintro ⟨⟩)
  have due : readEither (fuel + 3) (pendingTokens.drop 9 ++ clauses) =
      some (.atMost (.column "run_after".toList) .now, .mark ')' :: clauses) :=
    readEither_last (readBoth_last (readPrimary_test (by rintro ⟨⟩) readTest_atMost_now)
      (by rintro ⟨⟩)) (by rintro ⟨⟩)
  exact readPrimary_group (readEither_or unset due)

/-- The test of the status is read first. -/
theorem read_status (clauses : List Token) : readPrimary (fuel + 1) (pendingTokens ++ clauses) =
    some (pendingCondition, pendingTokens.drop 3 ++ clauses) :=
  readPrimary_test (by rintro ⟨⟩) readTest_equal

/-- A filter without a clause. -/
theorem read_pending (ordered : Ordered rest) : readEither (fuel + 8) (pendingTokens ++ rest) =
    some (.both pendingCondition dueCondition, rest) :=
  readEither_last (readBoth_and (read_status rest) (readBoth_last (read_due rest) ordered.last.1))
    ordered.last.2

/-- A filter with more clauses. -/
theorem read_clauses {clauses : List Token} {others : Condition}
    (read : readBoth (fuel + 5) clauses = some (others, rest)) (ordered : Ordered rest) :
    readEither (fuel + 8) (pendingTokens ++ word "AND" :: clauses) =
      some (.both pendingCondition (.both dueCondition others), rest) :=
  readEither_last (readBoth_and (read_status _) (readBoth_and (read_due _) read)) ordered.last.2

/-- A clause that compares a column with a constant, at the end of a filter. -/
theorem read_constant (name : String) (content : List Char) (ordered : Ordered rest) :
    readBoth (fuel + 2) (word name :: operator "=" :: .constant content :: rest) =
      some (.equal (.column name.toList) (.constant content), rest) :=
  readBoth_last (readPrimary_test (by rintro ⟨⟩) readTest_equal) ordered.last.1

/-- The filter of `atomicClaim` is read as it is meant. -/
theorem read_jobFilter (shardKeys : Option (List Int)) (region : String) (ordered : Ordered rest) :
    readCondition (pendingTokens ++ (shardTokens shardKeys ++ regionTokens region) ++ rest) =
      some (jobCondition shardKeys region, rest) := by
  have plain (fuel : Nat) : readEither (fuel + 8) (pendingTokens ++ (regionTokens region ++ rest)) =
      some (jobCondition none region, rest) :=
    read_clauses (read_constant "region_id" region.toList ordered) ordered
  match shardKeys with
  | none => exact plain _
  | some [] => exact plain _
  | some (key :: keys) =>
    have length := listTokens_length (key :: keys) (by simp)
    obtain ⟨spare, fuel⟩ : ∃ spare, 4 * (pendingTokens ++ (shardTokens (some (key :: keys)) ++
        regionTokens region) ++ rest).length + 4 = (key :: keys).length + spare + 8 := by
      refine ⟨4 * (pendingTokens ++ (shardTokens (some (key :: keys)) ++ regionTokens region) ++
        rest).length + 4 - ((key :: keys).length + 8), ?_⟩
      simp only [List.length_append, shardTokens, pendingTokens, List.length_cons,
        List.length_nil] at length ⊢
      omega
    have clauses : readBoth ((key :: keys).length + spare + 5)
        ((shardTokens (some (key :: keys)) ++ regionTokens region ++ rest).tail) =
          some (.both (shardCondition (key :: keys)) (regionCondition region), rest) := by
      have spelled : (shardTokens (some (key :: keys)) ++ regionTokens region ++ rest).tail =
          word "shard_key" :: operator "=" :: word "ANY" :: .mark '(' :: word "ARRAY" ::
            .mark '[' :: (listTokens (key :: keys) ++ .mark ')' :: (regionTokens region ++ rest)) := by
        simp [shardTokens]
      rw [spelled]
      refine readBoth_and (readPrimary_test (by rintro ⟨⟩)
        (readTest_equalAny (key :: keys) (by simp) (spare + 3))) ?_
      exact read_constant "region_id" region.toList ordered
    rw [readCondition, fuel, List.append_assoc]
    exact read_clauses clauses ordered

def outboxCondition : Option String → Condition
  | none | some "" => .both pendingCondition dueCondition
  | some aggregateType => .both pendingCondition (.both dueCondition
      (.equal (.column "aggregate_type".toList) (.constant aggregateType.toList)))

/-- An aggregate type adds its test. -/
theorem outboxCondition_some {text : String} (given : text ≠ "") :
    outboxCondition (some text) = .both pendingCondition (.both dueCondition
      (.equal (.column "aggregate_type".toList) (.constant text.toList))) := by
  simp [outboxCondition]

/-- So is the filter of `claimOutboxBatch`. -/
theorem read_outboxFilter (aggregateType : Option String) (ordered : Ordered rest) :
    readCondition (pendingTokens ++ aggregateTokens aggregateType ++ rest) =
      some (outboxCondition aggregateType, rest) := by
  have plain (fuel : Nat) : readEither (fuel + 8) (pendingTokens ++ rest) =
      some (outboxCondition none, rest) := read_pending ordered
  rcases aggregateType with _ | text
  · exact plain _
  · by_cases empty : text = ""
    · subst empty
      exact plain _
    · have spelled : pendingTokens ++ aggregateTokens (some text) ++ rest = pendingTokens ++
          word "AND" :: word "aggregate_type" :: operator "=" :: .constant text.toList :: rest := by
        simp [aggregateTokens]
      rw [spelled, outboxCondition_some empty]
      exact read_clauses (read_constant "aggregate_type" text.toList ordered) ordered

end Filters

section Meaning

variable {columns : List Char → Value} {now : Time}

/-- A comparison of a column that has a text. -/
theorem holds_text {name content value : List Char} (stored : columns name = .text value) :
    (Condition.equal (.column name) (.constant content)).holds columns now =
      decide (value = content) := by
  simp only [Condition.holds, Condition.eval, Operand.value, stored, Value.equal, Value.text.injEq]
  cases decide (value = content) <;> rfl

/-- A row is due when its time has come, or it has none. -/
theorem holds_due {runAfter : Option Time}
    (stored : columns "run_after".toList = runAfter.elim .null .instant) :
    dueCondition.holds columns now = runAfter.all fun due => decide (due ≤ now) := by
  rw [dueCondition, holds_either]
  simp only [Condition.holds, Condition.eval, Operand.value, stored]
  cases runAfter with
  | none => rfl
  | some due =>
    simp only [Option.elim_some, Value.atMost, Option.all_some]
    cases decide (due ≤ now) <;> rfl

/-- It is in the list of shards. -/
theorem holds_shard {keys : List Int} {shardKey : Int}
    (stored : columns "shard_key".toList = .integer shardKey) :
    (shardCondition keys).holds columns now = decide (shardKey ∈ keys) := by
  simp only [shardCondition, Condition.holds, Condition.eval, Operand.value, stored, Value.equalAny]
  cases decide (shardKey ∈ keys) <;> rfl

/-- The filter of `atomicClaim` selects the rows that it claims. -/
theorem jobCondition_holds (request : JobEngine.ClaimRequest) (region : String)
    (row : JobEngine.JobRow) (now : Time) :
    (jobCondition request.shardKeys region).holds (jobColumns row) now =
      JobEngine.claimable request region now row := by
  have status : pendingCondition.holds (jobColumns row) now = decide (row.status = .pending) := by
    rw [pendingCondition, holds_text (if_pos rfl)]
    cases row.status <;> decide
  have due : dueCondition.holds (jobColumns row) now =
      row.runAfter.all fun due => decide (due ≤ now) :=
    holds_due ((if_neg (by decide)).trans (if_pos rfl))
  have here : (regionCondition region).holds (jobColumns row) now =
      decide (row.regionId = region) := by
    rw [regionCondition, holds_text ((if_neg (by decide)).trans ((if_neg (by decide)).trans
      ((if_neg (by decide)).trans (if_pos rfl))))]
    exact decide_eq_decide.mpr String.toList_inj
  have shard (keys : List Int) : (shardCondition keys).holds (jobColumns row) now =
      decide (row.shardKey ∈ keys) :=
    holds_shard ((if_neg (by decide)).trans ((if_neg (by decide)).trans (if_pos rfl)))
  unfold JobEngine.claimable
  match request.shardKeys with
  | none => simp [jobCondition, status, due, here, Bool.and_assoc]
  | some [] => simp [jobCondition, status, due, here, Bool.and_assoc]
  | some (key :: keys) =>
    simp only [jobCondition, holds_both, status, due, here, shard, Bool.and_assoc]

/-- The filter of `claimOutboxBatch` selects the rows that it claims. -/
theorem outboxCondition_holds (request : Outbox.ClaimRequest) (row : Outbox.OutboxRow) (now : Time) :
    (outboxCondition request.aggregateType).holds (outboxColumns row) now =
      Outbox.claimable request now row := by
  have status : pendingCondition.holds (outboxColumns row) now = decide (row.status = .pending) := by
    rw [pendingCondition, holds_text (if_pos rfl)]
    cases row.status <;> decide
  have due : dueCondition.holds (outboxColumns row) now =
      row.runAfter.all fun due => decide (due ≤ now) :=
    holds_due ((if_neg (by decide)).trans (if_pos rfl))
  have typed (text : String) :
      (Condition.equal (.column "aggregate_type".toList) (.constant text.toList)).holds
        (outboxColumns row) now = decide (row.aggregateType = text) := by
    rw [holds_text ((if_neg (by decide)).trans ((if_neg (by decide)).trans (if_pos rfl)))]
    exact decide_eq_decide.mpr String.toList_inj
  unfold Outbox.claimable
  rcases request.aggregateType with _ | text
  · simp [outboxCondition, status, due]
  · by_cases empty : text = ""
    · subst empty
      simp [outboxCondition, status, due]
    · rw [outboxCondition_some empty, holds_both, holds_both, status, due, typed]
      simp [Bool.and_assoc]

/-- The texts of the claims are those of two fixed statements with a filter in each. Whatever the
region, the shards and the aggregate type say, the filter is read as one condition that ends where
the fixed text goes on, and it selects exactly the rows that the model claims. -/
theorem claim_filters_exact {tableName region : String} (named : Plain tableName.toList)
    (request : JobEngine.ClaimRequest) (batch : Outbox.ClaimRequest)
    (zeroless : '\x00' ∉ region.toList)
    (batchZeroless : ∀ text, batch.aggregateType = some text → '\x00' ∉ text.toList) :
    (∃ filter condition,
      tokenize (atomicClaim tableName request.shardKeys region) =
        some (claimTokens tableName ++ filter ++ tokens claimOrder) ∧
      readCondition (filter ++ tokens claimOrder) = some (condition, tokens claimOrder) ∧
      ∀ row now, condition.holds (jobColumns row) now = JobEngine.claimable request region now row) ∧
    ∃ filter condition,
      tokenize (claimOutboxBatch batch.aggregateType) =
        some (tokens outboxUpdate ++ filter ++ tokens outboxOrder) ∧
      readCondition (filter ++ tokens outboxOrder) = some (condition, tokens outboxOrder) ∧
      ∀ row now, condition.holds (outboxColumns row) now = Outbox.claimable batch now row := by
  obtain ⟨-, -, -, -, tails⟩ := texts_read
  have claims : Ordered (tokens claimOrder) := (tails claimOrder (by simp)).2.2.2
  have batches : Ordered (tokens outboxOrder) := (tails outboxOrder (by simp)).2.2.2
  exact ⟨⟨_, _, tokenize_atomicClaim named zeroless request.shardKeys,
      read_jobFilter request.shardKeys region claims, jobCondition_holds request region⟩,
    ⟨_, _, tokenize_claimOutboxBatch batchZeroless,
      read_outboxFilter batch.aggregateType batches, outboxCondition_holds batch⟩⟩

/-- A region that tries to end its constant, and an aggregate type with an apostrophe. -/
theorem hostile_region_exact :
    ∃ filter condition,
      tokenize (atomicClaim "refund_jobs" (some [0, 1]) "x' OR 'a' = 'a") =
        some (claimTokens "refund_jobs" ++ filter ++ tokens claimOrder) ∧
      readCondition (filter ++ tokens claimOrder) = some (condition, tokens claimOrder) ∧
      ∀ row now, condition.holds (jobColumns row) now =
        JobEngine.claimable ⟨1, "worker", some [0, 1], none⟩ "x' OR 'a' = 'a" now row := by
  have named : Plain "refund_jobs".toList := by
    rw [toList_spelled rfl]
    decide +kernel
  exact (claim_filters_exact named ⟨1, "worker", some [0, 1], none⟩
    ⟨"worker", 1, some "traveller's booking"⟩ (by decide)
    (by
      rintro text ⟨⟩
      decide)).1

end Meaning

end PlanBuddy.ClaimStatements
