import PlanBuddy.Idempotency
import PlanBuddy.JsonText

/-!
# Replayed bodies

A response under an idempotency key is kept twice: as one text in Redis, with its status, and
as the text of its body in a JSONB column, which `pg` returns parsed. The Redis path parses its
text once. The database path parses a body once more when it is a string, so a string that is
itself a JSON text is replayed as what that text stands for, and any other string cannot be
replayed at all.

A status is a number of the language. The column holds the value of its text.
-/

namespace PlanBuddy.ReplayBodies

open JsonText

variable {Number : Type} (numerals : Numerals Number) (code : Nat → Number)

section Model

/-- What `res.status(…).json(…)` is called with. -/
structure Reply (Number : Type) where
  status : Value Number
  body : Value Number

/-- What is written for a response: the value of its done key, and two columns of its row. -/
structure Captured (Number : Type) where
  payload : Text
  responseCode : Number
  responseBody : Option (Value Number)

/-- `{ status, body }`. -/
def envelope (status : Nat) (body : Value Number) : Value Number :=
  .obj [(text "status", .num (code status)), (text "body", body)]

/-- `captureIdempotentResponse`, for the responses that it keeps. -/
def captureIdempotentResponse (status : Nat) (body : Value Number) : Option (Captured Number) :=
  if 200 ≤ status ∧ status < 300 then
    some {
      payload := stringify numerals (envelope code status body)
      responseCode := code status
      responseBody := parse numerals (stringify numerals body) }
  else none

/-- The reply from the done key; a payload that is no JSON is corrupt. -/
def replayCached (cached : Text) : Option (Reply Number) :=
  match parse numerals cached with
  | some (.obj fields) => do
    let status ← fields.lookup (text "status")
    let body ← fields.lookup (text "body")
    some ⟨status, body⟩
  | _ => none

/-- `typeof dbRow.response_body === 'string' ? JSON.parse(…) : …`. -/
def rowBody : Value Number → Option (Value Number)
  | .str value => parse numerals value
  | body => some body

/-- The reply from the row; a body that cannot be parsed is corrupt. -/
def replayRow (captured : Captured Number) : Option (Reply Number) := do
  let stored ← captured.responseBody
  let body ← rowBody numerals stored
  some ⟨.num captured.responseCode, body⟩

/-- The original response. -/
def original (status : Nat) (body : Value Number) : Reply Number := ⟨.num (code status), body⟩

end Model

section Replays

variable {numerals} {code} {status : Nat} {body : Value Number} {captured : Captured Number}

/-- The Redis path replays every response as it was. -/
theorem replayCached_original (finite : numerals.finite (code status))
    (printable : Printable numerals body)
    (captures : captureIdempotentResponse numerals code status body = some captured) :
    replayCached numerals captured.payload = some (original code status body) := by
  obtain ⟨-, same⟩ := Option.ite_none_right_eq_some.mp captures
  cases same
  have distinct : [text "status", text "body"].Nodup := by decide
  have whole : Printable numerals (envelope code status body) :=
    ⟨distinct, finite, printable, trivial⟩
  have different : (text "body" == text "status") = false := by decide
  rw [replayCached, parse_stringify whole]
  simp [envelope, List.lookup_cons, different, original]

/-- The column holds the body. -/
theorem captured_row (printable : Printable numerals body)
    (captures : captureIdempotentResponse numerals code status body = some captured) :
    captured.responseCode = code status ∧ captured.responseBody = some body := by
  obtain ⟨-, same⟩ := Option.ite_none_right_eq_some.mp captures
  cases same
  exact ⟨rfl, parse_stringify printable⟩

/-- A body is taken from its row as it is unless it is a string; a string is never what its own
text stands for. -/
theorem rowBody_self_iff :
    (∀ replayed, rowBody numerals body = some replayed → replayed = body) ↔
      ∀ value, body = .str value → parse numerals value = none := by
  constructor
  · rintro exact value rfl
    cases found : parse numerals value with
    | none => rfl
    | some replayed =>
      have longer := parse_str_length (exact replayed found ▸ found)
      exact absurd longer (Nat.lt_irrefl _)
  · intro plain replayed found
    cases body with
    | str value =>
      rw [rowBody, plain value rfl] at found
      cases found
    | null | bool _ | num _ | arr _ | obj _ => exact (Option.some.inj found).symm

/-- Both paths replay a response as it was exactly when its body is no string that is itself a
JSON text. The Redis path does so in any case. -/
theorem replay_original_iff (success : 200 ≤ status ∧ status < 300)
    (finite : numerals.finite (code status)) (printable : Printable numerals body) :
    ∃ captured, captureIdempotentResponse numerals code status body = some captured ∧
      replayCached numerals captured.payload = some (original code status body) ∧
      ((∀ reply, replayRow numerals captured = some reply →
          some reply = replayCached numerals captured.payload) ↔
        ∀ value, body = .str value → parse numerals value = none) := by
  have captures : captureIdempotentResponse numerals code status body = some _ := if_pos success
  obtain ⟨isCode, isBody⟩ := captured_row printable captures
  have cached := replayCached_original finite printable captures
  refine ⟨_, captures, cached, ?_⟩
  rw [cached, ← rowBody_self_iff]
  constructor
  · intro replays replayed found
    have reply := replays ⟨.num (code status), replayed⟩ (by
      rw [replayRow, isCode, isBody]
      simp [found])
    cases Option.some.inj reply
    rfl
  · intro same reply found
    rw [replayRow, isCode, isBody] at found
    obtain ⟨stored, isStored, more⟩ := Option.bind_eq_some_iff.mp found
    cases isStored
    obtain ⟨replayed, read, isReply⟩ := Option.bind_eq_some_iff.mp more
    cases isReply
    rw [same replayed read]
    rfl

end Replays

section Requests

variable (units : String → Text) (number : Rat → Number)

mutual

/-- A body of the requests' model, over code units. -/
def view : Json → Value Number
  | .null => .null
  | .bool value => .bool value
  | .num value => .num (number value)
  | .str value => .str (units value)
  | .arr items => .arr (viewItems items)
  | .obj fields => .obj (viewFields fields)

def viewItems : List Json → List (Value Number)
  | [] => []
  | item :: items => view item :: viewItems items

def viewFields : List (String × Json) → List (Text × Value Number)
  | [] => []
  | (key, value) :: fields => (units key, view value) :: viewFields fields

end

variable {units number}

/-- The requests' model replays a row with the same body. -/
theorem rowBody_view {parseString : String → Option Json}
    (parses : ∀ value, parse numerals (units value) = (parseString value).map (view units number))
    (body : Json) :
    rowBody numerals (view units number body) =
      (Idempotency.rowBody parseString body).map (view units number) := by
  cases body with
  | str value => exact parses value
  | null | bool _ | num _ | arr _ | obj _ => rfl

end Requests

section Sample

/-- Decimals, as far as they are used here. -/
def decimals : Numerals Nat where
  write number := text number.repr
  read numeral := numeral.foldl (fun number digit => 10 * number + (digit.toNat - 48)) 0
  finite number := number ∈ [123, 200, 201]
  wellFormed := by decide
  within := by decide
  read_write := by decide

/-- A created booking is replayed by both paths. -/
theorem replay_original_iff_booking :
    let body : Value Nat := .obj [(text "success", .bool true), (text "id", .num 123)]
    ∃ captured, captureIdempotentResponse decimals id 201 body = some captured ∧
      replayCached decimals captured.payload = some (original id 201 body) ∧
      ((∀ reply, replayRow decimals captured = some reply →
          some reply = replayCached decimals captured.payload) ↔
        ∀ value, body = .str value → parse decimals value = none) := by
  refine replay_original_iff (by decide) ?_ ⟨by decide, trivial, ?_, trivial⟩
  · show (201 : Nat) ∈ [123, 200, 201]
    decide
  · show (123 : Nat) ∈ [123, 200, 201]
    decide

/-- The string 123 is replayed from its row as a number. -/
theorem row_replays_number :
    ¬ ∀ (status : Nat) (body : Value Nat) (captured : Captured Nat) (reply : Reply Nat),
      captureIdempotentResponse decimals id status body = some captured →
        replayRow decimals captured = some reply → reply = original id status body := by
  intro exact
  have finite : Printable decimals (.num 123) := (by decide : (123 : Nat) ∈ [123, 200, 201])
  have number : parse decimals (text "123") = some (.num 123) := parse_stringify finite
  have captures : captureIdempotentResponse decimals id 200 (.str (text "123")) = some _ :=
    if_pos (by decide)
  have printable : Printable decimals (.str (text "123")) := trivial
  obtain ⟨isCode, isBody⟩ := captured_row printable captures
  have same := exact 200 _ _ ⟨.num 200, .num 123⟩ captures (by
    rw [replayRow, isCode, isBody]
    simp [rowBody, number])
  have bodies : Value.num 123 = Value.str (text "123") := congrArg Reply.body same
  cases bodies

end Sample

end PlanBuddy.ReplayBodies
