import PlanBuddy.Idempotency
import PlanBuddy.TextKeys

/-!
# Scoped idempotency keys

How `runIdempotency` names what it stores. The scoped key joins the user, the
method, the path and the raw key by colons and escapes nothing, so it is
unambiguous only where the first three hold no colon. The raw key may hold any.

On the routes that use `idempotency.strict` the method and the literal parts of a
path hold none. A path parameter is validated after it has been decoded, while the
key is built from the path as it was sent; but decoding takes no colon away, and a
UUID has none. Express matches literals without regard to case and ignores one
slash at the end, so one endpoint has several paths, each with its own keys.

The hash of the database key and the UUID schema are parameters. The body, whose
hash the database row carries for audit, is read by nothing and left out.
-/

namespace PlanBuddy.Idempotency

section Decoding

def hexDigit (char : Char) : Option Nat :=
  if '0' ≤ char ∧ char ≤ '9' then some (char.toNat - '0'.toNat)
  else if 'a' ≤ char ∧ char ≤ 'f' then some (char.toNat - 'a'.toNat + 10)
  else if 'A' ≤ char ∧ char ≤ 'F' then some (char.toNat - 'A'.toNat + 10)
  else none

/-- A character as it stands, or an octet written as an escape. -/
inductive Token where
  | plain (char : Char)
  | octet (value : Nat)

/-- An escape that is cut short or not hexadecimal is an error. -/
def tokens : List Char → Option (List Token)
  | [] => some []
  | '%' :: high :: low :: rest => do
    let high ← hexDigit high
    let low ← hexDigit low
    let rest ← tokens rest
    some (.octet (16 * high + low) :: rest)
  | '%' :: _ => none
  | char :: rest => (tokens rest).map (.plain char :: ·)

/-- A multi-octet character begun: how many octets it lacks, its value so far, and the
least value that needs that many. -/
structure Begun where
  missing : Nat
  value : Nat
  least : Nat

def begins (octet : Nat) : Option Begun :=
  if 0xC0 ≤ octet ∧ octet < 0xE0 then some ⟨1, octet - 0xC0, 0x80⟩
  else if 0xE0 ≤ octet ∧ octet < 0xF0 then some ⟨2, octet - 0xE0, 0x800⟩
  else if 0xF0 ≤ octet ∧ octet < 0xF8 then some ⟨3, octet - 0xF0, 0x10000⟩
  else none

/-- The octets of consecutive escapes have to be UTF-8. -/
def characters : Option Begun → List Token → Option (List Char)
  | none, [] => some []
  | none, .plain char :: rest => (characters none rest).map (char :: ·)
  | none, .octet value :: rest =>
    if value < 0x80 then (characters none rest).map (Char.ofNat value :: ·)
    else (begins value).bind fun begun => characters (some begun) rest
  | some begun, .octet value :: rest =>
    if 0x80 ≤ value ∧ value < 0xC0 then
      let code := begun.value * 64 + (value - 0x80)
      if 1 < begun.missing then
        characters (some { begun with missing := begun.missing - 1, value := code }) rest
      else if begun.least ≤ code ∧ code.isValidChar then
        (characters none rest).map (Char.ofNat code :: ·)
      else none
    else none
  | some _, _ => none

/-- `decodeURIComponent`, as Express applies it to path parameters. -/
def decodeURIComponent (text : List Char) : Option (List Char) :=
  (tokens text).bind (characters none)

/-- A character that is no part of an escape is a token of its own. -/
theorem plain_token {char : Char} (notEscape : char ≠ '%') (notHex : hexDigit char = none)
    {text : List Char} {read : List Token} (reads : tokens text = some read)
    (member : char ∈ text) : .plain char ∈ read := by
  induction text using tokens.induct generalizing read with
  | case1 => cases member
  | case2 high low rest inductionHypothesis =>
    simp only [tokens, Option.bind_eq_bind, Option.bind_eq_some_iff, Option.some.injEq] at reads
    obtain ⟨upper, isHigh, lower, isLow, later, remaining, rfl⟩ := reads
    have deeper : char ∈ rest := by
      have notHigh : char ≠ high := by
        rintro rfl
        rw [notHex] at isHigh
        cases isHigh
      have notLow : char ≠ low := by
        rintro rfl
        rw [notHex] at isLow
        cases isLow
      simpa [notEscape, notHigh, notLow] using member
    exact List.mem_cons_of_mem _ (inductionHypothesis remaining deeper)
  | case3 rest short => simp [tokens] at reads
  | case4 first rest notTriple notPair inductionHypothesis =>
    simp only [tokens, Option.map_eq_some_iff] at reads
    obtain ⟨later, remaining, rfl⟩ := reads
    rcases List.mem_cons.mp member with rfl | deeper
    · exact List.mem_cons_self
    · exact List.mem_cons_of_mem _ (inductionHypothesis remaining deeper)

/-- A plain token is decoded to itself. -/
theorem plain_character {char : Char} {read : List Token} (member : .plain char ∈ read)
    {begun : Option Begun} {decoded : List Char} (decodes : characters begun read = some decoded) :
    char ∈ decoded := by
  induction read generalizing begun decoded with
  | nil => cases member
  | cons token rest inductionHypothesis =>
    have behind : ∀ {first : Char} {begun : Option Begun}, .plain char ∈ rest →
        (characters begun rest).map (first :: ·) = some decoded → char ∈ decoded := by
      intro first begun deeper mapped
      obtain ⟨later, remaining, rfl⟩ := Option.map_eq_some_iff.mp mapped
      exact List.mem_cons_of_mem _ (inductionHypothesis deeper remaining)
    cases token with
    | plain first =>
      cases begun with
      | some begun => cases decodes
      | none =>
        rcases List.mem_cons.mp member with same | deeper
        · cases same
          obtain ⟨later, remaining, rfl⟩ := Option.map_eq_some_iff.mp decodes
          exact List.mem_cons_self
        · exact behind deeper decodes
    | octet value =>
      have deeper : .plain char ∈ rest := by simpa using member
      cases begun with
      | none =>
        simp only [characters] at decodes
        split at decodes
        · exact behind deeper decodes
        · obtain ⟨begun, _, remaining⟩ := Option.bind_eq_some_iff.mp decodes
          exact inductionHypothesis deeper remaining
      | some begun =>
        simp only [characters] at decodes
        split at decodes
        · split at decodes
          · exact inductionHypothesis deeper decodes
          · split at decodes
            · exact behind deeper decodes
            · cases decodes
        · cases decodes

/-- Decoding takes no colon away. -/
theorem colon_decoded {text decoded : List Char} (decodes : decodeURIComponent text = some decoded)
    (colon : ':' ∈ text) : ':' ∈ decoded := by
  obtain ⟨read, reads, decodes⟩ := Option.bind_eq_some_iff.mp decodes
  exact plain_character (plain_token (by decide) (by decide) reads colon) decodes

end Decoding

section Routes

/-- A path segment of a route: written out, or a parameter with a UUID schema. -/
inductive Segment where
  | literal (text : String)
  | parameter

/-- The paths that reach the middleware of a route. -/
inductive Admits (uuid : String → Bool) : List Segment → List Char → Prop
  | done : Admits uuid [] []
  | slash : Admits uuid [] ['/']
  | literal {text : String} {route : List Segment} {given rest : List Char}
      (matched : given.map Char.toLower = text.toList) (remaining : Admits uuid route rest) :
      Admits uuid (.literal text :: route) ('/' :: (given ++ rest))
  | parameter {route : List Segment} {given decoded rest : List Char} (nonempty : given ≠ [])
      (oneSegment : '/' ∉ given) (decodes : decodeURIComponent given = some decoded)
      (valid : uuid (String.ofList decoded) = true) (remaining : Admits uuid route rest) :
      Admits uuid (.parameter :: route) ('/' :: (given ++ rest))

/-- The routes behind `idempotency.strict`. All of them are POST routes. -/
def strictRoutes : List (List Segment) :=
  [[.literal "bookings", .parameter, .literal "cancel"],
    [.literal "payment", .literal "create-order"],
    [.literal "payment", .literal "verify"],
    [.literal "admin", .literal "payments", .parameter, .literal "reconcile"]]

/-- A UUID is written in hexadecimal digits and hyphens. -/
def WritesUuids (uuid : String → Bool) : Prop :=
  ∀ text, uuid text = true → ∀ char ∈ text.toList, (hexDigit char).isSome = true ∨ char = '-'

/-- No colon gets into a path, be it encoded or not. -/
theorem admits_colon {uuid : String → Bool} (writes : WritesUuids uuid) {route : List Segment}
    (plain : ∀ text, .literal text ∈ route → ':' ∉ text.toList) {path : List Char}
    (admits : Admits uuid route path) : ':' ∉ path := by
  induction admits with
  | done | slash => decide
  | literal matched remaining inductionHypothesis =>
    have later := inductionHypothesis fun text member => plain text (List.mem_cons_of_mem _ member)
    have here := plain _ List.mem_cons_self
    rw [← matched] at here
    simp only [List.mem_cons, List.mem_append, not_or]
    refine ⟨by decide, ?_, later⟩
    intro colon
    exact here (List.mem_map.mpr ⟨':', colon, rfl⟩)
  | parameter nonempty oneSegment decodes valid remaining inductionHypothesis =>
    have later := inductionHypothesis fun text member => plain text (List.mem_cons_of_mem _ member)
    simp only [List.mem_cons, List.mem_append, not_or]
    refine ⟨by decide, ?_, later⟩
    intro colon
    have inside := writes _ valid ':' (by simpa using colon_decoded decodes colon)
    exact absurd inside (by decide)

end Routes

section Keys

/-- What the middleware reads of a request. -/
structure Request where
  userId : Option String
  method : String
  path : String
  idempotencyKey : Option String

/-- White space and line ends, as `String.prototype.trim` has them. -/
def isSpace (char : Char) : Bool :=
  char.toNat ∈ [0x9, 0xA, 0xB, 0xC, 0xD, 0x20, 0xA0, 0x1680, 0x2028, 0x2029, 0x202F, 0x205F, 0x3000,
    0xFEFF] || (decide (0x2000 ≤ char.toNat) && decide (char.toNat ≤ 0x200A))

def trim (text : String) : String :=
  String.ofList ((text.toList.dropWhile isSpace).reverse.dropWhile isSpace).reverse

def keyRequired : Response :=
  ⟨400, .obj [("success", .bool false), ("code", .str "IDEMPOTENCY_KEY_REQUIRED"),
    ("message", .str
      "Idempotency-Key header is required for this endpoint to prevent duplicate processing.")]⟩

def invalidKey : Response :=
  ⟨400, .obj [("success", .bool false), ("code", .str "INVALID_IDEMPOTENCY_KEY"),
    ("message", .str "Idempotency-Key must be a string of 255 characters or fewer.")]⟩

/-- The header checks of `idempotencyStrict`, and the raw key it passes on. Headers are
Latin-1, so a character is one unit of length. -/
def Request.rawKey (request : Request) : Except Response String :=
  match request.idempotencyKey with
  | none => .error keyRequired
  | some rawKey =>
    if trim rawKey = "" then .error keyRequired
    else if 255 < rawKey.length then .error invalidKey
    else .ok (trim rawKey)

/-- `req.user?.id || 'anon'`. -/
def Request.user (request : Request) : String :=
  (request.userId.filter (fun id => id ≠ "")).getD "anon"

def Request.endpoint (request : Request) : String := request.method ++ ":" ++ request.path

def Request.scopedKey (request : Request) (rawKey : String) : String :=
  request.user ++ ":" ++ request.endpoint ++ ":" ++ rawKey

def doneKey (scopedKey : String) : String := "idempotency:done:" ++ scopedKey

def lockKey (scopedKey : String) : String := "idempotency:lock:" ++ scopedKey

/-- `hash` is the hexadecimal SHA-256 of a text. -/
def dbKey (hash : String → String) (scopedKey : String) : String := "idempotency:" ++ hash scopedKey

/-- An authenticated request that a strict route lets through to the middleware. User
ids hold no colon. -/
structure Reaches (uuid : String → Bool) (request : Request) : Prop where
  authenticated : ∃ id, request.userId = some id ∧ id ≠ "" ∧ ':' ∉ id.toList
  posted : request.method = "POST"
  routed : ∃ route ∈ strictRoutes, Admits uuid route request.path.toList

/-- A path that reaches the store has no colon. -/
theorem reaches_path {uuid : String → Bool} (writes : WritesUuids uuid) {request : Request}
    (reaches : Reaches uuid request) : ':' ∉ request.path.toList := by
  obtain ⟨route, member, admits⟩ := reaches.routed
  refine admits_colon writes ?_ admits
  have plain : ∀ route ∈ strictRoutes, ∀ text, .literal text ∈ route → ':' ∉ text.toList := by
    simp [strictRoutes]
  exact plain route member

/-- On the strict routes a scoped key determines the user, the endpoint and the raw key:
what comes before each of the first three colons holds none, and the raw key comes last. -/
theorem scopedKey_injective {uuid : String → Bool} (writes : WritesUuids uuid)
    {one other : Request} (reachesOne : Reaches uuid one) (reachesOther : Reaches uuid other)
    {rawKey otherKey : String} (same : one.scopedKey rawKey = other.scopedKey otherKey) :
    one.userId = other.userId ∧ one.method = other.method ∧ one.path = other.path ∧
      rawKey = otherKey := by
  obtain ⟨id, isId, present, plain⟩ := reachesOne.authenticated
  obtain ⟨otherId, isOtherId, otherPresent, otherPlain⟩ := reachesOther.authenticated
  have user : one.user = id := by simp [Request.user, isId, Option.filter, present]
  have otherUser : other.user = otherId := by
    simp [Request.user, isOtherId, Option.filter, otherPresent]
  have joined : id.toList ++ ':' :: ("POST".toList ++ ':' :: (one.path.toList ++ ':' ::
      rawKey.toList)) = otherId.toList ++ ':' :: ("POST".toList ++ ':' :: (other.path.toList ++
        ':' :: otherKey.toList)) := by
    have lists := congrArg String.toList same
    simpa [Request.scopedKey, Request.endpoint, user, otherUser, reachesOne.posted,
      reachesOther.posted] using lists
  obtain ⟨ids, joined⟩ := TextKeys.cut_unique plain otherPlain joined
  obtain ⟨-, joined⟩ := TextKeys.cut_unique (by decide) (by decide) joined
  obtain ⟨paths, keys⟩ := TextKeys.cut_unique (reaches_path writes reachesOne)
    (reaches_path writes reachesOther) joined
  rw [isId, isOtherId, reachesOne.posted, reachesOther.posted, String.toList_injective ids]
  exact ⟨rfl, rfl, String.toList_injective paths, String.toList_injective keys⟩

/-- Keys of responses are told apart. -/
theorem doneKey_injective {one other : String} (same : doneKey one = doneKey other) :
    one = other :=
  (String.append_right_inj _).mp same

/-- So are keys of locks. -/
theorem lockKey_injective {one other : String} (same : lockKey one = lockKey other) :
    one = other :=
  (String.append_right_inj _).mp same

/-- So are keys of rows, as long as the hash has no collisions. -/
theorem dbKey_injective {hash : String → String} (injective : Function.Injective hash)
    {one other : String} (same : dbKey hash one = dbKey hash other) : one = other :=
  injective ((String.append_right_inj _).mp same)

/-- No lock is set under a key that holds a response: the two differ in the thirteenth
character. -/
theorem doneKey_ne_lockKey (one other : String) : doneKey one ≠ lockKey other := by
  intro same
  have characters := congrArg (fun key => key.toList[12]?) same
  have done : ("idempotency:done:" ++ one).toList[12]? = some 'd' := by
    rw [String.toList_append, List.getElem?_append_left (by decide)]
    decide
  have lock : ("idempotency:lock:" ++ other).toList[12]? = some 'l' := by
    rw [String.toList_append, List.getElem?_append_left (by decide)]
    decide
  exact absurd (done.symm.trans (characters.trans lock)) (by decide)

end Keys

end PlanBuddy.Idempotency
