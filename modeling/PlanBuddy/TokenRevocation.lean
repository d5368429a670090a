import PlanBuddy.Runs
import PlanBuddy.Table
import Mathlib.Data.List.Infix

/-!
# Token revocation

The stores of `utils/jwt.js` and `middleware/index.js`: the keys in Redis, the blacklist and
`password_changed_at`. A revocation of all tokens of a user leaves a mark in Redis and a row
under a made-up id in the blacklist; a token compares its time of issue with each.

An instant is a number of microseconds, as in the database; a Date has milliseconds and a
token seconds. A key in Redis is there until the instant that its lifetime gives. Both stores
are available and every INSERT of a mark adds its row, which is to say that its random id is
new. An issue changes no store. The controllers follow each change of a password with a
revocation of all tokens.
-/

namespace PlanBuddy.TokenRevocation

universe u
variable {υ : Type u}

section Patterns

/-- The parts of a pattern of `LIKE`. -/
inductive Wildcard where
  | any
  | one
  | exactly (char : Char)
deriving DecidableEq

def wildcard (char : Char) : Wildcard :=
  if char = '%' then .any else if char = '_' then .one else .exactly char

/-- `LIKE`, without escapes. -/
def like : List Wildcard → List Char → Bool
  | [], text => text.isEmpty
  | .any :: pattern, text => text.tails.any (like pattern)
  | .one :: pattern, text => !text.isEmpty && like pattern text.tail
  | .exactly char :: pattern, text => decide (text.head? = some char) && like pattern text.tail

/-- A percent sign matches all. -/
theorem like_any (text : List Char) : like [.any] text = true := by
  rw [like, List.any_eq_true]
  exact ⟨[], (List.mem_tails ..).mpr List.nil_suffix, rfl⟩

def markerPattern : List Wildcard := "revoke_all_%".toList.map wildcard

/-- The pattern of markers starts with a letter. -/
theorem pattern_head : ∃ rest, markerPattern = .exactly 'r' :: rest := ⟨_, rfl⟩

/-- The made-up id of a revocation of all tokens. -/
def markerJti (suffix : List Char) : List Char := "revoke_all_".toList ++ suffix

/-- A marker is like the pattern. -/
theorem marker_like (suffix : List Char) : like markerPattern (markerJti suffix) = true := by
  have rest : like markerPattern (markerJti suffix) = like [.any] suffix := rfl
  rw [rest, like_any]

/-- What `crypto.randomUUID` returns. -/
structure Uuid where
  text : List Char
  nonempty : text ≠ []
  digits : ∀ char ∈ text, char ∈ "0123456789abcdef-".toList

/-- The id of a token is not read as that of a mark. -/
theorem uuid_unlike (uuid : Uuid) : like markerPattern uuid.text = false := by
  obtain ⟨text, nonempty, digits⟩ := uuid
  cases text with
  | nil => exact absurd rfl nonempty
  | cons head text =>
    have different : ¬ head = 'r' := by
      rintro rfl
      have digit := digits 'r' (List.mem_cons_self ..)
      revert digit
      decide
    obtain ⟨rest, starts⟩ := pattern_head
    rw [starts, like]
    simp [different]

end Patterns

section Model

/-- The value of a Date. -/
def milliseconds (instant : Nat) : Nat := instant / 1000

structure Token (υ : Type u) where
  jti : Uuid
  userId : υ
  issuedAt : Nat

def Token.iat (token : Token υ) : Nat := token.issuedAt / 1000000

structure BlacklistRow (υ : Type u) where
  jti : List Char
  userId : υ
  createdAt : Nat

/-- The key `jwt:revoked_all:` of a user, up to the end of its lifetime. -/
structure Marker where
  revokedAt : Nat
  endsAt : Nat

structure Stores (υ : Type u) where
  /-- When the key `jwt:blacklist:` of an id ends, if it was set. -/
  blacklisted : List Char → Option Nat
  revokedAll : υ → Option Marker
  tokenBlacklist : Table (BlacklistRow.jti (υ := υ))
  passwordChangedAt : υ → Option Nat

def Stores.empty : Stores υ := ⟨fun _ => none, fun _ => none, Table.empty, fun _ => none⟩

variable [DecidableEq υ]

/-- `revokeToken`, with the time of the INSERT and the end of the key, which is not set for a
lifetime of 0. -/
def revokeToken (jti : List Char) (userId : υ) (createdAt : Nat)
    (endsAt : Option Nat) (stores : Stores υ) : Stores υ :=
  if jti = [] then stores
  else { stores with
    tokenBlacklist := (stores.tokenBlacklist.insert ⟨jti, userId, createdAt⟩).1
    blacklisted := if endsAt.isSome then Function.update stores.blacklisted jti endsAt
      else stores.blacklisted }

/-- `revokeAllUserTokens`, with the times of the key and of the INSERT. -/
def revokeAllUserTokens (userId : υ) (markedAt : Nat) (suffix : List Char)
    (createdAt endsAt : Nat) (stores : Stores υ) : Stores υ :=
  { stores with
    revokedAll := Function.update stores.revokedAll userId (some ⟨milliseconds markedAt, endsAt⟩)
    tokenBlacklist :=
      (stores.tokenBlacklist.insert ⟨markerJti suffix, userId, createdAt⟩).1 }

/-- The UPDATE of a new password. -/
def changePassword (userId : υ) (changedAt : Nat) (stores : Stores υ) : Stores υ :=
  { stores with
    passwordChangedAt := Function.update stores.passwordChangedAt userId (some changedAt) }

def isRevoked (now : Nat) (jti : List Char) (userId : υ) (iat : Option Nat)
    (stores : Stores υ) : Bool :=
  if jti = [] then false
  else if (stores.blacklisted jti).any (fun endsAt => decide (now < endsAt)) then true
  else if (stores.revokedAll userId).any (fun marker => decide (now < marker.endsAt) &&
    match iat with
    | some iat => decide (iat * 1000 ≤ marker.revokedAt)
    | none => true) then true
  else if (stores.tokenBlacklist.lookup jti).isSome then true
  else stores.tokenBlacklist.rows.any fun row =>
    decide (row.userId = userId) && like markerPattern row.jti &&
      match iat with
      | some iat => decide (iat * 1000000 < row.createdAt)
      | none => true

def isTokenBeforePasswordChange (userId : υ) (tokenIat : Nat) (stores : Stores υ) : Bool :=
  (stores.passwordChangedAt userId).any fun changedAt =>
    decide (tokenIat * 1000 < milliseconds changedAt)

/-- Checks 3 and 4 of `authenticate`. The second is left out for a token of time 0. -/
def rejected (now : Nat) (token : Token υ) (stores : Stores υ) : Bool :=
  isRevoked now token.jti.text token.userId (some token.iat) stores ||
    decide (token.iat ≠ 0) && isTokenBeforePasswordChange token.userId token.iat stores

/-- What a history has of the writes. -/
inductive Event (υ : Type u) where
  | revoked (jti : List Char)
  /-- A row of `revokeToken` whose id is read as that of a mark. -/
  | mimicked (userId : υ) (createdAt : Nat)
  | revokedAll (userId : υ) (markedAt createdAt endsAt : Nat)
  | passwordChanged (userId : υ) (changedAt : Nat)

/-- What a call of `revokeToken` does. -/
def revocations (jti : List Char) (userId : υ) (createdAt : Nat) (stores : Stores υ) :
    List (Event υ) :=
  if jti = [] then []
  else if like markerPattern jti ∧ stores.tokenBlacklist.lookup jti = none then
    [.revoked jti, .mimicked userId createdAt]
  else [.revoked jti]

inductive Step : Stores υ → List (Event υ) → Stores υ → Prop
  | revokeToken (stores : Stores υ) (jti : List Char) (userId : υ) (createdAt : Nat)
      (endsAt : Option Nat) :
      Step stores (revocations jti userId createdAt stores)
        (revokeToken jti userId createdAt endsAt stores)
  | revokeAllUserTokens (stores : Stores υ) (userId : υ) (markedAt : Nat)
      (suffix : List Char) (createdAt endsAt : Nat)
      (written : stores.tokenBlacklist.lookup (markerJti suffix) = none) :
      Step stores [.revokedAll userId markedAt createdAt endsAt]
        (revokeAllUserTokens userId markedAt suffix createdAt endsAt stores)
  | changePassword (stores : Stores υ) (userId : υ) (changedAt : Nat) :
      Step stores [.passwordChanged userId changedAt] (changePassword userId changedAt stores)

end Model

section Histories

/-- A row of the user that is read as a mark. -/
def Marks (history : List (Event υ)) (userId : υ) (createdAt : Nat) : Prop :=
  .mimicked userId createdAt ∈ history ∨
    ∃ markedAt endsAt, .revokedAll userId markedAt createdAt endsAt ∈ history

variable {history : List (Event υ)} {stores : Stores υ}

/-- The rows after an insertion that a row under the same key prevents. -/
theorem mem_inserted {row stored : BlacklistRow υ} :
    stored ∈ (stores.tokenBlacklist.insert row).1.rows ↔
      stored ∈ stores.tokenBlacklist.rows ∨
        stores.tokenBlacklist.lookup row.jti = none ∧ stored = row := by
  cases found : stores.tokenBlacklist.lookup row.jti with
  | some old => simp [Table.insert_conflict found]
  | none => simp [Table.insert_fresh found]

/-- The keys after it. -/
theorem lookup_inserted {row : BlacklistRow υ} {jti : List Char} :
    ((stores.tokenBlacklist.insert row).1.lookup jti).isSome = true ↔
      row.jti = jti ∨ (stores.tokenBlacklist.lookup jti).isSome = true := by
  rw [Table.lookup_insert]
  split
  · next same => simp [same]
  · next different => simp [different]

/-- A revocation with a key revokes that token. -/
theorem mem_revoked {jti other : List Char} {userId : υ} {createdAt : Nat} :
    .revoked other ∈ revocations jti userId createdAt stores ↔ jti ≠ [] ∧ other = jti := by
  unfold revocations
  split
  · next empty => simp [empty]
  · next nonempty => split <;> simp [nonempty]

/-- A key that looks like a marker is taken for one, unless it was there. -/
theorem mem_mimicked {jti : List Char} {userId user : υ} {createdAt time : Nat} :
    .mimicked user time ∈ revocations jti userId createdAt stores ↔
      jti ≠ [] ∧ (like markerPattern jti = true ∧ stores.tokenBlacklist.lookup jti = none) ∧
        user = userId ∧ time = createdAt := by
  unfold revocations
  split
  · next empty => simp [empty]
  · next nonempty =>
    split
    · next fresh => simp [nonempty, fresh]
    · next other => simp [nonempty, other]

variable [DecidableEq υ]

def Event.marker (userId : υ) : Event υ → Option (Nat × Nat)
  | .revokedAll user markedAt _ endsAt => if user = userId then some (markedAt, endsAt) else none
  | _ => none

def Event.change (userId : υ) : Event υ → Option Nat
  | .passwordChanged user changedAt => if user = userId then some changedAt else none
  | _ => none

/-- The last revocation of all tokens: when it was marked, and until when. -/
def lastMarker (history : List (Event υ)) (userId : υ) : Option (Nat × Nat) :=
  (history.filterMap (Event.marker userId)).getLast?

def lastChange (history : List (Event υ)) (userId : υ) : Option Nat :=
  (history.filterMap (Event.change userId)).getLast?

/-- What the stores hold after a history. -/
structure Recorded (history : List (Event υ)) (stores : Stores υ) : Prop where
  keys : ∀ jti endsAt, stores.blacklisted jti = some endsAt → .revoked jti ∈ history
  stored : ∀ jti, .revoked jti ∈ history → (stores.tokenBlacklist.lookup jti).isSome = true
  rows : ∀ row ∈ stores.tokenBlacklist.rows,
    .revoked row.jti ∈ history ∨ like markerPattern row.jti = true
  marks : ∀ userId createdAt, (∃ row ∈ stores.tokenBlacklist.rows, row.userId = userId ∧
    like markerPattern row.jti = true ∧ row.createdAt = createdAt) ↔ Marks history userId createdAt
  markers : ∀ userId, stores.revokedAll userId =
    (lastMarker history userId).map fun marker => ⟨milliseconds marker.1, marker.2⟩
  changes : ∀ userId, stores.passwordChangedAt userId = lastChange history userId

/-- Empty stores record an empty history. -/
theorem empty_recorded : Recorded [] (Stores.empty : Stores υ) := by
  constructor <;> simp [Stores.empty, Table.empty, Marks, lastMarker, lastChange]

/-- A call of `revokeToken` marks and changes nothing else. -/
theorem revocations_other {jti : List Char} {userId : υ} {createdAt : Nat} {event : Event υ}
    (member : event ∈ revocations jti userId createdAt stores) :
    (∀ user, event.marker user = none ∧ event.change user = none) ∧
      ∀ user markedAt time endsAt, event ≠ .revokedAll user markedAt time endsAt := by
  unfold revocations at member
  split at member
  · cases member
  · split at member
    · rcases List.mem_pair.mp member with rfl | rfl <;> simp [Event.marker, Event.change]
    · obtain rfl := List.mem_singleton.mp member
      simp [Event.marker, Event.change]

/-- A revocation is recorded. -/
theorem revokeToken_recorded (recorded : Recorded history stores) (jti : List Char) (userId : υ)
    (createdAt : Nat) (endsAt : Option Nat) :
    Recorded (history ++ revocations jti userId createdAt stores)
      (revokeToken jti userId createdAt endsAt stores) := by
  by_cases empty : jti = []
  · simpa [revocations, revokeToken, empty] using recorded
  have others : ∀ user, (revocations jti userId createdAt stores).filterMap (Event.marker user) = [] ∧
      (revocations jti userId createdAt stores).filterMap (Event.change user) = [] := by
    intro user
    simp only [List.filterMap_eq_nil_iff]
    exact ⟨fun event member => ((revocations_other member).1 user).1,
      fun event member => ((revocations_other member).1 user).2⟩
  constructor
  · intro other time key
    rw [List.mem_append, mem_revoked]
    by_cases same : other = jti
    · exact .inr ⟨empty, same⟩
    · refine .inl (recorded.keys other time ?_)
      simp only [revokeToken, empty, ↓reduceIte] at key
      split at key
      · simpa [Function.update_of_ne same] using key
      · exact key
  · intro other revoked
    rw [List.mem_append, mem_revoked] at revoked
    simp only [revokeToken, empty, ↓reduceIte]
    rw [lookup_inserted]
    rcases revoked with before | ⟨-, rfl⟩
    · exact .inr (recorded.stored other before)
    · exact .inl rfl
  · intro row member
    simp only [revokeToken, empty, ↓reduceIte] at member
    rw [List.mem_append, mem_revoked]
    rcases mem_inserted.mp member with before | ⟨-, rfl⟩
    · exact (recorded.rows row before).imp_left .inl
    · exact .inl (.inr ⟨empty, rfl⟩)
  · intro user time
    have unmarked : ∀ markedAt endsAt, .revokedAll user markedAt time endsAt ∉
        revocations jti userId createdAt stores := by
      intro markedAt endsAt member
      exact (revocations_other member).2 user markedAt time endsAt rfl
    simp only [revokeToken, empty, ↓reduceIte, mem_inserted, or_and_right, exists_or,
      recorded.marks, Marks, List.mem_append, mem_mimicked, unmarked, or_false]
    constructor
    · rintro ((mimicked | marked) | ⟨row, ⟨fresh, rfl⟩, rfl, pattern, rfl⟩)
      · exact .inl (.inl mimicked)
      · exact .inr marked
      · exact .inl (.inr ⟨empty, ⟨pattern, fresh⟩, rfl, rfl⟩)
    · rintro ((mimicked | ⟨-, ⟨pattern, fresh⟩, rfl, rfl⟩) | marked)
      · exact .inl (.inl mimicked)
      · exact .inr ⟨_, ⟨fresh, rfl⟩, rfl, pattern, rfl⟩
      · exact .inl (.inr marked)
  · intro user
    simpa [lastMarker, others, revokeToken, empty] using recorded.markers user
  · intro user
    simpa [lastChange, others, revokeToken, empty] using recorded.changes user

/-- So is one of all tokens. -/
theorem revokeAll_recorded (recorded : Recorded history stores) (userId : υ)
    (markedAt : Nat) (suffix : List Char) (createdAt endsAt : Nat)
    (written : stores.tokenBlacklist.lookup (markerJti suffix) = none) :
    Recorded (history ++ [.revokedAll userId markedAt createdAt endsAt])
      (revokeAllUserTokens userId markedAt suffix createdAt endsAt stores) := by
  constructor
  · intro jti endsAt key
    exact List.mem_append_left _ (recorded.keys jti endsAt key)
  · intro jti revoked
    exact lookup_inserted.mpr (.inr (recorded.stored jti (by simpa using revoked)))
  · intro row member
    rcases mem_inserted.mp member with before | ⟨-, rfl⟩
    · exact (recorded.rows row before).imp_left (List.mem_append_left _)
    · exact .inr (marker_like suffix)
  · intro user time
    simp only [revokeAllUserTokens, mem_inserted, or_and_right, exists_or, recorded.marks, Marks,
      List.mem_append, List.mem_singleton, reduceCtorEq, or_false, Event.revokedAll.injEq]
    constructor
    · rintro ((mimicked | marked) | ⟨row, ⟨-, rfl⟩, rfl, -, rfl⟩)
      · exact .inl mimicked
      · exact .inr (.inl marked)
      · exact .inr (.inr ⟨markedAt, endsAt, rfl, rfl, rfl, rfl⟩)
    · rintro (mimicked | marked | ⟨_, _, rfl, -, rfl, -⟩)
      · exact .inl (.inl mimicked)
      · exact .inl (.inr marked)
      · exact .inr ⟨_, ⟨written, rfl⟩, rfl, marker_like suffix, rfl⟩
  · intro user
    have before := recorded.markers user
    unfold lastMarker at before ⊢
    by_cases same : userId = user
    · subst same
      simp [revokeAllUserTokens, Event.marker]
    · simpa [revokeAllUserTokens, Event.marker, same, Function.update_of_ne (Ne.symm same)]
        using before
  · intro user
    simpa [lastChange, Event.change, revokeAllUserTokens] using recorded.changes user

/-- So is a change of the password. -/
theorem change_recorded (recorded : Recorded history stores) (userId : υ)
    (changedAt : Nat) :
    Recorded (history ++ [.passwordChanged userId changedAt])
      (changePassword userId changedAt stores) := by
  constructor
  · intro jti endsAt key
    exact List.mem_append_left _ (recorded.keys jti endsAt key)
  · intro jti revoked
    exact recorded.stored jti (by simpa using revoked)
  · intro row member
    exact (recorded.rows row member).imp_left (List.mem_append_left _)
  · intro user createdAt
    simpa [Marks, changePassword] using recorded.marks user createdAt
  · intro user
    simpa [lastMarker, Event.marker, changePassword] using recorded.markers user
  · intro user
    have before := recorded.changes user
    unfold lastChange at before ⊢
    by_cases same : userId = user
    · subst same
      simp [changePassword, Event.change]
    · simpa [changePassword, Event.change, same, Function.update_of_ne (Ne.symm same)] using before

/-- The stores record the history of any run. -/
theorem run_recorded (run : Run Step Stores.empty history stores) : Recorded history stores := by
  refine run.invariant Recorded empty_recorded ?_
  intro history observed state next _ recorded step
  cases step with
  | revokeToken jti userId createdAt endsAt =>
    exact revokeToken_recorded recorded jti userId createdAt endsAt
  | revokeAllUserTokens userId markedAt suffix createdAt endsAt written =>
    exact revokeAll_recorded recorded userId markedAt suffix createdAt endsAt written
  | changePassword userId changedAt => exact change_recorded recorded userId changedAt

end Histories

section Exactness

/-- The instant at which the second of the issue begins. -/
def Token.second (token : Token υ) : Nat := token.iat * 1000000

/-- All tokens of the user were revoked after the issue. -/
def RevokedLater (token : Token υ) (history : List (Event υ)) : Prop :=
  ∃ markedAt createdAt endsAt, .revokedAll token.userId markedAt createdAt endsAt ∈ history ∧
    token.issuedAt < createdAt

/-- The password was changed after the issue. -/
def ChangedLater (token : Token υ) (history : List (Event υ)) : Prop :=
  ∃ changedAt, .passwordChanged token.userId changedAt ∈ history ∧ token.issuedAt < changedAt

def Revoked (token : Token υ) (history : List (Event υ)) : Prop :=
  .revoked token.jti.text ∈ history ∨ RevokedLater token history ∨ ChangedLater token history

/-- A token says the second of its issue, not the millisecond. -/
theorem issue_second (token : Token υ) : token.second ≤ token.issuedAt :=
  Nat.div_mul_le_self ..

variable [DecidableEq υ] {now : Nat} {token : Token υ} {history : List (Event υ)}
  {stores : Stores υ}

/-- Since the second of the issue began a revocation of all tokens was marked: by a row
created later than that instant, or by the last key, as long as it lives. -/
def MarkedSince (now : Nat) (token : Token υ) (history : List (Event υ)) : Prop :=
  (∃ createdAt, Marks history token.userId createdAt ∧ token.second < createdAt) ∨
    ∃ markedAt endsAt, lastMarker history token.userId = some (markedAt, endsAt) ∧
      now < endsAt ∧ token.second ≤ markedAt

/-- The last change of the password came a millisecond or more after that instant. -/
def ChangedSince (token : Token υ) (history : List (Event υ)) : Prop :=
  token.iat ≠ 0 ∧ ∃ changedAt, lastChange history token.userId = some changedAt ∧
    token.second + 1000 ≤ changedAt

/-- A revocation of all tokens after the issue is always seen. -/
theorem later_marked (later : RevokedLater token history) : MarkedSince now token history := by
  obtain ⟨markedAt, createdAt, endsAt, revoked, after⟩ := later
  exact .inl ⟨createdAt, .inr ⟨markedAt, endsAt, revoked⟩,
    Nat.lt_of_le_of_lt (issue_second token) after⟩

/-- A token is found revoked when it was, or its user's tokens were, since. -/
theorem revoked_iff (recorded : Recorded history stores) :
    isRevoked now token.jti.text token.userId (some token.iat) stores = true ↔
      .revoked token.jti.text ∈ history ∨ MarkedSince now token history := by
  have row : (∃ row ∈ stores.tokenBlacklist.rows, (row.userId = token.userId ∧
      like markerPattern row.jti = true) ∧ token.iat * 1000000 < row.createdAt) ↔
      ∃ createdAt, Marks history token.userId createdAt ∧ token.second < createdAt := by
    simp only [← recorded.marks, Token.second]
    constructor
    · rintro ⟨row, member, ⟨user, pattern⟩, since⟩
      exact ⟨_, ⟨row, member, user, pattern, rfl⟩, since⟩
    · rintro ⟨_, ⟨row, member, user, pattern, rfl⟩, since⟩
      exact ⟨row, member, ⟨user, pattern⟩, since⟩
  have key : (stores.revokedAll token.userId).any (fun marker => decide (now < marker.endsAt) &&
      decide (token.iat * 1000 ≤ marker.revokedAt)) = true ↔
      ∃ markedAt endsAt, lastMarker history token.userId = some (markedAt, endsAt) ∧
        now < endsAt ∧ token.second ≤ markedAt := by
    rw [recorded.markers, Option.any_map, Option.any_eq_true, Prod.exists]
    refine exists_congr fun markedAt => exists_congr fun endsAt => and_congr_right fun _ => ?_
    have floor : token.iat * 1000 ≤ markedAt / 1000 ↔ token.iat * 1000000 ≤ markedAt := by omega
    simp only [Bool.and_eq_true, decide_eq_true_eq, milliseconds, Token.second, floor]
  have stored : (stores.tokenBlacklist.lookup token.jti.text).isSome = true ↔
      .revoked token.jti.text ∈ history := by
    refine ⟨?_, recorded.stored _⟩
    intro found
    obtain ⟨row, stored⟩ := Option.isSome_iff_exists.mp found
    have id : row.jti = token.jti.text := Table.lookup_key stored
    rcases recorded.rows row (Table.lookup_mem stored) with revoked | pattern
    · exact id ▸ revoked
    · rw [id, uuid_unlike] at pattern
      cases pattern
  have cached : (stores.blacklisted token.jti.text).any (fun endsAt => decide (now < endsAt)) =
      true → .revoked token.jti.text ∈ history := by
    intro live
    obtain ⟨endsAt, key, -⟩ := Option.any_eq_true _ _ |>.mp live
    exact recorded.keys _ endsAt key
  unfold isRevoked
  rw [if_neg token.jti.nonempty]
  simp only [Bool.if_true_left, Bool.or_eq_true, decide_eq_true_eq, stored, key, MarkedSince,
    List.any_eq_true, Bool.and_eq_true, row]
  constructor
  · rintro (live | marked | revoked | created)
    · exact .inl (cached live)
    · exact .inr (.inr marked)
    · exact .inl revoked
    · exact .inr (.inl created)
  · rintro (revoked | created | marked)
    · exact .inr (.inr (.inl revoked))
    · exact .inr (.inr (.inr created))
    · exact .inr (.inl marked)

/-- A token is found older than a change of the password by whole seconds. -/
theorem before_iff (recorded : Recorded history stores) :
    isTokenBeforePasswordChange token.userId token.iat stores = true ↔
      ∃ changedAt, lastChange history token.userId = some changedAt ∧
        token.second + 1000 ≤ changedAt := by
  rw [isTokenBeforePasswordChange, recorded.changes, Option.any_eq_true]
  refine exists_congr fun changedAt => and_congr_right fun _ => ?_
  rw [decide_eq_true_eq, milliseconds, Token.second]
  omega

/-- So much of the history is what rejects a token. -/
theorem rejected_iff (recorded : Recorded history stores) :
    rejected now token stores = true ↔ .revoked token.jti.text ∈ history ∨
      MarkedSince now token history ∨ ChangedSince token history := by
  simp only [rejected, Bool.or_eq_true, Bool.and_eq_true, decide_eq_true_eq,
    revoked_iff recorded, before_iff recorded, ChangedSince, or_assoc]

/-- The checks are exact for a token whose id was revoked or after whose issue all tokens
were. For any other one they are exactly if what is stored since its second began is just
what was changed after its issue. -/
theorem revocation_exact_iff (run : Run Step Stores.empty history stores) (token : Token υ)
    (now : Nat) :
    (rejected now token stores = true ↔ Revoked token history) ↔
      .revoked token.jti.text ∈ history ∨ RevokedLater token history ∨
        (ChangedLater token history → MarkedSince now token history ∨ ChangedSince token history) ∧
        (¬ ChangedLater token history →
          ¬ MarkedSince now token history ∧ ¬ ChangedSince token history) := by
  rw [rejected_iff (run_recorded run), Revoked]
  by_cases revoked : .revoked token.jti.text ∈ history
  · simp [revoked]
  by_cases revokedLater : RevokedLater token history
  · have marked : MarkedSince now token history := later_marked revokedLater
    simp [revokedLater, marked]
  by_cases changed : ChangedLater token history
  · simp [revoked, revokedLater, changed]
  · simp [revoked, revokedLater, changed]

/-- Each change of the password is followed by a revocation of all tokens, as by the
controllers. -/
def Followed (userId : υ) (history : List (Event υ)) : Prop :=
  ∀ changedAt, .passwordChanged userId changedAt ∈ history → ∃ markedAt createdAt endsAt,
    .revokedAll userId markedAt createdAt endsAt ∈ history ∧ changedAt ≤ createdAt

/-- The last change is one. -/
theorem lastChange_mem {userId : υ} {changedAt : Nat}
    (last : lastChange history userId = some changedAt) :
    .passwordChanged userId changedAt ∈ history := by
  obtain ⟨event, member, change⟩ := List.mem_filterMap.mp (List.mem_of_getLast? last)
  cases event with
  | passwordChanged user time =>
    obtain ⟨rfl, rfl⟩ : user = userId ∧ time = changedAt := by
      simpa [Event.change] using change
    exact member
  | revoked | mimicked | revokedAll => cases change

/-- A followed change leaves a mark: the checks are exact unless all tokens were revoked in
the second of the issue, but not after it. -/
theorem followed_exact_iff (run : Run Step Stores.empty history stores) (token : Token υ)
    (now : Nat) (followed : Followed token.userId history) :
    (rejected now token stores = true ↔ Revoked token history) ↔
      .revoked token.jti.text ∈ history ∨ RevokedLater token history ∨
        ¬ MarkedSince now token history := by
  have revokedAfter : ChangedLater token history → RevokedLater token history := by
    rintro ⟨changedAt, changed, later⟩
    obtain ⟨markedAt, createdAt, endsAt, revoked, after⟩ := followed changedAt changed
    exact ⟨markedAt, createdAt, endsAt, revoked, Nat.lt_of_lt_of_le later after⟩
  have marked : ChangedSince token history → MarkedSince now token history := by
    rintro ⟨-, changedAt, last, since⟩
    obtain ⟨markedAt, createdAt, endsAt, revoked, after⟩ := followed changedAt (lastChange_mem last)
    exact .inl ⟨createdAt, .inr ⟨markedAt, endsAt, revoked⟩, by omega⟩
  rw [rejected_iff (run_recorded run), Revoked, or_iff_left_of_imp revokedAfter,
    or_iff_left_of_imp marked]
  by_cases revoked : .revoked token.jti.text ∈ history
  · simp [revoked]
  by_cases revokedLater : RevokedLater token history
  · have seen : MarkedSince now token history := later_marked revokedLater
    simp [revokedLater, seen]
  · simp [revoked, revokedLater]

/-- A token half a second into a second. -/
def sampleToken : Token Unit where
  jti := ⟨"7f3b2c1e-9d84-4a6f-b0c5-2e8d1a7f6b39".toList, by decide, by simp⟩
  userId := ()
  issuedAt := 1700000000500000

/-- A change of the password and the revocation that follows it, earlier in that second. -/
def sampleHistory : List (Event Unit) :=
  [.passwordChanged () 1700000000200000,
    .revokedAll () 1700000000202000 1700000000204000 1700000900202000]

def sampleStores : Stores Unit :=
  revokeAllUserTokens () 1700000000202000 "5f2a".toList 1700000000204000 1700000900202000
    (changePassword () 1700000000200000 Stores.empty)

/-- The run of the sample. -/
theorem sample_run : Run Step Stores.empty sampleHistory sampleStores :=
  Run.after (Step.changePassword Stores.empty () 1700000000200000)
    (Run.after (Step.revokeAllUserTokens _ () 1700000000202000 "5f2a".toList 1700000000204000
      1700000900202000 rfl) .start)

/-- It revokes no token. -/
theorem sample_unrevoked : ¬ Revoked sampleToken sampleHistory := by
  rintro (revoked | ⟨_, createdAt, _, revoked, later⟩ | ⟨changedAt, changed, later⟩)
  · simp [sampleHistory] at revoked
  · obtain ⟨-, rfl, -⟩ := by simpa [sampleHistory] using revoked
    revert later
    decide
  · obtain rfl := by simpa [sampleHistory] using changed
    revert later
    decide

/-- The token of an earlier second is rejected as it should be. -/
theorem earlier_exact :
    rejected 1700000060000000 { sampleToken with issuedAt := 1699999999900000 } sampleStores = true ↔
      Revoked { sampleToken with issuedAt := 1699999999900000 } sampleHistory :=
  (revocation_exact_iff sample_run _ _).mpr
    (.inr (.inl ⟨_, _, _, List.mem_cons_of_mem _ (List.mem_singleton_self _), by decide⟩))

/-- The login that follows a change of the password within its second gets a token that is
rejected from the start. -/
theorem fresh_rejected : ¬ ∀ (history : List (Event Unit)) (stores : Stores Unit),
    Run Step Stores.empty history stores → ∀ (token : Token Unit) (now : Nat),
      (rejected now token stores = true ↔ Revoked token history) := by
  intro exact
  have same := exact sampleHistory sampleStores sample_run sampleToken 1700000060000000
  exact sample_unrevoked (same.mp (by decide))

end Exactness

end PlanBuddy.TokenRevocation
