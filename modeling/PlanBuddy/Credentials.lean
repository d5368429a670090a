import Mathlib.Data.List.Nodup
import PlanBuddy.Accounts

/-!
# What a request was entitled to

Over every interleaving of requests, a controller that asks for an administrator is reached only
in the name of an account that was one before the first request, and the hash of a password is
replaced only by a request that presented a password which was in force for the account, with a
token of the account, or a code which was issued for it.

Each step is put together from a few changes of the tables, and the invariant is kept by each of
them. What a request has read stays true of the history, though not of the tables; hence "was in
force".
-/

namespace PlanBuddy.Accounts

section Purpose

variable {η : Type}

/-- An account with the role. -/
def Known (users : Users η) (userId : Nat) (role : Role) : Prop :=
  ∃ row ∈ users.rows, row.id = userId ∧ row.role = role

variable (compare : String → η → Bool) (seeds : Users η) (history : List (Event η))

/-- The hash was stored for the account at the start, at its registration or by a change. -/
def InForce (userId : Nat) (digest : η) : Prop :=
  (∃ seed ∈ seeds.rows, seed.id = userId ∧ seed.passwordHash = digest) ∨
    (∃ row, .registered row ∈ history ∧ row.id = userId ∧ row.passwordHash = digest) ∨
    ∃ proof, .passwordSet userId digest proof ∈ history

/-- What entitles to a change of the password of an account. -/
def Proof.Vouched (userId : Nat) : Proof η → Prop
  | .password presented stored claims =>
    compare presented stored = true ∧ InForce seeds history userId stored ∧
      claims.id = userId ∧ .minted claims ∈ history
  | .code otp tokenHash => compare otp tokenHash = true ∧ .coded userId tokenHash ∈ history

/-- What the history before an event has to show for it. -/
def Event.Vouched : Event η → Prop
  | .loggedIn user password =>
    compare password user.passwordHash = true ∧ InForce seeds history user.id user.passwordHash
  | .authorized handler claims => .minted claims ∈ history ∧ handler.permits claims.role = true
  | .passwordSet userId _ proof => proof.Vouched compare seeds history userId
  | .registered _ | .minted _ | .coded _ _ => True

/-- What a request has read. -/
def Request.Vouched (users : Users η) : Request η → Prop
  | .comparing user _ =>
    Known users user.id user.role ∧ InForce seeds history user.id user.passwordHash
  | .clearing user => Known users user.id user.role
  | .revoking _ claims | .aging _ claims | .activating _ claims | .reading claims _ _ =>
    .minted claims ∈ history
  | .verifying claims _ _ stored => .minted claims ∈ history ∧ InForce seeds history claims.id stored
  | .guessing userId _ _ tokenHash => .coded userId tokenHash ∈ history
  | .rehashing userId _ proof | .storing userId _ proof =>
    proof.Vouched compare seeds history userId
  | _ => True

/-- Addresses are distinct, no account is lost, and what the tables hold the history can show. -/
structure Sound (app : App η) : Prop where
  emails : (app.users.rows.map UserRow.email).Nodup
  seeded : ∀ seed ∈ seeds.rows, Known app.users seed.id seed.role
  admins : ∀ row ∈ app.users.rows, row.role = .admin → Known seeds row.id .admin
  inForce : ∀ row ∈ app.users.rows, InForce seeds history row.id row.passwordHash
  owned : ∀ claims, .minted claims ∈ history → Known app.users claims.id claims.role
  minted : ∀ claims ∈ app.minted, .minted claims ∈ history
  coded : ∀ userId token, app.resets userId = some token → .coded userId token.tokenHash ∈ history
  requests : ∀ request ∈ app.requests, request.Vouched compare seeds history app.users
  events : ∀ earlier event later, history = earlier ++ event :: later →
    event.Vouched compare seeds earlier

end Purpose

section Growth

variable {η : Type} {compare : String → η → Bool} {seeds users next : Users η}
  {history later : List (Event η)} {app : App η}

/-- What is in force after a history is so after a longer one. -/
theorem InForce.mono {userId : Nat} {digest : η} (inForce : InForce seeds history userId digest)
    (longer : history ⊆ later) : InForce seeds later userId digest :=
  inForce.imp_right fun kept => kept.imp
    (fun ⟨row, registered, same⟩ => ⟨row, longer registered, same⟩)
    (fun ⟨proof, stored⟩ => ⟨proof, longer stored⟩)

/-- What vouches for a proof goes on to do so. -/
theorem Proof.Vouched.mono {userId : Nat} {proof : Proof η}
    (vouched : proof.Vouched compare seeds history userId) (longer : history ⊆ later) :
    proof.Vouched compare seeds later userId := by
  cases proof with
  | password presented stored claims =>
    obtain ⟨right, inForce, same, minted⟩ := vouched
    exact ⟨right, inForce.mono longer, same, longer minted⟩
  | code otp tokenHash => exact ⟨vouched.1, longer vouched.2⟩

/-- What a request has read is read for good. -/
theorem Request.Vouched.mono {request : Request η}
    (vouched : request.Vouched compare seeds history users) (longer : history ⊆ later)
    (kept : ∀ userId role, Known users userId role → Known next userId role) :
    request.Vouched compare seeds later next := by
  cases request with
  | comparing user password => exact ⟨kept _ _ vouched.1, vouched.2.mono longer⟩
  | clearing user => exact kept _ _ vouched
  | revoking handler claims => exact longer vouched
  | aging handler claims => exact longer vouched
  | activating handler claims => exact longer vouched
  | reading claims currentPassword newPassword => exact longer vouched
  | verifying claims currentPassword newPassword stored =>
    exact ⟨longer vouched.1, vouched.2.mono longer⟩
  | guessing userId otp newPassword tokenHash => exact longer vouched
  | rehashing userId newPassword proof => exact Proof.Vouched.mono vouched longer
  | storing userId passwordHash proof => exact Proof.Vouched.mono vouched longer
  | _ => trivial

/-- A statement that leaves ids and roles alone loses no account. -/
theorem Known.update {userId : Nat} {role : Role} (known : Known users userId role)
    (matching : UserRow η → Bool) (assign : UserRow η → UserRow η)
    (keeps : ∀ row, (assign row).id = row.id) (same : ∀ row, (assign row).role = row.role) :
    Known (users.update matching assign keeps) userId role := by
  obtain ⟨row, member, rfl, rfl⟩ := known
  refine ⟨if matching row then assign row else row, Table.mem_update.mpr ⟨row, member, rfl⟩, ?_⟩
  split
  · exact ⟨keeps row, same row⟩
  · exact ⟨rfl, rfl⟩

/-- One more event that is vouched for. -/
theorem events_snoc {event : Event η}
    (before : ∀ earlier other later, history = earlier ++ other :: later →
      other.Vouched compare seeds earlier) (now : event.Vouched compare seeds history) :
    ∀ earlier other later, history ++ [event] = earlier ++ other :: later →
      other.Vouched compare seeds earlier := by
  intro earlier other later split
  rcases snoc_split split with ⟨-, rfl, rfl⟩ | ⟨between, -, same⟩
  · exact now
  · exact before earlier other between same

end Growth

section Changes

variable {η : Type} {compare : String → η → Bool} {seeds : Users η}
  {history : List (Event η)} {app : App η}

/-- The tables stay as they are, and an event is recorded that signs no token. -/
theorem Sound.record (sound : Sound compare seeds history app) (event : Event η)
    (vouched : event.Vouched compare seeds history) (signs : ∀ claims, event ≠ .minted claims) :
    Sound compare seeds (history ++ [event]) app where
  emails := sound.emails
  seeded := sound.seeded
  admins := sound.admins
  inForce row member := (sound.inForce row member).mono (List.subset_append_left ..)
  owned claims minted := by
    rcases List.mem_append.mp minted with before | now
    · exact sound.owned claims before
    · exact absurd (List.mem_singleton.mp now).symm (signs claims)
  minted claims member := List.mem_append_left _ (sound.minted claims member)
  coded userId token stored := List.mem_append_left _ (sound.coded userId token stored)
  requests request member :=
    (sound.requests request member).mono (List.subset_append_left ..) fun _ _ known => known
  events := events_snoc sound.events vouched

/-- A token is signed for an account with its role. -/
theorem Sound.mint (sound : Sound compare seeds history app) (claims : Claims)
    (known : Known app.users claims.id claims.role) :
    Sound compare seeds (history ++ [.minted claims]) (app.mint claims) where
  emails := sound.emails
  seeded := sound.seeded
  admins := sound.admins
  inForce row member := (sound.inForce row member).mono (List.subset_append_left ..)
  owned other minted := by
    rcases List.mem_append.mp minted with before | now
    · exact sound.owned other before
    · cases List.mem_singleton.mp now
      exact known
  minted other member := by
    rcases List.mem_append.mp member with before | now
    · exact List.mem_append_left _ (sound.minted other before)
    · rw [List.mem_singleton.mp now]
      exact List.mem_append_right _ (List.mem_singleton_self _)
  coded userId token stored := List.mem_append_left _ (sound.coded userId token stored)
  requests request member :=
    (sound.requests request member).mono (List.subset_append_left ..) fun _ _ known => known
  events := events_snoc sound.events trivial

/-- A statement that sets no address, no role and no hash but those in force. -/
theorem Sound.alter (sound : Sound compare seeds history app) (userId : Nat)
    (assign : UserRow η → UserRow η) (keeps : ∀ row, (assign row).id = row.id)
    (emails : ∀ row, (assign row).email = row.email) (roles : ∀ row, (assign row).role = row.role)
    (hashes : ∀ row ∈ app.users.rows, row.id = userId →
      InForce seeds history userId (assign row).passwordHash) :
    Sound compare seeds history (app.alter userId assign keeps) where
  emails := by
    have same : (app.alter userId assign keeps).users.rows.map UserRow.email =
        app.users.rows.map UserRow.email := by
      simp only [App.alter, Table.update, List.map_map]
      refine List.map_congr_left fun row _ => ?_
      simp only [Function.comp_apply]
      split
      · exact emails row
      · rfl
    rw [same]
    exact sound.emails
  seeded seed member := (sound.seeded seed member).update _ assign keeps roles
  admins row member := by
    obtain ⟨old, stored, rfl⟩ := List.mem_map.mp member
    split
    · rw [roles, keeps]
      exact sound.admins old stored
    · exact sound.admins old stored
  inForce row member := by
    obtain ⟨old, stored, rfl⟩ := List.mem_map.mp member
    split
    · next matched =>
      have same : old.id = userId := of_decide_eq_true matched
      rw [keeps, same]
      exact hashes old stored same
    · exact sound.inForce old stored
  owned claims minted := (sound.owned claims minted).update _ assign keeps roles
  minted := sound.minted
  coded := sound.coded
  requests request member := (sound.requests request member).mono (List.Subset.refl _)
    fun _ _ known => known.update _ assign keeps roles
  events := sound.events

/-- A statement that does not touch the hash either. -/
theorem Sound.touch (sound : Sound compare seeds history app) (userId : Nat)
    (assign : UserRow η → UserRow η) (keeps : ∀ row, (assign row).id = row.id)
    (emails : ∀ row, (assign row).email = row.email) (roles : ∀ row, (assign row).role = row.role)
    (hashes : ∀ row, (assign row).passwordHash = row.passwordHash) :
    Sound compare seeds history (app.alter userId assign keeps) :=
  sound.alter userId assign keeps emails roles fun row member same => by
    rw [hashes, ← same]
    exact sound.inForce row member

/-- The account of a registration is new, and no administrator's. -/
theorem Sound.insert (sound : Sound compare seeds history app) (form : Form) (passwordHash : η)
    (id : Nat) (admitted : app.admits (form.row passwordHash id) = true) :
    Sound compare seeds (history ++ [.registered (form.row passwordHash id)])
      { app with users := (app.users.insert (form.row passwordHash id)).1 } ∧
    Known (app.users.insert (form.row passwordHash id)).1 id (safeRole form.role) := by
  have apart : ∀ other ∈ app.users.rows, other.id ≠ id ∧ other.email ≠ normalizedEmail form.email := by
    intro other member
    exact of_decide_eq_true (List.all_eq_true.mp admitted other member)
  have fresh : (form.row passwordHash id).id ∉ app.users.rows.map UserRow.id := by
    intro taken
    obtain ⟨other, member, same⟩ := List.mem_map.mp taken
    exact (apart other member).1 same
  have rows : (app.users.insert (form.row passwordHash id)).1.rows =
      app.users.rows ++ [form.row passwordHash id] := by
    rw [Table.insert, dif_neg fresh]
  have kept : ∀ userId role, Known app.users userId role →
      Known (app.users.insert (form.row passwordHash id)).1 userId role := by
    rintro userId role ⟨row, member, same⟩
    exact ⟨row, by rw [rows]; exact List.mem_append_left _ member, same⟩
  have modest : safeRole form.role ≠ .admin := by
    unfold safeRole
    cases found : allowedRoles.find? fun allowed => decide (allowed.text = form.role.getD "user") with
    | none => exact (by decide)
    | some role =>
      have member := List.mem_of_find?_eq_some found
      rintro rfl
      exact absurd member (by decide)
  have longer : history ⊆ history ++ [.registered (form.row passwordHash id)] :=
    List.subset_append_left ..
  refine ⟨⟨?_, fun seed member => kept _ _ (sound.seeded seed member), ?_, ?_, ?_,
    fun claims member => longer (sound.minted claims member),
    fun userId token stored => longer (sound.coded userId token stored),
    fun request member => (sound.requests request member).mono longer kept,
    events_snoc sound.events trivial⟩, ⟨form.row passwordHash id, ?_, rfl, rfl⟩⟩
  · simp only [rows, List.map_append, List.map_singleton]
    refine List.nodup_append.mpr ⟨sound.emails, List.nodup_singleton _, ?_⟩
    intro email stored other member same
    obtain ⟨row, present, rfl⟩ := List.mem_map.mp stored
    exact (apart row present).2 (same.trans (List.mem_singleton.mp member))
  · simp only [rows]
    refine forall_mem_snoc sound.admins fun admin => ?_
    exact absurd admin modest
  · simp only [rows]
    exact forall_mem_snoc (fun row member => (sound.inForce row member).mono longer)
      (.inr (.inl ⟨_, List.mem_append_right _ (List.mem_singleton_self _), rfl, rfl⟩))
  · intro claims minted
    rcases List.mem_append.mp minted with before | now
    · exact kept _ _ (sound.owned claims before)
    · cases List.mem_singleton.mp now
  · rw [rows]
    exact List.mem_append_right _ (List.mem_singleton_self _)

/-- A code that was issued stays the one issued, whatever becomes of its row. -/
theorem Sound.reset (sound : Sound compare seeds history app) (userId : Nat)
    (token : Option (ResetToken η))
    (issued : ∀ stored, token = some stored → .coded userId stored.tokenHash ∈ history) :
    Sound compare seeds history { app with resets := Function.update app.resets userId token } :=
  { sound with
    coded := by
      intro other stored found
      by_cases same : other = userId
      · subst same
        exact issued stored (by simpa using found)
      · exact sound.coded other stored (by simpa [Function.update_of_ne same] using found) }

/-- A request has moved on, or joined. -/
theorem Sound.moved (sound : Sound compare seeds history app) (requests : List (Request η))
    (vouched : ∀ request ∈ requests, request.Vouched compare seeds history app.users) :
    Sound compare seeds history { app with requests := requests } :=
  { sound with requests := vouched }

end Changes

section Advances

variable {η : Type} {compare : String → η → Bool} {seeds : Users η}
  {history : List (Event η)} {app : App η}

/-- What an awaited call leaves behind is sound, and so is the request that goes on. -/
def Kept (compare : String → η → Bool) (seeds : Users η) (history : List (Event η))
    (result : App η × Request η × List (Event η)) : Prop :=
  Sound compare seeds (history ++ result.2.2) result.1 ∧
    result.2.1.Vouched compare seeds (history ++ result.2.2) result.1.users

/-- A request that is vouched for is kept. -/
theorem Sound.kept (sound : Sound compare seeds history app) {moved : Request η}
    (vouched : moved.Vouched compare seeds history app.users) :
    Kept compare seeds history (app, moved, []) := by
  rw [Kept, List.append_nil]
  exact ⟨sound, vouched⟩

/-- A row that is found is there. -/
theorem row_mem {email : String} {user : UserRow η} (found : app.row email = some user) :
    user ∈ app.users.rows := List.mem_of_find?_eq_some found

/-- A request that passed its guards asks for nothing but its token. -/
theorem enter_vouched {claims : Claims} {users : Users η} (handler : Handler)
    (minted : .minted claims ∈ history) :
    (enter claims handler).Vouched compare seeds history users := by
  cases handler with
  | updateProfile name phone => simp only [enter]; split <;> trivial
  | changePassword currentPassword newPassword =>
    simp only [enter]
    split
    · trivial
    · split
      · trivial
      · exact minted
  | _ => trivial

/-- A request that goes on is vouched for as before. -/
theorem advance_kept (hash : String → Nat → η) (sound : Sound compare seeds history app)
    (input : Input) {request : Request η}
    (vouched : request.Vouched compare seeds history app.users) :
    Kept compare seeds history (advance compare hash app input request) := by
  cases request with
  | looking form =>
    refine sound.kept ?_
    split <;> trivial
  | hashing form => exact sound.kept trivial
  | inserting form passwordHash =>
    simp only [advance]
    split
    · next admitted =>
      obtain ⟨inserted, known⟩ := sound.insert form passwordHash input.id admitted
      have minted := inserted.mint (claimsOf (form.row passwordHash input.id) input.now) known
      rw [List.append_assoc] at minted
      exact ⟨minted, trivial⟩
    · exact sound.kept trivial
  | selecting email password =>
    simp only [advance]
    split
    · exact sound.kept trivial
    · next user found =>
      split
      · exact sound.kept trivial
      · exact sound.kept ⟨⟨user, row_mem found, rfl, rfl⟩, sound.inForce user (row_mem found)⟩
  | comparing user password =>
    obtain ⟨known, inForce⟩ := vouched
    simp only [advance]
    split
    · next right =>
      have loggedIn := sound.record (.loggedIn user password) ⟨right, inForce⟩ (by rintro claims ⟨⟩)
      split
      · exact ⟨loggedIn, known⟩
      · have minted := loggedIn.mint (claimsOf user input.now) known
        rw [List.append_assoc] at minted
        exact ⟨minted, trivial⟩
    · exact sound.kept trivial
  | recording user =>
    exact (sound.touch user.id
      (fun row => { row with toUserRow := row.toUserRow.fail user.toUserRow input.now })
      (fun _ => rfl) (fun _ => rfl) (fun _ => rfl) (fun _ => rfl)).kept trivial
  | clearing user =>
    have cleared := sound.touch user.id
      (fun row => { row with failedLoginAttempts := 0, lockedUntil := none }) (fun _ => rfl)
      (fun _ => rfl) (fun _ => rfl) (fun _ => rfl)
    have known := Known.update vouched (fun row => decide (row.id = user.id))
      (fun row => { row with failedLoginAttempts := 0, lockedUntil := none }) (fun _ => rfl)
      (fun _ => rfl)
    exact ⟨cleared.mint (claimsOf user input.now) known, trivial⟩
  | reloading userId createdAt =>
    simp only [advance]
    split
    · exact sound.kept trivial
    · next user found =>
      split
      · exact sound.kept trivial
      · have stored := Table.lookup_mem (Option.filter_eq_some_iff.mp found).1
        exact ⟨sound.mint (claimsOf user input.now) ⟨user, stored, rfl, rfl⟩, trivial⟩
  | revoking handler claims =>
    refine sound.kept ?_
    split
    · trivial
    · exact vouched
  | aging handler claims =>
    refine sound.kept ?_
    split
    · trivial
    · exact vouched
  | activating handler claims =>
    simp only [advance]
    split
    · exact sound.kept trivial
    · split
      · exact sound.kept trivial
      · next permitted =>
        have authorized := sound.record (.authorized handler claims)
          ⟨vouched, Bool.eq_true_of_not_eq_false permitted⟩ (by rintro other ⟨⟩)
        exact ⟨authorized, enter_vouched handler (List.mem_append_left _ vouched)⟩
  | updating claims name phone =>
    exact (sound.touch claims.id (UserRow.profiled name phone) (fun _ => rfl) (fun _ => rfl)
      (fun _ => rfl) (fun _ => rfl)).kept trivial
  | reading claims currentPassword newPassword =>
    simp only [advance]
    split
    · exact sound.kept trivial
    · next user found =>
      have inForce := sound.inForce user (Table.lookup_mem found)
      rw [Table.lookup_key found] at inForce
      exact sound.kept ⟨vouched, inForce⟩
  | verifying claims currentPassword newPassword stored =>
    refine sound.kept ?_
    split
    · next right => exact ⟨right, vouched.2, rfl, vouched.1⟩
    · trivial
  | finding email =>
    simp only [advance]
    split <;> exact sound.kept trivial
  | coding userId otp => exact sound.kept trivial
  | upserting userId tokenHash =>
    have coded := sound.record (.coded userId tokenHash) trivial (by rintro claims ⟨⟩)
    refine ⟨coded.reset userId _ ?_, trivial⟩
    rintro stored ⟨⟩
    exact List.mem_append_right _ (List.mem_singleton_self _)
  | joining email otp newPassword =>
    simp only [advance]
    split
    · exact sound.kept trivial
    · next userId token found =>
      refine sound.kept ?_
      split
      · trivial
      · simp only [App.resetRow, Option.bind_eq_bind, Option.bind_eq_some_iff, Option.pure_def,
          Option.some.injEq, Prod.mk.injEq] at found
        obtain ⟨user, -, other, stored, rfl, rfl⟩ := found
        exact sound.coded _ _ (Option.filter_eq_some_iff.mp stored).1
  | discarding userId => exact (sound.reset userId none (by rintro stored ⟨⟩)).kept trivial
  | guessing userId otp newPassword tokenHash =>
    refine sound.kept ?_
    split
    · next right => exact ⟨right, vouched⟩
    · trivial
  | counting userId =>
    refine (sound.reset userId _ fun stored counted => ?_).kept trivial
    obtain ⟨token, found, rfl⟩ := Option.map_eq_some_iff.mp counted
    exact sound.coded userId token found
  | rehashing userId newPassword proof => exact sound.kept vouched
  | storing userId passwordHash proof =>
    have set := sound.record (.passwordSet userId passwordHash proof) vouched (by rintro claims ⟨⟩)
    have stored := set.alter userId (UserRow.renewed passwordHash input.now) (fun _ => rfl)
      (fun _ => rfl) (fun _ => rfl) fun _ _ _ =>
        .inr (.inr ⟨proof, List.mem_append_right _ (List.mem_singleton_self _)⟩)
    cases proof with
    | password presented old claims => exact ⟨stored, trivial⟩
    | code otp tokenHash => exact ⟨stored.reset userId none (by rintro token ⟨⟩), trivial⟩
  | answered status => exact sound.kept trivial
  | raised => exact sound.kept trivial

end Advances

section Runs

variable {η : Type} {compare : String → η → Bool} {hash : String → Nat → η}
  {verifyToken : Time → String → Option Claims} {seeds : Users η}
  {history observed : List (Event η)} {app next : App η}

/-- A request joins that has read nothing but the claims of its token. -/
theorem Sound.join (sound : Sound compare seeds history app) (request : Request η)
    (vouched : request.Vouched compare seeds history app.users) :
    Sound compare seeds (history ++ []) (app.join request) := by
  rw [List.append_nil]
  exact sound.moved _ (forall_mem_snoc sound.requests vouched)

/-- A failure changes nothing, and lets a request no further than it might have come. -/
theorem lenient_vouched {request : Request η}
    (vouched : request.Vouched compare seeds history app.users) :
    (request.lenient.getD .raised).Vouched compare seeds history app.users := by
  cases request with
  | revoking handler claims => exact vouched
  | aging handler claims => exact vouched
  | _ => trivial

/-- A step keeps all of it. -/
theorem step_sound (sound : Sound compare seeds history app)
    (taken : takes (step compare hash verifyToken) (Unforged verifyToken) app observed next) :
    Sound compare seeds (history ++ observed) next := by
  obtain ⟨action, unforged, taken⟩ := taken
  cases action with
  | register form =>
    obtain ⟨rfl, rfl⟩ := Prod.mk.inj (Option.some.inj taken)
    refine sound.join _ ?_
    unfold Form.check
    split
    · trivial
    · split <;> trivial
  | login email password =>
    obtain ⟨rfl, rfl⟩ := Prod.mk.inj (Option.some.inj taken)
    refine sound.join _ ?_
    unfold checkLogin
    split
    · trivial
    · split <;> trivial
  | refreshToken rotation =>
    obtain ⟨rfl, rfl⟩ := Prod.mk.inj (Option.some.inj taken)
    refine sound.join _ ?_
    cases rotation <;> trivial
  | call handler token now =>
    obtain ⟨rfl, rfl⟩ := Prod.mk.inj (Option.some.inj taken)
    refine sound.join _ ?_
    cases verified : verifyToken now token with
    | none => trivial
    | some claims =>
      rw [Unforged, verified] at unforged
      exact sound.minted claims (of_decide_eq_true unforged)
  | forgotPassword email =>
    obtain ⟨rfl, rfl⟩ := Prod.mk.inj (Option.some.inj taken)
    refine sound.join _ ?_
    split <;> trivial
  | resetPassword email otp newPassword =>
    obtain ⟨rfl, rfl⟩ := Prod.mk.inj (Option.some.inj taken)
    refine sound.join _ ?_
    unfold checkReset
    split
    · trivial
    · split
      · trivial
      · split <;> trivial
  | proceed index input =>
    simp only [step, Option.bind_eq_bind, Option.bind_eq_some_iff] at taken
    obtain ⟨request, found, taken⟩ := taken
    have vouched := sound.requests request (List.mem_of_getElem? found)
    split at taken
    · obtain ⟨rfl, rfl⟩ := Prod.mk.inj (Option.some.inj taken)
      rw [List.append_nil]
      refine sound.moved _ fun other member => ?_
      rcases Parties.mem_set_cases member with rfl | ⟨position, -, stays⟩
      · exact lenient_vouched vouched
      · exact sound.requests other (List.mem_of_getElem? stays)
    · obtain ⟨rfl, rfl⟩ := Prod.mk.inj (Option.some.inj taken)
      obtain ⟨kept, moved⟩ := advance_kept hash sound input vouched
      refine kept.moved _ fun other member => ?_
      rcases Parties.mem_set_cases member with rfl | ⟨position, -, stays⟩
      · exact moved
      · exact kept.requests other (List.mem_of_getElem? stays)

/-- So does a run. -/
theorem run_sound (distinct : (seeds.rows.map UserRow.email).Nodup)
    (run : Run (takes (step compare hash verifyToken) (Unforged verifyToken)) (App.seeded seeds)
      history app) : Sound compare seeds history app :=
  run.invariant (Sound compare seeds)
    { emails := distinct
      seeded := fun seed member => ⟨seed, member, rfl, rfl⟩
      admins := fun row member admin => ⟨row, member, rfl, admin⟩
      inForce := fun row member => .inl ⟨row, member, rfl, rfl⟩
      owned := by rintro claims ⟨⟩
      minted := by rintro claims ⟨⟩
      coded := by rintro userId token ⟨⟩
      requests := by rintro request ⟨⟩
      events := by
        intro earlier event later split
        cases earlier <;> cases split }
    fun _ sound taken => step_sound sound taken

/-- Every event of a history has what it needs in the history before it. -/
theorem Sound.event (sound : Sound compare seeds history app) {event : Event η}
    (member : event ∈ history) : ∃ earlier, earlier ⊆ history ∧ event.Vouched compare seeds earlier := by
  obtain ⟨earlier, later, split⟩ := List.append_of_mem member
  exact ⟨earlier, split ▸ List.subset_append_left .., sound.events earlier event later split⟩

/-- A request that passed its guards comes from an account with the role of its token. -/
theorem Sound.authorized (sound : Sound compare seeds history app) {handler : Handler}
    {claims : Claims} (member : .authorized handler claims ∈ history) :
    Known app.users claims.id claims.role ∧ handler.permits claims.role = true := by
  obtain ⟨earlier, longer, minted, permitted⟩ := sound.event member
  exact ⟨sound.owned claims (longer minted), permitted⟩

/-- Over every interleaving no two accounts answer to one address, no account is an administrator
that was not created as one by the operators, every request that passes its guards has the role of
its account, and the controllers for administrators are reached only in the name of such an
account. -/
theorem admins_seeded (distinct : (seeds.rows.map UserRow.email).Nodup)
    (run : Run (takes (step compare hash verifyToken) (Unforged verifyToken)) (App.seeded seeds)
      history app) :
    (app.users.rows.map UserRow.email).Nodup ∧
      (∀ row ∈ app.users.rows, row.role = .admin → Known seeds row.id .admin) ∧
      ∀ handler claims, .authorized handler claims ∈ history →
        Known app.users claims.id claims.role ∧
          (handler.roles = [.admin] → Known seeds claims.id .admin) := by
  have sound := run_sound distinct run
  refine ⟨sound.emails, sound.admins, fun handler claims member => ?_⟩
  obtain ⟨known, permitted⟩ := sound.authorized member
  refine ⟨known, fun guarded => ?_⟩
  have permitted := of_decide_eq_true permitted
  rw [guarded] at permitted
  have admin : claims.role = .admin := by simpa using permitted
  obtain ⟨row, stored, same, role⟩ := known
  rw [← same]
  exact sound.admins row stored (role.trans admin)

/-- Over every interleaving a login presents a password that fits a hash in force for its account;
a new password is stored only for a request that presented such a password with a token of the
account, or a code that fits one issued for it; and every stored hash is in force. -/
theorem passwords_vouched (distinct : (seeds.rows.map UserRow.email).Nodup)
    (run : Run (takes (step compare hash verifyToken) (Unforged verifyToken)) (App.seeded seeds)
      history app) :
    (∀ earlier event later, history = earlier ++ event :: later →
      event.Vouched compare seeds earlier) ∧
    ∀ row ∈ app.users.rows, InForce seeds history row.id row.passwordHash := by
  have sound := run_sound distinct run
  exact ⟨sound.events, sound.inForce⟩

end Runs

section Sample

/-- A hash that keeps its password and its salt. -/
abbrev Digest := String × Nat

def compareSample (password : String) (digest : Digest) : Bool := decide (digest.1 = password)

def hashSample (password : String) (salt : Nat) : Digest := (password, salt)

/-- The account that the operators created. -/
def operator : UserRow Digest :=
  ⟨⟨0, none, true⟩, 0, "root@planbuddy.in", ("first-password", 0), "Root", none, .admin, none⟩

def operators : Users Digest := ⟨[operator], List.nodup_singleton _⟩

/-- The tokens of the two accounts, once they are signed. -/
def verifySample (_ : Time) (token : String) : Option Claims :=
  if token = "root" then some ⟨0, .admin, 0⟩
  else if token = "mallory" then some ⟨1, .user, 0⟩
  else none

def quiet : Input := ⟨0, 1, 7, "123456", none, false⟩

def waits (index calls : Nat) : List Action := List.replicate calls (.proceed index quiet)

/-- A registration that asks for the role of an administrator, the login of the real one, and a
call in the name of each. -/
def impostor : List Action :=
  [.register ⟨"Mallory@planbuddy.in", "secret-word", "Mallory", none, some "admin"⟩] ++ waits 0 3 ++
    [.login "ROOT@planbuddy.in" "first-password"] ++ waits 1 2 ++
    [.call .getAllBookings "mallory" 0] ++ waits 2 3 ++ [.call .getAllBookings "root" 0] ++ waits 3 3

/-- The sample goes through. -/
theorem impostor_accepted : (execute (restrict (step compareSample hashSample verifySample)
    (Unforged verifySample)) (App.seeded operators) impostor).isSome := by
  decide +kernel

/-- Only the operators' account gets through. -/
theorem impostor_refused :
    ∃ history app, Run (takes (step compareSample hashSample verifySample) (Unforged verifySample))
        (App.seeded operators) history app ∧
      history.filter (fun event => decide (event = .authorized .getAllBookings ⟨0, .admin, 0⟩ ∨
        event = .authorized .getAllBookings ⟨1, .user, 0⟩)) =
          [.authorized .getAllBookings ⟨0, .admin, 0⟩] ∧
      Known operators 0 .admin := by
  have run := run_of_restricted impostor impostor_accepted
  have reached : ((execute (restrict (step compareSample hashSample verifySample)
      (Unforged verifySample)) (App.seeded operators) impostor).get impostor_accepted).2.filter
        (fun event => decide (event = .authorized .getAllBookings ⟨0, .admin, 0⟩ ∨
          event = .authorized .getAllBookings ⟨1, .user, 0⟩)) =
        [.authorized .getAllBookings ⟨0, .admin, 0⟩] := by
    decide +kernel
  have member := List.mem_of_mem_filter (reached ▸ List.mem_singleton_self _)
  exact ⟨_, _, run, reached, ((admins_seeded (by decide) run).2.2 _ _ member).2 rfl⟩

/-- A change of password that is overtaken by a reset. -/
def overtakenChange : List Action :=
  [.login "root@planbuddy.in" "first-password"] ++ waits 0 2 ++
    [.call (.changePassword "first-password" "third-password") "root" 0] ++ waits 1 5 ++
    [.forgotPassword "root@planbuddy.in"] ++ waits 2 3 ++
    [.resetPassword "root@planbuddy.in" "123456" "second-password"] ++ waits 3 4 ++ waits 1 2

/-- So does the other one. -/
theorem overtakenChange_accepted : (execute (restrict (step compareSample hashSample verifySample)
    (Unforged verifySample)) (App.seeded operators) overtakenChange).isSome := by
  decide +kernel

/-- It rests on a password that was in force when it was read. -/
theorem overtaken_change_vouched :
    ∃ earlier later app, Run (takes (step compareSample hashSample verifySample)
        (Unforged verifySample)) (App.seeded operators)
        (earlier ++ .passwordSet 0 ("third-password", 7)
          (.password "first-password" ("first-password", 0) ⟨0, .admin, 0⟩) :: later) app ∧
      .passwordSet 0 ("second-password", 7) (.code "123456" ("123456", 7)) ∈ earlier ∧
      InForce operators earlier 0 ("first-password", 0) := by
  have run := run_of_restricted overtakenChange overtakenChange_accepted
  obtain ⟨earlier, later, split, overtaken⟩ : ∃ earlier later,
      ((execute (restrict (step compareSample hashSample verifySample) (Unforged verifySample))
        (App.seeded operators) overtakenChange).get overtakenChange_accepted).2 =
        earlier ++ .passwordSet 0 ("third-password", 7)
          (.password "first-password" ("first-password", 0) ⟨0, .admin, 0⟩) :: later ∧
      .passwordSet 0 ("second-password", 7) (.code "123456" ("123456", 7)) ∈ earlier :=
    ⟨(((execute (restrict (step compareSample hashSample verifySample) (Unforged verifySample))
      (App.seeded operators) overtakenChange).get overtakenChange_accepted).2).dropLast, [],
      by decide +kernel, by decide +kernel⟩
  rw [split] at run
  obtain ⟨-, inForce, -⟩ := (passwords_vouched (by decide) run).1 earlier _ later rfl
  exact ⟨earlier, later, _, run, overtaken, inForce⟩

end Sample

end PlanBuddy.Accounts
