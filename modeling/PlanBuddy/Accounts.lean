import PlanBuddy.LoginLockout
import PlanBuddy.TokenLifetimes
import PlanBuddy.WebhookIngest

/-!
# Accounts and what is done in their name

`authController.js` creates accounts, checks passwords, signs tokens and replaces passwords;
`authenticate` and `requireRole` let requests through to the other controllers. Each of these
functions is cut at its awaits: whatever else happens to the tables in between, a request goes
on with the rows it has read.

What is not under the control of the code comes with an action: the fresh identifier of a row, the
salt of a hash, the code that was drawn, what the caches and the refresh service answer, and
whether an awaited call fails. Identifiers of tokens are left out, since only the revocation of
tokens depends on them; the answers of `isRevoked` and of the cache of active users may be any.

Addresses are ASCII, as the schema of the routes lets through no others. The controller also exports
functions that no route mounts. Those that read `req.user` stand behind `authenticate` here.
-/

namespace PlanBuddy.Accounts

open TokenLifetimes (trim)
open WebhookIngest (lowerCase)

section Rows

/-- The values that the column `role` admits. -/
inductive Role where
  | user
  | agency
  | admin
deriving DecidableEq

def Role.text : Role → String
  | .user => "user"
  | .agency => "agency"
  | .admin => "admin"

variable (η : Type)

/-- A row of `users`; hashes of passwords are of any type. -/
structure UserRow extends Lockout.UserRow where
  id : Nat
  email : String
  passwordHash : η
  name : String
  phone : Option String
  role : Role
  passwordChangedAt : Option Time
deriving DecidableEq

abbrev Users := Table (UserRow.id (η := η))

/-- A row of `password_reset_tokens`. -/
structure ResetToken where
  tokenHash : η
  expiresAt : Time
  attempts : Nat
deriving DecidableEq

end Rows

section Requests

/-- What `jwt.verify` returns, in seconds. -/
structure Claims where
  id : Nat
  role : Role
  iat : Int
deriving DecidableEq

/-- The body of a registration. -/
structure Form where
  email : String
  password : String
  name : String
  phone : Option String
  role : Option String
deriving DecidableEq

/-- The controllers that read `req.user`, with the bodies of those that change an account. -/
inductive Handler where
  | getUserBookings
  | getBooking
  | cancelBooking
  | getAllBookings
  | createOrder
  | verifyPayment
  | getPaymentStatus
  | manualReconcile
  | updateProfile (name phone : Option String)
  | changePassword (currentPassword newPassword : String)
deriving DecidableEq

/-- The arguments of `requireRole` on the route; without it there are none. -/
def Handler.roles : Handler → List Role
  | .getAllBookings | .manualReconcile => [.admin]
  | _ => []

variable (η : Type)

/-- What replaced a password rested on: a password with a token, or a code. -/
inductive Proof where
  | password (presented : String) (stored : η) (claims : Claims)
  | code (otp : String) (tokenHash : η)
deriving DecidableEq

/-- A request, by what it awaits, with what it has read. -/
inductive Request where
  | looking (form : Form)
  | hashing (form : Form)
  | inserting (form : Form) (passwordHash : η)
  | selecting (email password : String)
  | comparing (user : UserRow η) (password : String)
  | recording (user : UserRow η)
  | clearing (user : UserRow η)
  | reloading (userId : Nat) (createdAt : Option Time)
  | revoking (handler : Handler) (claims : Claims)
  | aging (handler : Handler) (claims : Claims)
  | activating (handler : Handler) (claims : Claims)
  | updating (claims : Claims) (name phone : Option String)
  | reading (claims : Claims) (currentPassword newPassword : String)
  | verifying (claims : Claims) (currentPassword newPassword : String) (stored : η)
  | finding (email : String)
  | coding (userId : Nat) (otp : String)
  | upserting (userId : Nat) (tokenHash : η)
  | joining (email otp newPassword : String)
  | discarding (userId : Nat)
  | guessing (userId : Nat) (otp newPassword : String) (tokenHash : η)
  | counting (userId : Nat)
  | rehashing (userId : Nat) (newPassword : String) (proof : Proof η)
  | storing (userId : Nat) (passwordHash : η) (proof : Proof η)
  | answered (status : Nat)
  | raised
deriving DecidableEq

inductive Event where
  | registered (row : UserRow η)
  | loggedIn (user : UserRow η) (password : String)
  | minted (claims : Claims)
  | authorized (handler : Handler) (claims : Claims)
  | coded (userId : Nat) (tokenHash : η)
  | passwordSet (userId : Nat) (passwordHash : η) (proof : Proof η)
deriving DecidableEq

structure App where
  users : Users η
  resets : Nat → Option (ResetToken η)
  minted : List Claims
  requests : List (Request η)

/-- What an awaited call answers where the tables do not say. `verdict` is a cached answer. -/
structure Input where
  now : Time
  id : Nat
  salt : Nat
  otp : String
  verdict : Option Bool
  failed : Bool

inductive Action where
  | register (form : Form)
  | login (email password : String)
  | refreshToken (rotation : Option (Nat × Option Time))
  | call (handler : Handler) (token : String) (now : Time)
  | forgotPassword (email : String)
  | resetPassword (email otp newPassword : String)
  | proceed (index : Nat) (input : Input)

end Requests

section Checks

variable {η : Type}

def maxPasswordLen : Nat := 72

/-- `text.length`, in UTF-16 code units. -/
def units (text : String) : Nat :=
  (text.toList.map fun char => if char.toNat < 0x10000 then 1 else 2).sum

/-- `email.toLowerCase().trim()`. -/
def normalizedEmail (email : String) : String := String.ofList (trim (lowerCase email))

def allowedRoles : List Role := [.user, .agency]

/-- A role that is missing counts as a user's. -/
def safeRole (role : Option String) : Role :=
  (allowedRoles.find? fun allowed => decide (allowed.text = role.getD "user")).getD .user

/-- `text || null`. -/
def orNull (text : Option String) : Option String := text.filter fun value => decide (value ≠ "")

/-- The checks on the body of a registration. -/
def Form.check (form : Form) : Request η :=
  if form.email = "" ∨ form.password = "" ∨ form.name = "" then .answered 400
  else if units form.password < 8 ∨ maxPasswordLen < units form.password then .answered 400
  else .looking form

def checkLogin (email password : String) : Request η :=
  if email = "" ∨ password = "" then .answered 400
  else if maxPasswordLen < units password then .answered 401
  else .selecting email password

def badLength (newPassword : String) : Prop :=
  units newPassword < 8 ∨ maxPasswordLen < units newPassword

instance (newPassword : String) : Decidable (badLength newPassword) :=
  inferInstanceAs (Decidable (_ ∨ _))

/-- `/^\d{6}$/.test(otp)`. -/
def isCode (otp : String) : Bool :=
  decide (otp.toList.length = 6) && otp.toList.all Char.isDigit

def checkReset (email otp newPassword : String) : Request η :=
  if email = "" ∨ otp = "" ∨ newPassword = "" then .answered 400
  else if isCode otp = false then .answered 400
  else if badLength newPassword then .answered 400
  else .joining email otp newPassword

/-- Where a request that passed the guards of its route goes on. -/
def enter (claims : Claims) : Handler → Request η
  | .updateProfile name phone =>
    if orNull name = none ∧ orNull phone = none then .answered 400
    else .updating claims name phone
  | .changePassword currentPassword newPassword =>
    if currentPassword = "" ∨ newPassword = "" then .answered 400
    else if badLength newPassword then .answered 400
    else .reading claims currentPassword newPassword
  | _ => .answered 200

/-- `requireRole`. -/
def Handler.permits (handler : Handler) (role : Role) : Bool :=
  decide (handler.roles = [] ∨ role ∈ handler.roles)

end Checks

section Steps

variable {η : Type}

def App.row (app : App η) (email : String) : Option (UserRow η) :=
  app.users.rows.find? fun row => decide (row.email = email)

/-- `UPDATE users SET … WHERE id = …`. -/
def App.alter (app : App η) (userId : Nat) (assign : UserRow η → UserRow η)
    (keeps : ∀ row, (assign row).id = row.id := by intro row; rfl) : App η :=
  { app with users := app.users.update (fun row => decide (row.id = userId)) assign keeps }

/-- `generateToken` for an account. -/
def claimsOf (user : UserRow η) (now : Time) : Claims := ⟨user.id, user.role, now / 1000⟩

def App.mint (app : App η) (claims : Claims) : App η :=
  { app with minted := app.minted ++ [claims] }

/-- The row that `register` inserts, with the defaults of the other columns. -/
def Form.row (form : Form) (passwordHash : η) (id : Nat) : UserRow η where
  failedLoginAttempts := 0
  lockedUntil := none
  isActive := true
  id := id
  email := normalizedEmail form.email
  passwordHash := passwordHash
  name := String.ofList (trim form.name.toList)
  phone := orNull form.phone
  role := safeRole form.role
  passwordChangedAt := none

/-- Neither the key nor the address of the row is taken. -/
def App.admits (app : App η) (row : UserRow η) : Bool :=
  app.users.rows.all fun other => decide (other.id ≠ row.id ∧ other.email ≠ row.email)

/-- A statement about the unexpired reset token of an active account. -/
def App.resetRow (app : App η) (email : String) (now : Time) : Option (Nat × ResetToken η) := do
  let user ← (app.row (normalizedEmail email)).filter fun row => row.isActive
  let token ← (app.resets user.id).filter fun token => decide (now < token.expiresAt)
  return (user.id, token)

/-- `isTokenBeforePasswordChange`. -/
def App.stale (app : App η) (claims : Claims) : Bool :=
  ((app.users.lookup claims.id).bind fun row => row.passwordChangedAt).any fun changedAt =>
    decide (claims.iat * 1000 < changedAt)

/-- `isUserActive`, with the answer of its cache. -/
def App.active (app : App η) (claims : Claims) (cached : Option Bool) : Bool :=
  cached.getD ((app.users.lookup claims.id).any fun row => row.isActive)

/-- The columns that `storing` sets. -/
def UserRow.renewed (passwordHash : η) (now : Time) (row : UserRow η) : UserRow η :=
  { row with passwordHash := passwordHash, passwordChangedAt := some now }

/-- The columns that `updateProfile` sets. -/
def UserRow.profiled (name phone : Option String) (row : UserRow η) : UserRow η :=
  { row with
    name := (orNull name).elim row.name fun text => String.ofList (trim text.toList)
    phone := (orNull phone).elim row.phone fun text => some (String.ofList (trim text.toList)) }

variable (compare : String → η → Bool) (hash : String → Nat → η)

/-- The awaited call of a request returns, and the request goes on to the next one. -/
def advance (app : App η) (input : Input) : Request η → App η × Request η × List (Event η)
  | .looking form =>
    (app, if (app.row (normalizedEmail form.email)).isSome then .answered 409 else .hashing form, [])
  | .hashing form => (app, .inserting form (hash form.password input.salt), [])
  | .inserting form passwordHash =>
    let row := form.row passwordHash input.id
    if app.admits row then
      ({ app with users := (app.users.insert row).1 }.mint (claimsOf row input.now), .answered 201,
        [.registered row, .minted (claimsOf row input.now)])
    else (app, .raised, [])
  | .selecting email password =>
    match app.row (normalizedEmail email) with
    | none => (app, .answered 401, [])
    | some user =>
      match user.toUserRow.check input.now with
      | .answered status => (app, .answered status, [])
      | _ => (app, .comparing user password, [])
  | .comparing user password =>
    if compare password user.passwordHash then
      if 0 < user.failedLoginAttempts then (app, .clearing user, [.loggedIn user password])
      else (app.mint (claimsOf user input.now), .answered 200,
        [.loggedIn user password, .minted (claimsOf user input.now)])
    else (app, .recording user, [])
  | .recording user =>
    (app.alter user.id fun row =>
      { row with toUserRow := row.toUserRow.fail user.toUserRow input.now }, .answered 401, [])
  | .clearing user =>
    ((app.alter user.id fun row => { row with failedLoginAttempts := 0, lockedUntil := none }).mint
      (claimsOf user input.now), .answered 200, [.minted (claimsOf user input.now)])
  | .reloading userId createdAt =>
    match (app.users.lookup userId).filter fun row => row.isActive with
    | none => (app, .answered 401, [])
    | some user =>
      if (createdAt.bind fun created => user.passwordChangedAt.map fun changed => (created, changed)).any
          fun (created, changed) => decide (created < changed) then (app, .answered 401, [])
      else (app.mint (claimsOf user input.now), .answered 200, [.minted (claimsOf user input.now)])
  | .revoking handler claims =>
    (app, if input.verdict = some true then .answered 401 else .aging handler claims, [])
  | .aging handler claims =>
    (app, if app.stale claims then .answered 401 else .activating handler claims, [])
  | .activating handler claims =>
    if app.active claims input.verdict = false then (app, .answered 403, [])
    else if handler.permits claims.role = false then (app, .answered 403, [])
    else (app, enter claims handler, [.authorized handler claims])
  | .updating claims name phone =>
    (app.alter claims.id (UserRow.profiled name phone), .answered 200, [])
  | .reading claims currentPassword newPassword =>
    match app.users.lookup claims.id with
    | none => (app, .answered 404, [])
    | some user => (app, .verifying claims currentPassword newPassword user.passwordHash, [])
  | .verifying claims currentPassword newPassword stored =>
    (app, if compare currentPassword stored then
      .rehashing claims.id newPassword (.password currentPassword stored claims)
      else .answered 401, [])
  | .finding email =>
    match (app.row (normalizedEmail email)).filter fun row => row.isActive with
    | none => (app, .answered 200, [])
    | some user => (app, .coding user.id input.otp, [])
  | .coding userId otp => (app, .upserting userId (hash otp input.salt), [])
  | .upserting userId tokenHash =>
    ({ app with
      resets := Function.update app.resets userId
        (some ⟨tokenHash, input.now + (15 * 60 * 1000 : Nat), 0⟩) },
      .answered 200, [.coded userId tokenHash])
  | .joining email otp newPassword =>
    match app.resetRow email input.now with
    | none => (app, .answered 400, [])
    | some (userId, token) =>
      (app, if 5 ≤ token.attempts then .discarding userId
        else .guessing userId otp newPassword token.tokenHash, [])
  | .discarding userId =>
    ({ app with resets := Function.update app.resets userId none }, .answered 400, [])
  | .guessing userId otp newPassword tokenHash =>
    (app, if compare otp tokenHash then .rehashing userId newPassword (.code otp tokenHash)
      else .counting userId, [])
  | .counting userId =>
    ({ app with
      resets := Function.update app.resets userId ((app.resets userId).map fun token =>
        { token with attempts := token.attempts + 1 }) }, .answered 400, [])
  | .rehashing userId newPassword proof =>
    (app, .storing userId (hash newPassword input.salt) proof, [])
  | .storing userId passwordHash proof =>
    let altered := app.alter userId (UserRow.renewed passwordHash input.now)
    let next := match proof with
      | .password _ _ _ => altered
      | .code _ _ => { altered with resets := Function.update altered.resets userId none }
    (next, .answered 200, [.passwordSet userId passwordHash proof])
  | .answered status => (app, .answered status, [])
  | .raised => (app, .raised, [])

/-- The two checks of a token that let a failure pass. -/
def Request.lenient : Request η → Option (Request η)
  | .revoking handler claims => some (.aging handler claims)
  | .aging handler claims => some (.activating handler claims)
  | .activating _ _ => some (.answered 403)
  | _ => none

variable (verifyToken : Time → String → Option Claims)

def App.join (app : App η) (request : Request η) : App η :=
  { app with requests := app.requests ++ [request] }

def step (app : App η) : Action → Option (App η × List (Event η))
  | .register form => some (app.join form.check, [])
  | .login email password => some (app.join (checkLogin email password), [])
  | .refreshToken rotation =>
    some (app.join (rotation.elim (.answered 401) fun (userId, createdAt) =>
      .reloading userId createdAt), [])
  | .call handler token now =>
    some (app.join ((verifyToken now token).elim (.answered 401) (.revoking handler)), [])
  | .forgotPassword email =>
    some (app.join (if email = "" then .answered 400 else .finding email), [])
  | .resetPassword email otp newPassword => some (app.join (checkReset email otp newPassword), [])
  | .proceed index input => do
    let request ← app.requests[index]?
    if input.failed then
      return ({ app with requests := app.requests.set index (request.lenient.getD .raised) }, [])
    else
      let (next, moved, observed) := advance compare hash app input request
      return ({ next with requests := next.requests.set index moved }, observed)

/-- A token that verifies was signed with the secret, so by `generateToken`. -/
def Unforged (app : App η) : Action → Prop
  | .call _ token now => (verifyToken now token).all fun claims => decide (claims ∈ app.minted)
  | _ => True

instance (app : App η) : (action : Action) → Decidable (Unforged verifyToken app action)
  | .call _ _ _ => inferInstanceAs (Decidable (_ = true))
  | .register _ | .login _ _ | .refreshToken _ | .forgotPassword _ | .resetPassword _ _ _
  | .proceed _ _ => inferInstanceAs (Decidable True)

/-- A deployment with the accounts that its operators created. -/
def App.seeded (seeds : Users η) : App η := ⟨seeds, fun _ => none, [], []⟩

end Steps

end PlanBuddy.Accounts
