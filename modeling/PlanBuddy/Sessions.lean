import Mathlib.Logic.Function.Basic

/-!
# Database sessions

A session has settings and at most one transaction block. SET LOCAL overrides a setting
until the block ends, and does nothing where no block is open. Work in a block is committed
with it, and work outside of one is committed at once.

Settings, their values and the changes that are committed are arbitrary types. No statement
here changes the settings of the session itself.
-/

namespace PlanBuddy.Sessions

universe u v w
variable {κ : Type u} {ν : Type v} {δ : Type w}

/-- An open transaction block. -/
structure Block (κ : Type u) (ν : Type v) (δ : Type w) where
  locals : κ → Option ν
  pending : List δ

structure Session (κ : Type u) (ν : Type v) (δ : Type w) where
  settings : κ → ν
  block : Option (Block κ ν δ)

inductive Statement (κ : Type u) (ν : Type v) (δ : Type w) where
  | setLocal (setting : κ) (value : ν)
  | begin
  | work (change : δ)
  | commit
  | rollback

/-- A session of the settings, in no block. -/
def Session.idle (settings : κ → ν) : Session κ ν δ := ⟨settings, none⟩

/-- What a statement is executed under. -/
def Session.inForce (session : Session κ ν δ) (setting : κ) : ν :=
  (session.block.bind fun block => block.locals setting).getD (session.settings setting)

/-- A session in a block in which nothing was set, with the work that was done in it. -/
def Session.working (settings : κ → ν) (pending : List δ) : Session κ ν δ :=
  ⟨settings, some ⟨fun _ => none, pending⟩⟩

variable {settings : κ → ν}

/-- The settings in force outside of a transaction. -/
@[simp] theorem idle_inForce : (Session.idle settings : Session κ ν δ).inForce = settings := rfl

/-- The settings in force inside. -/
@[simp] theorem working_inForce (pending : List δ) :
    (Session.working settings pending).inForce = settings := rfl

variable [DecidableEq κ]

/-- The session after a statement, and the changes that it committed. BEGIN in a block, and
SET LOCAL, COMMIT or ROLLBACK outside of one, only raise a warning. -/
def Session.run (session : Session κ ν δ) :
    Statement κ ν δ → Session κ ν δ × List δ
  | .setLocal setting value =>
    match session.block with
    | none => (session, [])
    | some block =>
      ({ session with
          block := some { block with
            locals := Function.update block.locals setting (some value) } }, [])
  | .begin =>
    match session.block with
    | none => ({ session with block := some ⟨fun _ => none, []⟩ }, [])
    | some _ => (session, [])
  | .work change =>
    match session.block with
    | none => (session, [change])
    | some block => ({ session with
        block := some { block with pending := block.pending ++ [change] } }, [])
  | .commit =>
    match session.block with
    | none => (session, [])
    | some block => ({ session with block := none }, block.pending)
  | .rollback => ({ session with block := none }, [])

/-- SET LOCAL outside of a block has no effect. -/
@[simp] theorem idle_setLocal (setting : κ) (value : ν) :
    (Session.idle settings : Session κ ν δ).run (.setLocal setting value) =
      (.idle settings, []) := rfl

/-- A statement outside is its own transaction. -/
@[simp] theorem idle_work (change : δ) :
    (Session.idle settings : Session κ ν δ).run (.work change) = (.idle settings, [change]) := rfl

/-- A transaction begins. -/
@[simp] theorem idle_begin :
    (Session.idle settings : Session κ ν δ).run .begin = (.working settings [], []) := rfl

/-- Outside there is nothing to roll back. -/
@[simp] theorem idle_rollback :
    (Session.idle settings : Session κ ν δ).run .rollback = (.idle settings, []) := rfl

/-- A statement inside waits for the commit. -/
@[simp] theorem working_work (pending : List δ) (change : δ) :
    (Session.working settings pending).run (.work change) =
      (.working settings (pending ++ [change]), []) := rfl

/-- A commit makes all of them permanent. -/
@[simp] theorem working_commit (pending : List δ) :
    (Session.working settings pending).run .commit = (.idle settings, pending) := rfl

/-- A rollback none. -/
@[simp] theorem working_rollback (pending : List δ) :
    (Session.working settings pending).run .rollback = (.idle settings, []) := rfl

end PlanBuddy.Sessions
