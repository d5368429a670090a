import Mathlib.Logic.Function.Basic
import Mathlib.Order.Basic
import Mathlib.Tactic.Linarith
import PlanBuddy.Queues
import PlanBuddy.Runs

/-!
# Counters over fixed windows

A store counts the hits of each key. The first hit of a key opens a window of a fixed length,
and a hit after its end opens the next one. A hit is let through as long as its number in its
window is within the limit.

The windows of a key follow its hits, not a grid. Any interval as long as a window meets two of
them at most, so it sees at most twice the limit of hits let through, and no better bound holds.
-/

namespace PlanBuddy.FixedWindow

universe u v
variable {κ : Type u} {σ : Type v}

structure Window where
  hits : Nat
  resetTime : Time
deriving DecidableEq

/-- The window after one more hit. -/
def Window.hit (length : Nat) (now : Time) : Option Window → Window
  | some window => ⟨window.hits + 1, window.resetTime⟩
  | none => ⟨1, now + length⟩

/-- The window, if it has not ended. -/
def Window.at (later : Time) (window : Option Window) : Option Window :=
  window.filter fun window => decide (later < window.resetTime)

/-- A store that counts hits, with what it promises of the windows open at any instant. The
length of a window is its key's. -/
structure Store (κ : Type u) (σ : Type v) (length : κ → Nat) where
  empty : σ
  increment : σ → κ → Time → σ × Nat
  live : σ → κ → Time → Option Window
  nothing : ∀ key now, live empty key now = none
  counts : ∀ state key now,
    (increment state key now).2 = (Window.hit (length key) now (live state key now)).hits
  keeps : ∀ state key now,
    live (increment state key now).1 key now =
      Window.at now (some (Window.hit (length key) now (live state key now)))
  spares : ∀ state key now other, other ≠ key →
    live (increment state key now).1 other now = live state other now
  ages : ∀ state key now later, now ≤ later →
    live state key later = Window.at later (live state key now)

section Windows

variable {length : Nat} {now later : Time} {window : Window} {opened : Option Window}

/-- A window is open until its reset. -/
theorem mem_at : window ∈ Window.at later opened ↔ window ∈ opened ∧ later < window.resetTime := by
  simp [Window.at, Option.mem_def, Option.filter_eq_some_iff]

end Windows

section Interval

variable {limit length : Nat} {start now later : Time} {through : Nat} {window : Option Window}

/-- What the open window of a key says of the hits of the key that an interval has let
through. A window that ends within the interval began before it, so its hits bound them; a
window that begins within the interval is the second one. -/
structure Bounded (limit length : Nat) (start now : Time) (through : Nat)
    (window : Option Window) : Prop where
  twice : through ≤ 2 * limit
  before : now < start → through = 0
  between : window = none → now < start + length → through ≤ limit
  first : ∀ current, window = some current → current.resetTime < start + length →
    through ≤ min current.hits limit
  second : ∀ current, window = some current → current.resetTime < start + length + length →
    through ≤ limit + min current.hits limit
  recent : ∀ current, window = some current → current.resetTime ≤ now + length

/-- Before the first hit nothing was let through. -/
theorem Bounded.empty (limit length : Nat) (start now : Time) :
    Bounded limit length start now 0 none :=
  ⟨Nat.zero_le _, fun _ => rfl, fun _ _ => Nat.zero_le _, by rintro _ ⟨⟩, by rintro _ ⟨⟩,
    by rintro _ ⟨⟩⟩

/-- Time ends windows, and does nothing else. -/
theorem Bounded.aged (bounded : Bounded limit length start now through window)
    (forward : now ≤ later) :
    Bounded limit length start later through (Window.at later window) := by
  have kept {current : Window} (stays : Window.at later window = some current) :
      window = some current := (mem_at.mp stays).1
  refine ⟨bounded.twice, fun early => bounded.before (lt_of_le_of_lt forward early),
    fun ended early => ?_, fun current stays => bounded.first current (kept stays),
    fun current stays => bounded.second current (kept stays), fun current stays => ?_⟩
  · cases open' : window with
    | none => exact bounded.between open' (lt_of_le_of_lt forward early)
    | some current =>
      have past : current.resetTime ≤ later := by
        by_contra lives
        have stays : current ∈ Window.at later window := mem_at.mpr ⟨open', lt_of_not_ge lives⟩
        rw [ended] at stays
        cases stays
      exact le_trans (bounded.first current open' (lt_of_le_of_lt past early)) (min_le_right ..)
  · linarith [bounded.recent current (kept stays)]

/-- A hit that is let through within the interval. -/
theorem Bounded.admitted (bounded : Bounded limit length start now through window)
    (lives : ∀ current, window = some current → now < current.resetTime)
    (since : start ≤ now) (inside : now < start + length)
    (within : (Window.hit length now window).hits ≤ limit) :
    Bounded limit length start now (through + 1) (some (Window.hit length now window)) := by
  have notBefore (early : now < start) : through + 1 = 0 := absurd early (not_lt_of_ge since)
  cases window with
  | none =>
    -- The hit opens the second window of the interval.
    have between := bounded.between rfl inside
    have single : 1 ≤ limit := within
    refine ⟨by omega, notBefore, by rintro ⟨⟩, ?_, ?_, ?_⟩
    · rintro current ⟨⟩ ends
      simp only [Window.hit] at ends
      linarith
    · rintro current ⟨⟩ -
      simp only [Window.hit, min_eq_left single]
      omega
    · rintro current ⟨⟩
      exact le_refl _
  | some current =>
    have recent := bounded.recent current rfl
    have more : min (current.hits + 1) limit = current.hits + 1 := min_eq_left within
    have fewer : min current.hits limit = current.hits :=
      min_eq_left (Nat.le_of_succ_le within)
    have second := bounded.second current rfl (by linarith)
    have small : current.hits + 1 ≤ limit := within
    rw [fewer] at second
    refine ⟨by omega, notBefore, by rintro ⟨⟩, ?_, ?_, ?_⟩
    · rintro next ⟨⟩ ends
      have first := bounded.first current rfl ends
      simp only [Window.hit, more]
      omega
    · rintro next ⟨⟩ -
      simp only [Window.hit, more]
      omega
    · rintro next ⟨⟩
      exact recent

/-- A hit that is turned away, or that falls outside of the interval. -/
theorem Bounded.uncounted (bounded : Bounded limit length start now through window) :
    Bounded limit length start now through (some (Window.hit length now window)) := by
  cases window with
  | none =>
    refine ⟨bounded.twice, bounded.before, by rintro ⟨⟩, ?_, ?_, ?_⟩
    · rintro current ⟨⟩ ends
      simp only [Window.hit] at ends
      rw [bounded.before (by linarith)]
      exact Nat.zero_le _
    · rintro current ⟨⟩ ends
      simp only [Window.hit] at ends
      exact le_trans (bounded.between rfl (by linarith)) (Nat.le_add_right ..)
    · rintro current ⟨⟩
      exact le_refl _
  | some current =>
    have grows : min current.hits limit ≤ min (current.hits + 1) limit :=
      min_le_min_right limit (Nat.le_succ _)
    refine ⟨bounded.twice, bounded.before, by rintro ⟨⟩, ?_, ?_, ?_⟩
    · rintro next ⟨⟩ ends
      exact le_trans (bounded.first current rfl ends) grows
    · rintro next ⟨⟩ ends
      exact le_trans (bounded.second current rfl ends) (Nat.add_le_add_left grows _)
    · rintro next ⟨⟩
      exact bounded.recent current rfl

end Interval

section Stores

variable {length : κ → Nat}

/-- The windows open at an instant have not ended. -/
theorem Store.live_open (store : Store κ σ length) {state : σ} {key : κ} {now : Time}
    {window : Window} (opened : store.live state key now = some window) :
    now < window.resetTime := by
  rw [store.ages state key now now (le_refl _)] at opened
  exact (mem_at.mp opened).2

/-- A window of a positive length is open at its first hit and after. -/
theorem Store.live_increment (store : Store κ σ length) {state : σ} {key : κ} {now : Time}
    (positive : 0 < length key) :
    store.live (store.increment state key now).1 key now =
      some (Window.hit (length key) now (store.live state key now)) := by
  rw [store.keeps]
  refine mem_at.mpr ⟨rfl, ?_⟩
  cases opened : store.live state key now with
  | none =>
    have : (0 : Time) < length key := by exact_mod_cast positive
    simp only [Window.hit]
    linarith
  | some window =>
    have lives := store.live_open opened
    exact lives

/-- A store that keeps the last window of each key. -/
def memoryStore [DecidableEq κ] (length : κ → Nat) : Store κ (κ → Option Window) length where
  empty _ := none
  increment windows key now :=
    let window := Window.hit (length key) now (Window.at now (windows key))
    (Function.update windows key (some window), window.hits)
  live windows key now := Window.at now (windows key)
  nothing _ _ := rfl
  counts _ _ _ := rfl
  keeps windows key now := by simp only [Function.update_self]
  spares windows key now other different := by simp only [Function.update_of_ne different]
  ages windows key now later forward := by
    ext window
    constructor
    · intro opened
      obtain ⟨stored, lives⟩ := mem_at.mp opened
      exact mem_at.mpr ⟨mem_at.mpr ⟨stored, lt_of_le_of_lt forward lives⟩, lives⟩
    · intro opened
      obtain ⟨opened, lives⟩ := mem_at.mp opened
      exact mem_at.mpr ⟨(mem_at.mp opened).1, lives⟩

end Stores

end PlanBuddy.FixedWindow
