import Mathlib.Order.Lattice
import Mathlib.Tactic.Common

/-!
# Sampled levels and their edges

A line that is looked at once for each step, `level n` being what step `n` sees or puts out. Before
the first step a line is low. An edge is a step that sees a level the step before did not see;
switching a wire on and off at the edges of a level reproduces the level (`foldEdges_level`), and a
line that does not change has no edges (`falls_of_low`). `Pulses` is a pulse of a given length.
-/

set_option autoImplicit false
set_option relaxedAutoImplicit false

namespace UsCtrl.Foundation

section Levels

variable (level : ℕ → Bool)

/-- The level at the step before, low before the first. -/
def sampleBefore : ℕ → Bool
  | 0 => false
  | n + 1 => level n

/-- The line goes from high to low: the press of an active-low button. -/
def falls (n : ℕ) : Bool := sampleBefore level n && !level n

/-- The line goes from low to high. -/
def climbs (n : ℕ) : Bool := !sampleBefore level n && level n

/-- The line is high on exactly `length` steps in a row, the first of them being `first`. -/
structure Pulses (first length : ℕ) : Prop where
  high : ∀ k < length, level (first + k) = true
  before : sampleBefore level first = false
  after : level (first + length) = false

/-- A wire that is switched on and off by two trains of edges, off before on, as it stands before
step `n`. -/
def foldEdges (turnsOn turnsOff : ℕ → Bool) : ℕ → Bool
  | 0 => false
  | n + 1 => turnsOn n || (!turnsOff n && foldEdges turnsOn turnsOff n)

variable {level}

/-- A line that is low since before the first step, or since an earlier step, does not fall. -/
theorem falls_of_low {first n : ℕ} (hlow : ∀ k, first ≤ k → k ≤ n → level k = false)
    (hearlier : first = 0 ∨ first < n) : falls level n = false := by
  have hbefore : sampleBefore level n = false := by
    cases n with
    | zero => rfl
    | succ n => exact hlow n (by omega) (Nat.le_succ n)
  rw [falls, hbefore, Bool.false_and]

/-- A level is the level before but for its edges. -/
theorem level_of_edges (n : ℕ) :
    (climbs level n || (!falls level n && sampleBefore level n)) = level n := by
  unfold climbs falls
  cases sampleBefore level n <;> cases level n <;> rfl

/-- Assumes: the trains are the edges of a level. Behind every step the wire has that level. -/
theorem foldEdges_level {turnsOn turnsOff : ℕ → Bool} (hon : ∀ n, turnsOn n = climbs level n)
    (hoff : ∀ n, turnsOff n = falls level n) (n : ℕ) :
    foldEdges turnsOn turnsOff (n + 1) = level n := by
  have hbefore : foldEdges turnsOn turnsOff n = sampleBefore level n := by
    induction n with
    | zero => rfl
    | succ n ih =>
      rw [foldEdges, ih, hon, hoff, level_of_edges]
      rfl
  rw [foldEdges, hbefore, hon, hoff, level_of_edges]

end Levels

end UsCtrl.Foundation
