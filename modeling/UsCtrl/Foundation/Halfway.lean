import Mathlib.Algebra.Group.Nat.Defs
import Mathlib.Algebra.Order.Group.Int
import Mathlib.Order.Monotone.Basic
import Mathlib.Logic.Function.Iterate
import Mathlib.Tactic.Common

/-!
# Going half of the way

A filter that adds half of the difference to its target, the half being truncated towards zero
(`halfway`). It never leaves the stretch between its value and its target (`halfway_between`), and
what is left of the distance is half of it, rounded up (`halfway_distance`): the truncation gives
way on either side of the target alike. Towards a fixed target the distance never grows
(`antitone_distance`), and it gets down to 1 (`distance_iterate`).
-/

set_option autoImplicit false
set_option relaxedAutoImplicit false

namespace UsCtrl.Foundation

/-- The value moved by half of the difference to its target, truncated towards zero. -/
def halfway (target value : ℤ) : ℤ := value + (target - value).tdiv 2

/-- How far the value is from its target. -/
def distance (target value : ℤ) : ℕ := (value - target).natAbs

/-- Below the target the half is rounded down. -/
theorem halfway_of_le {target value : ℤ} (hbelow : value ≤ target) :
    halfway target value = value + (target - value) / 2 := by
  rw [halfway, Int.tdiv_eq_ediv_of_nonneg (Int.sub_nonneg_of_le hbelow)]

/-- Above the target so is what is taken away. -/
theorem halfway_of_ge {target value : ℤ} (habove : target ≤ value) :
    halfway target value = value - (value - target) / 2 := by
  rw [halfway, ← neg_sub value target, Int.neg_tdiv,
    Int.tdiv_eq_ediv_of_nonneg (Int.sub_nonneg_of_le habove)]
  rfl

theorem halfway_between (target value : ℤ) :
    min value target ≤ halfway target value ∧ halfway target value ≤ max value target := by
  rcases le_total value target with hbelow | habove
  · rw [halfway_of_le hbelow, min_eq_left hbelow, max_eq_right hbelow]
    omega
  · rw [halfway_of_ge habove, min_eq_right habove, max_eq_left habove]
    omega

/-- Half of the distance is left, rounded up. -/
theorem halfway_distance (target value : ℤ) :
    distance target (halfway target value) = (distance target value + 1) / 2 := by
  unfold distance
  rcases le_total value target with hbelow | habove
  · rw [halfway_of_le hbelow]
    omega
  · rw [halfway_of_ge habove]
    omega

/-- Towards a fixed target the distance never grows. -/
theorem antitone_distance (target value : ℤ) :
    Antitone fun count ↦ distance target ((halfway target)^[count] value) := by
  refine antitone_nat_of_succ_le fun count ↦ ?_
  rw [Function.iterate_succ_apply', halfway_distance]
  omega

/-- After some steps the distance has been divided by that power of two, rounded up. -/
theorem distance_iterate (target value : ℤ) (count : ℕ) :
    distance target ((halfway target)^[count] value) =
      (distance target value + 2 ^ count - 1) / 2 ^ count := by
  induction count with
  | zero => simp
  | succ count ih =>
    have hpositive : 0 < 2 ^ count := Nat.two_pow_pos count
    have hnext : distance target value + 2 ^ (count + 1) - 1 =
        distance target value + 2 ^ count - 1 + 2 ^ count := by
      rw [Nat.pow_succ]
      omega
    rw [Function.iterate_succ_apply', halfway_distance, ih, hnext, Nat.pow_succ,
      ← Nat.div_div_eq_div_mul, Nat.add_div_right _ hpositive]

end UsCtrl.Foundation
