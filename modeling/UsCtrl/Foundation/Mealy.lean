import Mathlib.Order.Lattice
import Mathlib.Tactic.Common

/-!
# Step functions with outputs

A core that is called once for each period is a function from an input and a state to the next
state and the outputs of the call. `mealyState` gives the state the `n`-th call finds, `mealyOut`
what the call puts out. An invariant that counts the calls is carried by one step
(`mealyState_induction`), and a budget that every call lowers bounds the calls
(`mealyState_budget`).

The two-run rule is `mealy_agree`: if a step cannot tell two inputs apart that are similar for
the state it finds, then runs on similar inputs have the same states and the same outputs.
Similarity needs to be checked along one of the runs only.
-/

set_option autoImplicit false
set_option relaxedAutoImplicit false

namespace UsCtrl.Foundation

section Mealy

variable {ι σ ω : Type} (step : ι → σ → σ × ω)

/-- The state the `n`-th call finds. -/
def mealyState (inputs : ℕ → ι) (start : σ) : ℕ → σ
  | 0 => start
  | n + 1 => (step (inputs n) (mealyState inputs start n)).1

/-- The outputs of the `n`-th call. -/
def mealyOut (inputs : ℕ → ι) (start : σ) (n : ℕ) : ω :=
  (step (inputs n) (mealyState step inputs start n)).2

variable {step} {inputs inputs' : ℕ → ι} {start : σ}

theorem mealyState_succ (n : ℕ) :
    mealyState step inputs start (n + 1) =
      (step (inputs n) (mealyState step inputs start n)).1 := rfl

/-- Assumes: the invariant holds of the start before any call, and each call carries it on. -/
theorem mealyState_induction {motive : ℕ → σ → Prop} (hstart : motive 0 start)
    (hstep : ∀ n state, motive n state → motive (n + 1) (step (inputs n) state).1) (n : ℕ) :
    motive n (mealyState step inputs start n) := by
  induction n with
  | zero => exact hstart
  | succ n ih => exact hstep n _ ih

/-- Assumes: every call lowers the budget unless it finds the run ended. Until the run has ended the
calls are paid for, so it ends within its budget. -/
theorem mealyState_budget {budget : σ → ℕ} {ended : σ → Prop}
    (hstep : ∀ n, ended (mealyState step inputs start n) ∨
      budget (mealyState step inputs start (n + 1)) + 1 ≤
        budget (mealyState step inputs start n)) (n : ℕ)
    (hgoing : ∀ k < n, ¬ ended (mealyState step inputs start k)) :
    budget (mealyState step inputs start n) + n ≤ budget start := by
  induction n with
  | zero => exact le_rfl
  | succ n ih =>
    have hpaid := ih fun k hk ↦ hgoing k (Nat.lt_succ_of_lt hk)
    rcases hstep n with hended | hlower
    · exact absurd hended (hgoing n (Nat.lt_succ_self n))
    · omega

/-- Assumes: a step cannot tell similar inputs apart. Two runs whose inputs are similar up to `n`,
each for the state the first run finds, are in the same state at `n` and have put out the same. -/
theorem mealy_agree {similar : σ → ι → ι → Prop}
    (hstep : ∀ state input input', similar state input input' →
      step input' state = step input state) {n : ℕ}
    (hsimilar : ∀ k < n, similar (mealyState step inputs start k) (inputs k) (inputs' k)) :
    mealyState step inputs' start n = mealyState step inputs start n ∧
      ∀ k < n, mealyOut step inputs' start k = mealyOut step inputs start k := by
  induction n with
  | zero => exact ⟨rfl, fun k hk ↦ absurd hk (Nat.not_lt_zero k)⟩
  | succ n ih =>
    obtain ⟨hstate, hout⟩ := ih fun k hk ↦ hsimilar k (Nat.lt_succ_of_lt hk)
    have hsame : step (inputs' n) (mealyState step inputs' start n) =
        step (inputs n) (mealyState step inputs start n) := by
      rw [hstate]
      exact hstep _ _ _ (hsimilar n (Nat.lt_succ_self n))
    refine ⟨congrArg Prod.fst hsame, fun k hk ↦ ?_⟩
    rcases Nat.lt_succ_iff_lt_or_eq.mp hk with hlt | rfl
    · exact hout k hlt
    · exact congrArg Prod.snd hsame

end Mealy

end UsCtrl.Foundation
