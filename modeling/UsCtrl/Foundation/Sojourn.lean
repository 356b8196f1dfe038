import Mathlib.Order.Lattice
import Mathlib.Tactic.Common

/-!
# Sojourns

How long a run stays inside a set of states it has entered. A run is looked at by its positions:
`Lasts inside entry n` says that it is inside at `entry` and at the `n - 1` positions behind it, and
no longer at the next one, so that it makes `n` steps inside. `FirstAt exit n` says that a condition
on the number of the step holds for the first time at step `n`, the first step being step 1.

`lasts_iff_firstAt` is the rule: if what is known of the run after `k` steps inside (`stays k`) is
kept by a step that does not meet the condition, and a step that meets it leaves, then the sojourn
lasts up to the first step that meets it. A run may be known only up to a bound. `firstAt_threshold`
is the case of a condition on the count alone, a countdown.
-/

set_option autoImplicit false
set_option relaxedAutoImplicit false

namespace UsCtrl.Foundation

/-- The condition holds at step `n`, counted from one, and at none before. -/
structure FirstAt (exit : ℕ → Prop) (n : ℕ) : Prop where
  counted : 1 ≤ n
  holds : exit n
  fresh : ∀ k, 1 ≤ k → k < n → ¬ exit k

/-- A threshold is met first at its own count. -/
theorem firstAt_threshold {bound n : ℕ} (hbound : 1 ≤ bound) :
    FirstAt (fun k ↦ bound ≤ k) n ↔ n = bound := by
  constructor
  · intro h
    by_contra hne
    exact h.fresh bound hbound (lt_of_le_of_ne h.holds (Ne.symm hne)) le_rfl
  · rintro rfl
    exact ⟨hbound, le_rfl, fun k _ hk ↦ not_le.mpr hk⟩

theorem firstAt_congr {exit exit' : ℕ → Prop} {n : ℕ} (hsame : ∀ k, exit k ↔ exit' k) :
    FirstAt exit n ↔ FirstAt exit' n := by
  have hfun : exit = exit' := funext fun k ↦ propext (hsame k)
  rw [hfun]

/-- The run is inside at `entry` and makes `n` steps inside. -/
def Lasts (inside : ℕ → Prop) (entry n : ℕ) : Prop :=
  (∀ k < n, inside (entry + k)) ∧ ¬ inside (entry + n)

section Rule

variable {inside exit stays leaves : ℕ → Prop} {entry bound : ℕ}

/-- Assumes: `stays` holds at the entry, and each step up to the bound keeps it, or meets the
condition and leaves. As long as the condition is not met, `stays` goes on. -/
theorem stays_until (hstart : stays 0)
    (hstep : ∀ k, entry + k < bound → stays k → ¬ exit (k + 1) → stays (k + 1)) {n : ℕ}
    (hbound : entry + n ≤ bound) (hnone : ∀ k, 1 ≤ k → k ≤ n → ¬ exit k) : stays n := by
  induction n with
  | zero => exact hstart
  | succ n ih =>
    have hpast : stays n := ih (by omega) fun k hpos hk ↦ hnone k hpos (by omega)
    exact hstep n (by omega) hpast (hnone (n + 1) (by omega) le_rfl)

/-- Assumes: moreover, the run is inside while `stays` holds, and outside behind the step that
leaves. Up to the bound, the sojourn lasts `n` steps exactly if the condition is first met at step
`n`; and there the run has left as it should. -/
theorem lasts_iff_firstAt (hstart : stays 0)
    (hstep : ∀ k, entry + k < bound → stays k →
      (¬ exit (k + 1) → stays (k + 1)) ∧ (exit (k + 1) → leaves (k + 1)))
    (hinside : ∀ k, stays k → inside (entry + k))
    (houtside : ∀ k, leaves k → ¬ inside (entry + k)) {n : ℕ} (hbound : entry + n ≤ bound) :
    (Lasts inside entry n ↔ FirstAt exit n) ∧ (Lasts inside entry n → leaves n) := by
  have hkeep : ∀ k, entry + k < bound → stays k → ¬ exit (k + 1) → stays (k + 1) :=
    fun k hk hstays ↦ (hstep k hk hstays).1
  have hleave : FirstAt exit n → leaves n := by
    intro hfirst
    obtain ⟨m, rfl⟩ := Nat.exists_eq_succ_of_ne_zero (Nat.one_le_iff_ne_zero.mp hfirst.counted)
    have hstays : stays m :=
      stays_until hstart hkeep (by omega) fun k hpos hk ↦ hfirst.fresh k hpos (by omega)
    exact (hstep m (by omega) hstays).2 hfirst.holds
  have hiff : Lasts inside entry n ↔ FirstAt exit n := by
    constructor
    · intro hlasts
      have hpos : 1 ≤ n := by
        rcases Nat.eq_zero_or_pos n with rfl | hpos
        · exact absurd (hinside 0 hstart) hlasts.2
        · exact hpos
      have hnone : ∀ k, 1 ≤ k → k < n → ¬ exit k := by
        intro k
        induction k using Nat.strong_induction_on with
        | _ k ih =>
          intro hk hkn hexit
          obtain ⟨m, rfl⟩ := Nat.exists_eq_succ_of_ne_zero (Nat.one_le_iff_ne_zero.mp hk)
          have hstays : stays m :=
            stays_until hstart hkeep (by omega) fun j hj hjm ↦ ih j (by omega) hj (by omega)
          exact houtside (m + 1) ((hstep m (by omega) hstays).2 hexit) (hlasts.1 (m + 1) hkn)
      refine ⟨hpos, ?_, hnone⟩
      by_contra hexit
      have hstays : stays n := by
        refine stays_until hstart hkeep hbound fun k hk hkn ↦ ?_
        rcases Nat.lt_or_eq_of_le hkn with hlt | rfl
        · exact hnone k hk hlt
        · exact hexit
      exact hlasts.2 (hinside n hstays)
    · intro hfirst
      refine ⟨fun k hk ↦ hinside k ?_, houtside n (hleave hfirst)⟩
      exact stays_until hstart hkeep (by omega) fun j hj hjk ↦ hfirst.fresh j hj (by omega)
  exact ⟨hiff, fun hlasts ↦ hleave (hiff.mp hlasts)⟩

end Rule

end UsCtrl.Foundation
