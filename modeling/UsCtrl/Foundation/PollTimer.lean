import UsCtrl.Foundation.WrapClock

/-!
# Polled timers on a grid

A timer that is polled keeps the grid point it has reached (`stamp`). A poll finds it due when at
least one step has passed since that point (`PollTimer.due`), and a due poll moves the point on by
one step, or to the present if it would still lag by more than the window (`PollTimer.grid`). Polls
that come late are made up for by due polls in quick succession, so the number of due polls and the
clock keep together in two ways.

From below (`PollTimer.Earned`): a due poll costs one step of the clock or of the lag that was there
before. From above (`PollTimer.Meets`): when the caller is called at least once each step, a number
of due polls is over by a limit that allows for one resynchronisation, or for none while the lag
leaves room in the window. Both are kept by every poll, due or not (`earned_wait`, `earned_due`,
`meets_wait`, `meets_due`), and use the clock through its readings only.
-/

set_option autoImplicit false
set_option relaxedAutoImplicit false

namespace UsCtrl.Foundation

/-- Assumes: `now` is not later than `now'`. The reading grows by at most what has passed. -/
theorem wrapElapsed_le_add {period now now' stamp : ℕ} (hle : now ≤ now') :
    wrapElapsed period now' stamp + now ≤ wrapElapsed period now stamp + now' := by
  obtain ⟨passed, rfl⟩ := Nat.exists_eq_add_of_le hle
  have hsum : now + passed + (period - stamp % period) =
      now + (period - stamp % period) + passed := by omega
  have hmod : wrapElapsed period (now + passed) stamp ≤ wrapElapsed period now stamp + passed := by
    unfold wrapElapsed
    rw [hsum, ← Nat.mod_add_mod]
    exact Nat.mod_le _ _
  omega

/-- The period of the counter, the step of the grid, and the lag from which the grid is given up. -/
structure PollTimer where
  period : ℕ
  step : ℕ
  window : ℕ

namespace PollTimer

variable (timer : PollTimer)

/-- How far the present lies behind the grid point. -/
def lag (now stamp : ℕ) : ℕ := wrapElapsed timer.period now stamp

/-- A poll finds the timer due. -/
def due (now stamp : ℕ) : Prop := timer.step ≤ timer.lag now stamp

/-- The grid point after a due poll. -/
def grid (now stamp : ℕ) : ℕ :=
  if timer.lag now (stamp + timer.step) > timer.window then now else stamp + timer.step

variable {timer}

/-- Assumes: the timer is due. The poll takes one step off the lag, and all of it if more than the
window would be left. -/
theorem lag_grid {now stamp : ℕ} (hperiod : 0 < timer.period) (hdue : timer.due now stamp) :
    timer.lag now (timer.grid now stamp) =
      if timer.lag now stamp - timer.step > timer.window then 0
      else timer.lag now stamp - timer.step := by
  have hstep : timer.lag now (stamp + timer.step) = timer.lag now stamp - timer.step :=
    wrapElapsed_stamp_add hperiod timer.step hdue
  unfold grid
  rw [hstep]
  split_ifs with hlate
  · exact wrapElapsed_self hperiod
  · exact hstep

theorem lag_grid_le {now stamp : ℕ} (hperiod : 0 < timer.period) (hdue : timer.due now stamp) :
    timer.lag now (timer.grid now stamp) ≤ timer.window := by
  rw [lag_grid hperiod hdue]
  split_ifs with hlate
  · exact Nat.zero_le _
  · exact not_lt.mp hlate

/-! ### Due polls take time -/

/-- Since `origin`, when the lag was `lag₀`, the clock and the lag have paid for `count` steps. -/
def Earned (timer : PollTimer) (origin lag₀ count now stamp : ℕ) : Prop :=
  origin + timer.step * count + timer.lag now stamp ≤ now + lag₀

variable {origin lag₀ count now now' stamp : ℕ}

theorem earned_origin : timer.Earned origin (timer.lag origin stamp) 0 origin stamp := by
  unfold Earned
  omega

/-- Time that passes is not lost. -/
theorem earned_wait (h : timer.Earned origin lag₀ count now stamp) (hle : now ≤ now') :
    timer.Earned origin lag₀ count now' stamp := by
  have hlag : timer.lag now' stamp + now ≤ timer.lag now stamp + now' := wrapElapsed_le_add hle
  unfold Earned at h ⊢
  omega

/-- Assumes: the timer is due. Then the poll is paid for. -/
theorem earned_due (hperiod : 0 < timer.period) (h : timer.Earned origin lag₀ count now stamp)
    (hdue : timer.due now stamp) :
    timer.Earned origin lag₀ (count + 1) now (timer.grid now stamp) := by
  have hlag := lag_grid hperiod hdue
  unfold Earned at h ⊢
  unfold due at hdue
  rw [Nat.mul_add, Nat.mul_one]
  split_ifs at hlag <;> omega

theorem earned_fewer (h : timer.Earned origin lag₀ (count + 1) now stamp) :
    timer.Earned origin lag₀ count now stamp := by
  unfold Earned at h ⊢
  rw [Nat.mul_add, Nat.mul_one] at h
  omega

/-! ### Due polls end in time -/

/-- The caller is called again at `next`, within a step, and the due polls that are left are over by
`limit`. In the first form the lag is small enough for the grid to be kept; the second allows for
giving it up once. -/
structure Meets (timer : PollTimer) (limit next left now stamp : ℕ) : Prop where
  order : now ≤ next
  soon : next ≤ now + timer.step
  bounded : timer.lag now stamp ≤ timer.window
  limit :
    (next + timer.step * left ≤ limit ∧
        now + timer.step * left + 2 * timer.step ≤ limit + timer.lag now stamp + 1 ∧
        next + timer.lag now stamp ≤ now + timer.window) ∨
      next + timer.step * left + 2 * timer.step ≤ limit + 1

/-- What a timer is set up with: the window spans two steps, and the period is far beyond it. -/
structure Roomy (timer : PollTimer) : Prop where
  step : 0 < timer.step
  window : 2 * timer.step ≤ timer.window
  period : timer.window + 2 * timer.step < timer.period

variable {limit next next' left : ℕ}

/-- Assumes: the poll comes in a round that begins at `next`, and the round after it begins at most
one step later. The lag has then grown by exactly what has passed. -/
theorem Meets.lag_eq (h : timer.Meets limit next left now stamp) (hroomy : timer.Roomy)
    (hfrom : next ≤ now') (hto : now' ≤ next') (hgap : next' ≤ next + timer.step) :
    timer.lag now' stamp + now = timer.lag now stamp + now' := by
  obtain ⟨passed, rfl⟩ := Nat.exists_eq_add_of_le (h.order.trans hfrom)
  have hsoon := h.soon
  have hbounded := h.bounded
  have hperiod := hroomy.period
  have hlag : timer.lag (now + passed) stamp = timer.lag now stamp + passed := by
    refine wrapElapsed_add passed ?_
    change timer.lag now stamp + passed < timer.period
    omega
  omega

/-- Assumes: as for `Meets.lag_eq`, and due polls are left. The poll is within the limit. -/
theorem Meets.le_limit (h : timer.Meets limit next left now stamp) (hroomy : timer.Roomy)
    (hleft : 0 < left) (hto : now' ≤ next') (hgap : next' ≤ next + timer.step) : now' ≤ limit := by
  have hpos := hroomy.step
  have hstep : timer.step ≤ timer.step * left := Nat.le_mul_of_pos_right _ hleft
  rcases h.limit with ⟨hlimit, -, -⟩ | hlimit <;> omega

/-- A poll that is not due leaves a lag that is less than a step. -/
theorem meets_wait (h : timer.Meets limit next left now stamp) (hroomy : timer.Roomy)
    (hfrom : next ≤ now') (hto : now' ≤ next') (hgap : next' ≤ next + timer.step)
    (hearly : ¬ timer.due now' stamp) : timer.Meets limit next' left now' stamp := by
  have hlag := h.lag_eq hroomy hfrom hto hgap
  have hwindow := hroomy.window
  have horder := h.order
  have hstep := hroomy.step
  unfold due at hearly
  refine ⟨hto, by omega, by omega, Or.inl ⟨?_, ?_, by omega⟩⟩
  · rcases h.limit with ⟨-, hlimit, -⟩ | hlimit <;> omega
  · rcases h.limit with ⟨-, hlimit, -⟩ | hlimit <;> omega

/-- A limit that is moved by one step leaves time for one more due poll. -/
theorem Meets.more (h : timer.Meets limit next left now stamp) :
    timer.Meets (limit + timer.step) next (left + 1) now stamp := by
  refine ⟨h.order, h.soon, h.bounded, ?_⟩
  rw [Nat.mul_add, Nat.mul_one]
  rcases h.limit with ⟨hlimit, hgrid, hroom⟩ | hlimit
  · exact Or.inl ⟨by omega, by omega, hroom⟩
  · exact Or.inr (by omega)

/-- Assumes: the timer is due. The poll is one of those that were left, and it keeps the grid if the
lag was small enough for that. -/
theorem meets_due (h : timer.Meets limit next (left + 1) now stamp) (hroomy : timer.Roomy)
    (hfrom : next ≤ now') (hto : now' ≤ next') (hgap : next' ≤ next + timer.step)
    (hdue : timer.due now' stamp) :
    timer.Meets limit next' left now' (timer.grid now' stamp) := by
  have hlag := h.lag_eq hroomy hfrom hto hgap
  have hperiod : 0 < timer.period := lt_of_le_of_lt (Nat.zero_le _) hroomy.period
  have hgrid := lag_grid hperiod hdue
  have hlimit := h.limit
  rw [Nat.mul_add, Nat.mul_one] at hlimit
  unfold due at hdue
  refine ⟨hto, by omega, lag_grid_le hperiod hdue, ?_⟩
  rcases hlimit with ⟨hlimit, hgridLimit, hroom⟩ | hlimit
  · rw [if_neg (by omega)] at hgrid
    exact Or.inl ⟨by omega, by omega, by omega⟩
  · exact Or.inr (by omega)

end PollTimer

end UsCtrl.Foundation
