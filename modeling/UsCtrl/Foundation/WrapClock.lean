import Mathlib.Tactic.Common
import Mathlib.Tactic.Ring

/-!
# Elapsed time on a wrapping counter

A free-running counter of period `period` is read as a natural number and stored in a register
that keeps it modulo the period. The difference of two reads is formed modulo the period as well
(`wrapElapsed`). It is the true difference as long as the true difference is below the period
(`wrapElapsed_of_le`), which is the only fact about the clock that a timing argument uses. A clock
that is polled often enough and goes on makes every timer due in the end (`Ticks.due`).
-/

set_option autoImplicit false
set_option relaxedAutoImplicit false

namespace UsCtrl.Foundation

section WrapClock

variable {period now stamp : ℕ}

/-- The difference `now - stamp` as unsigned arithmetic of the given period forms it. -/
def wrapElapsed (period now stamp : ℕ) : ℕ := (now + (period - stamp % period)) % period

theorem wrapElapsed_lt (hperiod : 0 < period) : wrapElapsed period now stamp < period :=
  Nat.mod_lt _ hperiod

/-- Assumes: the stamp is not later than `now`. The reading is the true difference reduced modulo
the period, however many periods lie between them. -/
theorem wrapElapsed_eq_mod (hperiod : 0 < period) (hle : stamp ≤ now) :
    wrapElapsed period now stamp = (now - stamp) % period := by
  obtain ⟨elapsed, rfl⟩ := Nat.exists_eq_add_of_le hle
  have hmod : stamp % period < period := Nat.mod_lt _ hperiod
  have hsplit := Nat.div_add_mod stamp period
  have hsum : stamp + elapsed + (period - stamp % period) =
      elapsed + period * (stamp / period + 1) := by
    rw [Nat.mul_add, Nat.mul_one]
    omega
  rw [wrapElapsed, hsum, Nat.add_mul_mod_self_left, Nat.add_sub_cancel_left]

/-- Assumes: the stamp is not later than `now`, and less than one period lies between them. -/
theorem wrapElapsed_of_le (hle : stamp ≤ now) (hlt : now - stamp < period) :
    wrapElapsed period now stamp = now - stamp := by
  rw [wrapElapsed_eq_mod (by omega) hle, Nat.mod_eq_of_lt hlt]

@[simp] theorem wrapElapsed_self (hperiod : 0 < period) : wrapElapsed period now now = 0 := by
  rw [wrapElapsed_of_le le_rfl (by omega), Nat.sub_self]

/-- Assumes: the stamp lies ahead of `now` by less than one period. The reading is then what is
missing to a full period. -/
theorem wrapElapsed_of_gt (hgt : now < stamp) (hlt : stamp - now < period) :
    wrapElapsed period now stamp = period - (stamp - now) := by
  obtain ⟨ahead, rfl⟩ := Nat.exists_eq_add_of_lt hgt
  have hreading : wrapElapsed period (now + period) (now + ahead + 1) = period - (ahead + 1) := by
    rw [wrapElapsed_of_le (by omega) (by omega)]
    omega
  have hturn : now + period + (period - (now + ahead + 1) % period) =
      now + (period - (now + ahead + 1) % period) + period := by omega
  rw [wrapElapsed, hturn, Nat.add_mod_right] at hreading
  rw [wrapElapsed, hreading]
  omega

/-- Readings add up over an instant in between, up to whole periods. -/
theorem wrapElapsed_trans (hperiod : 0 < period) (mid : ℕ) :
    (wrapElapsed period now mid + wrapElapsed period mid stamp) % period =
      wrapElapsed period now stamp := by
  have hmid : mid % period < period := Nat.mod_lt _ hperiod
  have hsplit := Nat.div_add_mod mid period
  have hsum : now + (period - mid % period) + (mid + (period - stamp % period)) =
      now + (period - stamp % period) + period * (mid / period + 1) := by
    rw [Nat.mul_add, Nat.mul_one]
    omega
  unfold wrapElapsed
  rw [← Nat.add_mod, hsum, Nat.add_mul_mod_self_left]

/-- Assumes: the elapsed reading grown by `step` still fits in one period. Then letting `step` pass
adds `step` to the reading, whatever the true distance to the stamp is. -/
theorem wrapElapsed_add (step : ℕ) (hfit : wrapElapsed period now stamp + step < period) :
    wrapElapsed period (now + step) stamp = wrapElapsed period now stamp + step := by
  have hsum : now + step + (period - stamp % period) = now + (period - stamp % period) + step := by
    omega
  unfold wrapElapsed at hfit ⊢
  rw [hsum, Nat.add_mod, Nat.mod_eq_of_lt (a := step) (by omega), Nat.mod_eq_of_lt hfit]

/-- Assumes: the reading is at least `step`. Then moving the stamp forward by `step` takes `step`
off the reading. -/
theorem wrapElapsed_stamp_add (hperiod : 0 < period) (step : ℕ)
    (hstep : step ≤ wrapElapsed period now stamp) :
    wrapElapsed period now (stamp + step) = wrapElapsed period now stamp - step := by
  have hlt : wrapElapsed period now stamp < period := wrapElapsed_lt hperiod
  have hmod : stamp % period < period := Nat.mod_lt _ hperiod
  have hmod' : (stamp + step) % period < period := Nat.mod_lt _ hperiod
  -- both sides are the representative below the period of one residue class
  have hcongr : (wrapElapsed period now (stamp + step) + step) % period =
      wrapElapsed period now stamp % period := by
    unfold wrapElapsed
    rw [Nat.mod_add_mod, Nat.mod_mod]
    have hdiv := Nat.div_add_mod (stamp + step) period
    have hdiv' := Nat.div_add_mod stamp period
    have hle : stamp / period ≤ (stamp + step) / period :=
      Nat.div_le_div_right (Nat.le_add_right _ _)
    obtain ⟨turns, hturns⟩ := Nat.exists_eq_add_of_le hle
    have hsum : now + (period - (stamp + step) % period) + step =
        now + (period - stamp % period) + period * turns := by
      rw [hturns, Nat.mul_add] at hdiv
      omega
    rw [hsum, Nat.add_mul_mod_self_left]
  rw [Nat.mod_eq_of_lt hlt] at hcongr
  have hlt' : wrapElapsed period now (stamp + step) < period := wrapElapsed_lt hperiod
  by_cases hover : wrapElapsed period now (stamp + step) + step < period
  · rw [Nat.mod_eq_of_lt hover] at hcongr
    omega
  · rw [Nat.mod_eq_sub_mod (by omega), Nat.mod_eq_of_lt (by omega)] at hcongr
    omega

/-- Assumes: the reduced age has left a window at the start of the period, and the age grows by
less than the window. Then it stays out of the window exactly as long as it does not wrap. -/
theorem window_le_mod_iff {window age age' : ℕ} (hwindow : window ≤ period)
    (hout : window ≤ age % period) (hle : age ≤ age') (hgap : age' < age + window) :
    window ≤ age' % period ↔ age' / period = age / period := by
  have hperiod : 0 < period := by omega
  have hmod := Nat.mod_lt age hperiod
  have hsplit := Nat.div_add_mod age period
  have hsplit' := Nat.div_add_mod age' period
  constructor
  · intro hout'
    by_contra hturn
    have hlater : age / period + 1 ≤ age' / period :=
      lt_of_le_of_ne (Nat.div_le_div_right hle) (Ne.symm hturn)
    have hfull : period * (age / period + 1) ≤ period * (age' / period) :=
      Nat.mul_le_mul_left period hlater
    rw [Nat.mul_add, Nat.mul_one] at hfull
    omega
  · intro hturn
    rw [hturn] at hsplit'
    omega

/-! ### A clock that is read over and over -/

/-- The readings of a clock that goes on: they do not go back, they exceed every bound, and two in a
row are less than a period apart, by a step. -/
structure Ticks (period step : ℕ) (reads : ℕ → ℕ) : Prop where
  forward : ∀ i, reads i ≤ reads (i + 1)
  dense : ∀ i, reads (i + 1) + step < reads i + period
  unbounded : ∀ bound, ∃ i, bound ≤ reads i

/-- Assumes: at reading `i` the stamp is not older than a step. Some later reading finds a step
elapsed for the first time. -/
theorem Ticks.due {step : ℕ} {reads : ℕ → ℕ} (hticks : Ticks period step reads) {i : ℕ}
    (hle : stamp ≤ reads i) (hearly : reads i < stamp + step) :
    ∃ wait, step ≤ wrapElapsed period (reads (i + wait + 1)) stamp ∧
      ∀ k ≤ wait, wrapElapsed period (reads (i + k)) stamp < step := by
  have hmono : ∀ k, stamp ≤ reads (i + k) := fun k ↦
    hle.trans (monotone_nat_of_le_succ hticks.forward (Nat.le_add_right i k))
  have hpast : ∃ wait, stamp + step ≤ reads (i + wait + 1) := by
    obtain ⟨j, hj⟩ := hticks.unbounded (stamp + step)
    exact ⟨j, hj.trans (monotone_nat_of_le_succ hticks.forward (by omega))⟩
  classical
  have hbelow : ∀ k ≤ Nat.find hpast, reads (i + k) < stamp + step := by
    intro k hk
    cases k with
    | zero => exact hearly
    | succ k => exact not_le.mp (Nat.find_min hpast (show k < Nat.find hpast by omega))
  have hgap := hticks.dense (i + Nat.find hpast)
  have hlast := hbelow _ le_rfl
  refine ⟨Nat.find hpast, ?_, fun k hk ↦ ?_⟩
  · have hreached := Nat.find_spec hpast
    have htrue : wrapElapsed period (reads (i + Nat.find hpast + 1)) stamp =
        reads (i + Nat.find hpast + 1) - stamp :=
      wrapElapsed_of_le (hmono (Nat.find hpast + 1)) (by omega)
    omega
  · have hearlier := hbelow k hk
    have hstart := hmono k
    have hfits : step < period := by
      have hnext := hticks.forward i
      have hapart := hticks.dense i
      omega
    rw [wrapElapsed_of_le hstart (by omega)]
    omega

end WrapClock

end UsCtrl.Foundation
