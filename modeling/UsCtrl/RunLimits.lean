import UsCtrl.RunEvents

/-!
# Every run is bounded

What one call of the regulation tick guarantees in every reachable state and for every set of
limits (`run_limits`): the 30 s ceiling for every source, the energy and on-time limits of direct
runs, when the over-time error is new, and that the output follows the run owner at every publish.
Elapsed times are the unsigned 32-bit differences the firmware forms.
-/

set_option autoImplicit false
set_option relaxedAutoImplicit false

namespace UsCtrl

/-- A direct run is one of the panel, of a link or of the start button. -/
theorem UsRun.direct_iff (src : UsRun) :
    src.direct = true ↔ src = .touch ∨ src = .comm ∨ src = .remote := by
  cases src <;> simp [UsRun.direct]

theorem energyReached_not {lim : RegRunLimits} {s : Sys} (h : ¬ energyReached lim s) :
    lim.limitEnergy = 0 ∨ s.measure.currEnergy < lim.limitEnergy := by
  unfold energyReached at h
  by_cases hlimit : lim.limitEnergy = 0
  · exact Or.inl hlimit
  · exact Or.inr (lt_of_not_ge fun hreached ↦ h ⟨hlimit, hreached⟩)

/-- A new over-time error stops a direct energy-mode run, late and short of its target. -/
theorem RegTick.ovtime {lim : RegRunLimits} {tick : RegTickIn} {s s' : Sys}
    (htick : RegTick lim tick s s') (hbefore : s.reg.errorStatus.ovtime = false)
    (hafter : s'.reg.errorStatus.ovtime = true) :
    s.reg.usRunStatus.direct = true ∧ s'.reg.usRunStatus = .idle ∧ lim.energyCtrl = true ∧
      ¬ energyReached lim s ∧ runElapsed tick.now s ≥ lim.limitOutTime * ovtimeSecMs := by
  rcases htick.error with hsame | ⟨-, hstop⟩
  · rw [hsame, hbefore] at hafter
    exact absurd hafter Bool.false_ne_true
  · exact hstop

/-- Assumes: the output pin carries the level last published. Then a call that publishes drives the
pin to the run owner's level. -/
theorem RegTick.usOut_publish {lim : RegRunLimits} {tick : RegTickIn} {s s' : Sys}
    (htick : RegTick lim tick s s') (hs : s.pins.usOut = s.reg.usOutOn)
    (hpublishes : regPublishes tick s = true) :
    s'.pins.usOut = decide (s'.reg.usRunStatus ≠ .idle) := by
  have houtOn := htick.outOn
  rw [if_pos hpublishes] at houtOn
  rw [htick.usOut, ← houtOn]
  split_ifs with hsame
  · rw [hs, hsame]
  · rfl

/-- For every reachable state and every call of the regulation tick: a run that is active after the
call is less than 30 s old; a direct run in energy mode is within its time limit and had not reached
its energy target; a link or button run in on-time mode is within its on-time; the over-time error
is new only if the call stops an energy-mode run at or after its time limit and short of its target;
a run is active only with the warm-up over; and a call that publishes drives the output to the level
of the run owner. -/
theorem run_limits (build : Build) (boot : BootIn) (history : List Call) (lim : RegRunLimits)
    (tick : RegTickIn) :
    let s := stateAfter build boot history
    let s' := appRegTick lim tick s
    let elapsed := elapsedMs tick.now s'.reg.runStartMs
    let src := s'.reg.usRunStatus
    (src ≠ .idle → elapsed < 30000) ∧
      (src = .touch ∨ src = .comm ∨ src = .remote → lim.energyCtrl = true →
        elapsed < 1000 * lim.limitOutTime ∧
          (lim.limitEnergy = 0 ∨ s.measure.currEnergy < lim.limitEnergy)) ∧
      (src = .comm ∨ src = .remote → lim.energyCtrl = false → lim.modelType = 0 →
        lim.limitOnTime ≠ 0 → elapsed < 10 * lim.limitOnTime) ∧
      (s.reg.errorStatus.ovtime = false → s'.reg.errorStatus.ovtime = true →
        (s.reg.usRunStatus = .touch ∨ s.reg.usRunStatus = .comm ∨ s.reg.usRunStatus = .remote) ∧
          src = .idle ∧ lim.energyCtrl = true ∧
          ¬ (lim.limitEnergy ≠ 0 ∧ s.measure.currEnergy ≥ lim.limitEnergy) ∧
          elapsed ≥ 1000 * lim.limitOutTime) ∧
      (s.reg.usRunStatus ≠ .idle → s.reg.mainState = 0) ∧
      (src ≠ .idle → s'.reg.mainState = 0) ∧
      (regPublishes tick s = true → s'.pins.usOut = decide (src ≠ .idle)) := by
  intro s s' elapsed src
  have hs : Coherent s := after_coherent build boot history
  have htick : RegTick lim tick s s' := appRegTick_spec lim tick s
  have helapsed : elapsed = runElapsed tick.now s :=
    congrArg (elapsedMs tick.now) htick.stamp
  have hrun : src ≠ .idle → s.reg.usRunStatus ≠ .idle := by
    intro hsrc hidle
    rcases htick.run with hsame | hstop
    · exact hsrc (hsame.trans hidle)
    · exact hsrc hstop
  refine ⟨?_, ?_, ?_, ?_, hs.warm, ?_, htick.usOut_publish hs.usOut⟩
  · intro hsrc
    rw [helapsed]
    exact htick.ceiling hsrc
  · intro hsrc henergy
    obtain ⟨htime, htarget⟩ := htick.energy (src.direct_iff.mpr hsrc) henergy
    rw [helapsed, Nat.mul_comm]
    exact ⟨htime, energyReached_not htarget⟩
  · intro hsrc henergy hmodel hlimit
    rw [helapsed, Nat.mul_comm]
    exact htick.onTime hsrc henergy hmodel hlimit
  · intro hbefore hafter
    obtain ⟨hdirect, hidle, henergy, htarget, hlate⟩ := htick.ovtime hbefore hafter
    refine ⟨s.reg.usRunStatus.direct_iff.mp hdirect, hidle, henergy, htarget, ?_⟩
    rw [helapsed, Nat.mul_comm]
    exact hlate
  · exact fun hsrc ↦ htick.warm (hs.warm (hrun hsrc))

end UsCtrl
