import UsCtrl.PressSpecs

/-!
# What the regulation tick does to a run

The regulation tick can only end a run: when its 30 s ceiling is reached, or when an automatic limit
of a direct run is (`RegStop`). `RegTick` is the whole tick as later proofs see it: which limits a
run that goes on has met, when the over-time error is raised, and what a call that reaches the
publish gate copies out (`appRegTick_spec`).
-/

set_option autoImplicit false
set_option relaxedAutoImplicit false

namespace UsCtrl

/-! ### What the parts of the tick may change -/

theorem regWarmUp_eq (now : ℕ) (s : Sys) : regWarmUp now s = { s with reg := { s.reg with
    mainState := (regWarmUp now s).reg.mainState
    rampCounter := (regWarmUp now s).reg.rampCounter
    prevRampMs := (regWarmUp now s).reg.prevRampMs } } := by
  unfold regWarmUp
  split_ifs <;> rfl

theorem regAcquire_eq (tick : RegTickIn) (s : Sys) :
    regAcquire tick s = { s with reg := { s.reg with
      ch0Avg := (regAcquire tick s).reg.ch0Avg
      ch0Acc := (regAcquire tick s).reg.ch0Acc
      ch0Cnt := (regAcquire tick s).reg.ch0Cnt
      ch1Avg := (regAcquire tick s).reg.ch1Avg
      ch1Acc := (regAcquire tick s).reg.ch1Acc
      ch1Cnt := (regAcquire tick s).reg.ch1Cnt
      ch1FiltX16 := (regAcquire tick s).reg.ch1FiltX16
      prevAcqMs := (regAcquire tick s).reg.prevAcqMs } } := by
  unfold regAcquire regAcquireCh1 regAcquireCh0
  dsimp only
  split_ifs <;> rfl

theorem regSrDisplayEdge_eq (sr : Bool) (s : Sys) :
    regSrDisplayEdge sr s = { s with
      reg := { s.reg with
        maxAmp := (regSrDisplayEdge sr s).reg.maxAmp
        maxPower := (regSrDisplayEdge sr s).reg.maxPower
        lastAmp := (regSrDisplayEdge sr s).reg.lastAmp
        lastPower := (regSrDisplayEdge sr s).reg.lastPower
        lastEnergy := (regSrDisplayEdge sr s).reg.lastEnergy
        accEnergy := (regSrDisplayEdge sr s).reg.accEnergy
        srDispActive := (regSrDisplayEdge sr s).reg.srDispActive }
      measure := { s.measure with
        currEnergy := (regSrDisplayEdge sr s).measure.currEnergy } } := by
  unfold regSrDisplayEdge
  split_ifs <;> rfl

/-! ### Stops -/

theorem direct_ne_idle {src : UsRun} (hdirect : src.direct = true) : src ≠ .idle := by
  rintro rfl
  cases hdirect

theorem direct_ne_cycle {src : UsRun} (hdirect : src.direct = true) : src ≠ .cycle := by
  rintro rfl
  cases hdirect

/-- The energy target of the limits has been reached by the published energy. -/
def energyReached (lim : RegRunLimits) (s : Sys) : Prop :=
  lim.limitEnergy ≠ 0 ∧ s.measure.currEnergy ≥ lim.limitEnergy

/-- The time since the start of the run, as the 32-bit counters form it. -/
def runElapsed (now : ℕ) (s : Sys) : ℕ := elapsedMs now s.reg.runStartMs

/-- The second state is the first after the stops of the regulation tick at time `now`. -/
structure RegStop (lim : RegRunLimits) (now : ℕ) (s s' : Sys) : Prop where
  rest : s' = { s with reg := s'.reg }
  warm : s.reg.mainState = 0 → s'.reg.mainState = 0
  stamp : s'.reg.runStartMs = s.reg.runStartMs
  outOn : s'.reg.usOutOn = s.reg.usOutOn
  run : s'.reg.usRunStatus = s.reg.usRunStatus ∨ s'.reg.usRunStatus = .idle
  ceiling : s'.reg.usRunStatus ≠ .idle → runElapsed now s < onTimeSafetyMs
  cycle : s.reg.usRunStatus = .cycle → runElapsed now s < onTimeSafetyMs →
    s'.reg.usRunStatus = .cycle
  energy : s'.reg.usRunStatus.direct = true → lim.energyCtrl = true →
    runElapsed now s < lim.limitOutTime * ovtimeSecMs ∧ ¬ energyReached lim s
  onTime : s'.reg.usRunStatus = .comm ∨ s'.reg.usRunStatus = .remote → lim.energyCtrl = false →
    lim.modelType = 0 → lim.limitOnTime ≠ 0 → runElapsed now s < lim.limitOnTime * 10
  error : s'.reg.errorStatus = s.reg.errorStatus ∨
    s'.reg.errorStatus = { s.reg.errorStatus with ovtime := true } ∧
      s.reg.usRunStatus.direct = true ∧ s'.reg.usRunStatus = .idle ∧ lim.energyCtrl = true ∧
        ¬ energyReached lim s ∧ runElapsed now s ≥ lim.limitOutTime * ovtimeSecMs

theorem regStopRun_eq (s : Sys) :
    regStopRun s = { s with reg := (regStopRun s).reg } ∧
      (regStopRun s).reg.mainState = s.reg.mainState ∧
      (regStopRun s).reg.runStartMs = s.reg.runStartMs ∧
      (regStopRun s).reg.usOutOn = s.reg.usOutOn ∧
      (regStopRun s).reg.errorStatus = s.reg.errorStatus ∧
      (regStopRun s).reg.usRunStatus = .idle := by
  unfold regStopRun stopRun
  dsimp only
  split_ifs <;> exact ⟨rfl, rfl, rfl, rfl, rfl, rfl⟩

/-- The two stop checks of the regulation tick, in order. -/
def regStops (lim : RegRunLimits) (now : ℕ) (s : Sys) : Sys :=
  regCheckAutoTerminate now lim (regCheckSafetyCeiling now s)

/-- The stop checks leave the state as it is, or stop the run, with the over-time error or without
it. -/
inductive RegCut (s : Sys) : Sys → Prop
  | stay : RegCut s s
  | stop (hrun : s.reg.usRunStatus ≠ .idle) : RegCut s (regStopRun s)
  | ovtime (hrun : s.reg.usRunStatus ≠ .idle) : RegCut s (appRegRaiseOvtime (regStopRun s))

/-- What the stop checks may change. -/
theorem RegCut.frame {s cut : Sys} (hcut : RegCut s cut) :
    cut = { s with reg := { s.reg with
      usRunStatus := cut.reg.usRunStatus
      lastPower := cut.reg.lastPower
      lastAmp := cut.reg.lastAmp
      lastEnergy := cut.reg.lastEnergy
      lastFreq := cut.reg.lastFreq
      swallowStart := cut.reg.swallowStart
      errorStatus := cut.reg.errorStatus } } := by
  cases hcut with
  | stay => rfl
  | stop | ovtime =>
    dsimp only [regStopRun, stopRun, appRegRaiseOvtime]
    split_ifs <;> rfl

theorem regCheckAutoTerminate_cut (lim : RegRunLimits) (now : ℕ) (s : Sys) :
    RegCut s (regCheckAutoTerminate now lim s) := by
  unfold regCheckAutoTerminate
  dsimp only
  split_ifs with hdirect
  · split
    · exact .stay
    · exact .stop (direct_ne_idle hdirect)
    · exact .ovtime (direct_ne_idle hdirect)
  · exact .stop (direct_ne_idle hdirect)
  · exact .stay
  · exact .stay

/-- A run that the ceiling has stopped is not stopped again. -/
theorem regStops_cut (lim : RegRunLimits) (now : ℕ) (s : Sys) :
    RegCut s (regStops lim now s) := by
  unfold regStops regCheckSafetyCeiling
  split_ifs with hceiling
  · have hidle : (regStopRun s).reg.usRunStatus = .idle := (regStopRun_eq s).2.2.2.2.2
    rw [regCheckAutoTerminate, if_neg fun hdirect ↦ direct_ne_idle hdirect hidle]
    exact .stop hceiling.1
  · exact regCheckAutoTerminate_cut lim now s

/-- A stop taken for a reason of its own meets every limit. -/
theorem regStop_of_stopRun (lim : RegRunLimits) (now : ℕ) (s : Sys)
    (hcycle : s.reg.usRunStatus = .cycle → runElapsed now s < onTimeSafetyMs → False) :
    RegStop lim now s (regStopRun s) := by
  obtain ⟨hrest, hwarm, hstamp, houtOn, herror, hidle⟩ := regStopRun_eq s
  constructor
  · exact hrest
  · exact hwarm.trans
  · exact hstamp
  · exact houtOn
  · exact Or.inr hidle
  · exact fun hrun ↦ absurd hidle hrun
  · exact fun hrun helapsed ↦ (hcycle hrun helapsed).elim
  · exact fun hdirect ↦ absurd hidle (direct_ne_idle hdirect)
  · rw [hidle]
    rintro (hrun | hrun) <;> cases hrun
  · exact Or.inl herror

/-- The stop that raises the over-time error. -/
theorem regStop_of_ovtime (lim : RegRunLimits) (now : ℕ) (s : Sys)
    (hdirect : s.reg.usRunStatus.direct = true) (henergy : lim.energyCtrl = true)
    (htarget : ¬ energyReached lim s) (hlate : runElapsed now s ≥ lim.limitOutTime * ovtimeSecMs) :
    RegStop lim now s (appRegRaiseOvtime (regStopRun s)) := by
  obtain ⟨hrest, hwarm, hstamp, houtOn, herror, hidle⟩ := regStopRun_eq s
  have hraised : (appRegRaiseOvtime (regStopRun s)).reg =
      { (regStopRun s).reg with errorStatus := { s.reg.errorStatus with ovtime := true } } := by
    rw [← herror]
    rfl
  have hidle' : (appRegRaiseOvtime (regStopRun s)).reg.usRunStatus = .idle := hidle
  constructor
  · rw [appRegRaiseOvtime, hrest]
  · exact hwarm.trans
  · exact hstamp
  · exact houtOn
  · exact Or.inr hidle'
  · exact fun hrun ↦ absurd hidle' hrun
  · exact fun hcycle ↦ absurd hcycle (direct_ne_cycle hdirect)
  · exact fun hdirect ↦ absurd hidle' (direct_ne_idle hdirect)
  · rw [hidle']
    rintro (hrun | hrun) <;> cases hrun
  · exact Or.inr ⟨by rw [hraised], hdirect, hidle', henergy, htarget, hlate⟩

/-- A run that goes on, with the limits it has met. -/
theorem regStop_of_stay (lim : RegRunLimits) (now : ℕ) (s : Sys)
    (hceiling : s.reg.usRunStatus ≠ .idle → runElapsed now s < onTimeSafetyMs)
    (henergy : s.reg.usRunStatus.direct = true → lim.energyCtrl = true →
      runElapsed now s < lim.limitOutTime * ovtimeSecMs ∧ ¬ energyReached lim s)
    (honTime : s.reg.usRunStatus = .comm ∨ s.reg.usRunStatus = .remote → lim.energyCtrl = false →
      lim.modelType = 0 → lim.limitOnTime ≠ 0 → runElapsed now s < lim.limitOnTime * 10) :
    RegStop lim now s s :=
  ⟨rfl, id, rfl, rfl, Or.inl rfl, hceiling, fun hcycle _ ↦ hcycle, henergy, honTime, Or.inl rfl⟩

theorem regCheckAutoTerminate_spec (lim : RegRunLimits) (now : ℕ) (s : Sys)
    (hceiling : s.reg.usRunStatus ≠ .idle → runElapsed now s < onTimeSafetyMs) :
    RegStop lim now s (regCheckAutoTerminate now lim s) := by
  unfold regCheckAutoTerminate
  by_cases hdirect : s.reg.usRunStatus.direct = true
  · rw [if_pos hdirect]
    have hcycle : s.reg.usRunStatus = .cycle → runElapsed now s < onTimeSafetyMs → False :=
      fun hcycle _ ↦ direct_ne_cycle hdirect hcycle
    cases henergy : lim.energyCtrl with
    | true =>
      simp only [if_true, regEnergyTermination, Bool.true_eq_false, if_false]
      by_cases htarget : energyReached lim s
      · simp only [if_pos (show lim.limitEnergy ≠ 0 ∧ s.measure.currEnergy ≥ lim.limitEnergy from
          htarget)]
        exact regStop_of_stopRun lim now s hcycle
      · simp only [if_neg (show
          ¬ (lim.limitEnergy ≠ 0 ∧ s.measure.currEnergy ≥ lim.limitEnergy) from
          htarget)]
        by_cases hlate : elapsedMs now s.reg.runStartMs ≥ lim.limitOutTime * ovtimeSecMs
        · simp only [if_pos hlate]
          exact regStop_of_ovtime lim now s hdirect henergy htarget hlate
        · simp only [if_neg hlate]
          exact regStop_of_stay lim now s hceiling (fun _ _ ↦ ⟨by simpa [runElapsed] using hlate,
            htarget⟩) (by simp [henergy])
    | false =>
      simp only [Bool.false_eq_true, if_false]
      split_ifs with hlate
      · exact regStop_of_stopRun lim now s hcycle
      · refine regStop_of_stay lim now s hceiling (by simp [henergy]) ?_
        intro hsrc _ hmodel hlimit
        by_contra helapsed
        exact hlate ⟨hmodel, hsrc, hlimit, by simpa [runElapsed] using helapsed⟩
  · rw [if_neg hdirect]
    refine regStop_of_stay lim now s hceiling (fun h ↦ absurd h hdirect) ?_
    rintro (hrun | hrun) <;> rw [hrun] at hdirect <;> exact absurd rfl hdirect

theorem regStops_spec (lim : RegRunLimits) (now : ℕ) (s : Sys) :
    RegStop lim now s (regStops lim now s) := by
  unfold regStops
  by_cases hceiling : s.reg.usRunStatus ≠ .idle ∧ elapsedMs now s.reg.runStartMs ≥ onTimeSafetyMs
  · have hidle := (regStopRun_eq s).2.2.2.2.2
    have hstay : regCheckAutoTerminate now lim (regStopRun s) = regStopRun s := by
      rw [regCheckAutoTerminate, if_neg fun hdirect ↦ direct_ne_idle hdirect hidle]
    rw [regCheckSafetyCeiling, if_pos hceiling, hstay]
    refine regStop_of_stopRun lim now s fun _ helapsed ↦ ?_
    exact absurd hceiling.2 (by simpa [runElapsed] using helapsed)
  · rw [regCheckSafetyCeiling, if_neg hceiling]
    refine regCheckAutoTerminate_spec lim now s fun hrun ↦ ?_
    by_contra helapsed
    exact hceiling ⟨hrun, by simpa [runElapsed] using helapsed⟩

/-! ### Bookkeeping around the stops -/

/-- A part of the tick that leaves the run, its stamp and the errors alone. -/
structure RegSide (s s' : Sys) : Prop where
  rest : s' = { s with reg := s'.reg }
  warm : s.reg.mainState = 0 → s'.reg.mainState = 0
  stamp : s'.reg.runStartMs = s.reg.runStartMs
  outOn : s'.reg.usOutOn = s.reg.usOutOn
  run : s'.reg.usRunStatus = s.reg.usRunStatus
  error : s'.reg.errorStatus = s.reg.errorStatus

theorem RegSide.refl (s : Sys) : RegSide s s := ⟨rfl, id, rfl, rfl, rfl, rfl⟩

theorem regSide_warmUp (now : ℕ) (s : Sys) : RegSide s (regWarmUp now s) := by
  unfold regWarmUp
  split_ifs with _ hramping
  · exact ⟨rfl, fun hwarm ↦ absurd (hramping.symm.trans hwarm) one_ne_zero, rfl, rfl, rfl, rfl⟩
  · exact ⟨rfl, fun hwarm ↦ absurd (hramping.symm.trans hwarm) one_ne_zero, rfl, rfl, rfl, rfl⟩
  · exact ⟨rfl, id, rfl, rfl, rfl, rfl⟩
  · exact RegSide.refl s

theorem regSide_acquire (tick : RegTickIn) (s : Sys) : RegSide s (regAcquire tick s) := by
  rw [regAcquire_eq]
  exact ⟨rfl, id, rfl, rfl, rfl, rfl⟩

theorem regSide_setpoint (now : ℕ) (s : Sys) : RegSide s (regSetpoint now s) :=
  ⟨rfl, id, rfl, rfl, rfl, rfl⟩

theorem RegStop.of_side {lim : RegRunLimits} {now : ℕ} {s before after s' : Sys}
    (hbefore : RegSide s before) (hstop : RegStop lim now before after)
    (hafter : RegSide after s') : RegStop lim now s s' := by
  have helapsed : runElapsed now before = runElapsed now s := by
    rw [runElapsed, runElapsed, hbefore.stamp]
  have htarget : energyReached lim before ↔ energyReached lim s := by
    unfold energyReached
    rw [hbefore.rest]
  constructor
  · rw [hafter.rest, hstop.rest, hbefore.rest]
  · exact fun hwarm ↦ hafter.warm (hstop.warm (hbefore.warm hwarm))
  · rw [hafter.stamp, hstop.stamp, hbefore.stamp]
  · rw [hafter.outOn, hstop.outOn, hbefore.outOn]
  · rw [hafter.run, ← hbefore.run]
    exact hstop.run
  · rw [hafter.run, ← helapsed]
    exact hstop.ceiling
  · rw [hafter.run, ← helapsed, ← hbefore.run]
    exact hstop.cycle
  · rw [hafter.run, ← helapsed, ← htarget]
    exact hstop.energy
  · rw [hafter.run, ← helapsed]
    exact hstop.onTime
  · rw [hafter.run, hafter.error, ← helapsed, ← htarget, ← hbefore.run, ← hbefore.error]
    exact hstop.error

theorem regTickHead_stop (lim : RegRunLimits) (tick : RegTickIn) (s : Sys) :
    RegStop lim tick.now s (regTickHead lim tick s) := by
  have hwarmUp := regSide_warmUp tick.now { s with reg := { s.reg with calVal := lim.calVal } }
  have hside : RegSide s
      (regWarmUp tick.now { s with reg := { s.reg with calVal := lim.calVal } }) := by
    constructor
    · rw [hwarmUp.rest]
    · exact hwarmUp.warm
    · exact hwarmUp.stamp
    · exact hwarmUp.outOn
    · exact hwarmUp.run
    · exact hwarmUp.error
  exact (regStops_spec lim tick.now _).of_side hside (regSide_acquire tick _)

/-! ### The whole tick -/

/-- What a call of the regulation tick does. -/
structure RegTick (lim : RegRunLimits) (tick : RegTickIn) (s s' : Sys) : Prop where
  rest : s' = { s with
    reg := s'.reg, measure := s'.measure, pins := { s.pins with usOut := s'.pins.usOut } }
  warm : s.reg.mainState = 0 → s'.reg.mainState = 0
  stamp : s'.reg.runStartMs = s.reg.runStartMs
  run : s'.reg.usRunStatus = s.reg.usRunStatus ∨ s'.reg.usRunStatus = .idle
  ceiling : s'.reg.usRunStatus ≠ .idle → runElapsed tick.now s < onTimeSafetyMs
  cycle : s.reg.usRunStatus = .cycle → runElapsed tick.now s < onTimeSafetyMs →
    s'.reg.usRunStatus = .cycle
  energy : s'.reg.usRunStatus.direct = true → lim.energyCtrl = true →
    runElapsed tick.now s < lim.limitOutTime * ovtimeSecMs ∧ ¬ energyReached lim s
  onTime : s'.reg.usRunStatus = .comm ∨ s'.reg.usRunStatus = .remote → lim.energyCtrl = false →
    lim.modelType = 0 → lim.limitOnTime ≠ 0 → runElapsed tick.now s < lim.limitOnTime * 10
  error : s'.reg.errorStatus = s.reg.errorStatus ∨
    s'.reg.errorStatus = { s.reg.errorStatus with ovtime := true } ∧
      s.reg.usRunStatus.direct = true ∧ s'.reg.usRunStatus = .idle ∧ lim.energyCtrl = true ∧
        ¬ energyReached lim s ∧ runElapsed tick.now s ≥ lim.limitOutTime * ovtimeSecMs
  published : publishedRun s' =
    if regPublishes tick s then s'.reg.usRunStatus else publishedRun s
  fault : s'.measure.errorStatus =
    if regPublishes tick s then s'.reg.errorStatus else s.measure.errorStatus
  outOn : s'.reg.usOutOn =
    if regPublishes tick s then decide (s'.reg.usRunStatus ≠ .idle) else s.reg.usOutOn
  usOut : s'.pins.usOut =
    if s'.reg.usOutOn = s.reg.usOutOn then s.pins.usOut else s'.reg.usOutOn

/-- What a publish leaves alone and what it copies out. -/
theorem regPublishMeasure_eq (tick : RegTickIn) (freqCalVal : ℤ) (s : Sys) :
    let s' := regPublishMeasure tick freqCalVal s
    s' = { s with
        reg := s'.reg, measure := s'.measure, pins := { s.pins with usOut := s'.pins.usOut } } ∧
      s'.reg.mainState = s.reg.mainState ∧ s'.reg.runStartMs = s.reg.runStartMs ∧
      s'.reg.usRunStatus = s.reg.usRunStatus ∧ s'.reg.errorStatus = s.reg.errorStatus ∧
      publishedRun s' = s.reg.usRunStatus ∧ s'.measure.errorStatus = s.reg.errorStatus ∧
      s'.reg.usOutOn = decide (s.reg.usRunStatus ≠ .idle) ∧
      s'.pins.usOut = if s'.reg.usOutOn = s.reg.usOutOn then s.pins.usOut
        else s'.reg.usOutOn := by
  dsimp only [regPublishMeasure]
  rw [regSrDisplayEdge_eq]
  exact ⟨rfl, rfl, rfl, rfl, rfl, rfl, rfl, rfl, rfl⟩

theorem appRegTick_spec (lim : RegRunLimits) (tick : RegTickIn) (s : Sys) :
    RegTick lim tick s (appRegTick lim tick s) := by
  have hhead := regTickHead_stop lim tick s
  unfold appRegTick
  cases hpublishes : regPublishes tick s with
  | false =>
    simp only [Bool.false_eq_true, if_false]
    have hmeasure : (regTickHead lim tick s).measure = s.measure := by rw [hhead.rest]
    have hpins : (regTickHead lim tick s).pins = s.pins := by rw [hhead.rest]
    constructor
    · rw [hmeasure, hpins]
      exact hhead.rest
    · exact hhead.warm
    · exact hhead.stamp
    · exact hhead.run
    · exact hhead.ceiling
    · exact hhead.cycle
    · exact hhead.energy
    · exact hhead.onTime
    · exact hhead.error
    · rw [publishedRun, hmeasure, hpublishes, if_neg (by simp)]
      rfl
    · rw [hmeasure, hpublishes, if_neg (by simp)]
    · rw [hpublishes, if_neg (by simp)]
      exact hhead.outOn
    · rw [hpins, if_pos hhead.outOn]
  | true =>
    simp only [if_true]
    have hset : RegStop lim tick.now s (regSetpoint tick.now (regTickHead lim tick s)) :=
      hhead.of_side (RegSide.refl s) (regSide_setpoint tick.now _)
    have hpublish := regPublishMeasure_eq tick lim.freqCalVal
      (regSetpoint tick.now (regTickHead lim tick s))
    generalize regSetpoint tick.now (regTickHead lim tick s) = ready at hset hpublish
    generalize regPublishMeasure tick lim.freqCalVal ready = final at hpublish
    obtain ⟨hrest, hwarm, hstamp, hrun, herror, hpublished, hfault, houtOn, husOut⟩ := hpublish
    have hpins : ready.pins = s.pins := by rw [hset.rest]
    constructor
    · rw [hrest, hset.rest]
    · exact fun h ↦ hwarm.trans (hset.warm h)
    · rw [hstamp, hset.stamp]
    · rw [hrun]
      exact hset.run
    · rw [hrun]
      exact hset.ceiling
    · rw [hrun]
      exact hset.cycle
    · rw [hrun]
      exact hset.energy
    · rw [hrun]
      exact hset.onTime
    · rw [hrun, herror]
      exact hset.error
    · rw [hpublishes, if_pos rfl, hpublished, hrun]
    · rw [hpublishes, if_pos rfl, hfault, herror]
    · rw [hpublishes, if_pos rfl, houtOn, hrun]
    · rw [husOut, hset.outOn, hpins]

end UsCtrl
