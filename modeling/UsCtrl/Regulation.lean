import UsCtrl.State

/-!
# The regulation core and the run gate

`app_reg.c` with the pure functions of `app_reg_calc.c` and `app_freq_fsm.c`: who may start an
ultrasonic run, what stops it, what is published, and the acquisition and energy arithmetic behind
the published values. `app_reg_tick` is split into the parts it executes in order: warm-up, ceiling,
automatic termination, acquisition, publish.

Every change of the run owner goes through three functions. Their effect on the state is described
once: a START of a direct source and a stop on the run gate (`appRegCommand_start`,
`appRegCommand_runRelease_idle`), and the change of state that every stop shares (`stopRun`).
-/

set_option autoImplicit false
set_option relaxedAutoImplicit false

namespace UsCtrl

/-! ### `app_reg_calc.c` and `app_freq_fsm.c` -/

/-- `reg_lookup_table`, the 21 compared entries. -/
def regLookupTable : List ℕ :=
  [0x03FF, 0x03CC, 0x0399, 0x0366, 0x0333, 0x0300, 0x02CD, 0x029A, 0x0267, 0x0234, 0x0201,
   0x01CE, 0x01B9, 0x0168, 0x0135, 0x0102, 0x00CF, 0x009C, 0x0069, 0x0036, 0x000F]

/-- `reg_scale`. -/
def regScale (value : ℕ) : ℕ :=
  if value ≥ 1000 then 1000 else if value < 3 then 0 else value * 6 % 65536

/-- `reg_output_level`: the first entry below the value, else 21. -/
def regOutputLevel (scaled : ℕ) : ℕ := regLookupTable.findIdx fun entry ↦ entry < scaled

/-- `reg_on_time_200m`. -/
def regOnTime200m (runElapsedMs : ℕ) : ℕ :=
  if runElapsedMs / 200 > 200 then 200 else runElapsedMs / 200

/-- `reg_energy_from_acc`. -/
def regEnergyFromAcc (accEnergy : ℕ) : ℕ := accEnergy / 250

/-- `reg_energy_outcome_t`. -/
inductive RegEnergyOutcome
  | runContinue
  | stopEnergy
  | faultOvtime
  deriving DecidableEq, Repr

/-- `OVTIME_SEC_MS`. -/
def ovtimeSecMs : ℕ := 1000

/-- `reg_energy_termination`. -/
def regEnergyTermination (energyCtrl : Bool) (currEnergy limitEnergy elapsed limitOutTime : ℕ) :
    RegEnergyOutcome :=
  if energyCtrl = false then .runContinue
  else if limitEnergy ≠ 0 ∧ currEnergy ≥ limitEnergy then .stopEnergy
  else if elapsed ≥ limitOutTime * ovtimeSecMs then .faultOvtime
  else .runContinue

/-- `reg_current_from_adc`. -/
def regCurrentFromAdc (ch1Avg : ℕ) (calVal : ℤ) : ℕ :=
  let value : ℤ := (ch1Avg * 59 / 126 : ℕ) + calVal
  if value ≤ 14 then 0 else toUint16 value

/-- `reg_power_from_amp`. -/
def regPowerFromAmp (currAmp : ℕ) : ℕ := currAmp * 22 / 10 % 65536

/-- `FREQ_CONST`: timer ticks of one averaging batch in a second. -/
def freqConst : ℕ := 960000000

/-- `freq_fsm_compute`, given the sum of the batch completed since the last call, if any. -/
def freqFsmCompute (batch : Option ℕ) (calVal : ℤ) : ℕ :=
  match batch with
  | none => 0
  | some sum => if sum = 0 then 0 else toUint16 ((freqConst / sum : ℕ) + calVal)

/-! ### Commands -/

/-- `app_reg_start_allowed`. -/
def appRegStartAllowed (s : Sys) : Bool :=
  decide (s.reg.mainState = 0) && decide (s.reg.usRunStatus = .idle) && !appSeekResetActive s &&
    !s.reg.errorStatus.any && !appOverloadActive s && !appEstopActive s && !appHornModeActive s

/-- `app_seek_reset_request`: one latch, the later request wins. -/
def appSeekResetRequest (cmd : SrCmd) (s : Sys) : Sys :=
  { s with
    seekReset := { s.seekReset with pendingCmd := cmd }
    ghost := { s.ghost with srRequests := s.ghost.srRequests + 1 } }

/-- The latches taken when a run ends, and the run owner going to idle. -/
def stopRun (s : Sys) : Sys :=
  { s with reg := { s.reg with
      lastPower := s.reg.maxPower
      lastAmp := s.reg.maxAmp
      lastEnergy := s.measure.currEnergy
      lastFreq := s.measure.currFreq
      usRunStatus := .idle } }

/-- `reg_stop_run`: the automatic stop, which arms the swallow of a held touch key. -/
def regStopRun (s : Sys) : Sys :=
  let stopped := stopRun s
  if s.reg.usRunStatus = .touch then
    { stopped with reg := { stopped.reg with swallowStart := true } }
  else stopped

/-- The assignments of an accepted START. -/
def acceptStart (src : UsRun) (now : ℕ) (s : Sys) : Sys :=
  { s with
    reg := { s.reg with
      usRunStatus := src
      maxPower := 0
      maxAmp := 0
      runStartMs := now
      accEnergy := 0 }
    measure := { s.measure with usOnTime200m := 0, currEnergy := 0 }
    ghost := { s.ghost with starts := s.ghost.starts + 1 } }

/-- The START case of `app_reg_command`; `now` is the clock read of the run stamp. -/
def startCommand (src : UsRun) (now : ℕ) (s : Sys) : Sys :=
  if s.reg.mainState = 0 ∧ s.reg.usRunStatus = .idle then
    if src = .touch ∧ s.reg.swallowStart then
      { s with reg := { s.reg with swallowStart := false } }
    else if appRegStartAllowed s then acceptStart src now s
    else s
  else s

/-- The RUN_RELEASE case of `app_reg_command`. -/
def runReleaseCommand (src : UsRun) (s : Sys) : Sys :=
  if s.reg.usRunStatus ≠ .idle then stopRun s
  else if src = .touch ∧ s.reg.swallowStart then
    { s with reg := { s.reg with swallowStart := false } }
  else s

/-- A START command is counted before it is judged. -/
def issueStart (s : Sys) : Sys :=
  { s with ghost := { s.ghost with startsIssued := s.ghost.startsIssued + 1 } }

/-- `app_reg_command`. -/
def appRegCommand (cmd : UsCmd) (src : UsRun) (now : ℕ) (s : Sys) : Sys :=
  match cmd with
  | .start => startCommand src now (issueStart s)
  | .runRelease => runReleaseCommand src s
  | .seek => appSeekResetRequest .seek s
  | .reset =>
    appSeekResetRequest .reset { s with reg := { s.reg with errorStatus := .clear } }

/-- `app_reg_raise_ovtime`. -/
def appRegRaiseOvtime (s : Sys) : Sys :=
  { s with reg := { s.reg with errorStatus := { s.reg.errorStatus with ovtime := true } } }

/-! ### The periodic step -/

/-- `reg_run_limits_t`. -/
structure RegRunLimits where
  limitOnTime : ℕ
  energyCtrl : Bool
  limitEnergy : ℕ
  limitOutTime : ℕ
  freqCalVal : ℤ
  modelType : ℕ
  calVal : ℤ

/-- What one `app_reg_tick` reads from outside: the clock, the two ADC channels and the frequency
batch completed since the last publish. -/
structure RegTickIn where
  now : ℕ
  adcSens : ℕ
  adcOsc : ℕ
  freqBatch : Option ℕ

/-- The 10 ms warm-up cadence of `app_reg_tick`. -/
def regWarmUp (now : ℕ) (s : Sys) : Sys :=
  if elapsedMs now s.reg.prevRampMs ≥ 10 then
    if s.reg.mainState = 1 then
      { s with reg := { s.reg with
          prevRampMs := now
          rampCounter := s.reg.rampCounter + 1
          mainState := if s.reg.rampCounter + 1 ≥ 401 then 0 else 1 } }
    else { s with reg := { s.reg with prevRampMs := now } }
  else s

/-- `ON_TIME_SAFETY_MS`. -/
def onTimeSafetyMs : ℕ := 30000

/-- `reg_check_safety_ceiling`. -/
def regCheckSafetyCeiling (now : ℕ) (s : Sys) : Sys :=
  if s.reg.usRunStatus ≠ .idle ∧ elapsedMs now s.reg.runStartMs ≥ onTimeSafetyMs then regStopRun s
  else s

/-- The sources `reg_check_auto_terminate` looks at. -/
def UsRun.direct (src : UsRun) : Bool :=
  decide (src = .touch) || decide (src = .comm) || decide (src = .remote)

/-- `reg_check_auto_terminate`. -/
def regCheckAutoTerminate (now : ℕ) (lim : RegRunLimits) (s : Sys) : Sys :=
  if s.reg.usRunStatus.direct then
    let elapsed := elapsedMs now s.reg.runStartMs
    if lim.energyCtrl then
      match regEnergyTermination lim.energyCtrl s.measure.currEnergy lim.limitEnergy elapsed
        lim.limitOutTime with
      | .runContinue => s
      | .stopEnergy => regStopRun s
      | .faultOvtime => appRegRaiseOvtime (regStopRun s)
    else if lim.modelType = 0 ∧ (s.reg.usRunStatus = .comm ∨ s.reg.usRunStatus = .remote) ∧
        lim.limitOnTime ≠ 0 ∧ elapsed ≥ lim.limitOnTime * 10 then regStopRun s
    else s
  else s

/-- The ch1 half of `reg_acquire_step`: means of 50 through the EMA. -/
def regAcquireCh1 (sample : ℕ) (reg : RegState) : RegState :=
  let acc := reg.ch1Acc + sample
  if reg.ch1Cnt + 1 ≥ 50 then
    let delta : ℤ := (acc * 6 / 50 * 16 : ℕ) - reg.ch1FiltX16
    let filt := ((reg.ch1FiltX16 : ℤ) + delta.tdiv 2).toNat
    { reg with ch1FiltX16 := filt, ch1Avg := filt / 16 % 65536, ch1Acc := 0, ch1Cnt := 0 }
  else { reg with ch1Acc := acc, ch1Cnt := reg.ch1Cnt + 1 }

/-- The ch0 half of `reg_acquire_step`: means of 10 of the 10-bit samples. -/
def regAcquireCh0 (sample : ℕ) (reg : RegState) : RegState :=
  let acc := reg.ch0Acc + sample / 4
  if reg.ch0Cnt + 1 ≥ 10 then
    { reg with ch0Avg := acc / 10 % 65536, ch0Acc := 0, ch0Cnt := 0 }
  else { reg with ch0Acc := acc, ch0Cnt := reg.ch0Cnt + 1 }

/-- The acquisition gate of `app_reg_tick` with `reg_acquire_step`. -/
def regAcquire (input : RegTickIn) (s : Sys) : Sys :=
  if elapsedMs input.now s.reg.prevAcqMs ≥ 1 then
    { s with reg :=
        { regAcquireCh1 input.adcOsc (regAcquireCh0 input.adcSens s.reg) with
          prevAcqMs := input.now } }
  else s

/-- The SEEK/RESET display edges of `reg_publish_measure`. -/
def regSrDisplayEdge (sr : Bool) (s : Sys) : Sys :=
  if sr = s.reg.srDispActive then s
  else if sr then
    { s with
      reg := { s.reg with maxAmp := 0, maxPower := 0, lastEnergy := 0, accEnergy := 0,
                          srDispActive := sr }
      measure := { s.measure with currEnergy := 0 } }
  else
    { s with
      reg := { s.reg with
        lastAmp := s.measure.currAmp
        lastPower := s.measure.currPower
        lastEnergy := s.measure.currEnergy
        accEnergy := 0
        srDispActive := sr }
      measure := { s.measure with currEnergy := 0 } }

/-- The current, power and energy figures of `reg_publish_measure`. -/
def regPublishFigures (active live : Bool) (now : ℕ) (s : Sys) : Sys :=
  let amp := regCurrentFromAdc s.reg.ch1Avg s.reg.calVal
  let power := regPowerFromAmp amp
  let acc := if active then (s.reg.accEnergy + if live then power else 0) % 2 ^ 32
    else s.reg.accEnergy
  { s with
    reg := { s.reg with
      maxAmp := if live ∧ amp > s.reg.maxAmp then amp else s.reg.maxAmp
      maxPower := if live ∧ power > s.reg.maxPower then power else s.reg.maxPower
      accEnergy := acc }
    measure := { s.measure with
      currAmp := amp
      currPower := if live then power else 0
      currEnergy := if active then regEnergyFromAcc acc else s.measure.currEnergy
      usOnTime200m := if active then regOnTime200m (elapsedMs now s.reg.runStartMs)
        else s.measure.usOnTime200m } }

/-- The copies into `g_measure` and the output hook at the end of `reg_publish_measure`. -/
def regPublishCopy (active live : Bool) (freq : ℕ) (s : Sys) : Sys :=
  { s with
    reg := { s.reg with usOutOn := active }
    measure := { s.measure with
      maxPower := s.reg.maxPower
      lastPower := s.reg.lastPower
      maxAmp := s.reg.maxAmp
      lastAmp := s.reg.lastAmp
      lastEnergy := s.reg.lastEnergy
      currFreq := freq
      lastFreq := s.reg.lastFreq
      usRunStatus := s.reg.usRunStatus
      usOnStatus := live
      errorStatus := s.reg.errorStatus }
    pins := { s.pins with usOut := if active = s.reg.usOutOn then s.pins.usOut else active } }

/-- `reg_publish_measure`. The output hook is only called on a change of `active`. -/
def regPublishMeasure (input : RegTickIn) (freqCalVal : ℤ) (s : Sys) : Sys :=
  let active := decide (s.reg.usRunStatus ≠ .idle)
  let sr := appSeekResetActive s
  let live := active || sr
  regPublishCopy active live (freqFsmCompute input.freqBatch freqCalVal)
    (regPublishFigures active live input.now (regSrDisplayEdge sr s))

/-- The setpoint lines of `app_reg_tick` before the publish. -/
def regSetpoint (now : ℕ) (s : Sys) : Sys :=
  let sel := if s.reg.mainState = 1 ∨ s.reg.usRunStatus = .idle then 0 else regScale s.reg.ch0Avg
  { s with reg := { s.reg with prevMs := now, adcScaledValue := sel, band := regOutputLevel sel } }

/-- `app_reg_tick` up to the 2 ms publish gate. -/
def regTickHead (lim : RegRunLimits) (input : RegTickIn) (s : Sys) : Sys :=
  regAcquire input
    (regCheckAutoTerminate input.now lim
      (regCheckSafetyCeiling input.now
        (regWarmUp input.now { s with reg := { s.reg with calVal := lim.calVal } })))

/-- The call reaches `reg_publish_measure`. -/
def regPublishes (input : RegTickIn) (s : Sys) : Bool :=
  decide (elapsedMs input.now s.reg.prevMs ≥ 2)

/-- `app_reg_tick`. -/
def appRegTick (lim : RegRunLimits) (input : RegTickIn) (s : Sys) : Sys :=
  if regPublishes input s then
    regPublishMeasure input lim.freqCalVal (regSetpoint input.now (regTickHead lim input s))
  else regTickHead lim input s

/-- The limits `app_loop_iter` injects from the live configuration. -/
def regRunLimitsOf (cfg : AppConfig) : RegRunLimits where
  limitOnTime := cfg.limitOnTime
  energyCtrl := cfg.energyCtrl
  limitEnergy := cfg.limitEnergy
  limitOutTime := cfg.limitOutTime
  freqCalVal := cfg.freqCalVal
  modelType := cfg.modelType
  calVal := cfg.calVal

end UsCtrl
