import UsCtrl.PanelComm

/-!
# The 10 ms glue

`app_weld.c`, `app_overload.c`, `app_input.c`, `app_horn.c`, `app_seek_reset.c`,
`app_fault_alarm.c` and `app_buzzer.c`: each tick samples its inputs behind its own 10 ms gate,
advances its core, and turns the outputs of the core into pin levels and commands. The body of a
tick is a definition of its own, so that a statement can speak of an executed body.

The weld tick keeps a drift-free grid (`weldGrid`), is frozen outside the run page and in horn-down
mode, and runs in parts: the trigger scan with the cycle-entry gate (`weldScan`), the step of the
core, and the effects of its outputs (`weldOutputs`).
-/

set_option autoImplicit false
set_option relaxedAutoImplicit false

namespace UsCtrl

/-! ### Weld cycle -/

/-- What one `app_weld_tick` reads: clock, keys, sensors, the stamp of a START, the FRAM bus. -/
structure WeldTickIn where
  now : ℕ
  key1 : Bool
  key2 : Bool
  sensUp : Bool
  sensDn : Bool
  tCmd : ℕ
  bus : I2cBus

/-- The SOL_DN edge of `app_weld.c`: the pin is written when the level changes. -/
def weldSolEdge (level : Bool) (s : Sys) : Sys :=
  if level = s.weld.solLast then s
  else
    let s := { s with weld := { s.weld with solLast := level } }
    ioSolDn level s

/-- The zeroed `weld_in_t` of `app_weld_abort_now`, with `abort` set. -/
def weldAbortIn : WeldIn :=
  { start := false, runMode := 0, limitDelayTime1 := 0, limitDelayTime2 := 0,
    limitDelayTime3 := 0, outputPower := 0, energyCtrl := false, currEnergy := 0,
    limitEnergy := 0, limitOutTime := 0, multiCtrl := false, limitMoOut1 := 0, limitMoOut2 := 0,
    limitMoTime1 := 0, limitMoTime2 := 0, abort := true, limitTriggerTime2 := 0,
    limitTriggerTime3 := 0, dnEdge := false, upEdge := false }

/-- `app_weld_abort_now`: the emergency abort, whatever page is shown. -/
def appWeldAbortNow (s : Sys) : Sys :=
  let stepped := weldFsmStep weldAbortIn s.weld.fsm
  let s := weldSolEdge stepped.2.solDn { s with weld := { s.weld with fsm := stepped.1 } }
  if stepped.2.weldStop then appRegCommand .runRelease .cycle 0 s else s

/-- The 10 ms grid of `app_weld_tick`: advanced by one period, resynchronised when it lags by more
than ten. -/
def weldGrid (now prevMs : ℕ) : ℕ := if elapsedMs now (prevMs + 10) > 100 then now else prevMs + 10

/-- The tick is due. -/
def weldDue (input : WeldTickIn) (s : Sys) : Bool := decide (elapsedMs input.now s.weld.prevMs ≥ 10)

/-- The gate of `app_weld_tick`: outside the run page and in horn-down mode the cycle is frozen. -/
def weldFrozen (s : Sys) : Bool := !appLcdInRunPage s || appHornModeActive s

/-- `weld_trig_in_t` of a tick. -/
def weldTrigIn (input : WeldTickIn) (s : Sys) : WeldTrigIn where
  key1 := input.key1
  key2 := input.key2
  sensUp := input.sensUp
  sensDn := input.sensDn
  fSafty := s.cfg.fSafty
  weldState := weldFsmStatus s

/-- The trigger scan and the cycle-entry gate: a cycle is only begun when a START would be
accepted. -/
def weldScan (input : WeldTickIn) (s : Sys) : Sys :=
  let scanned := weldTriggerFsmStep (weldTrigIn input s) s.weld.trigger
  if scanned.2.startPulse ∧ weldFsmStatus s = .ready ∧ appRegStartAllowed s then
    { s with weld := { s.weld with
        trigger := weldTriggerFsmCycleStarted scanned.1
        sensDnBak := input.sensDn
        startPending := true } }
  else
    { s with weld := { s.weld with trigger := scanned.1, sensDnBak := input.sensDn } }

/-- The fault levels that `app_weld_tick` turns into an abort. -/
def weldFaultLevel (s : Sys) : Bool :=
  appEstopActive s || appOverloadActive s || s.measure.errorStatus.any

/-- The `mo_out` clamp of `app_weld_tick`. -/
def weldMoOut (value : ℕ) : ℕ := if value > 100 then 100 else if value < 50 then 50 else value

/-- `weld_in_t` of a tick, from the live configuration and the trigger outputs. -/
def weldInOf (trig : WeldTrigOut) (s : Sys) : WeldIn where
  start := s.weld.startPending
  runMode := s.cfg.runMode
  limitDelayTime1 := s.cfg.limitDelayTime1
  limitDelayTime2 := s.cfg.limitDelayTime2
  limitDelayTime3 := s.cfg.limitDelayTime3
  outputPower := s.cfg.outputPower
  energyCtrl := s.cfg.energyCtrl
  currEnergy := s.measure.currEnergy
  limitEnergy := s.cfg.limitEnergy
  limitOutTime := s.cfg.limitOutTime
  multiCtrl := s.cfg.multiCtrl
  limitMoOut1 := weldMoOut s.cfg.limitMoOut1
  limitMoOut2 := weldMoOut s.cfg.limitMoOut2
  limitMoTime1 := s.cfg.limitMoTime1
  limitMoTime2 := s.cfg.limitMoTime2
  abort := weldFaultLevel s || trig.safetyAbortPulse
  limitTriggerTime2 := s.cfg.limitTriggerTime2
  limitTriggerTime3 := s.cfg.limitTriggerTime3
  dnEdge := trig.dnEdge
  upEdge := trig.upEdge

/-- The input of the core in an executed body; the entry gate has run. -/
def weldBodyIn (input : WeldTickIn) (s : Sys) : WeldIn :=
  weldInOf (weldTriggerFsmStep (weldTrigIn input s) s.weld.trigger).2 (weldScan input s)

/-- The step of the core in an executed body. -/
def weldBodyStep (input : WeldTickIn) (s : Sys) : WeldFsm × WeldOut :=
  weldFsmStep (weldBodyIn input s) s.weld.fsm

/-- `weld_start`: amplitude and the START of the cycle's own run. -/
def weldOutStart (out : WeldOut) (tCmd : ℕ) (s : Sys) : Sys :=
  if out.weldStart then appRegCommand .start .cycle tCmd (i2cPotSetDac out.amplitude s) else s

/-- `amp_change`. -/
def weldOutAmp (out : WeldOut) (s : Sys) : Sys :=
  if out.ampChange then i2cPotSetDac out.amplitude s else s

/-- `weld_stop`. -/
def weldOutStop (out : WeldOut) (s : Sys) : Sys :=
  if out.weldStop then appRegCommand .runRelease .cycle 0 s else s

/-- `weld_fault`. -/
def weldOutFault (out : WeldOut) (s : Sys) : Sys := if out.weldFault then appRegRaiseOvtime s else s

/-- `cycle_done`: the counter is incremented and the configuration saved. -/
def weldOutDone (bus : I2cBus) (out : WeldOut) (s : Sys) : Sys :=
  if out.cycleDone then
    saveConfig bus { s with cfg := { s.cfg with workCnt := (s.cfg.workCnt + 1) % 2 ^ 32 } }
  else s

/-- The effects of the core's outputs, in the order of `app_weld_tick`. -/
def weldOutputs (bus : I2cBus) (out : WeldOut) (tCmd : ℕ) (s : Sys) : Sys :=
  weldOutDone bus out (weldOutFault out (weldOutStop out (weldOutAmp out
    (weldOutStart out tCmd (weldSolEdge out.solDn s)))))

/-- The body of `app_weld_tick` behind its gates. -/
def weldBody (input : WeldTickIn) (s : Sys) : Sys :=
  let scanned := weldScan input s
  let stepped := weldBodyStep input s
  weldOutputs input.bus stepped.2 input.tCmd
    { scanned with weld := { scanned.weld with startPending := false, fsm := stepped.1 } }

/-- The grid advance of a due tick. -/
def weldAdvance (input : WeldTickIn) (s : Sys) : Sys :=
  { s with weld := { s.weld with prevMs := weldGrid input.now s.weld.prevMs } }

/-- The tick reaches the step of the core. -/
def weldSteps (input : WeldTickIn) (s : Sys) : Bool := weldDue input s && !weldFrozen s

/-- `app_weld_tick`. -/
def appWeldTick (input : WeldTickIn) (s : Sys) : Sys :=
  if weldDue input s = false then s
  else if weldFrozen s then weldAdvance input s
  else weldBody input (weldAdvance input s)

/-! ### Overload -/

/-- What one `app_overload_tick` reads. -/
structure OverloadTickIn where
  now : ℕ
  raw : Bool

/-- `RUN_RELEASE` of the published run owner, if there is one. -/
def releasePublished (s : Sys) : Sys :=
  if publishedRun s ≠ .idle then appRegCommand .runRelease (publishedRun s) 0 s else s

/-- The assert branch. -/
def overloadAssert (now : ℕ) (s : Sys) : Sys :=
  appBuzzerBeepMs 250
    (let shown := appLcdSetOverload true { s with pins := { s.pins with ovldRelay := true } }
     { shown with overload := { shown.overload with blinkMs := now } })

/-- The active branch: force-stop at every tick and the blinking buzzer. -/
def overloadHold (now : ℕ) (s : Sys) : Sys :=
  let s := releasePublished s
  if elapsedMs now s.overload.blinkMs ≥ 500 then
    appBuzzerBeepMs 250 { s with overload := { s.overload with blinkMs := now } }
  else s

/-- The de-assert branch: force-stop, display, and the automatic RESET request. -/
def overloadDeassert (s : Sys) : Sys :=
  let s := releasePublished s
  appSeekResetRequest .reset
    (appLcdSetOverload false { s with pins := { s.pins with ovldRelay := false } })

/-- The debounce step with the level it stores. -/
def overloadSample (input : OverloadTickIn) (s : Sys) : Sys × OverloadEvent :=
  let stepped := overloadFsmStep input.raw s.overload.fsm
  ({ s with overload := { s.overload with
      prevMs := input.now
      active := stepped.2.active
      fsm := stepped.1 } }, stepped.2)

/-- The body of `app_overload_tick` behind its gate. -/
def overloadBody (input : OverloadTickIn) (s : Sys) : Sys :=
  let sampled := overloadSample input s
  let s := if sampled.2.assert then overloadAssert input.now sampled.1 else sampled.1
  let s := if sampled.2.active then overloadHold input.now s else s
  if sampled.2.deassert then overloadDeassert s else s

/-- The tick is due. -/
def overloadDue (input : OverloadTickIn) (s : Sys) : Bool :=
  decide (elapsedMs input.now s.overload.prevMs ≥ 10)

/-- `app_overload_tick`. -/
def appOverloadTick (input : OverloadTickIn) (s : Sys) : Sys :=
  if overloadDue input s then overloadBody input s else s

/-! ### Physical inputs and emergency stop -/

/-- What one `app_input_tick` reads: clock, the three lines, the stamp of a START. -/
structure InputTickIn where
  now : ℕ
  start : Bool
  reset : Bool
  estopSeek : Bool
  tCmd : ℕ

/-- The scan of the lines with the level it stores. -/
def inputSample (input : InputTickIn) (s : Sys) : Sys × InputOut :=
  let stepped := inputFsmStep ⟨input.start, input.reset, input.estopSeek, s.cfg.modelType⟩
    s.input.fsm
  ({ s with input := { s.input with
      prevMs := input.now
      estopActive := stepped.2.estopActive
      fsm := stepped.1 } }, stepped.2)

/-- The entry branch of the emergency stop. -/
def estopEnter (now : ℕ) (s : Sys) : Sys :=
  let s := appLcdSetEstop true (appWeldAbortNow (ioSolDn false s))
  appBuzzerBeepMs 250 { s with input := { s.input with blinkMs := now } }

/-- The active branch of the emergency stop. -/
def estopHold (now : ℕ) (s : Sys) : Sys :=
  let s := releasePublished s
  if elapsedMs now s.input.blinkMs ≥ 500 then
    appBuzzerBeepMs 250 { s with input := { s.input with blinkMs := now } }
  else s

/-- The command buttons. -/
def inputButtons (out : InputOut) (tCmd : ℕ) (s : Sys) : Sys :=
  let s := if out.startPress then appRegCommand .start .remote tCmd s else s
  let s := if out.startRelease then appRegCommand .runRelease .remote 0 s else s
  let s := if out.resetPress then appRegCommand .reset .remote 0 s else s
  if out.seekPress then appRegCommand .seek .remote 0 s else s

/-- The body of `app_input_tick` behind its gate. -/
def inputBody (input : InputTickIn) (s : Sys) : Sys :=
  let sampled := inputSample input s
  let entered := if sampled.2.estopEnter then estopEnter input.now sampled.1 else sampled.1
  let shown := if s.input.estopActive ∧ sampled.2.estopActive = false
    then appLcdSetEstop false entered else entered
  if sampled.2.estopActive then estopHold input.now shown
  else inputButtons sampled.2 input.tCmd shown

/-- The tick is due. -/
def inputDue (input : InputTickIn) (s : Sys) : Bool :=
  decide (elapsedMs input.now s.input.prevMs ≥ 10)

/-- `app_input_tick`. -/
def appInputTick (input : InputTickIn) (s : Sys) : Sys :=
  if inputDue input s then inputBody input s else s

/-! ### Horn-down mode -/

/-- What one `app_horn_tick` reads. -/
structure HornTickIn where
  now : ℕ
  key1 : Bool
  key2 : Bool

/-- The solenoid half of `app_horn_tick`. -/
def hornSolenoid (input : HornTickIn) (s : Sys) : Sys :=
  let stepped := hornFsmStep ⟨s.horn.mode, input.key1, input.key2, appEstopActive s⟩ s.horn.fsm
  let s := { s with horn := { s.horn with prevMs := input.now, fsm := stepped.1 } }
  if stepped.2 = s.horn.solLast then s
  else ioSolDn stepped.2 { s with horn := { s.horn with solLast := stepped.2 } }

/-- The body of `app_horn_tick`: in horn-down mode an active run is stopped, by its live owner. -/
def hornBody (input : HornTickIn) (s : Sys) : Sys :=
  let s := hornSolenoid input s
  if s.horn.mode then
    if appRegRunSrc s ≠ .idle then appRegCommand .runRelease (appRegRunSrc s) 0 s else s
  else s

/-- `app_horn_tick`. -/
def appHornTick (input : HornTickIn) (s : Sys) : Sys :=
  if elapsedMs input.now s.horn.prevMs ≥ 10 then hornBody input s else s

/-! ### SEEK/RESET chain -/

/-- `app_seek_reset_hook_signal`: the icon edges drive the two oscillator lines. -/
def srSignals (out : SeekResetOut) (pins : Pins) : Pins :=
  { pins with
    resetLine := if out.resetIconOff then false else if out.resetIcon then true else pins.resetLine
    seekLine := if out.seekIconOff then false else if out.seekIcon then true else pins.seekLine }

/-- The body of `app_seek_reset_tick`: the request is consumed even when it is ignored. -/
def seekResetBody (now : ℕ) (s : Sys) : Sys :=
  let stepped := seekResetFsmStep
    ⟨s.seekReset.pendingCmd, decide (publishedRun s ≠ .idle)⟩ s.seekReset.fsm
  { s with
    seekReset := ⟨now, .none, stepped.1⟩
    pins := srSignals stepped.2 s.pins }

/-- The tick is due. -/
def seekResetDue (now : ℕ) (s : Sys) : Bool := decide (elapsedMs now s.seekReset.prevMs ≥ 10)

/-- `app_seek_reset_tick`. -/
def appSeekResetTick (now : ℕ) (s : Sys) : Sys :=
  if seekResetDue now s then seekResetBody now s else s

/-! ### Fault alarm and buzzer -/

/-- `app_fault_alarm_tick`. -/
def appFaultAlarmTick (now : ℕ) (s : Sys) : Sys :=
  if elapsedMs now s.alarm.faultPrevMs < 10 then s
  else
    let err := s.measure.errorStatus
    let s := { s with alarm := { s.alarm with faultPrevMs := now } }
    let s :=
      if err.any ∧ (s.alarm.faultPrevErr.any = false ∨ elapsedMs now s.alarm.faultBlinkMs ≥ 500)
      then appBuzzerBeepMs 250 { s with alarm := { s.alarm with faultBlinkMs := now } }
      else s
    { s with alarm := { s.alarm with faultPrevErr := err } }

/-- `app_buzzer_tick`; the pin follows the edges of the level. -/
def appBuzzerTick (now : ℕ) (s : Sys) : Sys :=
  if elapsedMs now s.alarm.buzzerPrevMs < 10 then s
  else
    let stepped := buzzerFsmStep s.alarm.remaining
    { s with
      alarm := { s.alarm with
        buzzerPrevMs := now
        remaining := stepped.1
        buzzerLast := stepped.2 }
      pins := { s.pins with
        buzzer := if stepped.2 = s.alarm.buzzerLast then s.pins.buzzer else stepped.2 } }

end UsCtrl
