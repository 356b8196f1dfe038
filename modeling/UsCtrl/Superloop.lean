import UsCtrl.Foundation.History
import UsCtrl.Ethernet

/-!
# The superloop

`app_loop_iter` of `app.c` as a sequence of calls. A `Call` is one call the loop makes, with
everything that call reads from outside; `IterIn.calls` is the order of one iteration, and the
controller is the machine that boots from a FRAM image and makes calls (`controller`).

A `SuperloopRun` is a run of the loop stopped between two calls: some whole iterations, and a first
part of the one under way. Its history lists the calls made, newest first. Statements about a run
speak of the state left by its history (`after`) and, with the past-time operators of
`UsCtrl.Foundation.History`, of the states left by the shorter histories before it.

The clock of a run is the list of the reads its calls make; `Chronological` says that they never go
backwards.
-/

set_option autoImplicit false
set_option relaxedAutoImplicit false

namespace UsCtrl

open Foundation

/-! ### Calls -/

/-- One call made by `app_loop_iter`. -/
inductive Call
  | frame (f : FrameIn)
  | lcdTick
  | weldTick (input : WeldTickIn)
  | overloadTick (input : OverloadTickIn)
  | inputTick (input : InputTickIn)
  | hornTick (input : HornTickIn)
  | seekResetTick (now : ℕ)
  | regTick (input : RegTickIn)
  | ethTick (input : EthTickIn)
  | modbusTick (input : ModbusTickIn)
  | faultAlarmTick (now : ℕ)
  | buzzerTick (now : ℕ)

/-- The effect of a call; `app_reg_tick` gets the limits of the live configuration. -/
def Call.exec (build : Build) (call : Call) (s : Sys) : Sys :=
  match call with
  | .frame f => appLcdInputDispatch f s
  | .lcdTick => appLcdTick s
  | .weldTick input => appWeldTick input s
  | .overloadTick input => appOverloadTick input s
  | .inputTick input => appInputTick input s
  | .hornTick input => appHornTick input s
  | .seekResetTick now => appSeekResetTick now s
  | .regTick input => appRegTick (regRunLimitsOf s.cfg) input s
  | .ethTick input => appEthTick input s
  | .modbusTick input => appModbusTick build input s
  | .faultAlarmTick now => appFaultAlarmTick now s
  | .buzzerTick now => appBuzzerTick now s

/-- Everything one iteration reads from outside. -/
structure IterIn where
  frames : List FrameIn
  weld : WeldTickIn
  overload : OverloadTickIn
  input : InputTickIn
  horn : HornTickIn
  seekReset : ℕ
  reg : RegTickIn
  eth : EthTickIn
  modbus : ModbusTickIn
  faultAlarm : ℕ
  buzzer : ℕ

/-- The calls of one iteration, in the order of `app_loop_iter`. -/
def IterIn.calls (iter : IterIn) : List Call :=
  iter.frames.map .frame ++
    [.lcdTick, .weldTick iter.weld, .overloadTick iter.overload, .inputTick iter.input,
     .hornTick iter.horn, .seekResetTick iter.seekReset, .regTick iter.reg, .ethTick iter.eth,
     .modbusTick iter.modbus, .faultAlarmTick iter.faultAlarm, .buzzerTick iter.buzzer]

/-- `app_loop_iter`. -/
def appLoopIter (build : Build) (iter : IterIn) (s : Sys) : Sys :=
  iter.calls.foldl (fun s call ↦ call.exec build s) s

/-! ### Boot -/

/-- What `main` reads before the loop: the FRAM with its bus, whether the Ethernet chip answers, the
sensor line, and the clock at the reads of the init functions. -/
structure BootIn where
  fram : Fram
  bus : I2cBus
  ethPresent : Bool
  sensDn : Bool
  tPage : ℕ
  tReg : ℕ
  tWeld : ℕ
  tSeekReset : ℕ
  tBuzzer : ℕ
  tFault : ℕ
  tOverload : ℕ
  tInput : ℕ
  tHorn : ℕ

/-- `app_reg_init`. -/
def appRegInit (tReg : ℕ) : RegState where
  ch0Avg := 0
  ch1Avg := 0
  adcScaledValue := 0
  calVal := 0
  band := 0
  ch0Acc := 0
  ch0Cnt := 0
  ch1Acc := 0
  ch1Cnt := 0
  ch1FiltX16 := 0
  mainState := 1
  rampCounter := 0
  prevRampMs := tReg
  usRunStatus := .idle
  usOutOn := false
  maxPower := 0
  lastPower := 0
  maxAmp := 0
  lastAmp := 0
  runStartMs := 0
  swallowStart := false
  accEnergy := 0
  lastEnergy := 0
  lastFreq := 0
  srDispActive := false
  errorStatus := .clear
  prevAcqMs := tReg
  prevMs := tReg

/-- The zeroed `g_measure`. -/
def lcdMeasureInit : LcdMeasure where
  currAmp := 0
  maxAmp := 0
  lastAmp := 0
  currPower := 0
  maxPower := 0
  lastPower := 0
  currFreq := 0
  lastFreq := 0
  currEnergy := 0
  lastEnergy := 0
  usOnTime200m := 0
  usRunStatus := .idle
  usOnStatus := false
  errorStatus := .clear

/-- The zeroed panel state. -/
def lcdStateInit : LcdState where
  lcdStatus := .logo
  sysMode := 0
  errorStatus := .clear
  keyPressMs := 0
  keyPressVp := 0
  tempAddress := 0
  tempSpeedIdx := 0
  tempParityIdx := 0
  tempCommMode := 0
  tempEtherIp := ⟨0, 0, 0, 0⟩
  tempEtherNm := ⟨0, 0, 0, 0⟩
  tempEtherGw := ⟨0, 0, 0, 0⟩
  tempCntReset := false
  tempHorndown := false
  etherWhatInput := .ip
  etherCurrentNumber := 0
  etherCurrentOctet := 0
  etherHasInput := false
  etherInput := []
  etherTempIp := ⟨0, 0, 0, 0⟩
  lastSetPageMs := 0
  bootComplete := false
  runKeyDown := false
  etherDirty := false
  prevErr := .clear

/-- The gate state `app_modbus_init` seeds. -/
def remoteEnInit (build : Build) : RemoteEn :=
  match build.model with
  | .std => .enabled
  | .remote => .disabled

/-- The statics before `app_config_load` and `apply_config` have run. -/
def resetState (build : Build) (boot : BootIn) : Sys where
  cfg := appConfigFactoryDefaults
  fram := boot.fram
  measure := lcdMeasureInit
  reg := appRegInit boot.tReg
  lcd := lcdStateInit
  weld := ⟨boot.tWeld, false, false, boot.sensDn, weldFsmInit, weldTriggerFsmInit⟩
  overload := ⟨boot.tOverload, boot.tOverload, false, overloadFsmInit⟩
  input := ⟨boot.tInput, boot.tInput, false, inputFsmInit⟩
  horn := ⟨boot.tHorn, false, false, hornFsmInit⟩
  seekReset := ⟨boot.tSeekReset, .none, seekResetFsmInit⟩
  alarm := ⟨boot.tBuzzer, false, 0, boot.tFault, boot.tFault, .clear⟩
  modbus := ⟨mbCoreInit 0, ⟨false, 0, 0, 0⟩, false, 0, false, remoteEnInit build, remoteEnFsmInit,
    cfgStageInit, holdWdtInit⟩
  tcp := ⟨[], 0, false, 0⟩
  eth := ⟨if boot.ethPresent then .linkwait else .down, false, 0, 0⟩
  pins := ⟨false, false, false, false, false, false, 0⟩
  ghost := ⟨0, 0, 0, 0⟩

/-- `app_init`: the configuration, the boot amplitude and the run page. -/
def appInit (boot : BootIn) (s : Sys) : Sys :=
  let load := appConfigLoad boot.bus s.fram
  let loaded := { s with cfg := load.cfg, fram := load.fram }
  let shown := appLcdInitMode boot.tPage (appLcdHookSetPot load.cfg.outputPower loaded)
  { shown with lcd := { shown.lcd with bootComplete := true } }

/-- The state in which `main` enters the loop. -/
def bootState (build : Build) (boot : BootIn) : Sys :=
  applyConfig build boot.sensDn (appInit boot (resetState build boot))

/-- A boot at time zero whose FRAM does not answer, so that the factory defaults are live. -/
def factoryBoot : BootIn where
  fram := fun _ ↦ 0
  bus := ⟨fun _ ↦ false, fun _ ↦ false⟩
  ethPresent := false
  sensDn := true
  tPage := 0
  tReg := 0
  tWeld := 0
  tSeekReset := 0
  tBuzzer := 0
  tFault := 0
  tOverload := 0
  tInput := 0
  tHorn := 0

/-! ### Runs -/

/-- The controller as a machine. -/
def controller (build : Build) (boot : BootIn) : Machine Sys Call where
  start := bootState build boot
  exec call s := call.exec build s

/-- A run of the loop stopped between two calls: the whole iterations, newest first, and the calls
made so far of the iteration under way. -/
structure SuperloopRun where
  done : List IterIn
  current : IterIn
  made : ℕ

/-- The calls of whole iterations, newest first. -/
def iterHistory (done : List IterIn) : List Call := done.flatMap fun iter ↦ iter.calls.reverse

/-- The calls of a run, newest first. -/
def SuperloopRun.history (run : SuperloopRun) : List Call :=
  (run.current.calls.take run.made).reverse ++ iterHistory run.done

/-- Whole iterations act as `app_loop_iter` does. -/
theorem after_iterHistory (build : Build) (boot : BootIn) (done : List IterIn) :
    (controller build boot).after (iterHistory done) =
      done.foldr (appLoopIter build) (bootState build boot) := by
  induction done with
  | nil => rfl
  | cons iter done ih =>
    rw [iterHistory, List.flatMap_cons, Machine.after_append, List.foldr_cons, ← ih,
      List.foldr_reverse]
    rfl

/-! ### Clock reads -/

/-- The clock reads of a write-apply pass. -/
def ApplyIn.reads (input : ApplyIn) : List ℕ := [input.tApply, input.tCmd, input.tStage]

/-- The clock reads of a TCP poll: the control step, then two for each frame. -/
def TcpPollIn.reads (input : TcpPollIn) : List ℕ :=
  [input.tConnect, input.tCloseWait] ++
    (List.range mbTcpFramesPerPoll).flatMap fun index ↦ [input.tReq index, input.tRx index]

/-- The clock reads of a call, in order. Reads that a branch leaves out take no part in its effect;
they only have to fit in. -/
def Call.reads : Call → List ℕ
  | .frame f => [f.tKey, f.tCmd, f.tPage]
  | .lcdTick => []
  | .weldTick input => [input.now, input.tCmd]
  | .overloadTick input => [input.now]
  | .inputTick input => [input.now, input.tCmd]
  | .hornTick input => [input.now]
  | .seekResetTick now => [now]
  | .regTick input => [input.now]
  | .ethTick input => [input.now]
  | .modbusTick input =>
    [input.tGate, input.tHold, input.tStage, input.tReq] ++ input.tcp.reads ++ input.apply.reads
  | .faultAlarmTick now => [now]
  | .buzzerTick now => [now]

/-- The reads of a history, newest first, never increase: the clock never goes backwards. -/
def Chronological (history : List Call) : Prop :=
  (history.flatMap fun call ↦ call.reads.reverse).Pairwise (· ≥ ·)

theorem Chronological.tail {call : Call} {past : List Call} (h : Chronological (call :: past)) :
    Chronological past := by
  unfold Chronological at h ⊢
  rw [List.flatMap_cons, List.pairwise_append] at h
  exact h.2.1

/-- The reads of one call are in order. -/
theorem Chronological.reads {call : Call} {past : List Call} (h : Chronological (call :: past)) :
    call.reads.Pairwise (· ≤ ·) := by
  unfold Chronological at h
  rw [List.flatMap_cons, List.pairwise_append] at h
  exact List.pairwise_reverse.mp h.1

/-- Reads of the newest call are not earlier than those of the calls before it. -/
theorem Chronological.le {call older : Call} {past : List Call} (h : Chronological (call :: past))
    {now stamp : ℕ} (hnow : now ∈ call.reads) (holder : older ∈ past)
    (hstamp : stamp ∈ older.reads) : stamp ≤ now := by
  unfold Chronological at h
  rw [List.flatMap_cons, List.pairwise_append] at h
  exact h.2.2 now (List.mem_reverse.mpr hnow) stamp
    (List.mem_flatMap.mpr ⟨older, holder, List.mem_reverse.mpr hstamp⟩)

end UsCtrl
