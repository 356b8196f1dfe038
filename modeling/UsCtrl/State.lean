import UsCtrl.PanelFsms
import UsCtrl.RemoteFsms
import UsCtrl.ModbusCore

/-!
# The state of the controller

One record for the static variables of every module that takes part in a decision, plus the levels
last written to the output pins and the FRAM image. What only the panel shows (variable-pointer
writes, display steps, monitor text) has no field: the panel is never read back for a decision.

`Ghost` counts events that leave no other trace: START commands issued and accepted, SEEK/RESET
requests, write-apply passes. Nothing in the controller reads it.
-/

set_option autoImplicit false
set_option relaxedAutoImplicit false

namespace UsCtrl

/-! ### Regulation core -/

/-- `lcd_measure_t` as `app_reg.c` publishes it. -/
structure LcdMeasure where
  currAmp : ℕ
  maxAmp : ℕ
  lastAmp : ℕ
  currPower : ℕ
  maxPower : ℕ
  lastPower : ℕ
  currFreq : ℕ
  lastFreq : ℕ
  currEnergy : ℕ
  lastEnergy : ℕ
  usOnTime200m : ℕ
  usRunStatus : UsRun
  usOnStatus : Bool
  errorStatus : ErrorStatus
  deriving DecidableEq, Repr

/-- `reg_state_t` with the EMA state `s_ch1_filt_x16`. `mainState = 1` is the boot warm-up. -/
structure RegState where
  ch0Avg : ℕ
  ch1Avg : ℕ
  adcScaledValue : ℕ
  calVal : ℤ
  band : ℕ
  ch0Acc : ℕ
  ch0Cnt : ℕ
  ch1Acc : ℕ
  ch1Cnt : ℕ
  ch1FiltX16 : ℕ
  mainState : ℕ
  rampCounter : ℕ
  prevRampMs : ℕ
  usRunStatus : UsRun
  usOutOn : Bool
  maxPower : ℕ
  lastPower : ℕ
  maxAmp : ℕ
  lastAmp : ℕ
  runStartMs : ℕ
  swallowStart : Bool
  accEnergy : ℕ
  lastEnergy : ℕ
  lastFreq : ℕ
  srDispActive : Bool
  errorStatus : ErrorStatus
  prevAcqMs : ℕ
  prevMs : ℕ
  deriving DecidableEq, Repr

/-! ### Panel -/

/-- Page ids; `runMh` is page 3, shared by the hand and multi models. -/
inductive LcdPage
  | logo | modelSetup | runMh | setupMulti | setupHand | runStd | setupStd1 | setupStd2d
  | setupStd2t | setupStd3 | warning | setupMh2 | setupMhc | setupStdc | setupMhe | setupStde
  deriving DecidableEq, Repr

/-- `LCD_ETHER_INPUT_*`. -/
inductive EtherField
  | ip
  | nm
  | gw
  | none
  deriving DecidableEq, Repr

/-- `lcd_app_state_t`, the RUN-key toggle of `app_lcd_input.c`, the ether dirty flag and the edge
memory of `app_lcd_tick`. `etherInput` is the edit text up to the cursor. -/
structure LcdState where
  lcdStatus : LcdPage
  sysMode : ℕ
  errorStatus : ErrorStatus
  keyPressMs : ℕ
  keyPressVp : ℕ
  tempAddress : ℕ
  tempSpeedIdx : ℕ
  tempParityIdx : ℕ
  tempCommMode : ℕ
  tempEtherIp : Octets
  tempEtherNm : Octets
  tempEtherGw : Octets
  tempCntReset : Bool
  tempHorndown : Bool
  etherWhatInput : EtherField
  etherCurrentNumber : ℕ
  etherCurrentOctet : ℕ
  etherHasInput : Bool
  etherInput : List ℕ
  etherTempIp : Octets
  lastSetPageMs : ℕ
  bootComplete : Bool
  runKeyDown : Bool
  etherDirty : Bool
  prevErr : ErrorStatus
  deriving DecidableEq, Repr

/-! ### Glue modules -/

/-- `app_weld.c` with its two cores. -/
structure WeldGlue where
  prevMs : ℕ
  startPending : Bool
  solLast : Bool
  sensDnBak : Bool
  fsm : WeldFsm
  trigger : WeldTrigger
  deriving DecidableEq, Repr

/-- `app_overload.c`. -/
structure OverloadGlue where
  prevMs : ℕ
  blinkMs : ℕ
  active : Bool
  fsm : OverloadFsm
  deriving DecidableEq, Repr

/-- `app_input.c`. -/
structure InputGlue where
  prevMs : ℕ
  blinkMs : ℕ
  estopActive : Bool
  fsm : InputFsm
  deriving DecidableEq, Repr

/-- `app_horn.c`. -/
structure HornGlue where
  prevMs : ℕ
  mode : Bool
  solLast : Bool
  fsm : HornFsm
  deriving DecidableEq, Repr

/-- `app_seek_reset.c`. -/
structure SeekResetGlue where
  prevMs : ℕ
  pendingCmd : SrCmd
  fsm : SeekResetFsm
  deriving DecidableEq, Repr

/-- `app_buzzer.c` and `app_fault_alarm.c`. -/
structure AlarmGlue where
  buzzerPrevMs : ℕ
  buzzerLast : Bool
  remaining : ℕ
  faultPrevMs : ℕ
  faultBlinkMs : ℕ
  faultPrevErr : ErrorStatus
  deriving DecidableEq, Repr

/-! ### Communication -/

/-- The line settings `g_applied` of `app_modbus.c`. -/
structure AppliedLine where
  owned : Bool
  speedIdx : ℕ
  parityIdx : ℕ
  addr : ℕ
  deriving DecidableEq, Repr

/-- `app_modbus.c`; `gate` is the cached output `s_ren` of the remote enable core. -/
structure ModbusGlue where
  core : MbCore
  applied : AppliedLine
  tcpActive : Bool
  remoteMs : ℕ
  remoteSeen : Bool
  gate : RemoteEn
  gateFsm : RemoteEnFsm
  stage : CfgStage
  hold : HoldWdt

/-- `app_modbus_tcp.c`. -/
structure TcpGlue where
  acc : List UInt8
  cwSinceMs : ℕ
  cwActive : Bool
  lastRxMs : ℕ
  deriving DecidableEq, Repr

/-- `eth_phase_t`. -/
inductive EthPhase
  | down
  | linkwait
  | staticUp
  | dhcpRun
  deriving DecidableEq, Repr

/-- `app_eth.c`. -/
structure EthGlue where
  phase : EthPhase
  available : Bool
  linkMs : ℕ
  dhcpMs : ℕ
  deriving DecidableEq, Repr

/-! ### Outputs, ghost counters, and the whole -/

/-- Levels last written to the outputs; `solDn` and `usOut` are ON levels, `pot` the wiper. -/
structure Pins where
  solDn : Bool
  usOut : Bool
  ovldRelay : Bool
  resetLine : Bool
  seekLine : Bool
  buzzer : Bool
  pot : ℕ
  deriving DecidableEq, Repr

/-- Event counters for the statements about runs. -/
structure Ghost where
  startsIssued : ℕ
  starts : ℕ
  srRequests : ℕ
  applies : ℕ
  deriving DecidableEq, Repr

/-- The controller. -/
structure Sys where
  cfg : AppConfig
  fram : Fram
  measure : LcdMeasure
  reg : RegState
  lcd : LcdState
  weld : WeldGlue
  overload : OverloadGlue
  input : InputGlue
  horn : HornGlue
  seekReset : SeekResetGlue
  alarm : AlarmGlue
  modbus : ModbusGlue
  tcp : TcpGlue
  eth : EthGlue
  pins : Pins
  ghost : Ghost

/-- `MODEL_STD` or `MODEL_REMOTE`. -/
inductive Model
  | std
  | remote
  deriving DecidableEq, Repr

/-- The compile-time choices: the product model, `REMOTE_EN_GATE_BYPASS`, and the interlock polarity
`REMOTE_EN_INTERLOCK_INVERTED`. -/
structure Build where
  model : Model
  gateBypass : Bool
  interlockInverted : Bool
  deriving DecidableEq, Repr

/-! ### Access functions of the source -/

/-- `app_overload_active`. -/
def appOverloadActive (s : Sys) : Bool := s.overload.active

/-- `app_estop_active`. -/
def appEstopActive (s : Sys) : Bool := s.input.estopActive

/-- `app_horn_mode_active`. -/
def appHornModeActive (s : Sys) : Bool := s.horn.mode

/-- `app_seek_reset_active`. -/
def appSeekResetActive (s : Sys) : Bool := decide (s.seekReset.fsm.state ≠ .idle)

/-- `weld_fsm_status`. -/
def weldFsmStatus (s : Sys) : WeldState := s.weld.fsm.runStatus

/-- `app_reg_run_src`: the run owner, without the publish delay. -/
def appRegRunSrc (s : Sys) : UsRun := s.reg.usRunStatus

/-- `app_reg_measure()->us_run_status`: the run owner as last published. -/
def publishedRun (s : Sys) : UsRun := s.measure.usRunStatus

/-- `io_sol_dn`. -/
def ioSolDn (on : Bool) (s : Sys) : Sys := { s with pins := { s.pins with solDn := on } }

/-- `i2c_pot_set_dac`. -/
def i2cPotSetDac (dac : ℕ) (s : Sys) : Sys :=
  { s with pins := { s.pins with pot := if dac > 127 then 127 else dac } }

/-- `pot_dac_from_power`. -/
def potDacFromPower (power : ℕ) : ℕ :=
  if power ≤ 50 then 0 else if power ≥ 100 then 127 else (power - 50) * 255 / 100 % 256

/-- `app_lcd_hook_set_pot`. -/
def appLcdHookSetPot (outputPower : ℕ) (s : Sys) : Sys :=
  i2cPotSetDac (potDacFromPower outputPower) s

/-- `app_config_save_all(&g_cfg)`. -/
def saveConfig (bus : I2cBus) (s : Sys) : Sys :=
  { s with fram := appConfigSaveAll bus s.cfg s.fram }

/-- `app_buzzer_beep_ms`. -/
def appBuzzerBeepMs (ms : ℕ) (s : Sys) : Sys :=
  { s with alarm := { s.alarm with
      remaining := if ms ≠ 0 ∧ ms / 10 = 0 then 1 else ms / 10 % 65536 } }

end UsCtrl
