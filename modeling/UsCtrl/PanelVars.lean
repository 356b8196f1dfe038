import UsCtrl.PanelShadows
import UsCtrl.PanelText
import UsCtrl.WriteEffect

/-!
# What the firmware writes to the panel

The writes of `app_lcd_init_mode`, `app_lcd_change_page`, the echoes of `app_lcd_input_dispatch` and
those of `app_modbus_apply_writes`, in source order. Icons, bars and the texts outside the RUN page
go to variables of their own and are left out, but where they stand between other writes of one
function.

A write is the word it leaves at a variable (`VpWrite.wordAt`); the last word that a call leaves
there is the one that counts (`lastWord`).
-/

set_option autoImplicit false
set_option relaxedAutoImplicit false

namespace UsCtrl

open Foundation

/-! ### Words -/

/-- The word a write leaves at a variable, if it covers it. Data go to consecutive variables, two
bytes each, high byte first. -/
def VpWrite.wordAt (vp : ℕ) : VpWrite → Option ℕ
  | .u16 start value => if start = vp then some (value % 65536) else none
  | .u32 start value =>
    if start = vp then some (value / 65536 % 65536)
    else if start + 1 = vp then some (value % 65536)
    else none
  | .bytes start data =>
    if start ≤ vp ∧ vp < start + (data.length + 1) / 2 then
      some (data.getD (2 * (vp - start)) 0 * 256 + data.getD (2 * (vp - start) + 1) 0)
    else none

/-- The last word that a list of writes leaves at a variable. -/
def lastWord (vp : ℕ) (writes : List VpWrite) : Option ℕ :=
  (writes.filterMap (VpWrite.wordAt vp)).getLast?

/-! ### Pages -/

section Writes

variable (scratch : ℕ → ℕ)

/-- `render_setup_main`. -/
def renderSetupMainWrites (cfg : AppConfig) : List VpWrite :=
  [.u16 0x1201 cfg.limitOnTime, .u16 0x1200 cfg.outputPower, .u32 0x1212 cfg.limitEnergy,
    .u16 0x1202 (cfg.limitEnergy % 65536), .u16 0x120a cfg.energyCtrl.toNat,
    .u16 0x120f cfg.limitOutTime]

/-- The icons of mode and DHCP on a communication page, of which the serial pages show the first. -/
def commIcons (page : LcdPage) (mode : ℕ) : List VpWrite :=
  if page = .setupStde ∨ page = .setupMhe then
    [.u16 0x140c (if mode = 0 then 0 else 1), .u16 0x140d (mode - 1)]
  else [.u16 0x140c (if mode = 0 then 0 else 1)]

/-- `render_comm_page` with the icons, which are written again behind the page change
(`render_comm_tail`). -/
def renderCommPageWrites (s : Sys) : List VpWrite :=
  let mode := if s.lcd.tempCommMode = 0xFF then s.cfg.commMode else s.lcd.tempCommMode
  [.u16 0x1071 s.cfg.commAddress, .u16 0x1072 s.cfg.commSpeedIdx,
    .u16 0x1073 s.cfg.commParityIdx] ++ commIcons s.lcd.lcdStatus mode ++
    commIcons s.lcd.lcdStatus mode

/-- `app_lcd_change_page(state->lcd_status)`. -/
def appLcdChangePageWrites (s : Sys) : List VpWrite :=
  [.u16 0x120a s.cfg.energyCtrl.toNat, .u16 0x120b s.cfg.multiCtrl.toNat] ++
  match s.lcd.lcdStatus with
  | .runStd => appLcdRunStdRefresh scratch s.cfg
  | .setupHand | .setupMulti | .setupStd1 => renderSetupMainWrites s.cfg
  | .setupStd2d =>
    [.u16 0x1203 s.cfg.limitDelayTime1, .u16 0x1204 s.cfg.limitDelayTime2,
      .u16 0x1205 s.cfg.limitDelayTime3]
  | .setupStd2t => [.u16 0x1206 s.cfg.limitTriggerTime2, .u16 0x1207 s.cfg.limitTriggerTime3]
  | .setupStd3 | .setupMh2 =>
    [.u16 0x120b s.cfg.multiCtrl.toNat, .u16 0x1400 s.cfg.limitMoOut1,
      .u16 0x1401 s.cfg.limitMoOut2, .u16 0x1402 s.cfg.limitMoTime1,
      .u16 0x1403 s.cfg.limitMoTime2]
  | .setupStdc | .setupMhc | .setupStde | .setupMhe => renderCommPageWrites s
  | _ => []

/-- A page assignment followed by `app_lcd_change_page`. -/
def gotoPageWrites (page : LcdPage) (s : Sys) : List VpWrite :=
  appLcdChangePageWrites scratch { s with lcd := { s.lcd with lcdStatus := page } }

/-- `app_lcd_init_mode`: the energy is written in tens. -/
def appLcdInitModeWrites (s : Sys) : List VpWrite :=
  [.u16 0x1150 0, .u16 0x1151 0, .u16 0x1152 0, .u16 0x1203 s.cfg.limitDelayTime1,
    .u16 0x1204 s.cfg.limitDelayTime2, .u16 0x1205 s.cfg.limitDelayTime3,
    .u16 0x1206 s.cfg.limitTriggerTime2, .u16 0x1207 s.cfg.limitTriggerTime3,
    .u32 0x1006 s.cfg.workCnt, .u16 0x1202 (s.cfg.limitEnergy / 10 % 65536), .u16 0x1209 0] ++
  gotoPageWrites scratch (runPageForMode s.cfg.modelType) s

/-! ### Frames -/

/-- `clamp_echo_max` and `clamp_echo_power`: a clamped value is written back. -/
def clampEcho (vp value clamped : ℕ) : List VpWrite :=
  if clamped ≠ value then [.u16 vp clamped] else []

/-- The echoes of the configuration cases of `app_lcd_input_dispatch`. -/
def panelConfigEcho (key : PanelKey) (data : ℕ) (cfg : AppConfig) : List VpWrite :=
  match key with
  | .dmDelay => clampEcho 0x1203 data (cfgClampMax data 500)
  | .dmWeld => clampEcho 0x1204 data (cfgClampMax data 500)
  | .dmHold => clampEcho 0x1205 data (cfgClampMax data 2000)
  | .tmWeld => clampEcho 0x1206 data (cfgClampMax data 500)
  | .tmHold => clampEcho 0x1207 data (cfgClampMax data 2000)
  | .moOut1 => clampEcho 0x1400 data (cfgClampPower data)
  | .moOut2 => clampEcho 0x1401 data (cfgClampPower data)
  | .moTime1 => if data > cfg.limitMoTime2 then [.u16 0x1403 data] else []
  | .moTime2 => if cfg.limitMoTime1 > data then [.u16 0x1403 cfg.limitMoTime1] else []
  | .outPower => clampEcho 0x1200 data (cfgClampPower data)
  | .maxOnTime => clampEcho 0x1201 data (cfgClampMax data 2000)
  | .limitOutT => clampEcho 0x120f data (cfgClampMax data 10)
  | .energyEn => if data = 1 then [.u16 0x120a (!cfg.energyCtrl).toNat] else []
  | .multiEn => if data = 1 then [.u16 0x120b (!cfg.multiCtrl).toNat] else []
  | _ => []

/-- `handle_setup_param_enter`. -/
def handleSetupParamEnterWrites (s : Sys) : List VpWrite :=
  gotoPageWrites scratch (setup1PageForMode s.lcd.sysMode) s ++
    [.u16 0x1209 (appHornModeActive s).toNat]

/-- `enter_model_setup`. -/
def enterModelSetupWrites (cfg : AppConfig) : List VpWrite :=
  [.u16 0x1060 cfg.modelFreq, .u16 0x1070 cfg.modelType, .u16 0x1410 (toUint16 cfg.calVal),
    .u16 0x1412 (toUint16 cfg.freqCalVal)]

/-- `handle_std_setup_param`: page 1 is shown without a render. -/
def handleStdSetupParamWrites (data : ℕ) (s : Sys) : List VpWrite :=
  if data = 2 then gotoPageWrites scratch (setup2Page s) s
  else if data = 3 then gotoPageWrites scratch (setup3Page s) s
  else if data = 4 then
    gotoPageWrites scratch (if s.cfg.commMode = 0 then .setupStdc else .setupStde) s
  else []

/-- `handle_run_mode`. -/
def handleRunModeWrites (data : ℕ) (s : Sys) : List VpWrite :=
  if data = 1 then gotoPageWrites scratch .setupStd2d { s with cfg := { s.cfg with runMode := 0 } }
  else if data = 2 then
    gotoPageWrites scratch .setupStd2t { s with cfg := { s.cfg with runMode := 1 } }
  else []

/-- `data_save_commit`, with the echo of `commit_cnt_reset`. -/
def dataSaveCommitWrites (s : Sys) : List VpWrite :=
  (if setupGroup s = .std ∧ s.lcd.tempCntReset then [.u32 0x1006 0] else []) ++
    appLcdChangePageWrites scratch (dataSaveGroup s)

/-- `data_save_cancel`. -/
def dataSaveCancelWrites (bus : I2cBus) (s : Sys) : List VpWrite :=
  appLcdChangePageWrites scratch { s with
    cfg := (appConfigLoad bus s.fram).cfg
    lcd := cancelPage { s.lcd with tempCommMode := 0xFF } }

/-- `handle_comm_mode`. -/
def handleCommModeWrites (data : ℕ) (s : Sys) : List VpWrite :=
  (if data ≤ 1 then [.u16 0x140c data]
    else if s.lcd.tempCommMode = 1 then [.u16 0x140d 1]
    else if s.lcd.tempCommMode = 2 then [.u16 0x140d 0]
    else []) ++
  gotoPageWrites scratch (commModePage data s.lcd.lcdStatus)
    { s with lcd := { s.lcd with tempCommMode := typedCommMode data s.lcd.tempCommMode } }

/-- `handle_sys_pic_now`, with the seeds of `app_lcd_var_init`. -/
def handleSysPicNowWrites (data tKey : ℕ) (s : Sys) : List VpWrite :=
  if data = 0 ∧ s.lcd.bootComplete ∧ elapsedMs tKey s.lcd.lastSetPageMs ≥ 200 then
    [.u16 0x1081 3, .u16 0x1082 4, .u16 0x1085 0, .u16 0x1086 2] ++ appLcdInitModeWrites scratch s
  else []

/-- The writes of `app_lcd_input_dispatch`. -/
def FrameIn.writes (f : FrameIn) (s : Sys) : List VpWrite :=
  match f.key with
  | some .setupParam => handleSetupParamEnterWrites scratch s
  | some .setupParamMoohan =>
    if (longPressReleased f.vpAddr f.word f.tKey s.lcd).2 then handleSetupParamEnterWrites scratch s
    else []
  | some .setupModel =>
    if (longPressReleased f.vpAddr f.word f.tKey s.lcd).2 then enterModelSetupWrites s.cfg else []
  | some .stdSetupParam => handleStdSetupParamWrites scratch f.word s
  | some .runMode => handleRunModeWrites scratch f.word s
  | some .dataSave =>
    if f.word = 1 then dataSaveCommitWrites scratch s else dataSaveCancelWrites scratch f.bus s
  | some .commMode => handleCommModeWrites scratch f.word s
  | some .sysPicNow => handleSysPicNowWrites scratch f.word f.tKey s
  | some key => panelConfigEcho key f.word s.cfg
  | none => []

/-! ### Requests -/

/-- The echo of the branch of a register, in the state the branch leaves. -/
def MbReg.echo (reg : MbReg) (s : Sys) : List VpWrite :=
  match reg with
  | .delay1 => [.u16 0x1203 s.cfg.limitDelayTime1]
  | .delay2 => [.u16 0x1204 s.cfg.limitDelayTime2]
  | .delay3 => [.u16 0x1205 s.cfg.limitDelayTime3]
  | .trigger2 => [.u16 0x1206 s.cfg.limitTriggerTime2]
  | .trigger3 => [.u16 0x1207 s.cfg.limitTriggerTime3]
  | .outPower => [.u16 0x1200 s.cfg.outputPower]
  | .onTime => [.u16 0x1201 s.cfg.limitOnTime]
  | .energy => [.u32 0x1212 s.cfg.limitEnergy, .u16 0x1202 (s.cfg.limitEnergy % 65536)]
  | .multiT1 => [.u16 0x1402 s.cfg.limitMoTime1]
  | .multiT2 => [.u16 0x1403 s.cfg.limitMoTime2]
  | .multiO1 => [.u16 0x1400 s.cfg.limitMoOut1]
  | .multiO2 => [.u16 0x1401 s.cfg.limitMoOut2]
  | .timeover => [.u16 0x120f s.cfg.limitOutTime]
  | .enEnergy => [.u16 0x120a s.cfg.energyCtrl.toNat]
  | .enMulti => [.u16 0x120b s.cfg.multiCtrl.toNat]
  | .enSafty => [.u16 0x120d s.cfg.fSafty]
  | .hornCmd => [.u16 0x1209 s.horn.mode.toNat]
  | .modelFreq => [.u16 0x1060 s.cfg.modelFreq]
  | .modelType => [.u16 0x1070 s.cfg.modelType]
  | .calVal => [.u16 0x1410 (toUint16 s.cfg.calVal)]
  | .freqCalVal => [.u16 0x1412 (toUint16 s.cfg.freqCalVal)]
  | .workCntL => [.u32 0x1006 s.cfg.workCnt]
  | _ => []

/-- The writes of a branch of `app_modbus_apply_writes`: its echo, unless the safety switch stays as
it is, and the RUN page behind a save. -/
def branchWrites (reg : MbReg) (result : Sys × Bool) : List VpWrite :=
  if result.2 then reg.echo result.1 ++ appLcdRunStdRefresh scratch result.1.cfg
  else if reg = .hornCmd then reg.echo result.1
  else []

/-- The branch that acts on a request, with its register. -/
def openBranch (link : MbLink) (input : ApplyIn) (s : Sys) : Option (MbReg × ApplyRule) :=
  (applyKeys.zip (applyRules link input)).find? fun entry ↦ entry.2.guard s

/-- The writes of `app_modbus_apply_writes`. -/
def appModbusApplyEcho (build : Build) (link : MbLink) (input : ApplyIn) (s : Sys) :
    List VpWrite :=
  if gateClosed build s then []
  else
    match openBranch link input (countApply s) with
    | some entry => branchWrites scratch entry.1 (entry.2.act (countApply s))
    | none => []

/-- The writes of a Modbus tick. -/
def appModbusTickEcho (build : Build) (input : ModbusTickIn) (s : Sys) : List VpWrite :=
  match (modbusPass build input s).2 with
  | some link => appModbusApplyEcho scratch build link input.apply (modbusPass build input s).1
  | none => []

/-- The writes of a call; the other calls write icons, bars, texts and the work counter. -/
def Call.writes (build : Build) (call : Call) (s : Sys) : List VpWrite :=
  match call with
  | .frame f => f.writes scratch s
  | .modbusTick input => appModbusTickEcho scratch build input s
  | _ => []

end Writes

end UsCtrl
