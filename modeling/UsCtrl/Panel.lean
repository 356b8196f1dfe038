import UsCtrl.Regulation

/-!
# The panel

`app_lcd.c` and `app_lcd_input.c`, with the parts of `app_lcd_render.c` and `app_lcd_disp.c` that
change a state variable: page changes, the warning page of overload, emergency stop and faults, the
key handlers, and the periodic tick that follows the published fault. Writes to panel variables are
left out: nothing reads them back. The communication pages, SAVE, CANCEL and the dispatch itself are
in `UsCtrl.PanelComm`.

The switch of horn-down mode (`appHornSetMode` of `app_horn.c`) stands here because a SAVE throws
it.
-/

set_option autoImplicit false
set_option relaxedAutoImplicit false

namespace UsCtrl

/-! ### Pages -/

/-- `run_page_for_mode`, which is `app_lcd_run_page` on `cfg->model_type`. -/
def runPageForMode (sysMode : ℕ) : LcdPage :=
  if sysMode = 0 then .runMh else if sysMode = 1 then .runMh else .runStd

/-- `app_lcd_in_run_page`. -/
def appLcdInRunPage (s : Sys) : Bool := decide (s.lcd.lcdStatus = runPageForMode s.lcd.sysMode)

/-- `lcd_may_restore_run_page`. -/
def lcdMayRestoreRunPage (s : Sys) : Bool := !appEstopActive s && !s.lcd.errorStatus.any

/-- `lcd_status = run_page_for_mode(sys_mode)`. -/
def toRunPage (lcd : LcdState) : LcdState :=
  { lcd with lcdStatus := runPageForMode lcd.sysMode }

/-- `app_lcd_hook_us_command`: a panel key is a touch command. -/
def appLcdHookUsCommand (cmd : UsCmd) (now : ℕ) (s : Sys) : Sys := appRegCommand cmd .touch now s

/-- `app_lcd_input_run_key_reanchor`. -/
def appLcdInputRunKeyReanchor (s : Sys) : Sys :=
  let released := appLcdHookUsCommand .runRelease 0 s
  { released with lcd := { released.lcd with runKeyDown := false } }

/-- `app_lcd_set_overload`. -/
def appLcdSetOverload (on : Bool) (s : Sys) : Sys :=
  if on then { s with lcd := { s.lcd with errorStatus := { s.lcd.errorStatus with ovld := true } } }
  else
    let s := { s with lcd := { s.lcd with
      errorStatus := { s.lcd.errorStatus with ovld := false } } }
    if s.lcd.lcdStatus = .warning ∧ lcdMayRestoreRunPage s then { s with lcd := toRunPage s.lcd }
    else s

/-- `app_lcd_set_estop`. -/
def appLcdSetEstop (on : Bool) (s : Sys) : Sys :=
  if on then appLcdInputRunKeyReanchor { s with lcd := { s.lcd with lcdStatus := .warning } }
  else if lcdMayRestoreRunPage s then { s with lcd := toRunPage s.lcd }
  else s

/-- `app_lcd_fault_cleared`. -/
def appLcdFaultCleared (s : Sys) : Sys :=
  if s.lcd.lcdStatus = .warning ∧ lcdMayRestoreRunPage s then { s with lcd := toRunPage s.lcd }
  else s

/-- `app_lcd_show_error` on a nonzero code: the warning page, with the RUN key re-anchored. -/
def appLcdShowError (s : Sys) : Sys :=
  appLcdInputRunKeyReanchor { s with lcd := { s.lcd with lcdStatus := .warning } }

/-- `app_lcd_tick`: mirror of the published fault and its two edges. -/
def appLcdTick (s : Sys) : Sys :=
  let err := s.measure.errorStatus
  let mirrored := { s with lcd := { s.lcd with errorStatus := err } }
  let surfaced :=
    if err.any ∧ s.lcd.prevErr.any = false then appLcdShowError mirrored
    else if err.any = false ∧ s.lcd.prevErr.any then appLcdFaultCleared mirrored
    else mirrored
  { surfaced with lcd := { surfaced.lcd with prevErr := err } }

/-- `app_horn_set_mode`: a change of mode drops the solenoid whatever drove it. -/
def appHornSetMode (on : Bool) (s : Sys) : Sys :=
  if on = s.horn.mode then s
  else
    let dropped := ioSolDn false s
    { dropped with horn := { dropped.horn with mode := on, solLast := false } }

theorem appHornSetMode_eq (on : Bool) (s : Sys) :
    appHornSetMode on s = { s with
      horn := (appHornSetMode on s).horn
      pins := { s.pins with solDn := (appHornSetMode on s).pins.solDn } } := by
  unfold appHornSetMode
  split_ifs <;> rfl

/-! ### Page rendering -/

/-- `render_setup_main`: the amplitude is written and the shadows are seeded. -/
def renderSetupMain (s : Sys) : Sys :=
  let potted := appLcdHookSetPot s.cfg.outputPower s
  { potted with lcd := { potted.lcd with
      tempParityIdx := s.cfg.commParityIdx
      tempAddress := s.cfg.commAddress
      tempSpeedIdx := s.cfg.commSpeedIdx
      tempCntReset := false
      tempCommMode := 0xFF } }

/-- `render_comm_page`. -/
def renderCommPage (s : Sys) : Sys :=
  let seeded := { s.lcd with
    tempParityIdx := s.cfg.commParityIdx
    tempAddress := s.cfg.commAddress
    tempSpeedIdx := s.cfg.commSpeedIdx }
  if s.lcd.tempCommMode = 0xFF then
    { s with lcd := { seeded with
        tempCommMode := s.cfg.commMode
        tempEtherIp := s.cfg.etherIp
        tempEtherNm := s.cfg.etherNm
        tempEtherGw := s.cfg.etherGw
        etherCurrentNumber := 0
        etherCurrentOctet := 0
        etherHasInput := false
        etherInput := []
        etherWhatInput := .none } }
  else { s with lcd := seeded }

/-- The page branches of `app_lcd_change_page`. -/
def renderPage (page : LcdPage) (s : Sys) : Sys :=
  match page with
  | .setupHand | .setupMulti | .setupStd1 => renderSetupMain s
  | .setupStd2d | .setupStd2t | .setupStd3 | .setupMh2 =>
    { s with lcd := { s.lcd with tempCommMode := 0xFF } }
  | .setupStdc | .setupMhc | .setupStde | .setupMhe => renderCommPage s
  | _ => s

/-- `app_lcd_change_page(state->lcd_status)`; `tPage` is the clock read after `dgus_set_page`. -/
def appLcdChangePage (tPage : ℕ) (s : Sys) : Sys :=
  let rendered := renderPage s.lcd.lcdStatus s
  { rendered with lcd := { rendered.lcd with lastSetPageMs := tPage } }

/-- A page assignment followed by `app_lcd_change_page`. -/
def gotoPage (page : LcdPage) (tPage : ℕ) (s : Sys) : Sys :=
  appLcdChangePage tPage { s with lcd := { s.lcd with lcdStatus := page } }

/-- `app_lcd_init_mode`. -/
def appLcdInitMode (tPage : ℕ) (s : Sys) : Sys :=
  appLcdChangePage tPage { s with lcd := { s.lcd with
    lcdStatus := runPageForMode s.cfg.modelType
    sysMode := s.cfg.modelType
    tempCommMode := 0xFF } }

/-! ### Frames -/

/-- The panel variables `app_lcd_input_dispatch` has a case for. -/
inductive PanelKey
  | modelFreq | modelType | calVal | freqCalVal
  | dmDelay | dmWeld | dmHold | tmWeld | tmHold | moOut1 | moOut2 | moTime1 | moTime2
  | outPower | maxOnTime | energyEdit | limitOutT | safty | energyEn | multiEn
  | horndown | setupParam | setupParamMoohan | setupModel | stdSetupParam | runMode
  | keyMulti | keyErrorReset | dataSave
  | commAddr | commSpeed | commParity | commMode | etherKey | sysPicNow
  deriving DecidableEq, Repr

/-- The panel variable at an address, as `dgus_lcd.h` assigns them. -/
def PanelKey.ofAddr (vp : ℕ) : Option PanelKey :=
  match vp with
  | 0x1060 => some .modelFreq
  | 0x1070 => some .modelType
  | 0x1410 => some .calVal
  | 0x1412 => some .freqCalVal
  | 0x1203 => some .dmDelay
  | 0x1204 => some .dmWeld
  | 0x1205 => some .dmHold
  | 0x1206 => some .tmWeld
  | 0x1207 => some .tmHold
  | 0x1400 => some .moOut1
  | 0x1401 => some .moOut2
  | 0x1402 => some .moTime1
  | 0x1403 => some .moTime2
  | 0x1200 => some .outPower
  | 0x1201 => some .maxOnTime
  | 0x1202 => some .energyEdit
  | 0x120f => some .limitOutT
  | 0x120d => some .safty
  | 0x1085 => some .energyEn
  | 0x140a => some .multiEn
  | 0x1209 => some .horndown
  | 0x1100 => some .setupParam
  | 0x1094 => some .setupParamMoohan
  | 0x1084 => some .setupModel
  | 0x1020 => some .stdSetupParam
  | 0x1210 => some .runMode
  | 0x1080 => some .keyMulti
  | 0x1408 => some .keyErrorReset
  | 0x1050 => some .dataSave
  | 0x1071 => some .commAddr
  | 0x1072 => some .commSpeed
  | 0x1073 => some .commParity
  | 0x140b => some .commMode
  | 0x140f => some .etherKey
  | 0x0014 => some .sysPicNow
  | _ => none

/-- One received frame, with the clock reads its handler makes (`tKey` for key timing and the
re-init guard, `tCmd` for a run stamp, `tPage` after a page change) and the bus of its FRAM
transfers. -/
structure FrameIn where
  cmd : ℕ
  vpAddr : ℕ
  data : List UInt8
  tKey : ℕ
  tCmd : ℕ
  tPage : ℕ
  bus : I2cBus

/-- The configuration cases of `app_lcd_input_dispatch`. -/
def panelConfigEdit (key : PanelKey) (data : ℕ) (cfg : AppConfig) : AppConfig :=
  match key with
  | .modelFreq => { cfg with modelFreq := data % 256 }
  | .modelType => { cfg with modelType := data % 256 }
  | .calVal => { cfg with calVal := toInt16 data }
  | .freqCalVal => { cfg with freqCalVal := toInt16 data }
  | .dmDelay => { cfg with limitDelayTime1 := cfgClampMax data 500 }
  | .dmWeld => { cfg with limitDelayTime2 := cfgClampMax data 500 }
  | .dmHold => { cfg with limitDelayTime3 := cfgClampMax data 2000 }
  | .tmWeld => { cfg with limitTriggerTime2 := cfgClampMax data 500 }
  | .tmHold => { cfg with limitTriggerTime3 := cfgClampMax data 2000 }
  | .moOut1 => { cfg with limitMoOut1 := cfgClampPower data }
  | .moOut2 => { cfg with limitMoOut2 := cfgClampPower data }
  | .moTime1 => { cfg with
      limitMoTime1 := data
      limitMoTime2 := if data > cfg.limitMoTime2 then data else cfg.limitMoTime2 }
  | .moTime2 => { cfg with
      limitMoTime2 := if cfg.limitMoTime1 > data then cfg.limitMoTime1 else data }
  | .outPower => { cfg with outputPower := cfgClampPower data }
  | .maxOnTime => { cfg with limitOnTime := cfgClampMax data 2000 }
  | .energyEdit => { cfg with limitEnergy := data }
  | .limitOutT => { cfg with limitOutTime := cfgClampMax data 10 }
  | .safty => { cfg with fSafty := if data = 1 then 1 else 0 }
  | .energyEn => if data = 1 then { cfg with energyCtrl := !cfg.energyCtrl } else cfg
  | .multiEn => if data = 1 then { cfg with multiCtrl := !cfg.multiCtrl } else cfg
  | _ => cfg

/-- The RUN key of the V30 asset: a toggle of press and release. -/
def handleRunToggle (now : ℕ) (s : Sys) : Sys :=
  let toggled := { s with lcd := { s.lcd with runKeyDown := !s.lcd.runKeyDown } }
  if toggled.lcd.runKeyDown then
    appLcdHookSetPot s.cfg.outputPower (appLcdHookUsCommand .start now toggled)
  else appLcdHookUsCommand .runRelease now toggled

/-- The RESET key: the command, then the OVLD/OUTERR display bits. -/
def handleKeyReset (now : ℕ) (s : Sys) : Sys :=
  let s := appLcdHookUsCommand .reset now s
  if s.lcd.errorStatus.ovld ∨ s.lcd.errorStatus.outerr then
    let s := { s with lcd := { s.lcd with
      errorStatus := { s.lcd.errorStatus with ovld := false, outerr := false } } }
    if lcdMayRestoreRunPage s then { s with lcd := toRunPage s.lcd } else s
  else s

/-- `handle_key_multi`. -/
def handleKeyMulti (data now : ℕ) (s : Sys) : Sys :=
  if data = 1 then handleKeyReset now s
  else if data = 2 then appLcdHookUsCommand .seek now s
  else if data = 3 then
    appLcdHookSetPot s.cfg.outputPower (appLcdHookUsCommand .start now s)
  else if data = 4 then appLcdHookUsCommand .runRelease now s
  else if data = 0 then handleRunToggle now s
  else s

/-- `handle_key_error_reset`. -/
def handleKeyErrorReset (data now : ℕ) (s : Sys) : Sys :=
  if data ≠ 1 then s
  else
    let s := appLcdHookUsCommand .reset now s
    if s.lcd.errorStatus.ovtime then
      let s := { s with lcd := { s.lcd with errorStatus := .clear } }
      if lcdMayRestoreRunPage s then { s with lcd := toRunPage s.lcd } else s
    else s

/-- `long_press_released`, with the panel state it leaves. -/
def longPressReleased (vp data now : ℕ) (lcd : LcdState) : LcdState × Bool :=
  if data = 0 then
    if lcd.keyPressVp ≠ vp then ({ lcd with keyPressVp := vp, keyPressMs := now }, false)
    else ({ lcd with keyPressVp := 0 }, decide (elapsedMs now lcd.keyPressMs ≥ 2000))
  else if data = 2 then
    ({ lcd with keyPressVp := 0 },
      decide (lcd.keyPressVp = vp) && decide (elapsedMs now lcd.keyPressMs ≥ 2000))
  else (lcd, false)

/-- `setup1_page_for_mode`. -/
def setup1PageForMode (sysMode : ℕ) : LcdPage :=
  if sysMode = 0 then .setupHand else if sysMode = 1 then .setupMulti else .setupStd1

/-- `handle_setup_param_enter`. -/
def handleSetupParamEnter (tPage : ℕ) (s : Sys) : Sys :=
  let entered := gotoPage (setup1PageForMode s.lcd.sysMode) tPage s
  { entered with lcd := { entered.lcd with tempHorndown := appHornModeActive s } }

/-- `goto_setup1`: no page render. -/
def gotoSetup1 (s : Sys) : Sys :=
  let page : LcdPage :=
    if s.lcd.lcdStatus = .setupMh2 ∨ s.lcd.lcdStatus = .setupMhc ∨ s.lcd.lcdStatus = .setupMhe then
      if s.cfg.modelType = 0 then .setupHand
      else if s.cfg.modelType = 1 then .setupMulti
      else s.lcd.lcdStatus
    else .setupStd1
  { s with lcd := { s.lcd with lcdStatus := page } }

/-- The page `goto_setup2` selects. -/
def setup2Page (s : Sys) : LcdPage :=
  match s.lcd.lcdStatus with
  | .setupStd1 | .setupStd3 | .setupStdc | .setupStde =>
    if s.cfg.runMode = 0 then .setupStd2d else .setupStd2t
  | .setupMulti | .setupHand | .setupMhc | .setupMhe => .setupMh2
  | page => page

/-- The page of STD_SETUP_PARAM case 3. -/
def setup3Page (s : Sys) : LcdPage :=
  match s.lcd.lcdStatus with
  | .setupStd1 | .setupStd2d | .setupStd2t | .setupStdc | .setupStde => .setupStd3
  | .setupMulti | .setupHand | .setupMh2 => if s.cfg.commMode = 0 then .setupMhc else .setupMhe
  | page => page

/-- `handle_std_setup_param`. -/
def handleStdSetupParam (data tPage : ℕ) (s : Sys) : Sys :=
  if data = 1 then gotoSetup1 s
  else if data = 2 then gotoPage (setup2Page s) tPage s
  else if data = 3 then gotoPage (setup3Page s) tPage s
  else if data = 4 then
    gotoPage (if s.cfg.commMode = 0 then .setupStdc else .setupStde) tPage s
  else if data = 5 ∧ s.cfg.workCnt ≠ 0 then
    { s with lcd := { s.lcd with tempCntReset := true } }
  else s

/-- `handle_run_mode`. -/
def handleRunMode (data tPage : ℕ) (s : Sys) : Sys :=
  if data = 1 then gotoPage .setupStd2d tPage { s with cfg := { s.cfg with runMode := 0 } }
  else if data = 2 then gotoPage .setupStd2t tPage { s with cfg := { s.cfg with runMode := 1 } }
  else s

/-- `handle_sys_pic_now`: a panel reset stops the run and re-seeds the run page. -/
def handleSysPicNow (data tKey tPage : ℕ) (s : Sys) : Sys :=
  if data = 0 ∧ s.lcd.bootComplete ∧ elapsedMs tKey s.lcd.lastSetPageMs ≥ 200 then
    appLcdInitMode tPage (appLcdInputRunKeyReanchor s)
  else s

end UsCtrl
