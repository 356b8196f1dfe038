import UsCtrl.CyclePot

/-!
# Who turns the page

The page the panel shows, its copy of the published fault with the edge memory, and the RUN key:
the part of the panel state that the sheet of `UsCtrl.Desk` leaves out. Only the panel and the ticks
of the panel, of the overload and of the inputs touch it. What each of them does is said once
(`overloadTick_screen`, `inputTick_screen`, `lcdTick_screen`, `panelKey_screen`); every other call
leaves the screen as it was (`exec_screen`).
-/

set_option autoImplicit false
set_option relaxedAutoImplicit false

namespace UsCtrl

open Foundation

/-! ### Calls that leave the screen alone -/

/-- The page, the copy of the published fault with its edge memory, and the RUN key. -/
structure Screen where
  page : LcdPage
  shown : ErrorStatus
  prev : ErrorStatus
  runKey : Bool

/-- What a panel state shows. -/
def LcdState.screen (lcd : LcdState) : Screen :=
  ⟨lcd.lcdStatus, lcd.errorStatus, lcd.prevErr, lcd.runKeyDown⟩

theorem screen_dirty {lcd lcd' : LcdState} {dirty : Bool}
    (h : { lcd' with etherDirty := dirty } = lcd) : lcd'.screen = lcd.screen := by
  subst h
  rfl

theorem lcd_weldSolEdge (level : Bool) (s : Sys) : (weldSolEdge level s).lcd = s.lcd := by
  unfold weldSolEdge
  split_ifs <;> rfl

theorem lcd_releasePublished (s : Sys) : (releasePublished s).lcd = s.lcd := by
  unfold releasePublished
  split_ifs
  · exact lcd_regCommand .runRelease (publishedRun s) 0 s
  · rfl

theorem lcd_weldAbortNow (s : Sys) : (appWeldAbortNow s).lcd = s.lcd := by
  have hedge := lcd_weldSolEdge (weldFsmStep weldAbortIn s.weld.fsm).2.solDn
    { s with weld := { s.weld with fsm := (weldFsmStep weldAbortIn s.weld.fsm).1 } }
  unfold appWeldAbortNow
  dsimp only
  split_ifs
  · exact (lcd_regCommand .runRelease .cycle 0 _).trans hedge
  · exact hedge

theorem lcd_weldOutputs (bus : I2cBus) (out : WeldOut) (tCmd : ℕ) (s : Sys) :
    (weldOutputs bus out tCmd s).lcd = s.lcd := by
  have hstart (t : Sys) : (weldOutStart out tCmd t).lcd = t.lcd := by
    unfold weldOutStart
    split_ifs
    · exact lcd_regCommand .start .cycle tCmd _
    · rfl
  have hamp (t : Sys) : (weldOutAmp out t).lcd = t.lcd := by
    unfold weldOutAmp
    split_ifs <;> rfl
  have hstop (t : Sys) : (weldOutStop out t).lcd = t.lcd := by
    unfold weldOutStop
    split_ifs
    · exact lcd_regCommand .runRelease .cycle 0 t
    · rfl
  have hfault (t : Sys) : (weldOutFault out t).lcd = t.lcd := by
    unfold weldOutFault
    split_ifs <;> rfl
  have hdone (t : Sys) : (weldOutDone bus out t).lcd = t.lcd := by
    unfold weldOutDone
    split_ifs <;> rfl
  rw [weldOutputs, hdone, hfault, hstop, hamp, hstart, lcd_weldSolEdge]

theorem lcd_weldTick (tick : WeldTickIn) (s : Sys) : (appWeldTick tick s).lcd = s.lcd := by
  have hbody (t : Sys) : (weldBody tick t).lcd = t.lcd := by
    have hscan : (weldScan tick t).lcd = t.lcd := by
      rw [weldScan_eq]
    exact (lcd_weldOutputs _ _ _ _).trans hscan
  unfold appWeldTick
  split_ifs
  · rfl
  · rfl
  · exact hbody (weldAdvance tick s)

theorem lcd_hornTick (tick : HornTickIn) (s : Sys) : (appHornTick tick s).lcd = s.lcd := by
  have hsolenoid : (hornSolenoid tick s).lcd = s.lcd := by rw [hornSolenoid_eq]
  have hbody : (hornBody tick s).lcd = s.lcd := by
    unfold hornBody
    dsimp only
    split_ifs
    · exact (lcd_regCommand .runRelease _ 0 _).trans hsolenoid
    · exact hsolenoid
    · exact hsolenoid
  unfold appHornTick
  split_ifs
  · exact hbody
  · rfl

theorem lcd_regTick (lim : RegRunLimits) (tick : RegTickIn) (s : Sys) :
    (appRegTick lim tick s).lcd = s.lcd := by
  rw [(appRegTick_spec lim tick s).rest]

theorem lcd_applyConfig (build : Build) (sensDn : Bool) (s : Sys) :
    (applyConfig build sensDn s).lcd = s.lcd := by
  unfold applyConfig
  dsimp only
  split_ifs <;> rfl

theorem lcd_modbusHead (build : Build) (input : ModbusTickIn) (s : Sys) :
    (modbusHead build input s).lcd = s.lcd := by
  have hgate : (remoteEnStep build input.tGate input.remoteEnPin s).lcd = s.lcd := by
    unfold remoteEnStep
    cases build.model <;> rfl
  have hhold (t : Sys) : (holdWdtBlock input.tHold t).lcd = t.lcd := by
    unfold holdWdtBlock
    dsimp only
    split_ifs
    · exact lcd_regCommand .runRelease .comm 0 _
    · rfl
  have hstage (t : Sys) : (stageTick input.tStage t).lcd = t.lcd := rfl
  rw [modbusHead, lcd_applyConfig, hstage, hhold, hgate]

theorem lcd_tcpLeave (s : Sys) : (tcpLeave s).lcd = s.lcd := by
  unfold tcpLeave
  split_ifs <;> rfl

theorem lcd_tickMirror {build : Build} {input : ModbusTickIn} {s mirrored : Sys}
    (hmirrored : tickMirror build input s = some mirrored) : mirrored.lcd = s.lcd := by
  have henter (t : Sys) : (tcpEnter t).lcd = t.lcd := by
    unfold tcpEnter
    split_ifs <;> rfl
  have hmirror (t : Sys) : (mirrorLive build input.sensDn t).lcd = t.lcd := rfl
  unfold tickMirror at hmirrored
  dsimp only at hmirrored
  split_ifs at hmirrored
  · obtain rfl := Option.some.inj hmirrored
    rw [hmirror, lcd_tcpLeave, lcd_modbusHead]
  · obtain rfl := Option.some.inj hmirrored
    rw [hmirror, henter, lcd_modbusHead]

theorem lcd_readOnly {s s' : Sys} (h : ReadOnly s s') : s'.lcd = s.lcd := by
  obtain ⟨_, _, _, _, rfl⟩ := h
  rfl

theorem lcd_modbusPass (build : Build) (input : ModbusTickIn) (s : Sys) :
    (modbusPass build input s).1.lcd = s.lcd := by
  cases hlink : (modbusPass build input s).2 with
  | none =>
    rcases modbusPass_readOnly hlink with ⟨mirrored, hmirrored, hread⟩ | ⟨-, hleave⟩
    · exact (lcd_readOnly hread).trans (lcd_tickMirror hmirrored)
    · rw [hleave, lcd_tcpLeave, lcd_modbusHead]
  | some link =>
    obtain ⟨mirrored, hmirrored, reg, value, -, mid, hbefore, hafter⟩ := modbusPass_wrote hlink
    have hcore : (onCore (wroteCore reg value) mid).lcd = mid.lcd := rfl
    rw [lcd_readOnly hafter, hcore, lcd_readOnly hbefore, lcd_tickMirror hmirrored]

theorem lcd_gateRejectBody (s : Sys) : (gateRejectBody s).lcd = s.lcd := by
  have herase (reg : MbReg) (t : Sys) : (setHolding reg 0 t).lcd = t.lcd := rfl
  unfold gateRejectBody
  simp only [herase]
  split_ifs
  · rw [lcd_regCommand]
    simp only [herase]
  · rfl

/-- The Modbus tick leaves of the panel all but the dirty flag. -/
theorem modbusTick_screen (build : Build) (input : ModbusTickIn) (s : Sys) :
    (appModbusTick build input s).lcd.screen = s.lcd.screen := by
  have hpass := lcd_modbusPass build input s
  rw [appModbusTick_eq_pass, finishPass]
  cases hlink : (modbusPass build input s).2 with
  | none => exact congrArg LcdState.screen hpass
  | some link =>
    generalize (modbusPass build input s).1 = mid at hpass
    dsimp only
    rw [← hpass]
    cases hgate : gateClosed build mid with
    | true =>
      rw [appModbusApplyWrites, hgate, if_pos rfl]
      exact congrArg LcdState.screen (lcd_gateRejectBody (countApply mid))
    | false =>
      have hscreen : (pickedBranch link input.apply (countApply mid)).1.lcd.screen =
          mid.lcd.screen :=
        screen_dirty (pickedBranch_desk link input.apply (countApply mid)).sheet
      rw [appModbusApplyWrites_open hgate]
      generalize pickedBranch link input.apply (countApply mid) = picked at hscreen
      obtain ⟨after, save⟩ := picked
      cases save <;> exact hscreen

/-- The calls that may touch the screen. -/
def Call.onScreen : Call → Bool
  | .frame _ | .lcdTick | .overloadTick _ | .inputTick _ => true
  | _ => false

/-- Assumes: the call is neither of the panel nor of the two fault inputs. Then it leaves the screen
as it was. -/
theorem exec_screen (build : Build) {call : Call} (hoff : call.onScreen = false) (s : Sys) :
    (call.exec build s).lcd.screen = s.lcd.screen := by
  cases call with
  | weldTick tick => exact congrArg LcdState.screen (lcd_weldTick tick s)
  | hornTick tick => exact congrArg LcdState.screen (lcd_hornTick tick s)
  | seekResetTick now =>
    show (appSeekResetTick now s).lcd.screen = _
    unfold appSeekResetTick
    split_ifs <;> rfl
  | regTick tick => exact congrArg LcdState.screen (lcd_regTick _ tick s)
  | ethTick tick =>
    have hlcd := (ethTick_desk tick s).2.2.2
    show (appEthTick tick s).lcd.screen = _
    rw [hlcd]
    rfl
  | modbusTick input => exact modbusTick_screen build input s
  | faultAlarmTick now =>
    show (appFaultAlarmTick now s).lcd.screen = _
    unfold appFaultAlarmTick
    dsimp only
    split_ifs <;> rfl
  | buzzerTick now =>
    show (appBuzzerTick now s).lcd.screen = _
    unfold appBuzzerTick
    split_ifs <;> rfl
  | _ => cases hoff

/-! ### The ticks that turn the page -/

/-- The page after a cause of the warning page has gone: the run page takes its place, unless the
emergency stop or the shown fault still hold it. -/
def Screen.released (screen : Screen) (estop : Bool) (sysMode : ℕ) : Screen :=
  if screen.page = .warning ∧ estop = false ∧ screen.shown.any = false
  then { screen with page := runPageForMode sysMode } else screen

theorem lcd_reanchor (s : Sys) :
    (appLcdInputRunKeyReanchor s).lcd = { s.lcd with runKeyDown := false } :=
  congrArg (fun lcd : LcdState ↦ { lcd with runKeyDown := false })
    (lcd_regCommand .runRelease .touch 0 s)

@[simp] theorem screen_page (lcd : LcdState) : lcd.screen.page = lcd.lcdStatus := rfl

@[simp] theorem screen_shown (lcd : LcdState) : lcd.screen.shown = lcd.errorStatus := rfl

theorem lcdMayRestoreRunPage_iff (s : Sys) : lcdMayRestoreRunPage s = true ↔
    s.input.estopActive = false ∧ s.lcd.errorStatus.any = false := by
  simp [lcdMayRestoreRunPage, appEstopActive]

theorem setOverload_off_screen {s : Sys} {lcd : LcdState} {estop : Bool} (hlcd : s.lcd = lcd)
    (hestop : s.input.estopActive = estop) : (appLcdSetOverload false s).lcd.screen =
      Screen.released { lcd.screen with shown := { lcd.errorStatus with ovld := false } } estop
        lcd.sysMode := by
  subst hlcd hestop
  unfold appLcdSetOverload Screen.released
  simp only [Bool.false_eq_true, if_false, lcdMayRestoreRunPage_iff]
  by_cases hfree : s.lcd.lcdStatus = .warning ∧ s.input.estopActive = false ∧
      ErrorStatus.any ⟨false, s.lcd.errorStatus.ovtime, s.lcd.errorStatus.outerr⟩ = false
  · rw [if_pos hfree]
    exact (if_pos hfree).symm
  · rw [if_neg hfree]
    exact (if_neg hfree).symm

/-- The overload tick marks the overload in the shown fault, and lets go of the warning page with
it. -/
theorem overloadTick_screen (tick : OverloadTickIn) (s : Sys) :
    (appOverloadTick tick s).lcd.screen =
      if overloadDue tick s = false then s.lcd.screen
      else if (overloadEvent tick s).assert then
        { s.lcd.screen with shown := { s.lcd.errorStatus with ovld := true } }
      else if (overloadEvent tick s).deassert then
        Screen.released { s.lcd.screen with shown := { s.lcd.errorStatus with ovld := false } }
          s.input.estopActive s.lcd.sysMode
      else s.lcd.screen := by
  have hassert (t : Sys) : (overloadAssert tick.now t).lcd.screen =
      { t.lcd.screen with shown := { t.lcd.errorStatus with ovld := true } } := rfl
  have hhold (t : Sys) : (overloadHold tick.now t).lcd = t.lcd := by
    unfold overloadHold
    dsimp only
    split_ifs
    · exact lcd_releasePublished t
    · exact lcd_releasePublished t
  have hdeassert : (overloadDeassert (overloadSample tick s).1).lcd.screen =
      Screen.released { s.lcd.screen with shown := { s.lcd.errorStatus with ovld := false } }
        s.input.estopActive s.lcd.sysMode :=
    setOverload_off_screen (lcd_releasePublished _) ((releasePublished_ends _).frame .cycle).estop
  unfold appOverloadTick
  cases hdue : overloadDue tick s with
  | false => rfl
  | true =>
    have hevent : overloadEvent tick s = ⟨(overloadFsmStep tick.raw s.overload.fsm).1.active,
        (overloadFsmStep tick.raw s.overload.fsm).1.active && !s.overload.fsm.active,
        !(overloadFsmStep tick.raw s.overload.fsm).1.active && s.overload.fsm.active⟩ :=
      overloadFsmStep_event tick.raw s.overload.fsm
    rw [if_pos rfl, if_neg (by simp), overloadBody_eq, hevent]
    cases hafter : (overloadFsmStep tick.raw s.overload.fsm).1.active <;>
      cases hbefore : s.overload.fsm.active
    · rfl
    · exact hdeassert
    · exact (congrArg LcdState.screen (hhold _)).trans (hassert _)
    · exact congrArg LcdState.screen (hhold _)

/-- The input tick turns to the warning page when the emergency stop is entered, with the RUN key
released, and to the run page when it is left without a shown fault. -/
theorem inputTick_screen (tick : InputTickIn) (s : Sys) :
    (appInputTick tick s).lcd.screen =
      if inputDue tick s = false then s.lcd.screen
      else if (inputEvent tick s).estopEnter then
        { s.lcd.screen with page := .warning, runKey := false }
      else if s.input.estopActive = true ∧ (inputEvent tick s).estopActive = false ∧
          s.lcd.errorStatus.any = false then
        { s.lcd.screen with page := runPageForMode s.lcd.sysMode }
      else s.lcd.screen := by
  have hestop (t : Sys) : (appLcdSetEstop true t).lcd.screen =
      { t.lcd.screen with page := .warning, runKey := false } :=
    congrArg LcdState.screen (lcd_reanchor { t with lcd := { t.lcd with lcdStatus := .warning } })
  have henter : (estopEnter tick.now (inputSample tick s).1).lcd.screen =
      { s.lcd.screen with page := .warning, runKey := false } := by
    have hshown := hestop (appWeldAbortNow (ioSolDn false (inputSample tick s).1))
    rw [lcd_weldAbortNow] at hshown
    exact hshown
  have hhold (t : Sys) : (estopHold tick.now t).lcd = t.lcd := by
    unfold estopHold
    dsimp only
    split_ifs
    · exact lcd_releasePublished t
    · exact lcd_releasePublished t
  have hbuttons (out : InputOut) (t : Sys) : (inputButtons out tick.tCmd t).lcd = t.lcd := by
    have hone (press : Bool) (cmd : UsCmd) (now : ℕ) (t : Sys) :
        (if press then appRegCommand cmd .remote now t else t).lcd = t.lcd := by
      split_ifs
      · exact lcd_regCommand cmd .remote now t
      · rfl
    rw [inputButtons, hone, hone, hone, hone]
  unfold appInputTick
  cases hdue : inputDue tick s with
  | false => rfl
  | true =>
    rw [if_pos rfl, if_neg (by simp)]
    cases hactive : (inputEvent tick s).estopActive with
    | true =>
      have hbody : inputBody tick s = estopHold tick.now (if (inputEvent tick s).estopEnter
          then estopEnter tick.now (inputSample tick s).1 else (inputSample tick s).1) := by
        unfold inputBody
        simp only [inputEvent] at hactive ⊢
        simp only [hactive, Bool.true_eq_false, and_false, if_false, if_true]
        rfl
      rw [hbody, hhold]
      cases (inputEvent tick s).estopEnter with
      | true => exact henter
      | false => simp; rfl
    | false =>
      have henter : (inputEvent tick s).estopEnter = false := by
        by_contra henter
        have henter : (inputEvent tick s).estopEnter = true := by simpa using henter
        have hlevel : (inputEvent tick s).estopActive = true := inputFsmStep_enter _ _ henter
        rw [hactive] at hlevel
        cases hlevel
      have hleft (t : Sys) : (appLcdSetEstop false t).lcd.screen =
          if t.input.estopActive = false ∧ t.lcd.errorStatus.any = false then
            { t.lcd.screen with page := runPageForMode t.lcd.sysMode } else t.lcd.screen := by
        unfold appLcdSetEstop
        simp only [Bool.false_eq_true, if_false, lcdMayRestoreRunPage_iff]
        split_ifs <;> rfl
      have hbody : inputBody tick s = inputButtons (inputEvent tick s) tick.tCmd
          (if s.input.estopActive then appLcdSetEstop false (inputSample tick s).1
            else (inputSample tick s).1) := by
        unfold inputBody
        simp only [inputEvent] at hactive henter ⊢
        simp only [hactive, henter, Bool.false_eq_true, and_true, if_false]
      rw [hbody, hbuttons, henter]
      cases s.input.estopActive with
      | true =>
        have hlevel : (inputSample tick s).1.input.estopActive = false := hactive
        have hlcd : (inputSample tick s).1.lcd = s.lcd := rfl
        have hshown := hleft (inputSample tick s).1
        simpa [hlevel, hlcd] using hshown
      | false => simp; rfl

/-- The panel tick copies the published fault: a new fault turns to the warning page with the RUN
key released, and the end of a fault lets go of it. -/
theorem lcdTick_screen (s : Sys) :
    (appLcdTick s).lcd.screen =
      if lcdFaultEdge s then ⟨.warning, s.measure.errorStatus, s.measure.errorStatus, false⟩
      else if s.measure.errorStatus.any = false ∧ s.lcd.prevErr.any = true then
        Screen.released ⟨s.lcd.lcdStatus, s.measure.errorStatus, s.measure.errorStatus,
          s.lcd.runKeyDown⟩ s.input.estopActive s.lcd.sysMode
      else ⟨s.lcd.lcdStatus, s.measure.errorStatus, s.measure.errorStatus, s.lcd.runKeyDown⟩ := by
  have hshow (t : Sys) : (appLcdShowError t).lcd =
      { t.lcd with lcdStatus := .warning, runKeyDown := false } :=
    lcd_reanchor { t with lcd := { t.lcd with lcdStatus := .warning } }
  have hcleared (t : Sys) : (appLcdFaultCleared t).lcd =
      if t.lcd.lcdStatus = .warning ∧ t.input.estopActive = false ∧ t.lcd.errorStatus.any = false
      then toRunPage t.lcd else t.lcd := by
    unfold appLcdFaultCleared
    simp only [lcdMayRestoreRunPage_iff]
    split_ifs <;> rfl
  have hedge : lcdFaultEdge s = true ↔
      s.measure.errorStatus.any = true ∧ s.lcd.prevErr.any = false := by
    simp [lcdFaultEdge]
  unfold appLcdTick
  dsimp only
  by_cases hrise : s.measure.errorStatus.any = true ∧ s.lcd.prevErr.any = false
  · rw [if_pos hrise, if_pos (hedge.mpr hrise), hshow]
    rfl
  · rw [if_neg hrise, if_neg (fun h ↦ hrise (hedge.mp h))]
    by_cases hfall : s.measure.errorStatus.any = false ∧ s.lcd.prevErr.any = true
    · rw [if_pos hfall, if_pos hfall, hcleared, Screen.released]
      dsimp only
      split_ifs <;> rfl
    · rw [if_neg hfall, if_neg hfall]
      rfl

/-! ### Panel frames -/

/-- A page change draws the page; what is shown and the machine mode stay. -/
theorem changePage_screen (tPage : ℕ) (s : Sys) :
    (appLcdChangePage tPage s).lcd.screen = s.lcd.screen ∧
      (appLcdChangePage tPage s).lcd.sysMode = s.lcd.sysMode := by
  have hcomm : (renderCommPage s).lcd.screen = s.lcd.screen ∧
      (renderCommPage s).lcd.sysMode = s.lcd.sysMode := by
    unfold renderCommPage
    dsimp only
    split_ifs <;> exact ⟨rfl, rfl⟩
  have hrendered (page : LcdPage) : (renderPage page s).lcd.screen = s.lcd.screen ∧
      (renderPage page s).lcd.sysMode = s.lcd.sysMode := by
    cases page <;> first | exact ⟨rfl, rfl⟩ | exact hcomm
  exact hrendered s.lcd.lcdStatus

/-- A page change that goes to a page shows that page. -/
theorem gotoPage_screen (page : LcdPage) (tPage : ℕ) (s : Sys) :
    (gotoPage page tPage s).lcd.screen = { s.lcd.screen with page := page } ∧
      (gotoPage page tPage s).lcd.sysMode = s.lcd.sysMode :=
  changePage_screen tPage { s with lcd := { s.lcd with lcdStatus := page } }

/-- The groups of setup pages: the model page, the pages of the hand and multi models, and those of
the standard model. -/
inductive SetupFamily
  | model
  | manual
  | standard
  deriving DecidableEq, Repr

/-- The group of a setup page. -/
def LcdPage.family : LcdPage → Option SetupFamily
  | .modelSetup => some .model
  | .setupMulti | .setupHand | .setupMh2 | .setupMhc | .setupMhe => some .manual
  | .setupStd1 | .setupStd2d | .setupStd2t | .setupStd3 | .setupStdc | .setupStde => some .standard
  | _ => none

/-- A frame that turns to a standard setup page whatever page is shown: STD_SETUP_PARAM 1, unless a
second page of the other models is shown, or 4, and the two run modes. -/
def FrameIn.opensStandard (f : FrameIn) (s : Sys) : Bool :=
  match f.key with
  | some .stdSetupParam =>
    (decide (f.word = 1) && decide (s.lcd.lcdStatus ≠ .setupMh2) &&
      decide (s.lcd.lcdStatus ≠ .setupMhc) && decide (s.lcd.lcdStatus ≠ .setupMhe)) ||
        decide (f.word = 4)
  | some .runMode => decide (f.word = 1) || decide (f.word = 2)
  | _ => false

/-- Where a panel frame may turn the page, and when it may change the machine mode. -/
inductive PageTurn (standard : Bool) (lcd lcd' : LcdState) : Prop
  | stay (hpage : lcd'.lcdStatus = lcd.lcdStatus) (hmode : lcd'.sysMode = lcd.sysMode)
  | within (family : SetupFamily) (hbefore : lcd.lcdStatus.family = some family)
      (hafter : lcd'.lcdStatus.family = some family) (hmode : lcd'.sysMode = lcd.sysMode)
  | setup (hpage : lcd'.lcdStatus = setup1PageForMode lcd.sysMode)
      (hmode : lcd'.sysMode = lcd.sysMode)
  | model (hpage : lcd'.lcdStatus = .modelSetup) (hmode : lcd'.sysMode = lcd.sysMode)
  | standard (hopens : standard = true) (hafter : lcd'.lcdStatus.family = some .standard)
      (hmode : lcd'.sysMode = lcd.sysMode)
  | run (hpage : lcd'.lcdStatus = .runMh ∨ lcd'.lcdStatus = .runStd)

/-- What a panel frame does to the screen: it turns the page in one of these ways, and at most
clears bits of the shown fault. -/
structure PanelScreen (standard : Bool) (s s' : Sys) : Prop where
  prev : s'.lcd.prevErr = s.lcd.prevErr
  shown : s'.lcd.errorStatus = s.lcd.errorStatus ∨ s'.lcd.errorStatus = .clear ∨
    s'.lcd.errorStatus = { s.lcd.errorStatus with ovld := false, outerr := false }
  turn : PageTurn standard s.lcd s'.lcd

theorem runPageForMode_run (sysMode : ℕ) :
    runPageForMode sysMode = .runMh ∨ runPageForMode sysMode = .runStd := by
  unfold runPageForMode
  split_ifs
  · exact Or.inl rfl
  · exact Or.inl rfl
  · exact Or.inr rfl

/-- The loop is entered on the run page of the loaded model, with nothing shown. -/
theorem bootState_screen (build : Build) (boot : BootIn) :
    (bootState build boot).lcd.screen =
        ⟨runPageForMode (bootState build boot).lcd.sysMode, .clear, .clear, false⟩ := by
  have hpage := changePage_screen boot.tPage
    { (appLcdHookSetPot (appConfigLoad boot.bus boot.fram).cfg.outputPower
        { resetState build boot with
          cfg := (appConfigLoad boot.bus boot.fram).cfg
          fram := (appConfigLoad boot.bus boot.fram).fram }) with
      lcd := { lcdStateInit with
        lcdStatus := runPageForMode (appConfigLoad boot.bus boot.fram).cfg.modelType
        sysMode := (appConfigLoad boot.bus boot.fram).cfg.modelType
        tempCommMode := 0xFF } }
  have hlcd := lcd_applyConfig build boot.sensDn (appInit boot (resetState build boot))
  have hscreen : (bootState build boot).lcd.screen =
      ⟨runPageForMode (appConfigLoad boot.bus boot.fram).cfg.modelType, .clear, .clear, false⟩ :=
    (congrArg LcdState.screen hlcd).trans hpage.1
  have hmode : (bootState build boot).lcd.sysMode =
      (appConfigLoad boot.bus boot.fram).cfg.modelType :=
    (congrArg LcdState.sysMode hlcd).trans hpage.2
  rw [hscreen, hmode]

/-- No panel frame turns to the warning page. -/
theorem PageTurn.ne_warning {standard : Bool} {lcd lcd' : LcdState}
    (h : PageTurn standard lcd lcd') (hpage : lcd.lcdStatus ≠ .warning) :
    lcd'.lcdStatus ≠ .warning := by
  intro hwarning
  cases h with
  | stay hstay => exact hpage (hstay.symm.trans hwarning)
  | within family _ hafter => rw [hwarning] at hafter; cases hafter
  | setup hsetup =>
    rw [hwarning, setup1PageForMode] at hsetup
    split_ifs at hsetup
  | model hmodel => rw [hwarning] at hmodel; cases hmodel
  | standard _ hafter => rw [hwarning] at hafter; cases hafter
  | run hrun => rcases hrun with hrun | hrun <;> rw [hwarning] at hrun <;> cases hrun

variable {standard : Bool}

theorem PanelScreen.of_eq {s s' : Sys} (hscreen : s'.lcd.screen = s.lcd.screen)
    (hmode : s'.lcd.sysMode = s.lcd.sysMode) : PanelScreen standard s s' where
  prev := congrArg Screen.prev hscreen
  shown := Or.inl (congrArg Screen.shown hscreen)
  turn := .stay (congrArg Screen.page hscreen) hmode

theorem PanelScreen.off_screen {s mid s' : Sys} (h : PanelScreen standard s mid)
    (hscreen : s'.lcd.screen = mid.lcd.screen) (hmode : s'.lcd.sysMode = mid.lcd.sysMode) :
    PanelScreen standard s s' := by
  have hpage : s'.lcd.lcdStatus = mid.lcd.lcdStatus := congrArg Screen.page hscreen
  have hshown : s'.lcd.errorStatus = mid.lcd.errorStatus := congrArg Screen.shown hscreen
  have hprev : s'.lcd.prevErr = mid.lcd.prevErr := congrArg Screen.prev hscreen
  refine ⟨hprev.trans h.prev, by rw [hshown]; exact h.shown, ?_⟩
  rcases h.turn with ⟨hstay, hkept⟩ | ⟨family, hbefore, hafter, hkept⟩ | ⟨hsetup, hkept⟩ |
    ⟨hmodel, hkept⟩ | ⟨hopens, hafter, hkept⟩ | hrun
  · exact .stay (hpage.trans hstay) (hmode.trans hkept)
  · exact .within family hbefore (by rw [hpage]; exact hafter) (hmode.trans hkept)
  · exact .setup (hpage.trans hsetup) (hmode.trans hkept)
  · exact .model (hpage.trans hmodel) (hmode.trans hkept)
  · exact .standard hopens (by rw [hpage]; exact hafter) (hmode.trans hkept)
  · exact .run (by rw [hpage]; exact hrun)

/-- A page change from a state that only differs in what is not on the screen. -/
theorem PanelScreen.of_goto {page : LcdPage} {tPage : ℕ} {s mid : Sys}
    (hscreen : mid.lcd.screen = s.lcd.screen) (hmode : mid.lcd.sysMode = s.lcd.sysMode)
    (hturn : ∀ lcd' : LcdState, lcd'.lcdStatus = page → lcd'.sysMode = s.lcd.sysMode →
      PageTurn standard s.lcd lcd') : PanelScreen standard s (gotoPage page tPage mid) := by
  obtain ⟨hpage, hmode'⟩ := gotoPage_screen page tPage mid
  rw [hscreen] at hpage
  exact ⟨congrArg Screen.prev hpage, Or.inl (congrArg Screen.shown hpage),
    hturn _ (congrArg Screen.page hpage) (hmode'.trans hmode)⟩

theorem screen_keyMulti (data now : ℕ) (s : Sys) :
    PanelScreen standard s (handleKeyMulti data now s) := by
  have hcommand (cmd : UsCmd) (t : Sys) : (appLcdHookUsCommand cmd now t).lcd = t.lcd :=
    lcd_regCommand cmd .touch now t
  have hquiet {t : Sys} (hlcd : t.lcd = s.lcd) : PanelScreen standard s t :=
    .of_eq (congrArg LcdState.screen hlcd) (congrArg LcdState.sysMode hlcd)
  have hkey {t : Sys} {down : Bool} (hlcd : t.lcd = { s.lcd with runKeyDown := down }) :
      PanelScreen standard s t := by
    refine ⟨?_, Or.inl ?_, .stay ?_ ?_⟩ <;> rw [hlcd]
  have hreset : PanelScreen standard s (handleKeyReset now s) := by
    unfold handleKeyReset
    dsimp only
    rw [hcommand]
    split_ifs
    · exact ⟨rfl, Or.inr (Or.inr rfl), .run (runPageForMode_run _)⟩
    · exact ⟨rfl, Or.inr (Or.inr rfl), .stay rfl rfl⟩
    · exact hquiet (hcommand .reset s)
  have htoggle : PanelScreen standard s (handleRunToggle now s) := by
    unfold handleRunToggle
    dsimp only
    split_ifs
    · exact hkey (hcommand .start _)
    · exact hkey (hcommand .runRelease _)
  unfold handleKeyMulti
  split_ifs
  · exact hreset
  · exact hquiet (hcommand .seek s)
  · exact hquiet (hcommand .start s)
  · exact hquiet (hcommand .runRelease s)
  · exact htoggle
  · exact hquiet rfl

theorem screen_keyErrorReset (data now : ℕ) (s : Sys) :
    PanelScreen standard s (handleKeyErrorReset data now s) := by
  have hcommand : (appLcdHookUsCommand .reset now s).lcd = s.lcd :=
    lcd_regCommand .reset .touch now s
  unfold handleKeyErrorReset
  dsimp only
  rw [hcommand]
  split_ifs
  · exact .of_eq rfl rfl
  · exact ⟨rfl, Or.inr (Or.inl rfl), .run (runPageForMode_run _)⟩
  · exact ⟨rfl, Or.inr (Or.inl rfl), .stay rfl rfl⟩
  · exact .of_eq (congrArg LcdState.screen hcommand) (congrArg LcdState.sysMode hcommand)

theorem screen_setupParam (tPage : ℕ) {s mid : Sys} (hscreen : mid.lcd.screen = s.lcd.screen)
    (hmode : mid.lcd.sysMode = s.lcd.sysMode) :
    PanelScreen standard s (handleSetupParamEnter tPage mid) := by
  have hentered : PanelScreen standard s (gotoPage (setup1PageForMode mid.lcd.sysMode) tPage mid) :=
    .of_goto hscreen hmode fun lcd' hpage hkept ↦ .setup (by rw [hpage, hmode]) hkept
  exact hentered.off_screen rfl rfl

/-- A long press that was not held long enough only notes the press. -/
theorem screen_longPressKey (vp data now : ℕ) {enter : Sys → Sys} {s : Sys}
    (henter : ∀ mid : Sys, mid.lcd.screen = s.lcd.screen → mid.lcd.sysMode = s.lcd.sysMode →
      PanelScreen standard s (enter mid)) :
    PanelScreen standard s (longPressKey vp data now enter s) := by
  obtain ⟨ms, mark, hmarked⟩ := longPressKey_marked vp data now enter s
  rw [hmarked]
  split_ifs
  · exact henter _ rfl rfl
  · exact .of_eq rfl rfl

/-- The second setup step stays in the group of the page it leaves, or on the page. -/
theorem setup2Page_family (s : Sys) : setup2Page s = s.lcd.lcdStatus ∨
    s.lcd.lcdStatus.family ≠ none ∧ (setup2Page s).family = s.lcd.lcdStatus.family := by
  unfold setup2Page
  cases s.lcd.lcdStatus <;> dsimp only <;>
    first
      | exact Or.inl rfl
      | exact Or.inr ⟨by rintro ⟨⟩, rfl⟩
      | (split_ifs <;> exact Or.inr ⟨by rintro ⟨⟩, rfl⟩)

theorem setup3Page_family (s : Sys) : setup3Page s = s.lcd.lcdStatus ∨
    s.lcd.lcdStatus.family ≠ none ∧ (setup3Page s).family = s.lcd.lcdStatus.family := by
  unfold setup3Page
  cases s.lcd.lcdStatus <;> dsimp only <;>
    first
      | exact Or.inl rfl
      | exact Or.inr ⟨by rintro ⟨⟩, rfl⟩
      | (split_ifs <;> exact Or.inr ⟨by rintro ⟨⟩, rfl⟩)

/-- A page of the same group, or the page shown. -/
theorem PageTurn.of_family {lcd lcd' : LcdState} (hmode : lcd'.sysMode = lcd.sysMode)
    (h : lcd'.lcdStatus = lcd.lcdStatus ∨
      lcd.lcdStatus.family ≠ none ∧ lcd'.lcdStatus.family = lcd.lcdStatus.family) :
    PageTurn standard lcd lcd' := by
  rcases h with hpage | ⟨hsome, hfamily⟩
  · exact .stay hpage hmode
  · obtain ⟨family, hbefore⟩ := Option.ne_none_iff_exists'.mp hsome
    exact .within family hbefore (hfamily.trans hbefore) hmode

theorem screen_stdSetupParam {f : FrameIn} (hkey : f.key = some .stdSetupParam) (s : Sys) :
    PanelScreen (f.opensStandard s) s (handleStdSetupParam f.word f.tPage s) := by
  have hopens : f.opensStandard s = ((decide (f.word = 1) &&
      decide (s.lcd.lcdStatus ≠ .setupMh2) && decide (s.lcd.lcdStatus ≠ .setupMhc) &&
        decide (s.lcd.lcdStatus ≠ .setupMhe)) || decide (f.word = 4)) := by
    rw [FrameIn.opensStandard, hkey]
  unfold handleStdSetupParam
  split_ifs with hone htwo hthree hfour hserial
  · refine ⟨rfl, Or.inl rfl, ?_⟩
    by_cases hsecond : s.lcd.lcdStatus = .setupMh2 ∨ s.lcd.lcdStatus = .setupMhc ∨
        s.lcd.lcdStatus = .setupMhe
    · have hpage : (gotoSetup1 s).lcd.lcdStatus = if s.cfg.modelType = 0 then .setupHand
          else if s.cfg.modelType = 1 then .setupMulti else s.lcd.lcdStatus := if_pos hsecond
      have hbefore : s.lcd.lcdStatus.family = some .manual := by
        rcases hsecond with h | h | h <;> rw [h] <;> rfl
      refine .within .manual hbefore ?_ rfl
      rw [hpage]
      split_ifs
      · rfl
      · rfl
      · exact hbefore
    · have hpage : (gotoSetup1 s).lcd.lcdStatus = .setupStd1 := if_neg hsecond
      push Not at hsecond
      refine .standard ?_ (by rw [hpage]; rfl) rfl
      rw [hopens]
      simp [hone, hsecond.1, hsecond.2.1, hsecond.2.2]
  · exact .of_goto rfl rfl fun lcd' hpage hmode ↦ .of_family hmode (hpage ▸ setup2Page_family s)
  · exact .of_goto rfl rfl fun lcd' hpage hmode ↦ .of_family hmode (hpage ▸ setup3Page_family s)
  · exact .of_goto rfl rfl fun lcd' hpage hmode ↦
      .standard (by rw [hopens]; simp [hfour]) (by rw [hpage]; rfl) hmode
  · exact .of_goto rfl rfl fun lcd' hpage hmode ↦
      .standard (by rw [hopens]; simp [hfour]) (by rw [hpage]; rfl) hmode
  · exact ⟨rfl, Or.inl rfl, .stay rfl rfl⟩
  · exact .of_eq rfl rfl

theorem screen_runMode {f : FrameIn} (hkey : f.key = some .runMode) (s : Sys) :
    PanelScreen (f.opensStandard s) s (handleRunMode f.word f.tPage s) := by
  have hopens : f.opensStandard s = (decide (f.word = 1) || decide (f.word = 2)) := by
    rw [FrameIn.opensStandard, hkey]
  unfold handleRunMode
  split_ifs with hone htwo
  · exact .of_goto rfl rfl fun lcd' hpage hmode ↦
      .standard (by rw [hopens]; simp [hone]) (by rw [hpage]; rfl) hmode
  · exact .of_goto rfl rfl fun lcd' hpage hmode ↦
      .standard (by rw [hopens]; simp [htwo]) (by rw [hpage]; rfl) hmode
  · exact .of_eq rfl rfl

theorem screen_commMode (data tPage : ℕ) (s : Sys) :
    PanelScreen standard s (handleCommMode data tPage s) := by
  unfold handleCommMode
  split_ifs
  · refine .of_goto rfl rfl fun lcd' hpage hmode ↦ .of_family hmode ?_
    rw [hpage]
    cases s.lcd.lcdStatus <;> first | exact Or.inl rfl | exact Or.inr ⟨by rintro ⟨⟩, rfl⟩
  all_goals
    refine .of_goto rfl rfl fun lcd' hpage hmode ↦ .of_family hmode ?_
    rw [hpage]
    cases s.lcd.lcdStatus <;> first | exact Or.inl rfl | exact Or.inr ⟨by rintro ⟨⟩, rfl⟩

theorem screen_sysPicNow (data tKey tPage : ℕ) (s : Sys) :
    PanelScreen standard s (handleSysPicNow data tKey tPage s) := by
  have hanchor := lcd_reanchor s
  unfold handleSysPicNow
  split_ifs
  · generalize appLcdInputRunKeyReanchor s = anchored at hanchor
    obtain ⟨hscreen, -⟩ := changePage_screen tPage { anchored with lcd := { anchored.lcd with
      lcdStatus := runPageForMode anchored.cfg.modelType
      sysMode := anchored.cfg.modelType
      tempCommMode := 0xFF } }
    have hprev : anchored.lcd.prevErr = s.lcd.prevErr := by rw [hanchor]
    have hshown : anchored.lcd.errorStatus = s.lcd.errorStatus := by rw [hanchor]
    refine ⟨(congrArg Screen.prev hscreen).trans hprev,
      Or.inl ((congrArg Screen.shown hscreen).trans hshown), .run ?_⟩
    have hpage : (appLcdInitMode tPage anchored).lcd.lcdStatus =
        runPageForMode anchored.cfg.modelType := congrArg Screen.page hscreen
    rw [hpage]
    exact runPageForMode_run _
  · exact .of_eq rfl rfl

theorem etherKey_screen (data : ℕ) (s : Sys) :
    (handleEtherKey data s).lcd.screen = s.lcd.screen ∧
      (handleEtherKey data s).lcd.sysMode = s.lcd.sysMode := by
  have hscreen := congrArg LcdState.screen (etherKey_offEther data s)
  have hmode := congrArg LcdState.sysMode (etherKey_offEther data s)
  exact ⟨hscreen, hmode⟩

/-- The pages of a SAVE: the run page of the group; a page of no group stays. -/
theorem screen_dataSaveGroup (s : Sys) : PanelScreen standard s (dataSaveGroup s) := by
  have hether (t : Sys) : (commitCommModeAndEther t).lcd.screen = t.lcd.screen := by
    rw [commitCommModeAndEther_eq]
    rfl
  have hhorn (on : Bool) (t : Sys) : (appHornSetMode on t).lcd = t.lcd := by
    rw [appHornSetMode_eq]
  have hcount (t : Sys) : (commitCntReset t).lcd.screen = t.lcd.screen := by
    rw [commitCntReset_eq]
    rfl
  have hrun {t : Sys} {page : LcdPage} (hscreen : t.lcd.screen = s.lcd.screen)
      (hpage : page = .runMh ∨ page = .runStd) :
      PanelScreen standard s { t with lcd := { t.lcd with lcdStatus := page } } :=
    ⟨congrArg Screen.prev hscreen, Or.inl (congrArg Screen.shown hscreen), .run hpage⟩
  unfold dataSaveGroup
  cases setupGroup s with
  | model => exact ⟨rfl, Or.inl rfl, .run (runPageForMode_run _)⟩
  | multi => exact hrun (hether (appLcdHookSetPot s.cfg.outputPower s)) (Or.inl rfl)
  | hand => exact ⟨rfl, Or.inl rfl, .run (Or.inl rfl)⟩
  | std =>
    have hhorned := congrArg LcdState.screen
      (hhorn s.lcd.tempHorndown (commitCntReset (appLcdHookSetPot s.cfg.outputPower s)))
    exact hrun ((hether _).trans (hhorned.trans (hcount _))) (Or.inr rfl)
  | other => exact .of_eq rfl rfl

/-- The pages of a CANCEL: a run page from every setup page; other pages stay. -/
theorem cancelPage_turn (lcd : LcdState) :
    (cancelPage lcd).prevErr = lcd.prevErr ∧ (cancelPage lcd).errorStatus = lcd.errorStatus ∧
      (cancelPage lcd).sysMode = lcd.sysMode ∧
      (cancelPage lcd).lcdStatus = match lcd.lcdStatus.family with
        | some .standard => .runStd
        | some _ => .runMh
        | none => lcd.lcdStatus := by
  unfold cancelPage
  cases hpage : lcd.lcdStatus <;>
    first
      | exact ⟨rfl, rfl, rfl, rfl⟩
      | exact ⟨rfl, rfl, rfl, hpage⟩

theorem screen_dataSaveCancel (bus : I2cBus) (tPage : ℕ) (s : Sys) :
    PanelScreen standard s (dataSaveCancel bus tPage s) := by
  obtain ⟨hscreen, hmode⟩ := changePage_screen tPage { s with
    cfg := (appConfigLoad bus s.fram).cfg
    fram := (appConfigLoad bus s.fram).fram
    lcd := cancelPage { s.lcd with
      tempCommMode := 0xFF
      sysMode := if s.lcd.lcdStatus = .modelSetup then (appConfigLoad bus s.fram).cfg.modelType
        else s.lcd.sysMode } }
  obtain ⟨hprev, hshown, hkept, hpage⟩ := cancelPage_turn { s.lcd with
    tempCommMode := 0xFF
    sysMode := if s.lcd.lcdStatus = .modelSetup then (appConfigLoad bus s.fram).cfg.modelType
      else s.lcd.sysMode }
  refine ⟨(congrArg Screen.prev hscreen).trans hprev,
    Or.inl ((congrArg Screen.shown hscreen).trans hshown), ?_⟩
  have hpage' := (congrArg Screen.page hscreen).trans hpage
  have hmode' := hmode.trans hkept
  dsimp only at hpage' hmode'
  cases hfamily : s.lcd.lcdStatus.family with
  | none =>
    rw [hfamily] at hpage'
    have hmodel : s.lcd.lcdStatus ≠ .modelSetup := by
      intro h
      rw [h] at hfamily
      cases hfamily
    exact .stay hpage' (hmode'.trans (if_neg hmodel))
  | some family =>
    rw [hfamily] at hpage'
    refine .run ?_
    cases family with
    | standard => exact Or.inr hpage'
    | model => exact Or.inl hpage'
    | manual => exact Or.inl hpage'

theorem screen_dataSave (f : FrameIn) (s : Sys) : PanelScreen standard s
    (if f.word = 1 then dataSaveCommit f.bus f.tPage s else dataSaveCancel f.bus f.tPage s) := by
  split_ifs
  · obtain ⟨hscreen, hmode⟩ := changePage_screen f.tPage (saveConfig f.bus (dataSaveGroup s))
    exact (screen_dataSaveGroup s).off_screen hscreen hmode
  · exact screen_dataSaveCancel _ _ s

/-- A panel frame turns the page and clears bits of the shown fault as `PanelScreen` says. -/
theorem dispatch_screen (f : FrameIn) (s : Sys) :
    PanelScreen (f.opensStandard s) s (appLcdInputDispatch f s) := by
  unfold appLcdInputDispatch
  cases hkey : f.key with
  | none => exact .of_eq rfl rfl
  | some key =>
    have hmodel (mid : Sys) (hscreen : mid.lcd.screen = s.lcd.screen)
        (hmode : mid.lcd.sysMode = s.lcd.sysMode) :
        PanelScreen (f.opensStandard s) s (enterModelSetup mid) :=
      ⟨congrArg Screen.prev hscreen, Or.inl (congrArg Screen.shown hscreen), .model rfl hmode⟩
    show PanelScreen _ s (panelKeyHandler key f.word f s)
    cases key with
    | setupParam => exact screen_setupParam _ rfl rfl
    | setupParamMoohan =>
      exact screen_longPressKey _ _ _ fun mid hscreen hmode ↦ screen_setupParam _ hscreen hmode
    | setupModel => exact screen_longPressKey _ _ _ hmodel
    | stdSetupParam => exact screen_stdSetupParam hkey s
    | runMode => exact screen_runMode hkey s
    | keyMulti => exact screen_keyMulti _ _ s
    | keyErrorReset => exact screen_keyErrorReset _ _ s
    | dataSave => exact screen_dataSave f s
    | commSpeed =>
      dsimp only [panelKeyHandler, handleCommSpeed]
      split_ifs <;> exact .of_eq rfl rfl
    | commParity =>
      dsimp only [panelKeyHandler, handleCommParity]
      split_ifs <;> exact .of_eq rfl rfl
    | commMode => exact screen_commMode _ _ s
    | etherKey => exact .of_eq (etherKey_screen _ s).1 (etherKey_screen _ s).2
    | sysPicNow => exact screen_sysPicNow _ _ _ s
    | _ => exact .of_eq rfl rfl

end UsCtrl
