import UsCtrl.RunEvents

/-!
# Calls that do not look at the Modbus glue

Only the Modbus tick reads or writes the state of `app_modbus.c`. Every other call commutes with
replacing that state (`exec_withModbus`), so it leaves it alone (`exec_modbus`), and two states that
differ in nothing else still differ in nothing else afterwards.
-/

set_option autoImplicit false
set_option relaxedAutoImplicit false

namespace UsCtrl

/-- The state with the Modbus glue replaced. -/
def withModbus (m : ModbusGlue) (s : Sys) : Sys := { s with modbus := m }

/-- A handler that neither looks at the Modbus glue nor changes it. -/
def Blind (handler : Sys → Sys) : Prop :=
  ∀ m s, handler (withModbus m s) = withModbus m (handler s)

theorem Blind.comp {f g : Sys → Sys} (hg : Blind g) (hf : Blind f) : Blind fun s ↦ g (f s) := by
  intro m s
  change g (f (withModbus m s)) = withModbus m (g (f s))
  rw [hf m s, hg m (f s)]

/-- A handler that does not see the Modbus glue does not change it either. -/
theorem Blind.modbus {handler : Sys → Sys} (hblind : Blind handler) (s : Sys) :
    (handler s).modbus = s.modbus := by
  have hsame : (handler (withModbus s.modbus s)).modbus = s.modbus := by
    rw [hblind s.modbus s]
    rfl
  exact hsame

theorem blind_id : Blind fun s ↦ s := fun _ _ ↦ rfl

/-- A choice that has been made before. -/
theorem Blind.ite {f g : Sys → Sys} (hf : Blind f) (choice : Prop) [Decidable choice]
    (hg : Blind g) : Blind fun s ↦ if choice then f s else g s := by
  intro m s
  dsimp only
  split_ifs
  · exact hf m s
  · exact hg m s

/-! ### Commands and page changes -/

theorem blind_regCommand (cmd : UsCmd) (src : UsRun) (now : ℕ) :
    Blind (appRegCommand cmd src now) := by
  intro m s
  have hallowed : appRegStartAllowed (issueStart (withModbus m s)) =
      appRegStartAllowed (issueStart s) := rfl
  cases cmd with
  | start =>
    simp only [appRegCommand, startCommand, hallowed]
    split_ifs <;> first | rfl | contradiction
  | runRelease =>
    simp only [appRegCommand, runReleaseCommand]
    split_ifs <;> first | rfl | contradiction
  | seek => rfl
  | reset => rfl

theorem blind_hornSetMode (on : Bool) : Blind (appHornSetMode on) := by
  intro m s
  unfold appHornSetMode
  split_ifs <;> first | rfl | contradiction

theorem blind_changePage (tPage : ℕ) : Blind (appLcdChangePage tPage) := by
  intro m s
  have hrender (page : LcdPage) : renderPage page (withModbus m s) =
      withModbus m (renderPage page s) := by
    cases page <;> simp only [renderPage, renderSetupMain, renderCommPage] <;>
      first | rfl | (split_ifs <;> first | rfl | contradiction)
  simp only [appLcdChangePage]
  rw [show (withModbus m s).lcd.lcdStatus = s.lcd.lcdStatus from rfl, hrender]
  rfl

theorem blind_gotoPage (page : LcdPage) (tPage : ℕ) : Blind (gotoPage page tPage) :=
  (blind_changePage tPage).comp fun _ _ ↦ rfl

theorem blind_initMode (tPage : ℕ) : Blind (appLcdInitMode tPage) :=
  (blind_changePage tPage).comp fun _ _ ↦ rfl

theorem blind_reanchor : Blind appLcdInputRunKeyReanchor := by
  intro m s
  simp only [appLcdInputRunKeyReanchor, appLcdHookUsCommand]
  rw [blind_regCommand]
  rfl

/-! ### Panel frames and the panel tick -/

theorem blind_setOverload (on : Bool) : Blind (appLcdSetOverload on) := by
  intro m s
  simp only [appLcdSetOverload]
  split_ifs <;> first | rfl | contradiction

theorem blind_setEstop (on : Bool) : Blind (appLcdSetEstop on) := by
  intro m s
  have hanchor := blind_reanchor m { s with lcd := { s.lcd with lcdStatus := .warning } }
  have hrestore : lcdMayRestoreRunPage (withModbus m s) = lcdMayRestoreRunPage s := rfl
  simp only [appLcdSetEstop, hrestore]
  split_ifs
  · exact hanchor
  · rfl
  · rfl

theorem blind_lcdTick : Blind appLcdTick := by
  intro m s
  have hanchor (t : Sys) : appLcdShowError (withModbus m t) = withModbus m (appLcdShowError t) :=
    blind_reanchor m { t with lcd := { t.lcd with lcdStatus := .warning } }
  have hcleared (t : Sys) :
      appLcdFaultCleared (withModbus m t) = withModbus m (appLcdFaultCleared t) := by
    unfold appLcdFaultCleared
    split_ifs <;> first | rfl | contradiction
  have hshow := hanchor { s with lcd := { s.lcd with errorStatus := s.measure.errorStatus } }
  have hclear := hcleared { s with lcd := { s.lcd with errorStatus := s.measure.errorStatus } }
  unfold appLcdTick
  dsimp only
  split_ifs <;> first | rfl | contradiction | skip
  · exact congrArg (fun t : Sys ↦
      ({ t with lcd := { t.lcd with prevErr := s.measure.errorStatus } } : Sys)) hshow
  · exact congrArg (fun t : Sys ↦
      ({ t with lcd := { t.lcd with prevErr := s.measure.errorStatus } } : Sys)) hclear

/-- The return to the run page once a displayed fault has been cleared. -/
theorem blind_clearFault (clear : ErrorStatus → ErrorStatus) : Blind fun s ↦
    if lcdMayRestoreRunPage { s with lcd := { s.lcd with errorStatus := clear s.lcd.errorStatus } }
    then { s with lcd := toRunPage { s.lcd with errorStatus := clear s.lcd.errorStatus } }
    else { s with lcd := { s.lcd with errorStatus := clear s.lcd.errorStatus } } := by
  intro m s
  have hrestore : lcdMayRestoreRunPage { withModbus m s with lcd := { (withModbus m s).lcd with
      errorStatus := clear (withModbus m s).lcd.errorStatus } } =
      lcdMayRestoreRunPage { s with lcd := { s.lcd with
        errorStatus := clear s.lcd.errorStatus } } := rfl
  dsimp only
  rw [hrestore]
  split_ifs <;> rfl

theorem blind_keyReset (now : ℕ) : Blind (handleKeyReset now) := by
  intro m s
  have hclear := blind_clearFault (fun error ↦ { error with ovld := false, outerr := false }) m
    (appRegCommand .reset .touch now s)
  unfold handleKeyReset appLcdHookUsCommand
  dsimp only
  rw [blind_regCommand]
  generalize appRegCommand .reset .touch now s = reset at hclear ⊢
  have hshown : (withModbus m reset).lcd = reset.lcd := rfl
  rw [hshown]
  by_cases herror : reset.lcd.errorStatus.ovld = true ∨ reset.lcd.errorStatus.outerr = true
  · rw [if_pos herror, if_pos herror]
    exact hclear
  · rw [if_neg herror, if_neg herror]

theorem blind_runToggle (now : ℕ) : Blind (handleRunToggle now) := by
  intro m s
  have hstart := blind_regCommand .start .touch now m
    { s with lcd := { s.lcd with runKeyDown := !s.lcd.runKeyDown } }
  have hrelease := blind_regCommand .runRelease .touch now m
    { s with lcd := { s.lcd with runKeyDown := !s.lcd.runKeyDown } }
  simp only [handleRunToggle, appLcdHookUsCommand]
  split_ifs <;> first | contradiction | skip
  · exact congrArg (appLcdHookSetPot s.cfg.outputPower) hstart
  · exact hrelease

theorem blind_keyMulti (data now : ℕ) : Blind (handleKeyMulti data now) := by
  intro m s
  unfold handleKeyMulti
  split_ifs
  · exact blind_keyReset now m s
  · exact blind_regCommand .seek .touch now m s
  · exact congrArg (appLcdHookSetPot s.cfg.outputPower) (blind_regCommand .start .touch now m s)
  · exact blind_regCommand .runRelease .touch now m s
  · exact blind_runToggle now m s
  · rfl

theorem blind_keyErrorReset (data now : ℕ) : Blind (handleKeyErrorReset data now) := by
  intro m s
  have hclear := blind_clearFault (fun _ ↦ .clear) m (appRegCommand .reset .touch now s)
  unfold handleKeyErrorReset appLcdHookUsCommand
  dsimp only
  rw [blind_regCommand]
  generalize appRegCommand .reset .touch now s = reset at hclear ⊢
  have hshown : (withModbus m reset).lcd = reset.lcd := rfl
  rw [hshown]
  by_cases hdata : data ≠ 1
  · rw [if_pos hdata, if_pos hdata]
  · rw [if_neg hdata, if_neg hdata]
    by_cases herror : reset.lcd.errorStatus.ovtime = true
    · rw [if_pos herror, if_pos herror]
      exact hclear
    · rw [if_neg herror, if_neg herror]

theorem blind_setupParamEnter (tPage : ℕ) : Blind (handleSetupParamEnter tPage) := by
  intro m s
  unfold handleSetupParamEnter
  dsimp only
  rw [blind_gotoPage]
  rfl

theorem blind_longPressKey (vp data now : ℕ) {enter : Sys → Sys} (henter : Blind enter) :
    Blind (longPressKey vp data now enter) := by
  intro m s
  have hentered := henter m { s with lcd := (longPressReleased vp data now s.lcd).1 }
  unfold longPressKey
  dsimp only
  split_ifs <;> first | contradiction | skip
  · exact hentered
  · rfl

theorem blind_stdSetupParam (data tPage : ℕ) : Blind (handleStdSetupParam data tPage) := by
  intro m s
  have hgoto (page : LcdPage) := blind_gotoPage page tPage m s
  simp only [handleStdSetupParam]
  split_ifs <;> first | contradiction | exact hgoto _ | rfl

theorem blind_runMode (data tPage : ℕ) : Blind (handleRunMode data tPage) := by
  intro m s
  unfold handleRunMode
  split_ifs
  · exact blind_gotoPage _ tPage m { s with cfg := { s.cfg with runMode := 0 } }
  · exact blind_gotoPage _ tPage m { s with cfg := { s.cfg with runMode := 1 } }
  · rfl

theorem blind_commMode (data tPage : ℕ) : Blind (handleCommMode data tPage) := by
  intro m s
  have hgoto (page : LcdPage) (mode : ℕ) := blind_gotoPage page tPage m
    { s with lcd := { s.lcd with tempCommMode := mode } }
  unfold handleCommMode
  by_cases hdata : data = 0
  · rw [if_pos hdata, if_pos hdata]
    exact hgoto _ _
  · rw [if_neg hdata, if_neg hdata]
    exact hgoto _ _

theorem blind_sysPicNow (data tKey tPage : ℕ) : Blind (handleSysPicNow data tKey tPage) := by
  intro m s
  unfold handleSysPicNow
  split_ifs <;> first | contradiction | skip
  · exact (blind_initMode tPage).comp blind_reanchor m s
  · rfl

theorem blind_dataSaveGroup : Blind dataSaveGroup := by
  have hcomm : Blind commitCommModeAndEther := by
    intro m s
    simp only [commitCommModeAndEther]
    split_ifs <;> first | rfl | contradiction
  have hcount : Blind commitCntReset := by
    intro m s
    simp only [commitCntReset]
    split_ifs <;> first | rfl | contradiction
  intro m s
  have hgroup : setupGroup (withModbus m s) = setupGroup s := rfl
  simp only [dataSaveGroup, hgroup]
  cases setupGroup s with
  | model => rfl
  | multi =>
    have hcommit := hcomm m (appLcdHookSetPot s.cfg.outputPower s)
    exact congrArg (fun t : Sys ↦ ({ commitCommSerialShadows t with
      lcd := { (commitCommSerialShadows t).lcd with lcdStatus := .runMh } } : Sys)) hcommit
  | hand => rfl
  | std =>
    have hcommit := (hcomm.comp ((blind_hornSetMode s.lcd.tempHorndown).comp hcount)) m
      (appLcdHookSetPot s.cfg.outputPower s)
    exact congrArg (fun t : Sys ↦ ({ commitCommSerialShadows t with
      lcd := { (commitCommSerialShadows t).lcd with lcdStatus := .runStd } } : Sys)) hcommit
  | other => rfl

theorem blind_dataSave (bus : I2cBus) (tPage : ℕ) :
    Blind (dataSaveCommit bus tPage) ∧ Blind (dataSaveCancel bus tPage) := by
  constructor
  · have hsave : Blind (saveConfig bus) := fun _ _ ↦ rfl
    exact (blind_changePage tPage).comp (hsave.comp blind_dataSaveGroup)
  · exact (blind_changePage tPage).comp fun _ _ ↦ rfl

theorem blind_inputDispatch (f : FrameIn) : Blind (appLcdInputDispatch f) := by
  unfold appLcdInputDispatch
  cases f.key with
  | none => exact blind_id
  | some key =>
    dsimp only
    unfold panelKeyHandler
    cases key with
    | setupParam => exact blind_setupParamEnter f.tPage
    | setupParamMoohan => exact blind_longPressKey _ _ _ (blind_setupParamEnter f.tPage)
    | setupModel => exact blind_longPressKey _ _ _ fun _ _ ↦ rfl
    | stdSetupParam => exact blind_stdSetupParam f.word f.tPage
    | runMode => exact blind_runMode f.word f.tPage
    | keyMulti => exact blind_keyMulti f.word f.tCmd
    | keyErrorReset => exact blind_keyErrorReset f.word f.tCmd
    | dataSave =>
      dsimp only
      split_ifs
      · exact (blind_dataSave f.bus f.tPage).1
      · exact (blind_dataSave f.bus f.tPage).2
    | commSpeed =>
      intro m s
      simp only [handleCommSpeed]
      split_ifs <;> rfl
    | commParity =>
      intro m s
      simp only [handleCommParity]
      split_ifs <;> rfl
    | commMode => exact blind_commMode f.word f.tPage
    | sysPicNow => exact blind_sysPicNow f.word f.tKey f.tPage
    | _ => exact fun _ _ ↦ rfl

/-! ### Press ticks -/

theorem blind_weldSolEdge (level : Bool) : Blind (weldSolEdge level) := by
  intro m s
  simp only [weldSolEdge]
  split_ifs <;> first | rfl | contradiction

theorem blind_weldOutputs (bus : I2cBus) (out : WeldOut) (tCmd : ℕ) :
    Blind (weldOutputs bus out tCmd) := by
  have hstart : Blind (weldOutStart out tCmd) := by
    intro m s
    unfold weldOutStart
    split_ifs
    · exact blind_regCommand .start .cycle tCmd m (i2cPotSetDac out.amplitude s)
    · rfl
  have hamp : Blind (weldOutAmp out) := by
    intro m s
    unfold weldOutAmp
    split_ifs <;> rfl
  have hstop : Blind (weldOutStop out) := by
    intro m s
    unfold weldOutStop
    split_ifs
    · exact blind_regCommand .runRelease .cycle 0 m s
    · rfl
  have hfault : Blind (weldOutFault out) := by
    intro m s
    unfold weldOutFault
    split_ifs <;> rfl
  have hdone : Blind (weldOutDone bus out) := by
    intro m s
    unfold weldOutDone
    split_ifs <;> rfl
  exact hdone.comp (hfault.comp (hstop.comp (hamp.comp (hstart.comp
    (blind_weldSolEdge out.solDn)))))

theorem blind_weldTick (tick : WeldTickIn) : Blind (appWeldTick tick) := by
  have hscan : Blind (weldScan tick) := by
    intro m s
    have hallowed : appRegStartAllowed (withModbus m s) = appRegStartAllowed s := rfl
    simp only [weldScan, hallowed]
    split_ifs <;> first | rfl | contradiction
  have hbody : Blind (weldBody tick) := by
    intro m s
    have hstep : weldBodyStep tick (withModbus m s) = weldBodyStep tick s := by
      unfold weldBodyStep weldBodyIn
      rw [hscan m s]
      rfl
    unfold weldBody
    dsimp only
    rw [hscan m s, hstep]
    exact blind_weldOutputs _ _ _ m { weldScan tick s with weld := { (weldScan tick s).weld with
      startPending := false, fsm := (weldBodyStep tick s).1 } }
  intro m s
  have hdue : weldDue tick (withModbus m s) = weldDue tick s := rfl
  have hfrozen : weldFrozen (withModbus m s) = weldFrozen s := rfl
  unfold appWeldTick
  rw [hdue, hfrozen]
  split_ifs
  · rfl
  · rfl
  · exact hbody m (weldAdvance tick s)

theorem blind_releasePublished : Blind releasePublished := by
  intro m s
  have hpublished : publishedRun (withModbus m s) = publishedRun s := rfl
  unfold releasePublished
  rw [hpublished]
  split_ifs
  · exact blind_regCommand .runRelease _ 0 m s
  · rfl

theorem blind_overloadTick (tick : OverloadTickIn) : Blind (appOverloadTick tick) := by
  have hassert : Blind (overloadAssert tick.now) := fun _ _ ↦ rfl
  have hhold : Blind (overloadHold tick.now) := by
    intro m s
    unfold overloadHold
    dsimp only
    rw [blind_releasePublished m s]
    generalize releasePublished s = released
    split_ifs <;> first | rfl | contradiction
  have hdeassert : Blind overloadDeassert := by
    have hshow : Blind fun s ↦
        appLcdSetOverload false { s with pins := { s.pins with ovldRelay := false } } :=
      (blind_setOverload false).comp fun _ _ ↦ rfl
    have hrequest : Blind (appSeekResetRequest .reset) := fun _ _ ↦ rfl
    exact hrequest.comp (hshow.comp blind_releasePublished)
  intro m s
  have hdue : overloadDue tick (withModbus m s) = overloadDue tick s := rfl
  have hbody := ((hdeassert.ite ((overloadEvent tick s).deassert = true) blind_id).comp
    ((hhold.ite ((overloadEvent tick s).active = true) blind_id).comp
      (hassert.ite ((overloadEvent tick s).assert = true) blind_id))) m (overloadSample tick s).1
  unfold appOverloadTick
  rw [hdue]
  split_ifs
  · exact hbody
  · rfl

theorem blind_inputTick (tick : InputTickIn) : Blind (appInputTick tick) := by
  have habort : Blind appWeldAbortNow := by
    intro m s
    have hedge := blind_weldSolEdge (weldFsmStep weldAbortIn s.weld.fsm).2.solDn m
      { s with weld := { s.weld with fsm := (weldFsmStep weldAbortIn s.weld.fsm).1 } }
    unfold appWeldAbortNow
    dsimp only
    split_ifs <;> first | contradiction | skip
    · exact (congrArg (appRegCommand .runRelease .cycle 0) hedge).trans
        (blind_regCommand .runRelease .cycle 0 m _)
    · exact hedge
  have henter : Blind (estopEnter tick.now) := by
    have hdrop : Blind (ioSolDn false) := fun _ _ ↦ rfl
    have hblink : Blind fun s ↦
        appBuzzerBeepMs 250 { s with input := { s.input with blinkMs := tick.now } } :=
      fun _ _ ↦ rfl
    exact hblink.comp ((blind_setEstop true).comp (habort.comp hdrop))
  have hhold : Blind (estopHold tick.now) := by
    intro m s
    unfold estopHold
    dsimp only
    rw [blind_releasePublished m s]
    generalize releasePublished s = released
    split_ifs <;> first | rfl | contradiction
  have hbuttons (out : InputOut) : Blind (inputButtons out tick.tCmd) := by
    have hpress (press : Bool) (cmd : UsCmd) (now : ℕ) :
        Blind fun s ↦ if press then appRegCommand cmd .remote now s else s :=
      (blind_regCommand cmd .remote now).ite (press = true) blind_id
    exact (hpress _ .seek 0).comp ((hpress _ .reset 0).comp
      ((hpress _ .runRelease 0).comp (hpress _ .start tick.tCmd)))
  intro m s
  have hdue : inputDue tick (withModbus m s) = inputDue tick s := rfl
  have hbody := ((hhold.ite ((inputEvent tick s).estopActive = true)
      (hbuttons (inputEvent tick s))).comp
    (((blind_setEstop false).ite (s.input.estopActive = true ∧
      (inputEvent tick s).estopActive = false) blind_id).comp
        (henter.ite ((inputEvent tick s).estopEnter = true) blind_id))) m (inputSample tick s).1
  unfold appInputTick
  rw [hdue]
  split_ifs
  · exact hbody
  · rfl

theorem blind_hornTick (tick : HornTickIn) : Blind (appHornTick tick) := by
  have hbody : Blind (hornBody tick) := by
    intro m s
    have hsolenoid : hornSolenoid tick (withModbus m s) = withModbus m (hornSolenoid tick s) := by
      rw [hornSolenoid_eq, hornSolenoid_eq]
      rfl
    unfold hornBody
    dsimp only
    rw [hsolenoid]
    generalize hornSolenoid tick s = driven
    have hmode : (withModbus m driven).horn = driven.horn := rfl
    have hrun : appRegRunSrc (withModbus m driven) = appRegRunSrc driven := rfl
    rw [hmode, hrun]
    split_ifs
    · exact blind_regCommand .runRelease _ 0 m driven
    · rfl
    · rfl
  intro m s
  unfold appHornTick
  split_ifs <;> first | contradiction | skip
  · exact hbody m s
  · rfl

theorem blind_seekResetTick (now : ℕ) : Blind (appSeekResetTick now) := by
  intro m s
  have hdue : seekResetDue now (withModbus m s) = seekResetDue now s := rfl
  unfold appSeekResetTick
  rw [hdue]
  split_ifs <;> rfl

/-! ### The other ticks -/

theorem blind_regStopRun : Blind regStopRun := by
  intro m s
  simp only [regStopRun]
  split_ifs <;> first | rfl | contradiction

theorem blind_regTick (lim : RegRunLimits) (tick : RegTickIn) : Blind (appRegTick lim tick) := by
  have hwarmUp : Blind (regWarmUp tick.now) := by
    intro m s
    simp only [regWarmUp]
    split_ifs <;> first | rfl | contradiction
  have hceiling : Blind (regCheckSafetyCeiling tick.now) := by
    intro m s
    simp only [regCheckSafetyCeiling]
    split_ifs <;> first | contradiction | exact blind_regStopRun m s | rfl
  have hterminate : Blind (regCheckAutoTerminate tick.now lim) := by
    intro m s
    have houtcome : (withModbus m s).measure = s.measure := rfl
    have hreg : (withModbus m s).reg = s.reg := rfl
    simp only [regCheckAutoTerminate, houtcome, hreg]
    split_ifs
    · split
      · rfl
      · exact blind_regStopRun m s
      · exact congrArg appRegRaiseOvtime (blind_regStopRun m s)
    · exact blind_regStopRun m s
    · rfl
    · rfl
  have hacquire : Blind (regAcquire tick) := by
    intro m s
    simp only [regAcquire]
    split_ifs <;> first | rfl | contradiction
  have hhead : Blind (regTickHead lim tick) := by
    have hcalVal : Blind fun s ↦ { s with reg := { s.reg with calVal := lim.calVal } } :=
      fun _ _ ↦ rfl
    exact hacquire.comp (hterminate.comp (hceiling.comp (hwarmUp.comp hcalVal)))
  have hpublish : Blind (regPublishMeasure tick lim.freqCalVal) := by
    intro m s
    have hedge (sr : Bool) : regSrDisplayEdge sr (withModbus m s) =
        withModbus m (regSrDisplayEdge sr s) := by
      simp only [regSrDisplayEdge]
      split_ifs <;> first | rfl | contradiction
    have hlive : appSeekResetActive (withModbus m s) = appSeekResetActive s := rfl
    have hreg : (withModbus m s).reg = s.reg := rfl
    simp only [regPublishMeasure, hlive, hreg, hedge]
    rfl
  have hset : Blind (regSetpoint tick.now) := fun _ _ ↦ rfl
  intro m s
  have hpublishes : regPublishes tick (withModbus m s) = regPublishes tick s := rfl
  unfold appRegTick
  rw [hpublishes]
  split_ifs
  · exact (hpublish.comp (hset.comp hhead)) m s
  · exact hhead m s

theorem blind_ethTick (tick : EthTickIn) : Blind (appEthTick tick) := by
  have happly : Blind ethApplyOnLink := by
    intro m s
    simp only [ethApplyOnLink]
    split_ifs <;> first | rfl | contradiction
  have hreset : Blind appModbusTcpReset := fun _ _ ↦ rfl
  have hreapply : Blind ethReapply := by
    intro m s
    have hphase : (withModbus m s).eth = s.eth := rfl
    have hcfg : (withModbus m s).cfg = s.cfg := rfl
    unfold ethReapply
    rw [hphase, hcfg]
    split
    · exact (happly.comp hreset) m s
    · split_ifs
      · rfl
      · exact (happly.comp hreset) m s
    · rfl
    · rfl
  have hdirty : Blind ethTakeDirty := by
    intro m s
    unfold ethTakeDirty
    split_ifs <;> first | contradiction | skip
    · exact hreapply m { s with lcd := { s.lcd with etherDirty := false } }
    · rfl
  have hpoll : Blind (ethLinkPoll tick) := by
    intro m s
    unfold ethLinkPoll
    split_ifs <;> first | contradiction | skip
    · exact happly m { s with eth := { s.eth with linkMs := tick.now } }
    · rfl
    · rfl
  have hevents (events : List DhcpEvent) :
      Blind fun s ↦ events.foldl (fun s event ↦ dhcpEvent event s) s := by
    induction events with
    | nil => exact blind_id
    | cons event events ih =>
      have hevent : Blind (dhcpEvent event) := by
        intro m s
        cases event <;> rfl
      exact ih.comp hevent
  have hticked : Blind fun s ↦ if elapsedMs tick.now s.eth.dhcpMs ≥ 1000
      then { s with eth := { s.eth with dhcpMs := tick.now } } else s := by
    intro m s
    dsimp only
    split_ifs <;> first | rfl | contradiction
  have hfailed : Blind fun s ↦
      { s with eth := { s.eth with available := false, dhcpMs := tick.now } } := fun _ _ ↦ rfl
  have hrun : Blind (ethDhcpRun tick) :=
    (hfailed.ite (tick.dhcpFailed = true) blind_id).comp ((hevents tick.dhcpEvents).comp hticked)
  intro m s
  unfold appEthTick
  dsimp only
  rw [hdirty m s]
  generalize ethTakeDirty s = taken
  have hphase : (withModbus m taken).eth = taken.eth := rfl
  rw [hphase]
  split
  · exact hpoll m taken
  · exact hrun m taken
  · rfl
  · rfl

theorem blind_faultAlarmTick (now : ℕ) : Blind (appFaultAlarmTick now) := by
  intro m s
  simp only [appFaultAlarmTick, appBuzzerBeepMs]
  split_ifs <;> first | rfl | contradiction

theorem blind_buzzerTick (now : ℕ) : Blind (appBuzzerTick now) := by
  intro m s
  simp only [appBuzzerTick]
  split_ifs <;> first | rfl | contradiction

/-! ### All calls but the Modbus tick -/

theorem exec_withModbus (build : Build) {call : Call} (hkind : call.kind ≠ .modbus) :
    Blind (call.exec build) := by
  cases call with
  | frame f => exact blind_inputDispatch f
  | lcdTick => exact blind_lcdTick
  | weldTick tick => exact blind_weldTick tick
  | overloadTick tick => exact blind_overloadTick tick
  | inputTick tick => exact blind_inputTick tick
  | hornTick tick => exact blind_hornTick tick
  | seekResetTick now => exact blind_seekResetTick now
  | regTick tick => exact fun m s ↦ blind_regTick (regRunLimitsOf s.cfg) tick m s
  | ethTick tick => exact blind_ethTick tick
  | modbusTick tick => exact absurd rfl hkind
  | faultAlarmTick now => exact blind_faultAlarmTick now
  | buzzerTick now => exact blind_buzzerTick now

/-- Only the Modbus tick changes the Modbus glue. -/
theorem exec_modbus (build : Build) {call : Call} (hkind : call.kind ≠ .modbus) (s : Sys) :
    (call.exec build s).modbus = s.modbus :=
  (exec_withModbus build hkind).modbus s

end UsCtrl
