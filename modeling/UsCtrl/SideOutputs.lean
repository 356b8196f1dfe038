import UsCtrl.PanelShadows
import UsCtrl.SignalChain

/-!
# The lines beside the press

The buzzer with its alarms, the overload relay, the two oscillator lines and the Ethernet: the parts
of the controller that the ledgers of `UsCtrl.Owners`, `UsCtrl.Desk` and `UsCtrl.Screen` leave out.
Each has one owner among the ticks, and the panel, the press, the regulation and Modbus leave all of
them alone (`exec_side`). What the owners do is said once for each (`overloadTick_side`,
`inputTick_side`, `seekResetTick_side`, `ethTick_side`).
-/

set_option autoImplicit false
set_option relaxedAutoImplicit false

namespace UsCtrl

open Foundation

/-! ### Handlers that leave the side alone -/

/-- The second state has the alarm, the Ethernet and the side lines of the first. -/
structure SameSide (s s' : Sys) : Prop where
  alarm : s'.alarm = s.alarm
  eth : s'.eth = s.eth
  buzzer : s'.pins.buzzer = s.pins.buzzer
  ovldRelay : s'.pins.ovldRelay = s.pins.ovldRelay
  resetLine : s'.pins.resetLine = s.pins.resetLine
  seekLine : s'.pins.seekLine = s.pins.seekLine

theorem SameSide.refl (s : Sys) : SameSide s s := ⟨rfl, rfl, rfl, rfl, rfl, rfl⟩

theorem SameSide.trans {s mid s' : Sys} (hfirst : SameSide s mid) (hsecond : SameSide mid s') :
    SameSide s s' :=
  ⟨hsecond.alarm.trans hfirst.alarm, hsecond.eth.trans hfirst.eth,
    hsecond.buzzer.trans hfirst.buzzer, hsecond.ovldRelay.trans hfirst.ovldRelay,
    hsecond.resetLine.trans hfirst.resetLine, hsecond.seekLine.trans hfirst.seekLine⟩

theorem SameSide.branch {s s' : Sys} (h : SameSide s s') (cond : Prop) [Decidable cond] :
    SameSide s (if cond then s' else s) := by
  split_ifs
  · exact h
  · exact SameSide.refl s

/-- Changes of the panel state are beside the side. -/
theorem SameSide.lcd (s : Sys) (lcd : LcdState) : SameSide s { s with lcd := lcd } :=
  ⟨rfl, rfl, rfl, rfl, rfl, rfl⟩

theorem sameSide_regCommand (cmd : UsCmd) (src : UsRun) (now : ℕ) (s : Sys) :
    SameSide s (appRegCommand cmd src now s) := by
  rw [appRegCommand_eq]
  exact ⟨rfl, rfl, rfl, rfl, rfl, rfl⟩

theorem sameSide_releasePublished (s : Sys) : SameSide s (releasePublished s) :=
  (sameSide_regCommand _ _ _ s).branch _

theorem sameSide_reanchor (s : Sys) : SameSide s (appLcdInputRunKeyReanchor s) :=
  (sameSide_regCommand .runRelease .touch 0 s).trans (.lcd _ _)

theorem sameSide_lcdTick (s : Sys) : SameSide s (appLcdTick s) := by
  have hshown (t : Sys) : SameSide t (appLcdShowError t) :=
    (SameSide.lcd t _).trans (sameSide_reanchor _)
  have hcleared (t : Sys) : SameSide t (appLcdFaultCleared t) := (SameSide.lcd t _).branch _
  unfold appLcdTick
  dsimp only
  split_ifs
  · exact ((SameSide.lcd s _).trans (hshown _)).trans (.lcd _ _)
  · exact ((SameSide.lcd s _).trans (hcleared _)).trans (.lcd _ _)
  · exact (SameSide.lcd s _).trans (.lcd _ _)

theorem sameSide_setOverload (on : Bool) (s : Sys) : SameSide s (appLcdSetOverload on s) := by
  unfold appLcdSetOverload
  dsimp only
  split_ifs <;> exact ⟨rfl, rfl, rfl, rfl, rfl, rfl⟩

theorem sameSide_setEstop (on : Bool) (s : Sys) : SameSide s (appLcdSetEstop on s) := by
  unfold appLcdSetEstop
  split_ifs
  · exact (SameSide.lcd s _).trans (sameSide_reanchor _)
  · exact .lcd s _
  · exact SameSide.refl s

theorem sameSide_weldSolEdge (level : Bool) (s : Sys) : SameSide s (weldSolEdge level s) := by
  unfold weldSolEdge
  split_ifs <;> exact ⟨rfl, rfl, rfl, rfl, rfl, rfl⟩

theorem sameSide_weldAbortNow (s : Sys) : SameSide s (appWeldAbortNow s) := by
  unfold appWeldAbortNow
  dsimp only
  split_ifs
  · refine (SameSide.trans ?_ (sameSide_weldSolEdge _ _)).trans (sameSide_regCommand _ _ _ _)
    exact ⟨rfl, rfl, rfl, rfl, rfl, rfl⟩
  · refine SameSide.trans ?_ (sameSide_weldSolEdge _ _)
    exact ⟨rfl, rfl, rfl, rfl, rfl, rfl⟩

/-! ### The press and the regulation -/

theorem sameSide_weldOutputs (bus : I2cBus) (out : WeldOut) (tCmd : ℕ) (s : Sys) :
    SameSide s (weldOutputs bus out tCmd s) := by
  have hpot (t : Sys) : SameSide t (i2cPotSetDac out.amplitude t) := ⟨rfl, rfl, rfl, rfl, rfl, rfl⟩
  have hstart (t : Sys) : SameSide t (weldOutStart out tCmd t) :=
    ((hpot t).trans (sameSide_regCommand .start .cycle tCmd _)).branch _
  have hamp (t : Sys) : SameSide t (weldOutAmp out t) := (hpot t).branch _
  have hstop (t : Sys) : SameSide t (weldOutStop out t) :=
    (sameSide_regCommand .runRelease .cycle 0 t).branch _
  have hfault (t : Sys) : SameSide t (weldOutFault out t) :=
    (show SameSide t (appRegRaiseOvtime t) from ⟨rfl, rfl, rfl, rfl, rfl, rfl⟩).branch _
  have hdone (t : Sys) : SameSide t (weldOutDone bus out t) := by
    unfold weldOutDone
    split_ifs <;> exact ⟨rfl, rfl, rfl, rfl, rfl, rfl⟩
  unfold weldOutputs
  exact (((((sameSide_weldSolEdge out.solDn s).trans (hstart _)).trans (hamp _)).trans
    (hstop _)).trans (hfault _)).trans (hdone _)

theorem sameSide_weldTick (tick : WeldTickIn) (s : Sys) : SameSide s (appWeldTick tick s) := by
  have hadvance : SameSide s (weldAdvance tick s) := ⟨rfl, rfl, rfl, rfl, rfl, rfl⟩
  have hscan (t : Sys) : SameSide t (weldScan tick t) := by
    rw [weldScan_eq]
    exact ⟨rfl, rfl, rfl, rfl, rfl, rfl⟩
  have hstepped (t : Sys) : SameSide (weldScan tick t) { weldScan tick t with
      weld := { (weldScan tick t).weld with
        startPending := false, fsm := (weldBodyStep tick t).1 } } :=
    ⟨rfl, rfl, rfl, rfl, rfl, rfl⟩
  have hbody (t : Sys) : SameSide t (weldBody tick t) :=
    ((hscan t).trans (hstepped t)).trans (sameSide_weldOutputs _ _ _ _)
  unfold appWeldTick
  split_ifs
  · exact SameSide.refl s
  · exact hadvance
  · exact hadvance.trans (hbody _)

theorem sameSide_hornTick (tick : HornTickIn) (s : Sys) : SameSide s (appHornTick tick s) := by
  have hsolenoid : SameSide s (hornSolenoid tick s) := by
    unfold hornSolenoid
    dsimp only
    split_ifs <;> exact ⟨rfl, rfl, rfl, rfl, rfl, rfl⟩
  unfold appHornTick hornBody
  dsimp only
  split_ifs
  · exact hsolenoid.trans (sameSide_regCommand _ _ _ _)
  · exact hsolenoid
  · exact hsolenoid
  · exact SameSide.refl s

theorem sameSide_regTick (lim : RegRunLimits) (tick : RegTickIn) (s : Sys) :
    SameSide s (appRegTick lim tick s) := by
  have hrest := (appRegTick_spec lim tick s).rest
  rw [hrest]
  exact ⟨rfl, rfl, rfl, rfl, rfl, rfl⟩

/-! ### Panel frames -/

theorem sameSide_changePage (tPage : ℕ) (s : Sys) : SameSide s (appLcdChangePage tPage s) := by
  have hcomm : SameSide s (renderCommPage s) := by
    unfold renderCommPage
    dsimp only
    split_ifs <;> exact .lcd s _
  have hrendered : SameSide s (renderPage s.lcd.lcdStatus s) := by
    cases s.lcd.lcdStatus <;>
      first | exact hcomm | exact SameSide.refl s | exact ⟨rfl, rfl, rfl, rfl, rfl, rfl⟩
  exact hrendered.trans (.lcd _ _)

theorem sameSide_gotoPage (page : LcdPage) (tPage : ℕ) (s : Sys) :
    SameSide s (gotoPage page tPage s) :=
  (SameSide.lcd s _).trans (sameSide_changePage tPage _)

theorem sameSide_keyMulti (data now : ℕ) (s : Sys) : SameSide s (handleKeyMulti data now s) := by
  have hcommand (cmd : UsCmd) (t : Sys) : SameSide t (appLcdHookUsCommand cmd now t) :=
    sameSide_regCommand cmd .touch now t
  have hpot (t : Sys) : SameSide t (appLcdHookSetPot s.cfg.outputPower t) :=
    ⟨rfl, rfl, rfl, rfl, rfl, rfl⟩
  have hreset : SameSide s (handleKeyReset now s) := by
    unfold handleKeyReset
    dsimp only
    split_ifs
    · exact (hcommand .reset s).trans ⟨rfl, rfl, rfl, rfl, rfl, rfl⟩
    · exact (hcommand .reset s).trans ⟨rfl, rfl, rfl, rfl, rfl, rfl⟩
    · exact hcommand .reset s
  have htoggle : SameSide s (handleRunToggle now s) := by
    unfold handleRunToggle
    dsimp only
    split_ifs
    · exact ((SameSide.lcd s _).trans (hcommand .start _)).trans (hpot _)
    · exact (SameSide.lcd s _).trans (hcommand .runRelease _)
  unfold handleKeyMulti
  split_ifs
  · exact hreset
  · exact hcommand .seek s
  · exact (hcommand .start s).trans (hpot _)
  · exact hcommand .runRelease s
  · exact htoggle
  · exact SameSide.refl s

theorem sameSide_keyErrorReset (data now : ℕ) (s : Sys) :
    SameSide s (handleKeyErrorReset data now s) := by
  have hcommand : SameSide s (appLcdHookUsCommand .reset now s) :=
    sameSide_regCommand .reset .touch now s
  unfold handleKeyErrorReset
  dsimp only
  split_ifs
  · exact SameSide.refl s
  · exact hcommand.trans ⟨rfl, rfl, rfl, rfl, rfl, rfl⟩
  · exact hcommand.trans ⟨rfl, rfl, rfl, rfl, rfl, rfl⟩
  · exact hcommand

theorem sameSide_dataSaveGroup (s : Sys) : SameSide s (dataSaveGroup s) := by
  have hpot (t : Sys) : SameSide t (appLcdHookSetPot t.cfg.outputPower t) :=
    ⟨rfl, rfl, rfl, rfl, rfl, rfl⟩
  have hether (t : Sys) : SameSide t (commitCommModeAndEther t) := by
    rw [commitCommModeAndEther_eq]
    exact ⟨rfl, rfl, rfl, rfl, rfl, rfl⟩
  have hhorn (on : Bool) (t : Sys) : SameSide t (appHornSetMode on t) := by
    rw [appHornSetMode_eq]
    exact ⟨rfl, rfl, rfl, rfl, rfl, rfl⟩
  have hcount (t : Sys) : SameSide t (commitCntReset t) := by
    rw [commitCntReset_eq]
    exact ⟨rfl, rfl, rfl, rfl, rfl, rfl⟩
  have hserial (t : Sys) : SameSide t (commitCommSerialShadows t) :=
    ⟨rfl, rfl, rfl, rfl, rfl, rfl⟩
  unfold dataSaveGroup
  cases setupGroup s with
  | model => exact ⟨rfl, rfl, rfl, rfl, rfl, rfl⟩
  | multi => exact (((hpot s).trans (hether _)).trans (hserial _)).trans (.lcd _ _)
  | hand => exact ((hpot s).trans (hserial _)).trans (.lcd _ _)
  | std =>
    exact (((((hpot s).trans (hcount _)).trans (hhorn _ _)).trans (hether _)).trans
      (hserial _)).trans (.lcd _ _)
  | other => exact SameSide.refl s

/-- No panel frame reaches the side. -/
theorem sameSide_dispatch (f : FrameIn) (s : Sys) : SameSide s (appLcdInputDispatch f s) := by
  have henter (t : Sys) : SameSide t (handleSetupParamEnter f.tPage t) :=
    (sameSide_gotoPage _ f.tPage t).trans (.lcd _ _)
  have hlong (enter : Sys → Sys) (henter : ∀ t, SameSide t (enter t)) :
      SameSide s (longPressKey f.vpAddr f.word f.tKey enter s) := by
    obtain ⟨ms, mark, hmarked⟩ := longPressKey_marked f.vpAddr f.word f.tKey enter s
    rw [hmarked]
    split_ifs
    · exact (SameSide.lcd s _).trans (henter _)
    · exact .lcd s _
  have hedit (cfg : AppConfig) : SameSide s { s with cfg := cfg } := ⟨rfl, rfl, rfl, rfl, rfl, rfl⟩
  unfold appLcdInputDispatch
  cases f.key with
  | none => exact SameSide.refl s
  | some key =>
    show SameSide s (panelKeyHandler key f.word f s)
    cases key with
    | setupParam => exact henter s
    | setupParamMoohan => exact hlong _ henter
    | setupModel => exact hlong _ fun t ↦ .lcd t _
    | stdSetupParam =>
      dsimp only [panelKeyHandler]
      unfold handleStdSetupParam
      split_ifs <;>
        first | exact sameSide_gotoPage _ _ s | exact .lcd s _
    | runMode =>
      dsimp only [panelKeyHandler]
      unfold handleRunMode
      split_ifs
      · exact (hedit _).trans (sameSide_gotoPage _ _ _)
      · exact (hedit _).trans (sameSide_gotoPage _ _ _)
      · exact SameSide.refl s
    | keyMulti => exact sameSide_keyMulti f.word f.tCmd s
    | keyErrorReset => exact sameSide_keyErrorReset f.word f.tCmd s
    | dataSave =>
      dsimp only [panelKeyHandler]
      split_ifs
      · exact ((sameSide_dataSaveGroup s).trans
          (show SameSide _ (saveConfig f.bus (dataSaveGroup s)) from
            ⟨rfl, rfl, rfl, rfl, rfl, rfl⟩)).trans (sameSide_changePage f.tPage _)
      · have hchanged := sameSide_changePage f.tPage { s with
          cfg := (appConfigLoad f.bus s.fram).cfg
          fram := (appConfigLoad f.bus s.fram).fram
          lcd := cancelPage { s.lcd with
            tempCommMode := 0xFF
            sysMode := if s.lcd.lcdStatus = .modelSetup
              then (appConfigLoad f.bus s.fram).cfg.modelType else s.lcd.sysMode } }
        exact ⟨hchanged.alarm, hchanged.eth, hchanged.buzzer, hchanged.ovldRelay,
          hchanged.resetLine, hchanged.seekLine⟩
    | commSpeed =>
      dsimp only [panelKeyHandler, handleCommSpeed]
      split_ifs <;> exact .lcd s _
    | commParity =>
      dsimp only [panelKeyHandler, handleCommParity]
      split_ifs <;> exact .lcd s _
    | commMode =>
      dsimp only [panelKeyHandler]
      rw [handleCommMode_eq]
      exact (SameSide.lcd s _).trans (sameSide_gotoPage _ _ _)
    | etherKey => exact .lcd s _
    | sysPicNow =>
      dsimp only [panelKeyHandler]
      unfold handleSysPicNow
      split_ifs
      · exact ((sameSide_reanchor s).trans (.lcd _ _)).trans (sameSide_changePage f.tPage _)
      · exact SameSide.refl s
    | _ => first | exact .lcd s _ | exact hedit _

/-! ### The Modbus tick -/

theorem sameSide_readOnly {s s' : Sys} (h : ReadOnly s s') : SameSide s s' := by
  obtain ⟨_, _, _, _, rfl⟩ := h
  exact ⟨rfl, rfl, rfl, rfl, rfl, rfl⟩

theorem sameSide_applyConfig (build : Build) (sensDn : Bool) (s : Sys) :
    SameSide s (applyConfig build sensDn s) := by
  unfold applyConfig
  dsimp only
  split_ifs <;> exact ⟨rfl, rfl, rfl, rfl, rfl, rfl⟩

theorem sameSide_modbusHead (build : Build) (input : ModbusTickIn) (s : Sys) :
    SameSide s (modbusHead build input s) := by
  have hgate : SameSide s (remoteEnStep build input.tGate input.remoteEnPin s) := by
    unfold remoteEnStep
    cases build.model <;> exact ⟨rfl, rfl, rfl, rfl, rfl, rfl⟩
  have hhold (t : Sys) : SameSide t (holdWdtBlock input.tHold t) := by
    unfold holdWdtBlock
    dsimp only
    split_ifs
    · exact (show SameSide t (onModbus _ t) from ⟨rfl, rfl, rfl, rfl, rfl, rfl⟩).trans
        (sameSide_regCommand _ _ _ _)
    · exact ⟨rfl, rfl, rfl, rfl, rfl, rfl⟩
  have hstage (t : Sys) : SameSide t (stageTick input.tStage t) := ⟨rfl, rfl, rfl, rfl, rfl, rfl⟩
  unfold modbusHead
  exact ((hgate.trans (hhold _)).trans (hstage _)).trans (sameSide_applyConfig _ _ _)

theorem sameSide_tcpLeave (s : Sys) : SameSide s (tcpLeave s) := by
  unfold tcpLeave
  split_ifs <;> exact ⟨rfl, rfl, rfl, rfl, rfl, rfl⟩

theorem sameSide_tickMirror {build : Build} {input : ModbusTickIn} {s mirrored : Sys}
    (hmirrored : tickMirror build input s = some mirrored) : SameSide s mirrored := by
  have henter (t : Sys) : SameSide t (tcpEnter t) := by
    unfold tcpEnter
    split_ifs <;> exact ⟨rfl, rfl, rfl, rfl, rfl, rfl⟩
  have hmirror (t : Sys) : SameSide t (mirrorLive build input.sensDn t) :=
    ⟨rfl, rfl, rfl, rfl, rfl, rfl⟩
  unfold tickMirror at hmirrored
  dsimp only at hmirrored
  split_ifs at hmirrored
  · obtain rfl := Option.some.inj hmirrored
    exact (sameSide_modbusHead build input s).trans ((sameSide_tcpLeave _).trans (hmirror _))
  · obtain rfl := Option.some.inj hmirrored
    exact (sameSide_modbusHead build input s).trans ((henter _).trans (hmirror _))

theorem sameSide_modbusPass (build : Build) (input : ModbusTickIn) (s : Sys) :
    SameSide s (modbusPass build input s).1 := by
  cases hlink : (modbusPass build input s).2 with
  | none =>
    rcases modbusPass_readOnly hlink with ⟨mirrored, hmirrored, hread⟩ | ⟨-, hleave⟩
    · exact (sameSide_tickMirror hmirrored).trans (sameSide_readOnly hread)
    · rw [hleave]
      exact (sameSide_modbusHead build input s).trans (sameSide_tcpLeave _)
  | some link =>
    obtain ⟨mirrored, hmirrored, _, _, _, mid, hbefore, hafter⟩ := modbusPass_wrote hlink
    exact (sameSide_tickMirror hmirrored).trans ((sameSide_readOnly hbefore).trans
      ((show SameSide mid (onCore _ mid) from ⟨rfl, rfl, rfl, rfl, rfl, rfl⟩).trans
        (sameSide_readOnly hafter)))

/-- No branch of the apply chain reaches the side. -/
theorem sameSide_applyRules (link : MbLink) (input : ApplyIn) (s : Sys) :
    ∀ rule ∈ applyRules link input, SameSide s (rule.act s).1 := by
  have hset (reg : MbReg) (value : ℕ) (t : Sys) : SameSide t (setHolding reg value t) :=
    ⟨rfl, rfl, rfl, rfl, rfl, rfl⟩
  have hcommand (reg : MbReg) (cmd : UsCmd) :
      SameSide s (setHolding reg 0 (appRegCommand cmd .comm 0 s)) :=
    (sameSide_regCommand cmd .comm 0 s).trans (hset _ _ _)
  have hstart : SameSide s
      (startCmdBody (holding s .start) input (setHolding .start 0 s)) := by
    refine (hset .start 0 s).trans ?_
    generalize setHolding .start 0 s = t
    have hallowed : SameSide t (appLcdHookSetPot t.cfg.outputPower
        (appRegCommand .start .comm input.tCmd t)) :=
      (sameSide_regCommand .start .comm input.tCmd t).trans ⟨rfl, rfl, rfl, rfl, rfl, rfl⟩
    unfold startCmdBody
    split_ifs
    · exact hallowed
    · exact hallowed.trans ⟨rfl, rfl, rfl, rfl, rfl, rfl⟩
    all_goals exact ⟨rfl, rfl, rfl, rfl, rfl, rfl⟩
  have hctrl : SameSide s (cfgCtrlBody link (holding s .cfgCtrl) (setHolding .cfgCtrl 0 s)).1 := by
    unfold cfgCtrlBody
    dsimp only
    split_ifs <;> exact ⟨rfl, rfl, rfl, rfl, rfl, rfl⟩
  have hstore (cfg : AppConfig) : SameSide s { s with cfg := cfg } :=
    ⟨rfl, rfl, rfl, rfl, rfl, rfl⟩
  have hsafty : SameSide s (saftyRule.act s).1 := by
    simp only [saftyRule]
    split_ifs <;> exact ⟨rfl, rfl, rfl, rfl, rfl, rfl⟩
  have hhorn : SameSide s (hornRule.act s).1 := by
    simp only [hornRule, appHornSetMode]
    split_ifs <;> exact ⟨rfl, rfl, rfl, rfl, rfl, rfl⟩
  simp only [applyRules, commandRules, configRules, List.cons_append, List.nil_append,
    List.forall_mem_cons, List.not_mem_nil, false_implies, implies_true, and_true]
  exact ⟨hcommand _ _, hcommand _ _, hstart, hcommand _ _, hctrl, hstore _, hstore _, hstore _,
    hstore _, hstore _, hstore _, hstore _, hstore _, hstore _, hstore _, hstore _, hstore _,
    hstore _, hstore _, hstore _, hstore _, hsafty, hhorn, hstore _, hstore _, hstore _, hstore _,
    hstore _⟩

theorem sameSide_modbusTick (build : Build) (input : ModbusTickIn) (s : Sys) :
    SameSide s (appModbusTick build input s) := by
  have hpass := sameSide_modbusPass build input s
  rw [appModbusTick_eq_pass, finishPass]
  cases hlink : (modbusPass build input s).2 with
  | none => exact hpass
  | some link =>
    refine hpass.trans ?_
    dsimp only
    generalize (modbusPass build input s).1 = mid
    have hcount : SameSide mid (countApply mid) := ⟨rfl, rfl, rfl, rfl, rfl, rfl⟩
    have hset (reg : MbReg) (value : ℕ) (t : Sys) : SameSide t (setHolding reg value t) :=
      ⟨rfl, rfl, rfl, rfl, rfl, rfl⟩
    cases hgate : gateClosed build mid with
    | true =>
      rw [appModbusApplyWrites, hgate, if_pos rfl]
      have herased (t : Sys) := ((hset .reset 0 t).trans (hset .seek 0 _)).trans (hset .start 0 _)
      refine hcount.trans ?_
      unfold gateRejectBody
      dsimp only
      split_ifs
      · exact (((herased _).trans (sameSide_regCommand _ _ _ _)).trans (hset _ _ _)).trans
          (hset _ _ _)
      · exact ((herased _).trans (hset _ _ _)).trans (hset _ _ _)
    | false =>
      have hscan : SameSide (countApply mid) (stagedScan input.apply.tStage (countApply mid)) := by
        unfold stagedScan
        split <;> exact ⟨rfl, rfl, rfl, rfl, rfl, rfl⟩
      have hpicked : SameSide (countApply mid)
          (pickedBranch link input.apply (countApply mid)).1 :=
        firstMatch_induction (fun result : Sys × Bool ↦ SameSide (countApply mid) result.1) hscan
          fun rule hrule _ ↦ sameSide_applyRules link input.apply _ rule hrule
      have hsaved (t : Sys) : SameSide t (saveConfig input.apply.bus t) :=
        ⟨rfl, rfl, rfl, rfl, rfl, rfl⟩
      rw [appModbusApplyWrites_open hgate]
      exact (hcount.trans hpicked).trans ((hsaved _).branch _)

/-! ### The owners -/

/-- The beep of the three alarms, on a condition. -/
def alarmIf (beeps : Bool) (s : Sys) : Sys := if beeps then appBuzzerBeepMs 250 s else s

/-- An overload tick sounds the buzzer: the overload asserts, or stands for half a second since the
last sounding. -/
def overloadBeeps (tick : OverloadTickIn) (s : Sys) : Bool :=
  let event := (overloadSample tick s).2
  overloadDue tick s &&
    (event.assert || (event.active && decide (elapsedMs tick.now s.overload.blinkMs ≥ 500)))

/-- An input tick sounds the buzzer: the emergency stop is entered, or stands for half a second
since the last sounding. -/
def inputBeeps (tick : InputTickIn) (s : Sys) : Bool :=
  let out := (inputSample tick s).2
  inputDue tick s && (out.estopActive &&
    (out.estopEnter || decide (elapsedMs tick.now s.input.blinkMs ≥ 500)))

theorem sameSide_alarmIf {s s' : Sys} (h : SameSide s s') (beeps : Bool) :
    SameSide (alarmIf beeps s) (alarmIf beeps s') := by
  cases beeps with
  | false => exact h
  | true => exact ⟨by simp [alarmIf, appBuzzerBeepMs, h.alarm], h.eth, h.buzzer, h.ovldRelay,
      h.resetLine, h.seekLine⟩

theorem overloadAssert_side (now : ℕ) (s : Sys) :
    SameSide (alarmIf true { s with pins := { s.pins with ovldRelay := true } })
        (overloadAssert now s) ∧ (overloadAssert now s).overload.blinkMs = now := by
  have hshown := sameSide_alarmIf
    (sameSide_setOverload true { s with pins := { s.pins with ovldRelay := true } }) true
  exact ⟨⟨hshown.alarm, hshown.eth, hshown.buzzer, hshown.ovldRelay, hshown.resetLine,
    hshown.seekLine⟩, rfl⟩

theorem releasePublished_ticks (s : Sys) :
    (releasePublished s).overload = s.overload ∧ (releasePublished s).input = s.input := by
  unfold releasePublished
  split_ifs
  · rw [appRegCommand_eq]
    exact ⟨rfl, rfl⟩
  · exact ⟨rfl, rfl⟩

theorem overloadHold_side (now : ℕ) (s : Sys) :
    SameSide (alarmIf (decide (elapsedMs now s.overload.blinkMs ≥ 500)) s)
      (overloadHold now s) := by
  have hreleased := sameSide_releasePublished s
  have hbeeped := sameSide_alarmIf hreleased true
  have hblink := (releasePublished_ticks s).1
  unfold overloadHold
  dsimp only
  rw [hblink]
  split_ifs with hdue
  · rw [decide_eq_true hdue]
    exact ⟨hbeeped.alarm, hbeeped.eth, hbeeped.buzzer, hbeeped.ovldRelay, hbeeped.resetLine,
      hbeeped.seekLine⟩
  · rw [decide_eq_false hdue]
    exact hreleased

theorem overloadDeassert_side (s : Sys) :
    SameSide { s with pins := { s.pins with ovldRelay := false } } (overloadDeassert s) := by
  have hreleased := sameSide_releasePublished s
  have hshown := sameSide_setOverload false { releasePublished s with
    pins := { (releasePublished s).pins with ovldRelay := false } }
  exact ⟨hshown.alarm.trans hreleased.alarm, hshown.eth.trans hreleased.eth,
    hshown.buzzer.trans hreleased.buzzer, hshown.ovldRelay,
    hshown.resetLine.trans hreleased.resetLine, hshown.seekLine.trans hreleased.seekLine⟩

/-- The overload tick moves the relay with the debounced level and sounds the buzzer. -/
theorem overloadTick_side (tick : OverloadTickIn) (s : Sys) :
    SameSide (alarmIf (overloadBeeps tick s) { s with pins := { s.pins with
        ovldRelay :=
          if overloadDue tick s && (overloadSample tick s).2.deassert then false
          else if overloadDue tick s && (overloadSample tick s).2.assert then true
          else s.pins.ovldRelay } })
      (appOverloadTick tick s) := by
  unfold appOverloadTick overloadBeeps overloadBody
  cases hdue : overloadDue tick s with
  | false => exact SameSide.refl s
  | true =>
    have hsample : SameSide s (overloadSample tick s).1 := ⟨rfl, rfl, rfl, rfl, rfl, rfl⟩
    have hblink : (overloadSample tick s).1.overload.blinkMs = s.overload.blinkMs := rfl
    have hevent := overloadFsmStep_event tick.raw s.overload.fsm
    have hsampled : (overloadSample tick s).2 = (overloadFsmStep tick.raw s.overload.fsm).2 := rfl
    dsimp only
    rw [if_pos rfl, hsampled, hevent]
    generalize (overloadSample tick s).1 = t at hsample hblink
    cases (overloadFsmStep tick.raw s.overload.fsm).1.active <;> cases s.overload.fsm.active
    · exact ⟨hsample.alarm, hsample.eth, hsample.buzzer, hsample.ovldRelay, hsample.resetLine,
        hsample.seekLine⟩
    · have hdropped := overloadDeassert_side t
      exact ⟨hdropped.alarm.trans hsample.alarm, hdropped.eth.trans hsample.eth,
        hdropped.buzzer.trans hsample.buzzer, hdropped.ovldRelay,
        hdropped.resetLine.trans hsample.resetLine, hdropped.seekLine.trans hsample.seekLine⟩
    · obtain ⟨hasserted, hstamp⟩ := overloadAssert_side tick.now t
      have hheld := overloadHold_side tick.now (overloadAssert tick.now t)
      have hfresh : decide (elapsedMs tick.now tick.now ≥ 500) = false := by
        simp [elapsedMs]
      rw [hstamp, hfresh] at hheld
      refine SameSide.trans ?_ (hasserted.trans hheld)
      exact ⟨by simp [alarmIf, appBuzzerBeepMs, hsample.alarm], hsample.eth, hsample.buzzer, rfl,
        hsample.resetLine, hsample.seekLine⟩
    · have hheld := overloadHold_side tick.now t
      rw [hblink] at hheld
      exact (sameSide_alarmIf hsample _).trans hheld

theorem estopEnter_side (now : ℕ) (s : Sys) :
    SameSide (alarmIf true s) (estopEnter now s) ∧ (estopEnter now s).input.blinkMs = now := by
  have hdropped : SameSide s (ioSolDn false s) := ⟨rfl, rfl, rfl, rfl, rfl, rfl⟩
  have hbeeped := sameSide_alarmIf
    ((hdropped.trans (sameSide_weldAbortNow _)).trans (sameSide_setEstop true _)) true
  exact ⟨⟨hbeeped.alarm, hbeeped.eth, hbeeped.buzzer, hbeeped.ovldRelay, hbeeped.resetLine,
    hbeeped.seekLine⟩, rfl⟩

theorem estopHold_side (now : ℕ) (s : Sys) :
    SameSide (alarmIf (decide (elapsedMs now s.input.blinkMs ≥ 500)) s) (estopHold now s) := by
  have hreleased := sameSide_releasePublished s
  have hbeeped := sameSide_alarmIf hreleased true
  have hblink := (releasePublished_ticks s).2
  unfold estopHold
  dsimp only
  rw [hblink]
  split_ifs with hdue
  · rw [decide_eq_true hdue]
    exact ⟨hbeeped.alarm, hbeeped.eth, hbeeped.buzzer, hbeeped.ovldRelay, hbeeped.resetLine,
      hbeeped.seekLine⟩
  · rw [decide_eq_false hdue]
    exact hreleased

theorem sameSide_inputButtons (out : InputOut) (tCmd : ℕ) (s : Sys) :
    SameSide s (inputButtons out tCmd s) := by
  have hbutton (cmd : UsCmd) (press : Bool) (now : ℕ) (t : Sys) :
      SameSide t (if press then appRegCommand cmd .remote now t else t) :=
    (sameSide_regCommand cmd .remote now t).branch _
  unfold inputButtons
  dsimp only
  exact (((hbutton _ _ _ _).trans (hbutton _ _ _ _)).trans (hbutton _ _ _ _)).trans
    (hbutton _ _ _ _)

/-- The input tick sounds the buzzer and drives no line of the side. -/
theorem inputTick_side (tick : InputTickIn) (s : Sys) :
    SameSide (alarmIf (inputBeeps tick s) s) (appInputTick tick s) := by
  unfold appInputTick inputBeeps inputBody
  cases hdue : inputDue tick s with
  | false => exact SameSide.refl s
  | true =>
    have hsample : SameSide s (inputSample tick s).1 := ⟨rfl, rfl, rfl, rfl, rfl, rfl⟩
    have hblink : (inputSample tick s).1.input.blinkMs = s.input.blinkMs := rfl
    have hentry : (inputSample tick s).2.estopEnter = true →
        (inputSample tick s).2.estopActive = true := inputFsmStep_enter _ _
    dsimp only
    rw [if_pos rfl, Bool.true_and]
    generalize (inputSample tick s).1 = t at hsample hblink
    generalize (inputSample tick s).2 = out at hentry
    cases hactive : out.estopActive with
    | false =>
      have hcold : out.estopEnter = false := by
        cases henter : out.estopEnter with
        | false => rfl
        | true => exact absurd ((hentry henter).symm.trans hactive) (by decide)
      rw [hcold, if_neg Bool.false_ne_true, if_neg Bool.false_ne_true]
      exact (hsample.trans ((sameSide_setEstop false t).branch _)).trans
        (sameSide_inputButtons _ _ _)
    | true =>
      rw [if_pos rfl, if_neg (show ¬ (s.input.estopActive = true ∧ true = false) by simp),
        Bool.true_and]
      cases out.estopEnter with
      | false =>
        have hheld := estopHold_side tick.now t
        rw [hblink] at hheld
        exact (sameSide_alarmIf hsample _).trans hheld
      | true =>
        obtain ⟨hentered, hstamp⟩ := estopEnter_side tick.now t
        have hheld := estopHold_side tick.now (estopEnter tick.now t)
        have hfresh : decide (elapsedMs tick.now tick.now ≥ 500) = false := by
          simp [elapsedMs]
        rw [hstamp, hfresh] at hheld
        exact (sameSide_alarmIf hsample true).trans (hentered.trans hheld)

theorem seekResetTick_side (now : ℕ) (s : Sys) :
    SameSide { s with pins := (appSeekResetTick now s).pins } (appSeekResetTick now s) := by
  unfold appSeekResetTick
  split_ifs <;> exact ⟨rfl, rfl, rfl, rfl, rfl, rfl⟩

theorem ethTick_alarm (tick : EthTickIn) (s : Sys) : (appEthTick tick s).alarm = s.alarm := by
  have hlink (t : Sys) : (ethApplyOnLink t).alarm = t.alarm := by
    unfold ethApplyOnLink
    split_ifs <;> rfl
  have hreapply (t : Sys) : (ethReapply t).alarm = t.alarm := by
    unfold ethReapply
    cases t.eth.phase with
    | staticUp => exact hlink _
    | dhcpRun =>
      dsimp only
      split_ifs
      · rfl
      · exact hlink _
    | down => rfl
    | linkwait => rfl
  have htaken : (ethTakeDirty s).alarm = s.alarm := by
    unfold ethTakeDirty
    split_ifs
    · exact hreapply _
    · rfl
  have hevents (events : List DhcpEvent) (t : Sys) :
      (events.foldl (fun s event ↦ dhcpEvent event s) t).alarm = t.alarm := by
    induction events generalizing t with
    | nil => rfl
    | cons event events ih => exact (ih _).trans (by cases event <;> rfl)
  rw [← htaken]
  unfold appEthTick
  dsimp only
  split
  · unfold ethLinkPoll
    dsimp only
    split_ifs
    · exact hlink _
    · rfl
    · rfl
  · unfold ethDhcpRun
    dsimp only
    split_ifs <;> exact (hevents _ _).trans rfl
  · rfl
  · rfl

/-- The Ethernet tick reaches neither the alarms nor an output. -/
theorem ethTick_side (tick : EthTickIn) (s : Sys) :
    SameSide { s with eth := (appEthTick tick s).eth } (appEthTick tick s) := by
  have hpins := (ethTick_desk tick s).2.1
  exact ⟨ethTick_alarm tick s, rfl, congrArg Pins.buzzer hpins, congrArg Pins.ovldRelay hpins,
    congrArg Pins.resetLine hpins, congrArg Pins.seekLine hpins⟩

/-- The calls that own no part of the side. -/
def CallKind.offSide : CallKind → Bool
  | .overload | .input | .seekReset | .eth | .alarm | .buzzer => false
  | _ => true

/-- The calls without a part of the side leave all of it alone. -/
theorem exec_side (build : Build) {call : Call} (hoff : call.kind.offSide = true) (s : Sys) :
    SameSide s (call.exec build s) := by
  cases call with
  | frame f => exact sameSide_dispatch f s
  | lcdTick => exact sameSide_lcdTick s
  | weldTick tick => exact sameSide_weldTick tick s
  | hornTick tick => exact sameSide_hornTick tick s
  | regTick tick => exact sameSide_regTick _ tick s
  | modbusTick tick => exact sameSide_modbusTick build tick s
  | _ => cases hoff

/-- Booting leaves the side as the reset does. -/
theorem sameSide_boot (build : Build) (boot : BootIn) :
    SameSide (resetState build boot) (bootState build boot) := by
  have hinit (t : Sys) : SameSide t (appLcdInitMode boot.tPage t) :=
    (SameSide.lcd t _).trans (sameSide_changePage boot.tPage _)
  have hloaded (t : Sys) (load : AppConfig × Fram) : SameSide t
      (appLcdHookSetPot load.1.outputPower { t with cfg := load.1, fram := load.2 }) :=
    ⟨rfl, rfl, rfl, rfl, rfl, rfl⟩
  have hshown : SameSide (resetState build boot) (appInit boot (resetState build boot)) :=
    ((hloaded _ (_, _)).trans (hinit _)).trans (.lcd _ _)
  exact hshown.trans (sameSide_applyConfig build boot.sensDn _)

/-! ### The lines in every run -/

/-- The relay carries the overload, and the oscillator lines the legs of the resonance chain. -/
structure LinesFollow (s : Sys) : Prop where
  relay : s.pins.ovldRelay = appOverloadActive s
  reset : s.pins.resetLine = decide (s.seekReset.fsm.state = .reset)
  seek : s.pins.seekLine = decide (s.seekReset.fsm.state = .seek)

theorem overloadTick_relay (tick : OverloadTickIn) {s : Sys} (hs : Coherent s)
    (hrelay : s.pins.ovldRelay = appOverloadActive s) :
    (appOverloadTick tick s).pins.ovldRelay = appOverloadActive (appOverloadTick tick s) := by
  have hside := (overloadTick_side tick s).ovldRelay
  have hpins (beeps : Bool) (t : Sys) : (alarmIf beeps t).pins = t.pins := by
    cases beeps <;> rfl
  rw [hpins] at hside
  rcases appOverloadTick_cases tick s with ⟨hearly, heq⟩ | ⟨hdue, hbody⟩
  · rw [heq]
    exact hrelay
  · have hlevel : appOverloadActive (appOverloadTick tick s) =
        (overloadFsmStep tick.raw s.overload.fsm).1.active := (hbody.frame .cycle).overload
    have hfsm : appOverloadActive s = s.overload.fsm.active := hs.overload
    have hevent : (overloadSample tick s).2 = (overloadFsmStep tick.raw s.overload.fsm).2 := rfl
    rw [hlevel, hside]
    dsimp only
    rw [hrelay, hfsm, hdue, hevent, overloadFsmStep_event]
    dsimp only
    cases (overloadFsmStep tick.raw s.overload.fsm).1.active <;>
      cases s.overload.fsm.active <;> rfl

theorem seekResetTick_lines (now : ℕ) {s : Sys} (hs : LinesFollow s) :
    (appSeekResetTick now s).pins.resetLine =
        decide ((appSeekResetTick now s).seekReset.fsm.state = .reset) ∧
      (appSeekResetTick now s).pins.seekLine =
        decide ((appSeekResetTick now s).seekReset.fsm.state = .seek) := by
  unfold appSeekResetTick
  split_ifs
  · obtain ⟨hreset, hresetOff, hseek, hseekOff⟩ := seekResetFsmStep_icons
      ⟨s.seekReset.pendingCmd, decide (publishedRun s ≠ .idle)⟩ s.seekReset.fsm
    unfold seekResetBody srSignals
    dsimp only
    rw [hreset, hresetOff, hseek, hseekOff, hs.reset, hs.seek]
    generalize (seekResetFsmStep _ _).1.state = next
    constructor
    · cases s.seekReset.fsm.state <;> cases next <;> rfl
    · cases s.seekReset.fsm.state <;> cases next <;> rfl
  · exact ⟨hs.reset, hs.seek⟩

/-- The relay is moved by the overload tick alone, the lines by the tick of the chain alone. -/
theorem exec_linePins (build : Build) (call : Call) (s : Sys) :
    (call.kind ≠ .overload → (call.exec build s).pins.ovldRelay = s.pins.ovldRelay) ∧
      (call.kind ≠ .seekReset → (call.exec build s).pins.resetLine = s.pins.resetLine ∧
        (call.exec build s).pins.seekLine = s.pins.seekLine) := by
  have hbeep (beeps : Bool) (t : Sys) : (alarmIf beeps t).pins = t.pins := by
    cases beeps <;> rfl
  have hkept {t : Sys} (hside : SameSide s t) (overload chain : Prop) :
      (overload → t.pins.ovldRelay = s.pins.ovldRelay) ∧
        (chain → t.pins.resetLine = s.pins.resetLine ∧ t.pins.seekLine = s.pins.seekLine) :=
    ⟨fun _ ↦ hside.ovldRelay, fun _ ↦ ⟨hside.resetLine, hside.seekLine⟩⟩
  cases call with
  | frame f => exact hkept (sameSide_dispatch f s) _ _
  | overloadTick tick =>
    have hside := overloadTick_side tick s
    exact ⟨fun hkind ↦ absurd rfl hkind, fun _ ↦
      ⟨hside.resetLine.trans (by rw [hbeep]), hside.seekLine.trans (by rw [hbeep])⟩⟩
  | inputTick tick =>
    have hside := inputTick_side tick s
    exact ⟨fun _ ↦ hside.ovldRelay.trans (by rw [hbeep]), fun _ ↦
      ⟨hside.resetLine.trans (by rw [hbeep]), hside.seekLine.trans (by rw [hbeep])⟩⟩
  | seekResetTick now =>
    refine ⟨fun _ ↦ ?_, fun hkind ↦ absurd rfl hkind⟩
    simp only [Call.exec, appSeekResetTick]
    split_ifs <;> rfl
  | ethTick tick =>
    have hside := ethTick_side tick s
    exact ⟨fun _ ↦ hside.ovldRelay, fun _ ↦ ⟨hside.resetLine, hside.seekLine⟩⟩
  | faultAlarmTick now =>
    simp only [Call.exec, appFaultAlarmTick]
    split_ifs <;> exact ⟨fun _ ↦ rfl, fun _ ↦ ⟨rfl, rfl⟩⟩
  | buzzerTick now =>
    simp only [Call.exec, appBuzzerTick]
    split_ifs <;> exact ⟨fun _ ↦ rfl, fun _ ↦ ⟨rfl, rfl⟩⟩
  | lcdTick => exact hkept (sameSide_lcdTick s) _ _
  | weldTick tick => exact hkept (sameSide_weldTick tick s) _ _
  | hornTick tick => exact hkept (sameSide_hornTick tick s) _ _
  | regTick tick => exact hkept (sameSide_regTick _ tick s) _ _
  | modbusTick tick => exact hkept (sameSide_modbusTick build tick s) _ _

theorem exec_lines (build : Build) (call : Call) {s : Sys} (hcoherent : Coherent s)
    (hs : LinesFollow s) : LinesFollow (call.exec build s) := by
  have hframe := exec_frame build call s
  obtain ⟨hrelay, hlines⟩ := exec_linePins build call s
  have hmoved : (call.exec build s).pins.ovldRelay = appOverloadActive (call.exec build s) := by
    rcases call.overloadTick_or with ⟨tick, rfl⟩ | hkind
    · exact overloadTick_relay tick hcoherent hs.relay
    · exact ((hrelay hkind).trans hs.relay).trans (hframe.overload hkind).1.symm
  rcases call.seekResetTick_or with ⟨now, rfl⟩ | hkind
  · exact ⟨hmoved, (seekResetTick_lines now hs).1, (seekResetTick_lines now hs).2⟩
  · refine ⟨hmoved, (hlines hkind).1.trans ?_, (hlines hkind).2.trans ?_⟩
    · rw [hframe.chain hkind]
      exact hs.reset
    · rw [hframe.chain hkind]
      exact hs.seek

/-- In every run the relay carries the overload, and the oscillator lines the legs of the resonance
chain. -/
theorem lines_follow (build : Build) (boot : BootIn) (history : List Call) :
    LinesFollow ((controller build boot).after history) := by
  have hside := sameSide_boot build boot
  have hquiet := quiet_boot build boot
  have hboot : LinesFollow (bootState build boot) := by
    constructor
    · exact hside.ovldRelay.trans hquiet.overload.symm
    · rw [hside.resetLine, hquiet.seekReset]
      rfl
    · rw [hside.seekLine, hquiet.seekReset]
      rfl
  have hboth := (controller build boot).invariant (fun s ↦ Coherent s ∧ LinesFollow s)
    ⟨bootState_coherent build boot, hboot⟩
    (fun call s hs ↦ ⟨exec_coherent build call hs.1, exec_lines build call hs.1 hs.2⟩) history
  exact hboth.2

end UsCtrl
