import UsCtrl.WriteEffect

/-!
# Who changes the communication settings

The communication settings are the fields the staging buffer covers: slave address, speed, parity
and the three Ethernet addresses (`AppConfig.comm`). Besides a staged commit they are only changed
by SAVE or CANCEL on the panel and by a DHCP lease (`exec_comm`). The commit reads whether the
machine is running from the flag that the regulation tick publishes, and no other call touches that
flag (`exec_live`).
-/

set_option autoImplicit false
set_option relaxedAutoImplicit false

namespace UsCtrl

open Foundation

/-! ### The settings -/

/-- The live value of a staged field, high and low byte. -/
def AppConfig.comm (cfg : AppConfig) : CfgStg → ℕ × ℕ
  | .addr => (0, cfg.commAddress)
  | .speed => (0, cfg.commSpeedIdx)
  | .parity => (0, cfg.commParityIdx)
  | .ipH => (cfg.etherIp.o0, cfg.etherIp.o1)
  | .ipL => (cfg.etherIp.o2, cfg.etherIp.o3)
  | .nmH => (cfg.etherNm.o0, cfg.etherNm.o1)
  | .nmL => (cfg.etherNm.o2, cfg.etherNm.o3)
  | .gwH => (cfg.etherGw.o0, cfg.etherGw.o1)
  | .gwL => (cfg.etherGw.o2, cfg.etherGw.o3)

/-! ### Handlers that keep configuration and live flag -/

/-- The second state has the configuration and the published live flag of the first. -/
def Steady (s s' : Sys) : Prop :=
  s'.cfg = s.cfg ∧ s'.measure.usOnStatus = s.measure.usOnStatus

theorem Steady.refl (s : Sys) : Steady s s := ⟨rfl, rfl⟩

theorem Steady.trans {s mid s' : Sys} (hfirst : Steady s mid) (hsecond : Steady mid s') :
    Steady s s' :=
  ⟨hsecond.1.trans hfirst.1, hsecond.2.trans hfirst.2⟩

theorem Steady.branch {s s' : Sys} (h : Steady s s') (cond : Prop) [Decidable cond] :
    Steady s (if cond then s' else s) := by
  split_ifs
  · exact h
  · exact Steady.refl s

theorem steady_regCommand (cmd : UsCmd) (src : UsRun) (now : ℕ) (s : Sys) :
    Steady s (appRegCommand cmd src now s) := by
  rw [appRegCommand_eq]
  exact ⟨rfl, rfl⟩

theorem steady_releasePublished (s : Sys) : Steady s (releasePublished s) := by
  unfold releasePublished
  split_ifs
  · exact steady_regCommand _ _ _ s
  · exact Steady.refl s

theorem steady_reanchor (s : Sys) : Steady s (appLcdInputRunKeyReanchor s) :=
  steady_regCommand .runRelease .touch 0 s

theorem steady_lcdTick (s : Sys) : Steady s (appLcdTick s) := by
  unfold appLcdTick appLcdShowError appLcdFaultCleared
  dsimp only
  split_ifs
  · exact steady_reanchor _
  · exact ⟨rfl, rfl⟩
  · exact ⟨rfl, rfl⟩
  · exact ⟨rfl, rfl⟩

theorem steady_setOverload (on : Bool) (s : Sys) : Steady s (appLcdSetOverload on s) := by
  unfold appLcdSetOverload
  dsimp only
  split_ifs <;> exact ⟨rfl, rfl⟩

theorem steady_setEstop (on : Bool) (s : Sys) : Steady s (appLcdSetEstop on s) := by
  unfold appLcdSetEstop
  split_ifs
  · exact steady_reanchor _
  · exact ⟨rfl, rfl⟩
  · exact ⟨rfl, rfl⟩

theorem steady_weldSolEdge (level : Bool) (s : Sys) : Steady s (weldSolEdge level s) := by
  unfold weldSolEdge
  split_ifs <;> exact ⟨rfl, rfl⟩

theorem steady_weldAbortNow (s : Sys) : Steady s (appWeldAbortNow s) := by
  unfold appWeldAbortNow
  dsimp only
  split_ifs
  · refine Steady.trans (Steady.trans ?_ (steady_weldSolEdge _ _)) (steady_regCommand _ _ _ _)
    exact ⟨rfl, rfl⟩
  · refine Steady.trans ?_ (steady_weldSolEdge _ _)
    exact ⟨rfl, rfl⟩

theorem steady_overloadTick (tick : OverloadTickIn) (s : Sys) :
    Steady s (appOverloadTick tick s) := by
  have hassert (t : Sys) : Steady t (overloadAssert tick.now t) :=
    Steady.trans ⟨rfl, rfl⟩ (steady_setOverload true _)
  have hhold (t : Sys) : Steady t (overloadHold tick.now t) := by
    unfold overloadHold
    dsimp only
    split_ifs <;> exact steady_releasePublished t
  have hdeassert (t : Sys) : Steady t (overloadDeassert t) :=
    (steady_releasePublished t).trans (steady_setOverload false _)
  have hsample : Steady s (overloadSample tick s).1 := ⟨rfl, rfl⟩
  have hbody : Steady s (overloadBody tick s) :=
    ((hsample.trans ((hassert _).branch _)).trans ((hhold _).branch _)).trans
      ((hdeassert _).branch _)
  exact hbody.branch _

theorem steady_inputTick (tick : InputTickIn) (s : Sys) : Steady s (appInputTick tick s) := by
  have henter (t : Sys) : Steady t (estopEnter tick.now t) := by
    have hshown := (steady_weldAbortNow (ioSolDn false t)).trans (steady_setEstop true _)
    exact ⟨hshown.1, hshown.2⟩
  have hhold (t : Sys) : Steady t (estopHold tick.now t) := by
    unfold estopHold
    dsimp only
    split_ifs <;> exact steady_releasePublished t
  have hbutton (cmd : UsCmd) (press : Bool) (now : ℕ) (t : Sys) :
      Steady t (if press then appRegCommand cmd .remote now t else t) := by
    split_ifs
    · exact steady_regCommand cmd .remote now t
    · exact Steady.refl t
  have hbuttons (out : InputOut) (t : Sys) : Steady t (inputButtons out tick.tCmd t) := by
    unfold inputButtons
    dsimp only
    exact (((hbutton _ _ _ _).trans (hbutton _ _ _ _)).trans (hbutton _ _ _ _)).trans
      (hbutton _ _ _ _)
  have hsample : Steady s (inputSample tick s).1 := ⟨rfl, rfl⟩
  have hlast (t : Sys) : Steady t (if (inputSample tick s).2.estopActive then
      estopHold tick.now t else inputButtons (inputSample tick s).2 tick.tCmd t) := by
    split_ifs
    · exact hhold t
    · exact hbuttons _ t
  have hbody : Steady s (inputBody tick s) :=
    ((hsample.trans ((henter _).branch _)).trans ((steady_setEstop false _).branch _)).trans
      (hlast _)
  unfold appInputTick
  exact hbody.branch _

theorem steady_hornTick (tick : HornTickIn) (s : Sys) : Steady s (appHornTick tick s) := by
  have hsolenoid : Steady s (hornSolenoid tick s) := by
    unfold hornSolenoid
    dsimp only
    split_ifs <;> exact ⟨rfl, rfl⟩
  unfold appHornTick hornBody
  dsimp only
  split_ifs
  · exact hsolenoid.trans (steady_regCommand _ _ _ _)
  · exact hsolenoid
  · exact hsolenoid
  · exact Steady.refl s

theorem regTick_cfg (lim : RegRunLimits) (tick : RegTickIn) (s : Sys) :
    (appRegTick lim tick s).cfg = s.cfg :=
  (congrArg Sys.cfg (appRegTick_spec lim tick s).rest).trans rfl

/-- A weld tick keeps the settings and the live flag; a finished cycle is counted. -/
theorem weldTick_comm (tick : WeldTickIn) (s : Sys) :
    (appWeldTick tick s).cfg.comm = s.cfg.comm ∧
      (appWeldTick tick s).measure.usOnStatus = s.measure.usOnStatus := by
  have hscan (t : Sys) : Steady t (weldScan tick t) := by
    unfold weldScan
    dsimp only
    split_ifs <;> exact ⟨rfl, rfl⟩
  have hstart (out : WeldOut) (t : Sys) : Steady t (weldOutStart out tick.tCmd t) := by
    have hpot : Steady t (i2cPotSetDac out.amplitude t) := ⟨rfl, rfl⟩
    exact (hpot.trans (steady_regCommand _ _ _ _)).branch _
  have hamp (out : WeldOut) (t : Sys) : Steady t (weldOutAmp out t) := by
    unfold weldOutAmp
    split_ifs <;> exact ⟨rfl, rfl⟩
  have hstop (out : WeldOut) (t : Sys) : Steady t (weldOutStop out t) :=
    (steady_regCommand _ _ _ t).branch _
  have hfault (out : WeldOut) (t : Sys) : Steady t (weldOutFault out t) := by
    unfold weldOutFault
    split_ifs <;> exact ⟨rfl, rfl⟩
  have hdone (out : WeldOut) (t : Sys) : (weldOutDone tick.bus out t).cfg.comm = t.cfg.comm ∧
      (weldOutDone tick.bus out t).measure.usOnStatus = t.measure.usOnStatus := by
    unfold weldOutDone
    split_ifs
    · refine ⟨?_, rfl⟩
      funext field
      cases field <;> rfl
    · exact ⟨rfl, rfl⟩
  have houtputs (out : WeldOut) (t : Sys) :
      (weldOutputs tick.bus out tick.tCmd t).cfg.comm = t.cfg.comm ∧
        (weldOutputs tick.bus out tick.tCmd t).measure.usOnStatus = t.measure.usOnStatus := by
    have hmoved := ((((steady_weldSolEdge out.solDn t).trans (hstart out _)).trans
      (hamp out _)).trans (hstop out _)).trans (hfault out _)
    exact ⟨(hdone out _).1.trans (congrArg AppConfig.comm hmoved.1), (hdone out _).2.trans hmoved.2⟩
  unfold appWeldTick weldBody
  dsimp only
  split_ifs
  · exact ⟨rfl, rfl⟩
  · exact ⟨rfl, rfl⟩
  · have hscanned := hscan (weldAdvance tick s)
    exact ⟨(houtputs _ _).1.trans (congrArg AppConfig.comm hscanned.1),
      (houtputs _ _).2.trans hscanned.2⟩

/-! ### The panel -/

theorem renderPage_cfg (page : LcdPage) (s : Sys) : (renderPage page s).cfg = s.cfg := by
  unfold renderPage renderCommPage
  split <;> first | rfl | (split_ifs <;> rfl)

theorem changePage_cfg (tPage : ℕ) (s : Sys) : (appLcdChangePage tPage s).cfg = s.cfg :=
  renderPage_cfg s.lcd.lcdStatus s

theorem gotoPage_cfg (page : LcdPage) (tPage : ℕ) (s : Sys) : (gotoPage page tPage s).cfg = s.cfg :=
  changePage_cfg tPage _

theorem keyMulti_cfg (data now : ℕ) (s : Sys) : (handleKeyMulti data now s).cfg = s.cfg := by
  unfold handleKeyMulti handleKeyReset handleRunToggle appLcdHookUsCommand
  dsimp only
  split_ifs <;> first | exact (steady_regCommand _ _ _ _).1 | rfl

theorem keyErrorReset_cfg (data now : ℕ) (s : Sys) :
    (handleKeyErrorReset data now s).cfg = s.cfg := by
  unfold handleKeyErrorReset appLcdHookUsCommand
  dsimp only
  split_ifs <;> first | exact (steady_regCommand _ _ _ _).1 | rfl

theorem longPressKey_cfg (vp data now : ℕ) {enter : Sys → Sys} (henter : ∀ t, (enter t).cfg = t.cfg)
    (s : Sys) : (longPressKey vp data now enter s).cfg = s.cfg := by
  unfold longPressKey
  dsimp only
  split_ifs
  · exact henter _
  · rfl

theorem stdSetupParam_cfg (data tPage : ℕ) (s : Sys) :
    (handleStdSetupParam data tPage s).cfg = s.cfg := by
  unfold handleStdSetupParam
  split_ifs <;> first | rfl | exact gotoPage_cfg _ _ _

theorem sysPicNow_cfg (data tKey tPage : ℕ) (s : Sys) :
    (handleSysPicNow data tKey tPage s).cfg = s.cfg := by
  unfold handleSysPicNow
  split_ifs
  · exact (changePage_cfg tPage _).trans (steady_reanchor s).1
  · rfl

theorem panelConfigEdit_comm (key : PanelKey) (data : ℕ) (cfg : AppConfig) :
    (panelConfigEdit key data cfg).comm = cfg.comm := by
  funext field
  cases key <;> cases field <;> first | rfl | (simp only [panelConfigEdit]; split_ifs <;> rfl)

/-- Every panel key but SAVE and CANCEL keeps the settings. -/
theorem panelKeyHandler_comm {key : PanelKey} (hkey : key ≠ .dataSave) (f : FrameIn) (s : Sys) :
    (panelKeyHandler key f.word f s).cfg.comm = s.cfg.comm := by
  have hsetup (t : Sys) : (handleSetupParamEnter f.tPage t).cfg = t.cfg := gotoPage_cfg _ f.tPage _
  have hmodel (t : Sys) : (enterModelSetup t).cfg = t.cfg := rfl
  have hkept {t : Sys} (hcfg : t.cfg = s.cfg) : t.cfg.comm = s.cfg.comm := by rw [hcfg]
  cases key with
  | dataSave => exact absurd rfl hkey
  | horndown => rfl
  | setupParam => exact hkept (hsetup s)
  | setupParamMoohan => exact hkept (longPressKey_cfg _ _ _ hsetup s)
  | setupModel => exact hkept (longPressKey_cfg _ _ _ hmodel s)
  | stdSetupParam => exact hkept (stdSetupParam_cfg _ _ s)
  | runMode =>
    dsimp only [panelKeyHandler, handleRunMode]
    split_ifs
    · rw [gotoPage_cfg]
      funext field
      cases field <;> rfl
    · rw [gotoPage_cfg]
      funext field
      cases field <;> rfl
    · rfl
  | keyMulti => exact hkept (keyMulti_cfg _ _ s)
  | keyErrorReset => exact hkept (keyErrorReset_cfg _ _ s)
  | commAddr => rfl
  | commSpeed =>
    dsimp only [panelKeyHandler, handleCommSpeed]
    split_ifs <;> rfl
  | commParity =>
    dsimp only [panelKeyHandler, handleCommParity]
    split_ifs <;> rfl
  | commMode =>
    dsimp only [panelKeyHandler, handleCommMode]
    split_ifs <;> exact hkept (gotoPage_cfg _ _ _)
  | etherKey => rfl
  | sysPicNow => exact hkept (sysPicNow_cfg _ _ _ s)
  | _ => exact panelConfigEdit_comm _ _ _

/-! ### Calls -/

/-- SAVE or CANCEL on the panel. -/
def Call.savesPanel : Call → Bool
  | .frame f => decide (f.key = some .dataSave)
  | _ => false

/-- A DHCP lease is assigned in the call. -/
def Call.leases : Call → Bool
  | .ethTick input => input.dhcpEvents.any fun
    | .assign .. => true
    | .conflict => false
  | _ => false

theorem ethApplyOnLink_cfg (s : Sys) : (ethApplyOnLink s).cfg = s.cfg := by
  unfold ethApplyOnLink
  split_ifs <;> rfl

theorem ethTakeDirty_cfg (s : Sys) : (ethTakeDirty s).cfg = s.cfg := by
  have hreapply (t : Sys) : (ethReapply t).cfg = t.cfg := by
    unfold ethReapply
    cases t.eth.phase with
    | staticUp => exact ethApplyOnLink_cfg _
    | dhcpRun =>
      dsimp only
      split_ifs
      · rfl
      · exact ethApplyOnLink_cfg _
    | down => rfl
    | linkwait => rfl
  unfold ethTakeDirty
  split_ifs
  · exact hreapply _
  · rfl

theorem ethLinkPoll_cfg (tick : EthTickIn) (s : Sys) : (ethLinkPoll tick s).cfg = s.cfg := by
  unfold ethLinkPoll
  dsimp only
  split_ifs
  · exact ethApplyOnLink_cfg _
  · rfl
  · rfl

/-- The DHCP client keeps the configuration but for the address of a lease. -/
theorem ethDhcpRun_cfg (tick : EthTickIn) (s : Sys) :
    (∃ ip nm gw, (ethDhcpRun tick s).cfg =
        { s.cfg with etherIp := ip, etherNm := nm, etherGw := gw }) ∧
      ((Call.ethTick tick).leases = false → (ethDhcpRun tick s).cfg = s.cfg) := by
  have haddress : ∀ (events : List DhcpEvent) (t : Sys), t.cfg = s.cfg ∨ (∃ ip nm gw, t.cfg =
      { s.cfg with etherIp := ip, etherNm := nm, etherGw := gw }) → ∃ ip nm gw,
        (events.foldl (fun s event ↦ dhcpEvent event s) t).cfg =
          { s.cfg with etherIp := ip, etherNm := nm, etherGw := gw } := by
    intro events
    induction events with
    | nil =>
      rintro t (hsame | haddr)
      · exact ⟨s.cfg.etherIp, s.cfg.etherNm, s.cfg.etherGw, hsame⟩
      · exact haddr
    | cons event events ih =>
      intro t hold
      refine ih _ ?_
      cases event with
      | assign ip nm gw =>
        refine Or.inr ⟨ip, nm, gw, ?_⟩
        show { t.cfg with etherIp := ip, etherNm := nm, etherGw := gw } = _
        rcases hold with hsame | ⟨_, _, _, hsame⟩ <;> rw [hsame]
      | conflict => exact hold
  have hquiet : ∀ events : List DhcpEvent, (events.any fun
      | .assign .. => true
      | .conflict => false) = false → ∀ t : Sys,
        (events.foldl (fun s event ↦ dhcpEvent event s) t).cfg = t.cfg := by
    intro events
    induction events with
    | nil => exact fun _ _ ↦ rfl
    | cons event events ih =>
      intro hnone t
      rw [List.any_cons, Bool.or_eq_false_iff] at hnone
      rw [List.foldl_cons, ih hnone.2]
      cases event with
      | assign ip nm gw => cases hnone.1
      | conflict => rfl
  unfold ethDhcpRun
  dsimp only
  constructor
  · split_ifs <;> exact haddress tick.dhcpEvents _ (Or.inl rfl)
  · intro hlease
    split_ifs <;> exact (hquiet tick.dhcpEvents hlease _).trans rfl

/-- The Ethernet tick keeps the configuration but for the address of a lease. -/
theorem ethTick_cfg (tick : EthTickIn) (s : Sys) :
    (∃ ip nm gw, (appEthTick tick s).cfg =
        { s.cfg with etherIp := ip, etherNm := nm, etherGw := gw }) ∧
      ((Call.ethTick tick).leases = false → (appEthTick tick s).cfg = s.cfg) := by
  have hsame {t : Sys} (hcfg : t.cfg = s.cfg) :
      (∃ ip nm gw, t.cfg = { s.cfg with etherIp := ip, etherNm := nm, etherGw := gw }) ∧
        ((Call.ethTick tick).leases = false → t.cfg = s.cfg) :=
    ⟨⟨s.cfg.etherIp, s.cfg.etherNm, s.cfg.etherGw, hcfg⟩, fun _ ↦ hcfg⟩
  have htaken := ethTakeDirty_cfg s
  unfold appEthTick
  dsimp only
  split
  · exact hsame ((ethLinkPoll_cfg tick _).trans htaken)
  · rw [← htaken]
    exact ethDhcpRun_cfg tick (ethTakeDirty s)
  · exact hsame htaken
  · exact hsame htaken

theorem ethTick_comm {tick : EthTickIn} (hlease : (Call.ethTick tick).leases = false) (s : Sys) :
    (appEthTick tick s).cfg.comm = s.cfg.comm := by
  rw [(ethTick_cfg tick s).2 hlease]

/-- The calls that reach neither configuration nor FRAM. -/
def Call.offDesk : Call → Bool
  | .frame _ | .weldTick _ | .ethTick _ | .modbusTick _ => false
  | _ => true

theorem exec_cfg (build : Build) {call : Call} (hoff : call.offDesk = true) (s : Sys) :
    (call.exec build s).cfg = s.cfg := by
  cases call with
  | lcdTick => exact (steady_lcdTick s).1
  | overloadTick tick => exact (steady_overloadTick tick s).1
  | inputTick tick => exact (steady_inputTick tick s).1
  | hornTick tick => exact (steady_hornTick tick s).1
  | seekResetTick now =>
    show (appSeekResetTick now s).cfg = s.cfg
    unfold appSeekResetTick
    split_ifs <;> rfl
  | regTick tick => exact regTick_cfg _ tick s
  | faultAlarmTick now =>
    show (appFaultAlarmTick now s).cfg = s.cfg
    unfold appFaultAlarmTick
    dsimp only
    split_ifs <;> rfl
  | buzzerTick now =>
    show (appBuzzerTick now s).cfg = s.cfg
    unfold appBuzzerTick
    split_ifs <;> rfl
  | _ => cases hoff

/-- Of the calls other than the Modbus tick, only SAVE, CANCEL and a DHCP lease change the
settings. -/
theorem exec_comm (build : Build) {call : Call} (hkind : call.kind ≠ .modbus)
    (hsave : call.savesPanel = false) (hlease : call.leases = false) (s : Sys) :
    (call.exec build s).cfg.comm = s.cfg.comm := by
  by_cases hoff : call.offDesk = true
  · rw [exec_cfg build hoff s]
  · cases call with
    | frame f =>
      show (appLcdInputDispatch f s).cfg.comm = _
      unfold appLcdInputDispatch
      cases hkey : f.key with
      | none => rfl
      | some key =>
        refine panelKeyHandler_comm (fun hdata ↦ ?_) f s
        rw [hdata] at hkey
        exact absurd hkey (of_decide_eq_false hsave)
    | weldTick tick => exact (weldTick_comm tick s).1
    | ethTick tick => exact ethTick_comm hlease s
    | modbusTick tick => exact absurd rfl hkind
    | _ => exact absurd rfl hoff

/-! ### The published live flag -/

/-- Quiet changes, commands and horn switches keep the live flag. -/
theorem GateActs.live {allowed : UsCmd → Prop} {src : UsRun} {s s' : Sys}
    (h : GateActs allowed src s s') : s'.measure.usOnStatus = s.measure.usOnStatus := by
  induction h with
  | refl => rfl
  | tail _ hact ih =>
    refine Eq.trans ?_ ih
    cases hact with
    | quiet hquiet => exact congrArg LcdMeasure.usOnStatus hquiet.measure
    | command cmd now _ => exact (steady_regCommand cmd src now _).2
    | horn on =>
      unfold appHornSetMode
      split_ifs <;> rfl

/-- Only the regulation tick publishes the live flag. -/
theorem exec_live (build : Build) {call : Call} (hkind : call.kind ≠ .reg) (s : Sys) :
    (call.exec build s).measure.usOnStatus = s.measure.usOnStatus := by
  have hquiet {t : Sys} (h : Quiet s t) : t.measure.usOnStatus = s.measure.usOnStatus :=
    congrArg LcdMeasure.usOnStatus h.measure
  cases call with
  | frame f => exact (appLcdInputDispatch_acts f s).live
  | lcdTick => exact (steady_lcdTick s).2
  | weldTick tick => exact (weldTick_comm tick s).2
  | overloadTick tick => exact (steady_overloadTick tick s).2
  | inputTick tick => exact (steady_inputTick tick s).2
  | hornTick tick => exact (steady_hornTick tick s).2
  | seekResetTick now =>
    change (appSeekResetTick now s).measure.usOnStatus = s.measure.usOnStatus
    unfold appSeekResetTick
    split_ifs <;> rfl
  | regTick tick => exact absurd rfl hkind
  | ethTick tick => exact hquiet (quiet_ethTick tick s)
  | modbusTick tick =>
    change (appModbusTick build tick s).measure.usOnStatus = _
    rw [appModbusTick_eq_pass]
    unfold finishPass
    cases (modbusPass build tick s).2 with
    | none => exact (modbusPass_acts build tick s).live
    | some link =>
      exact ((appModbusApplyWrites_acts build link tick.apply _).live).trans
        (modbusPass_acts build tick s).live
  | faultAlarmTick now => exact hquiet (quiet_faultAlarmTick now s)
  | buzzerTick now => exact hquiet (quiet_buzzerTick now s)

end UsCtrl
