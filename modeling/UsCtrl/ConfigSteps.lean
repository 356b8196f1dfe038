import UsCtrl.StoredFields
import UsCtrl.Staging

/-!
# What a call can do to the configuration

Five writers share the live configuration: the panel keys, SAVE with its shadows, the loads, the
masters, and the counters and leases. `ConfigStep` names every way in which one call can change it,
and `exec_config` says that along a run there is no other. Whatever is to hold of the configuration
in every run is proved by cases on it.
-/

set_option autoImplicit false
set_option relaxedAutoImplicit false

namespace UsCtrl

open Foundation

/-- The configurations that a call may leave. -/
inductive ConfigStep (build : Build) (s : Sys) : Call → AppConfig → Prop
  | kept (call : Call) : ConfigStep build s call s.cfg
  | edited {f : FrameIn} {key : PanelKey} (hkey : f.key = some key) :
    ConfigStep build s (.frame f) (panelConfigEdit key f.word s.cfg)
  | selected (f : FrameIn) (runMode : ℕ) :
    ConfigStep build s (.frame f) { s.cfg with runMode := runMode }
  | saved {f : FrameIn} (hsave : Saves build (.frame f) s = true) :
    ConfigStep build s (.frame f) (dataSaveGroup s).cfg
  | loaded {call : Call} (hloads : call.loads = true) :
    ConfigStep build s call (appConfigLoad call.bus s.fram).cfg
  | counted (tick : WeldTickIn) (workCnt : ℕ) :
    ConfigStep build s (.weldTick tick) { s.cfg with workCnt := workCnt }
  | leased (tick : EthTickIn) (ip nm gw : Octets) :
    ConfigStep build s (.ethTick tick)
      { s.cfg with etherIp := ip, etherNm := nm, etherGw := gw }
  | written {input : ModbusTickIn} {link : MbLink} {reg : MbReg} {word : ℕ} {cfg : AppConfig}
    (hrequest : appliedRequest build input s = some (link, reg, word)) (hword : word < 65536)
    (hreg : reg ∈ configRegs) (hcfg : cfg = s.cfg.withFieldsOf reg cfg)
    (hfield : cfg.field reg = normalized reg word (s.cfg.field reg)) :
    ConfigStep build s (.modbusTick input) cfg
  | cleared (input : ModbusTickIn) :
    ConfigStep build s (.modbusTick input) { s.cfg with workCnt := 0 }
  | committed {input : ModbusTickIn} {stage : CfgStage}
    (hrange : cfgStageOutOfRange stage = false) :
    ConfigStep build s (.modbusTick input) (stgApplyToCfg stage.val stage.dirty s.cfg)

/-- The panel keys other than SAVE and CANCEL. -/
theorem panelKey_config {key : PanelKey} (hkey : key ≠ .dataSave) (f : FrameIn) (s : Sys) :
    (panelKeyHandler key f.word f s).cfg = panelConfigEdit key f.word s.cfg ∨
      ∃ runMode, (panelKeyHandler key f.word f s).cfg = { s.cfg with runMode := runMode } := by
  have hsetup (t : Sys) : (handleSetupParamEnter f.tPage t).cfg = t.cfg := gotoPage_cfg _ f.tPage _
  have hmodel (t : Sys) : (enterModelSetup t).cfg = t.cfg := rfl
  cases key with
  | dataSave => exact absurd rfl hkey
  | horndown | commAddr | etherKey => exact Or.inl rfl
  | setupParam => exact Or.inl (hsetup s)
  | setupParamMoohan => exact Or.inl (longPressKey_cfg _ _ _ hsetup s)
  | setupModel => exact Or.inl (longPressKey_cfg _ _ _ hmodel s)
  | stdSetupParam => exact Or.inl (stdSetupParam_cfg _ _ s)
  | runMode =>
    dsimp only [panelKeyHandler, handleRunMode]
    split_ifs
    · exact Or.inr ⟨0, gotoPage_cfg _ f.tPage _⟩
    · exact Or.inr ⟨1, gotoPage_cfg _ f.tPage _⟩
    · exact Or.inl rfl
  | keyMulti => exact Or.inl (keyMulti_cfg _ _ s)
  | keyErrorReset => exact Or.inl (keyErrorReset_cfg _ _ s)
  | commSpeed =>
    dsimp only [panelKeyHandler, handleCommSpeed]
    split_ifs <;> exact Or.inl rfl
  | commParity =>
    dsimp only [panelKeyHandler, handleCommParity]
    split_ifs <;> exact Or.inl rfl
  | commMode =>
    dsimp only [panelKeyHandler, handleCommMode]
    split_ifs <;> exact Or.inl (gotoPage_cfg _ _ _)
  | sysPicNow => exact Or.inl (sysPicNow_cfg _ _ _ s)
  | _ => exact Or.inl rfl

theorem panelKey_workCnt {key : PanelKey} (hkey : key ≠ .dataSave) (f : FrameIn) (s : Sys) :
    (panelKeyHandler key f.word f s).cfg.workCnt = s.cfg.workCnt := by
  have hedit : (panelConfigEdit key f.word s.cfg).workCnt = s.cfg.workCnt := by
    unfold panelConfigEdit
    cases key <;> first | rfl | (dsimp only; split_ifs <;> rfl)
  rcases panelKey_config hkey f s with hcfg | ⟨runMode, hcfg⟩
  · rw [hcfg, hedit]
  · rw [hcfg]

theorem frame_config (build : Build) (f : FrameIn) (s : Sys) :
    ConfigStep build s (.frame f) (appLcdInputDispatch f s).cfg := by
  unfold appLcdInputDispatch
  cases hkey : f.key with
  | none => exact .kept _
  | some key =>
    by_cases hsave : key = .dataSave
    · subst hsave
      show ConfigStep build s (.frame f) (if f.word = 1 then dataSaveCommit f.bus f.tPage s
        else dataSaveCancel f.bus f.tPage s).cfg
      split_ifs with hword
      · rw [dataSaveCommit, changePage_cfg]
        exact .saved (Bool.and_eq_true_iff.mpr ⟨decide_eq_true hkey, decide_eq_true hword⟩)
      · rw [(dataSaveCancel_load f.bus f.tPage s).1]
        exact .loaded (Bool.and_eq_true_iff.mpr ⟨decide_eq_true hkey, decide_eq_true hword⟩)
    · rcases panelKey_config hsave f s with hcfg | ⟨runMode, hcfg⟩
      · show ConfigStep build s (.frame f) (panelKeyHandler key f.word f s).cfg
        rw [hcfg]
        exact .edited hkey
      · show ConfigStep build s (.frame f) (panelKeyHandler key f.word f s).cfg
        rw [hcfg]
        exact .selected f runMode

/-- The configuration a commit leaves is one the range check let through. -/
theorem cfgCtrlBody_config (link : MbLink) (ctrl : ℕ) (s : Sys) :
    (cfgCtrlBody link ctrl s).1.cfg = s.cfg ∨ ∃ stage : CfgStage, cfgStageOutOfRange stage = false ∧
      (cfgCtrlBody link ctrl s).1.cfg = stgApplyToCfg stage.val stage.dirty s.cfg := by
  unfold cfgCtrlBody
  dsimp only
  split_ifs with hctrl haccepted
  · have hrange := ((cfgStageCommit_accepts _ _ _).mp haccepted).2.1
    refine Or.inr ⟨s.modbus.stage, hrange, ?_⟩
    show stgApplyToCfg (cfgStageCommit _ _ s.modbus.stage).1.val _ s.cfg = _
    rw [(cfgStageCommit_kept _ _ _).1]
  · exact Or.inl rfl
  · exact Or.inl rfl
  · exact Or.inl rfl

/-- A request behind an open gate. -/
theorem applied_config {build : Build} {input : ModbusTickIn} {s : Sys} {link : MbLink}
    {reg : MbReg} {value : ℕ} (hlink : (modbusPass build input s).2 = some link)
    (hpoint : ApplyPoint build input.sensDn reg value (modbusPass build input s).1)
    (hgate : gateClosed build (modbusPass build input s).1 = false) :
    ConfigStep build s (.modbusTick input)
      (appModbusApplyWrites build link input.apply (modbusPass build input s).1).cfg := by
  have hstored : (modbusPass build input s).1.cfg = s.cfg := (stored_modbusPass build input s).1
  have hframe := pickedBranch_frame hpoint.counted link input.apply
  have hcfg := hframe.cfg
  have hentry : (countApply (modbusPass build input s).1).cfg = s.cfg := hstored
  rw [applied_cfg hgate]
  rw [hentry] at hcfg
  have hsame (hnone : ∀ donor : AppConfig, s.cfg.withFieldsOf reg donor = s.cfg) :
      ConfigStep build s (.modbusTick input)
        (pickedBranch link input.apply (countApply (modbusPass build input s).1)).1.cfg := by
    rw [hcfg, hnone]
    exact .kept _
  rcases pickedBranch_cases hpoint.counted link input.apply with ⟨rule, hrule, hguard, hpicked⟩ |
    ⟨-, hpicked⟩
  · by_cases hreg : reg ∈ configRegs
    · have heffect := (applyRules_effect link input.apply _ (reg, rule) (mem_of_ruleOf hrule)
        hreg).opened hguard
      refine @ConfigStep.written _ _ _ link reg value _ ?_ hpoint.bound hreg hcfg ?_
      · simp only [appliedRequest, hlink, hpoint.last, hgate]
        rw [show holding (modbusPass build input s).1 reg = value from hpoint.written]
        rfl
      · rw [hpicked, heffect.2, hpoint.counted.written, hentry]
    · cases reg with
      | cfgCtrl =>
        obtain rfl := Option.some.inj hrule
        rw [hpicked]
        rcases cfgCtrlBody_config link (holding (countApply (modbusPass build input s).1) .cfgCtrl)
            (setHolding .cfgCtrl 0 (countApply (modbusPass build input s).1)) with
          hkept | ⟨stage, hrange, hstage⟩
        · show ConfigStep build s (.modbusTick input) (cfgCtrlBody _ _ _).1.cfg
          rw [hkept]
          show ConfigStep build s (.modbusTick input) (modbusPass build input s).1.cfg
          rw [hstored]
          exact .kept _
        · show ConfigStep build s (.modbusTick input) (cfgCtrlBody _ _ _).1.cfg
          rw [hstage]
          show ConfigStep build s (.modbusTick input)
            (stgApplyToCfg stage.val stage.dirty (modbusPass build input s).1.cfg)
          rw [hstored]
          exact .committed hrange
      | workCntL =>
        obtain rfl := Option.some.inj hrule
        rw [hpicked]
        show ConfigStep build s (.modbusTick input)
          { (modbusPass build input s).1.cfg with workCnt := 0 }
        rw [hstored]
        exact .cleared input
      | _ => first | exact hsame fun _ ↦ rfl | exact absurd (by decide) hreg
  · rw [hpicked, (stagedScan_frame reg input.apply.tStage _).unsaved rfl, hentry]
    exact .kept _

theorem modbusTick_config (build : Build) (boot : BootIn) (history : List Call)
    (input : ModbusTickIn) : ConfigStep build (stateAfter build boot history) (.modbusTick input)
      (appModbusTick build input (stateAfter build boot history)).cfg := by
  have hstored := (stored_modbusPass build input (stateAfter build boot history)).1
  rw [appModbusTick_eq_pass, finishPass]
  cases hlink : (modbusPass build input (stateAfter build boot history)).2 with
  | none =>
    dsimp only
    rw [hstored]
    exact .kept _
  | some link =>
    obtain ⟨reg, value, hpoint⟩ := after_point hlink
    cases hgate : gateClosed build (modbusPass build input (stateAfter build boot history)).1 with
    | true =>
      dsimp only
      rw [appModbusApplyWrites, hgate, if_pos rfl, (stored_gateRejectBody _).1]
      show ConfigStep build _ _ (modbusPass build input (stateAfter build boot history)).1.cfg
      rw [hstored]
      exact .kept _
    | false => exact applied_config hlink hpoint hgate

/-- Along a run a call leaves the configuration by one of the steps. -/
theorem exec_config (build : Build) (boot : BootIn) (history : List Call) (call : Call) :
    ConfigStep build (stateAfter build boot history) call
      (stateAfter build boot (call :: history)).cfg := by
  show ConfigStep build (stateAfter build boot history) call
    (call.exec build (stateAfter build boot history)).cfg
  by_cases hoff : call.offDesk = true
  · rw [exec_cfg build hoff]
    exact .kept _
  · cases call with
    | frame f => exact frame_config build f _
    | weldTick tick =>
      show ConfigStep build _ _ (appWeldTick tick (stateAfter build boot history)).cfg
      rw [(weldTick_desk tick _).cfg]
      split_ifs
      · exact .counted tick _
      · exact .kept _
    | ethTick tick =>
      obtain ⟨ip, nm, gw, hcfg⟩ := (ethTick_cfg tick (stateAfter build boot history)).1
      show ConfigStep build _ _ (appEthTick tick (stateAfter build boot history)).cfg
      rw [hcfg]
      exact .leased tick ip nm gw
    | modbusTick input => exact modbusTick_config build boot history input
    | _ => exact absurd rfl hoff

/-! ### SAVE -/

/-- The configuration without what a SAVE commits: the counter and the communication settings. -/
def AppConfig.process (cfg : AppConfig) : AppConfig :=
  { cfg with
    workCnt := 0
    commAddress := 0
    commSpeedIdx := 0
    commParityIdx := 0
    commMode := 0
    etherIp := ⟨0, 0, 0, 0⟩
    etherNm := ⟨0, 0, 0, 0⟩
    etherGw := ⟨0, 0, 0, 0⟩ }

/-- What a SAVE leaves: the process parameters as they are, the shadows in the line settings, and in
the mode if it was seeded. -/
structure SavedConfig (s : Sys) (cfg : AppConfig) : Prop where
  process : cfg.process = s.cfg.process
  speed : cfg.commSpeedIdx = s.cfg.commSpeedIdx ∨ cfg.commSpeedIdx = s.lcd.tempSpeedIdx
  parity : cfg.commParityIdx = s.cfg.commParityIdx ∨ cfg.commParityIdx = s.lcd.tempParityIdx
  mode : cfg.commMode = s.cfg.commMode ∨
    cfg.commMode = s.lcd.tempCommMode ∧ s.lcd.tempCommMode ≠ 0xFF

theorem dataSaveGroup_config (s : Sys) : SavedConfig s (dataSaveGroup s).cfg := by
  have hsame : SavedConfig s s.cfg := ⟨rfl, Or.inl rfl, Or.inl rfl, Or.inl rfl⟩
  have hcommit (t : Sys) (hprocess : t.cfg.process = s.cfg.process)
      (hmode : t.cfg.commMode = s.cfg.commMode)
      (hlcd : t.lcd.tempSpeedIdx = s.lcd.tempSpeedIdx ∧
        t.lcd.tempParityIdx = s.lcd.tempParityIdx ∧ t.lcd.tempCommMode = s.lcd.tempCommMode) :
      SavedConfig s (commitCommSerialShadows (commitCommModeAndEther t)).cfg := by
    obtain ⟨hspeed, hparity, hshadow⟩ := hlcd
    unfold commitCommModeAndEther
    by_cases hseeded : t.lcd.tempCommMode = 0xFF
    · rw [if_pos hseeded]
      exact ⟨hprocess, Or.inr hspeed, Or.inr hparity, Or.inl hmode⟩
    · rw [if_neg hseeded]
      exact ⟨hprocess, Or.inr hspeed, Or.inr hparity, Or.inr ⟨hshadow, hshadow ▸ hseeded⟩⟩
  unfold dataSaveGroup
  cases setupGroup s with
  | model => exact hsame
  | other => exact hsame
  | multi => exact hcommit (appLcdHookSetPot s.cfg.outputPower s) rfl rfl ⟨rfl, rfl, rfl⟩
  | hand => exact ⟨rfl, Or.inr rfl, Or.inr rfl, Or.inl rfl⟩
  | std =>
    have hhorn (on : Bool) (t : Sys) : (appHornSetMode on t).cfg = t.cfg ∧
        (appHornSetMode on t).lcd = t.lcd := by
      rw [appHornSetMode_eq]
      exact ⟨rfl, rfl⟩
    have hcount (t : Sys) : (commitCntReset t).cfg.process = t.cfg.process ∧
        (commitCntReset t).cfg.commMode = t.cfg.commMode ∧
        (commitCntReset t).lcd.tempSpeedIdx = t.lcd.tempSpeedIdx ∧
        (commitCntReset t).lcd.tempParityIdx = t.lcd.tempParityIdx ∧
        (commitCntReset t).lcd.tempCommMode = t.lcd.tempCommMode := by
      unfold commitCntReset
      split_ifs <;> exact ⟨rfl, rfl, rfl, rfl, rfl⟩
    obtain ⟨hprocess, hmode, hlcd⟩ := hcount (appLcdHookSetPot s.cfg.outputPower s)
    refine hcommit _ ?_ ?_ ?_
    · rw [(hhorn _ _).1, hprocess]
      rfl
    · rw [(hhorn _ _).1, hmode]
      rfl
    · rw [(hhorn _ _).2]
      exact hlcd

theorem dataSaveGroup_workCnt (s : Sys) :
    (dataSaveGroup s).cfg.workCnt =
      if setupGroup s = .std ∧ s.lcd.tempCntReset = true then 0 else s.cfg.workCnt := by
  have hether (t : Sys) : (commitCommModeAndEther t).cfg.workCnt = t.cfg.workCnt := by
    unfold commitCommModeAndEther
    split_ifs <;> rfl
  have hhorn (on : Bool) (t : Sys) : (appHornSetMode on t).cfg = t.cfg := by
    rw [appHornSetMode_eq]
  unfold dataSaveGroup
  cases hgroup : setupGroup s with
  | std =>
    show (commitCommSerialShadows (commitCommModeAndEther (appHornSetMode s.lcd.tempHorndown
      (commitCntReset (appLcdHookSetPot s.cfg.outputPower s))))).cfg.workCnt = _
    have hserial (t : Sys) : (commitCommSerialShadows t).cfg.workCnt = t.cfg.workCnt := rfl
    rw [hserial, hether, hhorn, commitCntReset]
    have hreset : (appLcdHookSetPot s.cfg.outputPower s).lcd.tempCntReset =
        s.lcd.tempCntReset := rfl
    rw [hreset]
    cases s.lcd.tempCntReset with
    | true => exact (if_pos ⟨rfl, rfl⟩).symm
    | false => exact (if_neg (by simp)).symm
  | multi =>
    rw [if_neg (by simp)]
    exact hether _
  | _ => exact (if_neg (by simp)).symm

/-- The panel state without what a SAVE changes of it. -/
def LcdState.offSave (lcd : LcdState) : LcdState :=
  { lcd with lcdStatus := .logo, sysMode := 0, tempCntReset := false, etherDirty := false }

/-- A SAVE leaves the shadows alone. -/
theorem dataSaveGroup_offSave (s : Sys) : (dataSaveGroup s).lcd.offSave = s.lcd.offSave := by
  have hether (t : Sys) : (commitCommModeAndEther t).lcd.offSave = t.lcd.offSave := by
    rw [commitCommModeAndEther_eq]
    rfl
  have hhorn (on : Bool) (t : Sys) : (appHornSetMode on t).lcd = t.lcd := by
    rw [appHornSetMode_eq]
  have hcount (t : Sys) : (commitCntReset t).lcd.offSave = t.lcd.offSave := by
    rw [commitCntReset_eq]
    rfl
  unfold dataSaveGroup
  cases setupGroup s with
  | model => rfl
  | multi => exact hether (appLcdHookSetPot s.cfg.outputPower s)
  | hand => rfl
  | std =>
    exact ((hether _).trans (congrArg LcdState.offSave (hhorn _ _))).trans
      (hcount (appLcdHookSetPot s.cfg.outputPower s))
  | other => rfl

end UsCtrl
