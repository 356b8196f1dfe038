import UsCtrl.ApplyPoint
import UsCtrl.HornMode

/-!
# What a register write does

The effect of one FC 06, for every register, value and reachable state. At an apply point only the
branch of the written register can be open, so the effect is that of one row of the chain.

A write changes no configuration field but those its register maps to, and writing a staged register
or the value a register already shows changes nothing at all (`fc06_isolated`), except that a zero
written to WORK_CNTL resets any counter, also one whose low word is zero. A write to a
configuration register leaves the normalized value in its field exactly if it is not taken for no
change (`fc06_effective_iff`): the chain compares the word with what the mirror shows, so a field
outside the range of its own rule is not corrected by writing the word it shows. The command
registers are erased exactly if no value other than 0 and 1 was written to those of RESET, SEEK and
STOP, or the gate is closed (`commands_erased_iff`).
-/

set_option autoImplicit false
set_option relaxedAutoImplicit false

namespace UsCtrl

open Foundation

/-! ### Command registers -/

/-- The state in which the apply of a tick starts. -/
abbrev applyEntry (build : Build) (boot : BootIn) (input : ModbusTickIn) (history : List Call) :
    Sys :=
  (modbusPass build input (stateAfter build boot history)).1

/-- A tick with a request to apply ends with its apply. -/
theorem stateAfter_apply {build : Build} {boot : BootIn} {history : List Call}
    {input : ModbusTickIn} {link : MbLink}
    (hlink : (modbusPass build input (stateAfter build boot history)).2 = some link) :
    stateAfter build boot (.modbusTick input :: history) =
      appModbusApplyWrites build link input.apply (applyEntry build boot input history) := by
  change appModbusTick build input (stateAfter build boot history) = _
  rw [appModbusTick_eq_pass, finishPass, hlink]

/-- Assumes: a tick leaves a request to apply. The command registers read zero afterwards exactly if
the gate turned the request away, or none of RESET, SEEK and STOP held a value above 1. -/
theorem commands_erased_iff (build : Build) (boot : BootIn) (history : List Call)
    (input : ModbusTickIn) (link : MbLink)
    (hlink : (modbusPass build input (stateAfter build boot history)).2 = some link) :
    (∀ reg : MbReg, reg.isCommand = true →
        holding (stateAfter build boot (.modbusTick input :: history)) reg = 0) ↔
      gateClosed build (applyEntry build boot input history) = true ∨
        ∀ reg ∈ [MbReg.reset, .seek, .stop],
          holding (applyEntry build boot input history) reg ≤ 1 := by
  obtain ⟨written, value, hpoint⟩ := after_point hlink
  have herased := appModbusApplyWrites_holding hpoint link input.apply
  rw [stateAfter_apply hlink]
  simp only [herased]
  cases hgate : gateClosed build (applyEntry build boot input history) with
  | true => exact iff_of_true (fun reg hcommand ↦ if_pos ⟨hcommand, Or.inl rfl⟩) (Or.inl rfl)
  | false =>
    simp only [Bool.false_eq_true, false_or]
    constructor
    · intro hzero reg hreg
      simp only [List.mem_cons, List.not_mem_nil, or_false] at hreg
      have hcommand : reg.isCommand = true := by rcases hreg with rfl | rfl | rfl <;> rfl
      by_cases hidle : reg.Idle (holding (applyEntry build boot input history) reg)
      · have hread := hzero reg hcommand
        rw [if_neg fun hacts ↦ hacts.2 hidle] at hread
        exact hread.le.trans (Nat.zero_le 1)
      · rcases hreg with rfl | rfl | rfl <;> exact (not_not.mp hidle).le
    · intro hvalues reg hcommand
      split_ifs with hacted
      · rfl
      · have hidle : reg.Idle (holding (applyEntry build boot input history) reg) :=
          not_not.mp fun hacts ↦ hacted ⟨hcommand, hacts⟩
        have hsmall := hvalues reg
        cases reg with
        | reset => exact Nat.lt_one_iff.mp (lt_of_le_of_ne (hsmall (by simp)) hidle)
        | seek => exact Nat.lt_one_iff.mp (lt_of_le_of_ne (hsmall (by simp)) hidle)
        | stop => exact Nat.lt_one_iff.mp (lt_of_le_of_ne (hsmall (by simp)) hidle)
        | start => exact hidle
        | cfgCtrl => exact hidle
        | _ => cases hcommand

/-- One iteration with a request on the serial line, stopped behind its Modbus tick. -/
def requestRun (rx : List UInt8) : SuperloopRun where
  done := []
  current := serialIter 10 false rx
  made := 9

theorem requestRun_history (rx : List UInt8) : (requestRun rx).history =
    .modbusTick (serialIter 10 false rx).modbus :: (requestRun rx).history.tail := rfl

/-- A STOP is acted on and erased. -/
theorem stopRequest_erased :
    holding (stateAfter stdBuild serialBoot (requestRun (fc06 0x1C 1)).history) .stop = 0 := by
  rw [requestRun_history]
  refine (commands_erased_iff stdBuild serialBoot _ _ .rtu ?_).mpr (Or.inr ?_) .stop rfl
  · decide +kernel
  · decide +kernel

/-- RESET = 2 stays in its register. -/
theorem resetTwo_lingers :
    (modbusPass stdBuild (serialIter 10 false (fc06 0x19 2)).modbus
        (stateAfter stdBuild serialBoot (requestRun (fc06 0x19 2)).history.tail)).2 = some .rtu ∧
      ¬ ∀ reg : MbReg, reg.isCommand = true →
        holding (stateAfter stdBuild serialBoot (requestRun (fc06 0x19 2)).history) reg = 0 := by
  have hlingers : holding (stateAfter stdBuild serialBoot (requestRun (fc06 0x19 2)).history)
      .reset = 2 := by decide +kernel
  refine ⟨by decide +kernel, fun hzero ↦ ?_⟩
  exact absurd (hlingers.symm.trans (hzero .reset rfl)) (by decide)

/-! ### The configuration behind a pass -/

/-- The second state has the configuration and the FRAM of the first. -/
def Stored (s s' : Sys) : Prop := s'.cfg = s.cfg ∧ s'.fram = s.fram

theorem Stored.refl (s : Sys) : Stored s s := ⟨rfl, rfl⟩

theorem Stored.trans {s mid s' : Sys} (hfirst : Stored s mid) (hsecond : Stored mid s') :
    Stored s s' :=
  ⟨hsecond.1.trans hfirst.1, hsecond.2.trans hfirst.2⟩

theorem stored_regCommand (cmd : UsCmd) (src : UsRun) (now : ℕ) (s : Sys) :
    Stored s (appRegCommand cmd src now s) := by
  rw [appRegCommand_eq]
  exact ⟨rfl, rfl⟩

theorem stored_gateRejectBody (s : Sys) : Stored s (gateRejectBody s) := by
  have hset (reg : MbReg) (value : ℕ) (t : Sys) : Stored t (setHolding reg value t) := ⟨rfl, rfl⟩
  have herased := ((hset .reset 0 s).trans (hset .seek 0 _)).trans (hset .start 0 _)
  unfold gateRejectBody
  dsimp only
  split_ifs
  · exact ((herased.trans (stored_regCommand _ _ _ _)).trans (hset _ _ _)).trans (hset _ _ _)
  · exact (herased.trans (hset _ _ _)).trans (hset _ _ _)

theorem stored_readOnly {s s' : Sys} (h : ReadOnly s s') : Stored s s' := by
  obtain ⟨_, _, _, _, rfl⟩ := h
  exact ⟨rfl, rfl⟩

theorem stored_wrote {s s' : Sys} (h : Wrote s s') : Stored s s' := by
  obtain ⟨_, _, _, mid, hbefore, hafter⟩ := h
  exact (stored_readOnly hbefore).trans
    ((show Stored mid (onCore _ mid) from ⟨rfl, rfl⟩).trans (stored_readOnly hafter))

theorem stored_modbusHead (build : Build) (input : ModbusTickIn) (s : Sys) :
    Stored s (modbusHead build input s) := by
  have hgate : Stored s (remoteEnStep build input.tGate input.remoteEnPin s) := by
    unfold remoteEnStep
    cases build.model <;> exact ⟨rfl, rfl⟩
  have hhold (t : Sys) : Stored t (holdWdtBlock input.tHold t) := by
    unfold holdWdtBlock
    dsimp only
    split_ifs
    · exact (show Stored t (onModbus _ t) from ⟨rfl, rfl⟩).trans (stored_regCommand _ _ _ _)
    · exact ⟨rfl, rfl⟩
  have hline (t : Sys) : Stored t (applyConfig build input.sensDnAcquire t) := by
    unfold applyConfig
    dsimp only
    split_ifs <;> exact ⟨rfl, rfl⟩
  unfold modbusHead
  exact (hgate.trans (hhold _)).trans
    ((show Stored _ (stageTick input.tStage _) from ⟨rfl, rfl⟩).trans (hline _))

theorem stored_tcpLeave (s : Sys) : Stored s (tcpLeave s) := by
  unfold tcpLeave
  split_ifs <;> exact ⟨rfl, rfl⟩

theorem stored_tickMirror {build : Build} {input : ModbusTickIn} {s mirrored : Sys}
    (hmirrored : tickMirror build input s = some mirrored) : Stored s mirrored := by
  have henter (t : Sys) : Stored t (tcpEnter t) := by
    unfold tcpEnter
    split_ifs <;> exact ⟨rfl, rfl⟩
  have hmirror (t : Sys) : Stored t (mirrorLive build input.sensDn t) := ⟨rfl, rfl⟩
  unfold tickMirror at hmirrored
  dsimp only at hmirrored
  split_ifs at hmirrored
  · obtain rfl := Option.some.inj hmirrored
    exact (stored_modbusHead build input s).trans ((stored_tcpLeave _).trans (hmirror _))
  · obtain rfl := Option.some.inj hmirrored
    exact (stored_modbusHead build input s).trans ((henter _).trans (hmirror _))

/-- A tick up to its apply keeps the configuration and its image. -/
theorem stored_modbusPass (build : Build) (input : ModbusTickIn) (s : Sys) :
    Stored s (modbusPass build input s).1 := by
  cases hlink : (modbusPass build input s).2 with
  | none =>
    rcases modbusPass_readOnly hlink with ⟨mirrored, hmirrored, hread⟩ | ⟨-, hleave⟩
    · exact (stored_tickMirror hmirrored).trans (stored_readOnly hread)
    · rw [hleave]
      exact (stored_modbusHead build input s).trans (stored_tcpLeave _)
  | some link =>
    obtain ⟨mirrored, hmirrored, hwrote⟩ := modbusPass_wrote hlink
    exact (stored_tickMirror hmirrored).trans (stored_wrote hwrote)

/-! ### The fields of a register -/

/-- The staged registers. -/
def MbReg.isStaged (reg : MbReg) : Bool := CfgStg.all.any fun field ↦ decide (field.reg = reg)

/-- The configuration with the fields of one register taken from another configuration. -/
def AppConfig.withFieldsOf (reg : MbReg) (cfg donor : AppConfig) : AppConfig :=
  match reg with
  | .delay1 => { cfg with limitDelayTime1 := donor.limitDelayTime1 }
  | .delay2 => { cfg with limitDelayTime2 := donor.limitDelayTime2 }
  | .delay3 => { cfg with limitDelayTime3 := donor.limitDelayTime3 }
  | .trigger2 => { cfg with limitTriggerTime2 := donor.limitTriggerTime2 }
  | .trigger3 => { cfg with limitTriggerTime3 := donor.limitTriggerTime3 }
  | .outPower => { cfg with outputPower := donor.outputPower }
  | .onTime => { cfg with limitOnTime := donor.limitOnTime }
  | .energy => { cfg with limitEnergy := donor.limitEnergy }
  | .multiT1 => { cfg with limitMoTime1 := donor.limitMoTime1 }
  | .multiT2 => { cfg with limitMoTime2 := donor.limitMoTime2 }
  | .multiO1 => { cfg with limitMoOut1 := donor.limitMoOut1 }
  | .multiO2 => { cfg with limitMoOut2 := donor.limitMoOut2 }
  | .timeover => { cfg with limitOutTime := donor.limitOutTime }
  | .runMode => { cfg with runMode := donor.runMode }
  | .enEnergy => { cfg with energyCtrl := donor.energyCtrl }
  | .enMulti => { cfg with multiCtrl := donor.multiCtrl }
  | .enSafty => { cfg with fSafty := donor.fSafty }
  | .modelFreq => { cfg with modelFreq := donor.modelFreq }
  | .modelType => { cfg with modelType := donor.modelType }
  | .calVal => { cfg with calVal := donor.calVal }
  | .freqCalVal => { cfg with freqCalVal := donor.freqCalVal }
  | .workCntL => { cfg with workCnt := donor.workCnt }
  | .cfgCtrl => { cfg with
      commAddress := donor.commAddress
      commSpeedIdx := donor.commSpeedIdx
      commParityIdx := donor.commParityIdx
      etherIp := donor.etherIp
      etherNm := donor.etherNm
      etherGw := donor.etherGw }
  | _ => cfg

theorem AppConfig.withFieldsOf_self (reg : MbReg) (cfg : AppConfig) :
    cfg.withFieldsOf reg cfg = cfg := by
  cases reg <;> rfl

/-! ### What a branch may touch -/

/-- What a branch of the chain may do to configuration, image and horn mode. -/
structure BranchFrame (reg : MbReg) (s : Sys) (result : Sys × Bool) : Prop where
  cfg : result.1.cfg = s.cfg.withFieldsOf reg result.1.cfg
  fram : result.1.fram = s.fram
  unsaved : result.2 = false → result.1.cfg = s.cfg
  horn : reg ≠ .hornCmd → result.1.horn = s.horn

theorem BranchFrame.of_stored {reg : MbReg} {s : Sys} {result : Sys × Bool}
    (hstored : Stored s result.1) (hhorn : result.1.horn = s.horn) :
    BranchFrame reg s result where
  cfg := by rw [hstored.1, AppConfig.withFieldsOf_self]
  fram := hstored.2
  unsaved _ := hstored.1
  horn _ := hhorn

theorem stored_startCmdBody (value : ℕ) (input : ApplyIn) (s : Sys) :
    Stored s (startCmdBody value input s) := by
  have hstart : Stored s (appLcdHookSetPot s.cfg.outputPower
      (appRegCommand .start .comm input.tCmd s)) :=
    (stored_regCommand .start .comm input.tCmd s).trans ⟨rfl, rfl⟩
  unfold startCmdBody
  split_ifs
  · exact hstart
  · exact hstart.trans ⟨rfl, rfl⟩
  · exact ⟨rfl, rfl⟩
  · exact Stored.refl s
  · exact ⟨rfl, rfl⟩
  · exact Stored.refl s

theorem cfgCtrlBody_frame (link : MbLink) (ctrl : ℕ) (s : Sys) :
    BranchFrame .cfgCtrl s (cfgCtrlBody link ctrl s) := by
  unfold cfgCtrlBody
  dsimp only
  split_ifs
  · exact ⟨rfl, rfl, by rintro ⟨⟩, fun _ ↦ rfl⟩
  · exact .of_stored ⟨rfl, rfl⟩ rfl
  · exact .of_stored ⟨rfl, rfl⟩ rfl
  · exact .of_stored ⟨rfl, rfl⟩ rfl

/-- Only CFG_CTRL = 1 commits. -/
theorem stored_cfgCtrlBody {link : MbLink} {ctrl : ℕ} (hctrl : ctrl ≠ 1) (s : Sys) :
    Stored s (cfgCtrlBody link ctrl s).1 := by
  unfold cfgCtrlBody
  rw [if_neg hctrl]
  split_ifs <;> exact ⟨rfl, rfl⟩

/-- Every branch keeps to the fields of its register. -/
theorem applyRules_frame (link : MbLink) (input : ApplyIn) (s : Sys) :
    ∀ entry ∈ applyKeys.zip (applyRules link input), BranchFrame entry.1 s (entry.2.act s) := by
  have hcommand (reg : MbReg) (cmd : UsCmd) :
      BranchFrame reg s (setHolding reg 0 (appRegCommand cmd .comm 0 s), false) := by
    refine .of_stored ((stored_regCommand cmd .comm 0 s).trans ⟨rfl, rfl⟩) ?_
    exact (appRegCommand_sol cmd .comm 0 s).horn
  have hstart (value : ℕ) :
      BranchFrame .start s (startCmdBody value input (setHolding .start 0 s), false) := by
    have hcleared : Stored s (setHolding .start 0 s) := ⟨rfl, rfl⟩
    refine .of_stored (hcleared.trans (stored_startCmdBody value input _)) ?_
    exact (startCmdBody_sol value input (setHolding .start 0 s)).horn
  have hctrl (ctrl : ℕ) :
      BranchFrame .cfgCtrl s (cfgCtrlBody link ctrl (setHolding .cfgCtrl 0 s)) :=
    have hbody := cfgCtrlBody_frame link ctrl (setHolding .cfgCtrl 0 s)
    ⟨hbody.cfg, hbody.fram, hbody.unsaved, hbody.horn⟩
  have hhorn : BranchFrame .hornCmd s (hornRule.act s) := by
    have hstored : Stored s (hornRule.act s).1 := by
      simp only [hornRule, appHornSetMode]
      split_ifs <;> exact ⟨rfl, rfl⟩
    exact ⟨by rw [hstored.1, AppConfig.withFieldsOf_self], hstored.2, fun _ ↦ hstored.1,
      fun h ↦ absurd rfl h⟩
  have hstore {reg : MbReg} {cfg : AppConfig} (hcfg : cfg = s.cfg.withFieldsOf reg cfg) :
      BranchFrame reg s ({ s with cfg := cfg }, true) :=
    ⟨hcfg, rfl, by rintro ⟨⟩, fun _ ↦ rfl⟩
  have hsafty : BranchFrame .enSafty s (saftyRule.act s) := by
    simp only [saftyRule]
    generalize (if holding s .enSafty = 1 then 1 else 0) = value
    split_ifs
    · exact hstore rfl
    · exact .of_stored (Stored.refl s) rfl
  simp only [applyKeys, applyRules, commandRules, configRules, List.cons_append, List.nil_append,
    List.zip_cons_cons, List.zip_nil_right, List.forall_mem_cons, List.not_mem_nil, false_implies,
    implies_true, and_true]
  exact ⟨hcommand _ _, hcommand _ _, hstart _, hcommand _ _, hctrl _, hstore rfl, hstore rfl,
    hstore rfl, hstore rfl, hstore rfl, hstore rfl, hstore rfl, hstore rfl, hstore rfl, hstore rfl,
    hstore rfl, hstore rfl, hstore rfl, hstore rfl, hstore rfl, hstore rfl, hsafty, hhorn,
    hstore rfl, hstore rfl, hstore rfl, hstore rfl, hstore rfl⟩

theorem stagedScan_frame (reg : MbReg) (tStage : ℕ) (s : Sys) :
    BranchFrame reg s (stagedScan tStage s, false) := by
  refine .of_stored ?_ (quiet_stagedScan tStage s).horn
  unfold stagedScan
  split <;> exact ⟨rfl, rfl⟩

/-- The branch that acts on a request, with its wish to save. -/
def pickedBranch (link : MbLink) (input : ApplyIn) (s : Sys) : Sys × Bool :=
  firstMatch (fun s ↦ (stagedScan input.tStage s, false)) (applyRules link input) s

theorem mem_of_ruleOf {link : MbLink} {input : ApplyIn} {reg : MbReg} {rule : ApplyRule}
    (hrule : ruleOf link input reg = some rule) :
    (reg, rule) ∈ applyKeys.zip (applyRules link input) := by
  obtain ⟨newer, older, hsplit, -⟩ := List.lookup_eq_some_iff.mp hrule
  rw [hsplit]
  exact List.mem_append_right _ List.mem_cons_self

/-- At an apply point either the branch of the written register is open and acts, or the staged scan
ends the chain. -/
theorem pickedBranch_cases {build : Build} {sensDn : Bool} {reg : MbReg} {value : ℕ} {s : Sys}
    (hpoint : ApplyPoint build sensDn reg value s) (link : MbLink) (input : ApplyIn) :
    (∃ rule, ruleOf link input reg = some rule ∧ rule.guard s = true ∧
        pickedBranch link input s = rule.act s) ∨
      ((∀ rule, ruleOf link input reg = some rule → rule.guard s = false) ∧
        pickedBranch link input s = (stagedScan input.tStage s, false)) := by
  by_cases hopen : ∃ rule, ruleOf link input reg = some rule ∧ rule.guard s = true
  · obtain ⟨rule, hrule, hguard⟩ := hopen
    exact Or.inl ⟨rule, hrule, hguard, applyChain_open hpoint hrule hguard⟩
  · have hclosed (rule : ApplyRule) (hrule : ruleOf link input reg = some rule) :
        rule.guard s = false :=
      Bool.eq_false_iff.mpr fun hguard ↦ hopen ⟨rule, hrule, hguard⟩
    exact Or.inr ⟨hclosed, applyChain_scan hpoint hclosed⟩

theorem pickedBranch_frame {build : Build} {sensDn : Bool} {reg : MbReg} {value : ℕ} {s : Sys}
    (hpoint : ApplyPoint build sensDn reg value s) (link : MbLink) (input : ApplyIn) :
    BranchFrame reg s (pickedBranch link input s) := by
  rcases pickedBranch_cases hpoint link input with ⟨rule, hrule, -, hpicked⟩ | ⟨-, hpicked⟩
  · rw [hpicked]
    exact applyRules_frame link input s (reg, rule) (mem_of_ruleOf hrule)
  · rw [hpicked]
    exact stagedScan_frame reg input.tStage s

/-- With an open gate an apply is the picked branch, followed by the save it asks for. -/
theorem appModbusApplyWrites_open {build : Build} {link : MbLink} {input : ApplyIn} {s : Sys}
    (hgate : gateClosed build s = false) :
    appModbusApplyWrites build link input s =
      if (pickedBranch link input (countApply s)).2 then
        saveConfig input.bus (pickedBranch link input (countApply s)).1
      else (pickedBranch link input (countApply s)).1 := by
  unfold appModbusApplyWrites
  rw [hgate, if_neg Bool.false_ne_true]
  rfl

theorem applied_cfg {build : Build} {link : MbLink} {input : ApplyIn} {s : Sys}
    (hgate : gateClosed build s = false) :
    (appModbusApplyWrites build link input s).cfg =
      (pickedBranch link input (countApply s)).1.cfg := by
  rw [appModbusApplyWrites_open hgate]
  split_ifs <;> rfl

theorem applied_horn {build : Build} {link : MbLink} {input : ApplyIn} {s : Sys}
    (hgate : gateClosed build s = false) :
    (appModbusApplyWrites build link input s).horn =
      (pickedBranch link input (countApply s)).1.horn := by
  rw [appModbusApplyWrites_open hgate]
  split_ifs <;> rfl

/-- Assumes: the branch of the written register is closed, or it has none. Then nothing is stored.
-/
theorem applied_scan {build : Build} {sensDn : Bool} {reg : MbReg} {value : ℕ} {s : Sys}
    {link : MbLink} {input : ApplyIn} (hpoint : ApplyPoint build sensDn reg value s)
    (hgate : gateClosed build s = false)
    (hclosed : ∀ rule, ruleOf link input reg = some rule → rule.guard (countApply s) = false) :
    Stored s (appModbusApplyWrites build link input s) := by
  have hpicked : pickedBranch link input (countApply s) =
      (stagedScan input.tStage (countApply s), false) := applyChain_scan hpoint.counted hclosed
  have hframe := stagedScan_frame reg input.tStage (countApply s)
  rw [appModbusApplyWrites_open hgate, hpicked]
  exact ⟨hframe.unsaved rfl, hframe.fram⟩

/-! ### Isolation -/

/-- What FC 06 on a register may change. -/
structure WriteIsolated (reg : MbReg) (value : ℕ) (s s' : Sys) : Prop where
  cfg : s'.cfg = s.cfg.withFieldsOf reg s'.cfg
  count : reg = .workCntL → value ≠ 0 → s'.cfg = s.cfg
  commit : reg = .cfgCtrl → value ≠ 1 → s'.cfg = s.cfg
  horn : reg ≠ .hornCmd → s'.horn.mode = s.horn.mode

theorem applied_isolated {build : Build} {sensDn : Bool} {reg : MbReg} {value : ℕ} {s : Sys}
    (hpoint : ApplyPoint build sensDn reg value s) (hgate : gateClosed build s = false)
    (link : MbLink) (input : ApplyIn) :
    WriteIsolated reg value s (appModbusApplyWrites build link input s) := by
  have hframe := pickedBranch_frame hpoint.counted link input
  have hcfg := @applied_cfg build link input s hgate
  constructor
  · rw [hcfg]
    exact hframe.cfg
  · rintro rfl hvalue
    refine (applied_scan hpoint hgate fun rule hrule ↦ ?_).1
    obtain rfl : workCntRule = rule := Option.some.inj hrule
    have hread : ¬ holding (countApply s) .workCntL = 0 := by
      rw [hpoint.counted.written]
      exact hvalue
    simp [workCntRule, hread]
  · rintro rfl hvalue
    rw [hcfg]
    rcases pickedBranch_cases hpoint.counted link input with ⟨rule, hrule, -, hpicked⟩ |
      ⟨-, hpicked⟩
    · rw [hpicked]
      obtain rfl := Option.some.inj hrule
      have hread : holding (countApply s) .cfgCtrl ≠ 1 := by
        rw [hpoint.counted.written]
        exact hvalue
      exact (stored_cfgCtrlBody hread (setHolding .cfgCtrl 0 (countApply s))).1
    · rw [hpicked]
      exact (stagedScan_frame .cfgCtrl input.tStage (countApply s)).unsaved rfl
  · intro hreg
    rw [applied_horn hgate, hframe.horn hreg]
    rfl

/-- A staged register has no branch of its own. -/
theorem ruleOf_staged {reg : MbReg} (hstaged : reg.isStaged = true) (link : MbLink)
    (input : ApplyIn) : ruleOf link input reg = none := by
  cases reg <;> first | rfl | cases hstaged

/-- Assumes: the gate is open for a request that writes `reg`. The write changes no configuration
field but those of `reg`, and the horn mode only through HORN_CMD; writing a staged register, or the
value a register shows, stores nothing, unless it is a zero for a counter that is not zero. -/
theorem fc06_isolated (build : Build) (boot : BootIn) (history : List Call) (input : ModbusTickIn)
    (link : MbLink) (reg : MbReg)
    (hlink : (modbusPass build input (stateAfter build boot history)).2 = some link)
    (hopen : gateClosed build (applyEntry build boot input history) = false)
    (hreg : (applyEntry build boot input history).modbus.core.lastWriteAddr = some reg) :
    WriteIsolated reg (holding (applyEntry build boot input history) reg)
        (stateAfter build boot history) (stateAfter build boot (.modbusTick input :: history)) ∧
      ∃ mirrored, tickMirror build input (stateAfter build boot history) = some mirrored ∧
        (reg.isStaged = true ∨
            holding (applyEntry build boot input history) reg = holding mirrored reg →
          ¬ (reg = .workCntL ∧ holding (applyEntry build boot input history) reg = 0 ∧
            (stateAfter build boot history).cfg.workCnt ≠ 0) →
          Stored (stateAfter build boot history)
            (stateAfter build boot (.modbusTick input :: history))) := by
  have hstored : Stored (stateAfter build boot history) (applyEntry build boot input history) :=
    stored_modbusPass build input _
  have hhorn := (modbusPass_sol build input (stateAfter build boot history)).horn
  obtain ⟨written, value, hpoint⟩ := after_point hlink
  obtain rfl : reg = written := Option.some.inj (hreg.symm.trans hpoint.last)
  have hvalue := hpoint.written
  rw [stateAfter_apply hlink]
  refine ⟨?_, ?_⟩
  · have hisolated := applied_isolated hpoint hopen link input.apply
    rw [← hvalue] at hisolated
    constructor
    · rw [← hstored.1]
      exact hisolated.cfg
    · exact fun hcount hnonzero ↦ (hisolated.count hcount hnonzero).trans hstored.1
    · exact fun hctrl hone ↦ (hisolated.commit hctrl hone).trans hstored.1
    · exact fun hother ↦ (hisolated.horn hother).trans (congrArg HornGlue.mode hhorn)
  · obtain ⟨mirrored, hmirrored, hwrote⟩ := modbusPass_wrote hlink
    refine ⟨mirrored, hmirrored, fun hsame hcount ↦ hstored.trans ?_⟩
    refine applied_scan hpoint hopen fun rule hrule ↦ ?_
    rcases hsame with hstaged | hsame
    · rw [ruleOf_staged hstaged] at hrule
      cases hrule
    · refine @applyRules_shown build input.sensDn _ link input.apply (reg, rule)
        (mem_of_ruleOf hrule) ?_ ?_ ?_
      · intro shown hshown
        have hmirror : mirrorValue build input.sensDn mirrored reg = some shown :=
          (hwrote.mirrorValue build input.sensDn reg).symm.trans hshown
        exact hsame.trans (tickMirror_shown hmirrored reg shown hmirror)
      · have hidle := (after_commandsIdle build boot history).tickMirror hmirrored reg
        rw [← hsame] at hidle
        exact hidle
      · rintro (rfl : reg = .workCntL)
        rw [← hstored.1] at hcount
        have hkept : ¬ (holding (applyEntry build boot input history) .workCntL = 0 ∧
            (applyEntry build boot input history).cfg.workCnt ≠ 0) :=
          fun h ↦ hcount ⟨rfl, h⟩
        rw [not_and_or] at hkept
        rcases hkept with h | h
        · exact Bool.and_eq_false_iff.mpr (Or.inl (Bool.and_eq_false_iff.mpr
            (Or.inr (decide_eq_false h))))
        · exact Bool.and_eq_false_iff.mpr (Or.inr (decide_eq_false h))

/-- A write to DELAY1 leaves every other field alone. -/
theorem delayRequest_isolated : WriteIsolated .delay1 50
    (stateAfter stdBuild serialBoot (requestRun (fc06 0x0A 50)).history.tail)
    (stateAfter stdBuild serialBoot (requestRun (fc06 0x0A 50)).history) := by
  have hvalue : holding (applyEntry stdBuild serialBoot (serialIter 10 false (fc06 0x0A 50)).modbus
      (requestRun (fc06 0x0A 50)).history.tail) .delay1 = 50 := by decide +kernel
  have hisolated := (fc06_isolated stdBuild serialBoot (requestRun (fc06 0x0A 50)).history.tail
    (serialIter 10 false (fc06 0x0A 50)).modbus .rtu .delay1 (by decide +kernel) (by decide +kernel)
    (by decide +kernel)).1
  rw [hvalue, ← requestRun_history] at hisolated
  exact hisolated

/-- `serialBoot` with a work counter of 65536. -/
def countedBoot : BootIn :=
  { serialBoot with fram := fun addr ↦ if addr = 2 then 1 else serialBoot.fram addr }

/-- WORK_CNTL shows zero, and writing that zero resets the counter. -/
theorem shownZero_resets :
    (∃ mirrored, tickMirror stdBuild (serialIter 10 false (fc06 0x01 0)).modbus
        (stateAfter stdBuild countedBoot (requestRun (fc06 0x01 0)).history.tail) = some mirrored ∧
      holding (applyEntry stdBuild countedBoot (serialIter 10 false (fc06 0x01 0)).modbus
        (requestRun (fc06 0x01 0)).history.tail) .workCntL = holding mirrored .workCntL) ∧
      gateClosed stdBuild (applyEntry stdBuild countedBoot
        (serialIter 10 false (fc06 0x01 0)).modbus
        (requestRun (fc06 0x01 0)).history.tail) = false ∧
      (stateAfter stdBuild countedBoot (requestRun (fc06 0x01 0)).history.tail).cfg.workCnt =
        65536 ∧
      (stateAfter stdBuild countedBoot (requestRun (fc06 0x01 0)).history).cfg.workCnt = 0 := by
  refine ⟨?_, by decide +kernel, by decide +kernel, by decide +kernel⟩
  have hmirrored : (tickMirror stdBuild (serialIter 10 false (fc06 0x01 0)).modbus
      (stateAfter stdBuild countedBoot (requestRun (fc06 0x01 0)).history.tail)).map
        (fun mirrored ↦ holding mirrored .workCntL) = some 0 := by decide +kernel
  obtain ⟨mirrored, hsome, hzero⟩ := Option.map_eq_some_iff.mp hmirrored
  refine ⟨mirrored, hsome, ?_⟩
  rw [hzero]
  decide +kernel

/-! ### Effect -/

/-- The registers of the configuration branches that store a field of their own. -/
def configRegs : List MbReg :=
  [.delay1, .delay2, .delay3, .trigger2, .trigger3, .outPower, .onTime, .energy, .multiT1, .multiT2,
   .multiO1, .multiO2, .timeover, .runMode, .enEnergy, .enMulti, .enSafty, .modelFreq, .modelType,
   .calVal, .freqCalVal]

/-- The field of a configuration register. -/
def AppConfig.field (cfg : AppConfig) : MbReg → ℤ
  | .delay1 => cfg.limitDelayTime1
  | .delay2 => cfg.limitDelayTime2
  | .delay3 => cfg.limitDelayTime3
  | .trigger2 => cfg.limitTriggerTime2
  | .trigger3 => cfg.limitTriggerTime3
  | .outPower => cfg.outputPower
  | .onTime => cfg.limitOnTime
  | .energy => cfg.limitEnergy
  | .multiT1 => cfg.limitMoTime1
  | .multiT2 => cfg.limitMoTime2
  | .multiO1 => cfg.limitMoOut1
  | .multiO2 => cfg.limitMoOut2
  | .timeover => cfg.limitOutTime
  | .runMode => cfg.runMode
  | .enEnergy => cfg.energyCtrl.toNat
  | .enMulti => cfg.multiCtrl.toNat
  | .enSafty => cfg.fSafty
  | .modelFreq => cfg.modelFreq
  | .modelType => cfg.modelType
  | .calVal => cfg.calVal
  | .freqCalVal => cfg.freqCalVal
  | _ => 0

/-- What the mirror shows of a field: the low word. -/
def shownWord (reg : MbReg) (field : ℤ) : ℕ :=
  match reg with
  | .energy => field.toNat % 65536
  | .calVal | .freqCalVal => toUint16 field
  | _ => field.toNat

/-- The value a word written to a configuration register asks for; the enable registers leave the
old field on any word but 0 and 1. -/
def normalized (reg : MbReg) (value : ℕ) (old : ℤ) : ℤ :=
  match reg with
  | .delay1 | .delay2 | .trigger2 => cfgClampMax value 500
  | .delay3 | .trigger3 | .onTime | .multiT1 | .multiT2 => cfgClampMax value 2000
  | .outPower | .multiO1 | .multiO2 => cfgClampPower value
  | .energy => value
  | .timeover => cfgClampMax value 10
  | .runMode | .modelFreq | .modelType => (value % 256 : ℕ)
  | .enEnergy | .enMulti => if value ≤ 1 then value else old
  | .enSafty => if value = 1 then 1 else 0
  | .calVal | .freqCalVal => cfgCalFromWire value
  | _ => old

/-- A field in the range of the rule of its register. -/
def FieldNormal (reg : MbReg) (field : ℤ) : Prop :=
  match reg with
  | .delay1 | .delay2 | .trigger2 => field ≤ 500
  | .delay3 | .trigger3 | .onTime | .multiT1 | .multiT2 => field ≤ 2000
  | .outPower | .multiO1 | .multiO2 => 50 ≤ field ∧ field ≤ 100
  | .energy => field < 65536
  | .timeover => field ≤ 10
  | .runMode | .modelFreq | .modelType => field < 256
  | .enSafty => field ≤ 1
  | .calVal | .freqCalVal => -1000 ≤ field ∧ field ≤ 1000
  | _ => True

theorem cfgClampMax_eq_iff (value max : ℕ) : (cfgClampMax value max : ℤ) = value ↔
    (value : ℤ) ≤ max := by
  unfold cfgClampMax
  split_ifs <;> omega

theorem cfgClampPower_eq_iff (value : ℕ) : (cfgClampPower value : ℤ) = value ↔
    50 ≤ (value : ℤ) ∧ (value : ℤ) ≤ 100 := by
  unfold cfgClampPower
  split_ifs <;> omega

/-- The clamp is idle on a calibration read back from the wire exactly in its range. -/
theorem cfgCalFromWire_eq_iff (field : ℤ) : cfgCalFromWire (toUint16 field) = field ↔
    -1000 ≤ field ∧ field ≤ 1000 := by
  unfold cfgCalFromWire toInt16 toUint16
  split_ifs <;> omega

/-- The word a field shows asks for that very field exactly if the field is normal. -/
theorem normalized_shown_iff {reg : MbReg} (hreg : reg ∈ configRegs) (cfg : AppConfig) :
    normalized reg (shownWord reg (cfg.field reg)) (cfg.field reg) = cfg.field reg ↔
      FieldNormal reg (cfg.field reg) := by
  have hbyte (value : ℕ) : ((value % 256 : ℕ) : ℤ) = value ↔ (value : ℤ) < 256 := by omega
  have hflag (on : Bool) : (if on.toNat ≤ 1 then (on.toNat : ℤ) else on.toNat) = on.toNat := by
    split_ifs <;> rfl
  cases reg with
  | delay1 | delay2 | trigger2 => exact cfgClampMax_eq_iff _ 500
  | delay3 | trigger3 | onTime | multiT1 | multiT2 => exact cfgClampMax_eq_iff _ 2000
  | outPower | multiO1 | multiO2 => exact cfgClampPower_eq_iff _
  | timeover => exact cfgClampMax_eq_iff _ 10
  | runMode | modelFreq | modelType => exact hbyte _
  | energy =>
    simp only [normalized, shownWord, FieldNormal, AppConfig.field]
    omega
  | enEnergy | enMulti => exact iff_of_true (hflag _) trivial
  | enSafty =>
    simp only [normalized, shownWord, FieldNormal, AppConfig.field]
    split_ifs <;> omega
  | calVal | freqCalVal => exact cfgCalFromWire_eq_iff _
  | _ => exact absurd hreg (by decide)

/-- What a branch does to the field of its register: it is closed on the shown word, and on words
its rule leaves out, and stores the normalized value otherwise. -/
structure BranchEffect (reg : MbReg) (rule : ApplyRule) (s : Sys) : Prop where
  opened : rule.guard s = true → holding s reg ≠ shownWord reg (s.cfg.field reg) ∧
    (rule.act s).1.cfg.field reg = normalized reg (holding s reg) (s.cfg.field reg)
  closed : rule.guard s = false → holding s reg ≠ shownWord reg (s.cfg.field reg) →
    normalized reg (holding s reg) (s.cfg.field reg) = s.cfg.field reg

theorem applyRules_effect (link : MbLink) (input : ApplyIn) (s : Sys) :
    ∀ entry ∈ applyKeys.zip (applyRules link input), entry.1 ∈ configRegs →
      BranchEffect entry.1 entry.2 s := by
  have hcfg (reg : MbReg) (shown : AppConfig → ℕ) (store : ℕ → AppConfig → AppConfig)
      (hshown : shown s.cfg = shownWord reg (s.cfg.field reg))
      (hstore : (store (holding s reg) s.cfg).field reg =
        normalized reg (holding s reg) (s.cfg.field reg)) :
      BranchEffect reg (cfgRule reg shown store) s := by
    constructor
    · intro hguard
      rw [← hshown]
      exact ⟨of_decide_eq_true hguard, hstore⟩
    · intro hguard hother
      rw [← hshown] at hother
      exact absurd (not_not.mp (of_decide_eq_false hguard)) hother
  have henable (reg : MbReg) (shown : AppConfig → Bool) (store : Bool → AppConfig → AppConfig)
      (hfield : s.cfg.field reg = ((shown s.cfg).toNat : ℤ))
      (hshown : shownWord reg (s.cfg.field reg) = (shown s.cfg).toNat)
      (hstore : ∀ on, (store on s.cfg).field reg = (on.toNat : ℤ))
      (hrule : ∀ value old, normalized reg value old = if value ≤ 1 then (value : ℤ) else old) :
      BranchEffect reg (enableRule reg shown store) s := by
    have hact : ((enableRule reg shown store).act s).1.cfg.field reg =
        ((decide (holding s reg = 1)).toNat : ℤ) := hstore _
    constructor
    · intro hguard
      rw [hact, hshown, hrule]
      simp only [enableRule, Bool.or_eq_true, Bool.and_eq_true, decide_eq_true_eq,
        Bool.not_eq_true'] at hguard
      rcases hguard with ⟨hvalue, hon⟩ | ⟨hvalue, hon⟩ <;> simp [hvalue, hon]
    · intro hguard hother
      rw [hshown] at hother
      rw [hrule, hfield]
      simp only [enableRule, Bool.or_eq_false_iff, Bool.and_eq_false_iff, decide_eq_false_iff_not,
        Bool.not_eq_false'] at hguard
      refine if_neg fun hsmall ↦ ?_
      cases hon : shown s.cfg <;> simp [hon] at hguard hother <;> omega
  have hsafty : BranchEffect .enSafty saftyRule s := by
    constructor
    · intro hguard
      refine ⟨of_decide_eq_true hguard, ?_⟩
      simp only [saftyRule, normalized, AppConfig.field]
      split_ifs <;> simp_all
    · intro hguard hother
      exact absurd (not_not.mp (of_decide_eq_false hguard)) hother
  simp only [applyKeys, applyRules, commandRules, configRules, List.cons_append, List.nil_append,
    List.zip_cons_cons, List.zip_nil_right, List.forall_mem_cons, List.not_mem_nil, false_implies,
    implies_true, and_true]
  refine ⟨fun h ↦ absurd h (by decide), fun h ↦ absurd h (by decide), fun h ↦ absurd h (by decide),
    fun h ↦ absurd h (by decide), fun h ↦ absurd h (by decide), fun _ ↦ hcfg _ _ _ rfl rfl,
    fun _ ↦ hcfg _ _ _ rfl rfl, fun _ ↦ hcfg _ _ _ rfl rfl, fun _ ↦ hcfg _ _ _ rfl rfl,
    fun _ ↦ hcfg _ _ _ rfl rfl, fun _ ↦ hcfg _ _ _ rfl rfl, fun _ ↦ hcfg _ _ _ rfl rfl,
    fun _ ↦ hcfg _ _ _ rfl rfl, fun _ ↦ hcfg _ _ _ rfl rfl, fun _ ↦ hcfg _ _ _ rfl rfl,
    fun _ ↦ hcfg _ _ _ rfl rfl, fun _ ↦ hcfg _ _ _ rfl rfl, fun _ ↦ hcfg _ _ _ rfl rfl,
    fun _ ↦ hcfg _ _ _ rfl rfl, fun _ ↦ henable _ _ _ rfl rfl (fun _ ↦ rfl) fun _ _ ↦ rfl,
    fun _ ↦ henable _ _ _ rfl rfl (fun _ ↦ rfl) fun _ _ ↦ rfl, fun _ ↦ hsafty,
    fun h ↦ absurd h (by decide), fun _ ↦ hcfg _ _ _ rfl rfl, fun _ ↦ hcfg _ _ _ rfl rfl,
    fun _ ↦ hcfg _ _ _ rfl rfl, fun _ ↦ hcfg _ _ _ rfl rfl, fun h ↦ absurd h (by decide)⟩

/-- With an open gate the shown word changes nothing, and every other word is normalized. -/
theorem applied_field {build : Build} {sensDn : Bool} {reg : MbReg} {value : ℕ} {s : Sys}
    (hpoint : ApplyPoint build sensDn reg value s) (hgate : gateClosed build s = false)
    (hreg : reg ∈ configRegs) (link : MbLink) (input : ApplyIn) :
    (appModbusApplyWrites build link input s).cfg.field reg =
      if value = shownWord reg (s.cfg.field reg) then s.cfg.field reg
      else normalized reg value (s.cfg.field reg) := by
  have hread : holding (countApply s) reg = value := hpoint.counted.written
  have heffect {rule : ApplyRule} (hrule : ruleOf link input reg = some rule) :
      BranchEffect reg rule (countApply s) :=
    applyRules_effect link input (countApply s) (reg, rule) (mem_of_ruleOf hrule) hreg
  obtain ⟨rule, hrule⟩ : ∃ rule, ruleOf link input reg = some rule := by
    simp only [configRegs, List.mem_cons, List.not_mem_nil, or_false] at hreg
    rcases hreg with rfl | rfl | rfl | rfl | rfl | rfl | rfl | rfl | rfl | rfl | rfl | rfl | rfl |
      rfl | rfl | rfl | rfl | rfl | rfl | rfl | rfl <;> exact ⟨_, rfl⟩
  rw [applied_cfg hgate]
  rcases pickedBranch_cases hpoint.counted link input with ⟨other, hother, hguard, hpicked⟩ |
    ⟨hclosed, hpicked⟩
  · obtain ⟨hnew, hstored⟩ := (heffect hother).opened hguard
    rw [hread] at hnew hstored
    rw [hpicked]
    exact hstored.trans (if_neg hnew).symm
  · have hkept := (heffect hrule).closed (hclosed rule hrule)
    rw [hread] at hkept
    rw [hpicked, (stagedScan_frame reg input.tStage (countApply s)).unsaved rfl]
    split_ifs with hsame
    · rfl
    · exact (hkept hsame).symm

/-! ### Read-back -/

theorem mirrorValue_config {reg : MbReg} (hreg : reg ∈ configRegs) (build : Build) (sensDn : Bool)
    (s : Sys) : mirrorValue build sensDn s reg = some (shownWord reg (s.cfg.field reg)) := by
  cases reg <;> first | rfl | exact absurd hreg (by decide)

/-- The answer to an FC 03 that reads one register holding `word`. -/
def fc03Answer (deviceAddr word : ℕ) : List UInt8 :=
  withCrc ([UInt8.ofNat deviceAddr, 3, 2] ++ wordBytes word)

theorem mbReadRegs_single {frame : List UInt8} {reg : MbReg}
    (hreg : MbReg.ofAddr (wordAt frame 2) = some reg) (hone : wordAt frame 4 = 1) (core : MbCore) :
    (mbReadRegs frame 3 core).resp = fc03Answer core.deviceAddr (core.holding reg) := by
  obtain ⟨hlt, hget⟩ := List.getElem?_eq_some_iff.mp hreg
  have hcount : wordAt frame 2 < mbRegCount := hlt
  have hwindow : (MbReg.all.drop (wordAt frame 2)).take 1 = [reg] := by
    rw [List.drop_eq_getElem_cons hlt, hget, List.take_succ_cons, List.take_zero]
  have hinside : ¬ (wordAt frame 4 = 0 ∨ wordAt frame 4 > mbRegCount ∨
      wordAt frame 2 + wordAt frame 4 > mbRegCount) := by
    unfold mbRegCount at hcount ⊢
    omega
  unfold mbReadRegs
  dsimp only
  rw [if_neg hinside, hone, hwindow, List.flatMap_singleton]
  rfl

/-- As long as its field is kept, every later FC 03 reads `word` from a register. -/
def ReadsBack (build : Build) (boot : BootIn) (reg : MbReg) (word : ℕ) (history : List Call) :
    Prop :=
  ∀ recent later mirrored,
    tickMirror build later (stateAfter build boot (recent ++ history)) = some mirrored →
    (stateAfter build boot (recent ++ history)).cfg.field reg =
      (stateAfter build boot history).cfg.field reg →
    ∀ s frame, ReadOnly mirrored s → MbReg.ofAddr (wordAt frame 2) = some reg → wordAt frame 4 = 1 →
      (mbReadRegs frame 3 s.modbus.core).resp = fc03Answer s.modbus.core.deviceAddr word

theorem readsBack_shown {reg : MbReg} (hreg : reg ∈ configRegs) (build : Build) (boot : BootIn)
    (history : List Call) :
    ReadsBack build boot reg (shownWord reg ((stateAfter build boot history).cfg.field reg))
      history := by
  intro recent later mirrored hmirrored hkept s frame hread haddr hone
  have hshown : holding mirrored reg = shownWord reg (mirrored.cfg.field reg) :=
    tickMirror_shown hmirrored reg _ (mirrorValue_config hreg build later.sensDn mirrored)
  have hword : s.modbus.core.holding reg = holding mirrored reg :=
    congrFun (holding_readOnly hread) reg
  rw [mbReadRegs_single haddr hone, hword, hshown, (stored_tickMirror hmirrored).1, hkept]

/-- Assumes: the gate is open for a request that writes a configuration register. Its field takes
the normalized value, and later reads show it, exactly if the field was normal whenever the word is
the one the register showed. -/
theorem fc06_effective_iff (build : Build) (boot : BootIn) (history : List Call)
    (input : ModbusTickIn) (link : MbLink) (reg : MbReg)
    (hlink : (modbusPass build input (stateAfter build boot history)).2 = some link)
    (hopen : gateClosed build (applyEntry build boot input history) = false)
    (hwritten : (applyEntry build boot input history).modbus.core.lastWriteAddr = some reg)
    (hreg : reg ∈ configRegs) :
    ((stateAfter build boot (.modbusTick input :: history)).cfg.field reg =
          normalized reg (holding (applyEntry build boot input history) reg)
            ((stateAfter build boot history).cfg.field reg) ∧
        ReadsBack build boot reg
          (shownWord reg (normalized reg (holding (applyEntry build boot input history) reg)
            ((stateAfter build boot history).cfg.field reg)))
          (.modbusTick input :: history)) ↔
      (holding (applyEntry build boot input history) reg =
          shownWord reg ((stateAfter build boot history).cfg.field reg) →
        FieldNormal reg ((stateAfter build boot history).cfg.field reg)) := by
  have hstored : (applyEntry build boot input history).cfg = (stateAfter build boot history).cfg :=
    (stored_modbusPass build input _).1
  obtain ⟨written, value, hpoint⟩ := after_point hlink
  obtain rfl : reg = written := Option.some.inj (hwritten.symm.trans hpoint.last)
  have hvalue : holding (applyEntry build boot input history) reg = value := hpoint.written
  have hfield := applied_field hpoint hopen hreg link input.apply
  rw [← stateAfter_apply hlink, hstored] at hfield
  rw [hvalue]
  constructor
  · rintro ⟨hnew, -⟩ hsame
    rw [hfield, if_pos hsame, hsame] at hnew
    exact (normalized_shown_iff hreg _).mp hnew.symm
  · intro hnormal
    have hnew : (stateAfter build boot (.modbusTick input :: history)).cfg.field reg =
        normalized reg value ((stateAfter build boot history).cfg.field reg) := by
      rw [hfield]
      split_ifs with hsame
      · rw [hsame]
        exact ((normalized_shown_iff hreg _).mpr (hnormal hsame)).symm
      · rfl
    refine ⟨hnew, ?_⟩
    rw [← hnew]
    exact readsBack_shown hreg build boot _

/-- DELAY1 = 600 is clamped to 500. -/
theorem delayRequest_effective :
    (stateAfter stdBuild serialBoot (requestRun (fc06 0x0A 600)).history).cfg.field .delay1 =
      normalized .delay1 (holding (applyEntry stdBuild serialBoot
        (serialIter 10 false (fc06 0x0A 600)).modbus
        (requestRun (fc06 0x0A 600)).history.tail) .delay1)
        ((stateAfter stdBuild serialBoot (requestRun (fc06 0x0A 600)).history.tail).cfg.field
          .delay1) := by
  rw [requestRun_history]
  refine ((fc06_effective_iff stdBuild serialBoot _ _ .rtu .delay1 ?_ ?_ ?_ (by decide)).mpr
    fun hsame ↦ absurd hsame ?_).1
  · decide +kernel
  · decide +kernel
  · decide +kernel
  · decide +kernel

/-- `serialBoot` with the factory energy limit of 100000. -/
def energyBoot : BootIn :=
  { serialBoot with fram := fun addr ↦ if addr = 23 then 0x01 else if addr = 24 then 0x86 else
      if addr = 25 then 0xA0 else serialBoot.fram addr }

/-- ENERGY shows 34464, the low word of the limit, and writing 34464 leaves 100000 in force. -/
theorem energyRequest_ignored :
    (modbusPass stdBuild (serialIter 10 false (fc06 0x08 34464)).modbus
        (stateAfter stdBuild energyBoot (requestRun (fc06 0x08 34464)).history.tail)).2 =
          some .rtu ∧
      gateClosed stdBuild (applyEntry stdBuild energyBoot
        (serialIter 10 false (fc06 0x08 34464)).modbus
        (requestRun (fc06 0x08 34464)).history.tail) = false ∧
      holding (applyEntry stdBuild energyBoot (serialIter 10 false (fc06 0x08 34464)).modbus
        (requestRun (fc06 0x08 34464)).history.tail) .energy = 34464 ∧
      (stateAfter stdBuild energyBoot (requestRun (fc06 0x08 34464)).history).cfg.field .energy ≠
        normalized .energy 34464 ((stateAfter stdBuild energyBoot
          (requestRun (fc06 0x08 34464)).history.tail).cfg.field .energy) := by
  refine ⟨?_, ?_, ?_, ?_⟩ <;> decide +kernel

end UsCtrl
