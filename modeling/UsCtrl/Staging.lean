import UsCtrl.CommSettings
import UsCtrl.ClosedGate

/-!
# Staged communication settings

What a CFG_CTRL commit applies, over whole runs. A Modbus tick changes the staging buffer in two
places: its head, where the buffer times out or is discarded because a link is activated
(`modbusPass_stage`), and the apply of a request behind an open gate (`stageApplied`). So the buffer
is explained by the requests applied so far (`staged_iff`): a field is staged with a value exactly
if that value was written to its register, and since then nothing was written to it and the buffer
was not cleared.

`staged_commit_atomic` is the contract of a commit. Of the calls other than SAVE, CANCEL and a DHCP
lease, only an accepted commit changes the communication settings; it moves exactly the staged
values into their fields, and a rejected one changes nothing and keeps them staged.
-/

set_option autoImplicit false
set_option relaxedAutoImplicit false

namespace UsCtrl

open Foundation

/-! ### The head of a tick -/

/-- `apply_config` wants the serial line. -/
def lineWanted (cfg : AppConfig) : Bool := decide (cfg.commMode = 0) && decide (cfg.commAddress ≠ 0)

/-- The serial line is owned at the configured speed and parity. -/
def lineHeld (s : Sys) : Bool :=
  s.modbus.applied.owned && decide (s.cfg.commSpeedIdx = s.modbus.applied.speedIdx) &&
    decide (s.cfg.commParityIdx = s.modbus.applied.parityIdx)

theorem lineHeld_iff (s : Sys) : lineHeld s = true ↔ s.modbus.applied.owned ∧
    s.cfg.commSpeedIdx = s.modbus.applied.speedIdx ∧
      s.cfg.commParityIdx = s.modbus.applied.parityIdx := by
  simp only [lineHeld, Bool.and_eq_true, decide_eq_true_eq, and_assoc]

/-- The tick acquires the serial line, or makes the TCP server active. -/
def activatesLink (s : Sys) : Bool :=
  (lineWanted s.cfg && !lineHeld s) ||
    (decide (s.cfg.commMode ≠ 0) && s.eth.available && !s.modbus.tcpActive)

/-- The staging buffer behind the head of a tick. -/
def headStage (input : ModbusTickIn) (s : Sys) : CfgStage :=
  let ticked := cfgStageTick input.tStage s.modbus.stage
  if activatesLink s then cfgStageDiscard ticked else ticked

/-- What the link decisions of a tick read is untouched by the gate and the hold watchdog. -/
theorem stageTick_link (build : Build) (input : ModbusTickIn) (s : Sys) :
    let ticked := stageTick input.tStage (holdWdtBlock input.tHold
      (remoteEnStep build input.tGate input.remoteEnPin s))
    ticked.cfg = s.cfg ∧ ticked.eth = s.eth ∧ ticked.modbus.applied = s.modbus.applied ∧
      ticked.modbus.tcpActive = s.modbus.tcpActive ∧
        ticked.modbus.stage = cfgStageTick input.tStage s.modbus.stage := by
  have heth (t : Sys) : (appRegCommand .runRelease .comm 0 t).eth = t.eth := by
    simp only [appRegCommand, runReleaseCommand]
    split_ifs <;> rfl
  have hgate (t : Sys) (ht : t = remoteEnStep build input.tGate input.remoteEnPin s) :
      t.cfg = s.cfg ∧ t.eth = s.eth ∧ t.modbus.applied = s.modbus.applied ∧
        t.modbus.tcpActive = s.modbus.tcpActive ∧ t.modbus.stage = s.modbus.stage := by
    subst ht
    unfold remoteEnStep
    cases build.model <;> exact ⟨rfl, rfl, rfl, rfl, rfl⟩
  obtain ⟨hcfg, heths, happlied, hactive, hstage⟩ := hgate _ rfl
  dsimp only
  unfold stageTick holdWdtBlock
  dsimp only
  split_ifs
  · refine ⟨(steady_regCommand _ _ _ _).1.trans hcfg, (heth _).trans heths, ?_, ?_, ?_⟩
    · exact (congrArg ModbusGlue.applied (appRegCommand_modbus _ _ _ _)).trans happlied
    · exact (congrArg ModbusGlue.tcpActive (appRegCommand_modbus _ _ _ _)).trans hactive
    · exact congrArg (cfgStageTick input.tStage)
        ((congrArg ModbusGlue.stage (appRegCommand_modbus _ _ _ _)).trans hstage)
  · exact ⟨hcfg, heths, happlied, hactive, congrArg (cfgStageTick input.tStage) hstage⟩

theorem readOnly_stage {s s' : Sys} (h : ReadOnly s s') : s'.modbus.stage = s.modbus.stage := by
  obtain ⟨_, _, _, _, rfl⟩ := h
  rfl

theorem wrote_stage {s s' : Sys} (h : Wrote s s') : s'.modbus.stage = s.modbus.stage := by
  obtain ⟨reg, value, -, mid, hbefore, hafter⟩ := h
  have hstored : (onCore (wroteCore reg value) mid).modbus.stage = mid.modbus.stage := rfl
  exact (readOnly_stage hafter).trans (hstored.trans (readOnly_stage hbefore))

theorem tcpLeave_stage (s : Sys) : (tcpLeave s).modbus.stage = s.modbus.stage := by
  unfold tcpLeave
  split_ifs <;> rfl

/-- `apply_config` owns the line exactly if it is wanted, and discards the buffer when it acquires
it. -/
theorem applyConfig_line (build : Build) (sensDn : Bool) (s : Sys) :
    let lined := applyConfig build sensDn s
    lined.cfg = s.cfg ∧ lined.eth = s.eth ∧ lined.modbus.tcpActive = s.modbus.tcpActive ∧
      lined.modbus.applied.owned = lineWanted s.cfg ∧
        lined.modbus.stage =
          if lineWanted s.cfg && !lineHeld s then cfgStageDiscard s.modbus.stage
          else s.modbus.stage := by
  have hwant : (decide (s.cfg.commMode = 0) && decide (s.cfg.commAddress ≠ 0)) =
      lineWanted s.cfg := rfl
  simp only [applyConfig, hwant, ← lineHeld_iff]
  cases hline : lineWanted s.cfg with
  | false => exact ⟨rfl, rfl, rfl, rfl, rfl⟩
  | true =>
    cases howned : lineHeld s with
    | false => exact ⟨rfl, rfl, rfl, rfl, rfl⟩
    | true =>
      have howned : s.modbus.applied.owned = true := ((lineHeld_iff s).mp howned).1
      by_cases haddr : s.cfg.commAddress ≠ s.modbus.applied.addr
      · simp only [true_and, if_true, if_pos haddr]
        exact ⟨rfl, rfl, rfl, howned, rfl⟩
      · simp only [true_and, if_true, if_neg haddr]
        exact ⟨howned, rfl⟩

/-- The head of a tick as the transports find it. -/
theorem modbusHead_line (build : Build) (input : ModbusTickIn) (s : Sys) :
    let head := modbusHead build input s
    head.cfg = s.cfg ∧ head.eth = s.eth ∧ head.modbus.tcpActive = s.modbus.tcpActive ∧
      head.modbus.applied.owned = lineWanted s.cfg ∧
        head.modbus.stage =
          if lineWanted s.cfg && !lineHeld s then
            cfgStageDiscard (cfgStageTick input.tStage s.modbus.stage)
          else cfgStageTick input.tStage s.modbus.stage := by
  obtain ⟨hcfg, heth, happlied, hactive, hstage⟩ := stageTick_link build input s
  have hline := applyConfig_line build input.sensDnAcquire (stageTick input.tStage
    (holdWdtBlock input.tHold (remoteEnStep build input.tGate input.remoteEnPin s)))
  have hheld : lineHeld (stageTick input.tStage (holdWdtBlock input.tHold
      (remoteEnStep build input.tGate input.remoteEnPin s))) = lineHeld s := by
    unfold lineHeld
    rw [hcfg, happlied]
  dsimp only at hline ⊢
  rw [hcfg, heth, hactive, hheld, hstage] at hline
  exact hline

/-- Where a tick decodes its requests, the buffer is that of its head. -/
theorem tickMirror_stage (build : Build) (input : ModbusTickIn) (s : Sys) :
    ((tickMirror build input s).getD (modbusHead build input s)).modbus.stage =
      headStage input s := by
  obtain ⟨hcfg, heth, hactive, howned, hstage⟩ := modbusHead_line build input s
  unfold tickMirror headStage activatesLink
  dsimp only
  rw [howned, hcfg, heth]
  cases hwant : lineWanted s.cfg with
  | true =>
    have hmode : s.cfg.commMode = 0 := by
      simp only [lineWanted, Bool.and_eq_true, decide_eq_true_eq] at hwant
      exact hwant.1
    have hleave :
        (mirrorLive build input.sensDn (tcpLeave (modbusHead build input s))).modbus.stage =
        (modbusHead build input s).modbus.stage := tcpLeave_stage _
    rw [if_pos rfl, Option.getD_some, hleave, hstage, hwant]
    simp [hmode]
  | false =>
    rw [hwant, Bool.false_and, if_neg Bool.false_ne_true] at hstage
    rw [if_neg Bool.false_ne_true, Bool.false_and, Bool.false_or]
    by_cases hserver : s.cfg.commMode ≠ 0 ∧ s.eth.available = true
    · rw [if_pos hserver, Option.getD_some]
      change (tcpEnter (modbusHead build input s)).modbus.stage = _
      unfold tcpEnter
      rw [hactive, hserver.2, decide_eq_true hserver.1]
      cases s.modbus.tcpActive with
      | true => exact hstage
      | false => exact congrArg cfgStageDiscard hstage
    · have hquiet : (decide (s.cfg.commMode ≠ 0) && s.eth.available) = false := by
        simpa using hserver
      rw [if_neg hserver, Option.getD_none, hquiet]
      exact hstage

/-- Up to its apply a tick times the buffer out, and discards it when it activates a link. -/
theorem modbusPass_stage (build : Build) (input : ModbusTickIn) (s : Sys) :
    (modbusPass build input s).1.modbus.stage = headStage input s := by
  rw [← tickMirror_stage build]
  cases hlink : (modbusPass build input s).2 with
  | none =>
    rcases modbusPass_readOnly hlink with ⟨mirrored, hmirrored, hread⟩ | ⟨hmirrored, hleave⟩
    · rw [hmirrored, Option.getD_some, readOnly_stage hread]
    · rw [hmirrored, Option.getD_none, hleave, tcpLeave_stage]
  | some link =>
    obtain ⟨mirrored, hmirrored, hwrote⟩ := modbusPass_wrote hlink
    rw [hmirrored, Option.getD_some, wrote_stage hwrote]

/-! ### The apply -/

/-- The staged field of a register. -/
def MbReg.stagedField (reg : MbReg) : Option CfgStg :=
  CfgStg.all.find? fun field ↦ decide (field.reg = reg)

@[simp] theorem CfgStg.reg_stagedField (field : CfgStg) : field.reg.stagedField = some field := by
  cases field <;> rfl

theorem MbReg.reg_of_stagedField {reg : MbReg} {field : CfgStg}
    (hfield : reg.stagedField = some field) : field.reg = reg := by
  have hfound : decide (field.reg = reg) = true := by simpa using List.find?_some hfield
  exact of_decide_eq_true hfound

/-- What the apply of a request does to the buffer, behind an open gate. -/
def stageApplied (link : MbLink) (running : Bool) (reg : MbReg) (value tStage : ℕ)
    (stage : CfgStage) : CfgStage :=
  match reg.stagedField with
  | some field => cfgStageWrite field value tStage stage
  | none =>
    if reg = .cfgCtrl ∧ value = 1 then (cfgStageCommit link running stage).1
    else if reg = .cfgCtrl ∧ value = 2 then cfgStageDiscard stage
    else stage

theorem stageApplied_cfgCtrl (link : MbLink) (running : Bool) (value tStage : ℕ)
    (stage : CfgStage) : stageApplied link running .cfgCtrl value tStage stage =
      if value = 1 then (cfgStageCommit link running stage).1
      else if value = 2 then cfgStageDiscard stage else stage := by
  have hstaged : MbReg.cfgCtrl.stagedField = none := rfl
  simp only [stageApplied, hstaged, true_and]

/-- A request to no staged register and not to CFG_CTRL leaves the buffer alone. -/
theorem stageApplied_other {reg : MbReg} (hstaged : reg.stagedField = none) (hctrl : reg ≠ .cfgCtrl)
    (link : MbLink) (running : Bool) (value tStage : ℕ) (stage : CfgStage) :
    stageApplied link running reg value tStage stage = stage := by
  unfold stageApplied
  rw [hstaged]
  dsimp only
  rw [if_neg fun h ↦ hctrl h.1, if_neg fun h ↦ hctrl h.1]

theorem startCmdBody_stage (value : ℕ) (input : ApplyIn) (s : Sys) :
    (startCmdBody value input s).modbus.stage = s.modbus.stage := by
  have hissued : (appLcdHookSetPot s.cfg.outputPower
      (appRegCommand .start .comm input.tCmd s)).modbus.stage = s.modbus.stage :=
    congrArg ModbusGlue.stage (appRegCommand_modbus .start .comm input.tCmd s)
  unfold startCmdBody
  split_ifs
  · exact hissued
  · exact hissued
  · rfl
  · rfl
  · rfl
  · rfl

/-- Every branch but the one of CFG_CTRL leaves the buffer alone. -/
theorem applyRules_stage (link : MbLink) (input : ApplyIn) (s : Sys) :
    ∀ entry ∈ applyKeys.zip (applyRules link input), entry.1 ≠ .cfgCtrl →
      (entry.2.act s).1.modbus.stage = s.modbus.stage := by
  have hcommand (reg : MbReg) (cmd : UsCmd) :
      (setHolding reg 0 (appRegCommand cmd .comm 0 s)).modbus.stage = s.modbus.stage := by
    change (appRegCommand cmd .comm 0 s).modbus.stage = s.modbus.stage
    rw [appRegCommand_modbus]
  have hconfig {rule : ApplyRule} (hrule : rule ∈ configRules) :
      (rule.act s).1.modbus.stage = s.modbus.stage :=
    congrArg ModbusGlue.stage (configRules_modbus s rule hrule)
  have hsplit : applyKeys.zip (applyRules link input) =
      [MbReg.reset, .seek, .start, .stop, .cfgCtrl].zip (commandRules link input) ++
        (applyKeys.drop 5).zip configRules := rfl
  intro entry hentry hctrl
  rw [hsplit] at hentry
  rcases List.mem_append.mp hentry with hrule | hrule
  · simp only [commandRules, List.zip_cons_cons, List.zip_nil_right, List.mem_cons,
      List.not_mem_nil, or_false] at hrule
    rcases hrule with rfl | rfl | rfl | rfl | rfl
    · exact hcommand .reset .reset
    · exact hcommand .seek .seek
    · exact startCmdBody_stage _ input (setHolding .start 0 s)
    · exact hcommand .stop .runRelease
    · exact absurd rfl hctrl
  · exact hconfig (List.of_mem_zip hrule).2

/-- The staged scan stages the register written last. -/
theorem stagedScan_stage {reg : MbReg} {s : Sys} (hlast : s.modbus.core.lastWriteAddr = some reg)
    (tStage : ℕ) : (stagedScan tStage s).modbus.stage =
      match reg.stagedField with
      | some field => cfgStageWrite field (holding s reg) tStage s.modbus.stage
      | none => s.modbus.stage := by
  have hfind :
      (CfgStg.all.find? fun field ↦ decide (s.modbus.core.lastWriteAddr = some field.reg)) =
      reg.stagedField := by
    rw [hlast]
    simp only [MbReg.stagedField, Option.some.injEq, eq_comm]
  unfold stagedScan
  rw [hfind]
  cases hfield : reg.stagedField with
  | none => rfl
  | some field =>
    rw [← MbReg.reg_of_stagedField hfield]
    rfl

/-- Behind an open gate the buffer moves as the request says. -/
theorem applied_stage {build : Build} {sensDn : Bool} {reg : MbReg} {value : ℕ} {s : Sys}
    (hpoint : ApplyPoint build sensDn reg value s) (hgate : gateClosed build s = false)
    (link : MbLink) (input : ApplyIn) :
    (appModbusApplyWrites build link input s).modbus.stage =
      stageApplied link s.measure.usOnStatus reg value input.tStage s.modbus.stage := by
  have hpicked : (appModbusApplyWrites build link input s).modbus.stage =
      (pickedBranch link input (countApply s)).1.modbus.stage := by
    rw [appModbusApplyWrites_open hgate]
    split_ifs <;> rfl
  have hread : holding (countApply s) reg = value := hpoint.written
  rw [hpicked]
  rcases pickedBranch_cases hpoint.counted link input with ⟨rule, hrule, -, hact⟩ | ⟨hclosed, hscan⟩
  · rw [hact]
    by_cases hctrl : reg = .cfgCtrl
    · subst hctrl
      obtain rfl := Option.some.inj hrule
      rw [stageApplied_cfgCtrl]
      change (cfgCtrlBody link (holding (countApply s) .cfgCtrl) _).1.modbus.stage = _
      rw [hread]
      unfold cfgCtrlBody
      dsimp only
      split_ifs <;> rfl
    · have hstaged : reg.stagedField = none := by
        cases hfield : reg.stagedField with
        | none => rfl
        | some field =>
          obtain rfl := MbReg.reg_of_stagedField hfield
          cases field <;> cases hrule
      rw [stageApplied_other hstaged hctrl]
      exact applyRules_stage link input (countApply s) (reg, rule) (mem_of_ruleOf hrule) hctrl
  · rw [hscan, stagedScan_stage hpoint.counted.last, hread]
    unfold stageApplied
    cases hfield : reg.stagedField with
    | some field => rfl
    | none =>
      dsimp only
      by_cases hctrl : reg = .cfgCtrl
      · subst hctrl
        have hzero : ¬ holding (countApply s) .cfgCtrl ≠ 0 := of_decide_eq_false (hclosed _ rfl)
        rw [hread, not_not] at hzero
        simp only [hzero, Nat.zero_ne_one, OfNat.zero_ne_ofNat, and_false, if_false]
        rfl
      · rw [if_neg fun h ↦ hctrl h.1, if_neg fun h ↦ hctrl h.1]
        rfl

/-! ### The commit -/

/-- What it takes for a commit to be accepted. -/
theorem cfgStageCommit_accepts (link : MbLink) (running : Bool) (stage : CfgStage) :
    (cfgStageCommit link running stage).2 = true ↔ stage.anyDirty = true ∧
      cfgStageOutOfRange stage = false ∧ cfgStageSameLink link stage = false ∧ running = false := by
  unfold cfgStageCommit
  split_ifs <;> simp_all

/-- Accepted or not, a commit keeps the values and their stamp. -/
theorem cfgStageCommit_kept (link : MbLink) (running : Bool) (stage : CfgStage) :
    (cfgStageCommit link running stage).1.val = stage.val ∧
      (cfgStageCommit link running stage).1.lastWriteMs = stage.lastWriteMs := by
  unfold cfgStageCommit
  split_ifs <;> exact ⟨rfl, rfl⟩

/-- An accepted commit leaves nothing staged. -/
theorem cfgStageCommit_clean {link : MbLink} {running : Bool} {stage : CfgStage}
    (haccepted : (cfgStageCommit link running stage).2 = true) (field : CfgStg) :
    (cfgStageCommit link running stage).1.dirty field = false := by
  unfold cfgStageCommit at haccepted ⊢
  split_ifs at haccepted ⊢
  rfl

/-- A rejected commit keeps what is staged. -/
theorem cfgStageCommit_rejects {link : MbLink} {running : Bool} {stage : CfgStage}
    (hrejected : (cfgStageCommit link running stage).2 = false) :
    (cfgStageCommit link running stage).1.dirty = stage.dirty := by
  unfold cfgStageCommit at hrejected ⊢
  split_ifs at hrejected ⊢ <;> rfl

/-- The staged value of a field is in its range. -/
def InRange : CfgStg → ℕ → Prop
  | .addr, value => 1 ≤ value ∧ value ≤ 247
  | .speed, value => value ≤ 5
  | .parity, value => value ≤ 2
  | _, _ => True

theorem inRange_of_accepts {stage : CfgStage} (hrange : cfgStageOutOfRange stage = false)
    {field : CfgStg} (hdirty : stage.dirty field = true) : InRange field (stage.val field) := by
  simp only [cfgStageOutOfRange, Bool.or_eq_false_iff, Bool.and_eq_false_iff,
    decide_eq_false_iff_not] at hrange
  obtain ⟨⟨haddr, hspeed⟩, hparity⟩ := hrange
  cases field with
  | addr =>
    obtain ⟨hlow, hhigh⟩ := haddr.resolve_left (by simp [hdirty])
    exact ⟨by omega, by omega⟩
  | speed => exact not_lt.mp (hspeed.resolve_left (by simp [hdirty]))
  | parity => exact not_lt.mp (hparity.resolve_left (by simp [hdirty]))
  | _ => trivial

/-- A commit over a link stages no field of that link. -/
theorem otherLink_of_accepts {link : MbLink} {stage : CfgStage}
    (hlink : cfgStageSameLink link stage = false) {field : CfgStg}
    (hdirty : stage.dirty field = true) : field.serial = decide (link = .tcp) := by
  cases link with
  | rtu =>
    have hnone := List.any_eq_false.mp hlink field field.mem_all
    simpa [hdirty] using hnone
  | tcp =>
    have hnone := List.any_eq_false.mp hlink field field.mem_all
    simpa [hdirty, CfgStg.ether] using hnone

/-- Assumes: the staged values are words, in range. The commit moves the staged fields and no
other. -/
theorem stgApplyToCfg_comm {stage : CfgStage} (hrange : cfgStageOutOfRange stage = false)
    (hword : ∀ field, stage.dirty field = true → stage.val field < 65536) (cfg : AppConfig)
    (field : CfgStg) : (stgApplyToCfg stage.val stage.dirty cfg).comm field =
      if stage.dirty field then (stage.val field / 256, stage.val field % 256)
      else cfg.comm field := by
  cases hdirty : stage.dirty field with
  | false => cases field <;> simp only [AppConfig.comm, stgApplyToCfg, hdirty] <;> rfl
  | true =>
    have hlow := hword field hdirty
    have hvalue := inRange_of_accepts hrange hdirty
    have hhigh : stage.val field / 256 % 256 = stage.val field / 256 := Nat.mod_eq_of_lt (by omega)
    rw [if_pos rfl]
    cases field with
    | addr =>
      have hzero : stage.val .addr / 256 = 0 := Nat.div_eq_of_lt (by have := hvalue.2; omega)
      simp only [AppConfig.comm, stgApplyToCfg, hdirty, if_true, hzero]
    | speed =>
      have hzero : stage.val .speed / 256 = 0 :=
        Nat.div_eq_of_lt (by have : stage.val .speed ≤ 5 := hvalue; omega)
      simp only [AppConfig.comm, stgApplyToCfg, hdirty, if_true, hzero]
    | parity =>
      have hzero : stage.val .parity / 256 = 0 :=
        Nat.div_eq_of_lt (by have : stage.val .parity ≤ 2 := hvalue; omega)
      simp only [AppConfig.comm, stgApplyToCfg, hdirty, if_true, hzero]
    | _ => simp only [AppConfig.comm, stgApplyToCfg, hdirty, if_true, hhigh]

theorem AppConfig.withFieldsOf_comm {reg : MbReg} (hctrl : reg ≠ .cfgCtrl) (cfg donor : AppConfig) :
    (cfg.withFieldsOf reg donor).comm = cfg.comm := by
  cases reg <;> first | rfl | exact absurd rfl hctrl

/-- Behind an open gate only an accepted CFG_CTRL = 1 changes the settings. -/
theorem applied_comm {build : Build} {sensDn : Bool} {reg : MbReg} {value : ℕ} {s : Sys}
    (hpoint : ApplyPoint build sensDn reg value s) (hgate : gateClosed build s = false)
    (link : MbLink) (input : ApplyIn) :
    (appModbusApplyWrites build link input s).cfg.comm =
      if reg = .cfgCtrl ∧ value = 1 ∧
          (cfgStageCommit link s.measure.usOnStatus s.modbus.stage).2 = true then
        (stgApplyToCfg s.modbus.stage.val s.modbus.stage.dirty s.cfg).comm
      else s.cfg.comm := by
  by_cases hctrl : reg = .cfgCtrl
  · subst hctrl
    by_cases hvalue : value = 1
    · subst hvalue
      have hread : holding (countApply s) .cfgCtrl = 1 := hpoint.written
      have hpicked : pickedBranch link input (countApply s) =
          cfgCtrlBody link (holding (countApply s) .cfgCtrl)
            (setHolding .cfgCtrl 0 (countApply s)) :=
        applyChain_open hpoint.counted rfl (by
          change decide (holding (countApply s) .cfgCtrl ≠ 0) = true
          rw [hread]
          rfl)
      rw [applied_cfg hgate, hpicked, hread]
      simp only [cfgCtrlBody, if_true, true_and]
      split_ifs with hbody haccepted haccepted
      · change (stgApplyToCfg (cfgStageCommit link s.measure.usOnStatus s.modbus.stage).1.val
          s.modbus.stage.dirty s.cfg).comm = _
        rw [(cfgStageCommit_kept _ _ _).1]
      · exact absurd hbody haccepted
      · exact absurd haccepted hbody
      · rfl
    · rw [if_neg fun h ↦ hvalue h.2.1, (applied_isolated hpoint hgate link input).commit rfl hvalue]
  · rw [if_neg fun h ↦ hctrl h.1, (applied_isolated hpoint hgate link input).cfg,
      AppConfig.withFieldsOf_comm hctrl]

/-! ### Requests along a run -/

/-- The request that a tick applies behind an open gate: its link, register and value. -/
def appliedRequest (build : Build) (input : ModbusTickIn) (s : Sys) : Option (MbLink × MbReg × ℕ) :=
  let pass := modbusPass build input s
  match pass.2, pass.1.modbus.core.lastWriteAddr with
  | some link, some reg =>
    if gateClosed build pass.1 then none else some (link, reg, holding pass.1 reg)
  | _, _ => none

/-- The answer of `cfg_stage_commit` to a request. -/
def acceptsCommit (build : Build) (input : ModbusTickIn) (s : Sys) : Bool :=
  match appliedRequest build input s with
  | some (link, reg, value) => decide (reg = .cfgCtrl) && decide (value = 1) &&
    (cfgStageCommit link (modbusPass build input s).1.measure.usOnStatus (headStage input s)).2
  | none => false

/-- The settings and the buffer behind a tick. -/
theorem stateAfter_request {build : Build} {boot : BootIn} (input : ModbusTickIn)
    (past : List Call) :
    (∀ link reg value, appliedRequest build input (stateAfter build boot past) =
        some (link, reg, value) →
      value < 65536 ∧
      (stateAfter build boot (.modbusTick input :: past)).modbus.stage =
        stageApplied link (applyEntry build boot input past).measure.usOnStatus reg value
          input.apply.tStage (headStage input (stateAfter build boot past)) ∧
      (stateAfter build boot (.modbusTick input :: past)).cfg.comm =
        if acceptsCommit build input (stateAfter build boot past) then
          (stgApplyToCfg (headStage input (stateAfter build boot past)).val
            (headStage input (stateAfter build boot past)).dirty
            (stateAfter build boot past).cfg).comm
        else (stateAfter build boot past).cfg.comm) ∧
    (appliedRequest build input (stateAfter build boot past) = none →
      (stateAfter build boot (.modbusTick input :: past)).modbus.stage =
        headStage input (stateAfter build boot past) ∧
      (stateAfter build boot (.modbusTick input :: past)).cfg.comm =
        (stateAfter build boot past).cfg.comm) := by
  have hstage : (applyEntry build boot input past).modbus.stage =
      headStage input (stateAfter build boot past) := modbusPass_stage build input _
  have hcfg : (applyEntry build boot input past).cfg = (stateAfter build boot past).cfg :=
    (stored_modbusPass build input _).1
  cases hlink : (modbusPass build input (stateAfter build boot past)).2 with
  | none =>
    have hnone : appliedRequest build input (stateAfter build boot past) = none := by
      simp only [appliedRequest, hlink]
    have hafter : stateAfter build boot (.modbusTick input :: past) =
        applyEntry build boot input past := by
      change appModbusTick build input (stateAfter build boot past) = _
      rw [appModbusTick_eq_pass, finishPass, hlink]
    rw [hafter, hnone]
    exact ⟨by rintro _ _ _ ⟨⟩, fun _ ↦ ⟨hstage, congrArg AppConfig.comm hcfg⟩⟩
  | some served =>
    obtain ⟨written, word, hpoint⟩ := after_point hlink
    have hrequest : appliedRequest build input (stateAfter build boot past) =
        if gateClosed build (applyEntry build boot input past) then none
        else some (served, written, word) := by
      simp only [appliedRequest, hlink, hpoint.last]
      rw [show holding (modbusPass build input (stateAfter build boot past)).1 written = word from
        hpoint.written]
    rw [stateAfter_apply hlink]
    cases hgate : gateClosed build (applyEntry build boot input past) with
    | true =>
      have hclosed : appModbusApplyWrites build served input.apply
          (applyEntry build boot input past) =
            gateRejectBody (countApply (applyEntry build boot input past)) := by
        unfold appModbusApplyWrites
        rw [hgate, if_pos rfl]
      rw [hgate, if_pos rfl] at hrequest
      rw [hrequest, hclosed, gateRejectBody_modbus]
      refine ⟨by rintro _ _ _ ⟨⟩, fun _ ↦ ⟨hstage, ?_⟩⟩
      rw [(stored_gateRejectBody _).1]
      exact congrArg AppConfig.comm hcfg
    | false =>
      rw [hgate, if_neg Bool.false_ne_true] at hrequest
      refine ⟨fun link reg value hsome ↦ ?_, fun hnone ↦ ?_⟩
      · rw [hrequest] at hsome
        obtain ⟨rfl, rfl, rfl⟩ : served = link ∧ written = reg ∧ word = value := by
          simpa using hsome
        refine ⟨hpoint.bound, ?_, ?_⟩
        · rw [applied_stage hpoint hgate, hstage]
        · rw [applied_comm hpoint hgate, hstage, hcfg]
          simp only [acceptsCommit, hrequest, Bool.and_eq_true, decide_eq_true_eq, and_assoc]
      · rw [hrequest] at hnone
        cases hnone

/-- The field and the value that a tick stages. -/
def stagedWrite (build : Build) (input : ModbusTickIn) (s : Sys) : Option (CfgStg × ℕ) :=
  (appliedRequest build input s).bind fun (_, reg, value) ↦ reg.stagedField.map (·, value)

/-- The tick applies CFG_CTRL = 2. -/
def discardsStage (build : Build) (input : ModbusTickIn) (s : Sys) : Prop :=
  ∃ link, appliedRequest build input s = some (link, .cfgCtrl, 2)

/-- The tick finds the buffer timed out, `lastMs` being the time of the last staged write, or
activates a link: what was staged before it is gone when a request is applied. -/
def headClears (input : ModbusTickIn) (lastMs : ℕ) (s : Sys) : Prop :=
  elapsedMs input.tStage lastMs ≥ cfgStageTimeoutMs ∨ activatesLink s = true

/-- The tick clears the buffer, at its head or by its request. -/
def clearsStage (build : Build) (input : ModbusTickIn) (lastMs : ℕ) (s : Sys) : Prop :=
  headClears input lastMs s ∨ discardsStage build input s ∨ acceptsCommit build input s = true

theorem headStage_dirty (input : ModbusTickIn) (s : Sys) (field : CfgStg) :
    (headStage input s).dirty field = true ↔
      s.modbus.stage.dirty field = true ∧ ¬ headClears input s.modbus.stage.lastWriteMs s := by
  have hclean (hnone : s.modbus.stage.anyDirty = false) : s.modbus.stage.dirty field = false :=
    Bool.eq_false_iff.mpr (List.any_eq_false.mp hnone field field.mem_all)
  have hticked : (cfgStageTick input.tStage s.modbus.stage).dirty field = true ↔
      s.modbus.stage.dirty field = true ∧
        ¬ elapsedMs input.tStage s.modbus.stage.lastWriteMs ≥ cfgStageTimeoutMs := by
    unfold cfgStageTick
    split_ifs with hnone hold
    · simp [hclean hnone]
    · simp [hold]
    · simp [hold]
  unfold headStage headClears
  dsimp only
  cases activatesLink s with
  | true => simp [cfgStageDiscard]
  | false => simpa using hticked

theorem headStage_val (input : ModbusTickIn) (s : Sys) :
    (headStage input s).val = s.modbus.stage.val ∧
      (headStage input s).lastWriteMs = s.modbus.stage.lastWriteMs := by
  unfold headStage cfgStageTick
  dsimp only
  split_ifs <;> exact ⟨rfl, rfl⟩

/-- What is staged behind the head of a tick. -/
theorem headStage_staged (input : ModbusTickIn) (s : Sys) (field : CfgStg) (value : ℕ) :
    ((headStage input s).dirty field = true ∧ (headStage input s).val field = value) ↔
      ¬ headClears input s.modbus.stage.lastWriteMs s ∧
        s.modbus.stage.dirty field = true ∧ s.modbus.stage.val field = value := by
  rw [headStage_dirty, (headStage_val input s).1, and_assoc, and_left_comm]

/-- The request clears the buffer. -/
def requestClears (link : MbLink) (running : Bool) (reg : MbReg) (word : ℕ) (stage : CfgStage) :
    Prop :=
  reg = .cfgCtrl ∧ (word = 2 ∨ word = 1 ∧ (cfgStageCommit link running stage).2 = true)

/-- One request: a field is staged with a value behind it exactly if the request staged it so, or
staged it not at all, did not clear the buffer and found it staged so. -/
theorem stageApplied_staged (link : MbLink) (running : Bool) (reg : MbReg) (word tStage : ℕ)
    (stage : CfgStage) (field : CfgStg) (value : ℕ) :
    ((stageApplied link running reg word tStage stage).dirty field = true ∧
        (stageApplied link running reg word tStage stage).val field = value) ↔
      reg.stagedField = some field ∧ word = value ∨
        reg.stagedField ≠ some field ∧ ¬ requestClears link running reg word stage ∧
          stage.dirty field = true ∧ stage.val field = value := by
  cases hfield : reg.stagedField with
  | some written =>
    have hctrl : ¬ requestClears link running reg word stage := by
      rintro ⟨rfl, -⟩
      cases hfield
    simp only [stageApplied, hfield, cfgStageWrite]
    by_cases hsame : field = written
    · subst hsame
      simp
    · rw [Function.update_of_ne hsame, Function.update_of_ne hsame]
      simp [hctrl, Ne.symm hsame]
  | none =>
    by_cases hctrl : reg = .cfgCtrl
    · subst hctrl
      rw [stageApplied_cfgCtrl]
      by_cases hcommit : word = 1
      · subst hcommit
        cases hanswer : (cfgStageCommit link running stage).2 with
        | true => simp [requestClears, hanswer, cfgStageCommit_clean hanswer field]
        | false =>
          simp [requestClears, hanswer, cfgStageCommit_rejects hanswer,
            (cfgStageCommit_kept link running stage).1]
      · by_cases hdiscard : word = 2
        · simp [requestClears, hdiscard, cfgStageDiscard]
        · simp [requestClears, hcommit, hdiscard]
    · rw [stageApplied_other hfield hctrl]
      simp [requestClears, hctrl]

/-- One tick: a field is staged with a value behind it exactly if the tick staged it so, or staged
it not at all, did not clear the buffer and found it staged so. -/
theorem stage_step {build : Build} {boot : BootIn} (input : ModbusTickIn) (past : List Call)
    (field : CfgStg) (value : ℕ) :
    let before := stateAfter build boot past
    let after := stateAfter build boot (.modbusTick input :: past)
    (after.modbus.stage.dirty field = true ∧ after.modbus.stage.val field = value) ↔
      stagedWrite build input before = some (field, value) ∨
        (∀ other, stagedWrite build input before ≠ some (field, other)) ∧
          ¬ clearsStage build input before.modbus.stage.lastWriteMs before ∧
            before.modbus.stage.dirty field = true ∧ before.modbus.stage.val field = value := by
  intro before after
  obtain ⟨hsome, hnone⟩ := @stateAfter_request build boot input past
  have hstaged := headStage_staged input before field value
  cases hrequest : appliedRequest build input before with
  | none =>
    have hstage : after.modbus.stage = headStage input before := (hnone hrequest).1
    rw [hstage, hstaged]
    simp [stagedWrite, clearsStage, discardsStage, acceptsCommit, hrequest]
  | some request =>
    obtain ⟨link, reg, word⟩ := request
    obtain ⟨-, hstage, -⟩ := hsome link reg word hrequest
    have hwrite (other : ℕ) : stagedWrite build input before = some (field, other) ↔
        reg.stagedField = some field ∧ word = other := by
      simp [stagedWrite, hrequest]
    have hclears : discardsStage build input before ∨ acceptsCommit build input before = true ↔
        requestClears link (applyEntry build boot input past).measure.usOnStatus reg word
          (headStage input before) := by
      simp only [discardsStage, acceptsCommit, hrequest, requestClears, Option.some.injEq,
        Prod.mk.injEq, Bool.and_eq_true, decide_eq_true_eq, exists_eq_left', and_assoc]
      exact and_or_left.symm
    change after.modbus.stage = _ at hstage
    rw [hstage, stageApplied_staged, hstaged, ← hclears]
    have hunstaged : (∀ other, stagedWrite build input before ≠ some (field, other)) ↔
        reg.stagedField ≠ some field := by
      simp only [ne_eq, hwrite, not_and]
      exact ⟨fun h hreg ↦ h word hreg rfl, fun h _ hreg ↦ absurd hreg h⟩
    rw [hwrite, hunstaged]
    simp only [clearsStage, not_or]
    refine or_congr Iff.rfl (and_congr_right fun _ ↦ ?_)
    constructor
    · rintro ⟨hrequest, hhead, hpast⟩
      exact ⟨⟨hhead, hrequest⟩, hpast⟩
    · rintro ⟨⟨hhead, hrequest⟩, hpast⟩
      exact ⟨hrequest, hhead, hpast⟩

/-! ### What is staged, from the requests -/

section Events

variable (build : Build) (boot : BootIn)

/-- The newest call stages a value for a field. -/
def stages (field : CfgStg) (value : ℕ) : Past Call := newest build boot fun call s _ ↦
  match call with
  | .modbusTick input => stagedWrite build input s = some (field, value)
  | _ => False

/-- The time of the last staged write. -/
def lastStagedMs : List Call → ℕ
  | [] => 0
  | call :: past =>
    match call with
    | .modbusTick input =>
      if (stagedWrite build input (stateAfter build boot past)).isSome then input.apply.tStage
      else lastStagedMs past
    | _ => lastStagedMs past

/-- The newest call clears the buffer. -/
def clears : Past Call
  | [] => False
  | call :: past =>
    match call with
    | .modbusTick input =>
      clearsStage build input (lastStagedMs build boot past) (stateAfter build boot past)
    | _ => False

/-- The value was staged for the field, and since then nothing was staged for it and the buffer was
not cleared. -/
def StagedAs (field : CfgStg) (value : ℕ) : Past Call :=
  since (fun h ↦ (∀ other, ¬ stages build boot field other h) ∧ ¬ clears build boot h)
    (stages build boot field value)

variable {build boot}

/-- A request changes the time stamp exactly if it writes the buffer. -/
theorem stageApplied_lastWriteMs (link : MbLink) (running : Bool) (reg : MbReg) (word tStage : ℕ)
    (stage : CfgStage) : (stageApplied link running reg word tStage stage).lastWriteMs =
      if reg.stagedField.isSome then tStage else stage.lastWriteMs := by
  unfold stageApplied
  cases reg.stagedField with
  | some written => rfl
  | none =>
    rw [Option.isSome_none, if_neg Bool.false_ne_true]
    dsimp only
    split_ifs
    · exact (cfgStageCommit_kept link running stage).2
    · rfl
    · rfl

theorem boot_stage (build : Build) (boot : BootIn) :
    (bootState build boot).modbus.stage = cfgStageInit := by
  have hinit : (appInit boot (resetState build boot)).modbus.stage = cfgStageInit :=
    congrArg ModbusGlue.stage ((blind_initMode boot.tPage).modbus _)
  refine (applyConfig_line build boot.sensDn _).2.2.2.2.trans ?_
  rw [hinit]
  split_ifs <;> rfl

/-- The buffer stamps its last write. -/
theorem lastWriteMs_eq (history : List Call) :
    (stateAfter build boot history).modbus.stage.lastWriteMs = lastStagedMs build boot history := by
  induction history with
  | nil => exact congrArg CfgStage.lastWriteMs (boot_stage build boot)
  | cons call past ih =>
    by_cases hkind : call.kind = .modbus
    · cases call with
      | modbusTick input =>
        obtain ⟨hsome, hnone⟩ := @stateAfter_request build boot input past
        have hhead := (headStage_val input (stateAfter build boot past)).2.trans ih
        unfold lastStagedMs
        dsimp only
        cases hrequest : appliedRequest build input (stateAfter build boot past) with
        | none =>
          rw [(hnone hrequest).1, hhead]
          simp [stagedWrite, hrequest]
        | some request =>
          obtain ⟨link, reg, word⟩ := request
          obtain ⟨-, hstage, -⟩ := hsome link reg word hrequest
          rw [hstage, stageApplied_lastWriteMs, hhead]
          simp [stagedWrite, hrequest]
      | _ => cases hkind
    · have hkept : (stateAfter build boot (call :: past)).modbus.stage =
          (stateAfter build boot past).modbus.stage :=
        congrArg ModbusGlue.stage (exec_modbus build hkind _)
      rw [hkept, ih]
      cases call <;> first | rfl | exact absurd rfl hkind

/-- A field is staged with a value exactly if the requests of the run say so. -/
theorem staged_iff (history : List Call) (field : CfgStg) (value : ℕ) :
    StagedAs build boot field value history ↔
      (stateAfter build boot history).modbus.stage.dirty field = true ∧
        (stateAfter build boot history).modbus.stage.val field = value := by
  induction history with
  | nil =>
    have hclean : (stateAfter build boot []).modbus.stage.dirty field = false :=
      congrArg (fun stage ↦ stage.dirty field) (boot_stage build boot)
    rw [hclean]
    exact iff_of_false (since_nil _ _) (fun h ↦ absurd h.1 Bool.false_ne_true)
  | cons call past ih =>
    rw [StagedAs, since_cons, ← StagedAs, ih]
    by_cases hkind : call.kind = .modbus
    · cases call with
      | modbusTick input =>
        have hstep := @stage_step build boot input past field value
        dsimp only at hstep
        rw [hstep, lastWriteMs_eq, and_assoc]
        rfl
      | _ => cases hkind
    · have hkept : (stateAfter build boot (call :: past)).modbus.stage =
          (stateAfter build boot past).modbus.stage :=
        congrArg ModbusGlue.stage (exec_modbus build hkind _)
      have hsilent (other : ℕ) : ¬ stages build boot field other (call :: past) := by
        cases call <;> first | exact id | exact absurd rfl hkind
      have huncleared : ¬ clears build boot (call :: past) := by
        cases call <;> first | exact id | exact absurd rfl hkind
      rw [hkept]
      constructor
      · rintro (hnow | ⟨-, hpast⟩)
        · exact absurd hnow (hsilent value)
        · exact hpast
      · exact fun hpast ↦ Or.inr ⟨⟨hsilent, huncleared⟩, hpast⟩

/-- A staged value is a word. -/
theorem stagedAs_word {history : List Call} {field : CfgStg} {value : ℕ}
    (hstaged : StagedAs build boot field value history) : value < 65536 := by
  refine since_induction (fun _ ↦ value < 65536) ?_ (fun _ _ _ h ↦ h) history hstaged
  intro call past hnow
  cases call with
  | modbusTick input =>
    change stagedWrite build input _ = _ at hnow
    obtain ⟨⟨link, reg, word⟩, hrequest, hwrite⟩ := Option.bind_eq_some_iff.mp hnow
    obtain ⟨written, -, heq⟩ := Option.map_eq_some_iff.mp hwrite
    obtain ⟨-, rfl⟩ := Prod.mk.inj heq
    exact ((stateAfter_request input past).1 link reg _ hrequest).1
  | _ => exact absurd hnow id

/-! ### The age of what is staged -/

/-- The last Modbus tick of a run. -/
def lastTick : List Call → Option ModbusTickIn
  | [] => none
  | call :: past =>
    match call with
    | .modbusTick input => some input
    | _ => lastTick past

/-- The Modbus ticks of the run come so soon after each other that the millisecond counter cannot
run past the timeout unseen. -/
def TicksFollow : List Call → Prop
  | [] => True
  | call :: past =>
    TicksFollow past ∧
      match call with
      | .modbusTick input => ∀ older, lastTick past = some older →
        input.tStage + cfgStageTimeoutMs < older.tStage + 2 ^ 32
      | _ => True

/-- Each call either makes the last staged write or keeps it. -/
theorem lastStagedMs_cons (call : Call) (past : List Call) :
    (∃ input, call = .modbusTick input ∧
        lastStagedMs build boot (call :: past) = input.apply.tStage) ∨
      lastStagedMs build boot (call :: past) = lastStagedMs build boot past := by
  cases call with
  | modbusTick input =>
    cases hwrite : (stagedWrite build input (stateAfter build boot past)).isSome with
    | true => exact Or.inl ⟨input, rfl, if_pos hwrite⟩
    | false => exact Or.inr (if_neg (by rw [hwrite]; exact Bool.false_ne_true))
  | _ => exact Or.inr rfl

theorem stages_lastStagedMs {input : ModbusTickIn} {past : List Call} {field : CfgStg} {value : ℕ}
    (hnow : stages build boot field value (.modbusTick input :: past)) :
    lastStagedMs build boot (.modbusTick input :: past) = input.apply.tStage :=
  if_pos (by rw [show stagedWrite build input _ = _ from hnow]; rfl)

theorem tStage_mem_reads (input : ModbusTickIn) :
    input.tStage ∈ (Call.modbusTick input).reads ∧
      input.apply.tStage ∈ (Call.modbusTick input).reads := by
  simp [Call.reads, ApplyIn.reads]

/-- The last staged write was made by a call of the run. -/
theorem mem_lastStagedMs {history : List Call} {field : CfgStg} {value : ℕ}
    (hstaged : StagedAs build boot field value history) :
    ∃ call ∈ history, lastStagedMs build boot history ∈ call.reads := by
  refine since_induction (fun h ↦ ∃ call ∈ h, lastStagedMs build boot h ∈ call.reads) ?_ ?_
    history hstaged
  · intro call past hnow
    cases call with
    | modbusTick input =>
      refine ⟨_, List.mem_cons_self, ?_⟩
      rw [stages_lastStagedMs hnow]
      exact (tStage_mem_reads input).2
    | _ => exact absurd hnow id
  · rintro call past - ⟨older, holder, hread⟩
    rcases @lastStagedMs_cons build boot call past with ⟨input, rfl, hlast⟩ | hlast
    · refine ⟨_, List.mem_cons_self, ?_⟩
      rw [hlast]
      exact (tStage_mem_reads input).2
    · rw [hlast]
      exact ⟨older, List.mem_cons_of_mem _ holder, hread⟩

/-- Assumes: the tick before is younger than the timeout, and the ticks follow each other. Then the
counter reads the true age, and an unexpired buffer is younger than the timeout. -/
theorem young_of_unexpired {input older : ModbusTickIn} {past : List Call} {field : CfgStg}
    {value : ℕ} (hchron : Chronological (.modbusTick input :: past))
    (hgap : input.tStage + cfgStageTimeoutMs < older.tStage + 2 ^ 32)
    (hstaged : StagedAs build boot field value past)
    (holder : older.tStage < lastStagedMs build boot past + cfgStageTimeoutMs)
    (hhead : ¬ headClears input (lastStagedMs build boot past) (stateAfter build boot past)) :
    input.tStage < lastStagedMs build boot past + cfgStageTimeoutMs := by
  obtain ⟨call, hcall, hread⟩ := mem_lastStagedMs hstaged
  have hle : lastStagedMs build boot past ≤ input.tStage :=
    hchron.le (tStage_mem_reads input).1 hcall hread
  have hfresh : ¬ elapsedMs input.tStage (lastStagedMs build boot past) ≥ cfgStageTimeoutMs :=
    fun hold ↦ hhead (Or.inl hold)
  rw [elapsedMs_of_le hle (by omega)] at hfresh
  omega

/-- While something is staged, the last Modbus tick is younger than the timeout. -/
theorem lastTick_young {history : List Call} {field : CfgStg} {value : ℕ}
    (hstaged : StagedAs build boot field value history) (hchron : Chronological history)
    (hfollow : TicksFollow history) : ∃ tick, lastTick history = some tick ∧
      tick.tStage < lastStagedMs build boot history + cfgStageTimeoutMs := by
  induction history with
  | nil => exact absurd hstaged (since_nil _ _)
  | cons call past ih =>
    by_cases hkind : call.kind = .modbus
    · cases call with
      | modbusTick input =>
        refine ⟨input, rfl, ?_⟩
        have horder : input.tStage ≤ input.apply.tStage :=
          (List.pairwise_append.mp hchron.reads).2.2 _ (List.mem_append_left _ (by simp)) _
            (by simp [ApplyIn.reads])
        rcases @lastStagedMs_cons build boot (.modbusTick input) past with ⟨_, heq, hlast⟩ | hlast
        · obtain rfl := Call.modbusTick.inj heq
          rw [hlast]
          unfold cfgStageTimeoutMs
          omega
        · rcases hstaged with hnow | ⟨hhold, hpast⟩
          · rw [stages_lastStagedMs hnow]
            unfold cfgStageTimeoutMs
            omega
          · obtain ⟨older, holder, hyoung⟩ := ih hpast hchron.tail hfollow.1
            rw [hlast]
            exact young_of_unexpired hchron (hfollow.2 older holder) hpast hyoung
              fun hhead ↦ hhold.2 (Or.inl hhead)
      | _ => cases hkind
    · have hpast : StagedAs build boot field value past := by
        rcases hstaged with hnow | ⟨-, hpast⟩
        · cases call <;> first | exact absurd hnow id | exact absurd rfl hkind
        · exact hpast
      obtain ⟨tick, htick, hyoung⟩ := ih hpast hchron.tail hfollow.1
      refine ⟨tick, ?_, ?_⟩
      · cases call <;> first | exact htick | exact absurd rfl hkind
      · cases call <;> first | exact hyoung | exact absurd rfl hkind

/-- Assumes: the clock never goes backwards and the Modbus ticks follow each other. What is staged
when a tick applies its request was last written less than the timeout before that tick. -/
theorem staged_young {input : ModbusTickIn} {past : List Call} {field : CfgStg} {value : ℕ}
    (hchron : Chronological (.modbusTick input :: past))
    (hfollow : TicksFollow (.modbusTick input :: past))
    (hstaged : StagedAs build boot field value past)
    (hhead : ¬ headClears input (lastStagedMs build boot past) (stateAfter build boot past)) :
    input.tStage < lastStagedMs build boot past + cfgStageTimeoutMs := by
  obtain ⟨older, holder, hyoung⟩ := lastTick_young hstaged hchron.tail hfollow.1
  exact young_of_unexpired hchron (hfollow.2 older holder) hstaged hyoung hhead

end Events

/-! ### The contract of a commit -/

section Contract

variable (build : Build) (boot : BootIn)

/-- The value is staged for the field when the tick applies its request. -/
def StagedLive (input : ModbusTickIn) (past : List Call) (field : CfgStg) (value : ℕ) : Prop :=
  StagedAs build boot field value past ∧
    ¬ headClears input (lastStagedMs build boot past) (stateAfter build boot past)

/-- The tick applies CFG_CTRL = 1, over the given link and behind an open gate. -/
def appliesCommit (link : MbLink) (input : ModbusTickIn) (past : List Call) : Prop :=
  appliedRequest build input (stateAfter build boot past) = some (link, .cfgCtrl, 1)

/-- What an applied CFG_CTRL = 1 does: accepted, it moves the staged values into their fields, which
are in range and none of the link it came in over; rejected, it changes nothing and keeps them
staged. -/
structure CommitAtomic (link : MbLink) (input : ModbusTickIn) (past : List Call) : Prop where
  staged : acceptsCommit build input (stateAfter build boot past) = true →
    ∀ field value, StagedLive build boot input past field value → InRange field value ∧
      (stateAfter build boot (.modbusTick input :: past)).cfg.comm field =
        (value / 256, value % 256)
  unstaged : acceptsCommit build input (stateAfter build boot past) = true →
    ∀ field, (∀ value, ¬ StagedLive build boot input past field value) →
      (stateAfter build boot (.modbusTick input :: past)).cfg.comm field =
        (stateAfter build boot past).cfg.comm field
  ownLink : ∀ field : CfgStg, field.serial = decide (link = .rtu) →
    (stateAfter build boot (.modbusTick input :: past)).cfg.comm field =
      (stateAfter build boot past).cfg.comm field
  rejected : acceptsCommit build input (stateAfter build boot past) = false →
    (stateAfter build boot (.modbusTick input :: past)).cfg.comm =
        (stateAfter build boot past).cfg.comm ∧
      ∀ field value, StagedAs build boot field value (.modbusTick input :: past) ↔
        StagedLive build boot input past field value

variable {build boot}

/-- What is staged when the request is applied is what the head of the tick leaves. -/
theorem stagedLive_iff {input : ModbusTickIn} {past : List Call} (field : CfgStg) (value : ℕ) :
    StagedLive build boot input past field value ↔
      (headStage input (stateAfter build boot past)).dirty field = true ∧
        (headStage input (stateAfter build boot past)).val field = value := by
  rw [headStage_staged, lastWriteMs_eq, StagedLive, staged_iff, and_comm]

theorem commit_atomic {link : MbLink} {input : ModbusTickIn} {past : List Call}
    (happlies : appliesCommit build boot link input past) :
    CommitAtomic build boot link input past := by
  obtain ⟨-, hstage, hcomm⟩ := (stateAfter_request input past).1 link .cfgCtrl 1 happlies
  rw [stageApplied_cfgCtrl, if_pos rfl] at hstage
  have hlive := @stagedLive_iff build boot input past
  have hanswer : acceptsCommit build input (stateAfter build boot past) =
      (cfgStageCommit link (applyEntry build boot input past).measure.usOnStatus
        (headStage input (stateAfter build boot past))).2 := by
    simp [acceptsCommit, show appliedRequest build input _ = _ from happlies]
  cases haccepts : acceptsCommit build input (stateAfter build boot past) with
  | true =>
    rw [haccepts, if_pos rfl] at hcomm
    obtain ⟨-, hrange, hlink, -⟩ := (cfgStageCommit_accepts _ _ _).mp (hanswer.symm.trans haccepts)
    have hmoved := stgApplyToCfg_comm hrange
      (fun field hdirty ↦ stagedAs_word ((hlive field _).mpr ⟨hdirty, rfl⟩).1)
      (stateAfter build boot past).cfg
    rw [← hcomm] at hmoved
    refine ⟨fun _ field value hstaged ↦ ?_, fun _ field hnone ↦ ?_, fun field hown ↦ ?_,
      fun h ↦ absurd (haccepts.symm.trans h) (by decide)⟩
    · obtain ⟨hdirty, rfl⟩ := (hlive field value).mp hstaged
      rw [hmoved, if_pos hdirty]
      exact ⟨inRange_of_accepts hrange hdirty, rfl⟩
    · rw [hmoved, if_neg fun hdirty ↦ hnone _ ((hlive field _).mpr ⟨hdirty, rfl⟩)]
    · rw [hmoved, if_neg fun hdirty ↦ ?_]
      have hother := otherLink_of_accepts hlink hdirty
      rw [hown] at hother
      cases link <;> exact absurd hother (by decide)
  | false =>
    rw [haccepts, if_neg Bool.false_ne_true] at hcomm
    refine ⟨fun h ↦ absurd (haccepts.symm.trans h) (by decide),
      fun h ↦ absurd (haccepts.symm.trans h) (by decide), fun field _ ↦ congrFun hcomm field,
      fun _ ↦ ⟨hcomm, fun field value ↦ ?_⟩⟩
    have hrejected := hanswer.symm.trans haccepts
    rw [staged_iff, hstage, cfgStageCommit_rejects hrejected, (cfgStageCommit_kept _ _ _).1, hlive]

/-- Only an accepted commit sets COMMIT_OK. -/
theorem stageApplied_stat {link : MbLink} {running : Bool} {reg : MbReg} {word tStage : ℕ}
    {stage : CfgStage}
    (hok : (stageApplied link running reg word tStage stage).stat = .commitOk) :
    stage.stat = .commitOk ∨
      reg = .cfgCtrl ∧ word = 1 ∧ (cfgStageCommit link running stage).2 = true := by
  unfold stageApplied at hok
  cases hfield : reg.stagedField with
  | some written =>
    rw [hfield] at hok
    cases hok
  | none =>
    rw [hfield] at hok
    dsimp only at hok
    split_ifs at hok with hcommit hdiscard
    · unfold cfgStageCommit at hok ⊢
      split_ifs at hok ⊢
      · exact Or.inl hok
      · exact Or.inr ⟨hcommit.1, hcommit.2, rfl⟩
    · cases hok
    · exact Or.inl hok

theorem headStage_stat {input : ModbusTickIn} {s : Sys}
    (hok : (headStage input s).stat = .commitOk) : s.modbus.stage.stat = .commitOk := by
  unfold headStage at hok
  dsimp only at hok
  split_ifs at hok
  · cases hok
  · unfold cfgStageTick at hok
    split_ifs at hok
    · exact hok
    · exact hok

theorem appliesCommit_of_accepts {input : ModbusTickIn} {past : List Call}
    (haccepts : acceptsCommit build input (stateAfter build boot past) = true) :
    ∃ link, appliesCommit build boot link input past := by
  unfold acceptsCommit at haccepts
  cases hrequest : appliedRequest build input (stateAfter build boot past) with
  | none =>
    rw [hrequest] at haccepts
    cases haccepts
  | some request =>
    obtain ⟨link, reg, word⟩ := request
    rw [hrequest] at haccepts
    simp only [Bool.and_eq_true, decide_eq_true_eq] at haccepts
    obtain ⟨⟨rfl, rfl⟩, -⟩ := haccepts
    exact ⟨link, hrequest⟩

end Contract

/-- Assumes: the newest call of a run is no SAVE or CANCEL and assigns no DHCP lease. It changes the
communication settings only by an accepted CFG_CTRL = 1, which is all or nothing, takes the last
staged values, and commits nothing that was staged before the last clear, link activation or
timeout; and only such a commit makes CFG_STAT read COMMIT_OK. -/
theorem staged_commit_atomic (build : Build) (boot : BootIn) (history : List Call) (call : Call)
    (hsave : call.savesPanel = false) (hlease : call.leases = false) :
    ((stateAfter build boot (call :: history)).cfg.comm ≠
        (stateAfter build boot history).cfg.comm →
      ∃ input link, call = .modbusTick input ∧ appliesCommit build boot link input history ∧
        acceptsCommit build input (stateAfter build boot history) = true) ∧
    (∀ input link, call = .modbusTick input → appliesCommit build boot link input history →
      CommitAtomic build boot link input history) ∧
    ((stateAfter build boot (call :: history)).modbus.stage.stat = .commitOk →
      (stateAfter build boot history).modbus.stage.stat = .commitOk ∨
        ∃ input link, call = .modbusTick input ∧ appliesCommit build boot link input history ∧
          acceptsCommit build input (stateAfter build boot history) = true) ∧
    (∀ input, call = .modbusTick input → Chronological (call :: history) →
      TicksFollow (call :: history) → ∀ field value,
        StagedLive build boot input history field value →
          input.tStage < lastStagedMs build boot history + cfgStageTimeoutMs) := by
  have haccepted (input : ModbusTickIn)
      (haccepts : acceptsCommit build input (stateAfter build boot history) = true) :
      ∃ input' link, Call.modbusTick input = .modbusTick input' ∧
        appliesCommit build boot link input' history ∧
          acceptsCommit build input' (stateAfter build boot history) = true := by
    obtain ⟨link, happlies⟩ := appliesCommit_of_accepts haccepts
    exact ⟨input, link, rfl, happlies, haccepts⟩
  refine ⟨fun hchanged ↦ ?_, ?_, fun hok ↦ ?_, ?_⟩
  · by_cases hkind : call.kind = .modbus
    · cases call with
      | modbusTick input =>
        refine haccepted input ?_
        by_contra haccepts
        obtain ⟨hsome, hnone⟩ := @stateAfter_request build boot input history
        cases hrequest : appliedRequest build input (stateAfter build boot history) with
        | none => exact hchanged (hnone hrequest).2
        | some request =>
          obtain ⟨link, reg, word⟩ := request
          exact hchanged ((hsome link reg word hrequest).2.2.trans (if_neg haccepts))
      | _ => cases hkind
    · exact absurd (exec_comm build hkind hsave hlease _) hchanged
  · rintro input link rfl happlies
    exact commit_atomic happlies
  · by_cases hkind : call.kind = .modbus
    · cases call with
      | modbusTick input =>
        obtain ⟨hsome, hnone⟩ := @stateAfter_request build boot input history
        cases hrequest : appliedRequest build input (stateAfter build boot history) with
        | none =>
          rw [(hnone hrequest).1] at hok
          exact Or.inl (headStage_stat hok)
        | some request =>
          obtain ⟨link, reg, word⟩ := request
          rw [(hsome link reg word hrequest).2.1] at hok
          rcases stageApplied_stat hok with hbefore | ⟨rfl, rfl, hanswer⟩
          · exact Or.inl (headStage_stat hbefore)
          · refine Or.inr (haccepted input ?_)
            simpa [acceptsCommit, hrequest] using hanswer
      | _ => cases hkind
    · have hkept : (stateAfter build boot (call :: history)).modbus.stage =
          (stateAfter build boot history).modbus.stage :=
        congrArg ModbusGlue.stage (exec_modbus build hkind _)
      rw [hkept] at hok
      exact Or.inl hok
  · rintro input rfl hchron hfollow field value ⟨hstaged, hhead⟩
    exact staged_young hchron hfollow hstaged hhead

/-- Two requests on the serial line: the upper half of the IP address is staged and committed. -/
def etherCommit : SuperloopRun where
  done := [serialIter 10 false (fc06 0x22 0xC0A8)]
  current := serialIter 20 false (fc06 0x28 1)
  made := 9

theorem etherCommit_history : etherCommit.history =
    .modbusTick (serialIter 20 false (fc06 0x28 1)).modbus :: etherCommit.history.tail := rfl

/-- The commit is accepted and all or nothing. -/
theorem etherCommit_atomic :
    (stateAfter stdBuild serialBoot etherCommit.history).cfg.comm .ipH = (192, 168) ∧
      ∃ input link, CommitAtomic stdBuild serialBoot link input etherCommit.history.tail ∧
        acceptsCommit stdBuild input (stateAfter stdBuild serialBoot etherCommit.history.tail) =
          true := by
  have hmoved :
      (stateAfter stdBuild serialBoot etherCommit.history).cfg.comm .ipH = (192, 168) := by
    decide +kernel
  have hbefore : (stateAfter stdBuild serialBoot etherCommit.history.tail).cfg.comm .ipH ≠
      (192, 168) := by decide +kernel
  obtain ⟨honly, hatomic, -, -⟩ := staged_commit_atomic stdBuild serialBoot
    etherCommit.history.tail (.modbusTick (serialIter 20 false (fc06 0x28 1)).modbus) rfl rfl
  rw [← etherCommit_history] at honly
  obtain ⟨input, link, hcall, happlies, haccepts⟩ := honly fun hsame ↦
    hbefore ((congrFun hsame .ipH).symm.trans hmoved)
  exact ⟨hmoved, input, link, hatomic input link hcall happlies, haccepts⟩

end UsCtrl
