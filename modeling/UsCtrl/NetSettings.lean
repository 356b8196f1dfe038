import UsCtrl.ConfigSteps
import UsCtrl.SideOutputs

/-!
# The Ethernet settings and their mark

`app_eth_tick` puts the settings in force when it finds them marked as dirty. `exec_netKept` says
that the mark misses nothing: apart from the Ethernet tick itself, and from CANCEL, which reads the
settings back, a call that changes them leaves them marked. `exec_eth` says that the state of the
Ethernet is moved by its tick alone.
-/

set_option autoImplicit false
set_option relaxedAutoImplicit false

namespace UsCtrl

open Foundation

/-- The Ethernet settings: the mode and the three addresses. -/
def AppConfig.net (cfg : AppConfig) : ℕ × Octets × Octets × Octets :=
  (cfg.commMode, cfg.etherIp, cfg.etherNm, cfg.etherGw)

/-- The second state has the settings marked, or has them and their mark as the first. -/
def NetKept (s s' : Sys) : Prop :=
  s'.lcd.etherDirty = true ∨ (s'.cfg.net = s.cfg.net ∧ s'.lcd.etherDirty = s.lcd.etherDirty)

theorem NetKept.refl (s : Sys) : NetKept s s := Or.inr ⟨rfl, rfl⟩

theorem NetKept.trans {s mid s' : Sys} (hfirst : NetKept s mid) (hsecond : NetKept mid s') :
    NetKept s s' := by
  rcases hsecond with hmarked | ⟨hnet, hmark⟩
  · exact Or.inl hmarked
  · rcases hfirst with hmarked | ⟨hnet', hmark'⟩
    · exact Or.inl (hmark.trans hmarked)
    · exact Or.inr ⟨hnet.trans hnet', hmark.trans hmark'⟩

/-- The configuration is the same, and so is the panel's state without page, error and RUN key. -/
theorem NetKept.of_sheet {s s' : Sys} (hcfg : s'.cfg = s.cfg)
    (hsheet : s'.lcd.sheet = s.lcd.sheet) : NetKept s s' := by
  have hmark : s'.lcd.sheet.etherDirty = s.lcd.sheet.etherDirty :=
    congrArg LcdState.etherDirty hsheet
  exact Or.inr ⟨by rw [hcfg], hmark⟩

/-! ### The panel -/

theorem netKept_changePage (tPage : ℕ) (s : Sys) : NetKept s (appLcdChangePage tPage s) :=
  Or.inr ⟨by rw [changePage_cfg], (side_changePage tPage s).dirty⟩

theorem netKept_commitEther (s : Sys) : NetKept s (commitCommModeAndEther s) := by
  unfold commitCommModeAndEther
  by_cases hseeded : s.lcd.tempCommMode = 0xFF
  · rw [if_pos hseeded]
    exact .refl s
  · rw [if_neg hseeded]
    by_cases hsame : s.lcd.tempCommMode = s.cfg.commMode ∧ s.lcd.tempEtherIp = s.cfg.etherIp ∧
        s.lcd.tempEtherNm = s.cfg.etherNm ∧ s.lcd.tempEtherGw = s.cfg.etherGw
    · obtain ⟨hmode, hip, hnm, hgw⟩ := hsame
      refine Or.inr ⟨?_, ?_⟩
      · simp only [AppConfig.net, hmode, hip, hnm, hgw]
      · simp [hmode, hip, hnm, hgw]
    · refine Or.inl ?_
      dsimp only
      by_contra hclean
      simp only [Bool.or_eq_true, decide_eq_true_eq, not_or, ne_eq, not_not] at hclean
      exact hsame ⟨hclean.2.1.1.1, hclean.2.1.1.2, hclean.2.1.2, hclean.2.2⟩

theorem netKept_dataSaveGroup (s : Sys) : NetKept s (dataSaveGroup s) := by
  have hserial (t : Sys) : NetKept t (commitCommSerialShadows t) := Or.inr ⟨rfl, rfl⟩
  have hpot (t : Sys) : NetKept t (appLcdHookSetPot s.cfg.outputPower t) := Or.inr ⟨rfl, rfl⟩
  have hpage (page : LcdPage) (t : Sys) :
      NetKept t { t with lcd := { t.lcd with lcdStatus := page } } := Or.inr ⟨rfl, rfl⟩
  have hhorn (on : Bool) (t : Sys) : NetKept t (appHornSetMode on t) := by
    rw [appHornSetMode_eq]
    exact Or.inr ⟨rfl, rfl⟩
  have hcount (t : Sys) : NetKept t (commitCntReset t) := by
    unfold commitCntReset
    split_ifs <;> exact Or.inr ⟨rfl, rfl⟩
  unfold dataSaveGroup
  cases setupGroup s with
  | model => exact Or.inr ⟨rfl, rfl⟩
  | multi =>
    exact (((hpot s).trans (netKept_commitEther _)).trans (hserial _)).trans (hpage _ _)
  | hand => exact ((hpot s).trans (hserial _)).trans (hpage _ _)
  | std =>
    exact (((((hpot s).trans (hcount _)).trans (hhorn _ _)).trans (netKept_commitEther _)).trans
      (hserial _)).trans (hpage _ _)
  | other => exact .refl s

theorem netKept_frame {f : FrameIn} (hloads : (Call.frame f).loads = false) (s : Sys) :
    NetKept s (appLcdInputDispatch f s) := by
  unfold appLcdInputDispatch
  cases hkey : f.key with
  | none => exact .refl s
  | some key =>
    by_cases hsave : key = .dataSave
    · subst hsave
      have hword : f.word = 1 := by
        by_contra hnot
        simp [Call.loads, hkey, hnot] at hloads
      show NetKept s (if f.word = 1 then dataSaveCommit f.bus f.tPage s
        else dataSaveCancel f.bus f.tPage s)
      rw [if_pos hword, dataSaveCommit]
      exact ((netKept_dataSaveGroup s).trans (Or.inr ⟨rfl, rfl⟩)).trans (netKept_changePage _ _)
    · have hmark := (side_panelKey hkey hsave s).dirty
      refine Or.inr ⟨?_, hmark⟩
      rcases panelKey_config hsave f s with hcfg | ⟨runMode, hcfg⟩
      · show (panelKeyHandler key f.word f s).cfg.net = _
        rw [hcfg]
        cases key <;> first | rfl | (dsimp only [panelConfigEdit]; split_ifs <;> rfl)
      · show (panelKeyHandler key f.word f s).cfg.net = _
        rw [hcfg]
        rfl

/-! ### Modbus -/

theorem netKept_commitBody (dirty : CfgStg → Bool) (s : Sys) :
    NetKept s (cfgCtrlCommitBody dirty s) := by
  unfold cfgCtrlCommitBody
  cases hether : CfgStg.all.any fun field ↦ field.ether && dirty field with
  | true => exact Or.inl (Bool.or_true _)
  | false =>
    have hclean (field : CfgStg) (hfield : field.ether = true) : dirty field = false := by
      have hnone := List.any_eq_false.mp hether field (CfgStg.mem_all field)
      rw [hfield, Bool.true_and] at hnone
      exact Bool.eq_false_iff.mpr hnone
    refine Or.inr ⟨?_, Bool.or_false _⟩
    simp only [stgApplyToCfg, AppConfig.net, hclean .ipH rfl, hclean .ipL rfl, hclean .nmH rfl,
      hclean .nmL rfl, hclean .gwH rfl, hclean .gwL rfl, Bool.false_eq_true, if_false]

theorem netKept_rules (link : MbLink) (input : ApplyIn) (s : Sys) :
    ∀ rule ∈ applyRules link input, NetKept s (rule.act s).1 := by
  have hcommand (reg : MbReg) (cmd : UsCmd) :
      NetKept s (setHolding reg 0 (appRegCommand cmd .comm 0 s)) := by
    rw [appRegCommand_eq]
    exact Or.inr ⟨rfl, rfl⟩
  have hstart : NetKept s (startCmdBody (holding s .start) input (setHolding .start 0 s)) := by
    have hbody := startCmdBody_lcd (holding s .start) input (setHolding .start 0 s)
    have hstored := stored_startCmdBody (holding s .start) input (setHolding .start 0 s)
    exact Or.inr ⟨by rw [hstored.1]; rfl, by rw [hbody]; rfl⟩
  have hctrl : NetKept s
      (cfgCtrlBody link (holding s .cfgCtrl) (setHolding .cfgCtrl 0 s)).1 := by
    unfold cfgCtrlBody
    dsimp only
    split_ifs
    · exact netKept_commitBody _ _
    · exact Or.inr ⟨rfl, rfl⟩
    · exact Or.inr ⟨rfl, rfl⟩
    · exact Or.inr ⟨rfl, rfl⟩
  have hstore {cfg : AppConfig} (hnet : cfg.net = s.cfg.net) : NetKept s { s with cfg := cfg } :=
    Or.inr ⟨hnet, rfl⟩
  have hsafty : NetKept s (saftyRule.act s).1 := by
    simp only [saftyRule]
    split_ifs <;> exact Or.inr ⟨rfl, rfl⟩
  have hhorn : NetKept s (hornRule.act s).1 := by
    simp only [hornRule, appHornSetMode]
    split_ifs <;> exact Or.inr ⟨rfl, rfl⟩
  simp only [applyRules, commandRules, configRules, List.cons_append, List.nil_append,
    List.forall_mem_cons, List.not_mem_nil, false_implies, implies_true, and_true]
  exact ⟨hcommand _ _, hcommand _ _, hstart, hcommand _ _, hctrl, hstore rfl, hstore rfl,
    hstore rfl, hstore rfl, hstore rfl, hstore rfl, hstore rfl, hstore rfl, hstore rfl,
    hstore rfl, hstore rfl, hstore rfl, hstore rfl, hstore rfl, hstore rfl, hstore rfl, hsafty,
    hhorn, hstore rfl, hstore rfl, hstore rfl, hstore rfl, hstore rfl⟩

theorem netKept_applyWrites (build : Build) (link : MbLink) (input : ApplyIn) (s : Sys) :
    NetKept s (appModbusApplyWrites build link input s) := by
  have hcounted : NetKept s (countApply s) := Or.inr ⟨rfl, rfl⟩
  cases hgate : gateClosed build s with
  | true =>
    rw [appModbusApplyWrites, hgate, if_pos rfl]
    exact hcounted.trans (.of_sheet (stored_gateRejectBody _).1 (desk_gateRejectBody _).sheet)
  | false =>
    have hscan : NetKept (countApply s) (stagedScan input.tStage (countApply s)) := by
      unfold stagedScan
      split <;> exact Or.inr ⟨rfl, rfl⟩
    have hpicked : NetKept (countApply s) (pickedBranch link input (countApply s)).1 :=
      firstMatch_induction (fun result : Sys × Bool ↦ NetKept (countApply s) result.1) hscan
        fun rule hrule _ ↦ netKept_rules link input (countApply s) rule hrule
    rw [appModbusApplyWrites_open hgate]
    split_ifs
    · exact (hcounted.trans hpicked).trans (Or.inr ⟨rfl, rfl⟩)
    · exact hcounted.trans hpicked

theorem netKept_modbusTick (build : Build) (input : ModbusTickIn) (s : Sys) :
    NetKept s (appModbusTick build input s) := by
  have hpass : NetKept s (modbusPass build input s).1 :=
    .of_sheet (stored_modbusPass build input s).1 (desk_modbusPass build input s).sheet
  rw [appModbusTick_eq_pass, finishPass]
  cases (modbusPass build input s).2 with
  | none => exact hpass
  | some link => exact hpass.trans (netKept_applyWrites build link input.apply _)

/-! ### Calls -/

/-- Only the Ethernet tick and CANCEL change the settings without marking them. -/
theorem exec_netKept (build : Build) {call : Call} (hkind : call.kind ≠ .eth)
    (hloads : call.loads = false) (s : Sys) : NetKept s (call.exec build s) := by
  by_cases hoff : call.offDesk = true
  · exact .of_sheet (exec_cfg build hoff s) (exec_desk build hoff s).sheet
  · cases call with
    | frame f => exact netKept_frame hloads s
    | weldTick tick =>
      have hdesk := weldTick_desk tick s
      have hmark : (appWeldTick tick s).lcd.sheet.etherDirty = s.lcd.sheet.etherDirty :=
        congrArg LcdState.etherDirty hdesk.sheet
      refine Or.inr ⟨?_, hmark⟩
      show (appWeldTick tick s).cfg.net = _
      rw [hdesk.cfg]
      split_ifs <;> rfl
    | ethTick tick => exact absurd rfl hkind
    | modbusTick input => exact netKept_modbusTick build input s
    | _ => exact absurd rfl hoff

/-- CANCEL keeps the mark. -/
theorem load_mark (build : Build) {call : Call} (hloads : call.loads = true) (s : Sys) :
    (call.exec build s).lcd.etherDirty = s.lcd.etherDirty := by
  cases call with
  | frame f =>
    obtain ⟨hkey, hword⟩ : f.key = some .dataSave ∧ f.word ≠ 1 := by
      simpa [Call.loads] using hloads
    show (appLcdInputDispatch f s).lcd.etherDirty = _
    unfold appLcdInputDispatch
    rw [hkey]
    dsimp only [panelKeyHandler]
    rw [if_neg hword]
    exact dataSaveCancel_dirty f.bus f.tPage s
  | _ => cases hloads

/-- The state of the Ethernet is moved by its tick alone. -/
theorem exec_eth (build : Build) {call : Call} (hkind : call.kind ≠ .eth) (s : Sys) :
    (call.exec build s).eth = s.eth := by
  have hbeep (beeps : Bool) (t : Sys) : (alarmIf beeps t).eth = t.eth := by
    cases beeps <;> rfl
  cases hoff : call.kind.offSide with
  | true => exact (exec_side build hoff s).eth
  | false =>
    cases call with
    | overloadTick tick => exact (overloadTick_side tick s).eth.trans (hbeep _ _)
    | inputTick tick => exact (inputTick_side tick s).eth.trans (hbeep _ _)
    | seekResetTick now => exact (seekResetTick_side now s).eth
    | ethTick tick => exact absurd rfl hkind
    | faultAlarmTick now =>
      show (appFaultAlarmTick now s).eth = s.eth
      unfold appFaultAlarmTick
      dsimp only
      split_ifs <;> rfl
    | buzzerTick now =>
      show (appBuzzerTick now s).eth = s.eth
      unfold appBuzzerTick
      split_ifs <;> rfl
    | _ => cases hoff

end UsCtrl
