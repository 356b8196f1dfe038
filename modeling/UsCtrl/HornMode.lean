import UsCtrl.RunEvents
import UsCtrl.WarmUp

/-!
# The solenoid in horn-down mode

In horn-down mode the solenoid is to descend on a fresh key press: one that a horn tick has sampled
since the mode was last turned on and since the emergency stop was last seen active
(`freshPress`). Every descent is fresh (`horn_drive_fresh_iff`), except when the mode is turned off
and on again between two horn ticks while the core holds the solenoid down: the switch drops the pin
at once, the core never learns of it, and its next tick drives the old level out again
(`hornRevived`).

The horn glue belongs to the horn tick and to `app_horn_set_mode`, which a call makes at most once
(`exec_horn`, `exec_hornTick`).
-/

set_option autoImplicit false
set_option relaxedAutoImplicit false

namespace UsCtrl

open Foundation Relation

/-! ### Who touches the horn glue -/

/-- `app_horn_set_mode` on the horn glue alone. -/
def HornGlue.setMode (on : Bool) (horn : HornGlue) : HornGlue :=
  if on = horn.mode then horn else { horn with mode := on, solLast := false }

theorem appHornSetMode_horn (on : Bool) (s : Sys) :
    (appHornSetMode on s).horn = s.horn.setMode on := by
  unfold appHornSetMode HornGlue.setMode
  split_ifs <;> rfl

/-- The horn glue of the second state is that of the first after at most one
`app_horn_set_mode`. -/
def HornSwitched (s s' : Sys) : Prop := ∃ on, s'.horn = s.horn.setMode on

theorem HornSwitched.of_eq {s s' : Sys} (h : s'.horn = s.horn) : HornSwitched s s' :=
  ⟨s.horn.mode, by rw [h, HornGlue.setMode, if_pos rfl]⟩

/-- A switch either changes nothing, or changes the mode and forgets the level. It leaves the core
alone. -/
theorem HornSwitched.cases {s s' : Sys} (h : HornSwitched s s') :
    s'.horn = s.horn ∨ (s'.horn.mode = !s.horn.mode ∧ s'.horn.fsm = s.horn.fsm ∧
      s'.horn.solLast = false) := by
  obtain ⟨on, h⟩ := h
  rw [h, HornGlue.setMode]
  split_ifs with hsame
  · exact Or.inl rfl
  · refine Or.inr ⟨?_, rfl, rfl⟩
    change on = !s.horn.mode
    cases on <;> cases hmode : s.horn.mode <;> simp_all

/-- The second state has the horn glue and the solenoid pin of the first. -/
structure SameSol (s s' : Sys) : Prop where
  horn : s'.horn = s.horn
  pin : s'.pins.solDn = s.pins.solDn

theorem SameSol.refl (s : Sys) : SameSol s s := ⟨rfl, rfl⟩

theorem SameSol.trans {s mid s' : Sys} (hfirst : SameSol s mid) (hsecond : SameSol mid s') :
    SameSol s s' :=
  ⟨hsecond.horn.trans hfirst.horn, hsecond.pin.trans hfirst.pin⟩

theorem Quiet.sameSol {s s' : Sys} (h : Quiet s s') : SameSol s s' := ⟨h.horn, h.solDn⟩

/-- The horn glue and the solenoid pin after at most one `app_horn_set_mode`, which drops the pin
when it changes the mode. -/
def SolSwitched (s s' : Sys) : Prop := ∃ on, s'.horn = s.horn.setMode on ∧
  s'.pins.solDn = if on = s.horn.mode then s.pins.solDn else false

theorem SolSwitched.horn {s s' : Sys} (h : SolSwitched s s') : HornSwitched s s' :=
  ⟨h.choose, h.choose_spec.1⟩

theorem SameSol.switched {s s' : Sys} (h : SameSol s s') : SolSwitched s s' := by
  refine ⟨s.horn.mode, ?_, ?_⟩
  · rw [h.horn, HornGlue.setMode, if_pos rfl]
  · rw [if_pos rfl]
    exact h.pin

theorem appHornSetMode_sol (on : Bool) (s : Sys) : SolSwitched s (appHornSetMode on s) := by
  refine ⟨on, appHornSetMode_horn on s, ?_⟩
  unfold appHornSetMode
  split_ifs <;> rfl

theorem SolSwitched.trans_same {s mid s' : Sys} (hfirst : SolSwitched s mid)
    (hsecond : SameSol mid s') : SolSwitched s s' := by
  obtain ⟨on, hhorn, hpin⟩ := hfirst
  exact ⟨on, hsecond.horn.trans hhorn, hsecond.pin.trans hpin⟩

theorem SameSol.trans_switched {s mid s' : Sys} (hfirst : SameSol s mid)
    (hsecond : SolSwitched mid s') : SolSwitched s s' := by
  obtain ⟨on, hhorn, hpin⟩ := hsecond
  rw [hfirst.horn] at hhorn hpin
  rw [hfirst.pin] at hpin
  exact ⟨on, hhorn, hpin⟩

theorem appRegCommand_sol (cmd : UsCmd) (src : UsRun) (now : ℕ) (s : Sys) :
    SameSol s (appRegCommand cmd src now s) := by
  rw [appRegCommand_eq]
  exact ⟨rfl, rfl⟩

theorem handleKeyReset_sol (now : ℕ) (s : Sys) : SameSol s (handleKeyReset now s) := by
  unfold handleKeyReset appLcdHookUsCommand
  dsimp only
  have hreset := appRegCommand_sol .reset .touch now s
  split_ifs <;> exact ⟨hreset.horn, hreset.pin⟩

theorem handleRunToggle_sol (now : ℕ) (s : Sys) : SameSol s (handleRunToggle now s) := by
  have htoggled (lcd : LcdState) : SameSol s { s with lcd := lcd } := ⟨rfl, rfl⟩
  unfold handleRunToggle appLcdHookUsCommand
  dsimp only
  split_ifs
  · exact ((htoggled _).trans (appRegCommand_sol .start .touch now _)).trans
      (quiet_hookSetPot _ _).sameSol
  · exact (htoggled _).trans (appRegCommand_sol .runRelease .touch now _)

theorem runKeyReanchor_sol (s : Sys) : SameSol s (appLcdInputRunKeyReanchor s) := by
  have hreleased := appRegCommand_sol .runRelease .touch 0 s
  exact ⟨hreleased.horn, hreleased.pin⟩

/-- Of the panel keys, only SAVE switches the mode. -/
theorem panelKeyHandler_sol (key : PanelKey) (f : FrameIn) (s : Sys) (hkey : key ≠ .dataSave) :
    SameSol s (panelKeyHandler key f.word f s) := by
  unfold panelKeyHandler
  cases key with
  | dataSave => exact absurd rfl hkey
  | setupParam => exact (quiet_setupParamEnter f.tPage s).sameSol
  | setupParamMoohan =>
    exact (quiet_longPressKey _ _ _ _ (quiet_setupParamEnter f.tPage) s).sameSol
  | setupModel => exact (quiet_longPressKey _ _ _ _ (fun s ↦ quiet_lcd s _) s).sameSol
  | stdSetupParam => exact (quiet_stdSetupParam f.word f.tPage s).sameSol
  | runMode => exact (quiet_runMode f.word f.tPage s).sameSol
  | commMode => exact (quiet_commMode f.word f.tPage s).sameSol
  | commSpeed =>
    dsimp only [handleCommSpeed]
    split_ifs <;> exact ⟨rfl, rfl⟩
  | commParity =>
    dsimp only [handleCommParity]
    split_ifs <;> exact ⟨rfl, rfl⟩
  | keyMulti =>
    dsimp only [handleKeyMulti, appLcdHookUsCommand]
    split_ifs
    · exact handleKeyReset_sol f.tCmd s
    · exact appRegCommand_sol .seek .touch f.tCmd s
    · exact (appRegCommand_sol .start .touch f.tCmd s).trans (quiet_hookSetPot _ _).sameSol
    · exact appRegCommand_sol .runRelease .touch f.tCmd s
    · exact handleRunToggle_sol f.tCmd s
    · exact SameSol.refl s
  | keyErrorReset =>
    dsimp only [handleKeyErrorReset, appLcdHookUsCommand]
    split_ifs <;> exact ⟨rfl, rfl⟩
  | sysPicNow =>
    dsimp only [handleSysPicNow]
    split_ifs
    · exact (runKeyReanchor_sol s).trans (quiet_initMode f.tPage _).sameSol
    · exact SameSol.refl s
  | _ => exact ⟨rfl, rfl⟩

theorem dataSaveCommit_sol (bus : I2cBus) (tPage : ℕ) (s : Sys) :
    SolSwitched s (dataSaveCommit bus tPage s) := by
  have hsaved : SameSol (dataSaveGroup s) (dataSaveCommit bus tPage s) :=
    ((quiet_saveConfig bus _).trans (quiet_changePage tPage _)).sameSol
  have hcommit (t : Sys) : SameSol t (commitCommModeAndEther t) := (quiet_commCommit t).sameSol
  have hpot : SameSol s (appLcdHookSetPot s.cfg.outputPower s) := (quiet_hookSetPot _ s).sameSol
  refine SolSwitched.trans_same ?_ hsaved
  unfold dataSaveGroup
  cases setupGroup s with
  | model => exact SameSol.switched ⟨rfl, rfl⟩
  | multi => exact (hpot.trans (hcommit _)).switched
  | hand => exact SameSol.switched ⟨rfl, rfl⟩
  | other => exact SameSol.switched ⟨rfl, rfl⟩
  | std =>
    have hcounted : SameSol s (commitCntReset (appLcdHookSetPot s.cfg.outputPower s)) :=
      hpot.trans (quiet_cntReset _).sameSol
    obtain ⟨on, hhorn, hpin⟩ :=
      (hcounted.trans_switched (appHornSetMode_sol s.lcd.tempHorndown _)).trans_same (hcommit _)
    exact ⟨on, hhorn, hpin⟩

theorem appLcdInputDispatch_sol (f : FrameIn) (s : Sys) :
    SolSwitched s (appLcdInputDispatch f s) := by
  unfold appLcdInputDispatch
  cases f.key with
  | none => exact (SameSol.refl s).switched
  | some key =>
    by_cases hkey : key = .dataSave
    · subst hkey
      change SolSwitched s (if f.word = 1 then dataSaveCommit f.bus f.tPage s
        else dataSaveCancel f.bus f.tPage s)
      split_ifs
      · exact dataSaveCommit_sol f.bus f.tPage s
      · exact (quiet_dataSaveCancel f.bus f.tPage s).sameSol.switched
    · exact (panelKeyHandler_sol key f s hkey).switched

theorem appLcdTick_sol (s : Sys) : SameSol s (appLcdTick s) := by
  have hpanel (t : Sys) (lcd : LcdState) : SameSol t { t with lcd := lcd } :=
    (quiet_lcd t _).sameSol
  have hshown (t : Sys) : SameSol t (appLcdShowError t) :=
    (hpanel t _).trans (runKeyReanchor_sol _)
  unfold appLcdTick
  dsimp only
  split_ifs
  · exact (hpanel s _).trans ((hshown _).trans (hpanel _ _))
  · exact (hpanel s _).trans ((quiet_faultCleared _).sameSol.trans (hpanel _ _))
  · exact (hpanel s _).trans (hpanel _ _)

theorem inputButtons_sol (out : InputOut) (tCmd : ℕ) (s : Sys) :
    SameSol s (inputButtons out tCmd s) := by
  have hbutton (cmd : UsCmd) (press : Bool) (now : ℕ) (t : Sys) :
      SameSol t (if press then appRegCommand cmd .remote now t else t) := by
    split_ifs
    · exact appRegCommand_sol cmd .remote now t
    · exact SameSol.refl t
  unfold inputButtons
  exact (((hbutton .start _ tCmd s).trans (hbutton .runRelease _ 0 _)).trans
    (hbutton .reset _ 0 _)).trans (hbutton .seek _ 0 _)

theorem inputBody_horn (tick : InputTickIn) (s : Sys) : (inputBody tick s).horn = s.horn := by
  cases hestop : (inputEvent tick s).estopActive with
  | true =>
    refine (inputBody_estop tick s hestop).1.horn.trans ?_
    unfold inputScanned
    split_ifs
    · rw [weldAborted_eq]
      rfl
    · rfl
  | false =>
    obtain ⟨shown, hshown, hbody⟩ := inputBody_buttons tick s hestop
    rw [hbody]
    exact (inputButtons_sol _ _ _).horn.trans hshown.horn

/-! ### The remote side -/

theorem modbusPass_sol (build : Build) (input : ModbusTickIn) (s : Sys) :
    SameSol s (modbusPass build input s).1 := by
  have hgate := (quiet_remoteEnStep build input.tGate input.remoteEnPin s).sameSol
  have hhold (t : Sys) : SameSol t (holdWdtBlock input.tHold t) := by
    unfold holdWdtBlock
    dsimp only
    split_ifs
    · exact @SameSol.trans t (onModbus _ t) _ ⟨rfl, rfl⟩
        (appRegCommand_sol .runRelease .comm 0 _)
    · exact ⟨rfl, rfl⟩
  have hstage (t : Sys) : SameSol t (stageTick input.tStage t) := ⟨rfl, rfl⟩
  unfold modbusPass modbusHead
  exact (hgate.trans (hhold _)).trans ((hstage _).trans
    ((quiet_applyConfig build _ _).sameSol.trans (quiet_servePass build input _).sameSol))

theorem setHolding_sol (reg : MbReg) (value : ℕ) (s : Sys) : SameSol s (setHolding reg value s) :=
  ⟨rfl, rfl⟩

theorem gateRejectBody_sol (s : Sys) : SameSol s (gateRejectBody s) := by
  have herase (t : Sys) : SameSol t (setHolding .start 0 (setHolding .seek 0
      (setHolding .reset 0 t))) := ⟨rfl, rfl⟩
  have hlast (t : Sys) : SameSol t (setHolding .cfgCtrl 0 (setHolding .stop 0 t)) := ⟨rfl, rfl⟩
  unfold gateRejectBody
  dsimp only
  split_ifs
  · exact (herase s).trans ((appRegCommand_sol _ _ _ _).trans (hlast _))
  · exact (herase s).trans (hlast _)

theorem startCmdBody_sol (value : ℕ) (input : ApplyIn) (s : Sys) :
    SameSol s (startCmdBody value input s) := by
  have hstart : SameSol s (appLcdHookSetPot s.cfg.outputPower
      (appRegCommand .start .comm input.tCmd s)) :=
    (appRegCommand_sol .start .comm input.tCmd s).trans (quiet_hookSetPot _ _).sameSol
  unfold startCmdBody
  split_ifs
  · exact hstart
  · exact ⟨hstart.horn, hstart.pin⟩
  all_goals exact ⟨rfl, rfl⟩

theorem commandRules_sol (link : MbLink) (input : ApplyIn) (s : Sys) :
    ∀ rule ∈ commandRules link input, SameSol s (rule.act s).1 := by
  have hcommand (cmd : UsCmd) (reg : MbReg) :
      SameSol s (setHolding reg 0 (appRegCommand cmd .comm 0 s)) :=
    (appRegCommand_sol cmd .comm 0 s).trans (setHolding_sol reg 0 _)
  simp only [commandRules, List.forall_mem_cons, List.not_mem_nil, false_implies, implies_true,
    and_true]
  refine ⟨hcommand .reset .reset, hcommand .seek .seek, ?_, hcommand .runRelease .stop, ?_⟩
  · exact (setHolding_sol .start 0 s).trans (startCmdBody_sol _ input _)
  · exact (setHolding_sol .cfgCtrl 0 s).trans (quiet_cfgCtrlBody link _ _).sameSol

/-- Of the configuration branches, only the horn branch switches the mode. -/
theorem configRules_sol (s : Sys) :
    ∀ rule ∈ configRules, SolSwitched s (rule.act s).1 := by
  have hcfg (reg : MbReg) (shown : AppConfig → ℕ) (store : ℕ → AppConfig → AppConfig) :
      SolSwitched s ((cfgRule reg shown store).act s).1 := SameSol.switched ⟨rfl, rfl⟩
  have henable (reg : MbReg) (shown : AppConfig → Bool) (store : Bool → AppConfig → AppConfig) :
      SolSwitched s ((enableRule reg shown store).act s).1 := SameSol.switched ⟨rfl, rfl⟩
  have hsafty : SolSwitched s (saftyRule.act s).1 := by
    simp only [saftyRule]
    split_ifs <;> exact SameSol.switched ⟨rfl, rfl⟩
  have hhorn : SolSwitched s (hornRule.act s).1 := appHornSetMode_sol _ s
  have hcount : SolSwitched s (workCntRule.act s).1 := SameSol.switched ⟨rfl, rfl⟩
  simp only [configRules, List.forall_mem_cons, List.not_mem_nil, false_implies, implies_true,
    hcfg, henable, hsafty, hhorn, hcount, and_self]

/-- An apply switches the mode at most once. -/
theorem appModbusApplyWrites_sol (build : Build) (link : MbLink) (input : ApplyIn) (s : Sys) :
    SolSwitched s (appModbusApplyWrites build link input s) := by
  have hcounted : SameSol s (countApply s) := ⟨rfl, rfl⟩
  refine hcounted.trans_switched ?_
  unfold appModbusApplyWrites
  split_ifs
  · exact (gateRejectBody_sol (countApply s)).switched
  · have hchain : SolSwitched (countApply s) (firstMatch
        (fun s ↦ (stagedScan input.tStage s, false)) (applyRules link input) (countApply s)).1 := by
      refine firstMatch_induction (fun result : Sys × Bool ↦ SolSwitched (countApply s) result.1)
        (quiet_stagedScan _ _).sameSol.switched fun rule hrule _ ↦ ?_
      rcases List.mem_append.mp hrule with h | h
      · exact (commandRules_sol link input (countApply s) rule h).switched
      · exact configRules_sol (countApply s) rule h
    unfold applyChain
    dsimp only
    split_ifs
    · exact hchain.trans_same (quiet_saveConfig _ _).sameSol
    · exact hchain

theorem appModbusTick_sol (build : Build) (input : ModbusTickIn) (s : Sys) :
    SolSwitched s (appModbusTick build input s) := by
  have hpass := modbusPass_sol build input s
  rw [appModbusTick_eq_pass]
  unfold finishPass
  split
  · exact hpass.switched
  · exact hpass.trans_switched (appModbusApplyWrites_sol build _ input.apply _)

/-! ### The horn tick -/

/-- What an executed horn tick sampled, if the call is one. -/
def hornSampled (call : Call) (s : Sys) : Option HornTickIn :=
  match call with
  | .hornTick tick => if elapsedMs tick.now s.horn.prevMs ≥ 10 then some tick else none
  | _ => none

theorem hornSampled_eq {tick tick' : HornTickIn} {s : Sys}
    (hsampled : hornSampled (.hornTick tick) s = some tick') : tick = tick' := by
  unfold hornSampled at hsampled
  dsimp only at hsampled
  split_ifs at hsampled
  exact Option.some.inj hsampled

/-- A key went from released to pressed since the last sample. -/
def hornPress (tick : HornTickIn) (fsm : HornFsm) : Bool :=
  (fsm.key1Bak && !tick.key1) || (fsm.key2Bak && !tick.key2)

/-- An executed horn tick steps the core and keeps the mode. -/
theorem exec_hornTick (build : Build) {call : Call} {s : Sys} {tick : HornTickIn}
    (hsampled : hornSampled call s = some tick) :
    (call.exec build s).horn =
      ⟨tick.now, s.horn.mode, (hornStep tick s).2, (hornStep tick s).1⟩ := by
  cases call with
  | hornTick tick' =>
    unfold hornSampled at hsampled
    unfold Call.exec appHornTick
    dsimp only at hsampled ⊢
    split_ifs at hsampled ⊢ with hdue
    obtain rfl := Option.some.inj hsampled
    rw [(hornBody_ends tick' s).1.horn, hornSolenoid_eq]
  | _ => cases hsampled

/-- The calls that neither step a press nor can switch the mode leave the horn glue and the pin
alone. -/
theorem exec_sol_kept (build : Build) {call : Call} {s : Sys} (hsampled : hornSampled call s = none)
    (hweld : call.kind ≠ .weld) (hinput : call.kind ≠ .input) (hframe : call.kind ≠ .frame)
    (hmodbus : call.kind ≠ .modbus) : SameSol s (call.exec build s) := by
  cases call with
  | frame f => exact absurd rfl hframe
  | modbusTick tick => exact absurd rfl hmodbus
  | weldTick tick => exact absurd rfl hweld
  | inputTick tick => exact absurd rfl hinput
  | lcdTick => exact appLcdTick_sol s
  | overloadTick tick =>
    rcases appOverloadTick_cases tick s with ⟨-, heq⟩ | ⟨-, hbody⟩
    · rw [Call.exec, heq]
      exact SameSol.refl s
    · exact ⟨hbody.horn, hbody.solDn⟩
  | hornTick tick =>
    unfold hornSampled at hsampled
    unfold Call.exec appHornTick
    dsimp only at hsampled ⊢
    split_ifs at hsampled ⊢
    exact SameSol.refl s
  | seekResetTick now =>
    unfold Call.exec appSeekResetTick
    dsimp only
    split_ifs <;> exact ⟨rfl, rfl⟩
  | regTick tick =>
    rw [Call.exec, (appRegTick_spec (regRunLimitsOf s.cfg) tick s).rest]
    exact ⟨rfl, rfl⟩
  | ethTick tick => exact (quiet_ethTick tick s).sameSol
  | faultAlarmTick now => exact (quiet_faultAlarmTick now s).sameSol
  | buzzerTick now => exact (quiet_buzzerTick now s).sameSol

/-- Of the other calls only the panel and the masters reach the horn glue. -/
theorem exec_horn_kept (build : Build) {call : Call} {s : Sys}
    (hsampled : hornSampled call s = none) (hframe : call.kind ≠ .frame)
    (hmodbus : call.kind ≠ .modbus) : (call.exec build s).horn = s.horn := by
  by_cases hweld : call.kind = .weld
  · cases call <;> cases hweld
    rename_i tick
    rcases appWeldTick_cases tick s with ⟨-, heq⟩ | ⟨-, -, heq⟩ | ⟨-, hbody⟩
    · exact congrArg Sys.horn heq
    · exact (congrArg Sys.horn heq).trans rfl
    · exact hbody.horn
  by_cases hinput : call.kind = .input
  · cases call <;> cases hinput
    rename_i tick
    rcases appInputTick_cases tick s with ⟨-, heq⟩ | ⟨-, heq⟩
    · exact congrArg Sys.horn heq
    · exact (congrArg Sys.horn heq).trans (inputBody_horn tick s)
  exact (exec_sol_kept build hsampled hweld hinput hframe hmodbus).horn

/-- Every other call switches the mode at most once and does nothing else to the horn glue. -/
theorem exec_horn (build : Build) {call : Call} {s : Sys} (hsampled : hornSampled call s = none) :
    HornSwitched s (call.exec build s) := by
  cases call with
  | frame f => exact (appLcdInputDispatch_sol f s).horn
  | modbusTick tick => exact (appModbusTick_sol build tick s).horn
  | _ => exact .of_eq (exec_horn_kept build hsampled (by rintro ⟨⟩) (by rintro ⟨⟩))

/-- The core drives the solenoid down only in a mode it has seen before and without emergency stop;
it starts to on a press, and stops to on a press. -/
theorem hornStep_down {tick : HornTickIn} {s : Sys} (hdown : (hornStep tick s).2 = true) :
    s.horn.mode = true ∧ appEstopActive s = false ∧
      hornPress tick s.horn.fsm = !s.horn.fsm.horn := by
  have hpress : ((decide (tick.key1 ≠ s.horn.fsm.key1Bak) && !tick.key1) ||
      (decide (tick.key2 ≠ s.horn.fsm.key2Bak) && !tick.key2)) = hornPress tick s.horn.fsm := by
    unfold hornPress
    cases tick.key1 <;> cases tick.key2 <;> cases s.horn.fsm.key1Bak <;>
      cases s.horn.fsm.key2Bak <;> rfl
  unfold hornStep hornFsmStep at hdown
  dsimp only at hdown
  rw [hpress] at hdown
  split_ifs at hdown with hmode hestop hprev hedge
  · exact ⟨by simpa using hmode, by simpa using hestop, hedge.trans hdown.symm⟩
  · refine ⟨by simpa using hmode, by simpa using hestop, ?_⟩
    rw [hdown]
    simpa using hedge

theorem hornStep_output (tick : HornTickIn) (s : Sys) :
    (hornStep tick s).2 = (hornStep tick s).1.horn := rfl

/-! ### Events -/

section Events

variable (build : Build) (boot : BootIn)

/-- The newest call is an executed horn tick. -/
def hornTicked : Past Call := newest build boot fun call s _ ↦ (hornSampled call s).isSome = true

/-- The newest call is an executed horn tick that saw the emergency stop active. -/
def hornStopped : Past Call := newest build boot fun call s _ ↦
  (hornSampled call s).isSome = true ∧ appEstopActive s = true

/-- The newest call is an executed horn tick that sampled a press without emergency stop. -/
def hornPressed : Past Call := newest build boot fun call s _ ↦
  ∃ tick, hornSampled call s = some tick ∧ hornPress tick s.horn.fsm = true ∧
    appEstopActive s = false

/-- The newest call turned the mode on. -/
def hornModeRises : Past Call := rises build boot fun s ↦ s.horn.mode = true

/-- A press has been sampled since the mode was last turned on and since the last horn tick under
emergency stop. -/
def freshPress : Past Call :=
  since (fun h ↦ ¬ hornModeRises build boot h ∧ ¬ hornStopped build boot h)
    (hornPressed build boot)

/-- The mode was turned on since the last horn tick. -/
def riseSinceTick : Past Call :=
  since (fun h ↦ ¬ hornTicked build boot h) (hornModeRises build boot)

/-- The mode was turned on since the last horn tick, which left the core holding the solenoid
down. -/
def hornRevived (history : List Call) : Prop :=
  riseSinceTick build boot history ∧ (stateAfter build boot history).horn.fsm.horn = true

/-- The call is a horn tick that drives the solenoid down. -/
def hornDrives (call : Call) (s : Sys) : Bool :=
  match hornSampled call s with
  | some tick => (hornStep tick s).2 && !s.horn.solLast
  | none => false

variable {build boot}

theorem hornMode_of_sampled {call : Call} {s : Sys} {tick : HornTickIn}
    (hsampled : hornSampled call s = some tick) :
    (call.exec build s).horn.mode = s.horn.mode := by
  rw [exec_hornTick build hsampled]

/-- A core that holds the solenoid down has driven it down, unless the mode is off or was turned on
since its last tick. -/
theorem horn_remembered (history : List Call) :
    (stateAfter build boot history).horn.fsm.horn = true →
      (stateAfter build boot history).horn.solLast = true ∨
        (stateAfter build boot history).horn.mode = false ∨ riseSinceTick build boot history := by
  induction history with
  | nil =>
    intro hdown
    rw [show stateAfter build boot [] = bootState build boot from rfl, (quiet_boot build boot).horn]
      at hdown
    cases hdown
  | cons call past ih =>
    change (call.exec build (stateAfter build boot past)).horn.fsm.horn = true → _ ∨ _ ∨ _
    change _ → (call.exec build (stateAfter build boot past)).horn.solLast = true ∨
      (call.exec build (stateAfter build boot past)).horn.mode = false ∨ _
    cases hsampled : hornSampled call (stateAfter build boot past) with
    | some tick =>
      rw [exec_hornTick build hsampled]
      exact fun hdown ↦ Or.inl ((hornStep_output tick _).trans hdown)
    | none =>
      have hkept : riseSinceTick build boot past → riseSinceTick build boot (call :: past) := by
        refine fun hrise ↦ Or.inr ⟨?_, hrise⟩
        change ¬ (hornSampled call (stateAfter build boot past)).isSome = true
        rw [hsampled]
        exact Bool.false_ne_true
      rcases (exec_horn build hsampled).cases with hsame | ⟨hmode, hfsm, -⟩
      · rw [hsame]
        exact fun hdown ↦ (ih hdown).imp_right (Or.imp_right hkept)
      · intro _
        cases hbefore : (stateAfter build boot past).horn.mode with
        | true =>
          rw [hmode, hbefore]
          exact Or.inr (Or.inl rfl)
        | false =>
          refine Or.inr (Or.inr (Or.inl ⟨?_, ?_⟩))
          · exact Bool.eq_false_iff.mp hbefore
          · exact hmode.trans (by rw [hbefore]; rfl)

/-- A press sampled since the mode was turned on is no older than the last horn tick. -/
theorem not_fresh_of_rise (history : List Call) (hrise : riseSinceTick build boot history) :
    ¬ freshPress build boot history := by
  refine since_exclusive (fun h hhold htrigger ↦ ?_)
    (fun h htrigger ↦ ⟨fun hhold ↦ hhold.1 htrigger,
    fun hpressed ↦ ?_⟩) history hrise
  · cases h with
    | nil => exact htrigger
    | cons call past =>
      obtain ⟨tick, hsampled, -⟩ := htrigger
      exact hhold (Option.isSome_iff_exists.mpr ⟨tick, hsampled⟩)
  · cases h with
    | nil => exact htrigger
    | cons call past =>
      obtain ⟨tick, hsampled, -⟩ := hpressed
      exact htrigger.1 ((hornMode_of_sampled hsampled).symm.trans htrigger.2)

/-- Assumes: the newest call is a horn tick that drives the solenoid down. A press has been sampled
since the mode was last turned on and since the last emergency stop, exactly if the mode was not
turned off and on again since the last horn tick while the core held the solenoid down. -/
theorem horn_drive_fresh_iff (build : Build) (boot : BootIn) (call : Call) (past : List Call)
    (hdrives : hornDrives call (stateAfter build boot past) = true) :
    freshPress build boot (call :: past) ↔ ¬ hornRevived build boot past := by
  obtain ⟨tick, hsampled, hdown, hlast⟩ : ∃ tick,
      hornSampled call (stateAfter build boot past) = some tick ∧
        (hornStep tick (stateAfter build boot past)).2 = true ∧
          (stateAfter build boot past).horn.solLast = false := by
    unfold hornDrives at hdrives
    split at hdrives
    · rename_i tick hsampled
      rw [Bool.and_eq_true, Bool.not_eq_true'] at hdrives
      exact ⟨tick, hsampled, hdrives.1, hdrives.2⟩
    · cases hdrives
  obtain ⟨hmode, hestop, hpress⟩ := hornStep_down hdown
  constructor
  · rintro hfresh ⟨hrise, hcore⟩
    rcases hfresh with ⟨tick', hsampled', hpressed, -⟩ | ⟨-, hpast⟩
    · -- a press would have lifted the solenoid the core held down
      rw [hsampled] at hsampled'
      obtain rfl := Option.some.inj hsampled'
      rw [hpress, hcore] at hpressed
      cases hpressed
    · exact not_fresh_of_rise past hrise hpast
  · intro hrevived
    cases hcore : (stateAfter build boot past).horn.fsm.horn with
    | false => exact Or.inl ⟨tick, hsampled, by rw [hpress, hcore]; rfl, hestop⟩
    | true =>
      rcases horn_remembered past hcore with hdriven | hoff | hrise
      · rw [hlast] at hdriven
        cases hdriven
      · rw [hmode] at hoff
        cases hoff
      · exact absurd ⟨hrise, hcore⟩ hrevived

end Events

/-! ### The revived solenoid -/

/-- A boot from a FRAM image with slave address 1 at 115200 baud. -/
def serialBoot : BootIn :=
  { factoryBoot with
    fram :=
      fun addr ↦ if addr = 0 then 0xAA else if addr = 37 then 1 else if addr = 38 then 5 else 0
    bus := I2cBus.sound }

/-- An FC 06 request of slave 1 on the serial line. -/
def fc06 (addr value : ℕ) : List UInt8 := withCrc ([1, 6] ++ wordBytes addr ++ wordBytes value)

/-- An iteration with one serial frame, and with the first key held or at rest. -/
def serialIter (now : ℕ) (held : Bool) (rx : List UInt8) : IterIn :=
  { quietIter now with
    weld := ⟨now, !held, true, true, true, now, I2cBus.sound⟩
    horn := ⟨now, !held, true⟩
    modbus := { quietModbus now with rx := rx } }

/-- HORN_CMD turns the mode on, and a key press lets the solenoid down. -/
def hornDown : SuperloopRun where
  done := [serialIter 20 false [], serialIter 10 false (fc06 0x30 1)]
  current := serialIter 30 true []
  made := 5

theorem hornDown_fresh : freshPress stdBuild serialBoot hornDown.history := by
  have hhistory : hornDown.history = .hornTick ⟨30, false, true⟩ :: hornDown.history.tail := rfl
  rw [hhistory]
  refine (horn_drive_fresh_iff stdBuild serialBoot _ _ ?_).mpr fun hrevived ↦ ?_
  · decide +kernel
  · exact absurd hrevived.2 (by decide +kernel)

/-- While the key is held, HORN_CMD turns the mode off and, before the next horn tick, on again. -/
def hornRestored : SuperloopRun where
  done :=
    [serialIter 37 true (fc06 0x30 1), serialIter 31 true (fc06 0x30 0), serialIter 30 true [],
    serialIter 20 false [], serialIter 10 false (fc06 0x30 1)]
  current := serialIter 40 true []
  made := 5

/-- The tick after that lets the solenoid down again, and no key has been pressed since. -/
theorem hornRestored_stale : Chronological hornRestored.history ∧
    hornDrives (.hornTick ⟨40, false, true⟩)
      (stateAfter stdBuild serialBoot hornRestored.history.tail) = true ∧
    ¬ freshPress stdBuild serialBoot hornRestored.history := by
  have hsplit : hornRestored.history.tail = hornRestored.history.tail.take 6 ++
      .modbusTick (serialIter 37 true (fc06 0x30 1)).modbus :: hornRestored.history.drop 8 := rfl
  have hhistory : hornRestored.history = .hornTick ⟨40, false, true⟩ :: hornRestored.history.tail :=
    rfl
  have hrise : riseSinceTick stdBuild serialBoot hornRestored.history.tail := by
    rw [hsplit]
    refine since_append (controller stdBuild serialBoot)
      (fun call s ↦ (hornSampled call s).isSome = false) ?_ ?_ (since_now (List.cons_ne_nil _ _) ?_)
    · exact fun call past hsampled hticked ↦ absurd (hsampled.symm.trans hticked) Bool.false_ne_true
    · decide +kernel
    · refine ⟨?_, ?_⟩ <;> decide +kernel
  have hheld : hornPress ⟨40, false, true⟩
      (stateAfter stdBuild serialBoot hornRestored.history.tail).horn.fsm = false := by
    decide +kernel
  refine ⟨by decide +kernel, by decide +kernel, ?_⟩
  rw [hhistory]
  rintro (⟨tick, hsampled, hpressed, -⟩ | ⟨-, hpast⟩)
  · obtain rfl := hornSampled_eq hsampled
    exact absurd (hheld.symm.trans hpressed) Bool.false_ne_true
  · exact not_fresh_of_rise _ hrise hpast

end UsCtrl
