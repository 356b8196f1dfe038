import UsCtrl.HoldSession
import UsCtrl.HornMode

/-!
# What a START finds when it is accepted

`app_reg_start_allowed` judges a START in the middle of the call that issues it. Every handler
issues its START before anything that could clear an error, leave horn-down mode or end the run, but
for the hold watchdog at the head of the Modbus tick. So an accepted START tells of the state its
call found (`GateOpen`, `exec_accepted_open`).
-/

set_option autoImplicit false
set_option relaxedAutoImplicit false

namespace UsCtrl

open Relation Foundation

/-! ### The command -/

/-- Only an open gate accepts a START. -/
theorem regCommand_accepts {src : UsRun} {now : ℕ} {s : Sys}
    (haccepted : (appRegCommand .start src now s).ghost.starts ≠ s.ghost.starts) :
    appRegStartAllowed s = true := by
  have hallowed : appRegStartAllowed (issueStart s) = appRegStartAllowed s := rfl
  rw [← hallowed]
  rcases startCommand_cases src now (issueStart s) with ⟨-, hopen, -⟩ | ⟨heq, -⟩ | ⟨heq, -⟩
  · exact hopen
  · rw [appRegCommand, heq] at haccepted
    exact absurd rfl haccepted
  · rw [appRegCommand, heq] at haccepted
    exact absurd rfl haccepted

/-- Assumes: the handler issues no START. Then it starts no run. -/
theorem GateActs.starts_of_no_start {allowed : UsCmd → Prop} {src : UsRun} {s s' : Sys}
    (h : GateActs allowed src s s') (hstart : ¬ allowed .start) :
    s'.ghost.starts = s.ghost.starts := by
  induction h with
  | refl => rfl
  | @tail mid next _ hact ih =>
    rw [← ih]
    cases hact with
    | quiet h => exact h.starts
    | horn on => rw [appHornSetMode_eq]
    | command cmd now hcmd =>
      cases cmd with
      | start => exact absurd hcmd hstart
      | runRelease => exact (runRelease_ends src now mid).starts
      | seek => rfl
      | reset => rfl

/-! ### Panel, buttons and links -/

theorem handleRunToggle_accepts {now : ℕ} {s : Sys}
    (haccepted : (handleRunToggle now s).ghost.starts ≠ s.ghost.starts) :
    appRegStartAllowed s = true := by
  unfold handleRunToggle at haccepted
  dsimp only at haccepted
  split_ifs at haccepted
  · exact regCommand_accepts
      (s := { s with lcd := { s.lcd with runKeyDown := !s.lcd.runKeyDown } }) haccepted
  · exact absurd (runRelease_ends .touch now _).starts haccepted

theorem dispatch_accepts {f : FrameIn} {s : Sys}
    (haccepted : (appLcdInputDispatch f s).ghost.starts ≠ s.ghost.starts) :
    appRegStartAllowed s = true := by
  have hcommand : f.command s = some .start := by
    by_contra hcommand
    exact haccepted ((appLcdInputDispatch_acts f s).starts_of_no_start hcommand)
  unfold FrameIn.command at hcommand
  unfold appLcdInputDispatch at haccepted
  cases hkey : f.key with
  | none => simp [hkey] at hcommand
  | some key =>
    simp only [hkey] at haccepted
    simp only [hkey, Option.bind_some] at hcommand
    cases key with
    | keyMulti =>
      simp only [panelKeyHandler, handleKeyMulti] at haccepted
      simp only [panelCommand] at hcommand
      split_ifs at haccepted with h1 h2 h3 h4 h0
      · simp [h1] at hcommand
      · simp [h2] at hcommand
      · exact regCommand_accepts haccepted
      · simp [h4] at hcommand
      · exact handleRunToggle_accepts haccepted
      · exact absurd rfl haccepted
    | keyErrorReset =>
      simp only [panelCommand] at hcommand
      split_ifs at hcommand
      simp at hcommand
    | sysPicNow =>
      simp only [panelCommand] at hcommand
      split_ifs at hcommand
      simp at hcommand
    | _ => simp [panelCommand] at hcommand

/-- The buttons issue their START first. -/
theorem inputButtons_accepts {out : InputOut} {tCmd : ℕ} {s : Sys}
    (haccepted : (inputButtons out tCmd s).ghost.starts ≠ s.ghost.starts) :
    appRegStartAllowed s = true := by
  have hrest (press : Bool) (cmd : UsCmd) (hcmd : cmd ≠ .start) (now : ℕ) (t : Sys) :
      (if press then appRegCommand cmd .remote now t else t).ghost.starts = t.ghost.starts := by
    split_ifs
    · have hacts : GateActs (· = cmd) .remote t (appRegCommand cmd .remote now t) :=
        GateActs.of_command now rfl
      exact hacts.starts_of_no_start (Ne.symm hcmd)
    · rfl
  unfold inputButtons at haccepted
  dsimp only at haccepted
  rw [hrest _ .seek (by rintro ⟨⟩), hrest _ .reset (by rintro ⟨⟩),
    hrest _ .runRelease (by rintro ⟨⟩)] at haccepted
  split_ifs at haccepted
  · exact regCommand_accepts haccepted
  · exact absurd rfl haccepted

theorem startCmdBody_accepts {value : ℕ} {input : ApplyIn} {s : Sys}
    (haccepted : (startCmdBody value input s).ghost.starts ≠ s.ghost.starts) :
    appRegStartAllowed s = true := by
  unfold startCmdBody at haccepted
  split_ifs at haccepted with h1 h2 hopen
  · exact regCommand_accepts haccepted
  · exact hopen
  all_goals exact absurd rfl haccepted

/-- Of the branches of the chain only the START branch accepts a START. -/
theorem applyChain_accepts {link : MbLink} {input : ApplyIn} {s : Sys}
    (haccepted : (applyChain link input s).ghost.starts ≠ s.ghost.starts) :
    appRegStartAllowed s = true := by
  have hsaved : (applyChain link input s).ghost.starts =
      (firstMatch (fun s ↦ (stagedScan input.tStage s, false)) (applyRules link input)
        s).1.ghost.starts := by
    unfold applyChain
    dsimp only
    split_ifs <;> rfl
  rw [hsaved] at haccepted
  by_contra hclosed
  refine haccepted (firstMatch_induction
    (fun result : Sys × Bool ↦ result.1.ghost.starts = s.ghost.starts) ?_ ?_)
  · exact (quiet_stagedScan input.tStage s).starts
  · intro rule hrule _
    have hrules : applyRules link input = _ :: _ :: _ :: laterRules link := rfl
    rw [hrules] at hrule
    simp only [List.mem_cons] at hrule
    rcases hrule with rfl | rfl | rfl | hlater
    · rfl
    · rfl
    · by_contra hstarted
      exact hclosed (startCmdBody_accepts (s := setHolding .start 0 s) hstarted)
    · exact (holdKept_laterRules link s rule hlater).starts

theorem appModbusApplyWrites_accepts {build : Build} {link : MbLink} {input : ApplyIn} {s : Sys}
    (haccepted : (appModbusApplyWrites build link input s).ghost.starts ≠ s.ghost.starts) :
    appRegStartAllowed s = true := by
  unfold appModbusApplyWrites at haccepted
  split_ifs at haccepted
  · exact absurd (holdKept_gateRejectBody (countApply s)).starts haccepted
  · exact applyChain_accepts (s := countApply s) haccepted

/-! ### Calls -/

/-- What the call of an accepted START finds, and the emergency level it leaves. -/
structure GateOpen (call : Call) (s s' : Sys) : Prop where
  warm : s.reg.mainState = 0
  /-- No run is active, or the hold watchdog ends it in the call itself. -/
  run : appRegRunSrc s = .idle ∨
    ∃ input, call = .modbusTick input ∧ holdTrips input.tHold s = true
  chain : appSeekResetActive s = false
  error : s.reg.errorStatus.any = false
  overload : appOverloadActive s = false
  estop : appEstopActive s' = false
  horn : appHornModeActive s = false

/-- A START judged in a state that agrees with the call's own on the gate. -/
theorem gateOpen_of_allowed {call : Call} {s t s' : Sys} (hallowed : appRegStartAllowed t = true)
    (hreg : t.reg = s.reg) (hhorn : t.horn.mode = s.horn.mode)
    (hchain : t.seekReset.fsm = s.seekReset.fsm) (hoverload : t.overload.active = s.overload.active)
    (hestop : s'.input.estopActive = false) : GateOpen call s s' := by
  obtain ⟨hwarm, hrun, hidle, herror, hoff, -, hmode⟩ := (appRegStartAllowed_iff t).mp hallowed
  rw [hreg] at hwarm hrun herror
  rw [hchain] at hidle
  refine ⟨hwarm, Or.inl hrun, by simp [appSeekResetActive, hidle], herror,
    hoverload.symm.trans hoff, hestop, hhorn.symm.trans hmode⟩

theorem modbusTick_accepts {build : Build} {input : ModbusTickIn} {s : Sys}
    (haccepted : (appModbusTick build input s).ghost.starts ≠ s.ghost.starts) :
    appRegStartAllowed (modbusPass build input s).1 = true := by
  obtain ⟨-, -, hstarts, -, -⟩ := modbusPass_hold build input s
  rw [appModbusTick_eq_pass, finishPass] at haccepted
  cases hlink : (modbusPass build input s).2 with
  | none =>
    rw [hlink] at haccepted
    exact absurd hstarts haccepted
  | some link =>
    rw [hlink] at haccepted
    exact appModbusApplyWrites_accepts fun heq ↦ haccepted (heq.trans hstarts)

/-- Every call that accepts a START finds the gate open. -/
theorem exec_accepted_open (build : Build) (call : Call) {s : Sys}
    (haccepted : (call.exec build s).ghost.starts ≠ s.ghost.starts) :
    GateOpen call s (call.exec build s) := by
  have hframe := exec_frame build call s
  obtain ⟨hwarm, hchain, hoverload, hestop, hissued⟩ := hframe.accepted haccepted
  cases call with
  | frame f => exact gateOpen_of_allowed (dispatch_accepts haccepted) rfl rfl rfl rfl hestop
  | weldTick tick =>
    rcases appWeldTick_cases tick s with ⟨-, heq⟩ | ⟨-, -, heq⟩ | ⟨-, hbody⟩
    · rw [Call.exec, heq] at haccepted
      exact absurd rfl haccepted
    · rw [Call.exec, heq] at haccepted
      exact absurd rfl haccepted
    · have hstarts := hbody.starts
      split_ifs at hstarts with hstart
      · exact gateOpen_of_allowed hstart.2 rfl rfl rfl rfl hestop
      · exact absurd hstarts haccepted
  | inputTick tick =>
    rcases appInputTick_cases tick s with ⟨-, heq⟩ | ⟨-, heq⟩
    · rw [Call.exec, heq] at haccepted
      exact absurd rfl haccepted
    · rw [Call.exec, heq] at haccepted hestop ⊢
      obtain ⟨shown, hshown, hbody⟩ :=
        inputBody_buttons tick s ((inputBody_scan tick s).1.symm.trans hestop)
      rw [hbody] at haccepted
      have hallowed := inputButtons_accepts fun heq ↦ haccepted (heq.trans hshown.starts)
      exact gateOpen_of_allowed hallowed hshown.reg (congrArg HornGlue.mode hshown.horn)
        (congrArg SeekResetGlue.fsm hshown.seekReset) hshown.overload hestop
  | modbusTick input =>
    obtain ⟨-, hrun, -, herror, -, -, hmode⟩ :=
      (appRegStartAllowed_iff _).mp (modbusTick_accepts haccepted)
    obtain ⟨-, -, -, -, hstay⟩ := modbusPass_hold build input s
    have herrorPass := (modbusPass_acts build input s).error_of_no_reset (by rintro ⟨⟨⟩, -⟩)
    refine ⟨hwarm, ?_, by simp [appSeekResetActive, hchain], herrorPass ▸ herror, hoverload, hestop,
      (congrArg HornGlue.mode (modbusPass_sol build input s).horn).symm.trans hmode⟩
    cases htrip : holdTrips input.tHold s with
    | true => exact Or.inr ⟨input, rfl, htrip⟩
    | false => exact Or.inl ((congrArg RegState.usRunStatus (hstay htrip)).symm.trans hrun)
  | lcdTick => exact absurd ((appLcdTick_acts s).starts_of_no_start (by rintro ⟨⟨⟩, -⟩)) haccepted
  | overloadTick tick =>
    rcases appOverloadTick_cases tick s with ⟨-, heq⟩ | ⟨-, hbody⟩
    · rw [Call.exec, heq] at haccepted
      exact absurd rfl haccepted
    · exact absurd hbody.starts haccepted
  | hornTick tick =>
    simp only [Call.exec, appHornTick] at haccepted
    split_ifs at haccepted
    · rw [(hornBody_ends tick s).1.starts, hornSolenoid_eq] at haccepted
      exact absurd rfl haccepted
    · exact absurd rfl haccepted
  | seekResetTick now =>
    simp only [Call.exec, appSeekResetTick] at haccepted
    split_ifs at haccepted <;> exact absurd rfl haccepted
  | regTick tick =>
    have htick := appRegTick_spec (regRunLimitsOf s.cfg) tick s
    rw [Call.exec, htick.rest] at haccepted
    exact absurd rfl haccepted
  | ethTick tick => exact absurd (quiet_ethTick tick s).starts haccepted
  | faultAlarmTick now => exact absurd (quiet_faultAlarmTick now s).starts haccepted
  | buzzerTick now => exact absurd (quiet_buzzerTick now s).starts haccepted

end UsCtrl
