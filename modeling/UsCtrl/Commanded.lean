import UsCtrl.Owners

/-!
# Commands to the regulation core

Outside of its own tick the regulation core, with its published copy, is moved by commands and by
the over-time error alone. `exec_commanded` says so for every call, however many commands it issues;
a property that every command keeps is kept by every such call.
-/

set_option autoImplicit false
set_option relaxedAutoImplicit false

namespace UsCtrl

open Relation

/-- One step of a call other than the regulation tick. -/
inductive CommandMove : Sys → Sys → Prop
  | aside {s s' : Sys} (hreg : s'.reg = s.reg) (hmeasure : s'.measure = s.measure)
    (hstarts : s'.ghost.starts = s.ghost.starts) : CommandMove s s'
  | command (cmd : UsCmd) (src : UsRun) (now : ℕ) (s : Sys) :
    CommandMove s (appRegCommand cmd src now s)
  | ovtime (s : Sys) : CommandMove s (appRegRaiseOvtime s)

/-- Such steps in a row. -/
abbrev Commanded : Sys → Sys → Prop := ReflTransGen CommandMove

theorem Commanded.aside {s s' : Sys} (hreg : s'.reg = s.reg) (hmeasure : s'.measure = s.measure)
    (hstarts : s'.ghost.starts = s.ghost.starts) : Commanded s s' :=
  ReflTransGen.single (.aside hreg hmeasure hstarts)

theorem Commanded.command (cmd : UsCmd) (src : UsRun) (now : ℕ) (s : Sys) :
    Commanded s (appRegCommand cmd src now s) :=
  ReflTransGen.single (.command cmd src now s)

theorem commanded_ite {c : Prop} [Decidable c] {s mid s' : Sys} (hfirst : Commanded s mid)
    (hsecond : Commanded mid s') : Commanded s (if c then s' else mid) := by
  split_ifs
  · exact hfirst.trans hsecond
  · exact hfirst

theorem Quiet.commanded {s s' : Sys} (h : Quiet s s') : Commanded s s' :=
  Commanded.aside h.reg h.measure h.starts

theorem GateActs.commanded {allowed : UsCmd → Prop} {src : UsRun} {s s' : Sys}
    (h : GateActs allowed src s s') : Commanded s s' := by
  induction h with
  | refl => exact ReflTransGen.refl
  | tail _ hact ih =>
    refine ih.trans ?_
    cases hact with
    | quiet h => exact h.commanded
    | command cmd now _ => exact Commanded.command cmd src now _
    | horn on =>
      rw [appHornSetMode_eq]
      exact Commanded.aside rfl rfl rfl

theorem releasePublished_commanded (s : Sys) : Commanded s (releasePublished s) := by
  unfold releasePublished
  split_ifs
  · exact Commanded.command .runRelease _ 0 s
  · exact ReflTransGen.refl

theorem weldTick_commanded (tick : WeldTickIn) (s : Sys) : Commanded s (appWeldTick tick s) := by
  have hscanned (t : Sys) : (weldScan tick t).reg = t.reg ∧
      (weldScan tick t).measure = t.measure ∧ (weldScan tick t).ghost = t.ghost := by
    rw [weldScan_eq]
    exact ⟨rfl, rfl, rfl⟩
  have hedge (level : Bool) (t : Sys) : Commanded t (weldSolEdge level t) := by
    rw [weldSolEdge_eq]
    exact Commanded.aside rfl rfl rfl
  have hstart (out : WeldOut) (t : Sys) : Commanded t (weldOutStart out tick.tCmd t) := by
    have hpot : Commanded t (i2cPotSetDac out.amplitude t) := Commanded.aside rfl rfl rfl
    unfold weldOutStart
    split_ifs
    · exact hpot.trans (Commanded.command .start .cycle _ _)
    · exact ReflTransGen.refl
  have hstop (out : WeldOut) (t : Sys) : Commanded t (weldOutStop out t) := by
    unfold weldOutStop
    split_ifs
    · exact Commanded.command .runRelease .cycle 0 t
    · exact ReflTransGen.refl
  have hfault (out : WeldOut) (t : Sys) : Commanded t (weldOutFault out t) := by
    unfold weldOutFault
    split_ifs
    · exact ReflTransGen.single (.ovtime t)
    · exact ReflTransGen.refl
  have hdone (out : WeldOut) (t : Sys) : Commanded t (weldOutDone tick.bus out t) := by
    unfold weldOutDone
    split_ifs
    · exact Commanded.aside rfl rfl rfl
    · exact ReflTransGen.refl
  have houtputs (out : WeldOut) (t : Sys) :
      Commanded t (weldOutputs tick.bus out tick.tCmd t) :=
    ((hedge out.solDn t).trans (hstart out _)).trans ((quiet_weldOutAmp out _).commanded.trans
      ((hstop out _).trans ((hfault out _).trans (hdone out _))))
  unfold appWeldTick
  split_ifs
  · exact ReflTransGen.refl
  · exact Commanded.aside rfl rfl rfl
  · obtain ⟨hreg, hmeasure, hghost⟩ := hscanned (weldAdvance tick s)
    refine ReflTransGen.trans ?_ (houtputs _ _)
    exact Commanded.aside hreg hmeasure (congrArg Ghost.starts hghost)

theorem overloadTick_commanded (tick : OverloadTickIn) (s : Sys) :
    Commanded s (appOverloadTick tick s) := by
  have hsampled : Commanded s (overloadSample tick s).1 := Commanded.aside rfl rfl rfl
  have hassert (t : Sys) : Commanded t (overloadAssert tick.now t) := by
    have hshown := quiet_setOverload true { t with pins := { t.pins with ovldRelay := true } }
    exact Commanded.aside hshown.reg hshown.measure hshown.starts
  have hhold (t : Sys) : Commanded t (overloadHold tick.now t) := by
    refine (releasePublished_commanded t).trans ?_
    unfold overloadHold
    dsimp only
    split_ifs
    · exact Commanded.aside rfl rfl rfl
    · exact ReflTransGen.refl
  have hdeassert (t : Sys) : Commanded t (overloadDeassert t) := by
    have hshown := quiet_setOverload false { releasePublished t with
      pins := { (releasePublished t).pins with ovldRelay := false } }
    exact (releasePublished_commanded t).trans
      (Commanded.aside hshown.reg hshown.measure hshown.starts)
  have hbody : Commanded s (overloadBody tick s) :=
    commanded_ite (commanded_ite (commanded_ite hsampled (hassert _)) (hhold _)) (hdeassert _)
  unfold appOverloadTick
  split_ifs
  · exact hbody
  · exact ReflTransGen.refl

theorem inputTick_commanded (tick : InputTickIn) (s : Sys) :
    Commanded s (appInputTick tick s) := by
  have hsampled : Commanded s (inputSample tick s).1 := Commanded.aside rfl rfl rfl
  have habort (t : Sys) : Commanded t (appWeldAbortNow t) := by
    unfold appWeldAbortNow
    dsimp only
    rw [weldSolEdge_eq]
    split_ifs
    · refine ReflTransGen.trans ?_ (Commanded.command .runRelease .cycle 0 _)
      exact Commanded.aside rfl rfl rfl
    · exact Commanded.aside rfl rfl rfl
  have henter (t : Sys) : Commanded t (estopEnter tick.now t) := by
    have hshown (u : Sys) : Commanded u (appLcdSetEstop true u) := by
      have hpage : Commanded u { u with lcd := { u.lcd with lcdStatus := .warning } } :=
        (quiet_lcd u _).commanded
      have hreleased := Commanded.command .runRelease .touch 0
        { u with lcd := { u.lcd with lcdStatus := .warning } }
      exact (hpage.trans hreleased).trans (Commanded.aside rfl rfl rfl)
    have hdropped : Commanded t (ioSolDn false t) := Commanded.aside rfl rfl rfl
    exact ((hdropped.trans (habort _)).trans (hshown _)).trans (Commanded.aside rfl rfl rfl)
  have hhold (t : Sys) : Commanded t (estopHold tick.now t) := by
    refine (releasePublished_commanded t).trans ?_
    unfold estopHold
    dsimp only
    split_ifs
    · exact Commanded.aside rfl rfl rfl
    · exact ReflTransGen.refl
  have hshown := commanded_ite (c := s.input.estopActive = true ∧
      (inputEvent tick s).estopActive = false)
    (commanded_ite (c := (inputEvent tick s).estopEnter = true) hsampled (henter _))
    (quiet_setEstop_off _).commanded
  obtain ⟨shown, hshown, hbody⟩ : ∃ shown, Commanded s shown ∧ inputBody tick s =
      if (inputEvent tick s).estopActive then estopHold tick.now shown
      else inputButtons (inputEvent tick s) tick.tCmd shown :=
    ⟨_, hshown, rfl⟩
  unfold appInputTick
  split_ifs
  · rw [hbody]
    split_ifs
    · exact hshown.trans (hhold shown)
    · exact hshown.trans (inputButtons_acts _ _ shown).commanded
  · exact ReflTransGen.refl

theorem hornTick_commanded (tick : HornTickIn) (s : Sys) : Commanded s (appHornTick tick s) := by
  have hmoved : Commanded s (hornSolenoid tick s) := by
    rw [hornSolenoid_eq]
    exact Commanded.aside rfl rfl rfl
  unfold appHornTick hornBody
  dsimp only
  split_ifs
  · exact hmoved.trans (Commanded.command .runRelease _ 0 _)
  · exact hmoved
  · exact hmoved
  · exact ReflTransGen.refl

theorem seekResetTick_commanded (now : ℕ) (s : Sys) : Commanded s (appSeekResetTick now s) := by
  unfold appSeekResetTick
  split_ifs
  · exact Commanded.aside rfl rfl rfl
  · exact ReflTransGen.refl

theorem modbusTick_commanded (build : Build) (input : ModbusTickIn) (s : Sys) :
    Commanded s (appModbusTick build input s) := by
  have hpass := (modbusPass_acts build input s).commanded
  rw [appModbusTick_eq_pass]
  unfold finishPass
  split
  · exact hpass
  · exact hpass.trans (appModbusApplyWrites_acts build _ input.apply _).commanded

/-- Every call but the regulation tick moves the regulation core by commands. -/
theorem exec_commanded (build : Build) {call : Call} (hkind : call.kind ≠ .reg) (s : Sys) :
    Commanded s (call.exec build s) := by
  cases call with
  | regTick tick => exact absurd rfl hkind
  | frame f => exact (appLcdInputDispatch_acts f s).commanded
  | lcdTick => exact (appLcdTick_acts s).commanded
  | weldTick tick => exact weldTick_commanded tick s
  | overloadTick tick => exact overloadTick_commanded tick s
  | inputTick tick => exact inputTick_commanded tick s
  | hornTick tick => exact hornTick_commanded tick s
  | seekResetTick now => exact seekResetTick_commanded now s
  | ethTick tick => exact (quiet_ethTick tick s).commanded
  | modbusTick input => exact modbusTick_commanded build input s
  | faultAlarmTick now => exact (quiet_faultAlarmTick now s).commanded
  | buzzerTick now => exact (quiet_buzzerTick now s).commanded

end UsCtrl
