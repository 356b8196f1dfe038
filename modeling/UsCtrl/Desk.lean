import UsCtrl.CommSettings
import UsCtrl.ConfigImage
import UsCtrl.WeldCycle

/-!
# Who writes the FRAM, the potentiometer and the panel's shadows

A second ledger beside the communication settings: the FRAM image, the amplitude potentiometer, the
horn mode and the sheet of the panel, which is its state without the page shown, the error display
and the RUN key. Most calls leave all of it alone (`exec_desk`).

The FRAM is written in two ways only (`exec_fram`). A call that saves (`Saves`) writes the
configuration it leaves: SAVE on the panel, the end of a weld cycle, and a Modbus request that
changed the configuration. A load (`Call.loads`), which is CANCEL on the panel, reads the
configuration back from the image.
-/

set_option autoImplicit false
set_option relaxedAutoImplicit false

namespace UsCtrl

open Foundation

/-! ### Handlers that leave the desk alone -/

/-- The panel state without the page shown, the error display and the RUN key. -/
def LcdState.sheet (lcd : LcdState) : LcdState :=
  { lcd with lcdStatus := .logo, errorStatus := .clear, prevErr := .clear, runKeyDown := false }

/-- The second state has FRAM, potentiometer, horn mode and sheet of the first. -/
structure SameDesk (s s' : Sys) : Prop where
  fram : s'.fram = s.fram
  pot : s'.pins.pot = s.pins.pot
  horn : s'.horn.mode = s.horn.mode
  sheet : s'.lcd.sheet = s.lcd.sheet

theorem SameDesk.refl (s : Sys) : SameDesk s s := ⟨rfl, rfl, rfl, rfl⟩

theorem SameDesk.trans {s mid s' : Sys} (hfirst : SameDesk s mid) (hsecond : SameDesk mid s') :
    SameDesk s s' :=
  ⟨hsecond.fram.trans hfirst.fram, hsecond.pot.trans hfirst.pot, hsecond.horn.trans hfirst.horn,
    hsecond.sheet.trans hfirst.sheet⟩

theorem SameDesk.branch {s s' : Sys} (h : SameDesk s s') (cond : Prop) [Decidable cond] :
    SameDesk s (if cond then s' else s) := by
  split_ifs
  · exact h
  · exact SameDesk.refl s

theorem desk_regCommand (cmd : UsCmd) (src : UsRun) (now : ℕ) (s : Sys) :
    SameDesk s (appRegCommand cmd src now s) := by
  rw [appRegCommand_eq]
  exact ⟨rfl, rfl, rfl, rfl⟩

theorem desk_releasePublished (s : Sys) : SameDesk s (releasePublished s) :=
  (desk_regCommand _ _ _ s).branch _

theorem desk_reanchor (s : Sys) : SameDesk s (appLcdInputRunKeyReanchor s) :=
  (desk_regCommand .runRelease .touch 0 s).trans ⟨rfl, rfl, rfl, rfl⟩

theorem desk_lcdTick (s : Sys) : SameDesk s (appLcdTick s) := by
  have hshown (t : Sys) : SameDesk t (appLcdShowError t) :=
    (show SameDesk t { t with lcd := { t.lcd with lcdStatus := .warning } } from
      ⟨rfl, rfl, rfl, rfl⟩).trans (desk_reanchor _)
  have hcleared (t : Sys) : SameDesk t (appLcdFaultCleared t) :=
    (show SameDesk t { t with lcd := toRunPage t.lcd } from ⟨rfl, rfl, rfl, rfl⟩).branch _
  have hnoted (err : ErrorStatus) (t : Sys) :
      SameDesk t { t with lcd := { t.lcd with prevErr := err } } := ⟨rfl, rfl, rfl, rfl⟩
  have hmirrored : SameDesk s { s with lcd := { s.lcd with
      errorStatus := s.measure.errorStatus } } := ⟨rfl, rfl, rfl, rfl⟩
  unfold appLcdTick
  dsimp only
  split_ifs
  · exact (hmirrored.trans (hshown _)).trans (hnoted _ _)
  · exact (hmirrored.trans (hcleared _)).trans (hnoted _ _)
  · exact hmirrored.trans (hnoted _ _)

theorem desk_setOverload (on : Bool) (s : Sys) : SameDesk s (appLcdSetOverload on s) := by
  unfold appLcdSetOverload
  dsimp only
  split_ifs <;> exact ⟨rfl, rfl, rfl, rfl⟩

theorem desk_setEstop (on : Bool) (s : Sys) : SameDesk s (appLcdSetEstop on s) := by
  unfold appLcdSetEstop
  split_ifs
  · exact (show SameDesk s { s with lcd := { s.lcd with lcdStatus := .warning } } from
      ⟨rfl, rfl, rfl, rfl⟩).trans (desk_reanchor _)
  · exact ⟨rfl, rfl, rfl, rfl⟩
  · exact SameDesk.refl s

theorem desk_weldSolEdge (level : Bool) (s : Sys) : SameDesk s (weldSolEdge level s) := by
  unfold weldSolEdge
  split_ifs <;> exact ⟨rfl, rfl, rfl, rfl⟩

theorem desk_weldAbortNow (s : Sys) : SameDesk s (appWeldAbortNow s) := by
  unfold appWeldAbortNow
  dsimp only
  split_ifs
  · refine SameDesk.trans (SameDesk.trans ?_ (desk_weldSolEdge _ _)) (desk_regCommand _ _ _ _)
    exact ⟨rfl, rfl, rfl, rfl⟩
  · refine SameDesk.trans ?_ (desk_weldSolEdge _ _)
    exact ⟨rfl, rfl, rfl, rfl⟩

theorem desk_overloadTick (tick : OverloadTickIn) (s : Sys) :
    SameDesk s (appOverloadTick tick s) := by
  have hassert (t : Sys) : SameDesk t (overloadAssert tick.now t) := by
    have hshown := desk_setOverload true { t with pins := { t.pins with ovldRelay := true } }
    exact ⟨hshown.fram, hshown.pot, hshown.horn, hshown.sheet⟩
  have hhold (t : Sys) : SameDesk t (overloadHold tick.now t) := by
    have hreleased := desk_releasePublished t
    unfold overloadHold
    dsimp only
    split_ifs <;> exact ⟨hreleased.fram, hreleased.pot, hreleased.horn, hreleased.sheet⟩
  have hdeassert (t : Sys) : SameDesk t (overloadDeassert t) := by
    have hshown := desk_setOverload false { releasePublished t with
      pins := { (releasePublished t).pins with ovldRelay := false } }
    exact (desk_releasePublished t).trans ⟨hshown.fram, hshown.pot, hshown.horn, hshown.sheet⟩
  have hsample : SameDesk s (overloadSample tick s).1 := ⟨rfl, rfl, rfl, rfl⟩
  have hbody : SameDesk s (overloadBody tick s) :=
    ((hsample.trans ((hassert _).branch _)).trans ((hhold _).branch _)).trans
      ((hdeassert _).branch _)
  exact hbody.branch _

theorem desk_inputTick (tick : InputTickIn) (s : Sys) : SameDesk s (appInputTick tick s) := by
  have hbeeped (t : Sys) : SameDesk t (appBuzzerBeepMs 250
      { t with input := { t.input with blinkMs := tick.now } }) := ⟨rfl, rfl, rfl, rfl⟩
  have hdropped (t : Sys) : SameDesk t (ioSolDn false t) := ⟨rfl, rfl, rfl, rfl⟩
  have henter (t : Sys) : SameDesk t (estopEnter tick.now t) :=
    (((hdropped t).trans (desk_weldAbortNow _)).trans (desk_setEstop true _)).trans (hbeeped _)
  have hhold (t : Sys) : SameDesk t (estopHold tick.now t) := by
    have hreleased := desk_releasePublished t
    unfold estopHold
    dsimp only
    split_ifs <;> exact ⟨hreleased.fram, hreleased.pot, hreleased.horn, hreleased.sheet⟩
  have hbutton (cmd : UsCmd) (press : Bool) (now : ℕ) (t : Sys) :
      SameDesk t (if press then appRegCommand cmd .remote now t else t) :=
    (desk_regCommand cmd .remote now t).branch _
  have hbuttons (out : InputOut) (t : Sys) : SameDesk t (inputButtons out tick.tCmd t) := by
    unfold inputButtons
    dsimp only
    exact (((hbutton _ _ _ _).trans (hbutton _ _ _ _)).trans (hbutton _ _ _ _)).trans
      (hbutton _ _ _ _)
  have hsample : SameDesk s (inputSample tick s).1 := ⟨rfl, rfl, rfl, rfl⟩
  have hlast (t : Sys) : SameDesk t (if (inputSample tick s).2.estopActive then
      estopHold tick.now t else inputButtons (inputSample tick s).2 tick.tCmd t) := by
    split_ifs
    · exact hhold t
    · exact hbuttons _ t
  have hbody : SameDesk s (inputBody tick s) :=
    ((hsample.trans ((henter _).branch _)).trans ((desk_setEstop false _).branch _)).trans
      (hlast _)
  unfold appInputTick
  exact hbody.branch _

theorem desk_hornTick (tick : HornTickIn) (s : Sys) : SameDesk s (appHornTick tick s) := by
  have hsolenoid : SameDesk s (hornSolenoid tick s) := by
    unfold hornSolenoid
    dsimp only
    split_ifs <;> exact ⟨rfl, rfl, rfl, rfl⟩
  unfold appHornTick hornBody
  dsimp only
  split_ifs
  · exact hsolenoid.trans (desk_regCommand _ _ _ _)
  · exact hsolenoid
  · exact hsolenoid
  · exact SameDesk.refl s

theorem desk_regTick (lim : RegRunLimits) (tick : RegTickIn) (s : Sys) :
    SameDesk s (appRegTick lim tick s) := by
  have hrest := (appRegTick_spec lim tick s).rest
  rw [hrest]
  exact ⟨rfl, rfl, rfl, rfl⟩

/-- The calls off the desk reach neither FRAM, potentiometer, horn mode nor the panel's sheet. -/
theorem exec_desk (build : Build) {call : Call} (hoff : call.offDesk = true) (s : Sys) :
    SameDesk s (call.exec build s) := by
  cases call with
  | lcdTick => exact desk_lcdTick s
  | overloadTick tick => exact desk_overloadTick tick s
  | inputTick tick => exact desk_inputTick tick s
  | hornTick tick => exact desk_hornTick tick s
  | seekResetTick now =>
    show SameDesk s (appSeekResetTick now s)
    unfold appSeekResetTick
    split_ifs <;> exact ⟨rfl, rfl, rfl, rfl⟩
  | regTick tick => exact desk_regTick _ tick s
  | faultAlarmTick now =>
    show SameDesk s (appFaultAlarmTick now s)
    unfold appFaultAlarmTick
    dsimp only
    split_ifs <;> exact ⟨rfl, rfl, rfl, rfl⟩
  | buzzerTick now =>
    show SameDesk s (appBuzzerTick now s)
    unfold appBuzzerTick
    split_ifs <;> exact ⟨rfl, rfl, rfl, rfl⟩
  | _ => cases hoff

/-! ### The weld tick -/

/-- The amplitude a call of the weld cycle writes to the potentiometer, if it writes one: the
amplitude of a `weld_start` or an `amp_change`. -/
def weldAmp (call : Call) (s : Sys) : Option ℕ :=
  match call with
  | .weldTick tick =>
    let out := (weldBodyStep tick (weldAdvance tick s)).2
    if weldSteps tick s ∧ (out.weldStart = true ∨ out.ampChange = true) then some out.amplitude
    else none
  | _ => none

/-- The level `i2c_pot_set_dac` writes. -/
def potLevel (dac : ℕ) : ℕ := if dac > 127 then 127 else dac

/-- What a weld tick does to the desk: a finished cycle is counted and saved, and the potentiometer
gets the amplitude of the cycle. -/
structure WeldDesk (tick : WeldTickIn) (s s' : Sys) : Prop where
  cfg : s'.cfg = if (weldEdges (.weldTick tick) s).cycleDone
    then { s.cfg with workCnt := (s.cfg.workCnt + 1) % 2 ^ 32 } else s.cfg
  fram : s'.fram = if (weldEdges (.weldTick tick) s).cycleDone
    then appConfigSaveAll tick.bus s'.cfg s.fram else s.fram
  pot : s'.pins.pot = ((weldAmp (.weldTick tick) s).map potLevel).getD s.pins.pot
  horn : s'.horn.mode = s.horn.mode
  sheet : s'.lcd.sheet = s.lcd.sheet

theorem weldOutputs_desk (out : WeldOut) (tCmd : ℕ) (s : Sys) :
    let stopped := weldOutFault out (weldOutStop out (weldOutAmp out
      (weldOutStart out tCmd (weldSolEdge out.solDn s))))
    Steady s stopped ∧ stopped.fram = s.fram ∧ stopped.horn.mode = s.horn.mode ∧
      stopped.lcd.sheet = s.lcd.sheet ∧
      stopped.pins.pot = if out.weldStart = true ∨ out.ampChange = true
        then potLevel out.amplitude else s.pins.pot := by
  have hedge := desk_weldSolEdge out.solDn s
  have hstart (t : Sys) : SameDesk (if out.weldStart then i2cPotSetDac out.amplitude t else t)
      (weldOutStart out tCmd t) := by
    unfold weldOutStart
    split_ifs
    · exact desk_regCommand .start .cycle tCmd _
    · exact SameDesk.refl t
  have hstop (t : Sys) : SameDesk t (weldOutFault out (weldOutStop out t)) := by
    have hfault (r : Sys) : SameDesk r (weldOutFault out r) :=
      (show SameDesk r (appRegRaiseOvtime r) from ⟨rfl, rfl, rfl, rfl⟩).branch _
    exact ((desk_regCommand _ _ _ t).branch _).trans (hfault _)
  have hcfg : Steady s (weldOutFault out (weldOutStop out (weldOutAmp out
      (weldOutStart out tCmd (weldSolEdge out.solDn s))))) := by
    have hstarted (t : Sys) : Steady t (weldOutStart out tCmd t) := by
      have hpot : Steady t (i2cPotSetDac out.amplitude t) := ⟨rfl, rfl⟩
      exact (hpot.trans (steady_regCommand _ _ _ _)).branch _
    have hamp (t : Sys) : Steady t (weldOutAmp out t) :=
      (show Steady t (i2cPotSetDac out.amplitude t) from ⟨rfl, rfl⟩).branch _
    have hfault (t : Sys) : Steady t (weldOutFault out t) :=
      (show Steady t (appRegRaiseOvtime t) from ⟨rfl, rfl⟩).branch _
    exact ((((steady_weldSolEdge _ s).trans (hstarted _)).trans (hamp _)).trans
      ((steady_regCommand _ _ _ _).branch _)).trans (hfault _)
  have hbefore := hstart (weldSolEdge out.solDn s)
  have hafter := hstop (weldOutAmp out (weldOutStart out tCmd (weldSolEdge out.solDn s)))
  refine ⟨hcfg, hafter.fram.trans ?_, hafter.horn.trans ?_, hafter.sheet.trans ?_,
    hafter.pot.trans ?_⟩
  · refine Eq.trans ?_ (hbefore.fram.trans ?_)
    · unfold weldOutAmp
      split_ifs <;> rfl
    · split_ifs <;> exact hedge.fram
  · refine Eq.trans ?_ (hbefore.horn.trans ?_)
    · unfold weldOutAmp
      split_ifs <;> rfl
    · split_ifs <;> exact hedge.horn
  · refine Eq.trans ?_ (hbefore.sheet.trans ?_)
    · unfold weldOutAmp
      split_ifs <;> rfl
    · split_ifs <;> exact hedge.sheet
  · have hpot := hbefore.pot
    unfold weldOutAmp
    by_cases hamp : out.ampChange = true
    · rw [if_pos hamp, if_pos (Or.inr hamp)]
      rfl
    · rw [if_neg hamp, hpot]
      by_cases hweld : out.weldStart = true
      · rw [if_pos hweld, if_pos (Or.inl hweld)]
        rfl
      · rw [if_neg hweld, if_neg (by simp [hweld, hamp])]
        exact hedge.pot

/-- A body of the weld tick leaves the desk as its outputs say. -/
theorem weldBody_desk (tick : WeldTickIn) (s : Sys) :
    let out := (weldBodyStep tick s).2
    let s' := weldBody tick s
    s'.cfg = (if out.cycleDone then { s.cfg with workCnt := (s.cfg.workCnt + 1) % 2 ^ 32 }
        else s.cfg) ∧
      s'.fram = (if out.cycleDone then appConfigSaveAll tick.bus s'.cfg s.fram else s.fram) ∧
      s'.pins.pot = (if out.weldStart = true ∨ out.ampChange = true then potLevel out.amplitude
        else s.pins.pot) ∧
      s'.horn.mode = s.horn.mode ∧ s'.lcd.sheet = s.lcd.sheet := by
  intro out s'
  obtain ⟨hcfg, hfram, hhorn, hsheet, hpot⟩ := weldOutputs_desk out tick.tCmd (weldStepped tick s)
  have hstepped : (weldStepped tick s).cfg = s.cfg ∧ (weldStepped tick s).fram = s.fram ∧
      (weldStepped tick s).pins = s.pins ∧ (weldStepped tick s).horn = s.horn ∧
      (weldStepped tick s).lcd = s.lcd := by
    rw [(weldStepped_eq tick s).1]
    exact ⟨rfl, rfl, rfl, rfl, rfl⟩
  have hdone : s' = weldOutDone tick.bus out (weldOutFault out (weldOutStop out (weldOutAmp out
      (weldOutStart out tick.tCmd (weldSolEdge out.solDn (weldStepped tick s)))))) := rfl
  have hcfg' := hcfg.1.trans hstepped.1
  have hfram' := hfram.trans hstepped.2.1
  have hpot' := hpot.trans (by rw [hstepped.2.2.1])
  have hhorn' := hhorn.trans (congrArg HornGlue.mode hstepped.2.2.2.1)
  have hsheet' := hsheet.trans (congrArg LcdState.sheet hstepped.2.2.2.2)
  rw [hdone]
  generalize weldOutFault out (weldOutStop out (weldOutAmp out (weldOutStart out tick.tCmd
    (weldSolEdge out.solDn (weldStepped tick s))))) = stopped at hcfg' hfram' hpot' hhorn' hsheet'
  unfold weldOutDone
  by_cases hcount : out.cycleDone = true
  · simp only [if_pos hcount]
    refine ⟨?_, ?_, hpot', hhorn', hsheet'⟩
    · rw [← hcfg']
      rfl
    · rw [← hfram']
      rfl
  · simp only [if_neg hcount]
    exact ⟨hcfg', hfram', hpot', hhorn', hsheet'⟩

theorem weldTick_desk (tick : WeldTickIn) (s : Sys) : WeldDesk tick s (appWeldTick tick s) := by
  cases hsteps : weldSteps tick s with
  | true =>
    have hdue := weldSteps_iff.mp hsteps
    have hbody : appWeldTick tick s = weldBody tick (weldAdvance tick s) := by
      rw [appWeldTick, if_neg (by simp [hdue.1]), if_neg (by simp [hdue.2])]
    obtain ⟨hcfg, hfram, hpot, hhorn, hsheet⟩ := weldBody_desk tick (weldAdvance tick s)
    have hedges : (weldEdges (.weldTick tick) s).cycleDone =
        (weldBodyStep tick (weldAdvance tick s)).2.cycleDone := by
      rw [weldEdges, if_pos hsteps]
      rfl
    have hamp : ((weldAmp (.weldTick tick) s).map potLevel).getD s.pins.pot =
        if (weldBodyStep tick (weldAdvance tick s)).2.weldStart = true ∨
          (weldBodyStep tick (weldAdvance tick s)).2.ampChange = true
        then potLevel (weldBodyStep tick (weldAdvance tick s)).2.amplitude else s.pins.pot := by
      rw [weldAmp, hsteps]
      split_ifs with h₁ h₂ h₂
      · rfl
      · exact absurd h₁.2 h₂
      · exact absurd ⟨rfl, h₂⟩ h₁
      · rfl
    rw [hbody]
    exact ⟨by rw [hedges]; exact hcfg, by rw [hedges]; exact hfram, hpot.trans hamp.symm, hhorn,
      hsheet⟩
  | false =>
    have hedges : (weldEdges (.weldTick tick) s).cycleDone = false := by
      rw [weldEdges, if_neg (by simp [hsteps])]
    have hamp : weldAmp (.weldTick tick) s = none := by
      rw [weldAmp]
      exact if_neg (by simp [hsteps])
    rcases appWeldTick_cases tick s with ⟨-, heq⟩ | ⟨-, -, heq⟩ | ⟨hgoes, -⟩
    · rw [heq]
      exact ⟨by simp [hedges], by simp [hedges], by simp [hamp], rfl, rfl⟩
    · rw [heq]
      exact ⟨by simp [hedges, weldAdvance], by simp [hedges, weldAdvance],
        by simp [hamp, weldAdvance], rfl, rfl⟩
    · rw [hsteps] at hgoes
      cases hgoes

/-! ### The Ethernet tick -/

/-- The second state has FRAM, outputs, horn glue and panel state of the first. -/
def EthSide (s s' : Sys) : Prop :=
  s'.fram = s.fram ∧ s'.pins = s.pins ∧ s'.horn = s.horn ∧ s'.lcd = s.lcd

theorem EthSide.trans {s mid s' : Sys} (hfirst : EthSide s mid) (hsecond : EthSide mid s') :
    EthSide s s' :=
  ⟨hsecond.1.trans hfirst.1, hsecond.2.1.trans hfirst.2.1, hsecond.2.2.1.trans hfirst.2.2.1,
    hsecond.2.2.2.trans hfirst.2.2.2⟩

theorem ethSide_applyOnLink (s : Sys) : EthSide s (ethApplyOnLink s) := by
  unfold ethApplyOnLink
  split_ifs <;> exact ⟨rfl, rfl, rfl, rfl⟩

theorem ethSide_reapply (s : Sys) : EthSide s (ethReapply s) := by
  have hreset : EthSide s (ethApplyOnLink (appModbusTcpReset s)) :=
    (show EthSide s (appModbusTcpReset s) from ⟨rfl, rfl, rfl, rfl⟩).trans (ethSide_applyOnLink _)
  unfold ethReapply
  cases s.eth.phase with
  | staticUp => exact hreset
  | dhcpRun =>
    dsimp only
    split_ifs
    · exact ⟨rfl, rfl, rfl, rfl⟩
    · exact hreset
  | down => exact ⟨rfl, rfl, rfl, rfl⟩
  | linkwait => exact ⟨rfl, rfl, rfl, rfl⟩

theorem ethSide_events (events : List DhcpEvent) (s : Sys) :
    EthSide s (events.foldl (fun s event ↦ dhcpEvent event s) s) := by
  induction events generalizing s with
  | nil => exact ⟨rfl, rfl, rfl, rfl⟩
  | cons event events ih =>
    have hone : EthSide s (dhcpEvent event s) := by
      cases event <;> exact ⟨rfl, rfl, rfl, rfl⟩
    exact hone.trans (ih _)

theorem ethSide_dhcpRun (tick : EthTickIn) (s : Sys) : EthSide s (ethDhcpRun tick s) := by
  have hclock (t : Sys) : EthSide t { t with eth := { t.eth with dhcpMs := tick.now } } :=
    ⟨rfl, rfl, rfl, rfl⟩
  have hfailed (t : Sys) : EthSide t
      { t with eth := { t.eth with available := false, dhcpMs := tick.now } } :=
    ⟨rfl, rfl, rfl, rfl⟩
  unfold ethDhcpRun
  dsimp only
  split_ifs
  · exact ((hclock s).trans (ethSide_events _ _)).trans (hfailed _)
  · exact (ethSide_events _ s).trans (hfailed _)
  · exact (hclock s).trans (ethSide_events _ _)
  · exact ethSide_events _ s

theorem ethSide_linkPoll (tick : EthTickIn) (s : Sys) : EthSide s (ethLinkPoll tick s) := by
  have hclock : EthSide s { s with eth := { s.eth with linkMs := tick.now } } :=
    ⟨rfl, rfl, rfl, rfl⟩
  unfold ethLinkPoll
  dsimp only
  split_ifs
  · exact hclock.trans (ethSide_applyOnLink _)
  · exact hclock
  · exact ⟨rfl, rfl, rfl, rfl⟩

/-- The dirty flag is taken. -/
theorem ethSide_takeDirty (s : Sys) :
    EthSide { s with lcd := { s.lcd with etherDirty := false } } (ethTakeDirty s) := by
  unfold ethTakeDirty
  split_ifs with hdirty
  · exact ethSide_reapply _
  · have hclean : s.lcd.etherDirty = false := by simpa using hdirty
    refine ⟨rfl, rfl, rfl, ?_⟩
    show s.lcd = { s.lcd with etherDirty := false }
    rw [← hclean]

/-- The Ethernet tick takes the dirty flag and leaves the rest of the desk alone. -/
theorem ethTick_desk (tick : EthTickIn) (s : Sys) :
    EthSide { s with lcd := { s.lcd with etherDirty := false } } (appEthTick tick s) := by
  refine (ethSide_takeDirty s).trans ?_
  unfold appEthTick
  dsimp only
  split
  · exact ethSide_linkPoll tick _
  · exact ethSide_dhcpRun tick _
  · exact ⟨rfl, rfl, rfl, rfl⟩
  · exact ⟨rfl, rfl, rfl, rfl⟩

/-! ### The Modbus tick -/

theorem desk_readOnly {s s' : Sys} (h : ReadOnly s s') : SameDesk s s' := by
  obtain ⟨_, _, _, _, rfl⟩ := h
  exact ⟨rfl, rfl, rfl, rfl⟩

theorem desk_wrote {s s' : Sys} (h : Wrote s s') : SameDesk s s' := by
  obtain ⟨_, _, _, mid, hbefore, hafter⟩ := h
  exact (desk_readOnly hbefore).trans
    ((show SameDesk mid (onCore _ mid) from ⟨rfl, rfl, rfl, rfl⟩).trans (desk_readOnly hafter))

theorem desk_modbusHead (build : Build) (input : ModbusTickIn) (s : Sys) :
    SameDesk s (modbusHead build input s) := by
  have hgate : SameDesk s (remoteEnStep build input.tGate input.remoteEnPin s) := by
    unfold remoteEnStep
    cases build.model <;> exact ⟨rfl, rfl, rfl, rfl⟩
  have hhold (t : Sys) : SameDesk t (holdWdtBlock input.tHold t) := by
    unfold holdWdtBlock
    dsimp only
    split_ifs
    · exact (show SameDesk t (onModbus _ t) from ⟨rfl, rfl, rfl, rfl⟩).trans
        (desk_regCommand _ _ _ _)
    · exact ⟨rfl, rfl, rfl, rfl⟩
  have hline (t : Sys) : SameDesk t (applyConfig build input.sensDnAcquire t) := by
    unfold applyConfig
    dsimp only
    split_ifs <;> exact ⟨rfl, rfl, rfl, rfl⟩
  have hstage (t : Sys) : SameDesk t (stageTick input.tStage t) := ⟨rfl, rfl, rfl, rfl⟩
  unfold modbusHead
  exact ((hgate.trans (hhold _)).trans (hstage _)).trans (hline _)

theorem desk_tcpLeave (s : Sys) : SameDesk s (tcpLeave s) := by
  unfold tcpLeave
  split_ifs <;> exact ⟨rfl, rfl, rfl, rfl⟩

theorem desk_tickMirror {build : Build} {input : ModbusTickIn} {s mirrored : Sys}
    (hmirrored : tickMirror build input s = some mirrored) : SameDesk s mirrored := by
  have henter (t : Sys) : SameDesk t (tcpEnter t) := by
    unfold tcpEnter
    split_ifs <;> exact ⟨rfl, rfl, rfl, rfl⟩
  have hmirror (t : Sys) : SameDesk t (mirrorLive build input.sensDn t) := ⟨rfl, rfl, rfl, rfl⟩
  unfold tickMirror at hmirrored
  dsimp only at hmirrored
  split_ifs at hmirrored
  · obtain rfl := Option.some.inj hmirrored
    exact (desk_modbusHead build input s).trans ((desk_tcpLeave _).trans (hmirror _))
  · obtain rfl := Option.some.inj hmirrored
    exact (desk_modbusHead build input s).trans ((henter _).trans (hmirror _))

/-- A tick up to its apply leaves the desk alone. -/
theorem desk_modbusPass (build : Build) (input : ModbusTickIn) (s : Sys) :
    SameDesk s (modbusPass build input s).1 := by
  cases hlink : (modbusPass build input s).2 with
  | none =>
    rcases modbusPass_readOnly hlink with ⟨mirrored, hmirrored, hread⟩ | ⟨-, hleave⟩
    · exact (desk_tickMirror hmirrored).trans (desk_readOnly hread)
    · rw [hleave]
      exact (desk_modbusHead build input s).trans (desk_tcpLeave _)
  | some link =>
    obtain ⟨mirrored, hmirrored, hwrote⟩ := modbusPass_wrote hlink
    exact (desk_tickMirror hmirrored).trans (desk_wrote hwrote)

/-- What a branch of the apply chain does to the desk. -/
structure BranchDesk (s : Sys) (result : Sys × Bool) : Prop where
  fram : result.1.fram = s.fram
  sheet : { result.1.lcd with etherDirty := s.lcd.etherDirty } = s.lcd
  unsaved : result.2 = false → result.1.cfg = s.cfg ∧ result.1.lcd = s.lcd

theorem BranchDesk.of_quiet {s s' : Sys} (hstored : Stored s s') (hlcd : s'.lcd = s.lcd)
    (save : Bool) : BranchDesk s (s', save) :=
  ⟨hstored.2, by rw [hlcd], fun _ ↦ ⟨hstored.1, hlcd⟩⟩

/-- A START is applied: by a tap, or at the begin of a session that may start. -/
def startApplied (s : Sys) : Bool :=
  decide (holding s .start = 1) || (decide (holding s .start = 2) && appRegStartAllowed s)

theorem lcd_regCommand (cmd : UsCmd) (src : UsRun) (now : ℕ) (s : Sys) :
    (appRegCommand cmd src now s).lcd = s.lcd := by
  rw [appRegCommand_eq]

theorem startCmdBody_lcd (value : ℕ) (input : ApplyIn) (s : Sys) :
    (startCmdBody value input s).lcd = s.lcd := by
  have hstart := lcd_regCommand .start .comm input.tCmd s
  unfold startCmdBody
  split_ifs <;> first | exact hstart | rfl

/-- The level the potentiometer takes from the output power. -/
def powerLevel (cfg : AppConfig) : ℕ := potLevel (potDacFromPower cfg.outputPower)

/-- Only a START moves the potentiometer, to the level of the output power. -/
theorem startCmdBody_pot (value : ℕ) (input : ApplyIn) (s : Sys) :
    (startCmdBody value input s).pins.pot = s.pins.pot ∨
      ((value = 1 ∨ (value = 2 ∧ appRegStartAllowed s = true)) ∧
        (startCmdBody value input s).pins.pot = powerLevel s.cfg) := by
  unfold startCmdBody
  split_ifs with htap hbegin hallowed
  · exact Or.inr ⟨Or.inl htap, rfl⟩
  · exact Or.inr ⟨Or.inr ⟨hbegin, hallowed⟩, rfl⟩
  all_goals exact Or.inl rfl

theorem hornRule_lcd (s : Sys) : (hornRule.act s).1.lcd = s.lcd ∧
    (hornRule.act s).1.pins.pot = s.pins.pot := by
  simp only [hornRule, appHornSetMode]
  split_ifs <;> exact ⟨rfl, rfl⟩

/-- Every branch keeps the image, and of the panel all but the dirty flag; a branch that asks for no
save keeps configuration and panel. -/
theorem applyRules_desk (link : MbLink) (input : ApplyIn) (s : Sys) :
    ∀ rule ∈ applyRules link input, BranchDesk s (rule.act s) := by
  have hcommand (reg : MbReg) (cmd : UsCmd) :
      BranchDesk s (setHolding reg 0 (appRegCommand cmd .comm 0 s), false) := by
    have hstored : Stored s (setHolding reg 0 (appRegCommand cmd .comm 0 s)) :=
      (stored_regCommand cmd .comm 0 s).trans ⟨rfl, rfl⟩
    exact .of_quiet hstored (lcd_regCommand cmd .comm 0 s) _
  have hstart : BranchDesk s
      (startCmdBody (holding s .start) input (setHolding .start 0 s), false) :=
    .of_quiet ((show Stored s (setHolding .start 0 s) from ⟨rfl, rfl⟩).trans
      (stored_startCmdBody _ input _)) (startCmdBody_lcd _ input (setHolding .start 0 s)) false
  have hctrl : BranchDesk s (cfgCtrlBody link (holding s .cfgCtrl) (setHolding .cfgCtrl 0 s)) := by
    unfold cfgCtrlBody
    dsimp only
    split_ifs
    · exact ⟨rfl, rfl, by rintro ⟨⟩⟩
    · exact ⟨rfl, rfl, fun _ ↦ ⟨rfl, rfl⟩⟩
    · exact ⟨rfl, rfl, fun _ ↦ ⟨rfl, rfl⟩⟩
    · exact ⟨rfl, rfl, fun _ ↦ ⟨rfl, rfl⟩⟩
  have hstore (cfg : AppConfig) : BranchDesk s ({ s with cfg := cfg }, true) :=
    ⟨rfl, rfl, by rintro ⟨⟩⟩
  have hsafty : BranchDesk s (saftyRule.act s) := by
    simp only [saftyRule]
    split_ifs
    · exact hstore _
    · exact .of_quiet (Stored.refl s) rfl _
    · exact hstore _
    · exact .of_quiet (Stored.refl s) rfl _
  have hhorn : BranchDesk s (hornRule.act s) := by
    refine .of_quiet ?_ (hornRule_lcd s).1 _
    simp only [hornRule, appHornSetMode]
    split_ifs <;> exact ⟨rfl, rfl⟩
  simp only [applyRules, commandRules, configRules, List.cons_append, List.nil_append,
    List.forall_mem_cons, List.not_mem_nil, false_implies, implies_true, and_true]
  exact ⟨hcommand _ _, hcommand _ _, hstart, hcommand _ _, hctrl, hstore _, hstore _, hstore _,
    hstore _, hstore _, hstore _, hstore _, hstore _, hstore _, hstore _, hstore _, hstore _,
    hstore _, hstore _, hstore _, hstore _, hsafty, hhorn, hstore _, hstore _, hstore _, hstore _,
    hstore _⟩

/-- No branch moves the potentiometer, unless a START is applied. -/
theorem applyRules_pot (link : MbLink) (input : ApplyIn) (s : Sys) :
    ∀ rule ∈ applyRules link input, (rule.act s).1.pins.pot = s.pins.pot ∨
      (startApplied s = true ∧ (rule.act s).1.pins.pot = powerLevel s.cfg) := by
  have hcommand (reg : MbReg) (cmd : UsCmd) :
      (setHolding reg 0 (appRegCommand cmd .comm 0 s)).pins.pot = s.pins.pot :=
    (desk_regCommand cmd .comm 0 s).pot
  have hstart : (startCmdBody (holding s .start) input (setHolding .start 0 s)).pins.pot =
      s.pins.pot ∨ (startApplied s = true ∧
        (startCmdBody (holding s .start) input (setHolding .start 0 s)).pins.pot =
          powerLevel s.cfg) := by
    refine (startCmdBody_pot (holding s .start) input (setHolding .start 0 s)).imp_right ?_
    rintro ⟨hvalue, hlevel⟩
    refine ⟨?_, hlevel⟩
    simp only [startApplied, Bool.or_eq_true, Bool.and_eq_true, decide_eq_true_eq]
    exact hvalue
  have hctrl : (cfgCtrlBody link (holding s .cfgCtrl) (setHolding .cfgCtrl 0 s)).1.pins.pot =
      s.pins.pot := by
    unfold cfgCtrlBody
    dsimp only
    split_ifs <;> rfl
  have hstore (cfg : AppConfig) : ({ s with cfg := cfg } : Sys).pins.pot = s.pins.pot := rfl
  have hsafty : (saftyRule.act s).1.pins.pot = s.pins.pot := by
    simp only [saftyRule]
    split_ifs <;> rfl
  simp only [applyRules, commandRules, configRules, List.cons_append, List.nil_append,
    List.forall_mem_cons, List.not_mem_nil, false_implies, implies_true, and_true]
  exact ⟨Or.inl (hcommand _ _), Or.inl (hcommand _ _), hstart, Or.inl (hcommand _ _),
    Or.inl hctrl, Or.inl (hstore _), Or.inl (hstore _), Or.inl (hstore _), Or.inl (hstore _),
    Or.inl (hstore _), Or.inl (hstore _), Or.inl (hstore _), Or.inl (hstore _), Or.inl (hstore _),
    Or.inl (hstore _), Or.inl (hstore _), Or.inl (hstore _), Or.inl (hstore _), Or.inl (hstore _),
    Or.inl (hstore _), Or.inl (hstore _), Or.inl hsafty, Or.inl (hornRule_lcd s).2,
    Or.inl (hstore _), Or.inl (hstore _), Or.inl (hstore _), Or.inl (hstore _),
    Or.inl (hstore _)⟩

/-- The branch that acts on a request keeps to the desk as every branch does. -/
theorem pickedBranch_desk (link : MbLink) (input : ApplyIn) (s : Sys) :
    BranchDesk s (pickedBranch link input s) := by
  have hscan : BranchDesk s (stagedScan input.tStage s, false) := by
    unfold stagedScan
    split <;> exact ⟨rfl, rfl, fun _ ↦ ⟨rfl, rfl⟩⟩
  exact firstMatch_induction (BranchDesk s) hscan fun rule hrule _ ↦
    applyRules_desk link input s rule hrule

theorem pickedBranch_pot (link : MbLink) (input : ApplyIn) (s : Sys) :
    (pickedBranch link input s).1.pins.pot = s.pins.pot ∨
      (startApplied s = true ∧ (pickedBranch link input s).1.pins.pot = powerLevel s.cfg) := by
  have hscan : (stagedScan input.tStage s).pins.pot = s.pins.pot := by
    unfold stagedScan
    split <;> rfl
  exact firstMatch_induction (fun result : Sys × Bool ↦ result.1.pins.pot = s.pins.pot ∨
      (startApplied s = true ∧ result.1.pins.pot = powerLevel s.cfg)) (Or.inl hscan)
    fun rule hrule _ ↦ applyRules_pot link input s rule hrule

theorem desk_gateRejectBody (s : Sys) : SameDesk s (gateRejectBody s) := by
  have hset (reg : MbReg) (value : ℕ) (t : Sys) : SameDesk t (setHolding reg value t) :=
    ⟨rfl, rfl, rfl, rfl⟩
  have herased := ((hset .reset 0 s).trans (hset .seek 0 _)).trans (hset .start 0 _)
  unfold gateRejectBody
  dsimp only
  split_ifs
  · exact ((herased.trans (desk_regCommand _ _ _ _)).trans (hset _ _ _)).trans (hset _ _ _)
  · exact (herased.trans (hset _ _ _)).trans (hset _ _ _)

/-- The Modbus tick ends with a save: a request was let through, and its branch asked for one. -/
def modbusSaves (build : Build) (input : ModbusTickIn) (s : Sys) : Bool :=
  let pass := modbusPass build input s
  match pass.2 with
  | none => false
  | some link =>
    !gateClosed build pass.1 && (pickedBranch link input.apply (countApply pass.1)).2

/-- The Modbus tick applies a START. -/
def modbusStarts (build : Build) (input : ModbusTickIn) (s : Sys) : Bool :=
  let pass := modbusPass build input s
  pass.2.isSome && !gateClosed build pass.1 && startApplied pass.1

/-- What a Modbus tick does to the desk. -/
structure ModbusDesk (build : Build) (input : ModbusTickIn) (s s' : Sys) : Prop where
  fram : s'.fram = if modbusSaves build input s then appConfigSaveAll input.apply.bus s'.cfg s.fram
    else s.fram
  calm : modbusSaves build input s = false → s'.cfg = s.cfg ∧ s'.lcd.sheet = s.lcd.sheet
  sheet : { s'.lcd.sheet with etherDirty := s.lcd.etherDirty } = s.lcd.sheet
  pot : s'.pins.pot = s.pins.pot ∨
    (modbusStarts build input s = true ∧ s'.pins.pot = powerLevel s.cfg)

/-- The sheet with the dirty flag of another panel state. -/
theorem sheet_dirty {lcd lcd' : LcdState} {dirty : Bool}
    (h : { lcd' with etherDirty := dirty } = lcd) :
    { lcd'.sheet with etherDirty := dirty } = lcd.sheet := by
  subst h
  rfl

theorem applyWrites_desk (build : Build) (link : MbLink) (input : ApplyIn) (s : Sys) :
    let saves := !gateClosed build s && (pickedBranch link input (countApply s)).2
    let s' := appModbusApplyWrites build link input s
    s'.fram = (if saves then appConfigSaveAll input.bus s'.cfg s.fram else s.fram) ∧
      (saves = false → s'.cfg = s.cfg ∧ s'.lcd.sheet = s.lcd.sheet) ∧
      { s'.lcd.sheet with etherDirty := s.lcd.etherDirty } = s.lcd.sheet ∧
      (s'.pins.pot = s.pins.pot ∨ ((!gateClosed build s && startApplied s) = true ∧
        s'.pins.pot = powerLevel s.cfg)) := by
  intro saves s'
  cases hgate : gateClosed build s with
  | true =>
    have hsave : saves = false := by simp [saves, hgate]
    have heq : s' = gateRejectBody (countApply s) := by
      show appModbusApplyWrites build link input s = _
      rw [appModbusApplyWrites, hgate, if_pos rfl]
    have hdesk := desk_gateRejectBody (countApply s)
    have hcfg := (stored_gateRejectBody (countApply s)).1
    rw [← heq] at hdesk hcfg
    have hdirty : s'.lcd.sheet.etherDirty = s.lcd.sheet.etherDirty :=
      congrArg LcdState.etherDirty hdesk.sheet
    refine ⟨?_, fun _ ↦ ⟨hcfg, hdesk.sheet⟩, ?_, Or.inl hdesk.pot⟩
    · rw [hsave, if_neg Bool.false_ne_true]
      exact hdesk.fram
    · exact (congrArg (fun sheet ↦ { sheet with etherDirty := s.lcd.etherDirty }) hdesk.sheet)
  | false =>
    have hpicked := pickedBranch_desk link input (countApply s)
    have heq : s' = _ := appModbusApplyWrites_open hgate
    have hsave : saves = (pickedBranch link input (countApply s)).2 := by simp [saves, hgate]
    have hpot : (pickedBranch link input (countApply s)).1.pins.pot = s.pins.pot ∨
        (startApplied s = true ∧
          (pickedBranch link input (countApply s)).1.pins.pot = powerLevel s.cfg) :=
      pickedBranch_pot link input (countApply s)
    rw [hsave, heq, Bool.not_false, Bool.true_and]
    generalize pickedBranch link input (countApply s) = picked at hpicked hpot
    obtain ⟨after, save⟩ := picked
    cases save with
    | true =>
      exact ⟨congrArg (appConfigSaveAll input.bus after.cfg) hpicked.fram, by rintro ⟨⟩,
        sheet_dirty hpicked.sheet, hpot⟩
    | false =>
      obtain ⟨hcfg, hlcd⟩ := hpicked.unsaved rfl
      exact ⟨hpicked.fram, fun _ ↦ ⟨hcfg, congrArg LcdState.sheet hlcd⟩,
        sheet_dirty hpicked.sheet, hpot⟩

theorem modbusTick_desk (build : Build) (input : ModbusTickIn) (s : Sys) :
    ModbusDesk build input s (appModbusTick build input s) := by
  have hpass := desk_modbusPass build input s
  have hstored := stored_modbusPass build input s
  have hdirty : (modbusPass build input s).1.lcd.sheet.etherDirty = s.lcd.sheet.etherDirty :=
    congrArg LcdState.etherDirty hpass.sheet
  rw [appModbusTick_eq_pass, finishPass]
  cases hlink : (modbusPass build input s).2 with
  | none =>
    have hsave : modbusSaves build input s = false := by rw [modbusSaves, hlink]
    refine ⟨?_, fun _ ↦ ⟨hstored.1, hpass.sheet⟩, ?_, Or.inl hpass.pot⟩
    · rw [hsave]
      exact hpass.fram
    · exact congrArg (fun sheet ↦ { sheet with etherDirty := s.lcd.etherDirty }) hpass.sheet
  | some link =>
    have hsave : modbusSaves build input s = (!gateClosed build (modbusPass build input s).1 &&
        (pickedBranch link input.apply (countApply (modbusPass build input s).1)).2) := by
      rw [modbusSaves, hlink]
    have hstart : modbusStarts build input s = (!gateClosed build (modbusPass build input s).1 &&
        startApplied (modbusPass build input s).1) := by
      rw [modbusStarts, hlink]
      simp
    obtain ⟨hfram, hcalm, hsheet, hpot⟩ := applyWrites_desk build link input.apply
      (modbusPass build input s).1
    generalize (modbusPass build input s).1 = mid at *
    dsimp only
    constructor
    · rw [hsave, ← hpass.fram]
      exact hfram
    · rw [hsave]
      intro hnone
      exact ⟨(hcalm hnone).1.trans hstored.1, (hcalm hnone).2.trans hpass.sheet⟩
    · rw [← hpass.sheet, ← hsheet]
      exact congrArg (fun dirty ↦ { (appModbusApplyWrites build link input.apply mid).lcd.sheet with
        etherDirty := dirty }) hdirty.symm
    · rw [hstart, ← hpass.pot, ← hstored.1]
      exact hpot

/-! ### The panel -/

/-- The pages whose entry writes the potentiometer: the main setup page of each model. -/
def LcdPage.setsPot : LcdPage → Bool
  | .setupHand | .setupMulti | .setupStd1 => true
  | _ => false

/-- A panel frame writes the potentiometer: a RUN press, whether or not its START is accepted, the
entry to a main setup page, and a SAVE on the setup pages. -/
def FrameIn.setsPot (f : FrameIn) (s : Sys) : Bool :=
  match f.key with
  | some .keyMulti => decide (f.word = 3) || (decide (f.word = 0) && !s.lcd.runKeyDown)
  | some .setupParam => true
  | some .setupParamMoohan => (longPressReleased f.vpAddr f.word f.tKey s.lcd).2
  | some .commMode => s.lcd.lcdStatus.setsPot
  | some .dataSave => decide (f.word = 1) && decide (setupGroup s ≠ .model) &&
      decide (setupGroup s ≠ .other)
  | _ => false

/-- The second state has FRAM, horn mode and dirty flag of the first, and its potentiometer unless
`pots` says that it may be written. -/
structure PanelSide (pots : Bool) (s s' : Sys) : Prop where
  fram : s'.fram = s.fram
  horn : s'.horn.mode = s.horn.mode
  dirty : s'.lcd.etherDirty = s.lcd.etherDirty
  pot : pots = false → s'.pins.pot = s.pins.pot

theorem PanelSide.of_desk {s s' : Sys} (h : SameDesk s s') (pots : Bool) : PanelSide pots s s' where
  fram := h.fram
  horn := h.horn
  dirty := by
    have hsheet : s'.lcd.sheet.etherDirty = s.lcd.sheet.etherDirty :=
      congrArg LcdState.etherDirty h.sheet
    exact hsheet
  pot _ := h.pot

theorem PanelSide.trans {pots : Bool} {s mid s' : Sys} (hfirst : PanelSide pots s mid)
    (hsecond : PanelSide pots mid s') : PanelSide pots s s' :=
  ⟨hsecond.fram.trans hfirst.fram, hsecond.horn.trans hfirst.horn,
    hsecond.dirty.trans hfirst.dirty, fun hpots ↦ (hsecond.pot hpots).trans (hfirst.pot hpots)⟩

/-- Writes to the potentiometer that are announced. -/
theorem PanelSide.hookSetPot (power : ℕ) (s : Sys) : PanelSide true s (appLcdHookSetPot power s) :=
  ⟨rfl, rfl, rfl, by rintro ⟨⟩⟩

theorem side_renderPage (page : LcdPage) (s : Sys) :
    PanelSide page.setsPot s (renderPage page s) := by
  cases page <;>
    first
    | exact ⟨rfl, rfl, rfl, fun _ ↦ rfl⟩
    | exact ⟨rfl, rfl, rfl, by rintro ⟨⟩⟩
    | (simp only [renderPage, renderCommPage]
       split_ifs <;> exact ⟨rfl, rfl, rfl, fun _ ↦ rfl⟩)

theorem side_changePage (tPage : ℕ) (s : Sys) :
    PanelSide s.lcd.lcdStatus.setsPot s (appLcdChangePage tPage s) := by
  have hrendered := side_renderPage s.lcd.lcdStatus s
  exact ⟨hrendered.fram, hrendered.horn, hrendered.dirty, hrendered.pot⟩

theorem side_gotoPage (page : LcdPage) (tPage : ℕ) (s : Sys) :
    PanelSide page.setsPot s (gotoPage page tPage s) := by
  have hchanged := side_changePage tPage { s with lcd := { s.lcd with lcdStatus := page } }
  exact ⟨hchanged.fram, hchanged.horn, hchanged.dirty, hchanged.pot⟩

theorem side_keyMulti (data now : ℕ) (s : Sys) :
    PanelSide (decide (data = 3) || (decide (data = 0) && !s.lcd.runKeyDown)) s
      (handleKeyMulti data now s) := by
  have hcommand (cmd : UsCmd) (pots : Bool) (t : Sys) :
      PanelSide pots t (appLcdHookUsCommand cmd now t) :=
    .of_desk (desk_regCommand cmd .touch now t) pots
  have hreset (pots : Bool) : PanelSide pots s (handleKeyReset now s) := by
    have hafter := hcommand .reset pots s
    unfold handleKeyReset
    dsimp only
    split_ifs <;> exact ⟨hafter.fram, hafter.horn, hafter.dirty, hafter.pot⟩
  have htoggle : PanelSide (!s.lcd.runKeyDown) s (handleRunToggle now s) := by
    unfold handleRunToggle
    dsimp only
    cases hkey : s.lcd.runKeyDown with
    | true =>
      have hafter := hcommand .runRelease true
        { s with lcd := { s.lcd with runKeyDown := false } }
      exact ⟨hafter.fram, hafter.horn, hafter.dirty,
        fun _ ↦ (desk_regCommand .runRelease .touch now _).pot⟩
    | false =>
      have hafter := hcommand .start true { s with lcd := { s.lcd with runKeyDown := true } }
      exact ⟨hafter.fram, hafter.horn, hafter.dirty, by rintro ⟨⟩⟩
  unfold handleKeyMulti
  split_ifs with hone htwo hthree hfour hzero
  · exact hreset _
  · exact hcommand .seek _ s
  · rw [decide_eq_true hthree, Bool.true_or]
    exact (hcommand .start true s).trans (.hookSetPot _ _)
  · exact hcommand .runRelease _ s
  · rw [decide_eq_false hthree, decide_eq_true hzero, Bool.false_or, Bool.true_and]
    exact htoggle
  · exact ⟨rfl, rfl, rfl, fun _ ↦ rfl⟩

theorem side_keyErrorReset (data now : ℕ) (s : Sys) :
    PanelSide false s (handleKeyErrorReset data now s) := by
  have hafter : PanelSide false s (appLcdHookUsCommand .reset now s) :=
    .of_desk (desk_regCommand .reset .touch now s) _
  unfold handleKeyErrorReset
  dsimp only
  split_ifs
  · exact ⟨rfl, rfl, rfl, fun _ ↦ rfl⟩
  all_goals exact ⟨hafter.fram, hafter.horn, hafter.dirty, hafter.pot⟩

/-- A long press that was not held long enough only notes the press. -/
theorem side_longPressKey (vp data now : ℕ) {enter : Sys → Sys} {pots : Bool}
    (henter : ∀ t, PanelSide pots t (enter t)) (s : Sys) :
    PanelSide ((longPressReleased vp data now s.lcd).2 && pots) s
      (longPressKey vp data now enter s) := by
  obtain ⟨ms, mark, hmarked⟩ := longPressKey_marked vp data now enter s
  rw [hmarked]
  cases hreleased : (longPressReleased vp data now s.lcd).2 with
  | true =>
    rw [if_pos rfl, Bool.true_and]
    have hentered := henter (markPress ms mark s)
    exact ⟨hentered.fram, hentered.horn, hentered.dirty, hentered.pot⟩
  | false => exact ⟨rfl, rfl, rfl, fun _ ↦ rfl⟩

/-- From no page does the second setup step lead to a main page. -/
theorem setup2Page_setsPot (s : Sys) : (setup2Page s).setsPot = false := by
  unfold setup2Page
  cases s.lcd.lcdStatus <;> first | rfl | (dsimp only; split_ifs <;> rfl)

theorem setup3Page_setsPot (s : Sys) : (setup3Page s).setsPot = false := by
  unfold setup3Page
  cases s.lcd.lcdStatus <;> first | rfl | (dsimp only; split_ifs <;> rfl)

theorem side_stdSetupParam (data tPage : ℕ) (s : Sys) :
    PanelSide false s (handleStdSetupParam data tPage s) := by
  have hcomm : (if s.cfg.commMode = 0 then LcdPage.setupStdc else .setupStde).setsPot = false := by
    split_ifs <;> rfl
  unfold handleStdSetupParam
  split_ifs
  · exact ⟨rfl, rfl, rfl, fun _ ↦ rfl⟩
  · rw [← setup2Page_setsPot s]
    exact side_gotoPage _ _ _
  · rw [← setup3Page_setsPot s]
    exact side_gotoPage _ _ _
  · exact side_gotoPage .setupStdc tPage s
  · exact side_gotoPage .setupStde tPage s
  · exact ⟨rfl, rfl, rfl, fun _ ↦ rfl⟩
  · exact ⟨rfl, rfl, rfl, fun _ ↦ rfl⟩

theorem side_runMode (data tPage : ℕ) (s : Sys) :
    PanelSide false s (handleRunMode data tPage s) := by
  unfold handleRunMode
  split_ifs
  · have hpage := side_gotoPage .setupStd2d tPage { s with cfg := { s.cfg with runMode := 0 } }
    exact ⟨hpage.fram, hpage.horn, hpage.dirty, hpage.pot⟩
  · have hpage := side_gotoPage .setupStd2t tPage { s with cfg := { s.cfg with runMode := 1 } }
    exact ⟨hpage.fram, hpage.horn, hpage.dirty, hpage.pot⟩
  · exact ⟨rfl, rfl, rfl, fun _ ↦ rfl⟩

theorem side_commMode (data tPage : ℕ) (s : Sys) :
    PanelSide s.lcd.lcdStatus.setsPot s (handleCommMode data tPage s) := by
  have hgoto {page : LcdPage} (hpots : page.setsPot = s.lcd.lcdStatus.setsPot) (lcd : LcdState)
      (hdirty : lcd.etherDirty = s.lcd.etherDirty) :
      PanelSide s.lcd.lcdStatus.setsPot s (gotoPage page tPage { s with lcd := lcd }) := by
    have hpage := side_gotoPage page tPage { s with lcd := lcd }
    rw [hpots] at hpage
    exact ⟨hpage.fram, hpage.horn, hpage.dirty.trans hdirty, hpage.pot⟩
  unfold handleCommMode
  by_cases hserial : data = 0
  · rw [if_pos hserial]
    exact hgoto (by cases s.lcd.lcdStatus <;> rfl) { s.lcd with tempCommMode := 0 } rfl
  · rw [if_neg hserial]
    exact hgoto (by cases s.lcd.lcdStatus <;> rfl) { s.lcd with tempCommMode := _ } rfl

theorem side_sysPicNow (data tKey tPage : ℕ) (s : Sys) :
    PanelSide false s (handleSysPicNow data tKey tPage s) := by
  have hrun (sysMode : ℕ) : (runPageForMode sysMode).setsPot = false := by
    unfold runPageForMode
    split_ifs <;> rfl
  have hinit (t : Sys) : PanelSide false t (appLcdInitMode tPage t) := by
    have hpage := side_changePage tPage { t with lcd := { t.lcd with
      lcdStatus := runPageForMode t.cfg.modelType
      sysMode := t.cfg.modelType
      tempCommMode := 0xFF } }
    exact ⟨hpage.fram, hpage.horn, hpage.dirty, fun _ ↦ hpage.pot (hrun t.cfg.modelType)⟩
  unfold handleSysPicNow
  split_ifs
  · exact (PanelSide.of_desk (desk_reanchor s) false).trans (hinit _)
  · exact ⟨rfl, rfl, rfl, fun _ ↦ rfl⟩

/-- The panel state without the address editor and its shadows. -/
def LcdState.offEther (lcd : LcdState) : LcdState :=
  { lcd with
    tempEtherIp := ⟨0, 0, 0, 0⟩
    tempEtherNm := ⟨0, 0, 0, 0⟩
    tempEtherGw := ⟨0, 0, 0, 0⟩
    etherWhatInput := .none
    etherCurrentNumber := 0
    etherCurrentOctet := 0
    etherHasInput := false
    etherInput := []
    etherTempIp := ⟨0, 0, 0, 0⟩ }

/-- The editor keys stay inside the editor. -/
theorem etherKey_offEther (data : ℕ) (s : Sys) :
    (handleEtherKey data s).lcd.offEther = s.lcd.offEther := by
  have hback (lcd : LcdState) : (etherBackspace lcd).offEther = lcd.offEther := by
    unfold etherBackspace
    cases lcd.etherInput.getLast? with
    | none => rfl
    | some last =>
      dsimp only
      split_ifs <;> rfl
  have henter (lcd : LcdState) : (etherEnter lcd).offEther = lcd.offEther := by
    unfold etherEnter
    cases lcd.etherWhatInput <;> rfl
  have hdot (lcd : LcdState) : (etherNextOctet lcd).offEther = lcd.offEther := by
    unfold etherNextOctet
    split_ifs <;> rfl
  unfold handleEtherKey
  dsimp only
  split_ifs <;> first | rfl | exact hback _ | exact henter _ | exact hdot _

theorem etherKey_dirty (data : ℕ) (s : Sys) :
    (handleEtherKey data s).lcd.etherDirty = s.lcd.etherDirty := by
  have hedit := congrArg LcdState.etherDirty (etherKey_offEther data s)
  exact hedit

/-- Every panel key but SAVE and CANCEL leaves FRAM, horn mode and dirty flag alone, and the
potentiometer unless it is one that sets it. -/
theorem side_panelKey {key : PanelKey} {f : FrameIn} (hkey : f.key = some key)
    (hsave : key ≠ .dataSave) (s : Sys) :
    PanelSide (f.setsPot s) s (panelKeyHandler key f.word f s) := by
  have hsetup (t : Sys) : PanelSide true t (handleSetupParamEnter f.tPage t) := by
    have hpage := side_gotoPage (setup1PageForMode t.lcd.sysMode) f.tPage t
    exact ⟨hpage.fram, hpage.horn, hpage.dirty, by rintro ⟨⟩⟩
  have hmodel (t : Sys) : PanelSide false t (enterModelSetup t) := ⟨rfl, rfl, rfl, fun _ ↦ rfl⟩
  rw [FrameIn.setsPot, hkey]
  cases key with
  | dataSave => exact absurd rfl hsave
  | setupParam => exact hsetup s
  | setupParamMoohan =>
    have hpress := side_longPressKey f.vpAddr f.word f.tKey hsetup s
    rwa [Bool.and_true] at hpress
  | setupModel =>
    have hpress := side_longPressKey f.vpAddr f.word f.tKey hmodel s
    rwa [Bool.and_false] at hpress
  | stdSetupParam => exact side_stdSetupParam _ _ s
  | runMode => exact side_runMode _ _ s
  | keyMulti => exact side_keyMulti _ _ s
  | keyErrorReset => exact side_keyErrorReset _ _ s
  | commSpeed =>
    dsimp only [panelKeyHandler, handleCommSpeed]
    split_ifs <;> exact ⟨rfl, rfl, rfl, fun _ ↦ rfl⟩
  | commParity =>
    dsimp only [panelKeyHandler, handleCommParity]
    split_ifs <;> exact ⟨rfl, rfl, rfl, fun _ ↦ rfl⟩
  | commMode => exact side_commMode _ _ s
  | etherKey => exact ⟨rfl, rfl, etherKey_dirty _ s, fun _ ↦ rfl⟩
  | sysPicNow => exact side_sysPicNow _ _ _ s
  | _ => exact ⟨rfl, rfl, rfl, fun _ ↦ rfl⟩

/-- SAVE leaves the image to its final save. -/
theorem dataSaveGroup_fram (s : Sys) : (dataSaveGroup s).fram = s.fram := by
  have hether (t : Sys) : (commitCommModeAndEther t).fram = t.fram := by
    rw [commitCommModeAndEther_eq]
  have hhorn (on : Bool) (t : Sys) : (appHornSetMode on t).fram = t.fram := by
    rw [appHornSetMode_eq]
  have hcount (t : Sys) : (commitCntReset t).fram = t.fram := by
    rw [commitCntReset_eq]
  unfold dataSaveGroup
  cases setupGroup s with
  | model => rfl
  | multi => exact hether _
  | hand => rfl
  | std => exact ((hether _).trans (hhorn _ _)).trans (hcount _)
  | other => rfl

/-- SAVE writes the configuration it leaves. -/
theorem dataSaveCommit_fram (bus : I2cBus) (tPage : ℕ) (s : Sys) :
    (dataSaveCommit bus tPage s).fram =
      appConfigSaveAll bus (dataSaveCommit bus tPage s).cfg s.fram := by
  rw [dataSaveCommit, changePage_cfg, (side_changePage tPage _).fram]
  exact congrArg (appConfigSaveAll bus (dataSaveGroup s).cfg) (dataSaveGroup_fram s)

/-- CANCEL leaves what the load reads. -/
theorem dataSaveCancel_load (bus : I2cBus) (tPage : ℕ) (s : Sys) :
    (dataSaveCancel bus tPage s).cfg = (appConfigLoad bus s.fram).cfg ∧
      (dataSaveCancel bus tPage s).fram = (appConfigLoad bus s.fram).fram := by
  rw [dataSaveCancel, changePage_cfg, (side_changePage tPage _).fram]
  exact ⟨rfl, rfl⟩

/-- A page outside the known setup groups is not a main setup page. -/
theorem setsPot_of_other {s : Sys} (hgroup : setupGroup s = .other) :
    s.lcd.lcdStatus.setsPot = false := by
  unfold setupGroup at hgroup
  cases hpage : s.lcd.lcdStatus <;> rw [hpage] at hgroup <;> first | rfl | cases hgroup

/-- SAVE outside the setup groups leaves the potentiometer alone. -/
theorem dataSaveCommit_pot (bus : I2cBus) (tPage : ℕ) {s : Sys}
    (hgroup : setupGroup s = .model ∨ setupGroup s = .other) :
    (dataSaveCommit bus tPage s).pins.pot = s.pins.pot := by
  have hrun (sysMode : ℕ) : (runPageForMode sysMode).setsPot = false := by
    unfold runPageForMode
    split_ifs <;> rfl
  rw [dataSaveCommit, dataSaveGroup]
  rcases hgroup with hmodel | hother
  · rw [hmodel]
    exact (side_changePage tPage _).pot (hrun s.cfg.modelType)
  · rw [hother]
    exact (side_changePage tPage _).pot (setsPot_of_other hother)

/-- CANCEL ends on no main setup page. -/
theorem dataSaveCancel_pot (bus : I2cBus) (tPage : ℕ) (s : Sys) :
    (dataSaveCancel bus tPage s).pins.pot = s.pins.pot := by
  refine (side_changePage tPage _).pot ?_
  dsimp only [cancelPage]
  cases s.lcd.lcdStatus <;> rfl

/-- CANCEL keeps the dirty flag. -/
theorem dataSaveCancel_dirty (bus : I2cBus) (tPage : ℕ) (s : Sys) :
    (dataSaveCancel bus tPage s).lcd.etherDirty = s.lcd.etherDirty := by
  refine (side_changePage tPage _).dirty.trans ?_
  dsimp only [cancelPage]
  cases s.lcd.lcdStatus <;> rfl

/-! ### Calls -/

/-- The bus of the FRAM transfers of a call. -/
def Call.bus : Call → I2cBus
  | .frame f => f.bus
  | .weldTick tick => tick.bus
  | .modbusTick input => input.apply.bus
  | _ => .sound

/-- The call ends with `app_config_save_all`. -/
def Saves (build : Build) (call : Call) (s : Sys) : Bool :=
  match call with
  | .frame f => decide (f.key = some .dataSave) && decide (f.word = 1)
  | .weldTick _ => (weldEdges call s).cycleDone
  | .modbusTick input => modbusSaves build input s
  | _ => false

/-- The call is a CANCEL, which loads the configuration from the image. -/
def Call.loads : Call → Bool
  | .frame f => decide (f.key = some .dataSave) && decide (f.word ≠ 1)
  | _ => false

/-- The call writes the potentiometer, other than for the weld cycle. -/
def SetsPot (build : Build) (call : Call) (s : Sys) : Bool :=
  match call with
  | .frame f => f.setsPot s
  | .modbusTick input => modbusStarts build input s
  | _ => false

/-- The FRAM is written by a save, which stores the configuration the call leaves, and by a load. -/
theorem exec_fram (build : Build) (call : Call) (s : Sys) :
    (call.exec build s).fram =
      if Saves build call s then appConfigSaveAll call.bus (call.exec build s).cfg s.fram
      else if call.loads then (appConfigLoad call.bus s.fram).fram else s.fram := by
  by_cases hoff : call.offDesk = true
  · rw [(exec_desk build hoff s).fram]
    cases call <;> first | rfl | cases hoff
  · cases call with
    | frame f =>
      show (appLcdInputDispatch f s).fram =
        if (decide (f.key = some .dataSave) && decide (f.word = 1)) = true then
          appConfigSaveAll f.bus (appLcdInputDispatch f s).cfg s.fram
        else if (decide (f.key = some .dataSave) && decide (f.word ≠ 1)) = true then
          (appConfigLoad f.bus s.fram).fram
        else s.fram
      unfold appLcdInputDispatch
      cases hkey : f.key with
      | none => rfl
      | some key =>
        by_cases hdata : key = .dataSave
        · subst hdata
          by_cases hword : f.word = 1
          · rw [decide_eq_true rfl, decide_eq_true hword, Bool.and_self, if_pos rfl]
            dsimp only [panelKeyHandler]
            rw [if_pos hword]
            exact dataSaveCommit_fram f.bus f.tPage s
          · rw [decide_eq_true rfl, decide_eq_false hword, decide_eq_true hword, Bool.and_false,
              Bool.and_self, if_neg Bool.false_ne_true, if_pos rfl]
            dsimp only [panelKeyHandler]
            rw [if_neg hword]
            exact (dataSaveCancel_load f.bus f.tPage s).2
        · have hother : some key ≠ some PanelKey.dataSave := fun h ↦ hdata (Option.some.inj h)
          rw [decide_eq_false hother, Bool.false_and, Bool.false_and,
            if_neg Bool.false_ne_true, if_neg Bool.false_ne_true]
          exact (side_panelKey hkey hdata s).fram
    | weldTick tick => exact (weldTick_desk tick s).fram
    | ethTick tick => exact (ethTick_desk tick s).1
    | modbusTick input => exact (modbusTick_desk build input s).fram
    | _ => exact absurd rfl hoff

/-- A load leaves the configuration it reads, and the FRAM as `app_config_load` does. -/
theorem exec_load (build : Build) {call : Call} (hloads : call.loads = true) (s : Sys) :
    (call.exec build s).cfg = (appConfigLoad call.bus s.fram).cfg ∧
      (call.exec build s).fram = (appConfigLoad call.bus s.fram).fram := by
  cases call with
  | frame f =>
    obtain ⟨hkey, hword⟩ : f.key = some .dataSave ∧ f.word ≠ 1 := by
      simpa [Call.loads] using hloads
    show (appLcdInputDispatch f s).cfg = _ ∧ (appLcdInputDispatch f s).fram = _
    unfold appLcdInputDispatch
    rw [hkey]
    dsimp only [panelKeyHandler]
    rw [if_neg hword]
    exact dataSaveCancel_load f.bus f.tPage s
  | _ => cases hloads

/-- A save and a load are different calls. -/
theorem saves_of_loads (build : Build) {call : Call} (hloads : call.loads = true) (s : Sys) :
    Saves build call s = false := by
  cases call with
  | frame f =>
    obtain ⟨-, hword⟩ : f.key = some .dataSave ∧ f.word ≠ 1 := by
      simpa [Call.loads] using hloads
    simp [Saves, hword]
  | _ => cases hloads

/-- The potentiometer is written by the weld cycle, with its amplitude, and by the calls that
`SetsPot` names. -/
theorem exec_pot (build : Build) {call : Call} {s : Sys} (hnone : SetsPot build call s = false) :
    (call.exec build s).pins.pot = ((weldAmp call s).map potLevel).getD s.pins.pot := by
  by_cases hoff : call.offDesk = true
  · rw [(exec_desk build hoff s).pot]
    cases call <;> first | rfl | cases hoff
  · cases call with
    | frame f =>
      have hpots : f.setsPot s = false := hnone
      show (appLcdInputDispatch f s).pins.pot = s.pins.pot
      unfold appLcdInputDispatch
      cases hkey : f.key with
      | none => rfl
      | some key =>
        by_cases hdata : key = .dataSave
        · subst hdata
          rw [FrameIn.setsPot, hkey] at hpots
          dsimp only [panelKeyHandler]
          split_ifs with hword
          · refine dataSaveCommit_pot f.bus f.tPage ?_
            by_contra hgroup
            rw [not_or] at hgroup
            simp [hword, hgroup.1, hgroup.2] at hpots
          · exact dataSaveCancel_pot f.bus f.tPage s
        · exact (side_panelKey hkey hdata s).pot hpots
    | weldTick tick => exact (weldTick_desk tick s).pot
    | ethTick tick => exact congrArg Pins.pot (ethTick_desk tick s).2.1
    | modbusTick input =>
      refine (modbusTick_desk build input s).pot.resolve_right fun hstarts ↦ ?_
      exact Bool.false_ne_true (hnone.symm.trans hstarts.1)
    | _ => exact absurd rfl hoff

end UsCtrl
