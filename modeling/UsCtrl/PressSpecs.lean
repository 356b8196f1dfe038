import UsCtrl.ModbusPass

/-!
# What the press ticks do to the run gate

The ticks that own gate state, each with the one statement later proofs use about it: the weld
tick (`appWeldTick_cases`, `WeldBody`), the overload tick (`OverloadBody`), the input tick
(`inputBody_estop`, `inputBody_acts`) and the horn tick (`hornBody_ends`). The regulation tick is in
`UsCtrl.RegSpecs`.
-/

set_option autoImplicit false
set_option relaxedAutoImplicit false

namespace UsCtrl

open Relation

/-! ### Weld tick -/

/-- A step that starts the run does not stop it. -/
theorem weldFsmStep_start_not_stop (input : WeldIn) (fsm : WeldFsm)
    (hstart : (weldFsmStep input fsm).2.weldStart = true) :
    (weldFsmStep input fsm).2.weldStop = false := by
  have hmove := weldFsmStep_move input fsm
  have hstart : (weldFsmStep input fsm).2.edges.weldStart = true := hstart
  change (weldFsmStep input fsm).2.edges.weldStop = false
  generalize (weldFsmStep input fsm).2.edges = edges at hmove hstart ⊢
  generalize (weldFsmStep input fsm).1.phase = phase, fsm.phase = before at hmove
  cases hmove <;> simp_all

theorem weldSolEdge_solLast (level : Bool) (s : Sys) :
    (weldSolEdge level s).weld = { s.weld with solLast := level } := by
  unfold weldSolEdge
  split_ifs with hlevel
  · rw [hlevel]
  · rfl

theorem weldSolEdge_solDn (level : Bool) (s : Sys) :
    (weldSolEdge level s).pins.solDn = if level = s.weld.solLast then s.pins.solDn else level := by
  unfold weldSolEdge
  split_ifs <;> rfl

/-- The solenoid edge changes nothing but the solenoid level and its memory. -/
theorem weldSolEdge_eq (level : Bool) (s : Sys) :
    weldSolEdge level s = { s with
      weld := (weldSolEdge level s).weld, pins := (weldSolEdge level s).pins } := by
  unfold weldSolEdge
  split_ifs <;> rfl

theorem weldSolEdge_usOut (level : Bool) (s : Sys) :
    (weldSolEdge level s).pins.usOut = s.pins.usOut := by
  unfold weldSolEdge
  split_ifs <;> rfl

/-- The effects of a step's outputs behind the solenoid edge, except for the fault. -/
theorem weldOutputs_frame (bus : I2cBus) (out : WeldOut) (tCmd : ℕ) (s : Sys) :
    GateFrame .cycle (weldSolEdge out.solDn s) (weldOutputs bus out tCmd s) := by
  have hstart (t : Sys) : GateFrame .cycle t (weldOutStart out tCmd t) := by
    unfold weldOutStart
    split_ifs
    · exact (quiet_edit t t.cfg t.fram t.lcd _).frame.trans (appRegCommand_frame .start tCmd _)
    · exact GateFrame.refl _ t
  have hamp (t : Sys) : GateFrame .cycle t (weldOutAmp out t) := by
    unfold weldOutAmp
    split_ifs
    · exact (quiet_edit t t.cfg t.fram t.lcd _).frame
    · exact GateFrame.refl _ t
  have hstop (t : Sys) : GateFrame .cycle t (weldOutStop out t) := by
    unfold weldOutStop
    split_ifs
    · exact appRegCommand_frame .runRelease 0 t
    · exact GateFrame.refl _ t
  have hfault (t : Sys) : GateFrame .cycle t (weldOutFault out t) := by
    unfold weldOutFault
    split_ifs
    · constructor <;> simp [appRegRaiseOvtime, publishedRun]
    · exact GateFrame.refl _ t
  have hdone (t : Sys) : GateFrame .cycle t (weldOutDone bus out t) := by
    unfold weldOutDone
    split_ifs
    · exact ((quiet_cfg t _).trans (quiet_saveConfig bus _)).frame
    · exact GateFrame.refl _ t
  unfold weldOutputs
  exact ((((hstart _).trans (hamp _)).trans (hstop _)).trans (hfault _)).trans (hdone _)

theorem weldOutStart_reg (out : WeldOut) (tCmd : ℕ) (s : Sys) :
    (weldOutStart out tCmd s).reg = (if out.weldStart then
        (if appRegStartAllowed s then (acceptStart .cycle tCmd s).reg else s.reg) else s.reg) ∧
      (weldOutStart out tCmd s).ghost.starts = (if out.weldStart ∧ appRegStartAllowed s
        then s.ghost.starts + 1 else s.ghost.starts) ∧
      (weldOutStart out tCmd s).ghost.startsIssued = (if out.weldStart
        then s.ghost.startsIssued + 1 else s.ghost.startsIssued) ∧
      (weldOutStart out tCmd s).ghost.srRequests = s.ghost.srRequests := by
  have hallowed : appRegStartAllowed (i2cPotSetDac out.amplitude s) = appRegStartAllowed s := rfl
  unfold weldOutStart
  cases out.weldStart with
  | false => simp
  | true =>
    simp only [if_true, true_and]
    rw [appRegCommand_start (by decide), hallowed]
    split_ifs <;> exact ⟨rfl, rfl, rfl, rfl⟩

theorem weldOutStop_reg (out : WeldOut) (s : Sys) :
    (out.weldStop = true → (weldOutStop out s).reg.usRunStatus = .idle) ∧
      (out.weldStop = false → (weldOutStop out s).reg = s.reg) ∧
      (weldOutStop out s).reg.runStartMs = s.reg.runStartMs ∧
      (weldOutStop out s).reg.errorStatus = s.reg.errorStatus ∧
      (weldOutStop out s).ghost = s.ghost := by
  unfold weldOutStop
  refine ⟨fun hstop ↦ ?_, fun hstop ↦ ?_, ?_, ?_, ?_⟩
  · rw [if_pos hstop]
    exact appRegCommand_runRelease_idle .cycle 0 s
  · rw [if_neg (by simp [hstop])]
  all_goals
    simp only [appRegCommand, runReleaseCommand]
    split_ifs <;> rfl

theorem weldOutFault_reg (out : WeldOut) (s : Sys) :
    (weldOutFault out s).reg.usRunStatus = s.reg.usRunStatus ∧
      (weldOutFault out s).reg.runStartMs = s.reg.runStartMs ∧
      (weldOutFault out s).reg.errorStatus = (if out.weldFault
        then { s.reg.errorStatus with ovtime := true } else s.reg.errorStatus) ∧
      (weldOutFault out s).ghost = s.ghost := by
  unfold weldOutFault
  split_ifs <;> exact ⟨rfl, rfl, rfl, rfl⟩

theorem quiet_weldOutAmp (out : WeldOut) (s : Sys) : Quiet s (weldOutAmp out s) := by
  unfold weldOutAmp
  split_ifs
  · exact quiet_edit s s.cfg s.fram s.lcd _
  · exact Quiet.refl s

theorem quiet_weldOutDone (bus : I2cBus) (out : WeldOut) (s : Sys) :
    Quiet s (weldOutDone bus out s) := by
  unfold weldOutDone
  split_ifs
  · exact (quiet_cfg s _).trans (quiet_saveConfig bus _)
  · exact Quiet.refl s

/-- The outputs leave the other owners of the solenoid and of the chain alone. -/
theorem weldOutputs_rest (bus : I2cBus) (out : WeldOut) (tCmd : ℕ) (s : Sys) :
    ((weldOutputs bus out tCmd s).horn, (weldOutputs bus out tCmd s).seekReset,
        (weldOutputs bus out tCmd s).pins.solDn) =
      ((weldSolEdge out.solDn s).horn, (weldSolEdge out.solDn s).seekReset,
        (weldSolEdge out.solDn s).pins.solDn) := by
  let rest (t : Sys) : HornGlue × SeekResetGlue × Bool := (t.horn, t.seekReset, t.pins.solDn)
  have hstart (t : Sys) : rest (weldOutStart out tCmd t) = rest t := by
    unfold weldOutStart
    rw [appRegCommand_start (by decide)]
    split_ifs <;> rfl
  have hamp (t : Sys) : rest (weldOutAmp out t) = rest t := by
    unfold weldOutAmp
    split_ifs <;> rfl
  have hstop (t : Sys) : rest (weldOutStop out t) = rest t := by
    simp only [weldOutStop, appRegCommand, runReleaseCommand]
    split_ifs <;> rfl
  have hfault (t : Sys) : rest (weldOutFault out t) = rest t := by
    unfold weldOutFault
    split_ifs <;> rfl
  have hdone (t : Sys) : rest (weldOutDone bus out t) = rest t := by
    unfold weldOutDone
    split_ifs <;> rfl
  change rest (weldOutputs bus out tCmd s) = rest (weldSolEdge out.solDn s)
  rw [weldOutputs, hdone, hfault, hstop, hamp, hstart]

/-- The run gate after the outputs of a step that does not start and stop at once. -/
structure WeldOutEffect (out : WeldOut) (tCmd : ℕ) (s s' : Sys) : Prop where
  frame : GateFrame .cycle (weldSolEdge out.solDn s) s'
  horn : s'.horn = s.horn
  seekReset : s'.seekReset = s.seekReset
  srRequests : s'.ghost.srRequests = s.ghost.srRequests
  solDn : s'.pins.solDn = if out.solDn = s.weld.solLast then s.pins.solDn else out.solDn
  runStart : out.weldStart = true → s'.reg.usRunStatus =
    if appRegStartAllowed s then .cycle else s.reg.usRunStatus
  runStop : out.weldStop = true → s'.reg.usRunStatus = .idle
  runKeep : out.weldStart = false → out.weldStop = false →
    s'.reg.usRunStatus = s.reg.usRunStatus
  starts : s'.ghost.starts = if out.weldStart ∧ appRegStartAllowed s
    then s.ghost.starts + 1 else s.ghost.starts
  issued : s'.ghost.startsIssued = if out.weldStart
    then s.ghost.startsIssued + 1 else s.ghost.startsIssued
  runStartMs : out.weldStart = true → appRegStartAllowed s = true → s'.reg.runStartMs = tCmd
  error : s'.reg.errorStatus = if out.weldFault
    then { s.reg.errorStatus with ovtime := true } else s.reg.errorStatus

theorem weldOutputs_effect (bus : I2cBus) (out : WeldOut) (tCmd : ℕ) (s : Sys)
    (hexclusive : out.weldStart = true → out.weldStop = false) :
    WeldOutEffect out tCmd s (weldOutputs bus out tCmd s) := by
  have hframe := weldOutputs_frame bus out tCmd s
  have hedge := weldSolEdge_eq out.solDn s
  have hedgeSol := weldSolEdge_solDn out.solDn s
  have hrest := weldOutputs_rest bus out tCmd s
  unfold weldOutputs at hframe hrest ⊢
  generalize hedged : weldSolEdge out.solDn s = edged at *
  have hreg : edged.reg = s.reg := by rw [hedge]
  have hghost : edged.ghost = s.ghost := by rw [hedge]
  have hallowed : appRegStartAllowed edged = appRegStartAllowed s := by rw [hedge]; rfl
  have hstart := weldOutStart_reg out tCmd edged
  rw [hallowed, hreg, hghost] at hstart
  generalize weldOutStart out tCmd edged = started at *
  have hamp := quiet_weldOutAmp out started
  generalize weldOutAmp out started = amped at *
  have hstop := weldOutStop_reg out amped
  generalize weldOutStop out amped = stopped at *
  have hfault := weldOutFault_reg out stopped
  generalize weldOutFault out stopped = faulted at *
  have hdone := quiet_weldOutDone bus out faulted
  generalize weldOutDone bus out faulted = final at *
  obtain ⟨hstartReg, hstarts, hissued, hrequests⟩ := hstart
  obtain ⟨hrunStop, hregKeep, hstampStop, herrorStop, hghostStop⟩ := hstop
  obtain ⟨hrunFault, hstampFault, herrorFault, hghostFault⟩ := hfault
  have hrun : final.reg.usRunStatus = stopped.reg.usRunStatus := by rw [hdone.reg, hrunFault]
  have hstamp : final.reg.runStartMs = started.reg.runStartMs := by
    rw [hdone.reg, hstampFault, hstampStop, hamp.reg]
  have hcount : final.ghost.starts = started.ghost.starts := by
    rw [hdone.starts, hghostFault, hghostStop, hamp.starts]
  have hcount' : final.ghost.startsIssued = started.ghost.startsIssued := by
    rw [hdone.startsIssued, hghostFault, hghostStop, hamp.startsIssued]
  have hcount'' : final.ghost.srRequests = started.ghost.srRequests := by
    rw [hdone.srRequests, hghostFault, hghostStop, hamp.srRequests]
  constructor
  · rw [hedged]
    exact hframe
  · exact (congrArg Prod.fst hrest).trans (by rw [hedge])
  · exact (congrArg (fun rest ↦ rest.2.1) hrest).trans (by rw [hedge])
  · rw [hcount'', hrequests]
  · exact (congrArg (fun rest ↦ rest.2.2) hrest).trans hedgeSol
  · intro hout
    rw [hrun, hregKeep (hexclusive hout), hamp.reg, hstartReg, if_pos hout]
    split_ifs <;> rfl
  · intro hout
    rw [hrun, hrunStop hout]
  · intro hout hout'
    rw [hrun, hregKeep hout', hamp.reg, hstartReg, if_neg (by simp [hout])]
  · rw [hcount, hstarts]
  · rw [hcount', hissued]
  · intro hout hopen
    rw [hstamp, hstartReg, if_pos hout, if_pos hopen]
    rfl
  · have herrorStart : started.reg.errorStatus = s.reg.errorStatus := by
      rw [hstartReg, ← hreg]
      split_ifs <;> rfl
    rw [hdone.reg, herrorFault, herrorStop, hamp.reg, herrorStart]

/-- The scan touches the weld cycle only. -/
theorem weldScan_eq (input : WeldTickIn) (s : Sys) :
    weldScan input s = { s with weld := (weldScan input s).weld } := by
  unfold weldScan
  dsimp only
  split_ifs <;> rfl

/-- The state of the core right before its outputs take effect. -/
def weldStepped (input : WeldTickIn) (s : Sys) : Sys :=
  { weldScan input s with weld := { (weldScan input s).weld with
      startPending := false, fsm := (weldBodyStep input s).1 } }

/-- The scan and the step of the core touch the weld cycle only. -/
theorem weldStepped_eq (input : WeldTickIn) (s : Sys) :
    weldStepped input s = { s with weld := (weldStepped input s).weld } ∧
      (weldStepped input s).weld.fsm = (weldBodyStep input s).1 ∧
      (weldStepped input s).weld.startPending = false ∧
      (weldStepped input s).weld.solLast = s.weld.solLast ∧
      (weldStepped input s).weld.prevMs = s.weld.prevMs := by
  unfold weldStepped weldScan
  dsimp only
  split_ifs <;> exact ⟨rfl, rfl, rfl, rfl, rfl⟩

/-- What an executed body of the weld tick does, for the step of the core it executes. -/
structure WeldBody (tick : WeldTickIn) (s s' : Sys) : Prop where
  fsm : s'.weld.fsm = (weldBodyStep tick s).1
  startPending : s'.weld.startPending = false
  solLast : s'.weld.solLast = (weldBodyStep tick s).1.solDn
  prevMs : s'.weld.prevMs = s.weld.prevMs
  solDn : s'.pins.solDn = if (weldBodyStep tick s).1.solDn = s.weld.solLast then s.pins.solDn
    else (weldBodyStep tick s).1.solDn
  overload : s'.overload.active = s.overload.active
  debounce : s'.overload.fsm = s.overload.fsm
  estop : s'.input.estopActive = s.input.estopActive
  buttons : s'.input.fsm = s.input.fsm
  horn : s'.horn = s.horn
  seekReset : s'.seekReset = s.seekReset
  published : publishedRun s' = publishedRun s
  fault : s'.measure.errorStatus = s.measure.errorStatus
  warm : s'.reg.mainState = s.reg.mainState
  outOn : s'.reg.usOutOn = s.reg.usOutOn
  usOut : s'.pins.usOut = s.pins.usOut
  srRequests : s'.ghost.srRequests = s.ghost.srRequests
  runStart : (weldBodyStep tick s).2.weldStart = true → s'.reg.usRunStatus =
    if appRegStartAllowed s then .cycle else s.reg.usRunStatus
  runStop : (weldBodyStep tick s).2.weldStop = true → s'.reg.usRunStatus = .idle
  runKeep : (weldBodyStep tick s).2.weldStart = false →
    (weldBodyStep tick s).2.weldStop = false → s'.reg.usRunStatus = s.reg.usRunStatus
  starts : s'.ghost.starts = if (weldBodyStep tick s).2.weldStart ∧ appRegStartAllowed s
    then s.ghost.starts + 1 else s.ghost.starts
  issued : s'.ghost.startsIssued = if (weldBodyStep tick s).2.weldStart
    then s.ghost.startsIssued + 1 else s.ghost.startsIssued
  runStartMs : (weldBodyStep tick s).2.weldStart = true → appRegStartAllowed s = true →
    s'.reg.runStartMs = tick.tCmd
  error : s'.reg.errorStatus = if (weldBodyStep tick s).2.weldFault
    then { s.reg.errorStatus with ovtime := true } else s.reg.errorStatus

theorem weldBody_spec (tick : WeldTickIn) (s : Sys) : WeldBody tick s (weldBody tick s) := by
  obtain ⟨hstepped, hfsm, hpending, hsolLast, hprevMs⟩ := weldStepped_eq tick s
  have hlevel : (weldBodyStep tick s).2.solDn = (weldBodyStep tick s).1.solDn :=
    weldFsmStep_solDn _ _
  have hbody : weldBody tick s =
      weldOutputs tick.bus (weldBodyStep tick s).2 tick.tCmd (weldStepped tick s) := rfl
  have heffect := weldOutputs_effect tick.bus (weldBodyStep tick s).2 tick.tCmd
    (weldStepped tick s) (weldFsmStep_start_not_stop _ _)
  rw [← hbody] at heffect
  have hedge := weldSolEdge_eq (weldBodyStep tick s).2.solDn (weldStepped tick s)
  have hweld := heffect.frame.weld
  rw [weldSolEdge_solLast] at hweld
  have hallowed : appRegStartAllowed (weldStepped tick s) = appRegStartAllowed s := by
    rw [hstepped]
    rfl
  have hreg : (weldStepped tick s).reg = s.reg := by rw [hstepped]
  have hghost : (weldStepped tick s).ghost = s.ghost := by rw [hstepped]
  have hedgeReg : (weldSolEdge (weldBodyStep tick s).2.solDn (weldStepped tick s)).reg = s.reg := by
    rw [hedge, ← hreg]
  constructor
  · rw [hweld]
    exact hfsm
  · rw [hweld]
    exact hpending
  · rw [hweld]
    exact hlevel
  · rw [hweld]
    exact hprevMs
  · rw [heffect.solDn, hlevel, hsolLast, hstepped]
  · rw [heffect.frame.overload, hedge, hstepped]
  · rw [heffect.frame.debounce, hedge, hstepped]
  · rw [heffect.frame.estop, hedge, hstepped]
  · rw [heffect.frame.buttons, hedge, hstepped]
  · rw [heffect.horn, hstepped]
  · rw [heffect.seekReset, hstepped]
  · rw [heffect.frame.published, hedge, hstepped]
    rfl
  · rw [heffect.frame.fault, hedge, hstepped]
  · rw [heffect.frame.warm, hedgeReg]
  · rw [heffect.frame.outOn, hedgeReg]
  · rw [heffect.frame.usOut, weldSolEdge_usOut, hstepped]
  · rw [heffect.srRequests, hghost]
  · intro hstart
    rw [heffect.runStart hstart, hallowed, hreg]
  · exact heffect.runStop
  · intro hstart hstop
    rw [heffect.runKeep hstart hstop, hreg]
  · rw [heffect.starts, hallowed, hghost]
  · rw [heffect.issued, hghost]
  · intro hstart hopen
    exact heffect.runStartMs hstart (hallowed.trans hopen)
  · rw [heffect.error, hreg]

/-- A weld tick that is not due does nothing, a frozen one only advances its grid, and any other
executes its body. -/
theorem appWeldTick_cases (tick : WeldTickIn) (s : Sys) :
    (weldDue tick s = false ∧ appWeldTick tick s = s) ∨
      (weldDue tick s = true ∧ weldFrozen s = true ∧ appWeldTick tick s = weldAdvance tick s) ∨
      (weldSteps tick s = true ∧ WeldBody tick (weldAdvance tick s) (appWeldTick tick s)) := by
  unfold appWeldTick weldSteps
  cases hdue : weldDue tick s <;> cases hfrozen : weldFrozen s <;> simp
  exact weldBody_spec tick (weldAdvance tick s)

theorem weldSteps_iff {tick : WeldTickIn} {s : Sys} :
    weldSteps tick s = true ↔ weldDue tick s = true ∧ weldFrozen s = false := by
  rw [weldSteps, Bool.and_eq_true, Bool.not_eq_true']

theorem appWeldTick_steps {tick : WeldTickIn} {s : Sys} (hsteps : weldSteps tick s = true) :
    WeldBody tick (weldAdvance tick s) (appWeldTick tick s) := by
  obtain ⟨hdue, hshown⟩ := weldSteps_iff.mp hsteps
  rw [appWeldTick, if_neg (by simp [hdue]), if_neg (by simp [hshown])]
  exact weldBody_spec tick (weldAdvance tick s)

/-! ### Ends of a run -/

/-- As far as the run gate goes, the second state differs from the first at most by the end of its
run. -/
structure Ends (s s' : Sys) : Prop where
  frame (src : UsRun) : GateFrame src s s'
  horn : s'.horn = s.horn
  seekReset : s'.seekReset = s.seekReset
  solDn : s'.pins.solDn = s.pins.solDn
  starts : s'.ghost.starts = s.ghost.starts
  issued : s'.ghost.startsIssued = s.ghost.startsIssued
  requests : s'.ghost.srRequests = s.ghost.srRequests
  error : s'.reg.errorStatus = s.reg.errorStatus

theorem Quiet.ends {s s' : Sys} (h : Quiet s s') : Ends s s' := by
  constructor
  · exact fun src ↦ h.frame
  · exact h.horn
  · exact h.seekReset
  · exact h.solDn
  · exact h.starts
  · exact h.startsIssued
  · exact h.srRequests
  · rw [h.reg]

theorem Ends.trans {s mid s' : Sys} (hfirst : Ends s mid) (hsecond : Ends mid s') : Ends s s' := by
  constructor
  · exact fun src ↦ (hfirst.frame src).trans (hsecond.frame src)
  · exact hsecond.horn.trans hfirst.horn
  · exact hsecond.seekReset.trans hfirst.seekReset
  · exact hsecond.solDn.trans hfirst.solDn
  · exact hsecond.starts.trans hfirst.starts
  · exact hsecond.issued.trans hfirst.issued
  · exact hsecond.requests.trans hfirst.requests
  · exact hsecond.error.trans hfirst.error

/-- An idle controller stays idle. -/
theorem Ends.idle {s s' : Sys} (h : Ends s s') (hidle : s.reg.usRunStatus = .idle) :
    s'.reg.usRunStatus = .idle := by
  rcases (h.frame .cycle).kept h.starts with hrun | hrun
  · exact hrun.trans hidle
  · exact hrun

/-- A RUN_RELEASE, or a RUN_RELEASE left out, ends the run at most. -/
theorem runRelease_ends (owner : UsRun) (now : ℕ) (s : Sys) :
    Ends s (appRegCommand .runRelease owner now s) := by
  have hframe (src : UsRun) : GateFrame src s (appRegCommand .runRelease owner now s) :=
    runRelease_frame owner now s
  simp only [appRegCommand, runReleaseCommand, stopRun] at hframe ⊢
  split_ifs at hframe ⊢ <;> exact ⟨hframe, rfl, rfl, rfl, rfl, rfl, rfl, rfl⟩

theorem releasePublished_ends (s : Sys) : Ends s (releasePublished s) := by
  unfold releasePublished
  split_ifs
  · exact runRelease_ends _ 0 s
  · exact (Quiet.refl s).ends

theorem releasePublished_idle (s : Sys) (hpublished : publishedRun s ≠ .idle) :
    (releasePublished s).reg.usRunStatus = .idle := by
  rw [releasePublished, if_pos hpublished]
  exact appRegCommand_runRelease_idle _ 0 s

theorem releasePublished_none (s : Sys) (hpublished : publishedRun s = .idle) :
    releasePublished s = s := by
  rw [releasePublished, if_neg (by simpa using hpublished)]

/-! ### Overload tick -/

/-- A release of the published owner among quiet changes. -/
structure Release (s s' : Sys) : Prop extends Ends s s' where
  idle : publishedRun s ≠ .idle → s'.reg.usRunStatus = .idle
  keep : publishedRun s = .idle → s'.reg = s.reg

theorem Release.of_quiet {s s' : Sys} (h : Quiet (releasePublished s) s') : Release s s' := by
  refine ⟨(releasePublished_ends s).trans h.ends, ?_, ?_⟩
  · intro hpublished
    rw [h.reg, releasePublished_idle s hpublished]
  · intro hpublished
    rw [h.reg, releasePublished_none s hpublished]

theorem Release.of_quiet_before {s mid s' : Sys} (h : Quiet s mid) (hrelease : Release mid s') :
    Release s s' := by
  have hpublished : publishedRun mid = publishedRun s := by rw [publishedRun, h.measure]; rfl
  refine ⟨h.ends.trans hrelease.toEnds, ?_, ?_⟩
  · exact fun hrun ↦ hrelease.idle (hpublished ▸ hrun)
  · exact fun hrun ↦ (hrelease.keep (hpublished.trans hrun)).trans h.reg

theorem quiet_overloadAssert (now : ℕ) (s : Sys) : Quiet s (overloadAssert now s) := by
  constructor <;> rfl

theorem overloadHold_release (now : ℕ) (s : Sys) : Release s (overloadHold now s) := by
  refine Release.of_quiet ?_
  unfold overloadHold
  dsimp only
  split_ifs
  · constructor <;> rfl
  · exact Quiet.refl _

/-- The de-assert branch before its RESET request. -/
def overloadShown (s : Sys) : Sys :=
  let s := releasePublished s
  appLcdSetOverload false { s with pins := { s.pins with ovldRelay := false } }

theorem overloadDeassert_eq (s : Sys) :
    overloadDeassert s = appSeekResetRequest .reset (overloadShown s) := rfl

theorem overloadShown_release (s : Sys) : Release s (overloadShown s) := by
  refine Release.of_quiet (Quiet.trans ?_ (quiet_setOverload false _))
  constructor <;> rfl

theorem appSeekResetRequest_frame (src : UsRun) (cmd : SrCmd) (s : Sys) :
    GateFrame src s (appSeekResetRequest cmd s) := by
  constructor <;> simp [appSeekResetRequest, publishedRun]

/-- The event of an executed body of the overload tick. -/
def overloadEvent (tick : OverloadTickIn) (s : Sys) : OverloadEvent :=
  (overloadFsmStep tick.raw s.overload.fsm).2

/-- What an executed body of the overload tick does. -/
structure OverloadBody (tick : OverloadTickIn) (s s' : Sys) : Prop where
  frame (src : UsRun) : GateFrame src (overloadSample tick s).1 s'
  horn : s'.horn = s.horn
  solDn : s'.pins.solDn = s.pins.solDn
  starts : s'.ghost.starts = s.ghost.starts
  issued : s'.ghost.startsIssued = s.ghost.startsIssued
  error : s'.reg.errorStatus = s.reg.errorStatus
  requests : s'.ghost.srRequests =
    if (overloadEvent tick s).deassert then s.ghost.srRequests + 1 else s.ghost.srRequests
  seekReset : s'.seekReset = { s.seekReset with pendingCmd :=
    if (overloadEvent tick s).deassert then .reset else s.seekReset.pendingCmd }
  idle : (overloadEvent tick s).active = true ∨ (overloadEvent tick s).deassert = true →
    publishedRun s ≠ .idle → s'.reg.usRunStatus = .idle
  keep : publishedRun s = .idle ∨
    (overloadEvent tick s).active = false ∧ (overloadEvent tick s).deassert = false →
    s'.reg = s.reg

/-- The branches of an overload tick, by its event. -/
theorem overloadBody_eq (tick : OverloadTickIn) (s : Sys) :
    overloadBody tick s =
      let asserted := if (overloadEvent tick s).assert
        then overloadAssert tick.now (overloadSample tick s).1 else (overloadSample tick s).1
      let held := if (overloadEvent tick s).active then overloadHold tick.now asserted
        else asserted
      if (overloadEvent tick s).deassert then overloadDeassert held else held := rfl

theorem overloadBody_spec (tick : OverloadTickIn) (s : Sys) :
    OverloadBody tick s (overloadBody tick s) := by
  have hexclusive : (overloadEvent tick s).active = true →
      (overloadEvent tick s).deassert = false := by
    simp only [overloadEvent, overloadFsmStep_event]
    intro hactive
    simp [hactive]
  have hasserted : Quiet (overloadSample tick s).1
      (if (overloadEvent tick s).assert then overloadAssert tick.now (overloadSample tick s).1
        else (overloadSample tick s).1) := by
    split_ifs
    · exact quiet_overloadAssert _ _
    · exact Quiet.refl _
  rw [overloadBody_eq]
  dsimp only
  generalize (if (overloadEvent tick s).assert
    then overloadAssert tick.now (overloadSample tick s).1
    else (overloadSample tick s).1) = asserted at hasserted
  cases hactive : (overloadEvent tick s).active with
  | true =>
    have hrelease := Release.of_quiet_before hasserted (overloadHold_release tick.now asserted)
    rw [hexclusive hactive]
    simp only [if_true, Bool.false_eq_true, if_false]
    exact
      { frame := hrelease.frame
        horn := hrelease.horn
        solDn := hrelease.solDn
        starts := hrelease.starts
        issued := hrelease.issued
        error := hrelease.error
        requests := by rw [hexclusive hactive]; exact hrelease.requests
        seekReset := by rw [hexclusive hactive]; exact hrelease.seekReset
        idle := fun _ ↦ hrelease.idle
        keep := fun h ↦ hrelease.keep (h.resolve_right fun h ↦ by simp [hactive] at h) }
  | false =>
    simp only [Bool.false_eq_true, if_false]
    cases hdeassert : (overloadEvent tick s).deassert with
    | true =>
      have hrelease := Release.of_quiet_before hasserted (overloadShown_release asserted)
      rw [if_pos rfl, overloadDeassert_eq]
      generalize overloadShown asserted = shown at hrelease
      exact
        { frame := fun src ↦ (hrelease.frame src).trans (appSeekResetRequest_frame src .reset shown)
          horn := hrelease.horn
          solDn := hrelease.solDn
          starts := hrelease.starts
          issued := hrelease.issued
          error := hrelease.error
          requests := by
            rw [if_pos hdeassert]
            exact congrArg (· + 1) hrelease.requests
          seekReset := by
            rw [if_pos hdeassert]
            exact congrArg (fun glue ↦ { glue with pendingCmd := .reset }) hrelease.seekReset
          idle := fun _ ↦ hrelease.idle
          keep := fun h ↦ hrelease.keep (h.resolve_right fun h ↦ by simp [hdeassert] at h) }
    | false =>
      exact
        { frame := fun src ↦ hasserted.frame
          horn := hasserted.horn
          solDn := hasserted.solDn
          starts := hasserted.starts
          issued := hasserted.startsIssued
          error := congrArg RegState.errorStatus hasserted.reg
          requests := by rw [hdeassert]; exact hasserted.srRequests
          seekReset := by rw [hdeassert]; exact hasserted.seekReset
          idle := fun h ↦ by simp [hactive, hdeassert] at h
          keep := fun _ ↦ hasserted.reg }

theorem appOverloadTick_cases (tick : OverloadTickIn) (s : Sys) :
    (overloadDue tick s = false ∧ appOverloadTick tick s = s) ∨
      (overloadDue tick s = true ∧ OverloadBody tick s (appOverloadTick tick s)) := by
  unfold appOverloadTick
  cases hdue : overloadDue tick s
  · exact Or.inl ⟨rfl, rfl⟩
  · exact Or.inr ⟨rfl, overloadBody_spec tick s⟩

/-! ### Input tick -/

/-- The core of the press aborted and the solenoid edge of the abort, before the run is stopped. -/
def weldAborted (s : Sys) : Sys :=
  let stepped := weldFsmStep weldAbortIn s.weld.fsm
  weldSolEdge stepped.1.solDn { s with weld := { s.weld with fsm := stepped.1 } }

theorem weldAborted_weld (s : Sys) :
    (weldAborted s).weld = { s.weld with
      fsm := (weldFsmStep weldAbortIn s.weld.fsm).1
      solLast := (weldFsmStep weldAbortIn s.weld.fsm).1.solDn } :=
  weldSolEdge_solLast _ _

theorem weldAborted_eq (s : Sys) :
    weldAborted s = { s with weld := (weldAborted s).weld, pins := (weldAborted s).pins } :=
  weldSolEdge_eq _ _

theorem weldAborted_usOut (s : Sys) : (weldAborted s).pins.usOut = s.pins.usOut :=
  weldSolEdge_usOut _ _

theorem appWeldAbortNow_ends (s : Sys) : Ends (weldAborted s) (appWeldAbortNow s) := by
  unfold appWeldAbortNow weldAborted
  dsimp only
  rw [weldFsmStep_solDn]
  split_ifs
  · exact runRelease_ends _ 0 _
  · exact (Quiet.refl _).ends

theorem setEstop_ends (s : Sys) :
    Ends s (appLcdSetEstop true s) ∧ (appLcdSetEstop true s).reg.usRunStatus = .idle := by
  have hrelease := runRelease_ends .touch 0 { s with lcd := { s.lcd with lcdStatus := .warning } }
  refine ⟨((quiet_lcd s _).ends.trans hrelease).trans (quiet_lcd _ _).ends, ?_⟩
  exact appRegCommand_runRelease_idle .touch 0 _

theorem quiet_setEstop_off (s : Sys) : Quiet s (appLcdSetEstop false s) := by
  simp only [appLcdSetEstop, Bool.false_eq_true, if_false]
  split_ifs
  · exact quiet_lcd s _
  · exact Quiet.refl s

/-- The entry of the emergency stop drops the solenoid, aborts the press and ends the run. -/
theorem estopEnter_ends (now : ℕ) (s : Sys) :
    Ends (weldAborted (ioSolDn false s)) (estopEnter now s) ∧
      (estopEnter now s).reg.usRunStatus = .idle := by
  have hestop := setEstop_ends (appWeldAbortNow (ioSolDn false s))
  have hblink : Quiet (appLcdSetEstop true (appWeldAbortNow (ioSolDn false s)))
      (estopEnter now s) := by
    constructor <;> rfl
  refine ⟨((appWeldAbortNow_ends _).trans hestop.1).trans hblink.ends, ?_⟩
  rw [hblink.reg]
  exact hestop.2

theorem estopHold_release (now : ℕ) (s : Sys) : Release s (estopHold now s) := by
  refine Release.of_quiet ?_
  unfold estopHold
  dsimp only
  split_ifs
  · constructor <;> rfl
  · exact Quiet.refl _

/-- The outputs of the scan of an executed body of the input tick. -/
def inputEvent (tick : InputTickIn) (s : Sys) : InputOut := (inputSample tick s).2

/-- The commands the buttons issue. -/
def inputCommand (out : InputOut) : UsCmd → Prop
  | .start => out.startPress = true
  | .runRelease => out.startRelease = true
  | .reset => out.resetPress = true
  | .seek => out.seekPress = true

theorem inputButtons_acts (out : InputOut) (tCmd : ℕ) (s : Sys) :
    GateActs (inputCommand out) .remote s (inputButtons out tCmd s) := by
  have hcommand (cmd : UsCmd) (press : Bool) (now : ℕ) (t : Sys)
      (hpress : press = true → inputCommand out cmd) :
      GateActs (inputCommand out) .remote t
        (if press then appRegCommand cmd .remote now t else t) := by
    split_ifs with h
    · exact GateActs.of_command now (hpress h)
    · exact ReflTransGen.refl
  exact (((hcommand .start _ tCmd s id).trans (hcommand .runRelease _ 0 _ id)).trans
    (hcommand .reset _ 0 _ id)).trans (hcommand .seek _ 0 _ id)

/-- The state an input tick works on after its scan: with the press aborted if the emergency stop
has just been entered. -/
def inputScanned (tick : InputTickIn) (s : Sys) : Sys :=
  if (inputEvent tick s).estopEnter then weldAborted (ioSolDn false (inputSample tick s).1)
  else (inputSample tick s).1

/-- An executed body under emergency stop ends the run if it has just been entered or a run is
published; it commands nothing. -/
theorem inputBody_estop (tick : InputTickIn) (s : Sys)
    (hestop : (inputEvent tick s).estopActive = true) :
    Ends (inputScanned tick s) (inputBody tick s) ∧
      ((inputEvent tick s).estopEnter = true ∨ publishedRun s ≠ .idle →
        (inputBody tick s).reg.usRunStatus = .idle) := by
  have hbody : inputBody tick s = estopHold tick.now (if (inputEvent tick s).estopEnter
      then estopEnter tick.now (inputSample tick s).1 else (inputSample tick s).1) := by
    unfold inputBody
    simp only [inputEvent] at hestop ⊢
    simp only [hestop, Bool.true_eq_false, and_false, if_false, if_true]
    rfl
  rw [hbody, inputScanned]
  cases henter : (inputEvent tick s).estopEnter with
  | true =>
    obtain ⟨hends, hidle⟩ := estopEnter_ends tick.now (inputSample tick s).1
    have hhold := estopHold_release tick.now (estopEnter tick.now (inputSample tick s).1)
    exact ⟨hends.trans hhold.toEnds, fun _ ↦ hhold.toEnds.idle hidle⟩
  | false =>
    have hhold := estopHold_release tick.now (inputSample tick s).1
    exact ⟨hhold.toEnds, fun h ↦ hhold.idle (h.resolve_left (by simp))⟩

/-- An executed body without emergency stop is the buttons' work behind a quiet change of page. -/
theorem inputBody_buttons (tick : InputTickIn) (s : Sys)
    (hestop : (inputEvent tick s).estopActive = false) :
    ∃ shown, Quiet (inputSample tick s).1 shown ∧
      inputBody tick s = inputButtons (inputEvent tick s) tick.tCmd shown := by
  have henter : (inputEvent tick s).estopEnter = false := by
    by_contra henter
    have henter : (inputEvent tick s).estopEnter = true := by simpa using henter
    have hlevel : (inputEvent tick s).estopActive = true := inputFsmStep_enter _ _ henter
    simp [hestop] at hlevel
  refine ⟨if s.input.estopActive then appLcdSetEstop false (inputSample tick s).1
    else (inputSample tick s).1, ?_, ?_⟩
  · split_ifs
    · exact quiet_setEstop_off _
    · exact Quiet.refl _
  · unfold inputBody
    simp only [inputEvent] at hestop henter ⊢
    simp only [hestop, henter, Bool.false_eq_true, and_true, if_false]

/-- An executed body without emergency stop acts for the buttons. -/
theorem inputBody_acts (tick : InputTickIn) (s : Sys)
    (hestop : (inputEvent tick s).estopActive = false) :
    GateActs (inputCommand (inputEvent tick s)) .remote (inputSample tick s).1
      (inputBody tick s) := by
  obtain ⟨shown, hshown, hbody⟩ := inputBody_buttons tick s hestop
  rw [hbody]
  exact (GateActs.of_quiet hshown).trans (inputButtons_acts _ _ _)

/-- An executed body keeps what its scan has stored. -/
theorem inputBody_scan (tick : InputTickIn) (s : Sys) :
    (inputBody tick s).input.estopActive = (inputEvent tick s).estopActive ∧
      (inputBody tick s).input.fsm = (inputSample tick s).1.input.fsm := by
  cases hestop : (inputEvent tick s).estopActive with
  | true =>
    have hscanned : (inputScanned tick s).input = (inputSample tick s).1.input := by
      unfold inputScanned
      split_ifs
      · rw [weldAborted_eq]
        rfl
      · rfl
    have hframe := (inputBody_estop tick s hestop).1.frame .cycle
    rw [hframe.estop, hframe.buttons, hscanned]
    exact ⟨hestop, rfl⟩
  | false =>
    have hframe := (inputBody_acts tick s hestop).frame
    exact ⟨hframe.estop.trans hestop, hframe.buttons⟩

theorem appInputTick_cases (tick : InputTickIn) (s : Sys) :
    (inputDue tick s = false ∧ appInputTick tick s = s) ∨
      (inputDue tick s = true ∧ appInputTick tick s = inputBody tick s) := by
  unfold appInputTick
  cases hdue : inputDue tick s
  · exact Or.inl ⟨rfl, rfl⟩
  · exact Or.inr ⟨rfl, rfl⟩

/-! ### Horn tick -/

/-- The horn core's step of an executed body. -/
def hornStep (tick : HornTickIn) (s : Sys) : HornFsm × Bool :=
  hornFsmStep ⟨s.horn.mode, tick.key1, tick.key2, appEstopActive s⟩ s.horn.fsm

/-- The solenoid half drives the pin and touches nothing else of the gate. -/
theorem hornSolenoid_eq (tick : HornTickIn) (s : Sys) :
    hornSolenoid tick s = { s with
      horn := ⟨tick.now, s.horn.mode, (hornStep tick s).2, (hornStep tick s).1⟩
      pins := { s.pins with solDn :=
        if (hornStep tick s).2 = s.horn.solLast then s.pins.solDn else (hornStep tick s).2 } } := by
  unfold hornSolenoid
  dsimp only
  split_ifs with hlevel hlevel' hlevel'
  · rw [hlevel']
    rfl
  · exact absurd hlevel hlevel'
  · exact absurd hlevel' hlevel
  · rfl

/-- In horn-down mode an executed body ends the run; otherwise it only drives the solenoid. -/
theorem hornBody_ends (tick : HornTickIn) (s : Sys) :
    Ends (hornSolenoid tick s) (hornBody tick s) ∧
      (s.horn.mode = true → (hornBody tick s).reg.usRunStatus = .idle) ∧
      (s.horn.mode = false → hornBody tick s = hornSolenoid tick s) := by
  have hmode : (hornSolenoid tick s).horn.mode = s.horn.mode := by rw [hornSolenoid_eq]
  unfold hornBody
  dsimp only
  rw [hmode]
  cases s.horn.mode with
  | false => exact ⟨(Quiet.refl _).ends, by simp, fun _ ↦ rfl⟩
  | true =>
    simp only [if_true, forall_const, Bool.true_eq_false, false_implies, and_true]
    split_ifs with hrun
    · exact ⟨runRelease_ends _ 0 _, appRegCommand_runRelease_idle _ 0 _⟩
    · exact ⟨(Quiet.refl _).ends, by simpa [appRegRunSrc] using hrun⟩

end UsCtrl
