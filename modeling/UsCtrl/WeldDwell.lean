import UsCtrl.BlindWeld
import UsCtrl.Foundation.PollTimer

/-!
# How long a weld sonicates

The dwell of a weld in time mode is latched as the press arms it, from settings that have been live
since READY (`LimitsHeld`), and is counted in weld ticks that are due and not frozen (`exec_starts`,
`exec_dwells`). The weld tick is a polled timer (`weldTimer`): a tick that comes late is made up for
by ticks in quick succession, up to ten of them. The dwell is therefore measured on the grid of the
tick, and by the clock it is shorter by at most the lag of the grid at `weld_start` (`weld_lasts`).
-/

set_option autoImplicit false
set_option relaxedAutoImplicit false

namespace UsCtrl

open Foundation

/-! ### The limits of a cycle -/

/-- The settings of a weld in time mode, and the dwell that is armed from them in ticks of 10 ms. -/
structure TimeLimits (runMode ticks : ℕ) (cfg : AppConfig) : Prop where
  mode : cfg.runMode = runMode
  time : cfg.energyCtrl = false
  single : cfg.multiCtrl = false
  dwell : max 7 (if runMode ≠ 0 then cfg.limitTriggerTime2 else cfg.limitDelayTime2) = ticks

/-- A cycle under such settings: its mode was latched as it began, and its dwell as it was armed. -/
structure ArmedFor (runMode ticks : ℕ) (fsm : WeldFsm) : Prop where
  mode : fsm.runStatus ≠ .ready → fsm.runMode = runMode
  armed : fsm.phase = .armed →
    fsm.tempTime = ticks ∧ fsm.latchedMulti = false ∧ fsm.latchedEnergy = false

/-- The input of a step under such settings. -/
structure TimeInput (runMode ticks : ℕ) (input : WeldIn) : Prop where
  mode : input.runMode = runMode
  time : input.energyCtrl = false
  single : input.multiCtrl = false
  dwell : max 7 (if runMode ≠ 0 then input.limitTriggerTime2 else input.limitDelayTime2) = ticks

theorem enterWeld_tempTime (input : WeldIn) (weldTime : ℕ) (fsm : WeldFsm)
    (htime : input.energyCtrl = false) :
    (enterWeld input weldTime fsm).tempTime = max 7 weldTime := by
  simp only [enterWeld, htime, Bool.false_eq_true, if_false, weldCompFull]
  split_ifs <;> omega

theorem armedFor_ready {runMode ticks : ℕ} {fsm : WeldFsm} (hready : fsm.runStatus = .ready) :
    ArmedFor runMode ticks fsm :=
  ⟨fun h ↦ absurd hready h, fun h ↦ by simp [WeldFsm.phase, hready] at h⟩

/-- The mode of a cycle is that of the step that begins it. -/
theorem weldFsmStep_runMode (input : WeldIn) (fsm : WeldFsm)
    (hactive : (weldFsmStep input fsm).1.runStatus ≠ .ready) :
    (weldFsmStep input fsm).1.runMode =
      if fsm.runStatus = .ready then input.runMode else fsm.runMode := by
  revert hactive
  unfold weldFsmStep
  split_ifs with habort hready hready
  · exact fun hactive ↦ absurd rfl hactive
  · exact fun hactive ↦ absurd rfl hactive
  · simp only [weldFsmSwitch, weldFsmPrelude, hready, weldStepReady]
    split_ifs
    · exact fun _ ↦ rfl
    · exact fun hactive ↦ absurd rfl hactive
  · cases hstatus : fsm.runStatus <;> simp only [weldFsmSwitch, weldFsmPrelude, hstatus]
    · exact absurd hstatus hready
    · unfold weldStepCyl1 enterWeld
      split_ifs <;> exact fun _ ↦ rfl
    · simp only [weldStepWeld, weldStepMulti, weldExitToHold]
      split_ifs <;> exact fun _ ↦ rfl
    · unfold weldStepHold
      split_ifs <;> exact fun _ ↦ rfl
    · unfold weldStepCyl2 weldCycleDone
      split_ifs <;> exact fun _ ↦ rfl

/-- Only a cycle that descends is armed. -/
theorem WeldMove.arms {abort start : Bool} {phase : WeldPhase} {edges : WeldEdges}
    (hmove : WeldMove abort start phase edges .armed) : abort = false ∧ phase = .descending := by
  cases hmove <;> simp_all

/-- Assumes: a descending cycle in the mode of the settings, and a step under them that arms its
weld. The weld is armed for their dwell. -/
theorem weldStepCyl1_arms {runMode ticks : ℕ} {input : WeldIn} {fsm : WeldFsm}
    (hinput : TimeInput runMode ticks input) (hmode : fsm.runMode = runMode)
    (hstatus : fsm.runStatus = .cyl1) (harmed : (weldStepCyl1 input fsm).phase = .armed) :
    (weldStepCyl1 input fsm).tempTime = ticks ∧ (weldStepCyl1 input fsm).latchedMulti = false ∧
      (weldStepCyl1 input fsm).latchedEnergy = false := by
  have hdwell := hinput.dwell
  have hwaits : fsm.phase ≠ .armed := by simp [WeldFsm.phase, hstatus]
  revert harmed
  unfold weldStepCyl1
  split_ifs with hfirst htrigger hpressed hdone
  · exact fun harmed ↦ absurd harmed (by simp [WeldFsm.phase, hstatus])
  · rw [if_pos (hmode ▸ htrigger)] at hdwell
    exact fun _ ↦ ⟨(enterWeld_tempTime _ _ _ hinput.time).trans hdwell, hinput.single, hinput.time⟩
  · exact fun harmed ↦ absurd harmed hwaits
  · rw [if_neg (hmode ▸ htrigger)] at hdwell
    exact fun _ ↦ ⟨(enterWeld_tempTime _ _ _ hinput.time).trans hdwell, hinput.single, hinput.time⟩
  · exact fun harmed ↦ absurd harmed hwaits

/-- Assumes: a cycle that was begun under the settings, and a step under them. -/
theorem weldFsmStep_armedFor {runMode ticks : ℕ} {input : WeldIn} {fsm : WeldFsm}
    (hinput : TimeInput runMode ticks input) (hfsm : ArmedFor runMode ticks fsm) :
    ArmedFor runMode ticks (weldFsmStep input fsm).1 := by
  refine ⟨fun hactive ↦ ?_, fun harmed ↦ ?_⟩
  · rw [weldFsmStep_runMode input fsm hactive]
    split_ifs with hready
    · exact hinput.mode
    · exact hfsm.mode hready
  · have hmove := weldFsmStep_move input fsm
    rw [harmed] at hmove
    obtain ⟨habort, hdescending⟩ := hmove.arms
    have hstatus : fsm.runStatus = .cyl1 := by
      revert hdescending
      unfold WeldFsm.phase
      cases fsm.runStatus <;> cases fsm.fStatusStart <;> simp
    have hstep : (weldFsmStep input fsm).1 = weldStepCyl1 input (weldFsmPrelude input fsm) := by
      simp only [weldFsmStep, habort, Bool.false_eq_true, false_and, if_false, weldFsmSwitch,
        weldFsmPrelude, hstatus]
    rw [hstep] at harmed ⊢
    have hmode : (weldFsmPrelude input fsm).runMode = runMode :=
      hfsm.mode (by rw [hstatus]; decide)
    exact weldStepCyl1_arms hinput hmode hstatus harmed

/-! ### The press under a call -/

theorem weldBodyIn_time {runMode ticks : ℕ} {s : Sys} (tick : WeldTickIn)
    (hlimits : TimeLimits runMode ticks s.cfg) :
    TimeInput runMode ticks (weldBodyIn tick (weldAdvance tick s)) := by
  have hcfg : (weldScan tick (weldAdvance tick s)).cfg = s.cfg := by
    rw [weldScan_eq]
    rfl
  obtain ⟨hmode, htime, hsingle, hdwell⟩ := hlimits
  rw [← hcfg] at hmode htime hsingle hdwell
  exact ⟨hmode, htime, hsingle, hdwell⟩

/-- An input tick that does not enter the emergency stop leaves the press alone. -/
theorem inputBody_press (tick : InputTickIn) (s : Sys)
    (henter : (inputEvent tick s).estopEnter = false) : (inputBody tick s).weld = s.weld := by
  cases hestop : (inputEvent tick s).estopActive with
  | true =>
    rw [((inputBody_estop tick s hestop).1.frame .cycle).weld, inputScanned, henter]
    rfl
  | false =>
    rw [(inputBody_acts tick s hestop).frame.weld]
    rfl

/-- What a call does to the press: nothing, the grid of a frozen weld tick, a step of the weld tick,
or the abort of an emergency stop. -/
theorem exec_press (build : Build) (call : Call) (s : Sys) :
    ((call.exec build s).weld = s.weld ∧ weldEdges call s = {} ∧
        ∀ tick, call = .weldTick tick → weldDue tick s = false) ∨
      (∃ tick, call = .weldTick tick ∧ weldDue tick s = true ∧
        (call.exec build s).weld.prevMs = weldGrid tick.now s.weld.prevMs ∧
        (weldFrozen s = true ∧ weldEdges call s = {} ∧
            (call.exec build s).weld.fsm = s.weld.fsm ∨
          weldFrozen s = false ∧
            weldEdges call s = (weldBodyStep tick (weldAdvance tick s)).2.edges ∧
            (call.exec build s).weld.fsm = (weldBodyStep tick (weldAdvance tick s)).1)) ∨
      ((∃ tick, call = .inputTick tick) ∧
        weldEdges call s = (weldFsmStep weldAbortIn s.weld.fsm).2.edges ∧
        (call.exec build s).weld.fsm = (weldFsmStep weldAbortIn s.weld.fsm).1) := by
  have hframe := exec_frame build call s
  rcases call.weldTick_or with ⟨tick, rfl⟩ | hweld
  · rcases appWeldTick_cases tick s with ⟨hearly, heq⟩ | ⟨hdue, hfrozen, heq⟩ | ⟨hsteps, hbody⟩
    · refine Or.inl ⟨by rw [Call.exec, heq], by simp [weldEdges, weldSteps, hearly], ?_⟩
      rintro other ⟨⟩
      exact hearly
    · refine Or.inr (Or.inl ⟨tick, rfl, hdue, ?_, Or.inl ⟨hfrozen, ?_, ?_⟩⟩)
      · rw [Call.exec, heq]
        rfl
      · simp [weldEdges, weldSteps, hfrozen]
      · rw [Call.exec, heq]
        rfl
    · obtain ⟨hdue, hshown⟩ := weldSteps_iff.mp hsteps
      refine Or.inr (Or.inl ⟨tick, rfl, hdue, hbody.prevMs, Or.inr ⟨hshown, ?_, hbody.fsm⟩⟩)
      rw [weldEdges, if_pos hsteps]
  rcases call.inputTick_or with ⟨tick, rfl⟩ | hinput
  · rcases appInputTick_cases tick s with ⟨hearly, heq⟩ | ⟨hdue, heq⟩
    · exact Or.inl ⟨by rw [Call.exec, heq], by simp [weldEdges, hearly], by rintro _ ⟨⟩⟩
    · cases henter : (inputEvent tick s).estopEnter with
      | false =>
        refine Or.inl ⟨?_, by simp [weldEdges, henter], by rintro _ ⟨⟩⟩
        rw [Call.exec, heq, inputBody_press tick s henter]
      | true =>
        refine Or.inr (Or.inr ⟨⟨tick, rfl⟩, by simp [weldEdges, hdue, henter], ?_⟩)
        rw [Call.exec, heq, inputBody_weld, if_pos henter]
  exact Or.inl ⟨hframe.weld hweld hinput, (weldEdges_other hweld hinput s).1,
    fun tick heq ↦ absurd (congrArg Call.kind heq) hweld⟩

/-- Assumes: a cycle that was begun under the settings, and a call that finds them live. -/
theorem exec_armedFor (build : Build) (call : Call) {runMode ticks : ℕ} {s : Sys}
    (hlimits : TimeLimits runMode ticks s.cfg) (hs : ArmedFor runMode ticks s.weld.fsm) :
    ArmedFor runMode ticks (call.exec build s).weld.fsm := by
  rcases exec_press build call s with
    ⟨hweld, -⟩ | ⟨tick, -, -, -, ⟨-, -, hfsm⟩ | ⟨-, -, hfsm⟩⟩ | ⟨-, -, hfsm⟩
  · rw [hweld]
    exact hs
  · rw [hfsm]
    exact hs
  · rw [hfsm]
    exact weldFsmStep_armedFor (weldBodyIn_time tick hlimits) hs
  · rw [hfsm]
    exact armedFor_ready (weldFsmStep_abort_ready rfl rfl s.weld.fsm)

/-- A due weld tick that finds the cycle frozen: its grid goes on, and the cycle does not. -/
def weldLost (call : Call) (s : Sys) : Bool :=
  match call with
  | .weldTick tick => weldDue tick s && weldFrozen s
  | _ => false

/-! ### The dwell -/

/-- A weld in time mode sonicates, with `left` ticks of its dwell to go. -/
structure Dwelling (left : ℕ) (s : Sys) : Prop where
  timed : s.weld.fsm.Timed
  sonicating : s.weld.fsm.phase = .sonicating
  left : s.weld.fsm.tempTime = left

theorem dwelling_of_fsm {left : ℕ} {s : Sys} {fsm : WeldFsm} (hfsm : s.weld.fsm = fsm)
    (htimed : fsm.Timed) (hsonicating : fsm.phase = .sonicating) (hleft : fsm.tempTime = left) :
    Dwelling left s := by
  subst hfsm
  exact ⟨htimed, hsonicating, hleft⟩

/-- Only an armed cycle starts its weld, and not in a step that aborts. -/
theorem WeldMove.starts {abort start : Bool} {phase phase' : WeldPhase} {edges : WeldEdges}
    (hmove : WeldMove abort start phase edges phase') (hstart : edges.weldStart = true) :
    abort = false ∧ phase = .armed := by
  cases hmove <;> simp_all

/-- An abort of a sonicating weld stops it. -/
theorem WeldMove.abort_stops {start : Bool} {phase' : WeldPhase} {edges : WeldEdges}
    (hmove : WeldMove true start .sonicating edges phase') : edges.weldStop = true := by
  cases hmove <;> simp_all

/-- A weld that is stopped no longer sonicates. -/
theorem WeldMove.stopped {abort start : Bool} {phase phase' : WeldPhase} {edges : WeldEdges}
    (hmove : WeldMove abort start phase edges phase') (hstop : edges.weldStop = true) :
    phase' ≠ .sonicating := by
  cases hmove <;> simp_all

/-- Assumes: a cycle that was begun under the settings. The tick that starts its weld is due, and
leaves the dwell with its first tick taken off. -/
theorem exec_starts (build : Build) {runMode ticks : ℕ} {tick : WeldTickIn} {s : Sys}
    (hs : ArmedFor runMode ticks s.weld.fsm)
    (hstart : (weldEdges (.weldTick tick) s).weldStart = true) :
    Dwelling (ticks - 1) ((Call.weldTick tick).exec build s) ∧ weldDue tick s = true ∧
      ((Call.weldTick tick).exec build s).weld.prevMs = weldGrid tick.now s.weld.prevMs := by
  rcases exec_press build (.weldTick tick) s with
    ⟨-, hedges, -⟩ | ⟨other, heq, hdue, hgrid, hstep⟩ | ⟨⟨other, heq⟩, -⟩
  · rw [hedges] at hstart
    exact absurd hstart (by decide)
  · obtain rfl : tick = other := by simpa using heq
    rcases hstep with ⟨-, hedges, -⟩ | ⟨-, hedges, hfsm⟩
    · rw [hedges] at hstart
      exact absurd hstart (by decide)
    · rw [hedges] at hstart
      obtain ⟨habort, harmed⟩ := (weldFsmStep_move _ _).starts hstart
      obtain ⟨htime, hmulti, henergy⟩ := hs.armed harmed
      have htimed : s.weld.fsm.Timed := ⟨WeldFsm.phase_weld.mp (Or.inl harmed), hmulti, henergy⟩
      have hdwell := weldFsmStep_dwell _ htimed habort
      rw [if_neg (fun h ↦ absurd (harmed.symm.trans h.1) (by decide))] at hdwell
      obtain ⟨htimed', hsonicating, hleft⟩ := hdwell
      rw [htime] at hleft
      exact ⟨dwelling_of_fsm hfsm htimed' hsonicating hleft, hdue, hgrid⟩
  · cases heq

/-- Assumes: a weld sonicates, and a call does not stop it. The dwell goes on; only a due weld tick
that finds the cycle not frozen takes one tick off it, and then it is not the last. -/
theorem exec_dwells (build : Build) (call : Call) {left : ℕ} {s : Sys} (hs : Dwelling left s)
    (hgoes : (weldEdges call s).weldStop = false) :
    (Dwelling left (call.exec build s) ∧ (call.exec build s).weld.prevMs = s.weld.prevMs ∧
        ∀ tick, call = .weldTick tick → weldDue tick s = false) ∨
      ∃ tick, call = .weldTick tick ∧ weldDue tick s = true ∧
        (call.exec build s).weld.prevMs = weldGrid tick.now s.weld.prevMs ∧
        (weldFrozen s = true ∧ Dwelling left (call.exec build s) ∨
          weldFrozen s = false ∧ 1 < left ∧ Dwelling (left - 1) (call.exec build s)) := by
  obtain ⟨htimed, hsonicating, hleft⟩ := hs
  have hkept {s' : Sys} (hfsm : s'.weld.fsm = s.weld.fsm) : Dwelling left s' :=
    dwelling_of_fsm hfsm htimed hsonicating hleft
  rcases exec_press build call s with
    ⟨hweld, -, hearly⟩ | ⟨tick, hcall, hdue, hgrid, hstep⟩ | ⟨-, hedges, -⟩
  · exact Or.inl ⟨hkept (by rw [hweld]), by rw [hweld], hearly⟩
  · refine Or.inr ⟨tick, hcall, hdue, hgrid, ?_⟩
    rcases hstep with ⟨hfrozen, -, hfsm⟩ | ⟨hshown, hedges, hfsm⟩
    · exact Or.inl ⟨hfrozen, hkept hfsm⟩
    · rw [hedges] at hgoes
      have hmove := weldFsmStep_move (weldBodyIn tick (weldAdvance tick s)) s.weld.fsm
      have habort : (weldBodyIn tick (weldAdvance tick s)).abort = false := by
        by_contra habort
        rw [Bool.not_eq_false] at habort
        rw [habort, hsonicating] at hmove
        exact absurd (hmove.abort_stops.symm.trans hgoes) (by decide)
      have hdwell := weldFsmStep_dwell _ htimed habort
      by_cases hlast : left ≤ 1
      · rw [if_pos ⟨hsonicating, hleft.le.trans hlast⟩] at hdwell
        exact absurd (hdwell.symm.trans hgoes) (by decide)
      · rw [if_neg (fun h ↦ hlast (hleft ▸ h.2)), hleft] at hdwell
        exact Or.inr ⟨hshown, not_le.mp hlast,
          dwelling_of_fsm hfsm hdwell.1 hdwell.2.1 hdwell.2.2⟩
  · have hmove := weldFsmStep_move weldAbortIn s.weld.fsm
    rw [hsonicating, ← hedges] at hmove
    exact absurd (hmove.abort_stops.symm.trans hgoes) (by decide)

/-- Assumes: a weld sonicates, and a weld tick stops it without an abort. The tick is due, and was
the last of the dwell. -/
theorem tick_stops {left : ℕ} {tick : WeldTickIn} {s : Sys} (hs : Dwelling left s)
    (hstop : (weldEdges (.weldTick tick) s).weldStop = true)
    (habort : weldAborts (.weldTick tick) s = false) : weldDue tick s = true ∧ left ≤ 1 := by
  obtain ⟨htimed, hsonicating, hleft⟩ := hs
  rw [weldEdges] at hstop
  split_ifs at hstop with hsteps
  rw [weldAborts, hsteps, Bool.true_and] at habort
  have hdue : weldDue tick s = true := (Bool.and_eq_true_iff.mp hsteps).1
  refine ⟨hdue, ?_⟩
  by_contra hmore
  have hdwell := weldFsmStep_dwell _ htimed habort
  rw [if_neg (fun h ↦ hmore (hleft ▸ h.2))] at hdwell
  exact (weldFsmStep_move _ _).stopped hstop hdwell.2.1

/-! ### The weld tick as a polled timer -/

/-- The timer of `app_weld_tick`: a step of 10 ms, resynchronised behind ten of them. -/
def weldTimer : PollTimer := ⟨2 ^ 32, 10, 100⟩

theorem weldTimer_roomy : weldTimer.Roomy := ⟨by decide, by decide, by decide⟩

theorem weldDue_iff (tick : WeldTickIn) (s : Sys) :
    weldDue tick s = true ↔ weldTimer.due tick.now s.weld.prevMs := decide_eq_true_iff

theorem weldGrid_eq (now prevMs : ℕ) : weldGrid now prevMs = weldTimer.grid now prevMs := rfl

/-- The clock read of the last weld tick. -/
def lastWeldMs : List Call → ℕ
  | [] => 0
  | call :: past =>
    match call with
    | .weldTick tick => tick.now
    | _ => lastWeldMs past

/-- The clock reads of the weld ticks never decrease. -/
def WeldClock : List Call → Prop
  | [] => True
  | call :: past =>
    WeldClock past ∧
      match call with
      | .weldTick tick => lastWeldMs past ≤ tick.now
      | _ => True

/-! ### Over runs -/

section Events

variable (build : Build) (boot : BootIn) (runMode ticks origin lag : ℕ)

/-- The settings of the cycle have been live since the press was last seen in READY. -/
def LimitsHeld : Past Call :=
  since (fun h ↦ TimeLimits runMode ticks (stateAfter build boot h).cfg) fun h ↦
    weldFsmStatus (stateAfter build boot h) = .ready ∧
      TimeLimits runMode ticks (stateAfter build boot h).cfg

/-- The newest call emitted the `weld_start` of a cycle under constant settings. It read the clock
at `origin`, and left its grid `lag` behind. -/
def weldStarts : Past Call
  | [] => False
  | call :: past => LimitsHeld build boot runMode ticks past ∧
    ∃ tick, call = .weldTick tick ∧ tick.now = origin ∧
      (weldEdges call (stateAfter build boot past)).weldStart = true ∧
      elapsedMs origin (stateAfter build boot (call :: past)).weld.prevMs = lag

/-- That weld has not been stopped since. -/
def Welding : Past Call :=
  since (newest build boot fun call s _ ↦ (weldEdges call s).weldStop = false)
    (weldStarts build boot runMode ticks origin lag)

end Events

variable {build : Build} {boot : BootIn} {runMode ticks origin lag : ℕ}

theorem armedFor_of_held (history : List Call) (h : LimitsHeld build boot runMode ticks history) :
    TimeLimits runMode ticks (stateAfter build boot history).cfg ∧
      ArmedFor runMode ticks (stateAfter build boot history).weld.fsm := by
  revert history
  refine since_induction
    (fun history ↦ TimeLimits runMode ticks (stateAfter build boot history).cfg ∧
    ArmedFor runMode ticks (stateAfter build boot history).weld.fsm) ?_ ?_
  · exact fun call past h ↦ ⟨h.2, armedFor_ready h.1⟩
  · exact fun call past h hpast ↦ ⟨h, exec_armedFor build call hpast.1 hpast.2⟩

theorem lastWeldMs_le {call : Call} {past : List Call} (hclock : WeldClock (call :: past)) :
    lastWeldMs past ≤ lastWeldMs (call :: past) := by
  have hcall := hclock.2
  cases call with
  | weldTick tick => exact hcall
  | _ => exact le_rfl

theorem lastWeldMs_read (history : List Call) :
    lastWeldMs history = 0 ∨ ∃ tick, .weldTick tick ∈ history ∧ lastWeldMs history = tick.now := by
  induction history with
  | nil => exact Or.inl rfl
  | cons call past ih =>
    cases call with
    | weldTick tick => exact Or.inr ⟨tick, List.mem_cons_self, rfl⟩
    | _ =>
      rcases ih with hzero | ⟨tick, hmem, hread⟩
      · exact Or.inl hzero
      · exact Or.inr ⟨tick, List.mem_cons_of_mem _ hmem, hread⟩

theorem weldClock_of_chronological {history : List Call} (h : Chronological history) :
    WeldClock history := by
  induction history with
  | nil => trivial
  | cons call past ih =>
    refine ⟨ih h.tail, ?_⟩
    cases call with
    | weldTick tick =>
      change lastWeldMs past ≤ tick.now
      rcases lastWeldMs_read past with hzero | ⟨older, hmem, hread⟩
      · rw [hzero]
        exact Nat.zero_le _
      · rw [hread]
        exact h.le (List.mem_cons_self) hmem List.mem_cons_self
    | _ => trivial

/-- The dwell as a weld starts. -/
theorem dwelling_of_starts {history : List Call}
    (h : weldStarts build boot runMode ticks origin lag history) :
    7 ≤ ticks ∧ lag ≤ 100 ∧ lastWeldMs history = origin ∧
      Dwelling (ticks - 1) (stateAfter build boot history) ∧
      weldTimer.lag origin (stateAfter build boot history).weld.prevMs = lag := by
  cases history with
  | nil => exact h.elim
  | cons call past =>
    obtain ⟨hheld, tick, rfl, horigin, hstart, hlag⟩ := h
    obtain ⟨hlimits, harmed⟩ := armedFor_of_held past hheld
    obtain ⟨hdwelling, hdue, hgrid⟩ := exec_starts build harmed hstart
    have hticks : 7 ≤ ticks := hlimits.dwell ▸ le_max_left _ _
    refine ⟨hticks, ?_, horigin, hdwelling, hlag⟩
    rw [← hlag, ← horigin]
    change weldTimer.lag tick.now
      ((Call.weldTick tick).exec build (stateAfter build boot past)).weld.prevMs
      ≤ weldTimer.window
    rw [hgrid, weldGrid_eq]
    exact PollTimer.lag_grid_le (by decide) ((weldDue_iff tick _).mp hdue)

/-- While a weld goes on, the ticks taken off its dwell have been paid for. -/
theorem welding_earned : ∀ history, Welding build boot runMode ticks origin lag history →
    WeldClock history → lag ≤ 100 ∧ ∃ count left, count + left + 1 = ticks ∧ 0 < left ∧
      Dwelling left (stateAfter build boot history) ∧
      weldTimer.Earned origin lag count (lastWeldMs history)
        (stateAfter build boot history).weld.prevMs := by
  refine since_induction _ (fun call past hstarts _ ↦ ?_) fun call past hgoes ih hclock ↦ ?_
  · obtain ⟨hticks, hbound, hlast, hdwelling, hlag⟩ := dwelling_of_starts hstarts
    refine ⟨hbound, 0, ticks - 1, by omega, by omega, hdwelling, ?_⟩
    rw [hlast, ← hlag]
    exact PollTimer.earned_origin
  · obtain ⟨hbound, count, left, hcount, hpos, hdwelling, hearned⟩ := ih hclock.1
    have hearned := PollTimer.earned_wait hearned (lastWeldMs_le hclock)
    refine ⟨hbound, ?_⟩
    rcases exec_dwells build call hdwelling hgoes with
      ⟨hkept, hgrid, -⟩ | ⟨tick, rfl, hdue, hgrid, hstep⟩
    · exact ⟨count, left, hcount, hpos, hkept, hgrid ▸ hearned⟩
    · have hpaid : weldTimer.Earned origin lag (count + 1) tick.now
          (weldGrid tick.now (stateAfter build boot past).weld.prevMs) :=
        PollTimer.earned_due (by decide) hearned ((weldDue_iff tick _).mp hdue)
      rw [← hgrid] at hpaid
      rcases hstep with ⟨-, hkept⟩ | ⟨-, hmore, hkept⟩
      · exact ⟨count, left, hcount, hpos, hkept, PollTimer.earned_fewer hpaid⟩
      · exact ⟨count + 1, left - 1, by omega, by omega, hkept, hpaid⟩

/-! ### Runs with a short weld -/

/-- The calls of an iteration before its weld tick. -/
def IterIn.beforeWeld (iter : IterIn) : List Call := iter.frames.map .frame ++ [.lcdTick]

/-- The calls of an iteration behind its weld tick. -/
def IterIn.afterWeld (iter : IterIn) : List Call :=
  [.overloadTick iter.overload, .inputTick iter.input, .hornTick iter.horn,
    .seekResetTick iter.seekReset, .regTick iter.reg, .ethTick iter.eth, .modbusTick iter.modbus,
    .faultAlarmTick iter.faultAlarm, .buzzerTick iter.buzzer]

theorem IterIn.calls_eq (iter : IterIn) :
    iter.calls = iter.beforeWeld ++ .weldTick iter.weld :: iter.afterWeld := by
  rw [IterIn.calls, beforeWeld, afterWeld, List.append_assoc]
  rfl

instance (runMode ticks : ℕ) (cfg : AppConfig) : Decidable (TimeLimits runMode ticks cfg) :=
  decidable_of_iff (cfg.runMode = runMode ∧ cfg.energyCtrl = false ∧ cfg.multiCtrl = false ∧
      max 7 (if runMode ≠ 0 then cfg.limitTriggerTime2 else cfg.limitDelayTime2) = ticks)
    ⟨fun ⟨hmode, htime, hsingle, hdwell⟩ ↦ ⟨hmode, htime, hsingle, hdwell⟩,
      fun ⟨hmode, htime, hsingle, hdwell⟩ ↦ ⟨hmode, htime, hsingle, hdwell⟩⟩

/-- A cycle with the shortest times, up to its armed weld. -/
def armedWeld : List IterIn :=
  everyPeriod keysIter 4030 2 ++
    [{ keysIter 4020 with
      frames := [keyFrame 0x1203 0 4020, keyFrame 0x1204 0 4020, keyFrame 0x1205 0 4020] }]

theorem armedWeld_held (now : ℕ) : LimitsHeld stdBuild (netBoot false) 0 7
    (warmedRun armedWeld (keysIter now) 1).history := by
  have hsplit : (warmedRun armedWeld (keysIter now) 1).history =
      (.lcdTick :: iterHistory (everyPeriod keysIter 4030 2) ++
          ((armedWeld.getLast (by decide)).calls.drop 3).reverse) ++
        (warmedRun [] (armedWeld.getLast (by decide)) 3).history := rfl
  rw [hsplit]
  refine since_append (controller stdBuild (netBoot false))
    (fun call s ↦ TimeLimits 0 7 (call.exec stdBuild s).cfg) (fun _ _ h ↦ h) ?_
    (since_now (List.cons_ne_nil _ _) ⟨?_, ?_⟩)
  · rw [warmedRun_after]
    decide +kernel
  · rw [stateAfter, warmedRun_after]
    decide +kernel
  · rw [stateAfter, warmedRun_after]
    decide +kernel

/-- The weld starts in the next iteration, which lags as much as it is late. -/
theorem armedWeld_starts {now lag : ℕ} (hnow : now = 4050 ∧ lag = 0 ∨ now = 4150 ∧ lag = 100) :
    weldStarts stdBuild (netBoot false) 0 7 now lag (warmedRun armedWeld (keysIter now) 2).history ∧
      startAccepted stdBuild (netBoot false) (warmedRun armedWeld (keysIter now) 2).history ∧
      appRegRunSrc (stateAfter stdBuild (netBoot false)
        (warmedRun armedWeld (keysIter now) 2).history) = .cycle := by
  have hlast : (warmedRun armedWeld (keysIter now) 2).history =
      .weldTick (keysIter now).weld :: (warmedRun armedWeld (keysIter now) 1).history := rfl
  rw [hlast, weldStarts, startAccepted, newest, stateAfter, stateAfter, Machine.after_cons,
    warmedRun_after]
  rcases hnow with ⟨rfl, rfl⟩ | ⟨rfl, rfl⟩
  · refine ⟨⟨armedWeld_held 4050, _, rfl, rfl, ?_, ?_⟩, ?_, ?_⟩ <;> decide +kernel
  · refine ⟨⟨armedWeld_held 4150, _, rfl, rfl, ?_, ?_⟩, ?_, ?_⟩ <;> decide +kernel

/-- Assumes: the weld ticks of the run read a clock that does not go backwards, and the newest call
is the one that stops a weld, without an abort. However the loop stalled, the weld has lasted one
tick less than its dwell, up to the lag of the grid as it started, which is at most ten ticks. -/
theorem weld_lasts (build : Build) (boot : BootIn) (runMode ticks origin lag : ℕ)
    (tick : WeldTickIn) (past : List Call) (hclock : WeldClock (.weldTick tick :: past))
    (hwelding : Welding build boot runMode ticks origin lag past)
    (hstop : (weldEdges (.weldTick tick) (stateAfter build boot past)).weldStop = true)
    (habort : weldAborts (.weldTick tick) (stateAfter build boot past) = false) :
    origin + 10 * (ticks - 1) ≤ tick.now + lag ∧ lag ≤ 100 := by
  obtain ⟨hbound, count, left, hcount, hpos, hdwelling, hearned⟩ :=
    welding_earned past hwelding hclock.1
  obtain ⟨hdue, hlast⟩ := tick_stops hdwelling hstop habort
  have hearned := PollTimer.earned_wait hearned hclock.2
  have hpaid := PollTimer.earned_due (by decide) hearned ((weldDue_iff tick _).mp hdue)
  have hpaid : origin + 10 * (count + 1) +
      weldTimer.lag tick.now (weldTimer.grid tick.now (stateAfter build boot past).weld.prevMs) ≤
        tick.now + lag := hpaid
  have hticks : count + 1 = ticks - 1 := by omega
  rw [hticks] at hpaid
  exact ⟨by omega, hbound⟩

/-- The weld of that cycle starts after a stall of 110 ms, and the loop then iterates without delay
up to the tick that stops it. -/
def stalledWeld : SuperloopRun :=
  warmedRun (List.replicate 6 (keysIter 4150) ++ armedWeld) (keysIter 4150) 1

theorem stalledWeld_welds : Chronological (.weldTick (keysIter 4150).weld :: stalledWeld.history) ∧
    Welding stdBuild (netBoot false) 0 7 4150 100 stalledWeld.history ∧
    since (newest stdBuild (netBoot false) fun call s _ ↦ weldLost call s = false)
      (weldStarts stdBuild (netBoot false) 0 7 4150 100) stalledWeld.history ∧
    (weldEdges (.weldTick (keysIter 4150).weld)
      (stateAfter stdBuild (netBoot false) stalledWeld.history)).weldStop = true ∧
    weldAborts (.weldTick (keysIter 4150).weld)
      (stateAfter stdBuild (netBoot false) stalledWeld.history) = false := by
  have hlast : .weldTick (keysIter 4150).weld :: stalledWeld.history =
      (warmedRun (List.replicate 6 (keysIter 4150) ++ armedWeld) (keysIter 4150) 2).history := rfl
  have hsplit : stalledWeld.history =
      (.lcdTick :: iterHistory (List.replicate 5 (keysIter 4150)) ++
        (keysIter 4150).afterWeld.reverse) ++ (warmedRun armedWeld (keysIter 4150) 2).history := rfl
  have hstarts : weldStarts stdBuild (netBoot false) 0 7 4150 100
      (warmedRun armedWeld (keysIter 4150) 2).history := (armedWeld_starts (Or.inr ⟨rfl, rfl⟩)).1
  refine ⟨?_, ?_, ?_, ?_, ?_⟩
  · rw [hlast]
    refine warmedRun_chronological _ _ _ ?_ ?_ <;> decide +kernel
  · rw [hsplit]
    refine since_append (controller stdBuild (netBoot false))
      (fun call s ↦ (weldEdges call s).weldStop = false) (fun _ _ h ↦ h) ?_
      (since_now (List.cons_ne_nil _ _) hstarts)
    rw [warmedRun_after]
    decide +kernel
  · rw [hsplit]
    refine since_append (controller stdBuild (netBoot false))
      (fun call s ↦ weldLost call s = false) (fun _ _ h ↦ h) ?_
      (since_now (List.cons_ne_nil _ _) hstarts)
    rw [warmedRun_after]
    decide +kernel
  · rw [stalledWeld, stateAfter, warmedRun_after]
    decide +kernel
  · rw [stalledWeld, stateAfter, warmedRun_after]
    decide +kernel

/-- The weld starts and stops at one instant. -/
theorem stalledWeld_short : WeldClock (.weldTick (keysIter 4150).weld :: stalledWeld.history) ∧
    Welding stdBuild (netBoot false) 0 7 4150 100 stalledWeld.history ∧
    since (newest stdBuild (netBoot false) fun call s _ ↦ weldLost call s = false)
      (weldStarts stdBuild (netBoot false) 0 7 4150 100) stalledWeld.history ∧
    (weldEdges (.weldTick (keysIter 4150).weld)
      (stateAfter stdBuild (netBoot false) stalledWeld.history)).weldStop = true ∧
    weldAborts (.weldTick (keysIter 4150).weld)
      (stateAfter stdBuild (netBoot false) stalledWeld.history) = false ∧
    (keysIter 4150).weld.now < 4150 + 10 * (7 - 2) :=
  ⟨weldClock_of_chronological stalledWeld_welds.1, stalledWeld_welds.2.1, stalledWeld_welds.2.2.1,
    stalledWeld_welds.2.2.2.1, stalledWeld_welds.2.2.2.2, by decide⟩

/-- The bound with the lag of the grid as it started. -/
theorem stalledWeld_lasts : 4150 + 10 * (7 - 1) ≤ (keysIter 4150).weld.now + 100 ∧ 100 ≤ 100 :=
  weld_lasts stdBuild (netBoot false) 0 7 4150 100 (keysIter 4150).weld stalledWeld.history
    (weldClock_of_chronological stalledWeld_welds.1) stalledWeld_welds.2.1
    stalledWeld_welds.2.2.2.1 stalledWeld_welds.2.2.2.2

end UsCtrl
