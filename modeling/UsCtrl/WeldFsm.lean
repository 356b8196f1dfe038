import UsCtrl.Config

/-!
# The weld-cycle core

`app_weld_fsm.c` (READY → CYL1 → WELD → HOLD → CYL2, one call each 10 ms) and
`app_weld_trigger_fsm.c` (two-hand start, safety release, sensor edges), as step functions on
explicit states. `weldFsmStep` is the source's step with its abort, its countdown and one helper for
each state.

What the cycle is for is a phase machine (`WeldPhase`, `WeldMove`): the press descends, is armed,
sonicates, holds and rises; a run is started on entering `sonicating` and stopped on leaving it; a
cycle is counted only on the move from `rising` to `ready`; an abort goes to `ready` from anywhere.
Every step of the code is one of these moves (`weldFsmStep_move`), which is the one thing the proofs
over runs use about it, beside the solenoid level (`WeldFsm.Upright`: up in READY) and the dwell
countdown of a timed weld (`weldFsmStep_dwell`).
-/

set_option autoImplicit false
set_option relaxedAutoImplicit false

namespace UsCtrl

/-! ### `app_weld_fsm.c` -/

/-- `WELD_READY .. WELD_CYL2`. -/
inductive WeldState
  | ready
  | cyl1
  | weld
  | hold
  | cyl2
  deriving DecidableEq, Repr

/-- The static state of `app_weld_fsm.c`. -/
structure WeldFsm where
  runStatus : WeldState
  fStatusStart : Bool
  tempTime : ℕ
  compTime : ℕ
  solDn : Bool
  multiStage : ℕ
  multiElapsed : ℕ
  latchedMulti : Bool
  latchedEnergy : Bool
  runMode : ℕ
  dnPressed : Bool
  upPressed : Bool
  deriving DecidableEq, Repr

/-- `weld_in_t`. -/
structure WeldIn where
  start : Bool
  runMode : ℕ
  limitDelayTime1 : ℕ
  limitDelayTime2 : ℕ
  limitDelayTime3 : ℕ
  outputPower : ℕ
  energyCtrl : Bool
  currEnergy : ℕ
  limitEnergy : ℕ
  limitOutTime : ℕ
  multiCtrl : Bool
  limitMoOut1 : ℕ
  limitMoOut2 : ℕ
  limitMoTime1 : ℕ
  limitMoTime2 : ℕ
  abort : Bool
  limitTriggerTime2 : ℕ
  limitTriggerTime3 : ℕ
  dnEdge : Bool
  upEdge : Bool

/-- `weld_out_t`; `memset` to zero is `WeldOut.none`. -/
structure WeldOut where
  runStatus : WeldState
  solDn : Bool
  weldStart : Bool
  weldStop : Bool
  amplitude : ℕ
  cycleDone : Bool
  weldFault : Bool
  ampChange : Bool
  deriving DecidableEq, Repr

def WeldOut.none : WeldOut := ⟨.ready, false, false, false, 0, false, false, false⟩

/-- `WELD_COMP_FULL`. -/
def weldCompFull : ℕ := 7

/-- `weld_fsm_init`. -/
def weldFsmInit : WeldFsm where
  runStatus := .ready
  fStatusStart := false
  tempTime := 0
  compTime := weldCompFull
  solDn := false
  multiStage := 0
  multiElapsed := 0
  latchedMulti := false
  latchedEnergy := false
  runMode := 0
  dnPressed := false
  upPressed := false

/-- `weld_backstop_ticks`: seconds to 10 ms ticks, zero counted as one second. -/
def weldBackstopTicks (limitOutTimeSec : ℕ) : ℕ :=
  (if limitOutTimeSec = 0 then 1 else limitOutTimeSec) * 100 % 65536

/-- `weld_amplitude`; `output_power - 50u` is unsigned and cut to 16 bits. -/
def weldAmplitude (outputPower compTime : ℕ) : ℕ :=
  let base := (outputPower + 65536 - 50) % 65536 * 255 / 100 % 65536
  let amp := if compTime < weldCompFull then
      (if base ≥ (weldCompFull - compTime) * 10 then base - (weldCompFull - compTime) * 10 else 0)
    else base
  amp % 256

/-- `weld_mo_amplitude`. -/
def weldMoAmplitude (moOut : ℕ) : ℕ := if moOut < 50 then 0 else (moOut - 50) * 255 / 100 % 256

/-- `enter_weld`: CYL1 → WELD, arming the dwell (or the energy backstop) from one snapshot. -/
def enterWeld (input : WeldIn) (weldTime : ℕ) (fsm : WeldFsm) : WeldFsm :=
  { fsm with
    fStatusStart := false
    runStatus := .weld
    latchedMulti := input.multiCtrl
    latchedEnergy := input.energyCtrl
    multiStage := 0
    multiElapsed := 0
    compTime := if weldTime > 6 then weldCompFull else weldTime
    tempTime := if input.energyCtrl then weldBackstopTicks input.limitOutTime
      else if weldTime > 6 then weldTime else weldCompFull }

/-- `hold_time`. -/
def holdTime (input : WeldIn) (fsm : WeldFsm) : ℕ :=
  if fsm.runMode ≠ 0 then input.limitTriggerTime3 else input.limitDelayTime3

/-- `weld_abort_body`. -/
def weldAbortBody (fsm : WeldFsm) : WeldFsm × WeldOut :=
  ({ fsm with
      solDn := false
      runStatus := .ready
      fStatusStart := false
      tempTime := 0
      multiStage := 0
      multiElapsed := 0
      latchedMulti := false
      latchedEnergy := false
      runMode := 0
      dnPressed := false
      upPressed := false },
    { WeldOut.none with weldStop := decide (fsm.runStatus = .weld) })

/-- `weld_step_cyl1`. -/
def weldStepCyl1 (input : WeldIn) (fsm : WeldFsm) : WeldFsm :=
  if fsm.fStatusStart = false then { fsm with fStatusStart := true, solDn := true }
  else if fsm.runMode ≠ 0 then
    if fsm.dnPressed then enterWeld input input.limitTriggerTime2 { fsm with dnPressed := false }
    else fsm
  else if fsm.tempTime = 0 then enterWeld input input.limitDelayTime2 fsm
  else fsm

/-- WELD → HOLD, shared by the three exits of `weld_step_weld`. -/
def weldExitToHold (input : WeldIn) (fsm : WeldFsm) : WeldFsm :=
  { fsm with fStatusStart := false, runStatus := .hold, tempTime := holdTime input fsm }

/-- The two-stage branch of `weld_step_weld`. -/
def weldStepMulti (input : WeldIn) (fsm : WeldFsm) (out : WeldOut) : WeldFsm × WeldOut :=
  let fsm := { fsm with multiElapsed :=
    if fsm.multiElapsed < 0xFFFF then fsm.multiElapsed + 1 else fsm.multiElapsed }
  let stepped : WeldFsm × WeldOut :=
    if fsm.multiStage = 0 ∧ fsm.multiElapsed ≥ input.limitMoTime1 then
      ({ fsm with multiStage := 1 },
        { out with amplitude := weldMoAmplitude input.limitMoOut2, ampChange := true })
    else (fsm, out)
  if fsm.multiElapsed ≥ input.limitMoTime2 then
    (weldExitToHold input stepped.1, { stepped.2 with weldStop := true })
  else stepped

/-- `weld_step_weld`: first entry starts the run, then multi > energy > time decides the exit. -/
def weldStepWeld (input : WeldIn) (fsm : WeldFsm) (out : WeldOut) : WeldFsm × WeldOut :=
  if fsm.fStatusStart = false then
    if fsm.latchedMulti then
      ({ fsm with fStatusStart := true, multiStage := 0, multiElapsed := 1 },
        { out with amplitude := weldMoAmplitude input.limitMoOut1, weldStart := true })
    else
      ({ fsm with fStatusStart := true },
        { out with amplitude := weldAmplitude input.outputPower fsm.compTime, weldStart := true })
  else if fsm.latchedMulti then weldStepMulti input fsm out
  else if fsm.latchedEnergy then
    if input.limitEnergy ≠ 0 ∧ input.currEnergy ≥ input.limitEnergy then
      (weldExitToHold input fsm, { out with weldStop := true })
    else if fsm.tempTime = 0 then
      ({ fsm with
          solDn := false
          fStatusStart := false
          runStatus := .ready
          latchedMulti := false
          latchedEnergy := false },
        { out with weldStop := true, weldFault := true })
    else (fsm, out)
  else if fsm.tempTime = 0 then (weldExitToHold input fsm, { out with weldStop := true })
  else (fsm, out)

/-- READY is reached from CYL2 with the cycle counted. -/
def weldCycleDone (fsm : WeldFsm) (out : WeldOut) : WeldFsm × WeldOut :=
  ({ fsm with
      fStatusStart := false
      runStatus := .ready
      latchedMulti := false
      latchedEnergy := false },
    { out with cycleDone := true })

/-- `weld_step_cyl2`. -/
def weldStepCyl2 (fsm : WeldFsm) (out : WeldOut) : WeldFsm × WeldOut :=
  if fsm.fStatusStart = false then ({ fsm with fStatusStart := true, solDn := false }, out)
  else if fsm.runMode ≠ 0 then
    if fsm.upPressed then weldCycleDone { fsm with upPressed := false } out else (fsm, out)
  else if fsm.tempTime = 0 then weldCycleDone fsm out
  else (fsm, out)

/-- The `WELD_HOLD` case of `weld_fsm_step`. -/
def weldStepHold (input : WeldIn) (fsm : WeldFsm) : WeldFsm :=
  if fsm.fStatusStart = false then { fsm with fStatusStart := true }
  else if fsm.tempTime = 0 then
    { fsm with
      fStatusStart := false
      runStatus := .cyl2
      tempTime := input.limitDelayTime1
      upPressed := if fsm.runMode ≠ 0 then true else fsm.upPressed }
  else fsm

/-- The `WELD_READY` case of `weld_fsm_step`. -/
def weldStepReady (input : WeldIn) (fsm : WeldFsm) : WeldFsm :=
  if input.start then
    { fsm with
      runStatus := .cyl1
      runMode := input.runMode
      tempTime := input.limitDelayTime1
      fStatusStart := false
      dnPressed := false }
  else fsm

/-- The edge latches and the countdown that precede the `switch` of `weld_fsm_step`. -/
def weldFsmPrelude (input : WeldIn) (fsm : WeldFsm) : WeldFsm :=
  { fsm with
    dnPressed := fsm.dnPressed || input.dnEdge
    upPressed := fsm.upPressed || input.upEdge
    tempTime := fsm.tempTime - 1 }

/-- The `switch` of `weld_fsm_step`. -/
def weldFsmSwitch (input : WeldIn) (fsm : WeldFsm) : WeldFsm × WeldOut :=
  match fsm.runStatus with
  | .ready => (weldStepReady input fsm, WeldOut.none)
  | .cyl1 => (weldStepCyl1 input fsm, WeldOut.none)
  | .weld => weldStepWeld input fsm WeldOut.none
  | .hold => (weldStepHold input fsm, WeldOut.none)
  | .cyl2 => weldStepCyl2 fsm WeldOut.none

/-- `weld_fsm_step`: one 10 ms tick. -/
def weldFsmStep (input : WeldIn) (fsm : WeldFsm) : WeldFsm × WeldOut :=
  if input.abort ∧ fsm.runStatus ≠ .ready then weldAbortBody fsm
  else
    let stepped := weldFsmSwitch input (weldFsmPrelude input fsm)
    (stepped.1, { stepped.2 with runStatus := stepped.1.runStatus, solDn := stepped.1.solDn })

/-! ### The cycle as a phase machine -/

/-- Where a cycle is. The two halves of WELD are told apart: `armed` until the step that starts the
run, `sonicating` after it. -/
inductive WeldPhase
  | ready
  | descending
  | armed
  | sonicating
  | holding
  | rising
  deriving DecidableEq, Repr

/-- The phase of a state of the code. -/
def WeldFsm.phase (fsm : WeldFsm) : WeldPhase :=
  match fsm.runStatus with
  | .ready => .ready
  | .cyl1 => .descending
  | .weld => if fsm.fStatusStart then .sonicating else .armed
  | .hold => .holding
  | .cyl2 => .rising

/-- The edge outputs that leave a mark outside the core. -/
structure WeldEdges where
  weldStart : Bool := false
  weldStop : Bool := false
  cycleDone : Bool := false
  weldFault : Bool := false
  deriving DecidableEq, Repr

def WeldOut.edges (out : WeldOut) : WeldEdges :=
  ⟨out.weldStart, out.weldStop, out.cycleDone, out.weldFault⟩

/-- The moves of the cycle, given the abort and start inputs of the step. -/
inductive WeldMove (abort start : Bool) : WeldPhase → WeldEdges → WeldPhase → Prop
  | abort (phase : WeldPhase) (habort : abort = true) (hphase : phase ≠ .ready) :
      WeldMove abort start phase
        { weldStop := decide (phase = .armed ∨ phase = .sonicating) } .ready
  | idle (hstart : start = false) : WeldMove abort start .ready {} .ready
  | begin (hstart : start = true) : WeldMove abort start .ready {} .descending
  | wait (phase : WeldPhase) (habort : abort = false) (hphase : phase ≠ .ready)
      (harmed : phase ≠ .armed) : WeldMove abort start phase {} phase
  | enter (habort : abort = false) : WeldMove abort start .descending {} .armed
  | start (habort : abort = false) :
      WeldMove abort start .armed { weldStart := true } .sonicating
  | stop (habort : abort = false) :
      WeldMove abort start .sonicating { weldStop := true } .holding
  | fault (habort : abort = false) :
      WeldMove abort start .sonicating { weldStop := true, weldFault := true } .ready
  | rise (habort : abort = false) : WeldMove abort start .holding {} .rising
  | done (habort : abort = false) : WeldMove abort start .rising { cycleDone := true } .ready

@[simp] theorem WeldOut.edges_none : WeldOut.none.edges = {} := rfl

theorem WeldFsm.phase_ready {fsm : WeldFsm} : fsm.phase = .ready ↔ fsm.runStatus = .ready := by
  unfold WeldFsm.phase
  cases fsm.runStatus <;> cases fsm.fStatusStart <;> simp

theorem WeldFsm.phase_weld {fsm : WeldFsm} :
    (fsm.phase = .armed ∨ fsm.phase = .sonicating) ↔ fsm.runStatus = .weld := by
  unfold WeldFsm.phase
  cases fsm.runStatus <;> cases fsm.fStatusStart <;> simp

theorem weldStepCyl1_move (input : WeldIn) (fsm : WeldFsm) (start : Bool)
    (hstatus : fsm.runStatus = .cyl1) :
    WeldMove false start .descending {} (weldStepCyl1 input fsm).phase := by
  have hwait : WeldMove false start .descending {} .descending :=
    .wait .descending rfl (by decide) (by decide)
  unfold weldStepCyl1
  split_ifs
  · simpa only [WeldFsm.phase, hstatus] using hwait
  · exact .enter rfl
  · simpa only [WeldFsm.phase, hstatus] using hwait
  · exact .enter rfl
  · simpa only [WeldFsm.phase, hstatus] using hwait

theorem weldStepHold_move (input : WeldIn) (fsm : WeldFsm) (start : Bool)
    (hstatus : fsm.runStatus = .hold) :
    WeldMove false start .holding {} (weldStepHold input fsm).phase := by
  have hwait : WeldMove false start .holding {} .holding :=
    .wait .holding rfl (by decide) (by decide)
  unfold weldStepHold
  split_ifs
  · simpa only [WeldFsm.phase, hstatus] using hwait
  · exact .rise rfl
  · exact .rise rfl
  · simpa only [WeldFsm.phase, hstatus] using hwait

theorem weldStepCyl2_move (fsm : WeldFsm) (start : Bool) (hstatus : fsm.runStatus = .cyl2) :
    WeldMove false start .rising (weldStepCyl2 fsm WeldOut.none).2.edges
      (weldStepCyl2 fsm WeldOut.none).1.phase := by
  have hwait : WeldMove false start .rising {} .rising :=
    .wait .rising rfl (by decide) (by decide)
  unfold weldStepCyl2
  split_ifs
  · simpa only [WeldFsm.phase, hstatus, WeldOut.edges_none] using hwait
  · exact .done rfl
  · simpa only [WeldFsm.phase, hstatus, WeldOut.edges_none] using hwait
  · exact .done rfl
  · simpa only [WeldFsm.phase, hstatus, WeldOut.edges_none] using hwait

theorem weldStepMulti_move (input : WeldIn) (fsm : WeldFsm) (start : Bool)
    (hstatus : fsm.runStatus = .weld) (hstarted : fsm.fStatusStart = true) :
    WeldMove false start .sonicating (weldStepMulti input fsm WeldOut.none).2.edges
      (weldStepMulti input fsm WeldOut.none).1.phase := by
  have hwait : WeldMove false start .sonicating {} .sonicating :=
    .wait .sonicating rfl (by decide) (by decide)
  simp only [weldStepMulti]
  split_ifs
  all_goals first
    | exact WeldMove.stop rfl
    | simpa [WeldFsm.phase, hstatus, hstarted, WeldOut.edges, WeldOut.none] using hwait

theorem weldStepWeld_move (input : WeldIn) (fsm : WeldFsm) (start : Bool)
    (hstatus : fsm.runStatus = .weld) :
    WeldMove false start fsm.phase (weldStepWeld input fsm WeldOut.none).2.edges
      (weldStepWeld input fsm WeldOut.none).1.phase := by
  unfold weldStepWeld
  by_cases hstarted : fsm.fStatusStart = false
  · have hphase : fsm.phase = .armed := by simp [WeldFsm.phase, hstatus, hstarted]
    rw [if_pos hstarted, hphase]
    have hmove : WeldMove false start .armed { weldStart := true } .sonicating := .start rfl
    split_ifs <;> simpa [WeldFsm.phase, hstatus, WeldOut.edges, WeldOut.none] using hmove
  · have hstarted : fsm.fStatusStart = true := by simpa using hstarted
    have hphase : fsm.phase = .sonicating := by simp [WeldFsm.phase, hstatus, hstarted]
    have hwait : WeldMove false start .sonicating {} .sonicating :=
      .wait .sonicating rfl (by decide) (by decide)
    rw [if_neg (by simp [hstarted]), hphase]
    split_ifs
    · exact weldStepMulti_move input fsm start hstatus hstarted
    · exact .stop rfl
    · exact .fault rfl
    · simpa only [hphase, WeldOut.edges_none] using hwait
    · exact .stop rfl
    · simpa only [hphase, WeldOut.edges_none] using hwait

theorem weldFsmSwitch_move (input : WeldIn) (fsm : WeldFsm) (start : Bool)
    (hactive : fsm.runStatus ≠ .ready) :
    WeldMove false start fsm.phase (weldFsmSwitch input fsm).2.edges
      (weldFsmSwitch input fsm).1.phase := by
  unfold weldFsmSwitch
  cases hstatus : fsm.runStatus with
  | ready => exact absurd hstatus hactive
  | cyl1 =>
    have hphase : fsm.phase = .descending := by rw [WeldFsm.phase, hstatus]
    exact hphase ▸ weldStepCyl1_move input fsm start hstatus
  | weld => exact weldStepWeld_move input fsm start hstatus
  | hold =>
    have hphase : fsm.phase = .holding := by rw [WeldFsm.phase, hstatus]
    exact hphase ▸ weldStepHold_move input fsm start hstatus
  | cyl2 =>
    have hphase : fsm.phase = .rising := by rw [WeldFsm.phase, hstatus]
    exact hphase ▸ weldStepCyl2_move fsm start hstatus

/-- Every step of the code is a move of the cycle. -/
theorem weldFsmStep_move (input : WeldIn) (fsm : WeldFsm) :
    WeldMove input.abort input.start fsm.phase (weldFsmStep input fsm).2.edges
      (weldFsmStep input fsm).1.phase := by
  by_cases hready : fsm.runStatus = .ready
  · have hphase : fsm.phase = .ready := WeldFsm.phase_ready.mpr hready
    have hstep : weldFsmStep input fsm = ((weldStepReady input (weldFsmPrelude input fsm)),
        { WeldOut.none with
          runStatus := (weldStepReady input (weldFsmPrelude input fsm)).runStatus
          solDn := (weldStepReady input (weldFsmPrelude input fsm)).solDn }) := by
      simp only [weldFsmStep, hready, ne_eq, not_true_eq_false, and_false, if_false, weldFsmSwitch,
        weldFsmPrelude]
    rw [hstep, hphase]
    unfold weldStepReady
    split_ifs with hstart
    · exact .begin hstart
    · have hidle : WeldMove input.abort input.start .ready {} .ready :=
      .idle (by simpa using hstart)
      have hstay : (weldFsmPrelude input fsm).phase = .ready := WeldFsm.phase_ready.mpr hready
      exact hstay.symm ▸ hidle
  · unfold weldFsmStep
    by_cases habort : input.abort = true
    · rw [if_pos ⟨habort, hready⟩]
      have hedges : (weldAbortBody fsm).2.edges =
          { weldStop := decide (fsm.phase = .armed ∨ fsm.phase = .sonicating) } := by
        simp only [WeldFsm.phase_weld]
        rfl
      rw [hedges]
      exact .abort fsm.phase habort (mt WeldFsm.phase_ready.mp hready)
    · rw [if_neg (fun h ↦ habort h.1), (by simpa using habort : input.abort = false)]
      exact weldFsmSwitch_move input (weldFsmPrelude input fsm) input.start hready

/-- Assumes: the step is told to abort and not to begin. Then it ends in READY. -/
theorem weldFsmStep_abort_ready {input : WeldIn} (habort : input.abort = true)
    (hstart : input.start = false) (fsm : WeldFsm) :
    (weldFsmStep input fsm).1.runStatus = .ready := by
  have hmove := weldFsmStep_move input fsm
  rw [habort, hstart] at hmove
  rw [← WeldFsm.phase_ready]
  generalize (weldFsmStep input fsm).1.phase = phase at hmove ⊢
  generalize (weldFsmStep input fsm).2.edges = edges, fsm.phase = before at hmove
  cases hmove <;> simp_all

/-! ### Solenoid level and dwell -/

/-- The solenoid is up wherever the cycle has let it go: in READY, and in CYL2 after its first
step. -/
structure WeldFsm.Upright (fsm : WeldFsm) : Prop where
  ready : fsm.runStatus = .ready → fsm.solDn = false
  rising : fsm.runStatus = .cyl2 → fsm.fStatusStart = true → fsm.solDn = false

theorem weldFsmInit_upright : weldFsmInit.Upright := ⟨fun _ ↦ rfl, fun _ _ ↦ rfl⟩

theorem weldFsmStep_upright (input : WeldIn) {fsm : WeldFsm} (hfsm : fsm.Upright) :
    (weldFsmStep input fsm).1.Upright := by
  obtain ⟨hready, hrising⟩ := hfsm
  unfold weldFsmStep
  split_ifs with habort
  · exact ⟨fun _ ↦ rfl, fun _ _ ↦ rfl⟩
  · cases hstatus : fsm.runStatus <;>
      simp only [weldFsmSwitch, weldFsmPrelude, hstatus] at hready hrising ⊢
    · unfold weldStepReady
      split_ifs <;> constructor <;> simp_all
    · unfold weldStepCyl1 enterWeld
      split_ifs <;> constructor <;> simp_all
    · simp only [weldStepWeld, weldStepMulti, weldExitToHold]
      split_ifs <;> constructor <;> simp_all
    · unfold weldStepHold
      split_ifs <;> constructor <;> simp_all
    · unfold weldStepCyl2 weldCycleDone
      split_ifs <;> constructor <;> simp_all

/-- The solenoid output of a step is the level the state keeps. -/
@[simp] theorem weldFsmStep_solDn (input : WeldIn) (fsm : WeldFsm) :
    (weldFsmStep input fsm).2.solDn = (weldFsmStep input fsm).1.solDn := by
  unfold weldFsmStep
  split_ifs <;> rfl

/-- A weld in time mode: neither the two-stage nor the energy exit was latched. -/
def WeldFsm.Timed (fsm : WeldFsm) : Prop :=
  fsm.runStatus = .weld ∧ fsm.latchedMulti = false ∧ fsm.latchedEnergy = false

/-- Assumes: a timed weld and no abort. Then the step takes one tick off the dwell, and it leaves
WELD exactly when a sonicating weld has none left. -/
theorem weldFsmStep_dwell (input : WeldIn) {fsm : WeldFsm} (htimed : fsm.Timed)
    (habort : input.abort = false) :
    if fsm.phase = .sonicating ∧ fsm.tempTime ≤ 1 then
      (weldFsmStep input fsm).2.weldStop = true
    else (weldFsmStep input fsm).1.Timed ∧ (weldFsmStep input fsm).1.phase = .sonicating ∧
      (weldFsmStep input fsm).1.tempTime = fsm.tempTime - 1 := by
  obtain ⟨hstatus, hmulti, henergy⟩ := htimed
  cases hstarted : fsm.fStatusStart <;>
    simp only [weldFsmStep, habort, weldFsmSwitch, weldFsmPrelude, hstatus, weldStepWeld, hmulti,
      henergy, hstarted, WeldFsm.phase, WeldFsm.Timed] <;>
    by_cases hlast : fsm.tempTime - 1 = 0 <;> simp [hlast] <;> omega

end UsCtrl
