import UsCtrl.WeldFsm
import UsCtrl.Foundation.History

/-!
# The trace of the weld cycle

`weld_fsm_step` from its initial state, over any sequence of inputs. `weld_trace` says what every
step may do: how the state moves, and on which step each of the outputs appears. A visit of WELD is
the run of steps between the one that enters the state and the one that leaves it; the first step
executed in it is the one behind the entry (`FirstInWeld`), which is when the phase is `armed`.

The change of the amplitude is spelled out by its past: it is preceded by the `weld_start` of its
own visit, with no other change and no exit in between.
-/

set_option autoImplicit false
set_option relaxedAutoImplicit false

namespace UsCtrl

open Foundation

/-! ### Runs of the core -/

/-- The weld core on its own, fed with one input for each step. -/
def weldCore : Machine WeldFsm WeldIn where
  start := weldFsmInit
  exec input fsm := (weldFsmStep input fsm).1

/-- The state after the steps so far. -/
def statusAfter (inputs : List WeldIn) : WeldState := (weldCore.after inputs).runStatus

/-- The outputs of the newest step. -/
def stepOut : List WeldIn → WeldOut
  | [] => WeldOut.none
  | input :: past => (weldFsmStep input (weldCore.after past)).2

/-- The newest step is the first one executed in a visit of WELD: the one before it entered. -/
def FirstInWeld : Past WeldIn
  | _ :: previous :: older =>
    statusAfter (previous :: older) = .weld ∧ statusAfter older ≠ .weld
  | _ => False

/-- A step that finds the budget of an energy weld used up and the energy not reached. -/
structure BackstopStep (input : WeldIn) (fsm : WeldFsm) : Prop where
  goes : input.abort = false
  sonicating : fsm.phase = .sonicating
  energy : fsm.latchedMulti = false ∧ fsm.latchedEnergy = true
  missed : ¬ (input.limitEnergy ≠ 0 ∧ input.currEnergy ≥ input.limitEnergy)
  expired : fsm.tempTime ≤ 1

/-! ### One step -/

/-- The state of the code that belongs to a phase. -/
def WeldPhase.status : WeldPhase → WeldState
  | .ready => .ready
  | .descending => .cyl1
  | .armed | .sonicating => .weld
  | .holding => .hold
  | .rising => .cyl2

theorem WeldFsm.status_phase (fsm : WeldFsm) : fsm.phase.status = fsm.runStatus := by
  unfold WeldFsm.phase
  cases fsm.runStatus <;> cases fsm.fStatusStart <;> rfl

/-- The state runs through the cycle, or is taken to READY by an abort or by a fault. -/
theorem WeldMove.status {abort start : Bool} {phase phase' : WeldPhase} {edges : WeldEdges}
    (hmove : WeldMove abort start phase edges phase') :
    phase'.status = phase.status ∨
      (phase.status, phase'.status) ∈ [(.ready, .cyl1), (.cyl1, .weld), (.weld, .hold),
        (.hold, .cyl2), (.cyl2, .ready)] ∨
      (abort = true ∧ phase.status ≠ .ready ∧ phase'.status = .ready) ∨
      (edges.weldFault = true ∧ phase.status = .weld ∧ phase'.status = .ready) := by
  cases hmove with
  | abort _ habort hphase =>
    refine Or.inr (Or.inr (Or.inl ⟨habort, ?_, rfl⟩))
    cases phase <;> first | exact absurd rfl hphase | decide
  | idle | wait | start => exact Or.inl rfl
  | fault => exact Or.inr (Or.inr (Or.inr ⟨rfl, rfl, rfl⟩))
  | begin | enter | stop | rise | done => exact Or.inr (Or.inl (by decide))

/-- When the edges appear. -/
structure EdgeRule (abort : Bool) (phase : WeldPhase) (edges : WeldEdges) (phase' : WeldPhase) :
    Prop where
  start : edges.weldStart = true ↔ phase = .armed ∧ abort = false
  stop : edges.weldStop = true ↔ phase.status = .weld ∧ phase'.status ≠ .weld
  done : edges.cycleDone = true ↔ phase = .rising ∧ phase' = .ready ∧ abort = false

theorem WeldMove.edgeRule {abort start : Bool} {phase phase' : WeldPhase} {edges : WeldEdges}
    (hmove : WeldMove abort start phase edges phase') : EdgeRule abort phase edges phase' := by
  cases hmove with
  | abort _ habort hphase => constructor <;> cases phase <;> simp_all [WeldPhase.status]
  | wait _ habort hphase harmed => constructor <;> cases phase <;> simp_all [WeldPhase.status]
  | idle | begin | enter | start | stop | fault | rise | done =>
    constructor <;> simp_all [WeldPhase.status]

/-- WELD is entered armed. -/
theorem WeldMove.enters {abort start : Bool} {phase phase' : WeldPhase} {edges : WeldEdges}
    (hmove : WeldMove abort start phase edges phase') :
    phase' = .armed ↔ phase'.status = .weld ∧ phase.status ≠ .weld := by
  cases hmove with
  | wait _ habort hphase harmed => cases phase <;> simp_all [WeldPhase.status]
  | abort | idle | begin | enter | start | stop | fault | rise | done => simp [WeldPhase.status]

/-- A weld sonicates from its start on. -/
theorem WeldMove.sonicates {abort start : Bool} {phase : WeldPhase} {edges : WeldEdges}
    (hmove : WeldMove abort start phase edges .sonicating) :
    edges.weldStart = true ∨ phase = .sonicating := by
  cases hmove with
  | wait => exact Or.inr rfl
  | start => exact Or.inl rfl

theorem weldFsm_sonicating {fsm : WeldFsm} :
    fsm.phase = .sonicating ↔ fsm.runStatus = .weld ∧ fsm.fStatusStart = true := by
  unfold WeldFsm.phase
  cases fsm.runStatus <;> cases fsm.fStatusStart <;> simp

/-- A step that is not aborted is the switch behind its prelude. -/
theorem weldFsmStep_switch {input : WeldIn} (habort : input.abort = false) (fsm : WeldFsm) :
    (weldFsmStep input fsm).1 = (weldFsmSwitch input (weldFsmPrelude input fsm)).1 ∧
      (weldFsmStep input fsm).2.weldFault =
        (weldFsmSwitch input (weldFsmPrelude input fsm)).2.weldFault ∧
      (weldFsmStep input fsm).2.ampChange =
        (weldFsmSwitch input (weldFsmPrelude input fsm)).2.ampChange := by
  unfold weldFsmStep
  rw [if_neg (by simp [habort])]
  exact ⟨rfl, rfl, rfl⟩

theorem weldStepMulti_fault (input : WeldIn) (fsm : WeldFsm) :
    (weldStepMulti input fsm WeldOut.none).2.weldFault = false := by
  simp only [weldStepMulti]
  split_ifs <;> rfl

theorem weldStepWeld_fault (input : WeldIn) (fsm : WeldFsm) :
    (weldStepWeld input fsm WeldOut.none).2.weldFault = true ↔
      fsm.fStatusStart = true ∧ (fsm.latchedMulti = false ∧ fsm.latchedEnergy = true) ∧
        ¬ (input.limitEnergy ≠ 0 ∧ input.currEnergy ≥ input.limitEnergy) ∧ fsm.tempTime = 0 := by
  unfold weldStepWeld
  split_ifs with hfirst hmulti hmulti henergy hreached hexpired hexpired
  · simp [hfirst, WeldOut.none]
  · simp [hfirst, WeldOut.none]
  · simp [hmulti, weldStepMulti_fault]
  · exact iff_of_false Bool.false_ne_true fun h ↦ h.2.2.1 hreached
  · simp [hfirst, hmulti, henergy, hreached, hexpired]
  · simp [hexpired, WeldOut.none]
  · simp [henergy, WeldOut.none]
  · simp [henergy, WeldOut.none]

/-- The fault is that of the backstop. -/
theorem weldFsmStep_backstop (input : WeldIn) (fsm : WeldFsm) :
    (weldFsmStep input fsm).2.weldFault = true ↔ BackstopStep input fsm := by
  cases habort : input.abort with
  | true =>
    have hmove := weldFsmStep_move input fsm
    have hquiet : (weldFsmStep input fsm).2.edges.weldFault = false := by
      rw [habort] at hmove
      generalize (weldFsmStep input fsm).2.edges = edges, fsm.phase = phase,
        (weldFsmStep input fsm).1.phase = phase' at hmove
      cases hmove <;> simp_all
    refine iff_of_false (fun h ↦ ?_) fun h ↦ ?_
    · exact Bool.false_ne_true (hquiet.symm.trans h)
    · exact Bool.false_ne_true (h.goes.symm.trans habort)
  | false =>
    rw [(weldFsmStep_switch habort fsm).2.1]
    have hother {status : WeldState} (hstatus : fsm.runStatus = status) (hnot : status ≠ .weld) :
        ¬ BackstopStep input fsm := by
      intro h
      exact hnot (hstatus.symm.trans (weldFsm_sonicating.mp h.sonicating).1)
    unfold weldFsmSwitch
    cases hstatus : fsm.runStatus <;> simp only [weldFsmPrelude, hstatus]
    · exact iff_of_false (by simp [WeldOut.none]) (hother hstatus (by decide))
    · exact iff_of_false (by simp [WeldOut.none]) (hother hstatus (by decide))
    · rw [weldStepWeld_fault]
      constructor
      · rintro ⟨hstarted, hmode, hmissed, hexpired⟩
        exact ⟨habort, weldFsm_sonicating.mpr ⟨hstatus, hstarted⟩, hmode, hmissed,
          Nat.sub_eq_zero_iff_le.mp hexpired⟩
      · intro h
        exact ⟨(weldFsm_sonicating.mp h.sonicating).2, h.energy, h.missed,
          Nat.sub_eq_zero_iff_le.mpr h.expired⟩
    · exact iff_of_false (by simp [WeldOut.none]) (hother hstatus (by decide))
    · refine iff_of_false ?_ (hother hstatus (by decide))
      unfold weldStepCyl2 weldCycleDone
      split_ifs <;> simp [WeldOut.none]

/-- The elapsed count of a two-stage weld after one more step; it does not wrap. -/
def WeldFsm.nextElapsed (fsm : WeldFsm) : ℕ :=
  if fsm.multiElapsed < 0xFFFF then fsm.multiElapsed + 1 else fsm.multiElapsed

/-- What a later step of a two-stage weld does. -/
structure MultiStep (input : WeldIn) (fsm : WeldFsm) (result : WeldFsm × WeldOut) : Prop where
  stage : result.1.multiStage =
    if fsm.multiStage = 0 ∧ fsm.nextElapsed ≥ input.limitMoTime1 then 1 else fsm.multiStage
  change : result.2.ampChange =
    decide (fsm.multiStage = 0 ∧ fsm.nextElapsed ≥ input.limitMoTime1)
  leaves : fsm.nextElapsed ≥ input.limitMoTime2 → result.1 =
    weldExitToHold input { fsm with
      multiElapsed := fsm.nextElapsed
      multiStage := result.1.multiStage }
  stays : ¬ fsm.nextElapsed ≥ input.limitMoTime2 → result.1 =
    { fsm with
      multiElapsed := fsm.nextElapsed
      multiStage := result.1.multiStage }

theorem weldStepMulti_step (input : WeldIn) (fsm : WeldFsm) :
    MultiStep input fsm (weldStepMulti input fsm WeldOut.none) := by
  have hstep : weldStepMulti input fsm WeldOut.none =
      let fsm' := { fsm with multiElapsed := fsm.nextElapsed }
      let stepped : WeldFsm × WeldOut :=
        if fsm.multiStage = 0 ∧ fsm.nextElapsed ≥ input.limitMoTime1 then
          ({ fsm' with multiStage := 1 },
            { WeldOut.none with
              amplitude := weldMoAmplitude input.limitMoOut2
              ampChange := true })
        else (fsm', WeldOut.none)
      if fsm.nextElapsed ≥ input.limitMoTime2 then
        (weldExitToHold input stepped.1, { stepped.2 with weldStop := true })
      else stepped := rfl
  rw [hstep]
  dsimp only
  by_cases hchange : fsm.multiStage = 0 ∧ fsm.nextElapsed ≥ input.limitMoTime1
  · rw [if_pos hchange]
    by_cases hleaves : fsm.nextElapsed ≥ input.limitMoTime2
    · rw [if_pos hleaves]
      exact ⟨(if_pos hchange).symm, (decide_eq_true hchange).symm, fun _ ↦ rfl,
        fun h ↦ absurd hleaves h⟩
    · rw [if_neg hleaves]
      exact ⟨(if_pos hchange).symm, (decide_eq_true hchange).symm, fun h ↦ absurd h hleaves,
        fun _ ↦ rfl⟩
  · rw [if_neg hchange]
    by_cases hleaves : fsm.nextElapsed ≥ input.limitMoTime2
    · rw [if_pos hleaves]
      exact ⟨(if_neg hchange).symm, (decide_eq_false hchange).symm, fun _ ↦ rfl,
        fun h ↦ absurd hleaves h⟩
    · rw [if_neg hleaves]
      exact ⟨(if_neg hchange).symm, (decide_eq_false hchange).symm, fun h ↦ absurd h hleaves,
        fun _ ↦ rfl⟩

/-- What a step does to the two amplitude stages: only a sonicating two-stage weld goes from the
first to the second, and it says so. -/
structure StageRule (input : WeldIn) (fsm : WeldFsm) : Prop where
  changes : (weldFsmStep input fsm).2.ampChange = true →
    fsm.phase = .sonicating ∧ fsm.latchedMulti = true ∧ fsm.multiStage = 0 ∧ input.abort = false
  keeps : fsm.phase = .sonicating → (weldFsmStep input fsm).1.phase = .sonicating →
    (weldFsmStep input fsm).1.latchedMulti = fsm.latchedMulti ∧
      ((weldFsmStep input fsm).1.multiStage = 0 →
        (weldFsmStep input fsm).2.ampChange = false ∧ fsm.multiStage = 0)

/-- A step changes the amplitude in WELD only, and not if it aborts. -/
theorem weldFsmStep_changes {input : WeldIn} {fsm : WeldFsm}
    (hchange : (weldFsmStep input fsm).2.ampChange = true) :
    fsm.runStatus = .weld ∧ input.abort = false := by
  unfold weldFsmStep at hchange
  split_ifs at hchange with habort
  · exact absurd hchange Bool.false_ne_true
  · unfold weldFsmSwitch at hchange
    cases hstatus : fsm.runStatus <;> simp only [weldFsmPrelude, hstatus] at hchange
    · exact absurd hchange Bool.false_ne_true
    · exact absurd hchange Bool.false_ne_true
    · refine ⟨rfl, Bool.eq_false_iff.mpr fun h ↦ habort ⟨h, ?_⟩⟩
      rw [hstatus]
      decide
    · exact absurd hchange Bool.false_ne_true
    · unfold weldStepCyl2 weldCycleDone at hchange
      split_ifs at hchange <;> exact absurd hchange Bool.false_ne_true

/-- The step of a sonicating weld, on the state behind the prelude. -/
theorem weldStepWeld_stage (input : WeldIn) {fsm : WeldFsm} (hstarted : fsm.fStatusStart = true) :
    ((weldStepWeld input fsm WeldOut.none).2.ampChange = true →
        fsm.latchedMulti = true ∧ fsm.multiStage = 0) ∧
      ((weldStepWeld input fsm WeldOut.none).1.phase = .sonicating →
        (weldStepWeld input fsm WeldOut.none).1.latchedMulti = fsm.latchedMulti ∧
          ((weldStepWeld input fsm WeldOut.none).1.multiStage = 0 →
            (weldStepWeld input fsm WeldOut.none).2.ampChange = false ∧ fsm.multiStage = 0)) := by
  have hlater : ¬ fsm.fStatusStart = false := by simp [hstarted]
  cases hmulti : fsm.latchedMulti with
  | true =>
    have hstep : weldStepWeld input fsm WeldOut.none = weldStepMulti input fsm WeldOut.none := by
      rw [weldStepWeld, if_neg hlater, if_pos hmulti]
    rw [hstep]
    obtain ⟨hstage, hchange, hleaves, hstays⟩ := weldStepMulti_step input fsm
    refine ⟨fun h ↦ ⟨rfl, ?_⟩, fun hphase ↦ ?_⟩
    · rw [hchange] at h
      exact (of_decide_eq_true h).1
    · by_cases hover : fsm.nextElapsed ≥ input.limitMoTime2
      · rw [hleaves hover] at hphase
        cases hphase
      · refine ⟨?_, fun hzero ↦ ?_⟩
        · rw [hstays hover]
          exact hmulti
        · rw [hstage] at hzero
          split_ifs at hzero with hnow
          · exact ⟨hchange.trans (decide_eq_false hnow), hzero⟩
  | false =>
    unfold weldStepWeld
    rw [if_neg hlater]
    simp only [hmulti, Bool.false_eq_true, if_false]
    split_ifs
    · exact ⟨fun h ↦ absurd h Bool.false_ne_true, by rintro ⟨⟩⟩
    · exact ⟨fun h ↦ absurd h Bool.false_ne_true, by rintro ⟨⟩⟩
    · exact ⟨fun h ↦ absurd h Bool.false_ne_true, fun _ ↦ ⟨hmulti, fun h ↦ ⟨rfl, h⟩⟩⟩
    · exact ⟨fun h ↦ absurd h Bool.false_ne_true, by rintro ⟨⟩⟩
    · exact ⟨fun h ↦ absurd h Bool.false_ne_true, fun _ ↦ ⟨hmulti, fun h ↦ ⟨rfl, h⟩⟩⟩

theorem weldFsmStep_stage (input : WeldIn) (fsm : WeldFsm) : StageRule input fsm := by
  have hswitch (hweld : fsm.runStatus = .weld) : weldFsmSwitch input (weldFsmPrelude input fsm) =
      weldStepWeld input (weldFsmPrelude input fsm) WeldOut.none := by
    unfold weldFsmSwitch
    rw [show (weldFsmPrelude input fsm).runStatus = .weld from hweld]
  constructor
  · intro hchange
    obtain ⟨hweld, habort⟩ := weldFsmStep_changes hchange
    rw [(weldFsmStep_switch habort fsm).2.2, hswitch hweld] at hchange
    cases hstarted : fsm.fStatusStart with
    | true =>
      have hrule := (weldStepWeld_stage input
        (show (weldFsmPrelude input fsm).fStatusStart = true from hstarted)).1 hchange
      exact ⟨weldFsm_sonicating.mpr ⟨hweld, hstarted⟩, hrule.1, hrule.2, habort⟩
    | false =>
      unfold weldStepWeld at hchange
      rw [if_pos (show (weldFsmPrelude input fsm).fStatusStart = false from hstarted)] at hchange
      split_ifs at hchange <;> exact absurd hchange Bool.false_ne_true
  · intro hsonicating hstays
    obtain ⟨hweld, hstarted⟩ := weldFsm_sonicating.mp hsonicating
    cases habort : input.abort with
    | true =>
      have hmove := weldFsmStep_move input fsm
      rw [habort, hsonicating, hstays] at hmove
      generalize (weldFsmStep input fsm).2.edges = edges at hmove
      cases hmove
      contradiction
    | false =>
      obtain ⟨hstate, -, hout⟩ := weldFsmStep_switch habort fsm
      rw [hswitch hweld] at hstate hout
      rw [hstate] at hstays ⊢
      rw [hout]
      exact (weldStepWeld_stage input
        (show (weldFsmPrelude input fsm).fStatusStart = true from hstarted)).2 hstays

/-- At rest the press is up and no mode is latched. -/
structure WeldFsm.Rested (fsm : WeldFsm) : Prop where
  upright : fsm.Upright
  latches : fsm.runStatus = .ready → fsm.latchedMulti = false ∧ fsm.latchedEnergy = false

theorem weldFsmStep_rested (input : WeldIn) {fsm : WeldFsm} (hfsm : fsm.Rested) :
    (weldFsmStep input fsm).1.Rested := by
  refine ⟨weldFsmStep_upright input hfsm.upright, ?_⟩
  have hlatches := hfsm.latches
  unfold weldFsmStep
  split_ifs with habort
  · exact fun _ ↦ ⟨rfl, rfl⟩
  · cases hstatus : fsm.runStatus <;>
      simp only [weldFsmSwitch, weldFsmPrelude, hstatus] at hlatches ⊢
    · unfold weldStepReady
      split_ifs <;> simp_all
    · unfold weldStepCyl1 enterWeld
      split_ifs <;> simp_all
    · simp only [weldStepWeld, weldStepMulti, weldExitToHold]
      split_ifs <;> simp_all
    · unfold weldStepHold
      split_ifs <;> simp_all
    · unfold weldStepCyl2 weldCycleDone
      split_ifs <;> simp_all

/-- CYL2 is entered from HOLD, and its first step is taken by every later one. -/
theorem weldFsmStep_rises {input : WeldIn} {fsm : WeldFsm}
    (hrises : (weldFsmStep input fsm).1.runStatus = .cyl2) :
    fsm.runStatus = .hold ∨ (weldFsmStep input fsm).1.fStatusStart = true := by
  revert hrises
  unfold weldFsmStep
  split_ifs with habort
  · simp [weldAbortBody]
  · cases hstatus : fsm.runStatus <;> simp only [weldFsmSwitch, weldFsmPrelude, hstatus]
    · unfold weldStepReady
      split_ifs <;> simp_all
    · unfold weldStepCyl1 enterWeld
      split_ifs <;> simp_all
    · simp only [weldStepWeld, weldStepMulti, weldExitToHold]
      split_ifs <;> simp_all
    · simp
    · unfold weldStepCyl2 weldCycleDone
      split_ifs <;> simp_all

/-- The cylinder is down in the steps of CYL1, WELD and HOLD only. -/
theorem weldFsmStep_lowers {input : WeldIn} {fsm : WeldFsm} (hfsm : fsm.Upright)
    (hdown : (weldFsmStep input fsm).1.solDn = true) :
    fsm.runStatus ∈ [.cyl1, .weld, .hold] := by
  obtain ⟨hready, hrising⟩ := hfsm
  revert hdown
  unfold weldFsmStep
  split_ifs with habort
  · simp [weldAbortBody]
  · cases hstatus : fsm.runStatus <;>
      simp only [weldFsmSwitch, weldFsmPrelude, hstatus] at hready hrising ⊢
    · unfold weldStepReady
      split_ifs <;> simp_all
    · simp
    · simp
    · simp
    · unfold weldStepCyl2 weldCycleDone
      split_ifs <;> simp_all

/-! ### Runs -/

theorem weldCore_rested (inputs : List WeldIn) : (weldCore.after inputs).Rested :=
  weldCore.invariant WeldFsm.Rested ⟨weldFsmInit_upright, fun _ ↦ ⟨rfl, rfl⟩⟩
    (fun input _ h ↦ weldFsmStep_rested input h) inputs

/-- The press is armed exactly if the step before entered WELD. -/
theorem firstInWeld_iff (input : WeldIn) (past : List WeldIn) :
    FirstInWeld (input :: past) ↔ (weldCore.after past).phase = .armed := by
  cases past with
  | nil => exact iff_of_false id (by decide)
  | cons previous older =>
    have henters := (weldFsmStep_move previous (weldCore.after older)).enters
    rw [WeldFsm.status_phase, WeldFsm.status_phase] at henters
    exact henters.symm

/-- A two-stage weld in its first stage has had its start, and no change since. -/
theorem firstStage_earned : ∀ inputs, (weldCore.after inputs).phase = .sonicating ∧
    (weldCore.after inputs).latchedMulti = true ∧ (weldCore.after inputs).multiStage = 0 →
      since (fun h ↦ (stepOut h).ampChange = false ∧ statusAfter h = .weld)
        (fun h ↦ (stepOut h).weldStart = true) inputs := by
  refine since_of_monitor _ (fun h ↦ absurd h.1 (by decide)) ?_
  intro input past h
  obtain ⟨hsonicating, hmulti, hstage⟩ := h
  have hmove := weldFsmStep_move input (weldCore.after past)
  have hafter : (weldFsmStep input (weldCore.after past)).1.phase = .sonicating := hsonicating
  rw [hafter] at hmove
  rcases hmove.sonicates with hstart | hbefore
  · exact Or.inl hstart
  · obtain ⟨hlatched, hfirst⟩ :=
      (weldFsmStep_stage input (weldCore.after past)).keeps hbefore hafter
    obtain ⟨hquiet, hzero⟩ := hfirst hstage
    exact Or.inr ⟨⟨hquiet, (weldFsm_sonicating.mp hsonicating).1⟩, hbefore,
      hlatched.symm.trans hmulti, hzero⟩

/-- What a step of the cycle may do. -/
structure TraceStep (input : WeldIn) (past : List WeldIn) : Prop where
  moves : statusAfter (input :: past) = statusAfter past ∨
    (statusAfter past, statusAfter (input :: past)) ∈ [(.ready, .cyl1), (.cyl1, .weld),
      (.weld, .hold), (.hold, .cyl2), (.cyl2, .ready)] ∨
    (input.abort = true ∧ statusAfter past ≠ .ready ∧ statusAfter (input :: past) = .ready) ∨
    (BackstopStep input (weldCore.after past) ∧ statusAfter past = .weld ∧
      statusAfter (input :: past) = .ready)
  start : (stepOut (input :: past)).weldStart = true ↔
    FirstInWeld (input :: past) ∧ input.abort = false
  stop : (stepOut (input :: past)).weldStop = true ↔
    statusAfter past = .weld ∧ statusAfter (input :: past) ≠ .weld
  fault : (stepOut (input :: past)).weldFault = true ↔ BackstopStep input (weldCore.after past)
  done : (stepOut (input :: past)).cycleDone = true ↔
    statusAfter past = .cyl2 ∧ statusAfter (input :: past) = .ready ∧ input.abort = false
  amp : (stepOut (input :: past)).ampChange = true → statusAfter past = .weld ∧
    since (fun h ↦ (stepOut h).ampChange = false ∧ statusAfter h = .weld)
      (fun h ↦ (stepOut h).weldStart = true) past
  sol : (stepOut (input :: past)).solDn = true →
    statusAfter past ∈ [.cyl1, .weld, .hold] ∧
      (statusAfter (input :: past) ∈ [.cyl1, .weld, .hold] ∨
        (statusAfter past = .hold ∧ statusAfter (input :: past) = .cyl2))
  rest : statusAfter (input :: past) = .ready → (stepOut (input :: past)).solDn = false ∧
    (weldCore.after (input :: past)).latchedMulti = false ∧
      (weldCore.after (input :: past)).latchedEnergy = false

/-- Every step of every run of the core keeps to the cycle. -/
theorem weld_trace (input : WeldIn) (past : List WeldIn) : TraceStep input past := by
  have hmove := weldFsmStep_move input (weldCore.after past)
  have hedges := hmove.edgeRule
  have hfault := weldFsmStep_backstop input (weldCore.after past)
  have hrested := weldCore_rested (input :: past)
  have hbefore : (weldCore.after past).phase.status = statusAfter past :=
    WeldFsm.status_phase _
  have hafter : (weldFsmStep input (weldCore.after past)).1.phase.status =
      statusAfter (input :: past) := WeldFsm.status_phase _
  have hlevel : (stepOut (input :: past)).solDn = (weldCore.after (input :: past)).solDn :=
    weldFsmStep_solDn input (weldCore.after past)
  constructor
  · rw [← hbefore, ← hafter]
    refine hmove.status.imp_right fun h ↦ h.imp_right fun h ↦ h.imp_right ?_
    rintro ⟨hfaulted, hweld, hready⟩
    exact ⟨hfault.mp hfaulted, hweld, hready⟩
  · rw [firstInWeld_iff]
    exact hedges.start
  · rw [← hbefore, ← hafter]
    exact hedges.stop
  · exact hfault
  · have hrising : (weldCore.after past).phase = .rising ↔ statusAfter past = .cyl2 := by
      rw [← hbefore]
      cases (weldCore.after past).phase <;> simp [WeldPhase.status]
    have hready : (weldFsmStep input (weldCore.after past)).1.phase = .ready ↔
        statusAfter (input :: past) = .ready := WeldFsm.phase_ready
    rw [← hrising, ← hready]
    exact hedges.done
  · intro hchange
    obtain ⟨hsonicating, hmulti, hstage, -⟩ :=
      (weldFsmStep_stage input (weldCore.after past)).changes hchange
    exact ⟨(weldFsm_sonicating.mp hsonicating).1,
      firstStage_earned past ⟨hsonicating, hmulti, hstage⟩⟩
  · intro hdown
    rw [hlevel] at hdown
    refine ⟨weldFsmStep_lowers (weldCore_rested past).upright hdown, ?_⟩
    cases hstatus : statusAfter (input :: past) with
    | ready =>
      rw [hrested.upright.ready hstatus] at hdown
      cases hdown
    | cyl1 | weld | hold => exact Or.inl (by decide)
    | cyl2 =>
      rcases @weldFsmStep_rises input (weldCore.after past) hstatus with hhold | hstarted
      · exact Or.inr ⟨hhold, rfl⟩
      · rw [hrested.upright.rising hstatus hstarted] at hdown
        cases hdown
  · intro hready
    rw [hlevel]
    exact ⟨hrested.upright.ready hready, hrested.latches hready⟩

end UsCtrl
