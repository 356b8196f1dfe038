import UsCtrl.WeldTrace
import UsCtrl.Foundation.Sojourn

/-!
# How many steps each state of the cycle lasts

A cycle of the core whose limits and switches are held (`HeldInput`) and that is not aborted. Its
steps are numbered from the one that starts it, step 0; `weldRun` gives the state each of them
finds. For each state the number of steps executed in it is exact (`cycle_lengths`). The countdown
is armed by the step that enters a state and is taken down before it is looked at, and the first
step of a state never leaves it: hence the maxima with 2. A weld in time mode is armed for seven
steps at least.

For each state there is a structure that says what is known after `k` steps in it (`Descends`,
`Welds`, `Holds`, `Rises`); the rule for sojourns does the rest.
-/

set_option autoImplicit false
set_option relaxedAutoImplicit false

namespace UsCtrl

open Foundation

/-! ### Held inputs -/

/-- The input of a step has the given limits and switches, and no abort. -/
structure HeldInput (limits input : WeldIn) : Prop where
  goes : input.abort = false
  mode : input.runMode = limits.runMode
  delay1 : input.limitDelayTime1 = limits.limitDelayTime1
  delay2 : input.limitDelayTime2 = limits.limitDelayTime2
  delay3 : input.limitDelayTime3 = limits.limitDelayTime3
  trigger2 : input.limitTriggerTime2 = limits.limitTriggerTime2
  trigger3 : input.limitTriggerTime3 = limits.limitTriggerTime3
  multi : input.multiCtrl = limits.multiCtrl
  multi1 : input.limitMoTime1 = limits.limitMoTime1
  multi2 : input.limitMoTime2 = limits.limitMoTime2
  energy : input.energyCtrl = limits.energyCtrl
  limit : input.limitEnergy = limits.limitEnergy
  out : input.limitOutTime = limits.limitOutTime

/-- The states the steps of a run find. -/
def weldRun (inputs : ℕ → WeldIn) (fsm : WeldFsm) : ℕ → WeldFsm
  | 0 => fsm
  | n + 1 => (weldFsmStep (inputs n) (weldRun inputs fsm n)).1

/-- The outputs of a step of a run. -/
def weldRunOut (inputs : ℕ → WeldIn) (fsm : WeldFsm) (n : ℕ) : WeldOut :=
  (weldFsmStep (inputs n) (weldRun inputs fsm n)).2

/-- The energy of an energy weld is reached. -/
def EnergyReached (limits input : WeldIn) : Prop :=
  limits.limitEnergy ≠ 0 ∧ input.currEnergy ≥ limits.limitEnergy

/-- The weld dwell of the mode. -/
def WeldIn.weldTime (limits : WeldIn) : ℕ :=
  if limits.runMode ≠ 0 then limits.limitTriggerTime2 else limits.limitDelayTime2

/-- The hold dwell of the mode. -/
def WeldIn.holdTime (limits : WeldIn) : ℕ :=
  if limits.runMode ≠ 0 then limits.limitTriggerTime3 else limits.limitDelayTime3

/-- The budget a weld is armed with. -/
def WeldIn.weldBudget (limits : WeldIn) : ℕ :=
  if limits.energyCtrl then weldBackstopTicks limits.limitOutTime else max 7 limits.weldTime

/-! ### CYL1 -/

/-- When the descent is over: at the dwell, or in trigger mode at the first edge of the lower
switch, which no step before the second acts on. Step `k` executes `inputs k`. -/
def descentOver (limits : WeldIn) (inputs : ℕ → WeldIn) (k : ℕ) : Prop :=
  if limits.runMode ≠ 0 then 2 ≤ k ∧ ∃ j, 1 ≤ j ∧ j ≤ k ∧ (inputs j).dnEdge = true
  else max 2 limits.limitDelayTime1 ≤ k

/-- What is known after `k` steps in CYL1. -/
structure Descends (limits : WeldIn) (inputs : ℕ → WeldIn) (k : ℕ) (fsm : WeldFsm) : Prop where
  status : fsm.runStatus = .cyl1
  mode : fsm.runMode = limits.runMode
  started : fsm.fStatusStart = decide (1 ≤ k)
  left : fsm.tempTime = limits.limitDelayTime1 - k
  pressed : fsm.dnPressed = true ↔ ∃ j, 1 ≤ j ∧ j ≤ k ∧ (inputs j).dnEdge = true

/-- The state in which the first step of a weld finds the core. -/
structure EntersWeld (limits : WeldIn) (fsm : WeldFsm) : Prop where
  status : fsm.runStatus = .weld
  mode : fsm.runMode = limits.runMode
  first : fsm.fStatusStart = false
  multi : fsm.latchedMulti = limits.multiCtrl
  energy : fsm.latchedEnergy = limits.energyCtrl
  stage : fsm.multiStage = 0
  elapsed : fsm.multiElapsed = 0
  left : fsm.tempTime = limits.weldBudget

theorem enterWeld_enters {limits input : WeldIn} (hheld : HeldInput limits input) {fsm : WeldFsm}
    (hmode : fsm.runMode = limits.runMode) :
    EntersWeld limits (enterWeld input limits.weldTime fsm) := by
  refine ⟨rfl, hmode, rfl, hheld.multi, hheld.energy, rfl, rfl, ?_⟩
  show (if input.energyCtrl then weldBackstopTicks input.limitOutTime
    else if limits.weldTime > 6 then limits.weldTime else weldCompFull) = limits.weldBudget
  rw [hheld.energy, hheld.out, WeldIn.weldBudget, weldCompFull]
  split_ifs <;> omega

theorem descends_start {limits : WeldIn} {inputs : ℕ → WeldIn} (hheld : HeldInput limits (inputs 0))
    (hstart : (inputs 0).start = true) {fsm : WeldFsm} (hready : fsm.runStatus = .ready) :
    Descends limits inputs 0 (weldFsmStep (inputs 0) fsm).1 := by
  have hstep : (weldFsmStep (inputs 0) fsm).1 =
      weldStepReady (inputs 0) (weldFsmPrelude (inputs 0) fsm) := by
    rw [(weldFsmStep_switch hheld.goes fsm).1, weldFsmSwitch,
      show (weldFsmPrelude (inputs 0) fsm).runStatus = .ready from hready]
  rw [hstep, weldStepReady, if_pos hstart]
  refine ⟨rfl, hheld.mode, rfl, hheld.delay1, iff_of_false Bool.false_ne_true ?_⟩
  rintro ⟨j, hpos, hj, -⟩
  omega

/-- A step in CYL1 waits, or enters WELD when the descent is over. -/
theorem descends_step {limits : WeldIn} {inputs : ℕ → WeldIn} {k : ℕ}
    (hheld : HeldInput limits (inputs (k + 1))) {fsm : WeldFsm}
    (hfsm : Descends limits inputs k fsm) :
    (¬ descentOver limits inputs (k + 1) →
        Descends limits inputs (k + 1) (weldFsmStep (inputs (k + 1)) fsm).1) ∧
      (descentOver limits inputs (k + 1) →
        EntersWeld limits (weldFsmStep (inputs (k + 1)) fsm).1) := by
  obtain ⟨hstatus, hmode, hstarted, hleft, hpressed⟩ := hfsm
  have hstep : (weldFsmStep (inputs (k + 1)) fsm).1 =
      weldStepCyl1 (inputs (k + 1)) (weldFsmPrelude (inputs (k + 1)) fsm) := by
    rw [(weldFsmStep_switch hheld.goes fsm).1, weldFsmSwitch,
      show (weldFsmPrelude (inputs (k + 1)) fsm).runStatus = .cyl1 from hstatus]
  have hedge : (weldFsmPrelude (inputs (k + 1)) fsm).dnPressed = true ↔
      ∃ j, 1 ≤ j ∧ j ≤ k + 1 ∧ (inputs j).dnEdge = true := by
    rw [weldFsmPrelude, Bool.or_eq_true, hpressed]
    constructor
    · rintro (⟨j, hpos, hj, hedge⟩ | hedge)
      · exact ⟨j, hpos, by omega, hedge⟩
      · exact ⟨k + 1, by omega, le_rfl, hedge⟩
    · rintro ⟨j, hpos, hj, hedge⟩
      rcases Nat.lt_or_eq_of_le hj with hlt | rfl
      · exact Or.inl ⟨j, hpos, by omega, hedge⟩
      · exact Or.inr hedge
  have hdown : fsm.tempTime - 1 = limits.limitDelayTime1 - (k + 1) := by
    rw [hleft]
    omega
  -- A step that waits is known to have been counted.
  have hwait {solDn started : Bool} (hnow : started = true) :
      Descends limits inputs (k + 1) { weldFsmPrelude (inputs (k + 1)) fsm with
        fStatusStart := started
        solDn := solDn } :=
    ⟨hstatus, hmode, by rw [hnow]; simp, hdown, hedge⟩
  rw [hstep, weldStepCyl1]
  by_cases hfirst : k = 0
  · subst hfirst
    have hnow : (weldFsmPrelude (inputs (0 + 1)) fsm).fStatusStart = false := hstarted
    rw [if_pos hnow]
    refine ⟨fun _ ↦ hwait rfl, fun hover ↦ ?_⟩
    unfold descentOver at hover
    split_ifs at hover <;> omega
  · have hlater : (weldFsmPrelude (inputs (k + 1)) fsm).fStatusStart = true := by
      refine hstarted.trans (decide_eq_true ?_)
      omega
    have hstay : Descends limits inputs (k + 1) (weldFsmPrelude (inputs (k + 1)) fsm) :=
      hwait hlater
    have hprelude : (weldFsmPrelude (inputs (k + 1)) fsm).runMode = limits.runMode := hmode
    rw [if_neg (by simp [hlater]), hprelude, descentOver]
    by_cases htrigger : limits.runMode ≠ 0
    · rw [if_pos htrigger, if_pos htrigger]
      have htime : (inputs (k + 1)).limitTriggerTime2 = limits.weldTime := by
        rw [hheld.trigger2, WeldIn.weldTime, if_pos htrigger]
      rw [htime]
      by_cases hedged : (weldFsmPrelude (inputs (k + 1)) fsm).dnPressed = true
      · rw [if_pos hedged]
        exact ⟨fun hnot ↦ absurd ⟨by omega, hedge.mp hedged⟩ hnot,
          fun _ ↦ enterWeld_enters hheld rfl⟩
      · rw [if_neg hedged]
        exact ⟨fun _ ↦ hstay, fun hover ↦ absurd (hedge.mpr hover.2) hedged⟩
    · rw [if_neg htrigger, if_neg htrigger]
      have htime : (inputs (k + 1)).limitDelayTime2 = limits.weldTime := by
        rw [hheld.delay2, WeldIn.weldTime, if_neg htrigger]
      have hcount : (weldFsmPrelude (inputs (k + 1)) fsm).tempTime =
          limits.limitDelayTime1 - (k + 1) := hdown
      rw [htime, hcount]
      by_cases hdone : limits.limitDelayTime1 - (k + 1) = 0
      · rw [if_pos hdone]
        exact ⟨fun hnot ↦ absurd (by omega) hnot, fun _ ↦ enterWeld_enters hheld hmode⟩
      · rw [if_neg hdone]
        exact ⟨fun _ ↦ hstay, fun hover ↦ absurd hover (by omega)⟩

/-! ### WELD -/

/-- When the weld is over, by its mode: at the second time of a two-stage weld, as soon as the
energy is reached or its budget is used up, or at the dwell. -/
def weldOver (limits : WeldIn) (inputs : ℕ → WeldIn) (k : ℕ) : Prop :=
  if limits.multiCtrl then max 2 limits.limitMoTime2 ≤ k
  else if limits.energyCtrl then
    (2 ≤ k ∧ EnergyReached limits (inputs k)) ∨ max 2 limits.weldBudget ≤ k
  else max 2 limits.weldBudget ≤ k

/-- An energy weld that does not reach its energy at this step. -/
def EnergyMissed (limits input : WeldIn) : Prop :=
  limits.multiCtrl = false ∧ limits.energyCtrl = true ∧ ¬ EnergyReached limits input

/-- What is known after `k` steps in WELD, with `left` on the countdown. -/
structure Welds (limits : WeldIn) (k left : ℕ) (fsm : WeldFsm) : Prop where
  status : fsm.runStatus = .weld
  mode : fsm.runMode = limits.runMode
  started : fsm.fStatusStart = decide (1 ≤ k)
  multi : fsm.latchedMulti = limits.multiCtrl
  energy : fsm.latchedEnergy = limits.energyCtrl
  left : fsm.tempTime = left
  elapsed : limits.multiCtrl = true → fsm.multiElapsed = min k 65535
  stage : limits.multiCtrl = true →
    fsm.multiStage = if max 2 limits.limitMoTime1 ≤ k then 1 else 0

/-- The state in which the first step of the hold finds the core. -/
structure EntersHold (limits : WeldIn) (fsm : WeldFsm) : Prop where
  status : fsm.runStatus = .hold
  mode : fsm.runMode = limits.runMode
  first : fsm.fStatusStart = false
  left : fsm.tempTime = limits.holdTime

/-- What a weld leaves: the hold, or READY if its energy was missed. -/
structure LeavesWeld (limits input : WeldIn) (fsm : WeldFsm) : Prop where
  holds : ¬ EnergyMissed limits input → EntersHold limits fsm
  faults : EnergyMissed limits input → fsm.runStatus = .ready

theorem welds_start {limits : WeldIn} {fsm : WeldFsm} (hfsm : EntersWeld limits fsm) :
    Welds limits 0 limits.weldBudget fsm :=
  ⟨hfsm.status, hfsm.mode, hfsm.first, hfsm.multi, hfsm.energy, hfsm.left,
    fun _ ↦ hfsm.elapsed, fun _ ↦ hfsm.stage.trans (if_neg (by omega)).symm⟩

/-- The prelude takes the countdown down by one. -/
theorem Welds.prelude {limits : WeldIn} {k left : ℕ} {fsm : WeldFsm}
    (hfsm : Welds limits k left fsm) (input : WeldIn) :
    Welds limits k (left - 1) (weldFsmPrelude input fsm) :=
  ⟨hfsm.status, hfsm.mode, hfsm.started, hfsm.multi, hfsm.energy,
    congrArg (fun left ↦ left - 1) hfsm.left, hfsm.elapsed, hfsm.stage⟩

theorem weldExitToHold_enters {limits input : WeldIn} (hheld : HeldInput limits input)
    {fsm : WeldFsm} (hmode : fsm.runMode = limits.runMode) :
    EntersHold limits (weldExitToHold input fsm) := by
  refine ⟨rfl, hmode, rfl, ?_⟩
  show holdTime input fsm = limits.holdTime
  rw [holdTime, WeldIn.holdTime, hmode, hheld.trigger3, hheld.delay3]

/-- The first step of a weld starts the run. -/
theorem weldStepWeld_first {limits : WeldIn} (input : WeldIn) {left : ℕ} {fsm : WeldFsm}
    (hfsm : Welds limits 0 left fsm) :
    Welds limits 1 left (weldStepWeld input fsm WeldOut.none).1 ∧
      (weldStepWeld input fsm WeldOut.none).2.ampChange = false := by
  obtain ⟨hstatus, hmode, hstarted, hmulti, henergy, hleft, helapsed, hstage⟩ := hfsm
  have hfirst : fsm.fStatusStart = false := hstarted
  rw [weldStepWeld, if_pos hfirst]
  split_ifs with hlatched
  · exact ⟨⟨hstatus, hmode, rfl, hmulti, henergy, hleft, fun _ ↦ rfl,
      fun _ ↦ (if_neg (by omega)).symm⟩, rfl⟩
  · refine ⟨⟨hstatus, hmode, rfl, hmulti, henergy, hleft, fun h ↦ ?_, fun h ↦ ?_⟩, rfl⟩ <;>
      exact absurd (hmulti.trans h) hlatched

/-- A later step of a two-stage weld. -/
theorem weldStepWeld_multi {limits input : WeldIn} {k left : ℕ} (hheld : HeldInput limits input)
    {fsm : WeldFsm} (hfsm : Welds limits k left fsm) (hmulti : limits.multiCtrl = true)
    (hlater : 1 ≤ k) (hword : limits.limitMoTime1 < 65536 ∧ limits.limitMoTime2 < 65536) :
    (¬ max 2 limits.limitMoTime2 ≤ k + 1 →
        Welds limits (k + 1) left (weldStepWeld input fsm WeldOut.none).1) ∧
      (max 2 limits.limitMoTime2 ≤ k + 1 →
        EntersHold limits (weldStepWeld input fsm WeldOut.none).1) ∧
      ((weldStepWeld input fsm WeldOut.none).2.ampChange = true ↔
        k + 1 = max 2 limits.limitMoTime1) := by
  obtain ⟨hstatus, hmode, hstarted, hlatched, henergy, hleft, helapsed, hstage⟩ := hfsm
  have hlatch : fsm.latchedMulti = true := hlatched.trans hmulti
  have hnotfirst : ¬ fsm.fStatusStart = false := by simp [hstarted, hlater]
  have hstep : weldStepWeld input fsm WeldOut.none = weldStepMulti input fsm WeldOut.none := by
    rw [weldStepWeld, if_neg hnotfirst, if_pos hlatch]
  have hnext : fsm.nextElapsed = min (k + 1) 65535 := by
    rw [WeldFsm.nextElapsed, helapsed hmulti]
    split_ifs <;> omega
  have hstage' := hstage hmulti
  obtain ⟨hstageNow, hchange, hleaves, hstays⟩ := weldStepMulti_step input fsm
  rw [hheld.multi1, hnext] at hstageNow hchange
  rw [hheld.multi2, hnext] at hleaves hstays
  rw [hstep]
  refine ⟨fun hnot ↦ ?_, fun hover ↦ ?_, ?_⟩
  · have hgoes : ¬ min (k + 1) 65535 ≥ limits.limitMoTime2 := by omega
    rw [hstays hgoes]
    refine ⟨hstatus, hmode, ?_, hlatched, henergy, hleft, fun _ ↦ rfl, fun _ ↦ ?_⟩
    · exact hstarted.trans (by simp [hlater])
    · by_cases hchanged : max 2 limits.limitMoTime1 ≤ k
      · rw [if_pos hchanged] at hstage'
        rw [hstageNow, hstage', if_neg (by simp), if_pos (by omega)]
      · rw [if_neg hchanged] at hstage'
        rw [hstageNow, hstage']
        split_ifs <;> omega
  · have hends : min (k + 1) 65535 ≥ limits.limitMoTime2 := by omega
    rw [hleaves hends]
    exact weldExitToHold_enters hheld hmode
  · rw [hchange, decide_eq_true_eq]
    by_cases hchanged : max 2 limits.limitMoTime1 ≤ k
    · rw [if_pos hchanged] at hstage'
      rw [hstage']
      omega
    · rw [if_neg hchanged] at hstage'
      rw [hstage']
      omega

/-- The step tests the energy against the limit in force. -/
theorem HeldInput.energy_iff {limits input : WeldIn} (hheld : HeldInput limits input) :
    (input.limitEnergy ≠ 0 ∧ input.currEnergy ≥ input.limitEnergy) ↔
      EnergyReached limits input := by
  rw [EnergyReached, hheld.limit]

/-- A later step of a weld with a budget. -/
theorem weldStepWeld_budget {limits : WeldIn} {inputs : ℕ → WeldIn} {k : ℕ}
    (hheld : HeldInput limits (inputs (k + 1))) {fsm : WeldFsm}
    (hfsm : Welds limits k (limits.weldBudget - (k + 1)) fsm) (hmulti : limits.multiCtrl = false)
    (hlater : 1 ≤ k) :
    (¬ weldOver limits inputs (k + 1) → Welds limits (k + 1) (limits.weldBudget - (k + 1))
        (weldStepWeld (inputs (k + 1)) fsm WeldOut.none).1) ∧
      (weldOver limits inputs (k + 1) →
        LeavesWeld limits (inputs (k + 1)) (weldStepWeld (inputs (k + 1)) fsm WeldOut.none).1) := by
  obtain ⟨hstatus, hmode, hstarted, hlatched, henergy, hleft, helapsed, hstage⟩ := hfsm
  have hnotfirst : ¬ fsm.fStatusStart = false := by simp [hstarted, hlater]
  have hnotmulti : ¬ fsm.latchedMulti = true := by simp [hlatched, hmulti]
  have hover : ¬ limits.multiCtrl = true := by simp [hmulti]
  have hstay : Welds limits (k + 1) (limits.weldBudget - (k + 1)) fsm :=
    ⟨hstatus, hmode, hstarted.trans (by simp [hlater]), hlatched, henergy, hleft,
      fun h ↦ absurd h hover, fun h ↦ absurd h hover⟩
  have hexit : EntersHold limits (weldExitToHold (inputs (k + 1)) fsm) :=
    weldExitToHold_enters hheld hmode
  have hreached := hheld.energy_iff
  rw [weldStepWeld, if_neg hnotfirst, if_neg hnotmulti, weldOver, if_neg hover, hleft]
  cases hlimit : limits.energyCtrl with
  | true =>
    have hlatch : fsm.latchedEnergy = true := henergy.trans hlimit
    rw [if_pos hlatch, if_pos rfl]
    by_cases henough : EnergyReached limits (inputs (k + 1))
    · rw [if_pos (hreached.mpr henough)]
      exact ⟨fun hnot ↦ absurd (Or.inl ⟨by omega, henough⟩) hnot,
        fun _ ↦ ⟨fun _ ↦ hexit, fun hmissed ↦ absurd henough hmissed.2.2⟩⟩
    · rw [if_neg fun h ↦ henough (hreached.mp h)]
      have hmissed : EnergyMissed limits (inputs (k + 1)) := ⟨hmulti, hlimit, henough⟩
      by_cases hdone : limits.weldBudget - (k + 1) = 0
      · rw [if_pos hdone]
        exact ⟨fun hnot ↦ absurd (Or.inr (by omega)) hnot,
          fun _ ↦ ⟨fun hkept ↦ absurd hmissed hkept, fun _ ↦ rfl⟩⟩
      · rw [if_neg hdone]
        refine ⟨fun _ ↦ hstay, fun hover ↦ ?_⟩
        rcases hover with hreach | hcount
        · exact absurd hreach.2 henough
        · omega
  | false =>
    have hnotenergy : ¬ fsm.latchedEnergy = true := by simp [henergy, hlimit]
    rw [if_neg hnotenergy, if_neg Bool.false_ne_true]
    by_cases hdone : limits.weldBudget - (k + 1) = 0
    · rw [if_pos hdone]
      refine ⟨fun hnot ↦ absurd (by omega) hnot, fun _ ↦ ⟨fun _ ↦ hexit, fun hmissed ↦ ?_⟩⟩
      exact absurd (hlimit.symm.trans hmissed.2.1) Bool.false_ne_true
    · rw [if_neg hdone]
      exact ⟨fun _ ↦ hstay, fun hover ↦ absurd hover (by omega)⟩

/-- A step of a held weld is the weld step behind the prelude. -/
theorem weldStep_held {limits input : WeldIn} (hheld : HeldInput limits input) {fsm : WeldFsm}
    (hstatus : fsm.runStatus = .weld) :
    (weldFsmStep input fsm).1 =
        (weldStepWeld input (weldFsmPrelude input fsm) WeldOut.none).1 ∧
      (weldFsmStep input fsm).2.ampChange =
        (weldStepWeld input (weldFsmPrelude input fsm) WeldOut.none).2.ampChange := by
  have hswitch : weldFsmSwitch input (weldFsmPrelude input fsm) =
      weldStepWeld input (weldFsmPrelude input fsm) WeldOut.none := by
    rw [weldFsmSwitch, show (weldFsmPrelude input fsm).runStatus = .weld from hstatus]
  obtain ⟨hstate, -, hout⟩ := weldFsmStep_switch hheld.goes fsm
  rw [hstate, hout, hswitch]
  exact ⟨rfl, rfl⟩

/-- A step in WELD goes on, or leaves when the weld is over. -/
theorem welds_step {limits : WeldIn} {inputs : ℕ → WeldIn} {k : ℕ}
    (hheld : HeldInput limits (inputs (k + 1))) {fsm : WeldFsm}
    (hfsm : Welds limits k (limits.weldBudget - k) fsm)
    (hword : limits.limitMoTime1 < 65536 ∧ limits.limitMoTime2 < 65536) :
    (¬ weldOver limits inputs (k + 1) → Welds limits (k + 1) (limits.weldBudget - (k + 1))
        (weldFsmStep (inputs (k + 1)) fsm).1) ∧
      (weldOver limits inputs (k + 1) →
        LeavesWeld limits (inputs (k + 1)) (weldFsmStep (inputs (k + 1)) fsm).1) := by
  have hprelude := hfsm.prelude (inputs (k + 1))
  rw [Nat.sub_sub] at hprelude
  have hstate := (weldStep_held hheld hfsm.status).1
  rw [hstate]
  rcases Nat.eq_zero_or_pos k with rfl | hlater
  · have hearly : ¬ weldOver limits inputs (0 + 1) := by
      unfold weldOver
      split_ifs <;> omega
    exact ⟨fun _ ↦ (weldStepWeld_first _ hprelude).1, fun hover ↦ absurd hover hearly⟩
  · cases hmulti : limits.multiCtrl with
    | true =>
      obtain ⟨hgoes, hends, -⟩ := weldStepWeld_multi hheld hprelude hmulti hlater hword
      rw [weldOver, if_pos hmulti]
      refine ⟨hgoes, fun hover ↦ ⟨fun _ ↦ hends hover, fun hmissed ↦ ?_⟩⟩
      exact absurd (hmissed.1.symm.trans hmulti) Bool.false_ne_true
    | false => exact weldStepWeld_budget hheld hprelude hmulti hlater

/-- When a two-stage weld changes its amplitude. -/
theorem welds_change {limits input : WeldIn} {k : ℕ} (hheld : HeldInput limits input)
    {fsm : WeldFsm} (hfsm : Welds limits k (limits.weldBudget - k) fsm)
    (hmulti : limits.multiCtrl = true)
    (hword : limits.limitMoTime1 < 65536 ∧ limits.limitMoTime2 < 65536) :
    (weldFsmStep input fsm).2.ampChange = true ↔ k + 1 = max 2 limits.limitMoTime1 := by
  have hprelude := hfsm.prelude input
  have hout := (weldStep_held hheld hfsm.status).2
  rw [hout]
  rcases Nat.eq_zero_or_pos k with rfl | hlater
  · rw [(weldStepWeld_first input hprelude).2]
    exact iff_of_false Bool.false_ne_true (by omega)
  · exact (weldStepWeld_multi hheld hprelude hmulti hlater hword).2.2

/-- When an energy weld faults. -/
theorem welds_fault {limits : WeldIn} {inputs : ℕ → WeldIn} {k : ℕ}
    (hheld : HeldInput limits (inputs (k + 1))) {fsm : WeldFsm}
    (hfsm : Welds limits k (limits.weldBudget - k) fsm)
    (hover : weldOver limits inputs (k + 1)) :
    (weldFsmStep (inputs (k + 1)) fsm).2.weldFault = true ↔
      EnergyMissed limits (inputs (k + 1)) := by
  have hmode : fsm.latchedMulti = false ∧ fsm.latchedEnergy = true ↔
      limits.multiCtrl = false ∧ limits.energyCtrl = true := by
    rw [hfsm.multi, hfsm.energy]
  have hreached := hheld.energy_iff
  rw [weldFsmStep_backstop]
  constructor
  · intro h
    exact ⟨(hmode.mp h.energy).1, (hmode.mp h.energy).2, fun hnow ↦ h.missed (hreached.mpr hnow)⟩
  · rintro ⟨hsingle, henergy, hmissed⟩
    have hcount : max 2 limits.weldBudget ≤ k + 1 := by
      unfold weldOver at hover
      rw [if_neg (by simp [hsingle]), if_pos henergy] at hover
      exact hover.resolve_left fun h ↦ hmissed h.2
    refine ⟨hheld.goes, weldFsm_sonicating.mpr ⟨hfsm.status, ?_⟩, hmode.mpr ⟨hsingle, henergy⟩,
      fun h ↦ hmissed (hreached.mp h), ?_⟩
    · exact hfsm.started.trans (decide_eq_true (by omega))
    · rw [hfsm.left]
      omega

/-! ### HOLD and CYL2 -/

/-- What is known after `k` steps in HOLD. -/
structure Holds (limits : WeldIn) (k : ℕ) (fsm : WeldFsm) : Prop where
  status : fsm.runStatus = .hold
  mode : fsm.runMode = limits.runMode
  started : fsm.fStatusStart = decide (1 ≤ k)
  left : fsm.tempTime = limits.holdTime - k

/-- What is known after `k` steps in CYL2. In trigger mode the upper switch is taken for pressed as
the state is entered. -/
structure Rises (limits : WeldIn) (k : ℕ) (fsm : WeldFsm) : Prop where
  status : fsm.runStatus = .cyl2
  mode : fsm.runMode = limits.runMode
  started : fsm.fStatusStart = decide (1 ≤ k)
  left : fsm.tempTime = limits.limitDelayTime1 - k
  pressed : limits.runMode ≠ 0 → fsm.upPressed = true

/-- A step in HOLD waits, or enters CYL2 at the dwell. -/
theorem holds_step {limits input : WeldIn} {k : ℕ} (hheld : HeldInput limits input) {fsm : WeldFsm}
    (hfsm : Holds limits k fsm) :
    (¬ max 2 limits.holdTime ≤ k + 1 → Holds limits (k + 1) (weldFsmStep input fsm).1) ∧
      (max 2 limits.holdTime ≤ k + 1 → Rises limits 0 (weldFsmStep input fsm).1) := by
  obtain ⟨hstatus, hmode, hstarted, hleft⟩ := hfsm
  have hstep : (weldFsmStep input fsm).1 = weldStepHold input (weldFsmPrelude input fsm) := by
    rw [(weldFsmStep_switch hheld.goes fsm).1, weldFsmSwitch,
      show (weldFsmPrelude input fsm).runStatus = .hold from hstatus]
  have hcount : (weldFsmPrelude input fsm).tempTime = limits.holdTime - (k + 1) := by
    show fsm.tempTime - 1 = _
    rw [hleft]
    omega
  have hstay {started : Bool} (hnow : started = true) :
      Holds limits (k + 1) { weldFsmPrelude input fsm with fStatusStart := started } :=
    ⟨hstatus, hmode, hnow.trans (by simp), hcount⟩
  rw [hstep, weldStepHold]
  rcases Nat.eq_zero_or_pos k with rfl | hlater
  · rw [if_pos (show (weldFsmPrelude input fsm).fStatusStart = false from hstarted)]
    exact ⟨fun _ ↦ hstay rfl, fun hover ↦ absurd hover (by omega)⟩
  · have hrun : (weldFsmPrelude input fsm).fStatusStart = true :=
      hstarted.trans (decide_eq_true hlater)
    rw [if_neg (by simp [hrun])]
    split_ifs with hdone htrigger
    · exact ⟨fun hnot ↦ absurd (by omega) hnot,
        fun _ ↦ ⟨rfl, hmode, rfl, hheld.delay1, fun _ ↦ rfl⟩⟩
    · exact ⟨fun hnot ↦ absurd (by omega) hnot,
        fun _ ↦ ⟨rfl, hmode, rfl, hheld.delay1, fun h ↦ absurd (hmode ▸ h) htrigger⟩⟩
    · exact ⟨fun _ ↦ hstay hrun, fun hover ↦ absurd hover (by omega)⟩

/-- When the rise is over: at the dwell, or in trigger mode at the second step. -/
def WeldIn.riseSteps (limits : WeldIn) : ℕ :=
  if limits.runMode ≠ 0 then 2 else max 2 limits.limitDelayTime1

/-- A step in CYL2 waits, or goes to READY when the rise is over. -/
theorem rises_step {limits input : WeldIn} {k : ℕ} (hheld : HeldInput limits input) {fsm : WeldFsm}
    (hfsm : Rises limits k fsm) :
    (¬ limits.riseSteps ≤ k + 1 → Rises limits (k + 1) (weldFsmStep input fsm).1) ∧
      (limits.riseSteps ≤ k + 1 → (weldFsmStep input fsm).1.runStatus = .ready) := by
  obtain ⟨hstatus, hmode, hstarted, hleft, hpressed⟩ := hfsm
  have hstep : (weldFsmStep input fsm).1 =
      (weldStepCyl2 (weldFsmPrelude input fsm) WeldOut.none).1 := by
    rw [(weldFsmStep_switch hheld.goes fsm).1, weldFsmSwitch,
      show (weldFsmPrelude input fsm).runStatus = .cyl2 from hstatus]
  have hcount : (weldFsmPrelude input fsm).tempTime = limits.limitDelayTime1 - (k + 1) := by
    show fsm.tempTime - 1 = _
    rw [hleft]
    omega
  have hup (htrigger : limits.runMode ≠ 0) : (weldFsmPrelude input fsm).upPressed = true := by
    rw [weldFsmPrelude, hpressed htrigger, Bool.true_or]
  have hstay {solDn started : Bool} (hnow : started = true) :
      Rises limits (k + 1) { weldFsmPrelude input fsm with
        fStatusStart := started
        solDn := solDn } :=
    ⟨hstatus, hmode, hnow.trans (by simp), hcount, hup⟩
  have hprelude : (weldFsmPrelude input fsm).runMode = limits.runMode := hmode
  rw [hstep, weldStepCyl2, WeldIn.riseSteps]
  rcases Nat.eq_zero_or_pos k with rfl | hlater
  · rw [if_pos (show (weldFsmPrelude input fsm).fStatusStart = false from hstarted)]
    refine ⟨fun _ ↦ hstay rfl, fun hover ↦ ?_⟩
    split_ifs at hover <;> omega
  · have hrun : (weldFsmPrelude input fsm).fStatusStart = true :=
      hstarted.trans (decide_eq_true hlater)
    have hnotfirst : ¬ (weldFsmPrelude input fsm).fStatusStart = false := by simp [hrun]
    rw [if_neg hnotfirst, hprelude]
    by_cases htrigger : limits.runMode ≠ 0
    · rw [if_pos htrigger, if_pos htrigger, if_pos (hup htrigger)]
      exact ⟨fun hnot ↦ absurd (by omega) hnot, fun _ ↦ rfl⟩
    · rw [if_neg htrigger, if_neg htrigger]
      split_ifs with hdone
      · exact ⟨fun hnot ↦ absurd (by omega) hnot, fun _ ↦ rfl⟩
      · exact ⟨fun _ ↦ hstay hrun, fun hover ↦ absurd hover (by omega)⟩

/-! ### A cycle -/

/-- The steps that find the core in a state. -/
def InState (inputs : ℕ → WeldIn) (fsm : WeldFsm) (status : WeldState) (n : ℕ) : Prop :=
  (weldRun inputs fsm n).runStatus = status

section Cycle

variable {limits : WeldIn} {inputs : ℕ → WeldIn} {fsm : WeldFsm} {bound : ℕ}

theorem visit_descent (hready : fsm.runStatus = .ready) (hstart : (inputs 0).start = true)
    (hheld : ∀ k < bound, HeldInput limits (inputs k)) {c : ℕ} (hbound : 1 + c ≤ bound) :
    (Lasts (InState inputs fsm .cyl1) 1 c ↔ FirstAt (descentOver limits inputs) c) ∧
      (Lasts (InState inputs fsm .cyl1) 1 c → EntersWeld limits (weldRun inputs fsm (1 + c))) := by
  have hstep (k : ℕ) : weldRun inputs fsm (1 + (k + 1)) =
      (weldFsmStep (inputs (k + 1)) (weldRun inputs fsm (1 + k))).1 := by
    show (weldFsmStep (inputs (1 + k)) (weldRun inputs fsm (1 + k))).1 = _
    rw [Nat.add_comm 1 k]
  refine @lasts_iff_firstAt (InState inputs fsm .cyl1) (descentOver limits inputs)
    (fun k ↦ Descends limits inputs k (weldRun inputs fsm (1 + k)))
    (fun k ↦ EntersWeld limits (weldRun inputs fsm (1 + k))) 1 bound ?_ ?_
    (fun k h ↦ h.status) (fun k h ↦ ?_) c hbound
  · exact descends_start (hheld 0 (by omega)) hstart hready
  · intro k hk hdescends
    rw [hstep]
    exact descends_step (hheld (k + 1) (by omega)) hdescends
  · rw [InState, h.status]
    decide

/-- The steps of a visit behind `before` steps of the cycle, the start aside. -/
theorem weldRun_step (before k : ℕ) : weldRun inputs fsm (1 + before + (k + 1)) =
    (weldFsmStep (inputs (before + (k + 1))) (weldRun inputs fsm (1 + before + k))).1 := by
  show (weldFsmStep (inputs (1 + before + k)) (weldRun inputs fsm (1 + before + k))).1 = _
  rw [show 1 + before + k = before + (k + 1) by omega]

theorem visit_weld {c : ℕ} (henter : EntersWeld limits (weldRun inputs fsm (1 + c)))
    (hheld : ∀ k < bound, HeldInput limits (inputs k))
    (hword : limits.limitMoTime1 < 65536 ∧ limits.limitMoTime2 < 65536) {w : ℕ}
    (hbound : 1 + c + w ≤ bound) :
    (Lasts (InState inputs fsm .weld) (1 + c) w ↔
        FirstAt (weldOver limits fun k ↦ inputs (c + k)) w) ∧
      (Lasts (InState inputs fsm .weld) (1 + c) w →
        LeavesWeld limits (inputs (c + w)) (weldRun inputs fsm (1 + c + w)) ∧
          ∀ k < w, Welds limits k (limits.weldBudget - k) (weldRun inputs fsm (1 + c + k))) := by
  have hstart : Welds limits 0 (limits.weldBudget - 0) (weldRun inputs fsm (1 + c + 0)) :=
    welds_start henter
  have hstep : ∀ k, 1 + c + k < bound →
      Welds limits k (limits.weldBudget - k) (weldRun inputs fsm (1 + c + k)) →
        (¬ weldOver limits (fun k ↦ inputs (c + k)) (k + 1) →
            Welds limits (k + 1) (limits.weldBudget - (k + 1))
              (weldRun inputs fsm (1 + c + (k + 1)))) ∧
          (weldOver limits (fun k ↦ inputs (c + k)) (k + 1) →
            LeavesWeld limits (inputs (c + (k + 1))) (weldRun inputs fsm (1 + c + (k + 1)))) := by
    intro k hk hwelds
    rw [weldRun_step]
    exact @welds_step limits (fun k ↦ inputs (c + k)) k (hheld _ (by omega)) _ hwelds hword
  have hrule := @lasts_iff_firstAt (InState inputs fsm .weld)
    (weldOver limits fun k ↦ inputs (c + k))
    (fun k ↦ Welds limits k (limits.weldBudget - k) (weldRun inputs fsm (1 + c + k)))
    (fun k ↦ LeavesWeld limits (inputs (c + k)) (weldRun inputs fsm (1 + c + k))) (1 + c) bound
    hstart hstep (fun k h ↦ h.status) (fun k h ↦ ?_) w hbound
  · refine ⟨hrule.1, fun hlasts ↦ ⟨hrule.2 hlasts, fun k hk ↦ ?_⟩⟩
    have hfirst := hrule.1.mp hlasts
    refine @stays_until (weldOver limits fun k ↦ inputs (c + k))
      (fun k ↦ Welds limits k (limits.weldBudget - k) (weldRun inputs fsm (1 + c + k))) (1 + c)
      bound hstart (fun j hj h ↦ (hstep j hj h).1) k (by omega) fun j hpos hj ↦ ?_
    exact hfirst.fresh j hpos (by omega)
  · rw [InState]
    by_cases hmissed : EnergyMissed limits (inputs (c + k))
    · rw [h.faults hmissed]
      decide
    · rw [(h.holds hmissed).status]
      decide

theorem visit_hold {before : ℕ} (henter : EntersHold limits (weldRun inputs fsm (1 + before)))
    (hheld : ∀ k < bound, HeldInput limits (inputs k)) {h : ℕ} (hbound : 1 + before + h ≤ bound) :
    (Lasts (InState inputs fsm .hold) (1 + before) h ↔ h = max 2 limits.holdTime) ∧
      (Lasts (InState inputs fsm .hold) (1 + before) h →
        Rises limits 0 (weldRun inputs fsm (1 + before + h))) := by
  have hrule := @lasts_iff_firstAt (InState inputs fsm .hold) (fun k ↦ max 2 limits.holdTime ≤ k)
    (fun k ↦ Holds limits k (weldRun inputs fsm (1 + before + k)))
    (fun k ↦ Rises limits 0 (weldRun inputs fsm (1 + before + k))) (1 + before) bound
    ⟨henter.status, henter.mode, henter.first, henter.left⟩ (fun k hk hholds ↦ ?_)
    (fun k hholds ↦ hholds.status) (fun k hrises ↦ ?_) h hbound
  · rw [firstAt_threshold (by omega)] at hrule
    exact hrule
  · rw [weldRun_step]
    exact holds_step (hheld _ (by omega)) hholds
  · rw [InState, hrises.status]
    decide

theorem visit_rise {before : ℕ} (henter : Rises limits 0 (weldRun inputs fsm (1 + before)))
    (hheld : ∀ k < bound, HeldInput limits (inputs k)) {r : ℕ} (hbound : 1 + before + r ≤ bound) :
    Lasts (InState inputs fsm .cyl2) (1 + before) r ↔ r = limits.riseSteps := by
  have hpos : 1 ≤ limits.riseSteps := by
    unfold WeldIn.riseSteps
    split_ifs <;> omega
  have hrule := @lasts_iff_firstAt (InState inputs fsm .cyl2) (fun k ↦ limits.riseSteps ≤ k)
    (fun k ↦ Rises limits k (weldRun inputs fsm (1 + before + k)))
    (fun k ↦ (weldRun inputs fsm (1 + before + k)).runStatus = .ready) (1 + before) bound
    henter (fun k hk hrises ↦ ?_) (fun k hrises ↦ hrises.status) (fun k hready ↦ ?_) r hbound
  · rw [firstAt_threshold hpos] at hrule
    exact hrule.1
  · rw [weldRun_step]
    exact rises_step (hheld _ (by omega)) hrises
  · rw [InState, hready]
    decide

/-- The lengths of a cycle that step 0 starts, as far as its inputs are held. The first steps of
the states are the steps 1, `1 + c`, `1 + c + w` and `1 + c + w + h`, so that step `k` of WELD
executes `inputs (c + k)`. -/
structure CycleLengths (limits : WeldIn) (inputs : ℕ → WeldIn) (fsm : WeldFsm) (bound : ℕ) :
    Prop where
  descentTimed : limits.runMode = 0 → ∀ c, 1 + c ≤ bound →
    (Lasts (InState inputs fsm .cyl1) 1 c ↔ c = max 2 limits.limitDelayTime1)
  descentTriggered : limits.runMode ≠ 0 → ∀ c, 1 + c ≤ bound →
    (Lasts (InState inputs fsm .cyl1) 1 c ↔
      FirstAt (fun k ↦ 2 ≤ k ∧ ∃ j, 1 ≤ j ∧ j ≤ k ∧ (inputs j).dnEdge = true) c)
  weldTimed : limits.multiCtrl = false → limits.energyCtrl = false → ∀ c w, 1 + c + w ≤ bound →
    Lasts (InState inputs fsm .cyl1) 1 c →
      (Lasts (InState inputs fsm .weld) (1 + c) w ↔ w = max 7 limits.weldTime)
  weldMulti : limits.multiCtrl = true → ∀ c w, 1 + c + w ≤ bound →
    Lasts (InState inputs fsm .cyl1) 1 c →
      (Lasts (InState inputs fsm .weld) (1 + c) w ↔ w = max 2 limits.limitMoTime2)
  changes : limits.multiCtrl = true → ∀ c w, 1 + c + w ≤ bound →
    Lasts (InState inputs fsm .cyl1) 1 c → Lasts (InState inputs fsm .weld) (1 + c) w →
      ∀ k, 1 ≤ k → k ≤ w → ((weldRunOut inputs fsm (c + k)).ampChange = true ↔
        k = max 2 limits.limitMoTime1)
  weldEnergy : limits.multiCtrl = false → limits.energyCtrl = true → ∀ c w, 1 + c + w ≤ bound →
    Lasts (InState inputs fsm .cyl1) 1 c →
      (Lasts (InState inputs fsm .weld) (1 + c) w ↔
        FirstAt (fun k ↦ (2 ≤ k ∧ EnergyReached limits (inputs (c + k))) ∨
          100 * max 1 limits.limitOutTime ≤ k) w)
  faults : ∀ c w, 1 + c + w ≤ bound → Lasts (InState inputs fsm .cyl1) 1 c →
    Lasts (InState inputs fsm .weld) (1 + c) w →
      ((weldRunOut inputs fsm (c + w)).weldFault = true ↔ EnergyMissed limits (inputs (c + w))) ∧
        (EnergyMissed limits (inputs (c + w)) → InState inputs fsm .ready (1 + c + w)) ∧
        (¬ EnergyMissed limits (inputs (c + w)) → InState inputs fsm .hold (1 + c + w))
  hold : ∀ c w h, 1 + c + w + h ≤ bound → Lasts (InState inputs fsm .cyl1) 1 c →
    Lasts (InState inputs fsm .weld) (1 + c) w → InState inputs fsm .hold (1 + c + w) →
      (Lasts (InState inputs fsm .hold) (1 + c + w) h ↔ h = max 2 limits.holdTime)
  rise : ∀ c w h r, 1 + c + w + h + r ≤ bound → Lasts (InState inputs fsm .cyl1) 1 c →
    Lasts (InState inputs fsm .weld) (1 + c) w → InState inputs fsm .hold (1 + c + w) →
      Lasts (InState inputs fsm .hold) (1 + c + w) h →
        (Lasts (InState inputs fsm .cyl2) (1 + c + w + h) r ↔ r = limits.riseSteps)

theorem weldBackstopTicks_eq {limitOutTime : ℕ} (hout : limitOutTime ≤ 255) :
    weldBackstopTicks limitOutTime = 100 * max 1 limitOutTime := by
  unfold weldBackstopTicks
  split_ifs <;> omega

/-- Assumes: step 0 starts a cycle in READY, and up to a bound the inputs have the given limits and
switches and no abort; the two times of a two-stage weld are 16-bit words, and the time-out fits
in a byte. Then, as far as the cycle is held, each of its states lasts as long as it should. -/
theorem cycle_lengths (limits : WeldIn) (inputs : ℕ → WeldIn) {fsm : WeldFsm}
    (hready : fsm.runStatus = .ready) (hstart : (inputs 0).start = true) {bound : ℕ}
    (hheld : ∀ k < bound, HeldInput limits (inputs k))
    (hword : limits.limitMoTime1 < 65536 ∧ limits.limitMoTime2 < 65536)
    (hout : limits.limitOutTime ≤ 255) : CycleLengths limits inputs fsm bound := by
  have hdescent {c : ℕ} (hc : 1 + c ≤ bound) := @visit_descent limits inputs fsm bound hready hstart
    hheld c hc
  have hweld {c w : ℕ} (hw : 1 + c + w ≤ bound) (hdown : Lasts (InState inputs fsm .cyl1) 1 c) :=
    @visit_weld limits inputs fsm bound c ((hdescent (by omega)).2 hdown) hheld hword w hw
  have hholds {c w : ℕ} (hw : 1 + c + w ≤ bound) (hdown : Lasts (InState inputs fsm .cyl1) 1 c)
      (hsonic : Lasts (InState inputs fsm .weld) (1 + c) w)
      (hhold : InState inputs fsm .hold (1 + c + w)) :
      EntersHold limits (weldRun inputs fsm (1 + (c + w))) := by
    have hleaves := ((hweld hw hdown).2 hsonic).1
    rw [← Nat.add_assoc]
    refine hleaves.holds fun hmissed ↦ ?_
    have hready := hleaves.faults hmissed
    rw [InState, hready] at hhold
    cases hhold
  constructor
  · intro hmode c hc
    have hover : descentOver limits inputs = fun k ↦ max 2 limits.limitDelayTime1 ≤ k :=
      funext fun k ↦ if_neg (not_not.mpr hmode)
    rw [(hdescent hc).1, hover, firstAt_threshold (by omega)]
  · intro hmode c hc
    rw [(hdescent hc).1]
    exact firstAt_congr fun k ↦ by rw [descentOver, if_pos hmode]
  · intro hmulti henergy c w hw hdown
    have hover : (weldOver limits fun k ↦ inputs (c + k)) = fun k ↦ max 7 limits.weldTime ≤ k := by
      funext k
      rw [weldOver, if_neg (by simp [hmulti]), if_neg (by simp [henergy]), WeldIn.weldBudget,
        if_neg (by simp [henergy])]
      exact propext (by omega)
    rw [(hweld hw hdown).1, hover, firstAt_threshold (by omega)]
  · intro hmulti c w hw hdown
    have hover : (weldOver limits fun k ↦ inputs (c + k)) =
        fun k ↦ max 2 limits.limitMoTime2 ≤ k := funext fun k ↦ if_pos hmulti
    rw [(hweld hw hdown).1, hover, firstAt_threshold (by omega)]
  · intro hmulti c w hw hdown hsonic k hpos hk
    obtain ⟨before, rfl⟩ := Nat.exists_eq_add_of_le' hpos
    have hwelds := ((hweld hw hdown).2 hsonic).2 before (by omega)
    have hchange := welds_change (hheld (c + (before + 1)) (by omega)) hwelds hmulti hword
    rw [show 1 + c + before = c + (before + 1) by omega] at hchange
    exact hchange
  · intro hmulti henergy c w hw hdown
    rw [(hweld hw hdown).1]
    refine firstAt_congr fun k ↦ ?_
    rw [weldOver, if_neg (by simp [hmulti]), if_pos henergy, WeldIn.weldBudget, if_pos henergy,
      weldBackstopTicks_eq hout]
    refine or_congr Iff.rfl ?_
    omega
  · intro c w hw hdown hsonic
    obtain ⟨hleaves, hinside⟩ := (hweld hw hdown).2 hsonic
    have hfirst := (hweld hw hdown).1.mp hsonic
    refine ⟨?_, hleaves.faults, fun hkept ↦ (hleaves.holds hkept).status⟩
    obtain ⟨before, rfl⟩ := Nat.exists_eq_add_of_le' hfirst.counted
    have hfault := @welds_fault limits (fun k ↦ inputs (c + k)) before (hheld _ (by omega)) _
      (hinside before (by omega)) hfirst.holds
    rw [show 1 + c + before = c + (before + 1) by omega] at hfault
    exact hfault
  · intro c w h hh hdown hsonic hhold
    have hvisit := @visit_hold limits inputs fsm bound (c + w)
      (hholds (by omega) hdown hsonic hhold) hheld h (by omega)
    rw [← Nat.add_assoc] at hvisit
    exact hvisit.1
  · intro c w h r hr hdown hsonic hhold hheldDown
    have hvisit := @visit_hold limits inputs fsm bound (c + w)
      (hholds (by omega) hdown hsonic hhold) hheld h (by omega)
    rw [← Nat.add_assoc] at hvisit
    have henter := hvisit.2 hheldDown
    rw [show 1 + c + w + h = 1 + (c + w + h) by omega] at henter ⊢
    exact visit_rise henter hheld (by omega)

end Cycle

/-- A timed cycle with dwells of 5, 8 and 4 ticks. -/
def timedLimits : WeldIn where
  start := true
  runMode := 0
  limitDelayTime1 := 5
  limitDelayTime2 := 8
  limitDelayTime3 := 4
  outputPower := 100
  energyCtrl := false
  currEnergy := 0
  limitEnergy := 0
  limitOutTime := 0
  multiCtrl := false
  limitMoOut1 := 0
  limitMoOut2 := 0
  limitMoTime1 := 0
  limitMoTime2 := 0
  abort := false
  limitTriggerTime2 := 0
  limitTriggerTime3 := 0
  dnEdge := false
  upEdge := false

/-- Its states last 5, 8, 4 and 5 steps. -/
theorem timedCycle_lasts :
    Lasts (InState (fun _ ↦ timedLimits) weldFsmInit .cyl1) 1 5 ∧
      Lasts (InState (fun _ ↦ timedLimits) weldFsmInit .weld) 6 8 ∧
      Lasts (InState (fun _ ↦ timedLimits) weldFsmInit .hold) 14 4 ∧
      Lasts (InState (fun _ ↦ timedLimits) weldFsmInit .cyl2) 18 5 := by
  have hheld : ∀ k < 23, HeldInput timedLimits timedLimits := fun _ _ ↦
    ⟨rfl, rfl, rfl, rfl, rfl, rfl, rfl, rfl, rfl, rfl, rfl, rfl, rfl⟩
  have hcycle := @cycle_lengths timedLimits (fun _ ↦ timedLimits) weldFsmInit rfl rfl 23 hheld
    (by decide) (by decide)
  have hdown := (hcycle.descentTimed rfl 5 (by decide)).mpr rfl
  have hsonic := (hcycle.weldTimed rfl rfl 5 8 (by decide) hdown).mpr rfl
  have hhold := (hcycle.faults 5 8 (by decide) hdown hsonic).2.2 fun hmissed ↦
    absurd hmissed.2.1 (by decide)
  have hheldDown := (hcycle.hold 5 8 4 (by decide) hdown hsonic hhold).mpr rfl
  exact ⟨hdown, hsonic, hheldDown,
    (hcycle.rise 5 8 4 5 (by decide) hdown hsonic hhold hheldDown).mpr rfl⟩

end UsCtrl
