import UsCtrl.WeldLengths
import UsCtrl.Foundation.Mealy

/-!
# The switches a cycle has latched

The run mode is copied by the step that starts a cycle, the multi and the energy switch by the step
that enters WELD; until READY is reached again the core goes by its copies. Two runs whose inputs
differ in these switches only, and only where the cycle has its copy, cannot be told apart by their
outputs (`toggles_ignored`). This is the two-run rule for step functions, `mealy_agree`, with
`LatchedApart` for similar inputs: of the state a step finds only `runStatus` says what is latched.
-/

set_option autoImplicit false
set_option relaxedAutoImplicit false

namespace UsCtrl

open Foundation

deriving instance DecidableEq for WeldIn

/-- Inputs of a step that finds the given state and agree but for what the cycle has latched: the
run mode outside READY, the multi and the energy switch outside READY and CYL1. -/
structure LatchedApart (status : WeldState) (input input' : WeldIn) : Prop where
  rest : input' = { input with
    runMode := input'.runMode, multiCtrl := input'.multiCtrl, energyCtrl := input'.energyCtrl }
  mode : status = .ready → input'.runMode = input.runMode
  multi : status = .ready ∨ status = .cyl1 → input'.multiCtrl = input.multiCtrl
  energy : status = .ready ∨ status = .cyl1 → input'.energyCtrl = input.energyCtrl

instance (status : WeldState) (input input' : WeldIn) :
    Decidable (LatchedApart status input input') :=
  decidable_of_iff (input' = { input with
      runMode := input'.runMode, multiCtrl := input'.multiCtrl, energyCtrl := input'.energyCtrl } ∧
      (status = .ready → input'.runMode = input.runMode) ∧
      (status = .ready ∨ status = .cyl1 → input'.multiCtrl = input.multiCtrl) ∧
      (status = .ready ∨ status = .cyl1 → input'.energyCtrl = input.energyCtrl))
    ⟨fun h ↦ ⟨h.1, h.2.1, h.2.2.1, h.2.2.2⟩, fun h ↦ ⟨h.rest, h.mode, h.multi, h.energy⟩⟩

/-- CYL1 reads its own run mode. -/
theorem weldFsmStep_descending (input : WeldIn) {fsm : WeldFsm} (hstatus : fsm.runStatus = .cyl1)
    (mode : ℕ) : weldFsmStep { input with runMode := mode } fsm = weldFsmStep input fsm := by
  unfold weldFsmStep weldFsmSwitch
  rw [show (weldFsmPrelude { input with runMode := mode } fsm).runStatus = .cyl1 from hstatus,
    show (weldFsmPrelude input fsm).runStatus = .cyl1 from hstatus]
  rfl

/-- From WELD on no switch of the inputs is read. -/
theorem weldFsmStep_latched (input : WeldIn) {fsm : WeldFsm} (hready : fsm.runStatus ≠ .ready)
    (hcyl1 : fsm.runStatus ≠ .cyl1) (mode : ℕ) (multi energy : Bool) :
    weldFsmStep { input with runMode := mode, multiCtrl := multi, energyCtrl := energy } fsm =
      weldFsmStep input fsm := by
  have hprelude : weldFsmPrelude
      { input with runMode := mode, multiCtrl := multi, energyCtrl := energy } fsm =
        weldFsmPrelude input fsm := rfl
  have hstatus : (weldFsmPrelude input fsm).runStatus = fsm.runStatus := rfl
  unfold weldFsmStep weldFsmSwitch
  rw [hprelude, hstatus]
  cases hcase : fsm.runStatus with
  | ready => exact absurd hcase hready
  | cyl1 => exact absurd hcase hcyl1
  | weld => rfl
  | hold => rfl
  | cyl2 => rfl

/-- A step cannot tell inputs apart that differ in latched switches only. -/
theorem weldFsmStep_apart (fsm : WeldFsm) (input input' : WeldIn)
    (hapart : LatchedApart fsm.runStatus input input') :
    weldFsmStep input' fsm = weldFsmStep input fsm := by
  obtain ⟨hrest, hmode, hmulti, henergy⟩ := hapart
  by_cases hready : fsm.runStatus = .ready
  · rw [hrest, hmode hready, hmulti (.inl hready), henergy (.inl hready)]
  · by_cases hcyl1 : fsm.runStatus = .cyl1
    · rw [hrest, hmulti (.inr hcyl1), henergy (.inr hcyl1)]
      exact weldFsmStep_descending input hcyl1 _
    · rw [hrest]
      exact weldFsmStep_latched input hready hcyl1 _ _ _

theorem weldRun_eq (inputs : ℕ → WeldIn) (fsm : WeldFsm) (n : ℕ) :
    weldRun inputs fsm n = mealyState weldFsmStep inputs fsm n := by
  induction n with
  | zero => rfl
  | succ n ih => rw [weldRun, ih, mealyState_succ]

/-- Assumes: up to `n` the inputs of two runs agree on everything but the switches that the cycle
has latched. Then the runs put out the same. -/
theorem toggles_ignored (fsm : WeldFsm) (inputs inputs' : ℕ → WeldIn) (n : ℕ)
    (happart : ∀ k < n, LatchedApart (weldRun inputs fsm k).runStatus (inputs k) (inputs' k)) :
    ∀ k < n, weldRunOut inputs' fsm k = weldRunOut inputs fsm k := by
  intro k hk
  have hsame : mealyOut weldFsmStep inputs' fsm k = mealyOut weldFsmStep inputs fsm k := by
    refine (mealy_agree (n := n) weldFsmStep_apart fun j hj ↦ ?_).2 k hk
    rw [← weldRun_eq]
    exact happart j hj
  unfold weldRunOut
  rw [weldRun_eq, weldRun_eq]
  exact hsame

/-- The inputs of a time-mode cycle: a start, then the given switches from the given step on. -/
def toggledInput (mode : ℕ) (multi energy : Bool) (toggled k : ℕ) : WeldIn where
  start := decide (k = 0)
  runMode := if k ≥ 1 then mode else 0
  limitDelayTime1 := 2
  limitDelayTime2 := 10
  limitDelayTime3 := 2
  outputPower := 100
  energyCtrl := decide (k ≥ toggled) && energy
  currEnergy := 0
  limitEnergy := 0
  limitOutTime := 1
  multiCtrl := decide (k ≥ toggled) && multi
  limitMoOut1 := 60
  limitMoOut2 := 80
  limitMoTime1 := 1
  limitMoTime2 := 2
  abort := false
  limitTriggerTime2 := 3
  limitTriggerTime3 := 5
  dnEdge := false
  upEdge := false

/-- All three switches are thrown in the course of a cycle; it is completed as if they were not. -/
theorem toggles_ignored_mid_cycle :
    weldRunOut (toggledInput 1 true true 3) weldFsmInit 16 =
      weldRunOut (toggledInput 0 false false 3) weldFsmInit 16 :=
  toggles_ignored weldFsmInit (toggledInput 0 false false 3) (toggledInput 1 true true 3) 17
    (by decide +kernel) 16 (by decide)

example : (weldRunOut (toggledInput 0 false false 3) weldFsmInit 16).cycleDone = true := by
  decide +kernel

end UsCtrl
