import UsCtrl.PanelFsms
import UsCtrl.Foundation.Levels
import UsCtrl.Foundation.Mealy

/-!
# The edges of the command inputs

`input_fsm_step` over any sequence of samples from its initial state, the model type changing as it
likes. What the core remembers after each step is the last sample, with "active" before the first
one (`inputRun_remembers`): the shadow of PC11 is kept up in both roles of the pin, and the
emergency shadow is the level of the emergency switch, which is off on a model that has none. Every
output is then an edge, or the level, of the sampled lines (`inputEdges`), and a line that has been
active since boot, or since an earlier step, presses nothing, whatever becomes of the model in
between (`input_edges`).
-/

set_option autoImplicit false
set_option relaxedAutoImplicit false

namespace UsCtrl

open Foundation

/-- The emergency switch of a sample: PC11 is one on std models only. -/
def InputIn.emergency (input : InputIn) : Bool :=
  decide (2 ≤ input.modelType) && input.estopSeek

/-- What the core remembers of the samples before step `n`. -/
structure Remembers (samples : ℕ → InputIn) (n : ℕ) (fsm : InputFsm) : Prop where
  start : fsm.startBak = sampleBefore (fun k ↦ (samples k).start) n
  reset : fsm.resetBak = sampleBefore (fun k ↦ (samples k).reset) n
  seek : fsm.seekBak = sampleBefore (fun k ↦ (samples k).estopSeek) n
  emsw : fsm.emswBak = sampleBefore (fun k ↦ (samples k).emergency) n

/-- The outputs of step `n` in terms of the samples. -/
def inputEdges (samples : ℕ → InputIn) (n : ℕ) : InputOut where
  startPress := falls (fun k ↦ (samples k).start) n
  startRelease := climbs (fun k ↦ (samples k).start) n
  resetPress := falls (fun k ↦ (samples k).reset) n
  seekPress := decide ((samples n).modelType ≤ 1) && falls (fun k ↦ (samples k).estopSeek) n
  estopActive := (samples n).emergency
  estopEnter := climbs (fun k ↦ (samples k).emergency) n

theorem changed_press (last now : Bool) : (decide (now ≠ last) && !now) = (last && !now) := by
  cases last <;> cases now <;> rfl

theorem changed_release (last now : Bool) : (decide (now ≠ last) && now) = (!last && now) := by
  cases last <;> cases now <;> rfl

/-- Assumes: the core remembers the sample before. A step remembers the sample it is given, and its
outputs are the edges of the samples. -/
theorem inputFsmStep_edges {samples : ℕ → InputIn} {n : ℕ} {fsm : InputFsm}
    (hfsm : Remembers samples n fsm) :
    Remembers samples (n + 1) (inputFsmStep (samples n) fsm).1 ∧
      (inputFsmStep (samples n) fsm).2 = inputEdges samples n := by
  obtain ⟨hstart, hreset, hseek, hemsw⟩ := hfsm
  unfold inputFsmStep
  simp only [changed_press, changed_release, hstart, hreset, hseek, hemsw]
  split_ifs with hmodel
  · have hswitch : (samples n).emergency = false := by
      rw [InputIn.emergency, decide_eq_false (by omega), Bool.false_and]
    refine ⟨⟨rfl, rfl, rfl, hswitch.symm⟩, ?_⟩
    simp [inputEdges, falls, climbs, hmodel, hswitch]
  · have hswitch : (samples n).emergency = (samples n).estopSeek := by
      rw [InputIn.emergency, decide_eq_true (by omega), Bool.true_and]
    refine ⟨⟨rfl, rfl, rfl, hswitch.symm⟩, ?_⟩
    simp [inputEdges, falls, climbs, hmodel, hswitch]

theorem inputRun_remembers (samples : ℕ → InputIn) (n : ℕ) :
    Remembers samples n (mealyState inputFsmStep samples inputFsmInit n) := by
  refine mealyState_induction (motive := Remembers samples) ⟨rfl, rfl, rfl, rfl⟩ ?_ n
  intro n fsm hfsm
  exact (inputFsmStep_edges hfsm).1

/-- The outputs of every step are the edges and levels of the samples. A line that has read active
at every step from `first` on is not pressed at a later step, nor at boot if it was active there. -/
theorem input_edges (samples : ℕ → InputIn) (n : ℕ) :
    mealyOut inputFsmStep samples inputFsmInit n = inputEdges samples n ∧
      ∀ first, first = 0 ∨ first < n →
        ((∀ k, first ≤ k → k ≤ n → (samples k).start = false) →
          (mealyOut inputFsmStep samples inputFsmInit n).startPress = false) ∧
        ((∀ k, first ≤ k → k ≤ n → (samples k).reset = false) →
          (mealyOut inputFsmStep samples inputFsmInit n).resetPress = false) ∧
        ((∀ k, first ≤ k → k ≤ n → (samples k).estopSeek = false) →
          (mealyOut inputFsmStep samples inputFsmInit n).seekPress = false) := by
  have hout : mealyOut inputFsmStep samples inputFsmInit n = inputEdges samples n :=
    (inputFsmStep_edges (inputRun_remembers samples n)).2
  refine ⟨hout, fun first hearlier ↦ ⟨fun hlow ↦ ?_, fun hlow ↦ ?_, fun hlow ↦ ?_⟩⟩
  · rw [hout]
    exact falls_of_low hlow hearlier
  · rw [hout]
    exact falls_of_low hlow hearlier
  · rw [hout]
    show (_ && falls (fun k ↦ (samples k).estopSeek) n) = false
    rw [falls_of_low hlow hearlier, Bool.and_false]

end UsCtrl
