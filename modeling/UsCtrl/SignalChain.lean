import UsCtrl.Press
import UsCtrl.Foundation.Levels
import UsCtrl.Foundation.Mealy

/-!
# The SEEK/RESET chain over its runs

`seek_reset_fsm_step` from its initial state, for any sequence of commands and published runs. The
levels a step puts out are the state it leaves (`seekResetFsmStep_signals`), so the two are never
high together; the icon edges are the changes of that state (`seekResetFsmStep_icons`), so they are
the edges of the levels, and whatever is switched by them shows the levels (`chainPins_levels`). A
leg counts sixty steps, whatever arrives in the meantime (`chain_leg`).
`signal_chain` puts the parts together.
-/

set_option autoImplicit false
set_option relaxedAutoImplicit false

namespace UsCtrl

open Foundation

/-! ### One step -/

/-- The levels of a step are the state it leaves. -/
theorem seekResetFsmStep_signals (input : SeekResetIn) (fsm : SeekResetFsm) :
    (seekResetFsmStep input fsm).2.resetSignal =
        decide ((seekResetFsmStep input fsm).1.state = .reset) ∧
      (seekResetFsmStep input fsm).2.seekSignal =
        decide ((seekResetFsmStep input fsm).1.state = .seek) := by
  unfold seekResetFsmStep
  cases hstate : fsm.state with
  | idle =>
    dsimp only
    split_ifs
    · simp [hstate, SeekResetOut.none]
    · cases input.cmd <;> simp [hstate, SeekResetOut.none]
  | reset =>
    dsimp only [srStepReset]
    split_ifs <;> simp [SeekResetOut.none]
  | seek =>
    dsimp only [srStepSeek]
    split_ifs <;> simp [SeekResetOut.none]

/-- The icon edges of a step are the changes of the state. -/
theorem seekResetFsmStep_icons (input : SeekResetIn) (fsm : SeekResetFsm) :
    (seekResetFsmStep input fsm).2.resetIcon =
        (!decide (fsm.state = .reset) &&
          decide ((seekResetFsmStep input fsm).1.state = .reset)) ∧
      (seekResetFsmStep input fsm).2.resetIconOff =
        (decide (fsm.state = .reset) &&
          !decide ((seekResetFsmStep input fsm).1.state = .reset)) ∧
      (seekResetFsmStep input fsm).2.seekIcon =
        (!decide (fsm.state = .seek) && decide ((seekResetFsmStep input fsm).1.state = .seek)) ∧
      (seekResetFsmStep input fsm).2.seekIconOff =
        (decide (fsm.state = .seek) &&
          !decide ((seekResetFsmStep input fsm).1.state = .seek)) := by
  unfold seekResetFsmStep
  cases hstate : fsm.state with
  | idle =>
    dsimp only
    split_ifs
    · simp [hstate, SeekResetOut.none]
    · cases input.cmd <;> simp [hstate, SeekResetOut.none]
  | reset =>
    dsimp only [srStepReset]
    split_ifs <;> simp [SeekResetOut.none]
  | seek =>
    dsimp only [srStepSeek]
    split_ifs <;> simp [SeekResetOut.none]

/-- Inputs a step that finds the given state cannot tell apart: a busy chain reads nothing, and an
idle one reads the command while no run is published. -/
structure SameCommand (fsm : SeekResetFsm) (input input' : SeekResetIn) : Prop where
  run : fsm.state = .idle → input'.runActive = input.runActive
  cmd : fsm.state = .idle → input.runActive = false → input'.cmd = input.cmd

theorem seekResetFsmStep_ignores (fsm : SeekResetFsm) (input input' : SeekResetIn)
    (hsame : SameCommand fsm input input') :
    seekResetFsmStep input' fsm = seekResetFsmStep input fsm := by
  by_cases hidle : fsm.state = .idle
  · unfold seekResetFsmStep
    rw [hidle]
    dsimp only
    rw [hsame.run hidle]
    cases hrun : input.runActive with
    | true => rfl
    | false => rw [hsame.cmd hidle hrun]
  · exact seekResetFsmStep_busy input' input hidle

/-! ### The run -/

section Run

variable (inputs : ℕ → SeekResetIn)

/-- The state step `n` finds. -/
def chainState (n : ℕ) : SeekResetFsm := mealyState seekResetFsmStep inputs seekResetFsmInit n

/-- What step `n` puts out. -/
def chainOut (n : ℕ) : SeekResetOut := mealyOut seekResetFsmStep inputs seekResetFsmInit n

/-- The two oscillator lines before step `n`, switched by the icon edges. -/
def chainPins (pins : Pins) : ℕ → Pins
  | 0 => pins
  | n + 1 => srSignals (chainOut inputs n) (chainPins pins n)

/-- Step `n` takes the command. -/
structure Takes (cmd : SrCmd) (n : ℕ) : Prop where
  idle : (chainState inputs n).state = .idle
  stopped : (inputs n).runActive = false
  asked : (inputs n).cmd = cmd

theorem chainState_succ (n : ℕ) :
    chainState inputs (n + 1) = (seekResetFsmStep (inputs n) (chainState inputs n)).1 := rfl

variable {inputs}

theorem chain_takes_reset {n : ℕ} (htakes : Takes inputs .reset n) :
    chainState inputs (n + 1) = ⟨.reset, 0⟩ := by
  rw [chainState_succ, seekResetFsmStep]
  simp [htakes.idle, htakes.stopped, htakes.asked]

theorem chain_takes_seek {n : ℕ} (htakes : Takes inputs .seek n) :
    chainState inputs (n + 1) = ⟨.seek, 0⟩ := by
  rw [chainState_succ, seekResetFsmStep]
  simp [htakes.idle, htakes.stopped, htakes.asked]

/-- What follows a leg. -/
def SrState.next : SrState → SrState
  | .reset => .seek
  | _ => .idle

/-- A leg counts its steps, and the sixtieth ends it. -/
theorem seekResetFsmStep_leg (input : SeekResetIn) {leg : SrState} (hleg : leg ≠ .idle) {k : ℕ}
    (hk : k < 60) :
    (seekResetFsmStep input ⟨leg, k⟩).1 = if k < 59 then ⟨leg, k + 1⟩ else ⟨leg.next, 0⟩ := by
  have hcount : srElapsedNext ⟨leg, k⟩ = k + 1 := if_pos (show k < 0xFFFF by omega)
  have hends : (k + 1 ≥ srTicks) ↔ ¬ k < 59 := by
    unfold srTicks
    omega
  cases leg with
  | idle => exact absurd rfl hleg
  | reset =>
    show (srStepReset ⟨.reset, k⟩).1 = _
    simp only [srStepReset, hcount, hends, ite_not]
    split_ifs
    · rfl
    · rfl
  | seek =>
    show (srStepSeek ⟨.seek, k⟩).1 = _
    simp only [srStepSeek, hcount, hends, ite_not]
    split_ifs
    · rfl
    · rfl

/-- Sixty steps behind the one that enters a leg, the chain is where the leg ends. -/
theorem chain_leg {leg : SrState} (hleg : leg ≠ .idle) {entry : ℕ}
    (hentry : chainState inputs entry = ⟨leg, 0⟩) :
    (∀ k < 60, chainState inputs (entry + k) = ⟨leg, k⟩) ∧
      chainState inputs (entry + 60) = ⟨leg.next, 0⟩ := by
  have hcounts : ∀ k < 60, chainState inputs (entry + k) = ⟨leg, k⟩ := by
    intro k hk
    induction k with
    | zero => exact hentry
    | succ k ih =>
      rw [← Nat.add_assoc, chainState_succ, ih (by omega), seekResetFsmStep_leg _ hleg (by omega),
        if_pos (by omega)]
  refine ⟨hcounts, ?_⟩
  rw [chainState_succ inputs (entry + 59), hcounts 59 (by omega),
    seekResetFsmStep_leg _ hleg (by omega), if_neg (by omega)]

/-! ### Levels and edges -/

variable (inputs)

theorem chainOut_reset (n : ℕ) :
    (chainOut inputs n).resetSignal = decide ((chainState inputs (n + 1)).state = .reset) :=
  (seekResetFsmStep_signals _ _).1

theorem chainOut_seek (n : ℕ) :
    (chainOut inputs n).seekSignal = decide ((chainState inputs (n + 1)).state = .seek) :=
  (seekResetFsmStep_signals _ _).2

/-- What a level was before a step. -/
theorem chainLevel_before {leg : SrState} (hleg : leg ≠ .idle) {level : SeekResetOut → Bool}
    (hlevel : ∀ n, level (chainOut inputs n) = decide ((chainState inputs (n + 1)).state = leg))
    (n : ℕ) :
    sampleBefore (fun k ↦ level (chainOut inputs k)) n =
      decide ((chainState inputs n).state = leg) := by
  cases n with
  | zero => exact (decide_eq_false fun h ↦ hleg h.symm).symm
  | succ n => exact hlevel n

theorem chainReset_before (n : ℕ) :
    sampleBefore (fun k ↦ (chainOut inputs k).resetSignal) n =
      decide ((chainState inputs n).state = .reset) :=
  @chainLevel_before inputs .reset (by rintro ⟨⟩) SeekResetOut.resetSignal (chainOut_reset inputs) n

theorem chainSeek_before (n : ℕ) :
    sampleBefore (fun k ↦ (chainOut inputs k).seekSignal) n =
      decide ((chainState inputs n).state = .seek) :=
  @chainLevel_before inputs .seek (by rintro ⟨⟩) SeekResetOut.seekSignal (chainOut_seek inputs) n

/-- The icon edges are the edges of the levels. -/
structure EdgesOfLevels (out : ℕ → SeekResetOut) : Prop where
  resetOn : ∀ n, (out n).resetIcon = climbs (fun k ↦ (out k).resetSignal) n
  resetOff : ∀ n, (out n).resetIconOff = falls (fun k ↦ (out k).resetSignal) n
  seekOn : ∀ n, (out n).seekIcon = climbs (fun k ↦ (out k).seekSignal) n
  seekOff : ∀ n, (out n).seekIconOff = falls (fun k ↦ (out k).seekSignal) n

theorem chain_edges : EdgesOfLevels (chainOut inputs) := by
  constructor
  · intro n
    rw [climbs, chainReset_before, chainOut_reset]
    exact (seekResetFsmStep_icons _ _).1
  · intro n
    rw [falls, chainReset_before, chainOut_reset]
    exact (seekResetFsmStep_icons _ _).2.1
  · intro n
    rw [climbs, chainSeek_before, chainOut_seek]
    exact (seekResetFsmStep_icons _ _).2.2.1
  · intro n
    rw [falls, chainSeek_before, chainOut_seek]
    exact (seekResetFsmStep_icons _ _).2.2.2

/-- Assumes: the lines are off before the first step. Behind every step they have the levels. -/
theorem chainPins_levels {pins : Pins} (hreset : pins.resetLine = false)
    (hseek : pins.seekLine = false) (n : ℕ) :
    (chainPins inputs pins (n + 1)).resetLine = (chainOut inputs n).resetSignal ∧
      (chainPins inputs pins (n + 1)).seekLine = (chainOut inputs n).seekSignal := by
  have hedges := chain_edges inputs
  have hstep : ∀ on off last level before : Bool, on = (!before && level) →
      off = (before && !level) → last = before →
      (if off then false else if on then true else last) = level := by decide
  have hbefore : (chainPins inputs pins n).resetLine =
        sampleBefore (fun k ↦ (chainOut inputs k).resetSignal) n ∧
      (chainPins inputs pins n).seekLine =
        sampleBefore (fun k ↦ (chainOut inputs k).seekSignal) n := by
    induction n with
    | zero => exact ⟨hreset, hseek⟩
    | succ n ih =>
      exact ⟨hstep _ _ _ _ _ (hedges.resetOn n) (hedges.resetOff n) ih.1,
        hstep _ _ _ _ _ (hedges.seekOn n) (hedges.seekOff n) ih.2⟩
  exact ⟨hstep _ _ _ _ _ (hedges.resetOn n) (hedges.resetOff n) hbefore.1,
    hstep _ _ _ _ _ (hedges.seekOn n) (hedges.seekOff n) hbefore.2⟩

/-! ### The pulses -/

variable {inputs}

/-- Assumes: a leg is entered by a step that found the chain in another state. Its level is a pulse
of sixty steps. -/
theorem chain_pulse {leg : SrState} (hleg : leg ≠ .idle) {level : SeekResetOut → Bool}
    (hlevel : ∀ n, level (chainOut inputs n) = decide ((chainState inputs (n + 1)).state = leg))
    {n : ℕ} (hbefore : (chainState inputs n).state ≠ leg)
    (hentry : chainState inputs (n + 1) = ⟨leg, 0⟩) :
    Pulses (fun k ↦ level (chainOut inputs k)) n 60 := by
  obtain ⟨hcounts, hleft⟩ := chain_leg hleg hentry
  have hnext : leg.next ≠ leg := by
    cases leg with
    | idle => exact absurd rfl hleg
    | reset => rintro ⟨⟩
    | seek => rintro ⟨⟩
  refine ⟨fun k hk ↦ ?_, ?_, ?_⟩
  · rw [hlevel, show n + k + 1 = n + 1 + k by omega, hcounts k hk]
    exact decide_eq_true rfl
  · rw [chainLevel_before inputs hleg hlevel]
    exact decide_eq_false hbefore
  · rw [hlevel, show n + 60 + 1 = n + 1 + 60 by omega, hleft]
    exact decide_eq_false hnext

theorem chain_reset_pulse {n : ℕ} (hbefore : (chainState inputs n).state ≠ .reset)
    (hentry : chainState inputs (n + 1) = ⟨.reset, 0⟩) :
    Pulses (fun k ↦ (chainOut inputs k).resetSignal) n 60 :=
  @chain_pulse inputs .reset (by rintro ⟨⟩) SeekResetOut.resetSignal (chainOut_reset inputs) _
    hbefore hentry

theorem chain_seek_pulse {n : ℕ} (hbefore : (chainState inputs n).state ≠ .seek)
    (hentry : chainState inputs (n + 1) = ⟨.seek, 0⟩) :
    Pulses (fun k ↦ (chainOut inputs k).seekSignal) n 60 :=
  @chain_pulse inputs .seek (by rintro ⟨⟩) SeekResetOut.seekSignal (chainOut_seek inputs) _
    hbefore hentry

/-- A RESET that is taken: its sixty steps, the sixty steps of SEEK right behind them, and IDLE. -/
theorem chain_reset {n : ℕ} (htakes : Takes inputs .reset n) :
    Pulses (fun k ↦ (chainOut inputs k).resetSignal) n 60 ∧
      Pulses (fun k ↦ (chainOut inputs k).seekSignal) (n + 60) 60 ∧
      (chainState inputs (n + 121)).state = .idle := by
  have hentry := chain_takes_reset htakes
  obtain ⟨hleg, hchained⟩ := @chain_leg inputs .reset (by rintro ⟨⟩) _ hentry
  have hseek : chainState inputs (n + 60 + 1) = ⟨.seek, 0⟩ := by
    rw [show n + 60 + 1 = n + 1 + 60 by omega]
    exact hchained
  refine ⟨chain_reset_pulse (by simp [htakes.idle]) hentry, chain_seek_pulse ?_ hseek, ?_⟩
  · rw [show n + 60 = n + 1 + 59 by omega, hleg 59 (by omega)]
    decide
  · rw [show n + 121 = n + 60 + 1 + 60 by omega, (@chain_leg inputs .seek (by rintro ⟨⟩) _ hseek).2]
    rfl

/-- A SEEK that is taken: its sixty steps without RESET, and IDLE. -/
theorem chain_seek {n : ℕ} (htakes : Takes inputs .seek n) :
    Pulses (fun k ↦ (chainOut inputs k).seekSignal) n 60 ∧
      (∀ k ≤ 60, (chainOut inputs (n + k)).resetSignal = false) ∧
      (chainState inputs (n + 61)).state = .idle := by
  have hentry := chain_takes_seek htakes
  obtain ⟨hleg, hdone⟩ := @chain_leg inputs .seek (by rintro ⟨⟩) _ hentry
  refine ⟨chain_seek_pulse (by simp [htakes.idle]) hentry, fun k hk ↦ ?_, ?_⟩
  · rw [chainOut_reset, show n + k + 1 = n + 1 + k by omega]
    rcases Nat.lt_or_eq_of_le hk with hlt | rfl
    · rw [hleg k hlt]
      rfl
    · rw [hdone]
      rfl
  · rw [show n + 61 = n + 1 + 60 by omega, hdone]
    rfl

/-- The chain over any sequence of commands and published runs: what a command that is taken does,
that every other command is ignored, that the levels exclude each other, and that folding the icon
edges gives the levels behind every step, for a wire as for the two oscillator lines. -/
theorem signal_chain (inputs : ℕ → SeekResetIn) :
    (∀ n, Takes inputs .reset n →
      Pulses (fun k ↦ (chainOut inputs k).resetSignal) n 60 ∧
        Pulses (fun k ↦ (chainOut inputs k).seekSignal) (n + 60) 60 ∧
        (chainState inputs (n + 121)).state = .idle) ∧
    (∀ n, Takes inputs .seek n →
      Pulses (fun k ↦ (chainOut inputs k).seekSignal) n 60 ∧
        (∀ k ≤ 60, (chainOut inputs (n + k)).resetSignal = false) ∧
        (chainState inputs (n + 61)).state = .idle) ∧
    (∀ inputs', (∀ n, SameCommand (chainState inputs n) (inputs n) (inputs' n)) →
      ∀ n, chainOut inputs' n = chainOut inputs n) ∧
    (∀ n, ((chainOut inputs n).resetSignal && (chainOut inputs n).seekSignal) = false) ∧
    (∀ n, foldEdges (fun k ↦ (chainOut inputs k).resetIcon)
          (fun k ↦ (chainOut inputs k).resetIconOff) (n + 1) = (chainOut inputs n).resetSignal ∧
      foldEdges (fun k ↦ (chainOut inputs k).seekIcon)
          (fun k ↦ (chainOut inputs k).seekIconOff) (n + 1) = (chainOut inputs n).seekSignal) ∧
    (∀ pins : Pins, pins.resetLine = false → pins.seekLine = false → ∀ n,
      (chainPins inputs pins (n + 1)).resetLine = (chainOut inputs n).resetSignal ∧
        (chainPins inputs pins (n + 1)).seekLine = (chainOut inputs n).seekSignal) := by
  have hedges := chain_edges inputs
  refine ⟨fun n ↦ chain_reset, fun n ↦ chain_seek, ?_, ?_, ?_, ?_⟩
  · intro inputs' hsame n
    exact (mealy_agree (n := n + 1) seekResetFsmStep_ignores fun k _ ↦ hsame k).2 n
      (Nat.lt_succ_self n)
  · intro n
    rw [chainOut_reset, chainOut_seek]
    cases (chainState inputs (n + 1)).state <;> rfl
  · intro n
    exact ⟨foldEdges_level hedges.resetOn hedges.resetOff n,
      foldEdges_level hedges.seekOn hedges.seekOff n⟩
  · intro pins hreset hseek n
    exact chainPins_levels inputs hreset hseek n

end Run

end UsCtrl
