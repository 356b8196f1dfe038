import Mathlib.Data.List.Basic
import Mathlib.Tactic.Common

/-!
# Cells that are sampled and copied once a round

A machine goes round a fixed number of phases. In one of them it samples a value into a buffer, in a
later one it copies the buffer to a cell that others see (`Round`, `CopyCell.step`). What is seen is
the newest sample, or the one before it while the newest has been taken and not yet been copied
(`CopyCell.Shows`, kept by every step: `CopyCell.Shows.step`).
-/

set_option autoImplicit false
set_option relaxedAutoImplicit false

namespace UsCtrl.Foundation

/-- The number of phases of a round, the phase that samples and the phase that copies. -/
structure Round where
  period : ℕ
  sample : ℕ
  copy : ℕ
  sample_lt_copy : sample < copy
  copy_lt_period : copy < period

/-- The phase behind a phase. -/
def Round.next (round : Round) (phase : ℕ) : ℕ :=
  if phase + 1 < round.period then phase + 1 else 0

theorem Round.next_lt {round : Round} {phase : ℕ} (hphase : phase < round.period) :
    round.next phase < round.period := by
  unfold Round.next
  split_ifs with hlast
  · exact hlast
  · exact Nat.zero_lt_of_lt hphase

/-- A phase, the buffer and the cell. -/
structure CopyCell (Value : Type*) where
  phase : ℕ
  buffer : Value
  seen : Value

namespace CopyCell

variable {Value : Type*} (round : Round)

/-- One step, with the value that a sampling phase takes. -/
def step (fresh : Value) (cell : CopyCell Value) : CopyCell Value where
  phase := round.next cell.phase
  buffer := if cell.phase = round.sample then fresh else cell.buffer
  seen := if cell.phase = round.copy then cell.buffer else cell.seen

/-- The samples after a step, newest first. -/
def samples (fresh : Value) (cell : CopyCell Value) (taken : List Value) : List Value :=
  if cell.phase = round.sample then fresh :: taken else taken

/-- The newest sample has been taken and not yet been copied. -/
def Pending (phase : ℕ) : Prop := round.sample < phase ∧ phase ≤ round.copy

instance (phase : ℕ) : Decidable (Pending round phase) :=
  inferInstanceAs (Decidable (round.sample < phase ∧ phase ≤ round.copy))

/-- The samples that have been copied. -/
def copied (phase : ℕ) (taken : List Value) : List Value :=
  if Pending round phase then taken.tail else taken

/-- The buffer holds the newest sample, and the cell the newest one that has been copied. Before the
first sample the round has not passed its sampling phase. -/
structure Shows (start : Value) (taken : List Value) (cell : CopyCell Value) : Prop where
  inside : cell.phase < round.period
  early : taken = [] → cell.phase ≤ round.sample
  buffer : ∀ newest ∈ taken.head?, cell.buffer = newest
  seen : cell.seen = ((copied round cell.phase taken).head?).getD start

variable {round} {start fresh : Value} {taken : List Value} {cell : CopyCell Value}

/-- Every step keeps it. -/
theorem Shows.step (h : Shows round start taken cell) :
    Shows round start (samples round fresh cell taken) (step round fresh cell) := by
  have horder := round.sample_lt_copy
  have hinside := round.copy_lt_period
  refine ⟨Round.next_lt h.inside, ?_, ?_, ?_⟩
  · intro hempty
    unfold samples at hempty
    split_ifs at hempty with hsample
    have hphase := h.early hempty
    show round.next cell.phase ≤ round.sample
    unfold Round.next
    split_ifs <;> omega
  · intro newest hnewest
    unfold samples at hnewest
    show (if cell.phase = round.sample then fresh else cell.buffer) = newest
    split_ifs at hnewest ⊢ with hsample
    · exact Option.some.inj hnewest
    · exact h.buffer newest hnewest
  · show (if cell.phase = round.copy then cell.buffer else cell.seen) =
      ((copied round (round.next cell.phase) (samples round fresh cell taken)).head?).getD start
    by_cases hcopy : cell.phase = round.copy
    · -- the newest sample is copied, and there is one
      have hsome : taken ≠ [] := fun hempty ↦ by
        have hphase := h.early hempty
        omega
      obtain ⟨newest, older, rfl⟩ := List.exists_cons_of_ne_nil hsome
      have hdone : ¬ Pending round (round.next cell.phase) := by
        unfold Pending Round.next
        split_ifs <;> omega
      have hkept : samples round fresh cell (newest :: older) = newest :: older :=
        if_neg (by omega)
      rw [if_pos hcopy, copied, if_neg hdone, hkept, h.buffer newest rfl]
      rfl
    · rw [if_neg hcopy, h.seen]
      by_cases hsample : cell.phase = round.sample
      · -- a new sample is taken, and the copied ones stay
        have hbefore : ¬ Pending round cell.phase := fun hpending ↦ by
          have hlt := hpending.1
          omega
        have hafter : Pending round (round.next cell.phase) := by
          unfold Pending Round.next
          split_ifs <;> omega
        rw [copied, if_neg hbefore, copied, if_pos hafter, samples, if_pos hsample]
        rfl
      · have hsame : Pending round (round.next cell.phase) ↔ Pending round cell.phase := by
          have hphase := h.inside
          unfold Pending Round.next
          split_ifs <;> omega
        rw [samples, if_neg hsample, copied, copied]
        simp only [hsame]

end CopyCell

end UsCtrl.Foundation
