import UsCtrl.Foundation.Halfway
import UsCtrl.Commanded
import UsCtrl.CurrentPower
import Mathlib.Algebra.BigOperators.Group.List.Basic

/-!
# The current filter

`reg_acquire_step` averages fifty samples of the current channel and takes the average through an
exponential filter, a fixed-point number with four binary places. The words of C make it unsigned,
the difference to the new average signed, and half of that truncated towards zero.

`ema_bounds` says, for every sequence of 12-bit samples, what each committed average does to the
filter: the difference is exact, the filter stays in range and between its old value and the
average, and the average shown is its whole part. Towards a constant input its distance never grows
and gets below one count. `run_filter` finds this filter in the regulation core of every run.
-/

set_option autoImplicit false
set_option relaxedAutoImplicit false

namespace UsCtrl

open Foundation

/-! ### The words of the filter -/

/-- The variables of the ch1 half of `reg_acquire_step`, with their widths. -/
structure Ch1Vars where
  acc : UInt32
  cnt : UInt16
  filtX16 : UInt32
  avg : UInt16
  deriving DecidableEq, Repr

/-- `CH1_SAMPLES`. -/
def ch1SampleCount : ℕ := 50

/-- The average of a full window, six times the mean of its samples. -/
def ch1Average (acc : UInt32) : UInt32 := acc * 6 / 50

/-- The signed difference `d` between the average and the filter. -/
def emaDelta (avg filtX16 : UInt32) : Int32 := (avg <<< 4).toInt32 - filtX16.toInt32

/-- The filter behind a committed average. -/
def emaCommit (avg filtX16 : UInt32) : UInt32 :=
  (filtX16.toInt32 + emaDelta avg filtX16 / 2).toUInt32

/-- The ch1 half of `reg_acquire_step`, in the words of C. -/
def regAcquireStepCh1 (s1 : UInt16) (vars : Ch1Vars) : Ch1Vars :=
  let acc := vars.acc + s1.toUInt32
  let cnt := vars.cnt + 1
  if cnt ≥ 50 then
    let filt := emaCommit (ch1Average acc) vars.filtX16
    ⟨0, 0, filt, (filt >>> 4).toUInt16⟩
  else ⟨acc, cnt, vars.filtX16, vars.avg⟩

/-- The filter from power-up on. -/
def ch1Machine : Machine Ch1Vars UInt16 where
  start := ⟨0, 0, 0, 0⟩
  exec := regAcquireStepCh1

/-- The variables behind a sequence of samples, newest first. -/
abbrev ch1After (samples : List UInt16) : Ch1Vars := ch1Machine.after samples

theorem ch1After_cons (sample : UInt16) (past : List UInt16) :
    ch1After (sample :: past) = regAcquireStepCh1 sample (ch1After past) := rfl

/-- The samples have twelve bits. -/
def TwelveBit (samples : List UInt16) : Prop := ∀ sample ∈ samples, sample.toNat < 4096

instance (samples : List UInt16) : Decidable (TwelveBit samples) :=
  inferInstanceAs (Decidable (∀ sample ∈ samples, sample.toNat < 4096))

/-! ### Signed words -/

/-- Words below the sign bit are read alike. -/
theorem int32_toInt_of_lt {word : UInt32} (hsmall : word.toNat < 2 ^ 31) :
    word.toInt32.toInt = word.toNat := by
  show word.toBitVec.toInt = _
  rw [BitVec.toInt_eq_toNat_of_lt]
  · rfl
  · show 2 * word.toNat < 2 ^ 32
    omega

theorem int32_toNat_of_nonneg {word : Int32} (hnonneg : 0 ≤ word.toInt) :
    (word.toUInt32.toNat : ℤ) = word.toInt := by
  have hword := Int32.toNat_toUInt32_of_le (Int32.le_iff_toInt_le.mpr hnonneg)
  rw [hword]
  exact Int.toNat_of_nonneg hnonneg

theorem int32_sub_exact {left right : Int32} (hlow : -2 ^ 31 ≤ left.toInt - right.toInt)
    (hhigh : left.toInt - right.toInt < 2 ^ 31) :
    (left - right).toInt = left.toInt - right.toInt := by
  rw [Int32.toInt_sub]
  exact Int.bmod_eq_of_le (by omega) (by omega)

theorem int32_add_exact {left right : Int32} (hlow : -2 ^ 31 ≤ left.toInt + right.toInt)
    (hhigh : left.toInt + right.toInt < 2 ^ 31) :
    (left + right).toInt = left.toInt + right.toInt := by
  rw [Int32.toInt_add]
  exact Int.bmod_eq_of_le (by omega) (by omega)

section Ema

variable {avg filtX16 : UInt32} (havg : avg.toNat ≤ ch1Max)
  (hfilt : filtX16.toNat ≤ 16 * ch1Max)
include havg

theorem toNat_shifted : (avg <<< 4).toNat = 16 * avg.toNat := by
  unfold ch1Max at havg
  rw [UInt32.toNat_shiftLeft]
  show avg.toNat <<< 4 % 2 ^ 32 = _
  rw [Nat.shiftLeft_eq]
  omega

include hfilt

/-- The difference is exact. -/
theorem emaDelta_toInt : (emaDelta avg filtX16).toInt = 16 * avg.toNat - filtX16.toNat := by
  have hshifted := toNat_shifted havg
  unfold ch1Max at havg hfilt
  have htarget : (avg <<< 4).toInt32.toInt = 16 * avg.toNat := by
    rw [int32_toInt_of_lt (by omega), hshifted]
    rfl
  have hvalue : filtX16.toInt32.toInt = filtX16.toNat := int32_toInt_of_lt (by omega)
  rw [emaDelta, int32_sub_exact (by omega) (by omega), htarget, hvalue]

/-- The filter goes half of the way to the average. -/
theorem emaCommit_toNat :
    ((emaCommit avg filtX16).toNat : ℤ) = halfway (16 * avg.toNat) filtX16.toNat := by
  have hdelta := emaDelta_toInt havg hfilt
  have hbetween := halfway_between (16 * avg.toNat) filtX16.toNat
  unfold ch1Max at havg hfilt
  have hvalue : filtX16.toInt32.toInt = filtX16.toNat := int32_toInt_of_lt (by omega)
  have hhalf : (emaDelta avg filtX16 / 2).toInt =
      (16 * (avg.toNat : ℤ) - filtX16.toNat).tdiv 2 := by
    rw [Int32.toInt_div_of_ne_right _ _ (by decide), hdelta]
    rfl
  have hsum : filtX16.toInt32.toInt + (emaDelta avg filtX16 / 2).toInt =
      halfway (16 * avg.toNat) filtX16.toNat := by
    rw [hvalue, hhalf]
    rfl
  have hadded : (filtX16.toInt32 + emaDelta avg filtX16 / 2).toInt =
      halfway (16 * avg.toNat) filtX16.toNat := by
    rw [int32_add_exact (by omega) (by omega), hsum]
  rw [emaCommit, int32_toNat_of_nonneg (by omega), hadded]

end Ema

/-! ### Samples -/

section Step

variable {s1 : UInt16} {vars : Ch1Vars}

/-- The variables in range, the value shown being the whole part of the filter. -/
structure Ch1Bounded (vars : Ch1Vars) : Prop where
  cnt : vars.cnt.toNat < ch1SampleCount
  acc : vars.acc.toNat ≤ 4095 * vars.cnt.toNat
  filt : vars.filtX16.toNat ≤ 16 * ch1Max
  shown : vars.avg.toNat = vars.filtX16.toNat / 16

theorem Ch1Bounded.cnt_next (hbounded : Ch1Bounded vars) :
    (vars.cnt + 1).toNat = vars.cnt.toNat + 1 := by
  have hcnt := hbounded.cnt
  unfold ch1SampleCount at hcnt
  rw [UInt16.toNat_add]
  show (vars.cnt.toNat + 1) % 2 ^ 16 = _
  omega

theorem Ch1Bounded.acc_next (hbounded : Ch1Bounded vars) (hs1 : s1.toNat < 4096) :
    (vars.acc + s1.toUInt32).toNat = vars.acc.toNat + s1.toNat := by
  have hcnt := hbounded.cnt
  have hacc := hbounded.acc
  unfold ch1SampleCount at hcnt
  rw [UInt32.toNat_add, UInt16.toNat_toUInt32]
  omega

/-- A sample in an open window is gathered. -/
theorem Ch1Bounded.gather (hbounded : Ch1Bounded vars)
    (hopen : vars.cnt.toNat + 1 < ch1SampleCount) : regAcquireStepCh1 s1 vars =
      ⟨vars.acc + s1.toUInt32, vars.cnt + 1, vars.filtX16, vars.avg⟩ := by
  unfold regAcquireStepCh1
  dsimp only
  rw [if_neg]
  rw [ge_iff_le, UInt16.le_iff_toNat_le, hbounded.cnt_next]
  exact not_le.mpr hopen

/-- The sample that fills the window commits its average. -/
theorem Ch1Bounded.commit (hbounded : Ch1Bounded vars)
    (hfull : vars.cnt.toNat + 1 = ch1SampleCount) :
    regAcquireStepCh1 s1 vars =
      ⟨0, 0, emaCommit (ch1Average (vars.acc + s1.toUInt32)) vars.filtX16,
        (emaCommit (ch1Average (vars.acc + s1.toUInt32)) vars.filtX16 >>> 4).toUInt16⟩ := by
  unfold regAcquireStepCh1
  dsimp only
  rw [if_pos]
  rw [ge_iff_le, UInt16.le_iff_toNat_le, hbounded.cnt_next, hfull]
  rfl

/-- The average of a full window does not wrap. -/
theorem Ch1Bounded.average (hbounded : Ch1Bounded vars) (hs1 : s1.toNat < 4096) :
    (ch1Average (vars.acc + s1.toUInt32)).toNat = 6 * (vars.acc.toNat + s1.toNat) / 50 ∧
      (ch1Average (vars.acc + s1.toUInt32)).toNat ≤ ch1Max := by
  have hcnt := hbounded.cnt
  have hacc := hbounded.acc
  unfold ch1SampleCount at hcnt
  have haverage : (ch1Average (vars.acc + s1.toUInt32)).toNat =
      6 * (vars.acc.toNat + s1.toNat) / 50 := by
    rw [ch1Average, UInt32.toNat_div, UInt32.toNat_mul, hbounded.acc_next hs1]
    show (vars.acc.toNat + s1.toNat) * 6 % 2 ^ 32 / 50 = _
    omega
  refine ⟨haverage, ?_⟩
  unfold ch1Max
  omega

theorem ch1Bounded_step (hbounded : Ch1Bounded vars) (hs1 : s1.toNat < 4096) :
    Ch1Bounded (regAcquireStepCh1 s1 vars) := by
  rcases Nat.lt_or_eq_of_le (Nat.succ_le_of_lt hbounded.cnt) with hopen | hfull
  · rw [hbounded.gather hopen]
    have hcnt := hbounded.cnt_next
    have hacc := hbounded.acc_next hs1
    have hgathered := hbounded.acc
    refine ⟨?_, ?_, hbounded.filt, hbounded.shown⟩
    · dsimp only
      rw [hcnt]
      exact hopen
    · dsimp only
      omega
  · rw [hbounded.commit hfull]
    obtain ⟨-, haverage⟩ := hbounded.average hs1
    have hfilt := hbounded.filt
    have hcommit := emaCommit_toNat haverage hfilt
    have hbetween := halfway_between (16 * (ch1Average (vars.acc + s1.toUInt32)).toNat)
      vars.filtX16.toNat
    generalize emaCommit (ch1Average (vars.acc + s1.toUInt32)) vars.filtX16 = filt at hcommit ⊢
    have hrange : filt.toNat ≤ 16 * ch1Max := by omega
    refine ⟨Nat.zero_lt_succ 49, le_rfl, hrange, ?_⟩
    show (filt >>> 4).toUInt16.toNat = filt.toNat / 16
    unfold ch1Max at hrange
    rw [UInt32.toNat_toUInt16, UInt32.toNat_shiftRight]
    show filt.toNat >>> 4 % 2 ^ 16 = _
    rw [Nat.shiftRight_eq_div_pow]
    omega

end Step

/-- The variables stay in range under every sequence of 12-bit samples. -/
theorem ch1Bounded_after {samples : List UInt16} (hadc : TwelveBit samples) :
    Ch1Bounded (ch1After samples) := by
  induction samples with
  | nil => exact ⟨Nat.zero_lt_succ 49, le_rfl, Nat.zero_le _, rfl⟩
  | cons sample past ih =>
    exact ch1Bounded_step (ih fun older hmem ↦ hadc older (List.mem_cons_of_mem sample hmem))
      (hadc sample List.mem_cons_self)

/-! ### Averages -/

/-- The sum of samples. -/
def sampleSum (samples : List UInt16) : ℕ := (samples.map UInt16.toNat).sum

/-- Six times the mean of the fifty newest samples, rounded down. -/
def windowAverage (samples : List UInt16) : ℕ :=
  6 * sampleSum (samples.take ch1SampleCount) / ch1SampleCount

/-- The window holds the samples since the last multiple of fifty. -/
theorem window_after {samples : List UInt16} (hadc : TwelveBit samples) :
    (ch1After samples).cnt.toNat = samples.length % ch1SampleCount ∧
      (ch1After samples).acc.toNat =
        sampleSum (samples.take (samples.length % ch1SampleCount)) := by
  induction samples with
  | nil => exact ⟨rfl, rfl⟩
  | cons sample past ih =>
    have hpast : TwelveBit past := fun older hmem ↦ hadc older (List.mem_cons_of_mem sample hmem)
    have hs1 := hadc sample List.mem_cons_self
    have hbounded := ch1Bounded_after hpast
    obtain ⟨hcnt, hacc⟩ := ih hpast
    rw [List.length_cons, ch1After_cons]
    rcases Nat.lt_or_eq_of_le (Nat.succ_le_of_lt hbounded.cnt) with hopen | hfull
    · have hnext : (past.length + 1) % ch1SampleCount = past.length % ch1SampleCount + 1 := by
        unfold ch1SampleCount at hopen hcnt ⊢
        omega
      rw [hbounded.gather hopen, hnext, List.take_succ_cons]
      refine ⟨hbounded.cnt_next.trans (congrArg Nat.succ hcnt),
        (hbounded.acc_next hs1).trans ?_⟩
      rw [hacc, Nat.add_comm]
      rfl
    · have hnext : (past.length + 1) % ch1SampleCount = 0 := by
        unfold ch1SampleCount at hfull hcnt ⊢
        omega
      rw [hbounded.commit hfull, hnext]
      exact ⟨rfl, rfl⟩

/-- What an average commits: the difference is the exact one and has less than 31 bits, the filter
stays in range and between its old value and the average, and what is shown is its whole part. -/
structure EmaCommit (average : ℕ) (before after : Ch1Vars) : Prop where
  exact : ∃ avg : UInt32, avg.toNat = average ∧ after.filtX16 = emaCommit avg before.filtX16 ∧
    (emaDelta avg before.filtX16).toInt = 16 * (average : ℤ) - before.filtX16.toNat
  width : -2 ^ 30 ≤ 16 * (average : ℤ) - before.filtX16.toNat ∧
    16 * (average : ℤ) - before.filtX16.toNat < 2 ^ 30
  range : after.filtX16.toNat ≤ 16 * ch1Max
  between : min before.filtX16.toNat (16 * average) ≤ after.filtX16.toNat ∧
    after.filtX16.toNat ≤ max before.filtX16.toNat (16 * average)
  shown : after.avg.toNat = after.filtX16.toNat / 16

/-- Every fiftieth sample commits the average of the fifty newest. -/
theorem ch1_commit {sample : UInt16} {past : List UInt16} (hadc : TwelveBit (sample :: past))
    (hfull : ch1SampleCount ∣ (sample :: past).length) :
    EmaCommit (windowAverage (sample :: past)) (ch1After past) (ch1After (sample :: past)) := by
  have hpast : TwelveBit past := fun older hmem ↦ hadc older (List.mem_cons_of_mem sample hmem)
  have hs1 := hadc sample List.mem_cons_self
  have hbounded := ch1Bounded_after hpast
  have hafter := ch1Bounded_after hadc
  obtain ⟨hcnt, hacc⟩ := window_after hpast
  have hlast : past.length % ch1SampleCount = 49 := by
    rw [List.length_cons] at hfull
    unfold ch1SampleCount at hfull ⊢
    omega
  rw [hlast] at hcnt hacc
  obtain ⟨hword, hrange⟩ := hbounded.average hs1
  have haverage : (ch1Average ((ch1After past).acc + sample.toUInt32)).toNat =
      windowAverage (sample :: past) := by
    rw [hword, hacc, Nat.add_comm]
    rfl
  have hstep : (ch1After (sample :: past)).filtX16 =
      emaCommit (ch1Average ((ch1After past).acc + sample.toUInt32)) (ch1After past).filtX16 :=
    congrArg Ch1Vars.filtX16 (hbounded.commit (congrArg Nat.succ hcnt))
  have hdelta := emaDelta_toInt hrange hbounded.filt
  have hcommit := emaCommit_toNat hrange hbounded.filt
  rw [← hstep, haverage] at hcommit
  have hbetween := halfway_between (16 * (windowAverage (sample :: past) : ℤ))
    (ch1After past).filtX16.toNat
  have hfilt := hbounded.filt
  rw [haverage] at hrange hdelta
  refine ⟨⟨_, haverage, hstep, hdelta⟩, ?_, hafter.filt, ?_, hafter.shown⟩
  · unfold ch1Max at hrange hfilt
    omega
  · omega

/-! ### Constant input -/

/-- How far the filter is from where a constant input takes it, in sixteenths. -/
def emaDistance (value : UInt16) (vars : Ch1Vars) : ℕ :=
  distance (16 * (6 * value.toNat : ℕ)) vars.filtX16.toNat

theorem twelveBit_replicate {value : UInt16} {samples : List UInt16} (hvalue : value.toNat < 4096)
    (hadc : TwelveBit samples) (count : ℕ) : TwelveBit (List.replicate count value ++ samples) := by
  intro sample hmem
  rcases List.mem_append.mp hmem with hnew | hold
  · rw [List.eq_of_mem_replicate hnew]
    exact hvalue
  · exact hadc sample hold

section Constant

variable {value : UInt16} {samples : List UInt16} (hvalue : value.toNat < 4096)
  (hadc : TwelveBit samples)
  (hwindow : (ch1After samples).acc.toNat = (ch1After samples).cnt.toNat * value.toNat)
include hvalue hadc hwindow

/-- Assumes: the window holds what the constant input would have put there. The window goes on to do
so, and every full one takes the filter half of the way. -/
theorem constant_after (count : ℕ) :
    let before := ch1After samples
    let after := ch1After (List.replicate count value ++ samples)
    after.acc.toNat = after.cnt.toNat * value.toNat ∧
      after.cnt.toNat = (before.cnt.toNat + count) % ch1SampleCount ∧
      (after.filtX16.toNat : ℤ) =
        (halfway (16 * (6 * value.toNat : ℕ)))^[(before.cnt.toNat + count) / ch1SampleCount]
          before.filtX16.toNat := by
  dsimp only
  have hstart := (ch1Bounded_after hadc).cnt
  induction count with
  | zero =>
    refine ⟨hwindow, (Nat.mod_eq_of_lt hstart).symm, ?_⟩
    rw [Nat.add_zero, Nat.div_eq_of_lt hstart]
    rfl
  | succ count ih =>
    obtain ⟨hacc, hcnt, hfilt⟩ := ih
    have hbounded := ch1Bounded_after (twelveBit_replicate hvalue hadc count)
    rw [List.replicate_succ, List.cons_append, ch1After_cons, ← Nat.add_assoc]
    generalize ch1After (List.replicate count value ++ samples) = vars at hacc hcnt hfilt hbounded ⊢
    rcases Nat.lt_or_eq_of_le (Nat.succ_le_of_lt hbounded.cnt) with hopen | hfull
    · rw [hbounded.gather hopen]
      refine ⟨?_, ?_, ?_⟩
      · dsimp only
        rw [hbounded.acc_next hvalue, hbounded.cnt_next, hacc, Nat.add_mul, Nat.one_mul]
      · dsimp only
        rw [hbounded.cnt_next]
        unfold ch1SampleCount at hopen hcnt ⊢
        omega
      · dsimp only
        have hsame : ((ch1After samples).cnt.toNat + count + 1) / ch1SampleCount =
            ((ch1After samples).cnt.toNat + count) / ch1SampleCount := by
          unfold ch1SampleCount at hopen hcnt ⊢
          omega
        rw [hfilt, hsame]
    · obtain ⟨haverage, hrange⟩ := hbounded.average hvalue
      have hcommit := emaCommit_toNat hrange hbounded.filt
      have hconstant : (ch1Average (vars.acc + value.toUInt32)).toNat = 6 * value.toNat := by
        rw [haverage, hacc]
        unfold ch1SampleCount at hfull
        have hcount : vars.cnt.toNat = 49 := by omega
        rw [hcount]
        omega
      have hnext : ((ch1After samples).cnt.toNat + count + 1) / ch1SampleCount =
          ((ch1After samples).cnt.toNat + count) / ch1SampleCount + 1 := by
        unfold ch1SampleCount at hfull hcnt ⊢
        omega
      rw [hbounded.commit hfull]
      refine ⟨(Nat.zero_mul _).symm, ?_, ?_⟩
      · show 0 = _
        unfold ch1SampleCount at hfull hcnt ⊢
        omega
      · dsimp only
        rw [hcommit, hconstant, hfilt, hnext, Function.iterate_succ_apply']

/-- Towards a constant input the distance never grows. -/
theorem constant_antitone : Antitone fun count ↦
    emaDistance value (ch1After (List.replicate count value ++ samples)) := by
  intro count later hlater
  have hbefore := (constant_after hvalue hadc hwindow count).2.2
  have hafter := (constant_after hvalue hadc hwindow later).2.2
  dsimp only [emaDistance] at hbefore hafter ⊢
  rw [hbefore, hafter]
  exact antitone_distance _ _ (Nat.div_le_div_right (Nat.add_le_add_left hlater _))

/-- Fifteen averages take it below one count. -/
theorem constant_close {count : ℕ}
    (hcount : 15 * ch1SampleCount ≤ (ch1After samples).cnt.toNat + count) :
    emaDistance value (ch1After (List.replicate count value ++ samples)) < 16 := by
  have hafter := (constant_after hvalue hadc hwindow count).2.2
  have hfilt := (ch1Bounded_after hadc).filt
  have hsteps : 15 ≤ ((ch1After samples).cnt.toNat + count) / ch1SampleCount :=
    (Nat.le_div_iff_mul_le (Nat.zero_lt_succ 49)).mpr hcount
  have hcloser := antitone_distance (16 * (6 * value.toNat : ℕ)) (ch1After samples).filtX16.toNat
    hsteps
  have hfifteen := distance_iterate (16 * (6 * value.toNat : ℕ)) (ch1After samples).filtX16.toNat 15
  dsimp only [emaDistance] at hafter hcloser ⊢
  rw [hafter]
  refine hcloser.trans_lt ?_
  rw [hfifteen]
  unfold ch1Max at hfilt
  have hfar : distance (16 * (6 * value.toNat : ℕ)) (ch1After samples).filtX16.toNat ≤
      16 * 24570 := by
    unfold distance
    omega
  omega

end Constant

/-- For every sequence of 12-bit samples: every fiftieth commits the average of the fifty newest, in
exact arithmetic and within the range of the filter. Towards a constant input the distance never
grows from where the window holds nothing else, and 800 samples take it below one count whatever the
window holds. -/
theorem ema_bounds {samples : List UInt16} (hadc : TwelveBit samples) :
    (∀ sample past, samples = sample :: past → ch1SampleCount ∣ samples.length →
      EmaCommit (windowAverage samples) (ch1After past) (ch1After samples)) ∧
    ∀ value : UInt16, value.toNat < 4096 →
      ((ch1After samples).acc.toNat = (ch1After samples).cnt.toNat * value.toNat →
        Antitone fun count ↦
          emaDistance value (ch1After (List.replicate count value ++ samples))) ∧
      ∀ count ≥ 800,
        emaDistance value (ch1After (List.replicate count value ++ samples)) < 16 := by
  refine ⟨?_, fun value hvalue ↦ ⟨constant_antitone hvalue hadc, fun count hcount ↦ ?_⟩⟩
  · rintro sample past rfl hfull
    exact ch1_commit hadc hfull
  · -- The samples that fill the window leave an empty one, which holds any constant.
    obtain ⟨hcnt, -⟩ := window_after hadc
    have hwindow := (ch1Bounded_after hadc).cnt
    obtain ⟨fill, rest, hsplit, hfill, hrest⟩ : ∃ fill rest, count = rest + fill ∧
        (samples.length + fill) % ch1SampleCount = 0 ∧ 15 * ch1SampleCount ≤ rest := by
      unfold ch1SampleCount at hcnt hwindow ⊢
      refine ⟨50 - samples.length % 50, count - (50 - samples.length % 50), ?_, ?_, ?_⟩ <;> omega
    have hfilled := twelveBit_replicate hvalue hadc fill
    obtain ⟨hempty, hnone⟩ := window_after hfilled
    rw [List.length_append, List.length_replicate, Nat.add_comm fill, hfill] at hempty hnone
    rw [hsplit, List.replicate_add, List.append_assoc]
    refine constant_close hvalue hfilled ?_ (hrest.trans (Nat.le_add_left _ _))
    rw [hempty, Nat.zero_mul]
    exact hnone

/-- A full window of the largest sample takes the filter half of the way up, and 800 smaller samples
take it back down. -/
theorem fullScale_bounds :
    EmaCommit 24570 (ch1After (List.replicate 49 4095)) (ch1After (List.replicate 50 4095)) ∧
      emaDistance 100 (ch1After (List.replicate 800 100 ++ List.replicate 50 4095)) < 16 := by
  have hadc : TwelveBit (List.replicate 50 4095) := by
    rw [← List.append_nil (List.replicate 50 4095)]
    exact twelveBit_replicate (by decide) (fun _ hmem ↦ absurd hmem List.not_mem_nil) 50
  have hbounds := ema_bounds hadc
  have haverage : windowAverage (List.replicate 50 4095) = 24570 := by decide
  refine ⟨?_, (hbounds.2 100 (by decide)).2 800 le_rfl⟩
  rw [← haverage]
  exact hbounds.1 4095 (List.replicate 49 4095) rfl (by decide)

/-! ### The filter of a run -/

/-- The part of the regulation core that filters the current. -/
def RegState.filterPart (reg : RegState) : ℕ × ℕ × ℕ × ℕ :=
  (reg.ch1Acc, reg.ch1Cnt, reg.ch1FiltX16, reg.ch1Avg)

/-- The variables as the regulation core has them. -/
def Ch1Vars.filterPart (vars : Ch1Vars) : ℕ × ℕ × ℕ × ℕ :=
  (vars.acc.toNat, vars.cnt.toNat, vars.filtX16.toNat, vars.avg.toNat)

theorem regAcquireCh1_filterPart (sample : ℕ) {reg reg' : RegState}
    (hpart : reg'.filterPart = reg.filterPart) :
    (regAcquireCh1 sample reg').filterPart = (regAcquireCh1 sample reg).filterPart := by
  simp only [RegState.filterPart, Prod.mk.injEq] at hpart
  obtain ⟨hacc, hcnt, hfilt, havg⟩ := hpart
  unfold regAcquireCh1
  rw [hacc, hcnt, hfilt]
  split_ifs
  · rfl
  · simp only [RegState.filterPart, havg]

/-- The core takes a sample as the words do. -/
theorem regAcquireCh1_words {s1 : UInt16} {vars : Ch1Vars} {reg : RegState}
    (hbounded : Ch1Bounded vars) (hs1 : s1.toNat < 4096)
    (hpart : reg.filterPart = vars.filterPart) :
    (regAcquireCh1 s1.toNat reg).filterPart = (regAcquireStepCh1 s1 vars).filterPart := by
  have hnext := ch1Bounded_step hbounded hs1
  simp only [RegState.filterPart, Ch1Vars.filterPart, Prod.mk.injEq] at hpart
  obtain ⟨hacc, hcnt, hfilt, havg⟩ := hpart
  unfold regAcquireCh1
  dsimp only
  rw [hacc, hcnt, hfilt]
  rcases Nat.lt_or_eq_of_le (Nat.succ_le_of_lt hbounded.cnt) with hopen | hfull
  · have hstays : ¬ vars.cnt.toNat + 1 ≥ 50 := not_le.mpr hopen
    rw [if_neg hstays, hbounded.gather hopen]
    simp only [RegState.filterPart, Ch1Vars.filterPart, havg, hbounded.cnt_next,
      hbounded.acc_next hs1]
  · obtain ⟨haverage, hrange⟩ := hbounded.average hs1
    have hcommit := emaCommit_toNat hrange hbounded.filt
    have htarget : (16 * ((6 * (vars.acc.toNat + s1.toNat) / 50 : ℕ) : ℤ)) =
        ((vars.acc.toNat + s1.toNat) * 6 / 50 * 16 : ℕ) := by
      omega
    rw [haverage, htarget] at hcommit
    have hvalue : ((vars.filtX16.toNat : ℤ) + (((vars.acc.toNat + s1.toNat) * 6 / 50 * 16 : ℕ) -
        (vars.filtX16.toNat : ℤ)).tdiv 2).toNat =
          (emaCommit (ch1Average (vars.acc + s1.toUInt32)) vars.filtX16).toNat :=
      (congrArg Int.toNat hcommit.symm).trans (Int.toNat_natCast _)
    have hdue : vars.cnt.toNat + 1 ≥ 50 := hfull.ge
    rw [if_pos hdue, hvalue]
    rw [hbounded.commit hfull] at hnext ⊢
    have hshown := hnext.shown
    have hfit := hnext.filt
    dsimp only at hshown hfit
    simp only [RegState.filterPart, Ch1Vars.filterPart, hshown]
    unfold ch1Max at hfit
    rw [Nat.mod_eq_of_lt (by omega)]
    rfl

theorem Commanded.filterPart {s s' : Sys} (h : Commanded s s') :
    s'.reg.filterPart = s.reg.filterPart ∧ s'.reg.prevAcqMs = s.reg.prevAcqMs := by
  induction h with
  | refl => exact ⟨rfl, rfl⟩
  | @tail mid last _ hmove ih =>
    have hkept : last.reg.filterPart = mid.reg.filterPart ∧
        last.reg.prevAcqMs = mid.reg.prevAcqMs := by
      cases hmove with
      | aside hreg _ _ => exact ⟨congrArg _ hreg, congrArg _ hreg⟩
      | command cmd src now =>
        cases cmd with
        | start =>
          unfold appRegCommand startCommand
          split_ifs <;> exact ⟨rfl, rfl⟩
        | runRelease =>
          unfold appRegCommand runReleaseCommand
          split_ifs <;> exact ⟨rfl, rfl⟩
        | seek => exact ⟨rfl, rfl⟩
        | reset => exact ⟨rfl, rfl⟩
      | ovtime => exact ⟨rfl, rfl⟩
    exact ⟨hkept.1.trans ih.1, hkept.2.trans ih.2⟩

/-- The regulation tick takes a sample if its time has come. -/
theorem regTick_filterPart (lim : RegRunLimits) (tick : RegTickIn) (s : Sys) :
    (appRegTick lim tick s).reg.filterPart =
      if elapsedMs tick.now s.reg.prevAcqMs ≥ 1 then (regAcquireCh1 tick.adcOsc s.reg).filterPart
      else s.reg.filterPart := by
  have hcut {t cut : Sys} (h : RegCut t cut) : cut.reg.filterPart = t.reg.filterPart ∧
      cut.reg.prevAcqMs = t.reg.prevAcqMs := by
    rw [h.frame]
    exact ⟨rfl, rfl⟩
  have hpublished (t : Sys) : (regPublishMeasure tick lim.freqCalVal
      (regSetpoint tick.now t)).reg.filterPart = t.reg.filterPart := by
    dsimp only [regPublishMeasure]
    rw [regSrDisplayEdge_eq]
    rfl
  have hacquired {t : Sys} (hpart : t.reg.filterPart = s.reg.filterPart)
      (hlast : t.reg.prevAcqMs = s.reg.prevAcqMs) : (regAcquire tick t).reg.filterPart =
        if elapsedMs tick.now s.reg.prevAcqMs ≥ 1 then (regAcquireCh1 tick.adcOsc s.reg).filterPart
        else s.reg.filterPart := by
    have hch0 : (regAcquireCh0 tick.adcSens t.reg).filterPart = t.reg.filterPart := by
      unfold regAcquireCh0
      dsimp only
      split_ifs <;> rfl
    unfold regAcquire
    rw [hlast]
    split_ifs
    · exact regAcquireCh1_filterPart tick.adcOsc (hch0.trans hpart)
    · exact hpart
  have hhead : (regTickHead lim tick s).reg.filterPart =
      if elapsedMs tick.now s.reg.prevAcqMs ≥ 1 then (regAcquireCh1 tick.adcOsc s.reg).filterPart
      else s.reg.filterPart := by
    have hwarmed (t : Sys) : (regWarmUp tick.now t).reg.filterPart = t.reg.filterPart ∧
        (regWarmUp tick.now t).reg.prevAcqMs = t.reg.prevAcqMs := by
      rw [regWarmUp_eq]
      exact ⟨rfl, rfl⟩
    have hwarm := hwarmed { s with reg := { s.reg with calVal := lim.calVal } }
    have hchecked := hcut (regStops_cut lim tick.now
      (regWarmUp tick.now { s with reg := { s.reg with calVal := lim.calVal } }))
    exact hacquired (hchecked.1.trans hwarm.1) (hchecked.2.trans hwarm.2)
  rw [← hhead]
  unfold appRegTick
  split_ifs
  · exact hpublished _
  · rfl

section Run

variable (build : Build) (boot : BootIn)

/-- The samples that a history takes, newest first. -/
def adcSamples : List Call → List UInt16
  | [] => []
  | .regTick tick :: past =>
    if elapsedMs tick.now (stateAfter build boot past).reg.prevAcqMs ≥ 1 then
      UInt16.ofNat tick.adcOsc :: adcSamples past
    else adcSamples past
  | _ :: past => adcSamples past

/-- The ADC answers a call with twelve bits. -/
def Call.TwelveBitAdc : Call → Prop
  | .regTick tick => tick.adcOsc < 4096
  | _ => True

/-- Assumes: the ADC answers with twelve bits. In every run the regulation core filters the current
as the words of C do, from 12-bit samples. -/
theorem run_filter {history : List Call} (hadc : ∀ call ∈ history, call.TwelveBitAdc) :
    TwelveBit (adcSamples build boot history) ∧
      (stateAfter build boot history).reg.filterPart =
        (ch1After (adcSamples build boot history)).filterPart := by
  induction history with
  | nil =>
    have hboot := (quiet_applyConfig build boot.sensDn (appInit boot (resetState build boot))).reg
    have hinit : (appInit boot (resetState build boot)).reg = appRegInit boot.tReg :=
      (quiet_initMode boot.tPage _).reg
    exact ⟨fun _ hmem ↦ absurd hmem List.not_mem_nil,
      congrArg RegState.filterPart (hboot.trans hinit)⟩
  | cons call past ih =>
    obtain ⟨hbits, hpart⟩ := ih fun older hmem ↦ hadc older (List.mem_cons_of_mem call hmem)
    by_cases hkind : call.kind = .reg
    · cases call with
      | regTick tick =>
        have hsample : tick.adcOsc < 4096 := hadc (.regTick tick) List.mem_cons_self
        have hword : (UInt16.ofNat tick.adcOsc).toNat = tick.adcOsc :=
          Nat.mod_eq_of_lt (hsample.trans (by decide))
        have htick : (stateAfter build boot (.regTick tick :: past)).reg.filterPart = _ :=
          regTick_filterPart _ tick (stateAfter build boot past)
        rw [htick, adcSamples]
        split_ifs
        · refine ⟨?_, ?_⟩
          · rintro sample (_ | ⟨_, hmem⟩)
            · exact hword.trans_lt hsample
            · exact hbits sample hmem
          · have hwords := regAcquireCh1_words (ch1Bounded_after hbits) (hword.trans_lt hsample)
              hpart
            rw [hword] at hwords
            exact hwords
        · exact ⟨hbits, hpart⟩
      | _ => cases hkind
    · have hsame : adcSamples build boot (call :: past) = adcSamples build boot past := by
        cases call with
        | regTick tick => exact absurd rfl hkind
        | _ => rfl
      rw [hsame]
      exact ⟨hbits, (exec_commanded build hkind _).filterPart.1.trans hpart⟩

/-- Assumes: the ADC answers with twelve bits. The filtered value of a run is in the range that the
current is computed from. -/
theorem run_ch1Max {history : List Call} (hadc : ∀ call ∈ history, call.TwelveBitAdc) :
    (stateAfter build boot history).reg.ch1Avg ≤ ch1Max := by
  obtain ⟨hbits, hpart⟩ := run_filter build boot hadc
  have hbounded := ch1Bounded_after hbits
  have hshown := hbounded.shown
  have hfilt := hbounded.filt
  simp only [RegState.filterPart, Ch1Vars.filterPart, Prod.mk.injEq] at hpart
  rw [hpart.2.2.2, hshown]
  omega

end Run

end UsCtrl
