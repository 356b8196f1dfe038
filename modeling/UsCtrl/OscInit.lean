import UsCtrl.Config
import UsCtrl.Foundation.Mealy

/-!
# The boot initialisation of the oscillator

`app_osc_init_fsm.c` (wait for the self-test burst on PB12, or give up; then a gap, a RESET and a
SEEK pulse) and its glue `app_osc_init.c`, which drives it each 10 ms and blocks the boot until it
is done.

Whatever PB12 does, a step lowers a budget (`oscInitFsmStep_budget`): while the burst is awaited a
low sample pays for itself and for one high sample, since the second high sample in a row ends the
wait. The budget of the initial state is the sum of the time-outs and pulse lengths, the first
time-out twice (`osc_done_in_time`). From the gap on PB12 is not read and the run is a timetable
(`osc_timetable`); the levels are the state a step leaves (`oscInitFsmStep_signals`). Since a step
pays whatever it samples, the blocking loop ends on any clock that goes on (`runToDone_returns`).
-/

set_option autoImplicit false
set_option relaxedAutoImplicit false

namespace UsCtrl

open Foundation

/-! ### `app_osc_init_fsm.c` -/

/-- `OSC_WAIT_H .. OSC_DONE`. -/
inductive OscState
  | waitH
  | waitL
  | gap
  | reset
  | seek
  | done
  deriving DecidableEq, Repr

/-- `OSC_WAIT_H_TIMEOUT`, `OSC_WAIT_L_TIMEOUT`, `OSC_H_DEBOUNCE`, `OSC_GAP_TICKS`,
`OSC_RESET_TICKS`, `OSC_SEEK_TICKS`. -/
def oscWaitHTimeout : ℕ := 90

def oscWaitLTimeout : ℕ := 90

def oscHDebounce : ℕ := 2

def oscGapTicks : ℕ := 15

def oscResetTicks : ℕ := 4

def oscSeekTicks : ℕ := 2

/-- The static state of `app_osc_init_fsm.c`. -/
structure OscInitFsm where
  state : OscState
  elapsed : ℕ
  hDebounce : ℕ
  deriving DecidableEq, Repr

/-- `osc_init_out_t`. -/
structure OscInitOut where
  state : OscState
  resetSignal : Bool
  seekSignal : Bool
  deriving DecidableEq, Repr

def OscInitOut.none : OscInitOut := ⟨.waitH, false, false⟩

/-- `osc_init_fsm_init`. -/
def oscInitFsmInit : OscInitFsm := ⟨.waitH, 0, 0⟩

/-- The saturating `s_elapsed++`. -/
def oscElapsedNext (fsm : OscInitFsm) : ℕ :=
  if fsm.elapsed < 0xFFFF then fsm.elapsed + 1 else fsm.elapsed

/-- `osc_step_wait_h`: the time-out does not count high samples. -/
def oscStepWaitH (pb12 : Bool) (fsm : OscInitFsm) : OscInitFsm :=
  if pb12 then
    let fsm := { fsm with
      hDebounce := if fsm.hDebounce < 0xFF then fsm.hDebounce + 1 else fsm.hDebounce }
    if fsm.hDebounce ≥ oscHDebounce then ⟨.waitL, 0, 0⟩ else fsm
  else if oscElapsedNext fsm ≥ oscWaitHTimeout then ⟨.waitL, 0, 0⟩
  else { fsm with hDebounce := 0, elapsed := oscElapsedNext fsm }

/-- `osc_step_wait_l`. -/
def oscStepWaitL (pb12 : Bool) (fsm : OscInitFsm) : OscInitFsm :=
  if pb12 = false then { fsm with state := .gap, elapsed := 0 }
  else if oscElapsedNext fsm ≥ oscWaitLTimeout then { fsm with state := .gap, elapsed := 0 }
  else { fsm with elapsed := oscElapsedNext fsm }

/-- The `OSC_GAP` case of `osc_init_fsm_step`. -/
def oscStepGap (fsm : OscInitFsm) : OscInitFsm × OscInitOut :=
  if oscElapsedNext fsm ≥ oscGapTicks then
    ({ fsm with state := .reset, elapsed := 0 }, { OscInitOut.none with resetSignal := true })
  else ({ fsm with elapsed := oscElapsedNext fsm }, OscInitOut.none)

/-- `osc_step_reset`. -/
def oscStepReset (fsm : OscInitFsm) : OscInitFsm × OscInitOut :=
  if oscElapsedNext fsm ≥ oscResetTicks then
    ({ fsm with state := .seek, elapsed := 0 }, { OscInitOut.none with seekSignal := true })
  else ({ fsm with elapsed := oscElapsedNext fsm }, { OscInitOut.none with resetSignal := true })

/-- `osc_step_seek`. -/
def oscStepSeek (fsm : OscInitFsm) : OscInitFsm × OscInitOut :=
  if oscElapsedNext fsm ≥ oscSeekTicks then
    ({ fsm with state := .done, elapsed := 0 }, OscInitOut.none)
  else ({ fsm with elapsed := oscElapsedNext fsm }, { OscInitOut.none with seekSignal := true })

/-- `osc_init_fsm_step`. -/
def oscInitFsmStep (pb12 : Bool) (fsm : OscInitFsm) : OscInitFsm × OscInitOut :=
  let stepped : OscInitFsm × OscInitOut :=
    match fsm.state with
    | .waitH => (oscStepWaitH pb12 fsm, OscInitOut.none)
    | .waitL => (oscStepWaitL pb12 fsm, OscInitOut.none)
    | .gap => oscStepGap fsm
    | .reset => oscStepReset fsm
    | .seek => oscStepSeek fsm
    | .done => (fsm, OscInitOut.none)
  (stepped.1, { stepped.2 with state := stepped.1.state })

/-! ### `app_osc_init.c` -/

/-- The glue: the core, the stamp of its last step and the two oscillator lines. -/
structure OscBoot where
  fsm : OscInitFsm
  prevMs : ℕ
  resetLine : Bool
  seekLine : Bool

/-- `app_osc_init_init`; the lines are as the board set them up. -/
def appOscInitInit (now : ℕ) (resetLine seekLine : Bool) : OscBoot :=
  ⟨oscInitFsmInit, now, resetLine, seekLine⟩

/-- `app_osc_init_tick`: the lines are driven by the steps alone, and not after the last one. -/
def appOscInitTick (now : ℕ) (pb12 : Bool) (boot : OscBoot) : OscBoot :=
  if elapsedMs now boot.prevMs < 10 then boot
  else if boot.fsm.state = .done then { boot with prevMs := now }
  else
    let stepped := oscInitFsmStep pb12 boot.fsm
    ⟨stepped.1, now, stepped.2.resetSignal, stepped.2.seekSignal⟩

/-- `app_osc_init_run_to_done`, given what each turn of the loop reads. It returns when the core is
done; the fuel is for loops that do not. -/
def appOscInitRunToDone (reads : ℕ → ℕ) (levels : ℕ → Bool) : ℕ → ℕ → OscBoot → Option OscBoot
  | 0, _, _ => none
  | fuel + 1, turn, boot =>
    if boot.fsm.state = .done then some boot
    else appOscInitRunToDone reads levels fuel (turn + 1)
      (appOscInitTick (reads turn) (levels turn) boot)

/-! ### One step -/

/-- The levels of a step are the state it leaves. -/
theorem oscInitFsmStep_signals (pb12 : Bool) (fsm : OscInitFsm) :
    (oscInitFsmStep pb12 fsm).2.resetSignal =
        decide ((oscInitFsmStep pb12 fsm).1.state = .reset) ∧
      (oscInitFsmStep pb12 fsm).2.seekSignal =
        decide ((oscInitFsmStep pb12 fsm).1.state = .seek) := by
  unfold oscInitFsmStep
  cases hstate : fsm.state with
  | waitH =>
    dsimp only [oscStepWaitH]
    split_ifs <;> simp [hstate, OscInitOut.none]
  | waitL =>
    dsimp only [oscStepWaitL]
    split_ifs <;> simp [hstate, OscInitOut.none]
  | gap =>
    dsimp only [oscStepGap]
    split_ifs <;> simp [hstate, OscInitOut.none]
  | reset =>
    dsimp only [oscStepReset]
    split_ifs <;> simp [hstate, OscInitOut.none]
  | seek =>
    dsimp only [oscStepSeek]
    split_ifs <;> simp [hstate, OscInitOut.none]
  | done => simp [hstate, OscInitOut.none]

/-- The counters are below the bounds of the state; high samples are counted in WAIT_H only. -/
def OscInitFsm.Fits (fsm : OscInitFsm) : Prop :=
  match fsm.state with
  | .waitH => fsm.elapsed < oscWaitHTimeout ∧ fsm.hDebounce < oscHDebounce
  | .waitL => fsm.elapsed < oscWaitLTimeout ∧ fsm.hDebounce = 0
  | .gap => fsm.elapsed < oscGapTicks ∧ fsm.hDebounce = 0
  | .reset => fsm.elapsed < oscResetTicks ∧ fsm.hDebounce = 0
  | .seek => fsm.elapsed < oscSeekTicks ∧ fsm.hDebounce = 0
  | .done => True

/-- The steps a state has left at the most: in WAIT_H each low sample can follow a high one. -/
def OscInitFsm.budget (fsm : OscInitFsm) : ℕ :=
  match fsm.state with
  | .waitH => 2 * (oscWaitHTimeout - fsm.elapsed) - fsm.hDebounce +
      (oscWaitLTimeout + oscGapTicks + oscResetTicks + oscSeekTicks)
  | .waitL => oscWaitLTimeout - fsm.elapsed + (oscGapTicks + oscResetTicks + oscSeekTicks)
  | .gap => oscGapTicks - fsm.elapsed + (oscResetTicks + oscSeekTicks)
  | .reset => oscResetTicks - fsm.elapsed + oscSeekTicks
  | .seek => oscSeekTicks - fsm.elapsed
  | .done => 0

/-- The burst is awaited. -/
def OscInitFsm.Waiting (fsm : OscInitFsm) : Prop := fsm.state = .waitH ∨ fsm.state = .waitL

/-- Assumes: the counters fit. They still do behind a step, which lowers the budget unless the core
is done. -/
theorem oscInitFsmStep_budget (pb12 : Bool) {fsm : OscInitFsm} (hfits : fsm.Fits) :
    (oscInitFsmStep pb12 fsm).1.Fits ∧
      (fsm.state = .done ∨ (oscInitFsmStep pb12 fsm).1.budget + 1 ≤ fsm.budget) := by
  obtain ⟨state, elapsed, hDebounce⟩ := fsm
  unfold oscInitFsmStep
  cases state with
  | waitH =>
    obtain ⟨helapsed, hcount⟩ : elapsed < 90 ∧ hDebounce < 2 := hfits
    cases pb12 with
    | true =>
      simp only [oscStepWaitH, if_true, if_pos (show hDebounce < 0xFF by omega), oscHDebounce]
      split_ifs with hsecond
      · simp only [OscInitFsm.Fits, OscInitFsm.budget, oscWaitHTimeout, oscWaitLTimeout,
          oscGapTicks, oscResetTicks, oscSeekTicks, and_true]
        omega
      · simp only [OscInitFsm.Fits, OscInitFsm.budget, oscWaitHTimeout, oscHDebounce]
        omega
    | false =>
      simp only [oscStepWaitH, oscElapsedNext, if_pos (show elapsed < 0xFFFF by omega),
        Bool.false_eq_true, if_false, oscWaitHTimeout]
      split_ifs with hover
      · simp only [OscInitFsm.Fits, OscInitFsm.budget, oscWaitHTimeout, oscWaitLTimeout,
          oscGapTicks, oscResetTicks, oscSeekTicks, and_true]
        omega
      · simp only [OscInitFsm.Fits, OscInitFsm.budget, oscWaitHTimeout, oscHDebounce]
        omega
  | waitL =>
    obtain ⟨helapsed, hcount⟩ : elapsed < 90 ∧ hDebounce = 0 := hfits
    simp only [oscStepWaitL, oscElapsedNext, if_pos (show elapsed < 0xFFFF by omega),
      oscWaitLTimeout]
    split_ifs
    all_goals
      simp only [OscInitFsm.Fits, OscInitFsm.budget, oscWaitLTimeout, oscGapTicks]
      omega
  | gap =>
    obtain ⟨helapsed, hcount⟩ : elapsed < 15 ∧ hDebounce = 0 := hfits
    simp only [oscStepGap, oscElapsedNext, if_pos (show elapsed < 0xFFFF by omega), oscGapTicks]
    split_ifs
    all_goals
      simp only [OscInitFsm.Fits, OscInitFsm.budget, oscGapTicks, oscResetTicks]
      omega
  | reset =>
    obtain ⟨helapsed, hcount⟩ : elapsed < 4 ∧ hDebounce = 0 := hfits
    simp only [oscStepReset, oscElapsedNext, if_pos (show elapsed < 0xFFFF by omega),
      oscResetTicks]
    split_ifs
    all_goals
      simp only [OscInitFsm.Fits, OscInitFsm.budget, oscResetTicks, oscSeekTicks]
      omega
  | seek =>
    obtain ⟨helapsed, hcount⟩ : elapsed < 2 ∧ hDebounce = 0 := hfits
    simp only [oscStepSeek, oscElapsedNext, if_pos (show elapsed < 0xFFFF by omega), oscSeekTicks]
    split_ifs
    all_goals
      simp only [OscInitFsm.Fits, OscInitFsm.budget, oscSeekTicks, true_and]
      omega
  | done => exact ⟨trivial, .inl rfl⟩

/-- Assumes: the burst is awaited. A step goes on waiting, or it enters the gap. -/
theorem oscInitFsmStep_waiting (pb12 : Bool) {fsm : OscInitFsm} (hfits : fsm.Fits)
    (hwaiting : fsm.Waiting) :
    (oscInitFsmStep pb12 fsm).1.Waiting ∨ (oscInitFsmStep pb12 fsm).1 = ⟨.gap, 0, 0⟩ := by
  obtain ⟨state, elapsed, hDebounce⟩ := fsm
  unfold oscInitFsmStep
  rcases hwaiting with hstate | hstate
  · obtain rfl : state = .waitH := hstate
    left
    dsimp only [oscStepWaitH]
    split_ifs <;> simp [OscInitFsm.Waiting]
  · obtain rfl : state = .waitL := hstate
    obtain ⟨-, rfl⟩ : elapsed < 90 ∧ hDebounce = 0 := hfits
    dsimp only [oscStepWaitL]
    split_ifs
    · exact .inr rfl
    · exact .inr rfl
    · exact .inl (.inr rfl)

/-- The states from the gap on, by the number of steps since it was entered. -/
def oscTimetable (k : ℕ) : OscInitFsm :=
  if k < 15 then ⟨.gap, k, 0⟩
  else if k < 19 then ⟨.reset, k - 15, 0⟩
  else if k < 21 then ⟨.seek, k - 19, 0⟩
  else ⟨.done, 0, 0⟩

theorem oscInitFsmStep_timetable (pb12 : Bool) (k : ℕ) :
    (oscInitFsmStep pb12 (oscTimetable k)).1 = oscTimetable (k + 1) := by
  have hearly : ∀ k < 21, ∀ pb12,
      (oscInitFsmStep pb12 (oscTimetable k)).1 = oscTimetable (k + 1) := by decide
  by_cases hk : k < 21
  · exact hearly k hk pb12
  · have hdone : ∀ j ≥ 21, oscTimetable j = ⟨.done, 0, 0⟩ := by
      intro j hj
      rw [oscTimetable, if_neg (by omega), if_neg (by omega), if_neg (by omega)]
    rw [hdone k (by omega), hdone (k + 1) (by omega)]
    rfl

/-! ### The run -/

section Run

variable (samples : ℕ → Bool)

/-- The state step `n` finds. -/
def oscState (n : ℕ) : OscInitFsm := mealyState oscInitFsmStep samples oscInitFsmInit n

/-- What step `n` puts out. -/
def oscOut (n : ℕ) : OscInitOut := mealyOut oscInitFsmStep samples oscInitFsmInit n

theorem oscState_fits (n : ℕ) : (oscState samples n).Fits := by
  induction n with
  | zero =>
    show 0 < oscWaitHTimeout ∧ 0 < oscHDebounce
    decide
  | succ n ih => exact (oscInitFsmStep_budget (samples n) ih).1

/-- As long as the core is not done, its steps are paid for by the initial budget. -/
theorem oscState_budget (n : ℕ) (hgoing : ∀ k < n, (oscState samples k).state ≠ .done) :
    (oscState samples n).budget + n ≤ 291 :=
  @mealyState_budget _ _ _ oscInitFsmStep samples oscInitFsmInit OscInitFsm.budget
    (fun fsm ↦ fsm.state = .done)
    (fun k ↦ (oscInitFsmStep_budget (samples k) (oscState_fits samples k)).2) n hgoing

/-- The gap is entered once, and PB12 is awaited up to then. -/
theorem oscState_gap : ∃ entry ≤ 270, oscState samples entry = ⟨.gap, 0, 0⟩ ∧
    ∀ n < entry, (oscState samples n).Waiting := by
  have hleaves : ∃ n, ¬ (oscState samples n).Waiting := by
    by_contra hstays
    have hwaiting : ∀ n, (oscState samples n).Waiting := fun n ↦ by
      by_contra hnot
      exact hstays ⟨n, hnot⟩
    have hpaid := oscState_budget samples 292 fun k _ hdone ↦ by
      rcases hwaiting k with h | h <;> simp [hdone] at h
    omega
  classical
  have hwaiting : ∀ n < Nat.find hleaves, (oscState samples n).Waiting := fun n hn ↦ by
    by_contra hnot
    exact Nat.find_min hleaves hn hnot
  have hleft := Nat.find_spec hleaves
  generalize Nat.find hleaves = entry at hwaiting hleft
  cases entry with
  | zero => exact absurd (Or.inl rfl) hleft
  | succ last =>
    have hlast := hwaiting last (Nat.lt_succ_self last)
    have hfits := oscState_fits samples last
    have hgap : oscState samples (last + 1) = ⟨.gap, 0, 0⟩ :=
      (oscInitFsmStep_waiting (samples last) hfits hlast).resolve_left hleft
    refine ⟨last + 1, ?_, hgap, hwaiting⟩
    have hpaid := oscState_budget samples last fun k hk hdone ↦ by
      rcases hwaiting k (by omega) with h | h <;> simp [hdone] at h
    have hrest : 22 ≤ (oscState samples last).budget := by
      generalize oscState samples last = fsm at hlast hfits
      obtain ⟨state, elapsed, hDebounce⟩ := fsm
      rcases hlast with hstate | hstate
      · obtain rfl : state = .waitH := hstate
        obtain ⟨helapsed, hcount⟩ : elapsed < 90 ∧ hDebounce < 2 := hfits
        show 22 ≤ 2 * (90 - elapsed) - hDebounce + 111
        omega
      · obtain rfl : state = .waitL := hstate
        obtain ⟨helapsed, -⟩ : elapsed < 90 ∧ hDebounce = 0 := hfits
        show 22 ≤ 90 - elapsed + 21
        omega
    omega

/-- From the gap on the run keeps to the timetable. -/
theorem osc_timetable {entry : ℕ} (hentry : oscState samples entry = ⟨.gap, 0, 0⟩) (k : ℕ) :
    oscState samples (entry + k) = oscTimetable k := by
  induction k with
  | zero => exact hentry
  | succ k ih =>
    show (oscInitFsmStep (samples (entry + k)) (oscState samples (entry + k))).1 = _
    rw [ih, oscInitFsmStep_timetable]

/-- Assumes: the gap is entered at `entry`, and PB12 is awaited up to then. For the states behind
the gap it is then known when the run is in them. -/
theorem oscState_iff {entry : ℕ} (hentry : oscState samples entry = ⟨.gap, 0, 0⟩)
    (hwaiting : ∀ n < entry, (oscState samples n).Waiting) (n : ℕ) :
    ((oscState samples n).state = .reset ↔ entry + 15 ≤ n ∧ n < entry + 19) ∧
      ((oscState samples n).state = .seek ↔ entry + 19 ≤ n ∧ n < entry + 21) ∧
      ((oscState samples n).state = .done ↔ entry + 21 ≤ n) := by
  by_cases hn : n < entry
  · rcases hwaiting n hn with h | h
    all_goals
      rw [h]
      simp only [reduceCtorEq, false_iff]
      omega
  · obtain ⟨k, rfl⟩ := Nat.exists_eq_add_of_le (not_lt.mp hn)
    rw [osc_timetable samples hentry, oscTimetable]
    split_ifs
    all_goals
      simp only [false_iff, true_iff]
      omega

theorem oscOut_reset (n : ℕ) :
    (oscOut samples n).resetSignal = decide ((oscState samples (n + 1)).state = .reset) :=
  (oscInitFsmStep_signals _ _).1

theorem oscOut_seek (n : ℕ) :
    (oscOut samples n).seekSignal = decide ((oscState samples (n + 1)).state = .seek) :=
  (oscInitFsmStep_signals _ _).2

end Run

/-! ### The blocking loop -/

section Loop

variable {reads : ℕ → ℕ} {levels : ℕ → Bool}

/-- Assumes: the core is not done. Turns of the loop that are not due change nothing. -/
theorem runToDone_skip {boot : OscBoot} (hgoing : boot.fsm.state ≠ .done) {turn wait : ℕ}
    (hearly : ∀ k < wait, elapsedMs (reads (turn + k)) boot.prevMs < 10) (fuel : ℕ) :
    appOscInitRunToDone reads levels (wait + fuel) turn boot =
      appOscInitRunToDone reads levels fuel (turn + wait) boot := by
  induction wait generalizing turn with
  | zero => rw [Nat.zero_add, Nat.add_zero]
  | succ wait ih =>
    have hnow : appOscInitTick (reads turn) (levels turn) boot = boot :=
      if_pos (hearly 0 (Nat.succ_pos wait))
    have hrest := @ih (turn + 1) fun k hk ↦ by
      rw [Nat.add_right_comm]
      exact hearly (k + 1) (Nat.succ_lt_succ hk)
    rw [Nat.succ_add, appOscInitRunToDone, if_neg hgoing, hnow, hrest]
    congr 1
    omega

/-- The core is done and both lines are idle. -/
def OscBoot.Over (boot : OscBoot) : Prop :=
  boot.fsm.state = .done ∧ boot.resetLine = false ∧ boot.seekLine = false

/-- Assumes: the core was last stepped, or set up, at reading `last`. The loop, taken up at the next
turn, returns. The induction is on the budget: each due turn is a step. -/
theorem runToDone_from (hticks : Ticks (2 ^ 32) 10 reads) (budget : ℕ) (boot : OscBoot) (last : ℕ)
    (hbudget : boot.fsm.budget ≤ budget) (hfits : boot.fsm.Fits)
    (hstamp : boot.prevMs = reads last) (hover : boot.fsm.state = .done → boot.Over) :
    ∃ fuel final, appOscInitRunToDone reads levels fuel (last + 1) boot = some final ∧
      final.Over := by
  induction budget generalizing boot last with
  | zero =>
    have hdone : boot.fsm.state = .done :=
      (oscInitFsmStep_budget false hfits).2.resolve_right (by omega)
    exact ⟨1, boot, if_pos hdone, hover hdone⟩
  | succ budget ih =>
    by_cases hdone : boot.fsm.state = .done
    · exact ⟨1, boot, if_pos hdone, hover hdone⟩
    · obtain ⟨wait, hdue, hearly⟩ := @Ticks.due _ (reads last) _ _ hticks last le_rfl (by omega)
      obtain ⟨turn, hturn⟩ : ∃ turn, turn = last + 1 + wait := ⟨_, rfl⟩
      have hlater : last + wait + 1 = turn := by omega
      have hstep : appOscInitTick (reads turn) (levels turn) boot =
          ⟨(oscInitFsmStep (levels turn) boot.fsm).1, reads turn,
            (oscInitFsmStep (levels turn) boot.fsm).2.resetSignal,
            (oscInitFsmStep (levels turn) boot.fsm).2.seekSignal⟩ := by
        rw [hlater] at hdue
        unfold appOscInitTick
        rw [hstamp, if_neg (show ¬ elapsedMs (reads turn) (reads last) < 10 from not_lt.mpr hdue),
          if_neg hdone]
      have hnext := oscInitFsmStep_budget (levels turn) hfits
      have hsignals := oscInitFsmStep_signals (levels turn) boot.fsm
      obtain ⟨fuel, final, hreturns, hfinal⟩ :=
        ih (appOscInitTick (reads turn) (levels turn) boot) turn
          (by
            rw [hstep]
            have hlower := hnext.2.resolve_left hdone
            show (oscInitFsmStep (levels turn) boot.fsm).1.budget ≤ budget
            omega)
          (by
            rw [hstep]
            exact hnext.1)
          (by rw [hstep])
          (by
            rw [hstep]
            intro hnow
            have hstate : (oscInitFsmStep (levels turn) boot.fsm).1.state = .done := hnow
            exact ⟨hnow, hsignals.1.trans (by rw [hstate]; rfl),
              hsignals.2.trans (by rw [hstate]; rfl)⟩)
      refine ⟨wait + (fuel + 1), final, ?_, hfinal⟩
      rw [runToDone_skip hdone (fun k hk ↦ ?_), ← hturn, appOscInitRunToDone, if_neg hdone]
      · exact hreturns
      · have hk := hearly (k + 1) hk
        rw [hstamp, show last + 1 + k = last + (k + 1) by omega]
        exact hk

/-- Assumes: the clock goes on. The boot is not blocked for ever, and both lines are left idle. -/
theorem runToDone_returns (hticks : Ticks (2 ^ 32) 10 reads) (resetLine seekLine : Bool) :
    ∃ fuel final, appOscInitRunToDone reads levels fuel 1
      (appOscInitInit (reads 0) resetLine seekLine) = some final ∧ final.Over := by
  refine runToDone_from hticks 291 _ 0 ?_ (oscState_fits (fun _ ↦ false) 0) rfl ?_
  · show oscInitFsmInit.budget ≤ 291
    decide
  · intro hdone
    have hwaits : OscState.waitH = .done := hdone
    exact absurd hwaits (by decide)

end Loop

/-- Assumes: `reads` are the readings of a clock that goes on. Whatever PB12 does, RESET is high on
exactly its ticks, SEEK on exactly its own right behind them, and the core is done from the step
behind these on, within the sum of the time-outs, the first one twice; so the two are never high
together, and low once it is done. The blocking loop returns. -/
theorem osc_boot_init (reads : ℕ → ℕ) (hticks : Ticks (2 ^ 32) 10 reads) (samples : ℕ → Bool) :
    (∃ first,
      (∀ n, (oscOut samples n).resetSignal = true ↔ first ≤ n ∧ n < first + oscResetTicks) ∧
      (∀ n, (oscOut samples n).seekSignal = true ↔
        first + oscResetTicks ≤ n ∧ n < first + oscResetTicks + oscSeekTicks) ∧
      (∀ n, (oscState samples n).state = .done ↔ first + oscResetTicks + oscSeekTicks + 1 ≤ n) ∧
      first + oscResetTicks + oscSeekTicks + 1 ≤ 180 + 90 + 15 + 4 + 2) ∧
    (∀ n, ((oscOut samples n).resetSignal && (oscOut samples n).seekSignal) = false) ∧
    (∀ n, (oscState samples n).state = .done →
      (oscOut samples n).resetSignal = false ∧ (oscOut samples n).seekSignal = false) ∧
    ∀ resetLine seekLine, ∃ fuel final, appOscInitRunToDone reads samples fuel 1
      (appOscInitInit (reads 0) resetLine seekLine) = some final ∧ final.Over := by
  obtain ⟨entry, hbound, hentry, hwaiting⟩ := oscState_gap samples
  have hiff := oscState_iff samples hentry hwaiting
  refine ⟨⟨entry + 14, fun n ↦ ?_, fun n ↦ ?_, fun n ↦ ?_, ?_⟩, fun n ↦ ?_, fun n hdone ↦ ?_,
    runToDone_returns hticks⟩
  · rw [oscOut_reset, decide_eq_true_iff, (hiff (n + 1)).1, oscResetTicks]
    omega
  · rw [oscOut_seek, decide_eq_true_iff, (hiff (n + 1)).2.1, oscResetTicks, oscSeekTicks]
    omega
  · rw [(hiff n).2.2, oscResetTicks, oscSeekTicks]
  · show entry + 14 + 4 + 2 + 1 ≤ 291
    omega
  · rw [oscOut_reset, oscOut_seek]
    cases (oscState samples (n + 1)).state <;> rfl
  · have hlater : (oscState samples (n + 1)).state = .done := by
      rw [(hiff (n + 1)).2.2]
      have hnow := (hiff n).2.2.mp hdone
      omega
    rw [oscOut_reset, oscOut_seek, hlater]
    exact ⟨rfl, rfl⟩

/-- A clock that is read each millisecond, and noise that defeats the debounce. -/
theorem osc_boot_init_noise :
    ∃ fuel final, appOscInitRunToDone (fun k ↦ k) (fun k ↦ k % 2 == 0) fuel 1
      (appOscInitInit 0 false false) = some final ∧ final.Over :=
  (osc_boot_init (fun k ↦ k)
    ⟨fun i ↦ Nat.le_succ i, fun i ↦ by omega, fun bound ↦ ⟨bound, le_rfl⟩⟩
    (fun k ↦ k % 2 == 0)).2.2.2 false false

end UsCtrl
