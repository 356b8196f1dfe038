import UsCtrl.WeldDwell

/-!
# How late a weld ends

In a loop that is called at least every 10 ms (`LoopPaced`), the run of a weld is over by a time
that is fixed at its `weld_start` but for the ticks that are lost to a setup page or to horn-down
mode (`frozenTicks`): `weld_ends`. The firmware freezes the cycle there and leaves the run to its 30
s ceiling, so a weld whose page is left outlasts its dwell.
-/

set_option autoImplicit false
set_option relaxedAutoImplicit false

namespace UsCtrl

open Foundation

variable {build : Build} {boot : BootIn} {runMode ticks origin lag : ℕ}

/-! ### A loop that is called every 10 ms -/

/-- `app_loop_iter` made these iterations, newest first, and is called again at `next`. It was
called at most 10 ms after it had been called before, and each weld tick read the clock within its
iteration. -/
def LoopPaced : List IterIn → ℕ → Prop
  | [], _ => True
  | iter :: done, next =>
    ∃ called, LoopPaced done called ∧ called ≤ iter.weld.now ∧ iter.weld.now ≤ next ∧
      next ≤ called + 10

/-- The same of a run of calls, in which every iteration is known by its weld tick. -/
def Paced : List Call → ℕ → Prop
  | [], _ => True
  | call :: past, next =>
    match call with
    | .weldTick tick =>
      ∃ called, Paced past called ∧ called ≤ tick.now ∧ tick.now ≤ next ∧ next ≤ called + 10
    | _ => Paced past next

theorem paced_append {calls past : List Call} {next : ℕ}
    (hcalls : ∀ tick, .weldTick tick ∉ calls) : Paced (calls ++ past) next ↔ Paced past next := by
  induction calls with
  | nil => exact Iff.rfl
  | cons call calls ih =>
    have hrest := ih fun tick hmem ↦ hcalls tick (List.mem_cons_of_mem call hmem)
    cases call with
    | weldTick tick => exact absurd List.mem_cons_self (hcalls tick)
    | _ => exact hrest

theorem IterIn.beforeWeld_ticks (iter : IterIn) (tick : WeldTickIn) :
    .weldTick tick ∉ iter.beforeWeld.reverse := by
  simp [beforeWeld]

theorem IterIn.afterWeld_ticks (iter : IterIn) (tick : WeldTickIn) :
    .weldTick tick ∉ iter.afterWeld.reverse := by
  simp [afterWeld]

theorem paced_iterHistory {done : List IterIn} {next : ℕ} (h : LoopPaced done next) :
    Paced (iterHistory done) next := by
  induction done generalizing next with
  | nil => trivial
  | cons iter done ih =>
    obtain ⟨called, hdone, hticks⟩ := h
    have hcalls : iterHistory (iter :: done) =
        iter.afterWeld.reverse ++
          .weldTick iter.weld :: (iter.beforeWeld.reverse ++ iterHistory done) := by
      rw [iterHistory, List.flatMap_cons, iter.calls_eq, List.reverse_append, List.reverse_cons,
        List.append_assoc, List.append_assoc, List.singleton_append]
      rfl
    rw [hcalls, paced_append iter.afterWeld_ticks]
    exact ⟨called, (paced_append iter.beforeWeld_ticks).mpr (ih hdone), hticks⟩

/-! ### How late a weld ends -/

/-- A call that stops a weld leaves no run. -/
theorem weldStop_idle (build : Build) {call : Call} {s : Sys}
    (hstop : (weldEdges call s).weldStop = true) :
    (call.exec build s).reg.usRunStatus = .idle := by
  cases call with
  | weldTick tick =>
    rcases appWeldTick_cases tick s with ⟨hearly, -⟩ | ⟨-, hfrozen, -⟩ | ⟨hsteps, hbody⟩
    · simp [weldEdges, weldSteps, hearly] at hstop
    · simp [weldEdges, weldSteps, hfrozen] at hstop
    · rw [weldEdges, if_pos hsteps] at hstop
      exact hbody.runStop hstop
  | inputTick tick =>
    rw [weldEdges] at hstop
    split_ifs at hstop with henter
    obtain ⟨hdue, henter⟩ := henter
    rcases appInputTick_cases tick s with ⟨hearly, -⟩ | ⟨-, heq⟩
    · exact absurd (hearly.symm.trans hdue) (by decide)
    · rw [Call.exec, heq]
      exact (inputBody_estop tick s (inputFsmStep_enter _ _ henter)).2 (Or.inl henter)
  | _ => cases hstop

/-- A sonicating weld is not started again. -/
theorem weldStart_of_dwelling (build : Build) (call : Call) {left : ℕ} {s : Sys}
    (hs : Dwelling left s) : (weldEdges call s).weldStart = false := by
  rcases exec_cycle build call s with ⟨hedges, -⟩ | ⟨⟨start, hmove⟩, -⟩
  · rw [hedges]
  · rw [hs.sonicating] at hmove
    by_contra hstart
    exact absurd (hmove.starts (Bool.not_eq_false _ ▸ hstart)).2 (by decide)

section Events

variable (build : Build) (boot : BootIn) (runMode ticks origin lag : ℕ)

/-- The run of a weld was accepted at its `weld_start`, and has been active since. -/
def RunLasts : Past Call :=
  since (fun h ↦ appRegRunSrc (stateAfter build boot h) = .cycle) fun h ↦
    weldStarts build boot runMode ticks origin lag h ∧ startAccepted build boot h ∧
      appRegRunSrc (stateAfter build boot h) = .cycle

/-- The due weld ticks since the last `weld_start` that found the cycle frozen. -/
def frozenTicks : List Call → ℕ
  | [] => 0
  | call :: past =>
    if (weldEdges call (stateAfter build boot past)).weldStart then 0
    else frozenTicks past + (weldLost call (stateAfter build boot past)).toNat

end Events

/-- The time by which a weld that started at `origin` is stopped, `frozen` of its ticks being lost.
A grid that lags by more than nine ticks may be given up once, which costs one more. -/
def weldLimit (ticks origin lag frozen : ℕ) : ℕ :=
  origin + 10 * (ticks + 1) + (if lag ≤ 90 then 0 else 10) + 10 * frozen

theorem weldStarts_meets {history : List Call} {next : ℕ}
    (h : weldStarts build boot runMode ticks origin lag history) (hpaced : Paced history next) :
    weldTimer.Meets (weldLimit ticks origin lag 0) next (ticks - 1) (lastWeldMs history)
      (stateAfter build boot history).weld.prevMs := by
  obtain ⟨hticks, hbound, hlast, -, hlag⟩ := dwelling_of_starts h
  cases history with
  | nil => exact h.elim
  | cons call past =>
    obtain ⟨-, tick, rfl, rfl, -⟩ := h
    obtain ⟨called, -, hfrom, hto, hgap⟩ := hpaced
    refine ⟨hto, hgap.trans (Nat.add_le_add_right hfrom 10), hlag.le.trans hbound, ?_⟩
    rw [hlast, hlag, weldLimit]
    change (next + 10 * (ticks - 1) ≤ _ ∧ tick.now + 10 * (ticks - 1) + 2 * 10 ≤ _ + lag + 1 ∧
      next + lag ≤ tick.now + 100) ∨ next + 10 * (ticks - 1) + 2 * 10 ≤ _ + 1
    split_ifs with hsmall
    · exact Or.inl ⟨by omega, by omega, by omega⟩
    · exact Or.inr (by omega)

/-- While a run goes on, the ticks left of its dwell end in time. -/
theorem runLasts_meets (history : List Call)
    (h : RunLasts build boot runMode ticks origin lag history) :
    ∀ next, Paced history next → ∃ left, 0 < left ∧ Dwelling left (stateAfter build boot history) ∧
      weldTimer.Meets (weldLimit ticks origin lag (frozenTicks build boot history)) next left
        (lastWeldMs history) (stateAfter build boot history).weld.prevMs := by
  revert history
  refine since_induction _ (fun call past hstarts next hpaced ↦ ?_)
    fun call past hrun ih next hpaced ↦ ?_
  · obtain ⟨hticks, -, -, hdwelling, -⟩ := dwelling_of_starts hstarts.1
    have hfrozen : frozenTicks build boot (call :: past) = 0 := by
      obtain ⟨-, tick, -, -, hstart, -⟩ := hstarts.1
      rw [frozenTicks, if_pos hstart]
    rw [hfrozen]
    exact ⟨ticks - 1, by omega, hdwelling, weldStarts_meets hstarts.1 hpaced⟩
  · have hgoes : (weldEdges call (stateAfter build boot past)).weldStop = false := by
      by_contra hstop
      have hidle := weldStop_idle build (Bool.not_eq_false _ ▸ hstop)
      exact absurd (hidle.symm.trans hrun) (by decide)
    cases call with
    | weldTick tick =>
      obtain ⟨called, hpaced, hfrom, hto, hgap⟩ := hpaced
      obtain ⟨left, hpos, hdwelling, hmeets⟩ := ih called hpaced
      have hstart := weldStart_of_dwelling build (.weldTick tick) hdwelling
      rw [frozenTicks, if_neg (by simp [hstart])]
      rcases exec_dwells build _ hdwelling hgoes with
        ⟨hkept, hgrid, hearly⟩ | ⟨other, heq, hdue, hgrid, hstep⟩
      · have hwait : ¬ weldTimer.due tick.now (stateAfter build boot past).weld.prevMs := by
          rw [← weldDue_iff, hearly tick rfl]
          exact Bool.false_ne_true
        have hlost : weldLost (.weldTick tick) (stateAfter build boot past) = false := by
          rw [weldLost, hearly tick rfl, Bool.false_and]
        have hwaited := PollTimer.meets_wait hmeets weldTimer_roomy hfrom hto hgap hwait
        rw [← hgrid] at hwaited
        rw [hlost]
        exact ⟨left, hpos, hkept, hwaited⟩
      · obtain rfl : tick = other := by simpa using heq
        have htimer := (weldDue_iff tick _).mp hdue
        rcases hstep with ⟨hfrozen, hkept⟩ | ⟨hshown, hmore, hkept⟩
        · have hdone := PollTimer.meets_due hmeets.more weldTimer_roomy hfrom hto hgap htimer
          rw [← weldGrid_eq, ← hgrid] at hdone
          have hlost : weldLost (.weldTick tick) (stateAfter build boot past) = true := by
            rw [weldLost, hdue, hfrozen, Bool.true_and]
          rw [hlost]
          exact ⟨left, hpos, hkept, hdone⟩
        · obtain ⟨fewer, rfl⟩ : ∃ fewer, left = fewer + 1 := ⟨left - 1, by omega⟩
          have hdone := PollTimer.meets_due hmeets weldTimer_roomy hfrom hto hgap htimer
          rw [← weldGrid_eq, ← hgrid] at hdone
          have hlost : weldLost (.weldTick tick) (stateAfter build boot past) = false := by
            rw [weldLost, hshown, Bool.and_false]
          rw [hlost]
          exact ⟨fewer, by omega, hkept, hdone⟩
    | _ =>
      obtain ⟨left, hpos, hdwelling, hmeets⟩ := ih next hpaced
      rw [frozenTicks, if_neg (by simp [weldStart_of_dwelling build _ hdwelling])]
      rcases exec_dwells build _ hdwelling hgoes with ⟨hkept, hgrid, -⟩ | ⟨other, heq, -⟩
      · rw [← hgrid] at hmeets
        exact ⟨left, hpos, hkept, hmeets⟩
      · cases heq

/-- Assumes: the loop is called at least every 10 ms, and the run of a weld was accepted at
`weld_start` and is still active when the newest iteration reaches its weld tick. Then that tick is
at most one tick behind the dwell, the ticks spent frozen added; one more if the grid lagged by more
than nine ticks at `weld_start`. -/
theorem weld_ends (build : Build) (boot : BootIn) (runMode ticks origin lag next : ℕ)
    (iter : IterIn) (done : List IterIn) (hpaced : LoopPaced (iter :: done) next)
    (hruns : RunLasts build boot runMode ticks origin lag
      (iter.beforeWeld.reverse ++ iterHistory done)) :
    iter.weld.now ≤ origin + 10 * (ticks + 1) + (if lag ≤ 90 then 0 else 10) +
      10 * frozenTicks build boot (iter.beforeWeld.reverse ++ iterHistory done) := by
  obtain ⟨called, hdone, hfrom, hto, hgap⟩ := hpaced
  obtain ⟨left, hpos, -, hmeets⟩ := runLasts_meets _ hruns called
    ((paced_append iter.beforeWeld_ticks).mpr (paced_iterHistory hdone))
  exact hmeets.le_limit weldTimer_roomy hpos hto hgap

theorem loopPaced_everyPeriod {iter : ℕ → IterIn} (hiter : ∀ now, (iter now).weld.now = now)
    {start : ℕ} (count : ℕ) {done : List IterIn} (hdone : LoopPaced done start) :
    LoopPaced (everyPeriod iter start count ++ done) (start + 10 * count) := by
  induction count with
  | zero => exact hdone
  | succ count ih =>
    have hlast : everyPeriod iter start (count + 1) =
        iter (start + 10 * count) :: everyPeriod iter start count := by
      simp [everyPeriod, List.range_succ]
    rw [hlast]
    refine ⟨_, ih, (hiter _).ge, ?_, ?_⟩
    · rw [hiter]
      omega
    · omega

theorem quietRun_paced (n : ℕ) : LoopPaced (quietRun n) (10 * n + 10) := by
  induction n with
  | zero => trivial
  | succ n ih => exact ⟨_, ih, le_rfl, by change 10 * (n + 1) ≤ _; omega, by omega⟩

/-- The weld of a short cycle meets a setup page that is never left. -/
def setupWeld : List IterIn :=
  everyPeriod keysIter 4080 6 ++
    ({ keysIter 4070 with frames := [keyFrame 0x1100 1 4070] } ::
      (everyPeriod keysIter 4050 2 ++ armedWeld))

theorem setupWeld_paced :
    LoopPaced (keysIter 4140 :: (setupWeld ++ quietRun 401)) 4150 := by
  have hquiet : LoopPaced (quietRun 401) 4020 := quietRun_paced 401
  have hkeys (now : ℕ) : (keysIter now).weld.now = now := rfl
  have harmed : LoopPaced (armedWeld ++ quietRun 401) 4050 := by
    rw [armedWeld, List.append_assoc]
    exact loopPaced_everyPeriod hkeys 2 ⟨4020, hquiet, le_rfl, by decide, by decide⟩
  have hwelding := loopPaced_everyPeriod hkeys 2 harmed
  rw [setupWeld, List.append_assoc, List.cons_append, List.append_assoc]
  refine ⟨4140, loopPaced_everyPeriod hkeys 6 ⟨4070, hwelding, le_rfl, ?_, ?_⟩, ?_, ?_, ?_⟩
  all_goals decide

/-- Its run is still active 90 ms after `weld_start`. -/
theorem setupWeld_runs : RunLasts stdBuild (netBoot false) 0 7 4050 0
    ((keysIter 4140).beforeWeld.reverse ++ iterHistory (setupWeld ++ quietRun 401)) := by
  have hsplit : (keysIter 4140).beforeWeld.reverse ++ iterHistory (setupWeld ++ quietRun 401) =
      ((keysIter 4140).beforeWeld.reverse ++ iterHistory (setupWeld.take 8) ++
          (keysIter 4050).afterWeld.reverse) ++
        (warmedRun armedWeld (keysIter 4050) 2).history := rfl
  rw [hsplit]
  refine since_append (controller stdBuild (netBoot false))
    (fun call s ↦ appRegRunSrc (call.exec stdBuild s) = .cycle) (fun _ _ h ↦ h) ?_
    (since_now (List.cons_ne_nil _ _) (armedWeld_starts (Or.inl ⟨rfl, rfl⟩)))
  rw [warmedRun_after]
  decide +kernel

/-- The run outlasts its dwell by more than one tick. -/
theorem setupWeld_overlong : LoopPaced (keysIter 4140 :: (setupWeld ++ quietRun 401)) 4150 ∧
    RunLasts stdBuild (netBoot false) 0 7 4050 0
      ((keysIter 4140).beforeWeld.reverse ++ iterHistory (setupWeld ++ quietRun 401)) ∧
    4050 + 10 * (7 + 1) < (keysIter 4140).weld.now :=
  ⟨setupWeld_paced, setupWeld_runs, by decide⟩

/-- The bound with the ticks that it spent frozen. -/
theorem setupWeld_ends :
    (keysIter 4140).weld.now ≤ 4050 + 10 * (7 + 1) + (if 0 ≤ 90 then 0 else 10) +
      10 * frozenTicks stdBuild (netBoot false)
        ((keysIter 4140).beforeWeld.reverse ++ iterHistory (setupWeld ++ quietRun 401)) :=
  weld_ends stdBuild (netBoot false) 0 7 4050 0 4150 (keysIter 4140) (setupWeld ++ quietRun 401)
    setupWeld_paced setupWeld_runs

end UsCtrl
