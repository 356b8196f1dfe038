import UsCtrl.HoldSession
import UsCtrl.StaleStatus
import UsCtrl.WeldCycle

/-!
# Counted cycles have been welded

A cycle is counted at `cycle_done`. It was welded if the START of its `weld_start` was accepted and
its run went on until the weld tick that emitted its `weld_stop` (`Welded`). The press does not look
at the run, so a run that is refused or stopped behind its back still leads to a counted cycle. A
run of the superloop in which this does not happen meets `WeldUndisturbed` at every call, and there
every counted cycle was welded (`counted_cycle_welded`).
-/

set_option autoImplicit false
set_option relaxedAutoImplicit false

namespace UsCtrl

open Foundation

section Events

variable (build : Build) (boot : BootIn)

/-- The newest call emitted the given edges. -/
def emits (edge : WeldEdges → Bool) : Past Call :=
  newest build boot fun call s _ ↦ edge (weldEdges call s) = true

/-- The run of the weld under way was accepted at its `weld_start`, and has been active since. -/
def Sonicated : Past Call :=
  since (fun h ↦ appRegRunSrc (stateAfter build boot h) = .cycle) fun h ↦
    emits build boot WeldEdges.weldStart h ∧ startAccepted build boot h ∧
      appRegRunSrc (stateAfter build boot h) = .cycle

/-- The newest call emitted the `weld_stop` of a weld that had sonicated up to it. -/
def weldedStop : Past Call
  | [] => False
  | call :: past => emits build boot WeldEdges.weldStop (call :: past) ∧ Sonicated build boot past

/-- The last weld of the press was sonicated from its `weld_start` to its `weld_stop`. -/
def Welded : Past Call :=
  since (fun h ↦ newest build boot (fun call s _ ↦ (weldEdges call s).weldStart = false ∧
    (weldEdges call s).weldStop = false) h) (weldedStop build boot)

/-- A call stops the run of a weld and leaves no fault level up behind it: the panel's release, the
release of the start button, horn-down mode, a STOP from a link, the 30 s ceiling, or an overload
that ends as it stops the run. -/
def stopsWeld (call : Call) (s : Sys) : Prop :=
  match call with
  | .frame f => f.command s = some .runRelease
  | .inputTick tick => inputDue tick s = true ∧ (inputEvent tick s).estopActive = false ∧
      (inputEvent tick s).startRelease = true
  | .hornTick tick => elapsedMs tick.now s.horn.prevMs ≥ 10 ∧ s.horn.mode = true
  | .modbusTick input => (modbusPass build input s).2.isSome = true ∧
      holding (modbusPass build input s).1 .stop = 1
  | .regTick tick => runElapsed tick.now s ≥ onTimeSafetyMs
  | .overloadTick tick => deasserts tick s ∧ publishedRun s ≠ .idle ∧
      s.measure.errorStatus.any = false
  | _ => False

/-- What a call has to meet. A `weld_start` finds the START gate open; no call stops the run of a
sonicating weld unless it leaves a fault level up; and that level stays up for the press to see,
once the run is gone. -/
def WeldUndisturbed : Past Call
  | [] => True
  | call :: past =>
    let s := stateAfter build boot past
    ((weldEdges call s).weldStart = true → appRegStartAllowed s = true) ∧
      (s.weld.fsm.phase = .sonicating → appRegRunSrc s = .cycle → ¬ stopsWeld build call s) ∧
      (s.weld.fsm.phase = .sonicating → appRegRunSrc s ≠ .cycle → weldFaultLevel s = true →
        weldFaultLevel (stateAfter build boot (call :: past)) = true)

end Events

variable {build : Build} {boot : BootIn}

/-! ### The run of a weld -/

theorem run_of_sonicated {history : List Call} (h : Sonicated build boot history) :
    appRegRunSrc (stateAfter build boot history) = .cycle :=
  since_induction (fun history ↦ appRegRunSrc (stateAfter build boot history) = .cycle)
    (fun _ _ htrigger ↦ htrigger.2.2) (fun _ _ hhold _ ↦ hhold) history h

/-- Assumes: the run of a weld, and a call that neither starts nor stops a weld. Then the run goes
on, unless the call stops it or leaves a fault level up. -/
theorem exec_keeps_cycle (build : Build) (call : Call) {s : Sys} (hrun : appRegRunSrc s = .cycle)
    (hstart : (weldEdges call s).weldStart = false) (hstop : (weldEdges call s).weldStop = false)
    (hundisturbed : ¬ stopsWeld build call s) :
    appRegRunSrc (call.exec build s) = .cycle ∨ weldFaultLevel (call.exec build s) = true := by
  have hbusy : s.reg.usRunStatus ≠ .idle := by
    rw [show s.reg.usRunStatus = .cycle from hrun]
    decide
  have hsame {s' : Sys} (h : s'.reg.usRunStatus = s.reg.usRunStatus) : appRegRunSrc s' = .cycle :=
    h.trans hrun
  cases call with
  | frame f =>
    exact Or.inl (hsame ((appLcdInputDispatch_acts f s).run_of_no_release hundisturbed hbusy))
  | lcdTick =>
    cases hedge : lcdFaultEdge s with
    | true =>
      have hmeasure : s.measure.errorStatus.any = true := by
        simp only [lcdFaultEdge, Bool.and_eq_true] at hedge
        exact hedge.1
      have hsees := ((exec_frame build .lcdTick s).published (by rintro ⟨⟩)).2.1
      exact Or.inr (by simp [weldFaultLevel, hsees, hmeasure])
    | false =>
      refine Or.inl (hsame ((appLcdTick_acts s).run_of_no_release ?_ hbusy))
      simp [hedge]
  | weldTick tick =>
    rcases appWeldTick_cases tick s with ⟨-, heq⟩ | ⟨-, -, heq⟩ | ⟨hsteps, hbody⟩
    · exact Or.inl (hsame (by rw [Call.exec, heq]))
    · exact Or.inl (hsame (by rw [Call.exec, heq]; rfl))
    · rw [weldEdges, if_pos hsteps] at hstart hstop
      exact Or.inl (hsame (hbody.runKeep hstart hstop))
  | overloadTick tick =>
    rcases appOverloadTick_cases tick s with ⟨-, heq⟩ | ⟨hdue, hbody⟩
    · exact Or.inl (hsame (by rw [Call.exec, heq]))
    · have hactive' : appOverloadActive (appOverloadTick tick s) = (overloadEvent tick s).active :=
        (hbody.frame .cycle).overload
      cases hactive : (overloadEvent tick s).active with
      | true => exact Or.inr (by simp [weldFaultLevel, Call.exec, hactive', hactive])
      | false =>
        by_cases hstops : (overloadEvent tick s).deassert = true ∧ publishedRun s ≠ .idle
        · have herror : s.measure.errorStatus.any = true := by
            by_contra herror
            exact hundisturbed ⟨⟨hdue, hstops.1⟩, hstops.2, by simpa using herror⟩
          have hsees := ((exec_frame build (.overloadTick tick) s).published (by rintro ⟨⟩)).2.1
          exact Or.inr (by simp [weldFaultLevel, hsees, herror])
        · have hkeep := hbody.keep (by
            by_cases hdeassert : (overloadEvent tick s).deassert = true
            · exact Or.inl (by simpa [hdeassert] using hstops)
            · exact Or.inr ⟨hactive, by simpa using hdeassert⟩)
          exact Or.inl (hsame (congrArg RegState.usRunStatus hkeep))
  | inputTick tick =>
    rcases appInputTick_cases tick s with ⟨-, heq⟩ | ⟨hdue, heq⟩
    · exact Or.inl (hsame (by rw [Call.exec, heq]))
    · rw [Call.exec, heq]
      cases hestop : (inputEvent tick s).estopActive with
      | true =>
        have hlevel : appEstopActive (inputBody tick s) = true :=
          (inputBody_scan tick s).1.trans hestop
        exact Or.inr (by simp [weldFaultLevel, hlevel])
      | false =>
        have hrelease : ¬ inputCommand (inputEvent tick s) .runRelease :=
          fun hrelease ↦ hundisturbed ⟨hdue, hestop, hrelease⟩
        exact Or.inl (hsame ((inputBody_acts tick s hestop).run_of_no_release hrelease hbusy))
  | hornTick tick =>
    simp only [Call.exec, appHornTick]
    split_ifs with hdue
    · have hmode : s.horn.mode = false := by
        by_contra hmode
        exact hundisturbed ⟨hdue, by simpa using hmode⟩
      rw [(hornBody_ends tick s).2.2 hmode, hornSolenoid_eq]
      exact Or.inl hrun
    · exact Or.inl hrun
  | seekResetTick now =>
    simp only [Call.exec, appSeekResetTick]
    split_ifs <;> exact Or.inl hrun
  | regTick tick =>
    have htick := appRegTick_spec (regRunLimitsOf s.cfg) tick s
    exact Or.inl (htick.cycle hrun (not_le.mp hundisturbed))
  | ethTick tick => exact Or.inl (hsame (congrArg RegState.usRunStatus (quiet_ethTick tick s).reg))
  | modbusTick input =>
    have htrip : holdTrips input.tHold s = false := by
      by_contra htrip
      obtain ⟨-, hcomm, -⟩ := (holdWdtStep_trip _ _ _).mp (by simpa [holdTrips] using htrip)
      simp [hrun] at hcomm
    have hpass : (modbusPass build input s).1.reg = s.reg :=
      (modbusPass_hold build input s).2.2.2.2 htrip
    rw [Call.exec, appModbusTick_eq_pass, finishPass]
    cases hlink : (modbusPass build input s).2 with
    | none => exact Or.inl (hsame (congrArg RegState.usRunStatus hpass))
    | some link =>
      have hno : ¬ ApplyCommand (modbusPass build input s).1 .runRelease :=
        fun hstop ↦ hundisturbed ⟨by simp [hlink], hstop⟩
      have hkept := (appModbusApplyWrites_acts build link input.apply
        (modbusPass build input s).1).run_of_no_release hno (by rw [hpass]; exact hbusy)
      exact Or.inl (hsame (hkept.trans (congrArg RegState.usRunStatus hpass)))
  | faultAlarmTick now =>
    exact Or.inl (hsame (congrArg RegState.usRunStatus (quiet_faultAlarmTick now s).reg))
  | buzzerTick now =>
    exact Or.inl (hsame (congrArg RegState.usRunStatus (quiet_buzzerTick now s).reg))

/-! ### Over runs -/

/-- A CYCLE run is started by a `weld_start` only. -/
theorem weldStart_of_started (build : Build) {call : Call} {s : Sys}
    (hrun : appRegRunSrc (call.exec build s) = .cycle)
    (hstarts : (call.exec build s).ghost.starts ≠ s.ghost.starts) :
    (weldEdges call s).weldStart = true := by
  have hkind : call.kind = .weld :=
    CallKind.weld_of_src ((exec_frame build call s).started hstarts (by decide) hrun)
  cases call <;> cases hkind
  rename_i tick
  rcases appWeldTick_cases tick s with ⟨-, heq⟩ | ⟨-, -, heq⟩ | ⟨hsteps, hbody⟩
  · exact absurd (congrArg (fun s' ↦ s'.ghost.starts) heq) hstarts
  · exact absurd (congrArg (fun s' ↦ s'.ghost.starts) heq) hstarts
  · rw [weldEdges, if_pos hsteps]
    by_contra hstart
    exact hstarts (hbody.starts.trans (if_neg fun h ↦ hstart h.1))

/-- The press is sonicating with its run gone and a fault level up that it has yet to see. -/
def WeldFaulted (s : Sys) : Prop := appRegRunSrc s ≠ .cycle ∧ weldFaultLevel s = true

/-- Assumes: an undisturbed call that leaves a sonicating weld alone. Then the weld goes on being
sonicated, or a fault has taken its run. -/
theorem sonicated_step {call : Call} {past : List Call}
    (hstep : WeldUndisturbed build boot (call :: past))
    (hpast : Sonicated build boot past ∨ WeldFaulted (stateAfter build boot past))
    (hwas : (stateAfter build boot past).weld.fsm.phase = .sonicating)
    (hedges : weldEdges call (stateAfter build boot past) = {}) :
    Sonicated build boot (call :: past) ∨ WeldFaulted (stateAfter build boot (call :: past)) := by
  have hframe := exec_frame build call (stateAfter build boot past)
  rcases hpast with hsonicated | ⟨hgone, hlevel⟩
  · have hrun : appRegRunSrc (stateAfter build boot past) = .cycle := by
      cases past with
      | nil => exact hsonicated.elim
      | cons older rest => exact hsonicated.elim (fun h ↦ h.2.2) fun h ↦ h.1
    by_cases hnow : appRegRunSrc (stateAfter build boot (call :: past)) = .cycle
    · exact Or.inl (Or.inr ⟨hnow, hsonicated⟩)
    · have hkept := exec_keeps_cycle build call hrun (by rw [hedges]) (by rw [hedges])
        (hstep.2.1 hwas hrun)
      exact Or.inr ⟨hnow, hkept.resolve_left hnow⟩
  · refine Or.inr ⟨fun hnow ↦ ?_, hstep.2.2 hwas hgone hlevel⟩
    by_cases hstarts : (call.exec build (stateAfter build boot past)).ghost.starts =
        (stateAfter build boot past).ghost.starts
    · rcases hframe.kept hstarts with hkept | hidle
      · exact hgone (hkept.symm.trans hnow)
      · exact absurd (hidle.symm.trans hnow) (by decide)
    · have hstart : (weldEdges call (stateAfter build boot past)).weldStart = true :=
        weldStart_of_started build hnow hstarts
      rw [hedges] at hstart
      exact absurd hstart (by decide)

/-- A `weld_start` that finds the gate open has its START accepted. -/
theorem weldStart_accepted {tick : WeldTickIn} {past : List Call}
    (hsteps : weldSteps tick (stateAfter build boot past) = true)
    (hstart : (weldEdges (.weldTick tick) (stateAfter build boot past)).weldStart = true)
    (hallowed : appRegStartAllowed (stateAfter build boot past) = true) :
    startAccepted build boot (.weldTick tick :: past) ∧
      appRegRunSrc (stateAfter build boot (.weldTick tick :: past)) = .cycle := by
  have hallowed' : appRegStartAllowed (weldAdvance tick (stateAfter build boot past)) = true :=
    hallowed
  have hbody := appWeldTick_steps hsteps
  rw [weldEdges, if_pos hsteps] at hstart
  refine ⟨?_, (hbody.runStart hstart).trans (if_pos hallowed')⟩
  have hstarts := hbody.starts.trans (if_pos ⟨hstart, hallowed'⟩)
  exact fun hsame ↦ Nat.succ_ne_self _ (hstarts.symm.trans hsame)

/-- What an undisturbed run keeps: a sonicating weld has been sonicated, or a fault has taken its
run, and a cycle behind its weld was welded. -/
def WeldKept (build : Build) (boot : BootIn) : Past Call := fun h ↦
  ((stateAfter build boot h).weld.fsm.phase = .sonicating →
    Sonicated build boot h ∨ WeldFaulted (stateAfter build boot h)) ∧
  ((stateAfter build boot h).weld.fsm.phase = .holding ∨
    (stateAfter build boot h).weld.fsm.phase = .rising → Welded build boot h)

theorem weldKept_step {call : Call} {past : List Call}
    (hundisturbed : WeldUndisturbed build boot (call :: past))
    (hpast : WeldKept build boot past) : WeldKept build boot (call :: past) := by
  obtain ⟨hsonicating, hbehind⟩ := hpast
  have hwelded (hedges : weldEdges call (stateAfter build boot past) = {})
      (h : Welded build boot past) : Welded build boot (call :: past) :=
    Or.inr ⟨⟨by rw [hedges], by rw [hedges]⟩, h⟩
  rcases exec_cycle build call (stateAfter build boot past) with
    ⟨hedges, -, hphase⟩ | ⟨⟨start, hmove⟩, hstep⟩
  · constructor
    · intro hnow
      have hwas := hphase.symm.trans hnow
      exact sonicated_step hundisturbed (hsonicating hwas) hwas hedges
    · intro hnow
      exact hwelded hedges (hbehind (hnow.imp hphase.symm.trans hphase.symm.trans))
  · have haborts (hfaulted : WeldFaulted (stateAfter build boot past)) :
        weldAborts call (stateAfter build boot past) = true :=
      aborts_of_level hfaulted.2 hstep
    generalize hedges : weldEdges call (stateAfter build boot past) = edges at hmove
    generalize hwas : (stateAfter build boot past).weld.fsm.phase = before
      at hmove hsonicating hbehind
    generalize hno : weldAborts call (stateAfter build boot past) = abort at hmove haborts
    generalize hnow : (call.exec build (stateAfter build boot past)).weld.fsm.phase = after at hmove
    have hgoal : WeldKept build boot (call :: past) ↔
        (after = .sonicating → Sonicated build boot (call :: past) ∨
          WeldFaulted (stateAfter build boot (call :: past))) ∧
        (after = .holding ∨ after = .rising → Welded build boot (call :: past)) := by
      rw [← hnow]
      rfl
    rw [hgoal]
    cases hmove with
    | abort => simp
    | idle => simp
    | begin => simp
    | wait =>
      refine ⟨fun hphase ↦ ?_, fun hphase ↦ hwelded hedges (hbehind hphase)⟩
      exact sonicated_step hundisturbed (hsonicating hphase) (hwas.trans hphase) hedges
    | enter => simp
    | start habort =>
      refine ⟨fun _ ↦ Or.inl (Or.inl ?_), by simp⟩
      rcases hstep with ⟨tick, rfl, hsteps⟩ | habort'
      · have hstart :
            (weldEdges (.weldTick tick) (stateAfter build boot past)).weldStart = true := by
          rw [hedges]
        exact ⟨hstart, weldStart_accepted hsteps hstart (hundisturbed.1 hstart)⟩
      · exact absurd (habort'.symm.trans (hno.trans habort)) (by decide)
    | stop habort =>
      refine ⟨by simp, fun _ ↦ Or.inl ?_⟩
      rcases hsonicating rfl with hsonicated | hfaulted
      · refine ⟨?_, hsonicated⟩
        change (weldEdges call (stateAfter build boot past)).weldStop = true
        rw [hedges]
      · exact absurd ((haborts hfaulted).symm.trans habort) (by decide)
    | fault => simp
    | rise => exact ⟨by simp, fun _ ↦ hwelded hedges (hbehind (Or.inl rfl))⟩
    | done => simp

theorem weldKept_of_undisturbed (history : List Call)
    (hundisturbed : always (WeldUndisturbed build boot) history) :
    WeldKept build boot history := by
  refine always_induction (WeldKept build boot) ?_ ?_ history hundisturbed
  · have hready : (stateAfter build boot []).weld.fsm.phase = .ready :=
      congrArg (fun weld ↦ weld.fsm.phase) (quiet_boot build boot).weld
    unfold WeldKept
    rw [hready]
    simp
  · exact fun call past hstep _ hpast ↦ weldKept_step hstep hpast

/-- Assumes: every call of the run met `WeldUndisturbed`. Then a call that completes a cycle
completes one whose weld was sonicated from its `weld_start`, whose START was accepted, to its
`weld_stop`. -/
theorem counted_cycle_welded (build : Build) (boot : BootIn) (call : Call) (past : List Call)
    (hundisturbed : always (WeldUndisturbed build boot) (call :: past))
    (hdone : emits build boot WeldEdges.cycleDone (call :: past)) : Welded build boot past := by
  have hdone : (weldEdges call (stateAfter build boot past)).cycleDone = true := hdone
  have hrising : (stateAfter build boot past).weld.fsm.phase = .rising := by
    rcases exec_cycle build call (stateAfter build boot past) with
      ⟨hedges, -⟩ | ⟨⟨start, hmove⟩, -⟩
    · rw [hedges] at hdone
      exact absurd hdone (by decide)
    · exact hmove.done_rising hdone
  exact (weldKept_of_undisturbed past hundisturbed.2).2 (Or.inr hrising)

/-- Assumes: the hand keys are never held together. Then no call meets a weld to disturb. -/
theorem undisturbed_of_released (build : Build) (boot : BootIn) (history : List Call)
    (hreleased : ∀ tick, .weldTick tick ∈ history → tick.key1 = true ∨ tick.key2 = true) :
    always (WeldUndisturbed build boot) history := by
  refine always_of_released (fun call past hpast ↦ ?_) history hreleased
  have hphase : (stateAfter build boot past).weld.fsm.phase = .ready :=
    WeldFsm.phase_ready.mpr (ready_of_released build boot past hpast)
  have hedges : weldEdges call (stateAfter build boot past) = {} := by
    rcases exec_cycle build call (stateAfter build boot past) with
      ⟨hedges, -⟩ | ⟨⟨start, hmove⟩, -⟩
    · exact hedges
    · exact hmove.quiet_ready hphase
  refine ⟨fun hstart ↦ ?_, fun hsonicating ↦ ?_, fun hsonicating ↦ ?_⟩
  · rw [hedges] at hstart
    exact absurd hstart (by decide)
  · exact absurd (hphase.symm.trans hsonicating) (by decide)
  · exact absurd (hphase.symm.trans hsonicating) (by decide)

/-- The weld ticks of a cycle with the shortest times, newest first, and the panel frames that set
them. -/
def shortCycle : List Call :=
  ((List.range 13).map fun index ↦ Call.weldTick (keysIter (4020 + 10 * index)).weld).reverse ++
    [.frame (keyFrame 0x1205 0 4020), .frame (keyFrame 0x1204 0 4020),
     .frame (keyFrame 0x1203 0 4020)]

theorem shortCycle_undisturbed : always (WeldUndisturbed stdBuild (netBoot false))
    (.weldTick (keysIter 4150).weld :: (shortCycle ++ iterHistory (quietRun 401))) := by
  rw [← List.cons_append]
  refine always_append (controller stdBuild (netBoot false))
    (fun call s ↦ ((weldEdges call s).weldStart = true → appRegStartAllowed s = true) ∧
      weldFaultLevel s = false ∧ (call.kind = .weld ∨ s.weld.fsm.phase ≠ .sonicating)) ?_ ?_ ?_
  · rintro call past ⟨hallowed, hclear, hkind⟩
    refine ⟨hallowed, fun hphase _ hstops ↦ ?_, fun _ _ hfault ↦ ?_⟩
    · rcases hkind with hkind | hquiet
      · cases call <;> cases hkind
        exact hstops
      · exact hquiet hphase
    · exact absurd (hclear.symm.trans hfault) (by decide)
  · rw [quiet_warms_up false 400]
    decide +kernel
  · exact undisturbed_of_released _ _ _ fun tick hmem ↦ Or.inl (quietRun_released hmem)

/-- The cycle they make is counted, and was welded. -/
theorem shortCycle_welded :
    Welded stdBuild (netBoot false) (shortCycle ++ iterHistory (quietRun 401)) := by
  refine counted_cycle_welded stdBuild (netBoot false) (.weldTick (keysIter 4150).weld) _
    shortCycle_undisturbed ?_
  have hstate : stateAfter stdBuild (netBoot false) (shortCycle ++ iterHistory (quietRun 401)) =
      shortCycle.foldr (controller stdBuild (netBoot false)).exec (warm false 401) := by
    rw [stateAfter, Machine.after_append, quiet_warms_up false 400]
  have hdone : (weldEdges (.weldTick (keysIter 4150).weld) (stateAfter stdBuild (netBoot false)
      (shortCycle ++ iterHistory (quietRun 401)))).cycleDone = true := by
    rw [hstate]
    decide +kernel
  exact hdone

/-- A cycle with the shortest times, whose run the panel releases in the middle of the weld. -/
def releasedWeld (count : ℕ) : List IterIn :=
  everyPeriod keysIter 4070 count ++
    [{ keysIter 4060 with frames := [keyFrame 0x1080 4 4060] }] ++ everyPeriod keysIter 4030 3 ++
    [{ keysIter 4020 with
      frames := [keyFrame 0x1203 0 4020, keyFrame 0x1204 0 4020, keyFrame 0x1205 0 4020] }]

/-- The calls between the `weld_stop` of that cycle and its `cycle_done`, newest first. -/
def releasedWeldTail : List Call :=
  ((keysIter 4150).calls.take 1).reverse ++ (iterHistory (everyPeriod keysIter 4120 3) ++
    ((keysIter 4110).calls.drop 2).reverse)

theorem releasedWeld_unwelded :
    ¬ Welded stdBuild (netBoot false) (warmedRun (releasedWeld 8) (keysIter 4150) 1).history := by
  have hsplit : (warmedRun (releasedWeld 8) (keysIter 4150) 1).history =
      releasedWeldTail ++ (warmedRun (releasedWeld 4) (keysIter 4110) 2).history := rfl
  have hstop : (warmedRun (releasedWeld 4) (keysIter 4110) 2).history =
      .weldTick (keysIter 4110).weld :: (warmedRun (releasedWeld 4) (keysIter 4110) 1).history :=
        rfl
  have hidle : appRegRunSrc (stateAfter stdBuild (netBoot false)
      (warmedRun (releasedWeld 4) (keysIter 4110) 1).history) ≠ .cycle := by
    rw [stateAfter, warmedRun_after]
    decide +kernel
  have hstops : (weldEdges (.weldTick (keysIter 4110).weld) (stateAfter stdBuild (netBoot false)
      (warmedRun (releasedWeld 4) (keysIter 4110) 1).history)).weldStop = true := by
    rw [stateAfter, warmedRun_after]
    decide +kernel
  intro hwelded
  rw [hsplit] at hwelded
  have hwelded := since_of_append (controller stdBuild (netBoot false))
    (fun call s ↦ (weldEdges call s).weldStop = false)
    (fun _ _ hnone hstop ↦ absurd (hnone.symm.trans hstop.1) (by decide))
    (by rw [warmedRun_after]; decide +kernel) hwelded
  rw [hstop] at hwelded
  rcases hwelded with ⟨-, hsonicated⟩ | ⟨⟨-, hgoes⟩, -⟩
  · exact hidle (run_of_sonicated hsonicated)
  · exact absurd (hstops.symm.trans hgoes) (by decide)

/-- The cycle is counted, and was not welded to its `weld_stop`. -/
theorem releasedWeld_counted :
    Chronological (warmedRun (releasedWeld 8) (keysIter 4150) 2).history ∧
      emits stdBuild (netBoot false) WeldEdges.cycleDone
        (warmedRun (releasedWeld 8) (keysIter 4150) 2).history ∧
      ¬ Welded stdBuild (netBoot false) (warmedRun (releasedWeld 8) (keysIter 4150) 1).history := by
  have hlast : (warmedRun (releasedWeld 8) (keysIter 4150) 2).history =
      .weldTick (keysIter 4150).weld :: (warmedRun (releasedWeld 8) (keysIter 4150) 1).history :=
        rfl
  have hdone : (weldEdges (.weldTick (keysIter 4150).weld) (stateAfter stdBuild (netBoot false)
      (warmedRun (releasedWeld 8) (keysIter 4150) 1).history)).cycleDone = true := by
    rw [stateAfter, warmedRun_after]
    decide +kernel
  refine ⟨warmedRun_chronological _ _ _ ?_ ?_, ?_, releasedWeld_unwelded⟩
  · decide +kernel
  · decide +kernel
  · rw [hlast]
    exact hdone

end UsCtrl
