import UsCtrl.EstopDominance
import UsCtrl.WarmUp

/-!
# The weld cycle over runs

Every call of the superloop leaves the press alone or takes it along one move of the phase machine
(`exec_cycle`): the weld tick that is neither early nor frozen, and the input tick that enters the
emergency stop. Statements about cycles speak of the edges a call emits (`weldEdges`) and of the
phase.

A fault has come into a cycle if its level has been up at some point since the press left READY
(`FaultedCycle`). The press acts on a fault only when a weld tick samples its level, so a fault that
is taken away first is missed. `FaultsSampled` says that this does not happen; in a run of such
calls a faulted cycle emits neither `weld_start` nor `cycle_done` and reaches READY by an abort
(`faulted_cycle_aborts`).
-/

set_option autoImplicit false
set_option relaxedAutoImplicit false

namespace UsCtrl

open Foundation

/-! ### The press as a phase machine -/

/-- The edges of the cycle that a call emits. -/
def weldEdges (call : Call) (s : Sys) : WeldEdges :=
  match call with
  | .weldTick tick =>
    if weldSteps tick s then (weldBodyStep tick (weldAdvance tick s)).2.edges else {}
  | .inputTick tick =>
    if inputDue tick s ∧ (inputEvent tick s).estopEnter then
      (weldFsmStep weldAbortIn s.weld.fsm).2.edges
    else {}
  | _ => {}

/-- A call tells the press to abort. -/
def weldAborts (call : Call) (s : Sys) : Bool :=
  match call with
  | .weldTick tick => weldSteps tick s && (weldBodyIn tick (weldAdvance tick s)).abort
  | .inputTick tick => inputDue tick s && (inputEvent tick s).estopEnter
  | _ => false

/-- The other calls emit no edge and do not abort. -/
theorem weldEdges_other {call : Call} (hweld : call.kind ≠ .weld) (hinput : call.kind ≠ .input)
    (s : Sys) : weldEdges call s = {} ∧ weldAborts call s = false := by
  cases call with
  | weldTick tick => exact absurd rfl hweld
  | inputTick tick => exact absurd rfl hinput
  | _ => exact ⟨rfl, rfl⟩

/-- The input tick that enters the emergency stop leaves the press aborted. -/
theorem inputBody_weld (tick : InputTickIn) (s : Sys) :
    (inputBody tick s).weld.fsm = if (inputEvent tick s).estopEnter
      then (weldFsmStep weldAbortIn s.weld.fsm).1 else s.weld.fsm := by
  cases hestop : (inputEvent tick s).estopActive with
  | true =>
    rw [((inputBody_estop tick s hestop).1.frame .cycle).weld, inputScanned]
    split_ifs
    · rw [weldAborted_weld]
      rfl
    · rfl
  | false =>
    have henter : ¬ (inputEvent tick s).estopEnter = true := by
      intro henter
      have hlevel : (inputEvent tick s).estopActive = true := inputFsmStep_enter _ _ henter
      simp [hestop] at hlevel
    rw [if_neg henter, (inputBody_acts tick s hestop).frame.weld]
    rfl

/-- Every call leaves the press alone or takes it along one move of the cycle. A move is a step of
the weld tick, or an abort. -/
theorem exec_cycle (build : Build) (call : Call) (s : Sys) :
    (weldEdges call s = {} ∧ weldAborts call s = false ∧
        (call.exec build s).weld.fsm.phase = s.weld.fsm.phase) ∨
      (∃ start, WeldMove (weldAborts call s) start s.weld.fsm.phase (weldEdges call s)
        (call.exec build s).weld.fsm.phase) ∧
      ((∃ tick, call = .weldTick tick ∧ weldSteps tick s = true) ∨ weldAborts call s = true) := by
  have hframe := exec_frame build call s
  rcases call.weldTick_or with ⟨tick, rfl⟩ | hweld
  · rcases appWeldTick_cases tick s with ⟨hearly, heq⟩ | ⟨hdue, hfrozen, heq⟩ | ⟨hsteps, hbody⟩
    · refine Or.inl ⟨by simp [weldEdges, weldSteps, hearly],
        by simp [weldAborts, weldSteps, hearly],
        ?_⟩
      rw [Call.exec, heq]
    · refine Or.inl ⟨by simp [weldEdges, weldSteps, hfrozen],
        by simp [weldAborts, weldSteps, hfrozen], ?_⟩
      rw [Call.exec, heq]
      rfl
    · refine Or.inr ⟨⟨(weldBodyIn tick (weldAdvance tick s)).start, ?_⟩, Or.inl ⟨tick, rfl, hsteps⟩⟩
      rw [Call.exec, hbody.fsm, weldEdges, weldAborts, if_pos hsteps, hsteps, Bool.true_and]
      exact weldFsmStep_move _ _
  rcases call.inputTick_or with ⟨tick, rfl⟩ | hinput
  · rcases appInputTick_cases tick s with ⟨hearly, heq⟩ | ⟨hdue, heq⟩
    · refine Or.inl ⟨by simp [weldEdges, hearly], by simp [weldAborts, hearly], ?_⟩
      rw [Call.exec, heq]
    · rw [Call.exec, heq, inputBody_weld, weldEdges, weldAborts, hdue]
      cases henter : (inputEvent tick s).estopEnter with
      | false => exact Or.inl ⟨by simp, rfl, by simp⟩
      | true =>
        refine Or.inr ⟨⟨false, ?_⟩, Or.inr rfl⟩
        simp only [and_self, if_true, Bool.and_self]
        exact weldFsmStep_move weldAbortIn s.weld.fsm
  obtain ⟨hedges, haborts⟩ := weldEdges_other hweld hinput s
  exact Or.inl ⟨hedges, haborts, congrArg (fun weld ↦ weld.fsm.phase) (hframe.weld hweld hinput)⟩

/-- An abort outside READY ends in READY, and emits at most the stop of the weld. -/
theorem WeldMove.aborted {start : Bool} {phase phase' : WeldPhase} {edges : WeldEdges}
    (hmove : WeldMove true start phase edges phase') (hphase : phase ≠ .ready) :
    edges.weldStart = false ∧ edges.cycleDone = false ∧ phase' = .ready := by
  cases hmove <;> simp_all

/-- A move from READY emits nothing. -/
theorem WeldMove.quiet_ready {abort start : Bool} {phase phase' : WeldPhase} {edges : WeldEdges}
    (hmove : WeldMove abort start phase edges phase') (hphase : phase = .ready) : edges = {} := by
  cases hmove <;> simp_all

/-- Only a cycle that is rising is completed. -/
theorem WeldMove.done_rising {abort start : Bool} {phase phase' : WeldPhase} {edges : WeldEdges}
    (hmove : WeldMove abort start phase edges phase') (hdone : edges.cycleDone = true) :
    phase = .rising := by
  cases hmove <;> simp_all

/-! ### A press that nobody starts -/

/-- A scan with a hand key released asks for no cycle. -/
theorem weldScan_released {tick : WeldTickIn} {s : Sys} (hpending : s.weld.startPending = false)
    (hreleased : tick.key1 = true ∨ tick.key2 = true) :
    (weldScan tick s).weld.startPending = false := by
  have hpulse : (weldTriggerFsmStep (weldTrigIn tick s) s.weld.trigger).2.startPulse = false := by
    simp only [weldTriggerFsmStep, weldTrigIn]
    rcases hreleased with h | h <;> simp [h]
  unfold weldScan
  dsimp only
  rw [if_neg (by simp [hpulse])]
  exact hpending

/-- A press that is not told to begin stays in READY. -/
theorem WeldMove.stays_ready {abort : Bool} {phase' : WeldPhase} {edges : WeldEdges}
    (hmove : WeldMove abort false .ready edges phase') : phase' = .ready := by
  cases hmove <;> simp_all

/-- Assumes: the two hand keys are never held together, and `step` holds behind every run in which
they are not. Then it holds all along. -/
theorem always_of_released {step : Past Call}
    (hstep : ∀ call past, (∀ tick, .weldTick tick ∈ past → tick.key1 = true ∨ tick.key2 = true) →
      step (call :: past)) (history : List Call)
    (hreleased : ∀ tick, .weldTick tick ∈ history → tick.key1 = true ∨ tick.key2 = true) :
    always step history := by
  induction history with
  | nil => trivial
  | cons call past ih =>
    have hpast : ∀ tick, .weldTick tick ∈ past → tick.key1 = true ∨ tick.key2 = true :=
      fun tick hmem ↦ hreleased tick (List.mem_cons_of_mem call hmem)
    exact ⟨hstep call past hpast, ih hpast⟩

/-- Assumes: the two hand keys are never held together. Then the press never leaves READY. -/
theorem ready_of_released (build : Build) (boot : BootIn) (history : List Call)
    (hreleased : ∀ tick, .weldTick tick ∈ history → tick.key1 = true ∨ tick.key2 = true) :
    weldFsmStatus (stateAfter build boot history) = .ready := by
  induction history with
  | nil => exact congrArg (fun weld ↦ weld.fsm.runStatus) (quiet_boot build boot).weld
  | cons call past ih =>
    have hwas := ih fun tick hmem ↦ hreleased tick (List.mem_cons_of_mem call hmem)
    have hphase : (stateAfter build boot past).weld.fsm.phase = .ready :=
      WeldFsm.phase_ready.mpr hwas
    have hpending := (after_coherent build boot past).startPending
    have hframe := exec_frame build call (stateAfter build boot past)
    have hstays {input : WeldIn} (hstart : input.start = false) :
        (weldFsmStep input (stateAfter build boot past).weld.fsm).1.runStatus = .ready := by
      have hmove := weldFsmStep_move input (stateAfter build boot past).weld.fsm
      rw [hstart, hphase] at hmove
      exact WeldFsm.phase_ready.mp hmove.stays_ready
    rcases call.weldTick_or with ⟨tick, rfl⟩ | hweld
    · rcases appWeldTick_cases tick (stateAfter build boot past) with
        ⟨-, heq⟩ | ⟨-, -, heq⟩ | ⟨-, hbody⟩
      · exact (congrArg weldFsmStatus heq).trans hwas
      · exact (congrArg weldFsmStatus heq).trans hwas
      · exact (congrArg WeldFsm.runStatus hbody.fsm).trans
          (hstays (weldScan_released hpending (hreleased tick List.mem_cons_self)))
    rcases call.inputTick_or with ⟨tick, rfl⟩ | hinput
    · rcases appInputTick_cases tick (stateAfter build boot past) with ⟨-, heq⟩ | ⟨-, heq⟩
      · exact (congrArg weldFsmStatus heq).trans hwas
      · refine (congrArg weldFsmStatus heq).trans
          ((congrArg WeldFsm.runStatus (inputBody_weld tick _)).trans ?_)
        split_ifs
        · exact hstays rfl
        · exact hwas
    exact (congrArg (fun weld ↦ weld.fsm.runStatus) (hframe.weld hweld hinput)).trans hwas

/-! ### Faults -/

/-- An overload episode, or an error that is raised or still published. -/
def FaultLevel (s : Sys) : Prop :=
  appOverloadActive s = true ∨ s.reg.errorStatus.any = true ∨ s.measure.errorStatus.any = true

section Events

variable (build : Build) (boot : BootIn)

/-- The press is outside READY. -/
def cycling : Past Call := fun h ↦ weldFsmStatus (stateAfter build boot h) ≠ .ready

/-- A fault level was up at some point of the cycle under way. -/
def FaultedCycle : Past Call :=
  since (cycling build boot)
    fun h ↦ cycling build boot h ∧ FaultLevel (stateAfter build boot h)

/-- What a call that finds the press outside READY has to meet. It does not take the fault level
away, and it is no step of the press on an error that is raised but not yet published. -/
def FaultsSampled : Past Call
  | [] => True
  | call :: past =>
    let s := stateAfter build boot past
    cycling build boot past →
      (FaultLevel s → FaultLevel (stateAfter build boot (call :: past))) ∧
      (∀ tick, call = .weldTick tick → weldSteps tick s = true → s.reg.errorStatus.any = true →
        s.measure.errorStatus.any = true)

end Events

variable {build : Build} {boot : BootIn}

theorem cycling_of_faulted {history : List Call} (hfaulted : FaultedCycle build boot history) :
    cycling build boot history := by
  cases history with
  | nil => exact hfaulted.elim
  | cons call past => exact hfaulted.elim (fun h ↦ h.1) fun h ↦ h.1

/-- Assumes: the calls of the run met `FaultsSampled`. Then the level of a faulted cycle is up. -/
theorem faultLevel_of_faulted (history : List Call)
    (hsampled : always (FaultsSampled build boot) history)
    (hfaulted : FaultedCycle build boot history) : FaultLevel (stateAfter build boot history) := by
  induction history with
  | nil => exact hfaulted.elim
  | cons call past ih =>
    rcases hfaulted with ⟨-, hlevel⟩ | ⟨-, hpast⟩
    · exact hlevel
    · exact (hsampled.1 (cycling_of_faulted hpast)).1 (ih hsampled.2 hpast)

theorem ready_of_phase {s s' : Sys} (hphase : s'.weld.fsm.phase = s.weld.fsm.phase)
    (hready : weldFsmStatus s' = .ready) : weldFsmStatus s = .ready :=
  WeldFsm.phase_ready.mp (hphase.symm.trans (WeldFsm.phase_ready.mpr hready))

/-- A step of the press aborts on a fault level that it sees. -/
theorem weldBodyIn_abort {tick : WeldTickIn} {s : Sys} (hlevel : weldFaultLevel s = true) :
    (weldBodyIn tick (weldAdvance tick s)).abort = true := by
  have hfault : weldFaultLevel (weldScan tick (weldAdvance tick s)) = weldFaultLevel s := by
    rw [weldScan_eq]
    rfl
  simp [weldBodyIn, weldInOf, hfault, hlevel]

/-- So a move of the press that finds such a level is an abort. -/
theorem aborts_of_level {call : Call} {s : Sys} (hlevel : weldFaultLevel s = true)
    (hstep : (∃ tick, call = .weldTick tick ∧ weldSteps tick s = true) ∨ weldAborts call s = true) :
    weldAborts call s = true := by
  rcases hstep with ⟨tick, rfl, hsteps⟩ | haborts
  · rw [weldAborts, hsteps, Bool.true_and]
    exact weldBodyIn_abort hlevel
  · exact haborts

/-- Assumes: the calls of the run met `FaultsSampled`. Then a move of a faulted cycle is an abort.
-/
theorem aborts_of_faulted {call : Call} {past : List Call}
    (hsampled : always (FaultsSampled build boot) (call :: past))
    (hfaulted : FaultedCycle build boot past)
    (hstep : (∃ tick, call = .weldTick tick ∧ weldSteps tick (stateAfter build boot past) = true) ∨
      weldAborts call (stateAfter build boot past) = true) :
    weldAborts call (stateAfter build boot past) = true := by
  rcases hstep with ⟨tick, rfl, hsteps⟩ | haborts
  · refine aborts_of_level ?_ (Or.inl ⟨tick, rfl, hsteps⟩)
    rcases faultLevel_of_faulted past hsampled.2 hfaulted with hoverload | hraised | hmeasure
    · simp [weldFaultLevel, hoverload]
    · have hpublished := (hsampled.1 (cycling_of_faulted hfaulted)).2 tick rfl hsteps hraised
      simp [weldFaultLevel, hpublished]
    · simp [weldFaultLevel, hmeasure]
  · exact haborts

/-- Assumes: every call of the run met `FaultsSampled`. A call in a faulted cycle starts no weld and
completes no cycle, and if it takes the press to READY then by an abort. A fault that is an
emergency stop needs no such assumption: it finds, or leaves, the press in READY. -/
theorem faulted_cycle_aborts (build : Build) (boot : BootIn) (call : Call) (past : List Call)
    (hsampled : always (FaultsSampled build boot) (call :: past)) :
    (FaultedCycle build boot past →
      (weldEdges call (stateAfter build boot past)).weldStart = false ∧
      (weldEdges call (stateAfter build boot past)).cycleDone = false ∧
      (weldFsmStatus (stateAfter build boot (call :: past)) = .ready →
        weldAborts call (stateAfter build boot past) = true)) ∧
    (appEstopActive (stateAfter build boot (call :: past)) = true →
      weldFsmStatus (stateAfter build boot (call :: past)) = .ready ∧
      (weldEdges call (stateAfter build boot past)).weldStart = false ∧
      (weldEdges call (stateAfter build boot past)).cycleDone = false ∧
      (cycling build boot past → weldAborts call (stateAfter build boot past) = true)) := by
  refine ⟨fun hfaulted ↦ ?_, fun hestop ↦ ?_⟩
  · have hcycling := cycling_of_faulted hfaulted
    rcases exec_cycle build call (stateAfter build boot past) with
      ⟨hedges, -, hphase⟩ | ⟨⟨start, hmove⟩, hstep⟩
    · exact ⟨by rw [hedges], by rw [hedges], fun hready ↦
        absurd (ready_of_phase hphase hready) hcycling⟩
    · have haborts := aborts_of_faulted hsampled hfaulted hstep
      rw [haborts] at hmove
      obtain ⟨hstart, hdone, -⟩ := hmove.aborted (mt WeldFsm.phase_ready.mp hcycling)
      exact ⟨hstart, hdone, fun _ ↦ haborts⟩
  · have hready : weldFsmStatus (stateAfter build boot (call :: past)) = .ready :=
      (estop_atRest (call :: past) hestop).ready
    refine ⟨hready, ?_⟩
    by_cases hcycling : cycling build boot past
    · rcases exec_cycle build call (stateAfter build boot past) with
        ⟨-, -, hphase⟩ | ⟨⟨start, hmove⟩, hstep⟩
      · exact absurd (ready_of_phase hphase hready) hcycling
      · have haborts : weldAborts call (stateAfter build boot past) = true := by
          rcases hstep with ⟨tick, rfl, -⟩ | haborts
          · -- the weld tick leaves the emergency stop alone, so the press was in READY before
            have hframe := exec_frame build (.weldTick tick) (stateAfter build boot past)
            have hwas := (hframe.input (by rintro ⟨⟩)).1.symm.trans hestop
            exact absurd (estop_atRest past hwas).ready hcycling
          · exact haborts
        rw [haborts] at hmove
        obtain ⟨hstart, hdone, -⟩ := hmove.aborted (mt WeldFsm.phase_ready.mp hcycling)
        exact ⟨hstart, hdone, fun _ ↦ haborts⟩
    · have hedges : weldEdges call (stateAfter build boot past) = {} := by
        rcases exec_cycle build call (stateAfter build boot past) with
          ⟨hedges, -⟩ | ⟨⟨start, hmove⟩, -⟩
        · exact hedges
        · exact hmove.quiet_ready (WeldFsm.phase_ready.mpr (not_not.mp hcycling))
      exact ⟨by rw [hedges], by rw [hedges], fun h ↦ absurd h hcycling⟩

instance : DecidablePred FaultLevel := fun s ↦
  inferInstanceAs (Decidable (appOverloadActive s = true ∨ s.reg.errorStatus.any = true ∨
    s.measure.errorStatus.any = true))

/-- Assumes: the hand keys are never held together. Then no call meets a cycle to fault. -/
theorem sampled_of_released (build : Build) (boot : BootIn) (history : List Call)
    (hreleased : ∀ tick, .weldTick tick ∈ history → tick.key1 = true ∨ tick.key2 = true) :
    always (FaultsSampled build boot) history :=
  always_of_released (fun _ past hpast hcycling ↦
    absurd (ready_of_released build boot past hpast) hcycling) history hreleased

/-- A cycle begins and is met by an overload; the calls are newest first. -/
def overloadedCycle : List Call :=
  [.overloadTick ⟨4060, true⟩, .overloadTick ⟨4050, true⟩, .overloadTick ⟨4040, true⟩,
   .overloadTick ⟨4030, true⟩, .overloadTick ⟨4020, true⟩, .weldTick (keysIter 4020).weld]

theorem overloadedCycle_sampled : always (FaultsSampled stdBuild (netBoot false))
    (.weldTick (keysIter 4060).weld :: (overloadedCycle ++ iterHistory (quietRun 401))) := by
  rw [← List.cons_append]
  refine always_append (controller stdBuild (netBoot false))
    (fun call s ↦ (FaultLevel s → FaultLevel (call.exec stdBuild s)) ∧
      s.reg.errorStatus.any = false) ?_ ?_ ?_
  · rintro call past ⟨hkept, hclear⟩ -
    exact ⟨hkept, fun _ _ _ hraised ↦ absurd (hclear.symm.trans hraised) (by decide)⟩
  · rw [quiet_warms_up false 400]
    decide +kernel
  · exact sampled_of_released _ _ _ fun tick hmem ↦ Or.inl (quietRun_released hmem)

/-- The next weld tick aborts that cycle. -/
theorem overloadedCycle_aborts :
    (weldEdges (.weldTick (keysIter 4060).weld)
        (stateAfter stdBuild (netBoot false)
          (overloadedCycle ++ iterHistory (quietRun 401)))).weldStart = false ∧
      weldAborts (.weldTick (keysIter 4060).weld) (stateAfter stdBuild (netBoot false)
        (overloadedCycle ++ iterHistory (quietRun 401))) = true := by
  have hstate :
      stateAfter stdBuild (netBoot false) (overloadedCycle ++ iterHistory (quietRun 401)) =
      overloadedCycle.foldr (controller stdBuild (netBoot false)).exec (warm false 401) := by
    rw [stateAfter, Machine.after_append, quiet_warms_up false 400]
  have hfaulted : FaultedCycle stdBuild (netBoot false)
      (overloadedCycle ++ iterHistory (quietRun 401)) := by
    refine since_now (List.cons_ne_nil _ _) ⟨?_, ?_⟩
    · rw [cycling, hstate]
      decide +kernel
    · rw [hstate]
      decide +kernel
  have haborts := (faulted_cycle_aborts _ _ _ _ overloadedCycle_sampled).1 hfaulted
  refine ⟨haborts.1, haborts.2.2 ?_⟩
  rw [stateAfter, Machine.after_cons, ← stateAfter, hstate]
  decide +kernel

/-- A cycle without delay is met by an overload just before its weld. The overload ends on a setup
page, and CANCEL brings the run page back. -/
def faultBehindSetup : List IterIn :=
  [{ keysIter 4080 with frames := [keyFrame 0x1050 0 4080] },
   { keysIter 4070 with frames := [keyFrame 0x1100 1 4070] },
   { keysIter 4060 with overload := ⟨4060, true⟩ },
   { keysIter 4050 with overload := ⟨4050, true⟩ },
   { keysIter 4040 with overload := ⟨4040, true⟩, frames := [keyFrame 0x1203 0 4040] },
   overloadIter 4030 true, overloadIter 4020 true]

/-- The calls from the overload's assert to the weld tick after CANCEL, newest first. -/
def faultBehindSetupCalls : List Call :=
  (((faultBehindSetup[0].calls.take 2).reverse ++ faultBehindSetup[1].calls.reverse) ++
    (faultBehindSetup[2].calls.drop 3).reverse)

/-- The cycle goes on and starts its weld. -/
theorem faultBehindSetup_starts :
    Chronological (warmedRun (faultBehindSetup.drop 1) faultBehindSetup[0] 3).history ∧
      FaultedCycle stdBuild (netBoot false)
        (warmedRun (faultBehindSetup.drop 1) faultBehindSetup[0] 2).history ∧
      (weldEdges (.weldTick (keysIter 4080).weld) (stateAfter stdBuild (netBoot false)
        (warmedRun (faultBehindSetup.drop 1) faultBehindSetup[0] 2).history)).weldStart = true := by
  have hsplit : (warmedRun (faultBehindSetup.drop 1) faultBehindSetup[0] 2).history =
      faultBehindSetupCalls ++
        (warmedRun (faultBehindSetup.drop 3) faultBehindSetup[2] 3).history :=
    rfl
  refine ⟨warmedRun_chronological _ _ _ ?_ ?_, ?_, ?_⟩
  · decide +kernel
  · decide +kernel
  · rw [hsplit]
    refine since_append (controller stdBuild (netBoot false))
      (fun call s ↦ weldFsmStatus (call.exec stdBuild s) ≠ .ready) (fun _ _ h ↦ h) ?_
      (since_now (List.cons_ne_nil _ _) ⟨?_, ?_⟩)
    · rw [warmedRun_after]
      decide +kernel
    · rw [cycling, stateAfter, warmedRun_after]
      decide +kernel
    · rw [stateAfter, warmedRun_after]
      decide +kernel
  · rw [stateAfter, warmedRun_after]
    decide +kernel

end UsCtrl
