import UsCtrl.SolenoidPin

/-!
# Two-hand control

A cycle begins with the weld tick that takes the press out of READY (`cycleStarts`). The trigger
remembers in `in_cycle` that the keys have served their turn; the glue sets it, when a start has
passed the gate, and the trigger clears it, when both keys are released in READY. The memory is a
monitor: once a cycle has begun it is set, or both keys have been released since
(`inCycle_or_rearmed`), and a start finds it clear.

With the safety on, a weld tick that samples a released key in CYL1 aborts, so that the descent of
every press that is in CYL1 has been held by both keys since it began (`held_descent`).

The solenoid of an aborted press is up. With horn-down mode off the pin is never down while the core
is up, whatever has switched the mode before (`PinBelow`), so that the pin is up too.
-/

set_option autoImplicit false
set_option relaxedAutoImplicit false

namespace UsCtrl

open Foundation

/-! ### The trigger -/

/-- A scan asks for a cycle only with both keys pressed, with the keys not used up, in READY and
with the gate open; and then it uses them up. -/
theorem weldScan_starts {tick : WeldTickIn} {s : Sys} (hpending : s.weld.startPending = false)
    (hstarts : (weldScan tick s).weld.startPending = true) :
    tick.key1 = false ∧ tick.key2 = false ∧ s.weld.trigger.inCycle = false ∧
      weldFsmStatus s = .ready ∧ appRegStartAllowed s = true ∧
      (weldScan tick s).weld.trigger.inCycle = true := by
  unfold weldScan at hstarts ⊢
  dsimp only at hstarts ⊢
  split_ifs at hstarts ⊢ with hgate
  · obtain ⟨hpulse, hready, hallowed⟩ := hgate
    simp only [weldTriggerFsmStep, weldTrigIn, Bool.and_eq_true, Bool.not_eq_true'] at hpulse
    obtain ⟨⟨hkey1, hkey2⟩, hclear⟩ := hpulse
    exact ⟨hkey1, hkey2, hclear, hready, hallowed, rfl⟩
  · exact absurd (hstarts.symm.trans hpending) (by decide)

/-- A scan forgets that the keys are used up only with both of them released in READY. -/
theorem weldScan_clears {tick : WeldTickIn} {s : Sys} (hset : s.weld.trigger.inCycle = true)
    (hclears : (weldScan tick s).weld.trigger.inCycle = false) :
    tick.key1 = true ∧ tick.key2 = true ∧ weldFsmStatus s = .ready := by
  unfold weldScan at hclears
  dsimp only at hclears
  split_ifs at hclears with hgate
  · exact absurd hclears (by simp [weldTriggerFsmCycleStarted])
  · by_contra hheld
    have hkept : (weldTriggerFsmStep (weldTrigIn tick s) s.weld.trigger).1.inCycle =
        s.weld.trigger.inCycle := if_neg hheld
    exact absurd (hset.symm.trans (hkept.symm.trans hclears)) (by decide)

/-- A released key in CYL1 with the safety on is an abort. -/
theorem weldBodyIn_safety {tick : WeldTickIn} {s : Sys} (hsafty : s.cfg.fSafty ≠ 0)
    (hdescends : weldFsmStatus s = .cyl1) (hreleased : tick.key1 = true ∨ tick.key2 = true) :
    (weldBodyIn tick (weldAdvance tick s)).abort = true := by
  have hpulse : (weldTriggerFsmStep (weldTrigIn tick (weldAdvance tick s))
      (weldAdvance tick s).weld.trigger).2.safetyAbortPulse = true := by
    show (decide (s.cfg.fSafty ≠ 0) && decide (weldFsmStatus s = .cyl1) &&
      (tick.key1 || tick.key2)) = true
    rw [decide_eq_true hsafty, decide_eq_true hdescends]
    rcases hreleased with h | h <;> simp [h]
  rw [weldBodyIn, weldInOf, hpulse]
  exact Bool.or_true _

/-- The outputs of a step leave the trigger as the scan has left it. -/
theorem weldBody_trigger (tick : WeldTickIn) (s : Sys) :
    (weldBody tick s).weld.trigger = (weldScan tick s).weld.trigger := by
  have heffect := weldOutputs_effect tick.bus (weldBodyStep tick s).2 tick.tCmd
    (weldStepped tick s) (weldFsmStep_start_not_stop _ _)
  have hweld := heffect.frame.weld
  rw [weldSolEdge_solLast] at hweld
  show (weldOutputs tick.bus (weldBodyStep tick s).2 tick.tCmd
    (weldStepped tick s)).weld.trigger = _
  rw [hweld]
  rfl

theorem weldTick_trigger {tick : WeldTickIn} {s : Sys} (hsteps : weldSteps tick s = true) :
    (appWeldTick tick s).weld.trigger = (weldScan tick (weldAdvance tick s)).weld.trigger := by
  obtain ⟨hdue, hshown⟩ := weldSteps_iff.mp hsteps
  rw [appWeldTick, if_neg (by simp [hdue]), if_neg (by simp [hshown]), weldBody_trigger]

/-- Only a weld tick that steps the core scans the keys. -/
theorem exec_trigger (build : Build) (call : Call) (s : Sys) :
    (∃ tick, call = .weldTick tick ∧ weldSteps tick s = true) ∨
      (call.exec build s).weld.trigger = s.weld.trigger := by
  have hframe := exec_frame build call s
  rcases call.weldTick_or with ⟨tick, rfl⟩ | hweld
  · rcases appWeldTick_cases tick s with ⟨-, heq⟩ | ⟨-, -, heq⟩ | ⟨hsteps, -⟩
    · right
      rw [Call.exec, heq]
    · right
      rw [Call.exec, heq]
      rfl
    · exact Or.inl ⟨tick, rfl, hsteps⟩
  rcases call.inputTick_or with ⟨tick, rfl⟩ | hinput
  · right
    rcases appInputTick_cases tick s with ⟨-, heq⟩ | ⟨-, heq⟩
    · rw [Call.exec, heq]
    · rw [Call.exec, heq]
      cases hestop : (inputEvent tick s).estopActive with
      | false => exact congrArg WeldGlue.trigger (inputBody_acts tick s hestop).frame.weld
      | true =>
        rw [((inputBody_estop tick s hestop).1.frame .cycle).weld, inputScanned]
        split_ifs
        · rw [weldAborted_weld]
          rfl
        · rfl
  exact Or.inr (congrArg WeldGlue.trigger (hframe.weld hweld hinput))

/-! ### Starts -/

section Runs

variable (build : Build) (boot : BootIn)

/-- The newest call has begun a cycle. -/
def cycleStarts : Past Call := newest build boot fun _ s s' ↦
  weldFsmStatus s = .ready ∧ weldFsmStatus s' = .cyl1

/-- The newest call is a weld tick that has sampled both keys pressed, in READY and with the gate
open. -/
def handsStart : Past Call := newest build boot fun call s _ ↦
  ∃ tick, call = .weldTick tick ∧ weldSteps tick s = true ∧ tick.key1 = false ∧
    tick.key2 = false ∧ weldFsmStatus s = .ready ∧ appRegStartAllowed s = true

/-- The newest call is a weld tick that has sampled both keys released in READY. -/
def rearmed : Past Call := newest build boot fun call s _ ↦
  ∃ tick, call = .weldTick tick ∧ weldSteps tick s = true ∧ tick.key1 = true ∧
    tick.key2 = true ∧ weldFsmStatus s = .ready

/-- The newest call has found the press in CYL1, and if it is a weld tick that found the safety on,
it has sampled both keys pressed. -/
def bothHeld : Past Call := newest build boot fun call s _ ↦
  weldFsmStatus s = .cyl1 ∧ ∀ tick, call = .weldTick tick → weldSteps tick s = true →
    s.cfg.fSafty ≠ 0 → tick.key1 = false ∧ tick.key2 = false

variable {build boot} {call : Call} {past : List Call}

/-- A press leaves READY by a step that is told to begin. -/
theorem WeldMove.begins {abort start : Bool} {phase' : WeldPhase} {edges : WeldEdges}
    (hmove : WeldMove abort start .ready edges phase') (hleaves : phase' ≠ .ready) :
    start = true := by
  cases hmove <;> simp_all

/-- A press that is told to begin in READY descends. -/
theorem WeldMove.told {abort : Bool} {phase' : WeldPhase} {edges : WeldEdges}
    (hmove : WeldMove abort true .ready edges phase') : phase' = .descending := by
  cases hmove <;> simp_all

theorem WeldMove.from_ready {abort start : Bool} {phase' : WeldPhase} {edges : WeldEdges}
    (hmove : WeldMove abort start .ready edges phase') :
    phase' = .ready ∨ phase' = .descending := by
  cases hmove <;> simp_all

theorem WeldFsm.phase_cyl1 {fsm : WeldFsm} : fsm.phase = .descending ↔ fsm.runStatus = .cyl1 := by
  unfold WeldFsm.phase
  cases fsm.runStatus <;> cases fsm.fStatusStart <;> simp

/-- What begins a cycle: a scan that has asked for it. -/
theorem scan_of_cycleStarts (hstarts : cycleStarts build boot (call :: past)) :
    ∃ tick, call = .weldTick tick ∧ weldSteps tick (stateAfter build boot past) = true ∧
      (weldScan tick (weldAdvance tick (stateAfter build boot past))).weld.startPending = true := by
  obtain ⟨hready, hdescends⟩ := hstarts
  change (call.exec build (stateAfter build boot past)).weld.fsm.runStatus = .cyl1 at hdescends
  change (stateAfter build boot past).weld.fsm.runStatus = .ready at hready
  generalize stateAfter build boot past = s at *
  have hphase : s.weld.fsm.phase = .ready := WeldFsm.phase_ready.mpr hready
  rcases exec_press build call s with
    ⟨hweld, -⟩ | ⟨tick, rfl, hdue, -, ⟨-, -, hfsm⟩ | ⟨hshown, -, hfsm⟩⟩ | ⟨-, -, hfsm⟩
  · rw [hweld, hready] at hdescends
    cases hdescends
  · rw [hfsm, hready] at hdescends
    cases hdescends
  · refine ⟨tick, rfl, weldSteps_iff.mpr ⟨hdue, hshown⟩, ?_⟩
    have hmove := weldFsmStep_move (weldBodyIn tick (weldAdvance tick s)) s.weld.fsm
    rw [hphase] at hmove
    refine hmove.begins fun hback ↦ ?_
    rw [hfsm] at hdescends
    exact absurd ((WeldFsm.phase_ready.mp hback).symm.trans hdescends) (by decide)
  · rw [hfsm, weldFsmStep_abort_ready rfl rfl s.weld.fsm] at hdescends
    cases hdescends

/-- A start finds the keys not used up and uses them up. -/
theorem handsStart_of_cycleStarts (hstarts : cycleStarts build boot (call :: past)) :
    handsStart build boot (call :: past) ∧
      (stateAfter build boot past).weld.trigger.inCycle = false ∧
      (stateAfter build boot (call :: past)).weld.trigger.inCycle = true := by
  obtain ⟨tick, rfl, hsteps, hscan⟩ := scan_of_cycleStarts hstarts
  have hpending : (stateAfter build boot past).weld.startPending = false :=
    (after_coherent build boot past).startPending
  change (∃ other, Call.weldTick tick = .weldTick other ∧ _) ∧ _ ∧
    (appWeldTick tick (stateAfter build boot past)).weld.trigger.inCycle = true
  generalize stateAfter build boot past = s at *
  obtain ⟨hkey1, hkey2, hclear, hready, hallowed, hset⟩ :=
    @weldScan_starts tick (weldAdvance tick s) hpending hscan
  refine ⟨⟨tick, rfl, hsteps, hkey1, hkey2, hready, hallowed⟩, hclear, ?_⟩
  rw [weldTick_trigger hsteps]
  exact hset

/-- Once a cycle has begun, the keys are used up, or they have been released since. -/
theorem inCycle_or_rearmed (history : List Call) (honce : once (cycleStarts build boot) history) :
    (stateAfter build boot history).weld.trigger.inCycle = true ∨
      since (fun h ↦ ¬ cycleStarts build boot h) (rearmed build boot) history := by
  induction history with
  | nil => exact absurd honce (since_nil _ _)
  | cons call past ih =>
    by_cases hstarts : cycleStarts build boot (call :: past)
    · exact Or.inl (handsStart_of_cycleStarts hstarts).2.2
    · have hpast := (honce.resolve_left hstarts).2
      by_cases hrearmed : rearmed build boot (call :: past)
      · exact Or.inr (Or.inl hrearmed)
      · refine (ih hpast).imp (fun hset ↦ ?_) fun hsince ↦ Or.inr ⟨hstarts, hsince⟩
        change ¬ (∃ tick, call = .weldTick tick ∧ _) at hrearmed
        change (call.exec build (stateAfter build boot past)).weld.trigger.inCycle = true
        generalize stateAfter build boot past = s at *
        rcases exec_trigger build call s with ⟨tick, rfl, hsteps⟩ | hkept
        · by_contra hclears
          change ¬ (appWeldTick tick s).weld.trigger.inCycle = true at hclears
          rw [weldTick_trigger hsteps, Bool.not_eq_true] at hclears
          obtain ⟨hkey1, hkey2, hready⟩ := @weldScan_clears tick (weldAdvance tick s) hset hclears
          exact hrearmed ⟨tick, rfl, hsteps, hkey1, hkey2, hready⟩
        · rw [hkept]
          exact hset

/-! ### The descent -/

/-- A step that finds the press in CYL1 and a key released, with the safety on, ends in READY. -/
theorem safety_aborts {tick : WeldTickIn} {s : Sys} (hsteps : weldSteps tick s = true)
    (hdescends : weldFsmStatus s = .cyl1) (hsafty : s.cfg.fSafty ≠ 0)
    (hreleased : tick.key1 = true ∨ tick.key2 = true) :
    weldFsmStatus (appWeldTick tick s) = .ready := by
  have habort := weldBodyIn_safety hsafty hdescends hreleased
  have hmove := weldFsmStep_move (weldBodyIn tick (weldAdvance tick s)) s.weld.fsm
  have hfsm := (appWeldTick_steps hsteps).fsm
  rw [habort, WeldFsm.phase_cyl1.mpr hdescends] at hmove
  exact (congrArg WeldFsm.runStatus hfsm).trans
    (WeldFsm.phase_ready.mp (hmove.aborted (by rintro ⟨⟩)).2.2)

/-- A press that has just entered CYL1 has begun there, or was there before. -/
theorem WeldMove.descends {abort start : Bool} {phase : WeldPhase} {edges : WeldEdges}
    (hmove : WeldMove abort start phase edges .descending) :
    phase = .ready ∨ phase = .descending := by
  generalize hphase : WeldPhase.descending = phase' at hmove
  cases hmove <;> simp_all

/-- A press that enters WELD comes from CYL1. -/
theorem WeldMove.from_cyl1 {abort start : Bool} {phase phase' : WeldPhase} {edges : WeldEdges}
    (hmove : WeldMove abort start phase edges phase')
    (hnow : phase' = .armed ∨ phase' = .sonicating)
    (hbefore : ¬ (phase = .armed ∨ phase = .sonicating)) : phase = .descending := by
  cases hmove <;> simp_all

/-- A call that finds the press in CYL1 and does not end in READY has found it held. -/
theorem bothHeld_of_kept
    (hdescends : weldFsmStatus (stateAfter build boot past) = .cyl1)
    (hkept : weldFsmStatus (stateAfter build boot (call :: past)) ≠ .ready) :
    bothHeld build boot (call :: past) := by
  refine ⟨hdescends, ?_⟩
  rintro tick rfl hsteps hsafty
  by_contra hheld
  refine hkept (safety_aborts hsteps hdescends hsafty ?_)
  simpa [or_iff_not_imp_left] using hheld

/-- The descent of a press in CYL1 has been held since it began. -/
theorem held_descent (history : List Call)
    (hdescends : weldFsmStatus (stateAfter build boot history) = .cyl1) :
    since (bothHeld build boot) (cycleStarts build boot) history := by
  refine since_of_monitor (fun h ↦ weldFsmStatus (stateAfter build boot h) = .cyl1) ?_ ?_ history
    hdescends
  · have hboot : (stateAfter build boot []).weld = (resetState build boot).weld :=
      (quiet_boot build boot).weld
    have hready : weldFsmStatus (stateAfter build boot []) = .ready :=
      congrArg (fun weld ↦ weld.fsm.runStatus) hboot
    rw [hready]
    rintro ⟨⟩
  · intro call past hnow
    have hkept : weldFsmStatus (stateAfter build boot (call :: past)) ≠ .ready := by
      rw [hnow]
      rintro ⟨⟩
    have hphase : (stateAfter build boot (call :: past)).weld.fsm.phase = .descending :=
      WeldFsm.phase_cyl1.mpr hnow
    rcases exec_cycle build call (stateAfter build boot past) with
      ⟨-, -, hsame⟩ | ⟨⟨start, hmove⟩, -⟩
    · have hpast := WeldFsm.phase_cyl1.mp (hsame.symm.trans hphase)
      exact Or.inr ⟨bothHeld_of_kept hpast hkept, hpast⟩
    · rcases (hphase ▸ hmove : WeldMove _ _ _ _ .descending).descends with hready | hpast
      · exact Or.inl ⟨WeldFsm.phase_ready.mp hready, hnow⟩
      · have hpast := WeldFsm.phase_cyl1.mp hpast
        exact Or.inr ⟨bothHeld_of_kept hpast hkept, hpast⟩

/-- A press that enters WELD has been held since its descent began. -/
theorem held_weld (hpast : weldFsmStatus (stateAfter build boot past) ≠ .weld)
    (hnow : weldFsmStatus (stateAfter build boot (call :: past)) = .weld) :
    since (bothHeld build boot) (cycleStarts build boot) (call :: past) := by
  have hdescends : weldFsmStatus (stateAfter build boot past) = .cyl1 := by
    have hweld := WeldFsm.phase_weld.mpr hnow
    have hnot := mt WeldFsm.phase_weld.mp hpast
    rcases exec_cycle build call (stateAfter build boot past) with
      ⟨-, -, hsame⟩ | ⟨⟨start, hmove⟩, -⟩
    · change (call.exec build (stateAfter build boot past)).weld.fsm.phase = _ ∨
        (call.exec build (stateAfter build boot past)).weld.fsm.phase = _ at hweld
      rw [hsame] at hweld
      exact absurd hweld hnot
    · exact WeldFsm.phase_cyl1.mp (hmove.from_cyl1 hweld hnot)
  refine Or.inr ⟨bothHeld_of_kept hdescends ?_, held_descent past hdescends⟩
  rw [hnow]
  rintro ⟨⟩

/-! ### The pin -/

/-- With horn-down mode off the pin is down only if the core is. -/
def PinBelow (s : Sys) : Prop :=
  s.horn.mode = false → s.pins.solDn = true → s.weld.fsm.solDn = true

theorem PinMove.below {s s' : Sys} (hmove : PinMove s s') (hs : PinBelow s) : PinBelow s' := by
  intro hoff hdown
  cases hmove with
  | kept hmode hpin hlevel =>
    have hoff : s.horn.mode = false := hmode.symm.trans hoff
    rw [hpin hoff] at hdown
    rw [hlevel]
    exact hs hoff hdown
  | moved hmode hpin =>
    rw [← hpin (hmode.symm.trans hoff)]
    exact hdown
  | switched hswitched hweld =>
    obtain ⟨on, hhorn, hpin⟩ := hswitched
    rw [hpin] at hdown
    split_ifs at hdown with hsame
    rw [hhorn, HornGlue.setMode, if_pos hsame] at hoff
    rw [hweld]
    exact hs hoff hdown

theorem pinBelow (history : List Call) : PinBelow (stateAfter build boot history) := by
  induction history with
  | nil =>
    intro _ hdown
    have hpin : (stateAfter build boot []).pins.solDn = false := (quiet_boot build boot).solDn
    exact absurd (hdown.symm.trans hpin) (by decide)
  | cons call past ih =>
    exact (exec_pinMove build call (after_coherent build boot past) (horn_released past)).below ih

variable (build boot) in
/-- If the newest call is a weld tick that found the press in CYL1 and the safety on, and sampled a
released key, it has aborted the cycle with the solenoid off. -/
def safetyAborts : Past Call := newest build boot fun call s s' ↦
  ∀ tick, call = .weldTick tick → weldSteps tick s = true → weldFsmStatus s = .cyl1 →
    s.cfg.fSafty ≠ 0 → tick.key1 = true ∨ tick.key2 = true →
      weldFsmStatus s' = .ready ∧ s'.weld.fsm.solDn = false ∧ s'.pins.solDn = false

theorem safetyAborts_run (call : Call) (past : List Call) :
    safetyAborts build boot (call :: past) := by
  rintro tick rfl hsteps hdescends hsafty hreleased
  have hready := safety_aborts hsteps hdescends hsafty hreleased
  have hcoherent := after_coherent build boot (.weldTick tick :: past)
  have hbelow := @pinBelow build boot (.weldTick tick :: past)
  have hlow := hcoherent.upright.ready hready
  refine ⟨hready, hlow, ?_⟩
  have hoff : (stateAfter build boot (.weldTick tick :: past)).horn.mode = false :=
    weldSteps_off hsteps
  by_contra hdown
  exact absurd ((hbelow hoff (by simpa using hdown)).symm.trans hlow) (by decide)

/-- A cycle begins only with a weld tick that samples both keys pressed, in READY and with the gate
open; since a cycle that began before, a weld tick has sampled both keys released in READY. With the
safety on, a weld tick that samples a released key in CYL1 aborts with the solenoid off, and a press
that enters WELD has sampled both keys pressed in every weld tick since its cycle began. -/
theorem two_hand (build : Build) (boot : BootIn) (call : Call) (past : List Call) :
    (cycleStarts build boot (call :: past) → handsStart build boot (call :: past)) ∧
      (cycleStarts build boot (call :: past) → once (cycleStarts build boot) past →
        since (fun h ↦ ¬ cycleStarts build boot h) (rearmed build boot) past) ∧
      safetyAborts build boot (call :: past) ∧
      (weldFsmStatus (stateAfter build boot past) ≠ .weld →
        weldFsmStatus (stateAfter build boot (call :: past)) = .weld →
          since (bothHeld build boot) (cycleStarts build boot) (call :: past)) := by
  refine ⟨fun hstarts ↦ (handsStart_of_cycleStarts hstarts).1, fun hstarts honce ↦ ?_,
    safetyAborts_run call past, held_weld⟩
  refine (inCycle_or_rearmed past honce).resolve_left fun hset ↦ ?_
  exact absurd (hset.symm.trans (handsStart_of_cycleStarts hstarts).2.1) (by decide)

end Runs

end UsCtrl
