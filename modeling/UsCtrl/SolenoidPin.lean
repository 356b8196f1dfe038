import UsCtrl.HornExclusion

/-!
# The solenoid pin and the weld core

Three modules write the solenoid pin. The weld tick and the horn tick write it when their own level
changes, and neither cache sees the writes of the other; the emergency stop and a switch of
horn-down mode drop it at once.

With the mode off the pin carries the level of the weld core (`SolAgrees`) all along a run exactly
if no call leaves the mode while the core holds the solenoid down (`solenoid_follows`): the switch
drops the pin, the level of the core has not changed, and no tick writes it again before the core
rises. Neither the emergency stop nor a page that freezes the core parts the two.

The solenoid is down in WELD as far as the core goes (`WeldFsm.Lowered`), so a pin that agrees with
it is down there too.
-/

set_option autoImplicit false
set_option relaxedAutoImplicit false

namespace UsCtrl

open Foundation

/-! ### The level of the core -/

/-- A press that has begun to descend and not to rise holds the solenoid down. -/
structure WeldFsm.Lowered (fsm : WeldFsm) : Prop where
  descending : fsm.runStatus = .cyl1 → fsm.fStatusStart = true → fsm.solDn = true
  welding : fsm.runStatus = .weld → fsm.solDn = true
  holding : fsm.runStatus = .hold → fsm.solDn = true

theorem weldFsmInit_lowered : weldFsmInit.Lowered := ⟨by rintro ⟨⟩, by rintro ⟨⟩, by rintro ⟨⟩⟩

theorem weldFsmStep_lowered (input : WeldIn) {fsm : WeldFsm} (hfsm : fsm.Lowered) :
    (weldFsmStep input fsm).1.Lowered := by
  obtain ⟨hdescending, hwelding, hholding⟩ := hfsm
  unfold weldFsmStep
  split_ifs with habort
  · exact ⟨by rintro ⟨⟩, by rintro ⟨⟩, by rintro ⟨⟩⟩
  · cases hstatus : fsm.runStatus <;>
      simp only [weldFsmSwitch, weldFsmPrelude, hstatus] at hdescending hwelding hholding ⊢
    · unfold weldStepReady
      split_ifs <;> constructor <;> simp_all
    · unfold weldStepCyl1 enterWeld
      split_ifs <;> constructor <;> simp_all
    · simp only [weldStepWeld, weldStepMulti, weldExitToHold]
      split_ifs <;> constructor <;> simp_all
    · unfold weldStepHold
      split_ifs <;> constructor <;> simp_all
    · unfold weldStepCyl2 weldCycleDone
      split_ifs <;> constructor <;> simp_all

section Runs

variable {build : Build} {boot : BootIn}

theorem weldFsm_lowered (history : List Call) :
    (stateAfter build boot history).weld.fsm.Lowered := by
  induction history with
  | nil =>
    have hboot : (stateAfter build boot []).weld = (resetState build boot).weld :=
      (quiet_boot build boot).weld
    rw [hboot]
    exact weldFsmInit_lowered
  | cons call past ih =>
    change (call.exec build (stateAfter build boot past)).weld.fsm.Lowered
    rcases exec_press build call (stateAfter build boot past) with
      ⟨hweld, -⟩ | ⟨tick, -, -, -, ⟨-, -, hfsm⟩ | ⟨-, -, hfsm⟩⟩ | ⟨-, -, hfsm⟩
    · rw [hweld]
      exact ih
    · rw [hfsm]
      exact ih
    · rw [hfsm]
      exact weldFsmStep_lowered _ ih
    · rw [hfsm]
      exact weldFsmStep_lowered _ ih

/-- With the mode off, the horn tick remembers a released solenoid. -/
theorem horn_released (history : List Call) :
    (stateAfter build boot history).horn.mode = false →
      (stateAfter build boot history).horn.solLast = false := by
  induction history with
  | nil =>
    have hboot : (stateAfter build boot []).horn = (resetState build boot).horn :=
      (quiet_boot build boot).horn
    rw [hboot]
    exact fun _ ↦ rfl
  | cons call past ih =>
    change (call.exec build (stateAfter build boot past)).horn.mode = false →
      (call.exec build (stateAfter build boot past)).horn.solLast = false
    generalize stateAfter build boot past = s at ih ⊢
    intro hmode
    cases hsampled : hornSampled call s with
    | some tick =>
      rw [exec_hornTick build hsampled] at hmode ⊢
      by_contra hdown
      exact absurd ((hornStep_down (by simpa using hdown)).1.symm.trans hmode) (by decide)
    | none =>
      rcases (exec_horn build hsampled).cases with hsame | ⟨-, -, hreleased⟩
      · rw [hsame] at hmode ⊢
        exact ih hmode
      · exact hreleased

end Runs

/-! ### One call -/

/-- With horn-down mode off the pin carries the level of the weld core. -/
def PinAgrees (s : Sys) : Prop := s.horn.mode = false → s.pins.solDn = s.weld.fsm.solDn

/-- A call between the two states does not leave horn-down mode while the weld core holds the
solenoid down. -/
def LeavesReleased (s s' : Sys) : Prop :=
  s.horn.mode = true → s'.horn.mode = false → s.weld.fsm.solDn = false

/-- What a call does to the pin: with the mode off, nothing while the core keeps its level, or it
takes it to the level of the core; and it may switch the mode, which drops the pin. -/
inductive PinMove (s s' : Sys) : Prop
  | kept (hmode : s'.horn.mode = s.horn.mode)
      (hpin : s.horn.mode = false → s'.pins.solDn = s.pins.solDn)
      (hlevel : s'.weld.fsm.solDn = s.weld.fsm.solDn)
  | moved (hmode : s'.horn.mode = s.horn.mode)
      (hpin : s.horn.mode = false → s'.pins.solDn = s'.weld.fsm.solDn)
  | switched (hpin : SolSwitched s s') (hweld : s'.weld = s.weld)

theorem PinMove.refl (s : Sys) : PinMove s s := .kept rfl (fun _ ↦ rfl) rfl

/-- Behind a move that finds the pin in agreement, it agrees exactly if the move does not leave
horn-down mode while the core holds the solenoid down. -/
theorem PinMove.agrees {s s' : Sys} (hmove : PinMove s s') (hs : PinAgrees s) :
    PinAgrees s' ↔ LeavesReleased s s' := by
  cases hmove with
  | kept hmode hpin hlevel =>
    refine iff_of_true (fun hoff ↦ ?_) fun hon hoff ↦ ?_
    · have hoff : s.horn.mode = false := hmode.symm.trans hoff
      rw [hpin hoff, hlevel]
      exact hs hoff
    · exact absurd (hon.symm.trans (hmode.symm.trans hoff)) (by decide)
  | moved hmode hpin =>
    refine iff_of_true (fun hoff ↦ hpin (hmode.symm.trans hoff)) fun hon hoff ↦ ?_
    exact absurd (hon.symm.trans (hmode.symm.trans hoff)) (by decide)
  | switched hswitched hweld =>
    obtain ⟨on, hhorn, hpin⟩ := hswitched
    by_cases hsame : on = s.horn.mode
    · rw [HornGlue.setMode, if_pos hsame] at hhorn
      rw [if_pos hsame] at hpin
      refine iff_of_true (fun hoff ↦ ?_) fun hon hoff ↦ ?_
      · rw [hpin, hweld]
        exact hs ((congrArg HornGlue.mode hhorn).symm.trans hoff)
      · rw [hhorn, hon] at hoff
        exact absurd hoff (by decide)
    · rw [HornGlue.setMode, if_neg hsame] at hhorn
      rw [if_neg hsame] at hpin
      have hmode : s'.horn.mode = on := congrArg HornGlue.mode hhorn
      unfold PinAgrees LeavesReleased
      rw [hmode, hpin, hweld]
      cases on with
      | true => simp
      | false =>
        have hon : s.horn.mode = true := by simpa using fun h ↦ hsame (Eq.symm h)
        simp only [hon, forall_const]
        exact eq_comm

/-- A weld tick that steps the core leaves horn-down mode off, as it has found it. -/
theorem weldSteps_off {tick : WeldTickIn} {s : Sys} (hsteps : weldSteps tick s = true) :
    (appWeldTick tick s).horn.mode = false := by
  have hshown := (weldSteps_iff.mp hsteps).2
  rw [weldFrozen, Bool.or_eq_false_iff] at hshown
  rw [(appWeldTick_steps hsteps).horn]
  exact hshown.2

/-- A weld tick moves the pin when the level of the core changes, and only then. -/
theorem weldTick_pinMove (tick : WeldTickIn) {s : Sys} (hcoherent : Coherent s) :
    PinMove s (appWeldTick tick s) := by
  rcases appWeldTick_cases tick s with ⟨-, heq⟩ | ⟨-, -, heq⟩ | ⟨hsteps, hbody⟩
  · rw [heq]
    exact .refl s
  · rw [heq]
    exact .kept rfl (fun _ ↦ rfl) rfl
  · have hmode : (appWeldTick tick s).horn.mode = s.horn.mode := congrArg HornGlue.mode hbody.horn
    have hlast : (weldAdvance tick s).weld.solLast = s.weld.fsm.solDn := hcoherent.solLast
    have hpin := hbody.solDn
    rw [hlast] at hpin
    split_ifs at hpin with hlevel
    · exact .kept hmode (fun _ ↦ hpin) (by rw [hbody.fsm, hlevel])
    · exact .moved hmode fun _ ↦ by rw [hpin, hbody.fsm]

/-- An input tick drops the pin and aborts the core together. -/
theorem inputTick_pinMove (tick : InputTickIn) {s : Sys} (hcoherent : Coherent s) :
    PinMove s (appInputTick tick s) := by
  rcases appInputTick_cases tick s with ⟨-, heq⟩ | ⟨-, heq⟩
  · rw [heq]
    exact .refl s
  rw [heq]
  have hmode : (inputBody tick s).horn.mode = s.horn.mode :=
    congrArg HornGlue.mode (inputBody_horn tick s)
  cases henter : (inputEvent tick s).estopEnter with
  | true =>
    obtain ⟨-, hlow, hpin⟩ := inputBody_entered tick hcoherent.upright henter
    exact .moved hmode fun _ ↦ hpin.trans hlow.symm
  | false =>
    refine .kept hmode (fun _ ↦ ?_) (by rw [inputBody_press tick s henter])
    cases hestop : (inputEvent tick s).estopActive with
    | true =>
      rw [(inputBody_estop tick s hestop).1.solDn, inputScanned, henter]
      rfl
    | false =>
      obtain ⟨shown, hshown, hbody⟩ := inputBody_buttons tick s hestop
      rw [hbody, (inputButtons_sol _ _ _).pin, hshown.solDn]
      rfl

/-- With the mode off a horn tick has nothing to write. -/
theorem hornTick_pinMove (tick : HornTickIn) {s : Sys}
    (hreleased : s.horn.mode = false → s.horn.solLast = false) :
    PinMove s (appHornTick tick s) := by
  unfold appHornTick
  split_ifs with hdue
  · obtain ⟨hends, -, hoff⟩ := hornBody_ends tick s
    refine .kept (by rw [hends.horn, hornSolenoid_eq]) (fun hmode ↦ ?_)
      (by rw [(hends.frame .cycle).weld, hornSolenoid_eq])
    have hup : (hornStep tick s).2 = false := hornFsmStep_low _ _ (Or.inl hmode)
    rw [hends.solDn, hornSolenoid_eq]
    dsimp only
    rw [hup, hreleased hmode, if_pos rfl]
  · exact .refl s

theorem exec_pinMove (build : Build) (call : Call) {s : Sys} (hcoherent : Coherent s)
    (hreleased : s.horn.mode = false → s.horn.solLast = false) :
    PinMove s (call.exec build s) := by
  have hframe := exec_frame build call s
  cases call with
  | frame f =>
    exact .switched (appLcdInputDispatch_sol f s) (hframe.weld (by rintro ⟨⟩) (by rintro ⟨⟩))
  | modbusTick tick =>
    exact .switched (appModbusTick_sol build tick s) (hframe.weld (by rintro ⟨⟩) (by rintro ⟨⟩))
  | weldTick tick => exact weldTick_pinMove tick hcoherent
  | inputTick tick => exact inputTick_pinMove tick hcoherent
  | hornTick tick => exact hornTick_pinMove tick hreleased
  | _ =>
    exact .switched
      (SameSol.switched (exec_sol_kept build rfl (by rintro ⟨⟩) (by rintro ⟨⟩) (by rintro ⟨⟩)
        (by rintro ⟨⟩)))
      (hframe.weld (by rintro ⟨⟩) (by rintro ⟨⟩))

/-! ### Runs -/

section Runs

variable (build : Build) (boot : BootIn)

/-- The newest call does not leave horn-down mode while the weld core holds the solenoid down. -/
def LeavesUp : Past Call := newest build boot fun _ s s' ↦ LeavesReleased s s'

/-- With horn-down mode off the pin carries the level of the weld core. -/
def SolAgrees : Past Call := fun history ↦ PinAgrees (stateAfter build boot history)

/-- If the newest call is a weld tick that stepped the core, the pin carries the output of the step,
and it is down if the press is in WELD. -/
def SolFollows : Past Call := newest build boot fun call s s' ↦
  ∀ tick, call = .weldTick tick → weldSteps tick s = true →
    s'.pins.solDn = (weldBodyStep tick (weldAdvance tick s)).2.solDn ∧
      (weldFsmStatus s' = .weld → s'.pins.solDn = true)

variable {build boot}

theorem solAgrees_iff (history : List Call) :
    always (SolAgrees build boot) history ↔ always (LeavesUp build boot) history := by
  refine always_iff_always (fun _ ↦ ?_) (fun call past hpast ↦ ?_) history
  · have hboot := quiet_boot build boot
    have hpin : (stateAfter build boot []).pins.solDn = (resetState build boot).pins.solDn :=
      hboot.solDn
    have hweld : (stateAfter build boot []).weld = (resetState build boot).weld := hboot.weld
    rw [hpin, hweld]
    rfl
  · have hmove := exec_pinMove build call (after_coherent build boot past) (horn_released past)
    exact hmove.agrees hpast

/-- A step of the core ends with the pin in agreement. -/
theorem solFollows_of_agrees (call : Call) (past : List Call)
    (hagrees : SolAgrees build boot (call :: past)) : SolFollows build boot (call :: past) := by
  rintro tick rfl hsteps
  have hlowered := (@weldFsm_lowered build boot (.weldTick tick :: past)).welding
  change PinAgrees (appWeldTick tick (stateAfter build boot past)) at hagrees
  change (appWeldTick tick (stateAfter build boot past)).weld.fsm.runStatus = .weld →
    (appWeldTick tick (stateAfter build boot past)).weld.fsm.solDn = true at hlowered
  change (appWeldTick tick (stateAfter build boot past)).pins.solDn = _ ∧
    ((appWeldTick tick (stateAfter build boot past)).weld.fsm.runStatus = .weld →
      (appWeldTick tick (stateAfter build boot past)).pins.solDn = true)
  generalize stateAfter build boot past = s at *
  have hbody := appWeldTick_steps hsteps
  rw [hagrees (weldSteps_off hsteps)]
  refine ⟨?_, hlowered⟩
  rw [hbody.fsm]
  exact (weldFsmStep_solDn _ _).symm

/-- The pin carries the level of the weld core with the mode off, all along a run, exactly if no
call leaves the mode while the core holds the solenoid down. It then carries the output of every
step of the core, and is down in WELD. -/
theorem solenoid_follows (build : Build) (boot : BootIn) (history : List Call) :
    (always (SolAgrees build boot) history ↔ always (LeavesUp build boot) history) ∧
      (always (LeavesUp build boot) history → always (SolFollows build boot) history) := by
  refine ⟨solAgrees_iff history, fun hleaves ↦ ?_⟩
  have hagrees := (solAgrees_iff history).mpr hleaves
  clear hleaves
  induction history with
  | nil => trivial
  | cons call past ih => exact ⟨solFollows_of_agrees call past hagrees.1, ih hagrees.2⟩

end Runs

/-! ### The cylinder that stays up -/

/-- An iteration at rest but for the two hand keys, which are pressed. -/
def handsIter (now : ℕ) : IterIn := { keysIter now with horn := ⟨now, false, false⟩ }

/-- The panel sets DELAY1 to zero and the slave address, a cycle is begun, and HORN_CMD turns the
mode on and off while the cylinder descends. -/
def hornVisit : List IterIn :=
  [quietIter 4070, serialIter 4060 false (fc06 0x30 0), serialIter 4050 false (fc06 0x30 1),
    handsIter 4040, quietIter 4030, { quietIter 4020 with
      frames := [keyFrame 0x1203 0 4020, keyFrame 0x1100 1 4020, keyFrame 0x1071 1 4020,
        keyFrame 0x1050 1 4020] }]

/-- The cycle then welds with the cylinder up: the step that starts the run asks for a solenoid that
the switch has dropped. -/
theorem hornVisit_welds :
    Chronological (warmedRun hornVisit (quietIter 4080) 2).history ∧
      ¬ SolFollows stdBuild (netBoot false) (warmedRun hornVisit (quietIter 4080) 2).history ∧
      appRegRunSrc (stateAfter stdBuild (netBoot false)
        (warmedRun hornVisit (quietIter 4080) 2).history) = .cycle := by
  have hlast : (warmedRun hornVisit (quietIter 4080) 2).history =
      .weldTick (quietIter 4080).weld :: (warmedRun hornVisit (quietIter 4080) 1).history := rfl
  refine ⟨warmedRun_chronological _ _ _ ?_ ?_, fun hfollows ↦ ?_, ?_⟩
  · decide +kernel
  · decide +kernel
  · rw [hlast] at hfollows
    have hsteps : weldSteps (quietIter 4080).weld (stateAfter stdBuild (netBoot false)
        (warmedRun hornVisit (quietIter 4080) 1).history) = true := by
      rw [stateAfter, warmedRun_after]
      decide +kernel
    have hpin : (stateAfter stdBuild (netBoot false)
        (warmedRun hornVisit (quietIter 4080) 2).history).pins.solDn = true := by
      have hdown := (hfollows _ rfl hsteps).2
      rw [← hlast] at hdown
      refine hdown ?_
      rw [stateAfter, warmedRun_after]
      decide +kernel
    have hup : (stateAfter stdBuild (netBoot false)
        (warmedRun hornVisit (quietIter 4080) 2).history).pins.solDn = false := by
      rw [stateAfter, warmedRun_after]
      decide +kernel
    exact absurd (hpin.symm.trans hup) (by decide)
  · rw [stateAfter, warmedRun_after]
    decide +kernel

end UsCtrl
