import UsCtrl.Screen

/-!
# The warning page is never stuck

Three causes turn the panel to the warning page or keep it there: the emergency stop, the overload,
and a published fault. Four paths leave it, and each asks a copy of the published fault that the
panel tick overwrites in every iteration, that the overload tick marks in between, and that two keys
of the panel clear. A path that finds the copy set while nothing is wrong would leave the page shown
for good, and the weld gate closed with it.

That does not happen: what the copy shows is either the overload or a fault that the panel tick has
seen, and whichever is left last finds the other gone (`WarningCause`). `warning_has_cause` is the
result.
-/

set_option autoImplicit false
set_option relaxedAutoImplicit false

namespace UsCtrl

open Foundation

/-! ### The cause -/

/-- The warning page has a cause, and so has every bit of the shown fault: an overload that is
active, or a fault that the panel tick has seen published. -/
structure Screen.Caused (screen : Screen) (estop overload : Bool) : Prop where
  page : screen.page = .warning → estop = true ∨ overload = true ∨ screen.prev.any = true
  overload : screen.shown.ovld = true → overload = true ∨ screen.prev.any = true
  fault : screen.shown.ovtime = true ∨ screen.shown.outerr = true → screen.prev.any = true

/-- The screen is caused by the levels of the same state. -/
def WarningCause (s : Sys) : Prop := s.lcd.screen.Caused s.input.estopActive s.overload.active

/-- A set bit of the shown fault is an overload or a published fault. -/
theorem Screen.Caused.any {screen : Screen} {overload : Bool}
    (hoverload : screen.shown.ovld = true → overload = true ∨ screen.prev.any = true)
    (hfault : screen.shown.ovtime = true ∨ screen.shown.outerr = true → screen.prev.any = true)
    (hany : screen.shown.any = true) : overload = true ∨ screen.prev.any = true := by
  simp only [ErrorStatus.any, Bool.or_eq_true, or_assoc] at hany
  rcases hany with hovld | hbits
  · exact hoverload hovld
  · exact Or.inr (hfault hbits)

/-- Whoever lets go of the warning page leaves it, or leaves it to a cause. -/
theorem Screen.Caused.released {screen : Screen} {estop overload : Bool} (sysMode : ℕ)
    (hoverload : screen.shown.ovld = true → overload = true ∨ screen.prev.any = true)
    (hfault : screen.shown.ovtime = true ∨ screen.shown.outerr = true → screen.prev.any = true) :
    (screen.released estop sysMode).Caused estop overload := by
  unfold Screen.released
  split_ifs with hfree
  · refine ⟨fun hwarning ↦ ?_, hoverload, hfault⟩
    rcases runPageForMode_run sysMode with hrun | hrun <;> rw [hrun] at hwarning <;> cases hwarning
  · refine ⟨fun hwarning ↦ ?_, hoverload, hfault⟩
    cases hestop : estop with
    | true => exact Or.inl rfl
    | false =>
      refine Or.inr (Screen.Caused.any hoverload hfault ?_)
      by_contra hclear
      exact hfree ⟨hwarning, hestop, by simpa using hclear⟩

/-! ### Steps -/

/-- A panel frame moves no level, does not turn to the page, and only clears bits. -/
theorem cause_frame (build : Build) (f : FrameIn) {s : Sys} (hs : WarningCause s) :
    WarningCause (appLcdInputDispatch f s) := by
  have hestop : (appLcdInputDispatch f s).input.estopActive = s.input.estopActive :=
    ((exec_frame build (.frame f) s).input (by rintro ⟨⟩)).1
  have hoverload : (appLcdInputDispatch f s).overload.active = s.overload.active :=
    ((exec_frame build (.frame f) s).overload (by rintro ⟨⟩)).1
  obtain ⟨hprev, hshown, hturn⟩ := dispatch_screen f s
  unfold WarningCause at hs ⊢
  rw [hestop, hoverload]
  constructor
  · intro hwarning
    rw [show (appLcdInputDispatch f s).lcd.screen.prev = s.lcd.screen.prev from hprev]
    refine hs.page ?_
    by_contra hpage
    exact hturn.ne_warning hpage hwarning
  · intro hovld
    rw [show (appLcdInputDispatch f s).lcd.screen.prev = s.lcd.screen.prev from hprev]
    rcases hshown with h | h | h <;> rw [screen_shown, h] at hovld
    · exact hs.overload hovld
    · cases hovld
    · cases hovld
  · intro hbits
    rw [show (appLcdInputDispatch f s).lcd.screen.prev = s.lcd.screen.prev from hprev]
    rcases hshown with h | h | h <;> rw [screen_shown, h] at hbits
    · exact hs.fault hbits
    · simp [ErrorStatus.clear] at hbits
    · exact hs.fault (Or.inl (by simpa using hbits))

/-- The end of an overload lets go of the warning page, unless the emergency stop or a fault holds
it. -/
theorem cause_overloadTick (tick : OverloadTickIn) {s : Sys} (hs : WarningCause s)
    (hcore : s.overload.active = s.overload.fsm.active) :
    WarningCause (appOverloadTick tick s) := by
  rcases appOverloadTick_cases tick s with ⟨-, heq⟩ | ⟨hdue, hbody⟩
  · rw [heq]
    exact hs
  · have hlevel : (appOverloadTick tick s).overload.active =
        (overloadFsmStep tick.raw s.overload.fsm).1.active := (hbody.frame .cycle).overload
    have hestop : (appOverloadTick tick s).input.estopActive = s.input.estopActive :=
      (hbody.frame .cycle).estop
    have hevent : overloadEvent tick s = ⟨(overloadFsmStep tick.raw s.overload.fsm).1.active,
        (overloadFsmStep tick.raw s.overload.fsm).1.active && !s.overload.fsm.active,
        !(overloadFsmStep tick.raw s.overload.fsm).1.active && s.overload.fsm.active⟩ :=
      overloadFsmStep_event tick.raw s.overload.fsm
    have hscreen := overloadTick_screen tick s
    rw [hevent, if_neg (by simp [hdue]), ← hcore] at hscreen
    unfold WarningCause at hs ⊢
    rw [hlevel, hestop, hscreen]
    cases (overloadFsmStep tick.raw s.overload.fsm).1.active with
    | true =>
      cases hbefore : s.overload.active with
      | true =>
        rw [hbefore] at hs
        exact hs
      | false => exact ⟨fun _ ↦ Or.inr (Or.inl rfl), fun _ ↦ Or.inl rfl, hs.fault⟩
    | false =>
      cases hbefore : s.overload.active with
      | true => exact Screen.Caused.released s.lcd.sysMode (by rintro ⟨⟩) hs.fault
      | false =>
        rw [hbefore] at hs
        exact hs

/-- The emergency stop is the cause while it is active; leaving it leaves the page, unless the shown
fault holds it. -/
theorem cause_inputTick (build : Build) (tick : InputTickIn) {s : Sys} (hs : WarningCause s) :
    WarningCause (appInputTick tick s) := by
  have hoverload : (appInputTick tick s).overload.active = s.overload.active :=
    ((exec_frame build (.inputTick tick) s).overload (by rintro ⟨⟩)).1
  rcases appInputTick_cases tick s with ⟨-, heq⟩ | ⟨hdue, heq⟩
  · rw [heq]
    exact hs
  · have hlevel : (appInputTick tick s).input.estopActive = (inputEvent tick s).estopActive := by
      rw [heq]
      exact (inputBody_scan tick s).1
    have hscreen := inputTick_screen tick s
    rw [if_neg (by simp [hdue])] at hscreen
    unfold WarningCause at hs ⊢
    rw [hlevel, hoverload, hscreen]
    split_ifs with henter hleft
    · have hactive : (inputEvent tick s).estopActive = true := inputFsmStep_enter _ _ henter
      exact ⟨fun _ ↦ Or.inl hactive, hs.overload, hs.fault⟩
    · refine ⟨fun hwarning ↦ ?_, hs.overload, hs.fault⟩
      rcases runPageForMode_run s.lcd.sysMode with hrun | hrun <;>
        · rw [hrun] at hwarning
          cases hwarning
    · refine ⟨fun hwarning ↦ ?_, hs.overload, hs.fault⟩
      cases hactive : (inputEvent tick s).estopActive with
      | true => exact Or.inl rfl
      | false =>
        rcases hs.page hwarning with hestop | hcause
        · refine Or.inr (Screen.Caused.any hs.overload hs.fault ?_)
          by_contra hclear
          exact hleft ⟨hestop, hactive, by simpa using hclear⟩
        · exact Or.inr hcause

/-- A new fault is a cause; the end of a fault lets go of the warning page. -/
theorem cause_lcdTick (build : Build) {s : Sys} (hs : WarningCause s) :
    WarningCause (appLcdTick s) := by
  have hoverload : (appLcdTick s).overload.active = s.overload.active :=
    ((exec_frame build .lcdTick s).overload (by rintro ⟨⟩)).1
  have hestop : (appLcdTick s).input.estopActive = s.input.estopActive :=
    ((exec_frame build .lcdTick s).input (by rintro ⟨⟩)).1
  have hbits {err : ErrorStatus} (h : err.ovtime = true ∨ err.outerr = true) : err.any = true := by
    rcases h with h | h <;> simp [ErrorStatus.any, h]
  have hovld {err : ErrorStatus} (h : err.ovld = true) : err.any = true := by
    simp [ErrorStatus.any, h]
  unfold WarningCause at hs ⊢
  rw [hestop, hoverload, lcdTick_screen]
  split_ifs with hedge hfall
  · have hany : s.measure.errorStatus.any = true := by
      simp only [lcdFaultEdge, Bool.and_eq_true] at hedge
      exact hedge.1
    exact ⟨fun _ ↦ Or.inr (Or.inr hany), fun _ ↦ Or.inr hany, fun _ ↦ hany⟩
  · exact Screen.Caused.released s.lcd.sysMode (fun h ↦ Or.inr (hovld h)) hbits
  · refine ⟨fun hwarning ↦ ?_, fun h ↦ Or.inr (hovld h), hbits⟩
    rcases hs.page hwarning with hcause | hcause | hprev
    · exact Or.inl hcause
    · exact Or.inr (Or.inl hcause)
    · refine Or.inr (Or.inr ?_)
      by_contra hclear
      exact hfall ⟨by simpa using hclear, hprev⟩

/-- Every call keeps the cause. -/
theorem exec_cause (build : Build) (call : Call) {s : Sys} (hs : WarningCause s)
    (hcore : s.overload.active = s.overload.fsm.active) : WarningCause (call.exec build s) := by
  have hframe := exec_frame build call s
  have hoff (hscreen : (call.exec build s).lcd.screen = s.lcd.screen)
      (hinput : call.kind ≠ .input) (hoverload : call.kind ≠ .overload) :
      WarningCause (call.exec build s) := by
    unfold WarningCause at hs ⊢
    rw [hscreen, (hframe.input hinput).1, (hframe.overload hoverload).1]
    exact hs
  cases call with
  | frame f => exact cause_frame build f hs
  | lcdTick => exact cause_lcdTick build hs
  | overloadTick tick => exact cause_overloadTick tick hs hcore
  | inputTick tick => exact cause_inputTick build tick hs
  | _ => exact hoff (exec_screen build rfl s) (by rintro ⟨⟩) (by rintro ⟨⟩)

/-! ### Runs -/

theorem after_cause (build : Build) (boot : BootIn) (history : List Call) :
    WarningCause (stateAfter build boot history) := by
  induction history with
  | nil =>
    show Screen.Caused (bootState build boot).lcd.screen _ _
    rw [bootState_screen]
    refine ⟨fun hwarning ↦ ?_, by rintro ⟨⟩, fun hbits ↦ by simp [ErrorStatus.clear] at hbits⟩
    rcases runPageForMode_run (bootState build boot).lcd.sysMode with hrun | hrun <;>
      · rw [hrun] at hwarning
        cases hwarning
  | cons call past ih => exact exec_cause build call ih (after_coherent build boot past).overload

/-- Assumes: the warning page is shown right after a panel tick. Then the emergency stop or the
overload is active, or a fault is published. -/
theorem warning_has_cause (build : Build) (boot : BootIn) (history : List Call)
    (hwarning : (stateAfter build boot (.lcdTick :: history)).lcd.lcdStatus = .warning) :
    appEstopActive (stateAfter build boot (.lcdTick :: history)) = true ∨
      appOverloadActive (stateAfter build boot (.lcdTick :: history)) = true ∨
      (stateAfter build boot (.lcdTick :: history)).measure.errorStatus.any = true := by
  have hcause := (after_cause build boot (.lcdTick :: history)).page hwarning
  have hpublished : (stateAfter build boot (.lcdTick :: history)).measure.errorStatus =
      (stateAfter build boot history).measure.errorStatus :=
    ((exec_frame build .lcdTick (stateAfter build boot history)).published (by rintro ⟨⟩)).2.1
  have hprev : (stateAfter build boot (.lcdTick :: history)).lcd.screen.prev =
      (stateAfter build boot history).measure.errorStatus := by
    show (appLcdTick (stateAfter build boot history)).lcd.screen.prev = _
    rw [lcdTick_screen, Screen.released]
    split_ifs <;> rfl
  rw [hpublished, ← hprev]
  exact hcause

/-- The panel selects the standard model while the emergency switch is open. -/
def openSwitch : SuperloopRun where
  done := [{ quietIter 10 with frames := [keyFrame 0x1070 2 10] }]
  current := quietIter 20
  made := 1

theorem openSwitch_has_cause :
    appEstopActive (stateAfter stdBuild serialBoot openSwitch.history) = true ∨
      appOverloadActive (stateAfter stdBuild serialBoot openSwitch.history) = true ∨
      (stateAfter stdBuild serialBoot openSwitch.history).measure.errorStatus.any = true := by
  have hsplit : openSwitch.history = .lcdTick :: openSwitch.history.tail := rfl
  rw [hsplit]
  exact warning_has_cause stdBuild serialBoot openSwitch.history.tail (by decide +kernel)

end UsCtrl
