import UsCtrl.Owners

/-!
# Invariants of every reachable state

What holds after every history whatever the inputs were (`Coherent`, `after_coherent`): the weld
glue agrees with its core about the solenoid and has consumed its start request, the emergency level
agrees with the switch memory, no run is active before the warm-up has ended, and the output pin
carries the level last published.
-/

set_option autoImplicit false
set_option relaxedAutoImplicit false

namespace UsCtrl

open Foundation

/-- The modules agree with what they remember of each other. -/
structure Coherent (s : Sys) : Prop where
  upright : s.weld.fsm.Upright
  solLast : s.weld.solLast = s.weld.fsm.solDn
  startPending : s.weld.startPending = false
  synced : s.input.fsm.Synced
  level : s.input.estopActive = s.input.fsm.estopActive
  warm : s.reg.usRunStatus ≠ .idle → s.reg.mainState = 0
  usOut : s.pins.usOut = s.reg.usOutOn
  overload : s.overload.active = s.overload.fsm.active

/-- Booting reaches the loop with the run gate as reset. -/
theorem quiet_boot (build : Build) (boot : BootIn) :
    Quiet (resetState build boot) (bootState build boot) := by
  refine Quiet.trans ?_ (quiet_applyConfig build boot.sensDn _)
  have hshown : Quiet (resetState build boot) (appInit boot (resetState build boot)) := by
    refine Quiet.trans ?_ (quiet_lcd _ _)
    refine Quiet.trans ?_ (quiet_initMode boot.tPage _)
    exact Quiet.trans (quiet_edit _ _ _ _ _) (quiet_hookSetPot _ _)
  exact hshown

theorem bootState_coherent (build : Build) (boot : BootIn) : Coherent (bootState build boot) := by
  have hboot := quiet_boot build boot
  constructor
  · rw [hboot.weld]
    exact weldFsmInit_upright
  · rw [hboot.weld]
    rfl
  · rw [hboot.weld]
    rfl
  · rw [hboot.buttons]
    rfl
  · rw [hboot.estop, hboot.buttons]
    rfl
  · rw [hboot.reg]
    exact fun hrun ↦ absurd rfl hrun
  · rw [hboot.usOut, hboot.reg]
    rfl
  · rw [hboot.overload, hboot.debounce]
    rfl

/-! ### Steps -/

/-- The weld glue agrees with its core. -/
def WeldGlue.Settled (weld : WeldGlue) : Prop :=
  weld.fsm.Upright ∧ weld.solLast = weld.fsm.solDn ∧ weld.startPending = false

theorem exec_settled (build : Build) (call : Call) {s : Sys} (hs : s.weld.Settled) :
    (call.exec build s).weld.Settled := by
  have hframe := exec_frame build call s
  rcases call.weldTick_or with ⟨tick, rfl⟩ | hweld
  · rcases appWeldTick_cases tick s with ⟨-, heq⟩ | ⟨-, -, heq⟩ | ⟨-, hbody⟩
    · rw [Call.exec, heq]
      exact hs
    · rw [Call.exec, heq]
      exact hs
    · refine ⟨?_, hbody.solLast.trans (congrArg WeldFsm.solDn hbody.fsm.symm), hbody.startPending⟩
      rw [Call.exec, hbody.fsm]
      exact weldFsmStep_upright _ hs.1
  rcases call.inputTick_or with ⟨tick, rfl⟩ | hinput
  · rcases appInputTick_cases tick s with ⟨-, heq⟩ | ⟨-, heq⟩
    · rw [Call.exec, heq]
      exact hs
    · rw [Call.exec, heq]
      cases hestop : (inputEvent tick s).estopActive with
      | false => exact ((inputBody_acts tick s hestop).frame.weld).symm ▸ hs
      | true =>
        rw [((inputBody_estop tick s hestop).1.frame .cycle).weld, inputScanned]
        split_ifs
        · rw [weldAborted_weld]
          exact ⟨weldFsmStep_upright _ hs.1, rfl, hs.2.2⟩
        · exact hs
  exact (hframe.weld hweld hinput).symm ▸ hs

/-- The scan leaves the emergency level in agreement with its switch memory. -/
theorem exec_synced (build : Build) (call : Call) {s : Sys}
    (hs : s.input.fsm.Synced ∧ s.input.estopActive = s.input.fsm.estopActive) :
    (call.exec build s).input.fsm.Synced ∧
      (call.exec build s).input.estopActive = (call.exec build s).input.fsm.estopActive := by
  have hframe := exec_frame build call s
  rcases call.inputTick_or with ⟨tick, rfl⟩ | hinput
  · have hscan : (inputSample tick s).1.input.fsm.Synced ∧
        (inputSample tick s).1.input.estopActive = (inputSample tick s).1.input.fsm.estopActive :=
      ⟨inputFsmStep_synced _ _, inputFsmStep_level _ _⟩
    rcases appInputTick_cases tick s with ⟨-, heq⟩ | ⟨-, heq⟩
    · rw [Call.exec, heq]
      exact hs
    · obtain ⟨hlevel, hfsm⟩ := inputBody_scan tick s
      rw [Call.exec, heq, hlevel, hfsm]
      exact hscan
  obtain ⟨hlevel, hfsm⟩ := hframe.input hinput
  rw [hlevel, hfsm]
  exact hs

theorem exec_warm (build : Build) (call : Call) {s : Sys}
    (hs : s.reg.usRunStatus ≠ .idle → s.reg.mainState = 0) :
    (call.exec build s).reg.usRunStatus ≠ .idle → (call.exec build s).reg.mainState = 0 := by
  have hframe := exec_frame build call s
  intro hrun
  by_cases hstarts : (call.exec build s).ghost.starts = s.ghost.starts
  · rcases hframe.kept hstarts with hkept | hidle
    · exact hframe.warm (hs (hkept ▸ hrun))
    · exact absurd hidle hrun
  · exact hframe.warm (hframe.accepted hstarts).1

theorem exec_usOut (build : Build) (call : Call) {s : Sys} (hs : s.pins.usOut = s.reg.usOutOn) :
    (call.exec build s).pins.usOut = (call.exec build s).reg.usOutOn := by
  have hframe := exec_frame build call s
  rcases call.regTick_or with ⟨tick, rfl⟩ | hreg
  · have htick := appRegTick_spec (regRunLimitsOf s.cfg) tick s
    rw [Call.exec, htick.usOut]
    split_ifs with hsame
    · rw [hsame, hs]
    · rfl
  obtain ⟨-, -, houtOn, husOut⟩ := hframe.published hreg
  rw [houtOn, husOut, hs]

/-- The overload level is the one its core keeps. -/
theorem exec_overload (build : Build) (call : Call) {s : Sys}
    (hs : s.overload.active = s.overload.fsm.active) :
    (call.exec build s).overload.active = (call.exec build s).overload.fsm.active := by
  have hframe := exec_frame build call s
  rcases call.overloadTick_or with ⟨tick, rfl⟩ | hoverload
  · rcases appOverloadTick_cases tick s with ⟨-, heq⟩ | ⟨-, hbody⟩
    · rw [Call.exec, heq]
      exact hs
    · have hsampled := hbody.frame .cycle
      exact hsampled.overload.trans (congrArg OverloadFsm.active hsampled.debounce).symm
  obtain ⟨hactive, hfsm⟩ := hframe.overload hoverload
  rw [hactive, hfsm, hs]

theorem exec_coherent (build : Build) (call : Call) {s : Sys} (hs : Coherent s) :
    Coherent (call.exec build s) := by
  obtain ⟨hupright, hsolLast, hpending⟩ :=
    exec_settled build call ⟨hs.upright, hs.solLast, hs.startPending⟩
  obtain ⟨hsynced, hlevel⟩ := exec_synced build call ⟨hs.synced, hs.level⟩
  exact ⟨hupright, hsolLast, hpending, hsynced, hlevel, exec_warm build call hs.warm,
    exec_usOut build call hs.usOut, exec_overload build call hs.overload⟩

/-- Every history leaves a coherent state. -/
theorem after_coherent (build : Build) (boot : BootIn) (history : List Call) :
    Coherent ((controller build boot).after history) :=
  (controller build boot).invariant Coherent (bootState_coherent build boot)
    (fun call _ hs ↦ exec_coherent build call hs) history

end UsCtrl
