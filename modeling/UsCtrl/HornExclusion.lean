import UsCtrl.StartGate
import UsCtrl.WeldDwell

/-!
# Horn-down mode excludes ultrasonics

While horn-down mode is on, no source starts a run and the weld core takes no step but the abort of
an emergency stop. A run that was active when the mode was entered ends in the next horn tick that
is not early, and from then on none is active until the mode is left (`hornMode_excludes`).

A call switches the mode at most once. So a call that finds the mode off and leaves it off never had
it on, which is how an accepted START is seen to fall into a state with the mode off
(`exec_started_horn`).
-/

set_option autoImplicit false
set_option relaxedAutoImplicit false

namespace UsCtrl

open Foundation

/-! ### A START switches no mode -/

theorem dispatch_started_horn {f : FrameIn} {s : Sys}
    (haccepted : (appLcdInputDispatch f s).ghost.starts ≠ s.ghost.starts) :
    (appLcdInputDispatch f s).horn = s.horn := by
  unfold appLcdInputDispatch
  cases hkey : f.key with
  | none => rfl
  | some key =>
    by_cases hsave : key = .dataSave
    · subst hsave
      have hcommand : f.command s ≠ some .start := by
        rw [FrameIn.command, hkey]
        rintro ⟨⟩
      exact absurd ((appLcdInputDispatch_acts f s).starts_of_no_start hcommand) haccepted
    · exact (panelKeyHandler_sol key f s hsave).horn

theorem modbusTick_started_horn {build : Build} {input : ModbusTickIn} {s : Sys}
    (haccepted : (appModbusTick build input s).ghost.starts ≠ s.ghost.starts) :
    (appModbusTick build input s).horn = s.horn := by
  have hpass := (modbusPass_sol build input s).horn
  obtain ⟨-, -, hstarts, -, -⟩ := modbusPass_hold build input s
  rw [appModbusTick_eq_pass, finishPass] at haccepted ⊢
  cases hlink : (modbusPass build input s).2 with
  | none => exact hpass
  | some link =>
    rw [hlink] at haccepted
    dsimp only at haccepted ⊢
    rw [← hstarts] at haccepted
    rw [← hpass]
    generalize (modbusPass build input s).1 = found at haccepted ⊢
    unfold appModbusApplyWrites at haccepted ⊢
    split_ifs at haccepted ⊢
    · exact (gateRejectBody_sol (countApply found)).horn
    · -- the START branch is the only one that starts a run, and it is not the horn branch
      have hchain : (applyChain link input.apply (countApply found)).ghost.starts =
            (countApply found).ghost.starts ∨
          (applyChain link input.apply (countApply found)).horn = (countApply found).horn := by
        have hsaved (t : Sys) : (applyChain link input.apply t).ghost.starts =
              (firstMatch (fun s ↦ (stagedScan input.apply.tStage s, false))
                (applyRules link input.apply) t).1.ghost.starts ∧
            (applyChain link input.apply t).horn =
              (firstMatch (fun s ↦ (stagedScan input.apply.tStage s, false))
                (applyRules link input.apply) t).1.horn := by
          unfold applyChain
          dsimp only
          split_ifs <;> exact ⟨rfl, rfl⟩
        rw [(hsaved _).1, (hsaved _).2]
        refine firstMatch_induction (fun result : Sys × Bool ↦
          result.1.ghost.starts = (countApply found).ghost.starts ∨
            result.1.horn = (countApply found).horn) (Or.inr (quiet_stagedScan _ _).horn) ?_
        intro rule hrule _
        rcases List.mem_append.mp hrule with hcommand | hconfig
        · exact Or.inr (commandRules_sol link input.apply _ rule hcommand).horn
        · refine Or.inl (holdKept_laterRules link _ rule ?_).starts
          exact List.mem_append.mpr (Or.inr hconfig)
      exact hchain.resolve_left haccepted

/-- A call that accepts a START finds the mode off and leaves the horn glue as it is. -/
theorem exec_started_horn (build : Build) (call : Call) {s : Sys}
    (haccepted : (call.exec build s).ghost.starts ≠ s.ghost.starts) :
    s.horn.mode = false ∧ (call.exec build s).horn = s.horn := by
  have hopen := exec_accepted_open build call haccepted
  refine ⟨hopen.horn, ?_⟩
  cases call with
  | frame f => exact dispatch_started_horn haccepted
  | modbusTick input => exact modbusTick_started_horn haccepted
  | hornTick tick =>
    cases hsampled : hornSampled (.hornTick tick) s with
    | none => exact exec_horn_kept build hsampled (by rintro ⟨⟩) (by rintro ⟨⟩)
    | some other =>
      obtain rfl := hornSampled_eq hsampled
      simp only [Call.exec, appHornTick] at haccepted
      split_ifs at haccepted
      · rw [(hornBody_ends tick s).1.starts, hornSolenoid_eq] at haccepted
        exact absurd rfl haccepted
      · exact absurd rfl haccepted
  | _ => exact exec_horn_kept build rfl (by rintro ⟨⟩) (by rintro ⟨⟩)

/-! ### What the mode stops -/

/-- An executed horn tick in horn-down mode leaves no run. -/
theorem exec_hornTick_idle (build : Build) {call : Call} {s : Sys} {tick : HornTickIn}
    (hsampled : hornSampled call s = some tick) (hmode : s.horn.mode = true) :
    (call.exec build s).reg.usRunStatus = .idle := by
  cases call with
  | hornTick tick' =>
    unfold hornSampled at hsampled
    unfold Call.exec appHornTick
    dsimp only at hsampled ⊢
    split_ifs at hsampled ⊢
    exact (hornBody_ends tick' s).2.1 hmode
  | _ => cases hsampled

/-- In horn-down mode the weld core takes no step but the abort of an emergency stop. -/
theorem exec_horn_press (build : Build) (call : Call) {s : Sys} (hmode : s.horn.mode = true) :
    (call.exec build s).weld.fsm = s.weld.fsm ∨
      (∃ tick, call = .inputTick tick) ∧
        (call.exec build s).weld.fsm = (weldFsmStep weldAbortIn s.weld.fsm).1 := by
  have hfrozen : weldFrozen s = true := by
    rw [weldFrozen, appHornModeActive, hmode, Bool.or_true]
  rcases exec_press build call s with
    ⟨hweld, -⟩ | ⟨-, -, -, -, ⟨-, -, hfsm⟩ | ⟨hshown, -⟩⟩ | ⟨hcall, -, hfsm⟩
  · exact Or.inl (congrArg WeldGlue.fsm hweld)
  · exact Or.inl hfsm
  · cases hfrozen.symm.trans hshown
  · exact Or.inr ⟨hcall, hfsm⟩

/-! ### Runs -/

section Runs

variable (build : Build) (boot : BootIn)

/-- Horn-down mode is on. -/
def hornModeOn : Past Call := fun history ↦ (stateAfter build boot history).horn.mode = true

/-- The newest call is a horn tick that executed its body in horn-down mode. -/
def hornModeTicked : Past Call := newest build boot fun call s _ ↦
  (hornSampled call s).isSome = true ∧ s.horn.mode = true

/-- What horn-down mode means for one call: a call that accepts a START finds the mode off and
leaves it off, an executed horn tick in the mode leaves no run, and the weld core is left alone by
everything but the entry of the emergency stop, which aborts it. -/
def HornExcludes : Past Call := newest build boot fun call s s' ↦
  (s'.ghost.starts ≠ s.ghost.starts → s.horn.mode = false ∧ s'.horn.mode = false) ∧
    ((hornSampled call s).isSome = true → s.horn.mode = true → s'.reg.usRunStatus = .idle) ∧
    (s.horn.mode = true → s'.weld.fsm = s.weld.fsm ∨
      (∃ tick, call = .inputTick tick) ∧ s'.weld.fsm = (weldFsmStep weldAbortIn s.weld.fsm).1)

variable {build boot}

theorem newest_excludes (call : Call) (past : List Call) :
    HornExcludes build boot (call :: past) := by
  refine ⟨fun haccepted ↦ ?_, fun hticked hmode ↦ ?_, exec_horn_press build call⟩
  · obtain ⟨hoff, hkept⟩ := exec_started_horn build call haccepted
    exact ⟨hoff, (congrArg HornGlue.mode hkept).trans hoff⟩
  · obtain ⟨tick, hsampled⟩ := Option.isSome_iff_exists.mp hticked
    exact exec_hornTick_idle build hsampled hmode

/-- In the mode a run, once it is over, stays over. -/
theorem idle_stays (call : Call) (past : List Call) (hmode : hornModeOn build boot (call :: past))
    (hidle : (stateAfter build boot past).reg.usRunStatus = .idle) :
    (stateAfter build boot (call :: past)).reg.usRunStatus = .idle := by
  have hframe := exec_frame build call (stateAfter build boot past)
  by_cases hstarts : (call.exec build (stateAfter build boot past)).ghost.starts =
      (stateAfter build boot past).ghost.starts
  · exact (hframe.kept hstarts).elim (fun hkept ↦ hkept.trans hidle) id
  · obtain ⟨hoff, hkept⟩ := exec_started_horn build call hstarts
    cases (show _ = true from hmode).symm.trans ((congrArg HornGlue.mode hkept).trans hoff)

/-- In every run every call respects horn-down mode, and from the first executed horn tick in the
mode on until the mode is left no run is active. -/
theorem hornMode_excludes (build : Build) (boot : BootIn) (history : List Call) :
    always (HornExcludes build boot) history ∧
      (since (hornModeOn build boot) (hornModeTicked build boot) history →
        (stateAfter build boot history).reg.usRunStatus = .idle) := by
  constructor
  · exact always_of_forall newest_excludes history
  · refine since_induction
      (fun h ↦ (stateAfter build boot h).reg.usRunStatus = .idle) ?_ ?_ history
    · exact fun call past hticked ↦ (newest_excludes call past).2.1 hticked.1 hticked.2
    · exact fun call past hmode hidle ↦ idle_stays call past hmode hidle

end Runs

end UsCtrl
