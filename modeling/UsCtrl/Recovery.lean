import UsCtrl.StartGate
import UsCtrl.StaleStatus

/-!
# Recovery from an overload

The automatic recovery of an overload episode over runs. From the assert to the de-assert the
overload level blocks every START; then the request waits for the SEEK/RESET tick (`handover`); then
the chain it begins blocks every START until it returns to IDLE, 120 executed bodies later
(`recoveryAge`).

Nothing blocks a START in the hand-over, and a request can be lost in it. `CleanHandover` says what
has to hold of each call there; in a run of such calls no START is accepted from assert to recovery
and the chain runs once, RESET leg and SEEK leg in full (`recovery_blocks_start`).
-/

set_option autoImplicit false
set_option relaxedAutoImplicit false

namespace UsCtrl

open Foundation

section Events

variable (build : Build) (boot : BootIn)

/-- The newest call ends an overload episode, and so requests the recovery. -/
def episodeEnds : Past Call := newest build boot fun call s _ ↦
  match call with
  | .overloadTick tick => deasserts tick s
  | _ => False

/-- A call executes a body of the SEEK/RESET tick. -/
def srBody (call : Call) (s : Sys) : Bool :=
  match call with
  | .seekResetTick now => seekResetDue now s
  | _ => false

/-- The recovery has been requested, and no body of the SEEK/RESET tick has run since. -/
def handover : Past Call :=
  since (fun h ↦ newest build boot (fun call s _ ↦ srBody call s = false) h)
    (episodeEnds build boot)

/-- The first body after a request has run, and `age` bodies since. -/
def recoveryAge : ℕ → Past Call
  | _, [] => False
  | age, call :: past =>
    if srBody call (stateAfter build boot past) then
      match age with
      | 0 => handover build boot past
      | age + 1 => ¬ handover build boot past ∧ recoveryAge age past
    else recoveryAge age past

/-- An overload episode, the hand-over of its recovery, or the recovery itself. -/
def recovering : Past Call := fun h ↦ appOverloadActive (stateAfter build boot h) = true ∨
  handover build boot h ∨ ∃ age < 2 * srTicks, recoveryAge build boot age h

/-- Where the chain is `age` bodies after it has begun. -/
def recoveryStage (age : ℕ) : SeekResetFsm :=
  if age < srTicks then ⟨.reset, age⟩
  else if age < 2 * srTicks then ⟨.seek, age - srTicks⟩
  else ⟨.idle, 0⟩

/-- What a call has to meet in a hand-over. A body of the SEEK/RESET tick finds the chain IDLE, the
latched command still RESET and the published run status idle. No START is issued with the gate
open. -/
def CleanHandover : Past Call
  | [] => True
  | call :: past =>
    let s := stateAfter build boot past
    let s' := stateAfter build boot (call :: past)
    handover build boot past →
      (srBody call s = true → s.seekReset.fsm.state = .idle ∧ s.seekReset.pendingCmd = .reset ∧
        publishedRun s = .idle) ∧
      (GateOpen call s s' → s'.ghost.startsIssued = s.ghost.startsIssued)

end Events

variable {build : Build} {boot : BootIn}

/-! ### The chain -/

/-- A body that finds the request takes it up. -/
theorem seekResetBody_takes {now : ℕ} {s : Sys} (hidle : s.seekReset.fsm.state = .idle)
    (hpending : s.seekReset.pendingCmd = .reset) (hpublished : publishedRun s = .idle) :
    (seekResetBody now s).seekReset.fsm = recoveryStage 0 := by
  have hstage : recoveryStage 0 = ⟨.reset, 0⟩ := rfl
  rw [hstage]
  simp only [seekResetBody, seekResetFsmStep, hidle, hpending, hpublished]
  simp

/-- A body advances the recovery by one stage, whatever it is asked for. -/
theorem seekResetBody_stage {now age : ℕ} {s : Sys} (hage : age < 2 * srTicks)
    (hstage : s.seekReset.fsm = recoveryStage age) :
    (seekResetBody now s).seekReset.fsm = recoveryStage (age + 1) := by
  have hticks : srTicks = 60 := rfl
  simp only [seekResetBody, seekResetFsmStep, hstage, recoveryStage]
  by_cases hreset : age < srTicks
  · rw [if_pos hreset]
    simp only [srStepReset, srElapsedNext]
    rw [if_pos (show age < 0xFFFF by omega)]
    by_cases hlast : age + 1 < srTicks
    · rw [if_neg (show ¬ age + 1 ≥ srTicks by omega), if_pos hlast]
    · rw [if_pos (show age + 1 ≥ srTicks by omega), if_neg hlast,
        if_pos (show age + 1 < 2 * srTicks by omega)]
      simp [show age + 1 - srTicks = 0 by omega]
  · rw [if_neg hreset, if_pos hage]
    simp only [srStepSeek, srElapsedNext]
    rw [if_pos (show age - srTicks < 0xFFFF by omega), if_neg (show ¬ age + 1 < srTicks by omega)]
    by_cases hlast : age + 1 < 2 * srTicks
    · rw [if_neg (show ¬ age - srTicks + 1 ≥ srTicks by omega), if_pos hlast]
      simp [show age + 1 - srTicks = age - srTicks + 1 by omega]
    · rw [if_pos (show age - srTicks + 1 ≥ srTicks by omega), if_neg hlast]

/-- The chain is active at every stage but the last. -/
theorem recoveryStage_busy {age : ℕ} (hage : age < 2 * srTicks) :
    (recoveryStage age).state ≠ .idle := by
  unfold recoveryStage
  split_ifs <;> rintro ⟨⟩

/-- Only executed bodies move the chain. -/
theorem exec_chain (build : Build) {call : Call} {s : Sys} (hbody : srBody call s = false) :
    (call.exec build s).seekReset.fsm = s.seekReset.fsm := by
  rcases call.seekResetTick_or with ⟨now, rfl⟩ | hchain
  · have hdue : seekResetDue now s = false := hbody
    rw [Call.exec, appSeekResetTick, hdue]
    rfl
  exact (exec_frame build call s).chain hchain

theorem exec_srBody (build : Build) {call : Call} {s : Sys} (hbody : srBody call s = true) :
    ∃ now, call.exec build s = seekResetBody now s := by
  cases call with
  | seekResetTick now =>
    have hdue : seekResetDue now s = true := hbody
    exact ⟨now, by rw [Call.exec, appSeekResetTick, hdue]; rfl⟩
  | _ => exact absurd hbody Bool.false_ne_true

/-- Assumes: every hand-over of the run was clean. Then a recovery is at the stage of its age. -/
theorem recoveryAge_stage (history : List Call)
    (hclean : always (CleanHandover build boot) history) :
    ∀ age ≤ 2 * srTicks, recoveryAge build boot age history →
      (stateAfter build boot history).seekReset.fsm = recoveryStage age := by
  refine always_induction (fun h ↦ ∀ age ≤ 2 * srTicks, recoveryAge build boot age h →
    (stateAfter build boot h).seekReset.fsm = recoveryStage age) ?_ ?_ history hclean
  · exact fun age _ hage ↦ hage.elim
  · intro call past hstep _ ih age hle hage
    change (call.exec build (stateAfter build boot past)).seekReset.fsm = recoveryStage age
    unfold recoveryAge at hage
    cases hbody : srBody call (stateAfter build boot past) with
    | false =>
      rw [hbody] at hage
      rw [exec_chain build hbody]
      exact ih age hle (by simpa using hage)
    | true =>
      obtain ⟨now, hexec⟩ := exec_srBody build hbody
      rw [hbody, if_pos rfl] at hage
      rw [hexec]
      cases age with
      | zero =>
        obtain ⟨hidle, hpending, hpublished⟩ := (hstep hage).1 hbody
        exact seekResetBody_takes hidle hpending hpublished
      | succ age =>
        exact seekResetBody_stage (by omega) (ih age (by omega) hage.2)

/-! ### Blocking -/

/-- Assumes: every hand-over of the run was clean. Then no call of a recovery accepts a START. -/
theorem recovering_noStart {call : Call} {past : List Call}
    (hclean : always (CleanHandover build boot) (call :: past))
    (hrecovering : recovering build boot past) : noStart build boot (call :: past) := by
  have hframe := exec_frame build call (stateAfter build boot past)
  by_contra hstarted
  have hopen := exec_accepted_open build call hstarted
  rcases hrecovering with hactive | hhandover | ⟨age, hage, hrecovery⟩
  · exact Bool.false_ne_true (hopen.overload.symm.trans hactive)
  · have hissued := (hclean.1 hhandover).2 hopen
    exact absurd hissued (Nat.ne_of_gt (hframe.accepted hstarted).2.2.2.2)
  · refine recoveryStage_busy hage ?_
    rw [← recoveryAge_stage past hclean.2 age hage.le hrecovery]
    exact (hframe.accepted hstarted).2.1

/-- The overload level falls only at the end of an episode. -/
theorem episodeEnds_of_fall {call : Call} {past : List Call}
    (hwas : appOverloadActive (stateAfter build boot past) = true)
    (hnow : appOverloadActive (stateAfter build boot (call :: past)) = false) :
    episodeEnds build boot (call :: past) := by
  have hframe := exec_frame build call (stateAfter build boot past)
  have hlevel := (after_coherent build boot past).overload
  rcases call.overloadTick_or with ⟨tick, rfl⟩ | hoverload
  · rcases appOverloadTick_cases tick (stateAfter build boot past) with ⟨-, heq⟩ | ⟨hdue, hbody⟩
    · have hsame : appOverloadActive (stateAfter build boot (.overloadTick tick :: past)) =
          appOverloadActive (stateAfter build boot past) := congrArg appOverloadActive heq
      rw [hsame, hwas] at hnow
      exact absurd hnow (by decide)
    · refine ⟨hdue, ?_⟩
      have hoff : (overloadFsmStep tick.raw (stateAfter build boot past).overload.fsm).1.active =
          false := (hbody.frame .cycle).overload.symm.trans hnow
      have hon : (stateAfter build boot past).overload.fsm.active = true := hlevel.symm.trans hwas
      simp only [overloadEvent, overloadFsmStep_event, hoff, hon]
      decide
  have hsame := (hframe.overload hoverload).1
  exact absurd ((hsame.trans hwas).symm.trans hnow) (by decide)

/-- A recovery goes on until the chain has run in full. -/
theorem recovering_goes_on {call : Call} {past : List Call}
    (hrecovering : recovering build boot past) : recovering build boot (call :: past) ∨
      recoveryAge build boot (2 * srTicks) (call :: past) := by
  have hnext (age : ℕ) (hbody : srBody call (stateAfter build boot past) = true) :
      recoveryAge build boot (age + 1) (call :: past) ↔
        ¬ handover build boot past ∧ recoveryAge build boot age past := by
    simp [recoveryAge, hbody]
  have hstay (age : ℕ) (hbody : srBody call (stateAfter build boot past) = false) :
      recoveryAge build boot age (call :: past) ↔ recoveryAge build boot age past := by
    simp [recoveryAge, hbody]
  rcases hrecovering with hactive | hhandover | ⟨age, hage, hrecovery⟩
  · cases hnow : appOverloadActive (stateAfter build boot (call :: past)) with
    | true => exact Or.inl (Or.inl hnow)
    | false => exact Or.inl (Or.inr (Or.inl (Or.inl (episodeEnds_of_fall hactive hnow))))
  · cases hbody : srBody call (stateAfter build boot past) with
    | false => exact Or.inl (Or.inr (Or.inl (Or.inr ⟨hbody, hhandover⟩)))
    | true =>
      refine Or.inl (Or.inr (Or.inr ⟨0, by decide, ?_⟩))
      simpa [recoveryAge, hbody] using hhandover
  · cases hbody : srBody call (stateAfter build boot past) with
    | false => exact Or.inl (Or.inr (Or.inr ⟨age, hage, (hstay age hbody).mpr hrecovery⟩))
    | true =>
      by_cases hhandover : handover build boot past
      · refine Or.inl (Or.inr (Or.inr ⟨0, by decide, ?_⟩))
        simpa [recoveryAge, hbody] using hhandover
      · have hold := (hnext age hbody).mpr ⟨hhandover, hrecovery⟩
        by_cases hlast : age + 1 < 2 * srTicks
        · exact Or.inl (Or.inr (Or.inr ⟨age + 1, hlast, hold⟩))
        · have heq : age + 1 = 2 * srTicks := by omega
          exact Or.inr (heq ▸ hold)

/-- Assumes: every call of the run met `CleanHandover`. From the assert of an overload episode to
the end of its recovery no START is accepted; the recovery goes on from call to call until its age
is that of the whole chain; and the chain is at the stage of its age throughout. -/
theorem recovery_blocks_start (build : Build) (boot : BootIn) (call : Call) (past : List Call)
    (hclean : always (CleanHandover build boot) (call :: past)) :
    (recovering build boot past → noStart build boot (call :: past) ∧
      (recovering build boot (call :: past) ∨
        recoveryAge build boot (2 * srTicks) (call :: past))) ∧
    ∀ age ≤ 2 * srTicks, recoveryAge build boot age (call :: past) →
      (stateAfter build boot (call :: past)).seekReset.fsm = recoveryStage age :=
  ⟨fun hrecovering ↦ ⟨recovering_noStart hclean hrecovering, recovering_goes_on hrecovering⟩,
    recoveryAge_stage (call :: past) hclean⟩

/-- Only an active episode ends. -/
theorem not_episodeEnds {call : Call} {past : List Call}
    (hoff : (stateAfter build boot past).overload.fsm.active = false) :
    ¬ episodeEnds build boot (call :: past) := by
  cases call with
  | overloadTick tick =>
    rintro ⟨-, hdeassert⟩
    simp only [overloadEvent, overloadFsmStep_event, hoff, Bool.and_false] at hdeassert
    exact absurd hdeassert (by decide)
  | _ => exact id

/-- A run in which no episode has ended yet has handed nothing over. -/
theorem clean_of_no_end {past : List Call} (call : Call)
    (hnone : always (fun h ↦ ¬ episodeEnds build boot h) past) :
    ¬ handover build boot past ∧ always (CleanHandover build boot) (call :: past) := by
  induction past generalizing call with
  | nil => exact ⟨id, fun hhandover ↦ hhandover.elim, trivial⟩
  | cons newest past ih =>
    obtain ⟨hwas, hclean⟩ := ih newest hnone.2
    have hnow : ¬ handover build boot (newest :: past) := fun h ↦
      h.elim hnone.1 fun hold ↦ hwas hold.2
    exact ⟨hnow, fun hhandover ↦ absurd hhandover hnow, hclean⟩

/-- An overload that is asserted for one tick and ends. -/
def plainEpisode : List Call :=
  [.overloadTick ⟨60, false⟩, .overloadTick ⟨50, true⟩, .overloadTick ⟨40, true⟩,
   .overloadTick ⟨30, true⟩, .overloadTick ⟨20, true⟩, .overloadTick ⟨10, true⟩]

theorem plainEpisode_clean :
    always (CleanHandover stdBuild factoryBoot) (.seekResetTick 60 :: plainEpisode) := by
  have hnone : always (fun h ↦ ¬ episodeEnds stdBuild factoryBoot h) (plainEpisode.tail ++ []) := by
    refine always_append (controller stdBuild factoryBoot)
      (fun _ s ↦ s.overload.fsm.active = false) ?_ (by decide +kernel) trivial
    exact fun call past hoff hends ↦ not_episodeEnds hoff hends
  refine ⟨fun _ ↦ ⟨fun _ ↦ ?_, fun _ ↦ rfl⟩, (clean_of_no_end _ hnone).2⟩
  decide +kernel

/-- In that run the recovery is under way, and no START is accepted. -/
theorem plainEpisode_recovers :
    noStart stdBuild factoryBoot (.seekResetTick 60 :: plainEpisode) ∧
      (stateAfter stdBuild factoryBoot (.seekResetTick 60 :: plainEpisode)).seekReset.fsm =
        recoveryStage 0 := by
  have hdeassert : deasserts ⟨60, false⟩ (stateAfter stdBuild factoryBoot plainEpisode.tail) := by
    unfold deasserts
    decide +kernel
  have hhandover : handover stdBuild factoryBoot plainEpisode := Or.inl hdeassert
  have hblocked := recovery_blocks_start stdBuild factoryBoot _ _ plainEpisode_clean
  exact ⟨(hblocked.1 (Or.inr (Or.inl hhandover))).1,
    hblocked.2 0 (by decide) ((if_pos (by decide +kernel)).mpr hhandover)⟩

/-- An overload that is asserted for one tick, and a press of the START button in the iteration that
ends it. -/
def startInHandover (made : ℕ) : SuperloopRun :=
  warmedRun (everyPeriod (overloadIter · true) 4020 5)
    { overloadIter 4070 false with input := ⟨4070, false, true, true, 4070⟩ } made

/-- The START is accepted although the recovery has been requested. -/
theorem startInHandover_accepted :
    Chronological (startInHandover 4).history ∧
      recovering stdBuild (netBoot false) (startInHandover 3).history ∧
      startAccepted stdBuild (netBoot false) (startInHandover 4).history := by
  have hepisode : (startInHandover 3).history =
      .overloadTick ⟨4070, false⟩ :: (startInHandover 2).history := rfl
  have hpress : (startInHandover 4).history =
      .inputTick ⟨4070, false, true, true, 4070⟩ :: (startInHandover 3).history := rfl
  have hdeassert :
      deasserts ⟨4070, false⟩
        (stateAfter stdBuild (netBoot false) (startInHandover 2).history) := by
    unfold deasserts stateAfter startInHandover
    rw [warmedRun_after]
    decide +kernel
  have hstarts : (stateAfter stdBuild (netBoot false) (startInHandover 4).history).ghost.starts ≠
      (stateAfter stdBuild (netBoot false) (startInHandover 3).history).ghost.starts := by
    unfold stateAfter startInHandover
    rw [warmedRun_after, warmedRun_after]
    decide +kernel
  refine ⟨warmedRun_chronological _ _ _ ?_ ?_, ?_, ?_⟩
  · decide +kernel
  · decide +kernel
  · rw [hepisode]
    exact Or.inr (Or.inl (Or.inl hdeassert))
  · rw [hpress] at hstarts ⊢
    exact hstarts

end UsCtrl
