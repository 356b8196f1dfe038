import UsCtrl.Staging
import UsCtrl.StaleStatus
import UsCtrl.HoldSession

/-!
# Commits and the running machine

A commit is rejected while the machine runs, by the live flag that the regulation tick publishes
every 2 ms. A run or a SEEK/RESET chain that begins between two publishes is unannounced
(`Unannounced`): exactly while the machine is busy and the flag says that it is not
(`unannounced_iff`). So a commit is applied to a running machine exactly if the run or the chain is
unannounced when its tick begins, and the hold watchdog does not stop the run in that tick
(`commit_idle_iff`).
-/

set_option autoImplicit false
set_option relaxedAutoImplicit false

namespace UsCtrl

open Foundation

/-- A run or a SEEK/RESET chain is active. -/
def machineBusy (s : Sys) : Prop := appRegRunSrc s ≠ .idle ∨ appSeekResetActive s = true

section Events

variable (build : Build) (boot : BootIn)

/-- The machine became busy while the published flag said that it was not, and has stayed so without
a publish. -/
def Unannounced : Past Call :=
  since (fun h ↦ machineBusy (stateAfter build boot h) ∧ ¬ publishes build boot h)
    (fun h ↦ rises build boot machineBusy h ∧
      (stateAfter build boot h).measure.usOnStatus = false)

end Events

variable {build : Build} {boot : BootIn}

/-- A publish copies out whether the machine is busy; a regulation tick without one keeps the flag.
-/
theorem regTick_live (lim : RegRunLimits) (tick : RegTickIn) (s : Sys) :
    let s' := appRegTick lim tick s
    s'.measure.usOnStatus =
      if regPublishes tick s then decide (s'.reg.usRunStatus ≠ .idle) || appSeekResetActive s'
      else s.measure.usOnStatus := by
  have hmeasure : (regTickHead lim tick s).measure = s.measure := by
    rw [(regTickHead_stop lim tick s).rest]
  dsimp only
  unfold appRegTick
  cases regPublishes tick s with
  | false =>
    simp only [Bool.false_eq_true, if_false]
    rw [hmeasure]
  | true =>
    simp only [if_true]
    obtain ⟨hrest, -, -, hrun, -⟩ := regPublishMeasure_eq tick lim.freqCalVal
      (regSetpoint tick.now (regTickHead lim tick s))
    generalize regSetpoint tick.now (regTickHead lim tick s) = ready at hrest hrun
    have hchain : appSeekResetActive (regPublishMeasure tick lim.freqCalVal ready) =
        appSeekResetActive ready := by
      unfold appSeekResetActive
      rw [hrest]
    have hlive : (regPublishMeasure tick lim.freqCalVal ready).measure.usOnStatus =
        (decide (ready.reg.usRunStatus ≠ .idle) || appSeekResetActive ready) := rfl
    rw [hlive, hrun, hchain]

/-- A call that does not publish leaves the flag alone. -/
theorem exec_unpublished_live {call : Call} {past : List Call}
    (hpublishes : ¬ publishes build boot (call :: past)) :
    (stateAfter build boot (call :: past)).measure.usOnStatus =
      (stateAfter build boot past).measure.usOnStatus := by
  by_cases hkind : call.kind = .reg
  · cases call with
    | regTick tick =>
      have htick := regTick_live (regRunLimitsOf (stateAfter build boot past).cfg) tick
        (stateAfter build boot past)
      exact htick.trans (if_neg hpublishes)
    | _ => cases hkind
  · exact exec_live build hkind _

/-- Behind a publish the flag says whether the machine is busy. -/
theorem publishes_live {call : Call} {past : List Call}
    (hpublishes : publishes build boot (call :: past)) :
    (stateAfter build boot (call :: past)).measure.usOnStatus = true ↔
      machineBusy (stateAfter build boot (call :: past)) := by
  cases call with
  | regTick tick =>
    have htick := regTick_live (regRunLimitsOf (stateAfter build boot past).cfg) tick
      (stateAfter build boot past)
    dsimp only at htick
    rw [if_pos (show regPublishes tick _ = true from hpublishes)] at htick
    change (appRegTick (regRunLimitsOf (stateAfter build boot past).cfg) tick
      (stateAfter build boot past)).measure.usOnStatus = true ↔ _
    rw [htick, Bool.or_eq_true, decide_eq_true_eq]
    rfl
  | _ => exact hpublishes.elim

/-- The machine is busy and the flag says that it is not exactly while its run or chain is
unannounced. -/
theorem unannounced_iff (history : List Call) :
    Unannounced build boot history ↔ machineBusy (stateAfter build boot history) ∧
      (stateAfter build boot history).measure.usOnStatus = false := by
  constructor
  · refine since_induction (fun h ↦ machineBusy (stateAfter build boot h) ∧
      (stateAfter build boot h).measure.usOnStatus = false) ?_ ?_ history
    · exact fun call past htrigger ↦ ⟨htrigger.1.2, htrigger.2⟩
    · intro call past hhold hpast
      exact ⟨hhold.1, (exec_unpublished_live hhold.2).trans hpast.2⟩
  · refine since_of_monitor (fun h ↦ machineBusy (stateAfter build boot h) ∧
      (stateAfter build boot h).measure.usOnStatus = false) ?_ ?_ history
    · rintro ⟨hrun | hchain, -⟩
      · exact hrun (congrArg RegState.usRunStatus (quiet_boot build boot).reg)
      · have hidle :
            (bootState build boot).seekReset = ⟨boot.tSeekReset, .none, seekResetFsmInit⟩ :=
          (quiet_boot build boot).seekReset
        unfold appSeekResetActive at hchain
        change decide ((bootState build boot).seekReset.fsm.state ≠ .idle) = true at hchain
        rw [hidle] at hchain
        exact absurd rfl (of_decide_eq_true hchain)
    · rintro call past ⟨hbusy, hflag⟩
      by_cases hpast : machineBusy (stateAfter build boot past)
      · have hquiet : ¬ publishes build boot (call :: past) := fun hpublishes ↦
          Bool.false_ne_true (hflag.symm.trans ((publishes_live hpublishes).mpr hbusy))
        exact Or.inr ⟨⟨hbusy, hquiet⟩, hpast, (exec_unpublished_live hquiet).symm.trans hflag⟩
      · exact Or.inl ⟨⟨hpast, hbusy⟩, hflag⟩

/-- Assumes: a tick of a run applies an accepted CFG_CTRL = 1. Neither a run nor a SEEK/RESET chain
is active at that moment exactly if none was unannounced when the tick began, or it was a run only
and the hold watchdog stops it at the head of the tick. -/
theorem commit_idle_iff (build : Build) (boot : BootIn) (history : List Call) (input : ModbusTickIn)
    (haccepts : acceptsCommit build input (stateAfter build boot history) = true) :
    (appRegRunSrc (applyEntry build boot input history) = .idle ∧
        appSeekResetActive (applyEntry build boot input history) = false) ↔
      ¬ Unannounced build boot history ∨
        (holdTrips input.tHold (stateAfter build boot history) = true ∧
          appSeekResetActive (stateAfter build boot history) = false) := by
  obtain ⟨link, happlies⟩ := appliesCommit_of_accepts haccepts
  have hacts := modbusPass_acts build input (stateAfter build boot history)
  obtain ⟨-, -, -, htrip, hrun⟩ := modbusPass_hold build input (stateAfter build boot history)
  have hchain : appSeekResetActive (applyEntry build boot input history) =
      appSeekResetActive (stateAfter build boot history) := by
    unfold appSeekResetActive
    rw [hacts.frame.chain]
  have hflag : (stateAfter build boot history).measure.usOnStatus = false := by
    have hanswer : (cfgStageCommit link (applyEntry build boot input history).measure.usOnStatus
        (headStage input (stateAfter build boot history))).2 = true := by
      simpa [acceptsCommit, show appliedRequest build input _ = _ from happlies] using haccepts
    exact hacts.live.symm.trans ((cfgStageCommit_accepts _ _ _).mp hanswer).2.2.2
  rw [unannounced_iff, hchain]
  simp only [hflag, and_true, machineBusy, not_or, not_not, Bool.not_eq_true]
  cases hwatchdog : holdTrips input.tHold (stateAfter build boot history) with
  | true =>
    have hidle : appRegRunSrc (applyEntry build boot input history) = .idle := htrip hwatchdog
    simp only [hidle, true_and]
    tauto
  | false =>
    have hkept : appRegRunSrc (applyEntry build boot input history) =
        appRegRunSrc (stateAfter build boot history) :=
      congrArg RegState.usRunStatus (hrun hwatchdog)
    simp only [hkept, Bool.false_eq_true, false_and, or_false]

/-- An IP half is staged and a SEEK requested; the chain begins 1 ms after a publish, in the
iteration that commits. -/
def seekCommit : SuperloopRun where
  done := [serialIter 29 false [], serialIter 20 false (fc06 0x1A 1),
    serialIter 10 false (fc06 0x22 0xC0A8)]
  current := serialIter 30 false (fc06 0x28 1)
  made := 8

theorem seekCommit_accepts : acceptsCommit stdBuild (serialIter 30 false (fc06 0x28 1)).modbus
    (stateAfter stdBuild serialBoot seekCommit.history) = true := by
  decide +kernel

/-- The commit is applied while the SEEK chain is active. -/
theorem seekCommit_busy :
    Chronological (.modbusTick (serialIter 30 false (fc06 0x28 1)).modbus :: seekCommit.history) ∧
      acceptsCommit stdBuild (serialIter 30 false (fc06 0x28 1)).modbus
        (stateAfter stdBuild serialBoot seekCommit.history) = true ∧
      (stateAfter stdBuild serialBoot (.modbusTick (serialIter 30 false (fc06 0x28 1)).modbus ::
        seekCommit.history)).cfg.comm ≠
          (stateAfter stdBuild serialBoot seekCommit.history).cfg.comm ∧
      ¬ (appRegRunSrc (applyEntry stdBuild serialBoot
            (serialIter 30 false (fc06 0x28 1)).modbus seekCommit.history) = .idle ∧
          appSeekResetActive (applyEntry stdBuild serialBoot
            (serialIter 30 false (fc06 0x28 1)).modbus seekCommit.history) = false) := by
  have hmoved : (stateAfter stdBuild serialBoot (.modbusTick
      (serialIter 30 false (fc06 0x28 1)).modbus :: seekCommit.history)).cfg.comm .ipH ≠
        (stateAfter stdBuild serialBoot seekCommit.history).cfg.comm .ipH := by decide +kernel
  refine ⟨by decide +kernel, seekCommit_accepts, fun hsame ↦ hmoved (congrFun hsame .ipH), ?_⟩
  decide +kernel

/-- In that run the chain is unannounced when the commit arrives. -/
theorem seekCommit_unannounced : Unannounced stdBuild serialBoot seekCommit.history := by
  by_contra hnone
  have hidle := (commit_idle_iff stdBuild serialBoot seekCommit.history _ seekCommit_accepts).mpr
    (Or.inl hnone)
  exact absurd hidle (by decide +kernel)

end UsCtrl
