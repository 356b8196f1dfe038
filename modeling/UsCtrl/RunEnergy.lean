import UsCtrl.Commanded
import UsCtrl.RunKey
import UsCtrl.RunLimits
import Mathlib.Algebra.Order.BigOperators.Group.List
import Mathlib.Algebra.Group.Nat.Defs

/-!
# The energy of a run

What the regulation core keeps of the current run are a few figures (`RunFigures`): a START clears
them, a stop latches them, and nothing else but a publish moves them (`exec_figures`). Along a run
that no SEEK or RESET disturbs the accumulator is therefore the exact sum of the powers published
since its START, the energy that sum over 250 and the peaks the largest values published
(`RunTally`, `run_tally`). The run ceiling bounds the number of publishes, and with it the sum.
-/

set_option autoImplicit false
set_option relaxedAutoImplicit false

namespace UsCtrl

open Foundation Relation

/-! ### The figures of a run -/

/-- What the core keeps of the current run and of the last one. -/
@[ext]
structure RunFigures where
  usRunStatus : UsRun
  runStartMs : ℕ
  prevMs : ℕ
  accEnergy : ℕ
  currEnergy : ℕ
  maxPower : ℕ
  maxAmp : ℕ
  lastPower : ℕ
  lastAmp : ℕ
  lastEnergy : ℕ
  srDispActive : Bool

/-- The figures of a state. -/
def runFigures (s : Sys) : RunFigures where
  usRunStatus := s.reg.usRunStatus
  runStartMs := s.reg.runStartMs
  prevMs := s.reg.prevMs
  accEnergy := s.reg.accEnergy
  currEnergy := s.measure.currEnergy
  maxPower := s.reg.maxPower
  maxAmp := s.reg.maxAmp
  lastPower := s.reg.lastPower
  lastAmp := s.reg.lastAmp
  lastEnergy := s.reg.lastEnergy
  srDispActive := s.reg.srDispActive

/-- A START clears the figures of the current run. -/
def RunFigures.start (src : UsRun) (now : ℕ) (figures : RunFigures) : RunFigures :=
  { figures with
    usRunStatus := src, runStartMs := now, accEnergy := 0, currEnergy := 0, maxPower := 0,
    maxAmp := 0 }

/-- A stop latches them. -/
def RunFigures.stop (figures : RunFigures) : RunFigures :=
  { figures with
    usRunStatus := .idle, lastPower := figures.maxPower, lastAmp := figures.maxAmp,
    lastEnergy := figures.currEnergy }

/-- The end of a SEEK/RESET display window takes its readings over as the last ones. -/
def RunFigures.closeWindow (power amp : ℕ) (figures : RunFigures) : RunFigures :=
  { figures with
    lastPower := power, lastAmp := amp, lastEnergy := figures.currEnergy, accEnergy := 0,
    currEnergy := 0, srDispActive := false }

/-- A publish of an active run integrates the power and keeps the peaks. -/
def RunFigures.publish (power amp : ℕ) (figures : RunFigures) : RunFigures :=
  { figures with
    accEnergy := (figures.accEnergy + power) % 2 ^ 32
    currEnergy := regEnergyFromAcc ((figures.accEnergy + power) % 2 ^ 32)
    maxPower := max figures.maxPower power
    maxAmp := max figures.maxAmp amp }

/-- What a step of a call makes of the figures, with the number of STARTs accepted before it and
after it. -/
inductive FigureStep (before : RunFigures) (starts : ℕ) : RunFigures → ℕ → Prop
  | keep : FigureStep before starts before starts
  | stop (hrun : before.usRunStatus ≠ .idle) : FigureStep before starts before.stop starts
  | start (src : UsRun) (now : ℕ) (hidle : before.usRunStatus = .idle) :
    FigureStep before starts (before.start src now) (starts + 1)

theorem CommandMove.figures {s s' : Sys} (h : CommandMove s s') :
    FigureStep (runFigures s) s.ghost.starts (runFigures s') s'.ghost.starts := by
  cases h with
  | aside hreg hmeasure hstarts =>
    have hsame : runFigures s' = runFigures s := by
      rw [runFigures, hreg, hmeasure, runFigures]
    rw [hsame, hstarts]
    exact .keep
  | command cmd src now =>
    cases cmd with
    | start =>
      unfold appRegCommand startCommand
      dsimp only
      split_ifs with hidle hswallow hallowed
      · exact .keep
      · exact .start src now hidle.2
      · exact .keep
      · exact .keep
    | runRelease =>
      unfold appRegCommand runReleaseCommand
      dsimp only
      split_ifs with hrun hswallow
      · exact .stop hrun
      · exact .keep
      · exact .keep
    | seek => exact .keep
    | reset => exact .keep
  | ovtime => exact .keep

/-- What a call other than the regulation tick makes of the figures: without a START it keeps them
or stops the run, with one they are those of a new run. -/
structure FiguresMoved (before : RunFigures) (starts : ℕ) (after : RunFigures) (starts' : ℕ) :
    Prop where
  mono : starts ≤ starts'
  aside : after.prevMs = before.prevMs ∧ after.srDispActive = before.srDispActive
  same : starts' = starts →
    after = before ∨ before.usRunStatus ≠ .idle ∧ after = before.stop
  fresh : starts' ≠ starts →
    after.accEnergy = 0 ∧ after.currEnergy = 0 ∧ after.maxPower = 0 ∧ after.maxAmp = 0
  anew : starts' = starts + 1 → after.usRunStatus ≠ .idle → before.usRunStatus ≠ .idle →
    ∃ src now, after = before.stop.start src now

theorem FiguresMoved.refl (figures : RunFigures) (starts : ℕ) :
    FiguresMoved figures starts figures starts := by
  refine ⟨le_rfl, ⟨rfl, rfl⟩, fun _ ↦ Or.inl rfl, fun h ↦ absurd rfl h, fun h ↦ ?_⟩
  omega

theorem FiguresMoved.step {before mid after : RunFigures} {starts starts' starts'' : ℕ}
    (h : FiguresMoved before starts mid starts') (hstep : FigureStep mid starts' after starts'') :
    FiguresMoved before starts after starts'' := by
  cases hstep with
  | keep => exact h
  | stop hrun =>
    refine ⟨h.mono, h.aside, fun hstarts ↦ ?_, h.fresh, fun _ hidle ↦ absurd rfl hidle⟩
    rcases h.same hstarts with rfl | ⟨-, rfl⟩
    · exact Or.inr ⟨hrun, rfl⟩
    · exact absurd rfl hrun
  | start src now hidle =>
    have hmono := h.mono
    refine ⟨by omega, h.aside, by omega, fun _ ↦ ⟨rfl, rfl, rfl, rfl⟩, fun hstarts _ hrun ↦ ?_⟩
    rcases h.same (by omega) with rfl | ⟨-, rfl⟩
    · exact absurd hidle hrun
    · exact ⟨src, now, rfl⟩

theorem Commanded.figures {s s' : Sys} (h : Commanded s s') :
    FiguresMoved (runFigures s) s.ghost.starts (runFigures s') s'.ghost.starts := by
  induction h with
  | refl => exact FiguresMoved.refl _ _
  | tail _ hmove ih => exact ih.step hmove.figures

theorem exec_figures (build : Build) {call : Call} (hkind : call.kind ≠ .reg) (s : Sys) :
    FiguresMoved (runFigures s) s.ghost.starts (runFigures (call.exec build s))
      (call.exec build s).ghost.starts :=
  Commanded.figures (exec_commanded build hkind s)

/-! ### The regulation tick -/

theorem regStopRun_figures (s : Sys) : runFigures (regStopRun s) = (runFigures s).stop := by
  unfold regStopRun
  dsimp only
  split_ifs <;> rfl

/-- The checks of the regulation tick keep the figures or stop the run. -/
theorem regStops_figures (lim : RegRunLimits) (now : ℕ) (s : Sys) :
    runFigures (regStops lim now s) = runFigures s ∨
      s.reg.usRunStatus ≠ .idle ∧ runFigures (regStops lim now s) = (runFigures s).stop := by
  have hcut := regStops_cut lim now s
  generalize regStops lim now s = cut at hcut ⊢
  cases hcut with
  | stay => exact Or.inl rfl
  | stop hrun => exact Or.inr ⟨hrun, regStopRun_figures s⟩
  | ovtime hrun => exact Or.inr ⟨hrun, regStopRun_figures s⟩

theorem regTickHead_figures (lim : RegRunLimits) (tick : RegTickIn) (s : Sys) :
    runFigures (regTickHead lim tick s) = runFigures s ∨
      s.reg.usRunStatus ≠ .idle ∧ runFigures (regTickHead lim tick s) = (runFigures s).stop := by
  have hacquired (t : Sys) : runFigures (regAcquire tick t) = runFigures t := by
    rw [regAcquire_eq]
    rfl
  have hwarm (t : Sys) : runFigures (regWarmUp tick.now t) = runFigures t := by
    rw [regWarmUp_eq]
    rfl
  have hstops := regStops_figures lim tick.now (regWarmUp tick.now { s with reg := { s.reg with
    calVal := lim.calVal } })
  rw [regTickHead, hacquired]
  rw [hwarm, regWarmUp_eq] at hstops
  rw [regWarmUp_eq]
  exact hstops

/-- Assumes: no SEEK or RESET is in progress. What the publish makes of the figures, in terms of the
power and the current it publishes. -/
theorem regPublishMeasure_figures (tick : RegTickIn) (freqCalVal : ℤ) (s : Sys)
    (hidle : appSeekResetActive s = false) :
    let s' := regPublishMeasure tick freqCalVal s
    let shown := if s.reg.srDispActive then
      (runFigures s).closeWindow s.measure.currPower s.measure.currAmp else runFigures s
    runFigures s' = if s.reg.usRunStatus ≠ .idle then
      shown.publish s'.measure.currPower s'.measure.currAmp else shown := by
  have hpeak (value peak : ℕ) : (if value > peak then value else peak) = max peak value := by
    rw [max_def]
    split_ifs <;> omega
  dsimp only
  unfold regPublishMeasure regPublishCopy regPublishFigures regSrDisplayEdge
  rw [hidle]
  cases hwindow : s.reg.srDispActive with
  | false =>
    by_cases hrun : s.reg.usRunStatus = .idle
    · simp [runFigures, hrun, hwindow]
    · simp [runFigures, RunFigures.publish, hrun, hwindow, hpeak]
  | true =>
    by_cases hrun : s.reg.usRunStatus = .idle
    · simp [runFigures, RunFigures.closeWindow, hrun]
    · simp [runFigures, RunFigures.closeWindow, RunFigures.publish, hrun, hpeak]

theorem regPublishMeasure_power (tick : RegTickIn) (freqCalVal : ℤ) (s : Sys) :
    (regPublishMeasure tick freqCalVal s).measure.currPower < 65536 := by
  unfold regPublishMeasure regPublishCopy regPublishFigures
  dsimp only
  split_ifs
  · exact Nat.mod_lt _ (by norm_num)
  · norm_num

/-- The regulation tick keeps the figures, or stops the run, and then publishes at most. -/
theorem appRegTick_figures (lim : RegRunLimits) (tick : RegTickIn) (s : Sys)
    (hidle : appSeekResetActive s = false) :
    let s' := appRegTick lim tick s
    let head := runFigures (regTickHead lim tick s)
    let gated := { head with prevMs := tick.now }
    let shown := if s.reg.srDispActive then
      gated.closeWindow s.measure.currPower s.measure.currAmp else gated
    runFigures s' = if regPublishes tick s then
        if s'.reg.usRunStatus ≠ .idle then
          shown.publish s'.measure.currPower s'.measure.currAmp else shown
      else head := by
  have hhead := (regTickHead_stop lim tick s).rest
  have hfigures := regTickHead_figures lim tick s
  dsimp only
  unfold appRegTick
  generalize regTickHead lim tick s = head at hhead hfigures ⊢
  have hwindow : head.reg.srDispActive = s.reg.srDispActive := by
    rcases hfigures with hsame | ⟨-, hstop⟩
    · exact congrArg RunFigures.srDispActive hsame
    · exact congrArg RunFigures.srDispActive hstop
  cases hpublishes : regPublishes tick s with
  | false => rfl
  | true =>
    have hready : appSeekResetActive (regSetpoint tick.now head) = false := by
      rw [← hidle, hhead]
      rfl
    have hmeasure : head.measure = s.measure := by rw [hhead]
    have hgated : (regSetpoint tick.now head).measure = s.measure := hmeasure
    have hpublish := regPublishMeasure_figures tick lim.freqCalVal _ hready
    have hrun := (regPublishMeasure_eq tick lim.freqCalVal (regSetpoint tick.now head)).2.2.2.1
    dsimp only at hpublish hrun
    rw [if_pos rfl, if_pos rfl, hpublish, hrun, hgated, ← hwindow]
    rfl

theorem regTick_starts (build : Build) (tick : RegTickIn) (s : Sys) :
    (Call.exec build (.regTick tick) s).ghost.starts = s.ghost.starts := by
  have htick : RegTick (regRunLimitsOf s.cfg) tick s (Call.exec build (.regTick tick) s) :=
    appRegTick_spec _ tick s
  rw [htick.rest]

/-! ### The tally of a run -/

/-- The sum of a column of what was published. -/
def tallySum (publishes : List LcdMeasure) : ℕ := (publishes.map (·.currPower)).sum

/-- The largest of a column, `0` for none. -/
def tallyPeak (column : List ℕ) : ℕ := column.foldr max 0

/-- The figures are those of the publishes since the START. -/
structure RunTally (publishes : List LcdMeasure) (figures : RunFigures) : Prop where
  sum : figures.accEnergy = tallySum publishes
  energy : figures.currEnergy = figures.accEnergy / 250
  power : figures.maxPower = tallyPeak (publishes.map (·.currPower))
  amp : figures.maxAmp = tallyPeak (publishes.map (·.currAmp))
  window : figures.srDispActive = true → publishes = []
  word : ∀ published ∈ publishes, published.currPower < 65536
  paced : publishes ≠ [] →
    2 * publishes.length ≤ elapsedMs figures.prevMs figures.runStartMs + 2 ∧
      elapsedMs figures.prevMs figures.runStartMs < onTimeSafetyMs

/-- The sum stays far below the width of the accumulator: a publish takes 2 ms of the 30 s. -/
theorem RunTally.fits {publishes : List LcdMeasure} {figures : RunFigures}
    (h : RunTally publishes figures) : tallySum publishes ≤ 15000 * 65535 := by
  have hlength : publishes.length ≤ 15000 := by
    by_cases hnone : publishes = []
    · rw [hnone]
      norm_num
    · obtain ⟨hpaced, hceiling⟩ := h.paced hnone
      unfold onTimeSafetyMs at hceiling
      omega
  have hcard : tallySum publishes ≤ (publishes.map (·.currPower)).length • 65535 := by
    refine List.sum_le_card_nsmul _ _ fun power hpower ↦ ?_
    obtain ⟨published, hmem, rfl⟩ := List.mem_map.mp hpower
    have hword := h.word published hmem
    omega
  rw [List.length_map, Nat.nsmul_eq_mul] at hcard
  exact hcard.trans (Nat.mul_le_mul_right _ hlength)

theorem RunTally.fresh {figures : RunFigures} (hacc : figures.accEnergy = 0)
    (henergy : figures.currEnergy = 0) (hpower : figures.maxPower = 0) (hamp : figures.maxAmp = 0) :
    RunTally [] figures := by
  refine ⟨hacc, ?_, hpower, hamp, fun _ ↦ rfl, ?_, fun h ↦ absurd rfl h⟩
  · rw [henergy, hacc]
  · intro _ h
    cases h

/-- Assumes: the gate has let the publish through, the clock has not come round since the last one,
and the run is within its ceiling. A publish extends the tally. -/
theorem RunTally.extend {publishes : List LcdMeasure} {figures shown : RunFigures}
    (h : RunTally publishes figures) {now : ℕ} (measure : LcdMeasure)
    (hshown : shown = { figures with prevMs := now } ∨
      figures.srDispActive = true ∧ ∃ power amp,
        shown = { figures with prevMs := now }.closeWindow power amp)
    (hwindow : shown.srDispActive = false) (hword : measure.currPower < 65536)
    (hgate : 2 ≤ elapsedMs now figures.prevMs)
    (hturn : elapsedMs now figures.prevMs < 2 ^ 32 - onTimeSafetyMs)
    (hceiling : elapsedMs now figures.runStartMs < onTimeSafetyMs) :
    RunTally (measure :: publishes) (shown.publish measure.currPower measure.currAmp) := by
  obtain ⟨hsum, hpower, hamp, hprev, hstart⟩ : shown.accEnergy = tallySum publishes ∧
      shown.maxPower = tallyPeak (publishes.map (·.currPower)) ∧
      shown.maxAmp = tallyPeak (publishes.map (·.currAmp)) ∧
      shown.prevMs = now ∧ shown.runStartMs = figures.runStartMs := by
    rcases hshown with rfl | ⟨hopen, power, amp, rfl⟩
    · exact ⟨h.sum, h.power, h.amp, rfl, rfl⟩
    · have hnone := h.window hopen
      refine ⟨?_, h.power, h.amp, rfl, rfl⟩
      rw [hnone]
      rfl
  have hfits := h.fits
  have hexact : (shown.accEnergy + measure.currPower) % 2 ^ 32 =
      tallySum (measure :: publishes) := by
    rw [hsum, Nat.mod_eq_of_lt (by omega), tallySum, tallySum, List.map_cons, List.sum_cons,
      Nat.add_comm]
  constructor
  · exact hexact
  · rfl
  · rw [List.map_cons, tallyPeak, List.foldr_cons, ← tallyPeak, ← hpower, max_comm]
    rfl
  · rw [List.map_cons, tallyPeak, List.foldr_cons, ← tallyPeak, ← hamp, max_comm]
    rfl
  · exact fun hopen ↦ absurd (hwindow.symm.trans hopen) Bool.false_ne_true
  · exact List.forall_mem_cons.mpr ⟨hword, h.word⟩
  · intro _
    have hclock : (shown.publish measure.currPower measure.currAmp).prevMs = now := hprev
    have hstamp : (shown.publish measure.currPower measure.currAmp).runStartMs =
        figures.runStartMs := hstart
    rw [hclock, hstamp]
    refine ⟨?_, hceiling⟩
    by_cases hnone : publishes = []
    · rw [hnone]
      simp
    · obtain ⟨hpaced, hbefore⟩ := h.paced hnone
      have hadds : elapsedMs now figures.runStartMs =
          elapsedMs now figures.prevMs + elapsedMs figures.prevMs figures.runStartMs := by
        have htrans : (elapsedMs now figures.prevMs +
            elapsedMs figures.prevMs figures.runStartMs) % 2 ^ 32 =
              elapsedMs now figures.runStartMs := wrapElapsed_trans (by norm_num) _
        rw [← htrans, Nat.mod_eq_of_lt (by omega)]
      rw [hadds, List.length_cons]
      omega

/-! ### Along a run -/

/-- A run is active and the SEEK/RESET chain is in `SR_IDLE`. -/
def RunActive (s : Sys) : Prop := s.reg.usRunStatus ≠ .idle ∧ appSeekResetActive s = false

/-- Assumes: the clock has not come round since the last publish. A regulation tick in which the run
goes on keeps the tally, or extends it by what it publishes. -/
theorem RunTally.regTick {publishes : List LcdMeasure} {lim : RegRunLimits} {tick : RegTickIn}
    {s : Sys} (h : RunTally publishes (runFigures s)) (hactive : RunActive (appRegTick lim tick s))
    (hturn : elapsedMs tick.now s.reg.prevMs < 2 ^ 32 - onTimeSafetyMs) :
    RunTally (if regPublishes tick s then (appRegTick lim tick s).measure :: publishes
      else publishes) (runFigures (appRegTick lim tick s)) := by
  obtain ⟨hrun, hidle⟩ := hactive
  have htick := appRegTick_spec lim tick s
  have hchain : appSeekResetActive s = false := by
    rw [← hidle, htick.rest]
    rfl
  have hfigures := appRegTick_figures lim tick s hchain
  dsimp only at hfigures
  have hgoes : runFigures (regTickHead lim tick s) = runFigures s := by
    refine (regTickHead_figures lim tick s).resolve_right fun hstop ↦ hrun ?_
    have hstatus := congrArg RunFigures.usRunStatus hfigures
    rw [hstop.2] at hstatus
    refine hstatus.trans ?_
    split_ifs <;> rfl
  rw [hfigures, hgoes]
  cases hpublishes : regPublishes tick s with
  | false => exact h
  | true =>
    rw [if_pos rfl, if_pos rfl, if_pos hrun]
    refine h.extend _ ?_ ?_ ?_ ?_ hturn (htick.ceiling hrun)
    · cases hwindow : s.reg.srDispActive with
      | false => exact Or.inl rfl
      | true => exact Or.inr ⟨hwindow, _, _, rfl⟩
    · cases hwindow : s.reg.srDispActive with
      | false => exact hwindow
      | true => rfl
    · rw [appRegTick, if_pos hpublishes]
      exact regPublishMeasure_power _ _ _
    · exact of_decide_eq_true hpublishes

/-- The call reaches the publish. -/
def Call.publishes (call : Call) (s : Sys) : Bool :=
  match call with
  | .regTick tick => regPublishes tick s
  | _ => false

theorem Call.publishes_of_kind {call : Call} (hkind : call.kind ≠ .reg) (s : Sys) :
    call.publishes s = false := by
  cases call with
  | regTick tick => exact absurd rfl hkind
  | _ => rfl

/-- A regulation tick comes before the reading of the millisecond counter since the last publish can
be taken for an earlier one of the run, which takes 49 days. -/
def Call.inTurn (call : Call) (s : Sys) : Bool :=
  match call with
  | .regTick tick => decide (elapsedMs tick.now s.reg.prevMs < 2 ^ 32 - onTimeSafetyMs)
  | _ => true

section Runs

variable (build : Build) (boot : BootIn)

/-- The measurements published since the last accepted START, newest first. -/
def runPublishes : List Call → List LcdMeasure
  | [] => []
  | call :: past =>
    let s := stateAfter build boot past
    let s' := stateAfter build boot (call :: past)
    if s'.ghost.starts ≠ s.ghost.starts then []
    else if call.publishes s then s'.measure :: runPublishes past
    else runPublishes past

/-- The newest call began a run: it accepted a START and left the run active. -/
def runBegun : Past Call :=
  fun history ↦ startAccepted build boot history ∧ RunActive (stateAfter build boot history)

/-- The newest call kept the run, and came in time for the millisecond counter. -/
def runKept : Past Call := newest build boot fun call s s' ↦
  s'.ghost.starts = s.ghost.starts ∧ RunActive s' ∧ call.inTurn s = true

variable {build boot}

/-- A call that keeps the run keeps the tally, or extends it by what it publishes. -/
theorem runTally_kept {call : Call} {past : List Call}
    (hkept : runKept build boot (call :: past))
    (h : RunTally (runPublishes build boot past) (runFigures (stateAfter build boot past))) :
    RunTally (runPublishes build boot (call :: past))
      (runFigures (stateAfter build boot (call :: past))) := by
  obtain ⟨hstarts, hactive, hturn⟩ := hkept
  rw [runPublishes, if_neg (not_not.mpr hstarts)]
  rcases call.regTick_or with ⟨tick, rfl⟩ | hkind
  · exact h.regTick hactive (of_decide_eq_true hturn)
  · rw [Call.publishes_of_kind hkind, if_neg Bool.false_ne_true]
    rcases (exec_figures build hkind _).same hstarts with hsame | ⟨-, hstop⟩
    · exact hsame ▸ h
    · exact absurd (congrArg RunFigures.usRunStatus hstop) hactive.1

/-- What the tally is in a run that no SEEK or RESET disturbs. -/
theorem run_tally (history : List Call)
    (hrun : since (runKept build boot) (runBegun build boot) history) :
    RunTally (runPublishes build boot history) (runFigures (stateAfter build boot history)) ∧
      RunActive (stateAfter build boot history) := by
  refine since_induction (fun h ↦ RunTally (runPublishes build boot h)
    (runFigures (stateAfter build boot h)) ∧ RunActive (stateAfter build boot h)) ?_ ?_ history hrun
  · rintro call past ⟨hstarts, hactive⟩
    refine ⟨?_, hactive⟩
    rw [runPublishes, if_pos (show (stateAfter build boot (call :: past)).ghost.starts ≠
      (stateAfter build boot past).ghost.starts from hstarts)]
    rcases call.regTick_or with ⟨tick, rfl⟩ | hkind
    · exact absurd (regTick_starts build tick _) hstarts
    · obtain ⟨hacc, henergy, hpower, hamp⟩ := (exec_figures build hkind _).fresh hstarts
      exact RunTally.fresh hacc henergy hpower hamp
  · exact fun call past hkept h ↦ ⟨runTally_kept hkept h.1, hkept.2.1⟩

/-- A call that keeps the run takes nothing off the sum. -/
theorem tallySum_kept {call : Call} {past : List Call} (hkept : runKept build boot (call :: past)) :
    tallySum (runPublishes build boot past) ≤
      tallySum (runPublishes build boot (call :: past)) := by
  rw [runPublishes, if_neg (not_not.mpr hkept.1)]
  split_ifs
  · rw [tallySum, tallySum, List.map_cons, List.sum_cons]
    exact Nat.le_add_left _ _
  · exact le_rfl

end Runs

/-- The state in which a call has stopped the run: the regulation tick publishes behind its
checks. -/
def Call.stopped (build : Build) (call : Call) (s : Sys) : Sys :=
  match call with
  | .regTick tick => regTickHead (regRunLimitsOf s.cfg) tick s
  | _ => call.exec build s

theorem Call.stopped_of_kind (build : Build) {call : Call} (hkind : call.kind ≠ .reg) (s : Sys) :
    call.stopped build s = call.exec build s := by
  cases call with
  | regTick tick => exact absurd rfl hkind
  | _ => rfl

/-- A call that ends a run without another START latches its figures, and they stand unless a closed
SEEK/RESET window was still on display. -/
theorem exec_latches (build : Build) (call : Call) {s : Sys} (hactive : RunActive s)
    (hstarts : (call.exec build s).ghost.starts = s.ghost.starts)
    (hended : (call.exec build s).reg.usRunStatus = .idle) :
    runFigures (call.stopped build s) = (runFigures s).stop ∧
      (s.reg.srDispActive = false →
        (runFigures (call.exec build s)).lastEnergy = (runFigures s).currEnergy ∧
          (runFigures (call.exec build s)).lastPower = (runFigures s).maxPower ∧
          (runFigures (call.exec build s)).lastAmp = (runFigures s).maxAmp) := by
  obtain ⟨hrun, hidle⟩ := hactive
  rcases call.regTick_or with ⟨tick, rfl⟩ | hkind
  · have hfigures : runFigures (Call.exec build (.regTick tick) s) = _ :=
      appRegTick_figures (regRunLimitsOf s.cfg) tick s hidle
    have hended' : (appRegTick (regRunLimitsOf s.cfg) tick s).reg.usRunStatus = .idle := hended
    rw [if_neg (not_not.mpr hended')] at hfigures
    have hhead : runFigures (regTickHead (regRunLimitsOf s.cfg) tick s) = (runFigures s).stop := by
      rcases regTickHead_figures (regRunLimitsOf s.cfg) tick s with hsame | hstop
      · have hstatus := congrArg RunFigures.usRunStatus hfigures
        rw [hsame] at hstatus
        refine absurd (Eq.trans ?_ (hstatus.symm.trans hended)) hrun
        split_ifs <;> rfl
      · exact hstop.2
    refine ⟨hhead, fun hwindow ↦ ?_⟩
    rw [hfigures, hhead, hwindow, if_neg Bool.false_ne_true]
    split_ifs <;> exact ⟨rfl, rfl, rfl⟩
  · have hmoved := (exec_figures build hkind s).same hstarts
    rw [Call.stopped_of_kind build hkind]
    rcases hmoved with hsame | ⟨-, hstop⟩
    · exact absurd ((congrArg RunFigures.usRunStatus hsame).symm.trans hended) hrun
    · rw [hstop]
      exact ⟨rfl, fun _ ↦ ⟨rfl, rfl, rfl⟩⟩

/-- The last figures are the published energy and the peaks of these publishes. -/
def LastRun (publishes : List LcdMeasure) (s : Sys) : Prop :=
  s.reg.lastEnergy = tallySum publishes / 250 ∧
    s.reg.lastPower = tallyPeak (publishes.map (·.currPower)) ∧
    s.reg.lastAmp = tallyPeak (publishes.map (·.currAmp))

/-- Assumes: a START was accepted, and since then the run has gone on with no other START, the
SEEK/RESET chain has stayed in `SR_IDLE`, and the regulation tick has never kept away for the turn
of the millisecond counter. Then the published energy is the sum of the powers published since the
START over 250, which is also what the 32-bit accumulator holds, without overflow. A further call
that keeps the run takes nothing off the energy. One that ends it latches the published energy and
the peaks; they stand after the call, except that a run not published once can end in the very tick
whose publish closes a SEEK/RESET display. They also stand where the call begins one new run. -/
theorem run_energy (build : Build) (boot : BootIn) (past : List Call)
    (hrun : since (runKept build boot) (runBegun build boot) past) :
    let s := stateAfter build boot past
    let publishes := runPublishes build boot past
    s.measure.currEnergy = tallySum publishes / 250 ∧
      s.reg.accEnergy = tallySum publishes ∧ tallySum publishes < 2 ^ 32 ∧
      ∀ call : Call,
        let s' := call.exec build s
        (runKept build boot (call :: past) → s.measure.currEnergy ≤ s'.measure.currEnergy) ∧
          (s'.ghost.starts = s.ghost.starts → s'.reg.usRunStatus = .idle →
            LastRun publishes (call.stopped build s) ∧
              (LastRun publishes s' ∨ s.reg.srDispActive = true ∧ publishes = [])) ∧
          (s'.ghost.starts = s.ghost.starts + 1 → s'.reg.usRunStatus ≠ .idle →
            LastRun publishes s') := by
  dsimp only
  obtain ⟨htally, hactive⟩ := run_tally past hrun
  have hfits := htally.fits
  have henergy : (stateAfter build boot past).measure.currEnergy =
      tallySum (runPublishes build boot past) / 250 := by
    rw [← htally.sum]
    exact htally.energy
  refine ⟨henergy, htally.sum, by omega, fun call ↦ ⟨fun hkept ↦ ?_, fun hstarts hended ↦ ?_,
    fun hstarts hanew ↦ ?_⟩⟩
  · have htally' := runTally_kept hkept htally
    have henergy' : (call.exec build (stateAfter build boot past)).measure.currEnergy =
        tallySum (runPublishes build boot (call :: past)) / 250 := by
      rw [← htally'.sum]
      exact htally'.energy
    rw [henergy, henergy']
    exact Nat.div_le_div_right (tallySum_kept hkept)
  · obtain ⟨hstopped, hstands⟩ := exec_latches build call hactive hstarts hended
    refine ⟨⟨?_, ?_, ?_⟩, ?_⟩
    · exact (congrArg RunFigures.lastEnergy hstopped).trans henergy
    · exact (congrArg RunFigures.lastPower hstopped).trans htally.power
    · exact (congrArg RunFigures.lastAmp hstopped).trans htally.amp
    · cases hwindow : (stateAfter build boot past).reg.srDispActive with
      | false =>
        obtain ⟨hlast, hpower, hamp⟩ := hstands hwindow
        exact Or.inl ⟨hlast.trans henergy, hpower.trans htally.power, hamp.trans htally.amp⟩
      | true => exact Or.inr ⟨rfl, htally.window hwindow⟩
  · rcases call.regTick_or with ⟨tick, rfl⟩ | hkind
    · have hsame := regTick_starts build tick (stateAfter build boot past)
      omega
    · obtain ⟨src, now, hnew⟩ := (exec_figures build hkind _).anew hstarts hanew hactive.1
      refine ⟨?_, ?_, ?_⟩
      · exact (congrArg RunFigures.lastEnergy hnew).trans henergy
      · exact (congrArg RunFigures.lastPower hnew).trans htally.power
      · exact (congrArg RunFigures.lastAmp hnew).trans htally.amp

/-- A touch run in energy mode, up to the tick that ends it. -/
def energyRun : SuperloopRun :=
  warmedRun (everyPeriod quietIter 4040 5 ++ [edgeIter 4030, energyIter]) (quietIter 4090) 6

/-- Six publishes of the power 44 make the energy 1, which the next tick latches. -/
theorem energyRun_latched :
    since (runKept stdBuild (netBoot false)) (runBegun stdBuild (netBoot false))
        energyRun.history ∧
      tallySum (runPublishes stdBuild (netBoot false) energyRun.history) = 264 ∧
      LastRun (runPublishes stdBuild (netBoot false) energyRun.history)
        ((Call.regTick (quietIter 4090).reg).exec stdBuild
          (stateAfter stdBuild (netBoot false) energyRun.history)) := by
  have hstate : (controller stdBuild (netBoot false)).after energyRun.history =
      ((quietIter 4090).calls.take 6).foldl (fun s call ↦ call.exec stdBuild s)
        ((everyPeriod quietIter 4040 5 ++ [edgeIter 4030, energyIter]).foldr
          (appLoopIter stdBuild) (warm false 401)) := warmedRun_after false _ _ 6
  have hrun : since (runKept stdBuild (netBoot false)) (runBegun stdBuild (netBoot false))
      energyRun.history := by
    have hsplit : energyRun.history = (((quietIter 4090).calls.take 6).reverse ++
        iterHistory (everyPeriod quietIter 4040 5) ++ ((edgeIter 4030).calls.drop 1).reverse) ++
          (warmedRun [energyIter] (edgeIter 4030) 1).history := rfl
    have hpress : (warmedRun [energyIter] (edgeIter 4030) 1).history =
        .frame (keyFrame 0x1080 0 4030) :: (warmedRun [energyIter] (edgeIter 4030) 0).history := rfl
    rw [hsplit, hpress]
    refine since_append (controller stdBuild (netBoot false)) (fun call s ↦
        (call.exec stdBuild s).ghost.starts = s.ghost.starts ∧
          ((call.exec stdBuild s).reg.usRunStatus ≠ .idle ∧
            appSeekResetActive (call.exec stdBuild s) = false) ∧ call.inTurn s = true)
      (fun _ _ h ↦ h) ?_ (Or.inl ⟨?_, ?_, ?_⟩)
    · rw [Machine.after_cons, warmedRun_after]
      decide +kernel
    · rw [startAccepted, newest, stateAfter, stateAfter, Machine.after_cons, warmedRun_after]
      decide +kernel
    · rw [stateAfter, Machine.after_cons, warmedRun_after]
      decide +kernel
    · rw [stateAfter, Machine.after_cons, warmedRun_after]
      decide +kernel
  obtain ⟨-, hsum, -, hlater⟩ := run_energy stdBuild (netBoot false) energyRun.history hrun
  refine ⟨hrun, ?_, ?_⟩
  · rw [← hsum, stateAfter, hstate]
    decide +kernel
  · refine ((hlater (.regTick (quietIter 4090).reg)).2.1 ?_ ?_).2.resolve_right fun hshown ↦ ?_
    · exact regTick_starts _ _ _
    · rw [stateAfter, hstate]
      decide +kernel
    · have hwindow := hshown.1
      rw [stateAfter, hstate] at hwindow
      revert hwindow
      decide +kernel

end UsCtrl
