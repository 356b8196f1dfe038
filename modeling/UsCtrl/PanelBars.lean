import UsCtrl.Foundation.CopyCell
import UsCtrl.PanelPage

/-!
# The bars of the panel

The display machine computes the output bar in one step of its round of ten and the time bar in
another, and sends each in four chunks over the steps behind it. `dispComputeOutput_lit` says what
the output bar is: a thermometer of the current (`RefLevels.barLength`), which a larger current
never shortens (`barLength_mono`), with the marker of the set power; nothing of it depends on what
the buffer held before.

`bars_shown` follows the bars along a run: every slot shows the newest sample, or, as long as its
chunk has not been sent, the one before it. A bar is torn between two samples only while its chunks
are under way.
-/

set_option autoImplicit false
set_option relaxedAutoImplicit false

namespace UsCtrl

open Foundation

/-! ### The thermometer -/

/-- The lit length of the output bar at a current. -/
def RefLevels.barLength (refs : RefLevels) (amp : ℕ) : ℕ :=
  if amp ≤ 10 then 0
  else if amp ≤ refs.refLv1 then 1
  else if amp ≤ refs.refLv10 then 2 + (amp - refs.refLv1) * 8 / (refs.refLv10 - refs.refLv1)
  else if amp < refs.refLv20 then 10 + (amp - refs.refLv10) * 10 / (refs.refLv20 - refs.refLv10)
  else 20

/-- A part of a span fills at most all of the steps of its segment. -/
theorem segment_le {above span : ℕ} (steps : ℕ) (habove : above ≤ span) :
    above * steps / span ≤ steps :=
  Nat.div_le_of_le_mul (Nat.mul_le_mul_right steps habove)

theorem segmentFill_eq {above steps span : ℕ} (hspan : 0 < span) (habove : above ≤ span)
    (hsteps : steps < 256) : segmentFill above steps span = above * steps / span := by
  have hle := segment_le steps habove
  rw [segmentFill, if_pos hspan.ne', Nat.mod_eq_of_lt (lt_of_le_of_lt hle hsteps)]

theorem barLength_le (refs : RefLevels) (amp : ℕ) : refs.barLength amp ≤ 20 := by
  unfold RefLevels.barLength
  split_ifs with hlow hone hten htwenty
  · decide
  · decide
  · have hfill := segment_le 8 (Nat.sub_le_sub_right hten refs.refLv1)
    omega
  · have hfill := segment_le 10 (Nat.sub_le_sub_right htwenty.le refs.refLv10)
    omega
  · exact le_rfl

/-- A larger current never shortens the bar. -/
theorem barLength_mono (refs : RefLevels) {amp amp' : ℕ} (hle : amp ≤ amp') :
    refs.barLength amp ≤ refs.barLength amp' := by
  have hlower := refs.lower
  have hupper := refs.upper
  have hfill (above above' steps span : ℕ) (h : above ≤ above') :
      above * steps / span ≤ above' * steps / span :=
    Nat.div_le_div_right (Nat.mul_le_mul_right steps h)
  by_cases htwenty : refs.refLv20 ≤ amp' ∧ refs.refLv10 < amp' ∧ 10 < amp' ∧ refs.refLv1 < amp'
  · have hfull : refs.barLength amp' = 20 := by
      unfold RefLevels.barLength
      rw [if_neg (by omega), if_neg (by omega), if_neg (by omega), if_neg (by omega)]
    rw [hfull]
    exact barLength_le refs amp
  · unfold RefLevels.barLength
    have hfirst := hfill _ _ 8 (refs.refLv10 - refs.refLv1) (Nat.sub_le_sub_right hle refs.refLv1)
    have hsecond := hfill _ _ 10 (refs.refLv20 - refs.refLv10)
      (Nat.sub_le_sub_right hle refs.refLv10)
    have height : amp ≤ refs.refLv10 →
        (amp - refs.refLv1) * 8 / (refs.refLv10 - refs.refLv1) ≤ 8 :=
      fun h ↦ segment_le 8 (Nat.sub_le_sub_right h refs.refLv1)
    generalize (amp - refs.refLv1) * 8 / (refs.refLv10 - refs.refLv1) = low at hfirst height ⊢
    generalize (amp' - refs.refLv1) * 8 / (refs.refLv10 - refs.refLv1) = low' at hfirst ⊢
    generalize (amp - refs.refLv10) * 10 / (refs.refLv20 - refs.refLv10) = high at hsecond ⊢
    generalize (amp' - refs.refLv10) * 10 / (refs.refLv20 - refs.refLv10) = high' at hsecond ⊢
    split_ifs <;> omega

/-- Every branch writes every slot, so that the bar is the thermometer whatever the buffer held. -/
theorem dispFillOutput_lit (amp : ℕ) (refs : RefLevels) (buf : ℕ → Bool) {slot : ℕ}
    (hslot : slot < 20) :
    dispFillOutput amp refs buf slot = decide (slot < refs.barLength amp) := by
  have hlower := refs.lower
  have hupper := refs.upper
  have hwidth := refs.width
  have hspan (low high : ℕ) (h : low < high) (hhigh : high < 2 ^ 16) :
      toUint16 ((high : ℤ) - low) = high - low := by
    unfold toUint16
    omega
  unfold dispFillOutput RefLevels.barLength
  dsimp only
  rw [hspan _ _ hlower (hupper.trans hwidth), hspan _ _ hupper hwidth]
  -- slots below the last written segment are lit, and none is left to the buffer
  by_cases hlow : amp ≤ 10
  · rw [if_neg (by omega), if_pos hlow]
    simp [fillSlots, hslot]
  rw [if_pos (by omega), if_neg hlow]
  by_cases hone : amp ≤ refs.refLv1
  · rw [if_neg (by omega), if_pos hone]
    unfold fillSlots
    split_ifs
    · exact (decide_eq_false (by omega)).symm
    · exact (decide_eq_true (by omega)).symm
    · omega
  rw [if_pos (by omega), if_neg hone]
  by_cases hten : amp ≤ refs.refLv10
  · rw [if_neg (by omega), if_pos hten,
      segmentFill_eq (by omega) (Nat.sub_le_sub_right hten refs.refLv1) (by decide)]
    generalize (amp - refs.refLv1) * 8 / (refs.refLv10 - refs.refLv1) = fill
    unfold fillSlots
    split_ifs
    · exact decide_eq_decide.mpr (by omega)
    · exact (decide_eq_true (by omega)).symm
    · exact (decide_eq_true (by omega)).symm
    · omega
  rw [if_pos (by omega), if_neg hten]
  by_cases htwenty : amp < refs.refLv20
  · rw [if_neg (by omega), if_pos htwenty,
      segmentFill_eq (by omega) (Nat.sub_le_sub_right htwenty.le refs.refLv10) (by decide)]
    generalize (amp - refs.refLv10) * 10 / (refs.refLv20 - refs.refLv10) = fill
    unfold fillSlots
    split_ifs
    · exact decide_eq_decide.mpr (by omega)
    · exact (decide_eq_true (by omega)).symm
    · exact (decide_eq_true (by omega)).symm
    · exact (decide_eq_true (by omega)).symm
    · omega
  · rw [if_pos (by omega), if_neg htwenty, decide_eq_true hslot]
    unfold fillSlots
    split_ifs
    · rfl
    · rfl
    · rfl
    · omega

/-- The output bar is the thermometer with the marker. -/
theorem dispComputeOutput_lit (amp power : ℕ) (refs : RefLevels) (buf : ℕ → Bool) {slot : ℕ}
    (hslot : slot < 20) :
    dispComputeOutput amp power refs buf slot =
      decide (slot < refs.barLength amp ∨ slot = outputMarker power) := by
  unfold dispComputeOutput
  rw [fillSlots, dispFillOutput_lit amp refs buf hslot]
  split_ifs with hmarker
  · exact (decide_eq_true (Or.inr (by omega))).symm
  · exact decide_eq_decide.mpr ⟨Or.inl, fun h ↦ h.resolve_right (by omega)⟩

theorem dispComputeTime_lit (currentTime : ℕ) (buf : ℕ → Bool) {slot : ℕ} (hslot : slot < 20) :
    dispComputeTime currentTime buf slot = decide (slot < currentTime) :=
  if_pos ⟨Nat.zero_le slot, hslot⟩

/-! ### Who draws the bars -/

/-- The outputs of the calls themselves: pages, icons, messages and the counter. -/
def PanelOut.ofCall : PanelOut → Bool
  | .page _ | .icon _ _ | .message _ | .workCnt _ => true
  | _ => false

theorem restore_ofCall (s : Sys) : (restoreShows s).all PanelOut.ofCall = true := by
  unfold restoreShows
  split_ifs <;> rfl

theorem frame_ofCall (f : FrameIn) (s : Sys) : (f.shows s).all PanelOut.ofCall = true := by
  unfold FrameIn.shows
  cases hkey : f.key with
  | none => rfl
  | some key =>
    cases key with
    | setupParamMoohan | setupModel =>
      dsimp only
      split_ifs <;> rfl
    | stdSetupParam =>
      dsimp only [handleStdSetupParamShows]
      split_ifs <;> rfl
    | runMode =>
      dsimp only [handleRunModeShows]
      split_ifs <;> rfl
    | keyMulti =>
      dsimp only [handleKeyResetShows]
      split_ifs
      · rw [List.all_append, restore_ofCall]
        rfl
      · rfl
      · rfl
    | keyErrorReset =>
      dsimp only [handleKeyErrorResetShows]
      split_ifs
      · rfl
      · exact restore_ofCall _
      · rfl
    | dataSave =>
      dsimp only [dataSaveCommitShows]
      split_ifs <;> rfl
    | sysPicNow =>
      dsimp only [handleSysPicNowShows]
      split_ifs <;> rfl
    | _ => rfl

theorem shows_ofCall (build : Build) (call : Call) (s : Sys) :
    (call.shows build s).all PanelOut.ofCall = true := by
  cases call with
  | frame f => exact frame_ofCall f s
  | lcdTick =>
    show (appLcdTickFaultShows s).all PanelOut.ofCall = true
    unfold appLcdTickFaultShows appLcdFaultClearedShows
    dsimp only
    split_ifs
    · rfl
    · exact restore_ofCall _
    · rfl
    · rfl
  | weldTick tick =>
    show (appWeldTickShows tick s).all PanelOut.ofCall = true
    unfold appWeldTickShows
    split_ifs <;> rfl
  | overloadTick tick =>
    show (appOverloadTickShows tick s).all PanelOut.ofCall = true
    rw [appOverloadTickShows_eq]
    split_ifs
    · rfl
    · rfl
    · unfold appLcdSetOverloadShows
      dsimp only
      rw [if_neg Bool.false_ne_true]
      split_ifs
      · exact restore_ofCall _
      · rfl
    · rfl
  | inputTick tick =>
    show (appInputTickShows tick s).all PanelOut.ofCall = true
    rw [appInputTickShows_eq]
    split_ifs <;> rfl
  | seekResetTick now =>
    show (appSeekResetTickShows now s).all PanelOut.ofCall = true
    unfold appSeekResetTickShows
    dsimp only
    split_ifs <;> rfl
  | modbusTick input =>
    show (appModbusTickShows build input s).all PanelOut.ofCall = true
    unfold appModbusTickShows
    dsimp only
    split
    · split_ifs <;> rfl
    · rfl
  | _ => rfl

/-! ### One step -/

/-- What an output writes into a slot of the output bar. -/
def PanelOut.level? (slot : ℕ) : PanelOut → Option Bool
  | .level first slots =>
    if first ≤ slot ∧ slot < first + slots.length then some (slots.getD (slot - first) false)
    else none
  | _ => none

/-- What an output writes into a slot of the time bar. -/
def PanelOut.time? (slot : ℕ) : PanelOut → Option Bool
  | .time first slots =>
    if first ≤ slot ∧ slot < first + slots.length then some (slots.getD (slot - first) false)
    else none
  | _ => none

theorem drawAll_level (slot : ℕ) (outs : List PanelOut) (view : PanelView) :
    (view.drawAll outs).level slot =
      (lastWrite (PanelOut.level? slot) outs).getD (view.level slot) := by
  refine foldl_cell (PanelOut.level? slot) PanelView.draw (fun view ↦ view.level slot) ?_ outs view
  intro view out
  cases out with
  | level first slots =>
    unfold PanelView.draw PanelOut.level? overwrite
    dsimp only
    split_ifs <;> rfl
  | _ => rfl

theorem drawAll_time (slot : ℕ) (outs : List PanelOut) (view : PanelView) :
    (view.drawAll outs).time slot =
      (lastWrite (PanelOut.time? slot) outs).getD (view.time slot) := by
  refine foldl_cell (PanelOut.time? slot) PanelView.draw (fun view ↦ view.time slot) ?_ outs view
  intro view out
  cases out with
  | time first slots =>
    unfold PanelView.draw PanelOut.time? overwrite
    dsimp only
    split_ifs <;> rfl
  | _ => rfl

/-- The call advances the display machine. -/
def TimedCall.steps (timed : TimedCall) (t : Terminal) : Bool :=
  match timed.call with
  | .lcdTick => decide (elapsedMs timed.tDisp t.disp.prevMs ≥ 4)
  | _ => false

theorem fiveSlots_getD (buf : ℕ → Bool) {first slot : ℕ} (hfirst : first ≤ slot)
    (hlast : slot < first + 5) : (fiveSlots buf first).getD (slot - first) false = buf slot := by
  obtain ⟨index, rfl⟩ := Nat.exists_eq_add_of_le hfirst
  have hindex : index < 5 := by omega
  rw [Nat.add_sub_cancel_left, fiveSlots]
  simp [List.getD, hindex]

/-- The slots a chunk of a buffer covers. -/
theorem chunk_covers (buf : ℕ → Bool) (chunk slot : ℕ) :
    (if 5 * chunk ≤ slot ∧ slot < 5 * chunk + (fiveSlots buf (5 * chunk)).length
      then some ((fiveSlots buf (5 * chunk)).getD (slot - 5 * chunk) false) else none) =
      if slot / 5 = chunk then some (buf slot) else none := by
  have hlength : (fiveSlots buf (5 * chunk)).length = 5 := by simp [fiveSlots]
  rw [hlength]
  by_cases hchunk : slot / 5 = chunk
  · rw [if_pos hchunk, if_pos (by omega), fiveSlots_getD buf (by omega) (by omega)]
  · rw [if_neg hchunk, if_neg (by omega)]

/-- What a step of the display machine writes into the bars. -/
theorem dispSwitch_bars (m : LcdMeasure) (power : ℕ) (disp : DispState) (hstep : disp.step < 10)
    (slot : ℕ) :
    lastWrite (PanelOut.level? slot) (dispSwitch m power disp).2 =
        (if 1 ≤ disp.step ∧ disp.step ≤ 4 ∧ slot / 5 = disp.step - 1
          then some (disp.levelBuf slot) else none) ∧
      lastWrite (PanelOut.time? slot) (dispSwitch m power disp).2 =
        (if 6 ≤ disp.step ∧ slot / 5 = disp.step - 6 then some (disp.timeBuf slot) else none) := by
  obtain ⟨prevMs, step, levelBuf, timeBuf, prevRunOn, prevRemoteOn, refs⟩ := disp
  have hlevel (chunk : ℕ) : lastWrite (PanelOut.level? slot)
      [.level (5 * chunk) (fiveSlots levelBuf (5 * chunk))] =
        if slot / 5 = chunk then some (levelBuf slot) else none :=
    (lastWrite_singleton _ _).trans (chunk_covers levelBuf chunk slot)
  have htime (chunk : ℕ) : lastWrite (PanelOut.time? slot)
      [.time (5 * chunk) (fiveSlots timeBuf (5 * chunk))] =
        if slot / 5 = chunk then some (timeBuf slot) else none :=
    (lastWrite_singleton _ _).trans (chunk_covers timeBuf chunk slot)
  dsimp only at hstep ⊢
  interval_cases step
  · exact ⟨rfl, rfl⟩
  · exact ⟨(hlevel 0).trans (by simp), rfl⟩
  · exact ⟨(hlevel 1).trans (by simp), rfl⟩
  · exact ⟨(hlevel 2).trans (by simp), rfl⟩
  · exact ⟨(hlevel 3).trans (by simp), rfl⟩
  · exact ⟨rfl, rfl⟩
  · exact ⟨rfl, (htime 0).trans (by simp)⟩
  · refine ⟨rfl, ?_⟩
    show lastWrite _ (dispSendVal m ++ [.time 5 (fiveSlots timeBuf 5)]) = _
    have hvalues : lastWrite (PanelOut.time? slot) (dispSendVal m) = none := rfl
    rw [lastWrite_append, hvalues, Option.or_none]
    exact (htime 1).trans (by simp)
  · exact ⟨rfl, (htime 2).trans (by simp)⟩
  · exact ⟨rfl, (htime 3).trans (by simp)⟩

/-- The step and the buffers behind a step of the display machine. -/
theorem dispSwitch_state (m : LcdMeasure) (power : ℕ) (disp : DispState) (hstep : disp.step < 10) :
    (dispSwitch m power disp).1.step = (if disp.step + 1 < 10 then disp.step + 1 else 0) ∧
      (dispSwitch m power disp).1.levelBuf = (if disp.step = 0
        then dispComputeOutput m.currAmp power disp.refs disp.levelBuf else disp.levelBuf) ∧
      (dispSwitch m power disp).1.timeBuf = (if disp.step = 5
        then dispComputeTime m.usOnTime200m disp.timeBuf else disp.timeBuf) := by
  obtain ⟨prevMs, step, levelBuf, timeBuf, prevRunOn, prevRemoteOn, refs⟩ := disp
  dsimp only at hstep ⊢
  interval_cases step <;> exact ⟨rfl, rfl, rfl⟩

/-- What a call writes into the bars is what the display machine writes. -/
theorem exec_bars (build : Build) (timed : TimedCall) (t : Terminal) (slot : ℕ) :
    (timed.exec build t).view.level slot =
        (lastWrite (PanelOut.level? slot) (timed.disp build t).2).getD (t.view.level slot) ∧
      (timed.exec build t).view.time slot =
        (lastWrite (PanelOut.time? slot) (timed.disp build t).2).getD (t.view.time slot) := by
  have hcall : ∀ out ∈ timed.call.shows build t.sys, out.level? slot = none ∧
      out.time? slot = none := by
    intro out hout
    have hkind := List.all_eq_true.mp (shows_ofCall build timed.call t.sys) out hout
    cases out with
    | level | time => cases hkind
    | _ => exact ⟨rfl, rfl⟩
  have hland : (t.view.land timed.call).level = t.view.level ∧
      (t.view.land timed.call).time = t.view.time := by
    unfold PanelView.land
    split_ifs <;> exact ⟨rfl, rfl⟩
  constructor
  · show ((t.view.land timed.call).drawAll (timed.outs build t)).level slot = _
    rw [drawAll_level, TimedCall.outs, lastWrite_append,
      lastWrite_eq_none _ fun out hout ↦ (hcall out hout).1, Option.or_none, hland.1]
  · show ((t.view.land timed.call).drawAll (timed.outs build t)).time slot = _
    rw [drawAll_time, TimedCall.outs, lastWrite_append,
      lastWrite_eq_none _ fun out hout ↦ (hcall out hout).2, Option.or_none, hland.2]

/-! ### Runs -/

/-- What the output bar is computed from. -/
structure OutputSample where
  amp : ℕ
  power : ℕ
  refs : RefLevels

/-- The bar of a sample. -/
def OutputSample.lit (sample : OutputSample) (slot : ℕ) : Bool :=
  decide (slot < sample.refs.barLength sample.amp ∨ slot = outputMarker sample.power)

/-- The round of the display machine for a slot of the output bar. -/
def outputRound (slot : Fin 20) : Round :=
  ⟨10, 0, slot / 5 + 1, by omega, by omega⟩

/-- The round of the display machine for a slot of the time bar. -/
def timeRound (slot : Fin 20) : Round :=
  ⟨10, 5, slot / 5 + 6, by omega, by omega⟩

/-- A slot of the output bar as a cell that is sampled and copied. -/
def Terminal.levelCell (t : Terminal) (slot : ℕ) : CopyCell Bool :=
  ⟨t.disp.step, t.disp.levelBuf slot, t.view.level slot⟩

/-- A slot of the time bar as a cell that is sampled and copied. -/
def Terminal.timeCell (t : Terminal) (slot : ℕ) : CopyCell Bool :=
  ⟨t.disp.step, t.disp.timeBuf slot, t.view.time slot⟩

/-- What a sampling step takes for the output bar. -/
def Terminal.outputSample (t : Terminal) : OutputSample :=
  ⟨t.sys.measure.currAmp, t.sys.cfg.outputPower, t.disp.refs⟩

/-- The fault edges of the panel tick change neither what is measured nor the configuration. -/
theorem lcdTick_measure (s : Sys) :
    (appLcdTick s).measure = s.measure ∧ (appLcdTick s).cfg = s.cfg := by
  have hshow (t : Sys) : (appLcdShowError t).measure = t.measure ∧
      (appLcdShowError t).cfg = t.cfg := by
    unfold appLcdShowError appLcdInputRunKeyReanchor appLcdHookUsCommand
    dsimp only [appRegCommand, runReleaseCommand]
    split_ifs <;> exact ⟨rfl, rfl⟩
  have hcleared (t : Sys) : (appLcdFaultCleared t).measure = t.measure ∧
      (appLcdFaultCleared t).cfg = t.cfg := by
    unfold appLcdFaultCleared
    split_ifs <;> exact ⟨rfl, rfl⟩
  unfold appLcdTick
  dsimp only
  split_ifs
  · exact hshow _
  · exact hcleared _
  · exact ⟨rfl, rfl⟩

/-- A step of the display machine on the cells of a slot. -/
theorem dispStep_cells (remoteOn : Bool) (m : LcdMeasure) (power : ℕ) (disp : DispState)
    (hinside : disp.step < 10) (slot : Fin 20) (level time : Bool) :
    let stepped := appLcdDispStep remoteOn m power disp
    (⟨stepped.1.step, stepped.1.levelBuf slot,
        (lastWrite (PanelOut.level? slot) stepped.2).getD level⟩ : CopyCell Bool) =
      CopyCell.step (outputRound slot) (OutputSample.lit ⟨m.currAmp, power, disp.refs⟩ slot)
        ⟨disp.step, disp.levelBuf slot, level⟩ ∧
    (⟨stepped.1.step, stepped.1.timeBuf slot,
        (lastWrite (PanelOut.time? slot) stepped.2).getD time⟩ : CopyCell Bool) =
      CopyCell.step (timeRound slot) (decide ((slot : ℕ) < m.usOnTime200m))
        ⟨disp.step, disp.timeBuf slot, time⟩ := by
  dsimp only
  have hslot := slot.isLt
  have hedges (runOn : Bool) (outs : List PanelOut) :
      lastWrite (PanelOut.level? slot) (dispIconEdges runOn remoteOn disp ++ outs) =
          lastWrite (PanelOut.level? slot) outs ∧
        lastWrite (PanelOut.time? slot) (dispIconEdges runOn remoteOn disp ++ outs) =
          lastWrite (PanelOut.time? slot) outs := by
    unfold dispIconEdges
    split_ifs <;> exact ⟨rfl, rfl⟩
  obtain ⟨hstep, hlevelBuf, htimeBuf⟩ := dispSwitch_state m power
    { disp with prevRunOn := decide (m.usRunStatus ≠ .idle), prevRemoteOn := remoteOn }
    hinside
  obtain ⟨hlevel, htime⟩ := dispSwitch_bars m power
    { disp with prevRunOn := decide (m.usRunStatus ≠ .idle), prevRemoteOn := remoteOn }
    hinside slot
  unfold appLcdDispStep
  dsimp only
  rw [(hedges _ _).1, (hedges _ _).2, hstep, hlevelBuf, htimeBuf, hlevel, htime]
  have hlit : (if disp.step = 0 then dispComputeOutput m.currAmp power disp.refs disp.levelBuf
      else disp.levelBuf) slot =
        if disp.step = 0 then OutputSample.lit ⟨m.currAmp, power, disp.refs⟩ slot
        else disp.levelBuf slot := by
    split_ifs
    · exact dispComputeOutput_lit _ _ _ _ hslot
    · rfl
  have hclock : (if disp.step = 5 then dispComputeTime m.usOnTime200m disp.timeBuf
      else disp.timeBuf) slot =
        if disp.step = 5 then decide ((slot : ℕ) < m.usOnTime200m) else disp.timeBuf slot := by
    split_ifs
    · exact dispComputeTime_lit _ _ hslot
    · rfl
  have hsent : (if 1 ≤ disp.step ∧ disp.step ≤ 4 ∧ (slot : ℕ) / 5 = disp.step - 1
      then some (disp.levelBuf slot) else none).getD level =
        if disp.step = (slot : ℕ) / 5 + 1 then disp.levelBuf slot else level := by
    split_ifs <;> first | rfl | omega
  have htimed : (if 6 ≤ disp.step ∧ (slot : ℕ) / 5 = disp.step - 6
      then some (disp.timeBuf slot) else none).getD time =
        if disp.step = (slot : ℕ) / 5 + 6 then disp.timeBuf slot else time := by
    split_ifs <;> first | rfl | omega
  rw [hlit, hclock, hsent, htimed]
  exact ⟨rfl, rfl⟩

theorem exec_cells_idle (build : Build) {timed : TimedCall} {t : Terminal}
    (hidle : timed.steps t = false) (slot : ℕ) :
    (timed.exec build t).levelCell slot = t.levelCell slot ∧
      (timed.exec build t).timeCell slot = t.timeCell slot := by
  have hdisp : (timed.disp build t).1.step = t.disp.step ∧
      (timed.disp build t).1.levelBuf = t.disp.levelBuf ∧
      (timed.disp build t).1.timeBuf = t.disp.timeBuf ∧ (timed.disp build t).2 = [] := by
    unfold TimedCall.disp
    unfold TimedCall.steps at hidle
    split
    · rename_i hcall
      rw [hcall] at hidle
      rw [dispTick, if_neg (of_decide_eq_false hidle)]
      exact ⟨rfl, rfl, rfl, rfl⟩
    · split_ifs <;> exact ⟨rfl, rfl, rfl, rfl⟩
    · exact ⟨rfl, rfl, rfl, rfl⟩
  obtain ⟨hstep, hlevel, htime, houts⟩ := hdisp
  have hbars := exec_bars build timed t slot
  rw [houts] at hbars
  have hlevelCell : (timed.exec build t).levelCell slot =
      ⟨(timed.disp build t).1.step, (timed.disp build t).1.levelBuf slot,
        (timed.exec build t).view.level slot⟩ := rfl
  have htimeCell : (timed.exec build t).timeCell slot =
      ⟨(timed.disp build t).1.step, (timed.disp build t).1.timeBuf slot,
        (timed.exec build t).view.time slot⟩ := rfl
  rw [hlevelCell, htimeCell, hbars.1, hbars.2, hstep, hlevel, htime]
  exact ⟨rfl, rfl⟩

/-- A step of the display machine is a step of either round, with the samples of the moment. -/
theorem exec_cells_step (build : Build) {timed : TimedCall} {t : Terminal}
    (hsteps : timed.steps t = true) (hinside : t.disp.step < 10) (slot : Fin 20) :
    (timed.exec build t).levelCell slot =
        CopyCell.step (outputRound slot) (t.outputSample.lit slot) (t.levelCell slot) ∧
      (timed.exec build t).timeCell slot =
        CopyCell.step (timeRound slot) (decide ((slot : ℕ) < t.sys.measure.usOnTime200m))
          (t.timeCell slot) := by
  obtain ⟨hmeasure, hcfg⟩ := lcdTick_measure t.sys
  have hdisp : timed.disp build t = appLcdDispStep
      (appModbusRemoteActive timed.tRemote (appLcdTick t.sys)) t.sys.measure t.sys.cfg.outputPower
      { t.disp with prevMs := timed.tDisp } := by
    obtain ⟨call, tDisp, tRemote⟩ := timed
    cases call with
    | lcdTick =>
      show dispTick ⟨.lcdTick, tDisp, tRemote⟩ (appLcdTick t.sys) t.disp = _
      rw [dispTick, if_pos (of_decide_eq_true hsteps), hmeasure, hcfg]
    | _ => cases hsteps
  have hbars := exec_bars build timed t slot
  have hlevelCell : (timed.exec build t).levelCell slot =
      ⟨(timed.disp build t).1.step, (timed.disp build t).1.levelBuf slot,
        (timed.exec build t).view.level slot⟩ := rfl
  have htimeCell : (timed.exec build t).timeCell slot =
      ⟨(timed.disp build t).1.step, (timed.disp build t).1.timeBuf slot,
        (timed.exec build t).view.time slot⟩ := rfl
  rw [hlevelCell, htimeCell, hbars.1, hbars.2, hdisp]
  exact dispStep_cells _ _ _ { t.disp with prevMs := timed.tDisp } hinside slot _ _

section Runs

variable (build : Build) (boot : BootIn) (held : PanelView) (resends : ℕ)

/-- The samples of the output bar, newest first. -/
def outputSamples : List TimedCall → List OutputSample
  | [] => []
  | timed :: past =>
    let t := (terminal build boot held resends).after past
    if timed.steps t && decide (t.disp.step = 0) then t.outputSample :: outputSamples past
    else outputSamples past

/-- The samples of the time bar, newest first. -/
def timeSamples : List TimedCall → List ℕ
  | [] => []
  | timed :: past =>
    let t := (terminal build boot held resends).after past
    if timed.steps t && decide (t.disp.step = 5) then
      t.sys.measure.usOnTime200m :: timeSamples past
    else timeSamples past

/-- The bars of a new terminal are as the panel came up. -/
theorem bootTerminal_bars (slot : ℕ) :
    (bootTerminal build boot held resends).view.level slot = held.level slot ∧
      (bootTerminal build boot held resends).view.time slot = held.time slot := by
  have hresent (page : LcdPage) :
      lastWrite (PanelOut.level? slot) (List.replicate resends (.page page)) = none ∧
        lastWrite (PanelOut.time? slot) (List.replicate resends (.page page)) = none :=
    ⟨lastWrite_eq_none _ fun out hout ↦ by rw [(List.mem_replicate.mp hout).2]; rfl,
      lastWrite_eq_none _ fun out hout ↦ by rw [(List.mem_replicate.mp hout).2]; rfl⟩
  constructor
  · show (held.drawAll _).level slot = _
    rw [drawAll_level, lastWrite_append, (hresent _).1]
    rfl
  · show (held.drawAll _).time slot = _
    rw [drawAll_time, lastWrite_append, (hresent _).2]
    rfl

/-- Both bars are cells that the display machine samples and copies. -/
theorem bars_show (history : List TimedCall) (slot : Fin 20) :
    (CopyCell.Shows (outputRound slot) (held.level slot)
        ((outputSamples build boot held resends history).map fun sample ↦ sample.lit slot)
        (((terminal build boot held resends).after history).levelCell slot)) ∧
      CopyCell.Shows (timeRound slot) (held.time slot)
        ((timeSamples build boot held resends history).map fun time ↦ decide ((slot : ℕ) < time))
        (((terminal build boot held resends).after history).timeCell slot) := by
  induction history with
  | nil =>
    obtain ⟨hlevel, htime⟩ := bootTerminal_bars build boot held resends slot
    refine ⟨⟨?_, ?_, ?_, ?_⟩, ⟨?_, ?_, ?_, ?_⟩⟩
    · exact Nat.zero_lt_of_lt (outputRound slot).copy_lt_period
    · exact fun _ ↦ Nat.zero_le _
    · rintro newest ⟨⟩
    · exact hlevel
    · exact Nat.zero_lt_of_lt (timeRound slot).copy_lt_period
    · exact fun _ ↦ Nat.zero_le _
    · rintro newest ⟨⟩
    · exact htime
  | cons timed past ih =>
    rw [Machine.after_cons, outputSamples, timeSamples]
    generalize (terminal build boot held resends).after past = before at ih ⊢
    show CopyCell.Shows _ _ _ ((timed.exec build before).levelCell slot) ∧
      CopyCell.Shows _ _ _ ((timed.exec build before).timeCell slot)
    cases hsteps : timed.steps before with
    | false =>
      obtain ⟨hlevel, htime⟩ := exec_cells_idle build hsteps slot
      rw [hlevel, htime]
      exact ih
    | true =>
      obtain ⟨hlevel, htime⟩ := exec_cells_step build hsteps ih.1.inside slot
      have hsampled (samples : List OutputSample) :
          (if true && decide (before.disp.step = 0) then before.outputSample :: samples
            else samples).map (fun sample ↦ sample.lit slot) =
          CopyCell.samples (outputRound slot) (before.outputSample.lit slot)
            (before.levelCell slot) (samples.map fun sample ↦ sample.lit slot) := by
        show _ = if before.disp.step = 0 then _ else _
        by_cases hphase : before.disp.step = 0 <;> simp [hphase]
      have htimed (samples : List ℕ) :
          (if true && decide (before.disp.step = 5) then
            before.sys.measure.usOnTime200m :: samples else samples).map
              (fun time ↦ decide ((slot : ℕ) < time)) =
          CopyCell.samples (timeRound slot)
            (decide ((slot : ℕ) < before.sys.measure.usOnTime200m)) (before.timeCell slot)
            (samples.map fun time ↦ decide ((slot : ℕ) < time)) := by
        show _ = if before.disp.step = 5 then _ else _
        by_cases hphase : before.disp.step = 5 <;> simp [hphase]
      rw [hlevel, htime, hsampled, htimed]
      exact ⟨ih.1.step, ih.2.step⟩

/-- A bar shows its newest sample; a slot whose chunk has not been sent since shows the one before
it, and before the first samples what the panel came up with. -/
theorem bars_shown (history : List TimedCall) (slot : Fin 20) :
    let t := (terminal build boot held resends).after history
    let levels := outputSamples build boot held resends history
    let times := timeSamples build boot held resends history
    t.view.level slot =
        (((if 0 < t.disp.step ∧ t.disp.step ≤ (slot : ℕ) / 5 + 1 then levels.tail
          else levels).head?).map fun sample ↦ sample.lit slot).getD (held.level slot) ∧
      t.view.time slot =
        (((if 5 < t.disp.step ∧ t.disp.step ≤ (slot : ℕ) / 5 + 6 then times.tail
          else times).head?).map fun time ↦ decide ((slot : ℕ) < time)).getD (held.time slot) := by
  have hbars := bars_show build boot held resends history slot
  have hlevel := hbars.1.seen
  have htime := hbars.2.seen
  have hcopied {Sample : Type} (round : Round) (phase : ℕ) (samples : List Sample)
      (lit : Sample → Bool) : (CopyCell.copied round phase (samples.map lit)).head? =
        ((if round.sample < phase ∧ phase ≤ round.copy then samples.tail else samples).head?).map
          lit := by
    show (if round.sample < phase ∧ phase ≤ round.copy then _ else _ : List Bool).head? = _
    split_ifs
    · rw [← List.map_tail, List.head?_map]
    · exact List.head?_map
  rw [hcopied] at hlevel htime
  exact ⟨hlevel, htime⟩

end Runs

end UsCtrl
