import UsCtrl.Superloop

/-!
# Warm-up

A controller that nobody touches: every iteration comes 10 ms after the one before it, no key, no
button, no frame, no fault, no run (`quietIter`). The state such a run leaves is known in closed
form (`warm`, `quiet_warms_up`): only the clocks of the 10 ms gates, the two acquisition counters
and the warm-up counter move. A START is accepted from the 401st iteration on, and not before
(`warm_start_allowed`).

The quiet controller is where the runs of the theorems' witnesses and counterexamples begin.
-/

set_option autoImplicit false
set_option relaxedAutoImplicit false
set_option maxRecDepth 4000

namespace UsCtrl

open Foundation

/-! ### The quiet iteration -/

/-- The standard model. -/
def stdBuild : Build := ⟨.std, false, false⟩

/-- `factoryBoot` with or without an Ethernet chip. -/
def netBoot (present : Bool) : BootIn := { factoryBoot with ethPresent := present }

/-- A socket on which nothing happens. -/
def quietTcp (now : ℕ) : TcpPollIn :=
  ⟨.other, false, now, now, false, [], fun _ ↦ now, fun _ ↦ now⟩

/-- A Modbus tick without a request. -/
def quietModbus (now : ℕ) : ModbusTickIn :=
  ⟨now, true, now, now, true, true, [], now, ⟨now, now, now, I2cBus.sound⟩, quietTcp now⟩

/-- An iteration at one instant with every input at rest. -/
def quietIter (now : ℕ) : IterIn where
  frames := []
  weld := ⟨now, true, true, true, true, now, I2cBus.sound⟩
  overload := ⟨now, false⟩
  input := ⟨now, true, true, true, now⟩
  horn := ⟨now, true, true⟩
  seekReset := now
  reg := ⟨now, 0, 0, none⟩
  eth := ⟨now, false, [], false⟩
  modbus := quietModbus now
  faultAlarm := now
  buzzer := now

/-- A panel frame that reports one variable. -/
def keyFrame (vp word now : ℕ) : FrameIn :=
  ⟨0x83, vp, [1, UInt8.ofNat (word / 256), UInt8.ofNat word], now, now, now, I2cBus.sound⟩

/-- An iteration at rest but for the overload line. -/
def overloadIter (now : ℕ) (raw : Bool) : IterIn :=
  { quietIter now with overload := ⟨now, raw⟩ }

/-- An iteration at rest but for the two hand keys, which are held. -/
def keysIter (now : ℕ) : IterIn :=
  { quietIter now with weld := ⟨now, false, false, true, true, now, I2cBus.sound⟩ }

/-- Iterations every 10 ms, newest first. -/
def everyPeriod (iter : ℕ → IterIn) (start count : ℕ) : List IterIn :=
  ((List.range count).map fun index ↦ iter (start + 10 * index)).reverse

/-! ### The quiet state -/

/-- The regulation core after `n` quiet iterations. -/
def warmReg (n : ℕ) : RegState :=
  { appRegInit 0 with
    band := 21
    ch0Cnt := n % 10
    ch1Cnt := n % 50
    mainState := if n ≥ 401 then 0 else 1
    rampCounter := min n 401
    prevRampMs := 10 * n
    prevAcqMs := 10 * n
    prevMs := 10 * n }

/-- The Ethernet glue after `n` quiet iterations: the link is polled every 100 ms. -/
def warmEth (present : Bool) (n : ℕ) : EthGlue :=
  ⟨if present then .linkwait else .down, false, if present then n / 10 * 100 else 0, 0⟩

/-- The state after `n` quiet iterations, from the first on. -/
def warm (present : Bool) (n : ℕ) : Sys :=
  { bootState stdBuild (netBoot present) with
    reg := warmReg n
    measure := lcdMeasureInit
    weld := ⟨10 * n, false, false, true, weldFsmInit, weldTriggerFsmInit⟩
    overload := ⟨10 * n, 0, false, overloadFsmInit⟩
    input := ⟨10 * n, 0, false, ⟨true, true, true, false, false⟩⟩
    horn := ⟨10 * n, false, false, ⟨false, true, true, false⟩⟩
    seekReset := ⟨10 * n, .none, seekResetFsmInit⟩
    alarm := ⟨10 * n, false, 0, 10 * n, 0, .clear⟩
    eth := warmEth present n }

section QuietStep

variable {present : Bool} {n : ℕ} {s : Sys}

theorem elapsed_period (n : ℕ) : elapsedMs (10 * (n + 1)) (10 * n) = 10 := by
  rw [elapsedMs_of_le (by omega) (by omega)]
  omega

theorem due_period (n : ℕ) : decide (elapsedMs (10 * (n + 1)) (10 * n) ≥ 10) = true := by
  rw [elapsed_period]
  rfl

/-! ### The regulation core -/

theorem warmReg_ramp (hreg : s.reg = warmReg n) :
    regWarmUp (10 * (n + 1)) s = { s with reg := { warmReg n with
      mainState := (warmReg (n + 1)).mainState
      rampCounter := (warmReg (n + 1)).rampCounter
      prevRampMs := 10 * (n + 1) } } := by
  have hdue : elapsedMs (10 * (n + 1)) s.reg.prevRampMs ≥ 10 := by
    rw [hreg]
    exact (elapsed_period n).ge
  rw [regWarmUp, if_pos hdue, hreg]
  by_cases hwarm : n ≥ 401
  · have hmain : (warmReg n).mainState = 0 := if_pos hwarm
    have hnext : (warmReg (n + 1)).mainState = 0 := if_pos (by omega)
    have hcount : (warmReg (n + 1)).rampCounter = (warmReg n).rampCounter := by
      simp only [warmReg]
      omega
    rw [if_neg (by rw [hmain]; decide), hnext, hcount, ← hmain]
  · have hmain : (warmReg n).mainState = 1 := if_neg hwarm
    have hcount : (warmReg (n + 1)).rampCounter = (warmReg n).rampCounter + 1 := by
      simp only [warmReg]
      omega
    have hlast : (warmReg n).rampCounter + 1 ≥ 401 ↔ n + 1 ≥ 401 := by
      simp only [warmReg]
      omega
    rw [if_pos hmain, hcount]
    simp only [hlast]
    rfl

theorem regAcquireCh0_zero {reg : RegState} (hcnt : reg.ch0Cnt = n % 10) (hacc : reg.ch0Acc = 0)
    (havg : reg.ch0Avg = 0) : regAcquireCh0 0 reg = { reg with ch0Cnt := (n + 1) % 10 } := by
  have hwrap : n % 10 + 1 ≥ 10 → (n + 1) % 10 = 0 := by omega
  have hnext : ¬ n % 10 + 1 ≥ 10 → (n + 1) % 10 = n % 10 + 1 := by omega
  rcases reg
  simp only at hcnt hacc havg
  subst hcnt hacc havg
  rw [regAcquireCh0]
  split_ifs with hfull
  · simp [hwrap hfull]
  · simp [hnext hfull]

theorem regAcquireCh1_zero {reg : RegState} (hcnt : reg.ch1Cnt = n % 50) (hacc : reg.ch1Acc = 0)
    (hfilt : reg.ch1FiltX16 = 0) (havg : reg.ch1Avg = 0) :
    regAcquireCh1 0 reg = { reg with ch1Cnt := (n + 1) % 50 } := by
  have hwrap : n % 50 + 1 ≥ 50 → (n + 1) % 50 = 0 := by omega
  have hnext : ¬ n % 50 + 1 ≥ 50 → (n + 1) % 50 = n % 50 + 1 := by omega
  rcases reg
  simp only at hcnt hacc hfilt havg
  subst hcnt hacc hfilt havg
  rw [regAcquireCh1]
  split_ifs with hfull
  · simp [hwrap hfull]
  · simp [hnext hfull]

theorem warmReg_head {lim : RegRunLimits} (hlim : lim.calVal = 0) (hreg : s.reg = warmReg n) :
    regTickHead lim (quietIter (10 * (n + 1))).reg s =
      { s with reg := { warmReg (n + 1) with prevMs := 10 * n } } := by
  have hcal : { s with reg := { s.reg with calVal := lim.calVal } } = s := by
    rw [hlim]
    rcases s
    cases hreg
    rfl
  have hdue : elapsedMs (10 * (n + 1)) (10 * n) ≥ 1 := by
    rw [elapsed_period]
    decide
  change regAcquire ⟨10 * (n + 1), 0, 0, none⟩ (regCheckAutoTerminate (10 * (n + 1)) lim
    (regCheckSafetyCeiling (10 * (n + 1)) (regWarmUp (10 * (n + 1)) _))) = _
  rw [hcal, warmReg_ramp hreg, regCheckSafetyCeiling, if_neg fun h ↦ h.1 rfl,
    regCheckAutoTerminate, if_neg (by exact Bool.false_ne_true), regAcquire, if_pos (by exact hdue),
    regAcquireCh0_zero (n := n) rfl rfl rfl, regAcquireCh1_zero (n := n) rfl rfl rfl rfl]
  rfl

theorem regSetpoint_idle (hidle : s.reg.usRunStatus = .idle) (now : ℕ) :
    regSetpoint now s =
      { s with reg := { s.reg with prevMs := now, adcScaledValue := 0, band := 21 } } := by
  have hsel : (if s.reg.mainState = 1 ∨ s.reg.usRunStatus = .idle then 0
      else regScale s.reg.ch0Avg) = 0 := if_pos (Or.inr hidle)
  unfold regSetpoint
  simp only [hsel]
  rfl

theorem warm_figures (hreg : s.reg = warmReg n) (hmeasure : s.measure = lcdMeasureInit) (now : ℕ) :
    regPublishFigures false false now s = s := by
  have hzero : regCurrentFromAdc 0 0 = 0 := by decide
  have hamp : regCurrentFromAdc s.reg.ch1Avg s.reg.calVal = 0 := by
    rw [hreg]
    exact hzero
  simp only [regPublishFigures, hamp]
  rcases s
  cases hreg
  cases hmeasure
  rfl

theorem warm_copy (hreg : s.reg = warmReg n) (hmeasure : s.measure = lcdMeasureInit)
    (hpin : s.pins.usOut = false) : regPublishCopy false false 0 s = s := by
  rcases s with ⟨_, _, _, _, _, _, _, _, _, _, _, _, _, _, pins, _⟩
  rcases pins
  cases hreg
  cases hmeasure
  cases hpin
  rfl

/-- A publish of a quiet regulation core shows what is shown. -/
theorem warm_publish (hreg : s.reg = warmReg n) (hmeasure : s.measure = lcdMeasureInit)
    (hsr : s.seekReset.fsm = seekResetFsmInit) (hpin : s.pins.usOut = false) (now : ℕ)
    (freqCalVal : ℤ) : regPublishMeasure ⟨now, 0, 0, none⟩ freqCalVal s = s := by
  have hactive : decide (s.reg.usRunStatus ≠ .idle) = false := by
    rw [hreg]
    rfl
  have hchain : appSeekResetActive s = false := by
    rw [appSeekResetActive, hsr]
    rfl
  have hedge : regSrDisplayEdge false s = s := by
    rw [regSrDisplayEdge, hreg]
    rfl
  rw [regPublishMeasure, hactive, hchain, hedge]
  change regPublishCopy false false 0 (regPublishFigures false false now s) = s
  rw [warm_figures hreg hmeasure, warm_copy hreg hmeasure hpin]

theorem warm_regTick (hreg : s.reg = warmReg n) (hmeasure : s.measure = lcdMeasureInit)
    (hcfg : s.cfg = appConfigFactoryDefaults) (hsr : s.seekReset.fsm = seekResetFsmInit)
    (hpin : s.pins.usOut = false) :
    appRegTick (regRunLimitsOf s.cfg) (quietIter (10 * (n + 1))).reg s =
      { s with reg := warmReg (n + 1) } := by
  have hpublishes : regPublishes (quietIter (10 * (n + 1))).reg s = true := by
    rw [regPublishes, hreg]
    change decide (elapsedMs (10 * (n + 1)) (10 * n) ≥ 2) = true
    rw [elapsed_period]
    rfl
  rw [appRegTick, hpublishes, if_pos rfl, warmReg_head (by rw [hcfg]; rfl) hreg,
    regSetpoint_idle (by exact rfl)]
  have hsettled := warm_publish (s := { s with reg := warmReg (n + 1) }) rfl hmeasure hsr hpin
    (10 * (n + 1)) (regRunLimitsOf s.cfg).freqCalVal
  exact hsettled

/-! ### The other ticks -/

theorem warm_weldTick (present : Bool) (n : ℕ) :
    appWeldTick (quietIter (10 * (n + 1))).weld (warm present n) =
      { warm present n with weld := (warm present (n + 1)).weld } := by
  have hdue : weldDue (quietIter (10 * (n + 1))).weld (warm present n) = true := due_period n
  have hgrid : weldGrid (10 * (n + 1)) (10 * n) = 10 * (n + 1) := by
    rw [weldGrid, elapsedMs_of_le (by omega) (by omega), if_neg (by omega)]
    omega
  have hadvance : weldAdvance (quietIter (10 * (n + 1))).weld (warm present n) =
      { warm present n with weld := (warm present (n + 1)).weld } := by
    change { warm present n with weld := { (warm present n).weld with
      prevMs := weldGrid (10 * (n + 1)) (10 * n) } } = _
    rw [hgrid]
    rfl
  rw [appWeldTick, hdue, hadvance]
  rfl

theorem warm_overloadTick (hs : s.overload = (warm present n).overload) :
    appOverloadTick (quietIter (10 * (n + 1))).overload s =
      { s with overload := (warm present (n + 1)).overload } := by
  have hdue : overloadDue (quietIter (10 * (n + 1))).overload s = true := by
    rw [overloadDue, hs]
    exact due_period n
  rw [appOverloadTick, if_pos hdue]
  rcases s
  cases hs
  rfl

theorem warm_inputTick (hs : s.input = (warm present n).input)
    (hcfg : s.cfg = appConfigFactoryDefaults) :
    appInputTick (quietIter (10 * (n + 1))).input s =
      { s with input := (warm present (n + 1)).input } := by
  have hdue : inputDue (quietIter (10 * (n + 1))).input s = true := by
    rw [inputDue, hs]
    exact due_period n
  rw [appInputTick, if_pos hdue]
  rcases s
  cases hs
  cases hcfg
  rfl

theorem warm_hornTick (hs : s.horn = (warm present n).horn) :
    appHornTick (quietIter (10 * (n + 1))).horn s =
      { s with horn := (warm present (n + 1)).horn } := by
  have hdue : elapsedMs (quietIter (10 * (n + 1))).horn.now s.horn.prevMs ≥ 10 := by
    rw [hs]
    exact of_decide_eq_true (due_period n)
  rw [appHornTick, if_pos hdue]
  rcases s
  cases hs
  rfl

theorem warm_seekResetTick (hs : s.seekReset = (warm present n).seekReset)
    (hmeasure : s.measure = lcdMeasureInit) :
    appSeekResetTick (quietIter (10 * (n + 1))).seekReset s =
      { s with seekReset := (warm present (n + 1)).seekReset } := by
  have hdue : seekResetDue (quietIter (10 * (n + 1))).seekReset s = true := by
    rw [seekResetDue, hs]
    exact due_period n
  rw [appSeekResetTick, if_pos hdue]
  rcases s
  cases hs
  cases hmeasure
  rfl

theorem warm_ethTick (hs : s.eth = warmEth present n) (hdirty : s.lcd.etherDirty = false) :
    appEthTick (quietIter (10 * (n + 1))).eth s =
      { s with eth := warmEth present (n + 1) } := by
  have htake : ethTakeDirty s = s := if_neg (by rw [hdirty]; decide)
  rw [appEthTick, htake]
  cases present with
  | false =>
    rcases s
    cases hs
    rfl
  | true =>
    have hphase : s.eth.phase = .linkwait := by
      rw [hs]
      rfl
    have hage : elapsedMs (10 * (n + 1)) (n / 10 * 100) = 10 * (n + 1) - n / 10 * 100 :=
      elapsedMs_of_le (by omega) (by omega)
    have hstamp : s.eth.linkMs = n / 10 * 100 := by
      rw [hs]
      rfl
    rw [hphase]
    change ethLinkPoll _ s = _
    rw [ethLinkPoll, hstamp]
    change (if elapsedMs (10 * (n + 1)) (n / 10 * 100) ≥ 100 then _ else s) = _
    rw [hage]
    by_cases hpoll : 10 * (n + 1) - n / 10 * 100 ≥ 100
    · have hnext : (n + 1) / 10 * 100 = 10 * (n + 1) := by omega
      rw [if_pos hpoll]
      rcases s
      cases hs
      simp only [warmEth, if_true, hnext]
      rfl
    · have hnext : (n + 1) / 10 * 100 = n / 10 * 100 := by omega
      rw [if_neg hpoll]
      rcases s
      cases hs
      simp only [warmEth, if_true, hnext]

theorem warm_modbusTick (hs : s.modbus = (warm present n).modbus)
    (hcfg : s.cfg = appConfigFactoryDefaults) :
    appModbusTick stdBuild (quietIter (10 * (n + 1))).modbus s = s := by
  rcases s
  cases hs
  cases hcfg
  rfl

theorem warm_alarmTicks (hs : s.alarm = (warm present n).alarm)
    (hmeasure : s.measure = lcdMeasureInit) (hpin : s.pins.buzzer = false) :
    appBuzzerTick (quietIter (10 * (n + 1))).buzzer
      (appFaultAlarmTick (quietIter (10 * (n + 1))).faultAlarm s) =
      { s with alarm := (warm present (n + 1)).alarm } := by
  have hfault : ¬ elapsedMs (quietIter (10 * (n + 1))).faultAlarm s.alarm.faultPrevMs < 10 := by
    rw [hs]
    exact not_lt.mpr (of_decide_eq_true (due_period n))
  rw [appFaultAlarmTick, if_neg hfault]
  rcases s with ⟨_, _, _, _, _, _, _, _, _, _, _, _, _, _, pins, _⟩
  rcases pins
  cases hs
  cases hmeasure
  cases hpin
  dsimp only
  rw [appBuzzerTick, if_neg (by exact not_lt.mpr (of_decide_eq_true (due_period n)))]
  rfl

end QuietStep

/-! ### The quiet run -/

/-- An iteration without panel frames, tick by tick. -/
theorem appLoopIter_ticks (build : Build) (iter : IterIn) (hframes : iter.frames = []) (s : Sys) :
    appLoopIter build iter s =
      appBuzzerTick iter.buzzer (appFaultAlarmTick iter.faultAlarm
        (appModbusTick build iter.modbus (appEthTick iter.eth
          (Call.exec build (.regTick iter.reg) (appSeekResetTick iter.seekReset
            (appHornTick iter.horn (appInputTick iter.input (appOverloadTick iter.overload
              (appWeldTick iter.weld (appLcdTick s)))))))))) := by
  rw [appLoopIter, IterIn.calls, hframes]
  rfl

/-- A quiet iteration takes the quiet state to the next one. -/
theorem warm_step (present : Bool) (n : ℕ) :
    appLoopIter stdBuild (quietIter (10 * (n + 1))) (warm present n) = warm present (n + 1) := by
  have hlcd : appLcdTick (warm present n) = warm present n := rfl
  have hlimits (t : Sys) : Call.exec stdBuild (.regTick (quietIter (10 * (n + 1))).reg) t =
      appRegTick (regRunLimitsOf t.cfg) (quietIter (10 * (n + 1))).reg t := rfl
  rw [appLoopIter_ticks stdBuild _ rfl, hlcd, warm_weldTick, @warm_overloadTick present n,
    @warm_inputTick present n, @warm_hornTick present n, @warm_seekResetTick present n, hlimits,
    @warm_regTick n, @warm_ethTick present n, @warm_modbusTick present n,
    @warm_alarmTicks present n]
  all_goals rfl

/-- The first quiet iterations, newest first. -/
def quietRun : ℕ → List IterIn
  | 0 => []
  | n + 1 => quietIter (10 * (n + 1)) :: quietRun n

/-- Assumes: at least one iteration. Then the quiet run leaves the quiet state. -/
theorem quiet_warms_up (present : Bool) (n : ℕ) :
    (controller stdBuild (netBoot present)).after (iterHistory (quietRun (n + 1))) =
      warm present (n + 1) := by
  rw [after_iterHistory]
  induction n with
  | zero => cases present <;> rfl
  | succ n ih =>
    rw [quietRun, List.foldr_cons, ih]
    exact warm_step present (n + 1)

/-- A controller that nobody touches accepts a START from its 401st iteration on. -/
theorem warm_start_allowed (present : Bool) (n : ℕ) :
    appRegStartAllowed (warm present n) = true ↔ 401 ≤ n := by
  have hmain : (warm present n).reg.mainState = if n ≥ 401 then 0 else 1 := rfl
  have hallowed : appRegStartAllowed (warm present n) =
      decide ((warm present n).reg.mainState = 0) := by
    change (decide _ && true && true && true && true && true && true) = _
    simp only [Bool.and_true]
  rw [hallowed, decide_eq_true_eq, hmain]
  by_cases hwarm : n ≥ 401
  · rw [if_pos hwarm]
    exact iff_of_true rfl hwarm
  · rw [if_neg hwarm]
    exact iff_of_false (by decide) hwarm

/-! ### Runs that begin quietly -/

instance (history : List Call) : Decidable (Chronological history) :=
  inferInstanceAs (Decidable (List.Pairwise _ _))

/-- Every read of a quiet iteration is its instant. -/
theorem quietIter_reads {now stamp : ℕ} {call : Call} (hcall : call ∈ (quietIter now).calls)
    (hstamp : stamp ∈ call.reads) : stamp = now := by
  simp only [IterIn.calls, quietIter, List.map_nil, List.nil_append, List.mem_cons,
    List.not_mem_nil, or_false] at hcall
  rcases hcall with
    rfl | rfl | rfl | rfl | rfl | rfl | rfl | rfl | rfl | rfl | rfl
  all_goals
    simp only [Call.reads, quietModbus, quietTcp, TcpPollIn.reads, ApplyIn.reads, List.mem_append,
      List.mem_cons, List.mem_flatMap, List.not_mem_nil, or_false, or_self] at hstamp
  all_goals grind

theorem quietRun_reads {n stamp : ℕ} {call : Call} (hcall : call ∈ iterHistory (quietRun n))
    (hstamp : stamp ∈ call.reads) : stamp ≤ 10 * n := by
  induction n with
  | zero => exact absurd hcall (List.not_mem_nil)
  | succ n ih =>
    rw [quietRun, iterHistory, List.flatMap_cons, List.mem_append, List.mem_reverse] at hcall
    rcases hcall with hnew | hold
    · exact (quietIter_reads hnew hstamp).le
    · exact (ih hold).trans (by omega)

/-- Nobody holds the hand keys of a quiet run. -/
theorem quietRun_released {n : ℕ} {tick : WeldTickIn}
    (hcall : .weldTick tick ∈ iterHistory (quietRun n)) : tick.key1 = true := by
  induction n with
  | zero => exact absurd hcall (List.not_mem_nil)
  | succ n ih =>
    rw [quietRun, iterHistory, List.flatMap_cons, List.mem_append, List.mem_reverse] at hcall
    rcases hcall with hnew | hold
    · simp only [IterIn.calls, quietIter, List.map_nil, List.nil_append, List.mem_cons,
        List.not_mem_nil, reduceCtorEq, Call.weldTick.injEq, false_or, or_false] at hnew
      rw [hnew]
    · exact ih hold

/-- Assumes: the recent calls are in order, and none is earlier than the end of the quiet run. -/
theorem chronological_after_quiet {n : ℕ} {recent : List Call}
    (hquiet : Chronological (iterHistory (quietRun n))) (hrecent : Chronological recent)
    (hlate : ∀ call ∈ recent, ∀ stamp ∈ call.reads, 10 * n ≤ stamp) :
    Chronological (recent ++ iterHistory (quietRun n)) := by
  unfold Chronological at hquiet hrecent ⊢
  rw [List.flatMap_append, List.pairwise_append]
  refine ⟨hrecent, hquiet, ?_⟩
  intro now hnow stamp hstamp
  obtain ⟨call, hcall, hread⟩ := List.mem_flatMap.mp hnow
  obtain ⟨older, holder, hold⟩ := List.mem_flatMap.mp hstamp
  exact (quietRun_reads holder (List.mem_reverse.mp hold)).trans
    (hlate call hcall now (List.mem_reverse.mp hread))

theorem quietIter_chronological (now : ℕ) : Chronological (quietIter now).calls.reverse := by
  refine List.Pairwise.imp_of_mem (R := fun _ _ ↦ True) (fun hnow hstamp _ ↦ ?_)
    (List.pairwise_of_forall fun _ _ ↦ trivial)
  obtain ⟨call, hcall, hread⟩ := List.mem_flatMap.mp hnow
  obtain ⟨older, holder, hold⟩ := List.mem_flatMap.mp hstamp
  rw [quietIter_reads (List.mem_reverse.mp hcall) (List.mem_reverse.mp hread),
    quietIter_reads (List.mem_reverse.mp holder) (List.mem_reverse.mp hold)]

theorem quietRun_chronological (n : ℕ) : Chronological (iterHistory (quietRun n)) := by
  induction n with
  | zero => exact List.Pairwise.nil
  | succ n ih =>
    refine chronological_after_quiet ih (quietIter_chronological _) fun call hcall stamp hstamp ↦ ?_
    rw [quietIter_reads (List.mem_reverse.mp hcall) hstamp]
    omega

/-- A run that begins with the quiet iterations of the warm-up. -/
def warmedRun (recent : List IterIn) (current : IterIn) (made : ℕ) : SuperloopRun :=
  ⟨recent ++ quietRun 401, current, made⟩

/-- What such a run leaves is computed from the quiet state. -/
theorem warmedRun_after (present : Bool) (recent : List IterIn) (current : IterIn) (made : ℕ) :
    (controller stdBuild (netBoot present)).after (warmedRun recent current made).history =
      (current.calls.take made).foldl (fun s call ↦ call.exec stdBuild s)
        (recent.foldr (appLoopIter stdBuild) (warm present 401)) := by
  rw [SuperloopRun.history, Machine.after_append, after_iterHistory, warmedRun, List.foldr_append,
    ← after_iterHistory _ _ (quietRun 401), quiet_warms_up present 400, List.foldr_reverse]
  rfl

theorem warmedRun_history (recent : List IterIn) (current : IterIn) (made : ℕ) :
    (warmedRun recent current made).history =
      ((current.calls.take made).reverse ++ iterHistory recent) ++ iterHistory (quietRun 401) := by
  rw [SuperloopRun.history, warmedRun, iterHistory, List.flatMap_append, List.append_assoc]
  rfl

/-- Assumes: each read of the recent calls is no later than the next one, and none is earlier than
the end of the warm-up. -/
theorem warmedRun_chronological (recent : List IterIn) (current : IterIn) (made : ℕ)
    (hrecent : (((current.calls.take made).reverse ++ iterHistory recent).flatMap
      fun call ↦ call.reads.reverse).IsChain (· ≥ ·))
    (hlate : ∀ call ∈ (current.calls.take made).reverse ++ iterHistory recent,
      ∀ stamp ∈ call.reads, 4010 ≤ stamp) :
    Chronological (warmedRun recent current made).history := by
  rw [warmedRun_history]
  exact chronological_after_quiet (quietRun_chronological 401)
    (List.isChain_iff_pairwise.mp hrecent) hlate

/-- What holds of the calls of quiet iterations holds of the calls of a quiet run. -/
theorem quietRun_forall {fact : Call → Prop}
    (hquiet : ∀ now, ∀ call ∈ (quietIter now).calls, fact call) (n : ℕ) :
    ∀ call ∈ iterHistory (quietRun n), fact call := by
  induction n with
  | zero => rintro _ ⟨⟩
  | succ n ih =>
    intro call hcall
    rcases List.mem_append.mp hcall with hnow | hbefore
    · exact hquiet _ call (List.mem_reverse.mp hnow)
    · exact ih call hbefore

theorem warmedRun_forall {fact : Call → Prop} {recent : List IterIn} {current : IterIn} {made : ℕ}
    (hquiet : ∀ call ∈ iterHistory (quietRun 401), fact call)
    (hrecent : ∀ call ∈ (current.calls.take made).reverse ++ iterHistory recent, fact call) :
    ∀ call ∈ (warmedRun recent current made).history, fact call := by
  rw [warmedRun_history]
  intro call hcall
  rcases List.mem_append.mp hcall with h | h
  · exact hrecent call h
  · exact hquiet call h

end UsCtrl
