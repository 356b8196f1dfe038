import UsCtrl.ConfigRanges

/-!
# The times of a two-stage weld

A two-stage weld changes its amplitude after `limit_mo_time1` and ends after `limit_mo_time2`, both
counted from its start. It makes sense with the first time not behind the second one, and it is
short with the second one at most 20 s. The panel keeps the order and takes any word for a bound;
the masters keep the bound and look at one time only; a load may read one time and replace the other
by the factory default.

`stageTimes_iff` is the result: from the factory defaults on, the times are in order and bounded all
along a run exactly if every call keeps its half (`TimesKept`). If they are, a two-stage weld comes
to its second stage before it ends, and takes at most 2000 steps.
-/

set_option autoImplicit false
set_option relaxedAutoImplicit false

namespace UsCtrl

open Foundation

/-! ### The times -/

/-- The two times are in order and at most 20 s, in steps of 10 ms. -/
def StageTimes (cfg : AppConfig) : Prop :=
  cfg.limitMoTime1 ≤ cfg.limitMoTime2 ∧ cfg.limitMoTime2 ≤ 2000

instance (cfg : AppConfig) : Decidable (StageTimes cfg) := inferInstanceAs (Decidable (_ ∧ _))

/-- The value a load finds for a field of an initialised FRAM. -/
def foundValue (bus : I2cBus) (fram : Fram) (field : StoredField) : ℤ :=
  if bus.answers field then storedValue fram field else appConfigFactoryDefaults.value field

/-- A load finds the two times in order and bounded. -/
def FindsTimes (bus : I2cBus) (fram : Fram) : Prop :=
  fram 0 = framInitFlagMagic →
    foundValue bus fram .multiT1 ≤ foundValue bus fram .multiT2 ∧
      foundValue bus fram .multiT2 ≤ 2000

/-- What a call has to do for the times: a panel edit asks for no more than 2000, a master keeps to
the time in force of the other stage, and a load finds the times in order. -/
def TimesKept (build : Build) (call : Call) (s : Sys) : Prop :=
  match call with
  | .frame f =>
    (f.key = some .moTime1 ∨ f.key = some .moTime2 → f.word ≤ 2000) ∧
      ((Call.frame f).loads = true → FindsTimes f.bus s.fram)
  | .modbusTick input =>
    ∀ link word,
      (appliedRequest build input s = some (link, .multiT1, word) →
        cfgClampMax word 2000 ≤ s.cfg.limitMoTime2) ∧
      (appliedRequest build input s = some (link, .multiT2, word) →
        s.cfg.limitMoTime1 ≤ cfgClampMax word 2000)
  | _ => True

theorem factory_stageTimes : StageTimes appConfigFactoryDefaults := by decide

theorem loaded_stageTimes (bus : I2cBus) (fram : Fram) :
    StageTimes (appConfigLoad bus fram).cfg ↔ FindsTimes bus fram := by
  by_cases hflag : fram 0 = framInitFlagMagic
  · have hfirst : ((appConfigLoad bus fram).cfg.limitMoTime1 : ℤ) =
        foundValue bus fram .multiT1 := value_loaded bus hflag .multiT1
    have hsecond : ((appConfigLoad bus fram).cfg.limitMoTime2 : ℤ) =
        foundValue bus fram .multiT2 := value_loaded bus hflag .multiT2
    rw [FindsTimes, ← hfirst, ← hsecond, StageTimes]
    constructor
    · rintro ⟨horder, hbound⟩ -
      omega
    · intro h
      have hboth := h hflag
      omega
  · refine iff_of_true ?_ fun h ↦ absurd h hflag
    cases hread : bus.readOk 0 with
    | false =>
      rw [appConfigLoad, if_pos hread]
      exact factory_stageTimes
    | true =>
      rw [appConfigLoad, if_neg (by simp [hread]), if_pos hflag]
      exact factory_stageTimes

/-! ### Calls -/

/-- The field of the register that a request writes. -/
theorem request_field {build : Build} {boot : BootIn} {history : List Call} {input : ModbusTickIn}
    {link : MbLink} {reg : MbReg} {word : ℕ}
    (hrequest : appliedRequest build input (stateAfter build boot history) = some (link, reg, word))
    (hreg : reg ∈ configRegs) :
    (stateAfter build boot (.modbusTick input :: history)).cfg =
        (stateAfter build boot history).cfg.withFieldsOf reg
          (stateAfter build boot (.modbusTick input :: history)).cfg ∧
      (stateAfter build boot (.modbusTick input :: history)).cfg.field reg =
        if word = shownWord reg ((stateAfter build boot history).cfg.field reg)
        then (stateAfter build boot history).cfg.field reg
        else normalized reg word ((stateAfter build boot history).cfg.field reg) := by
  have hstored : (applyEntry build boot input history).cfg = (stateAfter build boot history).cfg :=
    (stored_modbusPass build input _).1
  unfold appliedRequest at hrequest
  dsimp only at hrequest
  split at hrequest
  · rename_i served written hlink hlast
    split_ifs at hrequest with hgate
    obtain ⟨rfl, rfl, rfl⟩ : served = link ∧ written = reg ∧
        holding (modbusPass build input (stateAfter build boot history)).1 written = word := by
      simpa using hrequest
    obtain ⟨other, value, hpoint⟩ := after_point hlink
    obtain rfl : other = written := Option.some.inj (hpoint.last.symm.trans hlast)
    have hopen : gateClosed build (applyEntry build boot input history) = false := by
      simpa using hgate
    rw [stateAfter_apply hlink, hpoint.written, ← hstored]
    exact ⟨(applied_isolated hpoint hopen served input.apply).cfg,
      applied_field hpoint hopen hreg served input.apply⟩
  · cases hrequest

/-- The steps that leave the two times alone: all but a load, an edit of a time by the panel, and a
write to the register of one. -/
theorem ConfigStep.times {build : Build} {s : Sys} {call : Call} {cfg : AppConfig}
    (hstep : ConfigStep build s call cfg) (hloads : call.loads = false)
    (hkey : ∀ f, call = .frame f → f.key ≠ some .moTime1 ∧ f.key ≠ some .moTime2)
    (hreg : ∀ input link word, call = .modbusTick input →
      appliedRequest build input s ≠ some (link, .multiT1, word) ∧
        appliedRequest build input s ≠ some (link, .multiT2, word)) :
    cfg.limitMoTime1 = s.cfg.limitMoTime1 ∧ cfg.limitMoTime2 = s.cfg.limitMoTime2 := by
  cases hstep with
  | kept | selected | counted | leased | cleared | committed => exact ⟨rfl, rfl⟩
  | loaded hload =>
    rw [hloads] at hload
    cases hload
  | saved =>
    have hprocess := (dataSaveGroup_config s).process
    have hfirst := congrArg AppConfig.limitMoTime1 hprocess
    have hsecond := congrArg AppConfig.limitMoTime2 hprocess
    exact ⟨hfirst, hsecond⟩
  | @edited f key hedit =>
    have hother := hkey f rfl
    cases key with
    | moTime1 => exact absurd hedit hother.1
    | moTime2 => exact absurd hedit hother.2
    | energyEn | multiEn =>
      simp only [panelConfigEdit]
      split_ifs <;> exact ⟨rfl, rfl⟩
    | _ => exact ⟨rfl, rfl⟩
  | @written input link reg word cfg hrequest hword hmem hcfg hfield =>
    have hother := hreg input link word rfl
    cases reg with
    | multiT1 => exact absurd hrequest hother.1
    | multiT2 => exact absurd hrequest hother.2
    | _ =>
      have hfirst := congrArg AppConfig.limitMoTime1 hcfg
      have hsecond := congrArg AppConfig.limitMoTime2 hcfg
      exact ⟨hfirst, hsecond⟩

/-- A frame that finds the times in order leaves them so exactly if it keeps its half. -/
theorem frame_stageTimes (build : Build) (boot : BootIn) (history : List Call) (f : FrameIn)
    (htimes : StageTimes (stateAfter build boot history).cfg) :
    StageTimes (stateAfter build boot (.frame f :: history)).cfg ↔
      TimesKept build (.frame f) (stateAfter build boot history) := by
  have hdispatch {key : PanelKey} (hkey : f.key = some key) :
      (stateAfter build boot (.frame f :: history)).cfg =
        (panelKeyHandler key f.word f (stateAfter build boot history)).cfg := by
    show (appLcdInputDispatch f (stateAfter build boot history)).cfg = _
    rw [appLcdInputDispatch, hkey]
  have hquiet {key : PanelKey} (hkey : f.key = some key) (hsave : key ≠ .dataSave) :
      (Call.frame f).loads = false := by
    simp [Call.loads, hkey, hsave]
  obtain ⟨horder, hbound⟩ := htimes
  by_cases hfirst : f.key = some .moTime1
  · have hcfg := hdispatch hfirst
    have hnone := hquiet hfirst (by rintro ⟨⟩)
    have hword : StageTimes (panelConfigEdit .moTime1 f.word (stateAfter build boot history).cfg) ↔
        f.word ≤ 2000 := by
      dsimp only [StageTimes, panelConfigEdit]
      split_ifs <;> omega
    rw [hcfg]
    refine hword.trans ⟨fun h ↦ ⟨fun _ ↦ h, fun hload ↦ ?_⟩, fun h ↦ h.1 (Or.inl hfirst)⟩
    rw [hnone] at hload
    cases hload
  · by_cases hsecond : f.key = some .moTime2
    · have hcfg := hdispatch hsecond
      have hnone := hquiet hsecond (by rintro ⟨⟩)
      have hword : StageTimes
          (panelConfigEdit .moTime2 f.word (stateAfter build boot history).cfg) ↔
            f.word ≤ 2000 := by
        dsimp only [StageTimes, panelConfigEdit]
        split_ifs <;> omega
      rw [hcfg]
      refine hword.trans ⟨fun h ↦ ⟨fun _ ↦ h, fun hload ↦ ?_⟩, fun h ↦ h.1 (Or.inr hsecond)⟩
      rw [hnone] at hload
      cases hload
    · cases hload : (Call.frame f).loads with
      | true =>
        have hcfg : (stateAfter build boot (.frame f :: history)).cfg =
            (appConfigLoad f.bus (stateAfter build boot history).fram).cfg :=
          (exec_load build hload _).1
        rw [hcfg, loaded_stageTimes]
        refine ⟨fun h ↦ ⟨fun hkey ↦ ?_, fun _ ↦ h⟩, fun h ↦ h.2 hload⟩
        exact absurd hkey (not_or.mpr ⟨hfirst, hsecond⟩)
      | false =>
        have hsame := (exec_config build boot history (.frame f)).times hload
          (by rintro _ ⟨⟩; exact ⟨hfirst, hsecond⟩) (by rintro _ _ _ ⟨⟩)
        refine iff_of_true ?_ ⟨fun hkey ↦ absurd hkey (not_or.mpr ⟨hfirst, hsecond⟩), ?_⟩
        · rw [StageTimes, hsame.1, hsame.2]
          exact ⟨horder, hbound⟩
        · rw [hload]
          rintro ⟨⟩

/-- A Modbus tick that finds the times in order leaves them so exactly if it keeps its half. -/
theorem modbusTick_stageTimes (build : Build) (boot : BootIn) (history : List Call)
    (input : ModbusTickIn) (htimes : StageTimes (stateAfter build boot history).cfg) :
    StageTimes (stateAfter build boot (.modbusTick input :: history)).cfg ↔
      TimesKept build (.modbusTick input) (stateAfter build boot history) := by
  obtain ⟨horder, hbound⟩ := htimes
  cases hrequest : appliedRequest build input (stateAfter build boot history) with
  | none =>
    have hsame := (exec_config build boot history (.modbusTick input)).times rfl (by rintro _ ⟨⟩)
      (by rintro _ _ _ ⟨⟩; rw [hrequest]; exact ⟨by rintro ⟨⟩, by rintro ⟨⟩⟩)
    refine iff_of_true ?_ fun link word ↦ ?_
    · rw [StageTimes, hsame.1, hsame.2]
      exact ⟨horder, hbound⟩
    · rw [hrequest]
      exact ⟨by rintro ⟨⟩, by rintro ⟨⟩⟩
  | some request =>
    obtain ⟨link, reg, word⟩ := request
    -- the word a register shows is one that the clamp leaves alone
    have hclamp {shown : ℕ} {stored : ℤ} (hshown : shown ≤ 2000)
        (hstored : stored = if word = (shown : ℤ).toNat then (shown : ℤ)
          else (cfgClampMax word 2000 : ℕ)) : stored = (cfgClampMax word 2000 : ℕ) := by
      rw [hstored]
      split_ifs with hsame
      · rw [hsame, Int.toNat_natCast, cfgClampMax, if_neg (not_lt.mpr hshown)]
      · rfl
    by_cases hfirst : reg = .multiT1
    · subst hfirst
      obtain ⟨hcfg, hfield⟩ := request_field hrequest (by decide)
      have htime : (stateAfter build boot (.modbusTick input :: history)).cfg.limitMoTime1 =
          cfgClampMax word 2000 := Int.ofNat.inj (hclamp (horder.trans hbound) hfield)
      have hother := congrArg AppConfig.limitMoTime2 hcfg
      have hafter : (stateAfter build boot (.modbusTick input :: history)).cfg.limitMoTime2 =
          (stateAfter build boot history).cfg.limitMoTime2 := hother
      rw [StageTimes, htime, hafter]
      constructor
      · rintro ⟨hle, -⟩ other value
        rw [hrequest]
        exact ⟨by rintro ⟨⟩; exact hle, by rintro ⟨⟩⟩
      · exact fun h ↦ ⟨(h link word).1 hrequest, hbound⟩
    · by_cases hsecond : reg = .multiT2
      · subst hsecond
        obtain ⟨hcfg, hfield⟩ := request_field hrequest (by decide)
        have htime : (stateAfter build boot (.modbusTick input :: history)).cfg.limitMoTime2 =
            cfgClampMax word 2000 := Int.ofNat.inj (hclamp hbound hfield)
        have hother := congrArg AppConfig.limitMoTime1 hcfg
        have hafter : (stateAfter build boot (.modbusTick input :: history)).cfg.limitMoTime1 =
            (stateAfter build boot history).cfg.limitMoTime1 := hother
        rw [StageTimes, htime, hafter]
        constructor
        · rintro ⟨hle, -⟩ other value
          rw [hrequest]
          exact ⟨by rintro ⟨⟩, by rintro ⟨⟩; exact hle⟩
        · exact fun h ↦ ⟨(h link word).2 hrequest, cfgClampMax_le word 2000⟩
      · have hnone (other : MbLink) (value : ℕ) :
            appliedRequest build input (stateAfter build boot history) ≠
                some (other, .multiT1, value) ∧
              appliedRequest build input (stateAfter build boot history) ≠
                some (other, .multiT2, value) := by
          rw [hrequest]
          exact ⟨by rintro ⟨⟩; exact hfirst rfl, by rintro ⟨⟩; exact hsecond rfl⟩
        have hsame := (exec_config build boot history (.modbusTick input)).times rfl
          (by rintro _ ⟨⟩) (by rintro _ other value ⟨⟩; exact hnone other value)
        refine iff_of_true ?_ fun other value ↦ ?_
        · rw [StageTimes, hsame.1, hsame.2]
          exact ⟨horder, hbound⟩
        · exact ⟨fun h ↦ absurd h (hnone other value).1, fun h ↦ absurd h (hnone other value).2⟩

/-- A call that finds the times in order leaves them so exactly if it keeps its half. -/
theorem exec_stageTimes (build : Build) (boot : BootIn) (history : List Call) (call : Call)
    (htimes : StageTimes (stateAfter build boot history).cfg) :
    StageTimes (stateAfter build boot (call :: history)).cfg ↔
      TimesKept build call (stateAfter build boot history) := by
  have hstep := exec_config build boot history call
  cases call with
  | frame f => exact frame_stageTimes build boot history f htimes
  | modbusTick input => exact modbusTick_stageTimes build boot history input htimes
  | lcdTick | weldTick | overloadTick | inputTick | hornTick | seekResetTick | regTick | ethTick
  | faultAlarmTick | buzzerTick =>
    have hsame := hstep.times rfl (by rintro _ ⟨⟩) (by rintro _ _ _ ⟨⟩)
    refine iff_of_true ?_ trivial
    rw [StageTimes, hsame.1, hsame.2]
    exact htimes

/-! ### A two-stage weld -/

/-- A two-stage weld is under way. -/
def WeldFsm.TwoStage (fsm : WeldFsm) : Prop := fsm.runStatus = .weld ∧ fsm.latchedMulti = true

/-- The count of a two-stage weld: it starts at zero, in the first stage, and stays below 2000. -/
structure StageCount (fsm : WeldFsm) : Prop where
  fresh : fsm.fStatusStart = false → fsm.multiElapsed = 0
  bounded : fsm.multiElapsed < 2000

/-- What one step does to a two-stage weld. -/
structure StageStep (fsm fsm' : WeldFsm) : Prop where
  counts : fsm'.TwoStage → StageCount fsm'
  enters : fsm'.TwoStage → fsm.runStatus ≠ .weld → fsm'.multiElapsed = 0
  stays : fsm'.TwoStage → fsm.runStatus = .weld →
    fsm.latchedMulti = true ∧ fsm'.multiElapsed = fsm.multiElapsed + 1
  leaves : fsm.TwoStage → fsm'.runStatus = .hold →
    fsm'.multiStage ≠ 0 ∧ fsm.multiElapsed + 1 ≤ 2000

/-- A step that ends outside WELD, and did not come from it. -/
theorem StageStep.of_outside {fsm fsm' : WeldFsm} (hbefore : fsm.runStatus ≠ .weld)
    (hafter : fsm'.runStatus ≠ .weld) : StageStep fsm fsm' :=
  ⟨fun h ↦ absurd h.1 hafter, fun h _ ↦ absurd h.1 hafter, fun h _ ↦ absurd h.1 hafter,
    fun h _ ↦ absurd h.1 hbefore⟩

/-- A step that ends in READY. -/
theorem StageStep.of_ready {fsm fsm' : WeldFsm} (hready : fsm'.runStatus = .ready) :
    StageStep fsm fsm' := by
  have hafter : fsm'.runStatus ≠ .weld := by simp [hready]
  exact ⟨fun h ↦ absurd h.1 hafter, fun h _ ↦ absurd h.1 hafter, fun h _ ↦ absurd h.1 hafter,
    fun _ h ↦ absurd (hready.symm.trans h) (by decide)⟩

/-- The step of WELD, on the state behind the prelude. -/
theorem weldStepWeld_stageStep {input : WeldIn} {fsm : WeldFsm} (hstatus : fsm.runStatus = .weld)
    (horder : input.limitMoTime1 ≤ input.limitMoTime2) (hbound : input.limitMoTime2 ≤ 2000)
    (hcount : fsm.TwoStage → StageCount fsm) :
    StageStep fsm (weldStepWeld input fsm WeldOut.none).1 := by
  cases hmulti : fsm.latchedMulti with
  | false =>
    have hsingle : (weldStepWeld input fsm WeldOut.none).1.runStatus = .weld →
        (weldStepWeld input fsm WeldOut.none).1.latchedMulti = false := by
      unfold weldStepWeld
      simp only [hmulti, Bool.false_eq_true, if_false]
      split_ifs
      · exact fun _ ↦ rfl
      · rintro ⟨⟩
      · rintro ⟨⟩
      · exact fun _ ↦ hmulti
      · rintro ⟨⟩
      · exact fun _ ↦ hmulti
    have hnone (h : (weldStepWeld input fsm WeldOut.none).1.TwoStage) : False := by
      have hlatch := hsingle h.1
      rw [h.2] at hlatch
      cases hlatch
    refine ⟨fun h ↦ (hnone h).elim, fun h _ ↦ (hnone h).elim, fun h _ ↦ (hnone h).elim,
      fun h _ ↦ ?_⟩
    rw [h.2] at hmulti
    cases hmulti
  | true =>
    obtain ⟨hfresh, hbelow⟩ := hcount ⟨hstatus, hmulti⟩
    cases hstarted : fsm.fStatusStart with
    | false =>
      have hstep : (weldStepWeld input fsm WeldOut.none).1 =
          { fsm with fStatusStart := true, multiStage := 0, multiElapsed := 1 } := by
        rw [weldStepWeld, if_pos hstarted, if_pos hmulti]
      rw [hstep]
      refine ⟨fun _ ↦ ⟨by rintro ⟨⟩, show 1 < 2000 by decide⟩, fun _ h ↦ absurd hstatus h,
        fun _ _ ↦ ⟨hmulti, ?_⟩, fun _ h ↦ ?_⟩
      · show 1 = fsm.multiElapsed + 1
        rw [hfresh hstarted]
      · rw [show ({ fsm with fStatusStart := true, multiStage := 0, multiElapsed := 1 } :
          WeldFsm).runStatus = .weld from hstatus] at h
        cases h
    | true =>
      have hlater : ¬ fsm.fStatusStart = false := by simp [hstarted]
      have hstep : weldStepWeld input fsm WeldOut.none = weldStepMulti input fsm WeldOut.none := by
        rw [weldStepWeld, if_neg hlater, if_pos hmulti]
      rw [hstep]
      obtain ⟨hstage, -, hleaves, hstays⟩ := weldStepMulti_step input fsm
      have hnext : fsm.nextElapsed = fsm.multiElapsed + 1 := if_pos (by omega)
      by_cases hover : fsm.nextElapsed ≥ input.limitMoTime2
      · rw [hleaves hover]
        refine ⟨by rintro ⟨⟨⟩, -⟩, by rintro ⟨⟨⟩, -⟩, by rintro ⟨⟨⟩, -⟩,
          fun _ _ ↦ ⟨?_, ?_⟩⟩
        · show (weldStepMulti input fsm WeldOut.none).1.multiStage ≠ 0
          rw [hstage]
          split_ifs with hchange
          · decide
          · exact fun hzero ↦ hchange ⟨hzero, horder.trans hover⟩
        · omega
      · rw [hstays hover]
        refine ⟨fun _ ↦ ⟨fun h ↦ absurd h hlater, ?_⟩, fun _ h ↦ absurd hstatus h,
          fun _ _ ↦ ⟨hmulti, hnext⟩, fun _ h ↦ ?_⟩
        · show fsm.nextElapsed < 2000
          omega
        · exact absurd (hstatus.symm.trans h) (by decide)

/-- A step on times in order counts a two-stage weld, and ends it in its second stage. -/
theorem weldFsmStep_stageStep {input : WeldIn} {fsm : WeldFsm}
    (horder : input.limitMoTime1 ≤ input.limitMoTime2) (hbound : input.limitMoTime2 ≤ 2000)
    (hcount : fsm.TwoStage → StageCount fsm) : StageStep fsm (weldFsmStep input fsm).1 := by
  by_cases habort : input.abort ∧ fsm.runStatus ≠ .ready
  · have hbody : (weldFsmStep input fsm).1 = (weldAbortBody fsm).1 := by
      rw [weldFsmStep, if_pos habort]
    exact .of_ready (congrArg WeldFsm.runStatus hbody)
  · have hstep : (weldFsmStep input fsm).1 =
        (weldFsmSwitch input (weldFsmPrelude input fsm)).1 := by
      rw [weldFsmStep, if_neg habort]
    rw [hstep]
    cases hstatus : fsm.runStatus with
    | ready => 
      have hswitch : (weldFsmSwitch input (weldFsmPrelude input fsm)).1 =
          weldStepReady input (weldFsmPrelude input fsm) := by
        rw [weldFsmSwitch, show (weldFsmPrelude input fsm).runStatus = .ready from hstatus]
      rw [hswitch]
      refine .of_outside (by simp [hstatus]) ?_
      unfold weldStepReady
      split_ifs
      · rintro ⟨⟩
      · exact fun h ↦ absurd (hstatus.symm.trans h) (by decide)
    | cyl1 =>
      have hswitch : (weldFsmSwitch input (weldFsmPrelude input fsm)).1 =
          weldStepCyl1 input (weldFsmPrelude input fsm) := by
        rw [weldFsmSwitch, show (weldFsmPrelude input fsm).runStatus = .cyl1 from hstatus]
      have houtside : fsm.runStatus ≠ .weld := by simp [hstatus]
      have hentered (weldTime : ℕ) (mid : WeldFsm) : StageStep fsm (enterWeld input weldTime mid) :=
        ⟨fun _ ↦ ⟨fun _ ↦ rfl, show 0 < 2000 by decide⟩, fun _ _ ↦ rfl, fun _ h ↦ absurd h houtside,
          fun h _ ↦ absurd h.1 houtside⟩
      have hwaits {mid : WeldFsm} (hmid : mid.runStatus = .cyl1) : StageStep fsm mid :=
        .of_outside houtside (by simp [hmid])
      rw [hswitch]
      unfold weldStepCyl1
      split_ifs
      · exact hwaits hstatus
      · exact hentered _ _
      · exact hwaits hstatus
      · exact hentered _ _
      · exact hwaits hstatus
    | weld =>
      have hswitch : (weldFsmSwitch input (weldFsmPrelude input fsm)).1 =
          (weldStepWeld input (weldFsmPrelude input fsm) WeldOut.none).1 := by
        rw [weldFsmSwitch, show (weldFsmPrelude input fsm).runStatus = .weld from hstatus]
      rw [hswitch]
      have hprelude : (weldFsmPrelude input fsm).TwoStage → StageCount (weldFsmPrelude input fsm) :=
        fun h ↦ ⟨(hcount h).fresh, (hcount h).bounded⟩
      obtain ⟨hcounts, henters, hstays, hleaves⟩ :=
        weldStepWeld_stageStep (show (weldFsmPrelude input fsm).runStatus = .weld from hstatus)
          horder hbound hprelude
      exact ⟨hcounts, henters, hstays, hleaves⟩
    | hold =>
      have hswitch : (weldFsmSwitch input (weldFsmPrelude input fsm)).1 =
          weldStepHold input (weldFsmPrelude input fsm) := by
        rw [weldFsmSwitch, show (weldFsmPrelude input fsm).runStatus = .hold from hstatus]
      rw [hswitch]
      have hwaits : (weldFsmPrelude input fsm).runStatus ≠ .weld := by
        show fsm.runStatus ≠ .weld
        simp [hstatus]
      refine .of_outside (by simp [hstatus]) ?_
      unfold weldStepHold
      split_ifs <;> first | exact hwaits | rintro ⟨⟩
    | cyl2 =>
      have hswitch : (weldFsmSwitch input (weldFsmPrelude input fsm)).1 =
          (weldStepCyl2 (weldFsmPrelude input fsm) WeldOut.none).1 := by
        rw [weldFsmSwitch, show (weldFsmPrelude input fsm).runStatus = .cyl2 from hstatus]
      rw [hswitch]
      have hwaits : (weldFsmPrelude input fsm).runStatus ≠ .weld := by
        show fsm.runStatus ≠ .weld
        simp [hstatus]
      refine .of_outside (by simp [hstatus]) ?_
      unfold weldStepCyl2 weldCycleDone
      split_ifs <;> first | exact hwaits | rintro ⟨⟩

/-! ### Runs -/

/-- The call makes a step of the press. -/
def Call.stepsPress (call : Call) (s : Sys) : Bool :=
  match call with
  | .weldTick tick => weldSteps tick s
  | _ => false

/-- A weld tick steps on the live times. -/
theorem weldBodyIn_times (tick : WeldTickIn) (s : Sys) :
    (weldBodyIn tick (weldAdvance tick s)).limitMoTime1 = s.cfg.limitMoTime1 ∧
      (weldBodyIn tick (weldAdvance tick s)).limitMoTime2 = s.cfg.limitMoTime2 := by
  have hscan : (weldScan tick (weldAdvance tick s)).cfg = s.cfg := by
    rw [weldScan_eq]
    rfl
  exact ⟨congrArg AppConfig.limitMoTime1 hscan, congrArg AppConfig.limitMoTime2 hscan⟩

/-- A call leaves the press alone, aborts it, or takes it one step on times in order. -/
theorem exec_stageStep (build : Build) (call : Call) {s : Sys} (htimes : StageTimes s.cfg)
    (hcount : s.weld.fsm.TwoStage → StageCount s.weld.fsm) :
    (call.stepsPress s = false ∧ (call.exec build s).weld.fsm = s.weld.fsm) ∨
      (call.exec build s).weld.fsm.runStatus = .ready ∨
      (call.stepsPress s = true ∧ StageStep s.weld.fsm (call.exec build s).weld.fsm) := by
  rcases exec_press build call s with
    ⟨hweld, -, hdue⟩ | ⟨tick, rfl, hdue, -, ⟨hfrozen, -, hfsm⟩ | ⟨hshown, -, hfsm⟩⟩ |
      ⟨-, -, hfsm⟩
  · refine Or.inl ⟨?_, congrArg WeldGlue.fsm hweld⟩
    cases call with
    | weldTick tick => simp [Call.stepsPress, weldSteps, hdue tick rfl]
    | _ => rfl
  · exact Or.inl ⟨by simp [Call.stepsPress, weldSteps, hfrozen], hfsm⟩
  · refine Or.inr (Or.inr ⟨by simp [Call.stepsPress, weldSteps, hdue, hshown], ?_⟩)
    obtain ⟨hfirst, hsecond⟩ := weldBodyIn_times tick s
    rw [hfsm, weldBodyStep]
    refine weldFsmStep_stageStep ?_ ?_ hcount
    · rw [hfirst, hsecond]
      exact htimes.1
    · rw [hsecond]
      exact htimes.2
  · refine Or.inr (Or.inl ?_)
    rw [hfsm, weldFsmStep]
    split_ifs with habort
    · rfl
    · have hready : s.weld.fsm.runStatus = .ready := not_not.mp fun h ↦ habort ⟨rfl, h⟩
      have hprelude : (weldFsmPrelude weldAbortIn s.weld.fsm).runStatus = .ready := hready
      show (weldFsmSwitch weldAbortIn (weldFsmPrelude weldAbortIn s.weld.fsm)).1.runStatus = .ready
      rw [weldFsmSwitch, hprelude]
      exact hready

section Run

variable (build : Build) (boot : BootIn)

/-- The times are in order. -/
def TimesOrdered : Past Call := fun history ↦ StageTimes (stateAfter build boot history).cfg

/-- Every call keeps its half. -/
def KeepsTimes : Past Call
  | [] => True
  | call :: past => TimesKept build call (stateAfter build boot past)

/-- The steps of the press in the visit of WELD that is under way, or that the newest call has
ended. -/
def visitSteps : List Call → ℕ
  | [] => 0
  | call :: past =>
    if weldFsmStatus (stateAfter build boot past) = .weld then
      visitSteps past + (call.stepsPress (stateAfter build boot past)).toNat
    else 0

variable {build boot}

theorem blank_stageTimes (hblank : boot.fram 0 ≠ framInitFlagMagic) :
    TimesOrdered build boot [] := by
  show StageTimes (bootState build boot).cfg
  rw [(boot_loaded build boot).1, loaded_stageTimes]
  exact fun hflag ↦ absurd hflag hblank

/-- As long as the times are in order, a two-stage weld counts the steps of its visit. -/
theorem stageCount_run (hstart : TimesOrdered build boot []) (history : List Call)
    (htimes : always (TimesOrdered build boot) history)
    (hstaged : (stateAfter build boot history).weld.fsm.TwoStage) :
    StageCount (stateAfter build boot history).weld.fsm ∧
      (stateAfter build boot history).weld.fsm.multiElapsed = visitSteps build boot history := by
  induction history with
  | nil =>
    have hready : weldFsmStatus (stateAfter build boot []) = .ready :=
      congrArg (fun weld ↦ weld.fsm.runStatus) (quiet_boot build boot).weld
    exact absurd (hready.symm.trans hstaged.1) (by decide)
  | cons call past ih =>
    have hbefore := always_now hstart past htimes.2
    have hcount := fun h ↦ (ih htimes.2 h).1
    have hafter : stateAfter build boot (call :: past) =
        call.exec build (stateAfter build boot past) := rfl
    rw [hafter] at hstaged ⊢
    rw [visitSteps]
    rcases exec_stageStep build call hbefore hcount with
      ⟨hrests, hfsm⟩ | hready | ⟨hsteps, hstep⟩
    · rw [hfsm] at hstaged ⊢
      obtain ⟨hstaging, hvisit⟩ := ih htimes.2 hstaged
      have hweld : weldFsmStatus (stateAfter build boot past) = .weld := hstaged.1
      refine ⟨hstaging, hvisit.trans ?_⟩
      rw [if_pos hweld, hrests]
      rfl
    · exact absurd (hready.symm.trans hstaged.1) (by decide)
    · refine ⟨hstep.counts hstaged, ?_⟩
      by_cases hweld : weldFsmStatus (stateAfter build boot past) = .weld
      · obtain ⟨hmulti, hnext⟩ := hstep.stays hstaged hweld
        rw [if_pos hweld, hnext, (ih htimes.2 ⟨hweld, hmulti⟩).2, hsteps]
        rfl
      · rw [if_neg hweld]
        exact hstep.enters hstaged hweld

/-- The FRAM stores the times in order. -/
def StoresTimes (fram : Fram) : Prop :=
  fram 0 = framInitFlagMagic →
    storedValue fram .multiT1 ≤ storedValue fram .multiT2 ∧ storedValue fram .multiT2 ≤ 2000

/-- A load reads both times or none, or the one it reads is in order with the factory default of the
other one. -/
def ReadsTimes (bus : I2cBus) (fram : Fram) : Prop :=
  bus.answers .multiT1 = bus.answers .multiT2 ∨
    (bus.answers .multiT1 = true ∧ storedValue fram .multiT1 ≤ 50) ∨
    (bus.answers .multiT2 = true ∧ 25 ≤ storedValue fram .multiT2)

theorem storesTimes_saved {bus : I2cBus} (hwrites : bus.Writes) {cfg : AppConfig}
    (htimes : StageTimes cfg) (fram : Fram) : StoresTimes (appConfigSaveAll bus cfg fram) := by
  intro _
  rw [storedValue_saved hwrites, storedValue_saved hwrites]
  obtain ⟨horder, hbound⟩ := htimes
  show (cfg.limitMoTime1 : ℤ) % 65536 ≤ (cfg.limitMoTime2 : ℤ) % 65536 ∧
    (cfg.limitMoTime2 : ℤ) % 65536 ≤ 2000
  omega

theorem storesTimes_loaded {bus : I2cBus} (hwrites : bus.Writes) {fram : Fram}
    (hstores : StoresTimes fram) : StoresTimes (appConfigLoad bus fram).fram := by
  by_cases hflag : fram 0 = framInitFlagMagic
  · intro _
    rw [storedValue_loaded hwrites hflag, storedValue_loaded hwrites hflag]
    exact hstores hflag
  · cases hread : bus.readOk 0 with
    | false =>
      rw [appConfigLoad, if_pos hread]
      exact hstores
    | true =>
      rw [appConfigLoad, if_neg (by simp [hread]), if_pos hflag]
      exact storesTimes_saved hwrites factory_stageTimes _

/-- Assumes: the writes arrive. As long as the live times are in order, so are the stored ones. -/
theorem storesTimes_run (hblank : boot.fram 0 ≠ framInitFlagMagic) (hboot : boot.bus.Writes)
    (history : List Call) (hwrites : ∀ call ∈ history, call.bus.Writes)
    (htimes : always (TimesOrdered build boot) history) :
    StoresTimes (stateAfter build boot history).fram := by
  induction history with
  | nil =>
    show StoresTimes (bootState build boot).fram
    rw [(boot_loaded build boot).2]
    exact storesTimes_loaded hboot fun hflag ↦ absurd hflag hblank
  | cons call past ih =>
    have hstores := ih (fun older hmem ↦ hwrites older (List.mem_cons_of_mem call hmem)) htimes.2
    have hcall := hwrites call List.mem_cons_self
    show StoresTimes (call.exec build (stateAfter build boot past)).fram
    rw [exec_fram]
    split_ifs
    · exact storesTimes_saved hcall htimes.1 _
    · exact storesTimes_loaded hcall hstores
    · exact hstores

/-- On times stored in order only the reads decide what a load finds. -/
theorem findsTimes_iff {fram : Fram} (hstores : StoresTimes fram) (bus : I2cBus) :
    FindsTimes bus fram ↔ (fram 0 = framInitFlagMagic → ReadsTimes bus fram) := by
  refine forall_congr' fun hflag ↦ ?_
  obtain ⟨horder, hbound⟩ := hstores hflag
  unfold foundValue ReadsTimes
  cases bus.answers .multiT1 with
  | false =>
    cases bus.answers .multiT2 with
    | false =>
      have hfactory : (25 : ℤ) ≤ 50 ∧ (50 : ℤ) ≤ 2000 := by decide
      exact iff_of_true hfactory (Or.inl rfl)
    | true =>
      show (25 ≤ storedValue fram .multiT2 ∧ storedValue fram .multiT2 ≤ 2000) ↔ _
      refine ⟨fun h ↦ Or.inr (Or.inr ⟨rfl, h.1⟩), ?_⟩
      rintro (h | ⟨h, -⟩ | ⟨-, h⟩)
      · cases h
      · cases h
      · exact ⟨h, hbound⟩
  | true =>
    cases bus.answers .multiT2 with
    | false =>
      show (storedValue fram .multiT1 ≤ 50 ∧ (50 : ℤ) ≤ 2000) ↔ _
      refine ⟨fun h ↦ Or.inr (Or.inl ⟨rfl, h.1⟩), ?_⟩
      rintro (h | ⟨-, h⟩ | ⟨h, -⟩)
      · cases h
      · exact ⟨h, by decide⟩
      · cases h
    | true => exact iff_of_true ⟨horder, hbound⟩ (Or.inl rfl)

end Run

/-- Assumes: the controller starts from the factory defaults of a blank FRAM. The two times are in
order and at most 20 s all along a run exactly if every call keeps its half. A load does, if the
writes arrive, exactly if it reads both times or none, or one that fits the default of the other.
As long as the times are in order, a two-stage weld ends in its second stage, after 2000 steps at
the most. -/
theorem stageTimes_iff (build : Build) (boot : BootIn) (history : List Call)
    (hblank : boot.fram 0 ≠ framInitFlagMagic) :
    (always (TimesOrdered build boot) history ↔ always (KeepsTimes build boot) history) ∧
      (always (TimesOrdered build boot) history →
        (boot.bus.Writes → (∀ call ∈ history, call.bus.Writes) → ∀ bus : I2cBus,
          FindsTimes bus (stateAfter build boot history).fram ↔
            ((stateAfter build boot history).fram 0 = framInitFlagMagic →
              ReadsTimes bus (stateAfter build boot history).fram)) ∧
        ((stateAfter build boot history).weld.fsm.TwoStage →
          visitSteps build boot history < 2000 ∧
            ∀ call, weldFsmStatus (stateAfter build boot (call :: history)) = .hold →
              (stateAfter build boot (call :: history)).weld.fsm.multiStage ≠ 0 ∧
                visitSteps build boot (call :: history) ≤ 2000)) := by
  have hstart : TimesOrdered build boot [] := blank_stageTimes hblank
  have hstep (call : Call) (past : List Call) : TimesOrdered build boot past →
      (TimesOrdered build boot (call :: past) ↔ KeepsTimes build boot (call :: past)) :=
    exec_stageTimes build boot past call
  refine ⟨always_iff_always hstart hstep history, fun htimes ↦ ⟨fun hboot hwrites ↦
      findsTimes_iff (storesTimes_run hblank hboot history hwrites htimes), fun hstaged ↦ ?_⟩⟩
  obtain ⟨hcount, hvisit⟩ := stageCount_run hstart history htimes hstaged
  refine ⟨hvisit ▸ hcount.bounded, fun call hhold ↦ ?_⟩
  have hweld : weldFsmStatus (stateAfter build boot history) = .weld := hstaged.1
  rw [visitSteps, if_pos hweld, ← hvisit]
  have hafter : stateAfter build boot (call :: history) =
      call.exec build (stateAfter build boot history) := rfl
  rw [hafter] at hhold ⊢
  rcases exec_stageStep build call (always_now hstart history htimes) (fun _ ↦ hcount) with
    ⟨-, hfsm⟩ | hready | ⟨hsteps, hstep⟩
  · have hsame : weldFsmStatus (call.exec build (stateAfter build boot history)) =
        weldFsmStatus (stateAfter build boot history) := congrArg WeldFsm.runStatus hfsm
    exact absurd (hhold.symm.trans (hsame.trans hweld)) (by decide)
  · exact absurd (hready.symm.trans hhold) (by decide)
  · rw [hsteps]
    exact hstep.leaves hstaged hhold

/-- The operator sets the first time to 100, which takes the second one along, and then the second
one to 150. -/
def pairedEdits : List Call :=
  [.frame (keyFrame 0x1403 150 20), .frame (keyFrame 0x1402 100 10)]

/-- The times stay in order. -/
theorem pairedEdits_ordered : always (TimesOrdered stdBuild blankBoot) pairedEdits := by
  refine (stageTimes_iff stdBuild blankBoot pairedEdits (by decide)).1.mpr
    ⟨⟨?_, by rintro ⟨⟩⟩, ⟨?_, by rintro ⟨⟩⟩,
    trivial⟩
  · exact fun _ ↦ by decide
  · exact fun _ ↦ by decide

/-- The operator sets the slave address, saves, and a master sets the second time to 10. -/
def shortSecond : SuperloopRun where
  done := [{ quietIter 10 with
    frames := [keyFrame 0x1100 1 10, keyFrame 0x1071 1 10, keyFrame 0x1050 1 10] }]
  current := serialIter 20 false (fc06 0x10 10)
  made := 9

/-- From the factory defaults, the panel takes the times behind 20 s, and a master takes the second
one before the first. -/
theorem stageTimes_broken :
    ¬ StageTimes (stateAfter stdBuild blankBoot [.frame (keyFrame 0x1402 3000 10)]).cfg ∧
      ¬ StageTimes (stateAfter stdBuild blankBoot shortSecond.history).cfg := by
  constructor
  · decide
  · decide +kernel

end UsCtrl
