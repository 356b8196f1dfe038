import UsCtrl.ConfigSteps
import UsCtrl.WeldDwell

/-!
# The amplitude of a running weld

The press sets the amplitude potentiometer with every `weld_start` and `amp_change`, and the run
that this starts has the source CYCLE. The panel and the Modbus START write the same potentiometer,
from `output_power`, whether or not their START is accepted: the source argues that without an
accepted START there is no output. A weld cycle that is running is such an output.

`cyclePot_kept` is the result: while a cycle runs the potentiometer holds the amplitude the press
asked for last, as long as no other write made during the cycle asks for a different level; a RUN
press, a page entry or a SAVE on the panel takes the level of `output_power` at once.
-/

set_option autoImplicit false
set_option relaxedAutoImplicit false

namespace UsCtrl

open Foundation

/-! ### The output power in range -/

/-- The live output power is one of the load's range. -/
def PowerInRange (cfg : AppConfig) : Prop := 50 ≤ cfg.outputPower ∧ cfg.outputPower ≤ 100

theorem cfgClampPower_range (value : ℕ) : 50 ≤ cfgClampPower value ∧ cfgClampPower value ≤ 100 := by
  unfold cfgClampPower
  split_ifs <;> omega

theorem power_loaded (bus : I2cBus) (fram : Fram) : PowerInRange (appConfigLoad bus fram).cfg := by
  have hdefaults : PowerInRange appConfigFactoryDefaults := ⟨le_rfl, by decide⟩
  cases hread : bus.readOk 0 with
  | false =>
    rw [appConfigLoad, if_pos hread]
    exact hdefaults
  | true =>
    by_cases hflag : fram 0 = framInitFlagMagic
    · rw [appConfigLoad_initialised hread hflag]
      show PowerInRange (storedConfig bus.readOk fram)
      have hstored : (storedConfig bus.readOk fram).outputPower =
          fieldOr (bus.readOk 19) (cfgClampPower (fram 19)) 50 := rfl
      rw [PowerInRange, hstored]
      cases bus.readOk 19 with
      | false => exact hdefaults
      | true => exact cfgClampPower_range (fram 19)
    · rw [appConfigLoad, if_neg (by simp [hread]), if_pos hflag]
      exact hdefaults

/-- Every step keeps the output power in range. -/
theorem ConfigStep.power {build : Build} {s : Sys} {call : Call} {cfg : AppConfig}
    (hstep : ConfigStep build s call cfg) (hpower : PowerInRange s.cfg) : PowerInRange cfg := by
  have hkept {other : AppConfig} (hsame : other.outputPower = s.cfg.outputPower) :
      PowerInRange other := by
    rw [PowerInRange, hsame]
    exact hpower
  cases hstep with
  | kept | selected | counted | leased | cleared | committed => exact hpower
  | loaded => exact power_loaded _ s.fram
  | saved =>
    have hsame := congrArg AppConfig.outputPower (dataSaveGroup_config s).process
    exact hkept hsame
  | @edited f key hkey =>
    cases key with
    | outPower => exact cfgClampPower_range f.word
    | energyEn | multiEn =>
      simp only [panelConfigEdit]
      split_ifs <;> exact hpower
    | _ => exact hpower
  | @written input link reg word cfg hrequest hword hreg hcfg hfield =>
    cases reg with
    | outPower =>
      have hvalue : (cfg.outputPower : ℤ) = (cfgClampPower word : ℕ) := hfield
      rw [PowerInRange, Int.ofNat.inj hvalue]
      exact cfgClampPower_range word
    | _ =>
      have hsame := congrArg AppConfig.outputPower hcfg
      exact hkept hsame

/-- The output power is in range in every run. -/
theorem power_run (build : Build) (boot : BootIn) (history : List Call) :
    PowerInRange (stateAfter build boot history).cfg := by
  induction history with
  | nil =>
    show PowerInRange (bootState build boot).cfg
    rw [(boot_loaded build boot).1]
    exact power_loaded boot.bus boot.fram
  | cons call past ih => exact (exec_config build boot past call).power ih

/-! ### The amplitudes of the press -/

/-- Half of full scale is half of the wiper. -/
theorem scaled_le {percent : ℕ} (hhigh : percent ≤ 50) : percent * 255 / 100 ≤ 127 :=
  calc percent * 255 / 100 ≤ 50 * 255 / 100 := Nat.div_le_div_right (Nat.mul_le_mul_right 255 hhigh)
    _ = 127 := rfl

theorem weldAmplitude_le {power : ℕ} (hlow : 50 ≤ power) (hhigh : power ≤ 100) (compTime : ℕ) :
    weldAmplitude power compTime ≤ 127 := by
  have hpercent : (power + 65536 - 50) % 65536 = power - 50 := by omega
  have hbase : (power + 65536 - 50) % 65536 * 255 / 100 % 65536 ≤ 127 := by
    rw [hpercent]
    exact (Nat.mod_le _ _).trans (scaled_le (by omega))
  unfold weldAmplitude
  dsimp only
  refine (Nat.mod_le _ 256).trans ?_
  split_ifs
  · exact (Nat.sub_le _ _).trans hbase
  · exact Nat.zero_le _
  · exact hbase

theorem weldMoAmplitude_le {moOut : ℕ} (hhigh : moOut ≤ 100) : weldMoAmplitude moOut ≤ 127 := by
  unfold weldMoAmplitude
  split_ifs
  · exact Nat.zero_le _
  · exact (Nat.mod_le _ _).trans (scaled_le (by omega))

/-- Assumes: the inputs are percentages. A step of the press asks for no more than full scale. -/
theorem weldFsmStep_amplitude {input : WeldIn} (fsm : WeldFsm) (hlow : 50 ≤ input.outputPower)
    (hhigh : input.outputPower ≤ 100) (hfirst : input.limitMoOut1 ≤ 100)
    (hsecond : input.limitMoOut2 ≤ 100) : (weldFsmStep input fsm).2.amplitude ≤ 127 := by
  have hmulti (mid : WeldFsm) : (weldStepMulti input mid WeldOut.none).2.amplitude ≤ 127 := by
    unfold weldStepMulti
    dsimp only
    split_ifs <;> first | exact weldMoAmplitude_le hsecond | exact Nat.zero_le _
  have hweld (mid : WeldFsm) : (weldStepWeld input mid WeldOut.none).2.amplitude ≤ 127 := by
    unfold weldStepWeld
    split_ifs
    · exact weldMoAmplitude_le hfirst
    · exact weldAmplitude_le hlow hhigh mid.compTime
    · exact hmulti mid
    all_goals exact Nat.zero_le _
  have hrise (mid : WeldFsm) : (weldStepCyl2 mid WeldOut.none).2.amplitude ≤ 127 := by
    unfold weldStepCyl2 weldCycleDone
    split_ifs <;> exact Nat.zero_le _
  have hswitch (mid : WeldFsm) : (weldFsmSwitch input mid).2.amplitude ≤ 127 := by
    unfold weldFsmSwitch
    cases mid.runStatus with
    | weld => exact hweld mid
    | cyl2 => exact hrise mid
    | _ => exact Nat.zero_le _
  unfold weldFsmStep
  split_ifs
  · exact Nat.zero_le _
  · exact hswitch _

/-- The press asks for levels the potentiometer has. -/
theorem weldAmp_le {call : Call} {s : Sys} (hpower : PowerInRange s.cfg) {amplitude : ℕ}
    (hamp : weldAmp call s = some amplitude) : amplitude ≤ 127 := by
  have hmo (value : ℕ) : weldMoOut value ≤ 100 := by
    unfold weldMoOut
    split_ifs <;> omega
  cases call with
  | weldTick tick =>
    have hscan : (weldScan tick (weldAdvance tick s)).cfg = s.cfg := by
      rw [weldScan_eq]
      rfl
    have hinput : (weldBodyIn tick (weldAdvance tick s)).outputPower = s.cfg.outputPower :=
      congrArg AppConfig.outputPower hscan
    have hle : (weldBodyStep tick (weldAdvance tick s)).2.amplitude ≤ 127 :=
      weldFsmStep_amplitude _ (hinput ▸ hpower.1) (hinput ▸ hpower.2) (hmo _) (hmo _)
    rw [weldAmp] at hamp
    split_ifs at hamp
    rw [← Option.some.inj hamp]
    exact hle
  | _ => cases hamp

/-! ### The other writes -/

theorem gotoPage_setsPot {page : LcdPage} (hpots : page.setsPot = true) (tPage : ℕ) (s : Sys) :
    (gotoPage page tPage s).pins.pot = powerLevel s.cfg := by
  cases page <;> first | rfl | cases hpots

/-- A panel frame that writes the potentiometer writes the level of the output power. -/
theorem frame_setsPot {f : FrameIn} {s : Sys} (hpots : f.setsPot s = true) :
    (appLcdInputDispatch f s).pins.pot = powerLevel s.cfg := by
  have hsetup (t : Sys) : (handleSetupParamEnter f.tPage t).pins.pot = powerLevel t.cfg := by
    have hpage : (setup1PageForMode t.lcd.sysMode).setsPot = true := by
      unfold setup1PageForMode
      split_ifs <;> rfl
    exact gotoPage_setsPot hpage f.tPage t
  have hcommand (t : Sys) :
      (appLcdHookSetPot t.cfg.outputPower (appLcdHookUsCommand .start f.tCmd t)).pins.pot =
        powerLevel t.cfg := rfl
  unfold appLcdInputDispatch
  cases hkey : f.key with
  | none =>
    rw [FrameIn.setsPot, hkey] at hpots
    cases hpots
  | some key =>
    rw [FrameIn.setsPot, hkey] at hpots
    cases key with
    | setupParam => exact hsetup s
    | setupParamMoohan =>
      dsimp only [panelKeyHandler, longPressKey]
      rw [if_pos hpots]
      exact hsetup _
    | keyMulti =>
      simp only [Bool.or_eq_true, decide_eq_true_eq, Bool.and_eq_true, Bool.not_eq_true'] at hpots
      dsimp only [panelKeyHandler, handleKeyMulti]
      rcases hpots with hrun | ⟨htoggle, hup⟩
      · rw [hrun, if_neg (by decide), if_neg (by decide), if_pos rfl]
        exact hcommand s
      · rw [htoggle, if_neg (by decide), if_neg (by decide), if_neg (by decide),
          if_neg (by decide), if_pos rfl, handleRunToggle, hup]
        exact hcommand _
    | commMode =>
      have hgoto {page : LcdPage} (hpage : page = s.lcd.lcdStatus) (lcd : LcdState) :
          (gotoPage page f.tPage { s with lcd := lcd }).pins.pot = powerLevel s.cfg := by
        refine gotoPage_setsPot ?_ f.tPage _
        rw [hpage]
        exact hpots
      have hpage : s.lcd.lcdStatus = .setupHand ∨ s.lcd.lcdStatus = .setupMulti ∨
          s.lcd.lcdStatus = .setupStd1 := by
        revert hpots
        cases s.lcd.lcdStatus <;> simp [LcdPage.setsPot]
      dsimp only [panelKeyHandler, handleCommMode]
      by_cases hserial : f.word = 0
      · rw [if_pos hserial]
        exact hgoto (by rcases hpage with h | h | h <;> rw [h]) _
      · rw [if_neg hserial]
        exact hgoto (by rcases hpage with h | h | h <;> rw [h]) _
    | dataSave =>
      simp only [Bool.and_eq_true, decide_eq_true_eq] at hpots
      obtain ⟨⟨hword, hmodel⟩, hother⟩ := hpots
      have hether (t : Sys) : (commitCommModeAndEther t).pins = t.pins := by
        rw [commitCommModeAndEther_eq]
      have hhorn (on : Bool) (t : Sys) : (appHornSetMode on t).pins.pot = t.pins.pot := by
        rw [appHornSetMode_eq]
      have hcount (t : Sys) : (commitCntReset t).pins = t.pins := by
        rw [commitCntReset_eq]
      have hgroup : (dataSaveGroup s).pins.pot = powerLevel s.cfg ∧
          (dataSaveGroup s).lcd.lcdStatus.setsPot = false := by
        unfold dataSaveGroup
        cases hcase : setupGroup s with
        | model => exact absurd hcase hmodel
        | other => exact absurd hcase hother
        | multi => exact ⟨congrArg Pins.pot (hether _), rfl⟩
        | hand => exact ⟨rfl, rfl⟩
        | std =>
          refine ⟨(congrArg Pins.pot (hether _)).trans ((hhorn _ _).trans ?_), rfl⟩
          exact congrArg Pins.pot (hcount _)
      dsimp only [panelKeyHandler]
      rw [if_pos hword, dataSaveCommit]
      exact ((side_changePage f.tPage (saveConfig f.bus (dataSaveGroup s))).pot hgroup.2).trans
        hgroup.1
    | _ => cases hpots

/-- The calls that may write the potentiometer take it to the level of the output power, or leave it
alone. -/
theorem exec_setsPot (build : Build) {call : Call} {s : Sys} (hsets : SetsPot build call s = true) :
    (call.exec build s).pins.pot = s.pins.pot ∨
      (call.exec build s).pins.pot = powerLevel s.cfg := by
  cases call with
  | frame f => exact Or.inr (frame_setsPot hsets)
  | modbusTick input => exact (modbusTick_desk build input s).pot.imp_right And.right
  | _ => cases hsets

/-! ### Runs -/

/-- A run of the source CYCLE begins with a `weld_start`. -/
theorem cycle_started (build : Build) {call : Call} {s : Sys} (hbefore : s.reg.usRunStatus ≠ .cycle)
    (hafter : (call.exec build s).reg.usRunStatus = .cycle) :
    ∃ tick, call = .weldTick tick ∧ weldSteps tick s = true ∧
      (weldBodyStep tick (weldAdvance tick s)).2.weldStart = true := by
  have hframe := exec_frame build call s
  have hstarts : (call.exec build s).ghost.starts ≠ s.ghost.starts := by
    intro hsame
    rcases hframe.kept hsame with hkept | hidle
    · exact hbefore (hkept.symm.trans hafter)
    · rw [hafter] at hidle
      cases hidle
  have hkind := CallKind.weld_of_src (hframe.started hstarts (by decide) hafter)
  cases call with
  | weldTick tick =>
    rcases appWeldTick_cases tick s with ⟨-, heq⟩ | ⟨-, -, heq⟩ | ⟨hsteps, hbody⟩
    · exact absurd (congrArg (fun t : Sys ↦ t.ghost.starts) heq) hstarts
    · exact absurd (congrArg (fun t : Sys ↦ t.ghost.starts) heq) hstarts
    · refine ⟨tick, rfl, hsteps, ?_⟩
      by_contra hnone
      exact hstarts (hbody.starts.trans (if_neg fun h ↦ hnone h.1))
  | _ => cases hkind

/-- The press asks for an amplitude when it starts a run. -/
theorem weldAmp_of_start (build : Build) {call : Call} {s : Sys}
    (hbefore : s.reg.usRunStatus ≠ .cycle) (hafter : (call.exec build s).reg.usRunStatus = .cycle) :
    weldAmp call s ≠ none := by
  obtain ⟨tick, rfl, hsteps, hstart⟩ := cycle_started build hbefore hafter
  rw [weldAmp, if_pos ⟨hsteps, Or.inl hstart⟩]
  exact Option.some_ne_none _

section Run

variable (build : Build) (boot : BootIn)

/-- The press has asked for an amplitude, with `weld_start` or `amp_change`, and for none since. -/
def latestAmp (amplitude : ℕ) : Past Call :=
  since
    (fun
      | [] => False
      | call :: past => weldAmp call (stateAfter build boot past) = none)
    fun
      | [] => False
      | call :: past => weldAmp call (stateAfter build boot past) = some amplitude

/-- While a cycle runs, a write to the potentiometer that is not the press's asks for the level it
has. -/
def CycleUndisturbed : Past Call
  | [] => True
  | call :: past => SetsPot build call (stateAfter build boot past) = true →
    (stateAfter build boot past).reg.usRunStatus = .cycle →
      powerLevel (stateAfter build boot past).cfg = (stateAfter build boot past).pins.pot

end Run

/-- Assumes: every write that the panel or a Modbus START makes during a cycle asks for the level
the potentiometer has. Then the potentiometer holds, while a cycle runs, the amplitude of the latest
`weld_start` or `amp_change`. A panel frame that writes it takes it to the level of the output power
whatever runs. -/
theorem cyclePot_kept (build : Build) (boot : BootIn) (history : List Call)
    (hundisturbed : always (CycleUndisturbed build boot) history) :
    ((stateAfter build boot history).reg.usRunStatus = .cycle →
        ∃ amplitude, latestAmp build boot amplitude history ∧
          (stateAfter build boot history).pins.pot = amplitude) ∧
      ∀ f : FrameIn, f.setsPot (stateAfter build boot history) = true →
        (stateAfter build boot (.frame f :: history)).pins.pot =
          powerLevel (stateAfter build boot history).cfg := by
  refine ⟨?_, fun f hpots ↦ frame_setsPot hpots⟩
  induction history with
  | nil =>
    intro hrun
    have hidle : (stateAfter build boot []).reg.usRunStatus = .idle :=
      congrArg RegState.usRunStatus (quiet_boot build boot).reg
    exact absurd (hidle.symm.trans hrun) (by decide)
  | cons call past ih =>
    intro hrun
    have hafter : stateAfter build boot (call :: past) =
        call.exec build (stateAfter build boot past) := rfl
    rw [hafter] at hrun ⊢
    cases hamp : weldAmp call (stateAfter build boot past) with
    | some amplitude =>
      refine ⟨amplitude, Or.inl hamp, ?_⟩
      have hnone : SetsPot build call (stateAfter build boot past) = false := by
        cases call <;> first | rfl | cases hamp
      rw [exec_pot build hnone, hamp]
      exact if_neg (Nat.not_lt_of_le (weldAmp_le (power_run build boot past) hamp))
    | none =>
      have hcycle : (stateAfter build boot past).reg.usRunStatus = .cycle := by
        by_contra hbefore
        exact weldAmp_of_start build hbefore hrun hamp
      obtain ⟨amplitude, hlatest, hpot⟩ := ih hundisturbed.2 hcycle
      refine ⟨amplitude, Or.inr ⟨hamp, hlatest⟩, ?_⟩
      cases hsets : SetsPot build call (stateAfter build boot past) with
      | false =>
        rw [exec_pot build hsets, hamp]
        exact hpot
      | true =>
        have hlevel := hundisturbed.1 hsets hcycle
        rcases exec_setsPot build hsets with hkept | hmoved
        · exact hkept.trans hpot
        · rw [hmoved, hlevel, hpot]

/-- Assumes: the hand keys are never held together. Then no cycle runs. -/
theorem idle_of_released (build : Build) (boot : BootIn) (history : List Call)
    (hreleased : ∀ tick, .weldTick tick ∈ history → tick.key1 = true ∨ tick.key2 = true) :
    (stateAfter build boot history).reg.usRunStatus ≠ .cycle := by
  induction history with
  | nil =>
    have hidle : (stateAfter build boot []).reg.usRunStatus = .idle :=
      congrArg RegState.usRunStatus (quiet_boot build boot).reg
    rw [hidle]
    decide
  | cons call past ih =>
    have hpast : ∀ tick, .weldTick tick ∈ past → tick.key1 = true ∨ tick.key2 = true :=
      fun tick hmem ↦ hreleased tick (List.mem_cons_of_mem call hmem)
    intro hrun
    obtain ⟨tick, rfl, hsteps, hstart⟩ := cycle_started build (ih hpast) hrun
    have hphase : (stateAfter build boot past).weld.fsm.phase = .ready :=
      WeldFsm.phase_ready.mpr (ready_of_released build boot past hpast)
    have hedges : weldEdges (.weldTick tick) (stateAfter build boot past) = {} := by
      rcases exec_cycle build (.weldTick tick) (stateAfter build boot past) with
        ⟨hedges, -⟩ | ⟨⟨start, hmove⟩, -⟩
      · exact hedges
      · exact hmove.quiet_ready hphase
    rw [weldEdges, if_pos hsteps] at hedges
    have hnone := congrArg WeldEdges.weldStart hedges
    exact Bool.false_ne_true (hnone.symm.trans hstart)

/-- No cycle runs, so none is disturbed. -/
theorem cycleUndisturbed_of_released (build : Build) (boot : BootIn) (history : List Call)
    (hreleased : ∀ tick, .weldTick tick ∈ history → tick.key1 = true ∨ tick.key2 = true) :
    always (CycleUndisturbed build boot) history :=
  always_of_released (fun _ past hpast _ hcycle ↦
    absurd hcycle (idle_of_released build boot past hpast)) history hreleased

/-- A cycle with the shortest times at full power, up to its weld: the soft start takes 70 steps off
the 127 of full power. -/
def softWeld : List IterIn :=
  everyPeriod keysIter 4030 2 ++
    [{ keysIter 4020 with
      frames := [keyFrame 0x1203 0 4020, keyFrame 0x1204 0 4020, keyFrame 0x1205 0 4020,
        keyFrame 0x1200 100 4020] }]

/-- Its weld has begun. -/
def softRun : SuperloopRun := warmedRun softWeld (keysIter 4050) 2

/-- Nobody else writes the potentiometer in it. -/
theorem softRun_undisturbed :
    always (CycleUndisturbed stdBuild (netBoot false)) softRun.history := by
  have hsplit : softRun.history =
      (((keysIter 4050).calls.take 2).reverse ++ iterHistory softWeld) ++
        iterHistory (quietRun 401) := rfl
  rw [hsplit]
  refine always_append (controller stdBuild (netBoot false))
    (fun call s ↦ SetsPot stdBuild call s = false) ?_ ?_
    (cycleUndisturbed_of_released _ _ _ fun tick hmem ↦ Or.inl (quietRun_released hmem))
  · intro call past hnone hsets
    exact absurd (hnone.symm.trans hsets) Bool.false_ne_true
  · rw [quiet_warms_up false 400]
    decide +kernel

/-- The potentiometer holds the amplitude of the weld. -/
theorem softRun_kept :
    ∃ amplitude, latestAmp stdBuild (netBoot false) amplitude softRun.history ∧
      (stateAfter stdBuild (netBoot false) softRun.history).pins.pot = amplitude := by
  refine (cyclePot_kept stdBuild (netBoot false) softRun.history softRun_undisturbed).1 ?_
  rw [stateAfter, softRun, warmedRun_after]
  decide +kernel

/-- The operator presses RUN during that weld. -/
def pressedRun : SuperloopRun :=
  warmedRun (keysIter 4050 :: softWeld) { keysIter 4060 with frames := [keyFrame 0x1080 3 4060] } 1

/-- The press goes on welding, at full power. -/
theorem pressedRun_moves :
    (stateAfter stdBuild (netBoot false) pressedRun.history).reg.usRunStatus = .cycle ∧
      latestAmp stdBuild (netBoot false) 57 pressedRun.history ∧
      (stateAfter stdBuild (netBoot false) pressedRun.history).pins.pot = 127 := by
  refine ⟨?_, ?_, ?_⟩
  · rw [stateAfter, pressedRun, warmedRun_after]
    decide +kernel
  · have hsplit : pressedRun.history =
        (.frame (keyFrame 0x1080 3 4060) :: ((keysIter 4050).calls.drop 2).reverse) ++
          .weldTick (keysIter 4050).weld :: (warmedRun softWeld (keysIter 4050) 1).history := rfl
    rw [hsplit]
    refine since_append (controller stdBuild (netBoot false)) (fun call s ↦ weldAmp call s = none)
      (fun _ _ h ↦ h) ?_ (Or.inl ?_)
    · rw [Machine.after_cons, warmedRun_after]
      decide +kernel
    · show weldAmp _ (stateAfter stdBuild (netBoot false) _) = some 57
      rw [stateAfter, warmedRun_after]
      decide +kernel
  · rw [stateAfter, pressedRun, warmedRun_after]
    decide +kernel

end UsCtrl
