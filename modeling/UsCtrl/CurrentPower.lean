import UsCtrl.ConfigSteps
import UsCtrl.ReadFault
import UsCtrl.RunEvents
import UsCtrl.WarmUp

/-!
# The scale of current and power

The current shown is the filtered ADC value times 59/126 plus the calibration, the power is 2.2
times the current, and both are 16-bit words. The masters' calibration is clamped to a small range;
the panel's is not, and neither is the one stored in the FRAM (`calVal_int16`). The current fits its
word for every calibration (`regCurrentFromAdc_exact`), the power only up to a current of 29789
(`regPowerFromAmp_exact_iff`). `power_faithful_iff` gives the calibrations for which the whole range
of the ADC is converted without a wrap.
-/

set_option autoImplicit false
set_option relaxedAutoImplicit false

namespace UsCtrl

open Foundation

/-! ### The calibration -/

/-- A value of the type `int16_t`. -/
def IsInt16 (value : ℤ) : Prop := -32768 ≤ value ∧ value < 32768

theorem isInt16_toInt16 (word : ℕ) : IsInt16 (toInt16 word) := by
  unfold IsInt16 toInt16
  split_ifs <;> omega

theorem isInt16_cfgCalFromWire (wire : ℕ) : IsInt16 (cfgCalFromWire wire) := by
  have hword := isInt16_toInt16 wire
  unfold IsInt16 at hword ⊢
  unfold cfgCalFromWire
  split_ifs <;> omega

theorem isInt16_loaded (bus : I2cBus) (fram : Fram) :
    IsInt16 (appConfigLoad bus fram).cfg.calVal := by
  have hfactory : IsInt16 appConfigFactoryDefaults.calVal := by
    unfold IsInt16
    decide
  by_cases hflag : fram 0 = framInitFlagMagic
  · have hvalue : (appConfigLoad bus fram).cfg.calVal = if bus.answers .calVal then
        storedValue fram .calVal else appConfigFactoryDefaults.calVal :=
      value_loaded bus hflag .calVal
    rw [hvalue]
    split_ifs
    · exact isInt16_toInt16 _
    · exact hfactory
  · cases hread : bus.readOk 0 with
    | false =>
      rw [appConfigLoad, if_pos hread]
      exact hfactory
    | true =>
      rw [appConfigLoad, if_neg (by simp [hread]), if_pos hflag]
      exact hfactory

theorem ConfigStep.calVal {build : Build} {s : Sys} {call : Call} {cfg : AppConfig}
    (hstep : ConfigStep build s call cfg) (hcal : IsInt16 s.cfg.calVal) : IsInt16 cfg.calVal := by
  cases hstep with
  | @edited f key hkey =>
    cases key with
    | calVal => exact isInt16_toInt16 _
    | energyEn | multiEn =>
      unfold panelConfigEdit
      dsimp only
      split_ifs <;> exact hcal
    | _ => exact hcal
  | saved =>
    have hprocess := congrArg AppConfig.calVal (dataSaveGroup_config s).process
    have hsaved : (dataSaveGroup s).cfg.calVal = s.cfg.calVal := hprocess
    rw [hsaved]
    exact hcal
  | loaded => exact isInt16_loaded _ _
  | @written input link reg word _ hrequest hword hreg hfields hfield =>
    rw [hfields]
    cases reg with
    | calVal =>
      have hvalue : cfg.calVal = cfgCalFromWire word := hfield
      exact hvalue ▸ isInt16_cfgCalFromWire word
    | _ => exact hcal
  | kept | selected | counted | leased | cleared | committed => exact hcal

/-- The calibration of every reachable state is an `int16_t`. -/
theorem calVal_int16 (build : Build) (boot : BootIn) (history : List Call) :
    IsInt16 (stateAfter build boot history).cfg.calVal := by
  induction history with
  | nil =>
    have hboot : (stateAfter build boot []).cfg = (appConfigLoad boot.bus boot.fram).cfg :=
      (boot_loaded build boot).1
    exact hboot ▸ isInt16_loaded boot.bus boot.fram
  | cons call past ih => exact (exec_config build boot past call).calVal ih

/-! ### The conversion -/

/-- The largest filtered value of the current channel: six times the full scale of the ADC. -/
def ch1Max : ℕ := 24570

/-- The current before its deadband. -/
def rawCurrent (ch1Avg : ℕ) (calVal : ℤ) : ℤ := (59 * ch1Avg / 126 : ℕ) + calVal

theorem rawCurrent_mono {ch1Avg ch1Avg' : ℕ} (hle : ch1Avg ≤ ch1Avg') (calVal : ℤ) :
    rawCurrent ch1Avg calVal ≤ rawCurrent ch1Avg' calVal := by
  unfold rawCurrent
  omega

/-- Assumes: an ADC value and an `int16_t` calibration. The current does not wrap. -/
theorem regCurrentFromAdc_exact {ch1Avg : ℕ} {calVal : ℤ} (hadc : ch1Avg ≤ ch1Max)
    (hcal : IsInt16 calVal) :
    (regCurrentFromAdc ch1Avg calVal : ℤ) =
      if rawCurrent ch1Avg calVal ≤ 14 then 0 else max 0 (rawCurrent ch1Avg calVal) := by
  unfold ch1Max at hadc
  unfold IsInt16 at hcal
  unfold regCurrentFromAdc rawCurrent toUint16
  dsimp only
  rw [Nat.mul_comm ch1Avg 59]
  split_ifs <;> omega

/-- The power does not wrap up to a current of 29789, and does above it. -/
theorem regPowerFromAmp_exact_iff (currAmp : ℕ) :
    regPowerFromAmp currAmp = 22 * currAmp / 10 ↔ currAmp ≤ 29789 := by
  rw [regPowerFromAmp, Nat.mul_comm]
  omega

/-- The current is at most 29789 exactly if it is so before its deadband. -/
theorem regCurrentFromAdc_le_iff {ch1Avg : ℕ} {calVal : ℤ} (hadc : ch1Avg ≤ ch1Max)
    (hcal : IsInt16 calVal) :
    regCurrentFromAdc ch1Avg calVal ≤ 29789 ↔ rawCurrent ch1Avg calVal ≤ 29789 := by
  have hexact := regCurrentFromAdc_exact hadc hcal
  split_ifs at hexact <;> omega

/-- The power published for an ADC value. -/
def adcPower (ch1Avg : ℕ) (calVal : ℤ) : ℕ := regPowerFromAmp (regCurrentFromAdc ch1Avg calVal)

/-- Over the whole range of the ADC, current and power are the exact values, and the power does not
fall when the ADC value rises. -/
structure PowerFaithful (calVal : ℤ) : Prop where
  current : ∀ ch1Avg ≤ ch1Max, (regCurrentFromAdc ch1Avg calVal : ℤ) =
    if rawCurrent ch1Avg calVal ≤ 14 then 0 else max 0 (rawCurrent ch1Avg calVal)
  power : ∀ ch1Avg ≤ ch1Max,
    adcPower ch1Avg calVal = 22 * regCurrentFromAdc ch1Avg calVal / 10
  monotone : ∀ ch1Avg ch1Avg', ch1Avg ≤ ch1Avg' → ch1Avg' ≤ ch1Max →
    adcPower ch1Avg calVal ≤ adcPower ch1Avg' calVal

theorem adcPower_exact_iff {ch1Avg : ℕ} {calVal : ℤ} (hadc : ch1Avg ≤ ch1Max)
    (hcal : IsInt16 calVal) :
    adcPower ch1Avg calVal = 22 * regCurrentFromAdc ch1Avg calVal / 10 ↔
      rawCurrent ch1Avg calVal ≤ 29789 :=
  (regPowerFromAmp_exact_iff _).trans (regCurrentFromAdc_le_iff hadc hcal)

/-- The whole range is faithful exactly if its upper end is. -/
theorem powerFaithful_iff {calVal : ℤ} (hcal : IsInt16 calVal) :
    PowerFaithful calVal ↔ calVal ≤ 18284 := by
  have hend : rawCurrent ch1Max calVal = 11505 + calVal := rfl
  constructor
  · intro h
    have htop := (adcPower_exact_iff le_rfl hcal).mp (h.power ch1Max le_rfl)
    omega
  · intro hle
    have hbelow {ch1Avg : ℕ} (hadc : ch1Avg ≤ ch1Max) : rawCurrent ch1Avg calVal ≤ 29789 := by
      have hmono := rawCurrent_mono hadc calVal
      omega
    refine ⟨fun _ hadc ↦ regCurrentFromAdc_exact hadc hcal,
      fun _ hadc ↦ (adcPower_exact_iff hadc hcal).mpr (hbelow hadc),
      fun ch1Avg ch1Avg' hrise htop ↦ ?_⟩
    have hadc := hrise.trans htop
    have hcurrent := regCurrentFromAdc_exact hadc hcal
    have hcurrent' := regCurrentFromAdc_exact htop hcal
    have hraw := rawCurrent_mono hrise calVal
    rw [(adcPower_exact_iff hadc hcal).mpr (hbelow hadc),
      (adcPower_exact_iff htop hcal).mpr (hbelow htop)]
    have hamps : regCurrentFromAdc ch1Avg calVal ≤ regCurrentFromAdc ch1Avg' calVal := by
      split_ifs at hcurrent hcurrent' <;> omega
    omega

/-! ### What is published -/

theorem regTickHead_calVal (lim : RegRunLimits) (tick : RegTickIn) (s : Sys) :
    (regTickHead lim tick s).reg.calVal = lim.calVal := by
  have hcut {t cut : Sys} (h : RegCut t cut) : cut.reg.calVal = t.reg.calVal := by
    rw [h.frame]
  unfold regTickHead
  rw [regAcquire_eq]
  dsimp only
  refine (hcut (regStops_cut lim tick.now _)).trans ?_
  rw [regWarmUp_eq]

/-- A publish shows the current of the filtered value, and its power while the output is live. -/
theorem regTick_shows (lim : RegRunLimits) (tick : RegTickIn) (s : Sys)
    (hpublishes : regPublishes tick s = true) :
    let s' := appRegTick lim tick s
    s'.measure.currAmp = regCurrentFromAdc s'.reg.ch1Avg lim.calVal ∧
      (s'.measure.usOnStatus = true →
        s'.measure.currPower = adcPower s'.reg.ch1Avg lim.calVal) := by
  have hcal := regTickHead_calVal lim tick s
  dsimp only
  rw [appRegTick, if_pos hpublishes, ← hcal]
  generalize regTickHead lim tick s = head
  have hedge (sr : Bool) (t : Sys) : (regSrDisplayEdge sr t).reg.calVal = t.reg.calVal := by
    rw [regSrDisplayEdge_eq]
  have hready : head.reg.calVal = (regSrDisplayEdge (appSeekResetActive
      (regSetpoint tick.now head)) (regSetpoint tick.now head)).reg.calVal :=
    (hedge _ (regSetpoint tick.now head)).symm
  rw [hready]
  refine ⟨rfl, fun hlive ↦ ?_⟩
  exact if_pos hlive

/-- In every reachable state, whatever the panel, a master or the FRAM has installed as calibration,
the whole range of the ADC is converted faithfully exactly if the calibration is at most 18284. Each
publish shows the exact current, and while the output is live its power is exact exactly if the
current is at most 29789. -/
theorem power_faithful_iff (build : Build) (boot : BootIn) (history : List Call) :
    let s := stateAfter build boot history
    let cal := s.cfg.calVal
    (PowerFaithful cal ↔ cal ≤ 18284) ∧
      ∀ tick : RegTickIn,
        let s' := (Call.regTick tick).exec build s
        let raw := rawCurrent s'.reg.ch1Avg cal
        regPublishes tick s = true → s'.reg.ch1Avg ≤ ch1Max →
          (s'.measure.currAmp : ℤ) = (if raw ≤ 14 then 0 else max 0 raw) ∧
            (s'.measure.usOnStatus = true →
              (s'.measure.currPower = 22 * s'.measure.currAmp / 10 ↔ raw ≤ 29789)) := by
  have hcal := calVal_int16 build boot history
  dsimp only
  refine ⟨powerFaithful_iff hcal, fun tick hpublishes hadc ↦ ?_⟩
  obtain ⟨hamp, hpower⟩ := regTick_shows (regRunLimitsOf (stateAfter build boot history).cfg) tick
    (stateAfter build boot history) hpublishes
  have hshown : ((Call.regTick tick).exec build (stateAfter build boot history)).measure.currAmp =
    regCurrentFromAdc _ (stateAfter build boot history).cfg.calVal := hamp
  rw [hshown]
  refine ⟨regCurrentFromAdc_exact hadc hcal, fun hlive ↦ ?_⟩
  have hlivePower : ((Call.regTick tick).exec build
    (stateAfter build boot history)).measure.currPower = adcPower _ _ := hpower hlive
  rw [hlivePower]
  exact adcPower_exact_iff hadc hcal

/-- The panel sets the calibration to 20000: the power is 44000 without a load, and 3775 at the full
scale of the ADC. -/
theorem bigCalibration_wraps :
    let cal := (stateAfter stdBuild factoryBoot [.frame (keyFrame 0x1410 20000 10)]).cfg.calVal
    cal = 20000 ∧ adcPower 0 cal = 44000 ∧ adcPower ch1Max cal = 3775 ∧ ¬ PowerFaithful cal := by
  have hcal : (stateAfter stdBuild factoryBoot
      [.frame (keyFrame 0x1410 20000 10)]).cfg.calVal = 20000 := by decide +kernel
  dsimp only
  rw [hcal]
  refine ⟨rfl, by decide +kernel, by decide +kernel, fun hfaithful ↦ ?_⟩
  have hrises := hfaithful.monotone 0 ch1Max (Nat.zero_le _) le_rfl
  revert hrises
  decide +kernel

end UsCtrl
