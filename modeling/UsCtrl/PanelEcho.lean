import UsCtrl.PanelWords

/-!
# Showing a value and reporting it back

What the panel holds at an editable variable after a run (`cellAfter`) is the last word the firmware
has written there, or the operator has typed over it.

`cell_current` is the invariant: the word is the one that shows the live field (`EditVar.shown`),
unless a CANCEL has put another value into the field since. `shown_returned_iff` says from it when a
report of the word leaves the configuration alone.
-/

set_option autoImplicit false
set_option relaxedAutoImplicit false

namespace UsCtrl

open Foundation

/-! ### What the panel holds -/

/-- What the panel holds at a variable, and whether `app_lcd_init_mode` has written it. -/
structure VarCell where
  word : ℕ
  byInit : Bool
  deriving DecidableEq, Repr

/-- The word that the panel reports of the variable. -/
def Call.reports (v : EditVar) : Call → Option ℕ
  | .frame f => if f.key = some v.key then some f.word else none
  | _ => none

section Cells

variable (scratch : ℕ → ℕ) (build : Build) (boot : BootIn) (v : EditVar)

/-- What a call leaves at the variable: the last word the firmware writes, or else the word the
operator has typed. -/
def Call.cell (call : Call) (s : Sys) : Option VarCell :=
  match lastWord v.vp (call.writes scratch build s) with
  | some word => some ⟨word, call.inits⟩
  | none => (call.reports v).map fun word ↦ ⟨word, false⟩

/-- What the panel holds at the variable after a run; the boot leaves what `app_lcd_init_mode`
writes of the configuration it has loaded. -/
def cellAfter : List Call → Option VarCell
  | [] => (lastWord v.vp (appLcdInitModeWrites scratch (bootState build boot))).map fun word ↦
      ⟨word, true⟩
  | call :: past =>
    (call.cell scratch build v (stateAfter build boot past)).or (cellAfter past)

/-- Since the variable was written, no CANCEL has put another value into its field. -/
def unreverted : Past Call :=
  weakSince
    (newest build boot fun call s s' ↦
      call.loads = true → s'.cfg.field v.reg = s.cfg.field v.reg)
    (newest build boot fun call s _ ↦ (call.cell scratch build v s).isSome)

end Cells

/-- Without a word at the variable none of the writes covers it. -/
theorem lastWord_eq_none {vp : ℕ} {writes : List VpWrite} :
    lastWord vp writes = none ↔ ∀ write ∈ writes, write.wordAt vp = none := by
  rw [lastWord, List.getLast?_eq_none_iff, List.filterMap_eq_nil_iff]

theorem clampEcho_none {vp value clamped : ℕ}
    (hnone : lastWord vp (clampEcho vp value clamped) = none) : clamped = value := by
  by_contra hclamped
  rw [clampEcho, if_pos hclamped] at hnone
  have hwrite := lastWord_eq_none.mp hnone (.u16 vp clamped) List.mem_cons_self
  exact absurd hwrite (by simp [VpWrite.wordAt])

/-- A word that is not written back is stored as it is. -/
theorem reported_shown {v : EditVar} {data : ℕ} (hdata : data < 65536) {cfg : AppConfig}
    (hnone : lastWord v.vp (panelConfigEcho v.key data cfg) = none) :
    data = v.shown false (panelConfigEdit v.key data cfg) := by
  have hclamp (clamped : ℕ) (hecho : lastWord v.vp (clampEcho v.vp data clamped) = none) :
      data = toUint16 clamped := by
    rw [clampEcho_none hecho, toUint16_natCast, Nat.mod_eq_of_lt hdata]
  have hword : data = toUint16 (data : ℤ) := by
    rw [toUint16_natCast, Nat.mod_eq_of_lt hdata]
  have hshort : data = toUint16 (toInt16 data) := by
    unfold toUint16 toInt16
    split_ifs <;> omega
  rw [EditVar.shown_false]
  cases v with
  | moTime1 | energyEdit => exact hword
  | calVal | freqCalVal => exact hshort
  | moTime2 =>
    have hkept : ¬ cfg.limitMoTime1 > data := by
      intro hraised
      dsimp only [EditVar.key, panelConfigEcho] at hnone
      rw [if_pos hraised] at hnone
      exact absurd hnone (by simp [lastWord, VpWrite.wordAt, EditVar.vp])
    show data = toUint16 ((if cfg.limitMoTime1 > data then cfg.limitMoTime1 else data : ℕ) : ℤ)
    rw [if_neg hkept]
    exact hword
  | _ => exact hclamp _ hnone

/-! ### The field behind a variable -/

theorem shown_congr {v : EditVar} {cfg cfg' : AppConfig}
    (hfield : cfg'.field v.reg = cfg.field v.reg) (byInit : Bool) :
    v.shown byInit cfg' = v.shown byInit cfg := by
  by_cases henergy : v = .energyEdit
  · subst henergy
    have hlimit : cfg'.limitEnergy = cfg.limitEnergy := Int.ofNat.inj hfield
    rw [EditVar.shown, EditVar.shown, hlimit, hfield]
  · rw [EditVar.shown, EditVar.shown, if_neg fun h ↦ henergy h.2, if_neg fun h ↦ henergy h.2,
      hfield]

/-- The branch of another register leaves the field alone. -/
theorem field_withFieldsOf {v : EditVar} {reg : MbReg} (hreg : v.reg ≠ reg)
    (cfg donor : AppConfig) : (cfg.withFieldsOf reg donor).field v.reg = cfg.field v.reg := by
  cases reg with
  | delay1 | delay2 | delay3 | trigger2 | trigger3 | outPower | onTime | energy | multiT1
  | multiT2 | multiO1 | multiO2 | timeover | calVal | freqCalVal =>
    cases v <;> first | rfl | exact absurd rfl hreg
  | runMode | enEnergy | enMulti | enSafty | modelFreq | modelType | workCntL | cfgCtrl =>
    cases v <;> rfl
  | _ => rfl

/-- A request that does not show the field has not changed it. -/
theorem modbusTick_field {scratch : ℕ → ℕ} {build : Build} {input : ModbusTickIn} {s : Sys}
    {v : EditVar}
    (hnone : lastWord v.vp (appModbusTickEcho scratch build input s) = none) :
    (appModbusTick build input s).cfg.field v.reg = s.cfg.field v.reg := by
  have hstep := modbusTick_request scratch build input s
  generalize (appModbusTick build input s).cfg = cfg at hstep ⊢
  generalize appModbusTickEcho scratch build input s = writes at hstep hnone
  cases hstep with
  | quiet => rfl
  | @branch reg result hfields hunsaved =>
    cases hsaved : result.2 with
    | false => rw [hunsaved hsaved]
    | true =>
      by_cases hreg : v.reg = reg
      · subst hreg
        rw [branchWrites, if_pos hsaved, lastWord_eq_none] at hnone
        have hecho : ∀ write ∈ v.reg.echo result.1, write.wordAt v.vp = none :=
          fun write hmem ↦ hnone write (List.mem_append_left _ hmem)
        exfalso
        cases v <;> simp [EditVar.reg, MbReg.echo, VpWrite.wordAt, EditVar.vp] at hecho
      · rw [hfields]
        exact field_withFieldsOf hreg s.cfg result.1.cfg

/-- Assumes: a raised second time is asked for separately. A key leaves the fields of the other
variables alone. -/
theorem configEdit_field {v : EditVar} {key : PanelKey} (hkey : key ≠ v.key) {data : ℕ}
    {cfg : AppConfig} (hraised : v = .moTime2 → key = .moTime1 → ¬ data > cfg.limitMoTime2) :
    (panelConfigEdit key data cfg).field v.reg = cfg.field v.reg := by
  cases key with
  | moTime1 =>
    cases v with
    | moTime1 => exact absurd rfl hkey
    | moTime2 =>
      show ((if data > cfg.limitMoTime2 then data else cfg.limitMoTime2 : ℕ) : ℤ) = _
      rw [if_neg (hraised rfl rfl)]
      rfl
    | _ => rfl
  | energyEn | multiEn =>
    dsimp only [panelConfigEdit]
    split_ifs
    · cases v <;> rfl
    · rfl
  | modelFreq | modelType | safty => cases v <;> rfl
  | calVal | freqCalVal | dmDelay | dmWeld | dmHold | tmWeld | tmHold | moOut1 | moOut2 | moTime2
  | outPower | maxOnTime | energyEdit | limitOutT =>
    cases v <;> first | rfl | exact absurd rfl hkey
  | _ => rfl

/-- Assumes: a CANCEL puts the same value into the field. A call that leaves no word at the variable
leaves its field alone. -/
theorem exec_field {scratch : ℕ → ℕ} {build : Build} {boot : BootIn} {v : EditVar}
    {history : List Call} {call : Call}
    (hcell : call.cell scratch build v (stateAfter build boot history) = none)
    (hloads : call.loads = true → (stateAfter build boot (call :: history)).cfg.field v.reg =
      (stateAfter build boot history).cfg.field v.reg) :
    (stateAfter build boot (call :: history)).cfg.field v.reg =
      (stateAfter build boot history).cfg.field v.reg := by
  have hnone : lastWord v.vp (call.writes scratch build (stateAfter build boot history)) = none ∧
      call.reports v = none := by
    unfold Call.cell at hcell
    cases hlast : lastWord v.vp (call.writes scratch build (stateAfter build boot history)) with
    | some word =>
      rw [hlast] at hcell
      cases hcell
    | none =>
      rw [hlast] at hcell
      exact ⟨rfl, Option.map_eq_none_iff.mp hcell⟩
  by_cases hmodbus : ∃ input, call = .modbusTick input
  · obtain ⟨input, rfl⟩ := hmodbus
    exact modbusTick_field hnone.1
  · have hstep := exec_config build boot history call
    generalize (stateAfter build boot (call :: history)).cfg = cfg at hstep hloads ⊢
    cases hstep with
    | kept => rfl
    | @edited f key hkey =>
      have hother : key ≠ v.key := by
        rintro rfl
        have hreport := hnone.2
        rw [Call.reports, if_pos hkey] at hreport
        cases hreport
      refine configEdit_field hother ?_
      rintro rfl rfl hraised
      have hecho := hnone.1
      rw [Call.writes, FrameIn.writes, hkey] at hecho
      dsimp only [panelConfigEcho] at hecho
      rw [if_pos hraised] at hecho
      exact absurd hecho (by simp [lastWord, VpWrite.wordAt, EditVar.vp])
    | selected => cases v <;> rfl
    | saved =>
      have hprocess := (dataSaveGroup_config (stateAfter build boot history)).process
      have hfield (cfg : AppConfig) : cfg.process.field v.reg = cfg.field v.reg := by
        cases v <;> rfl
      rw [← hfield, hprocess, hfield]
    | loaded hload => exact hloads hload
    | counted => cases v <;> rfl
    | leased => cases v <;> rfl
    | written | cleared | committed => exact absurd ⟨_, rfl⟩ hmodbus

/-! ### The words are those of the fields -/

/-- What a call leaves at the variable is the word of the field as the call leaves it. -/
theorem exec_cell {scratch : ℕ → ℕ} {build : Build} {v : EditVar} {call : Call} {s : Sys}
    {cell : VarCell} (hcell : call.cell scratch build v s = some cell) :
    cell.word = v.shown cell.byInit (call.exec build s).cfg := by
  unfold Call.cell at hcell
  cases hlast : lastWord v.vp (call.writes scratch build s) with
  | some word =>
    rw [hlast] at hcell
    obtain rfl := Option.some.inj hcell
    exact (exec_shows scratch build v call s).last hlast
  | none =>
    rw [hlast] at hcell
    cases call with
    | frame f =>
      have hkey : f.key = some v.key := by
        by_contra hother
        rw [Call.reports, if_neg hother] at hcell
        cases hcell
      rw [Call.reports, if_pos hkey] at hcell
      obtain rfl := Option.some.inj hcell
      have hkept : lastWord v.vp (panelConfigEcho v.key f.word s.cfg) = none := by
        rw [Call.writes, FrameIn.writes, hkey] at hlast
        cases v <;> exact hlast
      have hdispatch : (appLcdInputDispatch f s).cfg = panelConfigEdit v.key f.word s.cfg := by
        rw [appLcdInputDispatch, hkey]
        cases v <;> rfl
      show f.word = v.shown false (appLcdInputDispatch f s).cfg
      rw [hdispatch]
      exact reported_shown f.word_lt hkept
    | _ => cases hcell

/-- Until a CANCEL puts another value into the field, the panel holds the word that shows it. -/
theorem cell_current (scratch : ℕ → ℕ) (build : Build) (boot : BootIn) (v : EditVar)
    (history : List Call) (hunreverted : unreverted scratch build boot v history) :
    ∀ cell, cellAfter scratch build boot v history = some cell →
      cell.word = v.shown cell.byInit (stateAfter build boot history).cfg := by
  refine weakSince_induction (fun history ↦ ∀ cell, cellAfter scratch build boot v history =
    some cell → cell.word = v.shown cell.byInit (stateAfter build boot history).cfg) ?_
    (fun call past hwritten cell hcell ↦ ?_) (fun call past hloads ih cell hcell ↦ ?_)
    history hunreverted
  · intro cell hcell
    obtain ⟨word, hlast, rfl⟩ := Option.map_eq_some_iff.mp hcell
    exact (initMode_shows scratch v (bootState build boot)).last hlast
  · obtain ⟨written, hwritten⟩ := Option.isSome_iff_exists.mp hwritten
    rw [cellAfter, hwritten] at hcell
    obtain rfl := Option.some.inj hcell
    exact exec_cell hwritten
  · cases hleft : call.cell scratch build v (stateAfter build boot past) with
    | some written =>
      rw [cellAfter, hleft] at hcell
      obtain rfl := Option.some.inj hcell
      exact exec_cell hleft
    | none =>
      rw [cellAfter, hleft] at hcell
      rw [shown_congr (exec_field hleft hloads)]
      exact ih cell hcell

/-! ### Values that fit their types -/

/-- The fields whose keys have no limit fit the types of the source. -/
structure TypedConfig (cfg : AppConfig) : Prop where
  time1 : cfg.limitMoTime1 < 65536
  time2 : cfg.limitMoTime2 < 65536
  calVal : toInt16 (toUint16 cfg.calVal) = cfg.calVal
  freqCalVal : toInt16 (toUint16 cfg.freqCalVal) = cfg.freqCalVal

theorem typed_of_kept {cfg : AppConfig}
    (hkept : ∀ field : StoredField, field.kept (cfg.value field) = cfg.value field) :
    TypedConfig cfg where
  time1 := by
    have htime : (cfg.limitMoTime1 : ℤ) % 65536 = cfg.limitMoTime1 := hkept .multiT1
    omega
  time2 := by
    have htime : (cfg.limitMoTime2 : ℤ) % 65536 = cfg.limitMoTime2 := hkept .multiT2
    omega
  calVal := hkept .calVal
  freqCalVal := hkept .freqCalVal

theorem typed_loaded (bus : I2cBus) {fram : Fram} (hbytes : ByteImage fram) :
    TypedConfig (appConfigLoad bus fram).cfg := by
  by_cases hflag : fram 0 = framInitFlagMagic
  · refine typed_of_kept fun field ↦ ?_
    rw [value_loaded bus hflag]
    split_ifs
    · exact kept_stored hbytes field
    · exact kept_factory field
  · have hfactory : TypedConfig appConfigFactoryDefaults := typed_of_kept kept_factory
    unfold appConfigLoad
    split_ifs
    · exact hfactory
    · exact hfactory

theorem toInt16_word {data : ℕ} : toInt16 (toUint16 (toInt16 data)) = toInt16 data := by
  unfold toUint16 toInt16
  split_ifs <;> omega

theorem ConfigStep.typed {build : Build} {s : Sys} {call : Call} {cfg : AppConfig}
    (hstep : ConfigStep build s call cfg) (hcfg : TypedConfig s.cfg) (hbytes : ByteImage s.fram) :
    TypedConfig cfg := by
  cases hstep with
  | kept => exact hcfg
  | @edited f key hkey =>
    have hword := f.word_lt
    cases key with
    | calVal => exact { hcfg with calVal := toInt16_word }
    | freqCalVal => exact { hcfg with freqCalVal := toInt16_word }
    | moTime1 =>
      refine { hcfg with time1 := hword, time2 := ?_ }
      have htime := hcfg.time2
      show (if f.word > s.cfg.limitMoTime2 then f.word else s.cfg.limitMoTime2) < 65536
      split_ifs <;> omega
    | moTime2 =>
      refine { hcfg with time2 := ?_ }
      have htime := hcfg.time1
      show (if s.cfg.limitMoTime1 > f.word then s.cfg.limitMoTime1 else f.word) < 65536
      split_ifs <;> omega
    | energyEn | multiEn =>
      dsimp only [panelConfigEdit]
      split_ifs
      · exact { hcfg with }
      · exact hcfg
    | _ => exact { hcfg with }
  | selected | counted | leased | cleared | committed => exact { hcfg with }
  | saved =>
    have hprocess := (dataSaveGroup_config s).process
    have htyped : TypedConfig s.cfg.process := { hcfg with }
    rw [← hprocess] at htyped
    exact { htyped with }
  | loaded => exact typed_loaded _ hbytes
  | @written input link reg word cfg hrequest hword hreg hfields hfield =>
    have hcal (value : ℕ) : toInt16 (toUint16 (cfgCalFromWire value)) = cfgCalFromWire value := by
      unfold cfgCalFromWire toUint16 toInt16
      split_ifs <;> omega
    rw [hfields]
    cases reg with
    | multiT1 =>
      have htime := cfgClampMax_le word 2000
      have hvalue : cfg.limitMoTime1 = cfgClampMax word 2000 := Int.ofNat.inj hfield
      exact { hcfg with time1 := by show cfg.limitMoTime1 < 65536; omega }
    | multiT2 =>
      have htime := cfgClampMax_le word 2000
      have hvalue : cfg.limitMoTime2 = cfgClampMax word 2000 := Int.ofNat.inj hfield
      exact { hcfg with time2 := by show cfg.limitMoTime2 < 65536; omega }
    | calVal =>
      have hvalue : cfg.calVal = cfgCalFromWire word := hfield
      refine { hcfg with calVal := ?_ }
      show toInt16 (toUint16 cfg.calVal) = cfg.calVal
      rw [hvalue, hcal]
    | freqCalVal =>
      have hvalue : cfg.freqCalVal = cfgCalFromWire word := hfield
      refine { hcfg with freqCalVal := ?_ }
      show toInt16 (toUint16 cfg.freqCalVal) = cfg.freqCalVal
      rw [hvalue, hcal]
    | _ => exact { hcfg with }

/-- Assumes: the FRAM holds bytes at power-up. The fields of a run fit their types. -/
theorem run_typed (build : Build) {boot : BootIn} (hbytes : ByteImage boot.fram)
    (history : List Call) : TypedConfig (stateAfter build boot history).cfg := by
  induction history with
  | nil =>
    show TypedConfig (bootState build boot).cfg
    rw [(boot_loaded build boot).1]
    exact typed_loaded boot.bus hbytes
  | cons call past ih =>
    exact (exec_config build boot past call).typed ih (byteImage_run build hbytes past)

/-! ### Reporting back -/

/-- A report of the word at the variable leaves the configuration alone. -/
def ReturnsUnchanged (v : EditVar) (word : ℕ) (s : Sys) : Prop :=
  ∀ f : FrameIn, f.key = some v.key → f.word = word → (appLcdInputDispatch f s).cfg = s.cfg

/-- The field is one that its key takes as it is shown: it is within the limits of the key, the
energy has been shown in full, and the times of the multi mode are in order. -/
def EditVar.Faithful (v : EditVar) (byInit : Bool) (cfg : AppConfig) : Prop :=
  match v with
  | .dmDelay => cfg.limitDelayTime1 ≤ 500
  | .dmWeld => cfg.limitDelayTime2 ≤ 500
  | .dmHold => cfg.limitDelayTime3 ≤ 2000
  | .tmWeld => cfg.limitTriggerTime2 ≤ 500
  | .tmHold => cfg.limitTriggerTime3 ≤ 2000
  | .moOut1 => 50 ≤ cfg.limitMoOut1 ∧ cfg.limitMoOut1 ≤ 100
  | .moOut2 => 50 ≤ cfg.limitMoOut2 ∧ cfg.limitMoOut2 ≤ 100
  | .moTime1 | .moTime2 => cfg.limitMoTime1 ≤ cfg.limitMoTime2
  | .outPower => 50 ≤ cfg.outputPower ∧ cfg.outputPower ≤ 100
  | .maxOnTime => cfg.limitOnTime ≤ 2000
  | .energyEdit => if byInit then cfg.limitEnergy = 0 else cfg.limitEnergy < 65536
  | .limitOutT => cfg.limitOutTime ≤ 10
  | .calVal | .freqCalVal => True

/-- A key that gets the word of its own field leaves the configuration alone exactly if it takes the
field as it is shown. -/
theorem edit_unchanged_iff (v : EditVar) (byInit : Bool) {cfg : AppConfig}
    (hcfg : TypedConfig cfg) :
    panelConfigEdit v.key (v.shown byInit cfg) cfg = cfg ↔ v.Faithful byInit cfg := by
  have hstore (store : ℕ → AppConfig) (read : AppConfig → ℕ) (hread : ∀ value, read (store value) =
      value) (hself : store (read cfg) = cfg) (value : ℕ) :
      store value = cfg ↔ value = read cfg := by
    constructor
    · intro hsame
      exact (hread value).symm.trans (congrArg read hsame)
    · rintro rfl
      exact hself
  have hmax (store : ℕ → AppConfig) (read : AppConfig → ℕ) (hread : ∀ value, read (store value) =
      value) (hself : store (read cfg) = cfg) (max : ℕ) (hlimit : max < 65536) :
      store (cfgClampMax (toUint16 (read cfg)) max) = cfg ↔ read cfg ≤ max := by
    rw [hstore store read hread hself, toUint16_natCast]
    unfold cfgClampMax
    split_ifs <;> omega
  have hpower (store : ℕ → AppConfig) (read : AppConfig → ℕ) (hread : ∀ value, read (store value) =
      value) (hself : store (read cfg) = cfg) :
      store (cfgClampPower (toUint16 (read cfg))) = cfg ↔ 50 ≤ read cfg ∧ read cfg ≤ 100 := by
    rw [hstore store read hread hself, toUint16_natCast]
    unfold cfgClampPower
    split_ifs <;> omega
  have hshown (hother : v ≠ .energyEdit) : v.shown byInit cfg = toUint16 (cfg.field v.reg) :=
    if_neg fun h ↦ hother h.2
  have htime1 : toUint16 (cfg.limitMoTime1 : ℤ) = cfg.limitMoTime1 := by
    rw [toUint16_natCast, Nat.mod_eq_of_lt hcfg.time1]
  have htime2 : toUint16 (cfg.limitMoTime2 : ℤ) = cfg.limitMoTime2 := by
    rw [toUint16_natCast, Nat.mod_eq_of_lt hcfg.time2]
  cases v with
  | energyEdit =>
    refine (hstore (fun value ↦ { cfg with limitEnergy := value }) (·.limitEnergy) (fun _ ↦ rfl) rfl
      _).trans ?_
    cases byInit with
    | true =>
      have hcut : cfg.limitEnergy / 10 % 65536 ≤ cfg.limitEnergy / 10 := Nat.mod_le _ _
      show cfg.limitEnergy / 10 % 65536 = cfg.limitEnergy ↔ cfg.limitEnergy = 0
      omega
    | false =>
      rw [EditVar.shown_false]
      show toUint16 (cfg.limitEnergy : ℤ) = cfg.limitEnergy ↔ cfg.limitEnergy < 65536
      rw [toUint16_natCast]
      omega
  | moTime1 =>
    rw [hshown (by decide)]
    show ({ cfg with
      limitMoTime1 := toUint16 (cfg.limitMoTime1 : ℤ)
      limitMoTime2 := if toUint16 (cfg.limitMoTime1 : ℤ) > cfg.limitMoTime2 then
        toUint16 (cfg.limitMoTime1 : ℤ) else cfg.limitMoTime2 } : AppConfig) = cfg ↔
      cfg.limitMoTime1 ≤ cfg.limitMoTime2
    rw [htime1]
    constructor
    · intro hsame
      by_contra hraised
      have htime := congrArg AppConfig.limitMoTime2 hsame
      dsimp only at htime
      rw [if_pos (not_le.mp hraised)] at htime
      exact hraised htime.le
    · intro hordered
      rw [if_neg (not_lt.mpr hordered)]
  | moTime2 =>
    rw [hshown (by decide)]
    refine (hstore (fun value ↦ { cfg with limitMoTime2 := value }) (·.limitMoTime2) (fun _ ↦ rfl)
      rfl _).trans ?_
    show (if cfg.limitMoTime1 > toUint16 (cfg.limitMoTime2 : ℤ) then cfg.limitMoTime1
      else toUint16 (cfg.limitMoTime2 : ℤ)) = cfg.limitMoTime2 ↔
      cfg.limitMoTime1 ≤ cfg.limitMoTime2
    rw [htime2]
    split_ifs <;> omega
  | calVal =>
    rw [hshown (by decide)]
    refine iff_of_true ?_ trivial
    show ({ cfg with calVal := toInt16 (toUint16 cfg.calVal) } : AppConfig) = cfg
    rw [hcfg.calVal]
  | freqCalVal =>
    rw [hshown (by decide)]
    refine iff_of_true ?_ trivial
    show ({ cfg with freqCalVal := toInt16 (toUint16 cfg.freqCalVal) } : AppConfig) = cfg
    rw [hcfg.freqCalVal]
  | dmDelay =>
    rw [hshown (by decide)]
    exact hmax (fun value ↦ { cfg with limitDelayTime1 := value }) (·.limitDelayTime1)
      (fun _ ↦ rfl) rfl 500 (by decide)
  | dmWeld =>
    rw [hshown (by decide)]
    exact hmax (fun value ↦ { cfg with limitDelayTime2 := value }) (·.limitDelayTime2)
      (fun _ ↦ rfl) rfl 500 (by decide)
  | dmHold =>
    rw [hshown (by decide)]
    exact hmax (fun value ↦ { cfg with limitDelayTime3 := value }) (·.limitDelayTime3)
      (fun _ ↦ rfl) rfl 2000 (by decide)
  | tmWeld =>
    rw [hshown (by decide)]
    exact hmax (fun value ↦ { cfg with limitTriggerTime2 := value }) (·.limitTriggerTime2)
      (fun _ ↦ rfl) rfl 500 (by decide)
  | tmHold =>
    rw [hshown (by decide)]
    exact hmax (fun value ↦ { cfg with limitTriggerTime3 := value }) (·.limitTriggerTime3)
      (fun _ ↦ rfl) rfl 2000 (by decide)
  | maxOnTime =>
    rw [hshown (by decide)]
    exact hmax (fun value ↦ { cfg with limitOnTime := value }) (·.limitOnTime)
      (fun _ ↦ rfl) rfl 2000 (by decide)
  | limitOutT =>
    rw [hshown (by decide)]
    exact hmax (fun value ↦ { cfg with limitOutTime := value }) (·.limitOutTime)
      (fun _ ↦ rfl) rfl 10 (by decide)
  | moOut1 =>
    rw [hshown (by decide)]
    exact hpower (fun value ↦ { cfg with limitMoOut1 := value }) (·.limitMoOut1) (fun _ ↦ rfl) rfl
  | moOut2 =>
    rw [hshown (by decide)]
    exact hpower (fun value ↦ { cfg with limitMoOut2 := value }) (·.limitMoOut2) (fun _ ↦ rfl) rfl
  | outPower =>
    rw [hshown (by decide)]
    exact hpower (fun value ↦ { cfg with outputPower := value }) (·.outputPower) (fun _ ↦ rfl) rfl

theorem keyFrame_word (vp : ℕ) {word : ℕ} (hword : word < 65536) (now : ℕ) :
    (keyFrame vp word now).word = word := by
  show (UInt8.ofNat (word / 256)).toNat * 256 + (UInt8.ofNat word).toNat = word
  rw [UInt8.toNat_ofNat', UInt8.toNat_ofNat']
  omega

theorem returnsUnchanged_iff (v : EditVar) {word : ℕ} (hword : word < 65536) (s : Sys) :
    ReturnsUnchanged v word s ↔ panelConfigEdit v.key word s.cfg = s.cfg := by
  have hdispatch {f : FrameIn} (hkey : f.key = some v.key) :
      (appLcdInputDispatch f s).cfg = panelConfigEdit v.key f.word s.cfg := by
    rw [appLcdInputDispatch, hkey]
    cases v <;> rfl
  constructor
  · intro hreturns
    have hkey : (keyFrame v.vp word 0).key = some v.key := v.ofAddr_vp
    have hreport := hreturns _ hkey (keyFrame_word v.vp hword 0)
    rwa [hdispatch hkey, keyFrame_word v.vp hword 0] at hreport
  · rintro hsame f hkey rfl
    rw [hdispatch hkey, hsame]

theorem shown_lt (v : EditVar) (byInit : Bool) (cfg : AppConfig) :
    v.shown byInit cfg < 65536 := by
  unfold EditVar.shown toUint16
  split_ifs <;> omega

/-- Assumes: the FRAM holds bytes at power-up, and since the firmware or the operator has written
the variable no CANCEL has put another value into its field. Then a report of what the panel holds
leaves the configuration alone exactly if the field is within the limits of its key, the energy has
been shown in full, and the times of the multi mode are in order. -/
theorem shown_returned_iff (scratch : ℕ → ℕ) (build : Build) {boot : BootIn}
    (hbytes : ByteImage boot.fram) (history : List Call) {v : EditVar} {cell : VarCell}
    (hcell : cellAfter scratch build boot v history = some cell)
    (hunreverted : unreverted scratch build boot v history) :
    ReturnsUnchanged v cell.word (stateAfter build boot history) ↔
      v.Faithful cell.byInit (stateAfter build boot history).cfg := by
  have hword := cell_current scratch build boot v history hunreverted cell hcell
  rw [hword, returnsUnchanged_iff v (shown_lt _ _ _)]
  exact edit_unchanged_iff v cell.byInit (run_typed build hbytes history)

/-- The operator types a power of 200, which is written back as 100. -/
def clampedPower : List Call := [.frame (keyFrame 0x1200 200 10)]

/-- The clamped power is returned as it is. -/
theorem clampedPower_returned :
    ReturnsUnchanged .outPower 100 (stateAfter stdBuild factoryBoot clampedPower) := by
  have hbytes : ByteImage factoryBoot.fram := fun _ ↦ Nat.zero_lt_succ 255
  have hwritten : (Call.cell (fun _ ↦ 0) stdBuild .outPower (.frame (keyFrame 0x1200 200 10))
      (stateAfter stdBuild factoryBoot [])).isSome = true := by decide +kernel
  have hlimits : 50 ≤ (stateAfter stdBuild factoryBoot clampedPower).cfg.outputPower ∧
      (stateAfter stdBuild factoryBoot clampedPower).cfg.outputPower ≤ 100 := by decide +kernel
  exact (shown_returned_iff (fun _ ↦ 0) stdBuild hbytes clampedPower
    (show cellAfter _ _ _ .outPower _ = some ⟨100, false⟩ by decide +kernel)
    (Or.inl hwritten)).mpr hlimits

/-- The panel changes the configuration by returning what the firmware has written: the energy in
tens that the boot shows, the low word of it that the setup page shows, and the clamped power behind
a CANCEL. -/
theorem returned_changes :
    (cellAfter (fun _ ↦ 0) stdBuild factoryBoot .energyEdit [] = some ⟨10000, true⟩ ∧
      ¬ ReturnsUnchanged .energyEdit 10000 (stateAfter stdBuild factoryBoot [])) ∧
    (cellAfter (fun _ ↦ 0) stdBuild factoryBoot .energyEdit [.frame (keyFrame 0x1100 1 10)] =
        some ⟨34464, false⟩ ∧
      ¬ ReturnsUnchanged .energyEdit 34464
        (stateAfter stdBuild factoryBoot [.frame (keyFrame 0x1100 1 10)])) ∧
    (cellAfter (fun _ ↦ 0) stdBuild factoryBoot .outPower
        (.frame (keyFrame 0x1050 0 20) :: clampedPower) = some ⟨100, false⟩ ∧
      ¬ ReturnsUnchanged .outPower 100
        (stateAfter stdBuild factoryBoot (.frame (keyFrame 0x1050 0 20) :: clampedPower))) := by
  have henergy {word : ℕ} (hword : word < 65536) {s : Sys} (hother : s.cfg.limitEnergy ≠ word) :
      ¬ ReturnsUnchanged .energyEdit word s := by
    intro hreturns
    have hsame := (returnsUnchanged_iff .energyEdit hword s).mp hreturns
    exact hother (congrArg AppConfig.limitEnergy hsame).symm
  have hpower {word : ℕ} (hword : word < 65536) {s : Sys}
      (hother : s.cfg.outputPower ≠ cfgClampPower word) : ¬ ReturnsUnchanged .outPower word s := by
    intro hreturns
    have hsame := (returnsUnchanged_iff .outPower hword s).mp hreturns
    exact hother (congrArg AppConfig.outputPower hsame).symm
  refine ⟨⟨by decide +kernel, henergy (by decide) (by decide +kernel)⟩,
    ⟨by decide +kernel, henergy (by decide) (by decide +kernel)⟩,
    ⟨by decide +kernel, hpower (by decide) (by decide +kernel)⟩⟩

end UsCtrl
