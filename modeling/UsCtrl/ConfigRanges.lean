import UsCtrl.Screen
import UsCtrl.WeldLengths

/-!
# The ranges of the configuration

Four writers with their own clamps share the live configuration: the panel keys, the masters, the
SAVE of the shadows, and the load, which enforces only some of the ranges. `ConfigInRange` lists the
ranges the rest of the firmware relies on. Together with the shadows (`ShadowsInRange`) and the FRAM
(`ImageInRange`) they are an invariant of every call (`exec_inRange`).

`config_inRange` is the result for every run from a FRAM that is blank or that this firmware has
written (`FirmwareImage`), whatever reads fail; a write that is lost half-way would leave a word
nobody has saved. Its consequences are the ones the weld arithmetic and the panel texts
have no guard of their own for: the amplitude does not underflow, the backstop does not wrap, and
the text tables are read inside their bounds.
-/

set_option autoImplicit false
set_option relaxedAutoImplicit false

namespace UsCtrl

open Foundation

/-! ### Ranges -/

/-- The ranges of the live configuration. -/
structure ConfigInRange (cfg : AppConfig) : Prop where
  power : 50 ≤ cfg.outputPower ∧ cfg.outputPower ≤ 100
  delay1 : cfg.limitDelayTime1 ≤ 500
  delay2 : cfg.limitDelayTime2 ≤ 500
  delay3 : cfg.limitDelayTime3 ≤ 2000
  trigger2 : cfg.limitTriggerTime2 ≤ 500
  trigger3 : cfg.limitTriggerTime3 ≤ 2000
  onTime : cfg.limitOnTime ≤ 2000
  outTime : cfg.limitOutTime ≤ 10
  energy : cfg.limitEnergy ≤ 100000
  mode : cfg.commMode ≤ 2
  speed : cfg.commSpeedIdx ≤ 5
  parity : cfg.commParityIdx ≤ 2

/-- The range of a stored field, the others having none. -/
def StoredField.Bounded (field : StoredField) (value : ℤ) : Prop :=
  match field with
  | .outPower => 50 ≤ value ∧ value ≤ 100
  | .delay1 | .delay2 | .trigger2 => value ≤ 500
  | .delay3 | .trigger3 | .onTime => value ≤ 2000
  | .timeover => value ≤ 10
  | .energy => value ≤ 100000
  | .commMode | .commParity => value ≤ 2
  | .commSpeed => value ≤ 5
  | _ => True

theorem configInRange_iff (cfg : AppConfig) :
    ConfigInRange cfg ↔ ∀ field : StoredField, field.Bounded (cfg.value field) := by
  constructor
  · intro h field
    cases field with
    | outPower => exact ⟨Int.ofNat_le.mpr h.power.1, Int.ofNat_le.mpr h.power.2⟩
    | delay1 => exact Int.ofNat_le.mpr h.delay1
    | delay2 => exact Int.ofNat_le.mpr h.delay2
    | delay3 => exact Int.ofNat_le.mpr h.delay3
    | trigger2 => exact Int.ofNat_le.mpr h.trigger2
    | trigger3 => exact Int.ofNat_le.mpr h.trigger3
    | onTime => exact Int.ofNat_le.mpr h.onTime
    | timeover => exact Int.ofNat_le.mpr h.outTime
    | energy => exact Int.ofNat_le.mpr h.energy
    | commMode => exact Int.ofNat_le.mpr h.mode
    | commSpeed => exact Int.ofNat_le.mpr h.speed
    | commParity => exact Int.ofNat_le.mpr h.parity
    | _ => trivial
  · intro h
    exact ⟨⟨Int.ofNat_le.mp (h .outPower).1, Int.ofNat_le.mp (h .outPower).2⟩,
      Int.ofNat_le.mp (h .delay1), Int.ofNat_le.mp (h .delay2), Int.ofNat_le.mp (h .delay3),
      Int.ofNat_le.mp (h .trigger2), Int.ofNat_le.mp (h .trigger3), Int.ofNat_le.mp (h .onTime),
      Int.ofNat_le.mp (h .timeover), Int.ofNat_le.mp (h .energy), Int.ofNat_le.mp (h .commMode),
      Int.ofNat_le.mp (h .commSpeed), Int.ofNat_le.mp (h .commParity)⟩

/-- The factory defaults are in range. -/
theorem factory_inRange : ConfigInRange appConfigFactoryDefaults := by
  constructor <;> decide

/-- The ranges of the shadows that a SAVE commits; the mode may be the mark of an unseeded one. -/
structure ShadowsInRange (lcd : LcdState) : Prop where
  speed : lcd.tempSpeedIdx ≤ 5
  parity : lcd.tempParityIdx ≤ 2
  mode : lcd.tempCommMode ≤ 2 ∨ lcd.tempCommMode = 0xFF

/-- An initialised FRAM stores values in range. -/
def ImageInRange (fram : Fram) : Prop :=
  fram 0 = framInitFlagMagic → ∀ field : StoredField, field.Bounded (storedValue fram field)

/-! ### Saving and loading -/

/-- A value in range is stored as it is, or in range. -/
theorem bounded_kept {field : StoredField} {cfg : AppConfig}
    (hbounded : field.Bounded (cfg.value field)) :
    field.Bounded (field.kept (cfg.value field)) := by
  cases field with
  | outPower =>
    dsimp only [StoredField.Bounded, StoredField.kept, AppConfig.value] at hbounded ⊢
    split_ifs <;> omega
  | energy | commSpeed | commParity =>
    dsimp only [StoredField.Bounded, StoredField.kept, AppConfig.value] at hbounded ⊢
    split_ifs <;> omega
  | delay1 | delay2 | delay3 | trigger2 | trigger3 | onTime | timeover | commMode =>
    dsimp only [StoredField.Bounded, StoredField.kept, AppConfig.value] at hbounded ⊢
    omega
  | _ => trivial

/-- Assumes: the writes arrive. A save of values in range leaves an image in range. -/
theorem imageInRange_saved {bus : I2cBus} (hwrites : bus.Writes) {cfg : AppConfig}
    (hcfg : ConfigInRange cfg) (fram : Fram) : ImageInRange (appConfigSaveAll bus cfg fram) := by
  intro _ field
  rw [storedValue_saved hwrites]
  exact bounded_kept ((configInRange_iff cfg).mp hcfg field)

/-- Whatever a load reads and fails to read, its values are in range. -/
theorem configInRange_loaded (bus : I2cBus) {fram : Fram} (himage : ImageInRange fram) :
    ConfigInRange (appConfigLoad bus fram).cfg := by
  cases hread : bus.readOk 0 with
  | false =>
    rw [appConfigLoad, if_pos hread]
    exact factory_inRange
  | true =>
    by_cases hflag : fram 0 = framInitFlagMagic
    · refine (configInRange_iff _).mpr fun field ↦ ?_
      rw [value_loaded bus hflag]
      split_ifs
      · exact himage hflag field
      · exact (configInRange_iff _).mp factory_inRange field
    · rw [appConfigLoad, if_neg (by simp [hread]), if_pos hflag]
      exact factory_inRange

/-- Assumes: the writes arrive. A load leaves the image in range. -/
theorem imageInRange_loaded {bus : I2cBus} (hwrites : bus.Writes) {fram : Fram}
    (himage : ImageInRange fram) : ImageInRange (appConfigLoad bus fram).fram := by
  by_cases hflag : fram 0 = framInitFlagMagic
  · intro _ field
    rw [storedValue_loaded hwrites hflag]
    exact himage hflag field
  · cases hread : bus.readOk 0 with
    | false =>
      rw [appConfigLoad, if_pos hread]
      exact himage
    | true =>
      rw [appConfigLoad, if_neg (by simp [hread]), if_pos hflag]
      exact imageInRange_saved hwrites factory_inRange _

/-! ### The configuration -/

theorem cfgClampMax_le (value max : ℕ) : cfgClampMax value max ≤ max := by
  unfold cfgClampMax
  split_ifs <;> omega

theorem FrameIn.word_lt (f : FrameIn) : f.word < 65536 := by
  have hhigh := (f.data.getD 1 0).toNat_lt
  have hlow := (f.data.getD 2 0).toNat_lt
  unfold FrameIn.word
  omega

/-- The panel clamps what it takes. -/
theorem panelConfigEdit_inRange (key : PanelKey) {data : ℕ} (hdata : data < 65536)
    {cfg : AppConfig} (hcfg : ConfigInRange cfg) :
    ConfigInRange (panelConfigEdit key data cfg) := by
  cases key with
  | dmDelay => exact { hcfg with delay1 := cfgClampMax_le data 500 }
  | dmWeld => exact { hcfg with delay2 := cfgClampMax_le data 500 }
  | dmHold => exact { hcfg with delay3 := cfgClampMax_le data 2000 }
  | tmWeld => exact { hcfg with trigger2 := cfgClampMax_le data 500 }
  | tmHold => exact { hcfg with trigger3 := cfgClampMax_le data 2000 }
  | outPower => exact { hcfg with power := cfgClampPower_range data }
  | maxOnTime => exact { hcfg with onTime := cfgClampMax_le data 2000 }
  | energyEdit => exact { hcfg with energy := by show data ≤ 100000; omega }
  | limitOutT => exact { hcfg with outTime := cfgClampMax_le data 10 }
  | energyEn | multiEn =>
    simp only [panelConfigEdit]
    split_ifs
    · exact { hcfg with }
    · exact hcfg
  | _ => exact { hcfg with }

/-- A master's word is clamped to the range of its field. -/
theorem written_inRange {reg : MbReg} (hreg : reg ∈ configRegs) {word : ℕ} (hword : word < 65536)
    {before cfg : AppConfig} (hbefore : ConfigInRange before)
    (hcfg : cfg = before.withFieldsOf reg cfg)
    (hfield : cfg.field reg = normalized reg word (before.field reg)) : ConfigInRange cfg := by
  rw [hcfg]
  cases reg with
  | delay1 => exact { hbefore with
      delay1 := (Int.ofNat.inj hfield).symm ▸ cfgClampMax_le word 500 }
  | delay2 => exact { hbefore with
      delay2 := (Int.ofNat.inj hfield).symm ▸ cfgClampMax_le word 500 }
  | delay3 => exact { hbefore with
      delay3 := (Int.ofNat.inj hfield).symm ▸ cfgClampMax_le word 2000 }
  | trigger2 => exact { hbefore with
      trigger2 := (Int.ofNat.inj hfield).symm ▸ cfgClampMax_le word 500 }
  | trigger3 => exact { hbefore with
      trigger3 := (Int.ofNat.inj hfield).symm ▸ cfgClampMax_le word 2000 }
  | outPower => exact { hbefore with
      power := (Int.ofNat.inj hfield).symm ▸ cfgClampPower_range word }
  | onTime => exact { hbefore with
      onTime := (Int.ofNat.inj hfield).symm ▸ cfgClampMax_le word 2000 }
  | timeover => exact { hbefore with
      outTime := (Int.ofNat.inj hfield).symm ▸ cfgClampMax_le word 10 }
  | energy =>
    have hvalue : cfg.limitEnergy = word := Int.ofNat.inj hfield
    exact { hbefore with energy := by show cfg.limitEnergy ≤ 100000; omega }
  | multiT1 | multiT2 | multiO1 | multiO2 | runMode | enEnergy | enMulti | enSafty | modelFreq
  | modelType | calVal | freqCalVal => exact { hbefore with }
  | _ => exact absurd hreg (by decide)

/-- A commit passes the range check of its settings. -/
theorem committed_inRange {stage : CfgStage} (hrange : cfgStageOutOfRange stage = false)
    {cfg : AppConfig} (hcfg : ConfigInRange cfg) :
    ConfigInRange (stgApplyToCfg stage.val stage.dirty cfg) := by
  refine { hcfg with speed := ?_, parity := ?_ }
  · show (if stage.dirty .speed then stage.val .speed % 256 else cfg.commSpeedIdx) ≤ 5
    split_ifs with hdirty
    · have hspeed : stage.val .speed ≤ 5 := inRange_of_accepts hrange hdirty
      omega
    · exact hcfg.speed
  · show (if stage.dirty .parity then stage.val .parity % 256 else cfg.commParityIdx) ≤ 2
    split_ifs with hdirty
    · have hparity : stage.val .parity ≤ 2 := inRange_of_accepts hrange hdirty
      omega
    · exact hcfg.parity

/-- A SAVE commits shadows in range. -/
theorem saved_inRange {s : Sys} (hcfg : ConfigInRange s.cfg) (hshadows : ShadowsInRange s.lcd) :
    ConfigInRange (dataSaveGroup s).cfg := by
  have hsaved := dataSaveGroup_config s
  generalize (dataSaveGroup s).cfg = cfg at hsaved
  have hspeed : cfg.commSpeedIdx ≤ 5 := by
    rcases hsaved.speed with hlive | hshadow
    · exact hlive.trans_le hcfg.speed
    · exact hshadow.trans_le hshadows.speed
  have hparity : cfg.commParityIdx ≤ 2 := by
    rcases hsaved.parity with hlive | hshadow
    · exact hlive.trans_le hcfg.parity
    · exact hshadow.trans_le hshadows.parity
  have hmode : cfg.commMode ≤ 2 := by
    rcases hsaved.mode with hlive | ⟨hshadow, hseeded⟩
    · exact hlive.trans_le hcfg.mode
    · exact hshadow.trans_le (hshadows.mode.resolve_right hseeded)
  have hprocess : ConfigInRange { s.cfg.process with
      commMode := cfg.commMode
      commSpeedIdx := cfg.commSpeedIdx
      commParityIdx := cfg.commParityIdx } :=
    { hcfg with mode := hmode, speed := hspeed, parity := hparity }
  rw [← hsaved.process] at hprocess
  exact { hprocess with }

/-- Every step keeps the configuration in range. -/
theorem ConfigStep.inRange {build : Build} {s : Sys} {call : Call} {cfg : AppConfig}
    (hstep : ConfigStep build s call cfg) (hcfg : ConfigInRange s.cfg)
    (hshadows : ShadowsInRange s.lcd) (himage : ImageInRange s.fram) : ConfigInRange cfg := by
  cases hstep with
  | kept => exact hcfg
  | edited => exact panelConfigEdit_inRange _ (FrameIn.word_lt _) hcfg
  | saved => exact saved_inRange hcfg hshadows
  | loaded => exact configInRange_loaded _ himage
  | written hrequest hword hreg hfields hfield =>
    exact written_inRange hreg hword hcfg hfields hfield
  | committed hrange => exact committed_inRange hrange hcfg
  | selected | counted | leased | cleared => exact { hcfg with }

/-! ### The shadows -/

theorem ShadowsInRange.of_sheet {lcd lcd' : LcdState} (hshadows : ShadowsInRange lcd)
    (hsheet : lcd'.sheet = lcd.sheet) : ShadowsInRange lcd' := by
  have hkept : ShadowsInRange lcd.sheet := ⟨hshadows.speed, hshadows.parity, hshadows.mode⟩
  rw [← hsheet] at hkept
  exact ⟨hkept.speed, hkept.parity, hkept.mode⟩

/-- A page seeds its shadows from the live configuration. -/
theorem shadows_changePage (tPage : ℕ) {s : Sys} (hcfg : ConfigInRange s.cfg)
    (hshadows : ShadowsInRange s.lcd) : ShadowsInRange (appLcdChangePage tPage s).lcd := by
  have hrender : ShadowsInRange (renderPage s.lcd.lcdStatus s).lcd := by
    unfold renderPage
    split
    · exact ⟨hcfg.speed, hcfg.parity, Or.inr rfl⟩
    · exact ⟨hcfg.speed, hcfg.parity, Or.inr rfl⟩
    · exact ⟨hcfg.speed, hcfg.parity, Or.inr rfl⟩
    · exact ⟨hshadows.speed, hshadows.parity, Or.inr rfl⟩
    · exact ⟨hshadows.speed, hshadows.parity, Or.inr rfl⟩
    · exact ⟨hshadows.speed, hshadows.parity, Or.inr rfl⟩
    · exact ⟨hshadows.speed, hshadows.parity, Or.inr rfl⟩
    all_goals first
      | exact hshadows
      | unfold renderCommPage
        dsimp only
        split_ifs
        · exact ⟨hcfg.speed, hcfg.parity, Or.inl hcfg.mode⟩
        · exact ⟨hcfg.speed, hcfg.parity, hshadows.mode⟩
  exact ⟨hrender.speed, hrender.parity, hrender.mode⟩

theorem shadows_gotoPage (page : LcdPage) (tPage : ℕ) {s : Sys} (hcfg : ConfigInRange s.cfg)
    (hshadows : ShadowsInRange s.lcd) : ShadowsInRange (gotoPage page tPage s).lcd :=
  shadows_changePage tPage hcfg ⟨hshadows.speed, hshadows.parity, hshadows.mode⟩

/-- The RUN, RESET and SEEK keys edit no sheet. -/
theorem keyMulti_sheet (data now : ℕ) (s : Sys) :
    (handleKeyMulti data now s).lcd.sheet = s.lcd.sheet := by
  have hcommand (cmd : UsCmd) (t : Sys) : (appLcdHookUsCommand cmd now t).lcd = t.lcd :=
    lcd_regCommand cmd .touch now t
  unfold handleKeyMulti
  split_ifs
  · unfold handleKeyReset
    dsimp only
    split_ifs <;> first | exact congrArg LcdState.sheet (hcommand .reset s) |
      simp only [toRunPage, LcdState.sheet, hcommand]
  · exact congrArg LcdState.sheet (hcommand .seek s)
  · exact congrArg LcdState.sheet (hcommand .start s)
  · exact congrArg LcdState.sheet (hcommand .runRelease s)
  · unfold handleRunToggle
    dsimp only
    let toggled := { s with lcd := { s.lcd with runKeyDown := !s.lcd.runKeyDown } }
    have hkept : toggled.lcd.sheet = s.lcd.sheet := rfl
    split_ifs
    · exact (congrArg LcdState.sheet (hcommand .start toggled)).trans hkept
    · exact (congrArg LcdState.sheet (hcommand .runRelease toggled)).trans hkept
  · rfl

theorem keyErrorReset_sheet (data now : ℕ) (s : Sys) :
    (handleKeyErrorReset data now s).lcd.sheet = s.lcd.sheet := by
  have hcommand : (appLcdHookUsCommand .reset now s).lcd = s.lcd :=
    lcd_regCommand .reset .touch now s
  unfold handleKeyErrorReset
  dsimp only
  split_ifs <;> simp only [toRunPage, LcdState.sheet, hcommand]

/-- Every frame keeps the shadows in range. -/
theorem dispatch_shadows (f : FrameIn) {s : Sys} (hcfg : ConfigInRange s.cfg)
    (hshadows : ShadowsInRange s.lcd) (himage : ImageInRange s.fram) :
    ShadowsInRange (appLcdInputDispatch f s).lcd := by
  have hsheet {lcd : LcdState} (h : lcd.sheet = s.lcd.sheet) : ShadowsInRange lcd :=
    hshadows.of_sheet h
  have hkept {lcd : LcdState} (hspeed : lcd.tempSpeedIdx = s.lcd.tempSpeedIdx)
      (hparity : lcd.tempParityIdx = s.lcd.tempParityIdx)
      (hmode : lcd.tempCommMode = s.lcd.tempCommMode) : ShadowsInRange lcd :=
    ⟨hspeed ▸ hshadows.speed, hparity ▸ hshadows.parity, hmode ▸ hshadows.mode⟩
  have hgoto (page : LcdPage) {t : Sys} (ht : t.cfg = s.cfg) (hlcd : ShadowsInRange t.lcd) :
      ShadowsInRange (gotoPage page f.tPage t).lcd :=
    shadows_gotoPage page f.tPage (ht.symm ▸ hcfg) hlcd
  have hsetup {t : Sys} (ht : t.cfg = s.cfg) (hlcd : ShadowsInRange t.lcd) :
      ShadowsInRange (handleSetupParamEnter f.tPage t).lcd := by
    have hentered := hgoto (setup1PageForMode t.lcd.sysMode) ht hlcd
    exact ⟨hentered.speed, hentered.parity, hentered.mode⟩
  unfold appLcdInputDispatch
  cases f.key with
  | none => exact hshadows
  | some key =>
    cases key with
    | setupParam => exact hsetup rfl hshadows
    | setupParamMoohan =>
      obtain ⟨ms, mark, hmarked⟩ := longPressKey_marked f.vpAddr f.word f.tKey
        (handleSetupParamEnter f.tPage) s
      dsimp only [panelKeyHandler]
      rw [hmarked]
      split_ifs
      · exact hsetup rfl (hkept rfl rfl rfl)
      · exact hkept rfl rfl rfl
    | setupModel =>
      obtain ⟨ms, mark, hmarked⟩ := longPressKey_marked f.vpAddr f.word f.tKey enterModelSetup s
      dsimp only [panelKeyHandler]
      rw [hmarked]
      split_ifs <;> exact hkept rfl rfl rfl
    | stdSetupParam =>
      dsimp only [panelKeyHandler, handleStdSetupParam]
      split_ifs
      · exact hkept rfl rfl rfl
      · exact hgoto _ rfl hshadows
      · exact hgoto _ rfl hshadows
      · exact hgoto _ rfl hshadows
      · exact hgoto _ rfl hshadows
      · exact hkept rfl rfl rfl
      · exact hshadows
    | runMode =>
      dsimp only [panelKeyHandler, handleRunMode]
      split_ifs
      · exact shadows_gotoPage _ _ { hcfg with } hshadows
      · exact shadows_gotoPage _ _ { hcfg with } hshadows
      · exact hshadows
    | keyMulti => exact hsheet (keyMulti_sheet f.word f.tCmd s)
    | keyErrorReset => exact hsheet (keyErrorReset_sheet f.word f.tCmd s)
    | dataSave =>
      dsimp only [panelKeyHandler]
      split_ifs
      · have hgroup : ShadowsInRange (dataSaveGroup s).lcd.offSave := by
          rw [dataSaveGroup_offSave]
          exact hkept rfl rfl rfl
        exact shadows_changePage f.tPage (saved_inRange hcfg hshadows)
          ⟨hgroup.speed, hgroup.parity, hgroup.mode⟩
      · refine shadows_changePage f.tPage (configInRange_loaded f.bus himage) ?_
        dsimp only [cancelPage]
        split <;> exact ⟨hshadows.speed, hshadows.parity, Or.inr rfl⟩
    | commSpeed =>
      dsimp only [panelKeyHandler, handleCommSpeed]
      split_ifs with hrange
      · exact hshadows
      · exact ⟨not_lt.mp hrange, hshadows.parity, hshadows.mode⟩
    | commParity =>
      dsimp only [panelKeyHandler, handleCommParity]
      split_ifs with hrange
      · exact hshadows
      · exact ⟨hshadows.speed, not_lt.mp hrange, hshadows.mode⟩
    | commMode =>
      dsimp only [panelKeyHandler, handleCommMode]
      split_ifs
      · exact hgoto _ rfl ⟨hshadows.speed, hshadows.parity, Or.inl (Nat.zero_le 2)⟩
      · exact hgoto _ rfl ⟨hshadows.speed, hshadows.parity, Or.inl (Nat.le_succ 1)⟩
      · exact hgoto _ rfl ⟨hshadows.speed, hshadows.parity, Or.inl (le_refl 2)⟩
      · exact hgoto _ rfl ⟨hshadows.speed, hshadows.parity, Or.inl (Nat.le_succ 1)⟩
      · exact hgoto _ rfl ⟨hshadows.speed, hshadows.parity, hshadows.mode⟩
    | etherKey =>
      have heditor : ShadowsInRange (handleEtherKey f.word s).lcd.offEther := by
        rw [etherKey_offEther]
        exact hkept rfl rfl rfl
      exact ⟨heditor.speed, heditor.parity, heditor.mode⟩
    | sysPicNow =>
      dsimp only [panelKeyHandler, handleSysPicNow]
      split_ifs
      · have hanchored := hsheet (desk_reanchor s).sheet
        refine shadows_changePage f.tPage ?_ ⟨hanchored.speed, hanchored.parity, Or.inr rfl⟩
        show ConfigInRange (appLcdInputRunKeyReanchor s).cfg
        rw [(steady_reanchor s).1]
        exact hcfg
      · exact hshadows
    | _ => exact hkept rfl rfl rfl

/-! ### Calls -/

/-- Configuration, shadows and FRAM are in range. -/
structure DeskInRange (s : Sys) : Prop where
  config : ConfigInRange s.cfg
  shadows : ShadowsInRange s.lcd
  image : ImageInRange s.fram

/-- Every call keeps the shadows in range. -/
theorem exec_shadows (build : Build) (call : Call) {s : Sys} (hdesk : DeskInRange s) :
    ShadowsInRange (call.exec build s).lcd := by
  by_cases hoff : call.offDesk = true
  · exact hdesk.shadows.of_sheet (exec_desk build hoff s).sheet
  · cases call with
    | frame f => exact dispatch_shadows f hdesk.config hdesk.shadows hdesk.image
    | weldTick tick => exact hdesk.shadows.of_sheet (weldTick_desk tick s).sheet
    | ethTick tick =>
      have hlcd : (appEthTick tick s).lcd = { s.lcd with etherDirty := false } :=
        (ethTick_desk tick s).2.2.2
      show ShadowsInRange (appEthTick tick s).lcd
      rw [hlcd]
      exact ⟨hdesk.shadows.speed, hdesk.shadows.parity, hdesk.shadows.mode⟩
    | modbusTick input =>
      have hsheet := (modbusTick_desk build input s).sheet
      have hkept : ShadowsInRange s.lcd.sheet :=
        ⟨hdesk.shadows.speed, hdesk.shadows.parity, hdesk.shadows.mode⟩
      rw [← hsheet] at hkept
      exact ⟨hkept.speed, hkept.parity, hkept.mode⟩
    | _ => exact absurd rfl hoff

/-- Assumes: the writes arrive. Every call of a run keeps the desk in range. -/
theorem exec_inRange (build : Build) (boot : BootIn) (history : List Call) {call : Call}
    (hwrites : call.bus.Writes) (hdesk : DeskInRange (stateAfter build boot history)) :
    DeskInRange (stateAfter build boot (call :: history)) where
  config :=
    (exec_config build boot history call).inRange hdesk.config hdesk.shadows hdesk.image
  shadows := exec_shadows build call hdesk
  image := by
    have hcfg :=
      (exec_config build boot history call).inRange hdesk.config hdesk.shadows hdesk.image
    show ImageInRange (call.exec build (stateAfter build boot history)).fram
    rw [exec_fram]
    split_ifs
    · exact imageInRange_saved hwrites hcfg _
    · exact imageInRange_loaded hwrites hdesk.image
    · exact hdesk.image

theorem boot_inRange (build : Build) {boot : BootIn} (hwrites : boot.bus.Writes)
    (himage : ImageInRange boot.fram) : DeskInRange (bootState build boot) := by
  obtain ⟨hcfg, hfram⟩ := boot_loaded build boot
  have hload := configInRange_loaded boot.bus himage
  have hline (t : Sys) : (applyConfig build boot.sensDn t).lcd = t.lcd :=
    lcd_applyConfig build boot.sensDn t
  refine ⟨hcfg ▸ hload, ?_, hfram ▸ imageInRange_loaded hwrites himage⟩
  have hshown : ShadowsInRange (appLcdInitMode boot.tPage (appLcdHookSetPot
      (appConfigLoad boot.bus boot.fram).cfg.outputPower
      { resetState build boot with
        cfg := (appConfigLoad boot.bus boot.fram).cfg
        fram := (appConfigLoad boot.bus boot.fram).fram })).lcd :=
    shadows_changePage boot.tPage hload ⟨Nat.zero_le 5, Nat.zero_le 2, Or.inr rfl⟩
  rw [bootState, hline]
  exact ⟨hshown.speed, hshown.parity, hshown.mode⟩

/-- Assumes: the writes arrive. The desk is in range in every run from an image in range. -/
theorem run_inRange (build : Build) {boot : BootIn} (hboot : boot.bus.Writes)
    (himage : ImageInRange boot.fram) {history : List Call}
    (hwrites : ∀ call ∈ history, call.bus.Writes) :
    DeskInRange (stateAfter build boot history) := by
  induction history with
  | nil => exact boot_inRange build hboot himage
  | cons call past ih =>
    exact exec_inRange build boot past (hwrites call List.mem_cons_self)
      (ih fun older hmem ↦ hwrites older (List.mem_cons_of_mem call hmem))

/-! ### The FRAM of this firmware -/

/-- A FRAM that this firmware may find at power-up: a blank one, one that holds a save of a
configuration in range, and one that a run from such a FRAM has left, whose writes arrived. -/
inductive FirmwareImage : Fram → Prop
  | blank {fram : Fram} (hblank : fram 0 ≠ framInitFlagMagic) : FirmwareImage fram
  | saved {bus : I2cBus} (hwrites : bus.Writes) {cfg : AppConfig} (hcfg : ConfigInRange cfg)
    (fram : Fram) : FirmwareImage (appConfigSaveAll bus cfg fram)
  | left (build : Build) {boot : BootIn} (hfram : FirmwareImage boot.fram)
    (hboot : boot.bus.Writes) {history : List Call} (hwrites : ∀ call ∈ history, call.bus.Writes) :
    FirmwareImage (stateAfter build boot history).fram

theorem FirmwareImage.inRange {fram : Fram} (himage : FirmwareImage fram) : ImageInRange fram := by
  induction himage with
  | blank hblank => exact fun hflag ↦ absurd hflag hblank
  | saved hwrites hcfg fram => exact imageInRange_saved hwrites hcfg fram
  | left build hfram hboot hwrites ih => exact (run_inRange build hboot ih hwrites).image

/-! ### What relies on the ranges -/

/-- `comm_speed_txt`. -/
def commSpeedTxt : List String := [" 2400 ", " 4800 ", " 9600 ", "19200 ", "38400 ", "115200"]

/-- `comm_parity_txt`. -/
def commParityTxt : List String := ["EVEN", "ODD ", "NONE"]

/-- What the weld arithmetic and the texts of `render_comm_page` make of a configuration: the
amplitude is that of the integers and at most 127, the backstop that of the integers, and the texts
are inside their tables. -/
structure RangesHold (cfg : AppConfig) : Prop where
  power : 50 ≤ cfg.outputPower
  amplitude : ∀ compTime, weldAmplitude cfg.outputPower compTime =
      (cfg.outputPower - 50) * 255 / 100 - (weldCompFull - compTime) * 10 ∧
    weldAmplitude cfg.outputPower compTime ≤ 127
  backstop : weldBackstopTicks cfg.limitOutTime = 100 * max 1 cfg.limitOutTime ∧
    weldBackstopTicks cfg.limitOutTime ≤ 1000
  speed : cfg.commSpeedIdx < commSpeedTxt.length
  parity : cfg.commParityIdx < commParityTxt.length

theorem weldAmplitude_eq {power : ℕ} (hlow : 50 ≤ power) (hhigh : power ≤ 100) (compTime : ℕ) :
    weldAmplitude power compTime = (power - 50) * 255 / 100 - (weldCompFull - compTime) * 10 := by
  have hpercent : (power + 65536 - 50) % 65536 = power - 50 := by omega
  have hscaled : (power - 50) * 255 / 100 ≤ 127 := scaled_le (by omega)
  unfold weldAmplitude
  dsimp only
  rw [hpercent, Nat.mod_eq_of_lt (show (power - 50) * 255 / 100 < 65536 by omega)]
  split_ifs <;> omega

theorem ConfigInRange.rangesHold {cfg : AppConfig} (hcfg : ConfigInRange cfg) : RangesHold cfg where
  power := hcfg.power.1
  amplitude compTime := ⟨weldAmplitude_eq hcfg.power.1 hcfg.power.2 compTime,
    weldAmplitude_le hcfg.power.1 hcfg.power.2 compTime⟩
  backstop := by
    have hout := hcfg.outTime
    rw [weldBackstopTicks_eq (by omega)]
    exact ⟨rfl, by omega⟩
  speed := Nat.lt_succ_of_le hcfg.speed
  parity := Nat.lt_succ_of_le hcfg.parity

/-- Assumes: the FRAM is blank or written by this firmware, and the writes arrive; reads may fail in
any way. Then the configuration is in range at every step of every run, and what relies on it
holds. -/
theorem config_inRange (build : Build) (boot : BootIn) (history : List Call)
    (himage : FirmwareImage boot.fram) (hboot : boot.bus.Writes)
    (hwrites : ∀ call ∈ history, call.bus.Writes) :
    ConfigInRange (stateAfter build boot history).cfg ∧
      RangesHold (stateAfter build boot history).cfg := by
  have hcfg := (run_inRange build hboot himage.inRange hwrites).config
  exact ⟨hcfg, hcfg.rangesHold⟩

/-- A blank FRAM on a bus that answers. -/
def blankBoot : BootIn := { factoryBoot with bus := I2cBus.sound }

/-- The operator asks for DELAY1 = 600 and for a power of 200, and saves. -/
def greedySession : List Call :=
  [.frame (keyFrame 0x1050 1 30), .frame (keyFrame 0x1200 200 20), .frame (keyFrame 0x1203 600 10)]

/-- The session leaves the ranges alone. -/
theorem greedySession_inRange :
    ConfigInRange (stateAfter stdBuild blankBoot greedySession).cfg ∧
      RangesHold (stateAfter stdBuild blankBoot greedySession).cfg := by
  refine config_inRange stdBuild blankBoot greedySession (.blank (by decide)) rfl ?_
  simp only [greedySession, List.forall_mem_cons, List.not_mem_nil, false_implies, implies_true,
    and_true]
  exact ⟨rfl, rfl, rfl⟩

end UsCtrl
