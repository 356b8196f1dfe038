import UsCtrl.PanelVars

/-!
# The words that show the configuration

The panel edits fifteen numbers of the configuration in variables (`EditVar`) that the firmware
writes too, from many places: the boot, the pages, the echoes of the keys and those of the masters.
All of them show the field as it is when they write (`Shows`), in its low 16 bits, but for the boot,
which shows the energy in tens: `exec_shows`, for every call.
-/

set_option autoImplicit false
set_option relaxedAutoImplicit false

namespace UsCtrl

open Foundation

/-! ### Editable variables -/

/-- The numbers the panel edits: limit times, outputs and times of the multi mode, power, on-time,
energy, out-time and the two calibrations. -/
inductive EditVar
  | dmDelay | dmWeld | dmHold | tmWeld | tmHold | moOut1 | moOut2 | moTime1 | moTime2
  | outPower | maxOnTime | energyEdit | limitOutT | calVal | freqCalVal
  deriving DecidableEq, Repr

/-- The variable of the panel. -/
def EditVar.vp : EditVar → ℕ
  | .dmDelay => 0x1203
  | .dmWeld => 0x1204
  | .dmHold => 0x1205
  | .tmWeld => 0x1206
  | .tmHold => 0x1207
  | .moOut1 => 0x1400
  | .moOut2 => 0x1401
  | .moTime1 => 0x1402
  | .moTime2 => 0x1403
  | .outPower => 0x1200
  | .maxOnTime => 0x1201
  | .energyEdit => 0x1202
  | .limitOutT => 0x120f
  | .calVal => 0x1410
  | .freqCalVal => 0x1412

/-- Its case of the dispatch. -/
def EditVar.key : EditVar → PanelKey
  | .dmDelay => .dmDelay
  | .dmWeld => .dmWeld
  | .dmHold => .dmHold
  | .tmWeld => .tmWeld
  | .tmHold => .tmHold
  | .moOut1 => .moOut1
  | .moOut2 => .moOut2
  | .moTime1 => .moTime1
  | .moTime2 => .moTime2
  | .outPower => .outPower
  | .maxOnTime => .maxOnTime
  | .energyEdit => .energyEdit
  | .limitOutT => .limitOutT
  | .calVal => .calVal
  | .freqCalVal => .freqCalVal

theorem EditVar.ofAddr_vp (v : EditVar) : PanelKey.ofAddr v.vp = some v.key := by
  cases v <;> rfl

theorem EditVar.vp_injective : Function.Injective EditVar.vp := by
  intro v other heq
  cases v <;> cases other <;> first | rfl | exact absurd heq (by decide)

/-- The variables of the panel that it edits numbers in. -/
def editVps : List ℕ :=
  [0x1200, 0x1201, 0x1202, 0x1203, 0x1204, 0x1205, 0x1206, 0x1207, 0x120f, 0x1400, 0x1401, 0x1402,
   0x1403, 0x1410, 0x1412]

theorem EditVar.vp_mem (v : EditVar) : v.vp ∈ editVps := by
  cases v <;> decide

/-- The field of the configuration, by its register. -/
def EditVar.reg : EditVar → MbReg
  | .dmDelay => .delay1
  | .dmWeld => .delay2
  | .dmHold => .delay3
  | .tmWeld => .trigger2
  | .tmHold => .trigger3
  | .moOut1 => .multiO1
  | .moOut2 => .multiO2
  | .moTime1 => .multiT1
  | .moTime2 => .multiT2
  | .outPower => .outPower
  | .maxOnTime => .onTime
  | .energyEdit => .energy
  | .limitOutT => .timeover
  | .calVal => .calVal
  | .freqCalVal => .freqCalVal

/-- The word that shows a field: its low 16 bits, the energy in tens where `app_lcd_init_mode`
writes it. -/
def EditVar.shown (v : EditVar) (byInit : Bool) (cfg : AppConfig) : ℕ :=
  if byInit ∧ v = .energyEdit then cfg.limitEnergy / 10 % 65536 else toUint16 (cfg.field v.reg)

@[simp] theorem EditVar.shown_false (v : EditVar) (cfg : AppConfig) :
    v.shown false cfg = toUint16 (cfg.field v.reg) := if_neg fun h ↦ Bool.false_ne_true h.1

@[simp] theorem toUint16_mod (value : ℤ) : toUint16 value % 65536 = toUint16 value := by
  unfold toUint16
  omega

@[simp] theorem toUint16_natCast (value : ℕ) : toUint16 value = value % 65536 := by
  unfold toUint16
  omega

/-- Every word that the writes leave at the variable shows the field. -/
def Shows (v : EditVar) (byInit : Bool) (cfg : AppConfig) (writes : List VpWrite) : Prop :=
  ∀ word ∈ writes.filterMap (VpWrite.wordAt v.vp), word = v.shown byInit cfg

theorem shows_nil (v : EditVar) (byInit : Bool) (cfg : AppConfig) : Shows v byInit cfg [] :=
  fun _ hmem ↦ absurd hmem List.not_mem_nil

theorem Shows.append {v : EditVar} {byInit : Bool} {cfg : AppConfig} {first second : List VpWrite}
    (hfirst : Shows v byInit cfg first) (hsecond : Shows v byInit cfg second) :
    Shows v byInit cfg (first ++ second) := by
  intro word hmem
  rw [List.filterMap_append, List.mem_append] at hmem
  exact hmem.elim (hfirst word) (hsecond word)

theorem Shows.last {v : EditVar} {byInit : Bool} {cfg : AppConfig} {writes : List VpWrite}
    (h : Shows v byInit cfg writes) {word : ℕ} (hlast : lastWord v.vp writes = some word) :
    word = v.shown byInit cfg :=
  h word (List.mem_of_getLast? hlast)

theorem Shows.cons {v : EditVar} {byInit : Bool} {cfg : AppConfig} {write : VpWrite}
    {writes : List VpWrite} (hwrite : Shows v byInit cfg [write])
    (hwrites : Shows v byInit cfg writes) : Shows v byInit cfg (write :: writes) :=
  hwrite.append hwrites

section Writes

variable (v : EditVar) {byInit : Bool} {cfg : AppConfig}

/-- A write that does not cover the variable. -/
theorem shows_of_none {write : VpWrite} (hnone : write.wordAt v.vp = none) :
    Shows v byInit cfg [write] := by
  intro word hmem
  rw [List.filterMap_cons_none hnone] at hmem
  exact absurd hmem List.not_mem_nil

/-- A write to a variable that is not edited. -/
theorem shows_other {start : ℕ} (hstart : start ∉ editVps) (value : ℕ) :
    Shows v byInit cfg [.u16 start value] := by
  refine shows_of_none v (if_neg ?_)
  rintro rfl
  exact hstart v.vp_mem

theorem shows_long {start : ℕ} (hstart : start ∉ editVps) (hnext : start + 1 ∉ editVps)
    (value : ℕ) : Shows v byInit cfg [.u32 start value] := by
  have hmem := v.vp_mem
  refine shows_of_none v ((if_neg ?_).trans (if_neg ?_))
  · rintro rfl
    exact hstart hmem
  · intro heq
    exact hnext (heq ▸ hmem)

/-- A write of the word that shows the field of its own variable. -/
theorem shows_own (other : EditVar) {value : ℕ} (hvalue : value % 65536 = other.shown byInit cfg) :
    Shows v byInit cfg [.u16 other.vp value] := by
  by_cases hsame : other = v
  · subst hsame
    intro word hmem
    have hword : VpWrite.wordAt other.vp (.u16 other.vp value) = some (value % 65536) := if_pos rfl
    rw [List.filterMap_cons_some hword, List.filterMap_nil, List.mem_singleton] at hmem
    exact hmem.trans hvalue
  · exact shows_of_none v (if_neg fun heq ↦ hsame (EditVar.vp_injective heq))

/-- A field written as it is; the energy is not, where the boot writes it. -/
theorem shows_field (other : EditVar) {value : ℕ} (hmode : byInit = false ∨ other ≠ .energyEdit)
    (hfield : cfg.field other.reg = value) : Shows v byInit cfg [.u16 other.vp value] := by
  refine shows_own v other ?_
  have hshown : other.shown byInit cfg = toUint16 (cfg.field other.reg) := by
    refine if_neg fun h ↦ ?_
    exact hmode.elim (fun hfalse ↦ Bool.false_ne_true (hfalse.symm.trans h.1)) fun hne ↦ hne h.2
  rw [hshown, hfield, toUint16_natCast]

/-- A calibration, which is written as an unsigned word. -/
theorem shows_signed (other : EditVar) :
    Shows v false cfg [.u16 other.vp (toUint16 (cfg.field other.reg))] :=
  shows_own v other (by rw [EditVar.shown_false, toUint16_mod])

/-- The low word of the energy. -/
theorem shows_energy (cfg : AppConfig) :
    Shows v false cfg [.u16 0x1202 (cfg.limitEnergy % 65536)] := by
  refine shows_own v .energyEdit ?_
  rw [EditVar.shown_false, Nat.mod_mod]
  exact (toUint16_natCast cfg.limitEnergy).symm

end Writes

/-! ### Pages -/

theorem time2str_pos (src : ℕ) (dest : ℕ → ℕ) : (time2str src dest).pos ≤ 7 :=
  (((((((StrBuf.within_start dest).lead _).next _).put _).put _).put _).put _).put _ |>.pos

theorem energy2str_pos (src : ℕ) (dest : ℕ → ℕ) : (energy2str src dest).pos ≤ 7 :=
  (((((((StrBuf.within_start dest).lead _).lead _).next _).next _).next _).put _).put _ |>.pos

/-- The texts of the RUN page reach no editable variable. -/
theorem shows_text (v : EditVar) (byInit : Bool) (cfg : AppConfig) {start : ℕ} {data : List ℕ}
    (hstart : 0x1300 ≤ start) (hend : start + (data.length + 1) / 2 ≤ 0x1400) :
    Shows v byInit cfg [.bytes start data] := by
  have hpart : ∀ vp ∈ editVps, vp < 0x1300 ∨ 0x1400 ≤ vp := by decide
  have hvp := hpart v.vp v.vp_mem
  exact shows_of_none v (if_neg (by omega))

theorem shows_stdLine (v : EditVar) (byInit : Bool) (cfg : AppConfig) {start letter : ℕ}
    {buf : StrBuf} (hpos : buf.pos ≤ 7) (hstart : 0x1300 ≤ start) (hend : start ≤ 0x1320) :
    Shows v byInit cfg [stdLine start letter buf] := by
  refine shows_text v byInit cfg hstart ?_
  rw [List.length_append, buf.text_length, List.length_cons, List.length_cons, List.length_cons,
    List.length_cons, List.length_nil]
  omega

theorem shows_weldLine (v : EditVar) (byInit : Bool) (cfg : AppConfig) (limitTime2 : ℕ)
    (scratch : ℕ → ℕ) : Shows v byInit cfg [stdWeldLine cfg limitTime2 scratch] := by
  unfold stdWeldLine
  split_ifs
  · exact shows_stdLine v byInit cfg (energy2str_pos _ _) (by decide) (by decide)
  · exact shows_stdLine v byInit cfg (time2str_pos _ _) (by decide) (by decide)
  · exact shows_stdLine v byInit cfg (time2str_pos _ _) (by decide) (by decide)

theorem refresh_shows (scratch : ℕ → ℕ) (v : EditVar) (byInit : Bool) (cfg : AppConfig) :
    Shows v byInit cfg (appLcdRunStdRefresh scratch cfg) := by
  have hline (start letter src : ℕ) (hstart : 0x1300 ≤ start) (hend : start ≤ 0x1320) :
      Shows v byInit cfg [stdLine start letter (time2str src scratch)] :=
    shows_stdLine v byInit cfg (time2str_pos _ _) hstart hend
  refine Shows.append ?_ ?_
  · exact (shows_field v .dmDelay (Or.inr (by decide)) rfl).cons
      ((shows_other v (by decide) _).cons ((shows_other v (by decide) _).cons
        (shows_field v .limitOutT (Or.inr (by decide)) rfl)))
  · split_ifs
    · exact (hline _ _ _ (by decide) (by decide)).append
        ((shows_weldLine v byInit cfg _ scratch).append (hline _ _ _ (by decide) (by decide)))
    · exact (shows_text v byInit cfg (by decide) (by decide)).append
        ((shows_weldLine v byInit cfg _ scratch).append (hline _ _ _ (by decide) (by decide)))
    · exact shows_nil v byInit cfg

/-- Every page shows the fields as they are. -/
theorem changePage_shows (scratch : ℕ → ℕ) (v : EditVar) (s : Sys) :
    Shows v false s.cfg (appLcdChangePageWrites scratch s) := by
  have hfield (other : EditVar) {value : ℕ} (hvalue : s.cfg.field other.reg = value) :
      Shows v false s.cfg [.u16 other.vp value] := shows_field v other (Or.inl rfl) hvalue
  have hicons (page : LcdPage) (mode : ℕ) : Shows v false s.cfg (commIcons page mode) := by
    unfold commIcons
    split_ifs
    · exact (shows_other v (by decide) _).cons (shows_other v (by decide) _)
    · exact (shows_other v (by decide) _).cons (shows_other v (by decide) _)
    · exact shows_other v (by decide) _
    · exact shows_other v (by decide) _
  have hcomm : Shows v false s.cfg (renderCommPageWrites s) :=
    (((shows_other v (by decide) _).cons ((shows_other v (by decide) _).cons
      (shows_other v (by decide) _))).append (hicons _ _)).append (hicons _ _)
  have hmain : Shows v false s.cfg (renderSetupMainWrites s.cfg) :=
    (hfield .maxOnTime rfl).cons ((hfield .outPower rfl).cons
      ((shows_long v (by decide) (by decide) _).cons
        ((shows_energy v s.cfg).cons
          ((shows_other v (by decide) _).cons (hfield .limitOutT rfl)))))
  refine ((shows_other v (by decide) _).cons (shows_other v (by decide) _)).append ?_
  generalize s.lcd.lcdStatus = page
  cases page with
  | runStd => exact refresh_shows scratch v false s.cfg
  | setupHand | setupMulti | setupStd1 => exact hmain
  | setupStdc | setupMhc | setupStde | setupMhe => exact hcomm
  | setupStd2d => exact (hfield .dmDelay rfl).cons ((hfield .dmWeld rfl).cons (hfield .dmHold rfl))
  | setupStd2t => exact (hfield .tmWeld rfl).cons (hfield .tmHold rfl)
  | setupStd3 | setupMh2 =>
    exact (shows_other v (by decide) _).cons ((hfield .moOut1 rfl).cons ((hfield .moOut2 rfl).cons
      ((hfield .moTime1 rfl).cons (hfield .moTime2 rfl))))
  | _ => exact shows_nil v false s.cfg

theorem gotoPage_shows (scratch : ℕ → ℕ) (v : EditVar) (page : LcdPage) (s : Sys) :
    Shows v false s.cfg (gotoPageWrites scratch page s) :=
  changePage_shows scratch v { s with lcd := { s.lcd with lcdStatus := page } }

/-- The boot shows the energy in tens, and the run page behind it does not show it at all. -/
theorem initMode_shows (scratch : ℕ → ℕ) (v : EditVar) (s : Sys) :
    Shows v true s.cfg (appLcdInitModeWrites scratch s) := by
  have hfield (other : EditVar) {value : ℕ} (hother : other ≠ .energyEdit)
      (hvalue : s.cfg.field other.reg = value) : Shows v true s.cfg [.u16 other.vp value] :=
    shows_field v other (Or.inr hother) hvalue
  have hicon {start : ℕ} (hstart : start ∉ editVps) : Shows v true s.cfg [.u16 start 0] :=
    shows_other v hstart 0
  refine Shows.append ?_ (Shows.append ?_ ?_)
  · exact (hicon (by decide)).cons ((hicon (by decide)).cons ((hicon (by decide)).cons
      ((hfield .dmDelay (by decide) rfl).cons ((hfield .dmWeld (by decide) rfl).cons
      ((hfield .dmHold (by decide) rfl).cons ((hfield .tmWeld (by decide) rfl).cons
      ((hfield .tmHold (by decide) rfl).cons ((shows_long v (by decide) (by decide) _).cons
      ((shows_own v .energyEdit (Nat.mod_mod _ _)).cons (hicon (by decide)))))))))))
  · exact (shows_other v (by decide) _).cons (shows_other v (by decide) _)
  · dsimp only
    unfold runPageForMode
    split_ifs
    · exact shows_nil v true s.cfg
    · exact shows_nil v true s.cfg
    · exact refresh_shows scratch v true s.cfg

/-! ### Frames -/

/-- A clamped value is shown as it is stored. -/
theorem clampEcho_shows (v other : EditVar) {cfg : AppConfig} {value clamped : ℕ}
    (hclamped : cfg.field other.reg = clamped) :
    Shows v false cfg (clampEcho other.vp value clamped) := by
  unfold clampEcho
  split_ifs
  · exact shows_field v other (Or.inl rfl) hclamped
  · exact shows_nil v false cfg

/-- The echo of a key shows what the key has stored. -/
theorem configEcho_shows (v : EditVar) (key : PanelKey) (data : ℕ) (cfg : AppConfig) :
    Shows v false (panelConfigEdit key data cfg) (panelConfigEcho key data cfg) := by
  cases key with
  | dmDelay => exact clampEcho_shows v .dmDelay rfl
  | dmWeld => exact clampEcho_shows v .dmWeld rfl
  | dmHold => exact clampEcho_shows v .dmHold rfl
  | tmWeld => exact clampEcho_shows v .tmWeld rfl
  | tmHold => exact clampEcho_shows v .tmHold rfl
  | moOut1 => exact clampEcho_shows v .moOut1 rfl
  | moOut2 => exact clampEcho_shows v .moOut2 rfl
  | outPower => exact clampEcho_shows v .outPower rfl
  | maxOnTime => exact clampEcho_shows v .maxOnTime rfl
  | limitOutT => exact clampEcho_shows v .limitOutT rfl
  | moTime1 | moTime2 =>
    dsimp only [panelConfigEcho]
    split_ifs with hraised
    · exact shows_field v .moTime2 (Or.inl rfl) (congrArg Int.ofNat (if_pos hraised))
    · exact shows_nil v false _
  | energyEn | multiEn =>
    dsimp only [panelConfigEcho]
    split_ifs
    · exact shows_other v (by decide) _
    · exact shows_nil v false _
  | _ => exact shows_nil v false _

/-- The frame is a reset of the panel, which shows everything as the boot does. -/
def FrameIn.inits (f : FrameIn) : Bool := decide (f.key = some .sysPicNow)

/-- Every frame shows the fields as it leaves them. -/
theorem frame_shows (scratch : ℕ → ℕ) (v : EditVar) (f : FrameIn) (s : Sys) :
    Shows v f.inits (appLcdInputDispatch f s).cfg (f.writes scratch s) := by
  have hgoto {t : Sys} {cfg : AppConfig} (page : LcdPage) (hcfg : cfg = t.cfg) :
      Shows v false cfg (gotoPageWrites scratch page t) :=
    hcfg ▸ gotoPage_shows scratch v page t
  have henter (t : Sys) : Shows v false t.cfg (handleSetupParamEnterWrites scratch t) := by
    exact (hgoto _ rfl).append (shows_other v (by decide) _)
  have hmodel : Shows v false s.cfg (enterModelSetupWrites s.cfg) :=
    (shows_other v (by decide) _).cons ((shows_other v (by decide) _).cons
      ((shows_signed v .calVal).cons (shows_signed v .freqCalVal)))
  have hsetupCfg (t : Sys) : (handleSetupParamEnter f.tPage t).cfg = t.cfg :=
    gotoPage_cfg _ f.tPage _
  have hmodelCfg (t : Sys) : (enterModelSetup t).cfg = t.cfg := rfl
  unfold FrameIn.writes appLcdInputDispatch FrameIn.inits
  cases f.key with
  | none => exact shows_nil v _ _
  | some key =>
    cases key with
    | setupParam =>
      dsimp only [panelKeyHandler]
      rw [hsetupCfg]
      exact henter s
    | setupParamMoohan =>
      dsimp only [panelKeyHandler]
      rw [longPressKey_cfg _ _ _ hsetupCfg s]
      split_ifs
      · exact henter s
      · exact shows_nil v _ _
    | setupModel =>
      dsimp only [panelKeyHandler]
      rw [longPressKey_cfg _ _ _ hmodelCfg s]
      split_ifs
      · exact hmodel
      · exact shows_nil v _ _
    | stdSetupParam =>
      dsimp only [panelKeyHandler]
      rw [stdSetupParam_cfg]
      unfold handleStdSetupParamWrites
      split_ifs
      · exact hgoto _ rfl
      · exact hgoto _ rfl
      · exact hgoto _ rfl
      · exact hgoto _ rfl
      · exact shows_nil v _ _
    | runMode =>
      dsimp only [panelKeyHandler, handleRunMode, handleRunModeWrites]
      split_ifs
      · exact hgoto _ (gotoPage_cfg _ f.tPage _)
      · exact hgoto _ (gotoPage_cfg _ f.tPage _)
      · exact shows_nil v _ _
    | dataSave =>
      dsimp only [panelKeyHandler]
      split_ifs
      · have hcount : Shows v false (dataSaveCommit f.bus f.tPage s).cfg
            (if setupGroup s = .std ∧ s.lcd.tempCntReset then [.u32 0x1006 0] else []) := by
          split_ifs
          · exact shows_long v (by decide) (by decide) 0
          · exact shows_nil v _ _
        refine hcount.append ?_
        rw [dataSaveCommit, changePage_cfg]
        exact changePage_shows scratch v (dataSaveGroup s)
      · rw [dataSaveCancel, changePage_cfg]
        exact changePage_shows scratch v _
    | commMode =>
      dsimp only [panelKeyHandler]
      rw [handleCommMode_eq, gotoPage_cfg]
      refine Shows.append ?_ (hgoto _ rfl)
      split_ifs
      · exact shows_other v (by decide) _
      · exact shows_other v (by decide) _
      · exact shows_other v (by decide) _
      · exact shows_nil v _ _
    | sysPicNow =>
      dsimp only [panelKeyHandler]
      rw [sysPicNow_cfg]
      unfold handleSysPicNowWrites
      split_ifs
      · refine Shows.append ?_ (initMode_shows scratch v s)
        exact (shows_other v (by decide) _).cons ((shows_other v (by decide) _).cons
          ((shows_other v (by decide) _).cons (shows_other v (by decide) _)))
      · exact shows_nil v _ _
    | keyMulti | keyErrorReset | commSpeed | commParity => exact shows_nil v _ _
    | _ => exact configEcho_shows v _ f.word s.cfg

/-! ### Requests -/

/-- A branch shows its field as it has stored it. -/
theorem echo_shows (v : EditVar) (reg : MbReg) (s : Sys) : Shows v false s.cfg (reg.echo s) := by
  have hfield (other : EditVar) {value : ℕ} (hvalue : s.cfg.field other.reg = value) :
      Shows v false s.cfg [.u16 other.vp value] := shows_field v other (Or.inl rfl) hvalue
  cases reg with
  | delay1 => exact hfield .dmDelay rfl
  | delay2 => exact hfield .dmWeld rfl
  | delay3 => exact hfield .dmHold rfl
  | trigger2 => exact hfield .tmWeld rfl
  | trigger3 => exact hfield .tmHold rfl
  | outPower => exact hfield .outPower rfl
  | onTime => exact hfield .maxOnTime rfl
  | multiT1 => exact hfield .moTime1 rfl
  | multiT2 => exact hfield .moTime2 rfl
  | multiO1 => exact hfield .moOut1 rfl
  | multiO2 => exact hfield .moOut2 rfl
  | timeover => exact hfield .limitOutT rfl
  | calVal => exact shows_signed v .calVal
  | freqCalVal => exact shows_signed v .freqCalVal
  | energy => exact (shows_long v (by decide) (by decide) _).cons (shows_energy v s.cfg)
  | workCntL => exact shows_long v (by decide) (by decide) _
  | enEnergy | enMulti | enSafty | hornCmd | modelFreq | modelType =>
    exact shows_other v (by decide) _
  | _ => exact shows_nil v false s.cfg

theorem branchWrites_shows (scratch : ℕ → ℕ) (v : EditVar) (reg : MbReg) (result : Sys × Bool) :
    Shows v false result.1.cfg (branchWrites scratch reg result) := by
  unfold branchWrites
  split_ifs
  · exact (echo_shows v reg result.1).append (refresh_shows scratch v false result.1.cfg)
  · exact echo_shows v reg result.1
  · exact shows_nil v false result.1.cfg

/-- What a Modbus tick makes of configuration and panel: nothing, or what the branch of a register
does. -/
inductive RequestStep (scratch : ℕ → ℕ) (s : Sys) : AppConfig → List VpWrite → Prop
  | quiet : RequestStep scratch s s.cfg []
  | branch {reg : MbReg} {result : Sys × Bool}
    (hfields : result.1.cfg = s.cfg.withFieldsOf reg result.1.cfg)
    (hunsaved : result.2 = false → result.1.cfg = s.cfg) :
    RequestStep scratch s result.1.cfg (branchWrites scratch reg result)

theorem pickedBranch_open (link : MbLink) (input : ApplyIn) (s : Sys) :
    pickedBranch link input s = ((openBranch link input s).map fun entry ↦ entry.2.act s).getD
      (stagedScan input.tStage s, false) :=
  firstMatch_find (fun s ↦ (stagedScan input.tStage s, false))
    (applyKeys.zip (applyRules link input)) s

theorem modbusTick_request (scratch : ℕ → ℕ) (build : Build) (input : ModbusTickIn) (s : Sys) :
    RequestStep scratch s (appModbusTick build input s).cfg
      (appModbusTickEcho scratch build input s) := by
  have hstored := (stored_modbusPass build input s).1
  rw [appModbusTick_eq_pass, finishPass, appModbusTickEcho]
  cases (modbusPass build input s).2 with
  | none =>
    dsimp only
    rw [hstored]
    exact .quiet
  | some link =>
    dsimp only
    generalize (modbusPass build input s).1 = t at hstored
    unfold appModbusApplyEcho
    cases hgate : gateClosed build t with
    | true =>
      rw [appModbusApplyWrites, hgate, if_pos rfl, if_pos rfl, (stored_gateRejectBody _).1]
      show RequestStep scratch s t.cfg []
      rw [hstored]
      exact .quiet
    | false =>
      have hentry : (countApply t).cfg = s.cfg := hstored
      rw [applied_cfg hgate, pickedBranch_open, if_neg Bool.false_ne_true]
      cases hopen : openBranch link input.apply (countApply t) with
      | none =>
        have hscan := (stagedScan_frame .reset input.apply.tStage (countApply t)).unsaved rfl
        show RequestStep scratch s (stagedScan input.apply.tStage (countApply t)).cfg []
        rw [hscan, hentry]
        exact .quiet
      | some entry =>
        have hframe := applyRules_frame link input.apply (countApply t) entry
          (List.mem_of_find?_eq_some hopen)
        have hfields := hframe.cfg
        have hunsaved := hframe.unsaved
        rw [hentry] at hfields hunsaved
        exact .branch hfields hunsaved

/-! ### Calls -/

/-- The call runs `app_lcd_init_mode`. -/
def Call.inits : Call → Bool
  | .frame f => f.inits
  | _ => false

/-- Every call shows the fields as it leaves them. -/
theorem exec_shows (scratch : ℕ → ℕ) (build : Build) (v : EditVar) (call : Call) (s : Sys) :
    Shows v call.inits (call.exec build s).cfg (call.writes scratch build s) := by
  cases call with
  | frame f => exact frame_shows scratch v f s
  | modbusTick input =>
    show Shows v false (appModbusTick build input s).cfg (appModbusTickEcho scratch build input s)
    have hstep := modbusTick_request scratch build input s
    generalize (appModbusTick build input s).cfg = cfg at hstep
    generalize appModbusTickEcho scratch build input s = writes at hstep
    cases hstep with
    | quiet => exact shows_nil v false s.cfg
    | branch => exact branchWrites_shows scratch v _ _
  | _ => exact shows_nil v _ _

end UsCtrl
