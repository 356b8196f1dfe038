import UsCtrl.ConfigRanges
import UsCtrl.SetupExit

/-!
# The shadows of the setup

The panel edits the communication settings and the horn mode in shadows, which SAVE copies into the
live settings by page group (`dataSaveCommit_live`). Who puts what into a shadow is said by
`FrameIn.puts`: the pages that seed it, the keys that edit it, and what resets it; every call does
to a shadow what it puts there (`exec_shadow`).
-/

set_option autoImplicit false
set_option relaxedAutoImplicit false

namespace UsCtrl

open Foundation

/-! ### Settings with a shadow -/

/-- The live settings that the setup pages edit in a shadow. -/
inductive PanelSetting
  | commAddress
  | commSpeed
  | commParity
  | commMode
  | etherIp
  | etherNm
  | etherGw
  | hornMode
  deriving DecidableEq, Repr

/-- The value of a setting. -/
inductive SettingVal
  | num (value : ℕ)
  | octets (value : Octets)
  | flag (value : Bool)
  deriving DecidableEq, Repr

/-- The live value. -/
def PanelSetting.live (setting : PanelSetting) (s : Sys) : SettingVal :=
  match setting with
  | .commAddress => .num s.cfg.commAddress
  | .commSpeed => .num s.cfg.commSpeedIdx
  | .commParity => .num s.cfg.commParityIdx
  | .commMode => .num s.cfg.commMode
  | .etherIp => .octets s.cfg.etherIp
  | .etherNm => .octets s.cfg.etherNm
  | .etherGw => .octets s.cfg.etherGw
  | .hornMode => .flag (appHornModeActive s)

/-- The shadow. -/
def PanelSetting.shadow (setting : PanelSetting) (lcd : LcdState) : SettingVal :=
  match setting with
  | .commAddress => .num lcd.tempAddress
  | .commSpeed => .num lcd.tempSpeedIdx
  | .commParity => .num lcd.tempParityIdx
  | .commMode => .num lcd.tempCommMode
  | .etherIp => .octets lcd.tempEtherIp
  | .etherNm => .octets lcd.tempEtherNm
  | .etherGw => .octets lcd.tempEtherGw
  | .hornMode => .flag lcd.tempHorndown

/-- What a call puts into a shadow: the live value, what the operator typed, or a fixed value. -/
inductive ShadowPut
  | seeded
  | typed (value : SettingVal)
  | reset (value : SettingVal)
  deriving DecidableEq, Repr

/-- The value put, `live` being the live one. -/
def ShadowPut.value (live : SettingVal) : ShadowPut → SettingVal
  | .seeded => live
  | .typed value => value
  | .reset value => value

/-- The shadow after a call that puts something there, or nothing. -/
def shadowWith (put : Option ShadowPut) (live old : SettingVal) : SettingVal :=
  (put.map (ShadowPut.value live)).getD old

@[simp] theorem shadowWith_none (live old : SettingVal) : shadowWith none live old = old := rfl

@[simp] theorem shadowWith_some (put : ShadowPut) (live old : SettingVal) :
    shadowWith (some put) live old = put.value live := rfl

/-! ### Who puts what into a shadow -/

/-- What rendering a page puts into a shadow; `mode` is the mode shadow it finds, which guards the
shadows of mode and addresses. -/
def LcdPage.puts (page : LcdPage) (mode : ℕ) (setting : PanelSetting) : Option ShadowPut :=
  match page with
  | .setupHand | .setupMulti | .setupStd1 =>
    match setting with
    | .commAddress | .commSpeed | .commParity => some .seeded
    | .commMode => some (.reset (.num 0xFF))
    | _ => none
  | .setupStd2d | .setupStd2t | .setupStd3 | .setupMh2 =>
    if setting = .commMode then some (.reset (.num 0xFF)) else none
  | .setupStdc | .setupMhc | .setupStde | .setupMhe =>
    match setting with
    | .commAddress | .commSpeed | .commParity => some .seeded
    | .hornMode => none
    | _ => if mode = 0xFF then some .seeded else none
  | _ => none

/-- The mode the COMM_MODE key types. -/
def typedCommMode (data mode : ℕ) : ℕ :=
  if data = 0 then 0 else if data = 1 then 1 else if mode = 1 then 2 else if mode = 2 then 1
  else mode

/-- The page the COMM_MODE key renders. -/
def commModePage (data : ℕ) (page : LcdPage) : LcdPage :=
  if data = 0 then
    match page with
    | .setupMhe => .setupMhc
    | .setupStde => .setupStdc
    | page => page
  else
    match page with
    | .setupMhc => .setupMhe
    | .setupStdc => .setupStde
    | page => page

/-- The address field under edit. -/
def EtherField.setting : EtherField → PanelSetting
  | .ip => .etherIp
  | .nm => .etherNm
  | _ => .etherGw

/-- What the entry to the setup puts there: the first page, and the horn mode. -/
def entryPuts (setting : PanelSetting) (lcd : LcdState) : Option ShadowPut :=
  if setting = .hornMode then some .seeded
  else (setup1PageForMode lcd.sysMode).puts lcd.tempCommMode setting

/-- What SAVE puts there: it leaves for a run page, but shows the second page of the hand and multi
models again if the model is none of these. -/
def savePuts (setting : PanelSetting) (s : Sys) : Option ShadowPut :=
  if setting = .commMode ∧ s.lcd.lcdStatus = .setupMh2 ∧ setupGroup s = .other then
    some (.reset (.num 0xFF))
  else none

/-- What CANCEL puts there. -/
def cancelPuts (setting : PanelSetting) (lcd : LcdState) : Option ShadowPut :=
  match setting with
  | .commMode => some (.reset (.num 0xFF))
  | .hornMode => if lcd.lcdStatus.family = some .standard then some (.reset (.flag false)) else none
  | _ => none

/-- What the handler of a frame puts into a shadow. -/
def FrameIn.puts (f : FrameIn) (setting : PanelSetting) (s : Sys) : Option ShadowPut :=
  match f.key with
  | some .setupParam => entryPuts setting s.lcd
  | some .setupParamMoohan =>
    if (longPressReleased f.vpAddr f.word f.tKey s.lcd).2 then entryPuts setting s.lcd else none
  | some .stdSetupParam =>
    if f.word = 2 then (setup2Page s).puts s.lcd.tempCommMode setting
    else if f.word = 3 then (setup3Page s).puts s.lcd.tempCommMode setting
    else if f.word = 4 then LcdPage.setupStdc.puts s.lcd.tempCommMode setting
    else none
  | some .runMode =>
    if f.word = 1 ∨ f.word = 2 then LcdPage.setupStd2d.puts s.lcd.tempCommMode setting else none
  | some .commMode =>
    let mode := typedCommMode f.word s.lcd.tempCommMode
    ((commModePage f.word s.lcd.lcdStatus).puts mode setting).or
      (if setting = .commMode then some (.typed (.num mode)) else none)
  | some .dataSave =>
    if f.word = 1 then savePuts setting s else cancelPuts setting s.lcd
  | some .sysPicNow =>
    if f.word = 0 ∧ s.lcd.bootComplete ∧ elapsedMs f.tKey s.lcd.lastSetPageMs ≥ 200 ∧
        setting = .commMode then some (.reset (.num 0xFF)) else none
  | some .commAddr =>
    if setting = .commAddress then some (.typed (.num (f.word % 256))) else none
  | some .commSpeed =>
    if setting = .commSpeed ∧ f.word % 256 ≤ 5 then some (.typed (.num (f.word % 256))) else none
  | some .commParity =>
    if setting = .commParity ∧ f.word % 256 ≤ 2 then some (.typed (.num (f.word % 256))) else none
  | some .etherKey =>
    if setting = s.lcd.etherWhatInput.setting ∧ f.word % 256 = 0x45 then
      some (.typed (.octets (etherEnter s.lcd).etherTempIp))
    else none
  | some .horndown =>
    if setting = .hornMode then some (.typed (.flag (decide (f.word = 1)))) else none
  | _ => none

/-- Only frames put something into a shadow. -/
def Call.puts (call : Call) (setting : PanelSetting) (s : Sys) : Option ShadowPut :=
  match call with
  | .frame f => f.puts setting s
  | _ => none

/-- The operator types into the shadow. -/
def Call.types (call : Call) (setting : PanelSetting) (s : Sys) : Bool :=
  match call.puts setting s with
  | some (.typed _) => true
  | _ => false

/-! ### Pages -/

theorem changePage_shadow (tPage : ℕ) (setting : PanelSetting) (s : Sys) :
    setting.shadow (appLcdChangePage tPage s).lcd =
      shadowWith (s.lcd.lcdStatus.puts s.lcd.tempCommMode setting) (setting.live s)
        (setting.shadow s.lcd) := by
  unfold appLcdChangePage
  generalize s.lcd.lcdStatus = page
  cases page with
  | setupStdc | setupMhc | setupStde | setupMhe =>
    dsimp only [renderPage, renderCommPage, LcdPage.puts]
    split_ifs with hfirst <;> cases setting <;> rfl
  | _ => cases setting <;> rfl

theorem gotoPage_shadow (page : LcdPage) (tPage : ℕ) (setting : PanelSetting) (s : Sys) :
    setting.shadow (gotoPage page tPage s).lcd =
      shadowWith (page.puts s.lcd.tempCommMode setting) (setting.live s)
        (setting.shadow s.lcd) := by
  have hchanged := changePage_shadow tPage setting
    { s with lcd := { s.lcd with lcdStatus := page } }
  cases setting <;> exact hchanged

/-! ### Frames -/

theorem shadow_of_sheet {lcd lcd' : LcdState} (hsheet : lcd'.sheet = lcd.sheet)
    (setting : PanelSetting) : setting.shadow lcd' = setting.shadow lcd := by
  have hshadow := congrArg setting.shadow hsheet
  cases setting <;> exact hshadow

/-- The entry to the setup renders its first page, and seeds the horn mode. -/
theorem setupParamEnter_shadow (tPage : ℕ) (setting : PanelSetting) (s : Sys) :
    setting.shadow (handleSetupParamEnter tPage s).lcd =
      shadowWith (entryPuts setting s.lcd) (setting.live s) (setting.shadow s.lcd) := by
  have hpage := gotoPage_shadow (setup1PageForMode s.lcd.sysMode) tPage setting s
  cases setting with
  | hornMode => rfl
  | _ => exact hpage

/-- A long press puts there what its handler does. -/
theorem longPressKey_shadow (vp data now : ℕ) {enter : Sys → Sys} {setting : PanelSetting}
    (put : Option ShadowPut) (s : Sys)
    (henter : ∀ ms mark, setting.shadow (enter (markPress ms mark s)).lcd =
      shadowWith put (setting.live s) (setting.shadow s.lcd)) :
    setting.shadow (longPressKey vp data now enter s).lcd =
      shadowWith (if (longPressReleased vp data now s.lcd).2 then put else none) (setting.live s)
        (setting.shadow s.lcd) := by
  obtain ⟨ms, mark, hmarked⟩ := longPressKey_marked vp data now enter s
  rw [hmarked]
  split_ifs
  · exact henter ms mark
  · cases setting <;> rfl

theorem stdSetupParam_shadow {f : FrameIn} (hkey : f.key = some .stdSetupParam)
    (setting : PanelSetting) (s : Sys) :
    setting.shadow (handleStdSetupParam f.word f.tPage s).lcd =
      shadowWith (f.puts setting s) (setting.live s) (setting.shadow s.lcd) := by
  rw [FrameIn.puts, hkey]
  unfold handleStdSetupParam
  dsimp only
  split_ifs with hone htwo
  · omega
  · omega
  · omega
  · cases setting <;> rfl
  · exact gotoPage_shadow _ _ _ _
  · exact gotoPage_shadow _ _ _ _
  · exact gotoPage_shadow _ _ _ _
  · exact gotoPage_shadow _ _ _ _
  · cases setting <;> rfl
  · rfl

theorem runMode_shadow {f : FrameIn} (hkey : f.key = some .runMode) (setting : PanelSetting)
    (s : Sys) : setting.shadow (handleRunMode f.word f.tPage s).lcd =
      shadowWith (f.puts setting s) (setting.live s) (setting.shadow s.lcd) := by
  have hpage (page : LcdPage) (runMode : ℕ) (hputs : page.puts s.lcd.tempCommMode setting =
      LcdPage.setupStd2d.puts s.lcd.tempCommMode setting) :
      setting.shadow
          (gotoPage page f.tPage { s with cfg := { s.cfg with runMode := runMode } }).lcd =
        shadowWith (LcdPage.setupStd2d.puts s.lcd.tempCommMode setting) (setting.live s)
          (setting.shadow s.lcd) := by
    rw [gotoPage_shadow]
    dsimp only
    rw [hputs]
    cases setting <;> rfl
  rw [FrameIn.puts, hkey]
  unfold handleRunMode
  dsimp only
  by_cases hdelay : f.word = 1
  · rw [if_pos hdelay, if_pos (Or.inl hdelay)]
    exact hpage .setupStd2d 0 rfl
  · rw [if_neg hdelay]
    by_cases htrigger : f.word = 2
    · rw [if_pos htrigger, if_pos (Or.inr htrigger)]
      exact hpage .setupStd2t 1 rfl
    · rw [if_neg htrigger, if_neg (not_or.mpr ⟨hdelay, htrigger⟩)]
      rfl

/-- The speed and parity keys drop a word out of range. -/
theorem commSpeed_shadow {f : FrameIn} (hkey : f.key = some .commSpeed) (setting : PanelSetting)
    (s : Sys) : setting.shadow (handleCommSpeed f.word s).lcd =
      shadowWith (f.puts setting s) (setting.live s) (setting.shadow s.lcd) := by
  rw [FrameIn.puts, hkey]
  unfold handleCommSpeed
  dsimp only
  by_cases hrange : f.word % 256 > 5
  · rw [if_pos hrange, if_neg fun h ↦ absurd h.2 (not_le.mpr hrange)]
    rfl
  · rw [if_neg hrange]
    simp only [not_lt.mp hrange, and_true]
    cases setting <;> rfl

theorem commParity_shadow {f : FrameIn} (hkey : f.key = some .commParity) (setting : PanelSetting)
    (s : Sys) : setting.shadow (handleCommParity f.word s).lcd =
      shadowWith (f.puts setting s) (setting.live s) (setting.shadow s.lcd) := by
  rw [FrameIn.puts, hkey]
  unfold handleCommParity
  dsimp only
  by_cases hrange : f.word % 256 > 2
  · rw [if_pos hrange, if_neg fun h ↦ absurd h.2 (not_le.mpr hrange)]
    rfl
  · rw [if_neg hrange]
    simp only [not_lt.mp hrange, and_true]
    cases setting <;> rfl

/-- The COMM_MODE key types the mode and renders its page. -/
theorem handleCommMode_eq (data tPage : ℕ) (s : Sys) : handleCommMode data tPage s =
    gotoPage (commModePage data s.lcd.lcdStatus) tPage { s with lcd := { s.lcd with
      tempCommMode := typedCommMode data s.lcd.tempCommMode } } := by
  unfold handleCommMode commModePage typedCommMode
  split_ifs <;> rfl

theorem commMode_shadow {f : FrameIn} (hkey : f.key = some .commMode) (setting : PanelSetting)
    (s : Sys) : setting.shadow (handleCommMode f.word f.tPage s).lcd =
      shadowWith (f.puts setting s) (setting.live s) (setting.shadow s.lcd) := by
  rw [handleCommMode_eq, gotoPage_shadow, FrameIn.puts, hkey]
  dsimp only
  cases hput : (commModePage f.word s.lcd.lcdStatus).puts
      (typedCommMode f.word s.lcd.tempCommMode) setting with
  | some put => cases setting <;> rfl
  | none => cases setting <;> rfl

/-- Of the editor keys only ENTER puts something into a shadow: that of the field under edit. -/
theorem etherKey_shadow {f : FrameIn} (hkey : f.key = some .etherKey) (setting : PanelSetting)
    (s : Sys) : setting.shadow (handleEtherKey f.word s).lcd =
      shadowWith (f.puts setting s) (setting.live s) (setting.shadow s.lcd) := by
  have hback (lcd : LcdState) : setting.shadow (etherBackspace lcd) = setting.shadow lcd := by
    unfold etherBackspace
    cases lcd.etherInput.getLast? with
    | none => rfl
    | some last =>
      dsimp only
      split_ifs <;> cases setting <;> rfl
  have hdot (lcd : LcdState) : setting.shadow (etherNextOctet lcd) = setting.shadow lcd := by
    unfold etherNextOctet
    split_ifs <;> cases setting <;> rfl
  have hdigit (key : ℕ) (lcd : LcdState) :
      setting.shadow (etherDigit key lcd) = setting.shadow lcd := by
    cases setting <;> rfl
  have hselect (field : EtherField) (shadow : Octets) :
      setting.shadow (etherSelectField field shadow s.lcd) = setting.shadow s.lcd := by
    cases setting <;> rfl
  have henter : setting.shadow (etherEnter s.lcd) =
      if setting = s.lcd.etherWhatInput.setting then .octets (etherEnter s.lcd).etherTempIp
      else setting.shadow s.lcd := by
    unfold etherEnter
    cases s.lcd.etherWhatInput <;> cases setting <;> rfl
  have hnone (hother : f.word % 256 ≠ 0x45) :
      shadowWith (f.puts setting s) (setting.live s) (setting.shadow s.lcd) =
        setting.shadow s.lcd := by
    rw [FrameIn.puts, hkey]
    dsimp only
    rw [if_neg fun h ↦ hother h.2]
    rfl
  unfold handleEtherKey
  dsimp only
  split_ifs with hip hnm hgw hnumber hnext hdrop hdone
  · rw [hnone (by omega)]
    exact hselect _ _
  · rw [hnone (by omega)]
    exact hselect _ _
  · rw [hnone (by omega)]
    exact hselect _ _
  · rw [hnone (by omega)]
    exact hdigit _ _
  · rw [hnone (by omega)]
    exact hdot _
  · rw [hnone (by omega)]
    exact hback _
  · rw [henter, FrameIn.puts, hkey]
    dsimp only
    simp only [hdone, and_true]
    split_ifs <;> rfl
  · rw [hnone hdone]

/-- A page change behind a re-init or a SAVE of the run pages puts nothing there. -/
theorem runPage_puts (sysMode mode : ℕ) (setting : PanelSetting) :
    (runPageForMode sysMode).puts mode setting = none := by
  rcases runPageForMode_run sysMode with hrun | hrun <;> rw [hrun] <;> rfl

/-- A re-init re-arms the guard of mode and addresses. -/
theorem initMode_shadow (tPage : ℕ) (setting : PanelSetting) (s : Sys) :
    setting.shadow (appLcdInitMode tPage s).lcd =
      if setting = .commMode then .num 0xFF else setting.shadow s.lcd := by
  rw [appLcdInitMode, changePage_shadow]
  dsimp only
  rw [runPage_puts, shadowWith_none]
  cases setting <;> rfl

theorem sysPicNow_shadow {f : FrameIn} (hkey : f.key = some .sysPicNow) (setting : PanelSetting)
    (s : Sys) : setting.shadow (handleSysPicNow f.word f.tKey f.tPage s).lcd =
      shadowWith (f.puts setting s) (setting.live s) (setting.shadow s.lcd) := by
  have hanchored := shadow_of_sheet (desk_reanchor s).sheet setting
  rw [FrameIn.puts, hkey]
  unfold handleSysPicNow
  dsimp only
  split_ifs with hreset hput hput
  · rw [initMode_shadow, if_pos hput.2.2.2]
    rfl
  · rw [initMode_shadow, if_neg fun h ↦ hput ⟨hreset.1, hreset.2.1, hreset.2.2, h⟩, hanchored]
    rfl
  · exact absurd ⟨hput.1, hput.2.1, hput.2.2.1⟩ hreset
  · rfl

/-! ### SAVE and CANCEL -/

theorem shadow_of_offSave {lcd lcd' : LcdState} (hsave : lcd'.offSave = lcd.offSave)
    (setting : PanelSetting) : setting.shadow lcd' = setting.shadow lcd := by
  have hshadow := congrArg setting.shadow hsave
  cases setting <;> exact hshadow

/-- The page that a SAVE ends on puts there what the SAVE does. -/
theorem savedPage_puts (mode : ℕ) (setting : PanelSetting) (s : Sys) :
    (dataSaveGroup s).lcd.lcdStatus.puts mode setting = savePuts setting s := by
  have hnone (hput : ¬ (s.lcd.lcdStatus = .setupMh2 ∧ setupGroup s = .other)) :
      savePuts setting s = none := if_neg fun h ↦ hput h.2
  have hpage := (dataSaveGroup_page s).1
  cases hgroup : setupGroup s with
  | model =>
    rw [hgroup] at hpage hnone
    rw [hpage, runPage_puts, hnone (fun h ↦ by cases h.2)]
  | multi | hand | std =>
    rw [hgroup] at hpage hnone
    rw [hpage, hnone (fun h ↦ by cases h.2)]
    rfl
  | other =>
    rw [hgroup] at hpage
    rw [hpage]
    have hgroup' := hgroup
    unfold setupGroup at hgroup'
    cases hshown : s.lcd.lcdStatus with
    | setupMh2 => simp [savePuts, LcdPage.puts, hshown, hgroup]
    | logo | runMh | runStd | warning =>
      rw [hnone (fun h ↦ by rw [hshown] at h; cases h.1)]
      rfl
    | _ =>
      rw [hshown] at hgroup'
      cases hgroup'

theorem dataSaveCommit_shadow (bus : I2cBus) (tPage : ℕ) (setting : PanelSetting) (s : Sys) :
    setting.shadow (dataSaveCommit bus tPage s).lcd =
      shadowWith (savePuts setting s) (setting.live s) (setting.shadow s.lcd) := by
  have hkept : setting.shadow (dataSaveGroup s).lcd = setting.shadow s.lcd :=
    shadow_of_offSave (dataSaveGroup_offSave s) setting
  rw [dataSaveCommit, changePage_shadow]
  show shadowWith ((dataSaveGroup s).lcd.lcdStatus.puts _ setting) _
    (setting.shadow (dataSaveGroup s).lcd) = _
  rw [savedPage_puts, hkept]
  unfold savePuts
  -- What a SAVE puts is a fixed value, so that the live value before it does not matter.
  split_ifs <;> rfl

/-- The settings that a SAVE copies from their shadows: those of the line from every main group,
mode and addresses from the multi and standard pages unless the guard of their shadows is armed, and
the horn mode from the standard pages. -/
def SetupGroup.commits (group : SetupGroup) (mode : SettingVal) (setting : PanelSetting) : Bool :=
  match setting with
  | .commAddress | .commSpeed | .commParity =>
    decide (group = .multi) || decide (group = .hand) || decide (group = .std)
  | .hornMode => decide (group = .std)
  | .commMode | .etherIp | .etherNm | .etherGw =>
    (decide (group = .multi) || decide (group = .std)) && decide (mode ≠ .num 0xFF)

/-- The two commits of the communication settings. -/
theorem live_commits (setting : PanelSetting) (s : Sys) :
    setting.live (commitCommSerialShadows (commitCommModeAndEther s)) =
      if SetupGroup.multi.commits (.num s.lcd.tempCommMode) setting then setting.shadow s.lcd
      else setting.live s := by
  unfold commitCommModeAndEther
  by_cases hguard : s.lcd.tempCommMode = 0xFF
  · rw [if_pos hguard, hguard]
    cases setting <;> rfl
  · have hopen : SettingVal.num s.lcd.tempCommMode ≠ .num 0xFF := fun h ↦
      hguard (SettingVal.num.inj h)
    rw [if_neg hguard]
    cases setting with
    | commAddress | commSpeed | commParity | hornMode => rfl
    | commMode | etherIp | etherNm | etherGw =>
      exact (if_pos (Bool.and_eq_true_iff.mpr ⟨rfl, decide_eq_true hopen⟩)).symm

theorem live_hornSetMode (on : Bool) (setting : PanelSetting) (s : Sys) :
    setting.live (appHornSetMode on s) =
      if setting = .hornMode then .flag on else setting.live s := by
  have hmode : (appHornSetMode on s).horn.mode = on := by
    unfold appHornSetMode
    split_ifs with hsame
    · exact hsame.symm
    · rfl
  cases setting with
  | hornMode => exact congrArg SettingVal.flag hmode
  | _ =>
    rw [appHornSetMode_eq]
    rfl

/-- What SAVE does to a live setting. -/
theorem dataSaveGroup_live (setting : PanelSetting) (s : Sys) :
    setting.live (dataSaveGroup s) =
      if (setupGroup s).commits (.num s.lcd.tempCommMode) setting then setting.shadow s.lcd
      else setting.live s := by
  have hlcd (lcd : LcdState) (t : Sys) : setting.live { t with lcd := lcd } = setting.live t := by
    cases setting <;> rfl
  unfold dataSaveGroup
  cases setupGroup s with
  | model | other | hand => cases setting <;> rfl
  | multi =>
    let potted := appLcdHookSetPot s.cfg.outputPower s
    have hcommits := live_commits setting potted
    have hlive : setting.live potted = setting.live s := by cases setting <;> rfl
    rw [hlive] at hcommits
    exact (hlcd _ _).trans hcommits
  | std =>
    let counted := commitCntReset (appLcdHookSetPot s.cfg.outputPower s)
    have hhorn := live_hornSetMode s.lcd.tempHorndown setting counted
    have hkept : (appHornSetMode s.lcd.tempHorndown counted).lcd = counted.lcd := by
      rw [appHornSetMode_eq]
    have hcounted : setting.live counted = setting.live s ∧
        setting.shadow counted.lcd = setting.shadow s.lcd ∧
        counted.lcd.tempCommMode = s.lcd.tempCommMode := by
      unfold counted commitCntReset
      split_ifs <;> exact ⟨by cases setting <;> rfl, by cases setting <;> rfl, rfl⟩
    have hcommits := live_commits setting (appHornSetMode s.lcd.tempHorndown counted)
    rw [hkept, hhorn, hcounted.1, hcounted.2.1, hcounted.2.2] at hcommits
    refine ((hlcd _ _).trans hcommits).trans ?_
    cases setting <;> rfl

theorem dataSaveCommit_live (bus : I2cBus) (tPage : ℕ) (setting : PanelSetting) (s : Sys) :
    setting.live (dataSaveCommit bus tPage s) =
      if (setupGroup s).commits (.num s.lcd.tempCommMode) setting then setting.shadow s.lcd
      else setting.live s := by
  rw [← dataSaveGroup_live]
  have hcfg : (dataSaveCommit bus tPage s).cfg = (dataSaveGroup s).cfg := changePage_cfg tPage _
  have hhorn : (dataSaveCommit bus tPage s).horn.mode = (dataSaveGroup s).horn.mode :=
    (side_changePage tPage (saveConfig bus (dataSaveGroup s))).horn
  cases setting with
  | hornMode => exact congrArg SettingVal.flag hhorn
  | _ =>
    dsimp only [PanelSetting.live]
    rw [hcfg]

theorem dataSaveCancel_shadow (bus : I2cBus) (tPage : ℕ) (setting : PanelSetting) (s : Sys) :
    setting.shadow (dataSaveCancel bus tPage s).lcd =
      shadowWith (cancelPuts setting s.lcd) (setting.live s) (setting.shadow s.lcd) := by
  rw [dataSaveCancel, changePage_shadow]
  dsimp only [cancelPage, cancelPuts]
  cases hshown : s.lcd.lcdStatus <;> cases setting <;> rfl

/-- What the handler of a frame does to a shadow. -/
theorem dispatch_shadow (f : FrameIn) (setting : PanelSetting) (s : Sys) :
    setting.shadow (appLcdInputDispatch f s).lcd =
      shadowWith (f.puts setting s) (setting.live s) (setting.shadow s.lcd) := by
  unfold appLcdInputDispatch
  cases hkey : f.key with
  | none => rw [FrameIn.puts, hkey]; rfl
  | some key =>
    dsimp only
    cases key with
    | setupParam =>
      rw [FrameIn.puts, hkey]
      exact setupParamEnter_shadow f.tPage setting s
    | setupParamMoohan =>
      rw [FrameIn.puts, hkey]
      refine longPressKey_shadow _ _ _ _ s fun ms mark ↦ ?_
      rw [setupParamEnter_shadow]
      cases setting <;> rfl
    | setupModel =>
      rw [FrameIn.puts, hkey]
      refine (longPressKey_shadow _ _ _ none s fun ms mark ↦ ?_).trans ?_
      · cases setting <;> rfl
      · rw [ite_self]
    | stdSetupParam => exact stdSetupParam_shadow hkey setting s
    | runMode => exact runMode_shadow hkey setting s
    | keyMulti =>
      rw [FrameIn.puts, hkey]
      exact shadow_of_sheet (keyMulti_sheet f.word f.tCmd s) setting
    | keyErrorReset =>
      rw [FrameIn.puts, hkey]
      exact shadow_of_sheet (keyErrorReset_sheet f.word f.tCmd s) setting
    | dataSave =>
      rw [FrameIn.puts, hkey]
      dsimp only [panelKeyHandler]
      split_ifs
      · exact dataSaveCommit_shadow _ _ _ _
      · exact dataSaveCancel_shadow _ _ _ _
    | commAddr =>
      rw [FrameIn.puts, hkey]
      cases setting <;> rfl
    | commSpeed => exact commSpeed_shadow hkey setting s
    | commParity => exact commParity_shadow hkey setting s
    | horndown =>
      rw [FrameIn.puts, hkey]
      cases setting <;> rfl
    | commMode => exact commMode_shadow hkey setting s
    | etherKey => exact etherKey_shadow hkey setting s
    | sysPicNow => exact sysPicNow_shadow hkey setting s
    | _ =>
      rw [FrameIn.puts, hkey]
      cases setting <;> rfl

/-! ### Calls -/

/-- Every call does to a shadow what it puts there. -/
theorem exec_shadow (build : Build) (call : Call) (setting : PanelSetting) (s : Sys) :
    setting.shadow (call.exec build s).lcd =
      shadowWith (call.puts setting s) (setting.live s) (setting.shadow s.lcd) := by
  by_cases hoff : call.offDesk = true
  · have hputs : call.puts setting s = none := by cases call <;> first | rfl | cases hoff
    rw [hputs]
    exact shadow_of_sheet (exec_desk build hoff s).sheet setting
  · cases call with
    | frame f => exact dispatch_shadow f setting s
    | weldTick tick => exact shadow_of_sheet (weldTick_desk tick s).sheet setting
    | ethTick tick =>
      have hlcd : (appEthTick tick s).lcd = { s.lcd with etherDirty := false } :=
        (ethTick_desk tick s).2.2.2
      show setting.shadow (appEthTick tick s).lcd = setting.shadow s.lcd
      rw [hlcd]
      cases setting <;> rfl
    | modbusTick input =>
      have hsheet := congrArg setting.shadow (modbusTick_desk build input s).sheet
      show setting.shadow (appModbusTick build input s).lcd = setting.shadow s.lcd
      cases setting <;> exact hsheet
    | _ => exact absurd rfl hoff

/-! ### The boot -/

/-- What the shadows hold when the loop is entered. -/
def PanelSetting.bootShadow : PanelSetting → SettingVal
  | .commAddress | .commSpeed | .commParity => .num 0
  | .commMode => .num 0xFF
  | .etherIp | .etherNm | .etherGw => .octets ⟨0, 0, 0, 0⟩
  | .hornMode => .flag false

theorem boot_shadow (build : Build) (boot : BootIn) (setting : PanelSetting) :
    setting.shadow (bootState build boot).lcd = setting.bootShadow := by
  have hinit := initMode_shadow boot.tPage setting
    (appLcdHookSetPot (appConfigLoad boot.bus boot.fram).cfg.outputPower
      { resetState build boot with
        cfg := (appConfigLoad boot.bus boot.fram).cfg
        fram := (appConfigLoad boot.bus boot.fram).fram })
  rw [bootState, lcd_applyConfig]
  cases setting <;> exact hinit

end UsCtrl
