import UsCtrl.PanelShadows

/-!
# Addresses consist of octets

The addresses that the panel edits and the FRAM, the DHCP client and the staged registers supply are
arrays of bytes, which `Octets` leaves open. `run_addressesBytes` says that the addresses of a run
are bytes, live, in the shadows and under edit, if those from outside are.
-/

set_option autoImplicit false
set_option relaxedAutoImplicit false

namespace UsCtrl

open Foundation

/-! ### Octets -/

/-- The octets are bytes. -/
def Octets.Bytes (octets : Octets) : Prop := ∀ index, octets.get index < 256

theorem Octets.get_set (octets : Octets) {index other : ℕ} (hindex : index ≤ 3) (hother : other ≤ 3)
    (value : ℕ) : (octets.set index value).get other =
      if other = index then value else octets.get other := by
  interval_cases index <;> interval_cases other <;> rfl

theorem Octets.bytes_set {octets : Octets} (hbytes : octets.Bytes) (index value : ℕ) :
    (octets.set index (value % 256)).Bytes := by
  have hvalue : value % 256 < 256 := Nat.mod_lt value (by decide)
  intro other
  have hbyte := hbytes other
  unfold Octets.set
  split <;> rcases other with _ | _ | _ | other <;> first | exact hvalue | exact hbyte

theorem Octets.bytes_mk {o0 o1 o2 o3 : ℕ} (h0 : o0 < 256) (h1 : o1 < 256) (h2 : o2 < 256)
    (h3 : o3 < 256) : (Octets.mk o0 o1 o2 o3).Bytes := by
  intro index
  rcases index with _ | _ | _ | index
  · exact h0
  · exact h1
  · exact h2
  · exact h3

/-- The addresses of a configuration are bytes. -/
structure AddressBytes (cfg : AppConfig) : Prop where
  ip : cfg.etherIp.Bytes
  nm : cfg.etherNm.Bytes
  gw : cfg.etherGw.Bytes

/-- A load reads bytes. -/
theorem addressBytes_loaded (bus : I2cBus) {fram : Fram} (hbytes : ByteImage fram) :
    AddressBytes (appConfigLoad bus fram).cfg := by
  have hread (addr : ℕ) : fieldOr (bus.readOk addr) (fram addr) 0 < 256 := by
    cases bus.readOk addr with
    | true => exact hbytes addr
    | false => exact Nat.zero_lt_succ 255
  have hzero : (Octets.mk 0 0 0 0).Bytes := by
    refine Octets.bytes_mk ?_ ?_ ?_ ?_ <;> decide
  by_cases hflag : fram 0 = framInitFlagMagic
  · cases hbus : bus.readOk 0 with
    | false =>
      rw [appConfigLoad, if_pos hbus]
      exact ⟨hzero, hzero, hzero⟩
    | true =>
      rw [appConfigLoad_initialised hbus hflag]
      exact ⟨Octets.bytes_mk (hread 45) (hread 46) (hread 47) (hread 48),
        Octets.bytes_mk (hread 49) (hread 50) (hread 51) (hread 52),
        Octets.bytes_mk (hread 53) (hread 54) (hread 55) (hread 56)⟩
  · unfold appConfigLoad
    split_ifs <;> exact ⟨hzero, hzero, hzero⟩

/-- A committed address is made of the bytes of the staged words, or is the live one. -/
theorem addressBytes_committed (val : CfgStg → ℕ) (dirty : CfgStg → Bool) {cfg : AppConfig}
    (hcfg : AddressBytes cfg) : AddressBytes (stgApplyToCfg val dirty cfg) := by
  have hpick (field : CfgStg) (new : ℕ) {old : ℕ} (hold : old < 256) :
      (if dirty field then new % 256 else old) < 256 := by
    split_ifs
    · exact Nat.mod_lt new (by decide)
    · exact hold
  refine ⟨Octets.bytes_mk ?_ ?_ ?_ ?_, Octets.bytes_mk ?_ ?_ ?_ ?_, Octets.bytes_mk ?_ ?_ ?_ ?_⟩
  · exact hpick _ _ (hcfg.ip 0)
  · exact hpick _ _ (hcfg.ip 1)
  · exact hpick _ _ (hcfg.ip 2)
  · exact hpick _ _ (hcfg.ip 3)
  · exact hpick _ _ (hcfg.nm 0)
  · exact hpick _ _ (hcfg.nm 1)
  · exact hpick _ _ (hcfg.nm 2)
  · exact hpick _ _ (hcfg.nm 3)
  · exact hpick _ _ (hcfg.gw 0)
  · exact hpick _ _ (hcfg.gw 1)
  · exact hpick _ _ (hcfg.gw 2)
  · exact hpick _ _ (hcfg.gw 3)

/-- The DHCP client hands out octets. -/
def DhcpEvent.Bytes : DhcpEvent → Prop
  | .assign ip nm gw => ip.Bytes ∧ nm.Bytes ∧ gw.Bytes
  | .conflict => True

/-- What the DHCP client hands out in a call are octets. -/
def Call.LeasesBytes : Call → Prop
  | .ethTick tick => ∀ event ∈ tick.dhcpEvents, event.Bytes
  | _ => True

theorem addressBytes_leased {tick : EthTickIn} (hleases : (Call.ethTick tick).LeasesBytes) {s : Sys}
    (hcfg : AddressBytes s.cfg) : AddressBytes (appEthTick tick s).cfg := by
  have hevents (events : List DhcpEvent) (hevents : ∀ event ∈ events, event.Bytes) (t : Sys)
      (ht : AddressBytes t.cfg) :
      AddressBytes (events.foldl (fun s event ↦ dhcpEvent event s) t).cfg := by
    induction events generalizing t with
    | nil => exact ht
    | cons event events ih =>
      refine ih (fun other hmem ↦ hevents other (List.mem_cons_of_mem event hmem)) _ ?_
      have hevent := hevents event List.mem_cons_self
      cases event with
      | assign ip nm gw => exact ⟨hevent.1, hevent.2.1, hevent.2.2⟩
      | conflict => exact ht
  have htaken : AddressBytes (ethTakeDirty s).cfg := by
    rw [ethTakeDirty_cfg]
    exact hcfg
  unfold appEthTick
  dsimp only
  split
  · rw [ethLinkPoll_cfg]
    exact htaken
  · unfold ethDhcpRun
    dsimp only
    split_ifs <;> exact hevents tick.dhcpEvents hleases _ htaken
  · exact htaken
  · exact htaken

/-! ### The addresses of a run -/

/-- The address that a setting may hold consists of octets. -/
def SettingVal.Bytes : SettingVal → Prop
  | .octets value => value.Bytes
  | _ => True

/-- The addresses live and in the shadows consist of octets, and so does the one under edit. -/
structure AddressesBytes (s : Sys) : Prop where
  live : AddressBytes s.cfg
  shadow : ∀ setting : PanelSetting, (setting.shadow s.lcd).Bytes
  edited : s.lcd.etherTempIp.Bytes

theorem AddressBytes.setting {s : Sys} (hlive : AddressBytes s.cfg) (setting : PanelSetting) :
    (setting.live s).Bytes := by
  cases setting with
  | etherIp => exact hlive.ip
  | etherNm => exact hlive.nm
  | etherGw => exact hlive.gw
  | _ => trivial

/-- A view of the panel state that looks neither at the page shown, the error display and the RUN
key, nor at the dirty flag of the addresses. -/
def SheetView {α : Type} (view : LcdState → α) : Prop :=
  ∀ lcd : LcdState, view { lcd.sheet with etherDirty := false } = view lcd

/-- Only frames change the sheet. -/
theorem exec_sheetView {α : Type} {view : LcdState → α} (hview : SheetView view) (build : Build)
    {call : Call} (hcall : call.kind ≠ .frame) (s : Sys) :
    view (call.exec build s).lcd = view s.lcd := by
  have hsheet {lcd lcd' : LcdState} (hkept : { lcd'.sheet with etherDirty := false } =
      { lcd.sheet with etherDirty := false }) : view lcd' = view lcd := by
    rw [← hview lcd, ← hkept, hview lcd']
  by_cases hoff : call.offDesk = true
  · exact hsheet (congrArg (fun lcd ↦ { lcd with etherDirty := false })
      (exec_desk build hoff s).sheet)
  · cases call with
    | frame f => exact absurd rfl hcall
    | weldTick tick => exact hsheet (congrArg (fun lcd ↦ { lcd with etherDirty := false })
        (weldTick_desk tick s).sheet)
    | ethTick tick =>
      have hlcd : (appEthTick tick s).lcd = { s.lcd with etherDirty := false } :=
        (ethTick_desk tick s).2.2.2
      refine hsheet ?_
      show { (appEthTick tick s).lcd.sheet with etherDirty := false } = _
      rw [hlcd]
      rfl
    | modbusTick input => exact hsheet (congrArg (fun lcd ↦ { lcd with etherDirty := false })
        (modbusTick_desk build input s).sheet)
    | _ => exact absurd rfl hoff

/-- What the panel keeps of a key press and of an address while they are under way. -/
def LcdState.underway (lcd : LcdState) : ℕ × ℕ × Octets :=
  (lcd.keyPressVp, lcd.keyPressMs, lcd.etherTempIp)

theorem underway_changePage (tPage : ℕ) (s : Sys) :
    (appLcdChangePage tPage s).lcd.underway = s.lcd.underway := by
  unfold appLcdChangePage
  generalize s.lcd.lcdStatus = page
  cases page with
  | setupStdc | setupMhc | setupStde | setupMhe =>
    dsimp only [renderPage, renderCommPage]
    split_ifs <;> rfl
  | _ => rfl

theorem underway_gotoPage (page : LcdPage) (tPage : ℕ) (s : Sys) :
    (gotoPage page tPage s).lcd.underway = s.lcd.underway :=
  underway_changePage tPage { s with lcd := { s.lcd with lcdStatus := page } }

theorem underway_setupParam (tPage : ℕ) (s : Sys) :
    (handleSetupParamEnter tPage s).lcd.underway = s.lcd.underway :=
  underway_gotoPage (setup1PageForMode s.lcd.sysMode) tPage s

/-- Only the editor keys and the long-press keys change what is under way. -/
theorem underway_dispatch {f : FrameIn} (hether : f.key ≠ some .etherKey)
    (hmoohan : f.key ≠ some .setupParamMoohan) (hmodel : f.key ≠ some .setupModel) (s : Sys) :
    (appLcdInputDispatch f s).lcd.underway = s.lcd.underway := by
  have hsheet {t : Sys} (hkept : t.lcd.sheet = s.lcd.sheet) :
      t.lcd.underway = s.lcd.underway := by
    have hview := congrArg LcdState.underway hkept
    exact hview
  have hanchored : (appLcdInputRunKeyReanchor s).lcd.underway = s.lcd.underway :=
    hsheet (desk_reanchor s).sheet
  unfold appLcdInputDispatch
  cases hframe : f.key with
  | none => rfl
  | some key =>
    dsimp only
    cases key with
    | etherKey => exact absurd hframe hether
    | setupParamMoohan => exact absurd hframe hmoohan
    | setupModel => exact absurd hframe hmodel
    | setupParam => exact underway_setupParam f.tPage s
    | stdSetupParam =>
      dsimp only [panelKeyHandler, handleStdSetupParam]
      split_ifs <;> first | exact underway_gotoPage _ _ _ | rfl
    | runMode =>
      dsimp only [panelKeyHandler, handleRunMode]
      split_ifs <;> first | exact underway_gotoPage _ _ _ | rfl
    | keyMulti => exact hsheet (keyMulti_sheet f.word f.tCmd s)
    | keyErrorReset => exact hsheet (keyErrorReset_sheet f.word f.tCmd s)
    | dataSave =>
      dsimp only [panelKeyHandler]
      split_ifs
      · have hgroup := congrArg LcdState.underway (dataSaveGroup_offSave s)
        rw [dataSaveCommit, underway_changePage]
        exact hgroup
      · rw [dataSaveCancel, underway_changePage]
        dsimp only [cancelPage]
        split <;> rfl
    | commSpeed =>
      dsimp only [panelKeyHandler, handleCommSpeed]
      split_ifs <;> rfl
    | commParity =>
      dsimp only [panelKeyHandler, handleCommParity]
      split_ifs <;> rfl
    | commMode =>
      dsimp only [panelKeyHandler]
      rw [handleCommMode_eq, underway_gotoPage]
      rfl
    | sysPicNow =>
      dsimp only [panelKeyHandler, handleSysPicNow]
      split_ifs
      · rw [appLcdInitMode, underway_changePage]
        exact hanchored
      · rfl
    | _ => rfl

theorem tempIp_longPressKey (vp data now : ℕ) {enter : Sys → Sys}
    (henter : ∀ s : Sys, (enter s).lcd.etherTempIp = s.lcd.etherTempIp) (s : Sys) :
    (longPressKey vp data now enter s).lcd.etherTempIp = s.lcd.etherTempIp := by
  obtain ⟨ms, mark, hmarked⟩ := longPressKey_marked vp data now enter s
  rw [hmarked]
  split_ifs
  · exact henter _
  · rfl

/-- Only the editor keys change the address under edit. -/
theorem tempIp_dispatch {f : FrameIn} (hkey : f.key ≠ some .etherKey) (s : Sys) :
    (appLcdInputDispatch f s).lcd.etherTempIp = s.lcd.etherTempIp := by
  by_cases hmoohan : f.key = some .setupParamMoohan
  · rw [appLcdInputDispatch, hmoohan]
    refine tempIp_longPressKey _ _ _ (fun t ↦ ?_) s
    exact congrArg (fun underway ↦ underway.2.2) (underway_setupParam f.tPage t)
  · by_cases hmodel : f.key = some .setupModel
    · rw [appLcdInputDispatch, hmodel]
      have hmodelSetup (t : Sys) : (enterModelSetup t).lcd.etherTempIp = t.lcd.etherTempIp := rfl
      exact tempIp_longPressKey f.vpAddr f.word f.tKey hmodelSetup s
    · exact congrArg (fun underway ↦ underway.2.2) (underway_dispatch hkey hmoohan hmodel s)

theorem etherEnter_tempIp (lcd : LcdState) : (etherEnter lcd).etherTempIp =
    if lcd.etherHasInput then
      lcd.etherTempIp.set lcd.etherCurrentOctet (lcd.etherCurrentNumber % 256)
    else lcd.etherTempIp := by
  unfold etherEnter
  cases lcd.etherWhatInput <;> rfl

/-- The editor keys leave bytes under edit. -/
theorem tempIp_etherKey {s : Sys} (hbytes : AddressesBytes s) (data : ℕ) :
    (handleEtherKey data s).lcd.etherTempIp.Bytes := by
  have henter : (etherEnter s.lcd).etherTempIp.Bytes := by
    rw [etherEnter_tempIp]
    split_ifs
    · exact Octets.bytes_set hbytes.edited _ _
    · exact hbytes.edited
  have hback : (etherBackspace s.lcd).etherTempIp = s.lcd.etherTempIp := by
    unfold etherBackspace
    cases s.lcd.etherInput.getLast? with
    | none => rfl
    | some last =>
      dsimp only
      split_ifs <;> rfl
  have hdot : (etherNextOctet s.lcd).etherTempIp.Bytes := by
    unfold etherNextOctet
    by_cases hnext : s.lcd.etherHasInput ∧ s.lcd.etherCurrentOctet < 3
    · rw [if_pos hnext]
      exact Octets.bytes_set hbytes.edited _ _
    · rw [if_neg hnext]
      exact hbytes.edited
  unfold handleEtherKey
  dsimp only
  split_ifs
  · exact hbytes.shadow .etherIp
  · exact hbytes.shadow .etherNm
  · exact hbytes.shadow .etherGw
  · exact hbytes.edited
  · exact hdot
  · rw [hback]
    exact hbytes.edited
  · exact henter
  · exact hbytes.edited

/-- What is put consists of octets, if it is an address. -/
def ShadowPut.Bytes : ShadowPut → Prop
  | .seeded => True
  | .typed value | .reset value => value.Bytes

theorem bytes_shadowWith {put : Option ShadowPut} (hput : ∀ value ∈ put, value.Bytes)
    {live old : SettingVal} (hlive : live.Bytes) (hold : old.Bytes) :
    (shadowWith put live old).Bytes := by
  cases put with
  | none => exact hold
  | some put =>
    have hvalue := hput put rfl
    cases put with
    | seeded => exact hlive
    | typed value | reset value => exact hvalue

theorem bytes_putIf {cond : Prop} [Decidable cond] {put value : ShadowPut}
    (hput : put ∈ if cond then some value else none) (hvalue : value.Bytes) : put.Bytes := by
  split_ifs at hput
  · cases hput
    exact hvalue
  · cases hput

theorem bytes_pagePuts (page : LcdPage) (mode : ℕ) (setting : PanelSetting) :
    ∀ put ∈ page.puts mode setting, put.Bytes := by
  intro put hput
  cases page with
  | setupHand | setupMulti | setupStd1 => cases setting <;> cases hput <;> trivial
  | setupStd2d | setupStd2t | setupStd3 | setupMh2 =>
    cases setting <;> cases hput
    trivial
  | setupStdc | setupMhc | setupStde | setupMhe =>
    by_cases hfirst : mode = 0xFF
    · dsimp only [LcdPage.puts] at hput
      simp only [hfirst, if_true] at hput
      cases setting <;> cases hput <;> trivial
    · dsimp only [LcdPage.puts] at hput
      simp only [hfirst, if_false] at hput
      cases setting <;> cases hput <;> trivial
  | _ => cases hput

/-- A key types an address only by ENTER, and then the one under edit. -/
theorem bytes_puts {s : Sys} (hbytes : AddressesBytes s) (call : Call) (setting : PanelSetting) :
    ∀ put ∈ call.puts setting s, put.Bytes := by
  have henter : (etherEnter s.lcd).etherTempIp.Bytes := by
    have hedited := tempIp_etherKey hbytes 0x45
    exact hedited
  have hentry (lcd : LcdState) : ∀ put ∈ entryPuts setting lcd, put.Bytes := by
    intro put hput
    unfold entryPuts at hput
    split_ifs at hput
    · cases hput
      trivial
    · exact bytes_pagePuts _ _ _ put hput
  intro put hput
  cases call with
  | frame f =>
    change put ∈ f.puts setting s at hput
    unfold FrameIn.puts at hput
    split at hput
    · exact hentry _ put hput
    · split_ifs at hput
      · exact hentry _ put hput
      · cases hput
    · split_ifs at hput <;> first | exact bytes_pagePuts _ _ _ put hput | cases hput
    · split_ifs at hput <;> first | exact bytes_pagePuts _ _ _ put hput | cases hput
    · dsimp only at hput
      cases hpage : (commModePage f.word s.lcd.lcdStatus).puts
          (typedCommMode f.word s.lcd.tempCommMode) setting with
      | some shown =>
        rw [hpage, Option.some_or] at hput
        cases hput
        exact bytes_pagePuts _ _ _ _ hpage
      | none =>
        rw [hpage, Option.none_or] at hput
        exact bytes_putIf hput trivial
    · split_ifs at hput
      · exact bytes_putIf hput trivial
      · unfold cancelPuts at hput
        split at hput
        · cases hput
          trivial
        · exact bytes_putIf hput trivial
        · cases hput
    · exact bytes_putIf hput trivial
    · exact bytes_putIf hput trivial
    · exact bytes_putIf hput trivial
    · exact bytes_putIf hput trivial
    · exact bytes_putIf hput henter
    · exact bytes_putIf hput trivial
    · cases hput
  | _ => cases hput

/-- Assumes: the DHCP client hands out octets. Every call keeps the addresses made of octets. -/
theorem exec_addressBytes (build : Build) (boot : BootIn) (history : List Call) {call : Call}
    (hleases : call.LeasesBytes) (hfram : ByteImage (stateAfter build boot history).fram)
    (hbytes : AddressesBytes (stateAfter build boot history)) :
    AddressesBytes (stateAfter build boot (call :: history)) where
  live := by
    have hconfig : ConfigStep build (stateAfter build boot history) call
        (call.exec build (stateAfter build boot history)).cfg := exec_config build boot history call
    show AddressBytes (call.exec build (stateAfter build boot history)).cfg
    generalize stateAfter build boot history = s at *
    generalize hafter : (call.exec build s).cfg = cfg at hconfig
    cases hconfig with
    | kept => exact hbytes.live
    | @edited f key hkey =>
      have hkept : (panelConfigEdit key f.word s.cfg).etherIp = s.cfg.etherIp ∧
          (panelConfigEdit key f.word s.cfg).etherNm = s.cfg.etherNm ∧
          (panelConfigEdit key f.word s.cfg).etherGw = s.cfg.etherGw := by
        unfold panelConfigEdit
        split <;> first | exact ⟨rfl, rfl, rfl⟩ | (split_ifs <;> exact ⟨rfl, rfl, rfl⟩)
      exact ⟨hkept.1 ▸ hbytes.live.ip, hkept.2.1 ▸ hbytes.live.nm, hkept.2.2 ▸ hbytes.live.gw⟩
    | selected | counted | cleared => exact ⟨hbytes.live.ip, hbytes.live.nm, hbytes.live.gw⟩
    | saved hsave =>
      have hsaved (setting : PanelSetting) : (setting.live (dataSaveGroup s)).Bytes := by
        rw [dataSaveGroup_live]
        split_ifs
        · exact hbytes.shadow setting
        · exact hbytes.live.setting setting
      exact ⟨hsaved .etherIp, hsaved .etherNm, hsaved .etherGw⟩
    | loaded hloads => exact addressBytes_loaded _ hfram
    | leased tick ip nm gw =>
      rw [← hafter]
      exact addressBytes_leased hleases hbytes.live
    | @written _ _ reg _ cfg hrequest hword hreg hcfg hfield =>
      have hkept : (s.cfg.withFieldsOf reg cfg).etherIp = s.cfg.etherIp ∧
          (s.cfg.withFieldsOf reg cfg).etherNm = s.cfg.etherNm ∧
          (s.cfg.withFieldsOf reg cfg).etherGw = s.cfg.etherGw := by
        cases reg <;> first | exact ⟨rfl, rfl, rfl⟩ | exact absurd hreg (by decide)
      rw [hcfg]
      exact ⟨hkept.1 ▸ hbytes.live.ip, hkept.2.1 ▸ hbytes.live.nm, hkept.2.2 ▸ hbytes.live.gw⟩
    | committed hrange => exact addressBytes_committed _ _ hbytes.live
  shadow setting := by
    show (setting.shadow (call.exec build (stateAfter build boot history)).lcd).Bytes
    rw [exec_shadow]
    exact bytes_shadowWith (bytes_puts hbytes call setting) (hbytes.live.setting setting)
      (hbytes.shadow setting)
  edited := by
    show (call.exec build (stateAfter build boot history)).lcd.etherTempIp.Bytes
    by_cases hframe : call.kind = .frame
    · cases call with
      | frame f =>
        by_cases hkey : f.key = some .etherKey
        · rw [Call.exec, appLcdInputDispatch, hkey]
          exact tempIp_etherKey hbytes f.word
        · rw [Call.exec, tempIp_dispatch hkey]
          exact hbytes.edited
      | _ => cases hframe
    · have hview : SheetView LcdState.etherTempIp := fun _ ↦ rfl
      rw [exec_sheetView hview build hframe]
      exact hbytes.edited

theorem boot_addressesBytes (build : Build) {boot : BootIn} (hfram : ByteImage boot.fram) :
    AddressesBytes (bootState build boot) where
  live := by
    rw [(boot_loaded build boot).1]
    exact addressBytes_loaded boot.bus hfram
  shadow setting := by
    have hzero : (Octets.mk 0 0 0 0).Bytes := by
      refine Octets.bytes_mk ?_ ?_ ?_ ?_ <;> decide
    rw [boot_shadow]
    cases setting <;> first | exact hzero | trivial
  edited := by
    have hinit (s : Sys) : (appLcdInitMode boot.tPage s).lcd.etherTempIp = s.lcd.etherTempIp :=
      congrArg (fun underway ↦ underway.2.2) (underway_changePage boot.tPage _)
    rw [bootState, lcd_applyConfig]
    show (appLcdInitMode boot.tPage _).lcd.etherTempIp.Bytes
    rw [hinit]
    refine Octets.bytes_mk ?_ ?_ ?_ ?_ <;> decide

/-- Assumes: the FRAM holds bytes at power-up, and the DHCP client hands out octets. The addresses
of a run are made of octets. -/
theorem run_addressesBytes (build : Build) {boot : BootIn} (hfram : ByteImage boot.fram)
    {history : List Call} (hleases : ∀ call ∈ history, call.LeasesBytes) :
    AddressesBytes (stateAfter build boot history) := by
  induction history with
  | nil => exact boot_addressesBytes build hfram
  | cons call past ih =>
    exact exec_addressBytes build boot past (hleases call List.mem_cons_self)
      (byteImage_run build hfram past)
      (ih fun older hmem ↦ hleases older (List.mem_cons_of_mem call hmem))

end UsCtrl
