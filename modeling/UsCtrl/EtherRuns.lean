import UsCtrl.EtherBuffer

/-!
# The address editor in a run

The panel's state keeps the text under edit as a list; the editor of `UsCtrl.EtherBuffer` keeps it
in a buffer. `etherCalls` reads off a run what reaches the editor: its keys, and the entries to the
communication pages that seed the shadows. Behind every run the buffer holds what the list does
(`run_editor`), so that the list keeps within the bounds of the buffer (`run_entry_bounds`).
-/

set_option autoImplicit false
set_option relaxedAutoImplicit false

namespace UsCtrl

open Foundation

/-! ### Pages and keys that reach the editor -/

/-- The editor behind a page: it is empty if the page has seeded the addresses. -/
def editorWith (put : Option ShadowPut) (old : EtherField × List ℕ × Octets × ℕ × ℕ × Bool) :
    EtherField × List ℕ × Octets × ℕ × ℕ × Bool :=
  if put = some .seeded then (.none, [], old.2.2.1, 0, 0, false) else old

theorem changePage_editor (tPage : ℕ) (s : Sys) :
    (appLcdChangePage tPage s).lcd.editor =
      editorWith (s.lcd.lcdStatus.puts s.lcd.tempCommMode .etherIp) s.lcd.editor := by
  unfold appLcdChangePage
  generalize s.lcd.lcdStatus = page
  cases page with
  | setupStdc | setupMhc | setupStde | setupMhe =>
    dsimp only [renderPage, renderCommPage, LcdPage.puts]
    split_ifs with hfirst <;> rfl
  | _ => rfl

theorem gotoPage_editor (page : LcdPage) (tPage : ℕ) (s : Sys) :
    (gotoPage page tPage s).lcd.editor =
      editorWith (page.puts s.lcd.tempCommMode .etherIp) s.lcd.editor :=
  changePage_editor tPage { s with lcd := { s.lcd with lcdStatus := page } }

theorem setupParamEnter_editor (tPage : ℕ) (s : Sys) :
    (handleSetupParamEnter tPage s).lcd.editor =
      editorWith (entryPuts .etherIp s.lcd) s.lcd.editor :=
  gotoPage_editor (setup1PageForMode s.lcd.sysMode) tPage s

/-- A long press leaves the editor as its handler does. -/
theorem longPressKey_editor (vp data now : ℕ) {enter : Sys → Sys} (put : Option ShadowPut)
    (s : Sys)
    (henter : ∀ ms mark, (enter (markPress ms mark s)).lcd.editor =
      editorWith put s.lcd.editor) :
    (longPressKey vp data now enter s).lcd.editor =
      editorWith (if (longPressReleased vp data now s.lcd).2 then put else none)
        s.lcd.editor := by
  obtain ⟨ms, mark, hmarked⟩ := longPressKey_marked vp data now enter s
  rw [hmarked]
  split_ifs
  · exact henter ms mark
  · rfl

theorem stdSetupParam_editor {f : FrameIn} (hkey : f.key = some .stdSetupParam) (s : Sys) :
    (handleStdSetupParam f.word f.tPage s).lcd.editor =
      editorWith (f.puts .etherIp s) s.lcd.editor := by
  rw [FrameIn.puts, hkey]
  unfold handleStdSetupParam
  dsimp only
  split_ifs with hone htwo
  · omega
  · omega
  · omega
  · rfl
  · exact gotoPage_editor _ _ _
  · exact gotoPage_editor _ _ _
  · exact gotoPage_editor _ _ _
  · exact gotoPage_editor _ _ _
  · rfl
  · rfl

theorem runMode_editor {f : FrameIn} (hkey : f.key = some .runMode) (s : Sys) :
    (handleRunMode f.word f.tPage s).lcd.editor =
      editorWith (f.puts .etherIp s) s.lcd.editor := by
  have hnone : f.puts .etherIp s = none := by
    rw [FrameIn.puts, hkey]
    exact ite_self none
  rw [hnone]
  unfold handleRunMode
  split_ifs <;> first | exact gotoPage_editor _ _ _ | rfl

theorem commMode_editor {f : FrameIn} (hkey : f.key = some .commMode) (s : Sys) :
    (handleCommMode f.word f.tPage s).lcd.editor =
      editorWith (f.puts .etherIp s) s.lcd.editor := by
  rw [handleCommMode_eq, gotoPage_editor, FrameIn.puts, hkey]
  dsimp only
  rw [if_neg (by decide), Option.or_none]
  rfl

/-- A re-init shows a run page, and leaves the editor alone. -/
theorem initMode_editor (tPage : ℕ) (s : Sys) :
    (appLcdInitMode tPage s).lcd.editor = s.lcd.editor := by
  rw [appLcdInitMode, changePage_editor]
  dsimp only
  rw [runPage_puts]
  rfl

theorem sysPicNow_editor {f : FrameIn} (hkey : f.key = some .sysPicNow) (s : Sys) :
    (handleSysPicNow f.word f.tKey f.tPage s).lcd.editor =
      editorWith (f.puts .etherIp s) s.lcd.editor := by
  have hnone : f.puts .etherIp s = none := by
    rw [FrameIn.puts, hkey]
    exact if_neg fun h ↦ by cases h.2.2.2
  have hanchored : (appLcdInputRunKeyReanchor s).lcd.editor = s.lcd.editor := by
    have heditor := congrArg LcdState.editor (desk_reanchor s).sheet
    exact heditor
  rw [hnone]
  unfold handleSysPicNow
  split_ifs
  · exact (initMode_editor f.tPage _).trans hanchored
  · rfl

/-- A SAVE leaves the editor alone. -/
theorem dataSaveCommit_editor (bus : I2cBus) (tPage : ℕ) (s : Sys) :
    (dataSaveCommit bus tPage s).lcd.editor = s.lcd.editor := by
  have hkept : (dataSaveGroup s).lcd.editor = s.lcd.editor := by
    have heditor := congrArg LcdState.editor (dataSaveGroup_offSave s)
    exact heditor
  rw [dataSaveCommit, changePage_editor]
  show editorWith ((dataSaveGroup s).lcd.lcdStatus.puts _ .etherIp)
    (dataSaveGroup s).lcd.editor = _
  rw [savedPage_puts, hkept]
  rfl

/-- A CANCEL leaves it alone too. -/
theorem dataSaveCancel_editor (bus : I2cBus) (tPage : ℕ) (s : Sys) :
    (dataSaveCancel bus tPage s).lcd.editor = s.lcd.editor := by
  rw [dataSaveCancel, changePage_editor]
  dsimp only [cancelPage]
  cases hshown : s.lcd.lcdStatus <;> rfl

/-- The frames other than editor keys change the editor only by a page that seeds the addresses. -/
theorem dispatch_editor {f : FrameIn} (hether : f.key ≠ some .etherKey) (s : Sys) :
    (appLcdInputDispatch f s).lcd.editor = editorWith (f.puts .etherIp s) s.lcd.editor := by
  have hsheet {t : Sys} (hkept : t.lcd.sheet = s.lcd.sheet) : t.lcd.editor = s.lcd.editor := by
    have heditor := congrArg LcdState.editor hkept
    exact heditor
  unfold appLcdInputDispatch
  cases hkey : f.key with
  | none => rw [FrameIn.puts, hkey]; rfl
  | some key =>
    dsimp only
    cases key with
    | etherKey => exact absurd hkey hether
    | setupParam =>
      rw [FrameIn.puts, hkey]
      exact setupParamEnter_editor f.tPage s
    | setupParamMoohan =>
      rw [FrameIn.puts, hkey]
      exact longPressKey_editor _ _ _ _ s fun ms mark ↦
        setupParamEnter_editor f.tPage (markPress ms mark s)
    | setupModel =>
      rw [FrameIn.puts, hkey]
      refine (longPressKey_editor _ _ _ none s fun _ _ ↦ rfl).trans ?_
      rw [ite_self]
    | stdSetupParam => exact stdSetupParam_editor hkey s
    | runMode => exact runMode_editor hkey s
    | keyMulti =>
      rw [FrameIn.puts, hkey]
      exact hsheet (keyMulti_sheet f.word f.tCmd s)
    | keyErrorReset =>
      rw [FrameIn.puts, hkey]
      exact hsheet (keyErrorReset_sheet f.word f.tCmd s)
    | dataSave =>
      have hnone : f.puts .etherIp s = none := by
        rw [FrameIn.puts, hkey]
        exact ite_self none
      rw [hnone]
      dsimp only [panelKeyHandler]
      split_ifs
      · exact dataSaveCommit_editor f.bus f.tPage s
      · exact dataSaveCancel_editor f.bus f.tPage s
    | commSpeed =>
      rw [FrameIn.puts, hkey]
      dsimp only [panelKeyHandler, handleCommSpeed]
      split_ifs <;> rfl
    | commParity =>
      rw [FrameIn.puts, hkey]
      dsimp only [panelKeyHandler, handleCommParity]
      split_ifs <;> rfl
    | commMode => exact commMode_editor hkey s
    | sysPicNow => exact sysPicNow_editor hkey s
    | _ =>
      rw [FrameIn.puts, hkey]
      rfl

/-- Who puts this seeds the addresses, all three of them, or none. -/
structure SeedsAddresses (puts : PanelSetting → Option ShadowPut) : Prop where
  seeds : puts .etherIp = none ∨ puts .etherIp = some .seeded
  all : ∀ field : EtherField, puts field.setting = puts .etherIp

theorem seedsAddresses_none {puts : PanelSetting → Option ShadowPut}
    (hnone : ∀ field : EtherField, puts field.setting = none) : SeedsAddresses puts :=
  ⟨Or.inl (hnone .ip), fun field ↦ (hnone field).trans (hnone .ip).symm⟩

theorem SeedsAddresses.of_eq {puts puts' : PanelSetting → Option ShadowPut}
    (hputs : SeedsAddresses puts)
    (heq : ∀ field : EtherField, puts' field.setting = puts field.setting) :
    SeedsAddresses puts' := by
  have hip : puts' .etherIp = puts .etherIp := heq .ip
  exact ⟨hip ▸ hputs.seeds, fun field ↦ ((heq field).trans (hputs.all field)).trans hip.symm⟩

theorem page_seedsAddresses (page : LcdPage) (mode : ℕ) : SeedsAddresses (page.puts mode) := by
  cases page with
  | setupStdc | setupMhc | setupStde | setupMhe =>
    refine ⟨?_, fun field ↦ by cases field <;> rfl⟩
    dsimp only [LcdPage.puts]
    split_ifs
    · exact Or.inr rfl
    · exact Or.inl rfl
  | _ => exact seedsAddresses_none fun field ↦ by cases field <;> rfl

theorem entry_seedsAddresses (lcd : LcdState) :
    SeedsAddresses fun setting ↦ entryPuts setting lcd :=
  (page_seedsAddresses (setup1PageForMode lcd.sysMode) lcd.tempCommMode).of_eq
    fun field ↦ by cases field <;> rfl

/-- A frame other than an editor key seeds the addresses, or puts nothing there. -/
theorem frame_seedsAddresses {f : FrameIn} (hether : f.key ≠ some .etherKey) (s : Sys) :
    SeedsAddresses fun setting ↦ f.puts setting s := by
  unfold FrameIn.puts
  cases hkey : f.key with
  | none => exact seedsAddresses_none fun _ ↦ rfl
  | some key =>
    cases key with
    | etherKey => exact absurd hkey hether
    | setupParam => exact entry_seedsAddresses s.lcd
    | setupParamMoohan =>
      dsimp only
      split_ifs
      · exact entry_seedsAddresses s.lcd
      · exact seedsAddresses_none fun _ ↦ rfl
    | stdSetupParam =>
      dsimp only
      split_ifs
      · exact page_seedsAddresses _ _
      · exact page_seedsAddresses _ _
      · exact page_seedsAddresses _ _
      · exact seedsAddresses_none fun _ ↦ rfl
    | runMode =>
      dsimp only
      split_ifs
      · exact page_seedsAddresses _ _
      · exact seedsAddresses_none fun _ ↦ rfl
    | commMode =>
      refine (page_seedsAddresses (commModePage f.word s.lcd.lcdStatus)
        (typedCommMode f.word s.lcd.tempCommMode)).of_eq fun field ↦ ?_
      cases field <;> exact Option.or_none
    | dataSave =>
      dsimp only
      split_ifs <;> exact seedsAddresses_none fun field ↦ by cases field <;> rfl
    | sysPicNow =>
      refine seedsAddresses_none fun field ↦ if_neg fun h ↦ ?_
      cases field <;> cases h.2.2.2
    | commSpeed =>
      refine seedsAddresses_none fun field ↦ if_neg fun h ↦ ?_
      cases field <;> cases h.1
    | commParity =>
      refine seedsAddresses_none fun field ↦ if_neg fun h ↦ ?_
      cases field <;> cases h.1
    | _ => exact seedsAddresses_none fun field ↦ by cases field <;> rfl

/-! ### What reaches the editor -/

/-- The octets of an address as bytes. -/
def bytesOf (octets : Octets) : Vector UInt8 4 :=
  #v[UInt8.ofNat octets.o0, UInt8.ofNat octets.o1, UInt8.ofNat octets.o2, UInt8.ofNat octets.o3]

theorem octetsOf_bytesOf {octets : Octets} (hbytes : octets.Bytes) :
    octetsOf (bytesOf octets) = octets := by
  have h0 := UInt8.toNat_ofNat_of_lt' (show octets.o0 < 2 ^ 8 from hbytes 0)
  have h1 := UInt8.toNat_ofNat_of_lt' (show octets.o1 < 2 ^ 8 from hbytes 1)
  have h2 := UInt8.toNat_ofNat_of_lt' (show octets.o2 < 2 ^ 8 from hbytes 2)
  have h3 := UInt8.toNat_ofNat_of_lt' (show octets.o3 < 2 ^ 8 from hbytes 3)
  show Octets.mk (UInt8.ofNat octets.o0).toNat (UInt8.ofNat octets.o1).toNat
    (UInt8.ofNat octets.o2).toNat (UInt8.ofNat octets.o3).toNat = octets
  rw [h0, h1, h2, h3]

/-- What a call of the loop brings to the editor: an editor key, or a page that seeds the
addresses. -/
def Call.etherCall (call : Call) (s : Sys) : Option EtherCall :=
  match call with
  | .frame f =>
    if f.key = some .etherKey then some (.key (UInt16.ofNat f.word))
    else if f.puts .etherIp s = some .seeded then
      some (.commPage 0xFF (bytesOf s.cfg.etherIp) (bytesOf s.cfg.etherNm) (bytesOf s.cfg.etherGw))
    else none
  | _ => none

/-- The panel's state holds the editor. -/
def EditorMatches (editor : EtherEditor) (lcd : LcdState) : Prop := editor.onto lcd = lcd

theorem editorMatches_of_parts {editor : EtherEditor} {lcd : LcdState}
    (heditor : (editor.onto lcd).editor = lcd.editor)
    (hshadow : ∀ field : EtherField,
      field.setting.shadow (editor.onto lcd) = field.setting.shadow lcd) :
    EditorMatches editor lcd := by
  simp only [LcdState.editor, Prod.mk.injEq] at heditor
  obtain ⟨hfield, hinput, hip, hoctet, hnumber, hflag⟩ := heditor
  have hshadowIp := SettingVal.octets.inj (hshadow .ip)
  have hshadowNm := SettingVal.octets.inj (hshadow .nm)
  have hshadowGw := SettingVal.octets.inj (hshadow .gw)
  unfold EditorMatches EtherEditor.onto
  unfold EtherEditor.onto at hfield hinput hip hoctet hnumber hflag hshadowIp hshadowNm hshadowGw
  dsimp only at hfield hinput hip hoctet hnumber hflag hshadowIp hshadowNm hshadowGw
  rw [hfield, hinput, hip, hoctet, hnumber, hflag, hshadowIp, hshadowNm, hshadowGw]

section Matches

variable {editor : EtherEditor} {lcd lcd' : LcdState}

theorem EditorMatches.kept (hmatches : EditorMatches editor lcd)
    (heditor : lcd'.editor = lcd.editor)
    (hshadow : ∀ field : EtherField, field.setting.shadow lcd' = field.setting.shadow lcd) :
    EditorMatches editor lcd' := by
  refine editorMatches_of_parts ?_ fun field ↦ ?_
  · exact (congrArg LcdState.editor hmatches).trans heditor.symm
  · have hfield := (congrArg field.setting.shadow hmatches).trans (hshadow field).symm
    cases field <;> exact hfield

/-- A page that seeds the addresses leaves the panel's state as the editor's own page does. -/
theorem EditorMatches.seeded (hmatches : EditorMatches editor lcd) {s : Sys}
    (hlive : AddressBytes s.cfg) (heditor : lcd'.editor = editorWith (some .seeded) lcd.editor)
    (hshadow : ∀ field : EtherField, field.setting.shadow lcd' = field.setting.live s) :
    EditorMatches (renderCommPageEditor 0xFF (bytesOf s.cfg.etherIp) (bytesOf s.cfg.etherNm)
      (bytesOf s.cfg.etherGw) editor).1 lcd' := by
  refine editorMatches_of_parts ?_ fun field ↦ ?_
  · have hedited := congrArg (fun lcd ↦ editorWith (some .seeded) lcd.editor) hmatches
    exact hedited.trans heditor.symm
  · rw [hshadow field]
    cases field with
    | ip => exact congrArg SettingVal.octets (octetsOf_bytesOf hlive.ip)
    | nm => exact congrArg SettingVal.octets (octetsOf_bytesOf hlive.nm)
    | gw | none => exact congrArg SettingVal.octets (octetsOf_bytesOf hlive.gw)

end Matches

/-- Every call of the loop does to the panel's state what it brings to the editor. -/
theorem exec_editorMatches (build : Build) {editor : EtherEditor} (hsound : EtherSound editor)
    {s : Sys} (hlive : AddressBytes s.cfg) (hmatches : EditorMatches editor s.lcd) (call : Call) :
    ∃ editor', (call.etherCall s).toList.foldr etherMachine.exec (some editor) = some editor' ∧
      EtherSound editor' ∧ EditorMatches editor' (call.exec build s).lcd := by
  by_cases hframe : call.kind = .frame
  · cases call with
    | frame f =>
      by_cases hether : f.key = some .etherKey
      · obtain ⟨editor', echoes, hrun, hdone, hlist⟩ :=
          handleEtherKeyBytes_step hsound (UInt16.ofNat f.word)
        have hword : (UInt16.ofNat f.word).toNat = f.word :=
          UInt16.toNat_ofNat_of_lt' f.word_lt
        rw [hword] at hlist
        refine ⟨editor', ?_, hdone.sound, ?_⟩
        · rw [Call.etherCall, if_pos hether]
          show (handleEtherKeyBytes (UInt16.ofNat f.word) editor).map Prod.fst = _
          rw [hrun]
          rfl
        · rw [Call.exec, appLcdInputDispatch, hether]
          show editor'.onto (handleEtherKey f.word s).lcd = (handleEtherKey f.word s).lcd
          rw [hlist s hmatches.symm]
          rfl
      · have heditor := dispatch_editor hether s
        have hputs := frame_seedsAddresses hether s
        have hshadow (field : EtherField) :
            field.setting.shadow (appLcdInputDispatch f s).lcd =
              shadowWith (f.puts .etherIp s) (field.setting.live s)
                (field.setting.shadow s.lcd) := by
          rw [dispatch_shadow, hputs.all field]
        rw [Call.etherCall, if_neg hether]
        rcases hputs.seeds with hnone | hseeds
        · rw [hnone] at heditor hshadow
          rw [hnone, if_neg (by decide)]
          exact ⟨editor, rfl, hsound, hmatches.kept heditor hshadow⟩
        · rw [hseeds] at heditor hshadow
          rw [if_pos hseeds]
          have hdone := renderCommPageEditor_step hsound 0xFF (bytesOf s.cfg.etherIp)
            (bytesOf s.cfg.etherNm) (bytesOf s.cfg.etherGw)
          exact ⟨_, rfl, hdone.sound, hmatches.seeded hlive heditor hshadow⟩
    | _ => cases hframe
  · have hnone : call.etherCall s = none := by
      cases call with
      | frame f => exact absurd rfl hframe
      | _ => rfl
    have hview : SheetView LcdState.editor := fun _ ↦ rfl
    have hputs (setting : PanelSetting) : call.puts setting s = none := by
      cases call with
      | frame f => exact absurd rfl hframe
      | _ => rfl
    rw [hnone]
    refine ⟨editor, rfl, hsound, hmatches.kept (exec_sheetView hview build hframe s)
      fun field ↦ ?_⟩
    rw [exec_shadow, hputs, shadowWith_none]

/-! ### Runs -/

section Run

variable (build : Build) (boot : BootIn)

/-- What a run brings to the editor, newest first. -/
def etherCalls : List Call → List EtherCall
  | [] => []
  | call :: past => (call.etherCall (stateAfter build boot past)).toList ++ etherCalls past

theorem boot_editorMatches : EditorMatches etherEditorInit (bootState build boot).lcd := by
  refine editorMatches_of_parts ?_ fun field ↦ ?_
  · rw [bootState, lcd_applyConfig]
    show (etherEditorInit.onto _).editor = (appLcdInitMode boot.tPage _).lcd.editor
    rw [initMode_editor]
    rfl
  · rw [boot_shadow]
    cases field <;> rfl

variable {boot}

/-- Assumes: the FRAM holds bytes at power-up, and the DHCP client hands out octets. Behind every
run the buffer of the editor holds what the list in the panel's state does. -/
theorem run_editor (hfram : ByteImage boot.fram) {history : List Call}
    (hleases : ∀ call ∈ history, call.LeasesBytes) :
    ∃ editor, etherAfter (etherCalls build boot history) = some editor ∧ EtherSound editor ∧
      EditorMatches editor (stateAfter build boot history).lcd := by
  induction history with
  | nil => exact ⟨etherEditorInit, rfl, etherEditorInit_sound, boot_editorMatches build boot⟩
  | cons call past ih =>
    have hpast : ∀ older ∈ past, older.LeasesBytes := fun older hmem ↦
      hleases older (List.mem_cons_of_mem call hmem)
    obtain ⟨editor, hafter, hsound, hmatches⟩ := ih hpast
    have hlive := (run_addressesBytes build hfram hpast).live
    obtain ⟨editor', hexec, hsound', hmatches'⟩ :=
      exec_editorMatches build hsound hlive hmatches call
    refine ⟨editor', ?_, hsound', hmatches'⟩
    rw [etherAfter, etherCalls, etherMachine.after_append]
    show List.foldr etherMachine.exec (etherAfter (etherCalls build boot past)) _ = _
    rw [hafter]
    exact hexec

/-- Assumes: the FRAM holds bytes at power-up, and the DHCP client hands out octets. In every run
the text under edit fits the buffer with its zero, the index names an octet, and the number is
one. -/
theorem run_entry_bounds (hfram : ByteImage boot.fram) {history : List Call}
    (hleases : ∀ call ∈ history, call.LeasesBytes) :
    (stateAfter build boot history).lcd.etherInput.length ≤ 15 ∧
      (stateAfter build boot history).lcd.etherCurrentOctet ≤ 3 ∧
      (stateAfter build boot history).lcd.etherCurrentNumber ≤ 255 := by
  obtain ⟨editor, -, hsound, hmatches⟩ := run_editor build hfram hleases
  rw [← hmatches]
  refine ⟨?_, hsound.octet, hsound.number⟩
  show (editor.text.map UInt8.toNat).length ≤ 15
  rw [List.length_map, hsound.length]
  exact hsound.cursor

end Run

end UsCtrl
