import UsCtrl.Terminal

/-!
# The page that is shown

The firmware keeps the page it has sent in `lcd_status`, and half of the controller goes by it: the
gate of the weld cycle, SAVE and CANCEL, the faults. Every path that changes it sends the page, and
no path sends a page without changing it (`shows_page`), so the two agree as long as the panel only
does what it is told.

The panel also lands on its start page by itself and reports that. The report is answered with the
run page, but not when it comes within 200 ms of the last page change. `page_shown_iff` says that
this is the only way the two can come apart: the panel shows another page than the firmware believes
exactly if a report has been passed over and no page has been sent since.
-/

set_option autoImplicit false
set_option relaxedAutoImplicit false

namespace UsCtrl

open Foundation

/-! ### What each call does to the page -/

/-- The page after a list of outputs. -/
def pageAfter (outs : List PanelOut) (page : LcdPage) : LcdPage :=
  (lastWrite PanelOut.page? outs).getD page

@[simp] theorem pageAfter_nil (page : LcdPage) : pageAfter [] page = page := rfl

@[simp] theorem pageAfter_page (shown page : LcdPage) : pageAfter [.page shown] page = shown := rfl

theorem pageAfter_append (first second : List PanelOut) (page : LcdPage) :
    pageAfter (first ++ second) page = pageAfter second (pageAfter first page) := by
  unfold pageAfter
  rw [lastWrite_append]
  cases lastWrite PanelOut.page? second <;> rfl

/-- Outputs that turn no page. -/
theorem pageAfter_of_none {outs : List PanelOut} (hnone : ∀ out ∈ outs, out.page? = none)
    (page : LcdPage) : pageAfter outs page = page := by
  rw [pageAfter, lastWrite_eq_none _ hnone]
  rfl

/-- The end of the paths that leave the warning page. -/
theorem restoreShows_page (s : Sys) (page : LcdPage) : pageAfter (restoreShows s) page =
    if s.input.estopActive = false ∧ s.lcd.errorStatus.any = false
    then runPageForMode s.lcd.sysMode else page := by
  unfold restoreShows
  simp only [lcdMayRestoreRunPage_iff]
  split_ifs <;> rfl

/-! ### Frames -/

theorem keyReset_page (now : ℕ) (s : Sys) :
    pageAfter (handleKeyResetShows now s) s.lcd.lcdStatus =
      (handleKeyReset now s).lcd.lcdStatus := by
  have hlcd : (appLcdHookUsCommand .reset now s).lcd = s.lcd := lcd_regCommand .reset .touch now s
  unfold handleKeyResetShows handleKeyReset
  dsimp only
  rw [hlcd]
  split_ifs with hbits hmay
  · rw [pageAfter_append, restoreShows_page, if_pos ((lcdMayRestoreRunPage_iff _).mp hmay)]
    rfl
  · rw [pageAfter_append, restoreShows_page,
      if_neg fun h ↦ hmay ((lcdMayRestoreRunPage_iff _).mpr h)]
    rfl
  · rw [hlcd]
    rfl

theorem keyErrorReset_page (data now : ℕ) (s : Sys) :
    pageAfter (handleKeyErrorResetShows data now s) s.lcd.lcdStatus =
      (handleKeyErrorReset data now s).lcd.lcdStatus := by
  have hlcd : (appLcdHookUsCommand .reset now s).lcd = s.lcd := lcd_regCommand .reset .touch now s
  unfold handleKeyErrorResetShows handleKeyErrorReset
  dsimp only
  rw [hlcd]
  split_ifs with hword hbit hmay
  · rfl
  · rw [restoreShows_page, if_pos ((lcdMayRestoreRunPage_iff _).mp hmay)]
    rfl
  · rw [restoreShows_page, if_neg fun h ↦ hmay ((lcdMayRestoreRunPage_iff _).mpr h)]
  · rw [hlcd]
    rfl

theorem stdSetupParam_page (data tPage : ℕ) (s : Sys) :
    pageAfter (handleStdSetupParamShows data s) s.lcd.lcdStatus =
      (handleStdSetupParam data tPage s).lcd.lcdStatus := by
  have hgoto (page : LcdPage) : (gotoPage page tPage s).lcd.lcdStatus = page :=
    congrArg Screen.page (gotoPage_screen page tPage s).1
  unfold handleStdSetupParamShows handleStdSetupParam
  split_ifs <;> first | rfl | exact (hgoto _).symm

theorem runMode_page (data tPage : ℕ) (s : Sys) :
    pageAfter (handleRunModeShows data) s.lcd.lcdStatus =
      (handleRunMode data tPage s).lcd.lcdStatus := by
  unfold handleRunModeShows handleRunMode
  split_ifs <;> rfl

theorem dataSave_page (f : FrameIn) (s : Sys) :
    pageAfter (if f.word = 1 then dataSaveCommitShows s
      else [.page (cancelPage { s.lcd with tempCommMode := 0xFF }).lcdStatus]) s.lcd.lcdStatus =
      (if f.word = 1 then dataSaveCommit f.bus f.tPage s
        else dataSaveCancel f.bus f.tPage s).lcd.lcdStatus := by
  split_ifs
  · have hpage : (dataSaveCommit f.bus f.tPage s).lcd.lcdStatus =
        (dataSaveGroup s).lcd.lcdStatus :=
      congrArg Screen.page (changePage_screen f.tPage (saveConfig f.bus (dataSaveGroup s))).1
    rw [dataSaveCommitShows, pageAfter_append, hpage]
    rfl
  · have hpage : (dataSaveCancel f.bus f.tPage s).lcd.lcdStatus = (cancelPage { s.lcd with
        tempCommMode := 0xFF
        sysMode := if s.lcd.lcdStatus = .modelSetup
          then (appConfigLoad f.bus s.fram).cfg.modelType else s.lcd.sysMode }).lcdStatus :=
      congrArg Screen.page (changePage_screen f.tPage { s with
        cfg := (appConfigLoad f.bus s.fram).cfg
        fram := (appConfigLoad f.bus s.fram).fram
        lcd := cancelPage { s.lcd with
          tempCommMode := 0xFF
          sysMode := if s.lcd.lcdStatus = .modelSetup
            then (appConfigLoad f.bus s.fram).cfg.modelType else s.lcd.sysMode } }).1
    rw [hpage, pageAfter_page, (cancelPage_turn _).2.2.2, (cancelPage_turn _).2.2.2]

theorem sysPicNow_page (data tKey tPage : ℕ) (s : Sys) :
    pageAfter (handleSysPicNowShows data tKey s) s.lcd.lcdStatus =
      (handleSysPicNow data tKey tPage s).lcd.lcdStatus := by
  unfold handleSysPicNowShows handleSysPicNow
  split_ifs
  · exact (congrArg Screen.page (changePage_screen tPage { appLcdInputRunKeyReanchor s with
      lcd := { (appLcdInputRunKeyReanchor s).lcd with
        lcdStatus := runPageForMode (appLcdInputRunKeyReanchor s).cfg.modelType
        sysMode := (appLcdInputRunKeyReanchor s).cfg.modelType
        tempCommMode := 0xFF } }).1).symm
  · rfl

theorem runToggle_page (now : ℕ) (s : Sys) :
    (handleRunToggle now s).lcd.lcdStatus = s.lcd.lcdStatus := by
  have hcommand (cmd : UsCmd) (t : Sys) : (appLcdHookUsCommand cmd now t).lcd = t.lcd :=
    lcd_regCommand cmd .touch now t
  have hpot (t : Sys) : (appLcdHookSetPot s.cfg.outputPower t).lcd = t.lcd := rfl
  unfold handleRunToggle
  dsimp only
  split_ifs
  · rw [hpot, hcommand]
  · rw [hcommand]

theorem commMode_page (data tPage : ℕ) (s : Sys) :
    pageAfter [.page (commModePage data s.lcd.lcdStatus)] s.lcd.lcdStatus =
      (handleCommMode data tPage s).lcd.lcdStatus := by
  have hgoto (page : LcdPage) (t : Sys) : (gotoPage page tPage t).lcd.lcdStatus = page :=
    congrArg Screen.page (gotoPage_screen page tPage t).1
  unfold commModePage handleCommMode
  split_ifs <;> exact (hgoto _ _).symm

theorem frame_page (f : FrameIn) (s : Sys) :
    pageAfter (f.shows s) s.lcd.lcdStatus = (appLcdInputDispatch f s).lcd.lcdStatus := by
  have hgoto (page : LcdPage) (t : Sys) : (gotoPage page f.tPage t).lcd.lcdStatus = page :=
    congrArg Screen.page (gotoPage_screen page f.tPage t).1
  have hlong (enter : Sys → Sys) (page : LcdPage)
      (henter : ∀ ms vp, (enter (markPress ms vp s)).lcd.lcdStatus = page) :
      pageAfter (if (longPressReleased f.vpAddr f.word f.tKey s.lcd).2 then [.page page] else [])
        s.lcd.lcdStatus = (longPressKey f.vpAddr f.word f.tKey enter s).lcd.lcdStatus := by
    obtain ⟨ms, mark, hmarked⟩ := longPressKey_marked f.vpAddr f.word f.tKey enter s
    rw [hmarked]
    split_ifs
    · exact (henter ms mark).symm
    · rfl
  unfold FrameIn.shows appLcdInputDispatch
  cases hkey : f.key with
  | none => rfl
  | some key =>
    show _ = (panelKeyHandler key f.word f s).lcd.lcdStatus
    cases key with
    | setupParam => exact (hgoto (setup1PageForMode s.lcd.sysMode) s).symm
    | setupParamMoohan =>
      exact hlong _ _ fun ms vp ↦ hgoto (setup1PageForMode s.lcd.sysMode) (markPress ms vp s)
    | setupModel => exact hlong _ _ fun _ _ ↦ rfl
    | stdSetupParam => exact stdSetupParam_page f.word f.tPage s
    | runMode => exact runMode_page f.word f.tPage s
    | keyMulti =>
      dsimp only [panelKeyHandler]
      unfold handleKeyMulti
      have hcommand (cmd : UsCmd) (t : Sys) : (appLcdHookUsCommand cmd f.tCmd t).lcd = t.lcd :=
        lcd_regCommand cmd .touch f.tCmd t
      split_ifs
      · exact keyReset_page f.tCmd s
      · rw [hcommand]; rfl
      · exact (congrArg LcdState.lcdStatus (hcommand .start s)).symm
      · rw [hcommand]; rfl
      · exact (runToggle_page f.tCmd s).symm
      · rfl
    | keyErrorReset => exact keyErrorReset_page f.word f.tCmd s
    | dataSave => exact dataSave_page f s
    | commSpeed =>
      dsimp only [panelKeyHandler, handleCommSpeed]
      split_ifs <;> rfl
    | commParity =>
      dsimp only [panelKeyHandler, handleCommParity]
      split_ifs <;> rfl
    | commMode => exact commMode_page f.word f.tPage s
    | etherKey => exact (congrArg Screen.page (etherKey_screen f.word s).1).symm
    | sysPicNow => exact sysPicNow_page f.word f.tKey f.tPage s
    | _ => rfl

/-! ### Ticks -/

/-- A level that has dropped leaves the warning page as the shown fault and the stop allow. -/
theorem setOverload_off_page {s : Sys} {lcd : LcdState} {estop : Bool} (hlcd : s.lcd = lcd)
    (hestop : s.input.estopActive = estop) :
    pageAfter (appLcdSetOverloadShows false s) lcd.lcdStatus =
      (Screen.released { lcd.screen with shown := { lcd.errorStatus with ovld := false } } estop
        lcd.sysMode).page := by
  subst hlcd hestop
  have hicon (outs : List PanelOut) : pageAfter (.icon .overload false :: outs) s.lcd.lcdStatus =
      pageAfter outs s.lcd.lcdStatus := by
    rw [← List.singleton_append, pageAfter_append]
    rfl
  unfold appLcdSetOverloadShows Screen.released
  rw [if_neg Bool.false_ne_true]
  dsimp only
  rw [hicon]
  by_cases hpage : s.lcd.lcdStatus = .warning
  · rw [if_pos hpage, restoreShows_page]
    split_ifs with hfree hheld hheld
    · rfl
    · exact absurd ⟨hpage, hfree⟩ hheld
    · exact absurd hheld.2 hfree
    · rfl
  · rw [if_neg hpage, if_neg fun h ↦ hpage h.1]
    rfl

/-- The outputs of an overload tick, by its event: the level is low wherever it drops, so that the
paths of the high level have not run before the drop is shown. -/
theorem appOverloadTickShows_eq (tick : OverloadTickIn) (s : Sys) :
    appOverloadTickShows tick s =
      if overloadDue tick s = false then []
      else if (overloadEvent tick s).assert then [.message .overLoad, .icon .overload true]
      else if (overloadEvent tick s).deassert then
        appLcdSetOverloadShows false (releasePublished (overloadSample tick s).1)
      else [] := by
  have hsample : (overloadSample tick s).2 = overloadEvent tick s := rfl
  unfold appOverloadTickShows
  dsimp only
  rw [hsample]
  have hevent : overloadEvent tick s = ⟨(overloadFsmStep tick.raw s.overload.fsm).1.active,
      (overloadFsmStep tick.raw s.overload.fsm).1.active && !s.overload.fsm.active,
      !(overloadFsmStep tick.raw s.overload.fsm).1.active && s.overload.fsm.active⟩ :=
    overloadFsmStep_event tick.raw s.overload.fsm
  rw [hevent]
  cases overloadDue tick s <;> cases (overloadFsmStep tick.raw s.overload.fsm).1.active <;>
    cases s.overload.fsm.active <;> rfl

theorem overloadTick_page (tick : OverloadTickIn) (s : Sys) :
    pageAfter (appOverloadTickShows tick s) s.lcd.lcdStatus =
      (appOverloadTick tick s).lcd.lcdStatus := by
  have hscreen : (appOverloadTick tick s).lcd.lcdStatus = _ :=
    congrArg Screen.page (overloadTick_screen tick s)
  have hdeassert : pageAfter (appLcdSetOverloadShows false
      (releasePublished (overloadSample tick s).1)) s.lcd.lcdStatus =
        (Screen.released { s.lcd.screen with shown := { s.lcd.errorStatus with ovld := false } }
          s.input.estopActive s.lcd.sysMode).page :=
    setOverload_off_page (lcd_releasePublished _) ((releasePublished_ends _).frame .cycle).estop
  rw [hscreen, appOverloadTickShows_eq]
  split_ifs
  · rfl
  · rfl
  · exact hdeassert
  · rfl

/-- The outputs of an input tick, by its event: a tick that enters the stop does not leave it. -/
theorem appInputTickShows_eq (tick : InputTickIn) (s : Sys) :
    appInputTickShows tick s =
      if inputDue tick s = false then []
      else if (inputEvent tick s).estopEnter then [.message .estop, .page .warning]
      else if s.input.estopActive = true ∧ (inputEvent tick s).estopActive = false ∧
          s.lcd.errorStatus.any = false then [.page (runPageForMode s.lcd.sysMode)]
      else [] := by
  have hsample : (inputSample tick s).2 = inputEvent tick s := rfl
  have hlevel : (inputSample tick s).1.input.estopActive = (inputEvent tick s).estopActive := rfl
  have hlcd : (inputSample tick s).1.lcd = s.lcd := rfl
  unfold appInputTickShows
  dsimp only
  rw [hsample]
  cases inputDue tick s with
  | false => rfl
  | true =>
    rw [if_pos rfl, if_neg (show ¬ (true = false) by decide)]
    cases henter : (inputEvent tick s).estopEnter with
    | true =>
      have hactive : (inputEvent tick s).estopActive = true := inputFsmStep_enter _ _ henter
      simp only [hactive, Bool.true_eq_false, and_false, if_false, if_true, List.append_nil]
      rfl
    | false =>
      simp only [Bool.false_eq_true, if_false, List.nil_append, appLcdSetEstopShows,
        lcdMayRestoreRunPage_iff, hlevel, hlcd]
      by_cases hleft : s.input.estopActive = true ∧ (inputEvent tick s).estopActive = false
      · rw [if_pos hleft]
        simp only [hleft, true_and]
      · rw [if_neg hleft]
        exact (if_neg fun h ↦ hleft ⟨h.1, h.2.1⟩).symm

theorem inputTick_page (tick : InputTickIn) (s : Sys) :
    pageAfter (appInputTickShows tick s) s.lcd.lcdStatus =
      (appInputTick tick s).lcd.lcdStatus := by
  have hscreen : (appInputTick tick s).lcd.lcdStatus = _ :=
    congrArg Screen.page (inputTick_screen tick s)
  rw [hscreen, appInputTickShows_eq]
  split_ifs <;> rfl

theorem lcdTick_page (s : Sys) :
    pageAfter (appLcdTickFaultShows s) s.lcd.lcdStatus = (appLcdTick s).lcd.lcdStatus := by
  have hscreen : (appLcdTick s).lcd.lcdStatus = _ := congrArg Screen.page (lcdTick_screen s)
  have hedge : lcdFaultEdge s = true ↔
      s.measure.errorStatus.any = true ∧ s.lcd.prevErr.any = false := by
    simp [lcdFaultEdge]
  rw [hscreen, appLcdTickFaultShows]
  dsimp only
  by_cases hrise : s.measure.errorStatus.any = true ∧ s.lcd.prevErr.any = false
  · rw [if_pos hrise, if_pos (hedge.mpr hrise)]
    rfl
  · rw [if_neg hrise, if_neg (fun h ↦ hrise (hedge.mp h))]
    by_cases hfall : s.measure.errorStatus.any = false ∧ s.lcd.prevErr.any = true
    · rw [if_pos hfall, if_pos hfall, appLcdFaultClearedShows, Screen.released]
      by_cases hpage : s.lcd.lcdStatus = .warning
      · rw [if_pos hpage, restoreShows_page]
        split_ifs with hfree hheld hheld
        · rfl
        · exact absurd ⟨hpage, hfree⟩ hheld
        · exact absurd hheld.2 hfree
        · rfl
      · rw [if_neg hpage, if_neg fun h ↦ hpage h.1]
        rfl
    · rw [if_neg hfall, if_neg hfall]
      rfl

/-- The calls off the screen send no page. -/
theorem page?_of_offScreen (build : Build) {call : Call} (hoff : call.onScreen = false) (s : Sys) :
    ∀ out ∈ call.shows build s, out.page? = none := by
  intro out hout
  cases call with
  | weldTick tick =>
    unfold Call.shows appWeldTickShows at hout
    dsimp only at hout
    split_ifs at hout <;> simp at hout
    rw [hout]
    rfl
  | seekResetTick now =>
    have hone {on : Bool} {shown : PanelOut} (h : out ∈ if on then [shown] else []) :
        out = shown := by
      cases on with
      | true => exact List.mem_singleton.mp h
      | false => cases h
    unfold Call.shows appSeekResetTickShows at hout
    dsimp only at hout
    by_cases hdue : seekResetDue now s = true
    · rw [if_pos hdue] at hout
      simp only [List.mem_append] at hout
      rcases hout with ((hout | hout) | hout) | hout <;> rw [hone hout] <;> rfl
    · rw [if_neg hdue] at hout
      cases hout
  | modbusTick input =>
    unfold Call.shows appModbusTickShows at hout
    dsimp only at hout
    split at hout
    · split_ifs at hout <;> simp at hout
      rw [hout]
      rfl
    · cases hout
  | frame | lcdTick | overloadTick | inputTick => cases hoff
  | _ => cases hout

/-- What a call sends turns the page to the one it leaves in `lcd_status`. -/
theorem shows_page (build : Build) (call : Call) (s : Sys) :
    pageAfter (call.shows build s) s.lcd.lcdStatus = (call.exec build s).lcd.lcdStatus := by
  cases hon : call.onScreen with
  | false =>
    rw [pageAfter_of_none (page?_of_offScreen build hon s)]
    exact (congrArg Screen.page (exec_screen build hon s)).symm
  | true =>
    cases call with
    | frame f => exact frame_page f s
    | lcdTick => exact lcdTick_page s
    | overloadTick tick => exact overloadTick_page tick s
    | inputTick tick => exact inputTick_page tick s
    | _ => cases hon

/-! ### The panel's own page -/

/-- The firmware never goes back to the logo. -/
theorem PageTurn.ne_logo {standard : Bool} {lcd lcd' : LcdState} (h : PageTurn standard lcd lcd')
    (hpage : lcd.lcdStatus ≠ .logo) : lcd'.lcdStatus ≠ .logo := by
  intro hlogo
  cases h with
  | stay hstay => exact hpage (hstay.symm.trans hlogo)
  | within family _ hafter => rw [hlogo] at hafter; cases hafter
  | setup hsetup =>
    rw [hlogo, setup1PageForMode] at hsetup
    split_ifs at hsetup
  | model hmodel => rw [hlogo] at hmodel; cases hmodel
  | standard _ hafter => rw [hlogo] at hafter; cases hafter
  | run hrun => rcases hrun with hrun | hrun <;> rw [hlogo] at hrun <;> cases hrun

theorem runPageForMode_ne_logo (sysMode : ℕ) : runPageForMode sysMode ≠ .logo := by
  unfold runPageForMode
  split_ifs <;> decide

theorem Screen.released_ne_logo {screen : Screen} (estop : Bool) (sysMode : ℕ)
    (hpage : screen.page ≠ .logo) : (screen.released estop sysMode).page ≠ .logo := by
  unfold Screen.released
  split_ifs
  · exact runPageForMode_ne_logo sysMode
  · exact hpage

theorem lcdStatus_ne_logo (build : Build) (boot : BootIn) (history : List Call) :
    (stateAfter build boot history).lcd.lcdStatus ≠ .logo := by
  refine (controller build boot).invariant (fun s ↦ s.lcd.lcdStatus ≠ .logo) ?_ ?_ history
  · have hpage : (bootState build boot).lcd.lcdStatus = _ :=
      congrArg Screen.page (bootState_screen build boot)
    show (bootState build boot).lcd.lcdStatus ≠ .logo
    rw [hpage]
    exact runPageForMode_ne_logo _
  · intro call s hpage
    cases hon : call.onScreen with
    | false =>
      have hkept : (call.exec build s).lcd.lcdStatus = s.lcd.lcdStatus :=
        congrArg Screen.page (exec_screen build hon s)
      exact fun h ↦ hpage (hkept.symm.trans h)
    | true =>
      cases call with
      | frame f => exact (dispatch_screen f s).turn.ne_logo hpage
      | lcdTick =>
        have hscreen : (appLcdTick s).lcd.lcdStatus = _ := congrArg Screen.page (lcdTick_screen s)
        show (appLcdTick s).lcd.lcdStatus ≠ .logo
        rw [hscreen]
        split_ifs
        · exact LcdPage.noConfusion
        · exact Screen.released_ne_logo _ _ hpage
        · exact hpage
      | overloadTick tick =>
        have hscreen : (appOverloadTick tick s).lcd.lcdStatus = _ :=
          congrArg Screen.page (overloadTick_screen tick s)
        show (appOverloadTick tick s).lcd.lcdStatus ≠ .logo
        rw [hscreen]
        split_ifs
        · exact hpage
        · exact hpage
        · exact Screen.released_ne_logo _ _ hpage
        · exact hpage
      | inputTick tick =>
        have hscreen : (appInputTick tick s).lcd.lcdStatus = _ :=
          congrArg Screen.page (inputTick_screen tick s)
        show (appInputTick tick s).lcd.lcdStatus ≠ .logo
        rw [hscreen]
        split_ifs
        · exact hpage
        · exact LcdPage.noConfusion
        · exact runPageForMode_ne_logo _
        · exact hpage
      | _ => cases hon

/-! ### The boot is over -/

theorem changePage_booted (tPage : ℕ) (s : Sys) :
    (appLcdChangePage tPage s).lcd.bootComplete = s.lcd.bootComplete := by
  have hcomm : (renderCommPage s).lcd.bootComplete = s.lcd.bootComplete := by
    unfold renderCommPage
    dsimp only
    split_ifs <;> rfl
  show (renderPage s.lcd.lcdStatus s).lcd.bootComplete = _
  cases s.lcd.lcdStatus <;> first | rfl | exact hcomm

theorem booted_of_sheet {lcd lcd' : LcdState} (h : lcd'.sheet = lcd.sheet) :
    lcd'.bootComplete = lcd.bootComplete := by
  have hbooted := congrArg LcdState.bootComplete h
  exact hbooted

theorem dispatch_booted (f : FrameIn) (s : Sys) :
    (appLcdInputDispatch f s).lcd.bootComplete = s.lcd.bootComplete := by
  have hgoto (page : LcdPage) (t : Sys) :
      (gotoPage page f.tPage t).lcd.bootComplete = t.lcd.bootComplete :=
    changePage_booted f.tPage { t with lcd := { t.lcd with lcdStatus := page } }
  have henter (t : Sys) :
      (handleSetupParamEnter f.tPage t).lcd.bootComplete = t.lcd.bootComplete :=
    hgoto (setup1PageForMode t.lcd.sysMode) t
  have hlong (enter : Sys → Sys) (henter : ∀ t, (enter t).lcd.bootComplete = t.lcd.bootComplete) :
      (longPressKey f.vpAddr f.word f.tKey enter s).lcd.bootComplete = s.lcd.bootComplete := by
    obtain ⟨ms, mark, hmarked⟩ := longPressKey_marked f.vpAddr f.word f.tKey enter s
    rw [hmarked]
    split_ifs
    · exact henter (markPress ms mark s)
    · rfl
  unfold appLcdInputDispatch
  cases hkey : f.key with
  | none => rfl
  | some key =>
    show (panelKeyHandler key f.word f s).lcd.bootComplete = _
    cases key with
    | setupParam => exact henter s
    | setupParamMoohan => exact hlong _ henter
    | setupModel => exact hlong _ fun _ ↦ rfl
    | stdSetupParam =>
      dsimp only [panelKeyHandler]
      unfold handleStdSetupParam
      split_ifs <;> first | rfl | exact hgoto _ s
    | runMode =>
      dsimp only [panelKeyHandler]
      unfold handleRunMode
      split_ifs
      · exact hgoto _ { s with cfg := { s.cfg with runMode := 0 } }
      · exact hgoto _ { s with cfg := { s.cfg with runMode := 1 } }
      · rfl
    | keyMulti => exact booted_of_sheet (keyMulti_sheet f.word f.tCmd s)
    | keyErrorReset => exact booted_of_sheet (keyErrorReset_sheet f.word f.tCmd s)
    | dataSave =>
      dsimp only [panelKeyHandler]
      split_ifs
      · have hgroup := congrArg LcdState.bootComplete (dataSaveGroup_offSave s)
        exact (changePage_booted f.tPage (saveConfig f.bus (dataSaveGroup s))).trans hgroup
      · rw [dataSaveCancel, changePage_booted]
        dsimp only [cancelPage]
        cases s.lcd.lcdStatus <;> rfl
    | commSpeed =>
      dsimp only [panelKeyHandler, handleCommSpeed]
      split_ifs <;> rfl
    | commParity =>
      dsimp only [panelKeyHandler, handleCommParity]
      split_ifs <;> rfl
    | commMode =>
      dsimp only [panelKeyHandler]
      rw [handleCommMode_eq]
      exact hgoto _ _
    | etherKey =>
      have hether := congrArg LcdState.bootComplete (etherKey_offEther f.word s)
      exact hether
    | sysPicNow =>
      have hanchor := congrArg LcdState.bootComplete (lcd_reanchor s)
      dsimp only [panelKeyHandler]
      unfold handleSysPicNow
      split_ifs
      · rw [appLcdInitMode, changePage_booted]
        exact hanchor
      · rfl
    | _ => rfl

/-- The loop runs with the boot of the panel done. -/
theorem booted_run (build : Build) (boot : BootIn) (history : List Call) :
    (stateAfter build boot history).lcd.bootComplete = true := by
  refine (controller build boot).invariant (fun s ↦ s.lcd.bootComplete = true) ?_ ?_ history
  · exact congrArg LcdState.bootComplete
      (lcd_applyConfig build boot.sensDn (appInit boot (resetState build boot)))
  · intro call s hbooted
    by_cases hoff : call.offDesk = true
    · exact (booted_of_sheet (exec_desk build hoff s).sheet).trans hbooted
    · cases call with
      | frame f => exact (dispatch_booted f s).trans hbooted
      | weldTick tick => exact (booted_of_sheet (weldTick_desk tick s).sheet).trans hbooted
      | ethTick tick =>
        exact (congrArg LcdState.bootComplete (ethTick_desk tick s).2.2.2).trans hbooted
      | modbusTick input =>
        exact (congrArg LcdState.bootComplete (modbusTick_desk build input s).sheet).trans hbooted
      | _ => exact absurd rfl hoff

/-! ### The display machine -/

/-- The outputs of the display machine: its two icons, the bars and the measured values. -/
def PanelOut.ofDisp : PanelOut → Bool
  | .icon .run _ | .icon .remote _ | .level _ _ | .time _ _ | .values _ _ _ | .energy _ => true
  | _ => false

theorem dispStep_ofDisp (remoteOn : Bool) (m : LcdMeasure) (outputPower : ℕ) (disp : DispState) :
    ∀ out ∈ (appLcdDispStep remoteOn m outputPower disp).2, out.ofDisp = true := by
  intro out hout
  unfold appLcdDispStep at hout
  dsimp only at hout
  rcases List.mem_append.mp hout with hedge | hswitch
  · have hone {cond : Prop} [Decidable cond] {shown : PanelOut}
        (h : out ∈ if cond then [shown] else []) : out = shown := by
      split_ifs at h
      · exact List.mem_singleton.mp h
      · cases h
    rcases List.mem_append.mp hedge with hrun | hremote
    · rw [hone hrun]
      rfl
    · rw [hone hremote]
      rfl
  · unfold dispSwitch at hswitch
    split at hswitch <;> simp [dispSendVal] at hswitch
    any_goals (rw [hswitch]; rfl)
    rcases hswitch with rfl | rfl | rfl <;> rfl

theorem disp_ofDisp (build : Build) (timed : TimedCall) (t : Terminal) :
    ∀ out ∈ (timed.disp build t).2, out.ofDisp = true := by
  intro out hout
  unfold TimedCall.disp at hout
  split at hout
  · unfold dispTick at hout
    split_ifs at hout
    · exact dispStep_ofDisp _ _ _ _ out hout
    · cases hout
  · split_ifs at hout <;> cases hout
  · cases hout

/-! ### Runs -/

section Runs

variable (build : Build) (boot : BootIn)

/-- The newest call sent no page. -/
def noPageSent : Past Call :=
  newest build boot fun call s _ ↦ lastWrite PanelOut.page? (call.shows build s) = none

/-- The newest call told that the panel has landed on its start page, less than 200 ms behind the
last page change. -/
def landingPassedOver : Past Call :=
  newest build boot fun call s _ ↦
    match call with
    | .frame f => f.lands = true ∧ elapsedMs f.tKey s.lcd.lastSetPageMs < 200
    | _ => False

variable {build boot}

/-- A landing that is not passed over is answered with a page. -/
theorem lands_answered {call : Call} {past : List Call} (hlands : call.lands = true)
    (hnone : lastWrite PanelOut.page? (call.shows build (stateAfter build boot past)) = none) :
    landingPassedOver build boot (call :: past) := by
  cases call with
  | frame f =>
    refine ⟨hlands, ?_⟩
    by_contra hlate
    have hkey : f.key = some .sysPicNow ∧ f.word = 0 := by
      simpa [Call.lands, FrameIn.lands] using hlands
    have hshows : (Call.frame f).shows build (stateAfter build boot past) =
        appLcdInitModeShows (appLcdInputRunKeyReanchor (stateAfter build boot past)) := by
      show f.shows _ = _
      unfold FrameIn.shows
      rw [hkey.1]
      exact if_pos ⟨hkey.2, booted_run build boot past, not_lt.mp hlate⟩
    rw [hshows] at hnone
    cases hnone
  | _ => cases hlands

/-- A landing that is passed over sends nothing. -/
theorem passedOver_silent {call : Call} {past : List Call}
    (hpassed : landingPassedOver build boot (call :: past)) :
    call.lands = true ∧
      lastWrite PanelOut.page? (call.shows build (stateAfter build boot past)) = none := by
  cases call with
  | frame f =>
    obtain ⟨hlands, hearly⟩ : f.lands = true ∧
      elapsedMs f.tKey (stateAfter build boot past).lcd.lastSetPageMs < 200 := hpassed
    have hkey : f.key = some .sysPicNow ∧ f.word = 0 := by
      simpa [FrameIn.lands] using hlands
    have hshows : (Call.frame f).shows build (stateAfter build boot past) = [] := by
      show f.shows _ = _
      unfold FrameIn.shows
      rw [hkey.1]
      exact if_neg fun h ↦ absurd h.2.2 (not_le.mpr hearly)
    rw [hshows]
    exact ⟨hlands, rfl⟩
  | _ => exact hpassed.elim

/-- What a call leaves on the panel: the page it sends, or that of the panel's own move. -/
theorem exec_viewPage (build : Build) (timed : TimedCall) (t : Terminal) :
    (timed.exec build t).view.page = pageAfter (timed.call.shows build t.sys)
      (if timed.call.lands then .logo else t.view.page) := by
  have hdisp : ∀ out ∈ (timed.disp build t).2, out.page? = none := by
    intro out hout
    have hkind := disp_ofDisp build timed t out hout
    cases out with
    | page => cases hkind
    | _ => rfl
  show ((t.view.land timed.call).drawAll (timed.outs build t)).page = _
  rw [drawAll_page]
  show pageAfter (timed.outs build t) _ = _
  rw [TimedCall.outs, pageAfter_append, pageAfter_of_none hdisp, PanelView.land]
  split_ifs <;> rfl

/-- The machine mode is that of the loaded model. -/
theorem bootState_sysMode (build : Build) (boot : BootIn) :
    (bootState build boot).lcd.sysMode = (bootState build boot).cfg.modelType := by
  have hmode := changePage_screen boot.tPage
    { (appLcdHookSetPot (appConfigLoad boot.bus boot.fram).cfg.outputPower
        { resetState build boot with
          cfg := (appConfigLoad boot.bus boot.fram).cfg
          fram := (appConfigLoad boot.bus boot.fram).fram }) with
      lcd := { lcdStateInit with
        lcdStatus := runPageForMode (appConfigLoad boot.bus boot.fram).cfg.modelType
        sysMode := (appConfigLoad boot.bus boot.fram).cfg.modelType
        tempCommMode := 0xFF } }
  have hlcd := lcd_applyConfig build boot.sensDn (appInit boot (resetState build boot))
  rw [(boot_loaded build boot).1]
  exact (congrArg LcdState.sysMode hlcd).trans hmode.2

/-- The loop is entered with the run page shown. -/
theorem bootTerminal_page (build : Build) (boot : BootIn) (held : PanelView) (resends : ℕ) :
    (bootTerminal build boot held resends).view.page =
      (bootState build boot).lcd.lcdStatus := by
  have hpage : (bootState build boot).lcd.lcdStatus =
      runPageForMode (bootState build boot).cfg.modelType := by
    rw [← bootState_sysMode]
    exact congrArg Screen.page (bootState_screen build boot)
  have hresent (page : LcdPage) : pageAfter (List.replicate resends (.page page)) page = page := by
    induction resends with
    | zero => rfl
    | succ resends ih =>
      rw [List.replicate_succ, ← List.singleton_append, pageAfter_append]
      exact ih
  show (held.drawAll _).page = _
  rw [drawAll_page, hpage]
  show pageAfter (.page .logo :: appLcdInitModeShows (bootState build boot) ++ _) held.page = _
  rw [pageAfter_append]
  exact hresent (runPageForMode (bootState build boot).cfg.modelType)

/-- The panel shows the page the firmware believes in, except behind a landing that has been passed
over, as long as no page has been sent since; then it shows its start page. -/
theorem page_shown_iff (held : PanelView) (resends : ℕ) (history : List TimedCall) :
    let t := (terminal build boot held resends).after history
    let strayed := since (noPageSent build boot) (landingPassedOver build boot)
      (history.map TimedCall.call)
    (t.view.page = t.sys.lcd.lcdStatus ↔ ¬ strayed) ∧ (strayed → t.view.page = .logo) := by
  dsimp only
  have hpage : (since (noPageSent build boot) (landingPassedOver build boot)
        (history.map TimedCall.call) →
        ((terminal build boot held resends).after history).view.page = .logo) ∧
      (¬ since (noPageSent build boot) (landingPassedOver build boot)
        (history.map TimedCall.call) →
        ((terminal build boot held resends).after history).view.page =
          (stateAfter build boot (history.map TimedCall.call)).lcd.lcdStatus) := by
    induction history with
    | nil => exact ⟨fun h ↦ absurd h (since_nil _ _), fun _ ↦ bootTerminal_page _ _ _ _⟩
    | cons timed past ih =>
      have hview := exec_viewPage build timed ((terminal build boot held resends).after past)
      have hsent := shows_page build timed.call (stateAfter build boot (past.map TimedCall.call))
      rw [terminal_sys] at hview
      rw [List.map_cons, Machine.after_cons, since_cons]
      generalize (terminal build boot held resends).after past = before at hview ih
      show (_ → (timed.exec build before).view.page = .logo) ∧
        (_ → (timed.exec build before).view.page = (timed.call.exec build
          (stateAfter build boot (past.map TimedCall.call))).lcd.lcdStatus)
      rw [hview, ← hsent]
      unfold pageAfter
      cases hlast : lastWrite PanelOut.page?
          (timed.call.shows build (stateAfter build boot (past.map TimedCall.call))) with
      | some shown =>
        -- a page is sent, so that panel and firmware agree again
        refine ⟨?_, fun _ ↦ rfl⟩
        rintro (hpassed | ⟨hsilent, -⟩)
        · rw [(passedOver_silent hpassed).2] at hlast
          cases hlast
        · rw [show lastWrite _ _ = none from hsilent] at hlast
          cases hlast
      | none =>
        cases hlands : timed.call.lands with
        | true =>
          have hpassed := lands_answered hlands hlast
          exact ⟨fun _ ↦ rfl, fun h ↦ absurd (Or.inl hpassed) h⟩
        | false =>
          refine ⟨?_, fun hnot ↦ ih.2 fun h ↦ hnot (Or.inr ⟨hlast, h⟩)⟩
          rintro (hpassed | ⟨-, hpast⟩)
          · rw [(passedOver_silent hpassed).1] at hlands
            cases hlands
          · exact ih.1 hpast
  rw [terminal_sys]
  refine ⟨⟨fun hshown hstray ↦ ?_, hpage.2⟩, hpage.1⟩
  rw [hpage.1 hstray] at hshown
  exact lcdStatus_ne_logo build boot (history.map TimedCall.call) hshown.symm

end Runs

end UsCtrl
