import UsCtrl.PanelView
import UsCtrl.PanelEcho

/-!
# The controller with its panel

The outputs of every call (`Call.shows`), and the machine of the controller, its display machine and
what the panel holds (`terminal`). Its runs are runs of the controller (`terminal_sys`), with the
display machine and the panel read off them.

`app_lcd_tick` advances the display machine behind a clock gate of its own, so a call comes with the
two clock reads this takes (`TimedCall`). The panel acts on its own in one way: a frame that reports
page 0 tells that it has landed on its start page.
-/

set_option autoImplicit false
set_option relaxedAutoImplicit false

namespace UsCtrl

open Foundation

/-! ### Frames -/

/-- The outputs of `app_lcd_init_mode`. -/
def appLcdInitModeShows (s : Sys) : List PanelOut :=
  [.icon .reset false, .icon .seek false, .icon .run false, .workCnt s.cfg.workCnt,
    .page (runPageForMode s.cfg.modelType)]

/-- The outputs of the RESET key. -/
def handleKeyResetShows (now : ℕ) (s : Sys) : List PanelOut :=
  let s := appLcdHookUsCommand .reset now s
  if s.lcd.errorStatus.ovld ∨ s.lcd.errorStatus.outerr then
    [.icon .overload false, .icon .outerr false] ++ restoreShows { s with lcd := { s.lcd with
      errorStatus := { s.lcd.errorStatus with ovld := false, outerr := false } } }
  else []

/-- The outputs of `handle_key_error_reset`. -/
def handleKeyErrorResetShows (data now : ℕ) (s : Sys) : List PanelOut :=
  if data ≠ 1 then []
  else
    let s := appLcdHookUsCommand .reset now s
    if s.lcd.errorStatus.ovtime then
      restoreShows { s with lcd := { s.lcd with errorStatus := .clear } }
    else []

/-- The outputs of `handle_std_setup_param`. -/
def handleStdSetupParamShows (data : ℕ) (s : Sys) : List PanelOut :=
  if data = 1 then [.page (gotoSetup1 s).lcd.lcdStatus]
  else if data = 2 then [.page (setup2Page s)]
  else if data = 3 then [.page (setup3Page s)]
  else if data = 4 then [.page (if s.cfg.commMode = 0 then .setupStdc else .setupStde)]
  else []

/-- The outputs of `handle_run_mode`. -/
def handleRunModeShows (data : ℕ) : List PanelOut :=
  if data = 1 then [.page .setupStd2d]
  else if data = 2 then [.page .setupStd2t]
  else []

/-- The outputs of `data_save_commit`, with that of `commit_cnt_reset`. -/
def dataSaveCommitShows (s : Sys) : List PanelOut :=
  (if setupGroup s = .std ∧ s.lcd.tempCntReset then [.workCnt 0] else []) ++
    [.page (dataSaveGroup s).lcd.lcdStatus]

/-- The outputs of `handle_sys_pic_now`. -/
def handleSysPicNowShows (data tKey : ℕ) (s : Sys) : List PanelOut :=
  if data = 0 ∧ s.lcd.bootComplete ∧ elapsedMs tKey s.lcd.lastSetPageMs ≥ 200 then
    appLcdInitModeShows (appLcdInputRunKeyReanchor s)
  else []

/-- The outputs of `app_lcd_input_dispatch`. -/
def FrameIn.shows (f : FrameIn) (s : Sys) : List PanelOut :=
  match f.key with
  | some .setupParam => [.page (setup1PageForMode s.lcd.sysMode)]
  | some .setupParamMoohan =>
    if (longPressReleased f.vpAddr f.word f.tKey s.lcd).2
    then [.page (setup1PageForMode s.lcd.sysMode)] else []
  | some .setupModel =>
    if (longPressReleased f.vpAddr f.word f.tKey s.lcd).2 then [.page .modelSetup] else []
  | some .stdSetupParam => handleStdSetupParamShows f.word s
  | some .runMode => handleRunModeShows f.word
  | some .keyMulti => if f.word = 1 then handleKeyResetShows f.tCmd s else []
  | some .keyErrorReset => handleKeyErrorResetShows f.word f.tCmd s
  | some .dataSave =>
    if f.word = 1 then dataSaveCommitShows s
    else [.page (cancelPage { s.lcd with tempCommMode := 0xFF }).lcdStatus]
  | some .commMode => [.page (commModePage f.word s.lcd.lcdStatus)]
  | some .sysPicNow => handleSysPicNowShows f.word f.tKey s
  | _ => []

/-! ### Ticks -/

/-- The outputs of `app_weld_tick`: the counter of a finished cycle. -/
def appWeldTickShows (input : WeldTickIn) (s : Sys) : List PanelOut :=
  if weldSteps input s && (weldBodyStep input (weldAdvance input s)).2.cycleDone then
    [.workCnt ((s.cfg.workCnt + 1) % 2 ^ 32)]
  else []

/-- The outputs of `app_overload_tick`. -/
def appOverloadTickShows (input : OverloadTickIn) (s : Sys) : List PanelOut :=
  if overloadDue input s then
    let sampled := overloadSample input s
    let asserted := if sampled.2.assert then overloadAssert input.now sampled.1 else sampled.1
    let held := if sampled.2.active then overloadHold input.now asserted else asserted
    (if sampled.2.assert then appLcdSetOverloadShows true sampled.1 else []) ++
      (if sampled.2.deassert then appLcdSetOverloadShows false (releasePublished held) else [])
  else []

/-- The outputs of `app_input_tick`. -/
def appInputTickShows (input : InputTickIn) (s : Sys) : List PanelOut :=
  if inputDue input s then
    let sampled := inputSample input s
    let entered := if sampled.2.estopEnter then estopEnter input.now sampled.1 else sampled.1
    (if sampled.2.estopEnter then
      appLcdSetEstopShows true (appWeldAbortNow (ioSolDn false sampled.1)) else []) ++
      (if s.input.estopActive ∧ sampled.2.estopActive = false then
        appLcdSetEstopShows false entered else [])
  else []

/-- The outputs of `app_seek_reset_tick`, in the order of its tests. -/
def appSeekResetTickShows (now : ℕ) (s : Sys) : List PanelOut :=
  if seekResetDue now s then
    let out := (seekResetFsmStep
      ⟨s.seekReset.pendingCmd, decide (publishedRun s ≠ .idle)⟩ s.seekReset.fsm).2
    (if out.resetIcon then [.icon .reset true] else []) ++
      (if out.resetIconOff then [.icon .reset false] else []) ++
      (if out.seekIcon then [.icon .seek true] else []) ++
      (if out.seekIconOff then [.icon .seek false] else [])
  else []

/-- The outputs of a Modbus tick: the counter that a request has reset. -/
def appModbusTickShows (build : Build) (input : ModbusTickIn) (s : Sys) : List PanelOut :=
  match (modbusPass build input s).2 with
  | some link =>
    let entry := countApply (modbusPass build input s).1
    if gateClosed build (modbusPass build input s).1 then []
    else if (openBranch link input.apply entry).map Prod.fst = some .workCntL then [.workCnt 0]
    else []
  | none => []

/-- The outputs of a call, apart from those of the display machine. -/
def Call.shows (build : Build) (call : Call) (s : Sys) : List PanelOut :=
  match call with
  | .frame f => f.shows s
  | .lcdTick => appLcdTickFaultShows s
  | .weldTick input => appWeldTickShows input s
  | .overloadTick input => appOverloadTickShows input s
  | .inputTick input => appInputTickShows input s
  | .seekResetTick now => appSeekResetTickShows now s
  | .modbusTick input => appModbusTickShows build input s
  | _ => []

/-! ### The terminal -/

/-- A call with the clock reads of the display gate and of `app_modbus_remote_active`. -/
structure TimedCall where
  call : Call
  tDisp : ℕ
  tRemote : ℕ

/-- The controller, its display machine, and what the panel holds. -/
structure Terminal where
  sys : Sys
  disp : DispState
  view : PanelView

/-- The frame reports page 0: the panel has landed on its start page. -/
def FrameIn.lands (f : FrameIn) : Bool := decide (f.key = some .sysPicNow) && decide (f.word = 0)

/-- The panel has landed on its start page. -/
def Call.lands : Call → Bool
  | .frame f => f.lands
  | _ => false

/-- The call runs `app_lcd_init_mode`, in the state it finds. -/
def Call.reinits (call : Call) (s : Sys) : Bool :=
  call.lands && s.lcd.bootComplete && match call with
    | .frame f => decide (elapsedMs f.tKey s.lcd.lastSetPageMs ≥ 200)
    | _ => false

/-- The display gate of `app_lcd_tick`. -/
def dispTick (timed : TimedCall) (s : Sys) (disp : DispState) : DispState × List PanelOut :=
  if elapsedMs timed.tDisp disp.prevMs ≥ 4 then
    appLcdDispStep (appModbusRemoteActive timed.tRemote s) s.measure s.cfg.outputPower
      { disp with prevMs := timed.tDisp }
  else (disp, [])

/-- What a call makes of the display machine. -/
def TimedCall.disp (build : Build) (timed : TimedCall) (t : Terminal) :
    DispState × List PanelOut :=
  match timed.call with
  | .lcdTick => dispTick timed (appLcdTick t.sys) t.disp
  | .frame f =>
    if (Call.frame f).reinits t.sys then
      ({ t.disp with refs := refLevelsOf (timed.call.exec build t.sys).cfg.modelFreq }, [])
    else (t.disp, [])
  | _ => (t.disp, [])

/-- The panel's own move. -/
def PanelView.land (call : Call) (view : PanelView) : PanelView :=
  if call.lands then view.draw (.page .logo) else view

/-- All outputs of a call. -/
def TimedCall.outs (build : Build) (timed : TimedCall) (t : Terminal) : List PanelOut :=
  timed.call.shows build t.sys ++ (timed.disp build t).2

/-- The effect of a call. -/
def TimedCall.exec (build : Build) (timed : TimedCall) (t : Terminal) : Terminal where
  sys := timed.call.exec build t.sys
  disp := (timed.disp build t).1
  view := (t.view.land timed.call).drawAll (timed.outs build t)

/-- The terminal in which `main` enters the loop: the panel has shown the logo, `app_lcd_init_mode`
has run, and `app_lcd_ensure_run_page` has sent the run page some times more. What the panel held
before is not known. -/
def bootTerminal (build : Build) (boot : BootIn) (held : PanelView) (resends : ℕ) : Terminal :=
  let s := bootState build boot
  { sys := s
    disp := ⟨0, 0, fun _ ↦ false, fun _ ↦ false, false, false, refLevelsOf s.cfg.modelFreq⟩
    view := held.drawAll (.page .logo :: appLcdInitModeShows s ++
      List.replicate resends (.page (runPageForMode s.cfg.modelType))) }

/-- The controller with its panel, as a machine. -/
def terminal (build : Build) (boot : BootIn) (held : PanelView) (resends : ℕ) :
    Machine Terminal TimedCall where
  start := bootTerminal build boot held resends
  exec timed t := timed.exec build t

/-- The controller of the terminal is the controller. -/
theorem terminal_sys (build : Build) (boot : BootIn) (held : PanelView) (resends : ℕ)
    (history : List TimedCall) :
    ((terminal build boot held resends).after history).sys =
      stateAfter build boot (history.map TimedCall.call) := by
  induction history with
  | nil => rfl
  | cons timed past ih =>
    rw [List.map_cons, Machine.after_cons]
    show timed.call.exec build ((terminal build boot held resends).after past).sys = _
    rw [ih]
    rfl

/-! ### Cells of the panel -/

/-- The page an output turns to. -/
def PanelOut.page? : PanelOut → Option LcdPage
  | .page shown => some shown
  | _ => none

/-- What an output makes of an icon. -/
def PanelOut.icon? (icon : Icon) : PanelOut → Option Bool
  | .icon other on => if icon = other then some on else none
  | _ => none

theorem drawAll_page (outs : List PanelOut) (view : PanelView) :
    (view.drawAll outs).page = (lastWrite PanelOut.page? outs).getD view.page :=
  foldl_cell PanelOut.page? PanelView.draw PanelView.page
    (fun _ out ↦ by cases out <;> rfl) outs view

theorem drawAll_icon (icon : Icon) (outs : List PanelOut) (view : PanelView) :
    (view.drawAll outs).icon icon =
      (lastWrite (PanelOut.icon? icon) outs).getD (view.icon icon) := by
  refine foldl_cell (PanelOut.icon? icon) PanelView.draw (fun view ↦ view.icon icon) ?_ outs view
  intro view out
  cases out with
  | icon other on =>
    unfold PanelView.draw PanelOut.icon?
    dsimp only
    split_ifs <;> rfl
  | _ => rfl

end UsCtrl
