import UsCtrl.Foundation.LastWrite
import UsCtrl.PanelVars

/-!
# What the panel shows

Everything the firmware draws on the panel apart from the editable numbers and their texts: the
page, the status icons, the fault message, the work counter, the bars of `app_lcd_disp.c` and the
measured values. `PanelOut` is one such output, `PanelView` what the panel holds of them, and
`Call.shows` the outputs of a call in the order the source sends them.

`app_lcd_tick` advances the display machine of `app_lcd_disp.c` behind a clock gate of its own, so a
call comes with the two clock reads this takes (`TimedCall`). `terminal` is the controller with its
panel and its display machine. The panel acts on its own in one way: a frame that reports page 0
tells that it has landed on its start page.
-/

set_option autoImplicit false
set_option relaxedAutoImplicit false

namespace UsCtrl

open Foundation

/-! ### Outputs -/

/-- The icons the firmware switches: `ICON_RESET`, `ICON_SEEK`, `ICON_RUN`, `ICON_OL`,
`ICON_OUTERR` and `DISP_REMOTE`. -/
inductive Icon
  | reset
  | seek
  | run
  | overload
  | outerr
  | remote
  deriving DecidableEq, Repr

/-- The texts of `VP_ERROR_MSG`; the second arrives as the ten bytes `OUTPUT ERR`. -/
inductive ErrorText
  | overLoad
  | outputError
  | overTime
  | estop
  deriving DecidableEq, Repr

/-- One output to the panel. `level` and `time` write bar slots from `first` on. -/
inductive PanelOut
  | page (page : LcdPage)
  | icon (icon : Icon) (on : Bool)
  | message (text : ErrorText)
  | workCnt (count : ℕ)
  | level (first : ℕ) (slots : List Bool)
  | time (first : ℕ) (slots : List Bool)
  | values (power amp freq : ℕ)
  | energy (energy : ℕ)
  deriving DecidableEq, Repr

/-- What the panel holds. -/
structure PanelView where
  page : LcdPage
  icon : Icon → Bool
  message : Option ErrorText
  workCnt : ℕ
  level : ℕ → Bool
  time : ℕ → Bool
  power : ℕ
  amp : ℕ
  freq : ℕ
  energy : ℕ

/-- Slots written over a bar from `first` on. -/
def overwrite (first : ℕ) (slots : List Bool) (bar : ℕ → Bool) (slot : ℕ) : Bool :=
  if first ≤ slot ∧ slot < first + slots.length then slots.getD (slot - first) false else bar slot

/-- The effect of an output on the panel. -/
def PanelView.draw (view : PanelView) : PanelOut → PanelView
  | .page page => { view with page := page }
  | .icon icon on => { view with icon := fun other ↦ if other = icon then on else view.icon other }
  | .message text => { view with message := some text }
  | .workCnt count => { view with workCnt := count }
  | .level first slots => { view with level := overwrite first slots view.level }
  | .time first slots => { view with time := overwrite first slots view.time }
  | .values power amp freq => { view with power := power, amp := amp, freq := freq }
  | .energy energy => { view with energy := energy }

/-- The effect of a list of outputs. -/
def PanelView.drawAll (view : PanelView) (outs : List PanelOut) : PanelView :=
  outs.foldl PanelView.draw view

/-! ### Pages and faults -/

/-- The texts of `app_lcd_show_error`, by the order of its tests. -/
def ErrorStatus.text (error : ErrorStatus) : ErrorText :=
  if error.ovld then .overLoad
  else if error.outerr then .outputError
  else if error.ovtime then .overTime
  else .estop

/-- The end of the paths that leave the warning page: the run page, or the text of the emergency
stop that still holds the warning page. -/
def restoreShows (s : Sys) : List PanelOut :=
  if lcdMayRestoreRunPage s then [.page (runPageForMode s.lcd.sysMode)]
  else if appEstopActive s then [.message .estop]
  else []

/-- The outputs of `app_lcd_set_overload`. -/
def appLcdSetOverloadShows (on : Bool) (s : Sys) : List PanelOut :=
  if on then [.message .overLoad, .icon .overload true]
  else
    let s := { s with lcd := { s.lcd with
      errorStatus := { s.lcd.errorStatus with ovld := false } } }
    .icon .overload false :: if s.lcd.lcdStatus = .warning then restoreShows s else []

/-- The outputs of `app_lcd_set_estop`. -/
def appLcdSetEstopShows (on : Bool) (s : Sys) : List PanelOut :=
  if on then [.message .estop, .page .warning]
  else if lcdMayRestoreRunPage s then [.page (runPageForMode s.lcd.sysMode)]
  else []

/-- The outputs of `app_lcd_fault_cleared`. -/
def appLcdFaultClearedShows (s : Sys) : List PanelOut :=
  if s.lcd.lcdStatus = .warning then restoreShows s else []

/-- The outputs of `app_lcd_show_error` on a nonzero code. -/
def appLcdShowErrorShows (error : ErrorStatus) : List PanelOut :=
  [.message error.text, .page .warning]

/-- The fault edges of `app_lcd_tick`. -/
def appLcdTickFaultShows (s : Sys) : List PanelOut :=
  let err := s.measure.errorStatus
  let mirrored := { s with lcd := { s.lcd with errorStatus := err } }
  if err.any ∧ s.lcd.prevErr.any = false then appLcdShowErrorShows err
  else if err.any = false ∧ s.lcd.prevErr.any then appLcdFaultClearedShows mirrored
  else []

/-! ### The display machine -/

/-- The thresholds `ref_lv_1`, `ref_lv_10` and `ref_lv_20` of the output bar, in their order. -/
structure RefLevels where
  refLv1 : ℕ
  refLv10 : ℕ
  refLv20 : ℕ
  lower : refLv1 < refLv10
  upper : refLv10 < refLv20
  width : refLv20 < 2 ^ 16
  deriving DecidableEq, Repr

/-- The thresholds `app_lcd_init_mode` takes from the model's frequency. -/
def refLevelsOf (modelFreq : ℕ) : RefLevels :=
  if modelFreq = 0 then ⟨50, 1000, 2000, by decide, by decide, by decide⟩
  else if modelFreq = 1 then ⟨50, 600, 1200, by decide, by decide, by decide⟩
  else ⟨50, 400, 700, by decide, by decide, by decide⟩

/-- The statics of `app_lcd_disp_step` with its bar buffers, the thresholds, and the clock gate of
`app_lcd_tick`. -/
structure DispState where
  prevMs : ℕ
  step : ℕ
  levelBuf : ℕ → Bool
  timeBuf : ℕ → Bool
  prevRunOn : Bool
  prevRemoteOn : Bool
  refs : RefLevels

/-- A loop that writes the slots from `first` to below `last`. -/
def fillSlots (first last : ℕ) (lit : ℕ → Bool) (buf : ℕ → Bool) (slot : ℕ) : Bool :=
  if first ≤ slot ∧ slot < last then lit (slot - first) else buf slot

/-- The `uint8_t` quotient of a bar segment, zero where the thresholds leave no span. -/
def segmentFill (above steps span : ℕ) : ℕ :=
  if span ≠ 0 then above * steps / span % 256 else 0

/-- The branches of `disp_compute_output` before the marker. -/
def dispFillOutput (currAmp : ℕ) (refs : RefLevels) (buf : ℕ → Bool) : ℕ → Bool :=
  if currAmp > 10 then
    let first := fillSlots 0 1 (fun _ ↦ true) buf
    if currAmp > refs.refLv1 then
      let second := fillSlots 1 2 (fun _ ↦ true) first
      if currAmp > refs.refLv10 then
        if currAmp ≥ refs.refLv20 then fillSlots 1 20 (fun _ ↦ true) second
        else
          let fill := segmentFill (currAmp - refs.refLv10) 10
            (toUint16 ((refs.refLv20 : ℤ) - refs.refLv10))
          fillSlots 10 20 (fun index ↦ decide (index < fill))
            (fillSlots 2 10 (fun _ ↦ true) second)
      else
        let fill := segmentFill (currAmp - refs.refLv1) 8
          (toUint16 ((refs.refLv10 : ℤ) - refs.refLv1))
        fillSlots 2 20 (fun index ↦ decide (index < fill)) second
    else fillSlots 1 20 (fun _ ↦ false) first
  else fillSlots 0 20 (fun _ ↦ false) buf

/-- The slot of the set-point marker. -/
def outputMarker (outPower : ℕ) : ℕ :=
  let marker := outPower * 20 / 100 % 256
  if marker ≥ 20 then 19 else marker

/-- `disp_compute_output`. -/
def dispComputeOutput (currAmp outPower : ℕ) (refs : RefLevels) (buf : ℕ → Bool) : ℕ → Bool :=
  fillSlots (outputMarker outPower) (outputMarker outPower + 1) (fun _ ↦ true)
    (dispFillOutput currAmp refs buf)

/-- `disp_compute_time`. -/
def dispComputeTime (currentTime : ℕ) (buf : ℕ → Bool) : ℕ → Bool :=
  fillSlots 0 20 (fun index ↦ decide (index < currentTime)) buf

/-- `disp_send_val`. -/
def dispSendVal (m : LcdMeasure) : List PanelOut :=
  [.values (if m.usOnStatus then m.maxPower else m.lastPower)
      (if m.usOnStatus then m.maxAmp else m.lastAmp)
      ((if m.usOnStatus then m.currFreq else m.lastFreq) / 100),
    .energy ((if m.usOnStatus then m.currEnergy else m.lastEnergy) % 65536)]

/-- Five slots of a buffer. -/
def fiveSlots (buf : ℕ → Bool) (first : ℕ) : List Bool :=
  (List.range 5).map fun index ↦ buf (first + index)

/-- The icon edges at the head of `app_lcd_disp_step`. -/
def dispIconEdges (runOn remoteOn : Bool) (disp : DispState) : List PanelOut :=
  (if runOn ≠ disp.prevRunOn then [.icon .run runOn] else []) ++
    (if remoteOn ≠ disp.prevRemoteOn then [.icon .remote remoteOn] else [])

/-- The `switch` of `app_lcd_disp_step`. -/
def dispSwitch (m : LcdMeasure) (outputPower : ℕ) (disp : DispState) :
    DispState × List PanelOut :=
  match disp.step with
  | 0 => ({ disp with
      levelBuf := dispComputeOutput m.currAmp outputPower disp.refs disp.levelBuf
      step := 1 }, [])
  | 1 => ({ disp with step := 2 }, [.level 0 (fiveSlots disp.levelBuf 0)])
  | 2 => ({ disp with step := 3 }, [.level 5 (fiveSlots disp.levelBuf 5)])
  | 3 => ({ disp with step := 4 }, [.level 10 (fiveSlots disp.levelBuf 10)])
  | 4 => ({ disp with step := 5 }, [.level 15 (fiveSlots disp.levelBuf 15)])
  | 5 => ({ disp with timeBuf := dispComputeTime m.usOnTime200m disp.timeBuf, step := 6 }, [])
  | 6 => ({ disp with step := 7 }, [.time 0 (fiveSlots disp.timeBuf 0)])
  | 7 => ({ disp with step := 8 }, dispSendVal m ++ [.time 5 (fiveSlots disp.timeBuf 5)])
  | 8 => ({ disp with step := 9 }, [.time 10 (fiveSlots disp.timeBuf 10)])
  | _ => ({ disp with step := 0 }, [.time 15 (fiveSlots disp.timeBuf 15)])

/-- `app_lcd_disp_step`. -/
def appLcdDispStep (remoteOn : Bool) (m : LcdMeasure) (outputPower : ℕ) (disp : DispState) :
    DispState × List PanelOut :=
  let runOn := decide (m.usRunStatus ≠ .idle)
  let switched := dispSwitch m outputPower
    { disp with prevRunOn := runOn, prevRemoteOn := remoteOn }
  (switched.1, dispIconEdges runOn remoteOn disp ++ switched.2)

/-- `app_modbus_remote_active`: a request came less than a second ago. -/
def appModbusRemoteActive (now : ℕ) (s : Sys) : Bool :=
  s.modbus.remoteSeen && decide (elapsedMs now s.modbus.remoteMs < 1000)

end UsCtrl
