import UsCtrl.Panel

/-!
# Panel: communication settings, SAVE and CANCEL, and the dispatch

`app_lcd_comm.c` and the dispatch of `app_lcd_input.c`. The communication pages edit shadows; SAVE
commits them by page group and writes the whole configuration to FRAM, CANCEL reloads it from FRAM.

`appLcdInputDispatch` is the handler of one received frame. What any frame can do to the rest of the
controller is said in `UsCtrl.Handlers`.
-/

set_option autoImplicit false
set_option relaxedAutoImplicit false

namespace UsCtrl

/-! ### Octets as an edit text -/

/-- Octet `index` of a field. -/
def Octets.get (octets : Octets) (index : ℕ) : ℕ :=
  match index with
  | 0 => octets.o0
  | 1 => octets.o1
  | 2 => octets.o2
  | _ => octets.o3

/-- A store into octet `index`. -/
def Octets.set (octets : Octets) (index value : ℕ) : Octets :=
  match index with
  | 0 => { octets with o0 := value }
  | 1 => { octets with o1 := value }
  | 2 => { octets with o2 := value }
  | _ => { octets with o3 := value }

/-- The character `'.'` of the edit text. -/
def etherDot : ℕ := 46

/-- Decimal characters of an octet. -/
def octetText (octet : ℕ) : List ℕ :=
  if octet < 10 then [octet + 48]
  else if octet < 100 then [octet / 10 + 48, octet % 10 + 48]
  else [octet / 100 + 48, octet / 10 % 10 + 48, octet % 10 + 48]

/-- `ip_to_string`, up to the terminating zero. -/
def ipToString (ip : Octets) : List ℕ :=
  (octetText ip.o0 ++ etherDot :: octetText ip.o1 ++ etherDot :: octetText ip.o2 ++
    etherDot :: octetText ip.o3).take 15

/-! ### Communication pages -/

/-- `handle_comm_addr`. -/
def handleCommAddr (data : ℕ) (s : Sys) : Sys :=
  { s with lcd := { s.lcd with tempAddress := data % 256 } }

/-- `handle_comm_speed`. -/
def handleCommSpeed (data : ℕ) (s : Sys) : Sys :=
  if data % 256 > 5 then s else { s with lcd := { s.lcd with tempSpeedIdx := data % 256 } }

/-- `handle_comm_parity`. -/
def handleCommParity (data : ℕ) (s : Sys) : Sys :=
  if data % 256 > 2 then s else { s with lcd := { s.lcd with tempParityIdx := data % 256 } }

/-- `handle_comm_mode`: serial, ethernet, or the toggle between static and DHCP. -/
def handleCommMode (data tPage : ℕ) (s : Sys) : Sys :=
  if data = 0 then
    gotoPage (match s.lcd.lcdStatus with
      | .setupMhe => .setupMhc
      | .setupStde => .setupStdc
      | page => page) tPage { s with lcd := { s.lcd with tempCommMode := 0 } }
  else
    gotoPage (match s.lcd.lcdStatus with
      | .setupMhc => .setupMhe
      | .setupStdc => .setupStde
      | page => page) tPage { s with lcd := { s.lcd with tempCommMode :=
        if data = 1 then 1
        else if s.lcd.tempCommMode = 1 then 2
        else if s.lcd.tempCommMode = 2 then 1
        else s.lcd.tempCommMode } }

/-- The digit branch of `process_ip_char`. -/
def etherDigit (key : ℕ) (lcd : LcdState) : LcdState :=
  let number := (lcd.etherCurrentNumber * 10 + key) % 65536
  { lcd with
    etherCurrentNumber := if number > 255 then 255 else number
    etherInput := if lcd.etherInput.length < 15 then lcd.etherInput ++ [key + 48]
      else lcd.etherInput
    etherHasInput := true }

/-- The dot branch of `process_ip_char`. -/
def etherNextOctet (lcd : LcdState) : LcdState :=
  if lcd.etherHasInput ∧ lcd.etherCurrentOctet < 3 then
    { lcd with
      etherTempIp := lcd.etherTempIp.set lcd.etherCurrentOctet (lcd.etherCurrentNumber % 256)
      etherCurrentOctet := lcd.etherCurrentOctet + 1
      etherCurrentNumber := 0
      etherHasInput := false
      etherInput := if lcd.etherInput.length < 15 then lcd.etherInput ++ [etherDot]
        else lcd.etherInput }
  else lcd

/-- The backspace branch of `process_ip_char`. -/
def etherBackspace (lcd : LcdState) : LcdState :=
  match lcd.etherInput.getLast? with
  | none => lcd
  | some last =>
    let edited :=
      if last = etherDot then
        if lcd.etherCurrentOctet > 0 then
          { lcd with
            etherCurrentOctet := lcd.etherCurrentOctet - 1
            etherCurrentNumber := lcd.etherTempIp.get (lcd.etherCurrentOctet - 1)
            etherHasInput := true }
        else lcd
      else
        { lcd with
          etherCurrentNumber := lcd.etherCurrentNumber / 10
          etherHasInput := decide (lcd.etherCurrentNumber / 10 > 0) }
    { edited with etherInput := lcd.etherInput.dropLast }

/-- The enter branch of `process_ip_char` and the copy into the selected shadow. -/
def etherEnter (lcd : LcdState) : LcdState :=
  let ip := if lcd.etherHasInput then
    lcd.etherTempIp.set lcd.etherCurrentOctet (lcd.etherCurrentNumber % 256) else lcd.etherTempIp
  let lcd := { lcd with etherTempIp := ip }
  match lcd.etherWhatInput with
  | .ip => { lcd with tempEtherIp := ip }
  | .nm => { lcd with tempEtherNm := ip }
  | _ => { lcd with tempEtherGw := ip }

/-- `ether_select_field`: the number is seeded from the IP shadow for every field. -/
def etherSelectField (field : EtherField) (shadow : Octets) (lcd : LcdState) : LcdState :=
  { lcd with
    etherWhatInput := field
    etherInput := ipToString shadow
    etherTempIp := shadow
    etherCurrentOctet := 3
    etherCurrentNumber := lcd.tempEtherIp.o3
    etherHasInput := true }

/-- `handle_ether_key`. -/
def handleEtherKey (data : ℕ) (s : Sys) : Sys :=
  let key := data % 256
  { s with lcd :=
      if key = 0x49 then etherSelectField .ip s.lcd.tempEtherIp s.lcd
      else if key = 0x4D then etherSelectField .nm s.lcd.tempEtherNm s.lcd
      else if key = 0x47 then etherSelectField .gw s.lcd.tempEtherGw s.lcd
      else if key ≤ 9 then etherDigit key s.lcd
      else if key = 0x44 then etherNextOctet s.lcd
      else if key = 0x42 then etherBackspace s.lcd
      else if key = 0x45 then etherEnter s.lcd
      else s.lcd }

/-! ### SAVE and CANCEL -/

/-- `commit_comm_serial_shadows`; the reconfigure hook only logs. -/
def commitCommSerialShadows (s : Sys) : Sys :=
  { s with cfg := { s.cfg with
      commAddress := s.lcd.tempAddress
      commSpeedIdx := s.lcd.tempSpeedIdx
      commParityIdx := s.lcd.tempParityIdx } }

/-- `commit_comm_mode_and_ether`: nothing while the shadows were never seeded. -/
def commitCommModeAndEther (s : Sys) : Sys :=
  if s.lcd.tempCommMode = 0xFF then s
  else
    let changed := decide (s.lcd.tempCommMode ≠ s.cfg.commMode) ||
      decide (s.lcd.tempEtherIp ≠ s.cfg.etherIp) || decide (s.lcd.tempEtherNm ≠ s.cfg.etherNm) ||
      decide (s.lcd.tempEtherGw ≠ s.cfg.etherGw)
    { s with
      cfg := { s.cfg with
        commMode := s.lcd.tempCommMode
        etherIp := s.lcd.tempEtherIp
        etherNm := s.lcd.tempEtherNm
        etherGw := s.lcd.tempEtherGw }
      lcd := { s.lcd with etherDirty := s.lcd.etherDirty || changed } }

theorem commitCommModeAndEther_eq (s : Sys) :
    commitCommModeAndEther s = { s with
      cfg := (commitCommModeAndEther s).cfg
      lcd := { s.lcd with etherDirty := (commitCommModeAndEther s).lcd.etherDirty } } := by
  unfold commitCommModeAndEther
  split_ifs <;> rfl

/-- `commit_cnt_reset`. -/
def commitCntReset (s : Sys) : Sys :=
  if s.lcd.tempCntReset then
    { s with
      cfg := { s.cfg with workCnt := 0 }
      lcd := { s.lcd with tempCntReset := false } }
  else s

theorem commitCntReset_eq (s : Sys) :
    commitCntReset s = { s with
      cfg := (commitCntReset s).cfg
      lcd := { s.lcd with tempCntReset := (commitCntReset s).lcd.tempCntReset } } := by
  unfold commitCntReset
  split_ifs <;> rfl

/-- The page groups that SAVE and CANCEL tell apart. -/
inductive SetupGroup
  | model
  | multi
  | hand
  | std
  | other
  deriving DecidableEq, Repr

/-- The group of the shown page, as the `else if` order of `data_save_commit` resolves it. -/
def setupGroup (s : Sys) : SetupGroup :=
  match s.lcd.lcdStatus with
  | .modelSetup => .model
  | .setupMulti | .setupMhc | .setupMhe => .multi
  | .setupHand => .hand
  | .setupMh2 =>
    if s.cfg.modelType = 1 then .multi else if s.cfg.modelType = 0 then .hand else .other
  | .setupStd1 | .setupStd2d | .setupStd2t | .setupStd3 | .setupStdc | .setupStde => .std
  | _ => .other

/-- The branches of `data_save_commit` before the FRAM write. -/
def dataSaveGroup (s : Sys) : Sys :=
  match setupGroup s with
  | .model => { s with lcd := { s.lcd with
      sysMode := s.cfg.modelType
      lcdStatus := runPageForMode s.cfg.modelType } }
  | .multi =>
    let s := commitCommSerialShadows (commitCommModeAndEther
      (appLcdHookSetPot s.cfg.outputPower s))
    { s with lcd := { s.lcd with lcdStatus := .runMh } }
  | .hand =>
    let s := commitCommSerialShadows (appLcdHookSetPot s.cfg.outputPower s)
    { s with lcd := { s.lcd with lcdStatus := .runMh } }
  | .std =>
    let s := commitCommSerialShadows (commitCommModeAndEther (appHornSetMode s.lcd.tempHorndown
      (commitCntReset (appLcdHookSetPot s.cfg.outputPower s))))
    { s with lcd := { s.lcd with lcdStatus := .runStd } }
  | .other => s

/-- `data_save_commit`. -/
def dataSaveCommit (bus : I2cBus) (tPage : ℕ) (s : Sys) : Sys :=
  appLcdChangePage tPage (saveConfig bus (dataSaveGroup s))

/-- The page branches of `data_save_cancel`; the second setup page of hand and multi leaves by
whatever the model is. -/
def cancelPage (lcd : LcdState) : LcdState :=
  match lcd.lcdStatus with
  | .modelSetup | .setupMulti | .setupHand | .setupMh2 | .setupMhc | .setupMhe =>
    { lcd with lcdStatus := .runMh }
  | .setupStd1 | .setupStd2d | .setupStd2t | .setupStd3 | .setupStdc | .setupStde =>
    { lcd with tempHorndown := false, lcdStatus := .runStd }
  | _ => lcd

/-- `data_save_cancel`. -/
def dataSaveCancel (bus : I2cBus) (tPage : ℕ) (s : Sys) : Sys :=
  let load := appConfigLoad bus s.fram
  appLcdChangePage tPage { s with
    cfg := load.cfg
    fram := load.fram
    lcd := cancelPage { s.lcd with
      tempCommMode := 0xFF
      sysMode := if s.lcd.lcdStatus = .modelSetup then load.cfg.modelType else s.lcd.sysMode } }

/-! ### Dispatch -/

/-- `handle_setup_param_enter` and `enter_model_setup` behind a long press. -/
def longPressKey (vp data now : ℕ) (enter : Sys → Sys) (s : Sys) : Sys :=
  let press := longPressReleased vp data now s.lcd
  let s := { s with lcd := press.1 }
  if press.2 then enter s else s

/-- The state with the press of a key marked. -/
def markPress (ms vp : ℕ) (s : Sys) : Sys :=
  { s with lcd := { s.lcd with keyPressMs := ms, keyPressVp := vp } }

/-- A long press marks the press, and lets its handler act once the key has been held. -/
theorem longPressKey_marked (vp data now : ℕ) (enter : Sys → Sys) (s : Sys) :
    ∃ ms mark, longPressKey vp data now enter s =
      if (longPressReleased vp data now s.lcd).2 then enter (markPress ms mark s)
      else markPress ms mark s := by
  have hpress : { s with lcd := (longPressReleased vp data now s.lcd).1 } =
      markPress (longPressReleased vp data now s.lcd).1.keyPressMs
        (longPressReleased vp data now s.lcd).1.keyPressVp s := by
    unfold longPressReleased
    split_ifs <;> rfl
  refine ⟨(longPressReleased vp data now s.lcd).1.keyPressMs,
    (longPressReleased vp data now s.lcd).1.keyPressVp, ?_⟩
  rw [← hpress]
  rfl

/-- `enter_model_setup`. -/
def enterModelSetup (s : Sys) : Sys := { s with lcd := { s.lcd with lcdStatus := .modelSetup } }

/-- The `switch` of `app_lcd_input_dispatch`. -/
def panelKeyHandler (key : PanelKey) (data : ℕ) (f : FrameIn) (s : Sys) : Sys :=
  match key with
  | .horndown => { s with lcd := { s.lcd with tempHorndown := decide (data = 1) } }
  | .setupParam => handleSetupParamEnter f.tPage s
  | .setupParamMoohan => longPressKey f.vpAddr data f.tKey (handleSetupParamEnter f.tPage) s
  | .setupModel => longPressKey f.vpAddr data f.tKey enterModelSetup s
  | .stdSetupParam => handleStdSetupParam data f.tPage s
  | .runMode => handleRunMode data f.tPage s
  | .keyMulti => handleKeyMulti data f.tCmd s
  | .keyErrorReset => handleKeyErrorReset data f.tCmd s
  | .dataSave => if data = 1 then dataSaveCommit f.bus f.tPage s else dataSaveCancel f.bus f.tPage s
  | .commAddr => handleCommAddr data s
  | .commSpeed => handleCommSpeed data s
  | .commParity => handleCommParity data s
  | .commMode => handleCommMode data f.tPage s
  | .etherKey => handleEtherKey data s
  | .sysPicNow => handleSysPicNow data f.tKey f.tPage s
  | key => { s with cfg := panelConfigEdit key data s.cfg }

/-- The data word of a frame, behind its length byte. -/
def FrameIn.word (f : FrameIn) : ℕ := (f.data.getD 1 0).toNat * 256 + (f.data.getD 2 0).toNat

/-- The variable a frame reports: read responses only, with a complete data word. -/
def FrameIn.key (f : FrameIn) : Option PanelKey :=
  if f.cmd ≠ 0x83 ∨ f.data.length < 3 then none else PanelKey.ofAddr f.vpAddr

/-- `app_lcd_input_dispatch`. -/
def appLcdInputDispatch (f : FrameIn) (s : Sys) : Sys :=
  match f.key with
  | none => s
  | some key => panelKeyHandler key f.word f s

end UsCtrl
