import UsCtrl.Foundation.FirstMatch
import UsCtrl.Press

/-!
# The Modbus glue

`app_modbus.c` and `app_modbus_tcp.c`: the remote-enable gate and the hold watchdog stepped at the
head of every tick, the mirror of live values into the holding table, one write-apply pass for each
FC 06, the occupancy of the serial line, and the TCP server with its reassembly buffer.

The mirror is a table (`mirrorValue`): the value a register shows, or none for the registers it
leaves alone, which are the five command registers, the reserved register and the staged registers
under edit. The write-apply pass is a `firstMatch` chain over `applyRules`, in source order, behind
the closed-gate branch `gateRejectBody`.
-/

set_option autoImplicit false
set_option relaxedAutoImplicit false

namespace UsCtrl

open Foundation

/-! ### Mirror -/

/-- `k_stg_reg`: the register of a staged field. -/
def CfgStg.reg : CfgStg → MbReg
  | .addr => .commAddr
  | .speed => .commSpeed
  | .parity => .commParity
  | .ipH => .etherIpH
  | .ipL => .etherIpL
  | .nmH => .etherNmH
  | .nmL => .etherNmL
  | .gwH => .etherGwH
  | .gwL => .etherGwL

/-- `stg_mirror_val`. -/
def stgMirrorVal (cfg : AppConfig) : CfgStg → ℕ
  | .addr => cfg.commAddress
  | .speed => cfg.commSpeedIdx
  | .parity => cfg.commParityIdx
  | .ipH => cfg.etherIp.o0 * 256 + cfg.etherIp.o1
  | .ipL => cfg.etherIp.o2 * 256 + cfg.etherIp.o3
  | .nmH => cfg.etherNm.o0 * 256 + cfg.etherNm.o1
  | .nmL => cfg.etherNm.o2 * 256 + cfg.etherNm.o3
  | .gwH => cfg.etherGw.o0 * 256 + cfg.etherGw.o1
  | .gwL => cfg.etherGw.o2 * 256 + cfg.etherGw.o3

/-- `mb_status_bits` on the live levels; `sensDn` is the sampled sensor line, active-LOW. -/
def mbStatusBits (sensDn : Bool) (s : Sys) : ℕ :=
  (if publishedRun s ≠ .idle then 0x01 else 0) + (if appEstopActive s then 0x02 else 0) +
    (if appOverloadActive s then 0x04 else 0) +
    (if s.measure.errorStatus.ovtime then 0x08 else 0) + (if sensDn then 0 else 0x20) +
    (if appHornModeActive s then 0x40 else 0) +
    (if s.seekReset.fsm.state = .seek then 0x80 else 0) +
    (if s.seekReset.fsm.state = .reset then 0x100 else 0)

/-- A staged register shows the live value unless its field is under edit. -/
def mirrorStaged (field : CfgStg) (s : Sys) : Option ℕ :=
  if s.modbus.stage.dirty field then none else some (stgMirrorVal s.cfg field)

/-- `mirror_live` as a table: what a register is set to, if it is mirrored. -/
def mirrorValue (build : Build) (sensDn : Bool) (s : Sys) (reg : MbReg) : Option ℕ :=
  let live := s.measure.usOnStatus
  match reg with
  | .workCntH => some (s.cfg.workCnt / 65536)
  | .workCntL => some (s.cfg.workCnt % 65536)
  | .delay1 => some s.cfg.limitDelayTime1
  | .delay2 => some s.cfg.limitDelayTime2
  | .delay3 => some s.cfg.limitDelayTime3
  | .trigger2 => some s.cfg.limitTriggerTime2
  | .trigger3 => some s.cfg.limitTriggerTime3
  | .outPower => some s.cfg.outputPower
  | .onTime => some s.cfg.limitOnTime
  | .energy => some (s.cfg.limitEnergy % 65536)
  | .multiT1 => some s.cfg.limitMoTime1
  | .multiT2 => some s.cfg.limitMoTime2
  | .multiO1 => some s.cfg.limitMoOut1
  | .multiO2 => some s.cfg.limitMoOut2
  | .timeover => some s.cfg.limitOutTime
  | .dispPower => some (if live then s.measure.maxPower else s.measure.lastPower)
  | .dispAmp => some (if live then s.measure.maxAmp else s.measure.lastAmp)
  | .dispFreq => some (if live then s.measure.currFreq else s.measure.lastFreq)
  | .dispEnergy =>
    some ((if live then s.measure.currEnergy else s.measure.lastEnergy) % 65536)
  | .modelFreq => some s.cfg.modelFreq
  | .modelType => some s.cfg.modelType
  | .runMode => some s.cfg.runMode
  | .enEnergy => some s.cfg.energyCtrl.toNat
  | .enMulti => some s.cfg.multiCtrl.toNat
  | .enSafty => some s.cfg.fSafty
  | .calVal => some (toUint16 s.cfg.calVal)
  | .freqCalVal => some (toUint16 s.cfg.freqCalVal)
  | .status => some (mbStatusBits sensDn s)
  | .commMode => some s.cfg.commMode
  | .cfgStat => some s.modbus.stage.stat.wire
  | .cfgCap => some 0xFA01
  | .featCap => some 0x0001
  | .hornCmd => some s.horn.mode.toNat
  | .commAddr => mirrorStaged .addr s
  | .commSpeed => mirrorStaged .speed s
  | .commParity => mirrorStaged .parity s
  | .etherIpH => mirrorStaged .ipH s
  | .etherIpL => mirrorStaged .ipL s
  | .etherNmH => mirrorStaged .nmH s
  | .etherNmL => mirrorStaged .nmL s
  | .etherGwH => mirrorStaged .gwH s
  | .etherGwL => mirrorStaged .gwL s
  | .remoteCap => if build.model = .remote then some 0x5201 else none
  | .remoteEn => if build.model = .remote then some s.modbus.gate.wire else none
  | .remoteEnLeft => if build.model = .remote then some 0 else none
  | .reset | .seek | .start | .stop | .cfgCtrl | .reserved2D => none

/-- An update of `app_modbus.c`. -/
def onModbus (update : ModbusGlue → ModbusGlue) (s : Sys) : Sys :=
  { s with modbus := update s.modbus }

/-- An update of the Modbus tables. -/
def onCore (update : MbCore → MbCore) (s : Sys) : Sys :=
  onModbus (fun modbus ↦ { modbus with core := update modbus.core }) s

/-- `mirror_live`. -/
def mirrorLive (build : Build) (sensDn : Bool) (s : Sys) : Sys :=
  onCore (fun core ↦ { core with holding := fun reg ↦
    (mirrorValue build sensDn s reg).getD (core.holding reg) }) s

/-- A holding register of the state. -/
def holding (s : Sys) (reg : MbReg) : ℕ := s.modbus.core.holding reg

/-- A store into a holding register. -/
def setHolding (reg : MbReg) (value : ℕ) (s : Sys) : Sys :=
  onCore (fun core ↦ core.setReg reg value) s

/-! ### Gate, watchdog and staging at the head of a tick -/

/-- `remote_en_step`: MODEL_STD has no interlock and is always open. -/
def remoteEnStep (build : Build) (tGate : ℕ) (pin : Bool) (s : Sys) : Sys :=
  match build.model with
  | .std => onModbus (fun modbus ↦ { modbus with gate := .enabled }) s
  | .remote =>
    let fsm := remoteEnFsmStep
      { nowMs := tGate
        sw := if build.interlockInverted then pin else !pin
        lastReqMs := s.modbus.remoteMs
        reqValid := s.modbus.remoteSeen
        estop := appEstopActive s } s.modbus.gateFsm
    onModbus (fun modbus ↦ { modbus with gate := fsm.state, gateFsm := fsm }) s

/-- The hold watchdog block of `app_modbus_tick`: a trip stops the run as a STOP does. -/
def holdWdtBlock (tHold : ℕ) (s : Sys) : Sys :=
  let stepped := holdWdtStep tHold (decide (appRegRunSrc s = .comm)) s.modbus.hold
  let s := onModbus (fun modbus ↦ { modbus with hold := stepped.1 }) s
  if stepped.2 then appRegCommand .runRelease .comm 0 s else s

/-- `cfg_stage_tick(&s_stg, …)`. -/
def stageTick (tStage : ℕ) (s : Sys) : Sys :=
  onModbus (fun modbus ↦ { modbus with stage := cfgStageTick tStage modbus.stage }) s

/-- `cfg_stage_discard(&s_stg)`. -/
def stageDiscard (s : Sys) : Sys :=
  onModbus (fun modbus ↦ { modbus with stage := cfgStageDiscard modbus.stage }) s

/-- `app_modbus_note_remote`. -/
def appModbusNoteRemote (now : ℕ) (s : Sys) : Sys :=
  onModbus (fun modbus ↦ { modbus with remoteMs := now, remoteSeen := true }) s

/-! ### Write-apply pass -/

/-- What one `app_modbus_apply_writes` reads: the clock of the START branch, the run stamp, the
clock of a staged write, and the FRAM bus. -/
structure ApplyIn where
  tApply : ℕ
  tCmd : ℕ
  tStage : ℕ
  bus : I2cBus

/-- `gate_reject_body`: the commands are erased, and STOP is honoured. -/
def gateRejectBody (s : Sys) : Sys :=
  let erased := setHolding .start 0 (setHolding .seek 0 (setHolding .reset 0 s))
  let stopped := if holding erased .stop = 1 then appRegCommand .runRelease .comm 0 erased
    else erased
  setHolding .cfgCtrl 0 (setHolding .stop 0 stopped)

/-- `hold_wdt_keep(&s_hwd, now)`. -/
def holdKeep (now : ℕ) (s : Sys) : Sys :=
  onModbus (fun modbus ↦ { modbus with hold := holdWdtKeep now modbus.hold }) s

/-- `start_cmd_body`: 1 is a tap, 2 begins a hold session, 3 keeps one alive. -/
def startCmdBody (value : ℕ) (input : ApplyIn) (s : Sys) : Sys :=
  if value = 1 then
    appLcdHookSetPot s.cfg.outputPower (appRegCommand .start .comm input.tCmd s)
  else if value = 2 then
    if appRegStartAllowed s then
      onModbus (fun modbus ↦ { modbus with hold := holdWdtArm input.tApply modbus.hold })
        (appLcdHookSetPot s.cfg.outputPower (appRegCommand .start .comm input.tCmd s))
    else if s.modbus.hold.armed then holdKeep input.tApply s
    else s
  else if value = 3 then holdKeep input.tApply s
  else s

/-- `stg_apply_to_cfg`. -/
def stgApplyToCfg (val : CfgStg → ℕ) (dirty : CfgStg → Bool) (cfg : AppConfig) : AppConfig :=
  let pick (field : CfgStg) (new old : ℕ) : ℕ := if dirty field then new % 256 else old
  { cfg with
    commAddress := pick .addr (val .addr) cfg.commAddress
    commSpeedIdx := pick .speed (val .speed) cfg.commSpeedIdx
    commParityIdx := pick .parity (val .parity) cfg.commParityIdx
    etherIp :=
      ⟨pick .ipH (val .ipH / 256) cfg.etherIp.o0, pick .ipH (val .ipH) cfg.etherIp.o1,
        pick .ipL (val .ipL / 256) cfg.etherIp.o2, pick .ipL (val .ipL) cfg.etherIp.o3⟩
    etherNm :=
      ⟨pick .nmH (val .nmH / 256) cfg.etherNm.o0, pick .nmH (val .nmH) cfg.etherNm.o1,
        pick .nmL (val .nmL / 256) cfg.etherNm.o2, pick .nmL (val .nmL) cfg.etherNm.o3⟩
    etherGw :=
      ⟨pick .gwH (val .gwH / 256) cfg.etherGw.o0, pick .gwH (val .gwH) cfg.etherGw.o1,
        pick .gwL (val .gwL / 256) cfg.etherGw.o2, pick .gwL (val .gwL) cfg.etherGw.o3⟩ }

/-- `cfg_ctrl_commit_body`, with the dirty set taken before the commit cleared it. -/
def cfgCtrlCommitBody (dirty : CfgStg → Bool) (s : Sys) : Sys :=
  let ether := CfgStg.all.any fun field ↦ field.ether && dirty field
  { s with
    cfg := stgApplyToCfg s.modbus.stage.val dirty s.cfg
    lcd := { s.lcd with etherDirty := s.lcd.etherDirty || ether } }

/-- The CFG_CTRL branch after the register was erased; the flag asks for a save. -/
def cfgCtrlBody (link : MbLink) (ctrl : ℕ) (s : Sys) : Sys × Bool :=
  if ctrl = 1 then
    let commit := cfgStageCommit link s.measure.usOnStatus s.modbus.stage
    let committed := onModbus (fun modbus ↦ { modbus with stage := commit.1 }) s
    if commit.2 then (cfgCtrlCommitBody s.modbus.stage.dirty committed, true)
    else (committed, false)
  else if ctrl = 2 then (stageDiscard s, false)
  else (s, false)

/-- A branch of the chain: its guard, its effect, and whether it asks for a save. -/
abbrev ApplyRule : Type := Rule Sys (Sys × Bool)

/-- A configuration branch: the register differs from what the mirror shows for its field. -/
def cfgRule (reg : MbReg) (shown : AppConfig → ℕ) (store : ℕ → AppConfig → AppConfig) :
    ApplyRule where
  guard s := decide (holding s reg ≠ shown s.cfg)
  act s := ({ s with cfg := store (holding s reg) s.cfg }, true)

/-- An enable branch: only the exact values 0 and 1 act. -/
def enableRule (reg : MbReg) (shown : AppConfig → Bool) (store : Bool → AppConfig → AppConfig) :
    ApplyRule where
  guard s := (decide (holding s reg = 0) && shown s.cfg) ||
    (decide (holding s reg = 1) && !shown s.cfg)
  act s := ({ s with cfg := store (decide (holding s reg = 1)) s.cfg }, true)

/-- The safety-switch branch, normalised to 0 or 1. -/
def saftyRule : ApplyRule where
  guard s := decide (holding s .enSafty ≠ s.cfg.fSafty)
  act s :=
    let value := if holding s .enSafty = 1 then 1 else 0
    if value ≠ s.cfg.fSafty then ({ s with cfg := { s.cfg with fSafty := value } }, true)
    else (s, false)

/-- The horn-mode branch: volatile, so nothing is saved. -/
def hornRule : ApplyRule where
  guard s := decide (holding s .hornCmd ≠ s.horn.mode.toNat)
  act s := (appHornSetMode (decide (holding s .hornCmd ≠ 0)) s, false)

/-- `mb_work_cnt_reset_req` and its branch. -/
def workCntRule : ApplyRule where
  guard s := decide (s.modbus.core.lastWriteAddr = some .workCntL) &&
    decide (holding s .workCntL = 0) && decide (s.cfg.workCnt ≠ 0)
  act s := ({ s with cfg := { s.cfg with workCnt := 0 } }, true)

/-- The four command branches and the CFG_CTRL branch, each with its consume-and-clear. -/
def commandRules (link : MbLink) (input : ApplyIn) : List ApplyRule :=
  [⟨fun s ↦ decide (holding s .reset = 1),
      fun s ↦ (setHolding .reset 0 (appRegCommand .reset .comm 0 s), false)⟩,
   ⟨fun s ↦ decide (holding s .seek = 1),
      fun s ↦ (setHolding .seek 0 (appRegCommand .seek .comm 0 s), false)⟩,
   ⟨fun s ↦ decide (holding s .start ≠ 0),
      fun s ↦ (startCmdBody (holding s .start) input (setHolding .start 0 s), false)⟩,
   ⟨fun s ↦ decide (holding s .stop = 1),
      fun s ↦ (setHolding .stop 0 (appRegCommand .runRelease .comm 0 s), false)⟩,
   ⟨fun s ↦ decide (holding s .cfgCtrl ≠ 0),
      fun s ↦ cfgCtrlBody link (holding s .cfgCtrl) (setHolding .cfgCtrl 0 s)⟩]

/-- The configuration branches, in source order. -/
def configRules : List ApplyRule :=
  [cfgRule .delay1 (·.limitDelayTime1) fun v c ↦ { c with limitDelayTime1 := cfgClampMax v 500 },
   cfgRule .delay2 (·.limitDelayTime2) fun v c ↦ { c with limitDelayTime2 := cfgClampMax v 500 },
   cfgRule .delay3 (·.limitDelayTime3) fun v c ↦ { c with limitDelayTime3 := cfgClampMax v 2000 },
   cfgRule .trigger2 (·.limitTriggerTime2)
     fun v c ↦ { c with limitTriggerTime2 := cfgClampMax v 500 },
   cfgRule .trigger3 (·.limitTriggerTime3)
     fun v c ↦ { c with limitTriggerTime3 := cfgClampMax v 2000 },
   cfgRule .outPower (·.outputPower) fun v c ↦ { c with outputPower := cfgClampPower v },
   cfgRule .onTime (·.limitOnTime) fun v c ↦ { c with limitOnTime := cfgClampMax v 2000 },
   cfgRule .energy (·.limitEnergy % 65536) fun v c ↦ { c with limitEnergy := v },
   cfgRule .multiT1 (·.limitMoTime1) fun v c ↦ { c with limitMoTime1 := cfgClampMax v 2000 },
   cfgRule .multiT2 (·.limitMoTime2) fun v c ↦ { c with limitMoTime2 := cfgClampMax v 2000 },
   cfgRule .multiO1 (·.limitMoOut1) fun v c ↦ { c with limitMoOut1 := cfgClampPower v },
   cfgRule .multiO2 (·.limitMoOut2) fun v c ↦ { c with limitMoOut2 := cfgClampPower v },
   cfgRule .timeover (·.limitOutTime) fun v c ↦ { c with limitOutTime := cfgClampMax v 10 },
   cfgRule .runMode (·.runMode) fun v c ↦ { c with runMode := v % 256 },
   enableRule .enEnergy (·.energyCtrl) fun on c ↦ { c with energyCtrl := on },
   enableRule .enMulti (·.multiCtrl) fun on c ↦ { c with multiCtrl := on },
   saftyRule,
   hornRule,
   cfgRule .modelFreq (·.modelFreq) fun v c ↦ { c with modelFreq := v % 256 },
   cfgRule .modelType (·.modelType) fun v c ↦ { c with modelType := v % 256 },
   cfgRule .calVal (toUint16 ·.calVal) fun v c ↦ { c with calVal := cfgCalFromWire v },
   cfgRule .freqCalVal (toUint16 ·.freqCalVal)
     fun v c ↦ { c with freqCalVal := cfgCalFromWire v },
   workCntRule]

/-- The whole chain. -/
def applyRules (link : MbLink) (input : ApplyIn) : List ApplyRule :=
  commandRules link input ++ configRules

/-- The staged scan that ends the chain: the register written last, if it is a staged one. -/
def stagedScan (tStage : ℕ) (s : Sys) : Sys :=
  match CfgStg.all.find? fun field ↦ decide (s.modbus.core.lastWriteAddr = some field.reg) with
  | some field => onModbus (fun modbus ↦ { modbus with
      stage := cfgStageWrite field (holding s field.reg) tStage modbus.stage }) s
  | none => s

/-- The pass with an open gate. -/
def applyChain (link : MbLink) (input : ApplyIn) (s : Sys) : Sys :=
  let applied := firstMatch (fun s ↦ (stagedScan input.tStage s, false)) (applyRules link input) s
  if applied.2 then saveConfig input.bus applied.1 else applied.1

/-- A write-apply pass is counted. -/
def countApply (s : Sys) : Sys :=
  { s with ghost := { s.ghost with applies := s.ghost.applies + 1 } }

/-- The gate turns a write away. -/
def gateClosed (build : Build) (s : Sys) : Bool :=
  !build.gateBypass && decide (s.modbus.gate ≠ .enabled)

/-- `app_modbus_apply_writes`. -/
def appModbusApplyWrites (build : Build) (link : MbLink) (input : ApplyIn) (s : Sys) : Sys :=
  if gateClosed build s then gateRejectBody (countApply s)
  else applyChain link input (countApply s)

/-! ### Occupancy of the serial line -/

/-- `apply_config`. -/
def applyConfig (build : Build) (sensDn : Bool) (s : Sys) : Sys :=
  let applied := s.modbus.applied
  let want := decide (s.cfg.commMode = 0) && decide (s.cfg.commAddress ≠ 0)
  if want ∧ applied.owned ∧ s.cfg.commSpeedIdx = applied.speedIdx ∧
      s.cfg.commParityIdx = applied.parityIdx then
    if s.cfg.commAddress ≠ applied.addr then
      onModbus (fun modbus ↦ { modbus with
        applied := { applied with addr := s.cfg.commAddress }
        core := { modbus.core with deviceAddr := s.cfg.commAddress } }) s
    else s
  else if want = false then
    onModbus (fun modbus ↦ { modbus with applied := { applied with owned := false } }) s
  else
    mirrorLive build sensDn (onModbus (fun modbus ↦ { modbus with
      core := mbCoreInit s.cfg.commAddress
      applied := ⟨true, s.cfg.commSpeedIdx, s.cfg.commParityIdx, s.cfg.commAddress⟩ })
      (stageDiscard s))

/-! ### TCP server -/

/-- `MB_TCP_ACC_LEN` and `MB_TCP_FRAMES_PER_POLL`. -/
def mbTcpAccLen : ℕ := 2 * (mbTcpMbapLen + mbFrameMax)

def mbTcpFramesPerPoll : ℕ := 4

/-- The socket states `control_tcp` distinguishes. -/
inductive SocketState
  | established
  | closeWait
  | init
  | closed
  | other
  deriving DecidableEq, Repr

/-- What one `app_modbus_tcp_poll` reads: the socket state and its connect interrupt, the state
read again, the bytes `recv` returns, and the clock at the reads the code makes. -/
structure TcpPollIn where
  socket : SocketState
  connected : Bool
  tConnect : ℕ
  tCloseWait : ℕ
  established : Bool
  rx : List UInt8
  tReq : ℕ → ℕ
  tRx : ℕ → ℕ

/-- An update of `app_modbus_tcp.c`. -/
def onTcp (update : TcpGlue → TcpGlue) (s : Sys) : Sys := { s with tcp := update s.tcp }

/-- `app_modbus_tcp_reset`. -/
def appModbusTcpReset (s : Sys) : Sys :=
  onTcp (fun tcp ↦ { tcp with acc := [], cwActive := false }) s

/-- `control_tcp`; the commands it gives the socket show in the next state that is read. -/
def controlTcp (input : TcpPollIn) (s : Sys) : Sys :=
  onTcp (fun tcp ↦ match input.socket with
    | .established =>
      if input.connected then
        { tcp with cwActive := false, acc := [], lastRxMs := input.tConnect }
      else { tcp with cwActive := false }
    | .closeWait =>
      if tcp.cwActive = false then { tcp with cwActive := true, cwSinceMs := input.tCloseWait }
      else if elapsedMs input.tCloseWait tcp.cwSinceMs > 500 then { tcp with cwActive := false }
      else tcp
    | .init | .closed => { tcp with cwActive := false }
    | .other => tcp) s

/-- What the frame loop of a poll leaves: the state, the unread rest of the buffer and the bytes to
send. -/
structure TcpWalk where
  sys : Sys
  rest : List UInt8
  tx : List UInt8

/-- The frame loop of `app_modbus_tcp_poll`: complete frames in order, up to and including the
first FC 06. `index` numbers the frames of the poll. -/
def tcpWalk (build : Build) (input : TcpPollIn) (apply : ApplyIn) :
    ℕ → ℕ → List UInt8 → Sys → TcpWalk
  | 0, _, rest, s => ⟨s, rest, []⟩
  | fuel + 1, index, rest, s =>
    match mbTcpFramePeek rest with
    | .desync => ⟨s, [], []⟩
    | .needMore => ⟨s, rest, []⟩
    | .ok length =>
      let out := mbTcpBuildResponse (rest.take length) s.modbus.core
      let decoded := onCore (fun _ ↦ out.core) s
      if out.resp = [] then tcpWalk build input apply fuel (index + 1) (rest.drop length) decoded
      else
        let noted := onTcp (fun tcp ↦ { tcp with lastRxMs := input.tRx index })
          (appModbusNoteRemote (input.tReq index) decoded)
        if out.fc = 6 then
          ⟨appModbusApplyWrites build .tcp apply noted, rest.drop length, out.resp⟩
        else
          let walk := tcpWalk build input apply fuel (index + 1) (rest.drop length) noted
          { walk with tx := out.resp ++ walk.tx }

/-- `app_modbus_tcp_poll`. -/
def appModbusTcpPoll (build : Build) (input : TcpPollIn) (apply : ApplyIn) (s : Sys) : Sys :=
  let s := controlTcp input s
  if input.established = false then s
  else
    let acc := s.tcp.acc ++ input.rx.take (mbTcpAccLen - s.tcp.acc.length)
    let walk := tcpWalk build input apply mbTcpFramesPerPoll 0 acc s
    onTcp (fun tcp ↦ { tcp with acc := walk.rest }) walk.sys

/-- `tcp_leave`. -/
def tcpLeave (s : Sys) : Sys :=
  if s.modbus.tcpActive then
    onModbus (fun modbus ↦ { modbus with tcpActive := false }) (appModbusTcpReset s)
  else s

/-! ### The tick -/

/-- What one `app_modbus_tick` reads: the clock and the interlock line of the gate, the clocks of
the watchdog and the staging timeout, the sensor line at the two mirrors, the serial frame with the
clock of its stamp, the apply pass, and the TCP poll. -/
structure ModbusTickIn where
  tGate : ℕ
  remoteEnPin : Bool
  tHold : ℕ
  tStage : ℕ
  sensDnAcquire : Bool
  sensDn : Bool
  rx : List UInt8
  tReq : ℕ
  apply : ApplyIn
  tcp : TcpPollIn

/-- The RTU branch behind its mirror: at most one frame. -/
def rtuServe (build : Build) (input : ModbusTickIn) (s : Sys) : Sys :=
  if input.rx = [] then s
  else
    let out := mbCoreDecode .rtu input.rx s.modbus.core
    let decoded := onCore (fun _ ↦ out.core) s
    let noted := if out.resp = [] then decoded else appModbusNoteRemote input.tReq decoded
    if out.fc = 6 then appModbusApplyWrites build .rtu input.apply noted else noted

/-- The baseline of a TCP server that becomes active. -/
def tcpEnter (s : Sys) : Sys :=
  if s.modbus.tcpActive then s
  else onModbus (fun modbus ↦ { modbus with
    core := mbCoreInit s.cfg.commAddress, tcpActive := true }) (stageDiscard s)

/-- The parts of `app_modbus_tick` that precede the transports. -/
def modbusHead (build : Build) (input : ModbusTickIn) (s : Sys) : Sys :=
  applyConfig build input.sensDnAcquire (stageTick input.tStage (holdWdtBlock input.tHold
    (remoteEnStep build input.tGate input.remoteEnPin s)))

/-- The transport branches of `app_modbus_tick`. -/
def modbusServe (build : Build) (input : ModbusTickIn) (s : Sys) : Sys :=
  if s.modbus.applied.owned then
    rtuServe build input (mirrorLive build input.sensDn (tcpLeave s))
  else if s.cfg.commMode ≠ 0 ∧ s.eth.available then
    appModbusTcpPoll build input.tcp input.apply (mirrorLive build input.sensDn (tcpEnter s))
  else tcpLeave s

/-- `app_modbus_tick`. -/
def appModbusTick (build : Build) (input : ModbusTickIn) (s : Sys) : Sys :=
  modbusServe build input (modbusHead build input s)

end UsCtrl
