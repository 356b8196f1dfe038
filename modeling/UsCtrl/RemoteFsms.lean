import UsCtrl.Config

/-!
# The cores of the remote side

The pure cores behind the Modbus glue: the hold-to-run watchdog (`app_hold_wdt_fsm.c`), the remote
enable gate (`app_remote_en_fsm.c`) and the staging buffer of the communication settings
(`app_cfg_stage.c`).

The watchdog trips only while armed and while the run it watches is the one reported active, and it
disarms whenever it trips or sees that run gone (`holdWdtStep_trip`, `holdWdtStep_armed`).
-/

set_option autoImplicit false
set_option relaxedAutoImplicit false

namespace UsCtrl

/-! ### Hold-to-run watchdog -/

/-- `HOLD_WDT_MS`. -/
def holdWdtMs : ℕ := 600

/-- `hold_wdt_t`. -/
structure HoldWdt where
  armed : Bool
  lastKeepMs : ℕ
  deriving DecidableEq, Repr

/-- `hold_wdt_init`. -/
def holdWdtInit : HoldWdt := ⟨false, 0⟩

/-- `hold_wdt_arm`. -/
def holdWdtArm (nowMs : ℕ) (_wdt : HoldWdt) : HoldWdt := ⟨true, nowMs⟩

/-- `hold_wdt_keep`: refreshes an armed session, and nothing else. -/
def holdWdtKeep (nowMs : ℕ) (wdt : HoldWdt) : HoldWdt :=
  if wdt.armed then { wdt with lastKeepMs := nowMs } else wdt

/-- `hold_wdt_step`; the second component is the trip. -/
def holdWdtStep (nowMs : ℕ) (runIsComm : Bool) (wdt : HoldWdt) : HoldWdt × Bool :=
  if wdt.armed = false then (wdt, false)
  else if runIsComm = false then ({ wdt with armed := false }, false)
  else if elapsedMs nowMs wdt.lastKeepMs ≥ holdWdtMs then ({ wdt with armed := false }, true)
  else (wdt, false)

theorem holdWdtStep_trip (nowMs : ℕ) (runIsComm : Bool) (wdt : HoldWdt) :
    (holdWdtStep nowMs runIsComm wdt).2 = true ↔
      wdt.armed = true ∧ runIsComm = true ∧ elapsedMs nowMs wdt.lastKeepMs ≥ holdWdtMs := by
  unfold holdWdtStep
  split_ifs <;> simp_all

/-- A session outlives the step exactly when its run is active and its last keep is fresh. -/
theorem holdWdtStep_armed (nowMs : ℕ) (runIsComm : Bool) (wdt : HoldWdt) :
    (holdWdtStep nowMs runIsComm wdt).1.armed = true ↔
      wdt.armed = true ∧ runIsComm = true ∧ elapsedMs nowMs wdt.lastKeepMs < holdWdtMs := by
  unfold holdWdtStep
  split_ifs <;> simp_all

@[simp] theorem holdWdtStep_lastKeepMs (nowMs : ℕ) (runIsComm : Bool) (wdt : HoldWdt) :
    (holdWdtStep nowMs runIsComm wdt).1.lastKeepMs = wdt.lastKeepMs := by
  unfold holdWdtStep
  split_ifs <;> rfl

@[simp] theorem holdWdtKeep_armed (nowMs : ℕ) (wdt : HoldWdt) :
    (holdWdtKeep nowMs wdt).armed = wdt.armed := by
  unfold holdWdtKeep
  split_ifs <;> rfl

/-! ### Remote enable gate -/

/-- `REN_*`. -/
inductive RemoteEn
  | disabled
  | enabled
  | disLink
  | disEstop
  deriving DecidableEq, Repr

/-- The `0x2B` wire value of a gate state. -/
def RemoteEn.wire : RemoteEn → ℕ
  | .disabled => 0
  | .enabled => 1
  | .disLink => 3
  | .disEstop => 4

/-- `SILENCE_MS`. -/
def silenceMs : ℕ := 10 * 1000

/-- The static state of `app_remote_en_fsm.c`. -/
structure RemoteEnFsm where
  state : RemoteEn
  enterMs : ℕ
  silenceArmed : Bool
  deriving DecidableEq, Repr

/-- `remote_en_in_t`. -/
structure RemoteEnIn where
  nowMs : ℕ
  sw : Bool
  lastReqMs : ℕ
  reqValid : Bool
  estop : Bool

/-- `remote_en_fsm_init`. -/
def remoteEnFsmInit : RemoteEnFsm := ⟨.disabled, 0, false⟩

/-- The link is alive: a request was decoded within the silence limit. -/
def remoteLinkAlive (input : RemoteEnIn) : Bool :=
  input.reqValid && decide (elapsedMs input.nowMs input.lastReqMs < silenceMs)

/-- Part (5) of `remote_en_fsm_step`: arm the silence watch on the first request after entry and
fall to DIS_LINK when an armed link is silent. -/
def remoteSilenceStep (input : RemoteEnIn) (fsm : RemoteEnFsm) : RemoteEnFsm :=
  let armed := if fsm.silenceArmed then true
    else input.reqValid &&
      decide (elapsedMs input.lastReqMs fsm.enterMs ≤ elapsedMs input.nowMs fsm.enterMs)
  { fsm with
    silenceArmed := armed
    state := if armed && !remoteLinkAlive input then .disLink else fsm.state }

/-- `remote_en_fsm_step`; the output is the state. -/
def remoteEnFsmStep (input : RemoteEnIn) (fsm : RemoteEnFsm) : RemoteEnFsm :=
  if input.sw = false then { fsm with state := .disabled, silenceArmed := false }
  else if input.estop then { fsm with state := .disEstop }
  else if fsm.state ≠ .enabled then
    if fsm.state = .disLink ∧ remoteLinkAlive input = false then fsm
    else remoteSilenceStep input ⟨.enabled, input.nowMs, remoteLinkAlive input⟩
  else remoteSilenceStep input fsm

/-! ### Staged communication settings -/

/-- `CFG_STG_*`. -/
inductive CfgStg
  | addr
  | speed
  | parity
  | ipH
  | ipL
  | nmH
  | nmL
  | gwH
  | gwL
  deriving DecidableEq, Repr

/-- The staged fields in register order. -/
def CfgStg.all : List CfgStg := [.addr, .speed, .parity, .ipH, .ipL, .nmH, .nmL, .gwH, .gwL]

theorem CfgStg.mem_all (field : CfgStg) : field ∈ CfgStg.all := by cases field <;> decide

/-- `CFG_STG_SERIAL_MASK`. -/
def CfgStg.serial : CfgStg → Bool
  | .addr | .speed | .parity => true
  | _ => false

/-- `CFG_STG_ETHER_MASK`. -/
def CfgStg.ether (field : CfgStg) : Bool := !field.serial

/-- `CFG_STAT_*`. -/
inductive CfgStat
  | idle
  | staged
  | commitOk
  | rejRange
  | rejSameLink
  | rejRunning
  | rejTimeout
  deriving DecidableEq, Repr

/-- The `0x29` wire value of a staging status. -/
def CfgStat.wire : CfgStat → ℕ
  | .idle => 0
  | .staged => 1
  | .commitOk => 2
  | .rejRange => 3
  | .rejSameLink => 4
  | .rejRunning => 5
  | .rejTimeout => 6

/-- `mb_link_t`. -/
inductive MbLink
  | rtu
  | tcp
  deriving DecidableEq, Repr

/-- `CFG_STAGE_TIMEOUT_MS`. -/
def cfgStageTimeoutMs : ℕ := 30000

/-- `cfg_stage_t`; the dirty mask is a set of fields. -/
structure CfgStage where
  val : CfgStg → ℕ
  dirty : CfgStg → Bool
  lastWriteMs : ℕ
  stat : CfgStat

/-- `cfg_stage_init`. -/
def cfgStageInit : CfgStage := ⟨fun _ ↦ 0, fun _ ↦ false, 0, .idle⟩

/-- The test `s->dirty != 0`. -/
def CfgStage.anyDirty (stage : CfgStage) : Bool := CfgStg.all.any stage.dirty

/-- `cfg_stage_write`. -/
def cfgStageWrite (field : CfgStg) (value nowMs : ℕ) (stage : CfgStage) : CfgStage where
  val := Function.update stage.val field value
  dirty := Function.update stage.dirty field true
  lastWriteMs := nowMs
  stat := .staged

/-- `cfg_stage_discard`. -/
def cfgStageDiscard (stage : CfgStage) : CfgStage :=
  { stage with dirty := fun _ ↦ false, stat := .idle }

/-- `cfg_stage_tick`. -/
def cfgStageTick (nowMs : ℕ) (stage : CfgStage) : CfgStage :=
  if stage.anyDirty = false then stage
  else if elapsedMs nowMs stage.lastWriteMs ≥ cfgStageTimeoutMs then
    { stage with dirty := fun _ ↦ false, stat := .rejTimeout }
  else stage

/-- A staged value outside the range its field is checked against. -/
def cfgStageOutOfRange (stage : CfgStage) : Bool :=
  (stage.dirty .addr && (decide (stage.val .addr < 1) || decide (stage.val .addr > 247))) ||
    (stage.dirty .speed && decide (stage.val .speed > 5)) ||
    (stage.dirty .parity && decide (stage.val .parity > 2))

/-- A commit that would cut the link it arrived on. -/
def cfgStageSameLink (link : MbLink) (stage : CfgStage) : Bool :=
  match link with
  | .rtu => CfgStg.all.any fun field ↦ field.serial && stage.dirty field
  | .tcp => CfgStg.all.any fun field ↦ field.ether && stage.dirty field

/-- `cfg_stage_commit`: range, then same link, then running; the second component says whether the
caller is to apply the staged values. -/
def cfgStageCommit (link : MbLink) (running : Bool) (stage : CfgStage) : CfgStage × Bool :=
  if stage.anyDirty = false then (stage, false)
  else if cfgStageOutOfRange stage then ({ stage with stat := .rejRange }, false)
  else if cfgStageSameLink link stage then ({ stage with stat := .rejSameLink }, false)
  else if running then ({ stage with stat := .rejRunning }, false)
  else ({ stage with dirty := fun _ ↦ false, stat := .commitOk }, true)

/-- `cfg_cal_from_wire`: two's complement first, then the clamp to `[-1000, 1000]`. -/
def cfgCalFromWire (wire : ℕ) : ℤ :=
  if toInt16 wire > 1000 then 1000 else if toInt16 wire < -1000 then -1000 else toInt16 wire

end UsCtrl
