import UsCtrl.Foundation.WrapClock
import Mathlib.Data.Int.Basic

/-!
# Shared types, the live configuration and its FRAM image

The enumerations every module of the controller speaks (`UsRun` for `us_run_status`, `UsCmd` for
`us_cmd_t`, `ErrorStatus` for the `ERR_*` bit mask), the millisecond clock, and `app_config.c`: the
live configuration (`AppConfig`), its factory defaults, and its FRAM map with load and save.

Clock stamps are kept as unreduced milliseconds since power-up. The firmware keeps them modulo
`2 ^ 32` and only ever reads them through an unsigned difference, which is `elapsedMs`.

An `I2cBus` is the fate of the transfers of one call: which reads answer and which written bytes
reach the device. Nothing is assumed about it.
-/

set_option autoImplicit false
set_option relaxedAutoImplicit false

namespace UsCtrl

open Foundation

/-! ### Clock -/

/-- The `uint32_t` difference `now - stamp` of two `sys_tick_get_ms` reads. -/
def elapsedMs (now stamp : ℕ) : ℕ := wrapElapsed (2 ^ 32) now stamp

/-- Assumes: the stamp is not in the future and less than `2 ^ 32` ms old. -/
theorem elapsedMs_of_le {now stamp : ℕ} (hle : stamp ≤ now) (hlt : now - stamp < 2 ^ 32) :
    elapsedMs now stamp = now - stamp := wrapElapsed_of_le hle hlt

@[simp] theorem elapsedMs_self (now : ℕ) : elapsedMs now now = 0 :=
  wrapElapsed_self (Nat.two_pow_pos 32)

/-! ### Enumerations -/

/-- `us_run_status`: who owns the active ultrasonic run. -/
inductive UsRun
  | idle
  | remote
  | touch
  | comm
  | cycle
  deriving DecidableEq, Repr

/-- `us_cmd_t`. -/
inductive UsCmd
  | start
  | seek
  | reset
  | runRelease
  deriving DecidableEq, Repr

/-- The `ERR_*` bits of an `error_status` word. -/
structure ErrorStatus where
  ovld : Bool
  ovtime : Bool
  outerr : Bool
  deriving DecidableEq, Repr

/-- `ERR_NOERROR`. -/
def ErrorStatus.clear : ErrorStatus := ⟨false, false, false⟩

/-- The test `error_status != 0`. -/
def ErrorStatus.any (error : ErrorStatus) : Bool := error.ovld || error.ovtime || error.outerr

@[simp] theorem ErrorStatus.any_clear : ErrorStatus.clear.any = false := rfl

/-! ### Configuration -/

/-- Four octets of an `ether_*` field. -/
structure Octets where
  o0 : ℕ
  o1 : ℕ
  o2 : ℕ
  o3 : ℕ
  deriving DecidableEq, Repr

/-- `app_config_t`. Fields are raw register values; `calVal` and `freqCalVal` are `int16_t`. -/
structure AppConfig where
  modelFreq : ℕ
  modelType : ℕ
  fSafty : ℕ
  runMode : ℕ
  limitDelayTime1 : ℕ
  limitDelayTime2 : ℕ
  limitDelayTime3 : ℕ
  limitTriggerTime2 : ℕ
  limitTriggerTime3 : ℕ
  limitOnTime : ℕ
  limitOutTime : ℕ
  limitMoOut1 : ℕ
  limitMoOut2 : ℕ
  limitMoTime1 : ℕ
  limitMoTime2 : ℕ
  outputPower : ℕ
  workCnt : ℕ
  limitEnergy : ℕ
  energyCtrl : Bool
  multiCtrl : Bool
  calVal : ℤ
  freqCalVal : ℤ
  commAddress : ℕ
  commSpeedIdx : ℕ
  commParityIdx : ℕ
  commMode : ℕ
  etherIp : Octets
  etherNm : Octets
  etherGw : Octets
  deriving DecidableEq, Repr

/-- `app_config_factory_defaults`. -/
def appConfigFactoryDefaults : AppConfig where
  modelFreq := 0
  modelType := 0
  fSafty := 0
  runMode := 0
  limitDelayTime1 := 50
  limitDelayTime2 := 50
  limitDelayTime3 := 50
  limitTriggerTime2 := 50
  limitTriggerTime3 := 50
  limitOnTime := 50
  limitOutTime := 10
  limitMoOut1 := 25
  limitMoOut2 := 50
  limitMoTime1 := 25
  limitMoTime2 := 50
  outputPower := 50
  workCnt := 0
  limitEnergy := 100000
  energyCtrl := false
  multiCtrl := false
  calVal := 0
  freqCalVal := 0
  commAddress := 0
  commSpeedIdx := 0
  commParityIdx := 0
  commMode := 0
  etherIp := ⟨0, 0, 0, 0⟩
  etherNm := ⟨0, 0, 0, 0⟩
  etherGw := ⟨0, 0, 0, 0⟩

/-- `cfg_clamp_max`. -/
def cfgClampMax (value max : ℕ) : ℕ := if value > max then max else value

/-- `cfg_clamp_power`: the range `[50, 100]`. -/
def cfgClampPower (value : ℕ) : ℕ := if value > 100 then 100 else if value < 50 then 50 else value

/-- A 16-bit word read as `int16_t`. -/
def toInt16 (word : ℕ) : ℤ := if word % 65536 < 32768 then word % 65536 else word % 65536 - 65536

/-- An `int16_t` cast to `uint16_t`. -/
def toUint16 (value : ℤ) : ℕ := (value % 65536).toNat

/-! ### FRAM -/

/-- The 256 bytes of the FRAM page. -/
abbrev Fram : Type := ℕ → ℕ

/-- What the I2C bus does with the transfers of one call: whether the read that starts at an
address answers, and whether a byte written at an address is stored. -/
structure I2cBus where
  readOk : ℕ → Bool
  writeOk : ℕ → Bool

/-- A bus without faults. -/
def I2cBus.sound : I2cBus := ⟨fun _ ↦ true, fun _ ↦ true⟩

/-- Big-endian bytes of a word, most significant first. -/
def u16Bytes (value : ℕ) : List ℕ := [value / 256 % 256, value % 256]

def u32Bytes (value : ℕ) : List ℕ :=
  [value / 16777216 % 256, value / 65536 % 256, value / 256 % 256, value % 256]

/-- `fram_write_*`: consecutive bytes from `addr` on; the firmware does not look at the result. -/
def framWrite (bus : I2cBus) (addr : ℕ) (bytes : List ℕ) (fram : Fram) : Fram :=
  match bytes with
  | [] => fram
  | byte :: rest =>
    framWrite bus (addr + 1) rest
      (if bus.writeOk addr then Function.update fram addr (byte % 256) else fram)

def framReadU16 (fram : Fram) (addr : ℕ) : ℕ := fram addr * 256 + fram (addr + 1)

def framReadU32 (fram : Fram) (addr : ℕ) : ℕ :=
  fram addr * 16777216 + fram (addr + 1) * 65536 + fram (addr + 2) * 256 + fram (addr + 3)

/-- `FRAM_INIT_FLAG_MAGIC`. -/
def framInitFlagMagic : ℕ := 0xAA

/-- The writes of `app_config_save_all`, in order: address and bytes of every stored field. -/
def framMap (cfg : AppConfig) : List (ℕ × List ℕ) :=
  [(1, u32Bytes cfg.workCnt), (5, u16Bytes cfg.limitDelayTime1), (7, u16Bytes cfg.limitDelayTime2),
   (9, u16Bytes cfg.limitDelayTime3), (11, u16Bytes cfg.limitTriggerTime2),
   (13, u16Bytes cfg.limitTriggerTime3), (15, [cfg.fSafty]), (16, [cfg.runMode]),
   (17, [cfg.modelFreq]), (18, [cfg.modelType]), (19, [cfg.outputPower]),
   (20, u16Bytes cfg.limitOnTime), (34, [cfg.energyCtrl.toNat]), (35, [cfg.multiCtrl.toNat]),
   (22, u32Bytes cfg.limitEnergy), (26, u16Bytes cfg.limitMoTime1), (28, u16Bytes cfg.limitMoTime2),
   (30, u16Bytes cfg.limitMoOut1), (32, u16Bytes cfg.limitMoOut2), (36, [cfg.limitOutTime]),
   (37, [cfg.commAddress]), (38, [cfg.commSpeedIdx]), (39, [cfg.commParityIdx]),
   (40, u16Bytes (toUint16 cfg.calVal)), (42, u16Bytes (toUint16 cfg.freqCalVal)),
   (44, [cfg.commMode]),
   (45, [cfg.etherIp.o0]), (49, [cfg.etherNm.o0]), (53, [cfg.etherGw.o0]),
   (46, [cfg.etherIp.o1]), (50, [cfg.etherNm.o1]), (54, [cfg.etherGw.o1]),
   (47, [cfg.etherIp.o2]), (51, [cfg.etherNm.o2]), (55, [cfg.etherGw.o2]),
   (48, [cfg.etherIp.o3]), (52, [cfg.etherNm.o3]), (56, [cfg.etherGw.o3])]

/-- `app_config_save_all`. -/
def appConfigSaveAll (bus : I2cBus) (cfg : AppConfig) (fram : Fram) : Fram :=
  (framMap cfg).foldl (fun image write ↦ framWrite bus write.1 write.2 image) fram

/-- One `if (fram_read(..)) { cfg->field = .. } else { fail++; }` of `app_config_load`: the
address of the read and the assignment made from the image when it answers. -/
structure FramField where
  addr : ℕ
  assign : Fram → AppConfig → AppConfig

/-- The field reads of `app_config_load`, in order, with the clamps made while loading. -/
def framFields : List FramField :=
  [⟨1, fun f c ↦ { c with workCnt := framReadU32 f 1 }⟩,
   ⟨5, fun f c ↦ { c with limitDelayTime1 := framReadU16 f 5 }⟩,
   ⟨7, fun f c ↦ { c with limitDelayTime2 := framReadU16 f 7 }⟩,
   ⟨9, fun f c ↦ { c with limitDelayTime3 := framReadU16 f 9 }⟩,
   ⟨11, fun f c ↦ { c with limitTriggerTime2 := framReadU16 f 11 }⟩,
   ⟨13, fun f c ↦ { c with limitTriggerTime3 := framReadU16 f 13 }⟩,
   ⟨15, fun f c ↦ { c with fSafty := f 15 }⟩,
   ⟨16, fun f c ↦ { c with runMode := f 16 }⟩,
   ⟨17, fun f c ↦ { c with modelFreq := f 17 }⟩,
   ⟨18, fun f c ↦ { c with modelType := f 18 }⟩,
   ⟨19, fun f c ↦ { c with outputPower := cfgClampPower (f 19) }⟩,
   ⟨20, fun f c ↦ { c with limitOnTime := framReadU16 f 20 }⟩,
   ⟨34, fun f c ↦ { c with energyCtrl := f 34 == 1 }⟩,
   ⟨22, fun f c ↦ { c with limitEnergy := cfgClampMax (framReadU32 f 22) 100000 }⟩,
   ⟨35, fun f c ↦ { c with multiCtrl := f 35 == 1 }⟩,
   ⟨26, fun f c ↦ { c with limitMoTime1 := framReadU16 f 26 }⟩,
   ⟨28, fun f c ↦ { c with limitMoTime2 := framReadU16 f 28 }⟩,
   ⟨30, fun f c ↦ { c with limitMoOut1 := framReadU16 f 30 }⟩,
   ⟨32, fun f c ↦ { c with limitMoOut2 := framReadU16 f 32 }⟩,
   ⟨36, fun f c ↦ { c with limitOutTime := f 36 }⟩,
   ⟨37, fun f c ↦ { c with commAddress := f 37 }⟩,
   ⟨38, fun f c ↦ { c with commSpeedIdx := if f 38 > 5 then 0 else f 38 }⟩,
   ⟨39, fun f c ↦ { c with commParityIdx := if f 39 > 2 then 0 else f 39 }⟩,
   ⟨40, fun f c ↦ { c with calVal := toInt16 (framReadU16 f 40) }⟩,
   ⟨42, fun f c ↦ { c with freqCalVal := toInt16 (framReadU16 f 42) }⟩,
   ⟨44, fun f c ↦ { c with commMode := f 44 }⟩,
   ⟨45, fun f c ↦ { c with etherIp := { c.etherIp with o0 := f 45 } }⟩,
   ⟨49, fun f c ↦ { c with etherNm := { c.etherNm with o0 := f 49 } }⟩,
   ⟨53, fun f c ↦ { c with etherGw := { c.etherGw with o0 := f 53 } }⟩,
   ⟨46, fun f c ↦ { c with etherIp := { c.etherIp with o1 := f 46 } }⟩,
   ⟨50, fun f c ↦ { c with etherNm := { c.etherNm with o1 := f 50 } }⟩,
   ⟨54, fun f c ↦ { c with etherGw := { c.etherGw with o1 := f 54 } }⟩,
   ⟨47, fun f c ↦ { c with etherIp := { c.etherIp with o2 := f 47 } }⟩,
   ⟨51, fun f c ↦ { c with etherNm := { c.etherNm with o2 := f 51 } }⟩,
   ⟨55, fun f c ↦ { c with etherGw := { c.etherGw with o2 := f 55 } }⟩,
   ⟨48, fun f c ↦ { c with etherIp := { c.etherIp with o3 := f 48 } }⟩,
   ⟨52, fun f c ↦ { c with etherNm := { c.etherNm with o3 := f 52 } }⟩,
   ⟨56, fun f c ↦ { c with etherGw := { c.etherGw with o3 := f 56 } }⟩]

/-- What `app_config_load` leaves: the configuration, its return code and the FRAM. -/
structure ConfigLoad where
  cfg : AppConfig
  fail : ℕ
  fram : Fram

/-- `app_config_load`: defaults first, then every field whose read answers. A silent bus leaves the
FRAM alone, a blank FRAM is factory-written, an oversized energy limit is written back clamped. -/
def appConfigLoad (bus : I2cBus) (fram : Fram) : ConfigLoad :=
  if bus.readOk 0 = false then ⟨appConfigFactoryDefaults, 0xFF, fram⟩
  else if fram 0 ≠ framInitFlagMagic then
    ⟨appConfigFactoryDefaults, 0, appConfigSaveAll bus appConfigFactoryDefaults
      (framWrite bus 0 [framInitFlagMagic] fram)⟩
  else
    let loaded := framFields.foldl (fun acc field ↦
      if bus.readOk field.addr then (field.assign fram acc.1, acc.2) else (acc.1, acc.2 + 1))
      (appConfigFactoryDefaults, 0)
    ⟨loaded.1, loaded.2,
      if bus.readOk 22 && framReadU32 fram 22 > 100000
      then framWrite bus 22 (u32Bytes 100000) fram else fram⟩

end UsCtrl
