import UsCtrl.Config

/-!
# The Modbus slave core and its TCP framing

`app_modbus_core.c` (register and coil tables, CRC, decoding of one complete request) and
`app_modbus_tcp_frame.c` (MBAP framing), byte for byte. Registers are the inductive type `MbReg`,
so that an out-of-range address has no register; `MbReg.ofAddr` is the bound check of the source.

The glue relies on one fact about decoding: a request either leaves the register table alone and
does not report function code 6, or it is an in-range write that changes the one register it
addresses, records it as the last one written, and is answered (`mbCoreDecode_cases`,
`mbTcpBuildResponse_cases`).
-/

set_option autoImplicit false
set_option relaxedAutoImplicit false

namespace UsCtrl

/-! ### Registers and tables -/

/-- The holding registers `0x00 .. 0x32`, in address order. -/
inductive MbReg
  | workCntH | workCntL | dispPower | dispAmp | dispFreq | dispEnergy | outPower | onTime
  | energy | timeover | delay1 | delay2 | delay3 | trigger2 | trigger3 | multiT1
  | multiT2 | multiO1 | multiO2 | runMode | enEnergy | enMulti | enSafty | modelFreq
  | modelType | reset | seek | start | stop | status | commAddr | commSpeed
  | commParity | commMode | etherIpH | etherIpL | etherNmH | etherNmL | etherGwH | etherGwL
  | cfgCtrl | cfgStat | remoteCap | remoteEn | remoteEnLeft | reserved2D | calVal | freqCalVal
  | hornCmd | cfgCap | featCap
  deriving DecidableEq, Repr

/-- The register map as a table. -/
def MbReg.all : List MbReg :=
  [.workCntH, .workCntL, .dispPower, .dispAmp, .dispFreq, .dispEnergy, .outPower, .onTime,
   .energy, .timeover, .delay1, .delay2, .delay3, .trigger2, .trigger3, .multiT1,
   .multiT2, .multiO1, .multiO2, .runMode, .enEnergy, .enMulti, .enSafty, .modelFreq,
   .modelType, .reset, .seek, .start, .stop, .status, .commAddr, .commSpeed,
   .commParity, .commMode, .etherIpH, .etherIpL, .etherNmH, .etherNmL, .etherGwH, .etherGwL,
   .cfgCtrl, .cfgStat, .remoteCap, .remoteEn, .remoteEnLeft, .reserved2D, .calVal, .freqCalVal,
   .hornCmd, .cfgCap, .featCap]

/-- `MB_REG_COUNT`. -/
def mbRegCount : ℕ := 51

example : MbReg.all.length = mbRegCount := rfl

/-- The register at an address, if the address is in range. -/
def MbReg.ofAddr (addr : ℕ) : Option MbReg := MbReg.all[addr]?

/-- `MB_COIL_COUNT`, `MB_FRAME_MAX`, `MB_RESP_MAX`. -/
def mbCoilCount : ℕ := 50

def mbFrameMax : ℕ := 125

def mbRespMax : ℕ := 125

/-- `mb_core_t`; `lastWriteAddr = none` is `MB_REG_NONE`. -/
structure MbCore where
  holding : MbReg → ℕ
  coils : ℕ → ℕ
  deviceAddr : ℕ
  lastWriteAddr : Option MbReg

/-- `mb_core_init`. -/
def mbCoreInit (deviceAddr : ℕ) : MbCore := ⟨fun _ ↦ 0, fun _ ↦ 0, deviceAddr, none⟩

/-- A store into one holding register. -/
def MbCore.setReg (core : MbCore) (reg : MbReg) (value : ℕ) : MbCore :=
  { core with holding := Function.update core.holding reg value }

/-! ### Bytes and CRC -/

/-- A byte of the frame; the callers have checked the length. -/
def byteAt (frame : List UInt8) (index : ℕ) : ℕ := (frame.getD index 0).toNat

/-- A big-endian word of the frame. -/
def wordAt (frame : List UInt8) (index : ℕ) : ℕ :=
  byteAt frame index * 256 + byteAt frame (index + 1)

/-- The two bytes of a word, high byte first. -/
def wordBytes (value : ℕ) : List UInt8 := [UInt8.ofNat (value / 256), UInt8.ofNat value]

/-- One bit of the CRC shift. -/
def mbCrcShift (crc : UInt16) : UInt16 :=
  if crc &&& 1 ≠ 0 then (crc >>> 1) ^^^ 0xA001 else crc >>> 1

/-- One byte of the CRC. -/
def mbCrcByte (crc : UInt16) (byte : UInt8) : UInt16 :=
  (List.range 8).foldl (fun acc _ ↦ mbCrcShift acc) (crc ^^^ byte.toUInt16)

/-- `mb_crc16`: the result is byte-swapped, the first wire byte in the high half. -/
def mbCrc16 (buf : List UInt8) : ℕ :=
  let crc := (buf.foldl mbCrcByte 0xFFFF).toNat
  crc % 256 * 256 + crc / 256

/-- A response body followed by its CRC. -/
def withCrc (body : List UInt8) : List UInt8 := body ++ wordBytes (mbCrc16 body)

/-! ### Requests -/

/-- What decoding leaves: the tables, the bytes to send (none is silence) and `*fc_out`. -/
structure DecodeOut where
  core : MbCore
  resp : List UInt8
  fc : ℕ

/-- Silence: nothing changed, nothing to send. -/
def DecodeOut.silent (core : MbCore) : DecodeOut := ⟨core, [], 0⟩

/-- `mb_read_regs` (FC 03/04). -/
def mbReadRegs (frame : List UInt8) (fc : ℕ) (core : MbCore) : DecodeOut :=
  let addr := wordAt frame 2
  let num := wordAt frame 4
  if num = 0 ∨ num > mbRegCount ∨ addr + num > mbRegCount then .silent core
  else
    let regs := (MbReg.all.drop addr).take num
    ⟨core, withCrc ([UInt8.ofNat core.deviceAddr, UInt8.ofNat fc, UInt8.ofNat (num * 2)] ++
      regs.flatMap fun reg ↦ wordBytes (core.holding reg)), fc⟩

/-- The echo answer of FC 05 and FC 06. -/
def echoResp (frame : List UInt8) (fc : ℕ) (core : MbCore) : List UInt8 :=
  withCrc ([UInt8.ofNat core.deviceAddr, UInt8.ofNat fc] ++ (frame.drop 2).take 4)

/-- `mb_write_reg` (FC 06). -/
def mbWriteReg (frame : List UInt8) (core : MbCore) : DecodeOut :=
  match MbReg.ofAddr (wordAt frame 2) with
  | none => .silent core
  | some reg =>
    ⟨{ core.setReg reg (wordAt frame 4) with lastWriteAddr := some reg },
      echoResp frame 6 core, 6⟩

/-- One byte of a coil read: bits from `first` on, least significant first. -/
def coilByte (core : MbCore) (first bits : ℕ) : UInt8 :=
  (List.range bits).foldl (fun acc bit ↦
    acc ^^^ ((if core.coils (first + bit) ≠ 0 then 1 else 0) <<< UInt8.ofNat bit)) 0

/-- `mb_read_coils` (FC 01/02). -/
def mbReadCoils (frame : List UInt8) (fc : ℕ) (core : MbCore) : DecodeOut :=
  let addr := wordAt frame 2
  let num := wordAt frame 4
  if num = 0 ∨ addr + num > mbCoilCount then .silent core
  else
    let bytes := (num + 7) / 8
    ⟨core, withCrc ([UInt8.ofNat core.deviceAddr, UInt8.ofNat fc, UInt8.ofNat bytes] ++
      (List.range bytes).map fun index ↦
        coilByte core (addr + index * 8) (min 8 (num - index * 8))),
      fc⟩

/-- `mb_write_coil` (FC 05). -/
def mbWriteCoil (frame : List UInt8) (core : MbCore) : DecodeOut :=
  let addr := wordAt frame 2
  if addr ≥ mbCoilCount then .silent core
  else
    ⟨{ core with
        coils := Function.update core.coils addr (if wordAt frame 4 ≠ 0 then 0xFF else 0) },
      echoResp frame 5 core, 5⟩

/-- `MB_MODE_RTU` and `MB_MODE_TCP`. -/
inductive MbMode
  | rtu
  | tcp
  deriving DecidableEq, Repr

/-- The frame filter of `mb_core_decode`: length, slave address and CRC in RTU, length in TCP. -/
def mbFrameAccepted (mode : MbMode) (frame : List UInt8) (core : MbCore) : Bool :=
  match mode with
  | .rtu => decide (frame.length ≥ 8) && decide (byteAt frame 0 = core.deviceAddr) &&
      decide (wordAt frame (frame.length - 2) = mbCrc16 (frame.take (frame.length - 2)))
  | .tcp => decide (frame.length ≥ 6)

/-- `mb_core_decode`. -/
def mbCoreDecode (mode : MbMode) (frame : List UInt8) (core : MbCore) : DecodeOut :=
  if mbFrameAccepted mode frame core = false then .silent core
  else if byteAt frame 1 = 1 ∨ byteAt frame 1 = 2 then mbReadCoils frame (byteAt frame 1) core
  else if byteAt frame 1 = 3 ∨ byteAt frame 1 = 4 then mbReadRegs frame (byteAt frame 1) core
  else if byteAt frame 1 = 5 then mbWriteCoil frame core
  else if byteAt frame 1 = 6 then mbWriteReg frame core
  else .silent core

/-! ### What a request can do -/

/-- The two kinds of request, seen from the register table: `quiet` leaves registers, slave address
and last written register alone and is not reported as FC 06; `wrote` stores one register. -/
inductive MbEffect (core : MbCore) (out : DecodeOut) : Prop
  | quiet (hfc : out.fc ≠ 6) (hholding : out.core.holding = core.holding)
      (haddr : out.core.deviceAddr = core.deviceAddr)
      (hlast : out.core.lastWriteAddr = core.lastWriteAddr)
  | wrote (reg : MbReg) (value : ℕ) (hfc : out.fc = 6) (hresp : 8 ≤ out.resp.length)
      (hcore : out.core = { core.setReg reg value with lastWriteAddr := some reg })

theorem mbEffect_silent (core : MbCore) : MbEffect core (.silent core) :=
  .quiet (by simp [DecodeOut.silent]) rfl rfl rfl

/-- Assumes: the frame reaches the value field. -/
theorem mbWriteReg_effect (frame : List UInt8) (core : MbCore) (hframe : 6 ≤ frame.length) :
    MbEffect core (mbWriteReg frame core) := by
  unfold mbWriteReg
  split
  · exact mbEffect_silent core
  · refine .wrote _ _ rfl ?_ rfl
    simp only [echoResp, withCrc, wordBytes, List.length_append, List.length_cons, List.length_nil,
      List.length_take, List.length_drop]
    omega

/-- Both modes let only frames through that reach the value field. -/
theorem length_of_mbFrameAccepted {mode : MbMode} {frame : List UInt8} {core : MbCore}
    (haccepted : mbFrameAccepted mode frame core = true) : 6 ≤ frame.length := by
  cases mode <;> simp only [mbFrameAccepted, Bool.and_eq_true, decide_eq_true_eq] at haccepted <;>
    omega

theorem mbCoreDecode_cases (mode : MbMode) (frame : List UInt8) (core : MbCore) :
    MbEffect core (mbCoreDecode mode frame core) := by
  unfold mbCoreDecode
  split_ifs with haccepted hcoils hregs
  · exact mbEffect_silent core
  · unfold mbReadCoils
    dsimp only
    split_ifs
    · exact mbEffect_silent core
    · exact .quiet (by rcases hcoils with h | h <;> simp [h]) rfl rfl rfl
  · unfold mbReadRegs
    dsimp only
    split_ifs
    · exact mbEffect_silent core
    · exact .quiet (by rcases hregs with h | h <;> simp [h]) rfl rfl rfl
  · unfold mbWriteCoil
    dsimp only
    by_cases hrange : wordAt frame 2 ≥ mbCoilCount
    · rw [if_pos hrange]
      exact mbEffect_silent core
    · rw [if_neg hrange]
      exact .quiet (by simp) rfl rfl rfl
  · exact mbWriteReg_effect frame core (length_of_mbFrameAccepted (by simpa using haccepted))
  · exact mbEffect_silent core

/-! ### MBAP framing -/

/-- `MB_TCP_MBAP_LEN`. -/
def mbTcpMbapLen : ℕ := 6

/-- What `mb_tcp_build_response` leaves; no bytes is its `false`. -/
def mbTcpBuildResponse (req : List UInt8) (core : MbCore) : DecodeOut :=
  if req.length < 8 ∨ wordAt req 2 ≠ 0 ∨ wordAt req 4 < 2 ∨
      req.length < mbTcpMbapLen + wordAt req 4 ∨ wordAt req 4 > mbFrameMax then .silent core
  else
    let out := mbCoreDecode .tcp ((req.drop 6).take (wordAt req 4)) core
    if out.resp.length < 4 then { out with resp := [] }
    else
      let pdu := out.resp.take (out.resp.length - 2)
      { out with resp := req.take 2 ++ [0, 0] ++ wordBytes pdu.length ++
          [req.getD 6 0] ++ pdu.drop 1 }

theorem mbTcpBuildResponse_cases (req : List UInt8) (core : MbCore) :
    MbEffect core (mbTcpBuildResponse req core) := by
  unfold mbTcpBuildResponse
  split_ifs with hreq
  · exact mbEffect_silent core
  · dsimp only
    cases mbCoreDecode_cases .tcp ((req.drop 6).take (wordAt req 4)) core with
    | quiet hfc hholding haddr hlast =>
      split_ifs <;> exact .quiet hfc hholding haddr hlast
    | wrote reg value hfc hresp hcore =>
      rw [if_neg (by omega)]
      refine .wrote reg value hfc ?_ hcore
      simp only [wordBytes, List.length_append, List.length_cons, List.length_nil,
        List.length_take, List.length_drop]
      omega

/-- `mb_tcp_fr_t`, with the length of a complete frame. -/
inductive MbTcpFrame
  | needMore
  | ok (length : ℕ)
  | desync
  deriving DecidableEq, Repr

/-- `mb_tcp_frame_peek`. -/
def mbTcpFramePeek (buf : List UInt8) : MbTcpFrame :=
  if buf.length < mbTcpMbapLen then .needMore
  else if wordAt buf 2 ≠ 0 ∨ wordAt buf 4 < 2 ∨ wordAt buf 4 > mbFrameMax then .desync
  else if buf.length < mbTcpMbapLen + wordAt buf 4 then .needMore
  else .ok (mbTcpMbapLen + wordAt buf 4)

end UsCtrl
