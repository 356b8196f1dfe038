import UsCtrl.Foundation.CString
import UsCtrl.ModbusCore
import Mathlib.Data.List.GetD

/-!
# The slave core on its buffers

`app_modbus_core.c` once more, now with the arrays and the counters the code uses: the request and
the answer are buffers read and written by index, `i` over registers is 16 bits wide, the indices
`j`, `k`, `l` of the answer and of the coils 8 bits, and the coil bits are accumulated with `^=`
into a cleared buffer. A value `none` is an access outside an array; it is what the bound checks of
the source are for.

`buffers_decode` connects this level with the lists of the slave core: for a frame of at most
`MB_FRAME_MAX` bytes no access is outside its array, no counter wraps, and the first `n` bytes of
the answer are the answer of `mbCoreDecode`.
-/

set_option autoImplicit false
set_option relaxedAutoImplicit false

namespace UsCtrl

open Foundation

/-! ### Arrays -/

/-- `buf[index] = byte`. -/
def storeByte (buf : List UInt8) (index : UInt8) (byte : UInt8) : Option (List UInt8) :=
  if index.toNat < buf.length then some (buf.set index.toNat byte) else none

/-- `mb->holding[index]`. -/
def holdingAt (core : MbCore) (index : UInt16) : Option ℕ :=
  (MbReg.ofAddr index.toNat).map core.holding

/-- `mb->coils[index]`, as the truth value the code makes of it. -/
def coilAt (core : MbCore) (index : UInt8) : Option Bool :=
  if index.toNat < mbCoilCount then some (decide (core.coils index.toNat ≠ 0)) else none

/-- `((uint16_t)frame[index] << 8) | frame[index + 1]`. -/
def frameWord (frame : List UInt8) (index : ℕ) : Option UInt16 := do
  let high ← frame[index]?
  let low ← frame[index + 1]?
  some ((high.toUInt16 <<< 8) ||| low.toUInt16)

/-! ### Counters -/

/-- A 16-bit counter below a bound does not wrap. -/
theorem succ_toNat_of_lt16 {i bound : UInt16} (hlt : i < bound) :
    (i + 1).toNat = i.toNat + 1 := by
  have hbound := UInt16.lt_iff_toNat_lt.mp hlt
  have hsize := bound.toNat_lt
  rw [UInt16.toNat_add, UInt16.toNat_one, Nat.mod_eq_of_lt (by omega)]

/-- A counter run up to a bound it may start beyond comes one closer with each step. -/
theorem sub_succ_toNat_lt {j bound : UInt8} (hne : j ≠ bound) :
    (bound - (j + 1)).toNat < (bound - j).toNat := by
  have hdiff : j.toNat ≠ bound.toNat := fun h ↦ hne (UInt8.toNat_inj.mp h)
  have hj := j.toNat_lt
  have hbound := bound.toNat_lt
  rw [UInt8.toNat_sub, UInt8.toNat_sub, UInt8.toNat_add, UInt8.toNat_one]
  omega

/-! ### `mb_crc16` -/

/-- The loop over `buf[0 .. len)`. -/
def crcLoop (buf : List UInt8) (len i : UInt8) (crc : UInt16) : Option UInt16 :=
  if i < len then do
    let byte ← buf[i.toNat]?
    crcLoop buf len (i + 1) (mbCrcByte crc byte)
  else some crc
termination_by len.toNat - i.toNat
decreasing_by
  rename_i hlt
  have hbound := UInt8.lt_iff_toNat_lt.mp hlt
  rw [succ_toNat_of_lt hlt]
  omega

/-- `mb_crc16`, with the swap of its last line. -/
def crcOf (buf : List UInt8) (len : UInt8) : Option UInt16 := do
  let crc ← crcLoop buf len 0 0xFFFF
  some (((crc &&& 0x00FF) <<< 8) ||| ((crc &&& 0xFF00) >>> 8))

/-! ### Answers -/

/-- What the decoder leaves: the tables, the answer buffer, the length returned and `*fc_out`. -/
structure BufferOut where
  core : MbCore
  resp : List UInt8
  count : UInt8
  fc : UInt8

/-- `resp[j++] = (uint8_t)(word >> 8); resp[j++] = (uint8_t)word`. -/
def storeWord (buf : List UInt8) (index : UInt8) (word : UInt16) : Option (List UInt8) := do
  let buf ← storeByte buf index (word >>> 8).toUInt8
  storeByte buf (index + 1) word.toUInt8

/-- The CRC over what is written, and the length after it. -/
def sealAnswer (core : MbCore) (resp : List UInt8) (index : UInt8) :
    Option (MbCore × List UInt8 × UInt8) := do
  let crc ← crcOf resp index
  let resp ← storeWord resp index crc
  some (core, resp, index + 2)

/-- `for (i = addr; i < (uint16_t)(addr + num); i++)` of `mb_read_regs`. -/
def regsLoop (core : MbCore) (stop i : UInt16) (j : UInt8) (resp : List UInt8) :
    Option (UInt8 × List UInt8) :=
  if i < stop then do
    let value ← holdingAt core i
    let resp ← storeWord resp j (UInt16.ofNat value)
    regsLoop core stop (i + 1) (j + 2) resp
  else some (j, resp)
termination_by stop.toNat - i.toNat
decreasing_by
  rename_i hlt
  have hbound := UInt16.lt_iff_toNat_lt.mp hlt
  rw [succ_toNat_of_lt16 hlt]
  omega

/-- `mb_read_regs`. -/
def readRegsBuffer (core : MbCore) (frame : List UInt8) (fc : UInt8) (resp : List UInt8) :
    Option (MbCore × List UInt8 × UInt8) := do
  let addr ← frameWord frame 2
  let num ← frameWord frame 4
  if num = 0 ∨ num.toNat > mbRegCount ∨ addr.toUInt32 + num.toUInt32 > UInt32.ofNat mbRegCount then
    some (core, resp, 0)
  else
    let resp ← storeByte resp 0 (UInt8.ofNat core.deviceAddr)
    let resp ← storeByte resp 1 fc
    let resp ← storeByte resp 2 (num * 2).toUInt8
    let (j, resp) ← regsLoop core (addr + num) addr 3 resp
    sealAnswer core resp j

/-- The echo of `mb_write_reg` and `mb_write_coil`. -/
def echoBuffer (core : MbCore) (device : ℕ) (frame : List UInt8) (fc : UInt8)
    (resp : List UInt8) : Option (MbCore × List UInt8 × UInt8) := do
  let resp ← storeByte resp 0 (UInt8.ofNat device)
  let resp ← storeByte resp 1 fc
  let resp ← storeByte resp 2 (← frame[2]?)
  let resp ← storeByte resp 3 (← frame[3]?)
  let resp ← storeByte resp 4 (← frame[4]?)
  let resp ← storeByte resp 5 (← frame[5]?)
  sealAnswer core resp 6

/-- `mb_write_reg`. -/
def writeRegBuffer (core : MbCore) (frame : List UInt8) (resp : List UInt8) :
    Option (MbCore × List UInt8 × UInt8) := do
  let addr ← frameWord frame 2
  let value ← frameWord frame 4
  if addr.toNat ≥ mbRegCount then some (core, resp, 0)
  else
    let reg ← MbReg.ofAddr addr.toNat
    echoBuffer { core.setReg reg value.toNat with lastWriteAddr := some reg }
      core.deviceAddr frame 6 resp

/-- The inner loop of `mb_read_coils`: `resp[k] ^= (coils[l] ? 1 : 0) << j; l++`. -/
def bitsLoop (core : MbCore) (nbits j k l : UInt8) (resp : List UInt8) :
    Option (UInt8 × List UInt8) :=
  if j ≠ nbits then do
    let coil ← coilAt core l
    let before ← resp[k.toNat]?
    let resp ← storeByte resp k (before ^^^ ((if coil then 1 else 0) <<< j))
    bitsLoop core nbits (j + 1) k (l + 1) resp
  else some (l, resp)
termination_by (nbits - j).toNat
decreasing_by
  rename_i hne
  exact sub_succ_toNat_lt hne

/-- The outer loop of `mb_read_coils`: `for (i = bytes; i != 0; i--)`. -/
def coilsLoop (core : MbCore) (rem i k l : UInt8) (resp : List UInt8) :
    Option (UInt8 × List UInt8) :=
  if i ≠ 0 then do
    let nbits := if i = 1 ∧ rem ≠ 0 then rem else 8
    let (l, resp) ← bitsLoop core nbits 0 k l resp
    coilsLoop core rem (i - 1) (k + 1) l resp
  else some (k, resp)
termination_by i.toNat
decreasing_by
  rename_i hne
  have hpos : i.toNat ≠ 0 := fun h ↦ hne (UInt8.toNat_inj.mp h)
  have hsize := i.toNat_lt
  rw [UInt8.toNat_sub, UInt8.toNat_one]
  omega

/-- `mb_read_coils`. -/
def readCoilsBuffer (core : MbCore) (frame : List UInt8) (fc : UInt8) (resp : List UInt8) :
    Option (MbCore × List UInt8 × UInt8) := do
  let addr ← frameWord frame 2
  let num ← frameWord frame 4
  if num = 0 ∨ addr.toUInt32 + num.toUInt32 > UInt32.ofNat mbCoilCount then some (core, resp, 0)
  else
    let rem := (num % 8).toUInt8
    let bytes := if rem ≠ 0 then (num / 8).toUInt8 + 1 else (num / 8).toUInt8
    let resp ← storeByte resp 0 (UInt8.ofNat core.deviceAddr)
    let resp ← storeByte resp 1 fc
    let resp ← storeByte resp 2 bytes
    let (k, resp) ← coilsLoop core rem bytes 3 addr.toUInt8 resp
    sealAnswer core resp k

/-- `mb_write_coil`. -/
def writeCoilBuffer (core : MbCore) (frame : List UInt8) (resp : List UInt8) :
    Option (MbCore × List UInt8 × UInt8) := do
  let addr ← frameWord frame 2
  let value ← frameWord frame 4
  if addr.toNat ≥ mbCoilCount then some (core, resp, 0)
  else
    echoBuffer { core with
        coils := Function.update core.coils addr.toNat (if value ≠ 0 then 0xFF else 0x00) }
      core.deviceAddr frame 5 resp

/-! ### `mb_core_decode` -/

/-- The filter at the head of `mb_core_decode`: whether the frame is decoded at all. -/
def acceptsBuffer (mode : MbMode) (frame : List UInt8) (len : UInt8) (core : MbCore) :
    Option Bool :=
  match mode with
  | .rtu =>
    if len < 8 then some false
    else do
      let unit ← frame[0]?
      if unit.toNat ≠ core.deviceAddr then some false
      else
        let crc ← crcOf frame (len - 2)
        let first ← frame[(len - 2).toNat]?
        let second ← frame[(len - 1).toNat]?
        some (decide (first = (crc >>> 8).toUInt8 ∧ second = crc.toUInt8))
  | .tcp => some (decide (¬ len < 6))

/-- The switch of `mb_core_decode` over the function code, on the cleared answer buffer. -/
def dispatchBuffer (frame : List UInt8) (core : MbCore) (fc : UInt8) (resp : List UInt8) :
    Option (MbCore × List UInt8 × UInt8) :=
  if fc = 1 ∨ fc = 2 then readCoilsBuffer core frame fc resp
  else if fc = 3 ∨ fc = 4 then readRegsBuffer core frame fc resp
  else if fc = 5 then writeCoilBuffer core frame resp
  else if fc = 6 then writeRegBuffer core frame resp
  else some (core, resp, 0)

/-- `mb_core_decode`, its answer buffer starting as `resp`. -/
def decodeBuffer (mode : MbMode) (frame : List UInt8) (core : MbCore) (resp : List UInt8) :
    Option BufferOut := do
  if ← acceptsBuffer mode frame (UInt8.ofNat frame.length) core then
    let fc ← frame[1]?
    let (core, resp, count) ← dispatchBuffer frame core fc (List.replicate mbRespMax 0)
    some ⟨core, resp, count, if count ≠ 0 then fc else 0⟩
  else some ⟨core, resp, 0, 0⟩

/-! ### The written part of the answer -/

/-- The answer buffer after `written` has been stored from its start, the rest still cleared. -/
def answerBuf (written : List UInt8) : List UInt8 :=
  written ++ List.replicate (mbRespMax - written.length) 0

theorem length_answerBuf {written : List UInt8} (hfits : written.length ≤ mbRespMax) :
    (answerBuf written).length = mbRespMax := by
  rw [answerBuf, List.length_append, List.length_replicate, Nat.add_sub_cancel' hfits]

theorem take_answerBuf (written : List UInt8) :
    (answerBuf written).take written.length = written := by
  rw [answerBuf, List.take_left']
  rfl

/-- A cleared byte may be counted as written. -/
theorem answerBuf_zero {written : List UInt8} (hroom : written.length < mbRespMax) :
    answerBuf (written ++ [0]) = answerBuf written := by
  obtain ⟨spare, hspare⟩ : ∃ spare, mbRespMax - written.length = spare + 1 :=
    ⟨mbRespMax - written.length - 1, by omega⟩
  have hrest : mbRespMax - (written ++ [0]).length = spare := by
    rw [List.length_append, List.length_singleton]
    omega
  rw [answerBuf, answerBuf, hrest, hspare, List.replicate_succ, List.append_assoc,
    List.singleton_append]

/-- Overwriting the last written byte. -/
theorem set_answerBuf (written : List UInt8) (old new : UInt8) :
    (answerBuf (written ++ [old])).set written.length new = answerBuf (written ++ [new]) := by
  simp [answerBuf, List.append_assoc]

/-- Assumes: the index fits 8 bits, as the buffer does. -/
theorem toNat_index {count : ℕ} (hfits : count ≤ mbRespMax) :
    (UInt8.ofNat count).toNat = count := by
  rw [UInt8.toNat_ofNat', Nat.mod_eq_of_lt]
  exact hfits.trans_lt (by decide)

theorem storeByte_answerBuf {written : List UInt8} (hroom : written.length < mbRespMax)
    (byte : UInt8) :
    storeByte (answerBuf written) (UInt8.ofNat written.length) byte =
      some (answerBuf (written ++ [byte])) := by
  rw [storeByte, toNat_index hroom.le, length_answerBuf hroom.le, if_pos hroom,
    ← answerBuf_zero hroom, set_answerBuf]

/-- The two bytes of a 16-bit word, from the shifted halves. -/
theorem wordBytes_toNat (word : UInt16) :
    [(word >>> 8).toUInt8, word.toUInt8] = wordBytes word.toNat := by
  have hhigh : (word >>> 8).toUInt8 = UInt8.ofNat (word.toNat / 256) := by
    rw [← UInt8.toNat_inj, UInt16.toNat_toUInt8, UInt16.toNat_shiftRight, UInt8.toNat_ofNat']
    simp [Nat.shiftRight_eq_div_pow]
  have hlow : word.toUInt8 = UInt8.ofNat word.toNat := by
    rw [← UInt8.toNat_inj, UInt16.toNat_toUInt8, UInt8.toNat_ofNat']
  rw [hhigh, hlow, wordBytes]

theorem storeWord_answerBuf {written : List UInt8} (hroom : written.length + 2 ≤ mbRespMax)
    (word : UInt16) :
    storeWord (answerBuf written) (UInt8.ofNat written.length) word =
      some (answerBuf (written ++ wordBytes word.toNat)) := by
  have hnext : (UInt8.ofNat written.length + 1 : UInt8) =
      UInt8.ofNat (written ++ [(word >>> 8).toUInt8]).length := by
    rw [List.length_append, List.length_singleton, UInt8.ofNat_add, UInt8.ofNat_one]
  rw [storeWord, storeByte_answerBuf (by omega), Option.bind_eq_bind, Option.bind_some, hnext,
    storeByte_answerBuf (by rw [List.length_append, List.length_singleton]; omega),
    List.append_assoc, List.singleton_append, wordBytes_toNat]

/-! ### The CRC loop -/

/-- Assumes: the counter has not passed the length, and the length lies within the buffer. The loop
runs over the bytes between them. -/
theorem crcLoop_eq (buf : List UInt8) (len i : UInt8) (crc : UInt16) (hle : i.toNat ≤ len.toNat)
    (hlen : len.toNat ≤ buf.length) :
    crcLoop buf len i crc =
      some (((buf.take len.toNat).drop i.toNat).foldl mbCrcByte crc) := by
  induction hleft : len.toNat - i.toNat generalizing i crc with
  | zero =>
    have hend : i.toNat = len.toNat := by omega
    have hstop : ¬ i < len := by
      rw [UInt8.lt_iff_toNat_lt]
      omega
    have hempty : (buf.take len.toNat).drop i.toNat = [] := by
      rw [List.drop_eq_nil_iff, List.length_take]
      omega
    rw [crcLoop, if_neg hstop, hempty, List.foldl_nil]
  | succ left ih =>
    have hlt : i < len := by
      rw [UInt8.lt_iff_toNat_lt]
      omega
    have hnext := succ_toNat_of_lt hlt
    have hbyte : i.toNat < (buf.take len.toNat).length := by
      rw [List.length_take]
      omega
    have hread : buf[i.toNat]? = some ((buf.take len.toNat)[i.toNat]) := by
      rw [List.getElem_take, List.getElem?_eq_getElem]
    rw [crcLoop, if_pos hlt, hread, Option.bind_eq_bind, Option.bind_some,
      ih (i + 1) _ (by omega) (by omega), hnext, List.drop_eq_getElem_cons hbyte,
      List.foldl_cons]

/-- The swap of the two halves of the register. -/
theorem swapped_toNat (crc : UInt16) :
    (((crc &&& 0x00FF) <<< 8) ||| ((crc &&& 0xFF00) >>> 8)).toNat =
      crc.toNat % 256 * 256 + crc.toNat / 256 := by
  have hsize := crc.toNat_lt
  have hlow : ((crc &&& 0x00FF) <<< 8).toNat = crc.toNat % 256 * 2 ^ 8 := by
    have hmask : (crc &&& 0x00FF).toNat = crc.toNat % 2 ^ 8 := Nat.and_two_pow_sub_one_eq_mod _ 8
    have hfits : crc.toNat % 2 ^ 8 * 2 ^ 8 < 2 ^ 16 := by omega
    rw [UInt16.toNat_shiftLeft, hmask, Nat.shiftLeft_eq]
    exact Nat.mod_eq_of_lt hfits
  have hhigh : ((crc &&& 0xFF00) >>> 8).toNat = crc.toNat / 256 := by
    have hmask : crc.toNat / 2 ^ 8 &&& 0xFF = crc.toNat / 2 ^ 8 % 2 ^ 8 :=
      Nat.and_two_pow_sub_one_eq_mod _ 8
    rw [UInt16.toNat_shiftRight, UInt16.toNat_and, Nat.shiftRight_and_distrib,
      Nat.shiftRight_eq_div_pow]
    refine hmask.trans (Nat.mod_eq_of_lt ?_)
    omega
  rw [UInt16.toNat_or, hlow, hhigh, ← Nat.shiftLeft_eq,
    ← Nat.shiftLeft_add_eq_or_of_lt (by omega : crc.toNat / 256 < 2 ^ 8), Nat.shiftLeft_eq]

theorem crcOf_eq (buf : List UInt8) (len : UInt8) (hlen : len.toNat ≤ buf.length) :
    ∃ crc, crcOf buf len = some crc ∧ crc.toNat = mbCrc16 (buf.take len.toNat) := by
  have hloop := crcLoop_eq buf len 0 0xFFFF (Nat.zero_le _) hlen
  rw [UInt8.toNat_zero, List.drop_zero] at hloop
  exact ⟨_, by rw [crcOf, hloop, Option.bind_eq_bind, Option.bind_some], swapped_toNat _⟩

/-- Assumes: two bytes of the buffer are free. What is written is sealed with its CRC. -/
theorem sealAnswer_eq (core : MbCore) {written : List UInt8}
    (hroom : written.length + 2 ≤ mbRespMax) :
    sealAnswer core (answerBuf written) (UInt8.ofNat written.length) =
      some (core, answerBuf (withCrc written), UInt8.ofNat (withCrc written).length) := by
  obtain ⟨crc, hcrc, hvalue⟩ := crcOf_eq (answerBuf written) (UInt8.ofNat written.length)
    (by rw [toNat_index (by omega), length_answerBuf (by omega)]; omega)
  rw [toNat_index (by omega), take_answerBuf] at hvalue
  have hlength : (withCrc written).length = written.length + 2 := by
    rw [withCrc, List.length_append, wordBytes]
    rfl
  rw [sealAnswer, hcrc, Option.bind_eq_bind, Option.bind_some, storeWord_answerBuf hroom, hvalue,
    Option.bind_eq_bind, Option.bind_some, ← withCrc, hlength, UInt8.ofNat_add]
  rfl

/-! ### The register loop -/

/-- A register value reduced to 16 bits has the same two bytes. -/
theorem wordBytes_mod (value : ℕ) : wordBytes (UInt16.ofNat value).toNat = wordBytes value := by
  have hhigh : UInt8.ofNat (value % 2 ^ 16 / 256) = UInt8.ofNat (value / 256) := by
    rw [← UInt8.toNat_inj, UInt8.toNat_ofNat', UInt8.toNat_ofNat']
    omega
  have hlow : UInt8.ofNat (value % 2 ^ 16) = UInt8.ofNat value := by
    rw [← UInt8.toNat_inj, UInt8.toNat_ofNat', UInt8.toNat_ofNat']
    omega
  rw [UInt16.toNat_ofNat', wordBytes, hhigh, hlow, ← wordBytes]

/-- The bytes of `count` registers from `first` on. -/
def regBytes (core : MbCore) (first count : ℕ) : List UInt8 :=
  ((MbReg.all.drop first).take count).flatMap fun reg ↦ wordBytes (core.holding reg)

theorem regBytes_succ (core : MbCore) {first : ℕ} (count : ℕ) {reg : MbReg}
    (hreg : MbReg.ofAddr first = some reg) :
    regBytes core first (count + 1) =
      wordBytes (core.holding reg) ++ regBytes core (first + 1) count := by
  obtain ⟨hin, hreg⟩ := List.getElem?_eq_some_iff.mp hreg
  rw [regBytes, regBytes, List.drop_eq_getElem_cons hin, hreg, List.take_succ_cons,
    List.flatMap_cons]

theorem ofAddr_of_lt {addr : ℕ} (hlt : addr < mbRegCount) : ∃ reg, MbReg.ofAddr addr = some reg :=
  ⟨MbReg.all.get ⟨addr, hlt⟩, List.getElem?_eq_getElem hlt⟩

theorem length_regBytes (core : MbCore) {first count : ℕ} (htable : first + count ≤ mbRegCount) :
    (regBytes core first count).length = 2 * count := by
  induction count generalizing first with
  | zero => simp [regBytes]
  | succ count ih =>
    obtain ⟨reg, hreg⟩ := ofAddr_of_lt (show first < mbRegCount by omega)
    rw [regBytes_succ core count hreg, List.length_append, ih (by omega), wordBytes]
    simp only [List.length_cons, List.length_nil]
    omega

/-- Assumes: the loop ends inside the register table, and the answer has room for the registers
left. They are appended to what is written. -/
theorem regsLoop_eq (core : MbCore) (stop i : UInt16) (written : List UInt8)
    (hle : i.toNat ≤ stop.toNat) (hstop : stop.toNat ≤ mbRegCount)
    (hroom : written.length + 2 * (stop.toNat - i.toNat) ≤ mbRespMax) :
    regsLoop core stop i (UInt8.ofNat written.length) (answerBuf written) =
      some (UInt8.ofNat (written ++ regBytes core i.toNat (stop.toNat - i.toNat)).length,
        answerBuf (written ++ regBytes core i.toNat (stop.toNat - i.toNat))) := by
  induction hleft : stop.toNat - i.toNat generalizing i written with
  | zero =>
    have hend : ¬ i < stop := by
      rw [UInt16.lt_iff_toNat_lt]
      omega
    rw [regsLoop, if_neg hend]
    simp [regBytes]
  | succ left ih =>
    have hlt : i < stop := by
      rw [UInt16.lt_iff_toNat_lt]
      omega
    have hnext := succ_toNat_of_lt16 hlt
    obtain ⟨reg, hreg⟩ := ofAddr_of_lt (show i.toNat < mbRegCount by omega)
    have hgrown : (written ++ wordBytes (core.holding reg)).length = written.length + 2 := by
      rw [List.length_append, wordBytes]
      rfl
    have hindex : (UInt8.ofNat written.length + 2 : UInt8) =
        UInt8.ofNat (written ++ wordBytes (core.holding reg)).length := by
      rw [hgrown, UInt8.ofNat_add]
      rfl
    rw [regsLoop, if_pos hlt, holdingAt, hreg, Option.map_some, Option.bind_eq_bind,
      Option.bind_some, storeWord_answerBuf (by omega), Option.bind_eq_bind, Option.bind_some,
      wordBytes_mod, hindex, ih (i + 1) _ (by omega) (by omega) (by omega), hnext,
      regBytes_succ core left hreg, List.append_assoc]

/-! ### The coil loops -/

theorem coilByte_succ (core : MbCore) (first bits : ℕ) :
    coilByte core first (bits + 1) = coilByte core first bits ^^^
      ((if core.coils (first + bits) ≠ 0 then 1 else 0) <<< UInt8.ofNat bits) := by
  rw [coilByte, List.range_succ, List.foldl_append, List.foldl_cons, List.foldl_nil, ← coilByte]

/-- Assumes: at most eight bits, the coils from `first` on inside the table, and one byte of room.
The byte behind what is written collects the bits. -/
theorem bitsLoop_eq (core : MbCore) (nbits j l : UInt8) (first : ℕ) (written : List UInt8)
    (hle : j.toNat ≤ nbits.toNat) (hcoil : l.toNat = first + j.toNat)
    (htable : first + nbits.toNat ≤ mbCoilCount) (hroom : written.length < mbRespMax) :
    bitsLoop core nbits j (UInt8.ofNat written.length) l
        (answerBuf (written ++ [coilByte core first j.toNat])) =
      some (UInt8.ofNat (first + nbits.toNat),
        answerBuf (written ++ [coilByte core first nbits.toNat])) := by
  induction hleft : nbits.toNat - j.toNat generalizing j l with
  | zero =>
    have hend : j = nbits := UInt8.toNat_inj.mp (by omega)
    rw [bitsLoop, if_neg (not_not_intro hend), hend, ← hend, ← hcoil, UInt8.ofNat_toNat]
  | succ left ih =>
    have hlt : j < nbits := by
      rw [UInt8.lt_iff_toNat_lt]
      omega
    have hbits := succ_toNat_of_lt hlt
    have hcount : mbCoilCount = 50 := rfl
    have hl : (l + 1).toNat = l.toNat + 1 := by
      rw [UInt8.toNat_add, UInt8.toNat_one, Nat.mod_eq_of_lt (by omega)]
    have hne : j ≠ nbits := fun h ↦ by
      rw [h] at hleft
      omega
    have hlength : (written ++ [coilByte core first j.toNat]).length ≤ mbRespMax := by
      rw [List.length_append, List.length_singleton]
      omega
    have hread : (answerBuf (written ++ [coilByte core first j.toNat]))[written.length]? =
        some (coilByte core first j.toNat) := by
      simp [answerBuf]
    have hbyte : coilByte core first j.toNat ^^^
        ((if decide (core.coils l.toNat ≠ 0) = true then 1 else 0) <<< j) =
          coilByte core first (j + 1).toNat := by
      rw [hbits, coilByte_succ, hcoil, UInt8.ofNat_toNat]
      simp only [decide_eq_true_eq]
    rw [bitsLoop, if_pos hne, coilAt, if_pos (by omega), Option.bind_eq_bind, Option.bind_some,
      toNat_index hroom.le, hread, Option.bind_eq_bind, Option.bind_some, storeByte,
      toNat_index hroom.le, length_answerBuf hlength, if_pos hroom, Option.bind_eq_bind,
      Option.bind_some, hbyte, set_answerBuf, ih (j + 1) (l + 1) (by omega) (by omega) (by omega)]

/-- The first `count` bytes of a coil read of `num` coils from `addr` on. -/
def coilBytes (core : MbCore) (addr num count : ℕ) : List UInt8 :=
  (List.range count).map fun index ↦ coilByte core (addr + index * 8) (min 8 (num - index * 8))

theorem coilBytes_succ (core : MbCore) (addr num count : ℕ) :
    coilBytes core addr num (count + 1) = coilBytes core addr num count ++
      [coilByte core (addr + count * 8) (min 8 (num - count * 8))] := by
  rw [coilBytes, List.range_succ, List.map_append, List.map_singleton, ← coilBytes]

theorem length_coilBytes (core : MbCore) (addr num count : ℕ) :
    (coilBytes core addr num count).length = count := by
  rw [coilBytes, List.length_map, List.length_range]

/-- Every byte but the last has eight bits, the last one the remainder, if there is one. Assumes:
`left` more bytes follow byte `index`. -/
theorem byteBits_eq {num index left : ℕ} {rem i : UInt8} (hrem : rem.toNat = num % 8)
    (hi : i.toNat = left + 1) (hindex : index + left + 1 = (num + 7) / 8) :
    (if i = 1 ∧ rem ≠ 0 then rem else 8 : UInt8).toNat = min 8 (num - index * 8) := by
  have hlast : i = 1 ↔ left = 0 := by
    rw [← UInt8.toNat_inj, UInt8.toNat_one]
    omega
  have hzero : rem = 0 ↔ num % 8 = 0 := by
    rw [← UInt8.toNat_inj, UInt8.toNat_zero, hrem]
  split_ifs with hcase
  · have hone := hlast.mp hcase.1
    have hpartial := mt hzero.mpr hcase.2
    omega
  · have hfull : left = 0 → num % 8 = 0 := fun hone ↦ by
      by_contra hpartial
      exact hcase ⟨hlast.mpr hone, mt hzero.mp hpartial⟩
    have height : (8 : UInt8).toNat = 8 := rfl
    rw [height]
    omega

/-- Assumes: the coils lie inside the table, `rem` is the remainder of their number, `i` bytes are
left, and the answer has room for all of them. The bytes left are appended. -/
theorem coilsLoop_eq (core : MbCore) (addr num : ℕ) (rem i l : UInt8) (head : List UInt8)
    (htable : addr + num ≤ mbCoilCount) (hrem : rem.toNat = num % 8)
    (hi : i.toNat ≤ (num + 7) / 8)
    (hl : 0 < i.toNat → l.toNat = addr + ((num + 7) / 8 - i.toNat) * 8)
    (hroom : head.length + (num + 7) / 8 ≤ mbRespMax) :
    coilsLoop core rem i
        (UInt8.ofNat (head ++ coilBytes core addr num ((num + 7) / 8 - i.toNat)).length) l
        (answerBuf (head ++ coilBytes core addr num ((num + 7) / 8 - i.toNat))) =
      some (UInt8.ofNat (head ++ coilBytes core addr num ((num + 7) / 8)).length,
        answerBuf (head ++ coilBytes core addr num ((num + 7) / 8))) := by
  induction hleft : i.toNat generalizing i l with
  | zero =>
    have hend : i = 0 := UInt8.toNat_inj.mp hleft
    rw [coilsLoop, if_neg (not_not_intro hend), Nat.sub_zero]
  | succ left ih =>
    obtain ⟨index, hindex⟩ : ∃ index, (num + 7) / 8 - (left + 1) = index := ⟨_, rfl⟩
    have hstart := hl (by omega)
    rw [hleft, hindex] at hstart
    rw [hindex]
    have hne : i ≠ 0 := fun h ↦ by
      rw [h, UInt8.toNat_zero] at hleft
      omega
    have hnext : (i - 1).toNat = left := by
      have hsize := i.toNat_lt
      rw [UInt8.toNat_sub, UInt8.toNat_one]
      omega
    have hcount : mbCoilCount = 50 := rfl
    have hbits := byteBits_eq hrem hleft (show index + left + 1 = _ by omega)
    have hlength : (head ++ coilBytes core addr num index).length = head.length + index := by
      rw [List.length_append, length_coilBytes]
    have hbyte := bitsLoop_eq core (if i = 1 ∧ rem ≠ 0 then rem else 8) 0 l (addr + index * 8)
      (head ++ coilBytes core addr num index) (Nat.zero_le _) (by rw [hstart]; rfl)
      (by rw [hbits]; omega) (by rw [hlength]; omega)
    have hfresh : coilByte core (addr + index * 8) (0 : UInt8).toNat = 0 := rfl
    rw [hfresh, answerBuf_zero (by rw [hlength]; omega), hbits, List.append_assoc,
      ← coilBytes_succ] at hbyte
    have hafter : (UInt8.ofNat (head ++ coilBytes core addr num index).length + 1 : UInt8) =
        UInt8.ofNat (head ++ coilBytes core addr num (index + 1)).length := by
      rw [hlength, List.length_append, length_coilBytes, ← Nat.add_assoc, UInt8.ofNat_add _ 1]
      rfl
    have hrest := ih (i - 1) (UInt8.ofNat (addr + index * 8 + min 8 (num - index * 8)))
      (by omega) (fun hmore ↦ by rw [toNat_index (by rw [mbRespMax]; omega)]; omega) hnext
    have hcovered : (num + 7) / 8 - left = index + 1 := by omega
    rw [hcovered] at hrest
    rw [coilsLoop, if_pos hne]
    dsimp only
    rw [hbyte, Option.bind_eq_bind, Option.bind_some, hafter, hrest]

/-! ### Words of the frame -/

/-- Assumes: the frame reaches the word. -/
theorem frameWord_eq {frame : List UInt8} {index : ℕ} (hframe : index + 1 < frame.length) :
    ∃ word, frameWord frame index = some word ∧ word.toNat = wordAt frame index := by
  have hhigh : frame[index]? = some frame[index] := List.getElem?_eq_getElem (by omega)
  have hlow : frame[index + 1]? = some frame[index + 1] := List.getElem?_eq_getElem hframe
  refine ⟨_, by rw [frameWord, hhigh, hlow]; rfl, ?_⟩
  have hsmall := frame[index].toNat_lt
  have hhalf := frame[index + 1].toNat_lt
  have hshift : (frame[index].toUInt16 <<< 8).toNat = frame[index].toNat <<< 8 := by
    rw [UInt16.toNat_shiftLeft, UInt8.toNat_toUInt16, Nat.shiftLeft_eq, Nat.shiftLeft_eq]
    have hfits : frame[index].toNat * 2 ^ 8 < 2 ^ 16 := by omega
    exact Nat.mod_eq_of_lt hfits
  rw [UInt16.toNat_or, hshift, UInt8.toNat_toUInt16,
    ← Nat.shiftLeft_add_eq_or_of_lt (by omega : frame[index + 1].toNat < 2 ^ 8), Nat.shiftLeft_eq,
    wordAt, byteAt, byteAt, List.getD_eq_getElem _ _ (by omega), List.getD_eq_getElem _ _ hframe]

/-- The range check in 32 bits is the one over the naturals. -/
theorem rangeCheck_iff (addr num : UInt16) {count : ℕ} (hcount : count < 2 ^ 16) :
    addr.toUInt32 + num.toUInt32 > UInt32.ofNat count ↔ addr.toNat + num.toNat > count := by
  have haddr := addr.toNat_lt
  have hnum := num.toNat_lt
  have hlimit : (UInt32.ofNat count).toNat = count := by
    rw [UInt32.toNat_ofNat', Nat.mod_eq_of_lt (by omega)]
  have hsum : (addr.toUInt32 + num.toUInt32).toNat = addr.toNat + num.toNat := by
    rw [UInt32.toNat_add, UInt16.toNat_toUInt32, UInt16.toNat_toUInt32, Nat.mod_eq_of_lt (by omega)]
  rw [gt_iff_lt, UInt32.lt_iff_toNat_lt, hlimit, hsum]

/-! ### The function codes -/

/-- What a function code leaves on the buffers, for the answer it has on lists. -/
def BufferOf (out : DecodeOut) : Option (MbCore × List UInt8 × UInt8) :=
  some (out.core, answerBuf out.resp, UInt8.ofNat out.resp.length)

theorem length_withCrc_body (body : List UInt8) : (withCrc body).length = body.length + 2 := by
  rw [withCrc, List.length_append, wordBytes]
  rfl

theorem storeByte_next (written : List UInt8) (index byte : UInt8)
    (hindex : index.toNat = written.length) (hroom : written.length < mbRespMax) :
    storeByte (answerBuf written) index byte = some (answerBuf (written ++ [byte])) := by
  have hnat : index = UInt8.ofNat written.length := by rw [← hindex, UInt8.ofNat_toNat]
  rw [hnat, storeByte_answerBuf hroom]

/-- The three bytes in front of the data of a read, and what follows them. -/
theorem storeHead_bind {α : Type} (unit fc count : UInt8) (rest : List UInt8 → Option α) :
    (storeByte (answerBuf []) 0 unit).bind (fun resp ↦
      (storeByte resp 1 fc).bind fun resp ↦ (storeByte resp 2 count).bind rest) =
        rest (answerBuf [unit, fc, count]) := by
  have hroom : mbRespMax = 125 := rfl
  have hunit : storeByte (answerBuf []) 0 unit = some (answerBuf [unit]) :=
    storeByte_next [] 0 unit rfl (by decide)
  have hfc : storeByte (answerBuf [unit]) 1 fc = some (answerBuf [unit, fc]) :=
    storeByte_next [unit] 1 fc rfl (by simp [hroom])
  have hcount : storeByte (answerBuf [unit, fc]) 2 count = some (answerBuf [unit, fc, count]) :=
    storeByte_next [unit, fc] 2 count rfl (by simp [hroom])
  rw [hunit, Option.bind_some, hfc, Option.bind_some, hcount, Option.bind_some]

theorem readRegsBuffer_eq (core : MbCore) {frame : List UInt8} (fc : UInt8)
    (hframe : 6 ≤ frame.length) :
    readRegsBuffer core frame fc (answerBuf []) = BufferOf (mbReadRegs frame fc.toNat core) := by
  obtain ⟨addr, haddr, haddrValue⟩ := frameWord_eq (show 2 + 1 < frame.length by omega)
  obtain ⟨num, hnum, hnumValue⟩ := frameWord_eq (show 4 + 1 < frame.length by omega)
  have hzero : num = 0 ↔ num.toNat = 0 := by rw [← UInt16.toNat_inj, UInt16.toNat_zero]
  rw [readRegsBuffer, haddr, hnum, mbReadRegs, ← haddrValue, ← hnumValue]
  simp only [Option.bind_eq_bind, Option.bind_some]
  by_cases hrange : num.toNat = 0 ∨ num.toNat > mbRegCount ∨ addr.toNat + num.toNat > mbRegCount
  · rw [if_pos hrange, if_pos (by rwa [hzero, rangeCheck_iff addr num (by decide)])]
    rfl
  · have hcount : mbRegCount = 51 := rfl
    have hmax : mbRespMax = 125 := rfl
    have hstop : (addr + num).toNat = addr.toNat + num.toNat := by
      rw [UInt16.toNat_add, Nat.mod_eq_of_lt (by omega)]
    have htwo : (2 : UInt16).toNat = 2 := rfl
    have hbytes : (num * 2).toUInt8 = UInt8.ofNat (num.toNat * 2) := by
      rw [← UInt8.toNat_inj, UInt16.toNat_toUInt8, UInt16.toNat_mul, UInt8.toNat_ofNat', htwo]
      omega
    have hlength : (regBytes core addr.toNat num.toNat).length = 2 * num.toNat :=
      length_regBytes core (by omega)
    have hloop := regsLoop_eq core (addr + num) addr
      [UInt8.ofNat core.deviceAddr, fc, UInt8.ofNat (num.toNat * 2)] (by omega) (by omega)
      (by simp only [List.length_cons, List.length_nil]; omega)
    rw [hstop, Nat.add_sub_cancel_left] at hloop
    have hthree : (UInt8.ofNat [UInt8.ofNat core.deviceAddr, fc,
        UInt8.ofNat (num.toNat * 2)].length) = 3 := rfl
    rw [if_neg hrange, if_neg (by rwa [hzero, rangeCheck_iff addr num (by decide)]), hbytes,
      storeHead_bind, ← hthree, hloop, Option.bind_some]
    dsimp only
    rw [sealAnswer_eq core (by rw [List.length_append, hlength]; simp; omega), BufferOf]
    rw [UInt8.ofNat_toNat]
    rfl

theorem readCoilsBuffer_eq (core : MbCore) {frame : List UInt8} (fc : UInt8)
    (hframe : 6 ≤ frame.length) :
    readCoilsBuffer core frame fc (answerBuf []) = BufferOf (mbReadCoils frame fc.toNat core) := by
  obtain ⟨addr, haddr, haddrValue⟩ := frameWord_eq (show 2 + 1 < frame.length by omega)
  obtain ⟨num, hnum, hnumValue⟩ := frameWord_eq (show 4 + 1 < frame.length by omega)
  have hzero : num = 0 ↔ num.toNat = 0 := by rw [← UInt16.toNat_inj, UInt16.toNat_zero]
  rw [readCoilsBuffer, haddr, hnum, mbReadCoils, ← haddrValue, ← hnumValue]
  simp only [Option.bind_eq_bind, Option.bind_some]
  by_cases hrange : num.toNat = 0 ∨ addr.toNat + num.toNat > mbCoilCount
  · rw [if_pos hrange, if_pos (by rwa [hzero, rangeCheck_iff addr num (by decide)])]
    rfl
  · have hcount : mbCoilCount = 50 := rfl
    have hmax : mbRespMax = 125 := rfl
    have height : (8 : UInt16).toNat = 8 := rfl
    have hrem : (num % 8).toUInt8.toNat = num.toNat % 8 := by
      rw [UInt16.toNat_toUInt8, UInt16.toNat_mod, height]
      omega
    have hremZero : (num % 8).toUInt8 = 0 ↔ num.toNat % 8 = 0 := by
      rw [← UInt8.toNat_inj, hrem, UInt8.toNat_zero]
    have hquot : (num / 8).toUInt8.toNat = num.toNat / 8 := by
      rw [UInt16.toNat_toUInt8, UInt16.toNat_div, height]
      omega
    have hbytes : (if (num % 8).toUInt8 ≠ 0 then (num / 8).toUInt8 + 1 else (num / 8).toUInt8) =
        UInt8.ofNat ((num.toNat + 7) / 8) := by
      rw [← UInt8.toNat_inj, toNat_index (by omega)]
      split_ifs with hpartial
      · have hne := mt hremZero.mpr hpartial
        rw [UInt8.toNat_add, hquot, UInt8.toNat_one]
        omega
      · have hfull := hremZero.mp (not_not.mp hpartial)
        rw [hquot]
        omega
    have haddrLow : addr.toUInt8.toNat = addr.toNat := by
      rw [UInt16.toNat_toUInt8]
      omega
    have hindex : (UInt8.ofNat ((num.toNat + 7) / 8)).toNat = (num.toNat + 7) / 8 :=
      toNat_index (by omega)
    have hloop := coilsLoop_eq core addr.toNat num.toNat (num % 8).toUInt8
      (UInt8.ofNat ((num.toNat + 7) / 8)) addr.toUInt8
      [UInt8.ofNat core.deviceAddr, fc, UInt8.ofNat ((num.toNat + 7) / 8)] (by omega) hrem
      hindex.le (fun _ ↦ by rw [hindex, haddrLow]; omega)
      (by simp only [List.length_cons, List.length_nil]; omega)
    rw [hindex, Nat.sub_self] at hloop
    have hthree : coilsLoop core (num % 8).toUInt8 (UInt8.ofNat ((num.toNat + 7) / 8)) 3
        addr.toUInt8 (answerBuf [UInt8.ofNat core.deviceAddr, fc,
          UInt8.ofNat ((num.toNat + 7) / 8)]) = _ := hloop
    rw [if_neg hrange, if_neg (by rwa [hzero, rangeCheck_iff addr num (by decide)]), hbytes,
      storeHead_bind, hthree, Option.bind_some]
    dsimp only
    rw [sealAnswer_eq core (by rw [List.length_append, length_coilBytes]; simp; omega), BufferOf,
      UInt8.ofNat_toNat]
    rfl

/-- The echo of a write: the unit, the function code and the four bytes behind them. -/
theorem echoBuffer_eq (core after : MbCore) {frame : List UInt8} (fc : ℕ)
    (hframe : 6 ≤ frame.length) :
    echoBuffer after core.deviceAddr frame (UInt8.ofNat fc) (answerBuf []) =
      BufferOf ⟨after, echoResp frame fc core, fc⟩ := by
  rcases frame with _ | ⟨unit, _ | ⟨code, _ | ⟨b2, _ | ⟨b3, _ | ⟨b4, _ | ⟨b5, rest⟩⟩⟩⟩⟩⟩
  iterate 6 · simp at hframe
  have hmax : mbRespMax = 125 := rfl
  have hseal : sealAnswer after (answerBuf [UInt8.ofNat core.deviceAddr, UInt8.ofNat fc,
      b2, b3, b4, b5]) 6 = _ := sealAnswer_eq after (by simp [hmax])
  simp [echoBuffer, storeByte_next, hmax, hseal, BufferOf, echoResp]

theorem writeRegBuffer_eq (core : MbCore) {frame : List UInt8} (hframe : 6 ≤ frame.length) :
    writeRegBuffer core frame (answerBuf []) = BufferOf (mbWriteReg frame core) := by
  obtain ⟨addr, haddr, haddrValue⟩ := frameWord_eq (show 2 + 1 < frame.length by omega)
  obtain ⟨value, hvalue, hvalueValue⟩ := frameWord_eq (show 4 + 1 < frame.length by omega)
  rw [writeRegBuffer, haddr, hvalue, mbWriteReg, ← haddrValue, ← hvalueValue]
  simp only [Option.bind_eq_bind, Option.bind_some]
  by_cases hrange : addr.toNat ≥ mbRegCount
  · have hnone : MbReg.ofAddr addr.toNat = none := List.getElem?_eq_none hrange
    rw [if_pos hrange, hnone]
    rfl
  · obtain ⟨reg, hreg⟩ := ofAddr_of_lt (Nat.lt_of_not_le hrange)
    rw [if_neg hrange, hreg, Option.bind_some]
    exact echoBuffer_eq core _ 6 hframe

theorem writeCoilBuffer_eq (core : MbCore) {frame : List UInt8} (hframe : 6 ≤ frame.length) :
    writeCoilBuffer core frame (answerBuf []) = BufferOf (mbWriteCoil frame core) := by
  obtain ⟨addr, haddr, haddrValue⟩ := frameWord_eq (show 2 + 1 < frame.length by omega)
  obtain ⟨value, hvalue, hvalueValue⟩ := frameWord_eq (show 4 + 1 < frame.length by omega)
  have hzero : value ≠ 0 ↔ value.toNat ≠ 0 := by
    rw [ne_eq, ne_eq, ← UInt16.toNat_inj, UInt16.toNat_zero]
  rw [writeCoilBuffer, haddr, hvalue, mbWriteCoil, ← haddrValue, ← hvalueValue]
  simp only [Option.bind_eq_bind, Option.bind_some, hzero]
  by_cases hrange : addr.toNat ≥ mbCoilCount
  · rw [if_pos hrange, if_pos hrange]
    rfl
  · rw [if_neg hrange, if_neg hrange]
    exact echoBuffer_eq core _ 5 hframe

/-! ### The decoder -/

/-- The CRC check of the two last bytes. -/
theorem wordAt_eq_iff {frame : List UInt8} {index : ℕ} (hframe : index + 1 < frame.length)
    (crc : UInt16) :
    (frame[index] = (crc >>> 8).toUInt8 ∧ frame[index + 1] = crc.toUInt8) ↔
      wordAt frame index = crc.toNat := by
  have hsize := crc.toNat_lt
  have hlow := frame[index + 1].toNat_lt
  rw [wordAt, byteAt, byteAt, List.getD_eq_getElem _ _ (by omega),
    List.getD_eq_getElem _ _ hframe, ← UInt8.toNat_inj, ← UInt8.toNat_inj, UInt16.toNat_toUInt8,
    UInt16.toNat_toUInt8, UInt16.toNat_shiftRight]
  have hshift : crc.toNat >>> ((8 : UInt16).toNat % 16) = crc.toNat / 256 := by
    rw [Nat.shiftRight_eq_div_pow]
    rfl
  rw [hshift]
  omega

/-- Assumes: the frame is no longer than `MB_FRAME_MAX`. The filter reads inside the frame, and
lets through what the filter on lists lets through. -/
theorem acceptsBuffer_eq (mode : MbMode) {frame : List UInt8} (core : MbCore)
    (hframe : frame.length ≤ mbFrameMax) :
    acceptsBuffer mode frame (UInt8.ofNat frame.length) core =
      some (mbFrameAccepted mode frame core) := by
  have hmax : mbFrameMax = 125 := rfl
  have hlen : (UInt8.ofNat frame.length).toNat = frame.length := toNat_index hframe
  cases mode with
  | tcp =>
    have hsix : (6 : UInt8).toNat = 6 := rfl
    simp only [acceptsBuffer, mbFrameAccepted, UInt8.lt_iff_toNat_lt, hlen, hsix, not_lt, ge_iff_le]
  | rtu =>
    have height : (8 : UInt8).toNat = 8 := rfl
    by_cases hshort : frame.length < 8
    · have hlt : UInt8.ofNat frame.length < 8 := by
        rw [UInt8.lt_iff_toNat_lt, hlen]
        exact hshort
      rw [acceptsBuffer, if_pos hlt, mbFrameAccepted, decide_eq_false (Nat.not_le.mpr hshort)]
      rfl
    · have hlt : ¬ UInt8.ofNat frame.length < 8 := by
        rw [UInt8.lt_iff_toNat_lt, hlen]
        exact hshort
      have hbody : (UInt8.ofNat frame.length - 2).toNat = frame.length - 2 := by
        have htwo : (2 : UInt8).toNat = 2 := rfl
        rw [UInt8.toNat_sub, hlen, htwo]
        omega
      have hlast : (UInt8.ofNat frame.length - 1).toNat = frame.length - 2 + 1 := by
        rw [UInt8.toNat_sub, hlen, UInt8.toNat_one]
        omega
      obtain ⟨crc, hcrc, hvalue⟩ := crcOf_eq frame (UInt8.ofNat frame.length - 2)
        (by rw [hbody]; omega)
      rw [hbody] at hvalue
      have hunit : frame[0]? = some frame[0] := List.getElem?_eq_getElem (by omega)
      have hfirst : frame[frame.length - 2]? = some frame[frame.length - 2] :=
        List.getElem?_eq_getElem (by omega)
      have hsecond : frame[frame.length - 2 + 1]? = some frame[frame.length - 2 + 1] :=
        List.getElem?_eq_getElem (by omega)
      have hbyte : byteAt frame 0 = frame[0].toNat := by
        rw [byteAt, List.getD_eq_getElem]
      rw [acceptsBuffer, if_neg hlt, hunit, hcrc, hbody, hlast, hfirst, hsecond, mbFrameAccepted,
        hbyte, ← hvalue, decide_eq_true (Nat.le_of_not_lt hshort), Bool.true_and]
      simp only [Option.bind_eq_bind, Option.bind_some]
      by_cases haddr : frame[0].toNat = core.deviceAddr
      · rw [if_neg (not_not_intro haddr), decide_eq_true haddr, Bool.true_and,
          decide_eq_decide.mpr (wordAt_eq_iff (by omega) crc)]
      · rw [if_pos haddr, decide_eq_false haddr, Bool.false_and]

/-- Assumes: the frame reaches the value field. The switch over the function code leaves on the
buffers what it leaves on lists. -/
theorem dispatchBuffer_eq {mode : MbMode} {frame : List UInt8} {core : MbCore}
    (haccepted : mbFrameAccepted mode frame core = true) (hframe : 6 ≤ frame.length) :
    dispatchBuffer frame core frame[1] (answerBuf []) =
      BufferOf (mbCoreDecode mode frame core) := by
  have hcode : byteAt frame 1 = frame[1].toNat := by rw [byteAt, List.getD_eq_getElem]
  have hvalue (value : UInt8) : frame[1] = value ↔ frame[1].toNat = value.toNat :=
    UInt8.toNat_inj.symm
  rw [mbCoreDecode, if_neg (by rw [haccepted]; decide), hcode, dispatchBuffer]
  simp only [hvalue, readCoilsBuffer_eq core frame[1] hframe,
    readRegsBuffer_eq core frame[1] hframe, writeCoilBuffer_eq core hframe,
    writeRegBuffer_eq core hframe]
  have hnats : (1 : UInt8).toNat = 1 ∧ (2 : UInt8).toNat = 2 ∧ (3 : UInt8).toNat = 3 ∧
      (4 : UInt8).toNat = 4 ∧ (5 : UInt8).toNat = 5 ∧ (6 : UInt8).toNat = 6 := by decide
  obtain ⟨hone, htwo, hthree, hfour, hfive, hsix⟩ := hnats
  rw [hone, htwo, hthree, hfour, hfive, hsix]
  split_ifs <;> rfl

theorem length_echoResp_le (frame : List UInt8) (fc : ℕ) (core : MbCore) :
    (echoResp frame fc core).length ≤ 8 := by
  rw [echoResp, length_withCrc_body, List.length_append, List.length_take]
  simp only [List.length_cons, List.length_nil]
  omega

/-- No answer outgrows the answer buffer. -/
theorem length_mbCoreDecode (mode : MbMode) (frame : List UInt8) (core : MbCore) :
    (mbCoreDecode mode frame core).resp.length ≤ mbRespMax := by
  have hmax : mbRespMax = 125 := rfl
  have hecho (fc : ℕ) := length_echoResp_le frame fc core
  unfold mbCoreDecode
  split_ifs with haccepted hcoils hregs hcoil hreg
  · exact Nat.zero_le _
  · unfold mbReadCoils
    dsimp only
    split_ifs with hrange
    · exact Nat.zero_le _
    · have hcount : mbCoilCount = 50 := rfl
      rw [length_withCrc_body, List.length_append, List.length_map, List.length_range]
      simp only [List.length_cons, List.length_nil]
      omega
  · unfold mbReadRegs
    dsimp only
    split_ifs with hrange
    · exact Nat.zero_le _
    · have hcount : mbRegCount = 51 := rfl
      have hbytes := length_regBytes core
        (show wordAt frame 2 + wordAt frame 4 ≤ mbRegCount by omega)
      rw [regBytes] at hbytes
      rw [length_withCrc_body, List.length_append, hbytes]
      simp only [List.length_cons, List.length_nil]
      omega
  · unfold mbWriteCoil
    dsimp only
    by_cases hrange : wordAt frame 2 ≥ mbCoilCount
    · rw [if_pos hrange]
      exact Nat.zero_le _
    · rw [if_neg hrange]
      exact (hecho 5).trans (by decide)
  · unfold mbWriteReg
    split
    · exact Nat.zero_le _
    · exact (hecho 6).trans (by decide)
  · exact Nat.zero_le _

theorem withCrc_ne_nil (body : List UInt8) : withCrc body ≠ [] := by
  rw [withCrc, wordBytes]
  exact List.append_ne_nil_of_right_ne_nil _ (List.cons_ne_nil _ _)

/-- Silence changes nothing and reports no function code; an answer reports the code of the
frame. -/
theorem silent_or_answers (mode : MbMode) (frame : List UInt8) (core : MbCore) :
    mbCoreDecode mode frame core = .silent core ∨
      (mbCoreDecode mode frame core).resp ≠ [] ∧
        (mbCoreDecode mode frame core).fc = byteAt frame 1 := by
  unfold mbCoreDecode
  split_ifs with haccepted hcoils hregs hcoil hreg
  · exact .inl rfl
  · unfold mbReadCoils
    dsimp only
    split_ifs
    · exact .inl rfl
    · exact .inr ⟨withCrc_ne_nil _, rfl⟩
  · unfold mbReadRegs
    dsimp only
    split_ifs
    · exact .inl rfl
    · exact .inr ⟨withCrc_ne_nil _, rfl⟩
  · unfold mbWriteCoil
    dsimp only
    by_cases hrange : wordAt frame 2 ≥ mbCoilCount
    · exact .inl (if_pos hrange)
    · rw [if_neg hrange]
      exact .inr ⟨withCrc_ne_nil _, hcoil.symm⟩
  · unfold mbWriteReg
    split
    · exact .inl rfl
    · exact .inr ⟨withCrc_ne_nil _, hreg.symm⟩
  · exact .inl rfl

/-- Assumes: the frame is no longer than `MB_FRAME_MAX`. Whatever the answer buffer held, the
decoder stays inside its arrays, and leaves the tables, the answer and the function code of the
decoder on lists. -/
theorem buffers_decode (mode : MbMode) {frame : List UInt8} (core : MbCore) (resp : List UInt8)
    (hframe : frame.length ≤ mbFrameMax) :
    ∃ left, decodeBuffer mode frame core resp = some left ∧
      left.core = (mbCoreDecode mode frame core).core ∧
      left.count.toNat = (mbCoreDecode mode frame core).resp.length ∧
      left.resp.take left.count.toNat = (mbCoreDecode mode frame core).resp ∧
      left.fc.toNat = (mbCoreDecode mode frame core).fc := by
  have hlength := length_mbCoreDecode mode frame core
  rw [decodeBuffer, acceptsBuffer_eq mode core hframe, Option.bind_eq_bind, Option.bind_some]
  by_cases haccepted : mbFrameAccepted mode frame core = true
  · have hsix := length_of_mbFrameAccepted haccepted
    have hcode : frame[1]? = some frame[1] := List.getElem?_eq_getElem (by omega)
    have hempty : List.replicate mbRespMax 0 = answerBuf [] := rfl
    rw [if_pos haccepted, hcode, hempty, Option.bind_eq_bind, Option.bind_some,
      dispatchBuffer_eq haccepted hsix, BufferOf]
    refine ⟨_, rfl, rfl, toNat_index hlength, ?_, ?_⟩
    · dsimp only
      rw [toNat_index hlength, take_answerBuf]
    · dsimp only
      rcases silent_or_answers mode frame core with hsilent | ⟨hanswers, hfc⟩
      · rw [hsilent]
        rfl
      · have hcount : UInt8.ofNat (mbCoreDecode mode frame core).resp.length ≠ 0 := fun hzero ↦ by
          rw [← UInt8.toNat_inj, toNat_index hlength, UInt8.toNat_zero] at hzero
          exact hanswers (List.length_eq_zero_iff.mp hzero)
        rw [if_pos hcount, hfc, byteAt, List.getD_eq_getElem]
  · rw [if_neg haccepted]
    have hsilent : mbCoreDecode mode frame core = .silent core := by
      rw [mbCoreDecode, if_pos (by simpa using haccepted)]
    rw [hsilent]
    exact ⟨_, rfl, rfl, rfl, rfl, rfl⟩

end UsCtrl
