import UsCtrl.ModbusBuffers
import UsCtrl.Foundation.CrcRegister

/-!
# What a Modbus slave answers

The specification of the slave core, in terms of the protocol: which frames are meant for the slave
(`Addressed`), which requests it serves (`Served`: function codes 1 to 6 on a non-empty range inside
the 51 registers or 50 coils), the answer it owes (`slaveAnswer`: unit, function code, then a byte
count with big-endian registers or with coils packed from the least significant bit, or the echo
of the write, then the CRC), and what the request does to the tables (`slaveTables`).

`decode_serves` is the refinement: for every state, mode and frame of at most `MB_FRAME_MAX` bytes
the decoder on its buffers stays inside its arrays, answers exactly the frames that are addressed
and served, with exactly that answer, and silence changes nothing. The unit of the answer is the
slave's own address. That is the unit of the request in RTU mode, where the filter compares the
two; in TCP mode the filter is off, and the framing layer above puts the request's unit in
(`foreignUnit_answer`).
-/

set_option autoImplicit false
set_option relaxedAutoImplicit false

namespace UsCtrl

open Foundation

/-! ### The specification -/

/-- The frame is complete and meant for this slave: in RTU its unit is the slave's address and its
last two bytes are the CRC of the others, in TCP the transport has seen to both. -/
def Addressed (mode : MbMode) (frame : List UInt8) (core : MbCore) : Prop :=
  match mode with
  | .rtu => 8 ≤ frame.length ∧ byteAt frame 0 = core.deviceAddr ∧
      wordAt frame (frame.length - 2) = mbCrc16 (frame.take (frame.length - 2))
  | .tcp => 6 ≤ frame.length

/-- How many cells a request addresses: what it asks for, and the one cell of a write. -/
def rangeCount (frame : List UInt8) : ℕ :=
  if byteAt frame 1 = 5 ∨ byteAt frame 1 = 6 then 1 else wordAt frame 4

/-- The size of the table a function code works on. -/
def tableSize (fc : ℕ) : ℕ :=
  if fc = 1 ∨ fc = 2 ∨ fc = 5 then mbCoilCount else mbRegCount

/-- The request has a function code of the slave and a non-empty range inside the table. -/
def Served (frame : List UInt8) : Prop :=
  (1 ≤ byteAt frame 1 ∧ byteAt frame 1 ≤ 6) ∧ 0 < rangeCount frame ∧
    wordAt frame 2 + rangeCount frame ≤ tableSize (byteAt frame 1)

instance (frame : List UInt8) : Decidable (Served frame) :=
  inferInstanceAs (Decidable (_ ∧ _ ∧ _))

/-- A holding register by its address. -/
def regAt (core : MbCore) (addr : ℕ) : ℕ := ((MbReg.ofAddr addr).map core.holding).getD 0

/-- The `index`-th byte of a coil answer: eight coils, least significant first, zero beyond the
last one asked for. -/
def coilOctet (core : MbCore) (addr num index : ℕ) : UInt8 :=
  UInt8.ofNat (Nat.ofBits fun bit : Fin 8 ↦
    decide (index * 8 + bit < num ∧ core.coils (addr + index * 8 + bit) ≠ 0))

/-- The answer to a served request, from a slave that calls itself `unit`. -/
def slaveAnswer (unit : UInt8) (frame : List UInt8) (core : MbCore) : List UInt8 :=
  let addr := wordAt frame 2
  let num := wordAt frame 4
  let fc := byteAt frame 1
  withCrc ([unit, UInt8.ofNat fc] ++
    if fc = 1 ∨ fc = 2 then
      UInt8.ofNat ((num + 7) / 8) :: (List.range ((num + 7) / 8)).map (coilOctet core addr num)
    else if fc = 3 ∨ fc = 4 then
      UInt8.ofNat (num * 2) :: (List.range num).flatMap fun index ↦
        wordBytes (regAt core (addr + index))
    else (frame.drop 2).take 4)

/-- What a served request does to the tables: a write changes the one cell it addresses, a register
write is also remembered as the last one, and nothing else changes. -/
def slaveTables (frame : List UInt8) (core : MbCore) : MbCore :=
  if byteAt frame 1 = 5 then
    { core with
      coils := Function.update core.coils (wordAt frame 2)
        (if wordAt frame 4 ≠ 0 then 0xFF else 0) }
  else if byteAt frame 1 = 6 then
    match MbReg.ofAddr (wordAt frame 2) with
    | some reg => { core.setReg reg (wordAt frame 4) with lastWriteAddr := some reg }
    | none => core
  else core

/-! ### The filter -/

theorem addressed_iff (mode : MbMode) (frame : List UInt8) (core : MbCore) :
    mbFrameAccepted mode frame core = true ↔ Addressed mode frame core := by
  cases mode <;> simp [mbFrameAccepted, Addressed, and_assoc]

instance (mode : MbMode) (frame : List UInt8) (core : MbCore) :
    Decidable (Addressed mode frame core) :=
  decidable_of_iff _ (addressed_iff mode frame core)

/-! ### Coils and registers of the answer -/

/-- A single bit moved to its place. -/
theorem toNat_bitShift {bit : ℕ} (hbit : bit < 8) (set : Prop) [Decidable set] :
    (((if set then 1 else 0) <<< UInt8.ofNat bit : UInt8)).toNat = if set then 2 ^ bit else 0 := by
  have hpow : 2 ^ bit < 2 ^ 8 := Nat.pow_lt_pow_right (by omega) hbit
  rw [UInt8.toNat_shiftLeft, UInt8.toNat_ofNat', Nat.mod_eq_of_lt (by omega : bit < 2 ^ 8),
    Nat.mod_eq_of_lt hbit]
  split_ifs
  · rw [UInt8.toNat_one, Nat.shiftLeft_eq, Nat.one_mul, Nat.mod_eq_of_lt hpow]
  · rw [UInt8.toNat_zero, Nat.zero_shiftLeft, Nat.zero_mod]

/-- Assumes: at most eight bits. The accumulated byte has exactly the bits of its coils. -/
theorem testBit_coilByte (core : MbCore) (first bit : ℕ) {bits : ℕ} (hbits : bits ≤ 8) :
    (coilByte core first bits).toNat.testBit bit =
      decide (bit < bits ∧ core.coils (first + bit) ≠ 0) := by
  induction bits with
  | zero => simp [coilByte]
  | succ bits ih =>
    rw [coilByte_succ, UInt8.toNat_xor, Nat.testBit_xor, ih (by omega), toNat_bitShift (by omega)]
    by_cases hlast : bit = bits
    · subst hlast
      split_ifs with hset <;> simp [Nat.testBit_two_pow_self, hset]
    · have hout : (if core.coils (first + bits) ≠ 0 then 2 ^ bits else 0).testBit bit = false := by
        split_ifs
        · exact Nat.testBit_two_pow_of_ne (Ne.symm hlast)
        · exact Nat.zero_testBit bit
      rw [hout, Bool.xor_false, decide_eq_decide]
      omega

theorem coilByte_eq_octet (core : MbCore) (addr num index : ℕ) :
    coilByte core (addr + index * 8) (min 8 (num - index * 8)) =
      coilOctet core addr num index := by
  rw [← UInt8.toNat_inj, coilOctet, UInt8.toNat_ofNat',
    Nat.mod_eq_of_lt (Nat.ofBits_lt_two_pow _)]
  refine Nat.eq_of_testBit_eq fun bit ↦ ?_
  rw [testBit_coilByte core _ bit (Nat.min_le_left _ _), Nat.testBit_ofBits]
  split_ifs with hbit
  · rw [decide_eq_decide]
    refine and_congr_left fun _ ↦ ?_
    dsimp only
    omega
  · rw [decide_eq_false]
    omega

/-- Assumes: the range lies inside the register table. -/
theorem regBytes_eq_words (core : MbCore) {addr num : ℕ} (htable : addr + num ≤ mbRegCount) :
    regBytes core addr num =
      (List.range num).flatMap fun index ↦ wordBytes (regAt core (addr + index)) := by
  induction num generalizing addr with
  | zero => simp [regBytes]
  | succ num ih =>
    obtain ⟨reg, hreg⟩ := ofAddr_of_lt (show addr < mbRegCount by omega)
    rw [regBytes_succ core num hreg, ih (by omega), List.range_succ_eq_map, List.flatMap_cons,
      List.flatMap_map]
    have hfirst : regAt core (addr + 0) = core.holding reg := by
      rw [regAt, Nat.add_zero, hreg]
      rfl
    have hnext : (fun index ↦ wordBytes (regAt core (addr + 1 + index))) =
        fun index ↦ wordBytes (regAt core (addr + (index + 1))) :=
      funext fun index ↦ by rw [Nat.add_assoc, Nat.add_comm 1 index]
    rw [hfirst, hnext]

/-! ### The decoder meets the specification -/

/-- A read of registers is answered exactly on a non-empty range inside the table. -/
theorem mbReadRegs_eq (frame : List UInt8) (fc : ℕ) (core : MbCore) :
    mbReadRegs frame fc core =
      if 0 < wordAt frame 4 ∧ wordAt frame 2 + wordAt frame 4 ≤ mbRegCount then
        ⟨core, withCrc ([UInt8.ofNat core.deviceAddr, UInt8.ofNat fc] ++
          UInt8.ofNat (wordAt frame 4 * 2) :: (List.range (wordAt frame 4)).flatMap fun index ↦
            wordBytes (regAt core (wordAt frame 2 + index))), fc⟩
      else .silent core := by
  unfold mbReadRegs
  dsimp only
  by_cases hrange : 0 < wordAt frame 4 ∧ wordAt frame 2 + wordAt frame 4 ≤ mbRegCount
  · rw [if_neg (by omega), if_pos hrange, ← regBytes_eq_words core hrange.2, regBytes]
    rfl
  · rw [if_pos (by omega), if_neg hrange]

/-- A read of coils is answered exactly on a non-empty range inside the table. -/
theorem mbReadCoils_eq (frame : List UInt8) (fc : ℕ) (core : MbCore) :
    mbReadCoils frame fc core =
      if 0 < wordAt frame 4 ∧ wordAt frame 2 + wordAt frame 4 ≤ mbCoilCount then
        ⟨core, withCrc ([UInt8.ofNat core.deviceAddr, UInt8.ofNat fc] ++
          UInt8.ofNat ((wordAt frame 4 + 7) / 8) :: (List.range ((wordAt frame 4 + 7) / 8)).map
            (coilOctet core (wordAt frame 2) (wordAt frame 4))), fc⟩
      else .silent core := by
  have hoctets : (fun index ↦ coilByte core (wordAt frame 2 + index * 8)
      (min 8 (wordAt frame 4 - index * 8))) =
        coilOctet core (wordAt frame 2) (wordAt frame 4) :=
    funext fun index ↦ coilByte_eq_octet core _ _ index
  unfold mbReadCoils
  dsimp only
  rw [hoctets]
  by_cases hrange : 0 < wordAt frame 4 ∧ wordAt frame 2 + wordAt frame 4 ≤ mbCoilCount
  · rw [if_neg (by omega), if_pos hrange]
    rfl
  · rw [if_pos (by omega), if_neg hrange]

/-- Assumes: function code 5. The cell is written exactly inside the table. -/
theorem mbWriteCoil_eq (frame : List UInt8) (core : MbCore) (hfc : byteAt frame 1 = 5) :
    mbWriteCoil frame core =
      if wordAt frame 2 + 1 ≤ mbCoilCount then ⟨slaveTables frame core, echoResp frame 5 core, 5⟩
      else .silent core := by
  rw [mbWriteCoil, slaveTables, if_pos hfc]
  by_cases hrange : wordAt frame 2 + 1 ≤ mbCoilCount
  · rw [if_neg (by omega), if_pos hrange]
  · rw [if_pos (by omega), if_neg hrange]

/-- Assumes: function code 6. The cell is written exactly inside the table. -/
theorem mbWriteReg_eq (frame : List UInt8) (core : MbCore) (hfc : byteAt frame 1 = 6) :
    mbWriteReg frame core =
      if wordAt frame 2 + 1 ≤ mbRegCount then ⟨slaveTables frame core, echoResp frame 6 core, 6⟩
      else .silent core := by
  have hcoil : ¬ byteAt frame 1 = 5 := by omega
  rw [mbWriteReg, slaveTables, if_neg hcoil, if_pos hfc]
  by_cases hrange : wordAt frame 2 + 1 ≤ mbRegCount
  · obtain ⟨reg, hreg⟩ := ofAddr_of_lt hrange
    rw [if_pos hrange, hreg]
  · have hnone : MbReg.ofAddr (wordAt frame 2) = none :=
      List.getElem?_eq_none (show mbRegCount ≤ _ by omega)
    rw [if_neg hrange, hnone]

/-- The decoder serves exactly the addressed requests the specification serves, and is silent on
all others. -/
theorem mbCoreDecode_eq (mode : MbMode) (frame : List UInt8) (core : MbCore) :
    mbCoreDecode mode frame core =
      if Addressed mode frame core ∧ Served frame then
        ⟨slaveTables frame core, slaveAnswer (UInt8.ofNat core.deviceAddr) frame core,
          byteAt frame 1⟩
      else .silent core := by
  by_cases haddressed : Addressed mode frame core
  · have haccepted := (addressed_iff mode frame core).mpr haddressed
    have hspec : (Addressed mode frame core ∧ Served frame) ↔ Served frame :=
      and_iff_right haddressed
    rw [mbCoreDecode, if_neg (by rw [haccepted]; decide), if_congr hspec rfl rfl]
    by_cases hcoils : byteAt frame 1 = 1 ∨ byteAt frame 1 = 2
    · have hserved : Served frame ↔
          0 < wordAt frame 4 ∧ wordAt frame 2 + wordAt frame 4 ≤ mbCoilCount := by
        rcases hcoils with h | h <;> simp [Served, rangeCount, tableSize, h]
      have htables : slaveTables frame core = core := by
        rw [slaveTables, if_neg (by omega), if_neg (by omega)]
      rw [if_pos hcoils, mbReadCoils_eq, if_congr hserved rfl rfl, htables, slaveAnswer,
        if_pos hcoils]
    by_cases hregs : byteAt frame 1 = 3 ∨ byteAt frame 1 = 4
    · have hserved : Served frame ↔
          0 < wordAt frame 4 ∧ wordAt frame 2 + wordAt frame 4 ≤ mbRegCount := by
        rcases hregs with h | h <;> simp [Served, rangeCount, tableSize, h]
      have htables : slaveTables frame core = core := by
        rw [slaveTables, if_neg (by omega), if_neg (by omega)]
      rw [if_neg hcoils, if_pos hregs, mbReadRegs_eq, if_congr hserved rfl rfl, htables,
        slaveAnswer, if_neg hcoils, if_pos hregs]
    have hanswer (fc : ℕ) (hfc : byteAt frame 1 = fc) :
        slaveAnswer (UInt8.ofNat core.deviceAddr) frame core = echoResp frame fc core := by
      rw [slaveAnswer, if_neg hcoils, if_neg hregs, hfc, echoResp]
    rw [if_neg hcoils, if_neg hregs]
    by_cases hcoil : byteAt frame 1 = 5
    · have hserved : Served frame ↔ wordAt frame 2 + 1 ≤ mbCoilCount := by
        simp [Served, rangeCount, tableSize, hcoil]
      rw [if_pos hcoil, mbWriteCoil_eq frame core hcoil, if_congr hserved rfl rfl,
        hanswer 5 hcoil, hcoil]
    by_cases hreg : byteAt frame 1 = 6
    · have hserved : Served frame ↔ wordAt frame 2 + 1 ≤ mbRegCount := by
        simp [Served, rangeCount, tableSize, hreg]
      rw [if_neg hcoil, if_pos hreg, mbWriteReg_eq frame core hreg, if_congr hserved rfl rfl,
        hanswer 6 hreg, hreg]
    · have hserved : ¬ Served frame := fun h ↦ by
        have hlow := h.1.1
        have hhigh := h.1.2
        omega
      rw [if_neg hcoil, if_neg hreg, if_neg hserved]
  · have haccepted : mbFrameAccepted mode frame core = false := by
      rwa [← Bool.not_eq_true, addressed_iff]
    rw [mbCoreDecode, if_pos haccepted, if_neg fun h ↦ haddressed h.1]

/-! ### The decoder on its buffers -/

/-- The bytes of a swapped word, low half first. -/
theorem wordBytes_swapped {word : ℕ} (hword : word < 2 ^ 16) :
    wordBytes (word % 256 * 256 + word / 256) = [UInt8.ofNat word, UInt8.ofNat (word / 256)] := by
  have hhigh : word / 256 < 256 := by omega
  have hdiv : (word % 256 * 256 + word / 256) / 256 = word % 256 := by
    rw [Nat.add_comm, Nat.add_mul_div_right _ _ (by decide), Nat.div_eq_of_lt hhigh, Nat.zero_add]
  have hfirst : UInt8.ofNat (word % 256) = UInt8.ofNat word := by
    rw [← UInt8.toNat_inj, UInt8.toNat_ofNat', UInt8.toNat_ofNat', Nat.mod_mod]
  have hsecond : UInt8.ofNat (word % 256 * 256 + word / 256) = UInt8.ofNat (word / 256) := by
    rw [← UInt8.toNat_inj, UInt8.toNat_ofNat', UInt8.toNat_ofNat', Nat.mul_add_mod_self_right]
  rw [wordBytes, hdiv, hfirst, hsecond]

/-- The answer carries the CRC of what precedes it, and a receiver that runs the CRC over the whole
of it is left with zero. -/
theorem residue_withCrc (body : List UInt8) : crcRun 0xA001 0xFFFF (withCrc body) = 0 := by
  have hstep : mbCrcByte = crcByte 0xA001 := rfl
  have hrun : body.foldl mbCrcByte 0xFFFF = crcRun 0xA001 0xFFFF body := by rw [hstep, crcRun]
  have hbytes : wordBytes (mbCrc16 body) =
      [UInt8.ofNat (crcRun 0xA001 0xFFFF body).toNat,
        UInt8.ofNat ((crcRun 0xA001 0xFFFF body).toNat / 256)] := by
    rw [mbCrc16, hrun]
    exact wordBytes_swapped (crcRun 0xA001 0xFFFF body).toNat_lt
  rw [withCrc, hbytes, crcRun_residue]

/-- Assumes: a frame of at most `MB_FRAME_MAX` bytes. The decoder stays inside its arrays. It
answers exactly the addressed and served requests; the answer fits its buffer, is the answer of the
specification from the slave's own address, which is the unit of the frame in RTU mode, and ends in
a valid CRC; the tables change as the specification says and the function code is reported. When
it is silent, the tables are unchanged and no function code is reported. -/
theorem decode_serves (mode : MbMode) (frame : List UInt8) (core : MbCore) (resp : List UInt8)
    (hframe : frame.length ≤ mbFrameMax) :
    ∃ left, decodeBuffer mode frame core resp = some left ∧
      (left.count ≠ 0 ↔ Addressed mode frame core ∧ Served frame) ∧
      left.count.toNat ≤ mbRespMax ∧
      (left.count ≠ 0 →
        left.resp.take left.count.toNat =
            slaveAnswer (UInt8.ofNat core.deviceAddr) frame core ∧
          (mode = .rtu → frame[0]? = some (UInt8.ofNat core.deviceAddr)) ∧
          crcRun 0xA001 0xFFFF (left.resp.take left.count.toNat) = 0 ∧
          left.core = slaveTables frame core ∧ left.fc.toNat = byteAt frame 1) ∧
      (left.count = 0 → left.core = core ∧ left.fc = 0) := by
  obtain ⟨left, hleft, hcore, hcount, hresp, hfc⟩ := buffers_decode mode core resp hframe
  have hlength := length_mbCoreDecode mode frame core
  refine ⟨left, hleft, ?_⟩
  by_cases hspec : Addressed mode frame core ∧ Served frame
  · have hdecode := mbCoreDecode_eq mode frame core
    rw [if_pos hspec] at hdecode
    rw [hdecode] at hcore hcount hresp hfc hlength
    dsimp only at hcore hcount hresp hfc hlength
    have hanswers : left.count ≠ 0 := fun hzero ↦ by
      rw [hzero, UInt8.toNat_zero] at hcount
      exact withCrc_ne_nil _ (List.length_eq_zero_iff.mp hcount.symm)
    refine ⟨iff_of_true hanswers hspec, by rw [hcount]; exact hlength,
      fun _ ↦ ⟨hresp, fun hrtu ↦ ?_, ?_, hcore, hfc⟩, fun hzero ↦ absurd hzero hanswers⟩
    · subst hrtu
      have hshort : 0 < frame.length := by
        have := hspec.1.1
        omega
      have hunit := hspec.1.2.1
      rw [byteAt, List.getD_eq_getElem _ _ hshort] at hunit
      rw [List.getElem?_eq_getElem hshort, ← hunit, UInt8.ofNat_toNat]
    · rw [hresp]
      exact residue_withCrc _
  · have hdecode := mbCoreDecode_eq mode frame core
    rw [if_neg hspec] at hdecode
    rw [hdecode] at hcore hcount hfc
    have hsilent : left.count = 0 := UInt8.toNat_inj.mp hcount
    exact ⟨iff_of_false (not_not_intro hsilent) hspec, by rw [hcount]; exact Nat.zero_le _,
      fun hanswers ↦ absurd hsilent hanswers, fun _ ↦ ⟨hcore, UInt8.toNat_inj.mp hfc⟩⟩

/-- A TCP read of register 6, addressed to unit 5. -/
def foreignUnitRead : List UInt8 := [5, 3, 0, 6, 0, 1]

theorem foreignUnit_served :
    ∃ left, decodeBuffer .tcp foreignUnitRead (mbCoreInit 1) [] = some left ∧ left.count ≠ 0 := by
  obtain ⟨left, hleft, hserved, -⟩ :=
    decode_serves .tcp foreignUnitRead (mbCoreInit 1) [] (by decide)
  exact ⟨left, hleft, hserved.mpr (by decide)⟩

/-- In TCP mode the unit of the answer is not that of the request: the slave at address 1 answers a
request to unit 5 under its own address. -/
theorem foreignUnit_answer :
    ∃ left, decodeBuffer .tcp foreignUnitRead (mbCoreInit 1) [] = some left ∧ left.count ≠ 0 ∧
      left.resp.take left.count.toNat ≠
        slaveAnswer (foreignUnitRead.getD 0 0) foreignUnitRead (mbCoreInit 1) := by
  obtain ⟨left, hleft, -, hcount, hresp, -⟩ :=
    buffers_decode .tcp (mbCoreInit 1) [] (show foreignUnitRead.length ≤ mbFrameMax by decide)
  refine ⟨left, hleft, fun hzero ↦ ?_, ?_⟩
  · rw [hzero] at hcount
    exact absurd hcount (by decide +kernel)
  · rw [hresp]
    decide +kernel

end UsCtrl
