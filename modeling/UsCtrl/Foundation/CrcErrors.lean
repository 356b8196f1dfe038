import UsCtrl.Foundation.CrcRegister
import Mathlib.Data.List.Count
import Mathlib.Logic.Function.Iterate

/-!
# What a reflected 16-bit CRC detects

The register is linear over exclusive or (`crcRun_xor`), so a message with an error pattern added to
it leaves the register of the message changed by what the pattern alone leaves in a register that
starts at zero (`errorSyndrome`): an error goes undetected exactly when its syndrome is zero. The
pattern is looked at bit by bit in the order of the wire, least significant bit of a byte first
(`wireBits`, `crcRun_eq_bits`).

Three kinds of pattern have a syndrome that is not zero, each by a property of the polynomial:
bursts no longer than the register if the highest coefficient is there (`syndrome_burst`), two bits
whose distance is no period of the register that holds a one (`syndrome_two`), and an odd number of
bits if the number of coefficients kept in the register is odd (`syndrome_odd`).
-/

set_option autoImplicit false
set_option relaxedAutoImplicit false

namespace UsCtrl.Foundation

section Bits

/-- The bits of a byte in the order of the wire. -/
def byteBits (byte : UInt8) : List Bool := (List.range 8).map byte.toNat.testBit

/-- The bits of a message in the order of the wire. -/
def wireBits (message : List UInt8) : List Bool := message.flatMap byteBits

/-- A bit as the lowest bit of the register. -/
def bitWord (bit : Bool) : UInt16 := if bit then 1 else 0

/-- The number the bits spell, lowest bit first. -/
def bitsValue : List Bool → ℕ
  | [] => 0
  | bit :: bits => bit.toNat + 2 * bitsValue bits

theorem length_wireBits (message : List UInt8) :
    (wireBits message).length = 8 * message.length := by
  induction message with
  | nil => rfl
  | cons byte message ih =>
    show (byteBits byte ++ wireBits message).length = _
    rw [List.length_append, ih, byteBits, List.length_map, List.length_range, List.length_cons]
    omega

theorem bitsValue_lt (bits : List Bool) : bitsValue bits < 2 ^ bits.length := by
  induction bits with
  | nil => exact Nat.one_pos
  | cons bit bits ih =>
    have hbit := bit.toNat_lt
    rw [bitsValue, List.length_cons, pow_succ]
    omega

/-- Bits that spell zero are all clear. -/
theorem not_mem_of_bitsValue {bits : List Bool} (hzero : bitsValue bits = 0) : true ∉ bits := by
  induction bits with
  | nil => simp
  | cons bit bits ih =>
    rw [bitsValue] at hzero
    cases bit with
    | true => simp at hzero
    | false =>
      have hrest := ih (by simpa using hzero)
      simpa using hrest

/-- The bits of a number below a power of two spell it. -/
theorem bitsValue_testBit (count value : ℕ) (hvalue : value < 2 ^ count) :
    bitsValue ((List.range count).map value.testBit) = value := by
  induction count generalizing value with
  | zero =>
    have hzero : value = 0 := by simpa using hvalue
    rw [hzero]
    rfl
  | succ count ih =>
    have htail : (List.range count).map (value.testBit ∘ Nat.succ) =
        (List.range count).map (value / 2).testBit :=
      List.map_congr_left fun bit _ ↦ Nat.testBit_succ value bit
    rw [pow_succ] at hvalue
    rw [List.range_succ_eq_map, List.map_cons, List.map_map, htail, bitsValue,
      ih (value / 2) (by omega), Nat.testBit_zero]
    rcases Nat.mod_two_eq_zero_or_one value with h | h <;> simp [h] <;> omega

end Bits

section CrcErrors

variable (poly : UInt16)

/-! ### The register is linear -/

/-- A shift halves the register and adds the polynomial if a one falls out. -/
theorem crcShift_eq (crc : UInt16) :
    crcShift poly crc = crc >>> 1 ^^^ (if crc.toNat.testBit 0 then poly else 0) := by
  have hbit : crc &&& 1 ≠ 0 ↔ crc.toNat.testBit 0 = true := by
    rw [Ne, ← UInt16.toNat_inj, UInt16.toNat_and, UInt16.toNat_one, Nat.and_one_is_mod,
      Nat.testBit_zero, decide_eq_true_iff]
    exact Nat.mod_two_ne_zero
  unfold crcShift
  by_cases hone : crc.toNat.testBit 0 = true
  · rw [if_pos (hbit.mpr hone), if_pos hone]
  · rw [if_neg fun h ↦ hone (hbit.mp h), if_neg hone, UInt16.xor_zero]

theorem crcShift_xor (a b : UInt16) :
    crcShift poly (a ^^^ b) = crcShift poly a ^^^ crcShift poly b := by
  rw [crcShift_eq, crcShift_eq, crcShift_eq, UInt16.shiftRight_xor, UInt16.toNat_xor,
    Nat.testBit_xor]
  have hcancel : a >>> 1 ^^^ poly ^^^ (b >>> 1 ^^^ poly) =
      a >>> 1 ^^^ b >>> 1 ^^^ (poly ^^^ poly) := by ac_rfl
  have hleft : a >>> 1 ^^^ poly ^^^ b >>> 1 = a >>> 1 ^^^ b >>> 1 ^^^ poly := by ac_rfl
  cases a.toNat.testBit 0 <;> cases b.toNat.testBit 0
  · simp
  · simp [UInt16.xor_assoc]
  · simpa using hleft.symm
  · simpa using hcancel.symm

/-- Shifts of a sum are the sum of the shifts. -/
theorem crcShifts_xor (count : ℕ) (a b : UInt16) :
    (crcShift poly)^[count] (a ^^^ b) =
      (crcShift poly)^[count] a ^^^ (crcShift poly)^[count] b := by
  induction count generalizing a b with
  | zero => rfl
  | succ count ih =>
    rw [Function.iterate_succ_apply, crcShift_xor, ih]
    rfl

theorem crcByte_eq (crc : UInt16) (byte : UInt8) :
    crcByte poly crc byte = (crcShift poly)^[8] (crc ^^^ byte.toUInt16) := rfl

theorem crcByte_xor (a b : UInt16) (byte byte' : UInt8) :
    crcByte poly (a ^^^ b) (byte ^^^ byte') = crcByte poly a byte ^^^ crcByte poly b byte' := by
  have hsum : a ^^^ b ^^^ (byte ^^^ byte').toUInt16 =
      a ^^^ byte.toUInt16 ^^^ (b ^^^ byte'.toUInt16) := by
    rw [UInt8.toUInt16_xor]
    ac_rfl
  rw [crcByte_eq, hsum, crcShifts_xor]
  rfl

/-- Assumes: messages of one length. The register of their sum is the sum of their registers. -/
theorem crcRun_xor (a b : UInt16) {message error : List UInt8}
    (hlength : error.length = message.length) :
    crcRun poly (a ^^^ b) (List.zipWith (· ^^^ ·) message error) =
      crcRun poly a message ^^^ crcRun poly b error := by
  induction message generalizing a b error with
  | nil =>
    have hnil : error = [] := List.length_eq_zero_iff.mp hlength
    rw [hnil]
    rfl
  | cons byte message ih =>
    cases error with
    | nil => simp at hlength
    | cons byte' error =>
      have hrest := ih (crcByte poly a byte) (crcByte poly b byte') (by simpa using hlength)
      rw [← crcByte_xor] at hrest
      exact hrest

/-- What an error pattern leaves in a register that starts at zero. -/
def errorSyndrome (error : List UInt8) : UInt16 := crcRun poly 0 error

/-- Assumes: an error pattern of the length of the message. It changes the register of the message
by its syndrome. -/
theorem crcRun_error (crc : UInt16) {message error : List UInt8}
    (hlength : error.length = message.length) :
    crcRun poly crc (List.zipWith (· ^^^ ·) message error) =
      crcRun poly crc message ^^^ errorSyndrome poly error := by
  have hsum := crcRun_xor poly crc 0 hlength
  rwa [UInt16.xor_zero] at hsum

/-! ### The register bit by bit -/

/-- A train of bits through the register: each is added to the lowest bit and shifted through. -/
def crcBits (crc : UInt16) (bits : List Bool) : UInt16 :=
  bits.foldl (fun acc bit ↦ crcShift poly (acc ^^^ bitWord bit)) crc

@[simp] theorem crcBits_nil (crc : UInt16) : crcBits poly crc [] = crc := rfl

@[simp] theorem crcBits_cons (crc : UInt16) (bit : Bool) (bits : List Bool) :
    crcBits poly crc (bit :: bits) = crcBits poly (crcShift poly (crc ^^^ bitWord bit)) bits := rfl

theorem crcBits_append (crc : UInt16) (bits bits' : List Bool) :
    crcBits poly crc (bits ++ bits') = crcBits poly (crcBits poly crc bits) bits' :=
  List.foldl_append

/-- Bits that are added all at once, as the number they spell, before the shifts. -/
theorem crcBits_eq_shifts (crc : UInt16) (bits : List Bool) (hlength : bits.length ≤ 16) :
    crcBits poly crc bits =
      (crcShift poly)^[bits.length] (crc ^^^ UInt16.ofNat (bitsValue bits)) := by
  induction bits generalizing crc with
  | nil => simp [bitsValue]
  | cons bit bits ih =>
    have hshort : bits.length ≤ 15 := Nat.le_of_succ_le_succ hlength
    have hvalue : bitsValue bits < 2 ^ 15 :=
      (bitsValue_lt bits).trans_le (Nat.pow_le_pow_right Nat.two_pos hshort)
    -- the rest of the bits waits one place further up
    have hword : UInt16.ofNat (bitsValue (bit :: bits)) =
        bitWord bit ^^^ UInt16.ofNat (2 * bitsValue bits) := by
      have hsplit : bitsValue (bit :: bits) = bit.toNat ^^^ (2 * bitsValue bits) := by
        rw [bitsValue]
        cases bit with
        | true =>
          show 1 + 2 * bitsValue bits = 1 ^^^ 2 * bitsValue bits
          rw [Nat.xor_comm, Nat.xor_one_of_even (even_two_mul _), Nat.add_comm]
        | false => simp
      rw [hsplit, UInt16.ofNat_xor]
      cases bit <;> rfl
    have hhalf : crcShift poly (UInt16.ofNat (2 * bitsValue bits)) =
        UInt16.ofNat (bitsValue bits) := by
      have hnat : (UInt16.ofNat (2 * bitsValue bits)).toNat = 2 * bitsValue bits :=
        UInt16.toNat_ofNat_of_lt' (show 2 * bitsValue bits < 65536 by omega)
      rw [← UInt16.toNat_inj, crcShift_even poly (by rw [hnat]; omega), hnat,
        UInt16.toNat_ofNat_of_lt' (show bitsValue bits < 65536 by omega)]
      omega
    rw [crcBits_cons, ih _ (by omega), List.length_cons, Function.iterate_succ_apply, hword,
      ← UInt16.xor_assoc, crcShift_xor poly (crc ^^^ bitWord bit), hhalf]

/-- The register of a message is that of its bits. -/
theorem crcRun_eq_bits (crc : UInt16) (message : List UInt8) :
    crcRun poly crc message = crcBits poly crc (wireBits message) := by
  induction message generalizing crc with
  | nil => rfl
  | cons byte message ih =>
    have hvalue : bitsValue (byteBits byte) = byte.toNat :=
      bitsValue_testBit 8 byte.toNat byte.toNat_lt
    have hbyte : crcBits poly crc (byteBits byte) = crcByte poly crc byte := by
      rw [crcBits_eq_shifts poly crc (byteBits byte) (by simp [byteBits]), hvalue, crcByte_eq,
        UInt16.ofNat_uInt8ToNat]
      rfl
    show crcRun poly (crcByte poly crc byte) message =
      crcBits poly crc (byteBits byte ++ wireBits message)
    rw [ih, crcBits_append, hbyte]

theorem syndrome_eq_bits (error : List UInt8) :
    errorSyndrome poly error = crcBits poly 0 (wireBits error) :=
  crcRun_eq_bits poly 0 error

/-- Clear bits shift the register. -/
theorem crcBits_clear (crc : UInt16) (count : ℕ) :
    crcBits poly crc (List.replicate count false) = (crcShift poly)^[count] crc := by
  induction count generalizing crc with
  | zero => rfl
  | succ count ih =>
    have hword : crc ^^^ bitWord false = crc := UInt16.xor_zero
    rw [List.replicate_succ, crcBits_cons, hword, ih, Function.iterate_succ_apply]

/-- Clear bits leave an empty register empty. -/
theorem crcBits_zero (count : ℕ) : crcBits poly 0 (List.replicate count false) = 0 := by
  have hzero : crcShift poly 0 = 0 := rfl
  rw [crcBits_clear, Function.iterate_fixed hzero]

variable {poly}

/-- Assumes: the polynomial has its highest coefficient in the register. Then no register but zero
is shifted to zero. -/
theorem eq_zero_of_crcShift (htop : poly.toNat.testBit 15 = true) {crc : UInt16}
    (hshift : crcShift poly crc = 0) : crc = 0 := by
  rw [crcShift_eq, UInt16.xor_eq_zero_iff] at hshift
  have hhalf : (crc >>> 1).toNat = crc.toNat / 2 := by
    rw [UInt16.toNat_shiftRight]
    simp [Nat.shiftRight_eq_div_pow]
  have hsmall := crc.toNat_lt
  cases hlow : crc.toNat.testBit 0 with
  | true =>
    rw [hlow, if_pos rfl] at hshift
    have hbit : (crc.toNat / 2).testBit 15 = true := by rw [← hhalf, hshift, htop]
    have hnone : (crc.toNat / 2).testBit 15 = false :=
      Nat.testBit_lt_two_pow (by omega)
    exact absurd (hbit.symm.trans hnone) (by decide)
  | false =>
    rw [hlow, if_neg Bool.false_ne_true] at hshift
    have hzero : crc.toNat / 2 = 0 := by rw [← hhalf, hshift, UInt16.toNat_zero]
    rw [Nat.testBit_zero, decide_eq_false_iff_not] at hlow
    exact UInt16.toNat_inj.mp (show crc.toNat = 0 by omega)

theorem eq_zero_of_crcShifts (htop : poly.toNat.testBit 15 = true) {count : ℕ} {crc : UInt16}
    (hshifts : (crcShift poly)^[count] crc = 0) : crc = 0 := by
  induction count generalizing crc with
  | zero => exact hshifts
  | succ count ih =>
    rw [Function.iterate_succ_apply] at hshifts
    exact eq_zero_of_crcShift htop (ih hshifts)

/-! ### Bursts -/

/-- Some bit is set, and all that are lie in a window of the given length. -/
structure Burst (length : ℕ) (bits : List Bool) : Prop where
  set : true ∈ bits
  window : ∃ first, ∀ i, bits[i]? = some true → first ≤ i ∧ i < first + length

/-- Bits none of which is set. -/
theorem eq_replicate_of_clear {bits : List Bool} (hclear : true ∉ bits) :
    bits = List.replicate bits.length false := by
  refine List.eq_replicate_of_mem fun bit hbit ↦ ?_
  cases bit with
  | true => exact absurd hbit hclear
  | false => rfl

/-- A burst is a short word between clear bits. -/
theorem Burst.split {length : ℕ} {bits : List Bool} (hburst : Burst length bits) :
    ∃ before word behind,
      bits = List.replicate before false ++ word ++ List.replicate behind false ∧
        word.length ≤ length ∧ true ∈ word := by
  obtain ⟨hset, first, hwindow⟩ := hburst
  have hbefore : true ∉ bits.take first := by
    intro hmem
    obtain ⟨i, hi⟩ := List.mem_iff_getElem?.mp hmem
    rw [List.getElem?_take] at hi
    split_ifs at hi with hlt
    have := (hwindow i hi).1
    omega
  have hbehind : true ∉ bits.drop (first + length) := by
    intro hmem
    obtain ⟨i, hi⟩ := List.mem_iff_getElem?.mp hmem
    rw [List.getElem?_drop] at hi
    have := (hwindow _ hi).2
    omega
  have hparts : bits = bits.take first ++ (bits.drop first).take length ++
      bits.drop (first + length) := by
    rw [List.append_assoc, ← List.drop_drop, List.take_append_drop, List.take_append_drop]
  refine ⟨(bits.take first).length, (bits.drop first).take length,
    (bits.drop (first + length)).length, ?_, List.length_take_le _ _, ?_⟩
  · rw [← eq_replicate_of_clear hbefore, ← eq_replicate_of_clear hbehind]
    exact hparts
  · rw [hparts, List.mem_append, List.mem_append] at hset
    exact (hset.resolve_right hbehind).resolve_left hbefore

/-- Assumes: the polynomial has its highest coefficient in the register. The syndrome of a burst
that is no longer than the register is not zero. -/
theorem syndrome_burst (htop : poly.toNat.testBit 15 = true) {error : List UInt8}
    (hburst : Burst 16 (wireBits error)) : errorSyndrome poly error ≠ 0 := by
  intro hzero
  obtain ⟨before, word, behind, hbits, hshort, hset⟩ := hburst.split
  rw [syndrome_eq_bits, hbits, crcBits_append, crcBits_append, crcBits_zero, crcBits_clear,
    crcBits_eq_shifts poly 0 word hshort, UInt16.zero_xor] at hzero
  have hword : UInt16.ofNat (bitsValue word) = 0 :=
    eq_zero_of_crcShifts htop (eq_zero_of_crcShifts htop hzero)
  have hsmall : bitsValue word < 65536 :=
    (bitsValue_lt word).trans_le (Nat.pow_le_pow_right Nat.two_pos hshort)
  have hvalue : bitsValue word = 0 := by
    rw [← UInt16.toNat_ofNat_of_lt' hsmall, hword, UInt16.toNat_zero]
  exact not_mem_of_bitsValue hvalue hset

/-! ### Two bits -/

/-- The first set bit. -/
theorem split_of_count {bits : List Bool} {count : ℕ} (hcount : bits.count true = count + 1) :
    ∃ before rest, bits = List.replicate before false ++ true :: rest ∧
      rest.count true = count := by
  induction bits with
  | nil => simp at hcount
  | cons bit bits ih =>
    cases bit with
    | true => exact ⟨0, bits, rfl, by simpa using hcount⟩
    | false =>
      obtain ⟨before, rest, hbits, hrest⟩ := ih (by simpa using hcount)
      exact ⟨before + 1, rest, by rw [hbits]; rfl, hrest⟩

/-- A register is followed through its next shifts and holds a one after none of them. -/
def crcAvoidsOne (poly : UInt16) : ℕ → UInt16 → Bool
  | 0, _ => true
  | count + 1, crc =>
    decide (crcShift poly crc ≠ 1) && crcAvoidsOne poly count (crcShift poly crc)

theorem crcShifts_ne_one {count : ℕ} {crc : UInt16} (havoids : crcAvoidsOne poly count crc = true)
    {d : ℕ} (hpos : 1 ≤ d) (hd : d ≤ count) : (crcShift poly)^[d] crc ≠ 1 := by
  induction count generalizing crc d with
  | zero => omega
  | succ count ih =>
    rw [crcAvoidsOne, Bool.and_eq_true, decide_eq_true_iff] at havoids
    obtain ⟨d, rfl⟩ := Nat.exists_eq_succ_of_ne_zero (Nat.one_le_iff_ne_zero.mp hpos)
    rw [Function.iterate_succ_apply]
    rcases Nat.eq_zero_or_pos d with rfl | hlater
    · exact havoids.1
    · exact ih havoids.2 hlater (Nat.le_of_succ_le_succ hd)

/-- Assumes: moreover, a register that holds a one does not hold it again within the length of the
pattern. The syndrome of two bits is not zero. -/
theorem syndrome_two (htop : poly.toNat.testBit 15 = true) {count : ℕ}
    (hperiod : crcAvoidsOne poly count 1 = true) {error : List UInt8}
    (hshort : (wireBits error).length ≤ count + 1)
    (htwo : (wireBits error).count true = 2) : errorSyndrome poly error ≠ 0 := by
  intro hzero
  obtain ⟨before, bits, hbits, hone⟩ := split_of_count htwo
  obtain ⟨gap, rest, hrest, hnone⟩ := split_of_count hone
  have hclear := eq_replicate_of_clear (List.count_eq_zero.mp hnone)
  rw [syndrome_eq_bits, hbits, hrest, hclear, crcBits_append, crcBits_zero, crcBits_cons,
    crcBits_append, crcBits_clear, crcBits_cons, crcBits_clear, UInt16.zero_xor,
    ← Function.iterate_succ_apply] at hzero
  have hback := eq_zero_of_crcShift htop (eq_zero_of_crcShifts htop hzero)
  rw [UInt16.xor_eq_zero_iff] at hback
  refine crcShifts_ne_one hperiod (Nat.succ_pos gap) ?_ hback
  rw [hbits, hrest] at hshort
  simp only [List.length_append, List.length_cons, List.length_replicate] at hshort
  omega

/-! ### An odd number of bits -/

/-- Whether an odd number of the lowest `count` bits is set. -/
def oddBelow : ℕ → ℕ → Bool
  | 0, _ => false
  | count + 1, value => value.testBit 0 ^^ oddBelow count (value / 2)

theorem oddBelow_xor (count a b : ℕ) :
    oddBelow count (a ^^^ b) = (oddBelow count a ^^ oddBelow count b) := by
  induction count generalizing a b with
  | zero => rfl
  | succ count ih =>
    have hhalf : (a ^^^ b) / 2 = a / 2 ^^^ b / 2 := by
      have := @Nat.shiftRight_xor_distrib 1 a b
      simpa [Nat.shiftRight_eq_div_pow] using this
    rw [oddBelow, oddBelow, oddBelow, hhalf, ih, Nat.testBit_xor]
    cases a.testBit 0 <;> cases b.testBit 0 <;> simp

/-- A place above a number adds nothing. -/
theorem oddBelow_succ {count value : ℕ} (hvalue : value < 2 ^ count) :
    oddBelow (count + 1) value = oddBelow count value := by
  induction count generalizing value with
  | zero =>
    have hzero : value = 0 := by simpa using hvalue
    rw [hzero]
    rfl
  | succ count ih =>
    rw [pow_succ] at hvalue
    rw [oddBelow, ih (by omega), oddBelow]

/-- Whether an odd number of bits of the register is set. -/
def crcOdd (crc : UInt16) : Bool := oddBelow 16 crc.toNat

theorem crcOdd_xor (a b : UInt16) : crcOdd (a ^^^ b) = (crcOdd a ^^ crcOdd b) := by
  rw [crcOdd, UInt16.toNat_xor, oddBelow_xor]
  rfl

/-- Assumes: an odd number of coefficients is kept in the register. A one that falls out is made up
for by the polynomial. -/
theorem crcOdd_shift (hodd : crcOdd poly = true) (crc : UInt16) :
    crcOdd (crcShift poly crc) = crcOdd crc := by
  have hsmall := crc.toNat_lt
  have hhalf : (crc >>> 1).toNat = crc.toNat / 2 := by
    rw [UInt16.toNat_shiftRight]
    simp [Nat.shiftRight_eq_div_pow]
  have hshift : crcOdd (crc >>> 1) = oddBelow 15 (crc.toNat / 2) := by
    rw [crcOdd, hhalf]
    exact oddBelow_succ (by omega)
  have hcrc : crcOdd crc = (crc.toNat.testBit 0 ^^ oddBelow 15 (crc.toNat / 2)) := rfl
  rw [crcShift_eq, crcOdd_xor, hshift, hcrc]
  cases crc.toNat.testBit 0 with
  | true => rw [if_pos rfl, hodd, Bool.xor_comm]
  | false => rw [if_neg Bool.false_ne_true, Bool.xor_comm]; rfl

/-- The register tells whether the number of set bits is odd. -/
theorem crcOdd_bits (hodd : crcOdd poly = true) (crc : UInt16) (bits : List Bool) :
    crcOdd (crcBits poly crc bits) = (crcOdd crc ^^ decide (bits.count true % 2 = 1)) := by
  induction bits generalizing crc with
  | nil => simp
  | cons bit bits ih =>
    rw [crcBits_cons, ih, crcOdd_shift hodd, crcOdd_xor]
    cases bit with
    | true =>
      have hword : crcOdd (bitWord true) = true := rfl
      rw [hword, List.count_cons_self]
      rcases Nat.mod_two_eq_zero_or_one (bits.count true) with h | h
      · simp [h, Nat.add_mod]
      · simp [h, Nat.add_mod]
    | false =>
      have hword : crcOdd (bitWord false) = false := rfl
      rw [hword, Bool.xor_false, List.count_cons_of_ne (by decide)]

/-- Assumes: an odd number of coefficients is kept in the register. The syndrome of an odd number of
bits is not zero. -/
theorem syndrome_odd (hodd : crcOdd poly = true) {error : List UInt8}
    (hcount : (wireBits error).count true % 2 = 1) : errorSyndrome poly error ≠ 0 := by
  intro hzero
  have hbits := crcOdd_bits hodd 0 (wireBits error)
  rw [← syndrome_eq_bits, hzero, decide_eq_true hcount] at hbits
  exact absurd hbits (by decide)

end CrcErrors

end UsCtrl.Foundation
