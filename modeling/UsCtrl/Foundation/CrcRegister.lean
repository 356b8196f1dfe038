import Mathlib.Tactic.Common
import Mathlib.Data.Nat.Bitwise

/-!
# A reflected 16-bit CRC register

The register is shifted towards its least significant bit, and the polynomial is added whenever a
one falls out (`crcShift`); a byte is added to the low half and shifted through (`crcByte`). A
receiver that runs the register over a message and over the two halves of the register the sender
ended with, low half first, is left with zero (`crcRun_residue`): the check of a well-formed frame
needs no knowledge of where the message ends.
-/

set_option autoImplicit false
set_option relaxedAutoImplicit false

namespace UsCtrl.Foundation

section CrcRegister

variable (poly : UInt16)

/-- One shift of the register. -/
def crcShift (crc : UInt16) : UInt16 :=
  if crc &&& 1 ≠ 0 then (crc >>> 1) ^^^ poly else crc >>> 1

/-- One byte through the register. -/
def crcByte (crc : UInt16) (byte : UInt8) : UInt16 :=
  (List.range 8).foldl (fun acc _ ↦ crcShift poly acc) (crc ^^^ byte.toUInt16)

/-- A message through the register. -/
def crcRun (crc : UInt16) (message : List UInt8) : UInt16 := message.foldl (crcByte poly) crc

/-- A register whose low bit is clear is halved, whatever the polynomial. -/
theorem crcShift_even {crc : UInt16} (heven : crc.toNat % 2 = 0) :
    (crcShift poly crc).toNat = crc.toNat / 2 := by
  have hbit : crc &&& 1 = 0 := by
    rw [← UInt16.toNat_inj, UInt16.toNat_and]
    simpa [Nat.and_one_is_mod] using heven
  rw [crcShift, if_neg (by simpa using hbit), UInt16.toNat_shiftRight]
  simp [Nat.shiftRight_eq_div_pow]

/-- Assumes: the low `count` bits of the register are clear. They are shifted out unchanged. -/
theorem crcShift_low {crc : UInt16} (count : ℕ) (hlow : crc.toNat % 2 ^ count = 0) :
    ((List.range count).foldl (fun acc _ ↦ crcShift poly acc) crc).toNat =
      crc.toNat / 2 ^ count := by
  induction count with
  | zero => simp
  | succ count ih =>
    have hdvd : 2 ^ (count + 1) ∣ crc.toNat := Nat.dvd_of_mod_eq_zero hlow
    have hbefore := ih (Nat.mod_eq_zero_of_dvd ((pow_dvd_pow 2 (Nat.le_succ count)).trans hdvd))
    obtain ⟨quotient, hquotient⟩ := hdvd
    have hhalf : crc.toNat / 2 ^ count = 2 * quotient := by
      rw [hquotient, pow_succ, mul_assoc, Nat.mul_div_cancel_left _ (Nat.two_pow_pos count)]
    rw [List.range_succ, List.foldl_append, List.foldl_cons, List.foldl_nil,
      crcShift_even poly (by rw [hbefore, hhalf]; omega), hbefore, Nat.div_div_eq_div_mul, pow_succ]

/-- Adding its own low half clears the low half of a number. -/
theorem xor_low (value : ℕ) : value ^^^ value % 2 ^ 8 = value / 2 ^ 8 * 2 ^ 8 := by
  refine Nat.eq_of_testBit_eq fun bit ↦ ?_
  rw [Nat.testBit_xor, Nat.testBit_mod_two_pow, Nat.testBit_mul_two_pow, Nat.testBit_div_two_pow]
  by_cases hbit : bit < 8
  · simp [hbit, Nat.not_le.mpr hbit]
  · simp [hbit, Nat.le_of_not_lt hbit, Nat.sub_add_cancel (Nat.le_of_not_lt hbit)]

/-- The register's own low half, sent through it, leaves the high half. -/
theorem crcByte_low (crc : UInt16) :
    (crcByte poly crc (UInt8.ofNat crc.toNat)).toNat = crc.toNat / 2 ^ 8 := by
  have hlow : (crc ^^^ (UInt8.ofNat crc.toNat).toUInt16).toNat = crc.toNat / 2 ^ 8 * 2 ^ 8 := by
    rw [UInt16.toNat_xor, UInt8.toNat_toUInt16, UInt8.toNat_ofNat', xor_low]
  rw [crcByte, crcShift_low poly 8 (by rw [hlow]; exact Nat.mul_mod_left _ _), hlow,
    Nat.mul_div_cancel _ (Nat.two_pow_pos 8)]

/-- A message followed by the register it leaves, low half first, leaves zero. -/
theorem crcRun_residue (crc : UInt16) (message : List UInt8) :
    crcRun poly crc (message ++ [UInt8.ofNat (crcRun poly crc message).toNat,
      UInt8.ofNat ((crcRun poly crc message).toNat / 256)]) = 0 := by
  generalize hend : crcRun poly crc message = reg
  have hhigh := crcByte_low poly reg
  have hsmall : reg.toNat / 2 ^ 8 < 2 ^ 8 := by
    have := reg.toNat_lt
    omega
  have hzero : (crcByte poly (crcByte poly reg (UInt8.ofNat reg.toNat))
      (UInt8.ofNat (reg.toNat / 256))).toNat = 0 := by
    have hlast := crcByte_low poly (crcByte poly reg (UInt8.ofNat reg.toNat))
    rw [hhigh] at hlast
    exact hlast.trans (Nat.div_eq_of_lt hsmall)
  have hsplit : crcRun poly crc
        (message ++ [UInt8.ofNat reg.toNat, UInt8.ofNat (reg.toNat / 256)]) =
      crcByte poly (crcByte poly (crcRun poly crc message) (UInt8.ofNat reg.toNat))
        (UInt8.ofNat (reg.toNat / 256)) := by
    simp only [crcRun, List.foldl_append, List.foldl_cons, List.foldl_nil]
  rw [hsplit, hend, ← UInt16.toNat_inj, hzero, UInt16.toNat_zero]

end CrcRegister

end UsCtrl.Foundation
