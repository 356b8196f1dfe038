import UsCtrl.ModbusSlave
import UsCtrl.Foundation.CrcErrors

/-!
# Line errors the slave does not act on

What the CRC of the RTU filter is good for. A frame the filter lets through leaves the register at
zero (`residue_accepted`), so a frame that differs from it by an error pattern is let through only
if the pattern has no syndrome. `crc_detects`: bursts of up to sixteen bits, one or two bits, and
odd numbers of bits in a frame of up to `MB_FRAME_MAX` bytes are met with silence, and nothing is
changed. The three properties of the polynomial `0xA001` are computed: that its highest coefficient
is set, that it has an odd number of them, and that a thousand shifts do not bring a one back.
-/

set_option autoImplicit false
set_option relaxedAutoImplicit false

namespace UsCtrl

open Foundation

/-- A frame with an error pattern added to it. -/
def corrupted (frame error : List UInt8) : List UInt8 := List.zipWith (· ^^^ ·) frame error

/-- The errors that are looked at: a burst of at most sixteen bits in the order of the wire, one
bit, two bits, an odd number of bits. -/
inductive LineError (error : List UInt8) : Prop
  | burst (hburst : Burst 16 (wireBits error))
  | one (hcount : (wireBits error).count true = 1)
  | two (hcount : (wireBits error).count true = 2)
  | odd (hcount : (wireBits error).count true % 2 = 1)

/-- A frame the filter lets through is a body and its CRC. -/
theorem withCrc_of_accepted {frame : List UInt8} {core : MbCore}
    (haccepted : mbFrameAccepted .rtu frame core = true) :
    withCrc (frame.take (frame.length - 2)) = frame := by
  rw [mbFrameAccepted, Bool.and_eq_true, Bool.and_eq_true, decide_eq_true_iff, decide_eq_true_iff,
    decide_eq_true_iff] at haccepted
  obtain ⟨⟨hlength, -⟩, hcrc⟩ := haccepted
  have htail : frame.drop (frame.length - 2) =
      [frame.getD (frame.length - 2) 0, frame.getD (frame.length - 2 + 1) 0] := by
    rw [List.drop_eq_getElem_cons (by omega), List.drop_eq_getElem_cons (by omega),
      List.drop_of_length_le (by omega), List.getD_eq_getElem _ _ (by omega),
      List.getD_eq_getElem _ _ (by omega)]
  have hlow := (frame.getD (frame.length - 2 + 1) 0).toNat_lt
  have hbytes : wordBytes (wordAt frame (frame.length - 2)) =
      [frame.getD (frame.length - 2) 0, frame.getD (frame.length - 2 + 1) 0] := by
    rw [wordBytes, wordAt, byteAt, byteAt]
    congr 1
    · rw [← UInt8.toNat_inj, UInt8.toNat_ofNat']
      have hhigh := (frame.getD (frame.length - 2) 0).toNat_lt
      omega
    · congr 1
      rw [← UInt8.toNat_inj, UInt8.toNat_ofNat']
      omega
  rw [withCrc, ← hcrc, hbytes, ← htail, List.take_append_drop]

theorem residue_accepted {frame : List UInt8} {core : MbCore}
    (haccepted : mbFrameAccepted .rtu frame core = true) : crcRun 0xA001 0xFFFF frame = 0 := by
  have hresidue := residue_withCrc (frame.take (frame.length - 2))
  rwa [withCrc_of_accepted haccepted] at hresidue

/-- Assumes: the pattern is no longer than `MB_FRAME_MAX` bytes. Its syndrome is not zero. -/
theorem syndrome_lineError {error : List UInt8} (hlength : error.length ≤ mbFrameMax)
    (herror : LineError error) : errorSyndrome 0xA001 error ≠ 0 := by
  have htop : (0xA001 : UInt16).toNat.testBit 15 = true := by decide
  have hodd : crcOdd 0xA001 = true := by decide
  have hshort : (wireBits error).length ≤ 999 + 1 := by
    have hmax : error.length ≤ 125 := hlength
    rw [length_wireBits]
    omega
  have hthousand : crcAvoidsOne 0xA001 999 1 = true := by decide +kernel
  cases herror with
  | burst hburst => exact syndrome_burst htop hburst
  | one hcount => exact syndrome_odd hodd (by rw [hcount])
  | two hcount => exact syndrome_two htop hthousand hshort hcount
  | odd hcount => exact syndrome_odd hodd hcount

/-- Assumes: a frame of at most `MB_FRAME_MAX` bytes that the RTU filter of some slave lets through,
and an error of its length. The decoder answers the corrupted frame with silence, in any state, and
leaves the state as it is. -/
theorem crc_detects (core core' : MbCore) (frame error resp : List UInt8)
    (hframe : frame.length ≤ mbFrameMax) (haccepted : mbFrameAccepted .rtu frame core = true)
    (hlength : error.length = frame.length) (herror : LineError error) :
    mbCoreDecode .rtu (corrupted frame error) core' = .silent core' ∧
      ∃ left, decodeBuffer .rtu (corrupted frame error) core' resp = some left ∧
        left.count = 0 ∧ left.core = core' ∧ left.fc = 0 := by
  have hrefused : mbFrameAccepted .rtu (corrupted frame error) core' = false := by
    rw [← Bool.not_eq_true]
    intro hpassed
    have hresidue := residue_accepted hpassed
    rw [corrupted, crcRun_error 0xA001 0xFFFF hlength, residue_accepted haccepted,
      UInt16.zero_xor] at hresidue
    exact syndrome_lineError (by omega) herror hresidue
  have hsize : (corrupted frame error).length ≤ mbFrameMax := by
    rw [corrupted, List.length_zipWith]
    omega
  obtain ⟨left, hleft, hserved, -, -, hsilent⟩ := decode_serves .rtu _ core' resp hsize
  have hcount : left.count = 0 := by
    by_contra hanswers
    have haddressed := (addressed_iff _ _ _).mpr (hserved.mp hanswers).1
    exact absurd (haddressed.symm.trans hrefused) (by decide)
  refine ⟨?_, left, hleft, hcount, hsilent hcount⟩
  rw [mbCoreDecode, if_pos hrefused]

/-- A write request to the slave at address 1. -/
def writeRequest : List UInt8 := withCrc [1, 6, 0, 6, 0, 100]

/-- The write is accepted; with two bits of it flipped, one in the value and one in the CRC, it is
met with silence. -/
theorem crc_detects_write :
    mbCoreDecode .rtu (corrupted writeRequest [0, 0, 0, 0, 0, 16, 0, 1]) (mbCoreInit 1) =
        .silent (mbCoreInit 1) ∧
      ∃ left, decodeBuffer .rtu (corrupted writeRequest [0, 0, 0, 0, 0, 16, 0, 1]) (mbCoreInit 1)
        [] = some left ∧ left.count = 0 ∧ left.core = mbCoreInit 1 ∧ left.fc = 0 :=
  crc_detects (mbCoreInit 1) (mbCoreInit 1) writeRequest [0, 0, 0, 0, 0, 16, 0, 1] []
    (by decide +kernel) (by decide +kernel) (by decide +kernel) (.two (by decide +kernel))

end UsCtrl
