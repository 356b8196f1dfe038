import UsCtrl.ModbusSlave

/-!
# The two transports of the slave

A request travels as its unit, function code and data, sealed with a CRC on the serial line
(`withCrc`) and headed by an MBAP header on TCP (`mbapFrame`). The slave serves both with one core,
behind two different filters and two different ways to build the answer. `transports_agree` says
that the transport does not matter: for every state, every request of 6 to 123 bytes to the slave's
own unit and every transaction number, both paths leave the same state, report the same function
code and are silent together, and the TCP answer is the serial one with its CRC replaced by a
header. A request to another unit is answered on TCP as if it had been sent to the slave's own unit,
with the unit byte put back.

Both sides reduce to the specification of the slave: what it serves, what it answers and what it
writes read only the five bytes behind the unit, and those are the same on both transports
(`served_same`, `slaveTables_same`, `slaveAnswer_same`).
-/

set_option autoImplicit false
set_option relaxedAutoImplicit false

namespace UsCtrl

/-- A request or an answer behind its MBAP header: transaction, protocol 0, length. -/
def mbapFrame (transaction : ℕ) (pdu : List UInt8) : List UInt8 :=
  wordBytes transaction ++ [0, 0] ++ wordBytes pdu.length ++ pdu

/-! ### The bytes that decide -/

section SameRequest

variable {first second : List UInt8} (hsame : (first.drop 1).take 5 = (second.drop 1).take 5)
include hsame

theorem byteAt_same {index : ℕ} (hlow : 1 ≤ index) (hhigh : index < 6) :
    byteAt first index = byteAt second index := by
  have hread (frame : List UInt8) : ((frame.drop 1).take 5)[index - 1]? = frame[index]? := by
    rw [List.getElem?_take_of_lt (by omega), List.getElem?_drop, Nat.add_sub_cancel' hlow]
  rw [byteAt, byteAt, List.getD_eq_getElem?_getD, List.getD_eq_getElem?_getD, ← hread first,
    ← hread second, hsame]

theorem wordAt_same {index : ℕ} (hlow : 1 ≤ index) (hhigh : index < 5) :
    wordAt first index = wordAt second index := by
  rw [wordAt, wordAt, byteAt_same hsame hlow (by omega), byteAt_same hsame (by omega) (by omega)]

theorem served_same : Served first ↔ Served second := by
  rw [Served, Served, rangeCount, rangeCount, byteAt_same hsame (by decide) (by decide),
    wordAt_same hsame (by decide) (by decide), wordAt_same hsame (by decide) (by decide)]

theorem slaveTables_same (core : MbCore) : slaveTables first core = slaveTables second core := by
  rw [slaveTables, slaveTables, byteAt_same hsame (by decide) (by decide),
    wordAt_same hsame (by decide) (by decide), wordAt_same hsame (by decide) (by decide)]

theorem slaveAnswer_same (unit : UInt8) (core : MbCore) :
    slaveAnswer unit first core = slaveAnswer unit second core := by
  have hecho (frame : List UInt8) :
      (frame.drop 2).take 4 = ((frame.drop 1).take 5).drop 1 := by
    rw [List.drop_take, List.drop_drop]
  rw [slaveAnswer, slaveAnswer, byteAt_same hsame (by decide) (by decide),
    wordAt_same hsame (by decide) (by decide), wordAt_same hsame (by decide) (by decide),
    hecho first, hecho second, hsame]

end SameRequest

/-! ### The two paths -/

/-- An answer without its CRC: unit, function code and data. -/
theorem take_withCrc (body : List UInt8) :
    (withCrc body).take ((withCrc body).length - 2) = body := by
  rw [length_withCrc_body, Nat.add_sub_cancel, withCrc, List.take_left']
  rfl

theorem mbCrc16_lt (body : List UInt8) : mbCrc16 body < 2 ^ 16 := by
  have hsize := (body.foldl mbCrcByte 0xFFFF).toNat_lt
  rw [mbCrc16]
  omega

/-- Assumes: a 16-bit word. It is read back from behind what precedes it. -/
theorem wordAt_wordBytes (before after : List UInt8) {word : ℕ} (hword : word < 2 ^ 16) :
    wordAt (before ++ (wordBytes word ++ after)) before.length = word := by
  have hbyte (index : ℕ) : byteAt (before ++ (wordBytes word ++ after)) (before.length + index) =
      byteAt (wordBytes word ++ after) index := by
    rw [byteAt, byteAt, List.getD_append_right _ _ _ _ (Nat.le_add_right _ _),
      Nat.add_sub_cancel_left]
  have hhigh : byteAt (wordBytes word ++ after) 0 = word / 256 := by
    rw [wordBytes, byteAt, List.cons_append, List.getD_cons_zero, UInt8.toNat_ofNat']
    omega
  have hlow : byteAt (wordBytes word ++ after) 1 = word % 256 := by
    rw [wordBytes, byteAt, List.cons_append, List.getD_cons_succ, List.cons_append,
      List.getD_cons_zero, UInt8.toNat_ofNat']
  have hfirst := hbyte 0
  rw [Nat.add_zero, hhigh] at hfirst
  rw [wordAt, hfirst, hbyte 1, hlow]
  omega

/-- Assumes: a request of at least six bytes. On the serial line it is addressed exactly if its
unit is the slave's. -/
theorem addressed_withCrc {pdu : List UInt8} (core : MbCore) (hlength : 6 ≤ pdu.length) :
    Addressed .rtu (withCrc pdu) core ↔ byteAt pdu 0 = core.deviceAddr := by
  have hunit : byteAt (withCrc pdu) 0 = byteAt pdu 0 := by
    rw [byteAt, byteAt, withCrc, List.getD_append _ _ _ _ (by omega)]
  have hcrc := wordAt_wordBytes pdu [] (mbCrc16_lt pdu)
  rw [List.append_nil, ← withCrc] at hcrc
  rw [Addressed, hunit, take_withCrc, length_withCrc_body, Nat.add_sub_cancel, hcrc]
  exact ⟨fun h ↦ h.2.1, fun h ↦ ⟨by omega, h, rfl⟩⟩

/-- Assumes: a request that fits the slave's frame buffer. Behind an MBAP header it is decoded as it
is, and the answer is put behind a header of its own with the unit of the request. -/
theorem mbTcpBuildResponse_mbapFrame (transaction : ℕ) {pdu : List UInt8} (core : MbCore)
    (hlength : 6 ≤ pdu.length) (hmax : pdu.length ≤ mbFrameMax) :
    mbTcpBuildResponse (mbapFrame transaction pdu) core =
      if Served pdu then
        ⟨slaveTables pdu core,
          mbapFrame transaction
            ((slaveAnswer (pdu.getD 0 0) pdu core).take
              ((slaveAnswer (pdu.getD 0 0) pdu core).length - 2)), byteAt pdu 1⟩
      else .silent core := by
  have hframe : mbFrameMax = 125 := rfl
  have hsize : (mbapFrame transaction pdu).length = 6 + pdu.length := by
    rw [mbapFrame, List.length_append]
    rfl
  have hproto : wordAt (mbapFrame transaction pdu) 2 = 0 := by
    have hread := wordAt_wordBytes (wordBytes transaction) (wordBytes pdu.length ++ pdu)
      (show 0 < 2 ^ 16 by decide)
    have htwo : (wordBytes transaction).length = 2 := rfl
    have hzero : wordBytes 0 = [0, 0] := rfl
    rw [htwo, hzero] at hread
    rw [mbapFrame, List.append_assoc, List.append_assoc, hread]
  have hfield : wordAt (mbapFrame transaction pdu) 4 = pdu.length := by
    have hread := wordAt_wordBytes (wordBytes transaction ++ [0, 0]) pdu
      (show pdu.length < 2 ^ 16 by omega)
    have hfour : (wordBytes transaction ++ [0, 0]).length = 4 := rfl
    rw [hfour, ← List.append_assoc] at hread
    rw [mbapFrame, hread]
  have hinner : ((mbapFrame transaction pdu).drop 6).take pdu.length = pdu := by
    have hdrop : (mbapFrame transaction pdu).drop 6 = pdu := rfl
    rw [hdrop, List.take_length]
  have hunit : (mbapFrame transaction pdu).getD 6 0 = pdu.getD 0 0 := rfl
  have htransaction : (mbapFrame transaction pdu).take 2 = wordBytes transaction := rfl
  have haddressed : (Addressed .tcp pdu core ∧ Served pdu) ↔ Served pdu := and_iff_right hlength
  rw [mbTcpBuildResponse, if_neg (by rw [hsize, hproto, hfield, mbTcpMbapLen]; omega), hfield,
    hinner, mbCoreDecode_eq, if_congr haddressed rfl rfl]
  by_cases hserved : Served pdu
  · obtain ⟨data, hdata⟩ : ∃ data, ∀ unit, slaveAnswer unit pdu core =
        withCrc ([unit, UInt8.ofNat (byteAt pdu 1)] ++ data) := ⟨_, fun _ ↦ rfl⟩
    rw [if_pos hserved, if_pos hserved]
    dsimp only
    rw [hdata, hdata, take_withCrc, take_withCrc, if_neg (by simp [length_withCrc_body]), hunit,
      htransaction]
    rfl
  · rw [if_neg hserved, if_neg hserved]
    rfl

/-! ### Equivalence -/

/-- Assumes: a request of 6 to 123 bytes. If its unit is the slave's, the serial frame and the TCP
frame leave the same state, report the same function code and are silent together, and a TCP answer
is the serial one behind an MBAP header instead of before a CRC. Whatever its unit, the TCP frame
is answered as the one to the slave's own unit is, with the unit of the request. -/
theorem transports_agree (core : MbCore) (transaction : ℕ) (pdu : List UInt8)
    (hlength : 6 ≤ pdu.length) (hmax : pdu.length ≤ 123) :
    (byteAt pdu 0 = core.deviceAddr →
      (mbCoreDecode .rtu (withCrc pdu) core).core =
          (mbTcpBuildResponse (mbapFrame transaction pdu) core).core ∧
        (mbCoreDecode .rtu (withCrc pdu) core).fc =
          (mbTcpBuildResponse (mbapFrame transaction pdu) core).fc ∧
        ((mbCoreDecode .rtu (withCrc pdu) core).resp = [] ↔
          (mbTcpBuildResponse (mbapFrame transaction pdu) core).resp = []) ∧
        ((mbCoreDecode .rtu (withCrc pdu) core).resp ≠ [] →
          (mbTcpBuildResponse (mbapFrame transaction pdu) core).resp =
            mbapFrame transaction ((mbCoreDecode .rtu (withCrc pdu) core).resp.take
              ((mbCoreDecode .rtu (withCrc pdu) core).resp.length - 2)))) ∧
      mbTcpBuildResponse (mbapFrame transaction pdu) core =
        { mbTcpBuildResponse
            (mbapFrame transaction (pdu.set 0 (UInt8.ofNat core.deviceAddr))) core with
          resp := (mbTcpBuildResponse (mbapFrame transaction
            (pdu.set 0 (UInt8.ofNat core.deviceAddr))) core).resp.set 6 (pdu.getD 0 0) } := by
  have hserial : ((withCrc pdu).drop 1).take 5 = (pdu.drop 1).take 5 := by
    rw [withCrc, List.drop_append_of_le_length (by omega),
      List.take_append_of_le_length (by rw [List.length_drop]; omega)]
  refine ⟨fun hunit ↦ ?_, ?_⟩
  · have hown : UInt8.ofNat core.deviceAddr = pdu.getD 0 0 := by
      rw [← hunit, byteAt, UInt8.ofNat_toNat]
    have hspec : (Addressed .rtu (withCrc pdu) core ∧ Served (withCrc pdu)) ↔ Served pdu := by
      rw [addressed_withCrc core hlength, served_same hserial, and_iff_right hunit]
    rw [mbCoreDecode_eq, if_congr hspec rfl rfl, slaveTables_same hserial,
      slaveAnswer_same hserial, byteAt_same hserial (by decide) (by decide), hown,
      mbTcpBuildResponse_mbapFrame transaction core hlength (hmax.trans (by decide))]
    by_cases hserved : Served pdu
    · rw [if_pos hserved, if_pos hserved]
      exact ⟨rfl, rfl, iff_of_false (withCrc_ne_nil _) (by simp [mbapFrame, wordBytes]),
        fun _ ↦ rfl⟩
    · rw [if_neg hserved, if_neg hserved]
      exact ⟨rfl, rfl, Iff.rfl, fun hanswers ↦ absurd rfl hanswers⟩
  · obtain ⟨own, hown⟩ : ∃ own, UInt8.ofNat core.deviceAddr = own := ⟨_, rfl⟩
    have hset : ((pdu.set 0 own).drop 1).take 5 = (pdu.drop 1).take 5 := by
      rw [List.drop_set_of_lt (by decide)]
    have hfirst : (pdu.set 0 own).getD 0 0 = own := by
      rw [List.getD_eq_getElem?_getD, List.getElem?_set_self (by omega), Option.getD_some]
    obtain ⟨data, hdata⟩ : ∃ data, ∀ unit, slaveAnswer unit pdu core =
        withCrc ([unit, UInt8.ofNat (byteAt pdu 1)] ++ data) := ⟨_, fun _ ↦ rfl⟩
    rw [hown, mbTcpBuildResponse_mbapFrame transaction core hlength (hmax.trans (by decide)),
      mbTcpBuildResponse_mbapFrame transaction core (by rwa [List.length_set])
        (by rw [List.length_set]; exact hmax.trans (by decide)),
      if_congr (served_same hset) rfl rfl, slaveTables_same hset, slaveAnswer_same hset,
      byteAt_same hset (by decide) (by decide), hfirst]
    by_cases hserved : Served pdu
    · rw [if_pos hserved, if_pos hserved, hdata, hdata, take_withCrc, take_withCrc]
      rfl
    · rw [if_neg hserved, if_neg hserved]
      rfl

/-- A read of register 6, addressed to unit 1. -/
def ownUnitRead : List UInt8 := [1, 3, 0, 6, 0, 1]

theorem ownUnitRead_agrees :
    (mbTcpBuildResponse (mbapFrame 7 ownUnitRead) (mbCoreInit 1)).resp =
      mbapFrame 7 ((mbCoreDecode .rtu (withCrc ownUnitRead) (mbCoreInit 1)).resp.take
        ((mbCoreDecode .rtu (withCrc ownUnitRead) (mbCoreInit 1)).resp.length - 2)) :=
  ((transports_agree (mbCoreInit 1) 7 ownUnitRead (by decide) (by decide)).1
    (by decide)).2.2.2 (by decide +kernel)

end UsCtrl
