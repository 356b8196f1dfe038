import Mathlib.Data.List.Basic
import Mathlib.Tactic.Common

/-!
# Text in a fixed array

A write into a fixed array succeeds within its bounds only (`putAt`). A text that is edited there
lies before a position and has no zero in it (`TextAt`); a zero at the position ends it, so that
`strlen` finds the position. Appending a character with a new zero behind it, and taking the last
one back, keep all that, and leave the array behind the new zero alone. A cursor of eight bits moves
over the array without wrapping (`succ_toNat_of_lt`, `pred_toNat_of_pos`).
-/

set_option autoImplicit false
set_option relaxedAutoImplicit false

namespace UsCtrl.Foundation

/-- An 8-bit counter below a bound does not wrap. -/
theorem succ_toNat_of_lt {i bound : UInt8} (hlt : i < bound) : (i + 1).toNat = i.toNat + 1 := by
  have hbound := UInt8.lt_iff_toNat_lt.mp hlt
  have hsize := bound.toNat_lt
  rw [UInt8.toNat_add, UInt8.toNat_one, Nat.mod_eq_of_lt (by omega)]

/-- Nor does one above zero that counts down. -/
theorem pred_toNat_of_pos {i : UInt8} (hpositive : 0 < i) : (i - 1).toNat + 1 = i.toNat := by
  have hone : 1 ≤ i.toNat := UInt8.lt_iff_toNat_lt.mp hpositive
  rw [UInt8.toNat_sub_of_le i 1 (UInt8.le_iff_toNat_le.mpr hone)]
  exact Nat.sub_add_cancel hone

section Text

variable {α : Type} {size : ℕ}

/-- A write into an array, which is undefined out of bounds. -/
def putAt (index : ℕ) (value : α) (buffer : Vector α size) : Option (Vector α size) :=
  if hindex : index < size then some (buffer.set index value hindex) else none

theorem putAt_of_lt {index : ℕ} (hindex : index < size) (value : α) (buffer : Vector α size) :
    putAt index value buffer = some (buffer.set index value hindex) := dif_pos hindex

variable [Zero α]

/-- The length of the text in an array, up to its first zero. -/
def strlen [BEq α] (buffer : Vector α size) : Option ℕ := buffer.toList.idxOf? 0

/-- A text without a zero lies before the position. -/
structure TextAt (buffer : Vector α size) (pos : ℕ) (text : List α) : Prop where
  before : buffer.toList.take pos = text
  clean : 0 ∉ text

variable {buffer : Vector α size} {pos : ℕ} {text : List α}

/-- The zero at the position is the first one. -/
theorem TextAt.strlen [BEq α] [LawfulBEq α] (htext : TextAt buffer pos text)
    (hzero : buffer[pos]? = some 0) : strlen buffer = some pos := by
  obtain ⟨hpos, hvalue⟩ := Vector.getElem?_eq_some_iff.mp hzero
  have hlength : pos < buffer.toList.length := Vector.length_toList.symm ▸ hpos
  unfold Foundation.strlen
  rw [List.idxOf?_eq_some_iff]
  refine ⟨hlength, (Vector.getElem_toList _).trans hvalue, fun index hindex hearly ↦ htext.clean ?_⟩
  rw [← htext.before, ← hearly]
  exact List.mem_take_iff_getElem.mpr
    ⟨index, Nat.lt_min.mpr ⟨hindex, Nat.lt_trans hindex hlength⟩, rfl⟩

/-- A character goes to the position, and a zero behind it. -/
theorem TextAt.append (htext : TextAt buffer pos text) {char : α} (hchar : char ≠ 0)
    (hroom : pos + 1 < size) :
    ∃ buffer', ((putAt pos char buffer).bind (putAt (pos + 1) 0) = some buffer') ∧
      TextAt buffer' (pos + 1) (text ++ [char]) ∧ buffer'[pos + 1]? = some 0 ∧
        ∀ index, pos + 1 < index → buffer'[index]? = buffer[index]? := by
  have hpos : pos < size := Nat.lt_of_succ_lt hroom
  have hlength : pos < (buffer.toList.set pos char).length := by
    rw [List.length_set, Vector.length_toList]
    exact hpos
  refine ⟨(buffer.set pos char hpos).set (pos + 1) 0 hroom, ?_, ⟨?_, ?_⟩, ?_, ?_⟩
  · rw [putAt_of_lt hpos, Option.bind_some, putAt_of_lt hroom]
  · rw [Vector.toList_set, Vector.toList_set, ← htext.before, List.take_set_of_le (Nat.le_refl _),
      List.take_succ_eq_append_getElem hlength, List.take_set_of_le (Nat.le_refl _),
      List.getElem_set_self]
  · intro hmem
    rcases List.mem_append.mp hmem with hold | hnew
    · exact htext.clean hold
    · exact hchar (List.mem_singleton.mp hnew).symm
  · rw [Vector.getElem?_set_self]
  · intro index hindex
    rw [Vector.getElem?_set_ne _ (by omega), Vector.getElem?_set_ne _ (by omega)]

/-- A zero takes the last character. -/
theorem TextAt.back (htext : TextAt buffer (pos + 1) text) (hpos : pos < size) :
    ∃ buffer', putAt pos 0 buffer = some buffer' ∧ TextAt buffer' pos text.dropLast ∧
      buffer'[pos]? = some 0 ∧ ∀ index, pos < index → buffer'[index]? = buffer[index]? := by
  refine ⟨buffer.set pos 0 hpos, putAt_of_lt hpos 0 buffer, ⟨?_, ?_⟩, ?_, ?_⟩
  · have hlength : pos < buffer.toList.length := Vector.length_toList.symm ▸ hpos
    rw [Vector.toList_set, ← htext.before, List.take_set_of_le (Nat.le_refl _),
      List.take_succ_eq_append_getElem hlength, List.dropLast_concat]
  · exact fun hmem ↦ htext.clean (List.dropLast_subset text hmem)
  · rw [Vector.getElem?_set_self]
  · intro index hindex
    rw [Vector.getElem?_set_ne _ (Nat.ne_of_lt hindex)]

end Text

end UsCtrl.Foundation
