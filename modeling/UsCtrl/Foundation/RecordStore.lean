import Mathlib.Tactic.Common
import Mathlib.Data.List.Nodup
import Mathlib.Logic.Function.Basic

/-!
# Records written into a flat memory

A record is an address and the cells written from there on. What a list of records leaves in a
memory depends on their footprint, the addresses they cover: an address outside it keeps its content
(`storeAll_outside`), and where no two records overlap every record can be read back
(`storeAll_inside`), whatever the memory held and whatever was written before. A store cut short
after any number of records leaves the records it has reached and the old content of the others
(`storeAll_take`).
-/

set_option autoImplicit false
set_option relaxedAutoImplicit false

namespace UsCtrl.Foundation

section RecordStore

variable {β : Type}

/-- One record: consecutive cells from `addr` on. -/
def storeAt (addr : ℕ) (cells : List β) (memory : ℕ → β) : ℕ → β :=
  match cells with
  | [] => memory
  | cell :: rest => storeAt (addr + 1) rest (Function.update memory addr cell)

/-- A list of records, one after the other. -/
def storeAll (records : List (ℕ × List β)) (memory : ℕ → β) : ℕ → β :=
  records.foldl (fun image record ↦ storeAt record.1 record.2 image) memory

/-- The addresses a record covers. -/
def span (record : ℕ × List β) : List ℕ := List.range' record.1 record.2.length

/-- The addresses a list of records covers. -/
def footprint (records : List (ℕ × List β)) : List ℕ := records.flatMap span

/-- The memory holds a record. -/
def Holds (memory : ℕ → β) (record : ℕ × List β) : Prop :=
  ∀ (index : ℕ) (hindex : index < record.2.length), memory (record.1 + index) = record.2[index]

theorem storeAt_outside {addr a : ℕ} {cells : List β} (memory : ℕ → β)
    (hout : a ∉ span (addr, cells)) : storeAt addr cells memory a = memory a := by
  induction cells generalizing addr memory with
  | nil => rfl
  | cons cell rest ih =>
    rw [span, List.length_cons, List.range'_succ, List.mem_cons, not_or] at hout
    rw [storeAt, ih _ hout.2, Function.update_of_ne hout.1]

theorem storeAt_inside {addr : ℕ} {cells : List β} (memory : ℕ → β) {index : ℕ}
    (hindex : index < cells.length) :
    storeAt addr cells memory (addr + index) = cells[index] := by
  induction cells generalizing addr memory index with
  | nil => exact absurd hindex (Nat.not_lt_zero index)
  | cons cell rest ih =>
    rw [storeAt]
    cases index with
    | zero =>
      have hbehind : addr + 0 ∉ span (addr + 1, rest) := by
        rw [span, List.mem_range'_1]
        omega
      rw [storeAt_outside _ hbehind, Nat.add_zero, Function.update_self, List.getElem_cons_zero]
    | succ index =>
      have hrest : index < rest.length := by
        rw [List.length_cons] at hindex
        omega
      have hnext : storeAt (addr + 1) rest (Function.update memory addr cell) (addr + 1 + index) =
          rest[index] := ih _ hrest
      rw [List.getElem_cons_succ, ← hnext, Nat.add_right_comm, Nat.add_assoc]

theorem storeAll_outside {records : List (ℕ × List β)} {a : ℕ} (memory : ℕ → β)
    (hout : a ∉ footprint records) : storeAll records memory a = memory a := by
  induction records generalizing memory with
  | nil => rfl
  | cons record rest ih =>
    rw [footprint, List.flatMap_cons, List.mem_append, not_or] at hout
    exact (ih _ hout.2).trans (storeAt_outside _ hout.1)

/-- Assumes: no two records overlap. Every record can be read back. -/
theorem storeAll_inside {records : List (ℕ × List β)} (memory : ℕ → β)
    (hdisjoint : (footprint records).Nodup) {record : ℕ × List β} (hrecord : record ∈ records)
    {index : ℕ} (hindex : index < record.2.length) :
    storeAll records memory (record.1 + index) = record.2[index] := by
  induction records generalizing memory with
  | nil => exact absurd hrecord List.not_mem_nil
  | cons head rest ih =>
    rw [footprint, List.flatMap_cons, List.nodup_append'] at hdisjoint
    obtain ⟨-, hrest, hapart⟩ := hdisjoint
    rcases List.mem_cons.mp hrecord with rfl | hmem
    · have hcovered : record.1 + index ∈ span record := by
        rw [span, List.mem_range'_1]
        omega
      have hbehind : record.1 + index ∉ footprint rest := hapart hcovered
      exact (storeAll_outside _ hbehind).trans (storeAt_inside memory hindex)
    · exact ih _ hrest hmem

/-- Assumes: no two records overlap. A store cut short after `cut` records leaves those it has
reached, and the old content of those it has not. -/
theorem storeAll_take {records : List (ℕ × List β)} (memory : ℕ → β)
    (hdisjoint : (footprint records).Nodup) (cut : ℕ) :
    (∀ record ∈ records.take cut, Holds (storeAll (records.take cut) memory) record) ∧
      ∀ a ∈ footprint (records.drop cut), storeAll (records.take cut) memory a = memory a := by
  have hsplit : footprint (records.take cut) ++ footprint (records.drop cut) =
      footprint records := by
    rw [footprint, footprint, footprint, ← List.flatMap_append, List.take_append_drop]
  obtain ⟨hreached, -, hapart⟩ := List.nodup_append'.mp (hsplit ▸ hdisjoint)
  exact ⟨fun record hrecord index hindex ↦ storeAll_inside memory hreached hrecord hindex,
    fun a hbehind ↦ storeAll_outside memory fun hin ↦ hapart hin hbehind⟩

end RecordStore

end UsCtrl.Foundation
