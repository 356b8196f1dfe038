import Mathlib.Data.List.Basic
import Mathlib.Data.Nat.ModEq
import Mathlib.Logic.Function.Basic
import Mathlib.Tactic.Common

/-!
# A ring of cells as a queue

A writer stores values at `head` and goes round, a reader follows at `tail`; the ring is empty when
the two meet. As long as fewer values are unread than there are cells, the ring is the queue of the
unread values (`CellRing.Holds`): storing appends to it (`holds_push`), and the reader finds the
front of it, or nothing exactly if it is empty (`pop_cons`, `pop_nil`).
-/

set_option autoImplicit false
set_option relaxedAutoImplicit false

namespace UsCtrl.Foundation

/-- The cells and the positions of the writer and the reader. -/
structure CellRing (α : Type) where
  cells : ℕ → α
  head : ℕ
  tail : ℕ

namespace CellRing

section Queue

variable {α : Type} {size : ℕ} {ring : CellRing α} {value : α} {queue : List α}

/-- The writer stores a value. -/
def push (size : ℕ) (value : α) (ring : CellRing α) : CellRing α :=
  { ring with
    cells := Function.update ring.cells ring.head value
    head := (ring.head + 1) % size }

/-- The reader takes a value, if it has not caught up with the writer. -/
def pop (size : ℕ) (ring : CellRing α) : Option (α × CellRing α) :=
  if ring.tail = ring.head then none
  else some (ring.cells ring.tail, { ring with tail := (ring.tail + 1) % size })

/-- The unread values, oldest first, are the queue. -/
structure Holds (size : ℕ) (ring : CellRing α) (queue : List α) : Prop where
  room : queue.length < size
  tail : ring.tail < size
  head : ring.head = (ring.tail + queue.length) % size
  cells : ∀ i < queue.length, queue[i]? = some (ring.cells ((ring.tail + i) % size))

/-- A writer and a reader that meet hold nothing. -/
theorem holds_nil (htail : ring.tail < size) (hmeet : ring.head = ring.tail) :
    ring.Holds size [] where
  room := by
    rw [List.length_nil]
    omega
  tail := htail
  head := by rw [List.length_nil, Nat.add_zero, Nat.mod_eq_of_lt htail, hmeet]
  cells := fun i hi ↦ absurd hi (Nat.not_lt_zero i)

/-- Places less than a turn apart are different cells. -/
theorem place_ne {first second : ℕ} (hlt : first < second) (hturn : second < size) (start : ℕ) :
    (start + first) % size ≠ (start + second) % size := by
  intro hsame
  have hmod : first % size = second % size := Nat.ModEq.add_left_cancel' start hsame
  rw [Nat.mod_eq_of_lt (hlt.trans hturn), Nat.mod_eq_of_lt hturn] at hmod
  omega

/-- Assumes: room for one more value. Storing appends it to the queue. -/
theorem holds_push (hholds : ring.Holds size queue) (hroom : queue.length + 1 < size) :
    (ring.push size value).Holds size (queue ++ [value]) where
  room := by
    rw [List.length_append, List.length_singleton]
    exact hroom
  tail := hholds.tail
  head := by
    show (ring.head + 1) % size = (ring.tail + (queue ++ [value]).length) % size
    rw [hholds.head, Nat.mod_add_mod, List.length_append, List.length_singleton, Nat.add_assoc]
  cells := by
    intro i hi
    show _ = some (Function.update ring.cells ring.head value ((ring.tail + i) % size))
    rw [List.length_append, List.length_singleton] at hi
    rcases Nat.lt_succ_iff_lt_or_eq.mp hi with hlt | rfl
    · have hother : (ring.tail + i) % size ≠ ring.head := by
        rw [hholds.head]
        exact place_ne hlt (by omega) ring.tail
      rw [Function.update_of_ne hother, List.getElem?_append_left hlt, hholds.cells i hlt]
    · rw [← hholds.head, Function.update_self, List.getElem?_concat_length]

theorem pop_nil (hholds : ring.Holds size []) : ring.pop size = none := by
  have hhead := hholds.head
  rw [List.length_nil, Nat.add_zero, Nat.mod_eq_of_lt hholds.tail] at hhead
  rw [pop, if_pos hhead.symm]

/-- A reader with something unread has not caught up with the writer. -/
theorem Holds.apart (hholds : ring.Holds size queue) (hsome : queue ≠ []) :
    ring.tail ≠ ring.head := by
  have hne := place_ne (List.length_pos_iff.mpr hsome) hholds.room ring.tail
  rwa [Nat.add_zero, Nat.mod_eq_of_lt hholds.tail, ← hholds.head] at hne

/-- The cell at the reader is the front of the queue. -/
theorem Holds.front (hholds : ring.Holds size (value :: queue)) : ring.cells ring.tail = value := by
  have hcell := hholds.cells 0 (Nat.succ_pos _)
  rw [List.getElem?_cons_zero, Nat.add_zero, Nat.mod_eq_of_lt hholds.tail] at hcell
  exact (Option.some.inj hcell).symm

/-- A reader that moves on leaves the rest of the queue. -/
theorem Holds.advance (hholds : ring.Holds size (value :: queue)) :
    ({ ring with tail := (ring.tail + 1) % size } : CellRing α).Holds size queue := by
  have hroom : queue.length + 1 < size := hholds.room
  refine ⟨by omega, Nat.mod_lt _ (by omega), ?_, fun i hi ↦ ?_⟩
  · show ring.head = ((ring.tail + 1) % size + queue.length) % size
    rw [hholds.head, Nat.mod_add_mod, List.length_cons, Nat.add_assoc, Nat.add_comm 1]
  · have hcell := hholds.cells (i + 1) (Nat.succ_lt_succ hi)
    rw [List.getElem?_cons_succ] at hcell
    show _ = some (ring.cells (((ring.tail + 1) % size + i) % size))
    rw [hcell, Nat.mod_add_mod, Nat.add_assoc, Nat.add_comm 1]

/-- The reader finds the front of the queue and leaves the rest. -/
theorem pop_cons (hholds : ring.Holds size (value :: queue)) :
    ∃ ring', ring.pop size = some (value, ring') ∧ ring'.Holds size queue := by
  refine ⟨{ ring with tail := (ring.tail + 1) % size }, ?_, hholds.advance⟩
  rw [pop, if_neg (hholds.apart (List.cons_ne_nil _ _)), hholds.front]

/-- Assumes: room for more values. Storing them one after the other appends them to the queue. -/
theorem holds_pushes {values : List α} (hholds : ring.Holds size queue)
    (hroom : queue.length + values.length < size) :
    (values.foldl (fun ring value ↦ ring.push size value) ring).Holds size (queue ++ values) := by
  induction values generalizing ring queue with
  | nil => simpa using hholds
  | cons value values ih =>
    rw [List.length_cons] at hroom
    have hnext := @holds_push _ _ _ value _ hholds (by omega)
    have hrest := ih hnext (by rw [List.length_append, List.length_singleton]; omega)
    rwa [List.append_assoc] at hrest

/-- Storing leaves the reader where it is. -/
theorem pushes_tail (values : List α) :
    (values.foldl (fun ring value ↦ ring.push size value) ring).tail = ring.tail := by
  induction values generalizing ring with
  | nil => rfl
  | cons value values ih => exact ih

/-- Storing moves the writer on by one place for each value. -/
theorem pushes_head (values : List α) (hhead : ring.head < size) :
    (values.foldl (fun ring value ↦ ring.push size value) ring).head =
      (ring.head + values.length) % size := by
  induction values generalizing ring with
  | nil => exact (Nat.mod_eq_of_lt hhead).symm
  | cons value values ih =>
    rw [List.foldl_cons, ih (Nat.mod_lt _ (Nat.zero_lt_of_lt hhead))]
    show ((ring.head + 1) % size + values.length) % size = _
    rw [Nat.mod_add_mod, List.length_cons, Nat.add_assoc, Nat.add_comm 1]

end Queue

end CellRing

end UsCtrl.Foundation
