import Mathlib.Tactic.Common
import Mathlib.Data.List.Infix

/-!
# Self-delimiting frames in a stream

A sender concatenates frames into a stream of symbols; a receiver accumulates the stream in pieces
and looks at the head of its buffer for a complete frame. The look (`peek`) delimits the frames if
it reports the length of a frame that is complete and nothing on a proper beginning of one
(`Delimits`). What the receiver still owes is then pinned down by one equation: the frames not yet
taken, concatenated, are the buffer followed by the symbols still to come (`Owes`). Receiving moves
symbols from the right of the buffer into it (`owes_receive`), taking the frame that is reported
removes exactly the next one (`owes_take`), and nothing is reported only while the next frame is
incomplete (`owes_wait`).
-/

set_option autoImplicit false
set_option relaxedAutoImplicit false

namespace UsCtrl.Foundation

section FrameStream

variable {β : Type} {isFrame : List β → Prop} {peek : List β → Option ℕ}

/-- A look at the head of a buffer reports complete frames, and nothing on a proper beginning. -/
structure Delimits (isFrame : List β → Prop) (peek : List β → Option ℕ) : Prop where
  complete : ∀ frame rest, isFrame frame → peek (frame ++ rest) = some frame.length
  partial_none : ∀ frame buffer, isFrame frame → buffer <+: frame →
    buffer.length < frame.length → peek buffer = none
  empty : peek [] = none

/-- The frames not yet taken are what the buffer holds and what is still to come. -/
structure Owes (isFrame : List β → Prop) (frames : List (List β)) (buffer pending : List β) :
    Prop where
  well : ∀ frame ∈ frames, isFrame frame
  stream : frames.flatten = buffer ++ pending

variable {frames : List (List β)} {buffer pending : List β}

theorem owes_receive {chunk : List β} (howes : Owes isFrame frames buffer (chunk ++ pending)) :
    Owes isFrame frames (buffer ++ chunk) pending :=
  ⟨howes.well, by rw [howes.stream, List.append_assoc]⟩

/-- The next frame is either complete at the head of the buffer, or the buffer is a proper
beginning of it. -/
theorem owes_cons {frame : List β} {rest : List (List β)}
    (howes : Owes isFrame (frame :: rest) buffer pending) :
    (∃ more, buffer = frame ++ more ∧ Owes isFrame rest more pending) ∨
      (buffer <+: frame ∧ buffer.length < frame.length) := by
  have hstream := howes.stream
  rw [List.flatten_cons] at hstream
  rcases List.append_eq_append_iff.mp hstream with ⟨more, hbuffer, hrest⟩ | ⟨missing, hframe, -⟩
  · exact .inl ⟨more, hbuffer, fun other hother ↦ howes.well other (List.mem_cons_of_mem _ hother),
      hrest⟩
  · by_cases hempty : missing = []
    · subst hempty
      rw [List.append_nil] at hframe
      subst hframe
      refine .inl ⟨[], (List.append_nil _).symm, fun other hother ↦
        howes.well other (List.mem_cons_of_mem _ hother), ?_⟩
      exact List.append_cancel_left hstream
    · refine .inr ⟨⟨missing, hframe.symm⟩, ?_⟩
      have := List.length_pos_iff.mpr hempty
      rw [hframe, List.length_append]
      omega

/-- Assumes: a length is reported. It is the next frame, which stands at the head of the buffer. -/
theorem owes_take (hdelimits : Delimits isFrame peek) (howes : Owes isFrame frames buffer pending)
    {length : ℕ} (hpeek : peek buffer = some length) :
    ∃ rest, frames = buffer.take length :: rest ∧
      Owes isFrame rest (buffer.drop length) pending := by
  cases frames with
  | nil =>
    have hnothing := howes.stream
    rw [List.flatten_nil] at hnothing
    rw [(List.append_eq_nil_iff.mp hnothing.symm).1, hdelimits.empty] at hpeek
    exact absurd hpeek (by simp)
  | cons frame rest =>
    have hframe := howes.well frame List.mem_cons_self
    rcases owes_cons howes with ⟨more, rfl, hrest⟩ | ⟨hinitial, hshort⟩
    · rw [hdelimits.complete frame more hframe, Option.some.injEq] at hpeek
      subst hpeek
      exact ⟨rest, by rw [List.take_left], by rwa [List.drop_left]⟩
    · rw [hdelimits.partial_none frame buffer hframe hinitial hshort] at hpeek
      exact absurd hpeek (by simp)

/-- Assumes: nothing is reported. All frames are taken and the buffer is empty, or the buffer is a
proper beginning of the next frame. -/
theorem owes_wait (hdelimits : Delimits isFrame peek) (howes : Owes isFrame frames buffer pending)
    (hpeek : peek buffer = none) :
    (frames = [] ∧ buffer = []) ∨ ∃ frame rest, frames = frame :: rest ∧
      buffer.length < frame.length := by
  cases frames with
  | nil =>
    have hnothing := howes.stream
    rw [List.flatten_nil] at hnothing
    exact .inl ⟨rfl, (List.append_eq_nil_iff.mp hnothing.symm).1⟩
  | cons frame rest =>
    rcases owes_cons howes with ⟨more, rfl, -⟩ | ⟨-, hshort⟩
    · rw [hdelimits.complete frame more (howes.well frame List.mem_cons_self)] at hpeek
      exact absurd hpeek (by simp)
    · exact .inr ⟨frame, rest, rfl, hshort⟩

end FrameStream

end UsCtrl.Foundation
