import UsCtrl.DgusParser
import UsCtrl.Foundation.RingQueue

/-!
# Polling the display line

`usart1.c` stores what arrives in a ring of 256 bytes; `dgus_rx_poll` empties it into the parser, or
stops at the first frame. The bytes may be spread over the calls in any way, and the clock may show
anything when a call gets to them (`RxPoll`).

`poll_trace` says what any sequence of calls comes to: some times for the bytes in their order
(`trace`), and the frames that a stream with those times delivers. If no call is stopped by a frame
before the last byte, the times are those of the calls the bytes arrive before (`nominal`).
-/

set_option autoImplicit false
set_option relaxedAutoImplicit false

namespace UsCtrl

open Foundation

/-! ### `usart1.c` and `dgus_rx_poll` -/

/-- `RX_DMA_SIZE`. -/
def rxDmaSize : ℕ := 256

/-- The DMA stream stores a byte: `head` is the size less the transfer counter. -/
def usart1RxStore (byte : UInt8) (ring : CellRing UInt8) : CellRing UInt8 :=
  ring.push rxDmaSize byte

/-- `usart1_rx_pop` with the transfer counter settled; `UsCtrl.UsartRing` has its other reading. -/
def usart1RxPop (ring : CellRing UInt8) : Option (UInt8 × CellRing UInt8) := ring.pop rxDmaSize

/-- The receiving side: the ring and the parser. -/
structure RxSide where
  ring : CellRing UInt8
  parser : DgusParser

/-- The receiving side of a boot. -/
def rxInit : RxSide := ⟨⟨fun _ ↦ 0, 0, 0⟩, dgusInit⟩

/-- The loop of `dgus_rx_poll`; `clock` is what its turns read. The ring holds less than
`rxDmaSize` bytes, so that many turns are as good as any number (`poll_queue`). -/
def dgusRxPoll (clock : ℕ → ℕ) : ℕ → ℕ → RxSide → RxSide × Option DgusFrame
  | 0, _, side => (side, none)
  | turns + 1, turn, side =>
    match usart1RxPop side.ring with
    | none => (side, none)
    | some (byte, ring) =>
      match parserStep (clock turn) byte side.parser with
      | (parser, some frame) => (⟨ring, parser⟩, some frame)
      | (parser, none) => dgusRxPoll clock turns (turn + 1) ⟨ring, parser⟩

/-- A call of `dgus_rx_poll`: the bytes that have arrived since the call before, and what its turns
read of the clock. -/
structure RxPoll where
  arrived : List UInt8
  clock : ℕ → ℕ

/-- The bytes are stored and the call is made. -/
def rxCall (call : RxPoll) (side : RxSide) : RxSide × Option DgusFrame :=
  dgusRxPoll call.clock rxDmaSize 0
    { side with ring := call.arrived.foldl (fun ring byte ↦ usart1RxStore byte ring) side.ring }

/-- The receiving side behind a sequence of calls. -/
def rxRun (calls : List RxPoll) (side : RxSide) : RxSide :=
  calls.foldl (fun side call ↦ (rxCall call side).1) side

/-- The frames a sequence of calls returns. -/
def rxFrames : List RxPoll → RxSide → List DgusFrame
  | [], _ => []
  | call :: calls, side => (rxCall call side).2.toList ++ rxFrames calls (rxCall call side).1

/-! ### The ring is a queue -/

/-- Bytes with the times at which turns from `turn` on get to them. -/
def stamp (clock : ℕ → ℕ) : ℕ → List UInt8 → List Stamped
  | _, [] => []
  | turn, byte :: bytes => (clock turn, byte) :: stamp clock (turn + 1) bytes

theorem stamp_bytes (clock : ℕ → ℕ) (turn : ℕ) (bytes : List UInt8) :
    (stamp clock turn bytes).map Prod.snd = bytes := by
  induction bytes generalizing turn with
  | nil => rfl
  | cons byte bytes ih => rw [stamp, List.map_cons, ih]

theorem stamp_append (clock : ℕ → ℕ) (turn : ℕ) (bytes bytes' : List UInt8) :
    stamp clock turn (bytes ++ bytes') =
      stamp clock turn bytes ++ stamp clock (turn + bytes.length) bytes' := by
  induction bytes generalizing turn with
  | nil => rfl
  | cons byte bytes ih =>
    rw [List.cons_append, stamp, ih, stamp, List.cons_append, List.length_cons, Nat.add_assoc,
      Nat.add_comm 1]

theorem store_queue {ring : CellRing UInt8} {queue bytes : List UInt8}
    (hring : ring.Holds rxDmaSize queue) (hroom : queue.length + bytes.length < rxDmaSize) :
    (bytes.foldl (fun ring byte ↦ usart1RxStore byte ring) ring).Holds rxDmaSize
      (queue ++ bytes) := CellRing.holds_pushes hring hroom

/-- What a call leaves of a queue: it has fed `taken` to the parser and returns what these deliver;
it returns nothing only if the queue is empty. -/
structure Polls (clock : ℕ → ℕ) (turn : ℕ) (queue : List UInt8) (parser : DgusParser)
    (result : RxSide × Option DgusFrame) (taken rest : List UInt8) : Prop where
  split : queue = taken ++ rest
  holds : result.1.ring.Holds rxDmaSize rest
  fed : result.1.parser = feed (stamp clock turn taken) parser
  frames : result.2.toList = delivered (stamp clock turn taken) parser
  stops : result.2 = none → rest = []

/-- Assumes: the ring holds a queue, and the turns outnumber it. -/
theorem poll_queue {clock : ℕ → ℕ} {turns turn : ℕ} {queue : List UInt8} {side : RxSide}
    (hring : side.ring.Holds rxDmaSize queue) (hturns : queue.length < turns) :
    ∃ taken rest, Polls clock turn queue side.parser (dgusRxPoll clock turns turn side) taken
      rest := by
  induction queue generalizing turns turn side with
  | nil =>
    obtain ⟨turns, rfl⟩ := Nat.exists_eq_succ_of_ne_zero (show turns ≠ 0 by omega)
    have hpop : usart1RxPop side.ring = none := CellRing.pop_nil hring
    have hcall : dgusRxPoll clock (turns + 1) turn side = (side, none) := by
      rw [dgusRxPoll, hpop]
    refine ⟨[], [], rfl, ?_, ?_, ?_, fun _ ↦ rfl⟩
    · rw [hcall]
      exact hring
    · rw [hcall]
      rfl
    · rw [hcall]
      rfl
  | cons byte queue ih =>
    obtain ⟨turns, rfl⟩ := Nat.exists_eq_succ_of_ne_zero (show turns ≠ 0 by omega)
    rw [List.length_cons] at hturns
    obtain ⟨ring, hpop, hrest⟩ := CellRing.pop_cons hring
    have hpop : usart1RxPop side.ring = some (byte, ring) := hpop
    cases hstep : parserStep (clock turn) byte side.parser with
    | mk parser out =>
      cases out with
      | some frame =>
        have hcall : dgusRxPoll clock (turns + 1) turn side = (⟨ring, parser⟩, some frame) := by
          rw [dgusRxPoll, hpop]
          dsimp only
          rw [hstep]
        refine ⟨[byte], queue, rfl, ?_, ?_, ?_, ?_⟩
        · rw [hcall]
          exact hrest
        · rw [hcall, stamp, stamp, feed_cons, hstep, feed_nil]
        · rw [hcall, stamp, stamp, delivered_cons, hstep, delivered_nil, List.append_nil]
        · rw [hcall]
          rintro ⟨⟩
      | none =>
        have hcall : dgusRxPoll clock (turns + 1) turn side =
            dgusRxPoll clock turns (turn + 1) ⟨ring, parser⟩ := by
          rw [dgusRxPoll, hpop]
          dsimp only
          rw [hstep]
        obtain ⟨taken, rest, hsplit, hholds, hparser, hframes, hstops⟩ :=
          @ih turns (turn + 1) ⟨ring, parser⟩ hrest (by omega)
        rw [← hcall] at hholds hparser hframes hstops
        refine ⟨byte :: taken, rest, ?_, hholds, ?_, ?_, hstops⟩
        · rw [hsplit, List.cons_append]
        · rw [hparser, stamp, feed_cons, hstep]
        · rw [hframes, stamp, delivered_cons, hstep]
          exact (List.nil_append _).symm

/-! ### Sequences of calls -/

/-- The bytes that arrive before the calls. -/
def arrivals (calls : List RxPoll) : List UInt8 := calls.flatMap RxPoll.arrived

/-- The bytes with the times of the calls they arrive before: the calls keep up with them. -/
def nominal (calls : List RxPoll) : List Stamped :=
  calls.flatMap fun call ↦ stamp call.clock 0 call.arrived

theorem nominal_bytes (calls : List RxPoll) : (nominal calls).map Prod.snd = arrivals calls := by
  induction calls with
  | nil => rfl
  | cons call calls ih =>
    show (stamp call.clock 0 call.arrived ++ nominal calls).map Prod.snd =
      call.arrived ++ arrivals calls
    rw [List.map_append, stamp_bytes, ih]

/-- What a sequence of calls comes to: the bytes of `trace` have been fed to the parser at its
times, the frames it delivers have been returned, and `rest` is unread. -/
structure Traced (calls : List RxPoll) (queue : List UInt8) (side : RxSide) (trace : List Stamped)
    (rest : List UInt8) : Prop where
  bytes : trace.map Prod.snd ++ rest = queue ++ arrivals calls
  holds : (rxRun calls side).ring.Holds rxDmaSize rest
  fed : (rxRun calls side).parser = feed trace side.parser
  frames : rxFrames calls side = delivered trace side.parser

/-- One call and its arrivals. -/
theorem call_queue (call : RxPoll) {queue : List UInt8} {side : RxSide}
    (hring : side.ring.Holds rxDmaSize queue)
    (hroom : queue.length + call.arrived.length < rxDmaSize) :
    ∃ taken rest, Polls call.clock 0 (queue ++ call.arrived) side.parser (rxCall call side) taken
      rest := by
  have hstored := store_queue hring hroom
  have hturns : (queue ++ call.arrived).length < rxDmaSize := by
    rw [List.length_append]
    exact hroom
  exact @poll_queue call.clock rxDmaSize 0 _ ⟨_, side.parser⟩ hstored hturns

/-- Assumes: what comes behind the call is traced. Then the calls are. -/
theorem Polls.traced {call : RxPoll} {calls : List RxPoll} {queue taken unread rest : List UInt8}
    {side : RxSide} {trace : List Stamped}
    (hpolls : Polls call.clock 0 (queue ++ call.arrived) side.parser (rxCall call side) taken
      unread)
    (htraced : Traced calls unread (rxCall call side).1 trace rest) :
    Traced (call :: calls) queue side (stamp call.clock 0 taken ++ trace) rest := by
  obtain ⟨hbytes, hholds, hfed, hframes⟩ := htraced
  refine ⟨?_, hholds, ?_, ?_⟩
  · show _ = queue ++ (call.arrived ++ arrivals calls)
    rw [List.map_append, stamp_bytes, List.append_assoc, hbytes, ← List.append_assoc,
      ← hpolls.split, List.append_assoc]
  · rw [feed_append, ← hpolls.fed]
    exact hfed
  · rw [delivered_append, ← hpolls.frames, ← hpolls.fed, ← hframes]
    rfl

/-- Assumes: fewer than `rxDmaSize` bytes arrive. Any sequence of calls is traced. -/
theorem poll_trace {calls : List RxPoll} {queue : List UInt8} {side : RxSide}
    (hring : side.ring.Holds rxDmaSize queue)
    (hroom : queue.length + (arrivals calls).length < rxDmaSize) :
    ∃ trace rest, Traced calls queue side trace rest := by
  induction calls generalizing queue side with
  | nil => exact ⟨[], queue, ⟨by simp [arrivals], hring, rfl, rfl⟩⟩
  | cons call calls ih =>
    have harrivals : (arrivals (call :: calls)).length =
        call.arrived.length + (arrivals calls).length := List.length_append
    obtain ⟨taken, unread, hpolls⟩ := call_queue call hring (by omega)
    have hsplit := congrArg List.length hpolls.split
    rw [List.length_append, List.length_append] at hsplit
    obtain ⟨trace, rest, htraced⟩ := ih hpolls.holds (by omega)
    exact ⟨_, rest, hpolls.traced htraced⟩

/-- Assumes: moreover, nothing is unread at first. The times are the nominal ones, or some call has
been stopped by a frame that the nominal times deliver too, with bytes still to come. -/
theorem poll_trace_nominal {calls : List RxPoll} {side : RxSide}
    (hring : side.ring.Holds rxDmaSize []) (hroom : (arrivals calls).length < rxDmaSize) :
    ∃ trace rest, Traced calls [] side trace rest ∧
      (trace = nominal calls ∨
        ∃ common more missed, trace = common ++ more ∧ nominal calls = common ++ missed ∧
          missed ≠ [] ∧ delivered common side.parser ≠ []) := by
  induction calls generalizing side with
  | nil => exact ⟨[], [], ⟨rfl, hring, rfl, rfl⟩, .inl rfl⟩
  | cons call calls ih =>
    have harrivals : (arrivals (call :: calls)).length =
        call.arrived.length + (arrivals calls).length := List.length_append
    obtain ⟨taken, unread, hpolls⟩ := call_queue call hring (by rw [List.length_nil]; omega)
    have hsplit : call.arrived = taken ++ unread := hpolls.split
    have hnominal : nominal (call :: calls) = stamp call.clock 0 taken ++
        (stamp call.clock (0 + taken.length) unread ++ nominal calls) := by
      show stamp call.clock 0 call.arrived ++ nominal calls = _
      rw [hsplit, stamp_append, List.append_assoc]
    rw [hnominal]
    cases unread with
    | nil =>
      obtain ⟨trace, rest, htraced, hcase⟩ := ih hpolls.holds (by omega)
      refine ⟨_, rest, hpolls.traced htraced, ?_⟩
      rw [stamp, List.nil_append]
      rcases hcase with rfl | ⟨common, more, missed, rfl, hmissed, hsome, hframe⟩
      · exact .inl rfl
      · refine .inr ⟨stamp call.clock 0 taken ++ common, more, missed,
          (List.append_assoc _ _ _).symm, by rw [hmissed, List.append_assoc], hsome, ?_⟩
        rw [delivered_append, ← hpolls.fed]
        exact fun hnone ↦ hframe (List.append_eq_nil_iff.mp hnone).2
    | cons byte unread =>
      have hlength := congrArg List.length hsplit
      rw [List.length_append] at hlength
      obtain ⟨trace, rest, htraced⟩ := poll_trace hpolls.holds (show
        (byte :: unread).length + (arrivals calls).length < rxDmaSize by omega)
      refine ⟨_, rest, hpolls.traced htraced, .inr ⟨stamp call.clock 0 taken, trace, _, rfl, rfl,
        by simp [stamp], ?_⟩⟩
      rw [← hpolls.frames]
      intro hnone
      have hempty := hpolls.stops (Option.toList_eq_nil_iff.mp hnone)
      exact List.cons_ne_nil _ _ hempty

end UsCtrl
