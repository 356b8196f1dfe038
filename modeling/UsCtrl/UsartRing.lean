import UsCtrl.Foundation.History
import UsCtrl.DgusPolls

/-!
# The receive ring and its transfer counter

The reader of the receive ring learns where the DMA stream writes from the transfer counter of the
stream. The counter counts a turn of the ring down; at the end of the turn, until it is reloaded, it
can read zero (`CounterReads`). `usart1_rx_pop` does not mask the write position 256 that it forms
from a zero, and compares it with a masked reader position.

`rx_fifo_iff` says exactly when the ring is a queue all the same: as long as no call samples a zero
with everything returned (`readsAhead`). `rx_fifo_of_atOnce` is the case the comment of the
function relies on: the call behind one that samples a zero does not.
-/

set_option autoImplicit false
set_option relaxedAutoImplicit false

namespace UsCtrl

open Foundation

/-! ### Reading the counter -/

/-- What the transfer counter of a ring can read behind `count` stored bytes: what is left of the
turn, or zero at the end of a turn. -/
def CounterReads (size count ndtr : ℕ) : Prop :=
  ndtr = size - count % size ∨ (count % size = 0 ∧ 0 < count ∧ ndtr = 0)

instance (size count ndtr : ℕ) : Decidable (CounterReads size count ndtr) :=
  inferInstanceAs (Decidable (_ ∨ _))

/-- `usart1_rx_pop`, which samples `ndtr`; the bytes of `during` are stored between that and the
read of the cell. -/
def usart1RxPopSampled (ndtr : ℕ) (during : List UInt8) (ring : CellRing UInt8) :
    Option UInt8 × CellRing UInt8 :=
  let stored := during.foldl (fun ring byte ↦ usart1RxStore byte ring) ring
  if ring.tail = rxDmaSize - ndtr then (none, stored)
  else (some (stored.cells ring.tail), { stored with tail := (ring.tail + 1) % rxDmaSize })

/-- With a settled counter and nothing stored meanwhile this is `usart1RxPop`. -/
theorem usart1RxPopSampled_settled {ring : CellRing UInt8} (hhead : ring.head < rxDmaSize) :
    usart1RxPop ring = (usart1RxPopSampled (rxDmaSize - ring.head) [] ring).1.map fun byte ↦
      (byte, (usart1RxPopSampled (rxDmaSize - ring.head) [] ring).2) := by
  have hsample : rxDmaSize - (rxDmaSize - ring.head) = ring.head := Nat.sub_sub_self hhead.le
  rw [usart1RxPopSampled, hsample, usart1RxPop, CellRing.pop]
  split_ifs <;> rfl

/-- A byte is stored, or `usart1_rx_pop` is called. -/
inductive RxEvent
  | store (byte : UInt8)
  | pop (ndtr : ℕ) (during : List UInt8)

/-- The effect of an event on the ring. -/
def RxEvent.exec (event : RxEvent) (ring : CellRing UInt8) : CellRing UInt8 :=
  match event with
  | .store byte => usart1RxStore byte ring
  | .pop ndtr during => (usart1RxPopSampled ndtr during ring).2

/-- The ring from `usart1_init` on. -/
def rxRing : Machine (CellRing UInt8) RxEvent where
  start := rxInit.ring
  exec := RxEvent.exec

/-- The bytes stored in a history, oldest first. -/
def rxReceived : List RxEvent → List UInt8
  | [] => []
  | .store byte :: past => rxReceived past ++ [byte]
  | .pop _ during :: past => rxReceived past ++ during

/-- The bytes returned in a history, oldest first. -/
def rxReturned : List RxEvent → List UInt8
  | [] => []
  | .store _ :: past => rxReturned past
  | .pop ndtr during :: past =>
    rxReturned past ++ (usart1RxPopSampled ndtr during (rxRing.after past)).1.toList

/-- What the line and the counter keep to: fewer bytes than the ring has cells are unread at any
time, and a sample is a reading of the counter. -/
def rxAdmits : Past RxEvent
  | [] => True
  | .store byte :: past =>
    (rxReceived (.store byte :: past)).length < (rxReturned past).length + rxDmaSize
  | .pop ndtr during :: past =>
    (rxReceived (.pop ndtr during :: past)).length < (rxReturned past).length + rxDmaSize ∧
      CounterReads rxDmaSize (rxReceived past).length ndtr

/-- The newest call samples a zero with everything returned, and nothing is stored before it reads
the cell. -/
def readsAhead : Past RxEvent
  | .pop ndtr during :: past =>
    ndtr = 0 ∧ during = [] ∧ (rxReturned past).length = (rxReceived past).length
  | _ => False

/-! ### The ring as a queue -/

/-- The ring holds the bytes received and not yet returned. -/
def RxQueued (history : List RxEvent) : Prop :=
  ∃ queue, rxReceived history = rxReturned history ++ queue ∧
    (rxRing.after history).Holds rxDmaSize queue

theorem rxQueued_nil : RxQueued [] :=
  ⟨[], rfl, CellRing.holds_nil (by decide) rfl⟩

/-- The bytes stored during a call. -/
theorem popSampled_head (ndtr : ℕ) (during : List UInt8) (ring : CellRing UInt8) :
    (usart1RxPopSampled ndtr during ring).2.head =
      (during.foldl (fun ring byte ↦ usart1RxStore byte ring) ring).head := by
  unfold usart1RxPopSampled
  dsimp only
  split_ifs <;> rfl

theorem rxRing_head (history : List RxEvent) :
    (rxRing.after history).head = (rxReceived history).length % rxDmaSize := by
  induction history with
  | nil => rfl
  | cons event past ih =>
    have hhead : (rxRing.after past).head < rxDmaSize := by
      rw [ih]
      exact Nat.mod_lt _ (by decide)
    cases event with
    | store byte =>
      show ((rxRing.after past).head + 1) % rxDmaSize = _
      rw [ih, Nat.mod_add_mod, rxReceived, List.length_append, List.length_singleton]
    | pop ndtr during =>
      show (usart1RxPopSampled ndtr during (rxRing.after past)).2.head = _
      rw [popSampled_head]
      refine (CellRing.pushes_head during hhead).trans ?_
      rw [ih, Nat.mod_add_mod, rxReceived, List.length_append]

theorem rxRing_tail (history : List RxEvent) :
    (rxRing.after history).tail = (rxReturned history).length % rxDmaSize := by
  induction history with
  | nil => rfl
  | cons event past ih =>
    cases event with
    | store byte => exact ih
    | pop ndtr during =>
      have htail := @CellRing.pushes_tail _ rxDmaSize (rxRing.after past) during
      show (usart1RxPopSampled ndtr during (rxRing.after past)).2.tail = _
      unfold rxReturned usart1RxPopSampled
      dsimp only
      split_ifs
      · rw [Option.toList_none, List.append_nil, ← ih]
        exact htail
      · rw [Option.toList_some, List.length_append, List.length_singleton]
        show ((rxRing.after past).tail + 1) % rxDmaSize = _
        rw [ih, Nat.mod_add_mod]

/-- Assumes: a queue and room for a byte. Storing it keeps the queue. -/
theorem RxQueued.store {past : List RxEvent} {byte : UInt8} (hqueued : RxQueued past)
    (hadmits : rxAdmits (.store byte :: past)) : RxQueued (.store byte :: past) := by
  obtain ⟨queue, hsplit, hholds⟩ := hqueued
  have hlength := congrArg List.length hsplit
  rw [List.length_append] at hlength
  rw [rxAdmits, rxReceived, List.length_append, List.length_singleton] at hadmits
  refine ⟨queue ++ [byte], ?_, CellRing.holds_push hholds (by omega)⟩
  rw [rxReceived, rxReturned, hsplit, List.append_assoc]

/-- Assumes: a queue, and what the line and the counter keep to. A call returns the front of the
queue, or nothing from an empty one; only one that reads ahead returns a byte more than has been
received. -/
theorem RxQueued.pop {past : List RxEvent} {ndtr : ℕ} {during : List UInt8}
    (hqueued : RxQueued past) (hadmits : rxAdmits (.pop ndtr during :: past)) :
    (¬ readsAhead (.pop ndtr during :: past) → RxQueued (.pop ndtr during :: past)) ∧
      (readsAhead (.pop ndtr during :: past) →
        (rxReturned (.pop ndtr during :: past)).length =
          (rxReceived (.pop ndtr during :: past)).length + 1) := by
  obtain ⟨queue, hsplit, hholds⟩ := hqueued
  obtain ⟨hroom, hcounter⟩ := hadmits
  have hlength := congrArg List.length hsplit
  rw [List.length_append] at hlength
  rw [rxReceived, List.length_append] at hroom
  have hstored := @CellRing.holds_pushes _ _ _ _ during hholds (by omega)
  have htail := @CellRing.pushes_tail _ rxDmaSize (rxRing.after past) during
  generalize hring : during.foldl (fun ring byte ↦ ring.push rxDmaSize byte) (rxRing.after past) =
    stored at hstored htail
  have hcall : usart1RxPopSampled ndtr during (rxRing.after past) =
      if (rxRing.after past).tail = rxDmaSize - ndtr then (none, stored)
      else (some (stored.cells stored.tail),
        { stored with tail := (stored.tail + 1) % rxDmaSize }) := by
    rw [htail, ← hring]
    rfl
  have htook {value : UInt8} {rest : List UInt8} (hfront : queue ++ during = value :: rest)
      (hsome : (rxRing.after past).tail ≠ rxDmaSize - ndtr) :
      RxQueued (.pop ndtr during :: past) := by
    rw [hfront] at hstored
    rw [if_neg hsome, hstored.front] at hcall
    refine ⟨rest, ?_, ?_⟩
    · rw [rxReceived, rxReturned, hcall, hsplit, List.append_assoc, hfront, List.append_assoc]
      rfl
    · rw [Machine.after_cons]
      show (usart1RxPopSampled ndtr during (rxRing.after past)).2.Holds rxDmaSize rest
      rw [hcall]
      exact hstored.advance
  have hhead := rxRing_head past
  rcases hcounter with hsettled | ⟨hturn, hsome, hzero⟩
  · -- the sample is where the stream writes
    have hlt : (rxReceived past).length % rxDmaSize < rxDmaSize := Nat.mod_lt _ (by decide)
    have hsample : rxDmaSize - ndtr = (rxRing.after past).head := by
      rw [hsettled, hhead]
      exact Nat.sub_sub_self hlt.le
    refine ⟨fun _ ↦ ?_, ?_⟩
    · rw [hsample] at htook hcall
      cases queue with
      | nil =>
        have hmeet : (rxRing.after past).tail = (rxRing.after past).head := by
          have hmeet := hholds.head
          rw [List.length_nil, Nat.add_zero, Nat.mod_eq_of_lt hholds.tail] at hmeet
          exact hmeet.symm
        rw [if_pos hmeet] at hcall
        refine ⟨during, ?_, ?_⟩
        · rw [rxReceived, rxReturned, hcall, hsplit]
          simp
        · rw [Machine.after_cons]
          show (usart1RxPopSampled ndtr during (rxRing.after past)).2.Holds rxDmaSize during
          rw [hcall]
          exact hstored
      | cons value rest => exact htook rfl (hholds.apart (List.cons_ne_nil _ _))
    · rintro ⟨hzero, -, -⟩
      omega
  · have happart : (rxRing.after past).tail ≠ rxDmaSize - ndtr := by
      have htail := hholds.tail
      rw [hzero]
      omega
    refine ⟨fun hnot ↦ ?_, ?_⟩
    · cases hfront : queue ++ during with
      | nil =>
        obtain ⟨rfl, rfl⟩ := List.append_eq_nil_iff.mp hfront
        exact absurd ⟨hzero, rfl, by rw [hlength]; rfl⟩ hnot
      | cons value rest => exact htook hfront happart
    · rintro ⟨-, rfl, hall⟩
      rw [if_neg happart] at hcall
      rw [rxReceived, rxReturned, hcall, List.length_append, List.append_nil, hall]
      rfl

theorem RxQueued.begins {history : List RxEvent} (hqueued : RxQueued history) :
    rxReturned history <+: rxReceived history := by
  obtain ⟨queue, hsplit, -⟩ := hqueued
  exact ⟨queue, hsplit.symm⟩

/-- One event more. -/
theorem RxQueued.step {event : RxEvent} {past : List RxEvent} (hqueued : RxQueued past)
    (hadmits : rxAdmits (event :: past)) (hnot : ¬ readsAhead (event :: past)) :
    RxQueued (event :: past) := by
  cases event with
  | store byte => exact hqueued.store hadmits
  | pop ndtr during => exact (hqueued.pop hadmits).1 hnot

/-- A call that reads ahead returns a byte that has not been received. -/
theorem RxQueued.not_begins {event : RxEvent} {past : List RxEvent} (hqueued : RxQueued past)
    (hadmits : rxAdmits (event :: past)) (hahead : readsAhead (event :: past)) :
    ¬ rxReturned (event :: past) <+: rxReceived (event :: past) := by
  cases event with
  | store byte => exact absurd hahead id
  | pop ndtr during =>
    intro hbegins
    have hle := hbegins.length_le
    have hlonger := (hqueued.pop hadmits).2 hahead
    omega

/-! ### Runs -/

/-- Assumes: what the line and the counter keep to, and no call reads ahead. -/
theorem rxQueued_run {history : List RxEvent} (hadmits : always rxAdmits history)
    (hnot : always (fun history ↦ ¬ readsAhead history) history) :
    RxQueued history ∧
      always (fun history ↦ rxReturned history <+: rxReceived history) history := by
  induction history with
  | nil => exact ⟨rxQueued_nil, trivial⟩
  | cons event past ih =>
    obtain ⟨hqueued, halways⟩ := ih hadmits.2 hnot.2
    have hnext := hqueued.step hadmits.1 hnot.1
    exact ⟨hnext, hnext.begins, halways⟩

/-- Assumes: what the line and the counter keep to. At every time of a run the returned bytes are a
prefix of the received ones if and only if no call of it reads ahead. -/
theorem rx_fifo_iff (history : List RxEvent) (hadmits : always rxAdmits history) :
    always (fun history ↦ rxReturned history <+: rxReceived history) history ↔
      always (fun history ↦ ¬ readsAhead history) history := by
  constructor
  · induction history with
    | nil => exact id
    | cons event past ih =>
      rintro ⟨hbegins, hpast⟩
      have hnot := ih hadmits.2 hpast
      refine ⟨fun hahead ↦ ?_, hnot⟩
      exact (rxQueued_run hadmits.2 hnot).1.not_begins hadmits.1 hahead hbegins
  · exact fun hnot ↦ (rxQueued_run hadmits hnot).2

/-- Bytes that are returned one by one. -/
def echoRounds : ℕ → List RxEvent
  | 0 => []
  | n + 1 => .pop (rxDmaSize - (n + 1) % rxDmaSize) [] :: .store 0x5A :: echoRounds n

theorem echoRounds_run (n : ℕ) :
    (always rxAdmits (echoRounds n) ∧
        always (fun history ↦ ¬ readsAhead history) (echoRounds n)) ∧ RxQueued (echoRounds n) ∧
      (rxReceived (echoRounds n)).length = n ∧ (rxReturned (echoRounds n)).length = n := by
  induction n with
  | zero => exact ⟨⟨trivial, trivial⟩, rxQueued_nil, rfl, rfl⟩
  | succ n ih =>
    obtain ⟨⟨hadmits, hpast⟩, hqueued, hreceived, hreturned⟩ := ih
    have hstore : rxAdmits (.store 0x5A :: echoRounds n) := by
      rw [rxAdmits, rxReceived, List.length_append, hreceived, hreturned]
      exact Nat.add_lt_add_left (by decide) n
    have hcount : (rxReceived (.store 0x5A :: echoRounds n)).length = n + 1 := by
      rw [rxReceived, List.length_append, hreceived]
      rfl
    have hadmits' : rxAdmits (echoRounds (n + 1)) := by
      refine ⟨?_, Or.inl ?_⟩
      · rw [rxReceived, List.append_nil, hcount]
        show n + 1 < (rxReturned (echoRounds n)).length + rxDmaSize
        rw [hreturned]
        exact Nat.add_lt_add_left (by decide) n
      · rw [hcount]
    have hnot : ¬ readsAhead (echoRounds (n + 1)) := by
      rintro ⟨-, -, hall⟩
      rw [hcount] at hall
      change (rxReturned (echoRounds n)).length = n + 1 at hall
      omega
    have hnext := (hqueued.store hstore).step hadmits' hnot
    refine ⟨⟨⟨hadmits', hstore, hadmits⟩, hnot, id, hpast⟩, hnext, ?_, ?_⟩
    · show (rxReceived (.store 0x5A :: echoRounds n) ++ []).length = n + 1
      rw [List.append_nil, hcount]
    · have hsome : (rxRing.after (.store 0x5A :: echoRounds n)).tail ≠
          rxDmaSize - (rxDmaSize - (n + 1) % rxDmaSize) := by
        rw [rxRing_tail]
        show (rxReturned (echoRounds n)).length % 256 ≠ 256 - (256 - (n + 1) % 256)
        omega
      show (rxReturned (echoRounds n) ++ _).length = n + 1
      rw [usart1RxPopSampled, if_neg hsome, List.length_append, hreturned]
      rfl

/-- Behind 254 bytes two more end the turn of the ring, a third is stored while the counter reads
zero, and all are returned. -/
def reloadRun : List RxEvent :=
  .pop 255 [] :: .pop 255 [] :: .pop 0 [0x33] :: .store 0x22 :: .store 0x11 :: echoRounds 254

/-- Over the reload of the counter the ring is a queue. -/
theorem reload_fifo :
    always (fun history ↦ rxReturned history <+: rxReceived history) reloadRun := by
  obtain ⟨⟨hadmits, hnot⟩, -, hreceived, hreturned⟩ := echoRounds_run 254
  have hgrows (ndtr : ℕ) (during : List UInt8) (past : List RxEvent) :
      (rxReturned past).length ≤ (rxReturned (.pop ndtr during :: past)).length := by
    rw [rxReturned, List.length_append]
    exact Nat.le_add_right _ _
  have hsettled (rest : List RxEvent) (hlow : 254 ≤ (rxReturned rest).length)
      (hcount : (rxReceived rest).length = 257) : rxAdmits (.pop 255 [] :: rest) := by
    refine ⟨?_, by rw [hcount]; decide⟩
    rw [rxReceived, List.append_nil, hcount]
    show 257 < _ + 256
    omega
  have hsize : rxDmaSize = 256 := rfl
  have hlow : 254 ≤ (rxReturned (.store 0x22 :: .store 0x11 :: echoRounds 254)).length :=
    hreturned.ge
  have hfirst := hlow.trans (hgrows 0 [0x33] _)
  have hsecond := hfirst.trans (hgrows 255 [] _)
  refine (rx_fifo_iff reloadRun ⟨hsettled _ hsecond ?_, hsettled _ hfirst ?_, ⟨?_, ?_⟩, ?_, ?_,
    hadmits⟩).mpr ⟨fun h ↦ absurd h.1 (by decide), fun h ↦ absurd h.1 (by decide),
      fun h ↦ absurd h.2.1 (by decide), id, id, hnot⟩
  · simp only [rxReceived, List.length_append, hreceived, List.length_singleton, List.length_nil]
  · simp only [rxReceived, List.length_append, hreceived, List.length_singleton]
  · simp only [rxReceived, List.length_append, hreceived, List.length_singleton]
    omega
  · simp only [rxReceived, List.length_append, hreceived, List.length_singleton]
    decide
  · simp only [rxAdmits, rxReceived, rxReturned, List.length_append, hreceived, hreturned,
      List.length_singleton]
    decide
  · simp only [rxAdmits, rxReceived, List.length_append, hreceived, hreturned,
      List.length_singleton]
    decide

/-- The byte that ends the first turn of the ring is returned, and then one that has been returned
before. -/
theorem rx_reads_stale :
    ¬ ∀ history, always rxAdmits history → rxReturned history <+: rxReceived history := by
  obtain ⟨⟨hadmits, -⟩, hqueued, hreceived, hreturned⟩ := echoRounds_run rxDmaSize
  intro h
  have hstale : rxAdmits (.pop 0 [] :: echoRounds rxDmaSize) := by
    refine ⟨?_, Or.inr ⟨?_, ?_, rfl⟩⟩
    · rw [rxReceived, List.append_nil, hreceived, hreturned]
      decide
    · rw [hreceived]
      rfl
    · rw [hreceived]
      decide
  exact hqueued.not_begins hstale ⟨rfl, rfl, hreturned.trans hreceived.symm⟩ (h _ ⟨hstale, hadmits⟩)

/-! ### A counter that is reloaded at once -/

/-- A call does not sample a zero if nothing has been stored since the call before it sampled. -/
def reloadedAtOnce : Past RxEvent
  | .pop ndtr _ :: .pop _ [] :: _ => ndtr ≠ 0
  | _ => True

/-- Assumes: what the line and the counter keep to, and a queue. A byte stored since the call before
is unread, so that a zero does no harm. -/
theorem not_readsAhead_of_atOnce {event : RxEvent} {past : List RxEvent}
    (hadmits : always rxAdmits (event :: past))
    (hnot : always (fun history ↦ ¬ readsAhead history) past)
    (hatOnce : reloadedAtOnce (event :: past)) : ¬ readsAhead (event :: past) := by
  cases event with
  | store byte => exact id
  | pop ndtr during =>
    rintro ⟨rfl, rfl, hall⟩
    obtain ⟨⟨-, hcounter⟩, hadmits⟩ := hadmits
    have hturn : (rxReceived past).length % rxDmaSize = 0 ∧ 0 < (rxReceived past).length := by
      rcases hcounter with hsettled | ⟨hturn, hsome, -⟩
      · have hlt : (rxReceived past).length % rxDmaSize < rxDmaSize := Nat.mod_lt _ (by decide)
        omega
      · exact ⟨hturn, hsome⟩
    rcases past with _ | ⟨byte | ⟨ndtr, _ | ⟨byte, during⟩⟩, past⟩
    · exact absurd hturn.2 (lt_irrefl 0)
    · have hle := (rxQueued_run hadmits.2 hnot.2).1.begins.length_le
      change (rxReturned past).length = (rxReceived past ++ [byte]).length at hall
      rw [List.length_append, List.length_singleton] at hall
      omega
    · exact hatOnce rfl
    · -- at most one byte is returned by the call before, so it has to have sampled a zero too early
      obtain ⟨⟨-, hsample⟩, hadmits⟩ := hadmits
      have hle := (rxQueued_run hadmits hnot.2).1.begins.length_le
      have hreceived : (rxReceived (.pop ndtr (byte :: during) :: past)).length =
          (rxReceived past).length + (during.length + 1) := by
        rw [rxReceived, List.length_append, List.length_cons]
      have hreturned : (rxReturned (.pop ndtr (byte :: during) :: past)).length =
          (rxReturned past).length + if (rxReturned past).length % rxDmaSize = rxDmaSize - ndtr
            then 0 else 1 := by
        rw [rxReturned, List.length_append, usart1RxPopSampled, rxRing_tail]
        split_ifs <;> rfl
      rw [hreceived] at hturn
      rw [hreceived, hreturned] at hall
      have hlt : (rxReceived past).length % rxDmaSize < rxDmaSize := Nat.mod_lt _ (by decide)
      split_ifs at hall with hsame
      · omega
      · have hboth : (rxReturned past).length = (rxReceived past).length := by omega
        rcases hsample with hsettled | ⟨hzero, -, -⟩
        · rw [hboth, hsettled] at hsame
          exact hsame (Nat.sub_sub_self hlt.le).symm
        · rw [show rxDmaSize = 256 from rfl] at hzero hturn
          omega

/-- Assumes: what the line and the counter keep to, and the counter is reloaded at once. Then the
ring is a queue. -/
theorem rx_fifo_of_atOnce (history : List RxEvent) (hadmits : always rxAdmits history)
    (hatOnce : always reloadedAtOnce history) :
    always (fun history ↦ rxReturned history <+: rxReceived history) history := by
  refine (rxQueued_run hadmits ?_).2
  induction history with
  | nil => trivial
  | cons event past ih =>
    have hpast := ih hadmits.2 hatOnce.2
    exact ⟨not_readsAhead_of_atOnce hadmits hpast hatOnce.1, hpast⟩

end UsCtrl
