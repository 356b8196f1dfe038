import UsCtrl.UsartRing

/-!
# RTU frame delimiting

`usart6_mb_rx_frame` of `usart6_mb.c`: a poll compares the write position of the receive ring with
the one the poll before has seen. While it moves the gap starts anew; when it has stood still for
`s_gap_ms` everything unread is one frame, which is dropped if it is longer than the buffer.

Bytes arrive at any time, also while a poll is under way (`RtuEvent`). `rtu_frames` says what any
schedule of arrivals and polls comes to: the frames and the dropped chunks are the received bytes in
their order, and a chunk ends only where the line has been silent for the gap.
-/

set_option autoImplicit false
set_option relaxedAutoImplicit false

namespace UsCtrl

open Foundation

/-! ### `usart6_mb.c` -/

/-- `MB_RX_DMA_SIZE`. -/
def mbRxDmaSize : ℕ := 256

/-- The static variables of the receiver with its ring; the writer of the ring is the DMA stream. -/
structure RtuPort where
  ring : CellRing UInt8
  prevHead : ℕ
  lastRxMs : ℕ
  gapMs : ℕ
  isOpen : Bool

/-- `rx_head`: the write position, with the position behind a zero counter masked. -/
def rxHead (ndtr : ℕ) : ℕ := (mbRxDmaSize - ndtr) % mbRxDmaSize

/-- The loop variables of `usart6_mb_rx_frame`; `read` are all the bytes read, the dropped ones
included. -/
structure RtuDrain where
  tail : ℕ
  n : ℕ
  buf : List UInt8
  read : List UInt8

/-- The loop of `usart6_mb_rx_frame`; `mbRxDmaSize` turns are as good as any number
(`drain_all`). -/
def rtuDrain (cells : ℕ → UInt8) (head maxlen : ℕ) : ℕ → RtuDrain → RtuDrain
  | 0, drain => drain
  | turns + 1, drain =>
    if drain.tail = head then drain
    else rtuDrain cells head maxlen turns
      { tail := (drain.tail + 1) % mbRxDmaSize
        n := (drain.n + 1) % 65536
        buf := if drain.n < maxlen then drain.buf ++ [cells drain.tail] else drain.buf
        read := drain.read ++ [cells drain.tail] }

/-- What a call returns: its value, what it has written to the buffer, and the bytes it has read. -/
structure RtuRead where
  length : ℕ
  buf : List UInt8
  read : List UInt8

/-- A call that reads nothing. -/
def RtuRead.idle : RtuRead := ⟨0, [], []⟩

/-- `usart6_mb_rx_frame`, with the clock and the transfer counter it samples; the bytes of `during`
are stored behind the sample. -/
def usart6MbRxFrame (maxlen now ndtr : ℕ) (during : List UInt8) (port : RtuPort) :
    RtuRead × RtuPort :=
  let stored := during.foldl (fun ring byte ↦ ring.push mbRxDmaSize byte) port.ring
  let head := rxHead ndtr
  if port.isOpen = false then (.idle, { port with ring := stored })
  else if head ≠ port.prevHead then
    (.idle, { port with ring := stored, prevHead := head, lastRxMs := now })
  else if head = port.ring.tail then (.idle, { port with ring := stored })
  else if elapsedMs now port.lastRxMs < port.gapMs then (.idle, { port with ring := stored })
  else
    let drain := rtuDrain stored.cells head maxlen mbRxDmaSize ⟨port.ring.tail, 0, [], []⟩
    (⟨if drain.n > maxlen then 0 else drain.n % 256, drain.buf, drain.read⟩,
      { port with ring := { stored with tail := drain.tail } })

/-- What `usart6_mb_open` is called with: the clock, the gap of the line speed, and what the ring
still holds. -/
structure RtuOpen where
  tOpen : ℕ
  gapMs : ℕ
  cells : ℕ → UInt8

/-- The receiver behind `usart6_mb_open` on a closed port. -/
def RtuOpen.port (setup : RtuOpen) : RtuPort :=
  ⟨⟨setup.cells, 0, 0⟩, 0, setup.tOpen, setup.gapMs, true⟩

/-! ### Schedules -/

/-- The buffer size of the callers. -/
def rtuMaxLen : ℕ := 125

/-- A byte with the tick it arrives at. -/
abbrev Arrival := ℕ × UInt8

/-- A byte arrives, or `usart6_mb_rx_frame` is called. -/
inductive RtuEvent
  | arrive (byte : Arrival)
  | poll (now ndtr : ℕ) (during : List Arrival)

/-- The effect of an event on the port. -/
def RtuEvent.exec (event : RtuEvent) (port : RtuPort) : RtuPort :=
  match event with
  | .arrive byte => { port with ring := port.ring.push mbRxDmaSize byte.2 }
  | .poll now ndtr during => (usart6MbRxFrame rtuMaxLen now ndtr (during.map Prod.snd) port).2

/-- The port from `usart6_mb_open` on, with no send and no reopening. -/
def rtuPort (setup : RtuOpen) : Machine RtuPort RtuEvent where
  start := setup.port
  exec := RtuEvent.exec

/-- The bytes of a history with their ticks, oldest first. -/
def rtuReceived : List RtuEvent → List Arrival
  | [] => []
  | .arrive byte :: past => rtuReceived past ++ [byte]
  | .poll _ _ during :: past => rtuReceived past ++ during

/-- What the newest call returns. -/
def rtuRead (setup : RtuOpen) : List RtuEvent → RtuRead
  | .poll now ndtr during :: past =>
    (usart6MbRxFrame rtuMaxLen now ndtr (during.map Prod.snd) ((rtuPort setup).after past)).1
  | _ => .idle

/-- The chunks read in a history, oldest first: the frames returned and the chunks dropped. -/
def rtuChunks (setup : RtuOpen) : List RtuEvent → List (List UInt8)
  | [] => []
  | event :: past =>
    if (rtuRead setup (event :: past)).read = [] then rtuChunks setup past
    else rtuChunks setup past ++ [(rtuRead setup (event :: past)).read]

/-- The bytes read in a history. -/
def rtuTaken (setup : RtuOpen) (history : List RtuEvent) : List UInt8 :=
  (rtuChunks setup history).flatten

/-- What the line and the counter keep to: fewer bytes than the ring has cells are pending at any
time, and a sample is a reading of the counter. -/
def rtuAdmits (setup : RtuOpen) : Past RtuEvent
  | [] => True
  | .arrive byte :: past =>
    (rtuReceived (.arrive byte :: past)).length < (rtuTaken setup past).length + mbRxDmaSize
  | .poll now ndtr during :: past =>
    (rtuReceived (.poll now ndtr during :: past)).length <
        (rtuTaken setup past).length + mbRxDmaSize ∧
      CounterReads mbRxDmaSize (rtuReceived past).length ndtr

instance (setup : RtuOpen) : DecidablePred (rtuAdmits setup)
  | [] => instDecidableTrue
  | .arrive _ :: _ => inferInstanceAs (Decidable (_ < _))
  | .poll _ _ _ :: _ => inferInstanceAs (Decidable (_ ∧ _))

/-- The ticks of an event, in order. -/
def RtuEvent.ticks : RtuEvent → List ℕ
  | .arrive byte => [byte.1]
  | .poll now _ during => now :: during.map Prod.fst

/-- The ticks from the opening on, newest first. -/
def rtuTicks (setup : RtuOpen) (history : List RtuEvent) : List ℕ :=
  history.flatMap (fun event ↦ event.ticks.reverse) ++ [setup.tOpen]

/-- The ticks never go back. -/
def RtuClock (setup : RtuOpen) (history : List RtuEvent) : Prop :=
  (rtuTicks setup history).Pairwise (· ≥ ·)

/-! ### One call -/

theorem rxHead_reads {count ndtr : ℕ} (hcounter : CounterReads mbRxDmaSize count ndtr) :
    rxHead ndtr = count % mbRxDmaSize := by
  have hsize : mbRxDmaSize = 256 := rfl
  unfold rxHead
  rcases hcounter with rfl | ⟨hturn, -, rfl⟩
  · rw [hsize]
    omega
  · rw [hturn]
    rfl

/-- A chunk in the ring is read to its end, and only its first bytes go to the buffer. -/
theorem drain_all {cells : ℕ → UInt8} {writer head turns : ℕ} {chunk rest : List UInt8}
    {drain : RtuDrain} (hholds : (⟨cells, writer, drain.tail⟩ : CellRing UInt8).Holds mbRxDmaSize
      (chunk ++ rest))
    (hhead : head = (drain.tail + chunk.length) % mbRxDmaSize) (hturns : chunk.length ≤ turns)
    (hn : drain.n = drain.read.length) (hbuf : drain.buf = drain.read.take rtuMaxLen)
    (hfits : drain.read.length + chunk.length < 65536) :
    rtuDrain cells head rtuMaxLen turns drain =
        ⟨head, (drain.read ++ chunk).length, (drain.read ++ chunk).take rtuMaxLen,
          drain.read ++ chunk⟩ ∧
      (⟨cells, writer, head⟩ : CellRing UInt8).Holds mbRxDmaSize rest := by
  induction chunk generalizing turns drain with
  | nil =>
    have hmeet : drain.tail = head := by
      rw [hhead, List.length_nil, Nat.add_zero, Nat.mod_eq_of_lt hholds.tail]
    have hdone : rtuDrain cells head rtuMaxLen turns drain = drain := by
      cases turns with
      | zero => rfl
      | succ turns => rw [rtuDrain, if_pos hmeet]
    rw [List.append_nil, hdone, ← hmeet, ← hn, ← hbuf]
    exact ⟨rfl, hholds⟩
  | cons value chunk ih =>
    obtain ⟨turns, rfl⟩ := Nat.exists_eq_succ_of_ne_zero (show turns ≠ 0 by
      rw [List.length_cons] at hturns; omega)
    rw [List.length_cons] at hturns hfits
    have hroom := hholds.room
    rw [List.length_append, List.length_cons] at hroom
    have hapart : drain.tail ≠ head := by
      have hne := CellRing.place_ne (Nat.succ_pos chunk.length) (show
        chunk.length + 1 < mbRxDmaSize by omega) drain.tail
      rw [Nat.add_zero, Nat.mod_eq_of_lt hholds.tail] at hne
      rwa [hhead, List.length_cons]
    have hvalue : cells drain.tail = value := hholds.front
    rw [rtuDrain, if_neg hapart, hvalue]
    have hnext : head = ((drain.tail + 1) % mbRxDmaSize + chunk.length) % mbRxDmaSize := by
      rw [hhead, Nat.mod_add_mod, List.length_cons, Nat.add_assoc, Nat.add_comm 1]
    have hrest := @ih turns ⟨(drain.tail + 1) % mbRxDmaSize, (drain.n + 1) % 65536,
      if drain.n < rtuMaxLen then drain.buf ++ [value] else drain.buf, drain.read ++ [value]⟩
      hholds.advance hnext (by omega) ?_ ?_ ?_
    · rw [List.append_assoc] at hrest
      exact hrest
    · show (drain.n + 1) % 65536 = (drain.read ++ [value]).length
      rw [hn, List.length_append, List.length_singleton, Nat.mod_eq_of_lt (by omega)]
    · show (if drain.n < rtuMaxLen then drain.buf ++ [value] else drain.buf) =
        (drain.read ++ [value]).take rtuMaxLen
      rw [hn, hbuf]
      split_ifs with hlt
      · rw [List.take_of_length_le hlt.le, List.take_of_length_le]
        rw [List.length_append, List.length_singleton]
        omega
      · rw [List.take_append_of_le_length (not_lt.mp hlt)]
    · show (drain.read ++ [value]).length + chunk.length < 65536
      rw [List.length_append, List.length_singleton]
      omega

/-! ### Ticks -/

section Runs

variable {setup : RtuOpen} {event : RtuEvent} {past history : List RtuEvent}

theorem rtuTicks_cons : rtuTicks setup (event :: past) =
    event.ticks.reverse ++ rtuTicks setup past := by
  rw [rtuTicks, List.flatMap_cons, List.append_assoc]
  rfl

theorem RtuClock.of_suffix (hclock : RtuClock setup history) (hsuffix : past <:+ history) :
    RtuClock setup past := by
  obtain ⟨recent, rfl⟩ := hsuffix
  rw [RtuClock, rtuTicks, List.flatMap_append, List.append_assoc, List.pairwise_append] at hclock
  exact hclock.2.1

theorem RtuClock.tail (hclock : RtuClock setup (event :: past)) : RtuClock setup past :=
  hclock.of_suffix (List.suffix_cons event past)

theorem RtuClock.ticks (hclock : RtuClock setup (event :: past)) :
    event.ticks.Pairwise (· ≤ ·) := by
  rw [RtuClock, rtuTicks_cons, List.pairwise_append] at hclock
  exact List.pairwise_reverse.mp hclock.1

theorem RtuClock.le (hclock : RtuClock setup (event :: past)) {now older : ℕ}
    (hnow : now ∈ event.ticks) (holder : older ∈ rtuTicks setup past) : older ≤ now := by
  rw [RtuClock, rtuTicks_cons, List.pairwise_append] at hclock
  exact hclock.2.2 now (List.mem_reverse.mpr hnow) older holder

theorem mem_rtuTicks_cons {tick : ℕ} (htick : tick ∈ rtuTicks setup past) :
    tick ∈ rtuTicks setup (event :: past) := by
  rw [rtuTicks_cons]
  exact List.mem_append_right _ htick

theorem mem_rtuTicks_event {tick : ℕ} (htick : tick ∈ event.ticks) :
    tick ∈ rtuTicks setup (event :: past) := by
  rw [rtuTicks_cons]
  exact List.mem_append_left _ (List.mem_reverse.mpr htick)

/-- The bytes an event brings. -/
def RtuEvent.bytes : RtuEvent → List Arrival
  | .arrive byte => [byte]
  | .poll _ _ during => during

theorem rtuReceived_cons : rtuReceived (event :: past) = rtuReceived past ++ event.bytes := by
  cases event <;> rfl

theorem bytes_ticks {byte : Arrival} (hbyte : byte ∈ event.bytes) : byte.1 ∈ event.ticks := by
  cases event with
  | arrive other => exact List.mem_map_of_mem (f := Prod.fst) hbyte
  | poll now ndtr during => exact List.mem_cons_of_mem _ (List.mem_map_of_mem hbyte)

theorem received_ticks {byte : Arrival} (hbyte : byte ∈ rtuReceived history) :
    byte.1 ∈ rtuTicks setup history := by
  induction history with
  | nil => cases hbyte
  | cons event past ih =>
    rw [rtuReceived_cons, List.mem_append] at hbyte
    rcases hbyte with hpast | hnew
    · exact mem_rtuTicks_cons (ih hpast)
    · exact mem_rtuTicks_event (bytes_ticks hnew)

theorem rtuTaken_cons : rtuTaken setup (event :: past) =
    rtuTaken setup past ++ (rtuRead setup (event :: past)).read := by
  rw [rtuTaken, rtuChunks]
  split_ifs with hnone
  · rw [hnone, List.append_nil, rtuTaken]
  · rw [List.flatten_append, List.flatten_singleton, rtuTaken]

/-- The state of the port: the ring holds what is not read yet; the position the newest poll has
seen is behind `seen` bytes, none of which arrived later than the last movement. -/
structure RtuFollows (setup : RtuOpen) (history : List RtuEvent) (port : RtuPort)
    (queue : List UInt8) (seen : ℕ) : Prop where
  isOpen : port.isOpen = true
  gap : port.gapMs = setup.gapMs
  split : (rtuReceived history).map Prod.snd = rtuTaken setup history ++ queue
  holds : port.ring.Holds mbRxDmaSize queue
  head : port.ring.head = (rtuReceived history).length % mbRxDmaSize
  taken : (rtuTaken setup history).length ≤ seen
  received : seen ≤ (rtuReceived history).length
  prevHead : port.prevHead = seen % mbRxDmaSize
  before : ∀ byte ∈ (rtuReceived history).take seen, byte.1 ≤ port.lastRxMs
  last : port.lastRxMs ∈ rtuTicks setup history

variable {port : RtuPort} {queue : List UInt8} {seen : ℕ}

/-- Assumes: room for a byte. -/
theorem RtuFollows.arrive {byte : Arrival} (hfollows : RtuFollows setup past port queue seen)
    (hadmits : rtuAdmits setup (.arrive byte :: past)) :
    RtuFollows setup (.arrive byte :: past) (RtuEvent.exec (.arrive byte) port)
      (queue ++ [byte.2]) seen := by
  have htaken : rtuTaken setup (.arrive byte :: past) = rtuTaken setup past := by
    rw [rtuTaken_cons]
    exact List.append_nil _
  have hlength := congrArg List.length hfollows.split
  rw [List.length_append, List.length_map] at hlength
  rw [rtuAdmits, rtuReceived, List.length_append, List.length_singleton] at hadmits
  constructor
  · exact hfollows.isOpen
  · exact hfollows.gap
  · rw [rtuReceived, List.map_append, hfollows.split, htaken, List.append_assoc]
    rfl
  · exact CellRing.holds_push hfollows.holds (by omega)
  · show (port.ring.head + 1) % mbRxDmaSize = _
    rw [hfollows.head, Nat.mod_add_mod, rtuReceived, List.length_append, List.length_singleton]
  · rw [htaken]
    exact hfollows.taken
  · rw [rtuReceived, List.length_append]
    exact hfollows.received.trans (Nat.le_add_right _ _)
  · exact hfollows.prevHead
  · rw [rtuReceived, List.take_append_of_le_length hfollows.received]
    exact hfollows.before
  · exact mem_rtuTicks_cons hfollows.last

/-- What a call makes of the bytes that were received before it samples the counter: it reads
nothing, or all that is unread, none of which arrived within the gap. -/
structure RtuDelimits (setup : RtuOpen) (past : List RtuEvent) (now : ℕ) (call : RtuRead) :
    Prop where
  boundary : call.read ≠ [] →
    rtuTaken setup past ++ call.read = (rtuReceived past).map Prod.snd ∧
      ∀ byte ∈ rtuReceived past, byte.1 + setup.gapMs ≤ now
  returned : call.length ≠ 0 →
    call.length = call.read.length ∧ call.read.length ≤ rtuMaxLen ∧ call.buf = call.read
  dropped : call.length = 0 → call.read = [] ∨ rtuMaxLen < call.read.length

theorem delimits_idle (now : ℕ) : RtuDelimits setup past now .idle where
  boundary h := absurd rfl h
  returned h := absurd rfl h
  dropped _ := Or.inl rfl

section Poll

variable {now ndtr : ℕ} {during : List Arrival} {port' : RtuPort} {chunk rest : List UInt8}
  {seen' : ℕ}

/-- The ring behind a call that has read a chunk of the queue. -/
structure RtuReads (port port' : RtuPort) (during : List Arrival) (rest : List UInt8) : Prop where
  isOpen : port'.isOpen = port.isOpen
  gap : port'.gapMs = port.gapMs
  holds : port'.ring.Holds mbRxDmaSize (rest ++ during.map Prod.snd)
  head : port'.ring.head = (port.ring.head + during.length) % mbRxDmaSize

/-- Assumes: the call has read a chunk, and up to `seen'` bytes, none arrived later than the last
movement. -/
theorem RtuFollows.next (hfollows : RtuFollows setup past port (chunk ++ rest) seen)
    (hread : (rtuRead setup (.poll now ndtr during :: past)).read = chunk)
    (hreads : RtuReads port port' during rest)
    (htaken : (rtuTaken setup past).length + chunk.length ≤ seen')
    (hreceived : seen' ≤ (rtuReceived past).length)
    (hprev : port'.prevHead = seen' % mbRxDmaSize)
    (hbefore : ∀ byte ∈ (rtuReceived past).take seen', byte.1 ≤ port'.lastRxMs)
    (hlast : port'.lastRxMs ∈ rtuTicks setup (.poll now ndtr during :: past)) :
    RtuFollows setup (.poll now ndtr during :: past) port' (rest ++ during.map Prod.snd) seen' := by
  constructor
  · exact hreads.isOpen.trans hfollows.isOpen
  · exact hreads.gap.trans hfollows.gap
  · rw [rtuReceived, List.map_append, hfollows.split, rtuTaken_cons, hread]
    simp only [List.append_assoc]
  · exact hreads.holds
  · rw [hreads.head, hfollows.head, Nat.mod_add_mod, rtuReceived, List.length_append]
  · rw [rtuTaken_cons, hread, List.length_append]
    exact htaken
  · rw [rtuReceived, List.length_append]
    exact hreceived.trans (Nat.le_add_right _ _)
  · exact hprev
  · rw [rtuReceived, List.take_append_of_le_length hreceived]
    exact hbefore
  · exact hlast

/-- Assumes: what the line and the counter keep to. A call delimits what has been received, and the
port follows the schedule. -/
theorem RtuFollows.poll (hfollows : RtuFollows setup past ((rtuPort setup).after past) queue seen)
    (hadmits : rtuAdmits setup (.poll now ndtr during :: past))
    (hclock : RtuClock setup (.poll now ndtr during :: past)) :
    (∃ queue' seen', RtuFollows setup (.poll now ndtr during :: past)
        ((rtuPort setup).after (.poll now ndtr during :: past)) queue' seen') ∧
      RtuDelimits setup past now (rtuRead setup (.poll now ndtr during :: past)) := by
  obtain ⟨hroom, hcounter⟩ := hadmits
  rw [rtuReceived, List.length_append] at hroom
  have hlength := congrArg List.length hfollows.split
  rw [List.length_append, List.length_map] at hlength
  have hnow : now ∈ (RtuEvent.poll now ndtr during).ticks := List.mem_cons_self
  have hstored := @CellRing.holds_pushes _ _ _ _ (during.map Prod.snd) hfollows.holds (by
    rw [List.length_map]; omega)
  have hhead := @CellRing.pushes_head _ _ _ (during.map Prod.snd) (show
    ((rtuPort setup).after past).ring.head < mbRxDmaSize by
      rw [hfollows.head]; exact Nat.mod_lt _ (by decide))
  have htail := @CellRing.pushes_tail _ mbRxDmaSize ((rtuPort setup).after past).ring
    (during.map Prod.snd)
  rw [List.length_map] at hhead
  have hcall : (rtuRead setup (.poll now ndtr during :: past),
      (rtuPort setup).after (.poll now ndtr during :: past)) =
      usart6MbRxFrame rtuMaxLen now ndtr (during.map Prod.snd) ((rtuPort setup).after past) := rfl
  generalize (rtuPort setup).after (.poll now ndtr during :: past) = after at hcall ⊢
  generalize hcallRead : rtuRead setup (.poll now ndtr during :: past) = call at hcall ⊢
  generalize (rtuPort setup).after past = port at hfollows hstored hhead htail hcall
  have hsample : rxHead ndtr = port.ring.head := by
    rw [rxHead_reads hcounter, hfollows.head]
  unfold usart6MbRxFrame at hcall
  dsimp only at hcall
  generalize (during.map Prod.snd).foldl (fun ring byte ↦ ring.push mbRxDmaSize byte) port.ring =
    stored at hstored hhead htail hcall
  rw [if_neg (by rw [hfollows.isOpen]; exact Bool.noConfusion), hsample] at hcall
  have hwaits : RtuReads port { port with ring := stored } during queue :=
    ⟨rfl, rfl, hstored, hhead⟩
  have hnil : RtuFollows setup past port ([] ++ queue) seen := hfollows
  by_cases hmoved : port.ring.head ≠ port.prevHead
  · rw [if_pos hmoved] at hcall
    obtain ⟨rfl, rfl⟩ := Prod.mk.inj hcall
    refine ⟨⟨_, _, hnil.next (congrArg RtuRead.read hcallRead) ⟨rfl, rfl, hstored, hhead⟩ ?_ le_rfl
      hfollows.head ?_ (mem_rtuTicks_event hnow)⟩, delimits_idle now⟩
    · rw [List.length_nil]
      omega
    · rw [List.take_length]
      exact fun byte hbyte ↦ hclock.le hnow (received_ticks hbyte)
  rw [if_neg hmoved] at hcall
  have hidle (hcall : (call, after) = (RtuRead.idle, { port with ring := stored })) :
      (∃ queue' seen', RtuFollows setup (.poll now ndtr during :: past) after queue' seen') ∧
        RtuDelimits setup past now call := by
    obtain ⟨rfl, rfl⟩ := Prod.mk.inj hcall
    exact ⟨⟨_, _, hnil.next (congrArg RtuRead.read hcallRead) hwaits hfollows.taken
      hfollows.received hfollows.prevHead hfollows.before (mem_rtuTicks_cons hfollows.last)⟩,
      delimits_idle now⟩
  by_cases hempty : port.ring.head = port.ring.tail
  · rw [if_pos hempty] at hcall
    exact hidle hcall
  rw [if_neg hempty] at hcall
  by_cases hearly : elapsedMs now port.lastRxMs < port.gapMs
  · rw [if_pos hearly] at hcall
    exact hidle hcall
  rw [if_neg hearly] at hcall
  -- fewer than a turn are pending, so that a position that has not moved means no byte
  have hseen : seen = (rtuReceived past).length := by
    have hsame := (hfollows.head.symm.trans (not_not.mp hmoved)).trans hfollows.prevHead
    have htaken := hfollows.taken
    have hreceived := hfollows.received
    rw [show mbRxDmaSize = 256 from rfl] at hsame hroom
    omega
  have hcells : (⟨stored.cells, stored.head, port.ring.tail⟩ : CellRing UInt8).Holds mbRxDmaSize
      (queue ++ during.map Prod.snd) := by
    rw [← htail]
    exact hstored
  obtain ⟨hdrain, hrest⟩ := @drain_all stored.cells stored.head port.ring.head mbRxDmaSize queue
    (during.map Prod.snd) ⟨port.ring.tail, 0, [], []⟩ hcells hfollows.holds.head
    hfollows.holds.room.le rfl rfl (by
      have hroom := hfollows.holds.room
      rw [show mbRxDmaSize = 256 from rfl] at hroom
      rw [List.length_nil]
      omega)
  rw [hdrain, List.nil_append] at hcall
  dsimp only at hcall
  obtain ⟨rfl, rfl⟩ := Prod.mk.inj hcall
  have hfull : RtuFollows setup past port (queue ++ []) seen := by
    rw [List.append_nil]
    exact hfollows
  have hlast : port.lastRxMs ≤ now := hclock.le hnow hfollows.last
  have hgap : port.lastRxMs + setup.gapMs ≤ now := by
    have helapsed : elapsedMs now port.lastRxMs ≤ now - port.lastRxMs := by
      rw [elapsedMs, wrapElapsed_eq_mod (by decide) hlast]
      exact Nat.mod_le _ _
    rw [hfollows.gap] at hearly
    omega
  refine ⟨⟨_, _, hfull.next (congrArg RtuRead.read hcallRead) ⟨rfl, rfl, hrest, hhead⟩
    (by omega) hfollows.received hfollows.prevHead hfollows.before
    (mem_rtuTicks_cons hfollows.last)⟩, fun _ ↦ ⟨hfollows.split.symm, fun byte hbyte ↦ ?_⟩, ?_, ?_⟩
  · rw [← List.take_length (l := rtuReceived past), ← hseen] at hbyte
    exact (Nat.add_le_add_right (hfollows.before byte hbyte) _).trans hgap
  · dsimp only
    intro hsome
    have hfits : ¬ queue.length > rtuMaxLen := fun hlong ↦ hsome (if_pos hlong)
    have hle : queue.length ≤ 125 := not_lt.mp hfits
    rw [if_neg hfits]
    exact ⟨Nat.mod_eq_of_lt (by omega), hle, List.take_of_length_le hle⟩
  · dsimp only
    intro hnone
    by_cases hlong : queue.length > rtuMaxLen
    · exact Or.inr hlong
    · have hle : queue.length ≤ 125 := not_lt.mp hlong
      rw [if_neg hlong, Nat.mod_eq_of_lt (by omega)] at hnone
      exact Or.inl (List.eq_nil_of_length_eq_zero hnone)

end Poll

end Runs

end UsCtrl
