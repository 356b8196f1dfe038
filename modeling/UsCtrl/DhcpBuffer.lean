import UsCtrl.DhcpRuns

/-!
# The message buffer of the DHCP client

`dhcp.c` has one buffer for all messages, `pDHCPMSG`: `recvfrom` stores a datagram at its start
before anything is checked, and whatever is sent is made up in it. Behind a datagram stands what is
left of earlier ones, and the walk over the options may go on to read it.

`DhcpHost` is the client with its buffer; a run of it is a run of the client (`host_client`).
`others_unheard` says when datagrams that are not meant for the client leave no trace: if no
datagram that it accepts ends inside an option. `reply_inside` says that a reply with well-formed
options does not.
-/

set_option autoImplicit false
set_option relaxedAutoImplicit false

namespace UsCtrl

open Foundation

/-! ### The client with its buffer -/

/-- A datagram as it is received, into the 1024 bytes of `s_dhcp_buf`. -/
structure UdpDatagram where
  svrAddr : Octets
  svrPort : ℕ
  bytes : List UInt8
  fits : bytes.length ≤ 1024

/-- Bytes stored at the start of the buffer. -/
def storeMsg (bytes : List UInt8) (msg : ℕ → UInt8) (pos : ℕ) : UInt8 := bytes.getD pos (msg pos)

/-- The datagram behind its reception. -/
def UdpDatagram.received (rx : UdpDatagram) (msg : ℕ → UInt8) : DhcpDatagram :=
  ⟨rx.svrAddr, rx.svrPort, rx.bytes.length, storeMsg rx.bytes msg⟩

structure DhcpHost where
  client : DhcpClient
  msg : ℕ → UInt8

/-- The calls of the client, with the datagrams as they are received. -/
inductive HostCall
  | init (shar : Mac)
  | stop
  | second
  | run (rx : Option UdpDatagram) (arpAnswered : Bool) (seconds : ℕ → ℕ) (fuel : ℕ)

/-- The call as the client sees it. -/
def HostCall.seen (call : HostCall) (msg : ℕ → UInt8) : DhcpCall :=
  match call with
  | .init shar => .init shar
  | .stop => .stop
  | .second => .second
  | .run rx arpAnswered seconds fuel =>
    .run ⟨rx.map fun rx ↦ rx.received msg, arpAnswered, seconds⟩ fuel

/-- What a call of `DHCP_run` returns, calls back and sends. -/
def HostCall.ran (call : HostCall) (host : DhcpHost) : Option DhcpRan :=
  match call with
  | .run rx arpAnswered seconds fuel =>
    dhcpRun ⟨rx.map fun rx ↦ rx.received host.msg, arpAnswered, seconds⟩ fuel host.client
  | _ => none

/-- The buffer behind a call of `DHCP_run`: a stopped client receives nothing, any other stores the
datagram and then makes up its messages. -/
def DhcpHost.msgAfter (host : DhcpHost) (rx : Option UdpDatagram) (sent : List DhcpMessage) :
    ℕ → UInt8 :=
  if host.client.state = .stop then host.msg
  else sent.foldl (fun msg message ↦ storeMsg message.bytes msg)
    (rx.elim host.msg fun rx ↦ storeMsg rx.bytes host.msg)

def HostCall.exec (call : HostCall) (host : DhcpHost) : Option DhcpHost :=
  match call with
  | .init shar => some { host with client := dhcpInit shar host.client }
  | .stop => some { host with client := dhcpStop host.client }
  | .second => some { host with client := dhcpTimeHandler host.client }
  | .run rx _ _ _ => (call.ran host).map fun ran ↦ ⟨ran.client, host.msgAfter rx ran.sent⟩

/-- The client from power-up on, with a buffer of zeros, as long as its calls return. -/
def dhcpHost : Machine (Option DhcpHost) HostCall where
  start := some ⟨dhcpReset, fun _ ↦ 0⟩
  exec call before := before.bind call.exec

theorem exec_seen (call : HostCall) (host : DhcpHost) :
    (call.exec host).map DhcpHost.client = (call.seen host.msg).exec (some host.client) := by
  cases call with
  | run rx arpAnswered seconds fuel => exact Option.map_map _ _ _
  | _ => rfl

/-- A run of the client with its buffer is a run of the client. -/
theorem host_client (history : List HostCall) : ∃ calls : List DhcpCall,
    calls.length = history.length ∧
      dhcpMachine.after calls = (dhcpHost.after history).map DhcpHost.client := by
  induction history with
  | nil => exact ⟨[], rfl, rfl⟩
  | cons call past ih =>
    obtain ⟨calls, hlength, hafter⟩ := ih
    cases hbefore : dhcpHost.after past with
    | none =>
      refine ⟨call.seen (fun _ ↦ 0) :: calls, congrArg (· + 1) hlength, ?_⟩
      rw [Machine.after_cons, Machine.after_cons, hafter, hbefore]
      cases call <;> rfl
    | some host =>
      refine ⟨call.seen host.msg :: calls, congrArg (· + 1) hlength, ?_⟩
      rw [Machine.after_cons, Machine.after_cons, hafter, hbefore]
      exact (exec_seen call host).symm

/-! ### Reading behind the end -/

/-- How many bytes the walk reads at an option, its tag among them. -/
def optionReach (tag : ℕ) : ℕ :=
  match tag with
  | 255 | 0 => 1
  | 53 => 3
  | 1 | 3 | 6 | 51 | 54 => 6
  | _ => 2

/-- The walk reads no byte behind the end of the datagram. -/
def WalkInside (rx : DhcpDatagram) : ℕ → ℕ → DhcpParse → Prop
  | 0, _, _ => True
  | fuel + 1, pos, read => pos < rx.length →
    pos + optionReach (rx.buf pos).toNat ≤ rx.length ∧
      WalkInside rx fuel (dhcpOption rx pos read).1 (dhcpOption rx pos read).2

/-- If the client accepts the datagram, its walk does not leave it. -/
structure DhcpDatagram.Whole (rx : DhcpDatagram) (c : DhcpClient) : Prop where
  inside : rx.accepted c = true → WalkInside rx rx.length dhcpOptStart ⟨c.known, 0⟩

/-- Two receptions of one datagram. -/
structure SameDatagram (rx rx' : DhcpDatagram) : Prop where
  addr : rx'.svrAddr = rx.svrAddr
  port : rx'.svrPort = rx.svrPort
  length : rx'.length = rx.length
  buf : ∀ pos < rx.length, rx'.buf pos = rx.buf pos

theorem received_same (rx : UdpDatagram) (msg msg' : ℕ → UInt8) :
    SameDatagram (rx.received msg) (rx.received msg') := by
  refine ⟨rfl, rfl, rfl, fun pos hpos ↦ ?_⟩
  show rx.bytes.getD pos _ = rx.bytes.getD pos _
  have hpos : pos < rx.bytes.length := hpos
  rw [List.getD_eq_getElem _ _ hpos, List.getD_eq_getElem _ _ hpos]

/-- A well-formed item reaches as far as it is read. -/
theorem item_reach {rx : DhcpDatagram} {pos : ℕ} {item : DhcpItem}
    (hcarries : Carries rx pos item.bytes) (hwell : item.WellFormed) :
    optionReach (rx.buf pos).toNat ≤ item.bytes.length := by
  cases item with
  | pad =>
    have htag : rx.buf pos = 0 := hcarries 0 Nat.one_pos
    rw [htag]
    exact le_rfl
  | opt option =>
    have htag : rx.buf pos = option.tag := hcarries 0 (Nat.succ_pos _)
    have hlength : (DhcpItem.opt option).bytes.length = 2 + option.value.length := by
      simp only [DhcpItem.bytes, DhcpOpt.bytes, List.length_cons]
      omega
    rw [htag, hlength]
    unfold optionReach
    split <;> rename_i hnumber
    · exact absurd hnumber hwell.tagged.2
    · exact absurd hnumber hwell.tagged.1
    · rw [hwell.type hnumber]
    · rw [hwell.address (Or.inl hnumber)]
    · exact Nat.add_le_add_left (hwell.addresses (Or.inl hnumber)) 2
    · exact Nat.add_le_add_left (hwell.addresses (Or.inr hnumber)) 2
    · rw [hwell.address (Or.inr (Or.inl hnumber))]
    · rw [hwell.address (Or.inr (Or.inr hnumber))]
    · exact Nat.le_add_right 2 _

section Same

variable {rx rx' : DhcpDatagram}

theorem SameDatagram.option (hsame : SameDatagram rx rx') {pos : ℕ} (hinside : pos < rx.length)
    (hreach : pos + optionReach (rx.buf pos).toNat ≤ rx.length) (read : DhcpParse) :
    dhcpOption rx' pos read = dhcpOption rx pos read := by
  have hoctets (htag : optionReach (rx.buf pos).toNat = 6) :
      rx'.octetsAt (pos + 2) = rx.octetsAt (pos + 2) := by
    rw [htag] at hreach
    rw [DhcpDatagram.octetsAt, DhcpDatagram.octetsAt, hsame.buf _ (by omega),
      hsame.buf _ (by omega), hsame.buf _ (by omega), hsame.buf _ (by omega)]
  have hsize (htag : 2 ≤ optionReach (rx.buf pos).toNat) :
      rx'.buf (pos + 1) = rx.buf (pos + 1) := hsame.buf _ (by omega)
  unfold dhcpOption
  rw [hsame.buf pos hinside]
  dsimp only
  split <;> rename_i hnumber
  · rw [hsame.length]
  · rfl
  · have htype : rx'.buf (pos + 2) = rx.buf (pos + 2) := hsame.buf _ (by
      rw [hnumber] at hreach
      exact Nat.lt_of_lt_of_le (Nat.lt_succ_self _) hreach)
    rw [htype]
  · rw [hoctets (by rw [hnumber]; rfl)]
  · rw [hoctets (by rw [hnumber]; rfl), hsize (by rw [hnumber]; decide)]
  · rw [hoctets (by rw [hnumber]; rfl), hsize (by rw [hnumber]; decide)]
  · rw [hoctets (by rw [hnumber]; rfl)]
  · rw [hoctets (by rw [hnumber]; rfl), hsame.addr]
  · rw [hsize (by unfold optionReach; split <;> first | contradiction | omega)]

/-- Where the walk stays inside the datagram, what stands behind it does not matter. -/
theorem SameDatagram.walk (hsame : SameDatagram rx rx') {fuel pos : ℕ} {read : DhcpParse}
    (hinside : WalkInside rx fuel pos read) :
    dhcpWalk rx' fuel pos read = dhcpWalk rx fuel pos read := by
  induction fuel generalizing pos read with
  | zero => rfl
  | succ fuel ih =>
    rw [dhcpWalk, dhcpWalk, hsame.length]
    split_ifs with hpos
    · obtain ⟨hreach, hrest⟩ := hinside hpos
      rw [hsame.option hpos hreach]
      exact ih hrest
    · rfl

/-- A datagram that is no longer than header and cookie says nothing. -/
theorem short_unread (hshort : rx.length ≤ dhcpOptStart) (c : DhcpClient) :
    parseDhcpMsg (some rx) c = ⟨c.known, 0⟩ := by
  unfold parseDhcpMsg
  dsimp only
  rw [dhcpWalk_end (Or.inr hshort), ite_self]

/-- A datagram is read alike in both receptions. -/
structure ReadAlike (rx rx' : Option DhcpDatagram) (c : DhcpClient) : Prop where
  parse : parseDhcpMsg rx' c = parseDhcpMsg rx c
  yiaddr : (parseDhcpMsg rx c).type = 2 →
    rx'.map DhcpDatagram.yiaddr = rx.map DhcpDatagram.yiaddr

/-- A datagram that the walk does not leave is read alike. -/
theorem SameDatagram.read (hsame : SameDatagram rx rx') {c : DhcpClient} (hwhole : rx.Whole c) :
    ReadAlike (some rx) (some rx') c := by
  have hstart : dhcpOptStart = 240 := rfl
  rcases Nat.lt_or_ge dhcpOptStart rx.length with hlong | hshort
  · have hmac (i : Fin 6) : rx'.buf (28 + i) = rx.buf (28 + i) :=
      hsame.buf _ (by have hlt := i.isLt; omega)
    have haccepted : rx'.accepted c = rx.accepted c := by
      simp only [DhcpDatagram.accepted, hsame.port, hsame.addr, hmac]
    refine ⟨?_, fun _ ↦ congrArg some ?_⟩
    · unfold parseDhcpMsg
      dsimp only
      rw [haccepted, hsame.length]
      split_ifs with hheard
      · exact hsame.walk (hwhole.inside hheard)
      · rfl
    · rw [DhcpDatagram.yiaddr, DhcpDatagram.yiaddr, DhcpDatagram.octetsAt, DhcpDatagram.octetsAt,
        hsame.buf _ (by omega), hsame.buf _ (by omega), hsame.buf _ (by omega),
        hsame.buf _ (by omega)]
  · have hnone := short_unread hshort c
    refine ⟨?_, fun htype ↦ ?_⟩
    · rw [hnone, short_unread (hsame.length.trans_le hshort)]
    · rw [hnone] at htype
      cases htype

end Same

/-- The walk stays inside well-formed items, and stops at the end option or the end of the datagram
behind them. -/
theorem items_inside {rx : DhcpDatagram} {items : List DhcpItem} {pos : ℕ}
    (hcarries : Carries rx pos (items.flatMap DhcpItem.bytes))
    (hwell : ∀ item ∈ items, item.WellFormed)
    (hinside : pos + (items.flatMap DhcpItem.bytes).length ≤ rx.length)
    (hend : rx.buf (pos + (items.flatMap DhcpItem.bytes).length) = 255 ∨
      rx.length ≤ pos + (items.flatMap DhcpItem.bytes).length)
    (fuel : ℕ) (read : DhcpParse) : WalkInside rx fuel pos read := by
  induction items generalizing pos fuel read with
  | nil =>
    cases fuel with
    | zero => trivial
    | succ fuel =>
      intro hpos
      have htag : rx.buf pos = 255 := hend.resolve_right (by simpa using hpos)
      have hnext : dhcpOption rx pos read = (rx.length, read) := by
        rw [dhcpOption, htag]
        rfl
      rw [htag, hnext]
      refine ⟨hpos, ?_⟩
      cases fuel with
      | zero => trivial
      | succ fuel => exact fun h ↦ absurd h (Nat.lt_irrefl _)
  | cons item items ih =>
    cases fuel with
    | zero => trivial
    | succ fuel =>
      intro hpos
      rw [List.flatMap_cons] at hcarries hinside hend
      rw [List.length_append, ← Nat.add_assoc] at hinside hend
      have hitem := hwell item List.mem_cons_self
      rw [dhcpItem_tells hcarries.left hitem]
      refine ⟨?_, ih hcarries.right (fun other hother ↦
        hwell other (List.mem_cons_of_mem item hother)) hinside hend fuel _⟩
      have hreach := item_reach hcarries.left hitem
      omega

/-- Assumes: well-formed options and padding behind the header, up to an end option or the end of
the datagram. Then the walk does not leave it. -/
theorem reply_inside {rx : DhcpDatagram} {items : List DhcpItem}
    (hwell : ∀ item ∈ items, item.WellFormed)
    (hcarries : Carries rx dhcpOptStart (items.flatMap DhcpItem.bytes))
    (hinside : dhcpOptStart + (items.flatMap DhcpItem.bytes).length ≤ rx.length)
    (hend : rx.buf (dhcpOptStart + (items.flatMap DhcpItem.bytes).length) = 255 ∨
      rx.length = dhcpOptStart + (items.flatMap DhcpItem.bytes).length) (read : DhcpParse) :
    WalkInside rx rx.length dhcpOptStart read :=
  items_inside hcarries hwell hinside (hend.imp_right fun h ↦ h.le) rx.length read

/-! ### Other servers -/

/-- What `DHCP_run` does depends on the datagram only by what is read of it. -/
theorem dhcpRun_alike {rx rx' : Option DhcpDatagram} {c : DhcpClient} (halike : ReadAlike rx rx' c)
    (arpAnswered : Bool) (seconds : ℕ → ℕ) (fuel : ℕ) :
    dhcpRun ⟨rx', arpAnswered, seconds⟩ fuel c = dhcpRun ⟨rx, arpAnswered, seconds⟩ fuel c := by
  unfold dhcpRun
  by_cases hstop : c.state = .stop
  · rw [if_pos hstop, if_pos hstop]
  · rw [if_neg hstop, if_neg hstop]
    dsimp only
    rw [halike.parse]
    unfold dhcpSwitch
    split
    next => rfl
    next =>
      by_cases htype : (parseDhcpMsg rx c).type = 2
      · rw [if_pos htype, if_pos htype]
        dsimp only
        rw [halike.yiaddr htype]
      · rw [if_neg htype, if_neg htype]
    next => rfl
    next => rfl
    next => rfl
    next => rfl
    next => rfl

/-- The call without a datagram that the client does not accept. -/
def HostCall.filtered (host : DhcpHost) : HostCall → HostCall
  | .run rx arpAnswered seconds fuel =>
    .run (rx.filter fun rx ↦ (rx.received host.msg).accepted host.client) arpAnswered seconds fuel
  | call => call

/-- The datagram of the call is whole. -/
def HostCall.Whole (call : HostCall) (host : DhcpHost) : Prop :=
  match call with
  | .run (some rx) _ _ _ => (rx.received host.msg).Whole host.client
  | _ => True

/-- Two hosts with the same client do the same, one of them without a datagram that the other does
not accept. -/
theorem filtered_alike {call : HostCall} {host other : DhcpHost}
    (hclient : other.client = host.client) (hwhole : call.Whole host) :
    (call.filtered host).ran other = call.ran host ∧
      ((call.filtered host).exec other).map DhcpHost.client =
        (call.exec host).map DhcpHost.client := by
  cases call with
  | run rx arpAnswered seconds fuel =>
    have hran : ((HostCall.run rx arpAnswered seconds fuel).filtered host).ran other =
        (HostCall.run rx arpAnswered seconds fuel).ran host := by
      show dhcpRun _ fuel other.client = dhcpRun _ fuel host.client
      rw [hclient]
      refine dhcpRun_alike ?_ arpAnswered seconds fuel
      cases rx with
      | none => exact ⟨rfl, fun _ ↦ rfl⟩
      | some rx =>
        rw [Option.filter_some]
        split_ifs with haccepted
        · exact (received_same rx host.msg other.msg).read hwhole
        · have hdeaf : parseDhcpMsg (some (rx.received host.msg)) host.client =
              ⟨host.client.known, 0⟩ := if_neg haccepted
          refine ⟨hdeaf.symm, fun htype ↦ ?_⟩
          rw [Option.map_some, hdeaf] at htype
          cases htype
    refine ⟨hran, ?_⟩
    show (Option.map _ (HostCall.ran _ other)).map _ = (Option.map _ (HostCall.ran _ host)).map _
    rw [Option.map_map, Option.map_map, hran]
    rfl
  | init shar | stop | second =>
    refine ⟨rfl, ?_⟩
    show some _ = some _
    rw [hclient]

/-- A run without the datagrams that were not accepted. -/
def acceptedOnly : List HostCall → List HostCall
  | [] => []
  | call :: past =>
    ((dhcpHost.after past).elim call fun host ↦ call.filtered host) :: acceptedOnly past

/-- What the calls of a run have returned, called back and sent, newest first. -/
def hostRan : List HostCall → List DhcpRan
  | [] => []
  | call :: past => ((dhcpHost.after past).bind call.ran).toList ++ hostRan past

/-- The datagram of the newest call is whole. -/
def wholeNow : Past HostCall
  | [] => True
  | call :: past => ∀ host, dhcpHost.after past = some host → call.Whole host

/-- Assumes: no datagram that the client accepts makes its walk read behind the end. Then datagrams
from another port, for another host, or from another server than the one that has identified itself
leave no trace: without them the client is in the same state, and has returned, called back and sent
the same. -/
theorem others_unheard {history : List HostCall} (hwhole : always wholeNow history) :
    (dhcpHost.after (acceptedOnly history)).map DhcpHost.client =
        (dhcpHost.after history).map DhcpHost.client ∧
      hostRan (acceptedOnly history) = hostRan history := by
  induction history with
  | nil => exact ⟨rfl, rfl⟩
  | cons call past ih =>
    obtain ⟨hclient, hran⟩ := ih hwhole.2
    rw [acceptedOnly, Machine.after_cons, Machine.after_cons, hostRan, hostRan, hran]
    cases hbefore : dhcpHost.after past with
    | none =>
      rw [hbefore, Option.map_none, Option.map_eq_none_iff] at hclient
      rw [hclient]
      exact ⟨rfl, rfl⟩
    | some host =>
      rw [hbefore] at hclient
      obtain ⟨other, hother, hsame⟩ := Option.map_eq_some_iff.mp hclient
      obtain ⟨hrun, hexec⟩ := filtered_alike hsame (hwhole.1 host hbefore)
      rw [hother]
      refine ⟨hexec, ?_⟩
      show (HostCall.ran (call.filtered host) other).toList ++ _ = (call.ran host).toList ++ _
      rw [hrun]

/-- A run is whole if each of its calls is, whatever stands in the buffer. -/
theorem whole_along {history : List HostCall}
    (hwhole : ∀ call ∈ history, ∀ host, call.Whole host) : always wholeNow history := by
  induction history with
  | nil => trivial
  | cons call past ih =>
    rw [List.forall_mem_cons] at hwhole
    exact ⟨fun host _ ↦ hwhole.1 host, ih hwhole.2⟩

/-- A datagram of a server: header and cookie, items, and the end option. -/
def serverReply (svrAddr : Octets) (header : List UInt8) (items : List DhcpItem)
    (hfits : (header ++ items.flatMap DhcpItem.bytes ++ [255]).length ≤ 1024) : UdpDatagram :=
  ⟨svrAddr, dhcpServerPort, header ++ items.flatMap DhcpItem.bytes ++ [255], hfits⟩

/-- A datagram of a server with well-formed items is whole, whatever stands in the buffer. -/
theorem serverReply_inside {svrAddr : Octets} {header : List UInt8} {items : List DhcpItem}
    (hheader : header.length = dhcpOptStart) (hwell : ∀ item ∈ items, item.WellFormed)
    (hfits : (header ++ items.flatMap DhcpItem.bytes ++ [255]).length ≤ 1024)
    (msg : ℕ → UInt8) (read : DhcpParse) :
    WalkInside ((serverReply svrAddr header items hfits).received msg)
      (serverReply svrAddr header items hfits).bytes.length dhcpOptStart read := by
  have hlength : (serverReply svrAddr header items hfits).bytes.length =
      dhcpOptStart + (items.flatMap DhcpItem.bytes).length + 1 := by
    rw [← hheader]
    simp only [serverReply, List.length_append, List.length_cons, List.length_nil]
  refine reply_inside hwell (fun index hindex ↦ ?_) ((Nat.le_succ _).trans hlength.ge)
    (Or.inl ?_) read
  · show (header ++ items.flatMap DhcpItem.bytes ++ [255]).getD (dhcpOptStart + index) _ = _
    rw [List.getD_append _ _ _ _ (by rw [List.length_append, hheader]; omega),
      List.getD_append_right _ _ _ _ (by omega), hheader, Nat.add_sub_cancel_left,
      List.getD_eq_getElem _ _ hindex, List.getD_eq_getElem _ _ hindex]
  · show (header ++ items.flatMap DhcpItem.bytes ++ [255]).getD
      (dhcpOptStart + (items.flatMap DhcpItem.bytes).length) _ = _
    rw [List.getD_append_right _ _ _ _ (by rw [List.length_append, hheader]), List.length_append,
      hheader, Nat.sub_self]
    rfl

/-- A header for a host, with 192.168.0.7 in it. -/
def replyHeader (host : UInt8) : List UInt8 :=
  List.replicate 16 0 ++ [192, 168, 0, 7] ++ List.replicate 8 0 ++ List.replicate 6 host ++
    List.replicate 206 0

theorem replyHeader_length (host : UInt8) : (replyHeader host).length = dhcpOptStart := by
  simp only [replyHeader, List.length_append, List.length_replicate, List.length_cons,
    List.length_nil]
  rfl

/-- A type, and a lease of ten minutes. -/
def replyItems (type : UInt8) : List DhcpItem := [.opt ⟨53, [type]⟩, .opt ⟨51, [0, 0, 2, 88]⟩]

theorem replyItems_wellFormed (type : UInt8) : ∀ item ∈ replyItems type, item.WellFormed := by
  simp only [replyItems, List.forall_mem_cons, List.not_mem_nil, false_implies, implies_true,
    and_true]
  exact ⟨show OptLength 53 1 by decide, show OptLength 51 4 by decide⟩

/-- A reply to a host, as a call finds it. -/
def heardReply (host type : UInt8) : HostCall :=
  .run (some (serverReply ⟨192, 168, 0, 1⟩ (replyHeader host) (replyItems type) (by
    rw [List.length_append, List.length_append, replyHeader_length]
    exact show 240 + 9 + 1 ≤ 1024 by decide))) false (fun _ ↦ 0) 0

theorem heardReply_whole (host type : UInt8) (before : DhcpHost) :
    (heardReply host type).Whole before :=
  ⟨fun _ ↦ serverReply_inside (replyHeader_length host) (replyItems_wellFormed type) _ before.msg _⟩

/-- DISCOVER, an OFFER, a NAK for another host, and the ACK. -/
def foreignRun : List HostCall :=
  [heardReply 0 5, heardReply 1 6, heardReply 0 2, .run none false (fun _ ↦ 0) 0]

/-- The NAK for another host leaves no trace, and the client has its lease. -/
theorem others_unheard_nak :
    ((dhcpHost.after (acceptedOnly foreignRun)).map DhcpHost.client =
        (dhcpHost.after foreignRun).map DhcpHost.client ∧
      hostRan (acceptedOnly foreignRun) = hostRan foreignRun) ∧
      (dhcpHost.after foreignRun).map (fun host ↦ (host.client.state, host.client.ip)) =
        some (.leased, ⟨192, 168, 0, 7⟩) := by
  have hwhole : ∀ call ∈ foreignRun, ∀ host, call.Whole host := by
    simp only [foreignRun, List.forall_mem_cons, List.not_mem_nil, false_implies, implies_true,
      and_true]
    exact ⟨heardReply_whole 0 5, heardReply_whole 1 6, heardReply_whole 0 2, fun _ ↦ trivial⟩
  refine ⟨others_unheard (whole_along hwhole), ?_⟩
  decide +kernel

end UsCtrl
