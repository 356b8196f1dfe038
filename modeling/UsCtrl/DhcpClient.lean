import UsCtrl.Ethernet
import UsCtrl.Foundation.FuelLoop

/-!
# The DHCP client

`dhcp.c` of the vendored Ethernet library: the state machine behind `DHCP_run`, the walk over the
options of a reply, and the three messages it sends. `DHCP_run` is called again and again; a call
reads at most one datagram (`DhcpRunIn`). Only the wait behind a DECLINE blocks, so the call is a
function on fuel.

The walk reads the values of its options without looking at the end of the datagram, so that a
reception is modelled with the message buffer as it stands behind it (`DhcpDatagram`).
-/

set_option autoImplicit false
set_option relaxedAutoImplicit false

namespace UsCtrl

open Foundation

/-! ### Data -/

/-- The states of the client. `DHCP_RELEASE` is never entered. -/
inductive DhcpState
  | init | discover | request | leased | rerequest | release | stop
  deriving DecidableEq, Repr

/-- What `DHCP_run` returns. -/
inductive DhcpRet
  | failed | running | ipAssign | ipChanged | ipLeased | stopped
  deriving DecidableEq, Repr

/-- The callbacks of `reg_dhcp_cbfunc`. -/
inductive DhcpCallback
  | ipAssign | ipUpdate | ipConflict
  deriving DecidableEq, Repr

/-- A hardware address. -/
abbrev Mac : Type := Fin 6 → UInt8

def Octets.zero : Octets := ⟨0, 0, 0, 0⟩

def Octets.broadcast : Octets := ⟨255, 255, 255, 255⟩

/-- What the client takes over from the options of a message. -/
structure DhcpKnown where
  sn : Octets
  gw : Octets
  dns : Octets
  leaseTime : ℕ
  sip : Octets
  realSip : Octets
  deriving DecidableEq

/-- The variables of the client. -/
structure DhcpClient where
  state : DhcpState
  retryCount : ℕ
  tick1s : ℕ
  tickNext : ℕ
  xid : ℕ
  chaddr : Mac
  ip : Octets
  oldIp : Octets
  known : DhcpKnown

/-- `INFINITE_LEASETIME`, `MAX_DHCP_RETRY`, `DHCP_WAIT_TIME`, `DHCP_SERVER_PORT`. -/
def infiniteLeaseTime : ℕ := 0xFFFFFFFF

def maxDhcpRetry : ℕ := 2

def dhcpWaitTime : ℕ := 10

def dhcpServerPort : ℕ := 67

/-- The client at power-up. -/
def dhcpReset : DhcpClient where
  state := .init
  retryCount := 0
  tick1s := 0
  tickNext := dhcpWaitTime
  xid := 0
  chaddr := fun _ ↦ 0
  ip := .zero
  oldIp := .zero
  known := ⟨.zero, .zero, .zero, infiniteLeaseTime, .zero, .zero⟩

/-! ### Receiving -/

/-- A received datagram: its sender, its length, and the message buffer with the datagram at its
start. What stands behind the datagram is left open here, and so is the size of the buffer: one of
more than the 1024 bytes of `s_dhcp_buf` would overflow it. -/
structure DhcpDatagram where
  svrAddr : Octets
  svrPort : ℕ
  length : ℕ
  buf : ℕ → UInt8

/-- Four bytes of the buffer. -/
def DhcpDatagram.octetsAt (rx : DhcpDatagram) (pos : ℕ) : Octets :=
  ⟨(rx.buf pos).toNat, (rx.buf (pos + 1)).toNat, (rx.buf (pos + 2)).toNat,
    (rx.buf (pos + 3)).toNat⟩

/-- The offered address. -/
def DhcpDatagram.yiaddr (rx : DhcpDatagram) : Octets := rx.octetsAt 16

/-- Where the options begin, behind header and cookie. -/
def dhcpOptStart : ℕ := 240

/-- The walk over the options: what it takes over, and the message type. -/
structure DhcpParse extends DhcpKnown where
  type : ℕ

/-- One option at `pos`: the position behind it, and what is taken over. -/
def dhcpOption (rx : DhcpDatagram) (pos : ℕ) (read : DhcpParse) : ℕ × DhcpParse :=
  let behind := pos + 2 + (rx.buf (pos + 1)).toNat
  match (rx.buf pos).toNat with
  | 255 => (rx.length, read)
  | 0 => (pos + 1, read)
  | 53 => (pos + 3, { read with type := (rx.buf (pos + 2)).toNat })
  | 1 => (pos + 6, { read with sn := rx.octetsAt (pos + 2) })
  | 3 => (behind, { read with gw := rx.octetsAt (pos + 2) })
  | 6 => (behind, { read with dns := rx.octetsAt (pos + 2) })
  | 51 =>
    let time := rx.octetsAt (pos + 2)
    (pos + 6, { read with
      leaseTime := ((time.o0 * 256 + time.o1) * 256 + time.o2) * 256 + time.o3 })
  | 54 => (pos + 6, { read with sip := rx.octetsAt (pos + 2), realSip := rx.svrAddr })
  | _ => (behind, read)

/-- The loop over the options. Every option moves on, so that the length is fuel enough. -/
def dhcpWalk (rx : DhcpDatagram) : ℕ → ℕ → DhcpParse → DhcpParse
  | 0, _, read => read
  | fuel + 1, pos, read =>
    if pos < rx.length then
      dhcpWalk rx fuel (dhcpOption rx pos read).1 (dhcpOption rx pos read).2
    else read

/-- The checks ahead of the walk: the server port, the hardware address, and the server that has
identified itself, if one has. -/
def DhcpDatagram.accepted (rx : DhcpDatagram) (c : DhcpClient) : Bool :=
  decide (rx.svrPort = dhcpServerPort) && decide (∀ i : Fin 6, rx.buf (28 + i) = c.chaddr i) &&
    (decide (c.known.sip = .zero) || decide (rx.svrAddr = c.known.sip) ||
      decide (rx.svrAddr = c.known.realSip))

/-- `parseDHCPMSG`. -/
def parseDhcpMsg (rx : Option DhcpDatagram) (c : DhcpClient) : DhcpParse :=
  match rx with
  | none => ⟨c.known, 0⟩
  | some rx =>
    if rx.accepted c then dhcpWalk rx rx.length dhcpOptStart ⟨c.known, 0⟩ else ⟨c.known, 0⟩

/-! ### Sending -/

/-- An option: its tag and its value. -/
structure DhcpOpt where
  tag : UInt8
  value : List UInt8

/-- A message on its way, with the fields that vary. -/
structure DhcpMessage where
  xid : ℕ
  flags : ℕ
  ciaddr : Octets
  chaddr : Mac
  options : List DhcpOpt
  dest : Octets

/-- The bytes of an address. -/
def Octets.bytes (octets : Octets) : List UInt8 :=
  [octets.o0, octets.o1, octets.o2, octets.o3].map UInt8.ofNat

/-- An option as it is written. -/
def DhcpOpt.bytes (opt : DhcpOpt) : List UInt8 :=
  opt.tag :: UInt8.ofNat opt.value.length :: opt.value

/-- `OPT_SIZE`. -/
def dhcpOptSize : ℕ := 312

/-- The header of `makeDHCPMSG`, up to the magic cookie. -/
def DhcpMessage.header (message : DhcpMessage) : List UInt8 :=
  [1, 1, 6, 0] ++
    [message.xid / 2 ^ 24, message.xid / 2 ^ 16, message.xid / 2 ^ 8,
      message.xid].map UInt8.ofNat ++
    [0, 0] ++ [message.flags / 2 ^ 8, message.flags].map UInt8.ofNat ++ message.ciaddr.bytes ++
    List.replicate 12 0 ++ List.ofFn message.chaddr ++ List.replicate 202 0 ++
    [0x63, 0x82, 0x53, 0x63]

/-- The message as it is sent: header, options, the end option, and zeros. -/
def DhcpMessage.bytes (message : DhcpMessage) : List UInt8 :=
  let options := message.options.flatMap DhcpOpt.bytes
  message.header ++ options ++ [255] ++
    List.replicate (dhcpOptSize - (4 + options.length + 1)) 0

/-- `NibbleToHex`. -/
def nibbleToHex (nibble : UInt8) : UInt8 :=
  let low := nibble &&& 0x0F
  if low ≤ 9 then low + 0x30 else low + (0x41 - 0x0A)

/-- The client identifier. -/
def clientIdentifier (chaddr : Mac) : DhcpOpt := ⟨61, 1 :: List.ofFn chaddr⟩

/-- Two hexadecimal digits. -/
def hexByte (byte : UInt8) : List UInt8 := [nibbleToHex (byte >>> 4), nibbleToHex byte]

/-- The host name, `HOST_NAME` with the last three bytes of the hardware address. -/
def hostName (chaddr : Mac) : DhcpOpt :=
  ⟨12, [0x57, 0x49, 0x5A, 0x6E, 0x65, 0x74] ++ hexByte (chaddr 3) ++ hexByte (chaddr 4) ++
    hexByte (chaddr 5)⟩

/-- `send_DHCP_DISCOVER`: it also forgets the server. -/
def sendDhcpDiscover (c : DhcpClient) : DhcpClient × DhcpMessage :=
  ({ c with known := { c.known with sip := .zero, realSip := .zero } },
    { xid := c.xid
      flags := 0x8000
      ciaddr := .zero
      chaddr := c.chaddr
      options := [⟨53, [1]⟩, clientIdentifier c.chaddr, hostName c.chaddr,
        ⟨55, [1, 3, 6, 15, 58, 59]⟩]
      dest := .broadcast })

/-- `send_DHCP_REQUEST`: with a lease it goes to the server, else to everybody. Whether it names the
address and the server is told from the last octet of the destination. -/
def sendDhcpRequest (c : DhcpClient) : DhcpMessage :=
  let renews := c.state = .leased ∨ c.state = .rerequest
  let dest := if renews then c.known.sip else .broadcast
  { xid := c.xid
    flags := if renews then 0 else 0x8000
    ciaddr := if renews then c.ip else .zero
    chaddr := c.chaddr
    options := [⟨53, [3]⟩, clientIdentifier c.chaddr] ++
      (if dest.o3 = 255 then [⟨50, c.ip.bytes⟩, ⟨54, c.known.sip.bytes⟩] else []) ++
      [hostName c.chaddr, ⟨55, [1, 3, 6, 15, 58, 59, 31, 33]⟩]
    dest := dest }

/-- `send_DHCP_DECLINE`. -/
def sendDhcpDecline (c : DhcpClient) : DhcpMessage where
  xid := c.xid
  flags := 0
  ciaddr := .zero
  chaddr := c.chaddr
  options := [⟨53, [4]⟩, clientIdentifier c.chaddr, ⟨50, c.ip.bytes⟩, ⟨54, c.known.sip.bytes⟩]
  dest := .broadcast

/-! ### Timeouts -/

/-- `reset_DHCP_timeout`. -/
def resetDhcpTimeout (c : DhcpClient) : DhcpClient :=
  { c with tick1s := 0, tickNext := dhcpWaitTime, retryCount := 0 }

/-- `DHCP_time_handler`. -/
def dhcpTimeHandler (c : DhcpClient) : DhcpClient := { c with tick1s := (c.tick1s + 1) % 2 ^ 32 }

/-- `DHCP_init`, with the hardware address read from the chip. -/
def dhcpInit (shar : Mac) (c : DhcpClient) : DhcpClient :=
  let chaddr : Mac := if ∀ i, shar i = 0 then
    fun i ↦ if i = 1 then 0x08 else if i = 2 then 0xDC else 0x00 else shar
  let low := chaddr 3 ^^^ chaddr 4 ^^^ chaddr 5
  resetDhcpTimeout { c with
    chaddr := chaddr
    xid := (0x12345678 + (chaddr 3).toNat + (chaddr 4).toNat + (chaddr 5).toNat + low.toNat) %
      2 ^ 32
    state := .init }

/-- `DHCP_stop`. -/
def dhcpStop (c : DhcpClient) : DhcpClient := { c with state := .stop }

/-- What a call of `DHCP_run` leaves and does. -/
structure DhcpRan where
  client : DhcpClient
  ret : DhcpRet
  callback : Option DhcpCallback
  sent : List DhcpMessage

/-- A resend of `check_DHCP_timeout`. -/
def dhcpResend (c : DhcpClient) : DhcpClient × List DhcpMessage :=
  match c.state with
  | .discover => ((sendDhcpDiscover c).1, [(sendDhcpDiscover c).2])
  | .request | .rerequest => (c, [sendDhcpRequest c])
  | _ => (c, [])

/-- `check_DHCP_timeout`. -/
def checkDhcpTimeout (c : DhcpClient) : DhcpRan :=
  if c.retryCount < maxDhcpRetry then
    if c.tickNext < c.tick1s then
      ⟨{ (dhcpResend c).1 with
          tick1s := 0, tickNext := dhcpWaitTime, retryCount := c.retryCount + 1 },
        .running, none, (dhcpResend c).2⟩
    else ⟨c, .running, none, []⟩
  else
    match c.state with
    | .discover => ⟨resetDhcpTimeout { c with state := .init }, .failed, none, []⟩
    | .request | .rerequest =>
      ⟨resetDhcpTimeout { (sendDhcpDiscover c).1 with state := .discover }, .running, none,
        [(sendDhcpDiscover c).2]⟩
    | _ => ⟨resetDhcpTimeout c, .running, none, []⟩

/-! ### `DHCP_run` -/

/-- What a call of `DHCP_run` finds: a datagram, whether the probe that `check_DHCP_leasedIP` sends
to the leased address is answered, and the seconds as the wait behind a DECLINE reads them. Answered
is every probe whose `sendto` returns something else than `SOCKERR_TIMEOUT`: by a host that has the
address, or by an error of the socket. -/
structure DhcpRunIn where
  rx : Option DhcpDatagram
  arpAnswered : Bool
  seconds : ℕ → ℕ

/-- The wait behind a DECLINE, until the counter has gone on by two. -/
def dhcpDeclineWait (seconds : ℕ → ℕ) (start : ℕ) : ℕ → ℕ → Option Unit :=
  fuelLoop fun _ read ↦
    some (if (seconds read + 2 ^ 32 - start) % 2 ^ 32 < 2 then .inl (read + 1) else .inr ())

/-- The test of `check_DHCP_leasedIP`: the probe times out. To the zero address `sendto` sends
nothing and returns `SOCKERR_IPINVALID`. -/
def DhcpRunIn.leasedIpFree (input : DhcpRunIn) (ip : Octets) : Bool :=
  decide (ip ≠ .zero) && !input.arpAnswered

/-- An ACK in REQUEST, with `check_DHCP_leasedIP`. -/
def dhcpAcked (input : DhcpRunIn) (fuel : ℕ) (c : DhcpClient) : Option DhcpRan :=
  if input.leasedIpFree c.ip then
    some ⟨{ resetDhcpTimeout c with state := .leased }, .running, some .ipAssign, []⟩
  else
    (dhcpDeclineWait input.seconds c.tick1s fuel 0).map fun _ ↦
      ⟨{ resetDhcpTimeout c with state := .init }, .running, some .ipConflict, [sendDhcpDecline c]⟩

/-- The switch of `DHCP_run`, on the type of the message just parsed. -/
def dhcpSwitch (input : DhcpRunIn) (type : ℕ) (fuel : ℕ) (c : DhcpClient) : Option DhcpRan :=
  match c.state with
  | .init =>
    let cleared := sendDhcpDiscover { c with ip := .zero }
    some ⟨{ cleared.1 with state := .discover }, .running, none, [cleared.2]⟩
  | .discover =>
    if type = 2 then
      let offered := { c with ip := (input.rx.map DhcpDatagram.yiaddr).getD c.ip }
      some ⟨{ offered with state := .request }, .running, none, [sendDhcpRequest offered]⟩
    else some (checkDhcpTimeout c)
  | .request =>
    if type = 5 then dhcpAcked input fuel c
    else if type = 6 then
      some ⟨{ resetDhcpTimeout c with state := .discover }, .running, none, []⟩
    else some (checkDhcpTimeout c)
  | .leased =>
    if c.known.leaseTime ≠ infiniteLeaseTime ∧ c.known.leaseTime / 2 < c.tick1s then
      let renewing := { c with oldIp := c.ip, xid := (c.xid + 1) % 2 ^ 32 }
      some ⟨{ resetDhcpTimeout renewing with state := .rerequest }, .ipLeased, none,
        [sendDhcpRequest renewing]⟩
    else some ⟨c, .ipLeased, none, []⟩
  | .rerequest =>
    if type = 5 then
      some ⟨{ resetDhcpTimeout c with state := .leased },
        if c.oldIp ≠ c.ip then .ipChanged else .ipLeased,
        if c.oldIp ≠ c.ip then some .ipUpdate else none, []⟩
    else if type = 6 then
      some ⟨{ resetDhcpTimeout c with state := .discover }, .ipLeased, none, []⟩
    else some (checkDhcpTimeout c)
  | .release | .stop => some ⟨c, .running, none, []⟩

/-- `DHCP_run`. -/
def dhcpRun (input : DhcpRunIn) (fuel : ℕ) (c : DhcpClient) : Option DhcpRan :=
  if c.state = .stop then some ⟨c, .stopped, none, []⟩
  else
    let parsed := parseDhcpMsg input.rx c
    dhcpSwitch input parsed.type fuel { c with known := parsed.toDhcpKnown }

end UsCtrl
