import Mathlib.Data.List.GetD
import UsCtrl.DhcpClient

/-!
# The format of the DHCP messages

The walk over the options of a message trusts the options: it takes the value of some of them to be
four bytes long whatever their length says, and it does not look at the end of the datagram while it
reads a value. `reply_read` says what it makes of a message whose options are well-formed: each
option, in order, is taken over as it says, and nothing else is.

`clientMessage_read` is the way back: every message of the client is 548 bytes long, and its options
are read as they were meant by the same walk.
-/

set_option autoImplicit false
set_option relaxedAutoImplicit false

namespace UsCtrl

open Foundation

/-! ### Well-formed options -/

/-- What stands between the options of a message: padding, or an option. -/
inductive DhcpItem
  | pad
  | opt (option : DhcpOpt)

def DhcpItem.bytes : DhcpItem → List UInt8
  | .pad => [0]
  | .opt option => option.bytes

/-- The length of a value is one that the tag asks for. -/
structure OptLength (tag length : ℕ) : Prop where
  tagged : tag ≠ 0 ∧ tag ≠ 255
  fits : length < 256
  type : tag = 53 → length = 1
  address : tag = 1 ∨ tag = 51 ∨ tag = 54 → length = 4
  addresses : tag = 3 ∨ tag = 6 → 4 ≤ length

instance (tag length : ℕ) : Decidable (OptLength tag length) :=
  decidable_of_iff ((tag ≠ 0 ∧ tag ≠ 255) ∧ length < 256 ∧ (tag = 53 → length = 1) ∧
      (tag = 1 ∨ tag = 51 ∨ tag = 54 → length = 4) ∧ (tag = 3 ∨ tag = 6 → 4 ≤ length))
    ⟨fun ⟨htag, hfits, htype, haddress, haddresses⟩ ↦ ⟨htag, hfits, htype, haddress, haddresses⟩,
      fun h ↦ ⟨h.tagged, h.fits, h.type, h.address, h.addresses⟩⟩

/-- An option whose length is one that its tag asks for. -/
def DhcpOpt.WellFormed (opt : DhcpOpt) : Prop := OptLength opt.tag.toNat opt.value.length

def DhcpItem.WellFormed : DhcpItem → Prop
  | .pad => True
  | .opt option => option.WellFormed

/-- The first four bytes of a value. -/
def firstOctets (value : List UInt8) : Octets :=
  ⟨(value.getD 0 0).toNat, (value.getD 1 0).toNat, (value.getD 2 0).toNat, (value.getD 3 0).toNat⟩

/-- What an option from a given server tells the client. -/
def DhcpOpt.tells (svrAddr : Octets) (opt : DhcpOpt) (read : DhcpParse) : DhcpParse :=
  match opt.tag.toNat with
  | 53 => { read with type := (opt.value.getD 0 0).toNat }
  | 1 => { read with sn := firstOctets opt.value }
  | 3 => { read with gw := firstOctets opt.value }
  | 6 => { read with dns := firstOctets opt.value }
  | 51 =>
    let time := firstOctets opt.value
    { read with leaseTime := ((time.o0 * 256 + time.o1) * 256 + time.o2) * 256 + time.o3 }
  | 54 => { read with sip := firstOctets opt.value, realSip := svrAddr }
  | _ => read

def DhcpItem.tells (svrAddr : Octets) (item : DhcpItem) (read : DhcpParse) : DhcpParse :=
  match item with
  | .pad => read
  | .opt option => option.tells svrAddr read

/-- What a list of items tells, in order. -/
def itemsTell (svrAddr : Octets) (items : List DhcpItem) (read : DhcpParse) : DhcpParse :=
  items.foldl (fun read item ↦ item.tells svrAddr read) read

/-! ### The walk -/

/-- The bytes stand in the buffer, from a position on. -/
def Carries (rx : DhcpDatagram) (pos : ℕ) (bytes : List UInt8) : Prop :=
  ∀ index < bytes.length, rx.buf (pos + index) = bytes.getD index 0

theorem Carries.left {rx : DhcpDatagram} {pos : ℕ} {front rest : List UInt8}
    (h : Carries rx pos (front ++ rest)) : Carries rx pos front := by
  intro index hindex
  rw [h index (by rw [List.length_append]; omega), List.getD_append _ _ _ _ hindex]

theorem Carries.right {rx : DhcpDatagram} {pos : ℕ} {front rest : List UInt8}
    (h : Carries rx pos (front ++ rest)) : Carries rx (pos + front.length) rest := by
  intro index hindex
  have hrest := h (front.length + index) (by rw [List.length_append]; omega)
  rw [List.getD_append_right _ _ _ _ (by omega), Nat.add_sub_cancel_left] at hrest
  rw [Nat.add_assoc]
  exact hrest

/-- Behind tag and length stands the value. -/
theorem Carries.value {rx : DhcpDatagram} {pos : ℕ} {opt : DhcpOpt}
    (h : Carries rx pos opt.bytes) (index : ℕ)
    (hindex : index < opt.value.length) : rx.buf (pos + 2 + index) = opt.value.getD index 0 := by
  have hbyte := h (index + 2) (by simp only [DhcpOpt.bytes, List.length_cons]; omega)
  rw [show pos + 2 + index = pos + (index + 2) by omega]
  exact hbyte

theorem Carries.octets {rx : DhcpDatagram} {pos : ℕ} {opt : DhcpOpt}
    (h : Carries rx pos opt.bytes) (hlength : 4 ≤ opt.value.length) :
    rx.octetsAt (pos + 2) = firstOctets opt.value := by
  have h0 := h.value 0 (by omega)
  have h1 := h.value 1 (by omega)
  have h2 := h.value 2 (by omega)
  have h3 := h.value 3 (by omega)
  rw [Nat.add_zero] at h0
  rw [DhcpDatagram.octetsAt, h0, h1, h2, h3]
  rfl

/-- The walk goes from a well-formed option to the next item, and takes over what it tells. -/
theorem dhcpOption_tells {rx : DhcpDatagram} {pos : ℕ} {opt : DhcpOpt}
    (hcarries : Carries rx pos opt.bytes) (hwell : opt.WellFormed) (read : DhcpParse) :
    dhcpOption rx pos read = (pos + opt.bytes.length, opt.tells rx.svrAddr read) := by
  have htag : rx.buf pos = opt.tag := hcarries 0 (Nat.succ_pos _)
  have hsize : (rx.buf (pos + 1)).toNat = opt.value.length := by
    have hbyte : rx.buf (pos + 1) = UInt8.ofNat opt.value.length :=
      hcarries 1 (Nat.succ_lt_succ (Nat.succ_pos _))
    rw [hbyte, UInt8.toNat_ofNat_of_lt' hwell.fits]
  have hlength : opt.bytes.length = 2 + opt.value.length := by
    simp only [DhcpOpt.bytes, List.length_cons]
    omega
  rw [hlength]
  have hfour (haddress : opt.value.length = 4) :
      (pos + 6 : ℕ) = pos + (2 + opt.value.length) := by omega
  have hbehind : pos + 2 + (rx.buf (pos + 1)).toNat = pos + (2 + opt.value.length) := by omega
  unfold dhcpOption DhcpOpt.tells
  rw [htag]
  dsimp only
  split <;> rename_i hnumber
  · exact absurd hnumber hwell.tagged.2
  · exact absurd hnumber hwell.tagged.1
  · have hone := hwell.type hnumber
    have hvalue := hcarries.value 0 (by omega)
    rw [Nat.add_zero] at hvalue
    rw [hvalue, hone]
    simp only [hnumber]
  · have haddress := hwell.address (Or.inl hnumber)
    rw [hcarries.octets haddress.ge, hfour haddress]
    simp only [hnumber]
  · rw [hcarries.octets (hwell.addresses (Or.inl hnumber)), hbehind]
    simp only [hnumber]
  · rw [hcarries.octets (hwell.addresses (Or.inr hnumber)), hbehind]
    simp only [hnumber]
  · have haddress := hwell.address (Or.inr (Or.inl hnumber))
    rw [hcarries.octets haddress.ge, hfour haddress]
    simp only [hnumber]
  · have haddress := hwell.address (Or.inr (Or.inr hnumber))
    rw [hcarries.octets haddress.ge, hfour haddress]
    simp only [hnumber]
  · rw [hbehind]
    split <;> first | contradiction | rfl

theorem dhcpItem_tells {rx : DhcpDatagram} {pos : ℕ} {item : DhcpItem}
    (hcarries : Carries rx pos item.bytes) (hwell : item.WellFormed) (read : DhcpParse) :
    dhcpOption rx pos read = (pos + item.bytes.length, item.tells rx.svrAddr read) := by
  cases item with
  | pad =>
    have htag : rx.buf pos = 0 := hcarries 0 Nat.one_pos
    unfold dhcpOption
    rw [htag]
    rfl
  | opt option => exact dhcpOption_tells hcarries hwell read

theorem itemBytes_pos (item : DhcpItem) : 0 < item.bytes.length := by
  cases item <;> exact Nat.succ_pos _

/-- At the end option the walk stops, as it does at the end of the datagram. -/
theorem dhcpWalk_end {rx : DhcpDatagram} {pos : ℕ} (hend : rx.buf pos = 255 ∨ rx.length ≤ pos)
    (fuel : ℕ) (read : DhcpParse) : dhcpWalk rx fuel pos read = read := by
  cases fuel with
  | zero => rfl
  | succ fuel =>
    rw [dhcpWalk]
    split_ifs with hinside
    · have hstop : dhcpOption rx pos read = (rx.length, read) := by
        rw [dhcpOption, hend.resolve_right (by omega)]
        rfl
      rw [hstop]
      cases fuel with
      | zero => rfl
      | succ fuel => rw [dhcpWalk, if_neg (Nat.lt_irrefl _)]
    · rfl

/-- Assumes: well-formed items from `pos` on, behind them the end option or the end of the datagram,
and a turn of the loop for each. The walk takes over what they say. -/
theorem dhcpWalk_tells {rx : DhcpDatagram} {items : List DhcpItem} {pos fuel : ℕ}
    (hcarries : Carries rx pos (items.flatMap DhcpItem.bytes))
    (hwell : ∀ item ∈ items, item.WellFormed)
    (hinside : pos + (items.flatMap DhcpItem.bytes).length ≤ rx.length)
    (hend : rx.buf (pos + (items.flatMap DhcpItem.bytes).length) = 255 ∨
      rx.length ≤ pos + (items.flatMap DhcpItem.bytes).length)
    (hfuel : items.length ≤ fuel) (read : DhcpParse) :
    dhcpWalk rx fuel pos read = itemsTell rx.svrAddr items read := by
  induction items generalizing pos fuel read with
  | nil => exact dhcpWalk_end hend fuel read
  | cons item items ih =>
    obtain ⟨fuel, rfl⟩ := Nat.exists_eq_succ_of_ne_zero (show fuel ≠ 0 by
      simp only [List.length_cons] at hfuel
      omega)
    rw [List.flatMap_cons] at hcarries hinside hend
    rw [List.length_append, ← Nat.add_assoc] at hinside hend
    have hpos := itemBytes_pos item
    have hitem := dhcpItem_tells hcarries.left (hwell item List.mem_cons_self) read
    rw [dhcpWalk, if_pos (by omega), hitem]
    exact ih hcarries.right (fun other hother ↦ hwell other (List.mem_cons_of_mem item hother))
      hinside hend (Nat.le_of_succ_le_succ hfuel) _

/-- The items are no longer than their bytes. -/
theorem items_length (items : List DhcpItem) :
    items.length ≤ (items.flatMap DhcpItem.bytes).length := by
  induction items with
  | nil => exact le_rfl
  | cons item items ih =>
    have hpos := itemBytes_pos item
    rw [List.flatMap_cons, List.length_append, List.length_cons]
    omega

/-! ### Replies -/

/-- Assumes: an accepted datagram with well-formed options and padding behind its header, up to an
end option or the end of the datagram. What they say is taken over in order, and nothing else; the
last message type among them is its type. -/
theorem reply_read {rx : DhcpDatagram} {c : DhcpClient} (haccepted : rx.accepted c = true)
    {items : List DhcpItem} (hwell : ∀ item ∈ items, item.WellFormed)
    (hcarries : Carries rx dhcpOptStart (items.flatMap DhcpItem.bytes))
    (hinside : dhcpOptStart + (items.flatMap DhcpItem.bytes).length ≤ rx.length)
    (hend : rx.buf (dhcpOptStart + (items.flatMap DhcpItem.bytes).length) = 255 ∨
      rx.length = dhcpOptStart + (items.flatMap DhcpItem.bytes).length) :
    parseDhcpMsg (some rx) c = itemsTell rx.svrAddr items ⟨c.known, 0⟩ := by
  have hlength := items_length items
  unfold parseDhcpMsg
  dsimp only
  rw [if_pos haccepted]
  exact dhcpWalk_tells hcarries hwell hinside (hend.imp_right fun h ↦ h.le) (by omega) _

/-- An ACK for the host zero: its type, padding, a lease of 600 s, and the end option. -/
def ackDatagram : DhcpDatagram where
  svrAddr := ⟨192, 168, 0, 1⟩
  svrPort := 67
  length := 251
  buf pos := ([(240, 53), (241, 1), (242, 5), (244, 51), (245, 4), (248, 2), (249, 88),
    (250, 255)].lookup pos).getD 0

/-- What stands in it. -/
def ackItems : List DhcpItem := [.opt ⟨53, [5]⟩, .pad, .opt ⟨51, [0, 0, 2, 88]⟩]

theorem reply_read_ack :
    parseDhcpMsg (some ackDatagram) dhcpReset =
      { dhcpReset.known with type := 5, leaseTime := 600 } :=
  have hwell : ∀ item ∈ ackItems, item.WellFormed := by
    simp only [ackItems, List.forall_mem_cons, List.not_mem_nil, false_implies, implies_true,
      and_true]
    exact ⟨show OptLength 53 1 by decide, trivial, show OptLength 51 4 by decide⟩
  reply_read (by decide) hwell
    (show ∀ index < 10, ackDatagram.buf (240 + index) =
      (ackItems.flatMap DhcpItem.bytes).getD index 0 by decide)
    (by decide) (Or.inl (by decide))

/-! ### What the client sends -/

/-- The messages of the client. -/
inductive ClientMessage (c : DhcpClient) : DhcpMessage → Prop
  | discover : ClientMessage c (sendDhcpDiscover c).2
  | request : ClientMessage c (sendDhcpRequest c)
  | decline : ClientMessage c (sendDhcpDecline c)

/-- The options of a message, as items. -/
def DhcpMessage.items (message : DhcpMessage) : List DhcpItem := message.options.map .opt

theorem items_bytes (message : DhcpMessage) :
    message.items.flatMap DhcpItem.bytes = message.options.flatMap DhcpOpt.bytes := by
  rw [DhcpMessage.items, List.flatMap_map]
  rfl

theorem ClientMessage.wellFormed {c : DhcpClient} {message : DhcpMessage}
    (hmessage : ClientMessage c message) : ∀ opt ∈ message.options, opt.WellFormed := by
  have hidentifier : (clientIdentifier c.chaddr).WellFormed :=
    show OptLength 61 (List.ofFn c.chaddr).length.succ by
      rw [List.length_ofFn]
      decide
  have hname : (hostName c.chaddr).WellFormed := show OptLength 12 12 by decide
  have htype (type : UInt8) : (DhcpOpt.mk 53 [type]).WellFormed := show OptLength 53 1 by decide
  have haddress (octets : Octets) : (DhcpOpt.mk 50 octets.bytes).WellFormed :=
    show OptLength 50 4 by decide
  have hserver (octets : Octets) : (DhcpOpt.mk 54 octets.bytes).WellFormed :=
    show OptLength 54 4 by decide
  cases hmessage with
  | discover =>
    simp only [sendDhcpDiscover, List.forall_mem_cons, List.not_mem_nil, false_implies,
      implies_true, and_true]
    exact ⟨htype 1, hidentifier, hname, show OptLength 55 6 by decide⟩
  | request =>
    intro opt hopt
    simp only [sendDhcpRequest, List.mem_append, List.mem_cons, List.not_mem_nil, or_false] at hopt
    rcases hopt with ((rfl | rfl) | hnamed) | rfl | rfl
    · exact htype 3
    · exact hidentifier
    · have hpair (hin : opt ∈ [⟨50, c.ip.bytes⟩, ⟨54, c.known.sip.bytes⟩]) : opt.WellFormed := by
        simp only [List.mem_cons, List.not_mem_nil, or_false] at hin
        rcases hin with rfl | rfl
        · exact haddress _
        · exact hserver _
      split_ifs at hnamed <;> first | exact hpair hnamed | cases hnamed
    · exact hname
    · exact show OptLength 55 8 by decide
  | decline =>
    simp only [sendDhcpDecline, List.forall_mem_cons, List.not_mem_nil, false_implies,
      implies_true, and_true]
    exact ⟨htype 4, hidentifier, haddress _, hserver _⟩

/-- The options of a message leave room for its end option. -/
theorem ClientMessage.fits {c : DhcpClient} {message : DhcpMessage}
    (hmessage : ClientMessage c message) :
    4 + (message.options.flatMap DhcpOpt.bytes).length + 1 ≤ dhcpOptSize := by
  have hsize (opt : DhcpOpt) : opt.bytes.length = 2 + opt.value.length := by
    simp only [DhcpOpt.bytes, List.length_cons]
    omega
  have hidentifier : (clientIdentifier c.chaddr).value.length = 7 := by
    simp only [clientIdentifier, List.length_cons, List.length_ofFn]
  have hname : (hostName c.chaddr).value.length = 12 := rfl
  have haddress (octets : Octets) : octets.bytes.length = 4 := rfl
  have hroom : dhcpOptSize = 312 := rfl
  cases hmessage with
  | discover =>
    simp only [sendDhcpDiscover, List.flatMap_cons, List.flatMap_nil, List.length_append, hsize,
      hidentifier, hname, List.length_cons, List.length_nil]
    omega
  | request =>
    simp only [sendDhcpRequest]
    split_ifs <;>
    simp only [List.cons_append, List.nil_append, List.flatMap_cons, List.flatMap_nil,
      List.length_append, hsize, hidentifier, hname, haddress, List.length_cons,
      List.length_nil] <;> omega
  | decline =>
    simp only [sendDhcpDecline, List.flatMap_cons, List.flatMap_nil, List.length_append, hsize,
      hidentifier, haddress, List.length_cons, List.length_nil]
    omega

theorem header_length (message : DhcpMessage) : message.header.length = dhcpOptStart := by
  simp only [DhcpMessage.header, List.length_append, List.length_map, List.length_cons,
    List.length_nil, List.length_replicate, List.length_ofFn]
  rfl

/-- Whatever the client sends is 548 bytes long, and whoever receives it as a datagram reads its
options as they were meant by the walk of `parseDHCPMSG`. -/
theorem clientMessage_read {c : DhcpClient} {message : DhcpMessage}
    (hmessage : ClientMessage c message) :
    message.bytes.length = 548 ∧
      ∀ (rx : DhcpDatagram) (fuel : ℕ) (read : DhcpParse), Carries rx 0 message.bytes →
        rx.length = message.bytes.length → rx.length ≤ fuel →
          dhcpWalk rx fuel dhcpOptStart read = itemsTell rx.svrAddr message.items read := by
  have hfits := hmessage.fits
  have hheader := header_length message
  have hsize : message.bytes.length = dhcpOptStart - 4 + dhcpOptSize := by
    simp only [DhcpMessage.bytes, List.length_append, hheader, List.length_cons, List.length_nil,
      List.length_replicate]
    have hstart : dhcpOptStart = 240 := rfl
    omega
  refine ⟨hsize, fun rx fuel read hcarries hlength hfuel ↦ ?_⟩
  have hbytes := items_bytes message
  have hcarried := hcarries.left
  have hend := hcarried.right 0 (by decide)
  have hoptions := hcarried.left.right
  rw [hheader, Nat.zero_add, ← hbytes] at hoptions
  rw [List.length_append, hheader, Nat.zero_add, Nat.add_zero, ← hbytes] at hend
  have hitems := items_length message.items
  have hstart : dhcpOptStart = 240 := rfl
  rw [← hbytes] at hfits
  refine dhcpWalk_tells hoptions ?_ (by omega) (Or.inl hend) (by omega) read
  intro item hitem
  obtain ⟨opt, hopt, rfl⟩ := List.mem_map.mp hitem
  exact hmessage.wellFormed opt hopt

end UsCtrl
