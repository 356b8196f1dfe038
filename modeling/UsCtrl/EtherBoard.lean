import UsCtrl.DhcpRuns
import UsCtrl.Lease
import UsCtrl.NetSettings

/-!
# The controller with its DHCP client

`app_eth.c` and the client together: the Ethernet tick of the controller takes its events from
`DHCP_run`, and the client is started, stopped and restarted by the tick. What the wait behind a
DECLINE reads is the counter of the client, which only the tick counts on. With it goes the address
that the chip has been given and still has.

A run of the board is a run of the controller (`board_sys`). `available_iff` says that the server is
reported as available exactly while the chip has an address, and `address_served` that this is the
address of the live configuration, which the panel shows, up to the changes that the firmware makes
to it on purpose without the chip.
-/

set_option autoImplicit false
set_option relaxedAutoImplicit false

namespace UsCtrl

open Foundation

/-! ### The board -/

/-- What `wizchip_setnetinfo` is given. -/
structure NetInfo where
  ip : Octets
  nm : Octets
  gw : Octets
  dhcp : Bool
  deriving DecidableEq

/-- The client, and the address given to the chip, unless `DHCP_init` has cleared it since; `moves`
counts how often it has been given or cleared. -/
structure EtherNet where
  client : DhcpClient
  chip : Option NetInfo
  moves : ℕ

/-- `kEthMac`. -/
def kEthMac : Mac := fun i ↦ [0x00, 0x08, 0xDC, 0x78, 0x91, 0x71].getD i 0

/-- `DHCP_init`: it clears the address of the chip. -/
def netDhcpInit (net : EtherNet) : EtherNet :=
  ⟨dhcpInit kEthMac net.client, none, net.moves + 1⟩

/-- `eth_apply_on_link`, on client and chip. -/
def netApplyOnLink (cfg : AppConfig) (net : EtherNet) : EtherNet :=
  if cfg.commMode = 2 then netDhcpInit net
  else
    { net with
      chip := some ⟨cfg.etherIp, cfg.etherNm, cfg.etherGw, false⟩
      moves := net.moves + 1 }

/-- `eth_reapply`. -/
def netReapply (s : Sys) (net : EtherNet) : EtherNet :=
  match s.eth.phase with
  | .staticUp => netApplyOnLink s.cfg net
  | .dhcpRun =>
    if s.cfg.commMode = 2 then net
    else netApplyOnLink s.cfg { net with client := dhcpStop net.client }
  | .down | .linkwait => net

/-- The consumer of `app_lcd_ether_dirty_take`. -/
def netTakeDirty (s : Sys) (net : EtherNet) : EtherNet :=
  if s.lcd.etherDirty then netReapply s net else net

/-- What an `app_eth_tick` finds: the time, the link, a datagram, and whether a probe of the leased
address is answered (`DhcpRunIn`). -/
structure BoardTick where
  now : ℕ
  linkUp : Bool
  rx : Option DhcpDatagram
  arpAnswered : Bool
  fuel : ℕ

/-- What the tick leaves of client and chip, and what it tells the controller. -/
structure NetTicked where
  net : EtherNet
  events : List DhcpEvent
  failed : Bool

/-- The callbacks, with what `getIPfromDHCP` and the others return in them. -/
def callbackEvents (ran : DhcpRan) : List DhcpEvent :=
  match ran.callback with
  | some .ipAssign | some .ipUpdate =>
    [.assign ran.client.ip ran.client.known.sn ran.client.known.gw]
  | some .ipConflict => [.conflict]
  | none => []

/-- Client and chip behind a call of `DHCP_run`, with `dhcp_ip_assign`. -/
def netCalled (ran : DhcpRan) (net : EtherNet) : EtherNet :=
  match ran.callback with
  | some .ipAssign | some .ipUpdate =>
    ⟨ran.client, some ⟨ran.client.ip, ran.client.known.sn, ran.client.known.gw, true⟩,
      net.moves + 1⟩
  | some .ipConflict | none => { net with client := ran.client }

/-- The DHCP_RUN branch of `app_eth_tick`. Nobody counts the seconds while `DHCP_run` is under way.
-/
def netDhcpRun (tick : BoardTick) (dhcpMs : ℕ) (net : EtherNet) : Option NetTicked :=
  let client := if elapsedMs tick.now dhcpMs ≥ 1000 then dhcpTimeHandler net.client else net.client
  (dhcpRun ⟨tick.rx, tick.arpAnswered, fun _ ↦ client.tick1s⟩ tick.fuel client).map fun ran ↦
    if ran.ret = .failed then ⟨netDhcpInit (netCalled ran net), callbackEvents ran, true⟩
    else ⟨netCalled ran net, callbackEvents ran, false⟩

/-- `app_eth_tick`, on client and chip. -/
def netTick (tick : BoardTick) (s : Sys) (net : EtherNet) : Option NetTicked :=
  let taken := ethTakeDirty s
  let net := netTakeDirty s net
  match taken.eth.phase with
  | .linkwait =>
    if elapsedMs tick.now taken.eth.linkMs ≥ 100 ∧ tick.linkUp then
      some ⟨netApplyOnLink taken.cfg net, [], false⟩
    else some ⟨net, [], false⟩
  | .dhcpRun => netDhcpRun tick taken.eth.dhcpMs net
  | .staticUp | .down => some ⟨net, [], false⟩

/-- The controller with the client and the chip. -/
structure EtherBoard where
  sys : Sys
  net : EtherNet

/-- A call of the loop: the Ethernet tick with what it finds, or another call. -/
inductive BoardCall
  | ether (tick : BoardTick)
  | other (call : Call) (hkind : call.kind ≠ .eth)

/-- The tick as the controller sees it. -/
def BoardTick.seen (tick : BoardTick) (ticked : NetTicked) : EthTickIn :=
  ⟨tick.now, tick.linkUp, ticked.events, ticked.failed⟩

def BoardCall.run (build : Build) (call : BoardCall) (b : EtherBoard) : Option EtherBoard :=
  match call with
  | .ether tick => (netTick tick b.sys b.net).map fun ticked ↦
      ⟨appEthTick (tick.seen ticked) b.sys, ticked.net⟩
  | .other call _ => some ⟨call.exec build b.sys, b.net⟩

/-- The board from the boot on, as long as its calls return. -/
def etherBoard (build : Build) (boot : BootIn) : Machine (Option EtherBoard) BoardCall where
  start := some ⟨bootState build boot, ⟨dhcpReset, none, 0⟩⟩
  exec call before := before.bind (call.run build)

section Runs

variable {build : Build} {boot : BootIn}

/-- The board before the newest call. -/
theorem board_before {call : BoardCall} {past : List BoardCall} {b : EtherBoard}
    (hafter : (etherBoard build boot).after (call :: past) = some b) :
    ∃ before, (etherBoard build boot).after past = some before ∧ call.run build before = some b :=
  Option.bind_eq_some_iff.mp hafter

/-- A run of the board is a run of the controller. -/
theorem board_sys {history : List BoardCall} {b : EtherBoard}
    (hafter : (etherBoard build boot).after history = some b) :
    ∃ calls : List Call, calls.length = history.length ∧ b.sys = stateAfter build boot calls := by
  induction history generalizing b with
  | nil =>
    obtain rfl := Option.some.inj hafter
    exact ⟨[], rfl, rfl⟩
  | cons call past ih =>
    obtain ⟨before, hbefore, hrun⟩ := board_before hafter
    obtain ⟨calls, hlength, hsys⟩ := ih hbefore
    cases call with
    | ether tick =>
      obtain ⟨ticked, -, rfl⟩ := Option.map_eq_some_iff.mp hrun
      refine ⟨.ethTick (tick.seen ticked) :: calls, congrArg (· + 1) hlength, ?_⟩
      show appEthTick _ before.sys = _
      rw [hsys]
      rfl
    | other call hkind =>
      obtain rfl := Option.some.inj hrun
      refine ⟨call :: calls, congrArg (· + 1) hlength, ?_⟩
      show call.exec build before.sys = _
      rw [hsys]
      rfl

end Runs

/-! ### One tick -/

/-- The Ethernet address with its mask and gateway. -/
def AppConfig.address (cfg : AppConfig) : Octets × Octets × Octets :=
  (cfg.etherIp, cfg.etherNm, cfg.etherGw)

/-- The address in the live configuration. -/
def liveInfo (s : Sys) : NetInfo :=
  ⟨s.cfg.etherIp, s.cfg.etherNm, s.cfg.etherGw, decide (s.eth.phase = .dhcpRun)⟩

/-- The chip has just been cleared for DHCP, or given the live address. -/
inductive NetMoved (s : Sys) (net : EtherNet) : Prop
  | cleared (hchip : net.chip = none) (hclosed : s.eth.available = false)
    (hphase : s.eth.phase = .dhcpRun)
  | given (hchip : net.chip = some (liveInfo s)) (hopen : s.eth.available = true)
    (hphase : s.eth.phase = .staticUp ∨ s.eth.phase = .dhcpRun)

/-- The chip, the addresses and the state of the Ethernet are as before. -/
structure NetQuiet (s : Sys) (net : EtherNet) (s' : Sys) (net' : EtherNet) : Prop where
  chip : net'.chip = net.chip
  moves : net'.moves = net.moves
  cfg : s'.cfg = s.cfg
  phase : s'.eth.phase = s.eth.phase
  available : s'.eth.available = s.eth.available

theorem NetQuiet.trans {s mid s' : Sys} {net midNet net' : EtherNet}
    (hfirst : NetQuiet s net mid midNet) (hsecond : NetQuiet mid midNet s' net') :
    NetQuiet s net s' net' :=
  ⟨hsecond.chip.trans hfirst.chip, hsecond.moves.trans hfirst.moves,
    hsecond.cfg.trans hfirst.cfg, hsecond.phase.trans hfirst.phase,
    hsecond.available.trans hfirst.available⟩

theorem NetMoved.quiet {s s' : Sys} {net net' : EtherNet} (hmoved : NetMoved s net)
    (hquiet : NetQuiet s net s' net') : NetMoved s' net' := by
  obtain ⟨hsame, -, hcfg, hkept, hstill⟩ := hquiet
  cases hmoved with
  | cleared hchip hclosed hphase =>
    exact .cleared (hsame.trans hchip) (hstill.trans hclosed) (hkept.trans hphase)
  | given hchip hopen hphase =>
    have hlive : liveInfo s' = liveInfo s := by rw [liveInfo, liveInfo, hcfg, hkept]
    exact .given (by rw [hlive]; exact hsame.trans hchip) (hstill.trans hopen) (by rwa [hkept])

theorem applyOnLink_moved {s : Sys} {cfg : AppConfig} (hcfg : s.cfg = cfg) (net : EtherNet) :
    NetMoved (ethApplyOnLink s) (netApplyOnLink cfg net) := by
  subst hcfg
  unfold ethApplyOnLink netApplyOnLink
  split_ifs
  · exact .cleared rfl rfl rfl
  · exact .given rfl rfl (Or.inl rfl)

/-- The dirty flag moves the chip where it has a static address, and may do so in DHCP. -/
theorem takeDirty_effect (s : Sys) (net : EtherNet) :
    NetMoved (ethTakeDirty s) (netTakeDirty s net) ∨
      (NetQuiet s net (ethTakeDirty s) (netTakeDirty s net) ∧
        ¬ (s.lcd.etherDirty = true ∧ s.eth.phase = .staticUp)) := by
  unfold ethTakeDirty netTakeDirty
  cases s.lcd.etherDirty with
  | false => exact Or.inr ⟨⟨rfl, rfl, rfl, rfl, rfl⟩, fun h ↦ Bool.false_ne_true h.1⟩
  | true =>
    rw [if_pos rfl, if_pos rfl]
    unfold ethReapply netReapply
    cases hphase : s.eth.phase with
    | staticUp => exact Or.inl (applyOnLink_moved rfl _)
    | dhcpRun =>
      dsimp only
      split_ifs
      · exact Or.inr ⟨⟨rfl, rfl, rfl, rfl, rfl⟩, fun h ↦ by cases h.2⟩
      · exact Or.inl (applyOnLink_moved rfl _)
    | down => exact Or.inr ⟨⟨rfl, rfl, rfl, rfl, rfl⟩, fun h ↦ by cases h.2⟩
    | linkwait => exact Or.inr ⟨⟨rfl, rfl, rfl, rfl, rfl⟩, fun h ↦ by cases h.2⟩

/-- On the board the seconds stand still while `DHCP_run` is under way, so that it never reports a
conflict: behind one it does not return. -/
theorem board_noConflict {tick : BoardTick} {client : DhcpClient} {ran : DhcpRan}
    (hrun : dhcpRun ⟨tick.rx, tick.arpAnswered, fun _ ↦ client.tick1s⟩ tick.fuel client =
      some ran) : ran.callback ≠ some .ipConflict := by
  intro hcallback
  obtain ⟨read, hsecs⟩ := conflict_reported hrun hcallback
  dsimp only at hsecs
  rw [Nat.add_sub_cancel_left, Nat.mod_self] at hsecs
  omega

theorem netDhcpRun_effect {tick : BoardTick} {s : Sys} (hphase : s.eth.phase = .dhcpRun)
    {net : EtherNet} {ticked : NetTicked}
    (hticked : netDhcpRun tick s.eth.dhcpMs net = some ticked) :
    NetMoved (ethDhcpRun (tick.seen ticked) s) ticked.net ∨
      NetQuiet s net (ethDhcpRun (tick.seen ticked) s) ticked.net := by
  have hkept (input : EthTickIn) : (ethDhcpRun input s).eth.phase = .dhcpRun :=
    (ethDhcpRun_phase input s).trans hphase
  obtain ⟨ran, hrun, rfl⟩ := Option.map_eq_some_iff.mp hticked
  have hnone := board_noConflict hrun
  split_ifs with hfailed
  · -- the client starts again, without an address
    refine Or.inl (.cleared rfl ?_ (hkept _))
    unfold ethDhcpRun BoardTick.seen
    rw [if_pos rfl]
  · have hclock (now : ℕ) (cond : Prop) [Decidable cond] :
        NetQuiet s net (if cond then { s with eth := { s.eth with dhcpMs := now } } else s)
          net := by
      split_ifs <;> exact ⟨rfl, rfl, rfl, rfl, rfl⟩
    have hassigned (hgiven : callbackEvents ran =
          [.assign ran.client.ip ran.client.known.sn ran.client.known.gw])
        (hchip : (netCalled ran net).chip =
          some ⟨ran.client.ip, ran.client.known.sn, ran.client.known.gw, true⟩) :
        NetMoved (ethDhcpRun (tick.seen ⟨netCalled ran net, callbackEvents ran, false⟩) s)
          (netCalled ran net) := by
      have hlast := hkept (tick.seen ⟨netCalled ran net, callbackEvents ran, false⟩)
      refine .given ?_ ?_ (Or.inr hlast)
      · rw [liveInfo, hlast]
        unfold ethDhcpRun BoardTick.seen
        dsimp only
        rw [if_neg Bool.false_ne_true, hgiven]
        exact hchip
      · unfold ethDhcpRun BoardTick.seen
        dsimp only
        rw [if_neg Bool.false_ne_true, hgiven]
        rfl
    cases hcallback : ran.callback with
    | none =>
      refine Or.inr ?_
      have hevents : callbackEvents ran = [] := by rw [callbackEvents, hcallback]
      have hcalled : netCalled ran net = { net with client := ran.client } := by
        rw [netCalled, hcallback]
      have hticked := hclock tick.now (elapsedMs tick.now s.eth.dhcpMs ≥ 1000)
      unfold ethDhcpRun BoardTick.seen
      dsimp only
      rw [if_neg Bool.false_ne_true, hevents, hcalled]
      exact ⟨hticked.chip, hticked.moves, hticked.cfg, hticked.phase, hticked.available⟩
    | some callback =>
      cases callback with
      | ipConflict => exact absurd hcallback hnone
      | ipAssign | ipUpdate =>
        exact Or.inl (hassigned (by rw [callbackEvents, hcallback])
          (by rw [netCalled, hcallback]))

/-- What an Ethernet tick does: it moves the chip, or leaves everything as it was; a static address
whose settings are marked it moves. -/
theorem netTick_effect {tick : BoardTick} {s : Sys} {net : EtherNet} {ticked : NetTicked}
    (hticked : netTick tick s net = some ticked) :
    NetMoved (appEthTick (tick.seen ticked) s) ticked.net ∨
      (NetQuiet s net (appEthTick (tick.seen ticked) s) ticked.net ∧
        ¬ (s.lcd.etherDirty = true ∧ s.eth.phase = .staticUp)) := by
  have htaken := takeDirty_effect s net
  have hjoin {s' : Sys} {net' : EtherNet}
      (hthen : NetMoved s' net' ∨
        NetQuiet (ethTakeDirty s) (netTakeDirty s net) s' net') :
      NetMoved s' net' ∨ (NetQuiet s net s' net' ∧
        ¬ (s.lcd.etherDirty = true ∧ s.eth.phase = .staticUp)) := by
    rcases hthen with hmoved | hquiet
    · exact Or.inl hmoved
    · rcases htaken with hmoved | ⟨hstill, hnot⟩
      · exact Or.inl (hmoved.quiet hquiet)
      · exact Or.inr ⟨hstill.trans hquiet, hnot⟩
  have hrefl : NetQuiet (ethTakeDirty s) (netTakeDirty s net) (ethTakeDirty s)
      (netTakeDirty s net) := ⟨rfl, rfl, rfl, rfl, rfl⟩
  unfold netTick at hticked
  unfold appEthTick
  dsimp only at hticked ⊢
  cases hphase : (ethTakeDirty s).eth.phase with
  | linkwait =>
    rw [hphase] at hticked
    dsimp only at hticked ⊢
    unfold ethLinkPoll BoardTick.seen
    dsimp only
    by_cases hdue : elapsedMs tick.now (ethTakeDirty s).eth.linkMs ≥ 100
    · rw [if_pos hdue]
      cases hlink : tick.linkUp with
      | true =>
        rw [if_pos ⟨hdue, hlink⟩] at hticked
        obtain rfl := Option.some.inj hticked
        exact hjoin (Or.inl (applyOnLink_moved rfl _))
      | false =>
        rw [if_neg (fun h ↦ by rw [hlink] at h; exact Bool.false_ne_true h.2)] at hticked
        obtain rfl := Option.some.inj hticked
        exact hjoin (Or.inr ⟨rfl, rfl, rfl, rfl, rfl⟩)
    · rw [if_neg hdue]
      rw [if_neg (fun h ↦ hdue h.1)] at hticked
      obtain rfl := Option.some.inj hticked
      exact hjoin (Or.inr hrefl)
  | dhcpRun =>
    rw [hphase] at hticked
    exact hjoin (netDhcpRun_effect hphase hticked)
  | staticUp | down =>
    rw [hphase] at hticked
    obtain rfl := Option.some.inj hticked
    exact hjoin (Or.inr hrefl)

/-- The client that a tick runs, in DHCP_RUN. -/
def BoardTick.client (tick : BoardTick) (b : EtherBoard) : DhcpClient :=
  if elapsedMs tick.now (ethTakeDirty b.sys).eth.dhcpMs ≥ 1000 then
    dhcpTimeHandler (netTakeDirty b.sys b.net).client
  else (netTakeDirty b.sys b.net).client

/-- The tick runs the client into an ACK for an address whose probe does not time out. -/
def BoardTick.conflicts (tick : BoardTick) (b : EtherBoard) : Prop :=
  (ethTakeDirty b.sys).eth.phase = .dhcpRun ∧
    Conflicts ⟨tick.rx, tick.arpAnswered, fun _ ↦ (tick.client b).tick1s⟩ (tick.client b)

/-- An Ethernet tick returns unless it runs into an ACK for an address whose probe does not time
out: because somebody answers for it, because it is zero, or because the socket fails. Out of the
wait behind that it does not return, however long it goes on. -/
theorem tick_returns_iff (build : Build) (tick : BoardTick) (b : EtherBoard) :
    (∃ enough, ∀ fuel ≥ enough,
        ((BoardCall.ether { tick with fuel := fuel }).run build b).isSome = true) ↔
      ¬ tick.conflicts b := by
  have hrun (fuel : ℕ) : ((BoardCall.ether { tick with fuel := fuel }).run build b).isSome =
      (netTick { tick with fuel := fuel } b.sys b.net).isSome := Option.isSome_map
  simp only [hrun]
  unfold netTick BoardTick.conflicts
  dsimp only
  cases hphase : (ethTakeDirty b.sys).eth.phase with
  | linkwait =>
    refine ⟨fun _ h ↦ (by cases h.1), fun _ ↦ ⟨0, fun fuel _ ↦ ?_⟩⟩
    dsimp only
    split_ifs <;> rfl
  | staticUp | down => exact ⟨fun _ h ↦ (by cases h.1), fun _ ↦ ⟨0, fun _ _ ↦ rfl⟩⟩
  | dhcpRun =>
    have hran (fuel : ℕ) : (netDhcpRun { tick with fuel := fuel } (ethTakeDirty b.sys).eth.dhcpMs
        (netTakeDirty b.sys b.net)).isSome = (dhcpRun ⟨tick.rx, tick.arpAnswered,
          fun _ ↦ (tick.client b).tick1s⟩ fuel (tick.client b)).isSome := Option.isSome_map
    simp only [hran]
    constructor
    · rintro ⟨enough, hreturns⟩ ⟨-, hconflict⟩
      obtain ⟨ran, hsome⟩ := Option.isSome_iff_exists.mp (hreturns enough le_rfl)
      obtain ⟨read, hsecs⟩ := conflict_waits hsome hconflict
      dsimp only at hsecs
      rw [Nat.add_sub_cancel_left, Nat.mod_self] at hsecs
      omega
    · intro hfree
      obtain ⟨ran, enough, hreturns⟩ := (dhcpRun_returns_iff _ _).mpr
        fun hconflict ↦ absurd ⟨trivial, hconflict⟩ hfree
      exact ⟨enough, fun fuel hfuel ↦ by rw [hreturns fuel hfuel]; rfl⟩

/-! ### Runs -/

section Served

variable {build : Build} {boot : BootIn}

/-- The server is reported as available while the chip has an address, which is a static one in
STATIC_UP, where it always has one, and a leased one in DHCP_RUN. -/
structure Available (b : EtherBoard) : Prop where
  reported : b.sys.eth.available = b.net.chip.isSome
  static : b.sys.eth.phase = .staticUp → b.net.chip.isSome = true
  kind : ∀ info, b.net.chip = some info →
    b.sys.eth.phase = if info.dhcp then .dhcpRun else .staticUp

theorem NetMoved.available {b : EtherBoard} (hmoved : NetMoved b.sys b.net) : Available b := by
  cases hmoved with
  | cleared hchip hclosed hphase =>
    refine ⟨by rw [hclosed, hchip]; rfl, fun h ↦ ?_, fun info h ↦ ?_⟩
    · rw [hphase] at h
      cases h
    · rw [hchip] at h
      cases h
  | given hchip hopen hphase =>
    refine ⟨by rw [hopen, hchip]; rfl, fun _ ↦ by rw [hchip]; rfl, fun info h ↦ ?_⟩
    rw [hchip] at h
    obtain rfl := Option.some.inj h
    show _ = if decide (b.sys.eth.phase = .dhcpRun) = true then _ else _
    rcases hphase with hphase | hphase <;> rw [hphase] <;> rfl

theorem NetQuiet.availability {b b' : EtherBoard} (hquiet : NetQuiet b.sys b.net b'.sys b'.net)
    (hb : Available b) : Available b' := by
  refine ⟨?_, ?_, ?_⟩
  · rw [hquiet.available, hquiet.chip]
    exact hb.reported
  · rw [hquiet.phase, hquiet.chip]
    exact hb.static
  · rw [hquiet.phase, hquiet.chip]
    exact hb.kind

/-- The server is available on the address of the chip, in every run. -/
theorem board_available {history : List BoardCall} {b : EtherBoard}
    (hafter : (etherBoard build boot).after history = some b) : Available b := by
  induction history generalizing b with
  | nil =>
    obtain rfl := Option.some.inj hafter
    have heth : (bootState build boot).eth = _ := (sameSide_boot build boot).eth
    refine ⟨?_, fun h ↦ ?_, fun _ h ↦ by cases h⟩
    · show (bootState build boot).eth.available = _
      rw [heth]
      rfl
    · have hphase : (bootState build boot).eth.phase =
          if boot.ethPresent then .linkwait else .down := by
        rw [heth]
        rfl
      rw [show (bootState build boot).eth.phase = .staticUp from h] at hphase
      split_ifs at hphase
  | cons call past ih =>
    obtain ⟨before, hbefore, hrun⟩ := board_before hafter
    have hb := ih hbefore
    cases call with
    | ether tick =>
      obtain ⟨ticked, hticked, rfl⟩ := Option.map_eq_some_iff.mp hrun
      rcases netTick_effect hticked with hmoved | ⟨hquiet, -⟩
      · exact hmoved.available
      · exact hquiet.availability hb
    | other call hkind =>
      obtain rfl := Option.some.inj hrun
      have heth := exec_eth build hkind before.sys
      refine ⟨?_, ?_, ?_⟩
      · show (call.exec build before.sys).eth.available = _
        rw [heth]
        exact hb.reported
      · show (call.exec build before.sys).eth.phase = _ → _
        rw [heth]
        exact hb.static
      · show ∀ info, _ → (call.exec build before.sys).eth.phase = _
        rw [heth]
        exact hb.kind

/-- In every run the server is available exactly while the chip has an address: a static one in
STATIC_UP, where it always has one, and a leased one in DHCP_RUN. -/
theorem available_iff {history : List BoardCall} {b : EtherBoard}
    (hafter : (etherBoard build boot).after history = some b) :
    (b.sys.eth.available = true ↔ ∃ info, b.net.chip = some info) ∧
      (b.sys.eth.phase = .staticUp → ∃ info, b.net.chip = some info) ∧
      ∀ info, b.net.chip = some info →
        b.sys.eth.phase = if info.dhcp then .dhcpRun else .staticUp := by
  have havailable := board_available hafter
  refine ⟨?_, fun hstatic ↦ Option.isSome_iff_exists.mp (havailable.static hstatic),
    havailable.kind⟩
  rw [havailable.reported]
  exact Option.isSome_iff_exists

/-- A fact of the newest call, of the board it found and the one it left. -/
def boardFinds (build : Build) (boot : BootIn)
    (fact : BoardCall → EtherBoard → EtherBoard → Prop) : Past BoardCall
  | [] => False
  | call :: past => ∃ before b, (etherBoard build boot).after past = some before ∧
      call.run build before = some b ∧ fact call before b

/-- The newest call gave the chip no address, and did not clear it. -/
def chipKept (build : Build) (boot : BootIn) : Past BoardCall :=
  boardFinds build boot fun _ before b ↦ b.net.moves = before.net.moves

/-- The newest call changed the live address without the chip: a CANCEL, or any other call of the
loop while DHCP runs, whose leases are kept. -/
def settingsDrift (build : Build) (boot : BootIn) : Past BoardCall :=
  boardFinds build boot fun call before b ↦
    ∃ other hkind, call = .other other hkind ∧ b.sys.cfg.address ≠ before.sys.cfg.address ∧
      (other.loads = true ∨ before.sys.eth.phase = .dhcpRun)

/-- The address of the chip is the live one, or there is none; or the settings wait for the tick
where the address is static; or they have drifted. -/
def ChipFollows (build : Build) (boot : BootIn) (history : List BoardCall) (b : EtherBoard) :
    Prop :=
  b.net.chip = none ∨ b.net.chip = some (liveInfo b.sys) ∨
    (b.sys.lcd.etherDirty = true ∧ b.sys.eth.phase = .staticUp) ∨
      since (chipKept build boot) (settingsDrift build boot) history

theorem liveInfo_address {s s' : Sys} (haddress : s'.cfg.address = s.cfg.address)
    (heth : s'.eth = s.eth) : liveInfo s' = liveInfo s := by
  simp only [AppConfig.address, Prod.mk.injEq] at haddress
  obtain ⟨hip, hnm, hgw⟩ := haddress
  rw [liveInfo, liveInfo, hip, hnm, hgw, heth]

theorem chip_follows {history : List BoardCall} {b : EtherBoard}
    (hafter : (etherBoard build boot).after history = some b) :
    ChipFollows build boot history b := by
  induction history generalizing b with
  | nil =>
    obtain rfl := Option.some.inj hafter
    exact Or.inl rfl
  | cons call past ih =>
    obtain ⟨before, hbefore, hrun⟩ := board_before hafter
    have hfollows := ih hbefore
    have hkeep (hmoves : b.net.moves = before.net.moves)
        (hdrift : since (chipKept build boot) (settingsDrift build boot) past) :
        ChipFollows build boot (call :: past) b :=
      Or.inr (Or.inr (Or.inr (Or.inr ⟨⟨before, b, hbefore, hrun, hmoves⟩, hdrift⟩)))
    cases call with
    | ether tick =>
      obtain ⟨ticked, hticked, rfl⟩ := Option.map_eq_some_iff.mp hrun
      rcases netTick_effect hticked with hmoved | ⟨hquiet, hunmarked⟩
      · cases hmoved with
        | cleared hchip => exact Or.inl hchip
        | given hchip => exact Or.inr (Or.inl hchip)
      · have hlive : liveInfo (appEthTick (tick.seen ticked) before.sys) = liveInfo before.sys := by
          rw [liveInfo, liveInfo, hquiet.cfg, hquiet.phase]
        rcases hfollows with hnone | hshown | hmarked | hdrift
        · exact Or.inl (hquiet.chip.trans hnone)
        · refine Or.inr (Or.inl ?_)
          rw [hlive]
          exact hquiet.chip.trans hshown
        · exact absurd hmarked hunmarked
        · exact hkeep hquiet.moves hdrift
    | other call hkind =>
      obtain rfl := Option.some.inj hrun
      have heth := exec_eth build hkind before.sys
      rcases hfollows with hnone | hshown | hmarked | hdrift
      · exact Or.inl hnone
      · -- the address was the live one: a change is marked, or it is a drift
        by_cases haddress : (call.exec build before.sys).cfg.address = before.sys.cfg.address
        · refine Or.inr (Or.inl ?_)
          rw [liveInfo_address haddress heth]
          exact hshown
        · by_cases hfree : call.loads = true ∨ before.sys.eth.phase = .dhcpRun
          · exact Or.inr (Or.inr (Or.inr (Or.inl
              ⟨before, _, hbefore, hrun, call, hkind, rfl, haddress, hfree⟩)))
          · rw [not_or, Bool.not_eq_true] at hfree
            have hkind' := (board_available hbefore).kind _ hshown
            have hstatic : before.sys.eth.phase = .staticUp := by
              split_ifs at hkind'
              · exact absurd hkind' hfree.2
              · exact hkind'
            refine Or.inr (Or.inr (Or.inl ⟨?_, ?_⟩))
            · exact (exec_netKept build hkind hfree.1 before.sys).resolve_right
                fun hkept ↦ haddress (congrArg Prod.snd hkept.1)
            · show (call.exec build before.sys).eth.phase = _
              rw [heth, hstatic]
      · refine Or.inr (Or.inr (Or.inl ⟨?_, ?_⟩))
        · cases hloads : call.loads with
          | true => exact (load_mark build hloads before.sys).trans hmarked.1
          | false =>
            exact (exec_netKept build hkind hloads before.sys).elim id
              fun hkept ↦ hkept.2.trans hmarked.1
        · show (call.exec build before.sys).eth.phase = _
          rw [heth, hmarked.2]
      · exact hkeep rfl hdrift

/-- Assumes: the server is available, and no change of the Ethernet settings waits for the tick.
Then the address of the chip is the live one, unless since the chip was given it the live one has
been changed by a CANCEL, or while DHCP runs. -/
theorem address_served {history : List BoardCall} {b : EtherBoard}
    (hafter : (etherBoard build boot).after history = some b)
    (hopen : b.sys.eth.available = true) (hclean : b.sys.lcd.etherDirty = false) :
    b.net.chip = some (liveInfo b.sys) ∨
      since (chipKept build boot) (settingsDrift build boot) history := by
  have hchip := (board_available hafter).reported.symm.trans hopen
  rcases chip_follows hafter with hnone | hshown | ⟨hmarked, -⟩ | hdrift
  · rw [hnone] at hchip
    cases hchip
  · exact Or.inl hshown
  · rw [hclean] at hmarked
    cases hmarked
  · exact Or.inr hdrift

end Served

/-- The link comes up in DHCP mode, and the client is given 192.168.0.7. -/
def leasedBoard : List BoardCall :=
  [.ether ⟨140, true, some (dhcpReply kEthMac 5 7), false, 0⟩,
    .ether ⟨130, true, some (dhcpReply kEthMac 2 7), false, 0⟩,
    .ether ⟨120, true, none, false, 0⟩, .ether ⟨110, true, none, false, 0⟩]

/-- The server is available, on the leased address. -/
theorem available_iff_leased :
    ∃ b, (etherBoard stdBuild leaseBoot).after leasedBoard = some b ∧
      b.net.chip.map NetInfo.ip = some ⟨192, 168, 0, 7⟩ ∧ b.sys.eth.available = true ∧
      b.sys.eth.phase = .dhcpRun := by
  have hchip : ((etherBoard stdBuild leaseBoot).after leasedBoard).map (fun b ↦ b.net.chip) =
      some (some ⟨⟨192, 168, 0, 7⟩, .zero, .zero, true⟩) := by decide +kernel
  obtain ⟨b, hafter, hgiven⟩ := Option.map_eq_some_iff.mp hchip
  obtain ⟨hopen, -, hkind⟩ := available_iff hafter
  exact ⟨b, hafter, by rw [hgiven]; rfl, hopen.mpr ⟨_, hgiven⟩, hkind _ hgiven⟩

/-- The address served is the leased one, which is live. -/
theorem address_served_leased :
    ∃ b, (etherBoard stdBuild leaseBoot).after leasedBoard = some b ∧
      (b.net.chip = some (liveInfo b.sys) ∨
        since (chipKept stdBuild leaseBoot) (settingsDrift stdBuild leaseBoot) leasedBoard) := by
  have hopen : ((etherBoard stdBuild leaseBoot).after leasedBoard).map
      (fun b ↦ (b.sys.eth.available, b.sys.lcd.etherDirty)) = some (true, false) := by
    decide +kernel
  obtain ⟨b, hafter, hstate⟩ := Option.map_eq_some_iff.mp hopen
  obtain ⟨havailable, hclean⟩ := Prod.mk.inj hstate
  exact ⟨b, hafter, address_served hafter havailable hclean⟩

end UsCtrl
