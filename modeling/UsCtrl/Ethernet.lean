import UsCtrl.Modbus

/-!
# The Ethernet bring-up

`app_eth.c`: the link poll, the static and DHCP configurations, and the re-application after a
commit of the Ethernet settings. The chip and the vendored DHCP client are inputs: the link state,
and the callbacks `DHCP_run` fires with its failure code. What the rest of the controller sees is
`app_eth_available`, the leased address in the live configuration, and the reset of the TCP socket
state.
-/

set_option autoImplicit false
set_option relaxedAutoImplicit false

namespace UsCtrl

/-- The callbacks of `DHCP_run`. -/
inductive DhcpEvent
  | assign (ip nm gw : Octets)
  | conflict
  deriving DecidableEq, Repr

/-- What one `app_eth_tick` reads. -/
structure EthTickIn where
  now : ℕ
  linkUp : Bool
  dhcpEvents : List DhcpEvent
  dhcpFailed : Bool

/-- `dhcp_ip_assign` and `dhcp_ip_conflict`. -/
def dhcpEvent (event : DhcpEvent) (s : Sys) : Sys :=
  match event with
  | .assign ip nm gw =>
    { s with
      cfg := { s.cfg with etherIp := ip, etherNm := nm, etherGw := gw }
      eth := { s.eth with available := true } }
  | .conflict => { s with eth := { s.eth with available := false } }

/-- `eth_apply_on_link`. -/
def ethApplyOnLink (s : Sys) : Sys :=
  if s.cfg.commMode = 2 then { s with eth := { s.eth with available := false, phase := .dhcpRun } }
  else { s with eth := { s.eth with available := true, phase := .staticUp } }

/-- `eth_reapply`. -/
def ethReapply (s : Sys) : Sys :=
  match s.eth.phase with
  | .staticUp => ethApplyOnLink (appModbusTcpReset s)
  | .dhcpRun => if s.cfg.commMode = 2 then s else ethApplyOnLink (appModbusTcpReset s)
  | .down | .linkwait => s

/-- `app_lcd_ether_dirty_take` and its consumer. -/
def ethTakeDirty (s : Sys) : Sys :=
  if s.lcd.etherDirty then ethReapply { s with lcd := { s.lcd with etherDirty := false } } else s

/-- The LINKWAIT branch. -/
def ethLinkPoll (input : EthTickIn) (s : Sys) : Sys :=
  if elapsedMs input.now s.eth.linkMs ≥ 100 then
    let polled := { s with eth := { s.eth with linkMs := input.now } }
    if input.linkUp then ethApplyOnLink polled else polled
  else s

/-- The DHCP_RUN branch. -/
def ethDhcpRun (input : EthTickIn) (s : Sys) : Sys :=
  let ticked := if elapsedMs input.now s.eth.dhcpMs ≥ 1000
    then { s with eth := { s.eth with dhcpMs := input.now } } else s
  let ran := input.dhcpEvents.foldl (fun s event ↦ dhcpEvent event s) ticked
  if input.dhcpFailed then
    { ran with eth := { ran.eth with available := false, dhcpMs := input.now } }
  else ran

/-- `app_eth_tick`. -/
def appEthTick (input : EthTickIn) (s : Sys) : Sys :=
  let s := ethTakeDirty s
  match s.eth.phase with
  | .linkwait => ethLinkPoll input s
  | .dhcpRun => ethDhcpRun input s
  | .staticUp | .down => s

end UsCtrl
