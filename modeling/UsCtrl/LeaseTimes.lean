import UsCtrl.EtherBoard

/-!
# A lease whose server has fallen silent

The client asks for its lease again at half time, waits and asks twice more, goes back to DISCOVER
and asks three times there, and then reports `DHCP_FAILED`. It does not look at the end of the lease
at all, so when the address is given up depends on half the lease and the waits alone.

`silence_given_up` bounds the time to within two seconds, for any lengths of the loop: the last wait
of either state ends at the next call behind its message, however soon this is, and swallows the
second that call brings. `lease_given_up` is what this means for the server on the board, as long as
no tick finds the Ethernet settings marked. The seconds are those that `DHCP_time_handler` counts,
which the tick calls once a thousand milliseconds or more have gone by.
-/

set_option autoImplicit false
set_option relaxedAutoImplicit false

namespace UsCtrl

open Foundation

/-- The calls of one `app_eth_tick` on a silent net: maybe a second, and `DHCP_run`. -/
structure SilentTick where
  second : Bool
  input : DhcpRunIn
  fuel : ℕ
  silent : input.rx = none

def SilentTick.counted (tick : SilentTick) (c : DhcpClient) : DhcpClient :=
  if tick.second then dhcpTimeHandler c else c

def SilentTick.run (tick : SilentTick) (c : DhcpClient) : Option DhcpRan :=
  dhcpRun tick.input tick.fuel (tick.counted c)

/-- The client behind a silence, newest tick first, until it reports `DHCP_FAILED`. -/
def silentAfter (c : DhcpClient) : List SilentTick → Option DhcpClient
  | [] => some c
  | tick :: past =>
    (silentAfter c past).bind fun before ↦ (tick.run before).bind fun ran ↦
      if ran.ret = .failed then none else some ran.client

/-- The seconds of a silence. -/
def silentSeconds (ticks : List SilentTick) : ℕ := ticks.countP SilentTick.second

/-- The wait for a reply: the counters as the calls leave them. -/
structure Waiting (c : DhcpClient) : Prop where
  retry : c.retryCount ≤ maxDhcpRetry
  next : c.tickNext = dhcpWaitTime
  early : c.tick1s ≤ dhcpWaitTime
  last : c.retryCount = maxDhcpRetry → c.tick1s = 0

/-- The client on its way from a lease to giving it up. -/
inductive Losing (c : DhcpClient) : Prop
  | leased (hstate : c.state = .leased) (hfinite : c.known.leaseTime ≠ infiniteLeaseTime)
    (hword : c.known.leaseTime < 2 ^ 32) (hearly : c.tick1s ≤ c.known.leaseTime / 2)
  | renewing (hstate : c.state = .rerequest) (hwaiting : Waiting c)
  | seeking (hstate : c.state = .discover) (hwaiting : Waiting c)

/-- The seconds that remain of a wait. -/
def waitRest (c : DhcpClient) : ℕ := (maxDhcpRetry - c.retryCount) * (dhcpWaitTime + 1) - c.tick1s

/-- The fewest seconds that remain before the client gives up. -/
def secondsLeft (c : DhcpClient) : ℕ :=
  match c.state with
  | .leased => c.known.leaseTime / 2 + 45 - c.tick1s
  | .rerequest => 22 + waitRest c
  | .discover => waitRest c
  | _ => 0

/-- The seconds that may be swallowed on the way. -/
def secondsLost (c : DhcpClient) : ℕ := if c.state = .discover then 1 else 2

/-- A call on a silent net leaves what it knows of the servers. -/
theorem silent_heard {input : DhcpRunIn} (hsilent : input.rx = none) (c : DhcpClient) :
    heard input c = c ∧ heardType input c = 0 := by
  rw [heard, heardType, hsilent]
  exact ⟨rfl, rfl⟩

theorem silent_returns {input : DhcpRunIn} (hsilent : input.rx = none) (fuel : ℕ)
    (c : DhcpClient) : ∃ ran, dhcpRun input fuel c = some ran := by
  have hfree : ¬ Conflicts input c := fun h ↦ by
    have hack := h.acked
    rw [(silent_heard hsilent c).2] at hack
    cases hack
  obtain ⟨ran, hrun⟩ := dhcpRun_prompt hfree
  exact ⟨ran, hrun fuel⟩

/-- What a tick does on the way: it fails with no seconds left, or goes on. -/
def GoesOn (seconds : ℕ) (c : DhcpClient) (ran : DhcpRan) : Prop :=
  (ran.ret = .failed ∧ secondsLeft c = 0) ∨
    (ran.ret ≠ .failed ∧ Losing ran.client ∧ secondsLeft c ≤ secondsLeft ran.client + seconds ∧
      secondsLeft ran.client + secondsLost ran.client + seconds ≤ secondsLeft c + secondsLost c)

theorem counted_eq (tick : SilentTick) {c : DhcpClient} (hword : c.tick1s + 1 < 2 ^ 32) :
    tick.counted c = { c with tick1s := c.tick1s + tick.second.toNat } := by
  unfold SilentTick.counted
  cases tick.second with
  | false => rfl
  | true =>
    show dhcpTimeHandler c = _
    rw [dhcpTimeHandler, Nat.mod_eq_of_lt hword]
    rfl

/-- A wait that may ask again goes on second by second. -/
theorem wait_goesOn {c : DhcpClient} (hwaiting : Waiting c) (hretry : c.retryCount < maxDhcpRetry)
    {seconds : ℕ} (hseconds : seconds ≤ 1) :
    (checkDhcpTimeout { c with tick1s := c.tick1s + seconds }).ret ≠ .failed ∧
      (checkDhcpTimeout { c with tick1s := c.tick1s + seconds }).client.state = c.state ∧
      Waiting (checkDhcpTimeout { c with tick1s := c.tick1s + seconds }).client ∧
      waitRest c = waitRest (checkDhcpTimeout { c with tick1s := c.tick1s + seconds }).client +
        seconds := by
  obtain ⟨-, hnext, hearly, -⟩ := hwaiting
  have hmax : maxDhcpRetry = 2 := rfl
  have hwait : dhcpWaitTime = 10 := rfl
  have hresend (d : DhcpClient) : (dhcpResend d).1.state = d.state := by
    unfold dhcpResend
    split <;> rfl
  have hfew : c.retryCount = 0 ∨ c.retryCount = 1 := by omega
  unfold checkDhcpTimeout waitRest
  dsimp only
  rw [if_pos hretry, hmax, hwait]
  split_ifs with hlate
  · refine ⟨DhcpRet.noConfusion, hresend _, ⟨by dsimp only; omega, rfl, by dsimp only; omega,
      fun _ ↦ rfl⟩, ?_⟩
    dsimp only
    rcases hfew with hnone | hone
    · omega
    · omega
  · refine ⟨DhcpRet.noConfusion, rfl, ⟨by dsimp only; omega, hnext, by dsimp only; omega,
      fun hlast ↦ by dsimp only at hlast; omega⟩, ?_⟩
    dsimp only
    rcases hfew with hnone | hone
    · omega
    · omega

section Tick

variable {tick : SilentTick} {c : DhcpClient} {ran : DhcpRan}

theorem leased_goesOn (hstate : c.state = .leased) (hfinite : c.known.leaseTime ≠ infiniteLeaseTime)
    (hword : c.known.leaseTime < 2 ^ 32) (hearly : c.tick1s ≤ c.known.leaseTime / 2)
    (hrun : tick.run c = some ran) : GoesOn tick.second.toNat c ran := by
  have hseconds : tick.second.toNat ≤ 1 := Bool.toNat_le tick.second
  rw [SilentTick.run, counted_eq tick (by omega)] at hrun
  have hstep := dhcpRun_step hrun
  generalize hcounted : ({ c with tick1s := c.tick1s + tick.second.toNat } : DhcpClient) = counted
    at hstep
  have hcstate : counted.state = .leased := by rw [← hcounted]; exact hstate
  have hctick : counted.tick1s = c.tick1s + tick.second.toNat := by rw [← hcounted]
  have hcknown : counted.known = c.known := by rw [← hcounted]
  have hheard := (silent_heard tick.silent counted).1
  have hleft : secondsLeft c = c.known.leaseTime / 2 + 45 - c.tick1s := by
    rw [secondsLeft, hstate]
  have hlost : secondsLost c = 2 := if_neg (by rw [hstate]; exact DhcpState.noConfusion)
  cases hstep with
  | renewing _ _ hdue =>
    rw [hheard, hcknown, hctick] at hdue
    refine Or.inr ⟨DhcpRet.noConfusion, .renewing rfl ⟨Nat.zero_le _, rfl, Nat.zero_le _,
      fun _ ↦ rfl⟩, ?_, ?_⟩
    · show secondsLeft c ≤ 22 + (2 * 11 - 0) + _
      omega
    · show 22 + (2 * 11 - 0) + 2 + _ ≤ _
      omega
  | held _ hheld =>
    rw [hheard, hcknown, hctick] at hheld
    have hbefore := hheld.resolve_left hfinite
    have hafter : secondsLeft (heard tick.input counted) =
        c.known.leaseTime / 2 + 45 - (c.tick1s + tick.second.toNat) := by
      rw [hheard, secondsLeft, hcstate]
      dsimp only
      rw [hcknown, hctick]
    have hkept : secondsLost (heard tick.input counted) = 2 := by
      rw [hheard]
      exact if_neg (by rw [hcstate]; exact DhcpState.noConfusion)
    refine Or.inr ⟨DhcpRet.noConfusion, ?_, ?_, ?_⟩
    · dsimp only
      rw [hheard]
      refine .leased hcstate (by rwa [hcknown]) (by rwa [hcknown]) ?_
      rw [hctick, hcknown]
      exact hbefore
    · show _ ≤ secondsLeft (heard tick.input counted) + _
      omega
    · show secondsLeft (heard tick.input counted) + secondsLost (heard tick.input counted) + _ ≤ _
      omega
  | stopped hother | begun hother | offered hother | assigned hother | conflict hother
  | refused hother | renewed hother | withdrawn hother | released hother =>
    rw [hcstate] at hother
    cases hother
  | waited hother =>
    rw [hcstate] at hother
    cases hother

/-- In the states that wait, a tick on a silent net is the wait. -/
theorem waiting_tick (hwaits : c.state.waits = true) (hwaiting : Waiting c)
    (hrun : tick.run c = some ran) :
    ran = checkDhcpTimeout { c with tick1s := c.tick1s + tick.second.toNat } := by
  have hearly := hwaiting.early
  have hwait : dhcpWaitTime = 10 := rfl
  rw [SilentTick.run, counted_eq tick (by omega)] at hrun
  have hstep := dhcpRun_step hrun
  generalize hcounted : ({ c with tick1s := c.tick1s + tick.second.toNat } : DhcpClient) = counted
    at hstep
  have hcwaits : counted.state.waits = true := by rw [← hcounted]; exact hwaits
  obtain ⟨hheard, hdeaf⟩ := silent_heard tick.silent counted
  cases hstep with
  | waited => rw [hheard]
  | offered _ _ htype | assigned _ htype | conflict _ htype | refused _ htype | renewed _ htype
  | withdrawn _ htype =>
    rw [hdeaf] at htype
    cases htype
  | stopped hother | begun hother | renewing hother | held hother | released hother =>
    rw [hother] at hcwaits
    cases hcwaits

theorem renewing_goesOn (hstate : c.state = .rerequest) (hwaiting : Waiting c)
    (hrun : tick.run c = some ran) : GoesOn tick.second.toNat c ran := by
  have hseconds : tick.second.toNat ≤ 1 := Bool.toNat_le tick.second
  obtain rfl := waiting_tick (congrArg DhcpState.waits hstate) hwaiting hrun
  have hleft : secondsLeft c = 22 + waitRest c := by rw [secondsLeft, hstate]
  have hlost : secondsLost c = 2 := if_neg (by rw [hstate]; exact DhcpState.noConfusion)
  by_cases hretry : c.retryCount < maxDhcpRetry
  · obtain ⟨hret, hkept, hwaits, hrest⟩ := wait_goesOn hwaiting hretry hseconds
    generalize checkDhcpTimeout { c with tick1s := c.tick1s + tick.second.toNat } = ran at *
    rw [hstate] at hkept
    have hafter : secondsLeft ran.client = 22 + waitRest ran.client := by rw [secondsLeft, hkept]
    have hstill : secondsLost ran.client = 2 :=
      if_neg (by rw [hkept]; exact DhcpState.noConfusion)
    exact Or.inr ⟨hret, .renewing hkept hwaits, by omega, by omega⟩
  · -- the last wait is over: back to DISCOVER, whether or not a second has passed
    have hrest : waitRest c = 0 := by
      rw [waitRest, Nat.sub_eq_zero_of_le (not_lt.mp hretry), Nat.zero_mul, Nat.zero_sub]
    have hback : checkDhcpTimeout { c with tick1s := c.tick1s + tick.second.toNat } =
        ⟨resetDhcpTimeout { (sendDhcpDiscover { c with
            tick1s := c.tick1s + tick.second.toNat }).1 with state := .discover }, .running, none,
          [(sendDhcpDiscover { c with tick1s := c.tick1s + tick.second.toNat }).2]⟩ := by
      unfold checkDhcpTimeout
      rw [if_neg hretry]
      dsimp only
      rw [hstate]
    rw [hback]
    refine Or.inr ⟨DhcpRet.noConfusion, .seeking rfl ⟨Nat.zero_le _, rfl, Nat.zero_le _,
      fun _ ↦ rfl⟩, ?_, ?_⟩
    · show _ ≤ 2 * 11 - 0 + _
      omega
    · show 2 * 11 - 0 + 1 + _ ≤ _
      omega

theorem seeking_goesOn (hstate : c.state = .discover) (hwaiting : Waiting c)
    (hrun : tick.run c = some ran) : GoesOn tick.second.toNat c ran := by
  have hseconds : tick.second.toNat ≤ 1 := Bool.toNat_le tick.second
  obtain rfl := waiting_tick (congrArg DhcpState.waits hstate) hwaiting hrun
  have hleft : secondsLeft c = waitRest c := by rw [secondsLeft, hstate]
  have hlost : secondsLost c = 1 := if_pos hstate
  by_cases hretry : c.retryCount < maxDhcpRetry
  · obtain ⟨hret, hkept, hwaits, hrest⟩ := wait_goesOn hwaiting hretry hseconds
    generalize checkDhcpTimeout { c with tick1s := c.tick1s + tick.second.toNat } = ran at *
    rw [hstate] at hkept
    have hafter : secondsLeft ran.client = waitRest ran.client := by rw [secondsLeft, hkept]
    have hstill : secondsLost ran.client = 1 := if_pos hkept
    exact Or.inr ⟨hret, .seeking hkept hwaits, by omega, by omega⟩
  · have hrest : waitRest c = 0 := by
      rw [waitRest, Nat.sub_eq_zero_of_le (not_lt.mp hretry), Nat.zero_mul, Nat.zero_sub]
    refine Or.inl ⟨?_, hleft.trans hrest⟩
    unfold checkDhcpTimeout
    rw [if_neg hretry]
    dsimp only
    rw [hstate]

theorem losing_goesOn (hlosing : Losing c) (hrun : tick.run c = some ran) :
    GoesOn tick.second.toNat c ran := by
  cases hlosing with
  | leased hstate hfinite hword hearly => exact leased_goesOn hstate hfinite hword hearly hrun
  | renewing hstate hwaiting => exact renewing_goesOn hstate hwaiting hrun
  | seeking hstate hwaiting => exact seeking_goesOn hstate hwaiting hrun

end Tick

/-- Behind a silence the client is on its way, and the seconds are accounted for, up to the two that
may be swallowed; or it has given up, with all of them used. -/
theorem silent_account {c : DhcpClient} (hlosing : Losing c) (ticks : List SilentTick) :
    (∃ after, silentAfter c ticks = some after ∧ Losing after ∧
        secondsLeft c ≤ secondsLeft after + silentSeconds ticks ∧
        secondsLeft after + secondsLost after + silentSeconds ticks ≤
          secondsLeft c + secondsLost c) ∨
      (silentAfter c ticks = none ∧ secondsLeft c ≤ silentSeconds ticks) := by
  induction ticks with
  | nil => exact Or.inl ⟨c, rfl, hlosing, by omega, by rfl⟩
  | cons tick past ih =>
    have hcount : silentSeconds (tick :: past) = silentSeconds past + tick.second.toNat := by
      rw [silentSeconds, List.countP_cons]
      cases tick.second <;> rfl
    rw [hcount, silentAfter]
    rcases ih with ⟨before, hbefore, hway, hlow, hhigh⟩ | ⟨hgone, hused⟩
    · obtain ⟨ran, hrun⟩ := silent_returns tick.silent tick.fuel (tick.counted before)
      rw [hbefore]
      simp only [Option.bind_some]
      rw [show tick.run before = some ran from hrun, Option.bind_some]
      rcases losing_goesOn hway hrun with ⟨hfailed, hnone⟩ | ⟨hgoing, hon, hlow', hhigh'⟩
      · rw [if_pos hfailed]
        exact Or.inr ⟨rfl, by omega⟩
      · rw [if_neg hgoing]
        exact Or.inl ⟨ran.client, rfl, hon, by omega, by omega⟩
    · rw [hgone]
      exact Or.inr ⟨rfl, by omega⟩

/-- Assumes: a client whose lease is fresh and ends some time. If its server falls silent, it keeps
the address for at least half the lease and 45 seconds, and no longer than 47 seconds behind half
time, in however many calls the seconds come. -/
theorem silence_given_up {c : DhcpClient} (hstate : c.state = .leased) (hfresh : c.tick1s = 0)
    (hfinite : c.known.leaseTime ≠ infiniteLeaseTime) (hword : c.known.leaseTime < 2 ^ 32)
    (ticks : List SilentTick) :
    (silentSeconds ticks < c.known.leaseTime / 2 + 45 → (silentAfter c ticks).isSome) ∧
      (c.known.leaseTime / 2 + 47 ≤ silentSeconds ticks → silentAfter c ticks = none) := by
  have hlosing : Losing c := .leased hstate hfinite hword (by omega)
  have hleft : secondsLeft c = c.known.leaseTime / 2 + 45 := by
    rw [secondsLeft, hstate]
    dsimp only
    rw [hfresh, Nat.sub_zero]
  have hlost : secondsLost c = 2 := if_neg (by rw [hstate]; exact DhcpState.noConfusion)
  rcases silent_account hlosing ticks with ⟨after, hafter, -, -, hhigh⟩ | ⟨hgone, hused⟩
  · have hcredit : 1 ≤ secondsLost after := by
      unfold secondsLost
      split_ifs <;> omega
    exact ⟨fun _ ↦ by rw [hafter]; rfl, fun hlate ↦ by omega⟩
  · exact ⟨fun hearly ↦ by omega, fun _ ↦ hgone⟩

/-! ### On the board -/

/-- The board from a given state on. -/
def boardFrom (build : Build) (b : EtherBoard) : Machine (Option EtherBoard) BoardCall where
  start := some b
  exec call before := before.bind (call.run build)

/-- The tick counts a second on. -/
def BoardTick.counts (tick : BoardTick) (b : EtherBoard) : Bool :=
  decide (elapsedMs tick.now b.sys.eth.dhcpMs ≥ 1000)

/-- The seconds that a call counts on. -/
def BoardCall.seconds (call : BoardCall) (b : EtherBoard) : ℕ :=
  match call with
  | .ether tick => (tick.counts b).toNat
  | .other _ _ => 0

/-- The seconds that a run counts on. -/
def boardSeconds (build : Build) (b : EtherBoard) : List BoardCall → ℕ
  | [] => 0
  | call :: past =>
    boardSeconds build b past + (((boardFrom build b).after past).map call.seconds).getD 0

/-- The newest call receives nothing, and if it is an Ethernet tick, no change of the settings waits
for it. -/
def silentCall (build : Build) (b : EtherBoard) : Past BoardCall
  | [] => True
  | call :: past => ∀ before, (boardFrom build b).after past = some before →
      ∀ tick, call = .ether tick → tick.rx = none ∧ before.sys.lcd.etherDirty = false

/-- Nothing is assigned on a silent net. -/
theorem silent_callback {input : DhcpRunIn} (hsilent : input.rx = none) {fuel : ℕ}
    {c : DhcpClient} {ran : DhcpRan} (hrun : dhcpRun input fuel c = some ran) :
    callbackEvents ran = [] ∧ ∀ net, netCalled ran net = { net with client := ran.client } := by
  have hdeaf := (silent_heard hsilent c).2
  have hnone : ran.callback = none := by
    cases dhcpRun_step hrun with
    | assigned _ htype | conflict _ htype | renewed _ htype =>
      rw [hdeaf] at htype
      cases htype
    | waited => exact checkTimeout_callback _
    | _ => rfl
  exact ⟨by rw [callbackEvents, hnone], fun net ↦ by rw [netCalled, hnone]⟩

/-- The board behind a silence: as the client alone, with the address of the chip until it gives
up, and without one from then on. -/
structure SilentBoard (b : EtherBoard) (ticks : List SilentTick) (b' : EtherBoard) : Prop where
  phase : b'.sys.eth.phase = .dhcpRun
  served : (∃ c, silentAfter b.net.client ticks = some c ∧ b'.net = { b.net with client := c } ∧
      b'.sys.eth.available = true) ∨
    (silentAfter b.net.client ticks = none ∧ b'.net.chip = none ∧
      b'.sys.eth.available = false)

/-- In DHCP_RUN an Ethernet tick on a silent net runs the client, and clears the chip if the client
has failed. -/
theorem silent_tick (build : Build) {before : EtherBoard} (hphase : before.sys.eth.phase = .dhcpRun)
    {tick : BoardTick} (hsilent : tick.rx = none) (hclean : before.sys.lcd.etherDirty = false) :
    ∃ (silent : SilentTick) (ran : DhcpRan) (b' : EtherBoard),
      silent.second = tick.counts before ∧ silent.run before.net.client = some ran ∧
        (BoardCall.ether tick).run build before = some b' ∧ b'.sys.eth.phase = .dhcpRun ∧
        ((ran.ret = .failed ∧ b'.net.chip = none ∧ b'.sys.eth.available = false) ∨
          (ran.ret ≠ .failed ∧ b'.net = { before.net with client := ran.client } ∧
            b'.sys.eth.available = before.sys.eth.available)) := by
  have htaken : ethTakeDirty before.sys = before.sys := by
    rw [ethTakeDirty, hclean, if_neg Bool.false_ne_true]
  have hnet : netTakeDirty before.sys before.net = before.net := by
    rw [netTakeDirty, hclean, if_neg Bool.false_ne_true]
  have hclient : tick.client before = if elapsedMs tick.now before.sys.eth.dhcpMs ≥ 1000 then
      dhcpTimeHandler before.net.client else before.net.client := by
    rw [BoardTick.client, htaken, hnet]
  let silent : SilentTick := ⟨tick.counts before,
    ⟨tick.rx, tick.arpAnswered, fun _ ↦ (tick.client before).tick1s⟩, tick.fuel, hsilent⟩
  have hcounted : silent.counted before.net.client = tick.client before := by
    rw [hclient]
    show (if decide (_ ≥ _) = true then _ else _) = _
    simp only [decide_eq_true_eq]
  obtain ⟨ran, hrun⟩ := silent_returns silent.silent tick.fuel (tick.client before)
  obtain ⟨hevents, hcalled⟩ := silent_callback silent.silent hrun
  have hticked : netTick tick before.sys before.net = some
      (if ran.ret = .failed then
        ⟨netDhcpInit (netCalled ran before.net), callbackEvents ran, true⟩
      else ⟨netCalled ran before.net, callbackEvents ran, false⟩) := by
    unfold netTick netDhcpRun
    rw [htaken, hnet]
    dsimp only
    rw [hphase]
    dsimp only
    rw [← hclient]
    exact congrArg (Option.map _) hrun
  have hsys (seen : EthTickIn) : appEthTick seen before.sys = ethDhcpRun seen before.sys := by
    unfold appEthTick
    rw [htaken]
    dsimp only
    rw [hphase]
  have hleft (seen : EthTickIn) : (appEthTick seen before.sys).eth.phase = .dhcpRun := by
    rw [hsys]
    exact (ethDhcpRun_phase seen before.sys).trans hphase
  refine ⟨silent, ran, _, rfl, (congrArg (dhcpRun silent.input tick.fuel) hcounted).trans hrun,
    congrArg (Option.map _) hticked, hleft _, ?_⟩
  by_cases hfailed : ran.ret = .failed
  · rw [if_pos hfailed]
    refine Or.inl ⟨hfailed, rfl, ?_⟩
    show (appEthTick _ before.sys).eth.available = false
    rw [hsys]
    unfold ethDhcpRun BoardTick.seen
    rw [if_pos rfl]
  · rw [if_neg hfailed, hevents, hcalled]
    refine Or.inr ⟨hfailed, rfl, ?_⟩
    show (appEthTick _ before.sys).eth.available = _
    rw [hsys]
    unfold ethDhcpRun BoardTick.seen
    dsimp only
    rw [if_neg Bool.false_ne_true]
    split_ifs <;> rfl

/-- The tick carries the silence on. -/
theorem SilentBoard.tick {b before b' : EtherBoard} {ticks : List SilentTick}
    (hbefore : SilentBoard b ticks before) {silent : SilentTick} {ran : DhcpRan}
    (hran : silent.run before.net.client = some ran) (hphase : b'.sys.eth.phase = .dhcpRun)
    (hticked : (ran.ret = .failed ∧ b'.net.chip = none ∧ b'.sys.eth.available = false) ∨
      (ran.ret ≠ .failed ∧ b'.net = { before.net with client := ran.client } ∧
        b'.sys.eth.available = before.sys.eth.available)) :
    SilentBoard b (silent :: ticks) b' := by
  refine ⟨hphase, ?_⟩
  rw [silentAfter]
  rcases hbefore.served with ⟨c, hafter, hboard, hopen⟩ | ⟨hgone, hnone, hclosed⟩
  · rw [hboard] at hran hticked
    rw [hafter, Option.bind_some, show silent.run c = some ran from hran, Option.bind_some]
    rcases hticked with ⟨hfailed, hchip, hclosed⟩ | ⟨hgoing, hnet, hsame⟩
    · exact Or.inr ⟨if_pos hfailed, hchip, hclosed⟩
    · exact Or.inl ⟨ran.client, if_neg hgoing, hnet, hsame.trans hopen⟩
  · rw [hgone]
    refine Or.inr ⟨rfl, ?_⟩
    rcases hticked with ⟨-, hchip, hshut⟩ | ⟨-, hnet, hsame⟩
    · exact ⟨hchip, hshut⟩
    · rw [hnet]
      exact ⟨hnone, hsame.trans hclosed⟩

/-- A silence on the board is one of the client, with the seconds that the ticks count on. -/
theorem board_silence (build : Build) {b : EtherBoard} (hphase : b.sys.eth.phase = .dhcpRun)
    (hopen : b.sys.eth.available = true) {history : List BoardCall}
    (hsilent : always (silentCall build b) history) :
    ∃ (ticks : List SilentTick) (b' : EtherBoard),
      silentSeconds ticks = boardSeconds build b history ∧
        (boardFrom build b).after history = some b' ∧ SilentBoard b ticks b' := by
  induction history with
  | nil => exact ⟨[], b, rfl, rfl, hphase, Or.inl ⟨b.net.client, rfl, rfl, hopen⟩⟩
  | cons call past ih =>
    obtain ⟨ticks, before, hseconds, hbefore, hboard⟩ := ih hsilent.2
    have hcount : boardSeconds build b (call :: past) =
        boardSeconds build b past + call.seconds before := by
      rw [boardSeconds, hbefore]
      rfl
    rw [Machine.after_cons, hbefore, hcount]
    cases call with
    | ether tick =>
      obtain ⟨hrx, hclean⟩ := hsilent.1 before hbefore tick rfl
      obtain ⟨silent, ran, b', hsecond, hran, hrun, hstays, hticked⟩ :=
        silent_tick build hboard.phase hrx hclean
      refine ⟨silent :: ticks, b', ?_, hrun, hboard.tick hran hstays hticked⟩
      rw [silentSeconds, List.countP_cons, ← hseconds]
      show _ + (if silent.second = true then 1 else 0) = _ + (tick.counts before).toNat
      rw [hsecond]
      cases tick.counts before <;> rfl
    | other call hkind =>
      have heth := exec_eth build hkind before.sys
      refine ⟨ticks, ⟨call.exec build before.sys, before.net⟩, hseconds, rfl, ?_, ?_⟩
      · show (call.exec build before.sys).eth.phase = _
        rw [heth]
        exact hboard.phase
      · dsimp only
        rw [heth]
        exact hboard.served

/-- Assumes: a board with a fresh lease that ends some time, and a run in which nothing is received
and no Ethernet tick finds the settings marked as changed. The server stays available, on its
address, for at least half the lease and 45 seconds, and 47 seconds behind half time it is not, and
the chip has no address. -/
theorem lease_given_up (build : Build) {b : EtherBoard} (hphase : b.sys.eth.phase = .dhcpRun)
    (hopen : b.sys.eth.available = true) (hstate : b.net.client.state = .leased)
    (hfresh : b.net.client.tick1s = 0) (hfinite : b.net.client.known.leaseTime ≠ infiniteLeaseTime)
    (hword : b.net.client.known.leaseTime < 2 ^ 32) {history : List BoardCall}
    (hsilent : always (silentCall build b) history) :
    ∃ b', (boardFrom build b).after history = some b' ∧
      (boardSeconds build b history < b.net.client.known.leaseTime / 2 + 45 →
        b'.sys.eth.available = true ∧ b'.net.chip = b.net.chip) ∧
      (b.net.client.known.leaseTime / 2 + 47 ≤ boardSeconds build b history →
        b'.sys.eth.available = false ∧ b'.net.chip = none) := by
  obtain ⟨ticks, b', hseconds, hafter, hboard⟩ := board_silence build hphase hopen hsilent
  obtain ⟨hkept, hlost⟩ := silence_given_up hstate hfresh hfinite hword ticks
  rw [hseconds] at hkept hlost
  refine ⟨b', hafter, fun hearly ↦ ?_, fun hlate ↦ ?_⟩
  · rcases hboard.served with ⟨c, -, hnet, havailable⟩ | ⟨hgone, -⟩
    · exact ⟨havailable, by rw [hnet]⟩
    · have hthere := hkept hearly
      rw [hgone] at hthere
      cases hthere
  · rcases hboard.served with ⟨c, hthere, -⟩ | ⟨-, hchip, hclosed⟩
    · rw [hlost hlate] at hthere
      cases hthere
    · exact ⟨hclosed, hchip⟩

/-- Ethernet ticks that receive nothing are a silence if no change waited for the first. -/
theorem silent_ticks (build : Build) {b : EtherBoard} (hclean : b.sys.lcd.etherDirty = false)
    {ticks : List BoardTick} (hsilent : ∀ tick ∈ ticks, tick.rx = none) :
    always (silentCall build b) (ticks.map .ether) := by
  have hkept : ∀ (ticks : List BoardTick) (after : EtherBoard),
      (boardFrom build b).after (ticks.map .ether) = some after →
        after.sys.lcd.etherDirty = false := by
    intro ticks after hafter
    cases ticks with
    | nil =>
      obtain rfl := Option.some.inj hafter
      exact hclean
    | cons tick past =>
      obtain ⟨before, -, hrun⟩ := Option.bind_eq_some_iff.mp hafter
      obtain ⟨ticked, -, rfl⟩ := Option.map_eq_some_iff.mp hrun
      exact congrArg LcdState.etherDirty (ethTick_desk (tick.seen ticked) before.sys).2.2.2
  induction ticks with
  | nil => trivial
  | cons tick past ih =>
    refine ⟨fun before hbefore other hother ↦ ?_,
      ih fun tick htick ↦ hsilent tick (List.mem_cons_of_mem _ htick)⟩
    obtain rfl := BoardCall.ether.inj hother
    exact ⟨hsilent _ List.mem_cons_self, hkept past before hbefore⟩

/-- An OFFER or ACK for the board, of 192.168.0.7 for ten seconds. -/
def shortLease (type : UInt8) : DhcpDatagram where
  svrAddr := ⟨192, 168, 0, 1⟩
  svrPort := 67
  length := 250
  buf pos :=
    ([(16, 192), (17, 168), (19, 7), (29, 0x08), (30, 0xDC), (31, 0x78), (32, 0x91), (33, 0x71),
      (240, 53), (241, 1), (242, type), (243, 51), (244, 4), (248, 10),
      (249, 255)].lookup pos).getD 0

/-- The link comes up in DHCP mode, and the client is given its lease. -/
def shortLeased : List BoardCall :=
  [.ether ⟨140, true, some (shortLease 5), false, 0⟩,
    .ether ⟨130, true, some (shortLease 2), false, 0⟩,
    .ether ⟨120, true, none, false, 0⟩, .ether ⟨110, true, none, false, 0⟩]

/-- Ethernet ticks that receive nothing, a second apart. -/
def silentTicks (count : ℕ) : List BoardTick :=
  (List.range count).reverse.map fun index ↦ ⟨1000 * index + 1140, true, none, false, 0⟩

/-- The lease of ten seconds is kept for 49 seconds of silence, and given up behind 52. -/
theorem lease_given_up_ten :
    ∃ b, (etherBoard stdBuild leaseBoot).after shortLeased = some b ∧
      (∃ b', (boardFrom stdBuild b).after ((silentTicks 49).map .ether) = some b' ∧
        b'.sys.eth.available = true) ∧
      ∃ b', (boardFrom stdBuild b).after ((silentTicks 52).map .ether) = some b' ∧
        b'.sys.eth.available = false := by
  have hstart : ((etherBoard stdBuild leaseBoot).after shortLeased).map (fun b ↦
      ((b.sys.eth.phase, b.sys.eth.available, b.sys.lcd.etherDirty),
        (b.net.client.state, b.net.client.tick1s, b.net.client.known.leaseTime),
        boardSeconds stdBuild b ((silentTicks 49).map .ether),
        boardSeconds stdBuild b ((silentTicks 52).map .ether))) =
      some ((.dhcpRun, true, false), (.leased, 0, 10), 49, 52) := by decide +kernel
  obtain ⟨b, hafter, hstate⟩ := Option.map_eq_some_iff.mp hstart
  simp only [Prod.mk.injEq] at hstate
  obtain ⟨⟨hphase, hopen, hclean⟩, ⟨hleased, hfresh, htime⟩, hkept, hlost⟩ := hstate
  have hsilent (count : ℕ) : always (silentCall stdBuild b) ((silentTicks count).map .ether) := by
    refine silent_ticks stdBuild hclean fun tick htick ↦ ?_
    obtain ⟨index, -, rfl⟩ := List.mem_map.mp htick
    rfl
  have hgiven (count : ℕ) := lease_given_up stdBuild hphase hopen hleased hfresh
    (htime.trans_ne (by decide)) (htime.trans_lt (by decide)) (hsilent count)
  obtain ⟨b', hthere, hstill, -⟩ := hgiven 49
  obtain ⟨b'', hgone, -, hclosed⟩ := hgiven 52
  rw [htime] at hstill hclosed
  exact ⟨b, hafter, ⟨b', hthere, (hstill (hkept.trans_lt (by decide))).1⟩, b'', hgone,
    (hclosed ((show 10 / 2 + 47 ≤ 52 by decide).trans hlost.ge)).1⟩

end UsCtrl
