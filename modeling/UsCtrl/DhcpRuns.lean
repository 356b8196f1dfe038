import UsCtrl.DhcpMessages
import UsCtrl.Foundation.History

/-!
# The DHCP client in a run

`DhcpStep` names everything that a call of `DHCP_run` can do (`dhcpRun_step`), and
`dhcpRun_returns_iff` says when the call returns at all: not behind an ACK for an address whose
probe does not time out, unless the seconds go on meanwhile.

The rest is about runs, whatever the order of the calls and whatever the network sends. The address
of the client is the one of the latest OFFER it has taken, from REQUEST on until it gives the lease
up (`offer_bound`). It follows that a renewal never changes the address, so that `ip_update` is
never called (`lease_traced`).
-/

set_option autoImplicit false
set_option relaxedAutoImplicit false

namespace UsCtrl

open Foundation

/-! ### One call -/

/-- The client behind the reception. -/
def heard (input : DhcpRunIn) (c : DhcpClient) : DhcpClient :=
  { c with known := (parseDhcpMsg input.rx c).toDhcpKnown }

/-- The type of the message received, 0 if there is none. -/
def heardType (input : DhcpRunIn) (c : DhcpClient) : ℕ := (parseDhcpMsg input.rx c).type

/-- The states that wait for a message and ask again. -/
def DhcpState.waits : DhcpState → Bool
  | .discover | .request | .rerequest => true
  | _ => false

/-- What a call of `DHCP_run` does. -/
inductive DhcpStep (input : DhcpRunIn) (c : DhcpClient) : DhcpRan → Prop
  | stopped (hstate : c.state = .stop) : DhcpStep input c ⟨c, .stopped, none, []⟩
  | begun (hstate : c.state = .init) :
    DhcpStep input c
      ⟨{ (sendDhcpDiscover { heard input c with ip := .zero }).1 with state := .discover },
        .running, none, [(sendDhcpDiscover { heard input c with ip := .zero }).2]⟩
  | offered (hstate : c.state = .discover) {rx : DhcpDatagram} (hrx : input.rx = some rx)
    (htype : heardType input c = 2) :
    DhcpStep input c ⟨{ heard input c with ip := rx.yiaddr, state := .request }, .running, none,
      [sendDhcpRequest { heard input c with ip := rx.yiaddr }]⟩
  | assigned (hstate : c.state = .request) (htype : heardType input c = 5)
    (hfree : input.leasedIpFree c.ip = true) :
    DhcpStep input c ⟨{ resetDhcpTimeout (heard input c) with state := .leased }, .running,
      some .ipAssign, []⟩
  | conflict (hstate : c.state = .request) (htype : heardType input c = 5)
    (hused : input.leasedIpFree c.ip = false)
    (hsecs : ∃ read, 2 ≤ (input.seconds read + 2 ^ 32 - c.tick1s) % 2 ^ 32) :
    DhcpStep input c ⟨{ resetDhcpTimeout (heard input c) with state := .init }, .running,
      some .ipConflict, [sendDhcpDecline (heard input c)]⟩
  | refused (hstate : c.state = .request) (htype : heardType input c = 6) :
    DhcpStep input c ⟨{ resetDhcpTimeout (heard input c) with state := .discover }, .running, none,
      []⟩
  | renewing (hstate : c.state = .leased) (hfinite : (heard input c).known.leaseTime ≠
      infiniteLeaseTime) (hdue : (heard input c).known.leaseTime / 2 < c.tick1s) :
    DhcpStep input c
      ⟨{ resetDhcpTimeout { heard input c with oldIp := c.ip, xid := (c.xid + 1) % 2 ^ 32 } with
          state := .rerequest }, .ipLeased, none,
        [sendDhcpRequest { heard input c with oldIp := c.ip, xid := (c.xid + 1) % 2 ^ 32 }]⟩
  | held (hstate : c.state = .leased) (hearly : (heard input c).known.leaseTime =
      infiniteLeaseTime ∨ c.tick1s ≤ (heard input c).known.leaseTime / 2) :
    DhcpStep input c ⟨heard input c, .ipLeased, none, []⟩
  | renewed (hstate : c.state = .rerequest) (htype : heardType input c = 5) :
    DhcpStep input c ⟨{ resetDhcpTimeout (heard input c) with state := .leased },
      if c.oldIp ≠ c.ip then .ipChanged else .ipLeased,
      if c.oldIp ≠ c.ip then some .ipUpdate else none, []⟩
  | withdrawn (hstate : c.state = .rerequest) (htype : heardType input c = 6) :
    DhcpStep input c ⟨{ resetDhcpTimeout (heard input c) with state := .discover }, .ipLeased,
      none, []⟩
  | waited (hstate : c.state.waits = true) (htype : heardType input c ≠ 5 ∨ c.state = .discover) :
    DhcpStep input c (checkDhcpTimeout (heard input c))
  | released (hstate : c.state = .release) : DhcpStep input c ⟨heard input c, .running, none, []⟩

/-- A message with a type is a datagram. -/
theorem rx_of_type {input : DhcpRunIn} {c : DhcpClient} (htype : heardType input c ≠ 0) :
    ∃ rx, input.rx = some rx ∧ rx.accepted c = true := by
  unfold heardType at htype
  cases hrx : input.rx with
  | none =>
    rw [hrx] at htype
    exact absurd rfl htype
  | some rx =>
    refine ⟨rx, rfl, ?_⟩
    by_contra hnot
    rw [hrx, parseDhcpMsg, if_neg hnot] at htype
    exact htype rfl

/-- The wait ends if a read finds the counter two further on. -/
theorem declineWait_ends {seconds : ℕ → ℕ} {start fuel read : ℕ}
    (hended : (dhcpDeclineWait seconds start fuel read).isSome) :
    ∃ read, 2 ≤ (seconds read + 2 ^ 32 - start) % 2 ^ 32 := by
  by_contra hnone
  have hshort (read : ℕ) : (seconds read + 2 ^ 32 - start) % 2 ^ 32 < 2 :=
    not_le.mp fun h ↦ hnone ⟨read, h⟩
  have hloops (fuel read : ℕ) : dhcpDeclineWait seconds start fuel read = none := by
    induction fuel generalizing read with
    | zero => rfl
    | succ fuel ih =>
      rw [dhcpDeclineWait, fuelLoop, if_pos (hshort read)]
      exact ih (read + 1)
  rw [hloops] at hended
  cases hended

theorem dhcpRun_step {input : DhcpRunIn} {fuel : ℕ} {c : DhcpClient} {ran : DhcpRan}
    (hrun : dhcpRun input fuel c = some ran) : DhcpStep input c ran := by
  unfold dhcpRun at hrun
  by_cases hstop : c.state = .stop
  · rw [if_pos hstop] at hrun
    cases hrun
    exact .stopped hstop
  · rw [if_neg hstop] at hrun
    change dhcpSwitch input (heardType input c) fuel (heard input c) = some ran at hrun
    unfold dhcpSwitch at hrun
    split at hrun
    next hstate =>
      obtain rfl := Option.some.inj hrun
      exact .begun hstate
    next hstate =>
      split_ifs at hrun with htype
      · obtain ⟨rx, hrx, -⟩ := rx_of_type (show heardType input c ≠ 0 by rw [htype]; decide)
        rw [hrx] at hrun
        obtain rfl := Option.some.inj hrun
        exact .offered (show c.state = .discover from hstate) hrx htype
      · obtain rfl := Option.some.inj hrun
        exact .waited (congrArg DhcpState.waits hstate) (Or.inr hstate)
    next hstate =>
      split_ifs at hrun with hack hnak
      · unfold dhcpAcked at hrun
        split_ifs at hrun with hfree
        · obtain rfl := Option.some.inj hrun
          exact .assigned hstate hack hfree
        · obtain ⟨_, hwait, rfl⟩ := Option.map_eq_some_iff.mp hrun
          exact .conflict hstate hack (Bool.eq_false_iff.mpr hfree)
            (declineWait_ends (Option.isSome_of_eq_some hwait))
      · obtain rfl := Option.some.inj hrun
        exact .refused hstate hnak
      · obtain rfl := Option.some.inj hrun
        exact .waited (congrArg DhcpState.waits hstate) (Or.inl hack)
    next hstate =>
      split_ifs at hrun with hdue
      · obtain rfl := Option.some.inj hrun
        exact .renewing hstate hdue.1 hdue.2
      · obtain rfl := Option.some.inj hrun
        refine .held hstate ?_
        by_contra hnot
        rw [not_or, not_le] at hnot
        exact hdue hnot
    next hstate =>
      by_cases hack : heardType input c = 5
      · rw [if_pos hack] at hrun
        obtain rfl := Option.some.inj hrun
        exact .renewed hstate hack
      · rw [if_neg hack] at hrun
        split_ifs at hrun with hnak
        · obtain rfl := Option.some.inj hrun
          exact .withdrawn hstate hnak
        · obtain rfl := Option.some.inj hrun
          exact .waited (congrArg DhcpState.waits hstate) (Or.inl hack)
    next hstate =>
      obtain rfl := Option.some.inj hrun
      exact .released hstate
    next hstate => exact absurd hstate hstop

/-! ### When a call returns -/

/-- The client gets its ACK, and the probe of the address does not time out. -/
structure Conflicts (input : DhcpRunIn) (c : DhcpClient) : Prop where
  state : c.state = .request
  acked : heardType input c = 5
  used : input.leasedIpFree c.ip = false

/-- The counter has gone on by two at some read of the wait behind a DECLINE. -/
def SecondsGoOn (input : DhcpRunIn) (c : DhcpClient) : Prop :=
  ∃ read, 2 ≤ (input.seconds read + 2 ^ 32 - c.tick1s) % 2 ^ 32

theorem declineWait_returns {seconds : ℕ → ℕ} {start : ℕ} (ahead read : ℕ)
    (hsecs : 2 ≤ (seconds (read + ahead) + 2 ^ 32 - start) % 2 ^ 32) :
    Returns (dhcpDeclineWait seconds start) read () := by
  induction ahead generalizing read with
  | zero =>
    rw [Nat.add_zero] at hsecs
    exact Returns.stop (.pure fun _ ↦ by rw [if_neg (by omega)])
  | succ ahead ih =>
    by_cases hended : 2 ≤ (seconds read + 2 ^ 32 - start) % 2 ^ 32
    · exact Returns.stop (.pure fun _ ↦ by rw [if_neg (by omega)])
    · refine Returns.next (.pure fun _ ↦ by rw [if_pos (by omega)]) (ih (read + 1) ?_)
      rwa [show read + 1 + ahead = read + (ahead + 1) by omega]

/-- Without a conflict no fuel is needed. -/
theorem dhcpRun_prompt {input : DhcpRunIn} {c : DhcpClient} (hfree : ¬ Conflicts input c) :
    ∃ ran, ∀ fuel, dhcpRun input fuel c = some ran := by
  unfold dhcpRun
  by_cases hstop : c.state = .stop
  · exact ⟨_, fun _ ↦ if_pos hstop⟩
  · simp only [if_neg hstop]
    show ∃ ran, ∀ fuel, dhcpSwitch input (heardType input c) fuel (heard input c) = some ran
    unfold dhcpSwitch
    split
    next => exact ⟨_, fun _ ↦ rfl⟩
    next => split_ifs <;> exact ⟨_, fun _ ↦ rfl⟩
    next hstate =>
      split_ifs with hack
      · have hunused : input.leasedIpFree c.ip = true :=
          Bool.not_eq_false _ ▸ fun hused ↦ hfree ⟨hstate, hack, hused⟩
        exact ⟨_, fun _ ↦ if_pos hunused⟩
      · exact ⟨_, fun _ ↦ rfl⟩
      · exact ⟨_, fun _ ↦ rfl⟩
    next => split_ifs <;> exact ⟨_, fun _ ↦ rfl⟩
    next => split_ifs <;> exact ⟨_, fun _ ↦ rfl⟩
    next => exact ⟨_, fun _ ↦ rfl⟩
    next => exact ⟨_, fun _ ↦ rfl⟩

/-- Behind a conflict a call returns only if the seconds go on. -/
theorem conflict_waits {input : DhcpRunIn} {fuel : ℕ} {c : DhcpClient} {ran : DhcpRan}
    (hrun : dhcpRun input fuel c = some ran) (hconflict : Conflicts input c) :
    SecondsGoOn input c := by
  obtain ⟨hstate, hack, hused⟩ := hconflict
  cases dhcpRun_step hrun with
  | conflict _ _ _ hsecs => exact hsecs
  | assigned _ _ hfree =>
    rw [hused] at hfree
    cases hfree
  | waited _ htype =>
    rcases htype with htype | hother
    · exact absurd hack htype
    · rw [hstate] at hother
      cases hother
  | refused _ hnak =>
    rw [hack] at hnak
    cases hnak
  | stopped hother | begun hother | offered hother | renewing hother | held hother
  | renewed hother | withdrawn hother | released hother =>
    rw [hstate] at hother
    cases hother

/-- A call of `DHCP_run` returns, except behind an ACK for an address whose probe does not time out:
then only if the seconds go on while it waits. -/
theorem dhcpRun_returns_iff (input : DhcpRunIn) (c : DhcpClient) :
    (∃ ran, Returns (dhcpRun input) c ran) ↔ (Conflicts input c → SecondsGoOn input c) := by
  constructor
  · rintro ⟨ran, enough, hrun⟩ hconflict
    exact conflict_waits (hrun enough le_rfl) hconflict
  · intro hgoes
    by_cases hconflict : Conflicts input c
    · obtain ⟨hstate, hack, hused⟩ := hconflict
      obtain ⟨read, hsecs⟩ := hgoes ⟨hstate, hack, hused⟩
      obtain ⟨enough, hwait⟩ :=
        declineWait_returns read 0 (by rw [Nat.zero_add]; exact hsecs)
      refine ⟨⟨{ resetDhcpTimeout (heard input c) with state := .init }, .running,
        some .ipConflict, [sendDhcpDecline (heard input c)]⟩, enough, fun fuel hfuel ↦ ?_⟩
      have hnot : c.state ≠ .stop := by
        rw [hstate]
        exact DhcpState.noConfusion
      unfold dhcpRun
      rw [if_neg hnot]
      show dhcpSwitch input (heardType input c) fuel (heard input c) = _
      have hswitch : dhcpSwitch input (heardType input c) fuel (heard input c) =
          dhcpAcked input fuel (heard input c) := by
        unfold dhcpSwitch
        rw [show (heard input c).state = .request from hstate]
        exact if_pos hack
      have hnotFree : ¬ input.leasedIpFree (heard input c).ip = true := Bool.eq_false_iff.mp hused
      rw [hswitch, dhcpAcked, if_neg hnotFree]
      exact congrArg (Option.map _) (hwait fuel hfuel)
    · obtain ⟨ran, hrun⟩ := dhcpRun_prompt hconflict
      exact ⟨ran, .pure hrun⟩

theorem checkTimeout_callback (c : DhcpClient) : (checkDhcpTimeout c).callback = none := by
  unfold checkDhcpTimeout
  split_ifs
  · rfl
  · rfl
  · split <;> rfl

/-- A conflict is reported only behind a wait that has ended. -/
theorem conflict_reported {input : DhcpRunIn} {fuel : ℕ} {c : DhcpClient} {ran : DhcpRan}
    (hrun : dhcpRun input fuel c = some ran) (hcallback : ran.callback = some .ipConflict) :
    SecondsGoOn input c := by
  cases dhcpRun_step hrun with
  | conflict _ _ _ hsecs => exact hsecs
  | renewed =>
    dsimp only at hcallback
    split_ifs at hcallback
    cases hcallback
  | waited =>
    rw [checkTimeout_callback] at hcallback
    cases hcallback
  | _ => cases hcallback

/-! ### Runs -/

/-- The calls of the client. -/
inductive DhcpCall
  | init (shar : Mac)
  | stop
  | second
  | run (input : DhcpRunIn) (fuel : ℕ)

def DhcpCall.exec (call : DhcpCall) (before : Option DhcpClient) : Option DhcpClient :=
  match call with
  | .init shar => before.map (dhcpInit shar)
  | .stop => before.map dhcpStop
  | .second => before.map dhcpTimeHandler
  | .run input fuel => before.bind fun c ↦ (dhcpRun input fuel c).map DhcpRan.client

/-- The client from power-up on, as long as its calls return. -/
def dhcpMachine : Machine (Option DhcpClient) DhcpCall := ⟨some dhcpReset, DhcpCall.exec⟩

/-- The states behind an OFFER. -/
def DhcpState.bound : DhcpState → Bool
  | .request | .leased | .rerequest => true
  | _ => false

/-- A fact of the newest call and the client it found. -/
def newestFinds (fact : DhcpCall → DhcpClient → Prop) : Past DhcpCall
  | [] => False
  | call :: past => ∃ c, dhcpMachine.after past = some c ∧ fact call c

/-- The newest call took an OFFER of the address. -/
def offerTaken (ip : Octets) : Past DhcpCall :=
  newestFinds fun call c ↦ ∃ input fuel rx, call = .run input fuel ∧ c.state = .discover ∧
    heardType input c = 2 ∧ input.rx = some rx ∧ rx.accepted c = true ∧ rx.yiaddr = ip

/-- The newest call found the client behind an OFFER. -/
def stillBound : Past DhcpCall := newestFinds fun _ c ↦ c.state.bound = true

/-- A wait that does not give the lease up leaves state and addresses. -/
theorem checkTimeout_bound {c : DhcpClient}
    (hbound : (checkDhcpTimeout c).client.state.bound = true) :
    (checkDhcpTimeout c).client.state = c.state ∧ (checkDhcpTimeout c).client.ip = c.ip ∧
      (checkDhcpTimeout c).client.oldIp = c.oldIp := by
  have hresend : (dhcpResend c).1.state = c.state ∧ (dhcpResend c).1.ip = c.ip ∧
      (dhcpResend c).1.oldIp = c.oldIp := by
    unfold dhcpResend
    split <;> exact ⟨rfl, rfl, rfl⟩
  unfold checkDhcpTimeout at hbound ⊢
  by_cases hretry : c.retryCount < maxDhcpRetry
  · simp only [if_pos hretry]
    split_ifs
    · exact hresend
    · exact ⟨rfl, rfl, rfl⟩
  · simp only [if_neg hretry] at hbound ⊢
    split at hbound
    next => cases hbound
    next => cases hbound
    next => cases hbound
    next => exact ⟨rfl, rfl, rfl⟩

/-- One call, seen from the state it leaves. -/
theorem exec_bound {call : DhcpCall} {before : DhcpClient} {c : DhcpClient}
    (hexec : call.exec (some before) = some c) (hbound : c.state.bound = true) :
    (∃ input fuel rx, call = .run input fuel ∧ before.state = .discover ∧
        heardType input before = 2 ∧ input.rx = some rx ∧ rx.yiaddr = c.ip ∧
        c.state = .request) ∨
      (before.state.bound = true ∧ c.ip = before.ip ∧
        (c.state = .rerequest → c.oldIp = c.ip ∨
          (before.state = .rerequest ∧ c.oldIp = before.oldIp))) := by
  cases call with
  | init shar =>
    obtain rfl := Option.some.inj hexec
    cases hbound
  | stop =>
    obtain rfl := Option.some.inj hexec
    cases hbound
  | second =>
    obtain rfl := Option.some.inj hexec
    exact Or.inr ⟨hbound, rfl, fun hstate ↦ Or.inr ⟨hstate, rfl⟩⟩
  | run input fuel =>
    obtain ⟨ran, hrun, rfl⟩ := Option.map_eq_some_iff.mp hexec
    have hother {state : DhcpState} (hstate : before.state = state) (hin : state.bound = true) :
        before.state.bound = true := by rw [hstate, hin]
    cases dhcpRun_step hrun with
    | stopped hstate =>
      rw [hstate] at hbound
      cases hbound
    | released hstate =>
      rw [show (heard input before).state = .release from hstate] at hbound
      cases hbound
    | begun | conflict | refused | withdrawn => cases hbound
    | offered hstate hrx htype => exact Or.inl ⟨input, fuel, _, rfl, hstate, htype, hrx, rfl, rfl⟩
    | assigned hstate => exact Or.inr ⟨hother hstate rfl, rfl, by rintro ⟨⟩⟩
    | renewing hstate => exact Or.inr ⟨hother hstate rfl, rfl, fun _ ↦ Or.inl rfl⟩
    | held hstate => exact Or.inr ⟨hother hstate rfl, rfl, fun h ↦ Or.inr ⟨h, rfl⟩⟩
    | renewed hstate => exact Or.inr ⟨hother hstate rfl, rfl, by rintro ⟨⟩⟩
    | waited =>
      obtain ⟨hstate, hip, hold⟩ := checkTimeout_bound hbound
      refine Or.inr ⟨?_, hip, fun h ↦ Or.inr ⟨hstate.symm.trans h, hold⟩⟩
      rw [hstate] at hbound
      exact hbound

/-- From REQUEST on, the client has the address of the latest OFFER it took, and nothing but calls
in these states lies between; while it renews, the old address is the address. -/
theorem offer_bound {history : List DhcpCall} {c : DhcpClient}
    (hafter : dhcpMachine.after history = some c) (hbound : c.state.bound = true) :
    since stillBound (offerTaken c.ip) history ∧ (c.state = .rerequest → c.oldIp = c.ip) := by
  induction history generalizing c with
  | nil =>
    obtain rfl := Option.some.inj hafter
    cases hbound
  | cons call past ih =>
    rw [Machine.after_cons] at hafter
    cases hbefore : dhcpMachine.after past with
    | none =>
      rw [hbefore] at hafter
      cases call <;> cases hafter
    | some before =>
      rw [hbefore] at hafter
      rcases exec_bound hafter hbound with
        ⟨input, fuel, rx, hcall, hstate, htype, hrx, hip, hrequest⟩ | ⟨hwas, hip, hold⟩
      · obtain ⟨heard, hheard, haccepted⟩ := rx_of_type (show heardType input before ≠ 0 by
          rw [htype]; decide)
        rw [hrx] at hheard
        obtain rfl := Option.some.inj hheard
        refine ⟨Or.inl ⟨before, hbefore, input, fuel, rx, hcall, hstate, htype, hrx, haccepted,
          hip⟩, fun h ↦ ?_⟩
        rw [hrequest] at h
        cases h
      · obtain ⟨hsince, hsame⟩ := ih hbefore hwas
        rw [hip]
        refine ⟨Or.inr ⟨⟨before, hbefore, hwas⟩, hsince⟩, fun h ↦ ?_⟩
        rcases hold h with hnow | ⟨hstate, hnow⟩
        · exact hnow.trans hip
        · exact hnow.trans (hsame hstate)

/-- Assumes: a call of `DHCP_run` after any run of the client. It never reports a changed address. A
lease it assigns answers an accepted ACK, nobody answers for the address, and this is the one of the
latest OFFER taken, from which on the client has been behind an OFFER. -/
theorem lease_traced {history : List DhcpCall} {c : DhcpClient}
    (hafter : dhcpMachine.after history = some c) {input : DhcpRunIn} {fuel : ℕ} {ran : DhcpRan}
    (hrun : dhcpRun input fuel c = some ran) :
    (ran.ret ≠ .ipChanged ∧ ran.callback ≠ some .ipUpdate) ∧
      (ran.callback = some .ipAssign →
        (∃ rx, input.rx = some rx ∧ rx.accepted c = true ∧ heardType input c = 5) ∧
          input.arpAnswered = false ∧ since stillBound (offerTaken ran.client.ip) history) := by
  have hwaited : (checkDhcpTimeout (heard input c)).ret ≠ .ipChanged := by
    unfold checkDhcpTimeout
    split_ifs
    · exact DhcpRet.noConfusion
    · exact DhcpRet.noConfusion
    · split <;> exact DhcpRet.noConfusion
  cases dhcpRun_step hrun with
  | assigned hstate htype hfree =>
    have hquiet : input.arpAnswered = false := by simpa using (Bool.and_eq_true_iff.mp hfree).2
    refine ⟨⟨DhcpRet.noConfusion, by rintro ⟨⟩⟩, fun _ ↦ ⟨?_, hquiet, ?_⟩⟩
    · obtain ⟨rx, hrx, haccepted⟩ := rx_of_type (show heardType input c ≠ 0 by rw [htype]; decide)
      exact ⟨rx, hrx, haccepted, htype⟩
    · exact (offer_bound hafter (show c.state.bound = true by rw [hstate]; rfl)).1
  | renewed hstate =>
    have hsame := (offer_bound hafter (show c.state.bound = true by rw [hstate]; rfl)).2 hstate
    rw [if_neg (not_not.mpr hsame), if_neg (not_not.mpr hsame)]
    exact ⟨⟨DhcpRet.noConfusion, by rintro ⟨⟩⟩, by rintro ⟨⟩⟩
  | waited =>
    rw [checkTimeout_callback]
    exact ⟨⟨hwaited, by rintro ⟨⟩⟩, by rintro ⟨⟩⟩
  | _ => exact ⟨⟨DhcpRet.noConfusion, by rintro ⟨⟩⟩, by rintro ⟨⟩⟩

/-- A reply for a host, with a type and the last octet of an address. -/
def dhcpReply (host : Mac) (type lastOctet : UInt8) : DhcpDatagram where
  svrAddr := ⟨192, 168, 0, 1⟩
  svrPort := 67
  length := 244
  buf pos :=
    if h : 28 ≤ pos ∧ pos < 34 then host ⟨pos - 28, by omega⟩
    else ([(16, 192), (17, 168), (19, lastOctet), (240, 53), (241, 1), (242, type),
      (243, 255)].lookup pos).getD 0

/-- A call that finds a datagram on a quiet net. -/
def dhcpHears (rx : Option DhcpDatagram) : DhcpRunIn := ⟨rx, false, fun _ ↦ 0⟩

/-- DISCOVER, and an OFFER of 192.168.0.7. -/
def offeredRun : List DhcpCall :=
  [.run (dhcpHears (some (dhcpReply dhcpReset.chaddr 2 7))) 0, .second, .run (dhcpHears none) 0]

/-- The ACK assigns 192.168.0.7. -/
theorem lease_traced_seven :
    ∃ ran : DhcpRan, ran.client.ip = ⟨192, 168, 0, 7⟩ ∧
      (ran.ret ≠ .ipChanged ∧ ran.callback ≠ some .ipUpdate) ∧
      since stillBound (offerTaken ran.client.ip) offeredRun := by
  have hassigned : ((dhcpMachine.after offeredRun).bind fun c ↦
      (dhcpRun (dhcpHears (some (dhcpReply dhcpReset.chaddr 5 7))) 0 c).map fun ran ↦
        (ran.callback, ran.client.ip)) = some (some .ipAssign, ⟨192, 168, 0, 7⟩) := by
    decide +kernel
  obtain ⟨c, hafter, hran⟩ := Option.bind_eq_some_iff.mp hassigned
  obtain ⟨ran, hrun, hout⟩ := Option.map_eq_some_iff.mp hran
  obtain ⟨hcallback, hip⟩ := Prod.mk.inj hout
  have htraced := lease_traced hafter hrun
  exact ⟨ran, hip, htraced.1, (htraced.2 hcallback).2.2⟩

/-! ### What a call sends -/

theorem checkTimeout_sent (c : DhcpClient) :
    ∀ message ∈ (checkDhcpTimeout c).sent, ClientMessage c message := by
  have hresend : ∀ message ∈ (dhcpResend c).2, ClientMessage c message := by
    intro message hmessage
    unfold dhcpResend at hmessage
    split at hmessage
    next => rw [List.mem_singleton.mp hmessage]; exact .discover
    next => rw [List.mem_singleton.mp hmessage]; exact .request
    next => rw [List.mem_singleton.mp hmessage]; exact .request
    next => cases hmessage
  intro message hmessage
  unfold checkDhcpTimeout at hmessage
  split_ifs at hmessage
  · exact hresend message hmessage
  · cases hmessage
  · split at hmessage
    next => cases hmessage
    next => rw [List.mem_singleton.mp hmessage]; exact .discover
    next => rw [List.mem_singleton.mp hmessage]; exact .discover
    next => cases hmessage

theorem dhcpRun_sent {input : DhcpRunIn} {fuel : ℕ} {c : DhcpClient} {ran : DhcpRan}
    (hrun : dhcpRun input fuel c = some ran) :
    ∀ message ∈ ran.sent, ∃ sender, ClientMessage sender message := by
  intro message hmessage
  cases dhcpRun_step hrun with
  | begun => exact ⟨_, by rw [List.mem_singleton.mp hmessage]; exact .discover⟩
  | offered | renewing => exact ⟨_, by rw [List.mem_singleton.mp hmessage]; exact .request⟩
  | conflict => exact ⟨_, by rw [List.mem_singleton.mp hmessage]; exact .decline⟩
  | waited => exact ⟨_, checkTimeout_sent _ message hmessage⟩
  | _ => cases hmessage

/-- Assumes: a message that `DHCP_run` sends, in whatever state. It is 548 bytes long, and a
receiver that walks its options as the client does reads them as they were meant. -/
theorem sent_read {input : DhcpRunIn} {fuel : ℕ} {c : DhcpClient} {ran : DhcpRan}
    (hrun : dhcpRun input fuel c = some ran) {message : DhcpMessage} (hsent : message ∈ ran.sent) :
    message.bytes.length = 548 ∧
      ∀ rx : DhcpDatagram, Carries rx 0 message.bytes → rx.length = message.bytes.length →
        ∀ read, dhcpWalk rx rx.length dhcpOptStart read =
          itemsTell rx.svrAddr message.items read := by
  obtain ⟨sender, hmessage⟩ := dhcpRun_sent hrun message hsent
  obtain ⟨hsize, hread⟩ := clientMessage_read hmessage
  exact ⟨hsize, fun rx hcarries hlength read ↦ hread rx rx.length read hcarries hlength le_rfl⟩

/-- The first message after power-up is a DISCOVER of 548 bytes. -/
theorem sent_read_first :
    ∃ message : DhcpMessage, message.bytes.length = 548 ∧ message.dest = .broadcast := by
  have hsent : ((dhcpRun (dhcpHears none) 0 dhcpReset).bind fun ran ↦
      ran.sent.head?).isSome = true := rfl
  obtain ⟨message, hmessage⟩ := Option.isSome_iff_exists.mp hsent
  obtain ⟨ran, hrun, hhead⟩ := Option.bind_eq_some_iff.mp hmessage
  have hdest : ((dhcpRun (dhcpHears none) 0 dhcpReset).bind fun ran ↦
      ran.sent.head?).map DhcpMessage.dest = some .broadcast := rfl
  rw [hmessage] at hdest
  exact ⟨message, (sent_read hrun (List.mem_of_head? hhead)).1, Option.some.inj hdest⟩

end UsCtrl
