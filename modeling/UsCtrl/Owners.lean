import UsCtrl.RegSpecs

/-!
# Every part of the run gate has one owner

What a call of the superloop can do to the parts of the run gate that belong to another call
(`CallFrame`, `exec_frame`): the SEEK/RESET chain moves only in its own tick, the overload level
only in the overload tick, the published owner only in the regulation tick, and so on; whoever
starts a run finds the gate open. Statements about runs are invariants proved call by call from this
one theorem, together with the specification of the owner concerned.
-/

set_option autoImplicit false
set_option relaxedAutoImplicit false

namespace UsCtrl

/-! ### Kinds of calls -/

/-- The calls of the superloop without their inputs. -/
inductive CallKind
  | frame | lcd | weld | overload | input | horn | seekReset | reg | eth | modbus | alarm | buzzer
  deriving DecidableEq, Repr

def Call.kind : Call → CallKind
  | .frame _ => .frame
  | .lcdTick => .lcd
  | .weldTick _ => .weld
  | .overloadTick _ => .overload
  | .inputTick _ => .input
  | .hornTick _ => .horn
  | .seekResetTick _ => .seekReset
  | .regTick _ => .reg
  | .ethTick _ => .eth
  | .modbusTick _ => .modbus
  | .faultAlarmTick _ => .alarm
  | .buzzerTick _ => .buzzer

theorem Call.weldTick_or (call : Call) :
    (∃ tick, call = .weldTick tick) ∨ call.kind ≠ .weld := by
  cases call <;> first | exact Or.inl ⟨_, rfl⟩ | exact Or.inr (by rintro ⟨⟩)

theorem Call.inputTick_or (call : Call) :
    (∃ tick, call = .inputTick tick) ∨ call.kind ≠ .input := by
  cases call <;> first | exact Or.inl ⟨_, rfl⟩ | exact Or.inr (by rintro ⟨⟩)

theorem Call.overloadTick_or (call : Call) :
    (∃ tick, call = .overloadTick tick) ∨ call.kind ≠ .overload := by
  cases call <;> first | exact Or.inl ⟨_, rfl⟩ | exact Or.inr (by rintro ⟨⟩)

theorem Call.regTick_or (call : Call) : (∃ tick, call = .regTick tick) ∨ call.kind ≠ .reg := by
  cases call <;> first | exact Or.inl ⟨_, rfl⟩ | exact Or.inr (by rintro ⟨⟩)

theorem Call.seekResetTick_or (call : Call) :
    (∃ now, call = .seekResetTick now) ∨ call.kind ≠ .seekReset := by
  cases call <;> first | exact Or.inl ⟨_, rfl⟩ | exact Or.inr (by rintro ⟨⟩)

/-- The run a call of the given kind starts, if it starts one. -/
def CallKind.src : CallKind → UsRun
  | .frame | .lcd => .touch
  | .weld => .cycle
  | .input => .remote
  | .modbus => .comm
  | _ => .idle

theorem CallKind.modbus_of_src {kind : CallKind} (hsrc : kind.src = .comm) : kind = .modbus := by
  cases kind <;> first | rfl | exact absurd hsrc (by decide)

theorem CallKind.weld_of_src {kind : CallKind} (hsrc : kind.src = .cycle) : kind = .weld := by
  cases kind <;> first | rfl | exact absurd hsrc (by decide)

/-! ### The frame of a call -/

/-- What a call of the given kind leaves alone, and on what terms it starts a run. -/
structure CallFrame (kind : CallKind) (s s' : Sys) : Prop where
  starts : s.ghost.starts ≤ s'.ghost.starts
  issued : s.ghost.startsIssued ≤ s'.ghost.startsIssued
  requests : s.ghost.srRequests ≤ s'.ghost.srRequests
  accepted : s'.ghost.starts ≠ s.ghost.starts →
    s.reg.mainState = 0 ∧ s.seekReset.fsm.state = .idle ∧ s.overload.active = false ∧
      s'.input.estopActive = false ∧ s.ghost.startsIssued < s'.ghost.startsIssued
  owner : s'.ghost.starts ≠ s.ghost.starts →
    s'.reg.usRunStatus = kind.src ∨ s'.reg.usRunStatus = .idle
  kept : s'.ghost.starts = s.ghost.starts →
    s'.reg.usRunStatus = s.reg.usRunStatus ∨ s'.reg.usRunStatus = .idle
  warm : s.reg.mainState = 0 → s'.reg.mainState = 0
  weld : kind ≠ .weld → kind ≠ .input → s'.weld = s.weld
  overload : kind ≠ .overload →
    s'.overload.active = s.overload.active ∧ s'.overload.fsm = s.overload.fsm
  input : kind ≠ .input →
    s'.input.estopActive = s.input.estopActive ∧ s'.input.fsm = s.input.fsm
  chain : kind ≠ .seekReset → s'.seekReset.fsm = s.seekReset.fsm
  pending : kind ≠ .seekReset → s'.ghost.srRequests = s.ghost.srRequests →
    s'.seekReset.pendingCmd = s.seekReset.pendingCmd
  published : kind ≠ .reg → publishedRun s' = publishedRun s ∧
    s'.measure.errorStatus = s.measure.errorStatus ∧ s'.reg.usOutOn = s.reg.usOutOn ∧
      s'.pins.usOut = s.pins.usOut
  solDn : kind ≠ .weld → kind ≠ .horn → kind ≠ .input →
    s'.pins.solDn = s.pins.solDn ∨ s'.pins.solDn = false

/-- A handler that owns nothing. -/
theorem GateFrame.call {kind : CallKind} {s s' : Sys} (h : GateFrame kind.src s s') :
    CallFrame kind s s' := by
  constructor
  · exact h.starts
  · exact h.issued
  · exact h.requests
  · intro hstarts
    obtain ⟨hwarm, hchain, hoverload, hestop, hissued⟩ := h.accepted hstarts
    exact ⟨hwarm, hchain, hoverload, h.estop.trans hestop, hissued⟩
  · exact h.owner
  · exact h.kept
  · exact fun hwarm ↦ h.warm.trans hwarm
  · exact fun _ _ ↦ h.weld
  · exact fun _ ↦ ⟨h.overload, h.debounce⟩
  · exact fun _ ↦ ⟨h.estop, h.buttons⟩
  · exact fun _ ↦ h.chain
  · exact fun _ ↦ h.pending
  · exact fun _ ↦ ⟨h.published, h.fault, h.outOn, h.usOut⟩
  · exact fun _ _ _ ↦ h.solDn

theorem Quiet.call {s s' : Sys} (h : Quiet s s') (kind : CallKind) : CallFrame kind s s' :=
  (h.frame : GateFrame kind.src s s').call

theorem CallFrame.refl (kind : CallKind) (s : Sys) : CallFrame kind s s :=
  (GateFrame.refl kind.src s).call

/-- A run that a call has started is of the source of its kind. -/
theorem CallFrame.started {kind : CallKind} {s s' : Sys} (h : CallFrame kind s s')
    (hstarts : s'.ghost.starts ≠ s.ghost.starts) {src : UsRun} (hsrc : src ≠ .idle)
    (hrun : s'.reg.usRunStatus = src) : kind.src = src := by
  rcases h.owner hstarts with howner | hidle
  · exact howner.symm.trans hrun
  · exact absurd (hrun.symm.trans hidle) hsrc

theorem weldAdvance_frame (tick : WeldTickIn) (s : Sys) :
    CallFrame .weld s (weldAdvance tick s) := by
  constructor <;> simp [weldAdvance, publishedRun]

theorem weldBody_frame {tick : WeldTickIn} {s s' : Sys}
    (hbody : WeldBody tick (weldAdvance tick s) s') : CallFrame .weld s s' := by
  have hallowed : appRegStartAllowed (weldAdvance tick s) = appRegStartAllowed s := rfl
  have hstarts := hbody.starts
  have hissued := hbody.issued
  have hexclusive := weldFsmStep_start_not_stop (weldBodyIn tick (weldAdvance tick s))
    (weldAdvance tick s).weld.fsm
  rw [hallowed] at hstarts
  constructor
  · rw [hstarts]
    split_ifs
    · exact Nat.le_succ _
    · exact le_rfl
  · rw [hissued]
    split_ifs
    · exact Nat.le_succ _
    · exact le_rfl
  · exact le_of_eq hbody.srRequests.symm
  · intro hstarted
    rw [hstarts] at hstarted
    split_ifs at hstarted with hstart
    · have hopen := (appRegStartAllowed_iff s).mp hstart.2
      refine ⟨hopen.1, hopen.2.2.1, hopen.2.2.2.2.1, hbody.estop.trans hopen.2.2.2.2.2.1, ?_⟩
      rw [hissued, if_pos hstart.1]
      exact Nat.lt_succ_self _
    · exact absurd rfl hstarted
  · intro hstarted
    rw [hstarts] at hstarted
    split_ifs at hstarted with hstart
    · rw [hbody.runStart hstart.1, hallowed, if_pos hstart.2]
      exact Or.inl rfl
    · exact absurd rfl hstarted
  · intro hsame
    rw [hstarts] at hsame
    cases hstart : (weldBodyStep tick (weldAdvance tick s)).2.weldStart with
    | true =>
      have hclosed : appRegStartAllowed s ≠ true := by
        intro hopen
        rw [if_pos ⟨hstart, hopen⟩] at hsame
        exact absurd hsame (Nat.succ_ne_self _)
      rw [hbody.runStart hstart, hallowed, if_neg hclosed]
      exact Or.inl rfl
    | false =>
      cases hstop : (weldBodyStep tick (weldAdvance tick s)).2.weldStop with
      | true => exact Or.inr (hbody.runStop hstop)
      | false => exact Or.inl (hbody.runKeep hstart hstop)
  · exact fun hwarm ↦ hbody.warm.trans hwarm
  · exact fun hkind ↦ absurd rfl hkind
  · exact fun _ ↦ ⟨hbody.overload, hbody.debounce⟩
  · exact fun _ ↦ ⟨hbody.estop, hbody.buttons⟩
  · exact fun _ ↦ congrArg SeekResetGlue.fsm hbody.seekReset
  · exact fun _ _ ↦ congrArg SeekResetGlue.pendingCmd hbody.seekReset
  · exact fun _ ↦ ⟨hbody.published, hbody.fault, hbody.outOn, hbody.usOut⟩
  · exact fun hkind ↦ absurd rfl hkind

theorem overloadBody_frame {tick : OverloadTickIn} {s s' : Sys}
    (hbody : OverloadBody tick s s') : CallFrame .overload s s' := by
  have hframe := hbody.frame .cycle
  constructor
  · exact hframe.starts
  · exact hframe.issued
  · exact hframe.requests
  · exact fun hstarts ↦ absurd hbody.starts hstarts
  · exact fun hstarts ↦ absurd hbody.starts hstarts
  · exact hframe.kept
  · exact fun hwarm ↦ hframe.warm.trans hwarm
  · exact fun _ _ ↦ hframe.weld
  · exact fun hkind ↦ absurd rfl hkind
  · exact fun _ ↦ ⟨hframe.estop, hframe.buttons⟩
  · exact fun _ ↦ hframe.chain
  · exact fun _ ↦ hframe.pending
  · exact fun _ ↦ ⟨hframe.published, hframe.fault, hframe.outOn, hframe.usOut⟩
  · exact fun _ _ _ ↦ hframe.solDn

/-- A part of a tick that at most ends the run keeps the frame. -/
theorem Ends.call {kind : CallKind} {s mid s' : Sys} (hframe : CallFrame kind s mid)
    (h : Ends mid s') : CallFrame kind s s' := by
  have hgate := h.frame .cycle
  constructor
  · exact hframe.starts.trans hgate.starts
  · exact hframe.issued.trans hgate.issued
  · exact hframe.requests.trans hgate.requests
  · intro hstarts
    have hopen := hframe.accepted fun heq ↦ hstarts (h.starts.trans heq)
    rw [hgate.estop, h.issued]
    exact hopen
  · intro hstarts
    rcases hgate.kept h.starts with hrun | hidle
    · rw [hrun]
      exact hframe.owner fun heq ↦ hstarts (h.starts.trans heq)
    · exact Or.inr hidle
  · intro hstarts
    rcases hgate.kept h.starts with hrun | hrun
    · rw [hrun]
      exact hframe.kept (h.starts.symm.trans hstarts)
    · exact Or.inr hrun
  · exact fun hwarm ↦ hgate.warm.trans (hframe.warm hwarm)
  · exact fun hkind hkind' ↦ hgate.weld.trans (hframe.weld hkind hkind')
  · exact fun hkind ↦ ⟨hgate.overload.trans (hframe.overload hkind).1,
      hgate.debounce.trans (hframe.overload hkind).2⟩
  · exact fun hkind ↦ ⟨hgate.estop.trans (hframe.input hkind).1,
      hgate.buttons.trans (hframe.input hkind).2⟩
  · exact fun hkind ↦ hgate.chain.trans (hframe.chain hkind)
  · intro hkind hrequests
    rw [h.seekReset]
    exact hframe.pending hkind (h.requests.symm.trans hrequests)
  · intro hkind
    obtain ⟨hpublished, hfault, houtOn, husOut⟩ := hframe.published hkind
    exact ⟨hgate.published.trans hpublished, hgate.fault.trans hfault,
      hgate.outOn.trans houtOn, hgate.usOut.trans husOut⟩
  · intro hweld hhorn hinput
    rw [h.solDn]
    exact hframe.solDn hweld hhorn hinput

theorem inputScanned_frame (tick : InputTickIn) (s : Sys) :
    CallFrame .input s (inputScanned tick s) := by
  unfold inputScanned
  split_ifs
  · have husOut := weldAborted_usOut (ioSolDn false (inputSample tick s).1)
    rw [weldAborted_eq]
    constructor <;> simp [inputSample, publishedRun, ioSolDn]
    exact husOut
  · constructor <;> simp [inputSample, publishedRun]

theorem inputBody_frame (tick : InputTickIn) (s : Sys) :
    CallFrame .input s (inputBody tick s) := by
  cases hestop : (inputEvent tick s).estopActive with
  | true => exact (inputBody_estop tick s hestop).1.call (inputScanned_frame tick s)
  | false =>
    have hframe := (inputBody_acts tick s hestop).frame
    constructor
    · exact hframe.starts
    · exact hframe.issued
    · exact hframe.requests
    · intro hstarts
      obtain ⟨hwarm, hchain, hoverload, hestop', hissued⟩ := hframe.accepted hstarts
      exact ⟨hwarm, hchain, hoverload, hframe.estop.trans hestop', hissued⟩
    · exact hframe.owner
    · exact hframe.kept
    · exact fun hwarm ↦ hframe.warm.trans hwarm
    · exact fun _ hkind ↦ absurd rfl hkind
    · exact fun _ ↦ ⟨hframe.overload, hframe.debounce⟩
    · exact fun hkind ↦ absurd rfl hkind
    · exact fun _ ↦ hframe.chain
    · exact fun _ ↦ hframe.pending
    · exact fun _ ↦ ⟨hframe.published, hframe.fault, hframe.outOn, hframe.usOut⟩
    · exact fun _ _ _ ↦ hframe.solDn

theorem hornBody_frame (tick : HornTickIn) (s : Sys) :
    CallFrame .horn s (hornBody tick s) := by
  refine (hornBody_ends tick s).1.call ?_
  rw [hornSolenoid_eq]
  constructor <;> simp [publishedRun]

theorem seekResetBody_frame (now : ℕ) (s : Sys) :
    CallFrame .seekReset s (seekResetBody now s) := by
  constructor <;> simp [seekResetBody, publishedRun, srSignals]

theorem regTick_frame {lim : RegRunLimits} {tick : RegTickIn} {s s' : Sys}
    (htick : RegTick lim tick s s') : CallFrame .reg s s' := by
  have hrest := htick.rest
  constructor
  · rw [hrest]
  · rw [hrest]
  · rw [hrest]
  · intro hstarts
    rw [hrest] at hstarts
    exact absurd rfl hstarts
  · intro hstarts
    rw [hrest] at hstarts
    exact absurd rfl hstarts
  · exact fun _ ↦ htick.run
  · exact htick.warm
  · intro _ _
    rw [hrest]
  · intro _
    rw [hrest]
    exact ⟨rfl, rfl⟩
  · intro _
    rw [hrest]
    exact ⟨rfl, rfl⟩
  · intro _
    rw [hrest]
  · intro _ _
    rw [hrest]
  · exact fun hkind ↦ absurd rfl hkind
  · intro _ _ _
    rw [hrest]
    exact Or.inl rfl

/-- Every call keeps the frame of its kind. -/
theorem exec_frame (build : Build) (call : Call) (s : Sys) :
    CallFrame call.kind s (call.exec build s) := by
  cases call with
  | frame f => exact GateFrame.call (appLcdInputDispatch_acts f s).frame
  | lcdTick => exact GateFrame.call (appLcdTick_acts s).frame
  | weldTick tick =>
    rcases appWeldTick_cases tick s with ⟨-, heq⟩ | ⟨-, -, heq⟩ | ⟨-, hbody⟩
    · rw [Call.exec, heq]
      exact CallFrame.refl .weld s
    · rw [Call.exec, heq]
      exact weldAdvance_frame tick s
    · exact weldBody_frame hbody
  | overloadTick tick =>
    rcases appOverloadTick_cases tick s with ⟨-, heq⟩ | ⟨-, hbody⟩
    · rw [Call.exec, heq]
      exact CallFrame.refl .overload s
    · exact overloadBody_frame hbody
  | inputTick tick =>
    rcases appInputTick_cases tick s with ⟨-, heq⟩ | ⟨-, heq⟩
    · rw [Call.exec, heq]
      exact CallFrame.refl .input s
    · rw [Call.exec, heq]
      exact inputBody_frame tick s
  | hornTick tick =>
    simp only [Call.exec, appHornTick]
    split_ifs
    · exact hornBody_frame tick s
    · exact CallFrame.refl .horn s
  | seekResetTick now =>
    simp only [Call.exec, appSeekResetTick]
    split_ifs
    · exact seekResetBody_frame now s
    · exact CallFrame.refl .seekReset s
  | regTick tick => exact regTick_frame (appRegTick_spec _ tick s)
  | ethTick tick => exact (quiet_ethTick tick s).call .eth
  | modbusTick tick => exact GateFrame.call (appModbusTick_frame build tick s)
  | faultAlarmTick now => exact (quiet_faultAlarmTick now s).call .alarm
  | buzzerTick now => exact (quiet_buzzerTick now s).call .buzzer

end UsCtrl
