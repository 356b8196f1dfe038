import UsCtrl.Handlers
import Mathlib.Data.List.Forall2

/-!
# The Modbus tick and its write-apply pass

The Modbus tick, cut at its write-apply pass. `modbusPass` is the tick up to that pass: the state it
leaves, and the link of the request to apply, if there is one. The whole tick is the pass followed
by at most one apply (`appModbusTick_eq_pass`).

Both halves act on the run gate for the remote side: the head of the tick issues a RUN_RELEASE when
the hold watchdog trips (`modbusPass_acts`), and the apply issues what the command registers hold
when it starts (`appModbusApplyWrites_acts`, `ApplyCommand`). The request a pass leaves to be
applied is the register written last.
-/

set_option autoImplicit false
set_option relaxedAutoImplicit false

namespace UsCtrl

open Foundation Relation

/-! ### The pass -/

/-- `rtuServe` up to its write-apply pass. -/
def rtuPass (input : ModbusTickIn) (s : Sys) : Sys × Option MbLink :=
  if input.rx = [] then (s, none)
  else
    let out := mbCoreDecode .rtu input.rx s.modbus.core
    let decoded := onCore (fun _ ↦ out.core) s
    let noted := if out.resp = [] then decoded else appModbusNoteRemote input.tReq decoded
    (noted, if out.fc = 6 then some .rtu else none)

/-- What the frame loop leaves when it is about to apply a write, or has ended without one. -/
structure TcpPass where
  sys : Sys
  rest : List UInt8
  applies : Bool

/-- `tcpWalk` up to its write-apply pass. -/
def tcpWalkPass (input : TcpPollIn) : ℕ → ℕ → List UInt8 → Sys → TcpPass
  | 0, _, rest, s => ⟨s, rest, false⟩
  | fuel + 1, index, rest, s =>
    match mbTcpFramePeek rest with
    | .desync => ⟨s, [], false⟩
    | .needMore => ⟨s, rest, false⟩
    | .ok length =>
      let out := mbTcpBuildResponse (rest.take length) s.modbus.core
      let decoded := onCore (fun _ ↦ out.core) s
      if out.resp = [] then tcpWalkPass input fuel (index + 1) (rest.drop length) decoded
      else
        let noted := onTcp (fun tcp ↦ { tcp with lastRxMs := input.tRx index })
          (appModbusNoteRemote (input.tReq index) decoded)
        if out.fc = 6 then ⟨noted, rest.drop length, true⟩
        else tcpWalkPass input fuel (index + 1) (rest.drop length) noted

/-- `app_modbus_tcp_poll` up to its write-apply pass. -/
def tcpPass (input : TcpPollIn) (s : Sys) : Sys × Option MbLink :=
  let s := controlTcp input s
  if input.established = false then (s, none)
  else
    let acc := s.tcp.acc ++ input.rx.take (mbTcpAccLen - s.tcp.acc.length)
    let walk := tcpWalkPass input mbTcpFramesPerPoll 0 acc s
    (onTcp (fun tcp ↦ { tcp with acc := walk.rest }) walk.sys,
      if walk.applies then some .tcp else none)

/-- The transport branches up to the write-apply pass. -/
def servePass (build : Build) (input : ModbusTickIn) (s : Sys) : Sys × Option MbLink :=
  if s.modbus.applied.owned then
    rtuPass input (mirrorLive build input.sensDn (tcpLeave s))
  else if s.cfg.commMode ≠ 0 ∧ s.eth.available then
    tcpPass input.tcp (mirrorLive build input.sensDn (tcpEnter s))
  else (tcpLeave s, none)

/-- `app_modbus_tick` up to its write-apply pass. -/
def modbusPass (build : Build) (input : ModbusTickIn) (s : Sys) : Sys × Option MbLink :=
  servePass build input (modbusHead build input s)

/-- The write-apply pass, if there is one. -/
def finishPass (build : Build) (input : ApplyIn) (pass : Sys × Option MbLink) : Sys :=
  match pass.2 with
  | none => pass.1
  | some link => appModbusApplyWrites build link input pass.1

/-! ### The apply leaves the TCP server alone -/

section TcpBlind

variable (update : TcpGlue → TcpGlue)

theorem appRegCommand_onTcp (cmd : UsCmd) (src : UsRun) (now : ℕ) (s : Sys) :
    appRegCommand cmd src now (onTcp update s) = onTcp update (appRegCommand cmd src now s) := by
  have hallowed : appRegStartAllowed (issueStart (onTcp update s)) =
      appRegStartAllowed (issueStart s) := rfl
  cases cmd with
  | start =>
    simp only [appRegCommand, startCommand, hallowed]
    split_ifs <;> first | rfl | contradiction
  | runRelease =>
    simp only [appRegCommand, runReleaseCommand]
    split_ifs <;> first | rfl | contradiction
  | seek => rfl
  | reset => rfl

theorem appHornSetMode_onTcp (on : Bool) (s : Sys) :
    appHornSetMode on (onTcp update s) = onTcp update (appHornSetMode on s) := by
  unfold appHornSetMode
  split_ifs <;> first | rfl | contradiction

theorem startCmdBody_onTcp (value : ℕ) (input : ApplyIn) (s : Sys) :
    startCmdBody value input (onTcp update s) = onTcp update (startCmdBody value input s) := by
  have hallowed : appRegStartAllowed (onTcp update s) = appRegStartAllowed s := rfl
  simp only [startCmdBody, appRegCommand_onTcp, hallowed]
  split_ifs <;> first | rfl | contradiction

theorem gateRejectBody_onTcp (s : Sys) :
    gateRejectBody (onTcp update s) = onTcp update (gateRejectBody s) := by
  have herase (reg : MbReg) (t : Sys) :
      setHolding reg 0 (onTcp update t) = onTcp update (setHolding reg 0 t) := rfl
  simp only [gateRejectBody, herase]
  rw [show holding (onTcp update (setHolding .start 0 (setHolding .seek 0 (setHolding .reset 0 s))))
    .stop = holding
      (setHolding .start 0 (setHolding .seek 0 (setHolding .reset 0 s))) .stop from rfl]
  split_ifs
  · rw [appRegCommand_onTcp]
    rfl
  · rfl

/-- A branch of the chain that neither looks at the TCP server nor changes it. -/
def TcpBlind (rule : ApplyRule) : Prop :=
  ∀ s, rule.guard (onTcp update s) = rule.guard s ∧
    rule.act (onTcp update s) = (onTcp update (rule.act s).1, (rule.act s).2)

theorem commandRules_onTcp (link : MbLink) (input : ApplyIn) :
    ∀ rule ∈ commandRules link input, TcpBlind update rule := by
  simp only [commandRules, List.forall_mem_cons, List.not_mem_nil, false_implies, implies_true,
    and_true]
  refine ⟨fun s ↦ ⟨rfl, ?_⟩, fun s ↦ ⟨rfl, ?_⟩, fun s ↦ ⟨rfl, ?_⟩, fun s ↦ ⟨rfl, ?_⟩,
    fun s ↦ ⟨rfl, ?_⟩⟩
  · dsimp only
    rw [appRegCommand_onTcp]
    rfl
  · dsimp only
    rw [appRegCommand_onTcp]
    rfl
  · have herase : setHolding .start 0 (onTcp update s) = onTcp update (setHolding .start 0 s) := rfl
    dsimp only
    rw [herase, startCmdBody_onTcp]
    rfl
  · dsimp only
    rw [appRegCommand_onTcp]
    rfl
  · have hread : holding (onTcp update s) .cfgCtrl = holding s .cfgCtrl := rfl
    have herase : setHolding .cfgCtrl 0 (onTcp update s) = onTcp update (setHolding .cfgCtrl 0 s) :=
      rfl
    dsimp only
    rw [hread, herase]
    generalize setHolding .cfgCtrl 0 s = erased
    unfold cfgCtrlBody
    dsimp only
    rw [show (onTcp update erased).measure = erased.measure from rfl,
      show (onTcp update erased).modbus = erased.modbus from rfl]
    split_ifs <;> rfl

theorem configRules_onTcp : ∀ rule ∈ configRules, TcpBlind update rule := by
  have hcfg (reg : MbReg) (shown : AppConfig → ℕ) (store : ℕ → AppConfig → AppConfig) :
      TcpBlind update (cfgRule reg shown store) := fun s ↦ ⟨rfl, rfl⟩
  have henable (reg : MbReg) (shown : AppConfig → Bool) (store : Bool → AppConfig → AppConfig) :
      TcpBlind update (enableRule reg shown store) := fun s ↦ ⟨rfl, rfl⟩
  have hsafty : TcpBlind update saftyRule := by
    refine fun s ↦ ⟨rfl, ?_⟩
    have hread : holding (onTcp update s) .enSafty = holding s .enSafty := rfl
    have hcfg : (onTcp update s).cfg = s.cfg := rfl
    simp only [saftyRule, hread, hcfg]
    by_cases hvalue : (if holding s .enSafty = 1 then 1 else 0) = s.cfg.fSafty
    · simp only [hvalue, ne_eq, not_true_eq_false, if_false]
    · simp only [hvalue, ne_eq, not_false_eq_true, if_true]
      rfl
  have hhorn : TcpBlind update hornRule := by
    refine fun s ↦ ⟨rfl, ?_⟩
    have hread : holding (onTcp update s) .hornCmd = holding s .hornCmd := rfl
    simp only [hornRule, hread, appHornSetMode_onTcp]
  have hcount : TcpBlind update workCntRule := fun s ↦ ⟨rfl, rfl⟩
  simp only [configRules, List.forall_mem_cons, List.not_mem_nil, false_implies, implies_true,
    hcfg, henable, hsafty, hhorn, hcount, and_self]

theorem applyChain_onTcp (link : MbLink) (input : ApplyIn) (s : Sys) :
    applyChain link input (onTcp update s) = onTcp update (applyChain link input s) := by
  have hblind : ∀ rule ∈ applyRules link input, TcpBlind update rule := by
    intro rule hrule
    rcases List.mem_append.mp hrule with h | h
    · exact commandRules_onTcp update link input rule h
    · exact configRules_onTcp update rule h
  have hstaged : stagedScan input.tStage (onTcp update s) =
      onTcp update (stagedScan input.tStage s) := by
    unfold stagedScan
    have hlast : (onTcp update s).modbus = s.modbus := rfl
    rw [hlast]
    split <;> rfl
  have hchain : firstMatch (fun s ↦ (stagedScan input.tStage s, false)) (applyRules link input)
      (onTcp update s) =
      (onTcp update (firstMatch (fun s ↦ (stagedScan input.tStage s, false))
        (applyRules link input) s).1,
        (firstMatch (fun s ↦ (stagedScan input.tStage s, false)) (applyRules link input) s).2) := by
    refine firstMatch_related (fun (result result' : Sys × Bool) ↦
      result = (onTcp update result'.1, result'.2)) ?_ ?_
    · exact Prod.ext hstaged rfl
    · refine List.forall₂_same.mpr fun rule hrule ↦ ?_
      exact ⟨(hblind rule hrule s).1, fun _ ↦ (hblind rule hrule s).2⟩
  unfold applyChain
  dsimp only
  rw [hchain]
  split_ifs <;> rfl

theorem appModbusApplyWrites_onTcp (build : Build) (link : MbLink) (input : ApplyIn) (s : Sys) :
    appModbusApplyWrites build link input (onTcp update s) =
      onTcp update (appModbusApplyWrites build link input s) := by
  have hcount : countApply (onTcp update s) = onTcp update (countApply s) := rfl
  have hgate : gateClosed build (onTcp update s) = gateClosed build s := rfl
  unfold appModbusApplyWrites
  rw [hcount, hgate]
  split_ifs
  · exact gateRejectBody_onTcp update _
  · exact applyChain_onTcp update link input _

end TcpBlind

/-! ### The tick is its pass and at most one apply -/

theorem tcpWalk_eq_pass (build : Build) (input : TcpPollIn) (apply : ApplyIn)
    (fuel index : ℕ) (rest : List UInt8) (s : Sys) :
    (tcpWalk build input apply fuel index rest s).sys =
        (if (tcpWalkPass input fuel index rest s).applies then
          appModbusApplyWrites build .tcp apply (tcpWalkPass input fuel index rest s).sys
        else (tcpWalkPass input fuel index rest s).sys) ∧
      (tcpWalk build input apply fuel index rest s).rest =
        (tcpWalkPass input fuel index rest s).rest := by
  induction fuel generalizing index rest s with
  | zero => simp [tcpWalk, tcpWalkPass]
  | succ fuel ih =>
    unfold tcpWalk tcpWalkPass
    cases mbTcpFramePeek rest with
    | needMore => simp
    | desync => simp
    | ok length =>
      dsimp only
      by_cases hsilent : (mbTcpBuildResponse (rest.take length) s.modbus.core).resp = []
      · simp only [if_pos hsilent]
        exact ih _ _ _
      · by_cases hwrite : (mbTcpBuildResponse (rest.take length) s.modbus.core).fc = 6
        · simp only [if_neg hsilent, if_pos hwrite, if_true, and_self]
        · simp only [if_neg hsilent, if_neg hwrite]
          exact ih _ _ _

theorem appModbusTcpPoll_eq_pass (build : Build) (input : TcpPollIn) (apply : ApplyIn) (s : Sys) :
    appModbusTcpPoll build input apply s = finishPass build apply (tcpPass input s) := by
  unfold appModbusTcpPoll tcpPass
  dsimp only
  split_ifs with hsocket happlies
  · rfl
  · obtain ⟨hsys, hrest⟩ := tcpWalk_eq_pass build input apply mbTcpFramesPerPoll 0
      ((controlTcp input s).tcp.acc ++
        input.rx.take (mbTcpAccLen - (controlTcp input s).tcp.acc.length)) (controlTcp input s)
    rw [hsys, hrest, if_pos happlies]
    exact (appModbusApplyWrites_onTcp _ build .tcp apply _).symm
  · obtain ⟨hsys, hrest⟩ := tcpWalk_eq_pass build input apply mbTcpFramesPerPoll 0
      ((controlTcp input s).tcp.acc ++
        input.rx.take (mbTcpAccLen - (controlTcp input s).tcp.acc.length)) (controlTcp input s)
    rw [hsys, hrest, if_neg happlies]
    rfl

/-- The tick is its pass followed by at most one write-apply. -/
theorem appModbusTick_eq_pass (build : Build) (input : ModbusTickIn) (s : Sys) :
    appModbusTick build input s = finishPass build input.apply (modbusPass build input s) := by
  unfold appModbusTick modbusPass
  generalize modbusHead build input s = head
  unfold modbusServe servePass
  split_ifs with howned hserver
  · unfold rtuServe rtuPass
    dsimp only
    split_ifs <;> rfl
  · exact appModbusTcpPoll_eq_pass build input.tcp input.apply _
  · rfl

/-! ### The pass as acts -/

theorem quiet_onModbus (update : ModbusGlue → ModbusGlue) (s : Sys) :
    Quiet s (onModbus update s) := by
  constructor <;> rfl

theorem quiet_onCore (update : MbCore → MbCore) (s : Sys) : Quiet s (onCore update s) :=
  quiet_onModbus _ s

theorem quiet_mirrorLive (build : Build) (sensDn : Bool) (s : Sys) :
    Quiet s (mirrorLive build sensDn s) :=
  quiet_onCore _ s

theorem quiet_onTcp (update : TcpGlue → TcpGlue) (s : Sys) : Quiet s (onTcp update s) := by
  constructor <;> rfl

theorem quiet_tcpWalkPass (input : TcpPollIn) (fuel index : ℕ) (rest : List UInt8) (s : Sys) :
    Quiet s (tcpWalkPass input fuel index rest s).sys := by
  induction fuel generalizing index rest s with
  | zero => exact Quiet.refl s
  | succ fuel ih =>
    unfold tcpWalkPass
    cases mbTcpFramePeek rest with
    | needMore => exact Quiet.refl s
    | desync => exact Quiet.refl s
    | ok length =>
      have hdecoded : Quiet s (onCore (fun _ ↦
          (mbTcpBuildResponse (rest.take length) s.modbus.core).core) s) := quiet_onModbus _ s
      have hnoted := hdecoded.trans ((quiet_onModbus _ _).trans (quiet_onTcp
        (fun tcp ↦ { tcp with lastRxMs := input.tRx index })
        (appModbusNoteRemote (input.tReq index) _)))
      dsimp only
      split_ifs
      · exact hdecoded.trans (ih _ _ _)
      · exact hnoted
      · exact hnoted.trans (ih _ _ _)

theorem quiet_tcpLeave (s : Sys) : Quiet s (tcpLeave s) := by
  unfold tcpLeave
  split_ifs
  · exact (quiet_tcpReset s).trans (quiet_onModbus _ _)
  · exact Quiet.refl s

theorem quiet_noteRemote (now : ℕ) (s : Sys) : Quiet s (appModbusNoteRemote now s) :=
  quiet_onModbus _ s

theorem quiet_rtuPass (input : ModbusTickIn) (s : Sys) : Quiet s (rtuPass input s).1 := by
  have hdecoded : Quiet s (onCore (fun _ ↦ (mbCoreDecode .rtu input.rx s.modbus.core).core) s) :=
    quiet_onCore _ s
  unfold rtuPass
  by_cases hrx : input.rx = []
  · rw [if_pos hrx]
    exact Quiet.refl s
  · rw [if_neg hrx]
    dsimp only
    split_ifs
    · exact hdecoded
    · exact hdecoded.trans (quiet_noteRemote _ _)

theorem quiet_tcpPass (input : TcpPollIn) (s : Sys) : Quiet s (tcpPass input s).1 := by
  have hcontrol : Quiet s (controlTcp input s) := quiet_onTcp _ s
  unfold tcpPass
  by_cases hsocket : input.established = false
  · simp only [if_pos hsocket]
    exact hcontrol
  · simp only [if_neg hsocket]
    exact (hcontrol.trans (quiet_tcpWalkPass _ _ _ _ _)).trans (quiet_onTcp _ _)

theorem quiet_servePass (build : Build) (input : ModbusTickIn) (s : Sys) :
    Quiet s (servePass build input s).1 := by
  unfold servePass
  split_ifs
  · exact ((quiet_tcpLeave s).trans (quiet_mirrorLive build input.sensDn _)).trans
      (quiet_rtuPass input _)
  · have henter : Quiet s (tcpEnter s) := by
      unfold tcpEnter
      split_ifs
      · exact Quiet.refl s
      · exact (quiet_onModbus _ s).trans (quiet_onModbus _ _)
    exact (henter.trans (quiet_mirrorLive build input.sensDn _)).trans (quiet_tcpPass input.tcp _)
  · exact quiet_tcpLeave s

theorem quiet_applyConfig (build : Build) (sensDn : Bool) (s : Sys) :
    Quiet s (applyConfig build sensDn s) := by
  unfold applyConfig
  dsimp only
  split_ifs
  · exact quiet_onModbus _ s
  · exact Quiet.refl s
  · exact quiet_onModbus _ s
  · exact ((quiet_onModbus _ s).trans (quiet_onModbus _ _)).trans (quiet_mirrorLive build _ _)

theorem quiet_remoteEnStep (build : Build) (tGate : ℕ) (pin : Bool) (s : Sys) :
    Quiet s (remoteEnStep build tGate pin s) := by
  unfold remoteEnStep
  cases build.model <;> exact quiet_onModbus _ s

/-- The hold watchdog trips in a tick. -/
def holdTrips (tHold : ℕ) (s : Sys) : Bool :=
  (holdWdtStep tHold (decide (appRegRunSrc s = .comm)) s.modbus.hold).2

theorem holdWdtBlock_acts (tHold : ℕ) (s : Sys) :
    GateActs (fun cmd ↦ cmd = .runRelease ∧ holdTrips tHold s = true) .comm s
      (holdWdtBlock tHold s) := by
  have hstep : GateActs (fun cmd ↦ cmd = .runRelease ∧ holdTrips tHold s = true) .comm s
      (onModbus (fun modbus ↦ { modbus with hold :=
        (holdWdtStep tHold (decide (appRegRunSrc s = .comm)) s.modbus.hold).1 }) s) :=
    GateActs.of_quiet (quiet_onModbus _ s)
  unfold holdWdtBlock
  dsimp only
  split_ifs with htrip
  · exact hstep.trans (GateActs.of_command 0 ⟨rfl, htrip⟩)
  · exact hstep

/-- The gate step changes neither the run owner nor the watchdog. -/
theorem remoteEnStep_hold (build : Build) (tGate : ℕ) (pin : Bool) (s : Sys) :
    (remoteEnStep build tGate pin s).modbus.hold = s.modbus.hold := by
  unfold remoteEnStep
  cases build.model <;> rfl

theorem holdTrips_remoteEnStep (build : Build) (tGate : ℕ) (pin : Bool) (tHold : ℕ) (s : Sys) :
    holdTrips tHold (remoteEnStep build tGate pin s) = holdTrips tHold s := by
  unfold holdTrips appRegRunSrc
  rw [remoteEnStep_hold, (quiet_remoteEnStep build tGate pin s).reg]

/-- The pass acts for the remote side; it only issues the RUN_RELEASE of a watchdog trip. -/
theorem modbusPass_acts (build : Build) (input : ModbusTickIn) (s : Sys) :
    GateActs (fun cmd ↦ cmd = .runRelease ∧ holdTrips input.tHold s = true) .comm s
      (modbusPass build input s).1 := by
  have hgate : GateActs (fun cmd ↦ cmd = .runRelease ∧ holdTrips input.tHold s = true) .comm s
      (remoteEnStep build input.tGate input.remoteEnPin s) :=
    GateActs.of_quiet (quiet_remoteEnStep _ _ _ s)
  have hhold := holdWdtBlock_acts input.tHold (remoteEnStep build input.tGate input.remoteEnPin s)
  rw [holdTrips_remoteEnStep] at hhold
  unfold modbusPass modbusHead
  exact (hgate.trans hhold).trans (GateActs.of_quiet (((quiet_onModbus _ _).trans
    (quiet_applyConfig build _ _)).trans (quiet_servePass build input _)))

/-! ### The apply as acts -/

/-- The commands that the command registers ask for when an apply starts. -/
def ApplyCommand (s : Sys) : UsCmd → Prop
  | .reset => holding s .reset = 1
  | .seek => holding s .seek = 1
  | .start => holding s .start = 1 ∨ holding s .start = 2
  | .runRelease => holding s .stop = 1

theorem quiet_setHolding (reg : MbReg) (value : ℕ) (s : Sys) : Quiet s (setHolding reg value s) :=
  quiet_onCore _ s

theorem startCmdBody_acts {allowed : UsCmd → Prop} (value : ℕ) (input : ApplyIn) (s : Sys)
    (hallowed : value = 1 ∨ value = 2 → allowed .start) :
    GateActs allowed .comm s (startCmdBody value input s) := by
  unfold startCmdBody
  split_ifs with htap hhold
  · exact (GateActs.of_command _ (hallowed (Or.inl htap))).trans
      (GateActs.of_quiet (quiet_hookSetPot _ _))
  · exact (GateActs.of_command _ (hallowed (Or.inr hhold))).trans
      (GateActs.of_quiet ((quiet_hookSetPot _ _).trans (quiet_onModbus _ _)))
  · exact GateActs.of_quiet (quiet_onModbus _ s)
  · exact ReflTransGen.refl
  · exact GateActs.of_quiet (quiet_onModbus _ s)
  · exact ReflTransGen.refl

theorem quiet_cfgCtrlBody (link : MbLink) (ctrl : ℕ) (s : Sys) :
    Quiet s (cfgCtrlBody link ctrl s).1 := by
  unfold cfgCtrlBody
  dsimp only
  split_ifs <;> constructor <;> rfl

theorem commandRules_acts (link : MbLink) (input : ApplyIn) (s : Sys) :
    ∀ rule ∈ commandRules link input, rule.guard s = true →
      GateActs (ApplyCommand s) .comm s (rule.act s).1 := by
  simp only [commandRules, List.forall_mem_cons, List.not_mem_nil, false_implies, implies_true,
    and_true, decide_eq_true_eq]
  refine ⟨fun hreset ↦ ?_, fun hseek ↦ ?_, fun _ ↦ ?_, fun hstop ↦ ?_, fun _ ↦ ?_⟩
  · have hcommand : ApplyCommand s .reset := hreset
    exact (GateActs.of_command 0 hcommand).trans (GateActs.of_quiet (quiet_setHolding _ _ _))
  · have hcommand : ApplyCommand s .seek := hseek
    exact (GateActs.of_command 0 hcommand).trans (GateActs.of_quiet (quiet_setHolding _ _ _))
  · have herase : GateActs (ApplyCommand s) .comm s (setHolding .start 0 s) :=
      GateActs.of_quiet (quiet_setHolding _ _ s)
    exact herase.trans (startCmdBody_acts _ input _ fun hvalue ↦ hvalue)
  · have hcommand : ApplyCommand s .runRelease := hstop
    exact (GateActs.of_command 0 hcommand).trans (GateActs.of_quiet (quiet_setHolding _ _ _))
  · exact GateActs.of_quiet ((quiet_setHolding .cfgCtrl 0 s).trans (quiet_cfgCtrlBody link _ _))

theorem configRules_acts {allowed : UsCmd → Prop} (s : Sys) :
    ∀ rule ∈ configRules, GateActs allowed .comm s (rule.act s).1 := by
  have hsafty : GateActs allowed .comm s (saftyRule.act s).1 := by
    simp only [saftyRule]
    split_ifs <;> exact GateActs.of_quiet (by constructor <;> rfl)
  have hcfg (reg : MbReg) (shown : AppConfig → ℕ) (store : ℕ → AppConfig → AppConfig) :
      GateActs allowed .comm s ((cfgRule reg shown store).act s).1 :=
    GateActs.of_quiet (quiet_cfg s _)
  have henable (reg : MbReg) (shown : AppConfig → Bool) (store : Bool → AppConfig → AppConfig) :
      GateActs allowed .comm s ((enableRule reg shown store).act s).1 :=
    GateActs.of_quiet (quiet_cfg s _)
  have hhorn : GateActs allowed .comm s (hornRule.act s).1 := ReflTransGen.single (.horn s _)
  have hcount : GateActs allowed .comm s (workCntRule.act s).1 := GateActs.of_quiet (quiet_cfg s _)
  simp only [configRules, List.forall_mem_cons, List.not_mem_nil, false_implies, implies_true,
    hcfg, henable, hsafty, hhorn, hcount, and_self]

theorem quiet_stagedScan (tStage : ℕ) (s : Sys) : Quiet s (stagedScan tStage s) := by
  unfold stagedScan
  split
  · exact quiet_onModbus _ s
  · exact Quiet.refl s

theorem applyChain_acts (link : MbLink) (input : ApplyIn) (s : Sys) :
    GateActs (ApplyCommand s) .comm s (applyChain link input s) := by
  have hchain : GateActs (ApplyCommand s) .comm s
      (firstMatch (fun s ↦ (stagedScan input.tStage s, false)) (applyRules link input) s).1 := by
    refine firstMatch_induction
      (fun result : Sys × Bool ↦ GateActs (ApplyCommand s) .comm s result.1)
      (GateActs.of_quiet (quiet_stagedScan _ s)) fun rule hrule hguard ↦ ?_
    rcases List.mem_append.mp hrule with h | h
    · exact commandRules_acts link input s rule h hguard
    · exact configRules_acts s rule h
  unfold applyChain
  dsimp only
  split_ifs
  · exact hchain.trans (GateActs.of_quiet (quiet_saveConfig _ _))
  · exact hchain

theorem gateRejectBody_acts (s : Sys) :
    GateActs (fun cmd ↦ cmd = .runRelease ∧ holding s .stop = 1) .comm s (gateRejectBody s) := by
  have herased : Quiet s (setHolding .start 0 (setHolding .seek 0 (setHolding .reset 0 s))) :=
    ((quiet_setHolding _ _ s).trans (quiet_setHolding _ _ _)).trans (quiet_setHolding _ _ _)
  have hread : holding (setHolding .start 0 (setHolding .seek 0 (setHolding .reset 0 s))) .stop =
      holding s .stop := rfl
  unfold gateRejectBody
  dsimp only
  rw [hread]
  split_ifs with hstop
  · refine ((GateActs.of_quiet herased).trans (GateActs.of_command 0 ⟨rfl, hstop⟩)).trans ?_
    exact GateActs.of_quiet ((quiet_setHolding _ _ _).trans (quiet_setHolding _ _ _))
  · exact GateActs.of_quiet
      ((herased.trans (quiet_setHolding _ _ _)).trans (quiet_setHolding _ _ _))

theorem quiet_countApply (s : Sys) : Quiet s (countApply s) := by constructor <;> rfl

/-- An apply acts for the remote side, and issues only what the command registers ask for. -/
theorem appModbusApplyWrites_acts (build : Build) (link : MbLink) (input : ApplyIn) (s : Sys) :
    GateActs (ApplyCommand s) .comm s (appModbusApplyWrites build link input s) := by
  have hcount : GateActs (ApplyCommand s) .comm s (countApply s) :=
    GateActs.of_quiet (quiet_countApply s)
  unfold appModbusApplyWrites
  split_ifs
  · refine hcount.trans (GateActs.mono (fun cmd hcmd ↦ ?_) (gateRejectBody_acts (countApply s)))
    obtain ⟨rfl, hstop⟩ := hcmd
    exact hstop
  · exact hcount.trans (applyChain_acts link input (countApply s))

/-- The tick acts for the remote side. -/
theorem appModbusTick_frame (build : Build) (input : ModbusTickIn) (s : Sys) :
    GateFrame .comm s (appModbusTick build input s) := by
  have hpass := (modbusPass_acts build input s).frame
  rw [appModbusTick_eq_pass]
  unfold finishPass
  split
  · exact hpass
  · exact hpass.trans (appModbusApplyWrites_acts build _ input.apply _).frame

end UsCtrl
