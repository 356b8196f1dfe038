import UsCtrl.ModbusBlind
import UsCtrl.RunEvents

/-!
# The point at which a write is applied

A write-apply pass starts from the mirrored tables with one register written over
(`modbusPass_wrote`): `tickMirror` is the state in which a tick decodes its requests, and
`wroteCore` the effect of FC 06 on the tables. Command registers are never left at a value that the
chain acts on (`after_commandsIdle`), so at that point only the branch of the written register can
be open: the thirty-branch chain is a look-up of that register (`applyChain_lookup`).
-/

set_option autoImplicit false
set_option relaxedAutoImplicit false

namespace UsCtrl

open Foundation

/-! ### The mirrored state -/

/-- The state in which a tick decodes its requests: behind its mirror, if it serves a transport. -/
def tickMirror (build : Build) (input : ModbusTickIn) (s : Sys) : Option Sys :=
  let head := modbusHead build input s
  if head.modbus.applied.owned then some (mirrorLive build input.sensDn (tcpLeave head))
  else if head.cfg.commMode ≠ 0 ∧ head.eth.available then
    some (mirrorLive build input.sensDn (tcpEnter head))
  else none

/-- The effect of FC 06 on the tables. -/
def wroteCore (reg : MbReg) (value : ℕ) (core : MbCore) : MbCore :=
  { core.setReg reg value with lastWriteAddr := some reg }

/-- The second state differs from the first by requests that write no register: in coils, in the
request stamp and in the TCP server. -/
def ReadOnly (s s' : Sys) : Prop := ∃ coils remoteMs remoteSeen tcp, s' =
  { s with
    modbus := { s.modbus with
      core := { s.modbus.core with coils := coils }
      remoteMs := remoteMs
      remoteSeen := remoteSeen }
    tcp := tcp }

theorem ReadOnly.refl (s : Sys) : ReadOnly s s := ⟨_, _, _, _, rfl⟩

theorem ReadOnly.trans {s mid s' : Sys} (hfirst : ReadOnly s mid) (hsecond : ReadOnly mid s') :
    ReadOnly s s' := by
  obtain ⟨_, _, _, _, rfl⟩ := hfirst
  obtain ⟨coils, remoteMs, remoteSeen, tcp, rfl⟩ := hsecond
  exact ⟨coils, remoteMs, remoteSeen, tcp, rfl⟩

theorem readOnly_onTcp (update : TcpGlue → TcpGlue) (s : Sys) : ReadOnly s (onTcp update s) :=
  ⟨_, _, _, _, rfl⟩

theorem readOnly_noteRemote (now : ℕ) (s : Sys) : ReadOnly s (appModbusNoteRemote now s) :=
  ⟨_, _, _, _, rfl⟩

/-- Assumes: a decoded request left registers, slave address and last written register alone. -/
theorem readOnly_onCore {s : Sys} {core : MbCore} (hholding : core.holding = s.modbus.core.holding)
    (haddr : core.deviceAddr = s.modbus.core.deviceAddr)
    (hlast : core.lastWriteAddr = s.modbus.core.lastWriteAddr) :
    ReadOnly s (onCore (fun _ ↦ core) s) := by
  have hcore : core = { s.modbus.core with coils := core.coils } := by
    rcases core with ⟨holding, coils, deviceAddr, lastWriteAddr⟩
    dsimp only at hholding haddr hlast ⊢
    rw [hholding, haddr, hlast]
  exact ⟨core.coils, s.modbus.remoteMs, s.modbus.remoteSeen, s.tcp, by
    conv_lhs => rw [hcore]
    rfl⟩

/-- The second state is the first with requests decoded, the last of them an FC 06. -/
def Wrote (s s' : Sys) : Prop := ∃ reg value, value < 65536 ∧
  ∃ mid, ReadOnly s mid ∧ ReadOnly (onCore (wroteCore reg value) mid) s'

theorem wordAt_lt (frame : List UInt8) (index : ℕ) : wordAt frame index < 65536 := by
  have hbyte (index : ℕ) : byteAt frame index < 256 := UInt8.toNat_lt _
  have hhigh := hbyte index
  have hlow := hbyte (index + 1)
  unfold wordAt
  omega

/-- Only the write branch reports FC 06. -/
theorem mbCoreDecode_fc06 {mode : MbMode} {frame : List UInt8} {core : MbCore}
    (hfc : (mbCoreDecode mode frame core).fc = 6) :
    mbCoreDecode mode frame core = mbWriteReg frame core := by
  have hsilent : (DecodeOut.silent core).fc ≠ 6 := by simp [DecodeOut.silent]
  unfold mbCoreDecode at hfc ⊢
  split_ifs at hfc ⊢ with haccepted hcoils hregs hcoil hwrite
  · exact absurd hfc hsilent
  · unfold mbReadCoils at hfc
    dsimp only at hfc
    split_ifs at hfc
    · exact absurd hfc hsilent
    · rcases hcoils with h | h <;> exact absurd (h.symm.trans hfc) (by decide)
  · unfold mbReadRegs at hfc
    dsimp only at hfc
    split_ifs at hfc
    · exact absurd hfc hsilent
    · rcases hregs with h | h <;> exact absurd (h.symm.trans hfc) (by decide)
  · unfold mbWriteCoil at hfc
    dsimp only at hfc
    by_cases hrange : wordAt frame 2 ≥ mbCoilCount
    · rw [if_pos hrange] at hfc
      exact absurd hfc hsilent
    · rw [if_neg hrange] at hfc
      cases hfc
  · rfl
  · exact absurd hfc hsilent

/-- A request reported as FC 06 has written a word. -/
theorem mbCoreDecode_wrote {mode : MbMode} {frame : List UInt8} {core : MbCore}
    (hfc : (mbCoreDecode mode frame core).fc = 6) :
    ∃ reg value, value < 65536 ∧
      (mbCoreDecode mode frame core).core = wroteCore reg value core := by
  have hwrite := mbCoreDecode_fc06 hfc
  rw [hwrite] at hfc ⊢
  unfold mbWriteReg at hfc ⊢
  split
  · rename_i hrange
    rw [hrange] at hfc
    cases hfc
  · rename_i reg hrange
    exact ⟨reg, _, wordAt_lt frame 4, rfl⟩

theorem mbTcpBuildResponse_wrote {req : List UInt8} {core : MbCore}
    (hfc : (mbTcpBuildResponse req core).fc = 6) :
    ∃ reg value, value < 65536 ∧ (mbTcpBuildResponse req core).core = wroteCore reg value core := by
  unfold mbTcpBuildResponse at hfc ⊢
  split_ifs at hfc ⊢ with hreq
  · cases hfc
  · dsimp only at hfc ⊢
    split_ifs at hfc ⊢ <;> exact mbCoreDecode_wrote hfc

/-! ### The pass up to its write -/

theorem rtuPass_wrote {input : ModbusTickIn} {s : Sys} {link : MbLink}
    (hlink : (rtuPass input s).2 = some link) : Wrote s (rtuPass input s).1 := by
  unfold rtuPass at hlink ⊢
  by_cases hrx : input.rx = []
  · rw [if_pos hrx] at hlink
    cases hlink
  · rw [if_neg hrx] at hlink ⊢
    dsimp only at hlink ⊢
    split_ifs at hlink with hfc
    obtain ⟨reg, value, hvalue, hcore⟩ := mbCoreDecode_wrote hfc
    refine ⟨reg, value, hvalue, s, ReadOnly.refl s, ?_⟩
    have hdecoded : onCore (fun _ ↦ (mbCoreDecode .rtu input.rx s.modbus.core).core) s =
        onCore (wroteCore reg value) s := by
      rw [hcore]
      rfl
    rw [hdecoded]
    split_ifs
    · exact ReadOnly.refl _
    · exact readOnly_noteRemote _ _

theorem tcpWalkPass_wrote (input : TcpPollIn) (fuel index : ℕ) (rest : List UInt8) (s : Sys)
    (happlies : (tcpWalkPass input fuel index rest s).applies = true) :
    Wrote s (tcpWalkPass input fuel index rest s).sys := by
  induction fuel generalizing index rest s with
  | zero => cases happlies
  | succ fuel ih =>
    unfold tcpWalkPass at happlies ⊢
    cases hpeek : mbTcpFramePeek rest with
    | needMore =>
      rw [hpeek] at happlies
      cases happlies
    | desync =>
      rw [hpeek] at happlies
      cases happlies
    | ok length =>
      rw [hpeek] at happlies
      dsimp only at happlies ⊢
      generalize hout : mbTcpBuildResponse (rest.take length) s.modbus.core = out at happlies ⊢
      have hread (hfc : out.fc ≠ 6) : ReadOnly s (onCore (fun _ ↦ out.core) s) := by
        subst hout
        cases mbTcpBuildResponse_cases (rest.take length) s.modbus.core with
        | quiet _ hholding haddr hlast => exact readOnly_onCore hholding haddr hlast
        | wrote _ _ hwrote => exact absurd hwrote hfc
      have hnoted (t : Sys) : ReadOnly t (onTcp (fun tcp ↦ { tcp with lastRxMs := input.tRx index })
          (appModbusNoteRemote (input.tReq index) t)) :=
        (readOnly_noteRemote _ t).trans (readOnly_onTcp _ _)
      have hlater {t : Sys} (hmid : ReadOnly s t)
          (happly : (tcpWalkPass input fuel (index + 1) (rest.drop length) t).applies = true) :
          Wrote s (tcpWalkPass input fuel (index + 1) (rest.drop length) t).sys := by
        obtain ⟨reg, value, hvalue, mid, hbefore, hafter⟩ := ih _ _ _ happly
        exact ⟨reg, value, hvalue, mid, hmid.trans hbefore, hafter⟩
      by_cases hfc : out.fc = 6
      · obtain ⟨reg, value, hvalue, hcore⟩ := mbTcpBuildResponse_wrote (hout ▸ hfc)
        have hdecoded : onCore (fun _ ↦ out.core) s = onCore (wroteCore reg value) s := by
          rw [← hout, hcore]
          rfl
        have hresp : out.resp ≠ [] := by
          subst hout
          cases mbTcpBuildResponse_cases (rest.take length) s.modbus.core with
          | quiet hquiet => exact absurd hfc hquiet
          | wrote _ _ _ hlength => exact List.ne_nil_of_length_pos (by omega)
        rw [if_neg hresp, if_pos hfc]
        refine ⟨reg, value, hvalue, s, ReadOnly.refl s, ?_⟩
        rw [hdecoded]
        exact hnoted _
      · have hdecoded := hread hfc
        split_ifs at happlies ⊢
        · exact hlater hdecoded happlies
        · exact hlater (hdecoded.trans (hnoted _)) happlies

theorem tcpPass_wrote {input : TcpPollIn} {s : Sys} {link : MbLink}
    (hlink : (tcpPass input s).2 = some link) : Wrote s (tcpPass input s).1 := by
  unfold tcpPass at hlink ⊢
  dsimp only at hlink ⊢
  by_cases hsocket : input.established = false
  · rw [if_pos hsocket] at hlink
    cases hlink
  · rw [if_neg hsocket] at hlink ⊢
    dsimp only at hlink ⊢
    split_ifs at hlink with happlies
    obtain ⟨reg, value, hvalue, mid, hbefore, hafter⟩ := tcpWalkPass_wrote _ _ _ _ _ happlies
    exact ⟨reg, value, hvalue, mid, (readOnly_onTcp _ s).trans hbefore,
      hafter.trans (readOnly_onTcp _ _)⟩

/-- A request to apply was decoded in the mirrored state of its tick. -/
theorem modbusPass_wrote {build : Build} {input : ModbusTickIn} {s : Sys} {link : MbLink}
    (hlink : (modbusPass build input s).2 = some link) :
    ∃ mirrored, tickMirror build input s = some mirrored ∧
      Wrote mirrored (modbusPass build input s).1 := by
  unfold modbusPass servePass at hlink ⊢
  unfold tickMirror
  dsimp only
  split_ifs at hlink ⊢
  · exact ⟨_, rfl, rtuPass_wrote hlink⟩
  · exact ⟨_, rfl, tcpPass_wrote hlink⟩

/-- A request that is not applied has written nothing. -/
theorem rtuPass_readOnly {input : ModbusTickIn} {s : Sys} (hlink : (rtuPass input s).2 = none) :
    ReadOnly s (rtuPass input s).1 := by
  unfold rtuPass at hlink ⊢
  by_cases hrx : input.rx = []
  · rw [if_pos hrx]
    exact ReadOnly.refl s
  · rw [if_neg hrx] at hlink ⊢
    dsimp only at hlink ⊢
    split_ifs at hlink with hfc
    have hdecoded :
        ReadOnly s (onCore (fun _ ↦ (mbCoreDecode .rtu input.rx s.modbus.core).core) s) := by
      cases mbCoreDecode_cases .rtu input.rx s.modbus.core with
      | quiet _ hholding haddr hlast => exact readOnly_onCore hholding haddr hlast
      | wrote _ _ hwrote => exact absurd hwrote hfc
    split_ifs
    · exact hdecoded
    · exact hdecoded.trans (readOnly_noteRemote _ _)

theorem tcpWalkPass_readOnly (input : TcpPollIn) (fuel index : ℕ) (rest : List UInt8) (s : Sys)
    (happlies : (tcpWalkPass input fuel index rest s).applies = false) :
    ReadOnly s (tcpWalkPass input fuel index rest s).sys := by
  induction fuel generalizing index rest s with
  | zero => exact ReadOnly.refl s
  | succ fuel ih =>
    unfold tcpWalkPass at happlies ⊢
    cases hpeek : mbTcpFramePeek rest with
    | needMore => exact ReadOnly.refl s
    | desync => exact ReadOnly.refl s
    | ok length =>
      rw [hpeek] at happlies
      dsimp only at happlies ⊢
      cases mbTcpBuildResponse_cases (rest.take length) s.modbus.core with
      | quiet hfc hholding haddr hlast =>
        have hdecoded := readOnly_onCore (s := s) hholding haddr hlast
        rw [if_neg hfc] at happlies ⊢
        split_ifs at happlies ⊢
        · exact hdecoded.trans (ih _ _ _ happlies)
        · exact (hdecoded.trans ((readOnly_noteRemote _ _).trans (readOnly_onTcp _ _))).trans
            (ih _ _ _ happlies)
      | wrote _ _ hfc hresp =>
        rw [if_neg (List.ne_nil_of_length_pos (by omega)), if_pos hfc] at happlies
        cases happlies

theorem tcpPass_readOnly {input : TcpPollIn} {s : Sys} (hlink : (tcpPass input s).2 = none) :
    ReadOnly s (tcpPass input s).1 := by
  have hcontrol : ReadOnly s (controlTcp input s) := readOnly_onTcp _ s
  unfold tcpPass at hlink ⊢
  dsimp only at hlink ⊢
  by_cases hsocket : input.established = false
  · rw [if_pos hsocket]
    exact hcontrol
  · rw [if_neg hsocket] at hlink ⊢
    dsimp only at hlink ⊢
    split_ifs at hlink with happlies
    exact (hcontrol.trans (tcpWalkPass_readOnly _ _ _ _ _ (by simpa using happlies))).trans
      (readOnly_onTcp _ _)

/-- A tick without a request to apply only mirrors, or serves no transport at all. -/
theorem modbusPass_readOnly {build : Build} {input : ModbusTickIn} {s : Sys}
    (hlink : (modbusPass build input s).2 = none) :
    (∃ mirrored, tickMirror build input s = some mirrored ∧
        ReadOnly mirrored (modbusPass build input s).1) ∨
      (tickMirror build input s = none ∧
        (modbusPass build input s).1 = tcpLeave (modbusHead build input s)) := by
  unfold modbusPass servePass at hlink ⊢
  unfold tickMirror
  dsimp only
  split_ifs at hlink ⊢
  · exact Or.inl ⟨_, rfl, rtuPass_readOnly hlink⟩
  · exact Or.inl ⟨_, rfl, tcpPass_readOnly hlink⟩
  · exact Or.inr ⟨rfl, rfl⟩

/-! ### Command registers -/

/-- The registers that the mirror never touches because the apply erases them. -/
def MbReg.isCommand : MbReg → Bool
  | .reset | .seek | .start | .stop | .cfgCtrl => true
  | _ => false

/-- The values of a register on which no command branch acts. -/
def MbReg.Idle (reg : MbReg) (value : ℕ) : Prop :=
  match reg with
  | .reset | .seek | .stop => value ≠ 1
  | .start | .cfgCtrl => value = 0
  | _ => True

instance (reg : MbReg) (value : ℕ) : Decidable (reg.Idle value) := by
  unfold MbReg.Idle
  split <;> infer_instance

theorem MbReg.idle_zero (reg : MbReg) : reg.Idle 0 := by
  cases reg <;> simp [MbReg.Idle]

/-- No command register asks for anything. -/
def CommandsIdle (s : Sys) : Prop := ∀ reg : MbReg, reg.Idle (holding s reg)

theorem CommandsIdle.of_core {s s' : Sys} (hcore : s'.modbus.core = s.modbus.core)
    (hs : CommandsIdle s) : CommandsIdle s' := by
  intro reg
  rw [holding, hcore]
  exact hs reg

/-- The mirror leaves the command registers alone. -/
theorem mirrorValue_command {build : Build} {sensDn : Bool} {s : Sys} {reg : MbReg}
    (hcommand : reg.isCommand = true) : mirrorValue build sensDn s reg = none := by
  cases reg <;> first | rfl | cases hcommand

theorem holding_mirrorLive (build : Build) (sensDn : Bool) (s : Sys) (reg : MbReg) :
    holding (mirrorLive build sensDn s) reg =
      (mirrorValue build sensDn s reg).getD (holding s reg) := rfl

theorem CommandsIdle.mirrorLive {s : Sys} (hs : CommandsIdle s) (build : Build) (sensDn : Bool) :
    CommandsIdle (mirrorLive build sensDn s) := by
  intro reg
  cases hcommand : reg.isCommand with
  | true =>
    rw [holding_mirrorLive, mirrorValue_command hcommand]
    exact hs reg
  | false => cases reg <;> trivial

theorem commandsIdle_init {s : Sys} {addr : ℕ} (hcore : s.modbus.core = mbCoreInit addr) :
    CommandsIdle s := by
  intro reg
  rw [holding, hcore]
  exact reg.idle_zero

theorem CommandsIdle.applyConfig {s : Sys} (hs : CommandsIdle s) (build : Build) (sensDn : Bool) :
    CommandsIdle (applyConfig build sensDn s) := by
  unfold UsCtrl.applyConfig
  dsimp only
  split_ifs
  · exact hs
  · exact hs
  · exact hs
  · exact CommandsIdle.mirrorLive (commandsIdle_init rfl) build sensDn

theorem appRegCommand_modbus (cmd : UsCmd) (src : UsRun) (now : ℕ) (s : Sys) :
    (appRegCommand cmd src now s).modbus = s.modbus := by
  rw [appRegCommand_eq]

theorem holdWdtBlock_core (tHold : ℕ) (s : Sys) :
    (holdWdtBlock tHold s).modbus.core = s.modbus.core := by
  unfold holdWdtBlock
  dsimp only
  split_ifs
  · rw [appRegCommand_modbus]
    rfl
  · rfl

theorem remoteEnStep_core (build : Build) (tGate : ℕ) (pin : Bool) (s : Sys) :
    (remoteEnStep build tGate pin s).modbus.core = s.modbus.core := by
  unfold remoteEnStep
  cases build.model <;> rfl

theorem CommandsIdle.modbusHead {s : Sys} (hs : CommandsIdle s) (build : Build)
    (input : ModbusTickIn) : CommandsIdle (modbusHead build input s) := by
  refine CommandsIdle.applyConfig ?_ build input.sensDnAcquire
  refine CommandsIdle.of_core (s := s) ?_ hs
  exact (holdWdtBlock_core input.tHold _).trans (remoteEnStep_core build input.tGate _ s)

theorem CommandsIdle.tcpEnter {s : Sys} (hs : CommandsIdle s) : CommandsIdle (tcpEnter s) := by
  unfold UsCtrl.tcpEnter
  split_ifs
  · exact hs
  · exact commandsIdle_init rfl

theorem CommandsIdle.tcpLeave {s : Sys} (hs : CommandsIdle s) : CommandsIdle (tcpLeave s) := by
  unfold UsCtrl.tcpLeave
  split_ifs
  · exact hs
  · exact hs

theorem CommandsIdle.tickMirror {build : Build} {input : ModbusTickIn} {s mirrored : Sys}
    (hs : CommandsIdle s) (hmirrored : tickMirror build input s = some mirrored) :
    CommandsIdle mirrored := by
  have hhead := hs.modbusHead build input
  unfold UsCtrl.tickMirror at hmirrored
  dsimp only at hmirrored
  split_ifs at hmirrored
  · obtain rfl := Option.some.inj hmirrored
    exact hhead.tcpLeave.mirrorLive build input.sensDn
  · obtain rfl := Option.some.inj hmirrored
    exact hhead.tcpEnter.mirrorLive build input.sensDn

/-! ### The point of an apply -/

/-- The tables just before an apply: mirrored and without commands, but for the register that the
request has written. -/
structure ApplyPoint (build : Build) (sensDn : Bool) (reg : MbReg) (value : ℕ) (s : Sys) :
    Prop where
  last : s.modbus.core.lastWriteAddr = some reg
  written : holding s reg = value
  bound : value < 65536
  mirrored : ∀ other, other ≠ reg → ∀ shown, mirrorValue build sensDn s other = some shown →
    holding s other = shown
  idle : ∀ other, other ≠ reg → other.Idle (holding s other)

theorem ApplyPoint.counted {build : Build} {sensDn : Bool} {reg : MbReg} {value : ℕ} {s : Sys}
    (h : ApplyPoint build sensDn reg value s) :
    ApplyPoint build sensDn reg value (countApply s) :=
  ⟨h.last, h.written, h.bound, h.mirrored, h.idle⟩

/-- The mirror does not read the tables, the request stamp or the TCP server. -/
theorem mirrorValue_readOnly (build : Build) (sensDn : Bool) {s s' : Sys} (h : ReadOnly s s')
    (reg : MbReg) : mirrorValue build sensDn s' reg = mirrorValue build sensDn s reg := by
  obtain ⟨coils, remoteMs, remoteSeen, tcp, rfl⟩ := h
  cases reg <;> rfl

theorem mirrorValue_onCore (build : Build) (sensDn : Bool) (update : MbCore → MbCore) (s : Sys)
    (reg : MbReg) :
    mirrorValue build sensDn (onCore update s) reg = mirrorValue build sensDn s reg := by
  cases reg <;> rfl

theorem holding_readOnly {s s' : Sys} (h : ReadOnly s s') : holding s' = holding s := by
  obtain ⟨coils, remoteMs, remoteSeen, tcp, rfl⟩ := h
  rfl

theorem lastWriteAddr_readOnly {s s' : Sys} (h : ReadOnly s s') :
    s'.modbus.core.lastWriteAddr = s.modbus.core.lastWriteAddr := by
  obtain ⟨coils, remoteMs, remoteSeen, tcp, rfl⟩ := h
  rfl

/-- A mirrored state shows what the mirror shows. -/
theorem tickMirror_shown {build : Build} {input : ModbusTickIn} {s mirrored : Sys}
    (hmirrored : tickMirror build input s = some mirrored) (reg : MbReg) (shown : ℕ)
    (hshown : mirrorValue build input.sensDn mirrored reg = some shown) :
    holding mirrored reg = shown := by
  have hlive (t : Sys) (ht : mirrorValue build input.sensDn (mirrorLive build input.sensDn t) reg =
      some shown) : holding (mirrorLive build input.sensDn t) reg = shown := by
    rw [mirrorLive, mirrorValue_onCore] at ht
    rw [holding_mirrorLive, ht, Option.getD_some]
  unfold tickMirror at hmirrored
  dsimp only at hmirrored
  split_ifs at hmirrored
  · obtain rfl := Option.some.inj hmirrored
    exact hlive _ hshown
  · obtain rfl := Option.some.inj hmirrored
    exact hlive _ hshown

/-- What the tables hold after a write, register by register. -/
theorem Wrote.holding {s s' : Sys} (h : Wrote s s') : ∃ reg value, value < 65536 ∧
    s'.modbus.core.lastWriteAddr = some reg ∧
      holding s' = Function.update (holding s) reg value := by
  obtain ⟨reg, value, hvalue, mid, hbefore, hafter⟩ := h
  refine ⟨reg, value, hvalue, lastWriteAddr_readOnly hafter, ?_⟩
  rw [holding_readOnly hafter, ← holding_readOnly hbefore]
  rfl

theorem Wrote.mirrorValue {s s' : Sys} (h : Wrote s s') (build : Build) (sensDn : Bool)
    (reg : MbReg) : mirrorValue build sensDn s' reg = mirrorValue build sensDn s reg := by
  obtain ⟨_, _, _, mid, hbefore, hafter⟩ := h
  rw [mirrorValue_readOnly build sensDn hafter, mirrorValue_onCore,
    mirrorValue_readOnly build sensDn hbefore]

/-- Assumes: no command is pending before a tick that leaves a request to apply. Then the request is
applied from an apply point. -/
theorem modbusPass_point {build : Build} {input : ModbusTickIn} {s : Sys} {link : MbLink}
    (hs : CommandsIdle s) (hlink : (modbusPass build input s).2 = some link) :
    ∃ reg value, ApplyPoint build input.sensDn reg value (modbusPass build input s).1 := by
  obtain ⟨mirrored, hmirrored, hwrote⟩ := modbusPass_wrote hlink
  obtain ⟨reg, value, hvalue, hlast, hholding⟩ := hwrote.holding
  refine ⟨reg, value, hlast, ?_, hvalue, fun other hother shown hshown ↦ ?_, fun other hother ↦ ?_⟩
  · rw [hholding, Function.update_self]
  · rw [hholding, Function.update_of_ne hother]
    rw [hwrote.mirrorValue] at hshown
    exact tickMirror_shown hmirrored other shown hshown
  · rw [hholding, Function.update_of_ne hother]
    exact hs.tickMirror hmirrored other

/-! ### The chain is a look-up -/

/-- The register each branch of the chain belongs to, in source order. -/
def applyKeys : List MbReg :=
  [.reset, .seek, .start, .stop, .cfgCtrl, .delay1, .delay2, .delay3, .trigger2, .trigger3,
   .outPower, .onTime, .energy, .multiT1, .multiT2, .multiO1, .multiO2, .timeover, .runMode,
   .enEnergy, .enMulti, .enSafty, .hornCmd, .modelFreq, .modelType, .calVal, .freqCalVal, .workCntL]

/-- The branch of a register. -/
def ruleOf (link : MbLink) (input : ApplyIn) (reg : MbReg) : Option ApplyRule :=
  (applyKeys.zip (applyRules link input)).lookup reg

/-- The branch of a register that shows what the mirror shows and asks for no command is closed,
but for the counter branch, which also reads which register was written. -/
theorem applyRules_shown {build : Build} {sensDn : Bool} {s : Sys} (link : MbLink)
    (input : ApplyIn) : ∀ entry ∈ applyKeys.zip (applyRules link input),
      (∀ shown, mirrorValue build sensDn s entry.1 = some shown → holding s entry.1 = shown) →
      entry.1.Idle (holding s entry.1) →
      (entry.1 = .workCntL → workCntRule.guard s = false) → entry.2.guard s = false := by
  have hcfg (reg : MbReg) (shown : AppConfig → ℕ) (store : ℕ → AppConfig → AppConfig)
      (hvalue : mirrorValue build sensDn s reg = some (shown s.cfg)) :
      (∀ word, mirrorValue build sensDn s reg = some word → holding s reg = word) →
        (cfgRule reg shown store).guard s = false := by
    intro hread
    exact decide_eq_false (not_not.mpr (hread _ hvalue))
  have henable (reg : MbReg) (shown : AppConfig → Bool) (store : Bool → AppConfig → AppConfig)
      (hvalue : mirrorValue build sensDn s reg = some (shown s.cfg).toNat) :
      (∀ word, mirrorValue build sensDn s reg = some word → holding s reg = word) →
        (enableRule reg shown store).guard s = false := by
    intro hread
    simp only [enableRule, hread _ hvalue]
    cases shown s.cfg <;> rfl
  simp only [applyKeys, applyRules, commandRules, configRules, List.cons_append, List.nil_append,
    List.zip_cons_cons, List.zip_nil_right, List.forall_mem_cons, List.not_mem_nil, false_implies,
    implies_true, and_true]
  refine ⟨fun _ h _ ↦ decide_eq_false h, fun _ h _ ↦ decide_eq_false h,
    fun _ h _ ↦ decide_eq_false (not_not.mpr h), fun _ h _ ↦ decide_eq_false h,
    fun _ h _ ↦ decide_eq_false (not_not.mpr h),
    fun h _ _ ↦ hcfg _ _ _ rfl h, fun h _ _ ↦ hcfg _ _ _ rfl h, fun h _ _ ↦ hcfg _ _ _ rfl h,
    fun h _ _ ↦ hcfg _ _ _ rfl h, fun h _ _ ↦ hcfg _ _ _ rfl h, fun h _ _ ↦ hcfg _ _ _ rfl h,
    fun h _ _ ↦ hcfg _ _ _ rfl h, fun h _ _ ↦ hcfg _ _ _ rfl h, fun h _ _ ↦ hcfg _ _ _ rfl h,
    fun h _ _ ↦ hcfg _ _ _ rfl h, fun h _ _ ↦ hcfg _ _ _ rfl h, fun h _ _ ↦ hcfg _ _ _ rfl h,
    fun h _ _ ↦ hcfg _ _ _ rfl h, fun h _ _ ↦ hcfg _ _ _ rfl h, fun h _ _ ↦ henable _ _ _ rfl h,
    fun h _ _ ↦ henable _ _ _ rfl h, fun h _ _ ↦ ?_, fun h _ _ ↦ ?_,
    fun h _ _ ↦ hcfg _ _ _ rfl h, fun h _ _ ↦ hcfg _ _ _ rfl h, fun h _ _ ↦ hcfg _ _ _ rfl h,
    fun h _ _ ↦ hcfg _ _ _ rfl h, fun _ _ h ↦ h trivial⟩
  · exact decide_eq_false (not_not.mpr (h _ rfl))
  · exact decide_eq_false (not_not.mpr (h _ rfl))

/-- At an apply point the branches of the other registers are closed. -/
theorem applyRules_closed {build : Build} {sensDn : Bool} {reg : MbReg} {value : ℕ} {s : Sys}
    (hpoint : ApplyPoint build sensDn reg value s) (link : MbLink) (input : ApplyIn) :
    ∀ entry ∈ applyKeys.zip (applyRules link input), entry.1 ≠ reg → entry.2.guard s = false := by
  intro entry hentry hother
  refine applyRules_shown link input entry hentry (hpoint.mirrored entry.1 hother)
    (hpoint.idle entry.1 hother) fun hcount ↦ ?_
  have hlast : ¬ s.modbus.core.lastWriteAddr = some .workCntL := by
    rw [hpoint.last]
    exact fun heq ↦ hother (hcount.trans (Option.some.inj heq).symm)
  simp [workCntRule, hlast]

theorem applyKeys_nodup : applyKeys.Nodup := by decide

/-- At an apply point the chain is the branch of the written register, or the staged scan. -/
theorem applyChain_lookup {build : Build} {sensDn : Bool} {reg : MbReg} {value : ℕ} {s : Sys}
    (hpoint : ApplyPoint build sensDn reg value s) (link : MbLink) (input : ApplyIn) :
    firstMatch (fun s ↦ (stagedScan input.tStage s, false)) (applyRules link input) s =
      firstMatch (fun s ↦ (stagedScan input.tStage s, false)) (ruleOf link input reg).toList s := by
  have hrules : applyRules link input =
      (applyKeys.zip (applyRules link input)).map Prod.snd := rfl
  have hkeys : (applyKeys.zip (applyRules link input)).map Prod.fst = applyKeys := rfl
  conv_lhs => rw [hrules]
  exact firstMatch_lookup reg (hkeys ▸ applyKeys_nodup) (applyRules_closed hpoint link input)

/-! ### What an apply does to the tables -/

theorem startCmdBody_core (value : ℕ) (input : ApplyIn) (s : Sys) :
    (startCmdBody value input s).modbus.core = s.modbus.core := by
  have hstart : (appLcdHookSetPot s.cfg.outputPower
      (appRegCommand .start .comm input.tCmd s)).modbus.core = s.modbus.core :=
    congrArg ModbusGlue.core (appRegCommand_modbus .start .comm input.tCmd s)
  unfold startCmdBody
  split_ifs
  · exact hstart
  · exact hstart
  · rfl
  · rfl
  · rfl
  · rfl

theorem cfgCtrlBody_core (link : MbLink) (ctrl : ℕ) (s : Sys) :
    (cfgCtrlBody link ctrl s).1.modbus.core = s.modbus.core := by
  unfold cfgCtrlBody
  dsimp only
  split_ifs <;> rfl

theorem stagedScan_core (tStage : ℕ) (s : Sys) :
    (stagedScan tStage s).modbus.core = s.modbus.core := by
  unfold stagedScan
  split <;> rfl

/-- The configuration branches leave the Modbus glue alone. -/
theorem configRules_modbus (s : Sys) :
    ∀ rule ∈ configRules, (rule.act s).1.modbus = s.modbus := by
  have hcfg (reg : MbReg) (shown : AppConfig → ℕ) (store : ℕ → AppConfig → AppConfig) :
      ((cfgRule reg shown store).act s).1.modbus = s.modbus := rfl
  have henable (reg : MbReg) (shown : AppConfig → Bool) (store : Bool → AppConfig → AppConfig) :
      ((enableRule reg shown store).act s).1.modbus = s.modbus := rfl
  have hsafty : (saftyRule.act s).1.modbus = s.modbus := by
    simp only [saftyRule]
    split_ifs <;> rfl
  have hhorn : (hornRule.act s).1.modbus = s.modbus := (blind_hornSetMode _).modbus s
  have hcount : (workCntRule.act s).1.modbus = s.modbus := rfl
  simp only [configRules, List.forall_mem_cons, List.not_mem_nil, false_implies, implies_true,
    hcfg, henable, hsafty, hhorn, hcount, and_self]

theorem commandRules_closed (link : MbLink) (input : ApplyIn) {s : Sys} (hs : CommandsIdle s) :
    ∀ rule ∈ commandRules link input, rule.guard s = false := by
  simp only [commandRules, List.forall_mem_cons, List.not_mem_nil, false_implies, implies_true,
    and_true]
  exact ⟨decide_eq_false (hs .reset), decide_eq_false (hs .seek),
    decide_eq_false (not_not.mpr (hs .start)), decide_eq_false (hs .stop),
    decide_eq_false (not_not.mpr (hs .cfgCtrl))⟩

theorem applyChain_modbus (link : MbLink) (input : ApplyIn) (s : Sys) :
    (applyChain link input s).modbus = (firstMatch (fun s ↦ (stagedScan input.tStage s, false))
      (applyRules link input) s).1.modbus := by
  unfold applyChain
  dsimp only
  split_ifs <;> rfl

/-- Without a pending command the chain leaves the tables alone. -/
theorem applyChain_core_idle (link : MbLink) (input : ApplyIn) {s : Sys} (hs : CommandsIdle s) :
    (applyChain link input s).modbus.core = s.modbus.core := by
  rw [applyChain_modbus]
  refine firstMatch_induction (fun result : Sys × Bool ↦ result.1.modbus.core = s.modbus.core)
    (stagedScan_core _ s) fun rule hrule hguard ↦ ?_
  rcases List.mem_append.mp hrule with h | h
  · rw [commandRules_closed link input hs rule h] at hguard
    cases hguard
  · rw [configRules_modbus s rule h]

/-- Assumes: the written register has an open branch. Then the chain is that branch. -/
theorem applyChain_open {build : Build} {sensDn : Bool} {reg : MbReg} {value : ℕ} {s : Sys}
    (hpoint : ApplyPoint build sensDn reg value s) {link : MbLink} {input : ApplyIn}
    {rule : ApplyRule} (hrule : ruleOf link input reg = some rule) (hguard : rule.guard s = true) :
    firstMatch (fun s ↦ (stagedScan input.tStage s, false)) (applyRules link input) s =
      rule.act s := by
  rw [applyChain_lookup hpoint, hrule]
  exact if_pos hguard

/-- Assumes: the written register has no open branch. Then the chain is the staged scan. -/
theorem applyChain_scan {build : Build} {sensDn : Bool} {reg : MbReg} {value : ℕ} {s : Sys}
    (hpoint : ApplyPoint build sensDn reg value s) {link : MbLink} {input : ApplyIn}
    (hguard : ∀ rule, ruleOf link input reg = some rule → rule.guard s = false) :
    firstMatch (fun s ↦ (stagedScan input.tStage s, false)) (applyRules link input) s =
      (stagedScan input.tStage s, false) := by
  rw [applyChain_lookup hpoint]
  cases hrule : ruleOf link input reg with
  | none => rfl
  | some rule => exact if_neg (by rw [hguard rule hrule]; exact Bool.false_ne_true)

/-- Assumes: an apply point whose register asks for a command. Then the chain erases that
register. -/
theorem applyChain_core_command {build : Build} {sensDn : Bool} {reg : MbReg} {value : ℕ} {s : Sys}
    (hpoint : ApplyPoint build sensDn reg value s) (hcommand : ¬ reg.Idle value) (link : MbLink)
    (input : ApplyIn) :
    (applyChain link input s).modbus.core = s.modbus.core.setReg reg 0 := by
  have hread := hpoint.written
  rw [applyChain_modbus]
  cases reg with
  | reset =>
    have hguard : holding s .reset = 1 := hread.trans (not_not.mp hcommand)
    rw [applyChain_open hpoint rfl (decide_eq_true hguard)]
    change ((appRegCommand .reset .comm 0 s).modbus.core).setReg .reset 0 = _
    rw [appRegCommand_modbus]
  | seek =>
    have hguard : holding s .seek = 1 := hread.trans (not_not.mp hcommand)
    rw [applyChain_open hpoint rfl (decide_eq_true hguard)]
    change ((appRegCommand .seek .comm 0 s).modbus.core).setReg .seek 0 = _
    rw [appRegCommand_modbus]
  | start =>
    have hguard : holding s .start ≠ 0 := hread ▸ hcommand
    rw [applyChain_open hpoint rfl (decide_eq_true hguard)]
    exact startCmdBody_core _ input (setHolding .start 0 s)
  | stop =>
    have hguard : holding s .stop = 1 := hread.trans (not_not.mp hcommand)
    rw [applyChain_open hpoint rfl (decide_eq_true hguard)]
    change ((appRegCommand .runRelease .comm 0 s).modbus.core).setReg .stop 0 = _
    rw [appRegCommand_modbus]
  | cfgCtrl =>
    have hguard : holding s .cfgCtrl ≠ 0 := hread ▸ hcommand
    rw [applyChain_open hpoint rfl (decide_eq_true hguard)]
    exact cfgCtrlBody_core link _ (setHolding .cfgCtrl 0 s)
  | _ => exact absurd trivial hcommand

/-- A closed gate erases the command registers and touches nothing else of the Modbus glue. -/
theorem gateRejectBody_modbus (s : Sys) : (gateRejectBody s).modbus =
    { s.modbus with
      core := ((((s.modbus.core.setReg .reset 0).setReg .seek 0).setReg .start 0).setReg
      .stop 0).setReg .cfgCtrl 0 } := by
  have hset (reg : MbReg) (t : Sys) :
      (setHolding reg 0 t).modbus = { t.modbus with core := t.modbus.core.setReg reg 0 } := rfl
  unfold gateRejectBody
  dsimp only
  rw [hset, hset]
  split_ifs
  · rw [appRegCommand_modbus]
    rfl
  · rfl

theorem gateRejectBody_holding (s : Sys) (reg : MbReg) :
    holding (gateRejectBody s) reg = if reg.isCommand then 0 else holding s reg := by
  unfold holding
  rw [gateRejectBody_modbus]
  cases reg <;> rfl

/-- What an apply leaves in a register: a command that was acted on or turned away is erased. -/
theorem appModbusApplyWrites_holding {build : Build} {sensDn : Bool} {reg : MbReg} {value : ℕ}
    {s : Sys} (hpoint : ApplyPoint build sensDn reg value s) (link : MbLink) (input : ApplyIn)
    (other : MbReg) :
    holding (appModbusApplyWrites build link input s) other =
      if other.isCommand = true ∧
        (gateClosed build s = true ∨ ¬ other.Idle (holding s other)) then 0
      else holding s other := by
  have hcounted := hpoint.counted
  unfold appModbusApplyWrites
  cases hgate : gateClosed build s with
  | true =>
    rw [if_pos rfl, gateRejectBody_holding]
    simp only [true_or, and_true]
    rfl
  | false =>
    simp only [Bool.false_eq_true, if_false, false_or]
    by_cases hidle : reg.Idle value
    · have hall : CommandsIdle (countApply s) := by
        intro next
        by_cases hnext : next = reg
        · subst hnext
          rw [hcounted.written]
          exact hidle
        · exact hcounted.idle next hnext
      rw [if_neg fun h ↦ h.2 (hall other)]
      unfold holding
      rw [applyChain_core_idle link input hall]
      rfl
    · have hcore := applyChain_core_command hcounted hidle link input
      have hread : holding (applyChain link input (countApply s)) other =
          Function.update (holding s) reg 0 other := by
        unfold holding
        rw [hcore]
        rfl
      rw [hread]
      by_cases hother : other = reg
      · subst hother
        have hcommand : other.isCommand = true := by
          cases other <;> first | rfl | exact absurd trivial hidle
        rw [Function.update_self, if_pos ⟨hcommand, by rw [hpoint.written]; exact hidle⟩]
      · rw [Function.update_of_ne hother, if_neg fun h ↦ h.2 (hpoint.idle other hother)]

/-- An apply leaves no command pending. -/
theorem appModbusApplyWrites_idle {build : Build} {sensDn : Bool} {reg : MbReg} {value : ℕ}
    {s : Sys} (hpoint : ApplyPoint build sensDn reg value s) (link : MbLink) (input : ApplyIn) :
    CommandsIdle (appModbusApplyWrites build link input s) := by
  intro other
  rw [appModbusApplyWrites_holding hpoint]
  split_ifs with herased
  · exact other.idle_zero
  · cases hcommand : other.isCommand with
    | true => exact not_not.mp fun h ↦ herased ⟨hcommand, Or.inr h⟩
    | false => cases other <;> trivial

/-! ### No command is ever pending -/

/-- Assumes: no command is pending before a tick. Then none is pending after it. -/
theorem CommandsIdle.appModbusTick {s : Sys} (hs : CommandsIdle s) (build : Build)
    (input : ModbusTickIn) : CommandsIdle (appModbusTick build input s) := by
  rw [appModbusTick_eq_pass]
  unfold finishPass
  cases hlink : (modbusPass build input s).2 with
  | none =>
    rcases modbusPass_readOnly hlink with ⟨mirrored, hmirrored, hread⟩ | ⟨-, hleave⟩
    · intro reg
      rw [holding_readOnly hread]
      exact hs.tickMirror hmirrored reg
    · rw [hleave]
      exact (hs.modbusHead build input).tcpLeave
  | some link =>
    obtain ⟨reg, value, hpoint⟩ := modbusPass_point hs hlink
    exact appModbusApplyWrites_idle hpoint link input.apply

/-- In every reachable state no command is pending. -/
theorem after_commandsIdle (build : Build) (boot : BootIn) (history : List Call) :
    CommandsIdle (stateAfter build boot history) := by
  refine (controller build boot).invariant CommandsIdle ?_ (fun call s hs ↦ ?_) history
  · have hinit : (appInit boot (resetState build boot)).modbus.core = mbCoreInit 0 :=
      congrArg ModbusGlue.core (blind_initMode boot.tPage |>.modbus _)
    exact CommandsIdle.applyConfig (commandsIdle_init hinit) build boot.sensDn
  · change CommandsIdle (call.exec build s)
    by_cases hkind : call.kind = .modbus
    · cases call with
      | modbusTick input => exact hs.appModbusTick build input
      | _ => cases hkind
    · exact CommandsIdle.of_core (congrArg ModbusGlue.core (exec_modbus build hkind s)) hs

/-- Every apply of a run starts from an apply point. -/
theorem after_point {build : Build} {boot : BootIn} {history : List Call} {input : ModbusTickIn}
    {link : MbLink}
    (hlink : (modbusPass build input (stateAfter build boot history)).2 = some link) :
    ∃ reg value, ApplyPoint build input.sensDn reg value
      (modbusPass build input (stateAfter build boot history)).1 :=
  modbusPass_point (after_commandsIdle build boot history) hlink

end UsCtrl
