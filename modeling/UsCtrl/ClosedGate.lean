import UsCtrl.WriteEffect

/-!
# The closed gate

A write that meets a closed gate has already landed in the tables when it is turned away. What it
leaves there never acts: two runs that differ in such a residue, in registers other than the
commands, agree in everything else for ever (`Residue`, `residue_run`).

With the gate closed, an apply therefore changes nothing but the tables, and a run in which the
request had written the reserved register instead is the same run up to the tables
(`closed_gate_blind`). Only STOP = 1 is honoured.
-/

set_option autoImplicit false
set_option relaxedAutoImplicit false

namespace UsCtrl

open Foundation

/-! ### Handlers that do not look at the tables -/

/-- The state with the tables replaced. -/
def withCore (core : MbCore) (s : Sys) : Sys := onCore (fun _ ↦ core) s

/-- A handler that neither looks at the tables nor changes them. -/
def CoreBlind (handler : Sys → Sys) : Prop :=
  ∀ core s, handler (withCore core s) = withCore core (handler s)

theorem CoreBlind.core {handler : Sys → Sys} (hblind : CoreBlind handler) (s : Sys) :
    (handler s).modbus.core = s.modbus.core := by
  have hsame : (handler (withCore s.modbus.core s)).modbus.core = s.modbus.core := by
    rw [hblind s.modbus.core s]
    rfl
  exact hsame

theorem CoreBlind.comp {f g : Sys → Sys} (hg : CoreBlind g) (hf : CoreBlind f) :
    CoreBlind fun s ↦ g (f s) := by
  intro core s
  change g (f (withCore core s)) = withCore core (g (f s))
  rw [hf core s, hg core (f s)]

/-- A handler that does not see the Modbus glue does not see its tables. -/
theorem Blind.coreBlind {handler : Sys → Sys} (hblind : Blind handler) : CoreBlind handler := by
  intro core s
  have hglue : (handler s).modbus = s.modbus := hblind.modbus s
  have hreplace : withCore core s = withModbus { s.modbus with core := core } s := rfl
  rw [hreplace, hblind, ← hglue]
  rfl

/-- The second state is the first with other tables. -/
def SameButTables (s s' : Sys) : Prop := ∃ core, s' = withCore core s

theorem SameButTables.refl (s : Sys) : SameButTables s s := ⟨s.modbus.core, rfl⟩

theorem SameButTables.trans {s mid s' : Sys} (hfirst : SameButTables s mid)
    (hsecond : SameButTables mid s') : SameButTables s s' := by
  obtain ⟨_, rfl⟩ := hfirst
  obtain ⟨core, rfl⟩ := hsecond
  exact ⟨core, rfl⟩

theorem SameButTables.blind {handler : Sys → Sys} (hblind : CoreBlind handler) {s s' : Sys}
    (h : SameButTables s s') : SameButTables (handler s) (handler s') := by
  obtain ⟨core, rfl⟩ := h
  exact ⟨core, hblind core s⟩

theorem sameButTables_setHolding (reg : MbReg) (value : ℕ) (s : Sys) :
    SameButTables s (setHolding reg value s) :=
  ⟨s.modbus.core.setReg reg value, rfl⟩

/-! ### Residues -/

/-- The second state is the first with other words in the registers that are no commands, and
another last written register. -/
structure Residue (s s' : Sys) : Prop where
  rest : s' = withCore s'.modbus.core s
  commands : ∀ reg : MbReg, reg.isCommand = true → holding s' reg = holding s reg
  coils : s'.modbus.core.coils = s.modbus.core.coils
  addr : s'.modbus.core.deviceAddr = s.modbus.core.deviceAddr

theorem Residue.refl (s : Sys) : Residue s s := ⟨rfl, fun _ _ ↦ rfl, rfl, rfl⟩

theorem Residue.of_eq {s s' : Sys} (h : s' = s) : Residue s s' := h ▸ Residue.refl s

/-- Assumes: two states up to a residue. A handler blind to the tables keeps the residue. -/
theorem Residue.blind {handler : Sys → Sys} (hblind : CoreBlind handler) {s s' : Sys}
    (h : Residue s s') : Residue (handler s) (handler s') := by
  have hcore := hblind.core s
  have hcore' := hblind.core s'
  refine ⟨?_, fun reg hcommand ↦ ?_, ?_, ?_⟩
  · rw [hcore']
    conv_lhs => rw [h.rest]
    exact hblind _ s
  · rw [holding, holding, hcore, hcore']
    exact h.commands reg hcommand
  · rw [hcore, hcore', h.coils]
  · rw [hcore, hcore', h.addr]

/-- Equal words stored in one register. -/
theorem Residue.setHolding {s s' : Sys} (h : Residue s s') (reg : MbReg) (value : ℕ) :
    Residue (setHolding reg value s) (setHolding reg value s') := by
  refine ⟨?_, fun other hcommand ↦ ?_, h.coils, h.addr⟩
  · conv_lhs => rw [h.rest]
    rfl
  · change Function.update (holding s') reg value other =
      Function.update (holding s) reg value other
    by_cases hother : other = reg
    · rw [hother, Function.update_self, Function.update_self]
    · rw [Function.update_of_ne hother, Function.update_of_ne hother]
      exact h.commands other hcommand

section Reads

variable {s s' : Sys} (h : Residue s s')
include h

theorem Residue.cfg : s'.cfg = s.cfg := by rw [h.rest]; rfl

theorem Residue.horn : s'.horn = s.horn := by rw [h.rest]; rfl

theorem Residue.measure : s'.measure = s.measure := by rw [h.rest]; rfl

theorem Residue.eth : s'.eth = s.eth := by rw [h.rest]; rfl

theorem Residue.tcp : s'.tcp = s.tcp := by rw [h.rest]; rfl

theorem Residue.applied : s'.modbus.applied = s.modbus.applied := by rw [h.rest]; rfl

theorem Residue.tcpActive : s'.modbus.tcpActive = s.modbus.tcpActive := by rw [h.rest]; rfl

theorem Residue.gateClosed (build : Build) : gateClosed build s' = gateClosed build s := by
  rw [h.rest]
  rfl

theorem Residue.mirrorValue (build : Build) (sensDn : Bool) (reg : MbReg) :
    mirrorValue build sensDn s' reg = mirrorValue build sensDn s reg := by
  rw [h.rest]
  exact mirrorValue_onCore build sensDn _ s reg

end Reads

/-! ### The tick up to its transports -/

theorem coreBlind_onModbus {update : ModbusGlue → ModbusGlue}
    (hblind : ∀ core m, update { m with core := core } = { update m with core := core }) :
    CoreBlind (onModbus update) := by
  intro core s
  change ({ s with modbus := update { s.modbus with core := core } } : Sys) = _
  rw [hblind]
  rfl

theorem coreBlind_remoteEnStep (build : Build) (tGate : ℕ) (pin : Bool) :
    CoreBlind (remoteEnStep build tGate pin) := by
  intro core s
  unfold remoteEnStep
  cases build.model <;> rfl

theorem coreBlind_holdWdtBlock (tHold : ℕ) : CoreBlind (holdWdtBlock tHold) := by
  intro core s
  have hstop := (blind_regCommand .runRelease .comm 0).coreBlind
  have hrun : appRegRunSrc (withCore core s) = appRegRunSrc s := rfl
  have hhold : (withCore core s).modbus.hold = s.modbus.hold := rfl
  unfold holdWdtBlock
  dsimp only
  rw [hrun, hhold]
  split_ifs
  · exact hstop core (onModbus (fun modbus ↦ { modbus with hold := _ }) s)
  · rfl

theorem Residue.mirrorLive {s s' : Sys} (h : Residue s s') (build : Build) (sensDn : Bool) :
    Residue (mirrorLive build sensDn s) (mirrorLive build sensDn s') := by
  refine ⟨?_, fun reg hcommand ↦ ?_, h.coils, h.addr⟩
  · change withCore _ s' = withCore _ s
    rw [h.rest]
    rfl
  · rw [holding_mirrorLive, holding_mirrorLive, h.mirrorValue]
    cases hshown : UsCtrl.mirrorValue build sensDn s reg with
    | none => exact h.commands reg hcommand
    | some shown => rfl

theorem Residue.applyConfig {s s' : Sys} (h : Residue s s') (build : Build) (sensDn : Bool) :
    Residue (applyConfig build sensDn s) (applyConfig build sensDn s') := by
  have hacquired (t t' : Sys) (ht : Residue t t') : UsCtrl.mirrorLive build sensDn
      (onModbus (fun modbus ↦ { modbus with
        core := mbCoreInit t.cfg.commAddress
        applied := ⟨true, t.cfg.commSpeedIdx, t.cfg.commParityIdx, t.cfg.commAddress⟩ })
        (stageDiscard t')) = UsCtrl.mirrorLive build sensDn
      (onModbus (fun modbus ↦ { modbus with
        core := mbCoreInit t.cfg.commAddress
        applied := ⟨true, t.cfg.commSpeedIdx, t.cfg.commParityIdx, t.cfg.commAddress⟩ })
        (stageDiscard t)) := by
    rw [ht.rest]
    rfl
  unfold UsCtrl.applyConfig
  dsimp only
  rw [h.applied, h.cfg]
  split_ifs
  · refine ⟨?_, h.commands, h.coils, rfl⟩
    conv_lhs => rw [h.rest]
    rfl
  · exact h
  · exact h.blind (coreBlind_onModbus fun _ _ ↦ rfl)
  · exact .of_eq (hacquired s s' h)

theorem Residue.modbusHead {s s' : Sys} (h : Residue s s') (build : Build) (input : ModbusTickIn) :
    Residue (modbusHead build input s) (modbusHead build input s') := by
  have hstage : CoreBlind (stageTick input.tStage) := coreBlind_onModbus fun _ _ ↦ rfl
  exact (h.blind ((hstage.comp (coreBlind_holdWdtBlock input.tHold)).comp
    (coreBlind_remoteEnStep build input.tGate input.remoteEnPin))).applyConfig build
      input.sensDnAcquire

theorem Residue.tcpEnter {s s' : Sys} (h : Residue s s') : Residue (tcpEnter s) (tcpEnter s') := by
  have hentered : onModbus (fun modbus ↦ { modbus with
      core := mbCoreInit s.cfg.commAddress, tcpActive := true }) (stageDiscard s') =
      onModbus (fun modbus ↦ { modbus with
        core := mbCoreInit s.cfg.commAddress, tcpActive := true }) (stageDiscard s) := by
    rw [h.rest]
    rfl
  unfold UsCtrl.tcpEnter
  rw [h.tcpActive, h.cfg]
  split_ifs
  · exact h
  · exact .of_eq hentered

theorem coreBlind_tcpLeave : CoreBlind tcpLeave := by
  intro core s
  unfold tcpLeave
  change (if s.modbus.tcpActive then _ else _) = _
  split_ifs <;> rfl

/-! ### Decoding -/

/-- Two decodings of one request in tables that differ by a residue. -/
structure Twin (core core' : MbCore) (out out' : DecodeOut) : Prop where
  fc : out'.fc = out.fc
  length : out'.resp.length = out.resp.length
  coils : out'.core.coils = out.core.coils
  addr : out'.core.deviceAddr = out.core.deviceAddr
  tables : (out.fc ≠ 6 ∧ out.core.holding = core.holding ∧ out'.core.holding = core'.holding) ∨
    ∃ reg value, out.core = wroteCore reg value core ∧ out'.core = wroteCore reg value core'

theorem Twin.of_silent {core core' : MbCore} (hcoils : core'.coils = core.coils)
    (haddr : core'.deviceAddr = core.deviceAddr) :
    Twin core core' (.silent core) (.silent core') :=
  ⟨rfl, rfl, hcoils, haddr, Or.inl ⟨by simp [DecodeOut.silent], rfl, rfl⟩⟩

theorem length_wordBytes (value : ℕ) : (wordBytes value).length = 2 := rfl

theorem length_withCrc (body : List UInt8) : (withCrc body).length = body.length + 2 := by
  rw [withCrc, List.length_append, length_wordBytes]

/-- A request is decoded alike in tables that agree in coils and slave address. -/
theorem twin_mbCoreDecode (mode : MbMode) (frame : List UInt8) {core core' : MbCore}
    (hcoils : core'.coils = core.coils) (haddr : core'.deviceAddr = core.deviceAddr) :
    Twin core core' (mbCoreDecode mode frame core) (mbCoreDecode mode frame core') := by
  have hsilent : Twin core core' (.silent core) (.silent core') := .of_silent hcoils haddr
  have haccepted : mbFrameAccepted mode frame core' = mbFrameAccepted mode frame core := by
    cases mode with
    | rtu => rw [mbFrameAccepted, mbFrameAccepted, haddr]
    | tcp => rfl
  have hregs (regs : List MbReg) (table : MbReg → ℕ) :
      (regs.flatMap fun reg ↦ wordBytes (table reg)).length = 2 * regs.length := by
    simp [List.length_flatMap, length_wordBytes, Nat.mul_comm]
  unfold mbCoreDecode
  rw [haccepted]
  split_ifs with hno hcoil hreg hforce hwrite
  · exact hsilent
  · unfold mbReadCoils
    dsimp only
    split_ifs
    · exact hsilent
    · refine ⟨rfl, ?_, hcoils, haddr, Or.inl ⟨by rcases hcoil with h | h <;> simp [h], rfl, rfl⟩⟩
      simp only [length_withCrc, List.length_append, List.length_map, List.length_cons]
  · unfold mbReadRegs
    dsimp only
    split_ifs
    · exact hsilent
    · refine ⟨rfl, ?_, hcoils, haddr, Or.inl ⟨by rcases hreg with h | h <;> simp [h], rfl, rfl⟩⟩
      simp only [length_withCrc, List.length_append, List.length_cons, hregs]
  · unfold mbWriteCoil
    dsimp only
    by_cases hrange : wordAt frame 2 ≥ mbCoilCount
    · rw [if_pos hrange, if_pos hrange]
      exact hsilent
    · rw [if_neg hrange, if_neg hrange]
      refine ⟨rfl, ?_, ?_, haddr, Or.inl ⟨by simp, rfl, rfl⟩⟩
      · simp only [echoResp, length_withCrc, List.length_append, List.length_cons]
      · dsimp only
        rw [hcoils]
  · unfold mbWriteReg
    cases hrange : MbReg.ofAddr (wordAt frame 2) with
    | none => exact hsilent
    | some reg =>
      refine ⟨rfl, ?_, hcoils, haddr, Or.inr ⟨reg, wordAt frame 4, rfl, rfl⟩⟩
      simp only [echoResp, length_withCrc, List.length_append, List.length_cons]
  · exact hsilent

theorem twin_mbTcpBuildResponse (req : List UInt8) {core core' : MbCore}
    (hcoils : core'.coils = core.coils) (haddr : core'.deviceAddr = core.deviceAddr) :
    Twin core core' (mbTcpBuildResponse req core) (mbTcpBuildResponse req core') := by
  have htwin := twin_mbCoreDecode .tcp ((req.drop 6).take (wordAt req 4)) hcoils haddr
  unfold mbTcpBuildResponse
  dsimp only
  rw [htwin.length]
  split_ifs
  · exact .of_silent hcoils haddr
  · exact ⟨htwin.fc, rfl, htwin.coils, htwin.addr, htwin.tables⟩
  · refine ⟨htwin.fc, ?_, htwin.coils, htwin.addr, htwin.tables⟩
    simp only [List.length_append, List.length_drop, List.length_take, htwin.length,
      length_wordBytes, List.length_cons]

/-! ### The pass -/

/-- Both states have the same register as the last one written, and the same word in it. -/
def SameWrite (s s' : Sys) : Prop := ∃ reg, s.modbus.core.lastWriteAddr = some reg ∧
  s'.modbus.core.lastWriteAddr = some reg ∧ holding s' reg = holding s reg

/-- Tables that a twin decoding has left differ by a residue again, and by nothing in the register
it has written. -/
theorem Twin.residue {s s' : Sys} (h : Residue s s') {out out' : DecodeOut}
    (htwin : Twin s.modbus.core s'.modbus.core out out') :
    Residue (withCore out.core s) (withCore out'.core s') ∧
      (out.fc = 6 → SameWrite (withCore out.core s) (withCore out'.core s')) := by
  have hrest (core core' : MbCore) : withCore core' s' = withCore core' (withCore core s) := by
    rw [h.rest]
    rfl
  refine ⟨⟨hrest _ _, fun reg hcommand ↦ ?_, htwin.coils, htwin.addr⟩, fun hfc ↦ ?_⟩
  · change out'.core.holding reg = out.core.holding reg
    rcases htwin.tables with ⟨-, hkept, hkept'⟩ | ⟨written, value, hwrote, hwrote'⟩
    · rw [hkept, hkept']
      exact h.commands reg hcommand
    · rw [hwrote, hwrote']
      exact (h.setHolding written value).commands reg hcommand
  · rcases htwin.tables with ⟨hquiet, -⟩ | ⟨written, value, hwrote, hwrote'⟩
    · exact absurd hfc hquiet
    · refine ⟨written, congrArg MbCore.lastWriteAddr hwrote, congrArg MbCore.lastWriteAddr hwrote',
        ?_⟩
      change out'.core.holding written = out.core.holding written
      have hstored (core : MbCore) : (wroteCore written value core).holding written = value :=
        Function.update_self ..
      rw [hwrote, hwrote', hstored, hstored]

theorem coreBlind_onTcp (update : TcpGlue → TcpGlue) : CoreBlind (onTcp update) := fun _ _ ↦ rfl

theorem coreBlind_noteRemote (now : ℕ) : CoreBlind (appModbusNoteRemote now) :=
  coreBlind_onModbus fun _ _ ↦ rfl

/-- A handler blind to the tables keeps what was written. -/
theorem SameWrite.blind {handler : Sys → Sys} (hblind : CoreBlind handler) {s s' : Sys}
    (h : SameWrite s s') : SameWrite (handler s) (handler s') := by
  unfold SameWrite holding
  rw [hblind.core s, hblind.core s']
  exact h

theorem Residue.rtuPass {s s' : Sys} (h : Residue s s') (input : ModbusTickIn) :
    Residue (rtuPass input s).1 (rtuPass input s').1 ∧
      (rtuPass input s').2 = (rtuPass input s).2 ∧
      ((rtuPass input s).2 ≠ none → SameWrite (rtuPass input s).1 (rtuPass input s').1) := by
  have htwin := twin_mbCoreDecode .rtu input.rx h.coils h.addr
  have hsilent : ((mbCoreDecode .rtu input.rx s'.modbus.core).resp = [] ↔
      (mbCoreDecode .rtu input.rx s.modbus.core).resp = []) := by
    rw [← List.length_eq_zero_iff, ← List.length_eq_zero_iff, htwin.length]
  obtain ⟨hdecoded, hwrote⟩ := htwin.residue h
  unfold UsCtrl.rtuPass
  dsimp only
  by_cases hrx : input.rx = []
  · rw [if_pos hrx, if_pos hrx]
    exact ⟨h, rfl, fun hnone ↦ absurd rfl hnone⟩
  · rw [if_neg hrx, if_neg hrx]
    dsimp only
    rw [htwin.fc]
    simp only [hsilent]
    by_cases hquiet : (mbCoreDecode .rtu input.rx s.modbus.core).resp = []
    · rw [if_pos hquiet, if_pos hquiet]
      refine ⟨hdecoded, trivial, fun hsome ↦ hwrote ?_⟩
      by_contra hfc
      exact hsome (if_neg hfc)
    · rw [if_neg hquiet, if_neg hquiet]
      refine ⟨hdecoded.blind (coreBlind_noteRemote _), trivial, fun hsome ↦ (hwrote ?_).blind
        (coreBlind_noteRemote _)⟩
      by_contra hfc
      exact hsome (if_neg hfc)

/-- Two walks over one stream. -/
structure TwinWalk (walk walk' : TcpPass) : Prop where
  sys : Residue walk.sys walk'.sys
  rest : walk'.rest = walk.rest
  applies : walk'.applies = walk.applies
  wrote : walk.applies = true → SameWrite walk.sys walk'.sys

theorem Residue.tcpWalkPass (input : TcpPollIn) (fuel index : ℕ) (rest : List UInt8) {s s' : Sys}
    (h : Residue s s') :
    TwinWalk (tcpWalkPass input fuel index rest s) (tcpWalkPass input fuel index rest s') := by
  induction fuel generalizing index rest s s' with
  | zero => exact ⟨h, rfl, rfl, by rintro ⟨⟩⟩
  | succ fuel ih =>
    unfold UsCtrl.tcpWalkPass
    cases mbTcpFramePeek rest with
    | needMore => exact ⟨h, rfl, rfl, by rintro ⟨⟩⟩
    | desync => exact ⟨h, rfl, rfl, by rintro ⟨⟩⟩
    | ok length =>
      have htwin := twin_mbTcpBuildResponse (rest.take length) h.coils h.addr
      have hsilent : ((mbTcpBuildResponse (rest.take length) s'.modbus.core).resp = [] ↔
          (mbTcpBuildResponse (rest.take length) s.modbus.core).resp = []) := by
        rw [← List.length_eq_zero_iff, ← List.length_eq_zero_iff, htwin.length]
      obtain ⟨hdecoded, hwrote⟩ := htwin.residue h
      have hnoted : CoreBlind fun t ↦ onTcp (fun tcp ↦ { tcp with lastRxMs := input.tRx index })
          (appModbusNoteRemote (input.tReq index) t) :=
        (coreBlind_onTcp _).comp (coreBlind_noteRemote _)
      dsimp only
      rw [htwin.fc]
      simp only [hsilent]
      split_ifs with hquiet hfc
      · exact ih _ _ hdecoded
      · exact ⟨hdecoded.blind hnoted, rfl, rfl, fun _ ↦ (hwrote hfc).blind hnoted⟩
      · exact ih _ _ (hdecoded.blind hnoted)

theorem Residue.tcpPass {s s' : Sys} (h : Residue s s') (input : TcpPollIn) :
    Residue (tcpPass input s).1 (tcpPass input s').1 ∧
      (tcpPass input s').2 = (tcpPass input s).2 ∧
      ((tcpPass input s).2 ≠ none → SameWrite (tcpPass input s).1 (tcpPass input s').1) := by
  have hcontrol : Residue (controlTcp input s) (controlTcp input s') :=
    h.blind (coreBlind_onTcp _)
  have hacc : (controlTcp input s').tcp = (controlTcp input s).tcp := hcontrol.tcp
  unfold UsCtrl.tcpPass
  dsimp only
  by_cases hsocket : input.established = false
  · rw [if_pos hsocket, if_pos hsocket]
    exact ⟨hcontrol, rfl, fun hnone ↦ absurd rfl hnone⟩
  · rw [if_neg hsocket, if_neg hsocket, hacc]
    have hwalk := Residue.tcpWalkPass input mbTcpFramesPerPoll 0
      ((controlTcp input s).tcp.acc ++ input.rx.take
        (mbTcpAccLen - (controlTcp input s).tcp.acc.length)) hcontrol
    dsimp only
    rw [hwalk.rest, hwalk.applies]
    refine ⟨hwalk.sys.blind (coreBlind_onTcp _), rfl, fun hsome ↦ (hwalk.wrote ?_).blind
      (coreBlind_onTcp _)⟩
    by_contra happlies
    exact hsome (if_neg happlies)

/-- Two passes over one input leave states that differ by a residue, and the same request. -/
theorem Residue.modbusPass {s s' : Sys} (h : Residue s s') (build : Build) (input : ModbusTickIn) :
    Residue (modbusPass build input s).1 (modbusPass build input s').1 ∧
      (modbusPass build input s').2 = (modbusPass build input s).2 ∧
      ((modbusPass build input s).2 ≠ none →
        SameWrite (modbusPass build input s).1 (modbusPass build input s').1) := by
  have hhead := h.modbusHead build input
  unfold UsCtrl.modbusPass servePass
  rw [hhead.applied, hhead.cfg, hhead.eth]
  split_ifs
  · exact ((hhead.blind coreBlind_tcpLeave).mirrorLive build input.sensDn).rtuPass input
  · exact (hhead.tcpEnter.mirrorLive build input.sensDn).tcpPass input.tcp
  · exact ⟨hhead.blind coreBlind_tcpLeave, rfl, fun hnone ↦ absurd rfl hnone⟩

/-! ### The apply -/

theorem coreBlind_startCmdBody (value : ℕ) (input : ApplyIn) :
    CoreBlind (startCmdBody value input) := by
  intro core s
  have hstart (now : ℕ) (power : ℕ) : CoreBlind fun t ↦ appLcdHookSetPot power
      (appRegCommand .start .comm now t) := by
    have hcommand := (blind_regCommand .start .comm now).coreBlind
    have hpot : CoreBlind (appLcdHookSetPot power) := fun _ _ ↦ rfl
    exact hpot.comp hcommand
  have harm : CoreBlind (onModbus fun modbus ↦
      { modbus with hold := holdWdtArm input.tApply modbus.hold }) :=
        coreBlind_onModbus fun _ _ ↦ rfl
  have hallowed : appRegStartAllowed (withCore core s) = appRegStartAllowed s := rfl
  have harmed : (withCore core s).modbus.hold.armed = s.modbus.hold.armed := rfl
  unfold startCmdBody
  rw [hallowed, harmed]
  split_ifs
  · exact hstart input.tCmd s.cfg.outputPower core s
  · exact harm.comp (hstart input.tCmd s.cfg.outputPower) core s
  · rfl
  · rfl
  · rfl
  · rfl

theorem cfgCtrlBody_withCore (link : MbLink) (ctrl : ℕ) (core : MbCore) (s : Sys) :
    cfgCtrlBody link ctrl (withCore core s) =
      (withCore core (cfgCtrlBody link ctrl s).1, (cfgCtrlBody link ctrl s).2) := by
  have hmeasure : (withCore core s).measure.usOnStatus = s.measure.usOnStatus := rfl
  have hstage : (withCore core s).modbus.stage = s.modbus.stage := rfl
  unfold cfgCtrlBody
  dsimp only
  rw [hmeasure, hstage]
  split_ifs <;> rfl

/-- The branch acts alike on the two states. -/
structure TwinRule (rule : ApplyRule) (s s' : Sys) : Prop where
  guard : rule.guard s' = rule.guard s
  sys : Residue (rule.act s).1 (rule.act s').1
  saves : (rule.act s').2 = (rule.act s).2

/-- A branch reads no table but its own register, and the counter branch the last written one. -/
theorem applyRules_twin (link : MbLink) (input : ApplyIn) {s s' : Sys} (h : Residue s s') :
    ∀ entry ∈ applyKeys.zip (applyRules link input), holding s' entry.1 = holding s entry.1 →
      s.modbus.core.lastWriteAddr = some entry.1 → s'.modbus.core.lastWriteAddr = some entry.1 →
        TwinRule entry.2 s s' := by
  have hcommand (reg : MbReg) (cmd : UsCmd) : Residue
      (setHolding reg 0 (appRegCommand cmd .comm 0 s))
      (setHolding reg 0 (appRegCommand cmd .comm 0 s')) :=
    (h.blind (blind_regCommand cmd .comm 0).coreBlind).setHolding reg 0
  have hstart (hread : holding s' .start = holding s .start) : Residue
      (startCmdBody (holding s .start) input (setHolding .start 0 s))
      (startCmdBody (holding s' .start) input (setHolding .start 0 s')) := by
    rw [hread]
    exact (h.setHolding .start 0).blind (coreBlind_startCmdBody _ input)
  have hctrl (hread : holding s' .cfgCtrl = holding s .cfgCtrl) :
      Residue (cfgCtrlBody link (holding s .cfgCtrl) (setHolding .cfgCtrl 0 s)).1
          (cfgCtrlBody link (holding s' .cfgCtrl) (setHolding .cfgCtrl 0 s')).1 ∧
        (cfgCtrlBody link (holding s' .cfgCtrl) (setHolding .cfgCtrl 0 s')).2 =
          (cfgCtrlBody link (holding s .cfgCtrl) (setHolding .cfgCtrl 0 s)).2 := by
    have hblind (ctrl : ℕ) : CoreBlind fun t ↦ (cfgCtrlBody link ctrl t).1 := fun core t ↦
      congrArg Prod.fst (cfgCtrlBody_withCore link ctrl core t)
    have hsaves (ctrl : ℕ) (core : MbCore) (t : Sys) :
        (cfgCtrlBody link ctrl (withCore core t)).2 = (cfgCtrlBody link ctrl t).2 := by
      rw [cfgCtrlBody_withCore]
    have herased := h.setHolding .cfgCtrl 0
    rw [hread]
    refine ⟨herased.blind (hblind _), ?_⟩
    rw [herased.rest]
    exact hsaves _ _ _
  have hstore (cfg : AppConfig) : Residue { s with cfg := cfg } { s' with cfg := cfg } := by
    have hblind : CoreBlind fun t ↦ { t with cfg := cfg } := fun _ _ ↦ rfl
    exact h.blind hblind
  have hcfg (reg : MbReg) (shown : AppConfig → ℕ) (store : ℕ → AppConfig → AppConfig)
      (hread : holding s' reg = holding s reg) : TwinRule (cfgRule reg shown store) s s' := by
    refine ⟨?_, ?_, rfl⟩
    · simp only [cfgRule, hread, h.cfg]
    · simp only [cfgRule, hread, h.cfg]
      exact hstore _
  have henable (reg : MbReg) (shown : AppConfig → Bool) (store : Bool → AppConfig → AppConfig)
      (hread : holding s' reg = holding s reg) : TwinRule (enableRule reg shown store) s s' := by
    refine ⟨?_, ?_, rfl⟩
    · simp only [enableRule, hread, h.cfg]
    · simp only [enableRule, hread, h.cfg]
      exact hstore _
  have hsafty (hread : holding s' .enSafty = holding s .enSafty) : TwinRule saftyRule s s' := by
    refine ⟨?_, ?_, ?_⟩
    · simp only [saftyRule, hread, h.cfg]
    · simp only [saftyRule, hread, h.cfg]
      generalize (if holding s .enSafty = 1 then 1 else 0) = value
      split_ifs
      · exact hstore _
      · exact h
    · simp only [saftyRule, hread, h.cfg]
      generalize (if holding s .enSafty = 1 then 1 else 0) = value
      split_ifs <;> rfl
  have hhorn (hread : holding s' .hornCmd = holding s .hornCmd) : TwinRule hornRule s s' := by
    refine ⟨?_, ?_, rfl⟩
    · simp only [hornRule, hread, h.horn]
    · simp only [hornRule, hread]
      exact h.blind (blind_hornSetMode _).coreBlind
  have hcount (hread : holding s' .workCntL = holding s .workCntL)
      (hlast : s.modbus.core.lastWriteAddr = some .workCntL)
      (hlast' : s'.modbus.core.lastWriteAddr = some .workCntL) : TwinRule workCntRule s s' := by
    refine ⟨?_, ?_, rfl⟩
    · simp only [workCntRule, hread, h.cfg, hlast, hlast']
    · simp only [workCntRule, h.cfg]
      exact hstore _
  have hone (reg : MbReg) (word : ℕ) (hread : holding s' reg = holding s reg) :
      decide (holding s' reg = word) = decide (holding s reg = word) := by rw [hread]
  have hnonzero (reg : MbReg) (hread : holding s' reg = holding s reg) :
      decide (holding s' reg ≠ 0) = decide (holding s reg ≠ 0) := by rw [hread]
  simp only [applyKeys, applyRules, commandRules, configRules, List.cons_append, List.nil_append,
    List.zip_cons_cons, List.zip_nil_right, List.forall_mem_cons, List.not_mem_nil, false_implies,
    implies_true, and_true]
  exact ⟨fun hread _ _ ↦ ⟨hone _ _ hread, hcommand _ _, rfl⟩,
    fun hread _ _ ↦ ⟨hone _ _ hread, hcommand _ _, rfl⟩,
    fun hread _ _ ↦ ⟨hnonzero _ hread, hstart hread, rfl⟩,
    fun hread _ _ ↦ ⟨hone _ _ hread, hcommand _ _, rfl⟩,
    fun hread _ _ ↦ ⟨hnonzero _ hread, (hctrl hread).1, (hctrl hread).2⟩,
    fun hread _ _ ↦ hcfg _ _ _ hread, fun hread _ _ ↦ hcfg _ _ _ hread,
    fun hread _ _ ↦ hcfg _ _ _ hread, fun hread _ _ ↦ hcfg _ _ _ hread,
    fun hread _ _ ↦ hcfg _ _ _ hread, fun hread _ _ ↦ hcfg _ _ _ hread,
    fun hread _ _ ↦ hcfg _ _ _ hread, fun hread _ _ ↦ hcfg _ _ _ hread,
    fun hread _ _ ↦ hcfg _ _ _ hread, fun hread _ _ ↦ hcfg _ _ _ hread,
    fun hread _ _ ↦ hcfg _ _ _ hread, fun hread _ _ ↦ hcfg _ _ _ hread,
    fun hread _ _ ↦ hcfg _ _ _ hread, fun hread _ _ ↦ hcfg _ _ _ hread,
    fun hread _ _ ↦ henable _ _ _ hread, fun hread _ _ ↦ henable _ _ _ hread,
    fun hread _ _ ↦ hsafty hread, fun hread _ _ ↦ hhorn hread, fun hread _ _ ↦ hcfg _ _ _ hread,
    fun hread _ _ ↦ hcfg _ _ _ hread, fun hread _ _ ↦ hcfg _ _ _ hread,
    fun hread _ _ ↦ hcfg _ _ _ hread, fun hread hlast hlast' ↦ hcount hread hlast hlast'⟩

/-- The staged scan reads the register written last. -/
theorem Residue.stagedScan {s s' : Sys} (h : Residue s s') (hwrote : SameWrite s s') (tStage : ℕ) :
    Residue (stagedScan tStage s) (stagedScan tStage s') := by
  obtain ⟨reg, hlast, hlast', hread⟩ := hwrote
  unfold UsCtrl.stagedScan
  rw [hlast, hlast']
  cases hfound : CfgStg.all.find? fun field ↦ decide (some reg = some field.reg) with
  | none => exact h
  | some field =>
    have hfield : reg = field.reg := by simpa using List.find?_some hfound
    subst hfield
    dsimp only
    rw [hread]
    exact h.blind (coreBlind_onModbus fun _ _ ↦ rfl)

/-- Applies of one request act alike on tables that differ by a residue. -/
theorem Residue.pickedBranch {build : Build} {sensDn : Bool} {reg : MbReg} {value : ℕ} {s s' : Sys}
    (h : Residue s s') (hpoint : ApplyPoint build sensDn reg value s)
    (hpoint' : ApplyPoint build sensDn reg value s') (link : MbLink) (input : ApplyIn) :
    Residue (pickedBranch link input s).1 (pickedBranch link input s').1 ∧
      (pickedBranch link input s').2 = (pickedBranch link input s).2 := by
  have hread : holding s' reg = holding s reg := hpoint'.written.trans hpoint.written.symm
  have htwin {rule : ApplyRule} (hrule : ruleOf link input reg = some rule) : TwinRule rule s s' :=
    applyRules_twin link input h (reg, rule) (mem_of_ruleOf hrule) hread hpoint.last hpoint'.last
  unfold UsCtrl.pickedBranch
  rw [applyChain_lookup hpoint, applyChain_lookup hpoint']
  refine firstMatch_related (fun result result' : Sys × Bool ↦
    Residue result.1 result'.1 ∧ result'.2 = result.2)
    ⟨h.stagedScan ⟨reg, hpoint.last, hpoint'.last, hread⟩ input.tStage, rfl⟩ ?_
  cases hrule : ruleOf link input reg with
  | none => exact List.Forall₂.nil
  | some rule =>
    exact List.Forall₂.cons ⟨(htwin hrule).guard.symm, fun _ ↦ ⟨(htwin hrule).sys,
      (htwin hrule).saves⟩⟩ List.Forall₂.nil

/-- Erasing the commands stores the same words whatever the tables hold. -/
theorem Residue.gateRejectBody {s s' : Sys} (h : Residue s s') :
    Residue (gateRejectBody s) (gateRejectBody s') := by
  have herased := ((h.setHolding .reset 0).setHolding .seek 0).setHolding .start 0
  have hstop := herased.commands .stop rfl
  have hrelease := herased.blind (blind_regCommand .runRelease .comm 0).coreBlind
  unfold UsCtrl.gateRejectBody
  dsimp only
  rw [hstop]
  split_ifs
  · exact (hrelease.setHolding .stop 0).setHolding .cfgCtrl 0
  · exact (herased.setHolding .stop 0).setHolding .cfgCtrl 0

theorem coreBlind_countApply : CoreBlind countApply := fun _ _ ↦ rfl

theorem Residue.appModbusApplyWrites {build : Build} {sensDn : Bool} {reg : MbReg} {value : ℕ}
    {s s' : Sys} (h : Residue s s') (hpoint : ApplyPoint build sensDn reg value s)
    (hpoint' : ApplyPoint build sensDn reg value s') (link : MbLink) (input : ApplyIn) :
    Residue (appModbusApplyWrites build link input s)
      (appModbusApplyWrites build link input s') := by
  have hcounted : Residue (countApply s) (countApply s') := h.blind coreBlind_countApply
  cases hgate : UsCtrl.gateClosed build s with
  | true =>
    have hgate' := (h.gateClosed build).trans hgate
    unfold UsCtrl.appModbusApplyWrites
    rw [hgate, hgate', if_pos rfl, if_pos rfl]
    exact hcounted.gateRejectBody
  | false =>
    have hgate' := (h.gateClosed build).trans hgate
    obtain ⟨hpicked, hsaves⟩ := hcounted.pickedBranch hpoint.counted hpoint'.counted link input
    rw [appModbusApplyWrites_open hgate, appModbusApplyWrites_open hgate', hsaves]
    split_ifs
    · exact hpicked.blind (fun _ _ ↦ rfl : CoreBlind (saveConfig input.bus))
    · exact hpicked

/-! ### Runs -/

/-- Assumes: two states without a pending command differ by a residue. So do they after a call. -/
theorem residue_exec (build : Build) (call : Call) {s s' : Sys} (hidle : CommandsIdle s)
    (hidle' : CommandsIdle s') (h : Residue s s') :
    Residue (call.exec build s) (call.exec build s') := by
  by_cases hkind : call.kind = .modbus
  · cases call with
    | modbusTick input =>
      obtain ⟨hpass, hlink, hwrote⟩ := h.modbusPass build input
      change Residue (appModbusTick build input s) (appModbusTick build input s')
      rw [appModbusTick_eq_pass, appModbusTick_eq_pass]
      unfold finishPass
      cases hrequest : (UsCtrl.modbusPass build input s).2 with
      | none =>
        rw [hlink, hrequest]
        exact hpass
      | some link =>
        rw [hlink, hrequest]
        have hrequest' := hlink.trans hrequest
        obtain ⟨reg, hlast, hlast', hread⟩ := hwrote (by rw [hrequest]; exact Option.some_ne_none _)
        obtain ⟨written, value, hpoint⟩ := modbusPass_point hidle hrequest
        obtain ⟨written', value', hpoint'⟩ := modbusPass_point hidle' hrequest'
        obtain rfl : reg = written := Option.some.inj (hlast.symm.trans hpoint.last)
        obtain rfl : reg = written' := Option.some.inj (hlast'.symm.trans hpoint'.last)
        obtain rfl : value' = value :=
          hpoint'.written.symm.trans (hread.trans hpoint.written)
        exact hpass.appModbusApplyWrites hpoint hpoint' link input.apply
    | _ => cases hkind
  · exact h.blind (exec_withModbus build hkind).coreBlind

/-- Two runs that have left states that differ by a residue keep doing so under the same calls. -/
theorem residue_run (build : Build) (boot : BootIn) {past past' : List Call}
    (h : Residue (stateAfter build boot past) (stateAfter build boot past')) (recent : List Call) :
    Residue (stateAfter build boot (recent ++ past)) (stateAfter build boot (recent ++ past')) := by
  induction recent with
  | nil => exact h
  | cons call recent ih =>
    exact residue_exec build call (after_commandsIdle build boot _)
      (after_commandsIdle build boot _) ih

/-! ### A write behind a closed gate -/

/-- A closed gate erases the commands, and stops the run if STOP is 1. -/
theorem gateRejectBody_tables (s : Sys) : SameButTables
    (if holding s .stop = 1 then appRegCommand .runRelease .comm 0 s else s)
      (gateRejectBody s) := by
  have herased :=
    ((sameButTables_setHolding .reset 0 s).trans (sameButTables_setHolding .seek 0 _)).trans
    (sameButTables_setHolding .start 0 _)
  have hrelease := herased.blind (blind_regCommand .runRelease .comm 0).coreBlind
  have hread : holding (setHolding .start 0 (setHolding .seek 0 (setHolding .reset 0 s))) .stop =
      holding s .stop := rfl
  unfold gateRejectBody
  dsimp only
  rw [hread]
  split_ifs
  · exact hrelease.trans ((sameButTables_setHolding .stop 0 _).trans
      (sameButTables_setHolding .cfgCtrl 0 _))
  · exact herased.trans ((sameButTables_setHolding .stop 0 _).trans
      (sameButTables_setHolding .cfgCtrl 0 _))

/-- Assumes: the gate is closed for a request that writes `value` to `reg`, and another run applies
a write of the reserved register in its place. Unless the request is STOP = 1, its apply changes
nothing but the tables, and under the same calls the two runs differ by a residue for ever. A STOP =
1 does what RUN_RELEASE does. -/
theorem closed_gate_blind (build : Build) (boot : BootIn) (past past' : List Call)
    (input input' : ModbusTickIn) (link link' : MbLink) (tables : MbCore) (reg : MbReg)
    (value instead : ℕ) (hbypass : build.gateBypass = false)
    (hlink : (modbusPass build input (stateAfter build boot past)).2 = some link)
    (hlink' : (modbusPass build input' (stateAfter build boot past')).2 = some link')
    (hgate : (applyEntry build boot input past).modbus.gate ≠ .enabled)
    (hwrite : (applyEntry build boot input past).modbus.core = wroteCore reg value tables)
    (hinstead : applyEntry build boot input' past' =
      withCore (wroteCore .reserved2D instead tables) (applyEntry build boot input past)) :
    (¬ (reg = .stop ∧ value = 1) →
        SameButTables (countApply (applyEntry build boot input past))
          (stateAfter build boot (.modbusTick input :: past)) ∧
        ∀ recent, Residue (stateAfter build boot (recent ++ .modbusTick input :: past))
          (stateAfter build boot (recent ++ .modbusTick input' :: past'))) ∧
      (reg = .stop ∧ value = 1 → SameButTables
        (appRegCommand .runRelease .comm 0 (countApply (applyEntry build boot input past)))
        (stateAfter build boot (.modbusTick input :: past))) := by
  have hclosed : gateClosed build (applyEntry build boot input past) = true := by
    rw [gateClosed, hbypass]
    exact decide_eq_true hgate
  have hclosed' : gateClosed build (applyEntry build boot input' past') = true := by
    rw [hinstead]
    exact hclosed
  obtain ⟨written, word, hpoint⟩ := after_point hlink
  obtain ⟨written', word', hpoint'⟩ := after_point hlink'
  have hlast := hpoint.last
  rw [hwrite] at hlast
  obtain rfl : reg = written := Option.some.inj hlast
  have hlast' : (applyEntry build boot input' past').modbus.core.lastWriteAddr = some written' :=
    hpoint'.last
  rw [hinstead] at hlast'
  obtain rfl : .reserved2D = written' := Option.some.inj hlast'
  have hvalue : holding (applyEntry build boot input past) reg = value := by
    rw [holding, hwrite]
    exact Function.update_self ..
  have happly : stateAfter build boot (.modbusTick input :: past) =
      gateRejectBody (countApply (applyEntry build boot input past)) := by
    rw [stateAfter_apply hlink, appModbusApplyWrites, hclosed, if_pos rfl]
  have happly' : stateAfter build boot (.modbusTick input' :: past') =
      gateRejectBody (countApply (applyEntry build boot input' past')) := by
    rw [stateAfter_apply hlink', appModbusApplyWrites, hclosed', if_pos rfl]
  have htables := gateRejectBody_tables (countApply (applyEntry build boot input past))
  have htables' := gateRejectBody_tables (countApply (applyEntry build boot input' past'))
  rw [← happly] at htables
  rw [← happly'] at htables'
  refine ⟨fun hother ↦ ?_, fun hstop ↦ ?_⟩
  · have hidle : ¬ holding (countApply (applyEntry build boot input past)) .stop = 1 := by
      by_cases hreg : .stop = reg
      · subst hreg
        exact fun hone ↦ hother ⟨rfl, hvalue.symm.trans hone⟩
      · exact hpoint.idle .stop hreg
    have hidle' : ¬ holding (countApply (applyEntry build boot input' past')) .stop = 1 :=
      hpoint'.idle .stop (by decide)
    rw [if_neg hidle] at htables
    rw [if_neg hidle'] at htables'
    refine ⟨htables, residue_run build boot ?_⟩
    have herased (s : Sys) (other : MbReg) (hcommand : other.isCommand = true) :
        holding (gateRejectBody s) other = 0 := by
      rw [gateRejectBody_holding, if_pos hcommand]
    refine ⟨?_, fun other hcommand ↦ ?_, ?_, ?_⟩
    · obtain ⟨core, hcore⟩ := htables
      obtain ⟨core', hcore'⟩ := htables'
      rw [hcore, hcore', hinstead]
      rfl
    · rw [happly, happly', herased _ other hcommand, herased _ other hcommand]
    · rw [happly, happly', gateRejectBody_modbus, gateRejectBody_modbus, hinstead]
      change tables.coils = (applyEntry build boot input past).modbus.core.coils
      rw [hwrite]
      rfl
    · rw [happly, happly', gateRejectBody_modbus, gateRejectBody_modbus, hinstead]
      change tables.deviceAddr = (applyEntry build boot input past).modbus.core.deviceAddr
      rw [hwrite]
      rfl
  · obtain ⟨rfl, rfl⟩ := hstop
    have hone : holding (countApply (applyEntry build boot input past)) .stop = 1 := hvalue
    rw [if_pos hone] at htables
    exact htables

/-- A serial frame that the slave takes for a write of `value` to `reg`. -/
structure SerialWrite (core : MbCore) (rx : List UInt8) (reg : MbReg) (value : ℕ) : Prop where
  accepted : mbFrameAccepted .rtu rx core = true
  fc : byteAt rx 1 = 6
  addr : MbReg.ofAddr (wordAt rx 2) = some reg
  word : wordAt rx 4 = value

theorem rtuPass_serialWrite {input : ModbusTickIn} {s : Sys} {reg : MbReg} {value : ℕ}
    (hframe : SerialWrite s.modbus.core input.rx reg value) : rtuPass input s =
      (appModbusNoteRemote input.tReq (onCore (wroteCore reg value) s), some .rtu) := by
  have hlength := length_of_mbFrameAccepted hframe.accepted
  have hdecode : mbCoreDecode .rtu input.rx s.modbus.core =
      ⟨wroteCore reg value s.modbus.core, echoResp input.rx 6 s.modbus.core, 6⟩ := by
    unfold mbCoreDecode mbWriteReg
    rw [hframe.accepted, hframe.fc, hframe.addr, hframe.word]
    rfl
  have hanswered : echoResp input.rx 6 s.modbus.core ≠ [] := by
    refine List.ne_nil_of_length_pos ?_
    rw [echoResp, length_withCrc]
    omega
  unfold rtuPass
  rw [if_neg (List.ne_nil_of_length_pos (by omega)), hdecode]
  dsimp only
  rw [if_neg hanswered, if_pos rfl]
  rfl

/-- The tables in which a tick that owns the serial line decodes its frame. -/
def serialTables (build : Build) (input : ModbusTickIn) (s : Sys) : MbCore :=
  (mirrorLive build input.sensDn (tcpLeave (modbusHead build input s))).modbus.core

/-- Assumes: a tick owns the serial line, and the slave takes two frames for writes. Then the pass
over the second frame is the pass over the first with the second write in its tables. -/
theorem serial_instead {build : Build} {input : ModbusTickIn} {s : Sys} {rx : List UInt8}
    {reg reg' : MbReg} {value value' : ℕ}
    (howned : (modbusHead build input s).modbus.applied.owned = true)
    (hframe : SerialWrite (serialTables build input s) input.rx reg value)
    (hframe' : SerialWrite (serialTables build input s) rx reg' value') :
    (modbusPass build input s).2 = some .rtu ∧
      (modbusPass build { input with rx := rx } s).2 = some .rtu ∧
      (modbusPass build input s).1.modbus.core =
        wroteCore reg value (serialTables build input s) ∧
      (modbusPass build { input with rx := rx } s).1 =
        withCore (wroteCore reg' value' (serialTables build input s))
          (modbusPass build input s).1 := by
  have hhead : modbusHead build { input with rx := rx } s = modbusHead build input s := rfl
  unfold modbusPass servePass
  rw [hhead, if_pos howned, if_pos howned, rtuPass_serialWrite hframe,
    @rtuPass_serialWrite { input with rx := rx } _ _ _ hframe']
  unfold serialTables
  generalize mirrorLive build input.sensDn (tcpLeave (modbusHead build input s)) = mirrored
  exact ⟨rfl, rfl, rfl, rfl⟩

/-- The remote model. -/
def remoteBuild : Build := ⟨.remote, false, false⟩

/-- The calls before a request. -/
def beforeRequest : List Call := (requestRun []).history.tail

theorem requestRun_before (rx : List UInt8) : (requestRun rx).history =
    .modbusTick { (serialIter 10 false []).modbus with rx := rx } :: beforeRequest := rfl

/-- A write to DELAY1 with the switch off is, when a START follows, a write of the reserved
register. -/
theorem delayRequest_blind :
    Residue
      (stateAfter remoteBuild serialBoot (iterHistory [serialIter 20 false (fc06 0x1B 1)] ++
        (requestRun (fc06 0x0A 50)).history))
      (stateAfter remoteBuild serialBoot (iterHistory [serialIter 20 false (fc06 0x1B 1)] ++
        (requestRun (fc06 0x2D 7)).history)) := by
  have hreplaced (recent past : List Call) (input : ModbusTickIn) (rx rx' : List UInt8)
      (howned : (modbusHead remoteBuild input
        (stateAfter remoteBuild serialBoot past)).modbus.applied.owned = true)
      (hframe : SerialWrite (serialTables remoteBuild input
        (stateAfter remoteBuild serialBoot past)) rx .delay1 50)
      (hframe' : SerialWrite (serialTables remoteBuild input
        (stateAfter remoteBuild serialBoot past)) rx' .reserved2D 7)
      (hgate : (applyEntry remoteBuild serialBoot { input with rx := rx } past).modbus.gate ≠
        .enabled) :
      Residue (stateAfter remoteBuild serialBoot
        (recent ++ .modbusTick { input with rx := rx } :: past))
        (stateAfter remoteBuild serialBoot
          (recent ++ .modbusTick { input with rx := rx' } :: past)) := by
    obtain ⟨hlink, hlink', hwrite, hinstead⟩ :=
      @serial_instead remoteBuild { input with rx := rx } _ rx' _ _ _ _ howned hframe hframe'
    exact ((closed_gate_blind remoteBuild serialBoot past past _ _ .rtu .rtu _ .delay1 50 7
      rfl hlink
      hlink' hgate hwrite hinstead).1 (by decide)).2 recent
  rw [requestRun_before, requestRun_before]
  refine hreplaced _ beforeRequest _ _ _ ?_ ?_ ?_ ?_
  · decide +kernel
  · constructor <;> decide +kernel
  · constructor <;> decide +kernel
  · decide +kernel

end UsCtrl
