import UsCtrl.StageTimes
import UsCtrl.MbapTransport
import Mathlib.Data.List.Chain

/-!
# Who owns the serial port

USART6 is shared: the monitor console talks on it until `apply_config` takes it for Modbus, and gets
it back when the serial link is given up. The drivers see only calls (`PortCall`), so the state of
the port after a run is what the calls made so far leave (`portTrace`, `portAfter`).

`PortMatches` is what holds between any two calls: the applied settings are those of the port, and
openings and closings alternate. `app_modbus_tick` brings it up to date with the configuration
before it decodes anything, and nothing that it decodes over the serial line changes a serial
setting, so that behind every tick the port follows the live configuration
(`portOwnership_follows`).
-/

set_option autoImplicit false
set_option relaxedAutoImplicit false

namespace UsCtrl

open Foundation

/-! ### The drivers of USART6 -/

/-- `UART_PARITY_EVEN`, `UART_PARITY_ODD` and `UART_PARITY_NONE`. -/
inductive UartParity
  | even
  | odd
  | none
  deriving DecidableEq, Repr

/-- What `huart6` is initialised with; `wordBits` counts the parity bit. -/
structure UartLine where
  baud : ℕ
  parity : UartParity
  wordBits : ℕ
  deriving DecidableEq, Repr

/-- The statics of `usart6_mb.c` and `mon_usart6.c`, with the line of `huart6`; a UART that is
de-initialised has none. -/
structure Usart6 where
  isOpen : Bool
  baud : ℕ
  gapMs : ℕ
  line : Option UartLine
  monEnabled : Bool
  deriving DecidableEq, Repr

/-- The drivers at reset. -/
def usart6Reset : Usart6 := ⟨false, 19200, 2, none, true⟩

/-- `mb_baud`. -/
def mbBaud : List ℕ := [2400, 4800, 9600, 19200, 38400, 115200]

/-- `mb_gap_ms`. -/
def mbGapMs : List ℕ := [14, 7, 4, 2, 2, 2]

/-- The line that `usart6_init` sets up. -/
def monLine : UartLine := ⟨115200, .none, 8⟩

/-- The line that `mb_uart_reinit` sets up. -/
def mbLine (speedIdx parityIdx : ℕ) : UartLine :=
  let baud := mbBaud.getD speedIdx 19200
  if parityIdx = 0 then ⟨baud, .even, 9⟩
  else if parityIdx = 1 then ⟨baud, .odd, 9⟩
  else ⟨baud, .none, 8⟩

/-- `mb_uart_reinit`. -/
def mbUartReinit (speedIdx parityIdx : ℕ) (port : Usart6) : Usart6 :=
  { port with
    baud := mbBaud.getD speedIdx 19200
    gapMs := mbGapMs.getD speedIdx 2
    line := some (mbLine speedIdx parityIdx) }

/-- `usart6_mb_open`. -/
def usart6MbOpen (speedIdx parityIdx : ℕ) (port : Usart6) : Usart6 :=
  if port.isOpen then port else { mbUartReinit speedIdx parityIdx port with isOpen := true }

/-- `usart6_mb_close`. -/
def usart6MbClose (port : Usart6) : Usart6 :=
  if port.isOpen then { port with line := none, isOpen := false } else port

/-- A call to the drivers. -/
inductive PortCall
  | usart6Init
  | usart6MbOpen (speedIdx parityIdx : ℕ)
  | usart6MbClose
  | monSetEnabled (on : Bool)
  deriving DecidableEq, Repr

/-- What a call does to the drivers. -/
def PortCall.exec : PortCall → Usart6 → Usart6
  | .usart6Init, port => { port with line := some monLine }
  | .usart6MbOpen speedIdx parityIdx, port => UsCtrl.usart6MbOpen speedIdx parityIdx port
  | .usart6MbClose, port => UsCtrl.usart6MbClose port
  | .monSetEnabled on, port => { port with monEnabled := on }

/-- The drivers as a machine. -/
def usart6 : Machine Usart6 PortCall := ⟨usart6Reset, PortCall.exec⟩

/-- Whether a call opens the port or closes it. -/
def PortCall.turn : PortCall → Option Bool
  | .usart6MbOpen _ _ => some true
  | .usart6MbClose => some false
  | _ => none

/-! ### The calls of the firmware -/

/-- The driver calls of `apply_config`, in order. -/
def applyConfigPort (cfg : AppConfig) (applied : AppliedLine) : List PortCall :=
  let want := decide (cfg.commMode = 0) && decide (cfg.commAddress ≠ 0)
  if want ∧ applied.owned ∧ cfg.commSpeedIdx = applied.speedIdx ∧
      cfg.commParityIdx = applied.parityIdx then []
  else if want = false ∧ applied.owned = false then []
  else
    (if applied.owned then [.usart6MbClose, .usart6Init, .monSetEnabled true] else []) ++
      if want then [.monSetEnabled false, .usart6MbOpen cfg.commSpeedIdx cfg.commParityIdx] else []

/-- What `apply_config` finds in a tick. -/
def beforeApplyConfig (build : Build) (input : ModbusTickIn) (s : Sys) : Sys :=
  stageTick input.tStage (holdWdtBlock input.tHold
    (remoteEnStep build input.tGate input.remoteEnPin s))

/-- The driver calls of a call of the loop, in order. -/
def Call.portCalls (build : Build) (call : Call) (s : Sys) : List PortCall :=
  match call with
  | .modbusTick input =>
    applyConfigPort (beforeApplyConfig build input s).cfg
      (beforeApplyConfig build input s).modbus.applied
  | _ => []

/-- The driver calls of a run from power-up on, newest first. -/
def portTrace (build : Build) (boot : BootIn) : List Call → List PortCall
  | [] =>
    let s := appInit boot (resetState build boot)
    (applyConfigPort s.cfg s.modbus.applied).reverse ++ [.usart6Init]
  | call :: past =>
    (call.portCalls build (stateAfter build boot past)).reverse ++ portTrace build boot past

/-- The drivers behind a run. -/
def portAfter (build : Build) (boot : BootIn) (history : List Call) : Usart6 :=
  usart6.after (portTrace build boot history)

/-! ### The port and the applied settings -/

/-- The port that Modbus owns. -/
def mbPort (speedIdx parityIdx : ℕ) : Usart6 where
  isOpen := true
  baud := mbBaud.getD speedIdx 19200
  gapMs := mbGapMs.getD speedIdx 2
  line := some (mbLine speedIdx parityIdx)
  monEnabled := false

/-- The port that the monitor has; the last Modbus settings linger in its statics. -/
structure MonPort (port : Usart6) : Prop where
  closed : port.isOpen = false
  line : port.line = some monLine
  enabled : port.monEnabled = true

/-- The port that has taken some calls is the one the applied settings describe, the decoder answers
to the applied address, and no opening or closing was redundant. -/
structure PortMatches (applied : AppliedLine) (deviceAddr : ℕ) (trace : List PortCall) : Prop where
  device : applied.owned = true → deviceAddr = applied.addr
  owned : applied.owned = true → usart6.after trace = mbPort applied.speedIdx applied.parityIdx
  free : applied.owned = false → MonPort (usart6.after trace)
  turns : (trace.filterMap PortCall.turn).IsChain (· ≠ ·)
  last : (trace.filterMap PortCall.turn).headD false = applied.owned

/-- The settings of the serial line that a configuration asks for. -/
def AppConfig.serialLine (cfg : AppConfig) : AppliedLine :=
  ⟨true, cfg.commSpeedIdx, cfg.commParityIdx, cfg.commAddress⟩

/-- The applied settings are those of the configuration. -/
structure LineFollows (cfg : AppConfig) (applied : AppliedLine) : Prop where
  owned : applied.owned = lineWanted cfg
  settings : lineWanted cfg = true → applied = cfg.serialLine

section Steps

variable {applied : AppliedLine} {deviceAddr : ℕ} {trace : List PortCall}

/-- A call that turns the port the other way keeps the alternation. -/
theorem PortMatches.turned (h : PortMatches applied deviceAddr trace) {turn : Bool}
    (hturn : turn ≠ applied.owned) : (turn :: trace.filterMap PortCall.turn).IsChain (· ≠ ·) := by
  refine h.turns.cons fun last hlast ↦ ?_
  have howned := h.last
  rw [List.headD_eq_head?_getD, hlast] at howned
  exact fun heq ↦ hturn (heq.trans howned)

theorem PortMatches.acquire (h : PortMatches applied deviceAddr trace)
    (hfree : applied.owned = false) (speedIdx parityIdx addr : ℕ) :
    PortMatches ⟨true, speedIdx, parityIdx, addr⟩ addr
      (.usart6MbOpen speedIdx parityIdx :: .monSetEnabled false :: trace) := by
  refine ⟨fun _ ↦ rfl, fun _ ↦ ?_, by rintro ⟨⟩, h.turned (by rw [hfree]; rintro ⟨⟩), rfl⟩
  have hclosed := (h.free hfree).closed
  show usart6MbOpen speedIdx parityIdx { usart6.after trace with monEnabled := false } = _
  unfold usart6MbOpen
  dsimp only
  rw [hclosed, if_neg Bool.false_ne_true]
  rfl

theorem PortMatches.release (h : PortMatches applied deviceAddr trace)
    (howned : applied.owned = true) :
    PortMatches { applied with owned := false } deviceAddr
      (.monSetEnabled true :: .usart6Init :: .usart6MbClose :: trace) := by
  refine ⟨by rintro ⟨⟩, by rintro ⟨⟩, fun _ ↦ ?_, h.turned (howned ▸ Bool.false_ne_true), rfl⟩
  have hclosed : (usart6MbClose (usart6.after trace)).isOpen = false := by
    rw [h.owned howned]
    rfl
  exact ⟨hclosed, rfl, rfl⟩

theorem PortMatches.retarget (h : PortMatches applied deviceAddr trace)
    (addr : ℕ) : PortMatches { applied with addr := addr } addr trace :=
  ⟨fun _ ↦ rfl, h.owned, fun hfree ↦ h.free hfree, h.turns, h.last⟩

end Steps

/-- `apply_config` brings the port in line with the configuration. -/
theorem applyConfig_port (build : Build) (sensDn : Bool) {s : Sys} {trace : List PortCall}
    (h : PortMatches s.modbus.applied s.modbus.core.deviceAddr trace) :
    let lined := applyConfig build sensDn s
    PortMatches lined.modbus.applied lined.modbus.core.deviceAddr
        ((applyConfigPort s.cfg s.modbus.applied).reverse ++ trace) ∧
      LineFollows s.cfg lined.modbus.applied := by
  have hwant : (decide (s.cfg.commMode = 0) && decide (s.cfg.commAddress ≠ 0)) =
      lineWanted s.cfg := rfl
  simp only [applyConfig, applyConfigPort, hwant, ← lineHeld_iff]
  cases hline : lineWanted s.cfg with
  | false =>
    have hfollows : LineFollows s.cfg { s.modbus.applied with owned := false } :=
      ⟨hline.symm, fun h ↦ absurd (hline.symm.trans h) Bool.false_ne_true⟩
    cases howned : s.modbus.applied.owned with
    | false =>
      have hsame : { s.modbus.applied with owned := false } = s.modbus.applied := by
        rw [← howned]
      refine ⟨?_, hfollows⟩
      show PortMatches { s.modbus.applied with owned := false } s.modbus.core.deviceAddr trace
      rw [hsame]
      exact h
    | true => exact ⟨h.release howned, hfollows⟩
  | true =>
    by_cases hheld : lineHeld s = true
    · obtain ⟨howned, hspeed, hparity⟩ := (lineHeld_iff s).mp hheld
      have hfollows : LineFollows s.cfg { s.modbus.applied with addr := s.cfg.commAddress } := by
        refine ⟨howned.trans hline.symm, fun _ ↦ ?_⟩
        rw [AppConfig.serialLine, hspeed, hparity, ← howned]
      simp only [hheld, if_true, true_and]
      by_cases haddr : s.cfg.commAddress ≠ s.modbus.applied.addr
      · rw [if_pos haddr]
        exact ⟨h.retarget s.cfg.commAddress, hfollows⟩
      · rw [if_neg haddr]
        rw [not_not.mp haddr] at hfollows
        exact ⟨h, hfollows⟩
    · have hfollows : LineFollows s.cfg s.cfg.serialLine := ⟨hline.symm, fun _ ↦ rfl⟩
      simp only [hheld, true_and]
      cases howned : s.modbus.applied.owned with
      | false => exact ⟨h.acquire howned _ _ _, hfollows⟩
      | true => exact ⟨(h.release howned).acquire rfl _ _ _, hfollows⟩

/-! ### The rest of the tick -/

/-- The applied settings stay, and so does the slave address while the line is owned. -/
def KeepsLine (s s' : Sys) : Prop :=
  s'.modbus.applied = s.modbus.applied ∧
    (s.modbus.applied.owned = true → s'.modbus.core.deviceAddr = s.modbus.core.deviceAddr)

theorem KeepsLine.refl (s : Sys) : KeepsLine s s := ⟨rfl, fun _ ↦ rfl⟩

theorem KeepsLine.trans {s mid s' : Sys} (hfirst : KeepsLine s mid) (hsecond : KeepsLine mid s') :
    KeepsLine s s' := by
  refine ⟨hsecond.1.trans hfirst.1, fun howned ↦ ?_⟩
  exact (hsecond.2 ((congrArg AppliedLine.owned hfirst.1).trans howned)).trans (hfirst.2 howned)

theorem keepsLine_of_modbus {s s' : Sys} (h : s'.modbus = s.modbus) : KeepsLine s s' := by
  rw [KeepsLine, h]
  exact ⟨rfl, fun _ ↦ rfl⟩

theorem keepsLine_readOnly {s s' : Sys} (h : ReadOnly s s') : KeepsLine s s' := by
  obtain ⟨_, _, _, _, rfl⟩ := h
  exact ⟨rfl, fun _ ↦ rfl⟩

theorem keepsLine_wrote {s s' : Sys} (h : Wrote s s') : KeepsLine s s' := by
  obtain ⟨reg, value, -, mid, hbefore, hafter⟩ := h
  have hstored : KeepsLine mid (onCore (wroteCore reg value) mid) := ⟨rfl, fun _ ↦ rfl⟩
  exact (keepsLine_readOnly hbefore).trans (hstored.trans (keepsLine_readOnly hafter))

theorem keepsLine_tcpLeave (s : Sys) : KeepsLine s (tcpLeave s) := by
  unfold tcpLeave
  split_ifs
  · exact ⟨rfl, fun _ ↦ rfl⟩
  · exact KeepsLine.refl s

/-- The TCP server seeds the slave address, and it becomes active only without the line. -/
theorem keepsLine_tcpEnter {s : Sys} (hfree : s.modbus.applied.owned ≠ true) :
    KeepsLine s (tcpEnter s) := by
  unfold tcpEnter
  split_ifs
  · exact KeepsLine.refl s
  · exact ⟨rfl, fun howned ↦ absurd howned hfree⟩

theorem keepsLine_mirrorLive (build : Build) (sensDn : Bool) (s : Sys) :
    KeepsLine s (mirrorLive build sensDn s) :=
  ⟨rfl, fun _ ↦ rfl⟩

theorem keepsLine_tickMirror {build : Build} {input : ModbusTickIn} {s mirrored : Sys}
    (hmirrored : tickMirror build input s = some mirrored) :
    KeepsLine (modbusHead build input s) mirrored := by
  unfold tickMirror at hmirrored
  dsimp only at hmirrored
  split_ifs at hmirrored with howned
  · obtain rfl := Option.some.inj hmirrored
    exact (keepsLine_tcpLeave _).trans (keepsLine_mirrorLive _ _ _)
  · obtain rfl := Option.some.inj hmirrored
    exact (keepsLine_tcpEnter howned).trans (keepsLine_mirrorLive _ _ _)

theorem keepsLine_modbusPass (build : Build) (input : ModbusTickIn) (s : Sys) :
    KeepsLine (modbusHead build input s) (modbusPass build input s).1 := by
  cases hlink : (modbusPass build input s).2 with
  | none =>
    rcases modbusPass_readOnly hlink with ⟨mirrored, hmirrored, hread⟩ | ⟨-, hleft⟩
    · exact (keepsLine_tickMirror hmirrored).trans (keepsLine_readOnly hread)
    · rw [hleft]
      exact keepsLine_tcpLeave _
  | some link =>
    obtain ⟨mirrored, hmirrored, hwrote⟩ := modbusPass_wrote hlink
    exact (keepsLine_tickMirror hmirrored).trans (keepsLine_wrote hwrote)

theorem keepsLine_setHolding (reg : MbReg) (value : ℕ) (s : Sys) :
    KeepsLine s (setHolding reg value s) :=
  ⟨rfl, fun _ ↦ rfl⟩

theorem keepsLine_startCmdBody (value : ℕ) (input : ApplyIn) (s : Sys) :
    KeepsLine s (startCmdBody value input s) := by
  have hstart : KeepsLine s (appLcdHookSetPot s.cfg.outputPower
      (appRegCommand .start .comm input.tCmd s)) :=
    keepsLine_of_modbus (appRegCommand_modbus .start .comm input.tCmd s)
  unfold startCmdBody
  split_ifs
  · exact hstart
  · exact ⟨hstart.1, hstart.2⟩
  · exact ⟨rfl, fun _ ↦ rfl⟩
  · exact KeepsLine.refl s
  · exact ⟨rfl, fun _ ↦ rfl⟩
  · exact KeepsLine.refl s

theorem keepsLine_cfgCtrlBody (link : MbLink) (ctrl : ℕ) (s : Sys) :
    KeepsLine s (cfgCtrlBody link ctrl s).1 := by
  unfold cfgCtrlBody
  dsimp only
  split_ifs <;> exact ⟨rfl, fun _ ↦ rfl⟩

theorem keepsLine_stagedScan (tStage : ℕ) (s : Sys) : KeepsLine s (stagedScan tStage s) := by
  unfold stagedScan
  split <;> exact ⟨rfl, fun _ ↦ rfl⟩

theorem keepsLine_applyRules (link : MbLink) (input : ApplyIn) (s : Sys) :
    ∀ rule ∈ applyRules link input, KeepsLine s (rule.act s).1 := by
  have hcommand (cmd : UsCmd) (reg : MbReg) :
      KeepsLine s (setHolding reg 0 (appRegCommand cmd .comm 0 s)) :=
    (keepsLine_of_modbus (appRegCommand_modbus cmd .comm 0 s)).trans (keepsLine_setHolding reg 0 _)
  intro rule hrule
  rcases List.mem_append.mp hrule with hmem | hmem
  · simp only [commandRules, List.mem_cons, List.not_mem_nil, or_false] at hmem
    rcases hmem with rfl | rfl | rfl | rfl | rfl
    · exact hcommand .reset .reset
    · exact hcommand .seek .seek
    · exact (keepsLine_setHolding .start 0 s).trans (keepsLine_startCmdBody _ input _)
    · exact hcommand .runRelease .stop
    · exact (keepsLine_setHolding .cfgCtrl 0 s).trans (keepsLine_cfgCtrlBody link _ _)
  · exact keepsLine_of_modbus (configRules_modbus s rule hmem)

theorem keepsLine_appModbusApplyWrites (build : Build) (link : MbLink) (input : ApplyIn)
    (s : Sys) : KeepsLine s (appModbusApplyWrites build link input s) := by
  have hcounted : KeepsLine s (countApply s) := ⟨rfl, fun _ ↦ rfl⟩
  refine hcounted.trans ?_
  unfold appModbusApplyWrites
  split_ifs
  · rw [KeepsLine, gateRejectBody_modbus]
    exact ⟨rfl, fun _ ↦ rfl⟩
  · rw [KeepsLine, applyChain_modbus]
    exact firstMatch_induction (fun result : Sys × Bool ↦ KeepsLine (countApply s) result.1)
      (keepsLine_stagedScan _ _) fun rule hrule _ ↦ keepsLine_applyRules link input _ rule hrule

theorem keepsLine_modbusTick (build : Build) (input : ModbusTickIn) (s : Sys) :
    KeepsLine (modbusHead build input s) (appModbusTick build input s) := by
  rw [appModbusTick_eq_pass, finishPass]
  cases (modbusPass build input s).2 with
  | none => exact keepsLine_modbusPass build input s
  | some link =>
    exact (keepsLine_modbusPass build input s).trans (keepsLine_appModbusApplyWrites _ _ _ _)

theorem PortMatches.kept {s s' : Sys} {trace : List PortCall}
    (h : PortMatches s.modbus.applied s.modbus.core.deviceAddr trace) (hkept : KeepsLine s s') :
    PortMatches s'.modbus.applied s'.modbus.core.deviceAddr trace := by
  rw [hkept.1]
  exact ⟨fun howned ↦ (hkept.2 howned).trans (h.device howned), h.owned, h.free, h.turns, h.last⟩

/-- What `apply_config` reads is what the tick finds. -/
theorem beforeApplyConfig_line (build : Build) (input : ModbusTickIn) (s : Sys) :
    (beforeApplyConfig build input s).cfg = s.cfg ∧
      (beforeApplyConfig build input s).modbus.applied = s.modbus.applied ∧
      (beforeApplyConfig build input s).modbus.core = s.modbus.core := by
  obtain ⟨hcfg, -, happlied, -, -⟩ := stageTick_link build input s
  exact ⟨hcfg, happlied, (holdWdtBlock_core _ _).trans (remoteEnStep_core _ _ _ _)⟩

theorem modbusHead_port (build : Build) (input : ModbusTickIn) {s : Sys} {trace : List PortCall}
    (h : PortMatches s.modbus.applied s.modbus.core.deviceAddr trace) :
    let head := modbusHead build input s
    PortMatches head.modbus.applied head.modbus.core.deviceAddr
        (((Call.modbusTick input).portCalls build s).reverse ++ trace) ∧
      LineFollows s.cfg head.modbus.applied := by
  obtain ⟨hcfg, happlied, hcore⟩ := beforeApplyConfig_line build input s
  have hbefore : PortMatches (beforeApplyConfig build input s).modbus.applied
      (beforeApplyConfig build input s).modbus.core.deviceAddr trace := by
    rw [happlied, hcore]
    exact h
  have hlined := applyConfig_port build input.sensDnAcquire hbefore
  rw [hcfg] at hlined
  dsimp only [Call.portCalls]
  rw [hcfg]
  exact hlined

/-! ### The configuration behind a tick -/

/-- Without a server mode a request comes over the serial line. -/
theorem rtu_of_serialMode {build : Build} {input : ModbusTickIn} {s : Sys} {link : MbLink}
    (hmode : s.cfg.commMode = 0) (hlink : (modbusPass build input s).2 = some link) :
    link = .rtu := by
  have hhead : (modbusHead build input s).cfg.commMode = 0 :=
    (congrArg AppConfig.commMode (modbusHead_line build input s).1).trans hmode
  have hrtu (t : Sys) : (rtuPass input t).2 = none ∨ (rtuPass input t).2 = some .rtu := by
    unfold rtuPass
    dsimp only
    by_cases hrx : input.rx = []
    · rw [if_pos hrx]
      exact Or.inl rfl
    · rw [if_neg hrx]
      split_ifs <;> simp
  unfold modbusPass servePass at hlink
  split_ifs at hlink with howned hserver
  · rcases hrtu (mirrorLive build input.sensDn (tcpLeave (modbusHead build input s))) with h | h
    · cases h.symm.trans hlink
    · exact Option.some.inj (hlink.symm.trans h)
  · exact absurd hhead hserver.1

/-- The link of a request that is applied is the one its pass leaves. -/
theorem link_of_request {build : Build} {input : ModbusTickIn} {s : Sys} {link : MbLink}
    {reg : MbReg} {word : ℕ} (hrequest : appliedRequest build input s = some (link, reg, word)) :
    (modbusPass build input s).2 = some link := by
  unfold appliedRequest at hrequest
  dsimp only at hrequest
  split at hrequest
  · rename_i served last hlink hlast
    split_ifs at hrequest
    obtain ⟨rfl, -⟩ := Prod.mk.inj (Option.some.inj hrequest)
    exact hlink
  · cases hrequest

theorem AppConfig.withFieldsOf_commMode (reg : MbReg) (cfg donor : AppConfig) :
    (cfg.withFieldsOf reg donor).commMode = cfg.commMode := by
  cases reg <;> rfl

/-- No request changes the mode. -/
theorem modbusTick_commMode (build : Build) (boot : BootIn) (past : List Call)
    (input : ModbusTickIn) :
    (stateAfter build boot (.modbusTick input :: past)).cfg.commMode =
      (stateAfter build boot past).cfg.commMode := by
  have hstep := exec_config build boot past (.modbusTick input)
  generalize (stateAfter build boot (.modbusTick input :: past)).cfg = cfg at hstep
  cases hstep with
  | kept => rfl
  | loaded hloads => cases hloads
  | written _ _ _ hcfg _ =>
    rw [hcfg]
    exact AppConfig.withFieldsOf_commMode _ _ _
  | cleared => rfl
  | committed => rfl

/-- A tick leaves the settings of the serial line alone while the configuration asks for it. -/
theorem modbusTick_serialLine (build : Build) (boot : BootIn) (past : List Call)
    (input : ModbusTickIn) (hmode : (stateAfter build boot past).cfg.commMode = 0) :
    (stateAfter build boot (.modbusTick input :: past)).cfg.serialLine =
      (stateAfter build boot past).cfg.serialLine := by
  have hserial (hcomm : ∀ field : CfgStg, field.serial = true →
      (stateAfter build boot (.modbusTick input :: past)).cfg.comm field =
        (stateAfter build boot past).cfg.comm field) :
      (stateAfter build boot (.modbusTick input :: past)).cfg.serialLine =
        (stateAfter build boot past).cfg.serialLine := by
    have haddr := congrArg Prod.snd (hcomm .addr rfl)
    have hspeed := congrArg Prod.snd (hcomm .speed rfl)
    have hparity := congrArg Prod.snd (hcomm .parity rfl)
    dsimp only [AppConfig.comm] at haddr hspeed hparity
    rw [AppConfig.serialLine, haddr, hspeed, hparity, AppConfig.serialLine]
  obtain ⟨happlied, hnone⟩ := @stateAfter_request build boot input past
  cases hrequest : appliedRequest build input (stateAfter build boot past) with
  | none => exact hserial fun field _ ↦ congrFun (hnone hrequest).2 field
  | some request =>
    obtain ⟨link, reg, word⟩ := request
    have hcomm := (happlied link reg word hrequest).2.2
    by_cases haccepts : acceptsCommit build input (stateAfter build boot past) = true
    · have hctrl := haccepts
      simp only [acceptsCommit, hrequest, Bool.and_eq_true, decide_eq_true_eq] at hctrl
      obtain ⟨⟨rfl, rfl⟩, -⟩ := hctrl
      obtain rfl := rtu_of_serialMode hmode (link_of_request hrequest)
      exact hserial fun field hfield ↦ (commit_atomic hrequest).ownLink field hfield
    · rw [if_neg haccepts] at hcomm
      exact hserial fun field _ ↦ congrFun hcomm field

/-! ### Runs -/

/-- Between any two calls the port is the one the applied settings describe. -/
theorem after_portMatches (build : Build) (boot : BootIn) (history : List Call) :
    PortMatches (stateAfter build boot history).modbus.applied
      (stateAfter build boot history).modbus.core.deviceAddr (portTrace build boot history) := by
  induction history with
  | nil =>
    have hmodbus : (appInit boot (resetState build boot)).modbus =
        (resetState build boot).modbus := (blind_initMode boot.tPage).modbus _
    have hreset : PortMatches (appInit boot (resetState build boot)).modbus.applied
        (appInit boot (resetState build boot)).modbus.core.deviceAddr [.usart6Init] := by
      rw [hmodbus]
      exact ⟨by rintro ⟨⟩, by rintro ⟨⟩, fun _ ↦ ⟨rfl, rfl, rfl⟩, List.isChain_nil, rfl⟩
    exact (applyConfig_port build boot.sensDn hreset).1
  | cons call past ih =>
    by_cases hkind : call.kind = .modbus
    · cases call with
      | modbusTick input =>
        exact (modbusHead_port build input ih).1.kept (keepsLine_modbusTick build input _)
      | _ => cases hkind
    · have hcalls : call.portCalls build (stateAfter build boot past) = [] := by
        cases call with
        | modbusTick => exact absurd rfl hkind
        | _ => rfl
      rw [portTrace, hcalls]
      exact ih.kept (keepsLine_of_modbus (exec_modbus build hkind _))

theorem slaveTables_anyAddr (frame : List UInt8) (core : MbCore) (address : ℕ) :
    slaveTables frame { core with deviceAddr := address } =
      { slaveTables frame core with deviceAddr := address } := by
  unfold slaveTables
  split_ifs
  · rfl
  · rfl
  · cases MbReg.ofAddr (wordAt frame 2) <;> rfl
  · rfl

/-- Over TCP the decoder does not read the slave address. -/
theorem mbTcpBuildResponse_anyAddr (req : List UInt8) (core : MbCore) (address : ℕ) :
    mbTcpBuildResponse req { core with deviceAddr := address } =
      { mbTcpBuildResponse req core with
        core := { (mbTcpBuildResponse req core).core with deviceAddr := address } } := by
  unfold mbTcpBuildResponse
  split_ifs with hreq
  · rfl
  · generalize (req.drop 6).take (wordAt req 4) = frame
    by_cases hserved : Addressed .tcp frame core ∧ Served frame
    · obtain ⟨data, hdata⟩ : ∃ data, ∀ unit,
          slaveAnswer unit frame core = withCrc ([unit, UInt8.ofNat (byteAt frame 1)] ++ data) :=
        ⟨_, fun _ ↦ rfl⟩
      have hany (addr : ℕ) : mbCoreDecode .tcp frame { core with deviceAddr := addr } =
          ⟨{ slaveTables frame core with deviceAddr := addr },
            withCrc ([UInt8.ofNat addr, UInt8.ofNat (byteAt frame 1)] ++ data),
            byteAt frame 1⟩ := by
        have hspec : Addressed .tcp frame { core with deviceAddr := addr } ∧ Served frame := hserved
        have hanswer : slaveAnswer (UInt8.ofNat addr) frame { core with deviceAddr := addr } =
            slaveAnswer (UInt8.ofNat addr) frame core := rfl
        rw [mbCoreDecode_eq, if_pos hspec, slaveTables_anyAddr, hanswer, hdata]
      rw [hany, show mbCoreDecode .tcp frame core = _ from hany core.deviceAddr]
      dsimp only
      rw [take_withCrc, take_withCrc, if_neg (by simp [length_withCrc_body]),
        if_neg (by simp [length_withCrc_body])]
      rfl
    · have hsilent (addr : ℕ) : mbCoreDecode .tcp frame { core with deviceAddr := addr } =
          .silent { core with deviceAddr := addr } := by
        have hspec : ¬ (Addressed .tcp frame { core with deviceAddr := addr } ∧ Served frame) :=
          hserved
        rw [mbCoreDecode_eq, if_neg hspec]
      rw [hsilent, show mbCoreDecode .tcp frame core = _ from hsilent core.deviceAddr]
      rfl

section Follows

variable (build : Build) (boot : BootIn)

/-- What an `app_modbus_tick` behind `past` does to the ownership of USART6: the port follows the
configuration, a change of the address alone reaches the decoder and nothing else, and whatever the
tick decodes over the serial line it decodes at the live address. The TCP server decodes at any
address alike. -/
structure PortFollows (past : List Call) (input : ModbusTickIn) : Prop where
  owned : (stateAfter build boot (.modbusTick input :: past)).modbus.applied.owned = true ↔
    (stateAfter build boot (.modbusTick input :: past)).cfg.commMode = 0 ∧
      (stateAfter build boot (.modbusTick input :: past)).cfg.commAddress ≠ 0
  held : (stateAfter build boot (.modbusTick input :: past)).modbus.applied.owned = true →
    (stateAfter build boot (.modbusTick input :: past)).modbus.applied =
        (stateAfter build boot (.modbusTick input :: past)).cfg.serialLine ∧
      (stateAfter build boot (.modbusTick input :: past)).modbus.core.deviceAddr =
        (stateAfter build boot (.modbusTick input :: past)).cfg.commAddress ∧
      portAfter build boot (.modbusTick input :: past) =
        mbPort (stateAfter build boot (.modbusTick input :: past)).cfg.commSpeedIdx
          (stateAfter build boot (.modbusTick input :: past)).cfg.commParityIdx
  free : (stateAfter build boot (.modbusTick input :: past)).modbus.applied.owned = false →
    MonPort (portAfter build boot (.modbusTick input :: past))
  turns : ((portTrace build boot (.modbusTick input :: past)).filterMap PortCall.turn).IsChain
    (· ≠ ·)
  retargets : lineWanted (stateAfter build boot past).cfg = true →
    lineHeld (stateAfter build boot past) = true →
      (Call.modbusTick input).portCalls build (stateAfter build boot past) = [] ∧
        (modbusHead build input (stateAfter build boot past)).modbus.core =
          { (stateAfter build boot past).modbus.core with
            deviceAddr := (stateAfter build boot past).cfg.commAddress }
  serial : (modbusHead build input (stateAfter build boot past)).modbus.applied.owned = true →
    ∃ mirrored, stateAfter build boot (.modbusTick input :: past) = rtuServe build input mirrored ∧
      mirrored.cfg = (stateAfter build boot past).cfg ∧
      mirrored.modbus.core.deviceAddr = mirrored.cfg.commAddress
  server : ∀ (req : List UInt8) (core : MbCore) (address : ℕ),
    mbTcpBuildResponse req { core with deviceAddr := address } =
      { mbTcpBuildResponse req core with
        core := { (mbTcpBuildResponse req core).core with deviceAddr := address } }

variable {build boot}

theorem modbusTick_follows (past : List Call) (input : ModbusTickIn) :
    LineFollows (stateAfter build boot (.modbusTick input :: past)).cfg
      (stateAfter build boot (.modbusTick input :: past)).modbus.applied := by
  have hhead := (modbusHead_port build input (after_portMatches build boot past)).2
  have happlied : (stateAfter build boot (.modbusTick input :: past)).modbus.applied =
      (modbusHead build input (stateAfter build boot past)).modbus.applied :=
    (keepsLine_modbusTick build input _).1
  have hmode := modbusTick_commMode build boot past input
  rw [happlied]
  by_cases hserial : (stateAfter build boot past).cfg.commMode = 0
  · have hline := modbusTick_serialLine build boot past input hserial
    have haddr : (stateAfter build boot (.modbusTick input :: past)).cfg.commAddress =
        (stateAfter build boot past).cfg.commAddress := congrArg AppliedLine.addr hline
    have hwanted : lineWanted (stateAfter build boot (.modbusTick input :: past)).cfg =
        lineWanted (stateAfter build boot past).cfg := by
      rw [lineWanted, hmode, haddr, lineWanted]
    exact ⟨hhead.owned.trans hwanted.symm,
      fun h ↦ (hhead.settings (hwanted.symm.trans h)).trans hline.symm⟩
  · have hidle {cfg : AppConfig} (hcfg : cfg.commMode ≠ 0) : lineWanted cfg = false := by
      rw [lineWanted, decide_eq_false hcfg, Bool.false_and]
    have hafter := hidle (hmode.trans_ne hserial)
    exact ⟨hhead.owned.trans ((hidle hserial).trans hafter.symm),
      fun h ↦ absurd (hafter.symm.trans h) Bool.false_ne_true⟩

theorem head_retargets {past : List Call} (input : ModbusTickIn)
    (hwanted : lineWanted (stateAfter build boot past).cfg = true)
    (hheld : lineHeld (stateAfter build boot past) = true) :
    (Call.modbusTick input).portCalls build (stateAfter build boot past) = [] ∧
      (modbusHead build input (stateAfter build boot past)).modbus.core =
        { (stateAfter build boot past).modbus.core with
          deviceAddr := (stateAfter build boot past).cfg.commAddress } := by
  obtain ⟨hcfg, happlied, hcore⟩ :=
    beforeApplyConfig_line build input (stateAfter build boot past)
  have hsettings := (lineHeld_iff _).mp hheld
  have hdevice := (after_portMatches build boot past).device hsettings.1
  constructor
  · dsimp only [Call.portCalls]
    rw [hcfg, happlied]
    exact if_pos ⟨hwanted, hsettings⟩
  · rw [← hcore, ← hcfg]
    show (applyConfig build input.sensDnAcquire
      (beforeApplyConfig build input (stateAfter build boot past))).modbus.core = _
    rw [← hcfg] at hwanted hsettings
    rw [← happlied, ← hcore] at hdevice
    rw [← happlied] at hsettings
    generalize beforeApplyConfig build input (stateAfter build boot past) = found at *
    unfold applyConfig
    dsimp only
    rw [if_pos ⟨hwanted, hsettings⟩]
    split_ifs with haddr
    · rfl
    · rw [← hdevice] at haddr
      rw [not_not.mp haddr]

/-- After every `app_modbus_tick` of every run the ownership of the port, its line, the monitor and
the slave address follow the live configuration. -/
theorem portOwnership_follows (build : Build) (boot : BootIn) (past : List Call)
    (input : ModbusTickIn) : PortFollows build boot past input := by
  have hport := after_portMatches build boot (.modbusTick input :: past)
  have hfollows := @modbusTick_follows build boot past input
  have hwanted : lineWanted (stateAfter build boot (.modbusTick input :: past)).cfg = true ↔
      (stateAfter build boot (.modbusTick input :: past)).cfg.commMode = 0 ∧
        (stateAfter build boot (.modbusTick input :: past)).cfg.commAddress ≠ 0 := by
    rw [lineWanted, Bool.and_eq_true, decide_eq_true_eq, decide_eq_true_eq]
  refine ⟨?_, fun howned ↦ ?_, hport.free, hport.turns, head_retargets input, fun howned ↦ ?_,
    mbTcpBuildResponse_anyAddr⟩
  · rw [hfollows.owned]
    exact hwanted
  · have hline := hfollows.settings (hfollows.owned.symm.trans howned)
    have haddr := hport.device howned
    have hopen : portAfter build boot (.modbusTick input :: past) = _ := hport.owned howned
    rw [hline] at haddr hopen
    exact ⟨hline, haddr, hopen⟩
  · have hhead := modbusHead_port build input (after_portMatches build boot past)
    have hcfg := (modbusHead_line build input (stateAfter build boot past)).1
    have hleft : (tcpLeave (modbusHead build input (stateAfter build boot past))).cfg =
        (stateAfter build boot past).cfg := (stored_tcpLeave _).1.trans hcfg
    refine ⟨mirrorLive build input.sensDn
      (tcpLeave (modbusHead build input (stateAfter build boot past))), if_pos howned, hleft, ?_⟩
    have hline := hhead.2.settings (hhead.2.owned.symm.trans howned)
    have haddr := ((keepsLine_tcpLeave _).2 howned).trans (hhead.1.device howned)
    rw [hline] at haddr
    exact haddr.trans (congrArg AppConfig.commAddress hleft).symm

end Follows

end UsCtrl
