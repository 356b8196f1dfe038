import UsCtrl.ModbusBlind
import UsCtrl.HornMode

/-!
# Hold-to-run sessions

The hold watchdog over whole runs (`hold_sessions`). A session is the time the watchdog is armed
while a COMM run is active (`HoldSession`). It is begun by an apply that accepts START = 2
(`Arms`), it is always about the very run that START began, and it ends the run when no START = 2 or
3 has been applied for `HOLD_WDT_MS`.

The Modbus tick meets the watchdog twice: the step at its head (`modbusPass_hold`) and the apply,
which arms it, keeps it or leaves it alone (`appModbusApplyWrites_hold`). In `abandonedRun` a master
begins a hold run and then falls silent.
-/

set_option autoImplicit false
set_option relaxedAutoImplicit false

namespace UsCtrl

open Foundation

/-! ### What leaves the watchdog alone -/

/-- No START is accepted, and the watchdog and the count of write-apply passes are left alone. -/
structure HoldKept (s s' : Sys) : Prop where
  hold : s'.modbus.hold = s.modbus.hold
  applies : s'.ghost.applies = s.ghost.applies
  starts : s'.ghost.starts = s.ghost.starts

theorem HoldKept.refl (s : Sys) : HoldKept s s := ⟨rfl, rfl, rfl⟩

theorem HoldKept.trans {s mid s' : Sys} (hfirst : HoldKept s mid) (hsecond : HoldKept mid s') :
    HoldKept s s' :=
  ⟨hsecond.hold.trans hfirst.hold, hsecond.applies.trans hfirst.applies,
    hsecond.starts.trans hfirst.starts⟩

theorem holdKept_regCommand {cmd : UsCmd} (hcmd : cmd ≠ .start) (src : UsRun) (now : ℕ) (s : Sys) :
    HoldKept s (appRegCommand cmd src now s) := by
  cases cmd with
  | start => exact absurd rfl hcmd
  | runRelease =>
    simp only [appRegCommand, runReleaseCommand, stopRun]
    split_ifs <;> exact ⟨rfl, rfl, rfl⟩
  | seek => exact ⟨rfl, rfl, rfl⟩
  | reset => exact ⟨rfl, rfl, rfl⟩

/-- A START of a link leaves the watchdog alone, and is not accepted while a run is active. -/
theorem regCommand_start_hold (now : ℕ) (s : Sys) :
    (appRegCommand .start .comm now s).modbus.hold = s.modbus.hold ∧
      (appRegCommand .start .comm now s).ghost.applies = s.ghost.applies ∧
      (s.reg.usRunStatus ≠ .idle →
        (appRegCommand .start .comm now s).ghost.starts = s.ghost.starts) := by
  rw [appRegCommand_start (by decide)]
  split_ifs with hallowed
  · refine ⟨rfl, rfl, fun hrun ↦ ?_⟩
    exact absurd ((appRegStartAllowed_iff s).mp hallowed).2.1 hrun
  · exact ⟨rfl, rfl, fun _ ↦ rfl⟩

theorem holdKept_tcpWalkPass (input : TcpPollIn) (fuel index : ℕ) (rest : List UInt8) (s : Sys) :
    HoldKept s (tcpWalkPass input fuel index rest s).sys := by
  induction fuel generalizing index rest s with
  | zero => exact HoldKept.refl s
  | succ fuel ih =>
    unfold tcpWalkPass
    cases mbTcpFramePeek rest with
    | needMore => exact HoldKept.refl s
    | desync => exact HoldKept.refl s
    | ok length =>
      dsimp only
      split_ifs
      · refine HoldKept.trans ?_ (ih _ _ _)
        exact ⟨rfl, rfl, rfl⟩
      · exact ⟨rfl, rfl, rfl⟩
      · refine HoldKept.trans ?_ (ih _ _ _)
        exact ⟨rfl, rfl, rfl⟩

theorem holdKept_tcpLeave (s : Sys) : HoldKept s (tcpLeave s) := by
  unfold tcpLeave
  split_ifs <;> exact ⟨rfl, rfl, rfl⟩

theorem holdKept_servePass (build : Build) (input : ModbusTickIn) (s : Sys) :
    HoldKept s (servePass build input s).1 := by
  have hmirror (t : Sys) : HoldKept t (mirrorLive build input.sensDn t) := ⟨rfl, rfl, rfl⟩
  have hrtu (t : Sys) : HoldKept t (rtuPass input t).1 := by
    unfold rtuPass
    dsimp only
    split_ifs <;> exact ⟨rfl, rfl, rfl⟩
  have htcp (t : Sys) : HoldKept t (tcpPass input.tcp t).1 := by
    have hcontrol : HoldKept t (controlTcp input.tcp t) := ⟨rfl, rfl, rfl⟩
    unfold tcpPass
    dsimp only
    split_ifs
    · exact hcontrol
    · exact hcontrol.trans ((holdKept_tcpWalkPass _ _ _ _ _).trans ⟨rfl, rfl, rfl⟩)
    · exact hcontrol.trans ((holdKept_tcpWalkPass _ _ _ _ _).trans ⟨rfl, rfl, rfl⟩)
  have henter : HoldKept s (tcpEnter s) := by
    unfold tcpEnter
    split_ifs <;> exact ⟨rfl, rfl, rfl⟩
  unfold servePass
  split_ifs
  · exact ((holdKept_tcpLeave s).trans (hmirror _)).trans (hrtu _)
  · exact (henter.trans (hmirror _)).trans (htcp _)
  · exact holdKept_tcpLeave s

theorem holdKept_applyConfig (build : Build) (sensDn : Bool) (s : Sys) :
    HoldKept s (applyConfig build sensDn s) := by
  unfold applyConfig
  dsimp only
  split_ifs <;> exact ⟨rfl, rfl, rfl⟩

theorem holdKept_remoteEnStep (build : Build) (tGate : ℕ) (pin : Bool) (s : Sys) :
    HoldKept s (remoteEnStep build tGate pin s) := by
  unfold remoteEnStep
  cases build.model <;> exact ⟨rfl, rfl, rfl⟩

/-! ### The head of the tick -/

/-- The watchdog's step in a tick. -/
def holdStep (tHold : ℕ) (s : Sys) : HoldWdt × Bool :=
  holdWdtStep tHold (decide (appRegRunSrc s = .comm)) s.modbus.hold

theorem holdWdtBlock_spec (tHold : ℕ) (s : Sys) :
    (holdWdtBlock tHold s).modbus.hold = (holdStep tHold s).1 ∧
      (holdWdtBlock tHold s).ghost.applies = s.ghost.applies ∧
      (holdWdtBlock tHold s).ghost.starts = s.ghost.starts ∧
      (holdTrips tHold s = true → (holdWdtBlock tHold s).reg.usRunStatus = .idle) ∧
      (holdTrips tHold s = false → (holdWdtBlock tHold s).reg = s.reg) := by
  have hstep : holdWdtBlock tHold s = if holdTrips tHold s = true
      then appRegCommand .runRelease .comm 0
        (onModbus (fun modbus ↦ { modbus with hold := (holdStep tHold s).1 }) s)
      else onModbus (fun modbus ↦ { modbus with hold := (holdStep tHold s).1 }) s := rfl
  rw [hstep]
  cases holdTrips tHold s with
  | true =>
    have hends := runRelease_ends .comm 0
      (onModbus (fun modbus ↦ { modbus with hold := (holdStep tHold s).1 }) s)
    have hkept := holdKept_regCommand (by decide : UsCmd.runRelease ≠ .start) .comm 0
      (onModbus (fun modbus ↦ { modbus with hold := (holdStep tHold s).1 }) s)
    exact ⟨hkept.hold, hkept.applies, hends.starts, fun _ ↦ appRegCommand_runRelease_idle .comm 0 _,
      (by rintro ⟨⟩)⟩
  | false => exact ⟨rfl, rfl, rfl, by rintro ⟨⟩, fun _ ↦ rfl⟩

/-- The head of the tick steps the watchdog, stops the run if it trips, and applies nothing. -/
theorem modbusHead_hold (build : Build) (input : ModbusTickIn) (s : Sys) :
    let head := modbusHead build input s
    head.modbus.hold = (holdStep input.tHold s).1 ∧ head.ghost.applies = s.ghost.applies ∧
      head.ghost.starts = s.ghost.starts ∧
      (holdTrips input.tHold s = true → head.reg.usRunStatus = .idle) ∧
      (holdTrips input.tHold s = false → head.reg = s.reg) := by
  have hgate := holdKept_remoteEnStep build input.tGate input.remoteEnPin s
  have hquiet := quiet_remoteEnStep build input.tGate input.remoteEnPin s
  have hblock := holdWdtBlock_spec input.tHold (remoteEnStep build input.tGate input.remoteEnPin s)
  rw [holdTrips_remoteEnStep, holdStep, appRegRunSrc, hgate.hold, hgate.applies, hquiet.reg,
    hquiet.starts] at hblock
  unfold modbusHead
  generalize holdWdtBlock input.tHold (remoteEnStep build input.tGate input.remoteEnPin s) = block
    at hblock
  have hstage : HoldKept block (stageTick input.tStage block) := ⟨rfl, rfl, rfl⟩
  have hrest := hstage.trans (holdKept_applyConfig build input.sensDnAcquire _)
  have hquiet' :
      Quiet block (applyConfig build input.sensDnAcquire (stageTick input.tStage block)) :=
    (quiet_onModbus _ _).trans (quiet_applyConfig build _ _)
  dsimp only
  rw [hrest.hold, hrest.applies, hquiet'.reg, hquiet'.starts]
  exact hblock

/-- So does the whole pass. -/
theorem modbusPass_hold (build : Build) (input : ModbusTickIn) (s : Sys) :
    let p := (modbusPass build input s).1
    p.modbus.hold = (holdStep input.tHold s).1 ∧ p.ghost.applies = s.ghost.applies ∧
      p.ghost.starts = s.ghost.starts ∧
      (holdTrips input.tHold s = true → p.reg.usRunStatus = .idle) ∧
      (holdTrips input.tHold s = false → p.reg = s.reg) := by
  have hhead := modbusHead_hold build input s
  have hserve := holdKept_servePass build input (modbusHead build input s)
  have hquiet := quiet_servePass build input (modbusHead build input s)
  unfold modbusPass
  dsimp only at hhead ⊢
  rw [hserve.hold, hserve.applies, hquiet.reg, hquiet.starts]
  exact hhead

/-! ### The apply -/

/-- The START value an apply acts on, zero if it is turned away or preceded by another command. -/
def startValue (build : Build) (s : Sys) : ℕ :=
  if gateClosed build s = true ∨ holding s .reset = 1 ∨ holding s .seek = 1 then 0
  else holding s .start

/-- The branches of the chain behind the START branch. -/
def laterRules (link : MbLink) : List ApplyRule :=
  [⟨fun s ↦ decide (holding s .stop = 1),
      fun s ↦ (setHolding .stop 0 (appRegCommand .runRelease .comm 0 s), false)⟩,
   ⟨fun s ↦ decide (holding s .cfgCtrl ≠ 0),
      fun s ↦ cfgCtrlBody link (holding s .cfgCtrl) (setHolding .cfgCtrl 0 s)⟩] ++ configRules

/-- What an apply does to the watchdog. -/
inductive HoldMove (build : Build) (input : ApplyIn) (s s' : Sys) : Prop
  | arm (hvalue : startValue build s = 2) (hallowed : appRegStartAllowed s = true)
      (hhold : s'.modbus.hold = holdWdtArm input.tApply s.modbus.hold)
      (hrun : s'.reg.usRunStatus = .comm) (hstarts : s'.ghost.starts = s.ghost.starts + 1)
  | keep (hvalue : startValue build s = 2 ∧ appRegStartAllowed s = false ∨ startValue build s = 3)
      (hhold : s'.modbus.hold = holdWdtKeep input.tApply s.modbus.hold)
      (hreg : s'.reg = s.reg) (hstarts : s'.ghost.starts = s.ghost.starts)
  | rest (hvalue : startValue build s ≠ 3)
      (harm : startValue build s = 2 → appRegStartAllowed s = false)
      (hhold : s'.modbus.hold = s.modbus.hold)
      (hquiet : startValue build s ≠ 1 ∨ s.reg.usRunStatus ≠ .idle →
        s'.ghost.starts = s.ghost.starts)

/-- The branches behind the START branch leave the watchdog alone. -/
theorem holdKept_laterRules (link : MbLink) (s : Sys) :
    ∀ rule ∈ laterRules link, HoldKept s (rule.act s).1 := by
  have hcfg (reg : MbReg) (shown : AppConfig → ℕ) (store : ℕ → AppConfig → AppConfig) :
      HoldKept s ((cfgRule reg shown store).act s).1 := ⟨rfl, rfl, rfl⟩
  have henable (reg : MbReg) (shown : AppConfig → Bool) (store : Bool → AppConfig → AppConfig) :
      HoldKept s ((enableRule reg shown store).act s).1 := ⟨rfl, rfl, rfl⟩
  have hsafty : HoldKept s (saftyRule.act s).1 := by
    simp only [saftyRule]
    split_ifs <;> exact ⟨rfl, rfl, rfl⟩
  have hhorn : HoldKept s (hornRule.act s).1 := by
    simp only [hornRule, appHornSetMode]
    split_ifs <;> exact ⟨rfl, rfl, rfl⟩
  have hcount : HoldKept s (workCntRule.act s).1 := ⟨rfl, rfl, rfl⟩
  have hstop := holdKept_regCommand (by decide : UsCmd.runRelease ≠ .start) .comm 0 s
  have hctrl : HoldKept s
      (cfgCtrlBody link (holding s .cfgCtrl) (setHolding .cfgCtrl 0 s)).1 := by
    unfold cfgCtrlBody
    dsimp only
    split_ifs <;> exact ⟨rfl, rfl, rfl⟩
  simp only [laterRules, configRules, List.cons_append, List.nil_append, List.forall_mem_cons,
    List.not_mem_nil, false_implies, implies_true, hcfg, henable, hsafty, hhorn, hcount, hctrl,
    and_self, and_true]
  exact hstop.trans ⟨rfl, rfl, rfl⟩

/-- The START branch moves the watchdog as its value says. -/
theorem startCmdBody_hold (build : Build) (input : ApplyIn) (s : Sys)
    (hvalue : startValue build s = holding s .start) :
    HoldMove build input s (startCmdBody (holding s .start) input (setHolding .start 0 s)) := by
  have hallowed : appRegStartAllowed (setHolding .start 0 s) = appRegStartAllowed s := rfl
  unfold startCmdBody
  by_cases h1 : holding s .start = 1
  · rw [if_pos h1]
    obtain ⟨hhold, -, hstarts⟩ := regCommand_start_hold input.tCmd (setHolding .start 0 s)
    refine .rest (by simp [hvalue, h1]) (by simp [hvalue, h1]) hhold fun hquiet ↦ hstarts ?_
    exact hquiet.resolve_left fun hone ↦ hone (hvalue.trans h1)
  · rw [if_neg h1]
    by_cases h2 : holding s .start = 2
    · rw [if_pos h2, hallowed]
      cases hopen : appRegStartAllowed s with
      | true =>
        rw [appRegCommand_start (by decide), hallowed, hopen]
        exact .arm (hvalue.trans h2) hopen rfl rfl rfl
      | false =>
        simp only [Bool.false_eq_true, if_false]
        split_ifs with harmed
        · exact .keep (Or.inl ⟨hvalue.trans h2, hopen⟩) rfl rfl rfl
        · refine .keep (Or.inl ⟨hvalue.trans h2, hopen⟩) ?_ rfl rfl
          exact (if_neg harmed).symm
    · rw [if_neg h2]
      by_cases h3 : holding s .start = 3
      · rw [if_pos h3]
        exact .keep (Or.inr (hvalue.trans h3)) rfl rfl rfl
      · rw [if_neg h3]
        exact .rest (by simp [hvalue, h3]) (by simp [hvalue, h2]) rfl fun _ ↦ rfl

theorem startCmdBody_applies (value : ℕ) (input : ApplyIn) (s : Sys) :
    (startCmdBody value input s).ghost.applies = s.ghost.applies := by
  obtain ⟨-, happlies, -⟩ := regCommand_start_hold input.tCmd s
  unfold startCmdBody
  split_ifs <;> first | exact happlies | rfl

/-- A quiet change keeps what an apply has done to the watchdog. -/
theorem HoldMove.quiet {build : Build} {input : ApplyIn} {s mid s' : Sys}
    (hmove : HoldMove build input s mid) (hquiet : Quiet mid s') (hkept : HoldKept mid s') :
    HoldMove build input s s' := by
  cases hmove with
  | arm hvalue hallowed hhold hrun hstarts =>
    refine .arm hvalue hallowed (hkept.hold.trans hhold) ?_ (hquiet.starts.trans hstarts)
    rw [hquiet.reg, hrun]
  | keep hvalue hhold hreg hstarts =>
    exact .keep hvalue (hkept.hold.trans hhold) (hquiet.reg.trans hreg)
      (hquiet.starts.trans hstarts)
  | rest hvalue harm hhold hstarts =>
    exact .rest hvalue harm (hkept.hold.trans hhold) fun h ↦ hkept.starts.trans (hstarts h)

/-- The chain moves the watchdog by its START branch only. -/
theorem applyChain_hold (build : Build) (link : MbLink) (input : ApplyIn) {s : Sys}
    (hgate : gateClosed build s = false) :
    HoldMove build input s (applyChain link input s) ∧
      (applyChain link input s).ghost.applies = s.ghost.applies := by
  have hchain : HoldMove build input s
      (firstMatch (fun s ↦ (stagedScan input.tStage s, false)) (applyRules link input) s).1 ∧
      (firstMatch (fun s ↦ (stagedScan input.tStage s, false))
        (applyRules link input) s).1.ghost.applies
        = s.ghost.applies := by
    have hrest {t : Sys} (hkept : HoldKept s t) (hvalue : startValue build s = 0) :
        HoldMove build input s t ∧ t.ghost.applies = s.ghost.applies :=
      ⟨.rest (by simp [hvalue]) (by simp [hvalue]) hkept.hold fun _ ↦ hkept.starts, hkept.applies⟩
    have hrules : applyRules link input = _ :: _ :: _ :: laterRules link := rfl
    rw [hrules, firstMatch_cons, firstMatch_cons, firstMatch_cons]
    simp only [decide_eq_true_eq]
    split_ifs with hreset hseek hstart
    · exact hrest ((holdKept_regCommand (by decide : UsCmd.reset ≠ .start) .comm 0 s).trans
        ⟨rfl, rfl, rfl⟩)
        (by simp [startValue, hreset])
    · exact hrest ((holdKept_regCommand (by decide : UsCmd.seek ≠ .start) .comm 0 s).trans
        ⟨rfl, rfl, rfl⟩)
        (by simp [startValue, hseek])
    · have hvalue : startValue build s = holding s .start := by
        simp [startValue, hgate, hreset, hseek]
      exact ⟨startCmdBody_hold build input s hvalue,
        startCmdBody_applies _ input (setHolding .start 0 s)⟩
    · have hvalue : startValue build s = 0 := by
        simp only [ne_eq, not_not] at hstart
        simp [startValue, hstart]
      refine hrest ?_ hvalue
      refine firstMatch_induction (fun result : Sys × Bool ↦ HoldKept s result.1) ?_ ?_
      · unfold stagedScan
        split <;> exact ⟨rfl, rfl, rfl⟩
      · exact fun rule hrule _ ↦ holdKept_laterRules link s rule hrule
  unfold applyChain
  dsimp only
  split_ifs
  · exact ⟨hchain.1.quiet (quiet_saveConfig _ _) ⟨rfl, rfl, rfl⟩, hchain.2⟩
  · exact hchain

theorem holdKept_gateRejectBody (s : Sys) : HoldKept s (gateRejectBody s) := by
  have hset (reg : MbReg) (value : ℕ) (t : Sys) : HoldKept t (setHolding reg value t) :=
    ⟨rfl, rfl, rfl⟩
  have herased := ((hset .reset 0 s).trans (hset .seek 0 _)).trans (hset .start 0 _)
  unfold gateRejectBody
  generalize setHolding .start 0 (setHolding .seek 0 (setHolding .reset 0 s)) = erased at herased
  dsimp only
  split_ifs
  · exact ((herased.trans (holdKept_regCommand (by decide) .comm 0 _)).trans (hset _ _ _)).trans
      (hset _ _ _)
  · exact (herased.trans (hset _ _ _)).trans (hset _ _ _)

/-- An apply is counted once, and moves the watchdog by the START value it acts on. -/
theorem appModbusApplyWrites_hold (build : Build) (link : MbLink) (input : ApplyIn) (s : Sys) :
    HoldMove build input s (appModbusApplyWrites build link input s) ∧
      (appModbusApplyWrites build link input s).ghost.applies = s.ghost.applies + 1 := by
  have hcount {t : Sys} (hmove : HoldMove build input (countApply s) t) :
      HoldMove build input s t := by
    cases hmove with
    | arm hvalue hallowed hhold hrun hstarts => exact .arm hvalue hallowed hhold hrun hstarts
    | keep hvalue hhold hreg hstarts => exact .keep hvalue hhold hreg hstarts
    | rest hvalue harm hhold hstarts => exact .rest hvalue harm hhold hstarts
  have hsame : gateClosed build (countApply s) = gateClosed build s := rfl
  unfold appModbusApplyWrites
  cases hgate : gateClosed build s with
  | true =>
    have hvalue : startValue build s = 0 := by simp [startValue, hgate]
    have hkept := holdKept_gateRejectBody (countApply s)
    exact ⟨.rest (by simp [hvalue]) (by simp [hvalue]) hkept.hold fun _ ↦ hkept.starts,
      hkept.applies⟩
  | false =>
    obtain ⟨hmove, happlies⟩ := applyChain_hold build link input (hsame.trans hgate)
    exact ⟨hcount hmove, happlies⟩

/-! ### The whole tick -/

/-- A Modbus tick whose apply accepts a START = 2, and so arms the watchdog. -/
def Arms (build : Build) (call : Call) (s : Sys) : Prop :=
  match call with
  | .modbusTick input =>
    (modbusPass build input s).2.isSome = true ∧ startValue build (modbusPass build input s).1 = 2 ∧
      appRegStartAllowed (modbusPass build input s).1 = true
  | _ => False

/-- The time at which a call applies a START = 2 or START = 3, if it does. -/
def keepTime (build : Build) (call : Call) (s : Sys) : Option ℕ :=
  match call with
  | .modbusTick input =>
    if (modbusPass build input s).2.isSome = true ∧
      (startValue build (modbusPass build input s).1 = 2 ∨
        startValue build (modbusPass build input s).1 = 3) then some input.apply.tApply
    else none
  | _ => none

/-- The watchdog is armed while a COMM run is active. -/
def HoldSession (s : Sys) : Prop := s.modbus.hold.armed = true ∧ s.reg.usRunStatus = .comm

/-- The tick is its pass, or its pass followed by an apply that moves the watchdog. -/
theorem appModbusTick_hold (build : Build) (input : ModbusTickIn) (s : Sys) :
    ((modbusPass build input s).2 = none ∧
        appModbusTick build input s = (modbusPass build input s).1) ∨
      ((modbusPass build input s).2.isSome = true ∧
        HoldMove build input.apply (modbusPass build input s).1 (appModbusTick build input s) ∧
        (appModbusTick build input s).ghost.applies =
          (modbusPass build input s).1.ghost.applies + 1 ∧
        GateFrame .comm (modbusPass build input s).1 (appModbusTick build input s)) := by
  rw [appModbusTick_eq_pass, finishPass]
  cases hlink : (modbusPass build input s).2 with
  | none => exact Or.inl ⟨rfl, rfl⟩
  | some link =>
    obtain ⟨hmove, happlies⟩ := appModbusApplyWrites_hold build link input.apply
      (modbusPass build input s).1
    exact Or.inr ⟨rfl, hmove, happlies, (appModbusApplyWrites_acts build link input.apply _).frame⟩

/-- Each Modbus tick makes at most one write-apply pass. -/
theorem appModbusTick_applies (build : Build) (input : ModbusTickIn) (s : Sys) :
    (appModbusTick build input s).ghost.applies ≤ s.ghost.applies + 1 := by
  obtain ⟨-, happlies, -⟩ := modbusPass_hold build input s
  rcases appModbusTick_hold build input s with ⟨-, heq⟩ | ⟨-, -, hcount, -⟩
  · rw [heq, happlies]
    exact Nat.le_succ _
  · rw [hcount, happlies]

/-- A watchdog that a pass leaves armed belongs to a session the pass has not touched. -/
theorem modbusPass_session (build : Build) (input : ModbusTickIn) (s : Sys)
    (harmed : (modbusPass build input s).1.modbus.hold.armed = true) :
    HoldSession s ∧ (modbusPass build input s).1.reg = s.reg ∧
      elapsedMs input.tHold s.modbus.hold.lastKeepMs < holdWdtMs := by
  obtain ⟨hhold, -, -, -, hstay⟩ := modbusPass_hold build input s
  rw [hhold] at harmed
  obtain ⟨hwas, hrun, hfresh⟩ := (holdWdtStep_armed _ _ _).mp harmed
  have htrip : holdTrips input.tHold s = false := by
    by_contra htrip
    have htrip := (holdWdtStep_trip _ _ _).mp (by simpa [holdTrips] using htrip)
    omega
  exact ⟨⟨hwas, of_decide_eq_true hrun⟩, hstay htrip, hfresh⟩

/-- Only an apply that arms the watchdog begins a session, and no START is accepted within one. -/
theorem holdSession_step (build : Build) (call : Call) (s : Sys)
    (hsession : HoldSession (call.exec build s)) :
    Arms build call s ∨
      (HoldSession s ∧ (call.exec build s).ghost.starts = s.ghost.starts) := by
  obtain ⟨harmed, hrun⟩ := hsession
  by_cases hkind : call.kind = .modbus
  · cases call <;> cases hkind
    rename_i input
    rw [Call.exec] at harmed hrun ⊢
    obtain ⟨-, -, hstarts, -, -⟩ := modbusPass_hold build input s
    rcases appModbusTick_hold build input s with ⟨-, heq⟩ | ⟨hsome, hmove, -, -⟩
    · rw [heq] at harmed ⊢
      exact Or.inr ⟨(modbusPass_session build input s harmed).1, hstarts⟩
    · cases hmove with
      | arm hvalue hallowed => exact Or.inl ⟨hsome, hvalue, hallowed⟩
      | keep hvalue hhold hreg hstarts' =>
        rw [hhold, holdWdtKeep_armed] at harmed
        exact Or.inr ⟨(modbusPass_session build input s harmed).1, hstarts'.trans hstarts⟩
      | rest hvalue harm hhold hquiet =>
        rw [hhold] at harmed
        obtain ⟨hs, hreg, -⟩ := modbusPass_session build input s harmed
        refine Or.inr ⟨hs, (hquiet (Or.inr ?_)).trans hstarts⟩
        rw [hreg, hs.2]
        decide
  · have hframe := exec_frame build call s
    have hstarts : (call.exec build s).ghost.starts = s.ghost.starts := by
      by_contra hstarts
      exact hkind (CallKind.modbus_of_src (hframe.started hstarts (by decide) hrun))
    rw [exec_modbus build hkind s] at harmed
    refine Or.inr ⟨⟨harmed, ?_⟩, hstarts⟩
    rcases hframe.kept hstarts with hkept | hidle
    · exact hkept.symm.trans hrun
    · rw [hidle] at hrun
      exact absurd hrun (by decide)

/-- Assumes: a session, and a call after which its run goes on. Then so does the session. -/
theorem holdSession_keep (build : Build) (call : Call) {s : Sys} (hs : HoldSession s)
    (hrun : (call.exec build s).reg.usRunStatus = .comm)
    (hstarts : (call.exec build s).ghost.starts = s.ghost.starts) :
    HoldSession (call.exec build s) := by
  refine ⟨?_, hrun⟩
  by_cases hkind : call.kind = .modbus
  · cases call <;> cases hkind
    rename_i input
    rw [Call.exec] at hrun hstarts ⊢
    obtain ⟨hhold, -, hstartsPass, htrip, -⟩ := modbusPass_hold build input s
    have harmed (hpass : (modbusPass build input s).1.reg.usRunStatus ≠ .idle) :
        (modbusPass build input s).1.modbus.hold.armed = true := by
      rw [hhold]
      refine (holdWdtStep_armed _ _ _).mpr ⟨hs.1, by simp [appRegRunSrc, hs.2], ?_⟩
      by_contra hstale
      refine hpass (htrip ((holdWdtStep_trip _ _ _).mpr ⟨hs.1, by simp [appRegRunSrc, hs.2], ?_⟩))
      omega
    rcases appModbusTick_hold build input s with ⟨-, heq⟩ | ⟨-, hmove, -, hframe⟩
    · rw [heq] at hrun ⊢
      exact harmed (by rw [hrun]; decide)
    · have hpass : (modbusPass build input s).1.reg.usRunStatus ≠ .idle := by
        rcases hframe.kept (hstarts.trans hstartsPass.symm) with hkept | hidle
        · rw [← hkept, hrun]
          decide
        · rw [hidle] at hrun
          exact absurd hrun (by decide)
      cases hmove with
      | arm hvalue hallowed hhold' =>
        rw [hhold']
        rfl
      | keep hvalue hhold' =>
        rw [hhold', holdWdtKeep_armed]
        exact harmed hpass
      | rest hvalue harm hhold' =>
        rw [hhold']
        exact harmed hpass
  · rw [exec_modbus build hkind s]
    exact hs.1

/-- An apply that arms the watchdog begins a session, with a START of its own. -/
theorem holdSession_arms (build : Build) (call : Call) {s : Sys} (harms : Arms build call s) :
    HoldSession (call.exec build s) ∧
      (call.exec build s).ghost.starts = s.ghost.starts + 1 := by
  cases call with
  | modbusTick input =>
    obtain ⟨hsome, hvalue, hallowed⟩ := harms
    obtain ⟨-, -, hstartsPass, -, -⟩ := modbusPass_hold build input s
    rcases appModbusTick_hold build input s with ⟨hnone, -⟩ | ⟨-, hmove, -, -⟩
    · simp [hnone] at hsome
    · cases hmove with
      | arm _ _ hhold hrun hstarts =>
        refine ⟨⟨?_, hrun⟩, hstarts.trans (congrArg (· + 1) hstartsPass)⟩
        rw [Call.exec, hhold]
        rfl
      | keep hvalue' =>
        rcases hvalue' with ⟨-, hclosed⟩ | hvalue'
        · simp [hallowed] at hclosed
        · simp [hvalue] at hvalue'
      | rest _ harm =>
        have hclosed := harm hvalue
        simp [hallowed] at hclosed
  | _ => exact harms.elim

/-! ### Sessions over runs -/

section Runs

variable (build : Build) (boot : BootIn)

/-- The times at which START = 2 and START = 3 were applied along a history. -/
def keepTimes : List Call → List ℕ
  | [] => []
  | call :: past =>
    (keepTime build call (stateAfter build boot past)).toList ++ keepTimes past

/-- The newest call armed the watchdog by accepting a START = 2. -/
def armed : Past Call := newest build boot fun call s _ ↦ Arms build call s

/-- The active run is a hold run: a COMM run that an accepted START = 2 began. -/
def holdRun : Past Call :=
  since (fun h ↦ appRegRunSrc (stateAfter build boot h) = .comm ∧ noStart build boot h)
    (armed build boot)

end Runs

/-- The clock of the last watchdog step of a history. -/
def lastHold : List Call → Option ℕ
  | [] => none
  | .modbusTick input :: _ => some input.tHold
  | _ :: past => lastHold past

/-- Successive watchdog steps are less than `2 ^ 32 - HOLD_WDT_MS` apart. -/
def HoldPaced : List Call → Prop
  | [] => True
  | .modbusTick input :: past =>
    (∀ last ∈ lastHold past, input.tHold - last < 2 ^ 32 - holdWdtMs) ∧ HoldPaced past
  | _ :: past => HoldPaced past

variable {build : Build} {boot : BootIn}

/-- A session is explained by its past: the watchdog was armed by the START of the active run. -/
theorem holdRun_of_session (history : List Call)
    (hsession : HoldSession (stateAfter build boot history)) : holdRun build boot history := by
  refine since_of_monitor (fun h ↦ HoldSession (stateAfter build boot h)) ?_ ?_ history hsession
  · rintro ⟨-, hrun⟩
    have hboot : (stateAfter build boot []).reg.usRunStatus = .idle :=
      congrArg RegState.usRunStatus (quiet_boot build boot).reg
    rw [hboot] at hrun
    exact absurd hrun (by decide)
  · intro call past h
    rcases holdSession_step build call _ h with harms | ⟨hpast, hstarts⟩
    · exact Or.inl harms
    · exact Or.inr ⟨⟨h.2, hstarts⟩, hpast⟩

/-- A hold run is a session. -/
theorem session_of_holdRun (history : List Call) (hhold : holdRun build boot history) :
    HoldSession (stateAfter build boot history) := by
  refine since_induction (fun h ↦ HoldSession (stateAfter build boot h)) ?_ ?_ history hhold
  · exact fun call past harms ↦ (holdSession_arms build call harms).1
  · exact fun call past hkeep hpast ↦ holdSession_keep build call hpast hkeep.1 hkeep.2

/-- An applied START = 2 or 3 is timed by a clock read of its tick. -/
theorem mem_reads_of_keepTimes {history : List Call} {time : ℕ}
    (hmem : time ∈ keepTimes build boot history) : ∃ call ∈ history, time ∈ call.reads := by
  induction history with
  | nil => simp [keepTimes] at hmem
  | cons call past ih =>
    rw [keepTimes, List.mem_append] at hmem
    rcases hmem with h | h
    · refine ⟨call, List.mem_cons_self, ?_⟩
      cases call with
      | modbusTick input =>
        simp only [keepTime] at h
        split_ifs at h
        · simp only [Option.toList_some, List.mem_singleton] at h
          simp [Call.reads, ApplyIn.reads, h]
        · simp at h
      | _ => simp [keepTime] at h
    · obtain ⟨older, holder, htime⟩ := ih h
      exact ⟨older, List.mem_cons_of_mem call holder, htime⟩

/-- What an armed watchdog remembers of a history: its last keep is one of the applied times, and
that time was fresh at the last watchdog step. -/
structure KeptFresh (build : Build) (boot : BootIn) (history : List Call) : Prop where
  mem : (stateAfter build boot history).modbus.hold.lastKeepMs ∈ keepTimes build boot history
  fresh : ∃ last, lastHold history = some last ∧
    last - (stateAfter build boot history).modbus.hold.lastKeepMs < holdWdtMs

/-- Assumes: a chronological history with paced watchdog steps, its newest call a Modbus tick. Then
the tick reads the true time since a remembered keep. -/
theorem KeptFresh.elapsed {input : ModbusTickIn} {past : List Call}
    (hfresh : KeptFresh build boot past) (hclock : Chronological (.modbusTick input :: past))
    (hpaced : HoldPaced (.modbusTick input :: past)) :
    elapsedMs input.tHold (stateAfter build boot past).modbus.hold.lastKeepMs =
        input.tHold - (stateAfter build boot past).modbus.hold.lastKeepMs ∧
      (stateAfter build boot past).modbus.hold.lastKeepMs ≤ input.tHold := by
  obtain ⟨last, hlast, hstale⟩ := hfresh.fresh
  obtain ⟨older, holder, hread⟩ := mem_reads_of_keepTimes hfresh.mem
  have hgap := hpaced.1 last hlast
  have hhold : holdWdtMs = 600 := rfl
  have hle : (stateAfter build boot past).modbus.hold.lastKeepMs ≤ input.tHold :=
    hclock.le (by simp [Call.reads]) holder hread
  exact ⟨elapsedMs_of_le hle (by omega), hle⟩

/-- A tick that leaves the watchdog as its pass did keeps what the watchdog remembers. -/
theorem KeptFresh.pass {input : ModbusTickIn} {past : List Call}
    (hclock : Chronological (.modbusTick input :: past))
    (hpaced : HoldPaced (.modbusTick input :: past))
    (hpast : (stateAfter build boot past).modbus.hold.armed = true → KeptFresh build boot past)
    (hsame : (stateAfter build boot (.modbusTick input :: past)).modbus.hold =
      (modbusPass build input (stateAfter build boot past)).1.modbus.hold)
    (harmed : (stateAfter build boot (.modbusTick input :: past)).modbus.hold.armed = true) :
    KeptFresh build boot (.modbusTick input :: past) := by
  rw [hsame] at harmed
  obtain ⟨hs, -, hyoung⟩ := modbusPass_session build input _ harmed
  have hfresh := hpast hs.1
  obtain ⟨helapsed, hle⟩ := hfresh.elapsed hclock hpaced
  have hlast : (stateAfter build boot (.modbusTick input :: past)).modbus.hold.lastKeepMs =
      (stateAfter build boot past).modbus.hold.lastKeepMs := by
    rw [hsame, (modbusPass_hold build input _).1, holdStep, holdWdtStep_lastKeepMs]
  refine ⟨?_, input.tHold, rfl, ?_⟩
  · rw [hlast]
    exact List.mem_append_right _ hfresh.mem
  · rw [hlast]
    omega

/-- A tick whose apply sets the watchdog at its own clock makes it remember that. -/
theorem KeptFresh.apply {input : ModbusTickIn} {past : List Call}
    (hclock : Chronological (.modbusTick input :: past))
    (hsome : (modbusPass build input (stateAfter build boot past)).2.isSome = true)
    (hvalue : startValue build (modbusPass build input (stateAfter build boot past)).1 = 2 ∨
      startValue build (modbusPass build input (stateAfter build boot past)).1 = 3)
    (hlast : (stateAfter build boot (.modbusTick input :: past)).modbus.hold.lastKeepMs =
      input.apply.tApply) :
    KeptFresh build boot (.modbusTick input :: past) := by
  have htime : keepTime build (.modbusTick input) (stateAfter build boot past) =
      some input.apply.tApply := if_pos ⟨hsome, hvalue⟩
  have hreads : input.tHold ≤ input.apply.tApply := by
    have hreads := hclock.reads
    simp only [Call.reads, List.append_assoc] at hreads
    refine (List.pairwise_append.mp hreads).2.2 _ (by simp) _ ?_
    simp [ApplyIn.reads]
  have hhold : 0 < holdWdtMs := by decide
  refine ⟨?_, input.tHold, rfl, ?_⟩
  · rw [hlast, keepTimes, htime]
    exact List.mem_append_left _ (by simp)
  · rw [hlast]
    omega

theorem keptFresh_of_armed (history : List Call) (hclock : Chronological history)
    (hpaced : HoldPaced history)
    (harmed : (stateAfter build boot history).modbus.hold.armed = true) :
    KeptFresh build boot history := by
  induction history with
  | nil =>
    have hboot : (stateAfter build boot []).modbus.hold = holdWdtInit :=
      (holdKept_applyConfig build boot.sensDn (appInit boot (resetState build boot))).hold.trans
        (congrArg ModbusGlue.hold ((blind_initMode boot.tPage).modbus _))
    rw [hboot] at harmed
    exact absurd harmed (by decide)
  | cons call past ih =>
    by_cases hkind : call.kind = .modbus
    · cases call <;> cases hkind
      rename_i input
      have hpast := ih hclock.tail hpaced.2
      rcases appModbusTick_hold build input (stateAfter build boot past) with
        ⟨-, heq⟩ | ⟨hsome, hmove, -, -⟩
      · exact KeptFresh.pass hclock hpaced hpast (congrArg (fun s ↦ s.modbus.hold) heq) harmed
      · cases hmove with
        | arm hvalue _ hhold =>
          exact KeptFresh.apply hclock hsome (Or.inl hvalue) (congrArg HoldWdt.lastKeepMs hhold)
        | keep hvalue hhold =>
          have hpass := harmed
          rw [stateAfter, Machine.after_cons] at hpass
          have hpass' : (modbusPass build input (stateAfter build boot past)).1.modbus.hold.armed =
              true := by
            rw [← holdWdtKeep_armed input.apply.tApply, ← hhold]
            exact hpass
          refine KeptFresh.apply hclock hsome (hvalue.imp_left And.left) ?_
          refine (congrArg HoldWdt.lastKeepMs hhold).trans ?_
          rw [holdWdtKeep, if_pos hpass']
        | rest _ _ hhold => exact KeptFresh.pass hclock hpaced hpast hhold harmed
    · have hsame : (stateAfter build boot (call :: past)).modbus =
        (stateAfter build boot past).modbus :=
        exec_modbus build hkind _
      rw [hsame] at harmed
      cases call with
      | modbusTick input => exact absurd rfl hkind
      | _ =>
        have hpast := ih hclock.tail hpaced harmed
        refine ⟨?_, ?_⟩
        · rw [hsame]
          exact hpast.mem
        · rw [hsame]
          exact hpast.fresh

/-- An apply whose START value is 3 accepts no START, so an idle core stays idle. -/
theorem appModbusApplyWrites_three (build : Build) (link : MbLink) (input : ApplyIn) {s : Sys}
    (hthree : holding s .start = 3) :
    (appModbusApplyWrites build link input s).ghost.starts = s.ghost.starts ∧
      (s.reg.usRunStatus = .idle →
        (appModbusApplyWrites build link input s).reg.usRunStatus = .idle) := by
  have hvalue : startValue build s = 0 ∨ startValue build s = 3 := by
    unfold startValue
    split_ifs
    · exact Or.inl rfl
    · exact Or.inr hthree
  have hstarts : (appModbusApplyWrites build link input s).ghost.starts = s.ghost.starts := by
    cases (appModbusApplyWrites_hold build link input s).1 with
    | arm htwo => omega
    | keep _ _ _ hstarts => exact hstarts
    | rest _ _ _ hquiet => exact hquiet (Or.inl (by omega))
  refine ⟨hstarts, fun hidle ↦ ?_⟩
  rcases (appModbusApplyWrites_acts build link input s).frame.kept hstarts with hkept | hidle'
  · exact hkept.trans hidle
  · exact hidle'

/-- Assumes: a hold run that no START = 2 or 3 has served for `HOLD_WDT_MS`. Then the watchdog
trips. -/
theorem holdTrips_of_stale {input : ModbusTickIn} {history : List Call}
    (hclock : Chronological (.modbusTick input :: history))
    (hpaced : HoldPaced (.modbusTick input :: history)) (hhold : holdRun build boot history)
    (hstale : ∀ time ∈ keepTimes build boot history, time + holdWdtMs ≤ input.tHold) :
    holdTrips input.tHold (stateAfter build boot history) = true := by
  obtain ⟨harmed, hrun⟩ := session_of_holdRun history hhold
  have hfresh := keptFresh_of_armed history hclock.tail hpaced.2 harmed
  obtain ⟨helapsed, hle⟩ := hfresh.elapsed hclock hpaced
  have hold := hstale _ hfresh.mem
  refine (holdWdtStep_trip _ _ _).mpr ⟨harmed, by simp [appRegRunSrc, hrun], ?_⟩
  omega

/-- Assumes: the watchdog trips in a tick. Then the core is idle at the head of the tick, and stays
so unless the apply of the same tick starts a run. -/
theorem appModbusTick_trip (build : Build) (input : ModbusTickIn) {s : Sys}
    (htrip : holdTrips input.tHold s = true) :
    appRegRunSrc (modbusHead build input s) = .idle ∧
      (appRegRunSrc (appModbusTick build input s) = .idle ∨
        (appModbusTick build input s).ghost.starts ≠ s.ghost.starts) := by
  obtain ⟨-, -, -, hhead, -⟩ := modbusHead_hold build input s
  obtain ⟨-, -, hstarts, hpass, -⟩ := modbusPass_hold build input s
  refine ⟨hhead htrip, ?_⟩
  rcases appModbusTick_hold build input s with ⟨-, heq⟩ | ⟨-, -, -, hframe⟩
  · rw [heq]
    exact Or.inl (hpass htrip)
  · by_cases hnone : (appModbusTick build input s).ghost.starts = s.ghost.starts
    · rcases hframe.kept (hnone.trans hstarts.symm) with hkept | hidle
      · exact Or.inl (hkept.trans (hpass htrip))
      · exact Or.inl hidle
    · exact Or.inr hnone

/-- Hold-to-run over whole runs, for every history and every next Modbus tick.

The tick makes at most one write-apply pass. Whenever the watchdog meets an armed session and an
active COMM run, that run is the one begun by the START = 2 that armed the session. Whenever a hold
run is active and no START = 2 or START = 3 has been applied for `HOLD_WDT_MS`, the tick stops it;
if a run is active after the tick, it was started in the tick itself, after the stop. START = 3
never starts a run, whatever the state. The clock is assumed never to go backwards and watchdog
steps to be less than `2 ^ 32 - HOLD_WDT_MS` ms apart. -/
theorem hold_sessions (build : Build) (boot : BootIn) (history : List Call) (input : ModbusTickIn) :
    let s := stateAfter build boot history
    let s' := appModbusTick build input s
    s'.ghost.applies ≤ s.ghost.applies + 1 ∧
      (s.modbus.hold.armed = true → appRegRunSrc s = .comm → holdRun build boot history) ∧
      (Chronological (.modbusTick input :: history) → HoldPaced (.modbusTick input :: history) →
        holdRun build boot history →
        (∀ time ∈ keepTimes build boot history, time + holdWdtMs ≤ input.tHold) →
        appRegRunSrc (modbusHead build input s) = .idle ∧
          (appRegRunSrc s' = .idle ∨ s'.ghost.starts ≠ s.ghost.starts)) ∧
      (∀ (link : MbLink) (apply : ApplyIn) (state : Sys), holding state .start = 3 →
        (appModbusApplyWrites build link apply state).ghost.starts = state.ghost.starts ∧
          (appRegRunSrc state = .idle →
            appRegRunSrc (appModbusApplyWrites build link apply state) = .idle)) := by
  intro s s'
  refine ⟨appModbusTick_applies build input s, fun harmed hrun ↦ ?_,
    fun hclock hpaced hhold hstale ↦ ?_, fun link apply state ↦ ?_⟩
  · exact holdRun_of_session history ⟨harmed, hrun⟩
  · exact appModbusTick_trip build input (holdTrips_of_stale hclock hpaced hhold hstale)
  · exact appModbusApplyWrites_three build link apply

/-! ### A session that is abandoned -/

/-- Assumes: no recent call applies a START = 2 or 3. Then the keep times are those of before. -/
theorem mem_keepTimes_append {recent base : List Call} {time : ℕ}
    (halong : (controller build boot).along (fun call s ↦ keepTime build call s = none) recent
      ((controller build boot).after base))
    (hmem : time ∈ keepTimes build boot (recent ++ base)) : time ∈ keepTimes build boot base := by
  induction recent with
  | nil => exact hmem
  | cons call recent ih =>
    have hnone : keepTime build call (stateAfter build boot (recent ++ base)) = none := by
      rw [stateAfter, Machine.after_append]
      exact halong.1
    rw [List.cons_append, keepTimes, hnone] at hmem
    exact ih halong.2 hmem

/-- Assumes: a history whose clock has not come near its wrap. Then its watchdog steps are paced. -/
theorem holdPaced_of_early {history : List Call}
    (hearly : ∀ call ∈ history, ∀ stamp ∈ call.reads, stamp < 2 ^ 32 - holdWdtMs) :
    HoldPaced history := by
  induction history with
  | nil => trivial
  | cons call past ih =>
    have hpast := ih fun older hmem ↦ hearly older (List.mem_cons_of_mem call hmem)
    cases call with
    | modbusTick input =>
      refine ⟨fun last _ ↦ ?_, hpast⟩
      have hstep := hearly _ List.mem_cons_self input.tHold (by simp [Call.reads])
      omega
    | _ => exact hpast

/-- The operator gives the slave its address and takes the ceiling of a run away, and a master
begins a hold run. -/
def heldStart : List IterIn :=
  [serialIter 4030 false (fc06 0x1B 2),
    { quietIter 4020 with
      frames := [keyFrame 0x1100 1 4020, keyFrame 0x1201 0 4020, keyFrame 0x1020 3 4020,
        keyFrame 0x1071 1 4020, keyFrame 0x1050 1 4020] }]

/-- The master falls silent; the run is followed up to the Modbus tick 600 ms later. -/
def abandonedRun : SuperloopRun :=
  warmedRun (quietIter 4330 :: heldStart) (quietIter 4630) 8

/-- Its clock never goes back. -/
theorem abandonedRun_chronological :
    Chronological (.modbusTick (quietModbus 4630) :: abandonedRun.history) :=
  warmedRun_chronological (quietIter 4330 :: heldStart) (quietIter 4630) 9 (by decide +kernel)
    (by decide +kernel)

theorem abandonedRun_paced :
    HoldPaced (.modbusTick (quietModbus 4630) :: abandonedRun.history) := by
  have hreads : ∀ call ∈ (warmedRun (quietIter 4330 :: heldStart) (quietIter 4630) 9).history,
      ∀ stamp ∈ call.reads, stamp < 2 ^ 32 - holdWdtMs :=
    warmedRun_forall
      (fun call hcall stamp hstamp ↦ (quietRun_reads hcall hstamp).trans_lt (by decide))
      (by decide +kernel)
  exact holdPaced_of_early hreads

/-- Its session is armed when the tick comes. -/
theorem abandonedRun_session :
    (stateAfter stdBuild (netBoot false) abandonedRun.history).modbus.hold.armed = true ∧
      appRegRunSrc (stateAfter stdBuild (netBoot false) abandonedRun.history) = .comm := by
  rw [stateAfter, abandonedRun, warmedRun_after]
  decide +kernel

/-- Nothing has kept it since the request. -/
theorem abandonedRun_stale :
    ∀ time ∈ keepTimes stdBuild (netBoot false) abandonedRun.history,
      time + holdWdtMs ≤ (quietModbus 4630).tHold := by
  have hsplit : abandonedRun.history = abandonedRun.history.take 21 ++
      (warmedRun heldStart.tail (serialIter 4030 false (fc06 0x1B 2)) 9).history := rfl
  have hreads : ∀ call ∈ (warmedRun heldStart.tail (serialIter 4030 false (fc06 0x1B 2)) 9).history,
      ∀ stamp ∈ call.reads, stamp ≤ 4030 :=
    warmedRun_forall
      (fun call hcall stamp hstamp ↦ (quietRun_reads hcall hstamp).trans (by decide))
      (by decide +kernel)
  intro time hmem
  rw [hsplit] at hmem
  have halong : (controller stdBuild (netBoot false)).along
      (fun call s ↦ keepTime stdBuild call s = none) (abandonedRun.history.take 21)
      ((controller stdBuild (netBoot false)).after
        (warmedRun heldStart.tail (serialIter 4030 false (fc06 0x1B 2)) 9).history) := by
    rw [warmedRun_after]
    decide +kernel
  obtain ⟨call, hcall, hread⟩ := mem_reads_of_keepTimes (mem_keepTimes_append halong hmem)
  exact Nat.add_le_add_right (hreads call hcall time hread) holdWdtMs

/-- That tick stops the run: nobody has served it for 600 ms. -/
theorem hold_session_abandoned :
    holdRun stdBuild (netBoot false) abandonedRun.history ∧
      appRegRunSrc (modbusHead stdBuild (quietModbus 4630)
        (stateAfter stdBuild (netBoot false) abandonedRun.history)) = .idle := by
  have hsessions := hold_sessions stdBuild (netBoot false) abandonedRun.history (quietModbus 4630)
  have hhold := hsessions.2.1 abandonedRun_session.1 abandonedRun_session.2
  exact ⟨hhold, (hsessions.2.2.1 abandonedRun_chronological abandonedRun_paced hhold
    abandonedRun_stale).1⟩

end UsCtrl
