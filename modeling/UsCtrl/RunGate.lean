import UsCtrl.Superloop
import Mathlib.Logic.Relation

/-!
# What a call can do to the run gate

The run gate is the part of the state that decides who may run: the regulation core, its published
copy, the overload, emergency-stop, horn-down and SEEK/RESET states, the weld cycle, and the two
power levels. Calls other than the six ticks that own this state reach it only through
`app_reg_command` and `app_horn_set_mode`. This module says so once (`GateActs`), for panel frames
(`appLcdInputDispatch_acts`) and the panel tick (`appLcdTick_acts`), and derives what every such
call leaves alone (`GateFrame`, `GateActs.frame`): it can start a run only when the gate is open,
and otherwise only stop one.

`appRegCommand_start` and `appRegCommand_runRelease` are the only facts about the two commands that
later proofs use.
-/

set_option autoImplicit false
set_option relaxedAutoImplicit false

namespace UsCtrl

open Relation

/-! ### The commands -/

/-- The condition of `app_reg_start_allowed`, field by field. -/
theorem appRegStartAllowed_iff (s : Sys) :
    appRegStartAllowed s = true ↔ s.reg.mainState = 0 ∧ s.reg.usRunStatus = .idle ∧
      s.seekReset.fsm.state = .idle ∧ s.reg.errorStatus.any = false ∧ s.overload.active = false ∧
        s.input.estopActive = false ∧ s.horn.mode = false := by
  simp only [appRegStartAllowed, appSeekResetActive, appOverloadActive, appEstopActive,
    appHornModeActive, Bool.and_eq_true, decide_eq_true_eq, Bool.not_eq_true', ne_eq,
    decide_eq_false_iff_not, not_not, and_assoc]

/-- A START that is judged is accepted exactly when `app_reg_start_allowed` holds, unless a touch
press is swallowed. -/
theorem startCommand_cases (src : UsRun) (now : ℕ) (s : Sys) :
    (startCommand src now s = acceptStart src now s ∧ appRegStartAllowed s = true ∧
        (src = .touch → s.reg.swallowStart = false)) ∨
      (startCommand src now s = s ∧ appRegStartAllowed s = false) ∨
      (startCommand src now s = { s with reg := { s.reg with swallowStart := false } } ∧
        src = .touch ∧ s.reg.swallowStart = true ∧ s.reg.usRunStatus = .idle) := by
  unfold startCommand
  split_ifs with hidle hswallow hallowed
  · exact Or.inr (Or.inr ⟨rfl, hswallow.1, hswallow.2, hidle.2⟩)
  · refine Or.inl ⟨rfl, hallowed, fun hsrc ↦ ?_⟩
    simpa [hsrc] using hswallow
  · exact Or.inr (Or.inl ⟨rfl, by simpa using hallowed⟩)
  · refine Or.inr (Or.inl ⟨rfl, ?_⟩)
    by_contra hallowed
    have hallowed := (appRegStartAllowed_iff s).mp (by simpa using hallowed)
    exact hidle ⟨hallowed.1, hallowed.2.1⟩

/-- What a command may change: of the readings only those an accepted start clears. -/
theorem appRegCommand_eq (cmd : UsCmd) (src : UsRun) (now : ℕ) (s : Sys) :
    appRegCommand cmd src now s = { s with
      reg := (appRegCommand cmd src now s).reg
      measure := { s.measure with
        usOnTime200m := (appRegCommand cmd src now s).measure.usOnTime200m
        currEnergy := (appRegCommand cmd src now s).measure.currEnergy }
      seekReset := (appRegCommand cmd src now s).seekReset
      ghost := (appRegCommand cmd src now s).ghost } := by
  cases cmd with
  | start =>
    rcases startCommand_cases src now (issueStart s) with ⟨heq, -⟩ | ⟨heq, -⟩ | ⟨heq, -⟩ <;>
      rw [appRegCommand, heq] <;> rfl
  | runRelease =>
    simp only [appRegCommand, runReleaseCommand]
    split_ifs <;> rfl
  | seek => rfl
  | reset => rfl

/-- Assumes: the source is not the panel. Then START is accepted exactly when
`app_reg_start_allowed` holds, and else only counted. -/
theorem appRegCommand_start {src : UsRun} (hsrc : src ≠ .touch) (now : ℕ) (s : Sys) :
    appRegCommand .start src now s =
      if appRegStartAllowed s then acceptStart src now (issueStart s) else issueStart s := by
  have hallowed : appRegStartAllowed (issueStart s) = appRegStartAllowed s := rfl
  rcases startCommand_cases src now (issueStart s) with
    ⟨heq, h, -⟩ | ⟨heq, h⟩ | ⟨-, h, -⟩
  · rw [if_pos (hallowed ▸ h)]
    exact heq
  · rw [if_neg (by simp [← hallowed, h])]
    exact heq
  · exact absurd h hsrc

/-- RUN_RELEASE leaves no run, whatever its source. -/
theorem appRegCommand_runRelease_idle (src : UsRun) (now : ℕ) (s : Sys) :
    (appRegCommand .runRelease src now s).reg.usRunStatus = .idle := by
  simp only [appRegCommand, runReleaseCommand]
  split_ifs with hrun hswallow
  · rfl
  · simpa using hrun
  · simpa using hrun

/-! ### Quiet changes -/

/-- The second state differs from the first only outside the run gate. The blink timers and tick
stamps of the overload and input glue are not part of it. -/
structure Quiet (s s' : Sys) : Prop where
  reg : s'.reg = s.reg
  measure : s'.measure = s.measure
  weld : s'.weld = s.weld
  overload : s'.overload.active = s.overload.active
  debounce : s'.overload.fsm = s.overload.fsm
  estop : s'.input.estopActive = s.input.estopActive
  buttons : s'.input.fsm = s.input.fsm
  horn : s'.horn = s.horn
  seekReset : s'.seekReset = s.seekReset
  solDn : s'.pins.solDn = s.pins.solDn
  usOut : s'.pins.usOut = s.pins.usOut
  startsIssued : s'.ghost.startsIssued = s.ghost.startsIssued
  starts : s'.ghost.starts = s.ghost.starts
  srRequests : s'.ghost.srRequests = s.ghost.srRequests

theorem Quiet.refl (s : Sys) : Quiet s s := by constructor <;> rfl

theorem Quiet.trans {s mid s' : Sys} (hfirst : Quiet s mid) (hsecond : Quiet mid s') :
    Quiet s s' := by
  constructor
  · exact hsecond.reg.trans hfirst.reg
  · exact hsecond.measure.trans hfirst.measure
  · exact hsecond.weld.trans hfirst.weld
  · exact hsecond.overload.trans hfirst.overload
  · exact hsecond.debounce.trans hfirst.debounce
  · exact hsecond.estop.trans hfirst.estop
  · exact hsecond.buttons.trans hfirst.buttons
  · exact hsecond.horn.trans hfirst.horn
  · exact hsecond.seekReset.trans hfirst.seekReset
  · exact hsecond.solDn.trans hfirst.solDn
  · exact hsecond.usOut.trans hfirst.usOut
  · exact hsecond.startsIssued.trans hfirst.startsIssued
  · exact hsecond.starts.trans hfirst.starts
  · exact hsecond.srRequests.trans hfirst.srRequests

/-- An edit of the configuration, the FRAM, the panel state or the wiper. -/
theorem quiet_edit (s : Sys) (cfg : AppConfig) (fram : Fram) (lcd : LcdState) (pot : ℕ) :
    Quiet s { s with
      cfg := cfg, fram := fram, lcd := lcd, pins := { s.pins with pot := pot } } := by
  constructor <;> rfl

theorem quiet_lcd (s : Sys) (lcd : LcdState) : Quiet s { s with lcd := lcd } :=
  quiet_edit s s.cfg s.fram lcd s.pins.pot

theorem quiet_cfg (s : Sys) (cfg : AppConfig) : Quiet s { s with cfg := cfg } :=
  quiet_edit s cfg s.fram s.lcd s.pins.pot

theorem quiet_saveConfig (bus : I2cBus) (s : Sys) : Quiet s (saveConfig bus s) :=
  quiet_edit s s.cfg _ s.lcd s.pins.pot

theorem quiet_hookSetPot (power : ℕ) (s : Sys) : Quiet s (appLcdHookSetPot power s) :=
  quiet_edit s s.cfg s.fram s.lcd _

theorem quiet_renderPage (page : LcdPage) (s : Sys) : Quiet s (renderPage page s) := by
  unfold renderPage renderSetupMain renderCommPage
  cases page <;> dsimp only <;>
    first
      | exact quiet_edit s s.cfg s.fram _ _
      | exact Quiet.refl s
      | (split_ifs <;> exact quiet_lcd s _)

theorem quiet_changePage (tPage : ℕ) (s : Sys) : Quiet s (appLcdChangePage tPage s) :=
  (quiet_renderPage s.lcd.lcdStatus s).trans (quiet_lcd _ _)

theorem quiet_gotoPage (page : LcdPage) (tPage : ℕ) (s : Sys) :
    Quiet s (gotoPage page tPage s) :=
  (quiet_lcd s _).trans (quiet_changePage tPage _)

theorem quiet_initMode (tPage : ℕ) (s : Sys) : Quiet s (appLcdInitMode tPage s) :=
  (quiet_lcd s _).trans (quiet_changePage tPage _)

theorem quiet_setOverload (on : Bool) (s : Sys) : Quiet s (appLcdSetOverload on s) := by
  unfold appLcdSetOverload
  split_ifs
  · exact quiet_lcd s _
  · dsimp only
    split_ifs <;> exact quiet_lcd s _

theorem quiet_faultCleared (s : Sys) : Quiet s (appLcdFaultCleared s) := by
  unfold appLcdFaultCleared
  split_ifs
  · exact quiet_lcd s _
  · exact Quiet.refl s

/-! ### Acts -/

/-- One step of a handler that does not own gate state: a quiet change, a command of its source, or
a switch of horn-down mode. -/
inductive GateAct (allowed : UsCmd → Prop) (src : UsRun) : Sys → Sys → Prop
  | quiet {s s' : Sys} (h : Quiet s s') : GateAct allowed src s s'
  | command (s : Sys) (cmd : UsCmd) (now : ℕ) (h : allowed cmd) :
      GateAct allowed src s (appRegCommand cmd src now s)
  | horn (s : Sys) (on : Bool) : GateAct allowed src s (appHornSetMode on s)

/-- A handler made of such steps. -/
abbrev GateActs (allowed : UsCmd → Prop) (src : UsRun) : Sys → Sys → Prop :=
  ReflTransGen (GateAct allowed src)

variable {allowed : UsCmd → Prop} {src : UsRun}

theorem GateActs.of_quiet {s s' : Sys} (h : Quiet s s') : GateActs allowed src s s' :=
  ReflTransGen.single (.quiet h)

theorem GateActs.of_command {s : Sys} {cmd : UsCmd} (now : ℕ) (h : allowed cmd) :
    GateActs allowed src s (appRegCommand cmd src now s) :=
  ReflTransGen.single (.command s cmd now h)

/-- Assumes: the handler may issue only commands that the wider set allows. -/
theorem GateActs.mono {allowed' : UsCmd → Prop} (hallowed : ∀ cmd, allowed cmd → allowed' cmd)
    {s s' : Sys} (h : GateActs allowed src s s') : GateActs allowed' src s s' := by
  induction h with
  | refl => exact ReflTransGen.refl
  | tail _ hact ih =>
    refine ih.tail ?_
    cases hact with
    | quiet h => exact .quiet h
    | command cmd now h => exact .command _ cmd now (hallowed cmd h)
    | horn on => exact .horn _ on

/-! ### What acts leave alone -/

/-- The frame of a handler of the given source. -/
structure GateFrame (src : UsRun) (s s' : Sys) : Prop where
  weld : s'.weld = s.weld
  overload : s'.overload.active = s.overload.active
  debounce : s'.overload.fsm = s.overload.fsm
  estop : s'.input.estopActive = s.input.estopActive
  buttons : s'.input.fsm = s.input.fsm
  chain : s'.seekReset.fsm = s.seekReset.fsm
  published : publishedRun s' = publishedRun s
  fault : s'.measure.errorStatus = s.measure.errorStatus
  warm : s'.reg.mainState = s.reg.mainState
  outOn : s'.reg.usOutOn = s.reg.usOutOn
  usOut : s'.pins.usOut = s.pins.usOut
  solDn : s'.pins.solDn = s.pins.solDn ∨ s'.pins.solDn = false
  starts : s.ghost.starts ≤ s'.ghost.starts
  issued : s.ghost.startsIssued ≤ s'.ghost.startsIssued
  requests : s.ghost.srRequests ≤ s'.ghost.srRequests
  pending : s'.ghost.srRequests = s.ghost.srRequests →
    s'.seekReset.pendingCmd = s.seekReset.pendingCmd
  /-- A run is started only through an open gate, by a START of this source. -/
  accepted : s'.ghost.starts ≠ s.ghost.starts →
    s.reg.mainState = 0 ∧ s.seekReset.fsm.state = .idle ∧ s.overload.active = false ∧
      s.input.estopActive = false ∧ s.ghost.startsIssued < s'.ghost.startsIssued
  owner : s'.ghost.starts ≠ s.ghost.starts →
    s'.reg.usRunStatus = src ∨ s'.reg.usRunStatus = .idle
  /-- Otherwise the run goes on or ends. -/
  kept : s'.ghost.starts = s.ghost.starts →
    s'.reg.usRunStatus = s.reg.usRunStatus ∨ s'.reg.usRunStatus = .idle

theorem GateFrame.refl (src : UsRun) (s : Sys) : GateFrame src s s := by
  constructor <;> simp

theorem GateFrame.trans {s mid s' : Sys} (hfirst : GateFrame src s mid)
    (hsecond : GateFrame src mid s') : GateFrame src s s' := by
  have hstarts := hfirst.starts
  have hstarts' := hsecond.starts
  have hrequests := hfirst.requests
  have hrequests' := hsecond.requests
  refine
    { weld := hsecond.weld.trans hfirst.weld
      overload := hsecond.overload.trans hfirst.overload
      debounce := hsecond.debounce.trans hfirst.debounce
      estop := hsecond.estop.trans hfirst.estop
      buttons := hsecond.buttons.trans hfirst.buttons
      chain := hsecond.chain.trans hfirst.chain
      published := hsecond.published.trans hfirst.published
      fault := hsecond.fault.trans hfirst.fault
      warm := hsecond.warm.trans hfirst.warm
      outOn := hsecond.outOn.trans hfirst.outOn
      usOut := hsecond.usOut.trans hfirst.usOut
      solDn := ?_
      starts := hstarts.trans hstarts'
      issued := hfirst.issued.trans hsecond.issued
      requests := hrequests.trans hrequests'
      pending := ?_
      accepted := ?_
      owner := ?_
      kept := ?_ }
  · rcases hsecond.solDn with h | h
    · exact h ▸ hfirst.solDn
    · exact Or.inr h
  · intro h
    exact (hsecond.pending (by omega)).trans (hfirst.pending (by omega))
  · intro h
    by_cases hmid : mid.ghost.starts = s.ghost.starts
    · have hopen := hsecond.accepted (by omega)
      rw [hfirst.warm, hfirst.chain, hfirst.overload, hfirst.estop] at hopen
      exact ⟨hopen.1, hopen.2.1, hopen.2.2.1, hopen.2.2.2.1,
        lt_of_le_of_lt hfirst.issued hopen.2.2.2.2⟩
    · have hopen := hfirst.accepted hmid
      exact ⟨hopen.1, hopen.2.1, hopen.2.2.1, hopen.2.2.2.1,
        lt_of_lt_of_le hopen.2.2.2.2 hsecond.issued⟩
  · intro h
    by_cases hmid : s'.ghost.starts = mid.ghost.starts
    · rcases hsecond.kept hmid with hrun | hrun
      · exact hrun ▸ hfirst.owner (by omega)
      · exact Or.inr hrun
    · exact hsecond.owner hmid
  · intro h
    rcases hsecond.kept (by omega) with hrun | hrun
    · exact hrun ▸ hfirst.kept (by omega)
    · exact Or.inr hrun

theorem Quiet.frame {s s' : Sys} (h : Quiet s s') : GateFrame src s s' := by
  constructor <;>
    simp [publishedRun, h.reg, h.measure, h.weld, h.overload, h.debounce, h.estop, h.buttons,
      h.seekReset, h.solDn,
      h.usOut, h.startsIssued, h.starts, h.srRequests]

theorem appHornSetMode_frame (on : Bool) (s : Sys) : GateFrame src s (appHornSetMode on s) := by
  unfold appHornSetMode
  split_ifs
  · exact GateFrame.refl src s
  · constructor <;> simp [ioSolDn, publishedRun]

/-- A RUN_RELEASE keeps the frame of every source. -/
theorem runRelease_frame (owner : UsRun) (now : ℕ) (s : Sys) :
    GateFrame src s (appRegCommand .runRelease owner now s) := by
  simp only [appRegCommand, runReleaseCommand]
  split_ifs
  · constructor <;> simp [stopRun, publishedRun]
  · constructor <;> simp [publishedRun]
  · exact GateFrame.refl src s

theorem appRegCommand_frame (cmd : UsCmd) (now : ℕ) (s : Sys) :
    GateFrame src s (appRegCommand cmd src now s) := by
  cases cmd with
  | start =>
    have hissue : GateFrame src s (issueStart s) := by
      constructor <;> simp [issueStart, publishedRun]
    rcases startCommand_cases src now (issueStart s) with
      ⟨heq, hallowed, -⟩ | ⟨heq, -⟩ | ⟨heq, -⟩
    · have hopen := (appRegStartAllowed_iff _).mp hallowed
      rw [appRegCommand, heq]
      constructor <;> simp [acceptStart, issueStart, publishedRun]
      exact ⟨hopen.1, hopen.2.2.1, hopen.2.2.2.2.1, hopen.2.2.2.2.2.1⟩
    · rw [appRegCommand, heq]
      exact hissue
    · rw [appRegCommand, heq]
      exact hissue.trans (by constructor <;> simp [publishedRun])
  | runRelease => exact runRelease_frame src now s
  | seek => constructor <;> simp [appRegCommand, appSeekResetRequest, publishedRun]
  | reset => constructor <;> simp [appRegCommand, appSeekResetRequest, publishedRun]

/-- A handler made of acts keeps the frame. -/
theorem GateActs.frame {s s' : Sys} (h : GateActs allowed src s s') : GateFrame src s s' := by
  induction h with
  | refl => exact GateFrame.refl src s
  | tail _ hact ih =>
    cases hact with
    | quiet h => exact ih.trans h.frame
    | command cmd now _ => exact ih.trans (appRegCommand_frame cmd now _)
    | horn on => exact ih.trans (appHornSetMode_frame on _)

/-- Assumes: the handler issues no RUN_RELEASE. Then it leaves an active run alone. -/
theorem GateActs.run_of_no_release {s s' : Sys} (h : GateActs allowed src s s')
    (hallowed : ¬ allowed .runRelease) (hrun : s.reg.usRunStatus ≠ .idle) :
    s'.reg.usRunStatus = s.reg.usRunStatus := by
  induction h with
  | refl => rfl
  | @tail mid next _ hact ih =>
    cases hact with
    | quiet h => rw [h.reg, ih]
    | horn on =>
      rw [← ih]
      unfold appHornSetMode
      split_ifs <;> rfl
    | command cmd now hcmd =>
      cases cmd with
      | runRelease => exact absurd hcmd hallowed
      | seek => exact ih
      | reset => exact ih
      | start =>
        have hbusy : mid.reg.usRunStatus ≠ .idle := ih ▸ hrun
        rw [← ih]
        simp [appRegCommand, startCommand, issueStart, hbusy]

/-- Assumes: the handler issues no RESET. Then it leaves the errors alone. -/
theorem GateActs.error_of_no_reset {s s' : Sys} (h : GateActs allowed src s s')
    (hreset : ¬ allowed .reset) : s'.reg.errorStatus = s.reg.errorStatus := by
  induction h with
  | refl => rfl
  | @tail mid next _ hact ih =>
    rw [← ih]
    cases hact with
    | quiet h => rw [h.reg]
    | horn on =>
      unfold appHornSetMode
      split_ifs <;> rfl
    | command cmd now hcmd =>
      cases cmd with
      | reset => exact absurd hcmd hreset
      | seek => rfl
      | start =>
        rcases startCommand_cases src now (issueStart mid) with ⟨heq, -⟩ | ⟨heq, -⟩ | ⟨heq, -⟩ <;>
          rw [appRegCommand, heq] <;> rfl
      | runRelease =>
        simp only [appRegCommand, runReleaseCommand, stopRun]
        split_ifs <;> rfl

end UsCtrl
