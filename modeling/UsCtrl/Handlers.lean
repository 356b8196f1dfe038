import UsCtrl.RunGate

/-!
# The panel handlers as acts on the run gate

A panel frame and the panel tick do not own gate state: each is a sequence of acts of the panel
(`appLcdInputDispatch_acts`, `appLcdTick_acts`). The command a frame issues is read off its key and
its word (`FrameIn.command`); the panel tick issues one only when a fault appears
(`lcdFaultEdge`). The Ethernet, alarm and buzzer ticks do not act at all.
-/

set_option autoImplicit false
set_option relaxedAutoImplicit false

namespace UsCtrl

open Relation

/-! ### Panel frames -/

/-- The command a panel key issues. -/
def panelCommand (key : PanelKey) (f : FrameIn) (s : Sys) : Option UsCmd :=
  match key with
  | .keyMulti =>
    if f.word = 1 then some .reset
    else if f.word = 2 then some .seek
    else if f.word = 3 then some .start
    else if f.word = 4 then some .runRelease
    else if f.word = 0 then some (if s.lcd.runKeyDown then .runRelease else .start)
    else none
  | .keyErrorReset => if f.word = 1 then some .reset else none
  | .sysPicNow =>
    if f.word = 0 ∧ s.lcd.bootComplete ∧ elapsedMs f.tKey s.lcd.lastSetPageMs ≥ 200
    then some .runRelease else none
  | _ => none

/-- The command a frame issues. -/
def FrameIn.command (f : FrameIn) (s : Sys) : Option UsCmd :=
  f.key.bind fun key ↦ panelCommand key f s

variable {allowed : UsCmd → Prop}

theorem handleKeyReset_acts (now : ℕ) (s : Sys) (hallowed : allowed .reset) :
    GateActs allowed .touch s (handleKeyReset now s) := by
  refine (GateActs.of_command now hallowed).trans (GateActs.of_quiet ?_)
  unfold handleKeyReset appLcdHookUsCommand
  dsimp only
  split_ifs
  · exact quiet_lcd _ _
  · exact quiet_lcd _ _
  · exact Quiet.refl _

theorem handleRunToggle_acts (now : ℕ) (s : Sys)
    (hallowed : allowed (if s.lcd.runKeyDown then .runRelease else .start)) :
    GateActs allowed .touch s (handleRunToggle now s) := by
  unfold handleRunToggle appLcdHookUsCommand
  have htoggle : GateActs allowed .touch s
      { s with lcd := { s.lcd with runKeyDown := !s.lcd.runKeyDown } } :=
    GateActs.of_quiet (quiet_lcd s _)
  cases hdown : s.lcd.runKeyDown with
  | false =>
    simp only [hdown, Bool.false_eq_true, if_false] at hallowed
    simp only [hdown, Bool.not_false, if_true] at htoggle ⊢
    exact (htoggle.trans (GateActs.of_command now hallowed)).trans
      (GateActs.of_quiet (quiet_hookSetPot _ _))
  | true =>
    simp only [hdown, if_true] at hallowed
    simp only [hdown, Bool.not_true, Bool.false_eq_true, if_false] at htoggle ⊢
    exact htoggle.trans (GateActs.of_command now hallowed)

theorem handleKeyMulti_acts (f : FrameIn) (s : Sys) :
    GateActs (fun cmd ↦ panelCommand .keyMulti f s = some cmd) .touch s
      (handleKeyMulti f.word f.tCmd s) := by
  unfold handleKeyMulti appLcdHookUsCommand
  split_ifs with h1 h2 h3 h4 h0
  · exact handleKeyReset_acts f.tCmd s (by simp [panelCommand, h1])
  · exact GateActs.of_command f.tCmd (by simp [panelCommand, h2])
  · exact (GateActs.of_command f.tCmd (by simp [panelCommand, h3])).trans
      (GateActs.of_quiet (quiet_hookSetPot _ _))
  · exact GateActs.of_command f.tCmd (by simp [panelCommand, h4])
  · exact handleRunToggle_acts f.tCmd s (by simp [panelCommand, h0])
  · exact ReflTransGen.refl

theorem handleKeyErrorReset_acts (f : FrameIn) (s : Sys) :
    GateActs (fun cmd ↦ panelCommand .keyErrorReset f s = some cmd) .touch s
      (handleKeyErrorReset f.word f.tCmd s) := by
  unfold handleKeyErrorReset appLcdHookUsCommand
  by_cases hword : f.word = 1
  · rw [if_neg (by simpa using hword)]
    have hcommand : panelCommand .keyErrorReset f s = some .reset := by simp [panelCommand, hword]
    refine (GateActs.of_command f.tCmd hcommand).trans (GateActs.of_quiet ?_)
    dsimp only
    split_ifs
    · exact quiet_lcd _ _
    · exact quiet_lcd _ _
    · exact Quiet.refl _
  · rw [if_pos hword]

theorem runKeyReanchor_acts (s : Sys) (hallowed : allowed .runRelease) :
    GateActs allowed .touch s (appLcdInputRunKeyReanchor s) :=
  (GateActs.of_command 0 hallowed).trans (GateActs.of_quiet (quiet_lcd _ _))

theorem handleSysPicNow_acts (f : FrameIn) (s : Sys) :
    GateActs (fun cmd ↦ panelCommand .sysPicNow f s = some cmd) .touch s
      (handleSysPicNow f.word f.tKey f.tPage s) := by
  unfold handleSysPicNow
  split_ifs with hinit
  · exact (runKeyReanchor_acts s (by simp [panelCommand, hinit])).trans
      (GateActs.of_quiet (quiet_initMode f.tPage _))
  · exact ReflTransGen.refl

theorem quiet_setupParamEnter (tPage : ℕ) (s : Sys) : Quiet s (handleSetupParamEnter tPage s) :=
  (quiet_gotoPage _ tPage s).trans (quiet_lcd _ _)

theorem quiet_longPressKey (vp data now : ℕ) (enter : Sys → Sys)
    (henter : ∀ s, Quiet s (enter s)) (s : Sys) :
    Quiet s (longPressKey vp data now enter s) := by
  unfold longPressKey
  dsimp only
  split_ifs
  · exact (quiet_lcd s _).trans (henter _)
  · exact quiet_lcd s _

theorem quiet_stdSetupParam (data tPage : ℕ) (s : Sys) :
    Quiet s (handleStdSetupParam data tPage s) := by
  unfold handleStdSetupParam
  split_ifs
  · exact quiet_lcd s _
  · exact quiet_gotoPage _ tPage s
  · exact quiet_gotoPage _ tPage s
  · exact quiet_gotoPage _ tPage s
  · exact quiet_gotoPage _ tPage s
  · exact quiet_lcd s _
  · exact Quiet.refl s

theorem quiet_runMode (data tPage : ℕ) (s : Sys) : Quiet s (handleRunMode data tPage s) := by
  unfold handleRunMode
  split_ifs
  · exact (quiet_cfg s _).trans (quiet_gotoPage _ tPage _)
  · exact (quiet_cfg s _).trans (quiet_gotoPage _ tPage _)
  · exact Quiet.refl s

theorem quiet_commMode (data tPage : ℕ) (s : Sys) : Quiet s (handleCommMode data tPage s) := by
  unfold handleCommMode
  split_ifs <;> exact (quiet_lcd s _).trans (quiet_gotoPage _ tPage _)

theorem quiet_commCommit (s : Sys) : Quiet s (commitCommModeAndEther s) := by
  unfold commitCommModeAndEther
  split_ifs
  · exact Quiet.refl s
  · exact quiet_edit s _ s.fram _ s.pins.pot

theorem quiet_cntReset (s : Sys) : Quiet s (commitCntReset s) := by
  unfold commitCntReset
  split_ifs
  · exact quiet_edit s _ s.fram _ s.pins.pot
  · exact Quiet.refl s

theorem dataSaveGroup_acts (s : Sys) : GateActs allowed .touch s (dataSaveGroup s) := by
  unfold dataSaveGroup
  cases setupGroup s with
  | model => exact GateActs.of_quiet (quiet_lcd s _)
  | multi =>
    exact GateActs.of_quiet ((((quiet_hookSetPot _ s).trans (quiet_commCommit _)).trans
      (quiet_cfg _ _)).trans (quiet_lcd _ _))
  | hand =>
    exact GateActs.of_quiet (((quiet_hookSetPot _ s).trans (quiet_cfg _ _)).trans (quiet_lcd _ _))
  | std =>
    have hbefore : GateActs allowed .touch s
        (commitCntReset (appLcdHookSetPot s.cfg.outputPower s)) :=
      GateActs.of_quiet ((quiet_hookSetPot _ s).trans (quiet_cntReset _))
    exact (hbefore.trans (ReflTransGen.single (.horn _ _))).trans (GateActs.of_quiet
      (((quiet_commCommit _).trans (quiet_cfg _ _)).trans (quiet_lcd _ _)))
  | other => exact ReflTransGen.refl

theorem dataSaveCommit_acts (bus : I2cBus) (tPage : ℕ) (s : Sys) :
    GateActs allowed .touch s (dataSaveCommit bus tPage s) :=
  (dataSaveGroup_acts s).trans
    (GateActs.of_quiet ((quiet_saveConfig bus _).trans (quiet_changePage tPage _)))

theorem quiet_dataSaveCancel (bus : I2cBus) (tPage : ℕ) (s : Sys) :
    Quiet s (dataSaveCancel bus tPage s) :=
  (quiet_edit s _ _ _ s.pins.pot).trans (quiet_changePage tPage _)

/-- A panel frame acts for the panel, and issues no command but its own. -/
theorem panelKeyHandler_acts (key : PanelKey) (f : FrameIn) (s : Sys) :
    GateActs (fun cmd ↦ panelCommand key f s = some cmd) .touch s
      (panelKeyHandler key f.word f s) := by
  unfold panelKeyHandler
  cases key with
  | horndown => exact GateActs.of_quiet (quiet_lcd s _)
  | setupParam => exact GateActs.of_quiet (quiet_setupParamEnter f.tPage s)
  | setupParamMoohan =>
    exact GateActs.of_quiet (quiet_longPressKey _ _ _ _ (quiet_setupParamEnter f.tPage) s)
  | setupModel =>
    exact GateActs.of_quiet (quiet_longPressKey _ _ _ _ (fun s ↦ quiet_lcd s _) s)
  | stdSetupParam => exact GateActs.of_quiet (quiet_stdSetupParam f.word f.tPage s)
  | runMode => exact GateActs.of_quiet (quiet_runMode f.word f.tPage s)
  | keyMulti => exact handleKeyMulti_acts f s
  | keyErrorReset => exact handleKeyErrorReset_acts f s
  | dataSave =>
    dsimp only
    split_ifs
    · exact dataSaveCommit_acts f.bus f.tPage s
    · exact GateActs.of_quiet (quiet_dataSaveCancel f.bus f.tPage s)
  | commAddr => exact GateActs.of_quiet (quiet_lcd s _)
  | commSpeed =>
    dsimp only [handleCommSpeed]
    split_ifs
    · exact ReflTransGen.refl
    · exact GateActs.of_quiet (quiet_lcd s _)
  | commParity =>
    dsimp only [handleCommParity]
    split_ifs
    · exact ReflTransGen.refl
    · exact GateActs.of_quiet (quiet_lcd s _)
  | commMode => exact GateActs.of_quiet (quiet_commMode f.word f.tPage s)
  | etherKey => exact GateActs.of_quiet (quiet_lcd s _)
  | sysPicNow => exact handleSysPicNow_acts f s
  | _ => exact GateActs.of_quiet (quiet_cfg s _)

theorem appLcdInputDispatch_acts (f : FrameIn) (s : Sys) :
    GateActs (fun cmd ↦ f.command s = some cmd) .touch s (appLcdInputDispatch f s) := by
  unfold appLcdInputDispatch FrameIn.command
  cases f.key with
  | none => exact ReflTransGen.refl
  | some key => exact panelKeyHandler_acts key f s

/-! ### Panel tick -/

/-- The panel tick enters the warning page: a fault is published that was not there before. -/
def lcdFaultEdge (s : Sys) : Bool := s.measure.errorStatus.any && !s.lcd.prevErr.any

/-- The panel tick acts for the panel; it only issues the RUN_RELEASE of a fault edge. -/
theorem appLcdTick_acts (s : Sys) :
    GateActs (fun cmd ↦ cmd = .runRelease ∧ lcdFaultEdge s = true) .touch s (appLcdTick s) := by
  have hmirror : GateActs (fun cmd ↦ cmd = .runRelease ∧ lcdFaultEdge s = true) .touch s
      { s with lcd := { s.lcd with errorStatus := s.measure.errorStatus } } :=
    GateActs.of_quiet (quiet_lcd s _)
  unfold appLcdTick
  dsimp only
  split_ifs with hedge
  · have hfault : lcdFaultEdge s = true := by simp [lcdFaultEdge, hedge.1, hedge.2]
    refine hmirror.trans (ReflTransGen.trans ?_ (GateActs.of_quiet (quiet_lcd _ _)))
    exact (GateActs.of_quiet (quiet_lcd _ _)).trans (runKeyReanchor_acts _ ⟨rfl, hfault⟩)
  · exact hmirror.trans (GateActs.of_quiet ((quiet_faultCleared _).trans (quiet_lcd _ _)))
  · exact hmirror.trans (GateActs.of_quiet (quiet_lcd _ _))

/-! ### Ticks outside the run gate -/

theorem quiet_tcpReset (s : Sys) : Quiet s (appModbusTcpReset s) := by constructor <;> rfl

theorem quiet_ethApplyOnLink (s : Sys) : Quiet s (ethApplyOnLink s) := by
  unfold ethApplyOnLink
  split_ifs <;> constructor <;> rfl

theorem quiet_ethReapply (s : Sys) : Quiet s (ethReapply s) := by
  have happly : Quiet s (ethApplyOnLink (appModbusTcpReset s)) :=
    (quiet_tcpReset s).trans (quiet_ethApplyOnLink _)
  unfold ethReapply
  split
  · exact happly
  · split_ifs
    · exact Quiet.refl s
    · exact happly
  · exact Quiet.refl s
  · exact Quiet.refl s

theorem quiet_dhcpEvents (events : List DhcpEvent) (s : Sys) :
    Quiet s (events.foldl (fun s event ↦ dhcpEvent event s) s) := by
  induction events generalizing s with
  | nil => exact Quiet.refl s
  | cons event events ih =>
    refine Quiet.trans ?_ (ih (dhcpEvent event s))
    cases event <;> constructor <;> rfl

theorem quiet_ethTick (input : EthTickIn) (s : Sys) : Quiet s (appEthTick input s) := by
  have hdirty : Quiet s (ethTakeDirty s) := by
    unfold ethTakeDirty
    split_ifs
    · exact (quiet_lcd s _).trans (quiet_ethReapply _)
    · exact Quiet.refl s
  refine hdirty.trans ?_
  unfold appEthTick
  dsimp only
  generalize ethTakeDirty s = taken
  split
  · unfold ethLinkPoll
    dsimp only
    split_ifs
    · refine Quiet.trans ?_ (quiet_ethApplyOnLink _)
      constructor <;> rfl
    · constructor <;> rfl
    · exact Quiet.refl taken
  · unfold ethDhcpRun
    dsimp only
    have hticked : Quiet taken (if elapsedMs input.now taken.eth.dhcpMs ≥ 1000
        then { taken with eth := { taken.eth with dhcpMs := input.now } } else taken) := by
      split_ifs
      · constructor <;> rfl
      · exact Quiet.refl taken
    have hran := hticked.trans (quiet_dhcpEvents input.dhcpEvents _)
    split_ifs at hran ⊢
    · exact hran.trans (by constructor <;> rfl)
    · exact hran.trans (by constructor <;> rfl)
    · exact hran
    · exact hran
  · exact Quiet.refl taken
  · exact Quiet.refl taken

theorem quiet_faultAlarmTick (now : ℕ) (s : Sys) : Quiet s (appFaultAlarmTick now s) := by
  unfold appFaultAlarmTick appBuzzerBeepMs
  dsimp only
  split_ifs <;> constructor <;> rfl

theorem quiet_buzzerTick (now : ℕ) (s : Sys) : Quiet s (appBuzzerTick now s) := by
  unfold appBuzzerTick
  split_ifs
  · exact Quiet.refl s
  · constructor <;> rfl

end UsCtrl
