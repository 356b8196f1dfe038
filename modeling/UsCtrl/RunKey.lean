import UsCtrl.Commanded
import UsCtrl.ConfigSteps
import UsCtrl.Screen
import UsCtrl.StartGate

/-!
# The RUN key of the panel

The panel reports the two edges of its RUN key alike (KEY_MULTI with data 0), and the firmware tells
a press from a release by a toggle. A touch run that the regulation core stops by itself arms a
swallow, so that the release still to come is not taken for a START.

The two records stay with the key (`KeyPaired`) all along a run exactly if no call re-anchors the
toggle while the key is held, and no release meets an armed swallow while a run of another source is
active: that release stops the run and leaves the swallow armed (`runPress_iff`). A press that finds
the start gate open starts a touch run exactly if it finds them so.
-/

set_option autoImplicit false
set_option relaxedAutoImplicit false

namespace UsCtrl

open Foundation Relation

/-! ### Edges -/

/-- The frame is an edge of the RUN key. -/
def FrameIn.runEdge (f : FrameIn) : Bool := decide (f.key = some .keyMulti) && decide (f.word = 0)

/-- The frame carries the press code of the older panel asset. -/
def FrameIn.olderPress (f : FrameIn) : Bool :=
  decide (f.key = some .keyMulti) && decide (f.word = 3)

/-- The call is an edge of the RUN key. -/
def Call.runEdge : Call → Bool
  | .frame f => f.runEdge
  | _ => false

/-- The call carries the press code of the older panel asset. -/
def Call.olderPress : Call → Bool
  | .frame f => f.olderPress
  | _ => false

/-- The call sets the toggle back to released: a panel reset, the display of a fault, or the entry
of the emergency stop. -/
def Call.reanchors (call : Call) (s : Sys) : Bool :=
  match call with
  | .frame f => decide (f.key = some .sysPicNow) && decide (f.word = 0) && s.lcd.bootComplete &&
      decide (elapsedMs f.tKey s.lcd.lastSetPageMs ≥ 200)
  | .lcdTick => lcdFaultEdge s
  | .inputTick tick => inputDue tick s && (inputEvent tick s).estopEnter
  | _ => false

/-! ### The toggle -/

theorem gotoPage_runKey (page : LcdPage) (tPage : ℕ) (s : Sys) :
    (gotoPage page tPage s).lcd.runKeyDown = s.lcd.runKeyDown :=
  congrArg Screen.runKey (gotoPage_screen page tPage s).1

theorem longPressKey_runKey (vp data now : ℕ) (enter : Sys → Sys) (s : Sys)
    (henter : ∀ t : Sys, (enter t).lcd.runKeyDown = t.lcd.runKeyDown) :
    (longPressKey vp data now enter s).lcd.runKeyDown = s.lcd.runKeyDown := by
  obtain ⟨ms, mark, hmarked⟩ := longPressKey_marked vp data now enter s
  rw [hmarked]
  split_ifs
  · exact henter _
  · rfl

theorem keyMulti_runKey (data now : ℕ) (s : Sys) :
    (handleKeyMulti data now s).lcd.runKeyDown =
      if data = 0 then !s.lcd.runKeyDown else s.lcd.runKeyDown := by
  have hcommand (cmd : UsCmd) (t : Sys) : (appLcdHookUsCommand cmd now t).lcd = t.lcd :=
    lcd_regCommand cmd .touch now t
  by_cases hdata : data = 0
  · subst hdata
    simp only [handleKeyMulti, handleRunToggle, if_true, OfNat.zero_ne_ofNat, zero_ne_one, if_false]
    split_ifs
    · exact congrArg LcdState.runKeyDown (hcommand .start _)
    · exact congrArg LcdState.runKeyDown (hcommand .runRelease _)
  · rw [if_neg hdata]
    unfold handleKeyMulti
    rw [if_neg hdata]
    split_ifs
    · have hreset := congrArg LcdState.runKeyDown (hcommand .reset s)
      unfold handleKeyReset
      dsimp only
      split_ifs <;> exact hreset
    · exact congrArg LcdState.runKeyDown (hcommand .seek s)
    · exact congrArg LcdState.runKeyDown (hcommand .start s)
    · exact congrArg LcdState.runKeyDown (hcommand .runRelease s)
    · rfl

/-- Of the panel keys, only KEY_MULTI and a panel reset move the toggle. -/
theorem panelKey_runKey (key : PanelKey) (f : FrameIn) (s : Sys) (hmulti : key ≠ .keyMulti)
    (hreset : key ≠ .sysPicNow) :
    (panelKeyHandler key f.word f s).lcd.runKeyDown = s.lcd.runKeyDown := by
  have hcommand : (appLcdHookUsCommand .reset f.tCmd s).lcd.runKeyDown = s.lcd.runKeyDown :=
    congrArg LcdState.runKeyDown (lcd_regCommand .reset .touch f.tCmd s)
  have hsetup (t : Sys) : (handleSetupParamEnter f.tPage t).lcd.runKeyDown = t.lcd.runKeyDown :=
    gotoPage_runKey (setup1PageForMode t.lcd.sysMode) f.tPage t
  unfold panelKeyHandler
  cases key with
  | keyMulti => exact absurd rfl hmulti
  | sysPicNow => exact absurd rfl hreset
  | setupParam => exact hsetup s
  | setupParamMoohan => exact longPressKey_runKey _ _ _ _ s hsetup
  | setupModel => exact longPressKey_runKey _ _ _ _ s fun _ ↦ rfl
  | stdSetupParam =>
    dsimp only [handleStdSetupParam]
    split_ifs
    · rfl
    · exact gotoPage_runKey _ _ s
    · exact gotoPage_runKey _ _ s
    · exact gotoPage_runKey _ _ s
    · exact gotoPage_runKey _ _ s
    · rfl
    · rfl
  | runMode =>
    dsimp only [handleRunMode]
    split_ifs
    · exact gotoPage_runKey _ _ _
    · exact gotoPage_runKey _ _ _
    · rfl
  | keyErrorReset =>
    dsimp only [handleKeyErrorReset]
    split_ifs
    · rfl
    · exact hcommand
    · exact hcommand
    · exact hcommand
  | dataSave =>
    show (if f.word = 1 then dataSaveCommit f.bus f.tPage s
      else dataSaveCancel f.bus f.tPage s).lcd.runKeyDown = _
    split_ifs
    · have hsaved := (changePage_screen f.tPage (saveConfig f.bus (dataSaveGroup s))).1
      have hgroup := congrArg LcdState.runKeyDown (dataSaveGroup_offSave s)
      exact (congrArg Screen.runKey hsaved).trans hgroup
    · refine (congrArg Screen.runKey (changePage_screen f.tPage _).1).trans ?_
      show (cancelPage _).runKeyDown = _
      unfold cancelPage
      cases s.lcd.lcdStatus <;> rfl
  | commSpeed =>
    dsimp only [handleCommSpeed]
    split_ifs <;> rfl
  | commParity =>
    dsimp only [handleCommParity]
    split_ifs <;> rfl
  | commMode =>
    dsimp only [handleCommMode]
    split_ifs <;> exact gotoPage_runKey _ _ _
  | etherKey => exact congrArg Screen.runKey (etherKey_screen f.word s).1
  | _ => rfl

/-- A panel reset takes the toggle back. -/
theorem sysPicNow_runKey (data tKey tPage : ℕ) (s : Sys) :
    (handleSysPicNow data tKey tPage s).lcd.runKeyDown =
      if data = 0 ∧ s.lcd.bootComplete ∧ elapsedMs tKey s.lcd.lastSetPageMs ≥ 200 then false
      else s.lcd.runKeyDown := by
  unfold handleSysPicNow
  split_ifs
  · have hanchor := congrArg LcdState.runKeyDown (lcd_reanchor s)
    generalize appLcdInputRunKeyReanchor s = anchored at hanchor ⊢
    have hscreen := (changePage_screen tPage { anchored with lcd := { anchored.lcd with
      lcdStatus := runPageForMode anchored.cfg.modelType
      sysMode := anchored.cfg.modelType
      tempCommMode := 0xFF } }).1
    exact (congrArg Screen.runKey hscreen).trans hanchor
  · rfl

/-- What a frame does to the toggle. -/
theorem dispatch_runKey (f : FrameIn) (s : Sys) :
    (appLcdInputDispatch f s).lcd.runKeyDown = if f.runEdge then !s.lcd.runKeyDown
      else if (Call.frame f).reanchors s then false else s.lcd.runKeyDown := by
  have hanchors : (Call.frame f).reanchors s = (decide (f.key = some .sysPicNow) &&
      decide (f.word = 0) && s.lcd.bootComplete &&
        decide (elapsedMs f.tKey s.lcd.lastSetPageMs ≥ 200)) := rfl
  rw [hanchors]
  unfold appLcdInputDispatch FrameIn.runEdge
  cases hkey : f.key with
  | none => simp
  | some key =>
    show (panelKeyHandler key f.word f s).lcd.runKeyDown = _
    by_cases hmulti : key = .keyMulti
    · subst hmulti
      refine (keyMulti_runKey f.word f.tCmd s).trans ?_
      simp
    by_cases hreset : key = .sysPicNow
    · subst hreset
      refine (sysPicNow_runKey f.word f.tKey f.tPage s).trans ?_
      simp [and_assoc]
    rw [panelKey_runKey key f s hmulti hreset]
    simp [hmulti, hreset]

/-- What a call does to the toggle: an edge flips it, and a re-anchoring takes it back. -/
theorem exec_runKey (build : Build) (call : Call) (s : Sys) :
    (call.exec build s).lcd.runKeyDown = if call.runEdge then !s.lcd.runKeyDown
      else if call.reanchors s then false else s.lcd.runKeyDown := by
  have hoff (hscreen : call.onScreen = false) :
      (call.exec build s).lcd.runKeyDown = s.lcd.runKeyDown :=
    congrArg Screen.runKey (exec_screen build hscreen s)
  cases call with
  | frame f => exact dispatch_runKey f s
  | lcdTick =>
    refine (congrArg Screen.runKey (lcdTick_screen s)).trans ?_
    show _ = if lcdFaultEdge s then false else s.lcd.runKeyDown
    unfold Screen.released
    split_ifs <;> rfl
  | inputTick tick =>
    refine (congrArg Screen.runKey (inputTick_screen tick s)).trans ?_
    show _ = if inputDue tick s && (inputEvent tick s).estopEnter then false else s.lcd.runKeyDown
    cases inputDue tick s <;> cases (inputEvent tick s).estopEnter <;> simp
    · rfl
    · rfl
    · split_ifs <;> rfl
  | overloadTick tick =>
    refine (congrArg Screen.runKey (overloadTick_screen tick s)).trans ?_
    show _ = s.lcd.runKeyDown
    unfold Screen.released
    split_ifs <;> rfl
  | _ => exact hoff rfl

/-! ### The swallow -/

/-- No command arms the swallow. -/
theorem appRegCommand_swallow (cmd : UsCmd) (src : UsRun) (now : ℕ) (s : Sys) :
    (appRegCommand cmd src now s).reg.swallowStart = true → s.reg.swallowStart = true := by
  cases cmd with
  | start =>
    intro harmed
    rcases startCommand_cases src now (issueStart s) with ⟨heq, -⟩ | ⟨heq, -⟩ | ⟨heq, -⟩ <;>
      rw [appRegCommand, heq] at harmed
    · exact harmed
    · exact harmed
    · cases harmed
  | runRelease =>
    simp only [appRegCommand, runReleaseCommand]
    split_ifs
    · exact fun harmed ↦ harmed
    · rintro ⟨⟩
    · exact fun harmed ↦ harmed
  | seek => exact fun harmed ↦ harmed
  | reset => exact fun harmed ↦ harmed

/-- A call other than the regulation tick does not arm the swallow. -/
theorem Commanded.swallow {s s' : Sys} (h : Commanded s s') :
    s'.reg.swallowStart = true → s.reg.swallowStart = true := by
  induction h with
  | refl => exact id
  | tail _ hmove ih =>
    intro harmed
    apply ih
    cases hmove with
    | aside hreg _ _ => exact hreg ▸ harmed
    | command cmd src now => exact appRegCommand_swallow cmd src now _ harmed
    | ovtime => exact harmed

/-- The regulation tick arms the swallow only by stopping a touch run. -/
theorem regTick_swallow (lim : RegRunLimits) (tick : RegTickIn) {s : Sys}
    (harmed : (appRegTick lim tick s).reg.swallowStart = true) :
    s.reg.swallowStart = true ∨ s.reg.usRunStatus = .touch := by
  have hstop (t : Sys) : (regStopRun t).reg.swallowStart = true →
      t.reg.swallowStart = true ∨ t.reg.usRunStatus = .touch := by
    unfold regStopRun
    dsimp only
    split_ifs with htouch
    · exact fun _ ↦ Or.inr htouch
    · exact Or.inl
  have hcut {t cut : Sys} (h : RegCut t cut) : cut.reg.swallowStart = true →
      t.reg.swallowStart = true ∨ t.reg.usRunStatus = .touch := by
    cases h with
    | stay => exact Or.inl
    | stop => exact hstop t
    | ovtime => exact hstop t
  have hpublished (t : Sys) : (regPublishMeasure tick lim.freqCalVal
      (regSetpoint tick.now t)).reg.swallowStart = t.reg.swallowStart := by
    dsimp only [regPublishMeasure]
    rw [regSrDisplayEdge_eq]
    rfl
  have hhead (h : (regTickHead lim tick s).reg.swallowStart = true) :
      s.reg.swallowStart = true ∨ s.reg.usRunStatus = .touch := by
    unfold regTickHead at h
    rw [regAcquire_eq] at h
    dsimp only at h
    have hbefore := hcut (regStops_cut lim tick.now _) h
    rw [regWarmUp_eq] at hbefore
    exact hbefore
  unfold appRegTick at harmed
  split_ifs at harmed
  · rw [hpublished] at harmed
    exact hhead harmed
  · exact hhead harmed

/-- Only the automatic stop of a touch run arms the swallow. -/
theorem exec_swallow (build : Build) (call : Call) {s : Sys}
    (harmed : (call.exec build s).reg.swallowStart = true) :
    s.reg.swallowStart = true ∨ s.reg.usRunStatus = .touch := by
  by_cases hkind : call.kind = .reg
  · cases call with
    | regTick tick => exact regTick_swallow _ tick harmed
    | _ => cases hkind
  · exact Or.inl ((exec_commanded build hkind s).swallow harmed)

/-! ### Touch runs -/

/-- Re-anchoring the toggle ends the run. -/
theorem exec_reanchored (build : Build) {call : Call} {s : Sys}
    (hanchors : call.reanchors s = true) : (call.exec build s).reg.usRunStatus = .idle := by
  have hreleased (t : Sys) : (appLcdInputRunKeyReanchor t).reg.usRunStatus = .idle :=
    appRegCommand_runRelease_idle .touch 0 t
  cases call with
  | frame f =>
    simp only [Call.reanchors, Bool.and_eq_true, decide_eq_true_eq, and_assoc] at hanchors
    obtain ⟨hkey, hword, hboot, helapsed⟩ := hanchors
    show (appLcdInputDispatch f s).reg.usRunStatus = .idle
    unfold appLcdInputDispatch
    rw [hkey]
    show (handleSysPicNow f.word f.tKey f.tPage s).reg.usRunStatus = .idle
    unfold handleSysPicNow
    rw [if_pos ⟨hword, hboot, helapsed⟩, (quiet_initMode f.tPage _).reg]
    exact hreleased s
  | lcdTick =>
    have hedge : s.measure.errorStatus.any = true ∧ s.lcd.prevErr.any = false := by
      simpa [Call.reanchors, lcdFaultEdge] using hanchors
    show (appLcdTick s).reg.usRunStatus = .idle
    unfold appLcdTick
    dsimp only
    rw [if_pos hedge]
    exact hreleased _
  | inputTick tick =>
    obtain ⟨hdue, henter⟩ : inputDue tick s = true ∧ (inputEvent tick s).estopEnter = true := by
      simpa [Call.reanchors] using hanchors
    show (appInputTick tick s).reg.usRunStatus = .idle
    unfold appInputTick
    rw [if_pos hdue]
    exact (inputBody_estop tick s (inputFsmStep_enter _ _ henter)).2 (Or.inl henter)
  | _ => cases hanchors

/-- A START of the panel is one of the two press codes. -/
theorem start_of_command {f : FrameIn} {s : Sys} (hcommand : f.command s = some .start) :
    f.runEdge = true ∨ f.olderPress = true := by
  unfold FrameIn.runEdge FrameIn.olderPress
  unfold FrameIn.command at hcommand
  cases hkey : f.key with
  | none =>
    rw [hkey] at hcommand
    cases hcommand
  | some key =>
    rw [hkey, Option.bind_some] at hcommand
    cases key with
    | keyMulti =>
      simp only [panelCommand] at hcommand
      split_ifs at hcommand with h1 h2 h3 h4 h0 <;> simp_all
    | keyErrorReset =>
      simp only [panelCommand] at hcommand
      split_ifs at hcommand
      cases hcommand
    | sysPicNow =>
      simp only [panelCommand] at hcommand
      split_ifs at hcommand
      cases hcommand
    | _ => cases hcommand

/-- Apart from a press no call makes the run a touch run. -/
theorem exec_touch (build : Build) {call : Call} {s : Sys} (hedge : call.runEdge = false)
    (holder : call.olderPress = false) (htouch : (call.exec build s).reg.usRunStatus = .touch) :
    s.reg.usRunStatus = .touch := by
  have hframe := exec_frame build call s
  by_cases hstarts : (call.exec build s).ghost.starts = s.ghost.starts
  · rcases hframe.kept hstarts with hkept | hidle
    · exact hkept.symm.trans htouch
    · cases htouch.symm.trans hidle
  · have hsrc : call.kind.src = .touch := by
      rcases hframe.owner hstarts with howner | hidle
      · exact howner.symm.trans htouch
      · cases htouch.symm.trans hidle
    cases call with
    | frame f =>
      have hcommand : f.command s ≠ some .start := by
        intro hcommand
        rcases start_of_command hcommand with h | h
        · cases h.symm.trans hedge
        · cases h.symm.trans holder
      exact absurd ((appLcdInputDispatch_acts f s).starts_of_no_start hcommand) hstarts
    | lcdTick =>
      exact absurd ((appLcdTick_acts s).starts_of_no_start fun h ↦ by cases h.1) hstarts
    | _ => cases hsrc

/-! ### The key and its two records -/

/-- The toggle shows whether the key is held, and a swallow is armed at most while it is. -/
structure KeyPaired (held : Bool) (s : Sys) : Prop where
  toggle : s.lcd.runKeyDown = held
  swallow : s.reg.swallowStart = true → held = true

/-- The call neither re-anchors the toggle under a held key nor releases the key into a run that
another source has started since the swallow was armed. -/
def Call.KeepsPair (call : Call) (held : Bool) (s : Sys) : Prop :=
  (call.reanchors s = true → held = false) ∧
    (call.runEdge = true → held = true → s.reg.swallowStart = true → s.reg.usRunStatus = .idle)

theorem exec_runEdge (build : Build) {call : Call} (hedge : call.runEdge = true) (s : Sys) :
    ∃ f, call = .frame f ∧ call.exec build s = handleRunToggle f.tCmd s := by
  cases call with
  | frame f =>
    have hedge : f.key = some .keyMulti ∧ f.word = 0 := by
      simpa [Call.runEdge, FrameIn.runEdge] using hedge
    refine ⟨f, rfl, ?_⟩
    show appLcdInputDispatch f s = _
    unfold appLcdInputDispatch
    rw [hedge.1]
    show handleKeyMulti f.word f.tCmd s = _
    rw [hedge.2]
    rfl
  | _ => cases hedge

/-- An edge is not a re-anchoring. -/
theorem Call.reanchors_of_runEdge {call : Call} (hedge : call.runEdge = true) (s : Sys) :
    call.reanchors s = false := by
  cases call with
  | frame f =>
    have hkey : f.key = some .keyMulti := by
      simp only [Call.runEdge, FrameIn.runEdge, Bool.and_eq_true, decide_eq_true_eq] at hedge
      exact hedge.1
    simp [Call.reanchors, hkey]
  | _ => cases hedge

/-- A release ends the run, and leaves a swallow armed exactly if there was one to end. -/
theorem runToggle_release (now : ℕ) {s : Sys} (hdown : s.lcd.runKeyDown = true) :
    (handleRunToggle now s).reg.usRunStatus = .idle ∧
      ((handleRunToggle now s).reg.swallowStart = true ↔
        s.reg.swallowStart = true ∧ s.reg.usRunStatus ≠ .idle) := by
  have heq : handleRunToggle now s = appRegCommand .runRelease .touch now
      { s with lcd := { s.lcd with runKeyDown := false } } := by
    unfold handleRunToggle appLcdHookUsCommand
    simp [hdown]
  rw [heq]
  refine ⟨appRegCommand_runRelease_idle .touch now _, ?_⟩
  simp only [appRegCommand, runReleaseCommand]
  by_cases hrun : s.reg.usRunStatus = .idle
  · simp only [hrun, ne_eq, not_true_eq_false, if_false, and_false, iff_false, true_and]
    split_ifs with hswallow
    · rintro ⟨⟩
    · exact hswallow
  · simp only [hrun, ne_eq, not_false_eq_true, if_true, and_true]
    rfl

/-- Assumes: the start gate is open. Then a press starts a touch run unless it is swallowed. -/
theorem runToggle_press (now : ℕ) {s : Sys} (hup : s.lcd.runKeyDown = false)
    (hallowed : appRegStartAllowed s = true) :
    (handleRunToggle now s).reg.usRunStatus = .touch ↔ s.reg.swallowStart = false := by
  have hopen := (appRegStartAllowed_iff s).mp hallowed
  have heq : (handleRunToggle now s).reg = (startCommand .touch now
      (issueStart { s with lcd := { s.lcd with runKeyDown := true } })).reg := by
    unfold handleRunToggle appLcdHookUsCommand
    simp only [hup, Bool.not_false, if_true]
    rfl
  rw [heq]
  rcases startCommand_cases .touch now
      (issueStart { s with lcd := { s.lcd with runKeyDown := true } }) with
    ⟨heq, -, hswallow⟩ | ⟨-, hclosed⟩ | ⟨heq, -, hswallow, hidle⟩
  · rw [heq]
    exact iff_of_true rfl (hswallow rfl)
  · exact absurd (hallowed.symm.trans hclosed) (by decide)
  · rw [heq]
    refine iff_of_false (fun h ↦ ?_) (fun h ↦ ?_)
    · cases hidle.symm.trans h
    · cases hswallow.symm.trans h

/-- Assumes: a call that finds the records with the key. They stay so exactly if it keeps them. -/
theorem exec_keyPaired (build : Build) (call : Call) {held : Bool} {s : Sys}
    (hpaired : KeyPaired held s)
    (htouch : s.reg.usRunStatus = .touch → s.lcd.runKeyDown = true) :
    KeyPaired (xor call.runEdge held) (call.exec build s) ↔ call.KeepsPair held s := by
  have htoggle := exec_runKey build call s
  cases hedge : call.runEdge with
  | true =>
    have hfree := call.reanchors_of_runEdge hedge s
    rw [hedge, if_pos rfl, hpaired.toggle] at htoggle
    obtain ⟨f, -, heq⟩ := exec_runEdge build hedge s
    rw [heq] at htoggle ⊢
    cases held with
    | false =>
      refine iff_of_true ⟨htoggle, fun _ ↦ rfl⟩ ⟨fun h ↦ ?_, by rintro _ ⟨⟩⟩
      cases hfree.symm.trans h
    | true =>
      have hreleased := (runToggle_release f.tCmd hpaired.toggle).2
      constructor
      · intro hafter
        refine ⟨fun h ↦ ?_, fun _ _ harmed ↦ ?_⟩
        · cases hfree.symm.trans h
        · by_contra hrun
          cases hafter.swallow (hreleased.mpr ⟨harmed, hrun⟩)
      · intro hkeeps
        refine ⟨htoggle, fun harmed ↦ ?_⟩
        obtain ⟨hbefore, hrun⟩ := hreleased.mp harmed
        exact absurd (hkeeps.2 hedge rfl hbefore) hrun
  | false =>
    have hswallow (harmed : (call.exec build s).reg.swallowStart = true) : held = true := by
      rcases exec_swallow build call harmed with hbefore | hrun
      · exact hpaired.swallow hbefore
      · exact hpaired.toggle.symm.trans (htouch hrun)
    rw [hedge, if_neg (by decide), hpaired.toggle] at htoggle
    rw [Bool.false_xor]
    cases hanchors : call.reanchors s with
    | true =>
      rw [hanchors, if_pos rfl] at htoggle
      constructor
      · intro hafter
        refine ⟨fun _ ↦ hafter.toggle.symm.trans htoggle, fun h ↦ ?_⟩
        cases hedge.symm.trans h
      · exact fun hkeeps ↦ ⟨htoggle.trans (hkeeps.1 hanchors).symm, hswallow⟩
    | false =>
      rw [hanchors, if_neg (by decide)] at htoggle
      refine iff_of_true ⟨htoggle, hswallow⟩ ⟨fun h ↦ ?_, fun h ↦ ?_⟩
      · cases hanchors.symm.trans h
      · cases hedge.symm.trans h

/-! ### Runs -/

section Runs

/-- The RUN key is held: the run has an odd number of edges. -/
def keyHeld : List Call → Bool
  | [] => false
  | call :: past => xor call.runEdge (keyHeld past)

variable (build : Build) (boot : BootIn)

/-- The newest call is a press of the RUN key that finds the start gate open. -/
def openPress : Past Call
  | [] => False
  | call :: past => call.runEdge = true ∧ keyHeld past = false ∧
      appRegStartAllowed (stateAfter build boot past) = true

/-- A touch run is active. -/
def touchRun : Past Call := fun history ↦ appRegRunSrc (stateAfter build boot history) = .touch

/-- The newest call is no open press, or it starts a touch run. -/
def PressServed : Past Call := fun history ↦
  openPress build boot history → touchRun build boot history

/-- The toggle and the swallow are with the key. -/
def KeysPaired : Past Call := fun history ↦
  KeyPaired (keyHeld history) (stateAfter build boot history)

/-- The newest call keeps the toggle and the swallow with the key. -/
def KeepsPaired : Past Call
  | [] => True
  | call :: past => call.KeepsPair (keyHeld past) (stateAfter build boot past)

/-- The newest call is no open press, or it starts a touch run exactly if it finds the toggle and
the swallow with the key. -/
def PressNeedsPair : Past Call
  | [] => True
  | call :: past => openPress build boot (call :: past) →
      (touchRun build boot (call :: past) ↔ KeysPaired build boot past)

/-- The newest call does not carry the press code of the older panel asset. -/
def edgesOnly : Past Call
  | [] => True
  | call :: _ => call.olderPress = false

variable {build boot}

theorem touchRun_down (history : List Call) (hpanel : always edgesOnly history)
    (htouch : touchRun build boot history) :
    (stateAfter build boot history).lcd.runKeyDown = true := by
  induction history with
  | nil =>
    have hboot : (stateAfter build boot []).reg = (resetState build boot).reg :=
      (quiet_boot build boot).reg
    have hidle : (stateAfter build boot []).reg.usRunStatus = .idle := by
      rw [hboot]
      rfl
    cases htouch.symm.trans hidle
  | cons call past ih =>
    have htoggle := exec_runKey build call (stateAfter build boot past)
    change (call.exec build (stateAfter build boot past)).reg.usRunStatus = .touch at htouch
    change (call.exec build (stateAfter build boot past)).lcd.runKeyDown = true
    rw [htoggle]
    have hwas (hedge : call.runEdge = false) :
        (stateAfter build boot past).lcd.runKeyDown = true :=
      ih hpanel.2 (exec_touch build hedge hpanel.1 htouch)
    generalize stateAfter build boot past = s at htouch hwas ⊢
    cases hedge : call.runEdge with
    | true =>
      obtain ⟨f, -, heq⟩ := exec_runEdge build hedge s
      cases hdown : s.lcd.runKeyDown with
      | true =>
        rw [heq] at htouch
        cases htouch.symm.trans (runToggle_release f.tCmd hdown).1
      | false => rfl
    | false =>
      cases hanchors : call.reanchors s with
      | true => cases htouch.symm.trans (exec_reanchored build hanchors)
      | false => exact hwas hedge

theorem keysPaired_boot : KeysPaired build boot [] := by
  have hboot : (stateAfter build boot []).reg = (resetState build boot).reg :=
    (quiet_boot build boot).reg
  constructor
  · exact congrArg Screen.runKey (bootState_screen build boot)
  · rw [hboot]
    rintro ⟨⟩

theorem keysPaired_iff (history : List Call) (hpanel : always edgesOnly history) :
    always (KeysPaired build boot) history ↔ always (KeepsPaired build boot) history := by
  refine always_iff_always_given keysPaired_boot (fun call past _ hpast hpaired ↦ ?_) history hpanel
  exact exec_keyPaired build call hpaired (touchRun_down past hpast)

theorem press_needs_pair (call : Call) (past : List Call) :
    PressNeedsPair build boot (call :: past) := by
  rintro ⟨hedge, hup, hallowed⟩
  obtain ⟨f, -, heq⟩ := exec_runEdge build hedge (stateAfter build boot past)
  have hpaired : KeysPaired build boot past ↔
      (stateAfter build boot past).lcd.runKeyDown = false ∧
        (stateAfter build boot past).reg.swallowStart = false := by
    unfold KeysPaired
    rw [hup]
    refine ⟨fun h ↦ ⟨h.toggle, ?_⟩, fun h ↦ ⟨h.1, fun harmed ↦ ?_⟩⟩
    · by_contra harmed
      cases h.swallow (by simpa using harmed)
    · cases h.2.symm.trans harmed
  rw [hpaired]
  change (call.exec build (stateAfter build boot past)).reg.usRunStatus = .touch ↔ _
  rw [heq]
  cases hdown : (stateAfter build boot past).lcd.runKeyDown with
  | true =>
    refine iff_of_false (fun h ↦ ?_) (by rintro ⟨⟨⟩, -⟩)
    cases h.symm.trans (runToggle_release f.tCmd hdown).1
  | false =>
    rw [runToggle_press f.tCmd hdown hallowed]
    exact ⟨fun h ↦ ⟨rfl, h⟩, fun h ↦ h.2⟩

/-- Assumes: the panel reports its RUN key by edges. As long as no call re-anchors the toggle under
a held key and no release meets an armed swallow and a run, every press that finds the start gate
open starts a touch run. The toggle and the swallow then stay with the key, and they do so only
then; and an open press starts a touch run exactly if it finds them so. -/
theorem runPress_iff (build : Build) (boot : BootIn) (history : List Call)
    (hpanel : ∀ call ∈ history, call.olderPress = false) :
    (always (KeepsPaired build boot) history → always (PressServed build boot) history) ∧
      (always (KeysPaired build boot) history ↔ always (KeepsPaired build boot) history) ∧
      always (PressNeedsPair build boot) history := by
  have hedges : ∀ past : List Call, (∀ call ∈ past, call.olderPress = false) →
      always edgesOnly past := by
    intro past
    induction past with
    | nil => exact fun _ ↦ trivial
    | cons call past ih =>
      intro hpast
      rw [List.forall_mem_cons] at hpast
      exact ⟨hpast.1, ih hpast.2⟩
  have hiff := @keysPaired_iff build boot history (hedges history hpanel)
  refine ⟨fun hkeeps ↦ ?_, hiff, always_of_forall press_needs_pair history⟩
  have hpaired := hiff.mpr hkeeps
  clear hkeeps hiff hpanel
  induction history with
  | nil => trivial
  | cons call past ih =>
    have hpast := always_now keysPaired_boot past hpaired.2
    exact ⟨fun hpress ↦ (press_needs_pair call past hpress).mpr hpast, ih hpaired.2⟩

end Runs

/-! ### The press that is eaten -/

/-- An iteration at rest but for an edge of the RUN key. -/
def edgeIter (now : ℕ) : IterIn := { quietIter now with frames := [keyFrame 0x1080 0 now] }

/-- The panel turns to energy mode, with the least limit and a calibration that shows power. -/
def energyIter : IterIn := { quietIter 4020 with
  frames := [keyFrame 0x1410 20 4020, keyFrame 0x1202 1 4020, keyFrame 0x1085 1 4020] }

theorem keyHeld_append (recent base : List Call) :
    keyHeld (recent ++ base) = xor (keyHeld recent) (keyHeld base) := by
  induction recent with
  | nil => exact (Bool.false_xor _).symm
  | cons call past ih =>
    show xor call.runEdge (keyHeld (past ++ base)) = _
    rw [ih, ← Bool.xor_assoc]
    rfl

/-- Without an edge the key is not held, and nothing parts the records from it. -/
theorem keepsPaired_of_no_edge {build : Build} {boot : BootIn} (history : List Call)
    (hquiet : ∀ call ∈ history, call.runEdge = false) :
    keyHeld history = false ∧ always (KeepsPaired build boot) history := by
  induction history with
  | nil => exact ⟨rfl, trivial⟩
  | cons call past ih =>
    rw [List.forall_mem_cons] at hquiet
    obtain ⟨hup, hkeeps⟩ := ih hquiet.2
    refine ⟨by rw [keyHeld, hup, hquiet.1]; rfl, ⟨fun _ ↦ hup, fun hedge ↦ ?_⟩, hkeeps⟩
    cases hquiet.1.symm.trans hedge

/-- The quiet warm-up has no frames. -/
theorem quietRun_no_edge : ∀ call ∈ iterHistory (quietRun 401),
    call.runEdge = false ∧ call.olderPress = false := by
  refine quietRun_forall (fun now call hcall ↦ ?_) 401
  simp only [quietIter, IterIn.calls, List.map_nil, List.nil_append, List.mem_cons,
    List.not_mem_nil, or_false] at hcall
  rcases hcall with rfl | rfl | rfl | rfl | rfl | rfl | rfl | rfl | rfl | rfl | rfl <;>
    exact ⟨rfl, rfl⟩

theorem warmedRun_keyHeld (recent : List IterIn) (current : IterIn) (made : ℕ) :
    keyHeld (warmedRun recent current made).history =
      keyHeld ((current.calls.take made).reverse ++ iterHistory recent) := by
  have hquiet : keyHeld (iterHistory (quietRun 401)) = false :=
    (@keepsPaired_of_no_edge stdBuild (netBoot false) _
      fun call hcall ↦ (quietRun_no_edge call hcall).1).1
  rw [warmedRun_history, keyHeld_append, hquiet, Bool.xor_false]

/-- A first press behind the warm-up starts a touch run. -/
theorem firstPress_served :
    touchRun stdBuild (netBoot false) (warmedRun [energyIter] (edgeIter 4030) 1).history := by
  have hlast : (warmedRun [energyIter] (edgeIter 4030) 1).history =
      .frame (keyFrame 0x1080 0 4030) :: (warmedRun [energyIter] (edgeIter 4030) 0).history := rfl
  have hallowed : appRegStartAllowed (stateAfter stdBuild (netBoot false)
      (warmedRun [energyIter] (edgeIter 4030) 0).history) = true := by
    rw [stateAfter, warmedRun_after]
    decide +kernel
  have hpanel : ∀ call ∈ (warmedRun [energyIter] (edgeIter 4030) 1).history,
      call.olderPress = false :=
    warmedRun_forall (fun call hcall ↦ (quietRun_no_edge call hcall).2) (by decide +kernel)
  have hquiet : ∀ call ∈ (warmedRun [energyIter] (edgeIter 4030) 0).history,
      call.runEdge = false :=
    warmedRun_forall (fun call hcall ↦ (quietRun_no_edge call hcall).1) (by decide +kernel)
  rw [hlast] at hpanel ⊢
  obtain ⟨hup, hkeeps⟩ :=
    @keepsPaired_of_no_edge stdBuild (netBoot false) _ hquiet
  refine ((runPress_iff stdBuild (netBoot false) _ hpanel).1 ⟨⟨fun _ ↦ hup, fun _ hheld ↦ ?_⟩,
    hkeeps⟩).1 ⟨by decide +kernel, hup, hallowed⟩
  cases hup.symm.trans hheld

/-- A touch run ends by its energy while the key is held, the START line begins a run, and the
release of the key ends that one. -/
def crossedHold : List IterIn :=
  [{ edgeIter 4120 with input := ⟨4120, false, true, true, 4120⟩ },
    { quietIter 4110 with input := ⟨4110, false, true, true, 4110⟩ }] ++
    everyPeriod quietIter 4040 7 ++ [edgeIter 4030, energyIter]

/-- The next press finds the start gate open and starts nothing. -/
theorem crossedHold_eats :
    Chronological (warmedRun crossedHold (edgeIter 4140) 1).history ∧
      (∀ call ∈ (warmedRun crossedHold (edgeIter 4140) 1).history, call.olderPress = false) ∧
      ¬ PressServed stdBuild (netBoot false) (warmedRun crossedHold (edgeIter 4140) 1).history := by
  have hlast : (warmedRun crossedHold (edgeIter 4140) 1).history =
      .frame (keyFrame 0x1080 0 4140) :: (warmedRun crossedHold (edgeIter 4140) 0).history := rfl
  refine ⟨warmedRun_chronological _ _ _ ?_ ?_, warmedRun_forall
    (fun call hcall ↦ (quietRun_no_edge call hcall).2) ?_, fun hserved ↦ ?_⟩
  · decide +kernel
  · decide +kernel
  · decide +kernel
  · have hpress : openPress stdBuild (netBoot false)
        (warmedRun crossedHold (edgeIter 4140) 1).history := by
      rw [hlast]
      refine ⟨by decide +kernel, ?_, ?_⟩
      · rw [warmedRun_keyHeld]
        decide +kernel
      · rw [stateAfter, warmedRun_after]
        decide +kernel
    have hidle : appRegRunSrc (stateAfter stdBuild (netBoot false)
        (warmedRun crossedHold (edgeIter 4140) 1).history) = .idle := by
      rw [stateAfter, warmedRun_after]
      decide +kernel
    cases hidle.symm.trans (hserved hpress)

end UsCtrl
