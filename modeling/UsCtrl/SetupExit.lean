import UsCtrl.WarningPage

/-!
# Leaving the setup pages

SAVE and CANCEL leave a setup page for a run page that is chosen by the group of the page, as the
panel of the older machine did. The gate of the weld cycle compares the page with the machine mode
instead, and `app_lcd_in_run_page` calls that the test for a run page. The two do not always meet: a
run page can be shown with the weld cycle frozen.

`setupExit_iff` says exactly when they do: the group of the page has to fit the machine mode
(`ExitFits`). CANCEL on the model page goes to the page of the hand and multi models whatever model
it has just read back, and SAVE on their second page stays there when the model has been changed
under it. From any other setup page the exit fits along every run in which the panel does not open a
standard page on a hand or multi machine.
-/

set_option autoImplicit false
set_option relaxedAutoImplicit false

namespace UsCtrl

open Foundation

/-! ### The page an exit takes -/

theorem runPageForMode_manual (sysMode : ℕ) : runPageForMode sysMode = .runMh ↔ sysMode ≤ 1 := by
  unfold runPageForMode
  split_ifs with hhand hmulti
  · simp [hhand]
  · simp [hmulti]
  · simp only [false_iff]
    omega

theorem runPageForMode_standard (sysMode : ℕ) :
    runPageForMode sysMode = .runStd ↔ 2 ≤ sysMode := by
  unfold runPageForMode
  split_ifs with hhand hmulti
  · simp [hhand]
  · simp [hmulti]
  · simp only [true_iff]
    omega

theorem dataSaveGroup_page (s : Sys) :
    (dataSaveGroup s).lcd.lcdStatus = (match setupGroup s with
        | .model => runPageForMode s.cfg.modelType
        | .multi | .hand => .runMh
        | .std => .runStd
        | .other => s.lcd.lcdStatus) ∧
      (dataSaveGroup s).lcd.sysMode =
        if setupGroup s = .model then s.cfg.modelType else s.lcd.sysMode := by
  have hether (t : Sys) : (commitCommModeAndEther t).lcd.sysMode = t.lcd.sysMode := by
    rw [commitCommModeAndEther_eq]
  have hhorn (on : Bool) (t : Sys) : (appHornSetMode on t).lcd.sysMode = t.lcd.sysMode := by
    rw [appHornSetMode_eq]
  have hcount (t : Sys) : (commitCntReset t).lcd.sysMode = t.lcd.sysMode := by
    rw [commitCntReset_eq]
  unfold dataSaveGroup
  cases setupGroup s with
  | model => exact ⟨rfl, rfl⟩
  | multi => exact ⟨rfl, hether _⟩
  | hand => exact ⟨rfl, rfl⟩
  | std => exact ⟨rfl, (hether _).trans ((hhorn _ _).trans (hcount _))⟩
  | other => exact ⟨rfl, rfl⟩

/-- The model type a load finds: the stored one, or the factory default if the FRAM does not answer
or is blank. -/
def storedModelType (bus : I2cBus) (fram : Fram) : ℕ :=
  if bus.readOk 0 = true ∧ bus.readOk 18 = true ∧ fram 0 = framInitFlagMagic then fram 18 else 0

theorem modelType_loaded (bus : I2cBus) (fram : Fram) :
    (appConfigLoad bus fram).cfg.modelType = storedModelType bus fram := by
  unfold storedModelType
  cases hread : bus.readOk 0 with
  | false =>
    rw [appConfigLoad, if_pos hread, if_neg (by simp)]
    rfl
  | true =>
    by_cases hflag : fram 0 = framInitFlagMagic
    · rw [appConfigLoad_initialised hread hflag]
      show fieldOr (bus.readOk 18) (fram 18) 0 = _
      cases bus.readOk 18 <;> simp [fieldOr, hflag]
    · rw [appConfigLoad, if_neg (by simp [hread]), if_pos hflag, if_neg (by simp [hflag])]
      rfl

/-! ### When the exit meets the gate -/

/-- The exit a frame takes from a setup page fits the machine mode. From a standard page that is a
standard mode, from a page of the other models one of theirs; their second page must be left for the
live model too when it is saved, and the model page for the stored model when it is cancelled. -/
def ExitFits (f : FrameIn) (s : Sys) : Prop :=
  match s.lcd.lcdStatus.family with
  | some .model => f.word = 1 ∨ storedModelType f.bus s.fram ≤ 1
  | some .manual => s.lcd.sysMode ≤ 1 ∧
      (f.word = 1 → s.lcd.lcdStatus = .setupMh2 → s.cfg.modelType ≤ 1)
  | some .standard => 2 ≤ s.lcd.sysMode
  | none => False

theorem appLcdInRunPage_iff (s : Sys) :
    appLcdInRunPage s = true ↔ s.lcd.lcdStatus = runPageForMode s.lcd.sysMode :=
  decide_eq_true_iff

/-- A page change does not move the gate. -/
theorem changePage_runPage (tPage : ℕ) (s : Sys) :
    appLcdInRunPage (appLcdChangePage tPage s) = true ↔
      s.lcd.lcdStatus = runPageForMode s.lcd.sysMode := by
  obtain ⟨hscreen, hmode⟩ := changePage_screen tPage s
  rw [appLcdInRunPage_iff, hmode]
  exact Eq.congr_left (congrArg Screen.page hscreen)

theorem dataSaveCommit_runPage (f : FrameIn) {s : Sys} (hword : f.word = 1)
    (hsetup : s.lcd.lcdStatus.family ≠ none) :
    appLcdInRunPage (dataSaveCommit f.bus f.tPage s) = true ↔ ExitFits f s := by
  have hmanual (sysMode : ℕ) : LcdPage.runMh = runPageForMode sysMode ↔ sysMode ≤ 1 :=
    eq_comm.trans (runPageForMode_manual sysMode)
  have hstandard (sysMode : ℕ) : LcdPage.runStd = runPageForMode sysMode ↔ 2 ≤ sysMode :=
    eq_comm.trans (runPageForMode_standard sysMode)
  have hstuck (sysMode : ℕ) : LcdPage.setupMh2 ≠ runPageForMode sysMode := by
    rcases runPageForMode_run sysMode with hrun | hrun <;> rw [hrun] <;> rintro ⟨⟩
  obtain ⟨hpage, hmode⟩ := dataSaveGroup_page s
  rw [dataSaveCommit, changePage_runPage]
  show (dataSaveGroup s).lcd.lcdStatus = runPageForMode (dataSaveGroup s).lcd.sysMode ↔ _
  rw [hpage, hmode, ExitFits]
  cases hshown : s.lcd.lcdStatus with
  | modelSetup => simp [setupGroup, hshown, LcdPage.family, hword]
  | setupMulti | setupHand | setupMhc | setupMhe =>
    simp [setupGroup, hshown, LcdPage.family, hmanual]
  | setupMh2 =>
    by_cases hmulti : s.cfg.modelType = 1
    · simp [setupGroup, hshown, LcdPage.family, hmulti, hmanual]
    · by_cases hhand : s.cfg.modelType = 0
      · simp [setupGroup, hshown, LcdPage.family, hhand, hmanual]
      · have hforeign : ¬ s.cfg.modelType ≤ 1 := by omega
        simp [setupGroup, hshown, LcdPage.family, hmulti, hhand, hforeign, hword, hstuck]
  | setupStd1 | setupStd2d | setupStd2t | setupStd3 | setupStdc | setupStde =>
    simp [setupGroup, hshown, LcdPage.family, hstandard]
  | logo | runMh | runStd | warning =>
    rw [hshown] at hsetup
    exact absurd rfl hsetup

theorem dataSaveCancel_runPage (f : FrameIn) {s : Sys} (hword : f.word ≠ 1)
    (hsetup : s.lcd.lcdStatus.family ≠ none) :
    appLcdInRunPage (dataSaveCancel f.bus f.tPage s) = true ↔ ExitFits f s := by
  obtain ⟨-, -, hmode, hpage⟩ := cancelPage_turn { s.lcd with
    tempCommMode := 0xFF
    sysMode := if s.lcd.lcdStatus = .modelSetup then (appConfigLoad f.bus s.fram).cfg.modelType
      else s.lcd.sysMode }
  rw [dataSaveCancel, changePage_runPage]
  dsimp only at hmode hpage ⊢
  rw [hpage, hmode, modelType_loaded, ExitFits]
  cases hfamily : s.lcd.lcdStatus.family with
  | none => exact absurd hfamily hsetup
  | some family =>
    have hmodel : s.lcd.lcdStatus = .modelSetup ↔ family = .model := by
      cases hshown : s.lcd.lcdStatus <;> rw [hshown] at hfamily <;> cases hfamily <;> simp
    cases family with
    | model =>
      rw [if_pos (hmodel.mpr rfl)]
      simp [hword, eq_comm.trans (runPageForMode_manual _)]
    | manual =>
      rw [if_neg (fun h ↦ by cases hmodel.mp h)]
      simp [hword, eq_comm.trans (runPageForMode_manual _)]
    | standard =>
      rw [if_neg (fun h ↦ by cases hmodel.mp h)]
      exact eq_comm.trans (runPageForMode_standard _)

/-! ### Sessions -/

/-- The group of the shown page fits the machine mode. -/
def FamilyFits (lcd : LcdState) : Prop :=
  match lcd.lcdStatus.family with
  | some .manual => lcd.sysMode ≤ 1
  | some .standard => 2 ≤ lcd.sysMode
  | _ => True

/-- The call is a frame that turns to a standard setup page whatever page is shown. -/
def Call.opensStandard (call : Call) (s : Sys) : Bool :=
  match call with
  | .frame f => f.opensStandard s
  | _ => false

/-- The call does not open a standard page on a hand or multi machine. -/
def OpensFitting (call : Call) (s : Sys) : Prop :=
  call.opensStandard s = true → 2 ≤ s.lcd.sysMode

instance (call : Call) (s : Sys) : Decidable (OpensFitting call s) :=
  inferInstanceAs (Decidable (call.opensStandard s = true → 2 ≤ s.lcd.sysMode))

theorem setup1PageForMode_fits {lcd : LcdState}
    (hpage : lcd.lcdStatus = setup1PageForMode lcd.sysMode) : FamilyFits lcd := by
  unfold FamilyFits
  rw [hpage, setup1PageForMode]
  split_ifs with hhand hmulti
  · exact hhand.le.trans (by omega)
  · exact hmulti.le
  · show 2 ≤ lcd.sysMode
    omega

/-- A turn of the page keeps the fit, if the standard pages it opens do. -/
theorem PageTurn.fits {standard : Bool} {lcd lcd' : LcdState} (h : PageTurn standard lcd lcd')
    (hlcd : FamilyFits lcd) (hopens : standard = true → 2 ≤ lcd.sysMode) : FamilyFits lcd' := by
  unfold FamilyFits at hlcd ⊢
  cases h with
  | stay hpage hmode =>
    rw [hpage, hmode]
    exact hlcd
  | within family hbefore hafter hmode =>
    rw [hbefore] at hlcd
    rw [hafter, hmode]
    exact hlcd
  | setup hpage hmode => exact setup1PageForMode_fits (by rw [hpage, hmode])
  | model hpage => rw [hpage]; trivial
  | standard hstandard hafter hmode =>
    rw [hafter, hmode]
    exact hopens hstandard
  | run hpage => rcases hpage with hpage | hpage <;> rw [hpage] <;> trivial

/-- A call that is not of the panel keeps the machine mode. -/
theorem exec_sysMode (build : Build) {call : Call} (hkind : call.kind ≠ .frame) (s : Sys) :
    (call.exec build s).lcd.sysMode = s.lcd.sysMode := by
  by_cases hoff : call.offDesk = true
  · have hsheet := congrArg LcdState.sysMode (exec_desk build hoff s).sheet
    exact hsheet
  · cases call with
    | frame f => exact absurd rfl hkind
    | weldTick tick => exact congrArg LcdState.sysMode (lcd_weldTick tick s)
    | ethTick tick =>
      have hlcd := congrArg LcdState.sysMode (ethTick_desk tick s).2.2.2
      exact hlcd
    | modbusTick input =>
      have hsheet := congrArg LcdState.sysMode (modbusTick_desk build input s).sheet
      exact hsheet
    | _ => exact absurd rfl hoff

theorem Screen.released_page (screen : Screen) (estop : Bool) (sysMode : ℕ) :
    (screen.released estop sysMode).page = screen.page ∨
      (screen.released estop sysMode).page.family = none := by
  unfold Screen.released
  split_ifs
  · rcases runPageForMode_run sysMode with hrun | hrun
    · exact Or.inr (by rw [hrun]; rfl)
    · exact Or.inr (by rw [hrun]; rfl)
  · exact Or.inl rfl

/-- A call that is not of the panel leaves the page, or turns to a page outside the setup. -/
theorem exec_page (build : Build) {call : Call} (hkind : call.kind ≠ .frame) (s : Sys) :
    (call.exec build s).lcd.lcdStatus = s.lcd.lcdStatus ∨
      (call.exec build s).lcd.lcdStatus.family = none := by
  have hrun (sysMode : ℕ) : (runPageForMode sysMode).family = none := by
    rcases runPageForMode_run sysMode with hrun | hrun <;> rw [hrun] <;> rfl
  cases call with
  | frame f => exact absurd rfl hkind
  | lcdTick =>
    show (appLcdTick s).lcd.screen.page = _ ∨ (appLcdTick s).lcd.screen.page.family = none
    rw [lcdTick_screen]
    split_ifs
    · exact Or.inr rfl
    · exact Screen.released_page _ _ _
    · exact Or.inl rfl
  | overloadTick tick =>
    show (appOverloadTick tick s).lcd.screen.page = _ ∨
      (appOverloadTick tick s).lcd.screen.page.family = none
    rw [overloadTick_screen]
    split_ifs
    · exact Or.inl rfl
    · exact Or.inl rfl
    · exact Screen.released_page _ _ _
    · exact Or.inl rfl
  | inputTick tick =>
    show (appInputTick tick s).lcd.screen.page = _ ∨
      (appInputTick tick s).lcd.screen.page.family = none
    rw [inputTick_screen]
    split_ifs
    · exact Or.inl rfl
    · exact Or.inr rfl
    · exact Or.inr (hrun _)
    · exact Or.inl rfl
  | _ => exact Or.inl (congrArg Screen.page (exec_screen build rfl s))

/-- Every call that opens only fitting pages keeps the fit. -/
theorem exec_fits (build : Build) {call : Call} {s : Sys} (hs : FamilyFits s.lcd)
    (hopens : OpensFitting call s) : FamilyFits (call.exec build s).lcd := by
  by_cases hkind : call.kind = .frame
  · cases call with
    | frame f => exact (dispatch_screen f s).turn.fits hs hopens
    | _ => cases hkind
  · rcases exec_page build hkind s with hpage | hpage
    · unfold FamilyFits at hs ⊢
      rw [hpage, exec_sysMode build hkind s]
      exact hs
    · unfold FamilyFits
      rw [hpage]
      trivial

/-- Assumes: no frame of the run has opened a standard page on a hand or multi machine. Then the
group of the shown page fits the machine mode. -/
theorem session_fits (build : Build) (boot : BootIn) {history : List Call}
    (hsession : always (newest build boot fun call s _ ↦ OpensFitting call s) history) :
    FamilyFits (stateAfter build boot history).lcd := by
  induction history with
  | nil =>
    have hpage : (bootState build boot).lcd.lcdStatus.family = none := by
      rw [← screen_page, bootState_screen]
      rcases runPageForMode_run (bootState build boot).lcd.sysMode with hrun | hrun <;>
        rw [hrun] <;> rfl
    show FamilyFits (bootState build boot).lcd
    rw [FamilyFits, hpage]
    trivial
  | cons call past ih => exact exec_fits build (ih hsession.2) hsession.1

/-- Assumes: a setup page is shown, and the panel sends SAVE or CANCEL. The gate is open afterwards
exactly if the exit fits. Along a run in which no frame opens a standard page on a hand or multi
machine that leaves two cases: the model page is cancelled while a standard model is stored, and the
second page of the hand and multi models is saved while a standard model is live. -/
theorem setupExit_iff (build : Build) (boot : BootIn) (history : List Call) (f : FrameIn)
    (hsetup : (stateAfter build boot history).lcd.lcdStatus.family ≠ none)
    (hkey : f.key = some .dataSave) :
    (appLcdInRunPage (stateAfter build boot (.frame f :: history)) = true ↔
        ExitFits f (stateAfter build boot history)) ∧
      (always (newest build boot fun call s _ ↦ OpensFitting call s) history →
        (appLcdInRunPage (stateAfter build boot (.frame f :: history)) = true ↔
          ¬ (f.word ≠ 1 ∧ (stateAfter build boot history).lcd.lcdStatus = .modelSetup ∧
              2 ≤ storedModelType f.bus (stateAfter build boot history).fram) ∧
            ¬ (f.word = 1 ∧ (stateAfter build boot history).lcd.lcdStatus = .setupMh2 ∧
              2 ≤ (stateAfter build boot history).cfg.modelType))) := by
  have hexit : appLcdInRunPage (stateAfter build boot (.frame f :: history)) = true ↔
      ExitFits f (stateAfter build boot history) := by
    have hstate : stateAfter build boot (.frame f :: history) =
        panelKeyHandler .dataSave f.word f (stateAfter build boot history) := by
      show appLcdInputDispatch f (stateAfter build boot history) = _
      rw [appLcdInputDispatch, hkey]
    rw [hstate, panelKeyHandler]
    split_ifs with hword
    · exact dataSaveCommit_runPage f hword hsetup
    · exact dataSaveCancel_runPage f hword hsetup
  refine ⟨hexit, fun hsession ↦ hexit.trans ?_⟩
  have hfits := session_fits build boot hsession
  unfold FamilyFits at hfits
  unfold ExitFits
  generalize stateAfter build boot history = s at hsetup hfits ⊢
  cases hshown : s.lcd.lcdStatus <;> rw [hshown] at hsetup hfits <;>
    simp_all [LcdPage.family]
  all_goals omega

/-- An iteration with panel frames; the emergency switch of a standard machine is closed. -/
def frameIter (now : ℕ) (frames : List FrameIn) : IterIn :=
  { quietIter now with
    frames := frames
    input := ⟨now, true, true, false, now⟩ }

/-- SAVE on the first setup page of a hand machine. -/
def handSession : SuperloopRun where
  done := []
  current := frameIter 10 [keyFrame 0x1100 0 10, keyFrame 0x1050 1 10]
  made := 2

theorem handSession_reopens :
    appLcdInRunPage (stateAfter stdBuild serialBoot handSession.history) = true := by
  have hsplit : handSession.history = .frame (keyFrame 0x1050 1 10) :: handSession.history.tail :=
    rfl
  have hsession : always (newest stdBuild serialBoot fun call s _ ↦ OpensFitting call s)
      (handSession.history.tail ++ []) :=
    always_append (controller stdBuild serialBoot) OpensFitting (fun _ _ h ↦ h)
      (by decide +kernel) trivial
  rw [List.append_nil] at hsession
  rw [hsplit]
  exact ((setupExit_iff stdBuild serialBoot handSession.history.tail (keyFrame 0x1050 1 10)
    (by decide +kernel) rfl).2 hsession).mpr (by decide +kernel)

/-- A boot with a standard model stored. -/
def standardBoot : BootIn :=
  { factoryBoot with
    fram := fun addr ↦ if addr = 0 then 0xAA else if addr = 18 then 2 else 0
    bus := I2cBus.sound }

/-- A long press on a standard machine opens the model page, which is cancelled. -/
def modelSession : SuperloopRun where
  done := [frameIter 10 [keyFrame 0x1084 0 10]]
  current := frameIter 2010 [keyFrame 0x1084 0 2010, keyFrame 0x1050 0 2010]
  made := 2

/-- The cancel leaves the standard machine on the run page of the hand and multi models, and the
weld cycle frozen. -/
theorem modelSession_closes :
    ¬ ∀ (build : Build) (boot : BootIn) (history : List Call) (f : FrameIn),
      (stateAfter build boot history).lcd.lcdStatus.family ≠ none → f.key = some .dataSave →
        appLcdInRunPage (stateAfter build boot (.frame f :: history)) = true := by
  intro hreopens
  have hsplit : modelSession.history = .frame (keyFrame 0x1050 0 2010) ::
      modelSession.history.tail := rfl
  have hopen := hreopens stdBuild standardBoot modelSession.history.tail (keyFrame 0x1050 0 2010)
    (by decide +kernel) rfl
  rw [← hsplit] at hopen
  have hclosed : appLcdInRunPage (stateAfter stdBuild standardBoot modelSession.history) = false :=
    by decide +kernel
  rw [hclosed] at hopen
  cases hopen

end UsCtrl
