import UsCtrl.PanelPage
import UsCtrl.SignalChain

/-!
# The lamps of the panel

Six status icons, and every one of them is only written at an edge: RUN and REMOTE by the display
machine, RESET and SEEK by the resonance chain, OVERLOAD by the overload tick. OUTERR is never
switched on at all. Other calls put icons out in between: a panel reset runs `app_lcd_init_mode`,
which darkens RUN, RESET and SEEK whatever goes on, and the RESET key darkens OVERLOAD whatever the
overload does.

`exec_icon` says this of one call, and `icon_lit_iff` of every run: an icon is lit exactly if the
level behind it has been up since its last rise and nobody has put the icon out since then, or if
the panel came up with the icon lit and nothing has written it yet.
-/

set_option autoImplicit false
set_option relaxedAutoImplicit false

namespace UsCtrl

open Foundation

/-! ### The levels behind the icons -/

/-- The level that the edges of an icon are taken from: what the display machine has last seen of
the run and of the remote master, the legs of the resonance chain, and the overload. -/
def Icon.level (icon : Icon) (t : Terminal) : Bool :=
  match icon with
  | .run => t.disp.prevRunOn
  | .remote => t.disp.prevRemoteOn
  | .reset => decide (t.sys.seekReset.fsm.state = .reset)
  | .seek => decide (t.sys.seekReset.fsm.state = .seek)
  | .overload => appOverloadActive t.sys
  | .outerr => false

/-- The RESET key finds one of its two display bits. -/
def FrameIn.clearsBits (f : FrameIn) (s : Sys) : Bool :=
  decide (f.key = some .keyMulti) && decide (f.word = 1) &&
    (s.lcd.errorStatus.ovld || s.lcd.errorStatus.outerr)

/-- The call puts the icon out whatever its level. -/
def Icon.blankedBy (icon : Icon) (call : Call) (s : Sys) : Bool :=
  match icon, call with
  | .overload, .frame f | .outerr, .frame f => f.clearsBits s
  | .run, call | .reset, call | .seek, call => call.reinits s
  | _, _ => false

/-! ### What each call writes into an icon -/

/-- The last value that a list of outputs writes into an icon. -/
def iconWrite (icon : Icon) (outs : List PanelOut) : Option Bool :=
  lastWrite (PanelOut.icon? icon) outs

theorem iconWrite_append (icon : Icon) (first second : List PanelOut) :
    iconWrite icon (first ++ second) = (iconWrite icon second).or (iconWrite icon first) :=
  lastWrite_append _ first second

/-- The end of the paths that leave the warning page writes no icon. -/
theorem iconWrite_restore (icon : Icon) (s : Sys) : iconWrite icon (restoreShows s) = none := by
  unfold restoreShows
  split_ifs <;> rfl

/-- An output that is sent on a condition. -/
theorem iconWrite_cond (icon : Icon) (cond : Prop) [Decidable cond] (outs : List PanelOut) :
    iconWrite icon (if cond then outs else []) = if cond then iconWrite icon outs else none := by
  split_ifs <;> rfl

theorem iconWrite_keyReset (icon : Icon) (now : ℕ) (s : Sys) :
    iconWrite icon (handleKeyResetShows now s) =
      if (icon = .overload ∨ icon = .outerr) ∧
        (s.lcd.errorStatus.ovld = true ∨ s.lcd.errorStatus.outerr = true)
      then some false else none := by
  have hlcd : (appLcdHookUsCommand .reset now s).lcd = s.lcd := lcd_regCommand .reset .touch now s
  unfold handleKeyResetShows
  dsimp only
  rw [hlcd]
  by_cases hbits : s.lcd.errorStatus.ovld = true ∨ s.lcd.errorStatus.outerr = true
  · rw [if_pos hbits, iconWrite_append, iconWrite_restore]
    simp only [hbits, and_true]
    cases icon <;> rfl
  · rw [if_neg hbits, if_neg fun h ↦ hbits h.2]
    rfl

/-- A frame writes an icon only to put it out. -/
theorem iconWrite_frame (icon : Icon) (f : FrameIn) (s : Sys) :
    iconWrite icon (f.shows s) = if icon.blankedBy (.frame f) s then some false else none := by
  have hreinits : (Call.frame f).reinits s = true ↔ f.key = some .sysPicNow ∧ f.word = 0 ∧
      s.lcd.bootComplete = true ∧ elapsedMs f.tKey s.lcd.lastSetPageMs ≥ 200 := by
    simp [Call.reinits, Call.lands, FrameIn.lands, and_assoc]
  have hclears : f.clearsBits s = true ↔ f.key = some .keyMulti ∧ f.word = 1 ∧
      (s.lcd.errorStatus.ovld = true ∨ s.lcd.errorStatus.outerr = true) := by
    simp [FrameIn.clearsBits, and_assoc]
  have hother (hpic : f.key ≠ some .sysPicNow) (hmulti : f.key ≠ some .keyMulti) :
      (if icon.blankedBy (.frame f) s then some false else none) = none := by
    refine if_neg (Bool.eq_false_iff.mp ?_)
    cases icon <;> first
      | rfl
      | exact Bool.eq_false_iff.mpr fun h ↦ hpic (hreinits.mp h).1
      | exact Bool.eq_false_iff.mpr fun h ↦ hmulti (hclears.mp h).1
  unfold FrameIn.shows
  cases hkey : f.key with
  | none => rw [hother (by simp [hkey]) (by simp [hkey])]; rfl
  | some key =>
    cases key with
    | sysPicNow =>
      dsimp only
      unfold handleSysPicNowShows
      rw [iconWrite_cond]
      by_cases hreset : f.word = 0 ∧ s.lcd.bootComplete = true ∧
          elapsedMs f.tKey s.lcd.lastSetPageMs ≥ 200
      · have hruns : (Call.frame f).reinits s = true := hreinits.mpr ⟨hkey, hreset⟩
        have hclear : f.clearsBits s = false := by simp [FrameIn.clearsBits, hkey]
        rw [if_pos hreset]
        cases icon <;> simp [Icon.blankedBy, hruns, hclear] <;> rfl
      · have hruns : (Call.frame f).reinits s = false :=
          Bool.eq_false_iff.mpr fun h ↦ hreset (hreinits.mp h).2
        have hclear : f.clearsBits s = false := by simp [FrameIn.clearsBits, hkey]
        rw [if_neg hreset]
        cases icon <;> simp [Icon.blankedBy, hruns, hclear]
    | keyMulti =>
      have hruns : (Call.frame f).reinits s = false :=
        Bool.eq_false_iff.mpr fun h ↦ by
          rw [(hreinits.mp h).1] at hkey
          cases hkey
      have hclear : f.clearsBits s = (decide (f.word = 1) &&
          (s.lcd.errorStatus.ovld || s.lcd.errorStatus.outerr)) := by
        simp [FrameIn.clearsBits, hkey]
      dsimp only
      rw [iconWrite_cond, iconWrite_keyReset]
      by_cases hword : f.word = 1
      · cases icon <;> simp [Icon.blankedBy, hruns, hclear, hword]
      · cases icon <;> simp [Icon.blankedBy, hruns, hclear, hword]
    | setupParamMoohan | setupModel =>
      rw [hother (by simp [hkey]) (by simp [hkey])]
      dsimp only
      split_ifs <;> rfl
    | stdSetupParam =>
      rw [hother (by simp [hkey]) (by simp [hkey])]
      dsimp only
      unfold handleStdSetupParamShows
      split_ifs <;> rfl
    | runMode =>
      rw [hother (by simp [hkey]) (by simp [hkey])]
      dsimp only
      unfold handleRunModeShows
      split_ifs <;> rfl
    | keyErrorReset =>
      rw [hother (by simp [hkey]) (by simp [hkey])]
      dsimp only
      unfold handleKeyErrorResetShows
      dsimp only
      split_ifs
      · rfl
      · exact iconWrite_restore icon _
      · rfl
    | dataSave =>
      rw [hother (by simp [hkey]) (by simp [hkey])]
      dsimp only
      unfold dataSaveCommitShows
      split_ifs <;> rfl
    | _ =>
      rw [hother (by simp [hkey]) (by simp [hkey])]
      rfl

/-- The two icons of the display machine. -/
theorem iconWrite_dispStep (icon : Icon) (remoteOn : Bool) (m : LcdMeasure) (outputPower : ℕ)
    (disp : DispState) :
    iconWrite icon (appLcdDispStep remoteOn m outputPower disp).2 =
      match icon with
      | .run => if decide (m.usRunStatus ≠ .idle) ≠ disp.prevRunOn
          then some (decide (m.usRunStatus ≠ .idle)) else none
      | .remote => if remoteOn ≠ disp.prevRemoteOn then some remoteOn else none
      | _ => none := by
  have hedges (runOn : Bool) : iconWrite icon (dispIconEdges runOn remoteOn disp) =
      match icon with
      | .run => if runOn ≠ disp.prevRunOn then some runOn else none
      | .remote => if remoteOn ≠ disp.prevRemoteOn then some remoteOn else none
      | _ => none := by
    unfold dispIconEdges
    rw [iconWrite_append, iconWrite_cond, iconWrite_cond]
    cases icon <;> simp [iconWrite, PanelOut.icon?]
  have hswitch (disp : DispState) : iconWrite icon (dispSwitch m outputPower disp).2 = none := by
    unfold dispSwitch
    split <;> rfl
  unfold appLcdDispStep
  dsimp only
  rw [iconWrite_append, hswitch, Option.none_or]
  exact hedges _

/-- The icon of the overload tick. -/
theorem iconWrite_overloadTick (icon : Icon) (tick : OverloadTickIn) (s : Sys)
    (hactive : s.overload.active = s.overload.fsm.active) :
    iconWrite icon (appOverloadTickShows tick s) =
      if icon = .overload ∧ (appOverloadTick tick s).overload.active ≠ s.overload.active
      then some (appOverloadTick tick s).overload.active else none := by
  have hoff (t : Sys) : iconWrite icon (appLcdSetOverloadShows false t) =
      if icon = .overload then some false else none := by
    unfold appLcdSetOverloadShows
    rw [if_neg Bool.false_ne_true]
    dsimp only
    rw [← List.singleton_append, iconWrite_append, iconWrite_cond, iconWrite_restore, ite_self]
    cases icon <;> rfl
  have hevent : overloadEvent tick s = ⟨(overloadFsmStep tick.raw s.overload.fsm).1.active,
      (overloadFsmStep tick.raw s.overload.fsm).1.active && !s.overload.fsm.active,
      !(overloadFsmStep tick.raw s.overload.fsm).1.active && s.overload.fsm.active⟩ :=
    overloadFsmStep_event tick.raw s.overload.fsm
  rw [appOverloadTickShows_eq]
  rcases appOverloadTick_cases tick s with ⟨hdue, heq⟩ | ⟨hdue, hbody⟩
  · rw [hdue, heq, if_pos rfl, if_neg fun h ↦ h.2 rfl]
    rfl
  · have hafter : (appOverloadTick tick s).overload.active =
        (overloadFsmStep tick.raw s.overload.fsm).1.active := (hbody.frame .cycle).overload
    rw [hdue, hafter, hactive, hevent]
    cases (overloadFsmStep tick.raw s.overload.fsm).1.active <;> cases s.overload.fsm.active
    · simp [iconWrite]
    · simp [hoff]
    · cases icon <;> rfl
    · simp [iconWrite]

/-- The icons of the resonance chain: each is written where its leg begins or ends. -/
theorem iconWrite_seekResetTick (icon : Icon) (now : ℕ) (s : Sys) :
    iconWrite icon (appSeekResetTickShows now s) =
      match icon with
      | .reset =>
        if decide ((appSeekResetTick now s).seekReset.fsm.state = .reset) ≠
          decide (s.seekReset.fsm.state = .reset)
        then some (decide ((appSeekResetTick now s).seekReset.fsm.state = .reset)) else none
      | .seek =>
        if decide ((appSeekResetTick now s).seekReset.fsm.state = .seek) ≠
          decide (s.seekReset.fsm.state = .seek)
        then some (decide ((appSeekResetTick now s).seekReset.fsm.state = .seek)) else none
      | _ => none := by
  unfold appSeekResetTickShows appSeekResetTick
  cases seekResetDue now s with
  | false => cases icon <;> simp [iconWrite]
  | true =>
    have hicons := seekResetFsmStep_icons
      ⟨s.seekReset.pendingCmd, decide (publishedRun s ≠ .idle)⟩ s.seekReset.fsm
    simp only [if_true, seekResetBody, iconWrite_append, iconWrite_cond]
    generalize seekResetFsmStep _ s.seekReset.fsm = stepped at hicons
    obtain ⟨hreset, hresetOff, hseek, hseekOff⟩ := hicons
    simp only [hreset, hresetOff, hseek, hseekOff]
    cases stepped.1.state <;> cases s.seekReset.fsm.state <;> cases icon <;> rfl

/-! ### One call -/

/-- A call that is of neither tick with edges moves no level, and writes an icon only to put it
out. -/
theorem exec_icon_other (build : Build) {call : Call} (hlcd : call.kind ≠ .lcd)
    (hoverload : call.kind ≠ .overload) (hchain : call.kind ≠ .seekReset) (s : Sys) (icon : Icon) :
    iconWrite icon (call.shows build s) = if icon.blankedBy call s then some false else none := by
  cases call with
  | frame f => exact iconWrite_frame icon f s
  | lcdTick => exact absurd rfl hlcd
  | overloadTick => exact absurd rfl hoverload
  | seekResetTick => exact absurd rfl hchain
  | weldTick tick =>
    have hblank : icon.blankedBy (.weldTick tick) s = false := by cases icon <;> rfl
    rw [hblank]
    show iconWrite icon (appWeldTickShows tick s) = none
    unfold appWeldTickShows
    split_ifs <;> rfl
  | inputTick tick =>
    have hblank : icon.blankedBy (.inputTick tick) s = false := by cases icon <;> rfl
    rw [hblank]
    show iconWrite icon (appInputTickShows tick s) = none
    rw [appInputTickShows_eq]
    split_ifs <;> rfl
  | modbusTick input =>
    have hblank : icon.blankedBy (.modbusTick input) s = false := by cases icon <;> rfl
    rw [hblank]
    show iconWrite icon (appModbusTickShows build input s) = none
    unfold appModbusTickShows
    split
    · dsimp only
      split_ifs <;> rfl
    · rfl
  | _ => cases icon <;> rfl

/-- The levels of an icon that no owner has touched. -/
theorem level_of_sys {icon : Icon} {t t' : Terminal}
    (hchain : icon = .reset ∨ icon = .seek → t'.sys.seekReset.fsm = t.sys.seekReset.fsm)
    (hoverload : icon = .overload → t'.sys.overload.active = t.sys.overload.active)
    (hrun : icon = .run → t'.disp.prevRunOn = t.disp.prevRunOn)
    (hremote : icon = .remote → t'.disp.prevRemoteOn = t.disp.prevRemoteOn) :
    icon.level t' = icon.level t := by
  cases icon with
  | run => exact hrun rfl
  | remote => exact hremote rfl
  | reset =>
    exact congrArg (fun fsm : SeekResetFsm ↦ decide (fsm.state = .reset)) (hchain (Or.inl rfl))
  | seek =>
    exact congrArg (fun fsm : SeekResetFsm ↦ decide (fsm.state = .seek)) (hchain (Or.inr rfl))
  | overload => exact hoverload rfl
  | outerr => rfl

/-- The display machine takes its levels in its own tick. -/
theorem exec_level (build : Build) (timed : TimedCall) (t : Terminal) (icon : Icon)
    (hlcd : timed.call.kind ≠ .lcd) (hoverload : timed.call.kind ≠ .overload)
    (hchain : timed.call.kind ≠ .seekReset) :
    icon.level (timed.exec build t) = icon.level t := by
  have hframe := exec_frame build timed.call t.sys
  have hdisp : (timed.disp build t).1.prevRunOn = t.disp.prevRunOn ∧
      (timed.disp build t).1.prevRemoteOn = t.disp.prevRemoteOn := by
    unfold TimedCall.disp
    split
    · rename_i hcall
      rw [hcall] at hlcd
      exact absurd rfl hlcd
    · split_ifs <;> exact ⟨rfl, rfl⟩
    · exact ⟨rfl, rfl⟩
  exact level_of_sys (fun _ ↦ hframe.chain hchain) (fun _ ↦ (hframe.overload hoverload).1)
    (fun _ ↦ hdisp.1) (fun _ ↦ hdisp.2)

/-- A step of the display machine notes the levels it has taken. -/
theorem dispStep_levels (remoteOn : Bool) (m : LcdMeasure) (outputPower : ℕ) (disp : DispState) :
    (appLcdDispStep remoteOn m outputPower disp).1.prevRunOn = decide (m.usRunStatus ≠ .idle) ∧
      (appLcdDispStep remoteOn m outputPower disp).1.prevRemoteOn = remoteOn := by
  unfold appLcdDispStep dispSwitch
  dsimp only
  split <;> exact ⟨rfl, rfl⟩

/-- The icons of the panel tick are those of a due step of the display machine. -/
theorem iconWrite_dispTick (build : Build) (tDisp tRemote : ℕ) (icon : Icon) (t : Terminal) :
    let timed : TimedCall := ⟨.lcdTick, tDisp, tRemote⟩
    iconWrite icon (timed.disp build t).2 =
      if icon.level (timed.exec build t) ≠ icon.level t then
        some (icon.level (timed.exec build t))
      else if false = true then some false else none := by
  dsimp only
  have hframe := exec_frame build .lcdTick t.sys
  have hdisp : TimedCall.disp build ⟨.lcdTick, tDisp, tRemote⟩ t =
    dispTick ⟨.lcdTick, tDisp, tRemote⟩ (appLcdTick t.sys) t.disp := rfl
  have hafter : (TimedCall.exec build ⟨.lcdTick, tDisp, tRemote⟩ t).disp =
    (dispTick ⟨.lcdTick, tDisp, tRemote⟩ (appLcdTick t.sys) t.disp).1 := rfl
  rw [hdisp, if_neg Bool.false_ne_true]
  by_cases hdue : elapsedMs tDisp t.disp.prevMs ≥ 4
  · rw [dispTick, if_pos hdue] at hafter ⊢
    have hlevels := dispStep_levels (appModbusRemoteActive tRemote (appLcdTick t.sys))
      (appLcdTick t.sys).measure (appLcdTick t.sys).cfg.outputPower
      { t.disp with prevMs := tDisp }
    rw [← hafter] at hlevels
    rw [iconWrite_dispStep]
    cases icon with
    | run =>
      show _ = if (TimedCall.exec build _ t).disp.prevRunOn ≠ t.disp.prevRunOn then
        some (TimedCall.exec build _ t).disp.prevRunOn else none
      rw [hlevels.1]
    | remote =>
      show _ = if (TimedCall.exec build _ t).disp.prevRemoteOn ≠ t.disp.prevRemoteOn then
        some (TimedCall.exec build _ t).disp.prevRemoteOn else none
      rw [hlevels.2]
    | _ =>
      refine (if_neg (not_not.mpr (level_of_sys ?_ ?_ ?_ ?_))).symm
      · exact fun _ ↦ hframe.chain (by rintro ⟨⟩)
      · exact fun _ ↦ (hframe.overload (by rintro ⟨⟩)).1
      · rintro ⟨⟩
      · rintro ⟨⟩
  · rw [dispTick, if_neg hdue] at hafter ⊢
    refine (if_neg (not_not.mpr (level_of_sys ?_ ?_ ?_ ?_))).symm
    · exact fun _ ↦ hframe.chain (by rintro ⟨⟩)
    · exact fun _ ↦ (hframe.overload (by rintro ⟨⟩)).1
    · exact fun _ ↦ congrArg DispState.prevRunOn hafter
    · exact fun _ ↦ congrArg DispState.prevRemoteOn hafter

/-- An icon is written at the edges of its level, and where a call puts it out. -/
theorem exec_icon (build : Build) (timed : TimedCall) {t : Terminal}
    (hactive : t.sys.overload.active = t.sys.overload.fsm.active) (icon : Icon) :
    iconWrite icon (timed.outs build t) =
      if icon.level (timed.exec build t) ≠ icon.level t then
        some (icon.level (timed.exec build t))
      else if icon.blankedBy timed.call t.sys then some false else none := by
  have hframe := exec_frame build timed.call t.sys
  obtain ⟨call, tDisp, tRemote⟩ := timed
  by_cases hother : call.kind ≠ .lcd ∧ call.kind ≠ .overload ∧ call.kind ≠ .seekReset
  · obtain ⟨hlcd, hoverload, hchain⟩ := hother
    have hdisp : (TimedCall.disp build ⟨call, tDisp, tRemote⟩ t).2 = [] := by
      unfold TimedCall.disp
      split
      · rename_i hcall
        dsimp only at hcall
        rw [hcall] at hlcd
        exact absurd rfl hlcd
      · split_ifs <;> rfl
      · rfl
    rw [exec_level build _ t icon hlcd hoverload hchain, TimedCall.outs, hdisp, List.append_nil,
      exec_icon_other build hlcd hoverload hchain, if_neg (not_not.mpr rfl)]
  · cases call with
    | lcdTick =>
      have hfault : iconWrite icon (appLcdTickFaultShows t.sys) = none := by
        unfold appLcdTickFaultShows appLcdFaultClearedShows
        dsimp only
        split_ifs
        · rfl
        · exact iconWrite_restore icon _
        · rfl
        · rfl
      have hblank : icon.blankedBy .lcdTick t.sys = false := by cases icon <;> rfl
      rw [TimedCall.outs, iconWrite_append, show Call.shows build .lcdTick t.sys =
        appLcdTickFaultShows t.sys from rfl, hfault, Option.or_none, hblank]
      exact iconWrite_dispTick build tDisp tRemote icon t
    | overloadTick tick =>
      have hblank : icon.blankedBy (.overloadTick tick) t.sys = false := by cases icon <;> rfl
      rw [hblank, TimedCall.outs, show (TimedCall.disp build ⟨.overloadTick tick, tDisp, tRemote⟩
        t).2 = [] from rfl, List.append_nil]
      refine (iconWrite_overloadTick icon tick t.sys hactive).trans ?_
      by_cases hicon : icon = .overload
      · subst hicon
        simp only [true_and]
        rfl
      · have hsame : icon.level (TimedCall.exec build ⟨.overloadTick tick, tDisp, tRemote⟩ t) =
            icon.level t :=
          level_of_sys (fun _ ↦ hframe.chain (by rintro ⟨⟩)) (fun h ↦ absurd h hicon)
            (fun _ ↦ rfl) (fun _ ↦ rfl)
        rw [if_neg fun h ↦ hicon h.1, hsame, if_neg (not_not.mpr rfl)]
        rfl
    | seekResetTick now =>
      have hblank : icon.blankedBy (.seekResetTick now) t.sys = false := by cases icon <;> rfl
      rw [hblank, TimedCall.outs, show (TimedCall.disp build ⟨.seekResetTick now, tDisp, tRemote⟩
        t).2 = [] from rfl, List.append_nil]
      refine (iconWrite_seekResetTick icon now t.sys).trans ?_
      have hoverload := (hframe.overload (by rintro ⟨⟩)).1
      cases icon with
      | overload =>
        rw [show Icon.overload.level (TimedCall.exec build ⟨.seekResetTick now, tDisp, tRemote⟩ t) =
          Icon.overload.level t from hoverload, if_neg (not_not.mpr rfl)]
        rfl
      | run | remote | outerr => exact (if_neg (not_not.mpr rfl)).symm
      | reset | seek => rfl
    | _ => exact absurd ⟨by rintro ⟨⟩, by rintro ⟨⟩, by rintro ⟨⟩⟩ hother

/-! ### Runs -/

/-- A call that puts an icon out is a frame, and moves no level. -/
theorem blankedBy_level (build : Build) (timed : TimedCall) (t : Terminal) {icon : Icon}
    (hblank : icon.blankedBy timed.call t.sys = true) :
    icon.level (timed.exec build t) = icon.level t := by
  have hkind : timed.call.kind = .frame := by
    cases hcall : timed.call with
    | frame f => rfl
    | _ =>
      rw [hcall] at hblank
      cases icon <;> cases hblank
  exact exec_level build timed t icon (by rw [hkind]; rintro ⟨⟩) (by rw [hkind]; rintro ⟨⟩)
    (by rw [hkind]; rintro ⟨⟩)

section Runs

variable (build : Build) (boot : BootIn) (held : PanelView) (resends : ℕ)

/-- The newest call put the icon out whatever its level. -/
def blankedNow (icon : Icon) : Past TimedCall
  | [] => False
  | timed :: past =>
    icon.blankedBy timed.call (stateAfter build boot (past.map TimedCall.call)) = true

/-- The loop is entered with every level low. -/
theorem bootTerminal_level (icon : Icon) :
    icon.level (bootTerminal build boot held resends) = false := by
  have hboot := quiet_boot build boot
  cases icon with
  | reset | seek =>
    show decide ((bootState build boot).seekReset.fsm.state = _) = false
    rw [hboot.seekReset]
    rfl
  | overload => exact hboot.overload
  | run | remote | outerr => rfl

/-- `app_lcd_init_mode` has put three of the icons out; the others are as the panel came up. -/
theorem bootTerminal_icon (icon : Icon) :
    (bootTerminal build boot held resends).view.icon icon =
      if icon = .reset ∨ icon = .seek ∨ icon = .run then false else held.icon icon := by
  have hresent (page : LcdPage) : iconWrite icon (List.replicate resends (.page page)) = none :=
    lastWrite_eq_none _ fun out hout ↦ by
      rw [(List.mem_replicate.mp hout).2]
      rfl
  show (held.drawAll _).icon icon = _
  rw [drawAll_icon]
  show (iconWrite icon _).getD _ = _
  rw [iconWrite_append, hresent, Option.none_or]
  cases icon <;> rfl

/-- An icon follows the edges of its level, and goes out where a call puts it out. -/
theorem icon_edgeDriven (icon : Icon) :
    EdgeDriven (fun history ↦ icon.level ((terminal build boot held resends).after history))
      (fun history ↦ ((terminal build boot held resends).after history).view.icon icon)
      (blankedNow build boot icon) := by
  have hwritten (timed : TimedCall) (past : List TimedCall) :
      ((terminal build boot held resends).after (timed :: past)).view.icon icon =
        (iconWrite icon (timed.outs build ((terminal build boot held resends).after past))).getD
          (((terminal build boot held resends).after past).view.icon icon) := by
    have hland (view : PanelView) : (view.land timed.call).icon icon = view.icon icon := by
      unfold PanelView.land
      split_ifs <;> rfl
    rw [Machine.after_cons, ← hland ((terminal build boot held resends).after past).view]
    exact drawAll_icon icon (timed.outs build ((terminal build boot held resends).after past))
      (((terminal build boot held resends).after past).view.land timed.call)
  have hstep (timed : TimedCall) (past : List TimedCall) :=
    exec_icon build timed (t := (terminal build boot held resends).after past)
      (by rw [terminal_sys]; exact (after_coherent build boot _).overload) icon
  have hblank (timed : TimedCall) (past : List TimedCall)
      (hnow : blankedNow build boot icon (timed :: past)) :
      icon.blankedBy timed.call ((terminal build boot held resends).after past).sys = true := by
    rw [terminal_sys]
    exact hnow
  refine ⟨bootTerminal_level build boot held resends icon, ?_, ?_, ?_⟩
  · intro timed past hedge
    refine ⟨?_, fun hnow ↦ hedge (blankedBy_level build timed _ (hblank timed past hnow))⟩
    show ((terminal build boot held resends).after (timed :: past)).view.icon icon = _
    rw [hwritten, hstep]
    exact congrArg (Option.getD · _) (if_pos hedge)
  · intro timed past hnow
    show ((terminal build boot held resends).after (timed :: past)).view.icon icon = _
    have hlevel := blankedBy_level build timed _ (hblank timed past hnow)
    rw [hwritten, hstep, if_neg (not_not.mpr hlevel), if_pos (hblank timed past hnow)]
    rfl
  · intro timed past hlevel hnot
    show ((terminal build boot held resends).after (timed :: past)).view.icon icon = _
    have hkept : icon.blankedBy timed.call
        ((terminal build boot held resends).after past).sys ≠ true := by
      rw [terminal_sys]
      exact hnot
    have hlevel : icon.level (timed.exec build ((terminal build boot held resends).after past)) =
      icon.level ((terminal build boot held resends).after past) := hlevel
    rw [hwritten, hstep, if_neg (not_not.mpr hlevel), if_neg hkept]
    rfl

/-- An icon is lit exactly if its level has risen and neither fallen nor been put out since, or if
the panel came up with it lit, `app_lcd_init_mode` has not put it out, and neither has happened
yet. -/
theorem icon_lit_iff (icon : Icon) (history : List TimedCall) :
    ((terminal build boot held resends).after history).view.icon icon = true ↔
      since
          (fun past ↦ icon.level ((terminal build boot held resends).after past) = true ∧
            ¬ blankedNow build boot icon past)
          (risesTo fun past ↦ icon.level ((terminal build boot held resends).after past)) history ∨
        ((icon = .overload ∨ icon = .outerr ∨ icon = .remote) ∧ held.icon icon = true ∧
          always (fun past ↦ icon.level ((terminal build boot held resends).after past) = false ∧
            ¬ blankedNow build boot icon past) history) := by
  have hstart : ((terminal build boot held resends).after []).view.icon icon = true ↔
      (icon = .overload ∨ icon = .outerr ∨ icon = .remote) ∧ held.icon icon = true := by
    rw [Machine.after_nil]
    show (bootTerminal build boot held resends).view.icon icon = true ↔ _
    rw [bootTerminal_icon]
    cases icon <;> simp
  refine ((icon_edgeDriven build boot held resends icon).lit_iff history).trans ?_
  rw [hstart, and_assoc]

end Runs

end UsCtrl
