import UsCtrl.AddressBytes
import UsCtrl.WarmUp

/-!
# The long-press keys

Two keys act when they have been held for two seconds. The panel reports the press and the release
of such a key alike, and `long_press_released` pairs them by the variable that is marked as pressed,
with the time of the mark. Nothing but another report takes the mark back: a release that is never
reported leaves it, and the next press is taken for the release.

A run of the touch panel (`TouchEvent`) has presses, releases, and releases that get lost.
`longPress_real` says what the pairing is good for: as long as no press finds its key marked and no
release finds it unmarked (`Paired`), the action follows a release behind a long hold, and nothing
else. Reports that are all delivered, of one key at a time, are of that kind (`paired_of_tidy`).
-/

set_option autoImplicit false
set_option relaxedAutoImplicit false

namespace UsCtrl

open Foundation

/-! ### The keys -/

/-- The frame reports one of the two long-press keys. -/
def FrameIn.holdKey (f : FrameIn) : Bool :=
  decide (f.key = some .setupModel) || decide (f.key = some .setupParamMoohan)

/-- The frame lets the long-press action follow. -/
def FrameIn.longPressed (f : FrameIn) (s : Sys) : Bool :=
  f.holdKey && (longPressReleased f.vpAddr f.word f.tKey s.lcd).2

/-- What follows: the model setup, or the setup pages. -/
theorem dispatch_holdKey {f : FrameIn} (hkey : f.holdKey = true) (s : Sys) :
    ∃ enter : Sys → Sys, (enter = enterModelSetup ∨ enter = handleSetupParamEnter f.tPage) ∧
      appLcdInputDispatch f s =
        if f.longPressed s then
          enter { s with lcd := (longPressReleased f.vpAddr f.word f.tKey s.lcd).1 }
        else { s with lcd := (longPressReleased f.vpAddr f.word f.tKey s.lcd).1 } := by
  rw [FrameIn.longPressed, hkey, Bool.true_and]
  rcases Bool.or_eq_true_iff.mp hkey with hmodel | hmoohan
  · refine ⟨enterModelSetup, Or.inl rfl, ?_⟩
    rw [appLcdInputDispatch, of_decide_eq_true hmodel]
    rfl
  · refine ⟨handleSetupParamEnter f.tPage, Or.inr rfl, ?_⟩
    rw [appLcdInputDispatch, of_decide_eq_true hmoohan]
    rfl

/-- The mark and its time, after a frame of a long-press key. -/
theorem dispatch_mark {f : FrameIn} (hkey : f.holdKey = true) (s : Sys) :
    (appLcdInputDispatch f s).lcd.underway =
      (longPressReleased f.vpAddr f.word f.tKey s.lcd).1.underway := by
  obtain ⟨enter, henter, hdispatch⟩ := dispatch_holdKey hkey s
  rw [hdispatch]
  split_ifs
  · rcases henter with rfl | rfl
    · rfl
    · exact underway_setupParam f.tPage _
  · rfl

theorem FrameIn.holdKey_vp {f : FrameIn} (hkey : f.holdKey = true) : f.vpAddr ≠ 0 := by
  intro hzero
  have hnone : f.key = none := by
    rw [FrameIn.key, hzero]
    split_ifs <;> rfl
  rw [FrameIn.holdKey, hnone] at hkey
  cases hkey

/-! ### The touch panel -/

/-- What happens at the panel: a long-press key goes down or up and is reported, it goes up without
a report, or another call is made. -/
inductive TouchEvent
  | press (f : FrameIn)
  | release (f : FrameIn)
  | lost (vp : ℕ)
  | other (call : Call)

/-- The calls that the event makes. -/
def TouchEvent.calls : TouchEvent → List Call
  | .press f | .release f => [.frame f]
  | .lost _ => []
  | .other call => [call]

/-- When the key went down that is still held, by the clock read of the report. -/
def downSince (vp : ℕ) : List TouchEvent → Option ℕ
  | [] => none
  | .press f :: past => if f.vpAddr = vp then some f.tKey else downSince vp past
  | .release f :: past => if f.vpAddr = vp then none else downSince vp past
  | .lost key :: past => if key = vp then none else downSince vp past
  | .other _ :: past => downSince vp past

/-- The call reports no edge of a long-press key. -/
def Call.noEdge : Call → Bool
  | .frame f => !f.holdKey || (decide (f.word ≠ 0) && decide (f.word ≠ 2))
  | _ => true

/-- The newest event is possible: a key that goes down was up and one that goes up was down, both
are reported with the value 0, and nothing else reports an edge. -/
def Physical : Past TouchEvent
  | [] => True
  | .press f :: past => (f.holdKey = true ∧ f.word = 0) ∧ downSince f.vpAddr past = none
  | .release f :: past => (f.holdKey = true ∧ f.word = 0) ∧ downSince f.vpAddr past ≠ none
  | .lost vp :: past => downSince vp past ≠ none
  | .other call :: _ => call.noEdge = true

section Runs

variable (build : Build) (boot : BootIn)

/-- The state that the events leave. -/
def touchState (events : List TouchEvent) : Sys :=
  stateAfter build boot (events.flatMap TouchEvent.calls)

/-- The event lets the long-press action follow. -/
def TouchEvent.fires (event : TouchEvent) (s : Sys) : Bool :=
  match event with
  | .press f | .release f | .other (.frame f) => f.longPressed s
  | _ => false

/-- If the newest event lets the action follow, it is the release of a key that had been held for
`KEY_HOLD_MS`. -/
def RealLongPress : Past TouchEvent
  | [] => True
  | event :: past => event.fires (touchState build boot past) = true →
      ∃ f since, event = .release f ∧ downSince f.vpAddr past = some since ∧
        2000 ≤ elapsedMs f.tKey since

/-- The newest event, if it reports a press, finds its key unmarked, and if it reports a release,
finds it marked. -/
def Paired : Past TouchEvent
  | .press f :: past => (touchState build boot past).lcd.keyPressVp ≠ f.vpAddr
  | .release f :: past => (touchState build boot past).lcd.keyPressVp = f.vpAddr
  | _ => True

/-- The mark of a key that is down has the time of its press. -/
def MarkKnown (events : List TouchEvent) : Prop :=
  ∀ vp, vp ≠ 0 → (touchState build boot events).lcd.keyPressVp = vp → ∀ since,
    downSince vp events = some since → (touchState build boot events).lcd.keyPressMs = since

variable {build boot}

/-- Nothing else touches the mark. -/
theorem noEdge_mark {call : Call} (hcall : call.noEdge = true) (s : Sys) :
    (call.exec build s).lcd.keyPressVp = s.lcd.keyPressVp ∧
      (call.exec build s).lcd.keyPressMs = s.lcd.keyPressMs := by
  have hmark {lcd lcd' : LcdState} (hsame : lcd'.underway = lcd.underway) :
      lcd'.keyPressVp = lcd.keyPressVp ∧ lcd'.keyPressMs = lcd.keyPressMs :=
    ⟨congrArg Prod.fst hsame, congrArg (fun underway ↦ underway.2.1) hsame⟩
  by_cases hkind : call.kind = .frame
  · cases call with
    | frame f =>
      cases hkey : f.holdKey with
      | true =>
        rw [Call.noEdge, hkey, Bool.not_true, Bool.false_or, Bool.and_eq_true, decide_eq_true_eq,
          decide_eq_true_eq] at hcall
        refine hmark ((dispatch_mark hkey s).trans ?_)
        rw [longPressReleased, if_neg hcall.1, if_neg hcall.2]
      | false =>
        rw [FrameIn.holdKey, Bool.or_eq_false_iff, decide_eq_false_iff_not,
          decide_eq_false_iff_not] at hkey
        by_cases hether : f.key = some .etherKey
        · have hoff := etherKey_offEther f.word s
          have hdispatch : appLcdInputDispatch f s = handleEtherKey f.word s := by
            rw [appLcdInputDispatch, hether]
            rfl
          rw [Call.exec, hdispatch]
          have hvp := congrArg LcdState.keyPressVp hoff
          have hms := congrArg LcdState.keyPressMs hoff
          exact ⟨hvp, hms⟩
        · exact hmark (underway_dispatch hether hkey.2 hkey.1 s)
    | _ => cases hkind
  · have hview : SheetView fun lcd : LcdState ↦ (lcd.keyPressVp, lcd.keyPressMs) := fun _ ↦ rfl
    have hsame := exec_sheetView hview build hkind s
    exact ⟨congrArg Prod.fst hsame, congrArg Prod.snd hsame⟩

/-- A press that finds its key unmarked marks it, and lets nothing follow. -/
theorem press_marks {f : FrameIn} (hword : f.word = 0) {lcd : LcdState}
    (hmark : lcd.keyPressVp ≠ f.vpAddr) : longPressReleased f.vpAddr f.word f.tKey lcd =
      ({ lcd with keyPressVp := f.vpAddr, keyPressMs := f.tKey }, false) := by
  rw [longPressReleased, if_pos hword, if_pos hmark]

/-- A release that finds its key marked takes the mark, and the action follows a long hold. -/
theorem release_unmarks {f : FrameIn} (hword : f.word = 0) {lcd : LcdState}
    (hmark : lcd.keyPressVp = f.vpAddr) : longPressReleased f.vpAddr f.word f.tKey lcd =
      ({ lcd with keyPressVp := 0 }, decide (elapsedMs f.tKey lcd.keyPressMs ≥ 2000)) := by
  rw [longPressReleased, if_pos hword, if_neg (not_not.mpr hmark)]

theorem press_mark {f : FrameIn} (hkey : f.holdKey = true) (hword : f.word = 0) {s : Sys}
    (hmark : s.lcd.keyPressVp ≠ f.vpAddr) :
    (appLcdInputDispatch f s).lcd.keyPressVp = f.vpAddr ∧
      (appLcdInputDispatch f s).lcd.keyPressMs = f.tKey := by
  have hafter := dispatch_mark hkey s
  rw [press_marks hword hmark] at hafter
  exact ⟨congrArg Prod.fst hafter, congrArg (fun underway ↦ underway.2.1) hafter⟩

theorem release_mark {f : FrameIn} (hkey : f.holdKey = true) (hword : f.word = 0) {s : Sys}
    (hmark : s.lcd.keyPressVp = f.vpAddr) : (appLcdInputDispatch f s).lcd.keyPressVp = 0 := by
  have hafter := dispatch_mark hkey s
  rw [release_unmarks hword hmark] at hafter
  exact congrArg Prod.fst hafter

/-- An event that is paired keeps the time of the mark. -/
theorem markKnown_step {event : TouchEvent} {past : List TouchEvent}
    (hphysical : Physical (event :: past)) (hpaired : Paired build boot (event :: past))
    (h : MarkKnown build boot past) : MarkKnown build boot (event :: past) := by
  intro vp hvp hmarked since hsince
  cases event with
  | press f =>
    obtain ⟨⟨hkey, hword⟩, -⟩ := hphysical
    obtain ⟨hmark, htime⟩ := press_mark hkey hword hpaired
    rw [downSince, if_pos (hmark.symm.trans hmarked)] at hsince
    exact htime.trans (Option.some.inj hsince)
  | release f =>
    obtain ⟨⟨hkey, hword⟩, -⟩ := hphysical
    exact absurd (hmarked.symm.trans (release_mark hkey hword hpaired)) hvp
  | lost key =>
    rw [downSince] at hsince
    split_ifs at hsince
    exact h vp hvp hmarked since hsince
  | other call =>
    obtain ⟨hmark, htime⟩ := noEdge_mark hphysical (touchState build boot past)
    exact htime.trans (h vp hvp (hmark.symm.trans hmarked) since hsince)

/-- An event that is paired lets the action follow a long hold only. -/
theorem realLongPress_step {event : TouchEvent} {past : List TouchEvent}
    (hphysical : Physical (event :: past)) (hpaired : Paired build boot (event :: past))
    (h : MarkKnown build boot past) : RealLongPress build boot (event :: past) := by
  intro hfires
  cases event with
  | press f =>
    obtain ⟨⟨-, hword⟩, -⟩ := hphysical
    rw [TouchEvent.fires, FrameIn.longPressed, press_marks hword hpaired, Bool.and_false] at hfires
    cases hfires
  | release f =>
    obtain ⟨⟨hkey, hword⟩, hdown⟩ := hphysical
    obtain ⟨since, hsince⟩ := Option.ne_none_iff_exists'.mp hdown
    rw [TouchEvent.fires, FrameIn.longPressed, release_unmarks hword hpaired, Bool.and_eq_true,
      decide_eq_true_eq] at hfires
    have hknown := h f.vpAddr (FrameIn.holdKey_vp hkey) hpaired since hsince
    exact ⟨f, since, rfl, hsince, hknown ▸ hfires.2⟩
  | lost key => cases hfires
  | other call =>
    cases call with
    | frame f =>
      rw [Physical, Call.noEdge, Bool.or_eq_true, Bool.not_eq_true', Bool.and_eq_true,
        decide_eq_true_eq, decide_eq_true_eq] at hphysical
      rw [TouchEvent.fires, FrameIn.longPressed, Bool.and_eq_true] at hfires
      have hvalue := hphysical.resolve_left (ne_false_of_eq_true hfires.1)
      rw [longPressReleased, if_neg hvalue.1, if_neg hvalue.2] at hfires
      cases hfires.2
    | _ => cases hfires

/-! ### Tidy reports -/

variable (build boot) in
/-- A key is marked exactly if it is down. -/
def MarkTidy (events : List TouchEvent) : Prop :=
  ∀ vp, downSince vp events ≠ none ↔ vp ≠ 0 ∧ (touchState build boot events).lcd.keyPressVp = vp

/-- No report is lost, and a key that goes down finds every long-press key up. -/
def Tidy : Past TouchEvent
  | .press _ :: past => ∀ vp, downSince vp past = none
  | .lost _ :: _ => False
  | _ => True

theorem markTidy_start : MarkTidy build boot [] := by
  have hinit (s : Sys) : (appLcdInitMode boot.tPage s).lcd.keyPressVp = s.lcd.keyPressVp :=
    congrArg Prod.fst (underway_changePage boot.tPage _)
  have hboot : (touchState build boot []).lcd.keyPressVp = 0 := by
    show (bootState build boot).lcd.keyPressVp = 0
    rw [bootState, lcd_applyConfig]
    show (appLcdInitMode boot.tPage _).lcd.keyPressVp = 0
    rw [hinit]
    rfl
  intro vp
  rw [hboot]
  exact ⟨fun hdown ↦ absurd rfl hdown, fun h ↦ absurd h.2.symm h.1⟩

/-- A tidy report is paired, and leaves the marks tidy. -/
theorem markTidy_step {event : TouchEvent} {past : List TouchEvent}
    (hphysical : Physical (event :: past)) (htidy : Tidy (event :: past))
    (h : MarkTidy build boot past) :
    Paired build boot (event :: past) ∧ MarkTidy build boot (event :: past) := by
  cases event with
  | press f =>
    obtain ⟨⟨hkey, hword⟩, hup⟩ := hphysical
    have hunmarked : (touchState build boot past).lcd.keyPressVp ≠ f.vpAddr :=
      fun hmark ↦ (h f.vpAddr).mpr ⟨FrameIn.holdKey_vp hkey, hmark⟩ hup
    refine ⟨hunmarked, fun vp ↦ ?_⟩
    have hmark : (touchState build boot (.press f :: past)).lcd.keyPressVp = f.vpAddr :=
      (press_mark hkey hword hunmarked).1
    rw [hmark, downSince]
    split_ifs with hsame
    · exact ⟨fun _ ↦ ⟨hsame ▸ FrameIn.holdKey_vp hkey, hsame⟩, fun _ ↦ Option.some_ne_none _⟩
    · exact ⟨fun hdown ↦ absurd (htidy vp) hdown, fun hmarked ↦ absurd hmarked.2 hsame⟩
  | release f =>
    obtain ⟨⟨hkey, hword⟩, hdown⟩ := hphysical
    have hmarked := ((h f.vpAddr).mp hdown).2
    refine ⟨hmarked, fun vp ↦ ?_⟩
    have hmark : (touchState build boot (.release f :: past)).lcd.keyPressVp = 0 :=
      release_mark hkey hword hmarked
    rw [hmark, downSince]
    split_ifs with hsame
    · exact ⟨fun hnone ↦ absurd rfl hnone, fun hzero ↦ absurd hzero.2.symm hzero.1⟩
    · exact ⟨fun hheld ↦ absurd (hmarked.symm.trans ((h vp).mp hheld).2) hsame,
        fun hzero ↦ absurd hzero.2.symm hzero.1⟩
  | lost key => exact absurd htidy id
  | other call =>
    have hmark : (touchState build boot (.other call :: past)).lcd.keyPressVp =
      (touchState build boot past).lcd.keyPressVp := (noEdge_mark hphysical _).1
    refine ⟨trivial, fun vp ↦ ?_⟩
    rw [hmark]
    exact h vp

/-- Reports that are all delivered, of one key at a time, are paired. -/
theorem paired_of_tidy (events : List TouchEvent) (hphysical : always Physical events)
    (htidy : always Tidy events) : always (Paired build boot) events := by
  have hboth : always (Paired build boot) events ∧ MarkTidy build boot events := by
    induction events with
    | nil => exact ⟨trivial, markTidy_start⟩
    | cons event past ih =>
      obtain ⟨hpaired, hmark⟩ := ih hphysical.2 htidy.2
      obtain ⟨hnow, hmark'⟩ := markTidy_step hphysical.1 htidy.1 hmark
      exact ⟨⟨hnow, hpaired⟩, hmark'⟩
  exact hboth.1

end Runs

/-- Assumes: the events are possible, and each report of a press finds its key unmarked, each report
of a release finds it marked. Then the long-press action follows the release of a key that had been
held for `KEY_HOLD_MS`, and nothing else. -/
theorem longPress_real (build : Build) (boot : BootIn) (events : List TouchEvent)
    (hphysical : always Physical events) (hpaired : always (Paired build boot) events) :
    always (RealLongPress build boot) events := by
  have hboth : always (RealLongPress build boot) events ∧ MarkKnown build boot events := by
    induction events with
    | nil =>
      refine ⟨trivial, fun vp _ _ since hsince ↦ ?_⟩
      cases hsince
    | cons event past ih =>
      obtain ⟨hreal, hknown⟩ := ih hphysical.2 hpaired.2
      exact ⟨⟨realLongPress_step hphysical.1 hpaired.1 hknown, hreal⟩,
        markKnown_step hphysical.1 hpaired.1 hknown⟩
  exact hboth.1

/-- The model key is held for two seconds. -/
def heldModelKey : List TouchEvent :=
  [.release (keyFrame 0x1084 0 3000), .press (keyFrame 0x1084 0 1000)]

theorem heldModelKey_real : always (RealLongPress stdBuild factoryBoot) heldModelKey ∧
    (touchState stdBuild factoryBoot heldModelKey).lcd.lcdStatus = .modelSetup := by
  refine ⟨longPress_real stdBuild factoryBoot heldModelKey ?_ ?_, by decide +kernel⟩
  · refine ⟨⟨⟨?_, ?_⟩, ?_⟩, ⟨⟨?_, ?_⟩, ?_⟩, trivial⟩ <;> decide +kernel
  · refine ⟨?_, ?_, trivial⟩
    · show (touchState stdBuild factoryBoot _).lcd.keyPressVp = 0x1084
      decide +kernel
    · show (touchState stdBuild factoryBoot _).lcd.keyPressVp ≠ 0x1084
      decide +kernel

/-- The panel restarts while the model key is held, so that its release is lost; later the key is
tapped. -/
def tappedModelKey : List TouchEvent :=
  [.press (keyFrame 0x1084 0 4000), .lost 0x1084, .other (.frame (keyFrame 0x0014 0 1500)),
    .press (keyFrame 0x1084 0 1000)]

/-- The tap opens the model setup, at its press. -/
theorem tappedModelKey_fires : always Physical tappedModelKey ∧
    (touchState stdBuild factoryBoot (tappedModelKey.drop 2)).lcd.lastSetPageMs = 1500 ∧
    (touchState stdBuild factoryBoot tappedModelKey).lcd.lcdStatus = .modelSetup ∧
    ¬ always (RealLongPress stdBuild factoryBoot) tappedModelKey := by
  refine ⟨?_, by decide +kernel, by decide +kernel, fun hreal ↦ ?_⟩
  · have hlost : downSince 0x1084 (tappedModelKey.drop 2) ≠ none := by decide
    have hrestart : (Call.frame (keyFrame 0x0014 0 1500)).noEdge = true := by decide
    refine ⟨⟨⟨?_, ?_⟩, ?_⟩, hlost, hrestart, ⟨⟨?_, ?_⟩, ?_⟩, trivial⟩ <;> decide +kernel
  · obtain ⟨f, since, hrelease, -⟩ := hreal.1 (by decide +kernel)
    cases hrelease

end UsCtrl
