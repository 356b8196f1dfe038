import UsCtrl.DgusWriters
import UsCtrl.PanelBars

/-!
# The panel behind the line

What the firmware draws (`PanelOut`) goes out as calls of the writers (`PanelOut.call`), among other
calls that write to other variables. `MemoryShows` says that the variables of a panel that has read
the line show a view. `wire_shows` is the refinement: in any run, the variables show the view that
the outputs draw, whatever else is written in between.
-/

set_option autoImplicit false
set_option relaxedAutoImplicit false

namespace UsCtrl

open Foundation

/-! ### Outputs as calls -/

/-- `LCD_LOGO .. LCD_SETUP_STDE`. -/
def LcdPage.id : LcdPage → UInt8
  | .logo => 0
  | .modelSetup => 1
  | .runMh => 3
  | .setupMulti => 5
  | .setupHand => 7
  | .runStd => 9
  | .setupStd1 => 10
  | .setupStd2d => 12
  | .setupStd2t => 13
  | .setupStd3 => 15
  | .warning => 17
  | .setupMh2 => 19
  | .setupMhc => 21
  | .setupStdc => 23
  | .setupMhe => 25
  | .setupStde => 27

/-- `ICON_RESET`, `ICON_SEEK`, `ICON_RUN`, `ICON_OL`, `ICON_OUTERR`, `DISP_REMOTE`. -/
def Icon.vp : Icon → UInt16
  | .reset => 0x1150
  | .seek => 0x1151
  | .run => 0x1152
  | .overload => 0x1153
  | .outerr => 0x1154
  | .remote => 0x120E

/-- The string constants of the messages. -/
def ErrorText.chars : ErrorText → List UInt8
  | .overLoad => [79, 86, 69, 82, 32, 76, 79, 65, 68]
  | .outputError => [79, 85, 84, 80, 85, 84, 32, 69, 82, 82, 79, 82]
  | .overTime => [79, 86, 69, 82, 32, 84, 73, 77, 69]
  | .estop => [69, 45, 83, 84, 79, 80]

/-- A string constant as an array; a zero ends it. -/
def ErrorText.txt (text : ErrorText) (i : ℕ) : UInt8 := text.chars.getD i 0

/-- The call of a writer that an output is. -/
def PanelOut.call : PanelOut → LcdCall
  | .page shown => .setPage shown.id
  | .icon lamp on => .writeU16 lamp.vp (if on then 1 else 0)
  | .message text => .writeText 0x1350 (some text.txt)
  | .workCnt count => .writeU32 0x1006 (UInt32.ofNat count)
  | .level first slots =>
    .writeU16Array (UInt16.ofNat (0x1170 + first)) (fun i ↦ if slots.getD i false then 1 else 0)
      (UInt8.ofNat slots.length)
  | .time first slots =>
    .writeU16Array (UInt16.ofNat (0x1184 + first)) (fun i ↦ if slots.getD i false then 1 else 0)
      (UInt8.ofNat slots.length)
  | .values power amp freq =>
    .writeU16Array 0x1110 (fun i ↦ UInt16.ofNat ([power, amp, freq].getD i 0)) 3
  | .energy amount => .writeU16 0x1113 (UInt16.ofNat amount)

/-! ### What the variables show -/

/-- A word of the panel that shows a part of a view; the counter has two of them, a message five. -/
inductive ViewCell
  | page
  | icon (icon : Icon)
  | message (index : Fin 5)
  | workCntHigh
  | workCntLow
  | level (slot : Fin 20)
  | time (slot : Fin 20)
  | power
  | amp
  | freq
  | energy
  deriving DecidableEq

/-- Where the word lies. That of the page lies behind `VP_LCD_SETPAGE`. -/
def ViewCell.vp : ViewCell → ℕ
  | .page => 0x85
  | .icon lamp => lamp.vp.toNat
  | .message index => 0x1350 + index
  | .workCntHigh => 0x1006
  | .workCntLow => 0x1007
  | .level slot => 0x1170 + slot
  | .time slot => 0x1184 + slot
  | .power => 0x1110
  | .amp => 0x1111
  | .freq => 0x1112
  | .energy => 0x1113

/-- Two characters of a message. -/
def ErrorText.word (text : ErrorText) (index : ℕ) : ℕ :=
  (textByte text.txt (2 * index)).toNat * 256 + (textByte text.txt (2 * index + 1)).toNat

/-- The word that shows a part of a view; numbers are shown as far as their words go. Before the
first message there is none. -/
def PanelView.word (view : PanelView) : ViewCell → Option ℕ
  | .page => some view.page.id.toNat
  | .icon lamp => some (view.icon lamp).toNat
  | .message index => view.message.map fun text ↦ text.word index
  | .workCntHigh => some (view.workCnt / 65536 % 65536)
  | .workCntLow => some (view.workCnt % 65536)
  | .level slot => some (view.level slot).toNat
  | .time slot => some (view.time slot).toNat
  | .power => some (view.power % 65536)
  | .amp => some (view.amp % 65536)
  | .freq => some (view.freq % 65536)
  | .energy => some (view.energy % 65536)

/-- The variables of the panel show a view. -/
def MemoryShows (memory : ℕ → ℕ) (view : PanelView) : Prop :=
  ∀ cell, ∀ word ∈ view.word cell, memory cell.vp = word

/-- All words that show a part of a view. -/
def viewCells : List ViewCell :=
  [.page, .workCntHigh, .workCntLow, .power, .amp, .freq, .energy] ++
    [.reset, .seek, .run, .overload, .outerr, .remote].map .icon ++
    (List.finRange 5).map .message ++ (List.finRange 20).map .level ++
    (List.finRange 20).map .time

/-- The call writes to one of these words. -/
def LcdCall.touchesView (call : LcdCall) : Bool :=
  viewCells.any fun cell ↦ (call.wordAt cell.vp).isSome

/-! ### The line -/

/-- The frames that a reader finds in bytes without a delay. -/
def readLine (bytes : List UInt8) : List DgusFrame :=
  delivered (bytes.map fun byte ↦ (0, byte)) dgusInit

/-- The panel's own move, as far as the firmware knows of it: the start page. -/
def landMemory (call : Call) (memory : ℕ → ℕ) : ℕ → ℕ :=
  if call.lands then Function.update memory 0x85 0 else memory

section Wire

variable (build : Build) (boot : BootIn) (held : PanelView) (resends : ℕ)

/-- The outputs of the newest call, or of the boot. -/
def newestOuts : List TimedCall → List PanelOut
  | [] =>
    .page .logo :: appLcdInitModeShows (bootState build boot) ++
      List.replicate resends (.page (runPageForMode (bootState build boot).cfg.modelType))
  | timed :: past => timed.outs build ((terminal build boot held resends).after past)

/-- The calls of the newest call of a run: its outputs in their order, among calls that write to
other variables. -/
structure CarriesOuts (line : List TimedCall → List LcdCall) : Prop where
  data : ∀ history, ∀ call ∈ line history, call.HasData
  outs : ∀ history, (line history).filter LcdCall.touchesView =
    (newestOuts build boot held resends history).map PanelOut.call

/-- The variables of the panel behind a run: it reads the bytes of every call. -/
def wireMemory (line : List TimedCall → List LcdCall) (memory : ℕ → ℕ) : List TimedCall → ℕ → ℕ
  | [] => panelMemory (readLine ((line []).flatMap LcdCall.sends)) memory
  | timed :: past =>
    panelMemory (readLine ((line (timed :: past)).flatMap LcdCall.sends))
      (landMemory timed.call (wireMemory line memory past))

end Wire

/-! ### Drawing -/

/-- The slots of a bar that an output writes lie on the bar. -/
def PanelOut.Fits : PanelOut → Prop
  | .level first slots | .time first slots =>
    slots ≠ [] ∧ slots.length ≤ 11 ∧ first + slots.length ≤ 20
  | _ => True

/-- The word that an output puts into a cell. -/
def PanelOut.puts (out : PanelOut) (cell : ViewCell) : Option ℕ :=
  match out, cell with
  | .page shown, .page => some shown.id.toNat
  | .icon lamp on, .icon other => if other = lamp then some on.toNat else none
  | .message text, .message index => some (text.word index)
  | .workCnt count, .workCntHigh => some (count / 65536 % 65536)
  | .workCnt count, .workCntLow => some (count % 65536)
  | .level first slots, .level slot =>
    if first ≤ slot ∧ (slot : ℕ) < first + slots.length
    then some (slots.getD (slot - first) false).toNat else none
  | .time first slots, .time slot =>
    if first ≤ slot ∧ (slot : ℕ) < first + slots.length
    then some (slots.getD (slot - first) false).toNat else none
  | .values power _ _, .power => some (power % 65536)
  | .values _ amp _, .amp => some (amp % 65536)
  | .values _ _ freq, .freq => some (freq % 65536)
  | .energy amount, .energy => some (amount % 65536)
  | _, _ => none

/-- Drawing an output changes the words it puts. -/
theorem draw_word (view : PanelView) (out : PanelOut) (cell : ViewCell) :
    (view.draw out).word cell = (out.puts cell).or (view.word cell) := by
  cases out with
  | icon lamp on =>
    cases cell with
    | icon other =>
      show some (if other = lamp then on else view.icon other).toNat = _
      unfold PanelOut.puts
      dsimp only
      split_ifs <;> rfl
    | _ => rfl
  | level first slots =>
    cases cell with
    | level slot =>
      show some (overwrite first slots view.level slot).toNat = _
      unfold PanelOut.puts overwrite
      dsimp only
      split_ifs <;> rfl
    | _ => rfl
  | time first slots =>
    cases cell with
    | time slot =>
      show some (overwrite first slots view.time slot).toNat = _
      unfold PanelOut.puts overwrite
      dsimp only
      split_ifs <;> rfl
    | _ => rfl
  | _ => cases cell <;> rfl

section Words

variable {start vp : ℕ} {words : List ℕ}

theorem wordsAt_elsewhere (count : ℕ) (hcount : words.length = count)
    (hout : vp < start ∨ start + count ≤ vp) : wordsAt start vp words = none := by
  unfold wordsAt
  split_ifs with hle
  · exact List.getElem?_eq_none (by omega)
  · rfl

theorem wordsAt_inside {index word : ℕ} (hvp : vp = start + index)
    (hword : words[index]? = some word) : wordsAt start vp words = some word := by
  rw [wordsAt, if_pos (by omega), ← hword, hvp, Nat.add_sub_cancel_left]

end Words

/-- The slots of a bar as the words of an array. -/
theorem slots_wordAt {base first : ℕ} {slots : List Bool} (hbase : base < 60000)
    (hfits : slots ≠ [] ∧ slots.length ≤ 11 ∧ first + slots.length ≤ 20) (vp : ℕ) :
    LcdCall.wordAt vp (.writeU16Array (UInt16.ofNat (base + first))
        (fun i ↦ if slots.getD i false then 1 else 0) (UInt8.ofNat slots.length)) =
      if base + first ≤ vp ∧ vp < base + first + slots.length
      then some (slots.getD (vp - (base + first)) false).toNat else none := by
  obtain ⟨-, hmost, hbar⟩ := hfits
  have hstart : (UInt16.ofNat (base + first)).toNat = base + first :=
    UInt16.toNat_ofNat_of_lt' (show base + first < 65536 by omega)
  have hlength : (UInt8.ofNat slots.length).toNat = slots.length :=
    UInt8.toNat_ofNat_of_lt' (show slots.length < 256 by omega)
  rw [LcdCall.wordAt, hstart, hlength, Nat.min_eq_left hmost]
  split_ifs with hinside
  · refine wordsAt_inside (show vp = base + first + (vp - (base + first)) by omega) ?_
    rw [List.getElem?_map, List.getElem?_range (by omega), Option.map_some]
    cases slots.getD (vp - (base + first)) false <;> rfl
  · refine wordsAt_elsewhere slots.length ?_ (by omega)
    rw [List.length_map, List.length_range]

/-- The variables of the icons lie together, apart from the one of the remote control. -/
theorem icon_vp (lamp : Icon) :
    (0x1150 ≤ lamp.vp.toNat ∧ lamp.vp.toNat ≤ 0x1154) ∨ lamp.vp.toNat = 0x120E := by
  cases lamp <;> decide

theorem icon_vp_inj {lamp other : Icon} (hsame : lamp.vp.toNat = other.vp.toNat) :
    lamp = other := by
  cases lamp <;> cases other <;> first | rfl | exact absurd hsame (by decide)

/-- Assumes: the output fits. Its call writes the words it puts. -/
theorem call_puts {out : PanelOut} (hfits : out.Fits) (cell : ViewCell) :
    out.call.wordAt cell.vp = out.puts cell := by
  cases out with
  | page shown =>
    show wordsAt 0x84 cell.vp [0x5A01, shown.id.toNat] = _
    cases cell with
    | page => rfl
    | icon lamp =>
      have hlamp := icon_vp lamp
      exact wordsAt_elsewhere 2 rfl (by dsimp only [ViewCell.vp]; omega)
    | _ => exact wordsAt_elsewhere 2 rfl (by dsimp only [ViewCell.vp]; omega)
  | icon lamp on =>
    have hlamp := icon_vp lamp
    have hword : (if on then 1 else 0 : UInt16).toNat = on.toNat := by cases on <;> rfl
    show wordsAt lamp.vp.toNat cell.vp [(if on then 1 else 0 : UInt16).toNat] = _
    rw [hword]
    cases cell with
    | icon other =>
      unfold PanelOut.puts
      dsimp only
      split_ifs with hsame
      · rw [hsame]
        exact wordsAt_inside (Nat.add_zero _).symm rfl
      · have hapart : other.vp.toNat ≠ lamp.vp.toNat := fun h ↦ hsame (icon_vp_inj h)
        exact wordsAt_elsewhere 1 rfl (by dsimp only [ViewCell.vp]; omega)
    | _ => exact wordsAt_elsewhere 1 rfl (by dsimp only [ViewCell.vp]; omega)
  | message text =>
    have hstart : text.txt 0 ≠ 0 := by cases text <;> decide
    show (if text.txt 0 = 0 then none
      else wordsAt 0x1350 cell.vp ((List.range 5).map text.word)) = _
    rw [if_neg hstart]
    cases cell with
    | message index =>
      refine wordsAt_inside rfl ?_
      rw [List.getElem?_map, List.getElem?_range index.isLt, Option.map_some]
    | icon lamp =>
      have hlamp := icon_vp lamp
      exact wordsAt_elsewhere 5 rfl (by dsimp only [ViewCell.vp]; omega)
    | _ => exact wordsAt_elsewhere 5 rfl (by dsimp only [ViewCell.vp]; omega)
  | workCnt count =>
    have hcount : (UInt32.ofNat count).toNat = count % 4294967296 := UInt32.toNat_ofNat'
    show wordsAt 0x1006 cell.vp
      [(UInt32.ofNat count).toNat / 65536, (UInt32.ofNat count).toNat % 65536] = _
    rw [hcount]
    cases cell with
    | workCntHigh => exact congrArg some (show count % 4294967296 / 65536 = _ by omega)
    | workCntLow => exact congrArg some (show count % 4294967296 % 65536 = _ by omega)
    | icon lamp =>
      have hlamp := icon_vp lamp
      exact wordsAt_elsewhere 2 rfl (by dsimp only [ViewCell.vp]; omega)
    | _ => exact wordsAt_elsewhere 2 rfl (by dsimp only [ViewCell.vp]; omega)
  | level first slots =>
    show LcdCall.wordAt cell.vp (.writeU16Array (UInt16.ofNat (0x1170 + first)) _ _) = _
    rw [slots_wordAt (by decide) hfits]
    have hbar : first + slots.length ≤ 20 := hfits.2.2
    cases cell with
    | level slot =>
      simp only [ViewCell.vp, PanelOut.puts, Nat.add_assoc, Nat.add_le_add_iff_left,
        Nat.add_lt_add_iff_left, Nat.add_sub_add_left]
    | icon lamp =>
      have hlamp := icon_vp lamp
      exact if_neg (by dsimp only [ViewCell.vp]; omega)
    | _ => exact if_neg (by dsimp only [ViewCell.vp]; omega)
  | time first slots =>
    show LcdCall.wordAt cell.vp (.writeU16Array (UInt16.ofNat (0x1184 + first)) _ _) = _
    rw [slots_wordAt (by decide) hfits]
    have hbar : first + slots.length ≤ 20 := hfits.2.2
    cases cell with
    | time slot =>
      simp only [ViewCell.vp, PanelOut.puts, Nat.add_assoc, Nat.add_le_add_iff_left,
        Nat.add_lt_add_iff_left, Nat.add_sub_add_left]
    | icon lamp =>
      have hlamp := icon_vp lamp
      exact if_neg (by dsimp only [ViewCell.vp]; omega)
    | _ => exact if_neg (by dsimp only [ViewCell.vp]; omega)
  | values power amp freq =>
    have hword (value : ℕ) : (UInt16.ofNat value).toNat = value % 65536 := UInt16.toNat_ofNat'
    show wordsAt 0x1110 cell.vp [(UInt16.ofNat power).toNat, (UInt16.ofNat amp).toNat,
      (UInt16.ofNat freq).toNat] = _
    rw [hword, hword, hword]
    cases cell with
    | power | amp | freq => rfl
    | icon lamp =>
      have hlamp := icon_vp lamp
      exact wordsAt_elsewhere 3 rfl (by dsimp only [ViewCell.vp]; omega)
    | _ => exact wordsAt_elsewhere 3 rfl (by dsimp only [ViewCell.vp]; omega)
  | energy amount =>
    have hword : (UInt16.ofNat amount).toNat = amount % 65536 := UInt16.toNat_ofNat'
    show wordsAt 0x1113 cell.vp [(UInt16.ofNat amount).toNat] = _
    rw [hword]
    cases cell with
    | energy => rfl
    | icon lamp =>
      have hlamp := icon_vp lamp
      exact wordsAt_elsewhere 1 rfl (by dsimp only [ViewCell.vp]; omega)
    | _ => exact wordsAt_elsewhere 1 rfl (by dsimp only [ViewCell.vp]; omega)

/-! ### Reading the line -/

/-- A frame that is read at one moment is in time. -/
theorem noTimeout_still (bytes : List UInt8) {parser : DgusParser}
    (hstart : parser.frameStartMs = 0) :
    NoTimeout (bytes.map fun byte ↦ (0, byte)) parser := by
  induction bytes generalizing parser with
  | nil => trivial
  | cons byte bytes ih =>
    refine ⟨fun _ ↦ ?_, ih ?_⟩
    · rw [hstart]
      show elapsedMs 0 0 ≤ 50
      decide
    · unfold parserStep
      cases parser.state with
      | idle | gotHeader | collecting =>
        dsimp only
        split_ifs <;> exact hstart
      | got5A =>
        dsimp only
        split_ifs
        · rfl
        · exact hstart
        · exact hstart

theorem readLine_memory {calls : List LcdCall} (hdata : ∀ call ∈ calls, call.HasData)
    (memory : ℕ → ℕ) :
    panelMemory (readLine (calls.flatMap LcdCall.sends)) memory = lcdMemory calls memory := by
  obtain ⟨frames, hvalid, hsame, hwords⟩ := calls_say calls hdata
  have hread : ((calls.flatMap LcdCall.sends).map fun byte ↦ ((0 : ℕ), byte)).map Prod.snd =
      frames.flatMap SentFrame.bytes := by
    rw [List.map_map, ← hsame]
    exact List.map_id _
  have hdelivered := (feed_sent hvalid hread (show dgusInit.state = .idle from rfl)
    (noTimeout_still _ rfl)).1
  rw [readLine, hdelivered, hwords]

/-- A variable holds the last word that one of the calls writes to it. -/
theorem lcdMemory_at (calls : List LcdCall) (memory : ℕ → ℕ) (vp : ℕ) :
    lcdMemory calls memory vp =
      (lastWrite (fun call : LcdCall ↦ call.wordAt vp) calls).getD (memory vp) :=
  foldl_cell (fun call : LcdCall ↦ call.wordAt vp)
    (fun memory call ↦ storeWords (fun vp ↦ call.wordAt vp) memory) (fun memory ↦ memory vp)
    (fun _ _ ↦ rfl) calls memory

theorem mem_viewCells (cell : ViewCell) : cell ∈ viewCells := by
  cases cell with
  | icon lamp => cases lamp <;> decide
  | message index => simp [viewCells]
  | level slot => simp [viewCells]
  | time slot => simp [viewCells]
  | _ => decide

/-- Calls that touch no word of a view do not matter to it. -/
theorem lcdMemory_filter (calls : List LcdCall) (memory : ℕ → ℕ) (cell : ViewCell) :
    lcdMemory calls memory cell.vp =
      lcdMemory (calls.filter LcdCall.touchesView) memory cell.vp := by
  rw [lcdMemory_at, lcdMemory_at]
  refine congrArg (fun last : Option ℕ ↦ last.getD (memory cell.vp)) ?_
  induction calls with
  | nil => rfl
  | cons call calls ih =>
    rw [lastWrite_cons, ih]
    by_cases htouches : call.touchesView = true
    · rw [List.filter_cons_of_pos htouches, lastWrite_cons]
    · have hnone : call.wordAt cell.vp = none := by
        by_contra hsome
        exact htouches (List.any_eq_true.mpr
          ⟨cell, mem_viewCells cell, Option.isSome_iff_ne_none.mpr hsome⟩)
      rw [List.filter_cons_of_neg htouches, hnone, Option.or_none]

/-- Assumes: the outputs fit. The calls that they are show what they draw. -/
theorem MemoryShows.draw {memory : ℕ → ℕ} {view : PanelView} {outs : List PanelOut}
    (hshows : MemoryShows memory view) (hfits : ∀ out ∈ outs, out.Fits) :
    MemoryShows (lcdMemory (outs.map PanelOut.call) memory) (view.drawAll outs) := by
  induction outs generalizing memory view with
  | nil => exact hshows
  | cons out outs ih =>
    refine @ih (storeWords (fun vp ↦ out.call.wordAt vp) memory) (view.draw out) ?_
      fun other hother ↦ hfits other (List.mem_cons_of_mem _ hother)
    intro cell word hword
    rw [draw_word] at hword
    rw [storeWords, call_puts (hfits out List.mem_cons_self)]
    cases hputs : out.puts cell with
    | some put =>
      rw [hputs] at hword
      exact Option.some.inj hword
    | none =>
      rw [hputs] at hword
      exact hshows cell word hword

/-- The panel's own move shows its start page. -/
theorem MemoryShows.land {memory : ℕ → ℕ} {view : PanelView} (hshows : MemoryShows memory view)
    (call : Call) : MemoryShows (landMemory call memory) (view.land call) := by
  unfold landMemory PanelView.land
  split_ifs
  · intro cell word hword
    rw [draw_word] at hword
    cases cell with
    | page => exact Option.some.inj hword
    | icon lamp =>
      have hlamp := icon_vp lamp
      rw [Function.update_of_ne (by dsimp only [ViewCell.vp]; omega)]
      exact hshows _ word hword
    | _ =>
      rw [Function.update_of_ne (by dsimp only [ViewCell.vp]; omega)]
      exact hshows _ word hword
  · exact hshows

/-! ### The outputs fit -/

theorem fiveSlots_fits (buf : ℕ → Bool) {first : ℕ} (hfirst : first ≤ 15) :
    fiveSlots buf first ≠ [] ∧ (fiveSlots buf first).length ≤ 11 ∧
      first + (fiveSlots buf first).length ≤ 20 := by
  have hlength : (fiveSlots buf first).length = 5 := rfl
  exact ⟨List.ne_nil_of_length_pos (by omega), by omega, by omega⟩

theorem dispSwitch_fits (m : LcdMeasure) (power : ℕ) (disp : DispState) :
    ∀ out ∈ (dispSwitch m power disp).2, out.Fits := by
  intro out hout
  unfold dispSwitch dispSendVal at hout
  split at hout
  all_goals
    simp only [List.cons_append, List.nil_append, List.mem_cons, List.not_mem_nil,
      or_false] at hout
  case h_8 =>
    rcases hout with rfl | rfl | rfl
    · trivial
    · trivial
    · exact fiveSlots_fits _ (by decide)
  all_goals
    subst hout
    exact fiveSlots_fits _ (by decide)

theorem ofCall_fits {out : PanelOut} (hkind : out.ofCall = true) : out.Fits := by
  cases out with
  | level | time => cases hkind
  | _ => trivial

theorem dispIconEdges_ofCall (runOn remoteOn : Bool) (disp : DispState) :
    (dispIconEdges runOn remoteOn disp).all PanelOut.ofCall = true := by
  unfold dispIconEdges
  split_ifs <;> rfl

section Runs

variable {build : Build} {boot : BootIn} {held : PanelView} {resends : ℕ}

theorem outs_fits (timed : TimedCall) (t : Terminal) : ∀ out ∈ timed.outs build t, out.Fits := by
  intro out hout
  rcases List.mem_append.mp hout with hshown | hdisp
  · exact ofCall_fits (List.all_eq_true.mp (shows_ofCall build timed.call t.sys) out hshown)
  · unfold TimedCall.disp dispTick appLcdDispStep at hdisp
    split at hdisp
    · split_ifs at hdisp
      · rcases List.mem_append.mp hdisp with hedge | hswitch
        · exact ofCall_fits (List.all_eq_true.mp (dispIconEdges_ofCall _ _ _) out hedge)
        · exact dispSwitch_fits _ _ _ out hswitch
      · cases hdisp
    · split_ifs at hdisp <;> cases hdisp
    · cases hdisp

theorem newestOuts_fits (history : List TimedCall) :
    ∀ out ∈ newestOuts build boot held resends history, out.Fits := by
  cases history with
  | nil =>
    intro out hout
    refine ofCall_fits ?_
    rcases List.mem_append.mp hout with hboot | hresent
    · exact List.all_eq_true.mp (show (PanelOut.page .logo ::
        appLcdInitModeShows (bootState build boot)).all PanelOut.ofCall = true from rfl) out hboot
    · rw [(List.mem_replicate.mp hresent).2]
      rfl
  | cons timed past => exact outs_fits timed _

/-- Assumes: the line carries the outputs. The bytes of the newest call show what it draws. -/
theorem CarriesOuts.step {line : List TimedCall → List LcdCall}
    (hline : CarriesOuts build boot held resends line) (history : List TimedCall)
    {memory : ℕ → ℕ} {view : PanelView} (hshows : MemoryShows memory view) :
    MemoryShows (panelMemory (readLine ((line history).flatMap LcdCall.sends)) memory)
      (view.drawAll (newestOuts build boot held resends history)) := by
  intro cell word hword
  have hdrawn := hshows.draw (newestOuts_fits history) cell word hword
  rw [readLine_memory (hline.data history), lcdMemory_filter, hline.outs history]
  exact hdrawn

end Runs

/-- Assumes: before the boot the variables of the panel show a view; the calls to the writers carry
the outputs of the controller in their order, among others that write elsewhere. Then, in every run,
the variables of a panel that reads the bytes of these calls show the view the outputs draw. -/
theorem wire_shows (build : Build) (boot : BootIn) (held : PanelView) (resends : ℕ)
    (line : List TimedCall → List LcdCall) (hline : CarriesOuts build boot held resends line)
    (memory : ℕ → ℕ) (hheld : MemoryShows memory held) (history : List TimedCall) :
    MemoryShows (wireMemory line memory history)
      ((terminal build boot held resends).after history).view := by
  induction history with
  | nil => exact hline.step [] hheld
  | cons timed past ih => exact hline.step (timed :: past) (ih.land timed.call)

/-! ### A line with nothing else -/

theorem call_hasData {out : PanelOut} (hfits : out.Fits) : out.call.HasData := by
  have hlength {first : ℕ} {slots : List Bool}
      (hbar : slots ≠ [] ∧ slots.length ≤ 11 ∧ first + slots.length ≤ 20) :
      UInt8.ofNat slots.length ≠ 0 := by
    intro hzero
    have hcount := congrArg UInt8.toNat hzero
    rw [UInt8.toNat_ofNat_of_lt' (show slots.length < 256 by omega)] at hcount
    exact hbar.1 (List.eq_nil_of_length_eq_zero hcount)
  cases out with
  | level => exact hlength hfits
  | time => exact hlength hfits
  | values => exact show (3 : UInt8) ≠ 0 by decide
  | _ => trivial

theorem call_touches {out : PanelOut} (hfits : out.Fits) : out.call.touchesView = true := by
  have htouches {cell : ViewCell} {word : ℕ} (hputs : out.puts cell = some word) :
      out.call.touchesView = true := by
    refine List.any_eq_true.mpr ⟨cell, mem_viewCells cell, ?_⟩
    rw [call_puts hfits, hputs]
    rfl
  cases out with
  | page => exact @htouches .page _ rfl
  | icon lamp => exact @htouches (.icon lamp) _ (if_pos rfl)
  | message => exact @htouches (.message 0) _ rfl
  | workCnt => exact @htouches .workCntHigh _ rfl
  | level first slots =>
    have hsome := List.length_pos_iff.mpr hfits.1
    have hbar := hfits.2.2
    exact @htouches (.level ⟨first, by omega⟩) _
      (if_pos ⟨le_rfl, show first < first + slots.length by omega⟩)
  | time first slots =>
    have hsome := List.length_pos_iff.mpr hfits.1
    have hbar := hfits.2.2
    exact @htouches (.time ⟨first, by omega⟩) _
      (if_pos ⟨le_rfl, show first < first + slots.length by omega⟩)
  | values => exact @htouches .power _ rfl
  | energy => exact @htouches .energy _ rfl

/-- The outputs alone. -/
def outsAlone (build : Build) (boot : BootIn) (held : PanelView) (resends : ℕ)
    (history : List TimedCall) : List LcdCall :=
  (newestOuts build boot held resends history).map PanelOut.call

theorem carriesOuts_alone (build : Build) (boot : BootIn) (held : PanelView) (resends : ℕ) :
    CarriesOuts build boot held resends (outsAlone build boot held resends) where
  data history call hcall := by
    obtain ⟨out, hout, rfl⟩ := List.mem_map.mp hcall
    exact call_hasData (newestOuts_fits history out hout)
  outs history := by
    refine List.filter_eq_self.mpr fun call hcall ↦ ?_
    obtain ⟨out, hout, rfl⟩ := List.mem_map.mp hcall
    exact call_touches (newestOuts_fits history out hout)

/-- A panel before anything is written to it. -/
def blankView : PanelView :=
  ⟨.logo, fun _ ↦ false, none, 0, fun _ ↦ false, fun _ ↦ false, 0, 0, 0, 0⟩

theorem blank_shows : MemoryShows (fun _ ↦ 0) blankView := by
  intro cell word hword
  cases cell with
  | message => cases hword
  | _ => exact Option.some.inj hword

/-- The first step of the display machine. -/
def firstStep : List TimedCall := [⟨.lcdTick, 4, 4⟩]

theorem wire_shows_blank :
    MemoryShows (wireMemory (outsAlone stdBuild factoryBoot blankView 2) (fun _ ↦ 0) firstStep)
      ((terminal stdBuild factoryBoot blankView 2).after firstStep).view :=
  wire_shows stdBuild factoryBoot blankView 2 _ (carriesOuts_alone _ _ _ _) _ blank_shows firstStep

end UsCtrl
