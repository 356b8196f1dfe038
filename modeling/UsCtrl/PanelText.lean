import UsCtrl.Foundation.Decimal
import UsCtrl.Config
import Mathlib.Logic.Function.Basic

/-!
# The numbers on the RUN page

`app_lcd_str.c` and the text lines of `app_lcd_run_std_refresh`. The formatters write into the
caller's buffer digit by digit (`StrBuf`); a digit in front is left out while it is zero. What a
buffer shows is known after each digit (`StrBuf.Shows`), so that a number is rendered right where
every branch has its zero. `energy2str` lacks the one of the ten thousands, and the sum of the two
multi times is cut to 16 bits before it is rendered: `rendering_faithful_iff`.
-/

set_option autoImplicit false
set_option relaxedAutoImplicit false

namespace UsCtrl

open Foundation

/-! ### The buffer of a formatter -/

/-- The destination of a formatter with its `pos` and `first_zero`. -/
structure StrBuf where
  dest : ℕ → ℕ
  pos : ℕ
  firstZero : Bool

/-- `dest[pos++] = char`. -/
def StrBuf.put (char : ℕ) (buf : StrBuf) : StrBuf :=
  { buf with dest := Function.update buf.dest buf.pos char, pos := buf.pos + 1 }

/-- The characters written. -/
def StrBuf.text (buf : StrBuf) : List ℕ := (List.range buf.pos).map buf.dest

@[simp] theorem StrBuf.put_firstZero (char : ℕ) (buf : StrBuf) :
    (buf.put char).firstZero = buf.firstZero := rfl

@[simp] theorem StrBuf.put_text (char : ℕ) (buf : StrBuf) :
    (buf.put char).text = buf.text ++ [char] := by
  have hbefore : (List.range buf.pos).map (Function.update buf.dest buf.pos char) = buf.text := by
    refine List.map_congr_left fun i hi ↦ Function.update_of_ne ?_ _ _
    exact (List.mem_range.mp hi).ne
  show (List.range (buf.pos + 1)).map (Function.update buf.dest buf.pos char) = _
  rw [List.range_succ, List.map_append, hbefore, List.map_singleton, Function.update_self]

theorem StrBuf.text_length (buf : StrBuf) : buf.text.length = buf.pos := by
  rw [StrBuf.text, List.length_map, List.length_range]

/-- A digit, which is stored as a `uint8_t`. -/
def StrBuf.digit (nibble : ℕ) (buf : StrBuf) : StrBuf := buf.put ((nibble + 48) % 256)

/-- The branch of a digit that has no zero case. -/
def StrBuf.leadDigit (nibble : ℕ) (buf : StrBuf) : StrBuf :=
  if nibble ≠ 0 then { buf.digit nibble with firstZero := true } else buf

/-- The branch of a digit that is left out while no digit stands in front of it. -/
def StrBuf.nextDigit (nibble : ℕ) (buf : StrBuf) : StrBuf :=
  if nibble ≠ 0 then { buf.digit nibble with firstZero := true }
  else if buf.firstZero then buf.put 48
  else buf

/-! ### The formatters -/

/-- `time2str`; the returned length is `pos`. -/
def time2str (src : ℕ) (dest : ℕ → ℕ) : StrBuf :=
  let buf := StrBuf.leadDigit (src / 10000 % 256) ⟨dest, 0, false⟩
  let tempI := src % 10000
  let buf := buf.nextDigit (tempI / 1000 % 256)
  let tempI := tempI % 1000
  let buf := buf.digit (tempI / 100 % 256)
  let tempI := tempI % 100
  let buf := buf.put 46
  let buf := buf.digit (tempI / 10 % 256)
  let tempI := tempI % 10
  (buf.digit tempI).put 0

/-- `energy2str`; the returned length is `pos`. -/
def energy2str (src : ℕ) (dest : ℕ → ℕ) : StrBuf :=
  let buf := StrBuf.leadDigit (src / 100000 % 256) ⟨dest, 0, false⟩
  let src := src % 100000
  let buf := buf.leadDigit (src / 10000 % 256)
  let tempI := src % 10000 % 65536
  let buf := buf.nextDigit (tempI / 1000 % 256)
  let tempI := tempI % 1000
  let buf := buf.nextDigit (tempI / 100 % 256)
  let tempI := tempI % 100
  let buf := buf.nextDigit (tempI / 10 % 256)
  let tempI := tempI % 10
  (buf.digit tempI).put 0

/-! ### The RUN page -/

/-- A write of the panel's variables. -/
inductive VpWrite
  | u16 (vp value : ℕ)
  | u32 (vp value : ℕ)
  | bytes (vp : ℕ) (data : List ℕ)
  deriving DecidableEq, Repr

/-- A letter, a colon and a number rendered behind them into the same buffer. -/
def stdLine (vp letter : ℕ) (buf : StrBuf) : VpWrite :=
  .bytes vp ([letter, 32, 58, 32] ++ buf.text)

/-- The second line: the energy or the weld time, which in multi mode is the sum of two. -/
def stdWeldLine (cfg : AppConfig) (limitTime2 : ℕ) (scratch : ℕ → ℕ) : VpWrite :=
  if cfg.energyCtrl then stdLine 0x1310 69 (energy2str cfg.limitEnergy scratch)
  else if cfg.multiCtrl then
    stdLine 0x1310 87 (time2str ((cfg.limitMoTime1 + cfg.limitMoTime2) % 65536) scratch)
  else stdLine 0x1310 87 (time2str limitTime2 scratch)

/-- `app_lcd_run_std_refresh`; `scratch` is what `&buf[4]` holds before. -/
def appLcdRunStdRefresh (scratch : ℕ → ℕ) (cfg : AppConfig) : List VpWrite :=
  [.u16 0x1203 cfg.limitDelayTime1, .u16 0x120c cfg.runMode, .u16 0x120d cfg.fSafty,
    .u16 0x120f cfg.limitOutTime] ++
  if cfg.runMode = 0 then
    [stdLine 0x1300 68 (time2str cfg.limitDelayTime1 scratch),
      stdWeldLine cfg cfg.limitDelayTime2 scratch,
      stdLine 0x1320 72 (time2str cfg.limitDelayTime3 scratch)]
  else if cfg.runMode = 1 then
    [.bytes 0x1300 [83, 69, 78, 83, 79, 82, 32, 79, 70, 70, 0],
      stdWeldLine cfg cfg.limitTriggerTime2 scratch,
      stdLine 0x1320 72 (time2str cfg.limitTriggerTime3 scratch)]
  else []

/-! ### What a buffer shows -/

/-- The digits written so far stand for a value, and none is written while it is zero. -/
structure StrBuf.Shows (buf : StrBuf) (value : ℕ) : Prop where
  digits : ∀ char ∈ buf.text, DecimalChar char
  value : decimalValue buf.text = value
  started : buf.firstZero = false → buf.text = []

theorem StrBuf.shows_start (dest : ℕ → ℕ) : StrBuf.Shows ⟨dest, 0, false⟩ 0 :=
  ⟨fun _ hmem ↦ absurd hmem List.not_mem_nil, rfl, fun _ ↦ rfl⟩

theorem StrBuf.digit_text {nibble : ℕ} (hnibble : nibble ≤ 9) (buf : StrBuf) :
    (buf.digit nibble).text = buf.text ++ [nibble + 48] := by
  rw [StrBuf.digit, StrBuf.put_text, Nat.mod_eq_of_lt (by omega)]

/-- A further digit. -/
theorem StrBuf.Shows.digit {buf : StrBuf} {value nibble : ℕ} (h : buf.Shows value)
    (hnibble : nibble ≤ 9) :
    (∀ char ∈ (buf.digit nibble).text, DecimalChar char) ∧
      decimalValue (buf.digit nibble).text = value * 10 + nibble := by
  rw [StrBuf.digit_text hnibble]
  constructor
  · intro char hmem
    rcases List.mem_append.mp hmem with hbefore | hnew
    · exact h.digits char hbefore
    · exact List.mem_singleton.mp hnew ▸ decimalChar_digit hnibble
  · rw [decimalValue_snoc, h.value, Nat.add_sub_cancel]

theorem StrBuf.Shows.marked {buf : StrBuf} {value nibble : ℕ} (h : buf.Shows value)
    (hnibble : nibble ≤ 9) :
    StrBuf.Shows { buf.digit nibble with firstZero := true } (value * 10 + nibble) :=
  ⟨(h.digit hnibble).1, (h.digit hnibble).2, fun hmark ↦ absurd hmark.symm Bool.false_ne_true⟩

/-- A branch with its zero case shows the next digit. -/
theorem StrBuf.Shows.next {buf : StrBuf} {value nibble : ℕ} (h : buf.Shows value)
    (hnibble : nibble ≤ 9) : (buf.nextDigit nibble).Shows (value * 10 + nibble) := by
  unfold StrBuf.nextDigit
  split_ifs with hdigit hmark
  · exact h.marked hnibble
  · obtain rfl : nibble = 0 := not_not.mp hdigit
    have hzero : (buf.digit 0).text = buf.text ++ [48] := StrBuf.digit_text (Nat.zero_le 9) buf
    have hnext := h.digit (Nat.zero_le 9)
    rw [hzero, ← StrBuf.put_text] at hnext
    exact ⟨hnext.1, hnext.2, fun hfirst ↦ absurd (hmark.symm.trans hfirst) Bool.false_ne_true.symm⟩
  · obtain rfl : nibble = 0 := not_not.mp hdigit
    have hempty := h.started (Bool.eq_false_of_not_eq_true hmark)
    have hvalue : value = 0 := by
      rw [← h.value, hempty]
      rfl
    rw [hvalue] at h ⊢
    exact h

/-- Assumes: the digit is not zero, or none stands in front of it. A branch without a zero case
shows the next digit. -/
theorem StrBuf.Shows.lead {buf : StrBuf} {value nibble : ℕ} (h : buf.Shows value)
    (hnibble : nibble ≤ 9) (hzero : nibble ≠ 0 ∨ value = 0) :
    (buf.leadDigit nibble).Shows (value * 10 + nibble) := by
  unfold StrBuf.leadDigit
  split_ifs with hdigit
  · exact h.marked hnibble
  · obtain rfl : nibble = 0 := not_not.mp hdigit
    rw [hzero.resolve_left hdigit] at h ⊢
    exact h

/-- At most `count` characters have been written, and nothing behind them. -/
structure StrBuf.Within (buf : StrBuf) (dest : ℕ → ℕ) (count : ℕ) : Prop where
  pos : buf.pos ≤ count
  behind : ∀ i, count ≤ i → buf.dest i = dest i

theorem StrBuf.within_start (dest : ℕ → ℕ) : StrBuf.Within ⟨dest, 0, false⟩ dest 0 :=
  ⟨le_rfl, fun _ _ ↦ rfl⟩

theorem StrBuf.Within.put {buf : StrBuf} {dest : ℕ → ℕ} {count : ℕ} (h : buf.Within dest count)
    (char : ℕ) : (buf.put char).Within dest (count + 1) := by
  refine ⟨Nat.succ_le_succ h.pos, fun i hi ↦ ?_⟩
  have hpos := h.pos
  have hafter : (buf.put char).dest i = buf.dest i := Function.update_of_ne (by omega) _ _
  rw [hafter]
  exact h.behind i (by omega)

theorem StrBuf.Within.stay {buf : StrBuf} {dest : ℕ → ℕ} {count : ℕ} (h : buf.Within dest count) :
    buf.Within dest (count + 1) :=
  ⟨Nat.le_succ_of_le h.pos, fun i hi ↦ h.behind i (by omega)⟩

theorem StrBuf.Within.lead {buf : StrBuf} {dest : ℕ → ℕ} {count : ℕ} (h : buf.Within dest count)
    (nibble : ℕ) : (buf.leadDigit nibble).Within dest (count + 1) := by
  unfold StrBuf.leadDigit
  have hput := h.put ((nibble + 48) % 256)
  split_ifs
  · exact ⟨hput.pos, hput.behind⟩
  · exact h.stay

theorem StrBuf.Within.next {buf : StrBuf} {dest : ℕ → ℕ} {count : ℕ} (h : buf.Within dest count)
    (nibble : ℕ) : (buf.nextDigit nibble).Within dest (count + 1) := by
  unfold StrBuf.nextDigit
  have hput := h.put ((nibble + 48) % 256)
  split_ifs
  · exact ⟨hput.pos, hput.behind⟩
  · exact h.put 48
  · exact h.stay

/-- The returned length counts the text and its terminating NUL, the caller's 16 bytes hold both,
and nothing is written behind them. -/
def StrBuf.Fits (buf : StrBuf) (dest : ℕ → ℕ) : Prop :=
  buf.pos = (cString buf.text).length + 1 ∧ buf.Within dest 16

/-! ### Times and energies -/

theorem digits_clean {text : List ℕ} (hdigits : ∀ char ∈ text, DecimalChar char) :
    ∀ char ∈ text, char ≠ 0 := by
  intro char hmem hzero
  exact absurd (hzero ▸ hdigits char hmem) (by decide)

/-- A text with its NUL counts one more. -/
theorem StrBuf.fits_of {buf : StrBuf} {dest : ℕ → ℕ} {text : List ℕ}
    (htext : buf.text = text ++ [0]) (hclean : ∀ char ∈ text, char ≠ 0) {count : ℕ}
    (hcount : count ≤ 16) (hwithin : buf.Within dest count) : buf.Fits dest := by
  refine ⟨?_, hwithin.pos.trans hcount, fun i hi ↦ hwithin.behind i (hcount.trans hi)⟩
  rw [htext, cString_terminated hclean, ← buf.text_length, htext, List.length_append,
    List.length_singleton]

/-- The digits of a time in their places. -/
theorem timeDigits_shows (dest : ℕ → ℕ) {d4 d3 d2 d1 d0 : ℕ} (h4 : d4 ≤ 9) (h3 : d3 ≤ 9)
    (h2 : d2 ≤ 9) (h1 : d1 ≤ 9) (h0 : d0 ≤ 9) :
    let buf := ((((((StrBuf.leadDigit d4 ⟨dest, 0, false⟩).nextDigit d3).digit d2).put 46).digit
      d1).digit d0).put 0
    parseHundredths (cString buf.text) =
        some (d4 * 10000 + d3 * 1000 + d2 * 100 + d1 * 10 + d0) ∧ buf.Fits dest := by
  have hlead := (StrBuf.shows_start dest).lead h4 (Or.inr rfl)
  obtain ⟨hdigits, hvalue⟩ := (hlead.next h3).digit h2
  have hwithin := ((StrBuf.within_start dest).lead d4).next d3
  have htext := StrBuf.digit_text h2 ((StrBuf.leadDigit d4 ⟨dest, 0, false⟩).nextDigit d3)
  generalize (StrBuf.leadDigit d4 ⟨dest, 0, false⟩).nextDigit d3 = front at *
  have hfilled : (front.digit d2).text ≠ [] := by
    rw [htext]
    exact List.append_ne_nil_of_right_ne_nil _ (List.cons_ne_nil _ _)
  have hall : (((((front.digit d2).put 46).digit d1).digit d0).put 0).text =
      ((front.digit d2).text ++ 46 :: [d1 + 48, d0 + 48]) ++ [0] := by
    rw [StrBuf.put_text, StrBuf.digit_text h0, StrBuf.digit_text h1, StrBuf.put_text]
    simp only [List.append_assoc, List.cons_append, List.nil_append]
  have hclean : ∀ char ∈ (front.digit d2).text ++ 46 :: [d1 + 48, d0 + 48], char ≠ 0 := by
    intro char hmem
    rcases List.mem_append.mp hmem with hwhole | hrest
    · exact digits_clean hdigits char hwhole
    · simp only [List.mem_cons, List.not_mem_nil, or_false] at hrest
      omega
  refine ⟨?_, StrBuf.fits_of hall hclean (by decide)
    (((((hwithin.put _).put _).put _).put _).put _)⟩
  rw [hall, cString_terminated hclean, parseHundredths_digits hfilled hdigits h1 h0, hvalue]
  refine congrArg some ?_
  omega

/-- A time is shown as its hundredths. -/
theorem time2str_shows {src : ℕ} (hsrc : src < 65536) (dest : ℕ → ℕ) :
    parseHundredths (cString (time2str src dest).text) = some src ∧
      (time2str src dest).Fits dest := by
  have hdigits := timeDigits_shows dest (show src / 10000 % 256 ≤ 9 by omega)
    (show src % 10000 / 1000 % 256 ≤ 9 by omega) (show src % 10000 % 1000 / 100 % 256 ≤ 9 by omega)
    (show src % 10000 % 1000 % 100 / 10 % 256 ≤ 9 by omega)
    (show src % 10000 % 1000 % 100 % 10 ≤ 9 by omega)
  refine ⟨hdigits.1.trans (congrArg some ?_), hdigits.2⟩
  omega

/-- The digits of an energy in their places, with what the branch of the ten thousands shows. -/
theorem energyDigits_shows (dest : ℕ → ℕ) {front : StrBuf} {value : ℕ} (hfront : front.Shows value)
    (hwithin : front.Within dest 2) {d3 d2 d1 d0 : ℕ} (h3 : d3 ≤ 9) (h2 : d2 ≤ 9) (h1 : d1 ≤ 9)
    (h0 : d0 ≤ 9) :
    let buf := ((((front.nextDigit d3).nextDigit d2).nextDigit d1).digit d0).put 0
    parseDecimal (cString buf.text) =
        some (value * 10000 + d3 * 1000 + d2 * 100 + d1 * 10 + d0) ∧ buf.Fits dest := by
  obtain ⟨hdigits, hvalue⟩ := (((hfront.next h3).next h2).next h1).digit h0
  have hlast := StrBuf.digit_text h0 (((front.nextDigit d3).nextDigit d2).nextDigit d1)
  have hinside := ((hwithin.next d3).next d2).next d1
  generalize ((front.nextDigit d3).nextDigit d2).nextDigit d1 = body at *
  have hclean := digits_clean hdigits
  have hall : ((body.digit d0).put 0).text = (body.digit d0).text ++ [0] := StrBuf.put_text _ _
  refine ⟨?_, StrBuf.fits_of hall hclean (by decide) ((hinside.put _).put _)⟩
  have hfilled : (body.digit d0).text ≠ [] := by
    rw [hlast]
    exact List.append_ne_nil_of_right_ne_nil _ (List.cons_ne_nil _ _)
  rw [hall, cString_terminated hclean, parseDecimal_digits hfilled hdigits, hvalue]
  refine congrArg some ?_
  omega

/-- What an energy of six digits is shown as: a zero in the place of the ten thousands is lost. -/
theorem energy2str_shows {src : ℕ} (hsrc : src < 1000000) (dest : ℕ → ℕ) :
    parseDecimal (cString (energy2str src dest).text) =
        some (if src / 100000 ≠ 0 ∧ src % 100000 / 10000 = 0 then
          src / 100000 * 10000 + src % 10000 else src) ∧
      (energy2str src dest).Fits dest := by
  have hfirst := (StrBuf.shows_start dest).lead (show src / 100000 % 256 ≤ 9 by omega)
    (Or.inr rfl)
  have hwithin := ((StrBuf.within_start dest).lead (src / 100000 % 256)).lead
    (src % 100000 / 10000 % 256)
  have h3 : src % 100000 % 10000 % 65536 / 1000 % 256 ≤ 9 := by omega
  have h2 : src % 100000 % 10000 % 65536 % 1000 / 100 % 256 ≤ 9 := by omega
  have h1 : src % 100000 % 10000 % 65536 % 1000 % 100 / 10 % 256 ≤ 9 := by omega
  have h0 : src % 100000 % 10000 % 65536 % 1000 % 100 % 10 ≤ 9 := by omega
  by_cases hlost : src / 100000 ≠ 0 ∧ src % 100000 / 10000 = 0
  · -- the ten thousands are zero behind a digit: nothing is written for them
    have hskip : (StrBuf.leadDigit (src / 100000 % 256) ⟨dest, 0, false⟩).leadDigit
        (src % 100000 / 10000 % 256) = StrBuf.leadDigit (src / 100000 % 256) ⟨dest, 0, false⟩ := by
      rw [StrBuf.leadDigit, if_neg (by omega)]
    have hdigits := energyDigits_shows dest (hskip.symm ▸ hfirst) hwithin h3 h2 h1 h0
    refine ⟨hdigits.1.trans (congrArg some ?_), hdigits.2⟩
    rw [if_pos hlost]
    omega
  · have hsecond := hfirst.lead (show src % 100000 / 10000 % 256 ≤ 9 by omega) (by omega)
    have hdigits := energyDigits_shows dest hsecond hwithin h3 h2 h1 h0
    refine ⟨hdigits.1.trans (congrArg some ?_), hdigits.2⟩
    rw [if_neg hlost]
    omega

/-! ### Faithful rendering -/

/-- The energy `energy` and the time `time` are rendered as what they are into a buffer that holds
them, and the weld line of a configuration in multi mode shows the sum of its two times. -/
structure RenderingFaithful (energy time time1 time2 : ℕ) : Prop where
  energyShown : ∀ dest, parseDecimal (cString (energy2str energy dest).text) = some energy
  timeShown : ∀ dest, parseHundredths (cString (time2str time dest).text) = some time
  fits : ∀ dest, (energy2str energy dest).Fits dest ∧ (time2str time dest).Fits dest
  sumShown : ∀ scratch (cfg : AppConfig), cfg.energyCtrl = false → cfg.multiCtrl = true →
    cfg.runMode = 0 ∨ cfg.runMode = 1 → cfg.limitMoTime1 = time1 → cfg.limitMoTime2 = time2 →
      ∃ text, VpWrite.bytes 0x1310 ([87, 32, 58, 32] ++ text) ∈ appLcdRunStdRefresh scratch cfg ∧
        parseHundredths (cString text) = some (time1 + time2)

/-- The weld line of a multi mode is the only text at its variable. -/
theorem stdWeldLine_unique {scratch : ℕ → ℕ} {cfg : AppConfig} (henergy : cfg.energyCtrl = false)
    (hmulti : cfg.multiCtrl = true) (hmode : cfg.runMode = 0 ∨ cfg.runMode = 1) (text : List ℕ) :
    VpWrite.bytes 0x1310 ([87, 32, 58, 32] ++ text) ∈ appLcdRunStdRefresh scratch cfg ↔
      text = (time2str ((cfg.limitMoTime1 + cfg.limitMoTime2) % 65536) scratch).text := by
  have hline (limitTime2 : ℕ) : stdWeldLine cfg limitTime2 scratch = stdLine 0x1310 87
      (time2str ((cfg.limitMoTime1 + cfg.limitMoTime2) % 65536) scratch) := by
    simp [stdWeldLine, henergy, hmulti]
  rcases hmode with hmode | hmode <;> simp [appLcdRunStdRefresh, hmode, hline, stdLine]

/-- For every energy that the configuration can hold and all times: the rendering is faithful
exactly if the energy is not 100000, whose second digit is lost, and the two multi times add up
without a wrap of 16 bits. -/
theorem rendering_faithful_iff {energy time time1 time2 : ℕ} (henergy : energy ≤ 100000)
    (htime : time < 65536) :
    RenderingFaithful energy time time1 time2 ↔ energy ≠ 100000 ∧ time1 + time2 < 65536 := by
  have hshows := energy2str_shows (show energy < 1000000 by omega)
  have hwrapped (scratch : ℕ → ℕ) :=
    (time2str_shows (Nat.mod_lt (time1 + time2) (show 0 < 65536 by decide)) scratch).1
  constructor
  · intro h
    constructor
    · rintro rfl
      have hlost := ((hshows fun _ ↦ 0).1).symm.trans (h.energyShown fun _ ↦ 0)
      exact absurd hlost (by decide)
    · obtain ⟨text, hmem, hsum⟩ := h.sumShown (fun _ ↦ 0) { appConfigFactoryDefaults with
        energyCtrl := false, multiCtrl := true, runMode := 0, limitMoTime1 := time1,
        limitMoTime2 := time2 } rfl rfl (Or.inl rfl) rfl rfl
      rw [(stdWeldLine_unique rfl rfl (Or.inl rfl) text).mp hmem] at hsum
      have hequal := Option.some.inj ((hwrapped fun _ ↦ 0).symm.trans hsum)
      omega
  · rintro ⟨hkept, hsum⟩
    refine ⟨fun dest ↦ ?_, fun dest ↦ (time2str_shows htime dest).1,
      fun dest ↦ ⟨(hshows dest).2, (time2str_shows htime dest).2⟩, ?_⟩
    · rw [(hshows dest).1, if_neg (by omega)]
    · intro scratch cfg hctrl hmulti hmode htime1 htime2
      refine ⟨_, (stdWeldLine_unique hctrl hmulti hmode _).mpr rfl, ?_⟩
      rw [htime1, htime2, hwrapped scratch, Nat.mod_eq_of_lt hsum]

/-- The largest energy below the one that is lost. -/
theorem energy99999_faithful : RenderingFaithful 99999 65535 2000 2000 :=
  (rendering_faithful_iff (by decide) (by decide)).mpr ⟨by decide, by decide⟩

/-- The factory default of the energy limit is shown as a tenth of it. -/
theorem factoryEnergy_lost :
    appConfigFactoryDefaults.limitEnergy = 100000 ∧
      parseDecimal (cString (energy2str 100000 fun _ ↦ 0).text) = some 10000 ∧
      ¬ RenderingFaithful 100000 0 25 50 := by
  have htext := (energy2str_shows (show 100000 < 1000000 by decide) fun _ ↦ 0).1
  refine ⟨rfl, htext, fun hfaithful ↦ ?_⟩
  exact absurd (htext.symm.trans (hfaithful.energyShown fun _ ↦ 0)) (by decide)

end UsCtrl
