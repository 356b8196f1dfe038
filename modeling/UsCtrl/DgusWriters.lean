import UsCtrl.DgusParser

/-!
# The writers of the display line

The functions of `dgus_lcd.c` that send a frame. What such a call means is the words it leaves in
the variables of the panel (`LcdCall.wordAt`): numbers lie high byte first in consecutive variables,
lengths are cut to what a frame holds, and a text fills five variables behind its end with zeros.

`line_memory` reads the line back. Whatever the calls, in whatever order, the frames that their
bytes deliver to an idle reader, none of them late, leave exactly these words, and no call overruns
the send buffer. The one exception is a length of zero (`LcdCall.HasData`): the frame it sends is
too short for a reader.
-/

set_option autoImplicit false
set_option relaxedAutoImplicit false

namespace UsCtrl

/-! ### `dgus_lcd.c` -/

/-- `DGUS_CMD_WR`, `DGUS_CMD_RD`. -/
def dgusCmdWr : UInt8 := 0x82

def dgusCmdRd : UInt8 := 0x83

/-- `VP_LCD_RESET`, `VP_LCD_SETPAGE`, `SYS_PIC_NOW`. -/
def vpLcdReset : UInt16 := 0x0004

def vpLcdSetpage : UInt16 := 0x0084

def sysPicNow : UInt16 := 0x0014

/-- `dgus_reset_lcd`. -/
def dgusResetLcd : List UInt8 := sendFrame dgusCmdWr vpLcdReset [0x55, 0xAA, 0x5A, 0xA5]

/-- `dgus_set_page`. -/
def dgusSetPage (page : UInt8) : List UInt8 :=
  sendFrame dgusCmdWr vpLcdSetpage [0x5A, 0x01, 0x00, page]

/-- `dgus_write_u16`. -/
def dgusWriteU16 (vp value : UInt16) : List UInt8 :=
  sendFrame dgusCmdWr vp [(value >>> 8).toUInt8, value.toUInt8]

/-- `dgus_write_u32`. -/
def dgusWriteU32 (vp : UInt16) (value : UInt32) : List UInt8 :=
  sendFrame dgusCmdWr vp
    [(value >>> 24).toUInt8, (value >>> 16).toUInt8, (value >>> 8).toUInt8, value.toUInt8]

/-- `dgus_write_bytes`. -/
def dgusWriteBytes (vp : UInt16) (buf : ℕ → UInt8) (n : UInt8) : List UInt8 :=
  sendFrame dgusCmdWr vp ((List.range (min n.toNat dgusMaxData)).map buf)

/-- `dgus_write_u16_array`. -/
def dgusWriteU16Array (vp : UInt16) (buf : ℕ → UInt16) (n : UInt8) : List UInt8 :=
  sendFrame dgusCmdWr vp ((List.range (min n.toNat (dgusMaxData / 2))).flatMap fun i ↦
    [(buf i >>> 8).toUInt8, (buf i).toUInt8])

/-- The copy loop of `dgus_write_text` over a cleared payload: `left` bytes from `i` on. -/
def textPayload (txt : ℕ → UInt8) : ℕ → ℕ → List UInt8
  | 0, _ => []
  | left + 1, i =>
    if txt i = 0 then List.replicate (left + 1) 0 else txt i :: textPayload txt left (i + 1)

/-- `dgus_write_text`; nothing is sent for a null pointer or an empty text. -/
def dgusWriteText (vp : UInt16) (txt : Option (ℕ → UInt8)) : List UInt8 :=
  match txt with
  | none => []
  | some txt => if txt 0 = 0 then [] else sendFrame dgusCmdWr vp (textPayload txt 10 0)

/-- `dgus_read_var`. -/
def dgusReadVar (var : UInt8) : List UInt8 := sendFrame dgusCmdRd var.toUInt16 [1]

/-! ### Calls -/

/-- A call of one of the writers. -/
inductive LcdCall
  | resetLcd
  | setPage (page : UInt8)
  | writeU16 (vp value : UInt16)
  | writeU32 (vp : UInt16) (value : UInt32)
  | writeBytes (vp : UInt16) (buf : ℕ → UInt8) (n : UInt8)
  | writeU16Array (vp : UInt16) (buf : ℕ → UInt16) (n : UInt8)
  | writeText (vp : UInt16) (txt : Option (ℕ → UInt8))
  | readVar (var : UInt8)

/-- The bytes a call sends. -/
def LcdCall.sends : LcdCall → List UInt8
  | .resetLcd => dgusResetLcd
  | .setPage page => dgusSetPage page
  | .writeU16 vp value => dgusWriteU16 vp value
  | .writeU32 vp value => dgusWriteU32 vp value
  | .writeBytes vp buf n => dgusWriteBytes vp buf n
  | .writeU16Array vp buf n => dgusWriteU16Array vp buf n
  | .writeText vp txt => dgusWriteText vp txt
  | .readVar var => dgusReadVar var

/-- The call has something to send. -/
def LcdCall.HasData : LcdCall → Prop
  | .writeBytes _ _ n => n ≠ 0
  | .writeU16Array _ _ n => n ≠ 0
  | _ => True

instance (call : LcdCall) : Decidable call.HasData :=
  match call with
  | .writeBytes _ _ n => inferInstanceAs (Decidable (n ≠ 0))
  | .writeU16Array _ _ n => inferInstanceAs (Decidable (n ≠ 0))
  | .resetLcd | .setPage _ | .writeU16 _ _ | .writeU32 _ _ | .writeText _ _ | .readVar _ =>
    isTrue trivial

/-! ### The words of the panel -/

/-- The word that lies at `vp` in words written from `start` on. -/
def wordsAt (start vp : ℕ) (words : List ℕ) : Option ℕ :=
  if start ≤ vp then words[vp - start]? else none

/-- Bytes as words, high byte first; a last byte alone is a high byte. -/
def pairUp : List UInt8 → List ℕ
  | [] => []
  | [high] => [high.toNat * 256]
  | high :: low :: bytes => (high.toNat * 256 + low.toNat) :: pairUp bytes

/-- What a frame leaves at a variable of the panel. -/
def DgusFrame.wordAt (frame : DgusFrame) (vp : ℕ) : Option ℕ :=
  if frame.cmd = dgusCmdWr then wordsAt frame.vpAddr vp (pairUp frame.data) else none

/-- The character of a text at `i`, zero from its end on. -/
def textByte (txt : ℕ → UInt8) (i : ℕ) : UInt8 := if ∀ j ≤ i, txt j ≠ 0 then txt i else 0

/-- What a call is to leave at a variable of the panel. -/
def LcdCall.wordAt (vp : ℕ) : LcdCall → Option ℕ
  | .resetLcd => wordsAt vpLcdReset.toNat vp [0x55AA, 0x5AA5]
  | .setPage page => wordsAt vpLcdSetpage.toNat vp [0x5A01, page.toNat]
  | .writeU16 start value => wordsAt start.toNat vp [value.toNat]
  | .writeU32 start value =>
    wordsAt start.toNat vp [value.toNat / 65536, value.toNat % 65536]
  | .writeBytes start buf n =>
    wordsAt start.toNat vp (pairUp ((List.range (min n.toNat 23)).map buf))
  | .writeU16Array start buf n =>
    wordsAt start.toNat vp ((List.range (min n.toNat 11)).map fun i ↦ (buf i).toNat)
  | .writeText start txt =>
    match txt with
    | none => none
    | some txt =>
      if txt 0 = 0 then none
      else wordsAt start.toNat vp ((List.range 5).map fun i ↦
        (textByte txt (2 * i)).toNat * 256 + (textByte txt (2 * i + 1)).toNat)
  | .readVar _ => none

/-- The variables of the panel behind something that writes words. -/
def storeWords (words : ℕ → Option ℕ) (memory : ℕ → ℕ) (vp : ℕ) : ℕ := (words vp).getD (memory vp)

/-- The variables of the panel behind frames. -/
def panelMemory (frames : List DgusFrame) (memory : ℕ → ℕ) : ℕ → ℕ :=
  frames.foldl (fun memory frame ↦ storeWords frame.wordAt memory) memory

/-- The variables of the panel behind calls. -/
def lcdMemory (calls : List LcdCall) (memory : ℕ → ℕ) : ℕ → ℕ :=
  calls.foldl (fun memory call ↦ storeWords (fun vp ↦ call.wordAt vp) memory) memory

/-! ### One call -/

section Calls

variable {vp : ℕ} {start : UInt16} {payload : List UInt8}

theorem pairUp_words {α : Type} (high low : α → UInt8) (items : List α) :
    pairUp (items.flatMap fun item ↦ [high item, low item]) =
      items.map fun item ↦ (high item).toNat * 256 + (low item).toNat := by
  induction items with
  | nil => rfl
  | cons item items ih =>
    rw [List.flatMap_cons, List.map_cons, ← ih]
    rfl

theorem toNat_word (value : UInt16) :
    (value >>> 8).toUInt8.toNat * 256 + value.toUInt8.toNat = value.toNat := by
  have hword : value.toNat < 65536 := value.toNat_lt
  have hhigh : (value >>> 8).toNat = value.toNat / 256 := by
    rw [UInt16.toNat_shiftRight]
    exact Nat.shiftRight_eq_div_pow value.toNat 8
  rw [UInt16.toNat_toUInt8, UInt16.toNat_toUInt8, hhigh]
  omega

section Long

variable (value : UInt32)

theorem toNat_shift {shift : UInt32} {count : ℕ} (hshift : shift.toNat % 32 = count) :
    (value >>> shift).toUInt8.toNat = value.toNat / 2 ^ count % 256 := by
  rw [UInt32.toNat_toUInt8, UInt32.toNat_shiftRight, hshift, Nat.shiftRight_eq_div_pow]

theorem toNat_highWord :
    (value >>> 24).toUInt8.toNat * 256 + (value >>> 16).toUInt8.toNat = value.toNat / 65536 := by
  have hword : value.toNat < 4294967296 := value.toNat_lt
  rw [toNat_shift value (show (24 : UInt32).toNat % 32 = 24 from rfl),
    toNat_shift value (show (16 : UInt32).toNat % 32 = 16 from rfl)]
  omega

theorem toNat_lowWord :
    (value >>> 8).toUInt8.toNat * 256 + value.toUInt8.toNat = value.toNat % 65536 := by
  rw [toNat_shift value (show (8 : UInt32).toNat % 32 = 8 from rfl), UInt32.toNat_toUInt8]
  omega

end Long

/-- The copy loop ends the text at its first zero. -/
theorem textPayload_eq (txt : ℕ → UInt8) (left i : ℕ) (hbefore : ∀ j < i, txt j ≠ 0) :
    textPayload txt left i = (List.range left).map fun k ↦ textByte txt (i + k) := by
  induction left generalizing i with
  | zero => rfl
  | succ left ih =>
    rw [textPayload]
    split_ifs with hend
    · have hzero : ∀ k, textByte txt (i + k) = 0 := fun k ↦
        if_neg fun hall ↦ hall i (Nat.le_add_right i k) hend
      simp only [hzero, List.map_const', List.length_range]
    · have hnext : ∀ j < i + 1, txt j ≠ 0 := by
        intro j hj
        rcases Nat.lt_succ_iff_lt_or_eq.mp hj with hlt | rfl
        · exact hbefore j hlt
        · exact hend
      have hfirst : textByte txt (i + 0) = txt i :=
        if_pos fun j hj ↦ hnext j (Nat.lt_succ_of_le hj)
      rw [ih (i + 1) hnext, List.range_succ_eq_map, List.map_cons, List.map_map, hfirst]
      refine congrArg (List.cons (txt i)) (List.map_congr_left fun k _ ↦ ?_)
      show textByte txt (i + 1 + k) = textByte txt (i + (k + 1))
      rw [Nat.add_assoc, Nat.add_comm 1]

theorem textPayload_length (txt : ℕ → UInt8) (left i : ℕ) :
    (textPayload txt left i).length = left := by
  induction left generalizing i with
  | zero => rfl
  | succ left ih =>
    rw [textPayload]
    split_ifs
    · exact List.length_replicate
    · rw [List.length_cons, ih]

/-- What a frame with a command to write leaves. -/
theorem wordAt_frame (start : UInt16) (payload : List UInt8) (vp : ℕ) :
    (SentFrame.frame ⟨0, dgusCmdWr, start, payload⟩).wordAt vp =
      wordsAt start.toNat vp (pairUp payload) := if_pos rfl

/-- The call sends a frame that says what the call means. -/
def Says (call : LcdCall) (sent : SentFrame) : Prop :=
  sent.Valid ∧ call.sends = sent.bytes ∧ ∀ vp, sent.frame.wordAt vp = call.wordAt vp

/-- A frame to write whose words are those of the call. -/
theorem says_of {call : LcdCall} {words : List ℕ} (hleast : 1 ≤ payload.length)
    (hmost : payload.length ≤ dgusMaxData)
    (hsends : call.sends = sendFrame dgusCmdWr start payload)
    (hmeans : ∀ vp, call.wordAt vp = wordsAt start.toNat vp words)
    (hwords : pairUp payload = words) : Says call ⟨0, dgusCmdWr, start, payload⟩ :=
  ⟨⟨hleast, hmost⟩, hsends, fun vp ↦ by rw [wordAt_frame, hwords, hmeans]⟩

theorem length_pairs (buf : ℕ → UInt16) (count : ℕ) :
    ((List.range count).flatMap fun i ↦ [(buf i >>> 8).toUInt8, (buf i).toUInt8]).length =
      2 * count := by
  induction count with
  | zero => rfl
  | succ count ih =>
    rw [List.range_succ, List.flatMap_append, List.length_append, ih]
    rfl

/-- Assumes: the call has something to send. It sends nothing and means nothing, or it sends a frame
that says what it means. -/
theorem call_says (call : LcdCall) (hdata : call.HasData) :
    (call.sends = [] ∧ ∀ vp, call.wordAt vp = none) ∨ ∃ sent, Says call sent := by
  have hmax : dgusMaxData = 23 := rfl
  cases call with
  | resetLcd => exact .inr ⟨_, says_of (by decide) (by decide) rfl (fun _ ↦ rfl) rfl⟩
  | setPage page =>
    refine .inr ⟨_, says_of (by simp) (by simp [dgusMaxData]) rfl (fun _ ↦ rfl) ?_⟩
    have hpage : 0 * 256 + page.toNat = page.toNat := Nat.zero_add _
    exact congrArg (fun word ↦ [0x5A01, word]) hpage
  | writeU16 vp value =>
    refine .inr ⟨_, says_of (by simp) (by simp [dgusMaxData]) rfl (fun _ ↦ rfl) ?_⟩
    rw [pairUp, toNat_word]
    rfl
  | writeU32 vp value =>
    refine .inr ⟨_, says_of (by simp) (by simp [dgusMaxData]) rfl (fun _ ↦ rfl) ?_⟩
    rw [pairUp, pairUp, toNat_highWord, toNat_lowWord]
    rfl
  | writeBytes vp buf n =>
    have hsome : n.toNat ≠ 0 := fun hzero ↦ hdata (UInt8.toNat_inj.mp hzero)
    have hlength : ((List.range (min n.toNat dgusMaxData)).map buf).length =
        min n.toNat dgusMaxData := by rw [List.length_map, List.length_range]
    exact .inr ⟨_, says_of (by omega) (by omega) rfl (fun _ ↦ rfl) rfl⟩
  | writeU16Array vp buf n =>
    have hsome : n.toNat ≠ 0 := fun hzero ↦ hdata (UInt8.toNat_inj.mp hzero)
    have hlength := length_pairs buf (min n.toNat (dgusMaxData / 2))
    refine .inr ⟨_, says_of (by omega) (by omega) rfl (fun _ ↦ rfl) ?_⟩
    rw [pairUp_words]
    exact List.map_congr_left fun i _ ↦ toNat_word (buf i)
  | writeText vp txt =>
    cases txt with
    | none => exact .inl ⟨rfl, fun _ ↦ rfl⟩
    | some txt =>
      by_cases hempty : txt 0 = 0
      · exact .inl ⟨if_pos hempty, fun _ ↦ if_pos hempty⟩
      · have hlength := textPayload_length txt 10 0
        refine .inr ⟨_, says_of (by omega) (by omega) (if_neg hempty) (fun _ ↦ if_neg hempty) ?_⟩
        rw [textPayload_eq txt 10 0 fun j hj ↦ absurd hj (Nat.not_lt_zero j)]
        simp only [Nat.zero_add]
        rfl
  | readVar var =>
    refine .inr ⟨⟨0, dgusCmdRd, var.toUInt16, [1]⟩,
      ⟨show 1 ≤ 1 from le_rfl, show 1 ≤ 23 by decide⟩, rfl, fun vp ↦ ?_⟩
    exact if_neg (show dgusCmdRd ≠ dgusCmdWr by decide)

theorem length_sendFrame {cmd : UInt8} (hmost : payload.length ≤ dgusMaxData) :
    (sendFrame cmd start payload).length ≤ 29 := by
  have hmost : payload.length ≤ 23 := hmost
  simp only [sendFrame, wordBytes, List.length_append, List.length_cons, List.length_nil]
  omega

/-- A call stays inside the 32 bytes of `s_tx_buf`, whatever length it is given. -/
theorem length_sends (call : LcdCall) : call.sends.length ≤ 29 := by
  have hmax : dgusMaxData = 23 := rfl
  cases call with
  | resetLcd => exact length_sendFrame (by decide)
  | setPage page => exact length_sendFrame (show 4 ≤ 23 by decide)
  | writeU16 vp value => exact length_sendFrame (show 2 ≤ 23 by decide)
  | writeU32 vp value => exact length_sendFrame (show 4 ≤ 23 by decide)
  | writeBytes vp buf n =>
    refine length_sendFrame ?_
    rw [List.length_map, List.length_range]
    exact min_le_right _ _
  | writeU16Array vp buf n =>
    have hlength := length_pairs buf (min n.toNat (dgusMaxData / 2))
    exact length_sendFrame (by omega)
  | writeText vp txt =>
    cases txt with
    | none => exact Nat.zero_le _
    | some txt =>
      show (if txt 0 = 0 then [] else _).length ≤ 29
      split_ifs
      · exact Nat.zero_le _
      · refine length_sendFrame ?_
        rw [textPayload_length]
        decide
  | readVar var => exact length_sendFrame (show 1 ≤ 23 by decide)

/-! ### Many calls -/

/-- Assumes: every call has something to send. Their bytes are those of frames that leave the words
the calls mean. -/
theorem calls_say (calls : List LcdCall) (hdata : ∀ call ∈ calls, call.HasData) :
    ∃ frames : List SentFrame, (∀ sent ∈ frames, sent.Valid) ∧
      calls.flatMap LcdCall.sends = frames.flatMap SentFrame.bytes ∧
      ∀ memory, panelMemory (frames.map SentFrame.frame) memory = lcdMemory calls memory := by
  induction calls with
  | nil => exact ⟨[], fun _ hmem ↦ absurd hmem List.not_mem_nil, rfl, fun _ ↦ rfl⟩
  | cons call calls ih =>
    obtain ⟨frames, hvalid, hbytes, hwords⟩ :=
      ih fun other hother ↦ hdata other (List.mem_cons_of_mem _ hother)
    rcases call_says call (hdata call List.mem_cons_self) with ⟨hsilent, hnone⟩ | ⟨sent, hsent⟩
    · refine ⟨frames, hvalid, ?_, fun memory ↦ ?_⟩
      · rw [List.flatMap_cons, hsilent, hbytes, List.nil_append]
      · have hsame : storeWords (fun vp ↦ call.wordAt vp) memory = memory := by
          funext vp
          rw [storeWords, hnone, Option.getD_none]
        rw [hwords, lcdMemory, lcdMemory, List.foldl_cons, hsame]
    · obtain ⟨hone, hsends, hmeans⟩ := hsent
      refine ⟨sent :: frames, ?_, ?_, fun memory ↦ ?_⟩
      · intro other hother
        rcases List.mem_cons.mp hother with rfl | hrest
        · exact hone
        · exact hvalid other hrest
      · rw [List.flatMap_cons, List.flatMap_cons, hsends, hbytes]
      · have hsame : storeWords sent.frame.wordAt memory =
            storeWords (fun vp ↦ call.wordAt vp) memory := by
          funext vp
          rw [storeWords, storeWords, hmeans]
        rw [List.map_cons, panelMemory, List.foldl_cons, hsame, lcdMemory, List.foldl_cons]
        exact hwords _

end Calls

/-- Assumes: every call has something to send; the bytes of the calls arrive, each in time, at an
idle reader. The frames they deliver leave at every variable of the panel the word that the calls
leave there, and the reader is idle again. No call, whatever it is given, sends more than fits the
send buffer. -/
theorem line_memory (calls : List LcdCall) (hdata : ∀ call ∈ calls, call.HasData)
    (stream : List Stamped) (hbytes : stream.map Prod.snd = calls.flatMap LcdCall.sends)
    (parser : DgusParser) (hidle : parser.state = .idle) (htime : NoTimeout stream parser)
    (memory : ℕ → ℕ) :
    panelMemory (delivered stream parser) memory = lcdMemory calls memory ∧
      (feed stream parser).state = .idle ∧
      ∀ any : LcdCall, any.sends.length ≤ 29 := by
  obtain ⟨frames, hvalid, hsame, hwords⟩ := calls_say calls hdata
  obtain ⟨hframes, hback⟩ := feed_sent hvalid (hbytes.trans hsame) hidle htime
  rw [hframes]
  exact ⟨hwords memory, hback, length_sends⟩

/-- A page, a text that is cut, and five bars. -/
def someCalls : List LcdCall :=
  [.setPage 9, .writeText 0x1350 (some fun i ↦ if i < 12 then 65 else 0),
    .writeU16Array 0x1170 (fun i ↦ if i < 2 then 1 else 0) 5]

theorem line_memory_some :
    panelMemory (delivered ((someCalls.flatMap LcdCall.sends).map fun byte ↦ (7, byte)) dgusInit)
      (fun _ ↦ 0) = lcdMemory someCalls fun _ ↦ 0 :=
  (line_memory someCalls (by decide) _ (by decide +kernel) dgusInit rfl (by decide +kernel) _).1

end UsCtrl
