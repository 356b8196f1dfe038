import Mathlib.Data.UInt
import UsCtrl.Foundation.CString
import UsCtrl.NoField

/-!
# The buffer of the address editor

The address editor as `app_lcd_comm.c` has it: a cursor in a buffer of 16 bytes, an index into the
four octets under edit, and a number wider than an octet. A write out of bounds is undefined, so the
functions yield no state then (`EtherEditor`, `handleEtherKeyBytes`).

Digits, dots, backspaces and ENTER move the cursor, the index and the number under guards of their
own. `EtherSound` is what holds of them jointly, and `ether_buffer_safe` that it does behind every
sequence of keys and entries to the communication pages, none of which leaves the bounds. From the
selection of a field until the page is seeded again the text ends at the cursor. Every step of the
buffer is a step of the list that the panel's state keeps for it (`EtherStep`).
-/

set_option autoImplicit false
set_option relaxedAutoImplicit false

namespace UsCtrl

open Foundation

/-! ### The editor -/

/-- The editor of `lcd_app_state_t` with the shadows it edits, in their widths. -/
structure EtherEditor where
  tempEtherIp : Vector UInt8 4
  tempEtherNm : Vector UInt8 4
  tempEtherGw : Vector UInt8 4
  etherWhatInput : EtherField
  etherCurrentNumber : UInt16
  etherCurrentOctet : UInt8
  etherHasInput : Bool
  etherIpInputComplete : Bool
  etherBufferPos : UInt8
  etherInputBuffer : Vector UInt8 16
  etherTempIp : Vector UInt8 4
  deriving DecidableEq, Repr

/-- The zeroed editor. -/
def etherEditorInit : EtherEditor where
  tempEtherIp := Vector.replicate 4 0
  tempEtherNm := Vector.replicate 4 0
  tempEtherGw := Vector.replicate 4 0
  etherWhatInput := .ip
  etherCurrentNumber := 0
  etherCurrentOctet := 0
  etherHasInput := false
  etherIpInputComplete := false
  etherBufferPos := 0
  etherInputBuffer := Vector.replicate 16 0
  etherTempIp := Vector.replicate 4 0

/-- `'.'` in the buffer. -/
def dotByte : UInt8 := 46

/-- A character at the cursor, which moves on, and a zero behind it. -/
def EtherEditor.putChar (char : UInt8) (editor : EtherEditor) : Option EtherEditor := do
  let written ← putAt editor.etherBufferPos.toNat char editor.etherInputBuffer
  let closed ← putAt (editor.etherBufferPos + 1).toNat 0 written
  return { editor with
    etherBufferPos := editor.etherBufferPos + 1
    etherInputBuffer := closed }

/-- A character while there is room for it. -/
def EtherEditor.typeChar (char : UInt8) (editor : EtherEditor) : Option EtherEditor :=
  if editor.etherBufferPos < 15 then editor.putChar char else some editor

/-- The number goes into the octet under the cursor, cut to a byte. -/
def EtherEditor.storeOctet (editor : EtherEditor) : Option EtherEditor := do
  let octets ← putAt editor.etherCurrentOctet.toNat editor.etherCurrentNumber.toUInt8
    editor.etherTempIp
  return { editor with etherTempIp := octets }

/-- The digit branch of `process_ip_char`. -/
def ipDigit (key : UInt8) (editor : EtherEditor) : Option EtherEditor := do
  let number := editor.etherCurrentNumber * 10 + key.toUInt16
  let typed := { editor with etherCurrentNumber := if number > 255 then 255 else number }
  let shown ← typed.typeChar (key + 48)
  return { shown with etherHasInput := true }

/-- The dot branch of `process_ip_char`. -/
def ipDot (editor : EtherEditor) : Option EtherEditor :=
  if editor.etherHasInput ∧ editor.etherCurrentOctet < 3 then do
    let stored ← editor.storeOctet
    let moved := { stored with
      etherCurrentOctet := stored.etherCurrentOctet + 1
      etherCurrentNumber := 0
      etherHasInput := false }
    moved.typeChar dotByte
  else some editor

/-- What a backspace makes of octet and number, by the character it takes. -/
def ipReopen (last : UInt8) (editor : EtherEditor) : Option EtherEditor :=
  if last = dotByte then
    if editor.etherCurrentOctet > 0 then do
      let octet ← editor.etherTempIp[(editor.etherCurrentOctet - 1).toNat]?
      return { editor with
        etherCurrentOctet := editor.etherCurrentOctet - 1
        etherCurrentNumber := octet.toUInt16
        etherHasInput := true }
    else some editor
  else some { editor with
    etherCurrentNumber := editor.etherCurrentNumber / 10
    etherHasInput := decide (editor.etherCurrentNumber / 10 > 0) }

/-- The backspace branch of `process_ip_char`. -/
def ipBackspace (editor : EtherEditor) : Option EtherEditor :=
  if editor.etherBufferPos > 0 then do
    let last ← editor.etherInputBuffer[(editor.etherBufferPos - 1).toNat]?
    let edited ← ipReopen last editor
    let closed ← putAt (edited.etherBufferPos - 1).toNat 0 edited.etherInputBuffer
    return { edited with
      etherBufferPos := edited.etherBufferPos - 1
      etherInputBuffer := closed }
  else some editor

/-- The enter branch of `process_ip_char`. -/
def ipEnter (editor : EtherEditor) : Option EtherEditor :=
  (if editor.etherHasInput then editor.storeOctet else some editor).map fun stored ↦
    { stored with etherIpInputComplete := true }

/-- `process_ip_char`. -/
def processIpChar (key : UInt8) (editor : EtherEditor) : Option EtherEditor :=
  if key ≤ 9 then ipDigit key editor
  else if key = 0x44 then ipDot editor
  else if key = 0x42 then ipBackspace editor
  else if key = 0x45 then ipEnter editor
  else some editor

/-- The numbers of an address. -/
def octetsOf (bytes : Vector UInt8 4) : Octets :=
  ⟨bytes[0].toNat, bytes[1].toNat, bytes[2].toNat, bytes[3].toNat⟩

/-- `ip_to_string`: the text in 16 bytes, filled with zeroes. -/
def ipToStringBytes (ip : Vector UInt8 4) : Vector UInt8 16 :=
  Vector.ofFn fun index ↦ UInt8.ofNat ((ipToString (octetsOf ip)).getD index 0)

/-- `ether_select_field`: the cursor is `strlen` of the text. -/
def etherSelectFieldBytes (field : EtherField) (shadow : Vector UInt8 4) (editor : EtherEditor) :
    Option EtherEditor := do
  let length ← strlen (ipToStringBytes shadow)
  return { editor with
    etherWhatInput := field
    etherInputBuffer := ipToStringBytes shadow
    etherBufferPos := UInt8.ofNat length
    etherTempIp := shadow
    etherCurrentOctet := 3
    etherCurrentNumber := editor.tempEtherIp[3].toUInt16
    etherHasInput := true }

/-- `lcd_data_pdd`: zeroes from the first zero on. -/
def lcdDataPdd (finished : Bool) : List UInt8 → List UInt8
  | [] => []
  | byte :: rest =>
    let finished := finished || byte == 0
    (if finished then 0 else byte) :: lcdDataPdd finished rest

/-- The text of an address as it goes to the panel. -/
def echoText (buffer : Vector UInt8 16) : List UInt8 := lcdDataPdd false buffer.toList

/-- The copy of a complete address into the selected shadow. -/
def EtherEditor.commitIp (editor : EtherEditor) : EtherEditor :=
  if editor.etherIpInputComplete then
    match editor.etherWhatInput with
    | .ip => { editor with tempEtherIp := editor.etherTempIp, etherIpInputComplete := false }
    | .nm => { editor with tempEtherNm := editor.etherTempIp, etherIpInputComplete := false }
    | _ => { editor with tempEtherGw := editor.etherTempIp, etherIpInputComplete := false }
  else editor

/-- The key selects a field. -/
def selectsField (key : UInt8) : Prop := key = 0x49 ∨ key = 0x4D ∨ key = 0x47

instance (key : UInt8) : Decidable (selectsField key) := inferInstanceAs (Decidable (_ ∨ _ ∨ _))

/-- The texts of the three shadows, as a selection sends them. -/
def EtherEditor.shadowEchoes (editor : EtherEditor) : List (ℕ × List UInt8) :=
  [(EtherField.ip.echoVp, echoText (ipToStringBytes editor.tempEtherIp)),
    (EtherField.nm.echoVp, echoText (ipToStringBytes editor.tempEtherNm)),
    (EtherField.gw.echoVp, echoText (ipToStringBytes editor.tempEtherGw))]

/-- The selection of a field by its key. -/
def etherSelectKey (key : UInt8) (editor : EtherEditor) : Option EtherEditor :=
  if key = 0x49 then etherSelectFieldBytes .ip editor.tempEtherIp editor
  else if key = 0x4D then etherSelectFieldBytes .nm editor.tempEtherNm editor
  else etherSelectFieldBytes .gw editor.tempEtherGw editor

/-- `handle_ether_key`: the editor behind the key, and the texts it sends with their variables. -/
def handleEtherKeyBytes (data : UInt16) (editor : EtherEditor) :
    Option (EtherEditor × List (ℕ × List UInt8)) :=
  let key := data.toUInt8
  if selectsField key then
    (etherSelectKey key editor).map fun selected ↦ (selected, editor.shadowEchoes)
  else do
    let edited ← processIpChar key editor
    let committed := edited.commitIp
    return (committed,
      [(committed.etherWhatInput.echoVp, echoText committed.etherInputBuffer)])

/-- The editor's part of `render_comm_page`, by the mode shadow it finds and the addresses of the
configuration: the editor behind it, and the texts it sends. -/
def renderCommPageEditor (tempCommMode : UInt8) (ip nm gw : Vector UInt8 4)
    (editor : EtherEditor) : EtherEditor × List (ℕ × List UInt8) :=
  if tempCommMode = 0xFF then
    ({ editor with
        tempEtherIp := ip
        tempEtherNm := nm
        tempEtherGw := gw
        etherCurrentNumber := 0
        etherCurrentOctet := 0
        etherHasInput := false
        etherIpInputComplete := false
        etherBufferPos := 0
        etherWhatInput := .none },
      [(EtherField.ip.echoVp, (ipToStringBytes ip).toList),
        (EtherField.nm.echoVp, (ipToStringBytes nm).toList),
        (EtherField.gw.echoVp, (ipToStringBytes gw).toList)])
  else (editor, [])

/-- What reaches the editor: a key, or an entry to a communication page. -/
inductive EtherCall
  | key (data : UInt16)
  | commPage (tempCommMode : UInt8) (ip nm gw : Vector UInt8 4)

/-- The editor behind a call, and the texts that go to the panel. -/
def EtherCall.run (call : EtherCall) (editor : EtherEditor) :
    Option (EtherEditor × List (ℕ × List UInt8)) :=
  match call with
  | .key data => handleEtherKeyBytes data editor
  | .commPage tempCommMode ip nm gw => some (renderCommPageEditor tempCommMode ip nm gw editor)

/-- The editor from power-up on, as long as it is defined. -/
def etherMachine : Machine (Option EtherEditor) EtherCall where
  start := some etherEditorInit
  exec call editor := (editor.bind call.run).map Prod.fst

/-- The editor behind a sequence of calls, newest first. -/
abbrev etherAfter (calls : List EtherCall) : Option EtherEditor := etherMachine.after calls

/-! ### The joint invariant -/

/-- The text before the cursor. -/
def EtherEditor.text (editor : EtherEditor) : List UInt8 :=
  editor.etherInputBuffer.toList.take editor.etherBufferPos.toNat

/-- What holds of the editor between the calls: cursor, index and number stay in their bounds, the
last byte of the buffer is zero, none before the cursor is, and no confirmed address waits. -/
structure EtherSound (editor : EtherEditor) : Prop where
  cursor : editor.etherBufferPos.toNat ≤ 15
  last : editor.etherInputBuffer[15]? = some 0
  clean : 0 ∉ editor.text
  octet : editor.etherCurrentOctet.toNat ≤ 3
  number : editor.etherCurrentNumber.toNat ≤ 255
  settled : editor.etherIpInputComplete = false

/-- A zero stands at the cursor. -/
def EndsAtCursor (editor : EtherEditor) : Prop :=
  editor.etherInputBuffer[editor.etherBufferPos.toNat]? = some 0

/-- The editor in the panel's state, where its text is a list. -/
def EtherEditor.onto (editor : EtherEditor) (lcd : LcdState) : LcdState :=
  { lcd with
    tempEtherIp := octetsOf editor.tempEtherIp
    tempEtherNm := octetsOf editor.tempEtherNm
    tempEtherGw := octetsOf editor.tempEtherGw
    etherWhatInput := editor.etherWhatInput
    etherInput := editor.text.map UInt8.toNat
    etherTempIp := octetsOf editor.etherTempIp
    etherCurrentNumber := editor.etherCurrentNumber.toNat
    etherCurrentOctet := editor.etherCurrentOctet.toNat
    etherHasInput := editor.etherHasInput }

/-- A step of the buffer keeps the invariant and a zero at the cursor, and is a step of the list. -/
structure EtherStep (listStep : LcdState → LcdState) (editor editor' : EtherEditor) : Prop where
  sound : EtherSound editor'
  ends : EndsAtCursor editor → EndsAtCursor editor'
  list : ∀ lcd, editor'.onto lcd = listStep (editor.onto lcd)

section Branches

variable {editor : EtherEditor}

theorem EtherSound.textAt (hsound : EtherSound editor) :
    TextAt editor.etherInputBuffer editor.etherBufferPos.toNat editor.text :=
  ⟨rfl, hsound.clean⟩

/-- The text is as long as the cursor says. -/
theorem EtherSound.length (hsound : EtherSound editor) :
    editor.text.length = editor.etherBufferPos.toNat := by
  have hcursor := hsound.cursor
  rw [EtherEditor.text, List.length_take, Vector.length_toList]
  omega

/-- The editor with another text. -/
def EtherEditor.retext (pos : UInt8) (buffer : Vector UInt8 16) (editor : EtherEditor) :
    EtherEditor :=
  { editor with etherBufferPos := pos, etherInputBuffer := buffer }

/-- A character at a cursor below 15 goes behind the text, and the text ends there. -/
theorem EtherSound.putChar (hsound : EtherSound editor) {char : UInt8} (hchar : char ≠ 0)
    (hroom : editor.etherBufferPos < 15) :
    ∃ buffer', editor.putChar char = some (editor.retext (editor.etherBufferPos + 1) buffer') ∧
      EtherSound (editor.retext (editor.etherBufferPos + 1) buffer') ∧
      EndsAtCursor (editor.retext (editor.etherBufferPos + 1) buffer') ∧
      (editor.retext (editor.etherBufferPos + 1) buffer').text = editor.text ++ [char] := by
  have hpos : editor.etherBufferPos.toNat < 15 := hroom
  have hnext := succ_toNat_of_lt hroom
  obtain ⟨buffer', hput, htext, hzero, hbehind⟩ := hsound.textAt.append hchar (by omega)
  have hlast : buffer'[15]? = some 0 := by
    by_cases hend : editor.etherBufferPos.toNat + 1 = 15
    · exact hend ▸ hzero
    · rw [hbehind 15 (by omega)]
      exact hsound.last
  have hbefore : (editor.retext (editor.etherBufferPos + 1) buffer').text =
      editor.text ++ [char] := by
    rw [← htext.before, ← hnext]
    rfl
  refine ⟨buffer', ?_, ⟨?_, hlast, ?_, hsound.octet, hsound.number, hsound.settled⟩, ?_, hbefore⟩
  · obtain ⟨written, hwritten, hclosed⟩ := Option.bind_eq_some_iff.mp hput
    rw [EtherEditor.putChar, hwritten, Option.bind_eq_bind, Option.bind_some, hnext, hclosed]
    rfl
  · show (editor.etherBufferPos + 1).toNat ≤ 15
    omega
  · rw [hbefore]
    exact htext.clean
  · show buffer'[(editor.etherBufferPos + 1).toNat]? = some 0
    rw [hnext]
    exact hzero

/-- A digit or a dot goes behind the text while there is room. -/
theorem EtherSound.typeChar (hsound : EtherSound editor) {char : UInt8} (hchar : char ≠ 0) :
    ∃ pos' buffer', editor.typeChar char = some (editor.retext pos' buffer') ∧
      EtherSound (editor.retext pos' buffer') ∧
      (EndsAtCursor editor → EndsAtCursor (editor.retext pos' buffer')) ∧
      (editor.retext pos' buffer').text.map UInt8.toNat =
        if (editor.text.map UInt8.toNat).length < 15 then
          editor.text.map UInt8.toNat ++ [char.toNat]
        else editor.text.map UInt8.toNat := by
  rw [List.length_map, hsound.length]
  by_cases hroom : editor.etherBufferPos < 15
  · obtain ⟨buffer', hput, hsound', hends, htext⟩ := hsound.putChar hchar hroom
    refine ⟨_, buffer', (if_pos hroom).trans hput, hsound', fun _ ↦ hends, ?_⟩
    rw [htext, if_pos (show editor.etherBufferPos.toNat < 15 from hroom), List.map_append]
    rfl
  · exact ⟨editor.etherBufferPos, editor.etherInputBuffer, if_neg hroom, hsound, id,
      (if_neg hroom).symm⟩

/-- A digit is clamped to 255, so that the number stays an octet. -/
theorem ipDigit_step (hsound : EtherSound editor) {key : UInt8} (hkey : key ≤ 9) :
    ∃ editor', ipDigit key editor = some editor' ∧
      EtherStep (etherDigit key.toNat) editor editor' := by
  have hdigit : key.toNat ≤ 9 := hkey
  have hnumber := hsound.number
  let number := editor.etherCurrentNumber * 10 + key.toUInt16
  let typed := { editor with etherCurrentNumber := if number > 255 then 255 else number }
  have hvalue : number.toNat = (editor.etherCurrentNumber.toNat * 10 + key.toNat) % 65536 := by
    simp [number]
  have hclamp : typed.etherCurrentNumber.toNat =
      if number.toNat > 255 then 255 else number.toNat := by
    show (if number > 255 then 255 else number).toNat = _
    rw [apply_ite UInt16.toNat]
    rfl
  have htyped : EtherSound typed := by
    refine ⟨hsound.cursor, hsound.last, hsound.clean, hsound.octet, ?_, hsound.settled⟩
    rw [hclamp]
    split_ifs <;> omega
  have hchar : (key + 48).toNat = key.toNat + 48 := by
    rw [UInt8.toNat_add]
    exact Nat.mod_eq_of_lt (by show key.toNat + 48 < 256; omega)
  have hnonzero : key + 48 ≠ 0 := by
    intro hzero
    rw [hzero] at hchar
    exact absurd hchar (Nat.succ_ne_zero _).symm
  obtain ⟨pos', buffer', hput, hsound', hends, htext⟩ := htyped.typeChar hnonzero
  refine ⟨{ typed.retext pos' buffer' with etherHasInput := true }, ?_, ?_, hends, fun lcd ↦ ?_⟩
  · show (typed.typeChar (key + 48)).bind
      (fun shown ↦ some { shown with etherHasInput := true }) = _
    rw [hput]
    rfl
  · exact ⟨hsound'.cursor, hsound'.last, hsound'.clean, hsound'.octet, hsound'.number,
      hsound'.settled⟩
  · have hshown : ({ typed.retext pos' buffer' with etherHasInput := true } :
        EtherEditor).text.map UInt8.toNat = _ := htext
    rw [hvalue] at hclamp
    rw [hchar] at hshown
    unfold etherDigit EtherEditor.onto
    dsimp only
    rw [hshown, ← hclamp]
    rfl

theorem octetsOf_set {index : ℕ} (hindex : index < 4) (value : UInt8) (bytes : Vector UInt8 4) :
    octetsOf (bytes.set index value hindex) = (octetsOf bytes).set index value.toNat := by
  unfold octetsOf Octets.set
  interval_cases index <;> simp

theorem octetsOf_get {index : ℕ} (hindex : index < 4) (bytes : Vector UInt8 4) :
    bytes[index].toNat = (octetsOf bytes).get index := by
  unfold octetsOf Octets.get
  interval_cases index <;> rfl

/-- A number that is an octet is stored as it is. -/
theorem EtherSound.storeOctet (hsound : EtherSound editor) :
    ∃ octets, editor.storeOctet = some { editor with etherTempIp := octets } ∧
      octetsOf octets = (octetsOf editor.etherTempIp).set editor.etherCurrentOctet.toNat
        (editor.etherCurrentNumber.toNat % 256) := by
  have hoctet := hsound.octet
  have hindex : editor.etherCurrentOctet.toNat < 4 := by omega
  refine ⟨_, ?_, octetsOf_set hindex editor.etherCurrentNumber.toUInt8 editor.etherTempIp⟩
  rw [EtherEditor.storeOctet, putAt_of_lt hindex]
  rfl

/-- A dot stores the number and goes on to the next octet, which is at most the last. -/
theorem ipDot_step (hsound : EtherSound editor) :
    ∃ editor', ipDot editor = some editor' ∧ EtherStep etherNextOctet editor editor' := by
  by_cases hnext : editor.etherHasInput ∧ editor.etherCurrentOctet < 3
  · have hoctet : editor.etherCurrentOctet.toNat < 3 := hnext.2
    obtain ⟨octets, hstore, hoctets⟩ := hsound.storeOctet
    let moved := { editor with
      etherTempIp := octets
      etherCurrentOctet := editor.etherCurrentOctet + 1
      etherCurrentNumber := 0
      etherHasInput := false }
    have hmoved : moved.etherCurrentOctet.toNat = editor.etherCurrentOctet.toNat + 1 :=
      succ_toNat_of_lt hnext.2
    have hsoundMoved : EtherSound moved :=
      ⟨hsound.cursor, hsound.last, hsound.clean, by omega, Nat.zero_le _, hsound.settled⟩
    obtain ⟨pos', buffer', htype, hsound', hends, htext⟩ :=
      hsoundMoved.typeChar (show dotByte ≠ 0 by decide)
    refine ⟨moved.retext pos' buffer', ?_, hsound', hends, fun lcd ↦ ?_⟩
    · rw [ipDot, if_pos hnext, hstore]
      exact htype
    · have hlist : (editor.onto lcd).etherHasInput = true ∧
          (editor.onto lcd).etherCurrentOctet < 3 := ⟨hnext.1, hoctet⟩
      rw [etherNextOctet, if_pos hlist]
      unfold EtherEditor.onto
      dsimp only
      rw [htext, ← hoctets, ← hmoved]
      rfl
  · have hlist (lcd : LcdState) : ¬ ((editor.onto lcd).etherHasInput = true ∧
        (editor.onto lcd).etherCurrentOctet < 3) := hnext
    exact ⟨editor, if_neg hnext, hsound, id, fun lcd ↦ (if_neg (hlist lcd)).symm⟩

theorem toNat_ne {key code : UInt8} (hother : key ≠ code) : key.toNat ≠ code.toNat :=
  mt UInt8.toNat_inj.mp hother

/-- The character before the cursor is the last of the text. -/
theorem EtherSound.getLast (hsound : EtherSound editor) (hmoved : 0 < editor.etherBufferPos) :
    ∃ last, editor.etherInputBuffer[(editor.etherBufferPos - 1).toNat]? = some last ∧
      editor.text.getLast? = some last := by
  have hcursor := hsound.cursor
  have hpred := pred_toNat_of_pos hmoved
  have hindex : (editor.etherBufferPos - 1).toNat < 16 := by omega
  have hlength : (editor.etherBufferPos - 1).toNat < editor.etherInputBuffer.toList.length :=
    Vector.length_toList.symm ▸ hindex
  refine ⟨_, Vector.getElem?_eq_getElem hindex, ?_⟩
  rw [EtherEditor.text, ← hpred, List.take_succ_eq_append_getElem hlength,
    List.getLast?_concat, Vector.getElem_toList]

/-- A zero takes the last character, and the text ends there. -/
theorem EtherSound.back (hsound : EtherSound editor) (hmoved : 0 < editor.etherBufferPos) :
    ∃ buffer', putAt (editor.etherBufferPos - 1).toNat 0 editor.etherInputBuffer = some buffer' ∧
      EtherSound (editor.retext (editor.etherBufferPos - 1) buffer') ∧
      EndsAtCursor (editor.retext (editor.etherBufferPos - 1) buffer') ∧
      (editor.retext (editor.etherBufferPos - 1) buffer').text = editor.text.dropLast := by
  have hcursor := hsound.cursor
  have hpred := pred_toNat_of_pos hmoved
  have htextAt : TextAt editor.etherInputBuffer ((editor.etherBufferPos - 1).toNat + 1)
      editor.text := hpred ▸ hsound.textAt
  obtain ⟨buffer', hput, htext, hzero, hbehind⟩ := htextAt.back (by omega)
  have hbefore : (editor.retext (editor.etherBufferPos - 1) buffer').text =
      editor.text.dropLast := htext.before
  refine ⟨buffer', hput, ⟨?_, ?_, ?_, hsound.octet, hsound.number, hsound.settled⟩, hzero, hbefore⟩
  · show (editor.etherBufferPos - 1).toNat ≤ 15
    omega
  · show buffer'[15]? = some 0
    rw [hbehind 15 (by omega)]
    exact hsound.last
  · rw [hbefore]
    exact htext.clean

/-- A backspace over a dot opens the octet before it again. -/
theorem ipReopen_step (hsound : EtherSound editor) {last : UInt8}
    (hlast : editor.text.getLast? = some last) :
    ∃ edited, ipReopen last editor = some edited ∧ EtherSound edited ∧
      edited.retext editor.etherBufferPos editor.etherInputBuffer = edited ∧
      ∀ lcd, etherBackspace (editor.onto lcd) =
        { edited.onto lcd with etherInput := editor.text.dropLast.map UInt8.toNat } := by
  have hlist (lcd : LcdState) : (editor.onto lcd).etherInput.getLast? = some last.toNat := by
    show (editor.text.map UInt8.toNat).getLast? = _
    rw [List.getLast?_map, hlast]
    rfl
  have hdot : last.toNat = etherDot ↔ last = dotByte := UInt8.toNat_inj (b := dotByte)
  have hnumber := hsound.number
  by_cases hreopen : last = dotByte
  · by_cases hoctet : 0 < editor.etherCurrentOctet
    · have hpred := pred_toNat_of_pos hoctet
      have hbound := hsound.octet
      have hindex : (editor.etherCurrentOctet - 1).toNat < 4 := by omega
      let opened := editor.etherTempIp[(editor.etherCurrentOctet - 1).toNat]
      have hopened : opened.toUInt16.toNat = (octetsOf editor.etherTempIp).get
          (editor.etherCurrentOctet.toNat - 1) := by
        rw [← octetsOf_get (by omega)]
        simp only [← hpred, Nat.add_sub_cancel]
        exact UInt8.toNat_toUInt16 _
      refine ⟨{ editor with
        etherCurrentOctet := editor.etherCurrentOctet - 1
        etherCurrentNumber := opened.toUInt16
        etherHasInput := true }, ?_, ?_, rfl, fun lcd ↦ ?_⟩
      · rw [ipReopen, if_pos hreopen, if_pos hoctet, Vector.getElem?_eq_getElem hindex]
        rfl
      · refine ⟨hsound.cursor, hsound.last, hsound.clean, ?_, ?_, hsound.settled⟩
        · show (editor.etherCurrentOctet - 1).toNat ≤ 3
          omega
        · show opened.toUInt16.toNat ≤ 255
          rw [UInt8.toNat_toUInt16]
          exact Nat.le_of_lt_succ opened.toNat_lt
      · have hpred' : (editor.etherCurrentOctet - 1).toNat =
            editor.etherCurrentOctet.toNat - 1 := by omega
        have hlater : (editor.onto lcd).etherCurrentOctet > 0 := hoctet
        rw [etherBackspace, hlist lcd]
        dsimp only
        rw [if_pos (hdot.mpr hreopen), if_pos hlater]
        unfold EtherEditor.onto
        dsimp only
        rw [hopened, hpred', List.map_dropLast]
    · refine ⟨editor, ?_, hsound, rfl, fun lcd ↦ ?_⟩
      · rw [ipReopen, if_pos hreopen, if_neg hoctet]
      · have hfirst : ¬ (editor.onto lcd).etherCurrentOctet > 0 := hoctet
        rw [etherBackspace, hlist lcd]
        dsimp only
        rw [if_pos (hdot.mpr hreopen), if_neg hfirst, List.map_dropLast]
        rfl
  · let number := editor.etherCurrentNumber / 10
    have hshorter : number.toNat = editor.etherCurrentNumber.toNat / 10 := UInt16.toNat_div _ _
    have hflag : decide (number > 0) = decide (editor.etherCurrentNumber.toNat / 10 > 0) := by
      rw [← hshorter]
      rfl
    refine ⟨{ editor with
      etherCurrentNumber := number
      etherHasInput := decide (number > 0) }, ?_, ?_, rfl, fun lcd ↦ ?_⟩
    · rw [ipReopen, if_neg hreopen]
    · refine ⟨hsound.cursor, hsound.last, hsound.clean, hsound.octet, ?_, hsound.settled⟩
      show number.toNat ≤ 255
      omega
    · rw [etherBackspace, hlist lcd]
      dsimp only
      rw [if_neg (mt hdot.mp hreopen)]
      unfold EtherEditor.onto
      dsimp only
      rw [hflag, hshorter, List.map_dropLast]

/-- A backspace takes the last character, and what the number and the index owe to it. -/
theorem ipBackspace_step (hsound : EtherSound editor) :
    ∃ editor', ipBackspace editor = some editor' ∧ EtherStep etherBackspace editor editor' := by
  by_cases hmoved : editor.etherBufferPos > 0
  · obtain ⟨last, hread, hlast⟩ := hsound.getLast hmoved
    obtain ⟨edited, hreopen, hedited, hkept, hlist⟩ := ipReopen_step hsound hlast
    have hpos : edited.etherBufferPos = editor.etherBufferPos :=
      (congrArg EtherEditor.etherBufferPos hkept).symm
    obtain ⟨buffer', hput, hsound', hends, htext⟩ := hedited.back (hpos ▸ hmoved)
    refine ⟨_, ?_, hsound', fun _ ↦ hends, fun lcd ↦ ?_⟩
    · rw [ipBackspace, if_pos hmoved, hread, Option.bind_eq_bind, Option.bind_some, hreopen]
      show (putAt (edited.etherBufferPos - 1).toNat 0 edited.etherInputBuffer).bind _ = _
      rw [hput]
      rfl
    · have htext' : edited.text = editor.text := by
        rw [← hkept]
        rfl
      rw [hlist lcd, ← htext', ← htext]
      rfl
  · have hempty : editor.text = [] := by
      refine List.eq_nil_of_length_eq_zero (hsound.length.trans ?_)
      exact Nat.eq_zero_of_not_pos hmoved
    refine ⟨editor, if_neg hmoved, hsound, id, fun lcd ↦ ?_⟩
    have hnone : (editor.onto lcd).etherInput = [] := congrArg (List.map UInt8.toNat) hempty
    rw [etherBackspace, hnone]
    rfl

/-- ENTER stores the number, and the address goes to the selected shadow at once. -/
theorem ipEnter_step (hsound : EtherSound editor) :
    ∃ edited, ipEnter editor = some edited ∧ EtherStep etherEnter editor edited.commitIp := by
  obtain ⟨octets, hstore, hoctets⟩ := hsound.storeOctet
  let entered := if editor.etherHasInput then octets else editor.etherTempIp
  have hentered : octetsOf entered = if editor.etherHasInput then
      (octetsOf editor.etherTempIp).set editor.etherCurrentOctet.toNat
        (editor.etherCurrentNumber.toNat % 256)
      else octetsOf editor.etherTempIp := by
    rw [← hoctets]
    exact apply_ite octetsOf _ _ _
  have hstored : (if editor.etherHasInput then editor.storeOctet else some editor) =
      some { editor with etherTempIp := entered } := by
    show _ = some { editor with
      etherTempIp := if editor.etherHasInput then octets else editor.etherTempIp }
    rw [hstore]
    split_ifs <;> rfl
  refine ⟨{ editor with etherTempIp := entered, etherIpInputComplete := true }, ?_, ?_⟩
  · rw [ipEnter, hstored]
    rfl
  · have hlist (lcd : LcdState) : etherEnter (editor.onto lcd) =
        ({ editor with etherTempIp := entered, etherIpInputComplete := true } :
          EtherEditor).commitIp.onto lcd := by
      unfold etherEnter EtherEditor.commitIp EtherEditor.onto
      dsimp only
      rw [← hentered]
      cases editor.etherWhatInput <;> rfl
    refine ⟨?_, ?_, fun lcd ↦ (hlist lcd).symm⟩
    · unfold EtherEditor.commitIp
      dsimp only
      cases editor.etherWhatInput <;>
        exact ⟨hsound.cursor, hsound.last, hsound.clean, hsound.octet, hsound.number, rfl⟩
    · intro hends
      unfold EtherEditor.commitIp
      dsimp only
      cases editor.etherWhatInput <;> exact hends

/-- Without a confirmed address there is nothing to copy. -/
theorem EtherSound.commitIp (hsound : EtherSound editor) : editor.commitIp = editor := by
  rw [EtherEditor.commitIp, hsound.settled]
  rfl

/-- What a key that selects no field does to the list. -/
def typeKey (key : ℕ) (lcd : LcdState) : LcdState :=
  if key ≤ 9 then etherDigit key lcd
  else if key = 0x44 then etherNextOctet lcd
  else if key = 0x42 then etherBackspace lcd
  else if key = 0x45 then etherEnter lcd
  else lcd

/-- Every key is defined, and its copy to the shadow is part of its step. -/
theorem processIpChar_step (hsound : EtherSound editor) (key : UInt8) :
    ∃ edited, processIpChar key editor = some edited ∧
      EtherStep (typeKey key.toNat) editor edited.commitIp := by
  have hkeep {listStep : LcdState → LcdState} {edited : EtherEditor}
      (hstep : EtherStep listStep editor edited) : EtherStep listStep editor edited.commitIp :=
    hstep.sound.commitIp.symm ▸ hstep
  unfold processIpChar typeKey
  by_cases hdigit : key ≤ 9
  · have hdigit' : key.toNat ≤ 9 := hdigit
    obtain ⟨edited, hedit, hstep⟩ := ipDigit_step hsound hdigit
    simp only [hdigit, hdigit', if_true]
    exact ⟨edited, hedit, hkeep hstep⟩
  have hdigit' : ¬ key.toNat ≤ 9 := hdigit
  simp only [hdigit, hdigit', if_false]
  by_cases hdot : key = 0x44
  · obtain ⟨edited, hedit, hstep⟩ := ipDot_step hsound
    subst hdot
    exact ⟨edited, hedit, hkeep hstep⟩
  have hdot' : key.toNat ≠ 0x44 := toNat_ne hdot
  simp only [hdot, hdot', if_false]
  by_cases hback : key = 0x42
  · obtain ⟨edited, hedit, hstep⟩ := ipBackspace_step hsound
    subst hback
    exact ⟨edited, hedit, hkeep hstep⟩
  have hback' : key.toNat ≠ 0x42 := toNat_ne hback
  simp only [hback, hback', if_false]
  by_cases henter : key = 0x45
  · obtain ⟨edited, hedit, hstep⟩ := ipEnter_step hsound
    subst henter
    exact ⟨edited, hedit, hstep⟩
  have henter' : key.toNat ≠ 0x45 := toNat_ne henter
  simp only [henter, henter', if_false]
  exact ⟨editor, rfl, hkeep ⟨hsound, id, fun _ ↦ rfl⟩⟩

/-- The characters of an address are bytes, and none is zero. -/
theorem ipToString_chars (ip : Vector UInt8 4) :
    ∀ char ∈ ipToString (octetsOf ip), char ≠ 0 ∧ char < 256 := by
  have hoctet {octet : UInt8} {char : ℕ} (hmem : char ∈ octetText octet.toNat) :
      char ≠ 0 ∧ char < 256 := by
    obtain ⟨hlow, hhigh⟩ := (octetText_digits octet.toNat_lt).2.1 char hmem
    omega
  intro char hmem
  have hwhole := List.mem_of_mem_take hmem
  simp only [List.append_assoc, List.mem_append, List.cons_append, List.mem_cons] at hwhole
  rcases hwhole with h | rfl | h | rfl | h | rfl | h
  · exact hoctet h
  · decide
  · exact hoctet h
  · decide
  · exact hoctet h
  · decide
  · exact hoctet h

/-- The bytes of an address are its text, and zeroes behind it. -/
theorem ipToStringBytes_text (ip : Vector UInt8 4) :
    (ipToString (octetsOf ip)).length ≤ 15 ∧
      TextAt (ipToStringBytes ip) (ipToString (octetsOf ip)).length
        ((ipToString (octetsOf ip)).map UInt8.ofNat) ∧
      ∀ index, (ipToString (octetsOf ip)).length ≤ index → index < 16 →
        (ipToStringBytes ip)[index]? = some 0 := by
  have hlength : (ipToString (octetsOf ip)).length ≤ 15 := List.length_take_le _ _
  have hbyte {index : ℕ} (hindex : index < 16) : (ipToStringBytes ip)[index] =
      UInt8.ofNat ((ipToString (octetsOf ip)).getD index 0) := Vector.getElem_ofFn hindex
  refine ⟨hlength, ⟨?_, ?_⟩, fun index hbehind hindex ↦ ?_⟩
  · refine List.ext_getElem ?_ fun index hleft hright ↦ ?_
    · rw [List.length_take, Vector.length_toList, List.length_map]
      omega
    · rw [List.length_map] at hright
      rw [List.getElem_take, Vector.getElem_toList, List.getElem_map, hbyte,
        List.getD_eq_getElem?_getD, List.getElem?_eq_getElem hright]
      rfl
  · intro hmem
    obtain ⟨char, hchar, hzero⟩ := List.mem_map.mp hmem
    obtain ⟨hnonzero, hsmall⟩ := ipToString_chars ip char hchar
    have hnat := congrArg UInt8.toNat hzero
    rw [UInt8.toNat_ofNat_of_lt' hsmall] at hnat
    exact hnonzero hnat
  · rw [Vector.getElem?_eq_getElem hindex, hbyte hindex, List.getD_eq_getElem?_getD,
      List.getElem?_eq_none hbehind]
    rfl

/-- A selected field shows its shadow, with the cursor behind the text. -/
theorem etherSelectFieldBytes_step (hsound : EtherSound editor) (field : EtherField)
    (shadow : Vector UInt8 4) :
    ∃ editor', etherSelectFieldBytes field shadow editor = some editor' ∧ EtherSound editor' ∧
      EndsAtCursor editor' ∧
      ∀ lcd, editor'.onto lcd = etherSelectField field (octetsOf shadow) (editor.onto lcd) := by
  obtain ⟨hlength, htext, hbehind⟩ := ipToStringBytes_text shadow
  have hstrlen := htext.strlen (hbehind _ (Nat.le_refl _) (by omega))
  let selected := { editor with
    etherWhatInput := field
    etherInputBuffer := ipToStringBytes shadow
    etherBufferPos := UInt8.ofNat (ipToString (octetsOf shadow)).length
    etherTempIp := shadow
    etherCurrentOctet := 3
    etherCurrentNumber := editor.tempEtherIp[3].toUInt16
    etherHasInput := true }
  have hpos : selected.etherBufferPos.toNat = (ipToString (octetsOf shadow)).length :=
    UInt8.toNat_ofNat_of_lt' (by show _ < 256; omega)
  have hshown : selected.text = (ipToString (octetsOf shadow)).map UInt8.ofNat := by
    rw [EtherEditor.text, hpos]
    exact htext.before
  refine ⟨selected, ?_, ⟨?_, hbehind 15 hlength (by omega), ?_, ?_, ?_, hsound.settled⟩, ?_,
    fun lcd ↦ ?_⟩
  · rw [etherSelectFieldBytes, hstrlen]
    rfl
  · omega
  · rw [hshown]
    exact htext.clean
  · exact Nat.le_refl 3
  · show editor.tempEtherIp[3].toUInt16.toNat ≤ 255
    rw [UInt8.toNat_toUInt16]
    exact Nat.le_of_lt_succ (UInt8.toNat_lt _)
  · show (ipToStringBytes shadow)[selected.etherBufferPos.toNat]? = some 0
    exact hbehind _ hpos.ge (by omega)
  · have hchars : selected.text.map UInt8.toNat = ipToString (octetsOf shadow) := by
      rw [hshown, List.map_map]
      refine (List.map_congr_left fun char hmem ↦ ?_).trans (List.map_id _)
      exact UInt8.toNat_ofNat_of_lt' (ipToString_chars shadow char hmem).2
    unfold etherSelectField EtherEditor.onto
    dsimp only
    rw [hchars]
    rfl

end Branches

/-! ### Keys and pages -/

/-- A text of 16 bytes that ends in a zero. -/
structure Terminated (bytes : List UInt8) : Prop where
  length : bytes.length = 16
  last : bytes[15]? = some 0

theorem length_lcdDataPdd (finished : Bool) (bytes : List UInt8) :
    (lcdDataPdd finished bytes).length = bytes.length := by
  induction bytes generalizing finished with
  | nil => rfl
  | cons byte rest ih => exact congrArg Nat.succ (ih _)

/-- A zero stays one. -/
theorem lcdDataPdd_zero (finished : Bool) {bytes : List UInt8} {index : ℕ}
    (hzero : bytes[index]? = some 0) : (lcdDataPdd finished bytes)[index]? = some 0 := by
  induction bytes generalizing finished index with
  | nil => cases hzero
  | cons byte rest ih =>
    cases index with
    | zero =>
      have hbyte : byte = 0 := Option.some.inj hzero
      rw [hbyte, lcdDataPdd]
      exact congrArg some (ite_self _)
    | succ index => exact ih _ hzero

theorem terminated_of_last {buffer : Vector UInt8 16} (hlast : buffer[15]? = some 0) :
    Terminated buffer.toList :=
  ⟨Vector.length_toList, (Vector.getElem?_toList ..).trans hlast⟩

theorem terminated_echoText {buffer : Vector UInt8 16} (hlast : buffer[15]? = some 0) :
    Terminated (echoText buffer) :=
  ⟨(length_lcdDataPdd _ _).trans (terminated_of_last hlast).length,
    lcdDataPdd_zero _ (terminated_of_last hlast).last⟩

theorem ipToStringBytes_last (ip : Vector UInt8 4) : (ipToStringBytes ip)[15]? = some 0 := by
  obtain ⟨hlength, -, hbehind⟩ := ipToStringBytes_text ip
  exact hbehind 15 hlength (by omega)

/-- The call selects a field. -/
def EtherCall.selects : EtherCall → Prop
  | .key data => selectsField data.toUInt8
  | .commPage .. => False

/-- The call is an entry to a communication page that seeds the shadows again. -/
def EtherCall.reseeds : EtherCall → Prop
  | .key _ => False
  | .commPage tempCommMode .. => tempCommMode = 0xFF

/-- What a call leaves behind: a sound editor, terminated texts, and the text ending at the cursor,
if the call selects a field, or seeds no shadow and finds it so. -/
structure EtherDone (call : EtherCall) (editor editor' : EtherEditor)
    (echoes : List (ℕ × List UInt8)) : Prop where
  sound : EtherSound editor'
  echoed : ∀ echo ∈ echoes, Terminated echo.2
  selected : call.selects → EndsAtCursor editor'
  kept : ¬ call.reseeds → EndsAtCursor editor → EndsAtCursor editor'

section Calls

variable {editor : EtherEditor}

/-- What a key that selects a field does to the list. -/
def selectKey (key : ℕ) (lcd : LcdState) : LcdState :=
  if key = 0x49 then etherSelectField .ip lcd.tempEtherIp lcd
  else if key = 0x4D then etherSelectField .nm lcd.tempEtherNm lcd
  else etherSelectField .gw lcd.tempEtherGw lcd

theorem etherSelectKey_step (hsound : EtherSound editor) {key : UInt8}
    (hselects : selectsField key) :
    ∃ editor', etherSelectKey key editor = some editor' ∧ EtherSound editor' ∧
      EndsAtCursor editor' ∧
      ∀ lcd, editor'.onto lcd = selectKey key.toNat (editor.onto lcd) := by
  rcases hselects with rfl | rfl | rfl
  · exact etherSelectFieldBytes_step hsound .ip editor.tempEtherIp
  · exact etherSelectFieldBytes_step hsound .nm editor.tempEtherNm
  · exact etherSelectFieldBytes_step hsound .gw editor.tempEtherGw

/-- The keys of the list, by whether they select a field. -/
theorem handleEtherKey_eq {data : ℕ} {key : UInt8} (hkey : data % 256 = key.toNat) (s : Sys) :
    (handleEtherKey data s).lcd =
      if selectsField key then selectKey key.toNat s.lcd else typeKey key.toNat s.lcd := by
  unfold handleEtherKey
  dsimp only
  rw [hkey]
  by_cases hselects : selectsField key
  · rw [if_pos hselects]
    rcases hselects with rfl | rfl | rfl <;> rfl
  · have hip := not_or.mp hselects
    have hrest := not_or.mp hip.2
    have hip' : key.toNat ≠ 0x49 := toNat_ne hip.1
    have hnm' : key.toNat ≠ 0x4D := toNat_ne hrest.1
    have hgw' : key.toNat ≠ 0x47 := toNat_ne hrest.2
    rw [if_neg hselects, if_neg hip', if_neg hnm', if_neg hgw']
    rfl

/-- A key is defined, and does to the list what it does to the buffer. -/
theorem handleEtherKeyBytes_step (hsound : EtherSound editor) (data : UInt16) :
    ∃ editor' echoes, handleEtherKeyBytes data editor = some (editor', echoes) ∧
      EtherDone (.key data) editor editor' echoes ∧
      ∀ s : Sys, s.lcd = editor.onto s.lcd →
        (handleEtherKey data.toNat s).lcd = editor'.onto s.lcd := by
  have hkey : data.toNat % 256 = data.toUInt8.toNat := (UInt16.toNat_toUInt8 data).symm
  by_cases hselects : selectsField data.toUInt8
  · obtain ⟨editor', hselected, hsound', hends, hlist⟩ := etherSelectKey_step hsound hselects
    refine ⟨editor', editor.shadowEchoes, ?_, ⟨hsound', ?_, fun _ ↦ hends, fun _ _ ↦ hends⟩,
      fun s hs ↦ ?_⟩
    · rw [handleEtherKeyBytes]
      dsimp only
      rw [if_pos hselects, hselected]
      rfl
    · intro echo hmem
      simp only [EtherEditor.shadowEchoes, List.mem_cons, List.not_mem_nil, or_false] at hmem
      rcases hmem with rfl | rfl | rfl <;> dsimp only <;>
        exact terminated_echoText (ipToStringBytes_last _)
    · rw [hlist, ← hs, handleEtherKey_eq hkey, if_pos hselects]
  · obtain ⟨edited, hedit, hstep⟩ := processIpChar_step hsound data.toUInt8
    refine ⟨edited.commitIp, [(edited.commitIp.etherWhatInput.echoVp,
      echoText edited.commitIp.etherInputBuffer)], ?_, ⟨hstep.sound, ?_,
      fun h ↦ absurd h hselects, fun _ ↦ hstep.ends⟩, fun s hs ↦ ?_⟩
    · rw [handleEtherKeyBytes]
      dsimp only
      rw [if_neg hselects, hedit]
      rfl
    · intro echo hmem
      rw [List.mem_singleton.mp hmem]
      exact terminated_echoText hstep.sound.last
    · rw [hstep.list, ← hs, handleEtherKey_eq hkey, if_neg hselects]

/-- An entry to a communication page that seeds the shadows empties the text. -/
theorem renderCommPageEditor_step (hsound : EtherSound editor) (tempCommMode : UInt8)
    (ip nm gw : Vector UInt8 4) :
    EtherDone (.commPage tempCommMode ip nm gw) editor
      (renderCommPageEditor tempCommMode ip nm gw editor).1
      (renderCommPageEditor tempCommMode ip nm gw editor).2 := by
  unfold renderCommPageEditor
  by_cases hseed : tempCommMode = 0xFF
  · rw [if_pos hseed]
    refine ⟨⟨Nat.zero_le _, hsound.last, List.not_mem_nil, Nat.zero_le _, Nat.zero_le _, rfl⟩, ?_,
      False.elim, fun h ↦ absurd hseed h⟩
    intro echo hmem
    simp only [List.mem_cons, List.not_mem_nil, or_false] at hmem
    rcases hmem with rfl | rfl | rfl <;> dsimp only <;>
      exact terminated_of_last (ipToStringBytes_last _)
  · rw [if_neg hseed]
    exact ⟨hsound, fun _ hmem ↦ absurd hmem List.not_mem_nil, False.elim, fun _ ↦ id⟩

/-- Every call is defined. -/
theorem etherCall_done (hsound : EtherSound editor) (call : EtherCall) :
    ∃ editor' echoes, call.run editor = some (editor', echoes) ∧
      EtherDone call editor editor' echoes := by
  cases call with
  | key data =>
    obtain ⟨editor', echoes, hrun, hdone, -⟩ := handleEtherKeyBytes_step hsound data
    exact ⟨editor', echoes, hrun, hdone⟩
  | commPage tempCommMode ip nm gw =>
    exact ⟨_, _, rfl, renderCommPageEditor_step hsound tempCommMode ip nm gw⟩

end Calls

/-! ### Sequences of calls -/

theorem etherEditorInit_sound : EtherSound etherEditorInit :=
  ⟨Nat.zero_le _, rfl, List.not_mem_nil, Nat.zero_le _, Nat.zero_le _, rfl⟩

/-- The editor behind a call. -/
theorem etherAfter_cons {calls : List EtherCall} {editor editor' : EtherEditor}
    {call : EtherCall} {echoes : List (ℕ × List UInt8)} (hafter : etherAfter calls = some editor)
    (hrun : call.run editor = some (editor', echoes)) :
    etherAfter (call :: calls) = some editor' := by
  show ((etherAfter calls).bind call.run).map Prod.fst = _
  rw [hafter, Option.bind_some, hrun]
  rfl

/-- Every sequence of calls is defined, and leaves a sound editor. -/
theorem etherAfter_sound (calls : List EtherCall) :
    ∃ editor, etherAfter calls = some editor ∧ EtherSound editor := by
  induction calls with
  | nil => exact ⟨_, rfl, etherEditorInit_sound⟩
  | cons call calls ih =>
    obtain ⟨editor, hafter, hsound⟩ := ih
    obtain ⟨editor', echoes, hrun, hdone⟩ := etherCall_done hsound call
    exact ⟨editor', etherAfter_cons hafter hrun, hdone.sound⟩

/-- A field has been selected, and no page has seeded the shadows again since. -/
def fieldSince : Past EtherCall :=
  since (fun calls ↦ ∀ call ∈ calls.head?, ¬ call.reseeds)
    (fun calls ↦ ∃ call ∈ calls.head?, call.selects)

/-- From a selection to the next seeding the text ends at the cursor. -/
theorem fieldSince_ends {calls : List EtherCall} (hsince : fieldSince calls) :
    ∀ editor ∈ etherAfter calls, EndsAtCursor editor := by
  refine since_induction (fun calls ↦ ∀ editor ∈ etherAfter calls, EndsAtCursor editor)
    (fun call past htrigger ↦ ?_) (fun call past hhold ih ↦ ?_) calls hsince
  · obtain ⟨editor, hafter, hsound⟩ := etherAfter_sound past
    obtain ⟨editor', echoes, hrun, hdone⟩ := etherCall_done hsound call
    rintro _ hmem
    rw [etherAfter_cons hafter hrun] at hmem
    obtain ⟨newest, hnewest, hselects⟩ := htrigger
    cases hnewest
    cases hmem
    exact hdone.selected hselects
  · obtain ⟨editor, hafter, hsound⟩ := etherAfter_sound past
    obtain ⟨editor', echoes, hrun, hdone⟩ := etherCall_done hsound call
    rintro _ hmem
    rw [etherAfter_cons hafter hrun] at hmem
    cases hmem
    exact hdone.kept (hhold call rfl) (ih editor hafter)

/-- For every sequence of editor keys and entries to the communication pages: the editor is defined,
its cursor, index and number are in their bounds, and the last byte of its buffer is zero. The
number is stored as it is, every further call is defined and sends terminated texts of 16 bytes,
and from the selection of a field to the next seeding the text is as long as the cursor says. -/
theorem ether_buffer_safe (calls : List EtherCall) :
    ∃ editor, etherAfter calls = some editor ∧
      (editor.etherBufferPos ≤ 15 ∧ editor.etherInputBuffer[15] = 0 ∧
        editor.etherCurrentOctet ≤ 3 ∧ editor.etherCurrentNumber ≤ 255) ∧
      editor.etherCurrentNumber.toUInt8.toNat = editor.etherCurrentNumber.toNat ∧
      (∀ call : EtherCall, ∃ editor' echoes, call.run editor = some (editor', echoes) ∧
        ∀ echo ∈ echoes, Terminated echo.2) ∧
      (fieldSince calls → strlen editor.etherInputBuffer = some editor.etherBufferPos.toNat) := by
  obtain ⟨editor, hafter, hsound⟩ := etherAfter_sound calls
  have hlast : editor.etherInputBuffer[15] = 0 :=
    (Vector.getElem?_eq_some_iff.mp hsound.last).choose_spec
  have hnumber := hsound.number
  refine ⟨editor, hafter, ⟨hsound.cursor, hlast, hsound.octet, hsound.number⟩, ?_, fun call ↦ ?_,
    fun hsince ↦ ?_⟩
  · rw [UInt16.toNat_toUInt8]
    omega
  · obtain ⟨editor', echoes, hrun, hdone⟩ := etherCall_done hsound call
    exact ⟨editor', echoes, hrun, hdone.echoed⟩
  · exact hsound.textAt.strlen (fieldSince_ends hsince editor hafter)

end UsCtrl
