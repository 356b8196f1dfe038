import Mathlib.Data.List.GetD
import UsCtrl.ModbusCore

/-!
# The display line

`dgus_lcd.c` from the byte up: the frames that are sent (`send_frame`) and the parser of the bytes
that are received (`parser_step`). A frame is two sync bytes, a length and a body of command,
address and payload; the sync bytes may occur in the body, so it is the length that ends it.

What the parser knows of a frame in the making is `Collects`. A step that is in time takes the next
byte of the body, and the last one delivers the frame (`collects_step`, `collects_last`); a step
that is late drops the frame and the byte with it (`collects_late`). From these: the bytes of a
frame deliver it (`feed_frame`), the bytes of many frames deliver them in order, with sync bytes
strewn in between (`dgus_round_trip`). For any stream at all, `feed_fits` bounds what is written,
and `delivered_short` says that a frame cannot be delivered by fewer bytes than it has.
-/

set_option autoImplicit false
set_option relaxedAutoImplicit false

namespace UsCtrl

/-! ### `dgus_lcd.c` -/

/-- `DGUS_SYNC1`, `DGUS_SYNC2`, `DGUS_LEN_MIN`, `DGUS_LEN_MAX`, `DGUS_FRAME_TIMEOUT_MS`,
`DGUS_MAX_DATA`. -/
def dgusSync1 : UInt8 := 0x5A

def dgusSync2 : UInt8 := 0xA5

def dgusLenMin : ℕ := 4

def dgusLenMax : ℕ := 26

def dgusFrameTimeoutMs : ℕ := 50

def dgusMaxData : ℕ := 23

/-- `send_frame`: the bytes handed to the line. -/
def sendFrame (cmd : UInt8) (vp : UInt16) (payload : List UInt8) : List UInt8 :=
  [dgusSync1, dgusSync2, UInt8.ofNat (3 + payload.length), cmd] ++ wordBytes vp.toNat ++ payload

/-- `dgus_frame_t`; `data` is what the copy loop writes of the array. -/
structure DgusFrame where
  cmd : UInt8
  vpAddr : ℕ
  dataLen : ℕ
  data : List UInt8
  deriving DecidableEq, Repr

/-- `PS_IDLE .. PS_COLLECTING`. -/
inductive ParseState
  | idle
  | got5A
  | gotHeader
  | collecting
  deriving DecidableEq, Repr

/-- The static state of the parser. The frame buffer is memory from its first byte on; that the
parser stays inside its 32 bytes is proved. -/
structure DgusParser where
  state : ParseState
  frameBuf : ℕ → UInt8
  frameIdx : ℕ
  bytesRemaining : ℕ
  frameStartMs : ℕ
  rxDropCount : ℕ

/-- `dgus_init`, on the cleared memory of a boot. -/
def dgusInit : DgusParser := ⟨.idle, fun _ ↦ 0, 0, 0, 0, 0⟩

/-- The frame the parser hands out of its buffer; both counts are bytes. -/
def frameOfBuf (buf : ℕ → UInt8) (idx : ℕ) : DgusFrame where
  cmd := buf 0
  vpAddr := (buf 1).toNat * 256 + (buf 2).toNat
  dataLen := (idx + 253) % 256
  data := (List.range (min ((idx + 253) % 256) dgusMaxData)).map fun i ↦ buf (3 + i)

/-- A frame in the making is given up. -/
def DgusParser.drop (parser : DgusParser) : DgusParser :=
  { parser with state := .idle, rxDropCount := (parser.rxDropCount + 1) % 65536 }

/-- `parser_step` with what it reads of the clock; a frame is its `true`. -/
def parserStep (now : ℕ) (byte : UInt8) (parser : DgusParser) : DgusParser × Option DgusFrame :=
  match parser.state with
  | .idle => (if byte = dgusSync1 then { parser with state := .got5A } else parser, none)
  | .got5A =>
    (if byte = dgusSync2 then { parser with state := .gotHeader, frameStartMs := now }
      else if byte = dgusSync1 then parser
      else { parser with state := .idle }, none)
  | .gotHeader =>
    (if byte.toNat < dgusLenMin ∨ byte.toNat > dgusLenMax then parser.drop
      else { parser with bytesRemaining := byte.toNat, frameIdx := 0, state := .collecting }, none)
  | .collecting =>
    -- the byte that shows the time-out is not looked at
    if elapsedMs now parser.frameStartMs > dgusFrameTimeoutMs then (parser.drop, none)
    else
      let parser := { parser with
        frameBuf := Function.update parser.frameBuf parser.frameIdx byte
        frameIdx := (parser.frameIdx + 1) % 256
        bytesRemaining := (parser.bytesRemaining + 255) % 256 }
      if parser.bytesRemaining = 0 then
        ({ parser with state := .idle }, some (frameOfBuf parser.frameBuf parser.frameIdx))
      else (parser, none)

/-! ### A stream of bytes -/

/-- A byte and what the clock reads when it is parsed. -/
abbrev Stamped := ℕ × UInt8

/-- The parser behind a stream. -/
def feed (stream : List Stamped) (parser : DgusParser) : DgusParser :=
  stream.foldl (fun parser stamped ↦ (parserStep stamped.1 stamped.2 parser).1) parser

/-- The frames a stream delivers. -/
def delivered : List Stamped → DgusParser → List DgusFrame
  | [], _ => []
  | stamped :: stream, parser =>
    (parserStep stamped.1 stamped.2 parser).2.toList ++
      delivered stream (parserStep stamped.1 stamped.2 parser).1

/-- No byte of the stream shows a time-out. -/
def NoTimeout : List Stamped → DgusParser → Prop
  | [], _ => True
  | stamped :: stream, parser =>
    (parser.state = .collecting →
        elapsedMs stamped.1 parser.frameStartMs ≤ dgusFrameTimeoutMs) ∧
      NoTimeout stream (parserStep stamped.1 stamped.2 parser).1

instance decidableNoTimeout :
    (stream : List Stamped) → (parser : DgusParser) → Decidable (NoTimeout stream parser)
  | [], _ => isTrue trivial
  | stamped :: stream, parser =>
    have := decidableNoTimeout stream (parserStep stamped.1 stamped.2 parser).1
    inferInstanceAs (Decidable ((parser.state = .collecting →
        elapsedMs stamped.1 parser.frameStartMs ≤ dgusFrameTimeoutMs) ∧
      NoTimeout stream (parserStep stamped.1 stamped.2 parser).1))

@[simp] theorem feed_nil (parser : DgusParser) : feed [] parser = parser := rfl

@[simp] theorem feed_cons (stamped : Stamped) (stream : List Stamped) (parser : DgusParser) :
    feed (stamped :: stream) parser = feed stream (parserStep stamped.1 stamped.2 parser).1 := rfl

theorem feed_append (stream stream' : List Stamped) (parser : DgusParser) :
    feed (stream ++ stream') parser = feed stream' (feed stream parser) := List.foldl_append

@[simp] theorem delivered_nil (parser : DgusParser) : delivered [] parser = [] := rfl

@[simp] theorem delivered_cons (stamped : Stamped) (stream : List Stamped) (parser : DgusParser) :
    delivered (stamped :: stream) parser =
      (parserStep stamped.1 stamped.2 parser).2.toList ++
        delivered stream (parserStep stamped.1 stamped.2 parser).1 := rfl

theorem delivered_append (stream stream' : List Stamped) (parser : DgusParser) :
    delivered (stream ++ stream') parser =
      delivered stream parser ++ delivered stream' (feed stream parser) := by
  induction stream generalizing parser with
  | nil => rfl
  | cons stamped stream ih =>
    rw [List.cons_append, delivered_cons, ih, delivered_cons, List.append_assoc]
    rfl

theorem noTimeout_append (stream stream' : List Stamped) (parser : DgusParser) :
    NoTimeout (stream ++ stream') parser ↔
      NoTimeout stream parser ∧ NoTimeout stream' (feed stream parser) := by
  induction stream generalizing parser with
  | nil => simp [NoTimeout]
  | cons stamped stream ih =>
    rw [List.cons_append, NoTimeout, ih, NoTimeout, and_assoc]
    rfl

/-! ### A frame in the making -/

/-- The bytes of a frame with a given body. -/
def frameBytes (body : List UInt8) : List UInt8 :=
  [dgusSync1, dgusSync2, UInt8.ofNat body.length] ++ body

/-- The frame with a given body. -/
def frameOf (body : List UInt8) : DgusFrame := frameOfBuf (fun i ↦ body.getD i 0) body.length

/-- A body is as long as the length byte may say. -/
def ValidBody (body : List UInt8) : Prop := dgusLenMin ≤ body.length ∧ body.length ≤ dgusLenMax

/-- The parser has stored `got` of a body and waits for `left` more bytes of it. -/
structure Collects (got : List UInt8) (left : ℕ) (parser : DgusParser) : Prop where
  state : parser.state = .collecting
  idx : parser.frameIdx = got.length
  remaining : parser.bytesRemaining = left
  pending : 0 < left
  least : dgusLenMin ≤ got.length + left
  most : got.length + left ≤ dgusLenMax
  stored : ∀ i < got.length, got[i]? = some (parser.frameBuf i)

/-- The byte is in time. -/
def InTime (now : ℕ) (parser : DgusParser) : Prop :=
  elapsedMs now parser.frameStartMs ≤ dgusFrameTimeoutMs

section Parser

variable {now left : ℕ} {byte : UInt8} {got body : List UInt8} {parser : DgusParser}

theorem frameOfBuf_congr {buf buf' : ℕ → UInt8} {idx : ℕ} (hleast : dgusLenMin ≤ idx)
    (hmost : idx ≤ dgusLenMax) (hsame : ∀ i < idx, buf i = buf' i) :
    frameOfBuf buf idx = frameOfBuf buf' idx := by
  have hfour : 4 ≤ idx := hleast
  have htop : idx ≤ 26 := hmost
  have hdata : (List.range (min ((idx + 253) % 256) dgusMaxData)).map (fun i ↦ buf (3 + i)) =
      (List.range (min ((idx + 253) % 256) dgusMaxData)).map fun i ↦ buf' (3 + i) := by
    refine List.map_congr_left fun i hi ↦ hsame (3 + i) ?_
    rw [List.mem_range] at hi
    omega
  unfold frameOfBuf
  rw [hsame 0 (by omega), hsame 1 (by omega), hsame 2 (by omega), hdata]

/-- The buffer behind the next byte. -/
theorem Collects.stored_next (hcollects : Collects got left parser) (byte : UInt8) :
    ∀ i < (got ++ [byte]).length, (got ++ [byte])[i]? =
      some (Function.update parser.frameBuf parser.frameIdx byte i) := by
  intro i hi
  rw [hcollects.idx]
  rw [List.length_append, List.length_singleton] at hi
  rcases Nat.lt_succ_iff_lt_or_eq.mp hi with hlt | rfl
  · rw [List.getElem?_append_left hlt, hcollects.stored i hlt,
      Function.update_of_ne (Nat.ne_of_lt hlt)]
  · rw [List.getElem?_concat_length, Function.update_self]

/-- A byte in time that is not the last one is stored. -/
theorem collects_step (hcollects : Collects got (left + 1) parser) (hleft : 0 < left)
    (htime : InTime now parser) :
    (parserStep now byte parser).2 = none ∧
      Collects (got ++ [byte]) left (parserStep now byte parser).1 ∧
      (parserStep now byte parser).1.frameStartMs = parser.frameStartMs := by
  have hmost : got.length + (left + 1) ≤ 26 := hcollects.most
  have hleast : 4 ≤ got.length + (left + 1) := hcollects.least
  have hidx : (got.length + 1) % 256 = got.length + 1 := Nat.mod_eq_of_lt (by omega)
  have hremaining : (left + 1 + 255) % 256 = left := by omega
  have hstored := hcollects.stored_next byte
  have hlength : (got ++ [byte]).length = got.length + 1 := by simp
  rw [parserStep, hcollects.state]
  dsimp only
  rw [if_neg (Nat.not_lt.mpr htime), hcollects.remaining, hremaining, if_neg (by omega)]
  refine ⟨rfl, ⟨rfl, ?_, rfl, hleft, ?_, ?_, hstored⟩, rfl⟩
  · show (parser.frameIdx + 1) % 256 = _
    rw [hcollects.idx, hidx, hlength]
  · show 4 ≤ (got ++ [byte]).length + left
    omega
  · show (got ++ [byte]).length + left ≤ 26
    omega

/-- The last byte in time delivers the frame. -/
theorem collects_last (hcollects : Collects got 1 parser) (htime : InTime now parser) :
    (parserStep now byte parser).2 = some (frameOf (got ++ [byte])) ∧
      (parserStep now byte parser).1.state = .idle := by
  have hmost : got.length + 1 ≤ 26 := hcollects.most
  have hleast : 4 ≤ got.length + 1 := hcollects.least
  have hstored := hcollects.stored_next byte
  have hlength : (got ++ [byte]).length = got.length + 1 := by simp
  have hframe : frameOfBuf (Function.update parser.frameBuf parser.frameIdx byte)
      (got.length + 1) = frameOf (got ++ [byte]) := by
    rw [frameOf, hlength]
    refine frameOfBuf_congr hleast hmost fun i hi ↦ ?_
    rw [List.getD_eq_getElem?_getD, hstored i (by omega), Option.getD_some]
  rw [parserStep, hcollects.state]
  dsimp only
  rw [if_neg (Nat.not_lt.mpr htime), hcollects.remaining, if_pos (by decide), hcollects.idx,
    Nat.mod_eq_of_lt (show got.length + 1 < 256 by omega), ← hframe, hcollects.idx]
  exact ⟨rfl, rfl⟩

/-- A byte that is late drops the frame, and is dropped with it. -/
theorem collects_late (hstate : parser.state = .collecting) (hlate : ¬ InTime now parser) :
    parserStep now byte parser = (parser.drop, none) := by
  rw [parserStep, hstate]
  exact if_pos (not_le.mp hlate)

/-- Bytes in time that do not complete the body are stored. -/
theorem feed_collects {stream : List Stamped}
    (hcollects : Collects got (stream.length + left) parser) (hleft : 0 < left)
    (htime : NoTimeout stream parser) :
    delivered stream parser = [] ∧
      Collects (got ++ stream.map Prod.snd) left (feed stream parser) := by
  induction stream generalizing got parser with
  | nil =>
    rw [List.length_nil, Nat.zero_add] at hcollects
    rw [List.map_nil, List.append_nil]
    exact ⟨rfl, hcollects⟩
  | cons stamped stream ih =>
    rw [List.length_cons, Nat.add_right_comm] at hcollects
    have hnow : InTime stamped.1 parser := htime.1 hcollects.state
    obtain ⟨hnone, hnext, -⟩ := @collects_step stamped.1 _ stamped.2 _ _ hcollects (by omega) hnow
    obtain ⟨hrest, hthen⟩ := ih hnext htime.2
    rw [List.append_assoc] at hthen
    refine ⟨?_, hthen⟩
    rw [delivered_cons, hnone, hrest]
    rfl

/-! ### Frames -/

/-- A header may follow: the parser is idle, or has seen sync bytes only. -/
def AtHeader (parser : DgusParser) : Prop := parser.state = .idle ∨ parser.state = .got5A

theorem parserStep_sync1 (hheader : AtHeader parser) :
    (parserStep now dgusSync1 parser).2 = none ∧
      (parserStep now dgusSync1 parser).1.state = .got5A := by
  have hsync : dgusSync1 ≠ dgusSync2 := by decide
  rcases hheader with h | h
  · rw [parserStep, h]
    exact ⟨rfl, rfl⟩
  · rw [parserStep, h]
    dsimp only
    rw [if_neg hsync, if_pos rfl]
    exact ⟨rfl, h⟩

theorem parserStep_sync2 (hstate : parser.state = .got5A) :
    parserStep now dgusSync2 parser =
      ({ parser with state := .gotHeader, frameStartMs := now }, none) := by
  rw [parserStep, hstate]
  rfl

theorem parserStep_length (hstate : parser.state = .gotHeader) (hbody : ValidBody body) :
    (parserStep now (UInt8.ofNat body.length) parser).2 = none ∧
      Collects [] body.length (parserStep now (UInt8.ofNat body.length) parser).1 ∧
      (parserStep now (UInt8.ofNat body.length) parser).1.frameStartMs = parser.frameStartMs := by
  have hleast : 4 ≤ body.length := hbody.1
  have hmost : body.length ≤ 26 := hbody.2
  have hbyte : (UInt8.ofNat body.length).toNat = body.length :=
    UInt8.toNat_ofNat_of_lt' (show body.length < 256 by omega)
  have hvalid : ¬ (body.length < dgusLenMin ∨ body.length > dgusLenMax) := by
    show ¬ (body.length < 4 ∨ body.length > 26)
    omega
  rw [parserStep, hstate]
  dsimp only
  rw [hbyte, if_neg hvalid]
  refine ⟨rfl, ⟨rfl, rfl, rfl, by omega, ?_, ?_, fun i hi ↦ absurd hi (Nat.not_lt_zero i)⟩, rfl⟩
  · simpa using hbody.1
  · simpa using hbody.2

/-- The header of a frame, read at three times. -/
def headerStream (first second third : ℕ) (body : List UInt8) : List Stamped :=
  [(first, dgusSync1), (second, dgusSync2), (third, UInt8.ofNat body.length)]

/-- The stream of a frame is its header and its body. -/
theorem stream_of_frame {stream : List Stamped} (hbytes : stream.map Prod.snd = frameBytes body) :
    ∃ first second third rest, stream = headerStream first second third body ++ rest ∧
      rest.map Prod.snd = body := by
  rcases stream with _ | ⟨⟨first, _⟩, _ | ⟨⟨second, _⟩, _ | ⟨⟨third, _⟩, rest⟩⟩⟩
  iterate 3 · simp [frameBytes] at hbytes
  simp only [List.map_cons, frameBytes, List.cons_append, List.nil_append, List.cons.injEq]
    at hbytes
  obtain ⟨rfl, rfl, rfl, hrest⟩ := hbytes
  exact ⟨first, second, third, rest, rfl, hrest⟩

/-- A header starts a frame; its time counts from the second sync byte. -/
theorem feed_header (hheader : AtHeader parser) (hbody : ValidBody body) (first second third : ℕ) :
    delivered (headerStream first second third body) parser = [] ∧
      Collects [] body.length (feed (headerStream first second third body) parser) ∧
      (feed (headerStream first second third body) parser).frameStartMs = second := by
  obtain ⟨hnone₁, hstate₁⟩ := @parserStep_sync1 first _ hheader
  have hstep₂ := @parserStep_sync2 second _ hstate₁
  obtain ⟨hnone₃, hcollects, hstart⟩ :=
    @parserStep_length third _ { (parserStep first dgusSync1 parser).1 with
      state := .gotHeader, frameStartMs := second } rfl hbody
  simp only [headerStream, delivered_cons, delivered_nil, feed_cons, feed_nil, hnone₁, hstep₂,
    hnone₃]
  exact ⟨rfl, hcollects, hstart⟩

/-- What has delivered nothing had not delivered anything before. -/
theorem delivered_initial {stream stream' : List Stamped}
    (hnone : delivered (stream ++ stream') parser = []) : delivered stream parser = [] := by
  rw [delivered_append] at hnone
  exact (List.append_eq_nil_iff.mp hnone).1

/-- Assumes: the parser is at a header, and no byte of the frame is late. The frame is delivered by
its last byte, and the parser is idle. -/
theorem feed_frame {stream : List Stamped} (hheader : AtHeader parser) (hbody : ValidBody body)
    (hbytes : stream.map Prod.snd = frameBytes body) (htime : NoTimeout stream parser) :
    delivered stream parser = [frameOf body] ∧ (feed stream parser).state = .idle ∧
      ∀ count < stream.length, delivered (stream.take count) parser = [] := by
  obtain ⟨first, second, third, rest, rfl, hrest⟩ := stream_of_frame hbytes
  obtain ⟨hnone, hcollects, -⟩ := feed_header hheader hbody first second third
  have hlength : rest.length = body.length := by rw [← hrest, List.length_map]
  have hleast : 4 ≤ body.length := hbody.1
  obtain ⟨init, last, rfl⟩ : ∃ init last, rest = init ++ [last] := by
    rcases List.eq_nil_or_concat rest with rfl | ⟨init, last, hsplit⟩
    · simp only [List.length_nil] at hlength
      omega
    · exact ⟨init, last, by rw [hsplit, List.concat_eq_append]⟩
  rw [← List.append_assoc] at htime ⊢
  obtain ⟨hinit, hlast⟩ := (noTimeout_append _ _ _).mp htime
  obtain ⟨-, hinit⟩ := (noTimeout_append _ _ _).mp hinit
  rw [List.length_append, List.length_singleton] at hlength
  rw [← hlength] at hcollects
  obtain ⟨hnone', hcollects'⟩ := feed_collects hcollects Nat.one_pos hinit
  rw [← feed_append] at hcollects'
  obtain ⟨hframe, hidle⟩ := @collects_last last.1 last.2 _ _ hcollects' (hlast.1 hcollects'.state)
  have hsilent : delivered (headerStream first second third body ++ init) parser = [] := by
    rw [delivered_append, hnone, hnone']
    rfl
  rw [List.map_append, List.map_singleton] at hrest
  rw [List.nil_append, hrest] at hframe
  refine ⟨?_, ?_, fun count hcount ↦ ?_⟩
  · rw [delivered_append, hsilent, delivered_cons, hframe]
    rfl
  · rw [feed_append]
    exact hidle
  · have hshort : count ≤ (headerStream first second third body ++ init).length := by
      rw [List.length_append, List.length_singleton] at hcount
      omega
    rw [List.take_append_of_le_length hshort]
    refine @delivered_initial _ _ ((headerStream first second third body ++ init).drop count) ?_
    rw [List.take_append_drop]
    exact hsilent

/-! ### Any stream -/

/-- A body in the making is as long as a length byte may say. -/
structure Fits (parser : DgusParser) : Prop where
  pending : parser.state = .collecting → 0 < parser.bytesRemaining
  least : parser.state = .collecting → dgusLenMin ≤ parser.frameIdx + parser.bytesRemaining
  most : parser.state = .collecting → parser.frameIdx + parser.bytesRemaining ≤ dgusLenMax

/-- A frame writes as many bytes of the payload as it says, and no more than there are. -/
def DgusFrame.Fits (frame : DgusFrame) : Prop :=
  frame.data.length = frame.dataLen ∧ frame.dataLen ≤ dgusMaxData

/-- How many bytes of a frame the parser has seen. -/
def DgusParser.bytesIn (parser : DgusParser) : ℕ :=
  match parser.state with
  | .idle => 0
  | .got5A => 1
  | .gotHeader => 2
  | .collecting => 3 + parser.frameIdx

theorem fits_of_not_collecting (hstate : parser.state ≠ .collecting) : Fits parser where
  pending := fun h ↦ absurd h hstate
  least := fun h ↦ absurd h hstate
  most := fun h ↦ absurd h hstate

theorem dgusInit_fits : Fits dgusInit := fits_of_not_collecting (by rintro ⟨⟩)

/-- The parser's buffer behind its twenty-sixth byte is as before. -/
def KeepsRest (parser parser' : DgusParser) : Prop :=
  ∀ i, dgusLenMax ≤ i → parser'.frameBuf i = parser.frameBuf i

/-- What a step of a collecting parser in time leaves: the buffers are kept to, and a frame that is
delivered has six bytes less in its payload than the parser has seen of it. -/
theorem parserStep_collecting (hfits : Fits parser) (hstate : parser.state = .collecting)
    (htime : InTime now parser) :
    Fits (parserStep now byte parser).1 ∧ KeepsRest parser (parserStep now byte parser).1 ∧
      (parserStep now byte parser).1.bytesIn ≤ parser.bytesIn + 1 ∧
      ∀ frame, (parserStep now byte parser).2 = some frame →
        frame.Fits ∧ frame.dataLen + 6 = parser.bytesIn + 1 := by
  have hpending := hfits.pending hstate
  have hleast : 4 ≤ parser.frameIdx + parser.bytesRemaining := hfits.least hstate
  have hmost : parser.frameIdx + parser.bytesRemaining ≤ 26 := hfits.most hstate
  have hidx : (parser.frameIdx + 1) % 256 = parser.frameIdx + 1 := Nat.mod_eq_of_lt (by omega)
  have hremaining : (parser.bytesRemaining + 255) % 256 = parser.bytesRemaining - 1 := by omega
  have hin : parser.bytesIn = 3 + parser.frameIdx := by rw [DgusParser.bytesIn, hstate]
  have hbuf : ∀ i, dgusLenMax ≤ i →
      Function.update parser.frameBuf parser.frameIdx byte i = parser.frameBuf i := by
    intro i hi
    have hbehind : 26 ≤ i := hi
    exact Function.update_of_ne (by omega) _ _
  rw [parserStep, hstate]
  dsimp only
  rw [if_neg (Nat.not_lt.mpr htime), hidx, hremaining, hin]
  split_ifs with hlast
  · refine ⟨fits_of_not_collecting (by rintro ⟨⟩), hbuf, Nat.zero_le _, ?_⟩
    rintro frame hframe
    obtain rfl := Option.some.inj hframe
    have hlen : (parser.frameIdx + 1 + 253) % 256 = parser.frameIdx - 2 := by omega
    simp only [DgusFrame.Fits, frameOfBuf, hlen, List.length_map, List.length_range, dgusMaxData]
    omega
  · refine ⟨⟨fun _ ↦ ?_, fun _ ↦ ?_, fun _ ↦ ?_⟩, hbuf, ?_, by rintro _ ⟨⟩⟩
    · show 0 < parser.bytesRemaining - 1
      omega
    · show 4 ≤ parser.frameIdx + 1 + (parser.bytesRemaining - 1)
      omega
    · show parser.frameIdx + 1 + (parser.bytesRemaining - 1) ≤ 26
      omega
    · show 3 + (parser.frameIdx + 1) ≤ 3 + parser.frameIdx + 1
      omega

/-- What any step leaves. -/
theorem parserStep_fits (now : ℕ) (byte : UInt8) (hfits : Fits parser) :
    Fits (parserStep now byte parser).1 ∧ KeepsRest parser (parserStep now byte parser).1 ∧
      (parserStep now byte parser).1.bytesIn ≤ parser.bytesIn + 1 ∧
      ∀ frame, (parserStep now byte parser).2 = some frame →
        frame.Fits ∧ frame.dataLen + 6 = parser.bytesIn + 1 := by
  have hkeeps : KeepsRest parser parser := fun _ _ ↦ rfl
  cases hstate : parser.state with
  | idle =>
    rw [parserStep, hstate]
    dsimp only
    split_ifs
    · exact ⟨fits_of_not_collecting (by rintro ⟨⟩), hkeeps, Nat.le_add_left 1 _, by rintro _ ⟨⟩⟩
    · exact ⟨hfits, hkeeps, Nat.le_succ _, by rintro _ ⟨⟩⟩
  | got5A =>
    have hin : parser.bytesIn = 1 := by rw [DgusParser.bytesIn, hstate]
    rw [parserStep, hstate, hin]
    dsimp only
    split_ifs
    · exact ⟨fits_of_not_collecting (by rintro ⟨⟩), hkeeps, le_rfl, by rintro _ ⟨⟩⟩
    · exact ⟨hfits, hkeeps, by omega, by rintro _ ⟨⟩⟩
    · exact ⟨fits_of_not_collecting (by rintro ⟨⟩), hkeeps, Nat.zero_le _, by rintro _ ⟨⟩⟩
  | gotHeader =>
    have hin : parser.bytesIn = 2 := by rw [DgusParser.bytesIn, hstate]
    rw [parserStep, hstate, hin]
    dsimp only
    split_ifs with hbad
    · exact ⟨fits_of_not_collecting (by rintro ⟨⟩), hkeeps, Nat.zero_le _, by rintro _ ⟨⟩⟩
    · have hrange : 4 ≤ byte.toNat ∧ byte.toNat ≤ 26 := by
        have hgood : ¬ (byte.toNat < 4 ∨ byte.toNat > 26) := hbad
        omega
      refine ⟨⟨fun _ ↦ ?_, fun _ ↦ ?_, fun _ ↦ ?_⟩, hkeeps, le_rfl, by rintro _ ⟨⟩⟩
      · show 0 < byte.toNat
        omega
      · show 4 ≤ 0 + byte.toNat
        omega
      · show 0 + byte.toNat ≤ 26
        omega
  | collecting =>
    by_cases htime : InTime now parser
    · exact parserStep_collecting hfits hstate htime
    · rw [collects_late hstate htime]
      exact ⟨fits_of_not_collecting (by rintro ⟨⟩), hkeeps, Nat.zero_le _, by rintro _ ⟨⟩⟩

theorem feed_fits (stream : List Stamped) (hfits : Fits parser) :
    Fits (feed stream parser) ∧ KeepsRest parser (feed stream parser) := by
  induction stream generalizing parser with
  | nil => exact ⟨hfits, fun _ _ ↦ rfl⟩
  | cons stamped stream ih =>
    obtain ⟨hnext, hkeeps, -⟩ := parserStep_fits stamped.1 stamped.2 hfits
    obtain ⟨hthen, hrest⟩ := ih hnext
    exact ⟨hthen, fun i hi ↦ (hrest i hi).trans (hkeeps i hi)⟩

/-- A frame is delivered by all its bytes, those the parser has seen before included. -/
theorem delivered_short {stream : List Stamped} (hfits : Fits parser) {frame : DgusFrame}
    (hframe : frame ∈ delivered stream parser) :
    frame.Fits ∧ frame.dataLen + 6 ≤ parser.bytesIn + stream.length := by
  induction stream generalizing parser with
  | nil => exact absurd hframe List.not_mem_nil
  | cons stamped stream ih =>
    obtain ⟨hnext, -, hin, hout⟩ := parserStep_fits stamped.1 stamped.2 hfits
    rw [delivered_cons, List.mem_append, Option.mem_toList] at hframe
    rw [List.length_cons]
    rcases hframe with hnow | hlater
    · obtain ⟨hsize, hlen⟩ := hout frame hnow
      exact ⟨hsize, by omega⟩
    · obtain ⟨hsize, hlen⟩ := ih hnext hlater
      exact ⟨hsize, by omega⟩

end Parser

/-! ### The round trip -/

/-- A frame to send, and the number of sync bytes that stray in before it. -/
structure SentFrame where
  stray : ℕ
  cmd : UInt8
  vp : UInt16
  payload : List UInt8

/-- The bytes on the line. -/
def SentFrame.bytes (sent : SentFrame) : List UInt8 :=
  List.replicate sent.stray dgusSync1 ++ sendFrame sent.cmd sent.vp sent.payload

/-- The frame as it should arrive. -/
def SentFrame.frame (sent : SentFrame) : DgusFrame :=
  ⟨sent.cmd, sent.vp.toNat, sent.payload.length, sent.payload⟩

/-- The body of a frame that is sent. -/
def SentFrame.body (sent : SentFrame) : List UInt8 :=
  sent.cmd :: (wordBytes sent.vp.toNat ++ sent.payload)

/-- The payload has one byte at least, and no more than fit. -/
def SentFrame.Valid (sent : SentFrame) : Prop :=
  1 ≤ sent.payload.length ∧ sent.payload.length ≤ dgusMaxData

instance (sent : SentFrame) : Decidable sent.Valid := inferInstanceAs (Decidable (_ ∧ _))

theorem length_body (sent : SentFrame) : sent.body.length = 3 + sent.payload.length := by
  simp only [SentFrame.body, wordBytes, List.length_cons, List.length_append, List.length_nil]
  omega

theorem sendFrame_eq (sent : SentFrame) :
    sendFrame sent.cmd sent.vp sent.payload = frameBytes sent.body := by
  rw [frameBytes, length_body]
  rfl

theorem frameOf_body {sent : SentFrame} (hvalid : sent.Valid) :
    frameOf sent.body = sent.frame := by
  obtain ⟨hleast, hmost⟩ := hvalid
  have hmost : sent.payload.length ≤ 23 := hmost
  have hword : sent.vp.toNat < 65536 := sent.vp.toNat_lt
  have hhigh : (UInt8.ofNat (sent.vp.toNat / 256)).toNat = sent.vp.toNat / 256 :=
    UInt8.toNat_ofNat_of_lt' (show sent.vp.toNat / 256 < 256 by omega)
  have hlow : (UInt8.ofNat sent.vp.toNat).toNat = sent.vp.toNat % 256 := UInt8.toNat_ofNat'
  have hlen : (3 + sent.payload.length + 253) % 256 = sent.payload.length := by omega
  have hdata : (List.range sent.payload.length).map (fun i ↦ sent.body.getD (3 + i) 0) =
      sent.payload := by
    refine List.ext_getElem (by simp) fun i hi hi' ↦ ?_
    rw [List.getElem_map, List.getElem_range, Nat.add_comm 3]
    exact List.getD_eq_getElem _ _ hi'
  have haddr : (sent.body.getD 1 0).toNat * 256 + (sent.body.getD 2 0).toNat = sent.vp.toNat := by
    show (UInt8.ofNat (sent.vp.toNat / 256)).toNat * 256 + (UInt8.ofNat sent.vp.toNat).toNat = _
    rw [hhigh, hlow]
    omega
  rw [frameOf, length_body, frameOfBuf, hlen, haddr,
    Nat.min_eq_left (show sent.payload.length ≤ dgusMaxData from hmost), hdata]
  rfl

section RoundTrip

variable {parser : DgusParser}

/-- Stray sync bytes leave the parser at a header. -/
theorem feed_syncs {stream : List Stamped} {count : ℕ} (hheader : AtHeader parser)
    (hbytes : stream.map Prod.snd = List.replicate count dgusSync1) :
    delivered stream parser = [] ∧ AtHeader (feed stream parser) := by
  induction stream generalizing count parser with
  | nil => exact ⟨rfl, hheader⟩
  | cons stamped stream ih =>
    cases count with
    | zero => simp at hbytes
    | succ count =>
      rw [List.map_cons, List.replicate_succ, List.cons.injEq] at hbytes
      obtain ⟨hsync, hrest⟩ := hbytes
      obtain ⟨hnone, hstate⟩ := @parserStep_sync1 stamped.1 _ hheader
      rw [← hsync] at hnone hstate
      obtain ⟨hlater, hthen⟩ := ih (.inr hstate) hrest
      rw [delivered_cons, hnone, hlater]
      exact ⟨rfl, hthen⟩

/-- A stream that spells two byte strings one behind the other splits between them. -/
theorem stream_split {stream : List Stamped} {bytes bytes' : List UInt8}
    (hbytes : stream.map Prod.snd = bytes ++ bytes') :
    ∃ stream₁ stream₂, stream = stream₁ ++ stream₂ ∧ stream₁.map Prod.snd = bytes ∧
      stream₂.map Prod.snd = bytes' := by
  obtain ⟨stream₁, stream₂, hsplit, h₁, h₂⟩ := List.map_eq_append_iff.mp hbytes
  exact ⟨stream₁, stream₂, hsplit, h₁, h₂⟩

/-- Assumes: the parser is idle. The frames sent are delivered in order, stray sync bytes or not. -/
theorem feed_sent {frames : List SentFrame} (hvalid : ∀ sent ∈ frames, sent.Valid)
    {stream : List Stamped} (hbytes : stream.map Prod.snd = frames.flatMap SentFrame.bytes)
    (hidle : parser.state = .idle) (htime : NoTimeout stream parser) :
    delivered stream parser = frames.map SentFrame.frame ∧ (feed stream parser).state = .idle := by
  induction frames generalizing stream parser with
  | nil =>
    have hnil : stream = [] := List.map_eq_nil_iff.mp hbytes
    rw [hnil]
    exact ⟨rfl, hidle⟩
  | cons sent frames ih =>
    have hsent : sent.Valid := hvalid sent (List.mem_cons_self)
    have hbody : ValidBody sent.body := by
      have hleast : 1 ≤ sent.payload.length := hsent.1
      have hmost : sent.payload.length ≤ 23 := hsent.2
      have hlength := length_body sent
      constructor
      · show 4 ≤ sent.body.length
        omega
      · show sent.body.length ≤ 26
        omega
    rw [List.flatMap_cons, SentFrame.bytes, sendFrame_eq, List.append_assoc] at hbytes
    obtain ⟨syncs, stream, rfl, hsyncs, hbytes⟩ := stream_split hbytes
    obtain ⟨one, stream, rfl, hone, hbytes⟩ := stream_split hbytes
    obtain ⟨-, htime⟩ := (noTimeout_append _ _ _).mp htime
    obtain ⟨htime, hlater⟩ := (noTimeout_append _ _ _).mp htime
    obtain ⟨hsilent, hheader⟩ := feed_syncs (.inl hidle) hsyncs
    obtain ⟨hframe, hback, -⟩ := feed_frame hheader hbody hone htime
    obtain ⟨hrest, hend⟩ :=
      ih (fun other hother ↦ hvalid other (List.mem_cons_of_mem _ hother)) hbytes hback hlater
    rw [delivered_append, delivered_append, hsilent, hframe, hrest, feed_append, feed_append,
      frameOf_body hsent]
    exact ⟨rfl, hend⟩

/-- A header with a length that cannot be delivers nothing. -/
theorem feed_bad_length (hheader : AtHeader parser) {length : UInt8}
    (hbad : length.toNat < dgusLenMin ∨ length.toNat > dgusLenMax) (first second third : ℕ) :
    delivered [(first, dgusSync1), (second, dgusSync2), (third, length)] parser = [] ∧
      (feed [(first, dgusSync1), (second, dgusSync2), (third, length)] parser).state = .idle := by
  obtain ⟨hnone, hstate⟩ := @parserStep_sync1 first _ hheader
  have hsecond := @parserStep_sync2 second _ hstate
  have hthird : ∀ parser : DgusParser, parser.state = .gotHeader →
      parserStep third length parser = (parser.drop, none) := by
    intro parser hstate
    rw [parserStep, hstate]
    dsimp only
    rw [if_pos hbad]
  simp only [delivered_cons, delivered_nil, feed_cons, feed_nil, hnone, hsecond,
    hthird { (parserStep first dgusSync1 parser).1 with
      state := .gotHeader, frameStartMs := second } rfl]
  exact ⟨rfl, rfl⟩

end RoundTrip

/-- Assumes: `frames` have payloads of 1 to 23 bytes, and their bytes, with any number of sync bytes
before each frame, are fed to an idle parser without a time-out. They are delivered in order, each
with its payload and the length of it, and the parser is idle again. A header with a bad length
delivers nothing. Whatever bytes are fed, at whatever times, the parser writes the first 26 bytes of
its buffer only, and a frame that is delivered has no more than 23 payload bytes. -/
theorem dgus_round_trip (frames : List SentFrame) (hvalid : ∀ sent ∈ frames, sent.Valid)
    (stream : List Stamped) (hbytes : stream.map Prod.snd = frames.flatMap SentFrame.bytes)
    (parser : DgusParser) (hidle : parser.state = .idle) (htime : NoTimeout stream parser) :
    (delivered stream parser = frames.map SentFrame.frame ∧
      (feed stream parser).state = .idle) ∧
    (∀ length : UInt8, length.toNat < dgusLenMin ∨ length.toNat > dgusLenMax →
      ∀ first second third,
        delivered [(first, dgusSync1), (second, dgusSync2), (third, length)] parser = [] ∧
          (feed [(first, dgusSync1), (second, dgusSync2), (third, length)] parser).state = .idle) ∧
    ∀ any : List Stamped,
      ((feed any dgusInit).state = .collecting → (feed any dgusInit).frameIdx < dgusLenMax) ∧
        (∀ i, dgusLenMax ≤ i → (feed any dgusInit).frameBuf i = dgusInit.frameBuf i) ∧
        ∀ frame ∈ delivered any dgusInit, frame.data.length ≤ dgusMaxData := by
  refine ⟨feed_sent hvalid hbytes hidle htime, fun length hbad first second third ↦
    feed_bad_length (.inl hidle) hbad first second third, fun any ↦ ?_⟩
  obtain ⟨hfits, hkeeps⟩ := feed_fits any dgusInit_fits
  refine ⟨fun hstate ↦ ?_, hkeeps, fun frame hframe ↦ ?_⟩
  · have hpending := hfits.pending hstate
    have hmost := hfits.most hstate
    omega
  · obtain ⟨⟨hsize, hlen⟩, -⟩ := delivered_short dgusInit_fits hframe
    omega

/-- A key event behind a stray sync byte, and a text that holds a header. -/
def roundTripFrames : List SentFrame :=
  [⟨1, 0x83, 0x1200, [1, 0, 5]⟩, ⟨0, 0x82, 0x1330, [0x5A, 0xA5, 0x04, 0x5A]⟩]

theorem dgus_round_trip_example :
    delivered ((roundTripFrames.flatMap SentFrame.bytes).map fun byte ↦ (7, byte)) dgusInit =
      roundTripFrames.map SentFrame.frame :=
  (dgus_round_trip roundTripFrames (by decide) _ (by decide) dgusInit rfl
    (by decide +kernel)).1.1

end UsCtrl
