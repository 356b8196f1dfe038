import UsCtrl.DgusPolls

/-!
# When a frame from the display is delivered

One complete frame on the line, however its bytes are spread over the calls of `dgus_rx_poll`. The
parser's time-out counts from when it gets to the second sync byte to when it gets to each byte of
the body, not from when these arrive. So a frame is delivered exactly if the calls keep up with it
(`poll_schedule_iff`): a pause of the superloop between two calls loses a frame that is complete in
the ring. And a frame that follows an incomplete one, after however long a silence, is delivered
exactly if the incomplete one ended before its second sync byte (`resync_iff`): the time-out is
noticed by the first byte of the new frame, which is dropped with the old one.

Both rest on `delivered_whole`: a frame is delivered by all of its bytes, in time, or not at all.
-/

set_option autoImplicit false
set_option relaxedAutoImplicit false

namespace UsCtrl

open Foundation

/-! ### Streams with a time-out -/

section Streams

variable {parser : DgusParser} {stream : List Stamped} {body got : List UInt8}

theorem dataLen_frameOf (hbody : ValidBody body) :
    (frameOf body).dataLen + 6 = body.length + 3 := by
  have hleast : 4 ≤ body.length := hbody.1
  have hmost : body.length ≤ 26 := hbody.2
  show (body.length + 253) % 256 + 6 = body.length + 3
  omega

/-- The first byte that is late. -/
theorem late_of_timeout (htimeout : ¬ NoTimeout stream parser) :
    ∃ before late behind, stream = before ++ late :: behind ∧
      (feed before parser).state = .collecting ∧ ¬ InTime late.1 (feed before parser) := by
  induction stream generalizing parser with
  | nil => exact absurd trivial htimeout
  | cons stamped stream ih =>
    by_cases hnow : parser.state = .collecting → InTime stamped.1 parser
    · obtain ⟨before, late, behind, rfl, hstate, hlate⟩ := ih fun hrest ↦ htimeout ⟨hnow, hrest⟩
      exact ⟨stamped :: before, late, behind, rfl, hstate, hlate⟩
    · obtain ⟨hstate, hlate⟩ := Classical.not_imp.mp hnow
      exact ⟨[], stamped, stream, rfl, hstate, hlate⟩

/-- Fewer bytes than the frame has, all of them behind the present state, do not deliver it. -/
theorem not_delivered (hbody : ValidBody body) (hfits : Fits parser)
    (hshort : parser.bytesIn + stream.length < body.length + 3) :
    frameOf body ∉ delivered stream parser := by
  intro hframe
  have hlen := (delivered_short hfits hframe).2
  rw [dataLen_frameOf hbody] at hlen
  omega

/-- Assumes: the parser has seen no more of a frame than the stream leaves out. If the frame is
delivered, the two are the whole of it, and no byte is late. -/
theorem delivered_whole (hbody : ValidBody body) (hfits : Fits parser)
    (hlength : parser.bytesIn + stream.length ≤ body.length + 3)
    (hframe : frameOf body ∈ delivered stream parser) :
    parser.bytesIn + stream.length = body.length + 3 ∧ NoTimeout stream parser := by
  constructor
  · by_contra hne
    exact not_delivered hbody hfits (by omega) hframe
  · by_contra htimeout
    obtain ⟨before, late, behind, rfl, hstate, hlate⟩ := late_of_timeout htimeout
    rw [List.length_append, List.length_cons] at hlength
    rw [delivered_append, delivered_cons, collects_late hstate hlate, List.mem_append] at hframe
    rcases hframe with hearly | hthen
    · exact not_delivered hbody hfits (by omega) hearly
    · have hidle : (feed before parser).drop.state ≠ .collecting := by rintro ⟨⟩
      refine not_delivered hbody (fits_of_not_collecting hidle) ?_ hthen
      show 0 + behind.length < body.length + 3
      omega

/-- The bytes of a body are all counted from the same time. -/
theorem noTimeout_body (hcollects : Collects got stream.length parser) :
    NoTimeout stream parser ↔ ∀ stamped ∈ stream, InTime stamped.1 parser := by
  induction stream generalizing got parser with
  | nil => exact ⟨by rintro _ _ ⟨⟩, fun _ ↦ trivial⟩
  | cons stamped stream ih =>
    have hfirst : (parser.state = .collecting → InTime stamped.1 parser) ↔
        InTime stamped.1 parser := ⟨fun h ↦ h hcollects.state, fun h _ ↦ h⟩
    rw [List.forall_mem_cons]
    refine (and_congr_left' hfirst).trans (and_congr_right fun htime ↦ ?_)
    cases stream with
    | nil => exact ⟨by rintro _ _ ⟨⟩, fun _ ↦ trivial⟩
    | cons next stream =>
      obtain ⟨-, hnext, hstart⟩ :=
        @collects_step stamped.1 _ stamped.2 _ _ hcollects (Nat.succ_pos _) htime
      rw [ih hnext]
      simp only [InTime, hstart]

/-- The bytes behind the third are got to in time, counted from the second. -/
def Timely (stream : List Stamped) : Prop :=
  ∀ second ∈ stream[1]?, ∀ stamped ∈ stream.drop 3,
    elapsedMs stamped.1 second.1 ≤ dgusFrameTimeoutMs

instance (stream : List Stamped) : Decidable (Timely stream) :=
  inferInstanceAs (Decidable (∀ second ∈ stream[1]?, _))

/-- No byte of a header can be late. -/
theorem noTimeout_header (hheader : AtHeader parser) (first second third : ℕ) :
    NoTimeout (headerStream first second third body) parser := by
  have hstate : parser.state ≠ .collecting := by
    rcases hheader with h | h
    · rw [h]
      rintro ⟨⟩
    · rw [h]
      rintro ⟨⟩
  obtain ⟨-, hnext⟩ := @parserStep_sync1 first _ hheader
  refine ⟨fun h ↦ absurd h hstate, fun h ↦ ?_, fun h ↦ ?_, trivial⟩
  · rw [hnext] at h
    exact absurd h (by rintro ⟨⟩)
  · rw [parserStep_sync2 hnext] at h
    exact absurd h (by rintro ⟨⟩)

/-- Whether a byte of a frame is late does not depend on the parser. -/
theorem noTimeout_frame (hheader : AtHeader parser) (hbody : ValidBody body)
    (hbytes : stream.map Prod.snd = frameBytes body) : NoTimeout stream parser ↔ Timely stream := by
  obtain ⟨first, second, third, rest, rfl, hrest⟩ := stream_of_frame hbytes
  obtain ⟨-, hcollects, hstart⟩ := feed_header hheader hbody first second third
  have hlength : rest.length = body.length := by rw [← hrest, List.length_map]
  rw [← hlength] at hcollects
  rw [noTimeout_append, and_iff_right (noTimeout_header hheader first second third),
    noTimeout_body hcollects]
  simp only [InTime, hstart]
  exact ⟨fun h _ hsecond ↦ Option.some.inj hsecond ▸ h, fun h ↦ h (second, dgusSync2) rfl⟩

/-- Assumes: the parser is at a header, and the stream spells the beginning of a frame. If the
frame is delivered, the stream spells all of it, and no byte is late. -/
theorem delivered_frame (hheader : AtHeader parser) (hbody : ValidBody body) {rest : List UInt8}
    (hbytes : stream.map Prod.snd ++ rest = frameBytes body)
    (hframe : frameOf body ∈ delivered stream parser) :
    stream.map Prod.snd = frameBytes body ∧ NoTimeout stream parser := by
  have hlength : stream.length + rest.length = body.length + 3 := by
    have hcount := congrArg List.length hbytes
    rw [List.length_append, List.length_map, frameBytes, List.length_append] at hcount
    exact hcount.trans (Nat.add_comm 3 _)
  cases stream with
  | nil => exact absurd hframe List.not_mem_nil
  | cons stamped stream =>
    -- behind the first sync byte, one byte of the frame is in
    rw [List.map_cons, List.cons_append, frameBytes, List.cons_append, List.cons.injEq] at hbytes
    obtain ⟨hnone, hstate⟩ := @parserStep_sync1 stamped.1 _ hheader
    rw [← hbytes.1] at hnone hstate
    have hfits : Fits (parserStep stamped.1 stamped.2 parser).1 := by
      refine fits_of_not_collecting ?_
      rw [hstate]
      rintro ⟨⟩
    have hin : (parserStep stamped.1 stamped.2 parser).1.bytesIn = 1 := by
      rw [DgusParser.bytesIn, hstate]
    rw [List.length_cons] at hlength
    rw [delivered_cons, hnone] at hframe
    obtain ⟨hwhole, htime⟩ := delivered_whole hbody hfits (by omega) hframe
    have hrest : rest = [] := List.eq_nil_of_length_eq_zero (by omega)
    rw [hrest, List.append_nil] at hbytes
    refine ⟨?_, fun h ↦ ?_, htime⟩
    · rw [List.map_cons, hbytes.1, hbytes.2]
      rfl
    · rcases hheader with hat | hat
      · rw [hat] at h
        exact absurd h (by rintro ⟨⟩)
      · rw [hat] at h
        exact absurd h (by rintro ⟨⟩)

end Streams

/-! ### One frame, any schedule -/

/-- The calls keep up with a frame: each byte behind its length byte is got to within
`dgusFrameTimeoutMs` of the second sync byte. -/
def KeepsUp (calls : List RxPoll) : Prop := Timely (nominal calls)

instance (calls : List RxPoll) : Decidable (KeepsUp calls) :=
  inferInstanceAs (Decidable (Timely _))

section Schedule

variable {calls : List RxPoll} {body : List UInt8} {side : RxSide}

/-- A frame alone never fills the ring. -/
theorem frame_room (hbody : ValidBody body) (harrivals : arrivals calls = frameBytes body) :
    (arrivals calls).length < rxDmaSize := by
  have hmost : body.length ≤ 26 := hbody.2
  rw [harrivals, frameBytes, List.length_append]
  show 3 + body.length < 256
  omega

/-- Assumes: a frame arrives at a parser that is at a header, and the calls keep up with it. -/
theorem frames_of_keepsUp (hbody : ValidBody body) (harrivals : arrivals calls = frameBytes body)
    (hring : side.ring.Holds rxDmaSize []) (hheader : AtHeader side.parser)
    (hkeeps : KeepsUp calls) : rxFrames calls side = [frameOf body] := by
  have hbytes : (nominal calls).map Prod.snd = frameBytes body := by
    rw [nominal_bytes, harrivals]
  have htime : NoTimeout (nominal calls) side.parser :=
    (noTimeout_frame hheader hbody hbytes).mpr hkeeps
  obtain ⟨hframe, -, hearly⟩ := feed_frame hheader hbody hbytes htime
  obtain ⟨trace, rest, htraced, hcase⟩ := poll_trace_nominal hring (frame_room hbody harrivals)
  rw [htraced.frames]
  rcases hcase with rfl | ⟨common, more, missed, rfl, hmissed, hsome, hstopped⟩
  · exact hframe
  · -- a call cannot be stopped before the last byte
    have hcount : common.length < (nominal calls).length := by
      have hpositive := List.length_pos_iff.mpr hsome
      rw [hmissed, List.length_append]
      omega
    have hnone := hearly common.length hcount
    rw [hmissed, List.take_left] at hnone
    exact absurd hnone hstopped

/-- Assumes: a frame arrives at a parser that is at a header, and is delivered. The calls have kept
up with it. -/
theorem keepsUp_of_frame (hbody : ValidBody body) (harrivals : arrivals calls = frameBytes body)
    (hring : side.ring.Holds rxDmaSize []) (hheader : AtHeader side.parser)
    (hframe : frameOf body ∈ rxFrames calls side) : KeepsUp calls := by
  obtain ⟨trace, rest, htraced, hcase⟩ := poll_trace_nominal hring (frame_room hbody harrivals)
  have hspells := htraced.bytes
  rw [List.nil_append, harrivals] at hspells
  rw [htraced.frames] at hframe
  obtain ⟨hbytes, htime⟩ := delivered_frame hheader hbody hspells hframe
  rcases hcase with rfl | ⟨common, more, missed, rfl, hmissed, hsome, hstopped⟩
  · exact (noTimeout_frame hheader hbody hbytes).mp htime
  · obtain ⟨-, -, hearly⟩ := feed_frame hheader hbody hbytes htime
    have hsame : (common ++ more).length = (nominal calls).length := by
      have hcount := congrArg List.length (hbytes.trans harrivals.symm)
      rwa [← nominal_bytes, List.length_map, List.length_map] at hcount
    have hcount : common.length < (common ++ more).length := by
      have hpositive := List.length_pos_iff.mpr hsome
      rw [hsame, hmissed, List.length_append]
      omega
    have hnone := hearly common.length hcount
    rw [List.take_left] at hnone
    exact absurd hnone hstopped

end Schedule

/-- Assumes: one complete frame arrives at an idle parser with an empty ring, its bytes spread over
the calls in any way. The calls deliver it, once and nothing else, if and only if they keep up with
it. -/
theorem poll_schedule_iff (calls : List RxPoll) (body : List UInt8) (hbody : ValidBody body)
    (harrivals : arrivals calls = frameBytes body) (side : RxSide)
    (hring : side.ring.Holds rxDmaSize []) (hidle : side.parser.state = .idle) :
    (rxFrames calls side = [frameOf body] ↔ KeepsUp calls) ∧
      (frameOf body ∈ rxFrames calls side ↔ KeepsUp calls) := by
  have hframes : KeepsUp calls → rxFrames calls side = [frameOf body] :=
    frames_of_keepsUp hbody harrivals hring (.inl hidle)
  have hkeeps : frameOf body ∈ rxFrames calls side → KeepsUp calls :=
    keepsUp_of_frame hbody harrivals hring (.inl hidle)
  refine ⟨⟨fun h ↦ hkeeps ?_, hframes⟩, hkeeps, fun h ↦ ?_⟩
  · rw [h]
    exact List.mem_singleton_self _
  · rw [hframes h]
    exact List.mem_singleton_self _

/-- A key event. -/
def keyBody : List UInt8 := [0x83, 0x12, 0x00, 0x01, 0x00, 0x05]

/-- The key event in two calls, `pause` milliseconds apart. -/
def splitCalls (pause : ℕ) : List RxPoll :=
  [⟨(frameBytes keyBody).take 5, fun _ ↦ 1000⟩, ⟨(frameBytes keyBody).drop 5, fun _ ↦ 1000 + pause⟩]

theorem rxInit_empty : rxInit.ring.Holds rxDmaSize [] :=
  CellRing.holds_nil (show 0 < 256 by decide) rfl

theorem poll_schedule_iff_split : rxFrames (splitCalls 50) rxInit = [frameOf keyBody] :=
  (poll_schedule_iff (splitCalls 50) keyBody (by unfold ValidBody; decide) (by decide) rxInit
    rxInit_empty rfl).1.mpr (by decide +kernel)

/-- All bytes have arrived, and the second call comes 482 milliseconds after the first. -/
theorem poll_schedule_pause :
    ∃ (calls : List RxPoll) (body : List UInt8) (side : RxSide), ValidBody body ∧
      arrivals calls = frameBytes body ∧ side.ring.Holds rxDmaSize [] ∧
      side.parser.state = .idle ∧ rxFrames calls side = [] :=
  ⟨splitCalls 482, keyBody, rxInit, by unfold ValidBody; decide, by decide, rxInit_empty, rfl,
    by decide +kernel⟩

/-! ### Behind a truncated frame -/

/-- What a byte preserves of the parser a call preserves. -/
theorem dgusRxPoll_induction {motive : DgusParser → Prop} {clock : ℕ → ℕ}
    (hstep : ∀ turn byte parser, motive parser → motive (parserStep (clock turn) byte parser).1)
    (turns turn : ℕ) (side : RxSide) (hside : motive side.parser) :
    motive (dgusRxPoll clock turns turn side).1.parser := by
  induction turns generalizing turn side with
  | zero => exact hside
  | succ turns ih =>
    rw [dgusRxPoll]
    cases hpop : usart1RxPop side.ring with
    | none => exact hside
    | some popped =>
      have hnext := hstep turn popped.1 side.parser hside
      cases hparse : parserStep (clock turn) popped.1 side.parser with
      | mk parser out =>
        rw [hparse] at hnext
        dsimp only
        rw [hparse]
        cases out with
        | some frame => exact hnext
        | none => exact ih (turn + 1) ⟨popped.2, parser⟩ hnext

/-- A time one of the calls has read. -/
def ReadBy (calls : List RxPoll) (time : ℕ) : Prop := ∃ call ∈ calls, ∃ turn, call.clock turn = time

/-- The frame in the making has been started by one of the calls. -/
structure StartedBy (calls : List RxPoll) (parser : DgusParser) : Prop where
  fits : Fits parser
  start : ¬ AtHeader parser → ReadBy calls parser.frameStartMs

/-- What a byte does to the time of the frame in the making. -/
theorem parserStep_start (now : ℕ) (byte : UInt8) (parser : DgusParser)
    (hstarted : ¬ AtHeader (parserStep now byte parser).1) :
    (parserStep now byte parser).1.frameStartMs = now ∨
      ¬ AtHeader parser ∧
        (parserStep now byte parser).1.frameStartMs = parser.frameStartMs := by
  unfold AtHeader at *
  cases hstate : parser.state with
  | idle =>
    rw [parserStep, hstate] at hstarted
    dsimp only at hstarted
    split_ifs at hstarted <;> simp_all
  | got5A =>
    rw [parserStep, hstate] at hstarted ⊢
    dsimp only at hstarted ⊢
    split_ifs at hstarted ⊢ <;> simp_all
  | gotHeader =>
    refine .inr ⟨by simp, ?_⟩
    rw [parserStep, hstate]
    dsimp only
    split_ifs
    · rfl
    · rfl
  | collecting =>
    refine .inr ⟨by simp, ?_⟩
    rw [parserStep, hstate]
    dsimp only
    split_ifs
    · rfl
    · rfl
    · rfl

theorem startedBy_step {calls : List RxPoll} {now : ℕ} (hnow : ReadBy calls now) (byte : UInt8)
    {parser : DgusParser} (hstarted : StartedBy calls parser) :
    StartedBy calls (parserStep now byte parser).1 := by
  refine ⟨(parserStep_fits now byte hstarted.fits).1, fun hnot ↦ ?_⟩
  rcases parserStep_start now byte parser hnot with hsame | ⟨hbefore, hkept⟩
  · rwa [hsame]
  · rw [hkept]
    exact hstarted.start hbefore

theorem startedBy_run (earlier : List RxPoll) :
    StartedBy earlier (rxRun earlier rxInit).parser := by
  suffices h : ∀ (calls : List RxPoll) (side : RxSide), (∀ call ∈ calls, call ∈ earlier) →
      StartedBy earlier side.parser → StartedBy earlier (rxRun calls side).parser from
    h earlier rxInit (fun _ hcall ↦ hcall) ⟨dgusInit_fits, fun hnot ↦ absurd (.inl rfl) hnot⟩
  intro calls
  induction calls with
  | nil => exact fun _ _ hstarted ↦ hstarted
  | cons call calls ih =>
    intro side hmem hstarted
    refine ih _ (fun other hother ↦ hmem other (List.mem_cons_of_mem _ hother)) ?_
    exact dgusRxPoll_induction (fun turn byte _ h ↦
      startedBy_step ⟨call, hmem call List.mem_cons_self, turn, rfl⟩ byte h) _ _ _ hstarted

section Truncated

variable {calls : List RxPoll} {body : List UInt8} {side : RxSide}

/-- The line has been silent: the first byte is got to more than `dgusFrameTimeoutMs` after any time
the calls before have read. -/
def Silent (earlier later : List RxPoll) : Prop :=
  ∀ first ∈ (nominal later).head?, ∀ call ∈ earlier, ∀ turn,
    dgusFrameTimeoutMs < elapsedMs first.1 (call.clock turn)

/-- The first byte of a frame is lost on a parser that has a frame in the making. -/
theorem first_lost {stamped : Stamped} {parser : DgusParser} (hbyte : stamped.2 = dgusSync1)
    (hnot : ¬ AtHeader parser)
    (hlate : parser.state = .collecting → ¬ InTime stamped.1 parser) :
    parserStep stamped.1 stamped.2 parser = (parser.drop, none) := by
  cases hstate : parser.state with
  | idle => exact absurd (.inl hstate) hnot
  | got5A => exact absurd (.inr hstate) hnot
  | gotHeader =>
    rw [hbyte, parserStep, hstate]
    rfl
  | collecting => exact collects_late hstate (hlate hstate)

/-- Assumes: a frame arrives at a parser that has another one in the making, and the first byte is
late for that one. It is not delivered. -/
theorem frame_lost (hbody : ValidBody body) (harrivals : arrivals calls = frameBytes body)
    (hring : side.ring.Holds rxDmaSize []) (hnot : ¬ AtHeader side.parser)
    (hlate : ∀ first ∈ (nominal calls).head?, ¬ InTime first.1 side.parser) :
    frameOf body ∉ rxFrames calls side := by
  obtain ⟨trace, rest, htraced, hcase⟩ := poll_trace_nominal hring (frame_room hbody harrivals)
  have hspells := htraced.bytes
  rw [List.nil_append, harrivals] at hspells
  rw [htraced.frames]
  cases trace with
  | nil => exact List.not_mem_nil
  | cons stamped trace =>
    have hfirst : (nominal calls).head? = some stamped := by
      rcases hcase with hsame | ⟨common, more, missed, hsplit, hmissed, -, hstopped⟩
      · rw [← hsame]
        rfl
      · cases common with
        | nil => exact absurd rfl hstopped
        | cons head common =>
          rw [hmissed, (List.cons.inj hsplit).1]
          rfl
    have hcount := congrArg List.length hspells
    rw [List.map_cons, List.cons_append, frameBytes, List.cons_append, List.cons.injEq] at hspells
    have hlost := first_lost hspells.1 hnot fun _ ↦ hlate stamped hfirst
    have hidle : side.parser.drop.state ≠ .collecting := by rintro ⟨⟩
    rw [delivered_cons, hlost]
    refine not_delivered hbody (fits_of_not_collecting hidle) ?_
    rw [List.length_append, List.length_map, List.length_cons, frameBytes, List.length_append,
      List.length_cons, List.length_cons, List.length_singleton] at hcount
    show 0 + trace.length < body.length + 3
    omega

end Truncated

/-- Assumes: the calls `earlier` are made from the boot on, with any bytes, and leave the ring
empty; then the line is silent; then one complete frame arrives, its bytes spread over the calls
`later`. These deliver it, once and nothing else, if and only if they keep up with it and the bytes
before the silence leave the parser without a header. -/
theorem resync_iff (earlier later : List RxPoll) (body : List UInt8) (hbody : ValidBody body)
    (hring : (rxRun earlier rxInit).ring.Holds rxDmaSize []) (hsilent : Silent earlier later)
    (harrivals : arrivals later = frameBytes body) :
    (rxFrames later (rxRun earlier rxInit) = [frameOf body] ↔
        AtHeader (rxRun earlier rxInit).parser ∧ KeepsUp later) ∧
      (frameOf body ∈ rxFrames later (rxRun earlier rxInit) ↔
        AtHeader (rxRun earlier rxInit).parser ∧ KeepsUp later) := by
  have hframes : AtHeader (rxRun earlier rxInit).parser ∧ KeepsUp later →
      rxFrames later (rxRun earlier rxInit) = [frameOf body] := by
    rintro ⟨hheader, hkeeps⟩
    exact frames_of_keepsUp hbody harrivals hring hheader hkeeps
  have honly : frameOf body ∈ rxFrames later (rxRun earlier rxInit) →
      AtHeader (rxRun earlier rxInit).parser ∧ KeepsUp later := by
    intro hframe
    have hheader : AtHeader (rxRun earlier rxInit).parser := by
      by_contra hnot
      obtain ⟨call, hcall, turn, hread⟩ := (startedBy_run earlier).start hnot
      refine frame_lost hbody harrivals hring hnot (fun first hfirst ↦ ?_) hframe
      rw [InTime, ← hread]
      exact not_le.mpr (hsilent first hfirst call hcall turn)
    exact ⟨hheader, keepsUp_of_frame hbody harrivals hring hheader hframe⟩
  refine ⟨⟨fun h ↦ honly ?_, hframes⟩, honly, fun h ↦ ?_⟩
  · rw [h]
    exact List.mem_singleton_self _
  · rw [hframes h]
    exact List.mem_singleton_self _

/-- Some bytes, and a second later the key event. -/
def beforeSilence (bytes : List UInt8) : List RxPoll := [⟨bytes, fun _ ↦ 1000⟩]

def behindSilence : List RxPoll := [⟨frameBytes keyBody, fun _ ↦ 2000⟩]

theorem silent_second (bytes : List UInt8) : Silent (beforeSilence bytes) behindSilence := by
  intro first hfirst call hcall turn
  obtain rfl := Option.some.inj hfirst
  obtain rfl := List.mem_singleton.mp hcall
  show 50 < elapsedMs 2000 1000
  decide

theorem resync_iff_sync :
    rxFrames behindSilence (rxRun (beforeSilence [dgusSync1]) rxInit) = [frameOf keyBody] :=
  (resync_iff (beforeSilence [dgusSync1]) behindSilence keyBody (by unfold ValidBody; decide)
    (CellRing.holds_nil (by decide +kernel) (by decide +kernel)) (silent_second _)
    (by decide)).1.mpr ⟨.inr (by decide +kernel), by decide +kernel⟩

/-- The first four bytes of a frame; the frame behind the silence is dropped with them. -/
theorem resync_truncated :
    ∃ (earlier later : List RxPoll) (body : List UInt8), ValidBody body ∧
      (rxRun earlier rxInit).ring.Holds rxDmaSize [] ∧ Silent earlier later ∧
      arrivals later = frameBytes body ∧ KeepsUp later ∧
      rxFrames later (rxRun earlier rxInit) = [] :=
  ⟨beforeSilence ((frameBytes keyBody).take 4), behindSilence, keyBody,
    by unfold ValidBody; decide,
    CellRing.holds_nil (by decide +kernel) (by decide +kernel), silent_second _, by decide,
    by decide +kernel, by decide +kernel⟩

end UsCtrl
