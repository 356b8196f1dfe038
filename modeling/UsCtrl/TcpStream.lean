import Mathlib.Algebra.Order.BigOperators.Group.List
import UsCtrl.MbapTransport
import UsCtrl.HoldSession
import UsCtrl.WarmUp
import UsCtrl.Foundation.FrameStream

/-!
# Requests on one TCP connection

A master sends MBAP requests back to back; the server receives the stream in pieces of any size,
answers a few complete requests in a poll and carries the rest over. `tcpTrace` is the frame loop of
a poll with the requests it hands to `mb_tcp_build_response` written down (`tcpTrace_walk`). On a
stream of well-formed requests the loop hands over the next ones in order (`tcpTrace_owes`), stops
behind a write (`tcpTrace_stops`) and makes progress whenever a request is complete
(`tcpTrace_progress`). A connection is a sequence of polls between which the receive buffer is left
alone (`TcpSession`); over a whole connection every request is handed over exactly once and in order
(`session_reassembles`).
-/

set_option autoImplicit false
set_option relaxedAutoImplicit false

namespace UsCtrl

open Foundation

/-! ### The frame loop, written down -/

/-- A request handed to `mb_tcp_build_response`, and what it left. -/
structure Handover where
  request : List UInt8
  out : DecodeOut

/-- The frame loop of a poll with its handovers. -/
structure TcpTrace where
  walk : TcpWalk
  handed : List Handover

/-- `tcpWalk`, writing down every frame it hands over. -/
def tcpTrace (build : Build) (input : TcpPollIn) (apply : ApplyIn) :
    ℕ → ℕ → List UInt8 → Sys → TcpTrace
  | 0, _, rest, s => ⟨⟨s, rest, []⟩, []⟩
  | fuel + 1, index, rest, s =>
    match mbTcpFramePeek rest with
    | .desync => ⟨⟨s, [], []⟩, []⟩
    | .needMore => ⟨⟨s, rest, []⟩, []⟩
    | .ok length =>
      let out := mbTcpBuildResponse (rest.take length) s.modbus.core
      let decoded := onCore (fun _ ↦ out.core) s
      if out.resp = [] then
        let trace := tcpTrace build input apply fuel (index + 1) (rest.drop length) decoded
        ⟨trace.walk, ⟨rest.take length, out⟩ :: trace.handed⟩
      else
        let noted := onTcp (fun tcp ↦ { tcp with lastRxMs := input.tRx index })
          (appModbusNoteRemote (input.tReq index) decoded)
        if out.fc = 6 then
          ⟨⟨appModbusApplyWrites build .tcp apply noted, rest.drop length, out.resp⟩,
            [⟨rest.take length, out⟩]⟩
        else
          let trace := tcpTrace build input apply fuel (index + 1) (rest.drop length) noted
          ⟨{ trace.walk with tx := out.resp ++ trace.walk.tx },
            ⟨rest.take length, out⟩ :: trace.handed⟩

theorem tcpTrace_walk (build : Build) (input : TcpPollIn) (apply : ApplyIn) (fuel index : ℕ)
    (rest : List UInt8) (s : Sys) :
    (tcpTrace build input apply fuel index rest s).walk =
      tcpWalk build input apply fuel index rest s := by
  induction fuel generalizing index rest s with
  | zero => rfl
  | succ fuel ih =>
    unfold tcpTrace tcpWalk
    cases mbTcpFramePeek rest with
    | needMore => rfl
    | desync => rfl
    | ok length =>
      dsimp only
      split_ifs
      · exact ih _ _ _
      · rfl
      · rw [← ih]

/-- The requests of the loop, in order. -/
def TcpTrace.requests (trace : TcpTrace) : List (List UInt8) := trace.handed.map (·.request)

/-- The handovers that end in a write-apply pass. -/
def TcpTrace.writes (trace : TcpTrace) : ℕ := trace.handed.countP fun handover ↦ handover.out.fc = 6

/-! ### Requests and their lengths -/

/-- A complete MBAP request: protocol 0, and a length field of 2 to 125 that tells its length. -/
def MbapRequest (request : List UInt8) : Prop :=
  wordAt request 2 = 0 ∧ 2 ≤ wordAt request 4 ∧ wordAt request 4 ≤ mbFrameMax ∧
    request.length = mbTcpMbapLen + wordAt request 4

instance : DecidablePred MbapRequest := fun _ ↦ inferInstanceAs (Decidable (_ ∧ _))

/-- The length `mb_tcp_frame_peek` reports. -/
def peekLength (buffer : List UInt8) : Option ℕ :=
  match mbTcpFramePeek buffer with
  | .ok length => some length
  | _ => none

theorem byteAt_initial {buffer stream : List UInt8} (hinitial : buffer <+: stream) {index : ℕ}
    (hindex : index < buffer.length) : byteAt buffer index = byteAt stream index := by
  obtain ⟨rest, rfl⟩ := hinitial
  rw [byteAt, byteAt, List.getD_append _ _ _ _ hindex]

theorem wordAt_initial {buffer stream : List UInt8} (hinitial : buffer <+: stream) {index : ℕ}
    (hindex : index + 1 < buffer.length) : wordAt buffer index = wordAt stream index := by
  rw [wordAt, wordAt, byteAt_initial hinitial (by omega), byteAt_initial hinitial hindex]

theorem length_mbapRequest {request : List UInt8} (hrequest : MbapRequest request) :
    8 ≤ request.length ∧ request.length ≤ 131 := by
  obtain ⟨-, hlow, hhigh, hlength⟩ := hrequest
  have hmbap : mbTcpMbapLen = 6 := rfl
  have hmax : mbFrameMax = 125 := rfl
  omega

/-- The beginning of a request is never taken for a loss of synchronisation. -/
theorem peek_short {request buffer : List UInt8} (hrequest : MbapRequest request)
    (hinitial : buffer <+: request) (hshort : buffer.length < request.length) :
    mbTcpFramePeek buffer = .needMore := by
  obtain ⟨hproto, hlow, hhigh, hlength⟩ := hrequest
  have hmbap : mbTcpMbapLen = 6 := rfl
  unfold mbTcpFramePeek
  split_ifs with hhead hfields hframe
  · rfl
  · rw [wordAt_initial hinitial (by omega), wordAt_initial hinitial (by omega)] at hfields
    omega
  · rfl
  · rw [wordAt_initial hinitial (by omega)] at hframe
    omega

theorem peek_complete {request : List UInt8} (rest : List UInt8) (hrequest : MbapRequest request) :
    mbTcpFramePeek (request ++ rest) = .ok request.length := by
  have hlong := (length_mbapRequest hrequest).1
  obtain ⟨hproto, hlow, hhigh, hlength⟩ := hrequest
  have hinitial : request <+: request ++ rest := List.prefix_append request rest
  have hmbap : mbTcpMbapLen = 6 := rfl
  unfold mbTcpFramePeek
  rw [← wordAt_initial hinitial (by omega), ← wordAt_initial hinitial (by omega), ← hlength,
    List.length_append, if_neg (by omega), if_neg (by omega), if_neg (by omega)]

/-- Requests are delimited by their length field. -/
theorem delimits_peek : Delimits MbapRequest peekLength where
  complete request rest hrequest := by rw [peekLength, peek_complete rest hrequest]
  partial_none request buffer hrequest hinitial hshort := by
    rw [peekLength, peek_short hrequest hinitial hshort]
  empty := rfl

/-- Assumes: the buffer is owed. A look at it never finds a loss of synchronisation. -/
theorem peek_owed {requests : List (List UInt8)} {buffer pending : List UInt8}
    (howes : Owes MbapRequest requests buffer pending) : mbTcpFramePeek buffer ≠ .desync := by
  cases requests with
  | nil =>
    have hstream := howes.stream
    rw [List.flatten_nil] at hstream
    rw [(List.append_eq_nil_iff.mp hstream.symm).1]
    decide
  | cons request requests =>
    have hrequest := howes.well request List.mem_cons_self
    rcases owes_cons howes with ⟨more, rfl, -⟩ | ⟨hinitial, hshort⟩
    · rw [peek_complete more hrequest]
      exact MbTcpFrame.noConfusion
    · rw [peek_short hrequest hinitial hshort]
      exact MbTcpFrame.noConfusion

/-! ### One loop -/

/-- A pass that does not see the receive buffer does not change it either. -/
theorem appModbusApplyWrites_tcp (build : Build) (link : MbLink) (input : ApplyIn) (s : Sys) :
    (appModbusApplyWrites build link input s).tcp = s.tcp := by
  have hblind := appModbusApplyWrites_onTcp (fun _ ↦ s.tcp) build link input s
  have hsame : onTcp (fun _ ↦ s.tcp) s = s := rfl
  rw [hsame] at hblind
  rw [hblind]
  rfl

/-- A buffer without a complete request is left to a later poll or, out of synchronisation, dropped;
nothing else happens. -/
theorem tcpTrace_none (build : Build) (input : TcpPollIn) (apply : ApplyIn) (fuel index : ℕ)
    {rest : List UInt8} (s : Sys) (hpeek : ∀ length, mbTcpFramePeek rest ≠ .ok length) :
    ∃ left, tcpTrace build input apply fuel index rest s = ⟨⟨s, left, []⟩, []⟩ ∧
      (mbTcpFramePeek rest = .needMore → left = rest) := by
  cases fuel with
  | zero => exact ⟨rest, rfl, fun _ ↦ rfl⟩
  | succ fuel =>
    rw [tcpTrace]
    cases hcase : mbTcpFramePeek rest with
    | desync => exact ⟨[], rfl, fun h ↦ absurd h MbTcpFrame.noConfusion⟩
    | needMore => exact ⟨rest, rfl, fun _ ↦ rfl⟩
    | ok length => exact absurd hcase (hpeek length)

/-- What the loop does with a complete request at the head of its buffer: the request is handed
over, and the loop goes on behind it unless it was a write. -/
theorem tcpTrace_ok (build : Build) (input : TcpPollIn) (apply : ApplyIn) (fuel index : ℕ)
    {rest : List UInt8} (s : Sys) {length : ℕ} (hpeek : mbTcpFramePeek rest = .ok length) :
    let out := mbTcpBuildResponse (rest.take length) s.modbus.core
    let trace := tcpTrace build input apply (fuel + 1) index rest s
    (out.fc = 6 ∧ out.resp ≠ [] ∧ trace.handed = [⟨rest.take length, out⟩] ∧
        trace.walk.rest = rest.drop length ∧ trace.walk.tx = out.resp ∧
        trace.walk.sys.ghost.applies = s.ghost.applies + 1 ∧ trace.walk.sys.tcp.acc = s.tcp.acc) ∨
      (out.fc ≠ 6 ∧ ∃ next : Sys, next.ghost.applies = s.ghost.applies ∧
        next.tcp.acc = s.tcp.acc ∧
        let later := tcpTrace build input apply fuel (index + 1) (rest.drop length) next
        trace.handed = ⟨rest.take length, out⟩ :: later.handed ∧
          trace.walk.rest = later.walk.rest ∧ trace.walk.tx = out.resp ++ later.walk.tx ∧
          trace.walk.sys = later.walk.sys) := by
  intro out trace
  have heffect := mbTcpBuildResponse_cases (rest.take length) s.modbus.core
  have hsilent_read (hsilent : out.resp = []) : out.fc ≠ 6 := by
    cases heffect with
    | quiet hfc _ _ _ => exact hfc
    | wrote reg value hfc hresp hcore =>
      rw [show mbTcpBuildResponse (rest.take length) s.modbus.core = out from rfl, hsilent] at hresp
      exact absurd hresp (by decide)
  have htrace : trace = tcpTrace build input apply (fuel + 1) index rest s := rfl
  rw [tcpTrace, hpeek] at htrace
  dsimp only at htrace
  split_ifs at htrace with hsilent hwrite
  · refine .inr ⟨hsilent_read hsilent, onCore (fun _ ↦ out.core) s, rfl, rfl, ?_⟩
    have hnone : out.resp = [] := hsilent
    rw [htrace, hnone]
    exact ⟨rfl, rfl, rfl, rfl⟩
  · refine .inl ⟨hwrite, hsilent, ?_⟩
    rw [htrace]
    refine ⟨rfl, rfl, rfl, ?_, ?_⟩
    · exact (appModbusApplyWrites_hold build .tcp apply _).2
    · show (appModbusApplyWrites build .tcp apply _).tcp.acc = _
      rw [appModbusApplyWrites_tcp]
      rfl
  · refine .inr ⟨hwrite, _, ?_, ?_, by rw [htrace]; exact ⟨rfl, rfl, rfl, rfl⟩⟩ <;> rfl

section Loop

variable (build : Build) (input : TcpPollIn) (apply : ApplyIn)

/-- Assumes: the buffer is owed. The loop hands over the next requests in order, and what it leaves
is owed for the others. -/
theorem tcpTrace_owes (fuel index : ℕ) {requests : List (List UInt8)} {rest pending : List UInt8}
    (s : Sys) (howes : Owes MbapRequest requests rest pending) :
    let trace := tcpTrace build input apply fuel index rest s
    ∃ later, requests = trace.requests ++ later ∧
      Owes MbapRequest later trace.walk.rest pending := by
  induction fuel generalizing index rest requests s with
  | zero => exact ⟨requests, rfl, howes⟩
  | succ fuel ih =>
    intro trace
    cases hpeek : mbTcpFramePeek rest with
    | desync => exact absurd hpeek (peek_owed howes)
    | needMore =>
      obtain ⟨left, htrace, hleft⟩ := tcpTrace_none build input apply (fuel + 1) index s
        (fun length ↦ by rw [hpeek]; exact MbTcpFrame.noConfusion)
      have hrest : trace.walk.rest = rest := by
        rw [← hleft hpeek]
        exact congrArg (·.walk.rest) htrace
      have hnone : trace.requests = [] := congrArg TcpTrace.requests htrace
      exact ⟨requests, by rw [hnone, List.nil_append], by rw [hrest]; exact howes⟩
    | ok length =>
      obtain ⟨others, hnext, hothers⟩ := owes_take delimits_peek howes
        (show peekLength rest = some length by rw [peekLength, hpeek])
      rcases tcpTrace_ok build input apply fuel index s hpeek with
        ⟨-, -, hhanded, hrest, -⟩ | ⟨-, next, -, -, hhanded, hrest, -⟩
      · refine ⟨others, ?_, ?_⟩
        · rw [TcpTrace.requests, hhanded]
          exact hnext
        · rw [hrest]
          exact hothers
      · obtain ⟨later, hlater, howed⟩ := ih (index + 1) next hothers
        refine ⟨later, ?_, ?_⟩
        · rw [TcpTrace.requests, hhanded, hnext, hlater]
          rfl
        · rw [hrest]
          exact howed

/-- The loop hands over at most as many requests as it has turns, and a complete request at the head
of its buffer at once. -/
theorem tcpTrace_progress (fuel index : ℕ) (rest : List UInt8) (s : Sys) :
    let trace := tcpTrace build input apply fuel index rest s
    trace.handed.length ≤ fuel ∧
      (0 < fuel → ∀ length, mbTcpFramePeek rest = .ok length → trace.handed ≠ []) := by
  induction fuel generalizing index rest s with
  | zero => exact ⟨le_refl _, fun hfuel ↦ absurd hfuel (lt_irrefl 0)⟩
  | succ fuel ih =>
    intro trace
    by_cases hnone : ∀ length, mbTcpFramePeek rest ≠ .ok length
    · obtain ⟨left, htrace, -⟩ := tcpTrace_none build input apply (fuel + 1) index s hnone
      have hempty : trace.handed = [] := congrArg TcpTrace.handed htrace
      rw [hempty]
      exact ⟨Nat.zero_le _, fun _ length h ↦ absurd h (hnone length)⟩
    · obtain ⟨length, hpeek⟩ := not_forall_not.mp hnone
      rcases tcpTrace_ok build input apply fuel index s hpeek with
        ⟨-, -, hhanded, -⟩ | ⟨-, next, -, -, hhanded, -⟩
      · rw [hhanded]
        exact ⟨Nat.succ_le_succ (Nat.zero_le _), fun _ _ _ ↦ List.cons_ne_nil _ _⟩
      · rw [hhanded]
        exact ⟨Nat.succ_le_succ (ih (index + 1) _ next).1, fun _ _ _ ↦ List.cons_ne_nil _ _⟩

/-- Nothing is handed over behind a write, every write is one write-apply pass, and the answers
together take at most the room of one answer for each request. -/
theorem tcpTrace_stops (fuel index : ℕ) (rest : List UInt8) (s : Sys) :
    let trace := tcpTrace build input apply fuel index rest s
    trace.handed.Pairwise (fun before _ ↦ before.out.fc ≠ 6) ∧
      trace.walk.sys.ghost.applies = s.ghost.applies + trace.writes ∧
      trace.walk.tx = (trace.handed.map (·.out.resp)).flatten ∧
      trace.walk.sys.tcp.acc = s.tcp.acc := by
  induction fuel generalizing index rest s with
  | zero => exact ⟨List.Pairwise.nil, rfl, rfl, rfl⟩
  | succ fuel ih =>
    intro trace
    by_cases hnone : ∀ length, mbTcpFramePeek rest ≠ .ok length
    · obtain ⟨left, htrace, -⟩ := tcpTrace_none build input apply (fuel + 1) index s hnone
      have hstuck : trace = ⟨⟨s, left, []⟩, []⟩ := htrace
      rw [hstuck]
      exact ⟨List.Pairwise.nil, rfl, rfl, rfl⟩
    · obtain ⟨length, hpeek⟩ := not_forall_not.mp hnone
      rcases tcpTrace_ok build input apply fuel index s hpeek with
        ⟨hwrite, -, hhanded, -, htx, happlies, hacc⟩ |
        ⟨hread, next, hsame, hkept, hhanded, -, htx, hsys⟩
      · refine ⟨?_, ?_, ?_, hacc⟩
        · rw [hhanded]
          exact List.pairwise_singleton _ _
        · rw [happlies, TcpTrace.writes, hhanded, List.countP_singleton,
            if_pos (decide_eq_true hwrite)]
        · rw [htx, hhanded]
          exact (List.append_nil _).symm
      · obtain ⟨hpairs, hcount, hanswers, hbuffer⟩ := ih (index + 1) (rest.drop length) next
        refine ⟨?_, ?_, ?_, ?_⟩
        · rw [hhanded]
          exact List.pairwise_cons.mpr ⟨fun _ _ ↦ hread, hpairs⟩
        · rw [hsys, hcount, hsame, TcpTrace.writes, TcpTrace.writes, hhanded,
            List.countP_cons_of_neg (by rw [decide_eq_true_eq]; exact hread)]
        · rw [htx, hanswers, hhanded]
          rfl
        · rw [hsys, hbuffer, hkept]

/-- Every handover left what `mb_tcp_build_response` makes of its request. -/
theorem tcpTrace_decoded (fuel index : ℕ) (rest : List UInt8) (s : Sys) :
    ∀ handover ∈ (tcpTrace build input apply fuel index rest s).handed,
      ∃ core, handover.out = mbTcpBuildResponse handover.request core := by
  induction fuel generalizing index rest s with
  | zero => exact fun _ hmem ↦ absurd hmem List.not_mem_nil
  | succ fuel ih =>
    intro handover hmem
    by_cases hnone : ∀ length, mbTcpFramePeek rest ≠ .ok length
    · obtain ⟨left, htrace, -⟩ := tcpTrace_none build input apply (fuel + 1) index s hnone
      rw [htrace] at hmem
      exact absurd hmem List.not_mem_nil
    · obtain ⟨length, hpeek⟩ := not_forall_not.mp hnone
      rcases tcpTrace_ok build input apply fuel index s hpeek with
        ⟨-, -, hhanded, -⟩ | ⟨-, next, -, -, hhanded, -⟩
      · rw [hhanded, List.mem_singleton] at hmem
        exact ⟨s.modbus.core, by rw [hmem]⟩
      · rw [hhanded] at hmem
        rcases List.mem_cons.mp hmem with rfl | hlater
        · exact ⟨s.modbus.core, rfl⟩
        · exact ih _ _ _ handover hlater

end Loop

/-! ### One poll -/

/-- `MB_TCP_RESP_MAX` and `MB_TCP_TXACC_LEN`. -/
def mbTcpRespMax : ℕ := mbRespMax + 4

def mbTcpTxaccLen : ℕ := mbTcpFramesPerPoll * mbTcpRespMax

/-- The frame loop of a poll, behind its `recv`. -/
def pollTrace (build : Build) (input : TcpPollIn) (apply : ApplyIn) (s : Sys) : TcpTrace :=
  let s := controlTcp input s
  tcpTrace build input apply mbTcpFramesPerPoll 0
    (s.tcp.acc ++ input.rx.take (mbTcpAccLen - s.tcp.acc.length)) s

/-- The socket is ESTABLISHED at both looks of a poll. -/
def TcpPollIn.Established (input : TcpPollIn) : Prop :=
  input.socket = .established ∧ input.established = true

/-- Assumes: the socket is ESTABLISHED. The connect interrupt empties the receive buffer. -/
theorem acc_controlTcp {input : TcpPollIn} (hsocket : input.Established) (s : Sys) :
    (controlTcp input s).tcp.acc = if input.connected then [] else s.tcp.acc := by
  rw [controlTcp, hsocket.1]
  show (if input.connected then _ else _ : TcpGlue).acc = _
  split_ifs <;> rfl

/-- Assumes: the socket is ESTABLISHED. The poll is its frame loop. -/
theorem appModbusTcpPoll_trace (build : Build) {input : TcpPollIn} (apply : ApplyIn) (s : Sys)
    (hsocket : input.Established) :
    appModbusTcpPoll build input apply s =
      onTcp (fun tcp ↦ { tcp with acc := (pollTrace build input apply s).walk.rest })
        (pollTrace build input apply s).walk.sys := by
  unfold appModbusTcpPoll pollTrace
  rw [if_neg (by rw [hsocket.2]; decide), tcpTrace_walk]

/-- An answer fits `MB_TCP_RESP_MAX`. -/
theorem length_mbTcpBuildResponse (request : List UInt8) (core : MbCore) :
    (mbTcpBuildResponse request core).resp.length ≤ mbTcpRespMax := by
  have hcore := length_mbCoreDecode .tcp ((request.drop 6).take (wordAt request 4)) core
  unfold mbTcpBuildResponse
  split_ifs with hreq
  · exact Nat.zero_le _
  · dsimp only
    split_ifs with hshort
    · exact Nat.zero_le _
    · simp only [List.length_append, List.length_take, List.length_drop, List.length_cons,
        List.length_nil, wordBytes, mbTcpRespMax]
      omega

/-- What holds of every poll: at most four requests, each decoded, nothing behind a write, one
write-apply pass for a write, and the answers sent together within the send buffer. -/
structure PollBounds (trace : TcpTrace) (before after : Sys) : Prop where
  few : trace.handed.length ≤ mbTcpFramesPerPoll
  decoded : ∀ handover ∈ trace.handed,
    ∃ core, handover.out = mbTcpBuildResponse handover.request core
  stops : trace.handed.Pairwise fun earlier _ ↦ earlier.out.fc ≠ 6
  once : trace.writes ≤ 1
  applies : after.ghost.applies = before.ghost.applies + trace.writes
  coalesced : trace.walk.tx = (trace.handed.map (·.out.resp)).flatten
  fits : trace.walk.tx.length ≤ mbTcpTxaccLen

/-- What only the last member of a list may have, one member has at most. -/
theorem countP_le_one {α : Type} {p : α → Bool} {l : List α}
    (hlast : l.Pairwise fun earlier _ ↦ ¬ p earlier = true) : l.countP p ≤ 1 := by
  induction l with
  | nil => exact Nat.zero_le _
  | cons head tail ih =>
    obtain ⟨hhead, htail⟩ := List.pairwise_cons.mp hlast
    cases tail with
    | nil =>
      rw [List.countP_singleton]
      split_ifs <;> omega
    | cons next tail =>
      rw [List.countP_cons_of_neg (hhead next List.mem_cons_self)]
      exact ih htail

/-- Assumes: the socket is ESTABLISHED. -/
theorem pollBounds_poll (build : Build) {input : TcpPollIn} (apply : ApplyIn) (s : Sys)
    (hsocket : input.Established) :
    PollBounds (pollTrace build input apply s) s (appModbusTcpPoll build input apply s) := by
  have hfew := (tcpTrace_progress build input apply mbTcpFramesPerPoll 0
    ((controlTcp input s).tcp.acc ++
      input.rx.take (mbTcpAccLen - (controlTcp input s).tcp.acc.length)) (controlTcp input s)).1
  have hdecoded := tcpTrace_decoded build input apply mbTcpFramesPerPoll 0
    ((controlTcp input s).tcp.acc ++
      input.rx.take (mbTcpAccLen - (controlTcp input s).tcp.acc.length)) (controlTcp input s)
  obtain ⟨hstops, happlies, htx, -⟩ := tcpTrace_stops build input apply mbTcpFramesPerPoll 0
    ((controlTcp input s).tcp.acc ++
      input.rx.take (mbTcpAccLen - (controlTcp input s).tcp.acc.length)) (controlTcp input s)
  refine ⟨hfew, hdecoded, hstops, countP_le_one (hstops.imp fun hread ↦ by simpa using hread), ?_,
    htx, ?_⟩
  · rw [appModbusTcpPoll_trace build apply s hsocket]
    exact happlies
  · have hanswer : ∀ length ∈ ((pollTrace build input apply s).handed.map (·.out.resp)).map
        List.length, length ≤ mbTcpRespMax := by
      intro length hmem
      obtain ⟨resp, hresp, rfl⟩ := List.mem_map.mp hmem
      obtain ⟨handover, hhandover, rfl⟩ := List.mem_map.mp hresp
      obtain ⟨core, hout⟩ := hdecoded handover hhandover
      rw [hout]
      exact length_mbTcpBuildResponse _ _
    have hsum := List.sum_le_card_nsmul _ _ hanswer
    rw [List.length_map, List.length_map, nsmul_eq_mul, Nat.cast_id] at hsum
    have hlength : (pollTrace build input apply s).walk.tx.length =
        (((pollTrace build input apply s).handed.map (·.out.resp)).map List.length).sum := by
      rw [← List.length_flatten]
      exact congrArg List.length htx
    rw [hlength]
    exact hsum.trans (Nat.mul_le_mul_right _ hfew)

/-! ### A connection -/

/-- A connection: the requests handed over so far, the bytes received so far, the polls since the
last byte, and the receive buffer. The poll that sees the connect interrupt finds an empty buffer;
between polls anything may happen but to the buffer. `recv` returns no more than there is room. -/
inductive TcpSession (build : Build) : List (List UInt8) → List UInt8 → ℕ → List UInt8 → Prop
  | connect : TcpSession build [] [] 0 []
  | poll {handed : List (List UInt8)} {received buffer : List UInt8} {idle : ℕ} (input : TcpPollIn)
      (apply : ApplyIn) (s : Sys) (hsession : TcpSession build handed received idle buffer)
      (hsocket : input.Established)
      (hbuffer : (if input.connected then [] else s.tcp.acc) = buffer)
      (hroom : input.rx.length ≤ mbTcpAccLen - buffer.length) :
      TcpSession build (handed ++ (pollTrace build input apply s).requests) (received ++ input.rx)
        (if input.rx = [] then idle + 1 else 0) (appModbusTcpPoll build input apply s).tcp.acc

section Connection

variable (build : Build) {input : TcpPollIn} {s : Sys} {later : List (List UInt8)}
  {buffer pending : List UInt8}

/-- Assumes: an owed buffer and the bytes of a `recv`. The poll hands over the next requests and
leaves the rest owed. It hands over none only if the next one is incomplete. -/
theorem poll_owes (apply : ApplyIn) (hsocket : input.Established)
    (hbuffer : (if input.connected then [] else s.tcp.acc) = buffer)
    (hroom : input.rx.length ≤ mbTcpAccLen - buffer.length)
    (howes : Owes MbapRequest later buffer (input.rx ++ pending)) :
    (∃ others, later = (pollTrace build input apply s).requests ++ others ∧
        Owes MbapRequest others (appModbusTcpPoll build input apply s).tcp.acc pending) ∧
      ((pollTrace build input apply s).handed = [] →
        (later = [] ∧ buffer ++ input.rx = []) ∨ ∃ request others, later = request :: others ∧
          (buffer ++ input.rx).length < request.length) := by
  have hfound : (controlTcp input s).tcp.acc = buffer := (acc_controlTcp hsocket s).trans hbuffer
  have htrace : pollTrace build input apply s = tcpTrace build input apply mbTcpFramesPerPoll 0
      (buffer ++ input.rx) (controlTcp input s) := by
    rw [pollTrace, hfound, List.take_of_length_le hroom]
  have hacc : (appModbusTcpPoll build input apply s).tcp.acc =
      (pollTrace build input apply s).walk.rest := by
    rw [appModbusTcpPoll_trace build apply s hsocket]
    rfl
  have hreceived := owes_receive howes
  rw [hacc, htrace]
  refine ⟨tcpTrace_owes build input apply _ _ _ hreceived, fun hnone ↦ ?_⟩
  refine owes_wait delimits_peek hreceived ?_
  cases hpeek : peekLength (buffer ++ input.rx) with
  | none => rfl
  | some length =>
    have hok : mbTcpFramePeek (buffer ++ input.rx) = .ok length := by
      rw [peekLength] at hpeek
      split at hpeek
      · next found hfound =>
        rw [hfound, Option.some.inj hpeek]
      · exact absurd hpeek (by simp)
    exact absurd hnone ((tcpTrace_progress build input apply mbTcpFramesPerPoll 0 _ _).2
      (by decide) length hok)

/-- Assumes: all the bytes of the remaining requests are there, or the buffer is full. The poll
hands over a request, unless none is left. -/
theorem poll_progress (apply : ApplyIn) (hsocket : input.Established)
    (hbuffer : (if input.connected then [] else s.tcp.acc) = buffer)
    (hroom : input.rx.length ≤ mbTcpAccLen - buffer.length)
    (howes : Owes MbapRequest later buffer (input.rx ++ pending))
    (hready : pending = [] ∧ later ≠ [] ∨ mbTcpAccLen ≤ (buffer ++ input.rx).length) :
    (pollTrace build input apply s).handed ≠ [] := by
  intro hnone
  have hlen : mbTcpAccLen = 262 := rfl
  rcases (poll_owes build apply hsocket hbuffer hroom howes).2 hnone with
    ⟨hdone, hempty⟩ | ⟨request, others, hnext, hshort⟩
  · rcases hready with ⟨-, hleft⟩ | hfull
    · exact hleft hdone
    · rw [hempty, List.length_nil] at hfull
      omega
  · have hstream := howes.stream
    have hmem : request ∈ later := by
      rw [hnext]
      exact List.mem_cons_self
    have hrequest := length_mbapRequest (howes.well request hmem)
    rcases hready with ⟨rfl, -⟩ | hfull
    · have hlengths := congrArg List.length hstream
      rw [hnext, List.flatten_cons, List.append_nil, List.length_append] at hlengths
      omega
    · omega

/-- Assumes: the master sends well-formed requests, and the connection has received a beginning of
their stream. What is handed over is a beginning of the requests, the buffer holds the rest of what
was received, and every poll without new bytes has handed over a request while one was complete. -/
theorem session_owes {requests : List (List UInt8)}
    (hwell : ∀ request ∈ requests, MbapRequest request) {handed : List (List UInt8)}
    {received : List UInt8} {idle : ℕ}
    (hsession : TcpSession build handed received idle buffer)
    (hsent : received ++ pending = requests.flatten) :
    (∃ later, requests = handed ++ later ∧ Owes MbapRequest later buffer pending) ∧
      buffer.length ≤ mbTcpAccLen ∧
      (pending = [] → handed = requests ∨ idle ≤ handed.length) := by
  induction hsession generalizing pending with
  | connect =>
    refine ⟨⟨requests, rfl, hwell, ?_⟩, Nat.zero_le _, fun _ ↦ .inr (Nat.zero_le _)⟩
    rw [← hsent]
  | poll input apply s _ hsocket hbuffer hroom ih =>
    rename_i handed received buffer idle _
    rw [List.append_assoc] at hsent
    obtain ⟨⟨later, hlater, howes⟩, hsize, hidle⟩ := ih hsent
    obtain ⟨⟨others, hothers, hrest⟩, -⟩ := poll_owes build apply hsocket hbuffer hroom
      howes
    refine ⟨⟨others, by rw [hlater, hothers, List.append_assoc], hrest⟩, ?_, ?_⟩
    · have hstream := congrArg List.length howes.stream
      rw [hothers, List.flatten_append, hrest.stream] at hstream
      simp only [List.length_append] at hstream
      omega
    · intro hall
      subst hall
      split_ifs with hquiet
      · have hsent' : input.rx ++ [] = [] := by rw [hquiet]; rfl
        by_cases hleft : later = []
        · have hnone : (pollTrace build input apply s).requests = [] :=
            (List.append_eq_nil_iff.mp (hothers.symm.trans hleft)).1
          exact .inl (by rw [hnone, List.append_nil, hlater, hleft, List.append_nil])
        · have hmade := poll_progress build apply hsocket hbuffer hroom howes
            (.inl ⟨rfl, hleft⟩)
          refine .inr ?_
          have hpos : 0 < (pollTrace build input apply s).requests.length := by
            rw [TcpTrace.requests, List.length_map]
            exact List.length_pos_iff.mpr hmade
          rcases hidle hsent' with hdone | hbefore
          · exact absurd (List.append_right_eq_self.mp (hlater.symm.trans hdone.symm)) hleft
          · rw [List.length_append]
            omega
      · exact .inr (Nat.zero_le _)

end Connection

/-- Assumes: the socket stays ESTABLISHED on one connection, on which the master sends well-formed
requests, and the bytes received so far are a beginning of their stream. The requests handed over
are a beginning of those sent, in order, and with the buffer they make up what was received; the
buffer never exceeds its size; when everything is received, as many polls as there are requests
complete them. A poll keeps `PollBounds`, hands over a request while one is left of a stream that is
received, and also whenever the buffer is full. -/
theorem session_reassembles (build : Build) {requests : List (List UInt8)}
    (hwell : ∀ request ∈ requests, MbapRequest request) {handed : List (List UInt8)}
    {received buffer : List UInt8} {idle : ℕ}
    (hsession : TcpSession build handed received idle buffer)
    (hsent : received <+: requests.flatten) :
    handed <+: requests ∧ handed.flatten ++ buffer = received ∧ buffer.length ≤ mbTcpAccLen ∧
      (received = requests.flatten → requests.length ≤ idle → handed = requests) ∧
      ∀ (input : TcpPollIn) (apply : ApplyIn) (s : Sys), input.Established →
        (if input.connected then [] else s.tcp.acc) = buffer →
        input.rx.length ≤ mbTcpAccLen - buffer.length →
        received ++ input.rx <+: requests.flatten →
        PollBounds (pollTrace build input apply s) s (appModbusTcpPoll build input apply s) ∧
          (received = requests.flatten →
            handed = requests ∨ (pollTrace build input apply s).handed ≠ []) ∧
          (mbTcpAccLen ≤ (buffer ++ input.rx).length →
            (pollTrace build input apply s).handed ≠ []) := by
  obtain ⟨pending, hstream⟩ := hsent
  obtain ⟨⟨later, hlater, howes⟩, hsize, hidle⟩ := session_owes build hwell hsession hstream
  refine ⟨⟨later, hlater.symm⟩, ?_, hsize, fun hall hpolls ↦ ?_,
    fun input apply s hsocket hbuffer hroom hmore ↦ ⟨pollBounds_poll build apply s hsocket, ?_, ?_⟩⟩
  · have htotal := hstream
    rw [hlater, List.flatten_append, howes.stream, ← List.append_assoc] at htotal
    exact (List.append_cancel_right htotal).symm
  · have hnone : pending = [] := by
      rw [hall] at hstream
      exact List.append_right_eq_self.mp hstream
    rcases hidle hnone with hdone | hmade
    · exact hdone
    · exact List.IsPrefix.eq_of_length_le ⟨later, hlater.symm⟩ (hpolls.trans hmade)
  · intro hall
    by_cases hleft : later = []
    · exact .inl (by rw [hlater, hleft, List.append_nil])
    · have hnone : pending = [] := by
        rw [hall] at hstream
        exact List.append_right_eq_self.mp hstream
      have hrx : input.rx = [] := by
        obtain ⟨rest, hrest⟩ := hmore
        rw [hall, List.append_assoc] at hrest
        exact (List.append_eq_nil_iff.mp (List.append_right_eq_self.mp hrest)).1
      have howed : Owes MbapRequest later buffer (input.rx ++ []) := by
        rw [hrx]
        rwa [hnone] at howes
      exact .inr (poll_progress build apply hsocket hbuffer hroom howed (.inl ⟨rfl, hleft⟩))
  · intro hfull
    obtain ⟨rest, hrest⟩ := hmore
    have hpending : pending = input.rx ++ rest := by
      rw [← hstream, List.append_assoc] at hrest
      exact (List.append_cancel_left hrest).symm
    rw [hpending] at howes
    exact poll_progress build apply hsocket hbuffer hroom howes (.inr hfull)

/-- A read, a write and another read of register 6. -/
def threeRequests : List (List UInt8) :=
  [mbapFrame 7 ownUnitRead, mbapFrame 8 [1, 6, 0, 6, 0, 1], mbapFrame 9 ownUnitRead]

/-- A poll that receives the given bytes. -/
def receivingPoll (connected : Bool) (rx : List UInt8) : TcpPollIn :=
  { quietTcp 5000 with
    socket := .established, connected := connected, established := true, rx := rx }

/-- The controller behind a first poll that receives a piece of the first request. -/
def pieceReceived : Sys :=
  appModbusTcpPoll stdBuild (receivingPoll true (threeRequests.flatten.take 5))
    (quietModbus 5000).apply (warm true 401)

/-- The second poll receives the rest, and stops behind the write. -/
theorem threeRequests_cut :
    (pollTrace stdBuild (receivingPoll true (threeRequests.flatten.take 5))
        (quietModbus 5000).apply (warm true 401)).requests ++
      (pollTrace stdBuild (receivingPoll false (threeRequests.flatten.drop 5))
        (quietModbus 5000).apply pieceReceived).requests = threeRequests.take 2 ∧
    (threeRequests.take 2).flatten ++ (appModbusTcpPoll stdBuild
      (receivingPoll false (threeRequests.flatten.drop 5)) (quietModbus 5000).apply
      pieceReceived).tcp.acc = threeRequests.flatten := by
  have hhanded : (pollTrace stdBuild (receivingPoll true (threeRequests.flatten.take 5))
        (quietModbus 5000).apply (warm true 401)).requests ++
      (pollTrace stdBuild (receivingPoll false (threeRequests.flatten.drop 5))
        (quietModbus 5000).apply pieceReceived).requests = threeRequests.take 2 := by
    decide +kernel
  refine ⟨hhanded, ?_⟩
  have hwell : ∀ request ∈ threeRequests, MbapRequest request := by decide
  have hall := (session_reassembles stdBuild hwell
    (.poll (receivingPoll false (threeRequests.flatten.drop 5)) (quietModbus 5000).apply
      pieceReceived (.poll (receivingPoll true (threeRequests.flatten.take 5))
        (quietModbus 5000).apply (warm true 401) .connect ⟨rfl, rfl⟩ rfl (by decide))
      ⟨rfl, rfl⟩ rfl (by decide +kernel)) (by decide)).2.1
  rw [List.nil_append, hhanded] at hall
  exact hall

end UsCtrl
