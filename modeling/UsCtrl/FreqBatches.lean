import UsCtrl.Foundation.History
import UsCtrl.Regulation

/-!
# Frequency batches

`app_freq_fsm.c`: the capture interrupt adds up the ten differences between eleven captures and
latches their sum under a new sequence number; the publish turns the latest sum into a frequency,
once. The captures and the computations come in any order (`FreqCall`).

`freq_batches` says what a history of them leaves: the captures fall into groups of eleven
(`batching`), the latched sum is what passed between the first and the last capture of the newest
group, and a computation answers for that group or with zero. `freqFsmCompute` of
`UsCtrl.Regulation` is the computation seen from the publish (`compute_eq`).
-/

set_option autoImplicit false
set_option relaxedAutoImplicit false

namespace UsCtrl

open Foundation

/-! ### `app_freq_fsm.c` -/

/-- The static variables, with their widths. -/
structure FreqFsm where
  prevCap : UInt32
  havePrev : Bool
  acc : UInt32
  cnt : ℕ
  latchedSum : UInt32
  batchSeq : UInt32
  lastSeenSeq : UInt32
  deriving DecidableEq, Repr

/-- `freq_fsm_init`. -/
def freqFsmInit : FreqFsm := ⟨0, false, 0, 0, 0, 0, 0⟩

/-- `FREQ_AVG_SAMPLES`. -/
def freqAvgSamples : ℕ := 10

/-- `freq_fsm_on_capture`. -/
def freqFsmOnCapture (capture : UInt32) (fsm : FreqFsm) : FreqFsm :=
  if fsm.havePrev = false then { fsm with prevCap := capture, havePrev := true }
  else
    let acc := fsm.acc + (capture - fsm.prevCap)
    let cnt := (fsm.cnt + 1) % 256
    if cnt ≥ freqAvgSamples then
      { fsm with
        prevCap := capture
        havePrev := false
        acc := 0
        cnt := 0
        latchedSum := acc
        batchSeq := fsm.batchSeq + 1 }
    else { fsm with prevCap := capture, acc := acc, cnt := cnt }

/-- A division of C: undefined by zero. -/
def divC (dividend divisor : ℕ) : Option ℕ :=
  if divisor = 0 then none else some (dividend / divisor)

/-- `freq_fsm_compute`: the value, unless it divides by zero, and the state it leaves. -/
def FreqFsm.compute (calVal : ℤ) (fsm : FreqFsm) : Option ℕ × FreqFsm :=
  if fsm.batchSeq = fsm.lastSeenSeq then (some 0, fsm)
  else
    let seen := { fsm with lastSeenSeq := fsm.batchSeq }
    if fsm.latchedSum = 0 then (some 0, seen)
    else ((divC freqConst fsm.latchedSum.toNat).map fun base ↦ toUint16 (base + calVal), seen)

/-- A call of one of the two functions; `calVal` is the frequency calibration. -/
inductive FreqCall
  | capture (value : UInt32)
  | compute (calVal : ℤ)

/-- The effect of a call. -/
def FreqCall.exec (call : FreqCall) (fsm : FreqFsm) : FreqFsm :=
  match call with
  | .capture value => freqFsmOnCapture value fsm
  | .compute calVal => (fsm.compute calVal).2

/-- The measurement from its initialisation on. -/
def freqMachine : Machine FreqFsm FreqCall where
  start := freqFsmInit
  exec := FreqCall.exec

/-- The sum a computation finds fresh. -/
def FreqFsm.fresh (fsm : FreqFsm) : Option ℕ :=
  if fsm.batchSeq = fsm.lastSeenSeq then none else some fsm.latchedSum.toNat

/-- The value is that of the publish, given the fresh sum. -/
theorem compute_eq (calVal : ℤ) (fsm : FreqFsm) :
    (fsm.compute calVal).1 = some (freqFsmCompute fsm.fresh calVal) := by
  unfold FreqFsm.compute FreqFsm.fresh
  split_ifs with hseen hzero
  · rfl
  · simp [freqFsmCompute, hzero]
  · have hsum : fsm.latchedSum.toNat ≠ 0 := fun h ↦ hzero (UInt32.toNat_inj.mp h)
    simp [freqFsmCompute, divC, hsum]

/-! ### Groups of eleven captures -/

/-- The captures of a history, oldest first. -/
def captures : List FreqCall → List UInt32
  | [] => []
  | .capture value :: past => captures past ++ [value]
  | .compute _ :: past => captures past

/-- The captures in groups of eleven: the full ones, newest first, and the one under way, each in
the order of its captures. -/
def batching : List FreqCall → List (List UInt32) × List UInt32
  | [] => ([], [])
  | .capture value :: past =>
    let part := (batching past).2 ++ [value]
    if (batching past).2.length = freqAvgSamples then (part :: (batching past).1, [])
    else ((batching past).1, part)
  | .compute _ :: past => batching past

/-- The number of groups completed in a history. -/
def batches (history : List FreqCall) : ℕ := (batching history).1.length

/-- The number of groups completed when the newest computation was made. -/
def batchesSeen : List FreqCall → ℕ
  | [] => 0
  | .capture _ :: past => batchesSeen past
  | .compute _ :: past => batches past

/-- What the counter counts between the first and the last capture of a group. -/
def batchSpan (group : List UInt32) : UInt32 := group.getLastD 0 - group.headD 0

/-- The groups are the captures, eleven each and each in one group, with fewer under way. -/
theorem batching_groups (history : List FreqCall) :
    (batching history).1.reverse.flatten ++ (batching history).2 = captures history ∧
      (∀ group ∈ (batching history).1, group.length = 11) ∧ (batching history).2.length < 11 := by
  induction history with
  | nil => simp [batching, captures]
  | cons call past ih =>
    obtain ⟨hsplit, hfull, hpart⟩ := ih
    cases call with
    | compute calVal => exact ⟨hsplit, hfull, hpart⟩
    | capture value =>
      rw [batching, captures, ← hsplit]
      split_ifs with hlast
      · refine ⟨by simp, ?_, Nat.succ_pos 10⟩
        rintro group (_ | ⟨_, hgroup⟩)
        · rw [List.length_append, hlast]
          rfl
        · exact hfull group hgroup
      · refine ⟨by simp, hfull, ?_⟩
        have hsamples : (batching past).2.length ≠ 10 := hlast
        rw [List.length_append, List.length_singleton]
        omega

theorem batchesSeen_le (history : List FreqCall) : batchesSeen history ≤ batches history := by
  induction history with
  | nil => exact le_rfl
  | cons call past ih =>
    cases call with
    | compute calVal => exact le_rfl
    | capture value =>
      refine le_trans ih ?_
      rw [batches, batches, batching]
      split_ifs
      · exact Nat.le_succ _
      · exact le_rfl

/-- Every computation made so far has seen no more than the newest. -/
theorem batches_le_seen {calVal : ℤ} {past history : List FreqCall}
    (hmade : .compute calVal :: past <:+ history) : batches past ≤ batchesSeen history := by
  induction history with
  | nil => simp at hmade
  | cons call recent ih =>
    rcases List.suffix_cons_iff.mp hmade with hnow | hbefore
    · obtain ⟨rfl, rfl⟩ := List.cons.inj hnow
      exact le_rfl
    · have hle := ih hbefore
      cases call with
      | compute calVal' => exact hle.trans (batchesSeen_le recent)
      | capture value => exact hle

/-! ### What a history leaves -/

/-- The part of the state that the group under way accounts for. -/
structure FreqFsm.Collects (fsm : FreqFsm) (part : List UInt32) : Prop where
  havePrev : fsm.havePrev = !part.isEmpty
  cnt : fsm.cnt = part.length - 1
  acc : fsm.acc = batchSpan part
  prevCap : part ≠ [] → fsm.prevCap = part.getLastD 0

/-- The state after a history: the group under way, the newest full one, and the numbers of
groups, reduced to 32 bits. -/
structure FreqFsm.Holds (fsm : FreqFsm) (history : List FreqCall) : Prop where
  collects : fsm.Collects (batching history).2
  latched : ∀ group ∈ (batching history).1.head?, fsm.latchedSum = batchSpan group
  seq : fsm.batchSeq = UInt32.ofNat (batches history)
  seen : fsm.lastSeenSeq = UInt32.ofNat (batchesSeen history)

theorem getLastD_concat (part : List UInt32) (value : UInt32) :
    (part ++ [value]).getLastD 0 = value := by
  rw [List.getLastD_eq_getLast?, List.getLast?_concat, Option.getD_some]

/-- The span grows by what passes up to the next capture. -/
theorem batchSpan_append {part : List UInt32} (hpart : part ≠ []) (value : UInt32) :
    batchSpan (part ++ [value]) = batchSpan part + (value - part.getLastD 0) := by
  have hfirst : (part ++ [value]).headD 0 = part.headD 0 := by
    rw [List.headD_eq_head?_getD, List.headD_eq_head?_getD, List.head?_append_of_ne_nil _ hpart]
  rw [batchSpan, batchSpan, getLastD_concat, hfirst]
  grind

theorem freqFsmInit_holds : freqFsmInit.Holds [] where
  collects := ⟨rfl, rfl, rfl, fun h ↦ absurd rfl h⟩
  latched := by rintro _ ⟨⟩
  seq := rfl
  seen := rfl

/-- A capture joins the group under way, or completes it. -/
theorem onCapture_holds {fsm : FreqFsm} {history : List FreqCall} (value : UInt32)
    (hholds : fsm.Holds history) :
    (freqFsmOnCapture value fsm).Holds (.capture value :: history) := by
  obtain ⟨⟨hhave, hcnt, hacc, hprev⟩, hlatched, hseq, hseen⟩ := hholds
  have hlength := (batching_groups history).2.2
  unfold freqFsmOnCapture
  cases hpart : (batching history).2 with
  | nil =>
    rw [hpart] at hhave hcnt hacc
    have hnext : batching (.capture value :: history) = ((batching history).1, [value]) := by
      rw [batching, hpart]
      rfl
    rw [if_pos (show fsm.havePrev = false from hhave)]
    constructor
    · rw [hnext]
      exact ⟨rfl, hcnt, hacc.trans (by simp [batchSpan]), fun _ ↦ rfl⟩
    · rw [hnext]
      exact hlatched
    · rw [batches, hnext]
      exact hseq
    · exact hseen
  | cons first rest =>
    have hpartial : (batching history).2 ≠ [] := by simp [hpart]
    have hadded := batchSpan_append hpartial value
    rw [← hprev hpartial, ← hacc] at hadded
    have hhave : fsm.havePrev = true := by rw [hhave, hpart]; rfl
    rw [hpart, List.length_cons] at hlength
    have hcount : (fsm.cnt + 1) % 256 = (batching history).2.length := by
      rw [hcnt, hpart, List.length_cons]
      omega
    rw [hhave, if_neg (by simp), hcount]
    dsimp only
    by_cases hlast : (batching history).2.length = freqAvgSamples
    · have hnext : batching (.capture value :: history) =
          (((batching history).2 ++ [value]) :: (batching history).1, []) := by
        rw [batching]
        exact if_pos hlast
      rw [if_pos hlast.ge]
      constructor
      · rw [hnext]
        exact ⟨rfl, rfl, by simp [batchSpan], fun h ↦ absurd rfl h⟩
      · rw [hnext]
        rintro group ⟨⟩
        exact hadded.symm
      · rw [batches, hnext, List.length_cons, UInt32.ofNat_add, ← batches, ← hseq]
        rfl
      · exact hseen
    · have hnext : batching (.capture value :: history) =
          ((batching history).1, (batching history).2 ++ [value]) := by
        rw [batching]
        exact if_neg hlast
      have hfew : ¬ (batching history).2.length ≥ freqAvgSamples := by
        have hsamples : freqAvgSamples = 10 := rfl
        rw [hpart, List.length_cons] at hlast ⊢
        omega
      rw [if_neg hfew]
      constructor
      · rw [hnext]
        refine ⟨by simp, by simp, hadded.symm, fun _ ↦ (getLastD_concat _ _).symm⟩
      · rw [hnext]
        exact hlatched
      · rw [batches, hnext]
        exact hseq
      · exact hseen

/-- A computation marks the newest group as seen. -/
theorem compute_holds {fsm : FreqFsm} {history : List FreqCall} (calVal : ℤ)
    (hholds : fsm.Holds history) : (fsm.compute calVal).2.Holds (.compute calVal :: history) := by
  obtain ⟨hcollects, hlatched, hseq, hseen⟩ := hholds
  unfold FreqFsm.compute
  split_ifs with hsame
  · exact ⟨hcollects, hlatched, hseq, hsame.symm.trans hseq⟩
  · exact ⟨⟨hcollects.havePrev, hcollects.cnt, hcollects.acc, hcollects.prevCap⟩, hlatched, hseq,
      hseq⟩
  · exact ⟨⟨hcollects.havePrev, hcollects.cnt, hcollects.acc, hcollects.prevCap⟩, hlatched, hseq,
      hseq⟩

theorem freq_holds (history : List FreqCall) : (freqMachine.after history).Holds history := by
  induction history with
  | nil => exact freqFsmInit_holds
  | cons call past ih =>
    cases call with
    | capture value => exact onCapture_holds value ih
    | compute calVal => exact compute_holds calVal ih

/-- Assumes: the state of a history. A value other than zero is the frequency of the newest group,
which no computation has seen. -/
theorem FreqFsm.Holds.compute {fsm : FreqFsm} {history : List FreqCall} (hholds : fsm.Holds history)
    {calVal : ℤ} {value : ℕ} (hvalue : (fsm.compute calVal).1 = some value) (hsome : value ≠ 0) :
    batchesSeen history < batches history ∧
      ∃ group ∈ (batching history).1.head?, batchSpan group ≠ 0 ∧
        value = toUint16 ((freqConst / (batchSpan group).toNat : ℕ) + calVal) := by
  rw [compute_eq, Option.some_inj] at hvalue
  have hfresh : fsm.batchSeq ≠ fsm.lastSeenSeq := by
    intro hsame
    rw [FreqFsm.fresh, if_pos hsame] at hvalue
    exact hsome hvalue.symm
  have hlt : batchesSeen history < batches history := by
    refine lt_of_le_of_ne (batchesSeen_le history) fun hsame ↦ hfresh ?_
    rw [hholds.seq, hholds.seen, hsame]
  obtain ⟨group, older, hfull⟩ := List.exists_cons_of_length_pos (Nat.zero_lt_of_lt hlt)
  have hgroup : group ∈ (batching history).1.head? := by rw [hfull]; rfl
  rw [FreqFsm.fresh, if_neg hfresh, hholds.latched group hgroup] at hvalue
  refine ⟨hlt, group, hgroup, ?_⟩
  by_cases hspan : batchSpan group = 0
  · rw [hspan] at hvalue
    exact absurd hvalue.symm hsome
  · refine ⟨hspan, ?_⟩
    have hne : (batchSpan group).toNat ≠ 0 := fun h ↦ hspan (UInt32.toNat_inj.mp h)
    rw [← hvalue, freqFsmCompute]
    exact if_neg hne

/-- For every sequence of captures and computations: the captures fall into groups of eleven
consecutive ones; after each group the latched sum is what the 32-bit counter counts between its
first and its last capture; a computation never divides by zero, and answers zero when no group has
been completed since the computation before; another answer is the frequency of the group completed
last, which no computation made before has seen. -/
theorem freq_batches (history : List FreqCall) :
    ((batching history).1.reverse.flatten ++ (batching history).2 = captures history ∧
      (∀ group ∈ (batching history).1, group.length = 11) ∧ (batching history).2.length < 11) ∧
    (∀ group ∈ (batching history).1.head?,
      (freqMachine.after history).latchedSum = batchSpan group) ∧
    ∀ calVal, ∃ value, ((freqMachine.after history).compute calVal).1 = some value ∧
      (batches history = batchesSeen history → value = 0) ∧
      (value ≠ 0 →
        (∃ group ∈ (batching history).1.head?, batchSpan group ≠ 0 ∧
          value = toUint16 ((freqConst / (batchSpan group).toNat : ℕ) + calVal)) ∧
        ∀ calVal' past, .compute calVal' :: past <:+ history → batches past < batches history) := by
  have hholds := freq_holds history
  refine ⟨batching_groups history, hholds.latched, fun calVal ↦ ⟨_, compute_eq _ _, ?_, ?_⟩⟩
  · intro hnone
    by_contra hsome
    exact absurd hnone (hholds.compute (compute_eq _ _) hsome).1.ne'
  · intro hsome
    obtain ⟨hlt, hgroup⟩ := hholds.compute (compute_eq _ _) hsome
    exact ⟨hgroup, fun calVal' past hmade ↦ (batches_le_seen hmade).trans_lt hlt⟩

end UsCtrl
