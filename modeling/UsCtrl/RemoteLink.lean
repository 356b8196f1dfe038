import UsCtrl.RemoteFsms
import UsCtrl.Foundation.History

/-!
# The silent link behind the remote gate

The gate of `app_remote_en_fsm.c` on its own, driven by the calls it sees: a request that is decoded
and stamped, and a step with the levels of the switch and the emergency stop. Its runs are
histories of a machine, so the stamps are those of real requests and not free inputs.

The silence watch closes the gate on a link that has been used since the switch was turned on and
is now silent (`link_fresh_iff`), except after one kind of step: leaving the emergency stop
recomputes the watch from the present state of the link, so that a link which went silent during
the stop reopens the gate unwatched. A closed link stays closed (`link_closed_iff`) until the 32-bit
age of the last request wraps, because the stamp is kept for ever.
-/

set_option autoImplicit false
set_option relaxedAutoImplicit false

namespace UsCtrl

open Foundation

/-! ### The gate and its calls -/

/-- A call the gate sees: `app_modbus_note_remote`, or one `remote_en_fsm_step`. -/
inductive LinkEvent
  | request (nowMs : ℕ)
  | step (nowMs : ℕ) (sw estop : Bool)

/-- The clock value of a call. -/
def LinkEvent.nowMs : LinkEvent → ℕ
  | .request nowMs => nowMs
  | .step nowMs _ _ => nowMs

/-- The call is a step of the gate. -/
def LinkEvent.isStep : LinkEvent → Bool
  | .request _ => false
  | .step .. => true

/-- The gate with the request stamp it reads, `s_remote_ms` and `s_remote_seen`. -/
structure LinkState where
  fsm : RemoteEnFsm
  lastReqMs : ℕ
  reqValid : Bool

/-- The input `remote_en_step` builds for a step. -/
def LinkState.input (nowMs : ℕ) (sw estop : Bool) (s : LinkState) : RemoteEnIn where
  nowMs := nowMs
  sw := sw
  lastReqMs := s.lastReqMs
  reqValid := s.reqValid
  estop := estop

/-- The effect of one call. -/
def linkExec : LinkEvent → LinkState → LinkState
  | .request nowMs, s => { s with lastReqMs := nowMs, reqValid := true }
  | .step nowMs sw estop, s => { s with fsm := remoteEnFsmStep (s.input nowMs sw estop) s.fsm }

/-- The gate from its initialization on. -/
def linkMachine : Machine LinkState LinkEvent := ⟨⟨remoteEnFsmInit, 0, false⟩, linkExec⟩

/-- The state of the gate after a history. -/
def gateOf (history : List LinkEvent) : RemoteEn := (linkMachine.after history).fsm.state

/-- The time of the latest valid request of a history. -/
def lastRequest (history : List LinkEvent) : ℕ := (linkMachine.after history).lastReqMs

/-- The clock value of the newest call. -/
def newestMs (history : List LinkEvent) : ℕ := (history.head?.map LinkEvent.nowMs).getD 0

@[simp] theorem newestMs_cons (event : LinkEvent) (past : List LinkEvent) :
    newestMs (event :: past) = event.nowMs := rfl

/-- The switch as the newest step saw it. -/
def switchOn : List LinkEvent → Bool
  | [] => false
  | .request _ :: past => switchOn past
  | .step _ sw _ :: _ => sw

/-- A valid request has been decoded since the switch was last turned on. -/
def requestedSinceOn : Past LinkEvent :=
  since (fun history ↦ switchOn history = true) fun history ↦
    switchOn history = true ∧ ∃ nowMs past, history = .request nowMs :: past

/-- The clock does not run backwards, and the calls made after the first step of the gate span
less than `2 ^ 31` ms. -/
def LinkOrdered (history : List LinkEvent) : Prop :=
  history.Pairwise fun newer older ↦ older.nowMs ≤ newer.nowMs ∧
    (older.isStep = true → newer.nowMs < older.nowMs + 2 ^ 31)

/-- An open gate whose link has been used since the switch was turned on has a request less than
`SILENCE_MS` old. -/
def linkFresh : Past LinkEvent := fun history ↦
  gateOf history = .enabled → requestedSinceOn history →
    newestMs history - lastRequest history < silenceMs

/-- A step that leaves the emergency stop with the switch on finds a used link still alive. -/
def releasedAlive : Past LinkEvent
  | .step nowMs true false :: past =>
    gateOf past = .disEstop → requestedSinceOn past → nowMs - lastRequest past < silenceMs
  | _ => True

/-! ### What a step of the gate can do -/

theorem remoteSilenceStep_armed (input : RemoteEnIn) (fsm : RemoteEnFsm) :
    (remoteSilenceStep input fsm).silenceArmed = true ↔ fsm.silenceArmed = true ∨
      (input.reqValid = true ∧
        elapsedMs input.lastReqMs fsm.enterMs ≤ elapsedMs input.nowMs fsm.enterMs) := by
  unfold remoteSilenceStep
  cases fsm.silenceArmed <;> simp

theorem remoteSilenceStep_state (input : RemoteEnIn) (fsm : RemoteEnFsm) :
    (remoteSilenceStep input fsm).state =
      if (remoteSilenceStep input fsm).silenceArmed = true ∧ remoteLinkAlive input = false
      then .disLink else fsm.state := by
  simp [remoteSilenceStep]

/-- With the switch on and the stop released, a step waits on a dead link, enters the open state
with the watch armed by a live link, or watches the open state. -/
theorem remoteEnFsmStep_open (input : RemoteEnIn) (fsm : RemoteEnFsm) (hsw : input.sw = true)
    (hestop : input.estop = false) :
    (fsm.state = .disLink ∧ remoteLinkAlive input = false ∧ remoteEnFsmStep input fsm = fsm) ∨
      (fsm.state ≠ .enabled ∧ (fsm.state = .disLink → remoteLinkAlive input = true) ∧
        remoteEnFsmStep input fsm =
          remoteSilenceStep input ⟨.enabled, input.nowMs, remoteLinkAlive input⟩) ∨
      (fsm.state = .enabled ∧ remoteEnFsmStep input fsm = remoteSilenceStep input fsm) := by
  unfold remoteEnFsmStep
  rw [if_neg (by simp [hsw]), if_neg (by simp [hestop])]
  by_cases hopen : fsm.state = .enabled
  · rw [if_neg (by simp [hopen])]
    exact Or.inr (Or.inr ⟨hopen, rfl⟩)
  · rw [if_pos hopen]
    by_cases hwait : fsm.state = .disLink ∧ remoteLinkAlive input = false
    · rw [if_pos hwait]
      exact Or.inl ⟨hwait.1, hwait.2, rfl⟩
    · rw [if_neg hwait]
      exact Or.inr (Or.inl ⟨hopen, by simpa using hwait, rfl⟩)

@[simp] theorem gateOf_switch_off (nowMs : ℕ) (estop : Bool) (past : List LinkEvent) :
    gateOf (.step nowMs false estop :: past) = .disabled := rfl

@[simp] theorem gateOf_stopped (nowMs : ℕ) (past : List LinkEvent) :
    gateOf (.step nowMs true true :: past) = .disEstop := rfl

/-- The gate is disabled exactly while the switch is off. -/
theorem gateOf_disabled_iff (history : List LinkEvent) :
    gateOf history = .disabled ↔ switchOn history = false := by
  induction history with
  | nil => exact iff_of_true rfl rfl
  | cons event past ih =>
    cases event with
    | request nowMs => exact ih
    | step nowMs sw estop =>
      cases sw with
      | false => exact iff_of_true rfl rfl
      | true =>
        refine iff_of_false ?_ (by simp [switchOn])
        change (remoteEnFsmStep ((linkMachine.after past).input nowMs true estop)
          (linkMachine.after past).fsm).state ≠ _
        cases estop with
        | true => simp [remoteEnFsmStep, LinkState.input]
        | false =>
          rcases remoteEnFsmStep_open ((linkMachine.after past).input nowMs true false)
            (linkMachine.after past).fsm rfl rfl with ⟨hst, _, h⟩ | ⟨_, _, h⟩ | ⟨hst, h⟩ <;>
            rw [h]
          · simp [hst]
          · rw [remoteSilenceStep_state]
            split_ifs <;> simp
          · rw [remoteSilenceStep_state]
            split_ifs <;> simp [hst]

/-! ### The requests of a run -/

theorem requestedSinceOn_switchOn :
    ∀ history, requestedSinceOn history → switchOn history = true :=
  since_induction _ (fun _ _ h ↦ h.1) fun _ _ h _ ↦ h

/-- A step keeps the requests made since the switch was turned on, or forgets them with the
switch. -/
theorem requestedSinceOn_step {nowMs : ℕ} {sw estop : Bool} {past : List LinkEvent} :
    requestedSinceOn (.step nowMs sw estop :: past) ↔ sw = true ∧ requestedSinceOn past := by
  constructor
  · intro h
    refine ⟨requestedSinceOn_switchOn _ h, ?_⟩
    rcases h with ⟨_, _, _, heq⟩ | ⟨_, hpast⟩
    · cases heq
    · exact hpast
  · rintro ⟨rfl, hpast⟩
    exact Or.inr ⟨rfl, hpast⟩

/-- A switch that is on was seen on by a step of the run. -/
theorem step_of_switchOn {history : List LinkEvent} (hordered : LinkOrdered history)
    (hon : switchOn history = true) :
    ∃ event ∈ history, event.isStep = true ∧ event.nowMs ≤ newestMs history := by
  cases history with
  | nil => cases hon
  | cons event past =>
    cases event with
    | step nowMs sw estop => exact ⟨_, List.mem_cons_self, rfl, le_rfl⟩
    | request nowMs =>
      induction past with
      | nil => cases hon
      | cons older past ih =>
        cases older with
        | step olderMs sw estop =>
          exact ⟨_, by simp, rfl, (List.rel_of_pairwise_cons hordered List.mem_cons_self).1⟩
        | request olderMs =>
          obtain ⟨event, hmem, hstep, hle⟩ := ih (hordered.sublist (by simp)) hon
          refine ⟨event, ?_, hstep, hle⟩
          rcases List.mem_cons.mp hmem with rfl | hpast <;> simp_all

/-- Requests made since the switch was turned on are stamped, and no earlier than a step of the
run. -/
theorem requestedSinceOn_stamp : ∀ history, LinkOrdered history → requestedSinceOn history →
    (linkMachine.after history).reqValid = true ∧ lastRequest history ≤ newestMs history ∧
      ∃ event ∈ history, event.isStep = true ∧ event.nowMs ≤ lastRequest history := by
  intro history
  induction history with
  | nil => exact fun _ h ↦ absurd h (since_nil _ _)
  | cons event past ih =>
    intro hordered hsince
    cases event with
    | request nowMs =>
      exact ⟨rfl, le_rfl, step_of_switchOn hordered (requestedSinceOn_switchOn _ hsince)⟩
    | step nowMs sw estop =>
      have hpast := (requestedSinceOn_step.mp hsince).2
      obtain ⟨hvalid, hle, event, hmem, hstep, hfrom⟩ := ih hordered.tail hpast
      refine ⟨hvalid, ?_, event, List.mem_cons_of_mem _ hmem, hstep, hfrom⟩
      cases past with
      | nil => exact absurd hpast (since_nil _ _)
      | cons older past =>
        exact hle.trans (List.rel_of_pairwise_cons hordered List.mem_cons_self).1

/-- The open state was entered by a step of the run. -/
theorem gateOf_entered : ∀ history, gateOf history = .enabled →
    ∃ event ∈ history, event.isStep = true ∧
      event.nowMs = (linkMachine.after history).fsm.enterMs := by
  intro history
  induction history with
  | nil => exact fun h ↦ absurd h (by decide)
  | cons event past ih =>
    intro hopen
    cases event with
    | request nowMs =>
      obtain ⟨event, hmem, hstep, hentered⟩ := ih hopen
      exact ⟨event, List.mem_cons_of_mem _ hmem, hstep, hentered⟩
    | step nowMs sw estop =>
      change (remoteEnFsmStep ((linkMachine.after past).input nowMs sw estop)
        (linkMachine.after past).fsm).state = _ at hopen
      change ∃ event ∈ _, _ ∧ _ = (remoteEnFsmStep ((linkMachine.after past).input nowMs sw estop)
        (linkMachine.after past).fsm).enterMs
      cases sw with
      | false => cases hopen
      | true =>
        cases estop with
        | true => cases hopen
        | false =>
          rcases remoteEnFsmStep_open ((linkMachine.after past).input nowMs true false)
            (linkMachine.after past).fsm rfl rfl with ⟨hst, _, h⟩ | ⟨_, _, h⟩ | ⟨hst, h⟩ <;>
            rw [h] at hopen ⊢
          · rw [hst] at hopen
            cases hopen
          · exact ⟨_, List.mem_cons_self, rfl, rfl⟩
          · obtain ⟨event, hmem, hstep, hentered⟩ := ih hst
            exact ⟨event, List.mem_cons_of_mem _ hmem, hstep, hentered⟩

/-! ### The silence watch -/

/-- An open gate with a used link is watched: the watch is armed, or it will be, because a request
has come since the gate was entered. -/
def linkWatched : Past LinkEvent := fun history ↦
  gateOf history = .enabled → requestedSinceOn history →
    (linkMachine.after history).fsm.silenceArmed = true ∨
      (linkMachine.after history).fsm.enterMs ≤ lastRequest history

section Watch

variable {nowMs : ℕ} {past : List LinkEvent}

/-- Assumes: an ordered run ends with a step, and a request has come since the switch was turned
on. Then the age of that request is far from wrapping. -/
theorem requestedSinceOn_age (hordered : LinkOrdered (.step nowMs true false :: past))
    (hreq : requestedSinceOn past) :
    (linkMachine.after past).reqValid = true ∧ lastRequest past ≤ nowMs ∧
      nowMs - lastRequest past < 2 ^ 31 := by
  have hsince : requestedSinceOn (.step nowMs true false :: past) := Or.inr ⟨rfl, hreq⟩
  obtain ⟨hvalid, _, event, hmem, hstep, hfrom⟩ := requestedSinceOn_stamp past hordered.tail hreq
  have hle : lastRequest past ≤ nowMs := (requestedSinceOn_stamp _ hordered hsince).2.1
  have hspan := (List.rel_of_pairwise_cons hordered hmem).2 hstep
  simp only [LinkEvent.nowMs] at hspan
  exact ⟨hvalid, hle, by simp only [LinkEvent.nowMs] at hfrom; omega⟩

theorem remoteLinkAlive_iff (hordered : LinkOrdered (.step nowMs true false :: past))
    (hreq : requestedSinceOn past) :
    remoteLinkAlive ((linkMachine.after past).input nowMs true false) = true ↔
      nowMs - lastRequest past < silenceMs := by
  obtain ⟨hvalid, hle, hspan⟩ := requestedSinceOn_age hordered hreq
  have helapsed : elapsedMs nowMs (lastRequest past) = nowMs - lastRequest past :=
    elapsedMs_of_le hle (by omega)
  unfold remoteLinkAlive LinkState.input
  rw [← lastRequest, hvalid, helapsed]
  simp

/-- Entering the open state on a dead link leaves it open and unarmed. -/
theorem entered_dead (hordered : LinkOrdered (.step nowMs true false :: past))
    (hreq : requestedSinceOn past) (hclosed : gateOf past = .disEstop)
    (hdead : ¬ nowMs - lastRequest past < silenceMs) :
    gateOf (.step nowMs true false :: past) = .enabled := by
  have halive : remoteLinkAlive ((linkMachine.after past).input nowMs true false) = false := by
    rw [Bool.eq_false_iff, Ne, remoteLinkAlive_iff hordered hreq]
    exact hdead
  obtain ⟨-, hle, hspan⟩ := requestedSinceOn_age hordered hreq
  have hahead : elapsedMs (lastRequest past) nowMs = 2 ^ 32 - (nowMs - lastRequest past) :=
    wrapElapsed_of_gt (by unfold silenceMs at hdead; omega) (by omega)
  change (remoteEnFsmStep ((linkMachine.after past).input nowMs true false)
    (linkMachine.after past).fsm).state = .enabled
  unfold gateOf at hclosed
  rcases remoteEnFsmStep_open ((linkMachine.after past).input nowMs true false)
    (linkMachine.after past).fsm rfl rfl with ⟨hst, _, _⟩ | ⟨_, _, h⟩ | ⟨hst, _⟩
  · rw [hclosed] at hst
    cases hst
  · rw [h, remoteSilenceStep_state, if_neg]
    rintro ⟨harmed, -⟩
    rw [remoteSilenceStep_armed, halive] at harmed
    simp only [Bool.false_eq_true, false_or, LinkState.input, elapsedMs_self] at harmed
    have hzero : elapsedMs (lastRequest past) nowMs = 0 := Nat.le_zero.mp harmed.2
    omega
  · rw [hclosed] at hst
    cases hst

/-- Assumes: the gate was watched before a step that does not reopen it on a dead link. Then the
step leaves it open only on a live link, and watched. -/
theorem linkWatched_step (hordered : LinkOrdered (.step nowMs true false :: past))
    (hreq : requestedSinceOn past) (hwatched : linkWatched past)
    (hreleased : releasedAlive (.step nowMs true false :: past))
    (hopen : gateOf (.step nowMs true false :: past) = .enabled) :
    nowMs - lastRequest past < silenceMs ∧
      ((linkMachine.after (.step nowMs true false :: past)).fsm.silenceArmed = true ∨
        (linkMachine.after (.step nowMs true false :: past)).fsm.enterMs ≤ lastRequest past) := by
  have halive := remoteLinkAlive_iff hordered hreq
  obtain ⟨hvalid, hle, hspan⟩ := requestedSinceOn_age hordered hreq
  change (remoteEnFsmStep ((linkMachine.after past).input nowMs true false)
    (linkMachine.after past).fsm).state = .enabled at hopen
  change _ ∧ ((remoteEnFsmStep ((linkMachine.after past).input nowMs true false)
    (linkMachine.after past).fsm).silenceArmed = true ∨ (remoteEnFsmStep
      ((linkMachine.after past).input nowMs true false) (linkMachine.after past).fsm).enterMs ≤ _)
  rcases remoteEnFsmStep_open ((linkMachine.after past).input nowMs true false)
    (linkMachine.after past).fsm rfl rfl with ⟨hst, _, h⟩ | ⟨hst, hlink, h⟩ | ⟨hst, h⟩ <;>
    rw [h] at hopen ⊢
  · rw [hst] at hopen
    cases hopen
  · -- the gate is entered: after the stop by hypothesis, after a silent link by the gate itself
    have hfresh : nowMs - lastRequest past < silenceMs := by
      cases hpast : gateOf past with
      | enabled => exact absurd hpast hst
      | disabled =>
        rw [gateOf_disabled_iff, requestedSinceOn_switchOn past hreq] at hpast
        cases hpast
      | disLink => exact halive.mp (hlink hpast)
      | disEstop => exact hreleased hpast hreq
    refine ⟨hfresh, Or.inl ?_⟩
    rw [remoteSilenceStep_armed]
    exact Or.inl (halive.mpr hfresh)
  · obtain ⟨event, hmem, hstep, hentered⟩ := gateOf_entered past hst
    have hafter := List.rel_of_pairwise_cons hordered hmem
    rw [hentered] at hafter
    simp only [LinkEvent.nowMs] at hafter
    have harmed := remoteSilenceStep_armed ((linkMachine.after past).input nowMs true false)
      (linkMachine.after past).fsm
    have hwas := hwatched hst hreq
    -- a watch that was due is armed by this step
    have hnow : (remoteSilenceStep ((linkMachine.after past).input nowMs true false)
        (linkMachine.after past).fsm).silenceArmed = true := by
      rw [harmed]
      refine hwas.imp_right fun hsince ↦ ⟨hvalid, ?_⟩
      change elapsedMs (lastRequest past) _ ≤ elapsedMs nowMs _
      have hspan' := hafter.2 hstep
      rw [elapsedMs_of_le hsince (by omega), elapsedMs_of_le (hsince.trans hle) (by omega)]
      omega
    rw [remoteSilenceStep_state] at hopen
    refine ⟨halive.mp ?_, Or.inl hnow⟩
    by_contra hdead
    rw [if_pos ⟨hnow, Bool.eq_false_iff.mpr hdead⟩] at hopen
    cases hopen

end Watch

/-- Assumes: an ordered run. Every open gate of the run has a fresh request on a used link exactly
when every release of the emergency stop in the run found a used link alive. -/
theorem link_fresh_iff (history : List LinkEvent) (hordered : LinkOrdered history) :
    always linkFresh history ↔ always releasedAlive history := by
  constructor
  · induction history with
    | nil => exact id
    | cons event past ih =>
      rintro ⟨hfresh, hpast⟩
      refine ⟨?_, ih hordered.tail hpast⟩
      rcases event with nowMs | ⟨nowMs, _ | _, _ | _⟩
      case step.true.false =>
        intro hclosed hreq
        by_contra hdead
        exact hdead (hfresh (entered_dead hordered hreq hclosed hdead) (Or.inr ⟨rfl, hreq⟩))
      all_goals trivial
  · suffices h : always releasedAlive history → always linkFresh history ∧ linkWatched history from
      fun hreleased ↦ (h hreleased).1
    induction history with
    | nil => exact fun _ ↦ ⟨trivial, fun h _ ↦ absurd h (by decide)⟩
    | cons event past ih =>
      rintro ⟨hreleased, hpast⟩
      obtain ⟨hfresh, hwatched⟩ := ih hordered.tail hpast
      rcases event with nowMs | ⟨nowMs, _ | _, estop⟩
      case request =>
        refine ⟨⟨fun _ _ ↦ ?_, hfresh⟩, fun hopen _ ↦ Or.inr ?_⟩
        · change nowMs - nowMs < silenceMs
          rw [Nat.sub_self]
          decide
        · obtain ⟨entry, hmem, hstep, hentered⟩ := gateOf_entered past hopen
          change (linkMachine.after past).fsm.enterMs ≤ nowMs
          rw [← hentered]
          exact (List.rel_of_pairwise_cons hordered hmem).1
      case step.false =>
        exact ⟨⟨fun h _ ↦ absurd h (by simp), hfresh⟩, fun h _ ↦ absurd h (by simp)⟩
      case step.true =>
        cases estop with
        | true => exact ⟨⟨fun h _ ↦ absurd h (by simp), hfresh⟩, fun h _ ↦ absurd h (by simp)⟩
        | false =>
          exact ⟨⟨fun hopen hreq ↦ (linkWatched_step hordered (requestedSinceOn_step.mp hreq).2
              hwatched hreleased hopen).1, hfresh⟩,
            fun hopen hreq ↦ (linkWatched_step hordered (requestedSinceOn_step.mp hreq).2
              hwatched hreleased hopen).2⟩

/-- The emergency stop is released over a live link, and later over one that went silent while the
stop was held. -/
def liveRelease : List LinkEvent :=
  [.step 6000 true false, .request 5000, .step 3000 true true, .request 2000,
    .step 1000 true false]

theorem liveRelease_fresh : LinkOrdered liveRelease ∧ always linkFresh liveRelease := by
  have hordered : LinkOrdered liveRelease := by
    unfold LinkOrdered liveRelease
    decide
  refine ⟨hordered, (link_fresh_iff liveRelease hordered).mpr ?_⟩
  exact ⟨fun _ _ ↦ by decide, trivial, trivial, trivial, fun h _ ↦ absurd h (by decide), trivial⟩

/-- The emergency stop is held for eleven seconds, and the link falls silent under it. -/
def silentRelease : List LinkEvent :=
  [.step 14000 true false, .step 3000 true true, .request 2000, .step 1000 true false]

/-- The release reopens the gate over a link that has been silent for twelve seconds. -/
theorem silentRelease_stale : LinkOrdered silentRelease ∧ gateOf silentRelease = .enabled ∧
    requestedSinceOn silentRelease ∧
      ¬ newestMs silentRelease - lastRequest silentRelease < silenceMs := by
  refine ⟨?_, by decide, ?_, by decide⟩
  · unfold LinkOrdered silentRelease
    decide
  · exact Or.inr ⟨rfl, Or.inr ⟨rfl, Or.inl ⟨rfl, 2000, _, rfl⟩⟩⟩

/-! ### The closed link -/

/-- Steps of the gate with the switch on and the stop released, newest first. -/
def quietSteps (times : List ℕ) : List LinkEvent := times.map fun nowMs ↦ .step nowMs true false

/-- The age of the last request at the newest call. -/
def requestAge (history : List LinkEvent) : ℕ := newestMs history - lastRequest history

/-- Two successive steps lie less than `SILENCE_MS` apart. -/
def StepGap (newer older : ℕ) : Prop := older ≤ newer ∧ newer < older + silenceMs

/-- An armed watch and a closed link have both seen a request. -/
def LinkState.Seen (s : LinkState) : Prop :=
  (s.fsm.silenceArmed = true → s.reqValid = true) ∧ (s.fsm.state = .disLink → s.reqValid = true)

theorem remoteLinkAlive_reqValid {input : RemoteEnIn} (halive : remoteLinkAlive input = true) :
    input.reqValid = true := by
  unfold remoteLinkAlive at halive
  exact (Bool.and_eq_true _ _ ▸ halive).1

theorem remoteSilenceStep_seen {input : RemoteEnIn} {fsm : RemoteEnFsm}
    (harmed : fsm.silenceArmed = true → input.reqValid = true) (hopen : fsm.state = .enabled) :
    ((remoteSilenceStep input fsm).silenceArmed = true → input.reqValid = true) ∧
      ((remoteSilenceStep input fsm).state = .disLink → input.reqValid = true) := by
  have hseen : (remoteSilenceStep input fsm).silenceArmed = true → input.reqValid = true := by
    rw [remoteSilenceStep_armed]
    rintro (h | h)
    · exact harmed h
    · exact h.1
  refine ⟨hseen, ?_⟩
  rw [remoteSilenceStep_state]
  split_ifs with hfall
  · exact fun _ ↦ hseen hfall.1
  · rw [hopen]
    exact fun h ↦ by cases h

theorem linkSeen : ∀ history, (linkMachine.after history).Seen := by
  refine linkMachine.invariant LinkState.Seen ⟨by rintro ⟨⟩, by rintro ⟨⟩⟩ ?_
  intro event s hseen
  cases event with
  | request nowMs => exact ⟨fun _ ↦ rfl, fun _ ↦ rfl⟩
  | step nowMs sw estop =>
    cases sw with
    | false => exact ⟨by rintro ⟨⟩, by rintro ⟨⟩⟩
    | true =>
      cases estop with
      | true => exact ⟨hseen.1, by rintro ⟨⟩⟩
      | false =>
        change ((remoteEnFsmStep (s.input nowMs true false) s.fsm).silenceArmed = true → _) ∧
          ((remoteEnFsmStep (s.input nowMs true false) s.fsm).state = .disLink → _)
        rcases remoteEnFsmStep_open (s.input nowMs true false) s.fsm rfl rfl with
          ⟨_, _, h⟩ | ⟨_, _, h⟩ | ⟨hst, h⟩ <;> rw [h]
        · exact hseen
        · exact remoteSilenceStep_seen remoteLinkAlive_reqValid rfl
        · exact remoteSilenceStep_seen hseen.1 hst

section Closed

variable {nowMs : ℕ} {past : List LinkEvent}

/-- Assumes: a request has been seen, no later than the step. Then the gate judges the link by the
age of that request reduced modulo `2 ^ 32`. -/
theorem remoteLinkAlive_dead (hvalid : (linkMachine.after past).reqValid = true)
    (hle : lastRequest past ≤ nowMs) :
    remoteLinkAlive ((linkMachine.after past).input nowMs true false) = false ↔
      silenceMs ≤ (nowMs - lastRequest past) % 2 ^ 32 := by
  have helapsed : elapsedMs nowMs (lastRequest past) = (nowMs - lastRequest past) % 2 ^ 32 :=
    wrapElapsed_eq_mod (Nat.two_pow_pos 32) hle
  unfold remoteLinkAlive LinkState.input
  rw [← lastRequest, hvalid, helapsed]
  simp

/-- A step that ends on a closed link read the last request as too old. -/
theorem closed_link_old {sw estop : Bool} (hle : lastRequest past ≤ nowMs)
    (hclosed : gateOf (.step nowMs sw estop :: past) = .disLink) :
    silenceMs ≤ (nowMs - lastRequest past) % 2 ^ 32 := by
  have hvalid : (linkMachine.after past).reqValid = true :=
    (linkSeen (.step nowMs sw estop :: past)).2 hclosed
  cases sw with
  | false => cases hclosed
  | true =>
    cases estop with
    | true => cases hclosed
    | false =>
      rw [← remoteLinkAlive_dead hvalid hle]
      change (remoteEnFsmStep ((linkMachine.after past).input nowMs true false)
        (linkMachine.after past).fsm).state = .disLink at hclosed
      rcases remoteEnFsmStep_open ((linkMachine.after past).input nowMs true false)
        (linkMachine.after past).fsm rfl rfl with ⟨_, hdead, _⟩ | ⟨_, _, h⟩ | ⟨hst, h⟩
      · exact hdead
      · rw [h, remoteSilenceStep_state] at hclosed
        split_ifs at hclosed with hfall
        exact hfall.2
      · rw [h, remoteSilenceStep_state] at hclosed
        split_ifs at hclosed with hfall
        · exact hfall.2
        · rw [hst] at hclosed
          cases hclosed

/-- A closed link stays closed under a quiet step exactly when the step reads the last request as
too old. -/
theorem closed_link_step (hle : lastRequest past ≤ nowMs) (hclosed : gateOf past = .disLink) :
    gateOf (.step nowMs true false :: past) = .disLink ↔
      silenceMs ≤ (nowMs - lastRequest past) % 2 ^ 32 := by
  refine ⟨closed_link_old hle, fun hold ↦ ?_⟩
  rw [← remoteLinkAlive_dead ((linkSeen past).2 hclosed) hle] at hold
  change (remoteEnFsmStep ((linkMachine.after past).input nowMs true false)
    (linkMachine.after past).fsm).state = .disLink
  unfold remoteEnFsmStep
  rw [if_neg (by simp [LinkState.input]), if_neg (by simp [LinkState.input]),
    if_pos (by rw [← gateOf, hclosed]; decide), if_pos ⟨hclosed, hold⟩]
  exact hclosed

end Closed

@[simp] theorem lastRequest_quietSteps (times : List ℕ) (base : List LinkEvent) :
    lastRequest (quietSteps times ++ base) = lastRequest base := by
  induction times with
  | nil => rfl
  | cons nowMs times ih => exact ih

/-- Assumes: a run in clock order. The stamp of the last request is no later than its newest
call. -/
theorem lastRequest_le_newestMs : ∀ history : List LinkEvent,
    history.Pairwise (fun newer older ↦ older.nowMs ≤ newer.nowMs) →
      lastRequest history ≤ newestMs history := by
  intro history
  induction history with
  | nil => exact fun _ ↦ le_rfl
  | cons event past ih =>
    intro hordered
    cases event with
    | request nowMs => exact le_rfl
    | step nowMs sw estop =>
      refine (ih hordered.tail).trans ?_
      cases past with
      | nil => exact Nat.zero_le _
      | cons older past => exact List.rel_of_pairwise_cons hordered List.mem_cons_self

/-- The newest of a chain of quiet steps follows its predecessor within the gap, and none comes
before the base. -/
theorem quietSteps_gap {nowMs : ℕ} {base : List LinkEvent} (hbase : newestMs base = nowMs) :
    ∀ times, (times ++ [nowMs]).IsChain StepGap →
      nowMs ≤ newestMs (quietSteps times ++ base) ∧
        ∀ next, (next :: times ++ [nowMs]).IsChain StepGap →
          StepGap next (newestMs (quietSteps times ++ base)) := by
  intro times
  induction times with
  | nil =>
    intro _
    refine ⟨hbase.ge, fun next hchain ↦ ?_⟩
    change StepGap next (newestMs base)
    rw [hbase]
    exact (List.isChain_cons_cons.mp hchain).1
  | cons newest times ih =>
    intro hchain
    obtain ⟨hle, hgap⟩ := ih (List.isChain_of_isChain_cons hchain)
    exact ⟨hle.trans (hgap newest hchain).1, fun next hnext ↦ (List.isChain_cons_cons.mp hnext).1⟩

/-- A quiet run that is closed reads the last request as too old, if its base does. -/
theorem quietSteps_old {nowMs : ℕ} {base : List LinkEvent} (hbase : newestMs base = nowMs)
    (hrequest : lastRequest base ≤ nowMs) (hold : silenceMs ≤ requestAge base % 2 ^ 32)
    {times : List ℕ} (hchain : (times ++ [nowMs]).IsChain StepGap)
    (hclosed : gateOf (quietSteps times ++ base) = .disLink) :
    silenceMs ≤ requestAge (quietSteps times ++ base) % 2 ^ 32 := by
  cases times with
  | nil => exact hold
  | cons newest times =>
    obtain ⟨hfrom, -⟩ := quietSteps_gap hbase _ hchain
    have hstamp := lastRequest_quietSteps times base
    have hle : lastRequest (quietSteps times ++ base) ≤ newest :=
      hstamp.le.trans (hrequest.trans hfrom)
    exact @closed_link_old newest (quietSteps times ++ base) true false hle hclosed

/-- Assumes: a run in clock order ends with a step that leaves the link closed, and steps less than
`SILENCE_MS` apart follow, with the switch on, the stop released and no request. The link stays
closed throughout exactly as long as the age of the last request has not wrapped. -/
theorem link_closed_iff (times : List ℕ) (nowMs : ℕ) (sw estop : Bool) (past : List LinkEvent)
    (hordered : (LinkEvent.step nowMs sw estop :: past).Pairwise
      fun newer older ↦ older.nowMs ≤ newer.nowMs)
    (hclosed : gateOf (.step nowMs sw estop :: past) = .disLink)
    (hgaps : (times ++ [nowMs]).IsChain StepGap) :
    (∀ earlier, earlier <:+ times →
        gateOf (quietSteps earlier ++ .step nowMs sw estop :: past) = .disLink) ↔
      requestAge (quietSteps times ++ .step nowMs sw estop :: past) / 2 ^ 32 =
        requestAge (.step nowMs sw estop :: past) / 2 ^ 32 := by
  have hbase : newestMs (.step nowMs sw estop :: past) = nowMs := rfl
  have hrequest : lastRequest (.step nowMs sw estop :: past) ≤ nowMs :=
    lastRequest_le_newestMs _ hordered
  have hold : silenceMs ≤ requestAge (.step nowMs sw estop :: past) % 2 ^ 32 :=
    @closed_link_old nowMs past sw estop hrequest hclosed
  generalize LinkEvent.step nowMs sw estop :: past = base at *
  induction times with
  | nil => simp [quietSteps, hclosed]
  | cons next times ih =>
    have hchain : (times ++ [nowMs]).IsChain StepGap := List.isChain_of_isChain_cons hgaps
    obtain ⟨hfrom, hgap⟩ := quietSteps_gap hbase times hchain
    obtain ⟨hle, hlt⟩ := hgap next hgaps
    have hstamp := lastRequest_quietSteps times base
    have hstep := closed_link_step (hstamp.le.trans (hrequest.trans (hfrom.trans hle)))
    have hwindow := @window_le_mod_iff (2 ^ 32) silenceMs
      (requestAge (quietSteps times ++ base)) (next - lastRequest base) (by decide)
    have hold' := @quietSteps_old nowMs base hbase hrequest hold times hchain
    rw [hstamp] at hstep
    have hage : requestAge (quietSteps times ++ base) =
        newestMs (quietSteps times ++ base) - lastRequest base := by rw [requestAge, hstamp]
    have hage' : requestAge (quietSteps (next :: times) ++ base) = next - lastRequest base := by
      rw [requestAge, lastRequest_quietSteps]
      rfl
    have hbaseAge : requestAge base ≤ requestAge (quietSteps times ++ base) := by
      rw [hage, requestAge, hbase]
      omega
    rw [hage']
    constructor
    · intro hall
      have hrest := hall times (List.suffix_cons next times)
      rw [← (ih hchain).mp fun earlier h ↦ hall earlier (h.trans (List.suffix_cons next times))]
      exact (hwindow (hold' hrest) (by omega) (by omega)).mp
        ((hstep hrest).mp (hall (next :: times) List.suffix_rfl))
    · intro hturn
      have hmid : requestAge (quietSteps times ++ base) / 2 ^ 32 = requestAge base / 2 ^ 32 :=
        le_antisymm (hturn ▸ Nat.div_le_div_right (by omega)) (Nat.div_le_div_right hbaseAge)
      have hall := (ih hchain).mpr hmid
      have hrest := hall times List.suffix_rfl
      intro earlier hearlier
      rcases List.suffix_cons_iff.mp hearlier with rfl | h
      · exact (hstep hrest).mpr
          ((hwindow (hold' hrest) (by omega) (by omega)).mpr (hturn.trans hmid.symm))
      · exact hall earlier h

/-- The last request is decoded at one second, and the link is closed by a step twenty seconds
later. -/
def closedBase : List LinkEvent :=
  [.step 20998 true false, .step 10999 true false, .request 1000, .step 1000 true false]

theorem closedBase_closed :
    closedBase.Pairwise (fun newer older ↦ older.nowMs ≤ newer.nowMs) ∧
      gateOf closedBase = .disLink := by
  refine ⟨?_, by decide⟩
  unfold closedBase
  decide

/-- Steps every 9999 ms after `closedBase`, newest first. -/
def silentSteps : ℕ → List ℕ
  | 0 => []
  | count + 1 => (9999 * count + 30997) :: silentSteps count

theorem silentSteps_gaps (count : ℕ) : (silentSteps count ++ [20998]).IsChain StepGap := by
  induction count with
  | zero => exact List.IsChain.singleton _
  | succ count ih =>
    cases count with
    | zero => exact List.isChain_cons_cons.mpr ⟨by unfold StepGap; decide, ih⟩
    | succ count =>
      refine List.isChain_cons_cons.mpr ⟨?_, ih⟩
      unfold StepGap silenceMs
      omega

/-- Ten seconds on, the age of the request has not wrapped, and the link is still closed. -/
theorem closedBase_stays : gateOf (quietSteps (silentSteps 1) ++ closedBase) = .disLink :=
  (link_closed_iff (silentSteps 1) 20998 true false _ closedBase_closed.1 closedBase_closed.2
    (silentSteps_gaps 1)).mpr (by decide) (silentSteps 1) List.suffix_rfl

/-- Over the whole first period of the counter the silent link stays closed. -/
theorem silentSteps_closed (count : ℕ) (hcount : count ≤ 429537) :
    gateOf (quietSteps (silentSteps count) ++ closedBase) = .disLink := by
  induction count with
  | zero => exact closedBase_closed.2
  | succ count ih =>
    have hstamp : lastRequest (quietSteps (silentSteps count) ++ closedBase) = 1000 :=
      lastRequest_quietSteps _ _
    refine (closed_link_step ?_ (ih (by omega))).mpr ?_
    · rw [hstamp]
      omega
    · rw [hstamp, Nat.mod_eq_of_lt (by omega)]
      unfold silenceMs
      omega

/-- Fifty days after the last request the wrapped counter reads it as three seconds old, and the
gate reopens by itself. -/
theorem silentSteps_reopens :
    (silentSteps 429538 ++ [20998]).IsChain StepGap ∧ gateOf closedBase = .disLink ∧
      gateOf (quietSteps (silentSteps 429538) ++ closedBase) ≠ .disLink := by
  refine ⟨silentSteps_gaps _, closedBase_closed.2, fun hclosed ↦ ?_⟩
  have hstamp : lastRequest (quietSteps (silentSteps 429537) ++ closedBase) = 1000 :=
    lastRequest_quietSteps _ _
  have hold := (closed_link_step (by rw [hstamp]; decide)
    (silentSteps_closed 429537 le_rfl)).mp hclosed
  rw [hstamp] at hold
  exact absurd hold (by decide)

end UsCtrl
