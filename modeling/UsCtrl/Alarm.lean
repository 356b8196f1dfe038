import UsCtrl.SideOutputs
import UsCtrl.Foundation.Countdown
import UsCtrl.RunEvents
import UsCtrl.Foundation.LastWrite

/-!
# The buzzer

Three alarms share one buzzer: the emergency stop, the overload and the fault each ask for a quarter
of a second at their entry and again every half second while they stand. The first two are the
latched levels themselves; the fault is the published one as the fault tick last saw it
(`Alarm.level`), so a fault that is cleared before a fault tick is due is no alarm. A request loads
a register that the buzzer tick runs down, so a later request prolongs a sounding and never shortens
it.

`buzzer_sounds_iff` says when the pin is up in any run, `buzzer_lasts` that it never stays up for
less than a quarter of a second on the clock, and `alarm_heard` that no entry of an alarm is lost:
the next buzzer tick that is due sounds it, whatever comes in between.
-/

set_option autoImplicit false
set_option relaxedAutoImplicit false

namespace UsCtrl

open Foundation

/-! ### What a call does to the buzzer -/

/-- A fault tick sounds the buzzer: the fault is new to it, or stands for half a second since the
last sounding. -/
def faultBeeps (now : ℕ) (s : Sys) : Bool :=
  decide (elapsedMs now s.alarm.faultPrevMs ≥ 10) && s.measure.errorStatus.any &&
    (!s.alarm.faultPrevErr.any || decide (elapsedMs now s.alarm.faultBlinkMs ≥ 500))

/-- The call asks for a sounding. -/
def Call.beeps (call : Call) (s : Sys) : Bool :=
  match call with
  | .overloadTick tick => overloadBeeps tick s
  | .inputTick tick => inputBeeps tick s
  | .faultAlarmTick now => faultBeeps now s
  | _ => false

/-- The call is a buzzer tick that is due. -/
def Call.ticksBuzzer (call : Call) (s : Sys) : Bool :=
  match call with
  | .buzzerTick now => decide (elapsedMs now s.alarm.buzzerPrevMs ≥ 10)
  | _ => false

/-- What a call does to the buzzer: a beep loads the register with 25, a tick counts it down and
drives the pin. A fault that is new to the fault tick is sounded as the tick records it. -/
structure BuzzerStep (call : Call) (s s' : Sys) : Prop where
  remaining : s'.alarm.remaining =
    if call.beeps s then 25 else if call.ticksBuzzer s then s.alarm.remaining - 1
    else s.alarm.remaining
  pin : s.pins.buzzer = s.alarm.buzzerLast →
    s'.pins.buzzer = (if call.ticksBuzzer s then decide (0 < s.alarm.remaining)
      else s.pins.buzzer) ∧ s'.pins.buzzer = s'.alarm.buzzerLast
  stamp : s'.alarm.buzzerPrevMs =
    if call.ticksBuzzer s then call.reads.headD 0 else s.alarm.buzzerPrevMs
  fault : s'.alarm.faultPrevErr.any = true →
    s.alarm.faultPrevErr.any = true ∨ call.beeps s = true

/-- A request of one of the three alarms, or no request. -/
theorem BuzzerStep.of_alarmIf (beeps : Bool) {call : Call} {s mid s' : Sys}
    (hside : SameSide (alarmIf beeps mid) s') (halarm : mid.alarm = s.alarm)
    (hpin : mid.pins.buzzer = s.pins.buzzer) (hbeeps : call.beeps s = beeps)
    (hticks : call.ticksBuzzer s = false) : BuzzerStep call s s' := by
  have hregister : s'.alarm = (alarmIf beeps mid).alarm := hside.alarm
  have hbuzzer : s'.pins.buzzer = (alarmIf beeps mid).pins.buzzer := hside.buzzer
  have hkept : s'.pins.buzzer = s.pins.buzzer ∧ s'.alarm.buzzerLast = s.alarm.buzzerLast ∧
      s'.alarm.buzzerPrevMs = s.alarm.buzzerPrevMs ∧
      s'.alarm.faultPrevErr = s.alarm.faultPrevErr := by
    rw [hregister, hbuzzer, ← halarm, ← hpin]
    cases beeps <;> exact ⟨rfl, rfl, rfl, rfl⟩
  constructor
  · rw [hbeeps, hticks, hregister, ← halarm]
    cases beeps <;> rfl
  · intro hsynced
    rw [hticks, hkept.1, hkept.2.1]
    exact ⟨rfl, hsynced⟩
  · rw [hticks]
    exact hkept.2.2.1
  · rw [hkept.2.2.2]
    exact Or.inl

theorem faultAlarmTick_buzzer (now : ℕ) (s : Sys) :
    BuzzerStep (.faultAlarmTick now) s (appFaultAlarmTick now s) := by
  have hbeeps : (Call.faultAlarmTick now).beeps s = faultBeeps now s := rfl
  unfold appFaultAlarmTick
  dsimp only
  split_ifs with hearly hbeep
  · have hsilent : faultBeeps now s = false := by
      simp [faultBeeps, not_le.mpr hearly]
    exact .of_alarmIf false (SameSide.refl s) rfl rfl (hbeeps.trans hsilent) rfl
  · have hsounds : faultBeeps now s = true := by
      simpa [faultBeeps, not_lt.mp hearly] using hbeep
    exact ⟨by rw [hbeeps, hsounds, if_pos rfl]; rfl, fun hsynced ↦ ⟨rfl, hsynced⟩, rfl,
      fun _ ↦ Or.inr (hbeeps.trans hsounds)⟩
  · have hsilent : faultBeeps now s = false := by
      simpa [faultBeeps, not_lt.mp hearly] using hbeep
    refine ⟨by rw [hbeeps, hsilent, if_neg Bool.false_ne_true]; rfl,
      fun hsynced ↦ ⟨rfl, hsynced⟩, rfl, fun hany ↦ Or.inl ?_⟩
    by_contra hnew
    exact hbeep ⟨hany, Or.inl (by simpa using hnew)⟩

theorem buzzerTick_buzzer (now : ℕ) (s : Sys) :
    BuzzerStep (.buzzerTick now) s (appBuzzerTick now s) := by
  by_cases hearly : elapsedMs now s.alarm.buzzerPrevMs < 10
  · have hidle : (Call.buzzerTick now).ticksBuzzer s = false :=
      decide_eq_false (not_le.mpr hearly)
    rw [appBuzzerTick, if_pos hearly]
    exact .of_alarmIf false (SameSide.refl s) rfl rfl rfl hidle
  · have hdue : (Call.buzzerTick now).ticksBuzzer s = true := decide_eq_true (not_lt.mp hearly)
    have hstepped : buzzerFsmStep s.alarm.remaining =
        (s.alarm.remaining - 1, decide (0 < s.alarm.remaining)) := by
      unfold buzzerFsmStep
      split_ifs with hleft
      · rw [decide_eq_true hleft]
      · rw [decide_eq_false hleft, Nat.eq_zero_of_not_pos hleft]
    rw [appBuzzerTick, if_neg hearly, hstepped]
    constructor
    · rw [hdue]
      rfl
    · intro hsynced
      rw [hdue, if_pos rfl]
      dsimp only
      split_ifs with hsame
      · exact ⟨hsynced.trans hsame.symm, hsynced.trans hsame.symm⟩
      · exact ⟨rfl, rfl⟩
    · rw [hdue]
      rfl
    · exact Or.inl

/-- Only the alarms load the register, and only the buzzer tick runs it down and drives the pin. -/
theorem exec_buzzer (build : Build) (call : Call) (s : Sys) :
    BuzzerStep call s (call.exec build s) := by
  cases call with
  | overloadTick tick => exact .of_alarmIf _ (overloadTick_side tick s) rfl rfl rfl rfl
  | inputTick tick => exact .of_alarmIf _ (inputTick_side tick s) rfl rfl rfl rfl
  | seekResetTick now =>
    have hpin : (appSeekResetTick now s).pins.buzzer = s.pins.buzzer := by
      unfold appSeekResetTick
      split_ifs <;> rfl
    exact .of_alarmIf false (seekResetTick_side now s) rfl hpin rfl rfl
  | ethTick tick => exact .of_alarmIf false (ethTick_side tick s) rfl rfl rfl rfl
  | faultAlarmTick now => exact faultAlarmTick_buzzer now s
  | buzzerTick now => exact buzzerTick_buzzer now s
  | frame f => exact .of_alarmIf false (sameSide_dispatch f s) rfl rfl rfl rfl
  | _ => exact .of_alarmIf false (exec_side build rfl s) rfl rfl rfl rfl

/-! ### Entries -/

/-- Assumes: the input tick raises the emergency stop. It sounds the buzzer. -/
theorem inputTick_rises {tick : InputTickIn} {s : Sys} (hs : Coherent s)
    (hlow : s.input.estopActive = false)
    (hhigh : (appInputTick tick s).input.estopActive = true) : inputBeeps tick s = true := by
  rcases appInputTick_cases tick s with ⟨-, heq⟩ | ⟨hdue, heq⟩
  · rw [heq] at hhigh
    exact absurd (hlow.symm.trans hhigh) (by decide)
  · rw [heq, (inputBody_scan tick s).1] at hhigh
    have hfsm : s.input.fsm.estopActive = false := hs.level.symm.trans hlow
    have henter : (inputEvent tick s).estopEnter = true := by
      have hedge := inputFsmStep_estop
        ⟨tick.start, tick.reset, tick.estopSeek, s.cfg.modelType⟩ hs.synced
      rw [hfsm, Bool.not_false, Bool.and_true] at hedge
      exact hedge.trans hhigh
    have hout : (inputSample tick s).2 = inputEvent tick s := rfl
    unfold inputBeeps
    dsimp only
    rw [hout, hdue, hhigh, henter]
    rfl

/-- Assumes: the overload tick raises the overload. It sounds the buzzer. -/
theorem overloadTick_rises {tick : OverloadTickIn} {s : Sys} (hs : Coherent s)
    (hlow : s.overload.active = false)
    (hhigh : (appOverloadTick tick s).overload.active = true) : overloadBeeps tick s = true := by
  rcases appOverloadTick_cases tick s with ⟨-, heq⟩ | ⟨hdue, hbody⟩
  · rw [heq] at hhigh
    exact absurd (hlow.symm.trans hhigh) (by decide)
  · rw [(hbody.frame .cycle).overload] at hhigh
    have hfsm : s.overload.fsm.active = false := hs.overload.symm.trans hlow
    have hactive : (overloadFsmStep tick.raw s.overload.fsm).1.active = true := hhigh
    have hout : (overloadSample tick s).2 = (overloadFsmStep tick.raw s.overload.fsm).2 := rfl
    unfold overloadBeeps
    rw [hout, overloadFsmStep_event, hdue, hactive, hfsm]
    rfl

/-! ### Runs -/

section Runs

variable (build : Build) (boot : BootIn)

/-- A test of the newest call in the state that it finds. -/
def newestTest (test : Call → Sys → Bool) : List Call → Bool
  | [] => false
  | call :: past => test call (stateAfter build boot past)

/-- The newest call asks for a sounding. -/
def beepAsked : List Call → Bool := newestTest build boot Call.beeps

/-- The newest call is a buzzer tick that is due. -/
def buzzerTicked : List Call → Bool := newestTest build boot Call.ticksBuzzer

theorem beeps_not_ticks (call : Call) (s : Sys) (hbeeps : call.beeps s = true) :
    call.ticksBuzzer s = false := by
  cases call <;> first | rfl | cases hbeeps

/-- The pin always carries the level that the buzzer tick last drove. -/
theorem buzzer_synced (history : List Call) :
    (stateAfter build boot history).pins.buzzer =
      (stateAfter build boot history).alarm.buzzerLast := by
  refine (controller build boot).invariant (fun s ↦ s.pins.buzzer = s.alarm.buzzerLast) ?_ ?_
    history
  · have hboot := sameSide_boot build boot
    exact hboot.buzzer.trans (congrArg AlarmGlue.buzzerLast hboot.alarm).symm
  · exact fun call s hsynced ↦ ((exec_buzzer build call s).pin hsynced).2

/-- The buzzer is a countdown of twenty-five ticks. -/
theorem buzzer_countdown : Countdown 25 (beepAsked build boot) (buzzerTicked build boot)
    (fun history ↦ (stateAfter build boot history).alarm.remaining)
    (fun history ↦ (stateAfter build boot history).pins.buzzer) where
  pos := by decide
  start := congrArg AlarmGlue.remaining (sameSide_boot build boot).alarm
  dark := (sameSide_boot build boot).buzzer
  load call past hload := by
    refine ⟨beeps_not_ticks call _ hload, ?_⟩
    have hstep := (exec_buzzer build call (stateAfter build boot past)).remaining
    rwa [show call.beeps (stateAfter build boot past) = true from hload, if_pos rfl] at hstep
  tick call past htick := by
    have hloads : call.beeps (stateAfter build boot past) = false := by
      cases hbeeps : call.beeps (stateAfter build boot past) with
      | false => rfl
      | true => exact absurd ((beeps_not_ticks call _ hbeeps).symm.trans htick) (by decide)
    have hticks : call.ticksBuzzer (stateAfter build boot past) = true := htick
    have hstep := exec_buzzer build call (stateAfter build boot past)
    have hremaining := hstep.remaining
    have hpin := (hstep.pin (buzzer_synced build boot past)).1
    rw [hloads, hticks] at hremaining
    rw [hticks] at hpin
    exact ⟨hremaining, hpin⟩
  idle call past hload htick := by
    have hstep := (exec_buzzer build call (stateAfter build boot past)).remaining
    rwa [show call.beeps (stateAfter build boot past) = false from hload,
      show call.ticksBuzzer (stateAfter build boot past) = false from htick] at hstep
  kept call past htick := by
    have hstep := exec_buzzer build call (stateAfter build boot past)
    have hpin := (hstep.pin (buzzer_synced build boot past)).1
    rwa [show call.ticksBuzzer (stateAfter build boot past) = false from htick] at hpin

/-- In every run the buzzer is on exactly if the newest buzzer tick that was due came less than
twenty-five of its kind after the newest request of an alarm. -/
theorem buzzer_sounds_iff (history : List Call) :
    (stateAfter build boot history).pins.buzzer = true ↔
      since (fun past ↦ buzzerTicked build boot past = false)
        (ticksBefore 25 (beepAsked build boot) (buzzerTicked build boot)) history :=
  (buzzer_countdown build boot).lit_iff history

/-- An overload that stands for the debounce and is over again, newest call first. -/
def shortOverload : List Call :=
  .overloadTick ⟨60, false⟩ ::
    ((List.range 5).map fun k ↦ .overloadTick ⟨10 * (k + 1), true⟩).reverse

/-- Buzzer ticks every ten milliseconds from 100 ms on, newest first. -/
def buzzerTicks (count : ℕ) : List Call :=
  ((List.range count).map fun k ↦ .buzzerTick (100 + 10 * k)).reverse

/-! ### No sounding is cut short -/

/-- The clock of the buzzer tick. -/
def buzzerClock (history : List Call) : ℕ := (stateAfter build boot history).alarm.buzzerPrevMs

theorem buzzerClock_cons (call : Call) (past : List Call) :
    buzzerClock build boot (call :: past) =
      if call.ticksBuzzer (stateAfter build boot past) then call.reads.headD 0
      else buzzerClock build boot past :=
  (exec_buzzer build call (stateAfter build boot past)).stamp

/-- A due buzzer tick reads the clock that it keeps. -/
theorem buzzerClock_tick {call : Call} {past : List Call}
    (htick : buzzerTicked build boot (call :: past) = true) :
    ∃ now, call = .buzzerTick now ∧ buzzerClock build boot (call :: past) = now ∧
      10 ≤ elapsedMs now (buzzerClock build boot past) := by
  have hticks : call.ticksBuzzer (stateAfter build boot past) = true := htick
  cases call with
  | buzzerTick now =>
    refine ⟨now, rfl, ?_, of_decide_eq_true hticks⟩
    rw [buzzerClock_cons, hticks, if_pos rfl]
    rfl
  | _ => cases hticks

theorem buzzerClock_idle {call : Call} {past : List Call}
    (htick : buzzerTicked build boot (call :: past) = false) :
    buzzerClock build boot (call :: past) = buzzerClock build boot past := by
  rw [buzzerClock_cons, show call.ticksBuzzer (stateAfter build boot past) = false from htick,
    if_neg Bool.false_ne_true]

/-- The clock of the buzzer is a read of the run, as soon as the pin is up. -/
theorem buzzerClock_read (history : List Call)
    (hon : (stateAfter build boot history).pins.buzzer = true) :
    ∃ call ∈ history, buzzerClock build boot history ∈ call.reads := by
  induction history with
  | nil => exact absurd (hon.symm.trans (buzzer_countdown build boot).dark) (by decide)
  | cons call past ih =>
    cases htick : buzzerTicked build boot (call :: past) with
    | true =>
      obtain ⟨now, rfl, hclock, -⟩ := buzzerClock_tick build boot htick
      rw [hclock]
      exact ⟨_, List.mem_cons_self, List.mem_singleton.mpr rfl⟩
    | false =>
      have hkept := (buzzer_countdown build boot).kept call past htick
      obtain ⟨older, holder, hread⟩ := ih (hkept.symm.trans hon)
      rw [buzzerClock_idle build boot htick]
      exact ⟨older, List.mem_cons_of_mem call holder, hread⟩

/-- Buzzer ticks that are due lie ten milliseconds apart. -/
theorem buzzer_spaced (history : List Call) (hclock : Chronological history) :
    always (spaced 10 (buzzerTicked build boot)
      (fun past ↦ (stateAfter build boot past).pins.buzzer) (buzzerClock build boot)) history := by
  induction history with
  | nil => trivial
  | cons call past ih =>
    refine ⟨⟨?_, buzzerClock_idle build boot⟩, ih hclock.tail⟩
    intro htick hon
    obtain ⟨older, holder, hread⟩ := buzzerClock_read build boot past hon
    obtain ⟨now, rfl, hnow, hdue⟩ := buzzerClock_tick build boot htick
    have hle : buzzerClock build boot past ≤ now :=
      hclock.le (List.mem_singleton.mpr rfl) holder hread
    have helapsed : elapsedMs now (buzzerClock build boot past) ≤
        now - buzzerClock build boot past :=
      le_of_eq_of_le (wrapElapsed_eq_mod (Nat.two_pow_pos 32) hle) (Nat.mod_le _ _)
    rw [hnow]
    omega

/-- Assumes: the clock never goes backwards, and the newest call silences the buzzer. It is a buzzer
tick, and the buzzer had been on without a break since a buzzer tick at least 250 ms before it. -/
theorem buzzer_lasts {call : Call} {past : List Call} (hclock : Chronological (call :: past))
    (hon : (stateAfter build boot past).pins.buzzer = true)
    (hoff : (stateAfter build boot (call :: past)).pins.buzzer = false) :
    ∃ now, call = .buzzerTick now ∧
      since (fun past ↦ (stateAfter build boot past).pins.buzzer = true)
        (newest build boot fun call _ s' ↦
          s'.pins.buzzer = true ∧ ∃ first, call = .buzzerTick first ∧ first + 250 ≤ now) past := by
  obtain ⟨origin, hburns, hlong⟩ :=
    (buzzer_countdown build boot).lasts (buzzer_spaced build boot _ hclock) hon hoff
  have htick : buzzerTicked build boot (call :: past) = true := by
    cases htick : buzzerTicked build boot (call :: past) with
    | true => rfl
    | false =>
      have hkept := (buzzer_countdown build boot).kept call past htick
      exact absurd (hoff.symm.trans (hkept.trans hon)) (by decide)
  obtain ⟨now, rfl, hnow, -⟩ := buzzerClock_tick build boot htick
  rw [hnow] at hlong
  refine ⟨now, rfl, since_induction (since _ _) ?_ ?_ past hburns⟩
  · rintro older before ⟨hticked, hlit, horigin⟩
    obtain ⟨first, rfl, hfirst, -⟩ := buzzerClock_tick build boot hticked
    rw [hfirst] at horigin
    exact Or.inl ⟨hlit, first, rfl, by omega⟩
  · exact fun _ _ hlit hpast ↦ Or.inr ⟨hlit, hpast⟩

/-- The sounding of a short overload, from 100 ms to 350 ms. -/
theorem buzzer_lasts_short :
    ∃ now, Call.buzzerTick 350 = .buzzerTick now ∧
      since (fun past ↦
          (stateAfter ⟨.std, false, false⟩ factoryBoot past).pins.buzzer = true)
        (newest ⟨.std, false, false⟩ factoryBoot fun call _ s' ↦
          s'.pins.buzzer = true ∧ ∃ first, call = .buzzerTick first ∧ first + 250 ≤ now)
        (buzzerTicks 25 ++ shortOverload) :=
  buzzer_lasts ⟨.std, false, false⟩ factoryBoot (by unfold Chronological; decide)
    (by decide +kernel) (by decide +kernel)

/-! ### No alarm is lost -/

/-- The three alarms. -/
inductive Alarm
  | estop
  | overload
  | fault
  deriving DecidableEq, Repr

/-- The condition of an alarm: the two latched levels, and the published fault as the fault tick has
last seen it. -/
def Alarm.level (alarm : Alarm) (s : Sys) : Bool :=
  match alarm with
  | .estop => appEstopActive s
  | .overload => appOverloadActive s
  | .fault => s.alarm.faultPrevErr.any

/-- The condition of an alarm along a run. -/
def alarmLevel (alarm : Alarm) (history : List Call) : Bool :=
  alarm.level (stateAfter build boot history)

/-- An alarm is sounded by the call that raises it. -/
theorem alarm_rises {alarm : Alarm} {call : Call} {past : List Call}
    (hrise : risesTo (alarmLevel build boot alarm) (call :: past)) :
    beepAsked build boot (call :: past) = true := by
  have hcoherent : Coherent (stateAfter build boot past) := after_coherent build boot past
  have hframe := exec_frame build call (stateAfter build boot past)
  have hstep := exec_buzzer build call (stateAfter build boot past)
  obtain ⟨hlow, hhigh⟩ := hrise
  cases alarm with
  | estop =>
    rcases call.inputTick_or with ⟨tick, rfl⟩ | hother
    · exact inputTick_rises hcoherent hlow hhigh
    · exact absurd (hlow.symm.trans ((hframe.input hother).1.symm.trans hhigh)) (by decide)
  | overload =>
    rcases call.overloadTick_or with ⟨tick, rfl⟩ | hother
    · exact overloadTick_rises hcoherent hlow hhigh
    · exact absurd (hlow.symm.trans ((hframe.overload hother).1.symm.trans hhigh)) (by decide)
  | fault =>
    have hunseen : ¬ (stateAfter build boot past).alarm.faultPrevErr.any = true :=
      Bool.eq_false_iff.mp hlow
    exact (hstep.fault hhigh).resolve_left hunseen

/-- Assumes: an alarm has been raised and no buzzer tick has been due since. Then the next one that
is due sounds the buzzer, whatever has come in between. -/
theorem alarm_heard {call : Call} {past : List Call}
    (hdue : buzzerTicked build boot (call :: past) = true)
    (hrise : since (fun past ↦ buzzerTicked build boot past = false)
      (fun past ↦ ∃ alarm, risesTo (alarmLevel build boot alarm) past) past) :
    (stateAfter build boot (call :: past)).pins.buzzer = true := by
  refine (buzzer_countdown build boot).lights hdue ?_
  refine since_induction (since _ _) ?_ ?_ past hrise
  · rintro older before ⟨alarm, hrises⟩
    exact Or.inl (alarm_rises build boot hrises)
  · exact fun _ _ hidle hpast ↦ Or.inr ⟨hidle, hpast⟩

/-- A short overload is heard although it is over when the buzzer tick comes. -/
theorem alarm_heard_short :
    (stateAfter ⟨.std, false, false⟩ factoryBoot (.buzzerTick 100 :: shortOverload)).pins.buzzer =
      true :=
  alarm_heard ⟨.std, false, false⟩ factoryBoot (by decide +kernel)
    (Or.inr ⟨by decide +kernel, Or.inl ⟨.overload, by decide +kernel, by decide +kernel⟩⟩)

end Runs

end UsCtrl
