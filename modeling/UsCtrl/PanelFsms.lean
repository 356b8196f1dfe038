import UsCtrl.WeldFsm

/-!
# The cores scanned every 10 ms beside the weld cycle

The pure cores `app_weld_trigger_fsm.c`, `app_overload_fsm.c`, `app_input_fsm.c`,
`app_horn_fsm.c`, `app_seek_reset_fsm.c` and `app_buzzer_fsm.c`, each a state, an input record and a
step. Pin levels are `Bool`s, `true` for HIGH; keys and sensors are active-LOW, the fault and
emergency lines active-HIGH, as wired.

The facts the runs use: an overload level is asserted and released by exactly the two edges it
reports (`overloadFsmStep_event`), the emergency-stop level rises only with its entry edge
(`inputFsmStep_estop`), the horn output is low outside its mode and under emergency stop
(`hornFsmStep_low`), and the resonance chain RESET → SEEK → IDLE advances by counting
(`seekResetFsmStep_busy`, `seekResetFsmStep_idle`).
-/

set_option autoImplicit false
set_option relaxedAutoImplicit false

namespace UsCtrl

/-! ### Two-hand trigger and cylinder sensors -/

/-- The static state of `app_weld_trigger_fsm.c`. -/
structure WeldTrigger where
  inCycle : Bool
  dnBak : Bool
  upBak : Bool
  deriving DecidableEq, Repr

/-- `weld_trig_in_t`. -/
structure WeldTrigIn where
  key1 : Bool
  key2 : Bool
  sensUp : Bool
  sensDn : Bool
  fSafty : ℕ
  weldState : WeldState

/-- `weld_trig_out_t`. -/
structure WeldTrigOut where
  startPulse : Bool
  safetyAbortPulse : Bool
  dnEdge : Bool
  upEdge : Bool
  deriving DecidableEq, Repr

/-- `weld_trigger_fsm_init`. -/
def weldTriggerFsmInit : WeldTrigger := ⟨false, true, true⟩

/-- `weld_trigger_fsm_cycle_started`. -/
def weldTriggerFsmCycleStarted (trigger : WeldTrigger) : WeldTrigger :=
  { trigger with inCycle := true }

/-- `weld_trigger_fsm_step`. -/
def weldTriggerFsmStep (input : WeldTrigIn) (trigger : WeldTrigger) : WeldTrigger × WeldTrigOut :=
  ({ inCycle := if input.key1 ∧ input.key2 ∧ input.weldState = .ready then false
       else trigger.inCycle
     dnBak := input.sensDn
     upBak := input.sensUp },
   { startPulse := !input.key1 && !input.key2 && !trigger.inCycle
     safetyAbortPulse :=
       decide (input.fSafty ≠ 0) && decide (input.weldState = .cyl1) && (input.key1 || input.key2)
     dnEdge := !input.sensDn && trigger.dnBak
     upEdge := !input.sensUp && trigger.upBak })

/-! ### Overload debounce -/

/-- `OVLD_DEBOUNCE_N`. -/
def ovldDebounceN : ℕ := 5

/-- The static state of `app_overload_fsm.c`. -/
structure OverloadFsm where
  count : ℕ
  active : Bool
  deriving DecidableEq, Repr

/-- The `OVLD_EV_*` bits. -/
structure OverloadEvent where
  active : Bool
  assert : Bool
  deassert : Bool
  deriving DecidableEq, Repr

/-- `overload_fsm_init`. -/
def overloadFsmInit : OverloadFsm := ⟨0, false⟩

/-- `overload_fsm_step`. -/
def overloadFsmStep (raw : Bool) (fsm : OverloadFsm) : OverloadFsm × OverloadEvent :=
  let next : OverloadFsm :=
    if raw then
      let count := if fsm.count < ovldDebounceN then fsm.count + 1 else fsm.count
      ⟨count, if count ≥ ovldDebounceN then true else fsm.active⟩
    else ⟨0, false⟩
  (next, ⟨next.active, next.active && !fsm.active, !next.active && fsm.active⟩)

/-- The reported bits are the level after the step and its two edges. -/
theorem overloadFsmStep_event (raw : Bool) (fsm : OverloadFsm) :
    (overloadFsmStep raw fsm).2 =
      ⟨(overloadFsmStep raw fsm).1.active, (overloadFsmStep raw fsm).1.active && !fsm.active,
        !(overloadFsmStep raw fsm).1.active && fsm.active⟩ := rfl

/-! ### Command buttons and emergency stop -/

/-- The static state of `app_input_fsm.c`. -/
structure InputFsm where
  startBak : Bool
  resetBak : Bool
  seekBak : Bool
  emswBak : Bool
  estopActive : Bool
  deriving DecidableEq, Repr

/-- `input_in_t`. -/
structure InputIn where
  start : Bool
  reset : Bool
  estopSeek : Bool
  modelType : ℕ

/-- `input_out_t`. -/
structure InputOut where
  startPress : Bool
  startRelease : Bool
  resetPress : Bool
  seekPress : Bool
  estopActive : Bool
  estopEnter : Bool
  deriving DecidableEq, Repr

/-- `input_fsm_init`: every button is taken as held, so that a line that is active at boot makes no
edge. -/
def inputFsmInit : InputFsm := ⟨false, false, false, false, false⟩

/-- `input_fsm_step`. PC11 is SEEK on hand and multi models and the emergency switch on std. -/
def inputFsmStep (input : InputIn) (fsm : InputFsm) : InputFsm × InputOut :=
  let startPress := decide (input.start ≠ fsm.startBak) && !input.start
  let startRelease := decide (input.start ≠ fsm.startBak) && input.start
  let resetPress := decide (input.reset ≠ fsm.resetBak) && !input.reset
  if input.modelType ≤ 1 then
    (⟨input.start, input.reset, input.estopSeek, false, false⟩,
      ⟨startPress, startRelease, resetPress,
        decide (input.estopSeek ≠ fsm.seekBak) && !input.estopSeek, false, false⟩)
  else
    (⟨input.start, input.reset, input.estopSeek, input.estopSeek, input.estopSeek⟩,
      ⟨startPress, startRelease, resetPress, false, input.estopSeek,
        decide (input.estopSeek ≠ fsm.emswBak) && input.estopSeek⟩)

/-- The emergency level the core reports is the one it keeps. -/
theorem inputFsmStep_level (input : InputIn) (fsm : InputFsm) :
    (inputFsmStep input fsm).2.estopActive = (inputFsmStep input fsm).1.estopActive := by
  unfold inputFsmStep
  split_ifs <;> rfl

/-- The emergency switch memory is the emergency level. -/
def InputFsm.Synced (fsm : InputFsm) : Prop := fsm.emswBak = fsm.estopActive

theorem inputFsmStep_synced (input : InputIn) (fsm : InputFsm) :
    (inputFsmStep input fsm).1.Synced := by
  unfold inputFsmStep InputFsm.Synced
  split_ifs <;> rfl

/-- Assumes: a synced state. Then the level is entered exactly with the entry edge. -/
theorem inputFsmStep_estop (input : InputIn) {fsm : InputFsm} (hfsm : fsm.Synced) :
    (inputFsmStep input fsm).2.estopEnter =
      ((inputFsmStep input fsm).2.estopActive && !fsm.estopActive) := by
  unfold InputFsm.Synced at hfsm
  unfold inputFsmStep
  rw [hfsm]
  split_ifs
  · rfl
  · cases input.estopSeek <;> cases fsm.estopActive <;> rfl

/-- The entry edge only comes with the level. -/
theorem inputFsmStep_enter (input : InputIn) (fsm : InputFsm)
    (henter : (inputFsmStep input fsm).2.estopEnter = true) :
    (inputFsmStep input fsm).2.estopActive = true := by
  unfold inputFsmStep at henter ⊢
  split_ifs at henter ⊢
  simp_all

/-! ### Horn-down mode -/

/-- The static state of `app_horn_fsm.c`. -/
structure HornFsm where
  modePrev : Bool
  key1Bak : Bool
  key2Bak : Bool
  horn : Bool
  deriving DecidableEq, Repr

/-- `horn_in_t`. -/
structure HornIn where
  mode : Bool
  key1 : Bool
  key2 : Bool
  estop : Bool

/-- `horn_fsm_init`. -/
def hornFsmInit : HornFsm := ⟨false, false, false, false⟩

/-- `horn_fsm_step`; the second component is the solenoid level. -/
def hornFsmStep (input : HornIn) (fsm : HornFsm) : HornFsm × Bool :=
  let press := (decide (input.key1 ≠ fsm.key1Bak) && !input.key1) ||
    (decide (input.key2 ≠ fsm.key2Bak) && !input.key2)
  let horn :=
    if input.mode = false then false
    else if input.estop then false
    else if fsm.modePrev = false then false
    else if press then !fsm.horn
    else fsm.horn
  (⟨input.mode, input.key1, input.key2, horn⟩, horn)

/-- Assumes: the mode is off or the emergency stop is active. Then the solenoid output is low. -/
theorem hornFsmStep_low (input : HornIn) (fsm : HornFsm)
    (hlow : input.mode = false ∨ input.estop = true) : (hornFsmStep input fsm).2 = false := by
  unfold hornFsmStep
  rcases hlow with h | h <;> simp [h]

/-! ### SEEK/RESET chain -/

inductive SrState
  | idle
  | reset
  | seek
  deriving DecidableEq, Repr

inductive SrCmd
  | none
  | reset
  | seek
  deriving DecidableEq, Repr

/-- `SR_TICKS`. -/
def srTicks : ℕ := 60

/-- The static state of `app_seek_reset_fsm.c`. -/
structure SeekResetFsm where
  state : SrState
  elapsed : ℕ
  deriving DecidableEq, Repr

/-- `seek_reset_in_t`. -/
structure SeekResetIn where
  cmd : SrCmd
  runActive : Bool

/-- `seek_reset_out_t`. -/
structure SeekResetOut where
  state : SrState
  resetSignal : Bool
  seekSignal : Bool
  resetIcon : Bool
  resetIconOff : Bool
  seekIcon : Bool
  seekIconOff : Bool
  deriving DecidableEq, Repr

def SeekResetOut.none : SeekResetOut := ⟨.idle, false, false, false, false, false, false⟩

/-- `seek_reset_fsm_init`. -/
def seekResetFsmInit : SeekResetFsm := ⟨.idle, 0⟩

/-- The saturating `s_elapsed++` of both legs. -/
def srElapsedNext (fsm : SeekResetFsm) : ℕ :=
  if fsm.elapsed < 0xFFFF then fsm.elapsed + 1 else fsm.elapsed

/-- `sr_step_reset`. -/
def srStepReset (fsm : SeekResetFsm) : SeekResetFsm × SeekResetOut :=
  if srElapsedNext fsm ≥ srTicks then
    (⟨.seek, 0⟩, { SeekResetOut.none with resetIconOff := true, seekSignal := true,
                                          seekIcon := true })
  else (⟨.reset, srElapsedNext fsm⟩, { SeekResetOut.none with resetSignal := true })

/-- `sr_step_seek`. -/
def srStepSeek (fsm : SeekResetFsm) : SeekResetFsm × SeekResetOut :=
  if srElapsedNext fsm ≥ srTicks then
    (⟨.idle, 0⟩, { SeekResetOut.none with seekIconOff := true })
  else (⟨.seek, srElapsedNext fsm⟩, { SeekResetOut.none with seekSignal := true })

/-- `seek_reset_fsm_step`: commands are taken in IDLE and only while no run is published. -/
def seekResetFsmStep (input : SeekResetIn) (fsm : SeekResetFsm) : SeekResetFsm × SeekResetOut :=
  let stepped : SeekResetFsm × SeekResetOut :=
    match fsm.state with
    | .idle =>
      if input.runActive then (fsm, SeekResetOut.none)
      else match input.cmd with
        | .reset => (⟨.reset, 0⟩,
            { SeekResetOut.none with resetSignal := true, resetIcon := true })
        | .seek => (⟨.seek, 0⟩, { SeekResetOut.none with seekSignal := true, seekIcon := true })
        | .none => (fsm, SeekResetOut.none)
    | .reset => srStepReset fsm
    | .seek => srStepSeek fsm
  (stepped.1, { stepped.2 with state := stepped.1.state })

/-- The chain is left idle by a step taken in IDLE exactly when no command is taken. -/
theorem seekResetFsmStep_idle (input : SeekResetIn) {fsm : SeekResetFsm}
    (hidle : fsm.state = .idle) :
    (seekResetFsmStep input fsm).1.state =
      if input.runActive then .idle
      else match input.cmd with
        | .reset => .reset
        | .seek => .seek
        | .none => .idle := by
  unfold seekResetFsmStep
  rw [hidle]
  split_ifs with hrun
  · exact hidle
  · cases input.cmd <;> simp [hidle]

/-- A busy chain takes no notice of its inputs. -/
theorem seekResetFsmStep_busy (input input' : SeekResetIn) {fsm : SeekResetFsm}
    (hbusy : fsm.state ≠ .idle) : seekResetFsmStep input fsm = seekResetFsmStep input' fsm := by
  unfold seekResetFsmStep
  cases hstate : fsm.state with
  | idle => exact absurd hstate hbusy
  | reset => rfl
  | seek => rfl

/-! ### Buzzer -/

/-- `buzzer_fsm_step` on `s_remaining`: the rest and the output level. -/
def buzzerFsmStep (remaining : ℕ) : ℕ × Bool :=
  if remaining > 0 then (remaining - 1, true) else (0, false)

end UsCtrl
