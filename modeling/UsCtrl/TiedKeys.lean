import UsCtrl.TwoHand

/-!
# Keys that are held from power-up

The trigger starts with the keys not used up (`in_cycle` is zero), although nobody has released them
yet. If every weld tick of a run samples both keys pressed, the first one that finds the press in
READY and the start gate open begins a cycle; so no cycle is begun exactly if no weld tick finds the
gate open (`tiedKeys_iff`). A controller whose keys are tied down from the boot on begins a cycle as
soon as it is warm (`tiedRun_starts`).
-/

set_option autoImplicit false
set_option relaxedAutoImplicit false

namespace UsCtrl

open Foundation

/-! ### The first start -/

/-- Both keys pressed and not used up, in READY and with the gate open: the scan asks for a cycle.
-/
theorem weldScan_opens {tick : WeldTickIn} {s : Sys} (hkey1 : tick.key1 = false)
    (hkey2 : tick.key2 = false) (hclear : s.weld.trigger.inCycle = false)
    (hready : weldFsmStatus s = .ready) (hallowed : appRegStartAllowed s = true) :
    (weldScan tick s).weld.startPending = true := by
  have hpulse : (weldTriggerFsmStep (weldTrigIn tick s) s.weld.trigger).2.startPulse = true := by
    simp [weldTriggerFsmStep, weldTrigIn, hkey1, hkey2, hclear]
  unfold weldScan
  dsimp only
  rw [if_pos ⟨hpulse, hready, hallowed⟩]

/-- A scan that uses the keys up asks for a cycle. -/
theorem weldScan_sets {tick : WeldTickIn} {s : Sys} (hclear : s.weld.trigger.inCycle = false)
    (hsets : (weldScan tick s).weld.trigger.inCycle = true) :
    (weldScan tick s).weld.startPending = true := by
  unfold weldScan at hsets ⊢
  dsimp only at hsets ⊢
  split_ifs at hsets ⊢ with hgate
  · rfl
  · have hstays : (weldTriggerFsmStep (weldTrigIn tick s) s.weld.trigger).1.inCycle = false := by
      simp [weldTriggerFsmStep, hclear]
    exact absurd (hsets.symm.trans hstays) (by decide)

/-- A step in READY whose scan has asked for a cycle begins it. -/
theorem starts_of_scan {tick : WeldTickIn} {s : Sys} (hsteps : weldSteps tick s = true)
    (hready : weldFsmStatus s = .ready)
    (hscan : (weldScan tick (weldAdvance tick s)).weld.startPending = true) :
    weldFsmStatus (appWeldTick tick s) = .cyl1 := by
  have hmove := weldFsmStep_move (weldBodyIn tick (weldAdvance tick s)) s.weld.fsm
  have hstart : (weldBodyIn tick (weldAdvance tick s)).start = true := hscan
  have hfsm := (appWeldTick_steps hsteps).fsm
  rw [hstart, WeldFsm.phase_ready.mpr hready] at hmove
  exact (congrArg WeldFsm.runStatus hfsm).trans (WeldFsm.phase_cyl1.mp hmove.told)

/-! ### Runs -/

section Runs

variable (build : Build) (boot : BootIn)

/-- If the newest call is a weld tick that has stepped the core, it has found the start gate
shut. -/
def gateShut : Past Call := newest build boot fun call s _ ↦
  ∀ tick, call = .weldTick tick → weldSteps tick s = true → appRegStartAllowed s = false

variable {build boot}

/-- As long as no cycle has begun, the press is in READY and the keys are not used up. -/
theorem idle_of_never (history : List Call)
    (hnever : always (fun h ↦ ¬ cycleStarts build boot h) history) :
    weldFsmStatus (stateAfter build boot history) = .ready ∧
      (stateAfter build boot history).weld.trigger.inCycle = false := by
  induction history with
  | nil =>
    have hboot : (stateAfter build boot []).weld = (resetState build boot).weld :=
      (quiet_boot build boot).weld
    rw [weldFsmStatus, hboot]
    exact ⟨rfl, rfl⟩
  | cons call past ih =>
    obtain ⟨hready, hclear⟩ := ih hnever.2
    have hno : ¬ weldFsmStatus (call.exec build (stateAfter build boot past)) = .cyl1 :=
      fun hdescends ↦ hnever.1 ⟨hready, hdescends⟩
    change weldFsmStatus (call.exec build (stateAfter build boot past)) = .ready ∧
      (call.exec build (stateAfter build boot past)).weld.trigger.inCycle = false
    generalize stateAfter build boot past = s at *
    constructor
    · rcases exec_cycle build call s with ⟨-, -, hsame⟩ | ⟨⟨start, hmove⟩, -⟩
      · exact ready_of_phase hsame.symm hready
      · rw [WeldFsm.phase_ready.mpr hready] at hmove
        refine WeldFsm.phase_ready.mp (hmove.from_ready.resolve_right fun hbegun ↦ ?_)
        exact hno (WeldFsm.phase_cyl1.mp hbegun)
    · rcases exec_trigger build call s with ⟨tick, rfl, hsteps⟩ | hkept
      · by_contra hset
        change ¬ (appWeldTick tick s).weld.trigger.inCycle = false at hset
        rw [weldTick_trigger hsteps, Bool.not_eq_false] at hset
        refine hno (starts_of_scan hsteps hready ?_)
        exact @weldScan_sets tick (weldAdvance tick s) hclear hset
      · rw [hkept]
        exact hclear

end Runs

/-- Assumes: every weld tick of the run samples both keys pressed. No cycle is begun in it if and
only if no weld tick that steps the core finds the start gate open. -/
theorem tiedKeys_iff (build : Build) (boot : BootIn) (history : List Call)
    (htied : ∀ tick, .weldTick tick ∈ history → tick.key1 = false ∧ tick.key2 = false) :
    always (fun h ↦ ¬ cycleStarts build boot h) history ↔
      always (gateShut build boot) history := by
  induction history with
  | nil => exact Iff.rfl
  | cons call past ih =>
    have hpast := ih fun tick hmem ↦ htied tick (List.mem_cons_of_mem _ hmem)
    constructor
    · intro hnever
      refine ⟨?_, hpast.mp hnever.2⟩
      rintro tick rfl hsteps
      obtain ⟨hready, hclear⟩ := idle_of_never past hnever.2
      obtain ⟨hkey1, hkey2⟩ := htied tick List.mem_cons_self
      by_contra hopen
      rw [Bool.not_eq_false] at hopen
      refine hnever.1 ⟨hready, starts_of_scan hsteps hready ?_⟩
      exact @weldScan_opens tick (weldAdvance tick _) hkey1 hkey2 hclear hready hopen
    · intro hshut
      refine ⟨fun hstarts ↦ ?_, hpast.mpr hshut.2⟩
      obtain ⟨tick, rfl, hsteps, -, -, -, hallowed⟩ := (handsStart_of_cycleStarts hstarts).1
      exact absurd ((hshut.1 tick rfl hsteps).symm.trans hallowed) (by decide)

/-! ### A controller with tied keys -/

/-- The first iterations with the keys held, newest first. -/
def tiedRun : ℕ → List IterIn
  | 0 => []
  | n + 1 => handsIter (10 * (n + 1)) :: tiedRun n

/-- The state after `n` of them, as long as the gate is shut: the quiet one, but for the keys that
the horn core remembers. -/
def tied (n : ℕ) : Sys :=
  { warm false n with horn := ⟨10 * n, false, false, ⟨false, false, false, false⟩⟩ }

section TiedStep

variable {n : ℕ} {s : Sys}

/-- A scan that finds the gate shut asks for nothing, whatever the keys. -/
theorem tied_weldTick (hcold : n < 401) :
    appWeldTick (handsIter (10 * (n + 1))).weld (tied n) =
      { tied n with weld := (tied (n + 1)).weld } := by
  have hdue : weldDue (handsIter (10 * (n + 1))).weld (tied n) = true := due_period n
  have hgrid : weldGrid (10 * (n + 1)) (10 * n) = 10 * (n + 1) := by
    rw [weldGrid, elapsedMs_of_le (by omega) (by omega), if_neg (by omega)]
    omega
  have hadvance : weldAdvance (handsIter (10 * (n + 1))).weld (tied n) =
      { tied n with weld := (tied (n + 1)).weld } := by
    change { tied n with weld := { (tied n).weld with
      prevMs := weldGrid (10 * (n + 1)) (10 * n) } } = _
    rw [hgrid]
    rfl
  have hshut : ¬ appRegStartAllowed { tied n with weld := (tied (n + 1)).weld } = true := by
    change ¬ appRegStartAllowed (warm false n) = true
    rw [warm_start_allowed]
    omega
  have hscan : weldScan (handsIter (10 * (n + 1))).weld
      { tied n with weld := (tied (n + 1)).weld } =
      { tied n with weld := (tied (n + 1)).weld } := by
    rw [weldScan]
    dsimp only
    rw [if_neg fun h ↦ hshut h.2.2]
    rfl
  rw [appWeldTick, hdue, hadvance, if_neg (by decide), if_neg (by exact Bool.false_ne_true),
    weldBody, weldBodyStep, weldBodyIn, hscan]
  rfl

theorem tied_hornTick (hs : s.horn = (tied n).horn) :
    appHornTick (handsIter (10 * (n + 1))).horn s = { s with horn := (tied (n + 1)).horn } := by
  have hdue : elapsedMs (handsIter (10 * (n + 1))).horn.now s.horn.prevMs ≥ 10 := by
    rw [hs]
    exact of_decide_eq_true (due_period n)
  rw [appHornTick, if_pos hdue]
  rcases s
  cases hs
  rfl

theorem tied_step (hcold : n < 401) :
    appLoopIter stdBuild (handsIter (10 * (n + 1))) (tied n) = tied (n + 1) := by
  have hlcd : appLcdTick (tied n) = tied n := rfl
  have hlimits (t : Sys) : Call.exec stdBuild (.regTick (quietIter (10 * (n + 1))).reg) t =
      appRegTick (regRunLimitsOf t.cfg) (quietIter (10 * (n + 1))).reg t := rfl
  rw [appLoopIter_ticks stdBuild _ rfl, hlcd, tied_weldTick hcold]
  change appBuzzerTick (quietIter (10 * (n + 1))).buzzer
    (appFaultAlarmTick (quietIter (10 * (n + 1))).faultAlarm
      (appModbusTick stdBuild (quietIter (10 * (n + 1))).modbus
        (appEthTick (quietIter (10 * (n + 1))).eth
          (Call.exec stdBuild (.regTick (quietIter (10 * (n + 1))).reg)
            (appSeekResetTick (quietIter (10 * (n + 1))).seekReset
              (appHornTick (handsIter (10 * (n + 1))).horn
                (appInputTick (quietIter (10 * (n + 1))).input
                  (appOverloadTick (quietIter (10 * (n + 1))).overload _)))))))) = _
  rw [@warm_overloadTick false n, @warm_inputTick false n, @tied_hornTick n,
    @warm_seekResetTick false n, hlimits, @warm_regTick n, @warm_ethTick false n,
    @warm_modbusTick false n, @warm_alarmTicks false n]
  all_goals rfl

end TiedStep

/-- Assumes: at least one iteration, and the last one finds the controller cold. -/
theorem tied_warms_up {n : ℕ} (hcold : n < 401) :
    (controller stdBuild (netBoot false)).after (iterHistory (tiedRun (n + 1))) = tied (n + 1) := by
  rw [after_iterHistory]
  induction n with
  | zero => rfl
  | succ n ih =>
    rw [tiedRun, List.foldr_cons, ih (by omega)]
    exact tied_step hcold

/-- The clock of the tied run is that of the quiet one. -/
theorem tiedRun_reads (n : ℕ) :
    (iterHistory (tiedRun n)).flatMap (fun call ↦ call.reads.reverse) =
      (iterHistory (quietRun n)).flatMap fun call ↦ call.reads.reverse := by
  induction n with
  | zero => rfl
  | succ n ih =>
    rw [tiedRun, quietRun, iterHistory, iterHistory, List.flatMap_cons, List.flatMap_cons,
      List.flatMap_append, List.flatMap_append]
    exact congrArg _ ih

/-- A call that reads the hand keys reads both of them pressed. -/
def readsPressed : Call → Prop
  | .weldTick tick => tick.key1 = false ∧ tick.key2 = false
  | .hornTick tick => tick.key1 = false ∧ tick.key2 = false
  | _ => True

theorem handsIter_pressed (now : ℕ) : ∀ call ∈ (handsIter now).calls, readsPressed call := by
  simp only [IterIn.calls, handsIter, keysIter, quietIter, List.map_nil, List.nil_append,
    List.forall_mem_cons, readsPressed, and_self, List.not_mem_nil, false_implies, implies_true]

theorem tiedRun_pressed (n : ℕ) : ∀ call ∈ iterHistory (tiedRun n), readsPressed call := by
  induction n with
  | zero => rintro _ ⟨⟩
  | succ n ih =>
    intro call hcall
    rcases List.mem_append.mp hcall with hnow | hbefore
    · exact handsIter_pressed _ call (List.mem_reverse.mp hnow)
    · exact ih call hbefore

/-- A run stopped behind its weld tick. -/
theorem hands_history (done : List IterIn) (now : ℕ) :
    (SuperloopRun.mk done (handsIter now) 2).history =
      .weldTick (handsIter now).weld :: .lcdTick :: iterHistory done := rfl

/-- Calls other than the weld tick leave the gate to it. -/
theorem gateShut_others {recent past : List Call} (hothers : ∀ call ∈ recent, call.kind ≠ .weld)
    (hpast : always (gateShut stdBuild (netBoot false)) past) :
    always (gateShut stdBuild (netBoot false)) (recent ++ past) := by
  induction recent with
  | nil => exact hpast
  | cons call recent ih =>
    rw [List.forall_mem_cons] at hothers
    exact ⟨fun tick heq ↦ absurd (congrArg Call.kind heq) hothers.1, ih hothers.2⟩

/-- Through the warm-up every scan finds the gate shut. -/
theorem tied_shut {n : ℕ} (hcold : n ≤ 401) :
    always (gateShut stdBuild (netBoot false)) (iterHistory (tiedRun n)) := by
  induction n with
  | zero => trivial
  | succ n ih =>
    have hclosed : appRegStartAllowed ((controller stdBuild (netBoot false)).after
        (.lcdTick :: iterHistory (tiedRun n))) = false := by
      cases n with
      | zero => decide +kernel
      | succ n =>
        rw [Machine.after_cons, tied_warms_up (by omega)]
        change appRegStartAllowed (warm false (n + 1)) = false
        rw [Bool.eq_false_iff, Ne, warm_start_allowed]
        omega
    have hweld : always (gateShut stdBuild (netBoot false))
        (.weldTick (handsIter (10 * (n + 1))).weld :: .lcdTick :: iterHistory (tiedRun n)) :=
      ⟨fun _ _ _ ↦ hclosed, fun _ heq ↦ (by cases heq), ih (by omega)⟩
    refine @gateShut_others ((handsIter (10 * (n + 1))).calls.drop 2).reverse _ ?_ hweld
    simp only [IterIn.calls, handsIter, keysIter, quietIter, List.map_nil, List.nil_append,
      List.drop_succ_cons, List.drop_zero, List.mem_reverse, List.forall_mem_cons, Call.kind]
    decide

/-- So no cycle is begun in it, although both keys are held. -/
theorem tiedKeys_iff_cold :
    always (fun h ↦ ¬ cycleStarts stdBuild (netBoot false) h) (iterHistory (tiedRun 401)) :=
  (tiedKeys_iff stdBuild (netBoot false) _ fun _ hmem ↦ tiedRun_pressed 401 _ hmem).mpr
    (tied_shut le_rfl)

/-- What the clock shows does not depend on the keys. -/
theorem tied_chronological {n now : ℕ}
    (hquiet : Chronological (SuperloopRun.mk (quietRun n) (quietIter now) 2).history) :
    Chronological (SuperloopRun.mk (tiedRun n) (handsIter now) 2).history := by
  rw [SuperloopRun.history] at hquiet
  rw [hands_history]
  unfold Chronological at hquiet ⊢
  rw [List.flatMap_append] at hquiet
  rw [List.flatMap_cons, List.flatMap_cons, tiedRun_reads]
  exact hquiet

/-- The first weld tick that finds a controller with tied keys warm begins a cycle. -/
theorem tied_starts {done : List IterIn}
    (hwarm : (controller stdBuild (netBoot false)).after (iterHistory done) = tied 401) :
    cycleStarts stdBuild (netBoot false) (SuperloopRun.mk done (handsIter 4020) 2).history := by
  rw [hands_history]
  simp only [cycleStarts, newest, stateAfter, Machine.after_cons, hwarm]
  decide +kernel

/-- The run up to that tick. -/
def tiedStart : SuperloopRun := ⟨tiedRun 401, handsIter 4020, 2⟩

/-- Nobody has ever released a key, and a cycle begins. -/
theorem tiedRun_starts :
    Chronological tiedStart.history ∧ (∀ call ∈ tiedStart.history, readsPressed call) ∧
      cycleStarts stdBuild (netBoot false) tiedStart.history := by
  refine ⟨tied_chronological ?_, fun call hcall ↦ ?_, tied_starts (tied_warms_up (by decide))⟩
  · exact warmedRun_chronological [] _ _ (by decide +kernel) (by decide +kernel)
  · rcases List.mem_append.mp hcall with hnow | hbefore
    · exact handsIter_pressed 4020 call (List.mem_of_mem_take (List.mem_reverse.mp hnow))
    · exact tiedRun_pressed 401 call hbefore

end UsCtrl
