import UsCtrl.RunEvents

/-!
# Emergency stop dominates

While the emergency stop is active the press is up and at rest, no run is active and no START is
accepted (`estop_dominates`), whatever the panel, the links, the keys and the page do. The entry
branch of the input tick establishes all of it at once, whether the weld tick is frozen or not, and
the start gate keeps it.
-/

set_option autoImplicit false
set_option relaxedAutoImplicit false

namespace UsCtrl

open Foundation

/-! ### The rest state -/

/-- The press is up and at rest and no run is active. -/
structure AtRest (s : Sys) : Prop where
  ready : s.weld.fsm.runStatus = .ready
  solDn : s.pins.solDn = false
  idle : s.reg.usRunStatus = .idle

/-- A cycle that is READY begins only through the start gate. -/
theorem weldScan_startPending (tick : WeldTickIn) {s : Sys} (hpending : s.weld.startPending = false)
    (hclosed : appRegStartAllowed s = false) : (weldScan tick s).weld.startPending = false := by
  unfold weldScan
  dsimp only
  rw [if_neg (by simp [hclosed])]
  exact hpending

/-- Assumes: the start gate is closed. Then a READY press stays READY and moves nothing. -/
theorem weldBodyStep_ready (tick : WeldTickIn) {s : Sys} (hpending : s.weld.startPending = false)
    (hclosed : appRegStartAllowed s = false) (hready : s.weld.fsm.runStatus = .ready) :
    (weldBodyStep tick s).1.runStatus = .ready ∧ (weldBodyStep tick s).2.edges = {} := by
  have hmove := weldFsmStep_move (weldBodyIn tick s) s.weld.fsm
  have hstart : (weldBodyIn tick s).start = false := weldScan_startPending tick hpending hclosed
  rw [WeldFsm.phase_ready.mpr hready, hstart] at hmove
  change (weldFsmStep _ _).1.runStatus = .ready ∧ (weldFsmStep _ _).2.edges = {}
  rw [← WeldFsm.phase_ready]
  generalize (weldFsmStep (weldBodyIn tick s) s.weld.fsm).1.phase = phase,
    (weldFsmStep (weldBodyIn tick s) s.weld.fsm).2.edges = edges at hmove
  cases hmove <;> simp_all

/-- The weld tick keeps a press under emergency stop at rest. -/
theorem weldTick_atRest (tick : WeldTickIn) {s : Sys} (hs : Coherent s)
    (hestop : s.input.estopActive = true) (hrest : AtRest s) : AtRest (appWeldTick tick s) := by
  have hclosed : appRegStartAllowed s = false := by
    by_contra hopen
    have hopen := (appRegStartAllowed_iff s).mp (by simpa using hopen)
    simp [hestop] at hopen
  rcases appWeldTick_cases tick s with ⟨-, heq⟩ | ⟨-, -, heq⟩ | ⟨-, hbody⟩
  · exact heq.symm ▸ hrest
  · rw [heq]
    exact ⟨hrest.ready, hrest.solDn, hrest.idle⟩
  · obtain ⟨hready, hedges⟩ := weldBodyStep_ready tick (s := weldAdvance tick s) hs.startPending
      hclosed hrest.ready
    have hlow : (weldBodyStep tick (weldAdvance tick s)).1.solDn = false :=
      (weldFsmStep_upright _ hs.upright).ready hready
    have hstart : (weldBodyStep tick (weldAdvance tick s)).2.weldStart = false :=
      congrArg WeldEdges.weldStart hedges
    have hstop : (weldBodyStep tick (weldAdvance tick s)).2.weldStop = false :=
      congrArg WeldEdges.weldStop hedges
    constructor
    · rw [hbody.fsm]
      exact hready
    · rw [hbody.solDn, hlow]
      split_ifs
      · exact hrest.solDn
      · rfl
    · rw [hbody.runKeep hstart hstop]
      exact hrest.idle

/-- Assumes: the aborted core has let the solenoid go. Then so has the pin. -/
theorem weldAborted_solDn {s : Sys} (hlow : (weldFsmStep weldAbortIn s.weld.fsm).1.solDn = false) :
    (weldAborted (ioSolDn false s)).pins.solDn = false := by
  rw [weldAborted, weldSolEdge_solDn]
  split_ifs
  · rfl
  · exact hlow

/-- The entry of the emergency stop takes the press to READY and lets the solenoid go. -/
theorem inputBody_entered (tick : InputTickIn) {s : Sys} (hs : s.weld.fsm.Upright)
    (henter : (inputEvent tick s).estopEnter = true) :
    (inputBody tick s).weld.fsm.runStatus = .ready ∧ (inputBody tick s).weld.fsm.solDn = false ∧
      (inputBody tick s).pins.solDn = false := by
  obtain ⟨hends, -⟩ := inputBody_estop tick s (inputFsmStep_enter _ _ henter)
  have hscanned : inputScanned tick s = weldAborted (ioSolDn false (inputSample tick s).1) := by
    rw [inputScanned, if_pos henter]
  have hready : (weldFsmStep weldAbortIn s.weld.fsm).1.runStatus = .ready :=
    weldFsmStep_abort_ready rfl rfl s.weld.fsm
  have hlow : (weldFsmStep weldAbortIn s.weld.fsm).1.solDn = false :=
    (weldFsmStep_upright _ hs).ready hready
  rw [(hends.frame .cycle).weld, hends.solDn, hscanned, weldAborted_weld]
  exact ⟨hready, hlow, weldAborted_solDn hlow⟩

/-- An executed input body leaves the press at rest whenever it leaves the emergency stop active. -/
theorem inputBody_atRest (tick : InputTickIn) {s : Sys} (hs : Coherent s)
    (hrest : s.input.estopActive = true → AtRest s)
    (hestop : (inputEvent tick s).estopActive = true) : AtRest (inputBody tick s) := by
  obtain ⟨hends, hidle⟩ := inputBody_estop tick s hestop
  have hweld := (hends.frame .cycle).weld
  cases henter : (inputEvent tick s).estopEnter with
  | true =>
    obtain ⟨hready, -, hpin⟩ := inputBody_entered tick hs.upright henter
    exact ⟨hready, hpin, hidle (Or.inl henter)⟩
  | false =>
    have hscanned : inputScanned tick s = (inputSample tick s).1 := by
      rw [inputScanned, if_neg (by simp [henter])]
    have hwas : s.input.estopActive = true := by
      have hevent : (inputEvent tick s).estopEnter =
          ((inputEvent tick s).estopActive && !s.input.fsm.estopActive) :=
        inputFsmStep_estop _ hs.synced
      rw [henter, hestop] at hevent
      rw [hs.level]
      simpa using hevent
    have hrest := hrest hwas
    constructor
    · rw [hweld, hscanned]
      exact hrest.ready
    · rw [hends.solDn, hscanned]
      exact hrest.solDn
    · exact hends.idle (by rw [hscanned]; exact hrest.idle)

/-- The horn tick drops the solenoid while the emergency stop is active. -/
theorem hornBody_atRest (tick : HornTickIn) {s : Sys} (hestop : s.input.estopActive = true)
    (hrest : AtRest s) : AtRest (hornBody tick s) := by
  obtain ⟨hends, -, -⟩ := hornBody_ends tick s
  have hlow : (hornStep tick s).2 = false := hornFsmStep_low _ _ (Or.inr hestop)
  constructor
  · rw [(hends.frame .cycle).weld, hornSolenoid_eq]
    exact hrest.ready
  · rw [hends.solDn, hornSolenoid_eq]
    dsimp only
    rw [hlow]
    split_ifs
    · exact hrest.solDn
    · rfl
  · exact hends.idle (by rw [hornSolenoid_eq]; exact hrest.idle)

/-- No call that ends with the emergency stop active has accepted a START. -/
theorem exec_estop_blocks (build : Build) (call : Call) {s : Sys}
    (hestop : appEstopActive (call.exec build s) = true) :
    (call.exec build s).ghost.starts = s.ghost.starts := by
  by_contra hstarts
  have hopen := (exec_frame build call s).accepted hstarts
  rw [appEstopActive] at hestop
  simp [hestop] at hopen

/-- Whatever the call, a press that is at rest while the emergency stop is active stays so as long
as it is. -/
theorem exec_atRest (build : Build) (call : Call) {s : Sys} (hs : Coherent s)
    (hrest : s.input.estopActive = true → AtRest s) :
    (call.exec build s).input.estopActive = true → AtRest (call.exec build s) := by
  have hframe := exec_frame build call s
  intro hestop
  by_cases hinput : call.kind = .input
  · cases call <;> cases hinput
    rename_i tick
    rcases appInputTick_cases tick s with ⟨-, heq⟩ | ⟨-, heq⟩
    · rw [Call.exec, heq] at hestop ⊢
      exact hrest hestop
    · rw [Call.exec, heq] at hestop ⊢
      exact inputBody_atRest tick hs hrest ((inputBody_scan tick s).1.symm.trans hestop)
  · have hwas : s.input.estopActive = true := (hframe.input hinput).1.symm.trans hestop
    have hidle : (call.exec build s).reg.usRunStatus = .idle := by
      have hstarts : (call.exec build s).ghost.starts = s.ghost.starts :=
        exec_estop_blocks build call hestop
      rcases hframe.kept hstarts with hrun | hrun
      · exact hrun.trans (hrest hwas).idle
      · exact hrun
    cases call with
    | weldTick tick => exact weldTick_atRest tick hs hwas (hrest hwas)
    | inputTick tick => exact absurd rfl hinput
    | hornTick tick =>
      simp only [Call.exec, appHornTick]
      split_ifs
      · exact hornBody_atRest tick hwas (hrest hwas)
      · exact hrest hwas
    | _ =>
      refine ⟨?_, ?_, hidle⟩
      · rw [hframe.weld (by rintro ⟨⟩) (by rintro ⟨⟩)]
        exact (hrest hwas).ready
      · rcases hframe.solDn (by rintro ⟨⟩) (by rintro ⟨⟩) (by rintro ⟨⟩) with hpin | hpin
        · exact hpin.trans (hrest hwas).solDn
        · exact hpin

/-! ### Dominance over runs -/

variable {build : Build} {boot : BootIn}

theorem estop_atRest (history : List Call)
    (hestop : (stateAfter build boot history).input.estopActive = true) :
    AtRest (stateAfter build boot history) := by
  induction history with
  | nil =>
    have hoff : (stateAfter build boot []).input.estopActive = false :=
      (quiet_boot build boot).estop
    exact absurd (hestop.symm.trans hoff) (by decide)
  | cons call past ih => exact exec_atRest build call (after_coherent build boot past) ih hestop

/-- Assumes: the emergency stop is active at some point of a run. Then the weld cycle is READY, the
solenoid pin is off, no run is active, and since the emergency stop has become active it has stayed
so and no call, the activating one included, has accepted a START. -/
theorem estop_dominates (build : Build) (boot : BootIn) (history : List Call)
    (hestop : appEstopActive (stateAfter build boot history) = true) :
    weldFsmStatus (stateAfter build boot history) = .ready ∧
      (stateAfter build boot history).pins.solDn = false ∧
      appRegRunSrc (stateAfter build boot history) = .idle ∧
      since (fun h ↦ appEstopActive (stateAfter build boot h) = true ∧ noStart build boot h)
        (fun h ↦ rises build boot (fun s ↦ appEstopActive s = true) h ∧
          noStart build boot h) history := by
  have hrest := estop_atRest history hestop
  refine ⟨hrest.ready, hrest.solDn, hrest.idle, ?_⟩
  have hboot : ¬ appEstopActive (bootState build boot) = true := by
    rw [appEstopActive, (quiet_boot build boot).estop]
    exact Bool.false_ne_true
  exact since_rises (fun s ↦ appEstopActive s = true)
    (fun _ s s' ↦ s'.ghost.starts = s.ghost.starts) hboot
    (fun call s ↦ exec_estop_blocks build call) hestop

/-- The panel selects the standard model and the emergency switch is pressed. -/
def estopPressed : List Call :=
  [.inputTick ⟨10, true, true, true, 10⟩,
   .frame ⟨0x83, 0x1070, [1, 0, 2], 5, 5, 5, I2cBus.sound⟩]

theorem estop_dominates_pressed :
    weldFsmStatus (stateAfter ⟨.std, false, false⟩ factoryBoot estopPressed) = .ready ∧
      (stateAfter ⟨.std, false, false⟩ factoryBoot estopPressed).pins.solDn = false ∧
      appRegRunSrc (stateAfter ⟨.std, false, false⟩ factoryBoot estopPressed) = .idle ∧
      since (fun h ↦ appEstopActive (stateAfter ⟨.std, false, false⟩ factoryBoot h) = true ∧
          noStart ⟨.std, false, false⟩ factoryBoot h)
        (fun h ↦ rises ⟨.std, false, false⟩ factoryBoot (fun s ↦ appEstopActive s = true) h ∧
          noStart ⟨.std, false, false⟩ factoryBoot h) estopPressed :=
  estop_dominates ⟨.std, false, false⟩ factoryBoot estopPressed (by decide)

end UsCtrl
