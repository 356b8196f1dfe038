import UsCtrl.WarmUp
import UsCtrl.RunEvents

/-!
# The published run status and the live one

The overload tick and the SEEK/RESET tick read the run status that the regulation tick last
published. Between a START and the next publish that status is stale (`Unpublished`): exactly while
the live status is active and the published one idle (`unpublished_iff`). Both consequences of the
lag are stated over runs. An overload episode leaves a run behind exactly when its run is
unpublished at the de-assert (`deassert_idle_iff`), and a run and a SEEK/RESET chain overlap only if
the chain was begun while the run was unpublished (`overlap_is_stale`).
-/

set_option autoImplicit false
set_option relaxedAutoImplicit false

namespace UsCtrl

open Foundation

section Events

variable (build : Build) (boot : BootIn)

/-- A run is active after the newest call. -/
def runActive : Past Call := fun h ↦ appRegRunSrc (stateAfter build boot h) ≠ .idle

/-- The newest call is a regulation tick that publishes. -/
def publishes : Past Call := newest build boot fun call s _ ↦
  match call with
  | .regTick tick => regPublishes tick s = true
  | _ => False

/-- The newest call accepted a START that is still active, with the published status idle. -/
def startUnseen : Past Call := fun h ↦ startAccepted build boot h ∧ runActive build boot h ∧
  publishedRun (stateAfter build boot h) = .idle

/-- The active run was accepted under an idle published status, and no tick has published since. -/
def Unpublished : Past Call :=
  since (fun h ↦ runActive build boot h ∧ ¬ publishes build boot h) (startUnseen build boot)

end Events

variable {build : Build} {boot : BootIn}

/-! ### Publishing -/

/-- A call that does not publish leaves the published status alone. -/
theorem exec_publishedRun (call : Call) (past : List Call)
    (hpublishes : ¬ publishes build boot (call :: past)) :
    publishedRun (stateAfter build boot (call :: past)) =
      publishedRun (stateAfter build boot past) := by
  have hframe := exec_frame build call (stateAfter build boot past)
  rcases call.regTick_or with ⟨tick, rfl⟩ | hreg
  · have htick := appRegTick_spec (regRunLimitsOf (stateAfter build boot past).cfg) tick
      (stateAfter build boot past)
    exact htick.published.trans (if_neg hpublishes)
  exact (hframe.published hreg).1

/-- A publish makes the published status the live one. -/
theorem publishes_publishedRun {call : Call} {past : List Call}
    (hpublishes : publishes build boot (call :: past)) :
    publishedRun (stateAfter build boot (call :: past)) =
      appRegRunSrc (stateAfter build boot (call :: past)) := by
  cases call with
  | regTick tick =>
    have htick := appRegTick_spec (regRunLimitsOf (stateAfter build boot past).cfg) tick
      (stateAfter build boot past)
    exact htick.published.trans (if_pos hpublishes)
  | _ => exact hpublishes.elim

/-- The run is active and the published status idle exactly while the run is unpublished. -/
theorem unpublished_iff (history : List Call) :
    Unpublished build boot history ↔
      runActive build boot history ∧ publishedRun (stateAfter build boot history) = .idle := by
  constructor
  · refine since_induction (fun h ↦ runActive build boot h ∧
      publishedRun (stateAfter build boot h) = .idle) ?_ ?_ history
    · exact fun call past htrigger ↦ htrigger.2
    · intro call past hhold hpast
      exact ⟨hhold.1, (exec_publishedRun call past hhold.2).trans hpast.2⟩
  · refine since_of_monitor (fun h ↦ runActive build boot h ∧
      publishedRun (stateAfter build boot h) = .idle) ?_ ?_ history
    · rintro ⟨hrun, -⟩
      exact hrun (congrArg RegState.usRunStatus (quiet_boot build boot).reg)
    · rintro call past ⟨hrun, hpublished⟩
      by_cases haccepted : startAccepted build boot (call :: past)
      · exact Or.inl ⟨haccepted, hrun, hpublished⟩
      · have hkept := (exec_frame build call (stateAfter build boot past)).kept
          (not_not.mp haccepted)
        have hwas : runActive build boot past := by
          rcases hkept with hsame | hidle
          · exact fun hidle ↦ hrun (hsame.trans hidle)
          · exact absurd hidle hrun
        have hquiet : ¬ publishes build boot (call :: past) := fun hpublishes ↦
          hrun ((publishes_publishedRun hpublishes).symm.trans hpublished)
        refine Or.inr ⟨⟨hrun, hquiet⟩, hwas, ?_⟩
        rw [← exec_publishedRun call past hquiet]
        exact hpublished

/-! ### The end of an overload episode -/

/-- The overload tick reports the end of an episode. -/
def deasserts (tick : OverloadTickIn) (s : Sys) : Prop :=
  overloadDue tick s = true ∧ (overloadEvent tick s).deassert = true

/-- The de-assert stops the run whose owner is published, and no other. -/
theorem overloadTick_deassert {tick : OverloadTickIn} {s : Sys} (hdeassert : deasserts tick s) :
    appRegRunSrc (appOverloadTick tick s) = .idle ↔
      ¬ (appRegRunSrc s ≠ .idle ∧ publishedRun s = .idle) := by
  rcases appOverloadTick_cases tick s with ⟨hearly, -⟩ | ⟨-, hbody⟩
  · simp [hdeassert.1] at hearly
  · by_cases hpublished : publishedRun s = .idle
    · have hkeep : appRegRunSrc (appOverloadTick tick s) = appRegRunSrc s :=
        congrArg RegState.usRunStatus (hbody.keep (Or.inl hpublished))
      rw [hkeep]
      simp [hpublished]
    · have hidle : appRegRunSrc (appOverloadTick tick s) = .idle :=
        hbody.idle (Or.inr hdeassert.2) hpublished
      simp [hidle, hpublished]

/-- Assumes: the newest call of a run is an overload tick that reports the end of an episode. It
leaves no run exactly if no run is unpublished before it. -/
theorem deassert_idle_iff (build : Build) (boot : BootIn) (history : List Call)
    (tick : OverloadTickIn) (hdeassert : deasserts tick (stateAfter build boot history)) :
    appRegRunSrc (stateAfter build boot (.overloadTick tick :: history)) = .idle ↔
      ¬ Unpublished build boot history := by
  rw [unpublished_iff]
  exact overloadTick_deassert hdeassert

/-- An overload that is asserted for one tick, in the iteration in which the panel starts a run 1 ms
after a publish; the run is stopped in front of the given call of the next iteration. -/
def shortEpisode (made : ℕ) : SuperloopRun :=
  warmedRun ({ overloadIter 4060 true with frames := [keyFrame 0x1080 3 4060] } ::
    overloadIter 4059 true :: everyPeriod (overloadIter · true) 4020 4)
      (overloadIter 4070 false) made

theorem shortEpisode_deasserts :
    deasserts ⟨4070, false⟩ (stateAfter stdBuild (netBoot false) (shortEpisode 2).history) := by
  unfold deasserts stateAfter shortEpisode
  rw [warmedRun_after]
  decide +kernel

/-- The end of that episode leaves the run active. -/
theorem shortEpisode_keeps_run :
    Chronological (shortEpisode 3).history ∧
      (shortEpisode 3).history = .overloadTick ⟨4070, false⟩ :: (shortEpisode 2).history ∧
      deasserts ⟨4070, false⟩ (stateAfter stdBuild (netBoot false) (shortEpisode 2).history) ∧
      appRegRunSrc (stateAfter stdBuild (netBoot false) (shortEpisode 3).history) = .touch := by
  refine ⟨warmedRun_chronological _ _ _ ?_ ?_, rfl, shortEpisode_deasserts, ?_⟩
  · decide +kernel
  · decide +kernel
  · unfold stateAfter shortEpisode
    rw [warmedRun_after]
    decide +kernel

/-- In that run the end of the episode is one at which a run is unpublished. -/
theorem shortEpisode_unpublished :
    appRegRunSrc (stateAfter stdBuild (netBoot false)
      (.overloadTick ⟨4070, false⟩ :: (shortEpisode 2).history)) = .idle ↔
      ¬ Unpublished stdBuild (netBoot false) (shortEpisode 2).history :=
  deassert_idle_iff _ _ _ _ shortEpisode_deasserts

/-! ### Runs and SEEK/RESET -/

/-- A run is active while the SEEK/RESET chain is. -/
def Overlap (s : Sys) : Prop := appRegRunSrc s ≠ .idle ∧ appSeekResetActive s = true

/-- The SEEK/RESET tick leaves IDLE only under an idle published status. -/
theorem seekResetTick_enter {now : ℕ} {s : Sys} (hidle : s.seekReset.fsm.state = .idle)
    (hbusy : (appSeekResetTick now s).seekReset.fsm.state ≠ .idle) : publishedRun s = .idle := by
  unfold appSeekResetTick at hbusy
  split_ifs at hbusy
  · by_contra hpublished
    refine hbusy ((seekResetFsmStep_idle _ hidle).trans (if_pos ?_))
    simpa using hpublished
  · exact absurd hidle hbusy

/-- A call after which a run and the chain overlap found them overlapping and accepted no START, or
is the SEEK/RESET tick that began the chain, under an idle published status. -/
theorem exec_overlap (build : Build) (call : Call) {s : Sys}
    (hoverlap : Overlap (call.exec build s)) :
    (call.exec build s).ghost.starts = s.ghost.starts ∧ appRegRunSrc s ≠ .idle ∧
      (appSeekResetActive s = true ∨
        appSeekResetActive s = false ∧ publishedRun s = .idle ∧ call.kind = .seekReset) := by
  have hframe := exec_frame build call s
  obtain ⟨hrun, hbusy⟩ := hoverlap
  have hbusy : (call.exec build s).seekReset.fsm.state ≠ .idle := by
    simpa [appSeekResetActive] using hbusy
  have hstarts : (call.exec build s).ghost.starts = s.ghost.starts := by
    by_contra haccepted
    have hidle := (hframe.accepted haccepted).2.1
    by_cases hkind : call.kind = .seekReset
    · cases call <;> cases hkind
      refine haccepted ?_
      simp only [Call.exec, appSeekResetTick]
      split_ifs <;> rfl
    · rw [hframe.chain hkind] at hbusy
      exact hbusy hidle
  refine ⟨hstarts, ?_, ?_⟩
  · rcases hframe.kept hstarts with hsame | hidle
    · exact fun hidle ↦ hrun (hsame.trans hidle)
    · exact absurd hidle hrun
  · by_cases hkind : call.kind = .seekReset
    · by_cases hidle : s.seekReset.fsm.state = .idle
      · cases call <;> cases hkind
        exact Or.inr ⟨by simp [appSeekResetActive, hidle], seekResetTick_enter hidle hbusy, rfl⟩
      · exact Or.inl (by simp [appSeekResetActive, hidle])
    · rw [hframe.chain hkind] at hbusy
      exact Or.inl (by simp [appSeekResetActive, hbusy])

/-- No START is accepted while the SEEK/RESET chain is active. If a run and the chain overlap, they
have done so, without a further START, since the SEEK/RESET tick that began the chain, and that tick
began it while the run was unpublished. -/
theorem overlap_is_stale (build : Build) (boot : BootIn) (history : List Call) :
    (∀ call, startAccepted build boot (call :: history) →
      appSeekResetActive (stateAfter build boot history) = false) ∧
    (Overlap (stateAfter build boot history) →
      since (fun h ↦ Overlap (stateAfter build boot h) ∧ noStart build boot h)
        (fun h ↦ rises build boot (fun s ↦ appSeekResetActive s = true) h ∧
          Unpublished build boot h) history) := by
  constructor
  · intro call haccepted
    have hframe := exec_frame build call (stateAfter build boot history)
    simp [appSeekResetActive, (hframe.accepted haccepted).2.1]
  · refine since_of_monitor (fun h ↦ Overlap (stateAfter build boot h)) ?_ ?_ history
    · rintro ⟨hrun, -⟩
      exact hrun (congrArg RegState.usRunStatus (quiet_boot build boot).reg)
    · intro call past hoverlap
      obtain ⟨hstarts, hrun, hbusy | ⟨hidle, hpublished, hkind⟩⟩ := exec_overlap build call hoverlap
      · exact Or.inr ⟨⟨hoverlap, hstarts⟩, hrun, hbusy⟩
      · refine Or.inl ⟨⟨Bool.eq_false_iff.mp hidle, hoverlap.2⟩,
          (unpublished_iff _).mpr ⟨hoverlap.1, ?_⟩⟩
        have hframe := exec_frame build call (stateAfter build boot past)
        rw [hkind] at hframe
        exact (hframe.published (by rintro ⟨⟩)).1.trans hpublished

/-- A panel START and a press of the SEEK button in one iteration. -/
def startAndSeek : SuperloopRun :=
  warmedRun [] { quietIter 4020 with
    frames := [keyFrame 0x1080 3 4020]
    input := ⟨4020, true, true, false, 4020⟩ } 7

/-- They leave a run and the SEEK chain active together. -/
theorem startAndSeek_overlap :
    Chronological startAndSeek.history ∧
      Overlap (stateAfter stdBuild (netBoot false) startAndSeek.history) := by
  refine ⟨warmedRun_chronological _ _ _ ?_ ?_, ?_⟩
  · decide +kernel
  · decide +kernel
  · unfold Overlap stateAfter startAndSeek
    rw [warmedRun_after]
    decide +kernel

end UsCtrl
