import UsCtrl.Lease
import UsCtrl.PanelShadows

/-!
# What a SAVE overwrites

A SAVE copies the shadows of a page group into the live settings, so it spares a setting that nobody
has edited only if the shadow it copies agrees with the live value.

`shadow_after` is the invariant: in every run a shadow holds what the latest call that puts
something there has put (`shadowAfter`). `save_spares_iff` says from it, for every run, when a SAVE
spares a setting.
-/

set_option autoImplicit false
set_option relaxedAutoImplicit false

namespace UsCtrl

open Foundation

/-! ### Shadows along a run -/

section Session

variable (build : Build) (boot : BootIn) (setting : PanelSetting)

/-- What a shadow holds after a run: what the latest call that puts something there has put. -/
def shadowAfter : List Call → SettingVal
  | [] => setting.bootShadow
  | call :: past =>
    shadowWith (call.puts setting (stateAfter build boot past))
      (setting.live (stateAfter build boot past)) (shadowAfter past)

theorem shadow_after (history : List Call) :
    setting.shadow (stateAfter build boot history).lcd =
      shadowAfter build boot setting history := by
  induction history with
  | nil => exact boot_shadow build boot setting
  | cons call past ih =>
    rw [shadowAfter, ← ih]
    exact exec_shadow build call setting (stateAfter build boot past)

/-- The operator has edited the setting since the setup was entered: by a key that typed into its
shadow, every later call having found a setup page too. -/
def editedInSetup : Past Call :=
  since (newest build boot fun _ s _ ↦ s.lcd.lcdStatus.family ≠ none)
    (newest build boot fun call s _ ↦ s.lcd.lcdStatus.family ≠ none ∧ call.types setting s = true)

/-- The shadow of the setting has been seeded from the live value. -/
def everSeeded : Past Call :=
  once (newest build boot fun call s _ ↦ call.puts setting s = some .seeded)

/-- A frame changes the live setting only if the operator has edited it since the setup was entered,
in a shadow that had been seeded. -/
def Spares (f : FrameIn) (history : List Call) : Prop :=
  setting.live (stateAfter build boot (.frame f :: history)) ≠
      setting.live (stateAfter build boot history) →
    editedInSetup build boot setting history ∧ everSeeded build boot setting history

/-- The shadow of the setting has been seeded, and since then nobody has put anything else there or
changed the live value. -/
def undisturbed : Past Call :=
  since (newest build boot fun call s s' ↦
      call.puts setting s = none ∧ setting.live s' = setting.live s)
    (newest build boot fun call s s' ↦
      call.puts setting s = some .seeded ∧ setting.live s' = setting.live s)

variable {build boot setting}

/-- An undisturbed shadow agrees with the live value. -/
theorem shadowAfter_undisturbed {history : List Call}
    (hundisturbed : undisturbed build boot setting history) :
    shadowAfter build boot setting history = setting.live (stateAfter build boot history) := by
  refine since_induction (fun history ↦
    shadowAfter build boot setting history = setting.live (stateAfter build boot history))
    (fun call past hseeded ↦ ?_) (fun call past hquiet hpast ↦ ?_) history hundisturbed
  · rw [shadowAfter, hseeded.1, hseeded.2]
    rfl
  · rw [shadowAfter, hquiet.1, hquiet.2]
    exact hpast

/-- For every run that a SAVE ends, and every setting: the SAVE spares the setting exactly if the
shown page does not commit it, or its shadow, which holds what the latest call that puts something
there has put, agrees with the live value, or the operator has edited the setting since the setup
was entered and its shadow had been seeded. So it is spared in every run that leaves it undisturbed
from a seeding to the SAVE. -/
theorem save_spares_iff (history : List Call) {f : FrameIn} (hkey : f.key = some .dataSave)
    (hword : f.word = 1) :
    (Spares build boot setting f history ↔
        ((setupGroup (stateAfter build boot history)).commits
            (shadowAfter build boot .commMode history) setting = true →
          shadowAfter build boot setting history = setting.live (stateAfter build boot history) ∨
            (editedInSetup build boot setting history ∧ everSeeded build boot setting history))) ∧
      (undisturbed build boot setting history → Spares build boot setting f history) := by
  have hstate : stateAfter build boot (.frame f :: history) =
      dataSaveCommit f.bus f.tPage (stateAfter build boot history) := by
    show appLcdInputDispatch f (stateAfter build boot history) = _
    rw [appLcdInputDispatch, hkey]
    exact if_pos hword
  have hmode : SettingVal.num (stateAfter build boot history).lcd.tempCommMode =
      shadowAfter build boot .commMode history := shadow_after build boot .commMode history
  have hiff : Spares build boot setting f history ↔
      ((setupGroup (stateAfter build boot history)).commits
          (shadowAfter build boot .commMode history) setting = true →
        shadowAfter build boot setting history = setting.live (stateAfter build boot history) ∨
          (editedInSetup build boot setting history ∧ everSeeded build boot setting history)) := by
    rw [Spares, hstate, dataSaveCommit_live, shadow_after, hmode]
    split_ifs with hcommits
    · simp only [hcommits, true_imp_iff]
      exact or_iff_not_imp_left.symm
    · simp [hcommits]
  exact ⟨hiff, fun hundisturbed ↦ hiff.mpr fun _ ↦ Or.inl (shadowAfter_undisturbed hundisturbed)⟩

/-- Without an edit in the run there is none since the setup was entered. -/
theorem not_editedInSetup {history : List Call}
    (halong : (controller build boot).along (fun call s ↦ call.types setting s = false) history
      (bootState build boot)) : ¬ editedInSetup build boot setting history := by
  intro hedited
  rw [← List.append_nil history] at hedited
  refine since_of_append (controller build boot) (fun call s ↦ call.types setting s = false)
    (fun call past hnone htypes ↦ ?_) halong hedited
  exact Bool.false_ne_true (hnone.symm.trans htypes.2)

end Session

/-- A hand machine enters the setup and saves at once. -/
theorem handSession_spares :
    Spares stdBuild serialBoot .commAddress (keyFrame 0x1050 1 10) handSession.history.tail :=
  (save_spares_iff handSession.history.tail rfl rfl).1.mpr fun _ ↦ Or.inl (by decide +kernel)

/-- The communication page of a hand machine is open while an address is leased. -/
def leasedSession : SuperloopRun where
  done := [{ quietIter 110 with
      frames := [keyFrame 0x1100 1 110, keyFrame 0x1020 3 110]
      eth := leaseTick },
    { quietIter 100 with eth := ⟨100, true, [], false⟩ }]
  current := { quietIter 120 with frames := [keyFrame 0x1050 1 120] }
  made := 1

/-- The first standard page is opened without being rendered, and saved. -/
def unseededSession : SuperloopRun where
  done := []
  current := { quietIter 10 with frames := [keyFrame 0x1020 1 10, keyFrame 0x1050 1 10] }
  made := 2

/-- SAVE puts the address of before the lease back, and the zeroes of a shadow that was never seeded
into the settings of the line. -/
theorem save_overwrites :
    ¬ Spares stdBuild leaseBoot .etherIp (keyFrame 0x1050 1 120) leasedSession.history.tail ∧
      ¬ Spares stdBuild serialBoot .commAddress (keyFrame 0x1050 1 10)
        unseededSession.history.tail := by
  constructor
  · intro hspares
    exact not_editedInSetup (by decide +kernel) (hspares (by decide +kernel)).1
  · intro hspares
    exact not_editedInSetup (by decide +kernel) (hspares (by decide +kernel)).1

end UsCtrl
