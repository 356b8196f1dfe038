import UsCtrl.Coherence

/-!
# Events along a run

The vocabulary of the statements about runs: what the newest call of a history has just done, as
past-time predicates (`UsCtrl.Foundation.History`) on the histories of the controller. A call has
accepted a START when the ghost counter of accepted STARTs has moved, and so on; a level has risen
when it holds after the call and did not before it.
-/

set_option autoImplicit false
set_option relaxedAutoImplicit false

namespace UsCtrl

open Foundation

section Events

variable (build : Build) (boot : BootIn)

/-- The state a history leaves. -/
abbrev stateAfter (history : List Call) : Sys := (controller build boot).after history

/-- A relation between the states before and after the newest call. -/
def newest (event : Call → Sys → Sys → Prop) : Past Call
  | [] => False
  | call :: past => event call (stateAfter build boot past) (stateAfter build boot (call :: past))

/-- The newest call accepted a START. -/
def startAccepted : Past Call := newest build boot fun _ s s' ↦ s'.ghost.starts ≠ s.ghost.starts

/-- The newest call accepted no START. -/
def noStart : Past Call := newest build boot fun _ s s' ↦ s'.ghost.starts = s.ghost.starts

/-- The newest call raised a level. -/
def rises (level : Sys → Prop) : Past Call := newest build boot fun _ s s' ↦ ¬ level s ∧ level s'

variable {build boot}

/-- Assumes: the level is off at boot. Wherever it is on, it has been on since it last rose, and
every call since, the rise included, kept what each call that ends with the level on keeps. -/
theorem since_rises (level : Sys → Prop) (keeps : Call → Sys → Sys → Prop)
    (hboot : ¬ level (bootState build boot))
    (hkeeps : ∀ call s, level (call.exec build s) → keeps call s (call.exec build s))
    {history : List Call} (hlevel : level (stateAfter build boot history)) :
    since (fun h ↦ level (stateAfter build boot h) ∧ newest build boot keeps h)
      (fun h ↦ rises build boot level h ∧ newest build boot keeps h) history := by
  refine since_of_monitor (fun h ↦ level (stateAfter build boot h)) hboot ?_ history hlevel
  intro call past h
  by_cases hpast : level (stateAfter build boot past)
  · exact Or.inr ⟨⟨h, hkeeps call _ h⟩, hpast⟩
  · exact Or.inl ⟨⟨hpast, h⟩, hkeeps call _ h⟩

end Events

end UsCtrl
