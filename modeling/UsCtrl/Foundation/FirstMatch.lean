import Mathlib.Tactic.Common

/-!
# First-match rule chains

A chain of guarded actions in which the first rule whose guard holds is the only one that acts
(`firstMatch`), the meaning of an `if … else if …` ladder. What every rule of the chain respects,
the chain respects (`firstMatch_induction`); two chains whose rules correspond act in a
corresponding way as long as corresponding guards agree (`firstMatch_related`). The rule that acts
is the one a search finds (`firstMatch_find`). When at most one rule can be open, the chain is a
table look-up (`firstMatch_lookup`).
-/

set_option autoImplicit false
set_option relaxedAutoImplicit false

namespace UsCtrl.Foundation

section FirstMatch

variable {State Result : Type*}

/-- A guarded action. -/
structure Rule (State Result : Type*) where
  guard : State → Bool
  act : State → Result

/-- The action of the first rule whose guard holds, else the fallback. -/
def firstMatch (fallback : State → Result) : List (Rule State Result) → State → Result
  | [], state => fallback state
  | rule :: rules, state =>
    if rule.guard state then rule.act state else firstMatch fallback rules state

@[simp] theorem firstMatch_nil (fallback : State → Result) (state : State) :
    firstMatch fallback [] state = fallback state := rfl

theorem firstMatch_cons (fallback : State → Result) (rule : Rule State Result)
    (rules : List (Rule State Result)) (state : State) :
    firstMatch fallback (rule :: rules) state =
      if rule.guard state then rule.act state else firstMatch fallback rules state := rfl

/-- Assumes: the fallback satisfies `good`, and so does every rule of the chain whose guard holds.
Then so does the chain. -/
theorem firstMatch_induction {fallback : State → Result} {rules : List (Rule State Result)}
    {state : State} (good : Result → Prop) (hfallback : good (fallback state))
    (hrules : ∀ rule ∈ rules, rule.guard state = true → good (rule.act state)) :
    good (firstMatch fallback rules state) := by
  induction rules with
  | nil => exact hfallback
  | cons rule rules ih =>
    rw [firstMatch_cons]
    split_ifs with hguard
    · exact hrules rule List.mem_cons_self hguard
    · exact ih fun other hmem ↦ hrules other (List.mem_cons_of_mem rule hmem)

/-- Assumes: the rules of the two chains correspond one to one, corresponding guards agree on the
two states, corresponding actions give related results, and so do the fallbacks. -/
theorem firstMatch_related {State' Result' : Type*} {fallback : State → Result}
    {fallback' : State' → Result'} {rules : List (Rule State Result)}
    {rules' : List (Rule State' Result')} {state : State} {state' : State'}
    (related : Result → Result' → Prop) (hfallback : related (fallback state) (fallback' state'))
    (hrules : List.Forall₂ (fun rule rule' ↦ rule.guard state = rule'.guard state' ∧
      (rule.guard state = true → related (rule.act state) (rule'.act state'))) rules rules') :
    related (firstMatch fallback rules state) (firstMatch fallback' rules' state') := by
  induction hrules with
  | nil => exact hfallback
  | cons hrule _ ih =>
    rw [firstMatch_cons, firstMatch_cons, ← hrule.1]
    split_ifs with hguard
    · exact hrule.2 hguard
    · exact ih

/-- The chain is the rule that a search for an open guard finds, or the fallback. -/
theorem firstMatch_find {Key : Type*} (fallback : State → Result)
    (keyed : List (Key × Rule State Result)) (state : State) :
    firstMatch fallback (keyed.map Prod.snd) state =
      ((keyed.find? fun entry ↦ entry.2.guard state).map fun entry ↦ entry.2.act state).getD
        (fallback state) := by
  induction keyed with
  | nil => rfl
  | cons entry keyed ih =>
    rw [List.map_cons, firstMatch_cons, List.find?_cons]
    cases hguard : entry.2.guard state with
    | true => rfl
    | false =>
      rw [if_neg Bool.false_ne_true]
      exact ih

/-- Assumes: the rules carry distinct keys, and only the rule under the given key may be open. Then
the chain is the chain of that rule alone. -/
theorem firstMatch_lookup {Key : Type*} [DecidableEq Key] {fallback : State → Result}
    {keyed : List (Key × Rule State Result)} {state : State} (key : Key)
    (hnodup : (keyed.map Prod.fst).Nodup)
    (hclosed : ∀ entry ∈ keyed, entry.1 ≠ key → entry.2.guard state = false) :
    firstMatch fallback (keyed.map Prod.snd) state =
      firstMatch fallback (keyed.lookup key).toList state := by
  induction keyed with
  | nil => rfl
  | cons entry keyed ih =>
    obtain ⟨other, rule⟩ := entry
    obtain ⟨hfresh, hrest⟩ := List.nodup_cons.mp hnodup
    have htail := ih hrest fun next hmem ↦ hclosed next (List.mem_cons_of_mem _ hmem)
    rw [List.map_cons, firstMatch_cons]
    by_cases hkey : other = key
    · subst hkey
      have hnone : keyed.lookup other = none := by
        rw [List.lookup_eq_none_iff]
        intro next hmem
        refine bne_iff_ne.mpr fun (heq : other = next.1) ↦ hfresh ?_
        exact List.mem_map.mpr ⟨next, hmem, heq.symm⟩
      rw [htail, hnone, List.lookup_cons_self]
      rfl
    · have hguard := hclosed (other, rule) List.mem_cons_self hkey
      rw [if_neg (by rw [hguard]; exact Bool.false_ne_true), htail, List.lookup_cons,
        beq_eq_false_iff_ne.mpr (Ne.symm hkey)]

end FirstMatch

end UsCtrl.Foundation
