import Mathlib.Data.List.Basic
import Mathlib.Tactic.Common

/-!
# Call histories and past-time properties

A deterministic machine is a start state and the effect of each call (`Machine`). A history is the
list of the calls made so far, newest first, so that the state it leaves (`Machine.after`) is a
right fold and every induction along a run is an induction on the list. `Machine.invariant` is the
rule for state invariants.

A property of the past is a predicate on histories (`Past`). `since hold trigger` says that
`trigger` held at some call of the run and that `hold` has held at every later call; `once` is its
form without `hold`, `weakSince` its form that asks for no trigger, and `always step` says that
every call of the run met `step`. A state predicate whose every rise is a trigger and whose every
step in between keeps `hold` is explained by its past (`since_of_monitor`), and a fact that a
trigger establishes and `hold` preserves is a fact of the present (`since_induction`).
`since_iff_split` spells the operator out as a decomposition of the run. Along a short list of
recent calls the operators are decided call by call (`Machine.along`).
-/

set_option autoImplicit false
set_option relaxedAutoImplicit false

namespace UsCtrl.Foundation

/-! ### Machines and the state a history leaves -/

section Machine

variable {State Call : Type*}

/-- A deterministic machine: where it starts and what each call does. -/
structure Machine (State Call : Type*) where
  start : State
  exec : Call → State → State

/-- The state left by a history, the newest call being at the head of the list. -/
def Machine.after (machine : Machine State Call) (history : List Call) : State :=
  history.foldr machine.exec machine.start

@[simp] theorem Machine.after_nil (machine : Machine State Call) :
    machine.after [] = machine.start := rfl

@[simp] theorem Machine.after_cons (machine : Machine State Call) (call : Call)
    (past : List Call) :
    machine.after (call :: past) = machine.exec call (machine.after past) := rfl

theorem Machine.after_append (machine : Machine State Call) (recent past : List Call) :
    machine.after (recent ++ past) = recent.foldr machine.exec (machine.after past) :=
  List.foldr_append

/-- Assumes: the start state satisfies `inv` and every call preserves it. Then every history
leaves a state that satisfies `inv`. -/
theorem Machine.invariant (machine : Machine State Call) (inv : State → Prop)
    (hstart : inv machine.start) (hstep : ∀ call state, inv state → inv (machine.exec call state)) :
    ∀ history, inv (machine.after history) := by
  intro history
  induction history with
  | nil => exact hstart
  | cons call past ih => exact hstep call _ ih

end Machine

/-! ### Past-time operators -/

section Past

variable {Call : Type*}

/-- A property of the calls made so far, newest first. -/
abbrev Past (Call : Type*) := List Call → Prop

/-- `trigger` held right after some call of the run, and `hold` right after every later one. -/
def since (hold trigger : Past Call) : Past Call
  | [] => False
  | call :: past => trigger (call :: past) ∨ (hold (call :: past) ∧ since hold trigger past)

/-- `trigger` held right after some call of the run. -/
def once (trigger : Past Call) : Past Call := since (fun _ ↦ True) trigger

/-- `step` held right after every call of the run. -/
def always (step : Past Call) : Past Call
  | [] => True
  | call :: past => step (call :: past) ∧ always step past

instance decidableAlways (step : Past Call) [DecidablePred step] : DecidablePred (always step)
  | [] => instDecidableTrue
  | call :: past =>
    have := decidableAlways step past
    inferInstanceAs (Decidable (step (call :: past) ∧ always step past))

@[simp] theorem since_nil (hold trigger : Past Call) : ¬ since hold trigger [] := id

theorem since_cons (hold trigger : Past Call) (call : Call) (past : List Call) :
    since hold trigger (call :: past) ↔
      trigger (call :: past) ∨ (hold (call :: past) ∧ since hold trigger past) := Iff.rfl

theorem since_now {hold trigger : Past Call} {history : List Call} (hnonempty : history ≠ [])
    (htrigger : trigger history) : since hold trigger history := by
  cases history with
  | nil => exact absurd rfl hnonempty
  | cons call past => exact Or.inl htrigger

/-- Assumes: `monitor` is false at the start, and wherever it holds the newest call is a trigger,
or keeps `hold` and found `monitor` true before it. Then `monitor` is explained by its past. -/
theorem since_of_monitor {hold trigger : Past Call} (monitor : Past Call) (hstart : ¬ monitor [])
    (hstep : ∀ call past, monitor (call :: past) →
      trigger (call :: past) ∨ (hold (call :: past) ∧ monitor past)) :
    ∀ history, monitor history → since hold trigger history := by
  intro history
  induction history with
  | nil => exact fun h ↦ absurd h hstart
  | cons call past ih =>
    intro h
    rcases hstep call past h with htrigger | ⟨hhold, hpast⟩
    · exact Or.inl htrigger
    · exact Or.inr ⟨hhold, ih hpast⟩

/-- Assumes: a trigger establishes `fact`, and a call that keeps `hold` preserves it. Then `fact`
holds wherever `since hold trigger` does. -/
theorem since_induction {hold trigger : Past Call} (fact : Past Call)
    (htrigger : ∀ call past, trigger (call :: past) → fact (call :: past))
    (hhold : ∀ call past, hold (call :: past) → fact past → fact (call :: past)) :
    ∀ history, since hold trigger history → fact history := by
  intro history
  induction history with
  | nil => exact fun h ↦ absurd h (since_nil hold trigger)
  | cons call past ih =>
    rintro (h | ⟨hcall, hpast⟩)
    · exact htrigger call past h
    · exact hhold call past hcall (ih hpast)

/-- Assumes: the trigger of one operator breaks the other, and its hold excludes the other's
trigger. Then at most one of the two holds: the call that made the one true is the later one. -/
theorem since_exclusive {hold trigger hold' trigger' : Past Call}
    (hhold : ∀ history, hold history → ¬ trigger' history)
    (htrigger : ∀ history, trigger history → ¬ hold' history ∧ ¬ trigger' history) :
    ∀ history, since hold trigger history → ¬ since hold' trigger' history := by
  intro history
  induction history with
  | nil => exact fun h ↦ absurd h (since_nil hold trigger)
  | cons call past ih =>
    rintro (h | ⟨hcall, hpast⟩) (h' | ⟨hcall', hpast'⟩)
    · exact (htrigger _ h).2 h'
    · exact (htrigger _ h).1 hcall'
    · exact hhold _ hcall h'
    · exact ih hpast hpast'

/-- Assumes: `fact` holds at the start, and a call that meets `step` preserves it. Then it holds in
every run all of whose calls meet `step`. -/
theorem always_induction {step : Past Call} (fact : Past Call) (hstart : fact [])
    (hstep : ∀ call past, step (call :: past) → always step past → fact past →
      fact (call :: past)) :
    ∀ history, always step history → fact history := by
  intro history
  induction history with
  | nil => exact fun _ ↦ hstart
  | cons call past ih => exact fun h ↦ hstep call past h.1 h.2 (ih h.2)

/-- `hold` has held since the latest trigger, or all along if there was none. -/
def weakSince (hold trigger : Past Call) : Past Call
  | [] => True
  | call :: past => trigger (call :: past) ∨ (hold (call :: past) ∧ weakSince hold trigger past)

/-- Assumes: `fact` holds at the start, a trigger establishes it, and a call that keeps `hold`
preserves it. Then `fact` holds wherever `weakSince hold trigger` does. -/
theorem weakSince_induction {hold trigger : Past Call} (fact : Past Call) (hstart : fact [])
    (htrigger : ∀ call past, trigger (call :: past) → fact (call :: past))
    (hhold : ∀ call past, hold (call :: past) → fact past → fact (call :: past)) :
    ∀ history, weakSince hold trigger history → fact history := by
  intro history
  induction history with
  | nil => exact fun _ ↦ hstart
  | cons call past ih =>
    rintro (h | ⟨hcall, hpast⟩)
    · exact htrigger call past h
    · exact hhold call past hcall (ih hpast)

/-- Assumes: `fact` holds at the start. Then what holds all along a run holds at its end. -/
theorem always_now {fact : Past Call} (hstart : fact []) :
    ∀ history, always fact history → fact history :=
  always_induction fact hstart fun _ _ hfact _ _ ↦ hfact

/-- Assumes: `fact` holds at the start, and behind a call that finds it in a run along which `given`
holds, it holds exactly if the call meets `step`. Then, in such a run, it holds all along exactly if
every call meets `step`. -/
theorem always_iff_always_given {fact step given : Past Call} (hstart : fact [])
    (hstep : ∀ call past, given (call :: past) → always given past → fact past →
      (fact (call :: past) ↔ step (call :: past))) :
    ∀ history, always given history → (always fact history ↔ always step history) := by
  have hnow := always_now hstart
  intro history
  induction history with
  | nil => exact fun _ ↦ Iff.rfl
  | cons call past ih =>
    intro hgiven
    have hiff := ih hgiven.2
    constructor
    · intro h
      exact ⟨(hstep call past hgiven.1 hgiven.2 (hnow past h.2)).mp h.1, hiff.mp h.2⟩
    · intro h
      have hpast := hiff.mpr h.2
      exact ⟨(hstep call past hgiven.1 hgiven.2 (hnow past hpast)).mpr h.1, hpast⟩

theorem always_of_forall {step : Past Call} (hstep : ∀ call past, step (call :: past)) :
    ∀ history, always step history := by
  intro history
  induction history with
  | nil => trivial
  | cons call past ih => exact ⟨hstep call past, ih⟩

/-- Assumes: `fact` holds at the start, and behind a call that finds it, it holds exactly if the
call meets `step`. Then it holds all along a run exactly if every call of the run meets `step`. -/
theorem always_iff_always {fact step : Past Call} (hstart : fact [])
    (hstep : ∀ call past, fact past → (fact (call :: past) ↔ step (call :: past))) :
    ∀ history, always fact history ↔ always step history := by
  intro history
  have htrue : always (fun _ : List Call ↦ True) history :=
    always_of_forall (fun _ _ ↦ trivial) history
  exact always_iff_always_given hstart (fun call past _ _ ↦ hstep call past) history htrue

/-- Every one of the recent calls meets a test of the call and of the state it finds, `state` being
what the run had left before them. -/
def Machine.along {State : Type*} (machine : Machine State Call) (test : Call → State → Prop) :
    List Call → State → Prop
  | [], _ => True
  | call :: recent, state =>
    test call (recent.foldr machine.exec state) ∧ machine.along test recent state

instance Machine.decidableAlong {State : Type*} (machine : Machine State Call)
    (test : Call → State → Prop) [∀ call state, Decidable (test call state)] :
    ∀ recent state, Decidable (machine.along test recent state)
  | [], _ => isTrue trivial
  | call :: recent, state =>
    have := machine.decidableAlong test recent state
    inferInstanceAs (Decidable (test call (recent.foldr machine.exec state) ∧
      machine.along test recent state))

section Along

variable {State : Type*} (machine : Machine State Call) (test : Call → State → Prop)
  {hold trigger step : Past Call} {recent base : List Call}

theorem always_append (htest : ∀ call past, test call (machine.after past) → step (call :: past))
    (halong : machine.along test recent (machine.after base)) (hbase : always step base) :
    always step (recent ++ base) := by
  induction recent with
  | nil => exact hbase
  | cons call recent ih =>
    refine ⟨htest call (recent ++ base) ?_, ih halong.2⟩
    rw [machine.after_append]
    exact halong.1

theorem since_append (htest : ∀ call past, test call (machine.after past) → hold (call :: past))
    (halong : machine.along test recent (machine.after base)) (hbase : since hold trigger base) :
    since hold trigger (recent ++ base) := by
  induction recent with
  | nil => exact hbase
  | cons call recent ih =>
    refine Or.inr ⟨htest call (recent ++ base) ?_, ih halong.2⟩
    rw [machine.after_append]
    exact halong.1

/-- Assumes: none of the recent calls is a trigger. Then the trigger lies before them. -/
theorem since_of_append
    (htest : ∀ call past, test call (machine.after past) → ¬ trigger (call :: past))
    (halong : machine.along test recent (machine.after base))
    (hsince : since hold trigger (recent ++ base)) : since hold trigger base := by
  induction recent with
  | nil => exact hsince
  | cons call recent ih =>
    refine ih halong.2 (hsince.resolve_left (htest call (recent ++ base) ?_)).2
    rw [machine.after_append]
    exact halong.1

end Along

/-- The operator spelled out: the run splits at the triggering call, and `hold` is true after each
call made since. -/
theorem since_iff_split (hold trigger : Past Call) (history : List Call) :
    since hold trigger history ↔ ∃ recent call past, history = recent ++ call :: past ∧
      trigger (call :: past) ∧
        ∀ newer middle older, recent = newer ++ middle :: older →
          hold (middle :: older ++ call :: past) := by
  induction history with
  | nil => simp
  | cons newest past ih =>
    rw [since_cons, ih]
    constructor
    · rintro (h | ⟨hhold, recent, call, older, rfl, htrigger, hall⟩)
      · exact ⟨[], newest, past, rfl, h, by simp⟩
      · refine ⟨newest :: recent, call, older, rfl, htrigger, ?_⟩
        intro newer middle rest heq
        cases newer with
        | nil =>
          obtain ⟨rfl, rfl⟩ := List.cons.inj heq
          exact hhold
        | cons first newer =>
          exact hall newer middle rest (List.cons.inj heq).2
    · rintro ⟨recent, call, older, heq, htrigger, hall⟩
      cases recent with
      | nil =>
        obtain ⟨rfl, rfl⟩ := List.cons.inj heq
        exact Or.inl htrigger
      | cons first recent =>
        obtain ⟨rfl, rfl⟩ := List.cons.inj heq
        refine Or.inr ⟨hall [] newest recent rfl, recent, call, older, rfl, htrigger, ?_⟩
        intro newer middle rest hrecent
        exact hall (newest :: newer) middle rest (by rw [hrecent]; rfl)

end Past

end UsCtrl.Foundation
