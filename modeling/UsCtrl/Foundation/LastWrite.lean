import UsCtrl.Foundation.History

/-!
# Cells that are written and lamps that follow edges

A list of writes leaves in a cell the last value that one of them puts there (`foldl_cell`).

A lamp that is written at the edges of a level, and put out by other calls in between, follows the
level only as long as nobody puts it out (`EdgeDriven`). `EdgeDriven.lit_iff` says exactly when it
is lit: since the level last rose it has stayed up and no call has put the lamp out, or the lamp was
lit at the start and neither has happened yet.
-/

set_option autoImplicit false
set_option relaxedAutoImplicit false

namespace UsCtrl.Foundation

/-! ### The last write to a cell -/

section Cells

variable {Write Value View : Type*} (sel : Write → Option Value)

/-- The last value that a list of writes puts into the cell that `sel` selects. -/
def lastWrite (writes : List Write) : Option Value := (writes.filterMap sel).getLast?

@[simp] theorem lastWrite_nil : lastWrite sel [] = none := rfl

theorem lastWrite_append (first second : List Write) :
    lastWrite sel (first ++ second) = (lastWrite sel second).or (lastWrite sel first) := by
  rw [lastWrite, List.filterMap_append, List.getLast?_append]
  rfl

@[simp] theorem lastWrite_singleton (write : Write) : lastWrite sel [write] = sel write := by
  cases hsel : sel write <;> simp [lastWrite, hsel]

theorem lastWrite_cons (write : Write) (writes : List Write) :
    lastWrite sel (write :: writes) = (lastWrite sel writes).or (sel write) := by
  rw [← List.singleton_append, lastWrite_append, lastWrite_singleton]

/-- No write of the list goes to the cell. -/
theorem lastWrite_eq_none {writes : List Write} (hnone : ∀ write ∈ writes, sel write = none) :
    lastWrite sel writes = none := by
  rw [lastWrite, List.filterMap_eq_nil_iff.mpr hnone]
  rfl

/-- Assumes: one write puts into the cell what `sel` says, or leaves it. Then so does a list. -/
theorem foldl_cell (draw : View → Write → View) (cell : View → Value)
    (hdraw : ∀ view write, cell (draw view write) = (sel write).getD (cell view))
    (writes : List Write) (view : View) :
    cell (writes.foldl draw view) = (lastWrite sel writes).getD (cell view) := by
  induction writes generalizing view with
  | nil => rfl
  | cons write writes ih =>
    rw [List.foldl_cons, ih, hdraw, lastWrite_cons]
    cases lastWrite sel writes <;> rfl

end Cells

/-! ### Lamps -/

section Lamps

variable {Call : Type*}

/-- The newest call raised the level. -/
def risesTo (level : List Call → Bool) : Past Call
  | [] => False
  | call :: past => level past = false ∧ level (call :: past) = true

/-- A lamp that is written at every edge of a level, and put out by the calls that `blank` names. No
call does both. -/
structure EdgeDriven (level lit : List Call → Bool) (blank : Past Call) : Prop where
  start : level [] = false
  edge : ∀ call past, level (call :: past) ≠ level past →
    lit (call :: past) = level (call :: past) ∧ ¬ blank (call :: past)
  blanked : ∀ call past, blank (call :: past) → lit (call :: past) = false
  quiet : ∀ call past, level (call :: past) = level past → ¬ blank (call :: past) →
    lit (call :: past) = lit past

variable {level lit : List Call → Bool} {blank : Past Call}

/-- The lamp is lit exactly if the level has risen and since then neither fallen nor been put out,
or if it was lit at the start and has not been written since. -/
theorem EdgeDriven.lit_iff (h : EdgeDriven level lit blank) (history : List Call) :
    lit history = true ↔
      since (fun past ↦ level past = true ∧ ¬ blank past) (risesTo level) history ∨
        (lit [] = true ∧ always (fun past ↦ level past = false ∧ ¬ blank past) history) := by
  -- The level is up wherever the first alternative holds, and down wherever the second does.
  have hup : ∀ past, since (fun past ↦ level past = true ∧ ¬ blank past) (risesTo level) past →
      level past = true :=
    since_induction (fun past ↦ level past = true) (fun _ _ hrise ↦ hrise.2) fun _ _ hhold _ ↦
      hhold.1
  have hdown : ∀ past, always (fun past ↦ level past = false ∧ ¬ blank past) past →
      level past = false :=
    always_induction (fun past ↦ level past = false) h.start fun _ _ hstep _ _ ↦ hstep.1
  induction history with
  | nil => simp [since, always]
  | cons call past ih =>
    by_cases hedge : level (call :: past) = level past
    · by_cases hblank : blank (call :: past)
      · -- put out, and no rise
        rw [h.blanked call past hblank]
        simp [since, always, risesTo, hblank, hedge]
      · rw [h.quiet call past hedge hblank]
        refine ih.trans ?_
        rw [since_cons]
        have hrise : ¬ risesTo level (call :: past) := fun hrise ↦
          Bool.false_ne_true (hrise.1.symm.trans (hedge.symm.trans hrise.2))
        constructor
        · rintro (hsince | ⟨hlit, hnever⟩)
          · exact Or.inl (Or.inr ⟨⟨hedge.trans (hup past hsince), hblank⟩, hsince⟩)
          · exact Or.inr ⟨hlit, ⟨hedge.trans (hdown past hnever), hblank⟩, hnever⟩
        · rintro (hsince | ⟨hlit, -, hnever⟩)
          · exact Or.inl (hsince.resolve_left hrise).2
          · exact Or.inr ⟨hlit, hnever⟩
    · obtain ⟨hwritten, hunblanked⟩ := h.edge call past hedge
      rw [hwritten]
      cases hnow : level (call :: past) with
      | true =>
        have hpast : level past = false := by
          rw [hnow] at hedge
          simpa using Ne.symm hedge
        simp only [true_iff]
        exact Or.inl (Or.inl ⟨hpast, hnow⟩)
      | false =>
        have hpast : level past = true := by
          rw [hnow] at hedge
          simpa using Ne.symm hedge
        simp only [Bool.false_eq_true, false_iff, not_or]
        constructor
        · rintro (⟨-, htrue⟩ | ⟨⟨htrue, -⟩, -⟩)
          · exact Bool.false_ne_true (hnow.symm.trans htrue)
          · exact Bool.false_ne_true (hnow.symm.trans htrue)
        · rintro ⟨-, -, hnever⟩
          rw [hdown past hnever] at hpast
          exact Bool.false_ne_true hpast

end Lamps

end UsCtrl.Foundation
