import UsCtrl.Foundation.History

/-!
# Countdowns

A register that some calls load with a full count, that others run down by one, and a lamp that each
running-down call rewrites: lit while there was something left to count (`Countdown`). The lamp
depends on the past in a simple way (`Countdown.lit_iff`): the newest running-down call came fewer
than the full count of its kind after the newest load. When such calls keep a distance on some clock
(`Spaced`), the lamp never goes out before the full count of distances has passed since it started
to burn without a break (`Countdown.lasts`), reloads in between or not.
-/

set_option autoImplicit false
set_option relaxedAutoImplicit false

namespace UsCtrl.Foundation

section Countdown

variable {Call : Type*}

/-- How many calls have run the count down since the newest load; nothing before the first load. -/
def ticksSince (loads ticks : List Call → Bool) : List Call → Option ℕ
  | [] => none
  | call :: past =>
    if loads (call :: past) then some 0
    else if ticks (call :: past) then (ticksSince loads ticks past).map (· + 1)
    else ticksSince loads ticks past

/-- A register and its lamp. No call both loads the register and runs it down. -/
structure Countdown (full : ℕ) (loads ticks : List Call → Bool) (rest : List Call → ℕ)
    (lit : List Call → Bool) : Prop where
  pos : 0 < full
  start : rest [] = 0
  dark : lit [] = false
  load : ∀ call past, loads (call :: past) = true →
    ticks (call :: past) = false ∧ rest (call :: past) = full
  tick : ∀ call past, ticks (call :: past) = true →
    rest (call :: past) = rest past - 1 ∧ lit (call :: past) = decide (0 < rest past)
  idle : ∀ call past, loads (call :: past) = false → ticks (call :: past) = false →
    rest (call :: past) = rest past
  kept : ∀ call past, ticks (call :: past) = false → lit (call :: past) = lit past

variable {full : ℕ} {loads ticks : List Call → Bool} {rest : List Call → ℕ}
  {lit : List Call → Bool}

/-- The register holds what the calls since the newest load have left of it. -/
theorem Countdown.rest_eq (h : Countdown full loads ticks rest lit) (history : List Call) :
    rest history = (ticksSince loads ticks history).elim 0 (full - ·) := by
  induction history with
  | nil => exact h.start
  | cons call past ih =>
    rw [ticksSince]
    cases hload : loads (call :: past) with
    | true =>
      rw [(h.load call past hload).2]
      rfl
    | false =>
      cases htick : ticks (call :: past) with
      | true =>
        rw [(h.tick call past htick).1, ih]
        cases ticksSince loads ticks past with
        | none => rfl
        | some count => exact Nat.sub_sub full count 1
      | false =>
        rw [h.idle call past hload htick]
        exact ih

theorem Countdown.rest_le (h : Countdown full loads ticks rest lit) (history : List Call) :
    rest history ≤ full := by
  rw [h.rest_eq]
  cases ticksSince loads ticks history with
  | none => exact Nat.zero_le full
  | some count => exact Nat.sub_le full count

theorem Countdown.rest_pos (h : Countdown full loads ticks rest lit) (history : List Call) :
    0 < rest history ↔ ∃ count < full, ticksSince loads ticks history = some count := by
  rw [h.rest_eq]
  cases ticksSince loads ticks history with
  | none => simp
  | some count =>
    constructor
    · intro hpos
      exact ⟨count, Nat.lt_of_sub_pos hpos, rfl⟩
    · rintro ⟨other, hother, hsome⟩
      obtain rfl := Option.some.inj hsome
      exact Nat.sub_pos_of_lt hother

/-- The newest call runs the count down and finds some of it left. -/
def ticksBefore (full : ℕ) (loads ticks : List Call → Bool) : Past Call
  | [] => False
  | call :: past => ticks (call :: past) = true ∧
      ∃ count < full, ticksSince loads ticks past = some count

/-- The lamp burns exactly if the newest call to run the count down came less than the full count
after the newest load. -/
theorem Countdown.lit_iff (h : Countdown full loads ticks rest lit) (history : List Call) :
    lit history = true ↔
      since (fun past ↦ ticks past = false) (ticksBefore full loads ticks) history := by
  induction history with
  | nil => simp [h.dark]
  | cons call past ih =>
    rw [since_cons, ticksBefore]
    cases htick : ticks (call :: past) with
    | true =>
      rw [(h.tick call past htick).2, decide_eq_true_iff, h.rest_pos]
      simp
    | false =>
      rw [h.kept call past htick, ih]
      simp

/-- Assumes: a load, and nothing has run the count down since. Then all of the count is there. -/
theorem ticksSince_fresh (history : List Call)
    (h : since (fun past ↦ ticks past = false) (fun past ↦ loads past = true) history) :
    ticksSince loads ticks history = some 0 := by
  refine since_induction (fun past ↦ ticksSince loads ticks past = some 0) ?_ ?_ history h
  · intro call past hload
    rw [ticksSince, if_pos hload]
  · intro call past htick hfresh
    rw [ticksSince, htick, hfresh, if_neg Bool.false_ne_true, ite_self]

/-- Assumes: a load, and nothing has run the count down since. The first call to do so lights the
lamp. -/
theorem Countdown.lights (h : Countdown full loads ticks rest lit) {call : Call}
    {past : List Call} (htick : ticks (call :: past) = true)
    (hloaded : since (fun past ↦ ticks past = false) (fun past ↦ loads past = true) past) :
    lit (call :: past) = true :=
  (h.lit_iff _).mpr (Or.inl ⟨htick, 0, h.pos, ticksSince_fresh past hloaded⟩)

/-! ### How long the lamp burns -/

/-- The newest call moves the clock `stamp` only if it runs the count down, and while the lamp burns
it then moves it by at least `step`. -/
def spaced (step : ℕ) (ticks lit : List Call → Bool) (stamp : List Call → ℕ) : Past Call
  | [] => True
  | call :: past =>
    (ticks (call :: past) = true → lit past = true → stamp past + step ≤ stamp (call :: past)) ∧
      (ticks (call :: past) = false → stamp (call :: past) = stamp past)

/-- The lamp has burnt without a break since a running-down call that the clock puts at `origin` or
before. -/
def burnsFrom (ticks lit : List Call → Bool) (stamp : List Call → ℕ) (origin : ℕ) : Past Call :=
  since (fun past ↦ lit past = true) fun past ↦
    ticks past = true ∧ lit past = true ∧ stamp past ≤ origin

variable {step : ℕ} {stamp : List Call → ℕ}

/-- A count that is partly gone has lit the lamp. -/
theorem Countdown.lit_of_part (h : Countdown full loads ticks rest lit) (history : List Call)
    (hleft : 0 < rest history) (hpart : rest history < full) : lit history = true := by
  induction history with
  | nil => exact absurd hleft (by simp [h.start])
  | cons call past ih =>
    cases htick : ticks (call :: past) with
    | true =>
      obtain ⟨hrest, hfound⟩ := h.tick call past htick
      rw [hfound, decide_eq_true_iff]
      omega
    | false =>
      rw [h.kept call past htick]
      cases hload : loads (call :: past) with
      | true =>
        rw [(h.load call past hload).2] at hpart
        exact absurd hpart (Nat.lt_irrefl full)
      | false =>
        rw [h.idle call past hload htick] at hleft hpart
        exact ih hleft hpart

/-- Assumes: the running-down calls are spaced, and the lamp burns with a part of the count gone. It
has then burnt for as many distances as are gone but one. -/
theorem Countdown.burns (h : Countdown full loads ticks rest lit) (history : List Call)
    (hspaced : always (spaced step ticks lit stamp) history) (hlit : lit history = true)
    (hpart : rest history < full) :
    ∃ origin, burnsFrom ticks lit stamp origin history ∧
      origin + step * (full - 1 - rest history) ≤ stamp history := by
  induction history with
  | nil => exact absurd hlit (by simp [h.dark])
  | cons call past ih =>
    obtain ⟨hnow, hpast⟩ := hspaced
    cases htick : ticks (call :: past) with
    | false =>
      have hload : loads (call :: past) = false := by
        cases hload : loads (call :: past) with
        | false => rfl
        | true =>
          rw [(h.load call past hload).2] at hpart
          exact absurd hpart (Nat.lt_irrefl full)
      have hrest := h.idle call past hload htick
      have hkept := h.kept call past htick
      rw [hrest] at hpart ⊢
      rw [hkept] at hlit
      obtain ⟨origin, hburns, hlong⟩ := ih hpast hlit hpart
      rw [hnow.2 htick]
      exact ⟨origin, Or.inr ⟨hkept.trans hlit, hburns⟩, hlong⟩
    | true =>
      obtain ⟨hrest, hfound⟩ := h.tick call past htick
      rw [hlit, eq_comm, decide_eq_true_iff] at hfound
      rw [hrest] at hpart ⊢
      have hfull := h.rest_le past
      rcases Nat.lt_or_eq_of_le hfull with hgone | hfresh
      · -- a part was gone already: the lamp has been burning
        have hburning := h.lit_of_part past (by omega) hgone
        obtain ⟨origin, hburns, hlong⟩ := ih hpast hburning hgone
        have hstep := hnow.1 htick hburning
        refine ⟨origin, Or.inr ⟨hlit, hburns⟩, ?_⟩
        have hcount : full - 1 - (rest past - 1) = full - 1 - rest past + 1 := by omega
        rw [hcount, Nat.mul_add, Nat.mul_one]
        omega
      · -- the first call to run the full count down
        refine ⟨stamp (call :: past), Or.inl ⟨htick, hlit, Nat.le_refl _⟩, ?_⟩
        exact Nat.le_of_eq (by rw [hfresh, Nat.sub_self, Nat.mul_zero, Nat.add_zero])

/-- Assumes: the running-down calls are spaced, and the newest call puts the lamp out. The lamp has
burnt without a break for the full count of distances. -/
theorem Countdown.lasts (h : Countdown full loads ticks rest lit) {call : Call} {past : List Call}
    (hspaced : always (spaced step ticks lit stamp) (call :: past)) (hlit : lit past = true)
    (hout : lit (call :: past) = false) :
    ∃ origin, burnsFrom ticks lit stamp origin past ∧
      origin + step * full ≤ stamp (call :: past) := by
  obtain ⟨hnow, hpast⟩ := hspaced
  have htick : ticks (call :: past) = true := by
    cases htick : ticks (call :: past) with
    | true => rfl
    | false => exact absurd (hout.symm.trans ((h.kept call past htick).trans hlit)) (by decide)
  have hover : rest past = 0 := by
    have hfound := (h.tick call past htick).2
    rw [hout, eq_comm, decide_eq_false_iff_not] at hfound
    exact Nat.eq_zero_of_not_pos hfound
  have hcount := h.pos
  obtain ⟨origin, hburns, hlong⟩ := h.burns past hpast hlit (hover ▸ hcount)
  have hstep := hnow.1 htick hlit
  have hsplit : step * full = step * (full - 1 - rest past) + step := by
    rw [hover, ← Nat.mul_succ]
    congr 1
    omega
  exact ⟨origin, hburns, by omega⟩

end Countdown

end UsCtrl.Foundation
