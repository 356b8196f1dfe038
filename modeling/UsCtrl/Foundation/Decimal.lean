import Mathlib.Data.List.Basic
import Mathlib.Tactic.Common

/-!
# Decimal texts

Texts as lists of character codes. `decimalValue` is the number that digits stand for, and
`parseDecimal` reads a text as a number, if it is one.

`CutText` takes a text apart at a separator: the parts that a separator closes, and the open part
behind the last one. Its rules say what appending a character or dropping the last one does to the
parts; by `CutText.splits` they are the parts that `List.splitOn` finds.
-/

set_option autoImplicit false
set_option relaxedAutoImplicit false

namespace UsCtrl.Foundation

/-! ### Numbers -/

/-- The code of a decimal digit. -/
def DecimalChar (char : ℕ) : Prop := 48 ≤ char ∧ char ≤ 57

instance (char : ℕ) : Decidable (DecimalChar char) :=
  inferInstanceAs (Decidable (48 ≤ char ∧ char ≤ 57))

theorem decimalChar_digit {digit : ℕ} (hdigit : digit ≤ 9) : DecimalChar (digit + 48) :=
  ⟨by omega, by omega⟩

/-- The number that a text of digits stands for. -/
def decimalValue (text : List ℕ) : ℕ := text.foldl (fun value char ↦ value * 10 + (char - 48)) 0

@[simp] theorem decimalValue_nil : decimalValue [] = 0 := rfl

theorem decimalValue_snoc (text : List ℕ) (char : ℕ) :
    decimalValue (text ++ [char]) = decimalValue text * 10 + (char - 48) := by
  rw [decimalValue, List.foldl_append]
  rfl

/-- Without its last digit a text stands for a tenth. -/
theorem decimalValue_dropLast {text : List ℕ} (hdigits : ∀ char ∈ text, DecimalChar char) :
    decimalValue text.dropLast = decimalValue text / 10 := by
  rcases List.eq_nil_or_concat text with hempty | ⟨init, last, hlast⟩
  · rw [hempty]
    rfl
  · have hdigit : DecimalChar last := by
      refine hdigits last ?_
      rw [hlast, List.concat_eq_append]
      exact List.mem_append_right init List.mem_cons_self
    rw [hlast, List.concat_eq_append, List.dropLast_concat, decimalValue_snoc]
    have hbound := hdigit.2
    omega

/-- The number that a text denotes: one digit or more, and nothing else. -/
def parseDecimal (text : List ℕ) : Option ℕ :=
  if text ≠ [] ∧ ∀ char ∈ text, DecimalChar char then some (decimalValue text) else none

theorem parseDecimal_digits {text : List ℕ} (hfilled : text ≠ [])
    (hdigits : ∀ char ∈ text, DecimalChar char) : parseDecimal text = some (decimalValue text) :=
  if_pos ⟨hfilled, hdigits⟩

theorem parseDecimal_eq_some {text : List ℕ} {value : ℕ} (hparse : parseDecimal text = some value) :
    text ≠ [] ∧ decimalValue text = value := by
  unfold parseDecimal at hparse
  split_ifs at hparse with hdigits
  exact ⟨hdigits.1, Option.some.inj hparse⟩

@[simp] theorem parseDecimal_nil : parseDecimal [] = none := rfl

/-! ### Parts of a text -/

section Cut

variable {α : Type} {sep : α} {text : List α} {closed : List (List α)} {part : List α}

/-- The text is `closed`, each part with the separator behind it, and the open part. -/
structure CutText (sep : α) (text : List α) (closed : List (List α)) (part : List α) : Prop where
  text : text = closed.flatMap (fun done ↦ done ++ [sep]) ++ part
  clean : ∀ done ∈ closed, sep ∉ done
  part_clean : sep ∉ part

/-- The parts are those that splitting at the separator gives. -/
theorem CutText.splits [BEq α] [LawfulBEq α] (hcut : CutText sep text closed part) :
    text.splitOn sep = closed ++ [part] := by
  rw [hcut.text]
  have hclean := hcut.clean
  have hpart := hcut.part_clean
  clear hcut
  induction closed with
  | nil => exact List.splitOn_eq_singleton hpart
  | cons done closed ih =>
    rw [List.flatMap_cons, List.append_assoc, List.append_assoc, List.singleton_append,
      List.splitOn_append_cons_self_of_not_mem (hclean done List.mem_cons_self),
      ih fun other hmem ↦ hclean other (List.mem_cons_of_mem done hmem), List.cons_append]

/-- A character goes into the open part. -/
theorem CutText.char (hcut : CutText sep text closed part) {char : α} (hchar : char ≠ sep) :
    CutText sep (text ++ [char]) closed (part ++ [char]) where
  text := by rw [hcut.text, List.append_assoc]
  clean := hcut.clean
  part_clean := by
    rw [List.mem_append, List.mem_singleton, not_or]
    exact ⟨hcut.part_clean, hchar.symm⟩

/-- The separator closes the open part. -/
theorem CutText.close (hcut : CutText sep text closed part) :
    CutText sep (text ++ [sep]) (closed ++ [part]) [] where
  text := by
    rw [hcut.text, List.flatMap_append, List.flatMap_singleton, List.append_nil,
      List.append_assoc]
  clean := by
    intro done hmem
    rcases List.mem_append.mp hmem with hold | hnew
    · exact hcut.clean done hold
    · rw [List.mem_singleton.mp hnew]
      exact hcut.part_clean
  part_clean := List.not_mem_nil

/-- The last character of a text is that of its open part, and dropping it takes it from there. -/
theorem CutText.last (hcut : CutText sep text closed part) (hfilled : part ≠ []) :
    text.getLast? = part.getLast? ∧ CutText sep text.dropLast closed part.dropLast := by
  refine ⟨?_, ?_, hcut.clean, fun hmem ↦ hcut.part_clean (List.dropLast_subset part hmem)⟩
  · rw [hcut.text, List.getLast?_append_of_ne_nil _ hfilled]
  · rw [hcut.text, List.dropLast_append_of_ne_nil hfilled]

/-- Behind an empty open part stands a separator, and dropping it opens the part before. -/
theorem CutText.reopen {done : List α} (hcut : CutText sep text (closed ++ [done]) []) :
    text.getLast? = some sep ∧ CutText sep text.dropLast closed done := by
  have htext : text = closed.flatMap (fun done ↦ done ++ [sep]) ++ done ++ [sep] := by
    rw [hcut.text, List.flatMap_append, List.flatMap_singleton, List.append_nil,
      List.append_assoc]
  refine ⟨by rw [htext, List.getLast?_append]; rfl, ?_, ?_, ?_⟩
  · rw [htext, List.dropLast_concat]
  · exact fun other hmem ↦ hcut.clean other (List.mem_append_left [done] hmem)
  · exact hcut.clean done (List.mem_append_right closed List.mem_cons_self)

end Cut

/-! ### Texts of a store -/

/-- The characters before the terminating NUL. -/
def cString (text : List ℕ) : List ℕ := text.takeWhile (· ≠ 0)

theorem cString_terminated {text : List ℕ} (hclean : ∀ char ∈ text, char ≠ 0) :
    cString (text ++ [0]) = text := by
  unfold cString
  rw [List.takeWhile_append_of_pos (fun char hmem ↦ decide_eq_true (hclean char hmem))]
  exact List.append_nil text

/-- The number of hundredths that a text denotes: a number, a point and two digits. -/
def parseHundredths (text : List ℕ) : Option ℕ :=
  match text.splitOn 46 with
  | [whole, cents] =>
    if cents.length = 2 then
      (parseDecimal whole).bind fun ones ↦
        (parseDecimal cents).map fun hundredths ↦ ones * 100 + hundredths
    else none
  | _ => none

/-- Assumes: one digit or more in front of the point, two behind it. -/
theorem parseHundredths_digits {whole : List ℕ} {tens ones : ℕ} (hfilled : whole ≠ [])
    (hwhole : ∀ char ∈ whole, DecimalChar char) (htens : tens ≤ 9) (hones : ones ≤ 9) :
    parseHundredths (whole ++ 46 :: [tens + 48, ones + 48]) =
      some (decimalValue whole * 100 + (tens * 10 + ones)) := by
  have hpoint {text : List ℕ} (hdigits : ∀ char ∈ text, DecimalChar char) : 46 ∉ text :=
    fun hmem ↦ absurd (hdigits 46 hmem) (by decide)
  have hcents : ∀ char ∈ [tens + 48, ones + 48], DecimalChar char := by
    intro char hmem
    rcases List.mem_pair.mp hmem with rfl | rfl
    · exact decimalChar_digit htens
    · exact decimalChar_digit hones
  have hsplit : (whole ++ 46 :: [tens + 48, ones + 48]).splitOn 46 =
      [whole, [tens + 48, ones + 48]] := by
    rw [List.splitOn_append_cons_self_of_not_mem (hpoint hwhole),
      List.splitOn_eq_singleton (hpoint hcents)]
  have hvalue : decimalValue [tens + 48, ones + 48] = tens * 10 + ones := by
    rw [decimalValue, List.foldl_cons, List.foldl_cons, List.foldl_nil]
    omega
  rw [parseHundredths, hsplit]
  simp only [List.length_cons, List.length_nil, Nat.zero_add, Nat.reduceAdd, if_true]
  rw [parseDecimal_digits hfilled hwhole, parseDecimal_digits (List.cons_ne_nil _ _) hcents, hvalue]
  rfl

end UsCtrl.Foundation
