import UsCtrl.AddressBytes
import UsCtrl.Foundation.Decimal

/-!
# Entry of an address

`handle_ether_key` edits an address twice over: the text that the panel shows, and the octets with
the number under the cursor, which ENTER commits. `EntryShows` says when the two agree, and
`entry_key` which keys keep them so (`KeepsEntry`).

`enter_commits` is the result: in every run in which a field has been selected and only digits, dots
and backspaces that keep the entry have come since, an ENTER commits the address shown. The keys
that do not keep it are the selection of a field other than IP whose last octet is not that of IP, a
digit at the end of a full text, and a backspace in an octet that was clamped or would be left with
zeroes only.
-/

set_option autoImplicit false
set_option relaxedAutoImplicit false

namespace UsCtrl

open Foundation

/-! ### The text and the octets -/

/-- The address that a text denotes, if it is a complete dotted quad of octets. -/
def dottedQuad (text : List ℕ) : Option Octets :=
  match (text.splitOn etherDot).map parseDecimal with
  | [some o0, some o1, some o2, some o3] =>
    if o0 ≤ 255 ∧ o1 ≤ 255 ∧ o2 ≤ 255 ∧ o3 ≤ 255 then some ⟨o0, o1, o2, o3⟩ else none
  | _ => none

/-- What has been typed behind the last dot. -/
def openPart (text : List ℕ) : List ℕ := (text.splitOn etherDot).getLastD []

/-- The text consists of the closed octets and the open one, in digits. -/
structure EntryText (text : List ℕ) (closed : List (List ℕ)) (part : List ℕ) : Prop where
  cut : CutText etherDot text closed part
  closed_digits : ∀ done ∈ closed, ∀ char ∈ done, DecimalChar char
  digits : ∀ char ∈ part, DecimalChar char

theorem EntryText.openPart {text : List ℕ} {closed : List (List ℕ)} {part : List ℕ}
    (htext : EntryText text closed part) : openPart text = part := by
  rw [UsCtrl.openPart, htext.cut.splits, List.getLastD_concat]

/-- The octets and the number under the cursor are those of the text, cut to 255. A full text that
ends in a dot does not show the number any more. -/
structure EntryShows (lcd : LcdState) (closed : List (List ℕ)) (part : List ℕ) : Prop where
  text : EntryText lcd.etherInput closed part
  octet : lcd.etherCurrentOctet = closed.length
  three : closed.length ≤ 3
  kept : ∀ (index : ℕ) (done : List ℕ), closed[index]? = some done →
    done ≠ [] ∧ lcd.etherTempIp.get index = min 255 (decimalValue done)
  typed : part ≠ [] →
    lcd.etherHasInput = true ∧ lcd.etherCurrentNumber = min 255 (decimalValue part)
  fresh : part = [] → lcd.etherInput.length < 15 →
    lcd.etherHasInput = false ∧ lcd.etherCurrentNumber = 0

/-- The cursor is ahead of the text, which lacks a dot since there was no room for it. -/
structure EntryAhead (lcd : LcdState) (closed : List (List ℕ)) (part : List ℕ) : Prop where
  text : EntryText lcd.etherInput closed part
  ahead : closed.length < lcd.etherCurrentOctet
  three : lcd.etherCurrentOctet ≤ 3

/-- The entry shows what ENTER will commit, or has no room to become a dotted quad. -/
def EntryKept (lcd : LcdState) : Prop :=
  ∃ closed part, EntryShows lcd closed part ∨ EntryAhead lcd closed part

/-! ### Keys -/

section Keys

variable {lcd : LcdState} {closed : List (List ℕ)} {part : List ℕ}

theorem EntryText.digit {text : List ℕ} (htext : EntryText text closed part) {key : ℕ}
    (hkey : key ≤ 9) : EntryText (text ++ [key + 48]) closed (part ++ [key + 48]) where
  cut := htext.cut.char (by unfold etherDot; omega)
  closed_digits := htext.closed_digits
  digits := by
    intro char hmem
    rcases List.mem_append.mp hmem with hold | hnew
    · exact htext.digits char hold
    · rw [List.mem_singleton.mp hnew]
      exact decimalChar_digit hkey

theorem EntryText.dot {text : List ℕ} (htext : EntryText text closed part) :
    EntryText (text ++ [etherDot]) (closed ++ [part]) [] where
  cut := htext.cut.close
  closed_digits := by
    intro done hmem
    rcases List.mem_append.mp hmem with hold | hnew
    · exact htext.closed_digits done hold
    · rw [List.mem_singleton.mp hnew]
      exact htext.digits
  digits := fun _ hmem ↦ absurd hmem List.not_mem_nil

/-- The keys that keep text and octets alike: a digit at the end of a full text is to leave the
number as it is or to stand behind a dot, and a backspace in an octet is to take its only digit, or
to find a number from 10 to 259 typed. -/
def KeepsEntry (key : ℕ) (lcd : LcdState) : Prop :=
  (key ≤ 9 → 15 ≤ lcd.etherInput.length → openPart lcd.etherInput = [] ∨
    min 255 (lcd.etherCurrentNumber * 10 + key) = lcd.etherCurrentNumber) ∧
  (key = 0x42 → openPart lcd.etherInput ≠ [] → (openPart lcd.etherInput).length = 1 ∨
    (10 ≤ decimalValue (openPart lcd.etherInput) ∧ decimalValue (openPart lcd.etherInput) ≤ 259))

instance (key : ℕ) (lcd : LcdState) : Decidable (KeepsEntry key lcd) :=
  inferInstanceAs (Decidable (_ ∧ _))

/-- A digit. -/
theorem EntryShows.digit (hshows : EntryShows lcd closed part) {key : ℕ} (hkey : key ≤ 9)
    (hkeeps : KeepsEntry key lcd) : EntryKept (etherDigit key lcd) := by
  have hnumber : lcd.etherInput.length < 15 ∨ part ≠ [] →
      lcd.etherCurrentNumber = min 255 (decimalValue part) := by
    rintro (hroom | hfilled)
    · by_cases hempty : part = []
      · rw [(hshows.fresh hempty hroom).2, hempty]
        rfl
      · exact (hshows.typed hempty).2
    · exact (hshows.typed hfilled).2
  by_cases hroom : lcd.etherInput.length < 15
  · have hinput : (etherDigit key lcd).etherInput = lcd.etherInput ++ [key + 48] := if_pos hroom
    refine ⟨closed, part ++ [key + 48],
      Or.inl ⟨?_, hshows.octet, hshows.three, hshows.kept, ?_, ?_⟩⟩
    · rw [hinput]
      exact hshows.text.digit hkey
    · intro _
      refine ⟨rfl, ?_⟩
      have hold := hnumber (Or.inl hroom)
      rw [decimalValue_snoc]
      dsimp only [etherDigit]
      split_ifs <;> omega
    · intro hempty
      exact absurd hempty (List.append_ne_nil_of_right_ne_nil part (List.cons_ne_nil _ _))
  · have hinput : (etherDigit key lcd).etherInput = lcd.etherInput := if_neg hroom
    refine ⟨closed, part, Or.inl ⟨?_, hshows.octet, hshows.three, hshows.kept, ?_, ?_⟩⟩
    · rw [hinput]
      exact hshows.text
    · intro hfilled
      refine ⟨rfl, ?_⟩
      have hold := hnumber (Or.inr hfilled)
      have hstays := hkeeps.1 hkey (not_lt.mp hroom)
      rw [hshows.text.openPart] at hstays
      have hsame := hstays.resolve_left hfilled
      dsimp only [etherDigit]
      split_ifs <;> omega
    · intro _ hshort
      rw [hinput] at hshort
      exact absurd hshort hroom

theorem EntryAhead.digit (hahead : EntryAhead lcd closed part) {key : ℕ} (hkey : key ≤ 9) :
    EntryKept (etherDigit key lcd) := by
  by_cases hroom : lcd.etherInput.length < 15
  · have hinput : (etherDigit key lcd).etherInput = lcd.etherInput ++ [key + 48] := if_pos hroom
    refine ⟨closed, part ++ [key + 48], Or.inr ⟨?_, hahead.ahead, hahead.three⟩⟩
    rw [hinput]
    exact hahead.text.digit hkey
  · have hinput : (etherDigit key lcd).etherInput = lcd.etherInput := if_neg hroom
    refine ⟨closed, part, Or.inr ⟨?_, hahead.ahead, hahead.three⟩⟩
    rw [hinput]
    exact hahead.text

/-- A dot closes the octet; without room for it the cursor gets ahead of the text. -/
theorem EntryShows.dot (hshows : EntryShows lcd closed part) : EntryKept (etherNextOctet lcd) := by
  unfold etherNextOctet
  by_cases hnext : lcd.etherHasInput ∧ lcd.etherCurrentOctet < 3
  · rw [if_pos hnext]
    by_cases hroom : lcd.etherInput.length < 15
    · have hfilled : part ≠ [] := by
        intro hempty
        rw [(hshows.fresh hempty hroom).1] at hnext
        exact Bool.false_ne_true hnext.1
      refine ⟨closed ++ [part], [], Or.inl ⟨?_, ?_, ?_, ?_, fun hempty ↦ absurd rfl hempty,
        fun _ _ ↦ ⟨rfl, rfl⟩⟩⟩
      · dsimp only
        rw [if_pos hroom]
        exact hshows.text.dot
      · dsimp only
        rw [hshows.octet, List.length_append, List.length_singleton]
      · have hoctet := hshows.octet
        rw [List.length_append, List.length_singleton]
        omega
      · intro index done hdone
        dsimp only
        rcases Nat.lt_or_ge index closed.length with hold | hnew
        · rw [List.getElem?_append_left hold] at hdone
          have hkept := hshows.kept index done hdone
          have hother : index ≠ lcd.etherCurrentOctet := by
            rw [hshows.octet]
            exact hold.ne
          rw [Octets.get_set _ (by omega) (hold.le.trans hshows.three), if_neg hother]
          exact hkept
        · obtain ⟨hlast, hdone⟩ : index = closed.length ∧ part = done := by
            rw [List.getElem?_append_right hnew, List.getElem?_singleton] at hdone
            split_ifs at hdone with hfirst
            exact ⟨by omega, Option.some.inj hdone⟩
          have hnumber := (hshows.typed hfilled).2
          rw [Octets.get_set _ (by omega) (hlast.trans_le hshows.three), if_pos (by
            rw [hlast, hshows.octet]), hnumber, ← hdone]
          exact ⟨hfilled, Nat.mod_eq_of_lt (by omega)⟩
    · refine ⟨closed, part, Or.inr ⟨?_, ?_, hnext.2⟩⟩
      · dsimp only
        rw [if_neg hroom]
        exact hshows.text
      · dsimp only
        rw [hshows.octet]
        exact Nat.lt_succ_self _
  · rw [if_neg hnext]
    exact ⟨closed, part, Or.inl hshows⟩

theorem EntryAhead.dot (hahead : EntryAhead lcd closed part) : EntryKept (etherNextOctet lcd) := by
  unfold etherNextOctet
  by_cases hnext : lcd.etherHasInput ∧ lcd.etherCurrentOctet < 3
  · rw [if_pos hnext]
    by_cases hroom : lcd.etherInput.length < 15
    · refine ⟨closed ++ [part], [], Or.inr ⟨?_, ?_, hnext.2⟩⟩
      · dsimp only
        rw [if_pos hroom]
        exact hahead.text.dot
      · dsimp only
        rw [List.length_append, List.length_singleton]
        exact Nat.succ_lt_succ hahead.ahead
    · refine ⟨closed, part, Or.inr ⟨?_, hahead.ahead.trans (Nat.lt_succ_self _), hnext.2⟩⟩
      dsimp only
      rw [if_neg hroom]
      exact hahead.text
  · rw [if_neg hnext]
    exact ⟨closed, part, Or.inr hahead⟩

theorem EntryText.back {text : List ℕ} (htext : EntryText text closed part) (hfilled : part ≠ []) :
    (∃ last, text.getLast? = some last ∧ last ≠ etherDot) ∧
      EntryText text.dropLast closed part.dropLast := by
  have hlast := htext.cut.last hfilled
  refine ⟨⟨part.getLast hfilled, ?_, ?_⟩, hlast.2, htext.closed_digits, ?_⟩
  · rw [hlast.1, List.getLast?_eq_some_getLast hfilled]
  · intro hdot
    exact htext.cut.part_clean (hdot ▸ List.getLast_mem hfilled)
  · exact fun char hmem ↦ htext.digits char (List.dropLast_subset part hmem)

theorem EntryText.reopen {text done : List ℕ} (htext : EntryText text (closed ++ [done]) []) :
    text.getLast? = some etherDot ∧ EntryText text.dropLast closed done := by
  have hcut := htext.cut.reopen
  exact ⟨hcut.1, hcut.2, fun other hmem ↦ htext.closed_digits other
    (List.mem_append_left [done] hmem), htext.closed_digits done
    (List.mem_append_right closed List.mem_cons_self)⟩

/-- Where nothing has been typed a backspace finds nothing. -/
theorem EntryText.empty {text : List ℕ} (htext : EntryText text [] []) : text.getLast? = none := by
  rw [htext.cut.text]
  rfl

theorem backspace_digit (htext : EntryText lcd.etherInput closed part) (hfilled : part ≠ []) :
    etherBackspace lcd = { lcd with
      etherCurrentNumber := lcd.etherCurrentNumber / 10
      etherHasInput := decide (lcd.etherCurrentNumber / 10 > 0)
      etherInput := lcd.etherInput.dropLast } := by
  obtain ⟨⟨last, hlast, hdigit⟩, -⟩ := htext.back hfilled
  unfold etherBackspace
  rw [hlast]
  dsimp only
  rw [if_neg hdigit]

theorem backspace_dot {done : List ℕ} (htext : EntryText lcd.etherInput (closed ++ [done]) [])
    (hoctet : 0 < lcd.etherCurrentOctet) : etherBackspace lcd = { lcd with
      etherCurrentOctet := lcd.etherCurrentOctet - 1
      etherCurrentNumber := lcd.etherTempIp.get (lcd.etherCurrentOctet - 1)
      etherHasInput := true
      etherInput := lcd.etherInput.dropLast } := by
  unfold etherBackspace
  rw [htext.reopen.1]
  dsimp only
  rw [if_pos rfl, if_pos hoctet]

theorem backspace_empty (htext : EntryText lcd.etherInput [] []) : etherBackspace lcd = lcd := by
  unfold etherBackspace
  rw [htext.empty]

/-- A backspace takes a digit of the open octet, or opens the octet before. -/
theorem EntryShows.back (hshows : EntryShows lcd closed part) (hkeeps : KeepsEntry 0x42 lcd) :
    EntryKept (etherBackspace lcd) := by
  by_cases hfilled : part = []
  · subst hfilled
    rcases List.eq_nil_or_concat closed with hnone | ⟨init, done, hclosed⟩
    · subst hnone
      rw [backspace_empty hshows.text]
      exact ⟨[], [], Or.inl hshows⟩
    · rw [List.concat_eq_append] at hclosed
      subst hclosed
      have hoctet : lcd.etherCurrentOctet = init.length + 1 := by
        rw [hshows.octet, List.length_append, List.length_singleton]
      have hdone := hshows.kept init.length done (by
        rw [List.getElem?_append_right le_rfl, Nat.sub_self]
        rfl)
      rw [backspace_dot hshows.text (hoctet ▸ Nat.succ_pos _), hoctet, Nat.add_sub_cancel]
      refine ⟨init, done, Or.inl ⟨hshows.text.reopen.2, rfl, ?_, ?_, fun _ ↦ ⟨rfl, hdone.2⟩,
        fun hempty ↦ absurd hempty hdone.1⟩⟩
      · have hthree := hshows.three
        rw [List.length_append, List.length_singleton] at hthree
        exact (Nat.le_succ _).trans hthree
      · intro index other hother
        refine hshows.kept index other ?_
        rw [List.getElem?_append_left (List.getElem?_eq_some_iff.mp hother).1]
        exact hother
  · have htext := (hshows.text.back hfilled).2
    obtain ⟨-, hnumber⟩ := hshows.typed hfilled
    have hvalue := decimalValue_dropLast hshows.text.digits
    have hrange := hkeeps.2 rfl
    rw [hshows.text.openPart] at hrange
    rw [backspace_digit hshows.text hfilled]
    refine ⟨closed, part.dropLast, Or.inl ⟨htext, hshows.octet, hshows.three, hshows.kept, ?_, ?_⟩⟩
    · intro hrest
      have htwo : part.length ≠ 1 := by
        intro hone
        refine hrest (List.length_eq_zero_iff.mp ?_)
        rw [List.length_dropLast, hone]
      obtain ⟨hlow, hhigh⟩ := (hrange hfilled).resolve_left htwo
      dsimp only
      rw [hvalue, decide_eq_true_iff]
      omega
    · intro hrest _
      have hzero : decimalValue part / 10 = 0 := by
        rw [← hvalue, hrest]
        rfl
      have hnone : lcd.etherCurrentNumber / 10 = 0 := by omega
      dsimp only
      rw [hnone]
      exact ⟨rfl, rfl⟩

theorem EntryAhead.back (hahead : EntryAhead lcd closed part) :
    EntryKept (etherBackspace lcd) := by
  by_cases hfilled : part = []
  · subst hfilled
    rcases List.eq_nil_or_concat closed with hnone | ⟨init, done, hclosed⟩
    · subst hnone
      rw [backspace_empty hahead.text]
      exact ⟨[], [], Or.inr hahead⟩
    · rw [List.concat_eq_append] at hclosed
      subst hclosed
      have hover := hahead.ahead
      have hthree := hahead.three
      rw [List.length_append, List.length_singleton] at hover
      rw [backspace_dot hahead.text (by omega)]
      exact ⟨init, done, Or.inr ⟨hahead.text.reopen.2, by dsimp only; omega, by dsimp only; omega⟩⟩
  · rw [backspace_digit hahead.text hfilled]
    exact ⟨closed, part.dropLast, Or.inr ⟨(hahead.text.back hfilled).2, hahead.ahead,
      hahead.three⟩⟩

/-- The digits, the dot and the backspace that keep the entry keep it. -/
theorem entry_key {key : ℕ} (htypes : key ≤ 9 ∨ key = 0x44 ∨ key = 0x42)
    (hkeeps : KeepsEntry key lcd) (hkept : EntryKept lcd) :
    EntryKept (if key ≤ 9 then etherDigit key lcd else if key = 0x44 then etherNextOctet lcd
      else etherBackspace lcd) := by
  obtain ⟨closed, part, hentry⟩ := hkept
  split_ifs with hdigit hdot
  · exact hentry.elim (fun h ↦ h.digit hdigit hkeeps) fun h ↦ h.digit hdigit
  · exact hentry.elim EntryShows.dot EntryAhead.dot
  · have hback : key = 0x42 := (htypes.resolve_left hdigit).resolve_left hdot
    rw [hback] at hkeeps
    exact hentry.elim (fun h ↦ h.back hkeeps) EntryAhead.back

theorem EntryText.unique {text : List ℕ} (htext : EntryText text closed part)
    {closed' : List (List ℕ)} {part' : List ℕ} (htext' : EntryText text closed' part') :
    closed' = closed ∧ part' = part := by
  have hparts : closed' ++ [part'] = closed ++ [part] :=
    htext'.cut.splits.symm.trans htext.cut.splits
  exact List.append_singleton_inj.mp hparts

/-- An entry that is kept shows the octets, unless the cursor is ahead of the text. -/
theorem EntryKept.shows (hkept : EntryKept lcd) (htext : EntryText lcd.etherInput closed part)
    (hoctet : lcd.etherCurrentOctet = closed.length) : EntryShows lcd closed part := by
  obtain ⟨closed', part', hentry⟩ := hkept
  have htext' : EntryText lcd.etherInput closed' part' :=
    hentry.elim (fun h ↦ h.text) fun h ↦ h.text
  obtain ⟨rfl, rfl⟩ := htext.unique htext'
  rcases hentry with hshows | hahead
  · exact hshows
  · exact absurd hoctet hahead.ahead.ne'

/-- The condition is exact: an entry that shows the octets is kept by no other key. -/
theorem entry_key_iff {key : ℕ} (htypes : key ≤ 9 ∨ key = 0x44 ∨ key = 0x42)
    (hshows : EntryShows lcd closed part) :
    EntryKept (if key ≤ 9 then etherDigit key lcd else if key = 0x44 then etherNextOctet lcd
      else etherBackspace lcd) ↔ KeepsEntry key lcd := by
  refine ⟨fun hkept ↦ ⟨fun hdigit hfull ↦ ?_, fun hback hopen ↦ ?_⟩,
    fun hkeeps ↦ entry_key htypes hkeeps ⟨closed, part, Or.inl hshows⟩⟩
  · rw [if_pos hdigit] at hkept
    rw [hshows.text.openPart]
    by_cases hfilled : part = []
    · exact Or.inl hfilled
    · have hinput : (etherDigit key lcd).etherInput = lcd.etherInput := if_neg (not_lt.mpr hfull)
      have hnew := (hkept.shows (hinput ▸ hshows.text) hshows.octet).typed hfilled
      have hold := (hshows.typed hfilled).2
      have hnumber := hnew.2
      have hword : lcd.etherCurrentNumber * 10 + key < 65536 := by omega
      dsimp only [etherDigit] at hnumber
      rw [Nat.mod_eq_of_lt hword] at hnumber
      refine Or.inr ?_
      split_ifs at hnumber <;> omega
  · subst hback
    rw [if_neg (by decide), if_neg (by decide)] at hkept
    rw [hshows.text.openPart] at hopen ⊢
    have htext := (hshows.text.back hopen).2
    rw [backspace_digit hshows.text hopen] at hkept
    have hnew := hkept.shows htext hshows.octet
    by_cases hone : part.length = 1
    · exact Or.inl hone
    · have hrest : part.dropLast ≠ [] := by
        intro hnil
        have hlength := congrArg List.length hnil
        rw [List.length_dropLast, List.length_nil] at hlength
        have hpositive := List.length_pos_of_ne_nil hopen
        omega
      obtain ⟨hflag, hnumber⟩ := hnew.typed hrest
      have hold := (hshows.typed hopen).2
      rw [decimalValue_dropLast hshows.text.digits] at hnumber
      dsimp only at hflag hnumber
      rw [decide_eq_true_iff] at hflag
      omega

end Keys

/-! ### Selection and ENTER -/

/-- The digits of an octet. -/
theorem octetText_digits {octet : ℕ} (hoctet : octet < 256) :
    octetText octet ≠ [] ∧ (∀ char ∈ octetText octet, DecimalChar char) ∧
      decimalValue (octetText octet) = octet ∧ (octetText octet).length ≤ 3 := by
  have hchar {digit : ℕ} (hdigit : digit ≤ 9) : DecimalChar (digit + 48) :=
    decimalChar_digit hdigit
  unfold octetText
  split_ifs with hone htwo
  · refine ⟨List.cons_ne_nil _ _, ?_, ?_, by simp⟩
    · intro char hmem
      rw [List.mem_singleton.mp hmem]
      exact hchar (by omega)
    · dsimp only [decimalValue, List.foldl]
      omega
  · refine ⟨List.cons_ne_nil _ _, ?_, ?_, by simp⟩
    · intro char hmem
      simp only [List.mem_cons, List.not_mem_nil, or_false] at hmem
      rcases hmem with hten | hunit
      · exact hten ▸ hchar (by omega)
      · exact hunit ▸ hchar (by omega)
    · dsimp only [decimalValue, List.foldl]
      omega
  · refine ⟨List.cons_ne_nil _ _, ?_, ?_, by simp⟩
    · intro char hmem
      simp only [List.mem_cons, List.not_mem_nil, or_false] at hmem
      rcases hmem with hhundred | hten | hunit
      · exact hhundred ▸ hchar (by omega)
      · exact hten ▸ hchar (by omega)
      · exact hunit ▸ hchar (by omega)
    · dsimp only [decimalValue, List.foldl]
      omega

/-- A dot is no digit. -/
theorem dot_not_mem {text : List ℕ} (hdigits : ∀ char ∈ text, DecimalChar char) :
    etherDot ∉ text :=
  fun hmem ↦ absurd (hdigits etherDot hmem).1 (by decide)

/-- The text of an address, taken apart. -/
theorem ipToString_text {ip : Octets} (hbytes : ip.Bytes) :
    EntryText (ipToString ip) [octetText ip.o0, octetText ip.o1, octetText ip.o2]
      (octetText ip.o3) := by
  obtain ⟨-, hdigits0, -, hlength0⟩ := octetText_digits (show ip.o0 < 256 from hbytes 0)
  obtain ⟨-, hdigits1, -, hlength1⟩ := octetText_digits (show ip.o1 < 256 from hbytes 1)
  obtain ⟨-, hdigits2, -, hlength2⟩ := octetText_digits (show ip.o2 < 256 from hbytes 2)
  obtain ⟨-, hdigits3, -, hlength3⟩ := octetText_digits (show ip.o3 < 256 from hbytes 3)
  have hclosed : ∀ done ∈ [octetText ip.o0, octetText ip.o1, octetText ip.o2],
      ∀ char ∈ done, DecimalChar char := by
    intro done hmem
    simp only [List.mem_cons, List.not_mem_nil, or_false] at hmem
    rcases hmem with rfl | rfl | rfl
    · exact hdigits0
    · exact hdigits1
    · exact hdigits2
  refine ⟨⟨?_, fun done hmem ↦ dot_not_mem (hclosed done hmem), dot_not_mem hdigits3⟩, hclosed,
    hdigits3⟩
  unfold ipToString
  rw [List.take_of_length_le]
  · simp
  · simp only [List.length_append, List.length_cons]
    omega

/-- The shadow of a field. -/
def EtherField.octets (field : EtherField) (lcd : LcdState) : Octets :=
  match field with
  | .ip => lcd.tempEtherIp
  | .nm => lcd.tempEtherNm
  | _ => lcd.tempEtherGw

/-- The key that selects a field. -/
def EtherField.selectKey : EtherField → Option ℕ
  | .ip => some 0x49
  | .nm => some 0x4D
  | .gw => some 0x47
  | .none => Option.none

theorem EtherField.shadow_octets (field : EtherField) (lcd : LcdState) :
    field.setting.shadow lcd = .octets (field.octets lcd) := by
  cases field <;> rfl

/-- The other keys keep the field. -/
theorem etherKey_field {data : ℕ} (hother : ∀ field : EtherField,
    field.selectKey ≠ some (data % 256)) (s : Sys) :
    (handleEtherKey data s).lcd.etherWhatInput = s.lcd.etherWhatInput := by
  have hdot : (etherNextOctet s.lcd).etherWhatInput = s.lcd.etherWhatInput := by
    unfold etherNextOctet
    by_cases hnext : s.lcd.etherHasInput ∧ s.lcd.etherCurrentOctet < 3
    · rw [if_pos hnext]
    · rw [if_neg hnext]
  have hback : (etherBackspace s.lcd).etherWhatInput = s.lcd.etherWhatInput := by
    unfold etherBackspace
    cases s.lcd.etherInput.getLast? with
    | none => rfl
    | some last =>
      dsimp only
      split_ifs <;> rfl
  have henter : (etherEnter s.lcd).etherWhatInput = s.lcd.etherWhatInput := by
    unfold etherEnter
    cases s.lcd.etherWhatInput <;> rfl
  have hip : data % 256 ≠ 0x49 := fun hkey ↦ hother .ip (congrArg some hkey).symm
  have hnm : data % 256 ≠ 0x4D := fun hkey ↦ hother .nm (congrArg some hkey).symm
  have hgw : data % 256 ≠ 0x47 := fun hkey ↦ hother .gw (congrArg some hkey).symm
  unfold handleEtherKey
  dsimp only
  rw [if_neg hip, if_neg hnm, if_neg hgw]
  split_ifs
  · rfl
  · exact hdot
  · exact hback
  · exact henter
  · rfl

/-- A selection. -/
theorem handleEtherKey_select {field : EtherField} {data : ℕ}
    (hselect : field.selectKey = some (data % 256)) (s : Sys) :
    (handleEtherKey data s).lcd = etherSelectField field (field.octets s.lcd) s.lcd := by
  unfold handleEtherKey
  dsimp only
  cases field with
  | ip =>
    rw [if_pos (Option.some.inj hselect).symm]
    rfl
  | nm =>
    have hkey : data % 256 = 0x4D := (Option.some.inj hselect).symm
    rw [if_neg (by omega), if_pos hkey]
    rfl
  | gw =>
    have hkey : data % 256 = 0x47 := (Option.some.inj hselect).symm
    rw [if_neg (by omega), if_neg (by omega), if_pos hkey]
    rfl
  | none => cases hselect

/-- A selection seeds the number from the IP shadow, so what it shows is what ENTER will commit for
this field, and for the others if they end in the same octet. -/
theorem select_shows (field : EtherField) {shadow : Octets} {lcd : LcdState} (hbytes : shadow.Bytes)
    (hseed : shadow.o3 = lcd.tempEtherIp.o3) :
    EntryShows (etherSelectField field shadow lcd)
      [octetText shadow.o0, octetText shadow.o1, octetText shadow.o2] (octetText shadow.o3) := by
  have hpart := octetText_digits (show shadow.o3 < 256 from hbytes 3)
  refine ⟨ipToString_text hbytes, rfl, le_rfl, ?_, ?_, fun hempty ↦ absurd hempty hpart.1⟩
  · intro index done hdone
    have hkept {octet : ℕ} (hoctet : octet < 256) (hsome : octetText octet = done) :
        done ≠ [] ∧ octet = min 255 (decimalValue done) := by
      obtain ⟨hfilled, -, hvalue, -⟩ := octetText_digits hoctet
      rw [← hsome, hvalue]
      exact ⟨hfilled, (min_eq_right (Nat.le_of_lt_succ hoctet)).symm⟩
    rcases index with _ | _ | _ | index
    · exact hkept (hbytes 0) (Option.some.inj hdone)
    · exact hkept (hbytes 1) (Option.some.inj hdone)
    · exact hkept (hbytes 2) (Option.some.inj hdone)
    · cases hdone
  · intro _
    refine ⟨rfl, ?_⟩
    show lcd.tempEtherIp.o3 = _
    rw [hpart.2.2.1, ← hseed]
    exact (min_eq_right (Nat.le_of_lt_succ (hbytes 3))).symm

/-- Right after a selection ENTER commits the address shown exactly if its last octet is that of the
IP shadow. -/
theorem select_commits_iff (field : EtherField) (shadow : Octets) {lcd : LcdState}
    (hbyte : lcd.tempEtherIp.o3 < 256) :
    (etherEnter (etherSelectField field shadow lcd)).etherTempIp = shadow ↔
      shadow.o3 = lcd.tempEtherIp.o3 := by
  have henter : (etherEnter (etherSelectField field shadow lcd)).etherTempIp =
      { shadow with o3 := lcd.tempEtherIp.o3 % 256 } := etherEnter_tempIp _
  rw [henter, Nat.mod_eq_of_lt hbyte]
  constructor
  · intro hsame
    exact (congrArg Octets.o3 hsame).symm
  · intro hseed
    rw [← hseed]

/-- ENTER commits the dotted quad shown. -/
theorem enter_shown {lcd : LcdState} (hkept : EntryKept lcd) {quad : Octets}
    (hquad : dottedQuad lcd.etherInput = some quad) : (etherEnter lcd).etherTempIp = quad := by
  obtain ⟨closed, part, hentry⟩ := hkept
  have htext : EntryText lcd.etherInput closed part :=
    hentry.elim (fun h ↦ h.text) fun h ↦ h.text
  unfold dottedQuad at hquad
  rw [htext.cut.splits] at hquad
  split at hquad
  case h_1 o0 o1 o2 o3 hparts =>
    have hlength : closed.length = 3 := by
      have hcount := congrArg List.length hparts
      rw [List.length_map, List.length_append, List.length_singleton] at hcount
      exact Nat.succ.inj hcount
    obtain ⟨done0, done1, done2, rfl⟩ := List.length_eq_three.mp hlength
    simp only [List.cons_append, List.nil_append, List.map_cons, List.map_nil, List.cons.injEq,
      and_true] at hparts
    obtain ⟨hparse0, hparse1, hparse2, hparse3⟩ := hparts
    split_ifs at hquad with hrange
    rcases hentry with hshows | hahead
    · obtain ⟨-, hvalue0⟩ := parseDecimal_eq_some hparse0
      obtain ⟨-, hvalue1⟩ := parseDecimal_eq_some hparse1
      obtain ⟨-, hvalue2⟩ := parseDecimal_eq_some hparse2
      obtain ⟨hfilled, hvalue3⟩ := parseDecimal_eq_some hparse3
      obtain ⟨hinput, hnumber⟩ := hshows.typed hfilled
      have hkept0 := (hshows.kept 0 done0 rfl).2
      have hkept1 := (hshows.kept 1 done1 rfl).2
      have hkept2 := (hshows.kept 2 done2 rfl).2
      have hoctet : lcd.etherCurrentOctet = 3 := hshows.octet
      rw [hvalue0, min_eq_right hrange.1] at hkept0
      rw [hvalue1, min_eq_right hrange.2.1] at hkept1
      rw [hvalue2, min_eq_right hrange.2.2.1] at hkept2
      rw [hvalue3, min_eq_right hrange.2.2.2] at hnumber
      rw [etherEnter_tempIp, if_pos hinput, hoctet, hnumber,
        Nat.mod_eq_of_lt (Nat.lt_succ_of_le hrange.2.2.2), ← Option.some.inj hquad, ← hkept0,
        ← hkept1, ← hkept2]
      rfl
    · have hover : 3 < lcd.etherCurrentOctet := hahead.ahead
      exact absurd hahead.three (not_le.mpr hover)
  case h_2 => cases hquad

/-! ### Runs of the editor -/

section Entry

variable (build : Build) (boot : BootIn) (field : EtherField)

/-- The call is a key that selects a field. -/
def Call.selects (field : EtherField) : Call → Prop
  | .frame f => f.key = some .etherKey ∧ field.selectKey = some (f.word % 256)
  | _ => False

/-- The call is no frame, or a digit, a dot or a backspace. -/
def Call.edits : Call → Prop
  | .frame f =>
    f.key = some .etherKey ∧ (f.word % 256 ≤ 9 ∨ f.word % 256 = 0x44 ∨ f.word % 256 = 0x42)
  | _ => True

/-- A selection seeds the number with the last octet of its own field. -/
def SeedsOwn (field : EtherField) (lcd : LcdState) : Prop :=
  (field.octets lcd).o3 = lcd.tempEtherIp.o3

/-- A frame keeps the entry. -/
def Call.KeepsEntry (call : Call) (lcd : LcdState) : Prop :=
  match call with
  | .frame f => UsCtrl.KeepsEntry (f.word % 256) lcd
  | _ => True

/-- A field has been selected, and of the panel's frames only digits, dots and backspaces have come
since. -/
def entry : Past Call :=
  since (newest build boot fun call _ _ ↦ call.edits)
    (newest build boot fun call _ _ ↦ call.selects field)

/-- The same, and every key met the condition that keeps the entry. -/
def keptEntry : Past Call :=
  since (newest build boot fun call s _ ↦ call.edits ∧ call.KeepsEntry s.lcd)
    (newest build boot fun call s _ ↦ call.selects field ∧ SeedsOwn field s.lcd)

/-- ENTER commits the dotted quad shown to the selected field, and to no other shadow. -/
def EnterCommits (history : List Call) : Prop :=
  ∀ quad, dottedQuad (stateAfter build boot history).lcd.etherInput = some quad →
    ∀ f : FrameIn, f.key = some .etherKey → f.word % 256 = 0x45 → ∀ setting : PanelSetting,
      setting.shadow (stateAfter build boot (.frame f :: history)).lcd =
        if setting = field.setting then .octets quad
        else setting.shadow (stateAfter build boot history).lcd

variable {build boot field}

/-- The editor as the keys find it. -/
def LcdState.editor (lcd : LcdState) : EtherField × List ℕ × Octets × ℕ × ℕ × Bool :=
  (lcd.etherWhatInput, lcd.etherInput, lcd.etherTempIp, lcd.etherCurrentOctet,
    lcd.etherCurrentNumber, lcd.etherHasInput)

theorem EntryKept.of_editor {lcd lcd' : LcdState} (heditor : lcd'.editor = lcd.editor)
    (hkept : EntryKept lcd) : EntryKept lcd' := by
  simp only [LcdState.editor, Prod.mk.injEq] at heditor
  obtain ⟨-, hinput, hip, hoctet, hnumber, hflag⟩ := heditor
  obtain ⟨closed, part, hentry⟩ := hkept
  refine ⟨closed, part, hentry.imp (fun hshows ↦ ?_) fun hahead ↦ ?_⟩
  · refine ⟨hinput ▸ hshows.text, hoctet.trans hshows.octet, hshows.three, ?_, ?_, ?_⟩
    · rw [hip]
      exact hshows.kept
    · rw [hflag, hnumber]
      exact hshows.typed
    · rw [hinput, hflag, hnumber]
      exact hshows.fresh
  · exact ⟨hinput ▸ hahead.text, hoctet ▸ hahead.ahead, hoctet ▸ hahead.three⟩

/-- A key that keeps the entry. -/
theorem etherKey_kept {data : ℕ} (htypes : data % 256 ≤ 9 ∨ data % 256 = 0x44 ∨ data % 256 = 0x42)
    {s : Sys} (hkeeps : KeepsEntry (data % 256) s.lcd) (hkept : EntryKept s.lcd) :
    (handleEtherKey data s).lcd.etherWhatInput = s.lcd.etherWhatInput ∧
      EntryKept (handleEtherKey data s).lcd := by
  have hkey : (handleEtherKey data s).lcd = if data % 256 ≤ 9 then etherDigit (data % 256) s.lcd
      else if data % 256 = 0x44 then etherNextOctet s.lcd else etherBackspace s.lcd := by
    unfold handleEtherKey
    dsimp only
    rw [if_neg (by omega), if_neg (by omega), if_neg (by omega)]
    split_ifs with hdigit hdot hback hdone
    · rfl
    · rfl
    · rfl
    · omega
    · omega
  refine ⟨etherKey_field (fun field ↦ ?_) s, hkey ▸ entry_key htypes hkeeps hkept⟩
  cases field <;> simp only [EtherField.selectKey, ne_eq, Option.some.injEq, reduceCtorEq,
    not_false_eq_true] <;> omega

/-- Assumes: the FRAM holds bytes at power-up, and the DHCP client hands out octets. A kept entry
shows what ENTER will commit. -/
theorem entry_kept (hfram : ByteImage boot.fram) {history : List Call}
    (hleases : ∀ call ∈ history, call.LeasesBytes)
    (hentry : keptEntry build boot field history) :
    (stateAfter build boot history).lcd.etherWhatInput = field ∧
      EntryKept (stateAfter build boot history).lcd := by
  refine since_induction (fun history ↦ (∀ call ∈ history, call.LeasesBytes) →
    (stateAfter build boot history).lcd.etherWhatInput = field ∧
      EntryKept (stateAfter build boot history).lcd) ?_ ?_ history hentry hleases
  · rintro call past ⟨hselect, hseed⟩ hleases
    have hbytes : AddressesBytes (stateAfter build boot past) :=
      run_addressesBytes build hfram fun older hmem ↦ hleases older (List.mem_cons_of_mem call hmem)
    show (call.exec build (stateAfter build boot past)).lcd.etherWhatInput = field ∧
      EntryKept (call.exec build (stateAfter build boot past)).lcd
    cases call with
    | frame f =>
      obtain ⟨hkey, hfield⟩ := hselect
      have hshadow := hbytes.shadow field.setting
      rw [field.shadow_octets] at hshadow
      rw [Call.exec, appLcdInputDispatch, hkey]
      dsimp only [panelKeyHandler]
      rw [handleEtherKey_select hfield]
      exact ⟨rfl, _, _, Or.inl (select_shows field hshadow hseed)⟩
    | _ => exact hselect.elim
  · rintro call past ⟨hedits, hkeeps⟩ ih hleases
    obtain ⟨hfield, hkept⟩ := ih fun older hmem ↦ hleases older (List.mem_cons_of_mem call hmem)
    show (call.exec build (stateAfter build boot past)).lcd.etherWhatInput = field ∧
      EntryKept (call.exec build (stateAfter build boot past)).lcd
    by_cases hframe : call.kind = .frame
    · cases call with
      | frame f =>
        have hdone := etherKey_kept hedits.2 hkeeps hkept
        rw [Call.exec, appLcdInputDispatch, hedits.1]
        exact ⟨hdone.1.trans hfield, hdone.2⟩
      | _ => cases hframe
    · have hview : SheetView LcdState.editor := fun _ ↦ rfl
      have heditor := exec_sheetView hview build hframe (stateAfter build boot past)
      exact ⟨(congrArg Prod.fst heditor).trans hfield, hkept.of_editor heditor⟩

/-- Assumes: the FRAM holds bytes at power-up, and the DHCP client hands out octets. In every run
in which a field has been selected whose last octet is that of the IP shadow, and of the panel's
frames only keys that keep the entry have come since, ENTER commits the dotted quad shown to the
selected field and leaves the other shadows as they are. -/
theorem enter_commits (hfram : ByteImage boot.fram) {history : List Call}
    (hleases : ∀ call ∈ history, call.LeasesBytes)
    (hentry : keptEntry build boot field history) : EnterCommits build boot field history := by
  intro quad hquad f hkey hword setting
  obtain ⟨hfield, hkept⟩ := entry_kept hfram hleases hentry
  have hput : f.puts setting (stateAfter build boot history) =
      if setting = field.setting then some (.typed (.octets quad)) else none := by
    rw [FrameIn.puts, hkey]
    dsimp only
    rw [hfield, enter_shown hkept hquad]
    simp only [hword, and_true]
  show setting.shadow (appLcdInputDispatch f (stateAfter build boot history)).lcd = _
  rw [dispatch_shadow, hput]
  split_ifs <;> rfl

end Entry

/-- The operator of a new machine opens the address page, types 5 behind the IP address 0.0.0.0,
commits it and selects the mask 0.0.0.0. -/
def maskEntryRun (made : ℕ) : SuperloopRun where
  done := []
  current := { quietIter 10 with
    frames := [keyFrame 0x1100 1 10, keyFrame 0x1020 4 10, keyFrame 0x140b 1 10,
      keyFrame 0x140f 0x49 10, keyFrame 0x140f 5 10, keyFrame 0x140f 0x45 10,
      keyFrame 0x140f 0x4D 10, keyFrame 0x140f 0x45 10] }
  made := made

/-- The address typed is committed. -/
theorem ipTyped_commits : EnterCommits stdBuild factoryBoot .ip (maskEntryRun 5).history := by
  have hframes : ∀ call ∈ (maskEntryRun 5).history, call.kind = .frame := by decide
  have hkeeps : KeepsEntry 5
      (stateAfter stdBuild factoryBoot (maskEntryRun 4).history).lcd := by decide +kernel
  refine enter_commits (fun _ ↦ Nat.zero_lt_succ 255) (fun call hmem ↦ ?_)
    (Or.inr ⟨⟨⟨rfl, Or.inl (by decide)⟩, hkeeps⟩, Or.inl ⟨⟨rfl, rfl⟩, rfl⟩⟩)
  have hframe := hframes call hmem
  cases call with
  | frame f => trivial
  | _ => cases hframe

example : dottedQuad (stateAfter stdBuild factoryBoot (maskEntryRun 5).history).lcd.etherInput =
    some ⟨0, 0, 0, 5⟩ := by decide +kernel

/-- The mask 0.0.0.0 is shown, and 0.0.0.5 committed. -/
theorem maskSelected_differs : entry stdBuild factoryBoot .nm (maskEntryRun 7).history ∧
    ¬ EnterCommits stdBuild factoryBoot .nm (maskEntryRun 7).history := by
  constructor
  · exact Or.inl ⟨rfl, rfl⟩
  · intro hcommits
    have hmask := hcommits ⟨0, 0, 0, 0⟩ (by decide +kernel) (keyFrame 0x140f 0x45 10) (by decide)
      (by decide) .etherNm
    revert hmask
    decide +kernel

end UsCtrl
