import DevnetChaos.Text.Blank
import DevnetChaos.Text.Digits

/-!
# Digits that are written and read

The decimal digits of a number are digits, and digits are not blank.

Main results:

- `isDigit_of_mem_toDigits`: the digits of a number are digits.
- `natOfDigits?_eq_some`: when a run of digits is read as a number.
- `takeWhile_append_of_stops`, `dropWhile_append_of_stops`: where a run of characters ends.
- `trimChars_eq_self`: cutting off blanks changes nothing where there are none.
- `trimChars_append`: blanks at the front are cut off.
-/

namespace DevnetChaos.Text

/-! ## Digits -/

/-- The decimal digits of a number are digits. -/
theorem isDigit_of_mem_toDigits {n : Nat} {c : Char} (h : c ∈ Nat.toDigits 10 n) :
    isDigit c = true := by
  have hdigit := Nat.isDigit_of_mem_toDigits (by decide) (by decide) h
  simpa [Char.isDigit, isDigit, Char.le_def] using hdigit

theorem natOfDigits?_eq_some {digits : List Char} {n : Nat} :
    natOfDigits? digits = some n ↔
      digits ≠ [] ∧ (∀ c ∈ digits, isDigit c = true) ∧ Nat.ofDigitChars 10 digits 0 = n := by
  have hvalue : foldDigits 0 digits = Nat.ofDigitChars 10 digits 0 := by
    rw [Nat.ofDigitChars_eq_foldl]
    rfl
  rw [natOfDigits?, hvalue]
  cases digits with
  | nil => simp
  | cons c rest =>
    rw [← List.all_eq_true]
    by_cases hall : (c :: rest).all isDigit = true <;> simp only [hall] <;> simp

/-- No letter is a digit. -/
theorem isDigit_eq_false {c : Char} (h : isLetter c = true) : isDigit c = false := by
  simp only [isLetter, Bool.or_eq_true, Bool.and_eq_true, decide_eq_true_eq,
    Char.le_def, UInt32.le_iff_toNat_le, Char.reduceVal, UInt32.reduceToNat] at h
  simp only [isDigit, Bool.and_eq_false_iff, decide_eq_false_iff_not, Char.le_def,
    UInt32.le_iff_toNat_le, Char.reduceVal, UInt32.reduceToNat]
  omega

/-- No digit is a letter. -/
theorem isLetter_eq_false {c : Char} (h : isDigit c = true) : isLetter c = false :=
  Bool.eq_false_iff.2 fun hletter => by simp [isDigit_eq_false hletter] at h

/-! ## Runs -/

/-- A text that does not go on with a character of a class. -/
def Stops (p : Char → Bool) (rest : List Char) : Prop := ∀ c ∈ rest.head?, p c = false

section Runs

variable {p : Char → Bool} {run rest : List Char}

theorem stops_nil : Stops p [] := fun _ hc => nomatch hc

/-- A run of other characters stops a class. -/
theorem stops_append (hsome : run ≠ []) (hrun : ∀ c ∈ run, p c = false) :
    Stops p (run ++ rest) := by
  obtain ⟨c, later, rfl⟩ := List.exists_cons_of_ne_nil hsome
  rintro _ ⟨⟩
  exact hrun c List.mem_cons_self

/-- A run of characters is taken up to where it stops. -/
theorem takeWhile_append_of_stops (hrun : ∀ c ∈ run, p c = true) (hrest : Stops p rest) :
    (run ++ rest).takeWhile p = run := by
  have hnone : rest.takeWhile p = [] := by
    cases rest with
    | nil => rfl
    | cons c later => rw [List.takeWhile_cons, hrest c rfl, if_neg Bool.false_ne_true]
  rw [List.takeWhile_append_of_pos hrun, hnone, List.append_nil]

/-- A run of characters is dropped up to where it stops. -/
theorem dropWhile_append_of_stops (hrun : ∀ c ∈ run, p c = true) (hrest : Stops p rest) :
    (run ++ rest).dropWhile p = rest := by
  have hsplit := List.takeWhile_append_dropWhile (p := p) (l := run ++ rest)
  rw [takeWhile_append_of_stops hrun hrest] at hsplit
  exact List.append_cancel_left hsplit

/-- What follows a whole run stops it. -/
theorem stops_dropWhile (p : Char → Bool) (cs : List Char) : Stops p (cs.dropWhile p) := by
  intro c hc
  have hfirst := List.head?_dropWhile_not p cs
  rw [Option.mem_def.1 hc] at hfirst
  exact hfirst

end Runs

/-! ## Blanks -/

theorem dropBlank_eq_dropWhile (cs : List Char) : dropBlank cs = cs.dropWhile isBlank := by
  induction cs with
  | nil => rfl
  | cons c rest ih =>
    rw [dropBlank, List.dropWhile_cons]
    by_cases hblank : isBlank c <;> simp [hblank, ih]

/-- Without blanks nothing is dropped. -/
theorem dropBlank_eq_self {cs : List Char} (h : ∀ c ∈ cs, isBlank c = false) :
    dropBlank cs = cs := by
  cases cs with
  | nil => rfl
  | cons c rest => rw [dropBlank, h c List.mem_cons_self, if_neg Bool.false_ne_true]

/-- Blanks at the front are cut off. -/
theorem trimChars_append {gap : List Char} (hgap : ∀ c ∈ gap, isBlank c = true)
    (cs : List Char) : trimChars (gap ++ cs) = trimChars cs := by
  have hdrop : dropBlank (gap ++ cs) = dropBlank cs := by
    rw [dropBlank_eq_dropWhile, dropBlank_eq_dropWhile, List.dropWhile_append_of_pos hgap]
  rw [trimChars, trimChars, hdrop]

/-- What is left is the front of a text that does not begin with a blank. -/
theorem trimChars_isPrefix {cs : List Char} (h : Stops isBlank cs) : trimChars cs <+: cs := by
  have hnone : ∀ c ∈ ([] : List Char), isBlank c = true := fun _ hc => nomatch hc
  have hfront : dropBlank cs = cs := by
    rw [dropBlank_eq_dropWhile]
    exact dropWhile_append_of_stops hnone h
  rw [trimChars, hfront, dropBlank_eq_dropWhile]
  exact List.reverse_suffix.1 (by simpa using List.dropWhile_suffix isBlank)

/-- Cutting off blanks changes nothing where there are none. -/
theorem trimChars_eq_self {cs : List Char} (h : ∀ c ∈ cs, isBlank c = false) :
    trimChars cs = cs := by
  rw [trimChars, dropBlank_eq_self h,
    dropBlank_eq_self fun c hc => h c (List.mem_reverse.1 hc), List.reverse_reverse]

/-- Digits and letters are not blank. -/
theorem isBlank_eq_false {c : Char} (h : isDigit c = true ∨ isLetter c = true) :
    isBlank c = false := by
  simp only [isDigit, isLetter, Bool.or_eq_true, Bool.and_eq_true, decide_eq_true_eq,
    Char.le_def, UInt32.le_iff_toNat_le] at h
  simp only [isBlank, blankRanges, Char.toNat, List.any_cons, List.any_nil, Bool.or_false,
    Bool.or_eq_false_iff, Bool.and_eq_false_iff, decide_eq_false_iff_not]
  simp only [Char.reduceVal, UInt32.reduceToNat] at h
  omega

end DevnetChaos.Text
