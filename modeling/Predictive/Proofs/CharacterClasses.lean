import Predictive.Proofs.Numerals
import Predictive.Unicode.Letter
import Predictive.Unicode.Printable

/-!
# Classes of characters that are apart

White space stands between lexemes because it belongs to none of them: it is no letter, no number
and no sign. Beyond ASCII this is read off the tables of the properties.
-/

namespace Predictive
namespace Unicode

/-! ## Tables -/

/-- Whether one range ends before the other begins. The tables are long, so this compares numbers as
the kernel does, without instances. -/
def CodeRange.isApart (range other : CodeRange) : Bool :=
  Nat.blt range.last other.first || Nat.blt other.last range.first

/-- A code is in one of two ranges that are apart. -/
theorem CodeRange.contains_of_isApart
    {range other : CodeRange}
    (apart : range.isApart other = true)
    {code : Nat}
    (holds : range.contains code = true) :
    other.contains code = false := by
  simp only [isApart, Bool.or_eq_true, Nat.blt_eq] at apart
  simp only [contains, Bool.and_eq_true, decide_eq_true_eq] at holds
  simp only [contains, Bool.and_eq_false_iff, decide_eq_false_iff_not]
  omega

/-- A table holds no character of another if none of its ranges meets one of the other. -/
theorem isIn_eq_false_of_isIn
    {ranges others : List CodeRange}
    (apart : ∀ range ∈ ranges, others.all range.isApart = true)
    {c : Char}
    (inside : isIn ranges c = true) :
    isIn others c = false := by
  obtain ⟨range, present, holds⟩ := (isIn_iff ranges c).mp inside
  rw [isIn, List.any_eq_false]
  intro other found
  have ranged := List.all_eq_true.mp (apart range present) other found
  rw [CodeRange.contains_of_isApart ranged holds]
  exact Bool.false_ne_true

/-- White space is not alphabetic. -/
theorem alphabetic_of_whiteSpace {c : Char} (inside : isIn whiteSpace c = true) :
    isIn alphabetic c = false :=
  isIn_eq_false_of_isIn (by decide +kernel) inside

/-- White space is not numeric. -/
theorem numeric_of_whiteSpace {c : Char} (inside : isIn whiteSpace c = true) :
    isIn numeric c = false :=
  isIn_eq_false_of_isIn (by decide +kernel) inside

/-! ## Characters -/

/-- Whether two predicates are apart on ASCII is decided by its code points. -/
theorem apart_of_ascii
    (first second : Char → Bool)
    (apart : ∀ code < 0x80, first (Char.ofNat code) = true → second (Char.ofNat code) = false)
    {c : Char}
    (ascii : c.toNat < 0x80)
    (holds : first c = true) :
    second c = false := by
  have here := apart c.toNat ascii
  rw [Char.ofNat_toNat] at here
  exact here holds

/-- Digits in base ten are ASCII. -/
theorem ascii_of_isDigit {c : Char} (digit : c.isDigit = true) : c.toNat < 0x80 := by
  have bounds := Char.isDigit_iff_toNat.mp digit
  exact Nat.lt_of_le_of_lt bounds.2 (by decide)

/-- Letters and numbers are not white space. -/
theorem isWhiteSpace_of_isAlphanumeric {c : Char} (letter : isAlphanumeric c = true) :
    isWhiteSpace c = false := by
  by_cases ascii : c.toNat < 0x80
  · exact apart_of_ascii isAlphanumeric isWhiteSpace (by decide +kernel) ascii letter
  · rw [isWhiteSpace, hasProperty, if_neg ascii]
    cases inside : isIn whiteSpace c with
    | false => rfl
    | true =>
        have notLetter := alphabetic_of_whiteSpace inside
        have notNumber := numeric_of_whiteSpace inside
        simp [isAlphanumeric, isAlphabetic, isNumeric, hasProperty, ascii, notLetter,
          notNumber] at letter

/-- Letters are no white space. -/
theorem isWhiteSpace_of_isAlphabetic {c : Char} (letter : isAlphabetic c = true) :
    isWhiteSpace c = false :=
  isWhiteSpace_of_isAlphanumeric (by rw [isAlphanumeric, letter, Bool.true_or])

/-- Digits are no letters. -/
theorem isAlphabetic_of_isDigit {c : Char} (digit : c.isDigit = true) :
    isAlphabetic c = false :=
  apart_of_ascii Char.isDigit isAlphabetic (by decide +kernel) (ascii_of_isDigit digit) digit

/-- Letters and digits of names are ASCII. -/
theorem ascii_of_isAlphanum {c : Char} (letter : c.isAlphanum = true) : c.toNat < 0x80 := by
  rcases Bool.or_eq_true_iff.mp letter with alpha | digit
  · rcases Bool.or_eq_true_iff.mp alpha with capital | small
    · have below : c ≤ 'Z' := (of_decide_eq_true capital).2
      exact Nat.lt_of_le_of_lt (Char.le_def.mp below) (by decide)
    · have below : c ≤ 'z' := of_decide_eq_true (Bool.and_eq_true_iff.mp small).2
      exact Nat.lt_of_le_of_lt (Char.le_def.mp below) (by decide)
  · exact ascii_of_isDigit digit

theorem isAlphanum_of_isDigit {c : Char} (digit : c.isDigit = true) : c.isAlphanum = true :=
  Bool.or_eq_true_iff.mpr (.inr digit)

theorem isAlphanum_of_isUpper {c : Char} (capital : c.isUpper = true) : c.isAlphanum = true :=
  Bool.or_eq_true_iff.mpr (.inl (Bool.or_eq_true_iff.mpr (.inl capital)))

/-- Digits in base sixteen are letters or digits. -/
theorem isAlphanum_of_isHexDigit {c : Char} (hex : isHexDigit c = true) : c.isAlphanum = true := by
  simp only [isHexDigit, Bool.or_eq_true, Bool.and_eq_true, decide_eq_true_eq] at hex
  rcases hex with (digit | ⟨first, last⟩) | ⟨first, last⟩
  · exact isAlphanum_of_isDigit digit
  · have below : c ≤ 'z' := Char.le_trans last (by decide : 'f' ≤ 'z')
    have small : c.isLower = true :=
      Bool.and_eq_true_iff.mpr ⟨decide_eq_true first, decide_eq_true below⟩
    exact Bool.or_eq_true_iff.mpr (.inl (Bool.or_eq_true_iff.mpr (.inr small)))
  · have below : c ≤ 'Z' := Char.le_trans last (by decide : 'F' ≤ 'Z')
    exact isAlphanum_of_isUpper (decide_eq_true ⟨first, below⟩)

/-- The letters and digits of ASCII are letters and numbers. -/
theorem isAlphanumeric_of_isAlphanum {c : Char} (letter : c.isAlphanum = true) :
    isAlphanumeric c = true := by
  have ascii := ascii_of_isAlphanum letter
  rw [isAlphanumeric, isAlphabetic, isNumeric, hasProperty_of_ascii ascii,
    hasProperty_of_ascii ascii]
  exact letter

/-- Letters and digits are no white space. -/
theorem isWhiteSpace_of_isAlphanum {c : Char} (letter : c.isAlphanum = true) :
    isWhiteSpace c = false :=
  isWhiteSpace_of_isAlphanumeric (isAlphanumeric_of_isAlphanum letter)

theorem isWhiteSpace_of_isDigit {c : Char} (digit : c.isDigit = true) :
    isWhiteSpace c = false :=
  isWhiteSpace_of_isAlphanum (isAlphanum_of_isDigit digit)

/-- Of a table without white space, no character is white space. -/
theorem isWhiteSpace_of_mem
    {chars : List Char}
    (noBlanks : chars.all (fun c => !isWhiteSpace c) = true)
    {c : Char}
    (present : c ∈ chars) :
    isWhiteSpace c = false := by
  simpa using List.all_eq_true.mp noBlanks c present

/-- Digits in any base are digits in base sixteen. -/
theorem isHexDigit_of_isDigitIn {base : Nat} {c : Char}
    (digit : Language.isDigitIn base c = true) :
    isHexDigit c = true := by
  unfold Language.isDigitIn at digit
  unfold isHexDigit
  split at digit
  · exact digit
  · have isDigit : c.isDigit = true := by
      simp only [isOctalDigit, Bool.and_eq_true, decide_eq_true_eq] at digit
      have below : c ≤ '9' := Char.le_trans digit.2 (by decide : '7' ≤ '9')
      simp only [Char.isDigit, Bool.and_eq_true, decide_eq_true_eq]
      exact ⟨digit.1, below⟩
    rw [isDigit, Bool.true_or, Bool.true_or]
  · rw [digit, Bool.true_or, Bool.true_or]

/-- The digits of all bases are digits and letters of ASCII. -/
theorem isAlphanum_of_isDigitIn {base : Nat} {c : Char}
    (digit : Language.isDigitIn base c = true) :
    c.isAlphanum = true :=
  isAlphanum_of_isHexDigit (isHexDigit_of_isDigitIn digit)

/-- Numbers go on with letters and digits of ASCII only. -/
theorem isAlphanum_of_goesOnNumber {c : Char} (goesOn : Language.goesOnNumber c = true) :
    c.isAlphanum = true := by
  have marks : ("xX".toList ++ "oO".toList).all Char.isAlphanum = true := by decide
  simp only [Language.goesOnNumber, Bool.or_eq_true, List.contains_iff_mem] at goesOn
  rcases goesOn with (digit | hexMark) | octalMark
  · exact isAlphanum_of_isDigit digit
  · exact List.all_eq_true.mp marks c (List.mem_append_left _ hexMark)
  · exact List.all_eq_true.mp marks c (List.mem_append_right _ octalMark)

/-- White space does not go on a number. -/
theorem isWhiteSpace_of_goesOnNumber {c : Char} (goesOn : Language.goesOnNumber c = true) :
    isWhiteSpace c = false :=
  isWhiteSpace_of_isAlphanum (isAlphanum_of_goesOnNumber goesOn)

end Unicode

/-- No letter, operator or number goes on where white space comes. -/
theorem stopsAt_of_blank
    {letter : Char → Bool}
    (notBlank : ∀ ⦃c⦄, letter c = true → Unicode.isWhiteSpace c = false)
    {behind : List Char}
    (blank : StopsAt (fun c => !Unicode.isWhiteSpace c) behind) :
    StopsAt letter behind :=
  blank.mono fun c goesOn => by rw [notBlank goesOn]; rfl

end Predictive
