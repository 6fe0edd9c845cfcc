import Predictive.Decimal.Integer
import Predictive.Lexer.Number
import Predictive.Proofs.CharacterReading

/-!
# How numbers are read

A number grows from digit to digit, so all beginnings of a number lie between zero and the number
itself. The check of a range digit by digit therefore comes to the same as a check of the whole
number. A decimal number is read as a whole in front of anything but a digit or the mark of
another base.
-/

namespace Predictive

/-! ## Ranges -/

namespace IntegerRange

/-- A range has no gaps. -/
theorem contains_of_le
    {range : IntegerRange}
    {low value high : Int}
    (lowInside : range.contains low = true)
    (highInside : range.contains high = true)
    (above : low ≤ value)
    (below : value ≤ high) :
    range.contains value = true := by
  obtain ⟨least?, greatest?⟩ := range
  simp only [contains, Bool.and_eq_true, Option.all_eq_true, decide_eq_true_eq] at *
  refine ⟨fun least isLeast => ?_, fun greatest isGreatest => ?_⟩
  · exact Int.le_trans (lowInside.1 least isLeast) above
  · exact Int.le_trans below (highInside.2 greatest isGreatest)

end IntegerRange

namespace Digits

/-- More digits do not make a number smaller. -/
theorem le_foldl_digitValue
    {base : Nat}
    (positive : 0 < base)
    (chars : List Char)
    (start : Nat) :
    start ≤ chars.foldl (fun value c => value * base + digitValue c) start := by
  induction chars generalizing start with
  | nil => exact Nat.le_refl start
  | cons c chars ih =>
      have grown : start ≤ start * base := Nat.le_mul_of_pos_right start positive
      have step := ih (start * base + digitValue c)
      rw [List.foldl_cons]
      omega

/-- One digit more is checked twice, after the product and after the sum, of which the sum
decides. -/
theorem fit?_digit
    {range : IntegerRange}
    {base start : Nat}
    (startInside : range.contains start = true)
    (positive : 0 < base)
    (c : Char) :
    (do
      let scaled ← range.fit? ((start : Int) * base)
      range.fit? (scaled + digitValue c)) =
        range.fit? ((start * base + digitValue c : Nat) : Int) := by
  cases inside : range.contains ((start * base + digitValue c : Nat) : Int) with
  | true =>
      have grown : start ≤ start * base := Nat.le_mul_of_pos_right start positive
      have scaledInside : range.contains ((start : Int) * base) = true := by
        refine IntegerRange.contains_of_le startInside inside ?_ ?_
        · exact_mod_cast grown
        · exact_mod_cast Nat.le_add_right _ _
      simp [IntegerRange.fit?, scaledInside]
  | false =>
      have sumOutside : range.contains ((start : Int) * base + digitValue c) = false := by
        exact_mod_cast inside
      cases scaledInside : range.contains ((start : Int) * base) <;>
        simp [IntegerRange.fit?, scaledInside, sumOutside]

/-- The check of a range goes on from a number that has been read already. -/
theorem foldlM_fit?
    {range : IntegerRange}
    {base start : Nat}
    (startInside : range.contains start = true)
    (positive : 0 < base)
    (chars : List Char) :
    chars.foldlM (fun (value : Int) c => do
      let scaled ← range.fit? (value * base)
      range.fit? (scaled + digitValue c)) (start : Int) =
        range.fit?
          ((chars.foldl (fun value c => value * base + digitValue c) start : Nat) : Int) := by
  induction chars generalizing start with
  | nil => simp [IntegerRange.fit?, startInside]
  | cons c chars ih =>
      rw [List.foldlM_cons, fit?_digit startInside positive, List.foldl_cons]
      cases inside : range.contains ((start * base + digitValue c : Nat) : Int) with
      | true =>
          rw [IntegerRange.fit?, if_pos inside]
          exact ih inside
      | false =>
          -- The numbers to come are larger, so none of them is back in the range.
          have scaled : start ≤ start * base := Nat.le_mul_of_pos_right start positive
          have grown := le_foldl_digitValue positive chars (start * base + digitValue c)
          cases later : range.contains ((chars.foldl (fun value c => value * base + digitValue c)
              (start * base + digitValue c) : Nat) : Int) with
          | true =>
              have between : range.contains ((start * base + digitValue c : Nat) : Int) = true :=
                IntegerRange.contains_of_le startInside later (by omega) (by omega)
              rw [inside] at between
              contradiction
          | false =>
              rw [IntegerRange.fit?, IntegerRange.fit?, if_neg (ne_true_of_eq_false inside),
                if_neg (ne_true_of_eq_false later)]
              rfl

/-- The check of a range digit by digit is a check of the whole number. -/
theorem inRange?_eq_fit?
    {range : IntegerRange}
    {base : Nat}
    (zeroInside : range.contains 0 = true)
    (positive : 0 < base)
    (chars : List Char) :
    (Digits.mk base chars).inRange? false range = range.fit? (digitsValue base chars) := by
  have zeroStart : range.contains ((0 : Nat) : Int) = true := zeroInside
  exact foldlM_fit? zeroStart positive chars

end Digits

/-! ## Decimal numbers -/

/-- The text of a natural number is its digits. -/
theorem toList_decimalText {value : Int} (natural : 0 ≤ value) :
    (decimalText value).toList = Nat.toDigits 10 value.natAbs := by
  rw [decimalText, if_neg (Int.not_lt.mpr natural), decimalDigits_eq, List.nil_append,
    String.toList_ofList]

/-- Digits of a number stand for the number. -/
theorem digitsValue_toDigits (n : Nat) : digitsValue 10 (Nat.toDigits 10 n) = n := by
  have same : ∀ (chars : List Char) (start : Nat), (∀ c ∈ chars, c.isDigit = true) →
      chars.foldl (fun value c => value * 10 + digitValue c) start =
        Nat.ofDigitChars 10 chars start := by
    intro chars
    induction chars with
    | nil => exact fun start _ => Nat.ofDigitChars_nil.symm
    | cons c chars ih =>
        intro start digits
        have isDigit : c.isDigit = true := digits c List.mem_cons_self
        have others := ih (start * 10 + digitValue c) fun d present => digits d (.tail c present)
        rw [List.foldl_cons, Nat.ofDigitChars_cons, others, digitValue, if_pos isDigit,
          Nat.mul_comm]
  have digits : ∀ c ∈ Nat.toDigits 10 n, c.isDigit = true :=
    fun c present => Nat.isDigit_of_mem_toDigits (by decide) (by decide) present
  rw [digitsValue, same _ _ digits, Nat.ofDigitChars_ten_toDigits]

namespace Language

variable {σ υ : Type} [TokenStream σ Char] [LawfulTokenStream σ]

/-- Whether a character may go on a number after its first digits. -/
def goesOnNumber (c : Char) : Bool :=
  c.isDigit || "xX".toList.contains c || "oO".toList.contains c

theorem stopsAt_isDigit_of_goesOnNumber {rest : List Char} (stops : StopsAt goesOnNumber rest) :
    StopsAt Char.isDigit rest :=
  stops.mono fun c digit => by simp only [goesOnNumber, digit, Bool.true_or]

/-- Whether a character is a digit of a base. -/
def isDigitIn : (base : Nat) → Char → Bool
  | 16 => isHexDigit
  | 8 => isOctalDigit
  | _ => Char.isDigit

omit [LawfulTokenStream σ] in
/-- In each base, digits are characters of a class. -/
theorem exists_digit (base : Nat) :
    ∃ digit : Parser σ υ Char, digit.TakesChar (isDigitIn base) ∧
      digitsIn base = digit.many1.map (Digits.mk base) := by
  by_cases hex : base = 16
  · subst hex
    exact ⟨Parser.hexDigit, (Parser.satisfy_takesChar isHexDigit).label _, rfl⟩
  by_cases octal : base = 8
  · subst octal
    exact ⟨Parser.octalDigit, (Parser.satisfy_takesChar isOctalDigit).label _, rfl⟩
  have decimal : isDigitIn base = Char.isDigit := isDigitIn.eq_3 base hex octal
  refine ⟨Parser.digit, ?_, digitsIn.eq_3 base hex octal⟩
  rw [decimal]
  exact (Parser.satisfy_takesChar Char.isDigit).label _

/-- A run of digits is read up to its end. -/
theorem digitsIn_reads
    {base : Nat}
    {word rest : List Char}
    (all : ∀ c ∈ word, isDigitIn base c = true)
    (some : word ≠ [])
    (stops : StopsAt (isDigitIn base) rest) :
    (digitsIn base : Parser σ υ Digits).Reads View.tokens word ⟨base, word⟩ rest := by
  obtain ⟨digit, takes, found⟩ := exists_digit (σ := σ) (υ := υ) base
  rw [found]
  exact (takes.many1_reads all stops some).map (Digits.mk base)

/-- What does not start with a digit is refused. -/
theorem digitsIn_refuses
    {base : Nat}
    {rest : List Char}
    (stops : StopsAt (isDigitIn base) rest) :
    (digitsIn base : Parser σ υ Digits).Refuses View.tokens rest := by
  obtain ⟨digit, takes, found⟩ := exists_digit (σ := σ) (υ := υ) base
  rw [found]
  exact ((takes.refuses stops).zipWith _).map _

theorem digitsIn_ten_reads
    {word rest : List Char}
    (all : ∀ c ∈ word, c.isDigit = true)
    (some : word ≠ [])
    (stops : StopsAt Char.isDigit rest) :
    (digitsIn 10 : Parser σ υ Digits).Reads View.tokens word ⟨10, word⟩ rest :=
  digitsIn_reads all some stops

theorem digitsIn_ten_refuses
    {rest : List Char}
    (stops : StopsAt Char.isDigit rest) :
    (digitsIn 10 : Parser σ υ Digits).Refuses View.tokens rest :=
  digitsIn_refuses stops

/-- The digits of another base are refused where their mark does not come. -/
theorem basedDigits_refuse
    {marks : String}
    {rest : List Char}
    (stops : StopsAt (fun c => marks.toList.contains c) rest)
    (base : Nat) :
    ((Parser.oneOf marks).keepRight (digitsIn base) : Parser σ υ Digits).Refuses
      View.tokens rest :=
  ((Parser.satisfy_takesChar _).refuses stops).zipWith _

/-- Digits do not start with a mark that is none. -/
theorem stopsAt_marks
    {marks : String}
    {word : List Char}
    (noDigit : marks.toList.all (fun c => !c.isDigit) = true)
    (all : ∀ c ∈ word, c.isDigit = true) :
    StopsAt (fun c => marks.toList.contains c) word := by
  intro c first
  cases mark : marks.toList.contains c with
  | false => exact mark
  | true =>
      have notDigit := List.all_eq_true.mp noDigit c (List.contains_iff_mem.mp mark)
      rw [all c (List.mem_of_mem_head? first)] at notDigit
      contradiction

/-- Digits in another base start with its mark. -/
theorem otherBases_refuse_of_stopsAt
    {rest : List Char}
    (stops : StopsAt (fun c => "xXoO".toList.contains c) rest) :
    (hexDigits.orElse octalDigits : Parser σ υ Digits).Refuses View.tokens rest := by
  have hex : (hexDigits : Parser σ υ Digits).Refuses View.tokens rest := by
    refine basedDigits_refuse (stops.mono fun c mark => ?_) 16
    rw [List.contains_iff_mem] at mark ⊢
    exact List.mem_append_left "oO".toList mark
  have octal : (octalDigits : Parser σ υ Digits).Refuses View.tokens rest := by
    refine basedDigits_refuse (stops.mono fun c mark => ?_) 8
    rw [List.contains_iff_mem] at mark ⊢
    exact List.mem_append_right "xX".toList mark
  exact hex.orElse octal

/-- Digits in base ten are not read in another base. -/
theorem otherBases_refuse
    {word rest : List Char}
    (all : ∀ c ∈ word, c.isDigit = true)
    (stops : StopsAt goesOnNumber rest) :
    (hexDigits.orElse octalDigits : Parser σ υ Digits).Refuses View.tokens (word ++ rest) := by
  have stopsMarks : StopsAt (fun c => "xXoO".toList.contains c) rest := by
    refine stops.mono fun c mark => ?_
    have split : "xXoO".toList = "xX".toList ++ "oO".toList := rfl
    rw [List.contains_iff_mem, split, List.mem_append] at mark
    rcases mark with hex | octal
    · simp only [goesOnNumber, List.contains_iff_mem.mpr hex, Bool.or_true, Bool.true_or]
    · simp only [goesOnNumber, List.contains_iff_mem.mpr octal, Bool.or_true]
  exact otherBases_refuse_of_stopsAt ((stopsAt_marks (by decide) all).append stopsMarks)

omit [LawfulTokenStream σ] in
/-- A number is read as a zero and what comes behind it. -/
theorem naturalDigits_reads_of_zero
    {ι : Type}
    {view : View σ υ ι}
    {zero word rest : List ι}
    {digits : Digits}
    (first : (Parser.char '0').Reads view zero '0' (word ++ rest))
    (behind : (((hexDigits.orElse octalDigits).orElse (digitsIn 10)).orElse
      (Parser.pure ⟨10, ['0']⟩)).Reads view word digits rest) :
    naturalDigits.Reads view (zero ++ word) digits rest :=
  ((first.zipWith behind fun _ digits => digits).labels [""]).orElse (digitsIn 10)

omit [LawfulTokenStream σ] in
/-- Digits are read behind a zero and the mark of their base. -/
theorem naturalDigits_reads_based
    {ι : Type}
    {view : View σ υ ι}
    {zero word rest : List ι}
    {digits : Digits}
    (first : (Parser.char '0').Reads view zero '0' (word ++ rest))
    (based : (hexDigits.orElse octalDigits).Reads view word digits rest) :
    naturalDigits.Reads view (zero ++ word) digits rest :=
  naturalDigits_reads_of_zero first
    ((based.orElse (digitsIn 10)).orElse (Parser.pure ⟨10, ['0']⟩))

/-- After a zero, more digits in base ten are read if there are any. -/
theorem afterZero_reads
    {word rest : List Char}
    (all : ∀ c ∈ word, c.isDigit = true)
    (stops : StopsAt goesOnNumber rest) :
    ∃ chars, digitsValue 10 chars = digitsValue 10 ('0' :: word) ∧
      (((hexDigits.orElse octalDigits).orElse (digitsIn 10)).orElse
        (Parser.pure ⟨10, ['0']⟩) : Parser σ υ Digits).Reads View.tokens
          word ⟨10, chars⟩ rest := by
  have otherBases := otherBases_refuse (σ := σ) (υ := υ) all stops
  have stopsDigits := stopsAt_isDigit_of_goesOnNumber stops
  cases word with
  | nil =>
      have decimalRefuses := digitsIn_ten_refuses (σ := σ) (υ := υ) stopsDigits
      have refuses := otherBases.orElse decimalRefuses
      exact ⟨['0'], rfl, refuses.orElse_reads (Parser.pure_reads _)⟩
  | cons d word =>
      have reads := digitsIn_ten_reads (σ := σ) (υ := υ) all (by simp) stopsDigits
      exact ⟨d :: word, rfl, (otherBases.orElse_reads reads).orElse _⟩

/-- Digits in base ten are read as a whole; a zero in front of others is dropped. -/
theorem naturalDigits_reads
    {word rest : List Char}
    (all : ∀ c ∈ word, c.isDigit = true)
    (some : word ≠ [])
    (stops : StopsAt goesOnNumber rest) :
    ∃ chars, digitsValue 10 chars = digitsValue 10 word ∧
      (naturalDigits : Parser σ υ Digits).Reads View.tokens word ⟨10, chars⟩ rest := by
  obtain ⟨c, word, rfl⟩ := List.exists_cons_of_ne_nil some
  by_cases zero : c = '0'
  · subst zero
    obtain ⟨chars, sameValue, reads⟩ :=
      afterZero_reads (σ := σ) (υ := υ) (fun d present => all d (.tail _ present)) stops
    exact ⟨chars, sameValue, naturalDigits_reads_of_zero (Parser.char_reads '0' _) reads⟩
  · have stopsDigits := stopsAt_isDigit_of_goesOnNumber stops
    have reads := digitsIn_ten_reads (σ := σ) (υ := υ) all some stopsDigits
    have notZero : '0' ∉ (c :: (word ++ rest)).head? := by simpa [eq_comm] using zero
    have refuses := Parser.char_refuses (σ := σ) (υ := υ) notZero
    exact ⟨c :: word, rfl, ((refuses.zipWith _).labels _).orElse_reads reads⟩

/-- Without a digit there is no natural number. -/
theorem naturalDigits_refuses
    {rest : List Char}
    (stops : StopsAt Char.isDigit rest) :
    (naturalDigits : Parser σ υ Digits).Refuses View.tokens rest := by
  have notZero : '0' ∉ rest.head? := fun first => by
    have notDigit := stops '0' first
    contradiction
  have zeroRefuses := Parser.char_refuses (σ := σ) (υ := υ) notZero
  exact ((zeroRefuses.zipWith _).labels _).orElse (digitsIn_ten_refuses stops)

/-- A natural number is read from its decimal digits if the range holds it. -/
theorem naturalDigits_integerOf_reads
    {range : IntegerRange}
    {value : Nat}
    {rest : List Char}
    (zeroInside : range.contains 0 = true)
    (inside : range.contains value = true)
    (stops : StopsAt goesOnNumber rest) :
    (naturalDigits.bind fun digits => integerOf range digits false : Parser σ υ Int).Reads
      View.tokens (decimalDigits value) value rest := by
  rw [decimalDigits_eq]
  have all : ∀ c ∈ Nat.toDigits 10 value, c.isDigit = true :=
    fun c present => Nat.isDigit_of_mem_toDigits (by decide) (by decide) present
  obtain ⟨chars, sameValue, reads⟩ :=
    naturalDigits_reads (σ := σ) (υ := υ) all Nat.toDigits_ne_nil stops
  refine reads.bindNil ?_
  rw [digitsValue_toDigits] at sameValue
  have found : (Digits.mk 10 chars).inRange? false range = some (value : Int) := by
    rw [Digits.inRange?_eq_fit? zeroInside (by decide), sameValue, IntegerRange.fit?, if_pos inside]
  rw [integerOf, found]
  exact Parser.pure_reads _

end Language
end Predictive
