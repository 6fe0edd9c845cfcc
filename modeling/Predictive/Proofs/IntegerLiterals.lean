import Mathlib.Data.Nat.Digits.Defs
import Predictive.Proofs.CharacterClasses
import Predictive.Proofs.Failing
import Predictive.Proofs.Spacing

/-!
# Integers are decoded exactly

An integer is written in base ten, or in base eight or sixteen behind a zero and a mark, with any
number of leading zeros. The check of a range digit by digit looks at all beginnings of the number.
They lie between zero and the number, above it for a negative one, so the number is found exactly if
the range holds it and is too large otherwise. White space between a sign and its number belongs to
neither. Where the white space behind a number ends in a comment that is never closed, the whole
integer fails with it.
-/

namespace Predictive

/-! ## Ranges and digits -/

namespace IntegerRange

/-- The integers whose negatives lie in the range. -/
def mirrored (range : IntegerRange) : IntegerRange :=
  ⟨range.greatest?.map (-·), range.least?.map (-·)⟩

/-- The mirrored range holds the negatives of what the range holds. -/
theorem contains_mirrored (range : IntegerRange) (value : Int) :
    range.mirrored.contains value = range.contains (-value) := by
  obtain ⟨least?, greatest?⟩ := range
  rw [contains, contains, mirrored, Bool.and_comm]
  congr 1
  · cases least? with
    | none => rfl
    | some least =>
        simp only [Option.map_some, Option.all_some, decide_eq_decide]
        exact le_neg
  · cases greatest? with
    | none => rfl
    | some greatest =>
        simp only [Option.map_some, Option.all_some, decide_eq_decide]
        exact neg_le

/-- A negative fits where its opposite fits the mirrored range. -/
theorem fit?_neg (range : IntegerRange) (value : Int) :
    range.fit? (-value) = (range.mirrored.fit? value).map (-·) := by
  rw [fit?, fit?, contains_mirrored]
  split <;> rfl

end IntegerRange

namespace Digits

/-- Digits are taken off in a range as they are added in the mirrored one. -/
theorem foldlM_mirrored
    (range : IntegerRange)
    (base : Nat)
    (chars : List Char)
    (start : Int) :
    chars.foldlM (fun (value : Int) c => do
      let scaled ← range.fit? (value * base)
      range.fit? (scaled - digitValue c)) (-start) =
        (chars.foldlM (fun (value : Int) c => do
          let scaled ← range.mirrored.fit? (value * base)
          range.mirrored.fit? (scaled + digitValue c)) start).map (-·) := by
  induction chars generalizing start with
  | nil => rfl
  | cons c chars ih =>
      rw [List.foldlM_cons, List.foldlM_cons, Int.neg_mul, IntegerRange.fit?_neg]
      cases range.mirrored.fit? (start * base) with
      | none => rfl
      | some scaled =>
          have step : -scaled - (digitValue c : Int) = -(scaled + digitValue c) := by omega
          simp only [Option.map_some, Option.bind_eq_bind, Option.bind_some, step,
            IntegerRange.fit?_neg]
          cases range.mirrored.fit? (scaled + digitValue c) with
          | none => rfl
          | some value => exact ih value

/-- The check of a range digit by digit is a check of the whole number, whatever its sign. -/
theorem inRange?_signed
    {range : IntegerRange}
    {base : Nat}
    (zeroInside : range.contains 0 = true)
    (positive : 0 < base)
    (chars : List Char)
    (negative : Bool) :
    (Digits.mk base chars).inRange? negative range =
      range.fit?
        (if negative then -(digitsValue base chars : Int) else digitsValue base chars) := by
  cases negative with
  | false => exact inRange?_eq_fit? zeroInside positive chars
  | true =>
      have mirroredInside : range.mirrored.contains 0 = true := by
        rw [IntegerRange.contains_mirrored]
        exact zeroInside
      have mirrored := foldlM_mirrored range base chars 0
      exact mirrored.trans ((congrArg (Option.map (-·)) (inRange?_eq_fit? mirroredInside positive
        chars)).trans (range.fit?_neg _).symm)

end Digits

/-- The value of digits is the sum of the digits times the powers of the base. -/
theorem digitsValue_eq_ofDigits (base : Nat) (digits : List Char) :
    digitsValue base digits = Nat.ofDigits base (digits.reverse.map digitValue) := by
  rw [Nat.ofDigits_eq_foldr, List.foldr_map, List.foldr_reverse, digitsValue]
  congr 1
  funext value c
  rw [Nat.cast_id, Nat.add_comm, Nat.mul_comm]

/-! ## Written numbers -/

/-- A natural number as it may be written. -/
inductive NaturalLiteral : (text : List Char) → (value : Nat) → Prop
  | decimal
      {digits : List Char}
      (some : digits ≠ [])
      (all : ∀ c ∈ digits, c.isDigit = true) :
      NaturalLiteral digits (Nat.ofDigits 10 (digits.reverse.map digitValue))
  | octal
      {mark : Char}
      {digits : List Char}
      (isMark : mark = 'o' ∨ mark = 'O')
      (some : digits ≠ [])
      (all : ∀ c ∈ digits, isOctalDigit c = true) :
      NaturalLiteral ('0' :: mark :: digits) (Nat.ofDigits 8 (digits.reverse.map digitValue))
  | hexadecimal
      {mark : Char}
      {digits : List Char}
      (isMark : mark = 'x' ∨ mark = 'X')
      (some : digits ≠ [])
      (all : ∀ c ∈ digits, isHexDigit c = true) :
      NaturalLiteral ('0' :: mark :: digits) (Nat.ofDigits 16 (digits.reverse.map digitValue))

/-- A sign as it may be written, and whether it is a minus. -/
inductive SignText : (text : List Char) → (negative : Bool) → Prop
  | absent : SignText [] false
  | plus : SignText ['+'] false
  | minus : SignText ['-'] true

/-- The integer with a sign and a size. -/
def signedValue (negative : Bool) (size : Nat) : Int :=
  if negative then -size else size

/-- A number starts with a digit. -/
theorem NaturalLiteral.exists_cons {text : List Char} {value : Nat}
    (written : NaturalLiteral text value) :
    ∃ c others, text = c :: others ∧ c.isDigit = true := by
  cases written with
  | decimal some all =>
      obtain ⟨c, others, rfl⟩ := List.exists_cons_of_ne_nil some
      exact ⟨c, others, rfl, all c List.mem_cons_self⟩
  | octal isMark some all => exact ⟨_, _, rfl, rfl⟩
  | hexadecimal isMark some all => exact ⟨_, _, rfl, rfl⟩

/-- An integer is written as a sign and a number. -/
theorem decimalText_written (value : Int) :
    ∃ sign negative literal, SignText sign negative ∧ NaturalLiteral literal value.natAbs ∧
      (decimalText value).toList = sign ++ literal ∧ signedValue negative value.natAbs = value := by
  have literal : NaturalLiteral (Nat.toDigits 10 value.natAbs) value.natAbs := by
    have digits : ∀ c ∈ Nat.toDigits 10 value.natAbs, c.isDigit = true :=
      fun c present => Nat.isDigit_of_mem_toDigits (by decide) (by decide) present
    have written := NaturalLiteral.decimal Nat.toDigits_ne_nil digits
    rwa [← digitsValue_eq_ofDigits, digitsValue_toDigits] at written
  rw [decimalText, String.toList_ofList, decimalDigits_eq]
  split
  · exact ⟨['-'], true, _, .minus, literal, rfl, by simp only [signedValue, if_true]; omega⟩
  · exact ⟨[], false, _, .absent, literal, rfl, by
      simp only [signedValue, Bool.false_eq_true, if_false]
      omega⟩

namespace Language

/-- Digits are no signs. -/
theorem not_sign_of_isDigit {c : Char} (digit : c.isDigit = true) :
    "+-".toList.contains c = false :=
  (stopsAt_cons_iff _ c []).mp (stopsAt_marks (by decide) (List.forall_mem_singleton.mpr digit))

theorem stopsAt_sign_of_blank
    {spaces : List Char}
    (blank : ∀ c ∈ spaces, Unicode.isWhiteSpace c = true) :
    StopsAt (fun c => "+-".toList.contains c) spaces := by
  intro c first
  cases isSign : "+-".toList.contains c with
  | false => exact isSign
  | true =>
      have notBlank := Unicode.isWhiteSpace_of_mem (by decide) (List.contains_iff_mem.mp isSign)
      rw [blank c (List.mem_of_mem_head? first)] at notBlank
      contradiction

/-- No comment starts with a digit. -/
structure SparesDigits {σ υ : Type} (language : Language σ υ) : Prop where
  line : StopsAt Char.isDigit language.commentLine.toList
  block : StopsAt Char.isDigit language.commentStart.toList

/-- A text that does not start with a digit is not found where a digit comes. -/
theorem not_isPrefix_of_isDigit
    {text : String}
    (some : text ≠ "")
    (stops : StopsAt Char.isDigit text.toList)
    {c : Char}
    (digit : c.isDigit = true)
    (rest : List Char) :
    ¬ text.toList <+: c :: rest := by
  obtain ⟨first, others, split⟩ := List.exists_cons_of_ne_nil (toList_ne_nil some)
  rw [split, stopsAt_cons_iff] at stops
  rw [split, List.cons_prefix_cons]
  rintro ⟨rfl, -⟩
  rw [digit] at stops
  contradiction

/-- A digit starts neither white space nor a comment in a language that spares them. -/
theorem SparesDigits.solidAt
    {σ υ : Type}
    {language : Language σ υ}
    (spares : language.SparesDigits)
    {c : Char}
    (digit : c.isDigit = true)
    (rest : List Char) :
    language.SolidAt (c :: rest) where
  notBlank := (stopsAt_cons_iff _ _ _).mpr (Unicode.isWhiteSpace_of_isDigit digit)
  notLine some := not_isPrefix_of_isDigit some spares.line digit rest
  notBlock some := not_isPrefix_of_isDigit some spares.block digit rest

/-- What a parser of integers makes of a text that stands for an integer: it yields the integer if
the range holds it, and fails and says so if not. Blanks behind the text are skipped; the parser
fails if a comment among them is never closed. -/
structure Decodes
    {σ υ : Type}
    [TokenStream σ Char]
    (language : Language σ υ)
    (parser : Parser σ υ Int)
    (range : IntegerRange)
    (value : Int)
    (text rest : List Char) : Prop where
  exact :
    range.contains value = true → ∀ ⦃left⦄, language.Skipped rest left → language.SolidAt left →
      ∀ ⦃state⦄, View.tokens state (text ++ rest) →
        ∃ next error, parser.Yields state true value next error ∧ View.tokens next left
  unclosed :
    range.contains value = true → ∀ ⦃left⦄, language.Skipped rest left →
      language.UnclosedAt left →
        ∀ ⦃state⦄, View.tokens state (text ++ rest) → ∃ error, parser.Fails state true error
  tooLarge :
    range.contains value = false → ∀ ⦃state⦄, View.tokens state (text ++ rest) →
      ∃ error, parser.Fails state true error ∧
        ⟨.generic, "integer literal is too large"⟩ ∈ error.messages

section
variable {σ υ : Type} [TokenStream σ Char]

/-! ## Digits -/

/-- Digits report nothing beyond the place where they end. -/
theorem digitsIn_reportsWithin (base : Nat) :
    (digitsIn base : Parser σ υ Digits).ReportsWithin := by
  have digit (predicate : Char → Bool) (name : String) :
      ((Parser.satisfy predicate : Parser σ υ Char).label name).many1.ReportsWithin :=
    ((Parser.satisfy_reportsWithin predicate).labels _).zipWith
      ((Parser.satisfy_reportsWithin predicate).labels _).many _
  refine Parser.ReportsWithin.map ?_ _
  split
  · exact digit isHexDigit _
  · exact digit isOctalDigit _
  · exact digit Char.isDigit _

/-- Digits in any base report nothing beyond the place where they end. -/
theorem naturalDigits_reportsWithin :
    (naturalDigits : Parser σ υ Digits).ReportsWithin := by
  have based (marks : String) (base : Nat) :
      ((Parser.oneOf marks).keepRight (digitsIn base) : Parser σ υ Digits).ReportsWithin :=
    (Parser.satisfy_reportsWithin _).zipWith (digitsIn_reportsWithin base) _
  have afterZero := (((based "xX" 16).orElse (based "oO" 8)).orElse
    (digitsIn_reportsWithin 10)).orElse (Parser.pure_reportsWithin ⟨10, ['0']⟩)
  exact ((((Parser.satisfy_reportsWithin _).labels _).zipWith afterZero _).labels _).orElse
    (digitsIn_reportsWithin 10)

variable [LawfulTokenStream σ]

/-- Digits are read behind the mark of their base. -/
theorem char_reads_mark
    {marks : String}
    {mark : Char}
    (isMark : marks.toList.contains mark = true)
    {base : Nat}
    {digits rest : List Char}
    (all : ∀ c ∈ digits, isDigitIn base c = true)
    (some : digits ≠ [])
    (stops : StopsAt (isDigitIn base) rest) :
    ((Parser.oneOf marks).keepRight (digitsIn base) : Parser σ υ Digits).Reads View.tokens
      (mark :: digits) ⟨base, digits⟩ rest :=
  ((Parser.satisfy_takesChar _).reads isMark (digits ++ rest)).zipWith
    (digitsIn_reads all some stops) _

/-- A number is read as a whole in front of anything but a letter or digit of ASCII. -/
theorem exists_naturalDigits_reads
    {text : List Char}
    {value : Nat}
    (written : NaturalLiteral text value)
    {rest : List Char}
    (ends : StopsAt Char.isAlphanum rest) :
    ∃ digits : Digits, 0 < digits.base ∧ digitsValue digits.base digits.chars = value ∧
      (naturalDigits : Parser σ υ Digits).Reads View.tokens text digits rest := by
  have stops (base : Nat) : StopsAt (isDigitIn base) rest :=
    ends.mono fun _ => Unicode.isAlphanum_of_isDigitIn
  cases written with
  | decimal some all =>
      have stopsNumber := ends.mono fun _ => Unicode.isAlphanum_of_goesOnNumber
      obtain ⟨chars, sameValue, reads⟩ :=
        naturalDigits_reads (σ := σ) (υ := υ) all some stopsNumber
      exact ⟨⟨10, chars⟩, Nat.succ_pos 9, sameValue.trans (digitsValue_eq_ofDigits 10 _), reads⟩
  | octal isMark some all =>
      rename_i mark digits
      have notHex : "xX".toList.contains mark = false := by
        rcases isMark with rfl | rfl <;> decide
      have octalMark : "oO".toList.contains mark = true := by
        rcases isMark with rfl | rfl <;> decide
      have hexRefuses : (hexDigits : Parser σ υ Digits).Refuses View.tokens
          (mark :: digits ++ rest) :=
        basedDigits_refuse ((stopsAt_cons_iff _ _ _).mpr notHex) 16
      have reads := char_reads_mark (σ := σ) (υ := υ) octalMark all some (stops 8)
      exact ⟨⟨8, digits⟩, Nat.succ_pos 7, digitsValue_eq_ofDigits 8 digits,
        naturalDigits_reads_based (Parser.char_reads '0' _) (hexRefuses.orElse_reads reads)⟩
  | hexadecimal isMark some all =>
      rename_i mark digits
      have hexMark : "xX".toList.contains mark = true := by
        rcases isMark with rfl | rfl <;> decide
      have reads := char_reads_mark (σ := σ) (υ := υ) hexMark all some (stops 16)
      exact ⟨⟨16, digits⟩, Nat.succ_pos 15, digitsValue_eq_ofDigits 16 digits,
        naturalDigits_reads_based (Parser.char_reads '0' _) (reads.orElse octalDigits)⟩

omit [LawfulTokenStream σ] in
/-- Without a sign the number is not negative. -/
theorem sign_reads_absent
    {ι : Type}
    {view : View σ υ ι}
    {rest : List ι}
    (notMinus : (Parser.char '-').Refuses view rest)
    (notPlus : (Parser.char '+').Refuses view rest) :
    sign.Reads view [] false rest := by
  have noSign := (notMinus.map fun _ => true).orElse (notPlus.map fun _ => false)
  exact noSign.orElse_reads (Parser.pure_reads false)

/-- A sign is read in front of anything but a sign. -/
theorem sign_reads
    {text : List Char}
    {negative : Bool}
    (written : SignText text negative)
    {rest : List Char}
    (stops : StopsAt (fun c => "+-".toList.contains c) rest) :
    (sign : Parser σ υ Bool).Reads View.tokens text negative rest := by
  have notSign (mark : Char) (isSign : "+-".toList.contains mark = true) :
      (Parser.char mark : Parser σ υ Char).Refuses View.tokens rest :=
    (Parser.char_takesChar mark).refuses (stops.mono fun c same => by rwa [eq_of_beq same])
  cases written with
  | absent => exact sign_reads_absent (notSign '-' (by decide)) (notSign '+' (by decide))
  | plus =>
      have notMinus : '-' ∉ ('+' :: rest).head? := by simp
      have minusRefuses := Parser.char_refuses (σ := σ) (υ := υ) notMinus
      have reads := Parser.char_reads (σ := σ) (υ := υ) '+' rest
      exact ((minusRefuses.map _).orElse_reads (reads.map _)).orElse _
  | minus =>
      have reads := Parser.char_reads (σ := σ) (υ := υ) '-' rest
      exact ((reads.map _).orElse _).orElse _

/-! ## Decoding -/

omit [TokenStream σ Char] [LawfulTokenStream σ] in
/-- Digits are decoded just if the range holds their value with its sign. -/
theorem integerOf_eq
    {range : IntegerRange}
    {digits : Digits}
    (zeroInside : range.contains 0 = true)
    (positive : 0 < digits.base)
    (negative : Bool) :
    (integerOf range digits negative : Parser σ υ Int) =
      if range.contains (signedValue negative (digitsValue digits.base digits.chars)) then
        Parser.pure (signedValue negative (digitsValue digits.base digits.chars))
      else Parser.fail "integer literal is too large" := by
  have checked : digits.inRange? negative range =
      range.fit? (signedValue negative (digitsValue digits.base digits.chars)) :=
    Digits.inRange?_signed zeroInside positive digits.chars negative
  rw [integerOf, checked, IntegerRange.fit?]
  by_cases inside : range.contains (signedValue negative
    (digitsValue digits.base digits.chars)) = true
  · rw [if_pos inside, if_pos inside]
  · rw [if_neg inside, if_neg inside]

omit [LawfulTokenStream σ] in
/-- A number of the range is read if its sign and digits are read and then checked. -/
theorem bind_integerOf_reads
    {α : Type}
    {source : Parser σ υ α}
    {following : α → Parser σ υ Int}
    {found : α}
    {range : IntegerRange}
    {digits : Digits}
    {negative : Bool}
    {text rest : List Char}
    (zeroInside : range.contains 0 = true)
    (positive : 0 < digits.base)
    (reads : source.Reads View.tokens text found rest)
    (checks : following found = integerOf range digits negative)
    (inside : range.contains (signedValue negative (digitsValue digits.base digits.chars)) = true) :
    (source.bind following).Reads View.tokens text
      (signedValue negative (digitsValue digits.base digits.chars)) rest := by
  refine reads.bindNil ?_
  rw [checks, integerOf_eq zeroInside positive, if_pos inside]
  exact Parser.pure_reads _

/-- A number is decoded if its sign and digits are read and then checked. -/
theorem decodes_of_reads
    {α : Type}
    (language : Language σ υ)
    {source : Parser σ υ α}
    (following : α → Parser σ υ Int)
    {found : α}
    {range : IntegerRange}
    {digits : Digits}
    (negative : Bool)
    {text rest : List Char}
    (zeroInside : range.contains 0 = true)
    (positive : 0 < digits.base)
    (some : text ≠ [])
    (reads : source.Reads View.tokens text found rest)
    (within : source.LeavesWithin)
    (checks : following found = integerOf range digits negative)
    (name : String) :
    language.Decodes ((language.lexeme (source.bind following)).label name) range
      (signedValue negative (digitsValue digits.base digits.chars)) text rest := by
  have consumes : (!text.isEmpty) = true := by simpa using some
  have yields := bind_integerOf_reads zeroInside positive reads checks
  refine ⟨fun inside left skipped solid state viewed => ?_,
    fun inside left skipped unclosed state viewed => ?_, fun outside state viewed => ?_⟩
  · obtain ⟨word, -, rfl, -⟩ := skipped.exists_rounds (σ := σ) (υ := υ)
    have lexeme := (yields inside).zipWith (skipped.whiteSpace_reads solid) fun value _ => value
    rw [← List.append_assoc] at viewed
    obtain ⟨next, error, ran, viewedNext⟩ := lexeme.labels [name] viewed
    rw [Parser.not_isEmpty_append, consumes] at ran
    exact ⟨next, error, ran, viewedNext⟩
  · obtain ⟨middle, earlier, ran, viewedMiddle⟩ := yields inside viewed
    obtain ⟨error, spaceFails⟩ := skipped.whiteSpace_fails unclosed viewedMiddle
    rw [consumes] at ran
    have lexemeFails := ran.zipWith_fails spaceFails fun value _ => value
    exact ⟨error, lexemeFails.labels [name]⟩
  · obtain ⟨middle, earlier, ran, -⟩ := reads viewed
    rw [consumes] at ran
    have checkFails : (following found).Fails middle false
        (.single middle.position .generic "integer literal is too large") := by
      rw [checks, integerOf_eq zeroInside positive, if_neg (ne_true_of_eq_false outside)]
      rfl
    have valueFails := ran.bind_fails checkFails
    have lexemeFails := valueFails.zipWith language.whiteSpace fun value _ => value
    -- Reading the number leaves no error behind its end, so this one is not dropped in merging.
    exact ⟨_, lexemeFails.labels [name], within.mem_merge ran _ _⟩

/-- A natural number is decoded exactly, in any base. -/
theorem naturalIn_decodes
    (language : Language σ υ)
    {range : IntegerRange}
    (zeroInside : range.contains 0 = true)
    {text rest : List Char}
    {value : Nat}
    (written : NaturalLiteral text value)
    (ends : StopsAt (fun c => !Unicode.isWhiteSpace c) rest) :
    language.Decodes (language.naturalIn range) range value text rest := by
  obtain ⟨digits, positive, rfl, reads⟩ := exists_naturalDigits_reads (σ := σ) (υ := υ) written
    (stopsAt_of_blank (fun _ => Unicode.isWhiteSpace_of_isAlphanum) ends)
  obtain ⟨c, others, rfl, -⟩ := written.exists_cons
  exact language.decodes_of_reads (fun digits => integerOf range digits false) false zeroInside
    positive (List.cons_ne_nil c others) reads naturalDigits_reportsWithin.leavesWithin rfl
    "natural"

/-- A sign and a number are read as a whole, with the white space between them. -/
theorem exists_signedDigits_reads
    (language : Language σ υ)
    (spares : language.SparesDigits)
    {signText spaces literal rest : List Char}
    {negative : Bool}
    {size : Nat}
    (signed : SignText signText negative)
    (blank : ∀ c ∈ spaces, Unicode.isWhiteSpace c = true)
    (written : NaturalLiteral literal size)
    (ends : StopsAt Char.isAlphanum rest) :
    ∃ digits : Digits, 0 < digits.base ∧ digitsValue digits.base digits.chars = size ∧
      ((language.lexeme sign).pair naturalDigits).Reads View.tokens (signText ++ spaces ++ literal)
        (negative, digits) rest := by
  obtain ⟨digits, positive, value, reads⟩ :=
    exists_naturalDigits_reads (σ := σ) (υ := υ) written ends
  obtain ⟨c, others, rfl, digit⟩ := written.exists_cons
  have skips : language.whiteSpace.Reads View.tokens spaces () (c :: others ++ rest) :=
    whiteSpace_reads_run blank (spares.solidAt digit _)
  have noSign : StopsAt (fun c => "+-".toList.contains c) (spaces ++ (c :: others ++ rest)) :=
    (stopsAt_sign_of_blank blank).append ((stopsAt_cons_iff _ _ _).mpr (not_sign_of_isDigit digit))
  have signRead := (sign_reads signed noSign).zipWith skips fun negative _ => negative
  exact ⟨digits, positive, value, signRead.zipWith reads Prod.mk⟩

/-- An integer of the range is read from its decimal text. -/
theorem signedDigits_integerOf_reads
    (language : Language σ υ)
    (spares : language.SparesDigits)
    {range : IntegerRange}
    {value : Int}
    {rest : List Char}
    (zeroInside : range.contains 0 = true)
    (inside : range.contains value = true)
    (ends : StopsAt Char.isAlphanum rest) :
    (((language.lexeme sign).pair naturalDigits).bind fun (negative, digits) =>
      integerOf range digits negative).Reads View.tokens (decimalText value).toList value rest := by
  obtain ⟨signText, negative, literal, signed, written, text, sameValue⟩ :=
    decimalText_written value
  obtain ⟨digits, positive, size, reads⟩ :=
    language.exists_signedDigits_reads spares signed (List.forall_mem_nil _) written ends
  rw [← size] at sameValue
  rw [List.append_nil, ← text] at reads
  have read : (((language.lexeme sign).pair naturalDigits).bind fun (negative, digits) =>
      integerOf range digits negative).Reads View.tokens (decimalText value).toList
        (signedValue negative (digitsValue digits.base digits.chars)) rest :=
    bind_integerOf_reads zeroInside positive reads rfl (by rwa [sameValue])
  rwa [sameValue] at read

/-- White space may stand between the sign and the number. -/
theorem integerIn_decodes
    (language : Language σ υ)
    (spares : language.SparesDigits)
    {range : IntegerRange}
    (zeroInside : range.contains 0 = true)
    {signText spaces literal rest : List Char}
    {negative : Bool}
    {size : Nat}
    (signed : SignText signText negative)
    (blank : ∀ c ∈ spaces, Unicode.isWhiteSpace c = true)
    (written : NaturalLiteral literal size)
    (ends : StopsAt (fun c => !Unicode.isWhiteSpace c) rest) :
    language.Decodes (language.integerIn range) range (signedValue negative size)
      (signText ++ spaces ++ literal) rest := by
  obtain ⟨digits, positive, rfl, reads⟩ := language.exists_signedDigits_reads spares signed blank
    written (stopsAt_of_blank (fun _ => Unicode.isWhiteSpace_of_isAlphanum) ends)
  obtain ⟨c, others, rfl, -⟩ := written.exists_cons
  have within := naturalDigits_reportsWithin.zipWith_leavesWithin naturalDigits_alwaysConsumes
    (language.lexeme sign) Prod.mk
  exact language.decodes_of_reads _ negative zeroInside positive (by simp) reads within rfl
    "integer"

/-- Integers are decoded exactly in every range that holds zero. A natural number has no sign; an
integer may have one, with white space behind it. So every integer is read back from its decimal
text, as long as it lies in the range. -/
theorem integers_decoded_exactly
    (language : Language σ υ)
    (spares : language.SparesDigits)
    {range : IntegerRange}
    (zeroInside : range.contains 0 = true)
    {rest : List Char}
    (ends : StopsAt (fun c => !Unicode.isWhiteSpace c) rest) :
    (∀ ⦃literal value⦄, NaturalLiteral literal value →
      language.Decodes (language.naturalIn range) range value literal rest) ∧
    (∀ ⦃signText negative spaces literal size⦄, SignText signText negative →
      (∀ c ∈ spaces, Unicode.isWhiteSpace c = true) → NaturalLiteral literal size →
        language.Decodes (language.integerIn range) range (signedValue negative size)
          (signText ++ spaces ++ literal) rest) ∧
    ∀ number : Int,
      language.Decodes (language.integerIn range) range number (decimalText number).toList
        rest := by
  refine ⟨fun literal value written => language.naturalIn_decodes zeroInside written ends,
    fun signText negative spaces literal size signed blank written =>
      language.integerIn_decodes spares zeroInside signed blank written ends, fun number => ?_⟩
  obtain ⟨sign, negative, literal, signed, written, text, value⟩ := decimalText_written number
  have decodes := language.integerIn_decodes spares zeroInside signed (List.forall_mem_nil _)
    written ends
  rwa [value, List.append_nil, ← text] at decodes

/-- The least integer of 16 bits, one with a blank behind its sign, and a number that is too large
for them. -/
theorem integers_decoded_exactly_extremes :
    let natural : Parser Text Unit Int := (haskellStyle : Language Text Unit).naturalIn (.signed 16)
    let integer : Parser Text Unit Int := (haskellStyle : Language Text Unit).integerIn (.signed 16)
    (∃ next error,
      integer.Yields ⟨Text.ofString "-32768", .start "t", ()⟩ true (-32768) next error) ∧
    (∃ next error, integer.Yields ⟨Text.ofString "- 0o17", .start "t", ()⟩ true (-15) next error) ∧
    ∃ error, natural.Fails ⟨Text.ofString "0x8000", .start "t", ()⟩ true error ∧
      ⟨.generic, "integer literal is too large"⟩ ∈ error.messages := by
  have spares : (haskellStyle : Language Text Unit).SparesDigits := by
    constructor <;> decide +kernel
  have zeroInside : (IntegerRange.signed 16).contains 0 = true := by decide
  obtain ⟨naturals, integers, texts⟩ :=
    integers_decoded_exactly (haskellStyle : Language Text Unit) spares zeroInside (stopsAt_nil _)
  refine ⟨?_, ?_, ?_⟩
  · have viewed : View.tokens (⟨Text.ofString "-32768", .start "t", ()⟩ : State Text Unit)
        ((decimalText (-32768)).toList ++ []) := by
      unfold View.tokens
      decide +kernel
    obtain ⟨next, error, ran, -⟩ :=
      (texts (-32768)).exact (by decide) .refl (solidAt_nil _) viewed
    exact ⟨next, error, ran⟩
  · have written : NaturalLiteral "0o17".toList 15 :=
      .octal (.inl rfl) (List.cons_ne_nil _ _) (List.all_eq_true.mp rfl)
    have blank : ∀ c ∈ [' '], Unicode.isWhiteSpace c = true := List.all_eq_true.mp rfl
    have decodes := integers .minus blank written
    have viewed : View.tokens (⟨Text.ofString "- 0o17", .start "t", ()⟩ : State Text Unit)
        (['-'] ++ [' '] ++ "0o17".toList ++ []) := by
      unfold View.tokens
      decide +kernel
    obtain ⟨next, error, ran, -⟩ := decodes.exact (by decide) .refl (solidAt_nil _) viewed
    exact ⟨next, error, ran⟩
  · have written : NaturalLiteral "0x8000".toList 0x8000 :=
      .hexadecimal (.inl rfl) (List.cons_ne_nil _ _) (List.all_eq_true.mp rfl)
    have viewed : View.tokens (⟨Text.ofString "0x8000", .start "t", ()⟩ : State Text Unit)
        ("0x8000".toList ++ []) := by
      unfold View.tokens
      decide +kernel
    exact (naturals written).tooLarge (by decide) viewed

/-- The comment behind the number stays open, so that there is no number either. -/
theorem natural_fails_before_unclosed_comment :
    let language : Language Text Unit := haskellStyle
    let state : State Text Unit := ⟨Text.ofString "12 \x7b-", .start "t", ()⟩
    language.SparesDigits ∧ NaturalLiteral "12".toList 12 ∧
      (IntegerRange.signed 64).contains 12 = true ∧
      StopsAt (fun c => !Unicode.isWhiteSpace c) " \x7b-".toList ∧
      View.tokens state ("12".toList ++ " \x7b-".toList) ∧
      ¬ ∃ consumed next error, language.natural.Yields state consumed 12 next error := by
  intro language state
  refine ⟨by constructor <;> decide +kernel, .decimal (by decide) (List.all_eq_true.mp rfl),
    by decide, by decide +kernel, ?_, ?_⟩
  · unfold View.tokens
    decide +kernel
  · rintro ⟨consumed, next, error, ran⟩
    have succeeds := Parser.exists_yields_iff.mp ⟨consumed, 12, next, error, ran⟩
    exact absurd succeeds (by decide +kernel)

end

end Language
end Predictive
