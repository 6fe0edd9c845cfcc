import Predictive.Proofs.DigitRuns
import Predictive.Proofs.IntegerLiterals
import Predictive.Proofs.Literals
import Predictive.Proofs.TokenBoundaries

/-!
# Ways to read a number

There are three ways to read a number that may be an integer or a float. One goes through the digits
once and decides behind them; it decodes the digits in front of a fraction as an integer of 64 bits,
so that a float with too many of them is refused. Another one reads floats only. The third one tries
a float with a sign first and goes back for an integer. They are compared on the states that they
pass: whichever of them goes along a run of digits, it comes to the same state, and there all of
them look for the same rest of a float.
-/

namespace Predictive

namespace Language

variable {σ υ : Type} [TokenStream σ Char]

/-! ## Parts of numbers -/

/-- A fraction or an exponent has at least its mark. -/
theorem floatTail_alwaysConsumes : (floatTail : Parser σ υ FloatTail).AlwaysConsumes := by
  have fraction : (fraction : Parser σ υ (List Char)).AlwaysConsumes :=
    (((Parser.AlwaysConsumes.satisfy _).labels _).zipWith _ _).labels _
  have exponent : (exponent : Parser σ υ Exponent).AlwaysConsumes :=
    (((Parser.AlwaysConsumes.satisfy _).zipWith _ _).zipWith _ _).labels _
  exact (fraction.zipWith _ _).orElse (exponent.map _)

/-- The marks of other bases are at least one letter. -/
theorem otherBases_alwaysConsume :
    (hexDigits.orElse octalDigits : Parser σ υ Digits).AlwaysConsumes :=
  ((Parser.AlwaysConsumes.satisfy _).zipWith _ _).orElse
    ((Parser.AlwaysConsumes.satisfy _).zipWith _ _)

/-- A zero in front of other digits does not change a float. -/
theorem toDecimal_zero (tail : FloatTail) (digits : List Char) :
    tail.toDecimal ('0' :: digits) = tail.toDecimal digits := by
  simp only [FloatTail.toDecimal, longDigitsValue_eq]
  rfl

/-- Digits of another base, decoded as an integer of 64 bits. -/
def basedNumber : Parser σ υ Number :=
  (hexDigits.orElse octalDigits).bind fun digits =>
    (integerOf (.signed 64) digits false).map Number.integer

/-- The rest of a number without sign behind a zero. -/
def zeroTail : Parser σ υ Number :=
  ((basedNumber.orElse decimalOrFloat).orElse (floatAfter ['0'])).orElse (Parser.pure (.integer 0))

/-- A number starts with a zero, behind which any base may come, or it is decimal. -/
theorem unsignedNumber_eq :
    (unsignedNumber : Parser σ υ Number) =
      ((Parser.char '0').keepRight zeroTail).orElse decimalOrFloat :=
  rfl

section
variable {state middle next : State σ υ} {consumed : Bool} {error : ParseError}

omit [TokenStream σ Char] in
/-- Decoding digits consumes nothing. -/
theorem integerOf_yields
    {range : IntegerRange}
    {digits : Digits}
    {negative : Bool}
    {value : Int}
    (ran : (integerOf range digits negative).Yields state consumed value next error) :
    digits.inRange? negative range = some value ∧ consumed = false ∧ next = state := by
  unfold integerOf at ran
  split at ran
  · rename_i found checked
    obtain ⟨rfl, rfl, rfl⟩ := ran.of_pure
    exact ⟨checked, rfl, rfl⟩
  · simp [Parser.Yields] at ran

omit [TokenStream σ Char] in
/-- Digits in base ten are decoded if they stand for a number within 64 bits. -/
theorem integerOf_decimal
    (digits : List Char) :
    (integerOf (.signed 64) ⟨10, digits⟩ false : Parser σ υ Int) =
      if (IntegerRange.signed 64).contains (digitsValue 10 digits) then
        Parser.pure (digitsValue 10 digits : Int)
      else Parser.fail "integer literal is too large" :=
  have positive : 0 < (Digits.mk 10 digits).base := Nat.succ_pos 9
  integerOf_eq rfl positive false

/-- Where there are no digits in base ten, there is no digit. -/
theorem digit_fails_of_digitsIn
    (failed : (digitsIn 10 : Parser σ υ Digits).Fails state false error) :
    (Parser.digit : Parser σ υ Char).Fails state false error :=
  failed.of_map.of_zipWith digit_takesChar.alwaysConsumes

/-- Behind its whole part a float has a fraction or an exponent. -/
theorem floatAfter_yields
    {whole : List Char}
    {value : Number}
    (ran : (floatAfter whole).Yields state consumed value next error) :
    ∃ tail found, floatTail.Yields state true tail next found ∧
      value = .float (tail.toDecimal whole).toFloat ∧ consumed = true := by
  obtain ⟨_, inner, rfl⟩ := Parser.map_yields_iff.mp ran
  obtain ⟨_, tail, _, _, _, _, tailRan, valued, rfl, -⟩ := Parser.bind_yields_iff.mp inner
  obtain ⟨rfl, rfl, rfl⟩ := valued.of_pure
  obtain rfl := tailRan.consumed_eq floatTail_alwaysConsumes
  exact ⟨tail, _, tailRan, rfl, rfl⟩

/-- The rest of a float makes a float of the digits in front of it. -/
theorem floatAfter_reads
    {tail : FloatTail}
    (ran : floatTail.Yields state true tail next error)
    (whole : List Char)
    (later : List (State σ υ)) :
    (floatAfter whole).Reads View.states [state] (.float (tail.toDecimal whole).toFloat)
      (next :: later) := by
  have value : (floatTail.bind fun tail => Parser.pure (tail.toDecimal whole).toFloat).Reads
      View.states [state] (tail.toDecimal whole).toFloat (next :: later) :=
    (ran.reads later).bindNil (Parser.pure_reads _)
  exact value.map Number.float

/-- A float is a run of digits with a fraction or an exponent behind it. -/
theorem unsignedFloat_yields
    {value : Float}
    (ran : unsignedFloat.Yields state consumed value next error) :
    ∃ whole tail middle found, whole ≠ [] ∧ DigitRun state whole middle ∧
      floatTail.Yields middle true tail next found ∧ value = (tail.toDecimal whole).toFloat ∧
        consumed = true := by
  obtain ⟨_, _, _, _, _, _, pairRan, valued, rfl, -⟩ := Parser.bind_yields_iff.mp ran
  obtain ⟨rfl, rfl, rfl⟩ := valued.of_pure
  obtain ⟨_, _, middle, _, _, tail, _, digitsRan, tailRan, rfl, rfl, -⟩ :=
    Parser.zipWith_yields_iff.mp pairRan
  obtain ⟨whole, some, rfl, run, rfl⟩ := DigitRun.of_digitsIn digitsRan
  obtain rfl := tailRan.consumed_eq floatTail_alwaysConsumes
  exact ⟨whole, tail, middle, _, some, run, tailRan, rfl, rfl⟩

/-- Digits with a fraction or an exponent behind them are read as a float. -/
theorem unsignedFloat_yields_of_run
    [LawfulTokenStream σ]
    {whole : List Char}
    {tail : FloatTail}
    (some : whole ≠ [])
    (run : DigitRun state whole middle)
    (tailRan : floatTail.Yields middle true tail next error) :
    ∃ found, unsignedFloat.Yields state true (tail.toDecimal whole).toFloat next found := by
  obtain ⟨_, digitsRan⟩ := run.digitsIn_yields some
  have parts := (digitsRan.reads [next]).zipWith (tailRan.reads []) Prod.mk
  have value : (Parser.pure (tail.toDecimal whole).toFloat : Parser σ υ Float).Reads View.states
      [] (tail.toDecimal whole).toFloat [next] := Parser.pure_reads _
  have reads : unsignedFloat.Reads View.states ([state] ++ [middle])
      (tail.toDecimal whole).toFloat [next] := parts.bindNil value
  exact reads.exists_yields

/-- Digits without a fraction or an exponent are no float. -/
theorem unsignedFloat_fails_of_run
    [LawfulTokenStream σ]
    {whole : List Char}
    (some : whole ≠ [])
    (run : DigitRun state whole middle)
    (noTail : (floatTail : Parser σ υ FloatTail).Fails middle false error) :
    ∃ found, (unsignedFloat : Parser σ υ Float).Fails state true found := by
  obtain ⟨_, digitsRan⟩ := run.digitsIn_yields some
  exact ⟨_, (digitsRan.zipWith_fails noTail Prod.mk).bind _⟩

/-- A decimal number is a run of digits, with or without a fraction or an exponent behind it. -/
theorem decimalOrFloat_yields
    {value : Number}
    (ran : decimalOrFloat.Yields state consumed value next error) :
    ∃ digits middle, digits ≠ [] ∧ DigitRun state digits middle ∧ consumed = true ∧
      ((∃ tail found, floatTail.Yields middle true tail next found ∧
          value = .float (tail.toDecimal digits).toFloat) ∨
        ∃ size found, floatTail.Fails middle false found ∧ next = middle ∧
          (Digits.mk 10 digits).inRange? false (.signed 64) = some size ∧
            value = .integer size) := by
  obtain ⟨_, _, middle, _, _, _, digitsRan, checkRan, rfl, -⟩ := Parser.bind_yields_iff.mp ran
  obtain ⟨digits, some, rfl, run, rfl⟩ := DigitRun.of_digitsIn digitsRan
  obtain ⟨_, _, _, _, _, _, sizeRan, tailRan, -, -⟩ := Parser.bind_yields_iff.mp checkRan
  obtain ⟨size, checked, rfl⟩ := Parser.map_yields_iff.mp sizeRan
  obtain ⟨inside, -, rfl⟩ := integerOf_yields checked
  refine ⟨digits, _, some, run, rfl, ?_⟩
  rcases Parser.orElse_yields_iff.mp tailRan with floatRan | ⟨_, _, notFloat, default, -⟩
  · obtain ⟨tail, found, tailYields, rfl, -⟩ := floatAfter_yields floatRan
    exact .inl ⟨tail, found, tailYields, rfl⟩
  · obtain ⟨-, rfl, rfl⟩ := default.of_pure
    exact .inr ⟨size, _, notFloat.of_map.of_bind floatTail_alwaysConsumes, rfl, inside, rfl⟩

/-! ## One way and another -/

/-- What the ways to read a number have in common. Behind some digits the rest of a float comes, or
it does not, and then they or the digits of another base are those of an integer of 64 bits. -/
inductive NumberAt : State σ υ → Number → State σ υ → Prop
  | float
      {state middle next : State σ υ}
      {whole : List Char}
      {tail : FloatTail}
      {error : ParseError}
      (some : whole ≠ [])
      (run : DigitRun state whole middle)
      (tailRan : floatTail.Yields middle true tail next error) :
      NumberAt state (.float (tail.toDecimal whole).toFloat) next
  | integer
      {state middle next : State σ υ}
      {whole : List Char}
      {digits : Digits}
      {value : Int}
      {error found : ParseError}
      (some : whole ≠ [])
      (run : DigitRun state whole middle)
      (noTail : floatTail.Fails middle false error)
      (digitsRan : naturalDigits.Yields state true digits next found)
      (inside : digits.inRange? false (.signed 64) = Option.some value) :
      NumberAt state (.integer value) next

/-- Digits of another base behind a zero. -/
theorem naturalDigits_yields_based
    {digits : Digits}
    {zeroError : ParseError}
    (zeroRan : (Parser.char '0').Yields state true '0' middle zeroError)
    (ran : (hexDigits.orElse octalDigits).Yields middle true digits next error) :
    ∃ found, naturalDigits.Yields state true digits next found :=
  (naturalDigits_reads_based (zeroRan.reads [next]) (ran.reads [])).exists_yields

/-- A zero with no digits behind it. -/
theorem naturalDigits_yields_zero
    {zeroError noDigits : ParseError}
    (zeroRan : (Parser.char '0').Yields state true '0' middle zeroError)
    (noBase : (hexDigits.orElse octalDigits).Fails middle false error)
    (alone : (digitsIn 10 : Parser σ υ Digits).Fails middle false noDigits) :
    ∃ found, naturalDigits.Yields state true ⟨10, ['0']⟩ middle found := by
  have noOthers := (noBase.refuses []).orElse (alone.refuses [])
  have behind := noOthers.orElse_reads (Parser.pure_reads ⟨10, ['0']⟩)
  exact (naturalDigits_reads_of_zero (zeroRan.reads []) behind).exists_yields

/-- Digits in base ten behind a zero. -/
theorem naturalDigits_yields_behind
    {zeroError digitsError : ParseError}
    {digits : Digits}
    (zeroRan : (Parser.char '0').Yields state true '0' middle zeroError)
    (noBase : (hexDigits.orElse octalDigits).Fails middle false error)
    (ran : (digitsIn 10).Yields middle true digits next digitsError) :
    ∃ found, naturalDigits.Yields state true digits next found := by
  have decimal := (noBase.refuses [next]).orElse_reads (ran.reads [])
  have behind := decimal.orElse (Parser.pure ⟨10, ['0']⟩)
  exact (naturalDigits_reads_of_zero (zeroRan.reads [next]) behind).exists_yields

/-- Digits in base ten that start with no zero. -/
theorem naturalDigits_yields_decimal
    {digitsError : ParseError}
    {digits : Digits}
    (noZero : (Parser.char '0' : Parser σ υ Char).Fails state false error)
    (ran : (digitsIn 10).Yields state true digits next digitsError) :
    ∃ found, naturalDigits.Yields state true digits next found := by
  have notZero := noZero.refuses [next]
  have decimal : naturalDigits.Reads View.states [state] digits [next] :=
    ((notZero.zipWith _).labels [""]).orElse_reads (ran.reads [])
  exact decimal.exists_yields

variable [LawfulTokenStream σ]

/-- A text either starts with one of certain characters or stops them. -/
theorem stopsAt_or_starts (predicate : Char → Bool) (text : List Char) :
    StopsAt predicate text ∨ ∃ c rest, text = c :: rest ∧ predicate c = true := by
  cases text with
  | nil => exact .inl (stopsAt_nil predicate)
  | cons c rest =>
      cases holds : predicate c with
      | false => exact .inl ((stopsAt_cons_iff predicate c rest).mpr holds)
      | true => exact .inr ⟨c, rest, rfl, holds⟩

/-- The mark of another base is no digit in base ten and starts no rest of a float. -/
theorem refuse_of_otherBases
    {digits : Digits}
    (ran : (hexDigits.orElse octalDigits).Yields state consumed digits next error) :
    (∃ found, (Parser.digit : Parser σ υ Char).Fails state false found) ∧
      ∃ found, (floatTail : Parser σ υ FloatTail).Fails state false found := by
  rcases stopsAt_or_starts (fun c => "xXoO".toList.contains c) (TokenStream.toList state.input) with
    stops | ⟨c, rest, viewed, mark⟩
  · obtain ⟨found, failed⟩ := otherBases_refuse_of_stopsAt (υ := υ) stops rfl
    exact absurd failed ran.not_fails
  · have apart : "xXoO".toList.all (fun d => !d.isDigit && !".eE".toList.contains d) = true := by
      decide
    obtain ⟨notDigit, notTail⟩ : c.isDigit = false ∧ ".eE".toList.contains c = false := by
      simpa using List.all_eq_true.mp apart c (List.contains_iff_mem.mp mark)
    exact ⟨digit_takesChar.refuses ((stopsAt_cons_iff _ c rest).mpr notDigit) viewed,
      floatTail_refuses ((stopsAt_cons_iff _ c rest).mpr notTail) viewed⟩

/-- The rest of a float does not start with the mark of another base. -/
theorem otherBases_fail_of_floatTail
    {tail : FloatTail}
    (ran : floatTail.Yields state consumed tail next error) :
    ∃ found, (hexDigits.orElse octalDigits : Parser σ υ Digits).Fails state false found := by
  rcases stopsAt_or_starts (fun c => ".eE".toList.contains c) (TokenStream.toList state.input) with
    stops | ⟨c, rest, viewed, mark⟩
  · obtain ⟨found, failed⟩ := floatTail_refuses (υ := υ) stops rfl
    exact absurd failed ran.not_fails
  · have apart : ".eE".toList.all (fun d => !"xXoO".toList.contains d) = true := by
      decide
    have notBase : "xXoO".toList.contains c = false := by
      simpa using List.all_eq_true.mp apart c (List.contains_iff_mem.mp mark)
    exact otherBases_refuse_of_stopsAt ((stopsAt_cons_iff _ c rest).mpr notBase) viewed

/-- The digits of a number in base ten do not start with the mark of another base. -/
theorem otherBases_fail_of_digitRun
    {digits : List Char}
    (run : DigitRun state digits next)
    (some : digits ≠ []) :
    ∃ found, (hexDigits.orElse octalDigits : Parser σ υ Digits).Fails state false found := by
  obtain ⟨c, others, rfl⟩ := List.exists_cons_of_ne_nil some
  obtain ⟨viewed, all⟩ := run.toList_eq_append
  have notBase : "xXoO".toList.contains c = false :=
    (stopsAt_cons_iff _ c others).mp (stopsAt_marks (by decide) all)
  exact otherBases_refuse_of_stopsAt ((stopsAt_cons_iff _ c _).mpr notBase) viewed

section
variable {value : Number} {zeroError : ParseError}

/-- Digits of another base are found behind the zero, where no float goes on. -/
theorem numberAt_of_based
    (zeroRan : (Parser.char '0').Yields state true '0' middle zeroError)
    (ran : basedNumber.Yields middle consumed value next error) :
    NumberAt state value next := by
  obtain ⟨_, _, _, _, _, _, digitsRan, checkRan, -, -⟩ := Parser.bind_yields_iff.mp ran
  obtain ⟨size, sizeRan, rfl⟩ := Parser.map_yields_iff.mp checkRan
  obtain ⟨inside, -, rfl⟩ := integerOf_yields sizeRan
  obtain rfl := digitsRan.consumed_eq otherBases_alwaysConsume
  -- For a parser of floats, the mark of the other base ends the run of digits, which is the zero.
  obtain ⟨⟨_, stopped⟩, _, noTail⟩ := refuse_of_otherBases digitsRan
  obtain ⟨_, naturalRan⟩ := naturalDigits_yields_based zeroRan digitsRan
  exact .integer (List.cons_ne_nil '0' []) (DigitRun.zero zeroRan stopped) noTail naturalRan inside

/-- Other digits in base ten make one run with the zero. The float does not change with it, and the
integer is read behind it. -/
theorem numberAt_of_decimal
    {notBased : ParseError}
    (zeroRan : (Parser.char '0').Yields state true '0' middle zeroError)
    (noBase : (hexDigits.orElse octalDigits : Parser σ υ Digits).Fails middle false notBased)
    (ran : decimalOrFloat.Yields middle consumed value next error) :
    NumberAt state value next := by
  obtain ⟨_, first⟩ := zeroRan.satisfy_labels Char.isDigit rfl ["digit"]
  obtain ⟨digits, _, some, run, -, tail⟩ := decimalOrFloat_yields ran
  have whole := run.cons first
  rcases tail with ⟨tail, found, tailRan, rfl⟩ | ⟨size, found, noTail, rfl, inside, rfl⟩
  · rw [← toDecimal_zero]
    exact .float (List.cons_ne_nil '0' digits) whole tailRan
  · obtain ⟨_, digitsRan⟩ := run.digitsIn_yields some
    obtain ⟨_, naturalRan⟩ := naturalDigits_yields_behind zeroRan noBase digitsRan
    exact .integer (List.cons_ne_nil '0' digits) whole noTail naturalRan inside

/-- Behind a zero, the way that goes through the digits once finds what the others find. -/
theorem numberAt_of_zero
    (zeroRan : (Parser.char '0').Yields state true '0' middle zeroError)
    (ran : zeroTail.Yields middle consumed value next error) :
    NumberAt state value next := by
  have noDigits {found : ParseError}
      (failed : (decimalOrFloat : Parser σ υ Number).Fails middle false found) :
      (digitsIn 10 : Parser σ υ Digits).Fails middle false found :=
    failed.of_bind (digitsIn_alwaysConsumes 10)
  have alone {found : ParseError}
      (failed : (digitsIn 10 : Parser σ υ Digits).Fails middle false found) :
      DigitRun state ['0'] middle :=
    DigitRun.zero zeroRan (digit_fails_of_digitsIn failed)
  rcases Parser.orElse_yields_iff.mp ran with ran | ⟨_, _, notFloat, default, -⟩
  · rcases Parser.orElse_yields_iff.mp ran with ran | ⟨_, _, notDecimal, floatRan, -⟩
    · rcases Parser.orElse_yields_iff.mp ran with basedRan | ⟨_, _, notBased, decimalRan, -⟩
      · exact numberAt_of_based zeroRan basedRan
      · exact numberAt_of_decimal zeroRan (notBased.of_bind otherBases_alwaysConsume) decimalRan
    · obtain ⟨-, _, noDecimal⟩ := notDecimal.of_orElse
      obtain ⟨tail, _, tailRan, rfl, -⟩ := floatAfter_yields floatRan
      exact .float (List.cons_ne_nil '0' []) (alone (noDigits noDecimal)) tailRan
  · obtain ⟨⟨_, notDecimal⟩, _, notAfter⟩ := notFloat.of_orElse
    obtain ⟨⟨_, notBased⟩, _, noDecimal⟩ := notDecimal.of_orElse
    obtain ⟨-, rfl, rfl⟩ := default.of_pure
    have noTail := notAfter.of_map.of_bind floatTail_alwaysConsumes
    obtain ⟨_, naturalRan⟩ := naturalDigits_yields_zero zeroRan
      (notBased.of_bind otherBases_alwaysConsume) (noDigits noDecimal)
    exact .integer (List.cons_ne_nil '0' []) (alone (noDigits noDecimal)) noTail naturalRan rfl

end

/-- The way that goes through the digits once finds a number that the others find. -/
theorem unsignedNumber_numberAt
    {value : Number}
    (ran : unsignedNumber.Yields state consumed value next error) :
    NumberAt state value next ∧ consumed = true := by
  rw [unsignedNumber_eq] at ran
  rcases Parser.orElse_yields_iff.mp ran with zeroRan | ⟨_, _, notZero, decimalRan, -⟩
  · obtain ⟨_, _, middle, _, _, _, _, zero, behind, rfl, rfl, -⟩ :=
      Parser.zipWith_yields_iff.mp zeroRan
    obtain ⟨c, -, accepted, rfl⟩ := (Parser.char_takesChar '0').of_yields zero
    obtain ⟨rfl, isZero⟩ := Option.guard_eq_some_iff.mp accepted
    obtain rfl := eq_of_beq isZero
    exact ⟨numberAt_of_zero zero behind, rfl⟩
  · obtain ⟨digits, middle, some, run, rfl, tail⟩ := decimalOrFloat_yields decimalRan
    refine ⟨?_, rfl⟩
    rcases tail with ⟨tail, found, tailRan, rfl⟩ | ⟨size, found, noTail, rfl, inside, rfl⟩
    · exact .float some run tailRan
    · obtain ⟨_, digitsRan⟩ := run.digitsIn_yields some
      have zeroFails := notZero.of_zipWith ((Parser.AlwaysConsumes.satisfy _).labels _)
      obtain ⟨_, naturalRan⟩ := naturalDigits_yields_decimal zeroFails digitsRan
      exact .integer some run noTail naturalRan inside

/-! ## Numbers with a sign -/

/-- Numbers start with digits. -/
theorem NumberAt.exists_digit {value : Number} (found : NumberAt state value next) :
    ∃ c rest, TokenStream.toList state.input = c :: rest ∧ c.isDigit = true := by
  have front {whole : List Char} {middle : State σ υ} (some : whole ≠ [])
      (run : DigitRun state whole middle) :
      ∃ c rest, TokenStream.toList state.input = c :: rest ∧ c.isDigit = true := by
    obtain ⟨c, others, rfl⟩ := List.exists_cons_of_ne_nil some
    obtain ⟨viewed, all⟩ := run.toList_eq_append
    exact ⟨c, _, viewed, all c List.mem_cons_self⟩
  cases found with
  | float some run tailRan => exact front some run
  | integer some run noTail digitsRan inside => exact front some run

variable {language : Language σ υ}

/-- Where a digit comes there is no sign, and nothing is skipped behind it. -/
theorem lexeme_sign_reads
    (language : Language σ υ)
    (spares : language.SparesDigits)
    {c : Char}
    {rest : List Char}
    (viewed : TokenStream.toList state.input = c :: rest)
    (digit : c.isDigit = true)
    (later : List (State σ υ)) :
    (language.lexeme sign).Reads View.states [] false (state :: later) := by
  have notSign (mark : Char) (isSign : "+-".toList.contains mark = true) :
      (Parser.char mark : Parser σ υ Char).Refuses View.states (state :: later) := by
    refine (Parser.char_refuses ?_).states later
    rw [viewed]
    rintro same
    obtain rfl := Option.some.inj same
    rw [not_sign_of_isDigit digit] at isSign
    contradiction
  have noSign := sign_reads_absent (notSign '-' (by decide)) (notSign '+' (by decide))
  have solid : language.SolidAt (TokenStream.toList state.input) := by
    rw [viewed]
    exact spares.solidAt digit rest
  obtain ⟨_, skipped⟩ := solid.atBoundary
  exact noSign.zipWith (skipped.reads_nil later) fun negative _ => negative

/-- An integer without sign is read where one with a sign may be. -/
theorem integer_yields_of_natural
    (spares : language.SparesDigits)
    {c : Char}
    {rest : List Char}
    (viewed : TokenStream.toList state.input = c :: rest)
    (digit : c.isDigit = true)
    {digits : Digits}
    {digitsError : ParseError}
    (digitsRan : naturalDigits.Yields state true digits middle digitsError)
    {range : IntegerRange}
    {value : Int}
    (inside : digits.inRange? false range = Option.some value)
    {tag : Bool}
    (skips : language.whiteSpace.Yields middle tag () next error) :
    ∃ found, (language.integerIn range).Yields state true value next found := by
  have noSign := language.lexeme_sign_reads spares viewed digit [middle]
  have checked : (integerOf range digits false : Parser σ υ Int).Reads View.states [] value
      [middle] := by
    rw [integerOf, inside]
    exact Parser.pure_reads value
  have source := noSign.zipWith (digitsRan.reads []) Prod.mk
  have decoded : (((language.lexeme sign).pair naturalDigits).bind fun signed =>
      integerOf range signed.2 signed.1).Reads View.states ([] ++ [state]) value [middle] :=
    source.bindNil checked
  obtain ⟨_, decodedRan⟩ := Parser.Reads.exists_yields decoded
  obtain ⟨_, lexemeRan⟩ := lexeme_yields_of_skips decodedRan skips
  exact ((lexemeRan.reads []).labels ["integer"]).exists_yields

/-- A number without sign is read the way that tries a float with a sign first. -/
theorem number_yields_of_numberAt
    (spares : language.SparesDigits)
    {value : Number}
    (found : NumberAt state value middle)
    {tag : Bool}
    (skips : language.whiteSpace.Yields middle tag () next error) :
    ∃ other, language.number.Yields state true value next other := by
  obtain ⟨c, rest, viewed, digit⟩ := found.exists_digit
  have noSign := language.lexeme_sign_reads spares viewed digit [middle]
  cases found with
  | float some run tailRan =>
      obtain ⟨_, unsigned⟩ := unsignedFloat_yields_of_run some run tailRan
      have parts := noSign.zipWith (unsigned.reads []) Prod.mk
      have signed := parts.map fun signed => if signed.1 then -signed.2 else signed.2
      obtain ⟨_, signedRan⟩ := signed.attempt.exists_yields
      obtain ⟨_, lexemeRan⟩ := lexeme_yields_of_skips signedRan skips
      have float := (lexemeRan.reads []).map Number.float
      exact ((float.orElse _).labels ["number"]).exists_yields
  | integer some run noTail digitsRan inside =>
      obtain ⟨_, unsigned⟩ := unsignedFloat_fails_of_run some run noTail
      obtain ⟨_, noSignRan⟩ := noSign.exists_yields_nil
      have noParts := noSignRan.zipWith_fails unsigned Prod.mk
      have notSigned := noParts.map fun signed => if signed.1 then -signed.2 else signed.2
      have notLexeme := notSigned.attempt.zipWith language.whiteSpace fun value _ => value
      have noFloat := (notLexeme.map Number.float).refuses [next]
      -- The digits have been given back, so the integer is read from the same state.
      obtain ⟨_, integerRan⟩ :=
        integer_yields_of_natural spares viewed digit digitsRan inside skips
      have integer := (integerRan.reads []).map Number.integer
      exact ((noFloat.orElse_reads integer).labels ["number"]).exists_yields

/-- Whatever number is read without sign by going through its digits once is read the same by trying
a float with a sign first and an integer then: with the same value, and up to the same state. -/
theorem naturalOrFloat_refines_number
    (spares : language.SparesDigits)
    {value : Number}
    (ran : language.naturalOrFloat.Yields state consumed value next error) :
    ∃ found, language.number.Yields state consumed value next found := by
  obtain ⟨_, lexemeRan⟩ := ran.of_labels
  obtain ⟨_, _, middle, _, tag, _, _, unsigned, skips, rfl, rfl, -⟩ :=
    Parser.zipWith_yields_iff.mp lexemeRan
  obtain ⟨found, rfl⟩ := unsignedNumber_numberAt unsigned
  exact number_yields_of_numberAt spares found skips

/-- A hexadecimal integer, for which no float is found. -/
theorem naturalOrFloat_refines_number_hexadecimal :
    ∃ next error, (haskellStyle : Language Text Unit).number.Yields
      ⟨Text.ofString "0x1F rest", .start "t", ()⟩ true (.integer 31) next error := by
  have spares : (haskellStyle : Language Text Unit).SparesDigits := by
    constructor <;> decide +kernel
  have numberRan : ∃ next error, (haskellStyle : Language Text Unit).naturalOrFloat.Yields
      ⟨Text.ofString "0x1F rest", .start "t", ()⟩ true (.integer 31) next error :=
    Parser.exists_yields (by decide +kernel)
  obtain ⟨next, error, ran⟩ := numberRan
  obtain ⟨found, numberRan⟩ := naturalOrFloat_refines_number spares ran
  exact ⟨next, found, numberRan⟩

/-! ## Floats with many digits -/

/-- What a parser makes of a float if it decodes the digits in front of the rest before it looks for
the rest: the float is found if the digits are those of an integer of 64 bits. If not, the parser
fails and says so. -/
structure DecodesFirst
    (parser : Parser σ υ Number)
    (whole : List Char)
    (value : Float)
    (state next : State σ υ) : Prop where
  exact :
    (IntegerRange.signed 64).contains (digitsValue 10 whole) = true →
      ∃ found, parser.Yields state true (.float value) next found
  tooLarge :
    (IntegerRange.signed 64).contains (digitsValue 10 whole) = false →
      ∃ found, parser.Fails state true found ∧
        ⟨.generic, "integer literal is too large"⟩ ∈ found.messages

namespace DecodesFirst

variable {parser : Parser σ υ Number} {whole : List Char} {value : Float}

omit [TokenStream σ Char] [LawfulTokenStream σ] in
/-- A parser that decodes its whole part first still does so if it is tried first. -/
theorem orElse
    (decodes : DecodesFirst parser whole value state next)
    (other : Parser σ υ Number) :
    DecodesFirst (parser.orElse other) whole value state next := by
  refine ⟨fun inside => ?_, fun outside => ?_⟩
  · obtain ⟨_, ran⟩ := decodes.exact inside
    exact ((ran.reads []).orElse other).exists_yields
  · obtain ⟨found, failed, message⟩ := decodes.tooLarge outside
    exact ⟨found, failed.orElse other, message⟩

omit [TokenStream σ Char] [LawfulTokenStream σ] in
/-- A parser that decodes its whole part first still does so behind one that fails at once. -/
theorem orElse_of_fails
    {other : Parser σ υ Number}
    (decodes : DecodesFirst parser whole value state next)
    (failed : other.Fails state false error) :
    DecodesFirst (other.orElse parser) whole value state next := by
  refine ⟨fun inside => ?_, fun outside => ?_⟩
  · obtain ⟨_, ran⟩ := decodes.exact inside
    exact ((failed.refuses [next]).orElse_reads (ran.reads [])).exists_yields
  · obtain ⟨found, laterFailed, message⟩ := decodes.tooLarge outside
    exact ⟨found, failed.orElse_fails laterFailed, message⟩

omit [TokenStream σ Char] [LawfulTokenStream σ] in
theorem labels
    (decodes : DecodesFirst parser whole value state next)
    (names : List String) :
    DecodesFirst (parser.labels names) whole value state next := by
  refine ⟨fun inside => ?_, fun outside => ?_⟩
  · obtain ⟨_, ran⟩ := decodes.exact inside
    exact ((ran.reads []).labels names).exists_yields
  · obtain ⟨found, failed, message⟩ := decodes.tooLarge outside
    exact ⟨found, failed.labels names, message⟩

omit [LawfulTokenStream σ] in
/-- A zero in front of the digits does not change their number. -/
theorem behind_zero
    (decodes : DecodesFirst parser whole value middle next)
    (zeroRan : (Parser.char '0').Yields state true '0' middle error) :
    DecodesFirst ((Parser.char '0').keepRight parser) ('0' :: whole) value state next := by
  refine ⟨fun inside => ?_, fun outside => ?_⟩
  · obtain ⟨_, ran⟩ := decodes.exact inside
    have both := (zeroRan.reads [next]).zipWith (ran.reads []) fun _ value => value
    exact both.exists_yields
  · obtain ⟨found, failed, message⟩ := decodes.tooLarge outside
    exact ⟨found, zeroRan.zipWith_fails failed fun _ value => value, message⟩

omit [LawfulTokenStream σ] in
/-- White space behind a number does not matter to how its whole part is decoded. -/
theorem lexeme
    (decodes : DecodesFirst parser whole value state middle)
    {tag : Bool}
    (skips : language.whiteSpace.Yields middle tag () next error) :
    DecodesFirst (language.lexeme parser) whole value state next := by
  refine ⟨fun inside => ?_, fun outside => ?_⟩
  · obtain ⟨_, ran⟩ := decodes.exact inside
    exact lexeme_yields_of_skips ran skips
  · obtain ⟨found, failed, message⟩ := decodes.tooLarge outside
    exact ⟨found, failed.zipWith language.whiteSpace fun value _ => value, message⟩

end DecodesFirst

/-- A decimal number decodes its whole part before it looks for a fraction. -/
theorem decimalOrFloat_decodesFirst
    {digits : List Char}
    {tail : FloatTail}
    (some : digits ≠ [])
    (run : DigitRun state digits middle)
    (tailRan : floatTail.Yields middle true tail next error) :
    DecodesFirst decimalOrFloat digits (tail.toDecimal digits).toFloat state next := by
  obtain ⟨_, digitsRan⟩ := run.digitsIn_yields some
  refine ⟨fun inside => ?_, fun outside => ?_⟩
  · have size : (integerOf (.signed 64) ⟨10, digits⟩ false : Parser σ υ Int).Reads View.states []
        (digitsValue 10 digits : Int) [middle, next] := by
      rw [integerOf_decimal, if_pos inside]
      exact Parser.pure_reads _
    have floatRead : ((floatAfter digits).withDefault (.integer (digitsValue 10 digits))).Reads
        View.states [middle] (.float (tail.toDecimal digits).toFloat) [next] :=
      (floatAfter_reads tailRan digits []).orElse _
    have behind : (((integerOf (.signed 64) ⟨10, digits⟩ false).map Number.integer).bind
        fun value => (floatAfter digits).withDefault value).Reads View.states ([] ++ [middle])
          (.float (tail.toDecimal digits).toFloat) [next] :=
      (size.map Number.integer).bind floatRead
    have whole : decimalOrFloat.Reads View.states ([state] ++ [middle])
        (.float (tail.toDecimal digits).toFloat) [next] := (digitsRan.reads [next]).bind behind
    exact whole.exists_yields
  · have failed : (integerOf (.signed 64) ⟨10, digits⟩ false : Parser σ υ Int).Fails middle false
        (.single middle.position .generic "integer literal is too large") := by
      rw [integerOf_decimal, if_neg (ne_true_of_eq_false outside)]
      rfl
    have behind := (failed.map Number.integer).bind fun value =>
      (floatAfter digits).withDefault value
    exact ⟨_, digitsRan.bind_fails behind,
      (digitsIn_reportsWithin 10).leavesWithin.mem_merge digitsRan _ _⟩

/-- The rest of a float behind a zero alone makes a float of the zero. -/
theorem zeroTail_yields_float
    {tail : FloatTail}
    {stopError : ParseError}
    (stopped : (Parser.digit : Parser σ υ Char).Fails state false stopError)
    (tailRan : floatTail.Yields state true tail next error) :
    ∃ found, zeroTail.Yields state true (.float (tail.toDecimal ['0']).toFloat) next found := by
  obtain ⟨_, noBase⟩ := otherBases_fail_of_floatTail tailRan
  have noBased : (basedNumber : Parser σ υ Number).Fails state false _ := noBase.bind _
  have noDecimal : (decimalOrFloat : Parser σ υ Number).Fails state false _ :=
    ((stopped.zipWith _ _).map _).bind _
  have refuses := (noBased.refuses [next]).orElse (noDecimal.refuses [next])
  have reads := (refuses.orElse_reads (floatAfter_reads tailRan ['0'] [])).orElse
    (Parser.pure (.integer 0))
  exact reads.exists_yields

/-- So does a number that may start with a zero. -/
theorem unsignedNumber_decodesFirst
    {whole : List Char}
    {tail : FloatTail}
    (some : whole ≠ [])
    (run : DigitRun state whole middle)
    (tailRan : floatTail.Yields middle true tail next error) :
    DecodesFirst unsignedNumber whole (tail.toDecimal whole).toFloat state next := by
  rw [unsignedNumber_eq]
  rcases run.zero_cases some with ⟨rfl, _, zeroRan⟩ | ⟨digits, start, _, rfl, someBehind, zeroRan,
    behind⟩ | ⟨_, notZero⟩
  · -- The zero alone is never too large.
    obtain ⟨_, stopped⟩ := run.stopped
    obtain ⟨_, zeroTailRan⟩ := zeroTail_yields_float stopped tailRan
    have reads := (zeroRan.reads [next]).zipWith (zeroTailRan.reads []) fun _ value => value
    exact ⟨fun _ => (reads.orElse decimalOrFloat).exists_yields,
      fun outside => absurd outside (by decide)⟩
  · obtain ⟨_, noBase⟩ := otherBases_fail_of_digitRun behind someBehind
    have noBased : (basedNumber : Parser σ υ Number).Fails start false _ := noBase.bind _
    have decimal := (decimalOrFloat_decodesFirst someBehind behind tailRan).orElse_of_fails noBased
    have zeroDecodes := (decimal.orElse (floatAfter ['0'])).orElse (Parser.pure (.integer 0))
    rw [toDecimal_zero]
    exact (zeroDecodes.behind_zero zeroRan).orElse decimalOrFloat
  · have noZero := notZero.zipWith zeroTail fun _ value => value
    exact (decimalOrFloat_decodesFirst some run tailRan).orElse_of_fails noZero

/-- A float is read the same by going through its digits once, if the digits in front of its
fraction or exponent are those of an integer of 64 bits. If not, they are too large. -/
theorem float_naturalOrFloat
    {value : Float}
    (ran : language.float.Yields state consumed value next error) :
    ((IntegerRange.signed 64).contains
        (digitsValue 10 ((TokenStream.toList state.input).takeWhile Char.isDigit)) = true →
      ∃ found, language.naturalOrFloat.Yields state consumed (.float value) next found) ∧
    ((IntegerRange.signed 64).contains
        (digitsValue 10 ((TokenStream.toList state.input).takeWhile Char.isDigit)) = false →
      ∃ found, language.naturalOrFloat.Fails state true found ∧
        ⟨.generic, "integer literal is too large"⟩ ∈ found.messages) := by
  obtain ⟨_, lexemeRan⟩ := ran.of_labels
  obtain ⟨_, _, middle, _, tag, _, _, unsigned, skips, rfl, rfl, -⟩ :=
    Parser.zipWith_yields_iff.mp lexemeRan
  obtain ⟨whole, tail, _, _, some, run, tailRan, rfl, rfl⟩ := unsignedFloat_yields unsigned
  have decodes := ((unsignedNumber_decodesFirst some run tailRan).lexeme skips).labels ["number"]
  rw [← run.eq_takeWhile]
  exact ⟨decodes.exact, decodes.tooLarge⟩

/-- A float is read both ways, but one with too many digits only one way. -/
theorem float_naturalOrFloat_digits :
    let language : Language Text Unit := haskellStyle
    let short : State Text Unit := ⟨Text.ofString "1.5", .start "t", ()⟩
    let long : State Text Unit := ⟨Text.ofString "10000000000000000000e-1", .start "t", ()⟩
    (∃ consumed value next error found,
      language.float.Yields short consumed value next error ∧
        language.naturalOrFloat.Yields short consumed (.float value) next found) ∧
    (∃ consumed value next error, language.float.Yields long consumed value next error) ∧
    ∃ found, language.naturalOrFloat.Fails long true found ∧
      ⟨.generic, "integer literal is too large"⟩ ∈ found.messages := by
  intro language short long
  obtain ⟨consumed, value, next, error, ran⟩ : ∃ consumed value next error,
      language.float.Yields short consumed value next error :=
    Parser.exists_yields_iff.mpr (by decide +kernel)
  obtain ⟨found, numberRan⟩ := (float_naturalOrFloat ran).1 (by decide +kernel)
  have longRan : ∃ consumed value next error,
      language.float.Yields long consumed value next error :=
    Parser.exists_yields_iff.mpr (by decide +kernel)
  refine ⟨⟨consumed, value, next, error, found, ran, numberRan⟩, longRan, ?_⟩
  obtain ⟨_, _, _, _, otherRan⟩ := longRan
  exact (float_naturalOrFloat otherRan).2 (by decide +kernel)

/-- The digits in front of the fraction are those of the least integer beyond 64 bits. -/
theorem naturalOrFloat_refuses_float :
    let language : Language Text Unit := haskellStyle
    let state : State Text Unit := ⟨Text.ofString "9223372036854775808.0", .start "t", ()⟩
    (∃ consumed value next error, language.float.Yields state consumed value next error) ∧
      ¬ ∃ consumed value next error,
        language.naturalOrFloat.Yields state consumed value next error := by
  intro language state
  rw [Parser.exists_yields_iff, Parser.exists_yields_iff]
  constructor <;> decide +kernel

end
end Language
end Predictive
