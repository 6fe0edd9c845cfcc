import Predictive.Lexer.Literal
import Predictive.Proofs.Numerals

/-!
# How literals are read

A literal of plain characters is read between its quotes, and a number in base ten is read as an
integer unless a fraction or an exponent comes behind it.
-/

namespace Predictive
namespace Language

variable {σ υ : Type} [TokenStream σ Char] [LawfulTokenStream σ]

/-! ## Quotes -/

/-- What stands between two quotes is read if it is read in front of the second one. -/
theorem between_quotes_reads
    {α : Type}
    {parser : Parser σ υ α}
    {quote : Char}
    {word rest : List Char}
    {value : α}
    (reads : parser.Reads View.tokens word value (quote :: rest))
    (title : String) :
    (Parser.between (Parser.char quote) ((Parser.char quote).label title) parser).Reads View.tokens
      (quote :: word ++ [quote]) value rest := by
  have front := (Parser.char_reads (σ := σ) (υ := υ) quote (word ++ quote :: rest)).zipWith reads
    fun _ value => value
  exact front.zipWith ((Parser.char_reads quote rest).labels [title]) fun value _ => value

/-- Without a quote there is no literal. -/
theorem between_quotes_refuses
    {α : Type}
    {parser : Parser σ υ α}
    {quote : Char}
    {rest : List Char}
    (absent : quote ∉ rest.head?)
    (title : String) :
    (Parser.between (Parser.char quote) ((Parser.char quote).label title) parser).Refuses
      View.tokens rest :=
  ((Parser.char_refuses absent).zipWith _).zipWith _

/-- A plain character stands for itself in a string. -/
theorem stringPart_reads
    (language : Language σ υ)
    {c : Char}
    (plain : isPlainIn '"' c = true)
    (rest : List Char) :
    language.stringPart.Reads View.tokens [c] (some c) rest := by
  have read := (Parser.satisfy_takesChar (σ := σ) (υ := υ) (isPlainIn '"')).reads plain rest
  have asPart := read.map some
  exact (asPart.orElse _).labels _

/-- A string has no part where it is closed. -/
theorem stringPart_refuses (language : Language σ υ) (rest : List Char) :
    language.stringPart.Refuses View.tokens ('"' :: rest) := by
  have notPlain : StopsAt (isPlainIn '"') ('"' :: rest) := (stopsAt_cons_iff _ _ _).mpr (by decide)
  have refuses := (Parser.satisfy_takesChar (σ := σ) (υ := υ) (isPlainIn '"')).refuses notPlain
  have notEscaped : '\\' ∉ ('"' :: rest).head? := by simp
  have noMark := Parser.char_refuses (σ := σ) (υ := υ) notEscaped
  exact ((refuses.map some).orElse (noMark.zipWith _)).labels _

/-- Characters that may stand for themselves are parts of a string each. -/
theorem stringPart_rounds
    (language : Language σ υ)
    {text : List Char}
    (plain : ∀ c ∈ text, isPlainIn '"' c = true)
    (rest : List Char) :
    Parser.Rounds View.tokens language.stringPart text (text.map some) ('"' :: rest) := by
  induction text with
  | nil => exact .nil _
  | cons c text ih =>
      rw [List.forall_mem_cons] at plain
      exact .cons (List.cons_ne_nil c []) (language.stringPart_reads plain.1 _) (ih plain.2)

section
variable
  (language : Language σ υ)
  {gap rest : List Char}
  (skips : language.whiteSpace.Reads View.tokens gap () rest)
include skips

/-- A character literal is read if its character is read in front of the second quote. -/
theorem charLiteral_reads_of_character
    {word : List Char}
    {c : Char}
    (character : ((Parser.satisfy (isPlainIn '\'')).orElse
      ((Parser.char '\\').keepRight language.escape)).Reads View.tokens word c
        ('\'' :: (gap ++ rest))) :
    language.charLiteral.Reads View.tokens ('\'' :: word ++ ['\''] ++ gap) c rest := by
  have reads := between_quotes_reads (character.labels ["literal character"]) "end of character"
  exact (reads.zipWith skips fun value _ => value).labels _

/-- A string literal is read if its parts are read in front of the second quote. -/
theorem stringLiteral_reads_of_rounds
    {word : List Char}
    {parts : List (Option Char)}
    (rounds : Parser.Rounds View.tokens language.stringPart word parts ('"' :: (gap ++ rest))) :
    language.stringLiteral.Reads View.tokens ('"' :: word ++ ['"'] ++ gap)
      (String.ofList (parts.filterMap id)) rest := by
  have read := rounds.many (language.stringPart_refuses _) View.tokens_fits
  have reads := (between_quotes_reads read "end of string").map fun parts =>
    String.ofList (parts.filterMap id)
  exact (reads.zipWith skips fun value _ => value).labels _

/-- A character that may stand for itself is read between quotes. -/
theorem charLiteral_reads {c : Char} (plain : isPlainIn '\'' c = true) :
    language.charLiteral.Reads View.tokens (['\'', c, '\''] ++ gap) c rest := by
  have read := (Parser.satisfy_takesChar (σ := σ) (υ := υ) (isPlainIn '\'')).reads plain
    ('\'' :: (gap ++ rest))
  exact language.charLiteral_reads_of_character skips (read.orElse _)

/-- Characters that may stand for themselves are read between double quotes. -/
theorem stringLiteral_reads {text : List Char} (plain : ∀ c ∈ text, isPlainIn '"' c = true) :
    language.stringLiteral.Reads View.tokens ('"' :: text ++ ['"'] ++ gap)
      (String.ofList text) rest := by
  have reads := language.stringLiteral_reads_of_rounds skips
    (language.stringPart_rounds plain (gap ++ rest))
  have same : (text.map some).filterMap id = text := by simp
  rwa [same] at reads

end

/-- Without a quote there is no character. -/
theorem charLiteral_refuses
    (language : Language σ υ)
    {rest : List Char}
    (absent : '\'' ∉ rest.head?) :
    language.charLiteral.Refuses View.tokens rest :=
  ((between_quotes_refuses absent _).zipWith _).labels _

/-- Without a double quote there is no string. -/
theorem stringLiteral_refuses
    (language : Language σ υ)
    {rest : List Char}
    (absent : '"' ∉ rest.head?) :
    language.stringLiteral.Refuses View.tokens rest := by
  have quoted : (Parser.between (Parser.char '"') ((Parser.char '"').label "end of string")
      language.stringPart.many).Refuses View.tokens rest := between_quotes_refuses absent _
  have text := quoted.map fun parts => String.ofList (parts.filterMap id)
  exact (text.zipWith _).labels _

/-! ## Numbers -/

/-- Whether a character may go on a number that may also be a float. -/
def goesOnFloat (c : Char) : Bool :=
  goesOnNumber c || ".eE".toList.contains c

theorem stopsAt_goesOnNumber {rest : List Char} (stops : StopsAt goesOnFloat rest) :
    StopsAt goesOnNumber rest :=
  stops.mono fun c goesOn => by simp only [goesOnFloat, goesOn, Bool.true_or]

theorem stopsAt_isDigit {rest : List Char} (stops : StopsAt goesOnFloat rest) :
    StopsAt Char.isDigit rest :=
  stopsAt_isDigit_of_goesOnNumber (stopsAt_goesOnNumber stops)

/-- Without a point or the mark of an exponent, a number goes on neither way. -/
theorem floatTail_refuses
    {rest : List Char}
    (stops : StopsAt (fun c => ".eE".toList.contains c) rest) :
    (floatTail : Parser σ υ FloatTail).Refuses View.tokens rest := by
  have noPoint : StopsAt (fun c => c == '.') rest :=
    stops.mono fun c isPoint => by rw [eq_of_beq isPoint]; decide
  have noExponent : StopsAt (fun c => "eE".toList.contains c) rest := by
    refine stops.mono fun c mark => ?_
    rw [List.contains_iff_mem] at mark ⊢
    exact List.mem_cons_of_mem '.' mark
  have point := (Parser.char_takesChar (σ := σ) (υ := υ) '.').refuses noPoint
  have fraction : (fraction : Parser σ υ (List Char)).Refuses View.tokens rest :=
    (point.zipWith _).labels _
  have mark := (Parser.satisfy_takesChar (σ := σ) (υ := υ) _).refuses noExponent
  have exponent : (exponent : Parser σ υ Exponent).Refuses View.tokens rest :=
    ((mark.zipWith _).zipWith _).labels _
  exact (fraction.zipWith _).orElse (exponent.map _)

/-- A float does not go on where neither a fraction nor an exponent starts. -/
theorem floatAfter_refuses
    {rest : List Char}
    (stops : StopsAt goesOnFloat rest)
    (whole : List Char) :
    (floatAfter whole : Parser σ υ Number).Refuses View.tokens rest := by
  have stopsTail : StopsAt (fun c => ".eE".toList.contains c) rest :=
    stops.mono fun c mark => by simp only [goesOnFloat, mark, Bool.or_true]
  exact (floatTail_refuses stopsTail).bind.map _

/-- Digits in base ten are an integer where no float goes on. -/
theorem decimalOrFloat_reads
    {word rest : List Char}
    (all : ∀ c ∈ word, c.isDigit = true)
    (some : word ≠ [])
    (inside : (IntegerRange.signed 64).contains (digitsValue 10 word) = true)
    (stops : StopsAt goesOnFloat rest) :
    (decimalOrFloat : Parser σ υ Number).Reads View.tokens
      word (.integer (digitsValue 10 word)) rest := by
  have found : (Digits.mk 10 word).inRange? false (.signed 64) =
      Option.some (digitsValue 10 word : Int) := by
    rw [Digits.inRange?_eq_fit? (by decide) (by decide), IntegerRange.fit?, if_pos inside]
  have checked : (integerOf (.signed 64) ⟨10, word⟩ false : Parser σ υ Int).Reads View.tokens
      [] (digitsValue 10 word) rest := by
    rw [integerOf, found]
    exact Parser.pure_reads _
  have default : ((floatAfter word).withDefault (.integer (digitsValue 10 word)) :
      Parser σ υ Number).Reads View.tokens [] (.integer (digitsValue 10 word)) rest :=
    (floatAfter_refuses stops word).orElse_reads (Parser.pure_reads _)
  exact (digitsIn_ten_reads all some (stopsAt_isDigit stops)).bindNil
    ((checked.map Number.integer).bindNil default)

/-- Without a digit there is no decimal number. -/
theorem decimalOrFloat_refuses {rest : List Char} (stops : StopsAt Char.isDigit rest) :
    (decimalOrFloat : Parser σ υ Number).Refuses View.tokens rest :=
  (digitsIn_ten_refuses stops).bind

/-- The same digits are an integer if they start with a zero. -/
theorem unsignedNumber_reads
    {word rest : List Char}
    (all : ∀ c ∈ word, c.isDigit = true)
    (some : word ≠ [])
    (inside : (IntegerRange.signed 64).contains (digitsValue 10 word) = true)
    (stops : StopsAt goesOnFloat rest) :
    (unsignedNumber : Parser σ υ Number).Reads View.tokens
      word (.integer (digitsValue 10 word)) rest := by
  obtain ⟨c, word, rfl⟩ := List.exists_cons_of_ne_nil some
  by_cases zero : c = '0'
  · subst zero
    have others : ∀ d ∈ word, d.isDigit = true := fun d present => all d (.tail _ present)
    have based : ((hexDigits.orElse octalDigits).bind fun digits =>
        (integerOf (.signed 64) digits false).map Number.integer : Parser σ υ Number).Refuses
          View.tokens (word ++ rest) :=
      (otherBases_refuse others (stopsAt_goesOnNumber stops)).bind
    have zero := Parser.char_reads (σ := σ) (υ := υ) '0' (word ++ rest)
    cases word with
    | nil =>
        have decimalRefuses := decimalOrFloat_refuses (σ := σ) (υ := υ) (stopsAt_isDigit stops)
        have refuses := (based.orElse decimalRefuses).orElse (floatAfter_refuses stops ['0'])
        have alone := refuses.orElse_reads (Parser.pure_reads (Number.integer 0))
        exact (zero.zipWith alone fun _ value => value).orElse _
    | cons d word =>
        have reads := decimalOrFloat_reads (σ := σ) (υ := υ) others (by simp) inside stops
        have behind := ((based.orElse_reads reads).orElse (floatAfter ['0'])).orElse
          (Parser.pure (.integer 0))
        exact (zero.zipWith behind fun _ value => value).orElse _
  · have notZero : '0' ∉ (c :: (word ++ rest)).head? := by simpa [eq_comm] using zero
    exact ((Parser.char_refuses notZero).zipWith _).orElse_reads
      (decimalOrFloat_reads all some inside stops)

/-- Without a digit there is no number. -/
theorem unsignedNumber_refuses {rest : List Char} (stops : StopsAt Char.isDigit rest) :
    (unsignedNumber : Parser σ υ Number).Refuses View.tokens rest := by
  have noZero : '0' ∉ rest.head? := fun first => by
    have notDigit := stops '0' first
    contradiction
  exact ((Parser.char_refuses noZero).zipWith _).orElse (decimalOrFloat_refuses stops)

end Language
end Predictive
