import Predictive.Lexer.Bracket
import Predictive.Lexer.Literal
import Predictive.Proofs.CommentScanning
import Predictive.Proofs.ConsumingParsers
import Predictive.Proofs.LoopBounds
import Predictive.Proofs.Spacing
import Predictive.Proofs.Words

/-!
# Lexemes without defects

White space, numbers and the usual escapes return, whatever the language is: all that they repeat
are characters of a class, comments with a mark of their own, and other parsers that consume
whenever they succeed. A parser with that property may be repeated; where parsers exchange their
input for another one, its repetition may still run on without an end, but has no other defect.
-/

namespace Predictive

/-- No more tokens are left than there were. -/
def State.Keeps {σ τ υ : Type} [TokenStream σ τ] (before after : State σ υ) (_ : Bool) : Prop :=
  (TokenStream.toList after.input).length ≤ (TokenStream.toList before.input).length

/-! ## Parsers that may be repeated -/

namespace Parser

section
variable {σ τ υ α β γ : Type} [TokenStream σ τ] {exchange : Prop}

theorem keeps_of_composed
    [LawfulTokenStream σ]
    {parser : Parser σ υ α}
    (composed : Composed Primitive parser) :
    parser.Relates State.Keeps :=
  fun _ _ _ _ _ ran => (tagsSoundly_of_composed composed ran).spends.length_le

namespace Repeatable

theorem map {parser : Parser σ υ α} (repeatable : parser.Repeatable exchange) (f : α → β) :
    (parser.map f).Repeatable exchange where
  returns := repeatable.returns.map f
  consumes := repeatable.consumes.map f
  shortens kept := (repeatable.shortens kept).map f

theorem labels
    {parser : Parser σ υ α}
    (repeatable : parser.Repeatable exchange)
    (names : List String) :
    (parser.labels names).Repeatable exchange where
  returns := repeatable.returns.labels names
  consumes := repeatable.consumes.labels names
  shortens kept := (repeatable.shortens kept).labels names

theorem orElse
    {first second : Parser σ υ α}
    (firstRepeatable : first.Repeatable exchange)
    (secondRepeatable : second.Repeatable exchange) :
    (first.orElse second).Repeatable exchange where
  returns := firstRepeatable.returns.orElse secondRepeatable.returns
  consumes := firstRepeatable.consumes.orElse secondRepeatable.consumes
  shortens kept := (firstRepeatable.shortens kept).orElse (secondRepeatable.shortens kept)

/-- A sequence may be repeated if its first part may, and the second puts nothing back. -/
theorem zipWith
    {first : Parser σ υ α}
    {second : Parser σ υ β}
    (repeatable : first.Repeatable exchange)
    (returns : second.ReturnsUnless exchange)
    (keeps : ¬ exchange → second.Relates State.Keeps)
    (f : α → β → γ) :
    (first.zipWith second f).Repeatable exchange where
  returns := repeatable.returns.zipWith returns f
  consumes := repeatable.consumes.zipWith second f
  shortens kept := (repeatable.shortens kept).zipWith (keeps kept)
    (fun fewer noMore => Nat.lt_of_le_of_lt noMore fewer) f

end Repeatable

theorem TakesOne.repeatable
    [LawfulTokenStream σ]
    {parser : Parser σ υ α}
    {valueOf : τ → Option α}
    (takes : parser.TakesOne valueOf) :
    parser.Repeatable exchange :=
  takes.returns.repeatable takes.tagsSoundly takes.alwaysConsumes

/-- Items with separators return if a separator in front of an item may be repeated. -/
theorem sepBy1_returnsUnless
    [LawfulTokenStream σ]
    {parser : Parser σ υ α}
    {separator : Parser σ υ β}
    (returns : parser.ReturnsUnless exchange)
    (repeatable : (separator.keepRight parser).Repeatable exchange) :
    (parser.sepBy1 separator).ReturnsUnless exchange :=
  returns.zipWith repeatable.many _

theorem sepBy_returnsUnless
    [LawfulTokenStream σ]
    {parser : Parser σ υ α}
    {separator : Parser σ υ β}
    (returns : parser.ReturnsUnless exchange)
    (repeatable : (separator.keepRight parser).Repeatable exchange) :
    (parser.sepBy separator).ReturnsUnless exchange :=
  (sepBy1_returnsUnless returns repeatable).orElse (pure_returns []).returnsUnless

end

section
variable {σ υ : Type} [TokenStream σ Char]

theorem satisfy_returns (predicate : Char → Bool) :
    (satisfy predicate : Parser σ υ Char).Returns :=
  (satisfy_takesChar predicate).returns

theorem char_returns (wanted : Char) : (char wanted : Parser σ υ Char).Returns :=
  (char_takesChar wanted).returns

theorem TakesChar.many1_returns
    [LawfulTokenStream σ]
    {parser : Parser σ υ Char}
    {predicate : Char → Bool}
    (takes : parser.TakesChar predicate) :
    parser.many1.Returns :=
  takes.returns.many1 takes.tagsSoundly takes.alwaysConsumes

theorem digit_many1_returns [LawfulTokenStream σ] :
    (digit : Parser σ υ Char).many1.Returns :=
  TakesChar.many1_returns ((satisfy_takesChar Char.isDigit).label _)

end

end Parser

namespace Language

open Predictive.Parser (AlwaysConsumes Composed Primitive Returns char_returns primitive_lexical
  satisfy_returns satisfy_takesChar)

variable {σ υ α : Type} [TokenStream σ Char] [LawfulTokenStream σ]
variable {language : Language σ υ} {exchange : Prop}

/-! ## White space -/

theorem blockComment_returns
    {opening : String}
    (marked : opening ≠ "")
    (closing : String)
    (nested : Bool) :
    (blockComment opening closing nested : Parser σ υ Unit).Returns :=
  fun _ => (blockComment_scans (toList_ne_nil marked) closing nested rfl).exists_outcome

theorem blockComment_alwaysConsumes
    {opening : String}
    (marked : opening ≠ "")
    (closing : String)
    (nested : Bool) :
    (blockComment opening closing nested : Parser σ υ Unit).AlwaysConsumes := by
  intro state value next error ran
  have consumed :=
    (blockComment_scans (toList_ne_nil marked) closing nested rfl).consumed_of_yields ran
  contradiction

theorem lineComment_returns (mark : String) : (lineComment mark : Parser σ υ Unit).Returns :=
  (string_returns mark).attempt.zipWith ((satisfy_returns _).skipMany
    (satisfy_takesChar _).tagsSoundly (AlwaysConsumes.satisfy _)) _

omit [LawfulTokenStream σ] in
/-- White space is made of primitives, for the language has no part in it but by its marks. -/
theorem blank_composed (language : Language σ υ) : Composed Primitive language.blank := by
  let marked : Language σ υ :=
    { Language.plain with
      commentStart := language.commentStart
      commentEnd := language.commentEnd
      commentLine := language.commentLine
      nestedComments := language.nestedComments }
  have related : marked.Related (Composed.Both Primitive) marked :=
    { primitive_lexical.plain with
      commentStart := rfl
      commentEnd := rfl
      commentLine := rfl
      nestedComments := rfl }
  have same : marked.blank = language.blank := rfl
  rw [← same]
  exact primitive_lexical.blank related

/-- White space and comments may be repeated, for each of them takes its first character or mark. -/
theorem blank_repeatable (language : Language σ υ) : language.blank.Repeatable exchange := by
  have each (parser : Parser σ υ Unit) (present : parser ∈
      [(Parser.satisfy Unicode.isWhiteSpace).skipMany1] ++
      (if language.commentLine = "" then [] else [lineComment language.commentLine]) ++
      (if language.commentStart = "" then []
        else [blockComment language.commentStart language.commentEnd language.nestedComments])) :
      parser.Returns ∧ parser.AlwaysConsumes := by
    simp only [List.mem_append, List.mem_singleton] at present
    rcases present with (rfl | line) | block
    · exact ⟨(satisfy_returns _).skipMany1 (satisfy_takesChar _).tagsSoundly
        (AlwaysConsumes.satisfy _), (AlwaysConsumes.satisfy _).zipWith _ _⟩
    · split at line
      · contradiction
      · rename_i marked
        obtain rfl := List.mem_singleton.mp line
        exact ⟨lineComment_returns _,
          (Parser.string_attempt_alwaysConsumes marked).zipWith _ _⟩
    · split at block
      · contradiction
      · rename_i marked
        obtain rfl := List.mem_singleton.mp block
        exact ⟨blockComment_returns marked _ _, blockComment_alwaysConsumes marked _ _⟩
  exact Returns.repeatable (Parser.choice_returns fun parser present => (each parser present).1)
    (Parser.tagsSoundly_of_composed language.blank_composed)
    (.choice fun parser present => (each parser present).2)

theorem whiteSpace_returns (language : Language σ υ) : language.whiteSpace.Returns :=
  Parser.returns_iff.mpr ((language.blank_repeatable.labels _).manyFold _ _)

theorem lexeme_returnsUnless
    {parser : Parser σ υ α}
    (returns : parser.ReturnsUnless exchange) :
    (language.lexeme parser).ReturnsUnless exchange :=
  returns.zipWith language.whiteSpace_returns.returnsUnless _

theorem lexeme_returns {parser : Parser σ υ α} (returns : parser.Returns) :
    (language.lexeme parser).Returns :=
  returns.zipWith language.whiteSpace_returns _

theorem symbol_returns (language : Language σ υ) (text : String) :
    (language.symbol text).Returns :=
  lexeme_returns (string_returns text)

theorem symbol_repeatable (language : Language σ υ) {text : String} (some : text ≠ "") :
    (language.symbol text).Repeatable exchange :=
  (language.symbol_returns text).repeatable
    (Parser.tagsSoundly_of_composed
      ((Composed.string text).keepLeft (language.blank_composed.label "").skipMany))
    (language.symbol_alwaysConsumes some)

theorem between_returns
    {parser : Parser σ υ α}
    (returns : parser.Returns)
    (opening closing : String) :
    (Parser.between (language.symbol opening) (language.symbol closing) parser).Returns :=
  ((language.symbol_returns opening).zipWith returns _).zipWith (language.symbol_returns closing) _

/-- An item behind a separator may be repeated, for the separator is consumed. -/
theorem separated_repeatable
    (language : Language σ υ)
    {separator : String}
    (some : separator ≠ "")
    {parser : Parser σ υ α}
    (returns : parser.Returns)
    (keeps : ¬ exchange → parser.Relates State.Keeps) :
    ((language.symbol separator).keepRight parser).Repeatable exchange :=
  (language.symbol_repeatable some).zipWith returns.returnsUnless keeps _

/-! ## Numbers -/

omit [LawfulTokenStream σ] in
theorem sign_returns : (sign : Parser σ υ Bool).Returns := by
  have minus := (char_returns (σ := σ) (υ := υ) '-').map fun _ => true
  have plus := (char_returns (σ := σ) (υ := υ) '+').map fun _ => false
  exact (minus.orElse plus).orElse (Parser.pure_returns false)

theorem digitsIn_returns (base : Nat) : (digitsIn base : Parser σ υ Digits).Returns := by
  refine Returns.map ?_ _
  split
  · exact Parser.TakesChar.many1_returns ((satisfy_takesChar isHexDigit).label _)
  · exact Parser.TakesChar.many1_returns ((satisfy_takesChar isOctalDigit).label _)
  · exact Parser.digit_many1_returns

theorem hexDigits_returns : (hexDigits : Parser σ υ Digits).Returns :=
  (satisfy_returns _).zipWith (digitsIn_returns 16) _

theorem octalDigits_returns : (octalDigits : Parser σ υ Digits).Returns :=
  (satisfy_returns _).zipWith (digitsIn_returns 8) _

theorem naturalDigits_returns : (naturalDigits : Parser σ υ Digits).Returns := by
  have otherBases := (hexDigits_returns (σ := σ) (υ := υ)).orElse octalDigits_returns
  have anyBase := otherBases.orElse (digitsIn_returns 10)
  have afterZero := anyBase.orElse (Parser.pure_returns ⟨10, ['0']⟩)
  have behindZero := (char_returns '0').zipWith afterZero fun _ digits => digits
  exact (behindZero.labels [""]).orElse (digitsIn_returns 10)

omit [LawfulTokenStream σ] [TokenStream σ Char] in
theorem integerOf_returns (range : IntegerRange) (digits : Digits) (negative : Bool) :
    (integerOf range digits negative : Parser σ υ Int).Returns := by
  unfold integerOf
  split
  · exact Parser.pure_returns _
  · exact Parser.failWith_returns _ _

theorem fraction_returns : (fraction : Parser σ υ (List Char)).Returns :=
  ((char_returns '.').zipWith (Parser.digit_many1_returns.labels _) _).labels _

theorem exponent_returns : (exponent : Parser σ υ Exponent).Returns := by
  have mark : (Parser.oneOf "+-" : Parser σ υ Char).maybe.Returns :=
    ((satisfy_returns _).map _).orElse (Parser.pure_returns _)
  have letter := satisfy_returns (σ := σ) (υ := υ) "eE".toList.contains
  have front := letter.zipWith mark fun _ sign => sign
  have digits := (Parser.digit_many1_returns (σ := σ) (υ := υ)).labels ["exponent"]
  exact (front.zipWith digits _).labels ["exponent"]

theorem floatTail_returns : (floatTail : Parser σ υ FloatTail).Returns := by
  have behindFraction : (exponent : Parser σ υ Exponent).maybe.Returns :=
    (exponent_returns.map _).orElse (Parser.pure_returns _)
  exact (fraction_returns.zipWith behindFraction _).orElse (exponent_returns.map _)

theorem unsignedFloat_returns : (unsignedFloat : Parser σ υ Float).Returns :=
  ((digitsIn_returns 10).zipWith floatTail_returns _).bind fun _ => Parser.pure_returns _

theorem floatAfter_returns (whole : List Char) :
    (floatAfter whole : Parser σ υ Number).Returns :=
  (floatTail_returns.bind fun _ => Parser.pure_returns _).map _

theorem decimalOrFloat_returns : (decimalOrFloat : Parser σ υ Number).Returns :=
  (digitsIn_returns 10).bind fun whole => ((integerOf_returns _ whole false).map _).bind
    fun _ => (floatAfter_returns whole.chars).orElse (Parser.pure_returns _)

theorem unsignedNumber_returns : (unsignedNumber : Parser σ υ Number).Returns := by
  have based : ((hexDigits.orElse octalDigits).bind fun digits =>
      (integerOf (.signed 64) digits false).map Number.integer : Parser σ υ Number).Returns :=
    (hexDigits_returns.orElse octalDigits_returns).bind fun digits =>
      (integerOf_returns _ digits false).map _
  have afterZero := ((based.orElse decimalOrFloat_returns).orElse (floatAfter_returns ['0'])).orElse
    (Parser.pure_returns (.integer 0))
  exact ((char_returns '0').zipWith afterZero _).orElse decimalOrFloat_returns

theorem decimal_returns : (decimal : Parser σ υ Int).Returns :=
  (digitsIn_returns 10).bind fun digits => integerOf_returns _ digits false

theorem integerIn_returns (language : Language σ υ) (range : IntegerRange) :
    (language.integerIn range).Returns := by
  have front : (language.lexeme sign).Returns := lexeme_returns sign_returns
  have signed := front.zipWith naturalDigits_returns Prod.mk
  have decoded := signed.bind fun signed => integerOf_returns range signed.2 signed.1
  exact (lexeme_returns decoded).labels ["integer"]

theorem number_returns (language : Language σ υ) : language.number.Returns := by
  have front : (language.lexeme sign).Returns := lexeme_returns sign_returns
  have signed := (front.zipWith unsignedFloat_returns Prod.mk).map fun signed =>
    if signed.1 then -signed.2 else signed.2
  have float : (language.lexeme _).Returns := lexeme_returns signed.attempt
  have integer := (language.integerIn_returns (.signed 64)).map Number.integer
  exact ((float.map Number.float).orElse integer).labels ["number"]

/-! ## Escapes -/

omit [LawfulTokenStream σ] in
theorem letterEscape_returns : (letterEscape : Parser σ υ Char).Returns := by
  refine Parser.choice_returns fun parser present => ?_
  obtain ⟨code, -, rfl⟩ := List.mem_map.mp present
  exact (char_returns code.1).map _

theorem numericEscape_returns : (numericEscape : Parser σ υ Char).Returns := by
  have octal := (char_returns 'o').zipWith (digitsIn_returns (σ := σ) (υ := υ) 8)
    fun _ digits => digits
  have hexadecimal := (char_returns 'x').zipWith (digitsIn_returns (σ := σ) (υ := υ) 16)
    fun _ digits => digits
  have anyBase := ((digitsIn_returns 10).orElse octal).orElse hexadecimal
  refine anyBase.bind fun digits => ?_
  split
  · exact Parser.pure_returns _
  · exact Parser.failWith_returns _ _

omit [LawfulTokenStream σ] in
theorem controlNameEscape_returns : (controlNameEscape : Parser σ υ Char).Returns := by
  refine Parser.choice_returns fun parser present => ?_
  obtain ⟨name, -, rfl⟩ := List.mem_map.mp present
  exact (string_returns name.1).attempt.map _

theorem usualEscape_returns : (usualEscape : Parser σ υ Char).Returns := by
  have key : (controlKeyEscape : Parser σ υ Char).Returns :=
    (char_returns '^').zipWith ((satisfy_returns _).map _) _
  have letterOrNumber := (letterEscape_returns (σ := σ) (υ := υ)).orElse numericEscape_returns
  have orName := letterOrNumber.orElse controlNameEscape_returns
  exact (orName.orElse key).labels ["escape code"]

end Language
end Predictive
