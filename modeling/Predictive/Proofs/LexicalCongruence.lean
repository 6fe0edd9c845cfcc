import Predictive.Lexer.Bracket
import Predictive.Lexer.Literal
import Predictive.Lexer.Word
import Predictive.Proofs.Congruence

/-!
# Lexers respect relations

A relation that the combinators respect holds between the lexers of two languages of the same kind,
if it holds between the parsers for a character, for a fixed text and for a block comment. The
streams may differ: nothing in a lexer depends on how a stream stores its characters. The two
languages have the same marks and reserved words, and related parsers for the characters of names
and operators.
-/

namespace Predictive

variable {σ ς υ α : Type} [TokenStream σ Char] [TokenStream ς Char]

/-- The relation is respected by the combinators and holds between the parsers for characters. -/
structure Parser.LexicalCongruence
    (Rel : ∀ ⦃α : Type⦄, Parser σ υ α → Parser ς υ α → Prop) : Prop
    extends Parser.FullCongruence Rel where
  satisfy (predicate : Char → Bool) : Rel (Parser.satisfy predicate) (Parser.satisfy predicate)
  string (text : String) : Rel (Parser.string text) (Parser.string text)
  blockComment {opening : String} (closing : String) (nested : Bool) : opening ≠ "" →
    Rel (Language.blockComment opening closing nested)
      (Language.blockComment opening closing nested)

/-- A step through a block comment is made of parsers for characters and for the marks. -/
theorem Parser.FullCongruence.commentStep
    {Rel : ∀ ⦃α : Type⦄, Parser σ υ α → Parser ς υ α → Prop}
    (congruence : Parser.FullCongruence Rel)
    (satisfy : ∀ predicate, Rel (Parser.satisfy predicate) (Parser.satisfy predicate))
    (string : ∀ text, Rel (Parser.string text) (Parser.string text))
    (opening closing : String)
    (nested : Bool) :
    Rel (Language.commentStep opening closing nested)
      (Language.commentStep opening closing nested) := by
  have mark (text : String) (found : CommentStep) :=
    congruence.map (fun _ => found) (congruence.attempt (string text))
  have run := congruence.map (fun _ => CommentStep.text) (congruence.skipMany1
    (satisfy fun c => !(Language.commentMarks opening closing).toList.contains c))
  have char := congruence.map (fun _ => CommentStep.text)
    (satisfy fun c => (Language.commentMarks opening closing).toList.contains c)
  refine congruence.label _ (congruence.choice ?_)
  cases nested with
  | false => exact .cons (mark closing .closed) (.cons run (.cons char .nil))
  | true =>
      exact .cons (mark closing .closed) (.cons (mark opening .opened)
        (.cons run (.cons char .nil)))

/-- Languages of the same kind: equal in all that is plain data, with related parsers. -/
structure Language.Related
    (Rel : ∀ ⦃α : Type⦄, Parser σ υ α → Parser ς υ α → Prop)
    (language : Language σ υ) (other : Language ς υ) : Prop where
  commentStart : language.commentStart = other.commentStart
  commentEnd : language.commentEnd = other.commentEnd
  commentLine : language.commentLine = other.commentLine
  nestedComments : language.nestedComments = other.nestedComments
  identStart : Rel language.identStart other.identStart
  identLetter : Rel language.identLetter other.identLetter
  operatorStart : Rel language.operatorStart other.operatorStart
  operatorLetter : Rel language.operatorLetter other.operatorLetter
  reservedNames : language.reservedNames = other.reservedNames
  reservedOperators : language.reservedOperators = other.reservedOperators
  caseSensitive : language.caseSensitive = other.caseSensitive
  escape? : Option.Rel (@Rel Char) language.escape? other.escape?

namespace Parser.LexicalCongruence

variable {Rel : ∀ ⦃α : Type⦄, Parser σ υ α → Parser ς υ α → Prop}
variable (lexical : LexicalCongruence Rel)
include lexical

/-! ## Characters -/

theorem char (wanted : Char) : Rel (Parser.char wanted) (Parser.char wanted) :=
  lexical.label _ (lexical.satisfy _)

theorem oneOf (set : String) : Rel (Parser.oneOf set) (Parser.oneOf set) :=
  lexical.satisfy _

theorem noneOf (set : String) : Rel (Parser.noneOf set) (Parser.noneOf set) :=
  lexical.satisfy _

theorem anyChar : Rel Parser.anyChar Parser.anyChar :=
  lexical.satisfy _

theorem space : Rel Parser.space Parser.space :=
  lexical.label _ (lexical.satisfy _)

theorem spaces : Rel Parser.spaces Parser.spaces :=
  lexical.label _ (lexical.skipMany lexical.space)

theorem spaces1 : Rel Parser.spaces1 Parser.spaces1 :=
  lexical.label _ (lexical.skipMany1 lexical.space)

theorem newline : Rel Parser.newline Parser.newline :=
  lexical.label _ (lexical.char '\n')

theorem crlf : Rel Parser.crlf Parser.crlf :=
  lexical.label _ (lexical.keepRight (lexical.char '\r') (lexical.char '\n'))

theorem endOfLine : Rel Parser.endOfLine Parser.endOfLine :=
  lexical.label _ (lexical.orElse lexical.newline lexical.crlf)

theorem tab : Rel Parser.tab Parser.tab :=
  lexical.label _ (lexical.char '\t')

theorem upper : Rel Parser.upper Parser.upper :=
  lexical.label _ (lexical.satisfy _)

theorem lower : Rel Parser.lower Parser.lower :=
  lexical.label _ (lexical.satisfy _)

theorem letter : Rel Parser.letter Parser.letter :=
  lexical.label _ (lexical.satisfy _)

theorem letterOrDigit : Rel Parser.letterOrDigit Parser.letterOrDigit :=
  lexical.label _ (lexical.satisfy _)

theorem digit : Rel Parser.digit Parser.digit :=
  lexical.label _ (lexical.satisfy _)

theorem hexDigit : Rel Parser.hexDigit Parser.hexDigit :=
  lexical.label _ (lexical.satisfy _)

theorem octalDigit : Rel Parser.octalDigit Parser.octalDigit :=
  lexical.label _ (lexical.satisfy _)

/-! ## Languages -/

theorem plain : Language.Related Rel Language.plain Language.plain where
  commentStart := rfl
  commentEnd := rfl
  commentLine := rfl
  nestedComments := rfl
  identStart := lexical.orElse lexical.letter (lexical.char '_')
  identLetter := lexical.orElse lexical.letterOrDigit (lexical.oneOf "_'")
  operatorStart := lexical.oneOf _
  operatorLetter := lexical.oneOf _
  reservedNames := rfl
  reservedOperators := rfl
  caseSensitive := rfl
  escape? := .none

theorem javaStyle : Language.Related Rel Language.javaStyle Language.javaStyle :=
  { lexical.plain with
    commentStart := rfl
    commentEnd := rfl
    commentLine := rfl
    identStart := lexical.letter
    caseSensitive := rfl }

theorem haskellStyle : Language.Related Rel Language.haskellStyle Language.haskellStyle :=
  { lexical.plain with
    commentStart := rfl
    commentEnd := rfl
    commentLine := rfl
    identStart := lexical.letter }

theorem java : Language.Related Rel Language.java Language.java :=
  { lexical.javaStyle with
    reservedNames := rfl
    reservedOperators := rfl }

theorem haskell : Language.Related Rel Language.haskell Language.haskell :=
  { lexical.haskellStyle with
    reservedNames := rfl
    reservedOperators := rfl }

/-! ## White space -/

section
variable {language : Language σ υ} {other : Language ς υ}

theorem lineComment (mark : String) :
    Rel (Language.lineComment mark) (Language.lineComment mark) :=
  lexical.keepRight (lexical.attempt (lexical.string mark)) (lexical.skipMany (lexical.satisfy _))

theorem blank (related : language.Related Rel other) : Rel language.blank other.blank := by
  have spaces := lexical.skipMany1 (lexical.satisfy Unicode.isWhiteSpace)
  have lines : List.Forall₂ (@Rel Unit)
      (if language.commentLine = "" then [] else [Language.lineComment language.commentLine])
      (if other.commentLine = "" then [] else [Language.lineComment other.commentLine]) := by
    rw [← related.commentLine]
    split
    · exact .nil
    · exact .cons (lexical.lineComment _) .nil
  have blocks : List.Forall₂ (@Rel Unit)
      (if language.commentStart = "" then []
        else [Language.blockComment language.commentStart language.commentEnd
          language.nestedComments])
      (if other.commentStart = "" then []
        else [Language.blockComment other.commentStart other.commentEnd
          other.nestedComments]) := by
    rw [← related.commentStart, ← related.commentEnd, ← related.nestedComments]
    split
    · exact .nil
    · rename_i marked
      exact .cons (lexical.blockComment _ _ marked) .nil
  exact lexical.choice (List.rel_append (List.rel_append (.cons spaces .nil) lines) blocks)

theorem whiteSpace (related : language.Related Rel other) :
    Rel language.whiteSpace other.whiteSpace :=
  lexical.skipMany (lexical.label "" (lexical.blank related))

theorem lexeme
    {parser : Parser σ υ α}
    {otherParser : Parser ς υ α}
    (related : language.Related Rel other)
    (parsers : Rel parser otherParser) :
    Rel (language.lexeme parser) (other.lexeme otherParser) :=
  lexical.keepLeft parsers (lexical.whiteSpace related)

theorem symbol (related : language.Related Rel other) (text : String) :
    Rel (language.symbol text) (other.symbol text) :=
  lexical.lexeme related (lexical.string text)

/-! ## Brackets and lists -/

section
variable {parser : Parser σ υ α} {otherParser : Parser ς υ α}

theorem parens (related : language.Related Rel other) (parsers : Rel parser otherParser) :
    Rel (language.parens parser) (other.parens otherParser) :=
  lexical.between (lexical.symbol related _) (lexical.symbol related _) parsers

theorem braces (related : language.Related Rel other) (parsers : Rel parser otherParser) :
    Rel (language.braces parser) (other.braces otherParser) :=
  lexical.between (lexical.symbol related _) (lexical.symbol related _) parsers

theorem angles (related : language.Related Rel other) (parsers : Rel parser otherParser) :
    Rel (language.angles parser) (other.angles otherParser) :=
  lexical.between (lexical.symbol related _) (lexical.symbol related _) parsers

theorem brackets (related : language.Related Rel other) (parsers : Rel parser otherParser) :
    Rel (language.brackets parser) (other.brackets otherParser) :=
  lexical.between (lexical.symbol related _) (lexical.symbol related _) parsers

theorem semiSep (related : language.Related Rel other) (parsers : Rel parser otherParser) :
    Rel (language.semiSep parser) (other.semiSep otherParser) :=
  lexical.sepBy parsers (lexical.symbol related _)

theorem semiSep1 (related : language.Related Rel other) (parsers : Rel parser otherParser) :
    Rel (language.semiSep1 parser) (other.semiSep1 otherParser) :=
  lexical.sepBy1 parsers (lexical.symbol related _)

theorem commaSep (related : language.Related Rel other) (parsers : Rel parser otherParser) :
    Rel (language.commaSep parser) (other.commaSep otherParser) :=
  lexical.sepBy parsers (lexical.symbol related _)

theorem commaSep1 (related : language.Related Rel other) (parsers : Rel parser otherParser) :
    Rel (language.commaSep1 parser) (other.commaSep1 otherParser) :=
  lexical.sepBy1 parsers (lexical.symbol related _)

end

/-! ## Words -/

theorem unreserved
    {first rest : Parser σ υ Char}
    {otherFirst otherRest : Parser ς υ Char}
    (firsts : Rel first otherFirst)
    (rests : Rel rest otherRest)
    (kind : String)
    (isReserved : String → Bool)
    (complaint : String) :
    Rel (Language.unreserved first rest kind isReserved complaint)
      (Language.unreserved otherFirst otherRest kind isReserved complaint) := by
  refine lexical.bind (lexical.label kind (lexical.zipWith _ firsts (lexical.many rests)))
    fun name => ?_
  split
  · exact lexical.failWith .unexpected _
  · exact lexical.pure name

theorem identifier (related : language.Related Rel other) :
    Rel language.identifier other.identifier := by
  have same : language.isReservedName = other.isReservedName := by
    funext name
    rw [Language.isReservedName, Language.isReservedName, related.caseSensitive,
      related.reservedNames]
  unfold Language.identifier
  rw [same]
  exact lexical.lexeme related
    (lexical.attempt (lexical.unreserved related.identStart related.identLetter _ _ _))

theorem operator (related : language.Related Rel other) :
    Rel language.operator other.operator := by
  have same : language.isReservedOperator = other.isReservedOperator := by
    funext name
    rw [Language.isReservedOperator, Language.isReservedOperator, related.reservedOperators]
  unfold Language.operator
  rw [same]
  exact lexical.lexeme related
    (lexical.attempt (lexical.unreserved related.operatorStart related.operatorLetter _ _ _))

theorem anyCase (c : Char) : Rel (Language.anyCase c) (Language.anyCase c) := by
  unfold Language.anyCase
  split
  · exact lexical.orElse (lexical.char _) (lexical.char _)
  · exact lexical.char c

theorem caseString (related : language.Related Rel other) (text : String) :
    Rel (language.caseString text) (other.caseString text) := by
  unfold Language.caseString
  rw [← related.caseSensitive]
  split
  · exact lexical.string text
  · refine lexical.map _ ?_
    -- Each character goes behind those read before it.
    have letters (chars : List Char) {read : Parser σ υ Unit} {otherRead : Parser ς υ Unit}
        (reads : Rel read otherRead) :
        Rel (chars.foldl (fun read c => read.keepLeft
            ((Language.anyCase c).label (Quoted.string text))) read)
          (chars.foldl (fun read c => read.keepLeft
            ((Language.anyCase c).label (Quoted.string text))) otherRead) := by
      induction chars generalizing read otherRead with
      | nil => exact reads
      | cons c chars ih =>
          exact ih (lexical.keepLeft reads (lexical.label _ (lexical.anyCase c)))
    exact letters text.toList (lexical.pure ())

theorem wordEnd
    {letter : Parser σ υ Char}
    {otherLetter : Parser ς υ Char}
    (letters : Rel letter otherLetter)
    (text : String) :
    Rel (Language.wordEnd letter text) (Language.wordEnd otherLetter text) :=
  lexical.label _ (lexical.notFollowedBy letters)

theorem reserved (related : language.Related Rel other) (name : String) :
    Rel (language.reserved name) (other.reserved name) :=
  lexical.lexeme related (lexical.attempt (lexical.keepRight
    (lexical.caseString related name) (lexical.wordEnd related.identLetter name)))

theorem reservedOperator (related : language.Related Rel other) (name : String) :
    Rel (language.reservedOperator name) (other.reservedOperator name) :=
  lexical.lexeme related (lexical.attempt (lexical.keepRight
    (lexical.string name) (lexical.wordEnd related.operatorLetter name)))

/-! ## Numbers -/

theorem sign : Rel Language.sign Language.sign :=
  lexical.orElse (lexical.orElse (lexical.map _ (lexical.char '-'))
    (lexical.map _ (lexical.char '+'))) (lexical.pure false)

theorem digitsIn (base : Nat) : Rel (Language.digitsIn base) (Language.digitsIn base) := by
  refine lexical.map _ ?_
  split
  · exact lexical.many1 lexical.hexDigit
  · exact lexical.many1 lexical.octalDigit
  · exact lexical.many1 lexical.digit

theorem hexDigits : Rel Language.hexDigits Language.hexDigits :=
  lexical.keepRight (lexical.oneOf _) (lexical.digitsIn 16)

theorem octalDigits : Rel Language.octalDigits Language.octalDigits :=
  lexical.keepRight (lexical.oneOf _) (lexical.digitsIn 8)

theorem naturalDigits : Rel Language.naturalDigits Language.naturalDigits :=
  lexical.orElse (lexical.label "" (lexical.keepRight (lexical.char '0')
    (lexical.orElse (lexical.orElse (lexical.orElse lexical.hexDigits lexical.octalDigits)
      (lexical.digitsIn 10)) (lexical.pure _)))) (lexical.digitsIn 10)

theorem integerOf (range : IntegerRange) (digits : Digits) (negative : Bool) :
    Rel (Language.integerOf range digits negative) (Language.integerOf range digits negative) := by
  unfold Language.integerOf
  split
  · exact lexical.pure _
  · exact lexical.failWith .generic _

theorem fraction : Rel Language.fraction Language.fraction :=
  lexical.label _ (lexical.keepRight (lexical.char '.')
    (lexical.label _ (lexical.many1 lexical.digit)))

theorem exponent : Rel Language.exponent Language.exponent :=
  lexical.label _ (lexical.zipWith _
    (lexical.keepRight (lexical.oneOf _) (lexical.maybe (lexical.oneOf _)))
    (lexical.label _ (lexical.many1 lexical.digit)))

theorem floatTail : Rel Language.floatTail Language.floatTail :=
  lexical.orElse (lexical.zipWith _ lexical.fraction (lexical.maybe lexical.exponent))
    (lexical.map _ lexical.exponent)

theorem unsignedFloat : Rel Language.unsignedFloat Language.unsignedFloat :=
  lexical.bind (lexical.pair (lexical.digitsIn 10) lexical.floatTail) fun _ => lexical.pure _

theorem floatAfter (whole : List Char) :
    Rel (Language.floatAfter whole) (Language.floatAfter whole) :=
  lexical.map _ (lexical.bind lexical.floatTail fun _ => lexical.pure _)

theorem decimalOrFloat : Rel Language.decimalOrFloat Language.decimalOrFloat :=
  lexical.bind (lexical.digitsIn 10) fun whole =>
    lexical.bind (lexical.map _ (lexical.integerOf _ whole false)) fun value =>
      lexical.withDefault value (lexical.floatAfter whole.chars)

theorem unsignedNumber : Rel Language.unsignedNumber Language.unsignedNumber := by
  have based := lexical.bind (lexical.orElse lexical.hexDigits lexical.octalDigits)
    fun digits => lexical.map Number.integer (lexical.integerOf (.signed 64) digits false)
  have afterZero := lexical.orElse (lexical.orElse (lexical.orElse based lexical.decimalOrFloat)
    (lexical.floatAfter ['0'])) (lexical.pure (.integer 0))
  exact lexical.orElse (lexical.keepRight (lexical.char '0') afterZero) lexical.decimalOrFloat

theorem naturalIn (related : language.Related Rel other) (range : IntegerRange) :
    Rel (language.naturalIn range) (other.naturalIn range) :=
  lexical.label _ (lexical.lexeme related
    (lexical.bind lexical.naturalDigits fun digits => lexical.integerOf range digits false))

theorem integerIn (related : language.Related Rel other) (range : IntegerRange) :
    Rel (language.integerIn range) (other.integerIn range) :=
  lexical.label _ (lexical.lexeme related (lexical.bind
    (lexical.pair (lexical.lexeme related lexical.sign) lexical.naturalDigits)
      fun (negative, digits) => lexical.integerOf range digits negative))

theorem float (related : language.Related Rel other) : Rel language.float other.float :=
  lexical.label _ (lexical.lexeme related lexical.unsignedFloat)

theorem integerAsFloat (related : language.Related Rel other) :
    Rel language.integerAsFloat other.integerAsFloat :=
  lexical.label _ (lexical.lexeme related
    (lexical.map _ (lexical.pair (lexical.lexeme related lexical.sign) lexical.naturalDigits)))

theorem naturalOrFloat (related : language.Related Rel other) :
    Rel language.naturalOrFloat other.naturalOrFloat :=
  lexical.label _ (lexical.lexeme related lexical.unsignedNumber)

theorem number (related : language.Related Rel other) : Rel language.number other.number := by
  have signed := lexical.pair (lexical.lexeme related lexical.sign) lexical.unsignedFloat
  exact lexical.label _ (lexical.orElse
    (lexical.map Number.float (lexical.lexeme related (lexical.attempt (lexical.map _ signed))))
    (lexical.map Number.integer (lexical.integerIn related _)))

theorem decimal : Rel Language.decimal Language.decimal :=
  lexical.bind (lexical.digitsIn 10) fun digits => lexical.integerOf _ digits false

theorem hexadecimal : Rel Language.hexadecimal Language.hexadecimal :=
  lexical.bind lexical.hexDigits fun digits => lexical.integerOf _ digits false

theorem octal : Rel Language.octal Language.octal :=
  lexical.bind lexical.octalDigits fun digits => lexical.integerOf _ digits false

/-! ## Literals -/

theorem letterEscape : Rel Language.letterEscape Language.letterEscape := by
  refine lexical.choice (List.rel_map (fun code other same => ?_)
    (List.forall₂_same.mpr fun code _ => rfl))
  rw [same]
  exact lexical.map _ (lexical.char _)

theorem numericEscape : Rel Language.numericEscape Language.numericEscape := by
  refine lexical.bind (lexical.orElse (lexical.orElse (lexical.digitsIn 10)
    (lexical.keepRight (lexical.char 'o') (lexical.digitsIn 8)))
    (lexical.keepRight (lexical.char 'x') (lexical.digitsIn 16))) fun digits => ?_
  split
  · exact lexical.pure _
  · exact lexical.failWith .generic _

theorem controlNameEscape : Rel Language.controlNameEscape Language.controlNameEscape := by
  refine lexical.choice (List.rel_map (fun code other same => ?_)
    (List.forall₂_same.mpr fun code _ => rfl))
  rw [same]
  exact lexical.map _ (lexical.attempt (lexical.string _))

theorem controlKeyEscape : Rel Language.controlKeyEscape Language.controlKeyEscape :=
  lexical.keepRight (lexical.char '^') (lexical.map _ (lexical.oneOf _))

theorem usualEscape : Rel Language.usualEscape Language.usualEscape :=
  lexical.label _ (lexical.orElse (lexical.orElse
    (lexical.orElse lexical.letterEscape lexical.numericEscape)
    lexical.controlNameEscape) lexical.controlKeyEscape)

theorem escape (related : language.Related Rel other) : Rel language.escape other.escape := by
  unfold Language.escape
  generalize language.escape? = given, other.escape? = otherGiven, related.escape? = escapes
  cases escapes with
  | none => exact lexical.usualEscape
  | some escapes => exact escapes

theorem charLiteral (related : language.Related Rel other) :
    Rel language.charLiteral other.charLiteral := by
  have escaped := lexical.keepRight (lexical.char '\\') (lexical.escape related)
  have character := lexical.label "literal character"
    (lexical.orElse (lexical.satisfy (Language.isPlainIn '\'')) escaped)
  exact lexical.label _ (lexical.lexeme related
    (lexical.between (lexical.char '\'') (lexical.label _ (lexical.char '\'')) character))

theorem stringPart (related : language.Related Rel other) :
    Rel language.stringPart other.stringPart := by
  have gap := lexical.map (fun _ => (none : Option Char)) (lexical.keepRight
    (lexical.many1 lexical.space) (lexical.label "end of string gap" (lexical.char '\\')))
  have nothing := lexical.map (fun _ => (none : Option Char)) (lexical.char '&')
  have escaped := lexical.keepRight (lexical.char '\\')
    (lexical.orElse (lexical.orElse gap nothing) (lexical.map some (lexical.escape related)))
  exact lexical.label _ (lexical.orElse (lexical.map some (lexical.satisfy _)) escaped)

theorem stringLiteral (related : language.Related Rel other) :
    Rel language.stringLiteral other.stringLiteral :=
  lexical.label _ (lexical.lexeme related (lexical.map _
    (lexical.between (lexical.char '"') (lexical.label _ (lexical.char '"'))
      (lexical.many (lexical.stringPart related)))))

end

end Parser.LexicalCongruence
end Predictive
