import Predictive.Proofs.LexemeReturning

/-!
# Lexers without defects

A lexer repeats runs of white space and comments, the letters of words, the parts of strings, and
the items of lists behind their separators. Whatever marks a language has for its comments, each of
these parsers consumes input whenever it succeeds: a comment without a mark is left out and any
other takes its mark, an escape stands behind its backslash, and an item behind its separator. So no
repetition is ever run on a parser that accepts nothing, and the parsers that the lexer hands out
have no defect of this kind, if the parsers that it is handed have none.

A letter, an escape or an item may still put input back, by exchanging it for another. The word, the
string or the list then need not come to an end, and is given up. Every parser that the lexer hands
out returns where nothing that it repeats does so.
-/

namespace Predictive
namespace Language

open Predictive.Parser (Composed Primitive Repeatable char_returns char_takesChar primitive_lexical
  satisfy_returns satisfy_takesChar)

variable {σ υ α : Type} [TokenStream σ Char] [LawfulTokenStream σ]
variable {language : Language σ υ} {exchange : Prop}

/-! ## Languages -/

/-- The parsers of a language have an outcome on every state, and its letters never succeed without
consuming. -/
structure Total (language : Language σ υ) : Prop where
  identStart : language.identStart.Returns
  identLetter : language.identLetter.Returns
  operatorStart : language.operatorStart.Returns
  operatorLetter : language.operatorLetter.Returns
  escape : ∀ escape ∈ language.escape?, escape.Returns
  identLetterConsumes : language.identLetter.AlwaysConsumes
  operatorLetterConsumes : language.operatorLetter.AlwaysConsumes

omit [LawfulTokenStream σ] in
/-- Languages are total where each of their parsers takes a character, and the escapes are the usual
ones. -/
theorem total_of_takesChar
    {identStart identLetter operatorStart operatorLetter : Char → Bool}
    (identStarts : language.identStart.TakesChar identStart)
    (identLetters : language.identLetter.TakesChar identLetter)
    (operatorStarts : language.operatorStart.TakesChar operatorStart)
    (operatorLetters : language.operatorLetter.TakesChar operatorLetter)
    (usual : language.escape? = none) :
    language.Total where
  identStart := identStarts.returns
  identLetter := identLetters.returns
  operatorStart := operatorStarts.returns
  operatorLetter := operatorLetters.returns
  escape := by simp [usual]
  identLetterConsumes := identLetters.alwaysConsumes
  operatorLetterConsumes := operatorLetters.alwaysConsumes

theorem escape_keeps (keeps : ∀ escape ∈ language.escape?, escape.Relates State.Keeps) :
    language.escape.Relates State.Keeps := by
  unfold Language.escape
  cases given : language.escape? with
  | none => exact Parser.keeps_of_composed primitive_lexical.usualEscape
  | some escape => exact keeps escape given

section
variable (total : language.Total)
include total

omit [LawfulTokenStream σ] in
theorem Total.identLetter_repeatable
    (shortens : ¬ exchange → language.identLetter.Relates State.Shortens) :
    language.identLetter.Repeatable exchange where
  returns := total.identLetter.returnsUnless
  consumes := total.identLetterConsumes
  shortens := shortens

omit [LawfulTokenStream σ] in
theorem Total.operatorLetter_repeatable
    (shortens : ¬ exchange → language.operatorLetter.Relates State.Shortens) :
    language.operatorLetter.Repeatable exchange where
  returns := total.operatorLetter.returnsUnless
  consumes := total.operatorLetterConsumes
  shortens := shortens

theorem Total.escape_returns : language.escape.Returns := by
  unfold Language.escape
  cases given : language.escape? with
  | none => exact usualEscape_returns
  | some escape => exact total.escape escape given

/-- The parts of a string may be repeated, for each of them takes a character of its own or the
backslash in front of its escape. -/
theorem Total.stringPart_repeatable
    (keeps : ¬ exchange → ∀ escape ∈ language.escape?, escape.Relates State.Keeps) :
    language.stringPart.Repeatable exchange := by
  have spaces := Parser.TakesChar.many1_returns (σ := σ) (υ := υ)
    ((satisfy_takesChar Unicode.isWhiteSpace).label "space")
  refine Repeatable.labels (.orElse ((satisfy_takesChar _).repeatable.map some) ?_) _
  refine (char_takesChar '\\').repeatable.zipWith ?returns (fun kept => ?keeps) _
  case returns =>
    have gap := spaces.zipWith ((char_returns '\\').labels ["end of string gap"])
      fun _ mark => mark
    have filler := (gap.map fun _ => (none : Option Char)).orElse
      ((char_returns '&').map fun _ => none)
    exact (filler.orElse (total.escape_returns.map some)).returnsUnless
  case keeps =>
    have gap : Composed Primitive (Parser.space.many1.keepRight
        ((Parser.char '\\').label "end of string gap") : Parser σ υ Char) :=
      (Composed.many1 (.label _ (.satisfy _))).keepRight ((Composed.char _).label _)
    have gapKeeps := (Parser.keeps_of_composed gap).map fun _ => (none : Option Char)
    have fillerKeeps := gapKeeps.orElse ((Parser.keeps_of_composed (.char '&')).map fun _ => none)
    exact fillerKeeps.orElse ((escape_keeps (keeps kept)).map some)

end

/-! ## What a lexer hands out -/

/-- The parsers that the lexer of a language hands out. They may be made of parsers that it is
handed: some of these are run once, and others, the letters of words, the escapes of strings and the
items of lists, are repeated. The numbers of 64 bits are those of one of the ranges. -/
inductive HandsOut
    (language : Language σ υ)
    (Single Letter Repeated : ∀ ⦃α : Type⦄, Parser σ υ α → Prop) :
    ∀ ⦃α : Type⦄, Parser σ υ α → Prop
  | whiteSpace : HandsOut language Single Letter Repeated language.whiteSpace
  | lexeme {α : Type} {parser : Parser σ υ α} :
      Single parser → HandsOut language Single Letter Repeated (language.lexeme parser)
  | symbol (text : String) : HandsOut language Single Letter Repeated (language.symbol text)
  | identifier :
      Letter language.identLetter → HandsOut language Single Letter Repeated language.identifier
  | reserved (name : String) : HandsOut language Single Letter Repeated (language.reserved name)
  | operator :
      Letter language.operatorLetter → HandsOut language Single Letter Repeated language.operator
  | reservedOperator (name : String) :
      HandsOut language Single Letter Repeated (language.reservedOperator name)
  | charLiteral : HandsOut language Single Letter Repeated language.charLiteral
  | stringLiteral :
      (∀ escape ∈ language.escape?, Repeated escape) →
        HandsOut language Single Letter Repeated language.stringLiteral
  | naturalIn (range : IntegerRange) :
      HandsOut language Single Letter Repeated (language.naturalIn range)
  | integerIn (range : IntegerRange) :
      HandsOut language Single Letter Repeated (language.integerIn range)
  | float : HandsOut language Single Letter Repeated language.float
  | integerAsFloat : HandsOut language Single Letter Repeated language.integerAsFloat
  | naturalOrFloat : HandsOut language Single Letter Repeated language.naturalOrFloat
  | number : HandsOut language Single Letter Repeated language.number
  | decimal : HandsOut language Single Letter Repeated Language.decimal
  | hexadecimal : HandsOut language Single Letter Repeated Language.hexadecimal
  | octal : HandsOut language Single Letter Repeated Language.octal
  | parens {α : Type} {parser : Parser σ υ α} :
      Single parser → HandsOut language Single Letter Repeated (language.parens parser)
  | braces {α : Type} {parser : Parser σ υ α} :
      Single parser → HandsOut language Single Letter Repeated (language.braces parser)
  | angles {α : Type} {parser : Parser σ υ α} :
      Single parser → HandsOut language Single Letter Repeated (language.angles parser)
  | brackets {α : Type} {parser : Parser σ υ α} :
      Single parser → HandsOut language Single Letter Repeated (language.brackets parser)
  | semiSep {α : Type} {parser : Parser σ υ α} :
      Repeated parser → HandsOut language Single Letter Repeated (language.semiSep parser)
  | semiSep1 {α : Type} {parser : Parser σ υ α} :
      Repeated parser → HandsOut language Single Letter Repeated (language.semiSep1 parser)
  | commaSep {α : Type} {parser : Parser σ υ α} :
      Repeated parser → HandsOut language Single Letter Repeated (language.commaSep parser)
  | commaSep1 {α : Type} {parser : Parser σ υ α} :
      Repeated parser → HandsOut language Single Letter Repeated (language.commaSep1 parser)

theorem unreserved_returnsUnless
    {first other : Parser σ υ Char}
    (returns : first.Returns)
    (letters : other.Repeatable exchange)
    (kind : String)
    (isReserved : String → Bool)
    (complaint : String) :
    (unreserved first other kind isReserved complaint).ReturnsUnless exchange := by
  refine ((returns.returnsUnless.zipWith letters.many _).labels _).bind fun name => ?_
  split
  · exact (Parser.failWith_returns _ _).returnsUnless
  · exact (Parser.pure_returns name).returnsUnless

section
variable (total : language.Total)
include total

theorem Total.charLiteral_returns : language.charLiteral.Returns := by
  have escaped := (char_returns '\\').zipWith total.escape_returns fun _ value => value
  have character := ((satisfy_returns (isPlainIn '\'')).orElse escaped).labels ["literal character"]
  have opened := (char_returns '\'').zipWith character fun _ value => value
  have quoted := opened.zipWith ((char_returns '\'').labels ["end of character"])
    fun value _ => value
  exact (lexeme_returns quoted).labels ["character"]

theorem Total.stringLiteral_returnsUnless
    (keeps : ¬ exchange → ∀ escape ∈ language.escape?, escape.Relates State.Keeps) :
    language.stringLiteral.ReturnsUnless exchange := by
  have parts := (total.stringPart_repeatable keeps).many
  have quote : (Parser.char '"' : Parser σ υ Char).ReturnsUnless exchange :=
    (char_returns _).returnsUnless
  have opened := quote.zipWith parts fun _ parts => parts
  have quoted := opened.zipWith (quote.labels ["end of string"]) fun parts _ => parts
  have text := quoted.map fun parts => String.ofList (parts.filterMap id)
  exact (lexeme_returnsUnless text).labels ["literal string"]

/-- No parser that the lexer hands out has a defect, except that one may run on without an end where
a parser that it repeats puts input back. -/
theorem HandsOut.returnsUnless
    {Single Letter Repeated : ∀ ⦃α : Type⦄, Parser σ υ α → Prop}
    (singles : ∀ ⦃α : Type⦄ ⦃parser : Parser σ υ α⦄, Single parser → parser.Returns)
    (letters : ¬ exchange → ∀ ⦃α : Type⦄ ⦃parser : Parser σ υ α⦄, Letter parser →
      parser.Relates State.Shortens)
    (others : ∀ ⦃α : Type⦄ ⦃parser : Parser σ υ α⦄, Repeated parser →
      parser.Returns ∧ (¬ exchange → parser.Relates State.Keeps))
    {parser : Parser σ υ α}
    (handed : language.HandsOut Single Letter Repeated parser) :
    parser.ReturnsUnless exchange := by
  have list {β : Type} {item : Parser σ υ β} (separator : String) (marked : separator ≠ "")
      (repeated : Repeated item) :
      item.ReturnsUnless exchange ∧
        ((language.symbol separator).keepRight item).Repeatable exchange :=
    ⟨(others repeated).1.returnsUnless,
      language.separated_repeatable marked (others repeated).1 (others repeated).2⟩
  cases handed with
  | whiteSpace => exact language.whiteSpace_returns.returnsUnless
  | lexeme single => exact (lexeme_returns (singles single)).returnsUnless
  | symbol text => exact (language.symbol_returns text).returnsUnless
  | identifier letter =>
      have repeatable := total.identLetter_repeatable fun kept => letters kept letter
      exact lexeme_returnsUnless
        (unreserved_returnsUnless total.identStart repeatable _ _ _).attempt
  | reserved name =>
      have ends : (wordEnd language.identLetter name).Returns :=
        total.identLetter.notFollowedBy.labels _
      have word := (language.caseString_returns name).zipWith ends fun _ value => value
      exact (lexeme_returns word.attempt).returnsUnless
  | operator letter =>
      have repeatable := total.operatorLetter_repeatable fun kept => letters kept letter
      exact lexeme_returnsUnless
        (unreserved_returnsUnless total.operatorStart repeatable _ _ _).attempt
  | reservedOperator name =>
      have ends : (wordEnd language.operatorLetter name).Returns :=
        total.operatorLetter.notFollowedBy.labels _
      have word := (string_returns name).zipWith ends fun _ value => value
      exact (lexeme_returns word.attempt).returnsUnless
  | charLiteral => exact total.charLiteral_returns.returnsUnless
  | stringLiteral escapes =>
      exact total.stringLiteral_returnsUnless fun kept escape given =>
        (others (escapes escape given)).2 kept
  | naturalIn range =>
      exact ((lexeme_returns (naturalDigits_returns.bind fun digits =>
        integerOf_returns range digits false)).labels _).returnsUnless
  | integerIn range => exact (language.integerIn_returns range).returnsUnless
  | float => exact ((lexeme_returns unsignedFloat_returns).labels _).returnsUnless
  | integerAsFloat =>
      have front : (language.lexeme sign).Returns := lexeme_returns sign_returns
      have signed := front.zipWith naturalDigits_returns Prod.mk
      exact ((lexeme_returns (signed.map _)).labels _).returnsUnless
  | naturalOrFloat => exact ((lexeme_returns unsignedNumber_returns).labels _).returnsUnless
  | number => exact language.number_returns.returnsUnless
  | decimal => exact decimal_returns.returnsUnless
  | hexadecimal =>
      exact (hexDigits_returns.bind fun digits => integerOf_returns _ digits false).returnsUnless
  | octal =>
      exact (octalDigits_returns.bind fun digits => integerOf_returns _ digits false).returnsUnless
  | parens single => exact (between_returns (singles single) _ _).returnsUnless
  | braces single => exact (between_returns (singles single) _ _).returnsUnless
  | angles single => exact (between_returns (singles single) _ _).returnsUnless
  | brackets single => exact (between_returns (singles single) _ _).returnsUnless
  | semiSep item =>
      obtain ⟨returns, repeatable⟩ := list ";" (by decide) item
      exact Parser.sepBy_returnsUnless returns repeatable
  | semiSep1 item =>
      obtain ⟨returns, repeatable⟩ := list ";" (by decide) item
      exact Parser.sepBy1_returnsUnless returns repeatable
  | commaSep item =>
      obtain ⟨returns, repeatable⟩ := list "," (by decide) item
      exact Parser.sepBy_returnsUnless returns repeatable
  | commaSep1 item =>
      obtain ⟨returns, repeatable⟩ := list "," (by decide) item
      exact Parser.sepBy1_returnsUnless returns repeatable

end

/-! ## The depth of a comment -/

/-- A round of a block comment behind which another one follows, from a depth and a state to those
behind a step. -/
def CommentTurn (step : Parser σ υ CommentStep) (before after : Nat × State σ υ) : Prop :=
  ∃ consumed found error, step.Yields before.2 consumed found after.2 error ∧
    after.1 = found.depthAfter before.1 ∧ after.1 ≠ 0

section
variable {step : Parser σ υ CommentStep} {count : Nat} {first last : Nat × State σ υ}

omit [TokenStream σ Char] [LawfulTokenStream σ]

/-- Rounds that have been made leave what the comment returns to the rounds that follow. -/
theorem commentFrom_of_reaches
    (reaches : Reaches (CommentTurn step) count first last)
    (rounds : Nat)
    (error : ParseError) :
    ∃ later, commentFrom step (count + rounds) first.1 first.2 error =
      commentFrom step rounds last.1 last.2 later := by
  induction reaches generalizing error with
  | refl place => exact ⟨error, by rw [Nat.zero_add]⟩
  | head goesOn others ih =>
      obtain ⟨consumed, found, stepError, ran, deeper, opened⟩ := goesOn
      obtain ⟨later, same⟩ := ih stepError
      rw [deeper] at opened same
      refine ⟨later, ?_⟩
      rw [Nat.add_right_comm, commentFrom, ran]
      simpa only [if_neg opened] using same

theorem depth_ne_zero_of_reaches
    (reaches : Reaches (CommentTurn step) count first last)
    (opened : first.1 ≠ 0) :
    last.1 ≠ 0 := by
  induction reaches with
  | refl place => exact opened
  | head goesOn others ih =>
      obtain ⟨-, -, -, -, -, stillOpen⟩ := goesOn
      exact ih stillOpen

end

/-- A comment has no more rounds than there are tokens: each takes one, unless no mark closes the
comment, which then has no other round behind its first. -/
theorem count_le_of_reaches
    {opening closing : String}
    {nested : Bool}
    {count : Nat}
    {state : State σ υ}
    {last : Nat × State σ υ}
    (marked : opening ≠ "")
    (reaches : Reaches (CommentTurn (commentStep opening closing nested)) count (1, state) last) :
    count ≤ (TokenStream.toList state.input).length := by
  by_cases closes : closing = ""
  · subst closes
    cases reaches with
    | refl => exact Nat.zero_le _
    | head goesOn others =>
        obtain ⟨_, found, _, ran, deeper, opened⟩ := goesOn
        rw [commentStep_closed ran] at deeper
        exact absurd deeper opened
  · have consumes := commentStep_alwaysConsumes (σ := σ) (υ := υ) marked closes nested
    have composed : Composed Primitive (commentStep opening closing nested) :=
      primitive_lexical.commentStep (σ := σ) (υ := υ) Composed.satisfy Composed.string
        opening closing nested
    have shortens {before after : Nat × State σ υ}
        (turn : CommentTurn (commentStep opening closing nested) before after) :
        (TokenStream.toList after.2.input).length < (TokenStream.toList before.2.input).length := by
      obtain ⟨consumed, found, error, ran, -⟩ := turn
      cases consumed with
      | false => exact absurd ran (consumes _ _ _ _)
      | true => exact (Parser.tagsSoundly_of_composed composed ran).length_lt
    have fewer := reaches.add_le (fun stage => (TokenStream.toList stage.2.input).length) shortens
    exact (Nat.le_add_right _ _).trans fewer

/-! ## Lexers as a whole -/

/-- If the parsers of a language have outcomes and its letters are consumed, then no parser that its
lexer hands out has a defect, except that one may run on without an end where a letter of a word, an
escape of a string or an item of a list puts input back. A word whose letters each leave fewer
tokens returns, and so does a string or a list whose escapes or items never leave more, and any
other parser in any case. The repeated parsers that depend on marks, escapes and items always
consume. A comment has another round only with a depth above zero, so that no closing mark takes it
below, and no more rounds than there are tokens. -/
theorem handedOut_return (language : Language σ υ) (total : language.Total) :
    (∀ ⦃α : Type⦄ ⦃parser : Parser σ υ α⦄,
      language.HandsOut (fun _ single => single.Returns) (fun _ _ => True)
          (fun _ repeated => repeated.Returns) parser →
        ∀ state defect, parser.run state = .error defect → defect = .unbounded) ∧
    (∀ ⦃α : Type⦄ ⦃parser : Parser σ υ α⦄,
      language.HandsOut (fun _ single => single.Returns)
          (fun _ letter => letter.Relates State.Shortens)
          (fun _ repeated => repeated.Returns ∧ repeated.Relates State.Keeps) parser →
        ∀ state, ∃ outcome, parser.run state = .ok outcome) ∧
    (language.blank.AlwaysConsumes ∧ language.stringPart.AlwaysConsumes ∧
      ∀ ⦃separator : String⦄, separator ≠ "" → ∀ ⦃α : Type⦄ (item : Parser σ υ α),
        ((language.symbol separator).keepRight item).AlwaysConsumes) ∧
    (language.commentStart ≠ "" → ∀ ⦃count : Nat⦄ ⦃state : State σ υ⦄ ⦃last : Nat × State σ υ⦄,
      Reaches (CommentTurn (commentStep language.commentStart language.commentEnd
          language.nestedComments)) count (1, state) last →
        0 < last.1 ∧ count ≤ (TokenStream.toList state.input).length ∧
          ∀ rounds error, ∃ later,
            commentFrom (commentStep language.commentStart language.commentEnd
                language.nestedComments) (count + rounds) 1 state error =
              commentFrom (commentStep language.commentStart language.commentEnd
                language.nestedComments) rounds last.1 last.2 later) := by
  refine ⟨fun α parser handed state defect ran => ?_, fun α parser handed => ?_,
    ⟨?_, ?_, fun separator some α item => ?_⟩, fun marked count state last reaches => ?_⟩
  · have returns : parser.ReturnsUnless True :=
      handed.returnsUnless total (fun _ _ single => single) (fun free => absurd trivial free)
        fun _ _ repeated => ⟨repeated, fun free => absurd trivial free⟩
    exact (returns ran).2
  · have returns : parser.ReturnsUnless False :=
      handed.returnsUnless total (fun _ _ single => single) (fun _ _ _ letter => letter)
        fun _ _ repeated => ⟨repeated.1, fun _ => repeated.2⟩
    exact Parser.returns_iff.mpr returns
  · have repeatable : language.blank.Repeatable True := language.blank_repeatable
    exact repeatable.consumes
  · have repeatable : language.stringPart.Repeatable True :=
      total.stringPart_repeatable fun free => absurd trivial free
    exact repeatable.consumes
  · exact (language.symbol_alwaysConsumes some).zipWith _ _
  · exact ⟨Nat.pos_of_ne_zero (depth_ne_zero_of_reaches reaches Nat.one_ne_zero),
      count_le_of_reaches marked reaches, commentFrom_of_reaches reaches⟩

/-- A list of numbers, in a language whose comments end with the beginning of their own mark. -/
theorem handedOut_return_overlapping :
    let language : Language Text Unit :=
      { Language.plain with commentStart := "--", commentEnd := "-", commentLine := "---" }
    language.Total ∧ ∃ outcome,
      (language.commaSep decimal).run ⟨Text.ofString "1,--2---3", .start "", ()⟩ = .ok outcome := by
  intro language
  have identStarts : language.identStart.TakesChar fun c => Unicode.isAlphabetic c || c == '_' :=
    Parser.TakesChar.orElse ((satisfy_takesChar _).label _) (char_takesChar '_')
  have operators : language.operatorLetter.TakesChar fun c => operatorChars.toList.contains c :=
    satisfy_takesChar _
  have total : language.Total :=
    total_of_takesChar identStarts plain_identLetter_takesChar operators operators rfl
  have item : (decimal : Parser Text Unit Int).Returns ∧
      (decimal : Parser Text Unit Int).Relates State.Keeps :=
    ⟨decimal_returns, Parser.keeps_of_composed primitive_lexical.decimal⟩
  exact ⟨total, (handedOut_return language total).2.1 (.commaSep item) _⟩

/-! ## Input that is put back -/

/-- The state at the start of a text. -/
def startOf (text : String) : State Text Unit :=
  ⟨Text.ofString text, .start "", ()⟩

/-- The state behind the first character of a text, if that takes one column. -/
def behindFirst (text : String) (some : text.startPos ≠ text.endPos) : State Text Unit :=
  ⟨⟨text, text.startPos.next some⟩, .clamped "" 1 2, ()⟩

/-- Start over with a text. -/
def restart (text : String) : Parser Text Unit Unit :=
  (Parser.modifyState fun _ => startOf text).map fun _ => ()

/-- A language whose letters and escapes put back what they have taken. -/
def rewinding : Language Text Unit :=
  { (plain : Language Text Unit) with
    identStart := Parser.char 'a'
    identLetter := (Parser.char 'a').keepLeft (restart "a")
    operatorStart := Parser.char 'a'
    operatorLetter := (Parser.char 'a').keepLeft (restart "a")
    escape? := some ((Parser.char 'a').keepLeft (restart "\\a")) }

theorem restart_returns (text : String) : (restart text).Returns :=
  fun _ => ⟨_, rfl⟩

theorem rewinding_total : rewinding.Total := by
  have first : (Parser.char 'a' : Parser Text Unit Char).Returns := char_returns 'a'
  have consumes (text : String) : ((Parser.char 'a').keepLeft (restart text)).AlwaysConsumes :=
    (char_takesChar 'a').alwaysConsumes.zipWith _ _
  have letter (text : String) : ((Parser.char 'a').keepLeft (restart text)).Returns :=
    first.zipWith (restart_returns text) _
  exact {
    identStart := first
    identLetter := letter "a"
    operatorStart := first
    operatorLetter := letter "a"
    escape := by simpa [rewinding] using letter "\\a"
    identLetterConsumes := consumes "a"
    operatorLetterConsumes := consumes "a" }

omit [LawfulTokenStream σ] in
/-- What stops the letters of a word stops the word. -/
theorem word_eq_error
    {first other : Parser σ υ Char}
    {state middle : State σ υ}
    {consumed : Bool}
    {c : Char}
    {error : ParseError}
    {defect : Defect}
    (ran : first.Yields state consumed c middle error)
    (letters : other.many.run middle = .error defect)
    (kind : String)
    (isReserved : String → Bool)
    (complaint : String) :
    (language.lexeme (unreserved first other kind isReserved complaint).attempt).run state =
      .error defect := by
  have word := Parser.run_zipWith_of_second_error ran letters fun c cs => String.ofList (c :: cs)
  have named : ((first.zipWith other.many fun c cs => String.ofList (c :: cs)).label kind).run
      state = .error defect := exceptMap_eq_error_iff.mpr word
  have tried : (unreserved first other kind isReserved complaint).attempt.run state =
      .error defect := exceptMap_eq_error_iff.mpr (Parser.run_bind_of_error named _)
  exact Parser.run_zipWith_of_error tried _ _

omit [LawfulTokenStream σ] in
theorem identifier_eq_error
    {state middle : State σ υ}
    {consumed : Bool}
    {c : Char}
    {error : ParseError}
    {defect : Defect}
    (ran : language.identStart.Yields state consumed c middle error)
    (letters : language.identLetter.many.run middle = .error defect) :
    language.identifier.run state = .error defect :=
  word_eq_error ran letters _ _ _

omit [LawfulTokenStream σ] in
theorem operator_eq_error
    {state middle : State σ υ}
    {consumed : Bool}
    {c : Char}
    {error : ParseError}
    {defect : Defect}
    (ran : language.operatorStart.Yields state consumed c middle error)
    (letters : language.operatorLetter.many.run middle = .error defect) :
    language.operator.run state = .error defect :=
  word_eq_error ran letters _ _ _

omit [LawfulTokenStream σ] in
/-- What stops the parts of a string stops the string. -/
theorem stringLiteral_eq_error
    {state middle : State σ υ}
    {consumed : Bool}
    {c : Char}
    {error : ParseError}
    {defect : Defect}
    (ran : (Parser.char '"').Yields state consumed c middle error)
    (parts : language.stringPart.many.run middle = .error defect) :
    language.stringLiteral.run state = .error defect := by
  have inside := Parser.run_zipWith_of_second_error ran parts fun _ value => value
  have quoted : ((Parser.between (Parser.char '"') ((Parser.char '"').label "end of string")
      language.stringPart.many).map fun parts => String.ofList (parts.filterMap id)).run state =
        .error defect := exceptMap_eq_error_iff.mpr (Parser.run_zipWith_of_error inside _ _)
  exact exceptMap_eq_error_iff.mpr (Parser.run_zipWith_of_error quoted _ _)

omit [LawfulTokenStream σ] in
/-- What stops the items of a list behind the first stops the list. -/
theorem commaSep_eq_error
    {item : Parser σ υ α}
    {state middle : State σ υ}
    {consumed : Bool}
    {value : α}
    {error : ParseError}
    {defect : Defect}
    (ran : item.Yields state consumed value middle error)
    (others : ((language.symbol ",").keepRight item).many.run middle = .error defect) :
    (language.commaSep item).run state = .error defect :=
  Parser.run_orElse_of_error (Parser.run_zipWith_of_second_error ran others _) _

/-- Neither a word nor a string nor a list needs to come to an end where the letters, the escapes or
the items put input back, though they all have outcomes and the letters are consumed. -/
theorem rewinding_runs_on :
    rewinding.Total ∧ (restart ",").Returns ∧
      (¬ ∃ outcome, rewinding.identifier.run (startOf "aa") = .ok outcome) ∧
      (¬ ∃ outcome, rewinding.operator.run (startOf "aa") = .ok outcome) ∧
      (¬ ∃ outcome, rewinding.stringLiteral.run (startOf "\"\\a") = .ok outcome) ∧
      ¬ ∃ outcome, (rewinding.commaSep (restart ",")).run (startOf "") = .ok outcome := by
  have runsOn {β : Type} {parser : Parser Text Unit β} {state : State Text Unit}
      (ran : parser.run state = .error .unbounded) :
      ¬ ∃ outcome, parser.run state = .ok outcome := by
    simp [ran]
  have letterAgain : ((Parser.char 'a').keepLeft (restart "a")).Passes true
      (behindFirst "aa" (by decide)) (startOf "a") := ⟨_, _, rfl⟩
  have letters : ((Parser.char 'a').keepLeft (restart "a")).many.run
      (behindFirst "aa" (by decide)) = .error .unbounded :=
    Parser.many_eq_unbounded letterAgain ⟨_, _, rfl⟩
  have letter : (Parser.char 'a').Passes true (startOf "aa") (behindFirst "aa" (by decide)) :=
    ⟨_, _, rfl⟩
  obtain ⟨_, _, first⟩ := letter
  have partAgain : rewinding.stringPart.Passes true (behindFirst "\"\\a" (by decide))
      (startOf "\\a") := ⟨_, _, rfl⟩
  have parts : rewinding.stringPart.many.run (behindFirst "\"\\a" (by decide)) =
      .error .unbounded :=
    Parser.many_eq_unbounded partAgain ⟨_, _, rfl⟩
  have quote : (Parser.char '"').Passes true (startOf "\"\\a")
      (behindFirst "\"\\a" (by decide)) := ⟨_, _, rfl⟩
  obtain ⟨_, _, opened⟩ := quote
  have items : ((rewinding.symbol ",").keepRight (restart ",")).many.run (startOf ",") =
      .error .unbounded :=
    Parser.many_eq_unbounded ⟨_, _, rfl⟩ ⟨_, _, rfl⟩
  have item : (restart ",").Passes false (startOf "") (startOf ",") := ⟨_, _, rfl⟩
  obtain ⟨_, _, found⟩ := item
  exact ⟨rewinding_total, restart_returns ",", runsOn (identifier_eq_error first letters),
    runsOn (operator_eq_error first letters), runsOn (stringLiteral_eq_error opened parts),
    runsOn (commaSep_eq_error found items)⟩

end Language
end Predictive
