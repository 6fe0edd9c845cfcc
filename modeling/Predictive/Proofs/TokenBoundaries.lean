import Predictive.Lexer.Bracket
import Predictive.Lexer.Literal
import Predictive.Lexer.Word
import Predictive.Proofs.Spacing

/-!
# Where lexemes end

White space is skipped as far as it goes, so nothing is left to skip behind it, and a second attempt
consumes nothing. Each lexeme ends with such skipping, be it a lexeme itself, a choice of lexemes or
a bracket behind a parser of any kind. So the end of a lexeme is always the beginning of the next
token.
-/

namespace Predictive
namespace Language

variable {σ υ : Type} [TokenStream σ Char]

/-- The parsers for lexemes that the lexer of a language hands out, whatever the parsers are from
which it makes them. -/
inductive IsLexeme (language : Language σ υ) : ∀ ⦃α : Type⦄, Parser σ υ α → Prop
  | lexeme {α : Type} (parser : Parser σ υ α) : IsLexeme language (language.lexeme parser)
  | symbol (text : String) : IsLexeme language (language.symbol text)
  | identifier : IsLexeme language language.identifier
  | reserved (name : String) : IsLexeme language (language.reserved name)
  | operator : IsLexeme language language.operator
  | reservedOperator (name : String) : IsLexeme language (language.reservedOperator name)
  | charLiteral : IsLexeme language language.charLiteral
  | stringLiteral : IsLexeme language language.stringLiteral
  | naturalIn (range : IntegerRange) : IsLexeme language (language.naturalIn range)
  | integerIn (range : IntegerRange) : IsLexeme language (language.integerIn range)
  | float : IsLexeme language language.float
  | integerAsFloat : IsLexeme language language.integerAsFloat
  | naturalOrFloat : IsLexeme language language.naturalOrFloat
  | number : IsLexeme language language.number
  | parens {α : Type} (parser : Parser σ υ α) : IsLexeme language (language.parens parser)
  | braces {α : Type} (parser : Parser σ υ α) : IsLexeme language (language.braces parser)
  | angles {α : Type} (parser : Parser σ υ α) : IsLexeme language (language.angles parser)
  | brackets {α : Type} (parser : Parser σ υ α) : IsLexeme language (language.brackets parser)

/-- White space consumes nothing here: all of it has been skipped. -/
def AtBoundary (language : Language σ υ) (state : State σ υ) : Prop :=
  ∃ error, language.whiteSpace.Yields state false () state error

/-- Every success of the parser ends where nothing can be skipped. -/
def EndsSolid {α : Type} (language : Language σ υ) (parser : Parser σ υ α) : Prop :=
  ∀ ⦃state consumed value next error⦄, parser.Yields state consumed value next error →
    language.SolidAt (TokenStream.toList next.input)

/-! ## Ends of parsers -/

section
variable {α β γ : Type} {language : Language σ υ}

/-- A sequence ends solid if its second half does. -/
theorem EndsSolid.zipWith
    {second : Parser σ υ β}
    (ends : language.EndsSolid second)
    (first : Parser σ υ α)
    (f : α → β → γ) :
    language.EndsSolid (first.zipWith second f) := by
  intro state consumed value next error ran
  obtain ⟨_, _, _, _, _, _, _, -, secondRan, -⟩ := Parser.zipWith_yields_iff.mp ran
  exact ends secondRan

theorem EndsSolid.map {parser : Parser σ υ α} (ends : language.EndsSolid parser) (f : α → β) :
    language.EndsSolid (parser.map f) := by
  intro state consumed value next error ran
  obtain ⟨_, inner, -⟩ := Parser.map_yields_iff.mp ran
  exact ends inner

/-- A choice ends solid if both of its parsers do. -/
theorem EndsSolid.orElse
    {first second : Parser σ υ α}
    (ends : language.EndsSolid first)
    (secondEnds : language.EndsSolid second) :
    language.EndsSolid (first.orElse second) := by
  intro state consumed value next error ran
  rcases Parser.orElse_yields_iff.mp ran with firstRan | ⟨_, _, -, secondRan, -⟩
  · exact ends firstRan
  · exact secondEnds secondRan

theorem EndsSolid.labels
    {parser : Parser σ υ α}
    (ends : language.EndsSolid parser)
    (names : List String) :
    language.EndsSolid (parser.labels names) := by
  intro state consumed value next error ran
  obtain ⟨_, inner⟩ := ran.of_labels
  exact ends inner

end

/-! ## White space -/

section
variable [LawfulTokenStream σ]

/-- What is solid is a boundary of tokens. -/
theorem SolidAt.atBoundary
    {language : Language σ υ}
    {state : State σ υ}
    (solid : language.SolidAt (TokenStream.toList state.input)) :
    language.AtBoundary state := by
  have viewed : View.tokens state (TokenStream.toList state.input) := rfl
  obtain ⟨error, failed⟩ := solid.blank_refuses.labels [""] viewed
  have some : 0 < state.patience := Nat.zero_lt_of_lt state.size_lt_patience
  exact ⟨error, Parser.manyFold_yields_iff.mpr ⟨[], some, .nil state, failed, rfl, rfl⟩⟩

/-- White space is skipped up to where there is nothing to skip, or it fails at a comment that stays
open. -/
theorem whiteSpace_ends (language : Language σ υ) (state : State σ υ) :
    (∃ consumed next error, language.whiteSpace.Yields state consumed () next error ∧
        language.Skipped (TokenStream.toList state.input) (TokenStream.toList next.input) ∧
        language.SolidAt (TokenStream.toList next.input)) ∨
      ∃ left error, language.whiteSpace.Fails state true error ∧
        language.Skipped (TokenStream.toList state.input) left ∧ language.UnclosedAt left := by
  obtain ⟨left, skipped, solid | unclosed⟩ :=
    language.exists_skipped (TokenStream.toList state.input)
  · obtain ⟨word, -, split, -⟩ := skipped.exists_rounds (σ := σ) (υ := υ)
    have viewed : View.tokens state (word ++ left) := split
    rw [split] at skipped ⊢
    obtain ⟨next, error, ran, rfl⟩ := skipped.whiteSpace_reads solid viewed
    exact .inl ⟨_, next, error, ran, skipped, solid⟩
  · obtain ⟨error, failed⟩ := skipped.whiteSpace_fails unclosed (rfl : View.tokens state _)
    exact .inr ⟨left, error, failed, skipped, unclosed⟩

/-- White space skips all that can be skipped, and ends solid. -/
theorem whiteSpace_skips
    {language : Language σ υ}
    {state next : State σ υ}
    {consumed : Bool}
    {error : ParseError}
    (ran : language.whiteSpace.Yields state consumed () next error) :
    language.Skipped (TokenStream.toList state.input) (TokenStream.toList next.input) ∧
      language.SolidAt (TokenStream.toList next.input) := by
  rcases language.whiteSpace_ends state with ⟨_, _, _, otherRan, skips⟩ | ⟨_, _, failed, -⟩
  · obtain ⟨-, -, rfl, -⟩ := ran.unique otherRan
    exact skips
  · exact absurd failed ran.not_fails

/-! ## Lexemes -/

section
variable {α : Type} {language : Language σ υ}

/-- A lexeme ends behind its white space. -/
theorem lexeme_endsSolid (language : Language σ υ) (parser : Parser σ υ α) :
    language.EndsSolid (language.lexeme parser) :=
  EndsSolid.zipWith (fun _ _ _ _ _ ran => (whiteSpace_skips ran).2) parser _

/-- What stands between symbols ends behind that of the closing one. -/
theorem between_endsSolid (language : Language σ υ) (left right : String) (parser : Parser σ υ α) :
    language.EndsSolid (Parser.between (language.symbol left) (language.symbol right) parser) :=
  (language.lexeme_endsSolid (Parser.string right)).zipWith _ _

/-- Every parser of lexemes ends solid. -/
theorem IsLexeme.endsSolid {parser : Parser σ υ α} (isLexeme : language.IsLexeme parser) :
    language.EndsSolid parser := by
  cases isLexeme with
  | lexeme parser => exact language.lexeme_endsSolid parser
  | symbol text => exact language.lexeme_endsSolid _
  | identifier => exact language.lexeme_endsSolid _
  | reserved name => exact language.lexeme_endsSolid _
  | operator => exact language.lexeme_endsSolid _
  | reservedOperator name => exact language.lexeme_endsSolid _
  | charLiteral => exact (language.lexeme_endsSolid _).labels _
  | stringLiteral => exact (language.lexeme_endsSolid _).labels _
  | naturalIn range => exact (language.lexeme_endsSolid _).labels _
  | integerIn range => exact (language.lexeme_endsSolid _).labels _
  | float => exact (language.lexeme_endsSolid _).labels _
  | integerAsFloat => exact (language.lexeme_endsSolid _).labels _
  | naturalOrFloat => exact (language.lexeme_endsSolid _).labels _
  | number =>
      refine (EndsSolid.orElse ?_ ?_).labels _
      · exact (language.lexeme_endsSolid _).map Number.float
      · exact ((language.lexeme_endsSolid _).labels _).map Number.integer
  | parens parser => exact language.between_endsSolid _ _ parser
  | braces parser => exact language.between_endsSolid _ _ parser
  | angles parser => exact language.between_endsSolid _ _ parser
  | brackets parser => exact language.between_endsSolid _ _ parser

end

/-- White space always has an outcome. It fails if and only if blanks lead up to a block comment
that is never closed, and then with input consumed. Where it succeeds, it has skipped blanks up to
where there is nothing to skip, so that it consumes nothing any more. That is where all lexemes
end. -/
theorem whiteSpace_maximal (language : Language σ υ) :
    (∀ state : State σ υ,
      ((∃ consumed error, language.whiteSpace.Fails state consumed error) ↔
        ∃ left, language.Skipped (TokenStream.toList state.input) left ∧
          language.UnclosedAt left) ∧
      (∀ consumed error, language.whiteSpace.Fails state consumed error → consumed = true) ∧
      ((∃ consumed error, language.whiteSpace.Fails state consumed error) ∨
        ∃ consumed next error, language.whiteSpace.Yields state consumed () next error) ∧
      ∀ consumed next error, language.whiteSpace.Yields state consumed () next error →
        language.Skipped (TokenStream.toList state.input) (TokenStream.toList next.input) ∧
          language.SolidAt (TokenStream.toList next.input) ∧ language.AtBoundary next) ∧
    ∀ ⦃α : Type⦄ (parser : Parser σ υ α), language.IsLexeme parser →
      ∀ state consumed value next error, parser.Yields state consumed value next error →
        language.AtBoundary next := by
  refine ⟨fun state => ⟨⟨?_, ?_⟩, ?_, ?_, ?_⟩, ?_⟩
  · rintro ⟨consumed, error, failed⟩
    rcases language.whiteSpace_ends state with ⟨_, _, _, ran, -⟩ | ⟨left, _, -, skipped, unclosed⟩
    · exact absurd failed ran.not_fails
    · exact ⟨left, skipped, unclosed⟩
  · rintro ⟨left, skipped, unclosed⟩
    obtain ⟨error, failed⟩ := skipped.whiteSpace_fails unclosed (rfl : View.tokens state _)
    exact ⟨true, error, failed⟩
  · intro consumed error failed
    rcases language.whiteSpace_ends state with ⟨_, _, _, ran, -⟩ | ⟨_, _, otherFailed, -⟩
    · exact absurd failed ran.not_fails
    · exact congrArg Outcome.consumed (Except.ok.inj (failed.symm.trans otherFailed))
  · rcases language.whiteSpace_ends state with ⟨_, _, _, ran, -⟩ | ⟨_, _, failed, -⟩
    · exact .inr ⟨_, _, _, ran⟩
    · exact .inl ⟨_, _, failed⟩
  · intro consumed next error ran
    obtain ⟨skipped, solid⟩ := whiteSpace_skips ran
    exact ⟨skipped, solid, solid.atBoundary⟩
  · intro α parser isLexeme state consumed value next error ran
    exact (isLexeme.endsSolid ran).atBoundary

/-- A name with two comments behind it, and a blank in front of a comment that stays open. -/
theorem whiteSpace_maximal_commented :
    let language : Language Text Unit := haskellStyle
    let commented : State Text Unit := ⟨Text.ofString "x -- y\n\x7b- z -\x7d1", .start "", ()⟩
    let unclosed : State Text Unit := ⟨Text.ofString " \x7b- z", .start "", ()⟩
    (∃ next error, language.identifier.Yields commented true "x" next error ∧
        language.AtBoundary next) ∧
      ∃ left error, language.whiteSpace.Fails unclosed true error ∧
        language.Skipped (TokenStream.toList unclosed.input) left ∧ language.UnclosedAt left := by
  intro language commented unclosed
  obtain ⟨spaces, lexemes⟩ := whiteSpace_maximal language
  constructor
  · obtain ⟨next, error, ran⟩ : ∃ next error,
        language.identifier.Yields commented true "x" next error :=
      Parser.exists_yields (by decide +kernel)
    exact ⟨next, error, ran, lexemes _ .identifier _ _ _ _ _ ran⟩
  · obtain ⟨opens, consumes, outcome, -⟩ := spaces unclosed
    have noSuccess : ¬ ∃ consumed next error,
        language.whiteSpace.Yields unclosed consumed () next error := by
      rintro ⟨consumed, next, error, ran⟩
      have succeeds := Parser.exists_yields_iff.mp ⟨consumed, (), next, error, ran⟩
      exact absurd succeeds (by decide +kernel)
    obtain ⟨consumed, error, failed⟩ := outcome.resolve_right noSuccess
    obtain ⟨left, skipped, opened⟩ := opens.mp ⟨consumed, error, failed⟩
    obtain rfl := consumes consumed error failed
    exact ⟨left, error, failed, skipped, opened⟩

end

end Language
end Predictive
