import Predictive.Arithmetic.Syntax
import Predictive.Proofs.Composition
import Predictive.Proofs.LexicalCongruence
import Predictive.Proofs.Success

/-!
# Parsers composed of primitives

The primitive parsers take a token, take a fixed sequence of tokens, or read and change the
value of the user. The parsers for characters and lexemes are composed of these, as are the
arithmetic expressions.
-/

namespace Predictive
namespace Parser

/-- The parsers that look at the state by themselves. They do not exchange the input to come or
its position, and no tokens leave the position where it is. -/
inductive Primitive {σ τ υ : Type} [TokenStream σ τ] : ∀ ⦃α : Type⦄, Parser σ υ α → Prop
  | token {α : Type}
      (describe : τ → String)
      (next : Position → τ → σ → Position)
      (test : τ → Option α) :
      Primitive (Parser.token describe next test)
  | tokens [DecidableEq τ]
      (describe : List τ → String)
      {next : Position → List τ → Position}
      (wanted : List τ) :
      (∀ position, next position [] = position) →
        Primitive (Parser.tokens describe next wanted)
  | modifyState {f : State σ υ → State σ υ} :
      (∀ state, (f state).input = state.input) →
      (∀ state, (f state).position = state.position) →
        Primitive (Parser.modifyState f)

namespace Composed

variable {σ τ υ : Type} [TokenStream σ τ]

theorem modifyUser (f : υ → υ) :
    Composed Primitive (Parser.modifyUser f : Parser σ υ Unit) :=
  .map _ (.atom (.modifyState (fun _ => rfl) fun _ => rfl))

theorem satisfyToken [Describe τ] (predicate : τ → Bool) :
    Composed Primitive (Parser.satisfyToken predicate : Parser σ υ τ) :=
  .atom (.token _ _ _)

theorem tokenEq [Describe τ] [DecidableEq τ] (wanted : τ) :
    Composed Primitive (Parser.tokenEq wanted : Parser σ υ τ) :=
  .label _ (satisfyToken _)

theorem endOfInput [Describe τ] :
    Composed Primitive (Parser.endOfInput : Parser σ υ Unit) :=
  .label _ (.notFollowedBy (satisfyToken _))

end Composed

/-! ## Characters -/

namespace Composed

variable {σ υ : Type} [TokenStream σ Char]

theorem satisfy (predicate : Char → Bool) :
    Composed Primitive (Parser.satisfy predicate : Parser σ υ Char) :=
  .atom (.token _ _ _)

theorem char (wanted : Char) :
    Composed Primitive (Parser.char wanted : Parser σ υ Char) :=
  .label _ (satisfy _)

theorem string (text : String) :
    Composed Primitive (Parser.string text : Parser σ υ String) :=
  .map _ (.atom (.tokens _ _ Position.afterChars_nil))

end Composed

/-- A text that is not empty is never there without input consumed. -/
theorem string_attempt_alwaysConsumes
    {σ υ : Type} [TokenStream σ Char]
    {text : String}
    (some : text ≠ "") :
    ((Parser.string text).attempt : Parser σ υ String).AlwaysConsumes := by
  intro state value next error ran
  obtain ⟨found, inner, -⟩ := map_yields_iff.mp (attempt_yields_iff.mp ran)
  obtain ⟨rest, -, -, tag, -⟩ := tokens_yields_iff.mp inner
  simp [some] at tag

end Parser

/-! ## Lexemes -/

/-- The lexers of a language are composed of the atoms of which its parsers for characters and
fixed texts are composed. -/
theorem Parser.Composed.lexicalCongruence
    {σ υ : Type} [TokenStream σ Char]
    {Atom : ∀ ⦃α : Type⦄, Parser σ υ α → Prop}
    (satisfy : ∀ predicate, Composed Atom (Parser.satisfy predicate))
    (string : ∀ text, Composed Atom (Parser.string text)) :
    LexicalCongruence (Both Atom) where
  toFullCongruence := fullCongruence
  satisfy := satisfy
  string := string
  blockComment closing nested marked :=
    .commentAfter (string_attempt_alwaysConsumes marked) (.attempt (string _))
      (fullCongruence.commentStep satisfy string _ closing nested)

/-- The parsers of the lexer are composed of primitive ones if those of the language are. -/
theorem Parser.primitive_lexical
    {σ υ : Type} [TokenStream σ Char] :
    LexicalCongruence (Composed.Both (Primitive (σ := σ) (υ := υ))) :=
  Composed.lexicalCongruence Composed.satisfy Composed.string

/-! ## Arithmetic expressions -/

namespace Expr

open Predictive.Parser (Composed Primitive primitive_lexical)

/-- The language of the calculator is composed of primitive parsers. -/
theorem language_related : Language.Related (Composed.Both Primitive) language language :=
  primitive_lexical.haskellStyle

/-- The operators of the calculator are composed of primitive parsers. -/
theorem operators_composed :
    ∀ level ∈ operators, ∀ operator ∈ level, operator.ComposedOf Primitive := by
  have symbolComposed (text : String) : Composed Primitive (language.symbol text) :=
    primitive_lexical.symbol language_related text
  have infixComposed (operator : BinaryOperator) (assoc : Assoc) :
      (infixOperator operator assoc).ComposedOf Primitive := .map _ (symbolComposed _)
  have minusComposed : (Operator.unaryBefore (language.symbol "-") neg).ComposedOf Primitive :=
    .map _ (symbolComposed "-")
  simp only [operators, List.forall_mem_cons, List.not_mem_nil, false_implies, implies_true,
    and_true]
  exact ⟨infixComposed .pow .right, minusComposed,
    ⟨infixComposed .mul .left, infixComposed .div .left, infixComposed .rem .left⟩,
    infixComposed .add .left, infixComposed .sub .left⟩

/-- A term is composed of primitive parsers if the expression in its brackets is. -/
theorem term_composed
    (range : IntegerRange)
    {expr : Parser Text Unit Expr}
    (composed : Composed Primitive expr) :
    Composed Primitive (term range expr) :=
  primitive_lexical.label _ (primitive_lexical.orElse
    (primitive_lexical.orElse (primitive_lexical.parens language_related composed.both)
      (primitive_lexical.map int (primitive_lexical.naturalIn language_related range)))
    (primitive_lexical.map var (primitive_lexical.identifier language_related)))

/-- The parser for arithmetic expressions is composed of primitives. -/
theorem expression_composed (range : IntegerRange) :
    Composed Primitive (expression range) :=
  .recursiveExpression operators_composed fun _ composed => term_composed range composed

end Expr
end Predictive
