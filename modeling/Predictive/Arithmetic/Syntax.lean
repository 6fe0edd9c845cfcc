import Predictive.Arithmetic.Expr
import Predictive.Expression.Level
import Predictive.Lexer.Bracket
import Predictive.Lexer.Number
import Predictive.Lexer.Word

/-!
# The syntax of arithmetic expressions

Powers bind most tightly and associate to the right. A minus in front of an operand comes
next, then products, quotients and remainders, and last sums and differences, which all
associate to the left. White space and the comments of Haskell may stand between lexemes.
-/

namespace Predictive
namespace Expr

/-- The lexical structure of expressions. -/
def language : Language Text Unit :=
  Language.haskellStyle

/-- An operator between two expressions. -/
def infixOperator (operator : BinaryOperator) (assoc : Assoc) : Operator Text Unit Expr :=
  .binary (language.symbol (String.singleton operator.symbol)) (binary operator) assoc

/-- The operators of expressions by precedence. -/
def operators : OperatorTable Text Unit Expr :=
  [[infixOperator .pow .right],
    [.unaryBefore (language.symbol "-") neg],
    [infixOperator .mul .left, infixOperator .div .left, infixOperator .rem .left],
    [infixOperator .add .left, infixOperator .sub .left]]

/-- An integer of the range, a variable, or an expression in parentheses. -/
def term (range : IntegerRange) (expr : Parser Text Unit Expr) : Parser Text Unit Expr :=
  (((language.parens expr).orElse ((language.naturalIn range).map int)).orElse
    (language.identifier.map var)).label "expression"

/-- An expression, without the white space in front of it. -/
def expression (range : IntegerRange) : Parser Text Unit Expr :=
  operators.recursiveExpression (term range)

/-- A whole text that is an expression. -/
def whole (range : IntegerRange) : Parser Text Unit Expr :=
  (language.whiteSpace.keepRight (expression range)).keepLeft Parser.endOfInput

/-- Read an expression from a named source. -/
def parse
    (range : IntegerRange)
    (name source : String) :
    Except Defect (Except ParseError Expr) :=
  (whole range).parse () name (Text.ofString source)

end Expr
end Predictive
