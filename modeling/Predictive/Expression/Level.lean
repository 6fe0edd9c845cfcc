import Predictive.Expression.Operator
import Predictive.Parser.Recursion

/-!
# Expressions by operator precedence

Each level of a table of operators wraps the parser of the tighter levels. An operand of a
level has at most one operator in front of it and at most one behind it; operands are
chained by infix operators of one associativity. Where an infix operator of the same level
but of another associativity follows, the use is ambiguous.
-/

namespace Predictive

/-- A level of precedence: its operands, and its infix operators by associativity. -/
structure Level (σ υ α : Type) where
  operand : Parser σ υ α
  infixes : Assoc → Parser σ υ (α → α → α)

namespace Level

variable {σ τ υ α : Type}

/-- The level of some operators around a term. -/
def ofOperators (term : Parser σ υ α) (operators : List (Operator σ υ α)) : Level σ υ α where
  operand :=
    let front := ((Parser.choice (operators.filterMap Operator.beforeSymbol?)).label "").orElse
      (Parser.pure id)
    let back := ((Parser.choice (operators.filterMap Operator.behindSymbol?)).label "").orElse
      (Parser.pure id)
    ((front.pair term).pair back).map fun ((f, value), g) => g (f value)
  infixes assoc := Parser.choice (operators.filterMap (Operator.betweenSymbol? assoc))

/-- Fail without consuming if an infix operator of this associativity follows. -/
def ambiguous (level : Level σ υ α) (assoc : Assoc) : Parser σ υ α :=
  ((level.infixes assoc).keepRight <|
    Parser.fail ("ambiguous use of a " ++ assoc.describe ++ " associative operator")).attempt

/-- An infix operator with the operand behind it. -/
def application (level : Level σ υ α) (assoc : Assoc) : Parser σ υ (Application α) :=
  (level.infixes assoc).pair level.operand

variable [TokenStream σ τ]

/-- Go on from an operand with one or more operators that associate to the right. -/
def rightChain (level : Level σ υ α) (first : α) : Parser σ υ α :=
  let chain := (level.application .right).zipWith (level.application .right).many
    fun step steps => Application.foldRight first (step :: steps)
  let ended := chain.bind fun value =>
    ((level.ambiguous .left).orElse (level.ambiguous .non)).orElse (Parser.pure value)
  (ended.orElse (level.ambiguous .left)).orElse (level.ambiguous .non)

/-- Go on from an operand with one or more operators that associate to the left. -/
def leftChain (level : Level σ υ α) (first : α) : Parser σ υ α :=
  let chain := (level.application .left).zipWith (level.application .left).many
    fun step steps => Application.foldLeft first (step :: steps)
  let ended := chain.bind fun value =>
    ((level.ambiguous .right).orElse (level.ambiguous .non)).orElse (Parser.pure value)
  (ended.orElse (level.ambiguous .right)).orElse (level.ambiguous .non)

/-- Go on from an operand with one operator that does not associate. -/
def nonChain (level : Level σ υ α) (first : α) : Parser σ υ α :=
  (level.application .non).bind fun (f, second) =>
    (((level.ambiguous .right).orElse (level.ambiguous .left)).orElse
      (level.ambiguous .non)).orElse (Parser.pure (f first second))

/-- An expression of the level. -/
def parser (level : Level σ υ α) : Parser σ υ α :=
  level.operand.bind fun first =>
    ((((level.rightChain first).orElse (level.leftChain first)).orElse
      (level.nonChain first)).orElse (Parser.pure first)).label "operator"

end Level

namespace OperatorTable

variable {σ τ υ α : Type} [TokenStream σ τ]

/-- The expressions over a term with the operators of the table. -/
def expression (table : OperatorTable σ υ α) (term : Parser σ υ α) : Parser σ υ α :=
  table.foldl (fun tighter operators => (Level.ofOperators tighter operators).parser) term

/-- The expressions over a term that may contain expressions itself. -/
def recursiveExpression
    (table : OperatorTable σ υ α)
    (term : Parser σ υ α → Parser σ υ α) :
    Parser σ υ α :=
  Parser.recursive fun expr => table.expression (term expr)

@[simp] theorem expression_nil (term : Parser σ υ α) :
    expression ([] : OperatorTable σ υ α) term = term := rfl

@[simp] theorem expression_cons
    (operators : List (Operator σ υ α))
    (table : OperatorTable σ υ α)
    (term : Parser σ υ α) :
    expression (operators :: table : OperatorTable σ υ α) term =
      expression table (Level.ofOperators term operators).parser := rfl

end OperatorTable
end Predictive
