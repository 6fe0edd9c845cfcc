import Predictive.Decimal.Integer

/-!
# Arithmetic expressions

Expressions over integers and variables, and their written form in prefix notation. In
that form a list in parentheses starts with its operator, so that a minus with one operand
is a negation and a minus with two operands a difference.
-/

namespace Predictive

/-- The operators between two expressions. -/
inductive BinaryOperator where
  | add
  | sub
  | mul
  | div
  | rem
  | pow
deriving DecidableEq

namespace BinaryOperator

/-- The symbol of the operator. -/
def symbol : BinaryOperator → Char
  | add => '+'
  | sub => '-'
  | mul => '*'
  | div => '/'
  | rem => '%'
  | pow => '^'

end BinaryOperator

/-- An arithmetic expression. -/
inductive Expr where
  | int (value : Int)
  | var (name : String)
  | neg (operand : Expr)
  | binary (operator : BinaryOperator) (left right : Expr)
deriving DecidableEq

namespace Expr

/-- The written form of an expression in front of some other characters. -/
def writeBefore : Expr → List Char → List Char
  | int value, rest => (decimalText value).toList ++ rest
  | var name, rest => name.toList ++ rest
  | neg operand, rest => '(' :: '-' :: ' ' :: operand.writeBefore (')' :: rest)
  | binary operator left right, rest =>
      '(' :: operator.symbol :: ' ' ::
        left.writeBefore (' ' :: right.writeBefore (')' :: rest))

/-- The written form of an expression. -/
def render (expr : Expr) : String :=
  String.ofList (expr.writeBefore [])

@[simp] theorem writeBefore_append
    (expr : Expr)
    (middle rest : List Char) :
    expr.writeBefore (middle ++ rest) = expr.writeBefore middle ++ rest := by
  induction expr generalizing middle with
  | int value => simp [writeBefore]
  | var name => simp [writeBefore]
  | neg operand ih => simpa [writeBefore] using ih (')' :: middle)
  | binary operator left right leftIh rightIh =>
      simpa [writeBefore, rightIh] using
        (congrArg left.writeBefore (congrArg (' ' :: ·) (rightIh (')' :: middle)))).trans
          (leftIh (' ' :: right.writeBefore (')' :: middle)))

/-- What follows an expression does not change how it is written. -/
theorem writeBefore_eq (expr : Expr) (rest : List Char) :
    expr.writeBefore rest = expr.render.toList ++ rest := by
  simpa [render] using writeBefore_append expr [] rest

end Expr
end Predictive
