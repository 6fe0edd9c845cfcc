import Predictive.Parser.Chain

/-!
# Operators

An operator is a parser for its symbol whose value is the function to apply. A table lists
operators by precedence, those that bind most tightly first.
-/

namespace Predictive

/-- How a chain of infix operators is read. -/
inductive Assoc where
  /-- From the left: `a ⊕ b ⊕ c` is `(a ⊕ b) ⊕ c`. -/
  | left
  /-- From the right: `a ⊕ b ⊕ c` is `a ⊕ (b ⊕ c)`. -/
  | right
  /-- Not at all: `a ⊕ b ⊕ c` is an error. -/
  | non
deriving DecidableEq

namespace Assoc

/-- The word for it in messages. -/
def describe : Assoc → String
  | left => "left"
  | right => "right"
  | non => "non"

end Assoc

/-- An operator of an expression. -/
inductive Operator (σ υ α : Type) where
  /-- An operator between its operands. -/
  | between (assoc : Assoc) (symbol : Parser σ υ (α → α → α))
  /-- An operator in front of its operand. -/
  | before (symbol : Parser σ υ (α → α))
  /-- An operator behind its operand. -/
  | behind (symbol : Parser σ υ (α → α))

/-- Operators by precedence, the tightest first. -/
abbrev OperatorTable (σ υ α : Type) := List (List (Operator σ υ α))

namespace Operator

variable {σ υ α β : Type}

/-- An operator between its operands that applies a fixed function. -/
def binary (symbol : Parser σ υ β) (f : α → α → α) (assoc : Assoc) : Operator σ υ α :=
  between assoc (symbol.map fun _ => f)

/-- An operator in front of its operand that applies a fixed function. -/
def unaryBefore (symbol : Parser σ υ β) (f : α → α) : Operator σ υ α :=
  before (symbol.map fun _ => f)

/-- An operator behind its operand that applies a fixed function. -/
def unaryBehind (symbol : Parser σ υ β) (f : α → α) : Operator σ υ α :=
  behind (symbol.map fun _ => f)

/-- The symbol of an infix operator of a certain associativity. -/
def betweenSymbol? (assoc : Assoc) : Operator σ υ α → Option (Parser σ υ (α → α → α))
  | between found symbol => if found = assoc then some symbol else none
  | _ => none

/-- The symbol of an operator in front of its operand. -/
def beforeSymbol? : Operator σ υ α → Option (Parser σ υ (α → α))
  | before symbol => some symbol
  | _ => none

/-- The symbol of an operator behind its operand. -/
def behindSymbol? : Operator σ υ α → Option (Parser σ υ (α → α))
  | behind symbol => some symbol
  | _ => none

@[simp] theorem betweenSymbol?_eq_some_iff
    {operator : Operator σ υ α}
    {assoc : Assoc}
    {symbol : Parser σ υ (α → α → α)} :
    operator.betweenSymbol? assoc = some symbol ↔ operator = between assoc symbol := by
  cases operator with
  | between found other =>
      simp only [betweenSymbol?, between.injEq]
      split
      · rename_i same
        simp [same]
      · rename_i different
        simp [different]
  | before other => simp [betweenSymbol?]
  | behind other => simp [betweenSymbol?]

@[simp] theorem beforeSymbol?_eq_some_iff
    {operator : Operator σ υ α}
    {symbol : Parser σ υ (α → α)} :
    operator.beforeSymbol? = some symbol ↔ operator = before symbol := by
  cases operator <;> simp [beforeSymbol?]

@[simp] theorem behindSymbol?_eq_some_iff
    {operator : Operator σ υ α}
    {symbol : Parser σ υ (α → α)} :
    operator.behindSymbol? = some symbol ↔ operator = behind symbol := by
  cases operator <;> simp [behindSymbol?]

end Operator
end Predictive
