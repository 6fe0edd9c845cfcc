import Predictive.Parser.Repeat

/-!
# Chains of operators

Operands with binary operators between them. The operators and operands are collected
first and combined afterwards, from the left or from the right.
-/

namespace Predictive

/-- A binary operator together with its right operand. -/
abbrev Application (α : Type) := (α → α → α) × α

namespace Application

variable {α : Type}

/-- Apply operators from the left: `a ⊕ b ⊗ c` is `(a ⊕ b) ⊗ c`. -/
def foldLeft (first : α) (steps : List (Application α)) : α :=
  steps.foldl (fun total step => step.1 total step.2) first

/-- Apply the operator that waits for a left operand, if there is one. -/
def applyTo (operand : α) : Option (Application α) → α
  | none => operand
  | some (operator, right) => operator operand right

/-- Apply operators from the right: `a ⊕ b ⊗ c` is `a ⊕ (b ⊗ c)`. -/
def foldRight (first : α) (steps : List (Application α)) : α :=
  applyTo first (steps.foldr (fun step waiting => some (step.1, applyTo step.2 waiting)) none)

@[simp] theorem foldLeft_nil (first : α) : foldLeft first [] = first := rfl

@[simp] theorem foldLeft_cons
    (first : α)
    (step : Application α)
    (steps : List (Application α)) :
    foldLeft first (step :: steps) = foldLeft (step.1 first step.2) steps := rfl

@[simp] theorem foldRight_nil (first : α) : foldRight first [] = first := rfl

@[simp] theorem foldRight_cons
    (first : α)
    (step : Application α)
    (steps : List (Application α)) :
    foldRight first (step :: steps) = step.1 first (foldRight step.2 steps) := rfl

end Application

namespace Parser

variable {σ τ υ α : Type} [TokenStream σ τ]

/-- One or more operands, combined from the left. -/
def chainLeft1 (parser : Parser σ υ α) (operator : Parser σ υ (α → α → α)) : Parser σ υ α :=
  parser.zipWith (operator.pair parser).many Application.foldLeft

/-- One or more operands, combined from the right. -/
def chainRight1 (parser : Parser σ υ α) (operator : Parser σ υ (α → α → α)) : Parser σ υ α :=
  parser.zipWith (operator.pair parser).many Application.foldRight

/-- Operands combined from the left, or a default if there is none. -/
def chainLeft
    (parser : Parser σ υ α)
    (operator : Parser σ υ (α → α → α))
    (value : α) :
    Parser σ υ α :=
  (parser.chainLeft1 operator).orElse (pure value)

/-- Operands combined from the right, or a default if there is none. -/
def chainRight
    (parser : Parser σ υ α)
    (operator : Parser σ υ (α → α → α))
    (value : α) :
    Parser σ υ α :=
  (parser.chainRight1 operator).orElse (pure value)

end Parser
end Predictive
