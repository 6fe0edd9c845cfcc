import Predictive.Proofs.ArithmeticTokens

/-!
# Printing expressions with few parentheses

Levels of precedence are counted from the atoms, which have level zero. An expression is printed in
parentheses where its level is looser than its place allows. What is printed in a place belongs to
the words of the level of that place, so the grammar of the operators gives the expression back as
the value.
-/

namespace Predictive

namespace BinaryOperator

/-- The level of an expression with the operator. -/
def level : BinaryOperator → Nat
  | pow => 1
  | mul | div | rem => 3
  | add | sub => 4

/-- The loosest level of a left operand without parentheses. -/
def leftLevel : BinaryOperator → Nat
  | pow => 0
  | mul | div | rem => 3
  | add | sub => 4

/-- The loosest level of a right operand without parentheses. -/
def rightLevel : BinaryOperator → Nat
  | pow => 1
  | mul | div | rem => 2
  | add | sub => 3

end BinaryOperator

namespace Expr

/-- Tokens in parentheses. -/
def parenthesized (tokens : List Token) : List Token :=
  .sign '(' :: tokens ++ [.sign ')']

/-- Tokens of a level in a place for levels up to another. -/
def inPlace (loosest level : Nat) (tokens : List Token) : List Token :=
  if level ≤ loosest then tokens else parenthesized tokens

/-- The tokens of an expression in a place for levels up to the loosest one given. -/
def tokensAt : Expr → (loosest : Nat) → List Token
  | int value, _ => [.number value.toNat]
  | var name, _ => [.name name]
  | neg operand, loosest => inPlace loosest 2 (.sign '-' :: operand.tokensAt 1)
  | binary operator left right, loosest =>
      inPlace loosest operator.level
        (left.tokensAt operator.leftLevel ++
          .sign operator.symbol :: right.tokensAt operator.rightLevel)

/-- The tokens of an expression, with parentheses only where precedence requires them. -/
def tokens (expr : Expr) : List Token :=
  expr.tokensAt 4

example :
    tokens (binary .sub (var "x") (binary .sub (neg (binary .pow (int 2) (int 3))) (int 4))) =
      [.name "x", .sign '-', .sign '(', .sign '-', .number 2, .sign '^', .number 3, .sign '-',
        .number 4, .sign ')'] := by
  decide

/-- The numbers of the expression are natural numbers of the range, and its variables are names. -/
def Printable (range : IntegerRange) : Expr → Prop
  | int value => 0 ≤ value ∧ range.contains value = true
  | var name => IsName name
  | neg operand => operand.Printable range
  | binary _ left right => left.Printable range ∧ right.Printable range

/-- How deep the operators of an expression are nested. -/
def height : Expr → Nat
  | int _ => 0
  | var _ => 0
  | neg operand => operand.height + 1
  | binary _ left right => max left.height right.height + 1

theorem length_le_inPlace (loosest level : Nat) (tokens : List Token) :
    tokens.length ≤ (inPlace loosest level tokens).length := by
  unfold inPlace
  split
  · exact Nat.le_refl _
  · simp only [parenthesized, List.length_append, List.length_cons]
    omega

/-- Each operator is a token. -/
theorem height_le_length (expr : Expr) (loosest : Nat) :
    expr.height ≤ (expr.tokensAt loosest).length := by
  induction expr generalizing loosest with
  | int value => exact Nat.zero_le _
  | var name => exact Nat.zero_le _
  | neg operand ih =>
      refine Nat.le_trans ?_ (length_le_inPlace loosest 2 _)
      exact Nat.succ_le_succ (ih 1)
  | binary operator left right leftIh rightIh =>
      refine Nat.le_trans ?_ (length_le_inPlace loosest operator.level _)
      have fromLeft := leftIh operator.leftLevel
      have fromRight := rightIh operator.rightLevel
      rw [height, List.length_append, List.length_cons]
      omega

theorem inPlace_proper
    {range : IntegerRange}
    {tokens : List Token}
    (proper : ∀ token ∈ tokens, token.Proper range)
    (loosest level : Nat) :
    ∀ token ∈ inPlace loosest level tokens, token.Proper range := by
  unfold inPlace
  split
  · exact proper
  · intro token present
    simp only [parenthesized, List.cons_append, List.mem_cons, List.mem_append, List.not_mem_nil,
      or_false] at present
    rcases present with rfl | inside | rfl
    · exact (by decide : '(' ∈ signChars)
    · exact proper token inside
    · exact (by decide : ')' ∈ signChars)

/-- The tokens of a printable expression are proper. -/
theorem tokensAt_proper
    {range : IntegerRange}
    {expr : Expr}
    (printable : expr.Printable range)
    (loosest : Nat) :
    ∀ token ∈ expr.tokensAt loosest, token.Proper range := by
  induction expr generalizing loosest with
  | int value =>
      obtain ⟨nonnegative, inside⟩ := printable
      intro token present
      obtain rfl := List.mem_singleton.mp present
      show range.contains (value.toNat : Int) = true
      rwa [Int.toNat_of_nonneg nonnegative]
  | var name =>
      intro token present
      obtain rfl := List.mem_singleton.mp present
      exact printable
  | neg operand ih =>
      refine inPlace_proper (fun token present => ?_) loosest 2
      rcases List.mem_cons.mp present with rfl | inside
      · exact (by decide : '-' ∈ signChars)
      · exact ih printable 1 token inside
  | binary operator left right leftIh rightIh =>
      refine inPlace_proper (fun token present => ?_) loosest operator.level
      rcases List.mem_append.mp present with inside | inside
      · exact leftIh printable.1 _ token inside
      rcases List.mem_cons.mp inside with rfl | inside
      · have signs : ∀ operator : BinaryOperator, operator.symbol ∈ signChars := by
          intro operator
          cases operator <;> decide
        exact signs operator
      · exact rightIh printable.2 _ token inside

end Expr
end Predictive
