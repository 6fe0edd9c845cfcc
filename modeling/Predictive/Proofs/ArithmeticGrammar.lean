import Predictive.Proofs.ArithmeticPrinting

/-!
# The grammar of arithmetic expressions

The operators of expressions are a table of signs, so their grammar has a category of words for
each level. A printed expression is a word of the level of its place: its operands are printed for
the places that the operator gives them, and parentheses make a term of any word.
-/

namespace Predictive

namespace Category

variable {κ α : Type} {signs : List (Sign κ α)} {tighter : Category κ α}

/-- A tighter word is an operand without operators around it. -/
theorem operand_of_tighter
    {word : List κ}
    {value : α}
    (derived : tighter word value) :
    Operand signs tighter word value := by
  have plain : Operand signs tighter ([] ++ word ++ []) (id (id value)) :=
    .intro .none derived .none
  rwa [List.nil_append, List.append_nil] at plain

theorem level_of_tighter
    {word : List κ}
    {value : α}
    (derived : tighter word value) :
    level signs tighter word value :=
  .alone (operand_of_tighter derived)

/-- A word of a level whose infix operators all associate to the right is a right part. -/
theorem rightPart_of_level
    {word : List κ}
    {value : α}
    (onlyRight : ∀ assoc, assoc ≠ .right → signs.filterMap (Sign.between? assoc) = [])
    (derived : level signs tighter word value) :
    RightPart (signs.filterMap (Sign.between? .right)) (Operand signs tighter)
      (Operand signs tighter) word value := by
  cases derived with
  | alone ends => exact .last ends
  | chain applied =>
      cases applied with
      | right first present part => exact .more first present part
      | left part present ends =>
          rw [onlyRight .left (by decide)] at present
          contradiction
      | non first present ends =>
          rw [onlyRight .non (by decide)] at present
          contradiction

/-- A word of a level whose infix operators all associate to the left is a left part. -/
theorem leftPart_of_level
    {word : List κ}
    {value : α}
    (onlyLeft : ∀ assoc, assoc ≠ .left → signs.filterMap (Sign.between? assoc) = [])
    (derived : level signs tighter word value) :
    LeftPart (signs.filterMap (Sign.between? .left)) (Operand signs tighter) word value := by
  cases derived with
  | alone ends => exact .first ends
  | chain applied =>
      cases applied with
      | left part present ends => exact .more part present ends
      | right first present part =>
          rw [onlyLeft .right (by decide)] at present
          contradiction
      | non first present ends =>
          rw [onlyLeft .non (by decide)] at present
          contradiction

end Category

namespace Expr

open Category (level_of_tighter)

/-- An operator between two expressions as a sign. -/
def infixSign (operator : BinaryOperator) (assoc : Assoc) : Sign Token Expr :=
  .between assoc (.sign operator.symbol) (binary operator)

/-- The operators of expressions by precedence, as signs. -/
def signs : SignTable Token Expr :=
  [[infixSign .pow .right],
    [.before (.sign '-') neg],
    [infixSign .mul .left, infixSign .div .left, infixSign .rem .left],
    [infixSign .add .left, infixSign .sub .left]]

theorem operators_eq : operators = signs.operators symbolOf := rfl

/-- Numbers, names and words in parentheses. -/
inductive Term (inner : Category Token Expr) : Category Token Expr
  | number (value : Nat) : Term inner [.number value] (int value)
  | name (text : String) : Term inner [.name text] (var text)
  | nested
      {word : List Token}
      {value : Expr}
      (inside : inner word value) :
      Term inner (parenthesized word) value

/-- The words of expressions with parentheses nested less than a certain depth. -/
def words : (depth : Nat) → Category Token Expr
  | 0 => fun _ _ => False
  | depth + 1 => signs.expression (Term (words depth))

/-- The words of the levels up to a certain one, around terms. -/
def stage (depth loosest : Nat) : Category Token Expr :=
  SignTable.expression (signs.take loosest) (Term (words depth))

theorem stage_succ
    {index : Nat}
    {row : List (Sign Token Expr)}
    (here : signs[index]? = some row)
    (depth : Nat) :
    stage depth (index + 1) = Category.level row (stage depth index) := by
  unfold stage SignTable.expression
  rw [List.take_add_one, here, List.foldl_append]
  rfl

/-- Words of a level are words of all looser levels. -/
theorem stage_mono
    {depth tight loose : Nat}
    {word : List Token}
    {value : Expr}
    (derived : stage depth tight word value)
    (looser : tight ≤ loose)
    (bounded : loose ≤ 4) :
    stage depth loose word value := by
  induction looser with
  | refl => exact derived
  | step looser ih =>
      rename_i loose
      have inside : loose < signs.length := bounded
      rw [stage_succ (List.getElem?_eq_getElem inside)]
      exact level_of_tighter (ih (Nat.le_of_succ_le bounded))

/-! ## Printed operators -/

/-- Operators of one associativity are none of another. -/
theorem filterMap_infixSign
    {assoc other : Assoc}
    (different : other ≠ assoc)
    (operators : List BinaryOperator) :
    (operators.map fun operator => infixSign operator assoc).filterMap (Sign.between? other) =
      [] := by
  rw [List.filterMap_map, List.filterMap_eq_nil_iff]
  intro operator _
  exact if_neg different.symm

section
variable {depth index : Nat} {row : List BinaryOperator} {front back : List Token}
variable {left right : Expr} {operator : BinaryOperator}

theorem stage_infix_left
    (here : signs[index]? = some (row.map fun operator => infixSign operator .left))
    (present : operator ∈ row)
    (first : stage depth (index + 1) front left)
    (second : stage depth index back right) :
    stage depth (index + 1) (front ++ .sign operator.symbol :: back)
      (binary operator left right) := by
  rw [stage_succ here] at first ⊢
  have part := Category.leftPart_of_level (fun _ other => filterMap_infixSign other row) first
  have entry : (Token.sign operator.symbol, binary operator) ∈
      (row.map fun operator => infixSign operator .left).filterMap (Sign.between? .left) :=
    List.mem_filterMap.mpr
      ⟨_, List.mem_map_of_mem present, Sign.between?_eq_some_iff.mpr rfl⟩
  exact .chain (.left part entry (Category.operand_of_tighter second))

theorem stage_infix_right
    (here : signs[index]? = some (row.map fun operator => infixSign operator .right))
    (present : operator ∈ row)
    (first : stage depth index front left)
    (second : stage depth (index + 1) back right) :
    stage depth (index + 1) (front ++ .sign operator.symbol :: back)
      (binary operator left right) := by
  rw [stage_succ here] at second ⊢
  have part := Category.rightPart_of_level (fun _ other => filterMap_infixSign other row) second
  have entry : (Token.sign operator.symbol, binary operator) ∈
      (row.map fun operator => infixSign operator .right).filterMap (Sign.between? .right) :=
    List.mem_filterMap.mpr
      ⟨_, List.mem_map_of_mem present, Sign.between?_eq_some_iff.mpr rfl⟩
  exact .chain (.right (Category.operand_of_tighter first) entry part)

/-- Two printed operands with their operator between them are a word of its level. -/
theorem stage_infix
    (first : stage depth operator.leftLevel front left)
    (second : stage depth operator.rightLevel back right) :
    stage depth operator.level (front ++ .sign operator.symbol :: back)
      (binary operator left right) := by
  have powers : signs[0]? = some ([.pow].map fun operator => infixSign operator .right) := rfl
  have products : signs[2]? =
      some ([.mul, .div, .rem].map fun operator => infixSign operator .left) := rfl
  have sums : signs[3]? = some ([.add, .sub].map fun operator => infixSign operator .left) := rfl
  cases operator with
  | pow => exact stage_infix_right powers (by decide) first second
  | mul => exact stage_infix_left products (by decide) first second
  | div => exact stage_infix_left products (by decide) first second
  | rem => exact stage_infix_left products (by decide) first second
  | add => exact stage_infix_left sums (by decide) first second
  | sub => exact stage_infix_left sums (by decide) first second

end

theorem stage_neg
    {depth : Nat}
    {tokens : List Token}
    {operand : Expr}
    (inner : stage depth 1 tokens operand) :
    stage depth 2 (.sign '-' :: tokens) (neg operand) := by
  have entry : (Token.sign '-', neg) ∈ [Sign.before (Token.sign '-') neg].filterMap Sign.before? :=
    List.mem_singleton.mpr rfl
  have applied := Category.Operand.intro (.one entry) inner .none
  rw [List.append_nil] at applied
  exact .alone applied

/-! ## Printed expressions -/

/-- In parentheses the tokens of a word are a term, at the cost of one more nesting. -/
theorem stage_inPlace
    {height level loosest : Nat}
    {tokens : List Token}
    {value : Expr}
    (bare : ∀ depth, height ≤ depth → stage depth level tokens value)
    (levelBounded : level ≤ 4)
    (bounded : loosest ≤ 4)
    {depth : Nat}
    (deep : height + 1 ≤ depth) :
    stage depth loosest (inPlace loosest level tokens) value := by
  unfold inPlace
  split
  · rename_i tight
    exact stage_mono (bare depth (Nat.le_of_succ_le deep)) tight bounded
  · obtain ⟨depth, rfl⟩ : ∃ inner, depth = inner + 1 := ⟨depth - 1, by omega⟩
    have word : words (depth + 1) tokens value :=
      stage_mono (bare depth (Nat.le_of_succ_le_succ deep)) levelBounded (Nat.le_refl 4)
    have term : stage (depth + 1) 0 (parenthesized tokens) value := Term.nested word
    exact stage_mono term (Nat.zero_le loosest) bounded

/-- What is printed in a place is a word of the level of that place, if parentheses may be nested
as deep as the operators are. -/
theorem stage_tokensAt
    {range : IntegerRange}
    {expr : Expr}
    (printable : expr.Printable range)
    {depth loosest : Nat}
    (deep : expr.height ≤ depth)
    (bounded : loosest ≤ 4) :
    stage depth loosest (expr.tokensAt loosest) expr := by
  induction expr generalizing depth loosest with
  | int value =>
      have term : stage depth 0 [.number value.toNat] (int value.toNat) := Term.number value.toNat
      rw [Int.toNat_of_nonneg printable.1] at term
      exact stage_mono term (Nat.zero_le loosest) bounded
  | var name =>
      have term : stage depth 0 [.name name] (var name) := Term.name name
      exact stage_mono term (Nat.zero_le loosest) bounded
  | neg operand ih =>
      refine stage_inPlace (fun depth deep => ?_) (by decide) bounded deep
      exact stage_neg (ih printable deep (by decide))
  | binary operator left right leftIh rightIh =>
      have levels : operator.level ≤ 4 ∧ operator.leftLevel ≤ 4 ∧ operator.rightLevel ≤ 4 := by
        cases operator <;> decide
      refine stage_inPlace (fun depth deep => ?_) levels.1 bounded deep
      have fromLeft : left.height ≤ depth := Nat.le_trans (Nat.le_max_left _ _) deep
      have fromRight : right.height ≤ depth := Nat.le_trans (Nat.le_max_right _ _) deep
      exact stage_infix (leftIh printable.1 fromLeft levels.2.1)
        (rightIh printable.2 fromRight levels.2.2)

/-- The tokens of an expression are a word with the expression as its value. -/
theorem words_tokens
    {range : IntegerRange}
    {expr : Expr}
    (printable : expr.Printable range)
    {depth : Nat}
    (deep : expr.height < depth) :
    words depth expr.tokens expr := by
  obtain ⟨depth, rfl⟩ : ∃ inner, depth = inner + 1 := ⟨depth - 1, by omega⟩
  exact stage_tokensAt printable (Nat.le_of_lt_succ deep) (Nat.le_refl 4)

end Expr
end Predictive
