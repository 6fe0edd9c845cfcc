import Predictive.Proofs.RangeEvaluation

/-!
# Overflows and exact values

Every expression has at most one exact value, computed in the integers without regard to a range.
An evaluation in a range of bits that has a value has the exact one. It overflows where the exact
value of some part lies outside the range, and in one case besides: a remainder is computed from a
quotient, and the quotient of the least value by minus one does not fit although the remainder is
zero.
-/

namespace Predictive

/-! ## Exact values -/

/-- The result of an operator in the integers, where it has one. Division truncates, the remainder
has the sign of the dividend, and a power needs an exponent that is not negative. -/
def BinaryOperator.exactValue? (operator : BinaryOperator) (left right : Int) : Option Int :=
  match operator with
  | add => some (left + right)
  | sub => some (left - right)
  | mul => some (left * right)
  | div => if right = 0 then none else some (left.tdiv right)
  | rem => if right = 0 then none else some (left.tmod right)
  | pow => if right < 0 then none else some (left ^ right.toNat)

namespace Expr

/-- The exact value of an expression, if it has one. -/
def exactValue? (bindings : Bindings) : Expr → Option Int
  | int value => some value
  | var name => bindings.value? name
  | neg operand => (operand.exactValue? bindings).map fun value => -value
  | binary operator left right =>
      (left.exactValue? bindings).bind fun leftValue =>
        (right.exactValue? bindings).bind fun rightValue =>
          operator.exactValue? leftValue rightValue

/-- The expression and all expressions inside it. -/
def parts : Expr → List Expr
  | int value => [int value]
  | var name => [var name]
  | neg operand => neg operand :: operand.parts
  | binary operator left right => binary operator left right :: (left.parts ++ right.parts)

/-- The numbers of the expression and the values of its variables lie in the range. -/
structure Within (range : IntegerRange) (bindings : Bindings) (expr : Expr) : Prop where
  numbers_inside : ∀ value, int value ∈ expr.parts → range.contains value = true
  values_inside : ∀ name value, bindings.value? name = some value → range.contains value = true

/-- The exact value is defined and lies in the range. -/
def Fits (range : IntegerRange) (bindings : Bindings) (expr : Expr) : Prop :=
  ∃ value, expr.exactValue? bindings = some value ∧ range.contains value = true

/-- The exact value is defined and lies outside the range. -/
def Exceeds (range : IntegerRange) (bindings : Bindings) (expr : Expr) : Prop :=
  ∃ value, expr.exactValue? bindings = some value ∧ range.contains value = false

/-- A remainder of the least value of the range by minus one. -/
def IsExtremeRemainder (bits : Nat) (bindings : Bindings) (expr : Expr) : Prop :=
  ∃ left right, expr = binary .rem left right ∧
    left.exactValue? bindings = some (-Int.pow 2 (bits - 1)) ∧
      right.exactValue? bindings = some (-1)

/-- An expression is one of its parts. -/
theorem self_mem_parts (expr : Expr) : expr ∈ expr.parts := by
  cases expr <;> exact List.mem_cons_self

/-- The parts of a part are parts of the whole. -/
theorem parts_subset {part expr : Expr} (present : part ∈ expr.parts) :
    part.parts ⊆ expr.parts := by
  induction expr with
  | int value | var name =>
      obtain rfl := List.mem_singleton.mp present
      exact List.Subset.refl _
  | neg operand ih =>
      rcases List.mem_cons.mp present with rfl | inside
      · exact List.Subset.refl _
      · exact List.subset_cons_of_subset _ (ih inside)
  | binary operator left right leftIh rightIh =>
      rcases List.mem_cons.mp present with rfl | inside
      · exact List.Subset.refl _
      · refine List.subset_cons_of_subset _ ?_
        rcases List.mem_append.mp inside with inLeft | inRight
        · exact List.subset_append_of_subset_left _ (leftIh inLeft)
        · exact List.subset_append_of_subset_right _ (rightIh inRight)

/-- The values of a part are among those of the whole. -/
theorem Within.of_mem_parts
    {range : IntegerRange}
    {bindings : Bindings}
    {part expr : Expr}
    (within : expr.Within range bindings)
    (present : part ∈ expr.parts) :
    part.Within range bindings :=
  ⟨fun value inside => within.numbers_inside value (parts_subset present inside),
    within.values_inside⟩

/-- The values of an operand are among those of the expression with its sign. -/
theorem Within.operand
    {range : IntegerRange}
    {bindings : Bindings}
    {operand : Expr}
    (within : (neg operand).Within range bindings) :
    operand.Within range bindings :=
  within.of_mem_parts (List.mem_cons_of_mem _ operand.self_mem_parts)

/-- The values of the left operand are among those of the expression. -/
theorem Within.left
    {range : IntegerRange}
    {bindings : Bindings}
    {operator : BinaryOperator}
    {left right : Expr}
    (within : (binary operator left right).Within range bindings) :
    left.Within range bindings :=
  within.of_mem_parts (List.mem_cons_of_mem _ (List.mem_append_left _ left.self_mem_parts))

/-- The values of the right operand are among those of the expression. -/
theorem Within.right
    {range : IntegerRange}
    {bindings : Bindings}
    {operator : BinaryOperator}
    {left right : Expr}
    (within : (binary operator left right).Within range bindings) :
    right.Within range bindings :=
  within.of_mem_parts (List.mem_cons_of_mem _ (List.mem_append_right _ right.self_mem_parts))

end Expr

/-! ## Operators in a range -/

namespace IntegerRange

/-- A value within the range passes its check. -/
theorem check_of_contains
    {range : IntegerRange}
    {value : Int}
    (inside : range.contains value = true) :
    range.check value = .ok value := by
  rw [check, fit?, if_pos inside]
  rfl

/-- What passes the check is within the range, and unchanged. -/
theorem check_eq_ok_iff {range : IntegerRange} {value result : Int} :
    range.check value = .ok result ↔ range.contains value = true ∧ value = result := by
  unfold check orOverflow fit?
  cases range.contains value <;> simp

/-- What does not pass the check has overflowed. -/
theorem check_eq_error_iff {range : IntegerRange} {value : Int} {error : EvalError} :
    range.check value = .error error ↔ range.contains value = false ∧ error = .overflow := by
  unfold check orOverflow fit?
  cases range.contains value <;> simp [eq_comm]

/-- Only the quotient of the least value by minus one is too large. -/
theorem contains_tdiv
    {bits : Nat}
    {dividend divisor : Int}
    (inside : (signed bits).contains dividend = true)
    (notZero : divisor ≠ 0)
    (notExtreme : ¬ (dividend = -Int.pow 2 (bits - 1) ∧ divisor = -1)) :
    (signed bits).contains (dividend.tdiv divisor) = true := by
  have positive : 0 < Int.pow 2 (bits - 1) := Int.pow_pos (by decide)
  rw [contains_signed_iff] at inside ⊢
  generalize Int.pow 2 (bits - 1) = bound at *
  have shrinks := Int.natAbs_tdiv_le_natAbs dividend divisor
  by_cases least : dividend = -bound
  · rcases Int.lt_or_gt_of_ne notZero with negative | positiveDivisor
    · -- The divisor is at most minus two, which halves the least value.
      have atMost : 2 ≤ divisor.natAbs := by omega
      have halved : (dividend.tdiv divisor).natAbs ≤ dividend.natAbs / 2 := by
        rw [Int.natAbs_tdiv]
        exact Nat.div_le_div_left atMost (by decide)
      omega
    · have sign := Int.tdiv_nonneg (show 0 ≤ -dividend by omega) (Int.le_of_lt positiveDivisor)
      rw [Int.neg_tdiv] at sign
      omega
  · omega

/-- The multiple of the divisor that a quotient stands for lies between zero and the dividend, and
so does the remainder. -/
theorem contains_tdiv_mul
    {bits : Nat}
    {dividend : Int}
    (inside : (signed bits).contains dividend = true)
    (divisor : Int) :
    (signed bits).contains (dividend.tdiv divisor * divisor) = true ∧
      (signed bits).contains (dividend.tmod divisor) = true := by
  have positive : 0 < Int.pow 2 (bits - 1) := Int.pow_pos (by decide)
  have split : dividend.tdiv divisor * divisor + dividend.tmod divisor = dividend :=
    Int.tdiv_mul_add_tmod dividend divisor
  have size : (dividend.tmod divisor).natAbs ≤ dividend.natAbs := by
    rw [Int.natAbs_tmod]
    exact Nat.mod_le _ _
  rw [contains_signed_iff] at inside
  rw [contains_signed_iff, contains_signed_iff]
  rcases Int.le_total 0 dividend with nonneg | nonpos
  · have sign := Int.tmod_nonneg divisor nonneg
    omega
  · have sign := Int.tmod_nonneg divisor (Int.neg_nonneg_of_nonpos nonpos)
    rw [Int.neg_tmod] at sign
    omega

end IntegerRange

/-- Exponents of at most 64 bits are computed with unless they are negative. -/
theorem checkExponent_of_contains
    {bits : Nat}
    {exponent : Int}
    (fewBits : bits ≤ 64)
    (inside : (IntegerRange.signed bits).contains exponent = true) :
    checkExponent exponent =
      if exponent < 0 then .error .negativeExponent else .ok exponent.toNat := by
  have bounded := ((IntegerRange.contains_signed_iff bits exponent).mp inside).2
  have small : Int.pow 2 (bits - 1) ≤ Int.pow 2 63 :=
    pow_le_pow_right₀ (show (1 : Int) ≤ 2 by decide) (by omega)
  have notLarge : ¬ (maxExponent : Int) < exponent := by
    have large : Int.pow 2 63 ≤ (maxExponent : Int) := by decide
    omega
  rw [checkExponent, if_neg notLarge]

namespace BinaryOperator

variable {bits : Nat} {operator : BinaryOperator} {left right : Int}

/-- An operator without an exact result ends with an error of its own. -/
theorem apply_of_exactValue?_eq_none
    (fewBits : bits ≤ 64)
    (rightInside : (IntegerRange.signed bits).contains right = true)
    (undefined : operator.exactValue? left right = none) :
    ∃ error, error ≠ .overflow ∧ operator.apply (.signed bits) left right = .error error := by
  cases operator with
  | add | sub | mul => simp [exactValue?] at undefined
  | div =>
      have zero : right = 0 := by simpa [exactValue?] using undefined
      exact ⟨.divisionByZero, by decide, by rw [apply_div, IntegerRange.divide_eq, if_pos zero]⟩
  | rem =>
      have zero : right = 0 := by simpa [exactValue?] using undefined
      refine ⟨.divisionByZero, by decide, ?_⟩
      rw [apply_rem, IntegerRange.remainder_eq, IntegerRange.divide_eq, if_pos zero]
      rfl
  | pow =>
      have negative : right < 0 := by simpa [exactValue?] using undefined
      refine ⟨.negativeExponent, by decide, ?_⟩
      rw [apply_pow, checkExponent_of_contains fewBits rightInside, if_pos negative]
      rfl

/-- An operator with an exact result comes to the check of that result, one remainder apart. -/
theorem apply_of_exactValue?_eq_some
    (twoBits : 2 ≤ bits)
    (fewBits : bits ≤ 64)
    (leftInside : (IntegerRange.signed bits).contains left = true)
    (rightInside : (IntegerRange.signed bits).contains right = true)
    {value : Int}
    (defined : operator.exactValue? left right = some value)
    (notExtreme : ¬ (operator = .rem ∧ left = -Int.pow 2 (bits - 1) ∧ right = -1)) :
    operator.apply (.signed bits) left right = (IntegerRange.signed bits).check value := by
  cases operator with
  | add | sub | mul =>
      obtain rfl := Option.some.inj defined
      rfl
  | div =>
      by_cases zero : right = 0
      · simp [exactValue?, zero] at defined
      · rw [exactValue?, if_neg zero, Option.some.injEq] at defined
        rw [apply_div, IntegerRange.divide_eq, if_neg zero, defined]
  | rem =>
      by_cases zero : right = 0
      · simp [exactValue?, zero] at defined
      · rw [exactValue?, if_neg zero, Option.some.injEq] at defined
        have quotientInside := IntegerRange.contains_tdiv leftInside zero fun extreme =>
          notExtreme ⟨rfl, extreme⟩
        have productInside := (IntegerRange.contains_tdiv_mul leftInside right).1
        have split : left.tdiv right * right + left.tmod right = left :=
          Int.tdiv_mul_add_tmod left right
        rw [apply_rem, IntegerRange.remainder_eq, IntegerRange.divide_eq, if_neg zero,
          IntegerRange.check_of_contains quotientInside]
        change ((IntegerRange.signed bits).check (left.tdiv right * right) >>= _) = _
        rw [IntegerRange.check_of_contains productInside]
        change (IntegerRange.signed bits).check (left - left.tdiv right * right) = _
        rw [show left - left.tdiv right * right = value by omega]
  | pow =>
      by_cases negative : right < 0
      · simp [exactValue?, negative] at defined
      · rw [exactValue?, if_neg negative, Option.some.injEq] at defined
        rw [apply_pow, checkExponent_of_contains fewBits rightInside, if_neg negative]
        change (IntegerRange.signed bits).power left right.toNat = _
        rw [IntegerRange.power_signed twoBits leftInside, defined]

/-- The quotient on the way to the extreme remainder does not fit. -/
theorem apply_rem_extreme (bits : Nat) :
    rem.apply (.signed bits) (-Int.pow 2 (bits - 1)) (-1) = .error .overflow := by
  have outside : (IntegerRange.signed bits).contains ((-Int.pow 2 (bits - 1)).tdiv (-1)) =
      false := by
    rw [← Bool.not_eq_true, IntegerRange.contains_signed_iff, Int.tdiv_neg, Int.tdiv_one]
    omega
  rw [apply_rem, IntegerRange.remainder_eq, IntegerRange.divide_eq, if_neg (by decide),
    IntegerRange.check_eq_error_iff.mpr ⟨outside, rfl⟩]
  rfl

/-- What an operator comes to in a range: an error of its own without an exact result, the overflow
of the extreme remainder, or the check of its exact result. -/
theorem apply_cases
    (twoBits : 2 ≤ bits)
    (fewBits : bits ≤ 64)
    (operator : BinaryOperator)
    (leftInside : (IntegerRange.signed bits).contains left = true)
    (rightInside : (IntegerRange.signed bits).contains right = true) :
    (operator.exactValue? left right = none ∧
        ∃ error, error ≠ .overflow ∧ operator.apply (.signed bits) left right = .error error) ∨
      (operator = .rem ∧ left = -Int.pow 2 (bits - 1) ∧ right = -1 ∧
        operator.apply (.signed bits) left right = .error .overflow) ∨
      ∃ value, operator.exactValue? left right = some value ∧
        operator.apply (.signed bits) left right = (IntegerRange.signed bits).check value := by
  by_cases extreme : operator = .rem ∧ left = -Int.pow 2 (bits - 1) ∧ right = -1
  · obtain ⟨rfl, rfl, rfl⟩ := extreme
    exact .inr (.inl ⟨rfl, rfl, rfl, apply_rem_extreme bits⟩)
  cases defined : operator.exactValue? left right with
  | none => exact .inl ⟨rfl, apply_of_exactValue?_eq_none fewBits rightInside defined⟩
  | some value =>
      exact .inr (.inr ⟨value, rfl,
        apply_of_exactValue?_eq_some twoBits fewBits leftInside rightInside defined extreme⟩)

end BinaryOperator

/-! ## Evaluation -/

/-- Evaluation goes on only behind a value. -/
theorem bind_eq_ok_iff
    {α β : Type}
    {result : Except EvalError α}
    {following : α → Except EvalError β}
    {value : β} :
    result >>= following = .ok value ↔
      ∃ first, result = .ok first ∧ following first = .ok value := by
  cases result <;> simp [bind, Except.bind]

/-- Evaluation stops at the first error. -/
theorem bind_eq_error_iff
    {α β : Type}
    {result : Except EvalError α}
    {following : α → Except EvalError β}
    {error : EvalError} :
    result >>= following = .error error ↔
      result = .error error ∨ ∃ first, result = .ok first ∧ following first = .error error := by
  cases result <;> simp [bind, Except.bind]

namespace Expr

variable {bits : Nat} {bindings : Bindings} {expr : Expr}

/-- All binary expressions apply their operator to the values of their operands. -/
theorem eval_binary_of_ok
    {range : IntegerRange}
    (operator : BinaryOperator)
    {left right : Expr}
    {leftValue rightValue : Int}
    (leftOk : left.eval range bindings = .ok leftValue)
    (rightOk : right.eval range bindings = .ok rightValue) :
    (binary operator left right).eval range bindings =
      operator.apply range leftValue rightValue := by
  by_cases isPower : operator = .pow
  · subst isPower
    rw [eval_pow, rightOk, BinaryOperator.apply_pow]
    cases exponent : checkExponent rightValue <;> simp [bind, Except.bind, exponent, leftOk]
  · rw [eval_binary isPower, leftOk, rightOk]
    rfl

/-- The operands of a value have values, to which the operator is applied. -/
theorem operands_of_eval_eq_ok
    {range : IntegerRange}
    {operator : BinaryOperator}
    {left right : Expr}
    {value : Int}
    (evaluated : (binary operator left right).eval range bindings = .ok value) :
    ∃ leftValue rightValue, left.eval range bindings = .ok leftValue ∧
      right.eval range bindings = .ok rightValue ∧
      operator.apply range leftValue rightValue = .ok value := by
  obtain ⟨leftValue, rightValue, leftOk, rightOk⟩ : ∃ leftValue rightValue,
      left.eval range bindings = .ok leftValue ∧ right.eval range bindings = .ok rightValue := by
    by_cases isPower : operator = .pow
    · rw [isPower, eval_pow] at evaluated
      obtain ⟨rightValue, rightOk, evaluated⟩ := bind_eq_ok_iff.mp evaluated
      obtain ⟨exponent, -, evaluated⟩ := bind_eq_ok_iff.mp evaluated
      obtain ⟨leftValue, leftOk, -⟩ := bind_eq_ok_iff.mp evaluated
      exact ⟨leftValue, rightValue, leftOk, rightOk⟩
    · rw [eval_binary isPower] at evaluated
      obtain ⟨leftValue, leftOk, evaluated⟩ := bind_eq_ok_iff.mp evaluated
      obtain ⟨rightValue, rightOk, -⟩ := bind_eq_ok_iff.mp evaluated
      exact ⟨leftValue, rightValue, leftOk, rightOk⟩
  exact ⟨leftValue, rightValue, leftOk, rightOk,
    (eval_binary_of_ok operator leftOk rightOk).symm.trans evaluated⟩

/-- An error comes from an operand, or from the operator applied to their values, or it is that of
an exponent which is refused before its base is evaluated. -/
theorem eval_binary_eq_error
    {range : IntegerRange}
    {operator : BinaryOperator}
    {left right : Expr}
    {error : EvalError}
    (evaluated : (binary operator left right).eval range bindings = .error error) :
    left.eval range bindings = .error error ∨ right.eval range bindings = .error error ∨
      ∃ rightValue, right.eval range bindings = .ok rightValue ∧
        ((operator = .pow ∧ checkExponent rightValue = .error error) ∨
          ∃ leftValue, left.eval range bindings = .ok leftValue ∧
            operator.apply range leftValue rightValue = .error error) := by
  by_cases isPower : operator = .pow
  · subst isPower
    rw [eval_pow] at evaluated
    rcases bind_eq_error_iff.mp evaluated with failed | ⟨rightValue, rightOk, evaluated⟩
    · exact .inr (.inl failed)
    rcases bind_eq_error_iff.mp evaluated with refused | ⟨exponent, accepted, evaluated⟩
    · exact .inr (.inr ⟨rightValue, rightOk, .inl ⟨rfl, refused⟩⟩)
    rcases bind_eq_error_iff.mp evaluated with failed | ⟨leftValue, leftOk, applied⟩
    · exact .inl failed
    · refine .inr (.inr ⟨rightValue, rightOk, .inr ⟨leftValue, leftOk, ?_⟩⟩)
      rw [BinaryOperator.apply_pow, accepted]
      exact applied
  · rw [eval_binary isPower] at evaluated
    rcases bind_eq_error_iff.mp evaluated with failed | ⟨leftValue, leftOk, evaluated⟩
    · exact .inl failed
    rcases bind_eq_error_iff.mp evaluated with failed | ⟨rightValue, rightOk, applied⟩
    · exact .inr (.inl failed)
    · exact .inr (.inr ⟨rightValue, rightOk, .inr ⟨leftValue, leftOk, applied⟩⟩)

/-- Where an expression has a value, all its parts have one. -/
theorem eval_eq_ok_of_mem_parts
    {range : IntegerRange}
    {part : Expr}
    {value : Int}
    (evaluated : expr.eval range bindings = .ok value)
    (present : part ∈ expr.parts) :
    ∃ partValue, part.eval range bindings = .ok partValue := by
  induction expr generalizing value with
  | int number | var name =>
      obtain rfl := List.mem_singleton.mp present
      exact ⟨value, evaluated⟩
  | neg operand ih =>
      rcases List.mem_cons.mp present with rfl | inside
      · exact ⟨value, evaluated⟩
      · obtain ⟨first, operandOk, -⟩ := bind_eq_ok_iff.mp evaluated
        exact ih operandOk inside
  | binary operator left right leftIh rightIh =>
      rcases List.mem_cons.mp present with rfl | inside
      · exact ⟨value, evaluated⟩
      · obtain ⟨leftValue, rightValue, leftOk, rightOk, -⟩ := operands_of_eval_eq_ok evaluated
        rcases List.mem_append.mp inside with inLeft | inRight
        · exact leftIh leftOk inLeft
        · exact rightIh rightOk inRight

/-- The exact value of an operator is that of the exact values of its operands. -/
theorem exactValue?_binary
    {operator : BinaryOperator}
    {left right : Expr}
    {leftValue rightValue : Int}
    (leftExact : left.exactValue? bindings = some leftValue)
    (rightExact : right.exactValue? bindings = some rightValue) :
    (binary operator left right).exactValue? bindings =
      operator.exactValue? leftValue rightValue := by
  rw [exactValue?, leftExact, rightExact]
  rfl

section
variable (twoBits : 2 ≤ bits) (fewBits : bits ≤ 64)
include twoBits fewBits

/-- A value in a range is the exact value, and lies in the range. -/
theorem exactValue?_of_eval_eq_ok
    (within : expr.Within (.signed bits) bindings)
    {value : Int}
    (evaluated : expr.eval (.signed bits) bindings = .ok value) :
    expr.exactValue? bindings = some value ∧ (IntegerRange.signed bits).contains value = true := by
  induction expr generalizing value with
  | int number =>
      obtain rfl := Except.ok.inj evaluated
      exact ⟨rfl, within.numbers_inside number (self_mem_parts _)⟩
  | var name =>
      rw [eval_var] at evaluated
      cases bound : bindings.value? name with
      | none => simp [bound] at evaluated
      | some found =>
          obtain rfl : found = value := by simpa [bound] using evaluated
          exact ⟨bound, within.values_inside name found bound⟩
  | neg operand ih =>
      obtain ⟨first, operandOk, checked⟩ := bind_eq_ok_iff.mp evaluated
      obtain ⟨inside, rfl⟩ := IntegerRange.check_eq_ok_iff.mp checked
      have operandExact := (ih within.operand operandOk).1
      exact ⟨by rw [exactValue?, operandExact, Option.map_some, Int.zero_sub], inside⟩
  | binary operator left right leftIh rightIh =>
      obtain ⟨leftValue, rightValue, leftOk, rightOk, applied⟩ := operands_of_eval_eq_ok evaluated
      obtain ⟨leftExact, leftInside⟩ :=
        leftIh within.left leftOk
      obtain ⟨rightExact, rightInside⟩ :=
        rightIh within.right rightOk
      rw [exactValue?_binary leftExact rightExact]
      rcases operator.apply_cases twoBits fewBits leftInside rightInside with
        ⟨-, error, -, failed⟩ | ⟨-, -, -, failed⟩ | ⟨result, defined, checked⟩
      · rw [failed] at applied
        contradiction
      · rw [failed] at applied
        contradiction
      · rw [checked] at applied
        obtain ⟨inside, rfl⟩ := IntegerRange.check_eq_ok_iff.mp applied
        exact ⟨defined, inside⟩

/-- An overflow comes from a part whose exact value lies outside the range, or from the extreme
remainder. -/
theorem exists_part_of_overflow
    (within : expr.Within (.signed bits) bindings)
    (evaluated : expr.eval (.signed bits) bindings = .error .overflow) :
    ∃ part ∈ expr.parts,
      part.Exceeds (.signed bits) bindings ∨ part.IsExtremeRemainder bits bindings := by
  induction expr with
  | int number => contradiction
  | var name =>
      rw [eval_var] at evaluated
      cases bound : bindings.value? name <;> simp [bound] at evaluated
  | neg operand ih =>
      rcases bind_eq_error_iff.mp evaluated with failed | ⟨value, operandOk, checked⟩
      · obtain ⟨part, present, cause⟩ := ih within.operand failed
        exact ⟨part, List.mem_cons_of_mem _ present, cause⟩
      · have operandExact := (exactValue?_of_eval_eq_ok twoBits fewBits within.operand operandOk).1
        have outside := (IntegerRange.check_eq_error_iff.mp checked).1
        refine ⟨_, self_mem_parts _, .inl ⟨-value, ?_, by rwa [Int.zero_sub] at outside⟩⟩
        rw [exactValue?, operandExact, Option.map_some]
  | binary operator left right leftIh rightIh =>
      rcases eval_binary_eq_error evaluated with failed | failed | ⟨rightValue, rightOk, cause⟩
      · obtain ⟨part, present, cause⟩ := leftIh within.left failed
        exact ⟨part, List.mem_cons_of_mem _ (List.mem_append_left _ present), cause⟩
      · obtain ⟨part, present, cause⟩ := rightIh within.right failed
        exact ⟨part, List.mem_cons_of_mem _ (List.mem_append_right _ present), cause⟩
      obtain ⟨rightExact, rightInside⟩ :=
        exactValue?_of_eval_eq_ok twoBits fewBits within.right rightOk
      rcases cause with ⟨-, refused⟩ | ⟨leftValue, leftOk, applied⟩
      · -- An exponent in the range is refused for its sign only.
        rw [checkExponent_of_contains fewBits rightInside] at refused
        split at refused <;> simp at refused
      obtain ⟨leftExact, leftInside⟩ := exactValue?_of_eval_eq_ok twoBits fewBits within.left leftOk
      refine ⟨_, self_mem_parts _, ?_⟩
      rcases operator.apply_cases twoBits fewBits leftInside rightInside with
        ⟨-, error, noOverflow, failed⟩ | ⟨rfl, rfl, rfl, -⟩ | ⟨value, defined, checked⟩
      · rw [failed, Except.error.injEq] at applied
        exact absurd applied noOverflow
      · exact .inr ⟨left, right, rfl, leftExact, rightExact⟩
      · rw [checked] at applied
        have outside := (IntegerRange.check_eq_error_iff.mp applied).1
        exact .inl ⟨value, (exactValue?_binary leftExact rightExact).trans defined, outside⟩

/-- Errors other than overflows come up only where there is no exact value. -/
theorem exactValue?_of_eval_eq_error
    (within : expr.Within (.signed bits) bindings)
    {error : EvalError}
    (noOverflow : error ≠ .overflow)
    (evaluated : expr.eval (.signed bits) bindings = .error error) :
    expr.exactValue? bindings = none := by
  induction expr with
  | int number => contradiction
  | var name =>
      rw [eval_var] at evaluated
      cases bound : bindings.value? name with
      | none => exact bound
      | some value => simp [bound] at evaluated
  | neg operand ih =>
      rcases bind_eq_error_iff.mp evaluated with failed | ⟨value, -, checked⟩
      · rw [exactValue?, ih within.operand failed, Option.map_none]
      · exact absurd (IntegerRange.check_eq_error_iff.mp checked).2 noOverflow
  | binary operator left right leftIh rightIh =>
      rw [exactValue?]
      rcases eval_binary_eq_error evaluated with failed | failed | ⟨rightValue, rightOk, cause⟩
      · rw [leftIh within.left failed, Option.bind_none]
      · rw [rightIh within.right failed]
        simp
      obtain ⟨rightExact, rightInside⟩ :=
        exactValue?_of_eval_eq_ok twoBits fewBits within.right rightOk
      rw [rightExact]
      rcases cause with ⟨rfl, refused⟩ | ⟨leftValue, leftOk, applied⟩
      · rw [checkExponent_of_contains fewBits rightInside] at refused
        split at refused
        · rename_i negative
          simp [BinaryOperator.exactValue?, negative]
        · contradiction
      obtain ⟨leftExact, leftInside⟩ := exactValue?_of_eval_eq_ok twoBits fewBits within.left leftOk
      rw [leftExact, Option.bind_some, Option.bind_some]
      rcases operator.apply_cases twoBits fewBits leftInside rightInside with
        ⟨undefined, -⟩ | ⟨-, -, -, failed⟩ | ⟨value, -, checked⟩
      · exact undefined
      · rw [failed, Except.error.injEq] at applied
        exact absurd applied.symm noOverflow
      · rw [checked] at applied
        exact absurd (IntegerRange.check_eq_error_iff.mp applied).2 noOverflow

/-- No part of an expression with a value is the extreme remainder. -/
theorem not_isExtremeRemainder_of_eval_eq_ok
    (within : expr.Within (.signed bits) bindings)
    {value : Int}
    (evaluated : expr.eval (.signed bits) bindings = .ok value)
    {part : Expr}
    (present : part ∈ expr.parts) :
    ¬ part.IsExtremeRemainder bits bindings := by
  rintro ⟨left, right, rfl, leftExact, rightExact⟩
  obtain ⟨remainder, partOk⟩ := eval_eq_ok_of_mem_parts evaluated present
  obtain ⟨leftValue, rightValue, leftOk, rightOk, applied⟩ := operands_of_eval_eq_ok partOk
  have partWithin := within.of_mem_parts present
  have leftSame := (exactValue?_of_eval_eq_ok twoBits fewBits
    partWithin.left leftOk).1
  have rightSame := (exactValue?_of_eval_eq_ok twoBits fewBits
    partWithin.right rightOk).1
  obtain rfl := Option.some.inj (leftExact.symm.trans leftSame)
  obtain rfl := Option.some.inj (rightExact.symm.trans rightSame)
  rw [BinaryOperator.apply_rem_extreme] at applied
  contradiction

end

/-- With 64 bits an overflow means that the exact value of a part does not fit, or that a part is
the remainder of the least value by minus one. Where the exact values of all parts fit, the
expression has its exact value unless there is such a remainder, and then it overflows. -/
theorem overflow_exceeds_or_extreme
    (within : expr.Within (.signed 64) bindings) :
    (expr.eval (.signed 64) bindings = .error .overflow →
      ∃ part ∈ expr.parts,
        part.Exceeds (.signed 64) bindings ∨ part.IsExtremeRemainder 64 bindings) ∧
    ((∀ part ∈ expr.parts, part.Fits (.signed 64) bindings) →
      ((∃ part ∈ expr.parts, part.IsExtremeRemainder 64 bindings) →
        expr.eval (.signed 64) bindings = .error .overflow) ∧
      ((∀ part ∈ expr.parts, ¬ part.IsExtremeRemainder 64 bindings) →
        ∃ value, expr.exactValue? bindings = some value ∧
          expr.eval (.signed 64) bindings = .ok value)) := by
  have twoBits : 2 ≤ 64 := by decide
  have overflows := exists_part_of_overflow twoBits (Nat.le_refl 64) within
  refine ⟨overflows, fun fits => ?_⟩
  obtain ⟨exact, isExact, -⟩ := fits expr expr.self_mem_parts
  rcases evaluated : expr.eval (.signed 64) bindings with error | value
  · obtain rfl : error = .overflow := by
      by_contra noOverflow
      have undefined :=
        exactValue?_of_eval_eq_error twoBits (Nat.le_refl 64) within noOverflow evaluated
      simp [undefined] at isExact
    refine ⟨fun _ => rfl, fun noExtreme => ?_⟩
    obtain ⟨part, present, ⟨found, foundExact, outside⟩ | extreme⟩ := overflows evaluated
    · obtain ⟨value, valueExact, inside⟩ := fits part present
      obtain rfl := Option.some.inj (foundExact.symm.trans valueExact)
      rw [outside] at inside
      contradiction
    · exact absurd extreme (noExtreme part present)
  · refine ⟨fun ⟨part, present, extreme⟩ => ?_, fun _ => ?_⟩
    · exact absurd extreme (not_isExtremeRemainder_of_eval_eq_ok twoBits (Nat.le_refl 64) within
        evaluated present)
    · exact ⟨value, (exactValue?_of_eval_eq_ok twoBits (Nat.le_refl 64) within evaluated).1, rfl⟩

/-- A remainder of the least value, which fits, and a product with a sum that is one too large. -/
theorem overflow_exceeds_or_extreme_sum :
    let bindings : Bindings := [("x", -9223372036854775808)]
    let remainder := binary .rem (var "x") (int 3)
    let product := binary .mul remainder (binary .add (int 9223372036854775807) (int 1))
    product.Within (.signed 64) bindings ∧
      (∃ part ∈ product.parts,
        part.Exceeds (.signed 64) bindings ∨ part.IsExtremeRemainder 64 bindings) ∧
      ∃ value, remainder.exactValue? bindings = some value ∧
        remainder.eval (.signed 64) bindings = .ok value := by
  intro bindings remainder product
  have within : product.Within (.signed 64) bindings := by
    constructor
    · intro value present
      have isNumber : value = 3 ∨ value = 9223372036854775807 ∨ value = 1 := by
        simpa [product, remainder, parts] using present
      rcases isNumber with rfl | rfl | rfl <;> rfl
    · intro name value bound
      simp only [bindings, Bindings.value?, List.lookup_cons, List.lookup_nil] at bound
      split at bound
      · obtain rfl := Option.some.inj bound
        rfl
      · contradiction
  have remainderWithin : remainder.Within (.signed 64) bindings := within.left
  refine ⟨within, (overflow_exceeds_or_extreme within).1 rfl,
    ((overflow_exceeds_or_extreme remainderWithin).2 ?_).2 ?_⟩
  · intro part present
    obtain rfl | rfl | rfl : part = remainder ∨ part = var "x" ∨ part = int 3 := by
      simpa [remainder, parts] using present
    · exact ⟨-2, rfl, rfl⟩
    · exact ⟨-9223372036854775808, rfl, rfl⟩
    · exact ⟨3, rfl, rfl⟩
  · rintro part present ⟨left, right, rfl, -, isMinusOne⟩
    obtain ⟨rfl, rfl⟩ : left = var "x" ∧ right = int 3 := by
      simpa [remainder, parts] using present
    exact absurd isMinusOne (by decide)

/-- The least value of 64 bits, which no literal stands for, and its remainder by minus one. -/
def extremeRemainder : Expr :=
  binary .rem (binary .sub (neg (int 9223372036854775807)) (int 1)) (neg (int 1))

/-- An overflow does not mean that an exact value is outside the range, and exact values inside the
range do not prevent an overflow. -/
theorem extreme_remainder_overflows_without_excess :
    (¬ ∀ (expr : Expr) (bindings : Bindings), expr.Within (.signed 64) bindings →
        expr.eval (.signed 64) bindings = .error .overflow →
          ∃ part ∈ expr.parts, part.Exceeds (.signed 64) bindings) ∧
      ¬ ∀ (expr : Expr) (bindings : Bindings), expr.Within (.signed 64) bindings →
        (∀ part ∈ expr.parts, part.Fits (.signed 64) bindings) →
          ∃ value, expr.exactValue? bindings = some value ∧
            expr.eval (.signed 64) bindings = .ok value := by
  have within : extremeRemainder.Within (.signed 64) [] := by
    constructor
    · intro value present
      have isNumber : value = 9223372036854775807 ∨ value = 1 := by
        simpa [extremeRemainder, parts, or_comm, or_left_comm] using present
      rcases isNumber with rfl | rfl <;> rfl
    · intro name value bound
      contradiction
  have fits : ∀ part ∈ extremeRemainder.parts, part.Fits (.signed 64) [] := by
    have all : ∀ part ∈ extremeRemainder.parts,
        (part.exactValue? []).any (IntegerRange.signed 64).contains = true := by decide
    intro part present
    exact (Option.any_eq_true _ _).mp (all part present)
  constructor
  · intro claimed
    obtain ⟨part, present, value, isExact, outside⟩ := claimed extremeRemainder [] within rfl
    obtain ⟨found, foundExact, inside⟩ := fits part present
    obtain rfl := Option.some.inj (foundExact.symm.trans isExact)
    rw [outside] at inside
    contradiction
  · intro claimed
    obtain ⟨value, -, evaluated⟩ := claimed extremeRemainder [] within fits
    contradiction

end Expr
end Predictive
