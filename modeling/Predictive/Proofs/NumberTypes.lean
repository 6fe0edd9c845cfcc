import Predictive.Proofs.ExactEvaluation

/-!
# Types of numbers

An evaluation uses the checked operations of its numbers and nothing else. If each of them has the
exact result wherever the type can hold that, and none elsewhere, then it does not matter how they
compute it: the values and the errors are those of the range of integers that the type holds. The
ranges of at least two bits and the range of all integers are such types themselves, although they
compute a power by repeated squaring and check every square on the way.
-/

namespace Predictive

namespace CheckedArithmetic

/-- The type holds the integers of a range, and its operations are exact: on such integers each has
its exact result if the range holds that, and none otherwise. -/
structure ExactIn (numbers : CheckedArithmetic) (range : IntegerRange) : Prop where
  add?_eq : ∀ ⦃left right⦄, range.contains left = true → range.contains right = true →
    numbers.add? left right = range.fit? (left + right)
  sub?_eq : ∀ ⦃left right⦄, range.contains left = true → range.contains right = true →
    numbers.sub? left right = range.fit? (left - right)
  mul?_eq : ∀ ⦃left right⦄, range.contains left = true → range.contains right = true →
    numbers.mul? left right = range.fit? (left * right)
  div?_eq : ∀ ⦃dividend divisor⦄, range.contains dividend = true →
    range.contains divisor = true → divisor ≠ 0 →
      numbers.div? dividend divisor = range.fit? (dividend.tdiv divisor)
  pow?_eq : ∀ ⦃base⦄, range.contains base = true →
    ∀ exponent, numbers.pow? base exponent = range.fit? (base ^ exponent)

end CheckedArithmetic

namespace IntegerRange

/-- All integers are a type with exact operations. -/
theorem unbounded_exactIn : unbounded.arithmetic.ExactIn unbounded where
  add?_eq _ _ _ _ := rfl
  sub?_eq _ _ _ _ := rfl
  mul?_eq _ _ _ _ := rfl
  div?_eq _ _ _ _ _ := rfl
  pow?_eq base _ _ := powerIn?_unbounded Nat.lt_log2_self base

/-- Two bits or more hold a type with exact operations. -/
theorem signed_exactIn {bits : Nat} (twoBits : 2 ≤ bits) :
    (signed bits).arithmetic.ExactIn (signed bits) where
  add?_eq _ _ _ _ := rfl
  sub?_eq _ _ _ _ := rfl
  mul?_eq _ _ _ _ := rfl
  div?_eq _ _ _ _ _ := rfl
  pow?_eq _ inside _ := powerIn?_signed twoBits Nat.lt_log2_self inside

end IntegerRange

/-! ## Operations -/

namespace IntegerRange

variable {range : IntegerRange} {left right value : Int}

/-- What passes the check lies in the range. -/
theorem contains_of_check (checked : range.check left = .ok value) :
    range.contains value = true := by
  obtain ⟨inside, rfl⟩ := check_eq_ok_iff.mp checked
  exact inside

/-- A quotient in the range lies in it. -/
theorem contains_of_divide (divided : range.divide left right = .ok value) :
    range.contains value = true := by
  rw [divide_eq] at divided
  split at divided
  · contradiction
  · exact contains_of_check divided

/-- A remainder in the range lies in it. -/
theorem contains_of_remainder (computed : range.remainder left right = .ok value) :
    range.contains value = true := by
  rw [remainder_eq] at computed
  obtain ⟨quotient, -, computed⟩ := bind_eq_ok_iff.mp computed
  obtain ⟨product, -, checked⟩ := bind_eq_ok_iff.mp computed
  exact contains_of_check checked

end IntegerRange

namespace CheckedArithmetic.ExactIn

variable {numbers : CheckedArithmetic} {range : IntegerRange} {left right : Int}
variable (exact : numbers.ExactIn range)
include exact

/-- The quotients of the type are those of the range. -/
theorem divide_eq
    (leftInside : range.contains left = true)
    (rightInside : range.contains right = true) :
    numbers.divide left right = range.divide left right := by
  rw [divide, IntegerRange.divide_eq]
  split
  · rfl
  · rename_i notZero
    rw [exact.div?_eq leftInside rightInside notZero, IntegerRange.check]

/-- The quotient and the product on the way to a remainder lie in the range, where the operations of
the type are those of the range. -/
theorem remainder_eq
    (leftInside : range.contains left = true)
    (rightInside : range.contains right = true) :
    numbers.remainder left right = range.remainder left right := by
  rw [remainder, IntegerRange.remainder_eq, exact.divide_eq leftInside rightInside]
  cases divided : range.divide left right with
  | error error => rfl
  | ok quotient =>
      have quotientInside := IntegerRange.contains_of_divide divided
      change (orOverflow (numbers.mul? quotient right) >>= _) = (range.check _ >>= _)
      rw [exact.mul?_eq quotientInside rightInside, ← IntegerRange.check]
      cases multiplied : range.check (quotient * right) with
      | error error => rfl
      | ok product =>
          have productInside := IntegerRange.contains_of_check multiplied
          change orOverflow (numbers.sub? left product) = range.check _
          rw [exact.sub?_eq leftInside productInside, IntegerRange.check]

/-- A power of the type is the exact one, checked against the range. -/
theorem power_eq {base : Int} (inside : range.contains base = true) (exponent : Nat) :
    numbers.power base exponent = range.check (base ^ exponent) := by
  rw [power, exact.pow?_eq inside, IntegerRange.check]

end CheckedArithmetic.ExactIn

/-! ## Evaluation -/

section
variable {numbers : CheckedArithmetic} {range : IntegerRange}
variable (exact : numbers.ExactIn range) (rangeExact : range.arithmetic.ExactIn range)
include exact rangeExact

/-- An operator does the same in the type as in the range. -/
theorem BinaryOperator.applyIn_eq_apply
    (operator : BinaryOperator)
    {left right : Int}
    (leftInside : range.contains left = true)
    (rightInside : range.contains right = true) :
    operator.applyIn numbers left right = operator.apply range left right := by
  cases operator with
  | add => exact congrArg orOverflow (exact.add?_eq leftInside rightInside)
  | sub => exact congrArg orOverflow (exact.sub?_eq leftInside rightInside)
  | mul => exact congrArg orOverflow (exact.mul?_eq leftInside rightInside)
  | div => exact exact.divide_eq leftInside rightInside
  | rem => exact exact.remainder_eq leftInside rightInside
  | pow =>
      have same (exponent : Nat) : numbers.power left exponent = range.power left exponent :=
        (exact.power_eq leftInside exponent).trans (rangeExact.power_eq leftInside exponent).symm
      exact congrArg (checkExponent right >>= ·) (funext same)

omit exact in
/-- An operator stays in the range. -/
theorem BinaryOperator.contains_of_apply
    (operator : BinaryOperator)
    {left right value : Int}
    (leftInside : range.contains left = true)
    (applied : operator.apply range left right = .ok value) :
    range.contains value = true := by
  cases operator with
  | add | sub | mul => exact IntegerRange.contains_of_check applied
  | div => exact IntegerRange.contains_of_divide applied
  | rem => exact IntegerRange.contains_of_remainder applied
  | pow =>
      obtain ⟨exponent, -, computed⟩ := bind_eq_ok_iff.mp applied
      exact IntegerRange.contains_of_check
        ((rangeExact.power_eq leftInside exponent).symm.trans computed)

namespace Expr

variable {bindings : Bindings} {expr : Expr}

omit exact in
/-- The value of an expression lies in the range if the numbers in it do. -/
theorem contains_of_eval
    {value : Int}
    (within : expr.Within range bindings)
    (evaluated : expr.eval range bindings = .ok value) :
    range.contains value = true := by
  induction expr generalizing value with
  | int number =>
      obtain rfl := Except.ok.inj evaluated
      exact within.numbers_inside number (self_mem_parts _)
  | var name =>
      rw [eval_var] at evaluated
      cases bound : bindings.value? name with
      | none => simp [bound] at evaluated
      | some found =>
          obtain rfl : found = value := by simpa [bound] using evaluated
          exact within.values_inside name found bound
  | neg operand _ =>
      obtain ⟨_, -, checked⟩ := bind_eq_ok_iff.mp evaluated
      exact IntegerRange.contains_of_check checked
  | binary operator left right leftIh _ =>
      obtain ⟨leftValue, rightValue, leftOk, -, applied⟩ := operands_of_eval_eq_ok evaluated
      exact operator.contains_of_apply rangeExact (leftIh within.left leftOk) applied

/-- An expression has the value or the error that it has in the range, whatever the type computes
its operations by. -/
theorem evalIn_eq_eval
    (zeroInside : range.contains 0 = true)
    (within : expr.Within range bindings) :
    expr.evalIn numbers bindings = expr.eval range bindings := by
  induction expr with
  | int value | var name => rfl
  | neg operand ih =>
      change (operand.evalIn numbers bindings >>= fun value => orOverflow (numbers.sub? 0 value)) =
        (operand.eval range bindings >>= fun value => range.check (0 - value))
      rw [ih within.operand]
      cases evaluated : operand.eval range bindings with
      | error error => rfl
      | ok value =>
          have inside := contains_of_eval rangeExact within.operand evaluated
          exact congrArg orOverflow (exact.sub?_eq zeroInside inside)
  | binary operator left right leftIh rightIh =>
      have rightInside {value : Int} (evaluated : right.eval range bindings = .ok value) :=
        contains_of_eval rangeExact within.right evaluated
      have leftInside {value : Int} (evaluated : left.eval range bindings = .ok value) :=
        contains_of_eval rangeExact within.left evaluated
      by_cases isPower : operator = .pow
      · subst isPower
        rw [evalIn_pow, eval_pow, rightIh within.right, leftIh within.left]
        refine congrArg (right.eval range bindings >>= ·) (funext fun value => ?_)
        refine congrArg (checkExponent value >>= ·) (funext fun exponent => ?_)
        cases evaluated : left.eval range bindings with
        | error error => rfl
        | ok base =>
            have same := exact.power_eq (leftInside evaluated) exponent
            exact same.trans (rangeExact.power_eq (leftInside evaluated) exponent).symm
      · rw [evalIn_binary isPower, eval_binary isPower, rightIh within.right, leftIh within.left]
        cases leftOk : left.eval range bindings with
        | error error => rfl
        | ok leftValue =>
            cases rightOk : right.eval range bindings with
            | error error => rfl
            | ok rightValue =>
                exact operator.applyIn_eq_apply exact rangeExact (leftInside leftOk)
                  (rightInside rightOk)

end Expr
end

namespace Expr

variable {numbers : CheckedArithmetic} {bindings : Bindings} {expr : Expr}

/-- Any type of numbers with the integers of so many bits and with exact operations evaluates as the
range does. -/
theorem evalIn_eq_eval_signed
    {bits : Nat}
    (twoBits : 2 ≤ bits)
    (exact : numbers.ExactIn (.signed bits))
    (within : expr.Within (.signed bits) bindings) :
    expr.evalIn numbers bindings = expr.eval (.signed bits) bindings := by
  have two := IntegerRange.two_le_bound twoBits
  have zeroInside : (IntegerRange.signed bits).contains 0 = true :=
    (IntegerRange.contains_signed_iff bits 0).mpr (by omega)
  exact evalIn_eq_eval exact (IntegerRange.signed_exactIn twoBits) zeroInside within

/-- Any type of numbers with all integers and with exact operations evaluates as the range of all
integers does. -/
theorem evalIn_eq_eval_unbounded (exact : numbers.ExactIn .unbounded) :
    expr.evalIn numbers bindings = expr.eval .unbounded bindings :=
  evalIn_eq_eval exact IntegerRange.unbounded_exactIn rfl ⟨fun _ _ => rfl, fun _ _ _ => rfl⟩

end Expr
end Predictive
