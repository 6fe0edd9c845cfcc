import Mathlib.Algebra.Order.Ring.Abs
import Mathlib.Algebra.Order.Ring.Int
import Mathlib.Tactic.Linarith
import Predictive.Arithmetic.Evaluate

/-!
# Evaluation in a range and in all integers

Every result of an operation in a range is checked against the range, and where the check fails the
evaluation ends with an overflow. So an evaluation in a range either overflows or is the evaluation
in all integers, step by step: with the same value, or with the same error.
-/

namespace Predictive

/-- The computation overflows, or it is the other one. -/
def OverflowsOr {α : Type} (result other : Except EvalError α) : Prop :=
  result = .error .overflow ∨ result = other

namespace OverflowsOr

variable {α β : Type} {result other : Except EvalError α}

theorem refl (result : Except EvalError α) : OverflowsOr result result :=
  .inr rfl

/-- Computations that go on from the same value may each overflow by themselves. -/
theorem bind
    {following otherFollowing : α → Except EvalError β}
    (first : OverflowsOr result other)
    (followings : ∀ value, OverflowsOr (following value) (otherFollowing value)) :
    OverflowsOr (result >>= following) (other >>= otherFollowing) := by
  rcases first with rfl | rfl
  · exact .inl rfl
  · cases result with
    | error error => exact .inr rfl
    | ok value => exact followings value

/-- A result within the range is the one without bounds. -/
theorem eq_ok {value : α} (related : OverflowsOr result other) (isOk : result = .ok value) :
    other = .ok value := by
  rcases related with overflow | same
  · simp [overflow] at isOk
  · rw [← same, isOk]

/-- An error other than overflow is the one without bounds. -/
theorem eq_error
    {error : EvalError}
    (related : OverflowsOr result other)
    (isError : result = .error error)
    (noOverflow : error ≠ .overflow) :
    other = .error error := by
  rcases related with overflow | same
  · rw [overflow, Except.error.injEq] at isError
    exact absurd isError.symm noOverflow
  · rw [← same, isError]

end OverflowsOr

namespace IntegerRange

/-- A range holds a value or has none for it. -/
theorem fit?_eq_none_or (range : IntegerRange) (value : Int) :
    range.fit? value = none ∨ range.fit? value = some value := by
  unfold fit?
  split
  · exact .inr rfl
  · exact .inl rfl

/-- A value is checked against the range, or it is the value without bounds. -/
theorem check_overflowsOr (range : IntegerRange) (value : Int) :
    OverflowsOr (range.check value) (unbounded.check value) := by
  rcases range.fit?_eq_none_or value with outside | inside
  · exact .inl (by rw [check, outside]; rfl)
  · exact .inr (by rw [check, check, inside, fit?_unbounded])

/-- Only the quotient may overflow. -/
theorem divide_overflowsOr (range : IntegerRange) (dividend divisor : Int) :
    OverflowsOr (range.divide dividend divisor) (unbounded.divide dividend divisor) := by
  rw [divide_eq, divide_eq]
  split
  · exact .refl _
  · exact range.check_overflowsOr _

/-- Only the quotient that the remainder goes with may overflow. -/
theorem remainder_overflowsOr (range : IntegerRange) (dividend divisor : Int) :
    OverflowsOr (range.remainder dividend divisor) (unbounded.remainder dividend divisor) :=
  (range.divide_overflowsOr dividend divisor).bind fun quotient =>
    (range.check_overflowsOr (quotient * divisor)).bind fun product =>
      range.check_overflowsOr (dividend - product)

/-- A power is computed from the same squares in a range, as long as they fit. -/
theorem powerIn?_eq_none_or (range : IntegerRange) (rounds : Nat) (base : Int) (exponent : Nat) :
    range.powerIn? rounds base exponent = none ∨
      range.powerIn? rounds base exponent = unbounded.powerIn? rounds base exponent := by
  induction rounds generalizing base exponent with
  | zero => exact .inr rfl
  | succ rounds ih =>
      unfold powerIn?
      split
      · exact .inr rfl
      split
      · exact .inr rfl
      rcases range.fit?_eq_none_or (base * base) with outside | inside
      · exact .inl (by rw [outside]; rfl)
      simp only [inside, fit?_unbounded, Option.bind_eq_bind, Option.bind_some]
      rcases ih (base * base) (exponent / 2) with none | same
      · exact .inl (by rw [none]; rfl)
      rw [same]
      cases unbounded.powerIn? rounds (base * base) (exponent / 2) with
      | none => exact .inl rfl
      | some power =>
          rw [Option.bind_some]
          split
          · exact .inr rfl
          · exact range.fit?_eq_none_or (power * base)

/-- A power overflows in its steps, or it is the power without bounds. -/
theorem power_overflowsOr (range : IntegerRange) (base : Int) (exponent : Nat) :
    OverflowsOr (range.power base exponent) (unbounded.power base exponent) := by
  rcases range.powerIn?_eq_none_or (exponent.log2 + 1) base exponent with none | same
  · exact .inl (by rw [power_eq, none]; rfl)
  · exact .inr (by rw [power_eq, power_eq, same])

/-- A power from the square of its base, by the parity of the exponent. -/
theorem pow_eq_of_squares (base : Int) (exponent : Nat) :
    base ^ exponent =
      if exponent % 2 = 0 then (base * base) ^ (exponent / 2)
      else (base * base) ^ (exponent / 2) * base := by
  rw [← pow_two, ← pow_mul, ← pow_succ]
  split
  · rename_i even
    rw [Nat.mul_div_cancel' (Nat.dvd_of_mod_eq_zero even)]
  · rw [show 2 * (exponent / 2) + 1 = exponent by omega]

/-- Repeated squaring computes powers. -/
theorem powerIn?_unbounded
    {rounds exponent : Nat}
    (enough : exponent < 2 ^ rounds)
    (base : Int) :
    unbounded.powerIn? rounds base exponent = some (base ^ exponent) := by
  induction rounds generalizing base exponent with
  | zero =>
      obtain rfl : exponent = 0 := by simpa using enough
      rw [pow_zero, powerIn?]
  | succ rounds ih =>
      unfold powerIn?
      split
      · rename_i isZero
        rw [isZero, pow_zero]
      split
      · rename_i isOne
        rw [isOne, pow_one]
      have half : exponent / 2 < 2 ^ rounds := by
        rw [pow_succ] at enough
        omega
      rw [fit?_unbounded, Option.bind_eq_bind, Option.bind_some, ih half, Option.bind_some,
        pow_eq_of_squares base exponent, fit?_unbounded]
      split <;> rfl

/-- In all integers a power is the power. -/
theorem power_unbounded (base : Int) (exponent : Nat) :
    unbounded.power base exponent = .ok (base ^ exponent) := by
  rw [power_eq, powerIn?_unbounded Nat.lt_log2_self]
  rfl

/-! ## Powers that do not fit -/

/-- The values of a signed number type are those between its bounds. -/
theorem fit?_signed_eq_none_iff (bits : Nat) (value : Int) :
    (signed bits).fit? value = none ↔
      value < -Int.pow 2 (bits - 1) ∨ Int.pow 2 (bits - 1) ≤ value := by
  have inside := contains_signed_iff bits value
  rw [fit?, ite_eq_right_iff]
  simp only [reduceCtorEq, imp_false, inside]
  omega

/-- A natural number that does not fit is not below the upper bound. -/
theorem le_of_fit?_signed_eq_none
    {bits : Nat}
    {value : Int}
    (nonneg : 0 ≤ value)
    (outside : (signed bits).fit? value = none) :
    Int.pow 2 (bits - 1) ≤ value := by
  have positive : 0 < Int.pow 2 (bits - 1) := Int.pow_pos (by decide)
  rcases (fit?_signed_eq_none_iff bits value).mp outside with below | above <;> omega

/-- There is room for two with two bits. -/
theorem two_le_bound {bits : Nat} (twoBits : 2 ≤ bits) : 2 ≤ Int.pow 2 (bits - 1) := by
  obtain ⟨more, rfl⟩ := Nat.exists_eq_add_of_le' twoBits
  have : 0 < (2 : Int) ^ more := pow_pos (by decide) more
  rw [Int.pow_eq, show more + 2 - 1 = more + 1 by omega, pow_succ]
  omega

/-- What is too large stays so if it is multiplied by anything but one and zero. -/
theorem fit?_signed_mul_eq_none
    {bits : Nat}
    {power base : Int}
    (large : Int.pow 2 (bits - 1) ≤ power)
    (notSmall : 2 ≤ |base|) :
    (signed bits).fit? (power * base) = none := by
  have positive : 0 < Int.pow 2 (bits - 1) := Int.pow_pos (by decide)
  rw [fit?_signed_eq_none_iff]
  rcases le_abs.mp notSmall with above | below
  · exact .inr (by nlinarith)
  · exact .inl (by nlinarith)

/-- Once the powers of the square are too large, so are those of the base. -/
theorem fit?_signed_pow_eq_none
    {bits exponent : Nat}
    {base : Int}
    (twoBits : 2 ≤ bits)
    (large : Int.pow 2 (bits - 1) ≤ (base * base) ^ (exponent / 2)) :
    (signed bits).fit? (base ^ exponent) = none := by
  have two := two_le_bound twoBits
  rw [pow_eq_of_squares]
  split
  · exact (fit?_signed_eq_none_iff bits _).mpr (.inr large)
  · refine fit?_signed_mul_eq_none large ?_
    by_contra small
    have bounded : base * base ≤ 1 := by
      rw [← abs_mul_abs_self]
      nlinarith [abs_nonneg base]
    have := pow_le_one₀ (mul_self_nonneg base) bounded (n := exponent / 2)
    omega

/-- With at least two bits, squaring runs out of the range only if the power itself does. -/
theorem powerIn?_signed
    {bits rounds exponent : Nat}
    {base : Int}
    (twoBits : 2 ≤ bits)
    (enough : exponent < 2 ^ rounds)
    (inside : (signed bits).contains base = true) :
    (signed bits).powerIn? rounds base exponent = (signed bits).fit? (base ^ exponent) := by
  have two := two_le_bound twoBits
  induction rounds generalizing base exponent with
  | zero =>
      obtain rfl : exponent = 0 := by simpa using enough
      have one : (signed bits).contains 1 = true := (contains_signed_iff bits 1).mpr (by omega)
      rw [pow_zero, powerIn?, fit?, if_pos one]
  | succ rounds ih =>
      unfold powerIn?
      split
      · rename_i isZero
        have one : (signed bits).contains 1 = true := (contains_signed_iff bits 1).mpr (by omega)
        rw [isZero, pow_zero, fit?, if_pos one]
      split
      · rename_i isOne
        rw [isOne, pow_one, fit?, if_pos inside]
      have half : exponent / 2 < 2 ^ rounds := by
        rw [pow_succ] at enough
        omega
      rcases (signed bits).fit?_eq_none_or (base * base) with outside | fits
      · have large := le_of_fit?_signed_eq_none (mul_self_nonneg base) outside
        have larger := le_self_pow₀ (show 1 ≤ base * base by omega)
          (show exponent / 2 ≠ 0 by omega)
        rw [outside, fit?_signed_pow_eq_none twoBits (large.trans larger)]
        rfl
      have squareInside := ((fit?_eq_some_iff _ _ _).mp fits).1
      rw [fits, Option.bind_eq_bind, Option.bind_some, ih half squareInside]
      rcases (signed bits).fit?_eq_none_or ((base * base) ^ (exponent / 2)) with outside | fits
      · have large := le_of_fit?_signed_eq_none
          (pow_nonneg (mul_self_nonneg base) (exponent / 2)) outside
        rw [outside, fit?_signed_pow_eq_none twoBits large]
        rfl
      · rw [fits, Option.bind_some, pow_eq_of_squares base exponent]
        split
        · exact fits.symm
        · rfl

/-- With at least two bits, a power overflows only if it does not fit. -/
theorem power_signed
    {bits : Nat}
    {base : Int}
    (twoBits : 2 ≤ bits)
    (inside : (signed bits).contains base = true)
    (exponent : Nat) :
    (signed bits).power base exponent = (signed bits).check (base ^ exponent) := by
  rw [power_eq, check, powerIn?_signed twoBits Nat.lt_log2_self inside]

end IntegerRange

namespace BinaryOperator

/-- An operator overflows, or it gives its result without bounds. -/
theorem apply_overflowsOr
    (operator : BinaryOperator)
    (range : IntegerRange)
    (left right : Int) :
    OverflowsOr (operator.apply range left right) (operator.apply .unbounded left right) := by
  cases operator with
  | add => exact range.check_overflowsOr (left + right)
  | sub => exact range.check_overflowsOr (left - right)
  | mul => exact range.check_overflowsOr (left * right)
  | div => exact range.divide_overflowsOr left right
  | rem => exact range.remainder_overflowsOr left right
  | pow =>
      exact OverflowsOr.bind (.refl (checkExponent right)) fun exponent =>
        range.power_overflowsOr left exponent

end BinaryOperator

namespace Expr

/-- An exponent is evaluated and checked before its base, in any type of numbers. -/
theorem evalIn_pow
    (numbers : CheckedArithmetic)
    (bindings : Bindings)
    (left right : Expr) :
    (binary .pow left right).evalIn numbers bindings =
      right.evalIn numbers bindings >>= fun value => checkExponent value >>= fun exponent =>
        left.evalIn numbers bindings >>= fun base => numbers.power base exponent := rfl

/-- All other operators evaluate their operands from left to right. -/
theorem evalIn_binary
    {operator : BinaryOperator}
    (noPower : operator ≠ .pow)
    (numbers : CheckedArithmetic)
    (bindings : Bindings)
    (left right : Expr) :
    (binary operator left right).evalIn numbers bindings =
      left.evalIn numbers bindings >>= fun leftValue => right.evalIn numbers bindings >>=
        fun rightValue => operator.applyIn numbers leftValue rightValue := by
  cases operator <;> first | rfl | contradiction

/-- The exponent is evaluated before the base, and checked in between. -/
theorem eval_pow (range : IntegerRange) (bindings : Bindings) (left right : Expr) :
    (binary .pow left right).eval range bindings =
      right.eval range bindings >>= fun value => checkExponent value >>= fun exponent =>
        left.eval range bindings >>= fun base => range.power base exponent := rfl

/-- All other operators evaluate their operands from the left. -/
theorem eval_binary
    {operator : BinaryOperator}
    (noPower : operator ≠ .pow)
    (range : IntegerRange)
    (bindings : Bindings)
    (left right : Expr) :
    (binary operator left right).eval range bindings =
      left.eval range bindings >>= fun leftValue => right.eval range bindings >>=
        fun rightValue => operator.apply range leftValue rightValue :=
  evalIn_binary noPower range.arithmetic bindings left right

/-- An expression overflows in a range, or it has the value or the error that it has in all
integers. -/
theorem eval_overflowsOr (range : IntegerRange) (bindings : Bindings) (expr : Expr) :
    OverflowsOr (expr.eval range bindings) (expr.eval .unbounded bindings) := by
  induction expr with
  | int value => exact .refl _
  | var name => exact .refl _
  | neg operand ih => exact ih.bind fun value => range.check_overflowsOr (0 - value)
  | binary operator left right leftIh rightIh =>
      by_cases isPower : operator = .pow
      · subst isPower
        rw [eval_pow, eval_pow]
        exact rightIh.bind fun value => OverflowsOr.bind (.refl (checkExponent value))
          fun exponent => leftIh.bind fun base => range.power_overflowsOr base exponent
      · rw [eval_binary isPower, eval_binary isPower]
        exact leftIh.bind fun leftValue => rightIh.bind fun rightValue =>
          operator.apply_overflowsOr range leftValue rightValue

end Expr
end Predictive
