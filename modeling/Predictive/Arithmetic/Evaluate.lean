import Predictive.Arithmetic.Expr
import Predictive.IntegerRange

/-!
# Evaluation

The value of an expression in a type of numbers, of which only the checked operations are used, and
in particular in a range of integers. Division truncates towards zero and the remainder has the sign
of the dividend. Operands are evaluated from left to right, except that an exponent comes before its
base.
-/

namespace Predictive

/-- The values of variables; the first of several values of a variable counts. -/
abbrev Bindings := List (String × Int)

namespace Bindings

/-- The bindings by some pairs, of which a later one replaces an earlier one. -/
def ofPairs (pairs : List (String × Int)) : Bindings :=
  pairs.reverse

/-- The value of a variable. -/
def value? (bindings : Bindings) (name : String) : Option Int :=
  bindings.lookup name

end Bindings

/-- Why an expression has no value. -/
inductive EvalError where
  | unboundVariable (name : String)
  | divisionByZero
  | overflow
  | negativeExponent
deriving DecidableEq

namespace EvalError

/-- The text that reports the error. -/
def message : EvalError → String
  | unboundVariable name => "the variable \x60" ++ name ++ "\x60 is not bound"
  | divisionByZero => "division by zero"
  | overflow => "arithmetic overflow"
  | negativeExponent => "negative exponent"

end EvalError

/-- The result of an operation, or an overflow if it has none. -/
def orOverflow : Option Int → Except EvalError Int
  | some value => .ok value
  | none => .error .overflow

/-- The greatest exponent for which a power is computed. -/
def maxExponent : Nat := Nat.pow 2 64 - 1

/-- An exponent as a natural number. -/
def checkExponent (exponent : Int) : Except EvalError Nat :=
  if exponent < 0 then .error .negativeExponent
  else if (maxExponent : Int) < exponent then .error .overflow
  else .ok exponent.toNat

/-! ## Types of numbers -/

/-- The checked operations of a type of numbers, on the integers that it can hold. An operation
whose result it cannot hold has none. -/
structure CheckedArithmetic where
  /-- The sum. -/
  add? : Int → Int → Option Int
  /-- The difference. -/
  sub? : Int → Int → Option Int
  /-- The product. -/
  mul? : Int → Int → Option Int
  /-- The quotient by a divisor other than zero, truncated towards zero. -/
  div? : Int → Int → Option Int
  /-- The power. -/
  pow? : Int → Nat → Option Int

namespace CheckedArithmetic

/-- The quotient, or the error that there is none. -/
def divide (numbers : CheckedArithmetic) (dividend divisor : Int) : Except EvalError Int :=
  if divisor = 0 then .error .divisionByZero else orOverflow (numbers.div? dividend divisor)

/-- The remainder, computed from the quotient, which the type must be able to hold too. -/
def remainder (numbers : CheckedArithmetic) (dividend divisor : Int) : Except EvalError Int := do
  let quotient ← numbers.divide dividend divisor
  let product ← orOverflow (numbers.mul? quotient divisor)
  orOverflow (numbers.sub? dividend product)

/-- The power, or an overflow. -/
def power (numbers : CheckedArithmetic) (base : Int) (exponent : Nat) : Except EvalError Int :=
  orOverflow (numbers.pow? base exponent)

end CheckedArithmetic

/-- The result of an operator on two values of a type of numbers. -/
def BinaryOperator.applyIn
    (operator : BinaryOperator)
    (numbers : CheckedArithmetic)
    (left right : Int) :
    Except EvalError Int :=
  match operator with
  | add => orOverflow (numbers.add? left right)
  | sub => orOverflow (numbers.sub? left right)
  | mul => orOverflow (numbers.mul? left right)
  | div => numbers.divide left right
  | rem => numbers.remainder left right
  | pow => do numbers.power left (← checkExponent right)

/-- The value of an expression in a type of numbers. -/
def Expr.evalIn
    (numbers : CheckedArithmetic)
    (bindings : Bindings) :
    Expr → Except EvalError Int
  | int value => .ok value
  | var name =>
      match bindings.value? name with
      | some value => .ok value
      | none => .error (.unboundVariable name)
  | neg operand => do orOverflow (numbers.sub? 0 (← operand.evalIn numbers bindings))
  | binary .pow left right => do
      let exponent ← checkExponent (← right.evalIn numbers bindings)
      numbers.power (← left.evalIn numbers bindings) exponent
  | binary operator left right => do
      let leftValue ← left.evalIn numbers bindings
      let rightValue ← right.evalIn numbers bindings
      operator.applyIn numbers leftValue rightValue

/-! ## Ranges of integers -/

namespace IntegerRange

/-- The integer, or an overflow if the range does not hold it. -/
def check (range : IntegerRange) (value : Int) : Except EvalError Int :=
  orOverflow (range.fit? value)

/-- A power by repeated squaring, where `rounds` is at least the number of bits of the
exponent. All intermediate powers must lie in the range. -/
def powerIn? (range : IntegerRange) : (rounds : Nat) → Int → Nat → Option Int
  | 0, _, _ => some 1
  | rounds + 1, base, exponent =>
      if exponent = 0 then some 1
      else if exponent = 1 then some base
      else do
        let square ← range.fit? (base * base)
        let power ← powerIn? range rounds square (exponent / 2)
        if exponent % 2 = 0 then some power else range.fit? (power * base)

/-- The integers of the range as a type of numbers. -/
def arithmetic (range : IntegerRange) : CheckedArithmetic where
  add? left right := range.fit? (left + right)
  sub? left right := range.fit? (left - right)
  mul? left right := range.fit? (left * right)
  div? dividend divisor := range.fit? (dividend.tdiv divisor)
  pow? base exponent := range.powerIn? (exponent.log2 + 1) base exponent

/-- The quotient in the range. -/
def divide (range : IntegerRange) : Int → Int → Except EvalError Int :=
  range.arithmetic.divide

/-- The remainder in the range. -/
def remainder (range : IntegerRange) : Int → Int → Except EvalError Int :=
  range.arithmetic.remainder

/-- The power in the range. -/
def power (range : IntegerRange) : Int → Nat → Except EvalError Int :=
  range.arithmetic.power

theorem divide_eq (range : IntegerRange) (dividend divisor : Int) :
    range.divide dividend divisor =
      if divisor = 0 then .error .divisionByZero else range.check (dividend.tdiv divisor) := rfl

theorem remainder_eq (range : IntegerRange) (dividend divisor : Int) :
    range.remainder dividend divisor = (do
      let quotient ← range.divide dividend divisor
      let product ← range.check (quotient * divisor)
      range.check (dividend - product)) := rfl

theorem power_eq (range : IntegerRange) (base : Int) (exponent : Nat) :
    range.power base exponent =
      orOverflow (range.powerIn? (exponent.log2 + 1) base exponent) := rfl

end IntegerRange

namespace BinaryOperator

/-- The result of an operator on two values in a range. -/
def apply (operator : BinaryOperator) (range : IntegerRange) : Int → Int → Except EvalError Int :=
  operator.applyIn range.arithmetic

theorem apply_div (range : IntegerRange) (left right : Int) :
    div.apply range left right = range.divide left right := rfl

theorem apply_rem (range : IntegerRange) (left right : Int) :
    rem.apply range left right = range.remainder left right := rfl

theorem apply_pow (range : IntegerRange) (left right : Int) :
    pow.apply range left right = (do range.power left (← checkExponent right)) := rfl

end BinaryOperator

namespace Expr

/-- The value of an expression in a range of integers. -/
def eval (range : IntegerRange) (bindings : Bindings) : Expr → Except EvalError Int :=
  evalIn range.arithmetic bindings

@[simp] theorem eval_int (range : IntegerRange) (bindings : Bindings) (value : Int) :
    (int value).eval range bindings = .ok value := rfl

theorem eval_var (range : IntegerRange) (bindings : Bindings) (name : String) :
    (var name).eval range bindings =
      match bindings.value? name with
      | some value => .ok value
      | none => .error (.unboundVariable name) := rfl

example : (binary .rem (int (-7)) (int 3)).eval (.signed 64) [] = .ok (-1) := rfl
example : (binary .pow (int 2) (int 64)).eval (.signed 64) [] = .error .overflow := rfl
example : (binary .pow (int (-2)) (int 63)).eval (.signed 64) [] = .ok (-2 ^ 63) := rfl

end Expr
end Predictive
