/-!
# Decimal numbers as floats

A decimal number is read as the float nearest to it, where a tie goes to the even
neighbour. The number is taken as a fraction of two natural numbers, so that every step
before the last is exact.
-/

namespace Predictive

/-- The nearest natural number to a quotient; a tie goes to the even neighbour. -/
def roundDiv (numerator denominator : Nat) : Nat :=
  let quotient := numerator / denominator
  let twice := 2 * (numerator % denominator)
  if twice < denominator then quotient
  else if denominator < twice then quotient + 1
  else if quotient % 2 = 0 then quotient
  else quotient + 1

/-- The integer `e` for which a positive quotient lies between `2 ^ e` and `2 ^ (e + 1)`. -/
def floorLog2 (numerator denominator : Nat) : Int :=
  let guess : Int := (numerator.log2 : Int) - (denominator.log2 : Int)
  let reached :=
    if 0 ≤ guess then denominator * Nat.pow 2 guess.toNat ≤ numerator
    else denominator ≤ numerator * Nat.pow 2 (-guess).toNat
  if reached then guess else guess - 1

/-- The bits of infinity, which are greater than those of every finite positive float. -/
def infinityBits : Nat := 0x7FF * Nat.pow 2 52

/-- The bits of the float nearest to a positive quotient. The significand is rounded at the
last place of the binade, or at the last place of all floats if the quotient is tiny; the
bits follow from it in one formula, since they count the floats from zero upwards. -/
def nearestBits (numerator denominator : Nat) : Nat :=
  let place : Int := max (floorLog2 numerator denominator - 52) (-1074)
  let significand :=
    if 0 ≤ place then roundDiv numerator (denominator * Nat.pow 2 place.toNat)
    else roundDiv (numerator * Nat.pow 2 (-place).toNat) denominator
  min ((place + 1074).toNat * Nat.pow 2 52 + significand) infinityBits

/-- The number `digits * 10 ^ exponent`. -/
structure Decimal where
  digits : Nat
  exponent : Int
deriving DecidableEq

namespace Decimal

/-- The float nearest to the number. Numbers far beyond the range of floats are not computed:
they are infinite from `10 ^ 400` on and zero below `10 ^ -400`. -/
def toFloat (number : Decimal) : Float :=
  let bits :=
    if number.digits = 0 then 0
    else if 400 < number.exponent then infinityBits
    else if number.exponent + number.digits.log2 + 1 < -400 then 0
    else if 0 ≤ number.exponent then
      nearestBits (number.digits * Nat.pow 10 number.exponent.toNat) 1
    else nearestBits number.digits (Nat.pow 10 (-number.exponent).toNat)
  Float.ofBits (UInt64.ofNat bits)

example : toFloat ⟨1, -1⟩ = 0.1 := by decide +kernel
example : toFloat ⟨9007199254740993, 0⟩ = 9007199254740992 := by decide +kernel
example : (toFloat ⟨5, -324⟩).toBits = 1 := by decide +kernel
example : (toFloat ⟨24, -325⟩).toBits = 0 := by decide +kernel
example : (toFloat ⟨17976931348623159, 292⟩).toBits = 0x7FF0000000000000 := by decide +kernel

end Decimal
end Predictive
