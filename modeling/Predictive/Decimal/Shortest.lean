import Predictive.Decimal.Rounding

/-!
# The shortest text of a float

A float is written with the fewest digits that read back as the same float, and of those
with the digits nearest to it; a tie between two such numbers goes up. From `10 ^ -4` up
to below `10 ^ 16` the number is written out with at least one digit after the point, and
with an exponent otherwise.
-/

namespace Predictive

/-- The real numbers that round to a float, as fractions over a common denominator, with
the float itself among them. -/
structure RoundingInterval where
  least : Nat
  value : Nat
  greatest : Nat
  denominator : Nat
  /-- Whether the two ends round to the float as well. -/
  closed : Bool

namespace RoundingInterval

/-- The interval of the positive finite float with the given bits. Below a power of two the
floats are twice as dense as above it. -/
def ofBits (bits : Nat) : RoundingInterval :=
  let binade := bits / Nat.pow 2 52
  let fraction := bits % Nat.pow 2 52
  let significand := if binade = 0 then fraction else fraction + Nat.pow 2 52
  let below := if fraction = 0 && 1 < binade then 1 else 2
  let place : Int := (max binade 1 : Nat) - 1077
  let unit := Nat.pow 2 place.toNat
  { least := (4 * significand - below) * unit
    value := 4 * significand * unit
    greatest := (4 * significand + 2) * unit
    denominator := Nat.pow 2 (-place).toNat
    closed := significand % 2 = 0 }

/-- Whether the number `digits * step / scale` reads back as the float. -/
def holds (interval : RoundingInterval) (digits step scale : Nat) : Bool :=
  let point := digits * step * interval.denominator
  if interval.closed then interval.least * scale ≤ point && point ≤ interval.greatest * scale
  else interval.least * scale < point && point < interval.greatest * scale

/-- The number of digits before the decimal point; zeros after the point count negative. -/
def pointPlace (interval : RoundingInterval) : Int :=
  (Nat.toDigits 10 (interval.value * Nat.pow 10 400 / interval.denominator)).length - 400

/-- The better of the two multiples of `10 ^ exponent` around the float, if one of them reads
back as the float. -/
def onGrid? (interval : RoundingInterval) (exponent : Int) : Option Decimal :=
  let step := Nat.pow 10 exponent.toNat
  let scale := Nat.pow 10 (-exponent).toNat
  let lower := interval.value * scale / (interval.denominator * step)
  let rest := interval.value * scale - lower * step * interval.denominator
  match interval.holds lower step scale, interval.holds (lower + 1) step scale with
  | true, true =>
      some ⟨if 2 * rest < step * interval.denominator then lower else lower + 1, exponent⟩
  | true, false => some ⟨lower, exponent⟩
  | false, true => some ⟨lower + 1, exponent⟩
  | false, false => none

/-- The number with the fewest digits that reads back as the float. Seventeen digits always do. -/
def shortest (interval : RoundingInterval) : Decimal :=
  let place := interval.pointPlace
  let grids := (List.range 17).filterMap fun count => interval.onGrid? (place - (count + 1 : Nat))
  grids.head?.getD ⟨0, 0⟩

end RoundingInterval

/-- The digits of a number without the zeros at its end. -/
def significantDigits (digits : Nat) : List Char :=
  ((Nat.toDigits 10 digits).reverse.dropWhile (· = '0')).reverse

/-- The text of a positive number: written out if its point stands close to its digits, and
with an exponent otherwise. -/
def Decimal.render (number : Decimal) : String :=
  let all := Nat.toDigits 10 number.digits
  let digits := significantDigits number.digits
  let point : Int := all.length + number.exponent
  if -3 ≤ point && point ≤ 0 then
    String.ofList ('0' :: '.' :: List.replicate (-point).toNat '0' ++ digits)
  else if 0 < point && point ≤ 16 then
    let whole := (digits ++ List.replicate (point.toNat - digits.length) '0').take point.toNat
    let fraction := digits.drop point.toNat
    String.ofList (whole ++ '.' :: if fraction.isEmpty then ['0'] else fraction)
  else
    let exponent := point - 1
    let sign := if exponent < 0 then ['-'] else []
    let fraction := digits.drop 1
    String.ofList <|
      digits.take 1 ++ (if fraction.isEmpty then [] else '.' :: fraction) ++
        'e' :: sign ++ Nat.toDigits 10 exponent.natAbs

/-- The shortest text that reads back as the float. -/
def floatText (value : Float) : String :=
  let bits := value.toBits.toNat
  let magnitude := bits % Nat.pow 2 63
  let sign := if Nat.pow 2 63 ≤ bits then "-" else ""
  if infinityBits < magnitude then "NaN"
  else if magnitude = infinityBits then sign ++ "inf"
  else if magnitude = 0 then sign ++ "0.0"
  else sign ++ (RoundingInterval.ofBits magnitude).shortest.render

example : floatText 0.1 = "0.1" := by decide +kernel
example : floatText 25 = "25.0" := by decide +kernel
example : floatText 0.00001 = "1e-5" := by decide +kernel

end Predictive
