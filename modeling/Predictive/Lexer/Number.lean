import Predictive.Decimal.Rounding
import Predictive.IntegerRange
import Predictive.Lexer.Blank

/-!
# Numbers

Integers in base ten, or in base sixteen after `0x` and in base eight after `0o`, and
floats with a fraction, an exponent or both. An integer is checked against its range
digit by digit. A float may have any number of digits, but its exponent is read only up
to a limit.
-/

namespace Predictive

/-- An integer or a float. -/
inductive Number where
  | integer (value : Int)
  | float (value : Float)
deriving DecidableEq

/-- The value of a digit in any base up to sixteen. -/
def digitValue (c : Char) : Nat :=
  if c.isDigit then c.toNat - '0'.toNat
  else if 'a' ≤ c then c.toNat - 'a'.toNat + 10
  else c.toNat - 'A'.toNat + 10

/-- The number that some digits stand for in a base. -/
def digitsValue (base : Nat) (digits : List Char) : Nat :=
  digits.foldl (fun value c => value * base + digitValue c) 0

/-- The same number put together from halves of the digits, down to some depth. This takes a
few products of large numbers in place of one product for each digit. -/
def digitsValueByHalves (base : Nat) : (depth : Nat) → List Char → Nat
  | 0, digits => digitsValue base digits
  | depth + 1, digits =>
      let front := digits.take (digits.length / 2)
      let back := digits.drop (digits.length / 2)
      digitsValueByHalves base depth front * Nat.pow base back.length +
        digitsValueByHalves base depth back

/-- The number that any amount of digits stands for in a base. -/
def longDigitsValue (base : Nat) (digits : List Char) : Nat :=
  digitsValueByHalves base (digits.length / 32).log2 digits

/-- Digits after others multiply them by a power of the base. -/
theorem digitsValue_append (base : Nat) (front back : List Char) :
    digitsValue base (front ++ back) =
      digitsValue base front * Nat.pow base back.length + digitsValue base back := by
  have shifted : ∀ (digits : List Char) (start : Nat),
      digits.foldl (fun value c => value * base + digitValue c) start =
        start * Nat.pow base digits.length + digitsValue base digits := by
    intro digits
    induction digits with
    | nil => simp [digitsValue]
    | cons c digits ih =>
        intro start
        have step := ih (start * base + digitValue c)
        have first := ih (0 * base + digitValue c)
        simp only [digitsValue, List.foldl_cons, List.length_cons, Nat.pow_eq] at step first ⊢
        rw [step, first, Nat.pow_succ, Nat.zero_mul, Nat.zero_add, Nat.add_mul, Nat.mul_assoc,
          Nat.mul_comm base, Nat.add_assoc]
  rw [digitsValue, List.foldl_append]
  exact shifted back _

theorem digitsValueByHalves_eq (base depth : Nat) (digits : List Char) :
    digitsValueByHalves base depth digits = digitsValue base digits := by
  induction depth generalizing digits with
  | zero => rfl
  | succ depth ih =>
      rw [digitsValueByHalves, ih, ih, ← digitsValue_append, List.take_append_drop]

@[simp] theorem longDigitsValue_eq (base : Nat) (digits : List Char) :
    longDigitsValue base digits = digitsValue base digits :=
  digitsValueByHalves_eq base _ digits

/-- Digits with the base in which they count. -/
structure Digits where
  base : Nat
  chars : List Char
deriving DecidableEq

namespace Digits

/-- The natural number, or its negative, if it and all its beginnings lie in the range. -/
def inRange? (digits : Digits) (negative : Bool) (range : IntegerRange) : Option Int :=
  digits.chars.foldlM
    (fun value c => do
      let scaled ← range.fit? (value * digits.base)
      range.fit? (if negative then scaled - digitValue c else scaled + digitValue c))
    0

/-- The number as a float: in base ten the nearest one, in other bases the result of adding
digit by digit. -/
def toFloat (digits : Digits) : Float :=
  if digits.base = 10 then Decimal.toFloat ⟨longDigitsValue 10 digits.chars, 0⟩
  else
    digits.chars.foldl
      (fun value c => value * Float.ofNat digits.base + Float.ofNat (digitValue c)) 0

end Digits

/-- An exponent as it is written: whether it is negative, and its digits. -/
structure Exponent where
  negative : Bool
  digits : List Char
deriving DecidableEq

namespace Exponent

/-- Exponents from here on take up no more digits. -/
def limit : Nat := Nat.pow 2 16

/-- The number that the digits stand for, read up to the first digit that takes it to the
limit. The digits after that one do not count: a number with so large an exponent is zero or
infinite, unless it is itself written with more digits than the limit says. -/
def magnitude (exponent : Exponent) : Nat :=
  exponent.digits.foldl
    (fun value c => if value < limit then value * 10 + digitValue c else value) 0

/-- The integer that the exponent stands for. -/
def toInt (exponent : Exponent) : Int :=
  if exponent.negative then -(exponent.magnitude : Int) else exponent.magnitude

example : magnitude ⟨false, "655371".toList⟩ = 65537 := by decide +kernel

end Exponent

/-- What follows the whole part of a float: the digits after the point, and the exponent. -/
structure FloatTail where
  fraction : List Char
  exponent? : Option Exponent
deriving DecidableEq

namespace FloatTail

/-- The decimal number with the given whole part. -/
def toDecimal (tail : FloatTail) (whole : List Char) : Decimal where
  digits := longDigitsValue 10 (whole ++ tail.fraction)
  exponent := (tail.exponent?.map Exponent.toInt).getD 0 - tail.fraction.length

end FloatTail

namespace Language

variable {σ υ : Type} [TokenStream σ Char]

/-- A sign, if there is one; whether it is a minus. -/
def sign : Parser σ υ Bool :=
  (((Parser.char '-').map fun _ => true).orElse ((Parser.char '+').map fun _ => false)).orElse
    (Parser.pure false)

/-- One or more digits in base sixteen, eight or, for any other base, ten. -/
def digitsIn (base : Nat) : Parser σ υ Digits :=
  (match base with
    | 16 => Parser.hexDigit.many1
    | 8 => Parser.octalDigit.many1
    | _ => Parser.digit.many1).map fun chars => ⟨base, chars⟩

/-- Hexadecimal digits after `x`. -/
def hexDigits : Parser σ υ Digits :=
  (Parser.oneOf "xX").keepRight (digitsIn 16)

/-- Octal digits after `o`. -/
def octalDigits : Parser σ υ Digits :=
  (Parser.oneOf "oO").keepRight (digitsIn 8)

/-- The digits of a natural number, of which zero may be the mark of another base. -/
def naturalDigits : Parser σ υ Digits :=
  let afterZero := ((hexDigits.orElse octalDigits).orElse (digitsIn 10)).orElse
    (Parser.pure ⟨10, ['0']⟩)
  (((Parser.char '0').keepRight afterZero).label "").orElse (digitsIn 10)

/-- Succeed with the integer that the digits stand for, or fail if it is out of range. -/
def integerOf (range : IntegerRange) (digits : Digits) (negative : Bool) : Parser σ υ Int :=
  match digits.inRange? negative range with
  | some value => Parser.pure value
  | none => Parser.fail "integer literal is too large"

/-- The point and digits of a fraction. -/
def fraction : Parser σ υ (List Char) :=
  ((Parser.char '.').keepRight (Parser.digit.many1.label "fraction")).label "fraction"

/-- An exponent. -/
def exponent : Parser σ υ Exponent :=
  ((((Parser.oneOf "eE").keepRight (Parser.oneOf "+-").maybe).zipWith
    (Parser.digit.many1.label "exponent")) fun mark digits => ⟨mark == some '-', digits⟩).label
      "exponent"

/-- The rest of a float after its whole part: a fraction, an exponent or both. -/
def floatTail : Parser σ υ FloatTail :=
  (fraction.zipWith exponent.maybe FloatTail.mk).orElse
    (exponent.map fun found => ⟨[], some found⟩)

/-- A float without sign. -/
def unsignedFloat : Parser σ υ Float :=
  ((digitsIn 10).pair floatTail).bind fun (whole, tail) =>
    Parser.pure (tail.toDecimal whole.chars).toFloat

/-- The rest of a float after its whole part, which is given. -/
def floatAfter (whole : List Char) : Parser σ υ Number :=
  (floatTail.bind fun tail => Parser.pure (tail.toDecimal whole).toFloat).map Number.float

/-- An integer in base ten, or a float. -/
def decimalOrFloat : Parser σ υ Number :=
  (digitsIn 10).bind fun whole =>
    ((integerOf (.signed 64) whole false).map Number.integer).bind fun value =>
      (floatAfter whole.chars).withDefault value

/-- An integer in any base, or a float, without sign. -/
def unsignedNumber : Parser σ υ Number :=
  let based := (hexDigits.orElse octalDigits).bind fun digits =>
    (integerOf (.signed 64) digits false).map Number.integer
  let afterZero := ((based.orElse decimalOrFloat).orElse (floatAfter ['0'])).orElse
    (Parser.pure (.integer 0))
  ((Parser.char '0').keepRight afterZero).orElse decimalOrFloat

/-- A natural number of a range, in any base. -/
def naturalIn (language : Language σ υ) (range : IntegerRange) : Parser σ υ Int :=
  (language.lexeme (naturalDigits.bind fun digits => integerOf range digits false)).label
    "natural"

/-- A natural number of 64 bits with sign, in any base. -/
def natural (language : Language σ υ) : Parser σ υ Int :=
  language.naturalIn (.signed 64)

/-- An integer of a range, in any base and with an optional sign. White space may follow the
sign. -/
def integerIn (language : Language σ υ) (range : IntegerRange) : Parser σ υ Int :=
  (language.lexeme
    (((language.lexeme sign).pair naturalDigits).bind fun (negative, digits) =>
      integerOf range digits negative)).label "integer"

/-- An integer of 64 bits, in any base and with an optional sign. -/
def integer (language : Language σ υ) : Parser σ υ Int :=
  language.integerIn (.signed 64)

/-- A float without sign. -/
def float (language : Language σ υ) : Parser σ υ Float :=
  (language.lexeme unsignedFloat).label "float"

/-- An integer as a float, which may be of any size. -/
def integerAsFloat (language : Language σ υ) : Parser σ υ Float :=
  (language.lexeme
    (((language.lexeme sign).pair naturalDigits).map fun (negative, digits) =>
      if negative then -digits.toFloat else digits.toFloat)).label "integer"

/-- An integer or a float without sign. -/
def naturalOrFloat (language : Language σ υ) : Parser σ υ Number :=
  (language.lexeme unsignedNumber).label "number"

/-- A float, or else an integer, each with an optional sign. -/
def number (language : Language σ υ) : Parser σ υ Number :=
  let signedFloat := (((language.lexeme sign).pair unsignedFloat).map fun (negative, value) =>
    if negative then -value else value).attempt
  (((language.lexeme signedFloat).map Number.float).orElse
    (language.integer.map Number.integer)).label "number"

/-- Digits in base ten, without white space after them. -/
def decimal : Parser σ υ Int :=
  (digitsIn 10).bind fun digits => integerOf (.signed 64) digits false

/-- Digits in base sixteen after `x`, without white space after them. -/
def hexadecimal : Parser σ υ Int :=
  hexDigits.bind fun digits => integerOf (.signed 64) digits false

/-- Digits in base eight after `o`, without white space after them. -/
def octal : Parser σ υ Int :=
  octalDigits.bind fun digits => integerOf (.signed 64) digits false

end Language
end Predictive
