/-!
# Ranges of code points

A character property is a list of ranges of code points. A range has a stride,
because in the scripts with two cases capital and small letters often alternate.
-/

namespace Predictive
namespace Unicode

/-- The code points `first`, `first + stride`, … up to `last`. -/
structure CodeRange where
  first : Nat
  last : Nat
  stride : Nat
deriving DecidableEq

/-- Whether the range holds the code point. -/
def CodeRange.contains (range : CodeRange) (code : Nat) : Bool :=
  range.first ≤ code && code ≤ range.last && (code - range.first) % range.stride == 0

/-- Whether some range of the list holds the character. -/
def isIn (ranges : List CodeRange) (c : Char) : Bool :=
  ranges.any (·.contains c.toNat)

@[simp] theorem isIn_nil (c : Char) : isIn [] c = false := rfl

theorem isIn_iff
    (ranges : List CodeRange)
    (c : Char) :
    isIn ranges c = true ↔ ∃ range ∈ ranges, range.contains c.toNat = true := by
  simp [isIn]

/-- Whether a character has a property that `onAscii` decides for ASCII and `ranges` beyond. -/
def hasProperty (onAscii : Char → Bool) (ranges : List CodeRange) (c : Char) : Bool :=
  if c.toNat < 0x80 then onAscii c else isIn ranges c

/-- An ASCII character is judged without a look at the ranges. -/
theorem hasProperty_of_ascii
    {c : Char}
    (ascii : c.toNat < 0x80)
    (onAscii : Char → Bool)
    (ranges : List CodeRange) :
    hasProperty onAscii ranges c = onAscii c := by
  simp [hasProperty, ascii]

end Unicode
end Predictive
