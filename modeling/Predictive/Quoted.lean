import Predictive.Unicode.Printable

/-!
# Quoted characters and texts

A quoted text stands between delimiters, with its delimiter, the backslash and every
character that would not show on its own written as an escape. Escapes of control
characters are short where a letter is customary and hexadecimal otherwise.
-/

namespace Predictive
namespace Quoted

/-- The escape of a character by its code point, such as `\u{301}`. -/
def codePoint (c : Char) : List Char :=
  '\\' :: 'u' :: '\x7b' :: Nat.toDigits 16 c.toNat ++ ['\x7d']

/-- The written form of a character between two delimiters. -/
def escape (delimiter c : Char) : List Char :=
  if c = '\x00' then ['\\', '0']
  else if c = '\t' then ['\\', 't']
  else if c = '\r' then ['\\', 'r']
  else if c = '\n' then ['\\', 'n']
  else if c = delimiter || c = '\\' then ['\\', c]
  else if Unicode.isCombining c || !Unicode.isPrintable c then codePoint c
  else [c]

/-- The characters between two delimiters. -/
def between (delimiter : Char) (chars : List Char) : String :=
  String.ofList (delimiter :: chars.flatMap (escape delimiter) ++ [delimiter])

/-- A character in single quotes. -/
def char (c : Char) : String :=
  between '\'' [c]

/-- A text in double quotes. -/
def string (text : String) : String :=
  between '"' text.toList

/-- A character in double quotes, as messages name the characters of a text. -/
def letter (c : Char) : String :=
  between '"' [c]

theorem letter_eq_string (c : Char) : letter c = string (String.singleton c) := by
  simp [letter, string]

theorem escape_plain
    {delimiter c : Char}
    (notControl : c ≠ '\x00' ∧ c ≠ '\t' ∧ c ≠ '\r' ∧ c ≠ '\n')
    (notMark : c ≠ delimiter ∧ c ≠ '\\')
    (shows : Unicode.isCombining c = false ∧ Unicode.isPrintable c = true) :
    escape delimiter c = [c] := by
  simp [escape, notControl, notMark, shows]

end Quoted
end Predictive
