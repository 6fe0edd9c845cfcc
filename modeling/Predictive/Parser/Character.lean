import Predictive.Parser.Repeat
import Predictive.Parser.Token
import Predictive.Unicode.CaseMapping
import Predictive.Unicode.Letter

/-!
# Parsers for characters

Parsers over any stream of characters. Letters, case and white space follow the Unicode
properties; digits are ASCII digits. Messages show a character as a one-letter text.
-/

namespace Predictive

/-- Whether the character is a digit of base eight. -/
def isOctalDigit (c : Char) : Bool :=
  '0' ≤ c && c ≤ '7'

/-- Whether the character is a digit of base sixteen, in either case. -/
def isHexDigit (c : Char) : Bool :=
  c.isDigit || ('a' ≤ c && c ≤ 'f') || ('A' ≤ c && c ≤ 'F')

namespace Parser

variable {σ υ : Type} [TokenStream σ Char]

/-- Accept a character that satisfies a predicate. -/
def satisfy (predicate : Char → Bool) : Parser σ υ Char :=
  token Quoted.letter (fun position c _ => position.afterChar c)
    fun c => if predicate c then some c else none

/-- Accept a certain character. -/
def char (wanted : Char) : Parser σ υ Char :=
  (satisfy fun c => c == wanted).label (Quoted.letter wanted)

/-- Accept a character of a set. -/
def oneOf (set : String) : Parser σ υ Char :=
  satisfy fun c => set.toList.contains c

/-- Accept a character outside a set. -/
def noneOf (set : String) : Parser σ υ Char :=
  satisfy fun c => !set.toList.contains c

/-- Accept a text. It counts as consumed as soon as its first character is there. -/
def string (text : String) : Parser σ υ String :=
  (tokens (fun chars => Quoted.between '"' chars) Position.afterChars text.toList).map
    String.ofList

/-- Accept any character. -/
def anyChar : Parser σ υ Char :=
  satisfy fun _ => true

/-- Accept a white space character. -/
def space : Parser σ υ Char :=
  (satisfy Unicode.isWhiteSpace).label "space"

/-- Skip white space. -/
def spaces : Parser σ υ Unit :=
  space.skipMany.label "white space"

/-- Skip white space of at least one character. -/
def spaces1 : Parser σ υ Unit :=
  space.skipMany1.label "white space"

/-- Accept a line feed. -/
def newline : Parser σ υ Char :=
  (char '\n').label "lf new-line"

/-- Accept a carriage return and a line feed; the value is the line feed. -/
def crlf : Parser σ υ Char :=
  ((char '\r').keepRight (char '\n')).label "crlf new-line"

/-- Accept either end of a line; the value is a line feed. -/
def endOfLine : Parser σ υ Char :=
  (newline.orElse crlf).label "new-line"

/-- Accept a tab. -/
def tab : Parser σ υ Char :=
  (char '\t').label "tab"

/-- Accept a capital letter. -/
def upper : Parser σ υ Char :=
  (satisfy Unicode.isUppercase).label "uppercase letter"

/-- Accept a small letter. -/
def lower : Parser σ υ Char :=
  (satisfy Unicode.isLowercase).label "lowercase letter"

/-- Accept a letter. -/
def letter : Parser σ υ Char :=
  (satisfy Unicode.isAlphabetic).label "letter"

/-- Accept a letter or a number. -/
def letterOrDigit : Parser σ υ Char :=
  (satisfy Unicode.isAlphanumeric).label "letter or digit"

/-- Accept a decimal digit. -/
def digit : Parser σ υ Char :=
  (satisfy Char.isDigit).label "digit"

/-- Accept a hexadecimal digit. -/
def hexDigit : Parser σ υ Char :=
  (satisfy isHexDigit).label "hexadecimal digit"

/-- Accept an octal digit. -/
def octalDigit : Parser σ υ Char :=
  (satisfy isOctalDigit).label "octal digit"

end Parser
end Predictive
