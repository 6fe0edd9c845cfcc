import Predictive.Lexer.Number

/-!
# Character and string literals

The characters of a literal stand for themselves or are written as escapes after a
backslash: by a letter, by their code point, by the name of a control code, or by the key
of a control code after a caret. A string may also hold gaps and empty escapes, which
stand for nothing.
-/

namespace Predictive
namespace Language

/-- The escapes of one letter. -/
def letterEscapes : List (Char × Char) :=
  [('a', '\x07'), ('b', '\x08'), ('f', '\x0c'), ('n', '\n'), ('r', '\r'), ('t', '\t'),
    ('v', '\x0b'), ('\\', '\\'), ('"', '"'), ('\'', '\'')]

/-- The names of the control codes. Longer names come first, since a name may be the
beginning of another. -/
def controlNames : List (String × Char) :=
  [("NUL", '\x00'), ("SOH", '\x01'), ("STX", '\x02'), ("ETX", '\x03'), ("EOT", '\x04'),
    ("ENQ", '\x05'), ("ACK", '\x06'), ("BEL", '\x07'), ("DLE", '\x10'), ("DC1", '\x11'),
    ("DC2", '\x12'), ("DC3", '\x13'), ("DC4", '\x14'), ("NAK", '\x15'), ("SYN", '\x16'),
    ("ETB", '\x17'), ("CAN", '\x18'), ("SUB", '\x1a'), ("ESC", '\x1b'), ("DEL", '\x7f'),
    ("BS", '\x08'), ("HT", '\t'), ("LF", '\n'), ("VT", '\x0b'), ("FF", '\x0c'), ("CR", '\r'),
    ("SO", '\x0e'), ("SI", '\x0f'), ("EM", '\x19'), ("FS", '\x1c'), ("GS", '\x1d'),
    ("RS", '\x1e'), ("US", '\x1f'), ("SP", ' ')]

/-- The keys of the control codes, in the order of the codes. -/
def controlKeys : String := "@ABCDEFGHIJKLMNOPQRSTUVWXYZ[\\]^_"

/-- The control code of a key. -/
def controlCode (key : Char) : Char :=
  Char.ofNat (key.toNat - '@'.toNat)

/-- The character with a code point, if there is one. -/
def charOfCode? (code : Nat) : Option Char :=
  if code.isValidChar then some (Char.ofNat code) else none

/-- The greatest code point. -/
def maxCodePoint : Nat := 0x10ffff

/-- The character whose code point some digits stand for, if there is one. The code point is put
together in 32 bits, digit by digit. -/
def charOfDigits? (digits : Digits) : Option Char :=
  ((digits.inRange? false (.unsigned 32)).filter (· ≤ (maxCodePoint : Int))).bind
    fun code => charOfCode? code.toNat

/-- Whether a character may stand for itself between two delimiters. -/
def isPlainIn (delimiter c : Char) : Bool :=
  c != delimiter && c != '\\' && '\x1a' < c

variable {σ υ : Type} [TokenStream σ Char]

/-- An escape of one letter. -/
def letterEscape : Parser σ υ Char :=
  Parser.choice (letterEscapes.map fun (code, value) => (Parser.char code).map fun _ => value)

/-- The code point of a character, in base ten, in base eight after `o`, or in base sixteen
after `x`. -/
def numericEscape : Parser σ υ Char :=
  (((digitsIn 10).orElse ((Parser.char 'o').keepRight (digitsIn 8))).orElse
    ((Parser.char 'x').keepRight (digitsIn 16))).bind fun digits =>
      match charOfDigits? digits with
      | some c => Parser.pure c
      | none => Parser.fail "invalid escape sequence"

/-- The name of a control code. -/
def controlNameEscape : Parser σ υ Char :=
  Parser.choice <|
    controlNames.map fun (name, value) => (Parser.string name).attempt.map fun _ => value

/-- The key of a control code after a caret. -/
def controlKeyEscape : Parser σ υ Char :=
  (Parser.char '^').keepRight ((Parser.oneOf controlKeys).map controlCode)

/-- The usual escapes after a backslash. -/
def usualEscape : Parser σ υ Char :=
  (((letterEscape.orElse numericEscape).orElse controlNameEscape).orElse controlKeyEscape).label
    "escape code"

/-- The escapes of the language. -/
def escape (language : Language σ υ) : Parser σ υ Char :=
  language.escape?.getD usualEscape

/-- A character between single quotes. -/
def charLiteral (language : Language σ υ) : Parser σ υ Char :=
  let escaped := (Parser.char '\\').keepRight language.escape
  let character := ((Parser.satisfy (isPlainIn '\'')).orElse escaped).label "literal character"
  (language.lexeme
    (Parser.between (Parser.char '\'') ((Parser.char '\'').label "end of character")
      character)).label "character"

/-- A part of a string: a character, or a gap or empty escape that stands for none. -/
def stringPart (language : Language σ υ) : Parser σ υ (Option Char) :=
  let gap := (Parser.space.many1.keepRight ((Parser.char '\\').label "end of string gap")).map
    fun _ => none
  let nothing := (Parser.char '&').map fun _ => none
  let escaped := (Parser.char '\\').keepRight
    ((gap.orElse nothing).orElse (language.escape.map some))
  (((Parser.satisfy (isPlainIn '"')).map some).orElse escaped).label "string character"

/-- A text between double quotes. -/
def stringLiteral (language : Language σ υ) : Parser σ υ String :=
  (language.lexeme
    ((Parser.between (Parser.char '"') ((Parser.char '"').label "end of string")
      language.stringPart.many).map fun parts => String.ofList (parts.filterMap id))).label
        "literal string"

end Language
end Predictive
