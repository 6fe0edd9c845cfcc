import Predictive.Decimal.Shortest
import Predictive.Lexer.Literal
import Predictive.Lexer.Word
import Predictive.Parser.Inspect

/-!
# Lexemes of a source

A whole source as the list of its lexemes, each with the position where it starts. Words
are tried as identifiers before they are tried as keywords, which an identifier never is.
-/

namespace Predictive

/-- The languages that can be told apart by their lexemes. -/
inductive Style where
  | java
  | haskell
deriving DecidableEq

namespace Style

/-- The style of a name, or what is wrong with the name. -/
def ofName (name : String) : Except String Style :=
  match name with
  | "java" => .ok java
  | "haskell" => .ok haskell
  | _ => .error ("unknown style \x60" ++ name ++ "\x60, expected \x60java\x60 or \x60haskell\x60")

/-- The lexical structure of the style. -/
def language : Style → Language Text Unit
  | java => .java
  | haskell => .haskell

end Style

/-- A lexeme of a source. -/
inductive Lexeme where
  | identifier (name : String)
  | reserved (name : String)
  | operator (name : String)
  | reservedOperator (name : String)
  | number (value : Number)
  | char (value : Char)
  | string (value : String)
  | punctuation (mark : Char)
deriving DecidableEq

namespace Lexeme

/-- The kind of the lexeme and its value. -/
def render : Lexeme → String
  | identifier name => "identifier " ++ name
  | reserved name => "reserved " ++ name
  | operator name => "operator " ++ name
  | reservedOperator name => "reserved-op " ++ name
  | number (.integer value) => "number " ++ describe value
  | number (.float value) => "number " ++ floatText value
  | char value => "char " ++ describe value
  | string value => "string " ++ describe value
  | punctuation mark => "punctuation " ++ String.singleton mark

/-- The marks that are lexemes of one character. -/
def marks : String := "()[]\x7b\x7d;,\x60"

variable {σ υ : Type} [TokenStream σ Char]

/-- A lexeme of a language. -/
def parser (language : Language σ υ) : Parser σ υ Lexeme :=
  Parser.choice
    [language.identifier.map identifier,
      Parser.choice (language.reservedNames.map fun name =>
        (language.reserved name).map fun _ => reserved name),
      language.operator.map operator,
      Parser.choice (language.reservedOperators.map fun name =>
        (language.reservedOperator name).map fun _ => reservedOperator name),
      language.naturalOrFloat.map number,
      language.charLiteral.map char,
      language.stringLiteral.map string,
      (language.lexeme (Parser.oneOf marks)).map punctuation]

/-- All lexemes of a source with their positions. -/
def all (language : Language σ υ) : Parser σ υ (List (Position × Lexeme)) :=
  (language.whiteSpace.keepRight (Parser.getPosition.pair (parser language)).many).keepLeft
    Parser.endOfInput

end Lexeme
end Predictive
