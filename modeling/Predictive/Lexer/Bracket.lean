import Predictive.Lexer.Blank
import Predictive.Parser.Separate

/-!
# Brackets and separated lists of lexemes

The marks of brackets and lists are lexemes, so white space and comments may follow each of
them.
-/

namespace Predictive
namespace Language

variable {σ υ α : Type} [TokenStream σ Char]

/-- A parser in round brackets. -/
def parens (language : Language σ υ) (parser : Parser σ υ α) : Parser σ υ α :=
  Parser.between (language.symbol "(") (language.symbol ")") parser

/-- A parser in curly brackets. -/
def braces (language : Language σ υ) (parser : Parser σ υ α) : Parser σ υ α :=
  Parser.between (language.symbol "\x7b") (language.symbol "\x7d") parser

/-- A parser in angle brackets. -/
def angles (language : Language σ υ) (parser : Parser σ υ α) : Parser σ υ α :=
  Parser.between (language.symbol "<") (language.symbol ">") parser

/-- A parser in square brackets. -/
def brackets (language : Language σ υ) (parser : Parser σ υ α) : Parser σ υ α :=
  Parser.between (language.symbol "[") (language.symbol "]") parser

/-- Items with semicolons between them. -/
def semiSep (language : Language σ υ) (parser : Parser σ υ α) : Parser σ υ (List α) :=
  parser.sepBy (language.symbol ";")

/-- One or more items with semicolons between them. -/
def semiSep1 (language : Language σ υ) (parser : Parser σ υ α) : Parser σ υ (List α) :=
  parser.sepBy1 (language.symbol ";")

/-- Items with commas between them. -/
def commaSep (language : Language σ υ) (parser : Parser σ υ α) : Parser σ υ (List α) :=
  parser.sepBy (language.symbol ",")

/-- One or more items with commas between them. -/
def commaSep1 (language : Language σ υ) (parser : Parser σ υ α) : Parser σ υ (List α) :=
  parser.sepBy1 (language.symbol ",")

end Language
end Predictive
