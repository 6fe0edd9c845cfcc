import Predictive.Arithmetic.Evaluate
import Predictive.Lexer.Bracket
import Predictive.Lexer.Number
import Predictive.Lexer.Word
import Predictive.ParseError.Render

/-!
# Lists of bindings

Bindings are given as names and integers in curly brackets, such as `{ x: 2, y: -1 }`. Of
two bindings of a name the later one counts.
-/

namespace Predictive
namespace Bindings

/-- The lexical structure of binding lists. -/
def language : Language Text Unit :=
  Language.plain

/-- A name, a colon and an integer. -/
def binding : Parser Text Unit (String × Int) :=
  ((language.identifier.label "name").keepLeft (language.symbol ":")).pair language.integer

/-- Bindings in curly brackets, which are the whole text. -/
def whole : Parser Text Unit (List (String × Int)) :=
  (language.whiteSpace.keepRight (language.braces (language.commaSep binding))).keepLeft
    Parser.endOfInput

/-- Read a list of bindings that stands after an option. -/
def parse (text : String) : Except Defect (Except ParseError Bindings) :=
  match whole.parse () "--let" (Text.ofString text) with
  | .error defect => .error defect
  | .ok (.error error) => .ok (.error error)
  | .ok (.ok pairs) => .ok (.ok (ofPairs pairs))

/-- The bindings of a text, or a report of what is wrong with it. -/
def ofText (text : String) : Except String Bindings :=
  match parse text with
  | .error defect => .error defect.message
  | .ok (.error error) => .error ("\n" ++ error.render)
  | .ok (.ok bindings) => .ok bindings

end Bindings
end Predictive
