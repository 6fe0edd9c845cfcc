import Predictive.Lexer.Blank

/-!
# Names, keywords and operators

A word is read as long as it goes before anything is made of it, so that a keyword is
never found at the beginning of a longer name. A word of the wrong kind is given back.
-/

namespace Predictive
namespace Language

variable {σ υ : Type} [TokenStream σ Char]

/-- A word from a first character and others, unless it is reserved. -/
def unreserved
    (first other : Parser σ υ Char)
    (kind : String)
    (isReserved : String → Bool)
    (complaint : String) :
    Parser σ υ String :=
  ((first.zipWith other.many fun c cs => String.ofList (c :: cs)).label kind).bind fun name =>
    if isReserved name then Parser.unexpected (complaint ++ name) else Parser.pure name

/-- An identifier that is not reserved. -/
def identifier (language : Language σ υ) : Parser σ υ String :=
  language.lexeme
    (unreserved language.identStart language.identLetter "identifier"
      language.isReservedName "reserved word ").attempt

/-- An operator that is not reserved. -/
def operator (language : Language σ υ) : Parser σ υ String :=
  language.lexeme
    (unreserved language.operatorStart language.operatorLetter "operator"
      language.isReservedOperator "reserved operator ").attempt

/-- A letter in either case, or any other character as it is. -/
def anyCase (c : Char) : Parser σ υ Char :=
  if Unicode.isAlphabetic c then
    (Parser.char ((Unicode.toLower c).headD c)).orElse
      (Parser.char ((Unicode.toUpper c).headD c))
  else Parser.char c

/-- A text, with or without regard to case. The value is the text as it was asked for. -/
def caseString (language : Language σ υ) (text : String) : Parser σ υ String :=
  if language.caseSensitive then Parser.string text
  else
    (text.toList.foldl
      (fun read c => read.keepLeft ((anyCase c).label (Quoted.string text)))
      (Parser.pure ())).map fun _ => text

/-- The end of a word, where no character may follow that could belong to it. -/
def wordEnd (letter : Parser σ υ Char) (text : String) : Parser σ υ Unit :=
  (Parser.notFollowedBy letter).label ("end of " ++ Quoted.string text)

/-- A keyword, and not the beginning of a longer identifier. -/
def reserved (language : Language σ υ) (name : String) : Parser σ υ Unit :=
  language.lexeme
    ((language.caseString name).keepRight (wordEnd language.identLetter name)).attempt

/-- A reserved operator, and not the beginning of a longer operator. -/
def reservedOperator (language : Language σ υ) (name : String) : Parser σ υ Unit :=
  language.lexeme
    ((Parser.string name).keepRight (wordEnd language.operatorLetter name)).attempt

end Language
end Predictive
