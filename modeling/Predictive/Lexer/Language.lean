import Predictive.Parser.Character

/-!
# Descriptions of languages

What a lexer has to know about a language: how comments are marked, which characters
names and operators consist of, and which of them are reserved. A comment marker that is
empty stands for a kind of comment that the language does not have.
-/

namespace Predictive

/-- The lexical structure of a language. -/
structure Language (σ υ : Type) where
  /-- The mark that opens a block comment. -/
  commentStart : String
  /-- The mark that closes a block comment. -/
  commentEnd : String
  /-- The mark of a comment that runs up to the end of its line. -/
  commentLine : String
  /-- Whether block comments may stand inside block comments. -/
  nestedComments : Bool
  /-- The first character of an identifier. -/
  identStart : Parser σ υ Char
  /-- The other characters of an identifier. -/
  identLetter : Parser σ υ Char
  /-- The first character of an operator. -/
  operatorStart : Parser σ υ Char
  /-- The other characters of an operator. -/
  operatorLetter : Parser σ υ Char
  /-- The identifiers that are keywords. -/
  reservedNames : List String
  /-- The operators that are reserved symbols. -/
  reservedOperators : List String
  /-- Whether the case of letters matters in keywords. -/
  caseSensitive : Bool
  /-- The escapes after a backslash, if they are not the usual ones. -/
  escape? : Option (Parser σ υ Char)

namespace Language

variable {σ υ : Type}

/-- The characters of the operators in the predefined languages. -/
def operatorChars : String := ":!#$%&*+./<=>?@\\^|-~"

/-- Whether a name is reserved, with or without regard to case. -/
def isReservedName (language : Language σ υ) (name : String) : Bool :=
  if language.caseSensitive then language.reservedNames.contains name
  else (language.reservedNames.map Unicode.lowercased).contains (Unicode.lowercased name)

/-- Whether an operator is reserved. -/
def isReservedOperator (language : Language σ υ) (name : String) : Bool :=
  language.reservedOperators.contains name

/-- The plain data of a language; its parsers have no description. -/
instance : Describe (Language σ υ) where
  describe language :=
    "LanguageDef \x7b comment_start: " ++ describe language.commentStart ++
      ", comment_end: " ++ describe language.commentEnd ++
      ", comment_line: " ++ describe language.commentLine ++
      ", nested_comments: " ++ describe language.nestedComments ++
      ", reserved_names: " ++ describe language.reservedNames ++
      ", reserved_op_names: " ++ describe language.reservedOperators ++
      ", case_sensitive: " ++ describe language.caseSensitive ++ ", .. \x7d"

theorem isReservedName_of_caseSensitive
    {language : Language σ υ}
    (sensitive : language.caseSensitive = true)
    (name : String) :
    language.isReservedName name = language.reservedNames.contains name := by
  simp [isReservedName, sensitive]

theorem isReservedName_of_ignoringCase
    {language : Language σ υ}
    (ignoring : language.caseSensitive = false)
    (name : String) :
    language.isReservedName name = true ↔
      ∃ reserved ∈ language.reservedNames,
        Unicode.lowercased reserved = Unicode.lowercased name := by
  simp [isReservedName, ignoring]

variable [TokenStream σ Char]

/-- A language without comments and reserved words. Its identifiers consist of letters,
numbers, underscores and primes, and start with a letter or an underscore. -/
def plain : Language σ υ where
  commentStart := ""
  commentEnd := ""
  commentLine := ""
  nestedComments := true
  identStart := Parser.letter.orElse (Parser.char '_')
  identLetter := Parser.letterOrDigit.orElse (Parser.oneOf "_'")
  operatorStart := Parser.oneOf operatorChars
  operatorLetter := Parser.oneOf operatorChars
  reservedNames := []
  reservedOperators := []
  caseSensitive := true
  escape? := none

/-- A language with the comments of Java, whose keywords ignore case. -/
def javaStyle : Language σ υ :=
  { plain with
    commentStart := "/*"
    commentEnd := "*/"
    commentLine := "//"
    identStart := Parser.letter
    caseSensitive := false }

/-- A language with the comments of Haskell. -/
def haskellStyle : Language σ υ :=
  { plain with
    commentStart := "\x7b-"
    commentEnd := "-\x7d"
    commentLine := "--"
    identStart := Parser.letter }

/-- Java as far as the lexer is concerned, with a selection of its keywords. -/
def java : Language σ υ :=
  { javaStyle with
    reservedNames :=
      ["class", "else", "for", "if", "new", "null", "return", "static", "void", "while"]
    reservedOperators := ["=", "==", "!", "&&", "||"] }

/-- Haskell 98 as far as the lexer is concerned. -/
def haskell : Language σ υ :=
  { haskellStyle with
    reservedNames :=
      ["let", "in", "case", "of", "if", "then", "else", "data", "type", "class", "default",
        "deriving", "do", "import", "infix", "infixl", "infixr", "instance", "module",
        "newtype", "where", "primitive"]
    reservedOperators := ["::", "..", "=", "\\", "|", "<-", "->", "@", "~", "=>"] }

end Language
end Predictive
