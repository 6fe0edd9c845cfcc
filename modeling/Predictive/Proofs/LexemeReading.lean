import Predictive.Command.Lexeme
import Predictive.Proofs.CaseFolding
import Predictive.Proofs.Literals

/-!
# How lexemes are read

A lexeme is written as the program prints its value: a name or an operator as it stands, a number
in base ten, a character or a text between quotes. The first character of the text tells apart
words, operators, numbers, the two kinds of literals and marks. A word is an identifier unless it
is reserved, and an operator likewise; a reserved one is read by its own parser and by no other
one of its kind, since each of them reads a word as a whole.
-/

namespace Predictive

namespace Language

/-- Whether operators of the predefined languages consist of the character. -/
def isOperatorChar (c : Char) : Bool :=
  operatorChars.toList.contains c

/-- A name of the list is reserved, whatever the case is. -/
theorem isReservedName_of_mem
    {σ υ : Type}
    {language : Language σ υ}
    {name : String}
    (present : name ∈ language.reservedNames) :
    language.isReservedName name = true := by
  unfold isReservedName
  split
  · exact List.contains_iff_mem.mpr present
  · exact List.contains_iff_mem.mpr (List.mem_map_of_mem present)

theorem isReservedOperator_iff
    {σ υ : Type}
    {language : Language σ υ}
    {name : String} :
    language.isReservedOperator name = true ↔ name ∈ language.reservedOperators :=
  List.contains_iff_mem

end Language

/-- A choice between the parsers of some names reads what the parser of one of them does, if those
of the others refuse it. -/
theorem Parser.choice_map_reads
    {σ υ κ α β : Type}
    {view : View σ υ κ}
    {parserOf : α → Parser σ υ β}
    {names : List α}
    {name : α}
    {word rest : List κ}
    {value : β}
    (present : name ∈ names)
    (reads : (parserOf name).Reads view word value rest)
    (others : ∀ other ∈ names, other ≠ name → (parserOf other).Refuses view (word ++ rest)) :
    (Parser.choice (names.map parserOf)).Reads view word value rest := by
  obtain ⟨front, back, rfl, first⟩ := List.eq_append_cons_of_mem present
  rw [List.map_append, List.map_cons]
  refine reads.choice fun parser tried => ?_
  obtain ⟨other, inFront, rfl⟩ := List.mem_map.mp tried
  refine others other (List.mem_append_left _ inFront) ?_
  rintro rfl
  exact first inFront

/-! ## Words of two kinds -/

/-- Fixed words that are told apart as wholes: each accepts only words, among them itself but no
other one. -/
structure FixedWords {σ υ : Type} [TokenStream σ Char]
    (start letter : Char → Bool)
    (names : List String)
    (readOf : String → Parser σ υ String) where
  accepts : String → List Char → Prop
  takesOnly : ∀ name, (readOf name).TakesOnly fun word _ => accepts name word
  returns : ∀ name, (readOf name).Returns
  reads : ∀ name ∈ names, ∀ rest, (readOf name).Reads View.tokens name.toList name rest
  accepts_self : ∀ name ∈ names, accepts name name.toList
  isWord : ∀ name ∈ names, ∀ word, accepts name word → IsWord start letter word
  eq_of_accepts : ∀ name ∈ names, ∀ other ∈ names, accepts other name.toList → other = name

namespace Language

variable
  {σ υ : Type} [TokenStream σ Char] [LawfulTokenStream σ]
  (language : Language σ υ)
  {first other : Parser σ υ Char}
  {start letter : Char → Bool}
  (starts : first.TakesChar start)
  (letters : other.TakesChar letter)

/-- A choice between fixed words. -/
def fixedWord
    (other : Parser σ υ Char)
    (readOf : String → Parser σ υ String)
    (names : List String)
    (lexemeOf : String → Lexeme) :
    Parser σ υ Lexeme :=
  Parser.choice (names.map fun name =>
    (language.lexeme ((readOf name).keepRight (wordEnd other name)).attempt).map
      fun _ => lexemeOf name)

section
variable
  {names : List String}
  {readOf : String → Parser σ υ String}
  (fixed : FixedWords start letter names readOf)
  (lexemeOf : String → Lexeme)
include letters fixed

/-- No fixed word starts with what no word starts with. -/
theorem fixedWord_refuses {symbols : List Char} (stops : StopsAt start symbols) :
    (language.fixedWord other readOf names lexemeOf).Refuses View.tokens symbols := by
  refine Parser.choice_refuses fun parser tried => ?_
  obtain ⟨name, present, rfl⟩ := List.mem_map.mp tried
  have none : ∀ word rest, symbols = word ++ rest → fixed.accepts name word →
      ¬ StopsAt letter rest := by
    rintro word rest rfl accepted -
    exact (fixed.isWord name present word accepted).not_stopsAt_append rest stops
  have refuses :=
    wholeWord_refuses letters (fixed.takesOnly name) (fixed.returns name) none name
  exact (refuses.zipWith _).map _

/-- A fixed word is read as itself, since all others refuse it. -/
theorem fixedWord_reads
    {name : String}
    (present : name ∈ names)
    {gap rest : List Char}
    (skips : language.whiteSpace.Reads View.tokens gap () rest)
    (ends : StopsAt letter (gap ++ rest)) :
    (language.fixedWord other readOf names lexemeOf).Reads View.tokens (name.toList ++ gap)
      (lexemeOf name) rest := by
  have isWord := fixed.isWord name present _ (fixed.accepts_self name present)
  have whole := wholeWord_reads letters (fixed.reads name present (gap ++ rest)) ends name
  have reads := (whole.zipWith skips fun value _ => value).map fun _ => lexemeOf name
  refine Parser.choice_map_reads present reads fun another anotherPresent different => ?_
  have none : ∀ word behind, name.toList ++ gap ++ rest = word ++ behind →
      fixed.accepts another word → ¬ StopsAt letter behind := by
    intro word behind split accepted anotherEnds
    rw [List.append_assoc] at split
    have isAnother := fixed.isWord another anotherPresent word accepted
    obtain rfl := isWord.eq_of_append isAnother ends anotherEnds split
    exact different (fixed.eq_of_accepts name present another anotherPresent accepted)
  have refuses :=
    wholeWord_refuses letters (fixed.takesOnly another) (fixed.returns another) none another
  exact (refuses.zipWith _).map _

end

section
variable (kind : String) (isReserved : String → Bool) (complaint : String)
include starts

/-- No free word starts with what no word starts with. -/
theorem freeWord_refuses {symbols : List Char} (stops : StopsAt start symbols) :
    (language.lexeme (unreserved first other kind isReserved complaint).attempt).Refuses
      View.tokens symbols :=
  (Parser.unreserved_refuses starts stops _ _ _).zipWith _

variable
  {name : String}
  (isWord : IsWord start letter name.toList)
  {gap rest : List Char}
  (ends : StopsAt letter (gap ++ rest))
include letters isWord ends

/-- A word that is not reserved is read as a free one. -/
theorem freeWord_reads
    (free : isReserved name = false)
    (skips : language.whiteSpace.Reads View.tokens gap () rest) :
    (language.lexeme (unreserved first other kind isReserved complaint).attempt).Reads
      View.tokens (name.toList ++ gap) name rest := by
  rw [← String.ofList_toList (s := name)] at free
  have reads := Parser.unreserved_reads starts letters isWord ends free kind complaint
  rw [String.ofList_toList] at reads
  exact reads.zipWith skips fun value _ => value

/-- A reserved word is refused as a free one, and put back. -/
theorem freeWord_refuses_reserved (taken : isReserved name = true) :
    (language.lexeme (unreserved first other kind isReserved complaint).attempt).Refuses
      View.tokens (name.toList ++ gap ++ rest) := by
  refine Parser.Refuses.zipWith (fun state viewed => ?_) _
  rw [← String.ofList_toList (s := name)] at taken
  rw [List.append_assoc] at viewed
  obtain ⟨earlier, position, failed⟩ :=
    Parser.unreserved_fails starts letters isWord ends taken kind complaint viewed
  exact ⟨_, failed⟩

end

end Language

/-! ## The languages of the styles -/

namespace Style

open Unicode (isAlphabetic)
open Predictive.Expr (isNameLetter)
open Predictive.Language (isOperatorChar)

variable (style : Style)

/-- Names start with letters or underscores in both styles. -/
theorem identStart_takesChar : style.language.identStart.TakesChar isAlphabetic := by
  cases style <;> exact (Parser.satisfy_takesChar isAlphabetic).label "letter"

theorem identLetter_takesChar : style.language.identLetter.TakesChar isNameLetter := by
  cases style <;> exact Language.plain_identLetter_takesChar

/-- Operators start with any of their characters in both styles. -/
theorem operatorStart_takesChar : style.language.operatorStart.TakesChar isOperatorChar := by
  cases style <;> exact Parser.satisfy_takesChar isOperatorChar

theorem operatorLetter_takesChar : style.language.operatorLetter.TakesChar isOperatorChar := by
  cases style <;> exact Parser.satisfy_takesChar isOperatorChar

/-- The keywords are words in small ASCII letters. -/
theorem reservedNames_shape :
    ∀ name ∈ style.language.reservedNames, IsWord isAlphabetic isNameLetter name.toList ∧
      Unicode.IsAscii name.toList ∧ Unicode.lowercased name = name := by
  cases style <;> decide

/-- The reserved operators consist of the characters of operators, and none of them starts a
comment. -/
theorem reservedOperators_shape :
    ∀ name ∈ style.language.reservedOperators, IsWord isOperatorChar isOperatorChar name.toList ∧
      ¬ style.language.commentLine.toList <+: name.toList ∧
        ¬ style.language.commentStart.toList <+: name.toList := by
  cases style <;> decide

variable {style} {name : String} (present : name ∈ style.language.reservedNames)
include present

/-- A keyword is spelled by words only. -/
theorem isWord_of_spells
    {word : List Char}
    (spells : style.language.Spells name.toList word) :
    IsWord isAlphabetic isNameLetter word := by
  obtain ⟨isWord, ascii, -⟩ := style.reservedNames_shape name present
  cases style with
  | java =>
      exact Language.isWord_of_spells rfl Language.foldsCase_isAlphabetic
        Language.foldsCase_isNameLetter ascii isWord spells
  | haskell =>
      rw [(Language.spells_iff_eq rfl).mp spells]
      exact isWord

/-- A word is a spelling of itself. -/
theorem spells_self : style.language.Spells name.toList name.toList := by
  obtain ⟨-, ascii, -⟩ := style.reservedNames_shape name present
  cases style with
  | java =>
      refine (Language.spells_iff_forms rfl).mpr (List.forall₂_same.mpr fun c inside => ?_)
      exact (Unicode.mem_caseForms_toLower (ascii c inside)).2
  | haskell => exact (Language.spells_iff_eq rfl).mpr rfl

/-- No keyword spells another one. -/
theorem eq_of_spells
    {other : String}
    (otherPresent : other ∈ style.language.reservedNames)
    (spells : style.language.Spells other.toList name.toList) :
    other = name := by
  obtain ⟨-, -, lower⟩ := style.reservedNames_shape name present
  obtain ⟨-, ascii, otherLower⟩ := style.reservedNames_shape other otherPresent
  cases style with
  | java =>
      have same := ((Language.spells_iff_lowercased rfl ascii _).mp spells).1
      rwa [String.ofList_toList, otherLower, lower] at same
  | haskell => exact (String.toList_inj.mp ((Language.spells_iff_eq rfl).mp spells)).symm

omit present

variable (style)

/-- The keywords are told apart, with or without regard to case. -/
def keywords : FixedWords isAlphabetic isNameLetter style.language.reservedNames
    style.language.caseString where
  accepts name word := style.language.Spells name.toList word
  takesOnly name := Language.caseString_takesOnly style.language name
  returns name := Language.caseString_returns style.language name
  reads name present rest :=
    Language.caseString_reads style.language name (spells_self present) rest
  accepts_self _ present := spells_self present
  isWord _ present _ spells := isWord_of_spells present spells
  eq_of_accepts _ present _ otherPresent spells := eq_of_spells present otherPresent spells

/-- The reserved operators are told apart. -/
def operatorSymbols : FixedWords isOperatorChar isOperatorChar style.language.reservedOperators
    (Parser.string : String → Parser Text Unit String) where
  accepts name word := word = name.toList
  takesOnly name := Language.string_takesOnly name
  returns name := Language.string_returns name
  reads name _ rest := Parser.string_reads name rest
  accepts_self _ _ := rfl
  isWord name present _ same := same ▸ (style.reservedOperators_shape name present).1
  eq_of_accepts _ _ _ _ same := (String.toList_inj.mp same).symm

end Style

/-! ## Texts of lexemes -/

namespace Lexeme

open Unicode (isAlphabetic)
open Predictive.Expr (isNameLetter)
open Predictive.Language (isOperatorChar isPlainIn)

/-- The text that the lexeme is written with. -/
def text : Lexeme → String
  | identifier name => name
  | reserved name => name
  | operator name => name
  | reservedOperator name => name
  | number (.integer value) => decimalText value
  | number (.float value) => floatText value
  | char value => String.ofList ['\'', value, '\'']
  | string value => String.ofList ('"' :: value.toList ++ ['"'])
  | punctuation mark => String.singleton mark

/-- The lexeme is written in a way that shows its kind: names and operators that are not reserved
and operators that start no comment, natural numbers of 64 bits with sign, and literals of plain
characters. -/
def Proper {σ υ : Type} (language : Language σ υ) : Lexeme → Prop
  | identifier name =>
      IsWord isAlphabetic isNameLetter name.toList ∧ language.isReservedName name = false
  | reserved name => name ∈ language.reservedNames
  | operator name =>
      IsWord isOperatorChar isOperatorChar name.toList ∧ name ∉ language.reservedOperators ∧
        ¬ language.commentLine.toList <+: name.toList ∧
          ¬ language.commentStart.toList <+: name.toList
  | reservedOperator name => name ∈ language.reservedOperators
  | number (.integer value) => 0 ≤ value ∧ (IntegerRange.signed 64).contains value = true
  | number (.float _) => False
  | char value => isPlainIn '\'' value = true
  | string value => ∀ c ∈ value.toList, isPlainIn '"' c = true
  | punctuation mark => mark ∈ marks.toList

instance {σ υ : Type} (language : Language σ υ) :
    ∀ lexeme : Lexeme, Decidable (lexeme.Proper language)
  | identifier _ => inferInstanceAs (Decidable (_ ∧ _))
  | reserved _ => inferInstanceAs (Decidable (_ ∈ language.reservedNames))
  | operator _ => inferInstanceAs (Decidable (_ ∧ _))
  | reservedOperator _ => inferInstanceAs (Decidable (_ ∈ language.reservedOperators))
  | number (.integer _) => inferInstanceAs (Decidable (_ ∧ _))
  | number (.float _) => inferInstanceAs (Decidable False)
  | char _ => inferInstanceAs (Decidable (_ = _))
  | string _ => decidable_of_iff _ List.all_eq_true
  | punctuation _ => inferInstanceAs (Decidable (_ ∈ marks.toList))

/-! ## Telling kinds apart -/

/-- No digit occurs in operators. -/
theorem isOperatorChar_of_isDigit {c : Char} (digit : c.isDigit = true) :
    isOperatorChar c = false :=
  Unicode.apart_of_ascii Char.isDigit isOperatorChar (by decide)
    (Unicode.ascii_of_isDigit digit) digit

/-- No character of an operator starts a name. -/
theorem isAlphabetic_of_isOperatorChar {c : Char} (isOperator : isOperatorChar c = true) :
    isAlphabetic c = false := by
  have none : Language.operatorChars.toList.all (fun d => !isAlphabetic d) = true := by
    decide
  simpa using List.all_eq_true.mp none c (List.contains_iff_mem.mp isOperator)

/-- No character of an operator is white space. -/
theorem isWhiteSpace_of_isOperatorChar {c : Char} (isOperator : isOperatorChar c = true) :
    Unicode.isWhiteSpace c = false :=
  Unicode.isWhiteSpace_of_mem (by decide) (List.contains_iff_mem.mp isOperator)

/-- No character that could go on a number is white space. -/
theorem isWhiteSpace_of_goesOnFloat {c : Char} (goesOn : Language.goesOnFloat c = true) :
    Unicode.isWhiteSpace c = false := by
  simp only [Language.goesOnFloat, Bool.or_eq_true, List.contains_iff_mem] at goesOn
  rcases goesOn with number | mark
  · exact Unicode.isWhiteSpace_of_goesOnNumber number
  · exact Unicode.isWhiteSpace_of_mem (by decide) mark

/-! ## The lexemes of a style -/

section
variable (style : Style) {symbols : List Char}

/-- The parsers of words and of operators. -/
def wordParsers : List (Parser Text Unit Lexeme) :=
  [style.language.identifier.map identifier,
    style.language.fixedWord style.language.identLetter style.language.caseString
      style.language.reservedNames reserved]

def operatorParsers : List (Parser Text Unit Lexeme) :=
  [style.language.operator.map operator,
    style.language.fixedWord style.language.operatorLetter Parser.string
      style.language.reservedOperators reservedOperator]

/-- The lexemes are tried in three groups: words, operators and the rest. -/
theorem parser_eq :
    parser style.language =
      Parser.choice (wordParsers style ++ (operatorParsers style ++
        [style.language.naturalOrFloat.map number, style.language.charLiteral.map char,
          style.language.stringLiteral.map string,
          (style.language.lexeme (Parser.oneOf marks)).map punctuation])) :=
  rfl

/-- What starts no word is refused by all parsers of words. -/
theorem wordParsers_refuse (stops : StopsAt isAlphabetic symbols) :
    ∀ parser ∈ wordParsers style, parser.Refuses View.tokens symbols := by
  have free : style.language.identifier.Refuses View.tokens symbols :=
    style.language.freeWord_refuses style.identStart_takesChar _ _ _ stops
  have fixed := style.language.fixedWord_refuses style.identLetter_takesChar style.keywords
    reserved stops
  exact List.forall_mem_cons.mpr ⟨free.map identifier, by simpa using fixed⟩

/-- What starts no operator is refused by all parsers of operators. -/
theorem operatorParsers_refuse (stops : StopsAt isOperatorChar symbols) :
    ∀ parser ∈ operatorParsers style, parser.Refuses View.tokens symbols := by
  have free : style.language.operator.Refuses View.tokens symbols :=
    style.language.freeWord_refuses style.operatorStart_takesChar _ _ _ stops
  have fixed := style.language.fixedWord_refuses style.operatorLetter_takesChar
    style.operatorSymbols reservedOperator stops
  exact List.forall_mem_cons.mpr ⟨free.map operator, by simpa using fixed⟩

/-- Words and operators are refused where neither of them starts. -/
theorem namedParsers_refuse
    (notWord : StopsAt isAlphabetic symbols)
    (notOperator : StopsAt isOperatorChar symbols) :
    ∀ parser ∈ wordParsers style ++ operatorParsers style, parser.Refuses View.tokens symbols :=
  List.forall_mem_append.mpr
    ⟨wordParsers_refuse style notWord, operatorParsers_refuse style notOperator⟩

/-- The parsers of words, operators and numbers. -/
def unquotedParsers : List (Parser Text Unit Lexeme) :=
  wordParsers style ++ operatorParsers style ++ [style.language.naturalOrFloat.map number]

/-- Words, operators and numbers are refused in front of quotes and marks. -/
theorem unquotedParsers_refuse
    {c : Char}
    (isOther : c ∈ '\'' :: '"' :: marks.toList)
    (symbols : List Char) :
    ∀ parser ∈ unquotedParsers style, parser.Refuses View.tokens (c :: symbols) := by
  have apart : ('\'' :: '"' :: marks.toList).all
      (fun d => !isAlphabetic d && !isOperatorChar d && !d.isDigit) = true := by
    decide
  obtain ⟨⟨notWord, notOperator⟩, notDigit⟩ : (isAlphabetic c = false ∧
      isOperatorChar c = false) ∧ c.isDigit = false := by
    simpa using List.all_eq_true.mp apart c isOther
  have named := namedParsers_refuse style ((stopsAt_cons_iff _ c symbols).mpr notWord)
    ((stopsAt_cons_iff _ c symbols).mpr notOperator)
  have numbers : style.language.naturalOrFloat.Refuses View.tokens (c :: symbols) :=
    ((Language.unsignedNumber_refuses ((stopsAt_cons_iff _ c symbols).mpr notDigit)).zipWith
      _).labels _
  exact List.forall_mem_append.mpr ⟨named, List.forall_mem_singleton.mpr (numbers.map number)⟩

variable
  {style}
  {gap rest : List Char}
  (skips : style.language.whiteSpace.Reads View.tokens gap () rest)
  (blank : StopsAt (fun c => !Unicode.isWhiteSpace c) (gap ++ rest))
include skips blank

/-- A name that is not reserved is read as an identifier. -/
theorem parser_reads_identifier
    {name : String}
    (isWord : IsWord isAlphabetic isNameLetter name.toList)
    (free : style.language.isReservedName name = false) :
    (parser style.language).Reads View.tokens (name.toList ++ gap) (identifier name) rest := by
  have ends := stopsAt_of_blank (fun _ => Expr.isWhiteSpace_of_isNameLetter) blank
  have reads := style.language.freeWord_reads style.identStart_takesChar
    style.identLetter_takesChar "identifier" style.language.isReservedName "reserved word "
    isWord ends free skips
  have noneBefore : ∀ parser ∈ ([] : List (Parser Text Unit Lexeme)),
      parser.Refuses View.tokens (name.toList ++ gap ++ rest) := by simp
  exact (reads.map identifier).choice noneBefore

/-- A reserved name is read as such, and not as a shorter one. -/
theorem parser_reads_reserved
    {name : String}
    (present : name ∈ style.language.reservedNames) :
    (parser style.language).Reads View.tokens (name.toList ++ gap) (reserved name) rest := by
  have ends := stopsAt_of_blank (fun _ => Expr.isWhiteSpace_of_isNameLetter) blank
  have notFree := style.language.freeWord_refuses_reserved style.identStart_takesChar
    style.identLetter_takesChar "identifier" style.language.isReservedName "reserved word "
    (style.reservedNames_shape name present).1 ends (Language.isReservedName_of_mem present)
  have reads := style.language.fixedWord_reads style.identLetter_takesChar style.keywords reserved
    present skips ends
  have before : ∀ parser ∈ [style.language.identifier.map identifier],
      parser.Refuses View.tokens (name.toList ++ gap ++ rest) :=
    List.forall_mem_singleton.mpr (notFree.map identifier)
  exact reads.choice before

/-- An operator that is not reserved is read as such. -/
theorem parser_reads_operator
    {name : String}
    (isWord : IsWord isOperatorChar isOperatorChar name.toList)
    (free : name ∉ style.language.reservedOperators) :
    (parser style.language).Reads View.tokens (name.toList ++ gap) (operator name) rest := by
  have ends := stopsAt_of_blank (fun _ => isWhiteSpace_of_isOperatorChar) blank
  have notReserved : style.language.isReservedOperator name = false :=
    eq_false_of_ne_true fun taken => free (Language.isReservedOperator_iff.mp taken)
  have reads := style.language.freeWord_reads style.operatorStart_takesChar
    style.operatorLetter_takesChar "operator" style.language.isReservedOperator
    "reserved operator " isWord ends notReserved skips
  have notWord : StopsAt isAlphabetic (name.toList ++ gap ++ rest) := by
    rw [List.append_assoc]
    exact isWord.stopsAt_append (fun _ => isAlphabetic_of_isOperatorChar) _
  exact (reads.map operator).choice (wordParsers_refuse style notWord)

/-- A reserved operator is read as such, and not as a shorter one. -/
theorem parser_reads_reservedOperator
    {name : String}
    (present : name ∈ style.language.reservedOperators) :
    (parser style.language).Reads View.tokens (name.toList ++ gap) (reservedOperator name)
      rest := by
  have ends := stopsAt_of_blank (fun _ => isWhiteSpace_of_isOperatorChar) blank
  have isWord := (style.reservedOperators_shape name present).1
  have notFree := style.language.freeWord_refuses_reserved style.operatorStart_takesChar
    style.operatorLetter_takesChar "operator" style.language.isReservedOperator
    "reserved operator " isWord ends (Language.isReservedOperator_iff.mpr present)
  have reads := style.language.fixedWord_reads style.operatorLetter_takesChar
    style.operatorSymbols reservedOperator present skips ends
  have notWord : StopsAt isAlphabetic (name.toList ++ gap ++ rest) := by
    rw [List.append_assoc]
    exact isWord.stopsAt_append (fun _ => isAlphabetic_of_isOperatorChar) _
  have before : ∀ parser ∈ wordParsers style ++ [style.language.operator.map operator],
      parser.Refuses View.tokens (name.toList ++ gap ++ rest) :=
    List.forall_mem_append.mpr ⟨wordParsers_refuse style notWord,
      List.forall_mem_singleton.mpr (notFree.map operator)⟩
  exact reads.choice before

/-- A number within the range is read as such. -/
theorem parser_reads_number
    {value : Int}
    (natural : 0 ≤ value)
    (inside : (IntegerRange.signed 64).contains value = true) :
    (parser style.language).Reads View.tokens ((decimalText value).toList ++ gap)
      (number (.integer value)) rest := by
  rw [toList_decimalText natural]
  have isWord := isWord_toDigits value.natAbs
  have sameValue : ((digitsValue 10 (Nat.toDigits 10 value.natAbs) : Nat) : Int) = value := by
    rw [digitsValue_toDigits, Int.natAbs_of_nonneg natural]
  have ends := stopsAt_of_blank (fun _ => isWhiteSpace_of_goesOnFloat) blank
  have unsigned := Language.unsignedNumber_reads (σ := Text) (υ := Unit) isWord.all
    isWord.ne_nil (by rwa [sameValue]) ends
  rw [sameValue] at unsigned
  have reads := ((unsigned.zipWith skips fun value _ => value).labels ["number"]).map number
  have notNamed {letter : Char → Bool} (apart : ∀ c, c.isDigit = true → letter c = false) :
      StopsAt letter (Nat.toDigits 10 value.natAbs ++ gap ++ rest) := by
    rw [List.append_assoc]
    exact isWord.stopsAt_append apart _
  have before := namedParsers_refuse style (notNamed fun _ => Unicode.isAlphabetic_of_isDigit)
    (notNamed fun _ => isOperatorChar_of_isDigit)
  exact reads.choice before

omit blank

/-- A character that may stand for itself is read between quotes. -/
theorem parser_reads_char
    {value : Char}
    (plain : isPlainIn '\'' value = true) :
    (parser style.language).Reads View.tokens (['\'', value, '\''] ++ gap) (char value) rest := by
  have reads := (style.language.charLiteral_reads skips plain).map char
  exact reads.choice (unquotedParsers_refuse style (by simp) _)

/-- Characters that may stand for themselves are read between double quotes. -/
theorem parser_reads_string
    {value : String}
    (plain : ∀ c ∈ value.toList, isPlainIn '"' c = true) :
    (parser style.language).Reads View.tokens (('"' :: value.toList ++ ['"']) ++ gap)
      (string value) rest := by
  have literal := style.language.stringLiteral_reads skips plain
  rw [String.ofList_toList] at literal
  have notQuote : '\'' ∉ ('"' :: value.toList ++ ['"'] ++ gap ++ rest).head? := by simp
  have notChar := style.language.charLiteral_refuses notQuote
  have before : ∀ parser ∈ unquotedParsers style ++ [style.language.charLiteral.map char],
      parser.Refuses View.tokens ('"' :: value.toList ++ ['"'] ++ gap ++ rest) :=
    List.forall_mem_append.mpr ⟨unquotedParsers_refuse style (by simp) _,
      List.forall_mem_singleton.mpr (notChar.map char)⟩
  exact (literal.map string).choice before

/-- A mark is read as such, since no other lexeme starts with one. -/
theorem parser_reads_punctuation
    {mark : Char}
    (isMark : mark ∈ marks.toList) :
    (parser style.language).Reads View.tokens ([mark] ++ gap) (punctuation mark) rest := by
  have noQuotes : '\'' ∉ marks.toList ∧ '"' ∉ marks.toList := by decide
  have notQuote : mark ≠ '\'' := ne_of_mem_of_not_mem isMark noQuotes.1
  have notDoubleQuote : mark ≠ '"' := ne_of_mem_of_not_mem isMark noQuotes.2
  have single := (Parser.satisfy_takesChar (σ := Text) (υ := Unit)
    fun c => marks.toList.contains c).reads (List.contains_iff_mem.mpr isMark) (gap ++ rest)
  have reads := (single.zipWith skips fun value _ => value).map punctuation
  have notChar : style.language.charLiteral.Refuses View.tokens ([mark] ++ gap ++ rest) :=
    style.language.charLiteral_refuses (by simpa using notQuote)
  have notString : style.language.stringLiteral.Refuses View.tokens ([mark] ++ gap ++ rest) :=
    style.language.stringLiteral_refuses (by simpa using notDoubleQuote)
  have before : ∀ parser ∈ unquotedParsers style ++
      [style.language.charLiteral.map char, style.language.stringLiteral.map string],
        parser.Refuses View.tokens ([mark] ++ gap ++ rest) := by
    refine List.forall_mem_append.mpr ⟨unquotedParsers_refuse style (by simp [isMark]) _, ?_⟩
    exact List.forall_mem_cons.mpr
      ⟨notChar.map char, List.forall_mem_singleton.mpr (notString.map string)⟩
  exact reads.choice before

end

/-- A lexeme is read from its text with white space behind it. -/
theorem parser_reads
    {style : Style}
    {lexeme : Lexeme}
    (proper : lexeme.Proper style.language)
    {gap rest : List Char}
    (skips : style.language.whiteSpace.Reads View.tokens gap () rest)
    (blank : StopsAt (fun c => !Unicode.isWhiteSpace c) (gap ++ rest)) :
    (parser style.language).Reads View.tokens (lexeme.text.toList ++ gap) lexeme rest := by
  match lexeme, proper with
  | identifier name, ⟨isWord, free⟩ => exact parser_reads_identifier skips blank isWord free
  | reserved name, present => exact parser_reads_reserved skips blank present
  | operator name, ⟨isWord, free, _⟩ => exact parser_reads_operator skips blank isWord free
  | reservedOperator name, present => exact parser_reads_reservedOperator skips blank present
  | number (.integer value), ⟨natural, inside⟩ =>
      exact parser_reads_number skips blank natural inside
  | char value, plain =>
      rw [text, String.toList_ofList]
      exact parser_reads_char skips plain
  | string value, plain =>
      rw [text, String.toList_ofList]
      exact parser_reads_string skips plain
  | punctuation mark, isMark =>
      rw [text, String.toList_singleton]
      exact parser_reads_punctuation skips isMark

end Lexeme
end Predictive
