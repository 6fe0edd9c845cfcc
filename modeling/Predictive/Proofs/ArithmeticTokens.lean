import Predictive.Arithmetic.Syntax
import Predictive.Proofs.CharacterClasses
import Predictive.Proofs.Layout
import Predictive.Proofs.Symbols

/-!
# The tokens of arithmetic expressions

A text is a written form of some tokens if it consists of their characters with layout between
them. The layout behind a token starts with white space, which no token goes on with, so a minus
never becomes part of a mark of a comment, and names and numbers end where they should. The lexeme
parsers read the tokens in view of any such text.
-/

namespace Predictive
namespace Expr

/-- The signs of operators and parentheses. -/
def signChars : List Char := "+-*/%^()".toList

/-- No sign is a digit. -/
theorem isDigit_of_sign {c : Char} (isSign : c ∈ signChars) : c.isDigit = false := by
  have none : signChars.all (fun d => !d.isDigit) = true := by decide
  simpa using List.all_eq_true.mp none c isSign

/-- No sign is a letter. -/
theorem isAlphabetic_of_sign {c : Char} (isSign : c ∈ signChars) :
    Unicode.isAlphabetic c = false := by
  have none : signChars.all (fun d => !Unicode.isAlphabetic d) = true := by decide
  simpa using List.all_eq_true.mp none c isSign

/-- A token of an expression. -/
inductive Token
  | number (value : Nat)
  | name (text : String)
  | sign (c : Char)
deriving DecidableEq

/-- Whether a character may go on a name. -/
def isNameLetter (c : Char) : Bool :=
  Unicode.isAlphanumeric c || "_'".toList.contains c

/-- What goes on a name is no white space. -/
theorem isWhiteSpace_of_isNameLetter {c : Char} (goesOn : isNameLetter c = true) :
    Unicode.isWhiteSpace c = false := by
  simp only [isNameLetter, Bool.or_eq_true, List.contains_iff_mem] at goesOn
  rcases goesOn with letter | mark
  · exact Unicode.isWhiteSpace_of_isAlphanumeric letter
  · exact Unicode.isWhiteSpace_of_mem (by decide) mark

/-- A letter with letters, numbers, underscores and primes behind it. -/
def IsName (text : String) : Prop :=
  ∃ first others, text.toList = first :: others ∧ Unicode.isAlphabetic first = true ∧
    ∀ c ∈ others, isNameLetter c = true

namespace Token

/-- The characters that the token is written with. -/
def chars : Token → List Char
  | number value => decimalDigits value
  | name text => text.toList
  | sign c => [c]

/-- Numbers lie in a range, names have the shape of names, and signs are those of expressions. -/
def Proper (range : IntegerRange) : Token → Prop
  | number value => range.contains value = true
  | name text => IsName text
  | sign c => c ∈ signChars

/-- Whether the written form of the token starts with the character. -/
def Starts (c : Char) : Token → Prop
  | number _ => c.isDigit = true
  | name _ => Unicode.isAlphabetic c = true
  | sign wanted => c = wanted

/-- A proper token has a first character, which tells its kind. -/
theorem Proper.exists_start
    {range : IntegerRange}
    {token : Token}
    (proper : token.Proper range) :
    ∃ c others, token.chars = c :: others ∧ token.Starts c := by
  cases token with
  | number value =>
      have some : Nat.toDigits 10 value ≠ [] := Nat.toDigits_ne_nil
      obtain ⟨c, others, split⟩ := List.exists_cons_of_ne_nil some
      refine ⟨c, others, (decimalDigits_eq value).trans split, ?_⟩
      exact Nat.isDigit_of_mem_toDigits (by decide) (by decide) (split ▸ List.mem_cons_self)
  | name text =>
      obtain ⟨first, others, split, letter, -⟩ := proper
      exact ⟨first, others, split, letter⟩
  | sign c => exact ⟨c, [], rfl, rfl⟩

/-- A sign starts no token but itself. -/
theorem Starts.eq_sign
    {token : Token}
    {c : Char}
    (starts : token.Starts c)
    (isSign : c ∈ signChars) :
    token = sign c := by
  cases token with
  | number value => exact absurd starts (ne_true_of_eq_false (isDigit_of_sign isSign))
  | name text => exact absurd starts (ne_true_of_eq_false (isAlphabetic_of_sign isSign))
  | sign wanted => rw [show c = wanted from starts]

/-- No token starts as white space or a comment does. -/
theorem Starts.notBlank
    {range : IntegerRange}
    {token : Token}
    {c : Char}
    (starts : token.Starts c)
    (proper : token.Proper range) :
    Unicode.isWhiteSpace c = false ∧ c ≠ '{' := by
  cases token with
  | number value =>
      refine ⟨Unicode.isWhiteSpace_of_isDigit starts, ?_⟩
      rintro rfl
      have digit : '{'.isDigit = true := starts
      contradiction
  | name text =>
      refine ⟨Unicode.isWhiteSpace_of_isAlphabetic starts, ?_⟩
      rintro rfl
      have letter : Unicode.isAlphabetic '{' = true := starts
      contradiction
  | sign wanted =>
      rw [show c = wanted from starts]
      refine ⟨Unicode.isWhiteSpace_of_mem (by decide) proper, ?_⟩
      rintro rfl
      have isSign : '{' ∈ signChars := proper
      contradiction

end Token

/-! ## Written forms -/

/-- The text is a written form of the tokens. Layout that starts with white space stands behind
each token; behind the last one there may be none. -/
inductive Laid : List Token → List Char → Prop
  | nil : Laid [] []
  | last
      {token : Token}
      {gap : List Char}
      (layout : FinalLayout gap)
      (blank : StopsAt (fun c => !Unicode.isWhiteSpace c) gap) :
      Laid [token] (token.chars ++ gap)
  | cons
      {token : Token}
      {tokens : List Token}
      {c : Char}
      {gap chars : List Char}
      (layout : Layout (c :: gap))
      (blank : Unicode.isWhiteSpace c = true)
      (others : Laid tokens chars) :
      Laid (token :: tokens) (token.chars ++ (c :: gap ++ chars))

/-- The tokens to come, where the input is a written form of them. -/
def laid (range : IntegerRange) : View Text Unit Token :=
  fun state tokens => (∀ token ∈ tokens, token.Proper range) ∧
    Laid tokens (TokenStream.toList state.input)

namespace Laid

variable {range : IntegerRange} {token : Token} {tokens : List Token} {chars : List Char}

/-- What stands behind the first token: layout up to a written form of the others. -/
theorem exists_gap (written : Laid (token :: tokens) chars) :
    ∃ gap others, chars = token.chars ++ (gap ++ others) ∧
      StopsAt (fun c => !Unicode.isWhiteSpace c) (gap ++ others) ∧ Laid tokens others ∧
      (Layout gap ∨ FinalLayout gap ∧ others = []) := by
  cases written with
  | last layout blank =>
      exact ⟨_, [], by rw [List.append_nil], by rwa [List.append_nil], .nil, .inr ⟨layout, rfl⟩⟩
  | cons layout blank others =>
      refine ⟨_, _, rfl, ?_, others, .inl layout⟩
      rw [List.cons_append, stopsAt_cons_iff, blank]
      rfl

/-- Only the empty text is written without tokens. -/
theorem eq_nil (written : Laid [] chars) : chars = [] := by
  cases written
  rfl

/-- Every token takes a character at least. -/
theorem length_le (written : Laid tokens chars) (proper : ∀ token ∈ tokens, token.Proper range) :
    tokens.length ≤ chars.length := by
  have positive {token : Token} (isProper : token.Proper range) : 0 < token.chars.length := by
    obtain ⟨c, others, split, -⟩ := isProper.exists_start
    rw [split]
    exact Nat.succ_pos _
  induction written with
  | nil => exact Nat.le_refl 0
  | last layout blank =>
      have long := positive (proper _ List.mem_cons_self)
      rw [List.length_singleton, List.length_append]
      omega
  | cons layout blank others ih =>
      have fewer := ih fun other present => proper other (.tail _ present)
      simp only [List.length_cons, List.length_append]
      omega

/-- Neither white space nor a comment starts where a token does. -/
theorem solid (written : Laid tokens chars) (proper : ∀ token ∈ tokens, token.Proper range) :
    Solid chars := by
  cases tokens with
  | nil =>
      cases written
      exact ⟨stopsAt_nil _, by simp, by simp⟩
  | cons token tokens =>
      obtain ⟨gap, left, rfl, stops, -, -⟩ := written.exists_gap
      have isProper := proper token List.mem_cons_self
      obtain ⟨c, others, split, starts⟩ := isProper.exists_start
      obtain ⟨notBlank, notBrace⟩ := starts.notBlank isProper
      refine ⟨?_, ?_, ?_⟩
      · rw [split, List.cons_append, stopsAt_cons_iff]
        exact notBlank
      · rw [split, List.cons_append, List.cons_prefix_cons]
        rintro ⟨rfl, second⟩
        -- Only a minus starts with a minus, and white space follows it.
        obtain rfl : token = .sign '-' := starts.eq_sign (by decide)
        obtain ⟨-, rfl⟩ := List.cons.inj split
        obtain ⟨more, behind⟩ := second
        rw [List.nil_append] at behind
        rw [← behind, List.singleton_append, stopsAt_cons_iff] at stops
        contradiction
      · rw [split, List.cons_append, List.cons_prefix_cons]
        rintro ⟨rfl, -⟩
        exact notBrace rfl

end Laid

/-- There are as many characters as tokens at least. -/
theorem laid_fits (range : IntegerRange) : (laid range).Fits := by
  intro state tokens ⟨proper, written⟩
  exact Nat.le_trans (written.length_le proper) (TokenStream.length_toList_le_size state.input)

/-! ## Lexemes -/

section
variable {α : Type} {range : IntegerRange} {token : Token} {tokens : List Token}

/-- A lexeme reads a token if its parser reads the characters of the token. -/
theorem lexeme_reads
    {parser : Parser Text Unit α}
    {value : α}
    (reads : token.Proper range → ∀ ⦃behind⦄, StopsAt (fun c => !Unicode.isWhiteSpace c) behind →
      parser.Reads View.tokens token.chars value behind)
    (tokens : List Token) :
    (language.lexeme parser).Reads (laid range) [token] value tokens := by
  rintro state ⟨proper, written⟩
  have isProper := proper token List.mem_cons_self
  have othersProper : ∀ other ∈ tokens, other.Proper range :=
    fun other present => proper other (List.mem_cons_of_mem token present)
  obtain ⟨gap, chars, split, stops, others, layout⟩ := written.exists_gap
  have skips : language.whiteSpace.Reads View.tokens gap () chars := by
    rcases layout with layout | ⟨layout, rfl⟩
    · exact Language.whiteSpace_reads layout (others.solid othersProper)
    · exact Language.whiteSpace_reads_final layout
  obtain ⟨middle, earlier, ran, viewedGap⟩ := reads isProper stops split
  obtain ⟨next, _, skipped, left⟩ := skips viewedGap
  have taken : (!token.chars.isEmpty) = true := by
    obtain ⟨c, more, starts, -⟩ := isProper.exists_start
    rw [starts]
    rfl
  rw [taken] at ran
  obtain ⟨error, lexemeRan⟩ := Language.lexeme_yields_of_skips ran skipped
  exact ⟨next, error, lexemeRan, othersProper, left.symm ▸ others⟩

/-- A lexeme refuses tokens if its parser refuses their characters. -/
theorem lexeme_refuses
    {parser : Parser Text Unit α}
    (refuses : ∀ ⦃chars⦄, Laid tokens chars → (∀ token ∈ tokens, token.Proper range) →
      parser.Refuses View.tokens chars) :
    (language.lexeme parser).Refuses (laid range) tokens := by
  rintro state ⟨proper, written⟩
  exact (refuses written proper).zipWith _ rfl

/-- The characters of the tokens start as the first of them does. -/
theorem Laid.head?
    {chars : List Char}
    (written : Laid tokens chars)
    (proper : ∀ token ∈ tokens, token.Proper range) :
    ∀ c ∈ chars.head?, ∃ token ∈ tokens.head?, token.Starts c := by
  cases tokens with
  | nil =>
      cases written
      simp
  | cons token tokens =>
      obtain ⟨gap, left, rfl, -, -, -⟩ := written.exists_gap
      obtain ⟨c, others, split, starts⟩ := (proper token List.mem_cons_self).exists_start
      rw [split]
      simpa using starts

end

/-! ## Signs -/

/-- The parser of the characters of a token, as a lexeme. -/
def symbolOf (token : Token) : Parser Text Unit String :=
  language.symbol (String.ofList token.chars)

/-- A sign is taken where it comes and refused elsewhere. -/
theorem sign_recognized
    {range : IntegerRange}
    {c : Char}
    (isSign : c ∈ signChars) :
    Recognizes (laid range) symbolOf (.sign c) := by
  constructor
  · intro rest
    refine ⟨String.ofList [c], lexeme_reads (fun _ behind _ => ?_) rest⟩
    have reads := Parser.string_reads (σ := Text) (υ := Unit) (String.ofList [c]) behind
    rwa [String.toList_ofList] at reads
  · intro tokens outside
    refine lexeme_refuses fun chars written proper => ?_
    refine Parser.string_refuses_head (String.toList_ofList) fun first => ?_
    obtain ⟨token, isFirst, starts⟩ := written.head? proper c first
    rw [starts.eq_sign isSign] at isFirst
    exact outside _ isFirst List.mem_cons_self

/-! ## Numbers and names -/

section
variable {range : IntegerRange}

/-- A number is read as a natural number of the range. -/
theorem naturalIn_reads
    (zeroInside : range.contains 0 = true)
    (value : Nat)
    (tokens : List Token) :
    (language.naturalIn range).Reads (laid range) [.number value] value tokens := by
  refine Parser.Reads.labels (lexeme_reads (fun proper behind stops => ?_) tokens) _
  refine Language.naturalDigits_integerOf_reads zeroInside proper (stops.mono fun c goesOn => ?_)
  rw [Unicode.isWhiteSpace_of_goesOnNumber goesOn]
  rfl

/-- What is no number is refused as such. -/
theorem naturalIn_refuses
    {tokens : List Token}
    (notNumber : ∀ value, .number value ∉ tokens.head?) :
    (language.naturalIn range).Refuses (laid range) tokens := by
  refine Parser.Refuses.labels (lexeme_refuses fun chars written proper => ?_) _
  refine (Language.naturalDigits_refuses fun c first => ?_).bind
  obtain ⟨token, isFirst, starts⟩ := written.head? proper c first
  cases digit : c.isDigit with
  | false => rfl
  | true =>
      cases token with
      | number value => exact absurd isFirst (notNumber value)
      | name text =>
          have letter : Unicode.isAlphabetic c = true := starts
          rw [Unicode.isAlphabetic_of_isDigit digit] at letter
          contradiction
      | sign wanted =>
          have isSign : wanted ∈ signChars := proper _ (List.mem_of_mem_head? isFirst)
          rw [show c = wanted from starts, isDigit_of_sign isSign] at digit
          contradiction

theorem identStart_takesChar : language.identStart.TakesChar Unicode.isAlphabetic :=
  (Parser.satisfy_takesChar Unicode.isAlphabetic).label "letter"

theorem identLetter_takesChar : language.identLetter.TakesChar isNameLetter :=
  Parser.TakesChar.orElse ((Parser.satisfy_takesChar Unicode.isAlphanumeric).label _)
    (Parser.satisfy_takesChar _)

/-- A name is read as an identifier. -/
theorem identifier_reads
    (text : String)
    (tokens : List Token) :
    language.identifier.Reads (laid range) [.name text] text tokens := by
  refine lexeme_reads (fun proper behind stops => Parser.Reads.attempt ?_) tokens
  obtain ⟨first, others, split, letter, all⟩ := proper
  have stopsName : StopsAt isNameLetter behind := stops.mono fun c goesOn => by
    rw [isWhiteSpace_of_isNameLetter goesOn]
    rfl
  have start := identStart_takesChar.reads letter (others ++ behind)
  have goOn := identLetter_takesChar.many_reads all stopsName
  have word := (start.zipWith goOn fun c cs => String.ofList (c :: cs)).labels ["identifier"]
  have sameText : String.ofList (first :: others) = text := by
    rw [← split, String.ofList_toList]
  rw [sameText, List.singleton_append, ← split] at word
  exact word.bindNil (Parser.pure_reads text)

end

end Expr
end Predictive
