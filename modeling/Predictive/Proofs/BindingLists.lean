import Mathlib.Data.List.Chain
import Predictive.Command.BindingList
import Predictive.Proofs.IntegerLiterals
import Predictive.Proofs.Words

/-!
# Written lists of bindings

A list of bindings is written as tokens with white space of any kind around them, or with none: a
name and a number never stand next to each other, so each of them ends at the mark behind it. From
any such text the bindings are read back. They give each name the value of the last pair with that
name.
-/

namespace Predictive
namespace Bindings

/-- The characters between the names and integers of a list. -/
def markChars : List Char := "\x7b\x7d:,".toList

/-- A token of a list of bindings. -/
inductive Token
  | mark (c : Char)
  | name (text : String)
  | integer (value : Int)
deriving DecidableEq

/-- Whether a name may start with the character. -/
def startsName (c : Char) : Bool :=
  Unicode.isAlphabetic c || c == '_'

/-- A letter or an underscore, with letters, numbers, underscores and primes behind it. -/
def IsName (text : String) : Prop :=
  IsWord startsName Expr.isNameLetter text.toList

instance (text : String) : Decidable (IsName text) :=
  inferInstanceAs (Decidable (IsWord startsName Expr.isNameLetter text.toList))

namespace Token

/-- The characters that the token is written with. -/
def chars : Token → List Char
  | mark c => [c]
  | name text => text.toList
  | integer value => (decimalText value).toList

def isMark : Token → Bool
  | mark _ => true
  | _ => false

/-- Marks are those of lists, names have the shape of names, and integers have 64 bits. -/
def Proper : Token → Prop
  | mark c => c ∈ markChars
  | name text => IsName text
  | integer value => (IntegerRange.signed 64).contains value = true

/-- Whether the written form of the token may start with the character. -/
def Starts (c : Char) : Token → Prop
  | mark wanted => c = wanted
  | name _ => startsName c = true
  | integer _ => c.isDigit = true ∨ c ∈ "+-".toList

/-- A proper token has a first character, which tells its kind. -/
theorem Proper.exists_start {token : Token} (proper : token.Proper) :
    ∃ c others, token.chars = c :: others ∧ token.Starts c := by
  cases token with
  | mark c => exact ⟨c, [], rfl, rfl⟩
  | name text =>
      obtain ⟨c, others, split⟩ := List.exists_cons_of_ne_nil (IsWord.ne_nil proper)
      refine ⟨c, others, split, ?_⟩
      have isWord : IsWord startsName Expr.isNameLetter text.toList := proper
      rw [split] at isWord
      exact isWord.1
  | integer value =>
      obtain ⟨sign, negative, literal, signed, written, text, -⟩ := decimalText_written value
      obtain ⟨c, others, rfl, digit⟩ := written.exists_cons
      cases signed with
      | absent => exact ⟨c, others, text, .inl digit⟩
      | plus => exact ⟨'+', c :: others, text, .inr (by decide)⟩
      | minus => exact ⟨'-', c :: others, text, .inr (by decide)⟩

/-- No token starts with white space. -/
theorem Starts.notBlank
    {token : Token}
    {c : Char}
    (starts : token.Starts c)
    (proper : token.Proper) :
    Unicode.isWhiteSpace c = false := by
  cases token with
  | mark wanted =>
      obtain rfl : c = wanted := starts
      exact Unicode.isWhiteSpace_of_mem (by decide) proper
  | name text =>
      rcases Bool.or_eq_true_iff.mp starts with letter | underscore
      · exact Unicode.isWhiteSpace_of_isAlphabetic letter
      · rw [eq_of_beq underscore]
        decide
  | integer value =>
      rcases starts with digit | sign
      · exact Unicode.isWhiteSpace_of_isDigit digit
      · exact Unicode.isWhiteSpace_of_mem (by decide) sign

end Token

/-! ## Written forms -/

/-- The text is a written form of the tokens: behind each of them stands a run of white space, which
may be empty. -/
inductive Spaced : List Token → List Char → Prop
  | nil : Spaced [] []
  | cons
      {token : Token}
      {tokens : List Token}
      {gap chars : List Char}
      (blank : ∀ c ∈ gap, Unicode.isWhiteSpace c = true)
      (others : Spaced tokens chars) :
      Spaced (token :: tokens) (token.chars ++ (gap ++ chars))

/-- Of two tokens next to each other one is a mark. -/
abbrev Parted (tokens : List Token) : Prop :=
  tokens.IsChain fun first second => first.isMark = true ∨ second.isMark = true

/-- The text is a written form of proper tokens, without words next to each other. -/
structure Placed (tokens : List Token) (chars : List Char) : Prop where
  written : Spaced tokens chars
  proper : ∀ token ∈ tokens, token.Proper
  parted : Parted tokens

/-- The tokens to come, where the input is a written form of them. -/
def placed : View Text Unit Token :=
  fun state tokens => Placed tokens (TokenStream.toList state.input)

namespace Placed

variable {token : Token} {tokens : List Token} {chars : List Char}

/-- The characters of the tokens start as the first of them does. -/
theorem head? (isPlaced : Placed tokens chars) :
    ∀ c ∈ chars.head?, ∃ token ∈ tokens.head?, token.Starts c := by
  cases isPlaced.written with
  | nil => simp
  | cons blank others =>
      obtain ⟨c, more, split, starts⟩ := (isPlaced.proper _ List.mem_cons_self).exists_start
      rw [split]
      simpa using starts

/-- What is placed has no white space in front. -/
theorem stopsAt_isWhiteSpace (isPlaced : Placed tokens chars) :
    StopsAt Unicode.isWhiteSpace chars := by
  intro c first
  obtain ⟨token, isFirst, starts⟩ := isPlaced.head? c first
  exact starts.notBlank (isPlaced.proper token (List.mem_of_mem_head? isFirst))

/-- Neither white space nor a comment comes where a token does. -/
theorem solidAt (isPlaced : Placed tokens chars) : language.SolidAt chars where
  notBlank := isPlaced.stopsAt_isWhiteSpace
  notLine some := absurd rfl some
  notBlock some := absurd rfl some

/-- What stands behind the first token: white space up to the others, with which neither a name nor
a number goes on. -/
theorem exists_gap (isPlaced : Placed (token :: tokens) chars) :
    ∃ gap others, chars = token.chars ++ (gap ++ others) ∧
      (∀ c ∈ gap, Unicode.isWhiteSpace c = true) ∧ Placed tokens others ∧
      (token.isMark = false → StopsAt Expr.isNameLetter (gap ++ others)) := by
  obtain ⟨written, proper, parted⟩ := isPlaced
  obtain ⟨neighbour, othersParted⟩ := List.isChain_cons.mp parted
  cases written with
  | cons blank written =>
      rename_i gap others
      have isPlaced : Placed tokens others :=
        ⟨written, fun other present => proper other (.tail _ present), othersParted⟩
      refine ⟨gap, others, rfl, blank, isPlaced, fun isWord => StopsAt.append ?_ ?_⟩
      · refine stopsAt_of_blank (fun _ => Expr.isWhiteSpace_of_isNameLetter) fun c first => ?_
        have isBlank := blank c (List.mem_of_mem_head? first)
        simp only [isBlank, Bool.not_true]
      · intro c first
        obtain ⟨next, isFirst, starts⟩ := isPlaced.head? c first
        have isProper := isPlaced.proper next (List.mem_of_mem_head? isFirst)
        have isMark : next.isMark = true :=
          (neighbour next isFirst).resolve_left (ne_true_of_eq_false isWord)
        cases next with
        | mark wanted =>
            obtain rfl : c = wanted := starts
            have none : markChars.all (fun d => !Expr.isNameLetter d) = true := by decide
            simpa using List.all_eq_true.mp none c isProper
        | name text => contradiction
        | integer value => contradiction

/-- Every token takes a character at least. -/
theorem length_le (isPlaced : Placed tokens chars) : tokens.length ≤ chars.length := by
  induction tokens generalizing chars with
  | nil => exact Nat.zero_le _
  | cons token tokens ih =>
      obtain ⟨c, more, split, -⟩ := (isPlaced.proper token List.mem_cons_self).exists_start
      obtain ⟨gap, others, rfl, -, othersPlaced, -⟩ := isPlaced.exists_gap
      have fewer := ih othersPlaced
      rw [split]
      simp only [List.length_cons, List.length_append]
      omega

/-- Without tokens nothing is placed. -/
theorem eq_nil (isPlaced : Placed [] chars) : chars = [] := by
  cases isPlaced.written
  rfl

end Placed

theorem placed_fits : placed.Fits :=
  fun state _ isPlaced =>
    Nat.le_trans isPlaced.length_le (TokenStream.length_toList_le_size state.input)

/-! ## Lexemes -/

section
variable {α : Type} {parser : Parser Text Unit α} {token : Token}

/-- A lexeme reads a token if its parser reads the characters of the token. -/
theorem lexeme_reads
    {value : α}
    (reads : token.Proper → ∀ ⦃behind⦄,
      (token.isMark = false → StopsAt Expr.isNameLetter behind) →
        parser.Reads View.tokens token.chars value behind)
    (tokens : List Token) :
    (language.lexeme parser).Reads placed [token] value tokens := by
  intro state viewed
  have isPlaced : Placed (token :: tokens) (TokenStream.toList state.input) := viewed
  have isProper := isPlaced.proper token List.mem_cons_self
  obtain ⟨gap, others, split, blank, othersPlaced, ends⟩ := isPlaced.exists_gap
  obtain ⟨middle, earlier, ran, left⟩ := reads isProper ends split
  obtain ⟨next, _, skipped, viewedOthers⟩ :=
    Language.whiteSpace_reads_run blank othersPlaced.solidAt left
  have taken : (!token.chars.isEmpty) = true := by
    obtain ⟨c, more, starts, -⟩ := isProper.exists_start
    rw [starts]
    rfl
  rw [taken] at ran
  obtain ⟨error, lexemeRan⟩ := Language.lexeme_yields_of_skips ran skipped
  refine ⟨next, error, lexemeRan, ?_⟩
  rw [placed, show TokenStream.toList next.input = others from viewedOthers]
  exact othersPlaced

/-- A lexeme refuses tokens if its parser refuses their characters. -/
theorem lexeme_refuses
    {tokens : List Token}
    (refuses : ∀ ⦃chars⦄, Placed tokens chars → parser.Refuses View.tokens chars) :
    (language.lexeme parser).Refuses placed tokens :=
  fun _ isPlaced => (refuses isPlaced).zipWith _ rfl

end

section
variable {text : String} {c : Char} (isText : text.toList = [c])
include isText

/-- A mark is read where it stands. -/
theorem symbol_reads (tokens : List Token) :
    (language.symbol text).Reads placed [.mark c] text tokens := by
  refine lexeme_reads (fun _ behind _ => ?_) tokens
  have reads := Parser.string_reads (σ := Text) (υ := Unit) text behind
  rwa [isText] at reads

/-- A mark is refused where another one comes. -/
theorem symbol_refuses {other : Char} (different : c ≠ other) (tokens : List Token) :
    (language.symbol text).Refuses placed (.mark other :: tokens) := by
  refine lexeme_refuses fun chars isPlaced => ?_
  refine Parser.string_refuses_head isText fun first => ?_
  obtain ⟨token, isFirst, starts⟩ := isPlaced.head? c first
  obtain rfl := Option.some.inj isFirst
  exact different starts

end

/-- Names start as identifiers of the language do. -/
theorem identStart_takesChar : language.identStart.TakesChar startsName :=
  Parser.TakesChar.orElse ((Parser.satisfy_takesChar Unicode.isAlphabetic).label _)
    (Parser.char_takesChar '_')

/-- A name is read as an identifier. -/
theorem identifier_reads (text : String) (tokens : List Token) :
    language.identifier.Reads placed [.name text] text tokens := by
  refine lexeme_reads (fun isName behind ends => ?_) tokens
  have free : language.isReservedName (String.ofList text.toList) = false := rfl
  have reads := Parser.unreserved_reads identStart_takesChar Language.plain_identLetter_takesChar
    isName (ends rfl) free "identifier" "reserved word "
  rwa [String.ofList_toList] at reads

/-- A mark is no identifier. -/
theorem identifier_refuses {c : Char} (isMark : c ∈ markChars) (tokens : List Token) :
    language.identifier.Refuses placed (.mark c :: tokens) := by
  refine lexeme_refuses fun chars isPlaced => ?_
  refine Parser.unreserved_refuses identStart_takesChar (fun d first => ?_) _ _ _
  obtain ⟨token, isFirst, starts⟩ := isPlaced.head? d first
  obtain rfl := Option.some.inj isFirst
  obtain rfl : d = c := starts
  have none : markChars.all (fun d => !startsName d) = true := by decide
  simpa using List.all_eq_true.mp none d isMark

/-- An integer within the range is read as such. -/
theorem integer_reads (value : Int) (tokens : List Token) :
    language.integer.Reads placed [.integer value] value tokens := by
  refine (lexeme_reads (fun inside behind ends => ?_) tokens).labels _
  refine language.signedDigits_integerOf_reads ⟨stopsAt_nil _, stopsAt_nil _⟩ (by decide) inside ?_
  refine (ends rfl).mono fun c letter => ?_
  rw [Expr.isNameLetter, Unicode.isAlphanumeric_of_isAlphanum letter, Bool.true_or]

/-! ## Lists -/

/-- The tokens of a binding. -/
def pairTokens (pair : String × Int) : List Token :=
  [.name pair.1, .mark ':', .integer pair.2]

/-- The tokens of a list of bindings. -/
def tokens (pairs : List (String × Int)) : List Token :=
  .mark '\x7b' :: [Token.mark ','].intercalate (pairs.map pairTokens) ++ [.mark '\x7d']

/-- A pair is read as a name, a colon and an integer. -/
theorem binding_reads (pair : String × Int) (tokens : List Token) :
    binding.Reads placed (pairTokens pair) pair tokens := by
  have isColon : ":".toList = [':'] := rfl
  have name := (identifier_reads pair.1 ([.mark ':'] ++ ([.integer pair.2] ++ tokens))).labels
    ["name"]
  have colon := symbol_reads isColon ([.integer pair.2] ++ tokens)
  have named := name.zipWith colon fun value _ => value
  exact named.zipWith (integer_reads pair.2 tokens) Prod.mk

/-- A mark starts no pair. -/
theorem binding_refuses {c : Char} (isMark : c ∈ markChars) (tokens : List Token) :
    binding.Refuses placed (.mark c :: tokens) := by
  have noName := (identifier_refuses isMark tokens).labels ["name"]
  exact (noName.zipWith _).zipWith _

/-- The tokens of bindings that stand behind others. -/
def moreTokens (pairs : List (String × Int)) : List Token :=
  pairs.flatMap fun pair => .mark ',' :: pairTokens pair

/-- Pairs behind the first come with a comma each. -/
theorem intercalate_pairTokens (pair : String × Int) (pairs : List (String × Int)) :
    [Token.mark ','].intercalate ((pair :: pairs).map pairTokens) =
      pairTokens pair ++ moreTokens pairs := by
  induction pairs generalizing pair with
  | nil => simp [moreTokens]
  | cons other pairs ih =>
      rw [List.map_cons, List.map_cons, List.intercalate_cons_cons, ← List.map_cons, ih]
      simp [moreTokens]

/-- Bindings behind commas are rounds of the parser that skips the comma. -/
theorem rounds (pairs : List (String × Int)) (tokens : List Token) :
    Parser.Rounds placed ((language.symbol ",").keepRight binding) (moreTokens pairs) pairs
      tokens := by
  induction pairs with
  | nil => exact .nil tokens
  | cons pair pairs ih =>
      have isComma : ",".toList = [','] := rfl
      have comma := symbol_reads isComma (pairTokens pair ++ (moreTokens pairs ++ tokens))
      have reads := comma.zipWith (binding_reads pair (moreTokens pairs ++ tokens))
        fun _ value => value
      exact .cons (by simp) reads ih

/-- A list of pairs is read up to the brace that closes it. -/
theorem commaSep_reads (pairs : List (String × Int)) (tokens : List Token) :
    (language.commaSep binding).Reads placed ([Token.mark ','].intercalate (pairs.map pairTokens))
      pairs (.mark '\x7d' :: tokens) := by
  have isMark : '\x7d' ∈ markChars := by decide
  cases pairs with
  | nil =>
      have refuses : (binding.sepBy1 (language.symbol ",")).Refuses placed
          ([] ++ .mark '\x7d' :: tokens) := (binding_refuses isMark tokens).zipWith _
      exact refuses.orElse_reads (Parser.pure_reads [])
  | cons pair pairs =>
      have comma : (language.symbol ",").Refuses placed (.mark '\x7d' :: tokens) :=
        symbol_refuses (rfl : ",".toList = [',']) (by decide) tokens
      have others := (rounds pairs (.mark '\x7d' :: tokens)).many (comma.zipWith _) placed_fits
      have first := binding_reads pair (moreTokens pairs ++ .mark '\x7d' :: tokens)
      rw [intercalate_pairTokens]
      exact (first.zipWith others List.cons).orElse _

/-- The pairs are read between braces. -/
theorem braces_read (pairs : List (String × Int)) :
    (language.braces (language.commaSep binding)).Reads placed (tokens pairs) pairs [] := by
  have isOpening : "\x7b".toList = ['\x7b'] := rfl
  have isClosing : "\x7d".toList = ['\x7d'] := rfl
  have opening := symbol_reads isOpening
    ([Token.mark ','].intercalate (pairs.map pairTokens) ++ ([.mark '\x7d'] ++ []))
  have inner := opening.zipWith (commaSep_reads pairs []) fun _ value => value
  exact inner.zipWith (symbol_reads isClosing []) fun value _ => value

/-- A pair has marks where its name and its integer end. -/
theorem pairTokens_parted
    {pair : String × Int}
    {tokens : List Token}
    (marked : ∀ token ∈ tokens.head?, token.isMark = true)
    (parted : Parted tokens) :
    Parted (pairTokens pair ++ tokens) := by
  have value : Parted (.integer pair.2 :: tokens) :=
    parted.cons fun _ first => .inr (marked _ first)
  have colon : Parted (.mark ':' :: .integer pair.2 :: tokens) := value.cons fun _ _ => .inl rfl
  exact List.isChain_cons_cons.mpr ⟨.inr rfl, colon⟩

/-- Names and numbers have marks on both sides. -/
theorem tokens_parted (pairs : List (String × Int)) : Parted (tokens pairs) := by
  have more (pairs : List (String × Int)) :
      (∀ token ∈ (moreTokens pairs ++ [Token.mark '\x7d']).head?, token.isMark = true) ∧
        Parted (moreTokens pairs ++ [.mark '\x7d']) := by
    induction pairs with
    | nil => exact ⟨fun _ first => Option.some.inj first ▸ rfl, .singleton _⟩
    | cons pair pairs ih =>
        have parted : Parted (pairTokens pair ++ (moreTokens pairs ++ [.mark '\x7d'])) :=
          pairTokens_parted ih.1 ih.2
        exact ⟨fun _ first => Option.some.inj first ▸ rfl, parted.cons fun _ _ => .inl rfl⟩
  cases pairs with
  | nil => exact List.isChain_cons_cons.mpr ⟨.inl rfl, .singleton _⟩
  | cons pair pairs =>
      rw [tokens, intercalate_pairTokens, List.cons_append, List.append_assoc]
      exact List.isChain_cons.mpr
        ⟨fun _ _ => .inl rfl, pairTokens_parted (more pairs).1 (more pairs).2⟩

/-- Names and integers within the range make proper tokens. -/
theorem tokens_proper
    {pairs : List (String × Int)}
    (names : ∀ pair ∈ pairs, IsName pair.1)
    (values : ∀ pair ∈ pairs, (IntegerRange.signed 64).contains pair.2 = true) :
    ∀ token ∈ tokens pairs, token.Proper := by
  have mark {c : Char} (isMark : c ∈ markChars) : (Token.mark c).Proper := isMark
  have inPair : ∀ pair ∈ pairs, ∀ token ∈ pairTokens pair, token.Proper := by
    intro pair present
    exact List.forall_mem_cons.mpr ⟨names pair present, List.forall_mem_cons.mpr
      ⟨mark (by decide), List.forall_mem_singleton.mpr (values pair present)⟩⟩
  have between : ∀ token ∈ [Token.mark ','].intercalate (pairs.map pairTokens), token.Proper := by
    cases pairs with
    | nil => exact List.forall_mem_nil _
    | cons pair pairs =>
        obtain ⟨first, others⟩ := List.forall_mem_cons.mp inPair
        rw [intercalate_pairTokens, List.forall_mem_append]
        refine ⟨first, fun token present => ?_⟩
        obtain ⟨other, inside, present⟩ := List.mem_flatMap.mp present
        rcases List.mem_cons.mp present with rfl | present
        · exact mark (by decide)
        · exact others other inside token present
  rw [tokens, List.cons_append, List.forall_mem_cons, List.forall_mem_append]
  exact ⟨mark (by decide), between, List.forall_mem_singleton.mpr (mark (by decide))⟩

/-! ## The last pair with a name -/

/-- The value of a name is that of the last pair with the name. -/
theorem value?_ofPairs_iff {pairs : List (String × Int)} {name : String} {value : Int} :
    (ofPairs pairs).value? name = some value ↔
      ∃ earlier later, pairs = earlier ++ (name, value) :: later ∧
        ∀ other, (name, other) ∉ later := by
  rw [value?, ofPairs, List.lookup_eq_some_iff]
  constructor
  · rintro ⟨later, earlier, split, absent⟩
    refine ⟨earlier.reverse, later.reverse, ?_, fun other present => ?_⟩
    · rw [List.reverse_eq_iff.mp split]
      simp
    · simpa using absent _ (List.mem_reverse.mp present)
  · rintro ⟨earlier, later, rfl, absent⟩
    refine ⟨later.reverse, earlier.reverse, by simp, fun pair present => bne_iff_ne.mpr ?_⟩
    rintro rfl
    exact absent pair.2 (List.mem_reverse.mp present)

-- Applied to a text, the two sides of an equation of `parse` or `ofText` would be compared by
-- running the parser. The definitions are therefore opened as functions.

/-- The pairs that are read are the bindings. -/
theorem parse_eq_ok
    {text : String}
    {pairs : List (String × Int)}
    (found : whole.parse () "--let" (Text.ofString text) = .ok (.ok pairs)) :
    parse text = .ok (.ok (ofPairs pairs)) := by
  have opened : parse = parse := rfl
  conv at opened => rhs; delta parse
  rw [opened]
  beta_reduce
  rw [found]

/-- Bindings that are read are those of the command line. -/
theorem ofText_eq_ok
    {text : String}
    {bindings : Bindings}
    (parsed : parse text = .ok (.ok bindings)) :
    ofText text = .ok bindings := by
  have opened : ofText = ofText := rfl
  conv at opened => rhs; delta ofText
  rw [opened]
  beta_reduce
  rw [parsed]

/-- A list of bindings is read from any text in which it is written, and binds each name to the
value of its last pair. -/
theorem ofText_tokens
    {pairs : List (String × Int)}
    (names : ∀ pair ∈ pairs, IsName pair.1)
    (values : ∀ pair ∈ pairs, (IntegerRange.signed 64).contains pair.2 = true)
    {text : String}
    {front body : List Char}
    (blank : ∀ c ∈ front, Unicode.isWhiteSpace c = true)
    (written : Spaced (tokens pairs) body)
    (split : text.toList = front ++ body) :
    ∃ bindings, ofText text = .ok bindings ∧ ∀ name value, bindings.value? name = some value ↔
      ∃ earlier later, pairs = earlier ++ (name, value) :: later ∧
        ∀ other, (name, other) ∉ later := by
  have isPlaced : Placed (tokens pairs ++ []) body := by
    rw [List.append_nil]
    exact ⟨written, tokens_proper names values, tokens_parted pairs⟩
  have viewed : View.tokens (⟨Text.ofString text, .start "--let", ()⟩ : State Text Unit)
      (front ++ body) := by
    rw [← split]
    exact Text.toList_ofString text
  obtain ⟨inside, spaceError, skipped, viewedInside⟩ :=
    Language.whiteSpace_reads_run blank isPlaced.solidAt viewed
  have placedInside : placed inside (tokens pairs ++ []) := by
    rw [placed, show TokenStream.toList inside.input = body from viewedInside]
    exact isPlaced
  obtain ⟨behind, error, ran, placedBehind⟩ := braces_read pairs placedInside
  obtain ⟨last, endError, ended, -⟩ := Parser.endOfInput_reads placedBehind.eq_nil
  have before : (language.whiteSpace.keepRight (language.braces (language.commaSep binding))).Yields
      ⟨Text.ofString text, .start "--let", ()⟩ _ pairs behind _ :=
    Parser.zipWith_yields_iff.mpr
      ⟨_, (), inside, spaceError, _, pairs, error, skipped, ran, rfl, rfl, rfl⟩
  have found : whole.parse () "--let" (Text.ofString text) = .ok (.ok pairs) :=
    Parser.parse_eq_ok_iff.mpr ⟨_, last, _, Parser.zipWith_yields_iff.mpr
      ⟨_, pairs, behind, _, _, (), endError, before, ended, rfl, rfl, rfl⟩⟩
  exact ⟨ofPairs pairs, ofText_eq_ok (parse_eq_ok found), fun name value => value?_ofPairs_iff⟩

/-- The least integer of 64 bits, a name with an underscore and a prime, and a name bound twice. -/
theorem ofText_tokens_twice :
    ∃ bindings, ofText "\n\x7bx :-9223372036854775808, _a':\t7,x:0\x7d " = .ok bindings ∧
      bindings.value? "x" = some 0 ∧ bindings.value? "_a'" = some 7 := by
  have names : ∀ pair ∈ [("x", (-9223372036854775808 : Int)), ("_a'", 7), ("x", 0)],
      IsName pair.1 := by decide
  have newline : ∀ c ∈ ['\n'], Unicode.isWhiteSpace c = true :=
    List.forall_mem_singleton.mpr (by decide)
  have none : ∀ c ∈ ([] : List Char), Unicode.isWhiteSpace c = true := List.forall_mem_nil _
  have space : ∀ c ∈ [' '], Unicode.isWhiteSpace c = true :=
    List.forall_mem_singleton.mpr (by decide)
  have tab : ∀ c ∈ ['\t'], Unicode.isWhiteSpace c = true :=
    List.forall_mem_singleton.mpr (by decide)
  have written : Spaced (tokens [("x", -9223372036854775808), ("_a'", 7), ("x", 0)]) _ :=
    .cons none (.cons space (.cons none (.cons none (.cons space (.cons none (.cons tab (.cons none
      (.cons none (.cons none (.cons none (.cons none (.cons space .nil))))))))))))
  obtain ⟨bindings, read, values⟩ := ofText_tokens names (by decide) newline written
    (show "\n\x7bx :-9223372036854775808, _a':\t7,x:0\x7d ".toList = _ by decide)
  exact ⟨bindings, read, (values "x" 0).mpr ⟨[_, _], [], rfl, by simp⟩,
    (values "_a'" 7).mpr ⟨[_], [_], rfl, by simp⟩⟩

end Bindings
end Predictive
