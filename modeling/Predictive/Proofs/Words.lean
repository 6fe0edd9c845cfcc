import Mathlib.Data.List.Forall2
import Predictive.Lexer.Word
import Predictive.Proofs.ArithmeticTokens

/-!
# How words are read

A word is a character of one class with characters of another behind it, and it goes on as long
as these come. So a text starts with at most one word that is followed by no further letter. A
word that is not reserved is read as it stands, and one that is reserved is given back. A fixed
word is accepted in all its spellings, if none of them is the beginning of a longer word.
-/

namespace Predictive

/-- A first character of one class, with characters of another class behind it. -/
def IsWord (start letter : Char → Bool) : List Char → Prop
  | [] => False
  | c :: others => start c = true ∧ ∀ d ∈ others, letter d = true

namespace IsWord

variable {start letter : Char → Bool} {word other rest behind : List Char}

instance (start letter : Char → Bool) : ∀ word, Decidable (IsWord start letter word)
  | [] => inferInstanceAs (Decidable False)
  | c :: others =>
      decidable_of_iff (start c = true ∧ others.all letter = true)
        (and_congr Iff.rfl List.all_eq_true)

/-- A word has its first letter at least. -/
theorem ne_nil (isWord : IsWord start letter word) : word ≠ [] := by
  rintro rfl
  exact isWord

/-- All letters of a word are letters if the first one is. -/
theorem all (isWord : IsWord letter letter word) : ∀ c ∈ word, letter c = true := by
  cases word with
  | nil => contradiction
  | cons c others => exact List.forall_mem_cons.mpr isWord

/-- A word starts with nothing but a first character. -/
theorem stopsAt_append
    (isWord : IsWord start letter word)
    {other : Char → Bool}
    (apart : ∀ c, start c = true → other c = false)
    (rest : List Char) :
    StopsAt other (word ++ rest) := by
  cases word with
  | nil => contradiction
  | cons c others => exact (stopsAt_cons_iff _ _ _).mpr (apart c isWord.1)

/-- A word never starts with what starts none. -/
theorem not_stopsAt_append (isWord : IsWord start letter word) (rest : List Char) :
    ¬ StopsAt start (word ++ rest) := by
  intro stops
  cases word with
  | nil => contradiction
  | cons c others =>
      rw [List.cons_append, stopsAt_cons_iff, isWord.1] at stops
      contradiction

/-- What comes behind a word within a longer one is a letter. -/
theorem letter_of_append
    {c : Char}
    (some : word ≠ [])
    (isWord : IsWord start letter (word ++ c :: rest)) :
    letter c = true := by
  obtain ⟨first, others, rfl⟩ := List.exists_cons_of_ne_nil some
  exact isWord.2 c (by simp)

/-- A word that no letter follows is as long as any other one at its place. -/
theorem exists_eq_append
    (isOther : IsWord start letter other)
    (some : word ≠ [])
    (ends : StopsAt letter rest)
    (same : word ++ rest = other ++ behind) :
    ∃ more, word = other ++ more := by
  rcases List.append_eq_append_iff.mp same with ⟨more, rfl, split⟩ | ⟨more, rfl, -⟩
  · cases more with
    | nil => exact ⟨[], by simp⟩
    | cons c more =>
        rw [split, List.cons_append, stopsAt_cons_iff] at ends
        rw [isOther.letter_of_append some] at ends
        contradiction
  · exact ⟨more, rfl⟩

/-- A text starts with no more than one word that no letter follows. -/
theorem eq_of_append
    (isWord : IsWord start letter word)
    (isOther : IsWord start letter other)
    (ends : StopsAt letter rest)
    (otherEnds : StopsAt letter behind)
    (same : word ++ rest = other ++ behind) :
    word = other := by
  obtain ⟨more, rfl⟩ := isOther.exists_eq_append isWord.ne_nil ends same
  obtain ⟨fewer, split⟩ := isWord.exists_eq_append isOther.ne_nil otherEnds same.symm
  rw [List.append_assoc, List.self_eq_append_right] at split
  rw [(List.append_eq_nil_iff.mp split).1, List.append_nil]

end IsWord

/-- Decimal digits are a word of digits. -/
theorem isWord_toDigits (n : Nat) : IsWord Char.isDigit Char.isDigit (Nat.toDigits 10 n) := by
  have all : ∀ c ∈ Nat.toDigits 10 n, c.isDigit = true :=
    fun c present => Nat.isDigit_of_mem_toDigits (by decide) (by decide) present
  have some : Nat.toDigits 10 n ≠ [] := Nat.toDigits_ne_nil
  obtain ⟨c, others, split⟩ := List.exists_cons_of_ne_nil some
  rw [split] at all ⊢
  exact List.forall_mem_cons.mp all

/-! ## Spellings -/

/-- The characters that are accepted for a character of a keyword without regard to case. -/
def Unicode.caseForms (c : Char) : List Char :=
  if isAlphabetic c then [(toLower c).headD c, (toUpper c).headD c] else [c]

namespace Language

variable {σ υ : Type}

/-- The characters that the language accepts for a character of a keyword. -/
def formsOf (language : Language σ υ) (c : Char) : List Char :=
  if language.caseSensitive then [c] else Unicode.caseForms c

/-- The characters spell the keyword. -/
def Spells (language : Language σ υ) (name word : List Char) : Prop :=
  List.Forall₂ (fun c d => d ∈ language.formsOf c) name word

/-- Where the case of letters matters, a name is spelled as it is. -/
theorem spells_iff_eq
    {language : Language σ υ}
    (sensitive : language.caseSensitive = true)
    {name word : List Char} :
    language.Spells name word ↔ word = name := by
  have same : (fun c d => d ∈ language.formsOf c) = (fun c d => c = d) := by
    funext c d
    simp [formsOf, sensitive, eq_comm]
  rw [Spells, same, List.forall₂_eq_eq_eq, eq_comm]

/-- Where the case of letters does not matter, a name is spelled in any case of its letters. -/
theorem spells_iff_forms
    {language : Language σ υ}
    (ignoring : language.caseSensitive = false)
    {name word : List Char} :
    language.Spells name word ↔ List.Forall₂ (fun c d => d ∈ Unicode.caseForms c) name word := by
  have same : (fun c d => d ∈ language.formsOf c) = (fun c d => d ∈ Unicode.caseForms c) := by
    funext c d
    simp [formsOf, ignoring]
  rw [Spells, same]

/-- A name with letters is not spelled by nothing. -/
theorem Spells.ne_nil
    {language : Language σ υ}
    {name word : List Char}
    (spells : language.Spells name word)
    (some : name ≠ []) :
    word ≠ [] := by
  rintro rfl
  exact some (List.forall₂_nil_right_iff.mp spells)

end Language

/-! ## Words that are not reserved -/

namespace Parser

variable {σ υ : Type} [TokenStream σ Char]

/-- A word of two classes of characters, as a text. -/
def wordOf (first other : Parser σ υ Char) (kind : String) : Parser σ υ String :=
  (first.zipWith other.many fun c cs => String.ofList (c :: cs)).label kind

variable
  [LawfulTokenStream σ]
  {first other : Parser σ υ Char}
  {start letter : Char → Bool}
  (starts : first.TakesChar start)
include starts

/-- What starts no word is refused. -/
theorem wordOf_refuses
    {rest : List Char}
    (stops : StopsAt start rest)
    (kind : String) :
    (wordOf first other kind).Refuses View.tokens rest :=
  ((starts.refuses stops).zipWith _).labels _

/-- What starts no word is refused as a free word. -/
theorem unreserved_refuses
    {rest : List Char}
    (stops : StopsAt start rest)
    (kind : String)
    (isReserved : String → Bool)
    (complaint : String) :
    (Language.unreserved first other kind isReserved complaint).attempt.Refuses View.tokens rest :=
  attempt_refuses fun _ viewed =>
    let ⟨error, failed⟩ := (wordOf_refuses starts stops kind).bind viewed
    ⟨false, error, failed⟩

variable
  (letters : other.TakesChar letter)
  {word rest : List Char}
  (isWord : IsWord start letter word)
  (ends : StopsAt letter rest)
include letters isWord ends

/-- A word is read up to the end of its letters. -/
theorem wordOf_reads (kind : String) :
    (wordOf first other kind).Reads View.tokens word (String.ofList word) rest := by
  cases word with
  | nil => contradiction
  | cons c others =>
      have start := starts.reads isWord.1 (others ++ rest)
      have goOn := letters.many_reads isWord.2 ends
      exact (start.zipWith goOn fun c cs => String.ofList (c :: cs)).labels [kind]

/-- A word that is not reserved is read as such. -/
theorem unreserved_reads
    {isReserved : String → Bool}
    (free : isReserved (String.ofList word) = false)
    (kind complaint : String) :
    (Language.unreserved first other kind isReserved complaint).attempt.Reads View.tokens
      word (String.ofList word) rest := by
  refine ((wordOf_reads starts letters isWord ends kind).bindNil ?_).attempt
  rw [if_neg (ne_true_of_eq_false free)]
  exact pure_reads _

/-- A reserved word is given back after all of it has been read, with a complaint behind it. -/
theorem unreserved_fails
    {isReserved : String → Bool}
    (taken : isReserved (String.ofList word) = true)
    (kind complaint : String)
    {state : State σ υ}
    (viewed : View.tokens state (word ++ rest)) :
    ∃ (earlier : ParseError) (position : Position),
      (Language.unreserved first other kind isReserved complaint).attempt.Fails state false
        (earlier.merge (.single position .unexpected (complaint ++ String.ofList word))) := by
  obtain ⟨middle, earlier, ran, -⟩ := wordOf_reads starts letters isWord ends kind viewed
  have failed : (Language.unreserved first other kind isReserved complaint).Fails state
      (!word.isEmpty)
      (earlier.merge (.single middle.position .unexpected (complaint ++ String.ofList word))) := by
    refine (run_bind_of_ok ran _).trans ?_
    rw [if_pos taken]
    rfl
  refine ⟨earlier, middle.position, ?_⟩
  rw [Fails, attempt, run_mk, failed]
  rfl

end Parser

/-! ## Fixed words -/

namespace Language

section
variable {σ υ : Type} [TokenStream σ Char]

/-- The predefined languages share the other characters of their identifiers. -/
theorem plain_identLetter_takesChar :
    (plain : Language σ υ).identLetter.TakesChar Expr.isNameLetter :=
  Parser.TakesChar.orElse ((Parser.satisfy_takesChar Unicode.isAlphanumeric).label _)
    (Parser.satisfy_takesChar _)

end

variable {σ υ : Type} [TokenStream σ Char]

/-- The cases of a letter are those that the table of cases has. -/
theorem anyCase_takesChar (c : Char) :
    (anyCase c : Parser σ υ Char).TakesChar fun d => (Unicode.caseForms c).contains d := by
  unfold anyCase Unicode.caseForms
  split
  · have either := Parser.TakesChar.orElse (σ := σ) (υ := υ)
      (Parser.char_takesChar ((Unicode.toLower c).headD c))
      (Parser.char_takesChar ((Unicode.toUpper c).headD c))
    simpa only [List.contains_cons, List.contains_nil, Bool.or_false] using either
  · simpa only [List.contains_cons, List.contains_nil, Bool.or_false] using
      Parser.char_takesChar (σ := σ) (υ := υ) c

/-- The parsers of the characters of a keyword, one behind the other. -/
def inAnyCase (title : String) (name : List Char) (read : Parser σ υ Unit) : Parser σ υ Unit :=
  name.foldl (fun read c => read.keepLeft ((anyCase c).label title)) read

/-- Ignoring case, the letters of a name are read one by one. -/
theorem caseString_of_ignoringCase
    {language : Language σ υ}
    (ignoring : language.caseSensitive = false)
    (name : String) :
    language.caseString name =
      (inAnyCase (Quoted.string name) name.toList (Parser.pure ())).map fun _ => name := by
  unfold caseString
  rw [if_neg (ne_true_of_eq_false ignoring)]
  rfl

theorem caseString_of_caseSensitive
    {language : Language σ υ}
    (sensitive : language.caseSensitive = true)
    (name : String) :
    language.caseString name = Parser.string name := by
  unfold caseString
  rw [if_pos sensitive]

variable [LawfulTokenStream σ]

/-- A string takes its text and nothing else. -/
theorem string_takesOnly (text : String) :
    (Parser.string text : Parser σ υ String).TakesOnly fun word _ => word = text.toList := by
  intro state consumed value next error ran
  obtain ⟨taken, inner, -⟩ := Parser.map_yields_iff.mp ran
  obtain ⟨rest, dropped, -, rfl, rfl, -⟩ := Parser.tokens_yields_iff.mp inner
  exact ⟨text.toList, Parser.toList_of_dropTokens dropped, rfl⟩

omit [LawfulTokenStream σ] in
theorem string_returns (text : String) : (Parser.string text : Parser σ υ String).Returns := by
  refine Parser.Returns.map (fun state => ?_) _
  unfold Parser.tokens
  rw [Parser.run_mk]
  split <;> exact ⟨_, rfl⟩

section
variable {read : Parser σ υ Unit} {front name word : List Char}

/-- Letters in any case are read one by one, behind what was read before them. -/
theorem inAnyCase_reads
    (reads : ∀ rest, read.Reads View.tokens front () rest)
    (spells : List.Forall₂ (fun c d => d ∈ Unicode.caseForms c) name word)
    (title : String)
    (rest : List Char) :
    (inAnyCase title name read).Reads View.tokens (front ++ word) () rest := by
  induction spells generalizing read front with
  | nil =>
      rw [List.append_nil]
      exact reads rest
  | @cons c d name word form others ih =>
      have accepts : (Unicode.caseForms c).contains d = true := List.contains_iff_mem.mpr form
      have step (rest : List Char) : (read.keepLeft ((anyCase c).label title)).Reads View.tokens
          (front ++ [d]) () rest := by
        have one := ((anyCase_takesChar (σ := σ) (υ := υ) c).reads accepts rest).labels [title]
        exact (reads _).zipWith one fun value _ => value
      rw [List.append_cons]
      exact ih step

/-- Nothing else than the letters in any case is taken. -/
theorem inAnyCase_takesOnly
    (takes : read.TakesOnly fun word _ => List.Forall₂ (fun c d => d ∈ Unicode.caseForms c)
      front word)
    (title : String) :
    (inAnyCase title name read).TakesOnly fun word _ =>
      List.Forall₂ (fun c d => d ∈ Unicode.caseForms c) (front ++ name) word := by
  induction name generalizing read front with
  | nil => simpa [inAnyCase] using takes
  | cons c name ih =>
      have one := ((anyCase_takesChar (σ := σ) (υ := υ) c).label title).takesOnly
      have step : (read.keepLeft ((anyCase c).label title)).TakesOnly fun word _ =>
          List.Forall₂ (fun c d => d ∈ Unicode.caseForms c) (front ++ [c]) word := by
        refine takes.zipWith one fun word value more other spells single => ?_
        obtain ⟨d, rfl, valued⟩ := single
        obtain ⟨-, form⟩ := Option.guard_eq_some_iff.mp valued
        exact List.rel_append spells (.cons (List.contains_iff_mem.mp form) .nil)
      rw [List.append_cons]
      exact ih step

omit [LawfulTokenStream σ] in
/-- Reading letters in any case returns. -/
theorem inAnyCase_returns (returns : read.Returns) (title : String) (name : List Char) :
    (inAnyCase title name read).Returns := by
  induction name generalizing read with
  | nil => exact returns
  | cons c name ih =>
      exact ih (returns.zipWith ((anyCase_takesChar c).label title).returns _)

end

section
variable (language : Language σ υ) (name : String)

/-- A keyword is read from any of its spellings. -/
theorem caseString_reads
    {word : List Char}
    (spells : language.Spells name.toList word)
    (rest : List Char) :
    (language.caseString name).Reads View.tokens word name rest := by
  cases sensitive : language.caseSensitive with
  | true =>
      rw [caseString_of_caseSensitive sensitive, (spells_iff_eq sensitive).mp spells]
      exact Parser.string_reads name rest
  | false =>
      rw [caseString_of_ignoringCase sensitive]
      have start (rest : List Char) : (Parser.pure () : Parser σ υ Unit).Reads View.tokens
          [] () rest := Parser.pure_reads ()
      exact (inAnyCase_reads start ((spells_iff_forms sensitive).mp spells) _ rest).map _

/-- A name takes its spellings and nothing else. -/
theorem caseString_takesOnly :
    (language.caseString name).TakesOnly fun word _ => language.Spells name.toList word := by
  cases sensitive : language.caseSensitive with
  | true =>
      rw [caseString_of_caseSensitive sensitive]
      intro state consumed value next error ran
      obtain ⟨word, split, rfl⟩ := string_takesOnly name ran
      exact ⟨_, split, (spells_iff_eq sensitive).mpr rfl⟩
  | false =>
      rw [caseString_of_ignoringCase sensitive]
      have start : (Parser.pure () : Parser σ υ Unit).TakesOnly fun word _ =>
          List.Forall₂ (fun c d => d ∈ Unicode.caseForms c) [] word :=
        Parser.pure_takesOnly .nil
      refine (inAnyCase_takesOnly start (Quoted.string name)).map fun word _ forms => ?_
      exact (spells_iff_forms sensitive).mpr forms

omit [LawfulTokenStream σ] in
/-- Reading a name returns, whether the case matters or not. -/
theorem caseString_returns : (language.caseString name).Returns := by
  cases sensitive : language.caseSensitive with
  | true =>
      rw [caseString_of_caseSensitive sensitive]
      exact string_returns name
  | false =>
      rw [caseString_of_ignoringCase sensitive]
      exact (inAnyCase_returns (Parser.pure_returns ()) _ _).map _

end

/-! ## Words as a whole -/

section
variable
  {read : Parser σ υ String}
  {other : Parser σ υ Char}
  {letter : Char → Bool}
  (letters : other.TakesChar letter)
  {accepts : List Char → Prop}
include letters

/-- The end of a word is where no letter comes. -/
theorem wordEnd_reads
    {rest : List Char}
    (ends : StopsAt letter rest)
    (text : String) :
    (wordEnd other text).Reads View.tokens [] () rest :=
  (Parser.Refuses.notFollowedBy_reads (letters.refuses ends)).labels _

/-- A word ends where no letter comes, and nothing is taken there. -/
theorem stopsAt_of_wordEnd
    {text : String}
    {state next : State σ υ}
    {consumed : Bool}
    {error : ParseError}
    (ran : (wordEnd other text).Yields state consumed () next error) :
    next = state ∧ StopsAt letter (TokenStream.toList state.input) := by
  obtain ⟨found, inner⟩ := ran.of_labels
  refine ⟨inner.of_notFollowedBy.2, fun c first => ?_⟩
  cases goesOn : letter c with
  | false => rfl
  | true =>
      obtain ⟨others, split⟩ := List.head?_eq_some_iff.mp first
      obtain ⟨after, earlier, read, -⟩ := letters.reads goesOn others split
      rw [Parser.Yields, Parser.notFollowedBy, Parser.run_mk, read] at inner
      simp [Except.map] at inner

/-- A whole word is read where no letter comes behind it. -/
theorem wholeWord_reads
    {word rest : List Char}
    {value : String}
    (reads : read.Reads View.tokens word value rest)
    (ends : StopsAt letter rest)
    (text : String) :
    (read.keepRight (wordEnd other text)).attempt.Reads View.tokens word () rest := by
  have both : (read.keepRight (wordEnd other text)).Reads View.tokens (word ++ []) () rest :=
    reads.zipWith (wordEnd_reads letters ends text) fun _ value => value
  rw [List.append_nil] at both
  exact both.attempt

/-- What is accepted is accepted as far as it goes. -/
theorem wholeWord_takes
    (takes : read.TakesOnly fun word _ => accepts word)
    {text : String}
    {state next : State σ υ}
    {consumed : Bool}
    {error : ParseError}
    (ran : (read.keepRight (wordEnd other text)).attempt.Yields state consumed () next error) :
    ∃ word, TokenStream.toList state.input = word ++ TokenStream.toList next.input ∧
      accepts word ∧ StopsAt letter (TokenStream.toList next.input) := by
  obtain ⟨_, value, middle, _, _, _, _, first, last, -, -, -⟩ :=
    Parser.zipWith_yields_iff.mp (Parser.attempt_yields_iff.mp ran)
  obtain ⟨rfl, ends⟩ := stopsAt_of_wordEnd letters last
  obtain ⟨word, split, accepted⟩ := takes first
  exact ⟨word, split, accepted, ends⟩

/-- A word is refused as a whole one where every way to read it has a letter behind it. -/
theorem wholeWord_refuses
    (takes : read.TakesOnly fun word _ => accepts word)
    (returns : read.Returns)
    {symbols : List Char}
    (none : ∀ word rest, symbols = word ++ rest → accepts word → ¬ StopsAt letter rest)
    (text : String) :
    (read.keepRight (wordEnd other text)).attempt.Refuses View.tokens symbols := by
  have endReturns : (wordEnd other text).Returns := letters.returns.notFollowedBy.labels _
  refine Parser.attempt_refuses fun state viewed => ?_
  obtain ⟨⟨consumed, ⟨⟨⟩, next, error⟩ | error⟩, ran⟩ :=
    (returns.zipWith endReturns fun _ value => value) state
  · obtain ⟨word, split, accepted, ends⟩ :=
      wholeWord_takes letters takes (Parser.attempt_yields_iff.mpr ran)
    exact absurd ends (none word _ (viewed.symm.trans split) accepted)
  · exact ⟨consumed, error, ran⟩

end

end Language
end Predictive
