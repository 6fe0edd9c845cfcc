import Predictive.Proofs.LexemeReading
import Predictive.Proofs.PositionCoherence
import Predictive.Proofs.StreamIndependence

/-!
# Sources of lexemes

A source that is written as some lexemes with single spaces between them is read as just these
lexemes. A space ends each of them, since it belongs to none, and no lexeme starts white space or
a comment. Each lexeme is found at the position to which the texts in front of it lead.
-/

namespace Predictive

/-! ## Positions of words -/

/-- What was taken from a text is the difference between what was and what is to come. -/
theorem Text.Takes.toList_eq
    {before after : Text}
    {taken : String}
    (takes : before.Takes taken after) :
    before.toList = taken.toList ++ after.toList := by
  obtain ⟨cursor, order, rfl, shown⟩ := takes
  obtain ⟨front, back, splits, splitsBehind⟩ :=
    String.copy_slice_eq_iff_splits.mp ⟨order, shown⟩
  obtain ⟨-, rest⟩ := before.cursor.splits.eq splits
  obtain ⟨-, restBehind⟩ := cursor.splits.eq splitsBehind
  rw [toList, toList, Text.rest, Text.rest, rest, restBehind, String.toList_append]

/-- A tracking parser that reads a word moves the position by the characters of the word. -/
theorem Parser.Reads.moves
    {υ α : Type}
    {parser : Parser Text υ α}
    (composed : Composed Tracking parser)
    {word rest : List Char}
    {value : α}
    (reads : parser.Reads View.tokens word value rest)
    {state : State Text υ}
    (viewed : View.tokens state (word ++ rest)) :
    ∃ next error, parser.Yields state (!word.isEmpty) value next error ∧
      View.tokens next rest ∧ next.position = state.position.afterChars word := by
  obtain ⟨next, error, ran, left⟩ := reads viewed
  obtain ⟨taken, takes, moved⟩ :=
    composed.relates State.advances_composes (fun _ _ tracking => tracking.advances) ran
  have split : word ++ rest = taken.toList ++ rest := by
    rw [← viewed, ← left]
    exact takes.toList_eq
  refine ⟨next, error, ran, left, ?_⟩
  rw [moved, Position.afterString, List.append_cancel_right split]

/-! ## Solid text -/

/-- A mark without white space stands within a text if white space comes behind the text. -/
theorem prefix_of_prefix_append
    {mark text behind : List Char}
    (solid : ∀ c ∈ mark, Unicode.isWhiteSpace c = false)
    (blank : StopsAt (fun c => !Unicode.isWhiteSpace c) behind)
    (starts : mark <+: text ++ behind) :
    mark <+: text := by
  rcases List.prefix_or_prefix_of_prefix starts (List.prefix_append text behind) with
    within | ⟨more, rfl⟩
  · exact within
  · cases more with
    | nil => simp
    | cons c more =>
        obtain ⟨others, rfl⟩ := (List.prefix_append_right_inj text).mp starts
        have notBlank := solid c (by simp)
        rw [List.cons_append, stopsAt_cons_iff, notBlank] at blank
        contradiction

/-- A text that is solid is so with white space behind it, if there is none in the marks of
comments. -/
theorem Language.SolidAt.append_blank
    {σ υ : Type}
    {language : Language σ υ}
    (marks : ∀ c ∈ language.commentLine.toList ++ language.commentStart.toList,
      Unicode.isWhiteSpace c = false)
    {text behind : List Char}
    (solid : language.SolidAt text)
    (nonempty : text ≠ [])
    (blank : StopsAt (fun c => !Unicode.isWhiteSpace c) behind) :
    language.SolidAt (text ++ behind) where
  notBlank := by
    obtain ⟨c, others, rfl⟩ := List.exists_cons_of_ne_nil nonempty
    exact (stopsAt_cons_iff _ _ _).mpr ((stopsAt_cons_iff _ _ _).mp solid.notBlank)
  notLine some starts := by
    refine solid.notLine some (prefix_of_prefix_append (fun c inside => marks c ?_) blank starts)
    exact List.mem_append_left _ inside
  notBlock some starts := by
    refine solid.notBlock some (prefix_of_prefix_append (fun c inside => marks c ?_) blank starts)
    exact List.mem_append_right _ inside

namespace Style

open Unicode (isAlphabetic isWhiteSpace)
open Predictive.Language (isOperatorChar)

variable (style : Style)

/-- Comments do not start with white space in either style. -/
theorem commentMarks_solid :
    ∀ c ∈ style.language.commentLine.toList ++ style.language.commentStart.toList,
      isWhiteSpace c = false :=
  fun _ => Unicode.isWhiteSpace_of_mem (by cases style <;> decide)

/-- Whether words, numbers or literals start with the character. -/
def startsPlain (c : Char) : Bool :=
  isAlphabetic c || c.isDigit || "'\"".toList.contains c

/-- What starts a lexeme other than an operator is no white space. -/
theorem isWhiteSpace_of_startsPlain {c : Char} (starts : startsPlain c = true) :
    isWhiteSpace c = false := by
  simp only [startsPlain, Bool.or_eq_true, List.contains_iff_mem] at starts
  rcases starts with (letter | digit) | quote
  · exact Unicode.isWhiteSpace_of_isAlphabetic letter
  · exact Unicode.isWhiteSpace_of_isDigit digit
  · exact Unicode.isWhiteSpace_of_mem (by decide) quote

/-- No comment starts like a word, a number or a literal. -/
theorem comments_apart :
    StopsAt startsPlain style.language.commentLine.toList ∧
      StopsAt startsPlain style.language.commentStart.toList := by
  cases style <;> decide

/-- Where a lexeme other than an operator starts, nothing can be skipped. -/
theorem solidAt_of_startsPlain {c : Char} (starts : startsPlain c = true) (others : List Char) :
    style.language.SolidAt (c :: others) := by
  have apart {mark : String} (stops : StopsAt startsPlain mark.toList) (some : mark ≠ "") :
      ¬ mark.toList <+: c :: others := by
    intro isPrefix
    rcases List.prefix_cons_iff.mp isPrefix with none | ⟨more, split, -⟩
    · exact Language.toList_ne_nil some none
    · rw [split, stopsAt_cons_iff, starts] at stops
      contradiction
  obtain ⟨line, block⟩ := style.comments_apart
  exact ⟨(stopsAt_cons_iff _ _ _).mpr (isWhiteSpace_of_startsPlain starts), apart line,
    apart block⟩

/-- A word that starts as such a lexeme does is not skipped. -/
theorem solidAt_of_isWord
    {start letter : Char → Bool}
    {name : List Char}
    (isWord : IsWord start letter name)
    (plain : ∀ c, start c = true → startsPlain c = true) :
    style.language.SolidAt name := by
  obtain ⟨c, others, rfl⟩ := List.exists_cons_of_ne_nil isWord.ne_nil
  exact style.solidAt_of_startsPlain (plain c isWord.1) others

/-- An operator is solid unless it starts with the mark of a comment. -/
theorem solidAt_of_isOperator
    {name : List Char}
    (isWord : IsWord isOperatorChar isOperatorChar name)
    (notLine : ¬ style.language.commentLine.toList <+: name)
    (notStart : ¬ style.language.commentStart.toList <+: name) :
    style.language.SolidAt name where
  notBlank := by
    have stops := isWord.stopsAt_append (fun _ => Lexeme.isWhiteSpace_of_isOperatorChar) []
    rwa [List.append_nil] at stops
  notLine _ := notLine
  notBlock _ := notStart

/-- No mark of punctuation starts a comment alone. -/
theorem solidAt_punctuation {mark : Char} (isMark : mark ∈ Lexeme.marks.toList) :
    style.language.SolidAt [mark] := by
  have notBlank := Unicode.isWhiteSpace_of_mem (by decide) isMark
  have long : 2 ≤ style.language.commentLine.toList.length ∧
      2 ≤ style.language.commentStart.toList.length := by
    cases style <;> decide
  exact ⟨(stopsAt_cons_iff _ _ _).mpr notBlank,
    fun _ starts => absurd (long.1.trans starts.length_le) (by simp),
    fun _ starts => absurd (long.2.trans starts.length_le) (by simp)⟩

end Style

/-! ## The texts of lexemes -/

namespace Lexeme

/-- The texts of the lexemes with single spaces between them. -/
def spaced (lexemes : List Lexeme) : String :=
  " ".intercalate (lexemes.map text)

/-- What stands between the text of a lexeme and those of others. -/
def gap : List Lexeme → List Char
  | [] => []
  | _ :: _ => [' ']

/-- The lexemes with the positions at which their texts start, the first of them at the given
one. -/
def placed (position : Position) : List Lexeme → List (Position × Lexeme)
  | [] => []
  | lexeme :: others =>
      (position, lexeme) :: placed ((position.afterString lexeme.text).afterChar ' ') others

/-- A lexeme comes with its gap, and the others come behind. -/
theorem toList_spaced_cons (lexeme : Lexeme) (others : List Lexeme) :
    (spaced (lexeme :: others)).toList =
      lexeme.text.toList ++ gap others ++ (spaced others).toList := by
  cases others with
  | nil => simp [spaced, gap]
  | cons other others => simp [spaced, gap, String.toList_intercalate]

/-- Each lexeme has a place. -/
theorem length_placed (position : Position) (lexemes : List Lexeme) :
    (placed position lexemes).length = lexemes.length := by
  induction lexemes generalizing position with
  | nil => rfl
  | cons lexeme others ih => rw [placed, List.length_cons, List.length_cons, ih]

/-- Gaps are white space. -/
theorem gap_blank (others : List Lexeme) : ∀ c ∈ gap others, Unicode.isWhiteSpace c = true := by
  cases others with
  | nil => exact List.forall_mem_nil _
  | cons other others => exact List.forall_mem_singleton.mpr (by decide)

/-- The text of a lexeme ends where others come, or nothing at all. -/
theorem stopsAt_gap (others : List Lexeme) :
    StopsAt (fun c => !Unicode.isWhiteSpace c) (gap others ++ (spaced others).toList) := by
  cases others with
  | nil => exact stopsAt_nil _
  | cons other others => exact (stopsAt_cons_iff _ _ _).mpr (by decide)

section
variable {style : Style} {lexeme : Lexeme} (proper : lexeme.Proper style.language)
include proper

/-- A proper lexeme has a character at least. -/
theorem Proper.text_ne_nil : lexeme.text.toList ≠ [] := by
  match lexeme, proper with
  | identifier name, ⟨isWord, _⟩ => exact isWord.ne_nil
  | reserved name, present => exact (style.reservedNames_shape name present).1.ne_nil
  | operator name, ⟨isWord, _⟩ => exact isWord.ne_nil
  | reservedOperator name, present => exact (style.reservedOperators_shape name present).1.ne_nil
  | number (.integer value), ⟨natural, _⟩ =>
      rw [text, toList_decimalText natural]
      exact Nat.toDigits_ne_nil
  | char value, _ => simp [text]
  | string value, _ => simp [text]
  | punctuation mark, _ => simp [text]

/-- The text of a lexeme starts neither white space nor a comment. -/
theorem Proper.solidAt : style.language.SolidAt lexeme.text.toList := by
  have letterStarts (c : Char) (letter : Unicode.isAlphabetic c = true) :
      Style.startsPlain c = true := by
    simp only [Style.startsPlain, letter, Bool.true_or]
  have digitStarts (c : Char) (digit : c.isDigit = true) : Style.startsPlain c = true := by
    simp only [Style.startsPlain, digit, Bool.or_true, Bool.true_or]
  match lexeme, proper with
  | identifier name, ⟨isWord, _⟩ => exact style.solidAt_of_isWord isWord letterStarts
  | reserved name, present =>
      exact style.solidAt_of_isWord (style.reservedNames_shape name present).1 letterStarts
  | operator name, ⟨isWord, _, notLine, notStart⟩ =>
      exact style.solidAt_of_isOperator isWord notLine notStart
  | reservedOperator name, present =>
      obtain ⟨isWord, notLine, notStart⟩ := style.reservedOperators_shape name present
      exact style.solidAt_of_isOperator isWord notLine notStart
  | number (.integer value), ⟨natural, _⟩ =>
      rw [text, toList_decimalText natural]
      exact style.solidAt_of_isWord (isWord_toDigits value.natAbs) digitStarts
  | char value, _ =>
      rw [text, String.toList_ofList]
      exact style.solidAt_of_startsPlain (by decide) _
  | string value, _ =>
      rw [text, String.toList_ofList]
      exact style.solidAt_of_startsPlain (by decide) _
  | punctuation mark, isMark =>
      rw [text, String.toList_singleton]
      exact style.solidAt_punctuation isMark

end

section
variable {style : Style} {lexemes : List Lexeme}
  (proper : ∀ lexeme ∈ lexemes, lexeme.Proper style.language)
include proper

/-- Between its gaps, no lexeme starts as white space or a comment does. -/
theorem solidAt_spaced : style.language.SolidAt (spaced lexemes).toList := by
  cases lexemes with
  | nil => exact style.language.solidAt_nil
  | cons lexeme others =>
      have first := proper lexeme List.mem_cons_self
      rw [toList_spaced_cons, List.append_assoc]
      exact first.solidAt.append_blank style.commentMarks_solid first.text_ne_nil
        (stopsAt_gap others)

/-- There are as many characters as lexemes at least. -/
theorem length_le_length_spaced : lexemes.length ≤ (spaced lexemes).toList.length := by
  induction lexemes with
  | nil => exact Nat.zero_le _
  | cons lexeme others ih =>
      rw [List.forall_mem_cons] at proper
      have nonempty := List.length_pos_iff.mpr proper.1.text_ne_nil
      have short := ih proper.2
      rw [toList_spaced_cons, List.length_append, List.length_append, List.length_cons]
      omega

end

/-! ## Reading lexemes where they are placed -/

section
variable (style : Style)

/-- Lexemes move the position by their characters. -/
theorem parser_tracking : Parser.Composed Parser.Tracking (parser style.language) := by
  cases style with
  | java => exact parser_of_lexical Parser.tracking_lexical Parser.tracking_lexical.java
  | haskell => exact parser_of_lexical Parser.tracking_lexical Parser.tracking_lexical.haskell

theorem whiteSpace_tracking : Parser.Composed Parser.Tracking style.language.whiteSpace := by
  cases style with
  | java => exact Parser.tracking_lexical.whiteSpace Parser.tracking_lexical.java
  | haskell => exact Parser.tracking_lexical.whiteSpace Parser.tracking_lexical.haskell

/-- The view of a source as lexemes at their positions. -/
def placement : View Text Unit (Position × Lexeme) :=
  fun state symbols => ∃ lexemes, (∀ lexeme ∈ lexemes, lexeme.Proper style.language) ∧
    symbols = placed state.position lexemes ∧ View.tokens state (spaced lexemes).toList

/-- There are as many characters as places at least. -/
theorem placement_fits : (placement style).Fits := by
  rintro state _ ⟨lexemes, proper, rfl, viewed⟩
  rw [length_placed]
  exact (length_le_length_spaced proper).trans (View.tokens_fits viewed)

/-- A lexeme is read with its position, and the others are placed behind it. -/
theorem pair_reads (place : Position × Lexeme) (rest : List (Position × Lexeme)) :
    (Parser.getPosition.pair (parser style.language)).Reads (placement style)
      [place] place rest := by
  rintro state ⟨lexemes, proper, split, viewed⟩
  cases lexemes with
  | nil => contradiction
  | cons lexeme others =>
      rw [placed, List.singleton_append, List.cons.injEq] at split
      obtain ⟨rfl, rfl⟩ := split
      rw [List.forall_mem_cons] at proper
      rw [toList_spaced_cons] at viewed
      have skips := Language.whiteSpace_reads_run (σ := Text) (υ := Unit)
        (gap_blank others) (solidAt_spaced proper.2)
      have reads := parser_reads proper.1 skips (stopsAt_gap others)
      obtain ⟨next, error, ran, left, moved⟩ := reads.moves (parser_tracking style) viewed
      have consumes : (!(lexeme.text.toList ++ gap others).isEmpty) = true := by
        simp [proper.1.text_ne_nil]
      rw [consumes] at ran
      refine ⟨next, error, Parser.zipWith_yields_iff.mpr ⟨_, _, state, _, _, lexeme, error,
        Parser.run_getPosition state, ran, rfl, rfl, rfl⟩, others, proper.2, ?_, left⟩
      cases others with
      | nil => rfl
      | cons other others =>
          rw [moved, gap, Position.afterChars_append]
          rfl

/-- No lexeme is read at the end of a source. -/
theorem parser_refuses_nil : (parser style.language).Refuses View.tokens [] := by
  have named := namedParsers_refuse style (stopsAt_nil _) (stopsAt_nil _)
  have noNumber : style.language.naturalOrFloat.Refuses View.tokens [] :=
    ((Language.unsignedNumber_refuses (stopsAt_nil _)).zipWith _).labels _
  have noChar : style.language.charLiteral.Refuses View.tokens [] :=
    style.language.charLiteral_refuses (by simp)
  have noString : style.language.stringLiteral.Refuses View.tokens [] :=
    style.language.stringLiteral_refuses (by simp)
  have noMark : (style.language.lexeme (Parser.oneOf marks)).Refuses View.tokens [] :=
    ((Parser.satisfy_takesChar _).refuses (stopsAt_nil _)).zipWith _
  rw [parser_eq, ← List.append_assoc]
  refine Parser.choice_refuses (List.forall_mem_append.mpr ⟨named, ?_⟩)
  simp only [List.mem_cons, List.not_mem_nil, or_false, forall_eq_or_imp, forall_eq]
  exact ⟨noNumber.map number, noChar.map char, noString.map string, noMark.map punctuation⟩

/-- Where no lexemes are to come, no characters are. -/
theorem tokens_of_placement_nil
    {state : State Text Unit}
    (viewed : placement style state []) :
    View.tokens state [] := by
  obtain ⟨lexemes, -, none, written⟩ := viewed
  obtain rfl : lexemes = [] := by
    rw [← List.length_eq_zero_iff, ← length_placed state.position, ← none, List.length_nil]
  exact written

/-- At the end there is neither a position nor a lexeme. -/
theorem pair_refuses_nil :
    (Parser.getPosition.pair (parser style.language)).Refuses (placement style) [] := by
  intro state viewed
  obtain ⟨error, failed⟩ := parser_refuses_nil style (tokens_of_placement_nil style viewed)
  refine ⟨(ParseError.unknown state.position).merge error, ?_⟩
  rw [Parser.Fails, Parser.pair,
    Parser.run_zipWith_of_ok (Parser.run_getPosition state) _ _, failed]
  rfl

/-- All lexemes are read with the positions where they start. -/
theorem many_reads (places : List (Position × Lexeme)) :
    (Parser.getPosition.pair (parser style.language)).many.Reads (placement style)
      places places [] := by
  have rounds : Parser.Rounds (placement style)
      (Parser.getPosition.pair (parser style.language)) places places [] := by
    induction places with
    | nil => exact .nil []
    | cons place places ih =>
        exact .cons (List.cons_ne_nil place []) (pair_reads style place _) ih
  exact rounds.many (pair_refuses_nil style) (placement_fits style)

end

/-- The lexemes of a source that is written with single spaces between them are just these, each
at the position where its text starts. -/
theorem all_spaced
    {style : Style}
    {lexemes : List Lexeme}
    (proper : ∀ lexeme ∈ lexemes, lexeme.Proper style.language)
    (name : String) :
    (all style.language).parse () name (Text.ofString (spaced lexemes)) =
      .ok (.ok (placed (Position.start name) lexemes)) := by
  have viewed : View.tokens (⟨Text.ofString (spaced lexemes), .start name, ()⟩ : State Text Unit)
      ([] ++ (spaced lexemes).toList) :=
    Text.toList_ofString _
  have skips := Language.whiteSpace_reads_run (σ := Text) (υ := Unit)
    (List.forall_mem_nil _) (solidAt_spaced proper)
  obtain ⟨first, spaceError, skipped, left, stays⟩ :=
    skips.moves (whiteSpace_tracking style) viewed
  have placedHere : placement style first (placed (.start name) lexemes ++ []) := by
    rw [List.append_nil]
    exact ⟨lexemes, proper, by rw [stays]; rfl, left⟩
  obtain ⟨behind, error, ran, atEnd⟩ := many_reads style _ placedHere
  obtain ⟨last, endError, ended, -⟩ := Parser.endOfInput_reads (tokens_of_placement_nil style atEnd)
  have started : ∃ consumed found, (style.language.whiteSpace.keepRight
      (Parser.getPosition.pair (parser style.language)).many).Yields
        ⟨Text.ofString (spaced lexemes), .start name, ()⟩ consumed
          (placed (.start name) lexemes) behind found :=
    ⟨_, _, Parser.zipWith_yields_iff.mpr
      ⟨_, (), first, spaceError, _, _, error, skipped, ran, rfl, rfl, rfl⟩⟩
  obtain ⟨consumed, found, started⟩ := started
  have finished : ∃ consumed found, (all style.language).Yields
      ⟨Text.ofString (spaced lexemes), .start name, ()⟩ consumed
        (placed (.start name) lexemes) last found :=
    ⟨_, _, Parser.zipWith_yields_iff.mpr
      ⟨_, _, behind, found, _, (), endError, started, ended, rfl, rfl, rfl⟩⟩
  obtain ⟨consumed, found, finished⟩ := finished
  rw [Parser.parse, Parser.runState, finished]

/-- Names and operators that others start with, and the mark of a comment within a text. -/
theorem all_spaced_haskell :
    (all Style.haskell.language).parse () "t"
        (Text.ofString "in int = =- 10 'é' \"a -- b\" (") =
      .ok (.ok
        [(.clamped "t" 1 1, reserved "in"), (.clamped "t" 1 4, identifier "int"),
          (.clamped "t" 1 8, reservedOperator "="), (.clamped "t" 1 10, operator "=-"),
          (.clamped "t" 1 13, number (.integer 10)), (.clamped "t" 1 16, char 'é'),
          (.clamped "t" 1 20, string "a -- b"), (.clamped "t" 1 29, punctuation '(')]) := by
  have proper : ∀ lexeme ∈ [reserved "in", identifier "int", reservedOperator "=",
      operator "=-", number (.integer 10), char 'é', string "a -- b", punctuation '('],
        lexeme.Proper Style.haskell.language := by
    decide +kernel
  have written : spaced [reserved "in", identifier "int", reservedOperator "=", operator "=-",
      number (.integer 10), char 'é', string "a -- b", punctuation '('] =
        "in int = =- 10 'é' \"a -- b\" (" := by
    decide +kernel
  rw [← written, all_spaced proper "t"]
  decide +kernel

end Lexeme
end Predictive
