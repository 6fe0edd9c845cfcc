import Mathlib.Logic.Relation
import Predictive.Proofs.CommentScanning
import Predictive.Proofs.Failing

/-!
# White space of any language

White space consists of blanks: runs of white space characters, comments up to the end of their
line, and block comments. At each place at most one kind of blank counts, and a blank goes as far as
it can. So the blanks at the front of a text lead up to one of two places. Either nothing starts
there that could be skipped, or a block comment does that is never closed. White space is skipped up
to that place, and the skipping fails in the second case.
-/

namespace Predictive
namespace Language

variable {σ υ : Type}

theorem toList_ne_nil {text : String} (some : text ≠ "") : text.toList ≠ [] :=
  fun none => some (String.toList_eq_nil_iff.mp none)

/-- Neither white space nor a comment of the language starts here. -/
structure SolidAt (language : Language σ υ) (rest : List Char) : Prop where
  notBlank : StopsAt Unicode.isWhiteSpace rest
  notLine : language.commentLine ≠ "" → ¬ language.commentLine.toList <+: rest
  notBlock : language.commentStart ≠ "" → ¬ language.commentStart.toList <+: rest

/-- Neither white space nor a comment up to the end of its line starts here, but a block comment
does, and it is never closed. -/
structure UnclosedAt (language : Language σ υ) (text : List Char) : Prop where
  notBlank : StopsAt Unicode.isWhiteSpace text
  notLine : language.commentLine ≠ "" → ¬ language.commentLine.toList <+: text
  marked : language.commentStart.toList ≠ []
  opened : language.commentStart.toList <+: text
  unclosed : afterComment marked language.commentEnd.toList language.nestedComments text = none

/-- A blank stands between the front of a text and the rest. White space goes before comments, and
comments up to the end of their line go before block comments. -/
inductive Blank (language : Language σ υ) : (text rest : List Char) → Prop
  | spaces
      {run rest : List Char}
      (some : run ≠ [])
      (all : ∀ c ∈ run, Unicode.isWhiteSpace c = true)
      (stops : StopsAt Unicode.isWhiteSpace rest) :
      Blank language (run ++ rest) rest
  | line
      {comment rest : List Char}
      (marked : language.commentLine ≠ "")
      (notBlank : StopsAt Unicode.isWhiteSpace (language.commentLine.toList ++ comment ++ rest))
      (inLine : '\n' ∉ comment)
      (ends : StopsAt (fun c => c != '\n') rest) :
      Blank language (language.commentLine.toList ++ comment ++ rest) rest
  | block
      {text rest : List Char}
      (marked : language.commentStart.toList ≠ [])
      (notBlank : StopsAt Unicode.isWhiteSpace text)
      (notLine : language.commentLine ≠ "" → ¬ language.commentLine.toList <+: text)
      (closes : afterComment marked language.commentEnd.toList language.nestedComments text =
        some rest) :
      Blank language text rest

/-- Blanks lead from the front of a text to the rest. -/
abbrev Skipped (language : Language σ υ) : (text rest : List Char) → Prop :=
  Relation.ReflTransGen language.Blank

/-- Nothing is skipped at the end. -/
theorem solidAt_nil (language : Language σ υ) : language.SolidAt [] where
  notBlank := stopsAt_nil _
  notLine some starts := toList_ne_nil some (List.prefix_nil.mp starts)
  notBlock some starts := toList_ne_nil some (List.prefix_nil.mp starts)

section
variable {language : Language σ υ} {text rest : List Char}

/-- A blank has at least one character. -/
theorem Blank.exists_word (blank : language.Blank text rest) :
    ∃ word, word ≠ [] ∧ text = word ++ rest := by
  cases blank with
  | spaces some all stops => exact ⟨_, some, rfl⟩
  | line marked notBlank inLine ends =>
      exact ⟨_, List.append_ne_nil_of_left_ne_nil (toList_ne_nil marked) _, rfl⟩
  | block marked notBlank notLine closes =>
      obtain ⟨inside, rfl⟩ := exists_inside_of_afterComment closes
      exact ⟨_, List.append_ne_nil_of_left_ne_nil marked inside, rfl⟩

/-- What is skipped at once is one character at least. -/
theorem Blank.length_lt (blank : language.Blank text rest) : rest.length < text.length := by
  obtain ⟨word, some, rfl⟩ := blank.exists_word
  have long := List.length_pos_iff.mpr some
  rw [List.length_append]
  omega

/-- At each place there is nothing to skip, or a comment that stays open, or a blank. -/
theorem solidAt_or_unclosedAt_or_blank (language : Language σ υ) (text : List Char) :
    language.SolidAt text ∨ language.UnclosedAt text ∨ ∃ rest, language.Blank text rest := by
  obtain ⟨run, rest, rfl, all, stops⟩ := exists_run Unicode.isWhiteSpace text
  by_cases some : run ≠ []
  · exact .inr (.inr ⟨rest, .spaces some all stops⟩)
  obtain rfl := not_not.mp some
  by_cases line : language.commentLine ≠ "" ∧ language.commentLine.toList <+: rest
  · obtain ⟨marked, inside, rfl⟩ := line
    obtain ⟨comment, others, rfl, inLine, ends⟩ := exists_run (fun c => c != '\n') inside
    have notInside : '\n' ∉ comment := fun present => by simpa using inLine '\n' present
    refine .inr (.inr ⟨others, ?_⟩)
    rw [← List.append_assoc] at stops
    rw [List.nil_append, ← List.append_assoc]
    exact .line marked stops notInside ends
  have notLine : language.commentLine ≠ "" → ¬ language.commentLine.toList <+: rest :=
    not_and.mp line
  by_cases block : language.commentStart ≠ "" ∧ language.commentStart.toList <+: rest
  · obtain ⟨some, opened⟩ := block
    have marked := toList_ne_nil some
    cases closes : afterComment marked language.commentEnd.toList language.nestedComments rest with
    | none => exact .inr (.inl ⟨stops, notLine, marked, opened, closes⟩)
    | some others => exact .inr (.inr ⟨others, .block marked stops notLine closes⟩)
  · exact .inl ⟨stops, notLine, not_and.mp block⟩

/-- Blanks lead from any text to where there is nothing to skip or a comment stays open. -/
theorem exists_skipped (language : Language σ υ) (text : List Char) :
    ∃ left, language.Skipped text left ∧ (language.SolidAt left ∨ language.UnclosedAt left) := by
  induction size : text.length using Nat.strongRecOn generalizing text with
  | ind length ih =>
      subst size
      rcases language.solidAt_or_unclosedAt_or_blank text with solid | unclosed | ⟨rest, blank⟩
      · exact ⟨text, .refl, .inl solid⟩
      · exact ⟨text, .refl, .inr unclosed⟩
      · obtain ⟨left, skipped, ends⟩ := ih rest.length blank.length_lt rest rfl
        exact ⟨left, .head blank skipped, ends⟩

end

variable [TokenStream σ Char] [LawfulTokenStream σ] {language : Language σ υ}

/-! ## Kinds of blanks -/

/-- Without white space in front there is none to skip. -/
theorem spaces_refuse
    {rest : List Char}
    (stops : StopsAt Unicode.isWhiteSpace rest) :
    (Parser.satisfy Unicode.isWhiteSpace : Parser σ υ Char).skipMany1.Refuses
      View.tokens rest :=
  ((Parser.satisfy_takesChar Unicode.isWhiteSpace).refuses stops).zipWith _

/-- A comment is read up to the end of its line. -/
theorem lineComment_reads
    (mark : String)
    {comment rest : List Char}
    (inLine : '\n' ∉ comment)
    (ends : StopsAt (fun c => c != '\n') rest) :
    (lineComment mark : Parser σ υ Unit).Reads View.tokens (mark.toList ++ comment) () rest := by
  have start := (Parser.string_reads (σ := σ) (υ := υ) mark (comment ++ rest)).attempt
  have all : ∀ c ∈ comment, (c != '\n') = true := by
    intro c present
    rw [bne_iff_ne]
    rintro rfl
    exact inLine present
  have others := (Parser.satisfy_takesChar (σ := σ) (υ := υ) fun c => c != '\n').skipMany_reads
    all ends
  exact start.zipWith others _

/-- Without the mark there is no comment. -/
theorem lineComment_refuses
    (mark : String)
    {rest : List Char}
    (absent : ¬ mark.toList <+: rest) :
    (lineComment mark : Parser σ υ Unit).Refuses View.tokens rest :=
  (Parser.string_attempt_refuses absent).zipWith _

/-- The parsers that are tried before a block comment. -/
def unblocked (language : Language σ υ) : List (Parser σ υ Unit) :=
  [(Parser.satisfy Unicode.isWhiteSpace).skipMany1] ++
    (if language.commentLine = "" then [] else [lineComment language.commentLine])

/-- Where neither white space nor a line comment starts, there is none. -/
theorem unblocked_refuse
    {rest : List Char}
    (notBlank : StopsAt Unicode.isWhiteSpace rest)
    (notLine : language.commentLine ≠ "" → ¬ language.commentLine.toList <+: rest) :
    ∀ parser ∈ language.unblocked, parser.Refuses View.tokens rest := by
  refine List.forall_mem_cons.mpr ⟨spaces_refuse notBlank, fun parser present => ?_⟩
  split at present
  · contradiction
  · rename_i some
    obtain rfl := List.mem_singleton.mp present
    exact lineComment_refuses _ (notLine some)

omit [LawfulTokenStream σ] in
/-- A language with an opening mark also skips block comments. -/
theorem blank_of_marked (marked : language.commentStart.toList ≠ []) :
    language.blank = Parser.choice (language.unblocked ++
      [blockComment language.commentStart language.commentEnd language.nestedComments]) := by
  have some : language.commentStart ≠ "" := by
    rintro none
    exact marked (String.toList_eq_nil_iff.mpr none)
  rw [blank, if_neg some]
  rfl

/-- What is solid is refused as white space and as a comment. -/
theorem SolidAt.blank_refuses {rest : List Char} (solid : language.SolidAt rest) :
    language.blank.Refuses View.tokens rest := by
  refine Parser.choice_refuses (List.forall_mem_append.mpr
    ⟨unblocked_refuse solid.notBlank solid.notLine, fun parser present => ?_⟩)
  split at present
  · contradiction
  · rename_i some
    obtain rfl := List.mem_singleton.mp present
    exact blockComment_refuses (toList_ne_nil some) _ _ (solid.notBlock some)

/-- A blank is read as a whole. -/
theorem Blank.exists_reads {text rest : List Char} (blank : language.Blank text rest) :
    ∃ word, word ≠ [] ∧ text = word ++ rest ∧
      language.blank.Reads View.tokens word () rest := by
  cases blank with
  | spaces some all stops =>
      have reads := (Parser.satisfy_takesChar (σ := σ) (υ := υ)
        Unicode.isWhiteSpace).skipMany1_reads all stops some
      exact ⟨_, some, rfl, reads.choice (List.forall_mem_nil _)⟩
  | line marked notBlank inLine ends =>
      have reads := lineComment_reads (σ := σ) (υ := υ) language.commentLine inLine ends
      refine ⟨_, List.append_ne_nil_of_left_ne_nil (toList_ne_nil marked) _, rfl, ?_⟩
      rw [Language.blank, if_neg marked, List.append_assoc]
      exact reads.choice (List.forall_mem_singleton.mpr (spaces_refuse notBlank))
  | block marked notBlank notLine closes =>
      obtain ⟨inside, rfl⟩ := exists_inside_of_afterComment closes
      refine ⟨_, List.append_ne_nil_of_left_ne_nil marked inside, rfl, ?_⟩
      rw [blank_of_marked marked]
      rw [List.append_assoc, afterComment_append] at closes
      exact (blockComment_reads closes).choice (unblocked_refuse notBlank notLine)

/-- Where a block comment is never closed, its front is taken all the same. -/
theorem UnclosedAt.blank_fails
    {text : List Char}
    (unclosed : language.UnclosedAt text)
    {state : State σ υ}
    (viewed : View.tokens state text) :
    ∃ error, language.blank.Fails state true error := by
  have scans := blockComment_scans unclosed.marked language.commentEnd language.nestedComments
    viewed
  rw [unclosed.unclosed, decide_eq_true unclosed.opened] at scans
  obtain ⟨error, failed⟩ := scans
  have refuses : (Parser.choice language.unblocked).Refuses View.tokens text :=
    Parser.choice_refuses (unblocked_refuse unclosed.notBlank unclosed.notLine)
  obtain ⟨earlier, refused⟩ := refuses viewed
  rw [blank_of_marked unclosed.marked]
  exact ⟨error, refused.choice failed⟩

/-! ## Skipping -/

/-- Blanks are skipped in rounds. -/
theorem Skipped.exists_rounds {text rest : List Char} (skipped : language.Skipped text rest) :
    ∃ word values, text = word ++ rest ∧
      Parser.Rounds View.tokens (language.blank.label "") word values rest := by
  induction skipped using Relation.ReflTransGen.head_induction_on with
  | refl => exact ⟨[], [], rfl, .nil rest⟩
  | head blank _ ih =>
      obtain ⟨more, values, rfl, rounds⟩ := ih
      obtain ⟨word, some, rfl, reads⟩ := blank.exists_reads (σ := σ) (υ := υ)
      exact ⟨word ++ more, () :: values, (List.append_assoc _ _ _).symm,
        .cons some (reads.labels _) rounds⟩

/-- White space is skipped up to where there is nothing to skip. -/
theorem Skipped.whiteSpace_reads
    {word rest : List Char}
    (skipped : language.Skipped (word ++ rest) rest)
    (solid : language.SolidAt rest) :
    language.whiteSpace.Reads View.tokens word () rest := by
  obtain ⟨taken, values, split, rounds⟩ := skipped.exists_rounds
  obtain rfl := List.append_cancel_right split
  exact rounds.manyFold (solid.blank_refuses.labels _) View.tokens_fits () _

/-- White space fails where blanks lead up to a comment that is never closed. -/
theorem Skipped.whiteSpace_fails
    {text left : List Char}
    (skipped : language.Skipped text left)
    (unclosed : language.UnclosedAt left)
    {state : State σ υ}
    (viewed : View.tokens state text) :
    ∃ error, language.whiteSpace.Fails state true error := by
  obtain ⟨word, values, rfl, rounds⟩ := skipped.exists_rounds
  obtain ⟨next, repeated, viewedNext⟩ := rounds.repeats viewed
  obtain ⟨error, failed⟩ := unclosed.blank_fails viewedNext
  have few : values.length < state.patience := by
    have viewedFew := View.tokens_fits viewed
    have roundsFew := rounds.length_le
    have bounded := state.size_lt_patience
    rw [List.length_append] at viewedFew
    omega
  exact ⟨error, repeated.manyFold_fails few (failed.labels _) () _⟩

/-- A run of white space, which may be empty, is skipped as a whole. -/
theorem whiteSpace_reads_run
    {spaces rest : List Char}
    (all : ∀ c ∈ spaces, Unicode.isWhiteSpace c = true)
    (solid : language.SolidAt rest) :
    language.whiteSpace.Reads View.tokens spaces () rest := by
  by_cases some : spaces ≠ []
  · exact Skipped.whiteSpace_reads (.single (.spaces some all solid.notBlank)) solid
  · obtain rfl := not_not.mp some
    exact Skipped.whiteSpace_reads .refl solid

omit [LawfulTokenStream σ] in
/-- A lexeme that is there has been consumed, whether white space follows it or not. -/
theorem lexeme_yields_of_skips
    {α : Type}
    {parser : Parser σ υ α}
    {value : α}
    {tag : Bool}
    {state middle next : State σ υ}
    {error skipError : ParseError}
    (ran : parser.Yields state true value middle error)
    (skips : language.whiteSpace.Yields middle tag () next skipError) :
    ∃ found, (language.lexeme parser).Yields state true value next found :=
  ⟨_, Parser.zipWith_yields_iff.mpr
    ⟨true, value, middle, error, tag, (), skipError, ran, skips, rfl, (Bool.true_or tag).symm, rfl⟩⟩

end Language
end Predictive
