import Mathlib.Data.List.Infix
import Predictive.Lexer.Blank
import Predictive.Proofs.CharacterReading

/-!
# Block comments one character at a time

A scan of a block comment looks at every place of its inside: a closing mark closes the innermost
comment, an opening mark opens another one if comments may be nested, and any other character is
passed over. The lexer takes the characters up to the next one that occurs in a mark at once, and it
goes back where a mark has only begun. Still it ends where the scan ends. A step through the comment
takes what one or more moves of the scan take, since no mark starts among the characters of a run;
by induction on the rounds, so does the whole loop. This holds of any marks, be they alike or parts
of one another. A closing mark without characters closes a comment as soon as it is open.
-/

namespace Predictive

/-! ## The scan -/

section
variable {opening : List Char}

/-- The text behind the inside of a comment in which a number of comments is open, unless the text
ends before all of them are closed. -/
def afterInside
    (marked : opening ≠ [])
    (closing : List Char)
    (nested : Bool)
    (depth : Nat)
    (text : List Char) :
    Option (List Char) :=
  match depth with
  | 0 => some text
  | depth + 1 =>
      if closing <+: text then
        afterInside marked closing nested depth (text.drop closing.length)
      else if nested = true ∧ opening <+: text then
        afterInside marked closing nested (depth + 2) (text.drop opening.length)
      else if text = [] then none
      else afterInside marked closing nested (depth + 1) text.tail
termination_by (text.length, depth)
decreasing_by
  · rw [Prod.lex_def, List.length_drop]
    simp only
    omega
  · rename_i opens
    have long := List.length_pos_iff.mpr marked
    have fits := opens.2.length_le
    rw [Prod.lex_def, List.length_drop]
    simp only
    omega
  · rename_i some
    have long := List.length_pos_iff.mpr some
    rw [Prod.lex_def, List.length_tail]
    simp only
    omega

/-- The text behind a comment, if one stands in front of it. -/
def afterComment
    (marked : opening ≠ [])
    (closing : List Char)
    (nested : Bool)
    (text : List Char) :
    Option (List Char) :=
  if opening <+: text then afterInside marked closing nested 1 (text.drop opening.length)
  else none

variable {marked : opening ≠ []} {closing : List Char} {nested : Bool} {depth : Nat}

/-- Behind an opening mark the scan is inside one comment. -/
theorem afterComment_append (inside : List Char) :
    afterComment marked closing nested (opening ++ inside) =
      afterInside marked closing nested 1 inside := by
  rw [afterComment, if_pos (List.prefix_append opening inside), List.drop_left]

/-- Without an opening mark there is no comment. -/
theorem afterComment_of_unopened {text : List Char} (unopened : ¬ opening <+: text) :
    afterComment marked closing nested text = none :=
  if_neg unopened

theorem afterInside_zero (text : List Char) :
    afterInside marked closing nested 0 text = some text := by
  rw [afterInside]

/-- A closing mark leaves the innermost comment. -/
theorem afterInside_closing (text : List Char) :
    afterInside marked closing nested (depth + 1) (closing ++ text) =
      afterInside marked closing nested depth text := by
  rw [afterInside, if_pos (List.prefix_append closing text), List.drop_left]

/-- An opening mark enters another comment, unless a closing mark is there as well. -/
theorem afterInside_opening
    {text : List Char}
    (nests : nested = true)
    (notClosing : ¬ closing <+: opening ++ text) :
    afterInside marked closing nested (depth + 1) (opening ++ text) =
      afterInside marked closing nested (depth + 2) text := by
  rw [afterInside, if_neg notClosing, if_pos ⟨nests, List.prefix_append opening text⟩,
    List.drop_left]

/-- The end of the text is in no comment that has to be closed. -/
theorem afterInside_nil (some : closing ≠ []) :
    afterInside marked closing nested (depth + 1) [] = none := by
  simp [afterInside, some, marked]

/-- Any other character is passed. -/
theorem afterInside_cons
    {c : Char}
    {text : List Char}
    (notClosing : ¬ closing <+: c :: text)
    (notOpening : ¬ (nested = true ∧ opening <+: c :: text)) :
    afterInside marked closing nested (depth + 1) (c :: text) =
      afterInside marked closing nested (depth + 1) text := by
  rw [afterInside, if_neg notClosing, if_neg notOpening, if_neg (List.cons_ne_nil c text),
    List.tail_cons]

/-- A scan leaves an end of the text. -/
theorem isSuffix_of_afterInside
    {text rest : List Char}
    (scan : afterInside marked closing nested depth text = some rest) :
    rest <:+ text := by
  fun_induction afterInside marked closing nested depth text with
  | case1 text => exact Option.some.inj scan ▸ List.suffix_rfl
  | case2 text depth closes ih => exact (ih scan).trans (List.drop_suffix _ _)
  | case3 text depth closes opens ih => exact (ih scan).trans (List.drop_suffix _ _)
  | case4 => contradiction
  | case5 text depth closes opens some ih => exact (ih scan).trans (List.tail_suffix _)

/-- A comment starts with its opening mark, and what is behind it is the end of the text. -/
theorem exists_inside_of_afterComment
    {text rest : List Char}
    (scan : afterComment marked closing nested text = some rest) :
    ∃ inside, text = opening ++ inside ++ rest := by
  unfold afterComment at scan
  split at scan
  · rename_i opened
    obtain ⟨others, rfl⟩ := opened
    rw [List.drop_left] at scan
    obtain ⟨inside, rfl⟩ := isSuffix_of_afterInside scan
    exact ⟨inside, (List.append_assoc _ _ _).symm⟩
  · contradiction

end

/-- A mark does not start with a character that does not occur in it. -/
theorem not_isPrefix_of_not_mem
    {mark : List Char}
    {c : Char}
    (some : mark ≠ [])
    (outside : c ∉ mark)
    (text : List Char) :
    ¬ mark <+: c :: text := by
  obtain ⟨first, others, rfl⟩ := List.exists_cons_of_ne_nil some
  rw [List.cons_prefix_cons]
  rintro ⟨rfl, -⟩
  exact outside List.mem_cons_self

/-- The scan passes over a run of characters that occur in no mark. -/
theorem afterInside_append
    {opening closing plain : List Char}
    {marked : opening ≠ []}
    (some : closing ≠ [])
    (unmarked : ∀ c ∈ plain, c ∉ closing ∧ c ∉ opening)
    (nested : Bool)
    (depth : Nat)
    (rest : List Char) :
    afterInside marked closing nested (depth + 1) (plain ++ rest) =
      afterInside marked closing nested (depth + 1) rest := by
  induction plain with
  | nil => rfl
  | cons c plain ih =>
      obtain ⟨⟨notClosing, notOpening⟩, others⟩ := List.forall_mem_cons.mp unmarked
      rw [List.cons_append, afterInside_cons (not_isPrefix_of_not_mem some notClosing _)
        fun opens => not_isPrefix_of_not_mem marked notOpening _ opens.2]
      exact ih others

/-- Any text starts with a run of characters that satisfy a predicate, up to where it stops. -/
theorem exists_run (predicate : Char → Bool) (text : List Char) :
    ∃ run rest, text = run ++ rest ∧ (∀ c ∈ run, predicate c = true) ∧ StopsAt predicate rest := by
  induction text with
  | nil => exact ⟨[], [], rfl, by simp, stopsAt_nil _⟩
  | cons c text ih =>
      cases holds : predicate c with
      | false => exact ⟨[], c :: text, rfl, by simp, (stopsAt_cons_iff _ _ _).mpr holds⟩
      | true =>
          obtain ⟨run, rest, rfl, all, stops⟩ := ih
          exact ⟨c :: run, rest, rfl, List.forall_mem_cons.mpr ⟨holds, all⟩, stops⟩

namespace Language

variable {σ υ : Type} [TokenStream σ Char]

/-! ## Steps through a comment -/

/-- The characters of the marks are those of either of them. -/
theorem contains_commentMarks {opening closing : String} {c : Char} :
    (commentMarks opening closing).toList.contains c = true ↔
      c ∈ closing.toList ∨ c ∈ opening.toList := by
  simp [commentMarks, List.mem_eraseDups]

/-- The steps that take marks. -/
def markSteps (opening closing : String) (nested : Bool) : List (Parser σ υ CommentStep) :=
  ((Parser.string closing).attempt.map fun _ => CommentStep.closed) ::
    if nested then [(Parser.string opening).attempt.map fun _ => CommentStep.opened] else []

/-- Steps that take marks come before those that take other text. -/
theorem commentStep_eq (opening closing : String) (nested : Bool) :
    (commentStep opening closing nested : Parser σ υ CommentStep) =
      (Parser.choice (markSteps opening closing nested ++
        [(Parser.noneOf (commentMarks opening closing)).skipMany1.map fun _ => CommentStep.text,
          (Parser.oneOf (commentMarks opening closing)).map fun _ => CommentStep.text])).label
        "end of comment" := by
  cases nested <;> rfl

variable [LawfulTokenStream σ]

/-- A mark is taken where it stands. -/
theorem attemptMark_reads (mark : String) (found : CommentStep) (rest : List Char) :
    ((Parser.string mark).attempt.map fun _ => found).Reads (View.tokens : View σ υ Char)
      mark.toList found rest :=
  (Parser.string_reads mark rest).attempt.map _

/-- A mark that is not there is put back. -/
theorem attemptMark_refuses
    {mark : String}
    {text : List Char}
    (absent : ¬ mark.toList <+: text)
    (found : CommentStep) :
    ((Parser.string mark).attempt.map fun _ => found).Refuses (View.tokens : View σ υ Char) text :=
  (Parser.string_attempt_refuses absent).map _

section
variable {opening closing : String} {nested : Bool} {text : List Char}

/-- Where neither mark counts, both are put back. -/
theorem markSteps_refuse
    (notClosing : ¬ closing.toList <+: text)
    (notOpening : ¬ (nested = true ∧ opening.toList <+: text)) :
    ∀ step ∈ markSteps opening closing nested,
      Parser.Refuses (View.tokens : View σ υ Char) step text := by
  refine List.forall_mem_cons.mpr ⟨attemptMark_refuses notClosing _, ?_⟩
  cases nested with
  | false => simp
  | true =>
      have absent : ¬ opening.toList <+: text := fun opens => notOpening ⟨rfl, opens⟩
      exact List.forall_mem_singleton.mpr (attemptMark_refuses absent _)

/-- A closing mark comes first. -/
theorem commentStep_closes (opening closing : String) (nested : Bool) (rest : List Char) :
    (commentStep opening closing nested : Parser σ υ CommentStep).Reads View.tokens
      closing.toList .closed rest := by
  have reads := attemptMark_reads (σ := σ) (υ := υ) closing .closed rest
  rw [commentStep_eq]
  exact (reads.choice (List.forall_mem_nil _)).labels _

/-- An opening mark counts if comments may nest and no closing mark is there. -/
theorem commentStep_opens
    (nests : nested = true)
    (notClosing : ¬ closing.toList <+: opening.toList ++ text) :
    (commentStep opening closing nested : Parser σ υ CommentStep).Reads View.tokens
      opening.toList .opened text := by
  have refuses := attemptMark_refuses (σ := σ) (υ := υ) notClosing .closed
  have reads := attemptMark_reads (σ := σ) (υ := υ) opening .opened text
  rw [commentStep_eq, markSteps, if_pos nests]
  exact (reads.choice (List.forall_mem_singleton.mpr refuses)).labels _

/-- Characters that occur in no mark are taken up to the next one that does. -/
theorem commentStep_skips
    {plain : List Char}
    (some : plain ≠ [])
    (unmarked : ∀ c ∈ plain, (!(commentMarks opening closing).toList.contains c) = true)
    (stops : StopsAt (fun c => !(commentMarks opening closing).toList.contains c) text)
    (notClosing : ¬ closing.toList <+: plain ++ text)
    (notOpening : ¬ (nested = true ∧ opening.toList <+: plain ++ text)) :
    (commentStep opening closing nested : Parser σ υ CommentStep).Reads View.tokens
      plain .text text := by
  have reads := (Parser.satisfy_takesChar (σ := σ) (υ := υ) _).skipMany1_reads unmarked stops some
  rw [commentStep_eq]
  have step := reads.map fun _ => CommentStep.text
  exact (step.choice (markSteps_refuse notClosing notOpening)).labels _

/-- What occurs in a mark is no plain text. -/
theorem plainStep_refuses
    (stops : StopsAt (fun c => !(commentMarks opening closing).toList.contains c) text) :
    ((Parser.noneOf (commentMarks opening closing)).skipMany1.map fun _ =>
      CommentStep.text).Refuses (View.tokens : View σ υ Char) text := by
  have noPlain := (Parser.satisfy_takesChar (σ := σ) (υ := υ) _).refuses stops
  exact (noPlain.zipWith _).map _

/-- A character of a mark is taken alone where no mark comes. -/
theorem commentStep_skipsMark
    {c : Char}
    (isMark : (commentMarks opening closing).toList.contains c = true)
    (notClosing : ¬ closing.toList <+: c :: text)
    (notOpening : ¬ (nested = true ∧ opening.toList <+: c :: text)) :
    (commentStep opening closing nested : Parser σ υ CommentStep).Reads View.tokens
      [c] .text text := by
  have stops : StopsAt (fun d => !(commentMarks opening closing).toList.contains d) (c :: text) :=
    (stopsAt_cons_iff _ _ _).mpr (by rw [isMark]; rfl)
  have reads := (Parser.satisfy_takesChar (σ := σ) (υ := υ) _).reads isMark text
  rw [commentStep_eq, List.append_cons]
  have step := reads.map fun _ => CommentStep.text
  refine (step.choice ?_).labels _
  exact List.forall_mem_append.mpr ⟨markSteps_refuse notClosing notOpening,
    List.forall_mem_singleton.mpr (plainStep_refuses stops)⟩

/-- At the end of the input no step is left, unless nothing closes a comment. -/
theorem commentStep_refuses
    (some : closing.toList ≠ [])
    (marked : opening.toList ≠ []) :
    (commentStep opening closing nested : Parser σ υ CommentStep).Refuses View.tokens [] := by
  have marksRefuse : ∀ step ∈ markSteps opening closing nested,
      Parser.Refuses (View.tokens : View σ υ Char) step [] :=
    markSteps_refuse (fun closes => some (List.prefix_nil.mp closes))
      fun opens => marked (List.prefix_nil.mp opens.2)
  have markRefuses : (Parser.oneOf (commentMarks opening closing)).Refuses
      (View.tokens : View σ υ Char) [] :=
    (Parser.satisfy_takesChar _).refuses (stopsAt_nil _)
  rw [commentStep_eq]
  refine (Parser.choice_refuses (List.forall_mem_append.mpr ⟨marksRefuse, ?_⟩)).labels _
  exact List.forall_mem_cons.mpr ⟨plainStep_refuses (stopsAt_nil _),
    List.forall_mem_singleton.mpr (markRefuses.map _)⟩

end

/-- A step takes a word from the text, behind which the scan goes on as it did before; or it fails
where the text ends, and so does the scan. -/
theorem commentStep_scans
    {opening : String}
    (marked : opening.toList ≠ [])
    (closing : String)
    (nested : Bool)
    (depth : Nat)
    (text : List Char) :
    (∃ word found others, text = word ++ others ∧
        (commentStep opening closing nested : Parser σ υ CommentStep).Reads View.tokens
          word found others ∧
        afterInside marked closing.toList nested (depth + 1) text =
          afterInside marked closing.toList nested (found.depthAfter (depth + 1)) others ∧
        (closing.toList ≠ [] → word ≠ []) ∧ (closing.toList = [] → found = .closed)) ∨
      ((commentStep opening closing nested : Parser σ υ CommentStep).Refuses View.tokens text ∧
        closing.toList ≠ [] ∧
        afterInside marked closing.toList nested (depth + 1) text = none) := by
  by_cases closes : closing.toList <+: text
  · obtain ⟨others, rfl⟩ := closes
    exact .inl ⟨closing.toList, .closed, others, rfl, commentStep_closes _ _ _ _,
      afterInside_closing others, id, fun _ => rfl⟩
  have some : closing.toList ≠ [] := by
    intro none
    rw [none] at closes
    exact closes (List.nil_prefix)
  by_cases opens : nested = true ∧ opening.toList <+: text
  · obtain ⟨nests, others, rfl⟩ := opens
    exact .inl ⟨opening.toList, .opened, others, rfl, commentStep_opens nests closes,
      afterInside_opening nests closes, fun _ => marked, fun none => absurd none some⟩
  obtain ⟨plain, others, rfl, unmarked, stops⟩ :=
    exists_run (fun c => !(commentMarks opening closing).toList.contains c) text
  cases plain with
  | cons c plain =>
      have outside : ∀ d ∈ c :: plain, d ∉ closing.toList ∧ d ∉ opening.toList := by
        intro d present
        rw [← not_or, ← contains_commentMarks]
        simpa using unmarked d present
      exact .inl ⟨c :: plain, .text, others, rfl,
        commentStep_skips (List.cons_ne_nil _ _) unmarked stops closes opens,
        afterInside_append some outside nested depth others,
        fun _ => List.cons_ne_nil _ _, fun none => absurd none some⟩
  | nil =>
      cases others with
      | nil => exact .inr ⟨commentStep_refuses some marked, some, afterInside_nil some⟩
      | cons c others =>
          have isMark : (commentMarks opening closing).toList.contains c = true := by
            simpa using stops
          exact .inl ⟨[c], .text, others, rfl, commentStep_skipsMark isMark closes opens,
            afterInside_cons closes opens, fun _ => List.cons_ne_nil _ _,
            fun none => absurd none some⟩

/-! ## Whole comments -/

/-- The outcome that a scan calls for: a success in front of the text that it leaves, or a failure
with a certain tag. -/
def ScannedAs
    (ran : Except Defect (Outcome σ υ Unit))
    (tag : Bool) :
    Option (List Char) → Prop
  | some rest => ∃ next error, ran = .ok ⟨true, .ok () next error⟩ ∧ View.tokens next rest
  | none => ∃ error, ran = .ok ⟨tag, .failed error⟩

namespace ScannedAs

variable
  {parser : Parser σ υ Unit}
  {state : State σ υ}
  {tag : Bool}
  {scan : Option (List Char)}

omit [LawfulTokenStream σ] in
/-- A parser that goes by the scan succeeds where the scan does, and stops there. -/
theorem yields_iff (scans : ScannedAs (parser.run state) tag scan) {rest : List Char} :
    (∃ consumed next error, parser.Yields state consumed () next error ∧
      TokenStream.toList next.input = rest) ↔ scan = some rest := by
  cases scan with
  | some left =>
      obtain ⟨next, error, ran, viewed⟩ := scans
      constructor
      · rintro ⟨consumed, after, found, otherRan, rfl⟩
        obtain ⟨-, -, rfl, -⟩ := Parser.Yields.unique ran otherRan
        exact congrArg some viewed.symm
      · intro same
        exact ⟨true, next, error, ran, viewed.trans (Option.some.inj same)⟩
  | none =>
      obtain ⟨error, failed⟩ := scans
      refine ⟨?_, by simp⟩
      rintro ⟨consumed, after, found, ran, -⟩
      exact absurd failed ran.not_fails

omit [LawfulTokenStream σ] in
/-- A parser that goes by the scan fails where the scan does, with the tag of the opening mark. -/
theorem fails_iff (scans : ScannedAs (parser.run state) tag scan) {consumed : Bool} :
    (∃ error, parser.Fails state consumed error) ↔ scan = none ∧ consumed = tag := by
  cases scan with
  | some left =>
      obtain ⟨next, error, ran, -⟩ := scans
      refine ⟨?_, by simp⟩
      rintro ⟨found, failed⟩
      exact absurd failed (Parser.Yields.not_fails ran)
  | none =>
      obtain ⟨error, failed⟩ := scans
      constructor
      · rintro ⟨found, otherFailed⟩
        have same := Except.ok.inj (otherFailed.symm.trans failed)
        exact ⟨rfl, congrArg Outcome.consumed same⟩
      · rintro ⟨-, rfl⟩
        exact ⟨error, failed⟩

omit [LawfulTokenStream σ] in
/-- A parser that goes by the scan always has an outcome. -/
theorem exists_outcome (scans : ScannedAs (parser.run state) tag scan) :
    ∃ outcome, parser.run state = .ok outcome := by
  cases scan with
  | some left =>
      obtain ⟨next, error, ran, -⟩ := scans
      exact ⟨_, ran⟩
  | none =>
      obtain ⟨error, failed⟩ := scans
      exact ⟨_, failed⟩

omit [LawfulTokenStream σ] in
/-- A success has consumed the opening mark. -/
theorem consumed_of_yields
    (scans : ScannedAs (parser.run state) tag scan)
    {next : State σ υ}
    {consumed : Bool}
    {error : ParseError}
    (ran : parser.Yields state consumed () next error) :
    consumed = true := by
  cases scan with
  | some left =>
      obtain ⟨after, found, otherRan, -⟩ := scans
      exact (Parser.Yields.unique ran otherRan).1
  | none =>
      obtain ⟨found, failed⟩ := scans
      exact absurd failed ran.not_fails

end ScannedAs

/-- The rounds of a block comment end where the scan of its inside ends. Each round takes a
character at least, but a closing mark without characters leaves no second round. -/
theorem commentFrom_scans
    {opening closing : String}
    (marked : opening.toList ≠ [])
    (nested : Bool)
    {rounds depth : Nat}
    {text : List Char}
    {state : State σ υ}
    (enough : text.length < rounds)
    (shallow : closing.toList = [] → depth = 0)
    (viewed : View.tokens state text)
    (error : ParseError) :
    ScannedAs (commentFrom (commentStep opening closing nested) rounds (depth + 1) state error) true
      (afterInside marked closing.toList nested (depth + 1) text) := by
  induction rounds generalizing depth text state error with
  | zero => exact absurd enough (Nat.not_lt_zero _)
  | succ rounds ih =>
      rcases commentStep_scans (σ := σ) (υ := υ) marked closing nested depth text with
        ⟨word, step, others, rfl, reads, scan, longer, closes⟩ | ⟨refuses, -, scan⟩
      · obtain ⟨middle, earlier, ran, viewedMiddle⟩ := reads viewed
        rw [scan, commentFrom, ran]
        cases left : step.depthAfter (depth + 1) with
        | zero =>
            rw [afterInside_zero]
            simp only [left, if_true]
            exact ⟨middle, earlier, rfl, viewedMiddle⟩
        | succ deeper =>
            have some : closing.toList ≠ [] := by
              intro none
              rw [closes none, shallow none] at left
              contradiction
            have long := List.length_pos_iff.mpr (longer some)
            rw [List.length_append] at enough
            simp only [left, Nat.succ_ne_zero, if_false]
            exact ih (by omega) (fun none => absurd none some) viewedMiddle earlier
      · obtain ⟨stepError, failed⟩ := refuses viewed
        rw [scan, commentFrom, failed]
        exact ⟨error.merge stepError, rfl⟩

/-- A block comment ends where its scan ends, and fails at once where it is not opened. -/
theorem blockComment_scans
    {opening : String}
    (marked : opening.toList ≠ [])
    (closing : String)
    (nested : Bool)
    {text : List Char}
    {state : State σ υ}
    (viewed : View.tokens state text) :
    ScannedAs ((blockComment opening closing nested).run state) (decide (opening.toList <+: text))
      (afterComment marked closing.toList nested text) := by
  rw [blockComment, commentAfter, Parser.run_mk]
  by_cases opened : opening.toList <+: text
  · obtain ⟨inside, rfl⟩ := opened
    obtain ⟨middle, earlier, ran, viewedInside⟩ :=
      (Parser.string_reads opening inside).attempt (υ := υ) viewed
    have enough : inside.length < state.patience := by
      have fewer := View.tokens_fits viewed
      have bounded := state.size_lt_patience
      rw [List.length_append] at fewer
      omega
    rw [ran, decide_eq_true (List.prefix_append _ _), afterComment_append]
    exact commentFrom_scans marked nested enough (fun _ => rfl) viewedInside earlier
  · obtain ⟨error, failed⟩ := Parser.string_attempt_refuses (υ := υ) opened viewed
    rw [failed, decide_eq_false opened, afterComment_of_unopened opened]
    exact ⟨error, rfl⟩

/-- A comment is read up to the mark that closes it. -/
theorem blockComment_reads
    {opening closing : String}
    {marked : opening.toList ≠ []}
    {nested : Bool}
    {comment rest : List Char}
    (scan : afterInside marked closing.toList nested 1 (comment ++ rest) = some rest) :
    (blockComment opening closing nested : Parser σ υ Unit).Reads View.tokens
      (opening.toList ++ comment) () rest := by
  intro state viewed
  have scans := blockComment_scans marked closing nested viewed
  rw [List.append_assoc, afterComment_append, scan] at scans
  obtain ⟨next, error, ran, left⟩ := scans
  have some : opening.toList ++ comment ≠ [] := by simp [marked]
  refine ⟨next, error, ?_, left⟩
  rw [Parser.Yields, ran, List.isEmpty_eq_false_iff.mpr some]
  rfl

/-- Without an opening mark, nothing is consumed. -/
theorem blockComment_refuses
    {opening : String}
    {text : List Char}
    (marked : opening.toList ≠ [])
    (closing : String)
    (nested : Bool)
    (unopened : ¬ opening.toList <+: text) :
    (blockComment opening closing nested : Parser σ υ Unit).Refuses View.tokens text := by
  intro state viewed
  have scans := blockComment_scans marked closing nested viewed
  rwa [afterComment_of_unopened unopened, decide_eq_false unopened] at scans

/-- A block comment is read if and only if the scan finds its end, and in front of the same rest.
Otherwise it fails: at once where it is not opened, and with input consumed where it is. -/
theorem blockComment_iff_scan
    {opening : String}
    (marked : opening.toList ≠ [])
    (closing : String)
    (nested : Bool)
    (state : State σ υ) :
    (∀ rest,
      (∃ consumed next error,
        (blockComment opening closing nested).Yields state consumed () next error ∧
          TokenStream.toList next.input = rest) ↔
        afterComment marked closing.toList nested (TokenStream.toList state.input) = some rest) ∧
      ((∃ consumed error, (blockComment opening closing nested).Fails state consumed error) ↔
        afterComment marked closing.toList nested (TokenStream.toList state.input) = none) ∧
      ∀ consumed error, (blockComment opening closing nested).Fails state consumed error →
        consumed = decide (opening.toList <+: TokenStream.toList state.input) := by
  have viewed : View.tokens state (TokenStream.toList state.input) := rfl
  have scans := blockComment_scans marked closing nested viewed
  refine ⟨fun rest => scans.yields_iff, ⟨?_, fun unread => ?_⟩, fun consumed error failed => ?_⟩
  · rintro ⟨consumed, failed⟩
    exact (scans.fails_iff.mp failed).1
  · exact ⟨_, scans.fails_iff.mpr ⟨unread, rfl⟩⟩
  · exact (scans.fails_iff.mp ⟨error, failed⟩).2

/-- Where the marks share their characters, a character that begins one may be text. -/
theorem blockComment_iff_scan_overlapping :
    ∃ consumed next error, (blockComment "ab" "ba" true).Yields
        (⟨Text.ofString "aba-baba!", .start "", ()⟩ : State Text Unit) consumed () next error ∧
      TokenStream.toList next.input = ['b', 'a', '!'] := by
  have marked : "ab".toList ≠ [] := by decide
  have scan : afterComment marked "ba".toList true "aba-baba!".toList = some ['b', 'a', '!'] := by
    simp [afterComment, afterInside]
  rw [← Text.toList_ofString "aba-baba!"] at scan
  exact ((blockComment_iff_scan marked "ba" true _).1 _).mpr scan

end Language
end Predictive
