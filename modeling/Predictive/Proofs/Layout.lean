import Predictive.Proofs.Spacing

/-!
# Layout between lexemes

A layout consists of white space and comments in the style of Haskell. A line comment runs up
to its line feed. A block comment ends where as many closing as opening marks have been met; a
mark is one wherever it is met on the way from the left, so the marks never overlap. White space
is skipped up to the end of a layout in front of anything that starts neither white space nor
a comment.
-/

namespace Predictive

/-- The rest of a block comment in which a number of comments is open. -/
inductive CommentRest : Nat → List Char → Prop
  | done : CommentRest 0 []
  | close
      {depth : Nat}
      {text : List Char}
      (after : CommentRest depth text) :
      CommentRest (depth + 1) ('-' :: '}' :: text)
  | enter
      {depth : Nat}
      {text : List Char}
      (inside : CommentRest (depth + 2) text) :
      CommentRest (depth + 1) ('{' :: '-' :: text)
  | skip
      {depth : Nat}
      {c : Char}
      {text : List Char}
      (notClosing : ¬ ['-', '}'] <+: c :: text)
      (notOpening : ¬ ['{', '-'] <+: c :: text)
      (after : CommentRest (depth + 1) text) :
      CommentRest (depth + 1) (c :: text)

/-- White space, complete line comments and balanced block comments. -/
inductive Layout : List Char → Prop
  | nil : Layout []
  | space
      {c : Char}
      {text : List Char}
      (blank : Unicode.isWhiteSpace c = true)
      (others : Layout text) :
      Layout (c :: text)
  | line
      {comment text : List Char}
      (inLine : '\n' ∉ comment)
      (others : Layout text) :
      Layout ('-' :: '-' :: comment ++ '\n' :: text)
  | block
      {comment text : List Char}
      (balanced : CommentRest 1 comment)
      (others : Layout text) :
      Layout ('{' :: '-' :: comment ++ text)

/-- A layout at the end of a source, where a line comment needs no line feed. -/
inductive FinalLayout : List Char → Prop
  | complete
      {text : List Char}
      (layout : Layout text) :
      FinalLayout text
  | unfinished
      {text comment : List Char}
      (layout : Layout text)
      (inLine : '\n' ∉ comment) :
      FinalLayout (text ++ '-' :: '-' :: comment)

/-- Neither white space nor a comment starts here. -/
structure Solid (rest : List Char) : Prop where
  notBlank : StopsAt Unicode.isWhiteSpace rest
  notLine : ¬ ['-', '-'] <+: rest
  notBlock : ¬ ['{', '-'] <+: rest

namespace CommentRest

/-- The rest of a comment, found by a run over it. -/
def holds : Nat → List Char → Bool
  | 0, text => text.isEmpty
  | _ + 1, [] => false
  | depth + 1, '-' :: '}' :: text => holds depth text
  | depth + 1, '{' :: '-' :: text => holds (depth + 2) text
  | depth + 1, _ :: text => holds (depth + 1) text

/-- Whether a text is the rest of a comment can be computed. -/
theorem holds_iff {depth : Nat} {text : List Char} :
    holds depth text = true ↔ CommentRest depth text := by
  constructor
  · intro isRest
    fun_induction holds depth text with
    | case1 text =>
        rw [List.isEmpty_iff] at isRest
        rw [isRest]
        exact .done
    | case2 depth => contradiction
    | case3 depth text ih => exact .close (ih isRest)
    | case4 depth text ih => exact .enter (ih isRest)
    | case5 depth c text notClosing notOpening ih =>
        refine .skip ?_ ?_ (ih isRest)
        · rintro ⟨others, same⟩
          obtain ⟨rfl, rfl⟩ := List.cons.inj same
          exact notClosing others rfl rfl
        · rintro ⟨others, same⟩
          obtain ⟨rfl, rfl⟩ := List.cons.inj same
          exact notOpening others rfl rfl
  · intro inside
    induction inside with
    | done => rfl
    | close after ih => exact ih
    | enter inside ih => exact ih
    | skip notClosing notOpening after ih =>
        rw [holds]
        · exact ih
        · rintro others rfl rfl
          exact notClosing ⟨others, rfl⟩
        · rintro others rfl rfl
          exact notOpening ⟨others, rfl⟩

instance (depth : Nat) (text : List Char) : Decidable (CommentRest depth text) :=
  decidable_of_iff (holds depth text = true) holds_iff

/-- A comment that is open goes on at least to its closing mark. -/
theorem ne_nil {depth : Nat} {text : List Char} (inside : CommentRest (depth + 1) text) :
    text ≠ [] := by
  cases inside <;> simp

/-- Whether two characters come next is decided within a text that has two. -/
theorem not_isPrefix_append
    {first second c : Char}
    {text : List Char}
    (absent : ¬ [first, second] <+: c :: text)
    (some : text ≠ [])
    (rest : List Char) :
    ¬ [first, second] <+: c :: (text ++ rest) := by
  obtain ⟨d, text, rfl⟩ := List.exists_cons_of_ne_nil some
  simpa [List.cons_prefix_cons] using absent

/-- A scan of the rest of a comment ends where that does, whatever comes behind it. -/
theorem afterInside_eq
    {depth : Nat}
    {text : List Char}
    (inside : CommentRest depth text)
    (marked : ['{', '-'] ≠ [])
    (rest : List Char) :
    afterInside marked ['-', '}'] true depth (text ++ rest) = some rest := by
  induction inside with
  | done => exact afterInside_zero rest
  | close after ih => exact (afterInside_closing _).trans ih
  | enter inside ih =>
      refine (afterInside_opening rfl ?_).trans ih
      simp [List.cons_prefix_cons]
  | skip notClosing notOpening after ih =>
      refine (afterInside_cons ?_ fun opens => ?_).trans ih
      · exact not_isPrefix_append notClosing after.ne_nil rest
      · exact not_isPrefix_append notOpening after.ne_nil rest opens.2

end CommentRest

/-- The white space at the front of a layout. -/
theorem Layout.exists_spaces {text : List Char} (layout : Layout text) :
    ∃ spaces others, text = spaces ++ others ∧
      (∀ c ∈ spaces, Unicode.isWhiteSpace c = true) ∧
      StopsAt Unicode.isWhiteSpace others ∧ Layout others := by
  induction layout with
  | nil => exact ⟨[], [], rfl, by simp, stopsAt_nil _, .nil⟩
  | space blank others ih =>
      obtain ⟨spaces, left, rfl, allBlank, stops, leftLayout⟩ := ih
      refine ⟨_ :: spaces, left, rfl, ?_, stops, leftLayout⟩
      simpa [blank] using allBlank
  | line inLine others ih =>
      refine ⟨[], _, rfl, by simp, ?_, .line inLine others⟩
      exact (stopsAt_cons_iff _ _ _).mpr (by decide)
  | block balanced others ih =>
      refine ⟨[], _, rfl, by simp, ?_, .block balanced others⟩
      exact (stopsAt_cons_iff _ _ _).mpr (by decide)

namespace Language

/-! ## White space -/

section
variable {σ υ : Type} [TokenStream σ Char]

theorem commentLine_haskellStyle :
    (haskellStyle : Language σ υ).commentLine.toList = ['-', '-'] := by
  change "--".toList = ['-', '-']
  rfl

theorem commentStart_haskellStyle :
    (haskellStyle : Language σ υ).commentStart.toList = ['{', '-'] := by
  change "\x7b-".toList = ['{', '-']
  rfl

theorem commentEnd_haskellStyle : (haskellStyle : Language σ υ).commentEnd.toList = ['-', '}'] := by
  change "-\x7d".toList = ['-', '}']
  rfl

/-- What is solid in the calculator is so in its language. -/
theorem solidAt_haskellStyle {rest : List Char} (solid : Solid rest) :
    (haskellStyle : Language σ υ).SolidAt rest where
  notBlank := solid.notBlank
  notLine _ := by
    rw [commentLine_haskellStyle]
    exact solid.notLine
  notBlock _ := by
    rw [commentStart_haskellStyle]
    exact solid.notBlock

/-- A comment up to the end of its line is skipped. -/
theorem blank_haskellStyle_line
    {comment rest : List Char}
    (inLine : '\n' ∉ comment)
    (ends : StopsAt (fun c => c != '\n') rest) :
    (haskellStyle : Language σ υ).Blank ('-' :: '-' :: comment ++ rest) rest := by
  have notBlank : StopsAt Unicode.isWhiteSpace ('-' :: '-' :: comment ++ rest) :=
    (stopsAt_cons_iff _ _ _).mpr (by decide)
  have marked : (haskellStyle : Language σ υ).commentLine ≠ "" := by
    change "--" ≠ ""
    decide
  have split : '-' :: '-' :: comment ++ rest =
      (haskellStyle : Language σ υ).commentLine.toList ++ comment ++ rest := by
    rw [commentLine_haskellStyle]
    rfl
  rw [split] at notBlank ⊢
  exact .line marked notBlank inLine ends

/-- A comment between its marks is skipped. -/
theorem blank_haskellStyle_block
    {comment : List Char}
    (balanced : CommentRest 1 comment)
    (rest : List Char) :
    (haskellStyle : Language σ υ).Blank ('{' :: '-' :: comment ++ rest) rest := by
  have marked : (haskellStyle : Language σ υ).commentStart.toList ≠ [] := by
    rw [commentStart_haskellStyle]
    decide
  refine .block marked ((stopsAt_cons_iff _ _ _).mpr (by decide)) (fun _ => ?_) ?_
  · rw [commentLine_haskellStyle]
    simp [List.cons_prefix_cons]
  · simp only [commentStart_haskellStyle, commentEnd_haskellStyle]
    exact (afterComment_append _).trans (balanced.afterInside_eq _ rest)

/-- A layout consists of blanks, each of which takes white space as far as it goes or a comment. -/
theorem skipped_of_layout
    {text : List Char}
    (layout : Layout text)
    {rest : List Char}
    (stops : StopsAt Unicode.isWhiteSpace rest) :
    (haskellStyle : Language σ υ).Skipped (text ++ rest) rest := by
  induction size : text.length using Nat.strongRecOn generalizing text with
  | ind length ih =>
      subst size
      cases layout with
      | nil => exact .refl
      | space blank others =>
          rename_i c others'
          obtain ⟨spaces, left, rfl, allBlank, stopsLeft, leftLayout⟩ := others.exists_spaces
          have all : ∀ d ∈ c :: spaces, Unicode.isWhiteSpace d = true := by
            simpa [blank] using allBlank
          have shorter : left.length < (c :: (spaces ++ left)).length := by
            rw [List.length_cons, List.length_append]
            omega
          have first : (haskellStyle : Language σ υ).Blank (c :: spaces ++ (left ++ rest))
              (left ++ rest) := .spaces (List.cons_ne_nil c spaces) all (stopsLeft.append stops)
          rw [← List.append_assoc] at first
          exact .head first (ih left.length shorter leftLayout rfl)
      | line inLine others =>
          rename_i comment text
          have layout : Layout ('\n' :: text) := .space (by decide) others
          have shorter : ('\n' :: text).length <
              ('-' :: '-' :: comment ++ '\n' :: text).length := by
            simp only [List.length_cons, List.length_append]
            omega
          have ends : StopsAt (fun c => c != '\n') ('\n' :: text ++ rest) :=
            (stopsAt_cons_iff _ _ _).mpr rfl
          rw [List.append_assoc]
          exact .head (blank_haskellStyle_line inLine ends) (ih _ shorter layout rfl)
      | block balanced others =>
          rename_i comment text
          have shorter : text.length < ('{' :: '-' :: comment ++ text).length := by
            simp only [List.length_cons, List.length_append]
            omega
          rw [List.append_assoc]
          exact .head (blank_haskellStyle_block balanced _) (ih _ shorter others rfl)

end

variable {σ υ : Type} [TokenStream σ Char] [LawfulTokenStream σ]

/-- Layout is what the white space of the language reads in front of what is solid. -/
theorem whiteSpace_reads
    {text rest : List Char}
    (layout : Layout text)
    (solid : Solid rest) :
    (haskellStyle : Language σ υ).whiteSpace.Reads View.tokens text () rest :=
  (skipped_of_layout layout solid.notBlank).whiteSpace_reads (solidAt_haskellStyle solid)

/-- At the end of the input, layout may end in a comment without the end of a line. -/
theorem whiteSpace_reads_final
    {text : List Char}
    (layout : FinalLayout text) :
    (haskellStyle : Language σ υ).whiteSpace.Reads View.tokens text () [] := by
  have solid : Solid [] := ⟨stopsAt_nil _, by simp, by simp⟩
  cases layout with
  | complete layout => exact whiteSpace_reads layout solid
  | unfinished layout inLine =>
      rename_i text comment
      have stops : StopsAt Unicode.isWhiteSpace ('-' :: '-' :: comment ++ []) :=
        (stopsAt_cons_iff _ _ _).mpr (by decide)
      have skipped := (skipped_of_layout (σ := σ) (υ := υ) layout stops).tail
        (blank_haskellStyle_line inLine (stopsAt_nil _))
      rw [← List.append_assoc] at skipped
      exact Skipped.whiteSpace_reads skipped (solidAt_haskellStyle solid)

end Language
end Predictive
