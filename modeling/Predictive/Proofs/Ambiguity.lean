import Predictive.Proofs.TokenTables

/-!
# Ambiguous uses of operators

A chain of infix operators of one associativity may be followed by an infix operator of the same
level but of another associativity, or by any infix operator of the level if the chain does not
associate. The parser of the table notices that, but it does not fail: the probes for such
operators give way to the value of the chain. It succeeds with that value wherever the chain
stands, and leaves the operator unread.
-/

namespace Predictive

open Category (Affix Operand Chain)

namespace Assoc

/-- An operator of the second associativity must not follow a chain of the first one. -/
def Conflicts (first second : Assoc) : Prop :=
  second ≠ first ∨ first = .non

end Assoc

namespace Category

variable {κ α : Type}

/-- A tighter word with at most one operator in front of it and none behind it. -/
inductive Prefixed (signs : List (Sign κ α)) (tighter : Category κ α) : Category κ α
  | intro
      {front core : List κ}
      {f : α → α}
      {value : α}
      (frontAffix : Affix (signs.filterMap Sign.before?) front f)
      (inner : tighter core value) :
      Prefixed signs tighter (front ++ core) (f value)

end Category

namespace SignTable

variable {κ α : Type}

/-- The words of the table over tighter words that end with a word of a certain category, with
nothing of the table behind it. -/
def ending (table : SignTable κ α) (tighter last : Category κ α) : Category κ α :=
  match table with
  | [] => last
  | signs :: table =>
      ending table (Category.level signs tighter)
        (Category.Level signs (Operand signs tighter) (Category.Prefixed signs last))

end SignTable

/-! ## Words in front of a conflict -/

/-- The parser reads the words of a category wherever certain symbols come behind them. -/
structure ReadsBefore {σ υ κ α : Type}
    (view : View σ υ κ)
    (parser : Parser σ υ α)
    (category : Category κ α)
    (leads : κ → Prop)
    (rest : List κ) : Prop where
  starts : ∀ ⦃word value⦄, category word value →
    ∃ symbol others, word = symbol :: others ∧ leads symbol
  reads : ∀ ⦃word value⦄, category word value → parser.Reads view word value rest

section
variable {σ τ υ κ α β : Type} [TokenStream σ τ] {view : View σ υ κ}
variable {symbolOf : κ → Parser σ υ β} {term : Parser σ υ α} {category : Category κ α}
variable {leads : κ → Prop} {trails : List κ} {signs : List (Sign κ α)}

/-- In front of an operator with which it conflicts, a chain is read as it would be in front of
the end of the input. -/
theorem ReadsWords.chain_before_conflict
    (tighter : ReadsWords view term category leads trails)
    (recognized : Level.Recognized view symbolOf signs)
    (apart : Sign.ApartFrom leads trails signs)
    (fits : view.Fits)
    {assoc other : Assoc}
    {conflict : κ}
    (present : conflict ∈ Sign.betweenSymbols signs other)
    (conflicts : assoc.Conflicts other)
    (rest : List κ) :
    ReadsBefore view (signLevel symbolOf term signs).parser
      (Chain signs (Operand signs category) (Operand signs category) assoc)
      (fun symbol => leads symbol ∨ symbol ∈ signs.filterMap Sign.leading?)
      (conflict :: rest) := by
  refine ⟨fun word value derived => ?_, fun word value derived => ?_⟩
  · exact ReadsWords.starts_level tighter.starts_operand tighter.starts_operand (.chain derived)
  · have operands : Level.ReadsOperands view (signLevel symbolOf term signs) signs
        (Operand signs category) (Operand signs category) (conflict :: rest) :=
      ⟨fun _ _ _ _ _ => tighter.operand_inside recognized apart,
        fun _ _ derived => tighter.operand_inside recognized apart derived present⟩
    refine Level.parser_reads_chain recognized apart.apart fits operands derived ?_
    intro associates
    rw [startsOutside_cons_iff]
    intro continues
    rcases conflicts with different | isNon
    · exact different (apart.apart.assoc_eq present continues)
    · exact associates isNon

/-- What is read in front of a symbol that belongs to a tighter level is also read as the end of
a word of the looser level. -/
theorem ReadsBefore.level
    {last : Category κ α}
    {conflict : κ}
    {rest : List κ}
    (before : ReadsBefore view term last leads (conflict :: rest))
    (tighter : ReadsWords view term category leads trails)
    (recognized : Level.Recognized view symbolOf signs)
    (apart : Sign.ApartFrom leads trails signs)
    (fits : view.Fits)
    (inner : conflict ∈ trails) :
    ReadsBefore view (signLevel symbolOf term signs).parser
      (Category.Level signs (Operand signs category) (Category.Prefixed signs last))
      (fun symbol => leads symbol ∨ symbol ∈ signs.filterMap Sign.leading?)
      (conflict :: rest) := by
  have outside : conflict ∉ signs.filterMap Sign.trailing? :=
    fun trailing => apart.trailing conflict trailing inner
  have notBetween (assoc : Assoc) :
      StartsOutside (Sign.betweenSymbols signs assoc) (conflict :: rest) := by
    rw [startsOutside_cons_iff]
    exact fun isBetween => outside ((Sign.betweenSymbols_sublist signs assoc).subset isBetween)
  have notBehind : StartsOutside (Sign.behindSymbols signs) (conflict :: rest) := by
    rw [startsOutside_cons_iff]
    exact fun isBehind => outside ((Sign.behindSymbols_sublist signs).subset isBehind)
  have prefixedReads ⦃word : List κ⦄ ⦃value : α⦄
      (derived : Category.Prefixed signs last word value) :
      (signLevel symbolOf term signs).operand.Reads view word value (conflict :: rest) := by
    cases derived with
    | intro frontAffix inside =>
        obtain ⟨symbol, others, rfl, isLeading⟩ := before.starts inside
        rw [← List.append_nil (_ ++ _)]
        refine Level.operand_reads recognized apart.apart frontAffix ?_ ?_ .none notBehind
        · rw [List.cons_append, List.cons_append, startsOutside_cons_iff]
          exact fun present => apart.leading symbol present isLeading
        · exact before.reads inside
  have prefixedStarts ⦃word : List κ⦄ ⦃value : α⦄
      (derived : Category.Prefixed signs last word value) :
      ∃ symbol others, word = symbol :: others ∧
        (leads symbol ∨ symbol ∈ signs.filterMap Sign.leading?) := by
    cases derived with
    | intro frontAffix inside =>
        obtain ⟨symbol, others, rfl, isLeading⟩ := before.starts inside
        cases frontAffix with
        | none => exact ⟨symbol, others, rfl, .inl isLeading⟩
        | one present =>
            refine ⟨_, _, rfl, .inr ?_⟩
            rw [← Sign.map_fst_before?]
            exact List.mem_map_of_mem present
  have operands : Level.ReadsOperands view (signLevel symbolOf term signs) signs
      (Operand signs category) (Category.Prefixed signs last) (conflict :: rest) :=
    ⟨fun _ _ _ _ _ => tighter.operand_inside recognized apart, prefixedReads⟩
  refine ⟨fun word value derived => ?_, fun word value derived => ?_⟩
  · exact ReadsWords.starts_level tighter.starts_operand prefixedStarts derived
  · cases derived with
    | alone ends => exact Level.parser_reads_alone recognized apart.apart operands ends notBetween
    | chain applied =>
        exact Level.parser_reads_chain recognized apart.apart fits operands applied
          fun _ => notBetween _

end

namespace SignTable

variable {σ τ υ κ α β : Type} [TokenStream σ τ] {view : View σ υ κ}
variable {symbolOf : κ → Parser σ υ β} {trails : List κ}

theorem readsBefore_ending
    {table : SignTable κ α}
    {term : Parser σ υ α}
    {category last : Category κ α}
    {leads : κ → Prop}
    {conflict : κ}
    {rest : List κ}
    (before : ReadsBefore view term last leads (conflict :: rest))
    (tighter : ReadsWords view term category leads trails)
    (recognized : table.Recognized view symbolOf)
    (apart : table.ApartFrom leads trails)
    (fits : view.Fits)
    (inner : conflict ∈ trails)
    {word : List κ}
    {value : α}
    (derived : table.ending category last word value) :
    ((table.operators symbolOf).expression term).Reads view word value (conflict :: rest) := by
  induction table generalizing term category last leads trails with
  | nil => exact before.reads derived
  | cons signs table ih =>
      obtain ⟨levelApart, tableApart⟩ := apart
      have here := recognized signs List.mem_cons_self
      have others : Recognized view symbolOf table :=
        fun row present => recognized row (List.mem_cons_of_mem signs present)
      have innerHere := List.mem_append_left (signs.filterMap Sign.trailing?) inner
      exact ih (before.level tighter here levelApart fits inner)
        (tighter.level here levelApart fits) others tableApart innerHere derived

/-- A level of a table is apart from the levels in front of it, and those behind it from both. -/
theorem ApartFrom.split
    {inner outer : SignTable κ α}
    {signs : List (Sign κ α)}
    {leads : κ → Prop}
    (apart : ApartFrom leads trails (inner ++ signs :: outer)) :
    ApartFrom leads trails inner ∧
      Sign.ApartFrom (Leads leads inner) (trailing trails inner) signs ∧
      ApartFrom
        (fun symbol => Leads leads inner symbol ∨ symbol ∈ signs.filterMap Sign.leading?)
        (trailing trails inner ++ signs.filterMap Sign.trailing?) outer := by
  induction inner generalizing leads trails with
  | nil =>
      rw [leads_nil, trailing_nil]
      exact ⟨trivial, apart.1, apart.2⟩
  | cons first inner ih =>
      obtain ⟨here, others⟩ := apart
      obtain ⟨tighter, level, looser⟩ := ih others
      rw [leads_cons, trailing_cons]
      exact ⟨⟨here, tighter⟩, level, looser⟩

theorem expression_operators_split
    (inner outer : SignTable κ α)
    (signs : List (Sign κ α))
    (term : Parser σ υ α) :
    ((inner ++ signs :: outer : SignTable κ α).operators symbolOf).expression term =
      (outer.operators symbolOf).expression
        (signLevel symbolOf ((inner.operators symbolOf).expression term) signs).parser := by
  unfold operators
  rw [List.map_append, List.map_cons, OperatorTable.expression, List.foldl_append]
  rfl

/-- Wherever an operator follows a chain of its level with which it conflicts, the parser of the
table takes the word that ends with the chain, and leaves the operator unread. -/
theorem reads_before_conflict
    {inner outer : SignTable κ α}
    {signs : List (Sign κ α)}
    {term : Parser σ υ α}
    {category : Category κ α}
    {leads : κ → Prop}
    (tighter : ReadsWords view term category leads trails)
    (recognized : (inner ++ signs :: outer : SignTable κ α).Recognized view symbolOf)
    (apart : (inner ++ signs :: outer : SignTable κ α).ApartFrom leads trails)
    (fits : view.Fits)
    {assoc other : Assoc}
    {conflict : κ}
    (present : conflict ∈ Sign.betweenSymbols signs other)
    (conflicts : assoc.Conflicts other)
    {word : List κ}
    {value : α}
    (derived : outer.ending (Category.level signs (inner.expression category))
      (Chain signs (Operand signs (inner.expression category))
        (Operand signs (inner.expression category)) assoc) word value)
    (rest : List κ) :
    (((inner ++ signs :: outer : SignTable κ α).operators symbolOf).expression term).Reads view
      word value (conflict :: rest) := by
  obtain ⟨innerApart, levelApart, outerApart⟩ := apart.split
  have innerRecognized : inner.Recognized view symbolOf :=
    fun others inside => recognized others (List.mem_append_left _ inside)
  have levelRecognized : Level.Recognized view symbolOf signs :=
    recognized signs (List.mem_append_right _ List.mem_cons_self)
  have outerRecognized : outer.Recognized view symbolOf :=
    fun others inside => recognized others (List.mem_append_right _ (.tail _ inside))
  have innerReads := readsWords tighter innerRecognized innerApart fits
  have chainReads := innerReads.chain_before_conflict levelRecognized levelApart fits present
    conflicts rest
  have trails := (Sign.betweenSymbols_sublist signs other).subset present
  rw [expression_operators_split]
  exact readsBefore_ending chainReads (innerReads.level levelRecognized levelApart fits)
    outerRecognized outerApart fits (List.mem_append_right _ trails) derived

/-- The parser of a table of distinct tokens never fails where an operator follows a chain of its
level with which it conflicts: it succeeds with the value of what comes in front of the operator,
and the operator is the next token after that. -/
theorem conflict_left_unread
    [LawfulTokenStream σ] [Describe τ] [DecidableEq τ]
    {inner outer : SignTable τ α}
    {signs : List (Sign τ α)}
    {term : Parser σ υ α}
    {category : Category τ α}
    {leads : τ → Prop}
    (distinct : ((inner ++ signs :: outer : SignTable τ α).flatten.map Sign.symbol).Nodup)
    (tighter : ReadsWords View.tokens term category leads [])
    (apart : ∀ sign ∈ (inner ++ signs :: outer : SignTable τ α).flatten, ¬ leads sign.symbol)
    {assoc other : Assoc}
    {conflict : τ}
    {apply : α → α → α}
    (present : .between other conflict apply ∈ signs)
    (conflicts : assoc.Conflicts other)
    {word rest : List τ}
    {value : α}
    (derived : outer.ending (Category.level signs (inner.expression category))
      (Chain signs (Operand signs (inner.expression category))
        (Operand signs (inner.expression category)) assoc) word value)
    {state : State σ υ}
    (input : TokenStream.toList state.input = word ++ conflict :: rest) :
    ∃ consumed next error,
      (((inner ++ signs :: outer : SignTable τ α).operators Parser.tokenEq).expression term).run
          state = .ok ⟨consumed, .ok value next error⟩ ∧
        TokenStream.toList next.input = conflict :: rest := by
  have isApart : (inner ++ signs :: outer : SignTable τ α).ApartFrom leads [] :=
    apartFrom_of_nodup distinct fun sign inside => ⟨apart sign inside, by simp⟩
  have isBetween : conflict ∈ Sign.betweenSymbols signs other :=
    Sign.mem_betweenSymbols_iff.mpr ⟨apply, present⟩
  have reads := reads_before_conflict tighter (tokens_recognized _) isApart View.tokens_fits
    isBetween conflicts derived rest
  obtain ⟨next, error, ran, left⟩ := reads input
  exact ⟨_, next, error, ran, left⟩

/-- Two infix operators of different associativity. -/
def comparisons : List (Sign Char (List Char)) :=
  [.between .left '<' (bracketed '<'), .between .right '>' (bracketed '>')]

/-- An operator in front of its operand. -/
def negation : List (Sign Char (List Char)) :=
  [.before '-' ('-' :: ·)]

/-- After `-1<2` the operator `>` conflicts, and is left unread. -/
theorem conflict_left_unread_comparisons :
    ∃ consumed next error,
      ((([] ++ comparisons :: [negation] : SignTable Char (List Char)).operators
          Parser.tokenEq).expression digitToken).run
            (⟨Tokens.ofList "-1<2>3".toList, .start "", ()⟩ : State (Tokens Char) Unit) =
          .ok ⟨consumed, .ok "-(1<2)".toList next error⟩ ∧
        TokenStream.toList next.input = ">3".toList := by
  have operand (c : Char) (text : List Char) (valued : digitText c = some text) :
      Operand comparisons (Category.single digitText) [c] text := by
    have inner : Category.single digitText [c] text := ⟨c, rfl, valued⟩
    exact .intro .none inner .none
  have isInfix : ('<', bracketed '<') ∈ comparisons.filterMap (Sign.between? .left) := .head _
  have isPrefix : ('-', ('-' :: ·)) ∈ negation.filterMap Sign.before? := .head _
  have chain : Chain comparisons (Operand comparisons (Category.single digitText))
      (Operand comparisons (Category.single digitText)) .left "1<2".toList "(1<2)".toList :=
    .left (.first (operand '1' ['1'] rfl)) isInfix (operand '2' ['2'] rfl)
  have negated : Category.Prefixed negation
      (Chain comparisons (Operand comparisons (Category.single digitText))
        (Operand comparisons (Category.single digitText)) .left) "-1<2".toList "-(1<2)".toList :=
    .intro (.one isPrefix) chain
  have present : .between .right '>' (bracketed '>') ∈ comparisons := .tail _ (.head _)
  have conflicts : Assoc.left.Conflicts .right := .inl (by decide)
  have fresh : ∀ sign ∈ ([] ++ comparisons :: [negation] : SignTable Char (List Char)).flatten,
      ¬ digitText sign.symbol ≠ none := by decide
  exact conflict_left_unread (by decide) (readsWords_term digitToken_takesOne) fresh present
    conflicts (Category.Level.alone negated) rfl

end SignTable

/-- The documented failure does not come: the parser of a single level with a left and a right
operator, and with nothing behind it, does not fail on `1<2>3`. -/
theorem ambiguous_comparison_does_not_fail :
    ¬ ∃ consumed error,
      (OperatorTable.expression
          [[.binary (Parser.char '<') (fun x y => ["<"] ++ x ++ y) .left,
            .binary (Parser.char '>') (fun x y => [">"] ++ x ++ y) .right]]
          (Parser.digit.many1.map fun digits => [String.ofList digits]) :
        Parser Text Unit (List String)).run ⟨Text.ofString "1<2>3", .start "t", ()⟩ =
          .ok ⟨consumed, .failed error⟩ := by
  rintro ⟨consumed, error, failed⟩
  obtain ⟨next, found, ran⟩ : ∃ next found,
      (OperatorTable.expression
          [[.binary (Parser.char '<') (fun x y => ["<"] ++ x ++ y) .left,
            .binary (Parser.char '>') (fun x y => [">"] ++ x ++ y) .right]]
          (Parser.digit.many1.map fun digits => [String.ofList digits]) :
        Parser Text Unit (List String)).Yields ⟨Text.ofString "1<2>3", .start "t", ()⟩ true
          ["<", "1", "2"] next found :=
    Parser.exists_yields (by decide +kernel)
  have contrary := ran.symm.trans failed
  simp at contrary

end Predictive
