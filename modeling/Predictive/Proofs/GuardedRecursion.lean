import Predictive.Proofs.ArithmeticTokens
import Predictive.Proofs.LexerReturning
import Predictive.Proofs.TableReturning

/-!
# Recursion behind an opening parenthesis

The definition of expressions runs its handle behind an opening parenthesis only. This is seen by
exchanging the handle: the definition runs in the same way with all handles that run in the same way
behind a parenthesis. So each run of the handle starts with fewer characters to come than the run
around it, a source with `n` characters nests at most `n + 1` runs, and it always has an outcome.
-/

namespace Predictive
namespace Parser

/-! ## Parsers that agree on the last tokens -/

section
variable {σ υ α β : Type}

/-- The parser, but another one in states of a kind. -/
def exchanged
    (parser : Parser σ υ α)
    (kind : State σ υ → Prop)
    [DecidablePred kind]
    (other : Parser σ υ α) :
    Parser σ υ α :=
  ⟨fun state => if kind state then other.run state else parser.run state⟩

theorem run_exchanged_of_not
    (parser other : Parser σ υ α)
    (kind : State σ υ → Prop)
    [DecidablePred kind]
    {state : State σ υ}
    (outside : ¬ kind state) :
    (parser.exchanged kind other).run state = parser.run state :=
  if_neg outside

/-- What is run behind a parser matters only in the states that the parser leads to. -/
theorem run_bind_congr
    {parser other : Parser σ υ α}
    {following otherFollowing : α → Parser σ υ β}
    {state : State σ υ}
    (same : parser.run state = other.run state)
    (followings : ∀ ⦃consumed value next error⦄, parser.Yields state consumed value next error →
      (following value).run next = (otherFollowing value).run next) :
    (parser.bind following).run state = (other.bind otherFollowing).run state := by
  rcases ran : parser.run state with defect | ⟨consumed, ⟨value, next, error⟩ | error⟩
  · rw [run_bind_of_error ran, run_bind_of_error (same.symm.trans ran)]
  · rw [run_bind_of_ok ran, run_bind_of_ok (same.symm.trans ran), followings ran]
  · rw [run_bind_of_failed ran, run_bind_of_failed (same.symm.trans ran)]

end

section
variable {σ τ υ α β : Type} [TokenStream σ τ]

/-- The parser where fewer tokens are to come than a limit, and a failure elsewhere. -/
def cutOff (parser : Parser σ υ α) (limit : Nat) : Parser σ υ α :=
  parser.exchanged (fun state => limit ≤ (TokenStream.toList state.input).length) Parser.empty

section
variable {parser : Parser σ υ α} {limit : Nat}

theorem run_cutOff
    {state : State σ υ}
    (few : (TokenStream.toList state.input).length < limit) :
    (parser.cutOff limit).run state = parser.run state :=
  run_exchanged_of_not _ _ _ (Nat.not_le.mpr few)

theorem cutOff_returns
    (returns : ∀ ⦃state⦄, (TokenStream.toList state.input).length < limit →
      ∃ outcome, parser.run state = .ok outcome) :
    (parser.cutOff limit).Returns := by
  intro state
  by_cases few : (TokenStream.toList state.input).length < limit
  · rw [run_cutOff few]
    exact returns few
  · exact ⟨_, if_pos (Nat.not_lt.mp few)⟩

theorem cutOff_sound (sound : parser.TagsSoundly) : (parser.cutOff limit).TagsSoundly := by
  intro state consumed value next error ran
  by_cases few : (TokenStream.toList state.input).length < limit
  · rw [Yields, run_cutOff few] at ran
    exact sound ran
  · rw [Yields, cutOff, exchanged, run_mk, if_pos (Nat.not_lt.mp few), run_empty] at ran
    cases ran

end

/-- The parsers run in the same way wherever the tokens to come are the last ones of some tokens.
The first parser does not leave such states. -/
structure Agrees (tokens : List τ) ⦃α : Type⦄ (parser other : Parser σ υ α) : Prop where
  composed : Composed (fun _ atom => atom.TagsSoundly) parser
  same : ∀ ⦃state⦄, TokenStream.toList state.input <:+ tokens → parser.run state = other.run state

namespace Agrees

variable {tokens : List τ} {parser other : Parser σ υ α}

theorem of_sound
    (sound : parser.TagsSoundly)
    (same : ∀ ⦃state⦄, TokenStream.toList state.input <:+ tokens →
      parser.run state = other.run state) :
    Agrees tokens parser other :=
  ⟨.atom sound, same⟩

theorem of_primitive [LawfulTokenStream σ] (composed : Composed Primitive parser) :
    Agrees tokens parser parser :=
  .of_sound (tagsSoundly_of_composed composed) fun _ _ => rfl

theorem sound (agrees : Agrees tokens parser other) : parser.TagsSoundly :=
  agrees.composed.tagsSoundly fun _ _ atom => atom

theorem isSuffix
    {state next : State σ υ}
    {consumed : Bool}
    {value : α}
    {error : ParseError}
    (agrees : Agrees tokens parser other)
    (ran : parser.Yields state consumed value next error)
    (inside : TokenStream.toList state.input <:+ tokens) :
    TokenStream.toList next.input <:+ tokens :=
  (agrees.sound ran).isSuffix.trans inside

theorem attempt (agrees : Agrees tokens parser other) :
    Agrees tokens parser.attempt other.attempt := by
  refine ⟨agrees.composed.attempt, fun state inside => ?_⟩
  simp only [Parser.attempt, agrees.same inside]

theorem bind
    {following otherFollowing : α → Parser σ υ β}
    (agrees : Agrees tokens parser other)
    (followings : ∀ value, Agrees tokens (following value) (otherFollowing value)) :
    Agrees tokens (parser.bind following) (other.bind otherFollowing) where
  composed := .bind agrees.composed fun value => (followings value).composed
  same _ inside := run_bind_congr (agrees.same inside) fun _ value _ _ ran =>
    (followings value).same (agrees.isSuffix ran inside)

theorem map (agrees : Agrees tokens parser other) (f : α → β) :
    Agrees tokens (parser.map f) (other.map f) := by
  refine ⟨agrees.composed.map f, fun state inside => ?_⟩
  rw [run_map, run_map, agrees.same inside]

theorem manyFoldFrom_same
    {combine : β → α → β}
    {rounds : Nat}
    {consumed : Bool}
    {total : β}
    {state : State σ υ}
    (agrees : Agrees tokens parser other)
    (inside : TokenStream.toList state.input <:+ tokens) :
    manyFoldFrom parser combine rounds consumed total state =
      manyFoldFrom other combine rounds consumed total state := by
  induction rounds generalizing consumed total state with
  | zero => rfl
  | succ rounds ih =>
      unfold manyFoldFrom
      rw [← agrees.same inside]
      rcases ran : parser.run state with defect | ⟨_ | _, ⟨value, next, error⟩ | error⟩
      case succ.ok.true.ok => exact ih (agrees.isSuffix ran inside)
      all_goals rfl

theorem congruence :
    Congruence (Agrees (σ := σ) (υ := υ) tokens) where
  pure value := ⟨.pure value, fun _ _ => rfl⟩
  empty := ⟨.empty, fun _ _ => rfl⟩
  failWith kind text := ⟨.failWith kind text, fun _ _ => rfl⟩
  map f agrees := agrees.map f
  bind agrees followings := agrees.bind followings
  zipWith f firsts seconds := by
    rw [zipWith_eq_bind, zipWith_eq_bind]
    exact firsts.bind fun value => seconds.map (f value)
  orElse firsts seconds := by
    refine ⟨firsts.composed.orElse seconds.composed, fun state inside => ?_⟩
    simp only [Parser.orElse, firsts.same inside, seconds.same inside]
  labels names agrees := by
    refine ⟨agrees.composed.labels names, fun state inside => ?_⟩
    simp only [Parser.labels, agrees.same inside]
  manyFold first combine agrees :=
    ⟨agrees.composed.manyFold first combine, fun _ inside => agrees.manyFoldFrom_same inside⟩

end Agrees
end

/-! ## Runs of a handle -/

section
variable {σ υ α β : Type} [DecidableEq (State σ υ)]

/-- From the state `outer`, a parser made of a handle runs this handle in the state `inner`. Were
the handle dropped there, the parser would have the defect of it, for the combinators hand it on. -/
structure RunsAt
    (made : Parser σ υ α → Parser σ υ β)
    (handle : Parser σ υ α)
    (outer inner : State σ υ) : Prop where
  drops : (made (handle.exchanged (· = inner) droppedHandle)).run outer = .error .droppedRecursion

/-- A handle runs in states of a kind only, if no handle that is the same in these states changes
anything. -/
theorem RunsAt.kind
    {made : Parser σ υ α → Parser σ υ β}
    {handle : Parser σ υ α}
    {outer inner : State σ υ}
    (runs : RunsAt made handle outer inner)
    (returns : ∃ outcome, (made handle).run outer = .ok outcome)
    (kind : State σ υ → Prop)
    (confined : ∀ other : Parser σ υ α,
      (∀ ⦃state⦄, kind state → handle.run state = other.run state) →
        (made handle).run outer = (made other).run outer) :
    kind inner := by
  by_contra outside
  have undropped := confined (handle.exchanged (· = inner) droppedHandle) fun state inside => by
    have different : state ≠ inner := fun same => outside (same ▸ inside)
    exact (run_exchanged_of_not handle droppedHandle (· = inner) different).symm
  obtain ⟨outcome, ran⟩ := returns
  rw [undropped, runs.drops] at ran
  contradiction

end

section
variable {σ υ α : Type} {parser other : Parser σ υ α}

theorem parse_congr
    {user : υ}
    {name : String}
    {input : σ}
    (same : parser.run ⟨input, .start name, user⟩ = other.run ⟨input, .start name, user⟩) :
    parser.parse user name input = other.parse user name input := by
  simp only [Parser.parse, runState, same]

theorem Returns.parse (returns : parser.Returns) (user : υ) (name : String) (input : σ) :
    ∃ outcome, parser.parse user name input = .ok outcome := by
  obtain ⟨⟨consumed, reply⟩, ran⟩ := returns ⟨input, .start name, user⟩
  cases reply with
  | ok value next error => exact ⟨.ok value, by simp only [Parser.parse, runState, ran]⟩
  | failed error => exact ⟨.error error, by simp only [Parser.parse, runState, ran]⟩

end

end Parser

/-! ## Expressions -/

namespace Expr

open Predictive.Parser (Agrees Composed Primitive RunsAt primitive_lexical)

/-- An expression, by the parser of the expressions in its parentheses. -/
def definition (range : IntegerRange) (expr : Parser Text Unit Expr) : Parser Text Unit Expr :=
  operators.expression (term range expr)

/-- A whole text that is an expression, by the parser of expressions. -/
def around (expr : Parser Text Unit Expr) : Parser Text Unit Expr :=
  (language.whiteSpace.keepRight expr).keepLeft Parser.endOfInput

theorem expression_eq (range : IntegerRange) :
    expression range = Parser.recursive (definition range) := rfl

theorem whole_eq (range : IntegerRange) : whole range = around (expression range) := rfl

/-- The state is behind some of the characters, an opening parenthesis among them. -/
def Opened (chars : List Char) (state : State Text Unit) : Prop :=
  ∃ taken, '(' ∈ taken ∧ chars = taken ++ TokenStream.toList state.input

theorem Opened.length_lt
    {chars : List Char}
    {state : State Text Unit}
    (opened : Opened chars state) :
    (TokenStream.toList state.input).length < chars.length := by
  obtain ⟨taken, present, rfl⟩ := opened
  have := List.length_pos_of_mem present
  rw [List.length_append]
  omega

section
variable {chars : List Char} {range : IntegerRange} {expr other : Parser Text Unit Expr}

theorem symbol_opened
    {state next : State Text Unit}
    {consumed : Bool}
    {text : String}
    {error : ParseError}
    (ran : (language.symbol "(").Yields state consumed text next error)
    (inside : TokenStream.toList state.input <:+ chars) :
    Opened chars next := by
  obtain ⟨_, _, middle, _, _, _, _, textRan, spaceRan, -⟩ := Parser.zipWith_yields_iff.mp ran
  obtain ⟨found, tokensRan, -⟩ := Parser.map_yields_iff.mp textRan
  obtain ⟨rest, dropped, -, -, rfl, -⟩ := Parser.tokens_yields_iff.mp tokensRan
  have bracket : TokenStream.toList state.input = '(' :: TokenStream.toList rest :=
    Parser.toList_of_dropTokens dropped
  obtain ⟨space, split⟩ := (Parser.tagsSoundly_of_composed
    (primitive_lexical.whiteSpace language_related) spaceRan).isSuffix
  obtain ⟨front, rfl⟩ := inside
  refine ⟨front ++ '(' :: space, by simp, ?_⟩
  rw [bracket, ← split]
  simp

/-- In parentheses, a parser matters only behind the opening one. -/
theorem parens_agrees
    (sound : expr.TagsSoundly)
    (same : ∀ ⦃state⦄, Opened chars state → expr.run state = other.run state) :
    Agrees chars (language.parens expr) (language.parens other) := by
  have symbol (text : String) : Agrees chars (language.symbol text) (language.symbol text) :=
    .of_primitive (primitive_lexical.symbol language_related text)
  have opened : Agrees chars ((language.symbol "(").keepRight expr)
      ((language.symbol "(").keepRight other) := by
    refine ⟨(symbol "(").composed.keepRight (.atom sound), fun state inside => ?_⟩
    rw [Parser.keepRight, Parser.keepRight, Parser.zipWith_eq_bind, Parser.zipWith_eq_bind]
    refine Parser.run_bind_congr rfl fun consumed value next error ran => ?_
    rw [Parser.run_map, Parser.run_map, same (symbol_opened ran inside)]
  exact Agrees.congruence.keepLeft opened (symbol ")")

theorem operators_agree :
    List.Forall₂ (Operator.LevelRelated (Agrees chars)) operators operators := by
  refine List.forall₂_same.mpr fun row listed => ?_
  have related : List.Forall₂ (Operator.Related (Agrees chars)) row row := by
    refine List.forall₂_same.mpr fun operator present => ?_
    have composed := operators_composed row listed operator present
    cases operator with
    | between assoc symbol => exact .between assoc (.of_primitive composed)
    | before symbol => exact .before (.of_primitive composed)
    | behind symbol => exact .behind (.of_primitive composed)
  exact ⟨related, fun assoc _ _ => (Agrees.congruence.keepRight
    (Agrees.congruence.infixesOfOperators related assoc)
    (Agrees.congruence.failWith .generic _)).attempt⟩

theorem term_agrees
    (sound : expr.TagsSoundly)
    (same : ∀ ⦃state⦄, Opened chars state → expr.run state = other.run state) :
    Agrees chars (term range expr) (term range other) := by
  have congruence : Parser.Congruence (Agrees (σ := Text) (υ := Unit) chars) := Agrees.congruence
  have number : Agrees chars (language.naturalIn range) (language.naturalIn range) :=
    .of_primitive (primitive_lexical.naturalIn language_related range)
  have name : Agrees chars language.identifier language.identifier :=
    .of_primitive (primitive_lexical.identifier language_related)
  exact congruence.label _ (congruence.orElse
    (congruence.orElse (parens_agrees sound same) (number.map int)) (name.map var))

/-- The definition of expressions runs its handle behind an opening parenthesis only. -/
theorem definition_agrees
    (sound : expr.TagsSoundly)
    (same : ∀ ⦃state⦄, Opened chars state → expr.run state = other.run state) :
    Agrees chars (definition range expr) (definition range other) :=
  Agrees.congruence.expression operators_agree (term_agrees sound same)

end

/-! ## Outcomes -/

theorem language_total : language.Total :=
  Language.total_of_takesChar identStart_takesChar identLetter_takesChar
    (Parser.satisfy_takesChar _) (Parser.satisfy_takesChar _) rfl

theorem operators_return : ∀ row ∈ operators, ∀ operator ∈ row, operator.Returns := by
  have symbol {text : String} (some : text ≠ "") {β : Type} (value : β) :
      ((language.symbol text).map fun _ => value).Returns ∧
        ((language.symbol text).map fun _ => value).TagsSoundly ∧
        ((language.symbol text).map fun _ => value).AlwaysConsumes :=
    ⟨(language.symbol_returns text).map _, Parser.tagsSoundly_of_composed
      ((primitive_lexical.symbol language_related text).map _),
      (language.symbol_alwaysConsumes some).map _⟩
  have infixReturns (operator : BinaryOperator) (assoc : Assoc) :
      (infixOperator operator assoc).Returns := symbol (by cases operator <;> decide) _
  have minusReturns : (Operator.unaryBefore (language.symbol "-") neg).Returns := by
    obtain ⟨returns, sound, -⟩ := symbol (by decide : "-" ≠ "") neg
    exact ⟨returns, sound⟩
  simp only [operators, List.forall_mem_cons, List.not_mem_nil, false_implies, implies_true,
    and_true]
  exact ⟨infixReturns .pow .right, minusReturns,
    ⟨infixReturns .mul .left, infixReturns .div .left, infixReturns .rem .left⟩,
    infixReturns .add .left, infixReturns .sub .left⟩

theorem definition_returns
    {range : IntegerRange}
    {expr : Parser Text Unit Expr}
    (returns : expr.Returns)
    (sound : expr.TagsSoundly) :
    (definition range expr).Returns := by
  have lexer {β : Type} {parser : Parser Text Unit β}
      (handed : language.HandsOut (fun _ single => single.Returns)
        (fun _ letter => letter.Relates State.Shortens) (fun _ _ => False) parser) :
      parser.Returns :=
    Parser.returns_iff.mpr (handed.returnsUnless language_total (fun _ _ single => single)
      (fun _ _ _ letter => letter) fun _ _ repeated => repeated.elim)
  have letters : language.identLetter.Repeatable False := identLetter_takesChar.repeatable
  have nameReturns : language.identifier.Returns := lexer (.identifier (letters.shortens id))
  have termReturns : (term range expr).Returns :=
    (((lexer (.parens returns)).orElse ((lexer (.naturalIn range)).map int)).orElse
      (nameReturns.map var)).labels _
  have termAgrees : Agrees [] (term range expr) (term range expr) :=
    term_agrees sound fun _ _ => rfl
  exact OperatorTable.expression_returns operators_return termReturns termAgrees.sound

section
variable (range : IntegerRange)

theorem unrolled_sound (depth : Nat) : (Parser.unrolled (definition range) depth).TagsSoundly := by
  induction depth with
  | zero =>
      intro state consumed value next error ran
      contradiction
  | succ depth ih =>
      have agrees : Agrees [] (definition range _) (definition range _) :=
        definition_agrees ih fun _ _ => rfl
      exact agrees.sound

variable {range}

/-- A definition that is unrolled more often than there are characters to come is not run to its
end. -/
theorem unrolled_returns
    {depth : Nat}
    {state : State Text Unit}
    (deep : (TokenStream.toList state.input).length < depth) :
    ∃ outcome, (Parser.unrolled (definition range) depth).run state = .ok outcome := by
  induction depth generalizing state with
  | zero => contradiction
  | succ depth ih =>
      -- Where the handle is not run, it may as well fail, and then it returns everywhere.
      have agrees : Agrees (TokenStream.toList state.input)
          (definition range ((Parser.unrolled (definition range) depth).cutOff depth))
          (definition range (Parser.unrolled (definition range) depth)) := by
        refine definition_agrees (Parser.cutOff_sound (unrolled_sound range depth))
          fun next opened => Parser.run_cutOff ?_
        have fewer := opened.length_lt
        omega
      obtain ⟨outcome, ran⟩ := definition_returns (Parser.cutOff_returns fun _ few => ih few)
        (Parser.cutOff_sound (unrolled_sound range depth)) state
      exact ⟨outcome, (agrees.same List.suffix_rfl).symm.trans ran⟩

/-- It does not matter how often a definition is unrolled, beyond the number of characters to
come. -/
theorem unrolled_same
    {depth other : Nat}
    {state : State Text Unit}
    (deep : (TokenStream.toList state.input).length < depth)
    (otherDeep : (TokenStream.toList state.input).length < other) :
    (Parser.unrolled (definition range) depth).run state =
      (Parser.unrolled (definition range) other).run state := by
  induction depth generalizing other state with
  | zero => contradiction
  | succ depth ih =>
      obtain ⟨other, rfl⟩ := Nat.exists_eq_add_one_of_ne_zero (Nat.ne_zero_of_lt otherDeep)
      have agrees : Agrees (TokenStream.toList state.input)
          (definition range (Parser.unrolled (definition range) depth))
          (definition range (Parser.unrolled (definition range) other)) :=
        definition_agrees (unrolled_sound range depth) fun next opened => by
          have fewer := opened.length_lt
          exact ih (by omega) (by omega)
      exact agrees.same List.suffix_rfl

/-- No more runs are nested than there are characters to come and one more. -/
theorem run_expression_eq_unrolled
    {depth : Nat}
    {state : State Text Unit}
    (deep : (TokenStream.toList state.input).length < depth) :
    (expression range).run state = (Parser.unrolled (definition range) depth).run state := by
  rw [expression_eq, Parser.run_recursive]
  exact unrolled_same Parser.length_lt_patience deep

theorem expression_returns : (expression range).Returns := by
  intro state
  rw [run_expression_eq_unrolled (Nat.lt_succ_self _)]
  exact unrolled_returns (Nat.lt_succ_self _)

theorem expression_sound : (expression range).TagsSoundly :=
  Parser.tagsSoundly_of_composed (expression_composed range)

/-- The parser of expressions is its own handle, although it unrolls its definition. -/
theorem run_expression (state : State Text Unit) :
    (expression range).run state = (definition range (expression range)).run state := by
  rw [run_expression_eq_unrolled (Nat.lt_succ_self _), Parser.unrolled_succ]
  refine (definition_agrees (unrolled_sound range _) fun next opened => ?_).same List.suffix_rfl
  exact (run_expression_eq_unrolled opened.length_lt).symm

theorem whole_returns : (whole range).Returns :=
  (language.whiteSpace_returns.zipWith expression_returns _).zipWith Parser.endOfInput_returns _

end

/-! ## Nested runs -/

section
variable {range : IntegerRange}

/-- A nested run starts behind an opening parenthesis. -/
theorem opened_of_runsAt
    {outer inner : State Text Unit}
    (runs : RunsAt (definition range) (expression range) outer inner) :
    Opened (TokenStream.toList outer.input) inner := by
  refine runs.kind ?_ (Opened (TokenStream.toList outer.input)) fun other same =>
    (definition_agrees expression_sound same).same List.suffix_rfl
  rw [← run_expression]
  exact expression_returns outer

theorem around_agrees
    {chars : List Char}
    {expr other : Parser Text Unit Expr}
    (agrees : Agrees chars expr other) :
    Agrees chars (around expr) (around other) := by
  have space : Agrees chars language.whiteSpace language.whiteSpace :=
    .of_primitive (primitive_lexical.whiteSpace language_related)
  have ends : Agrees chars (Parser.endOfInput : Parser Text Unit Unit) Parser.endOfInput :=
    .of_primitive .endOfInput
  exact Agrees.congruence.keepLeft (Agrees.congruence.keepRight space agrees) ends

theorem isSuffix_of_runsAt
    {start state : State Text Unit}
    (runs : RunsAt around (expression range) start state) :
    TokenStream.toList state.input <:+ TokenStream.toList start.input := by
  have returns : ∃ outcome, (around (expression range)).run start = .ok outcome := by
    rw [← whole_eq]
    exact whole_returns start
  let inside (next : State Text Unit) := TokenStream.toList next.input <:+
    TokenStream.toList start.input
  exact runs.kind returns inside fun other same =>
    (around_agrees (.of_sound expression_sound same)).same List.suffix_rfl

end

/-- Runs of the parser of expressions that are going on at one time while a whole text is read, each
of them within the next one in the list. They are given by the states in which they start. -/
inductive NestedRuns (range : IntegerRange) (start : State Text Unit) :
    List (State Text Unit) → Prop
  | outermost {state : State Text Unit} :
      RunsAt around (expression range) start state → NestedRuns range start [state]
  | within {inner outer : State Text Unit} {others : List (State Text Unit)} :
      RunsAt (definition range) (expression range) outer inner →
        NestedRuns range start (outer :: others) → NestedRuns range start (inner :: outer :: others)

namespace NestedRuns

variable {range : IntegerRange} {start : State Text Unit}

/-- Every run around another one has taken a character. -/
theorem length_le
    {state : State Text Unit}
    {others : List (State Text Unit)}
    (nested : NestedRuns range start (state :: others)) :
    (TokenStream.toList state.input).length + others.length ≤
      (TokenStream.toList start.input).length := by
  induction others generalizing state with
  | nil =>
      cases nested with
      | outermost runs =>
          rw [List.length_nil, Nat.add_zero]
          exact (isSuffix_of_runsAt runs).length_le
  | cons outer others ih =>
      cases nested with
      | within runs nested =>
          have fewer := (opened_of_runsAt runs).length_lt
          have within := ih nested
          rw [List.length_cons]
          omega

theorem isChain {runs : List (State Text Unit)} (nested : NestedRuns range start runs) :
    runs.IsChain fun inner outer => Opened (TokenStream.toList outer.input) inner := by
  induction nested with
  | outermost _ => exact .singleton _
  | within runs _ ih => exact List.isChain_cons_cons.mpr ⟨opened_of_runsAt runs, ih⟩

end NestedRuns

/-- The recursion of expressions is guarded. A run of the parser that is nested in another one
starts behind an opening parenthesis, with fewer characters to come, so that no more runs are nested
than the source has characters and one more. Every source has an outcome, and it has the same one
where a parser that is nested more deeply would be given up. -/
theorem parse_guarded (range : IntegerRange) (name source : String) :
    (∀ runs, NestedRuns range ⟨Text.ofString source, .start name, ()⟩ runs →
      runs.length ≤ source.length + 1 ∧
        runs.IsChain fun inner outer =>
          (TokenStream.toList inner.input).length < (TokenStream.toList outer.input).length ∧
          ∃ taken, '(' ∈ taken ∧
            TokenStream.toList outer.input = taken ++ TokenStream.toList inner.input) ∧
      ∃ outcome, parse range name source = .ok outcome ∧
        (around (Parser.unrolled (definition range) (source.length + 1))).parse () name
          (Text.ofString source) = .ok outcome := by
  have chars : (TokenStream.toList (Text.ofString source)).length = source.length :=
    (congrArg List.length (Text.toList_ofString source)).trans String.length_toList
  constructor
  · intro runs nested
    cases runs with
    | nil => cases nested
    | cons state others =>
        have bounded := nested.length_le
        rw [chars] at bounded
        refine ⟨?_, nested.isChain.imp fun _ inner (opened : Opened _ _) =>
          ⟨opened.length_lt, opened⟩⟩
        rw [List.length_cons]
        omega
  · obtain ⟨outcome, parsed⟩ := whole_returns.parse () name (Text.ofString source)
    refine ⟨outcome, parsed, ?_⟩
    have agrees : Agrees (TokenStream.toList (Text.ofString source)) (expression range)
        (Parser.unrolled (definition range) (source.length + 1)) := by
      refine .of_sound expression_sound fun state inside => run_expression_eq_unrolled ?_
      have few := inside.length_le
      rw [chars] at few
      omega
    exact (Parser.parse_congr ((around_agrees agrees).same List.suffix_rfl)).symm.trans parsed

/-- A number in two pairs of parentheses, which is read by three runs within each other. -/
theorem parse_guarded_parentheses :
    ∃ runs, NestedRuns .unbounded ⟨Text.ofString "((1))", .start "", ()⟩ runs ∧ runs.length = 3 ∧
      runs.IsChain fun inner outer =>
        (TokenStream.toList inner.input).length < (TokenStream.toList outer.input).length ∧
        ∃ taken, '(' ∈ taken ∧
          TokenStream.toList outer.input = taken ++ TokenStream.toList inner.input := by
  let source := "((1))"
  let state (cursor : source.Pos) (before : String) : State Text Unit :=
    ⟨⟨source, cursor⟩, (Position.start "").afterString before, ()⟩
  let second := source.startPos.next (by decide)
  let third := second.next (by decide)
  have nested : NestedRuns .unbounded ⟨Text.ofString source, .start "", ()⟩
      [state third "((", state second "(", state source.startPos ""] :=
    .within ⟨by decide⟩ (.within ⟨by decide⟩ (.outermost ⟨by decide⟩))
  exact ⟨_, nested, rfl, ((parse_guarded .unbounded "" source).1 _ nested).2⟩

end Expr
end Predictive
