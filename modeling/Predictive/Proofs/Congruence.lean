import Mathlib.Data.List.Forall2
import Predictive.Expression.Level
import Predictive.Lexer.Blank
import Predictive.Parser.Inspect
import Predictive.Parser.Permutation
import Predictive.Parser.Separate

/-!
# Relations that the combinators respect

Two parsers, perhaps over different streams, that are put together in the same way are related by
every relation that holds between their parts and that the combinators respect. What it takes to
be respected is one condition for each combinator that runs other parsers by itself. All other
combinators are made of these and respect the relation as well: lists, chains, tables of
operators and permutations.
-/

namespace Predictive
namespace Parser

variable {σ ς τ τ' υ α β γ : Type} [TokenStream σ τ] [TokenStream ς τ']

/-- The relation is respected by values, failures, sequences, choices, labels and repetition. -/
structure Congruence (Rel : ∀ ⦃α : Type⦄, Parser σ υ α → Parser ς υ α → Prop) : Prop where
  pure {α : Type} (value : α) : Rel (Parser.pure value) (Parser.pure value)
  empty {α : Type} : @Rel α Parser.empty Parser.empty
  failWith {α : Type} (kind : MessageKind) (text : String) :
    @Rel α (Parser.failWith kind text) (Parser.failWith kind text)
  map {α β : Type} {parser : Parser σ υ α} {other : Parser ς υ α} (f : α → β) :
    Rel parser other → Rel (parser.map f) (other.map f)
  bind {α β : Type} {parser : Parser σ υ α} {other : Parser ς υ α}
      {following : α → Parser σ υ β} {otherFollowing : α → Parser ς υ β} :
    Rel parser other → (∀ value, Rel (following value) (otherFollowing value)) →
      Rel (parser.bind following) (other.bind otherFollowing)
  zipWith {α β γ : Type} {first : Parser σ υ α} {otherFirst : Parser ς υ α}
      {second : Parser σ υ β} {otherSecond : Parser ς υ β} (f : α → β → γ) :
    Rel first otherFirst → Rel second otherSecond →
      Rel (first.zipWith second f) (otherFirst.zipWith otherSecond f)
  orElse {α : Type} {first second : Parser σ υ α} {otherFirst otherSecond : Parser ς υ α} :
    Rel first otherFirst → Rel second otherSecond →
      Rel (first.orElse second) (otherFirst.orElse otherSecond)
  labels {α : Type} {parser : Parser σ υ α} {other : Parser ς υ α} (names : List String) :
    Rel parser other → Rel (parser.labels names) (other.labels names)
  manyFold {α β : Type} {parser : Parser σ υ α} {other : Parser ς υ α}
      (first : β) (combine : β → α → β) :
    Rel parser other → Rel (parser.manyFold first combine) (other.manyFold first combine)

/-- The relation is respected by backtracking, too, and by the loops that run two parsers. -/
structure FullCongruence (Rel : ∀ ⦃α : Type⦄, Parser σ υ α → Parser ς υ α → Prop) : Prop
    extends Congruence Rel where
  attempt {α : Type} {parser : Parser σ υ α} {other : Parser ς υ α} :
    Rel parser other → Rel parser.attempt other.attempt
  lookAhead {α : Type} {parser : Parser σ υ α} {other : Parser ς υ α} :
    Rel parser other → Rel parser.lookAhead other.lookAhead
  notFollowedBy {α : Type} [Describe α] {parser : Parser σ υ α} {other : Parser ς υ α} :
    Rel parser other → Rel parser.notFollowedBy other.notFollowedBy
  manyTill {α β : Type} {parser : Parser σ υ α} {other : Parser ς υ α}
      {stop : Parser σ υ β} {otherStop : Parser ς υ β} :
    Rel parser other → Rel stop otherStop →
      Rel (parser.manyTill stop) (other.manyTill otherStop)
  sepEndBy1 {α β : Type} {parser : Parser σ υ α} {other : Parser ς υ α}
      {separator : Parser σ υ β} {otherSeparator : Parser ς υ β} :
    Rel parser other → Rel separator otherSeparator →
      Rel (parser.sepEndBy1 separator) (other.sepEndBy1 otherSeparator)

namespace Congruence

variable {Rel : ∀ ⦃α : Type⦄, Parser σ υ α → Parser ς υ α → Prop} (congruence : Congruence Rel)
include congruence

/-! ## Sequences and choices -/

section
variable
  {first : Parser σ υ α}
  {otherFirst : Parser ς υ α}
  {second : Parser σ υ β}
  {otherSecond : Parser ς υ β}

theorem pair (firsts : Rel first otherFirst) (seconds : Rel second otherSecond) :
    Rel (first.pair second) (otherFirst.pair otherSecond) :=
  congruence.zipWith _ firsts seconds

theorem keepLeft (firsts : Rel first otherFirst) (seconds : Rel second otherSecond) :
    Rel (first.keepLeft second) (otherFirst.keepLeft otherSecond) :=
  congruence.zipWith _ firsts seconds

theorem keepRight (firsts : Rel first otherFirst) (seconds : Rel second otherSecond) :
    Rel (first.keepRight second) (otherFirst.keepRight otherSecond) :=
  congruence.zipWith _ firsts seconds

end

section
variable
  {parser : Parser σ υ α}
  {other : Parser ς υ α}
  {separator : Parser σ υ β}
  {otherSeparator : Parser ς υ β}

theorem between
    {right : Parser σ υ γ}
    {otherRight : Parser ς υ γ}
    (lefts : Rel separator otherSeparator)
    (rights : Rel right otherRight)
    (related : Rel parser other) :
    Rel (Parser.between separator right parser)
      (Parser.between otherSeparator otherRight other) :=
  congruence.keepLeft (congruence.keepRight lefts related) rights

theorem label (name : String) (related : Rel parser other) :
    Rel (parser.label name) (other.label name) :=
  congruence.labels [name] related

theorem choice
    {parsers : List (Parser σ υ α)}
    {others : List (Parser ς υ α)}
    (related : List.Forall₂ (@Rel α) parsers others) :
    Rel (Parser.choice parsers) (Parser.choice others) := by
  cases related with
  | nil => exact congruence.empty
  | cons firsts rest =>
      exact List.rel_foldl (P := @Rel α) (R := @Rel α)
        (fun _ _ firsts _ _ seconds => congruence.orElse firsts seconds) firsts rest

theorem withDefault (value : α) (related : Rel parser other) :
    Rel (parser.withDefault value) (other.withDefault value) :=
  congruence.orElse related (congruence.pure value)

theorem maybe (related : Rel parser other) : Rel parser.maybe other.maybe :=
  congruence.orElse (congruence.map some related) (congruence.pure none)

theorem skipMaybe (related : Rel parser other) : Rel parser.skipMaybe other.skipMaybe :=
  congruence.orElse (congruence.map _ related) (congruence.pure ())

/-! ## Lists -/

theorem many (related : Rel parser other) : Rel parser.many other.many :=
  congruence.map _ (congruence.manyFold _ _ related)

theorem many1 (related : Rel parser other) : Rel parser.many1 other.many1 :=
  congruence.zipWith _ related (congruence.many related)

theorem skipMany (related : Rel parser other) : Rel parser.skipMany other.skipMany :=
  congruence.manyFold _ _ related

theorem skipMany1 (related : Rel parser other) : Rel parser.skipMany1 other.skipMany1 :=
  congruence.keepRight related (congruence.skipMany related)

theorem count (related : Rel parser other) (times : Nat) :
    Rel (parser.count times) (other.count times) := by
  induction times with
  | zero => exact congruence.pure []
  | succ times ih => exact congruence.zipWith _ ih related

theorem sepBy1 (related : Rel parser other) (separators : Rel separator otherSeparator) :
    Rel (parser.sepBy1 separator) (other.sepBy1 otherSeparator) :=
  congruence.zipWith _ related (congruence.many (congruence.keepRight separators related))

theorem sepBy (related : Rel parser other) (separators : Rel separator otherSeparator) :
    Rel (parser.sepBy separator) (other.sepBy otherSeparator) :=
  congruence.orElse (congruence.sepBy1 related separators) (congruence.pure [])

theorem endBy (related : Rel parser other) (separators : Rel separator otherSeparator) :
    Rel (parser.endBy separator) (other.endBy otherSeparator) :=
  congruence.many (congruence.keepLeft related separators)

theorem endBy1 (related : Rel parser other) (separators : Rel separator otherSeparator) :
    Rel (parser.endBy1 separator) (other.endBy1 otherSeparator) :=
  congruence.many1 (congruence.keepLeft related separators)

/-! ## Chains and tables of operators -/

section
variable
  {operator : Parser σ υ (α → α → α)}
  {otherOperator : Parser ς υ (α → α → α)}

theorem chainLeft1 (related : Rel parser other) (operators : Rel operator otherOperator) :
    Rel (parser.chainLeft1 operator) (other.chainLeft1 otherOperator) :=
  congruence.zipWith _ related (congruence.many (congruence.pair operators related))

theorem chainRight1 (related : Rel parser other) (operators : Rel operator otherOperator) :
    Rel (parser.chainRight1 operator) (other.chainRight1 otherOperator) :=
  congruence.zipWith _ related (congruence.many (congruence.pair operators related))

theorem chainLeft
    (related : Rel parser other)
    (operators : Rel operator otherOperator)
    (value : α) :
    Rel (parser.chainLeft operator value) (other.chainLeft otherOperator value) :=
  congruence.orElse (congruence.chainLeft1 related operators) (congruence.pure value)

theorem chainRight
    (related : Rel parser other)
    (operators : Rel operator otherOperator)
    (value : α) :
    Rel (parser.chainRight operator value) (other.chainRight otherOperator value) :=
  congruence.orElse (congruence.chainRight1 related operators) (congruence.pure value)

end

end

end Congruence
end Parser

/-! ## Levels -/

section
variable {σ ς υ α : Type}

/-- Operators of the same kind with related parsers for their symbols. -/
inductive Operator.Related (Rel : ∀ ⦃α : Type⦄, Parser σ υ α → Parser ς υ α → Prop) :
    Operator σ υ α → Operator ς υ α → Prop
  | between (assoc : Assoc) {symbol : Parser σ υ (α → α → α)} {other : Parser ς υ (α → α → α)} :
      Rel symbol other → Related Rel (.between assoc symbol) (.between assoc other)
  | before {symbol : Parser σ υ (α → α)} {other : Parser ς υ (α → α)} :
      Rel symbol other → Related Rel (.before symbol) (.before other)
  | behind {symbol : Parser σ υ (α → α)} {other : Parser ς υ (α → α)} :
      Rel symbol other → Related Rel (.behind symbol) (.behind other)

/-- Levels with related operands, infix operators and tests for ambiguous uses. -/
structure Level.Related (Rel : ∀ ⦃α : Type⦄, Parser σ υ α → Parser ς υ α → Prop)
    (level : Level σ υ α) (other : Level ς υ α) : Prop where
  operand : Rel level.operand other.operand
  infixes : ∀ assoc, Rel (level.infixes assoc) (other.infixes assoc)
  ambiguous : ∀ assoc, Rel (level.ambiguous assoc) (other.ambiguous assoc)

/-- Levels of a table with related operators, whose ambiguous uses are tested for by related
parsers. -/
structure Operator.LevelRelated (Rel : ∀ ⦃α : Type⦄, Parser σ υ α → Parser ς υ α → Prop)
    (operators : List (Operator σ υ α)) (others : List (Operator ς υ α)) : Prop where
  symbols : List.Forall₂ (Operator.Related Rel) operators others
  ambiguous : ∀ assoc term otherTerm,
    Rel ((Level.ofOperators term operators).ambiguous assoc)
      ((Level.ofOperators otherTerm others).ambiguous assoc)

/-- Members with the same default and related parsers. -/
structure Member.Related (Rel : ∀ ⦃α : Type⦄, Parser σ υ α → Parser ς υ α → Prop)
    (member : Member σ υ α) (other : Member ς υ α) : Prop where
  parser : Rel member.parser other.parser
  default? : member.default? = other.default?

end

namespace Operator

variable {σ ς υ α : Type}
variable {Rel : ∀ ⦃α : Type⦄, Parser σ υ α → Parser ς υ α → Prop}
variable {Same : ∀ ⦃α : Type⦄, Parser σ υ α → Parser σ υ α → Prop}
variable {operator : Operator σ υ α} {other : Operator ς υ α}

theorem Related.betweenSymbol?
    (related : operator.Related Rel other)
    (assoc : Assoc) :
    Option.Rel (@Rel (α → α → α)) (operator.betweenSymbol? assoc)
      (other.betweenSymbol? assoc) := by
  cases related with
  | between found symbols =>
      by_cases same : found = assoc
      · simpa only [Operator.betweenSymbol?, if_pos same] using Option.Rel.some symbols
      · simpa only [Operator.betweenSymbol?, if_neg same] using Option.Rel.none
  | before => exact .none
  | behind => exact .none

theorem Related.beforeSymbol? (related : operator.Related Rel other) :
    Option.Rel (@Rel (α → α)) operator.beforeSymbol? other.beforeSymbol? := by
  cases related with
  | before symbols => exact .some symbols
  | between => exact .none
  | behind => exact .none

theorem Related.behindSymbol? (related : operator.Related Rel other) :
    Option.Rel (@Rel (α → α)) operator.behindSymbol? other.behindSymbol? := by
  cases related with
  | behind symbols => exact .some symbols
  | between => exact .none
  | before => exact .none

theorem Related.refl
    (reflexive : ∀ ⦃β : Type⦄ (parser : Parser σ υ β), Same parser parser)
    (operator : Operator σ υ α) :
    operator.Related Same operator := by
  cases operator with
  | between assoc symbol => exact .between assoc (reflexive symbol)
  | before symbol => exact .before (reflexive symbol)
  | behind symbol => exact .behind (reflexive symbol)

/-- The operands of a level do not matter for its infix operators. -/
theorem LevelRelated.refl
    (reflexive : ∀ ⦃β : Type⦄ (parser : Parser σ υ β), Same parser parser)
    (operators : List (Operator σ υ α)) :
    LevelRelated Same operators operators where
  symbols := List.forall₂_same.mpr fun operator _ => .refl reflexive operator
  ambiguous _ _ _ := reflexive _

end Operator

namespace Permutation

variable {σ ς υ α : Type}
variable {Rel : ∀ ⦃α : Type⦄, Parser σ υ α → Parser ς υ α → Prop}
variable {members : Permutation σ υ α} {others : Permutation ς υ α}

theorem defaults?_of_related (related : List.Forall₂ (Member.Related Rel) members others) :
    members.defaults? = others.defaults? := by
  unfold defaults?
  induction related with
  | nil => rfl
  | cons first _ ih => rw [List.mapM_cons, List.mapM_cons, first.default?, ih]

/-- What is picked from related members is related, and so are the members left over. -/
theorem picks_of_related (related : List.Forall₂ (Member.Related Rel) members others) :
    List.Forall₂ (fun pick other => pick.1 = other.1 ∧ pick.2.1.Related Rel other.2.1 ∧
        List.Forall₂ (Member.Related Rel) pick.2.2 other.2.2)
      (picks members) (picks others) := by
  have same := related.length_eq
  refine List.forall₂_iff_get.mpr ⟨by simp [same], fun index inside otherInside => ?_⟩
  rw [length_picks] at inside otherInside
  have left : List.Forall₂ (Member.Related Rel) (members.eraseIdx index)
      (others.eraseIdx index) := by
    rw [List.eraseIdx_eq_take_drop_succ, List.eraseIdx_eq_take_drop_succ]
    exact List.rel_append (List.forall₂_take index related) (List.forall₂_drop _ related)
  simpa [picks] using ⟨related.get inside otherInside, left⟩

end Permutation

namespace Parser
namespace Congruence

variable {σ ς τ τ' υ α : Type} [TokenStream σ τ] [TokenStream ς τ']
variable {Rel : ∀ ⦃α : Type⦄, Parser σ υ α → Parser ς υ α → Prop} (congruence : Congruence Rel)
include congruence

section
variable {level : Level σ υ α} {other : Level ς υ α} (related : level.Related Rel other)
include related

theorem application (assoc : Assoc) :
    Rel (level.application assoc) (other.application assoc) :=
  congruence.pair (related.infixes assoc) related.operand

theorem rightChain (first : α) : Rel (level.rightChain first) (other.rightChain first) := by
  have step := application congruence related .right
  have ended := congruence.bind (congruence.zipWith
    (fun step steps => Application.foldRight first (step :: steps)) step (congruence.many step))
    fun value => congruence.orElse
      (congruence.orElse (related.ambiguous .left) (related.ambiguous .non))
      (congruence.pure value)
  exact congruence.orElse (congruence.orElse ended (related.ambiguous .left))
    (related.ambiguous .non)

theorem leftChain (first : α) : Rel (level.leftChain first) (other.leftChain first) := by
  have step := application congruence related .left
  have ended := congruence.bind (congruence.zipWith
    (fun step steps => Application.foldLeft first (step :: steps)) step (congruence.many step))
    fun value => congruence.orElse
      (congruence.orElse (related.ambiguous .right) (related.ambiguous .non))
      (congruence.pure value)
  exact congruence.orElse (congruence.orElse ended (related.ambiguous .right))
    (related.ambiguous .non)

theorem nonChain (first : α) : Rel (level.nonChain first) (other.nonChain first) :=
  congruence.bind (application congruence related .non) fun (f, second) =>
    congruence.orElse (congruence.orElse
      (congruence.orElse (related.ambiguous .right) (related.ambiguous .left))
      (related.ambiguous .non)) (congruence.pure (f first second))

theorem levelParser : Rel level.parser other.parser :=
  congruence.bind related.operand fun first =>
    congruence.label "operator" <| congruence.orElse (congruence.orElse
      (congruence.orElse (rightChain congruence related first) (leftChain congruence related first))
      (nonChain congruence related first)) (congruence.pure first)

end

/-! ## Tables of operators -/

/-- The infix operators of related operators are related. -/
theorem infixesOfOperators
    {operators : List (Operator σ υ α)}
    {others : List (Operator ς υ α)}
    (related : List.Forall₂ (Operator.Related Rel) operators others)
    (assoc : Assoc) :
    Rel (Parser.choice (operators.filterMap (Operator.betweenSymbol? assoc)))
      (Parser.choice (others.filterMap (Operator.betweenSymbol? assoc))) :=
  congruence.choice (List.rel_filterMap (fun _ _ symbols => symbols.betweenSymbol? assoc) related)

theorem levelOfOperators
    {term : Parser σ υ α}
    {otherTerm : Parser ς υ α}
    {operators : List (Operator σ υ α)}
    {others : List (Operator ς υ α)}
    (terms : Rel term otherTerm)
    (related : Operator.LevelRelated Rel operators others) :
    Rel (Level.ofOperators term operators).parser (Level.ofOperators otherTerm others).parser := by
  have front := congruence.choice
    (List.rel_filterMap (fun _ _ symbols => symbols.beforeSymbol?) related.symbols)
  have back := congruence.choice
    (List.rel_filterMap (fun _ _ symbols => symbols.behindSymbol?) related.symbols)
  refine levelParser congruence ⟨?_, ?_, fun assoc => related.ambiguous assoc term otherTerm⟩
  · exact congruence.map _ (congruence.pair
      (congruence.pair (congruence.orElse (congruence.label "" front) (congruence.pure id)) terms)
      (congruence.orElse (congruence.label "" back) (congruence.pure id)))
  · exact fun assoc => infixesOfOperators congruence related.symbols assoc

/-- The expressions of related tables over related terms are related. -/
theorem expression
    {table : OperatorTable σ υ α}
    {otherTable : OperatorTable ς υ α}
    {term : Parser σ υ α}
    {otherTerm : Parser ς υ α}
    (tables : List.Forall₂ (Operator.LevelRelated Rel) table otherTable)
    (terms : Rel term otherTerm) :
    Rel (table.expression term) (otherTable.expression otherTerm) := by
  induction tables generalizing term otherTerm with
  | nil => exact terms
  | cons levels _ ih => exact ih (congruence.levelOfOperators terms levels)

/-! ## Permutations -/

theorem sizedPermutation
    {separator? : Option (Parser σ υ Unit)}
    {otherSeparator? : Option (Parser ς υ Unit)}
    {members : Permutation σ υ α}
    {others : Permutation ς υ α}
    (separators : Option.Rel (@Rel Unit) separator? otherSeparator?)
    (related : List.Forall₂ (Member.Related Rel) members others)
    (size : Nat)
    (isFirst : Bool) :
    Rel (Permutation.sized separator? size isFirst members)
      (Permutation.sized otherSeparator? size isFirst others) := by
  induction size generalizing isFirst members others with
  | zero => exact congruence.pure []
  | succ size ih =>
      unfold Permutation.sized
      extract_lets branches next otherBranches otherNext
      have branchesRelated : Rel (Parser.choice branches) (Parser.choice otherBranches) := by
        refine congruence.choice (List.rel_map (fun pick other picked => ?_)
          (Permutation.picks_of_related related))
        obtain ⟨index, member, left⟩ := pick
        obtain ⟨otherIndex, otherMember, otherLeft⟩ := other
        obtain ⟨rfl, memberRelated, leftRelated⟩ := picked
        exact congruence.bind memberRelated.parser fun value =>
          congruence.map _ (ih leftRelated false)
      have nextRelated : Rel next otherNext := by
        cases isFirst with
        | true => exact branchesRelated
        | false =>
            cases separators with
            | none => exact branchesRelated
            | some separator => exact congruence.keepRight separator branchesRelated
      rw [← Permutation.defaults?_of_related related]
      cases members.defaults? with
      | some values => exact congruence.orElse nextRelated (congruence.pure values)
      | none => exact nextRelated

theorem permutation
    {members : Permutation σ υ α}
    {others : Permutation ς υ α}
    (related : List.Forall₂ (Member.Related Rel) members others) :
    Rel members.parser others.parser := by
  unfold Permutation.parser
  rw [← related.length_eq]
  exact sizedPermutation congruence .none related members.length true

theorem separatedPermutation
    {members : Permutation σ υ α}
    {others : Permutation ς υ α}
    {separator : Parser σ υ Unit}
    {otherSeparator : Parser ς υ Unit}
    (related : List.Forall₂ (Member.Related Rel) members others)
    (separators : Rel separator otherSeparator) :
    Rel (members.separated separator) (others.separated otherSeparator) := by
  unfold Permutation.separated
  rw [← related.length_eq]
  exact sizedPermutation congruence (.some separators) related members.length true

end Congruence

namespace FullCongruence

variable {σ ς τ τ' υ α : Type} [TokenStream σ τ] [TokenStream ς τ']
variable {Rel : ∀ ⦃α : Type⦄, Parser σ υ α → Parser ς υ α → Prop}

/-- A test for an ambiguous use is made of the infix operators alone. -/
theorem levelRelated
    (congruence : FullCongruence Rel)
    {operators : List (Operator σ υ α)}
    {others : List (Operator ς υ α)}
    (related : List.Forall₂ (Operator.Related Rel) operators others) :
    Operator.LevelRelated Rel operators others where
  symbols := related
  ambiguous assoc _ _ := congruence.attempt <| congruence.keepRight
    (congruence.infixesOfOperators related assoc) (congruence.failWith .generic _)

/-- The expressions of tables of related operators over related terms are related. -/
theorem expressionOfOperators
    (congruence : FullCongruence Rel)
    {table : OperatorTable σ υ α}
    {otherTable : OperatorTable ς υ α}
    {term : Parser σ υ α}
    {otherTerm : Parser ς υ α}
    (tables : List.Forall₂ (List.Forall₂ (Operator.Related Rel)) table otherTable)
    (terms : Rel term otherTerm) :
    Rel (table.expression term) (otherTable.expression otherTerm) :=
  congruence.expression (tables.imp fun _ _ levels => congruence.levelRelated levels) terms

end FullCongruence
end Parser
end Predictive
