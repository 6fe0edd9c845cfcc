import Predictive.Proofs.Congruence

/-!
# Parsers composed by the combinators

A parser is composed from given atoms if the combinators of the library build it out of
them, to any depth. The constructors are the combinators that run other parsers by
themselves. All others are made of these, and each of them has a lemma that its result is
composed if its arguments are: choices, lists, chains, tables of operators, permutations and
the white space of a language.
-/

namespace Predictive
namespace Parser

variable {σ τ υ : Type} [TokenStream σ τ]

/-- The parser has no success without input consumed. -/
def AlwaysConsumes {α : Type} (parser : Parser σ υ α) : Prop :=
  ∀ state value next error, parser.run state ≠ .ok ⟨false, .ok value next error⟩

/-- The parsers that the combinators build out of atoms. A recursive parser is composed if its
definition is, however often it is unrolled. -/
inductive Composed (Atom : ∀ ⦃α : Type⦄, Parser σ υ α → Prop) :
    ∀ ⦃α : Type⦄, Parser σ υ α → Prop
  | atom {α : Type} {parser : Parser σ υ α} :
      Atom parser → Composed Atom parser
  | defective {α : Type} (defect : Defect) :
      Composed Atom (Parser.defective defect : Parser σ υ α)
  | pure {α : Type} (value : α) :
      Composed Atom (Parser.pure value)
  | empty {α : Type} :
      Composed Atom (Parser.empty : Parser σ υ α)
  | failWith {α : Type} (kind : MessageKind) (text : String) :
      Composed Atom (Parser.failWith kind text : Parser σ υ α)
  | map {α β : Type} {parser : Parser σ υ α} (f : α → β) :
      Composed Atom parser → Composed Atom (parser.map f)
  | bind {α β : Type} {parser : Parser σ υ α} {following : α → Parser σ υ β} :
      Composed Atom parser → (∀ value, Composed Atom (following value)) →
        Composed Atom (parser.bind following)
  | zipWith {α β γ : Type} {first : Parser σ υ α} {second : Parser σ υ β} (f : α → β → γ) :
      Composed Atom first → Composed Atom second → Composed Atom (first.zipWith second f)
  | orElse {α : Type} {first second : Parser σ υ α} :
      Composed Atom first → Composed Atom second → Composed Atom (first.orElse second)
  | labels {α : Type} {parser : Parser σ υ α} (names : List String) :
      Composed Atom parser → Composed Atom (parser.labels names)
  | attempt {α : Type} {parser : Parser σ υ α} :
      Composed Atom parser → Composed Atom parser.attempt
  | lookAhead {α : Type} {parser : Parser σ υ α} :
      Composed Atom parser → Composed Atom parser.lookAhead
  | notFollowedBy {α : Type} [Describe α] {parser : Parser σ υ α} :
      Composed Atom parser → Composed Atom parser.notFollowedBy
  | manyFold {α β : Type} {parser : Parser σ υ α} (first : β) (combine : β → α → β) :
      Composed Atom parser → Composed Atom (parser.manyFold first combine)
  | manyTill {α β : Type} {parser : Parser σ υ α} {stop : Parser σ υ β} :
      Composed Atom parser → Composed Atom stop → Composed Atom (parser.manyTill stop)
  | sepEndBy1 {α β : Type} {parser : Parser σ υ α} {separator : Parser σ υ β} :
      Composed Atom parser → Composed Atom separator →
        Composed Atom (parser.sepEndBy1 separator)
  | unrolled {α : Type} {define : Parser σ υ α → Parser σ υ α} :
      (∀ depth, Composed Atom (Parser.unrolled define depth)) →
        Composed Atom (Parser.recursive define)
  | commentAfter {α : Type} {opening : Parser σ υ α} {step : Parser σ υ CommentStep} :
      opening.AlwaysConsumes → Composed Atom opening → Composed Atom step →
        Composed Atom (Language.commentAfter opening step)

namespace Composed

variable {Atom : ∀ ⦃α : Type⦄, Parser σ υ α → Prop} {α β γ : Type}

/-- A recursive parser is composed if its definition is for any composed handle. -/
theorem recursive
    {define : Parser σ υ α → Parser σ υ α}
    (composed : ∀ handle, Composed Atom handle → Composed Atom (define handle)) :
    Composed Atom (Parser.recursive define) := by
  refine .unrolled fun depth => ?_
  induction depth with
  | zero => exact .defective .unbounded
  | succ depth ih => exact composed _ ih

/-- Parsers composed of composed atoms are composed. -/
theorem mono
    {Other : ∀ ⦃α : Type⦄, Parser σ υ α → Prop}
    (atoms : ∀ ⦃α : Type⦄ (parser : Parser σ υ α), Atom parser → Composed Other parser)
    {parser : Parser σ υ α}
    (composed : Composed Atom parser) :
    Composed Other parser := by
  induction composed with
  | atom isAtom => exact atoms _ isAtom
  | defective defect => exact .defective defect
  | pure value => exact .pure value
  | empty => exact .empty
  | failWith kind text => exact .failWith kind text
  | map f _ ih => exact ih.map f
  | bind _ _ ih followingIh => exact ih.bind followingIh
  | zipWith f _ _ firstIh secondIh => exact firstIh.zipWith f secondIh
  | orElse _ _ firstIh secondIh => exact firstIh.orElse secondIh
  | labels names _ ih => exact ih.labels names
  | attempt _ ih => exact ih.attempt
  | lookAhead _ ih => exact ih.lookAhead
  | notFollowedBy _ ih => exact ih.notFollowedBy
  | manyFold first combine _ ih => exact ih.manyFold first combine
  | manyTill _ _ ih stopIh => exact ih.manyTill stopIh
  | sepEndBy1 _ _ ih separatorIh => exact ih.sepEndBy1 separatorIh
  | unrolled _ ih => exact .unrolled ih
  | commentAfter consumes _ _ openingIh stepIh => exact .commentAfter consumes openingIh stepIh

/-- Being composed as a relation in which the second parser does not matter. -/
def Both
    (Atom : ∀ ⦃α : Type⦄, Parser σ υ α → Prop)
    ⦃α : Type⦄
    (parser _other : Parser σ υ α) : Prop :=
  Composed Atom parser

theorem both {parser : Parser σ υ α} (composed : Composed Atom parser) : Both Atom parser parser :=
  composed

theorem fullCongruence : FullCongruence (Both Atom) where
  pure := .pure
  empty := .empty
  failWith := .failWith
  map f composed := .map f composed
  bind composed followings := .bind composed followings
  zipWith f firsts seconds := .zipWith f firsts seconds
  orElse firsts seconds := .orElse firsts seconds
  labels names composed := .labels names composed
  manyFold first combine composed := .manyFold first combine composed
  attempt composed := .attempt composed
  lookAhead composed := .lookAhead composed
  notFollowedBy composed := .notFollowedBy composed
  manyTill composed stops := .manyTill composed stops
  sepEndBy1 composed separators := .sepEndBy1 composed separators

/-! ## Sequences and choices -/

theorem pair
    {first : Parser σ υ α}
    {second : Parser σ υ β}
    (firstComposed : Composed Atom first)
    (secondComposed : Composed Atom second) :
    Composed Atom (first.pair second) :=
  .zipWith _ firstComposed secondComposed

theorem keepLeft
    {first : Parser σ υ α}
    {second : Parser σ υ β}
    (firstComposed : Composed Atom first)
    (secondComposed : Composed Atom second) :
    Composed Atom (first.keepLeft second) :=
  .zipWith _ firstComposed secondComposed

theorem keepRight
    {first : Parser σ υ α}
    {second : Parser σ υ β}
    (firstComposed : Composed Atom first)
    (secondComposed : Composed Atom second) :
    Composed Atom (first.keepRight second) :=
  .zipWith _ firstComposed secondComposed

theorem between
    {left : Parser σ υ β}
    {right : Parser σ υ γ}
    {parser : Parser σ υ α}
    (leftComposed : Composed Atom left)
    (rightComposed : Composed Atom right)
    (composed : Composed Atom parser) :
    Composed Atom (Parser.between left right parser) :=
  (leftComposed.keepRight composed).keepLeft rightComposed

theorem label
    {parser : Parser σ υ α}
    (name : String)
    (composed : Composed Atom parser) :
    Composed Atom (parser.label name) :=
  .labels [name] composed

theorem choice
    {parsers : List (Parser σ υ α)}
    (composed : ∀ parser ∈ parsers, Composed Atom parser) :
    Composed Atom (Parser.choice parsers) :=
  fullCongruence.choice (List.forall₂_same.mpr composed)

theorem withDefault
    {parser : Parser σ υ α}
    (value : α)
    (composed : Composed Atom parser) :
    Composed Atom (parser.withDefault value) :=
  composed.orElse (.pure value)

theorem maybe
    {parser : Parser σ υ α}
    (composed : Composed Atom parser) :
    Composed Atom parser.maybe :=
  (composed.map some).orElse (.pure none)

theorem skipMaybe
    {parser : Parser σ υ α}
    (composed : Composed Atom parser) :
    Composed Atom parser.skipMaybe :=
  (composed.map _).orElse (.pure ())

/-! ## Lists -/

theorem many {parser : Parser σ υ α} (composed : Composed Atom parser) :
    Composed Atom parser.many :=
  (composed.manyFold _ _).map _

theorem many1 {parser : Parser σ υ α} (composed : Composed Atom parser) :
    Composed Atom parser.many1 :=
  composed.zipWith _ composed.many

theorem skipMany {parser : Parser σ υ α} (composed : Composed Atom parser) :
    Composed Atom parser.skipMany :=
  composed.manyFold _ _

theorem skipMany1 {parser : Parser σ υ α} (composed : Composed Atom parser) :
    Composed Atom parser.skipMany1 :=
  composed.keepRight composed.skipMany

theorem count
    {parser : Parser σ υ α}
    (composed : Composed Atom parser)
    (times : Nat) :
    Composed Atom (parser.count times) :=
  fullCongruence.count composed.both times

section
variable
  {parser : Parser σ υ α}
  {separator : Parser σ υ β}

theorem sepBy1
    (composed : Composed Atom parser)
    (separators : Composed Atom separator) :
    Composed Atom (parser.sepBy1 separator) :=
  composed.zipWith _ (separators.keepRight composed).many

theorem sepBy
    (composed : Composed Atom parser)
    (separators : Composed Atom separator) :
    Composed Atom (parser.sepBy separator) :=
  (composed.sepBy1 separators).orElse (.pure [])

theorem endBy
    (composed : Composed Atom parser)
    (separators : Composed Atom separator) :
    Composed Atom (parser.endBy separator) :=
  (composed.keepLeft separators).many

theorem endBy1
    (composed : Composed Atom parser)
    (separators : Composed Atom separator) :
    Composed Atom (parser.endBy1 separator) :=
  (composed.keepLeft separators).many1

theorem sepEndBy
    (composed : Composed Atom parser)
    (separators : Composed Atom separator) :
    Composed Atom (parser.sepEndBy separator) :=
  (composed.sepEndBy1 separators).orElse (.pure [])

end

/-! ## Chains and tables of operators -/

section
variable
  {parser : Parser σ υ α}
  {operator : Parser σ υ (α → α → α)}

theorem chainLeft1
    (composed : Composed Atom parser)
    (operators : Composed Atom operator) :
    Composed Atom (parser.chainLeft1 operator) :=
  composed.zipWith _ (operators.pair composed).many

theorem chainRight1
    (composed : Composed Atom parser)
    (operators : Composed Atom operator) :
    Composed Atom (parser.chainRight1 operator) :=
  composed.zipWith _ (operators.pair composed).many

theorem chainLeft
    (composed : Composed Atom parser)
    (operators : Composed Atom operator)
    (value : α) :
    Composed Atom (parser.chainLeft operator value) :=
  (composed.chainLeft1 operators).orElse (.pure value)

theorem chainRight
    (composed : Composed Atom parser)
    (operators : Composed Atom operator)
    (value : α) :
    Composed Atom (parser.chainRight operator value) :=
  (composed.chainRight1 operators).orElse (.pure value)

end

end Composed
end Parser

namespace Operator

variable {σ τ υ α : Type} [TokenStream σ τ]

/-- The parser for the symbol of the operator is composed. -/
def ComposedOf (Atom : ∀ ⦃α : Type⦄, Parser σ υ α → Prop) : Operator σ υ α → Prop
  | between _ symbol => Parser.Composed Atom symbol
  | before symbol => Parser.Composed Atom symbol
  | behind symbol => Parser.Composed Atom symbol

variable {Atom : ∀ ⦃α : Type⦄, Parser σ υ α → Prop}

theorem ComposedOf.related
    {operator : Operator σ υ α}
    (composed : operator.ComposedOf Atom) :
    operator.Related (Parser.Composed.Both Atom) operator := by
  cases operator with
  | between assoc symbol => exact .between assoc composed
  | before symbol => exact .before composed
  | behind symbol => exact .behind composed

end Operator

namespace Parser.Composed

open Predictive.Parser (Composed)

variable {σ τ υ α : Type} [TokenStream σ τ]
variable {Atom : ∀ ⦃α : Type⦄, Parser σ υ α → Prop}

theorem levelParser
    {level : Level σ υ α}
    (operand : Composed Atom level.operand)
    (infixes : ∀ assoc, Composed Atom (level.infixes assoc)) :
    Composed Atom level.parser := by
  have related : level.Related (Both Atom) level :=
    ⟨operand, infixes, fun assoc => ((infixes assoc).keepRight (.failWith .generic _)).attempt⟩
  exact fullCongruence.levelParser related

/-- The expressions of a table are composed if its operators and the terms are. -/
theorem expression
    {table : OperatorTable σ υ α}
    {term : Parser σ υ α}
    (tableComposed : ∀ operators ∈ table, ∀ operator ∈ operators, operator.ComposedOf Atom)
    (termComposed : Composed Atom term) :
    Composed Atom (table.expression term) :=
  fullCongruence.expressionOfOperators
    (List.forall₂_same.mpr fun operators listed => List.forall₂_same.mpr fun operator present =>
      (tableComposed operators listed operator present).related) termComposed.both

theorem recursiveExpression
    {table : OperatorTable σ υ α}
    {term : Parser σ υ α → Parser σ υ α}
    (tableComposed : ∀ operators ∈ table, ∀ operator ∈ operators, operator.ComposedOf Atom)
    (termComposed : ∀ handle, Composed Atom handle → Composed Atom (term handle)) :
    Composed Atom (table.recursiveExpression term) :=
  .recursive fun handle composed => .expression tableComposed (termComposed handle composed)

/-! ## Permutations -/

theorem members_related
    {members : Permutation σ υ α}
    (membersComposed : ∀ member ∈ members, Composed Atom member.parser) :
    List.Forall₂ (Member.Related (Both Atom)) members members :=
  List.forall₂_same.mpr fun member present => ⟨membersComposed member present, rfl⟩

theorem permutation
    {members : Permutation σ υ α}
    (membersComposed : ∀ member ∈ members, Composed Atom member.parser) :
    Composed Atom members.parser :=
  fullCongruence.permutation (members_related membersComposed)

theorem separatedPermutation
    {members : Permutation σ υ α}
    {separator : Parser σ υ Unit}
    (membersComposed : ∀ member ∈ members, Composed Atom member.parser)
    (separatorComposed : Composed Atom separator) :
    Composed Atom (members.separated separator) :=
  fullCongruence.separatedPermutation (members_related membersComposed)
    separatorComposed.both

end Parser.Composed
end Predictive
