import Predictive.Proofs.ConsumingParsers
import Predictive.Proofs.Grammar
import Predictive.Proofs.Returning

/-!
# Tables without defects

A level returns if its operands and infix operators do and its infix operators consume input,
for then its chains do not go on forever. So the parser of a table whose symbols are read by
parsers that consume has an outcome on every input.
-/

namespace Predictive
namespace Level

variable {σ τ υ α : Type} [TokenStream σ τ] {level : Level σ υ α}

/-- Operands and infix operators return and have sound tags, and the infix operators consume. -/
structure PartsReturn (level : Level σ υ α) : Prop where
  operand : level.operand.Returns
  operandSound : level.operand.TagsSoundly
  infixes : ∀ assoc, (level.infixes assoc).Returns
  infixesSound : ∀ assoc, (level.infixes assoc).TagsSoundly
  infixesConsume : ∀ assoc, (level.infixes assoc).AlwaysConsumes

theorem ambiguous_returns (parts : level.PartsReturn) (assoc : Assoc) :
    (level.ambiguous assoc).Returns :=
  ((parts.infixes assoc).zipWith (Parser.failWith_returns _ _) _).attempt

theorem application_returns (parts : level.PartsReturn) (assoc : Assoc) :
    (level.application assoc).Returns :=
  (parts.infixes assoc).zipWith parts.operand _

theorem many_application_returns
    [LawfulTokenStream σ]
    (parts : level.PartsReturn)
    (assoc : Assoc) :
    (level.application assoc).many.Returns := by
  refine (application_returns parts assoc).many ?_ ?_
  · intro state consumed step next error ran
    obtain ⟨_, _, middle, _, _, _, _, infixRan, operandRan, -, rfl, -⟩ :=
      Parser.zipWith_yields_iff.mp ran
    exact (parts.infixesSound assoc infixRan).trans (parts.operandSound operandRan)
  · intro state step next error ran
    obtain ⟨first, apply, middle, earlier, _, _, _, infixRan, -, -, tags, -⟩ :=
      Parser.zipWith_yields_iff.mp ran
    cases first with
    | false => exact parts.infixesConsume assoc state apply middle earlier infixRan
    | true => simp at tags

/-- The parser of a level returns if its operands and infix operators do. -/
theorem parser_returns [LawfulTokenStream σ] (parts : level.PartsReturn) :
    level.parser.Returns := by
  have step (assoc : Assoc) := application_returns parts assoc
  have steps (assoc : Assoc) := many_application_returns parts assoc
  have probe (assoc : Assoc) := ambiguous_returns parts assoc
  have ends (value : α) := (Parser.pure_returns value : (Parser.pure value : Parser σ υ α).Returns)
  have right (first : α) : (level.rightChain first).Returns := by
    have chain := ((step .right).zipWith (steps .right)
      fun step steps => Application.foldRight first (step :: steps)).bind
        fun value => ((probe .left).orElse (probe .non)).orElse (ends value)
    exact (chain.orElse (probe .left)).orElse (probe .non)
  have left (first : α) : (level.leftChain first).Returns := by
    have chain := ((step .left).zipWith (steps .left)
      fun step steps => Application.foldLeft first (step :: steps)).bind
        fun value => ((probe .right).orElse (probe .non)).orElse (ends value)
    exact (chain.orElse (probe .right)).orElse (probe .non)
  have non (first : α) : (level.nonChain first).Returns :=
    (step .non).bind fun (f, second) =>
      (((probe .right).orElse (probe .left)).orElse (probe .non)).orElse (ends (f first second))
  exact parts.operand.bind fun first =>
    ((((right first).orElse (left first)).orElse (non first)).orElse (ends first)).labels _

end Level

/-! ## Tables -/

namespace Operator

variable {σ τ υ α : Type} [TokenStream σ τ]

/-- The parser for the symbol returns and has sound tags. Between operands it consumes, too. -/
def Returns : Operator σ υ α → Prop
  | between _ symbol => symbol.Returns ∧ symbol.TagsSoundly ∧ symbol.AlwaysConsumes
  | before symbol => symbol.Returns ∧ symbol.TagsSoundly
  | behind symbol => symbol.Returns ∧ symbol.TagsSoundly

end Operator

namespace Level

variable {σ τ υ α : Type} [TokenStream σ τ]

/-- An operator that may be missing returns and has sound tags if the operators do. -/
theorem affix_returns
    {symbols : List (Parser σ υ (α → α))}
    (each : ∀ symbol ∈ symbols, symbol.Returns ∧ symbol.TagsSoundly) :
    (((Parser.choice symbols).label "").orElse (Parser.pure id)).Returns ∧
      Parser.Composed (fun _ parser => parser.TagsSoundly)
        (((Parser.choice symbols).label "").orElse (Parser.pure id)) := by
  have returns : (Parser.choice symbols).Returns :=
    Parser.choice_returns fun symbol present => (each symbol present).1
  have composed : Parser.Composed (fun _ parser => parser.TagsSoundly) (Parser.choice symbols) :=
    .choice fun symbol present => .atom (each symbol present).2
  exact ⟨(returns.labels _).orElse (Parser.pure_returns id), (composed.label "").orElse (.pure id)⟩

theorem ofOperators_partsReturn
    {term : Parser σ υ α}
    {operators : List (Operator σ υ α)}
    (termReturns : term.Returns)
    (termSound : term.TagsSoundly)
    (each : ∀ operator ∈ operators, operator.Returns) :
    (ofOperators term operators).PartsReturn := by
  have sound {γ : Type} {parser : Parser σ υ γ}
      (made : Parser.Composed (fun _ parser => parser.TagsSoundly) parser) :
      parser.TagsSoundly := made.tagsSoundly fun _ _ atom => atom
  have between (assoc : Assoc) :
      ∀ symbol ∈ operators.filterMap (Operator.betweenSymbol? assoc),
        symbol.Returns ∧ symbol.TagsSoundly ∧ symbol.AlwaysConsumes :=
    fun symbol present => each (.between assoc symbol) (by simpa using present)
  have fronts : ∀ symbol ∈ operators.filterMap Operator.beforeSymbol?,
      symbol.Returns ∧ symbol.TagsSoundly :=
    fun symbol present => each (.before symbol) (by simpa using present)
  have backs : ∀ symbol ∈ operators.filterMap Operator.behindSymbol?,
      symbol.Returns ∧ symbol.TagsSoundly :=
    fun symbol present => each (.behind symbol) (by simpa using present)
  obtain ⟨frontReturns, frontComposed⟩ := affix_returns fronts
  obtain ⟨backReturns, backComposed⟩ := affix_returns backs
  exact {
    operand := ((frontReturns.zipWith termReturns _).zipWith backReturns _).map _
    operandSound := sound (((frontComposed.pair (.atom termSound)).pair backComposed).map _)
    infixes := fun assoc =>
      Parser.choice_returns fun symbol present => (between assoc symbol present).1
    infixesSound := fun assoc =>
      sound (.choice fun symbol present => .atom (between assoc symbol present).2.1)
    infixesConsume := fun assoc =>
      .choice fun symbol present => (between assoc symbol present).2.2 }

end Level

namespace OperatorTable

variable {σ τ υ α : Type} [TokenStream σ τ] [LawfulTokenStream σ]

/-- The parser of a table returns if its operators and terms do. -/
theorem expression_returns
    {table : OperatorTable σ υ α}
    {term : Parser σ υ α}
    (each : ∀ operators ∈ table, ∀ operator ∈ operators, operator.Returns)
    (termReturns : term.Returns)
    (termSound : term.TagsSoundly) :
    (table.expression term).Returns := by
  induction table generalizing term with
  | nil => exact termReturns
  | cons operators table ih =>
      obtain ⟨row, rows⟩ := List.forall_mem_cons.mp each
      have parts := Level.ofOperators_partsReturn termReturns termSound row
      have composed : Parser.Composed (fun _ parser => parser.TagsSoundly)
          (Level.ofOperators term operators).parser :=
        .levelParser (.atom parts.operandSound) fun assoc => .atom (parts.infixesSound assoc)
      exact ih rows (Level.parser_returns parts) (composed.tagsSoundly fun _ _ atom => atom)

end OperatorTable

namespace SignTable

variable {σ τ υ κ α β : Type} [TokenStream σ τ] [LawfulTokenStream σ]

/-- The parser of a table of signs returns if its symbols and terms do, and if its symbols
consume. -/
theorem expression_returns
    {symbolOf : κ → Parser σ υ β}
    {table : SignTable κ α}
    {term : Parser σ υ α}
    (symbolsReturn : ∀ symbol, (symbolOf symbol).Returns)
    (symbolsSound : ∀ symbol, (symbolOf symbol).TagsSoundly)
    (symbolsConsume : ∀ symbol, (symbolOf symbol).AlwaysConsumes)
    (termReturns : term.Returns)
    (termSound : term.TagsSoundly) :
    ((table.operators symbolOf).expression term).Returns := by
  have sound {γ : Type} (symbol : κ) (value : γ) :
      ((symbolOf symbol).map fun _ => value).TagsSoundly :=
    Parser.Relates.map (symbolsSound symbol) _
  refine OperatorTable.expression_returns (fun operators listed operator present => ?_)
    termReturns termSound
  obtain ⟨signs, -, rfl⟩ := List.mem_map.mp listed
  obtain ⟨sign, -, rfl⟩ := List.mem_map.mp present
  cases sign with
  | between assoc symbol apply =>
      exact ⟨(symbolsReturn symbol).map _, sound symbol apply, (symbolsConsume symbol).map _⟩
  | before symbol apply => exact ⟨(symbolsReturn symbol).map _, sound symbol apply⟩
  | behind symbol apply => exact ⟨(symbolsReturn symbol).map _, sound symbol apply⟩

end SignTable
end Predictive
