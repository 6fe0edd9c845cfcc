import Predictive.Proofs.LevelReading
import Predictive.Proofs.Taking

/-!
# What a level takes

Whenever the parser of a table succeeds, the tokens that it has taken are a word of the grammar
of the table, and its value is the value of that word. This needs no assumption on how symbols
are told apart: a parser that takes the wrong operator still takes a word.
-/

namespace Predictive

open Category (Affix Operand Steps)

namespace Level

variable {σ τ υ α β : Type} [TokenStream σ τ]
variable {symbolOf : τ → Parser σ υ β} {term : Parser σ υ α}
variable {signs : List (Sign τ α)} {category : Category τ α}

/-- Every parser of a symbol takes that symbol and nothing else. -/
def TakesSymbols (symbolOf : τ → Parser σ υ β) : Prop :=
  ∀ symbol, (symbolOf symbol).TakesOnly fun word _ => word = [symbol]

section
variable (symbols : TakesSymbols symbolOf)
include symbols

theorem oneSymbol_takesOnly {γ : Type} (entries : List (τ × γ)) :
    (Parser.oneSymbol symbolOf entries).TakesOnly
      fun word value => ∃ symbol, word = [symbol] ∧ (symbol, value) ∈ entries := by
  refine .choice fun parser present => ?_
  obtain ⟨⟨symbol, value⟩, inside, rfl⟩ := List.mem_map.mp present
  exact (symbols symbol).map fun word _ taken => ⟨symbol, taken, inside⟩

theorem affix_takesOnly (entries : List (τ × (α → α))) :
    (affix symbolOf entries).TakesOnly (Affix entries) := by
  refine .orElse (.labels ?_ [""]) (Parser.pure_takesOnly .none)
  intro state consumed value next error ran
  obtain ⟨_, split, symbol, rfl, present⟩ := oneSymbol_takesOnly symbols entries ran
  exact ⟨[symbol], split, .one present⟩

theorem operand_takesOnly (takes : term.TakesOnly category) :
    (signLevel symbolOf term signs).operand.TakesOnly (Operand signs category) := by
  have front := affix_takesOnly symbols (signs.filterMap Sign.before?)
  have back := affix_takesOnly symbols (signs.filterMap Sign.behind?)
  have inner : ((affix symbolOf (signs.filterMap Sign.before?)).pair term).TakesOnly
      fun word pair => ∃ first second, word = first ++ second ∧
        Affix (signs.filterMap Sign.before?) first pair.1 ∧ category second pair.2 :=
    front.zipWith takes fun first _ second _ frontAffix derived =>
      ⟨first, second, rfl, frontAffix, derived⟩
  have outer : (((affix symbolOf (signs.filterMap Sign.before?)).pair term).pair
      (affix symbolOf (signs.filterMap Sign.behind?))).TakesOnly
        fun word pair => Operand signs category word (pair.2 (pair.1.1 pair.1.2)) := by
    refine inner.zipWith back ?_
    rintro _ ⟨f, value⟩ more g ⟨first, second, rfl, frontAffix, derived⟩ backAffix
    exact .intro frontAffix derived backAffix
  rw [operand_signLevel]
  exact outer.map fun _ _ derived => derived

variable (signs)

theorem application_takesOnly (takes : term.TakesOnly category) (assoc : Assoc) :
    ((signLevel symbolOf term signs).application assoc).TakesOnly fun word step =>
      ∃ symbol others, word = symbol :: others ∧
        (symbol, step.1) ∈ signs.filterMap (Sign.between? assoc) ∧
        Operand signs category others step.2 := by
  have infixes : ((signLevel symbolOf term signs).infixes assoc).TakesOnly
      fun word apply => ∃ symbol, word = [symbol] ∧
        (symbol, apply) ∈ signs.filterMap (Sign.between? assoc) := by
    rw [infixes_signLevel]
    exact oneSymbol_takesOnly symbols _
  refine infixes.zipWith (operand_takesOnly symbols takes) ?_
  rintro _ apply others value ⟨symbol, rfl, present⟩ derived
  exact ⟨symbol, others, rfl, present, derived⟩

/-- One or more applications make up a list of steps. -/
theorem applications_takeOnly
    (takes : term.TakesOnly category)
    (assoc : Assoc)
    (f : Application α → List (Application α) → α) :
    (((signLevel symbolOf term signs).application assoc).zipWith
      ((signLevel symbolOf term signs).application assoc).many f).TakesOnly fun word value =>
        ∃ step steps, value = f step steps ∧
          Steps (signs.filterMap (Sign.between? assoc)) (Operand signs category)
            (Operand signs category) word (step :: steps) := by
  have step := application_takesOnly signs symbols takes assoc
  have many : ((signLevel symbolOf term signs).application assoc).many.TakesOnly
      fun word steps => word = [] ∧ steps = [] ∨
        Steps (signs.filterMap (Sign.between? assoc)) (Operand signs category)
          (Operand signs category) word steps := by
    refine step.many (.inl ⟨rfl, rfl⟩) ?_
    rintro _ ⟨apply, value⟩ more steps ⟨symbol, others, rfl, present, derived⟩ following
    exact .inr (.prepend present derived following)
  refine step.zipWith many ?_
  rintro _ ⟨apply, value⟩ more steps ⟨symbol, others, rfl, present, derived⟩ following
  exact ⟨(apply, value), steps, rfl, .prepend present derived following⟩

omit symbols in
/-- A probe for an ambiguous operator has no success at all. -/
theorem ambiguous_takesOnly (level : Level σ υ α) (assoc : Assoc) (category : Category τ α) :
    (level.ambiguous assoc).TakesOnly category := by
  intro state consumed value next error ran
  obtain ⟨_, _, _, _, _, _, _, -, failed, -⟩ :=
    Parser.zipWith_yields_iff.mp (Parser.attempt_yields_iff.mp ran)
  simp [Parser.Yields] at failed

variable {signs}

/-- What makes a word of the level behind an operand of a certain value. -/
def Continues (signs : List (Sign τ α)) (category : Category τ α) (first : α) : Category τ α :=
  fun word value => ∀ ⦃front⦄, Operand signs category front first →
    Category.level signs category (front ++ word) value

theorem rightChain_takesOnly (takes : term.TakesOnly category) (first : α) :
    ((signLevel symbolOf term signs).rightChain first).TakesOnly
      (Continues signs category first) := by
  have chain := applications_takeOnly signs symbols takes .right
    fun step steps => Application.foldRight first (step :: steps)
  have ends (value : α) : ((((signLevel symbolOf term signs).ambiguous .left).orElse
      ((signLevel symbolOf term signs).ambiguous .non)).orElse (Parser.pure value)).TakesOnly
        fun word result => word = [] ∧ result = value :=
    .orElse (.orElse (ambiguous_takesOnly _ _ _) (ambiguous_takesOnly _ _ _))
      (Parser.pure_takesOnly ⟨rfl, rfl⟩)
  refine .orElse (.orElse (chain.bind ends ?_) (ambiguous_takesOnly _ _ _))
    (ambiguous_takesOnly _ _ _)
  rintro word value _ _ ⟨step, steps, rfl, applied⟩ ⟨rfl, rfl⟩ front derived
  obtain ⟨symbol, apply, others, right, rfl, present, part, folded⟩ := applied.rightPart
  rw [List.append_nil, folded]
  exact .chain (.right derived present part)

theorem leftChain_takesOnly (takes : term.TakesOnly category) (first : α) :
    ((signLevel symbolOf term signs).leftChain first).TakesOnly
      (Continues signs category first) := by
  have chain := applications_takeOnly signs symbols takes .left
    fun step steps => Application.foldLeft first (step :: steps)
  have ends (value : α) : ((((signLevel symbolOf term signs).ambiguous .right).orElse
      ((signLevel symbolOf term signs).ambiguous .non)).orElse (Parser.pure value)).TakesOnly
        fun word result => word = [] ∧ result = value :=
    .orElse (.orElse (ambiguous_takesOnly _ _ _) (ambiguous_takesOnly _ _ _))
      (Parser.pure_takesOnly ⟨rfl, rfl⟩)
  refine .orElse (.orElse (chain.bind ends ?_) (ambiguous_takesOnly _ _ _))
    (ambiguous_takesOnly _ _ _)
  rintro word value _ _ ⟨step, steps, rfl, applied⟩ ⟨rfl, rfl⟩ front derived
  obtain ⟨start, back, symbol, apply, left, right, split, part, present, ends, folded⟩ :=
    applied.leftPart (.first derived)
  rw [List.append_nil, split, folded]
  exact .chain (.left part present ends)

theorem nonChain_takesOnly (takes : term.TakesOnly category) (first : α) :
    ((signLevel symbolOf term signs).nonChain first).TakesOnly
      (Continues signs category first) := by
  have ends (value : α) : (((((signLevel symbolOf term signs).ambiguous .right).orElse
      ((signLevel symbolOf term signs).ambiguous .left)).orElse
        ((signLevel symbolOf term signs).ambiguous .non)).orElse (Parser.pure value)).TakesOnly
          fun word result => word = [] ∧ result = value :=
    .orElse (.orElse (.orElse (ambiguous_takesOnly _ _ _) (ambiguous_takesOnly _ _ _))
      (ambiguous_takesOnly _ _ _)) (Parser.pure_takesOnly ⟨rfl, rfl⟩)
  refine (application_takesOnly signs symbols takes .non).bind (fun step => ends _) ?_
  rintro _ ⟨apply, right⟩ _ _ ⟨symbol, others, rfl, present, next⟩ ⟨rfl, rfl⟩ front derived
  rw [List.append_nil]
  exact .chain (.non derived present next)

/-- The parser of a level takes words of the level. -/
theorem parser_takesOnly (takes : term.TakesOnly category) :
    (signLevel symbolOf term signs).parser.TakesOnly (Category.level signs category) := by
  have continues (first : α) :
      ((((((signLevel symbolOf term signs).rightChain first).orElse
        ((signLevel symbolOf term signs).leftChain first)).orElse
          ((signLevel symbolOf term signs).nonChain first)).orElse
            (Parser.pure first)).label "operator").TakesOnly (Continues signs category first) := by
    refine .labels (.orElse (.orElse (.orElse ?_ ?_) ?_) (Parser.pure_takesOnly ?_)) _
    · exact rightChain_takesOnly symbols takes first
    · exact leftChain_takesOnly symbols takes first
    · exact nonChain_takesOnly symbols takes first
    · intro front derived
      rw [List.append_nil]
      exact .alone derived
  exact (operand_takesOnly symbols takes).bind continues fun _ _ _ _ derived more => more derived

end

end Level

namespace SignTable

variable {σ τ υ α β : Type} [TokenStream σ τ] {symbolOf : τ → Parser σ υ β}

/-- The parser of a table takes words of its grammar. -/
theorem expression_takesOnly
    {table : SignTable τ α}
    {term : Parser σ υ α}
    {category : Category τ α}
    (symbols : Level.TakesSymbols symbolOf)
    (takes : term.TakesOnly category) :
    ((table.operators symbolOf).expression term).TakesOnly (table.expression category) := by
  induction table generalizing term category with
  | nil => exact takes
  | cons signs table ih => exact ih (Level.parser_takesOnly symbols takes)

end SignTable
end Predictive
