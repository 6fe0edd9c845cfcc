import Predictive.Proofs.Consumption
import Predictive.Proofs.LevelSoundness

/-!
# Values of tables of operators

A property of values that the terms have and that the operators keep is a property of every value
of a table. Only the values count here, not the words that are taken for them: each success of a
level applies operators of the level to operands, in the order that its chains find.
-/

namespace Predictive

/-- All words, with the values of a property. -/
def Category.valued {κ α : Type} (holds : α → Prop) : Category κ α :=
  fun _ value => holds value

/-- The function keeps a property of values. -/
def Keeps {α : Type} (holds : α → Prop) (f : α → α) : Prop :=
  ∀ value, holds value → holds (f value)

/-- The function of two values keeps a property that both of them have. -/
def Keeps₂ {α : Type} (holds : α → Prop) (f : α → α → α) : Prop :=
  ∀ left right, holds left → holds right → holds (f left right)

namespace Application

variable {α : Type} {holds : α → Prop} {first : α} {steps : List (Application α)}

/-- The operator of an application keeps a property that its right operand has. -/
def Keeps (holds : α → Prop) (step : Application α) : Prop :=
  Keeps₂ holds step.1 ∧ holds step.2

theorem holds_foldLeft (start : holds first) (each : ∀ step ∈ steps, step.Keeps holds) :
    holds (foldLeft first steps) := by
  induction steps generalizing first with
  | nil => exact start
  | cons step steps ih =>
      obtain ⟨keeps, others⟩ := List.forall_mem_cons.mp each
      exact ih (keeps.1 _ _ start keeps.2) others

theorem holds_foldRight (start : holds first) (each : ∀ step ∈ steps, step.Keeps holds) :
    holds (foldRight first steps) := by
  induction steps generalizing first with
  | nil => exact start
  | cons step steps ih =>
      obtain ⟨keeps, others⟩ := List.forall_mem_cons.mp each
      exact keeps.1 _ _ start (ih keeps.2 others)

end Application

open Category (valued)

namespace Parser

variable {σ τ υ α β : Type} [TokenStream σ τ] {parser : Parser σ υ α}

/-- Of a parser that takes tokens, nothing is known about its values. -/
theorem TagsSoundly.takesOnly (sound : parser.TagsSoundly) :
    parser.TakesOnly (valued fun _ => True) := by
  intro state consumed value next error ran
  have follows := sound ran
  cases consumed with
  | false => exact ⟨[], by rw [follows.1, List.nil_append], trivial⟩
  | true =>
      obtain ⟨word, -, split⟩ := follows
      exact ⟨word, split, trivial⟩

theorem failWith_takesOnly (kind : MessageKind) (text : String) (category : Category τ α) :
    (failWith kind text : Parser σ υ α).TakesOnly category := by
  intro state consumed value next error ran
  simp [Yields] at ran

theorem TakesOnly.attempt {category : Category τ α} (takes : parser.TakesOnly category) :
    parser.attempt.TakesOnly category :=
  fun _ _ _ _ _ ran => takes (attempt_yields_iff.mp ran)

/-- What goes on from a value may rely on the property of that value. -/
theorem TakesOnly.bindValued
    {holds : α → Prop}
    {result : β → Prop}
    {following : α → Parser σ υ β}
    (takes : parser.TakesOnly (valued holds))
    (followingTakes : ∀ value, holds value → (following value).TakesOnly (valued result)) :
    (parser.bind following).TakesOnly (valued result) := by
  intro state consumed value next error ran
  obtain ⟨_, first, middle, _, _, _, firstRan, secondRan, -, -⟩ := bind_yields_iff.mp ran
  obtain ⟨word, split, inside⟩ := takes firstRan
  obtain ⟨more, others, found⟩ := followingTakes first inside secondRan
  exact ⟨word ++ more, by rw [split, others, List.append_assoc], found⟩

end Parser

namespace Operator

variable {σ τ υ α : Type} [TokenStream σ τ] {holds : α → Prop}

/-- The functions that stand for the operator keep a property of values. -/
def Keeps (holds : α → Prop) : Operator σ υ α → Prop
  | between _ symbol => symbol.TakesOnly (valued (Keeps₂ holds))
  | before symbol => symbol.TakesOnly (valued (Predictive.Keeps holds))
  | behind symbol => symbol.TakesOnly (valued (Predictive.Keeps holds))

end Operator

namespace Level

variable {σ τ υ α : Type} [TokenStream σ τ] {holds : α → Prop}

/-- The operands of the level have a property, and its infix operators keep it. -/
structure Keeps (holds : α → Prop) (level : Level σ υ α) : Prop where
  operand : level.operand.TakesOnly (valued holds)
  infixes : ∀ assoc, (level.infixes assoc).TakesOnly (valued (Keeps₂ holds))

namespace Keeps

variable {level : Level σ υ α} (keeps : level.Keeps holds)
include keeps

theorem application (assoc : Assoc) :
    (level.application assoc).TakesOnly (valued (Application.Keeps holds)) :=
  (keeps.infixes assoc).zipWith keeps.operand fun _ _ _ _ joins inside => ⟨joins, inside⟩

/-- What a chain makes of its applications has the property if folding them keeps it. -/
theorem chain
    (assoc : Assoc)
    {fold : List (Application α) → α}
    (folds : ∀ ⦃steps⦄, (∀ step ∈ steps, Application.Keeps holds step) → holds (fold steps)) :
    ((level.application assoc).zipWith (level.application assoc).many
      fun step steps => fold (step :: steps)).TakesOnly (valued holds) := by
  have step := keeps.application assoc
  have many : (level.application assoc).many.TakesOnly
      (valued fun steps => ∀ step ∈ steps, Application.Keeps holds step) :=
    step.many (List.forall_mem_nil _) fun _ _ _ _ first others =>
      List.forall_mem_cons.mpr ⟨first, others⟩
  exact step.zipWith many fun _ _ _ _ first others =>
    folds (List.forall_mem_cons.mpr ⟨first, others⟩)

/-- Every value of the level has the property. -/
theorem parser : level.parser.TakesOnly (valued holds) := by
  have probe (assoc : Assoc) : (level.ambiguous assoc).TakesOnly (valued holds) :=
    ambiguous_takesOnly level assoc _
  have ends {value : α} (inside : holds value) :
      (Parser.pure value : Parser σ υ α).TakesOnly (valued holds) :=
    Parser.pure_takesOnly inside
  refine keeps.operand.bindValued fun first start => .labels (.orElse (.orElse (.orElse ?right
    ?left) ?non) (ends start)) ["operator"]
  case right =>
    have folded := keeps.chain .right fun _ each => Application.holds_foldRight start each
    refine .orElse (.orElse (folded.bindValued fun value inside => ?_) (probe .left)) (probe .non)
    exact .orElse (.orElse (probe .left) (probe .non)) (ends inside)
  case left =>
    have folded := keeps.chain .left fun _ each => Application.holds_foldLeft start each
    refine .orElse (.orElse (folded.bindValued fun value inside => ?_) (probe .right)) (probe .non)
    exact .orElse (.orElse (probe .right) (probe .non)) (ends inside)
  case non =>
    refine (keeps.application .non).bindValued fun step applied => ?_
    have inside : holds (step.1 first step.2) := applied.1 first step.2 start applied.2
    exact .orElse (.orElse (.orElse (probe .right) (probe .left)) (probe .non)) (ends inside)

end Keeps

/-- A level keeps a property that its terms have and its operators keep. -/
theorem ofOperators_keeps
    {term : Parser σ υ α}
    {operators : List (Operator σ υ α)}
    (terms : term.TakesOnly (valued holds))
    (each : ∀ operator ∈ operators, operator.Keeps holds) :
    (ofOperators term operators).Keeps holds := by
  have absent : (Parser.pure id : Parser σ υ (α → α)).TakesOnly (valued (Predictive.Keeps holds)) :=
    Parser.pure_takesOnly fun _ inside => inside
  have fronts : ∀ symbol ∈ operators.filterMap Operator.beforeSymbol?,
      symbol.TakesOnly (valued (Predictive.Keeps holds)) :=
    fun symbol present => each (.before symbol) (by simpa using present)
  have backs : ∀ symbol ∈ operators.filterMap Operator.behindSymbol?,
      symbol.TakesOnly (valued (Predictive.Keeps holds)) :=
    fun symbol present => each (.behind symbol) (by simpa using present)
  have front := ((Parser.TakesOnly.choice fronts).labels [""]).orElse absent
  have back := ((Parser.TakesOnly.choice backs).labels [""]).orElse absent
  refine ⟨?_, fun assoc => .choice fun symbol present =>
    each (.between assoc symbol) (by simpa using present)⟩
  have frontTerm : (Parser.pair _ term).TakesOnly
      (valued fun pair => Predictive.Keeps holds pair.1 ∧ holds pair.2) :=
    front.zipWith terms fun _ _ _ _ keeps inside => ⟨keeps, inside⟩
  have all : (Parser.pair (Parser.pair _ term) _).TakesOnly
      (valued fun pair : ((α → α) × α) × (α → α) => holds (pair.2 (pair.1.1 pair.1.2))) :=
    frontTerm.zipWith back fun _ _ _ _ inside keeps => keeps _ (inside.1 _ inside.2)
  exact all.map fun _ _ inside => inside

end Level

namespace OperatorTable

variable {σ τ υ α : Type} [TokenStream σ τ] {holds : α → Prop}

/-- Every value of a table has a property that its terms have and its operators keep. -/
theorem expression_takesOnly
    {table : OperatorTable σ υ α}
    {term : Parser σ υ α}
    (terms : term.TakesOnly (valued holds))
    (each : ∀ operators ∈ table, ∀ operator ∈ operators, operator.Keeps holds) :
    (table.expression term).TakesOnly (valued holds) := by
  induction table generalizing term with
  | nil => exact terms
  | cons operators table ih =>
      obtain ⟨row, rows⟩ := List.forall_mem_cons.mp each
      exact ih (Level.ofOperators_keeps terms row).parser rows

/-- The same where terms contain expressions, and have the property if these do. -/
theorem recursiveExpression_takesOnly
    {table : OperatorTable σ υ α}
    {term : Parser σ υ α → Parser σ υ α}
    (terms : ∀ handle, handle.TakesOnly (valued holds) → (term handle).TakesOnly (valued holds))
    (each : ∀ operators ∈ table, ∀ operator ∈ operators, operator.Keeps holds) :
    (table.recursiveExpression term).TakesOnly (valued holds) := by
  have unrolled (depth : Nat) : (Parser.unrolled (fun expr => table.expression (term expr))
      depth).TakesOnly (valued holds) := by
    induction depth with
    | zero =>
        intro state consumed value next error ran
        simp [Parser.Yields] at ran
    | succ depth ih => exact expression_takesOnly (terms _ ih) each
  intro state consumed value next error ran
  rw [recursiveExpression, Parser.Yields, Parser.run_recursive] at ran
  exact unrolled _ ran

end OperatorTable
end Predictive
