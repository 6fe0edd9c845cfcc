import Mathlib.Data.List.Nodup
import Predictive.Expression.Level

/-!
# The grammar of a table of operators

A table whose operators are single symbols stands for a grammar with one category of words for
each level. A word has a value, put together by the functions of its operators. An operand of
a level has at most one operator in front of it and at most one behind it; a word of the level
is an operand or a chain of operands with infix operators of one associativity. The chains
follow the grouping: a chain that associates to the right goes on to the right of its first
operator, and one that associates to the left goes on to the left of its last operator.
-/

namespace Predictive

/-- An operator that is written as a single symbol, and the function that it applies. -/
inductive Sign (κ α : Type) where
  /-- An operator between its operands. -/
  | between (assoc : Assoc) (symbol : κ) (apply : α → α → α)
  /-- An operator in front of its operand. -/
  | before (symbol : κ) (apply : α → α)
  /-- An operator behind its operand. -/
  | behind (symbol : κ) (apply : α → α)

/-- The operators of some levels of precedence, the tightest level first. -/
abbrev SignTable (κ α : Type) := List (List (Sign κ α))

namespace Sign

variable {κ α : Type}

/-- The symbol that the operator is written with. -/
def symbol : Sign κ α → κ
  | between _ symbol _ => symbol
  | before symbol _ => symbol
  | behind symbol _ => symbol

/-- Symbol and function of an infix operator of a certain associativity. -/
def between? (assoc : Assoc) : Sign κ α → Option (κ × (α → α → α))
  | between found symbol apply => if found = assoc then some (symbol, apply) else none
  | _ => none

/-- Symbol and function of an operator in front of its operand. -/
def before? : Sign κ α → Option (κ × (α → α))
  | before symbol apply => some (symbol, apply)
  | _ => none

/-- Symbol and function of an operator behind its operand. -/
def behind? : Sign κ α → Option (κ × (α → α))
  | behind symbol apply => some (symbol, apply)
  | _ => none

/-- The symbol of an operator in front of an operand. -/
def leading? : Sign κ α → Option κ
  | before symbol _ => some symbol
  | _ => none

/-- The symbol of an operator after an operand. -/
def trailing? : Sign κ α → Option κ
  | between _ symbol _ => some symbol
  | before _ _ => none
  | behind symbol _ => some symbol

/-- The operator whose symbol is recognized by the parser given for it. -/
def operator {σ υ β : Type} (symbolOf : κ → Parser σ υ β) : Sign κ α → Operator σ υ α
  | between assoc symbol apply => .binary (symbolOf symbol) apply assoc
  | before symbol apply => .unaryBefore (symbolOf symbol) apply
  | behind symbol apply => .unaryBehind (symbolOf symbol) apply

@[simp] theorem between?_eq_some_iff
    {sign : Sign κ α}
    {assoc : Assoc}
    {symbol : κ}
    {apply : α → α → α} :
    sign.between? assoc = some (symbol, apply) ↔ sign = between assoc symbol apply := by
  cases sign with
  | between found other f =>
      simp only [between?, between.injEq]
      split
      · rename_i same
        simp [same]
      · rename_i different
        simp [different]
  | before other f => simp [between?]
  | behind other f => simp [between?]

@[simp] theorem before?_eq_some_iff
    {sign : Sign κ α}
    {symbol : κ}
    {apply : α → α} :
    sign.before? = some (symbol, apply) ↔ sign = before symbol apply := by
  cases sign <;> simp [before?]

@[simp] theorem behind?_eq_some_iff
    {sign : Sign κ α}
    {symbol : κ}
    {apply : α → α} :
    sign.behind? = some (symbol, apply) ↔ sign = behind symbol apply := by
  cases sign <;> simp [behind?]

end Sign

namespace SignTable

/-- The table of operators whose symbols are recognized by the parsers given for them. -/
def operators {κ α σ υ β : Type}
    (symbolOf : κ → Parser σ υ β)
    (table : SignTable κ α) :
    OperatorTable σ υ α :=
  table.map fun signs => signs.map (Sign.operator symbolOf)

end SignTable

/-- Words with their values. -/
abbrev Category (κ α : Type) := List κ → α → Prop

namespace Category

variable {κ α : Type}

/-- The single symbols that have a value. -/
def single (valueOf : κ → Option α) : Category κ α :=
  fun word value => ∃ symbol, word = [symbol] ∧ valueOf symbol = some value

/-- At most one of some symbols, each with the function that it applies. -/
inductive Affix (entries : List (κ × (α → α))) : Category κ (α → α)
  | none : Affix entries [] id
  | one
      {symbol : κ}
      {apply : α → α}
      (present : (symbol, apply) ∈ entries) :
      Affix entries [symbol] apply

/-- A tighter word with at most one operator in front of it, which is applied first, and at most
one behind it. -/
inductive Operand (signs : List (Sign κ α)) (tighter : Category κ α) : Category κ α
  | intro
      {front core back : List κ}
      {f g : α → α}
      {value : α}
      (frontAffix : Affix (signs.filterMap Sign.before?) front f)
      (inner : tighter core value)
      (backAffix : Affix (signs.filterMap Sign.behind?) back g) :
      Operand signs tighter (front ++ core ++ back) (g (f value))

/-- An operand, or an operand, an operator and a right part; the last operand is special. -/
inductive RightPart
    (entries : List (κ × (α → α → α)))
    (operand last : Category κ α) :
    Category κ α
  | last
      {word : List κ}
      {value : α}
      (ends : last word value) :
      RightPart entries operand last word value
  | more
      {word others : List κ}
      {symbol : κ}
      {apply : α → α → α}
      {left right : α}
      (first : operand word left)
      (present : (symbol, apply) ∈ entries)
      (part : RightPart entries operand last others right) :
      RightPart entries operand last (word ++ symbol :: others) (apply left right)

/-- An operand, or a left part, an operator and an operand. -/
inductive LeftPart
    (entries : List (κ × (α → α → α)))
    (operand : Category κ α) :
    Category κ α
  | first
      {word : List κ}
      {value : α}
      (starts : operand word value) :
      LeftPart entries operand word value
  | more
      {others word : List κ}
      {symbol : κ}
      {apply : α → α → α}
      {left right : α}
      (part : LeftPart entries operand others left)
      (present : (symbol, apply) ∈ entries)
      (next : operand word right) :
      LeftPart entries operand (others ++ symbol :: word) (apply left right)

/-- One or more applications of the infix operators of one associativity. -/
inductive Chain (signs : List (Sign κ α)) (operand last : Category κ α) :
    Assoc → Category κ α
  | right
      {word others : List κ}
      {symbol : κ}
      {apply : α → α → α}
      {left right : α}
      (first : operand word left)
      (present : (symbol, apply) ∈ signs.filterMap (Sign.between? .right))
      (part : RightPart (signs.filterMap (Sign.between? .right)) operand last others right) :
      Chain signs operand last .right (word ++ symbol :: others) (apply left right)
  | left
      {others word : List κ}
      {symbol : κ}
      {apply : α → α → α}
      {left right : α}
      (part : LeftPart (signs.filterMap (Sign.between? .left)) operand others left)
      (present : (symbol, apply) ∈ signs.filterMap (Sign.between? .left))
      (ends : last word right) :
      Chain signs operand last .left (others ++ symbol :: word) (apply left right)
  | non
      {word others : List κ}
      {symbol : κ}
      {apply : α → α → α}
      {left right : α}
      (first : operand word left)
      (present : (symbol, apply) ∈ signs.filterMap (Sign.between? .non))
      (ends : last others right) :
      Chain signs operand last .non (word ++ symbol :: others) (apply left right)

/-- An operand alone, or a chain. The last operand may come from a category of its own. -/
inductive Level (signs : List (Sign κ α)) (operand last : Category κ α) : Category κ α
  | alone
      {word : List κ}
      {value : α}
      (ends : last word value) :
      Level signs operand last word value
  | chain
      {assoc : Assoc}
      {word : List κ}
      {value : α}
      (applied : Chain signs operand last assoc word value) :
      Level signs operand last word value

/-- The words of a level around those of the tighter levels. -/
def level (signs : List (Sign κ α)) (tighter : Category κ α) : Category κ α :=
  Level signs (Operand signs tighter) (Operand signs tighter)

end Category

namespace SignTable

variable {κ α : Type}

/-- The words of a table: terms, wrapped by one level after the other. -/
def expression (table : SignTable κ α) (term : Category κ α) : Category κ α :=
  table.foldl (fun tighter signs => Category.level signs tighter) term

@[simp] theorem expression_nil (term : Category κ α) :
    expression ([] : SignTable κ α) term = term := rfl

@[simp] theorem expression_cons
    (signs : List (Sign κ α))
    (table : SignTable κ α)
    (term : Category κ α) :
    expression (signs :: table : SignTable κ α) term =
      expression table (Category.level signs term) := rfl

end SignTable

/-! ## Chains as lists of applications -/

namespace Category

variable {κ α : Type} {entries : List (κ × (α → α → α))} {operand last : Category κ α}

/-- One or more operators, each with the operand behind it. -/
inductive Steps
    (entries : List (κ × (α → α → α)))
    (operand last : Category κ α) :
    List κ → List (Application α) → Prop
  | last
      {symbol : κ}
      {apply : α → α → α}
      {word : List κ}
      {value : α}
      (present : (symbol, apply) ∈ entries)
      (ends : last word value) :
      Steps entries operand last (symbol :: word) [(apply, value)]
  | more
      {symbol : κ}
      {apply : α → α → α}
      {word others : List κ}
      {value : α}
      {steps : List (Application α)}
      (present : (symbol, apply) ∈ entries)
      (next : operand word value)
      (part : Steps entries operand last others steps) :
      Steps entries operand last (symbol :: (word ++ others)) ((apply, value) :: steps)

theorem Steps.starts
    {word : List κ}
    {steps : List (Application α)}
    (applied : Steps entries operand last word steps) :
    ∃ symbol others, word = symbol :: others ∧ symbol ∈ entries.map Prod.fst := by
  cases applied with
  | last present ends => exact ⟨_, _, rfl, List.mem_map_of_mem present⟩
  | more present next part => exact ⟨_, _, rfl, List.mem_map_of_mem present⟩

/-- One more operator with an operand in front of some, or of none. -/
theorem Steps.prepend
    {symbol : κ}
    {apply : α → α → α}
    {word others : List κ}
    {value : α}
    {steps : List (Application α)}
    (present : (symbol, apply) ∈ entries)
    (next : operand word value)
    (part : others = [] ∧ steps = [] ∨ Steps entries operand operand others steps) :
    Steps entries operand operand (symbol :: (word ++ others)) ((apply, value) :: steps) := by
  rcases part with ⟨rfl, rfl⟩ | part
  · rw [List.append_nil]
    exact .last present next
  · exact .more present next part

/-- A right part behind an operator is a list of applications, to be applied from the right. -/
theorem RightPart.steps
    {others : List κ}
    {right : α}
    (part : RightPart entries operand last others right)
    {symbol : κ}
    {apply : α → α → α}
    (present : (symbol, apply) ∈ entries) :
    ∃ steps, Steps entries operand last (symbol :: others) steps ∧
      ∀ left, Application.foldRight left steps = apply left right := by
  induction part generalizing symbol apply with
  | last ends => exact ⟨_, .last present ends, fun _ => rfl⟩
  | more first next _ ih =>
      obtain ⟨steps, applied, folded⟩ := ih next
      refine ⟨_, .more present first applied, fun left => ?_⟩
      rw [Application.foldRight_cons, folded]

theorem Steps.rightPart
    {others : List κ}
    {steps : List (Application α)}
    (applied : Steps entries operand last others steps) :
    ∃ symbol apply word right, others = symbol :: word ∧ (symbol, apply) ∈ entries ∧
      RightPart entries operand last word right ∧
      ∀ left, Application.foldRight left steps = apply left right := by
  induction applied with
  | last present ends => exact ⟨_, _, _, _, rfl, present, .last ends, fun _ => rfl⟩
  | more present next _ ih =>
      obtain ⟨symbol, apply, word, right, rfl, presentNext, part, folded⟩ := ih
      refine ⟨_, _, _, _, rfl, present, .more next presentNext part, fun left => ?_⟩
      rw [Application.foldRight_cons, folded]

/-- Applications behind a left part make up a list of applications behind its first operand, to
be applied from the left. -/
theorem LeftPart.steps
    {others word : List κ}
    {left : α}
    {steps : List (Application α)}
    (part : LeftPart entries operand others left)
    (applied : Steps entries operand last word steps) :
    ∃ front first back all, others ++ word = front ++ back ∧ operand front first ∧
      Steps entries operand last back all ∧
      Application.foldLeft first all = Application.foldLeft left steps := by
  induction part generalizing word steps with
  | first starts => exact ⟨_, _, _, _, rfl, starts, applied, rfl⟩
  | more _ present next ih =>
      obtain ⟨front, first, back, all, split, starts, taken, folded⟩ :=
        ih (.more present next applied)
      exact ⟨front, first, back, all, by simp [← split], starts, taken, folded⟩

theorem Steps.leftPart
    {others word : List κ}
    {left : α}
    {steps : List (Application α)}
    (applied : Steps entries operand last word steps)
    (part : LeftPart entries operand others left) :
    ∃ front back symbol apply first right, others ++ word = front ++ symbol :: back ∧
      LeftPart entries operand front first ∧ (symbol, apply) ∈ entries ∧ last back right ∧
      Application.foldLeft left steps = apply first right := by
  induction applied generalizing others left with
  | last present ends => exact ⟨_, _, _, _, _, _, rfl, part, present, ends, rfl⟩
  | more present next _ ih =>
      obtain ⟨front, back, symbol, apply, first, right, split, partNext, presentNext, ends,
        folded⟩ := ih (.more part present next)
      exact ⟨front, back, symbol, apply, first, right, by simp [← split], partNext, presentNext,
        ends, folded⟩

end Category
end Predictive
