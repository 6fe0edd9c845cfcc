import Predictive.Proofs.LevelReading

/-!
# How a table reads its words

Each level of a table reads the words of its category, provided that the next symbol tells it
what to do: no operator in front of an operand may be mistaken for the first symbol of a
tighter word, and none after an operand for one by which a tighter word goes on. Both sets of
symbols grow from level to level.
-/

namespace Predictive

open Category (Operand)

section
variable {σ υ κ α : Type}

/-- The parser reads all words of a category. They start with one of certain symbols, and are
read wherever none of certain others follows. -/
structure ReadsWords
    (view : View σ υ κ)
    (parser : Parser σ υ α)
    (category : Category κ α)
    (leads : κ → Prop)
    (trails : List κ) : Prop where
  starts : ∀ ⦃word value⦄, category word value →
    ∃ symbol others, word = symbol :: others ∧ leads symbol
  reads : ∀ ⦃word value rest⦄, category word value → StartsOutside trails rest →
    parser.Reads view word value rest

end

namespace Sign

variable {κ α : Type}

/-- The operators of a level are apart from each other and from the symbols of tighter words. -/
structure ApartFrom (leads : κ → Prop) (trails : List κ) (signs : List (Sign κ α)) : Prop where
  apart : Apart signs
  leading : ∀ symbol ∈ signs.filterMap leading?, ¬ leads symbol
  trailing : ∀ symbol ∈ signs.filterMap trailing?, symbol ∉ trails

end Sign

namespace ReadsWords

variable {σ τ υ κ α β : Type} [TokenStream σ τ] {view : View σ υ κ}
variable {symbolOf : κ → Parser σ υ β} {term : Parser σ υ α} {category : Category κ α}
variable {leads : κ → Prop} {trails : List κ} {signs : List (Sign κ α)}

section
variable
  (tighter : ReadsWords view term category leads trails)
  (recognized : Level.Recognized view symbolOf signs)
  (apart : Sign.ApartFrom leads trails signs)
include tighter recognized apart

omit [TokenStream σ τ]

/-- The operands of a level are read, unless an operator follows that belongs to them. -/
theorem operand
    {word rest : List κ}
    {value : α}
    (derived : Operand signs category word value)
    (restStarts : StartsOutside (Sign.behindSymbols signs) rest)
    (ends : StartsOutside trails rest) :
    (signLevel symbolOf term signs).operand.Reads view word value rest := by
  cases derived with
  | intro frontAffix inner backAffix =>
      obtain ⟨symbol, others, rfl, isLeading⟩ := tighter.starts inner
      refine Level.operand_reads recognized apart.apart frontAffix ?_ ?_ backAffix restStarts
      · rw [List.cons_append, List.cons_append, startsOutside_cons_iff]
        exact fun present => apart.leading symbol present isLeading
      · refine tighter.reads inner ?_
        cases backAffix with
        | none => exact ends
        | one present =>
            rw [List.cons_append, startsOutside_cons_iff]
            refine apart.trailing _ ((Sign.behindSymbols_sublist signs).subset ?_)
            exact List.mem_map_of_mem present

/-- In front of an infix operator of the level, operands are always read. -/
theorem operand_inside
    {word others : List κ}
    {value : α}
    {assoc : Assoc}
    {symbol : κ}
    (derived : Operand signs category word value)
    (present : symbol ∈ Sign.betweenSymbols signs assoc) :
    (signLevel symbolOf term signs).operand.Reads view word value (symbol :: others) := by
  refine tighter.operand recognized apart derived ?_ ?_
  · rw [startsOutside_cons_iff]
    exact apart.apart.between_not_behind present
  · rw [startsOutside_cons_iff]
    exact apart.trailing symbol ((Sign.betweenSymbols_sublist signs assoc).subset present)

end

theorem starts_operand
    (tighter : ReadsWords view term category leads trails)
    ⦃word : List κ⦄
    ⦃value : α⦄
    (derived : Operand signs category word value) :
    ∃ symbol others, word = symbol :: others ∧
      (leads symbol ∨ symbol ∈ signs.filterMap Sign.leading?) := by
  cases derived with
  | intro frontAffix inner backAffix =>
      obtain ⟨symbol, others, rfl, isLeading⟩ := tighter.starts inner
      cases frontAffix with
      | none => exact ⟨symbol, _, rfl, .inl isLeading⟩
      | one present =>
          refine ⟨_, _, rfl, .inr ?_⟩
          rw [← Sign.map_fst_before?]
          exact List.mem_map_of_mem present

/-- A word of a level starts as its first operand does. -/
theorem starts_level
    {starting : κ → Prop}
    {operand last : Category κ α}
    (operandStarts : ∀ ⦃word value⦄, operand word value →
      ∃ symbol others, word = symbol :: others ∧ starting symbol)
    (lastStarts : ∀ ⦃word value⦄, last word value →
      ∃ symbol others, word = symbol :: others ∧ starting symbol)
    {word : List κ}
    {value : α}
    (derived : Category.Level signs operand last word value) :
    ∃ symbol others, word = symbol :: others ∧ starting symbol := by
  cases derived with
  | alone ends => exact lastStarts ends
  | chain applied =>
      cases applied with
      | right first present part =>
          obtain ⟨symbol, others, rfl, starting⟩ := operandStarts first
          exact ⟨symbol, _, rfl, starting⟩
      | non first present ends =>
          obtain ⟨symbol, others, rfl, starting⟩ := operandStarts first
          exact ⟨symbol, _, rfl, starting⟩
      | left part present ends =>
          obtain ⟨front, first, back, steps, split, firstDerived, -, -⟩ :=
            part.steps (.last present ends)
          obtain ⟨symbol, others, rfl, starting⟩ := operandStarts firstDerived
          exact ⟨symbol, _, split, starting⟩

/-- A level reads its words if the tighter levels read theirs. -/
theorem level
    (tighter : ReadsWords view term category leads trails)
    (recognized : Level.Recognized view symbolOf signs)
    (apart : Sign.ApartFrom leads trails signs)
    (fits : view.Fits) :
    ReadsWords view (signLevel symbolOf term signs).parser (Category.level signs category)
      (fun symbol => leads symbol ∨ symbol ∈ signs.filterMap Sign.leading?)
      (trails ++ signs.filterMap Sign.trailing?) := by
  refine ⟨fun word value derived => ?_, fun word value rest derived outside => ?_⟩
  · exact starts_level tighter.starts_operand tighter.starts_operand derived
  · have notBehind : StartsOutside (Sign.behindSymbols signs) rest :=
      outside.mono (List.subset_append_of_subset_right _ (Sign.behindSymbols_sublist signs).subset)
    have notBetween (assoc : Assoc) : StartsOutside (Sign.betweenSymbols signs assoc) rest :=
      outside.mono
        (List.subset_append_of_subset_right _ (Sign.betweenSymbols_sublist signs assoc).subset)
    have ends : StartsOutside trails rest := outside.mono (List.subset_append_left _ _)
    have operands : Level.ReadsOperands view (signLevel symbolOf term signs) signs
        (Operand signs category) (Operand signs category) rest :=
      ⟨fun _ _ _ _ _ => tighter.operand_inside recognized apart,
        fun _ _ derived => tighter.operand recognized apart derived notBehind ends⟩
    cases derived with
    | alone ends => exact Level.parser_reads_alone recognized apart.apart operands ends notBetween
    | chain applied =>
        exact Level.parser_reads_chain recognized apart.apart fits operands applied
          fun _ => notBetween _

end ReadsWords

namespace SignTable

variable {σ τ υ κ α β : Type} [TokenStream σ τ] {view : View σ υ κ}
variable {symbolOf : κ → Parser σ υ β}

/-- The levels of the table are apart from the tighter ones, one after the other. -/
def ApartFrom (leads : κ → Prop) (trails : List κ) : SignTable κ α → Prop
  | [] => True
  | signs :: table =>
      Sign.ApartFrom leads trails signs ∧
        ApartFrom (fun symbol => leads symbol ∨ symbol ∈ signs.filterMap Sign.leading?)
          (trails ++ signs.filterMap Sign.trailing?) table

/-- All symbols of the table are recognized. -/
def Recognized
    (view : View σ υ κ)
    (symbolOf : κ → Parser σ υ β)
    (table : SignTable κ α) : Prop :=
  ∀ signs ∈ table, Level.Recognized view symbolOf signs

/-- The symbols that start a word of the table. -/
def Leads (leads : κ → Prop) (table : SignTable κ α) (symbol : κ) : Prop :=
  leads symbol ∨ symbol ∈ table.flatten.filterMap Sign.leading?

/-- The symbols by which a word of the table may go on. -/
def trailing (trails : List κ) (table : SignTable κ α) : List κ :=
  trails ++ table.flatten.filterMap Sign.trailing?

theorem leads_nil (leads : κ → Prop) : Leads leads ([] : SignTable κ α) = leads := by
  funext symbol
  simp [Leads]

theorem leads_cons (leads : κ → Prop) (signs : List (Sign κ α)) (table : SignTable κ α) :
    Leads leads (signs :: table) =
      Leads (fun symbol => leads symbol ∨ symbol ∈ signs.filterMap Sign.leading?) table := by
  funext symbol
  simp [Leads, or_assoc]

theorem trailing_nil (trails : List κ) : trailing trails ([] : SignTable κ α) = trails :=
  List.append_nil trails

theorem trailing_cons (trails : List κ) (signs : List (Sign κ α)) (table : SignTable κ α) :
    trailing trails (signs :: table) =
      trailing (trails ++ signs.filterMap Sign.trailing?) table := by
  simp [trailing]

/-- The parser of a table reads the words of its grammar. -/
theorem readsWords
    {table : SignTable κ α}
    {term : Parser σ υ α}
    {category : Category κ α}
    {leads : κ → Prop}
    {trails : List κ}
    (tighter : ReadsWords view term category leads trails)
    (recognized : Recognized view symbolOf table)
    (apart : ApartFrom leads trails table)
    (fits : view.Fits) :
    ReadsWords view ((table.operators symbolOf).expression term) (table.expression category)
      (Leads leads table) (trailing trails table) := by
  induction table generalizing term category leads trails with
  | nil =>
      rw [leads_nil, trailing_nil]
      exact tighter
  | cons signs table ih =>
      obtain ⟨levelApart, tableApart⟩ := apart
      rw [leads_cons, trailing_cons]
      refine ih (tighter.level (recognized signs List.mem_cons_self) levelApart fits) ?_ tableApart
      exact fun others present => recognized others (List.mem_cons_of_mem signs present)

end SignTable
end Predictive
