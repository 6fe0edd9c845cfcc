import Predictive.Proofs.Grammar
import Predictive.Proofs.Reading

/-!
# Telling symbols apart

A level finds its way by the next symbol, so a symbol that stands for two operators would make
it take the wrong one. The operators of a level are apart if the symbols in front of operands
are distinct, and those after operands too; a symbol may occur on both sides. A choice between
parsers of distinct symbols reads each of them and refuses all others.
-/

namespace Predictive

/-- The first of the symbols, if there is any, is not among those that are excluded. -/
def StartsOutside {κ : Type} (excluded symbols : List κ) : Prop :=
  ∀ symbol ∈ symbols.head?, symbol ∉ excluded

/-- The end of the input starts with no symbol. -/
theorem startsOutside_nil {κ : Type} (excluded : List κ) : StartsOutside excluded [] := by
  simp [StartsOutside]

@[simp] theorem startsOutside_cons_iff
    {κ : Type}
    (excluded : List κ)
    (symbol : κ)
    (others : List κ) :
    StartsOutside excluded (symbol :: others) ↔ symbol ∉ excluded := by
  simp [StartsOutside]

/-- Excluding fewer symbols is less of a condition. -/
theorem StartsOutside.mono
    {κ : Type}
    {excluded fewer symbols : List κ}
    (outside : StartsOutside excluded symbols)
    (subset : fewer ⊆ excluded) :
    StartsOutside fewer symbols :=
  fun symbol first present => outside symbol first (subset present)

/-- Elements that yield the same result are the same, if no result occurs twice. -/
theorem eq_of_nodup_filterMap
    {β γ : Type}
    {f : β → Option γ}
    {list : List β}
    (nodup : (list.filterMap f).Nodup)
    {first second : β}
    {result : γ}
    (firstPresent : first ∈ list)
    (secondPresent : second ∈ list)
    (firstYields : f first = some result)
    (secondYields : f second = some result) :
    first = second := by
  induction list with
  | nil => contradiction
  | cons head list ih =>
      have tail : (list.filterMap f).Nodup := by
        refine nodup.sublist ?_
        rw [List.filterMap_cons]
        split
        · exact List.Sublist.refl _
        · exact List.sublist_cons_self _ _
      have alone (yields : f head = some result) : result ∉ list.filterMap f := by
        rw [List.filterMap_cons_some yields] at nodup
        exact (List.nodup_cons.mp nodup).1
      rcases List.mem_cons.mp firstPresent with rfl | firstInside
      · rcases List.mem_cons.mp secondPresent with rfl | secondInside
        · rfl
        · exact absurd (List.mem_filterMap.mpr ⟨second, secondInside, secondYields⟩)
            (alone firstYields)
      · rcases List.mem_cons.mp secondPresent with rfl | secondInside
        · exact absurd (List.mem_filterMap.mpr ⟨first, firstInside, firstYields⟩)
            (alone secondYields)
        · exact ih tail firstInside secondInside

namespace Sign

variable {κ α : Type}

/-- The operators of a level are told apart by their symbols: those in front of operands, and
those after operands. -/
structure Apart (signs : List (Sign κ α)) : Prop where
  leading_nodup : (signs.filterMap leading?).Nodup
  trailing_nodup : (signs.filterMap trailing?).Nodup

/-- The symbols of the infix operators of a certain associativity. -/
def betweenSymbols (signs : List (Sign κ α)) (assoc : Assoc) : List κ :=
  (signs.filterMap (between? assoc)).map Prod.fst

/-- The symbols of the operators behind an operand. -/
def behindSymbols (signs : List (Sign κ α)) : List κ :=
  (signs.filterMap behind?).map Prod.fst

/-- The symbols of the signs in front are in the order of the signs. -/
theorem map_fst_before? (signs : List (Sign κ α)) :
    (signs.filterMap before?).map Prod.fst = signs.filterMap leading? := by
  rw [List.map_filterMap]
  refine congrArg (List.filterMap · signs) (funext fun sign => ?_)
  cases sign <;> rfl

/-- The symbols between operands are among those behind an operand. -/
theorem betweenSymbols_sublist (signs : List (Sign κ α)) (assoc : Assoc) :
    (betweenSymbols signs assoc).Sublist (signs.filterMap trailing?) := by
  unfold betweenSymbols
  induction signs with
  | nil => exact List.Sublist.refl _
  | cons sign signs ih =>
      cases sign with
      | between found symbol apply =>
          rw [List.filterMap_cons_some (rfl : trailing? (between found symbol apply) = some symbol)]
          by_cases same : found = assoc
          · rw [List.filterMap_cons_some (between?_eq_some_iff.mpr (by rw [same]))]
            exact ih.cons_cons symbol
          · rw [List.filterMap_cons_none (by simp [between?, same])]
            exact ih.cons symbol
      | before symbol apply => exact ih
      | behind symbol apply => exact ih.cons symbol

/-- The symbols behind operands are among those behind an operand. -/
theorem behindSymbols_sublist (signs : List (Sign κ α)) :
    (behindSymbols signs).Sublist (signs.filterMap trailing?) := by
  unfold behindSymbols
  induction signs with
  | nil => exact List.Sublist.refl _
  | cons sign signs ih =>
      cases sign with
      | between found symbol apply => exact ih.cons symbol
      | before symbol apply => exact ih
      | behind symbol apply => exact ih.cons_cons symbol

variable {signs : List (Sign κ α)}

theorem mem_betweenSymbols_iff {assoc : Assoc} {symbol : κ} :
    symbol ∈ betweenSymbols signs assoc ↔ ∃ apply, between assoc symbol apply ∈ signs := by
  simp [betweenSymbols]

theorem mem_behindSymbols_iff {symbol : κ} :
    symbol ∈ behindSymbols signs ↔ ∃ apply, behind symbol apply ∈ signs := by
  simp [behindSymbols]

/-- No symbol stands for infix operators of two associativities. -/
theorem Apart.assoc_eq
    (apart : Apart signs)
    {symbol : κ}
    {first second : Assoc}
    (firstPresent : symbol ∈ betweenSymbols signs first)
    (secondPresent : symbol ∈ betweenSymbols signs second) :
    first = second := by
  obtain ⟨f, isFirst⟩ := mem_betweenSymbols_iff.mp firstPresent
  obtain ⟨g, isSecond⟩ := mem_betweenSymbols_iff.mp secondPresent
  have same := eq_of_nodup_filterMap apart.trailing_nodup isFirst isSecond rfl rfl
  exact (between.inj same).1

/-- No symbol stands for an infix operator and for one behind an operand. -/
theorem Apart.between_not_behind
    (apart : Apart signs)
    {symbol : κ}
    {assoc : Assoc}
    (present : symbol ∈ betweenSymbols signs assoc) :
    symbol ∉ behindSymbols signs := by
  intro behindPresent
  obtain ⟨f, isBetween⟩ := mem_betweenSymbols_iff.mp present
  obtain ⟨g, isBehind⟩ := mem_behindSymbols_iff.mp behindPresent
  have same := eq_of_nodup_filterMap apart.trailing_nodup isBetween isBehind rfl rfl
  contradiction

end Sign

/-! ## Symbols -/

/-- The parser of a symbol takes that symbol alone and refuses all others. -/
structure Recognizes {σ υ κ β : Type}
    (view : View σ υ κ)
    (symbolOf : κ → Parser σ υ β)
    (symbol : κ) : Prop where
  reads : ∀ rest, ∃ value, (symbolOf symbol).Reads view [symbol] value rest
  refuses : ∀ symbols, StartsOutside [symbol] symbols → (symbolOf symbol).Refuses view symbols

namespace Parser

variable {σ υ κ α β γ : Type} {view : View σ υ κ} {symbolOf : κ → Parser σ υ β}

/-- Accept a symbol, with the value given for it. -/
def symbolWith (symbolOf : κ → Parser σ υ β) (entry : κ × γ) : Parser σ υ γ :=
  (symbolOf entry.1).map fun _ => entry.2

/-- Accept one of some symbols, each with the value given for it. -/
def oneSymbol (symbolOf : κ → Parser σ υ β) (entries : List (κ × γ)) : Parser σ υ γ :=
  Parser.choice (entries.map (symbolWith symbolOf))

/-- What starts with none of the symbols is refused by all of them. -/
theorem oneSymbol_refuses
    {entries : List (κ × γ)}
    {symbols : List κ}
    (recognizes : ∀ entry ∈ entries, Recognizes view symbolOf entry.1)
    (outside : StartsOutside (entries.map Prod.fst) symbols) :
    (oneSymbol symbolOf entries).Refuses view symbols := by
  refine choice_refuses fun parser present => ?_
  obtain ⟨entry, inside, rfl⟩ := List.mem_map.mp present
  refine ((recognizes entry inside).refuses symbols (outside.mono ?_)).map _
  simpa using ⟨_, inside⟩

/-- The entry of the symbol that comes is read, as no entry before it has the same symbol. -/
theorem oneSymbol_reads
    {entries : List (κ × γ)}
    {symbol : κ}
    {value : γ}
    (recognizes : ∀ entry ∈ entries, Recognizes view symbolOf entry.1)
    (nodup : (entries.map Prod.fst).Nodup)
    (present : (symbol, value) ∈ entries)
    (rest : List κ) :
    (oneSymbol symbolOf entries).Reads view [symbol] value rest := by
  obtain ⟨front, back, rfl⟩ := List.append_of_mem present
  obtain ⟨found, reads⟩ := (recognizes _ present).reads rest
  unfold oneSymbol
  rw [List.map_append, List.map_cons]
  refine (reads.map fun _ => value).choice fun other tried => ?_
  obtain ⟨entry, inFront, rfl⟩ := List.mem_map.mp tried
  have different : symbol ≠ entry.1 := by
    rintro rfl
    rw [List.map_append, List.map_cons, List.nodup_append] at nodup
    exact nodup.2.2 _ (List.mem_map_of_mem inFront) _ List.mem_cons_self rfl
  have inside : entry ∈ front ++ (symbol, value) :: back := List.mem_append_left _ inFront
  refine ((recognizes entry inside).refuses _ ?_).map _
  simpa using different

end Parser

/-! ## The symbols of a level -/

namespace Sign

variable {σ υ κ α β : Type} (symbolOf : κ → Parser σ υ β) (signs : List (Sign κ α))

/-- The operators between operands are made of the signs for it. -/
theorem filterMap_betweenSymbol? (assoc : Assoc) :
    (signs.map (operator symbolOf)).filterMap (Operator.betweenSymbol? assoc) =
      (signs.filterMap (between? assoc)).map (Parser.symbolWith symbolOf) := by
  rw [List.filterMap_map, List.map_filterMap]
  refine congrArg (List.filterMap · signs) (funext fun sign => ?_)
  cases sign with
  | between found symbol apply =>
      by_cases same : found = assoc
      · simp [operator, Operator.binary, Operator.betweenSymbol?, between?, same,
          Parser.symbolWith]
      · simp [operator, Operator.binary, Operator.betweenSymbol?, between?, same]
  | before symbol apply => rfl
  | behind symbol apply => rfl

/-- The operators in front are made of the signs in front. -/
theorem filterMap_beforeSymbol? :
    (signs.map (operator symbolOf)).filterMap Operator.beforeSymbol? =
      (signs.filterMap before?).map (Parser.symbolWith symbolOf) := by
  rw [List.filterMap_map, List.map_filterMap]
  refine congrArg (List.filterMap · signs) (funext fun sign => ?_)
  cases sign <;> rfl

/-- The operators behind are made of the signs behind. -/
theorem filterMap_behindSymbol? :
    (signs.map (operator symbolOf)).filterMap Operator.behindSymbol? =
      (signs.filterMap behind?).map (Parser.symbolWith symbolOf) := by
  rw [List.filterMap_map, List.map_filterMap]
  refine congrArg (List.filterMap · signs) (funext fun sign => ?_)
  cases sign <;> rfl

end Sign
end Predictive
