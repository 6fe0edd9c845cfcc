import Predictive.Proofs.Symbols

/-!
# How a level reads its words

The parser of a level reads an operand, and then the chain of applications that the next symbol
calls for. What comes behind a word has a say: a chain goes on as long as an operator of its
associativity follows, and an operand as long as an operator behind it does. The probes for
ambiguous operators refuse whatever comes, so they never change what is read.
-/

namespace Predictive

open Category (Affix Operand Chain Steps)

/-- The level of some operators that are written as symbols, around a term. -/
def signLevel {σ υ κ α β : Type}
    (symbolOf : κ → Parser σ υ β)
    (term : Parser σ υ α)
    (signs : List (Sign κ α)) :
    Level σ υ α :=
  Level.ofOperators term (signs.map (Sign.operator symbolOf))

namespace Level

variable {σ υ κ α β : Type} {view : View σ υ κ}
variable {symbolOf : κ → Parser σ υ β} {term : Parser σ υ α} {signs : List (Sign κ α)}

/-! ## The parts of a level -/

/-- The operators between operands are those of the signs for it. -/
theorem infixes_signLevel (assoc : Assoc) :
    (signLevel symbolOf term signs).infixes assoc =
      Parser.oneSymbol symbolOf (signs.filterMap (Sign.between? assoc)) := by
  unfold signLevel ofOperators Parser.oneSymbol
  dsimp only
  rw [Sign.filterMap_betweenSymbol?]

/-- Accept one of some symbols, with the function given for it, or else nothing. -/
def affix (symbolOf : κ → Parser σ υ β) (entries : List (κ × (α → α))) : Parser σ υ (α → α) :=
  ((Parser.oneSymbol symbolOf entries).label "").orElse (Parser.pure id)

/-- An operand is a term with affixes on both sides. -/
theorem operand_signLevel :
    (signLevel symbolOf term signs).operand =
      (((affix symbolOf (signs.filterMap Sign.before?)).pair term).pair
        (affix symbolOf (signs.filterMap Sign.behind?))).map fun ((f, value), g) =>
          g (f value) := by
  unfold signLevel ofOperators affix Parser.oneSymbol
  dsimp only
  rw [Sign.filterMap_beforeSymbol?, Sign.filterMap_behindSymbol?]

/-- All symbols of the level are recognized. -/
def Recognized (view : View σ υ κ) (symbolOf : κ → Parser σ υ β) (signs : List (Sign κ α)) : Prop :=
  ∀ sign ∈ signs, Recognizes view symbolOf sign.symbol

/-- Signs in front are recognized as all signs are. -/
theorem Recognized.before
    (recognized : Recognized view symbolOf signs) :
    ∀ entry ∈ signs.filterMap Sign.before?, Recognizes view symbolOf entry.1 := by
  rintro ⟨symbol, apply⟩ present
  exact recognized (.before symbol apply) (by simpa using present)

/-- Signs behind are recognized as all signs are. -/
theorem Recognized.behind
    (recognized : Recognized view symbolOf signs) :
    ∀ entry ∈ signs.filterMap Sign.behind?, Recognizes view symbolOf entry.1 := by
  rintro ⟨symbol, apply⟩ present
  exact recognized (.behind symbol apply) (by simpa using present)

/-- Signs between operands are recognized as all signs are. -/
theorem Recognized.between
    (recognized : Recognized view symbolOf signs)
    {assoc : Assoc} :
    ∀ entry ∈ signs.filterMap (Sign.between? assoc), Recognizes view symbolOf entry.1 := by
  rintro ⟨symbol, apply⟩ present
  exact recognized (.between assoc symbol apply) (by simpa using present)

/-! ## Operands -/

/-- An affix that is missing is noticed by the symbol that comes instead. -/
theorem affix_reads
    {entries : List (κ × (α → α))}
    {word rest : List κ}
    {f : α → α}
    (recognizes : ∀ entry ∈ entries, Recognizes view symbolOf entry.1)
    (nodup : (entries.map Prod.fst).Nodup)
    (derived : Affix entries word f)
    (outside : word = [] → StartsOutside (entries.map Prod.fst) rest) :
    (affix symbolOf entries).Reads view word f rest := by
  cases derived with
  | none =>
      have refuses := Parser.oneSymbol_refuses recognizes (outside rfl)
      exact (refuses.labels [""]).orElse_reads (Parser.pure_reads id)
  | one present =>
      have reads := Parser.oneSymbol_reads recognizes nodup present rest
      exact (reads.labels [""]).orElse _

/-- An operand is read if its tighter word is, which must not start with a symbol that is taken
for an operator in front of it. -/
theorem operand_reads
    {front core back rest : List κ}
    {f g : α → α}
    {value : α}
    (recognized : Recognized view symbolOf signs)
    (apart : Sign.Apart signs)
    (frontAffix : Affix (signs.filterMap Sign.before?) front f)
    (coreStarts : StartsOutside (signs.filterMap Sign.leading?) (core ++ back ++ rest))
    (coreReads : term.Reads view core value (back ++ rest))
    (backAffix : Affix (signs.filterMap Sign.behind?) back g)
    (restStarts : StartsOutside (Sign.behindSymbols signs) rest) :
    (signLevel symbolOf term signs).operand.Reads view (front ++ core ++ back) (g (f value))
      rest := by
  have frontNodup : ((signs.filterMap Sign.before?).map Prod.fst).Nodup := by
    rw [Sign.map_fst_before?]
    exact apart.leading_nodup
  have backNodup : ((signs.filterMap Sign.behind?).map Prod.fst).Nodup :=
    apart.trailing_nodup.sublist (Sign.behindSymbols_sublist signs)
  have frontReads : (affix symbolOf (signs.filterMap Sign.before?)).Reads view front f
      (core ++ (back ++ rest)) := by
    refine affix_reads recognized.before frontNodup frontAffix fun _ => ?_
    rw [Sign.map_fst_before?, ← List.append_assoc]
    exact coreStarts
  have backReads : (affix symbolOf (signs.filterMap Sign.behind?)).Reads view back g rest :=
    affix_reads recognized.behind backNodup backAffix fun _ => restStarts
  rw [operand_signLevel]
  exact ((frontReads.zipWith coreReads Prod.mk).zipWith backReads Prod.mk).map _

/-! ## Chains -/

section
variable {symbols : List κ}
variable (term) (recognized : Recognized view symbolOf signs)
include recognized

/-- What starts with none of the symbols is refused by all operators. -/
theorem infixes_refuse
    {assoc : Assoc}
    (outside : StartsOutside (Sign.betweenSymbols signs assoc) symbols) :
    ((signLevel symbolOf term signs).infixes assoc).Refuses view symbols := by
  rw [infixes_signLevel]
  exact Parser.oneSymbol_refuses recognized.between outside

/-- What starts with none of the symbols is refused as an application. -/
theorem application_refuses
    {assoc : Assoc}
    (outside : StartsOutside (Sign.betweenSymbols signs assoc) symbols) :
    ((signLevel symbolOf term signs).application assoc).Refuses view symbols :=
  (infixes_refuse term recognized outside).zipWith Prod.mk

variable (apart : Sign.Apart signs)
include apart

/-- An operator is read by its symbol, as no operator before it has the same. -/
theorem infixes_read
    {assoc : Assoc}
    {symbol : κ}
    {apply : α → α → α}
    (present : (symbol, apply) ∈ signs.filterMap (Sign.between? assoc))
    (rest : List κ) :
    ((signLevel symbolOf term signs).infixes assoc).Reads view [symbol] apply rest := by
  rw [infixes_signLevel]
  have nodup : (Sign.betweenSymbols signs assoc).Nodup :=
    apart.trailing_nodup.sublist (Sign.betweenSymbols_sublist signs assoc)
  exact Parser.oneSymbol_reads recognized.between nodup present rest

/-- A probe for an ambiguous operator refuses whatever comes, be it such an operator or not. -/
theorem ambiguous_refuses (assoc : Assoc) (symbols : List κ) :
    ((signLevel symbolOf term signs).ambiguous assoc).Refuses view symbols := by
  refine Parser.attempt_refuses fun state viewed => ?_
  by_cases outside : StartsOutside (Sign.betweenSymbols signs assoc) symbols
  · obtain ⟨error, failed⟩ := infixes_refuse term recognized outside viewed
    exact ⟨false, error, Parser.run_zipWith_of_failed failed _ _⟩
  · cases symbols with
    | nil => exact absurd (startsOutside_nil _) outside
    | cons symbol others =>
        rw [startsOutside_cons_iff, not_not] at outside
        obtain ⟨⟨_, apply⟩, present, rfl⟩ := List.mem_map.mp outside
        obtain ⟨next, earlier, ran, -⟩ :=
          infixes_read term recognized apart present others viewed
        exact ⟨true, _, Parser.run_zipWith_of_ok ran _ _⟩

/-- The end of a chain is found without a look at what comes behind it. -/
theorem probes_read (first second : Assoc) (value : α) (rest : List κ) :
    ((((signLevel symbolOf term signs).ambiguous first).orElse
      ((signLevel symbolOf term signs).ambiguous second)).orElse
        (Parser.pure value)).Reads view [] value rest := by
  have refuse := (ambiguous_refuses term recognized apart first rest).orElse
    (ambiguous_refuses term recognized apart second rest)
  exact refuse.orElse_reads (Parser.pure_reads value)

section
variable {τ : Type} [TokenStream σ τ]

/-- A chain is refused where none of its operators comes, whatever its values are made of. -/
theorem chain_refuses
    {assoc : Assoc}
    (outside : StartsOutside (Sign.betweenSymbols signs assoc) symbols)
    (combine : Application α → List (Application α) → α)
    (ended : α → Parser σ υ α)
    (first second : Assoc) :
    ((((((signLevel symbolOf term signs).application assoc).zipWith
      ((signLevel symbolOf term signs).application assoc).many combine).bind ended).orElse
        ((signLevel symbolOf term signs).ambiguous first)).orElse
          ((signLevel symbolOf term signs).ambiguous second)).Refuses view symbols := by
  have chain : ((signLevel symbolOf term signs).application assoc).Refuses view symbols :=
    application_refuses term recognized outside
  refine Parser.Refuses.orElse (Parser.Refuses.orElse ?_ ?_) ?_
  · exact (chain.zipWith combine).bind
  · exact ambiguous_refuses term recognized apart first symbols
  · exact ambiguous_refuses term recognized apart second symbols

/-- What starts with none of the symbols is no chain to the right. -/
theorem rightChain_refuses
    (first : α)
    (outside : StartsOutside (Sign.betweenSymbols signs .right) symbols) :
    ((signLevel symbolOf term signs).rightChain first).Refuses view symbols :=
  chain_refuses term recognized apart outside _ _ .left .non

/-- What starts with none of the symbols is no chain to the left. -/
theorem leftChain_refuses
    (first : α)
    (outside : StartsOutside (Sign.betweenSymbols signs .left) symbols) :
    ((signLevel symbolOf term signs).leftChain first).Refuses view symbols :=
  chain_refuses term recognized apart outside _ _ .right .non

end

end

/-! ## Words of a level -/

/-- The operands of a chain are read in front of its operators, and the last one in front of the
rest. -/
structure ReadsOperands
    (view : View σ υ κ)
    (level : Level σ υ α)
    (signs : List (Sign κ α))
    (operand last : Category κ α)
    (rest : List κ) : Prop where
  inside : ∀ ⦃word value assoc symbol others⦄, operand word value →
    symbol ∈ Sign.betweenSymbols signs assoc →
      level.operand.Reads view word value (symbol :: others)
  atEnd : ∀ ⦃word value⦄, last word value → level.operand.Reads view word value rest

variable {operand last : Category κ α} {rest : List κ}

/-- Steps are the rounds of a repetition of applications. -/
theorem Steps.rounds
    {assoc : Assoc}
    {word : List κ}
    {steps : List (Application α)}
    (recognized : Recognized view symbolOf signs)
    (apart : Sign.Apart signs)
    (operands : ReadsOperands view (signLevel symbolOf term signs) signs operand last rest)
    (applied : Steps (signs.filterMap (Sign.between? assoc)) operand last word steps) :
    Parser.Rounds view ((signLevel symbolOf term signs).application assoc) word steps rest := by
  induction applied with
  | last present ends =>
      rename_i symbol apply word value
      have reads := (infixes_read term recognized apart present (word ++ rest)).zipWith
        (operands.atEnd ends) Prod.mk
      have round := Parser.Rounds.cons (by simp) reads (.nil rest)
      rwa [List.append_nil] at round
  | more present next part ih =>
      rename_i symbol apply word others value steps
      obtain ⟨following, behind, rfl, isInfix⟩ := part.starts
      have reads := (infixes_read term recognized apart present
        (word ++ (following :: behind ++ rest))).zipWith (operands.inside next isInfix) Prod.mk
      exact .cons (by simp) reads ih

section
variable {τ : Type} [TokenStream σ τ]
variable
  (recognized : Recognized view symbolOf signs)
  (apart : Sign.Apart signs)
  (fits : view.Fits)
  (operands : ReadsOperands view (signLevel symbolOf term signs) signs operand last rest)
include recognized apart fits operands

/-- A chain is read up to where none of its operators comes, and then its steps are combined. -/
theorem chain_reads
    {assoc : Assoc}
    {word : List κ}
    {steps : List (Application α)}
    (applied : Steps (signs.filterMap (Sign.between? assoc)) operand last word steps)
    (ends : StartsOutside (Sign.betweenSymbols signs assoc) rest)
    (combine : List (Application α) → α)
    (first second : Assoc) :
    ((((((signLevel symbolOf term signs).application assoc).zipWith
      ((signLevel symbolOf term signs).application assoc).many fun step steps =>
        combine (step :: steps)).bind fun value =>
          (((signLevel symbolOf term signs).ambiguous first).orElse
            ((signLevel symbolOf term signs).ambiguous second)).orElse
              (Parser.pure value)).orElse
        ((signLevel symbolOf term signs).ambiguous first)).orElse
          ((signLevel symbolOf term signs).ambiguous second)).Reads view word
            (combine steps) rest := by
  have rounds := Steps.rounds recognized apart operands applied
  have refuses := application_refuses term recognized ends
  cases steps with
  | nil => cases applied
  | cons step steps =>
      have chain := rounds.zipWith_many refuses fits fun step steps => combine (step :: steps)
      refine Parser.Reads.orElse (Parser.Reads.orElse ?_ _) _
      exact chain.bindNil (probes_read term recognized apart first second _ rest)

/-- A chain to the right reads its steps and combines them from the right. -/
theorem rightChain_reads
    {word : List κ}
    {steps : List (Application α)}
    (applied : Steps (signs.filterMap (Sign.between? .right)) operand last word steps)
    (ends : StartsOutside (Sign.betweenSymbols signs .right) rest)
    (first : α) :
    ((signLevel symbolOf term signs).rightChain first).Reads view word
      (Application.foldRight first steps) rest :=
  chain_reads recognized apart fits operands applied ends (Application.foldRight first) .left .non

/-- A chain to the left reads its steps and combines them from the left. -/
theorem leftChain_reads
    {word : List κ}
    {steps : List (Application α)}
    (applied : Steps (signs.filterMap (Sign.between? .left)) operand last word steps)
    (ends : StartsOutside (Sign.betweenSymbols signs .left) rest)
    (first : α) :
    ((signLevel symbolOf term signs).leftChain first).Reads view word
      (Application.foldLeft first steps) rest :=
  chain_reads recognized apart fits operands applied ends (Application.foldLeft first) .right .non

omit fits in
/-- One operator that does not associate is read whatever comes behind its operand. -/
theorem nonChain_reads
    {symbol : κ}
    {apply : α → α → α}
    {word : List κ}
    {value : α}
    (present : (symbol, apply) ∈ signs.filterMap (Sign.between? .non))
    (ends : last word value)
    (first : α) :
    ((signLevel symbolOf term signs).nonChain first).Reads view (symbol :: word)
      (apply first value) rest := by
  have step := (infixes_read term recognized apart present (word ++ rest)).zipWith
    (operands.atEnd ends) Prod.mk
  have notChained := (ambiguous_refuses term recognized apart .right rest).orElse
    (ambiguous_refuses term recognized apart .left rest)
  have unambiguous := notChained.orElse (ambiguous_refuses term recognized apart .non rest)
  exact step.bindNil (unambiguous.orElse_reads (Parser.pure_reads (apply first value)))

/-- A chain is read if no operator of its associativity comes behind it. Operators of the level
with another associativity may come: they are left where they are. -/
theorem parser_reads_chain
    {assoc : Assoc}
    {word : List κ}
    {value : α}
    (applied : Chain signs operand last assoc word value)
    (ends : assoc ≠ .non → StartsOutside (Sign.betweenSymbols signs assoc) rest) :
    (signLevel symbolOf term signs).parser.Reads view word value rest := by
  cases applied with
  | right first present part =>
      obtain ⟨steps, taken, folded⟩ := part.steps present
      have isInfix : _ ∈ Sign.betweenSymbols signs .right := List.mem_map_of_mem present
      have chain := rightChain_reads recognized apart fits operands taken (ends (by decide))
      rw [← folded]
      rename_i left _
      have orLeft := (chain left).orElse ((signLevel symbolOf term signs).leftChain left)
      have orNon := orLeft.orElse ((signLevel symbolOf term signs).nonChain left)
      exact (operands.inside first isInfix).bind ((orNon.orElse _).labels _)
  | left part present ends' =>
      obtain ⟨front, first, back, steps, split, starts, taken, folded⟩ :=
        part.steps (.last present ends')
      obtain ⟨symbol, others, rfl, isInfix⟩ := taken.starts
      have chain := leftChain_reads recognized apart fits operands taken (ends (by decide)) first
      have notRight : StartsOutside (Sign.betweenSymbols signs .right)
          (symbol :: others ++ rest) := by
        rw [List.cons_append, startsOutside_cons_iff]
        exact fun isRight => absurd (apart.assoc_eq isRight isInfix) (by decide)
      have level := (rightChain_refuses term recognized apart first notRight).orElse_reads chain
      rw [folded] at level
      rw [split]
      have orNon := level.orElse ((signLevel symbolOf term signs).nonChain first)
      exact (operands.inside starts isInfix).bind ((orNon.orElse _).labels _)
  | non first present ends' =>
      rename_i front others symbol apply left right
      have isInfix : symbol ∈ Sign.betweenSymbols signs .non := List.mem_map_of_mem present
      have outside (assoc : Assoc) (different : assoc ≠ .non) :
          StartsOutside (Sign.betweenSymbols signs assoc) (symbol :: others ++ rest) := by
        rw [List.cons_append, startsOutside_cons_iff]
        exact fun isOther => absurd (apart.assoc_eq isOther isInfix) different
      have chain := nonChain_reads recognized apart operands present ends' left
      have rightRefuses := rightChain_refuses term recognized apart left
        (outside .right (by decide))
      have refuse := rightRefuses.orElse
        (leftChain_refuses term recognized apart left (outside .left (by decide)))
      have orAlone := (refuse.orElse_reads chain).orElse (Parser.pure left)
      exact (operands.inside first isInfix).bind (orAlone.labels _)

omit fits in
/-- An operand alone is read if no infix operator of the level comes behind it. -/
theorem parser_reads_alone
    {word : List κ}
    {value : α}
    (ends : last word value)
    (outside : ∀ assoc, StartsOutside (Sign.betweenSymbols signs assoc) rest) :
    (signLevel symbolOf term signs).parser.Reads view word value rest := by
  have nonRefuses : ((signLevel symbolOf term signs).nonChain value).Refuses view rest :=
    (application_refuses term recognized (outside .non)).bind
  have noChain := (rightChain_refuses term recognized apart value (outside .right)).orElse
    (leftChain_refuses term recognized apart value (outside .left))
  have noOperator := noChain.orElse nonRefuses
  have alone := noOperator.orElse_reads (Parser.pure_reads value)
  exact (operands.atEnd ends).bindNil (alone.labels _)

end

end Level
end Predictive
