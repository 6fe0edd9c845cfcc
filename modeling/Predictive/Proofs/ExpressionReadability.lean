import Predictive.Proofs.ArithmeticPrinting
import Predictive.Proofs.LevelValues
import Predictive.Proofs.Numerals
import Predictive.Proofs.Words

/-!
# The written form of expressions

The written form of an expression shows its structure. A number or a name ends where no letter
follows, which is so in front of a space, a bracket and the end; and an operator with one operand is
told from the same one with two by what follows the first operand. So the form in front of any such
rest determines the expression and the rest. It is needed that numbers have no sign and that names
have the shape of names, as in all expressions that are read from a source.
-/

namespace Predictive

/-! ## Expressions that are read -/

/-- A property that the steps of a fold keep is one of its result. -/
theorem holds_foldlM
    {α β : Type}
    {holds : β → Prop}
    {step : β → α → Option β}
    (keeps : ∀ {before item after}, holds before → step before item = some after → holds after)
    {items : List α}
    {first last : β}
    (start : holds first)
    (folded : items.foldlM step first = some last) :
    holds last := by
  induction items generalizing first with
  | nil => exact Option.some.inj folded ▸ start
  | cons item items ih =>
      obtain ⟨middle, stepped, others⟩ := Option.bind_eq_some_iff.mp folded
      exact ih (keeps start stepped) others

/-- Digits without a sign stand for natural numbers only. -/
theorem Digits.inRange?_nonneg
    {digits : Digits}
    {range : IntegerRange}
    {value : Int}
    (inside : digits.inRange? false range = some value) :
    0 ≤ value := by
  refine holds_foldlM (fun {total c next} natural stepped => ?_) (Int.le_refl 0) inside
  obtain ⟨scaled, fits, added⟩ := Option.bind_eq_some_iff.mp stepped
  obtain ⟨-, rfl⟩ := (range.fit?_eq_some_iff _ _).mp fits
  obtain ⟨-, rfl⟩ := (range.fit?_eq_some_iff _ _).mp added
  have scaledNatural := Int.mul_nonneg natural (Int.natCast_nonneg digits.base)
  exact Int.add_nonneg scaledNatural (Int.natCast_nonneg (digitValue c))

namespace Expr

open Category (valued)
open Predictive.Parser (primitive_lexical tagsSoundly_of_composed)

/-- A symbol has no value to speak of. -/
theorem symbol_takesOnly (text : String) :
    (language.symbol text).TakesOnly (valued fun _ => True) :=
  (tagsSoundly_of_composed (primitive_lexical.symbol language_related text)).takesOnly

/-- White space behind a parser has no value. -/
theorem lexeme_takesOnly
    {α : Type}
    {parser : Parser Text Unit α}
    {holds : α → Prop}
    (takes : parser.TakesOnly (valued holds)) :
    (language.lexeme parser).TakesOnly (valued holds) :=
  takes.zipWith (tagsSoundly_of_composed (primitive_lexical.whiteSpace language_related)).takesOnly
    fun _ _ _ _ inside _ => inside

/-- A natural number is not negative. -/
theorem naturalIn_takesOnly (range : IntegerRange) :
    (language.naturalIn range).TakesOnly (valued (0 ≤ ·)) := by
  have digits : (Language.naturalDigits : Parser Text Unit Digits).TakesOnly
      (valued fun _ => True) :=
    (tagsSoundly_of_composed primitive_lexical.naturalDigits).takesOnly
  refine .labels (lexeme_takesOnly (digits.bindValued fun digits _ => ?_)) _
  unfold Language.integerOf
  split
  · rename_i value inside
    exact Parser.pure_takesOnly (Digits.inRange?_nonneg inside)
  · exact Parser.failWith_takesOnly _ _ _

/-- An identifier is a name. -/
theorem identifier_takesOnly : language.identifier.TakesOnly (valued IsName) := by
  have others : language.identLetter.many.TakesOnly
      (valued fun cs => ∀ c ∈ cs, isNameLetter c = true) := by
    refine identLetter_takesChar.takesOnly.many (List.forall_mem_nil _) ?_
    rintro _ c more others ⟨_, -, isLetter⟩ all
    obtain ⟨rfl, goesOn⟩ := Option.guard_eq_some_iff.mp isLetter
    exact List.forall_mem_cons.mpr ⟨goesOn, all⟩
  have word : (language.identStart.zipWith language.identLetter.many
      fun c cs => String.ofList (c :: cs)).TakesOnly (valued IsName) := by
    refine identStart_takesChar.takesOnly.zipWith others ?_
    rintro _ c more cs ⟨_, -, isStart⟩ all
    obtain ⟨rfl, letter⟩ := Option.guard_eq_some_iff.mp isStart
    exact ⟨_, cs, String.toList_ofList, letter, all⟩
  refine lexeme_takesOnly (.attempt ((word.labels _).bindValued fun name isName => ?_))
  split
  · exact Parser.failWith_takesOnly _ _ _
  · exact Parser.pure_takesOnly isName

/-- The operators make printable expressions of printable ones. -/
theorem operators_keep (range : IntegerRange) :
    ∀ row ∈ operators, ∀ operator ∈ row, operator.Keeps (Printable range) := by
  have infixKeeps (operator : BinaryOperator) (assoc : Assoc) :
      (infixOperator operator assoc).Keeps (Printable range) :=
    (symbol_takesOnly _).map fun _ _ _ _ _ left right => ⟨left, right⟩
  have minusKeeps :
      (Operator.unaryBefore (language.symbol "-") neg).Keeps (Printable range) :=
    (symbol_takesOnly _).map fun _ _ _ _ operand => operand
  simp only [operators, List.forall_mem_cons, List.not_mem_nil, false_implies, implies_true,
    and_true]
  exact ⟨infixKeeps .pow .right, minusKeeps,
    ⟨infixKeeps .mul .left, infixKeeps .div .left, infixKeeps .rem .left⟩,
    infixKeeps .add .left, infixKeeps .sub .left⟩

/-- Whatever the range, what is parsed can be printed and read without bounds. -/
theorem expression_takesOnly (range : IntegerRange) :
    (expression range).TakesOnly (valued (Printable .unbounded)) := by
  refine OperatorTable.recursiveExpression_takesOnly (fun expr takes => ?_)
    (operators_keep .unbounded)
  have inBrackets : (language.parens expr).TakesOnly (valued (Printable .unbounded)) :=
    ((symbol_takesOnly _).zipWith takes fun _ _ _ _ _ inside => inside).zipWith
      (symbol_takesOnly _) fun _ _ _ _ inside _ => inside
  have number : ((language.naturalIn range).map int).TakesOnly (valued (Printable .unbounded)) :=
    (naturalIn_takesOnly range).map fun _ _ natural => ⟨natural, rfl⟩
  have name : (language.identifier.map var).TakesOnly (valued (Printable .unbounded)) :=
    identifier_takesOnly.map fun _ _ isName => isName
  exact ((inBrackets.orElse number).orElse name).labels _

/-- Only expressions with natural numbers and with names of the right shape are read. -/
theorem parse_printable
    {range : IntegerRange}
    {name source : String}
    {expr : Expr}
    (parsed : parse range name source = .ok (.ok expr)) :
    expr.Printable .unbounded := by
  obtain ⟨consumed, next, error, ran⟩ := Parser.parse_eq_ok_iff.mp parsed
  obtain ⟨_, found, behind, _, _, _, _, before, -, rfl, -, -⟩ := Parser.zipWith_yields_iff.mp ran
  obtain ⟨_, _, start, _, _, value, _, -, inner, rfl, -, -⟩ := Parser.zipWith_yields_iff.mp before
  obtain ⟨word, -, printable⟩ := expression_takesOnly range inner
  exact printable

/-! ## Unique readability -/

/-- A name starts with a letter and goes on with letters and digits. -/
theorem IsName.isWord {name : String} (isName : IsName name) :
    IsWord Unicode.isAlphabetic isNameLetter name.toList := by
  obtain ⟨first, others, split, letter, all⟩ := isName
  rw [split]
  exact ⟨letter, all⟩

/-- The character that may come first in the written form. -/
def Opens (c : Char) : Expr → Prop
  | int _ => c.isDigit = true
  | var _ => Unicode.isAlphabetic c = true
  | neg _ => c = '('
  | binary _ _ _ => c = '('

/-- Digits go on names. -/
theorem isNameLetter_of_isDigit {c : Char} (digit : c.isDigit = true) : isNameLetter c = true := by
  rw [isNameLetter, Unicode.isAlphanumeric_of_isAlphanum (Unicode.isAlphanum_of_isDigit digit),
    Bool.true_or]

section
variable {range : IntegerRange} {rest behind : List Char}

/-- The written forms of two numbers are told apart. -/
theorem int_inj
    {value other : Int}
    (natural : 0 ≤ value)
    (otherNatural : 0 ≤ other)
    (ends : StopsAt isNameLetter rest)
    (otherEnds : StopsAt isNameLetter behind)
    (same : (int value).writeBefore rest = (int other).writeBefore behind) :
    value = other ∧ rest = behind := by
  have digitsEnd : StopsAt Char.isDigit rest := ends.mono fun _ => isNameLetter_of_isDigit
  have otherDigitsEnd : StopsAt Char.isDigit behind :=
    otherEnds.mono fun _ => isNameLetter_of_isDigit
  rw [writeBefore, writeBefore, toList_decimalText natural, toList_decimalText otherNatural] at same
  have digits : Nat.toDigits 10 value.natAbs = Nat.toDigits 10 other.natAbs :=
    (isWord_toDigits _).eq_of_append (isWord_toDigits _) digitsEnd otherDigitsEnd same
  rw [digits] at same
  have sizes := congrArg (digitsValue 10) digits
  rw [digitsValue_toDigits, digitsValue_toDigits] at sizes
  exact ⟨by omega, List.append_cancel_left same⟩

/-- Names end where no letter comes, so that both names end at the same place. -/
theorem var_inj
    {name other : String}
    (isName : IsName name)
    (isOther : IsName other)
    (ends : StopsAt isNameLetter rest)
    (otherEnds : StopsAt isNameLetter behind)
    (same : (var name).writeBefore rest = (var other).writeBefore behind) :
    name = other ∧ rest = behind := by
  rw [writeBefore, writeBefore] at same
  have letters : name.toList = other.toList :=
    isName.isWord.eq_of_append isOther.isWord ends otherEnds same
  rw [letters] at same
  exact ⟨String.toList_injective letters, List.append_cancel_left same⟩

end

/-- The first character of a printed expression tells its kind. -/
theorem Printable.exists_opening
    {range : IntegerRange}
    {expr : Expr}
    (printable : expr.Printable range)
    (rest : List Char) :
    ∃ c others, expr.writeBefore rest = c :: others ∧ expr.Opens c := by
  cases expr with
  | int value =>
      have isWord := isWord_toDigits value.natAbs
      obtain ⟨c, others, split⟩ := List.exists_cons_of_ne_nil isWord.ne_nil
      rw [split] at isWord
      refine ⟨c, others ++ rest, ?_, isWord.1⟩
      rw [writeBefore, toList_decimalText printable.1, split, List.cons_append]
  | var name =>
      obtain ⟨c, others, split, letter, -⟩ := printable
      exact ⟨c, others ++ rest, by rw [writeBefore, split, List.cons_append], letter⟩
  | neg operand => exact ⟨_, _, rfl, rfl⟩
  | binary operator left right => exact ⟨_, _, rfl, rfl⟩

namespace Opens

variable {expr : Expr} {c : Char}

/-- A digit opens an integer. -/
theorem exists_int (opens : expr.Opens c) (digit : c.isDigit = true) :
    ∃ value, expr = int value := by
  cases expr with
  | int value => exact ⟨value, rfl⟩
  | var name =>
      have letter : Unicode.isAlphabetic c = true := opens
      rw [Unicode.isAlphabetic_of_isDigit digit] at letter
      contradiction
  | neg operand =>
      obtain rfl : c = '(' := opens
      contradiction
  | binary operator left right =>
      obtain rfl : c = '(' := opens
      contradiction

/-- A letter opens a name. -/
theorem exists_var (opens : expr.Opens c) (letter : Unicode.isAlphabetic c = true) :
    ∃ name, expr = var name := by
  have noBracket : c ≠ '(' := by
    rintro rfl
    rw [isAlphabetic_of_sign (by decide)] at letter
    contradiction
  cases expr with
  | var name => exact ⟨name, rfl⟩
  | int value =>
      rw [Unicode.isAlphabetic_of_isDigit opens] at letter
      contradiction
  | neg operand => exact absurd opens noBracket
  | binary operator left right => exact absurd opens noBracket

/-- A bracket opens a sign or an operator with its operands. -/
theorem exists_operands (opens : expr.Opens '(') :
    (∃ operand, expr = neg operand) ∨ ∃ operator left right, expr = binary operator left right := by
  cases expr with
  | neg operand => exact .inl ⟨operand, rfl⟩
  | binary operator left right => exact .inr ⟨operator, left, right, rfl⟩
  | int value =>
      have digit : '('.isDigit = true := opens
      contradiction
  | var name =>
      have letter : Unicode.isAlphabetic '(' = true := opens
      rw [isAlphabetic_of_sign (by decide)] at letter
      contradiction

end Opens

/-- Where two written forms agree, both may start with the first character. -/
theorem Printable.exists_common_opening
    {range : IntegerRange}
    {first second : Expr}
    (printable : first.Printable range)
    (otherPrintable : second.Printable range)
    {rest behind : List Char}
    (same : first.writeBefore rest = second.writeBefore behind) :
    ∃ c, first.Opens c ∧ second.Opens c := by
  obtain ⟨c, others, split, opens⟩ := printable.exists_opening rest
  obtain ⟨d, more, otherSplit, otherOpens⟩ := otherPrintable.exists_opening behind
  obtain ⟨rfl, -⟩ := List.cons.inj (split.symm.trans (same.trans otherSplit))
  exact ⟨c, opens, otherOpens⟩

/-- No two operators are printed by the same symbol. -/
theorem symbol_injective {operator other : BinaryOperator} (same : operator.symbol = other.symbol) :
    operator = other := by
  cases operator <;> cases other <;> first | rfl | contradiction

/-- What an expression is written as, in front of something that no name goes on with, determines
the expression and what it stands in front of. -/
theorem writeBefore_inj
    {range : IntegerRange}
    {first second : Expr}
    (printable : first.Printable range)
    (otherPrintable : second.Printable range)
    {rest behind : List Char}
    (ends : StopsAt isNameLetter rest)
    (otherEnds : StopsAt isNameLetter behind)
    (same : first.writeBefore rest = second.writeBefore behind) :
    first = second ∧ rest = behind := by
  have space (chars : List Char) : StopsAt isNameLetter (' ' :: chars) :=
    (stopsAt_cons_iff _ _ _).mpr (by decide)
  have closing (chars : List Char) : StopsAt isNameLetter (')' :: chars) :=
    (stopsAt_cons_iff _ _ _).mpr (by decide)
  induction first generalizing second rest behind with
  | int value =>
      obtain ⟨c, digit, opens⟩ := printable.exists_common_opening otherPrintable same
      obtain ⟨other, rfl⟩ := opens.exists_int digit
      obtain ⟨rfl, rfl⟩ := int_inj printable.1 otherPrintable.1 ends otherEnds same
      exact ⟨rfl, rfl⟩
  | var name =>
      obtain ⟨c, letter, opens⟩ := printable.exists_common_opening otherPrintable same
      obtain ⟨other, rfl⟩ := opens.exists_var letter
      obtain ⟨rfl, rfl⟩ := var_inj printable otherPrintable ends otherEnds same
      exact ⟨rfl, rfl⟩
  | neg operand ih =>
      obtain ⟨c, rfl, opens⟩ := printable.exists_common_opening otherPrintable same
      rcases opens.exists_operands with ⟨other, rfl⟩ | ⟨operator, left, right, rfl⟩
      · have inner : other.Printable range := otherPrintable
        simp only [writeBefore, List.cons.injEq, true_and] at same
        obtain ⟨rfl, tails⟩ := ih printable inner (closing _) (closing _) same
        exact ⟨rfl, (List.cons.inj tails).2⟩
      · -- A space follows a left operand, and a bracket follows an only one.
        simp only [writeBefore, List.cons.injEq, true_and] at same
        obtain ⟨-, tails⟩ := ih printable otherPrintable.1 (closing _) (space _) same.2
        simp at tails
  | binary operator left right leftIh rightIh =>
      obtain ⟨c, rfl, opens⟩ := printable.exists_common_opening otherPrintable same
      rcases opens.exists_operands with ⟨other, rfl⟩ | ⟨otherOperator, otherLeft, otherRight, rfl⟩
      · have inner : other.Printable range := otherPrintable
        simp only [writeBefore, List.cons.injEq, true_and] at same
        obtain ⟨-, tails⟩ := leftIh printable.1 inner (space _) (closing _) same.2
        simp at tails
      · simp only [writeBefore, List.cons.injEq, true_and] at same
        obtain ⟨symbols, sameBehind⟩ := same
        obtain rfl := symbol_injective symbols
        obtain ⟨rfl, tails⟩ := leftIh printable.1 otherPrintable.1 (space _) (space _) sameBehind
        obtain ⟨rfl, ending⟩ := rightIh printable.2 otherPrintable.2 (closing _) (closing _)
          (List.cons.inj tails).2
        exact ⟨rfl, (List.cons.inj ending).2⟩

/-- All expressions that are read from sources have natural numbers and names of the right shape;
and of these no two have the same written form. -/
theorem render_shows_structure :
    (∀ range name source expr, parse range name source = .ok (.ok expr) →
      expr.Printable .unbounded) ∧
    ∀ first second : Expr, first.Printable .unbounded → second.Printable .unbounded →
      first.render = second.render → first = second := by
  refine ⟨fun range name source expr parsed => parse_printable parsed,
    fun first second printable otherPrintable same => ?_⟩
  have ended : StopsAt isNameLetter [] := stopsAt_nil _
  exact (writeBefore_inj printable otherPrintable ended ended (String.ofList_injective same)).1

/-- The negation of a difference and the difference of a negation. -/
theorem render_shows_structure_minus :
    let first := neg (binary .sub (var "x") (int 1))
    let second := binary .sub (neg (var "x")) (int 1)
    parse .unbounded "" "-(x - 1)" = .ok (.ok first) ∧
      parse (.signed 64) "" "-x - 1" = .ok (.ok second) ∧
      first.render = "(- (- x 1))" ∧ second.render = "(- (- x) 1)" ∧
      first.render ≠ second.render := by
  intro first second
  have parsed : parse .unbounded "" "-(x - 1)" = .ok (.ok first) := by decide
  have otherParsed : parse (.signed 64) "" "-x - 1" = .ok (.ok second) := by decide
  obtain ⟨shaped, unique⟩ := render_shows_structure
  refine ⟨parsed, otherParsed, rfl, rfl, fun same => ?_⟩
  have equal := unique first second (shaped _ _ _ _ parsed) (shaped _ _ _ _ otherParsed) same
  contradiction

end Expr
end Predictive
