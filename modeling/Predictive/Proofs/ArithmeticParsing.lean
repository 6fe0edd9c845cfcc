import Predictive.Proofs.ArithmeticGrammar
import Predictive.Proofs.TableReading

/-!
# Parsing printed expressions

The parser of expressions unrolls its definition once for each nesting of parentheses, and reads
the words of that nesting. So it gives back every expression from its tokens, in whatever layout
they are written.
-/

namespace Predictive
namespace Expr

/-- Whether a term may start with the token. -/
def startsTerm : Token → Bool
  | .number _ => true
  | .name _ => true
  | .sign c => c == '('

theorem signs_apartFrom : signs.ApartFrom (fun token => startsTerm token = true) [] := by
  refine ⟨⟨⟨?_, ?_⟩, ?_, ?_⟩, ⟨⟨?_, ?_⟩, ?_, ?_⟩, ⟨⟨?_, ?_⟩, ?_, ?_⟩, ⟨⟨?_, ?_⟩, ?_, ?_⟩, trivial⟩
  all_goals decide

theorem signs_recognized (range : IntegerRange) : signs.Recognized (laid range) symbolOf := by
  have symbols : ∀ token ∈ signs.flatten.map Sign.symbol, token ∈ signChars.map Token.sign := by
    decide
  intro row present sign inside
  have inTable : sign ∈ signs.flatten := List.mem_flatten.mpr ⟨row, present, inside⟩
  obtain ⟨c, isSign, same⟩ := List.mem_map.mp (symbols _ (List.mem_map_of_mem inTable))
  rw [← same]
  exact sign_recognized isSign

section
variable {range : IntegerRange} {expr : Parser Text Unit Expr} {inner : Category Token Expr}
variable {leads : Token → Prop} {trails : List Token}

/-- Parentheses refuse terms of other kinds. -/
theorem parens_refuses
    {tokens : List Token}
    (outside : StartsOutside [.sign '('] tokens) :
    (language.parens expr).Refuses (laid range) tokens := by
  have opening : Recognizes (laid range) symbolOf (.sign '(') := sign_recognized (by decide)
  exact ((opening.refuses tokens outside).zipWith _).zipWith _

theorem parens_reads
    (reads : ReadsWords (laid range) expr inner leads trails)
    (notTrailing : .sign ')' ∉ trails)
    {word : List Token}
    {value : Expr}
    (inside : inner word value)
    (rest : List Token) :
    (language.parens expr).Reads (laid range) (parenthesized word) value rest := by
  have opening : Recognizes (laid range) symbolOf (.sign '(') := sign_recognized (by decide)
  have closing : Recognizes (laid range) symbolOf (.sign ')') := sign_recognized (by decide)
  obtain ⟨openText, opens⟩ := opening.reads (word ++ ([.sign ')'] ++ rest))
  obtain ⟨closeText, closes⟩ := closing.reads rest
  have body : expr.Reads (laid range) word value ([.sign ')'] ++ rest) :=
    reads.reads inside ((startsOutside_cons_iff _ _ _).mpr notTrailing)
  have opened := opens.zipWith body fun _ value => value
  exact opened.zipWith closes fun value _ => value

theorem term_reads
    (zeroInside : range.contains 0 = true)
    (reads : ReadsWords (laid range) expr inner leads trails)
    (notTrailing : .sign ')' ∉ trails) :
    ReadsWords (laid range) (term range expr) (Term inner)
      (fun token => startsTerm token = true) [] := by
  constructor
  · intro word value derived
    cases derived with
    | number value => exact ⟨_, _, rfl, rfl⟩
    | name text => exact ⟨_, _, rfl, rfl⟩
    | nested inside => exact ⟨_, _, rfl, rfl⟩
  · intro word value rest derived _
    refine Parser.Reads.labels ?_ _
    cases derived with
    | number value =>
        have notParens : (language.parens expr).Refuses (laid range) ([.number value] ++ rest) :=
          parens_refuses (by simp [StartsOutside])
        have number := (naturalIn_reads zeroInside value rest).map int
        exact (notParens.orElse_reads number).orElse _
    | name text =>
        have notParens : (language.parens expr).Refuses (laid range) ([.name text] ++ rest) :=
          parens_refuses (by simp [StartsOutside])
        have notNumber : (language.naturalIn range).Refuses (laid range) ([.name text] ++ rest) :=
          naturalIn_refuses (by simp)
        have noOther := notParens.orElse (notNumber.map int)
        exact noOther.orElse_reads ((identifier_reads text rest).map var)
    | nested inside =>
        have parens := parens_reads reads notTrailing inside rest
        exact (parens.orElse _).orElse _

end

/-- Unrolled to a certain depth, the definition reads the words of that depth. -/
theorem unrolled_readsWords
    {range : IntegerRange}
    (zeroInside : range.contains 0 = true)
    (depth : Nat) :
    ReadsWords (laid range)
      (Parser.unrolled (fun expr => operators.expression (term range expr)) depth) (words depth)
      (SignTable.Leads (fun token => startsTerm token = true) signs) (signs.trailing []) := by
  induction depth with
  | zero => exact ⟨fun _ _ derived => derived.elim, fun _ _ _ derived => derived.elim⟩
  | succ depth ih =>
      have terms := term_reads zeroInside ih (by decide)
      rw [Parser.unrolled_succ, operators_eq]
      exact SignTable.readsWords terms (signs_recognized range) signs_apartFrom (laid_fits range)

/-- The parser of expressions reads the tokens of any printable expression. -/
theorem expression_reads
    {range : IntegerRange}
    (zeroInside : range.contains 0 = true)
    {expr : Expr}
    (printable : expr.Printable range) :
    (expression range).Reads (laid range) expr.tokens expr [] := by
  intro state viewed
  have deep : expr.height < state.patience := by
    have fewer := laid_fits range viewed
    have fromTokens : expr.height ≤ expr.tokens.length := height_le_length expr 4
    have bounded := state.size_lt_patience
    rw [List.append_nil] at fewer
    omega
  have reads := unrolled_readsWords zeroInside state.patience
  obtain ⟨next, error, ran, left⟩ :=
    reads.reads (words_tokens printable deep) (startsOutside_nil _) viewed
  refine ⟨next, error, ?_, left⟩
  rw [Parser.Yields, expression, OperatorTable.recursiveExpression, Parser.run_recursive]
  exact ran

/-- An expression is parsed back from its tokens with the fewest parentheses, in any layout. The
integers may be those of 64 bits or all integers: their range has to hold zero, from which each
number is read digit by digit. -/
theorem parse_tokens
    {range : IntegerRange}
    (zeroInside : range.contains 0 = true)
    {expr : Expr}
    (printable : expr.Printable range)
    {source : String}
    {front body : List Char}
    (layout : Layout front)
    (written : Laid expr.tokens body)
    (split : source.toList = front ++ body)
    (name : String) :
    parse range name source = .ok (.ok expr) := by
  have proper := tokensAt_proper printable 4
  have viewed : View.tokens (⟨Text.ofString source, .start name, ()⟩ : State Text Unit)
      (front ++ body) := by
    rw [← split]
    exact Text.toList_ofString source
  obtain ⟨inside, spaceError, skipped, viewedInside⟩ :=
    Language.whiteSpace_reads layout (written.solid proper) viewed
  have laidInside : laid range inside (expr.tokens ++ []) := by
    rw [List.append_nil]
    exact ⟨proper, viewedInside.symm ▸ written⟩
  obtain ⟨behind, error, ran, laidBehind⟩ := expression_reads zeroInside printable laidInside
  obtain ⟨last, endError, ended, -⟩ := Parser.endOfInput_reads laidBehind.2.eq_nil
  have started : ∃ consumed found, (language.whiteSpace.keepRight (expression range)).Yields
      ⟨Text.ofString source, .start name, ()⟩ consumed expr behind found :=
    ⟨_, _, Parser.zipWith_yields_iff.mpr
      ⟨_, (), inside, spaceError, _, expr, error, skipped, ran, rfl, rfl, rfl⟩⟩
  obtain ⟨consumed, found, started⟩ := started
  have finished : ∃ consumed found, (whole range).Yields
      ⟨Text.ofString source, .start name, ()⟩ consumed expr last found :=
    ⟨_, _, Parser.zipWith_yields_iff.mpr
      ⟨_, expr, behind, found, _, (), endError, started, ended, rfl, rfl, rfl⟩⟩
  obtain ⟨consumed, found, finished⟩ := finished
  rw [parse, Parser.parse, Parser.runState, finished]

/-- A difference of a product in 64 bits, with comments next to minus signs. -/
theorem parse_tokens_difference :
    parse (.signed 64) "" "- -- minus\n x * ( 2 + 10 ) \x7b- - \x7b-\x7d -\x7d -\x7d - 0\t-- end" =
      .ok (.ok (binary .sub
        (binary .mul (neg (var "x")) (binary .add (int 2) (int 10))) (int 0))) := by
  have blank : Unicode.isWhiteSpace ' ' = true := by decide
  have space : Layout [' '] := .space blank .nil
  have line : Layout (' ' :: ('-' :: '-' :: " minus".toList ++ '\n' :: [' '])) :=
    .space blank (.line (by decide) space)
  have block : Layout (' ' :: ('\x7b' :: '-' :: " - \x7b-\x7d -\x7d -\x7d".toList ++ [' '])) :=
    .space blank (.block (by decide) space)
  have ending : FinalLayout ("\t".toList ++ '-' :: '-' :: " end".toList) :=
    .unfinished (.space (by decide) .nil) (by decide)
  have printable : (binary .sub (binary .mul (neg (var "x")) (binary .add (int 2) (int 10)))
      (int 0)).Printable (.signed 64) := by
    have isName : IsName "x" := ⟨'x', [], rfl, by decide, List.forall_mem_nil _⟩
    refine ⟨⟨isName, ⟨?_, ?_⟩, ⟨?_, ?_⟩⟩, ⟨?_, ?_⟩⟩ <;> decide
  have ends : StopsAt (fun c => !Unicode.isWhiteSpace c)
      ("\t".toList ++ '-' :: '-' :: " end".toList) :=
    (stopsAt_cons_iff _ _ _).mpr (by decide)
  refine parse_tokens (by decide) printable .nil (.cons line blank (.cons space blank
    (.cons space blank (.cons space blank (.cons space blank (.cons space blank (.cons space blank
      (.cons block blank (.cons space blank (.last ending ends)))))))))) ?_ ""
  decide

end Expr
end Predictive
