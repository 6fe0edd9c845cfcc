import Predictive.Lexer.Number
import Predictive.Proofs.Primitives

/-!
# Parsers that always consume

A parser that has no success without input consumed passes this on to what is built around it. So
symbols and the digits of a number are always consumed, and so is every step through a comment that
ends with a mark.
-/

namespace Predictive
namespace Parser.AlwaysConsumes

variable {σ τ υ α β γ : Type}

theorem satisfy [TokenStream σ Char] (predicate : Char → Bool) :
    (Parser.satisfy predicate : Parser σ υ Char).AlwaysConsumes := by
  intro state value next error ran
  obtain ⟨-, -, -, -, tag, -⟩ := token_yields_iff.mp ran
  contradiction

/-- A text that is not empty has a character to consume. -/
theorem string [TokenStream σ Char] {text : String} (some : text ≠ "") :
    (Parser.string text : Parser σ υ String).AlwaysConsumes :=
  fun state value next error ran =>
    string_attempt_alwaysConsumes some state value next error (attempt_yields_iff.mpr ran)

/-- Labels change nothing in what is consumed. -/
theorem labels {parser : Parser σ υ α} (consumes : parser.AlwaysConsumes) (names : List String) :
    (parser.labels names).AlwaysConsumes := by
  intro state value next error ran
  obtain ⟨found, inner⟩ := Yields.of_labels ran
  exact consumes state value next found inner

theorem map {parser : Parser σ υ α} (consumes : parser.AlwaysConsumes) (f : α → β) :
    (parser.map f).AlwaysConsumes := by
  intro state value next error ran
  obtain ⟨found, inner, -⟩ := map_yields_iff.mp ran
  exact consumes state found next error inner

/-- A sequence always consumes if its first half does. -/
theorem zipWith
    {first : Parser σ υ α}
    (consumes : first.AlwaysConsumes)
    (second : Parser σ υ β)
    (f : α → β → γ) :
    (first.zipWith second f).AlwaysConsumes := by
  intro state value next error ran
  obtain ⟨tag, left, middle, earlier, _, _, _, firstRan, -, -, tags, -⟩ :=
    zipWith_yields_iff.mp ran
  obtain ⟨rfl, -⟩ := Bool.or_eq_false_iff.mp tags.symm
  exact consumes state left middle earlier firstRan

/-- A choice always consumes if both of its parsers do. -/
theorem orElse
    {first second : Parser σ υ α}
    (firstConsumes : first.AlwaysConsumes)
    (secondConsumes : second.AlwaysConsumes) :
    (first.orElse second).AlwaysConsumes := by
  intro state value next error ran
  rcases orElse_yields_iff.mp ran with firstRan | ⟨-, found, -, secondRan, -⟩
  · exact firstConsumes state value next error firstRan
  · exact secondConsumes state value next found secondRan

/-- A choice always consumes if all of its parsers do. -/
theorem choice
    {parsers : List (Parser σ υ α)}
    (consume : ∀ parser ∈ parsers, parser.AlwaysConsumes) :
    (Parser.choice parsers).AlwaysConsumes := by
  intro state value next error ran
  obtain ⟨parser, present, found, inner⟩ := Yields.of_choice ran
  exact consume parser present state value next found inner

end Parser.AlwaysConsumes

/-- A choice succeeds at once where its first parser does. -/
theorem Parser.run_choice_of_ok
    {σ υ α : Type}
    {parser : Parser σ υ α}
    {state next : State σ υ}
    {consumed : Bool}
    {value : α}
    {error : ParseError}
    (ran : parser.run state = .ok ⟨consumed, .ok value next error⟩)
    (parsers : List (Parser σ υ α)) :
    (choice (parser :: parsers)).run state = .ok ⟨consumed, .ok value next error⟩ := by
  change (parsers.foldl orElse parser).run state = _
  induction parsers generalizing parser with
  | nil => exact ran
  | cons second parsers ih => exact ih (run_orElse_of_ok ran second)

namespace Language

open Predictive.Parser (AlwaysConsumes)

variable {σ υ : Type} [TokenStream σ Char]

theorem symbol_alwaysConsumes (language : Language σ υ) {text : String} (some : text ≠ "") :
    (language.symbol text).AlwaysConsumes :=
  (AlwaysConsumes.string some).zipWith _ _

/-- Digits are one at least, in any base. -/
theorem digitsIn_alwaysConsumes (base : Nat) :
    (digitsIn base : Parser σ υ Digits).AlwaysConsumes := by
  unfold digitsIn
  refine .map ?_ _
  split
  · exact ((AlwaysConsumes.satisfy _).labels _).zipWith _ _
  · exact ((AlwaysConsumes.satisfy _).labels _).zipWith _ _
  · exact ((AlwaysConsumes.satisfy _).labels _).zipWith _ _

/-- Natural numbers have at least a digit. -/
theorem naturalDigits_alwaysConsumes :
    (naturalDigits : Parser σ υ Digits).AlwaysConsumes :=
  .orElse ((((AlwaysConsumes.satisfy _).labels _).zipWith _ _).labels _)
    (digitsIn_alwaysConsumes 10)

/-- Where a mark closes a comment, each step through the comment consumes. -/
theorem commentStep_alwaysConsumes
    {opening closing : String}
    (opens : opening ≠ "")
    (closes : closing ≠ "")
    (nested : Bool) :
    (commentStep opening closing nested : Parser σ υ CommentStep).AlwaysConsumes := by
  have close : ((Parser.string closing).attempt.map fun _ => CommentStep.closed :
      Parser σ υ CommentStep).AlwaysConsumes := (Parser.string_attempt_alwaysConsumes closes).map _
  have reopen : ((Parser.string opening).attempt.map fun _ => CommentStep.opened :
      Parser σ υ CommentStep).AlwaysConsumes := (Parser.string_attempt_alwaysConsumes opens).map _
  refine .labels (.choice fun parser present => ?_) _
  cases nested with
  | false =>
      simp only [Bool.false_eq_true, if_false, List.mem_cons, List.not_mem_nil, or_false] at present
      rcases present with rfl | rfl | rfl
      · exact close
      · exact ((AlwaysConsumes.satisfy _).zipWith _ _).map _
      · exact (AlwaysConsumes.satisfy _).map _
  | true =>
      simp only [if_true, List.mem_cons, List.not_mem_nil, or_false] at present
      rcases present with rfl | rfl | rfl | rfl
      · exact close
      · exact reopen
      · exact ((AlwaysConsumes.satisfy _).zipWith _ _).map _
      · exact (AlwaysConsumes.satisfy _).map _

/-- Where no mark closes a comment, the first step closes it at once. -/
theorem commentStep_closed
    {opening : String}
    {nested : Bool}
    {state next : State σ υ}
    {consumed : Bool}
    {found : CommentStep}
    {error : ParseError}
    (ran : (commentStep opening "" nested).Yields state consumed found next error) :
    found = .closed := by
  have close : ((Parser.string "").attempt.map fun _ => CommentStep.closed).Yields state false
      .closed state (.unknown state.position) := rfl
  obtain ⟨earlier, inner⟩ := Parser.Yields.of_labels ran
  cases nested with
  | false => exact (Parser.Yields.unique (Parser.run_choice_of_ok close _) inner).2.1.symm
  | true => exact (Parser.Yields.unique (Parser.run_choice_of_ok close _) inner).2.1.symm

end Language
end Predictive
