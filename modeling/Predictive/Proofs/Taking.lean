import Predictive.Proofs.Grammar
import Predictive.Proofs.Success

/-!
# What a parser takes

A parser takes only words of a category if every success of it has taken one of these words,
with the value of the word. What the combinators take is put together from what their parts
take.
-/

namespace Predictive
namespace Parser

variable {σ τ υ α β γ : Type} [TokenStream σ τ]

/-- Every success of the parser has taken a word of the category, with its value. -/
def TakesOnly (parser : Parser σ υ α) (category : Category τ α) : Prop :=
  ∀ ⦃state consumed value next error⦄, parser.Yields state consumed value next error →
    ∃ word, TokenStream.toList state.input = word ++ TokenStream.toList next.input ∧
      category word value

/-- Two parsers in sequence take two words in sequence. -/
theorem TakesOnly.zipWith
    {first : Parser σ υ α}
    {second : Parser σ υ β}
    {left : Category τ α}
    {right : Category τ β}
    {joined : Category τ γ}
    {f : α → β → γ}
    (firstTakes : first.TakesOnly left)
    (secondTakes : second.TakesOnly right)
    (joins : ∀ ⦃word value more other⦄, left word value → right more other →
      joined (word ++ more) (f value other)) :
    (first.zipWith second f).TakesOnly joined := by
  intro state consumed value next error ran
  obtain ⟨_, _, middle, _, _, _, _, firstRan, secondRan, rfl, -, -⟩ := zipWith_yields_iff.mp ran
  obtain ⟨word, split, derived⟩ := firstTakes firstRan
  obtain ⟨more, others, moreDerived⟩ := secondTakes secondRan
  exact ⟨word ++ more, by rw [split, others, List.append_assoc], joins derived moreDerived⟩

theorem TakesOnly.bind
    {parser : Parser σ υ α}
    {following : α → Parser σ υ β}
    {left : Category τ α}
    {right : α → Category τ β}
    {joined : Category τ β}
    (takes : parser.TakesOnly left)
    (followingTakes : ∀ value, (following value).TakesOnly (right value))
    (joins : ∀ ⦃word value more result⦄, left word value → right value more result →
      joined (word ++ more) result) :
    (parser.bind following).TakesOnly joined := by
  intro state consumed result next error ran
  obtain ⟨_, value, middle, _, _, _, firstRan, secondRan, -, -⟩ := bind_yields_iff.mp ran
  obtain ⟨word, split, derived⟩ := takes firstRan
  obtain ⟨more, others, moreDerived⟩ := followingTakes value secondRan
  exact ⟨word ++ more, by rw [split, others, List.append_assoc], joins derived moreDerived⟩

theorem TakesOnly.orElse
    {first second : Parser σ υ α}
    {category : Category τ α}
    (firstTakes : first.TakesOnly category)
    (secondTakes : second.TakesOnly category) :
    (first.orElse second).TakesOnly category := by
  intro state consumed value next error ran
  rcases orElse_yields_iff.mp ran with firstRan | ⟨_, _, -, secondRan, -⟩
  · exact firstTakes firstRan
  · exact secondTakes secondRan

theorem TakesOnly.choice
    {parsers : List (Parser σ υ α)}
    {category : Category τ α}
    (takes : ∀ parser ∈ parsers, parser.TakesOnly category) :
    (Parser.choice parsers).TakesOnly category := by
  intro state consumed value next error ran
  obtain ⟨parser, present, found, parserRan⟩ := ran.of_choice
  exact takes parser present parserRan

theorem TakesOnly.map
    {parser : Parser σ υ α}
    {category : Category τ α}
    {mapped : Category τ β}
    {f : α → β}
    (takes : parser.TakesOnly category)
    (maps : ∀ ⦃word value⦄, category word value → mapped word (f value)) :
    (parser.map f).TakesOnly mapped := by
  intro state consumed value next error ran
  obtain ⟨found, inner, rfl⟩ := map_yields_iff.mp ran
  obtain ⟨word, split, derived⟩ := takes inner
  exact ⟨word, split, maps derived⟩

theorem TakesOnly.labels
    {parser : Parser σ υ α}
    {category : Category τ α}
    (takes : parser.TakesOnly category)
    (names : List String) :
    (parser.labels names).TakesOnly category := by
  intro state consumed value next error ran
  obtain ⟨found, inner⟩ := ran.of_labels
  exact takes inner

theorem pure_takesOnly {category : Category τ α} {value : α} (derived : category [] value) :
    (Parser.pure value : Parser σ υ α).TakesOnly category := by
  intro state consumed result next error ran
  simp only [Yields, run_pure, Except.ok.injEq, Outcome.mk.injEq, Reply.ok.injEq] at ran
  obtain ⟨-, rfl, rfl, -⟩ := ran
  exact ⟨[], rfl, derived⟩

/-- A repetition takes the words of its rounds. -/
theorem TakesOnly.many
    {parser : Parser σ υ α}
    {category : Category τ α}
    {joined : Category τ (List α)}
    (takes : parser.TakesOnly category)
    (stops : joined [] [])
    (joins : ∀ ⦃word value more values⦄, category word value → joined more values →
      joined (word ++ more) (value :: values)) :
    parser.many.TakesOnly joined := by
  intro state consumed values next error ran
  obtain ⟨-, repeated, -, -⟩ := many_yields_iff.mp ran
  clear ran
  induction repeated with
  | nil state => exact ⟨[], rfl, stops⟩
  | cons first others ih =>
      obtain ⟨word, split, derived⟩ := takes first
      obtain ⟨more, rest, moreDerived⟩ := ih
      exact ⟨word ++ more, by rw [split, rest, List.append_assoc], joins derived moreDerived⟩

end Parser
end Predictive
