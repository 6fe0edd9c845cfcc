import Predictive.Proofs.Primitives
import Predictive.Proofs.StateRelations

/-!
# Consumption

Whether a parser consumed input is a tag that each combinator computes by itself. Here the
tag is shown to be right for every parser that the combinators build: an untagged success
leaves input and position as they were, and a tagged success leaves a shorter rest of the
tokens. The relation between the states before and after a success composes along
sequences and rounds of loops in the same way as the tags do.
-/

namespace Predictive
namespace State

variable {σ τ υ : Type} [TokenStream σ τ]

/-- How the state after a success follows that before it, by the tag of the success. -/
def Follows (before after : State σ υ) : (consumed : Bool) → Prop
  | false => after.input = before.input ∧ after.position = before.position
  | true => ∃ taken, taken ≠ [] ∧
      TokenStream.toList before.input = taken ++ TokenStream.toList after.input

theorem Follows.refl (state : State σ υ) : state.Follows state false :=
  ⟨rfl, rfl⟩

/-- Tags of consecutive successes add up. -/
theorem Follows.trans
    {before middle after : State σ υ}
    {first second : Bool}
    (firstFollows : before.Follows middle first)
    (secondFollows : middle.Follows after second) :
    before.Follows after (first || second) := by
  cases first with
  | false =>
      obtain ⟨sameInput, samePosition⟩ := firstFollows
      cases second with
      | false =>
          obtain ⟨nextInput, nextPosition⟩ := secondFollows
          exact ⟨nextInput.trans sameInput, nextPosition.trans samePosition⟩
      | true =>
          obtain ⟨taken, some, split⟩ := secondFollows
          exact ⟨taken, some, sameInput ▸ split⟩
  | true =>
      obtain ⟨taken, some, split⟩ := firstFollows
      cases second with
      | false => exact ⟨taken, some, by rw [split, secondFollows.1]⟩
      | true =>
          obtain ⟨more, _, others⟩ := secondFollows
          exact ⟨taken ++ more, by simp [some], by rw [split, others, List.append_assoc]⟩

theorem follows_composes : Composes (Follows : State σ υ → State σ υ → Bool → Prop) where
  refl := Follows.refl
  trans := Follows.trans

/-- The tokens to come are the last ones of those before. -/
theorem Follows.isSuffix
    {before after : State σ υ}
    {consumed : Bool}
    (follows : before.Follows after consumed) :
    TokenStream.toList after.input <:+ TokenStream.toList before.input := by
  cases consumed with
  | false => exact ⟨[], congrArg TokenStream.toList follows.1⟩
  | true =>
      obtain ⟨taken, -, split⟩ := follows
      exact ⟨taken, split.symm⟩

/-- Consuming input leaves fewer tokens. -/
theorem Follows.length_lt
    {before after : State σ υ}
    (follows : before.Follows after true) :
    (TokenStream.toList after.input).length < (TokenStream.toList before.input).length := by
  obtain ⟨taken, some, split⟩ := follows
  have := List.length_pos_iff.mpr some
  rw [split, List.length_append]
  omega

end State

namespace Parser

variable {σ τ υ α β : Type} [TokenStream σ τ]

/-- The tag of every success says whether input was consumed. -/
def TagsSoundly (parser : Parser σ υ α) : Prop :=
  ∀ ⦃state consumed value next error⦄,
    parser.Yields state consumed value next error → state.Follows next consumed

/-- Parsers composed of atoms with sound tags have sound tags. -/
theorem Composed.tagsSoundly
    {Atom : ∀ ⦃α : Type⦄, Parser σ υ α → Prop}
    (atoms : ∀ ⦃α : Type⦄ (parser : Parser σ υ α), Atom parser → parser.TagsSoundly)
    {parser : Parser σ υ α}
    (composed : Composed Atom parser) :
    parser.TagsSoundly :=
  composed.relates State.follows_composes atoms

variable [LawfulTokenStream σ]

/-- A primitive consumes exactly the tokens that it takes. -/
theorem Primitive.tagsSoundly {parser : Parser σ υ α} (primitive : Primitive parser) :
    parser.TagsSoundly := by
  intro state consumed value next error ran
  cases primitive with
  | token describe after test =>
      obtain ⟨found, rest, taken, -, rfl, rfl, -⟩ := token_yields_iff.mp ran
      exact ⟨[found], by simp, LawfulTokenStream.toList_eq_cons taken⟩
  | tokens describe wanted stays =>
      obtain ⟨rest, dropped, -, rfl, rfl, -⟩ := tokens_yields_iff.mp ran
      cases wanted with
      | nil =>
          obtain rfl := Except.ok.inj dropped
          exact ⟨rfl, stays state.position⟩
      | cons first wanted => exact ⟨first :: wanted, by simp, toList_of_dropTokens dropped⟩
  | modifyState sameInput samePosition =>
      simp only [Yields, run_modifyState, Except.ok.injEq, Outcome.mk.injEq, Reply.ok.injEq] at ran
      obtain ⟨rfl, -, rfl, -⟩ := ran
      exact ⟨sameInput state, samePosition state⟩

theorem tagsSoundly_of_composed {parser : Parser σ υ α} (composed : Composed Primitive parser) :
    parser.TagsSoundly :=
  composed.tagsSoundly fun _ _ primitive => primitive.tagsSoundly

/-- The tag of a success is right for every parser composed of primitives: without it, input and
position are those before; with it, the tokens to come are a strict suffix of those before. -/
theorem consumed_tag_sound
    {parser : Parser σ υ α}
    (composed : Composed Primitive parser)
    {state next : State σ υ}
    {consumed : Bool}
    {value : α}
    {error : ParseError}
    (ran : parser.run state = .ok ⟨consumed, .ok value next error⟩) :
    (consumed = false → next.input = state.input ∧ next.position = state.position) ∧
      (consumed = true →
        TokenStream.toList next.input <:+ TokenStream.toList state.input ∧
        TokenStream.toList next.input ≠ TokenStream.toList state.input) := by
  have follows : state.Follows next consumed :=
    composed.tagsSoundly (fun _ _ primitive => primitive.tagsSoundly) ran
  constructor
  · rintro rfl
    exact follows
  · rintro rfl
    refine ⟨?_, fun same => ?_⟩
    · obtain ⟨taken, -, split⟩ := follows
      exact ⟨taken, split.symm⟩
    · exact absurd (congrArg List.length same) (Nat.ne_of_lt follows.length_lt)

/-- An arithmetic expression in front of a bracket leaves fewer tokens than there were. -/
theorem consumed_tag_sound_expression :
    ∃ value next error,
      (Expr.expression .unbounded).run ⟨Text.ofString "1 + x)", .start "", ()⟩ =
          .ok ⟨true, .ok value next error⟩ ∧
        next.input.toList <:+ "1 + x)".toList ∧ next.input.toList ≠ "1 + x)".toList := by
  obtain ⟨next, error, ran⟩ : ∃ next error, (Expr.expression .unbounded).Yields
      ⟨Text.ofString "1 + x)", .start "", ()⟩ true (.binary .add (.int 1) (.var "x")) next error :=
    exists_yields (by decide +kernel)
  have sound := consumed_tag_sound (Expr.expression_composed .unbounded) ran
  rw [show TokenStream.toList (Text.ofString "1 + x)") = "1 + x)".toList from
    Text.toList_ofString _] at sound
  exact ⟨_, next, error, ran, sound.2 rfl⟩

end Parser
end Predictive
