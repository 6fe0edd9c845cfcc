import Predictive.Parser.Choice

/-!
# Repetition

Running a parser as often as it goes. Each loop ends at the first failure that consumed
nothing; a failure that consumed is a failure of the whole. A round that succeeds without
consuming would go on forever, and is a defect of the grammar.

Every loop has a bounded number of rounds, taken from the patience of the state where it
starts. A round of a sound parser takes at least one token, so the bound is never met
unless a parser exchanges its input for another again and again.
-/

namespace Predictive
namespace Parser

variable {σ τ υ α β γ : Type}

/-- The rounds of `manyFold`, from a value and a state reached already. -/
def manyFoldFrom
    (parser : Parser σ υ α)
    (combine : β → α → β) :
    Nat → Bool → β → State σ υ → Except Defect (Outcome σ υ β)
  | 0, _, _, _ => .error .unbounded
  | rounds + 1, consumed, total, state =>
      match parser.run state with
      | .error defect => .error defect
      | .ok ⟨true, .ok value next _⟩ =>
          manyFoldFrom parser combine rounds true (combine total value) next
      | .ok ⟨true, .failed error⟩ => .ok ⟨true, .failed error⟩
      | .ok ⟨false, .ok ..⟩ => .error .endlessMany
      | .ok ⟨false, .failed error⟩ => .ok ⟨consumed, .ok total state error⟩

/-- Run a parser as often as it goes, and fold its values into a first one. -/
def manyFold
    [TokenStream σ τ]
    (parser : Parser σ υ α)
    (first : β)
    (combine : β → α → β) :
    Parser σ υ β :=
  ⟨fun state => manyFoldFrom parser combine state.patience false first state⟩

section
variable [TokenStream σ τ]

/-- Run a parser as often as it goes, and collect its values. -/
def many (parser : Parser σ υ α) : Parser σ υ (List α) :=
  (parser.manyFold [] fun values value => value :: values).map List.reverse

/-- Run a parser once or more, and collect its values. -/
def many1 (parser : Parser σ υ α) : Parser σ υ (List α) :=
  parser.zipWith parser.many List.cons

/-- Run a parser as often as it goes, and forget its values. -/
def skipMany (parser : Parser σ υ α) : Parser σ υ Unit :=
  parser.manyFold () fun _ _ => ()

/-- Run a parser once or more, and forget its values. -/
def skipMany1 (parser : Parser σ υ α) : Parser σ υ Unit :=
  parser.keepRight parser.skipMany

end

/-- Run a parser a number of times. -/
def count (parser : Parser σ υ α) : Nat → Parser σ υ (List α)
  | 0 => pure []
  | times + 1 => (count parser times).zipWith parser fun values value => values ++ [value]

/-- The rounds of `manyTill`, from values in reverse, a state and an error reached already. -/
def manyTillFrom
    (parser : Parser σ υ α)
    (stop : Parser σ υ β) :
    Nat → Bool → List α → State σ υ → ParseError → Except Defect (Outcome σ υ (List α))
  | 0, _, _, _, _ => .error .unbounded
  | rounds + 1, consumed, values, state, error =>
      match stop.run state with
      | .error defect => .error defect
      | .ok ⟨true, .ok _ next stopError⟩ => .ok ⟨true, .ok values.reverse next stopError⟩
      | .ok ⟨true, .failed stopError⟩ => .ok ⟨true, .failed stopError⟩
      | .ok ⟨false, .ok _ next stopError⟩ =>
          .ok ⟨consumed, .ok values.reverse next (error.merge stopError)⟩
      | .ok ⟨false, .failed stopError⟩ =>
          match parser.run state with
          | .error defect => .error defect
          | .ok ⟨true, .ok value next nextError⟩ =>
              manyTillFrom parser stop rounds true (value :: values) next nextError
          | .ok ⟨true, .failed nextError⟩ => .ok ⟨true, .failed nextError⟩
          | .ok ⟨false, .ok ..⟩ => .error .endlessManyTill
          | .ok ⟨false, .failed nextError⟩ =>
              .ok ⟨consumed, .failed ((error.merge stopError).merge nextError)⟩

/-- Run a parser until another one succeeds, and collect its values. The other one is tried
first in each round. -/
def manyTill
    [TokenStream σ τ]
    (parser : Parser σ υ α)
    (stop : Parser σ υ β) :
    Parser σ υ (List α) where
  run state :=
    manyTillFrom parser stop state.patience false [] state (.unknown state.position)

@[simp] theorem count_zero (parser : Parser σ υ α) : parser.count 0 = pure [] := rfl

theorem count_succ (parser : Parser σ υ α) (times : Nat) :
    parser.count (times + 1) =
      (parser.count times).zipWith parser fun values value => values ++ [value] := rfl

@[simp] theorem run_manyFold
    [TokenStream σ τ]
    (parser : Parser σ υ α)
    (first : β)
    (combine : β → α → β)
    (state : State σ υ) :
    (parser.manyFold first combine).run state =
      manyFoldFrom parser combine state.patience false first state := rfl

end Parser
end Predictive
