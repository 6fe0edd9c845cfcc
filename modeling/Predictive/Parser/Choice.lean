import Predictive.Parser.Sequence

/-!
# Choice

Choice is predictive: the second parser runs only if the first one failed without
consuming input. A parser under `attempt` never consumes when it fails, which buys
backtracking where it is wanted. Labels replace what a parser expected at its start.
-/

namespace Predictive
namespace Parser

variable {σ υ α β : Type}

/-- Run the second parser if the first one fails without consuming. -/
def orElse (first second : Parser σ υ α) : Parser σ υ α where
  run state :=
    match first.run state with
    | .ok ⟨false, .failed error⟩ =>
        (second.run state).map (·.after false error)
    | other => other

/-- Try some parsers one after another. -/
def choice : List (Parser σ υ α) → Parser σ υ α
  | [] => empty
  | parser :: parsers => parsers.foldl orElse parser

/-- Replace what was expected by some labels, wherever the parser consumes nothing. The error
that a success carries is relabelled only if it says something. -/
def labels (parser : Parser σ υ α) (names : List String) : Parser σ υ α where
  run state :=
    (parser.run state).map fun outcome =>
      match outcome with
      | ⟨false, .failed error⟩ => ⟨false, .failed (error.setExpected names)⟩
      | ⟨false, .ok value next error⟩ =>
          ⟨false, .ok value next (if error.isUnknown then error else error.setExpected names)⟩
      | other => other

/-- Replace what was expected by a label. -/
def label (parser : Parser σ υ α) (name : String) : Parser σ υ α :=
  parser.labels [name]

/-- Fail without consuming wherever the parser fails. -/
def attempt (parser : Parser σ υ α) : Parser σ υ α where
  run state :=
    (parser.run state).map fun outcome =>
      match outcome with
      | ⟨_, .failed error⟩ => ⟨false, .failed error⟩
      | other => other

/-- Succeed without consuming wherever the parser succeeds. A failure stays what it is. -/
def lookAhead (parser : Parser σ υ α) : Parser σ υ α where
  run state :=
    (parser.run state).map fun outcome =>
      match outcome.reply with
      | .ok value _ _ => ⟨false, .ok value state (.unknown state.position)⟩
      | .failed error => ⟨outcome.consumed, .failed error⟩

/-- The value of the parser, or a default if it fails without consuming. -/
def withDefault (parser : Parser σ υ α) (value : α) : Parser σ υ α :=
  parser.orElse (pure value)

/-- The value of the parser, or nothing if it fails without consuming. -/
def maybe (parser : Parser σ υ α) : Parser σ υ (Option α) :=
  (parser.map some).orElse (pure none)

/-- Run the parser if it does not fail at once, and forget its value. -/
def skipMaybe (parser : Parser σ υ α) : Parser σ υ Unit :=
  (parser.map fun _ => ()).orElse (pure ())

@[simp] theorem choice_nil : choice ([] : List (Parser σ υ α)) = empty := rfl

@[simp] theorem choice_singleton (parser : Parser σ υ α) : choice [parser] = parser := rfl

theorem choice_pair (first second : Parser σ υ α) :
    choice [first, second] = first.orElse second := rfl

theorem run_orElse_of_error
    {first : Parser σ υ α}
    {state : State σ υ}
    {defect : Defect}
    (ran : first.run state = .error defect)
    (second : Parser σ υ α) :
    (first.orElse second).run state = .error defect := by
  simp [orElse, ran]

theorem run_orElse_of_empty_failed
    {first : Parser σ υ α}
    {state : State σ υ}
    {error : ParseError}
    (ran : first.run state = .ok ⟨false, .failed error⟩)
    (second : Parser σ υ α) :
    (first.orElse second).run state =
      (second.run state).map (·.after false error) := by
  simp [orElse, ran]

theorem run_orElse_of_consumed
    {first : Parser σ υ α}
    {state : State σ υ}
    {reply : Reply σ υ α}
    (ran : first.run state = .ok ⟨true, reply⟩)
    (second : Parser σ υ α) :
    (first.orElse second).run state = .ok ⟨true, reply⟩ := by
  simp [orElse, ran]

theorem run_orElse_of_ok
    {first : Parser σ υ α}
    {state next : State σ υ}
    {consumed : Bool}
    {value : α}
    {error : ParseError}
    (ran : first.run state = .ok ⟨consumed, .ok value next error⟩)
    (second : Parser σ υ α) :
    (first.orElse second).run state = .ok ⟨consumed, .ok value next error⟩ := by
  cases consumed <;> simp [orElse, ran]

end Parser
end Predictive
