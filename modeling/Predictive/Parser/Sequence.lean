import Predictive.Parser.Basic

/-!
# Values and sequences

The parsers that succeed or fail at once, and the parsers that run one after another. A
sequence consumes input if one of its halves does. If the second half consumes nothing,
the error of the first is merged in front of its own, so that the expectations at the
boundary of both survive.
-/

namespace Predictive
namespace Parser

variable {σ υ α β γ : Type}

/-- Succeed with a value and consume nothing. -/
def pure (value : α) : Parser σ υ α :=
  ⟨fun state => .ok ⟨false, .ok value state (.unknown state.position)⟩⟩

/-- Fail with an error that says nothing. -/
def empty : Parser σ υ α :=
  ⟨fun state => .ok ⟨false, .failed (.unknown state.position)⟩⟩

/-- Fail with a message. -/
def failWith (kind : MessageKind) (text : String) : Parser σ υ α :=
  ⟨fun state => .ok ⟨false, .failed (.single state.position kind text)⟩⟩

/-- Fail with a generic message. -/
def fail (text : String) : Parser σ υ α :=
  failWith .generic text

/-- Fail because of something unexpected. -/
def unexpected (text : String) : Parser σ υ α :=
  failWith .unexpected text

/-- Change the value. -/
def map (parser : Parser σ υ α) (f : α → β) : Parser σ υ β :=
  ⟨fun state => (parser.run state).map (·.map f)⟩

/-- Go on with the parser that the value calls for. -/
def bind (parser : Parser σ υ α) (next : α → Parser σ υ β) : Parser σ υ β where
  run state :=
    match parser.run state with
    | .error defect => .error defect
    | .ok ⟨consumed, .failed error⟩ => .ok ⟨consumed, .failed error⟩
    | .ok ⟨consumed, .ok value middle error⟩ =>
        ((next value).run middle).map (·.after consumed error)

/-- Run two parsers in sequence and combine their values. -/
def zipWith
    (first : Parser σ υ α)
    (second : Parser σ υ β)
    (f : α → β → γ) :
    Parser σ υ γ where
  run state :=
    match first.run state with
    | .error defect => .error defect
    | .ok ⟨consumed, .failed error⟩ => .ok ⟨consumed, .failed error⟩
    | .ok ⟨consumed, .ok value middle error⟩ =>
        (second.run middle).map fun outcome => (outcome.map (f value)).after consumed error

/-- Run two parsers in sequence and keep both values. -/
def pair (first : Parser σ υ α) (second : Parser σ υ β) : Parser σ υ (α × β) :=
  first.zipWith second Prod.mk

/-- Run two parsers in sequence and keep the value of the first. -/
def keepLeft (first : Parser σ υ α) (second : Parser σ υ β) : Parser σ υ α :=
  first.zipWith second fun value _ => value

/-- Run two parsers in sequence and keep the value of the second. -/
def keepRight (first : Parser σ υ α) (second : Parser σ υ β) : Parser σ υ β :=
  first.zipWith second fun _ value => value

/-- Run a parser between two others. -/
def between
    (left : Parser σ υ β)
    (right : Parser σ υ γ)
    (parser : Parser σ υ α) :
    Parser σ υ α :=
  (left.keepRight parser).keepLeft right

@[simp] theorem run_pure (value : α) (state : State σ υ) :
    (pure value : Parser σ υ α).run state =
      .ok ⟨false, .ok value state (.unknown state.position)⟩ := rfl

@[simp] theorem run_empty (state : State σ υ) :
    (empty : Parser σ υ α).run state = .ok ⟨false, .failed (.unknown state.position)⟩ := rfl

@[simp] theorem run_failWith (kind : MessageKind) (text : String) (state : State σ υ) :
    (failWith kind text : Parser σ υ α).run state =
      .ok ⟨false, .failed (.single state.position kind text)⟩ := rfl

@[simp] theorem run_fail (text : String) (state : State σ υ) :
    (fail text : Parser σ υ α).run state =
      .ok ⟨false, .failed (.single state.position .generic text)⟩ := rfl

@[simp] theorem run_unexpected (text : String) (state : State σ υ) :
    (unexpected text : Parser σ υ α).run state =
      .ok ⟨false, .failed (.single state.position .unexpected text)⟩ := rfl

@[simp] theorem run_map (parser : Parser σ υ α) (f : α → β) (state : State σ υ) :
    (parser.map f).run state = (parser.run state).map (·.map f) := rfl

theorem run_bind_of_error
    {parser : Parser σ υ α}
    {state : State σ υ}
    {defect : Defect}
    (ran : parser.run state = .error defect)
    (next : α → Parser σ υ β) :
    (parser.bind next).run state = .error defect := by
  simp [bind, ran]

theorem run_bind_of_failed
    {parser : Parser σ υ α}
    {state : State σ υ}
    {consumed : Bool}
    {error : ParseError}
    (ran : parser.run state = .ok ⟨consumed, .failed error⟩)
    (next : α → Parser σ υ β) :
    (parser.bind next).run state = .ok ⟨consumed, .failed error⟩ := by
  simp [bind, ran]

theorem run_bind_of_ok
    {parser : Parser σ υ α}
    {state middle : State σ υ}
    {consumed : Bool}
    {value : α}
    {error : ParseError}
    (ran : parser.run state = .ok ⟨consumed, .ok value middle error⟩)
    (next : α → Parser σ υ β) :
    (parser.bind next).run state =
      ((next value).run middle).map (·.after consumed error) := by
  simp [bind, ran]

theorem run_zipWith_of_error
    {first : Parser σ υ α}
    {state : State σ υ}
    {defect : Defect}
    (ran : first.run state = .error defect)
    (second : Parser σ υ β)
    (f : α → β → γ) :
    (first.zipWith second f).run state = .error defect := by
  simp [zipWith, ran]

theorem run_zipWith_of_failed
    {first : Parser σ υ α}
    {state : State σ υ}
    {consumed : Bool}
    {error : ParseError}
    (ran : first.run state = .ok ⟨consumed, .failed error⟩)
    (second : Parser σ υ β)
    (f : α → β → γ) :
    (first.zipWith second f).run state = .ok ⟨consumed, .failed error⟩ := by
  simp [zipWith, ran]

theorem run_zipWith_of_ok
    {first : Parser σ υ α}
    {state middle : State σ υ}
    {consumed : Bool}
    {value : α}
    {error : ParseError}
    (ran : first.run state = .ok ⟨consumed, .ok value middle error⟩)
    (second : Parser σ υ β)
    (f : α → β → γ) :
    (first.zipWith second f).run state =
      (second.run middle).map fun outcome => (outcome.map (f value)).after consumed error := by
  simp [zipWith, ran]

theorem run_zipWith_of_second_error
    {first : Parser σ υ α}
    {second : Parser σ υ β}
    {state middle : State σ υ}
    {consumed : Bool}
    {value : α}
    {error : ParseError}
    {defect : Defect}
    (ran : first.run state = .ok ⟨consumed, .ok value middle error⟩)
    (failed : second.run middle = .error defect)
    (f : α → β → γ) :
    (first.zipWith second f).run state = .error defect := by
  rw [run_zipWith_of_ok ran, failed]
  rfl

end Parser
end Predictive
