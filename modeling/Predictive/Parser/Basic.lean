import Predictive.Outcome

/-!
# Parsers

A parser maps a state to an outcome, or to a defect if it is ill-formed there. Parsers
are plain values: combinators build new parsers out of them, and a parser may run on any
number of states.
-/

namespace Predictive

/-- A parser over streams `σ` with user values `υ` and results `α`. -/
@[ext] structure Parser (σ υ α : Type) where
  run : State σ υ → Except Defect (Outcome σ υ α)

namespace Parser

variable {σ υ α : Type}

/-- The value and the state of a success, or the error of a failure. -/
def runState
    (parser : Parser σ υ α)
    (state : State σ υ) :
    Except Defect (Except ParseError (α × State σ υ)) :=
  match parser.run state with
  | .error defect => .error defect
  | .ok ⟨_, .ok value next _⟩ => .ok (.ok (value, next))
  | .ok ⟨_, .failed error⟩ => .ok (.error error)

/-- The value that the parser finds at the start of a named input. It need not take the whole
input. -/
def parse
    (parser : Parser σ υ α)
    (user : υ)
    (name : String)
    (input : σ) :
    Except Defect (Except ParseError α) :=
  match parser.runState ⟨input, Position.start name, user⟩ with
  | .error defect => .error defect
  | .ok (.ok (value, _)) => .ok (.ok value)
  | .ok (.error error) => .ok (.error error)

/-- The parser that is defective wherever it runs. -/
def defective (defect : Defect) : Parser σ υ α :=
  ⟨fun _ => .error defect⟩

@[simp] theorem run_mk
    (run : State σ υ → Except Defect (Outcome σ υ α))
    (state : State σ υ) :
    (⟨run⟩ : Parser σ υ α).run state = run state := rfl

@[simp] theorem run_defective (defect : Defect) (state : State σ υ) :
    (defective defect : Parser σ υ α).run state = .error defect := rfl

end Parser
end Predictive
