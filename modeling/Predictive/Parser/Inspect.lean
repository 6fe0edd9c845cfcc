import Predictive.Parser.Sequence

/-!
# The state as a value

Parsers that read or replace the input to come, its position, or the value of the user.
They consume nothing, whatever they do to the input.
-/

namespace Predictive
namespace Parser

variable {σ υ : Type}

/-- Change the state and return the new one. -/
def modifyState (f : State σ υ → State σ υ) : Parser σ υ (State σ υ) :=
  ⟨fun state => .ok ⟨false, .ok (f state) (f state) (.unknown (f state).position)⟩⟩

/-- The state. -/
def getState : Parser σ υ (State σ υ) :=
  modifyState id

/-- The position of the input to come. -/
def getPosition : Parser σ υ Position :=
  getState.map State.position

/-- The input to come. -/
def getInput : Parser σ υ σ :=
  getState.map State.input

/-- The value of the user. -/
def getUser : Parser σ υ υ :=
  getState.map State.user

/-- Change the value of the user. -/
def modifyUser (f : υ → υ) : Parser σ υ Unit :=
  (modifyState fun state => { state with user := f state.user }).map fun _ => ()

/-- Replace the value of the user. -/
def setUser (user : υ) : Parser σ υ Unit :=
  modifyUser fun _ => user

/-- Replace the position. -/
def setPosition (position : Position) : Parser σ υ Unit :=
  (modifyState fun state => { state with position }).map fun _ => ()

/-- Replace the input to come. -/
def setInput (input : σ) : Parser σ υ Unit :=
  (modifyState fun state => { state with input }).map fun _ => ()

@[simp] theorem run_modifyState (f : State σ υ → State σ υ) (state : State σ υ) :
    (modifyState f).run state =
      .ok ⟨false, .ok (f state) (f state) (.unknown (f state).position)⟩ := rfl

@[simp] theorem run_getPosition (state : State σ υ) :
    getPosition.run state =
      .ok ⟨false, .ok state.position state (.unknown state.position)⟩ := rfl

@[simp] theorem run_modifyUser (f : υ → υ) (state : State σ υ) :
    (modifyUser f : Parser σ υ Unit).run state =
      .ok ⟨false, .ok () { state with user := f state.user } (.unknown state.position)⟩ := rfl

end Parser
end Predictive
