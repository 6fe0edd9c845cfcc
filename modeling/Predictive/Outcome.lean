import Predictive.ParseError.Basic
import Predictive.TokenStream.Basic

/-!
# Outcomes of a parse

A parser answers two questions: did it consume input, and did it succeed? A success
carries the error that would have been reported had the parse stopped there, so that the
expectations on both sides of a boundary end up in one message. A parser that is
ill-formed has no outcome at all but a defect.
-/

namespace Predictive

/-- The input to come, its position, and a value of the user. -/
structure State (σ υ : Type) where
  input : σ
  position : Position
  user : υ
deriving DecidableEq

/-- Success or failure. -/
inductive Reply (σ υ α : Type) where
  /-- A value, the state after it, and the error had the parse stopped here. -/
  | ok (value : α) (state : State σ υ) (error : ParseError)
  /-- A failure. -/
  | failed (error : ParseError)
deriving DecidableEq

/-- A reply, and whether input was consumed for it. -/
structure Outcome (σ υ α : Type) where
  consumed : Bool
  reply : Reply σ υ α
deriving DecidableEq

/-- Why an ill-formed parser has no outcome. -/
inductive Defect where
  /-- A repeated parser succeeded without consuming. -/
  | endlessMany
  /-- A parser repeated up to an end succeeded without consuming. -/
  | endlessManyTill
  /-- A separated parser and its separator both succeeded without consuming. -/
  | endlessSepEndBy
  /-- A recursive parser ran while it was being defined. -/
  | undefinedRecursion
  /-- A recursive parser ran after its definition was gone. -/
  | droppedRecursion
  /-- A loop or a recursion was given up as endless. -/
  | unbounded
deriving DecidableEq

namespace Defect

/-- The text that reports the defect. -/
def message : Defect → String
  | endlessMany =>
      "combinator 'many' is applied to a parser that accepts an empty string"
  | endlessManyTill =>
      "combinator 'many_till' is applied to a parser that accepts an empty string"
  | endlessSepEndBy =>
      "combinator 'sep_end_by' is applied to parsers that accept an empty string"
  | undefinedRecursion =>
      "recursive parser was run before its definition was complete"
  | droppedRecursion =>
      "recursive parser was run after its definition was dropped"
  | unbounded =>
      "parser does not come to an end"

end Defect

variable {σ υ α β : Type}

namespace State

/-- The number of rounds granted to a loop that starts here: one for each token to come, and
ample room for parsers that exchange their input for another. -/
def patience {τ : Type} [TokenStream σ τ] (state : State σ υ) : Nat :=
  TokenStream.size state.input + Nat.pow 2 40

theorem size_lt_patience {τ : Type} [TokenStream σ τ] (state : State σ υ) :
    TokenStream.size state.input < state.patience :=
  Nat.lt_add_of_pos_right (Nat.pow_pos (by decide))

end State

namespace Reply

/-- Whether the reply is a success. -/
def isOk : Reply σ υ α → Bool
  | ok .. => true
  | failed _ => false

/-- The value of a success. -/
def value? : Reply σ υ α → Option α
  | ok value _ _ => some value
  | failed _ => none

/-- The error of a failure, or the one that a success carries. -/
def errorOf : Reply σ υ α → ParseError
  | ok _ _ error => error
  | failed error => error

/-- The reply with its value changed. -/
def map (f : α → β) : Reply σ υ α → Reply σ υ β
  | ok value state error => ok (f value) state error
  | failed error => failed error

/-- The reply with its error changed. -/
def mapError (f : ParseError → ParseError) : Reply σ υ α → Reply σ υ α
  | ok value state error => ok value state (f error)
  | failed error => failed (f error)

/-- The reply with an earlier error merged in front of its own. -/
def mergeError (reply : Reply σ υ α) (earlier : ParseError) : Reply σ υ α :=
  reply.mapError earlier.merge

@[simp] theorem map_ok (f : α → β) (value : α) (state : State σ υ) (error : ParseError) :
    (ok value state error).map f = ok (f value) state error := rfl

@[simp] theorem map_failed (f : α → β) (error : ParseError) :
    (failed error : Reply σ υ α).map f = failed error := rfl

@[simp] theorem mergeError_ok
    (value : α)
    (state : State σ υ)
    (error earlier : ParseError) :
    (ok value state error).mergeError earlier = ok value state (earlier.merge error) := rfl

@[simp] theorem mergeError_failed (error earlier : ParseError) :
    (failed error : Reply σ υ α).mergeError earlier = failed (earlier.merge error) := rfl

end Reply

namespace Outcome

/-- The outcome with its value changed. -/
def map (f : α → β) (outcome : Outcome σ υ α) : Outcome σ υ β :=
  ⟨outcome.consumed, outcome.reply.map f⟩

/-- The outcome of a sequence, from that of its second half. If that consumed nothing, the
first half decides whether input was consumed, and its error is merged in front. -/
def after (second : Outcome σ υ α) (consumed : Bool) (error : ParseError) : Outcome σ υ α :=
  if second.consumed then second else ⟨consumed, second.reply.mergeError error⟩

@[simp] theorem map_mk (f : α → β) (consumed : Bool) (reply : Reply σ υ α) :
    map f ⟨consumed, reply⟩ = ⟨consumed, reply.map f⟩ := rfl

@[simp] theorem after_consumed (reply : Reply σ υ α) (consumed : Bool) (error : ParseError) :
    after ⟨true, reply⟩ consumed error = ⟨true, reply⟩ := rfl

@[simp] theorem after_empty (reply : Reply σ υ α) (consumed : Bool) (error : ParseError) :
    after ⟨false, reply⟩ consumed error = ⟨consumed, reply.mergeError error⟩ := rfl

end Outcome
end Predictive
