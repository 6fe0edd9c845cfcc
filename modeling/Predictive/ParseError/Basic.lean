import Predictive.Position

/-!
# Parse errors

A parse error is a position with a list of messages, none of them twice. Errors from
several branches are merged: an error with messages beats one without, the later
position beats the earlier one, and at one position the messages are joined in the order
in which they were first seen.
-/

namespace Predictive

/-- What a message reports. -/
inductive MessageKind where
  /-- A token that no parser wanted, found by the engine; the empty text is the end of input. -/
  | sysUnexpected
  /-- Something unexpected, reported by the author of a grammar. -/
  | unexpected
  /-- Something that would have been accepted. -/
  | expected
  /-- Anything else. -/
  | generic
deriving DecidableEq

/-- A message of a parse error. -/
structure Message where
  kind : MessageKind
  text : String
deriving DecidableEq

/-- What went wrong at a position. -/
structure ParseError where
  position : Position
  messages : List Message
deriving DecidableEq

namespace ParseError

/-- The error that says nothing. -/
def unknown (position : Position) : ParseError :=
  ⟨position, []⟩

/-- The error with a single message. -/
def single (position : Position) (kind : MessageKind) (text : String) : ParseError :=
  ⟨position, [⟨kind, text⟩]⟩

/-- Whether the error says nothing. -/
def isUnknown (error : ParseError) : Bool :=
  error.messages.isEmpty

/-- The error at another position. -/
def moveTo (error : ParseError) (position : Position) : ParseError :=
  { error with position }

/-- The error with a message at the end, unless it has that message already. -/
def addMessage (error : ParseError) (message : Message) : ParseError :=
  if message ∈ error.messages then error
  else { error with messages := error.messages ++ [message] }

/-- The error with several messages added, from left to right. -/
def addMessages (error : ParseError) (messages : List Message) : ParseError :=
  messages.foldl addMessage error

/-- The error with a message in place of all messages of the same kind. -/
def setMessage (error : ParseError) (message : Message) : ParseError :=
  { error with messages := error.messages.filter (·.kind ≠ message.kind) ++ [message] }

/-- The error with one expected message for each label in place of all such messages. No
label at all counts as the hidden label `""`. -/
def setExpected (error : ParseError) : List String → ParseError
  | [] => error.setMessage ⟨.expected, ""⟩
  | label :: labels =>
      (error.setMessage ⟨.expected, label⟩).addMessages (labels.map (⟨.expected, ·⟩))

/-- The more informative of two errors, or both in one at a common position. -/
def merge (first second : ParseError) : ParseError :=
  if second.isUnknown && !first.isUnknown then first
  else if first.isUnknown && !second.isUnknown then second
  else match compare first.position second.position with
    | .lt => second
    | .gt => first
    | .eq => first.addMessages second.messages

@[simp] theorem isUnknown_unknown (position : Position) : (unknown position).isUnknown = true := rfl

@[simp] theorem isUnknown_single (position : Position) (kind : MessageKind) (text : String) :
    (single position kind text).isUnknown = false := rfl

@[simp] theorem addMessages_nil (error : ParseError) : error.addMessages [] = error := rfl

@[simp] theorem addMessages_cons
    (error : ParseError)
    (message : Message)
    (messages : List Message) :
    error.addMessages (message :: messages) = (error.addMessage message).addMessages messages := rfl

@[simp] theorem position_addMessage (error : ParseError) (message : Message) :
    (error.addMessage message).position = error.position := by
  unfold addMessage
  split <;> rfl

@[simp] theorem position_addMessages (error : ParseError) (messages : List Message) :
    (error.addMessages messages).position = error.position := by
  induction messages generalizing error with
  | nil => rfl
  | cons message messages ih => simp [ih]

@[simp] theorem position_setMessage (error : ParseError) (message : Message) :
    (error.setMessage message).position = error.position := rfl

@[simp] theorem position_setExpected (error : ParseError) (labels : List String) :
    (error.setExpected labels).position = error.position := by
  cases labels <;> simp [setExpected]

end ParseError
end Predictive
