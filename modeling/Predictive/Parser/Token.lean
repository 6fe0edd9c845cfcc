import Predictive.Describe
import Predictive.Parser.Choice

/-!
# Single tokens and fixed sequences of tokens

The parsers that look at the input. Taking one token consumes it; refusing it consumes
nothing and reports the token, or an empty text at the end of the input. A fixed sequence
of tokens consumes as soon as its first token is there, even if a later one is missing.
-/

namespace Predictive
namespace Parser

variable {σ τ υ α : Type} [TokenStream σ τ]

/-- Accept a token for which the test has a value. `describe` names a refused token in the
message, and `next` finds the position after an accepted one from the position before it,
the token and the rest. -/
def token
    (describe : τ → String)
    (next : Position → τ → σ → Position)
    (test : τ → Option α) :
    Parser σ υ α where
  run state :=
    match TokenStream.uncons? state.input with
    | none => .ok ⟨false, .failed (.single state.position .sysUnexpected "")⟩
    | some (found, rest) =>
        match test found with
        | none => .ok ⟨false, .failed (.single state.position .sysUnexpected (describe found))⟩
        | some value =>
            let position := next state.position found rest
            .ok ⟨true, .ok value ⟨rest, position, state.user⟩ (.unknown position)⟩

/-- The rest of the input after some tokens. If they are not all there, whether the first one
was, and the token found in place of one of them, if any. -/
def dropTokens [DecidableEq τ] (started : Bool) (input : σ) :
    List τ → Except (Bool × Option τ) σ
  | [] => .ok input
  | wanted :: others =>
      match TokenStream.uncons? input with
      | none => .error (started, none)
      | some (found, rest) =>
          if found = wanted then dropTokens true rest others else .error (started, some found)

/-- Accept a sequence of tokens. A failure stands at the position of the first one and expects
the sequence as a whole. -/
def tokens [DecidableEq τ]
    (describe : List τ → String)
    (next : Position → List τ → Position)
    (wanted : List τ) :
    Parser σ υ (List τ) where
  run state :=
    match dropTokens false state.input wanted with
    | .error (started, found) =>
        let text := (found.map fun one => describe [one]).getD ""
        let error := ParseError.single state.position .sysUnexpected text
        .ok ⟨started, .failed (error.setMessage ⟨.expected, describe wanted⟩)⟩
    | .ok rest =>
        let position := next state.position wanted
        .ok ⟨!wanted.isEmpty, .ok wanted ⟨rest, position, state.user⟩ (.unknown position)⟩

variable [Describe τ]

/-- Accept a token that satisfies a predicate. -/
def satisfyToken (predicate : τ → Bool) : Parser σ υ τ :=
  token describe (fun position found _ => TokenStream.afterToken σ position found)
    fun found => if predicate found then some found else none

/-- Accept a certain token. -/
def tokenEq [DecidableEq τ] (wanted : τ) : Parser σ υ τ :=
  (satisfyToken fun found => found == wanted).label (describe wanted)

/-- Accept any token. -/
def anyToken : Parser σ υ τ :=
  satisfyToken fun _ => true

/-- Succeed and consume nothing only where the parser fails. The message names the value that
should not have been there. -/
def notFollowedBy {σ υ α : Type} [Describe α] (parser : Parser σ υ α) : Parser σ υ Unit where
  run state :=
    (parser.run state).map fun outcome =>
      match outcome.reply with
      | .ok value _ _ =>
          ⟨false, .failed (.single state.position .unexpected (Describe.name value))⟩
      | .failed _ => ⟨false, .ok () state (.unknown state.position)⟩

/-- Accept the end of the input. -/
def endOfInput : Parser σ υ Unit :=
  (notFollowedBy anyToken).label "end of input"

omit [Describe τ]

theorem run_token_of_end
    {state : State σ υ}
    (atEnd : TokenStream.uncons? state.input = none)
    (describe : τ → String)
    (next : Position → τ → σ → Position)
    (test : τ → Option α) :
    (token describe next test).run state =
      .ok ⟨false, .failed (.single state.position .sysUnexpected "")⟩ := by
  simp [token, atEnd]

theorem run_token_of_some
    {state : State σ υ}
    {found : τ}
    {rest : σ}
    {test : τ → Option α}
    {value : α}
    (taken : TokenStream.uncons? state.input = some (found, rest))
    (accepted : test found = some value)
    (describe : τ → String)
    (next : Position → τ → σ → Position) :
    (token describe next test).run state =
      .ok ⟨true, .ok value ⟨rest, next state.position found rest, state.user⟩
        (.unknown (next state.position found rest))⟩ := by
  simp [token, taken, accepted]

theorem run_token_of_none
    {state : State σ υ}
    {found : τ}
    {rest : σ}
    {test : τ → Option α}
    (taken : TokenStream.uncons? state.input = some (found, rest))
    (refused : test found = none)
    (describe : τ → String)
    (next : Position → τ → σ → Position) :
    (token describe next test).run state =
      .ok ⟨false, .failed (.single state.position .sysUnexpected (describe found))⟩ := by
  simp [token, taken, refused]

@[simp] theorem dropTokens_nil [DecidableEq τ] (started : Bool) (input : σ) :
    dropTokens started input [] = .ok input := rfl

end Parser
end Predictive
