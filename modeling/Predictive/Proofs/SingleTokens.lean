import Predictive.Proofs.Reading
import Predictive.Proofs.Returning
import Predictive.Proofs.Taking

/-!
# Parsers of single tokens

A parser takes one token if it accepts the tokens that have a value, each with its value, and
refuses all others. The parsers for characters and tokens are of this kind. The end of the input
is where the parser for any token refuses.
-/

namespace Predictive
namespace Parser

variable {σ τ υ α : Type} [TokenStream σ τ]

/-- The parser accepts the tokens that have a value and refuses all others. -/
structure TakesOne (parser : Parser σ υ α) (valueOf : τ → Option α) : Prop where
  accepts : ∀ ⦃state token value rest⦄, TokenStream.uncons? state.input = some (token, rest) →
    valueOf token = some value →
      ∃ next error, parser.Yields state true value next error ∧ next.input = rest
  refuses : ∀ ⦃state⦄, (∀ token rest, TokenStream.uncons? state.input = some (token, rest) →
    valueOf token = none) → ∃ error, parser.Fails state false error

/-- The basic parser of tokens takes one token. -/
theorem token_takesOne
    (describe : τ → String)
    (next : Position → τ → σ → Position)
    (test : τ → Option α) :
    (token describe next test : Parser σ υ α).TakesOne test := by
  constructor
  · intro state found value rest taken accepted
    exact ⟨_, _, run_token_of_some taken accepted describe next, rfl⟩
  · intro state refused
    cases taken : TokenStream.uncons? state.input with
    | none => exact ⟨_, run_token_of_end taken describe next test⟩
    | some pair => exact ⟨_, run_token_of_none taken (refused _ _ taken) describe next⟩

namespace TakesOne

/-- Labels change only what is said where the token does not come. -/
theorem label
    {parser : Parser σ υ α}
    {valueOf : τ → Option α}
    (takes : parser.TakesOne valueOf)
    (name : String) :
    (parser.label name).TakesOne valueOf := by
  constructor
  · intro state token value rest taken accepted
    obtain ⟨next, error, ran, moved⟩ := takes.accepts taken accepted
    refine ⟨next, error, ?_, moved⟩
    rw [Yields, Parser.label, Parser.labels, run_mk, ran]
    rfl
  · intro state refused
    obtain ⟨error, failed⟩ := takes.refuses refused
    refine ⟨error.setExpected [name], ?_⟩
    rw [Fails, Parser.label, Parser.labels, run_mk, failed]
    rfl

variable {parser : Parser σ υ α} {valueOf : τ → Option α} (takes : parser.TakesOne valueOf)
include takes

/-- The parser takes a token that has a value, or fails at once. -/
theorem run_cases (state : State σ υ) :
    (∃ token value next error, TokenStream.uncons? state.input = some (token, next.input) ∧
      valueOf token = some value ∧ parser.Yields state true value next error) ∨
        ∃ error, parser.Fails state false error := by
  by_cases refused : ∀ token rest, TokenStream.uncons? state.input = some (token, rest) →
      valueOf token = none
  · exact .inr (takes.refuses refused)
  · push Not at refused
    obtain ⟨token, rest, taken, accepted⟩ := refused
    obtain ⟨value, valued⟩ := Option.ne_none_iff_exists'.mp accepted
    obtain ⟨next, error, ran, rfl⟩ := takes.accepts taken valued
    exact .inl ⟨token, value, next, error, taken, valued, ran⟩

/-- A success has taken a token that has the value. -/
theorem of_yields
    {state next : State σ υ}
    {consumed : Bool}
    {value : α}
    {error : ParseError}
    (ran : parser.Yields state consumed value next error) :
    ∃ token, TokenStream.uncons? state.input = some (token, next.input) ∧
      valueOf token = some value ∧ consumed = true := by
  rcases takes.run_cases state with ⟨token, result, after, found, taken, valued, run⟩ |
    ⟨found, failed⟩
  · obtain ⟨rfl, rfl, rfl, -⟩ := Yields.unique run ran
    exact ⟨token, taken, valued, rfl⟩
  · exact absurd failed ran.not_fails

/-- One token is taken or not, so that there is an outcome. -/
theorem returns : parser.Returns := by
  intro state
  rcases takes.run_cases state with ⟨_, _, next, error, -, -, ran⟩ | ⟨error, failed⟩
  · exact ⟨_, ran⟩
  · exact ⟨_, failed⟩

/-- A token is consumed when it is taken. -/
theorem alwaysConsumes : parser.AlwaysConsumes := by
  intro state value next error ran
  obtain ⟨-, -, -, tag⟩ := takes.of_yields ran
  contradiction

variable [LawfulTokenStream σ]

theorem tagsSoundly : parser.TagsSoundly := by
  intro state consumed value next error ran
  obtain ⟨token, taken, -, rfl⟩ := takes.of_yields ran
  exact ⟨[token], by simp, LawfulTokenStream.toList_eq_cons taken⟩

/-- Nothing but the token is taken. -/
theorem takesOnly : parser.TakesOnly (Category.single valueOf) := by
  intro state consumed value next error ran
  obtain ⟨token, taken, valued, -⟩ := takes.of_yields ran
  exact ⟨[token], LawfulTokenStream.toList_eq_cons taken, token, rfl, valued⟩

/-- A token with a value is read. -/
theorem reads
    {token : τ}
    {value : α}
    (valued : valueOf token = some value)
    (rest : List τ) :
    parser.Reads View.tokens [token] value rest := by
  intro state viewed
  obtain ⟨others, taken, left⟩ := TokenStream.uncons?_of_toList_cons viewed
  obtain ⟨next, error, ran, rfl⟩ := takes.accepts taken valued
  exact ⟨next, error, ran, left⟩

/-- A token without a value is refused. -/
theorem refuses_of_head
    {tokens : List τ}
    (refused : ∀ token ∈ tokens.head?, valueOf token = none) :
    parser.Refuses View.tokens tokens := by
  rintro state rfl
  refine takes.refuses fun token rest taken => refused token ?_
  rw [LawfulTokenStream.toList_eq_cons taken]
  rfl

end TakesOne

/-- The parser of a certain token takes that token. -/
theorem tokenEq_takesOne [Describe τ] [DecidableEq τ] (wanted : τ) :
    (tokenEq wanted : Parser σ υ τ).TakesOne
      fun found => if found == wanted then some found else none :=
  (token_takesOne _ _ _).label _

/-! ## The end of the input -/

/-- Nothing is taken where something must not follow. -/
theorem Refuses.notFollowedBy_reads
    {κ : Type}
    {view : View σ υ κ}
    {rest : List κ}
    [Describe α]
    {parser : Parser σ υ α}
    (refuses : parser.Refuses view rest) :
    parser.notFollowedBy.Reads view [] () rest := by
  intro state viewed
  obtain ⟨error, failed⟩ := refuses viewed
  refine ⟨state, .unknown state.position, ?_, viewed⟩
  rw [Yields, Parser.notFollowedBy, run_mk, failed]
  rfl

theorem anyToken_takesOne [Describe τ] : (anyToken : Parser σ υ τ).TakesOne some := by
  unfold anyToken satisfyToken
  exact token_takesOne _ _ _

variable [LawfulTokenStream σ]

theorem endOfInput_reads [Describe τ] :
    (endOfInput : Parser σ υ Unit).Reads View.tokens [] () [] :=
  (anyToken_takesOne.refuses_of_head (by simp)).notFollowedBy_reads.labels _

/-- The end of the input is found only where no tokens are left. -/
theorem toList_of_endOfInput [Describe τ]
    {state next : State σ υ}
    {consumed : Bool}
    {value : Unit}
    {error : ParseError}
    (ran : endOfInput.Yields state consumed value next error) :
    TokenStream.toList state.input = [] := by
  obtain ⟨found, inner⟩ := ran.of_labels
  cases viewed : TokenStream.toList state.input with
  | nil => rfl
  | cons token tokens =>
      obtain ⟨after, earlier, read, -⟩ :=
        (anyToken_takesOne.reads (rfl : some token = some token) tokens) viewed
      rw [Yields, notFollowedBy, run_mk, read] at inner
      simp [Except.map] at inner

end Parser

end Predictive
