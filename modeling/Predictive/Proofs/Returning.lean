import Predictive.Proofs.LoopRecursion

/-!
# Parsers without defects

A parser returns if it has an outcome on every state, be it a success or a failure. Sequences
and choices of parsers that return do so too. A repetition returns if its parser consumes input
whenever it succeeds: the rounds that it is granted then suffice, since every round takes a
token.

Where parsers exchange their input for another one, a repetition may go on without end even so, and
is given up in the end. This is the only defect that it may have then, and sequences and choices
hand it on.
-/

namespace Predictive

/-- Fewer tokens are left than there were. -/
def State.Shortens {σ τ υ : Type} [TokenStream σ τ] (before after : State σ υ) (_ : Bool) : Prop :=
  (TokenStream.toList after.input).length < (TokenStream.toList before.input).length

namespace Parser

/-- The parser has an outcome on every state. -/
def Returns {σ υ α : Type} (parser : Parser σ υ α) : Prop :=
  ∀ state, ∃ outcome, parser.run state = .ok outcome

/-- The parser has an outcome on every state, unless it is given up as endless there and parsers may
exchange their input. -/
def ReturnsUnless {σ υ α : Type} (exchange : Prop) (parser : Parser σ υ α) : Prop :=
  ∀ ⦃state defect⦄, parser.run state = .error defect → exchange ∧ defect = .unbounded

/-- The parser may be repeated: every success of it has consumed input, so that fewer tokens are
left unless parsers may exchange their input. -/
structure Repeatable
    {σ τ υ α : Type}
    [TokenStream σ τ]
    (exchange : Prop)
    (parser : Parser σ υ α) : Prop where
  returns : parser.ReturnsUnless exchange
  consumes : parser.AlwaysConsumes
  shortens : ¬ exchange → parser.Relates State.Shortens

section
variable {σ υ α β γ : Type} {exchange : Prop}

theorem returns_iff {parser : Parser σ υ α} : parser.Returns ↔ parser.ReturnsUnless False := by
  constructor
  · intro returns state defect ran
    obtain ⟨outcome, returned⟩ := returns state
    rw [ran] at returned
    contradiction
  · intro returns state
    cases ran : parser.run state with
    | error defect => exact (returns ran).1.elim
    | ok outcome => exact ⟨outcome, rfl⟩

theorem Returns.returnsUnless {parser : Parser σ υ α} (returns : parser.Returns) :
    parser.ReturnsUnless exchange :=
  fun _ _ ran => (returns_iff.mp returns ran).1.elim

theorem pure_returns (value : α) : (Parser.pure value : Parser σ υ α).Returns :=
  fun _ => ⟨_, rfl⟩

theorem empty_returns : (Parser.empty : Parser σ υ α).Returns :=
  fun _ => ⟨_, rfl⟩

theorem failWith_returns (kind : MessageKind) (text : String) :
    (Parser.failWith kind text : Parser σ υ α).Returns :=
  fun _ => ⟨_, rfl⟩

namespace ReturnsUnless

theorem map {parser : Parser σ υ α} (returns : parser.ReturnsUnless exchange) (f : α → β) :
    (parser.map f).ReturnsUnless exchange := by
  intro state defect ran
  rw [run_map, exceptMap_eq_error_iff] at ran
  exact returns ran

theorem bind
    {parser : Parser σ υ α}
    {following : α → Parser σ υ β}
    (returns : parser.ReturnsUnless exchange)
    (others : ∀ value, (following value).ReturnsUnless exchange) :
    (parser.bind following).ReturnsUnless exchange := by
  intro state defect ran
  rcases firstRan : parser.run state with found | ⟨tag, ⟨value, middle, error⟩ | error⟩
  · rw [run_bind_of_error firstRan] at ran
    obtain rfl := Except.error.inj ran
    exact returns firstRan
  · rw [run_bind_of_ok firstRan, exceptMap_eq_error_iff] at ran
    exact others value ran
  · rw [run_bind_of_failed firstRan] at ran
    contradiction

theorem zipWith
    {first : Parser σ υ α}
    {second : Parser σ υ β}
    (returns : first.ReturnsUnless exchange)
    (others : second.ReturnsUnless exchange)
    (f : α → β → γ) :
    (first.zipWith second f).ReturnsUnless exchange := by
  rw [zipWith_eq_bind]
  exact returns.bind fun value => others.map (f value)

theorem orElse
    {first second : Parser σ υ α}
    (returns : first.ReturnsUnless exchange)
    (others : second.ReturnsUnless exchange) :
    (first.orElse second).ReturnsUnless exchange := by
  intro state defect ran
  rcases firstRan : first.run state with found | ⟨_ | _, ⟨value, next, error⟩ | error⟩
  · rw [run_orElse_of_error firstRan] at ran
    exact returns (firstRan.trans ran)
  · rw [run_orElse_of_ok firstRan] at ran
    contradiction
  · rw [run_orElse_of_empty_failed firstRan, exceptMap_eq_error_iff] at ran
    exact others ran
  · rw [run_orElse_of_ok firstRan] at ran
    contradiction
  · rw [run_orElse_of_consumed firstRan] at ran
    contradiction

theorem labels
    {parser : Parser σ υ α}
    (returns : parser.ReturnsUnless exchange)
    (names : List String) :
    (parser.labels names).ReturnsUnless exchange := by
  intro state defect ran
  unfold Parser.labels at ran
  rw [run_mk, exceptMap_eq_error_iff] at ran
  exact returns ran

theorem attempt {parser : Parser σ υ α} (returns : parser.ReturnsUnless exchange) :
    parser.attempt.ReturnsUnless exchange := by
  intro state defect ran
  unfold Parser.attempt at ran
  rw [run_mk, exceptMap_eq_error_iff] at ran
  exact returns ran

end ReturnsUnless

theorem Returns.map {parser : Parser σ υ α} (returns : parser.Returns) (f : α → β) :
    (parser.map f).Returns :=
  returns_iff.mpr (returns.returnsUnless.map f)

theorem Returns.bind
    {parser : Parser σ υ α}
    {following : α → Parser σ υ β}
    (returns : parser.Returns)
    (others : ∀ value, (following value).Returns) :
    (parser.bind following).Returns :=
  returns_iff.mpr (returns.returnsUnless.bind fun value => (others value).returnsUnless)

theorem Returns.zipWith
    {first : Parser σ υ α}
    {second : Parser σ υ β}
    (returns : first.Returns)
    (others : second.Returns)
    (f : α → β → γ) :
    (first.zipWith second f).Returns :=
  returns_iff.mpr (returns.returnsUnless.zipWith others.returnsUnless f)

theorem Returns.orElse
    {first second : Parser σ υ α}
    (returns : first.Returns)
    (others : second.Returns) :
    (first.orElse second).Returns :=
  returns_iff.mpr (returns.returnsUnless.orElse others.returnsUnless)

theorem choice_returns
    {parsers : List (Parser σ υ α)}
    (return' : ∀ parser ∈ parsers, parser.Returns) :
    (Parser.choice parsers).Returns := by
  cases parsers with
  | nil => exact empty_returns
  | cons parser parsers =>
      have first : parser.Returns := return' parser List.mem_cons_self
      have others : ∀ other ∈ parsers, other.Returns :=
        fun other present => return' other (List.mem_cons_of_mem parser present)
      change (parsers.foldl Parser.orElse parser).Returns
      clear return'
      induction parsers generalizing parser with
      | nil => exact first
      | cons second parsers ih =>
          refine ih _ (first.orElse (others second List.mem_cons_self)) fun other present => ?_
          exact others other (List.mem_cons_of_mem second present)

theorem Returns.labels {parser : Parser σ υ α} (returns : parser.Returns) (names : List String) :
    (parser.labels names).Returns :=
  returns_iff.mpr (returns.returnsUnless.labels names)

theorem Returns.attempt {parser : Parser σ υ α} (returns : parser.Returns) :
    parser.attempt.Returns :=
  returns_iff.mpr returns.returnsUnless.attempt

theorem Returns.notFollowedBy [Describe α] {parser : Parser σ υ α} (returns : parser.Returns) :
    parser.notFollowedBy.Returns := by
  intro state
  obtain ⟨outcome, ran⟩ := returns state
  unfold Parser.notFollowedBy
  rw [run_mk, ran]
  exact ⟨_, rfl⟩

end

section
variable {σ τ υ α β γ : Type} [TokenStream σ τ]

theorem token_returns
    (describe : τ → String)
    (next : Position → τ → σ → Position)
    (test : τ → Option α) :
    (token describe next test : Parser σ υ α).Returns := by
  intro state
  cases taken : TokenStream.uncons? state.input with
  | none => exact ⟨_, run_token_of_end taken describe next test⟩
  | some pair =>
      obtain ⟨found, rest⟩ := pair
      cases tested : test found with
      | none => exact ⟨_, run_token_of_none taken tested describe next⟩
      | some value => exact ⟨_, run_token_of_some taken tested describe next⟩

theorem endOfInput_returns [Describe τ] : (endOfInput : Parser σ υ Unit).Returns := by
  have anyReturns : (anyToken : Parser σ υ τ).Returns := by
    unfold anyToken satisfyToken
    exact token_returns _ _ _
  exact anyReturns.notFollowedBy.labels _

/-- A loop over such a parser is given up as endless only where there is no telling how many tokens
are left. -/
theorem Repeatable.manyFoldFrom_eq_error
    {parser : Parser σ υ α}
    {exchange : Prop}
    (repeatable : parser.Repeatable exchange)
    {combine : β → α → β}
    {rounds : Nat}
    {consumed : Bool}
    {total : β}
    {state : State σ υ}
    {defect : Defect}
    (enough : ¬ exchange → (TokenStream.toList state.input).length < rounds)
    (ran : manyFoldFrom parser combine rounds consumed total state = .error defect) :
    exchange ∧ defect = .unbounded := by
  induction rounds generalizing consumed total state with
  | zero =>
      refine ⟨?_, (Except.error.inj ran).symm⟩
      by_contra kept
      exact Nat.not_lt_zero _ (enough kept)
  | succ rounds ih =>
      unfold manyFoldFrom at ran
      split at ran
      · rename_i parserRan
        obtain rfl := Except.error.inj ran
        exact repeatable.returns parserRan
      · rename_i parserRan
        refine ih (fun kept => ?_) ran
        have fewer := repeatable.shortens kept parserRan
        have granted := enough kept
        unfold State.Shortens at fewer
        omega
      · contradiction
      · rename_i parserRan
        exact absurd parserRan (repeatable.consumes _ _ _ _)
      · contradiction

/-- A parser that returns and always consumes may be repeated if its tags are sound. -/
theorem Returns.repeatable
    {parser : Parser σ υ α}
    {exchange : Prop}
    (returns : parser.Returns)
    (sound : parser.TagsSoundly)
    (consumes : parser.AlwaysConsumes) :
    parser.Repeatable exchange where
  returns := returns.returnsUnless
  consumes := consumes
  shortens _ := by
    intro state consumed value next error ran
    cases consumed with
    | false => exact absurd ran (consumes _ _ _ _)
    | true => exact (sound ran).length_lt

variable [LawfulTokenStream σ]

section
variable {parser : Parser σ υ α} {exchange : Prop} (repeatable : parser.Repeatable exchange)
include repeatable

theorem Repeatable.manyFold (first : β) (combine : β → α → β) :
    (parser.manyFold first combine).ReturnsUnless exchange := by
  intro state defect ran
  exact repeatable.manyFoldFrom_eq_error (fun _ => length_lt_patience) ran

theorem Repeatable.many : parser.many.ReturnsUnless exchange :=
  (repeatable.manyFold _ _).map _

end

section
variable
  {parser : Parser σ υ α}
  (returns : parser.Returns)
  (sound : parser.TagsSoundly)
  (consumes : parser.AlwaysConsumes)
include returns sound consumes

theorem Returns.manyFold (first : β) (combine : β → α → β) :
    (parser.manyFold first combine).Returns :=
  returns_iff.mpr ((returns.repeatable sound consumes).manyFold first combine)

theorem Returns.many : parser.many.Returns :=
  (returns.manyFold sound consumes _ _).map _

theorem Returns.many1 : parser.many1.Returns :=
  returns.zipWith (returns.many sound consumes) _

theorem Returns.skipMany : parser.skipMany.Returns :=
  returns.manyFold sound consumes _ _

theorem Returns.skipMany1 : parser.skipMany1.Returns :=
  returns.zipWith (returns.skipMany sound consumes) _

end

end

end Parser
end Predictive
