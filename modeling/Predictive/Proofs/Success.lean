import Predictive.Parser.Inspect
import Predictive.Parser.Recursion
import Predictive.Parser.Separate
import Predictive.Parser.Token

/-!
# What a success says

A combinator succeeds only where parsers that it is made of succeed. For each combinator one
lemma takes a success of the whole apart into the successes of its parts, with the tags, the
states and the errors between them. A repetition has a lemma of its own: it succeeds exactly
where its parser succeeds again and again, each time with input consumed, and then fails at
once.
-/

namespace Predictive

/-- A computation changed by a function succeeds only where the computation does. -/
theorem exceptMap_eq_ok_iff
    {ε α β : Type}
    {computation : Except ε α}
    {f : α → β}
    {result : β} :
    computation.map f = .ok result ↔
      ∃ value, computation = .ok value ∧ f value = result := by
  cases computation <;> simp [Except.map]

theorem exceptMap_eq_error_iff
    {ε α β : Type}
    {computation : Except ε α}
    {f : α → β}
    {reason : ε} :
    computation.map f = .error reason ↔ computation = .error reason := by
  cases computation <;> simp [Except.map]

namespace Outcome

variable {σ υ α β : Type}

theorem map_eq_ok_iff
    {outcome : Outcome σ υ α}
    {f : α → β}
    {consumed : Bool}
    {result : β}
    {next : State σ υ}
    {error : ParseError} :
    outcome.map f = ⟨consumed, .ok result next error⟩ ↔
      ∃ value, outcome = ⟨consumed, .ok value next error⟩ ∧ f value = result := by
  obtain ⟨tag, reply⟩ := outcome
  cases reply with
  | ok value state found =>
      simp only [map_mk, Reply.map_ok, Outcome.mk.injEq, Reply.ok.injEq]
      grind
  | failed found => simp [map]

/-- A sequence succeeds only where its second half does, and then the tag is that of either
half. -/
theorem after_eq_ok_iff
    {second : Outcome σ υ α}
    {first consumed : Bool}
    {earlier : ParseError}
    {value : α}
    {next : State σ υ}
    {error : ParseError} :
    second.after first earlier = ⟨consumed, .ok value next error⟩ ↔
      ∃ tag found, second = ⟨tag, .ok value next found⟩ ∧
        consumed = (first || tag) ∧
        error = if tag then found else earlier.merge found := by
  obtain ⟨tag, reply⟩ := second
  cases reply with
  | ok result state found =>
      cases tag <;> simp only [after_consumed, after_empty, Reply.mergeError_ok,
        Outcome.mk.injEq, Reply.ok.injEq] <;> grind
  | failed found => cases tag <;> simp

end Outcome

namespace Parser

variable {σ τ υ α β γ : Type}

/-- The parser succeeds on a state with a value, in a next state, and leaves an error there. -/
abbrev Yields
    (parser : Parser σ υ α)
    (state : State σ υ)
    (consumed : Bool)
    (value : α)
    (next : State σ υ)
    (error : ParseError) : Prop :=
  parser.run state = .ok ⟨consumed, .ok value next error⟩

/-- The parser fails on a state with an error. -/
abbrev Fails
    (parser : Parser σ υ α)
    (state : State σ υ)
    (consumed : Bool)
    (error : ParseError) : Prop :=
  parser.run state = .ok ⟨consumed, .failed error⟩

/-- A success is known from its tag and its value. -/
theorem exists_yields
    {parser : Parser σ υ α}
    {state : State σ υ}
    {consumed : Bool}
    {value : α}
    (shown : (parser.run state).toOption.map (fun outcome =>
      (outcome.consumed, outcome.reply.value?)) = some (consumed, some value)) :
    ∃ next error, parser.Yields state consumed value next error := by
  unfold Yields
  generalize parser.run state = ran at shown ⊢
  rcases ran with defect | ⟨tag, ⟨result, next, error⟩ | error⟩
  · simp [Except.toOption] at shown
  · simp only [Except.toOption, Option.map_some, Reply.value?, Option.some.injEq,
      Prod.mk.injEq] at shown
    obtain ⟨rfl, rfl⟩ := shown
    exact ⟨next, error, rfl⟩
  · simp [Except.toOption, Reply.value?] at shown

/-- Whether a parser succeeds is known from the run. -/
theorem exists_yields_iff {parser : Parser σ υ α} {state : State σ υ} :
    (∃ consumed value next error, parser.Yields state consumed value next error) ↔
      (parser.run state).toOption.map (·.reply.isOk) = some true := by
  unfold Yields
  rcases parser.run state with defect | ⟨consumed, ⟨value, next, error⟩ | error⟩
  · simp [Except.toOption]
  · simp [Except.toOption, Reply.isOk]
  · simp [Except.toOption, Reply.isOk]

/-- The value that is found in an input is that of a success at its start. -/
theorem parse_eq_ok_iff
    {parser : Parser σ υ α}
    {user : υ}
    {name : String}
    {input : σ}
    {value : α} :
    parser.parse user name input = .ok (.ok value) ↔
      ∃ consumed next error,
        parser.Yields ⟨input, Position.start name, user⟩ consumed value next error := by
  unfold parse runState Yields
  rcases parser.run ⟨input, Position.start name, user⟩ with
    defect | ⟨consumed, ⟨found, next, error⟩ | error⟩
  · simp
  · simp
  · simp

/-- The error that a success leaves is known from the run. -/
theorem Yields.error_eq
    {parser : Parser σ υ α}
    {state next : State σ υ}
    {consumed : Bool}
    {value : α}
    {error other : ParseError}
    (ran : parser.Yields state consumed value next error)
    (known : (parser.run state).toOption.map (·.reply.errorOf) = some other) :
    error = other := by
  rw [ran] at known
  exact Option.some.inj known

/-- A parser has one outcome on a state: its successes are the same. -/
theorem Yields.unique
    {parser : Parser σ υ α}
    {state next otherNext : State σ υ}
    {consumed otherConsumed : Bool}
    {value otherValue : α}
    {error otherError : ParseError}
    (ran : parser.Yields state consumed value next error)
    (other : parser.Yields state otherConsumed otherValue otherNext otherError) :
    consumed = otherConsumed ∧ value = otherValue ∧ next = otherNext ∧ error = otherError := by
  have same := ran.symm.trans other
  simpa only [Except.ok.injEq, Outcome.mk.injEq, Reply.ok.injEq] using same

/-- A parser that succeeds on a state does not fail there. -/
theorem Yields.not_fails
    {parser : Parser σ υ α}
    {state next : State σ υ}
    {consumed otherConsumed : Bool}
    {value : α}
    {error otherError : ParseError}
    (ran : parser.Yields state consumed value next error) :
    ¬ parser.Fails state otherConsumed otherError := by
  intro failed
  have contrary := ran.symm.trans failed
  simp at contrary

section
variable
  {state next : State σ υ}
  {consumed : Bool}
  {error : ParseError}

theorem Fails.map
    {parser : Parser σ υ α}
    (failed : parser.Fails state consumed error)
    (f : α → β) :
    (parser.map f).Fails state consumed error := by
  rw [Fails, run_map, failed]
  rfl

theorem map_yields_iff
    {parser : Parser σ υ α}
    {f : α → β}
    {result : β} :
    (parser.map f).Yields state consumed result next error ↔
      ∃ value, parser.Yields state consumed value next error ∧ f value = result := by
  unfold Yields
  rw [run_map, exceptMap_eq_ok_iff]
  constructor
  · rintro ⟨outcome, ran, mapped⟩
    obtain ⟨value, rfl, applied⟩ := Outcome.map_eq_ok_iff.mp mapped
    exact ⟨value, ran, applied⟩
  · rintro ⟨value, ran, rfl⟩
    exact ⟨_, ran, rfl⟩

/-- A sequence succeeds where both halves do, the second one where the first one ended. -/
theorem bind_yields_iff
    {parser : Parser σ υ α}
    {following : α → Parser σ υ β}
    {result : β} :
    (parser.bind following).Yields state consumed result next error ↔
      ∃ first value middle earlier second found,
        parser.Yields state first value middle earlier ∧
        (following value).Yields middle second result next found ∧
        consumed = (first || second) ∧
        error = if second then found else earlier.merge found := by
  constructor
  · intro ran
    unfold Yields at ran
    rcases firstRan : parser.run state with defect | ⟨first, ⟨value, middle, earlier⟩ | earlier⟩
    · simp [run_bind_of_error firstRan] at ran
    · rw [run_bind_of_ok firstRan] at ran
      obtain ⟨outcome, secondRan, joined⟩ := exceptMap_eq_ok_iff.mp ran
      obtain ⟨second, found, rfl, tags, errors⟩ := Outcome.after_eq_ok_iff.mp joined
      exact ⟨first, value, middle, earlier, second, found, firstRan, secondRan, tags, errors⟩
    · simp [run_bind_of_failed firstRan] at ran
  · rintro ⟨first, value, middle, earlier, second, found, firstRan, secondRan, tags, errors⟩
    unfold Yields
    rw [run_bind_of_ok firstRan, exceptMap_eq_ok_iff]
    exact ⟨_, secondRan, Outcome.after_eq_ok_iff.mpr ⟨second, found, rfl, tags, errors⟩⟩

/-- The lemma on sequences for two parsers whose values are combined. -/
theorem zipWith_yields_iff
    {firstParser : Parser σ υ α}
    {secondParser : Parser σ υ β}
    {f : α → β → γ}
    {result : γ} :
    (firstParser.zipWith secondParser f).Yields state consumed result next error ↔
      ∃ first left middle earlier second right found,
        firstParser.Yields state first left middle earlier ∧
        secondParser.Yields middle second right next found ∧
        f left right = result ∧
        consumed = (first || second) ∧
        error = if second then found else earlier.merge found := by
  constructor
  · intro ran
    unfold Yields at ran
    rcases firstRan : firstParser.run state with defect | ⟨first, ⟨left, middle, earlier⟩ | earlier⟩
    · simp [run_zipWith_of_error firstRan] at ran
    · rw [run_zipWith_of_ok firstRan] at ran
      obtain ⟨outcome, secondRan, joined⟩ := exceptMap_eq_ok_iff.mp ran
      obtain ⟨second, found, mapped, tags, errors⟩ := Outcome.after_eq_ok_iff.mp joined
      obtain ⟨right, rfl, combined⟩ := Outcome.map_eq_ok_iff.mp mapped
      exact ⟨first, left, middle, earlier, second, right, found, firstRan, secondRan, combined,
        tags, errors⟩
    · simp [run_zipWith_of_failed firstRan] at ran
  · rintro ⟨first, left, middle, earlier, second, right, found, firstRan, secondRan, combined,
      tags, errors⟩
    unfold Yields
    rw [run_zipWith_of_ok firstRan, exceptMap_eq_ok_iff]
    refine ⟨_, secondRan, Outcome.after_eq_ok_iff.mpr ⟨second, found, ?_, tags, errors⟩⟩
    exact Outcome.map_eq_ok_iff.mpr ⟨right, rfl, combined⟩

/-- A choice succeeds where its first parser does, or where that one fails at once and the
second one succeeds. -/
theorem orElse_yields_iff
    {firstParser secondParser : Parser σ υ α}
    {value : α} :
    (firstParser.orElse secondParser).Yields state consumed value next error ↔
      firstParser.Yields state consumed value next error ∨
        ∃ earlier found,
          firstParser.Fails state false earlier ∧
          secondParser.Yields state consumed value next found ∧
          error = if consumed then found else earlier.merge found := by
  constructor
  · intro ran
    unfold Yields at ran
    rcases firstRan : firstParser.run state with
      defect | ⟨_ | _, ⟨left, middle, earlier⟩ | earlier⟩
    · simp [run_orElse_of_error firstRan] at ran
    · rw [run_orElse_of_ok firstRan] at ran
      exact .inl (firstRan.trans ran)
    · rw [run_orElse_of_empty_failed firstRan] at ran
      obtain ⟨outcome, secondRan, joined⟩ := exceptMap_eq_ok_iff.mp ran
      obtain ⟨tag, found, rfl, tags, errors⟩ := Outcome.after_eq_ok_iff.mp joined
      rw [Bool.false_or] at tags
      subst tags
      exact .inr ⟨earlier, found, firstRan, secondRan, errors⟩
    · rw [run_orElse_of_ok firstRan] at ran
      exact .inl (firstRan.trans ran)
    · simp [run_orElse_of_consumed firstRan] at ran
  · rintro (ran | ⟨earlier, found, firstRan, secondRan, errors⟩)
    · exact run_orElse_of_ok ran secondParser
    · unfold Yields
      rw [run_orElse_of_empty_failed firstRan, exceptMap_eq_ok_iff]
      exact ⟨_, secondRan,
        Outcome.after_eq_ok_iff.mpr ⟨consumed, found, rfl, (Bool.false_or _).symm, errors⟩⟩

/-- A choice succeeds only where one of its parsers does, up to the error. -/
theorem Yields.of_choice
    {parsers : List (Parser σ υ α)}
    {value : α}
    (ran : (choice parsers).Yields state consumed value next error) :
    ∃ parser ∈ parsers, ∃ found, parser.Yields state consumed value next found := by
  cases parsers with
  | nil => simp [Yields] at ran
  | cons parser parsers =>
      change (parsers.foldl Parser.orElse parser).Yields state consumed value next error at ran
      induction parsers generalizing parser with
      | nil => exact ⟨parser, List.mem_cons_self, error, ran⟩
      | cons second parsers ih =>
          obtain ⟨chosen, present, found, chosenRan⟩ := ih _ ran
          rcases List.mem_cons.mp present with rfl | other
          · rcases orElse_yields_iff.mp chosenRan with firstRan | ⟨_, later, -, secondRan, -⟩
            · exact ⟨parser, List.mem_cons_self, found, firstRan⟩
            · exact ⟨second, by simp, later, secondRan⟩
          · exact ⟨chosen, by simp [other], found, chosenRan⟩

/-- Labels change no success except for the error that it leaves. -/
theorem Yields.of_labels
    {parser : Parser σ υ α}
    {names : List String}
    {value : α}
    (ran : (parser.labels names).Yields state consumed value next error) :
    ∃ found, parser.Yields state consumed value next found := by
  obtain ⟨⟨tag, reply⟩, inner, relabelled⟩ := exceptMap_eq_ok_iff.mp ran
  cases tag with
  | false =>
      cases reply with
      | ok result state' found =>
          simp only [Outcome.mk.injEq, Reply.ok.injEq] at relabelled
          obtain ⟨rfl, rfl, rfl, -⟩ := relabelled
          exact ⟨found, inner⟩
      | failed found => simp at relabelled
  | true =>
      simp only at relabelled
      exact ⟨error, inner.trans (congrArg _ relabelled)⟩

@[simp] theorem attempt_yields_iff {parser : Parser σ υ α} {value : α} :
    parser.attempt.Yields state consumed value next error ↔
      parser.Yields state consumed value next error := by
  unfold Yields attempt
  rw [exceptMap_eq_ok_iff]
  constructor
  · rintro ⟨⟨tag, reply⟩, inner, changed⟩
    cases reply with
    | ok result state' found => exact inner.trans (congrArg _ changed)
    | failed found => simp at changed
  · intro ran
    exact ⟨_, ran, rfl⟩

/-- A look-ahead gives the whole state back. -/
theorem Yields.of_lookAhead
    {parser : Parser σ υ α}
    {value : α}
    (ran : parser.lookAhead.Yields state consumed value next error) :
    consumed = false ∧ next = state := by
  obtain ⟨⟨tag, reply⟩, -, changed⟩ := exceptMap_eq_ok_iff.mp ran
  cases reply with
  | ok result state' found =>
      simp only [Outcome.mk.injEq, Reply.ok.injEq] at changed
      exact ⟨changed.1.symm, changed.2.2.1.symm⟩
  | failed found => simp at changed

theorem Yields.of_notFollowedBy
    [Describe α]
    {parser : Parser σ υ α}
    {value : Unit}
    (ran : parser.notFollowedBy.Yields state consumed value next error) :
    consumed = false ∧ next = state := by
  obtain ⟨⟨tag, reply⟩, -, changed⟩ := exceptMap_eq_ok_iff.mp ran
  cases reply with
  | ok result state' found => simp at changed
  | failed found =>
      simp only [Outcome.mk.injEq, Reply.ok.injEq] at changed
      exact ⟨changed.1.symm, changed.2.2.1.symm⟩

end

/-! ## Tokens -/

section
variable [TokenStream σ τ]
variable
  {state next : State σ υ}
  {consumed : Bool}
  {error : ParseError}

/-- A parser for a single token succeeds where there is a token that passes its test. -/
theorem token_yields_iff
    {describe : τ → String}
    {after : Position → τ → σ → Position}
    {test : τ → Option α}
    {value : α} :
    (token describe after test).Yields state consumed value next error ↔
      ∃ found rest,
        TokenStream.uncons? state.input = some (found, rest) ∧
        test found = some value ∧
        consumed = true ∧
        next = ⟨rest, after state.position found rest, state.user⟩ ∧
        error = .unknown next.position := by
  constructor
  · intro ran
    unfold Yields at ran
    rcases taken : TokenStream.uncons? state.input with _ | ⟨found, rest⟩
    · simp [run_token_of_end taken] at ran
    · cases tested : test found with
      | none => simp [run_token_of_none taken tested] at ran
      | some result =>
          simp only [run_token_of_some taken tested, Except.ok.injEq, Outcome.mk.injEq,
            Reply.ok.injEq] at ran
          obtain ⟨rfl, rfl, rfl, rfl⟩ := ran
          exact ⟨found, rest, rfl, tested, rfl, rfl, rfl⟩
  · rintro ⟨found, rest, taken, tested, rfl, rfl, rfl⟩
    exact run_token_of_some taken tested describe after

/-- Tokens are dropped one by one. -/
theorem dropTokens_cons_eq_ok_iff
    [DecidableEq τ]
    {started : Bool}
    {input rest : σ}
    {token : τ}
    {wanted : List τ} :
    dropTokens started input (token :: wanted) = .ok rest ↔
      ∃ after, TokenStream.uncons? input = some (token, after) ∧
        dropTokens true after wanted = .ok rest := by
  cases taken : TokenStream.uncons? input with
  | none => simp [dropTokens, taken]
  | some pair =>
      obtain ⟨found, after⟩ := pair
      by_cases same : found = token
      · simp [dropTokens, taken, same]
      · simp [dropTokens, taken, same]

/-- What is left of a stream after some tokens are the tokens behind them. -/
theorem toList_of_dropTokens
    [LawfulTokenStream σ]
    [DecidableEq τ]
    {started : Bool}
    {input rest : σ}
    {wanted : List τ}
    (dropped : dropTokens started input wanted = .ok rest) :
    TokenStream.toList input = wanted ++ TokenStream.toList rest := by
  induction wanted generalizing started input with
  | nil =>
      obtain rfl := Except.ok.inj dropped
      rfl
  | cons token wanted ih =>
      obtain ⟨after, taken, droppedAfter⟩ := dropTokens_cons_eq_ok_iff.mp dropped
      rw [LawfulTokenStream.toList_eq_cons taken, ih droppedAfter, List.cons_append]

/-- A sequence of tokens succeeds where all of them are there. -/
theorem tokens_yields_iff
    [DecidableEq τ]
    {describe : List τ → String}
    {after : Position → List τ → Position}
    {wanted value : List τ} :
    (tokens describe after wanted).Yields state consumed value next error ↔
      ∃ rest,
        dropTokens false state.input wanted = .ok rest ∧
        value = wanted ∧
        consumed = !wanted.isEmpty ∧
        next = ⟨rest, after state.position wanted, state.user⟩ ∧
        error = .unknown next.position := by
  unfold Yields tokens
  rw [run_mk]
  cases dropped : dropTokens false state.input wanted with
  | error reason => simp
  | ok rest =>
      simp only [Except.ok.injEq, Outcome.mk.injEq, Reply.ok.injEq]
      constructor
      · rintro ⟨rfl, rfl, rfl, rfl⟩
        exact ⟨rest, rfl, rfl, rfl, rfl, rfl⟩
      · rintro ⟨_, rfl, rfl, rfl, rfl, rfl⟩
        exact ⟨rfl, rfl, rfl, rfl⟩

end

/-! ## Repetition -/

/-- The parser succeeds again and again, each time with input consumed, and its values are those
of the list. -/
inductive Repeats (parser : Parser σ υ α) : State σ υ → List α → State σ υ → Prop
  | nil (state : State σ υ) : Repeats parser state [] state
  | cons
      {state middle next : State σ υ}
      {value : α}
      {values : List α}
      {error : ParseError}
      (first : parser.Yields state true value middle error)
      (others : Repeats parser middle values next) :
      Repeats parser state (value :: values) next

/-- A repetition of bounded rounds succeeds exactly where its parser succeeds fewer times than
there are rounds and then fails at once. -/
theorem manyFoldFrom_eq_ok_iff
    {parser : Parser σ υ α}
    {combine : β → α → β}
    {rounds : Nat}
    {first consumed : Bool}
    {total result : β}
    {state next : State σ υ}
    {error : ParseError} :
    manyFoldFrom parser combine rounds first total state =
        .ok ⟨consumed, .ok result next error⟩ ↔
      ∃ values, values.length < rounds ∧ parser.Repeats state values next ∧
        parser.Fails next false error ∧
        result = values.foldl combine total ∧ consumed = (first || !values.isEmpty) := by
  constructor
  · intro ran
    induction rounds generalizing first total state with
    | zero => simp [manyFoldFrom] at ran
    | succ rounds ih =>
        unfold manyFoldFrom at ran
        split at ran
        · contradiction
        · rename_i value middle found firstRan
          obtain ⟨values, few, others, stopped, results, tags⟩ := ih ran
          refine ⟨value :: values, by simpa using few, .cons firstRan others, stopped, results, ?_⟩
          simp [tags]
        · simp at ran
        · contradiction
        · rename_i found stopped
          simp only [Except.ok.injEq, Outcome.mk.injEq, Reply.ok.injEq] at ran
          obtain ⟨rfl, rfl, rfl, rfl⟩ := ran
          exact ⟨[], by simp, .nil state, stopped, rfl, by simp⟩
  · rintro ⟨values, few, repeated, stopped, rfl, rfl⟩
    induction repeated generalizing rounds first total with
    | nil state =>
        obtain ⟨rounds, rfl⟩ : ∃ others, rounds = others + 1 := ⟨rounds - 1, by grind⟩
        simp [manyFoldFrom, stopped]
    | cons firstRan others ih =>
        obtain ⟨rounds, rfl⟩ : ∃ others, rounds = others + 1 := ⟨rounds - 1, by grind⟩
        rename_i firstState middle last value values found
        have enough : values.length < rounds := by simpa using few
        have rounded : manyFoldFrom parser combine rounds true (combine total value) middle =
            .ok ⟨true, .ok (values.foldl combine (combine total value)) last error⟩ := by
          rw [ih enough stopped, Bool.true_or]
        simpa [manyFoldFrom, firstRan] using rounded

theorem manyFold_yields_iff
    [TokenStream σ τ]
    {parser : Parser σ υ α}
    {combine : β → α → β}
    {first result : β}
    {state next : State σ υ}
    {consumed : Bool}
    {error : ParseError} :
    (parser.manyFold first combine).Yields state consumed result next error ↔
      ∃ values, values.length < state.patience ∧ parser.Repeats state values next ∧
        parser.Fails next false error ∧
        result = values.foldl combine first ∧ consumed = !values.isEmpty := by
  unfold Yields
  rw [run_manyFold, manyFoldFrom_eq_ok_iff]
  simp only [Bool.false_or]

theorem many_yields_iff
    [TokenStream σ τ]
    {parser : Parser σ υ α}
    {values : List α}
    {state next : State σ υ}
    {consumed : Bool}
    {error : ParseError} :
    parser.many.Yields state consumed values next error ↔
      values.length < state.patience ∧ parser.Repeats state values next ∧
        parser.Fails next false error ∧ consumed = !values.isEmpty := by
  unfold many
  rw [map_yields_iff]
  constructor
  · rintro ⟨reversed, ran, rfl⟩
    obtain ⟨values, few, repeated, stopped, rfl, tags⟩ := manyFold_yields_iff.mp ran
    have listed : (values.foldl (fun values value => value :: values) []).reverse = values := by
      simp
    rw [listed]
    exact ⟨few, repeated, stopped, tags⟩
  · rintro ⟨few, repeated, stopped, tags⟩
    refine ⟨values.foldl (fun values value => value :: values) [], ?_, by simp⟩
    exact manyFold_yields_iff.mpr ⟨values, few, repeated, stopped, rfl, tags⟩

end Parser
end Predictive
