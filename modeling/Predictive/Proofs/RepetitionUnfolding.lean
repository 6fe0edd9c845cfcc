import Predictive.Proofs.LoopRecursion

/-!
# A repetition and its unfolding

A repetition should be one round in front of the repetition, or nothing. It is, but for what it
reports after a single round: the error that this round left where the repetition stops is
dropped, while the unfolding merges it in front of the error that stops the repetition. What the
round would have taken there is then missing among what is expected.
-/

namespace Predictive
namespace Parser

variable {σ τ υ α β : Type} [TokenStream σ τ]

/-- Enough rounds are as good as any other number of them. -/
theorem manyFoldFrom_rounds
    {parser : Parser σ υ α}
    (spends : parser.Relates State.Spends)
    (combine : β → α → β)
    {rounds others : Nat}
    (consumed : Bool)
    (total : β)
    {state : State σ υ}
    (enough : (TokenStream.toList state.input).length < rounds)
    (enoughOthers : (TokenStream.toList state.input).length < others) :
    manyFoldFrom parser combine rounds consumed total state =
      manyFoldFrom parser combine others consumed total state := by
  induction rounds generalizing others consumed total state with
  | zero => contradiction
  | succ rounds ih =>
      obtain ⟨others, rfl⟩ : ∃ fewer, others = fewer + 1 := ⟨others - 1, by omega⟩
      rcases ran : parser.run state with defect | ⟨_ | _, ⟨value, next, error⟩ | error⟩
      · simp [manyFoldFrom, ran]
      · simp [manyFoldFrom, ran]
      · simp [manyFoldFrom, ran]
      · have fewer := spends ran
        simp only [State.Spends, Bool.toNat_true] at fewer
        have enoughNext : (TokenStream.toList next.input).length < rounds := by omega
        have othersNext : (TokenStream.toList next.input).length < others := by omega
        simpa [manyFoldFrom, ran] using ih true (combine total value) enoughNext othersNext
      · simp [manyFoldFrom, ran]

/-- Values collected already stay behind the values of later rounds. -/
theorem manyFoldFrom_collected
    (parser : Parser σ υ α)
    (rounds : Nat)
    (consumed : Bool)
    (collected : List α)
    (state : State σ υ) :
    manyFoldFrom parser (fun values value => value :: values) rounds consumed collected state =
      (manyFoldFrom parser (fun values value => value :: values) rounds false [] state).map
        fun outcome => ⟨consumed || outcome.consumed, outcome.reply.map (· ++ collected)⟩ := by
  induction rounds generalizing consumed collected state with
  | zero => rfl
  | succ rounds ih =>
      rcases ran : parser.run state with defect | ⟨_ | _, ⟨value, next, error⟩ | error⟩
      · simp [manyFoldFrom, ran, Except.map]
      · simp [manyFoldFrom, ran, Except.map]
      · simp [manyFoldFrom, ran, Except.map]
      · simp only [manyFoldFrom, ran]
        rw [ih true (value :: collected) next, ih true [value] next]
        rcases manyFoldFrom parser (fun values value => value :: values) rounds false [] next with
          defect | ⟨tag, ⟨values, last, found⟩ | found⟩
        · rfl
        · simp [Except.map]
        · simp [Except.map]
      · simp [manyFoldFrom, ran, Except.map]

/-! ## The first round -/

section
variable
  {parser : Parser σ υ α}
  {state next : State σ υ}
  {error : ParseError}

/-- A repetition has at least one round. -/
theorem run_many_eq (parser : Parser σ υ α) (state : State σ υ) :
    ∃ rounds, state.patience = rounds + 1 ∧
      parser.many.run state =
        (manyFoldFrom parser (fun values value => value :: values) (rounds + 1) false []
          state).map (·.map List.reverse) := by
  have positive : 0 < state.patience := Nat.zero_lt_of_lt state.size_lt_patience
  obtain ⟨rounds, granted⟩ : ∃ rounds, state.patience = rounds + 1 := ⟨state.patience - 1, by omega⟩
  refine ⟨rounds, granted, ?_⟩
  rw [many, run_map, run_manyFold, granted]

theorem many_yields_of_failed (ran : parser.Fails state false error) :
    parser.many.Yields state false [] state error := by
  obtain ⟨rounds, -, unfolded⟩ := run_many_eq parser state
  rw [Yields, unfolded, manyFoldFrom, ran]
  rfl

theorem many_fails_of_consumed (ran : parser.Fails state true error) :
    parser.many.Fails state true error := by
  obtain ⟨rounds, -, unfolded⟩ := run_many_eq parser state
  rw [Fails, unfolded, manyFoldFrom, ran]
  rfl

theorem run_many_of_error {defect : Defect} (ran : parser.run state = .error defect) :
    parser.many.run state = .error defect := by
  obtain ⟨rounds, -, unfolded⟩ := run_many_eq parser state
  rw [unfolded, manyFoldFrom, ran]
  rfl

theorem run_many_of_empty {value : α} (ran : parser.Yields state false value next error) :
    parser.many.run state = .error .endlessMany := by
  obtain ⟨rounds, -, unfolded⟩ := run_many_eq parser state
  rw [unfolded, manyFoldFrom, ran]
  rfl

/-- Behind a round the repetition goes on as from the start, and keeps nothing of the round but
its value. -/
theorem run_many_of_round
    [LawfulTokenStream σ]
    {value : α}
    (spends : parser.Relates State.Spends)
    (ran : parser.Yields state true value next error) :
    parser.many.run state =
      (parser.many.run next).map fun outcome =>
        ⟨true, outcome.reply.map fun rest => value :: rest⟩ := by
  obtain ⟨rounds, granted, unfolded⟩ := run_many_eq parser state
  obtain ⟨others, grantedNext, unfoldedNext⟩ := run_many_eq parser next
  have ample := length_succ_lt_patience state
  have ampleNext := length_succ_lt_patience next
  have fewer := spends ran
  simp only [State.Spends, Bool.toNat_true] at fewer
  have enough : (TokenStream.toList next.input).length < rounds := by omega
  have enoughNext : (TokenStream.toList next.input).length < others + 1 := by omega
  have sameRounds := manyFoldFrom_rounds spends (fun values value => value :: values) false []
    enough enoughNext
  rw [unfolded, unfoldedNext, manyFoldFrom, ran]
  simp only
  rw [manyFoldFrom_collected, sameRounds]
  rcases manyFoldFrom parser (fun values value => value :: values) (others + 1) false [] next with
    defect | ⟨tag, ⟨values, last, found⟩ | found⟩
  · rfl
  · simp [Except.map]
  · simp [Except.map]

/-- A repetition without a tag had no round. -/
theorem fails_of_many_empty
    [LawfulTokenStream σ]
    {reply : Reply σ υ (List α)}
    (spends : parser.Relates State.Spends)
    (ran : parser.many.run state = .ok ⟨false, reply⟩) :
    ∃ stopped, parser.Fails state false stopped ∧ reply = .ok [] state stopped := by
  rcases first : parser.run state with defect | ⟨_ | _, ⟨value, next, error⟩ | error⟩
  · simp [run_many_of_error first] at ran
  · simp [run_many_of_empty first] at ran
  · rw [many_yields_of_failed first] at ran
    simp only [Except.ok.injEq, Outcome.mk.injEq, true_and] at ran
    exact ⟨error, first, ran.symm⟩
  · rw [run_many_of_round spends first] at ran
    obtain ⟨outcome, -, tagged⟩ := exceptMap_eq_ok_iff.mp ran
    simp at tagged
  · simp [many_fails_of_consumed first] at ran

end

/-! ## The unfolding -/

/-- A round in front of the repetition, or nothing. -/
def manyUnfolded (parser : Parser σ υ α) : Parser σ υ (List α) :=
  (parser.zipWith parser.many List.cons).orElse (pure [])

/-- Behind a round the unfolding merges the error of the round with what the repetition reports. -/
theorem run_manyUnfolded_of_round
    {parser : Parser σ υ α}
    {state next : State σ υ}
    {value : α}
    {trailing : ParseError}
    {outcome : Outcome σ υ (List α)}
    (first : parser.Yields state true value next trailing)
    (ran : parser.many.run next = .ok outcome) :
    (manyUnfolded parser).run state =
      .ok ((outcome.map fun rest => value :: rest).after true trailing) := by
  have joined : (parser.zipWith parser.many List.cons).run state =
      .ok ((outcome.map fun rest => value :: rest).after true trailing) := by
    rw [run_zipWith_of_ok first, ran]
    rfl
  refine run_orElse_of_decides joined (.inl ?_) _
  obtain ⟨tag, reply⟩ := outcome
  cases tag <;> rfl

/-- A repetition returns what its unfolding returns, with tag, values, state and error, if and only
if it does not have exactly one round with an error that adds to the error where the rounds stop.
The error that a repetition leaves is the one that stops it and nothing else: the error of its last
round is dropped. -/
theorem many_drops_last_error
    [LawfulTokenStream σ]
    {parser : Parser σ υ α}
    (composed : Composed Advancing parser)
    {state : State σ υ}
    {outcome : Outcome σ υ (List α)}
    (ran : parser.many.run state = .ok outcome) :
    ((manyUnfolded parser).run state = .ok outcome ↔
        ∀ value next trailing stopped,
          parser.Yields state true value next trailing → parser.Fails next false stopped →
            trailing.merge stopped = stopped) ∧
      ∀ tag values next error, outcome = ⟨tag, .ok values next error⟩ →
        parser.Fails next false error := by
  refine ⟨?_, fun tag values next error succeeded => ?_⟩
  swap
  · subst succeeded
    exact (many_yields_iff.mp ran).2.2.1
  rcases first : parser.run state with defect | ⟨_ | _, ⟨value, next, trailing⟩ | error⟩
  · simp [run_many_of_error first] at ran
  · simp [run_many_of_empty first] at ran
  · rw [many_yields_of_failed first] at ran
    obtain rfl := Except.ok.inj ran
    have covers : error.Covers state.position := fun _ => composed.advancing_reportsAhead first
    have refused := run_zipWith_of_failed first parser.many List.cons
    exact iff_of_true (orElse_pure_yields_of_failed covers refused [])
      fun _ _ _ _ yields _ => absurd first yields.not_fails
  · rw [run_many_of_round composed.spends first] at ran
    obtain ⟨⟨tag, reply⟩, others, rfl⟩ := exceptMap_eq_ok_iff.mp ran
    rw [run_manyUnfolded_of_round first others]
    cases tag with
    | true =>
        -- A second round or a failure after consuming: the error of the first does not count.
        refine iff_of_true rfl fun value' next' trailing' stopped yields fails => ?_
        obtain ⟨-, rfl, rfl, rfl⟩ := Yields.unique first yields
        simp [many_yields_of_failed fails] at others
    | false =>
        obtain ⟨stopped, fails, rfl⟩ := fails_of_many_empty composed.spends others
        constructor
        · intro same value' next' trailing' stopped' yields fails'
          obtain ⟨-, rfl, rfl, rfl⟩ := Yields.unique first yields
          obtain rfl : stopped = stopped' := by simpa [fails] using fails.symm.trans fails'
          simpa using same
        · intro absorbed
          simp [absorbed _ _ _ _ first fails]
  · rw [many_fails_of_consumed first] at ran
    obtain rfl := Except.ok.inj ran
    have failed := run_zipWith_of_failed first parser.many List.cons
    exact iff_of_true (run_orElse_of_consumed failed (pure []))
      fun _ _ _ _ yields _ => absurd first yields.not_fails

/-- Two digits in front of a letter: the repetition and its unfolding agree, and both stop at the
letter. -/
theorem many_drops_last_error_digits :
    Composed Advancing (digit : Parser Text Unit Char) ∧
      ∃ next error,
        digit.many.Yields
            (⟨Text.ofString "12x", .start "", ()⟩ : State Text Unit) true ['1', '2'] next error ∧
          (manyUnfolded digit).Yields
            ⟨Text.ofString "12x", .start "", ()⟩ true ['1', '2'] next error ∧
          digit.Fails next false error := by
  obtain ⟨next, error, ran⟩ : ∃ next error, digit.many.Yields
      (⟨Text.ofString "12x", .start "", ()⟩ : State Text Unit) true ['1', '2'] next error :=
    exists_yields (by decide +kernel)
  have unfolding := many_drops_last_error digit_advancing ran
  -- The rounds do not stop behind the first digit.
  have goesOn : ∀ value middle trailing stopped,
      digit.Yields (⟨Text.ofString "12x", .start "", ()⟩ : State Text Unit) true value middle
          trailing →
        digit.Fails middle false stopped → trailing.merge stopped = stopped := by
    intro value middle trailing stopped yields fails
    obtain ⟨-, rounds, -, -⟩ := many_yields_iff.mp ran
    cases rounds with
    | cons first others =>
        cases others with
        | cons second _ =>
            obtain ⟨-, -, rfl, -⟩ := Yields.unique yields first
            exact absurd fails second.not_fails
  exact ⟨digit_advancing, next, error, ran, unfolding.1.mpr goesOn, unfolding.2 _ _ _ _ rfl⟩

/-- A digit, and a mark behind it if there is one. -/
def markedDigit : Parser Text Unit Char :=
  digit.keepLeft (char 'x').skipMaybe

theorem markedDigit_composed : Composed Advancing markedDigit :=
  digit_advancing.keepLeft (char_advancing 'x').skipMaybe

/-- A digit at the end of the input. -/
def onLastDigit : State Text Unit :=
  ⟨Text.ofString "1", .start "t", ()⟩

/-- After the only digit, the repetition does not say that a mark was expected there as well. Its
unfolding says so, and so did the round. -/
theorem many_forgets_expectation :
    (¬ ∀ parser : Parser Text Unit Char, Composed Advancing parser →
        ∀ state outcome, parser.many.run state = .ok outcome →
          (manyUnfolded parser).run state = .ok outcome) ∧
      ¬ ∀ parser : Parser Text Unit Char, Composed Advancing parser →
        ∀ state value next trailing last error, parser.Yields state true value next trailing →
          parser.many.Yields state true [value] last error →
            trailing.position = error.position → trailing.messages ⊆ error.messages := by
  obtain ⟨last, error, ran⟩ :
      ∃ last error, markedDigit.many.Yields onLastDigit true ['1'] last error :=
    exists_yields (by decide +kernel)
  obtain ⟨next, trailing, first⟩ :
      ∃ next trailing, markedDigit.Yields onLastDigit true '1' next trailing :=
    exists_yields (by decide +kernel)
  have reported : error = ⟨.clamped "t" 1 2, [⟨.sysUnexpected, ""⟩, ⟨.expected, "digit"⟩]⟩ :=
    ran.error_eq (by decide +kernel)
  have left : trailing = ⟨.clamped "t" 1 2, [⟨.sysUnexpected, ""⟩, ⟨.expected, "\"x\""⟩]⟩ :=
    first.error_eq (by decide +kernel)
  constructor
  · intro law
    have unfolded : error = ⟨.clamped "t" 1 2,
        [⟨.sysUnexpected, ""⟩, ⟨.expected, "\"x\""⟩, ⟨.expected, "digit"⟩]⟩ :=
      Yields.error_eq (law markedDigit markedDigit_composed _ _ ran) (by decide +kernel)
    exact absurd (reported.symm.trans unfolded) (by decide)
  · intro law
    have kept := law markedDigit markedDigit_composed _ _ _ _ _ _ first ran
    rw [reported, left] at kept
    exact absurd (kept rfl) (by decide)

end Parser
end Predictive
