import Predictive.Proofs.ConsumingParsers
import Predictive.Proofs.ErrorMerging
import Predictive.Proofs.Reading

/-!
# Failures behind input

A failure with input consumed goes up through the combinators: no other parser of a choice is
tried, no label replaces what it expected, and it ends no repetition but makes the whole of it
fail. What it says is kept if the parsers before it reported nothing beyond the place where they
stopped. Parsers without look-ahead and attempts never do.
-/

namespace Predictive
namespace Parser

variable {σ τ υ α β γ : Type}
variable {state middle : State σ υ} {consumed : Bool} {earlier error : ParseError}

/-- A sequence fails as its first half does. -/
theorem Fails.zipWith
    {first : Parser σ υ α}
    (failed : first.Fails state consumed error)
    (second : Parser σ υ β)
    (f : α → β → γ) :
    (first.zipWith second f).Fails state consumed error :=
  run_zipWith_of_failed failed second f

theorem Fails.bind
    {parser : Parser σ υ α}
    (failed : parser.Fails state consumed error)
    (following : α → Parser σ υ β) :
    (parser.bind following).Fails state consumed error :=
  run_bind_of_failed failed following

/-- A sequence fails as its second half does, with what the first half consumed. -/
theorem Yields.zipWith_fails
    {first : Parser σ υ α}
    {second : Parser σ υ β}
    {value : α}
    {tag : Bool}
    (ran : first.Yields state consumed value middle earlier)
    (failed : second.Fails middle tag error)
    (f : α → β → γ) :
    (first.zipWith second f).Fails state (consumed || tag)
      (if tag then error else earlier.merge error) := by
  rw [Fails, run_zipWith_of_ok ran, failed]
  cases tag <;> simp [Except.map]

/-- A sequence fails as the half behind it does, with what the first half consumed. -/
theorem Yields.bind_fails
    {parser : Parser σ υ α}
    {following : α → Parser σ υ β}
    {value : α}
    {tag : Bool}
    (ran : parser.Yields state consumed value middle earlier)
    (failed : (following value).Fails middle tag error) :
    (parser.bind following).Fails state (consumed || tag)
      (if tag then error else earlier.merge error) := by
  rw [Fails, run_bind_of_ok ran, failed]
  cases tag <;> simp [Except.map]

/-- Labels do not change a failure behind input. -/
theorem Fails.labels
    {parser : Parser σ υ α}
    (failed : parser.Fails state true error)
    (names : List String) :
    (parser.labels names).Fails state true error := by
  rw [Fails, Parser.labels, run_mk, failed]
  rfl

/-- An attempt fails at once wherever its parser fails. -/
theorem Fails.attempt
    {parser : Parser σ υ α}
    (failed : parser.Fails state consumed error) :
    parser.attempt.Fails state false error := by
  rw [Fails, Parser.attempt, run_mk, failed]
  rfl

/-- No other parser is tried behind input. -/
theorem Fails.orElse
    {first : Parser σ υ α}
    (failed : first.Fails state true error)
    (second : Parser σ υ α) :
    (first.orElse second).Fails state true error :=
  run_orElse_of_consumed failed second

/-- A choice fails behind input as its second parser does, if the first one fails at once. -/
theorem Fails.orElse_fails
    {first second : Parser σ υ α}
    (refused : first.Fails state false earlier)
    (failed : second.Fails state true error) :
    (first.orElse second).Fails state true error := by
  rw [Fails, run_orElse_of_empty_failed refused, failed]
  rfl

/-- A choice fails behind input as the first parser that does not fail at once. -/
theorem Fails.choice
    {front : List (Parser σ υ α)}
    {parser : Parser σ υ α}
    (refused : (Parser.choice front).Fails state false earlier)
    (failed : parser.Fails state true error) :
    (Parser.choice (front ++ [parser])).Fails state true error := by
  cases front with
  | nil => exact failed
  | cons first front =>
      change ((front ++ [parser]).foldl Parser.orElse first).Fails state true error
      rw [List.foldl_append]
      exact Fails.orElse_fails refused failed

/-- A repetition fails behind some rounds as the next one does. -/
theorem Repeats.manyFold_fails
    [TokenStream σ τ]
    {parser : Parser σ υ α}
    {values : List α}
    (repeated : parser.Repeats state values middle)
    (few : values.length < state.patience)
    (failed : parser.Fails middle true error)
    (first : β)
    (combine : β → α → β) :
    (parser.manyFold first combine).Fails state true error := by
  rw [Fails, run_manyFold]
  generalize state.patience = rounds at few
  generalize false = consumed
  induction repeated generalizing rounds first consumed with
  | nil state =>
      obtain ⟨rounds, rfl⟩ := Nat.exists_eq_succ_of_ne_zero (Nat.ne_zero_of_lt few)
      rw [manyFoldFrom, failed]
  | cons firstRan others ih =>
      obtain ⟨rounds, rfl⟩ := Nat.exists_eq_succ_of_ne_zero (Nat.ne_zero_of_lt few)
      rw [manyFoldFrom, firstRan]
      exact ih failed _ _ (Nat.lt_of_succ_lt_succ few) true

/-! ## Failures at once

A sequence whose first half always consumes fails at once only where that half does. -/

/-- Values do not matter to failures. -/
theorem Fails.of_map
    {parser : Parser σ υ α}
    {f : α → β}
    (failed : (parser.map f).Fails state consumed error) :
    parser.Fails state consumed error := by
  obtain ⟨⟨tag, reply⟩, ran, mapped⟩ := exceptMap_eq_ok_iff.mp failed
  cases reply with
  | ok value next found => simp at mapped
  | failed found =>
      obtain ⟨rfl, rfl⟩ : tag = consumed ∧ found = error := by simpa using mapped
      exact ran

/-- If the first half always consumes, a sequence fails at once only in that half. -/
theorem Fails.of_bind
    {parser : Parser σ υ α}
    {following : α → Parser σ υ β}
    (failed : (parser.bind following).Fails state false error)
    (consumes : parser.AlwaysConsumes) :
    parser.Fails state false error := by
  rcases ran : parser.run state with defect | ⟨tag, ⟨value, middle, earlier⟩ | earlier⟩
  · simp [Fails, run_bind_of_error ran] at failed
  · cases tag with
    | false => exact absurd ran (consumes _ _ _ _)
    | true =>
        rw [Fails, run_bind_of_ok ran] at failed
        obtain ⟨⟨other, reply⟩, -, joined⟩ := exceptMap_eq_ok_iff.mp failed
        cases other <;> simp at joined
  · rw [Fails, run_bind_of_failed ran] at failed
    simpa [Fails, ran] using failed

/-- The lemma on sequences for two parsers whose values are combined. -/
theorem Fails.of_zipWith
    {first : Parser σ υ α}
    {second : Parser σ υ β}
    {f : α → β → γ}
    (failed : (first.zipWith second f).Fails state false error)
    (consumes : first.AlwaysConsumes) :
    first.Fails state false error := by
  rcases ran : first.run state with defect | ⟨tag, ⟨value, middle, earlier⟩ | earlier⟩
  · simp [Fails, run_zipWith_of_error ran] at failed
  · cases tag with
    | false => exact absurd ran (consumes _ _ _ _)
    | true =>
        rw [Fails, run_zipWith_of_ok ran] at failed
        obtain ⟨⟨other, reply⟩, -, joined⟩ := exceptMap_eq_ok_iff.mp failed
        cases other <;> simp at joined
  · rw [Fails, run_zipWith_of_failed ran] at failed
    simpa [Fails, ran] using failed

/-- A choice fails at once only if both of its parsers do. -/
theorem Fails.of_orElse
    {first second : Parser σ υ α}
    (failed : (first.orElse second).Fails state false error) :
    (∃ found, first.Fails state false found) ∧ ∃ found, second.Fails state false found := by
  rcases ran : first.run state with defect | ⟨_ | _, ⟨value, middle, earlier⟩ | earlier⟩
  · simp [Fails, run_orElse_of_error ran] at failed
  · simp [Fails, run_orElse_of_ok ran] at failed
  · rw [Fails, run_orElse_of_empty_failed ran] at failed
    obtain ⟨⟨other, reply⟩, secondRan, joined⟩ := exceptMap_eq_ok_iff.mp failed
    cases other <;> cases reply <;> simp at joined
    exact ⟨⟨earlier, ran⟩, _, secondRan⟩
  · simp [Fails, run_orElse_of_ok ran] at failed
  · simp [Fails, run_orElse_of_consumed ran] at failed

/-! ## Where errors are reported -/

end Parser

/-- Nothing is reported beyond the place where a parser stops, and it moves only where it
consumes. -/
def Outcome.Within (start : State σ υ) : Outcome σ υ α → Prop
  | ⟨true, .ok _ next error⟩ => error.position ≤ next.position
  | ⟨true, .failed _⟩ => True
  | ⟨false, .ok _ next error⟩ => next = start ∧ error.position ≤ start.position
  | ⟨false, .failed error⟩ => error.position ≤ start.position

/-- Errors within a place are merged to one within it. -/
theorem ParseError.position_merge_le
    {first second : ParseError}
    {place : Position}
    (firstWithin : first.position ≤ place)
    (secondWithin : second.position ≤ place) :
    (first.merge second).position ≤ place := by
  rw [position_merge]
  split
  · exact secondWithin
  · exact firstWithin

namespace Outcome

variable {start middle : State σ υ} {earlier : ParseError}

/-- Values do not matter to where errors are. -/
theorem Within.map {outcome : Outcome σ υ α} (within : outcome.Within start) (f : α → β) :
    (outcome.map f).Within start := by
  obtain ⟨_ | _, _ | _⟩ := outcome <;> exact within

/-- A failure has no value, so that its type does not matter. -/
theorem Within.of_failed
    {consumed : Bool}
    (within : (⟨consumed, .failed earlier⟩ : Outcome σ υ α).Within start) :
    (⟨consumed, .failed earlier⟩ : Outcome σ υ β).Within start := by
  cases consumed <;> exact within

/-- An outcome behind an error that stands where the parser starts or before. -/
theorem Within.after_empty
    {outcome : Outcome σ υ α}
    (within : outcome.Within start)
    (earlierWithin : earlier.position ≤ start.position) :
    (outcome.after false earlier).Within start := by
  obtain ⟨_ | _, ⟨value, next, error⟩ | error⟩ := outcome
  · exact ⟨within.1, ParseError.position_merge_le earlierWithin within.2⟩
  · exact ParseError.position_merge_le earlierWithin within
  · exact within
  · exact trivial

/-- Behind a parser that consumed, it does not matter where that one started. -/
theorem Within.after_consumed
    {outcome : Outcome σ υ α}
    (within : outcome.Within middle)
    (earlierWithin : earlier.position ≤ middle.position) :
    (outcome.after true earlier).Within start := by
  obtain ⟨_ | _, ⟨value, next, error⟩ | error⟩ := outcome
  · obtain ⟨rfl, errorWithin⟩ := within
    exact ParseError.position_merge_le earlierWithin errorWithin
  · exact trivial
  · exact within
  · exact trivial

end Outcome

namespace Parser

/-- The parser reports nothing beyond the place where it stops. -/
def ReportsWithin (parser : Parser σ υ α) : Prop :=
  ∀ ⦃state outcome⦄, parser.run state = .ok outcome → outcome.Within state

/-- No error that a success leaves is beyond the place where it stops. -/
def LeavesWithin (parser : Parser σ υ α) : Prop :=
  ∀ ⦃state consumed value next error⦄, parser.Yields state consumed value next error →
    error.position ≤ next.position

/-- What is said behind a success is kept. -/
theorem LeavesWithin.mem_merge
    {parser : Parser σ υ α}
    (within : parser.LeavesWithin)
    {value : α}
    (ran : parser.Yields state consumed value middle earlier)
    (kind : MessageKind)
    (text : String) :
    (⟨kind, text⟩ : Message) ∈ (earlier.merge (.single middle.position kind text)).messages := by
  refine ParseError.mem_messages_merge.mpr (.inr ⟨?_, List.mem_singleton.mpr rfl⟩)
  rw [ParseError.rank_le_iff]
  cases unknown : earlier.isUnknown with
  | true => exact .inl ⟨rfl, rfl⟩
  | false => exact .inr ⟨rfl, within ran⟩

/-- Nothing is reported but where the parser stays. -/
theorem pure_reportsWithin (value : α) : (Parser.pure value : Parser σ υ α).ReportsWithin := by
  intro state outcome ran
  obtain rfl := Except.ok.inj ran
  exact ⟨rfl, le_rfl⟩

/-- A token is reported where it is expected, and nothing behind it. -/
theorem token_reportsWithin
    [TokenStream σ τ]
    (describe : τ → String)
    (after : Position → τ → σ → Position)
    (test : τ → Option α) :
    (token describe after test : Parser σ υ α).ReportsWithin := by
  intro state outcome ran
  cases taken : TokenStream.uncons? state.input with
  | none =>
      rw [run_token_of_end taken] at ran
      obtain rfl := Except.ok.inj ran
      exact le_rfl
  | some pair =>
      cases tested : test pair.1 with
      | none =>
          rw [run_token_of_none taken tested] at ran
          obtain rfl := Except.ok.inj ran
          exact le_rfl
      | some value =>
          rw [run_token_of_some taken tested] at ran
          obtain rfl := Except.ok.inj ran
          exact le_rfl

theorem satisfy_reportsWithin [TokenStream σ Char] (predicate : Char → Bool) :
    (satisfy predicate : Parser σ υ Char).ReportsWithin :=
  token_reportsWithin _ _ _

namespace ReportsWithin

/-- In particular no success leaves an error beyond the place where it stops. -/
theorem leavesWithin {parser : Parser σ υ α} (within : parser.ReportsWithin) :
    parser.LeavesWithin := by
  intro state consumed value next error ran
  have outcome := within ran
  cases consumed with
  | true => exact outcome
  | false =>
      obtain ⟨rfl, errorWithin⟩ := outcome
      exact errorWithin

theorem map {parser : Parser σ υ α} (within : parser.ReportsWithin) (f : α → β) :
    (parser.map f).ReportsWithin := by
  intro state outcome ran
  obtain ⟨inner, innerRan, rfl⟩ := exceptMap_eq_ok_iff.mp ran
  exact (within innerRan).map f

/-- The halves of a sequence follow each other, and so do the places they report. -/
theorem zipWith
    {first : Parser σ υ α}
    {second : Parser σ υ β}
    (within : first.ReportsWithin)
    (secondWithin : second.ReportsWithin)
    (f : α → β → γ) :
    (first.zipWith second f).ReportsWithin := by
  intro state outcome ran
  rcases firstRan : first.run state with defect | ⟨consumed, ⟨value, middle, earlier⟩ | earlier⟩
  · simp [run_zipWith_of_error firstRan] at ran
  · rw [run_zipWith_of_ok firstRan] at ran
    obtain ⟨inner, secondRan, rfl⟩ := exceptMap_eq_ok_iff.mp ran
    have innerWithin := (secondWithin secondRan).map (f value)
    have firstWithin := within firstRan
    cases consumed with
    | true => exact innerWithin.after_consumed firstWithin
    | false =>
        obtain ⟨rfl, earlierWithin⟩ := firstWithin
        exact innerWithin.after_empty earlierWithin
  · rw [run_zipWith_of_failed firstRan] at ran
    obtain rfl := Except.ok.inj ran
    exact (within firstRan).of_failed

/-- The second parser of a choice starts where the first one failed. -/
theorem orElse
    {first second : Parser σ υ α}
    (within : first.ReportsWithin)
    (secondWithin : second.ReportsWithin) :
    (first.orElse second).ReportsWithin := by
  intro state outcome ran
  rcases firstRan : first.run state with defect | ⟨_ | _, ⟨value, middle, earlier⟩ | earlier⟩
  · simp [run_orElse_of_error firstRan] at ran
  · rw [run_orElse_of_ok firstRan] at ran
    obtain rfl := Except.ok.inj ran
    exact within firstRan
  · rw [run_orElse_of_empty_failed firstRan] at ran
    obtain ⟨inner, secondRan, rfl⟩ := exceptMap_eq_ok_iff.mp ran
    exact (secondWithin secondRan).after_empty (within firstRan)
  · rw [run_orElse_of_consumed firstRan] at ran
    obtain rfl := Except.ok.inj ran
    exact within firstRan
  · rw [run_orElse_of_consumed firstRan] at ran
    obtain rfl := Except.ok.inj ran
    exact within firstRan

/-- Labels stand where the error was that they replace. -/
theorem labels {parser : Parser σ υ α} (within : parser.ReportsWithin) (names : List String) :
    (parser.labels names).ReportsWithin := by
  intro state outcome ran
  obtain ⟨⟨tag, reply⟩, innerRan, rfl⟩ := exceptMap_eq_ok_iff.mp ran
  have innerWithin := within innerRan
  cases tag with
  | true => exact innerWithin
  | false =>
      cases reply with
      | failed error => simpa [Outcome.Within] using innerWithin
      | ok value next error =>
          obtain ⟨rfl, errorWithin⟩ := innerWithin
          refine ⟨rfl, ?_⟩
          split
          · exact errorWithin
          · simpa using errorWithin

/-- The rounds of a repetition end where its parser fails at once. -/
theorem manyFold
    [TokenStream σ τ]
    {parser : Parser σ υ α}
    (within : parser.ReportsWithin)
    (first : β)
    (combine : β → α → β) :
    (parser.manyFold first combine).ReportsWithin := by
  have goesOn (rounds : Nat) : ∀ consumed total (start state : State σ υ) outcome,
      (consumed = false → state = start) →
      manyFoldFrom parser combine rounds consumed total state = .ok outcome →
        outcome.Within start := by
    induction rounds with
    | zero => simp [manyFoldFrom]
    | succ rounds ih =>
        intro consumed total start state outcome unmoved ran
        unfold manyFoldFrom at ran
        split at ran
        · contradiction
        · exact ih true _ _ _ _ (by simp) ran
        · obtain rfl := Except.ok.inj ran
          exact trivial
        · contradiction
        · rename_i stopped
          obtain rfl := Except.ok.inj ran
          cases consumed with
          | true => exact within stopped
          | false =>
              obtain rfl := unmoved rfl
              exact ⟨rfl, within stopped⟩
  exact fun state outcome ran => goesOn _ _ _ _ _ _ (fun _ => rfl) ran

theorem many [TokenStream σ τ] {parser : Parser σ υ α} (within : parser.ReportsWithin) :
    parser.many.ReportsWithin :=
  (within.manyFold [] _).map List.reverse

end ReportsWithin

/-- A parser that always consumes leaves its own error, whatever comes before it. -/
theorem ReportsWithin.zipWith_leavesWithin
    {second : Parser σ υ β}
    (within : second.ReportsWithin)
    (consumes : second.AlwaysConsumes)
    (first : Parser σ υ α)
    (f : α → β → γ) :
    (first.zipWith second f).LeavesWithin := by
  intro state consumed value next error ran
  obtain ⟨_, _, _, _, tag, _, _, -, secondRan, -, -, rfl⟩ := zipWith_yields_iff.mp ran
  cases tag with
  | true => exact within.leavesWithin secondRan
  | false => exact absurd secondRan (consumes _ _ _ _)

end Parser
end Predictive
