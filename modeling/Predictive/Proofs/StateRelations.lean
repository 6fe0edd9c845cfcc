import Predictive.Proofs.Composition
import Predictive.Proofs.Success

/-!
# States before and after a success

What a success does to the state is said by a relation between the states before and after it and
the tag of the success. A relation composes if it holds of an unchanged state without a tag, and
if tags add up along it. Such a relation holds of every parser that the combinators build out of
parsers for which it holds: sequences and the rounds of loops compose in the same way as the tags
do.
-/

namespace Predictive

variable {σ υ α β γ : Type}

/-- The relation holds of states that do not change, and tags add up along it. -/
structure State.Composes (Rel : State σ υ → State σ υ → Bool → Prop) : Prop where
  refl : ∀ state, Rel state state false
  trans : ∀ {before middle after : State σ υ} {first second : Bool},
    Rel before middle first → Rel middle after second → Rel before after (first || second)

namespace Parser

variable {Rel : State σ υ → State σ υ → Bool → Prop}

/-- Every success of the parser relates the state before it to the state after it. -/
def Relates (Rel : State σ υ → State σ υ → Bool → Prop) (parser : Parser σ υ α) : Prop :=
  ∀ ⦃state consumed value next error⦄,
    parser.Yields state consumed value next error → Rel state next consumed

/-! ## Sequences and choices -/

theorem Relates.map {parser : Parser σ υ α} (related : parser.Relates Rel) (f : α → β) :
    (parser.map f).Relates Rel := by
  intro state consumed value next error ran
  obtain ⟨found, inner, -⟩ := map_yields_iff.mp ran
  exact related inner

theorem Relates.labels
    {parser : Parser σ υ α}
    (related : parser.Relates Rel)
    (names : List String) :
    (parser.labels names).Relates Rel := by
  intro state consumed value next error ran
  obtain ⟨found, inner⟩ := ran.of_labels
  exact related inner

theorem Relates.orElse
    {first second : Parser σ υ α}
    (firstRelated : first.Relates Rel)
    (secondRelated : second.Relates Rel) :
    (first.orElse second).Relates Rel := by
  intro state consumed value next error ran
  rcases orElse_yields_iff.mp ran with firstRan | ⟨_, _, -, secondRan, -⟩
  · exact firstRelated firstRan
  · exact secondRelated secondRan

/-- A sequence relates states as its parts do one after the other. -/
theorem Relates.zipWith
    {First Second : State σ υ → State σ υ → Bool → Prop}
    {first : Parser σ υ α}
    {second : Parser σ υ β}
    (firstRelated : first.Relates First)
    (secondRelated : second.Relates Second)
    (joins : ∀ {before middle after tag other}, First before middle tag →
      Second middle after other → Rel before after (tag || other))
    (f : α → β → γ) :
    (first.zipWith second f).Relates Rel := by
  intro state consumed value next error ran
  obtain ⟨tag, _, middle, _, other, _, _, firstRan, secondRan, -, rfl, -⟩ :=
    zipWith_yields_iff.mp ran
  exact joins (firstRelated firstRan) (secondRelated secondRan)

/-! ## Loops -/

/-- Rounds that are related compose. -/
theorem Repeats.relates
    {parser : Parser σ υ α}
    {state next : State σ υ}
    {values : List α}
    (composes : State.Composes Rel)
    (related : parser.Relates Rel)
    (repeated : parser.Repeats state values next) :
    Rel state next !values.isEmpty := by
  induction repeated with
  | nil state => exact composes.refl state
  | cons first others ih => exact composes.trans (related first) ih

/-- What `manyTill` returns after some rounds is related to the state where it started, if
the state reached by these rounds is. -/
theorem manyTillFrom_relates
    {parser : Parser σ υ α}
    {stop : Parser σ υ β}
    (composes : State.Composes Rel)
    (related : parser.Relates Rel)
    (stopRelated : stop.Relates Rel)
    {rounds : Nat}
    {reached consumed : Bool}
    {values found : List α}
    {start state next : State σ υ}
    {earlier error : ParseError}
    (reachedRelated : Rel start state reached)
    (ran : manyTillFrom parser stop rounds reached values state earlier =
      .ok ⟨consumed, .ok found next error⟩) :
    Rel start next consumed := by
  induction rounds generalizing reached values state earlier with
  | zero => simp [manyTillFrom] at ran
  | succ rounds ih =>
      unfold manyTillFrom at ran
      split at ran
      · contradiction
      · rename_i last stopError stopRan
        simp only [Except.ok.injEq, Outcome.mk.injEq, Reply.ok.injEq] at ran
        obtain ⟨rfl, -, rfl, -⟩ := ran
        simpa using composes.trans reachedRelated (stopRelated stopRan)
      · simp at ran
      · rename_i last stopError stopRan
        simp only [Except.ok.injEq, Outcome.mk.injEq, Reply.ok.injEq] at ran
        obtain ⟨rfl, -, rfl, -⟩ := ran
        simpa using composes.trans reachedRelated (stopRelated stopRan)
      · split at ran
        · contradiction
        · rename_i parserRan
          exact ih (by simpa using composes.trans reachedRelated (related parserRan)) ran
        · simp at ran
        · contradiction
        · simp at ran

/-- What `sepEndBy1` returns after some rounds is related to the state where it started, if
the state reached by these rounds is. -/
theorem sepEndByFrom_relates
    {parser : Parser σ υ α}
    {separator : Parser σ υ β}
    (composes : State.Composes Rel)
    (related : parser.Relates Rel)
    (separatorRelated : separator.Relates Rel)
    {rounds : Nat}
    {reached consumed : Bool}
    {items found : List α}
    {start state next : State σ υ}
    {earlier error : ParseError}
    (reachedRelated : Rel start state reached)
    (ran : sepEndByFrom parser separator rounds reached items state earlier =
      .ok ⟨consumed, .ok found next error⟩) :
    Rel start next consumed := by
  induction rounds generalizing reached items state earlier with
  | zero => simp [sepEndByFrom] at ran
  | succ rounds ih =>
      unfold sepEndByFrom at ran
      split at ran
      · contradiction
      · simp at ran
      · simp only [Except.ok.injEq, Outcome.mk.injEq, Reply.ok.injEq] at ran
        obtain ⟨rfl, -, rfl, -⟩ := ran
        exact reachedRelated
      · rename_i separated mark afterSeparator separatorError separatorRan
        have atItem := composes.trans reachedRelated (separatorRelated separatorRan)
        simp only at ran
        split at ran
        · contradiction
        · simp at ran
        · simp only [Except.ok.injEq, Outcome.mk.injEq, Reply.ok.injEq] at ran
          obtain ⟨rfl, -, rfl, -⟩ := ran
          exact atItem
        · rename_i itemRan
          exact ih (by simpa using composes.trans atItem (related itemRan)) ran
        · rename_i itemRan
          split at ran
          · rename_i isSeparated
            subst isSeparated
            exact ih (by simpa using composes.trans atItem (related itemRan)) ran
          · contradiction

/-- A comment is related to the state where it started as what opened it and the steps are. -/
theorem commentFrom_relates
    {step : Parser σ υ CommentStep}
    (composes : State.Composes Rel)
    (related : step.Relates Rel)
    {rounds depth : Nat}
    {consumed : Bool}
    {start state next : State σ υ}
    {earlier error : ParseError}
    (reachedRelated : Rel start state true)
    (ran : Language.commentFrom step rounds depth state earlier =
      .ok ⟨consumed, .ok () next error⟩) :
    Rel start next consumed := by
  induction rounds generalizing depth state earlier with
  | zero => simp [Language.commentFrom] at ran
  | succ rounds ih =>
      unfold Language.commentFrom at ran
      split at ran
      · contradiction
      · simp at ran
      · simp at ran
      · rename_i stepRan
        have atNext := composes.trans reachedRelated (related stepRan)
        split at ran
        · simp only [Except.ok.injEq, Outcome.mk.injEq, Reply.ok.injEq] at ran
          obtain ⟨rfl, -, rfl, -⟩ := ran
          exact atNext
        · exact ih atNext ran

section
variable {τ : Type} [TokenStream σ τ]

theorem Relates.sepEndBy1
    {parser : Parser σ υ α}
    {separator : Parser σ υ β}
    (related : parser.Relates Rel)
    (composes : State.Composes Rel)
    (separatorRelated : separator.Relates Rel) :
    (parser.sepEndBy1 separator).Relates Rel := by
  intro state consumed value next error ran
  unfold Yields Parser.sepEndBy1 at ran
  simp only at ran
  split at ran
  · contradiction
  · simp at ran
  · rename_i firstRan
    exact sepEndByFrom_relates composes related separatorRelated (related firstRan) ran

theorem Relates.commentAfter
    {opening : Parser σ υ α}
    {step : Parser σ υ CommentStep}
    (openingRelated : opening.Relates Rel)
    (consumes : opening.AlwaysConsumes)
    (composes : State.Composes Rel)
    (stepRelated : step.Relates Rel) :
    (Language.commentAfter opening step).Relates Rel := by
  intro state consumed value next error ran
  unfold Yields Language.commentAfter at ran
  simp only at ran
  split at ran
  · contradiction
  · simp at ran
  · rename_i tag found middle earlier openingRan
    cases tag with
    | false => exact absurd openingRan (consumes state found middle earlier)
    | true => exact commentFrom_relates composes stepRelated (openingRelated openingRan) ran

/-! ## Composed parsers -/

/-- A relation that composes holds of parsers composed of atoms for which it holds. -/
theorem Composed.relates
    {Atom : ∀ ⦃α : Type⦄, Parser σ υ α → Prop}
    (composes : State.Composes Rel)
    (atoms : ∀ ⦃α : Type⦄ (parser : Parser σ υ α), Atom parser → parser.Relates Rel)
    {parser : Parser σ υ α}
    (composed : Composed Atom parser) :
    parser.Relates Rel := by
  induction composed with
  | atom isAtom => exact atoms _ isAtom
  | defective defect =>
      intro state consumed value next error ran
      contradiction
  | pure value =>
      intro state consumed result next error ran
      simp only [Yields, run_pure, Except.ok.injEq, Outcome.mk.injEq, Reply.ok.injEq] at ran
      obtain ⟨rfl, -, rfl, -⟩ := ran
      exact composes.refl state
  | empty =>
      intro state consumed value next error ran
      simp [Yields] at ran
  | failWith kind text =>
      intro state consumed value next error ran
      simp [Yields] at ran
  | map f _ ih => exact ih.map f
  | bind _ _ ih followingIh =>
      intro state consumed value next error ran
      obtain ⟨first, found, middle, _, second, _, firstRan, secondRan, rfl, -⟩ :=
        bind_yields_iff.mp ran
      exact composes.trans (ih firstRan) (followingIh found secondRan)
  | zipWith f _ _ firstIh secondIh => exact firstIh.zipWith secondIh composes.trans f
  | orElse _ _ firstIh secondIh => exact firstIh.orElse secondIh
  | labels names _ ih => exact ih.labels names
  | attempt _ ih =>
      intro state consumed value next error ran
      exact ih (attempt_yields_iff.mp ran)
  | lookAhead _ _ =>
      intro state consumed value next error ran
      obtain ⟨rfl, rfl⟩ := ran.of_lookAhead
      exact composes.refl next
  | notFollowedBy _ _ =>
      intro state consumed value next error ran
      obtain ⟨rfl, rfl⟩ := ran.of_notFollowedBy
      exact composes.refl next
  | manyFold first combine _ ih =>
      intro state consumed value next error ran
      obtain ⟨values, -, repeated, -, -, rfl⟩ := manyFold_yields_iff.mp ran
      exact repeated.relates composes ih
  | manyTill _ _ ih stopIh =>
      intro state consumed value next error ran
      exact manyTillFrom_relates composes ih stopIh (composes.refl state) ran
  | sepEndBy1 _ _ ih separatorIh => exact ih.sepEndBy1 composes separatorIh
  | unrolled _ ih =>
      intro state consumed value next error ran
      unfold Yields at ran
      rw [run_recursive] at ran
      exact ih state.patience ran
  | commentAfter consumes _ _ openingIh stepIh =>
      exact openingIh.commentAfter consumes composes stepIh

end

end Parser
end Predictive
