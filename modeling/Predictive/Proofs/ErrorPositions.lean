import Predictive.Proofs.ErrorMerging
import Predictive.Proofs.Primitives

/-!
# Where errors stand

Parsers whose tokens never move the position backwards report nothing behind the place where they
start: neither the error of a failure nor the one that a success carries is behind it, and an
error that a success carries without messages is not behind the state after it either. That is
the invariant by which an error without messages disappears in any other error that the parser
reports.
-/

namespace Predictive

namespace ParseError

@[simp] theorem isUnknown_setMessage (error : ParseError) (message : Message) :
    (error.setMessage message).isUnknown = false := by
  simp [isUnknown, setMessage]

@[simp] theorem isUnknown_setExpected (error : ParseError) (labels : List String) :
    (error.setExpected labels).isUnknown = false := by
  cases labels <;> simp [setExpected, isUnknown_addMessages]

end ParseError

variable {σ τ υ α β γ : Type}

namespace Reply

/-- Nothing in the reply is behind a position, and what a success reports without messages is not
behind the state after it. -/
def Ahead (start : Position) : Reply σ υ α → Prop
  | ok _ next error => start ≤ next.position ∧ start ≤ error.position ∧ error.Covers next.position
  | failed error => start ≤ error.position

variable {start near far : Position} {reply : Reply σ υ α}

/-- A reply ahead of a position is ahead of every position before it. -/
theorem Ahead.mono (ahead : reply.Ahead far) (order : near ≤ far) : reply.Ahead near := by
  cases reply with
  | ok value next error => exact ⟨order.trans ahead.1, order.trans ahead.2.1, ahead.2.2⟩
  | failed error => exact order.trans ahead

theorem Ahead.map (ahead : reply.Ahead start) (f : α → β) : (reply.map f).Ahead start := by
  cases reply with
  | ok value next error => exact ahead
  | failed error => exact ahead

/-- What is merged into a reply must be ahead as well. -/
theorem Ahead.mergeError
    {earlier : ParseError}
    (ahead : reply.Ahead start)
    (earlierAhead : start ≤ earlier.position) :
    (reply.mergeError earlier).Ahead start := by
  cases reply with
  | ok value next error =>
      obtain ⟨forward, errorAhead, covers⟩ := ahead
      exact ⟨forward, ParseError.le_position_merge earlierAhead errorAhead, covers.merge earlier⟩
  | failed error => exact ParseError.le_position_merge earlierAhead ahead

/-- An error without messages at the start of a reply disappears in the error of the reply. -/
theorem Ahead.mergeError_unknown (ahead : reply.Ahead start) :
    reply.mergeError (.unknown start) = reply := by
  cases reply with
  | ok value next error =>
      rw [mergeError_ok, ParseError.unknown_merge fun _ => ahead.2.1]
  | failed error =>
      rw [mergeError_failed, ParseError.unknown_merge fun _ => ahead]

/-- A parser that stays where it is and reports nothing there is ahead. -/
theorem ahead_unchanged (value : α) (state : State σ υ) :
    (ok value state (.unknown state.position)).Ahead state.position :=
  ⟨le_rfl, le_rfl, fun _ => le_rfl⟩

end Reply

namespace Outcome

/-- A second half is ahead behind an error that is. -/
theorem ahead_after
    {second : Outcome σ υ α}
    {start : Position}
    {consumed : Bool}
    {error : ParseError}
    (ahead : second.reply.Ahead start)
    (errorAhead : start ≤ error.position) :
    (second.after consumed error).reply.Ahead start := by
  obtain ⟨tag, reply⟩ := second
  cases tag with
  | true => exact ahead
  | false => exact ahead.mergeError errorAhead

end Outcome

namespace Parser

/-- Whatever the parser replies is ahead of the position where it starts. -/
def ReportsAhead (parser : Parser σ υ α) : Prop :=
  ∀ ⦃state : State σ υ⦄ ⦃outcome : Outcome σ υ α⦄,
    parser.run state = .ok outcome → outcome.reply.Ahead state.position

/-- The second half starts where the first one ended, which is ahead of where that one started. -/
theorem ReportsAhead.bind
    {parser : Parser σ υ α}
    {following : α → Parser σ υ β}
    (ahead : parser.ReportsAhead)
    (followingAhead : ∀ value, (following value).ReportsAhead) :
    (parser.bind following).ReportsAhead := by
  intro state outcome ran
  rcases firstRan : parser.run state with defect | ⟨consumed, ⟨value, middle, error⟩ | error⟩
  · simp [run_bind_of_error firstRan] at ran
  · rw [run_bind_of_ok firstRan] at ran
    obtain ⟨second, secondRan, rfl⟩ := exceptMap_eq_ok_iff.mp ran
    obtain ⟨forward, errorAhead, -⟩ := ahead firstRan
    exact Outcome.ahead_after ((followingAhead value secondRan).mono forward) errorAhead
  · rw [run_bind_of_failed firstRan] at ran
    obtain rfl := Except.ok.inj ran
    exact ahead firstRan

theorem ReportsAhead.map
    {parser : Parser σ υ α}
    (ahead : parser.ReportsAhead)
    (f : α → β) :
    (parser.map f).ReportsAhead := by
  intro state outcome ran
  obtain ⟨inner, innerRan, rfl⟩ := exceptMap_eq_ok_iff.mp ran
  exact (ahead innerRan).map f

theorem ReportsAhead.zipWith
    {first : Parser σ υ α}
    {second : Parser σ υ β}
    (ahead : first.ReportsAhead)
    (secondAhead : second.ReportsAhead)
    (f : α → β → γ) :
    (first.zipWith second f).ReportsAhead := by
  intro state outcome ran
  rcases firstRan : first.run state with defect | ⟨consumed, ⟨value, middle, error⟩ | error⟩
  · simp [run_zipWith_of_error firstRan] at ran
  · rw [run_zipWith_of_ok firstRan] at ran
    obtain ⟨inner, secondRan, rfl⟩ := exceptMap_eq_ok_iff.mp ran
    obtain ⟨forward, errorAhead, -⟩ := ahead firstRan
    exact Outcome.ahead_after (((secondAhead secondRan).map _).mono forward) errorAhead
  · rw [run_zipWith_of_failed firstRan] at ran
    obtain rfl := Except.ok.inj ran
    exact ahead firstRan

/-- The second parser of a choice starts where the first one did. -/
theorem ReportsAhead.orElse
    {first second : Parser σ υ α}
    (ahead : first.ReportsAhead)
    (secondAhead : second.ReportsAhead) :
    (first.orElse second).ReportsAhead := by
  intro state outcome ran
  rcases firstRan : first.run state with defect | ⟨_ | _, ⟨value, middle, error⟩ | error⟩
  · simp [run_orElse_of_error firstRan] at ran
  · rw [run_orElse_of_ok firstRan] at ran
    obtain rfl := Except.ok.inj ran
    exact ahead firstRan
  · rw [run_orElse_of_empty_failed firstRan] at ran
    obtain ⟨inner, secondRan, rfl⟩ := exceptMap_eq_ok_iff.mp ran
    exact Outcome.ahead_after (secondAhead secondRan) (ahead firstRan)
  · rw [run_orElse_of_consumed firstRan] at ran
    obtain rfl := Except.ok.inj ran
    exact ahead firstRan
  · rw [run_orElse_of_consumed firstRan] at ran
    obtain rfl := Except.ok.inj ran
    exact ahead firstRan

/-- Labels stand at the position of the error that they replace. -/
theorem ReportsAhead.labels
    {parser : Parser σ υ α}
    (ahead : parser.ReportsAhead)
    (names : List String) :
    (parser.labels names).ReportsAhead := by
  intro state outcome ran
  obtain ⟨⟨tag, reply⟩, innerRan, rfl⟩ := exceptMap_eq_ok_iff.mp ran
  have innerAhead := ahead innerRan
  cases tag with
  | true => exact innerAhead
  | false =>
      cases reply with
      | failed error => simpa [Reply.Ahead] using innerAhead
      | ok value next error =>
          obtain ⟨forward, errorAhead, covers⟩ := innerAhead
          refine ⟨forward, ?_, ?_⟩
          · split
            · exact errorAhead
            · simpa using errorAhead
          · split
            · exact covers
            · simp [ParseError.Covers]

/-- An attempt that fails reports what its parser does, at the same position. -/
theorem ReportsAhead.attempt {parser : Parser σ υ α} (ahead : parser.ReportsAhead) :
    parser.attempt.ReportsAhead := by
  intro state outcome ran
  obtain ⟨⟨tag, reply⟩, innerRan, rfl⟩ := exceptMap_eq_ok_iff.mp ran
  have innerAhead := ahead innerRan
  cases reply with
  | ok value next error => exact innerAhead
  | failed error => exact innerAhead

/-- What a look-ahead reports on success is nothing, where it started. -/
theorem ReportsAhead.lookAhead {parser : Parser σ υ α} (ahead : parser.ReportsAhead) :
    parser.lookAhead.ReportsAhead := by
  intro state outcome ran
  obtain ⟨⟨tag, reply⟩, innerRan, rfl⟩ := exceptMap_eq_ok_iff.mp ran
  have innerAhead := ahead innerRan
  cases reply with
  | ok value next error => exact Reply.ahead_unchanged value state
  | failed error => exact innerAhead

/-- A parser that must not follow is reported where it would start. -/
theorem notFollowedBy_reportsAhead [Describe α] (parser : Parser σ υ α) :
    parser.notFollowedBy.ReportsAhead := by
  intro state outcome ran
  obtain ⟨⟨tag, reply⟩, -, rfl⟩ := exceptMap_eq_ok_iff.mp ran
  cases reply with
  | ok value next error => exact le_refl state.position
  | failed error => exact Reply.ahead_unchanged () state

/-! ## Loops

The rounds of a loop start at states that are not behind the start of the loop, and carry errors
that are not behind it either. -/

/-- A repetition is never behind the place where it was entered, however many rounds it makes. -/
theorem manyFoldFrom_ahead
    {parser : Parser σ υ α}
    {combine : β → α → β}
    {rounds : Nat}
    {consumed : Bool}
    {total : β}
    {start : Position}
    {state : State σ υ}
    {outcome : Outcome σ υ β}
    (ahead : parser.ReportsAhead)
    (reached : start ≤ state.position)
    (ran : manyFoldFrom parser combine rounds consumed total state = .ok outcome) :
    outcome.reply.Ahead start := by
  induction rounds generalizing consumed total state with
  | zero => simp [manyFoldFrom] at ran
  | succ rounds ih =>
      unfold manyFoldFrom at ran
      split at ran
      · contradiction
      · rename_i value next error parserRan
        exact ih (reached.trans (ahead parserRan).1) ran
      · rename_i error parserRan
        obtain rfl := Except.ok.inj ran
        exact reached.trans (ahead parserRan)
      · contradiction
      · rename_i error parserRan
        obtain rfl := Except.ok.inj ran
        have stopAhead : state.position ≤ error.position := ahead parserRan
        exact ⟨reached, reached.trans stopAhead, fun _ => stopAhead⟩

/-- A repetition up to a stop is ahead if the error that it has kept is. -/
theorem manyTillFrom_ahead
    {parser : Parser σ υ α}
    {stop : Parser σ υ β}
    {rounds : Nat}
    {consumed : Bool}
    {values : List α}
    {start : Position}
    {state : State σ υ}
    {error : ParseError}
    {outcome : Outcome σ υ (List α)}
    (ahead : parser.ReportsAhead)
    (stopAhead : stop.ReportsAhead)
    (reached : start ≤ state.position)
    (errorAhead : start ≤ error.position)
    (ran : manyTillFrom parser stop rounds consumed values state error = .ok outcome) :
    outcome.reply.Ahead start := by
  induction rounds generalizing consumed values state error with
  | zero => simp [manyTillFrom] at ran
  | succ rounds ih =>
      unfold manyTillFrom at ran
      split at ran
      · contradiction
      · rename_i last next stopError stopRan
        obtain rfl := Except.ok.inj ran
        obtain ⟨forward, stopErrorAhead, covers⟩ := stopAhead stopRan
        exact ⟨reached.trans forward, reached.trans stopErrorAhead, covers⟩
      · rename_i stopError stopRan
        obtain rfl := Except.ok.inj ran
        exact reached.trans (stopAhead stopRan)
      · rename_i last next stopError stopRan
        obtain rfl := Except.ok.inj ran
        obtain ⟨forward, stopErrorAhead, covers⟩ := stopAhead stopRan
        exact ⟨reached.trans forward,
          ParseError.le_position_merge errorAhead (reached.trans stopErrorAhead),
          covers.merge error⟩
      · rename_i stopError stopRan
        have stopErrorAhead : start ≤ stopError.position := reached.trans (stopAhead stopRan)
        split at ran
        · contradiction
        · rename_i value next nextError parserRan
          obtain ⟨forward, nextErrorAhead, -⟩ := ahead parserRan
          exact ih (reached.trans forward) (reached.trans nextErrorAhead) ran
        · rename_i nextError parserRan
          obtain rfl := Except.ok.inj ran
          exact reached.trans (ahead parserRan)
        · contradiction
        · rename_i nextError parserRan
          obtain rfl := Except.ok.inj ran
          exact ParseError.le_position_merge
            (ParseError.le_position_merge errorAhead stopErrorAhead)
            (reached.trans (ahead parserRan))

/-- A list with separators is ahead if the error that it has kept is. -/
theorem sepEndByFrom_ahead
    {parser : Parser σ υ α}
    {separator : Parser σ υ β}
    {rounds : Nat}
    {consumed : Bool}
    {items : List α}
    {start : Position}
    {state : State σ υ}
    {error : ParseError}
    {outcome : Outcome σ υ (List α)}
    (ahead : parser.ReportsAhead)
    (separatorAhead : separator.ReportsAhead)
    (reached : start ≤ state.position)
    (errorAhead : start ≤ error.position)
    (ran : sepEndByFrom parser separator rounds consumed items state error = .ok outcome) :
    outcome.reply.Ahead start := by
  induction rounds generalizing consumed items state error with
  | zero => simp [sepEndByFrom] at ran
  | succ rounds ih =>
      unfold sepEndByFrom at ran
      split at ran
      · contradiction
      · rename_i sepError separatorRan
        obtain rfl := Except.ok.inj ran
        exact reached.trans (separatorAhead separatorRan)
      · rename_i sepError separatorRan
        obtain rfl := Except.ok.inj ran
        have sepErrorAhead : state.position ≤ sepError.position := separatorAhead separatorRan
        have covers : sepError.Covers state.position := fun _ => sepErrorAhead
        exact ⟨reached, ParseError.le_position_merge errorAhead (reached.trans sepErrorAhead),
          covers.merge error⟩
      · rename_i sepConsumed mark afterSep sepError separatorRan
        obtain ⟨sepForward, sepErrorAhead, -⟩ := separatorAhead separatorRan
        have reachedItem : start ≤ afterSep.position := reached.trans sepForward
        extract_lets boundary at ran
        have boundaryAhead : start ≤ boundary.position := by
          unfold boundary
          split
          · exact reached.trans sepErrorAhead
          · exact ParseError.le_position_merge errorAhead (reached.trans sepErrorAhead)
        split at ran
        · contradiction
        · rename_i itemError itemRan
          obtain rfl := Except.ok.inj ran
          exact reachedItem.trans (ahead itemRan)
        · rename_i itemError itemRan
          obtain rfl := Except.ok.inj ran
          have itemErrorAhead : afterSep.position ≤ itemError.position := ahead itemRan
          have covers : itemError.Covers afterSep.position := fun _ => itemErrorAhead
          exact ⟨reachedItem,
            ParseError.le_position_merge boundaryAhead (reachedItem.trans itemErrorAhead),
            covers.merge boundary⟩
        · rename_i item next itemError itemRan
          obtain ⟨forward, itemErrorAhead, -⟩ := ahead itemRan
          exact ih (reachedItem.trans forward) (reachedItem.trans itemErrorAhead) ran
        · rename_i item next itemError itemRan
          obtain ⟨forward, itemErrorAhead, -⟩ := ahead itemRan
          split at ran
          · exact ih (reachedItem.trans forward)
              (ParseError.le_position_merge boundaryAhead (reachedItem.trans itemErrorAhead)) ran
          · contradiction

/-- A block comment is ahead if the error that it has kept is. -/
theorem commentFrom_ahead
    {step : Parser σ υ CommentStep}
    {rounds depth : Nat}
    {start : Position}
    {state : State σ υ}
    {error : ParseError}
    {outcome : Outcome σ υ Unit}
    (ahead : step.ReportsAhead)
    (reached : start ≤ state.position)
    (errorAhead : start ≤ error.position)
    (ran : Language.commentFrom step rounds depth state error = .ok outcome) :
    outcome.reply.Ahead start := by
  induction rounds generalizing depth state error with
  | zero => simp [Language.commentFrom] at ran
  | succ rounds ih =>
      unfold Language.commentFrom at ran
      split at ran
      · contradiction
      · rename_i stepError stepRan
        obtain rfl := Except.ok.inj ran
        exact reached.trans (ahead stepRan)
      · rename_i stepError stepRan
        obtain rfl := Except.ok.inj ran
        exact ParseError.le_position_merge errorAhead (reached.trans (ahead stepRan))
      · rename_i tag found next stepError stepRan
        obtain ⟨forward, stepErrorAhead, covers⟩ := ahead stepRan
        split at ran
        · obtain rfl := Except.ok.inj ran
          exact ⟨reached.trans forward, reached.trans stepErrorAhead, covers⟩
        · exact ih (reached.trans forward) (reached.trans stepErrorAhead) ran

section
variable [TokenStream σ τ]

theorem ReportsAhead.sepEndBy1
    {parser : Parser σ υ α}
    {separator : Parser σ υ β}
    (ahead : parser.ReportsAhead)
    (separatorAhead : separator.ReportsAhead) :
    (parser.sepEndBy1 separator).ReportsAhead := by
  intro state outcome ran
  unfold Parser.sepEndBy1 at ran
  simp only at ran
  split at ran
  · contradiction
  · rename_i firstRan
    obtain rfl := Except.ok.inj ran
    exact ahead firstRan
  · rename_i firstRan
    obtain ⟨forward, errorAhead, -⟩ := ahead firstRan
    exact sepEndByFrom_ahead ahead separatorAhead forward errorAhead ran

/-- A block comment is ahead if its opening mark and its steps are. -/
theorem ReportsAhead.commentAfter
    {opening : Parser σ υ α}
    {step : Parser σ υ CommentStep}
    (ahead : opening.ReportsAhead)
    (stepAhead : step.ReportsAhead) :
    (Language.commentAfter opening step).ReportsAhead := by
  intro state outcome ran
  unfold Language.commentAfter at ran
  simp only at ran
  split at ran
  · contradiction
  · rename_i openingRan
    obtain rfl := Except.ok.inj ran
    exact ahead openingRan
  · rename_i openingRan
    obtain ⟨forward, errorAhead, -⟩ := ahead openingRan
    exact commentFrom_ahead stepAhead forward errorAhead ran

/-! ## Composed parsers -/

/-- Parsers composed of atoms that report ahead report ahead. -/
theorem Composed.reportsAhead
    {Atom : ∀ ⦃α : Type⦄, Parser σ υ α → Prop}
    (atoms : ∀ ⦃α : Type⦄ (parser : Parser σ υ α), Atom parser → parser.ReportsAhead)
    {parser : Parser σ υ α}
    (composed : Composed Atom parser) :
    parser.ReportsAhead := by
  induction composed with
  | atom isAtom => exact atoms _ isAtom
  | defective defect =>
      intro state outcome ran
      contradiction
  | pure value =>
      intro state outcome ran
      obtain rfl := Except.ok.inj ran
      exact Reply.ahead_unchanged value state
  | empty =>
      intro state outcome ran
      obtain rfl := Except.ok.inj ran
      exact le_refl state.position
  | failWith kind text =>
      intro state outcome ran
      obtain rfl := Except.ok.inj ran
      exact le_refl state.position
  | map f _ ih => exact ih.map f
  | bind _ _ ih followingIh => exact ih.bind followingIh
  | zipWith f _ _ firstIh secondIh => exact firstIh.zipWith secondIh f
  | orElse _ _ firstIh secondIh => exact firstIh.orElse secondIh
  | labels names _ ih => exact ih.labels names
  | attempt _ ih => exact ih.attempt
  | lookAhead _ ih => exact ih.lookAhead
  | notFollowedBy _ _ => exact notFollowedBy_reportsAhead _
  | manyFold first combine _ ih =>
      intro state outcome ran
      exact manyFoldFrom_ahead ih le_rfl ran
  | manyTill _ _ ih stopIh =>
      intro state outcome ran
      exact manyTillFrom_ahead ih stopIh le_rfl le_rfl ran
  | sepEndBy1 _ _ ih separatorIh => exact ih.sepEndBy1 separatorIh
  | unrolled _ ih =>
      intro state outcome ran
      rw [run_recursive] at ran
      exact ih state.patience ran
  | commentAfter _ _ _ openingIh stepIh => exact openingIh.commentAfter stepIh

/-- The primitive parsers that never move the position backwards. -/
inductive Advancing : ∀ ⦃α : Type⦄, Parser σ υ α → Prop
  | token {α : Type}
      (describe : τ → String)
      {next : Position → τ → σ → Position}
      (test : τ → Option α) :
      (∀ position found rest, position ≤ next position found rest) →
        Advancing (Parser.token describe next test)
  | tokens [DecidableEq τ]
      (describe : List τ → String)
      {next : Position → List τ → Position}
      (wanted : List τ) :
      (∀ position, position ≤ next position wanted) →
        Advancing (Parser.tokens describe next wanted)
  | modifyState {f : State σ υ → State σ υ} :
      (∀ state, (f state).input = state.input) →
      (∀ state, (f state).position = state.position) →
        Advancing (Parser.modifyState f)

/-- Parsers of single tokens are ahead if their tokens never move the position backwards. -/
theorem Advancing.reportsAhead {parser : Parser σ υ α} (advancing : Advancing parser) :
    parser.ReportsAhead := by
  intro state outcome ran
  cases advancing with
  | token describe test forward =>
      cases taken : TokenStream.uncons? state.input with
      | none =>
          rw [run_token_of_end taken] at ran
          obtain rfl := Except.ok.inj ran
          exact le_refl state.position
      | some pair =>
          obtain ⟨found, rest⟩ := pair
          cases tested : test found with
          | none =>
              rw [run_token_of_none taken tested] at ran
              obtain rfl := Except.ok.inj ran
              exact le_refl state.position
          | some value =>
              rw [run_token_of_some taken tested] at ran
              obtain rfl := Except.ok.inj ran
              exact (Reply.ahead_unchanged value _).mono (forward state.position found rest)
  | tokens describe wanted forward =>
      unfold Parser.tokens at ran
      simp only at ran
      split at ran
      · obtain rfl := Except.ok.inj ran
        exact le_refl state.position
      · obtain rfl := Except.ok.inj ran
        exact (Reply.ahead_unchanged wanted _).mono (forward state.position)
  | modifyState sameInput samePosition =>
      obtain rfl := Except.ok.inj ran
      exact (Reply.ahead_unchanged _ _).mono (samePosition state).ge

/-- Whatever is composed of parsers that never move backwards is ahead. -/
theorem Composed.advancing_reportsAhead
    {parser : Parser σ υ α}
    (composed : Composed Advancing parser) :
    parser.ReportsAhead :=
  composed.reportsAhead fun _ _ advancing => advancing.reportsAhead

end

section
variable [TokenStream σ Char]

/-- Characters never move the position backwards. -/
theorem satisfy_advancing (predicate : Char → Bool) :
    Composed Advancing (satisfy predicate : Parser σ υ Char) :=
  .atom (.token _ _ fun position found _ => (position.lt_afterChar found).le)

theorem char_advancing (wanted : Char) :
    Composed Advancing (char wanted : Parser σ υ Char) :=
  .label _ (satisfy_advancing _)

theorem digit_advancing : Composed Advancing (digit : Parser σ υ Char) :=
  .label _ (satisfy_advancing _)

theorem string_advancing (text : String) :
    Composed Advancing (string text : Parser σ υ String) :=
  .map _ (.atom (.tokens _ _ fun position => position.le_afterChars text.toList))

/-- The lexers of a language never move the position backwards. -/
theorem advancing_lexical : LexicalCongruence (Composed.Both (Advancing (σ := σ) (υ := υ))) :=
  Composed.lexicalCongruence satisfy_advancing string_advancing

end

/-! ## Errors of a run -/

/-- No error is reported behind the place where the parser starts, be it the error of a failure or
the one that a success carries; and what a success carries without messages is not behind the
state after it. -/
theorem errors_not_behind
    [TokenStream σ τ]
    {parser : Parser σ υ α}
    (composed : Composed Advancing parser)
    (state : State σ υ) :
    (∀ consumed error, parser.run state = .ok ⟨consumed, .failed error⟩ →
      state.position ≤ error.position) ∧
    (∀ consumed value next error, parser.run state = .ok ⟨consumed, .ok value next error⟩ →
      state.position ≤ error.position ∧
        (error.isUnknown = true → next.position ≤ error.position)) := by
  have ahead := composed.advancing_reportsAhead
  refine ⟨fun consumed error ran => ahead ran, fun consumed value next error ran => ?_⟩
  obtain ⟨-, errorAhead, covers⟩ := ahead ran
  exact ⟨errorAhead, covers⟩

/-- A word with a bracket behind it, of which nothing counts as consumed without the bracket. -/
def wordWithBracket : Parser (Tokens Char) Unit Char :=
  ((string "if").keepRight (char '(')).attempt

/-- The parser of the example is composed of parsers that never move backwards. -/
theorem wordWithBracket_composed : Composed Advancing wordWithBracket :=
  .attempt (.keepRight (string_advancing "if") (char_advancing '('))

/-- Where the bracket is missing, the error stands behind the word, and where it is there, what the
success carries stands behind the bracket. -/
theorem errors_not_behind_word :
    let missing : State (Tokens Char) Unit := ⟨Tokens.ofList "if x".toList, .clamped "" 3 5, ()⟩
    let there : State (Tokens Char) Unit := ⟨Tokens.ofList "if(x".toList, .clamped "" 3 5, ()⟩
    ∃ failure value next trailing,
      wordWithBracket.run missing = .ok ⟨false, .failed failure⟩ ∧
      wordWithBracket.run there = .ok ⟨true, .ok value next trailing⟩ ∧
      missing.position ≤ failure.position ∧
      there.position ≤ trailing.position ∧ next.position ≤ trailing.position := by
  intro missing there
  have failed : wordWithBracket.run missing = .ok ⟨false, .failed
      ⟨.clamped "" 3 7, [⟨.sysUnexpected, "\" \""⟩, ⟨.expected, "\"(\""⟩]⟩⟩ := rfl
  obtain ⟨next, ran⟩ : ∃ next, wordWithBracket.run there =
      .ok ⟨true, .ok '(' next (.unknown (.clamped "" 3 8))⟩ := ⟨_, rfl⟩
  have atMissing := (errors_not_behind wordWithBracket_composed missing).1 _ _ failed
  have atThere := (errors_not_behind wordWithBracket_composed there).2 _ _ _ _ ran
  exact ⟨_, _, next, _, failed, ran, atMissing, atThere.1, atThere.2 rfl⟩

/-! ## An error behind the start -/

/-- Fail after a token that leads back to the first line, and take back the token but not the
place of the error. -/
def recoil : Parser (Tokens Char) Unit Unit :=
  ((token describe (fun position _ _ => position.withLine 1) some).keepRight empty).attempt

/-- The parser of the counterexample is composed of parsers, one of which moves backwards. -/
theorem recoil_composed : Composed Primitive recoil :=
  .attempt (.keepRight (.atom (.token _ _ _)) .empty)

/-- A letter on the fifth line. -/
def onFifthLine : State (Tokens Char) Unit :=
  ⟨Tokens.ofList ['a'], .clamped "" 5 1, ()⟩

/-- Where tokens may move the position backwards, an error may stand behind the start. -/
theorem recoil_not_reportsAhead : ¬ recoil.ReportsAhead := by
  intro ahead
  have ran : recoil.run onFifthLine =
      .ok ⟨false, .failed (.unknown (.clamped "" 1 1))⟩ := rfl
  have behind : (.clamped "" 5 1 : Position) ≤ .clamped "" 1 1 := ahead ran
  exact absurd behind (by decide)

end Parser
end Predictive
