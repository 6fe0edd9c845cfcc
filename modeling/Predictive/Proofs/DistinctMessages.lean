import Predictive.Proofs.CombinatorLaws
import Predictive.Proofs.ErrorOperations

/-!
# Messages of a run are distinct

A parser starts from errors without messages or with a single one, and from there on the
combinators only merge errors and set their labels. So all errors of a run are built by the
operations on errors, and no message stands twice in anything that a parser reports, be it the
error of a failure or the one that a success carries.
-/

namespace Predictive

variable {σ τ υ α β γ : Type}

namespace Reply

theorem errorOf_map (reply : Reply σ υ α) (f : α → β) : (reply.map f).errorOf = reply.errorOf := by
  cases reply <;> rfl

/-- What is merged into a reply is merged into its error. -/
theorem errorOf_mergeError (reply : Reply σ υ α) (earlier : ParseError) :
    (reply.mergeError earlier).errorOf = earlier.merge reply.errorOf := by
  cases reply <;> rfl

end Reply

/-- A second half leaves a built error behind a built one. -/
theorem Outcome.built_after
    {second : Outcome σ υ α}
    {error : ParseError}
    (built : second.reply.errorOf.Built)
    (errorBuilt : error.Built)
    (consumed : Bool) :
    (second.after consumed error).reply.errorOf.Built := by
  obtain ⟨tag, reply⟩ := second
  cases tag with
  | true => exact built
  | false =>
      rw [after_empty, Reply.errorOf_mergeError]
      exact errorBuilt.merge built

namespace Parser

/-- The operations on errors build whatever the parser reports: the error of a failure, and the one
that a success carries. -/
def ReportsBuilt (parser : Parser σ υ α) : Prop :=
  ∀ ⦃state : State σ υ⦄ ⦃outcome : Outcome σ υ α⦄,
    parser.run state = .ok outcome → outcome.reply.errorOf.Built

theorem ReportsBuilt.map
    {parser : Parser σ υ α}
    (reports : parser.ReportsBuilt)
    (f : α → β) :
    (parser.map f).ReportsBuilt := by
  intro state outcome ran
  obtain ⟨inner, innerRan, rfl⟩ := exceptMap_eq_ok_iff.mp ran
  exact (Reply.errorOf_map inner.reply f).symm ▸ reports innerRan

/-- Both halves of a sequence report built errors, and merging keeps them so. -/
theorem ReportsBuilt.bind
    {parser : Parser σ υ α}
    {following : α → Parser σ υ β}
    (reports : parser.ReportsBuilt)
    (followingReports : ∀ value, (following value).ReportsBuilt) :
    (parser.bind following).ReportsBuilt := by
  intro state outcome ran
  rcases firstRan : parser.run state with defect | ⟨consumed, ⟨value, middle, error⟩ | error⟩
  · simp [run_bind_of_error firstRan] at ran
  · rw [run_bind_of_ok firstRan] at ran
    obtain ⟨second, secondRan, rfl⟩ := exceptMap_eq_ok_iff.mp ran
    exact Outcome.built_after (followingReports value secondRan) (reports firstRan) consumed
  · rw [run_bind_of_failed firstRan] at ran
    obtain rfl := Except.ok.inj ran
    exact reports firstRan

theorem ReportsBuilt.zipWith
    {first : Parser σ υ α}
    {second : Parser σ υ β}
    (reports : first.ReportsBuilt)
    (secondReports : second.ReportsBuilt)
    (f : α → β → γ) :
    (first.zipWith second f).ReportsBuilt := by
  rw [zipWith_eq_bind]
  exact reports.bind fun value => secondReports.map (f value)

/-- Both parsers of a choice report built errors, and merging keeps them so. -/
theorem ReportsBuilt.orElse
    {first second : Parser σ υ α}
    (reports : first.ReportsBuilt)
    (secondReports : second.ReportsBuilt) :
    (first.orElse second).ReportsBuilt := by
  intro state outcome ran
  rcases firstRan : first.run state with defect | ⟨_ | _, ⟨value, middle, error⟩ | error⟩
  · simp [run_orElse_of_error firstRan] at ran
  · rw [run_orElse_of_ok firstRan] at ran
    obtain rfl := Except.ok.inj ran
    exact reports firstRan
  · rw [run_orElse_of_empty_failed firstRan] at ran
    obtain ⟨inner, secondRan, rfl⟩ := exceptMap_eq_ok_iff.mp ran
    exact Outcome.built_after (secondReports secondRan) (reports firstRan) false
  all_goals
    rw [run_orElse_of_consumed firstRan] at ran
    obtain rfl := Except.ok.inj ran
    exact reports firstRan

/-- The labels that replace what was expected are added one by one. -/
theorem ReportsBuilt.labels
    {parser : Parser σ υ α}
    (reports : parser.ReportsBuilt)
    (names : List String) :
    (parser.labels names).ReportsBuilt := by
  intro state outcome ran
  obtain ⟨⟨tag, reply⟩, innerRan, rfl⟩ := exceptMap_eq_ok_iff.mp ran
  have built := reports innerRan
  rcases tag with _ | _
  · rcases reply with ⟨value, next, error⟩ | error
    · change ParseError.Built (if error.isUnknown then error else error.setExpected names)
      split
      · exact built
      · exact .setExpected names built
    · exact .setExpected names built
  · exact built

/-- An attempt reports the error of its parser. -/
theorem ReportsBuilt.attempt {parser : Parser σ υ α} (reports : parser.ReportsBuilt) :
    parser.attempt.ReportsBuilt := by
  intro state outcome ran
  obtain ⟨⟨tag, reply⟩, innerRan, rfl⟩ := exceptMap_eq_ok_iff.mp ran
  have built := reports innerRan
  cases reply with
  | ok value next error => exact built
  | failed error => exact built

/-- A look-ahead that succeeds reports nothing. -/
theorem ReportsBuilt.lookAhead {parser : Parser σ υ α} (reports : parser.ReportsBuilt) :
    parser.lookAhead.ReportsBuilt := by
  intro state outcome ran
  obtain ⟨⟨tag, reply⟩, innerRan, rfl⟩ := exceptMap_eq_ok_iff.mp ran
  cases reply with
  | ok value next error => exact .unknown state.position
  | failed error => exact reports innerRan

/-- What must not follow is one message. -/
theorem notFollowedBy_reportsBuilt [Describe α] (parser : Parser σ υ α) :
    parser.notFollowedBy.ReportsBuilt := by
  intro state outcome ran
  obtain ⟨⟨tag, reply⟩, -, rfl⟩ := exceptMap_eq_ok_iff.mp ran
  cases reply with
  | ok value next error => exact .single state.position .unexpected _
  | failed error => exact .unknown state.position

/-! ## Loops -/

/-- Repetitions report built errors, however many rounds they make. -/
theorem manyFoldFrom_built
    {parser : Parser σ υ α}
    {combine : β → α → β}
    {rounds : Nat}
    {consumed : Bool}
    {total : β}
    {state : State σ υ}
    {outcome : Outcome σ υ β}
    (reports : parser.ReportsBuilt)
    (ran : manyFoldFrom parser combine rounds consumed total state = .ok outcome) :
    outcome.reply.errorOf.Built := by
  induction rounds generalizing consumed total state with
  | zero => simp [manyFoldFrom] at ran
  | succ rounds ih =>
      unfold manyFoldFrom at ran
      split at ran
      · contradiction
      · exact ih ran
      · rename_i parserRan
        obtain rfl := Except.ok.inj ran
        exact reports parserRan
      · contradiction
      · rename_i parserRan
        obtain rfl := Except.ok.inj ran
        exact reports parserRan

/-- Repetitions up to a stop report built errors if the one that they have kept is. -/
theorem manyTillFrom_built
    {parser : Parser σ υ α}
    {stop : Parser σ υ β}
    {rounds : Nat}
    {consumed : Bool}
    {values : List α}
    {state : State σ υ}
    {error : ParseError}
    {outcome : Outcome σ υ (List α)}
    (reports : parser.ReportsBuilt)
    (stopReports : stop.ReportsBuilt)
    (built : error.Built)
    (ran : manyTillFrom parser stop rounds consumed values state error = .ok outcome) :
    outcome.reply.errorOf.Built := by
  induction rounds generalizing consumed values state error with
  | zero => simp [manyTillFrom] at ran
  | succ rounds ih =>
      unfold manyTillFrom at ran
      split at ran
      · contradiction
      · rename_i stopRan
        obtain rfl := Except.ok.inj ran
        exact stopReports stopRan
      · rename_i stopRan
        obtain rfl := Except.ok.inj ran
        exact stopReports stopRan
      · rename_i stopRan
        obtain rfl := Except.ok.inj ran
        exact built.merge (stopReports stopRan)
      · rename_i stopRan
        split at ran
        · contradiction
        · rename_i parserRan
          exact ih (reports parserRan) ran
        · rename_i parserRan
          obtain rfl := Except.ok.inj ran
          exact reports parserRan
        · contradiction
        · rename_i parserRan
          obtain rfl := Except.ok.inj ran
          exact (built.merge (stopReports stopRan)).merge (reports parserRan)

/-- Lists with separators report built errors if the one that they have kept is. -/
theorem sepEndByFrom_built
    {parser : Parser σ υ α}
    {separator : Parser σ υ β}
    {rounds : Nat}
    {consumed : Bool}
    {items : List α}
    {state : State σ υ}
    {error : ParseError}
    {outcome : Outcome σ υ (List α)}
    (reports : parser.ReportsBuilt)
    (separatorReports : separator.ReportsBuilt)
    (built : error.Built)
    (ran : sepEndByFrom parser separator rounds consumed items state error = .ok outcome) :
    outcome.reply.errorOf.Built := by
  induction rounds generalizing consumed items state error with
  | zero => simp [sepEndByFrom] at ran
  | succ rounds ih =>
      unfold sepEndByFrom at ran
      split at ran
      · contradiction
      · rename_i separatorRan
        obtain rfl := Except.ok.inj ran
        exact separatorReports separatorRan
      · rename_i separatorRan
        obtain rfl := Except.ok.inj ran
        exact built.merge (separatorReports separatorRan)
      · rename_i sepConsumed mark afterSep sepError separatorRan
        have sepBuilt : sepError.Built := separatorReports separatorRan
        extract_lets boundary at ran
        have boundaryBuilt : boundary.Built := by
          unfold boundary
          split
          · exact sepBuilt
          · exact built.merge sepBuilt
        split at ran
        · contradiction
        · rename_i itemRan
          obtain rfl := Except.ok.inj ran
          exact reports itemRan
        · rename_i itemRan
          obtain rfl := Except.ok.inj ran
          exact boundaryBuilt.merge (reports itemRan)
        · rename_i itemRan
          exact ih (reports itemRan) ran
        · rename_i itemRan
          split at ran
          · exact ih (boundaryBuilt.merge (reports itemRan)) ran
          · contradiction

/-- Block comments report built errors if the one that they have kept is. -/
theorem commentFrom_built
    {step : Parser σ υ CommentStep}
    {rounds depth : Nat}
    {state : State σ υ}
    {error : ParseError}
    {outcome : Outcome σ υ Unit}
    (reports : step.ReportsBuilt)
    (built : error.Built)
    (ran : Language.commentFrom step rounds depth state error = .ok outcome) :
    outcome.reply.errorOf.Built := by
  induction rounds generalizing depth state error with
  | zero => simp [Language.commentFrom] at ran
  | succ rounds ih =>
      unfold Language.commentFrom at ran
      split at ran
      · contradiction
      · rename_i stepRan
        obtain rfl := Except.ok.inj ran
        exact reports stepRan
      · rename_i stepRan
        obtain rfl := Except.ok.inj ran
        exact built.merge (reports stepRan)
      · rename_i stepRan
        split at ran
        · obtain rfl := Except.ok.inj ran
          exact reports stepRan
        · exact ih (reports stepRan) ran

section
variable [TokenStream σ τ]

/-- A list with separators reports built errors if its items and separators do. -/
theorem ReportsBuilt.sepEndBy1
    {parser : Parser σ υ α}
    {separator : Parser σ υ β}
    (reports : parser.ReportsBuilt)
    (separatorReports : separator.ReportsBuilt) :
    (parser.sepEndBy1 separator).ReportsBuilt := by
  intro state outcome ran
  unfold Parser.sepEndBy1 at ran
  simp only at ran
  split at ran
  · contradiction
  · rename_i firstRan
    obtain rfl := Except.ok.inj ran
    exact reports firstRan
  · rename_i firstRan
    exact sepEndByFrom_built reports separatorReports (reports firstRan) ran

/-- A block comment reports built errors if its opening mark and its steps do. -/
theorem ReportsBuilt.commentAfter
    {opening : Parser σ υ α}
    {step : Parser σ υ CommentStep}
    (reports : opening.ReportsBuilt)
    (stepReports : step.ReportsBuilt) :
    (Language.commentAfter opening step).ReportsBuilt := by
  intro state outcome ran
  unfold Language.commentAfter at ran
  simp only at ran
  split at ran
  · contradiction
  · rename_i openingRan
    obtain rfl := Except.ok.inj ran
    exact reports openingRan
  · rename_i openingRan
    exact commentFrom_built stepReports (reports openingRan) ran

/-! ## Composed parsers -/

/-- Parsers composed of atoms that report built errors report built errors. -/
theorem Composed.reportsBuilt
    {Atom : ∀ ⦃α : Type⦄, Parser σ υ α → Prop}
    (atoms : ∀ ⦃α : Type⦄ (parser : Parser σ υ α), Atom parser → parser.ReportsBuilt)
    {parser : Parser σ υ α}
    (composed : Composed Atom parser) :
    parser.ReportsBuilt := by
  induction composed with
  | atom isAtom => exact atoms _ isAtom
  | defective defect =>
      intro state outcome ran
      contradiction
  | pure value =>
      intro state outcome ran
      obtain rfl := Except.ok.inj ran
      exact .unknown state.position
  | empty =>
      intro state outcome ran
      obtain rfl := Except.ok.inj ran
      exact .unknown state.position
  | failWith kind text =>
      intro state outcome ran
      obtain rfl := Except.ok.inj ran
      exact .single state.position kind text
  | map f _ ih => exact ih.map f
  | bind _ _ ih followingIh => exact ih.bind followingIh
  | zipWith f _ _ firstIh secondIh => exact firstIh.zipWith secondIh f
  | orElse _ _ firstIh secondIh => exact firstIh.orElse secondIh
  | labels names _ ih => exact ih.labels names
  | attempt _ ih => exact ih.attempt
  | lookAhead _ ih => exact ih.lookAhead
  | notFollowedBy _ _ => exact notFollowedBy_reportsBuilt _
  | manyFold first combine _ ih =>
      intro state outcome ran
      exact manyFoldFrom_built ih ran
  | manyTill _ _ ih stopIh =>
      intro state outcome ran
      exact manyTillFrom_built ih stopIh (.unknown state.position) ran
  | sepEndBy1 _ _ ih separatorIh => exact ih.sepEndBy1 separatorIh
  | unrolled _ ih =>
      intro state outcome ran
      rw [run_recursive] at ran
      exact ih state.patience ran
  | commentAfter _ _ _ openingIh stepIh => exact openingIh.commentAfter stepIh

/-- The parsers that look at the state by themselves or change it in any way. -/
inductive Elementary : ∀ ⦃α : Type⦄, Parser σ υ α → Prop
  | token {α : Type}
      (describe : τ → String)
      (next : Position → τ → σ → Position)
      (test : τ → Option α) :
      Elementary (Parser.token describe next test)
  | tokens [DecidableEq τ]
      (describe : List τ → String)
      (next : Position → List τ → Position)
      (wanted : List τ) :
      Elementary (Parser.tokens describe next wanted)
  | modifyState (f : State σ υ → State σ υ) :
      Elementary (Parser.modifyState f)

/-- Elementary parsers report one message at most. -/
theorem Elementary.reportsBuilt {parser : Parser σ υ α} (elementary : Elementary parser) :
    parser.ReportsBuilt := by
  intro state outcome ran
  cases elementary with
  | token describe next test =>
      cases taken : TokenStream.uncons? state.input with
      | none =>
          rw [run_token_of_end taken] at ran
          obtain rfl := Except.ok.inj ran
          exact .single state.position .sysUnexpected ""
      | some pair =>
          obtain ⟨found, rest⟩ := pair
          cases tested : test found with
          | none =>
              rw [run_token_of_none taken tested] at ran
              obtain rfl := Except.ok.inj ran
              exact .single state.position .sysUnexpected (describe found)
          | some value =>
              rw [run_token_of_some taken tested] at ran
              obtain rfl := Except.ok.inj ran
              exact .unknown (next state.position found rest)
  | tokens describe next wanted =>
      unfold Parser.tokens at ran
      simp only at ran
      split at ran
      · obtain rfl := Except.ok.inj ran
        exact .setMessage _ (.single state.position .sysUnexpected _)
      · obtain rfl := Except.ok.inj ran
        exact .unknown (next state.position wanted)
  | modifyState f =>
      obtain rfl := Except.ok.inj ran
      exact .unknown (f state).position

/-- The parsers that keep the input and its position are elementary, and so are the parsers for
characters and lexemes, which are composed of them. -/
theorem Composed.elementary_of_primitive
    {parser : Parser σ υ α}
    (composed : Composed Primitive parser) :
    Composed Elementary parser := by
  refine composed.mono fun α parser primitive => ?_
  cases primitive with
  | token describe next test => exact .atom (.token describe next test)
  | tokens describe wanted _ => exact .atom (.tokens describe _ wanted)
  | modifyState _ _ => exact .atom (.modifyState _)

end

/-- No message stands twice in an error that the operations build, and so none does in an error
that any run reports, be it a failure or the error that a success carries. Setting labels leaves
exactly the labels given, each once, or else the hidden one, and all that was not expected in its
order. -/
theorem messages_distinct :
    (∀ error : ParseError, error.Built → error.messages.Nodup) ∧
      (∀ (σ τ υ α : Type) [TokenStream σ τ] (parser : Parser σ υ α),
        Composed Elementary parser → ∀ state outcome, parser.run state = .ok outcome →
          outcome.reply.errorOf.messages.Nodup) ∧
      ∀ (error : ParseError) (labels : List String),
        FirstOccurrences (if labels = [] then [""] else labels)
            (ParseError.textsOf .expected (error.setExpected labels).messages) ∧
          (error.setExpected labels).messages.filter (·.kind ≠ .expected) =
            error.messages.filter (·.kind ≠ .expected) := by
  refine ⟨fun error built => built.nodup, ?_, fun error labels =>
    ⟨error.firstOccurrences_setExpected labels, error.filter_setExpected labels⟩⟩
  intro σ τ υ α _ parser composed state outcome ran
  have reports := composed.reportsBuilt fun _ _ elementary => elementary.reportsBuilt
  exact (reports ran).nodup

/-- A digit or a plus on another line, under a label that is given twice. -/
def relabelled : Parser Text Unit Char :=
  (setPosition (.clamped "" 9 1)).keepRight
    ((digit.orElse (char '+')).labels ["number", "sign", "number"])

/-- The parser of the example is composed of elementary ones. -/
theorem relabelled_composed : Composed Elementary relabelled :=
  .keepRight (.map _ (.atom (.modifyState _)))
    (.labels _ (Composed.elementary_of_primitive
      (.orElse (.label _ (.satisfy _)) (.label _ (.satisfy _)))))

/-- Where neither is there, each label is reported once, on the line that was set. -/
theorem messages_distinct_relabelled :
    let state : State Text Unit := ⟨Text.ofString "-1", .clamped "" 1 1, ()⟩
    let error : ParseError := ⟨.clamped "" 9 1,
      [⟨.sysUnexpected, "\"-\""⟩, ⟨.expected, "number"⟩, ⟨.expected, "sign"⟩]⟩
    relabelled.run state = .ok ⟨false, .failed error⟩ ∧ error.messages.Nodup := by
  intro state error
  have ran : relabelled.run state = .ok ⟨false, .failed error⟩ := by decide +kernel
  exact ⟨ran, messages_distinct.2.1 _ _ _ _ relabelled relabelled_composed state _ ran⟩

end Parser
end Predictive
