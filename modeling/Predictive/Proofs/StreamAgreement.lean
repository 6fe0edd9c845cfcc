import Predictive.Proofs.Congruence
import Predictive.Proofs.LoopRecursion

/-!
# Parsers over two streams

Two streams may hold the same tokens in different ways. States over them are alike if the tokens to
come are the same, and runs of two parsers are alike if they reply the same from there. How much of
a reply has to be the same depends on the scope: it may include all positions and errors, or leave
them out where the streams count positions in different ways. The scope also limits how many tokens
may be to come, so that a recursive parser can be understood by what it does on shorter inputs.

Parsers that are put together in the same way run alike. The rounds of a loop suffice on either
stream, because every round takes a token. So does the depth of a recursion behind a token; only a
recursion that takes none may be given up as endless, and the two streams need not grant it the
same depth.
-/

namespace Predictive

/-- Which runs over two streams are compared, and in what. -/
structure Scope where
  /-- The runs start with fewer tokens to come than this. -/
  limit : Nat
  /-- Positions and errors have to be the same, and not only tokens and values. -/
  places : Prop

/-- The two are the same if the scope includes places. -/
def Scope.Same {β : Type} (scope : Scope) (first second : β) : Prop :=
  scope.places → first = second

/-- Errors that are the same merge to the same. -/
theorem Scope.Same.merge
    {scope : Scope}
    {first otherFirst second otherSecond : ParseError}
    (firsts : scope.Same first otherFirst)
    (seconds : scope.Same second otherSecond) :
    scope.Same (first.merge second) (otherFirst.merge otherSecond) :=
  fun places => by rw [firsts places, seconds places]

section
variable {σ ς τ υ α β γ : Type} [TokenStream σ τ] [TokenStream ς τ]

/-- States with the same tokens to come, within the limit. -/
structure State.Alike (scope : Scope) (state : State σ υ) (other : State ς υ) : Prop where
  tokens : TokenStream.toList state.input = TokenStream.toList other.input
  inLimit : (TokenStream.toList other.input).length < scope.limit
  user : state.user = other.user
  position : scope.Same state.position other.position

/-- Replies that are the same up to the streams in the states. -/
inductive Reply.Alike (scope : Scope) : Reply σ υ α → Reply ς υ α → Prop
  | ok (value : α) {next : State σ υ} {other : State ς υ} {error otherError : ParseError} :
      next.Alike scope other → scope.Same error otherError →
        Alike scope (.ok value next error) (.ok value other otherError)
  | failed {error otherError : ParseError} :
      scope.Same error otherError → Alike scope (.failed error) (.failed otherError)

/-- Runs with alike replies or the same defect. Where recursion is allowed, the second run may be
given up as endless. -/
inductive RunsAlike (recursion : Prop) (scope : Scope) :
    Except Defect (Outcome σ υ α) → Except Defect (Outcome ς υ α) → Prop
  | gaveUp (run : Except Defect (Outcome σ υ α)) :
      recursion → RunsAlike recursion scope run (.error .unbounded)
  | defect (defect : Defect) :
      RunsAlike recursion scope (.error defect) (.error defect)
  | replied (consumed : Bool) {reply : Reply σ υ α} {other : Reply ς υ α} :
      reply.Alike scope other →
        RunsAlike recursion scope (.ok ⟨consumed, reply⟩) (.ok ⟨consumed, other⟩)

variable {recursion : Prop} {scope inner : Scope}

section
variable (limits : inner.limit ≤ scope.limit) (places : scope.places → inner.places)
include limits places

/-- States that are alike in a wider scope are alike in a narrower one. -/
theorem State.Alike.mono
    {state : State σ υ}
    {other : State ς υ}
    (alike : state.Alike inner other) :
    state.Alike scope other where
  tokens := alike.tokens
  inLimit := alike.inLimit.trans_le limits
  user := alike.user
  position := fun included => alike.position (places included)

/-- Runs that are alike in a scope are alike in one that has a higher limit or leaves out places. -/
theorem RunsAlike.mono
    {run : Except Defect (Outcome σ υ α)}
    {otherRun : Except Defect (Outcome ς υ α)}
    (alike : RunsAlike recursion inner run otherRun) :
    RunsAlike recursion scope run otherRun := by
  cases alike with
  | gaveUp run allowed => exact .gaveUp run allowed
  | defect defect => exact .defect defect
  | replied consumed replies =>
      cases replies with
      | ok value next same =>
          exact .replied consumed (.ok value (next.mono limits places) fun included =>
            same (places included))
      | failed same => exact .replied consumed (.failed fun included => same (places included))

end

/-- Runs stay alike under a change to their outcomes that keeps alike replies alike. -/
theorem RunsAlike.mapOutcome
    {run : Except Defect (Outcome σ υ α)}
    {otherRun : Except Defect (Outcome ς υ α)}
    {change : Outcome σ υ α → Outcome σ υ β}
    {otherChange : Outcome ς υ α → Outcome ς υ β}
    (alike : RunsAlike recursion inner run otherRun)
    (changed : ∀ consumed (reply : Reply σ υ α) (other : Reply ς υ α), reply.Alike inner other →
      RunsAlike recursion scope (.ok (change ⟨consumed, reply⟩))
        (.ok (otherChange ⟨consumed, other⟩))) :
    RunsAlike recursion scope (run.map change) (otherRun.map otherChange) := by
  cases alike with
  | gaveUp run allowed => exact .gaveUp _ allowed
  | defect defect => exact .defect defect
  | replied consumed replies => exact changed consumed _ _ replies

/-- Runs that are alike stay so behind the same error. -/
theorem RunsAlike.after
    {run : Except Defect (Outcome σ υ α)}
    {otherRun : Except Defect (Outcome ς υ α)}
    {error otherError : ParseError}
    (alike : RunsAlike recursion scope run otherRun)
    (consumed : Bool)
    (errors : scope.Same error otherError) :
    RunsAlike recursion scope (run.map (·.after consumed error))
      (otherRun.map (·.after consumed otherError)) := by
  refine alike.mapOutcome fun tag reply other replies => ?_
  cases tag with
  | true => exact .replied true replies
  | false =>
      cases replies with
      | ok value next same => exact .replied consumed (.ok value next (errors.merge same))
      | failed same => exact .replied consumed (.failed (errors.merge same))

namespace Parser

/-- From states that are alike the parsers run alike. -/
def RunsLike
    (recursion : Prop)
    (scope : Scope)
    (parser : Parser σ υ α)
    (other : Parser ς υ α) : Prop :=
  ∀ ⦃state : State σ υ⦄ ⦃otherState : State ς υ⦄, state.Alike scope otherState →
    RunsAlike recursion scope (parser.run state) (other.run otherState)

namespace RunsLike

variable {parser : Parser σ υ α} {other : Parser ς υ α}

theorem pure (value : α) :
    RunsLike recursion scope (Parser.pure value : Parser σ υ α)
      (Parser.pure value : Parser ς υ α) :=
  fun _ _ alike => .replied false (.ok value alike fun places => by rw [alike.position places])

theorem empty :
    RunsLike recursion scope (Parser.empty : Parser σ υ α) (Parser.empty : Parser ς υ α) :=
  fun _ _ alike => .replied false (.failed fun places => by rw [alike.position places])

theorem failWith (kind : MessageKind) (text : String) :
    RunsLike recursion scope (Parser.failWith kind text : Parser σ υ α)
      (Parser.failWith kind text : Parser ς υ α) :=
  fun _ _ alike => .replied false (.failed fun places => by rw [alike.position places])

/-- Values do not matter to whether parsers run alike. -/
theorem map (related : RunsLike recursion scope parser other) (f : α → β) :
    RunsLike recursion scope (parser.map f) (other.map f) := by
  refine fun state otherState alike => (related alike).mapOutcome fun consumed _ _ replies => ?_
  cases replies with
  | ok value next same => exact .replied consumed (.ok (f value) next same)
  | failed same => exact .replied consumed (.failed same)

/-- How the runs from two states that are alike can go. -/
theorem run_cases
    {state : State σ υ}
    {otherState : State ς υ}
    (related : RunsLike recursion scope parser other)
    (alike : state.Alike scope otherState) :
    (recursion ∧ other.run otherState = .error .unbounded) ∨
    (∃ defect, parser.run state = .error defect ∧ other.run otherState = .error defect) ∨
    (∃ consumed error otherError,
      parser.run state = .ok ⟨consumed, .failed error⟩ ∧
      other.run otherState = .ok ⟨consumed, .failed otherError⟩ ∧
      scope.Same error otherError) ∨
    (∃ consumed value next otherNext error otherError,
      parser.run state = .ok ⟨consumed, .ok value next error⟩ ∧
      other.run otherState = .ok ⟨consumed, .ok value otherNext otherError⟩ ∧
      next.Alike scope otherNext ∧ scope.Same error otherError) := by
  have ran := related alike
  generalize parser.run state = run, other.run otherState = otherRun at ran ⊢
  cases ran with
  | gaveUp run allowed => exact .inl ⟨allowed, rfl⟩
  | defect defect => exact .inr (.inl ⟨defect, rfl, rfl⟩)
  | replied consumed replies =>
      cases replies with
      | failed same => exact .inr (.inr (.inl ⟨consumed, _, _, rfl, rfl, same⟩))
      | ok value next same =>
          exact .inr (.inr (.inr ⟨consumed, value, _, _, _, _, rfl, rfl, next, same⟩))

/-- Sequences run alike if their halves do. -/
theorem bind
    {following : α → Parser σ υ β}
    {otherFollowing : α → Parser ς υ β}
    (related : RunsLike recursion scope parser other)
    (followings : ∀ value, RunsLike recursion scope (following value) (otherFollowing value)) :
    RunsLike recursion scope (parser.bind following) (other.bind otherFollowing) := by
  intro state otherState alike
  rcases related.run_cases alike with ⟨allowed, otherRan⟩ | ⟨defect, ran, otherRan⟩ |
    ⟨consumed, error, otherError, ran, otherRan, same⟩ |
    ⟨consumed, value, next, otherNext, error, otherError, ran, otherRan, nextAlike, same⟩
  · rw [run_bind_of_error otherRan]
    exact .gaveUp _ allowed
  · rw [run_bind_of_error ran, run_bind_of_error otherRan]
    exact .defect defect
  · rw [run_bind_of_failed ran, run_bind_of_failed otherRan]
    exact .replied consumed (.failed same)
  · rw [run_bind_of_ok ran, run_bind_of_ok otherRan]
    exact (followings value nextAlike).after consumed same

/-- Choices run alike if their parsers do. -/
theorem orElse
    {second : Parser σ υ α}
    {otherSecond : Parser ς υ α}
    (related : RunsLike recursion scope parser other)
    (seconds : RunsLike recursion scope second otherSecond) :
    RunsLike recursion scope (parser.orElse second) (other.orElse otherSecond) := by
  intro state otherState alike
  rcases related.run_cases alike with ⟨allowed, otherRan⟩ | ⟨defect, ran, otherRan⟩ |
    ⟨_ | _, error, otherError, ran, otherRan, same⟩ |
    ⟨consumed, value, next, otherNext, error, otherError, ran, otherRan, nextAlike, same⟩
  · rw [run_orElse_of_error otherRan]
    exact .gaveUp _ allowed
  · rw [run_orElse_of_error ran, run_orElse_of_error otherRan]
    exact .defect defect
  · rw [run_orElse_of_empty_failed ran, run_orElse_of_empty_failed otherRan]
    exact (seconds alike).after false same
  · rw [run_orElse_of_consumed ran, run_orElse_of_consumed otherRan]
    exact .replied true (.failed same)
  · rw [run_orElse_of_ok ran, run_orElse_of_ok otherRan]
    exact .replied consumed (.ok value nextAlike same)

/-- Labels keep what runs alike. -/
theorem labels (related : RunsLike recursion scope parser other) (names : List String) :
    RunsLike recursion scope (parser.labels names) (other.labels names) := by
  refine fun state otherState alike => (related alike).mapOutcome fun consumed _ _ replies => ?_
  cases consumed with
  | true => exact .replied true replies
  | false =>
      cases replies with
      | ok value next same =>
          exact .replied false (.ok value next fun places => by rw [same places])
      | failed same => exact .replied false (.failed fun places => by rw [same places])

/-- Attempts keep what runs alike. -/
theorem attempt (related : RunsLike recursion scope parser other) :
    RunsLike recursion scope parser.attempt other.attempt := by
  refine fun state otherState alike => (related alike).mapOutcome fun consumed _ _ replies => ?_
  cases replies with
  | ok value next same => exact .replied consumed (.ok value next same)
  | failed same => exact .replied false (.failed same)

/-- A look-ahead goes back to states that are alike. -/
theorem lookAhead (related : RunsLike recursion scope parser other) :
    RunsLike recursion scope parser.lookAhead other.lookAhead := by
  refine fun state otherState alike => (related alike).mapOutcome fun consumed _ _ replies => ?_
  cases replies with
  | ok value next same =>
      exact .replied false (.ok value alike fun places => by rw [alike.position places])
  | failed same => exact .replied consumed (.failed same)

/-- What is tested for by `notFollowedBy` leaves its value in the message, but neither its errors
nor its positions. So it suffices if the parser runs alike where places are left out. -/
theorem notFollowedBy
    [Describe α]
    (related : RunsLike recursion inner parser other)
    (limits : scope.limit ≤ inner.limit)
    (places : inner.places → scope.places) :
    RunsLike recursion scope parser.notFollowedBy other.notFollowedBy := by
  intro state otherState alike
  refine (related (alike.mono limits places)).mapOutcome fun consumed _ _ replies => ?_
  cases replies with
  | ok value next same =>
      exact .replied false (.failed fun places => by rw [alike.position places])
  | failed same =>
      exact .replied false (.ok () alike fun places => by rw [alike.position places])

end RunsLike

end Parser

/-! ## Rounds of loops -/

namespace Parser

variable {parser : Parser σ υ α} {other : Parser ς υ α}

/-- What follows a parser that always consumes has one token less to come. -/
theorem RunsLike.bind_of_consumes
    {limit : Nat}
    {places : Prop}
    {following : α → Parser σ υ β}
    {otherFollowing : α → Parser ς υ β}
    (consumes : other.AlwaysConsumes)
    (spends : other.Relates State.Spends)
    (related : RunsLike recursion ⟨limit + 1, places⟩ parser other)
    (followings : ∀ value,
      RunsLike recursion ⟨limit, places⟩ (following value) (otherFollowing value)) :
    RunsLike recursion ⟨limit + 1, places⟩ (parser.bind following) (other.bind otherFollowing) := by
  intro state otherState alike
  rcases related.run_cases alike with ⟨allowed, otherRan⟩ | ⟨defect, ran, otherRan⟩ |
    ⟨consumed, error, otherError, ran, otherRan, same⟩ |
    ⟨_ | _, value, next, otherNext, error, otherError, ran, otherRan, nextAlike, same⟩
  · rw [run_bind_of_error otherRan]
    exact .gaveUp _ allowed
  · rw [run_bind_of_error ran, run_bind_of_error otherRan]
    exact .defect defect
  · rw [run_bind_of_failed ran, run_bind_of_failed otherRan]
    exact .replied consumed (.failed same)
  · exact absurd otherRan (consumes _ _ _ _)
  · have shorter := (spends otherRan).length_lt
    have inLimit := Nat.lt_succ_iff.mp alike.inLimit
    have followed := followings value
      ⟨nextAlike.tokens, shorter.trans_le inLimit, nextAlike.user, nextAlike.position⟩
    rw [run_bind_of_ok ran, run_bind_of_ok otherRan]
    refine RunsAlike.after (followed.mono ?_ ?_) true same
    · exact Nat.le_succ limit
    · exact id

/-- Repetitions run alike if they are patient enough for all tokens on both streams. -/
theorem manyFoldFrom_runsAlike
    {combine : β → α → β}
    {rounds otherRounds : Nat}
    {consumed : Bool}
    {total : β}
    {state : State σ υ}
    {otherState : State ς υ}
    (related : RunsLike recursion scope parser other)
    (spends : other.Relates State.Spends)
    (alike : state.Alike scope otherState)
    (enough : (TokenStream.toList otherState.input).length < rounds)
    (otherEnough : (TokenStream.toList otherState.input).length < otherRounds) :
    RunsAlike recursion scope (manyFoldFrom parser combine rounds consumed total state)
      (manyFoldFrom other combine otherRounds consumed total otherState) := by
  induction rounds generalizing otherRounds consumed total state otherState with
  | zero => contradiction
  | succ rounds ih =>
      obtain ⟨others, rfl⟩ := Nat.exists_eq_add_one_of_ne_zero (Nat.ne_zero_of_lt otherEnough)
      unfold manyFoldFrom
      rcases related.run_cases alike with ⟨allowed, otherRan⟩ | ⟨defect, ran, otherRan⟩ |
        ⟨_ | _, error, otherError, ran, otherRan, same⟩ |
        ⟨_ | _, value, next, otherNext, error, otherError, ran, otherRan, nextAlike, same⟩
      · rw [otherRan]
        exact .gaveUp _ allowed
      · rw [ran, otherRan]
        exact .defect defect
      · rw [ran, otherRan]
        exact .replied consumed (.ok total alike same)
      · rw [ran, otherRan]
        exact .replied true (.failed same)
      · rw [ran, otherRan]
        exact .defect .endlessMany
      · have shorter := (spends otherRan).length_lt
        rw [ran, otherRan]
        exact ih nextAlike (by omega) (by omega)

/-- Repetitions up to a stop run alike if they are patient enough for all tokens on both streams. -/
theorem manyTillFrom_runsAlike
    {stop : Parser σ υ β}
    {otherStop : Parser ς υ β}
    {rounds otherRounds : Nat}
    {consumed : Bool}
    {values : List α}
    {state : State σ υ}
    {otherState : State ς υ}
    {error otherError : ParseError}
    (related : RunsLike recursion scope parser other)
    (stops : RunsLike recursion scope stop otherStop)
    (spends : other.Relates State.Spends)
    (alike : state.Alike scope otherState)
    (errors : scope.Same error otherError)
    (enough : (TokenStream.toList otherState.input).length < rounds)
    (otherEnough : (TokenStream.toList otherState.input).length < otherRounds) :
    RunsAlike recursion scope (manyTillFrom parser stop rounds consumed values state error)
      (manyTillFrom other otherStop otherRounds consumed values otherState otherError) := by
  induction rounds generalizing otherRounds consumed values state otherState error otherError with
  | zero => contradiction
  | succ rounds ih =>
      obtain ⟨others, rfl⟩ := Nat.exists_eq_add_one_of_ne_zero (Nat.ne_zero_of_lt otherEnough)
      unfold manyTillFrom
      rcases stops.run_cases alike with ⟨allowed, otherRan⟩ | ⟨defect, ran, otherRan⟩ |
        ⟨_ | _, stopError, otherStopError, ran, otherRan, stopSame⟩ |
        ⟨_ | _, last, next, otherNext, stopError, otherStopError, ran, otherRan, nextAlike,
          stopSame⟩
      · rw [otherRan]
        exact .gaveUp _ allowed
      · rw [ran, otherRan]
        exact .defect defect
      · rw [ran, otherRan]
        rcases related.run_cases alike with ⟨allowed, itemRan⟩ | ⟨defect, ran, itemRan⟩ |
          ⟨_ | _, nextError, otherNextError, ran, itemRan, same⟩ |
          ⟨_ | _, value, next, otherNext, nextError, otherNextError, ran, itemRan, nextAlike,
            same⟩
        · rw [itemRan]
          exact .gaveUp _ allowed
        · rw [ran, itemRan]
          exact .defect defect
        · rw [ran, itemRan]
          exact .replied consumed (.failed ((errors.merge stopSame).merge same))
        · rw [ran, itemRan]
          exact .replied true (.failed same)
        · rw [ran, itemRan]
          exact .defect .endlessManyTill
        · have shorter := (spends itemRan).length_lt
          rw [ran, itemRan]
          exact ih nextAlike same (by omega) (by omega)
      · rw [ran, otherRan]
        exact .replied true (.failed stopSame)
      · rw [ran, otherRan]
        exact .replied consumed (.ok values.reverse nextAlike (errors.merge stopSame))
      · rw [ran, otherRan]
        exact .replied true (.ok values.reverse nextAlike stopSame)

/-- A round of `sepEndBy1` behind a separator. -/
theorem sepEndByFrom_of_separated
    {separator : Parser σ υ β}
    {sepConsumed : Bool}
    {mark : β}
    {state afterSep : State σ υ}
    {sepError : ParseError}
    (separatorRan : separator.run state = .ok ⟨sepConsumed, .ok mark afterSep sepError⟩)
    (parser : Parser σ υ α)
    (rounds : Nat)
    (consumed : Bool)
    (items : List α)
    (error : ParseError) :
    sepEndByFrom parser separator (rounds + 1) consumed items state error =
      let boundary := if sepConsumed then sepError else error.merge sepError
      match parser.run afterSep with
      | .error defect => .error defect
      | .ok ⟨true, .failed itemError⟩ => .ok ⟨true, .failed itemError⟩
      | .ok ⟨false, .failed itemError⟩ =>
          .ok ⟨consumed || sepConsumed, .ok items.reverse afterSep (boundary.merge itemError)⟩
      | .ok ⟨true, .ok item next itemError⟩ =>
          sepEndByFrom parser separator rounds true (item :: items) next itemError
      | .ok ⟨false, .ok item next itemError⟩ =>
          if sepConsumed then
            sepEndByFrom parser separator rounds true (item :: items) next
              (boundary.merge itemError)
          else .error .endlessSepEndBy := by
  rw [sepEndByFrom, separatorRan]
  cases sepConsumed <;> rfl

/-- Lists with separators run alike if they are patient enough for all tokens on both streams. -/
theorem sepEndByFrom_runsAlike
    {separator : Parser σ υ β}
    {otherSeparator : Parser ς υ β}
    {rounds otherRounds : Nat}
    {consumed : Bool}
    {items : List α}
    {state : State σ υ}
    {otherState : State ς υ}
    {error otherError : ParseError}
    (related : RunsLike recursion scope parser other)
    (separators : RunsLike recursion scope separator otherSeparator)
    (spends : other.Relates State.Spends)
    (separatorSpends : otherSeparator.Relates State.Spends)
    (alike : state.Alike scope otherState)
    (errors : scope.Same error otherError)
    (enough : (TokenStream.toList otherState.input).length < rounds)
    (otherEnough : (TokenStream.toList otherState.input).length < otherRounds) :
    RunsAlike recursion scope (sepEndByFrom parser separator rounds consumed items state error)
      (sepEndByFrom other otherSeparator otherRounds consumed items otherState otherError) := by
  induction rounds generalizing otherRounds consumed items state otherState error otherError with
  | zero => contradiction
  | succ rounds ih =>
      obtain ⟨others, rfl⟩ := Nat.exists_eq_add_one_of_ne_zero (Nat.ne_zero_of_lt otherEnough)
      rcases separators.run_cases alike with ⟨allowed, otherRan⟩ | ⟨defect, ran, otherRan⟩ |
        ⟨_ | _, sepError, otherSepError, ran, otherRan, sepSame⟩ |
        ⟨sepConsumed, mark, afterSep, otherAfterSep, sepError, otherSepError, ran, otherRan,
          afterAlike, sepSame⟩
      · rw [sepEndByFrom, sepEndByFrom, otherRan]
        exact .gaveUp _ allowed
      · rw [sepEndByFrom, sepEndByFrom, ran, otherRan]
        exact .defect defect
      · rw [sepEndByFrom, sepEndByFrom, ran, otherRan]
        exact .replied consumed (.ok items.reverse alike (errors.merge sepSame))
      · rw [sepEndByFrom, sepEndByFrom, ran, otherRan]
        exact .replied true (.failed sepSame)
      · rw [sepEndByFrom_of_separated ran, sepEndByFrom_of_separated otherRan]
        have boundaries : scope.Same (if sepConsumed then sepError else error.merge sepError)
            (if sepConsumed then otherSepError else otherError.merge otherSepError) := by
          cases sepConsumed with
          | true => exact sepSame
          | false => exact errors.merge sepSame
        have kept := separatorSpends otherRan
        rcases related.run_cases afterAlike with ⟨allowed, itemRan⟩ | ⟨defect, ran, itemRan⟩ |
          ⟨_ | _, itemError, otherItemError, ran, itemRan, same⟩ |
          ⟨_ | _, item, next, otherNext, itemError, otherItemError, ran, itemRan, nextAlike, same⟩
        · rw [itemRan]
          exact .gaveUp _ allowed
        · rw [ran, itemRan]
          exact .defect defect
        · rw [ran, itemRan]
          exact .replied _ (.ok items.reverse afterAlike (boundaries.merge same))
        · rw [ran, itemRan]
          exact .replied true (.failed same)
        · rw [ran, itemRan]
          cases sepConsumed with
          | false => exact .defect .endlessSepEndBy
          | true =>
              have shorter := kept.length_lt
              have left : (TokenStream.toList otherNext.input).length ≤ _ := spends itemRan
              exact ih nextAlike (boundaries.merge same) (by omega) (by omega)
        · have shorter := (State.spends_composes.trans kept (spends itemRan))
          rw [Bool.or_true] at shorter
          have fewer := shorter.length_lt
          rw [ran, itemRan]
          exact ih nextAlike same (by omega) (by omega)

/-- A round of a comment behind a step. -/
theorem commentFrom_of_stepped
    {step : Parser σ υ CommentStep}
    {consumed : Bool}
    {found : CommentStep}
    {state next : State σ υ}
    {stepError : ParseError}
    (stepRan : step.run state = .ok ⟨consumed, .ok found next stepError⟩)
    (rounds depth : Nat)
    (error : ParseError) :
    Language.commentFrom step (rounds + 1) depth state error =
      if found.depthAfter depth = 0 then .ok ⟨true, .ok () next stepError⟩
      else Language.commentFrom step rounds (found.depthAfter depth) next stepError := by
  rw [Language.commentFrom, stepRan]
  cases consumed <;> rfl

/-- The rounds of a comment suffice if each step consumes, or if the first one closes it. -/
theorem commentFrom_runsAlike
    {step : Parser σ υ CommentStep}
    {otherStep : Parser ς υ CommentStep}
    {rounds otherRounds depth : Nat}
    {state : State σ υ}
    {otherState : State ς υ}
    {error otherError : ParseError}
    (related : RunsLike recursion scope step otherStep)
    (spends : otherStep.Relates State.Spends)
    (progress : otherStep.AlwaysConsumes ∨ depth = 1 ∧ ∀ state consumed found next error,
      otherStep.Yields state consumed found next error → found = .closed)
    (alike : state.Alike scope otherState)
    (errors : scope.Same error otherError)
    (enough : (TokenStream.toList otherState.input).length < rounds)
    (otherEnough : (TokenStream.toList otherState.input).length < otherRounds) :
    RunsAlike recursion scope (Language.commentFrom step rounds depth state error)
      (Language.commentFrom otherStep otherRounds depth otherState otherError) := by
  induction rounds generalizing otherRounds depth state otherState error otherError with
  | zero => contradiction
  | succ rounds ih =>
      obtain ⟨others, rfl⟩ := Nat.exists_eq_add_one_of_ne_zero (Nat.ne_zero_of_lt otherEnough)
      rcases related.run_cases alike with ⟨allowed, otherRan⟩ | ⟨defect, ran, otherRan⟩ |
        ⟨_ | _, stepError, otherStepError, ran, otherRan, same⟩ |
        ⟨consumed, found, next, otherNext, stepError, otherStepError, ran, otherRan, nextAlike,
          same⟩
      · rw [Language.commentFrom, Language.commentFrom, otherRan]
        exact .gaveUp _ allowed
      · rw [Language.commentFrom, Language.commentFrom, ran, otherRan]
        exact .defect defect
      · rw [Language.commentFrom, Language.commentFrom, ran, otherRan]
        exact .replied true (.failed (errors.merge same))
      · rw [Language.commentFrom, Language.commentFrom, ran, otherRan]
        exact .replied true (.failed same)
      · rw [commentFrom_of_stepped ran, commentFrom_of_stepped otherRan]
        by_cases ended : found.depthAfter depth = 0
        · rw [if_pos ended, if_pos ended]
          exact .replied true (.ok () nextAlike same)
        · rw [if_neg ended, if_neg ended]
          have always : otherStep.AlwaysConsumes := by
            rcases progress with always | ⟨rfl, closes⟩
            · exact always
            · obtain rfl := closes _ _ _ _ _ otherRan
              exact absurd rfl ended
          cases consumed with
          | false => exact absurd otherRan (always _ _ _ _)
          | true =>
              have shorter := (spends otherRan).length_lt
              exact ih (.inl always) nextAlike same (by omega) (by omega)

end Parser
end
end Predictive
