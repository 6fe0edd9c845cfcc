import Predictive.Proofs.LoopRecursion
import Predictive.Proofs.Returning

/-!
# How loops end

The three loops have iterations of one kind. An iteration makes a turn from the state where it
starts, and the turn has a tag: whether input was consumed for it. With the tag the loop goes on
behind the turn, without it the turn could be made forever and is a defect, and where no turn can be
made the loop has an outcome. If tags are sound then every turn on which a loop goes on leaves fewer
tokens, so by induction on these a loop makes at most one iteration more than there are tokens, and
which of the three becomes of it depends on the states that its iterations reach.
-/

namespace Predictive

variable {σ τ υ α β γ δ ι : Type}

/-- A number of steps leads from one place to another. -/
inductive Reaches (step : ι → ι → Prop) : Nat → ι → ι → Prop
  | refl (place : ι) : Reaches step 0 place place
  | head
      {count : Nat}
      {first second last : ι}
      (goesOn : step first second)
      (others : Reaches step count second last) :
      Reaches step (count + 1) first last

/-- Each step decreases a measure, so there are no more steps than that has room for. -/
theorem Reaches.add_le
    {step : ι → ι → Prop}
    (measure : ι → Nat)
    (decreases : ∀ {before after}, step before after → measure after < measure before)
    {count : Nat}
    {first last : ι}
    (reaches : Reaches step count first last) :
    count + measure last ≤ measure first := by
  induction reaches with
  | refl place => omega
  | head goesOn others ih =>
      have smaller := decreases goesOn
      omega

/-- A step that leads back to where it starts can be made any number of times. -/
theorem Reaches.of_circle {step : ι → ι → Prop} {place : ι} (circles : step place place) :
    ∀ count, Reaches step count place place
  | 0 => .refl place
  | count + 1 => .head circles (of_circle circles count)

namespace Parser

/-! ## Turns -/

/-- The parser gets from one state to another with a tag. -/
def Passes (parser : Parser σ υ α) (tag : Bool) (before after : State σ υ) : Prop :=
  ∃ value error, parser.Yields before tag value after error

/-- The turn of an iteration of `manyTill`: the end fails at once, and the parser succeeds. -/
def TurnsUnless
    (parser : Parser σ υ α)
    (stop : Parser σ υ β)
    (tag : Bool)
    (before after : State σ υ) : Prop :=
  (∃ error, stop.Fails before false error) ∧ parser.Passes tag before after

/-- The turn of an iteration of `sepEndBy1`: a separator and behind it the parser succeed, and one
of them consumes input if the turn does. -/
def TurnsBehind
    (parser : Parser σ υ α)
    (separator : Parser σ υ β)
    (tag : Bool)
    (before after : State σ υ) : Prop :=
  ∃ middle first second, separator.Passes first before middle ∧
    parser.Passes second middle after ∧ tag = (first || second)

/-- A loop over stages, each of which is at a state: with a tagged turn it goes on at a stage behind
the turn, with an untagged one it has a defect, and without a turn it has an outcome. -/
structure Iterates
    (turn : Bool → State σ υ → State σ υ → Prop)
    (defect : Defect)
    (place : ι → State σ υ)
    (loop : Nat → ι → Except Defect (Outcome σ υ α)) : Prop where
  goesOn {stage : ι} {after : State σ υ} : turn true (place stage) after →
    ∃ next, place next = after ∧ ∀ rounds, loop (rounds + 1) stage = loop rounds next
  endless {stage : ι} {after : State σ υ} : turn false (place stage) after →
    ∀ rounds, loop (rounds + 1) stage = .error defect
  returns {stage : ι} : (∀ tag after, ¬ turn tag (place stage) after) →
    ∃ outcome, ∀ rounds, loop (rounds + 1) stage = .ok outcome

/-- What becomes of a loop that visits certain states, at each of which it may be endless. The
states are numbered from zero in the order of the iterations, of which there is at most one more
than the bound. -/
structure Decided
    (ran : Except Defect (Outcome σ υ α))
    (visits : Nat → State σ υ → Prop)
    (endless : State σ υ → Prop)
    (defect : Defect)
    (bound : Nat) : Prop where
  few {count : Nat} {place : State σ υ} : visits count place → count ≤ bound
  defective_iff : ran = .error defect ↔ ∃ count place, visits count place ∧ endless place
  returns : (∀ count place, visits count place → ¬ endless place) → ∃ outcome, ran = .ok outcome

namespace Decided

variable
  {ran : Except Defect (Outcome σ υ α)}
  {visits others : Nat → State σ υ → Prop}
  {endless : State σ υ → Prop}
  {defect : Defect}
  {bound : Nat}

/-- Loops with the same rounds are decided alike. -/
theorem congr
    (decided : Decided ran visits endless defect bound)
    (same : ∀ count place, visits count place ↔ others count place) :
    Decided ran others endless defect bound := by
  obtain rfl : visits = others := funext₂ fun count place => propext (same count place)
  exact decided

/-- A loop that is not entered has an outcome. -/
theorem of_not_visited
    {outcome : Outcome σ υ α}
    (returned : ran = .ok outcome)
    (unvisited : ∀ count place, ¬ visits count place) :
    Decided ran visits endless defect bound where
  few visited := absurd visited (unvisited _ _)
  defective_iff := by
    rw [returned]
    refine ⟨by simp, ?_⟩
    rintro ⟨count, place, visited, -⟩
    exact absurd visited (unvisited count place)
  returns _ := ⟨outcome, returned⟩

end Decided

namespace Iterates

variable [TokenStream σ τ]
variable {turn : Bool → State σ υ → State σ υ → Prop} {defect : Defect}
variable {place : ι → State σ υ} {loop : Nat → ι → Except Defect (Outcome σ υ α)}

/-- A loop that reaches an endless iteration ends there. -/
theorem eq_error
    (iterates : Iterates turn defect place loop)
    {stage : ι}
    {rounds count : Nat}
    {start reached after : State σ υ}
    (reaches : Reaches (turn true) count start reached)
    (endless : turn false reached after)
    (starts : place stage = start)
    (enough : count < rounds) :
    loop rounds stage = .error defect := by
  induction reaches generalizing stage rounds with
  | refl start =>
      obtain ⟨rounds, rfl⟩ := Nat.exists_eq_add_one.mpr enough
      subst starts
      exact iterates.endless endless rounds
  | head goesOn others ih =>
      obtain ⟨rounds, rfl⟩ := Nat.exists_eq_add_one.mpr (Nat.zero_lt_of_lt enough)
      subst starts
      obtain ⟨next, there, continues⟩ := iterates.goesOn goesOn
      rw [continues rounds]
      exact ih endless there (Nat.lt_of_succ_lt_succ enough)

variable (shrinks : ∀ {before after}, turn true before after →
  (TokenStream.toList after.input).length < (TokenStream.toList before.input).length)
include shrinks

/-- A loop that reaches no endless iteration has an outcome. -/
theorem eq_ok
    (iterates : Iterates turn defect place loop)
    {stage : ι}
    (sound : ∀ count reached, Reaches (turn true) count (place stage) reached →
      ∀ after, ¬ turn false reached after) :
    ∃ outcome, ∀ rounds, (TokenStream.toList (place stage).input).length < rounds →
      loop rounds stage = .ok outcome := by
  induction size : (TokenStream.toList (place stage).input).length using Nat.strongRecOn
    generalizing stage with
  | ind size ih =>
      subst size
      by_cases turns : ∃ after, turn true (place stage) after
      · obtain ⟨after, goesOn⟩ := turns
        obtain ⟨next, rfl, continues⟩ := iterates.goesOn goesOn
        have shorter := shrinks goesOn
        obtain ⟨outcome, ran⟩ := ih _ shorter
          (fun count reached reaches => sound (count + 1) reached (.head goesOn reaches)) rfl
        refine ⟨outcome, fun rounds enough => ?_⟩
        obtain ⟨rounds, rfl⟩ := Nat.exists_eq_add_one.mpr (Nat.zero_lt_of_lt enough)
        rw [continues rounds]
        exact ran rounds (by omega)
      · have stops : ∀ tag after, ¬ turn tag (place stage) after := by
          rintro (_ | _) after turned
          · exact sound 0 _ (.refl _) after turned
          · exact turns ⟨after, turned⟩
        obtain ⟨outcome, ran⟩ := iterates.returns stops
        refine ⟨outcome, fun rounds enough => ?_⟩
        obtain ⟨rounds, rfl⟩ := Nat.exists_eq_add_one.mpr (Nat.zero_lt_of_lt enough)
        exact ran rounds

/-- A loop that is granted more rounds than there are tokens is decided, by how many does not
matter. -/
theorem decided
    (iterates : Iterates turn defect place loop)
    (stage : ι)
    {bound rounds : Nat}
    (few : (TokenStream.toList (place stage).input).length ≤ bound)
    (enough : bound < rounds) :
    Decided (loop rounds stage) (Reaches (turn true) · (place stage) ·)
        (fun reached => ∃ after, turn false reached after) defect bound ∧
      loop (bound + 1) stage = loop rounds stage := by
  have bounded {count : Nat} {reached : State σ υ}
      (reaches : Reaches (turn true) count (place stage) reached) : count ≤ bound := by
    have decreased := reaches.add_le (fun state => (TokenStream.toList state.input).length) shrinks
    omega
  by_cases ends : ∃ count reached, Reaches (turn true) count (place stage) reached ∧
      ∃ after, turn false reached after
  · obtain ⟨count, reached, reaches, after, endless⟩ := ends
    have fails {limit : Nat} (ample : bound < limit) : loop limit stage = .error defect :=
      iterates.eq_error reaches endless rfl (Nat.lt_of_le_of_lt (bounded reaches) ample)
    refine ⟨⟨bounded, ⟨fun _ => ?_, fun _ => fails enough⟩, fun sound => ?_⟩, ?_⟩
    · exact ⟨count, reached, reaches, after, endless⟩
    · exact absurd ⟨after, endless⟩ (sound count reached reaches)
    · rw [fails (Nat.lt_succ_self bound), fails enough]
  · obtain ⟨outcome, ran⟩ := iterates.eq_ok shrinks fun count reached reaches after endless =>
      ends ⟨count, reached, reaches, after, endless⟩
    have returns {limit : Nat} (ample : bound < limit) : loop limit stage = .ok outcome :=
      ran limit (Nat.lt_of_le_of_lt few ample)
    refine ⟨⟨bounded, ⟨fun failed => ?_, fun other => absurd other ends⟩, fun _ => ?_⟩, ?_⟩
    · rw [returns enough] at failed
      contradiction
    · exact ⟨outcome, returns enough⟩
    · rw [returns (Nat.lt_succ_self bound), returns enough]

end Iterates

/-! ## The three loops -/

/-- A repetition goes on behind a round that consumed, and is endless behind one that did not. -/
theorem manyFoldFrom_iterates
    {parser : Parser σ υ α}
    (returns : parser.Returns)
    (combine : β → α → β) :
    Iterates parser.Passes .endlessMany (fun stage : Bool × β × State σ υ => stage.2.2)
      fun rounds stage => manyFoldFrom parser combine rounds stage.1 stage.2.1 stage.2.2 where
  goesOn := by
    rintro ⟨tag, total, state⟩ after ⟨value, error, ran⟩
    exact ⟨(true, combine total value, after), rfl, fun rounds => by rw [manyFoldFrom, ran]⟩
  endless := by
    rintro ⟨tag, total, state⟩ after ⟨value, error, ran⟩ rounds
    rw [manyFoldFrom, ran]
  returns := by
    rintro ⟨tag, total, state⟩ stops
    obtain ⟨⟨consumed, ⟨value, next, error⟩ | error⟩, ran⟩ := returns state
    · exact absurd ⟨value, error, ran⟩ (stops consumed next)
    · cases consumed with
      | false => exact ⟨_, fun rounds => by rw [manyFoldFrom, ran]⟩
      | true => exact ⟨_, fun rounds => by rw [manyFoldFrom, ran]⟩

/-- A loop that reaches as many states as it has rounds is given up. -/
theorem manyFoldFrom_eq_unbounded
    {step : Parser σ υ γ}
    {combine : β → γ → β}
    {rounds count : Nat}
    {consumed : Bool}
    {total : β}
    {state reached : State σ υ}
    (reaches : Reaches (step.Passes true) count state reached)
    (few : rounds ≤ count) :
    manyFoldFrom step combine rounds consumed total state = .error .unbounded := by
  induction reaches generalizing rounds consumed total with
  | refl state =>
      obtain rfl : rounds = 0 := Nat.le_zero.mp few
      rfl
  | head passes others ih =>
      obtain ⟨value, error, ran⟩ := passes
      cases rounds with
      | zero => rfl
      | succ rounds =>
          rw [manyFoldFrom, ran]
          exact ih (Nat.le_of_succ_le_succ few)

/-- A repetition is given up behind a turn that leads back to where it starts, whatever the number
of rounds that it is granted. -/
theorem many_eq_unbounded
    [TokenStream σ τ]
    {parser : Parser σ υ α}
    {state place : State σ υ}
    (enters : parser.Passes true state place)
    (circles : parser.Passes true place place) :
    parser.many.run state = .error .unbounded := by
  have reaches := Reaches.head enters (Reaches.of_circle circles state.patience)
  exact exceptMap_eq_error_iff.mpr (manyFoldFrom_eq_unbounded reaches (Nat.le_succ _))

/-- What `manyTill` and `sepEndBy1` have reached: a tag, values in reverse, a state and an error. -/
abbrev Stage (σ υ α : Type) := Bool × List α × State σ υ × ParseError

/-- A repetition up to a stop goes on behind an item where there is no stop. -/
theorem manyTillFrom_iterates
    {parser : Parser σ υ α}
    {stop : Parser σ υ β}
    (returns : parser.Returns)
    (stopReturns : stop.Returns) :
    Iterates (parser.TurnsUnless stop) .endlessManyTill (fun stage : Stage σ υ α => stage.2.2.1)
      fun rounds stage =>
        manyTillFrom parser stop rounds stage.1 stage.2.1 stage.2.2.1 stage.2.2.2 where
  goesOn := by
    rintro ⟨tag, values, state, earlier⟩ after ⟨⟨stopError, stopRan⟩, value, error, ran⟩
    refine ⟨(true, value :: values, after, error), rfl, fun rounds => ?_⟩
    rw [manyTillFrom, stopRan]
    simp only [ran]
  endless := by
    rintro ⟨tag, values, state, earlier⟩ after ⟨⟨stopError, stopRan⟩, value, error, ran⟩ rounds
    rw [manyTillFrom, stopRan]
    simp only [ran]
  returns := by
    rintro ⟨tag, values, state, earlier⟩ stops
    obtain ⟨⟨_ | _, ⟨last, next, stopError⟩ | stopError⟩, stopRan⟩ := stopReturns state
    · exact ⟨_, fun rounds => by rw [manyTillFrom, stopRan]⟩
    · obtain ⟨⟨consumed, ⟨value, next, error⟩ | error⟩, ran⟩ := returns state
      · exact absurd ⟨⟨stopError, stopRan⟩, value, error, ran⟩ (stops consumed next)
      · cases consumed with
        | false => exact ⟨_, fun rounds => by rw [manyTillFrom, stopRan]; simp only [ran]; rfl⟩
        | true => exact ⟨_, fun rounds => by rw [manyTillFrom, stopRan]; simp only [ran]; rfl⟩
    · exact ⟨_, fun rounds => by rw [manyTillFrom, stopRan]⟩
    · exact ⟨_, fun rounds => by rw [manyTillFrom, stopRan]⟩

/-- A list goes on behind a separator with an item. -/
theorem sepEndByFrom_iterates
    {parser : Parser σ υ α}
    {separator : Parser σ υ β}
    (returns : parser.Returns)
    (separatorReturns : separator.Returns) :
    Iterates (parser.TurnsBehind separator) .endlessSepEndBy
      (fun stage : Stage σ υ α => stage.2.2.1)
      fun rounds stage =>
        sepEndByFrom parser separator rounds stage.1 stage.2.1 stage.2.2.1 stage.2.2.2 where
  goesOn := by
    rintro ⟨tag, items, state, earlier⟩ after
      ⟨middle, first, second, ⟨mark, sepError, sepRan⟩, ⟨item, error, ran⟩, tags⟩
    cases second with
    | true =>
        refine ⟨(true, item :: items, after, error), rfl, fun rounds => ?_⟩
        rw [sepEndByFrom, sepRan]
        simp only [ran]
    | false =>
        obtain rfl : first = true := by simpa using tags.symm
        refine ⟨(true, item :: items, after, sepError.merge error), rfl, fun rounds => ?_⟩
        rw [sepEndByFrom, sepRan]
        simp only [ran, if_true]
  endless := by
    rintro ⟨tag, items, state, earlier⟩ after
      ⟨middle, first, second, ⟨mark, sepError, sepRan⟩, ⟨item, error, ran⟩, tags⟩ rounds
    obtain ⟨rfl, rfl⟩ := Bool.or_eq_false_iff.mp tags.symm
    rw [sepEndByFrom, sepRan]
    simp only [ran]
    rfl
  returns := by
    rintro ⟨tag, items, state, earlier⟩ stops
    obtain ⟨⟨first, ⟨mark, middle, sepError⟩ | sepError⟩, sepRan⟩ := separatorReturns state
    · obtain ⟨⟨second, ⟨item, next, error⟩ | error⟩, ran⟩ := returns middle
      · exact absurd ⟨middle, first, second, ⟨mark, sepError, sepRan⟩, ⟨item, error, ran⟩, rfl⟩
          (stops _ next)
      · cases second with
        | false => exact ⟨_, fun rounds => by rw [sepEndByFrom, sepRan]; simp only [ran]; rfl⟩
        | true => exact ⟨_, fun rounds => by rw [sepEndByFrom, sepRan]; simp only [ran]; rfl⟩
    · cases first with
      | false => exact ⟨_, fun rounds => by rw [sepEndByFrom, sepRan]⟩
      | true => exact ⟨_, fun rounds => by rw [sepEndByFrom, sepRan]⟩

section
variable [TokenStream σ τ]

/-- A round that consumes leaves less input. -/
theorem Passes.length_lt
    {parser : Parser σ υ α}
    (sound : parser.TagsSoundly)
    {before after : State σ υ}
    (passes : parser.Passes true before after) :
    (TokenStream.toList after.input).length < (TokenStream.toList before.input).length := by
  obtain ⟨value, error, ran⟩ := passes
  exact (sound ran).length_lt

/-- A separator with an item behind it leaves less input if either of them consumes. -/
theorem TurnsBehind.follows
    {parser : Parser σ υ α}
    {separator : Parser σ υ β}
    (sound : parser.TagsSoundly)
    (separatorSound : separator.TagsSoundly)
    {tag : Bool}
    {before after : State σ υ}
    (turns : parser.TurnsBehind separator tag before after) :
    before.Follows after tag := by
  obtain ⟨middle, first, second, ⟨mark, sepError, sepRan⟩, ⟨item, error, ran⟩, rfl⟩ := turns
  exact (separatorSound sepRan).trans (sound ran)

variable [LawfulTokenStream σ]

section
variable {parser : Parser σ υ α} (returns : parser.Returns) (sound : parser.TagsSoundly)
include returns sound

/-- Repetitions are decided by the rounds of their parser. -/
theorem manyFold_decided (first : γ) (combine : γ → α → γ) (state : State σ υ) :
    Decided ((parser.manyFold first combine).run state) (Reaches (parser.Passes true) · state ·)
        (fun reached => ∃ after, parser.Passes false reached after) .endlessMany
        (TokenStream.toList state.input).length ∧
      manyFoldFrom parser combine ((TokenStream.toList state.input).length + 1) false first state =
        (parser.manyFold first combine).run state :=
  (manyFoldFrom_iterates returns combine).decided (Passes.length_lt sound) (false, first, state)
    le_rfl length_lt_patience

/-- Repetitions up to a stop are decided by the items in front of it. -/
theorem manyTill_decided
    {stop : Parser σ υ β}
    (stopReturns : stop.Returns)
    (state : State σ υ) :
    Decided ((parser.manyTill stop).run state) (Reaches (parser.TurnsUnless stop true) · state ·)
        (fun reached => ∃ after, parser.TurnsUnless stop false reached after) .endlessManyTill
        (TokenStream.toList state.input).length ∧
      manyTillFrom parser stop ((TokenStream.toList state.input).length + 1) false [] state
          (.unknown state.position) =
        (parser.manyTill stop).run state :=
  (manyTillFrom_iterates returns stopReturns).decided (fun turns => turns.2.length_lt sound)
    (false, [], state, .unknown state.position) le_rfl length_lt_patience

/-- The first item is no turn: where it fails the loop is not entered. -/
theorem sepEndBy1_decided
    {separator : Parser σ υ β}
    (separatorReturns : separator.Returns)
    (separatorSound : separator.TagsSoundly)
    (state : State σ υ) :
    Decided ((parser.sepEndBy1 separator).run state)
        (fun count reached => ∃ consumed start, parser.Passes consumed state start ∧
          Reaches (parser.TurnsBehind separator true) count start reached)
        (fun reached => ∃ after, parser.TurnsBehind separator false reached after)
        .endlessSepEndBy (TokenStream.toList state.input).length ∧
      ∀ consumed item start error, parser.Yields state consumed item start error →
        sepEndByFrom parser separator ((TokenStream.toList state.input).length + 1) consumed [item]
            start error =
          (parser.sepEndBy1 separator).run state := by
  obtain ⟨⟨consumed, ⟨item, start, error⟩ | error⟩, ran⟩ := returns state
  · have entered : (parser.sepEndBy1 separator).run state =
        sepEndByFrom parser separator state.patience consumed [item] start error := by
      rw [sepEndBy1, run_mk, ran]
    obtain ⟨decided, steady⟩ := (sepEndByFrom_iterates returns separatorReturns).decided
      (fun turns => (turns.follows sound separatorSound).length_lt) (consumed, [item], start, error)
      (sound ran).spends.length_le length_lt_patience
    rw [entered]
    refine ⟨decided.congr fun count reached => ⟨?_, ?_⟩, ?_⟩
    · exact fun reaches => ⟨consumed, start, ⟨item, error, ran⟩, reaches⟩
    · rintro ⟨_, other, ⟨_, _, otherRan⟩, reaches⟩
      obtain ⟨-, -, rfl, -⟩ := Yields.unique ran otherRan
      exact reaches
    · intro _ _ _ _ otherRan
      obtain ⟨rfl, rfl, rfl, rfl⟩ := Yields.unique ran otherRan
      exact steady
  · have failed : (parser.sepEndBy1 separator).run state = .ok ⟨consumed, .failed error⟩ := by
      rw [sepEndBy1, run_mk, ran]
    refine ⟨.of_not_visited failed ?_, ?_⟩
    · rintro count reached ⟨_, start, ⟨_, _, otherRan⟩, -⟩
      exact otherRan.not_fails ran
    · intro _ _ _ _ otherRan
      exact absurd ran otherRan.not_fails

/-- With parsers that return and tag soundly, each of the three loops makes at most one iteration
more than there are tokens. It has a defect if and only if an iteration that it reaches succeeds
without consuming, and in every other case it has an outcome. -/
theorem loops_decided
    {separator : Parser σ υ β}
    {stop : Parser σ υ δ}
    (separatorReturns : separator.Returns)
    (separatorSound : separator.TagsSoundly)
    (stopReturns : stop.Returns)
    (first : γ)
    (combine : γ → α → γ)
    (state : State σ υ)
    {tokens : Nat}
    (counted : (TokenStream.toList state.input).length = tokens) :
    (Decided ((parser.manyFold first combine).run state) (Reaches (parser.Passes true) · state ·)
        (fun reached => ∃ after, parser.Passes false reached after) .endlessMany tokens ∧
      manyFoldFrom parser combine (tokens + 1) false first state =
        (parser.manyFold first combine).run state) ∧
    (Decided ((parser.manyTill stop).run state) (Reaches (parser.TurnsUnless stop true) · state ·)
        (fun reached => ∃ after, parser.TurnsUnless stop false reached after)
        .endlessManyTill tokens ∧
      manyTillFrom parser stop (tokens + 1) false [] state (.unknown state.position) =
        (parser.manyTill stop).run state) ∧
    Decided ((parser.sepEndBy1 separator).run state)
        (fun count reached => ∃ consumed start, parser.Passes consumed state start ∧
          Reaches (parser.TurnsBehind separator true) count start reached)
        (fun reached => ∃ after, parser.TurnsBehind separator false reached after)
        .endlessSepEndBy tokens ∧
      ∀ consumed item start error, parser.Yields state consumed item start error →
        sepEndByFrom parser separator (tokens + 1) consumed [item] start error =
          (parser.sepEndBy1 separator).run state := by
  subst counted
  exact ⟨manyFold_decided returns sound first combine state,
    manyTill_decided returns sound stopReturns state,
    sepEndBy1_decided returns sound separatorReturns separatorSound state⟩

end

end

/-- A parser that accepts nothing at all is a defect in each of the loops. -/
theorem loops_decided_pure :
    let state : State Text Unit := ⟨Text.ofString "x", .start "", ()⟩
    ((pure ()).manyFold () fun _ _ => ()).run state = .error .endlessMany ∧
      ((pure ()).manyTill (empty : Parser Text Unit Unit)).run state = .error .endlessManyTill ∧
      ((pure ()).sepEndBy1 (pure ())).run state = .error .endlessSepEndBy := by
  intro state
  have sound : (pure () : Parser Text Unit Unit).TagsSoundly :=
    Composed.tagsSoundly (fun _ _ primitive => Primitive.tagsSoundly primitive) (.pure ())
  have passes : (pure () : Parser Text Unit Unit).Passes false state state := ⟨(), _, rfl⟩
  have stopReturns : (empty : Parser Text Unit Unit).Returns := empty_returns
  have decided := loops_decided (pure_returns ()) sound (pure_returns ()) sound stopReturns ()
    (fun _ _ => ()) state rfl
  refine ⟨decided.1.1.defective_iff.mpr ?_, decided.2.1.1.defective_iff.mpr ?_,
    decided.2.2.1.defective_iff.mpr ?_⟩
  · exact ⟨0, state, .refl state, state, passes⟩
  · exact ⟨0, state, .refl state, state, ⟨_, run_empty state⟩, passes⟩
  · exact ⟨0, state, ⟨false, state, passes, .refl state⟩, state, state, false, false, passes, passes,
      rfl⟩

end Parser
end Predictive
