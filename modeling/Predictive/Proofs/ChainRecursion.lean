import Predictive.Parser.Chain
import Predictive.Proofs.ConsumingParsers
import Predictive.Proofs.LoopBounds
import Predictive.Proofs.RepetitionUnfolding

/-!
# Chains and recursions

A chain collects operators and operands in a loop and combines them afterwards. A grammar would say
it by recursion: behind a left operand comes nothing, or an operator with its right operand, and the
two together are the left operand of the rest; or else the rest is a chain of its own, and the right
operand of the first operator. The chains return what these recursions return, up to the error that
a success leaves, which a repetition does not keep.

Both recursions are instances of one: behind an operand stand a step and, for the operand that the
step leads to, the rest, of whose value the step makes its own. By induction on the rounds, the loop
over the steps goes on where the recursion goes on, and folding the steps does what the recursion
does on its way back.
-/

namespace Predictive

variable {σ τ υ α β γ δ : Type}

/-! ## Outcomes up to the error of a success -/

namespace Outcome

/-- The outcome but for the error that a success leaves. -/
def bare : Outcome σ υ α → Outcome σ υ α
  | ⟨consumed, .ok value next _⟩ => ⟨consumed, .ok value next (.unknown next.position)⟩
  | ⟨consumed, .failed error⟩ => ⟨consumed, .failed error⟩

@[simp] theorem bare_ok
    (consumed : Bool)
    (value : α)
    (next : State σ υ)
    (error : ParseError) :
    (⟨consumed, .ok value next error⟩ : Outcome σ υ α).bare =
      ⟨consumed, .ok value next (.unknown next.position)⟩ := rfl

@[simp] theorem bare_failed (consumed : Bool) (error : ParseError) :
    (⟨consumed, .failed error⟩ : Outcome σ υ α).bare = ⟨consumed, .failed error⟩ := rfl

@[simp] theorem bare_bare (outcome : Outcome σ υ α) : outcome.bare.bare = outcome.bare := by
  obtain ⟨consumed, ⟨value, next, error⟩ | error⟩ := outcome <;> rfl

theorem bare_map (outcome : Outcome σ υ α) (f : α → β) :
    (outcome.map f).bare = outcome.bare.map f := by
  obtain ⟨consumed, ⟨value, next, error⟩ | error⟩ := outcome <;> rfl

/-- An error in front matters to the error of a success only. -/
theorem bare_after (outcome : Outcome σ υ α) (consumed : Bool) (error : ParseError) :
    (outcome.after consumed error).bare = (outcome.bare.after consumed error).bare := by
  obtain ⟨_ | _, ⟨value, next, found⟩ | found⟩ := outcome <;> rfl

/-- Where a success is decided, what stands in front of it counts for the tag only. -/
theorem Decides.bare_after_true
    {outcome : Outcome σ υ α}
    (decides : outcome.Decides)
    (error : ParseError) :
    (outcome.after true error).bare = (⟨true, outcome.reply⟩ : Outcome σ υ α).bare := by
  obtain ⟨_ | _, ⟨value, next, found⟩ | found⟩ := outcome
  · rfl
  · simp [Decides, Reply.isOk] at decides
  · rfl
  · rfl

end Outcome

/-- Two runs have the same defect, or the same outcome up to the error that a success leaves. -/
def Alike (first second : Except Defect (Outcome σ υ α)) : Prop :=
  first.map Outcome.bare = second.map Outcome.bare

namespace Alike

variable {first second third : Except Defect (Outcome σ υ α)}

theorem refl (ran : Except Defect (Outcome σ υ α)) : Alike ran ran := rfl

theorem symm (alike : Alike first second) : Alike second first := Eq.symm alike

theorem trans (alike : Alike first second) (other : Alike second third) : Alike first third :=
  Eq.trans alike other

/-- A success is met by one with the same tag, value and state. -/
theorem ok
    {consumed : Bool}
    {value : α}
    {next : State σ υ}
    {error : ParseError}
    (alike : Alike (.ok ⟨consumed, .ok value next error⟩) second) :
    ∃ found, second = .ok ⟨consumed, .ok value next found⟩ := by
  obtain ⟨⟨tag, ⟨result, last, found⟩ | found⟩, rfl, same⟩ := exceptMap_eq_ok_iff.mp alike.symm
  · simp only [Outcome.bare_ok, Outcome.mk.injEq, Reply.ok.injEq] at same
    obtain ⟨rfl, rfl, rfl, -⟩ := same
    exact ⟨found, rfl⟩
  · simp at same

/-- What respects bare outcomes respects runs that are alike. -/
theorem congr
    (alike : Alike first second)
    {f : Outcome σ υ α → Outcome σ υ β}
    (respects : ∀ outcome : Outcome σ υ α, (f outcome).bare = (f outcome.bare).bare) :
    Alike (first.map f) (second.map f) := by
  have throughBare (ran : Except Defect (Outcome σ υ α)) :
      (ran.map f).map Outcome.bare = (ran.map Outcome.bare).map fun bare => (f bare).bare := by
    cases ran with
    | error defect => rfl
    | ok outcome => exact congrArg Except.ok (respects outcome)
  rw [Alike, throughBare, throughBare, alike]

/-- Values do not matter to the errors of successes. -/
theorem map (alike : Alike first second) (f : α → β) :
    Alike (first.map (·.map f)) (second.map (·.map f)) :=
  alike.congr fun outcome => by rw [Outcome.bare_map, Outcome.bare_map, Outcome.bare_bare]

/-- Outcomes that are alike stay so behind the same error. -/
theorem after (alike : Alike first second) (consumed : Bool) (error : ParseError) :
    Alike (first.map (·.after consumed error)) (second.map (·.after consumed error)) :=
  alike.congr fun outcome => outcome.bare_after consumed error

end Alike

namespace Parser

/-! ## The rounds of a loop -/

section
variable {step : Parser σ υ γ} {state next : State σ υ}

/-- No iteration of the loop that starts at the state succeeds without consuming. -/
def NeverEndless (step : Parser σ υ γ) (state : State σ υ) : Prop :=
  ∀ count reached, Reaches (step.Passes true) count state reached →
    ∀ after, ¬ step.Passes false reached after

/-- The loop that starts at the state ends within a number of rounds. -/
def EndsWithin (step : Parser σ υ γ) (rounds : Nat) (state : State σ υ) : Prop :=
  ∀ count reached, Reaches (step.Passes true) count state reached → count < rounds

/-- A repetition that is never endless is not endless behind one of its rounds. -/
theorem NeverEndless.behind
    (sound : step.NeverEndless state)
    (passes : step.Passes true state next) :
    step.NeverEndless next :=
  fun count reached reaches => sound (count + 1) reached (.head passes reaches)

theorem EndsWithin.pos {rounds : Nat} (ends : step.EndsWithin rounds state) : 0 < rounds :=
  ends 0 state (.refl state)

/-- More rounds than needed do no harm. -/
theorem EndsWithin.mono
    {rounds others : Nat}
    (ends : step.EndsWithin rounds state)
    (few : rounds ≤ others) :
    step.EndsWithin others state :=
  fun count reached reaches => Nat.lt_of_lt_of_le (ends count reached reaches) few

/-- Behind a round one less is needed. -/
theorem EndsWithin.behind
    {rounds : Nat}
    (ends : step.EndsWithin (rounds + 1) state)
    (passes : step.Passes true state next) :
    step.EndsWithin rounds next :=
  fun count reached reaches =>
    Nat.lt_of_succ_lt_succ (ends (count + 1) reached (.head passes reaches))

/-- The values that a loop finds, in their order. -/
def valuesWithin
    (step : Parser σ υ γ)
    (rounds : Nat)
    (state : State σ υ) :
    Except Defect (Outcome σ υ (List γ)) :=
  (manyFoldFrom step (fun values value => value :: values) rounds false [] state).map
    (·.map List.reverse)

/-- A repetition collects the values of the rounds that it has patience for. -/
theorem run_many_eq_valuesWithin [TokenStream σ τ] (step : Parser σ υ γ) (state : State σ υ) :
    step.many.run state = valuesWithin step state.patience state := rfl

/-- A loop fails only where a round has consumed. -/
theorem manyFoldFrom_decides
    {combine : β → γ → β}
    {rounds : Nat}
    {consumed : Bool}
    {total : β}
    {outcome : Outcome σ υ β}
    (ran : manyFoldFrom step combine rounds consumed total state = .ok outcome) :
    outcome.Decides := by
  induction rounds generalizing consumed total state with
  | zero => simp [manyFoldFrom] at ran
  | succ rounds ih =>
      unfold manyFoldFrom at ran
      split at ran
      · contradiction
      · exact ih ran
      · obtain rfl := Except.ok.inj ran
        exact .inl rfl
      · contradiction
      · obtain rfl := Except.ok.inj ran
        exact .inr rfl

/-- A round adds its value in front of those of the rest. -/
theorem valuesWithin_of_round
    {value : γ}
    {error : ParseError}
    (ran : step.Yields state true value next error)
    (rounds : Nat) :
    Alike (valuesWithin step (rounds + 1) state)
      ((valuesWithin step rounds next).map fun outcome =>
        (outcome.map fun values => value :: values).after true error) := by
  have unfolded : valuesWithin step (rounds + 1) state =
      (manyFoldFrom step (fun values value => value :: values) rounds true [value] next).map
        (·.map List.reverse) := by
    rw [valuesWithin, manyFoldFrom, ran]
  rw [unfolded, manyFoldFrom_collected, valuesWithin]
  cases others : manyFoldFrom step (fun values value => value :: values) rounds false [] next with
  | error defect => exact .refl _
  | ok outcome =>
      have decides := ((manyFoldFrom_decides others).map List.reverse).map
        fun values => value :: values
      refine congrArg Except.ok ((decides.bare_after_true error).trans ?_).symm
      obtain ⟨consumed, ⟨values, last, found⟩ | found⟩ := outcome
      · simp
      · rfl

end

/-! ## A step and the rest -/

/-- Behind an operand stands a step, and the rest behind the operand to which that leads, or nothing
at all. The step makes its own value of that of the rest. -/
def behindOperand
    (step : Parser σ υ γ)
    (goOn : α → γ → α)
    (finish : α → γ → α → α)
    (rest : α → Parser σ υ α)
    (operand : α) :
    Parser σ υ α :=
  (step.bind fun value => (rest (goOn operand value)).map (finish operand value)).orElse
    (pure operand)

/-- Folding steps does at each of them what a recursion does. -/
structure FoldsBack
    (goOn : α → γ → α)
    (finish : α → γ → α → α)
    (fold : α → List γ → α) : Prop where
  nil (operand : α) : fold operand [] = operand
  cons (operand : α) (value : γ) (values : List γ) :
    fold operand (value :: values) = finish operand value (fold (goOn operand value) values)

section
variable
  {step : Parser σ υ γ}
  {goOn : α → γ → α}
  {finish : α → γ → α → α}
  {state : State σ υ}
  {operand : α}

/-- A defect of the step is one of the recursion. -/
theorem behindOperand_of_error
    {defect : Defect}
    (ran : step.run state = .error defect)
    (rest : α → Parser σ υ α) :
    (behindOperand step goOn finish rest operand).run state = .error defect :=
  run_orElse_of_error (run_bind_of_error ran _) _

/-- Behind input, the recursion fails as its step does. -/
theorem behindOperand_of_consumed
    {error : ParseError}
    (ran : step.Fails state true error)
    (rest : α → Parser σ υ α) :
    (behindOperand step goOn finish rest operand).Fails state true error :=
  run_orElse_of_consumed (run_bind_of_failed ran _) _

/-- Where no step comes, the recursion returns its operand. -/
theorem behindOperand_of_refused
    {error : ParseError}
    (ran : step.Fails state false error)
    (rest : α → Parser σ υ α) :
    Alike ((behindOperand step goOn finish rest operand).run state)
      (.ok ⟨false, .ok operand state error⟩) := by
  rw [behindOperand, run_orElse_of_empty_failed (run_bind_of_failed ran _), run_pure]
  rfl

/-- Behind a step, the recursion goes on with the operand that the step leads to. -/
theorem behindOperand_of_round
    {value : γ}
    {next : State σ υ}
    {error : ParseError}
    (ran : step.Yields state true value next error)
    (rest : α → Parser σ υ α) :
    (behindOperand step goOn finish rest operand).run state =
      ((rest (goOn operand value)).run next).map fun outcome =>
        (outcome.map (finish operand value)).after true error := by
  have joined := run_bind_of_ok ran fun value =>
    (rest (goOn operand value)).map (finish operand value)
  rw [run_map] at joined
  cases others : (rest (goOn operand value)).run next with
  | error defect =>
      rw [others] at joined
      exact run_orElse_of_error joined _
  | ok outcome =>
      rw [others] at joined
      obtain ⟨_ | _, reply⟩ := outcome
      · exact run_orElse_of_consumed joined _
      · exact run_orElse_of_consumed joined _

/-- The loop over the steps, folded, is what the recursion returns, with as many rounds and as deep
as it takes. -/
theorem valuesWithin_alike
    {tails : Nat → α → Parser σ υ α}
    {fold : α → List γ → α}
    (unfolds : ∀ depth operand,
      tails (depth + 1) operand = behindOperand step goOn finish (tails depth) operand)
    (folds : FoldsBack goOn finish fold)
    {rounds depth : Nat}
    (sound : step.NeverEndless state)
    (ends : step.EndsWithin rounds state)
    (deep : step.EndsWithin depth state)
    (operand : α) :
    Alike ((valuesWithin step rounds state).map (·.map (fold operand)))
      ((tails depth operand).run state) := by
  induction rounds generalizing depth state operand with
  | zero => exact absurd ends.pos (lt_irrefl 0)
  | succ rounds ih =>
      obtain ⟨depth, rfl⟩ := Nat.exists_eq_add_one.mpr deep.pos
      rw [unfolds]
      rcases ran : step.run state with defect | ⟨_ | _, ⟨value, next, error⟩ | error⟩
      · rw [behindOperand_of_error ran, valuesWithin, manyFoldFrom, ran]
        rfl
      · exact absurd ⟨value, error, ran⟩ (sound 0 state (.refl state) next)
      · refine .trans ?_ (behindOperand_of_refused ran _).symm
        rw [valuesWithin, manyFoldFrom, ran]
        simp [Except.map, folds.nil, Alike]
      · have passes : step.Passes true state next := ⟨value, error, ran⟩
        have others := ih (sound.behind passes) (ends.behind passes) (deep.behind passes)
          (goOn operand value)
        have behind := (others.map (finish operand value)).after true error
        rw [behindOperand_of_round ran]
        refine ((valuesWithin_of_round ran rounds).map (fold operand)).trans ?_
        -- Folding the value in front of the others is finishing what these fold to.
        convert behind using 1
        · cases valuesWithin step rounds next with
          | error defect => rfl
          | ok outcome =>
              simp only [Except.map, Outcome.map_after, Outcome.map_map, folds.cons]
        · cases (tails depth (goOn operand value)).run next <;> rfl
      · rw [behindOperand_of_consumed ran, valuesWithin, manyFoldFrom, ran]
        rfl

end

/-! ## The recursions -/

/-- A family of parsers that is defined in terms of itself, unrolled to a certain depth. -/
def unrolledFamily (define : (β → Parser σ υ α) → β → Parser σ υ α) : Nat → β → Parser σ υ α
  | 0, _ => defective .unbounded
  | depth + 1, index => define (unrolledFamily define depth) index

/-- What may stand behind a left operand: an operator with its right operand, and behind them what
may stand behind the two combined. -/
def behindLeft
    (parser : Parser σ υ α)
    (operator : Parser σ υ (α → α → α))
    (behind : α → Parser σ υ α)
    (left : α) :
    Parser σ υ α :=
  (operator.bind fun apply => parser.bind fun right => behind (apply left right)).orElse (pure left)

/-- What may stand behind a left operand: an operator with a whole chain as its right operand. -/
def behindRight
    (operator : Parser σ υ (α → α → α))
    (chain : Parser σ υ α)
    (left : α) :
    Parser σ υ α :=
  (operator.bind fun apply => chain.map fun right => apply left right).orElse (pure left)

/-- A chain from the left by recursion, unrolled to a certain depth. -/
def leftChain
    (parser : Parser σ υ α)
    (operator : Parser σ υ (α → α → α))
    (depth : Nat) :
    Parser σ υ α :=
  parser.bind (unrolledFamily (behindLeft parser operator) depth)

/-- A chain from the left by recursion, with a depth for each token to come. -/
def leftRecursion
    [TokenStream σ τ]
    (parser : Parser σ υ α)
    (operator : Parser σ υ (α → α → α)) :
    Parser σ υ α :=
  ⟨fun state => (leftChain parser operator state.patience).run state⟩

/-- A chain from the right in terms of the chain behind its first operator. -/
def rightChain
    (parser : Parser σ υ α)
    (operator : Parser σ υ (α → α → α))
    (chain : Parser σ υ α) :
    Parser σ υ α :=
  parser.bind (behindRight operator chain)

/-- A pair in front is one half behind the other. -/
theorem bind_pair
    (first : Parser σ υ α)
    (second : Parser σ υ β)
    (following : α × β → Parser σ υ γ) :
    (first.pair second).bind following =
      first.bind fun left => second.bind fun right => following (left, right) := by
  have secondMapped (left : α) :
      (second.map (Prod.mk left)).bind following =
        second.bind fun right => following (left, right) := by
    refine Parser.ext (funext fun state => ?_)
    rcases ran : second.run state with defect | ⟨consumed, ⟨right, next, error⟩ | error⟩ <;>
      simp [bind, ran, Except.map]
  rw [pair, zipWith_eq_bind, bind_bind]
  exact congrArg first.bind (funext secondMapped)

theorem map_self (parser : Parser σ υ α) : (parser.map fun value => value) = parser := by
  refine Parser.ext (funext fun state => ?_)
  rcases ran : parser.run state with defect | ⟨consumed, ⟨value, next, error⟩ | error⟩ <;>
    simp [ran, Except.map]

/-- The left operand of the rest is combined on the way down. -/
theorem behindLeft_eq
    (parser : Parser σ υ α)
    (operator : Parser σ υ (α → α → α))
    (behind : α → Parser σ υ α)
    (left : α) :
    behindLeft parser operator behind left =
      behindOperand (operator.pair parser) (fun left step => step.1 left step.2)
        (fun _ _ value => value) behind left := by
  rw [behindLeft, behindOperand, bind_pair]
  simp only [map_self]

/-- The right operand is combined on the way back. -/
theorem behindRight_rightChain
    (parser : Parser σ υ α)
    (operator : Parser σ υ (α → α → α))
    (chain : Parser σ υ α)
    (left : α) :
    behindRight operator (rightChain parser operator chain) left =
      behindOperand (operator.pair parser) (fun _ step => step.2)
        (fun left step value => step.1 left value) (behindRight operator chain) left := by
  rw [behindRight, behindOperand, bind_pair]
  simp only [rightChain, map_bind]

/-- Combining from the left happens on the way down. -/
theorem foldLeft_foldsBack :
    FoldsBack (fun (left : α) (step : Application α) => step.1 left step.2)
      (fun _ _ value => value) Application.foldLeft where
  nil := Application.foldLeft_nil
  cons := Application.foldLeft_cons

/-- Combining from the right happens on the way back. -/
theorem foldRight_foldsBack :
    FoldsBack (fun (_ : α) (step : Application α) => step.2)
      (fun left step value => step.1 left value) Application.foldRight where
  nil := Application.foldRight_nil
  cons := Application.foldRight_cons

/-! ## Chains return what their recursions return -/

section
variable [TokenStream σ τ]

/-- A chain that is not given up has ended within the rounds granted to it. -/
theorem endsWithin_of_not_unbounded
    {parser : Parser σ υ α}
    {step : Parser σ υ γ}
    {f : α → List γ → β}
    {tag : Bool}
    {state first : State σ υ}
    (bounded : (parser.zipWith step.many f).run state ≠ .error .unbounded)
    (passes : parser.Passes tag state first) :
    step.EndsWithin first.patience first := by
  intro count reached reaches
  by_contra few
  obtain ⟨value, error, ran⟩ := passes
  refine bounded ?_
  rw [run_zipWith_of_ok ran, run_many_eq_valuesWithin, valuesWithin,
    manyFoldFrom_eq_unbounded reaches (Nat.le_of_not_lt few)]
  rfl

/-- There is a bound for all states behind the first operand, of which there is one at most. -/
theorem exists_endsWithin
    {parser : Parser σ υ α}
    {step : Parser σ υ γ}
    {state : State σ υ}
    (ends : ∀ tag first, parser.Passes tag state first → step.EndsWithin first.patience first) :
    ∃ enough, ∀ tag first, parser.Passes tag state first → step.EndsWithin enough first := by
  by_cases passes : ∃ tag first, parser.Passes tag state first
  · obtain ⟨tag, first, passes⟩ := passes
    refine ⟨first.patience, fun other next ⟨value, error, ran⟩ => ?_⟩
    obtain ⟨_, _, found⟩ := passes
    obtain ⟨-, -, rfl, -⟩ := Yields.unique ran found
    exact ends other next ⟨value, error, ran⟩
  · exact ⟨0, fun tag first passed => absurd ⟨tag, first, passed⟩ passes⟩

/-- Where the tokens bound the rounds of a loop, the patience does. -/
theorem endsWithin_of_spends
    {step : Parser σ υ γ}
    (spends : step.Relates State.Spends)
    {state : State σ υ}
    {rounds : Nat}
    (enough : (TokenStream.toList state.input).length < rounds) :
    step.EndsWithin rounds state := by
  intro count reached reaches
  have bounded := reaches.add_le (fun state => (TokenStream.toList state.input).length)
    fun ⟨_, _, ran⟩ => (spends ran).length_lt
  omega

/-- A first operand and the loop over the steps behind it, folded, are what the recursion returns
behind the first operand. -/
theorem zipWith_many_alike
    {parser : Parser σ υ α}
    {step : Parser σ υ γ}
    {goOn : α → γ → α}
    {finish : α → γ → α → α}
    (tails : Nat → α → Parser σ υ α)
    {fold : α → List γ → α}
    (unfolds : ∀ depth operand,
      tails (depth + 1) operand = behindOperand step goOn finish (tails depth) operand)
    (folds : FoldsBack goOn finish fold)
    {state : State σ υ}
    (sound : ∀ tag first, parser.Passes tag state first → step.NeverEndless first)
    (ends : ∀ tag first, parser.Passes tag state first → step.EndsWithin first.patience first)
    {depth : Nat}
    (deep : ∀ tag first, parser.Passes tag state first → step.EndsWithin depth first) :
    Alike ((parser.zipWith step.many fold).run state) ((parser.bind (tails depth)).run state) := by
  rcases ran : parser.run state with defect | ⟨tag, ⟨operand, first, error⟩ | error⟩
  · rw [run_zipWith_of_error ran, run_bind_of_error ran]
    exact .refl _
  · have passes : parser.Passes tag state first := ⟨operand, error, ran⟩
    have others := valuesWithin_alike unfolds folds (sound tag first passes)
      (ends tag first passes) (deep tag first passes) operand
    rw [run_zipWith_of_ok ran, run_bind_of_ok ran, run_many_eq_valuesWithin]
    convert others.after tag error using 1
    cases valuesWithin step first.patience first <;> rfl
  · rw [run_zipWith_of_failed ran, run_bind_of_failed ran]
    exact .refl _

section
variable
  {parser : Parser σ υ α}
  {operator : Parser σ υ (α → α → α)}
  {state : State σ υ}
  (sound : ∀ tag first, parser.Passes tag state first → (operator.pair parser).NeverEndless first)
  (ends : ∀ tag first, parser.Passes tag state first →
    (operator.pair parser).EndsWithin first.patience first)
  {depth : Nat}
  (deep : ∀ tag first, parser.Passes tag state first →
    (operator.pair parser).EndsWithin depth first)
include sound ends deep

/-- The loop of a chain to the left does what its recursion does, up to the error of a success. -/
theorem chainLeft1_alike :
    Alike ((parser.chainLeft1 operator).run state) ((leftChain parser operator depth).run state) :=
  zipWith_many_alike (unrolledFamily (behindLeft parser operator))
    (fun _ left => behindLeft_eq parser operator _ left) foldLeft_foldsBack sound ends deep

/-- The loop of a chain to the right does what its recursion does, up to the error of a success. -/
theorem chainRight1_alike :
    Alike ((parser.chainRight1 operator).run state)
      ((unrolled (rightChain parser operator) (depth + 1)).run state) :=
  zipWith_many_alike
    (fun depth => behindRight operator (unrolled (rightChain parser operator) depth))
    (fun _ left => behindRight_rightChain parser operator _ left) foldRight_foldsBack sound ends
    deep

end

/-- Each chain returns what its recursion returns, in success and failure, with tag, value and state
and the error of a failure, where no iteration of an operator and an operand succeeds without
consuming: unless the chain is given up, all unrollings of the recursion that are deep enough return
the same, and where successes spend tokens for their tags, a depth for each token to come is deep
enough. -/
theorem chains_are_recursions
    [LawfulTokenStream σ]
    (parser : Parser σ υ α)
    (operator : Parser σ υ (α → α → α))
    (state : State σ υ)
    (sound : ∀ tag first, parser.Passes tag state first →
      (operator.pair parser).NeverEndless first) :
    ((parser.chainLeft1 operator).run state ≠ .error .unbounded →
        ∃ enough, ∀ depth, enough ≤ depth →
          Alike ((parser.chainLeft1 operator).run state)
            ((leftChain parser operator depth).run state)) ∧
      ((parser.chainRight1 operator).run state ≠ .error .unbounded →
        ∃ enough, ∀ depth, enough ≤ depth →
          Alike ((parser.chainRight1 operator).run state)
            ((unrolled (rightChain parser operator) depth).run state)) ∧
      (parser.Relates State.Spends → operator.Relates State.Spends →
        Alike ((parser.chainLeft1 operator).run state)
            ((leftRecursion parser operator).run state) ∧
          Alike ((parser.chainRight1 operator).run state)
            ((recursive (rightChain parser operator)).run state)) := by
  refine ⟨fun bounded => ?_, fun bounded => ?_, fun spends operatorSpends => ?_⟩
  · have ends (tag : Bool) (first : State σ υ) (passes : parser.Passes tag state first) :=
      endsWithin_of_not_unbounded bounded passes
    obtain ⟨enough, deep⟩ := exists_endsWithin ends
    exact ⟨enough, fun depth few => chainLeft1_alike sound ends fun tag first passes =>
      (deep tag first passes).mono few⟩
  · have ends (tag : Bool) (first : State σ υ) (passes : parser.Passes tag state first) :=
      endsWithin_of_not_unbounded bounded passes
    obtain ⟨enough, deep⟩ := exists_endsWithin ends
    refine ⟨enough + 1, fun depth few => ?_⟩
    obtain ⟨depth, rfl⟩ := Nat.exists_eq_add_one.mpr (Nat.zero_lt_of_lt few)
    exact chainRight1_alike sound ends fun tag first passes =>
      (deep tag first passes).mono (Nat.le_of_succ_le_succ few)
  · have stepSpends : (operator.pair parser).Relates State.Spends :=
      operatorSpends.zipWith spends State.spends_composes.trans Prod.mk
    have ends (tag : Bool) (first : State σ υ) (_ : parser.Passes tag state first) :
        (operator.pair parser).EndsWithin first.patience first :=
      endsWithin_of_spends stepSpends length_lt_patience
    obtain ⟨depth, granted⟩ : ∃ depth, state.patience = depth + 1 :=
      ⟨state.patience - 1, by have := state.size_lt_patience; omega⟩
    have deep (tag : Bool) (first : State σ υ) (passes : parser.Passes tag state first) :
        (operator.pair parser).EndsWithin depth first := by
      obtain ⟨value, error, ran⟩ := passes
      have fewer := (spends ran).length_le
      have ample := length_succ_lt_patience state
      exact endsWithin_of_spends stepSpends (by omega)
    constructor
    · change Alike _ ((leftChain parser operator state.patience).run state)
      rw [granted]
      exact chainLeft1_alike sound ends fun tag first passes =>
        (deep tag first passes).mono (Nat.le_succ depth)
    · rw [run_recursive, granted]
      exact chainRight1_alike sound ends deep

end

/-- A digit as an integer. -/
def integerDigit : Parser Text Unit Int :=
  digit.map fun digit => (digit.toNat : Int) - 48

/-- A minus sign as an operator. -/
def minusSign : Parser Text Unit (Int → Int → Int) :=
  (char '-').map fun _ left right => left - right

/-- Two differences, from the left and from the right. -/
theorem chains_are_recursions_differences :
    let state : State Text Unit := ⟨Text.ofString "7-2-1.", .start "", ()⟩
    (∃ next error found,
        (integerDigit.chainLeft1 minusSign).Yields state true 4 next error ∧
          (leftRecursion integerDigit minusSign).Yields state true 4 next found) ∧
      ∃ next error found,
        (integerDigit.chainRight1 minusSign).Yields state true 6 next error ∧
          (recursive (rightChain integerDigit minusSign)).Yields state true 6 next found := by
  intro state
  have digits : Composed Advancing integerDigit := digit_advancing.map _
  have signs : Composed Advancing minusSign := (char_advancing '-').map _
  have consumes : (minusSign.pair integerDigit).AlwaysConsumes :=
    (((AlwaysConsumes.satisfy _).labels _).map _).zipWith integerDigit Prod.mk
  have recursions := (chains_are_recursions integerDigit minusSign state
    fun _ _ _ _ reached _ after ⟨value, error, ran⟩ =>
      consumes reached value after error ran).2.2 digits.spends signs.spends
  constructor
  · obtain ⟨next, error, ran⟩ : ∃ next error,
        (integerDigit.chainLeft1 minusSign).Yields state true 4 next error :=
      exists_yields (by decide +kernel)
    have alike := recursions.1
    rw [ran] at alike
    obtain ⟨found, recursed⟩ := alike.ok
    exact ⟨next, error, found, ran, recursed⟩
  · obtain ⟨next, error, ran⟩ : ∃ next error,
        (integerDigit.chainRight1 minusSign).Yields state true 6 next error :=
      exists_yields (by decide +kernel)
    have alike := recursions.2
    rw [ran] at alike
    obtain ⟨found, recursed⟩ := alike.ok
    exact ⟨next, error, found, ran, recursed⟩

end Parser
end Predictive
