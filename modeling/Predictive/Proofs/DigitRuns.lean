import Predictive.Proofs.Numerals
import Predictive.Proofs.Success

/-!
# Runs of digits

Parsers of different kinds go along the same input. What they have in common is the states that they
come to: where one parser reads from a state to another one, so may the next, whatever the two make
of it. A run of digits leads from one state to another, and its digits are those in front of the
first token that is none.
-/

namespace Predictive

/-! ## Reading along states -/

/-- The view whose symbols are the states to come. A parser that reads a state goes on from there to
the next one. -/
def View.states {σ υ : Type} : View σ υ (State σ υ) :=
  fun state symbols => symbols.head? = some state

namespace Parser

section
variable {σ υ α : Type} {parser : Parser σ υ α} {state next : State σ υ} {value : α}
variable {error : ParseError} {word : List (State σ υ)}

/-- A run that consumes is one of reading the state where it starts. -/
theorem Yields.reads
    (ran : parser.Yields state true value next error)
    (later : List (State σ υ)) :
    parser.Reads View.states [state] value (next :: later) := by
  intro start viewed
  obtain rfl := Option.some.inj viewed
  exact ⟨next, error, ran, rfl⟩

/-- A run that stays where it is reads nothing. -/
theorem Yields.reads_nil
    (ran : parser.Yields state false value state error)
    (later : List (State σ υ)) :
    parser.Reads View.states [] value (state :: later) := by
  intro start viewed
  obtain rfl := Option.some.inj viewed
  exact ⟨state, error, ran, rfl⟩

/-- A run that fails at once is one of refusing. -/
theorem Fails.refuses
    (failed : parser.Fails state false error)
    (later : List (State σ υ)) :
    parser.Refuses View.states (state :: later) := by
  intro start viewed
  obtain rfl := Option.some.inj viewed
  exact ⟨error, failed⟩

/-- What is read from one state to the next one was run there. -/
theorem Reads.exists_yields
    {later : List (State σ υ)}
    (reads : parser.Reads View.states (state :: word) value (next :: later)) :
    ∃ error, parser.Yields state true value next error := by
  have viewed : View.states state (state :: word ++ next :: later) := rfl
  obtain ⟨found, error, ran, viewedNext⟩ := reads viewed
  obtain rfl := Option.some.inj viewedNext
  exact ⟨error, ran⟩

/-- What reads nothing stays where it is. -/
theorem Reads.exists_yields_nil
    {later : List (State σ υ)}
    (reads : parser.Reads View.states [] value (state :: later)) :
    ∃ error, parser.Yields state false value state error := by
  have viewed : View.states state ([] ++ state :: later) := rfl
  obtain ⟨found, error, ran, viewedNext⟩ := reads viewed
  obtain rfl := Option.some.inj viewedNext
  exact ⟨error, ran⟩

/-- A value stays where it is. -/
theorem Yields.of_pure
    {found : α}
    {consumed : Bool}
    (ran : (Parser.pure value).Yields state consumed found next error) :
    consumed = false ∧ found = value ∧ next = state := by
  simp only [Yields, run_pure, Except.ok.injEq, Outcome.mk.injEq, Reply.ok.injEq] at ran
  exact ⟨ran.1.symm, ran.2.1.symm, ran.2.2.1.symm⟩

/-- A success of a parser that always consumes has consumed. -/
theorem Yields.consumed_eq
    {consumed : Bool}
    (ran : parser.Yields state consumed value next error)
    (consumes : parser.AlwaysConsumes) :
    consumed = true := by
  cases consumed with
  | true => rfl
  | false => exact absurd ran (consumes _ _ _ _)

/-- Whether a parser refuses the tokens that come at a state. -/
theorem Refuses.states
    {τ : Type} [TokenStream σ τ]
    (refuses : parser.Refuses View.tokens (TokenStream.toList state.input))
    (later : List (State σ υ)) :
    parser.Refuses View.states (state :: later) := by
  obtain ⟨error, failed⟩ := refuses (rfl : View.tokens state _)
  exact failed.refuses later

end

end Parser

/-! ## Runs of digits -/

/-- Some digits come next, and no more than those; they lead to another state. -/
structure DigitRun
    {σ υ : Type}
    [TokenStream σ Char]
    (state : State σ υ)
    (digits : List Char)
    (next : State σ υ) : Prop where
  repeated : Parser.digit.Repeats state digits next
  stopped : ∃ error, (Parser.digit : Parser σ υ Char).Fails next false error

/-- A character that two predicates allow leads to the same state under both. -/
theorem Parser.Yields.satisfy_labels
    {σ υ : Type}
    [TokenStream σ Char]
    {predicate : Char → Bool}
    {names : List String}
    {state next : State σ υ}
    {consumed : Bool}
    {c : Char}
    {error : ParseError}
    (ran : ((Parser.satisfy predicate).labels names).Yields state consumed c next error)
    (other : Char → Bool)
    (holds : other c = true)
    (otherNames : List String) :
    ∃ found, ((Parser.satisfy other).labels otherNames).Yields state true c next found := by
  obtain ⟨_, inner⟩ := ran.of_labels
  obtain ⟨token, rest, taken, tested, -, rfl, -⟩ := Parser.token_yields_iff.mp inner
  obtain ⟨-, rfl⟩ : predicate token = true ∧ token = c := by simpa using tested
  have otherRan : (Parser.satisfy other).Yields state true token
      ⟨rest, state.position.afterChar token, state.user⟩
      (.unknown (state.position.afterChar token)) :=
    Parser.token_yields_iff.mpr ⟨token, rest, taken, by simp [holds], rfl, rfl, rfl⟩
  exact ((otherRan.reads []).labels otherNames).exists_yields

/-- A character that is taken was the next one. -/
theorem Parser.TakesChar.toList_eq_cons
    {σ υ : Type}
    [TokenStream σ Char]
    [LawfulTokenStream σ]
    {parser : Parser σ υ Char}
    {predicate : Char → Bool}
    (takes : parser.TakesChar predicate)
    {state next : State σ υ}
    {consumed : Bool}
    {c : Char}
    {error : ParseError}
    (ran : parser.Yields state consumed c next error) :
    predicate c = true ∧ TokenStream.toList state.input = c :: TokenStream.toList next.input := by
  obtain ⟨token, taken, accepted, -⟩ := takes.of_yields ran
  obtain ⟨rfl, holds⟩ := Option.guard_eq_some_iff.mp accepted
  exact ⟨holds, LawfulTokenStream.toList_eq_cons taken⟩

theorem digit_takesChar {σ υ : Type} [TokenStream σ Char] :
    (Parser.digit : Parser σ υ Char).TakesChar Char.isDigit :=
  (Parser.satisfy_takesChar Char.isDigit).label "digit"

namespace DigitRun

variable {σ υ : Type} [TokenStream σ Char]
variable {state middle next : State σ υ} {digits : List Char} {consumed : Bool}
variable {error : ParseError}

/-- Digits in base ten are a run of them. -/
theorem of_digitsIn
    {found : Digits}
    (ran : (Language.digitsIn 10).Yields state consumed found next error) :
    ∃ digits, digits ≠ [] ∧ found = ⟨10, digits⟩ ∧ DigitRun state digits next ∧
      consumed = true := by
  obtain ⟨digits, many, rfl⟩ := Parser.map_yields_iff.mp ran
  obtain ⟨_, c, middle, _, _, others, _, first, rest, rfl, rfl, -⟩ :=
    Parser.zipWith_yields_iff.mp many
  obtain ⟨-, -, -, rfl⟩ := digit_takesChar.of_yields first
  obtain ⟨-, repeated, stopped, -⟩ := Parser.many_yields_iff.mp rest
  exact ⟨c :: others, List.cons_ne_nil c others, rfl, ⟨.cons first repeated, _, stopped⟩, rfl⟩

/-- A digit in front of a run makes a longer one. -/
theorem cons
    {c : Char}
    (first : (Parser.digit : Parser σ υ Char).Yields state true c middle error)
    (behind : DigitRun middle digits next) :
    DigitRun state (c :: digits) next :=
  ⟨.cons first behind.repeated, behind.stopped⟩

/-- A zero is a run of digits where no other digit comes. -/
theorem zero
    {found : ParseError}
    (ran : (Parser.char '0').Yields state true '0' next error)
    (stopped : (Parser.digit : Parser σ υ Char).Fails next false found) :
    DigitRun state ['0'] next := by
  obtain ⟨_, first⟩ := ran.satisfy_labels Char.isDigit rfl ["digit"]
  exact .cons first ⟨.nil next, found, stopped⟩

/-- A run that is not empty has a first digit and a run behind it. -/
theorem exists_first
    {c : Char}
    (run : DigitRun state (c :: digits) next) :
    ∃ middle error, (Parser.digit : Parser σ υ Char).Yields state true c middle error ∧
      DigitRun middle digits next := by
  obtain ⟨repeated, stopped⟩ := run
  cases repeated with
  | cons first others => exact ⟨_, _, first, others, stopped⟩

variable [LawfulTokenStream σ]

/-- A run takes its digits from the front. -/
theorem toList_eq_append (run : DigitRun state digits next) :
    TokenStream.toList state.input = digits ++ TokenStream.toList next.input ∧
      ∀ c ∈ digits, c.isDigit = true := by
  induction run.repeated with
  | nil state => exact ⟨rfl, List.forall_mem_nil _⟩
  | cons first others ih =>
      obtain ⟨digit, split⟩ := digit_takesChar.toList_eq_cons first
      obtain ⟨rest, all⟩ := ih ⟨others, run.stopped⟩
      exact ⟨by rw [split, rest, List.cons_append], List.forall_mem_cons.mpr ⟨digit, all⟩⟩

/-- A run that is not empty is one of digits in base ten. -/
theorem digitsIn_yields (run : DigitRun state digits next) (some : digits ≠ []) :
    ∃ error, (Language.digitsIn 10).Yields state true ⟨10, digits⟩ next error := by
  obtain ⟨c, others, rfl⟩ := List.exists_cons_of_ne_nil some
  obtain ⟨middle, _, first, behind⟩ := run.exists_first
  obtain ⟨error, stopped⟩ := behind.stopped
  have few : others.length < middle.patience := by
    have fits := View.tokens_fits (rfl : View.tokens middle _)
    have bounded := middle.size_lt_patience
    rw [behind.toList_eq_append.1, List.length_append] at fits
    omega
  have many := Parser.many_yields_iff.mpr ⟨few, behind.repeated, stopped, rfl⟩
  exact ⟨_, Parser.map_yields_iff.mpr ⟨_, Parser.zipWith_yields_iff.mpr
    ⟨_, c, middle, _, _, others, error, first, many, rfl, rfl, rfl⟩, rfl⟩⟩

/-- The digits are those at the front of the input. -/
theorem eq_takeWhile (run : DigitRun state digits next) :
    digits = (TokenStream.toList state.input).takeWhile Char.isDigit := by
  obtain ⟨split, all⟩ := run.toList_eq_append
  have stopsNext : (TokenStream.toList next.input).takeWhile Char.isDigit = [] := by
    cases viewed : TokenStream.toList next.input with
    | nil => rfl
    | cons c rest =>
        cases digit : c.isDigit with
        | false => exact List.takeWhile_cons_of_neg (ne_true_of_eq_false digit)
        | true =>
            obtain ⟨after, found, ran, -⟩ := digit_takesChar.reads digit rest (υ := υ) viewed
            obtain ⟨error, failed⟩ := run.stopped
            exact absurd failed ran.not_fails
  rw [split, List.takeWhile_append_of_pos all, stopsNext, List.append_nil]

/-- A run of digits is a zero, or it starts with one, or it does not. -/
theorem zero_cases (run : DigitRun state digits next) (some : digits ≠ []) :
    (digits = ['0'] ∧ ∃ error, (Parser.char '0').Yields state true '0' next error) ∨
      (∃ others middle error, digits = '0' :: others ∧ others ≠ [] ∧
        (Parser.char '0').Yields state true '0' middle error ∧ DigitRun middle others next) ∨
      ∃ error, (Parser.char '0' : Parser σ υ Char).Fails state false error := by
  obtain ⟨c, others, rfl⟩ := List.exists_cons_of_ne_nil some
  obtain ⟨middle, _, first, behind⟩ := run.exists_first
  by_cases zero : c = '0'
  · subst zero
    obtain ⟨error, ran⟩ := first.satisfy_labels (fun c => c == '0') (beq_self_eq_true '0')
      [Quoted.letter '0']
    cases others with
    | nil =>
        cases behind.repeated
        exact .inl ⟨rfl, error, ran⟩
    | cons d others =>
        exact .inr (.inl ⟨d :: others, middle, error, rfl, List.cons_ne_nil d others, ran, behind⟩)
  · have notZero : '0' ∉ (TokenStream.toList state.input).head? := by
      rw [(digit_takesChar.toList_eq_cons first).2]
      simpa using zero
    exact .inr (.inr (Parser.char_refuses notZero rfl))

end DigitRun

end Predictive
