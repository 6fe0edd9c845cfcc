import Predictive.Proofs.Success

/-!
# Reading words

What a parser does where certain symbols come next. The symbols are those of a view of the
state: the tokens of the input themselves, or lexemes of which the input holds a written form.
A parser reads a word if it takes it from the front with a certain value, and it refuses some
symbols if it fails at once in front of them. For each combinator there are lemmas by which it
reads or refuses if its parts do.
-/

namespace Predictive

/-- A view of a state: the symbols to come. -/
abbrev View (σ υ κ : Type) := State σ υ → List κ → Prop

namespace View

variable {σ τ υ κ : Type} [TokenStream σ τ]

/-- The view of the tokens themselves. -/
def tokens : View σ υ τ :=
  fun state symbols => TokenStream.toList state.input = symbols

/-- The input is at least as long as the symbols that are viewed. -/
def Fits (view : View σ υ κ) : Prop :=
  ∀ ⦃state symbols⦄, view state symbols → symbols.length ≤ TokenStream.size state.input

/-- There are as many tokens as the input has at most. -/
theorem tokens_fits [LawfulTokenStream σ] : (tokens : View σ υ τ).Fits := by
  rintro state symbols rfl
  exact TokenStream.length_toList_le_size state.input

end View

namespace Parser

variable {σ υ κ α β γ : Type}

/-- Wherever the word and the rest come, the parser takes the word, with a value. -/
def Reads
    (view : View σ υ κ)
    (parser : Parser σ υ α)
    (word : List κ)
    (value : α)
    (rest : List κ) : Prop :=
  ∀ ⦃state⦄, view state (word ++ rest) →
    ∃ next error, parser.Yields state (!word.isEmpty) value next error ∧ view next rest

/-- Wherever the symbols come, the parser fails at once. -/
def Refuses
    (view : View σ υ κ)
    (parser : Parser σ υ α)
    (symbols : List κ) : Prop :=
  ∀ ⦃state⦄, view state symbols → ∃ error, parser.Fails state false error

variable {view : View σ υ κ} {word more rest symbols : List κ}

/-! ## Values and sequences -/

theorem not_isEmpty_append (word more : List κ) :
    (!(word ++ more).isEmpty) = (!word.isEmpty || !more.isEmpty) := by
  cases word <;> rfl

/-- A value takes nothing. -/
theorem pure_reads (value : α) : (Parser.pure value).Reads view [] value rest :=
  fun state viewed => ⟨state, _, rfl, viewed⟩

theorem empty_refuses : (Parser.empty : Parser σ υ α).Refuses view symbols :=
  fun _ _ => ⟨_, rfl⟩

theorem Reads.map
    {parser : Parser σ υ α}
    {value : α}
    (f : α → β)
    (reads : parser.Reads view word value rest) :
    (parser.map f).Reads view word (f value) rest := by
  intro state viewed
  obtain ⟨next, error, ran, left⟩ := reads viewed
  exact ⟨next, error, map_yields_iff.mpr ⟨value, ran, rfl⟩, left⟩

theorem Refuses.map
    {parser : Parser σ υ α}
    (f : α → β)
    (refuses : parser.Refuses view symbols) :
    (parser.map f).Refuses view symbols := by
  intro state viewed
  obtain ⟨error, failed⟩ := refuses viewed
  exact ⟨error, by simp [Fails, failed, Except.map]⟩

/-- A sequence takes two words one after the other. -/
theorem Reads.bind
    {parser : Parser σ υ α}
    {following : α → Parser σ υ β}
    {value : α}
    {result : β}
    (reads : parser.Reads view word value (more ++ rest))
    (others : (following value).Reads view more result rest) :
    (parser.bind following).Reads view (word ++ more) result rest := by
  intro state viewed
  rw [List.append_assoc] at viewed
  obtain ⟨middle, earlier, ran, viewedMiddle⟩ := reads viewed
  obtain ⟨next, error, ranNext, left⟩ := others viewedMiddle
  refine ⟨next, _, bind_yields_iff.mpr
    ⟨_, value, middle, earlier, _, error, ran, ranNext, ?_, rfl⟩, left⟩
  exact not_isEmpty_append word more

/-- A sequence whose second half takes nothing. -/
theorem Reads.bindNil
    {parser : Parser σ υ α}
    {following : α → Parser σ υ β}
    {value : α}
    {result : β}
    (reads : parser.Reads view word value rest)
    (others : (following value).Reads view [] result rest) :
    (parser.bind following).Reads view word result rest := by
  have sequence : (parser.bind following).Reads view (word ++ []) result rest := reads.bind others
  rwa [List.append_nil] at sequence

/-- A sequence is refused where its first half is. -/
theorem Refuses.bind
    {parser : Parser σ υ α}
    {following : α → Parser σ υ β}
    (refuses : parser.Refuses view symbols) :
    (parser.bind following).Refuses view symbols := by
  intro state viewed
  obtain ⟨error, failed⟩ := refuses viewed
  exact ⟨error, run_bind_of_failed failed following⟩

/-- Two words are read one after the other, and their values combined. -/
theorem Reads.zipWith
    {first : Parser σ υ α}
    {second : Parser σ υ β}
    {left : α}
    {right : β}
    (reads : first.Reads view word left (more ++ rest))
    (others : second.Reads view more right rest)
    (f : α → β → γ) :
    (first.zipWith second f).Reads view (word ++ more) (f left right) rest := by
  intro state viewed
  rw [List.append_assoc] at viewed
  obtain ⟨middle, earlier, ran, viewedMiddle⟩ := reads viewed
  obtain ⟨next, error, ranNext, viewedNext⟩ := others viewedMiddle
  refine ⟨next, _, zipWith_yields_iff.mpr
    ⟨_, left, middle, earlier, _, right, error, ran, ranNext, rfl, ?_, rfl⟩, viewedNext⟩
  exact not_isEmpty_append word more

theorem Refuses.zipWith
    {first : Parser σ υ α}
    {second : Parser σ υ β}
    (refuses : first.Refuses view symbols)
    (f : α → β → γ) :
    (first.zipWith second f).Refuses view symbols := by
  intro state viewed
  obtain ⟨error, failed⟩ := refuses viewed
  exact ⟨error, run_zipWith_of_failed failed second f⟩

/-! ## Choices -/

/-- The first parser of a choice is tried first. -/
theorem Reads.orElse
    {first : Parser σ υ α}
    {value : α}
    (reads : first.Reads view word value rest)
    (second : Parser σ υ α) :
    (first.orElse second).Reads view word value rest := by
  intro state viewed
  obtain ⟨next, error, ran, left⟩ := reads viewed
  exact ⟨next, error, run_orElse_of_ok ran second, left⟩

/-- The second parser of a choice reads what the first one refuses. -/
theorem Refuses.orElse_reads
    {first second : Parser σ υ α}
    {value : α}
    (refuses : first.Refuses view (word ++ rest))
    (reads : second.Reads view word value rest) :
    (first.orElse second).Reads view word value rest := by
  intro state viewed
  obtain ⟨earlier, failed⟩ := refuses viewed
  obtain ⟨next, found, ran, left⟩ := reads viewed
  exact ⟨next, _, orElse_yields_iff.mpr (.inr ⟨earlier, found, failed, ran, rfl⟩), left⟩

/-- A choice is refused where both of its parsers refuse. -/
theorem Refuses.orElse
    {first second : Parser σ υ α}
    (refuses : first.Refuses view symbols)
    (others : second.Refuses view symbols) :
    (first.orElse second).Refuses view symbols := by
  intro state viewed
  obtain ⟨earlier, failed⟩ := refuses viewed
  obtain ⟨error, othersFailed⟩ := others viewed
  refine ⟨earlier.merge error, ?_⟩
  rw [Fails, run_orElse_of_empty_failed failed, othersFailed]
  rfl

/-- A choice is refused where all of its parsers refuse. -/
theorem choice_refuses
    {parsers : List (Parser σ υ α)}
    (refuse : ∀ parser ∈ parsers, parser.Refuses view symbols) :
    (Parser.choice parsers).Refuses view symbols := by
  cases parsers with
  | nil => exact empty_refuses
  | cons parser parsers =>
      have first : parser.Refuses view symbols := refuse parser List.mem_cons_self
      have others : ∀ other ∈ parsers, other.Refuses view symbols :=
        fun other present => refuse other (List.mem_cons_of_mem parser present)
      change (parsers.foldl Parser.orElse parser).Refuses view symbols
      clear refuse
      induction parsers generalizing parser with
      | nil => exact first
      | cons second parsers ih =>
          refine ih _ (first.orElse (others second List.mem_cons_self)) fun other present => ?_
          exact others other (List.mem_cons_of_mem second present)

/-- A choice reads what one of its parsers reads, if those before it refuse that. -/
theorem Reads.choice
    {front back : List (Parser σ υ α)}
    {parser : Parser σ υ α}
    {value : α}
    (reads : parser.Reads view word value rest)
    (refuse : ∀ other ∈ front, other.Refuses view (word ++ rest)) :
    (Parser.choice (front ++ parser :: back)).Reads view word value rest := by
  have others : ∀ (tried : Parser σ υ α), tried.Reads view word value rest →
      (back.foldl Parser.orElse tried).Reads view word value rest := by
    intro tried tries
    induction back generalizing tried with
    | nil => exact tries
    | cons second back ih => exact ih _ (tries.orElse second)
  cases front with
  | nil => exact others parser reads
  | cons first front =>
      have refused : (Parser.choice (first :: front)).Refuses view (word ++ rest) :=
        choice_refuses refuse
      change ((front ++ parser :: back).foldl Parser.orElse first).Reads view word value rest
      rw [List.foldl_append, List.foldl_cons]
      exact others _ (refused.orElse_reads reads)

/-! ## Labels and attempts -/

/-- Labels change nothing where a word is read. -/
theorem Reads.labels
    {parser : Parser σ υ α}
    {value : α}
    (reads : parser.Reads view word value rest)
    (names : List String) :
    (parser.labels names).Reads view word value rest := by
  intro state viewed
  obtain ⟨next, error, ran, left⟩ := reads viewed
  unfold Yields Parser.labels
  rw [run_mk, ran]
  cases word with
  | nil => exact ⟨next, _, rfl, left⟩
  | cons symbol word => exact ⟨next, error, rfl, left⟩

/-- Labels change only what is said where nothing is read. -/
theorem Refuses.labels
    {parser : Parser σ υ α}
    (refuses : parser.Refuses view symbols)
    (names : List String) :
    (parser.labels names).Refuses view symbols := by
  intro state viewed
  obtain ⟨error, failed⟩ := refuses viewed
  refine ⟨error.setExpected names, ?_⟩
  rw [Fails, Parser.labels, run_mk, failed]
  rfl

/-- An attempt reads what its parser does. -/
theorem Reads.attempt
    {parser : Parser σ υ α}
    {value : α}
    (reads : parser.Reads view word value rest) :
    parser.attempt.Reads view word value rest := by
  intro state viewed
  obtain ⟨next, error, ran, left⟩ := reads viewed
  exact ⟨next, error, attempt_yields_iff.mpr ran, left⟩

/-- Under an attempt, any failure refuses. -/
theorem attempt_refuses
    {parser : Parser σ υ α}
    (fails : ∀ state, view state symbols → ∃ consumed error, parser.Fails state consumed error) :
    parser.attempt.Refuses view symbols := by
  intro state viewed
  obtain ⟨consumed, error, failed⟩ := fails state viewed
  refine ⟨error, ?_⟩
  rw [Fails, Parser.attempt, run_mk, failed]
  rfl

/-! ## Repetition -/

/-- Some rounds of a parser, each of which reads a word that is not empty. -/
inductive Rounds (view : View σ υ κ) (parser : Parser σ υ α) :
    (word : List κ) → List α → (rest : List κ) → Prop
  | nil (rest : List κ) : Rounds view parser [] [] rest
  | cons
      {word more rest : List κ}
      {value : α}
      {values : List α}
      (some : word ≠ [])
      (first : parser.Reads view word value (more ++ rest))
      (others : Rounds view parser more values rest) :
      Rounds view parser (word ++ more) (value :: values) rest

/-- There are no more rounds than symbols. -/
theorem Rounds.length_le
    {parser : Parser σ υ α}
    {values : List α}
    (rounds : Rounds view parser word values rest) :
    values.length ≤ word.length := by
  induction rounds with
  | nil rest => exact Nat.le_refl 0
  | cons some first others ih =>
      have long := List.length_pos_iff.mpr some
      rw [List.length_cons, List.length_append]
      omega

/-- The rounds are those of a repetition. -/
theorem Rounds.repeats
    {parser : Parser σ υ α}
    {values : List α}
    (rounds : Rounds view parser word values rest)
    {state : State σ υ}
    (viewed : view state (word ++ rest)) :
    ∃ next, parser.Repeats state values next ∧ view next rest := by
  induction rounds generalizing state with
  | nil rest => exact ⟨state, .nil state, viewed⟩
  | cons some first others ih =>
      rename_i word more rest value values
      rw [List.append_assoc] at viewed
      obtain ⟨middle, error, ran, viewedMiddle⟩ := first viewed
      obtain ⟨next, repeated, viewedNext⟩ := ih viewedMiddle
      have consumes : (!word.isEmpty) = true := by simpa using some
      rw [consumes] at ran
      exact ⟨next, .cons ran repeated, viewedNext⟩

section
variable {τ : Type} [TokenStream σ τ]

/-- A repetition reads the words of some rounds, if its parser refuses what comes then. -/
theorem Rounds.manyFold
    {parser : Parser σ υ α}
    {values : List α}
    (rounds : Rounds view parser word values rest)
    (refuses : parser.Refuses view rest)
    (fits : view.Fits)
    (first : β)
    (combine : β → α → β) :
    (parser.manyFold first combine).Reads view word (values.foldl combine first) rest := by
  intro state viewed
  obtain ⟨next, repeated, viewedNext⟩ := rounds.repeats viewed
  obtain ⟨error, failed⟩ := refuses viewedNext
  have few : values.length < state.patience := by
    have viewedFew := fits viewed
    have roundsFew := rounds.length_le
    have bounded := state.size_lt_patience
    rw [List.length_append] at viewedFew
    omega
  refine ⟨next, error, manyFold_yields_iff.mpr ⟨values, few, repeated, failed, rfl, ?_⟩, viewedNext⟩
  cases rounds with
  | nil rest => rfl
  | cons some first others =>
      rw [not_isEmpty_append]
      simp [some]

/-- A repetition reads its rounds and stops where the next one is refused. -/
theorem Rounds.many
    {parser : Parser σ υ α}
    {values : List α}
    (rounds : Rounds view parser word values rest)
    (refuses : parser.Refuses view rest)
    (fits : view.Fits) :
    parser.many.Reads view word values rest := by
  have reversed := rounds.manyFold refuses fits [] fun values value => value :: values
  have read := reversed.map List.reverse
  have listed : (values.foldl (fun values value => value :: values) []).reverse = values := by
    simp
  rwa [listed] at read

/-- A first round whose value is combined with those of the others. -/
theorem Rounds.zipWith_many
    {parser : Parser σ υ α}
    {value : α}
    {values : List α}
    (rounds : Rounds view parser word (value :: values) rest)
    (refuses : parser.Refuses view rest)
    (fits : view.Fits)
    (f : α → List α → β) :
    (parser.zipWith parser.many f).Reads view word (f value values) rest := by
  cases rounds with
  | cons some first others => exact first.zipWith (others.many refuses fits) f

end

end Parser
end Predictive
