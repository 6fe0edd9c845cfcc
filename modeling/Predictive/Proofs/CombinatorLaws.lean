import Predictive.Proofs.ErrorPositions

/-!
# Laws of sequences and choices

Sequences and choices may be regrouped without any change to what is reported, since merging
errors is associative. The parsers that do nothing are neutral in them: a value alone in a
sequence, the failure without messages in a choice. That takes parsers which report nothing behind
the place where they start, as those do whose tokens never move the position backwards.

What is done to the value of a sequence or of a choice may as well be done to the values of its
parts.
-/

namespace Predictive

variable {σ τ υ α β γ : Type}

namespace Reply

theorem mergeError_mergeError (reply : Reply σ υ α) (inner outer : ParseError) :
    (reply.mergeError inner).mergeError outer = reply.mergeError (outer.merge inner) := by
  cases reply with
  | ok value next error => rw [mergeError_ok, mergeError_ok, mergeError_ok, ParseError.merge_merge]
  | failed error =>
      rw [mergeError_failed, mergeError_failed, mergeError_failed, ParseError.merge_merge]

theorem map_mergeError (reply : Reply σ υ α) (earlier : ParseError) (f : α → β) :
    (reply.mergeError earlier).map f = (reply.map f).mergeError earlier := by
  cases reply <;> rfl

end Reply

namespace Outcome

/-- The value of a second half may be changed before or after it is joined to the first. -/
theorem map_after
    (outcome : Outcome σ υ α)
    (consumed : Bool)
    (error : ParseError)
    (f : α → β) :
    (outcome.after consumed error).map f = (outcome.map f).after consumed error := by
  obtain ⟨tag, reply⟩ := outcome
  cases tag with
  | true => rfl
  | false => rw [after_empty, map_mk, map_mk, after_empty, Reply.map_mergeError]

/-- Two halves in front of a third one are a sequence in front of it. -/
theorem after_after
    (outcome : Outcome σ υ α)
    (inner outer : Bool)
    (innerError outerError : ParseError) :
    (outcome.after inner innerError).after outer outerError =
      outcome.after (outer || inner)
        (if inner then innerError else outerError.merge innerError) := by
  obtain ⟨tag, reply⟩ := outcome
  cases tag with
  | true => rfl
  | false =>
      cases inner with
      | true => rw [after_empty, after_consumed, after_empty, Bool.or_true, if_pos rfl]
      | false =>
          rw [after_empty, after_empty, after_empty, Reply.mergeError_mergeError, Bool.or_false,
            if_neg (by decide)]

/-- Nothing is added to an outcome by an error without messages at its start. -/
theorem after_unknown
    {outcome : Outcome σ υ α}
    {start : Position}
    (ahead : outcome.reply.Ahead start) :
    outcome.after false (.unknown start) = outcome := by
  obtain ⟨tag, reply⟩ := outcome
  cases tag with
  | true => rfl
  | false => rw [after_empty, ahead.mergeError_unknown]

end Outcome

namespace Parser

/-! ## Values -/

theorem map_map (parser : Parser σ υ α) (f : α → β) (g : β → γ) :
    (parser.map f).map g = parser.map (g ∘ f) := by
  refine Parser.ext (funext fun state => ?_)
  rw [run_map, run_map, run_map]
  rcases parser.run state with defect | ⟨consumed, ⟨value, next, error⟩ | error⟩ <;> rfl

/-- Functions may differ where the parser yields nothing. -/
theorem map_congr
    {parser : Parser σ υ α}
    {f g : α → β}
    (agree : ∀ {state consumed value next error},
      parser.Yields state consumed value next error → f value = g value) :
    parser.map f = parser.map g := by
  refine Parser.ext (funext fun state => ?_)
  rw [run_map, run_map]
  rcases ran : parser.run state with defect | ⟨consumed, ⟨value, next, error⟩ | error⟩
  · rfl
  · have same : f value = g value := agree ran
    simp only [Except.map, Outcome.map_mk, Reply.map, same]
  · rfl

/-- The value of a sequence is that of its second half. -/
theorem map_bind (parser : Parser σ υ α) (following : α → Parser σ υ β) (f : β → γ) :
    (parser.bind following).map f = parser.bind fun value => (following value).map f := by
  refine Parser.ext (funext fun state => ?_)
  rw [run_map]
  rcases ran : parser.run state with defect | ⟨consumed, ⟨value, middle, error⟩ | error⟩
  · rw [run_bind_of_error ran, run_bind_of_error ran]
    rfl
  · rw [run_bind_of_ok ran, run_bind_of_ok ran, run_map]
    cases (following value).run middle with
    | error defect => rfl
    | ok outcome => exact congrArg Except.ok (outcome.map_after consumed error f)
  · rw [run_bind_of_failed ran, run_bind_of_failed ran]
    rfl

/-- The value of the first half is dropped in any case. -/
theorem map_keepRight (first : Parser σ υ α) (second : Parser σ υ β) (f : β → γ) :
    (first.keepRight second).map f = first.keepRight (second.map f) := by
  refine Parser.ext (funext fun state => ?_)
  unfold keepRight
  rw [run_map]
  rcases ran : first.run state with defect | ⟨consumed, ⟨value, middle, error⟩ | error⟩
  · rw [run_zipWith_of_error ran, run_zipWith_of_error ran]
    rfl
  · rw [run_zipWith_of_ok ran, run_zipWith_of_ok ran, run_map]
    rcases second.run middle with defect | ⟨tag, ⟨value, next, found⟩ | found⟩
    · rfl
    · cases tag <;> rfl
    · cases tag <;> rfl
  · rw [run_zipWith_of_failed ran, run_zipWith_of_failed ran]
    rfl

/-- The value of a choice is that of one of its parsers. -/
theorem map_orElse (first second : Parser σ υ α) (f : α → β) :
    (first.orElse second).map f = (first.map f).orElse (second.map f) := by
  refine Parser.ext (funext fun state => ?_)
  rw [run_map]
  rcases ran : first.run state with defect | ⟨consumed, ⟨value, next, error⟩ | error⟩
  · have mapped : (first.map f).run state = .error defect := by rw [run_map, ran]; rfl
    rw [run_orElse_of_error ran, run_orElse_of_error mapped]
    rfl
  · have mapped : (first.map f).run state = .ok ⟨consumed, .ok (f value) next error⟩ := by
      rw [run_map, ran]; rfl
    rw [run_orElse_of_ok ran, run_orElse_of_ok mapped]
    rfl
  · have mapped : (first.map f).run state = .ok ⟨consumed, .failed error⟩ := by
      rw [run_map, ran]; rfl
    cases consumed with
    | true =>
        rw [run_orElse_of_consumed ran, run_orElse_of_consumed mapped]
        rfl
    | false =>
        rw [run_orElse_of_empty_failed ran, run_orElse_of_empty_failed mapped, run_map]
        cases second.run state with
        | error defect => rfl
        | ok outcome => exact congrArg Except.ok (outcome.map_after false error f)

/-- The value of a choice is that of one of its parsers, however many there are. -/
theorem map_choice (parsers : List (Parser σ υ α)) (f : α → β) :
    (choice parsers).map f = choice (parsers.map (·.map f)) := by
  cases parsers with
  | nil => rfl
  | cons parser parsers =>
      change (parsers.foldl orElse parser).map f =
        (parsers.map (·.map f)).foldl orElse (parser.map f)
      induction parsers generalizing parser with
      | nil => rfl
      | cons second parsers ih =>
          rw [List.foldl_cons, ih, map_orElse, List.map_cons, List.foldl_cons]

/-! ## Sequences -/

/-- Sequences may be regrouped. -/
theorem bind_bind
    (parser : Parser σ υ α)
    (following : α → Parser σ υ β)
    (last : β → Parser σ υ γ) :
    (parser.bind following).bind last =
      parser.bind fun value => (following value).bind last := by
  refine Parser.ext (funext fun state => ?_)
  rcases ran : parser.run state with defect | ⟨consumed, ⟨value, middle, error⟩ | error⟩
  · rw [run_bind_of_error ran, run_bind_of_error (run_bind_of_error ran following)]
  · have ranFirst := run_bind_of_ok ran following
    rw [run_bind_of_ok ran]
    rcases ranNext : (following value).run middle with
      defect | ⟨tag, ⟨second, next, found⟩ | found⟩
    · rw [ranNext] at ranFirst
      rw [run_bind_of_error ranFirst, run_bind_of_error ranNext]
      rfl
    · rw [ranNext] at ranFirst
      -- The second half tells whether the error in front of it is kept.
      have ranBoth : (parser.bind following).run state =
          .ok ⟨consumed || tag, .ok second next (if tag then found else error.merge found)⟩ := by
        rw [ranFirst]
        cases tag <;> simp [Except.map]
      rw [run_bind_of_ok ranBoth, run_bind_of_ok ranNext]
      cases (last second).run next with
      | error defect => rfl
      | ok outcome =>
          exact congrArg Except.ok (Outcome.after_after outcome tag consumed found error).symm
    · rw [ranNext] at ranFirst
      rw [run_bind_of_failed ranNext]
      cases tag with
      | true => exact run_bind_of_failed ranFirst last
      | false => exact run_bind_of_failed ranFirst last
  · rw [run_bind_of_failed ran, run_bind_of_failed (run_bind_of_failed ran following)]

/-- A value in front of a sequence is neutral. -/
theorem pure_bind
    {following : α → Parser σ υ β}
    {value : α}
    (ahead : (following value).ReportsAhead) :
    (pure value).bind following = following value := by
  refine Parser.ext (funext fun state => ?_)
  rw [run_bind_of_ok (run_pure value state)]
  cases ran : (following value).run state with
  | error defect => rfl
  | ok outcome => exact congrArg Except.ok (Outcome.after_unknown (ahead ran))

/-- A value behind a sequence is neutral. -/
theorem bind_pure {parser : Parser σ υ α} (ahead : parser.ReportsAhead) :
    parser.bind pure = parser := by
  refine Parser.ext (funext fun state => ?_)
  rcases ran : parser.run state with defect | ⟨consumed, ⟨value, next, error⟩ | error⟩
  · exact run_bind_of_error ran pure
  · have covers : error.Covers next.position := (ahead ran).2.2
    rw [run_bind_of_ok ran, run_pure]
    change Except.ok (Outcome.mk consumed (.ok value next (error.merge _))) = _
    rw [ParseError.merge_unknown covers]
  · exact run_bind_of_failed ran pure

/-- Combining two values is a sequence whose second half knows the first value. -/
theorem zipWith_eq_bind (first : Parser σ υ α) (second : Parser σ υ β) (f : α → β → γ) :
    first.zipWith second f = first.bind fun value => second.map (f value) := by
  refine Parser.ext (funext fun state => ?_)
  rcases ran : first.run state with defect | ⟨consumed, ⟨value, middle, error⟩ | error⟩
  · rw [run_zipWith_of_error ran, run_bind_of_error ran]
  · rw [run_zipWith_of_ok ran, run_bind_of_ok ran, run_map]
    cases second.run middle <;> rfl
  · rw [run_zipWith_of_failed ran, run_bind_of_failed ran]

/-- Sequences form a monad on outcomes as a whole, with tags, states and errors: they may be
regrouped, a value in front or behind is neutral where no token moves the position backwards, and
the sequences that combine two values are instances of the one that goes on with the first. -/
theorem sequence_laws
    [TokenStream σ τ]
    (parser : Parser σ υ α)
    (following : α → Parser σ υ β)
    (last : β → Parser σ υ γ)
    (second : Parser σ υ β)
    (f : α → β → γ)
    (value : α) :
    (parser.bind following).bind last =
        (parser.bind fun value => (following value).bind last) ∧
      (Composed Advancing (following value) → (pure value).bind following = following value) ∧
      (Composed Advancing parser → parser.bind pure = parser) ∧
      parser.zipWith second f = (parser.bind fun left => second.map fun right => f left right) ∧
      parser.pair second = (parser.bind fun left => second.map fun right => (left, right)) ∧
      parser.keepLeft second = (parser.bind fun left => second.map fun _ => left) ∧
      parser.keepRight second = (parser.bind fun _ => second.map fun right => right) :=
  ⟨bind_bind parser following last,
    fun composed => pure_bind composed.advancing_reportsAhead,
    fun composed => bind_pure composed.advancing_reportsAhead,
    zipWith_eq_bind parser second f,
    zipWith_eq_bind parser second Prod.mk,
    zipWith_eq_bind parser second fun left _ => left,
    zipWith_eq_bind parser second fun _ right => right⟩

/-- Behind some digits the value alone is neutral, and in front of as many letters as there are
digits. -/
theorem sequence_laws_digits :
    Composed Advancing (digit.many : Parser Text Unit (List Char)) ∧
      (digit.many.bind pure : Parser Text Unit (List Char)) = digit.many ∧
      ((pure ['2']).bind fun digits => (char 'a').count digits.length) =
        ((char 'a').count 1 : Parser Text Unit (List Char)) := by
  have digits : Composed Advancing (digit.many : Parser Text Unit (List Char)) :=
    digit_advancing.many
  have letters : Composed Advancing ((char 'a').count 1 : Parser Text Unit (List Char)) :=
    (char_advancing 'a').count 1
  have laws := sequence_laws (digit.many : Parser Text Unit (List Char))
    (fun digits => (char 'a').count digits.length) pure digit.many List.append ['2']
  exact ⟨digits, laws.2.2.1 digits, laws.2.1 letters⟩

/-- A value behind a parser is not neutral if a token may move the position backwards: the error
without messages at the state after the parser then ranks higher than the one that it left. -/
theorem bind_pure_not_neutral :
    ¬ ∀ parser : Parser (Tokens Char) Unit (List Unit),
      Composed Primitive parser → parser.bind pure = parser := by
  intro law
  have same := congrArg
    (fun parser => (parser.run onFifthLine).toOption.map (·.reply.errorOf.position.line))
    (law recoil.many recoil_composed.many)
  exact absurd same (by decide +kernel)

/-! ## Choices -/

/-- Choices may be regrouped. -/
theorem orElse_orElse (first second third : Parser σ υ α) :
    (first.orElse second).orElse third = first.orElse (second.orElse third) := by
  refine Parser.ext (funext fun state => ?_)
  rcases ran : first.run state with defect | ⟨_ | _, ⟨value, next, error⟩ | error⟩
  · rw [run_orElse_of_error ran, run_orElse_of_error (run_orElse_of_error ran second)]
  · rw [run_orElse_of_ok ran, run_orElse_of_ok (run_orElse_of_ok ran second)]
  · have ranBoth := run_orElse_of_empty_failed ran second
    rw [run_orElse_of_empty_failed ran]
    rcases ranSecond : second.run state with defect | ⟨_ | _, ⟨value, next, found⟩ | found⟩
    · rw [ranSecond] at ranBoth
      rw [run_orElse_of_error ranBoth, run_orElse_of_error ranSecond]
      rfl
    · rw [ranSecond] at ranBoth
      rw [run_orElse_of_ok ranBoth, run_orElse_of_ok ranSecond]
      rfl
    · rw [ranSecond] at ranBoth
      rw [run_orElse_of_empty_failed ranBoth, run_orElse_of_empty_failed ranSecond]
      cases third.run state with
      | error defect => rfl
      | ok outcome =>
          exact congrArg Except.ok (Outcome.after_after outcome false false found error).symm
    · rw [ranSecond] at ranBoth
      rw [run_orElse_of_consumed ranBoth, run_orElse_of_consumed ranSecond]
      rfl
    · rw [ranSecond] at ranBoth
      rw [run_orElse_of_consumed ranBoth, run_orElse_of_consumed ranSecond]
      rfl
  · rw [run_orElse_of_consumed ran, run_orElse_of_consumed (run_orElse_of_consumed ran second)]
  · rw [run_orElse_of_consumed ran, run_orElse_of_consumed (run_orElse_of_consumed ran second)]

/-- The failure without messages is neutral in front. -/
theorem empty_orElse {parser : Parser σ υ α} (ahead : parser.ReportsAhead) :
    empty.orElse parser = parser := by
  refine Parser.ext (funext fun state => ?_)
  rw [run_orElse_of_empty_failed (run_empty state)]
  cases ran : parser.run state with
  | error defect => rfl
  | ok outcome => exact congrArg Except.ok (Outcome.after_unknown (ahead ran))

/-- The failure without messages is neutral behind. -/
theorem orElse_empty {parser : Parser σ υ α} (ahead : parser.ReportsAhead) :
    parser.orElse empty = parser := by
  refine Parser.ext (funext fun state => ?_)
  rcases ran : parser.run state with defect | ⟨_ | _, ⟨value, next, error⟩ | error⟩
  · exact run_orElse_of_error ran empty
  · exact run_orElse_of_ok ran empty
  · have covers : error.Covers state.position := fun _ => ahead ran
    rw [run_orElse_of_empty_failed ran, run_empty]
    change Except.ok (Outcome.mk false (.failed (error.merge _))) = _
    rw [ParseError.merge_unknown covers]
  · exact run_orElse_of_consumed ran empty
  · exact run_orElse_of_consumed ran empty

/-- A first choice may stand apart from the others. -/
theorem choice_cons_cons (first second : Parser σ υ α) (others : List (Parser σ υ α)) :
    choice (first :: second :: others) = first.orElse (choice (second :: others)) := by
  change (others.foldl orElse (first.orElse second)) = first.orElse (others.foldl orElse second)
  induction others generalizing second with
  | nil => rfl
  | cons third others ih =>
      rw [List.foldl_cons, orElse_orElse, ih, List.foldl_cons]

/-- A choice of two lists is a choice of their choices. -/
theorem choice_append
    {parsers others : List (Parser σ υ α)}
    (some : parsers ≠ [])
    (someOthers : others ≠ []) :
    choice (parsers ++ others) = (choice parsers).orElse (choice others) := by
  obtain ⟨second, others, rfl⟩ := List.exists_cons_of_ne_nil someOthers
  induction parsers with
  | nil => contradiction
  | cons first parsers ih =>
      cases parsers with
      | nil => exact choice_cons_cons first second others
      | cons next parsers =>
          rw [List.cons_append, List.cons_append, choice_cons_cons, choice_cons_cons,
            orElse_orElse, ← ih (List.cons_ne_nil _ _), List.cons_append]

/-- Choices form a monoid on outcomes as a whole, with tags, states and errors: they may be
regrouped, and the failure without messages is neutral where no token moves the position
backwards. Therefore lists of alternatives may be joined. -/
theorem choice_laws
    [TokenStream σ τ]
    (first second third : Parser σ υ α)
    (parsers others : List (Parser σ υ α)) :
    (first.orElse second).orElse third = first.orElse (second.orElse third) ∧
      (Composed Advancing first → empty.orElse first = first ∧ first.orElse empty = first) ∧
      ((parsers ≠ [] ∧ others ≠ []) ∨
          (∀ parser ∈ parsers ++ others, Composed Advancing parser) →
        choice (parsers ++ others) = (choice parsers).orElse (choice others)) := by
  refine ⟨orElse_orElse first second third, fun composed => ?_, fun joined => ?_⟩
  · have ahead := composed.advancing_reportsAhead
    exact ⟨empty_orElse ahead, orElse_empty ahead⟩
  · rcases joined with ⟨some, someOthers⟩ | composed
    · exact choice_append some someOthers
    · have ahead : (choice (parsers ++ others)).ReportsAhead :=
        (Composed.choice composed).advancing_reportsAhead
      rcases parsers.eq_nil_or_concat with rfl | ⟨_, _, rfl⟩
      · rw [List.nil_append] at ahead ⊢
        rw [choice_nil, empty_orElse ahead]
      · rcases others.eq_nil_or_concat with rfl | ⟨_, _, rfl⟩
        · rw [List.append_nil] at ahead ⊢
          rw [choice_nil, orElse_empty ahead]
        · exact choice_append (by simp) (by simp)

/-- Two keywords joined with no keywords at all. -/
theorem choice_laws_keywords :
    Composed Advancing (string "let" : Parser Text Unit String) ∧
      empty.orElse (string "let") = (string "let" : Parser Text Unit String) ∧
      choice ([string "let", string "in"] ++ []) =
        ((choice [string "let", string "in"]).orElse (choice []) : Parser Text Unit String) := by
  have keyword (text : String) : Composed Advancing (string text : Parser Text Unit String) :=
    string_advancing text
  have laws := choice_laws (string "let" : Parser Text Unit String) (string "in") empty
    [string "let", string "in"] []
  refine ⟨keyword _, (laws.2.1 (keyword _)).1, laws.2.2 (.inr fun parser present => ?_)⟩
  simp only [List.append_nil, List.mem_cons, List.not_mem_nil, or_false] at present
  rcases present with rfl | rfl <;> exact keyword _

/-- The failure without messages is not neutral in front of a parser if a token may move the
position backwards: it then ranks higher than what the parser reports. -/
theorem empty_not_neutral :
    ¬ ∀ parser : Parser (Tokens Char) Unit Unit,
      Composed Primitive parser → empty.orElse parser = parser := by
  intro law
  have same := congrArg
    (fun parser => (parser.run onFifthLine).toOption.map (·.reply.errorOf.position.line))
    (law recoil recoil_composed)
  exact absurd same (by decide +kernel)

end Parser
end Predictive
