import Mathlib.Algebra.BigOperators.Group.List.Basic
import Mathlib.Computability.Language
import Predictive.Proofs.CharacterReading
import Predictive.Proofs.ConsumingParsers
import Predictive.Proofs.LoopBounds
import Predictive.Proofs.SingleTokens

/-!
# The languages of separated lists

Items and separators are single tokens of two disjoint sorts. In front of the end of the input each
of the combinators for separated lists accepts the token lists of one regular language, written with
the sequences and repetitions of languages, and its values are the items of the list in their order.

The loops over an item with its separator are repetitions of a piece that takes words with one item
in each of them. The list with an optional separator at the end has a loop of its own, of which the
same is proved by induction on its rounds and on the words of its language.
-/

/-- Sets of token lists, with their sums, products and iterations. -/
abbrev TokenLanguage (τ : Type) := Language τ

namespace Predictive

open scoped Computability

variable {σ τ υ α β γ : Type}

/-- The words of a single token of a sort. -/
def single (accepts : τ → Bool) : TokenLanguage τ :=
  {word | ∃ token, accepts token = true ∧ word = [token]}

/-- The words of a language, with the items in them as their values. -/
def Lists (isItem : τ → Bool) (language : TokenLanguage τ) : Category τ (List τ) :=
  fun word values => word ∈ language ∧ word.filter isItem = values

variable {isItem isSeparator : τ → Bool} {language others : TokenLanguage τ}

/-- A single token is not the empty word. -/
theorem nil_not_mem_single : [] ∉ single isItem := by
  rintro ⟨token, -, none⟩
  contradiction

/-- A product with a language of words that are not empty has no empty word. -/
theorem nil_not_mem_mul (some : [] ∉ language) : [] ∉ language * others := by
  intro none
  obtain ⟨front, inFront, back, -, empty⟩ := Language.mem_mul.mp none
  obtain ⟨rfl, -⟩ := List.append_eq_nil_iff.mp empty
  exact some inFront

/-- Words that are not empty are not more than tokens in them. -/
theorem length_le_length_flatten
    {words : List (List τ)}
    (some : [] ∉ language)
    (each : ∀ word ∈ words, word ∈ language) :
    words.length ≤ words.flatten.length := by
  rw [List.length_flatten, ← List.length_map (f := List.length)]
  refine List.length_le_sum_of_one_le _ fun length present => ?_
  obtain ⟨word, inWords, rfl⟩ := List.mem_map.mp present
  exact List.length_pos_iff.mpr fun none => some (none ▸ each word inWords)

namespace Lists

variable {word more front values : List τ}

/-- The items of a word are listed in order. -/
theorem intro (derived : word ∈ language) : Lists isItem language word (word.filter isItem) :=
  ⟨derived, rfl⟩

theorem nil : Lists isItem (1 : TokenLanguage τ) [] [] :=
  ⟨Language.nil_mem_one, rfl⟩

/-- The items of one word behind another come behind its items. -/
theorem append
    (first : Lists isItem language word front)
    (rest : Lists isItem others more values) :
    Lists isItem (language * others) (word ++ more) (front ++ values) := by
  obtain ⟨derived, rfl⟩ := first
  obtain ⟨moreDerived, rfl⟩ := rest
  exact ⟨Language.append_mem_mul derived moreDerived, List.filter_append ..⟩

theorem inl (lists : Lists isItem language word values) :
    Lists isItem (language + others) word values :=
  ⟨(Language.mem_add ..).mpr (.inl lists.1), lists.2⟩

theorem inr (lists : Lists isItem others word values) :
    Lists isItem (language + others) word values :=
  ⟨(Language.mem_add ..).mpr (.inr lists.1), lists.2⟩

theorem kstar_nil : Lists isItem language∗ [] [] :=
  ⟨Language.nil_mem_kstar language, rfl⟩

/-- A repetition lists the items of its first word and then those of the rest. -/
theorem kstar_cons
    (first : Lists isItem language word front)
    (rest : Lists isItem language∗ more values) :
    Lists isItem language∗ (word ++ more) (front ++ values) := by
  obtain ⟨derived, values⟩ := first.append rest
  have within : language * language∗ ≤ language∗ := mul_kstar_le_kstar
  exact ⟨within derived, values⟩

/-- An iteration in front of something else goes on with one word more. -/
theorem kstar_mul_cons
    (first : Lists isItem language word front)
    (rest : Lists isItem (language∗ * others) more values) :
    Lists isItem (language∗ * others) (word ++ more) (front ++ values) := by
  obtain ⟨derived, rfl⟩ := rest
  obtain ⟨repeated, inStar, last, inOthers, rfl⟩ := Language.mem_mul.mp derived
  have joined := (first.kstar_cons (.intro inStar)).append (.intro inOthers)
  rwa [List.append_assoc, List.append_assoc, ← List.filter_append] at joined

end Lists

namespace Parser

variable [TokenStream σ τ]

/-- A parser of words of a language that are not empty. Its values tell which items are in them. -/
structure Piece
    (isItem : τ → Bool)
    (parser : Parser σ υ α)
    (listed : α → List τ)
    (language : TokenLanguage τ) : Prop where
  takes : parser.TakesOnly fun word value => Lists isItem language word (listed value)
  reads : ∀ word ∈ language, ∃ value, word.filter isItem = listed value ∧
    ∀ rest, parser.Reads View.tokens word value rest
  some : [] ∉ language
  refuses : parser.Refuses View.tokens []
  returns : parser.Returns
  sound : parser.TagsSoundly
  consumes : parser.AlwaysConsumes

/-- A parser of lists takes the words of a language, and reads them in front of the end of the
input. -/
structure ListsExactly
    (isItem : τ → Bool)
    (parser : Parser σ υ (List τ))
    (language : TokenLanguage τ) : Prop where
  takes : parser.TakesOnly (Lists isItem language)
  reads : ∀ word ∈ language, parser.Reads View.tokens word (word.filter isItem) []
  returns : parser.Returns

namespace Piece

/-- Two pieces in sequence. -/
theorem zipWith
    {first : Parser σ υ α}
    {second : Parser σ υ β}
    {firstListed : α → List τ}
    {secondListed : β → List τ}
    {listed : γ → List τ}
    (piece : Piece isItem first firstListed language)
    (other : Piece isItem second secondListed others)
    {f : α → β → γ}
    (joins : ∀ left right, listed (f left right) = firstListed left ++ secondListed right) :
    Piece isItem (first.zipWith second f) listed (language * others) where
  takes := piece.takes.zipWith other.takes fun word left more right derived rest => by
    rw [joins]
    exact derived.append rest
  reads word derived := by
    obtain ⟨front, inFront, back, inBack, rfl⟩ := Language.mem_mul.mp derived
    obtain ⟨left, leftItems, leftReads⟩ := piece.reads front inFront
    obtain ⟨right, rightItems, rightReads⟩ := other.reads back inBack
    refine ⟨f left right, ?_, fun rest => (leftReads _).zipWith (rightReads rest) f⟩
    rw [List.filter_append, leftItems, rightItems, joins]
  some := nil_not_mem_mul piece.some
  refuses := piece.refuses.zipWith f
  returns := piece.returns.zipWith other.returns f
  sound := Relates.zipWith piece.sound other.sound State.Follows.trans f
  consumes := AlwaysConsumes.zipWith piece.consumes second f

section
variable [LawfulTokenStream σ]

/-- An item is a piece of one token, with itself as its only item. -/
theorem ofItem
    {parser : Parser σ υ τ}
    (items : parser.TakesOne (Option.guard (isItem ·))) :
    Piece isItem parser (fun item => [item]) (single isItem) where
  takes := by
    intro state consumed value next error ran
    obtain ⟨_, split, token, rfl, valued⟩ := items.takesOnly ran
    obtain ⟨rfl, accepted⟩ := Option.guard_eq_some_iff.mp valued
    exact ⟨_, split, ⟨token, accepted, rfl⟩, List.filter_cons_of_pos accepted⟩
  reads := by
    rintro _ ⟨token, accepted, rfl⟩
    have valued : Option.guard (isItem ·) token = Option.some token :=
      Option.guard_eq_some_iff.mpr ⟨rfl, accepted⟩
    exact ⟨token, List.filter_cons_of_pos accepted, items.reads valued⟩
  some := nil_not_mem_single
  refuses := items.refuses_of_head (by simp)
  returns := items.returns
  sound := items.tagsSoundly
  consumes := items.alwaysConsumes

/-- A separator is a piece of one token without items. -/
theorem ofSeparator
    {separator : Parser σ υ τ}
    (separators : separator.TakesOne (Option.guard (isSeparator ·)))
    (noItem : ∀ token, isSeparator token = true → ¬ isItem token = true) :
    Piece isItem separator (fun _ => []) (single isSeparator) where
  takes := by
    intro state consumed value next error ran
    obtain ⟨_, split, token, rfl, valued⟩ := separators.takesOnly ran
    obtain ⟨rfl, accepted⟩ := Option.guard_eq_some_iff.mp valued
    exact ⟨_, split, ⟨token, accepted, rfl⟩, List.filter_cons_of_neg (noItem token accepted)⟩
  reads := by
    rintro _ ⟨token, accepted, rfl⟩
    have valued : Option.guard (isSeparator ·) token = Option.some token :=
      Option.guard_eq_some_iff.mpr ⟨rfl, accepted⟩
    exact ⟨token, List.filter_cons_of_neg (noItem token accepted), separators.reads valued⟩
  some := nil_not_mem_single
  refuses := separators.refuses_of_head (by simp)
  returns := separators.returns
  sound := separators.tagsSoundly
  consumes := separators.alwaysConsumes

end

/-! ## Repetitions of pieces -/

variable {round : Parser σ υ τ}

/-- Words that are all of the language are those of some rounds. -/
theorem rounds
    (piece : Piece isItem round (fun item => [item]) language)
    {words : List (List τ)}
    (each : ∀ word ∈ words, word ∈ language) :
    Rounds View.tokens round words.flatten (words.flatten.filter isItem) [] := by
  induction words with
  | nil => exact .nil []
  | cons word words ih =>
      have derived := each word List.mem_cons_self
      obtain ⟨value, item, reads⟩ := piece.reads word derived
      have rest := ih fun other present => each other (List.mem_cons_of_mem word present)
      rw [List.flatten_cons, List.filter_append, item]
      exact .cons (fun none => piece.some (none ▸ derived)) (reads _) rest

/-- A repetition of pieces lists what any number of them lists. -/
theorem many
    [LawfulTokenStream σ]
    (piece : Piece isItem round (fun item => [item]) language) :
    ListsExactly isItem round.many language∗ where
  takes := piece.takes.many Lists.kstar_nil fun _ _ _ _ first rest => first.kstar_cons rest
  reads word derived := by
    obtain ⟨words, rfl, each⟩ := Language.mem_kstar.mp derived
    exact (piece.rounds each).many piece.refuses View.tokens_fits
  returns := piece.returns.many piece.sound piece.consumes

/-- A piece in front of a list. -/
theorem cons
    {parser : Parser σ υ (List τ)}
    (piece : Piece isItem round (fun item => [item]) language)
    (lists : ListsExactly isItem parser others) :
    ListsExactly isItem (round.zipWith parser List.cons) (language * others) where
  takes := piece.takes.zipWith lists.takes fun _ _ _ _ first rest => first.append rest
  reads word derived := by
    obtain ⟨front, inFront, back, inBack, rfl⟩ := Language.mem_mul.mp derived
    obtain ⟨value, item, reads⟩ := piece.reads front inFront
    rw [List.filter_append, item]
    exact (reads _).zipWith (lists.reads back inBack) List.cons
  returns := piece.returns.zipWith lists.returns _

end Piece

/-- A list or nothing. -/
theorem ListsExactly.orElse_nil
    {parser : Parser σ υ (List τ)}
    (lists : ListsExactly isItem parser language)
    (refuses : parser.Refuses View.tokens []) :
    ListsExactly isItem (parser.orElse (pure [])) (1 + language) where
  takes := by
    refine .orElse ?_ (pure_takesOnly Lists.nil.inl)
    intro state consumed values next error ran
    obtain ⟨word, split, derived⟩ := lists.takes ran
    exact ⟨word, split, derived.inr⟩
  reads word derived := by
    rcases (Language.mem_add ..).mp derived with none | some
    · obtain rfl := (Language.mem_one _).mp none
      exact refuses.orElse_reads (pure_reads [])
    · exact (lists.reads word some).orElse _
  returns := lists.returns.orElse (pure_returns [])

/-! ## The loop with an optional separator at the end -/

section
variable
  {parser : Parser σ υ τ}
  {separator : Parser σ υ β}
  {marks : TokenLanguage τ}
  (items : Piece isItem parser (fun item => [item]) language)
  (separators : Piece isItem separator (fun _ => []) marks)
include items separators

/-- Whatever the loop returns behind some items, it has taken separators with items behind them, and
perhaps a last separator. -/
theorem sepEndByFrom_takes
    {rounds : Nat}
    {consumed tag : Bool}
    {found values : List τ}
    {state next : State σ υ}
    {earlier error : ParseError}
    (ran : sepEndByFrom parser separator rounds consumed found state earlier =
      .ok ⟨tag, .ok values next error⟩) :
    ∃ word more, TokenStream.toList state.input = word ++ TokenStream.toList next.input ∧
      Lists isItem ((marks * language)∗ * (1 + marks)) word more ∧
        values = found.reverse ++ more := by
  have here : Lists isItem (marks * language)∗ [] [] := Lists.kstar_nil
  induction rounds generalizing consumed found state earlier with
  | zero => simp [sepEndByFrom] at ran
  | succ rounds ih =>
      -- Behind a separator and an item the loop goes on.
      have goesOn {middle after : State σ υ} {sepTag itemTag tag' : Bool} {mark : β} {item : τ}
          {sepError itemError joined : ParseError}
          (sepRan : separator.Yields state sepTag mark middle sepError)
          (itemRan : parser.Yields middle itemTag item after itemError)
          (ran : sepEndByFrom parser separator rounds tag' (item :: found) after joined =
            .ok ⟨tag, .ok values next error⟩) :
          ∃ word more, TokenStream.toList state.input = word ++ TokenStream.toList next.input ∧
            Lists isItem ((marks * language)∗ * (1 + marks)) word more ∧
              values = found.reverse ++ more := by
        obtain ⟨front, sepSplit, sepDerived⟩ := separators.takes sepRan
        obtain ⟨back, itemSplit, itemDerived⟩ := items.takes itemRan
        obtain ⟨word, more, split, derived, rfl⟩ := ih ran
        refine ⟨(front ++ back) ++ word, item :: more, ?_,
          (sepDerived.append itemDerived).kstar_mul_cons derived, by simp⟩
        rw [sepSplit, itemSplit, split]
        simp
      unfold sepEndByFrom at ran
      split at ran
      · contradiction
      · simp at ran
      · simp only [Except.ok.injEq, Outcome.mk.injEq, Reply.ok.injEq] at ran
        obtain ⟨-, rfl, rfl, -⟩ := ran
        exact ⟨[], [], rfl, here.append Lists.nil.inl, by simp⟩
      · rename_i sepRan
        simp only at ran
        split at ran
        · contradiction
        · simp at ran
        · simp only [Except.ok.injEq, Outcome.mk.injEq, Reply.ok.injEq] at ran
          obtain ⟨-, rfl, rfl, -⟩ := ran
          obtain ⟨word, split, derived⟩ := separators.takes sepRan
          exact ⟨word, [], split, here.append derived.inr, by simp⟩
        · rename_i itemRan
          exact goesOn sepRan itemRan ran
        · rename_i itemRan
          split at ran
          · exact goesOn sepRan itemRan ran
          · contradiction

/-- The loop reads separators with items behind them, and perhaps a last separator, in front of the
end of the input. -/
theorem sepEndByFrom_reads
    {words : List (List τ)}
    {last : List τ}
    (each : ∀ word ∈ words, word ∈ marks * language)
    (ends : last ∈ 1 + marks)
    {rounds : Nat}
    (enough : words.length < rounds)
    (found : List τ)
    {state : State σ υ}
    (earlier : ParseError)
    (viewed : View.tokens state (words.flatten ++ last)) :
    ∃ next error, sepEndByFrom parser separator rounds true found state earlier =
        .ok ⟨true, .ok (found.reverse ++ (words.flatten ++ last).filter isItem) next error⟩ ∧
      View.tokens next [] := by
  induction words generalizing rounds found state earlier with
  | nil =>
      obtain ⟨rounds, rfl⟩ := Nat.exists_eq_add_one.mpr enough
      rcases (Language.mem_add ..).mp ends with none | some
      · obtain rfl := (Language.mem_one _).mp none
        obtain ⟨sepError, sepRan⟩ := separators.refuses viewed
        exact ⟨state, earlier.merge sepError, by rw [sepEndByFrom, sepRan]; simp, viewed⟩
      · obtain ⟨mark, noItems, reads⟩ := separators.reads last some
        obtain ⟨middle, sepError, sepRan, left⟩ := reads [] (by simpa using viewed)
        obtain ⟨itemError, itemRan⟩ := items.refuses left
        obtain ⟨error, stopped⟩ : ∃ error,
            sepEndByFrom parser separator (rounds + 1) true found state earlier =
              .ok ⟨true, .ok found.reverse middle error⟩ := by
          rw [sepEndByFrom, sepRan]
          simp only [itemRan]
          exact ⟨_, rfl⟩
        exact ⟨middle, error, by rw [stopped]; simp [noItems], left⟩
  | cons word words ih =>
      obtain ⟨rounds, rfl⟩ := Nat.exists_eq_add_one.mpr (Nat.zero_lt_of_lt enough)
      obtain ⟨front, inFront, back, inBack, rfl⟩ :=
        Language.mem_mul.mp (each _ List.mem_cons_self)
      obtain ⟨mark, noItems, sepReads⟩ := separators.reads front inFront
      obtain ⟨item, oneItem, itemReads⟩ := items.reads back inBack
      obtain ⟨middle, sepError, sepRan, viewedMiddle⟩ :=
        sepReads (back ++ (words.flatten ++ last)) (by simpa using viewed)
      obtain ⟨after, itemError, itemRan, viewedAfter⟩ := itemReads _ viewedMiddle
      obtain ⟨next, error, ran, left⟩ := ih
        (fun other present => each other (List.mem_cons_of_mem _ present))
        (Nat.lt_of_succ_lt_succ enough) (item :: found) itemError viewedAfter
      have consumes : (!back.isEmpty) = true := by
        cases back with
        | nil => exact absurd inBack items.some
        | cons token back => rfl
      rw [consumes] at itemRan
      refine ⟨next, error, ?_, left⟩
      rw [sepEndByFrom, sepRan]
      simp only [itemRan, ran]
      simp [noItems, oneItem]

/-- The loop over separated items returns, since each round takes a token. -/
theorem sepEndBy1_returns [LawfulTokenStream σ] : (parser.sepEndBy1 separator).Returns := by
  intro state
  have decided := (sepEndBy1_decided items.returns items.sound separators.returns separators.sound
    state).1
  refine decided.returns ?_
  rintro _ reached - ⟨after, middle, first, second, -, ⟨item, error, ran⟩, tags⟩
  obtain ⟨-, rfl⟩ := Bool.or_eq_false_iff.mp tags.symm
  exact items.consumes middle item after error ran

/-- The loop over separated items takes a list that may end in a separator. -/
theorem sepEndBy1_listsExactly [LawfulTokenStream σ] :
    ListsExactly isItem (parser.sepEndBy1 separator)
      (language * (marks * language)∗ * (1 + marks)) where
  takes := by
    intro state consumed values next error ran
    rw [Yields, sepEndBy1, run_mk] at ran
    split at ran
    · contradiction
    · simp at ran
    · rename_i itemRan
      obtain ⟨front, itemSplit, itemDerived⟩ := items.takes itemRan
      obtain ⟨word, more, split, derived, rfl⟩ := sepEndByFrom_takes items separators ran
      refine ⟨front ++ word, by rw [itemSplit, split, List.append_assoc], ?_⟩
      rw [mul_assoc]
      exact itemDerived.append derived
  reads := by
    intro word derived state viewed
    rw [mul_assoc] at derived
    obtain ⟨front, inFront, rest, inRest, rfl⟩ := Language.mem_mul.mp derived
    obtain ⟨_, inStar, last, ends, rfl⟩ := Language.mem_mul.mp inRest
    obtain ⟨words, rfl, each⟩ := Language.mem_kstar.mp inStar
    obtain ⟨item, oneItem, itemReads⟩ := items.reads front inFront
    have consumes : (!front.isEmpty) = true := by
      cases front with
      | nil => exact absurd inFront items.some
      | cons token front => rfl
    obtain ⟨start, itemError, itemRan, viewedStart⟩ :=
      itemReads (words.flatten ++ last) (by simpa using viewed)
    rw [consumes] at itemRan
    have enough : words.length < state.patience := by
      have few := length_le_length_flatten (nil_not_mem_mul separators.some) each
      have fits := View.tokens_fits viewed
      have bounded := state.size_lt_patience
      simp only [List.length_append] at fits
      omega
    obtain ⟨next, error, ran, left⟩ :=
      sepEndByFrom_reads items separators each ends enough [item] itemError viewedStart
    refine ⟨next, error, ?_, left⟩
    rw [Yields, not_isEmpty_append, consumes, sepEndBy1, run_mk, itemRan]
    simp [ran, oneItem]
  returns := sepEndBy1_returns items separators

end

/-! ## Whole inputs -/

variable [Describe τ]

/-- In front of the end of the input the parser has an outcome on every input, and it accepts the
words of a language with their items. -/
def AcceptsExactly
    (isItem : τ → Bool)
    (parser : Parser σ υ (List τ))
    (language : TokenLanguage τ) : Prop :=
  ∀ state, (∃ outcome, (parser.keepLeft endOfInput).run state = .ok outcome) ∧
    ∀ values, (∃ consumed next error,
        (parser.keepLeft endOfInput).Yields state consumed values next error) ↔
      Lists isItem language (TokenStream.toList state.input) values

variable [LawfulTokenStream σ]

/-- In front of the end of the input, a parser that lists the items of a language accepts that
language. -/
theorem ListsExactly.acceptsExactly
    {parser : Parser σ υ (List τ)}
    (lists : ListsExactly isItem parser language) :
    AcceptsExactly isItem parser language := by
  refine fun state => ⟨lists.returns.zipWith endOfInput_returns _ state, fun values => ⟨?_, ?_⟩⟩
  · rintro ⟨consumed, next, error, ran⟩
    obtain ⟨_, _, middle, _, _, _, _, listRan, endRan, rfl, -, -⟩ := zipWith_yields_iff.mp ran
    obtain ⟨word, split, derived⟩ := lists.takes listRan
    rw [toList_of_endOfInput endRan, List.append_nil] at split
    rwa [split]
  · rintro ⟨derived, rfl⟩
    have reads := (lists.reads _ derived).zipWith endOfInput_reads fun values _ => values
    have viewed : View.tokens state (TokenStream.toList state.input ++ [] ++ []) := by
      simp [View.tokens]
    obtain ⟨next, error, ran, -⟩ := reads viewed
    exact ⟨_, next, error, ran⟩

/-- Where items and separators are tokens of disjoint sorts `A` and `B`, the combinators for
separated lists accept the languages `A(BA)*`, `A(BA)*B?`, `(AB)*` and `(AB)(AB)*`, and the first
two of them or nothing. The values are the items in their order. -/
theorem separators_accept_exactly
    {parser separator : Parser σ υ τ}
    (items : parser.TakesOne (Option.guard (isItem ·)))
    (separators : separator.TakesOne (Option.guard (isSeparator ·)))
    (disjoint : ∀ token, ¬ (isItem token = true ∧ isSeparator token = true)) :
    let A := single isItem
    let B := single isSeparator
    AcceptsExactly isItem (parser.sepBy1 separator) (A * (B * A)∗) ∧
      AcceptsExactly isItem (parser.sepBy separator) (1 + A * (B * A)∗) ∧
      AcceptsExactly isItem (parser.sepEndBy1 separator) (A * (B * A)∗ * (1 + B)) ∧
      AcceptsExactly isItem (parser.sepEndBy separator) (1 + A * (B * A)∗ * (1 + B)) ∧
      AcceptsExactly isItem (parser.endBy separator) (A * B)∗ ∧
      AcceptsExactly isItem (parser.endBy1 separator) (A * B * (A * B)∗) := by
  have item := Piece.ofItem items
  have mark := Piece.ofSeparator separators fun token accepted isAlso =>
    disjoint token ⟨isAlso, accepted⟩
  have marked : Piece isItem (separator.keepRight parser) (fun item => [item])
      (single isSeparator * single isItem) := mark.zipWith item fun _ _ => rfl
  have ended : Piece isItem (parser.keepLeft separator) (fun item => [item])
      (single isItem * single isSeparator) := item.zipWith mark fun _ _ => rfl
  have separated := item.cons marked.many
  have sepEnded := sepEndBy1_listsExactly item mark
  have separatedRefuses : (parser.sepBy1 separator).Refuses View.tokens [] :=
    item.refuses.zipWith _
  have sepEndedRefuses : (parser.sepEndBy1 separator).Refuses View.tokens [] := by
    intro state viewed
    obtain ⟨error, failed⟩ := item.refuses viewed
    exact ⟨error, by rw [Fails, sepEndBy1, run_mk, failed]⟩
  exact ⟨separated.acceptsExactly, (separated.orElse_nil separatedRefuses).acceptsExactly,
    sepEnded.acceptsExactly, (sepEnded.orElse_nil sepEndedRefuses).acceptsExactly,
    ended.many.acceptsExactly, (ended.cons ended.many).acceptsExactly⟩

/-- Digits with commas, one of them behind the last digit. -/
theorem separators_accept_digits :
    let state : State Text Unit := ⟨Text.ofString "1,2,", .start "", ()⟩
    (∃ consumed next error, ((digit.sepEndBy1 (char ',')).keepLeft endOfInput).Yields state consumed
        ['1', '2'] next error) ∧
      ∃ consumed next error, ((digit.endBy (char ',')).keepLeft endOfInput).Yields state consumed
        ['1', '2'] next error := by
  have digits : (digit : Parser Text Unit Char).TakesOne (Option.guard (Char.isDigit ·)) :=
    (satisfy_takesChar _).label _
  have commas : (char ',' : Parser Text Unit Char).TakesOne (Option.guard (· == ',')) :=
    char_takesChar ','
  have accepts := separators_accept_exactly digits commas <| by
    rintro token ⟨isItem, isComma⟩
    obtain rfl := eq_of_beq isComma
    exact absurd isItem (by decide)
  have one : ['1'] ∈ single Char.isDigit := ⟨'1', by decide, rfl⟩
  have two : ['2'] ∈ single Char.isDigit := ⟨'2', by decide, rfl⟩
  have comma : [','] ∈ single (· == ',') := ⟨',', by decide, rfl⟩
  constructor
  · refine ((accepts.2.2.1 _).2 _).mpr ⟨?_, rfl⟩
    have marked := Language.append_mem_mul comma two
    have others := Language.join_mem_kstar (L := [[','] ++ ['2']])
      (List.forall_mem_singleton.mpr marked)
    exact Language.append_mem_mul (Language.append_mem_mul one others)
      ((Language.mem_add ..).mpr (.inr comma))
  · refine ((accepts.2.2.2.2.1 _).2 _).mpr ⟨?_, rfl⟩
    have each : ∀ word ∈ [['1'] ++ [','], ['2'] ++ [',']],
        word ∈ single Char.isDigit * single (· == ',') := by
      simp only [List.forall_mem_cons]
      exact ⟨Language.append_mem_mul one comma, Language.append_mem_mul two comma, by simp⟩
    exact Language.join_mem_kstar each

end Parser
end Predictive
