import Predictive.Command.Lexeme
import Predictive.Proofs.CombinatorLaws
import Predictive.Proofs.ConsumingParsers
import Predictive.Proofs.Consumption
import Predictive.Proofs.StreamAgreement

/-!
# Texts and lists of characters

A text counts bytes and a list of characters counts characters, and they move positions by
different rules: behind a tab a text is at the next tab stop, and a list in the next column. The
parsers for characters do not ask the stream for its rule, so that a parser made of them finds the
same on both, positions and errors included. A parser for any token does ask. It is confined to
tests that nothing follows, and positions may not be read in such a test.

The bytes of a text allow a recursion to go deeper than the characters of a list. This makes no
difference to a recursion that takes a token on its way, such as that of an expression through
brackets.
-/

namespace Predictive

variable {σ ς τ υ α β : Type} [TokenStream σ τ] [TokenStream ς τ]
variable {recursion : Prop} {scope : Scope}

namespace Parser

/-- Atoms that give no token back and take one if they consume. -/
def Spending ⦃α : Type⦄ (parser : Parser ς υ α) : Prop :=
  parser.Relates State.Spends

/-- The parsers run alike, and the second one gives no token back. -/
structure Simulates (recursion : Prop) (scope : Scope) ⦃α : Type⦄
    (parser : Parser σ υ α) (other : Parser ς υ α) : Prop where
  composed : Composed Spending other
  runsLike : RunsLike recursion scope parser other

namespace Simulates

/-- Parsers that simulate each other spend the same tokens. -/
theorem spends
    {parser : Parser σ υ α}
    {other : Parser ς υ α}
    (simulates : Simulates recursion scope parser other) :
    other.Relates State.Spends :=
  simulates.composed.relates State.spends_composes fun _ _ spending => spending

end Simulates
end Parser

/-! ## Single tokens and fixed texts -/

section
variable [LawfulTokenStream σ] [LawfulTokenStream ς]

/-- Streams with the same tokens are both at their end, or they have the same first token and the
same tokens behind it. -/
theorem TokenStream.uncons?_cases
    {stream : σ}
    {other : ς}
    (same : toList stream = toList other) :
    (uncons? stream = none ∧ uncons? other = none) ∨
      ∃ found rest otherRest, uncons? stream = some (found, rest) ∧
        uncons? other = some (found, otherRest) ∧ toList rest = toList otherRest := by
  cases taken : uncons? stream with
  | none =>
      refine .inl ⟨rfl, ?_⟩
      rwa [uncons?_eq_none_iff, ← same, ← uncons?_eq_none_iff]
  | some pair =>
      obtain ⟨found, rest⟩ := pair
      have view : toList other = found :: toList rest :=
        same.symm.trans (LawfulTokenStream.toList_eq_cons taken)
      obtain ⟨otherRest, otherTaken, left⟩ := uncons?_of_toList_cons view
      exact .inr ⟨found, rest, otherRest, rfl, otherTaken, left.symm⟩

namespace Parser

/-- A token runs alike on both streams if it moves the position alike. -/
theorem token_runsLike
    {next otherNext : Position → τ → Position}
    (moves : scope.Same next otherNext)
    (describe : τ → String)
    (test : τ → Option α) :
    RunsLike recursion scope
      (token describe (fun position found _ => next position found) test : Parser σ υ α)
      (token describe (fun position found _ => otherNext position found) test :
        Parser ς υ α) := by
  intro state other alike
  rcases TokenStream.uncons?_cases alike.tokens with
    ⟨taken, otherTaken⟩ | ⟨found, rest, otherRest, taken, otherTaken, left⟩
  · rw [run_token_of_end taken, run_token_of_end otherTaken]
    exact .replied false (.failed fun places => by rw [alike.position places])
  cases tested : test found with
  | none =>
      rw [run_token_of_none taken tested, run_token_of_none otherTaken tested]
      exact .replied false (.failed fun places => by rw [alike.position places])
  | some value =>
      rw [run_token_of_some taken tested, run_token_of_some otherTaken tested]
      have moved : scope.Same (next state.position found) (otherNext other.position found) :=
        fun places => by rw [moves places, alike.position places]
      have inLimit : (TokenStream.toList otherRest).length < scope.limit := by
        have view := LawfulTokenStream.toList_eq_cons otherTaken
        have below := alike.inLimit
        rw [view, List.length_cons] at below
        exact Nat.lt_of_succ_lt below
      exact .replied true (.ok value ⟨left, inLimit, alike.user, moved⟩ fun places => by
        rw [moved places])

/-- Dropping tokens stops at the same one, or leaves the same tokens. -/
theorem dropTokens_cases
    [DecidableEq τ]
    {stream : σ}
    {other : ς}
    (same : TokenStream.toList stream = TokenStream.toList other)
    (started : Bool)
    (wanted : List τ) :
    (∃ stopped, dropTokens started stream wanted = .error stopped ∧
      dropTokens started other wanted = .error stopped) ∨
      ∃ rest otherRest, dropTokens started stream wanted = .ok rest ∧
        dropTokens started other wanted = .ok otherRest ∧
        TokenStream.toList rest = TokenStream.toList otherRest := by
  induction wanted generalizing stream other started with
  | nil => exact .inr ⟨stream, other, rfl, rfl, same⟩
  | cons first wanted ih =>
      unfold dropTokens
      rcases TokenStream.uncons?_cases same with
        ⟨taken, otherTaken⟩ | ⟨found, rest, otherRest, taken, otherTaken, left⟩
      · rw [taken, otherTaken]
        exact .inl ⟨(started, none), rfl, rfl⟩
      · rw [taken, otherTaken]
        by_cases isFirst : found = first
        · simpa only [if_pos isFirst] using ih left true
        · simpa only [if_neg isFirst] using .inl ⟨(started, some found), rfl, rfl⟩

/-- Tokens in a row run alike on both streams. -/
theorem tokens_runsLike
    [DecidableEq τ]
    (describe : List τ → String)
    (next : Position → List τ → Position)
    (wanted : List τ) :
    RunsLike recursion scope (tokens describe next wanted : Parser σ υ (List τ))
      (tokens describe next wanted : Parser ς υ (List τ)) := by
  intro state other alike
  unfold tokens
  rw [run_mk, run_mk]
  rcases dropTokens_cases alike.tokens false wanted with
    ⟨⟨started, found⟩, dropped, otherDropped⟩ | ⟨rest, otherRest, dropped, otherDropped, left⟩
  · rw [dropped, otherDropped]
    exact .replied started (.failed fun places => by rw [alike.position places])
  · rw [dropped, otherDropped]
    have moved : scope.Same (next state.position wanted) (next other.position wanted) :=
      fun places => by rw [alike.position places]
    have inLimit : (TokenStream.toList otherRest).length < scope.limit := by
      have below := alike.inLimit
      rw [toList_of_dropTokens otherDropped, List.length_append] at below
      exact (Nat.le_add_left _ _).trans_lt below
    exact .replied _ (.ok wanted ⟨left, inLimit, alike.user, moved⟩ fun places => by
      rw [moved places])

/-! ## Combinators -/

namespace Simulates

omit [LawfulTokenStream ς] in
/-- The patience with a state covers the tokens to come on either stream. -/
theorem length_lt_patience
    {state : State σ υ}
    {other : State ς υ}
    (same : TokenStream.toList state.input = TokenStream.toList other.input) :
    (TokenStream.toList other.input).length < state.patience := by
  rw [← same]
  exact Parser.length_lt_patience

/-- Lists with separators run alike if their items and separators do. -/
theorem sepEndBy1
    {parser : Parser σ υ α}
    {other : Parser ς υ α}
    {separator : Parser σ υ β}
    {otherSeparator : Parser ς υ β}
    (simulates : Simulates recursion scope parser other)
    (separators : Simulates recursion scope separator otherSeparator) :
    RunsLike recursion scope (parser.sepEndBy1 separator) (other.sepEndBy1 otherSeparator) := by
  intro state otherState alike
  simp only [Parser.sepEndBy1]
  rcases simulates.runsLike.run_cases alike with ⟨allowed, otherRan⟩ | ⟨defect, ran, otherRan⟩ |
    ⟨consumed, error, otherError, ran, otherRan, same⟩ |
    ⟨consumed, item, next, otherNext, error, otherError, ran, otherRan, nextAlike, same⟩
  · rw [otherRan]
    exact .gaveUp _ allowed
  · rw [ran, otherRan]
    exact .defect defect
  · rw [ran, otherRan]
    exact .replied consumed (.failed same)
  · have kept : _ ≤ _ := simulates.spends otherRan
    have enough := length_lt_patience alike.tokens
    have otherEnough := length_lt_patience (rfl : _ = TokenStream.toList otherState.input)
    rw [ran, otherRan]
    exact sepEndByFrom_runsAlike simulates.runsLike separators.runsLike simulates.spends
      separators.spends nextAlike same (by omega) (by omega)

/-- All combinators keep simulations. -/
theorem fullCongruence :
    FullCongruence (Simulates (σ := σ) (ς := ς) (υ := υ) recursion scope) where
  pure value := ⟨.pure value, .pure value⟩
  empty := ⟨.empty, .empty⟩
  failWith kind text := ⟨.failWith kind text, .failWith kind text⟩
  map f related := ⟨.map f related.composed, related.runsLike.map f⟩
  bind related followings :=
    ⟨.bind related.composed fun value => (followings value).composed,
      related.runsLike.bind fun value => (followings value).runsLike⟩
  zipWith f firsts seconds := by
    refine ⟨.zipWith f firsts.composed seconds.composed, ?_⟩
    rw [zipWith_eq_bind, zipWith_eq_bind]
    exact firsts.runsLike.bind fun value => seconds.runsLike.map (f value)
  orElse firsts seconds :=
    ⟨.orElse firsts.composed seconds.composed, firsts.runsLike.orElse seconds.runsLike⟩
  labels names related := ⟨.labels names related.composed, related.runsLike.labels names⟩
  manyFold first combine related :=
    ⟨.manyFold first combine related.composed, fun _ _ alike =>
      manyFoldFrom_runsAlike related.runsLike related.spends alike
        (length_lt_patience alike.tokens) (length_lt_patience rfl)⟩
  attempt related := ⟨.attempt related.composed, related.runsLike.attempt⟩
  lookAhead related := ⟨.lookAhead related.composed, related.runsLike.lookAhead⟩
  notFollowedBy related :=
    ⟨.notFollowedBy related.composed, related.runsLike.notFollowedBy le_rfl id⟩
  manyTill related stops :=
    ⟨.manyTill related.composed stops.composed, fun _ _ alike =>
      manyTillFrom_runsAlike related.runsLike stops.runsLike related.spends alike
        (fun places => by rw [alike.position places])
        (length_lt_patience alike.tokens) (length_lt_patience rfl)⟩
  sepEndBy1 related separators :=
    ⟨.sepEndBy1 related.composed separators.composed, related.sepEndBy1 separators⟩

end Simulates

end Parser
end

/-! ## Characters and the state -/

namespace Parser.Simulates

variable {σ ς υ α : Type} [TokenStream σ Char] [TokenStream ς Char]
variable [LawfulTokenStream σ] [LawfulTokenStream ς]

/-- Primitive parsers spend what they consume. -/
theorem spending_of_primitive {parser : Parser ς υ α} (primitive : Primitive parser) :
    Spending parser := by
  intro state consumed value next error ran
  exact (primitive.tagsSoundly ran).spends

theorem composed_of_primitive {parser : Parser ς υ α} (composed : Composed Primitive parser) :
    Composed Spending parser :=
  composed.mono fun _ _ primitive => .atom (spending_of_primitive primitive)

theorem satisfy (predicate : Char → Bool) :
    Simulates recursion scope (Parser.satisfy predicate : Parser σ υ Char)
      (Parser.satisfy predicate : Parser ς υ Char) :=
  ⟨composed_of_primitive (.satisfy predicate), token_runsLike (fun _ => rfl) _ _⟩

theorem string (text : String) :
    Simulates recursion scope (Parser.string text : Parser σ υ String)
      (Parser.string text : Parser ς υ String) :=
  ⟨composed_of_primitive (.string text), (tokens_runsLike _ _ _).map _⟩

/-- Where the rest of the stream is not looked at, characters are tokens like any others. -/
theorem satisfyToken (limit : Nat) (predicate : Char → Bool) :
    Simulates recursion ⟨limit, False⟩ (Parser.satisfyToken predicate : Parser σ υ Char)
      (Parser.satisfyToken predicate : Parser ς υ Char) := by
  refine ⟨composed_of_primitive (.satisfyToken predicate), token_runsLike ?_ _ _⟩
  exact False.elim

/-- Comments with an opening mark run alike on both streams. -/
theorem blockComment
    {opening : String}
    (closing : String)
    (nested : Bool)
    (marked : opening ≠ "") :
    Simulates recursion scope
      (Language.blockComment opening closing nested : Parser σ υ Unit)
      (Language.blockComment opening closing nested : Parser ς υ Unit) := by
  refine ⟨composed_of_primitive (primitive_lexical.blockComment closing nested marked), ?_⟩
  have opens : Simulates recursion scope _ _ :=
    (fullCongruence (υ := υ)).attempt (string (σ := σ) (ς := ς) opening)
  have steps : Simulates recursion scope _ _ :=
    (fullCongruence (σ := σ) (ς := ς) (υ := υ)).commentStep satisfy string opening closing nested
  have progress :
      (Language.commentStep opening closing nested : Parser ς υ CommentStep).AlwaysConsumes ∨
        1 = 1 ∧ ∀ state consumed found next error,
          (Language.commentStep opening closing nested : Parser ς υ CommentStep).Yields
            state consumed found next error → found = .closed := by
    by_cases closes : closing = ""
    · subst closes
      exact .inr ⟨rfl, fun _ _ _ _ _ ran => Language.commentStep_closed ran⟩
    · exact .inl (Language.commentStep_alwaysConsumes marked closes nested)
  intro state otherState alike
  simp only [Language.blockComment, Language.commentAfter]
  rcases opens.runsLike.run_cases alike with ⟨allowed, otherRan⟩ | ⟨defect, ran, otherRan⟩ |
    ⟨consumed, error, otherError, ran, otherRan, same⟩ |
    ⟨consumed, mark, next, otherNext, error, otherError, ran, otherRan, nextAlike, same⟩
  · rw [otherRan]
    exact .gaveUp _ allowed
  · rw [ran, otherRan]
    exact .defect defect
  · rw [ran, otherRan]
    exact .replied consumed (.failed same)
  · have kept : _ ≤ _ := opens.spends otherRan
    have enough := length_lt_patience alike.tokens
    have otherEnough := length_lt_patience (rfl : _ = TokenStream.toList otherState.input)
    rw [ran, otherRan]
    exact commentFrom_runsAlike steps.runsLike steps.spends progress nextAlike same
      (by omega) (by omega)

/-- Parsers made of parsers for characters run alike on any two streams. -/
theorem lexicalCongruence :
    LexicalCongruence (Simulates (σ := σ) (ς := ς) (υ := υ) recursion scope) where
  toFullCongruence := fullCongruence
  satisfy := satisfy
  string := string
  blockComment closing nested marked := blockComment closing nested marked

end Parser.Simulates

/-! ## Parsers built in the same way -/

namespace Parser

variable {υ α : Type}

/-- A relation between parsers over texts and parsers over lists of characters, in one scope or
another, that is respected by all means to build a parser. Any token may be taken where the scope
leaves out places, and the position may be read where it includes them; `notFollowedBy` may test for
parsers that are related without places.

A recursive parser is used in some scopes, and its definition is related there for handles that are
related there. This takes for granted that recursion is allowed. Recursion behind a token always is:
the definition is related for handles that are related with a limit lower by one, and the limit is
lower by one behind a parser that always consumes. -/
structure StreamCongruence (recursion : Prop)
    (Rel : Scope → ∀ ⦃α : Type⦄, Parser Text υ α → Parser (Tokens Char) υ α → Prop) : Prop where
  lexical : ∀ scope, LexicalCongruence (Rel scope)
  defective : ∀ scope {α : Type} (defect : Defect),
    @Rel scope α (Parser.defective defect) (Parser.defective defect)
  recursive : recursion → ∀ (scopes : Scope → Prop) {α : Type}
    {define : Parser Text υ α → Parser Text υ α}
    {otherDefine : Parser (Tokens Char) υ α → Parser (Tokens Char) υ α},
    (∀ handle otherHandle, (∀ scope, scopes scope → Rel scope handle otherHandle) →
      ∀ scope, scopes scope → Rel scope (define handle) (otherDefine otherHandle)) →
    ∀ scope, scopes scope → Rel scope (Parser.recursive define) (Parser.recursive otherDefine)
  guarded : ∀ (kinds : Prop → Prop) {α : Type}
    {define : Parser Text υ α → Parser Text υ α}
    {otherDefine : Parser (Tokens Char) υ α → Parser (Tokens Char) υ α},
    (∀ limit handle otherHandle,
      (∀ places, kinds places → Rel ⟨limit, places⟩ handle otherHandle) →
      ∀ places, kinds places → Rel ⟨limit + 1, places⟩ (define handle) (otherDefine otherHandle)) →
    ∀ limit places, kinds places →
      Rel ⟨limit, places⟩ (Parser.recursive define) (Parser.recursive otherDefine)
  behind : ∀ {limit places} {α β : Type}
    {first : Parser Text υ α} {otherFirst : Parser (Tokens Char) υ α}
    {following : α → Parser Text υ β} {otherFollowing : α → Parser (Tokens Char) υ β},
    otherFirst.AlwaysConsumes → Rel ⟨limit + 1, places⟩ first otherFirst →
    (∀ value, Rel ⟨limit, places⟩ (following value) (otherFollowing value)) →
    Rel ⟨limit + 1, places⟩ (first.bind following) (otherFirst.bind otherFollowing)
  getUser : ∀ scope, Rel scope Parser.getUser Parser.getUser
  modifyUser : ∀ scope f, Rel scope (Parser.modifyUser f) (Parser.modifyUser f)
  setPosition : ∀ scope position,
    Rel scope (Parser.setPosition position) (Parser.setPosition position)
  getPosition : ∀ limit, Rel ⟨limit, True⟩ Parser.getPosition Parser.getPosition
  satisfyToken : ∀ limit predicate,
    Rel ⟨limit, False⟩ (Parser.satisfyToken predicate) (Parser.satisfyToken predicate)
  notFollowedBy {limit : Nat} {places : Prop} {α : Type} [Describe α]
    {parser : Parser Text υ α} {other : Parser (Tokens Char) υ α} :
    Rel ⟨limit, False⟩ parser other →
      Rel ⟨limit, places⟩ parser.notFollowedBy other.notFollowedBy

/-- The two parsers are built in the same way, with recursion of any kind or with recursion behind
tokens only: they are related by every relation that is respected by all means to build a
parser. -/
def BuiltAlike
    (recursion : Prop)
    (parser : Parser Text υ α)
    (other : Parser (Tokens Char) υ α) : Prop :=
  ∀ Rel : Scope → ∀ ⦃β : Type⦄, Parser Text υ β → Parser (Tokens Char) υ β → Prop,
    StreamCongruence recursion Rel → ∀ limit, Rel ⟨limit, True⟩ parser other

namespace StreamCongruence

variable {Rel : Scope → ∀ ⦃α : Type⦄, Parser Text υ α → Parser (Tokens Char) υ α → Prop}
variable (congruence : StreamCongruence recursion Rel)
include congruence

theorem anyToken (limit : Nat) : Rel ⟨limit, False⟩ Parser.anyToken Parser.anyToken :=
  congruence.satisfyToken limit _

theorem tokenEq (limit : Nat) (wanted : Char) :
    Rel ⟨limit, False⟩ (Parser.tokenEq wanted) (Parser.tokenEq wanted) :=
  (congruence.lexical _).label _ (congruence.satisfyToken limit _)

theorem endOfInput (scope : Scope) : Rel scope Parser.endOfInput Parser.endOfInput :=
  (congruence.lexical scope).label _ (congruence.notFollowedBy (congruence.anyToken scope.limit))

/-- What stands in round brackets is reached behind a token. -/
theorem parens
    {limit : Nat}
    {places : Prop}
    {language : Language Text υ}
    {otherLanguage : Language (Tokens Char) υ}
    {parser : Parser Text υ α}
    {other : Parser (Tokens Char) υ α}
    (languages : language.Related (Rel ⟨limit + 1, places⟩) otherLanguage)
    (related : Rel ⟨limit, places⟩ parser other) :
    Rel ⟨limit + 1, places⟩ (language.parens parser) (otherLanguage.parens other) := by
  have lexical := congruence.lexical ⟨limit + 1, places⟩
  have lower := congruence.lexical ⟨limit, places⟩
  have opened : Rel ⟨limit + 1, places⟩
      ((language.symbol "(").keepRight parser) ((otherLanguage.symbol "(").keepRight other) := by
    rw [keepRight, keepRight, zipWith_eq_bind, zipWith_eq_bind]
    exact congruence.behind (otherLanguage.symbol_alwaysConsumes (by decide))
      (lexical.symbol languages "(") fun _ => lower.map _ related
  exact lexical.keepLeft opened (lexical.symbol languages ")")

/-- Expressions are related if their terms reach inner expressions behind a token only. -/
theorem recursiveExpression
    {places : Prop}
    {table : OperatorTable Text υ α}
    {otherTable : OperatorTable (Tokens Char) υ α}
    {term : Parser Text υ α → Parser Text υ α}
    {otherTerm : Parser (Tokens Char) υ α → Parser (Tokens Char) υ α}
    (tables : ∀ limit, List.Forall₂ (List.Forall₂ (Operator.Related (Rel ⟨limit, places⟩)))
      table otherTable)
    (terms : ∀ limit expr otherExpr, Rel ⟨limit, places⟩ expr otherExpr →
      Rel ⟨limit + 1, places⟩ (term expr) (otherTerm otherExpr))
    (limit : Nat) :
    Rel ⟨limit, places⟩ (table.recursiveExpression term)
      (otherTable.recursiveExpression otherTerm) := by
  refine congruence.guarded (· = places) (fun limit expr otherExpr handles => ?_) limit places rfl
  rintro _ rfl
  exact (congruence.lexical _).expressionOfOperators (tables (limit + 1))
    (terms limit expr otherExpr (handles _ rfl))

end StreamCongruence

/-! ## Texts and lists of characters -/

/-- A list of characters grants a loop no more rounds than a text does. -/
theorem patience_le
    {state : State Text υ}
    {other : State (Tokens Char) υ}
    (alike : state.Alike scope other) :
    other.patience ≤ state.patience := by
  have length : (TokenStream.toList other.input).length = TokenStream.size other.input :=
    Tokens.length_toList other.input
  have bounded := TokenStream.length_toList_le_size state.input
  rw [alike.tokens, length] at bounded
  exact Nat.add_le_add_right bounded _

/-- A definition that is unrolled less deeply on the list of characters is simulated there, unless
it is given up. -/
theorem unrolled_simulates
    {scopes : Scope → Prop}
    {define : Parser Text υ α → Parser Text υ α}
    {otherDefine : Parser (Tokens Char) υ α → Parser (Tokens Char) υ α}
    (allowed : recursion)
    (definitions : ∀ handle otherHandle,
      (∀ scope, scopes scope → Simulates recursion scope handle otherHandle) →
      ∀ scope, scopes scope →
        Simulates recursion scope (define handle) (otherDefine otherHandle))
    {depth otherDepth : Nat}
    (shallower : otherDepth ≤ depth) :
    ∀ scope, scopes scope →
      Simulates recursion scope (unrolled define depth) (unrolled otherDefine otherDepth) := by
  induction otherDepth generalizing depth with
  | zero => exact fun _ _ => ⟨.defective .unbounded, fun _ _ _ => .gaveUp _ allowed⟩
  | succ otherDepth ih =>
      obtain ⟨deep, rfl⟩ := Nat.exists_eq_add_one_of_ne_zero (Nat.ne_zero_of_lt shallower)
      exact definitions _ _ (ih (Nat.le_of_succ_le_succ shallower))

section
variable
  {kinds : Prop → Prop}
  {places : Prop}
  {define : Parser Text υ α → Parser Text υ α}
  {otherDefine : Parser (Tokens Char) υ α → Parser (Tokens Char) υ α}
  (definitions : ∀ limit handle otherHandle,
    (∀ places, kinds places → Simulates recursion ⟨limit, places⟩ handle otherHandle) →
    ∀ places, kinds places →
      Simulates recursion ⟨limit + 1, places⟩ (define handle) (otherDefine otherHandle))
include definitions

/-- Unrollings of a guarded recursion are composed of parsers that spend what they consume. -/
theorem unrolled_composed_of_guarded (included : kinds places) (depth : Nat) :
    Composed Spending (unrolled otherDefine depth) := by
  induction depth with
  | zero => exact .defective .unbounded
  | succ depth ih =>
      have withoutTokens (places : Prop) :
          Simulates recursion ⟨0, places⟩ (defective .unbounded : Parser Text υ α)
            (unrolled otherDefine depth) :=
        ⟨ih, fun _ _ alike => absurd alike.inLimit (Nat.not_lt_zero _)⟩
      exact (definitions 0 _ _ (fun places _ => withoutTokens places) places included).composed

/-- A definition that reaches its handle behind a token only is simulated up to the depth to which
it is unrolled on both streams. -/
theorem unrolled_simulates_of_guarded
    {limit depth otherDepth : Nat}
    (deep : limit ≤ depth)
    (otherDeep : limit ≤ otherDepth)
    (included : kinds places) :
    Simulates recursion ⟨limit, places⟩ (unrolled define depth)
      (unrolled otherDefine otherDepth) := by
  induction limit generalizing places depth otherDepth with
  | zero =>
      exact ⟨unrolled_composed_of_guarded definitions included otherDepth,
        fun _ _ alike => absurd alike.inLimit (Nat.not_lt_zero _)⟩
  | succ limit ih =>
      obtain ⟨depth, rfl⟩ := Nat.exists_eq_add_one_of_ne_zero (Nat.ne_zero_of_lt deep)
      obtain ⟨otherDepth, rfl⟩ := Nat.exists_eq_add_one_of_ne_zero (Nat.ne_zero_of_lt otherDeep)
      exact definitions limit _ _
        (fun _ => ih (Nat.le_of_succ_le_succ deep) (Nat.le_of_succ_le_succ otherDeep))
        places included

/-- The depth that a state grants suffices for a definition that reaches its handle behind a token
only. -/
theorem recursive_simulates_of_guarded (limit : Nat) (included : kinds places) :
    Simulates recursion ⟨limit, places⟩ (recursive define) (recursive otherDefine) := by
  refine ⟨.unrolled fun depth => unrolled_composed_of_guarded definitions included depth,
    fun state other alike => ?_⟩
  have enough := Simulates.length_lt_patience alike.tokens
  have otherEnough := Simulates.length_lt_patience (rfl : _ = TokenStream.toList other.input)
  have simulates := unrolled_simulates_of_guarded definitions enough otherEnough included
  have alikeThere : state.Alike ⟨_, places⟩ other :=
    ⟨alike.tokens, Nat.lt_succ_self _, alike.user, alike.position⟩
  rw [run_recursive, run_recursive]
  refine (simulates.runsLike alikeThere).mono ?_ ?_
  · exact alike.inLimit
  · exact id

end

/-- A change of the state that leaves the input alone consumes nothing. -/
theorem modifyState_composed
    {σ τ : Type} [TokenStream σ τ]
    {f : State σ υ → State σ υ}
    (keeps : ∀ state, (f state).input = state.input) :
    Composed Spending (modifyState f) := by
  refine .atom fun state consumed value next error ran => ?_
  simp only [Yields, run_modifyState, Except.ok.injEq, Outcome.mk.injEq, Reply.ok.injEq] at ran
  obtain ⟨rfl, -, rfl, -⟩ := ran
  exact (congrArg (fun input => (TokenStream.toList input).length) (keeps state)).le

/-- Parsers of characters on texts simulate the same parsers on lists of characters. -/
theorem simulates_streamCongruence :
    StreamCongruence recursion
      (Simulates (σ := Text) (ς := Tokens Char) (υ := υ) recursion) where
  lexical _ := Simulates.lexicalCongruence
  defective _ _ defect := ⟨.defective defect, fun _ _ _ => .defect defect⟩
  recursive allowed _ _ _ _ definitions scope included :=
    ⟨.unrolled fun _ => (unrolled_simulates allowed definitions le_rfl scope included).composed,
      fun state other alike => by
        rw [run_recursive, run_recursive]
        exact (unrolled_simulates allowed definitions (patience_le alike) scope
          included).runsLike alike⟩
  guarded _ _ _ _ definitions limit _ included :=
    recursive_simulates_of_guarded definitions limit included
  behind consumes firsts followings :=
    ⟨.bind firsts.composed fun value => (followings value).composed,
      .bind_of_consumes consumes firsts.spends firsts.runsLike fun value =>
        (followings value).runsLike⟩
  getUser scope := by
    refine ⟨.map _ (modifyState_composed fun _ => rfl), fun state other alike => ?_⟩
    change RunsAlike recursion scope
      (.ok ⟨false, .ok state.user state (.unknown state.position)⟩)
      (.ok ⟨false, .ok other.user other (.unknown other.position)⟩)
    rw [← alike.user]
    exact .replied false (.ok _ alike fun places => by rw [alike.position places])
  modifyUser _ f :=
    ⟨.map _ (modifyState_composed fun _ => rfl), fun _ _ alike =>
      .replied false (.ok () ⟨alike.tokens, alike.inLimit, congrArg f alike.user, alike.position⟩
        fun places => by rw [alike.position places])⟩
  setPosition _ position :=
    ⟨.map _ (modifyState_composed fun _ => rfl), fun _ _ alike =>
      .replied false (.ok () ⟨alike.tokens, alike.inLimit, alike.user, fun _ => rfl⟩ fun _ =>
        rfl)⟩
  getPosition _ := by
    refine ⟨.map _ (modifyState_composed fun _ => rfl), fun state other alike => ?_⟩
    rw [run_getPosition, run_getPosition, ← alike.position trivial]
    exact .replied false (.ok _ alike fun _ => rfl)
  satisfyToken limit predicate := .satisfyToken limit predicate
  notFollowedBy related :=
    ⟨.notFollowedBy related.composed, related.runsLike.notFollowedBy le_rfl False.elim⟩

end Parser

/-- The state with the input to come as the list of its tokens. -/
def State.listing (state : State σ υ) : State (List τ) υ :=
  ⟨TokenStream.toList state.input, state.position, state.user⟩

/-- States that are alike list the same tokens and positions. -/
theorem State.Alike.listing_eq
    {limit : Nat}
    {state : State σ υ}
    {other : State ς υ}
    (alike : state.Alike ⟨limit, True⟩ other) :
    state.listing = other.listing := by
  rw [State.listing, State.listing, alike.tokens, alike.user, alike.position trivial]

/-- The outcome with the input to come as the list of its tokens. -/
def Outcome.listing (outcome : Outcome σ υ α) : Outcome (List τ) υ α where
  consumed := outcome.consumed
  reply :=
    match outcome.reply with
    | .ok value next error => .ok value next.listing error
    | .failed error => .failed error

/-- Runs that are alike in all places are the same up to the streams. -/
theorem RunsAlike.listing_eq
    {limit : Nat}
    {run : Except Defect (Outcome σ υ α)}
    {other : Except Defect (Outcome ς υ α)}
    (alike : RunsAlike recursion ⟨limit, True⟩ run other) :
    run.map Outcome.listing = other.map Outcome.listing ∨
      recursion ∧ other = .error .unbounded := by
  cases alike with
  | gaveUp run allowed => exact .inr ⟨allowed, rfl⟩
  | defect defect => exact .inl rfl
  | replied consumed replies =>
      cases replies with
      | ok value next same =>
          refine .inl ?_
          simp only [Except.map, Outcome.listing, next.listing_eq, same trivial]
      | failed same => exact .inl (by rw [same trivial]; rfl)

namespace Parser

variable {υ α : Type}

/-- A parser made of parsers for characters finds the same on a text and on the list of its
characters: the same tag, value, position, value of the user and errors, the same characters left,
or the same defect. With recursion that takes no token on its way, the run on the list may also be
given up as endless, at a depth beyond all its characters. -/
theorem stream_independent
    {parser : Parser Text υ α}
    {other : Parser (Tokens Char) υ α}
    (built : BuiltAlike recursion parser other)
    (source : String)
    (position : Position)
    (user : υ) :
    (parser.run ⟨Text.ofString source, position, user⟩).map Outcome.listing =
        (other.run ⟨Tokens.ofList source.toList, position, user⟩).map Outcome.listing ∨
      recursion ∧
        other.run ⟨Tokens.ofList source.toList, position, user⟩ = .error .unbounded := by
  have simulates := built _ simulates_streamCongruence (source.toList.length + 1)
  refine (simulates.runsLike ⟨?_, Nat.lt_succ_self _, rfl, fun _ => rfl⟩).listing_eq
  exact Text.toList_ofString source

/-- Sums of names, written with a bracket around each sum. -/
def sums {σ : Type} [TokenStream σ Char] : Parser σ Unit String :=
  OperatorTable.recursiveExpression
    [[.binary (Language.haskell.symbol "+")
      (fun left right => "(" ++ left ++ "+" ++ right ++ ")") .left]]
    fun sum => (Language.haskell.parens sum).orElse Language.haskell.identifier

/-- Inner sums are in brackets, so that no other kind of recursion is needed to build sums. -/
theorem sums_builtAlike : BuiltAlike False (sums : Parser Text Unit String) sums := by
  intro Rel congruence
  refine congruence.recursiveExpression (fun limit => ?_) fun limit sum other related => ?_
  · have lexical := congruence.lexical ⟨limit, True⟩
    exact .cons (.cons (.between .left (lexical.map _ (lexical.symbol lexical.haskell "+"))) .nil)
      .nil
  · have lexical := congruence.lexical ⟨limit + 1, True⟩
    exact lexical.orElse (congruence.parens lexical.haskell related)
      (lexical.identifier lexical.haskell)

/-- A tab, a comment over two lines and letters of several bytes stand between and in the names. -/
theorem stream_independent_sums :
    ∃ next error,
      sums.run ⟨Text.ofString "λ +\t(ü \x7b- é\n-\x7d + x) y", .start "", ()⟩ =
        .ok ⟨true, .ok "(λ+(ü+x))" next error⟩ ∧
      (sums.run ⟨Tokens.ofList "λ +\t(ü \x7b- é\n-\x7d + x) y".toList, .start "", ()⟩).map
        Outcome.listing = .ok ⟨true, .ok "(λ+(ü+x))" next.listing error⟩ := by
  obtain ⟨next, error, ran⟩ : ∃ next error, sums.Yields
      ⟨Text.ofString "λ +\t(ü \x7b- é\n-\x7d + x) y", .start "", ()⟩ true "(λ+(ü+x))" next error :=
    exists_yields (by decide +kernel)
  refine ⟨next, error, ran, ?_⟩
  rcases stream_independent sums_builtAlike "λ +\t(ü \x7b- é\n-\x7d + x) y" (.start "") () with
    same | ⟨none, -⟩
  · rw [← same, ran]
    rfl
  · contradiction

/-- Test that no token follows, and name the position behind it if one does. -/
def noTokenBefore {σ : Type} [TokenStream σ Char] : Parser σ Unit Unit :=
  notFollowedBy (anyToken.keepRight getPosition)

/-- A position that is read behind any token tells the streams apart, even in a test: the error
names the next tab stop on a text, and the next column on a list of characters. -/
theorem position_behind_token_depends_on_stream :
    let onText := noTokenBefore.run ⟨Text.ofString "\t", .start "t", ()⟩
    let onTokens := noTokenBefore.run ⟨Tokens.ofList "\t".toList, .start "t", ()⟩
    onText = .ok ⟨false,
        .failed (.single (.start "t") .unexpected "\"t\" (line 1, column 9)")⟩ ∧
      onTokens = .ok ⟨false,
        .failed (.single (.start "t") .unexpected "\"t\" (line 1, column 2)")⟩ ∧
      onText.map Outcome.listing ≠ onTokens.map Outcome.listing := by
  intro onText onTokens
  have textRan : onText = .ok ⟨false,
      .failed (.single (.start "t") .unexpected "\"t\" (line 1, column 9)")⟩ := by rfl
  have tokensRan : onTokens = .ok ⟨false,
      .failed (.single (.start "t") .unexpected "\"t\" (line 1, column 2)")⟩ := by rfl
  refine ⟨textRan, tokensRan, fun same => ?_⟩
  rw [textRan, tokensRan] at same
  simp [Except.map, Outcome.listing, ParseError.single] at same

end Parser

namespace Lexeme

open Predictive.Parser (LexicalCongruence BuiltAlike)

/-- The parser of lexemes is related if the languages are. -/
theorem parser_of_lexical
    {σ ς υ : Type} [TokenStream σ Char] [TokenStream ς Char]
    {Rel : ∀ ⦃α : Type⦄, Parser σ υ α → Parser ς υ α → Prop}
    {language : Language σ υ}
    {other : Language ς υ}
    (lexical : LexicalCongruence Rel)
    (related : language.Related Rel other) :
    Rel (parser language) (parser other) := by
  have words := lexical.choice (List.rel_map (fun name other same => by
      subst same
      exact lexical.map (fun _ => reserved name) (lexical.reserved related name))
    (List.forall₂_same.mpr fun name (_ : name ∈ language.reservedNames) => rfl))
  have symbols := lexical.choice (List.rel_map (fun name other same => by
      subst same
      exact lexical.map (fun _ => reservedOperator name) (lexical.reservedOperator related name))
    (List.forall₂_same.mpr fun name (_ : name ∈ language.reservedOperators) => rfl))
  unfold parser
  rw [← related.reservedNames, ← related.reservedOperators]
  exact lexical.choice (.cons (lexical.map _ (lexical.identifier related)) (.cons words
    (.cons (lexical.map _ (lexical.operator related)) (.cons symbols
    (.cons (lexical.map _ (lexical.naturalOrFloat related))
    (.cons (lexical.map _ (lexical.charLiteral related))
    (.cons (lexical.map _ (lexical.stringLiteral related))
    (.cons (lexical.map _ (lexical.lexeme related (lexical.oneOf marks))) .nil))))))))

/-- The lexemes of a Haskell source, with their positions, are read in the same way from a text
and from a list of characters. -/
theorem all_builtAlike :
    BuiltAlike False (all .haskell : Parser Text Unit (List (Position × Lexeme)))
      (all .haskell) := by
  intro Rel congruence limit
  have lexical := congruence.lexical ⟨limit, True⟩
  exact lexical.keepLeft (lexical.keepRight (lexical.whiteSpace lexical.haskell)
    (lexical.many (lexical.pair (congruence.getPosition limit)
      (parser_of_lexical lexical lexical.haskell)))) (congruence.endOfInput _)

end Lexeme
end Predictive
