import Predictive.Proofs.CombinatorLaws
import Predictive.Proofs.Consumption

/-!
# Loops and recursions

A loop collects its values, its tag and the error to report from one round to the next. A recursive
parser leaves all that to sequences and choices. The loops for separated items and for items up to
an end return what their recursive definitions return, errors included. By induction on the rounds,
a loop returns what the recursion returns at the state reached, behind the values and the error
collected so far: merging is associative, so it does not matter that the recursion merges errors
from the last round on and the loop from the first.
-/

namespace Predictive

variable {σ τ υ α β γ : Type}

namespace State
variable [TokenStream σ τ]

/-- A success with a tag takes a token at least, and one without a tag gives none back. -/
def Spends (before after : State σ υ) (consumed : Bool) : Prop :=
  (TokenStream.toList after.input).length + consumed.toNat ≤
    (TokenStream.toList before.input).length

/-- Spending on the way and behind it is spending together. -/
theorem spends_composes : Composes (Spends : State σ υ → State σ υ → Bool → Prop) where
  refl _ := le_rfl
  trans {before middle after first second} firstSpends secondSpends := by
    unfold Spends at *
    cases first <;> cases second <;> simp only [Bool.toNat_false, Bool.toNat_true, Bool.or_false,
      Bool.or_true, Bool.or_self] at * <;> omega

/-- Input that is spent leaves fewer tokens. -/
theorem Spends.length_lt {before after : State σ υ} (spends : before.Spends after true) :
    (TokenStream.toList after.input).length < (TokenStream.toList before.input).length :=
  spends

/-- Nothing is put back by what spends. -/
theorem Spends.length_le
    {before after : State σ υ}
    {consumed : Bool}
    (spends : before.Spends after consumed) :
    (TokenStream.toList after.input).length ≤ (TokenStream.toList before.input).length :=
  Nat.le_of_add_right_le spends

/-- Tags that say whether input was consumed count the tokens. -/
theorem Follows.spends
    {before after : State σ υ}
    {consumed : Bool}
    (follows : before.Follows after consumed) :
    before.Spends after consumed := by
  cases consumed with
  | false => exact (congrArg (List.length ∘ TokenStream.toList) follows.1).le
  | true => exact follows.length_lt

end State

namespace Outcome

/-- The outcome decides a choice: it is a success, or input was consumed for it. -/
def Decides (outcome : Outcome σ υ α) : Prop :=
  outcome.consumed = true ∨ outcome.reply.isOk = true

theorem Decides.map {outcome : Outcome σ υ α} (decides : outcome.Decides) (f : α → β) :
    (outcome.map f).Decides := by
  obtain ⟨tag, reply⟩ := outcome
  cases reply <;> exact decides

/-- A decided outcome stays so behind anything. -/
theorem Decides.after
    {outcome : Outcome σ υ α}
    (decides : outcome.Decides)
    (consumed : Bool)
    (error : ParseError) :
    (outcome.after consumed error).Decides := by
  obtain ⟨tag, reply⟩ := outcome
  cases tag with
  | true => exact .inl rfl
  | false =>
      cases reply with
      | ok value next found => exact .inr rfl
      | failed found => simp [Decides, Reply.isOk] at decides

theorem map_map (outcome : Outcome σ υ α) (f : α → β) (g : β → γ) :
    (outcome.map f).map g = outcome.map fun value => g (f value) := by
  obtain ⟨tag, reply⟩ := outcome
  cases reply <;> rfl

/-- Nothing in front of a list changes nothing. -/
theorem map_nil_append (outcome : Outcome σ υ (List α)) :
    (outcome.map fun rest => [].reverse ++ rest) = outcome := by
  obtain ⟨tag, reply⟩ := outcome
  cases reply <;> rfl

end Outcome

namespace Parser

/-- A choice is the first parser where that one decides. -/
theorem run_orElse_of_decides
    {first : Parser σ υ α}
    {state : State σ υ}
    {outcome : Outcome σ υ α}
    (ran : first.run state = .ok outcome)
    (decides : outcome.Decides)
    (second : Parser σ υ α) :
    (first.orElse second).run state = .ok outcome := by
  obtain ⟨tag, reply⟩ := outcome
  cases reply with
  | ok value next error => exact run_orElse_of_ok ran second
  | failed error =>
      obtain rfl : tag = true := by simpa [Outcome.Decides, Reply.isOk] using decides
      exact run_orElse_of_consumed ran second

/-- Behind a value a choice is always decided. -/
theorem decides_of_orElse_pure
    {parser : Parser σ υ α}
    {value : α}
    {state : State σ υ}
    {outcome : Outcome σ υ α}
    (ran : (parser.orElse (pure value)).run state = .ok outcome) :
    outcome.Decides := by
  rcases firstRan : parser.run state with defect | ⟨_ | _, ⟨found, next, error⟩ | error⟩
  · simp [run_orElse_of_error firstRan] at ran
  · rw [run_orElse_of_ok firstRan] at ran
    obtain rfl := Except.ok.inj ran
    exact .inr rfl
  · rw [run_orElse_of_empty_failed firstRan] at ran
    obtain rfl := Except.ok.inj ran
    exact .inr rfl
  · rw [run_orElse_of_ok firstRan] at ran
    obtain rfl := Except.ok.inj ran
    exact .inr rfl
  · rw [run_orElse_of_consumed firstRan] at ran
    obtain rfl := Except.ok.inj ran
    exact .inl rfl

/-- A failure that is not behind its start gives way to a value, which leaves its error. -/
theorem orElse_pure_yields_of_failed
    {parser : Parser σ υ α}
    {state : State σ υ}
    {error : ParseError}
    (covers : error.Covers state.position)
    (ran : parser.Fails state false error)
    (value : α) :
    (parser.orElse (pure value)).Yields state false value state error := by
  rw [Yields, run_orElse_of_empty_failed ran, run_pure]
  change Except.ok (Outcome.mk false (.ok value state (error.merge _))) = _
  rw [ParseError.merge_unknown covers]

section
variable [TokenStream σ τ] [LawfulTokenStream σ]

/-- Parsers that never move backwards spend a token where they consume. -/
theorem Advancing.spends {parser : Parser σ υ α} (advancing : Advancing parser) :
    parser.Relates State.Spends := by
  intro state consumed value next error ran
  unfold State.Spends
  cases advancing with
  | token describe test forward =>
      obtain ⟨found, rest, taken, -, rfl, rfl, -⟩ := token_yields_iff.mp ran
      simp [LawfulTokenStream.toList_eq_cons taken]
  | tokens describe wanted forward =>
      obtain ⟨rest, dropped, -, rfl, rfl, -⟩ := tokens_yields_iff.mp ran
      rw [toList_of_dropTokens dropped, List.length_append]
      cases wanted with
      | nil => simp
      | cons first wanted => simp only [List.isEmpty_cons, Bool.not_false, Bool.toNat_true,
          List.length_cons]; omega
  | modifyState sameInput samePosition =>
      simp only [Yields, run_modifyState, Except.ok.injEq, Outcome.mk.injEq, Reply.ok.injEq] at ran
      obtain ⟨rfl, -, rfl, -⟩ := ran
      simp [sameInput]

/-- Whatever is composed of them spends a token where it consumes. -/
theorem Composed.spends {parser : Parser σ υ α} (composed : Composed Advancing parser) :
    parser.Relates State.Spends :=
  composed.relates State.spends_composes fun _ _ advancing => advancing.spends

end

/-! ## Items up to an end -/

/-- Items up to where another parser succeeds, in terms of the items behind the first one. -/
def untilStop
    (parser : Parser σ υ α)
    (stop : Parser σ υ β)
    (items : Parser σ υ (List α)) :
    Parser σ υ (List α) :=
  (stop.map fun _ => []).orElse (parser.bind fun item => items.map fun rest => item :: rest)

section
variable
  {parser : Parser σ υ α}
  {stop : Parser σ υ β}
  {items : Parser σ υ (List α)}
  {state next : State σ υ}
  {stopError : ParseError}

/-- Where the stop succeeds, there are no items. -/
theorem untilStop_yields_of_stop
    {consumed : Bool}
    {last : β}
    (stopRan : stop.Yields state consumed last next stopError) :
    (untilStop parser stop items).Yields state consumed [] next stopError :=
  run_orElse_of_ok (map_yields_iff.mpr ⟨last, stopRan, rfl⟩) _

/-- Where the stop fails behind input, so does the whole. -/
theorem untilStop_fails_of_stop (stopRan : stop.Fails state true stopError) :
    (untilStop parser stop items).Fails state true stopError :=
  run_orElse_of_consumed (Fails.map stopRan _) _

/-- Where the end fails at once, the first item is tried. -/
theorem run_untilStop_of_refused
    (stopRan : stop.Fails state false stopError) :
    (untilStop parser stop items).run state =
      ((parser.bind fun item => items.map fun rest => item :: rest).run state).map
        (·.after false stopError) :=
  run_orElse_of_empty_failed (Fails.map stopRan _) _

/-- Where neither the stop nor an item succeeds, the item tells how the whole fails. -/
theorem untilStop_fails_of_item
    {consumed : Bool}
    {itemError : ParseError}
    (stopRan : stop.Fails state false stopError)
    (itemRan : parser.Fails state consumed itemError) :
    (untilStop parser stop items).Fails state consumed
      (if consumed then itemError else stopError.merge itemError) := by
  rw [Fails, run_untilStop_of_refused stopRan, run_bind_of_failed itemRan]
  cases consumed <;> rfl

/-- Where only an item succeeds, the rest comes behind it. -/
theorem run_untilStop_of_item
    {item : α}
    {itemError : ParseError}
    {inner : Outcome σ υ (List α)}
    (stopRan : stop.Fails state false stopError)
    (itemRan : parser.Yields state true item next itemError)
    (ran : items.run next = .ok inner) :
    (untilStop parser stop items).run state =
      .ok ((inner.map fun rest => item :: rest).after true itemError) := by
  rw [run_untilStop_of_refused stopRan, run_bind_of_ok itemRan, run_map, ran]
  exact congrArg Except.ok (Outcome.after_after _ true false itemError stopError)

/-- What the loop returns is what the recursion returns, behind the values and the error that the
loop has reached. -/
theorem manyTillFrom_recursion
    [TokenStream σ τ]
    (spends : parser.Relates State.Spends)
    {rounds depth : Nat}
    {consumed : Bool}
    {values : List α}
    {error : ParseError}
    {outcome : Outcome σ υ (List α)}
    (deep : (TokenStream.toList state.input).length < depth)
    (ran : manyTillFrom parser stop rounds consumed values state error = .ok outcome) :
    ∃ inner, (unrolled (untilStop parser stop) depth).run state = .ok inner ∧
      (inner.map fun rest => values.reverse ++ rest).after consumed error = outcome := by
  induction rounds generalizing depth consumed values state error with
  | zero => simp [manyTillFrom] at ran
  | succ rounds ih =>
      obtain ⟨depth, rfl⟩ : ∃ others, depth = others + 1 := ⟨depth - 1, by omega⟩
      rw [unrolled_succ]
      unfold manyTillFrom at ran
      split at ran
      · contradiction
      · rename_i stopRan
        obtain rfl := Except.ok.inj ran
        exact ⟨_, untilStop_yields_of_stop stopRan, by simp⟩
      · rename_i stopRan
        obtain rfl := Except.ok.inj ran
        exact ⟨_, untilStop_fails_of_stop stopRan, rfl⟩
      · rename_i stopRan
        obtain rfl := Except.ok.inj ran
        exact ⟨_, untilStop_yields_of_stop stopRan, by simp⟩
      · rename_i stopRan
        split at ran
        · contradiction
        · rename_i item next itemError itemRan
          have fewer := spends itemRan
          simp only [State.Spends, Bool.toNat_true] at fewer
          have deepNext : (TokenStream.toList next.input).length < depth := by omega
          obtain ⟨inner, innerRan, rfl⟩ := ih deepNext ran
          refine ⟨_, run_untilStop_of_item stopRan itemRan innerRan, ?_⟩
          rw [Outcome.map_after, Outcome.after_after, Outcome.map_map]
          simp
        · rename_i itemRan
          obtain rfl := Except.ok.inj ran
          exact ⟨_, untilStop_fails_of_item stopRan itemRan, rfl⟩
        · contradiction
        · rename_i itemRan
          obtain rfl := Except.ok.inj ran
          refine ⟨_, untilStop_fails_of_item stopRan itemRan, ?_⟩
          simp [ParseError.merge_merge]

end

/-! ## Separated items -/

/-- What may stand behind an item: a separator, and perhaps more items behind that. -/
def afterItem
    (separator : Parser σ υ β)
    (item : α)
    (items : Parser σ υ (List α)) :
    Parser σ υ (List α) :=
  ((separator.keepRight (items.orElse (pure []))).map fun rest => item :: rest).orElse
    (pure [item])

/-- Separated items with perhaps a separator after the last, in terms of the items behind the
first separator. -/
def separatedItems
    (parser : Parser σ υ α)
    (separator : Parser σ υ β)
    (items : Parser σ υ (List α)) :
    Parser σ υ (List α) :=
  parser.bind fun item => afterItem separator item items

section
variable
  {parser : Parser σ υ α}
  {separator : Parser σ υ β}
  {items : Parser σ υ (List α)}
  {state next : State σ υ}
  {consumed : Bool}
  {item : α}
  {sepError : ParseError}

/-- Behind an item, a separator that fails behind input makes the whole fail. -/
theorem afterItem_fails_of_separator (sepRan : separator.Fails state true sepError) :
    (afterItem separator item items).Fails state true sepError :=
  run_orElse_of_consumed (Fails.map (run_zipWith_of_failed sepRan _ _) _) _

/-- Without a separator there is one item. -/
theorem afterItem_yields_of_refused
    (covers : sepError.Covers state.position)
    (sepRan : separator.Fails state false sepError) :
    (afterItem separator item items).Yields state false [item] state sepError :=
  orElse_pure_yields_of_failed covers (Fails.map (run_zipWith_of_failed sepRan _ _) _) _

/-- Behind a separator come the other items, or nothing. -/
theorem run_afterItem_of_separator
    {mark : β}
    {inner : Outcome σ υ (List α)}
    (sepRan : separator.Yields state consumed mark next sepError)
    (ran : (items.orElse (pure [])).run next = .ok inner) :
    (afterItem separator item items).run state =
      .ok ((inner.map fun rest => item :: rest).after consumed sepError) := by
  have mapped : ((separator.keepRight (items.orElse (pure []))).map
      fun rest => item :: rest).run state =
        .ok ((inner.map fun rest => item :: rest).after consumed sepError) := by
    rw [run_map, keepRight, run_zipWith_of_ok sepRan, ran]
    simp only [Except.map, Outcome.map_after, Outcome.map_map]
  have decides : inner.Decides := decides_of_orElse_pure ran
  exact run_orElse_of_decides mapped ((decides.map _).after _ _) _

/-- A further item decides, and what stands behind it is left to the recursion. -/
theorem run_separatedItems_of_item
    {itemError : ParseError}
    {inner : Outcome σ υ (List α)}
    (itemRan : parser.Yields state consumed item next itemError)
    (ran : (afterItem separator item items).run next = .ok inner) :
    ((separatedItems parser separator items).orElse (pure [])).run state =
      .ok (inner.after consumed itemError) := by
  have joined : (separatedItems parser separator items).run state =
      .ok (inner.after consumed itemError) := by
    rw [separatedItems, run_bind_of_ok itemRan, ran]
    rfl
  exact run_orElse_of_decides joined ((decides_of_orElse_pure ran).after _ _) _

/-- What the loop returns is what the recursion returns behind the last item, behind the items and
the error that the loop has reached. -/
theorem sepEndByFrom_recursion
    [TokenStream σ τ]
    (spends : parser.Relates State.Spends)
    (sepSpends : separator.Relates State.Spends)
    (ahead : parser.ReportsAhead)
    (sepAhead : separator.ReportsAhead)
    {rounds depth : Nat}
    {earlier : List α}
    {error : ParseError}
    {outcome : Outcome σ υ (List α)}
    (deep : (TokenStream.toList state.input).length < depth)
    (ran : sepEndByFrom parser separator rounds consumed (item :: earlier) state error =
      .ok outcome) :
    ∃ inner,
      (afterItem separator item (unrolled (separatedItems parser separator) depth)).run state =
          .ok inner ∧
        (inner.map fun rest => earlier.reverse ++ rest).after consumed error = outcome := by
  induction rounds generalizing depth consumed item earlier state error with
  | zero => simp [sepEndByFrom] at ran
  | succ rounds ih =>
      obtain ⟨depth, rfl⟩ : ∃ others, depth = others + 1 := ⟨depth - 1, by omega⟩
      rw [unrolled_succ]
      unfold sepEndByFrom at ran
      split at ran
      · contradiction
      · rename_i sepError sepRan
        obtain rfl := Except.ok.inj ran
        exact ⟨_, afterItem_fails_of_separator sepRan, rfl⟩
      · rename_i sepError sepRan
        obtain rfl := Except.ok.inj ran
        exact ⟨_, afterItem_yields_of_refused (fun _ => sepAhead sepRan) sepRan, by simp⟩
      · rename_i sepConsumed mark afterSep sepError sepRan
        have fewer := sepSpends sepRan
        simp only [State.Spends] at fewer
        simp only at ran
        split at ran
        · contradiction
        · rename_i itemError itemRan
          obtain rfl := Except.ok.inj ran
          have refused : (separatedItems parser separator
              (unrolled (separatedItems parser separator) depth)).Fails afterSep true itemError :=
            run_bind_of_failed itemRan _
          exact ⟨_, run_afterItem_of_separator sepRan (run_orElse_of_consumed refused _), rfl⟩
        · rename_i itemError itemRan
          obtain rfl := Except.ok.inj ran
          have refused : (separatedItems parser separator
              (unrolled (separatedItems parser separator) depth)).Fails afterSep false itemError :=
            run_bind_of_failed itemRan _
          have covers : itemError.Covers afterSep.position := fun _ => ahead itemRan
          refine ⟨_, run_afterItem_of_separator sepRan
            (orElse_pure_yields_of_failed covers refused _), ?_⟩
          cases sepConsumed <;> simp [ParseError.merge_merge]
        · rename_i further next itemError itemRan
          have fewerStill := spends itemRan
          simp only [State.Spends, Bool.toNat_true] at fewerStill
          have deepNext : (TokenStream.toList next.input).length < depth := by omega
          obtain ⟨inner, innerRan, rfl⟩ := ih deepNext ran
          refine ⟨_, run_afterItem_of_separator sepRan
            (run_separatedItems_of_item itemRan innerRan), ?_⟩
          simp [Outcome.map_after, Outcome.after_after, Outcome.map_map]
        · rename_i further next itemError itemRan
          have fewerStill := spends itemRan
          simp only [State.Spends, Bool.toNat_false] at fewerStill
          split at ran
          · rename_i isSeparated
            subst isSeparated
            simp only [Bool.toNat_true] at fewer
            have deepNext : (TokenStream.toList next.input).length < depth := by omega
            obtain ⟨inner, innerRan, rfl⟩ := ih deepNext ran
            refine ⟨_, run_afterItem_of_separator sepRan
              (run_separatedItems_of_item itemRan innerRan), ?_⟩
            simp [Outcome.map_after, Outcome.after_after, Outcome.map_map]
          · contradiction

end

/-! ## Loops return what their recursions return -/

section
variable [TokenStream σ τ]

/-- The nesting granted to a recursion is more than one for each token to come. -/
theorem length_succ_lt_patience [LawfulTokenStream σ] (state : State σ υ) :
    (TokenStream.toList state.input).length + 1 < state.patience := by
  have bounded := TokenStream.length_toList_le_size state.input
  have ample : 1 < Nat.pow 2 40 := by decide
  unfold State.patience
  omega

/-- A repetition is patient enough for all tokens. -/
theorem length_lt_patience [LawfulTokenStream σ] {state : State σ υ} :
    (TokenStream.toList state.input).length < state.patience :=
  Nat.lt_of_succ_lt (length_succ_lt_patience state)

/-- The loop over separated items does what the recursion over them does. -/
theorem sepEndBy1_recursion
    [LawfulTokenStream σ]
    {parser : Parser σ υ α}
    {separator : Parser σ υ β}
    (composed : Composed Advancing parser)
    (separators : Composed Advancing separator)
    {state : State σ υ}
    {outcome : Outcome σ υ (List α)}
    (ran : (parser.sepEndBy1 separator).run state = .ok outcome) :
    (recursive (separatedItems parser separator)).run state = .ok outcome := by
  have ample := length_succ_lt_patience state
  obtain ⟨depth, deep⟩ : ∃ depth, state.patience = depth + 1 := ⟨state.patience - 1, by omega⟩
  rw [run_recursive, deep, unrolled_succ, separatedItems]
  unfold sepEndBy1 at ran
  simp only at ran
  split at ran
  · contradiction
  · rename_i firstRan
    rw [run_bind_of_failed firstRan]
    exact ran
  · rename_i next error firstRan
    have fewer := composed.spends firstRan
    simp only [State.Spends] at fewer
    have deepNext : (TokenStream.toList next.input).length < depth := by omega
    obtain ⟨inner, innerRan, rfl⟩ := sepEndByFrom_recursion composed.spends separators.spends
      composed.advancing_reportsAhead separators.advancing_reportsAhead deepNext ran
    rw [run_bind_of_ok firstRan, innerRan, Outcome.map_nil_append]
    rfl

/-- The loop up to a stop does what the recursion up to it does. -/
theorem manyTill_recursion
    [LawfulTokenStream σ]
    {parser : Parser σ υ α}
    {stop : Parser σ υ β}
    (composed : Composed Advancing parser)
    (stops : Composed Advancing stop)
    {state : State σ υ}
    {outcome : Outcome σ υ (List α)}
    (ran : (parser.manyTill stop).run state = .ok outcome) :
    (recursive (untilStop parser stop)).run state = .ok outcome := by
  obtain ⟨inner, innerRan, rfl⟩ :=
    manyTillFrom_recursion composed.spends length_lt_patience ran
  rw [← run_recursive] at innerRan
  -- The loop starts with an error without messages, of which the recursion knows nothing.
  have recursion : Composed Advancing (recursive (untilStop parser stop)) := by
    refine .recursive fun handle isComposed => ?_
    exact (stops.map _).orElse (composed.bind fun _ => isComposed.map _)
  have ahead : inner.reply.Ahead state.position :=
    recursion.advancing_reportsAhead innerRan
  rw [innerRan, Outcome.map_nil_append, Outcome.after_unknown ahead]

/-- The loops for separated items and for items up to an end return what their recursive
definitions return, with tags, values, states and errors, wherever they have an outcome at all and
no token moves the position backwards. -/
theorem loops_are_recursions
    [LawfulTokenStream σ]
    {parser : Parser σ υ α}
    {separator : Parser σ υ β}
    {stop : Parser σ υ γ}
    (composed : Composed Advancing parser)
    (separators : Composed Advancing separator)
    (stops : Composed Advancing stop)
    (state : State σ υ)
    (outcome : Outcome σ υ (List α)) :
    ((parser.sepEndBy1 separator).run state = .ok outcome →
        (recursive (separatedItems parser separator)).run state = .ok outcome) ∧
      ((parser.manyTill stop).run state = .ok outcome →
        (recursive (untilStop parser stop)).run state = .ok outcome) :=
  ⟨sepEndBy1_recursion composed separators, manyTill_recursion composed stops⟩

end

/-- Digits with semicolons between them and behind the last, and digits up to a point. -/
theorem loops_are_recursions_digits :
    Composed Advancing (digit : Parser Text Unit Char) ∧
      (∃ next error,
        (digit.sepEndBy1 (char ';')).Yields
            (⟨Text.ofString "1;2;x", .start "", ()⟩ : State Text Unit) true ['1', '2'] next error ∧
          (recursive (separatedItems digit (char ';'))).Yields
            ⟨Text.ofString "1;2;x", .start "", ()⟩ true ['1', '2'] next error) ∧
      ∃ next error,
        (digit.manyTill (char '.')).Yields
            (⟨Text.ofString "12.", .start "", ()⟩ : State Text Unit) true ['1', '2'] next error ∧
          (recursive (untilStop digit (char '.'))).Yields
            ⟨Text.ofString "12.", .start "", ()⟩ true ['1', '2'] next error := by
  have loops := loops_are_recursions (σ := Text) (υ := Unit) digit_advancing (char_advancing ';')
    (char_advancing '.')
  refine ⟨digit_advancing, ?_, ?_⟩
  · obtain ⟨next, error, ran⟩ : ∃ next error, (digit.sepEndBy1 (char ';')).Yields
        (⟨Text.ofString "1;2;x", .start "", ()⟩ : State Text Unit) true ['1', '2'] next error :=
      exists_yields (by decide +kernel)
    exact ⟨next, error, ran, (loops _ _).1 ran⟩
  · obtain ⟨next, error, ran⟩ : ∃ next error, (digit.manyTill (char '.')).Yields
        (⟨Text.ofString "12.", .start "", ()⟩ : State Text Unit) true ['1', '2'] next error :=
      exists_yields (by decide +kernel)
    exact ⟨next, error, ran, (loops _ _).2 ran⟩

/-- Where a token may move the position backwards, a loop and its recursion may report different
errors: one of them has merged an error behind the start with the error without messages at the
start, and the other has not. -/
theorem loops_ne_recursions :
    (¬ ∀ (parser : Parser (Tokens Char) Unit (List Unit))
        (separator : Parser (Tokens Char) Unit Unit),
        Composed Primitive parser → Composed Primitive separator →
          ∀ state outcome, (parser.sepEndBy1 separator).run state = .ok outcome →
            (recursive (separatedItems parser separator)).run state = .ok outcome) ∧
      ¬ ∀ (parser : Parser (Tokens Char) Unit Char)
        (stop : Parser (Tokens Char) Unit (List Unit)),
        Composed Primitive parser → Composed Primitive stop →
          ∀ state outcome, (parser.manyTill stop).run state = .ok outcome →
            (recursive (untilStop parser stop)).run state = .ok outcome := by
  constructor
  · intro law
    have ran : (recoil.many.sepEndBy1 recoil).run onFifthLine =
        .ok ⟨false, .ok [[]] onFifthLine (.unknown (.clamped "" 1 1))⟩ := rfl
    have same := congrArg (fun ran => ran.toOption.map (·.reply.errorOf.position.line))
      (law recoil.many recoil recoil_composed.many recoil_composed _ _ ran)
    exact absurd same (by decide +kernel)
  · intro law
    have ran : (anyToken.manyTill recoil.many).run onFifthLine =
        .ok ⟨false, .ok [] onFifthLine (.unknown (.clamped "" 5 1))⟩ := rfl
    have same := congrArg (fun ran => ran.toOption.map (·.reply.errorOf.position.line))
      (law anyToken recoil.many (.satisfyToken _) recoil_composed.many _ _ ran)
    exact absurd same (by decide +kernel)

end Parser
end Predictive
