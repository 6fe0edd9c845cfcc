import Predictive.Proofs.Primitives
import Predictive.Proofs.StateRelations

/-!
# Positions keep up with texts

A text advances by moving its cursor, and a position advances by the characters that were taken.
Where every token and every sequence of tokens moves the position as its characters do, the two
stay in step through all combinators, backtracking and look-ahead included: the position after a
success is the one before it, moved by the text between the two cursors.
-/

namespace Predictive

namespace Text

/-- A text was taken in front of the cursor, and the cursor moved behind it. -/
def Takes (before : Text) (taken : String) (after : Text) : Prop :=
  ∃ (cursor : before.source.Pos) (order : before.cursor ≤ cursor),
    after = ⟨before.source, cursor⟩ ∧
      (before.source.slice before.cursor cursor order).copy = taken

theorem Takes.refl (text : Text) : text.Takes "" text :=
  ⟨text.cursor, String.Pos.le_refl _, rfl, String.copy_slice_self⟩

/-- What is taken from a text is taken behind what was taken before. -/
theorem Takes.trans
    {before middle after : Text}
    {first second : String}
    (firstTaken : before.Takes first middle)
    (secondTaken : middle.Takes second after) :
    before.Takes (first ++ second) after := by
  obtain ⟨source, start⟩ := before
  obtain ⟨cursor, order, rfl, shown⟩ := firstTaken
  obtain ⟨last, lastOrder, rfl, lastShown⟩ := secondTaken
  obtain ⟨front, back, startSplits, cursorSplits⟩ :=
    String.copy_slice_eq_iff_splits.mp ⟨order, shown⟩
  obtain ⟨lastFront, lastBack, cursorSplitsAgain, lastSplits⟩ :=
    String.copy_slice_eq_iff_splits.mp ⟨lastOrder, lastShown⟩
  obtain ⟨rfl, rfl⟩ := cursorSplits.eq cursorSplitsAgain
  rw [← String.append_assoc] at startSplits
  rw [String.append_assoc] at lastSplits
  obtain ⟨whole, wholeShown⟩ := String.copy_slice_eq_iff_splits.mpr
    ⟨front, lastBack, startSplits, lastSplits⟩
  exact ⟨last, whole, rfl, wholeShown⟩

/-- Taking the first character takes the text of that character. -/
theorem takes_of_uncons?
    {before after : Text}
    {c : Char}
    (taken : TokenStream.uncons? before = some (c, after)) :
    before.Takes (String.singleton c) after := by
  change before.uncons? = _ at taken
  unfold uncons? at taken
  split at taken
  · contradiction
  · rename_i inside
    simp only [Option.some.injEq, Prod.mk.injEq] at taken
    obtain ⟨rfl, rfl⟩ := taken
    exact ⟨_, String.Pos.le_next, rfl, String.copy_slice_next⟩

/-- Dropping characters that are all there takes the text of them. -/
theorem takes_of_dropTokens
    {before after : Text}
    {wanted : List Char}
    {started : Bool}
    (dropped : Parser.dropTokens started before wanted = .ok after) :
    before.Takes (String.ofList wanted) after := by
  induction wanted generalizing before started with
  | nil =>
      obtain rfl := Except.ok.inj dropped
      exact .refl before
  | cons c wanted ih =>
      unfold Parser.dropTokens at dropped
      split at dropped
      · contradiction
      · rename_i found rest taken
        split at dropped
        · rename_i same
          subst same
          have step := (takes_of_uncons? taken).trans (ih dropped)
          simpa [← String.ofList_cons] using step
        · contradiction

end Text

namespace State

variable {υ : Type}

/-- The cursor moved over a text, and the position moved as the characters of that text do. -/
def Advances (before after : State Text υ) (_consumed : Bool) : Prop :=
  ∃ taken, before.input.Takes taken after.input ∧
    after.position = before.position.afterString taken

/-- Steps over texts make one step over both. -/
theorem advances_composes :
    Composes (Advances : State Text υ → State Text υ → Bool → Prop) where
  refl state := ⟨"", .refl state.input, rfl⟩
  trans := by
    rintro before middle after - - ⟨first, firstTaken, moved⟩ ⟨second, secondTaken, lastMoved⟩
    refine ⟨first ++ second, firstTaken.trans secondTaken, ?_⟩
    rw [lastMoved, moved, Position.afterString, Position.afterString, Position.afterString,
      String.toList_append, Position.afterChars_append]

end State

namespace Parser

variable {υ α : Type}

/-- The primitive parsers over texts that move the position by the characters they take. -/
inductive Tracking : ∀ ⦃α : Type⦄, Parser Text υ α → Prop
  | token {α : Type}
      (describe : Char → String)
      (test : Char → Option α) :
      Tracking (Parser.token describe (fun position c _ => position.afterChar c) test)
  | tokens
      (describe : List Char → String)
      (wanted : List Char) :
      Tracking (Parser.tokens describe Position.afterChars wanted)
  | modifyState {f : State Text υ → State Text υ} :
      (∀ state, (f state).input = state.input) →
      (∀ state, (f state).position = state.position) →
        Tracking (Parser.modifyState f)

/-- Tracking parsers move the position over the characters that they take. -/
theorem Tracking.advances {parser : Parser Text υ α} (tracking : Tracking parser) :
    parser.Relates State.Advances := by
  intro state consumed value next error ran
  cases tracking with
  | token describe test =>
      obtain ⟨c, rest, taken, -, rfl, rfl, -⟩ := token_yields_iff.mp ran
      exact ⟨String.singleton c, Text.takes_of_uncons? taken, by simp [Position.afterString]⟩
  | tokens describe wanted =>
      obtain ⟨rest, dropped, -, rfl, rfl, -⟩ := tokens_yields_iff.mp ran
      exact ⟨String.ofList wanted, Text.takes_of_dropTokens dropped,
        by simp [Position.afterString]⟩
  | modifyState sameInput samePosition =>
      simp only [Yields, run_modifyState, Except.ok.injEq, Outcome.mk.injEq, Reply.ok.injEq] at ran
      obtain ⟨rfl, -, rfl, -⟩ := ran
      refine ⟨"", ?_, samePosition state⟩
      rw [sameInput state]
      exact .refl state.input

/-! ## What is composed of tracking parsers -/

/-- The parsers of the lexer keep track of the position if those of the language do. -/
theorem tracking_lexical : LexicalCongruence (Composed.Both (Tracking (υ := υ))) :=
  Composed.lexicalCongruence (fun _ => .atom (.token _ _)) fun _ => .map _ (.atom (.tokens _ _))

theorem satisfyToken_tracking (predicate : Char → Bool) :
    Composed Tracking (satisfyToken predicate : Parser Text υ Char) :=
  .atom (.token _ _)

theorem tokenEq_tracking (wanted : Char) :
    Composed Tracking (tokenEq wanted : Parser Text υ Char) :=
  .label _ (satisfyToken_tracking _)

theorem endOfInput_tracking :
    Composed Tracking (endOfInput : Parser Text υ Unit) :=
  .label _ (.notFollowedBy (satisfyToken_tracking _))

/-- After a success the cursor stands behind the text that was taken, and the position is the one
before, moved by exactly that text. -/
theorem position_coherent
    {parser : Parser Text υ α}
    (composed : Composed Tracking parser)
    {state next : State Text υ}
    {consumed : Bool}
    {value : α}
    {error : ParseError}
    (ran : parser.run state = .ok ⟨consumed, .ok value next error⟩) :
    ∃ (cursor : state.input.source.Pos) (order : state.input.cursor ≤ cursor),
      next.input = ⟨state.input.source, cursor⟩ ∧
      next.position = state.position.afterString
        (state.input.source.slice state.input.cursor cursor order).copy := by
  obtain ⟨taken, ⟨cursor, order, sameSource, rfl⟩, moved⟩ :=
    composed.relates State.advances_composes (fun _ _ tracking => tracking.advances) ran
  exact ⟨cursor, order, sameSource, moved⟩

/-- A name in brackets, with comments in between. -/
def bracketed : Parser Text Unit String :=
  Language.java.parens Language.java.identifier

/-- The parser of the example is composed of tracking ones. -/
theorem bracketed_composed : Composed Tracking bracketed :=
  tracking_lexical.parens tracking_lexical.java
    (tracking_lexical.identifier tracking_lexical.java)

/-- A tab, a comment over two lines and a letter of two bytes are taken into account. -/
theorem position_coherent_bracketed :
    let state : State Text Unit := ⟨Text.ofString "(\tß /* é\n*/ ) x", .clamped "" 7 3, ()⟩
    ∃ next error,
      bracketed.run state = .ok ⟨true, .ok "ß" next error⟩ ∧
      ∃ (cursor : state.input.source.Pos) (order : state.input.cursor ≤ cursor),
        next.input = ⟨state.input.source, cursor⟩ ∧
        next.position = state.position.afterString
          (state.input.source.slice state.input.cursor cursor order).copy := by
  intro state
  obtain ⟨next, error, ran⟩ : ∃ next error, bracketed.Yields state true "ß" next error :=
    exists_yields (by decide +kernel)
  exact ⟨next, error, ran, position_coherent bracketed_composed ran⟩

end Parser
end Predictive
