import Mathlib.Data.List.Induction
import Predictive.Proofs.ErrorOperations

/-!
# Merged errors are written like both together

The written form of some messages depends on their first occurrences only: on the first texts that
were unexpected, and on the labels and the generic texts as they first occur. So it makes no
difference that a merge leaves out messages that are there already, also where the wording puts
several labels in the same words or in none: a merged error is written like the messages of both
errors in a row.
-/

namespace Predictive

/-! ## Functions that see first occurrences only -/

/-- The function does not see a text that occurred before. -/
def Absorbs {β : Type} (f : List String → β) : Prop :=
  ∀ ⦃front : List String⦄ ⦃text : String⦄, text ∈ front →
    ∀ back, f (front ++ text :: back) = f (front ++ back)

/-- The first text stays the first behind any that are added. -/
theorem absorbs_head? : Absorbs (List.head? : List String → Option String) := by
  intro front text present back
  obtain ⟨first, others, rfl⟩ := List.exists_cons_of_ne_nil (List.ne_nil_of_mem present)
  rfl

theorem absorbs_find? (predicate : String → Bool) : Absorbs (List.find? predicate) := by
  intro front text present back
  rw [List.find?_append, List.find?_append]
  cases found : front.find? predicate with
  | some first => rfl
  | none =>
      have refused : ¬ predicate text = true := List.find?_eq_none.mp found text present
      rw [List.find?_cons_of_neg refused]

/-- Changing all texts changes those that were added as well. -/
theorem Absorbs.map {β : Type} {f : List String → β} (absorbs : Absorbs f) (g : String → String) :
    Absorbs fun texts => f (texts.map g) := by
  intro front text present back
  simp only [List.map_append, List.map_cons]
  exact absorbs (List.mem_map_of_mem present) _

/-- A step of `distinctTexts`: a text is kept unless it is empty or kept already. -/
theorem distinctTexts_append_singleton (texts : List String) (text : String) :
    distinctTexts (texts ++ [text]) =
      if text = "" ∨ text ∈ distinctTexts texts then distinctTexts texts
      else distinctTexts texts ++ [text] := by
  simp [distinctTexts]

/-- The distinct texts are those that are not empty, each once, as they first occur. -/
theorem firstOccurrences_distinctTexts (texts : List String) :
    FirstOccurrences (texts.filter (· ≠ "")) (distinctTexts texts) := by
  induction texts using List.reverseRecOn with
  | nil => exact .nil
  | append_singleton texts text ih =>
      rw [distinctTexts_append_singleton, List.filter_append]
      by_cases hidden : text = ""
      · simpa [hidden] using ih
      · rw [List.filter_singleton, show decide (text ≠ "") = true by simpa using hidden, cond_true]
        by_cases present : text ∈ distinctTexts texts
        · rw [if_pos (.inr present)]
          exact ih.snoc_of_mem present
        · rw [if_neg (by simp [hidden, present])]
          exact ih.snoc_of_not_mem present

/-- A text that is there already does not count again. -/
theorem absorbs_distinctTexts : Absorbs distinctTexts := by
  intro front text present back
  induction back using List.reverseRecOn with
  | nil =>
      rw [distinctTexts_append_singleton, List.append_nil, if_pos]
      by_cases hidden : text = ""
      · exact .inl hidden
      · exact .inr ((firstOccurrences_distinctTexts front).mem_iff.mpr (by simp [present, hidden]))
  | append_singleton back last ih =>
      rw [← List.cons_append, ← List.append_assoc, ← List.append_assoc,
        distinctTexts_append_singleton, distinctTexts_append_singleton, ih]

namespace ParseError

variable {wording : Wording} {front : List Message} {message : Message}

/-- What sees first occurrences only does not see a message that occurred before. -/
theorem absorbs_textsOf
    {β : Type}
    {f : List String → β}
    (absorbs : Absorbs f)
    (kind : MessageKind)
    (present : message ∈ front)
    (back : List Message) :
    f (textsOf kind (front ++ message :: back)) = f (textsOf kind (front ++ back)) := by
  rw [textsOf_append, textsOf_append]
  by_cases same : message.kind = kind
  · have shown : message.text ∈ textsOf kind front := mem_textsOf_iff.mpr (same ▸ present)
    rw [show textsOf kind (message :: back) = message.text :: textsOf kind back by
      simp [textsOf, same]]
    exact absorbs shown _
  · rw [show textsOf kind (message :: back) = textsOf kind back by simp [textsOf, same]]

/-- A message that is there already does not change what was unexpected. -/
theorem unexpectedText_of_mem (present : message ∈ front) (back : List Message) :
    unexpectedText wording (front ++ message :: back) =
      unexpectedText wording (front ++ back) := by
  unfold unexpectedText
  rw [absorbs_textsOf (absorbs_find? _) .unexpected present,
    absorbs_textsOf absorbs_head? .sysUnexpected present]

/-- A message that occurred before does not show in the lines. -/
theorem messageLines_of_mem (present : message ∈ front) (back : List Message) :
    messageLines wording (front ++ message :: back) = messageLines wording (front ++ back) := by
  have some : front ++ back ≠ [] := by
    simp [List.ne_nil_of_mem present]
  unfold messageLines
  rw [unexpectedText_of_mem present,
    absorbs_textsOf (absorbs_distinctTexts.map wording) .expected present,
    absorbs_textsOf absorbs_distinctTexts .generic present]
  simp [some]

/-- The messages that are added to an error show as if they all came behind its own. -/
theorem messageLines_addMessages (error : ParseError) (messages : List Message) :
    messageLines wording (error.addMessages messages).messages =
      messageLines wording (error.messages ++ messages) := by
  induction messages generalizing error with
  | nil => simp
  | cons message messages ih =>
      rw [addMessages_cons, ih]
      by_cases present : message ∈ error.messages
      · rw [addMessage_of_mem present, messageLines_of_mem present]
      · simp [addMessage, present]

/-! ## What the lines say -/

/-- The line on what was unexpected: the first text that is not empty among those that a grammar
reported, or else the first one that the engine found, where an empty text is the end of input. -/
inductive UnexpectedLine (wording : Wording) (messages : List Message) : List String → Prop
  | reported {earlier later : List String} {text : String} :
      textsOf .unexpected messages = earlier ++ text :: later →
      (∀ hidden ∈ earlier, hidden = "") → text ≠ "" →
        UnexpectedLine wording messages [wording "unexpected" ++ " " ++ text]
  | found {later : List String} {text : String} :
      (∀ hidden ∈ textsOf .unexpected messages, hidden = "") →
      textsOf .sysUnexpected messages = text :: later → text ≠ "" →
        UnexpectedLine wording messages [wording "unexpected" ++ " " ++ text]
  | endOfInput {later : List String} :
      (∀ hidden ∈ textsOf .unexpected messages, hidden = "") →
      textsOf .sysUnexpected messages = "" :: later →
        UnexpectedLine wording messages [wording "unexpected" ++ " " ++ wording "end of input"]
  | nothing :
      (∀ hidden ∈ textsOf .unexpected messages, hidden = "") →
      textsOf .sysUnexpected messages = [] →
        UnexpectedLine wording messages []

/-- Alternatives as they are written: one by itself, and several with commas between them and a
word before the last. -/
inductive Alternatives (word : String) : List String → String → Prop
  | one (only : String) : Alternatives word [only] only
  | several {others : List String} (last : String) : others ≠ [] →
      Alternatives word (others ++ [last])
        (", ".intercalate others ++ " " ++ word ++ " " ++ last)

/-- The line on what was expected: the labels in their wording as far as that is not empty, each
once, as they first occur. -/
inductive ExpectedLine (wording : Wording) (messages : List Message) : List String → Prop
  | labels {labels : List String} {written : String} :
      FirstOccurrences (((textsOf .expected messages).map wording).filter (· ≠ "")) labels →
      Alternatives (wording "or") labels written →
        ExpectedLine wording messages [wording "expecting" ++ " " ++ written]
  | nothing :
      (∀ label ∈ textsOf .expected messages, wording label = "") →
        ExpectedLine wording messages []

/-- The lines that some messages are written in: what was unexpected, what was expected, and the
generic texts that are not empty, each once, as they first occur. -/
def Written (wording : Wording) (messages : List Message) (lines : List String) : Prop :=
  ∃ unexpected expected generic, lines = unexpected ++ expected ++ generic ∧
    UnexpectedLine wording messages unexpected ∧
    ExpectedLine wording messages expected ∧
    FirstOccurrences ((textsOf .generic messages).filter (· ≠ "")) generic

/-- Alternatives are joined by commas and a word in front of the last one. -/
theorem alternatives_joinAlternatives {word : String} {texts : List String} (some : texts ≠ []) :
    Alternatives word texts (joinAlternatives word texts) := by
  induction texts using List.reverseRecOn with
  | nil => contradiction
  | append_singleton others last _ =>
      unfold joinAlternatives
      rw [List.reverse_append, List.reverse_singleton, List.singleton_append]
      cases turned : others.reverse with
      | nil =>
          obtain rfl := List.reverse_eq_nil_iff.mp turned
          exact .one last
      | cons next before =>
          have inOrder : (next :: before).reverse = others := by rw [← turned, List.reverse_reverse]
          simp only [inOrder]
          refine .several last fun none => ?_
          simp [none] at turned

/-- What was unexpected makes one line at most. -/
theorem unexpectedLine_unexpectedText (wording : Wording) (messages : List Message) :
    UnexpectedLine wording messages ((unexpectedText wording messages).map fun text =>
      wording "unexpected" ++ " " ++ text).toList := by
  unfold unexpectedText
  cases found : (textsOf .unexpected messages).find? (· ≠ "") with
  | some text =>
      obtain ⟨shows, earlier, later, split, hidden⟩ := List.find?_eq_some_iff_append.mp found
      exact .reported split (by simpa using hidden) (by simpa using shows)
  | none =>
      have hidden : ∀ text ∈ textsOf .unexpected messages, text = "" := by
        simpa using List.find?_eq_none.mp found
      cases others : textsOf .sysUnexpected messages with
      | nil => exact .nothing hidden others
      | cons text later =>
          by_cases atEnd : text = ""
          · subst atEnd
            exact .endOfInput hidden others
          · simpa [atEnd] using UnexpectedLine.found hidden others atEnd

/-- The lines of some messages are as they should be written. -/
theorem written_messageLines {messages : List Message} (some : messages ≠ []) :
    Written wording messages (messageLines wording messages) := by
  unfold messageLines
  rw [if_neg (by simpa using some)]
  refine ⟨_, _, _, rfl, unexpectedLine_unexpectedText wording messages, ?_,
    firstOccurrences_distinctTexts _⟩
  have labels := firstOccurrences_distinctTexts ((textsOf .expected messages).map wording)
  split
  · rename_i empty
    refine .nothing fun label present => by_contra fun visible => ?_
    have shown := labels.mem_iff.mpr
      (List.mem_filter.mpr ⟨List.mem_map_of_mem present, decide_eq_true visible⟩)
    rw [List.isEmpty_iff.mp empty] at shown
    exact List.not_mem_nil shown
  · rename_i shown
    exact .labels labels (alternatives_joinAlternatives (by simpa using shown))

/-- The merge of two errors with messages at one position has the messages of both, and is written
in every wording as if those of the second simply came behind those of the first: one line for
what was unexpected, reported in either error or else found, one for all labels of both, and one
for each generic text. -/
theorem merge_written
    {first second : ParseError}
    (place : first.position = second.position)
    (firstKnown : first.isUnknown = false)
    (secondKnown : second.isUnknown = false)
    (wording : Wording) :
    (∀ message, message ∈ (first.merge second).messages ↔
        message ∈ first.messages ++ second.messages) ∧
      (first.merge second).renderIn wording =
        renderIn wording ⟨first.position, first.messages ++ second.messages⟩ ∧
      ∃ lines, Written wording (first.messages ++ second.messages) lines ∧
        (first.merge second).renderIn wording =
          "\n".intercalate ((first.position.render ++ ":") :: lines) := by
  have level : first.rank = second.rank :=
    rank_eq_iff.mpr ⟨firstKnown.trans secondKnown.symm, place⟩
  have some : first.messages ++ second.messages ≠ [] := by
    intro none
    simp [isUnknown, (List.append_eq_nil_iff.mp none).1] at firstKnown
  have written : (first.merge second).renderIn wording =
      renderIn wording ⟨first.position, first.messages ++ second.messages⟩ := by
    rw [merge_of_rank_eq level, renderIn, renderIn, position_addMessages, messageLines_addMessages]
  refine ⟨fun message => ?_, written, _, written_messageLines some, written⟩
  rw [merge_of_rank_eq level, mem_messages_addMessages, List.mem_append]

/-- Two labels that the wording puts in the same words, a hidden one, and a reported text in front
of which another error found the end of input. -/
theorem merge_written_shared :
    let wording := Wording.ofEntries [("digit", "chiffre"), ("number", "chiffre"), ("or", "ou")]
    let first : ParseError := ⟨.clamped "" 1 3,
      [⟨.sysUnexpected, ""⟩, ⟨.expected, "digit"⟩, ⟨.expected, ""⟩]⟩
    let second : ParseError := ⟨.clamped "" 1 3,
      [⟨.unexpected, "let"⟩, ⟨.expected, "digit"⟩, ⟨.expected, "number"⟩, ⟨.expected, "sign"⟩]⟩
    (first.merge second).renderIn wording =
      "(line 1, column 3):\nunexpected let\nexpecting chiffre ou sign" := by
  intro wording first second
  have place : first.position = second.position := rfl
  have firstKnown : first.isUnknown = false := rfl
  have secondKnown : second.isUnknown = false := rfl
  obtain ⟨-, both, -⟩ := merge_written place firstKnown secondKnown wording
  rw [both]
  decide +kernel

end ParseError
end Predictive
