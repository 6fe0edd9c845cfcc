import Mathlib.Data.Prod.Lex
import Predictive.ParseError.Basic

/-!
# Merging errors

Positions are in a linear order, and errors have a rank: an error without messages ranks below
every error with messages, and apart from that the later position ranks higher. The merge of two
errors is the one of higher rank, or both in one if their ranks are equal. So merging is
associative, and an error without messages leaves no trace in an error that ranks as high.
-/

namespace Predictive

namespace Position

/-- Comparing positions is comparing lines, then columns, then names. -/
instance : Std.TransOrd Position :=
  inferInstanceAs (Std.TransCmp
    (compareLex (compareOn line) (compareLex (compareOn column) (compareOn name))))

/-- Positions that compare equal are equal. -/
theorem eq_of_compare {first second : Position} (same : compare first second = .eq) :
    first = second := by
  change (compare first.line second.line).then
    ((compare first.column second.column).then (compare first.name second.name)) = .eq at same
  simp only [Ordering.then_eq_eq] at same
  obtain ⟨sameLine, sameColumn, sameName⟩ := same
  obtain ⟨name, line, column⟩ := first
  obtain ⟨otherName, otherLine, otherColumn⟩ := second
  obtain rfl : line = otherLine := Std.LawfulEqOrd.eq_of_compare sameLine
  obtain rfl : column = otherColumn := Std.LawfulEqOrd.eq_of_compare sameColumn
  obtain rfl : name = otherName := Std.LawfulEqOrd.eq_of_compare sameName
  rfl

/-- Positions are linearly ordered as they compare. -/
instance : LinearOrder Position where
  toOrd := inferInstance
  le first second := (compare first second).isLE
  lt first second := compare first second = .lt
  le_refl position := by simp [Std.ReflCmp.compare_self]
  le_trans _ _ _ := Std.TransCmp.isLE_trans
  lt_iff_le_not_ge first second := by
    rw [show compare second first = (compare first second).swap from Std.OrientedCmp.eq_swap]
    cases compare first second <;> simp
  le_antisymm first second below above := by
    rw [show compare second first = (compare first second).swap from Std.OrientedCmp.eq_swap]
      at above
    refine eq_of_compare ?_
    cases ordered : compare first second <;> simp_all
  le_total first second := by
    rw [show compare second first = (compare first second).swap from Std.OrientedCmp.eq_swap]
    cases compare first second <;> simp
  toDecidableLE first second := inferInstanceAs (Decidable ((compare first second).isLE = true))
  toDecidableLT first second := inferInstanceAs (Decidable (compare first second = .lt))
  toDecidableEq := inferInstance
  compare_eq_compareOfLessAndEq first second := by
    unfold compareOfLessAndEq
    split
    · assumption
    · rename_i notBelow
      split
      · rename_i same
        subst same
        exact Std.ReflCmp.compare_self
      · rename_i different
        cases ordered : compare first second with
        | lt => exact absurd ordered notBelow
        | eq => exact absurd (eq_of_compare ordered) different
        | gt => rfl

theorem lt_of_line_lt {first second : Position} (lower : first.line < second.line) :
    first < second := by
  change (compare first.line second.line).then _ = .lt
  rw [Nat.compare_eq_lt.mpr lower]
  rfl

theorem lt_of_column_lt
    {first second : Position}
    (sameLine : first.line = second.line)
    (lower : first.column < second.column) :
    first < second := by
  change (compare first.line second.line).then ((compare first.column second.column).then _) = .lt
  rw [Nat.compare_eq_eq.mpr sameLine, Nat.compare_eq_lt.mpr lower]
  rfl

/-- Every character moves the position forward. -/
theorem lt_afterChar (position : Position) (c : Char) : position < position.afterChar c := by
  unfold afterChar
  split
  · exact lt_of_line_lt (Nat.lt_succ_self _)
  · have one := position.one_le_column
    split
    · refine lt_of_column_lt rfl ?_
      simp only [nextTabStop, tabWidth]
      omega
    · exact lt_of_column_lt rfl (Nat.lt_succ_self _)

/-- Characters never move a position backwards. -/
theorem le_afterChars (position : Position) (chars : List Char) :
    position ≤ position.afterChars chars := by
  induction chars generalizing position with
  | nil => exact le_rfl
  | cons c chars ih => exact (position.lt_afterChar c).le.trans (ih _)

end Position

namespace ParseError

/-! ## Added messages -/

/-- A message that is added is there, and nothing else is new. -/
theorem mem_messages_addMessage {error : ParseError} {message other : Message} :
    other ∈ (error.addMessage message).messages ↔ other ∈ error.messages ∨ other = message := by
  unfold addMessage
  split
  · rename_i present
    constructor
    · exact .inl
    · rintro (inside | rfl)
      · exact inside
      · exact present
  · simp

/-- Messages that are added are there, and nothing else is new. -/
theorem mem_messages_addMessages {error : ParseError} {messages : List Message} {other : Message} :
    other ∈ (error.addMessages messages).messages ↔
      other ∈ error.messages ∨ other ∈ messages := by
  induction messages generalizing error with
  | nil => simp
  | cons message messages ih =>
      rw [addMessages_cons, ih, mem_messages_addMessage, List.mem_cons, or_assoc]

/-- A message that is there already is not added. -/
theorem addMessage_of_mem {error : ParseError} {message : Message}
    (present : message ∈ error.messages) :
    error.addMessage message = error := by
  unfold addMessage
  rw [if_pos present]

theorem addMessages_append (error : ParseError) (front back : List Message) :
    error.addMessages (front ++ back) = (error.addMessages front).addMessages back := by
  simp [addMessages]

/-- Adding a message first or last makes no difference. -/
theorem addMessages_addMessage (error second : ParseError) (message : Message) :
    error.addMessages (second.addMessage message).messages =
      (error.addMessages second.messages).addMessage message := by
  by_cases present : message ∈ second.messages
  · rw [addMessage_of_mem present,
      addMessage_of_mem (mem_messages_addMessages.mpr (.inr present))]
  · rw [show (second.addMessage message).messages = second.messages ++ [message] by
      simp [addMessage, present], addMessages_append]
    rfl

/-- It does not matter which of two errors takes the messages of a third one first. -/
theorem addMessages_addMessages (error second : ParseError) (messages : List Message) :
    error.addMessages (second.addMessages messages).messages =
      (error.addMessages second.messages).addMessages messages := by
  induction messages generalizing second with
  | nil => rfl
  | cons message messages ih =>
      rw [addMessages_cons, ih, addMessages_addMessage, addMessages_cons]

/-- An error says something if it did before or something is added. -/
theorem isUnknown_addMessages (error : ParseError) (messages : List Message) :
    (error.addMessages messages).isUnknown = (error.isUnknown && messages.isEmpty) := by
  rw [Bool.eq_iff_iff]
  simp only [isUnknown, List.isEmpty_iff, Bool.and_eq_true, List.eq_nil_iff_forall_not_mem,
    mem_messages_addMessages, not_or, forall_and]

/-! ## Ranks -/

/-- How much an error counts against others: first whether it says something, then how far it
is. -/
def rank (error : ParseError) : Bool ×ₗ Position :=
  toLex (!error.isUnknown, error.position)

/-- Errors that say something come behind all that do not, and further errors behind nearer ones. -/
theorem rank_le_iff {first second : ParseError} :
    first.rank ≤ second.rank ↔
      (first.isUnknown = true ∧ second.isUnknown = false) ∨
        (first.isUnknown = second.isUnknown ∧ first.position ≤ second.position) := by
  unfold rank
  rw [Prod.Lex.toLex_le_toLex]
  cases first.isUnknown <;> cases second.isUnknown <;> simp

theorem rank_lt_iff {first second : ParseError} :
    first.rank < second.rank ↔
      (first.isUnknown = true ∧ second.isUnknown = false) ∨
        (first.isUnknown = second.isUnknown ∧ first.position < second.position) := by
  unfold rank
  rw [Prod.Lex.toLex_lt_toLex]
  cases first.isUnknown <;> cases second.isUnknown <;> simp

theorem rank_eq_iff {first second : ParseError} :
    first.rank = second.rank ↔
      first.isUnknown = second.isUnknown ∧ first.position = second.position := by
  simp [rank]

/-- The error of higher rank is kept alone. -/
theorem merge_of_rank_lt {first second : ParseError} (lower : first.rank < second.rank) :
    first.merge second = second := by
  unfold merge
  rcases rank_lt_iff.mp lower with ⟨unknown, known⟩ | ⟨alike, earlier⟩
  · simp [unknown, known]
  · simp [alike, compare_lt_iff_lt.mpr earlier]

theorem merge_of_lt_rank {first second : ParseError} (higher : second.rank < first.rank) :
    first.merge second = first := by
  unfold merge
  rcases rank_lt_iff.mp higher with ⟨unknown, known⟩ | ⟨alike, later⟩
  · simp [unknown, known]
  · simp [alike, compare_gt_iff_gt.mpr later]

/-- Errors of the same rank are kept together. -/
theorem merge_of_rank_eq {first second : ParseError} (same : first.rank = second.rank) :
    first.merge second = first.addMessages second.messages := by
  obtain ⟨alike, place⟩ := rank_eq_iff.mp same
  unfold merge
  simp [alike, compare_eq_iff_eq.mpr place]

/-- Messages of an error of the same rank leave the rank as it is. -/
theorem rank_addMessages {first second : ParseError} (same : first.rank = second.rank) :
    (first.addMessages second.messages).rank = first.rank := by
  obtain ⟨alike, -⟩ := rank_eq_iff.mp same
  rw [rank_eq_iff, isUnknown_addMessages, position_addMessages]
  change (first.isUnknown && second.isUnknown) = first.isUnknown ∧ _
  simp [← alike]

/-- A merge ranks as high as the higher of its parts. -/
theorem rank_merge (first second : ParseError) :
    (first.merge second).rank = max first.rank second.rank := by
  rcases lt_trichotomy first.rank second.rank with lower | same | higher
  · rw [merge_of_rank_lt lower, max_eq_right lower.le]
  · rw [merge_of_rank_eq same, rank_addMessages same, same, max_self]
  · rw [merge_of_lt_rank higher, max_eq_left higher.le]

/-- Errors may be merged in any grouping. -/
theorem merge_merge (first second third : ParseError) :
    (first.merge second).merge third = first.merge (second.merge third) := by
  rcases lt_trichotomy first.rank second.rank with lower | same | higher
  · have lowerMerge : first.rank < (second.merge third).rank := by
      rw [rank_merge]
      exact lower.trans_le (le_max_left _ _)
    rw [merge_of_rank_lt lower, merge_of_rank_lt lowerMerge]
  · have alike : (first.merge second).rank = second.rank := by
      rw [rank_merge, same, max_self]
    rcases lt_trichotomy second.rank third.rank with lower | level | higher
    · rw [merge_of_rank_lt lower, merge_of_rank_lt (alike.trans_lt lower),
        merge_of_rank_lt (same.trans_lt lower)]
    · have firstLevel : first.rank = (second.merge third).rank := by
        rw [rank_merge, ← level, max_self, same]
      rw [merge_of_rank_eq (alike.trans level), merge_of_rank_eq firstLevel,
        merge_of_rank_eq same, merge_of_rank_eq level, addMessages_addMessages]
    · rw [merge_of_lt_rank higher, merge_of_lt_rank (higher.trans_eq alike.symm)]
  · rw [merge_of_lt_rank higher]
    rcases lt_or_ge second.rank third.rank with lower | above
    · rw [merge_of_rank_lt lower]
    · have higherMerge : (second.merge third).rank < first.rank := by
        rw [rank_merge, max_eq_left above]
        exact higher
      rw [merge_of_lt_rank (above.trans_lt higher), merge_of_lt_rank higherMerge]

/-! ## Laws of merging -/

/-- Messages that are all there already are not added. -/
theorem addMessages_of_subset
    {error : ParseError}
    {messages : List Message}
    (present : messages ⊆ error.messages) :
    error.addMessages messages = error := by
  induction messages with
  | nil => rfl
  | cons message messages ih =>
      obtain ⟨here, others⟩ := List.cons_subset.mp present
      rw [addMessages_cons, addMessage_of_mem here, ih others]

/-- An error has nothing to add to itself. -/
theorem merge_self (error : ParseError) : error.merge error = error := by
  rw [merge_of_rank_eq rfl, addMessages_of_subset (List.Subset.refl _)]

/-- A merge is where the part of higher rank is. -/
theorem position_merge (first second : ParseError) :
    (first.merge second).position =
      if first.rank ≤ second.rank then second.position else first.position := by
  rcases lt_trichotomy first.rank second.rank with lower | same | higher
  · rw [merge_of_rank_lt lower, if_pos lower.le]
  · rw [merge_of_rank_eq same, position_addMessages, if_pos same.le, (rank_eq_iff.mp same).2]
  · rw [merge_of_lt_rank higher, if_neg higher.not_ge]

/-- A part contributes its messages to a merge unless the other part ranks higher. -/
theorem mem_messages_merge {first second : ParseError} {message : Message} :
    message ∈ (first.merge second).messages ↔
      (second.rank ≤ first.rank ∧ message ∈ first.messages) ∨
        (first.rank ≤ second.rank ∧ message ∈ second.messages) := by
  rcases lt_trichotomy first.rank second.rank with lower | same | higher
  · simp [merge_of_rank_lt lower, lower.not_ge, lower.le]
  · simp [merge_of_rank_eq same, mem_messages_addMessages, same]
  · simp [merge_of_lt_rank higher, higher.not_ge, higher.le]

/-- Merging is associative and idempotent, and its order matters for the order of the messages
only. The merge is where the part of higher rank is, so an error without messages never displaces
one with messages, wherever they are. -/
theorem merge_laws (first second third : ParseError) :
    (first.merge second).merge third = first.merge (second.merge third) ∧
      first.merge first = first ∧
      (first.merge second).position = (second.merge first).position ∧
      (∀ message,
        message ∈ (first.merge second).messages ↔ message ∈ (second.merge first).messages) ∧
      (first.merge second).position =
        (if first.rank ≤ second.rank then second.position else first.position) ∧
      (first.isUnknown = false → second.isUnknown = true →
        first.merge second = first ∧ second.merge first = first) := by
  refine ⟨merge_merge first second third, merge_self first, ?_, fun message => ?_,
    position_merge first second, fun known unknown => ?_⟩
  · have alike : (first.merge second).rank = (second.merge first).rank := by
      rw [rank_merge, rank_merge, max_comm]
    exact (rank_eq_iff.mp alike).2
  · rw [mem_messages_merge, mem_messages_merge, or_comm]
  · have higher : second.rank < first.rank := rank_lt_iff.mpr (.inl ⟨unknown, known⟩)
    exact ⟨merge_of_lt_rank higher, merge_of_rank_lt higher⟩

/-- A message at the first line stays when it meets an error without messages at the ninth. -/
theorem merge_laws_unknown_later :
    (single (.clamped "" 1 1) .generic "boom").merge (unknown (.clamped "" 9 1)) =
        single (.clamped "" 1 1) .generic "boom" ∧
      (unknown (.clamped "" 9 1)).merge (single (.clamped "" 1 1) .generic "boom") =
        single (.clamped "" 1 1) .generic "boom" :=
  (merge_laws (single (.clamped "" 1 1) .generic "boom") (unknown (.clamped "" 9 1))
    (unknown (.clamped "" 9 1))).2.2.2.2.2 rfl rfl

/-! ## Errors without messages -/

/-- An error is not behind a position unless it says something. -/
def Covers (error : ParseError) (position : Position) : Prop :=
  error.isUnknown = true → position ≤ error.position

/-- An error covers a position if its rank is that of nothing at the position or higher. -/
theorem covers_iff_rank_le {error : ParseError} {position : Position} :
    error.Covers position ↔ (unknown position).rank ≤ error.rank := by
  rw [rank_le_iff, isUnknown_unknown]
  unfold Covers
  cases error.isUnknown <;> simp [unknown]

/-- An error without messages in front of an error that covers its position leaves no trace. -/
theorem unknown_merge {error : ParseError} {position : Position} (covers : error.Covers position) :
    (unknown position).merge error = error := by
  rcases (covers_iff_rank_le.mp covers).lt_or_eq with lower | same
  · exact merge_of_rank_lt lower
  · obtain ⟨alike, place⟩ := rank_eq_iff.mp same
    obtain ⟨errorPosition, messages⟩ := error
    obtain rfl : position = errorPosition := place
    obtain rfl : messages = [] := List.isEmpty_iff.mp alike.symm
    exact merge_of_rank_eq rfl

/-- An error without messages behind an error that covers its position leaves no trace. -/
theorem merge_unknown {error : ParseError} {position : Position} (covers : error.Covers position) :
    error.merge (unknown position) = error := by
  rcases (covers_iff_rank_le.mp covers).lt_or_eq with lower | same
  · exact merge_of_lt_rank lower
  · exact merge_of_rank_eq same.symm

/-- A merge covers what its second part covers. -/
theorem Covers.merge
    {second : ParseError}
    {position : Position}
    (covers : second.Covers position)
    (first : ParseError) :
    (first.merge second).Covers position := by
  rw [covers_iff_rank_le, rank_merge]
  exact (covers_iff_rank_le.mp covers).trans (le_max_right _ _)

/-- A merge is not behind a position that both of its parts are not behind. -/
theorem le_position_merge
    {first second : ParseError}
    {position : Position}
    (firstAhead : position ≤ first.position)
    (secondAhead : position ≤ second.position) :
    position ≤ (first.merge second).position := by
  rw [position_merge]
  split
  · exact secondAhead
  · exact firstAhead

end ParseError
end Predictive
