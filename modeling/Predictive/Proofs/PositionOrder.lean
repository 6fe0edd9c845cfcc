import Mathlib.Data.List.DropRight
import Predictive.Proofs.ErrorMerging

/-!
# Positions order the prefixes of a text

Every newline of a text adds one to the line, and behind the last of them the column starts
anew. Since every character moves the position forward, the position after a prefix of a text
grows with the prefix, as its length does: of two errors in one text the one at the later
position is the one that has more of the text in front of it.
-/

namespace Predictive
namespace Position

/-! ## Lines and columns -/

theorem line_afterChar (position : Position) (c : Char) :
    (position.afterChar c).line = position.line + [c].count '\n' := by
  by_cases newline : c = '\n'
  · subst newline
    rfl
  · rw [List.count_singleton, if_neg (by simpa using newline)]
    unfold afterChar
    rw [if_neg newline]
    split <;> rfl

/-- A text adds as many lines as it has newlines. -/
theorem line_afterChars (position : Position) (chars : List Char) :
    (position.afterChars chars).line = position.line + chars.count '\n' := by
  induction chars generalizing position with
  | nil => rfl
  | cons c chars ih =>
      rw [afterChars_cons, ih, line_afterChar, Nat.add_assoc, ← List.count_append,
        List.singleton_append]

/-- A character moves from equal columns to equal columns. -/
theorem column_afterChar_congr
    {first second : Position}
    (same : first.column = second.column)
    (c : Char) :
    (first.afterChar c).column = (second.afterChar c).column := by
  unfold afterChar
  split
  · rfl
  · split
    · simp only [nextTabStop, same]
    · simp only [nextColumn, same]

/-- The column after a text with a newline is the one that the text behind its last newline leads
to from the first column. -/
theorem column_afterChars_of_newline
    {other : Position}
    {chars : List Char}
    (first : other.column = 1)
    (broken : '\n' ∈ chars)
    (position : Position) :
    (position.afterChars chars).column =
      (other.afterChars (chars.rtakeWhile (· ≠ '\n'))).column := by
  -- From the end: the last character decides whether the last line has begun before it.
  induction chars using List.reverseRecOn with
  | nil => simp at broken
  | append_singleton chars c ih =>
      rw [afterChars_append, List.rtakeWhile_concat]
      by_cases newline : c = '\n'
      · subst newline
        simp [nextLine, first]
      · have earlier : '\n' ∈ chars := by simpa [Ne.symm newline] using broken
        rw [if_pos (by simpa using newline), afterChars_append]
        exact column_afterChar_congr (ih earlier) c

theorem afterString_append (position : Position) (front back : String) :
    position.afterString (front ++ back) = (position.afterString front).afterString back := by
  rw [afterString, String.toList_append, afterChars_append]
  rfl

/-! ## Prefixes -/

/-- A measure of texts that is larger for a text than for what is in front of its last
characters. -/
def Grows {α : Type} [LT α] (measure : List Char → α) : Prop :=
  ∀ front back, back ≠ [] → measure front < measure (front ++ back)

theorem grows_afterChars (position : Position) : Grows position.afterChars := by
  intro front back some
  obtain ⟨c, chars, rfl⟩ := List.exists_cons_of_ne_nil some
  rw [afterChars_append, afterChars_cons]
  exact (lt_afterChar _ c).trans_le (le_afterChars _ chars)

theorem grows_length : Grows (List.length : List Char → Nat) := by
  intro front back some
  rw [List.length_append]
  exact Nat.lt_add_of_pos_right (List.length_pos_iff.mpr some)

theorem grows_byteSize : Grows fun chars => (String.ofList chars).utf8ByteSize := by
  intro front back some
  have long : (String.ofList back).utf8ByteSize ≠ 0 := by
    simpa [String.utf8ByteSize_eq_zero_iff] using some
  simp only [String.ofList_append, String.utf8ByteSize_append]
  omega

/-- Measures that grow compare the prefixes of one text in the same way. -/
theorem Grows.compare_eq
    {α β : Type} [LinearOrder α] [LinearOrder β]
    {measure : List Char → α}
    {other : List Char → β}
    {first second text : List Char}
    (grows : Grows measure)
    (otherGrows : Grows other)
    (firstPrefix : first <+: text)
    (secondPrefix : second <+: text) :
    compare (measure first) (measure second) = compare (other first) (other second) := by
  rcases List.prefix_or_prefix_of_prefix firstPrefix secondPrefix with
    ⟨back, rfl⟩ | ⟨back, rfl⟩
  · rcases eq_or_ne back [] with rfl | some
    · simp
    · rw [compare_lt_iff_lt.mpr (grows _ _ some), compare_lt_iff_lt.mpr (otherGrows _ _ some)]
  · rcases eq_or_ne back [] with rfl | some
    · simp
    · rw [compare_gt_iff_gt.mpr (grows _ _ some), compare_gt_iff_gt.mpr (otherGrows _ _ some)]

/-- Along a text, positions tell lines and columns as they are written, go on where they stopped,
and grow with every character: the offsets of two prefixes of the text, in bytes as in characters,
compare as the positions after them, and different prefixes lead to different positions. -/
theorem prefixes_ordered (start : Position) (text : String) :
    (start.afterString text).line = start.line + text.toList.count '\n' ∧
      ('\n' ∈ text.toList → ∀ other : Position, other.column = 1 →
        (start.afterString text).column =
          (other.afterChars (text.toList.rtakeWhile (· ≠ '\n'))).column) ∧
      (∀ more, start.afterString (text ++ more) = (start.afterString text).afterString more) ∧
      start.afterString text = start.afterChars text.toList ∧
      (∀ c, start < start.afterChar c) ∧
      (∀ front behind other otherBehind,
        text = front ++ behind → text = other ++ otherBehind →
          compare (start.afterString front) (start.afterString other) =
              compare front.utf8ByteSize other.utf8ByteSize ∧
            compare (start.afterString front) (start.afterString other) =
              compare front.length other.length ∧
            (start.afterString front = start.afterString other → front = other)) := by
  refine ⟨line_afterChars start text.toList,
    fun broken other first => column_afterChars_of_newline first broken start,
    afterString_append start text, rfl, lt_afterChar start,
    fun front behind other otherBehind split otherSplit => ?_⟩
  have frontPrefix : front.toList <+: text.toList := ⟨behind.toList, by simp [split]⟩
  have otherPrefix : other.toList <+: text.toList := ⟨otherBehind.toList, by simp [otherSplit]⟩
  have byLength := (grows_afterChars start).compare_eq grows_length frontPrefix otherPrefix
  have byBytes := (grows_afterChars start).compare_eq grows_byteSize frontPrefix otherPrefix
  simp only [String.ofList_toList] at byBytes
  refine ⟨byBytes, byLength, fun same => ?_⟩
  have sameLength : front.toList.length = other.toList.length := by
    rw [← compare_eq_iff_eq, ← byLength]
    exact compare_eq_iff_eq.mpr same
  exact String.toList_inj.mp
    ((List.prefix_of_prefix_length_le frontPrefix otherPrefix sameLength.le).eq_of_length
      sameLength)

/-- A tab, a carriage return, a newline and characters of several bytes. -/
theorem prefixes_ordered_mixed :
    let start : Position := .clamped "" 3 5
    let text := "ß\t\r\n😀\tb"
    start.afterString text = .clamped "" 4 10 ∧
      (start.afterString text).column =
        ((.clamped "" 1 1 : Position).afterChars ['😀', '\t', 'b']).column ∧
      compare (start.afterString "ß\t") (start.afterString "ß\t\r\n😀") = .lt ∧
      (start.afterString "ß\t" = start.afterString "ß\t\r\n😀" → "ß\t" = "ß\t\r\n😀") := by
  intro start text
  obtain ⟨-, column, -, -, -, ordered⟩ := prefixes_ordered start text
  obtain ⟨bytes, -, apart⟩ :=
    ordered "ß\t" "\r\n😀\tb" "ß\t\r\n😀" "\tb" (by decide) (by decide)
  exact ⟨by decide, (column (by decide) (.clamped "" 1 1) rfl).trans (by decide),
    bytes.trans (by decide), apart⟩

end Position
end Predictive
