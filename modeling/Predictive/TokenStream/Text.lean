import Predictive.TokenStream.Basic

/-!
# Texts as streams of characters

A text is a source together with a cursor into it. The cursor is a position of that very
source, so it lies on the boundary of a character by its type, and taking a character
moves it by the length of that character in UTF-8.
-/

namespace Predictive

/-- A source with a cursor in front of the characters to come. -/
structure Text where
  source : String
  cursor : source.Pos
deriving DecidableEq

namespace Text

/-- The text that starts at the beginning of a source. -/
def ofString (source : String) : Text :=
  ⟨source, source.startPos⟩

instance : Coe String Text := ⟨ofString⟩

/-- The number of bytes before the cursor. -/
def offset (text : Text) : Nat :=
  text.cursor.offset.byteIdx

/-- The number of bytes after the cursor. -/
def size (text : Text) : Nat :=
  text.source.utf8ByteSize - text.offset

/-- The part of the source after the cursor. -/
def rest (text : Text) : String :=
  (text.source.sliceFrom text.cursor).copy

/-- The characters to come. -/
def toList (text : Text) : List Char :=
  text.rest.toList

/-- Whether no characters are left. -/
def isEmpty (text : Text) : Bool :=
  text.source.utf8ByteSize ≤ text.offset

/-- The first character and the text after it. -/
def uncons? (text : Text) : Option (Char × Text) :=
  if atEnd : text.cursor = text.source.endPos then none
  else some (text.cursor.get atEnd, ⟨text.source, text.cursor.next atEnd⟩)

instance : TokenStream Text Char where
  uncons? := uncons?
  toList := toList
  size := size
  afterToken := Position.afterChar

@[simp] theorem rest_ofString (source : String) : (ofString source).rest = source := by
  simp [rest, ofString]

@[simp] theorem toList_ofString (source : String) : (ofString source).toList = source.toList := by
  simp [toList]

@[simp] theorem offset_ofString (source : String) : (ofString source).offset = 0 := by
  simp [offset, ofString]

/-- The cursor splits the source in what came before it and the rest. -/
theorem splits_rest (text : Text) :
    ∃ front, text.cursor.Splits front text.rest :=
  ⟨_, text.cursor.splits⟩

/-- A text with a first character splits into that character and the rest. -/
theorem rest_of_uncons?
    {text after : Text}
    {c : Char}
    (taken : text.uncons? = some (c, after)) :
    text.rest = String.singleton c ++ after.rest := by
  unfold uncons? at taken
  split at taken
  · contradiction
  · rename_i inside
    simp only [Option.some.injEq, Prod.mk.injEq] at taken
    obtain ⟨rfl, rfl⟩ := taken
    exact (text.cursor.splits_next_right inside).copy_sliceFrom_eq

theorem toList_of_uncons?
    {text after : Text}
    {c : Char}
    (taken : text.uncons? = some (c, after)) :
    text.toList = c :: after.toList := by
  simp [toList, rest_of_uncons? taken]

/-- The offset grows by the length of the character. -/
theorem offset_of_uncons?
    {text after : Text}
    {c : Char}
    (taken : text.uncons? = some (c, after)) :
    after.offset = text.offset + c.utf8Size := by
  unfold uncons? at taken
  split at taken
  · contradiction
  · simp only [Option.some.injEq, Prod.mk.injEq] at taken
    obtain ⟨rfl, rfl⟩ := taken
    simp [offset]

theorem source_of_uncons?
    {text after : Text}
    {c : Char}
    (taken : text.uncons? = some (c, after)) :
    after.source = text.source := by
  unfold uncons? at taken
  split at taken
  · contradiction
  · simp only [Option.some.injEq, Prod.mk.injEq] at taken
    obtain ⟨rfl, rfl⟩ := taken
    rfl

theorem toList_of_uncons?_eq_none
    {text : Text}
    (atEnd : text.uncons? = none) :
    text.toList = [] := by
  unfold uncons? at atEnd
  split at atEnd
  · rename_i isEnd
    simp [toList, rest, isEnd]
  · contradiction

instance : LawfulTokenStream Text where
  toList_eq_nil := toList_of_uncons?_eq_none
  toList_eq_cons := toList_of_uncons?
  size_lt_of_uncons? := by
    intro text after c taken
    have moved := offset_of_uncons? taken
    have same := source_of_uncons? taken
    have long := c.utf8Size_pos
    have inside : after.offset ≤ after.source.utf8ByteSize := by
      exact after.cursor.isValid.le_rawEndPos
    show after.size < text.size
    unfold size
    rw [same] at inside ⊢
    omega

end Text
end Predictive
