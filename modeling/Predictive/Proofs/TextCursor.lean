import Predictive.TokenStream.Text

/-!
# Texts as cursors

However many characters are taken from a text, what is left is the source without exactly these
characters, and the offset counts their bytes. So the cursor never stands inside a character, the
text is empty just where it hands out nothing, and taking characters until the end spells out the
source.

A cursor that is just a number of bytes may stand inside a character, where there is nothing to cut
the source at. It never gets there from the start by the lengths of the characters it hands out, so
that it can do whatever the cursor of a text does.
-/

namespace Predictive
namespace Text

/-- Taking characters leads from one text over some characters to another text. -/
inductive Leads : Text → List Char → Text → Prop
  | refl (text : Text) : Leads text [] text
  | step
      {before middle after : Text}
      {c : Char}
      {chars : List Char} :
      before.uncons? = some (c, middle) → Leads middle chars after →
        Leads before (c :: chars) after

namespace Leads

variable {before after : Text} {chars : List Char}

theorem source_eq (leads : before.Leads chars after) : after.source = before.source := by
  induction leads with
  | refl text => rfl
  | step taken _ ih => rw [ih, source_of_uncons? taken]

/-- The characters that were taken are gone from the front of the rest. -/
theorem rest_eq (leads : before.Leads chars after) :
    before.rest = String.ofList chars ++ after.rest := by
  induction leads with
  | refl text => simp
  | step taken _ ih => rw [rest_of_uncons? taken, ih, String.ofList_cons, String.append_assoc]

/-- The offset grows by the bytes of the characters that were taken. -/
theorem offset_eq (leads : before.Leads chars after) :
    after.offset = before.offset + (String.ofList chars).utf8ByteSize := by
  induction leads with
  | refl text => simp
  | step taken _ ih =>
      rw [ih, offset_of_uncons? taken, String.ofList_cons, String.utf8ByteSize_append,
        String.utf8ByteSize_singleton, Nat.add_assoc]

end Leads

/-- A text is empty just where it hands out no character. -/
theorem isEmpty_iff_uncons?_eq_none (text : Text) :
    text.isEmpty = true ↔ text.uncons? = none := by
  have inside : text.offset ≤ text.source.utf8ByteSize := text.cursor.isValid.le_rawEndPos
  have atEnd : text.uncons? = none ↔ text.cursor = text.source.endPos := by
    unfold uncons?
    split <;> simp_all
  rw [atEnd, String.Pos.ext_iff, String.Pos.Raw.ext_iff, String.offset_endPos,
    String.byteIdx_rawEndPos]
  change decide (text.source.utf8ByteSize ≤ text.offset) = true ↔
    text.offset = text.source.utf8ByteSize
  rw [decide_eq_true_iff]
  omega

theorem uncons?_eq_none_iff (text : Text) : text.uncons? = none ↔ text.toList = [] :=
  have view : TokenStream.uncons? text = none ↔ TokenStream.toList text = [] :=
    TokenStream.uncons?_eq_none_iff text
  view

/-- The characters to come can be taken, up to any of them. -/
theorem exists_leads
    {text : Text}
    {chars behind : List Char}
    (view : text.toList = chars ++ behind) :
    ∃ after, text.Leads chars after ∧ after.toList = behind := by
  induction chars generalizing text with
  | nil => exact ⟨text, .refl text, view⟩
  | cons c chars ih =>
      have more : TokenStream.toList text = c :: (chars ++ behind) := view
      obtain ⟨middle, taken, viewMiddle⟩ := TokenStream.uncons?_of_toList_cons more
      obtain ⟨after, leads, viewAfter⟩ := ih viewMiddle
      exact ⟨after, .step taken leads, viewAfter⟩

/-- Every text that the characters of a source lead to is a faithful cursor: its offset is the
length of the characters that were taken, so it lies in the source and on the boundary of a
character, and what is left is the source behind these characters. It is empty just where it hands
out no character, each character moves the offset by its length, and taking characters to the end
yields those of the source, in order and without exception. -/
theorem cursor_faithful
    {source : String}
    {chars : List Char}
    {text : Text}
    (leads : (ofString source).Leads chars text) :
    text.source = source ∧
      text.offset ≤ source.utf8ByteSize ∧
      String.Pos.Raw.IsValid source ⟨text.offset⟩ ∧
      text.offset = (String.ofList chars).utf8ByteSize ∧
      source = String.ofList chars ++ text.rest ∧
      (text.isEmpty = true ↔ text.uncons? = none) ∧
      (∀ c after, text.uncons? = some (c, after) → after.offset = text.offset + c.utf8Size) ∧
      chars ++ text.toList = source.toList ∧
      (text.uncons? = none ↔ chars = source.toList) ∧
      ∃ last, text.Leads text.toList last ∧ last.uncons? = none := by
  have offset : text.offset = (String.ofList chars).utf8ByteSize := by
    rw [leads.offset_eq, offset_ofString, Nat.zero_add]
  have split : source = String.ofList chars ++ text.rest := by
    rw [← leads.rest_eq, rest_ofString]
  have spelled : source.toList = chars ++ text.toList := by
    rw [split, String.toList_append, String.toList_ofList, toList]
  refine ⟨leads.source_eq, ?_, ?_, offset, split, text.isEmpty_iff_uncons?_eq_none,
    fun c after taken => offset_of_uncons? taken, spelled.symm, ?_, ?_⟩
  · rw [offset, split, String.utf8ByteSize_append]
    omega
  · rw [String.Pos.Raw.isValid_iff_exists_append]
    exact ⟨String.ofList chars, text.rest, split, by rw [offset]; rfl⟩
  · rw [uncons?_eq_none_iff, spelled]
    simp
  · obtain ⟨last, leadsOn, nothing⟩ := exists_leads (List.append_nil text.toList).symm
    exact ⟨last, leadsOn, (uncons?_eq_none_iff last).mpr nothing⟩

/-- Behind letters of one, two and three bytes the rest begins with a letter of four bytes. -/
theorem cursor_faithful_mixed :
    ∃ text, (ofString "aß€😀").Leads ['a', 'ß', '€'] text ∧
      text.offset = 6 ∧ "aß€😀" = "aß€" ++ text.rest ∧ text.uncons? ≠ none := by
  have view : (ofString "aß€😀").toList = ['a', 'ß', '€'] ++ ['😀'] := by
    rw [toList_ofString]
    decide
  obtain ⟨text, leads, -⟩ := exists_leads view
  obtain ⟨-, -, -, offset, split, -, -, -, atEnd, -⟩ := cursor_faithful leads
  exact ⟨text, leads, offset.trans (by decide), split, fun nothing =>
    absurd (atEnd.mp nothing) (by decide)⟩

end Text

/-! ## Cursors that are numbers -/

/-- A source with the number of its bytes that were taken, which may be any number. -/
structure RawText where
  source : String
  offset : Nat

namespace RawText

/-- The part of the source behind the bytes that were taken, unless these end inside a character or
are more than there are. -/
def rest? (text : RawText) : Option String :=
  if boundary : String.Pos.Raw.IsValid text.source ⟨text.offset⟩ then
    some (text.source.sliceFrom ⟨⟨text.offset⟩, boundary⟩).copy
  else none

/-- The first character, and the source with the bytes of that character taken as well. -/
def uncons? (text : RawText) : Option (Char × RawText) :=
  (text.rest?.bind (·.toList.head?)).map fun c => (c, ⟨text.source, text.offset + c.utf8Size⟩)

/-- Taking characters leads from one number of bytes over some characters to another. -/
inductive Leads : RawText → List Char → RawText → Prop
  | refl (text : RawText) : Leads text [] text
  | step
      {before middle after : RawText}
      {c : Char}
      {chars : List Char} :
      before.uncons? = some (c, middle) → Leads middle chars after →
        Leads before (c :: chars) after

end RawText

namespace Text

/-- The source, and the offset of the cursor in it. -/
def toRaw (text : Text) : RawText :=
  ⟨text.source, text.offset⟩

/-- The source can be cut at the offset of a cursor. -/
theorem rest?_toRaw (text : Text) : text.toRaw.rest? = some text.rest := by
  have boundary : String.Pos.Raw.IsValid text.source ⟨text.offset⟩ := text.cursor.isValid
  exact dif_pos boundary

/-- Adding the length of a character to a number of bytes does what moving the cursor does. -/
theorem uncons?_toRaw (text : Text) :
    text.toRaw.uncons? = text.uncons?.map fun (c, after) => (c, after.toRaw) := by
  rw [RawText.uncons?, rest?_toRaw, Option.bind_some]
  cases taken : text.uncons? with
  | none =>
      have nothing : text.rest.toList = [] := toList_of_uncons?_eq_none taken
      rw [nothing]
      rfl
  | some pair =>
      obtain ⟨c, after⟩ := pair
      have first : text.rest.toList = c :: after.rest.toList := toList_of_uncons? taken
      have moved : after.toRaw = ⟨text.source, text.offset + c.utf8Size⟩ := by
        rw [toRaw, source_of_uncons? taken, offset_of_uncons? taken]
      rw [first, List.head?_cons, Option.map_some, Option.map_some]
      exact congrArg (fun raw => some (c, raw)) moved.symm

/-- However many characters are taken, the number of bytes is the offset of the cursor that these
characters lead to. -/
theorem leads_toRaw_iff
    {before : Text}
    {chars : List Char}
    {raw : RawText} :
    before.toRaw.Leads chars raw ↔ ∃ after, before.Leads chars after ∧ after.toRaw = raw := by
  constructor
  · intro leads
    generalize start : before.toRaw = first at leads
    induction leads generalizing before with
    | refl => exact ⟨before, .refl before, start⟩
    | step taken _ ih =>
        rw [← start, uncons?_toRaw] at taken
        obtain ⟨⟨c, middle⟩, takenHere, same⟩ := Option.map_eq_some_iff.mp taken
        obtain ⟨rfl, rfl⟩ := Prod.mk.inj same
        obtain ⟨after, leads, last⟩ := ih rfl
        exact ⟨after, .step takenHere leads, last⟩
  · rintro ⟨after, leads, rfl⟩
    induction leads with
    | refl text => exact .refl text.toRaw
    | step taken _ ih =>
        refine .step ?_ ih
        rw [uncons?_toRaw, taken]
        rfl

end Text
end Predictive
