import Predictive.Proofs.Spacing
import Predictive.Proofs.Words

/-!
# Keywords without regard to case

Where case does not matter, a word counts as reserved if its small form is that of a keyword, and
a keyword is read from the first characters of the small and capital forms of its characters.
These two notions are the same for keywords in ASCII, except that the Kelvin sign has the small
form `k` and is not read as one. So a word is either an identifier or a keyword, unless it is
written with a Kelvin sign.
-/

namespace Predictive
namespace Unicode

/-- The sign of the unit Kelvin, with the small form `k`. -/
def kelvinSign : Char := '\u212a'

/-- Whether all characters are ASCII characters. -/
def IsAscii (chars : List Char) : Prop :=
  ∀ c ∈ chars, c.toNat < 0x80

instance (chars : List Char) : Decidable (IsAscii chars) :=
  decidable_of_iff (chars.all (fun c => c.toNat < 0x80) = true) (by simp [IsAscii])

/-! ## Small forms in ASCII -/

/-- Apart from the range of the Kelvin sign, small forms are no ASCII characters. -/
theorem lowerRanges_beyond_ascii :
    ∀ range ∈ lowerRanges, range.domain = ⟨0x212a, 0x212a, 1⟩ ∨
      (0x80 ≤ range.domain.first + range.distance ∧
        (range.domain.last + range.distance < 0xd800 ∨
          0xdfff < range.domain.first + range.distance ∧
            range.domain.last + range.distance < 0x110000)) := by
  decide +kernel

/-- The Kelvin sign is a capital of k. -/
theorem image_kelvinSign : image lowerRanges kelvinSign = 'k' := by
  decide

/-- Beyond ASCII, only the Kelvin sign has a small form of one ASCII character. -/
theorem eq_kelvinSign_of_image
    {c : Char}
    (beyond : 0x80 ≤ c.toNat)
    (ascii : (image lowerRanges c).toNat < 0x80) :
    c = kelvinSign := by
  unfold image at ascii
  split at ascii
  · rename_i range found
    have holds := List.find?_some found
    simp only [CodeRange.contains, Bool.and_eq_true, decide_eq_true_eq] at holds
    have present := List.mem_of_find?_eq_some found
    rcases lowerRanges_beyond_ascii range present with single | ⟨above, valid⟩
    · rw [single] at holds
      have code : c.toNat = kelvinSign.toNat := Nat.le_antisymm holds.1.2 holds.1.1
      exact Char.toNat_inj.mp code
    · have isChar : (c.toNat + range.distance).toNat.isValidChar := by
        unfold Nat.isValidChar
        omega
      have code : (Char.ofNat (c.toNat + range.distance).toNat).toNat =
          (c.toNat + range.distance).toNat := by
        rw [Char.ofNat, dif_pos isChar]
        rfl
      omega
  · omega

/-- The lower case of ASCII letters does not depend on what is around them. -/
theorem lowerFrom_of_ascii {chars : List Char} (ascii : IsAscii chars) (before : List Char) :
    lowerFrom before chars = chars.map Char.toLower := by
  induction chars generalizing before with
  | nil => rfl
  | cons c chars ih =>
      have here : c.toNat < 0x80 := ascii c List.mem_cons_self
      have others : IsAscii chars := fun d present => ascii d (.tail c present)
      have notSigma : c ≠ 'Σ' := by
        rintro rfl
        exact absurd here (by decide)
      simp [lowerFrom, notSigma, toLower, here, ih others]

/-- The character has an ASCII character as its small form. -/
def FoldsTo (c small : Char) : Prop :=
  c.toNat < 0x80 ∧ c.toLower = small ∨ c = kelvinSign ∧ small = 'k'

/-- A letter whose small forms are ASCII letters has just one of them. -/
theorem foldsTo_of_small
    {c : Char}
    {small : List Char}
    (isSmall : small = toLower c ∨ small = ['ς'] ∨ small = ['σ'])
    (ascii : IsAscii small) :
    ∃ d, small = [d] ∧ FoldsTo c d := by
  rcases isSmall with rfl | rfl | rfl
  · unfold toLower at ascii ⊢
    split
    · rename_i here
      exact ⟨c.toLower, rfl, .inl ⟨here, rfl⟩⟩
    · rename_i beyond
      split
      · -- The small form of a capital I with a dot keeps the dot as a character of its own.
        rename_i dotted
        rw [if_neg beyond, if_pos dotted] at ascii
        exact absurd (ascii '\u0307' (by simp)) (by decide)
      · rename_i notDotted
        rw [if_neg beyond, if_neg notDotted] at ascii
        obtain rfl := eq_kelvinSign_of_image (Nat.le_of_not_lt beyond)
          (ascii _ List.mem_cons_self)
        exact ⟨'k', congrArg (fun d => [d]) image_kelvinSign, .inr ⟨rfl, rfl⟩⟩
  · exact absurd (ascii 'ς' (by simp)) (by decide)
  · exact absurd (ascii 'σ' (by simp)) (by decide)

/-- A text with a small form in ASCII has it character by character. -/
theorem forall₂_foldsTo_of_lowerFrom
    {before chars : List Char}
    (ascii : IsAscii (lowerFrom before chars)) :
    List.Forall₂ FoldsTo chars (lowerFrom before chars) := by
  induction chars generalizing before with
  | nil => exact .nil
  | cons c chars ih =>
      obtain ⟨small, isSmall, split⟩ : ∃ small, (small = toLower c ∨ small = ['ς'] ∨
          small = ['σ']) ∧ lowerFrom before (c :: chars) =
            small ++ lowerFrom (c :: before) chars := by
        refine ⟨_, ?_, rfl⟩
        split
        · split <;> simp
        · exact .inl rfl
      rw [split] at ascii ⊢
      obtain ⟨d, rfl, folds⟩ := foldsTo_of_small isSmall fun e present =>
        ascii e (List.mem_append_left _ present)
      exact .cons folds (ih fun e present => ascii e (List.mem_append_right _ present))

/-! ## Small forms and case forms -/

/-- The forms of the characters in ASCII, read off all at once. -/
theorem caseForms_table :
    ∀ code < 0x80, (Char.ofNat code).toLower.toNat < 0x80 ∧
      caseForms (Char.ofNat code).toLower = caseForms (Char.ofNat code) ∧
      Char.ofNat code ∈ caseForms (Char.ofNat code) ∧
      (caseForms (Char.ofNat code)).all
        (fun d => d.toNat < 0x80 && d.toLower == (Char.ofNat code).toLower) = true := by
  decide

/-- The forms of an ASCII letter are ASCII letters that differ in case only. -/
theorem caseForms_of_ascii {c d : Char} (ascii : c.toNat < 0x80) (form : d ∈ caseForms c) :
    d.toNat < 0x80 ∧ d.toLower = c.toLower := by
  have here := (caseForms_table c.toNat ascii).2.2.2
  rw [Char.ofNat_toNat] at here
  simpa using List.all_eq_true.mp here d form

/-- The forms of a character in ASCII are those of its small form, and it is one of them. -/
theorem mem_caseForms_toLower {c : Char} (ascii : c.toNat < 0x80) :
    caseForms c.toLower = caseForms c ∧ c ∈ caseForms c := by
  obtain ⟨-, same, present, -⟩ := caseForms_table c.toNat ascii
  rw [Char.ofNat_toNat] at same present
  exact ⟨same, present⟩

/-- Letters that differ in case only are forms of each other. -/
theorem mem_caseForms_of_toLower_eq
    {c d : Char}
    (ascii : c.toNat < 0x80)
    (otherAscii : d.toNat < 0x80)
    (same : d.toLower = c.toLower) :
    d ∈ caseForms c := by
  rw [← (mem_caseForms_toLower ascii).1, ← same, (mem_caseForms_toLower otherAscii).1]
  exact (mem_caseForms_toLower otherAscii).2

/-- A word that folds to a name is spelled in forms of its letters, unless the Kelvin sign occurs in
it. -/
theorem forall₂_caseForms_of_foldsTo
    {name word : List Char}
    (folds : List.Forall₂ (fun d c => FoldsTo d c.toLower) word name)
    (ascii : IsAscii name)
    (absent : kelvinSign ∉ word) :
    List.Forall₂ (fun c d => d ∈ caseForms c) name word := by
  induction folds with
  | nil => exact .nil
  | @cons d c word name first others ih =>
      have here : c.toNat < 0x80 := ascii c List.mem_cons_self
      rcases first with ⟨otherHere, same⟩ | ⟨rfl, -⟩
      · refine .cons (mem_caseForms_of_toLower_eq here otherHere same) (ih ?_ ?_)
        · exact fun e present => ascii e (.tail c present)
        · exact fun present => absent (.tail d present)
      · exact absurd List.mem_cons_self absent

/-- Words in forms of ASCII letters have the same lower case. -/
theorem ascii_of_forall₂_caseForms
    {name word : List Char}
    (forms : List.Forall₂ (fun c d => d ∈ caseForms c) name word)
    (ascii : IsAscii name) :
    IsAscii word ∧ name.map Char.toLower = word.map Char.toLower := by
  induction forms with
  | nil => exact ⟨ascii, rfl⟩
  | @cons c d name word form others ih =>
      obtain ⟨here, same⟩ := caseForms_of_ascii (ascii c List.mem_cons_self) form
      obtain ⟨tail, sameTail⟩ := ih fun e present => ascii e (.tail c present)
      refine ⟨fun e present => ?_, by rw [List.map_cons, List.map_cons, same, sameTail]⟩
      rcases List.mem_cons.mp present with rfl | inside
      · exact here
      · exact tail e inside

/-- The lower case of ASCII letters is ASCII. -/
theorem isAscii_map_toLower {chars : List Char} (ascii : IsAscii chars) :
    IsAscii (chars.map Char.toLower) := by
  intro c present
  obtain ⟨d, inside, rfl⟩ := List.mem_map.mp present
  have here := (caseForms_table d.toNat (ascii d inside)).1
  rwa [Char.ofNat_toNat] at here

/-- What is accepted for a keyword in ASCII are the words with its small form, apart from those
with a Kelvin sign. -/
theorem forall₂_caseForms_iff
    {name word : List Char}
    (ascii : IsAscii name) :
    List.Forall₂ (fun c d => d ∈ caseForms c) name word ↔
      lowerFrom [] name = lowerFrom [] word ∧ kelvinSign ∉ word := by
  rw [lowerFrom_of_ascii ascii]
  constructor
  · intro forms
    obtain ⟨wordAscii, same⟩ := ascii_of_forall₂_caseForms forms ascii
    rw [lowerFrom_of_ascii wordAscii]
    refine ⟨same, fun present => ?_⟩
    exact absurd (wordAscii kelvinSign present) (by decide)
  · rintro ⟨same, absent⟩
    have smallAscii : IsAscii (lowerFrom [] word) := same ▸ isAscii_map_toLower ascii
    have folds := forall₂_foldsTo_of_lowerFrom smallAscii
    rw [← same, List.forall₂_map_right_iff] at folds
    exact forall₂_caseForms_of_foldsTo folds ascii absent

theorem lowercased_eq_iff (first second : String) :
    lowercased first = lowercased second ↔
      lowerFrom [] first.toList = lowerFrom [] second.toList :=
  String.ofList_inj

end Unicode

namespace Language

open Unicode (kelvinSign)

variable {σ υ α : Type}

/-- The class does not tell the cases of ASCII characters apart. -/
def FoldsCase (letter : Char → Bool) : Prop :=
  ∀ c d, c.toNat < 0x80 → letter c = true → d ∈ Unicode.caseForms c → letter d = true

/-- A keyword in ASCII is spelled by the words with its small form, apart from those with a Kelvin
sign. -/
theorem spells_iff_lowercased
    {language : Language σ υ}
    (ignoring : language.caseSensitive = false)
    {name : String}
    (ascii : Unicode.IsAscii name.toList)
    (word : List Char) :
    language.Spells name.toList word ↔
      Unicode.lowercased name = Unicode.lowercased (String.ofList word) ∧ kelvinSign ∉ word := by
  rw [spells_iff_forms ignoring, Unicode.forall₂_caseForms_iff ascii, Unicode.lowercased_eq_iff,
    String.toList_ofList]

/-- Case does not matter to a class of letters if it does not to those in ASCII. -/
theorem foldsCase_of_ascii
    {letter : Char → Bool}
    (closed : ∀ code < 0x80, letter (Char.ofNat code).toLower = letter (Char.ofNat code)) :
    FoldsCase letter := by
  intro c d ascii holds form
  obtain ⟨formAscii, same⟩ := Unicode.caseForms_of_ascii ascii form
  have here := closed c.toNat ascii
  have there := closed d.toNat formAscii
  rw [Char.ofNat_toNat] at here there
  rw [← there, same, here]
  exact holds

theorem foldsCase_isAlphabetic : FoldsCase Unicode.isAlphabetic :=
  foldsCase_of_ascii (by decide)

theorem foldsCase_isNameLetter : FoldsCase Expr.isNameLetter :=
  foldsCase_of_ascii (by decide)

/-- The forms of the letters of a keyword are letters. -/
theorem FoldsCase.all
    {letter : Char → Bool}
    (folds : FoldsCase letter)
    {name word : List Char}
    (forms : List.Forall₂ (fun c d => d ∈ Unicode.caseForms c) name word)
    (ascii : Unicode.IsAscii name)
    (all : ∀ c ∈ name, letter c = true) :
    ∀ d ∈ word, letter d = true := by
  induction forms with
  | nil => simp
  | @cons c d name word form others ih =>
      rw [Unicode.IsAscii, List.forall_mem_cons] at ascii
      rw [List.forall_mem_cons] at all ⊢
      exact ⟨folds c d ascii.1 all.1 form, ih ascii.2 all.2⟩

/-- A keyword that is a word is spelled by words. -/
theorem isWord_of_spells
    {language : Language σ υ}
    (ignoring : language.caseSensitive = false)
    {start letter : Char → Bool}
    (foldsStart : FoldsCase start)
    (foldsLetter : FoldsCase letter)
    {name word : List Char}
    (ascii : Unicode.IsAscii name)
    (isWord : IsWord start letter name)
    (spells : language.Spells name word) :
    IsWord start letter word := by
  cases (spells_iff_forms ignoring).mp spells with
  | nil => exact isWord.elim
  | @cons c d name word first others =>
      rw [Unicode.IsAscii, List.forall_mem_cons] at ascii
      exact ⟨foldsStart c d ascii.1 isWord.1 first, foldsLetter.all others ascii.2 isWord.2⟩

variable [TokenStream σ Char]

/-- A word at the front of the input is given back as a reserved word. -/
def GivesBack (language : Language σ υ) (state : State σ υ) (word : List Char) : Prop :=
  ∃ (earlier : ParseError) (position : Position), language.identifier.Fails state false
    (earlier.merge (.single position .unexpected ("reserved word " ++ String.ofList word)))

/-- White space and comments can be skipped where the characters come: no comment stays open. -/
def Skips (language : Language σ υ) (rest : List Char) : Prop :=
  ∀ ⦃state : State σ υ⦄, View.tokens state rest →
    ∃ consumed next error, language.whiteSpace.Yields state consumed () next error

/-- What white space was read over can be skipped. -/
theorem skips_of_reads
    [LawfulTokenStream σ]
    {language : Language σ υ}
    {gap rest : List Char}
    (reads : language.whiteSpace.Reads View.tokens gap () rest) :
    language.Skips (gap ++ rest) := by
  intro state viewed
  obtain ⟨next, error, ran, -⟩ := reads viewed
  exact ⟨_, next, error, ran⟩

/-- Behind a word that has been read, a lexeme does not fail as if nothing had been there. -/
theorem lexeme_not_fails
    (language : Language σ υ)
    {parser : Parser σ υ α}
    {state next : State σ υ}
    {value : α}
    {error other : ParseError}
    (ran : parser.Yields state true value next error) :
    ¬ (language.lexeme parser).Fails state false other := by
  intro failed
  unfold Parser.Fails lexeme Parser.keepLeft at failed
  rw [Parser.run_zipWith_of_ok ran] at failed
  obtain ⟨⟨consumed, reply⟩, -, joined⟩ := exceptMap_eq_ok_iff.mp failed
  cases consumed <;> simp [Outcome.map] at joined

/-- A lexeme is read where white space can be skipped behind it. -/
theorem lexeme_yields
    (language : Language σ υ)
    {parser : Parser σ υ α}
    {word rest : List Char}
    {value : α}
    (reads : parser.Reads View.tokens word value rest)
    (some : word ≠ [])
    (skips : language.Skips rest)
    {state : State σ υ}
    (viewed : View.tokens state (word ++ rest)) :
    ∃ next error, (language.lexeme parser).Yields state true value next error := by
  obtain ⟨middle, earlier, ran, left⟩ := reads viewed
  obtain ⟨consumed, next, error, skipped⟩ := skips left
  have taken : (!word.isEmpty) = true := by simpa using some
  rw [taken] at ran
  exact ⟨next, lexeme_yields_of_skips ran skipped⟩

section
variable
  [LawfulTokenStream σ]
  {language : Language σ υ}
  {start letter : Char → Bool}
  (letters : language.identLetter.TakesChar letter)
include letters

/-- A keyword fails at once unless a spelling of it comes that no letter follows. -/
theorem reserved_fails_iff
    {name : String}
    (some : name.toList ≠ [])
    (state : State σ υ) :
    (∃ error, (language.reserved name).Fails state false error) ↔
      ¬ ∃ word rest, TokenStream.toList state.input = word ++ rest ∧
        language.Spells name.toList word ∧ StopsAt letter rest := by
  constructor
  · rintro ⟨error, failed⟩ ⟨word, rest, split, spells, ends⟩
    obtain ⟨next, found, ran, -⟩ :=
      wholeWord_reads letters (caseString_reads language name spells rest) ends name split
    have taken : (!word.isEmpty) = true := by simpa using spells.ne_nil some
    rw [taken] at ran
    exact lexeme_not_fails language ran failed
  · intro none
    have unspelled : ∀ word rest, TokenStream.toList state.input = word ++ rest →
        language.Spells name.toList word → ¬ StopsAt letter rest :=
      fun word rest split spells ends => none ⟨word, rest, split, spells, ends⟩
    have refuses := wholeWord_refuses letters (caseString_takesOnly language name)
      (caseString_returns language name) unspelled name
    exact refuses.zipWith _ rfl

/-- A keyword that is spelled is read where white space can be skipped behind it. -/
theorem reserved_yields
    {name : String}
    {word rest : List Char}
    (some : word ≠ [])
    (spells : language.Spells name.toList word)
    (ends : StopsAt letter rest)
    (skips : language.Skips rest)
    {state : State σ υ}
    (viewed : View.tokens state (word ++ rest)) :
    ∃ next error, (language.reserved name).Yields state true () next error :=
  lexeme_yields language
    (wholeWord_reads letters (caseString_reads language name spells rest) ends name) some skips
    viewed

variable
  (starts : language.identStart.TakesChar start)
  {word rest : List Char}
  (isWord : IsWord start letter word)
  (ends : StopsAt letter rest)
  {state : State σ υ}
  (viewed : View.tokens state (word ++ rest))
include starts isWord ends viewed

/-- A word is given back just if it is reserved. -/
theorem givesBack_iff :
    language.GivesBack state word ↔ language.isReservedName (String.ofList word) = true := by
  constructor
  · rintro ⟨earlier, position, failed⟩
    by_contra free
    have reads := Parser.unreserved_reads starts letters isWord ends (eq_false_of_ne_true free)
      "identifier" "reserved word "
    obtain ⟨next, found, ran, -⟩ := reads viewed
    have taken : (!word.isEmpty) = true := by simpa using isWord.ne_nil
    rw [taken] at ran
    exact lexeme_not_fails language ran failed
  · intro reserved
    obtain ⟨earlier, position, failed⟩ :=
      Parser.unreserved_fails starts letters isWord ends reserved "identifier" "reserved word "
        viewed
    exact ⟨earlier, position, Parser.run_zipWith_of_failed failed _ _⟩

/-- A word that is not reserved is read as an identifier. -/
theorem identifier_yields
    (skips : language.Skips rest)
    (free : ¬ language.GivesBack state word) :
    ∃ next error, language.identifier.Yields state true (String.ofList word) next error := by
  rw [givesBack_iff letters starts isWord ends viewed] at free
  have reads := Parser.unreserved_reads starts letters isWord ends
    (eq_false_of_ne_true free) "identifier" "reserved word "
  exact lexeme_yields language reads isWord.ne_nil skips viewed

end

/-- Where case does not matter, a word is given back as reserved exactly if its small form is that
of a keyword, and a keyword fails at once exactly where no spelling of it comes that ends as a
word. In front of white space that can be skipped, a word that is not given back is read as an
identifier. If the keywords are in ASCII and the classes do not tell its cases apart, a keyword is
read from a word exactly if the word is given back as reserved and holds no Kelvin sign. -/
theorem keyword_or_identifier
    [LawfulTokenStream σ]
    {language : Language σ υ}
    {start letter : Char → Bool}
    (ignoring : language.caseSensitive = false)
    (starts : language.identStart.TakesChar start)
    (letters : language.identLetter.TakesChar letter)
    (shaped : ∀ name ∈ language.reservedNames, IsWord start letter name.toList)
    {word rest : List Char}
    (isWord : IsWord start letter word)
    (ends : StopsAt letter rest)
    {state : State σ υ}
    (viewed : TokenStream.toList state.input = word ++ rest) :
    (language.GivesBack state word ↔
      ∃ name ∈ language.reservedNames,
        Unicode.lowercased name = Unicode.lowercased (String.ofList word)) ∧
    (∀ name ∈ language.reservedNames,
      ((∃ error, (language.reserved name).Fails state false error) ↔
        ¬ ∃ spelling others, word ++ rest = spelling ++ others ∧
          language.Spells name.toList spelling ∧ StopsAt letter others)) ∧
    (language.Skips rest →
      (¬ language.GivesBack state word →
        ∃ next error, language.identifier.Yields state true (String.ofList word) next error) ∧
      ((∀ name ∈ language.reservedNames, Unicode.IsAscii name.toList) →
        FoldsCase start → FoldsCase letter →
        ((∃ name ∈ language.reservedNames,
            ∃ consumed next error, (language.reserved name).Yields state consumed () next error) ↔
          language.GivesBack state word ∧ kelvinSign ∉ word))) := by
  have givesBack : language.GivesBack state word ↔ ∃ name ∈ language.reservedNames,
      Unicode.lowercased name = Unicode.lowercased (String.ofList word) :=
    (givesBack_iff letters starts isWord ends viewed).trans
      (isReservedName_of_ignoringCase ignoring _)
  refine ⟨givesBack, fun name present => ?_,
    fun skips => ⟨?_, fun ascii foldsStart foldsLetter => ?_⟩⟩
  · rw [← viewed]
    exact reserved_fails_iff letters (shaped name present).ne_nil state
  · exact identifier_yields letters starts isWord ends viewed skips
  · rw [givesBack]
    constructor
    · rintro ⟨name, present, consumed, next, error, ran⟩
      obtain ⟨spelling, others, split, spells, othersEnd⟩ : ∃ spelling others,
          TokenStream.toList state.input = spelling ++ others ∧
            language.Spells name.toList spelling ∧ StopsAt letter others := by
        by_contra none
        obtain ⟨found, failed⟩ :=
          (reserved_fails_iff letters (shaped name present).ne_nil state).mpr none
        exact ran.not_fails failed
      have isSpelling := isWord_of_spells ignoring foldsStart foldsLetter (ascii name present)
        (shaped name present) spells
      obtain rfl := isWord.eq_of_append isSpelling ends othersEnd (viewed.symm.trans split)
      obtain ⟨same, absent⟩ := (spells_iff_lowercased ignoring (ascii name present) word).mp spells
      exact ⟨⟨name, present, same⟩, absent⟩
    · rintro ⟨⟨name, present, same⟩, absent⟩
      have spells := (spells_iff_lowercased ignoring (ascii name present) word).mpr
        ⟨same, absent⟩
      obtain ⟨next, error, ran⟩ :=
        reserved_yields letters isWord.ne_nil spells ends skips viewed
      exact ⟨name, present, true, next, error, ran⟩

/-- The keyword `while` in mixed case, in front of a parenthesis. -/
theorem keyword_or_identifier_while :
    let language : Language Text Unit := java
    let state : State Text Unit := ⟨Text.ofString "wHiLe (", .start "", ()⟩
    language.GivesBack state "wHiLe".toList ∧
      ∃ name ∈ language.reservedNames,
        ∃ consumed next error, (language.reserved name).Yields state consumed () next error := by
  intro language state
  have starts : language.identStart.TakesChar Unicode.isAlphabetic :=
    (Parser.satisfy_takesChar Unicode.isAlphabetic).label "letter"
  have letters : language.identLetter.TakesChar Expr.isNameLetter := plain_identLetter_takesChar
  have solid : language.SolidAt ['('] :=
    ⟨(stopsAt_cons_iff _ _ _).mpr (by decide +kernel), by decide, by decide⟩
  have blank : ∀ c ∈ [' '], Unicode.isWhiteSpace c = true :=
    List.forall_mem_singleton.mpr (by decide)
  have skips : language.Skips " (".toList := skips_of_reads (whiteSpace_reads_run blank solid)
  have isWord : IsWord Unicode.isAlphabetic Expr.isNameLetter "wHiLe".toList := by decide +kernel
  have ends : StopsAt Expr.isNameLetter " (".toList :=
    (stopsAt_cons_iff _ _ _).mpr (by decide +kernel)
  have viewed : TokenStream.toList state.input = "wHiLe".toList ++ " (".toList := by
    decide +kernel
  obtain ⟨givesBack, -, reads⟩ :=
    keyword_or_identifier rfl starts letters (by decide +kernel) isWord ends viewed
  have isBack : language.GivesBack state "wHiLe".toList :=
    givesBack.mpr ⟨"while", by decide, by decide +kernel⟩
  have isRead := (reads skips).2 (by decide +kernel) foldsCase_isAlphabetic foldsCase_isNameLetter
  exact ⟨isBack, isRead.mpr ⟨isBack, by decide⟩⟩

/-- The Java keywords replaced by a single one, the letter `k`. -/
def letterKeyword : Language Text Unit :=
  { java with reservedNames := ["k"] }

/-- The Kelvin sign is given back as a reserved word, but no keyword is read from it. -/
theorem kelvinSign_neither_identifier_nor_keyword :
    let state : State Text Unit := ⟨Text.ofString "\u212a", .start "t", ()⟩
    ¬ (letterKeyword.GivesBack state [kelvinSign] ↔
      ∃ name ∈ letterKeyword.reservedNames,
        ∃ consumed next error,
          (letterKeyword.reserved name).Yields state consumed () next error) := by
  intro state same
  have starts : letterKeyword.identStart.TakesChar Unicode.isAlphabetic :=
    (Parser.satisfy_takesChar Unicode.isAlphabetic).label "letter"
  have letters : letterKeyword.identLetter.TakesChar Expr.isNameLetter :=
    plain_identLetter_takesChar
  have viewed : View.tokens state ([kelvinSign] ++ []) := by
    unfold View.tokens
    decide +kernel
  have isBack : letterKeyword.GivesBack state [kelvinSign] :=
    (givesBack_iff letters starts (by decide +kernel) (stopsAt_nil _) viewed).mpr
      (by decide +kernel)
  obtain ⟨name, present, consumed, next, error, ran⟩ := same.mp isBack
  obtain rfl : name = "k" := List.mem_singleton.mp present
  have failed : ((letterKeyword.reserved "k").run state).toOption.map (·.reply.isOk) =
      some false := by
    decide +kernel
  rw [ran] at failed
  simp [Except.toOption, Reply.isOk] at failed

end Language
end Predictive
