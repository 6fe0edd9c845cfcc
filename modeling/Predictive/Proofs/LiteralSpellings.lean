import Predictive.Proofs.CharacterClasses
import Predictive.Proofs.Failing
import Predictive.Proofs.IntegerLiterals
import Predictive.Proofs.Literals
import Predictive.Proofs.LoopRecursion

/-!
# Literals decode every spelling

A character may be spelled in many ways: by itself, or behind a backslash by a letter, by its code
point in three bases, by the name of a control code, or by its key. The usual escapes try these
kinds one after another, and each of them refuses the texts of those that come after it. So every
spelling is decoded in front of anything but a letter or a digit, which might go on a name or a
number. In a string the fillers see to that; they stand for no character. A code point that no
character has makes the literal fail, whatever the number of its digits.
-/

namespace Predictive

namespace Parser

variable {σ τ υ α : Type} [TokenStream σ τ] {parser : Parser σ υ α}

/-- Rounds that each spend a token are not more than the tokens that they spend together. -/
theorem Repeats.length_add_le
    (spends : parser.Relates State.Spends)
    {state next : State σ υ}
    {values : List α}
    (repeated : parser.Repeats state values next) :
    values.length + (TokenStream.toList next.input).length ≤
      (TokenStream.toList state.input).length := by
  induction repeated with
  | nil state => simp
  | cons first others ih =>
      have fewer := (spends first).length_lt
      rw [List.length_cons]
      omega

/-- A repetition is patient enough for rounds that each spend a token. -/
theorem Repeats.length_lt_patience
    [LawfulTokenStream σ]
    (spends : parser.Relates State.Spends)
    {state next : State σ υ}
    {values : List α}
    (repeated : parser.Repeats state values next) :
    values.length < state.patience :=
  Nat.lt_of_le_of_lt (Nat.le_of_add_right_le (repeated.length_add_le spends))
    Parser.length_lt_patience

end Parser

/-! ## Spellings -/

/-- The names of the first control codes and of the space, in the order of their code points. -/
def asciiNames : List String :=
  ["NUL", "SOH", "STX", "ETX", "EOT", "ENQ", "ACK", "BEL", "BS", "HT", "LF", "VT", "FF", "CR", "SO",
    "SI", "DLE", "DC1", "DC2", "DC3", "DC4", "NAK", "SYN", "ETB", "CAN", "EM", "SUB", "ESC", "FS",
    "GS", "RS", "US", "SP"]

/-- What stands between a backslash and the digits of a code point in a base. -/
inductive CodeMark : (mark : List Char) → (base : Nat) → Prop
  | decimal : CodeMark [] 10
  | octal : CodeMark ['o'] 8
  | hexadecimal : CodeMark ['x'] 16

/-- Numbers are written in bases other than zero. -/
theorem CodeMark.base_pos {mark : List Char} {base : Nat} (marked : CodeMark mark base) :
    0 < base := by
  cases marked <;> decide

/-- The code point that some digits stand for, the most significant of them first. -/
def codePoint (base : Nat) (digits : List Char) : Nat :=
  Nat.ofDigits base (digits.reverse.map digitValue)

/-- What may stand behind a backslash, and the character that it stands for. The letters follow the
order of the code points from the bell on, and the keys that of the control codes from zero on. -/
inductive EscapeCode : (text : List Char) → (c : Char) → Prop
  | letter
      {index : Nat}
      {letter : Char}
      (lettered : "abtnvfr".toList[index]? = some letter) :
      EscapeCode [letter] (Char.ofNat (7 + index))
  | itself
      {c : Char}
      (quoted : c ∈ ['\\', '"', '\'']) :
      EscapeCode [c] c
  | number
      {mark digits : List Char}
      {base : Nat}
      {c : Char}
      (marked : CodeMark mark base)
      (some : digits ≠ [])
      (all : ∀ digit ∈ digits, Language.isDigitIn base digit = true)
      (code : codePoint base digits = c.toNat) :
      EscapeCode (mark ++ digits) c
  | name
      {code : Nat}
      {name : String}
      (named : asciiNames[code]? = some name) :
      EscapeCode name.toList (Char.ofNat code)
  | delete :
      EscapeCode "DEL".toList (Char.ofNat 0x7f)
  | key
      {key c : Char}
      (first : '@' ≤ key)
      (last : key ≤ '_')
      (code : c.toNat + 0x40 = key.toNat) :
      EscapeCode ['^', key] c

/-- A character as it may be spelled between two delimiters. -/
inductive Spelling (delimiter : Char) : (text : List Char) → (c : Char) → Prop
  | plain
      {c : Char}
      (above : '\x1a' < c)
      (inside : c ≠ delimiter)
      (unescaped : c ≠ '\\') :
      Spelling delimiter [c] c
  | escaped
      {text : List Char}
      {c : Char}
      (code : EscapeCode text c) :
      Spelling delimiter ('\\' :: text) c

/-- What may stand in a string for no character: the empty escape, or a gap of white space. -/
inductive Filler : (text : List Char) → Prop
  | empty : Filler ['\\', '&']
  | gap
      {spaces : List Char}
      (some : spaces ≠ [])
      (blank : ∀ c ∈ spaces, Unicode.isWhiteSpace c = true) :
      Filler ('\\' :: spaces ++ ['\\'])

/-- The inside of a string: spelled characters with a filler behind each of them, and any number of
further fillers between them. -/
inductive StringText : (text chars : List Char) → Prop
  | nil : StringText [] []
  | filler
      {filler text chars : List Char}
      (fills : Filler filler)
      (others : StringText text chars) :
      StringText (filler ++ text) chars
  | spelled
      {word filler text chars : List Char}
      {c : Char}
      (spelling : Spelling '"' word c)
      (fills : Filler filler)
      (others : StringText text chars) :
      StringText (word ++ (filler ++ text)) (c :: chars)

/-- A numeric escape, up to its last digit, for a code point that is a surrogate or too large. -/
inductive InvalidEscape : (text rest : List Char) → Prop
  | number
      {mark digits rest : List Char}
      {base : Nat}
      (marked : CodeMark mark base)
      (some : digits ≠ [])
      (all : ∀ digit ∈ digits, Language.isDigitIn base digit = true)
      (stops : StopsAt (Language.isDigitIn base) rest)
      (invalid : (0xd800 ≤ codePoint base digits ∧ codePoint base digits ≤ 0xdfff) ∨
        0x10ffff < codePoint base digits) :
      InvalidEscape (mark ++ digits) rest

/-! ## Tables -/

namespace Language

open Predictive.Parser (Composed primitive_lexical tagsSoundly_of_composed)

/-- The characters that stand for an escape of one letter. -/
def letterCodes : List Char :=
  letterEscapes.map Prod.fst

/-- The letters from the bell on are in the table, in the order of the code points. -/
theorem mem_letterEscapes
    {index : Nat}
    {letter : Char}
    (lettered : "abtnvfr".toList[index]? = some letter) :
    (letter, Char.ofNat (7 + index)) ∈ letterEscapes := by
  have all : ∀ entry ∈ "abtnvfr".toList.zipIdx,
      (entry.1, Char.ofNat (7 + entry.2)) ∈ letterEscapes := by decide
  exact all (letter, index) (List.mk_mem_zipIdx_iff_getElem?.mpr lettered)

/-- The characters that would end a literal or start an escape are escaped by themselves. -/
theorem mem_letterEscapes_itself {c : Char} (quoted : c ∈ ['\\', '"', '\'']) :
    (c, c) ∈ letterEscapes := by
  have all : ['\\', '"', '\''].all (fun c => letterEscapes.contains (c, c)) = true := rfl
  exact List.contains_iff_mem.mp (List.all_eq_true.mp all c quoted)

/-- The table has the names of the first control codes, with the code points they stand for. -/
theorem mem_controlNames
    {code : Nat}
    {name : String}
    (named : asciiNames[code]? = some name) :
    (name, Char.ofNat code) ∈ controlNames := by
  have all : ∀ entry ∈ asciiNames.zipIdx, (entry.1, Char.ofNat entry.2) ∈ controlNames := by
    decide +kernel
  exact all (name, code) (List.mk_mem_zipIdx_iff_getElem?.mpr named)

theorem mem_controlNames_delete : ("DEL", Char.ofNat 0x7f) ∈ controlNames := by
  decide

/-- Names of control codes consist of letters and digits, of which the first is a capital letter. -/
theorem controlNames_letters :
    ∀ entry ∈ controlNames, entry.1.toList.head?.any Char.isUpper = true ∧
      entry.1.toList.all Char.isAlphanum = true := by
  decide +kernel

/-- A name of a control code starts with a capital letter. -/
theorem exists_capital
    {name : String}
    {c : Char}
    (inTable : (name, c) ∈ controlNames) :
    ∃ first others, name.toList = first :: others ∧ first.isUpper = true := by
  have capital := (controlNames_letters _ inTable).1
  cases letters : name.toList with
  | nil => simp [letters] at capital
  | cons first others => exact ⟨first, others, rfl, by simpa [letters] using capital⟩

/-- No name of a control code is the beginning of one that comes after it. -/
theorem controlNames_pairwise :
    controlNames.Pairwise fun earlier later => ¬ earlier.1.toList <+: later.1.toList := by
  decide +kernel

/-- No letter stands for two escapes. -/
theorem letterEscapes_pairwise :
    letterEscapes.Pairwise fun earlier later => earlier.1 ≠ later.1 := by
  decide

variable {σ υ : Type} [TokenStream σ Char] [LawfulTokenStream σ]

/-! ## Kinds of escapes -/

/-- The escape of a letter is found in the table, since no letter before it is the same. -/
theorem letterEscape_reads
    {letter c : Char}
    (inTable : (letter, c) ∈ letterEscapes)
    (rest : List Char) :
    (letterEscape : Parser σ υ Char).Reads View.tokens [letter] c rest := by
  obtain ⟨front, back, split⟩ := List.append_of_mem inTable
  have apart := letterEscapes_pairwise
  rw [split] at apart
  rw [letterEscape, split, List.map_append, List.map_cons]
  refine ((Parser.char_reads letter rest).map fun _ => c).choice fun parser tried => ?_
  obtain ⟨⟨other, value⟩, inFront, rfl⟩ := List.mem_map.mp tried
  have different := (List.pairwise_append.mp apart).2.2 _ inFront _ List.mem_cons_self
  exact (Parser.char_refuses (by simpa [eq_comm] using different)).map _

/-- A character that is no letter of the table starts no escape of one letter. -/
theorem letterEscape_refuses
    {rest : List Char}
    (stops : StopsAt letterCodes.contains rest) :
    (letterEscape : Parser σ υ Char).Refuses View.tokens rest := by
  refine Parser.choice_refuses fun parser present => ?_
  obtain ⟨⟨letter, value⟩, inTable, rfl⟩ := List.mem_map.mp present
  have notLetter : StopsAt (fun c => c == letter) rest := by
    refine stops.mono fun c same => ?_
    obtain rfl := eq_of_beq same
    exact List.contains_iff_mem.mpr (List.mem_map_of_mem inTable)
  exact ((Parser.char_takesChar letter).refuses notLetter).map _

/-- The digits of a code point, in any base, behind the mark of the base. -/
def codeDigits : Parser σ υ Digits :=
  ((digitsIn 10).orElse ((Parser.char 'o').keepRight (digitsIn 8))).orElse
    ((Parser.char 'x').keepRight (digitsIn 16))

/-- The mark tells the base, as no mark is a digit of a base that is tried before. -/
theorem codeDigits_reads
    {mark digits rest : List Char}
    {base : Nat}
    (marked : CodeMark mark base)
    (some : digits ≠ [])
    (all : ∀ digit ∈ digits, isDigitIn base digit = true)
    (stops : StopsAt (isDigitIn base) rest) :
    (codeDigits : Parser σ υ Digits).Reads View.tokens (mark ++ digits) ⟨base, digits⟩ rest := by
  have read := digitsIn_reads (σ := σ) (υ := υ) all some stops
  have notDigit (c : Char) (others : List Char) (noDigit : c.isDigit = false) :
      (digitsIn 10 : Parser σ υ Digits).Refuses View.tokens (c :: others) :=
    digitsIn_refuses ((stopsAt_cons_iff _ c others).mpr noDigit)
  cases marked with
  | decimal => exact (read.orElse _).orElse _
  | octal =>
      have octal := (Parser.char_reads 'o' (digits ++ rest)).zipWith read fun _ digits => digits
      exact ((notDigit 'o' _ rfl).orElse_reads octal).orElse _
  | hexadecimal =>
      have hexadecimal := (Parser.char_reads 'x' (digits ++ rest)).zipWith read
        fun _ digits => digits
      have noOctal : ((Parser.char 'o').keepRight (digitsIn 8) : Parser σ υ Digits).Refuses
          View.tokens ('x' :: (digits ++ rest)) := (Parser.char_refuses (by simp)).zipWith _
      exact ((notDigit 'x' _ rfl).orElse noOctal).orElse_reads hexadecimal

/-- A sum of digits that leaves 32 bits on the way belongs to no code point, so that it does not
matter that it is given up there. -/
theorem charOfDigits?_eq {base : Nat} (positive : 0 < base) (digits : List Char) :
    charOfDigits? ⟨base, digits⟩ = charOfCode? (digitsValue base digits) := by
  have zeroInside : (IntegerRange.unsigned 32).contains 0 = true := by decide
  rw [charOfDigits?, Digits.inRange?_eq_fit? zeroInside positive, IntegerRange.fit?]
  by_cases small : digitsValue base digits ≤ maxCodePoint
  · have inside : (IntegerRange.unsigned 32).contains (digitsValue base digits) = true := by
      rw [IntegerRange.contains_unsigned_iff]
      have room : (maxCodePoint : Int) ≤ Int.pow 2 32 - 1 := by decide
      omega
    have kept : decide ((digitsValue base digits : Int) ≤ maxCodePoint) = true := by
      simpa using small
    rw [if_pos inside, Option.filter_some, if_pos kept, Option.bind_some, Int.toNat_natCast]
  · have unknown : charOfCode? (digitsValue base digits) = none := by
      rw [charOfCode?, if_neg]
      unfold Nat.isValidChar
      unfold maxCodePoint at small
      omega
    have dropped : ¬ decide ((digitsValue base digits : Int) ≤ maxCodePoint) = true := by
      simpa using small
    rw [unknown]
    split
    · rw [Option.filter_some, if_neg dropped, Option.bind_none]
    · rfl

/-- Digits of a valid code point are read up to the last of them. -/
theorem numericEscape_reads
    {mark digits rest : List Char}
    {base : Nat}
    {c : Char}
    (marked : CodeMark mark base)
    (some : digits ≠ [])
    (all : ∀ digit ∈ digits, isDigitIn base digit = true)
    (code : codePoint base digits = c.toNat)
    (stops : StopsAt (isDigitIn base) rest) :
    (numericEscape : Parser σ υ Char).Reads View.tokens (mark ++ digits) c rest := by
  have known : charOfDigits? ⟨base, digits⟩ = Option.some c := by
    rw [charOfDigits?_eq marked.base_pos, digitsValue_eq_ofDigits, ← codePoint, code, charOfCode?,
      if_pos, Char.ofNat_toNat]
    exact c.valid
  refine (codeDigits_reads marked some all stops).bindNil ?_
  simp only [known]
  exact Parser.pure_reads c

/-- Whether a character starts a numeric escape. -/
def startsNumber (c : Char) : Bool :=
  c.isDigit || c == 'o' || c == 'x'

/-- Only a digit or the mark of a base starts a numeric escape. -/
theorem numericEscape_refuses
    {rest : List Char}
    (stops : StopsAt startsNumber rest) :
    (numericEscape : Parser σ υ Char).Refuses View.tokens rest := by
  have noDigit : StopsAt (isDigitIn 10) rest :=
    stops.mono fun c digit => by
      have isDigit : c.isDigit = true := digit
      rw [startsNumber, isDigit, Bool.true_or, Bool.true_or]
  have noOctal : StopsAt (fun c => c == 'o') rest :=
    stops.mono fun c mark => by rw [eq_of_beq mark]; rfl
  have noHexadecimal : StopsAt (fun c => c == 'x') rest :=
    stops.mono fun c mark => by rw [eq_of_beq mark]; rfl
  have octal : ((Parser.char 'o').keepRight (digitsIn 8) : Parser σ υ Digits).Refuses View.tokens
      rest := ((Parser.char_takesChar 'o').refuses noOctal).zipWith _
  have hexadecimal : ((Parser.char 'x').keepRight (digitsIn 16) : Parser σ υ Digits).Refuses
      View.tokens rest := ((Parser.char_takesChar 'x').refuses noHexadecimal).zipWith _
  have decimalOrOctal := (digitsIn_refuses noDigit).orElse octal
  exact (decimalOrOctal.orElse hexadecimal).bind

/-- The end of a name is known from a character that no name has. -/
theorem not_prefix_append
    {letter : Char → Bool}
    {word text rest : List Char}
    (letters : ∀ c ∈ word, letter c = true)
    (stops : StopsAt letter rest)
    (notPrefix : ¬ word <+: text) :
    ¬ word <+: text ++ rest := by
  rintro ⟨tail, same⟩
  rcases List.append_eq_append_iff.mp same with ⟨middle, rfl, -⟩ | ⟨middle, rfl, split⟩
  · exact notPrefix (List.prefix_append word middle)
  · cases middle with
    | nil => exact notPrefix (by simp)
    | cons c middle =>
        have isLetter := letters c (by simp)
        rw [split, List.cons_append, stopsAt_cons_iff] at stops
        rw [isLetter] at stops
        exact Bool.false_ne_true stops.symm

/-- A name is read in front of what cannot go on a name, since no name that is tried before it is
its beginning. -/
theorem controlNameEscape_reads
    {name : String}
    {c : Char}
    {rest : List Char}
    (inTable : (name, c) ∈ controlNames)
    (stops : StopsAt Char.isAlphanum rest) :
    (controlNameEscape : Parser σ υ Char).Reads View.tokens name.toList c rest := by
  obtain ⟨front, back, split⟩ := List.append_of_mem inTable
  have apart := controlNames_pairwise
  rw [split] at apart
  rw [controlNameEscape, split, List.map_append, List.map_cons]
  refine ((Parser.string_reads name rest).attempt.map fun _ => c).choice fun parser tried => ?_
  obtain ⟨⟨other, value⟩, inFront, rfl⟩ := List.mem_map.mp tried
  have notPrefix := (List.pairwise_append.mp apart).2.2 _ inFront _ List.mem_cons_self
  have otherEntry : (other, value) ∈ controlNames := split ▸ List.mem_append_left _ inFront
  have letters := List.all_eq_true.mp (controlNames_letters _ otherEntry).2
  exact (Parser.string_attempt_refuses (not_prefix_append letters stops notPrefix)).map _

/-- What does not start with a capital letter starts no name. -/
theorem controlNameEscape_refuses
    {rest : List Char}
    (stops : StopsAt Char.isUpper rest) :
    (controlNameEscape : Parser σ υ Char).Refuses View.tokens rest := by
  refine Parser.choice_refuses fun parser present => ?_
  obtain ⟨⟨name, value⟩, inTable, rfl⟩ := List.mem_map.mp present
  obtain ⟨c, others, starts, capital⟩ := exists_capital inTable
  refine (Parser.string_attempt_refuses ?_).map _
  rintro ⟨tail, rfl⟩
  rw [starts, List.cons_append, stopsAt_cons_iff, capital] at stops
  exact Bool.false_ne_true stops.symm

/-- Between the first and the last key, a caret makes a key a control code. -/
theorem controlKeyEscape_reads
    {key c : Char}
    (first : '@' ≤ key)
    (last : key ≤ '_')
    (code : c.toNat + 0x40 = key.toNat)
    (rest : List Char) :
    (controlKeyEscape : Parser σ υ Char).Reads View.tokens ['^', key] c rest := by
  have isKey : controlKeys.toList.contains key = true := by
    have keys : controlKeys.toList = (List.range' 0x40 0x20).map Char.ofNat := by decide
    have inside : key.toNat ∈ List.range' 0x40 0x20 :=
      List.mem_range'_1.mpr ⟨Char.le_def.mp first, Nat.lt_succ_of_le (Char.le_def.mp last)⟩
    rw [List.contains_iff_mem, keys]
    exact List.mem_map.mpr ⟨key.toNat, inside, Char.ofNat_toNat key⟩
  have decoded : controlCode key = c := by
    rw [controlCode, ← code, show '@'.toNat = 0x40 from rfl, Nat.add_sub_cancel, Char.ofNat_toNat]
  have read := ((Parser.satisfy_takesChar (σ := σ) (υ := υ) controlKeys.toList.contains).reads isKey
    rest).map controlCode
  rw [decoded] at read
  exact (Parser.char_reads '^' ([key] ++ rest)).zipWith read fun _ c => c

/-! ## Escapes -/

/-- A numeric escape starts with the mark of a base or with a digit. -/
theorem CodeMark.exists_cons
    {mark digits : List Char}
    {base : Nat}
    (marked : CodeMark mark base)
    (some : digits ≠ [])
    (all : ∀ digit ∈ digits, isDigitIn base digit = true) :
    ∃ first others, mark ++ digits = first :: others ∧ startsNumber first = true := by
  cases marked with
  | decimal =>
      obtain ⟨first, others, rfl⟩ := List.exists_cons_of_ne_nil some
      have digit : first.isDigit = true := all first List.mem_cons_self
      exact ⟨first, others, rfl, by rw [startsNumber, digit, Bool.true_or, Bool.true_or]⟩
  | octal => exact ⟨'o', digits, rfl, rfl⟩
  | hexadecimal => exact ⟨'x', digits, rfl, rfl⟩

/-- What starts a numeric escape could go on a name. -/
theorem isAlphanum_of_startsNumber {c : Char} (starts : startsNumber c = true) :
    c.isAlphanum = true := by
  simp only [startsNumber, Bool.or_eq_true, beq_iff_eq] at starts
  rcases starts with (digit | rfl) | rfl
  · exact Unicode.isAlphanum_of_isDigit digit
  · rfl
  · rfl

/-- No capital letter starts a numeric escape, so that names are not taken for numbers. -/
theorem startsNumber_of_isUpper {c : Char} (capital : c.isUpper = true) :
    startsNumber c = false := by
  have bounds : 'A' ≤ c ∧ c ≤ 'Z' := of_decide_eq_true capital
  refine Bool.eq_false_iff.mpr fun starts => ?_
  simp only [startsNumber, Bool.or_eq_true, beq_iff_eq] at starts
  rcases starts with (digit | rfl) | rfl
  · have below := (Char.isDigit_iff_toNat.mp digit).2
    exact absurd (Nat.le_trans (Char.le_def.mp bounds.1) below) (by decide)
  · exact absurd bounds.2 (by decide)
  · exact absurd bounds.2 (by decide)

/-- Characters apart from the letters of the table are refused as letters. -/
theorem letterEscape_refuses_of_apart
    {starts : Char → Bool}
    (apart : letterCodes.all (fun letter => !starts letter) = true)
    {first : Char}
    (holds : starts first = true)
    (others : List Char) :
    (letterEscape : Parser σ υ Char).Refuses View.tokens (first :: others) := by
  refine letterEscape_refuses ((stopsAt_cons_iff _ _ _).mpr ?_)
  refine Bool.eq_false_iff.mpr fun isLetter => ?_
  have notStart := List.all_eq_true.mp apart first (List.contains_iff_mem.mp isLetter)
  rw [holds] at notStart
  exact Bool.false_ne_true notStart

/-- Each kind of escape is refused by the kinds that are tried before it. -/
theorem usualEscape_reads
    {text rest : List Char}
    {c : Char}
    (code : EscapeCode text c)
    (stops : StopsAt Char.isAlphanum rest) :
    (usualEscape : Parser σ υ Char).Reads View.tokens text c rest := by
  refine Parser.Reads.labels ?_ _
  have oneLetter {letter : Char} (inTable : (letter, c) ∈ letterEscapes) :
      (((letterEscape.orElse numericEscape).orElse controlNameEscape).orElse
        controlKeyEscape : Parser σ υ Char).Reads View.tokens [letter] c rest := by
    have read := letterEscape_reads (σ := σ) (υ := υ) inTable rest
    have orNumber := read.orElse numericEscape
    have orName := orNumber.orElse controlNameEscape
    exact orName.orElse controlKeyEscape
  have named {name : String} (inTable : (name, c) ∈ controlNames) :
      (((letterEscape.orElse numericEscape).orElse controlNameEscape).orElse
        controlKeyEscape : Parser σ υ Char).Reads View.tokens name.toList c rest := by
    obtain ⟨first, others, starts, capital⟩ := exists_capital inTable
    refine ((Parser.Refuses.orElse ?_ ?_).orElse_reads
      (controlNameEscape_reads inTable stops)).orElse _
    · rw [starts]
      exact letterEscape_refuses_of_apart (by decide) capital _
    · rw [starts]
      exact numericEscape_refuses ((stopsAt_cons_iff _ _ _).mpr (startsNumber_of_isUpper capital))
  cases code with
  | letter lettered => exact oneLetter (mem_letterEscapes lettered)
  | itself quoted => exact oneLetter (mem_letterEscapes_itself quoted)
  | number marked some all code =>
      obtain ⟨first, others, split, starts⟩ := CodeMark.exists_cons marked some all
      have read := numericEscape_reads (σ := σ) (υ := υ) marked some all code
        (stops.mono fun c digit => Unicode.isAlphanum_of_isDigitIn digit)
      refine ((Parser.Refuses.orElse_reads ?_ read).orElse _).orElse _
      rw [split]
      exact letterEscape_refuses_of_apart (by decide) starts _
  | name isName => exact named (mem_controlNames isName)
  | delete => exact named mem_controlNames_delete
  | @key key _ first last code =>
      have read := controlKeyEscape_reads (σ := σ) (υ := υ) first last code rest
      have caret {starts : Char → Bool} (apart : starts '^' = false) (others : List Char) :
          StopsAt starts ('^' :: others) := (stopsAt_cons_iff _ _ _).mpr apart
      have noLetter := letterEscape_refuses (σ := σ) (υ := υ) (caret (by decide) (key :: rest))
      have noNumber := numericEscape_refuses (σ := σ) (υ := υ) (caret (by decide) (key :: rest))
      have noName := controlNameEscape_refuses (σ := σ) (υ := υ) (caret (by decide) (key :: rest))
      exact ((noLetter.orElse noNumber).orElse noName).orElse_reads read

/-- Whether a character may start an escape. -/
def startsEscape (c : Char) : Bool :=
  c.isAlphanum || ['\\', '"', '\'', '^'].contains c

theorem startsEscape_of_isAlphanum {c : Char} (letter : c.isAlphanum = true) :
    startsEscape c = true := by
  rw [startsEscape, letter, Bool.true_or]

theorem isWhiteSpace_of_startsEscape {c : Char} (starts : startsEscape c = true) :
    Unicode.isWhiteSpace c = false := by
  rcases Bool.or_eq_true_iff.mp starts with letter | mark
  · exact Unicode.isWhiteSpace_of_isAlphanum letter
  · exact Unicode.isWhiteSpace_of_mem (by decide) (List.contains_iff_mem.mp mark)

/-- An escape starts with a character that no filler starts with. -/
theorem EscapeCode.exists_cons {text : List Char} {c : Char} (code : EscapeCode text c) :
    ∃ first others, text = first :: others ∧ startsEscape first = true := by
  have named {name : String} {c : Char} (inTable : (name, c) ∈ controlNames) :
      ∃ first others, name.toList = first :: others ∧ startsEscape first = true := by
    obtain ⟨first, others, starts, capital⟩ := exists_capital inTable
    have letter := Unicode.isAlphanum_of_isUpper capital
    exact ⟨first, others, starts, startsEscape_of_isAlphanum letter⟩
  cases code with
  | letter lettered =>
      have all : "abtnvfr".toList.all startsEscape = true := by decide
      exact ⟨_, [], rfl, List.all_eq_true.mp all _ (List.mem_of_getElem? lettered)⟩
  | itself quoted =>
      have all : ['\\', '"', '\''].all startsEscape = true := rfl
      exact ⟨_, [], rfl, List.all_eq_true.mp all _ quoted⟩
  | number marked some all code =>
      obtain ⟨first, others, split, starts⟩ := CodeMark.exists_cons marked some all
      exact ⟨first, others, split, startsEscape_of_isAlphanum (isAlphanum_of_startsNumber starts)⟩
  | name isName => exact named (mem_controlNames isName)
  | delete => exact named mem_controlNames_delete
  | key first last code => exact ⟨'^', _, rfl, rfl⟩

/-! ## Parts of strings -/

/-- What a string holds behind a backslash for no character. -/
def fillerPart : Parser σ υ (Option Char) :=
  ((Parser.space.many1.keepRight ((Parser.char '\\').label "end of string gap")).map
    fun _ => none).orElse ((Parser.char '&').map fun _ => none)

omit [LawfulTokenStream σ] in
/-- White space is what `space` takes, under its label. -/
theorem space_takesChar : (Parser.space : Parser σ υ Char).TakesChar Unicode.isWhiteSpace :=
  (Parser.satisfy_takesChar _).label _

/-- No filler starts as an escape does. -/
theorem fillerPart_refuses
    {first : Char}
    (starts : startsEscape first = true)
    (others : List Char) :
    (fillerPart : Parser σ υ (Option Char)).Refuses View.tokens (first :: others) := by
  have notBlank := isWhiteSpace_of_startsEscape starts
  have notEmpty : '&' ∉ (first :: others).head? := by
    rintro same
    obtain rfl : first = '&' := by simpa using same
    exact Bool.false_ne_true starts
  have noGap : (Parser.space.many1 : Parser σ υ (List Char)).Refuses View.tokens
      (first :: others) :=
    (space_takesChar.refuses ((stopsAt_cons_iff _ _ _).mpr notBlank)).zipWith _
  have noClosedGap : (Parser.space.many1.keepRight
      ((Parser.char '\\').label "end of string gap") : Parser σ υ Char).Refuses View.tokens
        (first :: others) := noGap.zipWith _
  exact (noClosedGap.map _).orElse ((Parser.char_refuses notEmpty).map _)

/-- A filler is read behind the backslash that starts it. -/
theorem fillerPart_reads
    {text rest : List Char}
    (fills : Filler ('\\' :: text)) :
    (fillerPart : Parser σ υ (Option Char)).Reads View.tokens text none rest := by
  cases fills with
  | empty =>
      have noGap : (Parser.space.many1 : Parser σ υ (List Char)).Refuses View.tokens
          ('&' :: rest) :=
        (space_takesChar.refuses ((stopsAt_cons_iff _ _ _).mpr (by decide))).zipWith _
      have noClosedGap : (Parser.space.many1.keepRight
          ((Parser.char '\\').label "end of string gap") : Parser σ υ Char).Refuses View.tokens
            ('&' :: rest) := noGap.zipWith _
      exact (noClosedGap.map _).orElse_reads ((Parser.char_reads '&' rest).map fun _ => none)
  | gap some blank =>
      have stops : StopsAt Unicode.isWhiteSpace ('\\' :: rest) :=
        (stopsAt_cons_iff _ _ _).mpr (by decide)
      have closing := (Parser.char_reads (σ := σ) (υ := υ) '\\' rest).labels ["end of string gap"]
      have spaces := space_takesChar.many1_reads (σ := σ) (υ := υ) blank stops some
      have gap := (spaces.zipWith closing fun _ mark => mark).map fun _ => (none : Option Char)
      exact gap.orElse _

/-- A backslash never stands for itself. -/
theorem isPlainIn_backslash (delimiter : Char) (rest : List Char) :
    StopsAt (isPlainIn delimiter) ('\\' :: rest) :=
  (stopsAt_cons_iff _ _ _).mpr (by simp [isPlainIn])

/-- Behind a backslash a string goes on with a filler or an escape. -/
theorem stringPart_reads_backslash
    (language : Language σ υ)
    {text rest : List Char}
    {part : Option Char}
    (reads : (fillerPart.orElse (language.escape.map some)).Reads View.tokens text part rest) :
    language.stringPart.Reads View.tokens ('\\' :: text) part rest := by
  have refuses := (Parser.satisfy_takesChar (σ := σ) (υ := υ) (isPlainIn '"')).refuses
    (isPlainIn_backslash '"' (text ++ rest))
  have escaped := (Parser.char_reads '\\' (text ++ rest)).zipWith reads fun _ part => part
  exact ((refuses.map some).orElse_reads escaped).labels _

/-- A filler starts with a backslash, so that it goes on no escape. -/
theorem Filler.exists_cons {filler : List Char} (fills : Filler filler) :
    ∃ text, filler = '\\' :: text := by
  cases fills with
  | empty => exact ⟨_, rfl⟩
  | gap some blank => exact ⟨_, rfl⟩

theorem isPlainIn_of_spelling
    {delimiter c : Char}
    (above : '\x1a' < c)
    (inside : c ≠ delimiter)
    (unescaped : c ≠ '\\') :
    isPlainIn delimiter c = true := by
  simp [isPlainIn, above, inside, unescaped]

section
variable {language : Language σ υ} (builtIn : language.escape? = none)
include builtIn

/-- The escapes of a language that has none of its own are the usual ones. -/
theorem escape_reads
    {text rest : List Char}
    {c : Char}
    (code : EscapeCode text c)
    (stops : StopsAt Char.isAlphanum rest) :
    language.escape.Reads View.tokens text c rest := by
  rw [escape, builtIn]
  exact usualEscape_reads code stops

/-- A part of a string reads any spelling of a character. -/
theorem stringPart_reads_spelling
    {text rest : List Char}
    {c : Char}
    (spelling : Spelling '"' text c)
    (stops : StopsAt Char.isAlphanum rest) :
    language.stringPart.Reads View.tokens text (some c) rest := by
  cases spelling with
  | plain above inside unescaped =>
      exact language.stringPart_reads (isPlainIn_of_spelling above inside unescaped) rest
  | escaped code =>
      obtain ⟨first, others, rfl, starts⟩ := EscapeCode.exists_cons code
      exact language.stringPart_reads_backslash ((fillerPart_refuses starts _).orElse_reads
        ((escape_reads builtIn code stops).map some))

/-- The inside of a string consists of parts, of which the characters are kept. -/
theorem StringText.exists_rounds
    {text chars : List Char}
    (spelled : StringText text chars)
    (rest : List Char) :
    ∃ parts, parts.filterMap id = chars ∧
      Parser.Rounds View.tokens language.stringPart text parts rest := by
  have filled {filler text : List Char} {parts : List (Option Char)} (fills : Filler filler)
      (rounds : Parser.Rounds View.tokens language.stringPart text parts rest) :
      Parser.Rounds View.tokens language.stringPart (filler ++ text) (none :: parts) rest := by
    obtain ⟨inside, rfl⟩ := Filler.exists_cons fills
    exact .cons (List.cons_ne_nil _ _)
      (language.stringPart_reads_backslash ((fillerPart_reads fills).orElse _)) rounds
  induction spelled with
  | nil => exact ⟨[], rfl, .nil _⟩
  | filler fills others ih =>
      obtain ⟨parts, rfl, rounds⟩ := ih
      exact ⟨none :: parts, rfl, filled fills rounds⟩
  | @spelled word filler text chars c spelling fills others ih =>
      obtain ⟨parts, rfl, rounds⟩ := ih
      have some : word ≠ [] := by cases spelling <;> exact List.cons_ne_nil _ _
      -- A filler starts with a backslash, which goes on no escape.
      have stops : StopsAt Char.isAlphanum (filler ++ text ++ rest) := by
        obtain ⟨inside, rfl⟩ := Filler.exists_cons fills
        exact (stopsAt_cons_iff _ _ _).mpr (by decide)
      exact ⟨Option.some c :: none :: parts, rfl,
        .cons some (stringPart_reads_spelling builtIn spelling stops) (filled fills rounds)⟩

/-- The inside of a character literal reads any spelling of a character. -/
theorem character_reads_spelling
    {text rest : List Char}
    {c : Char}
    (spelling : Spelling '\'' text c)
    (stops : StopsAt Char.isAlphanum rest) :
    ((Parser.satisfy (isPlainIn '\'')).orElse ((Parser.char '\\').keepRight
      language.escape)).Reads View.tokens text c rest := by
  cases spelling with
  | plain above inside unescaped =>
      have plain := isPlainIn_of_spelling above inside unescaped
      exact ((Parser.satisfy_takesChar _).reads plain rest).orElse _
  | @escaped code _ isCode =>
      have refuses := (Parser.satisfy_takesChar (σ := σ) (υ := υ) (isPlainIn '\'')).refuses
        (isPlainIn_backslash '\'' (code ++ rest))
      have escaped := (Parser.char_reads '\\' (code ++ rest)).zipWith
        (escape_reads builtIn isCode stops) fun _ c => c
      exact refuses.orElse_reads escaped

end

/-! ## Code points that no character has -/

section
variable {text rest : List Char} (invalid : InvalidEscape text rest)
include invalid

theorem InvalidEscape.exists_cons :
    ∃ first others, text = first :: others ∧ startsNumber first = true := by
  cases invalid with
  | number marked some all stops invalid => exact CodeMark.exists_cons marked some all

/-- Digits of no character are read, and then the escape fails behind them. -/
theorem numericEscape_fails
    {state : State σ υ}
    (viewed : View.tokens state (text ++ rest)) :
    ∃ error, numericEscape.Fails state true error := by
  cases invalid with
  | @number mark digits _ base marked some all stops invalid =>
      have unknown : charOfDigits? ⟨base, digits⟩ = none := by
        rw [charOfDigits?_eq marked.base_pos, digitsValue_eq_ofDigits, ← codePoint, charOfCode?,
          if_neg]
        unfold Nat.isValidChar
        omega
      obtain ⟨next, error, ran, -⟩ := codeDigits_reads marked some all stops viewed
      obtain ⟨first, others, split, -⟩ := CodeMark.exists_cons marked some all
      have failed {body : Parser σ υ Char} (same : body = Parser.fail "invalid escape sequence") :
          body.Fails next false (.single next.position .generic "invalid escape sequence") := by
        rw [same]
        rfl
      have consumes : (!(mark ++ digits).isEmpty) = true := by rw [split]; rfl
      rw [consumes] at ran
      exact ⟨_, ran.bind_fails (failed (by simp only [unknown]))⟩

/-- No other kind of escape is tried behind the digits of a numeric one. -/
theorem usualEscape_fails
    {state : State σ υ}
    (viewed : View.tokens state (text ++ rest)) :
    ∃ error, usualEscape.Fails state true error := by
  obtain ⟨error, numberFails⟩ := numericEscape_fails invalid viewed
  obtain ⟨first, others, rfl, starts⟩ := InvalidEscape.exists_cons invalid
  obtain ⟨earlier, noLetter⟩ := letterEscape_refuses_of_apart (by decide) starts _ viewed
  have letterOrNumber := Parser.Fails.orElse_fails noLetter numberFails
  have orName := letterOrNumber.orElse controlNameEscape
  have orKey := orName.orElse controlKeyEscape
  exact ⟨error, orKey.labels ["escape code"]⟩

variable {language : Language σ υ} (builtIn : language.escape? = none)
include builtIn

/-- The failure is that of the escapes of the language. -/
theorem escape_fails
    {state : State σ υ}
    (viewed : View.tokens state (text ++ rest)) :
    ∃ error, language.escape.Fails state true error := by
  rw [escape, builtIn]
  exact usualEscape_fails invalid viewed

/-- A character literal fails behind its quote and the backslash. -/
theorem charLiteral_fails
    {state : State σ υ}
    (viewed : View.tokens state ('\'' :: '\\' :: (text ++ rest))) :
    ∃ error, language.charLiteral.Fails state true error := by
  obtain ⟨opened, _, quoteRan, viewedOpened⟩ :=
    Parser.char_reads '\'' ('\\' :: (text ++ rest)) viewed
  obtain ⟨_, noPlain⟩ := (Parser.satisfy_takesChar (isPlainIn '\'')).refuses
    (isPlainIn_backslash '\'' (text ++ rest)) viewedOpened
  obtain ⟨middle, _, markRan, behind⟩ := Parser.char_reads '\\' (text ++ rest) viewedOpened
  obtain ⟨error, escapeFails⟩ := escape_fails invalid builtIn behind
  have escapedFails := markRan.zipWith_fails escapeFails fun _ c => c
  have eitherFails := Parser.Fails.orElse_fails noPlain escapedFails
  have characterFails := eitherFails.labels ["literal character"]
  have openedFails := quoteRan.zipWith_fails characterFails fun _ c => c
  have quotedFails := openedFails.zipWith ((Parser.char '\'').label "end of character") fun c _ => c
  have lexemeFails := quotedFails.zipWith language.whiteSpace fun c _ => c
  exact ⟨error, lexemeFails.labels ["character"]⟩

/-- A part of a string fails behind the backslash, which no filler goes on with such an escape. -/
theorem stringPart_fails
    {state : State σ υ}
    (viewed : View.tokens state ('\\' :: (text ++ rest))) :
    ∃ error, language.stringPart.Fails state true error := by
  obtain ⟨_, noPlain⟩ := (Parser.satisfy_takesChar (isPlainIn '"')).refuses
    (isPlainIn_backslash '"' (text ++ rest)) viewed
  obtain ⟨middle, _, markRan, behind⟩ := Parser.char_reads '\\' (text ++ rest) viewed
  obtain ⟨error, escapeFails⟩ := escape_fails invalid builtIn behind
  obtain ⟨first, others, rfl, starts⟩ := InvalidEscape.exists_cons invalid
  have escapes := startsEscape_of_isAlphanum (isAlphanum_of_startsNumber starts)
  obtain ⟨_, noFiller⟩ := fillerPart_refuses escapes _ behind
  have behindMarkFails := Parser.Fails.orElse_fails noFiller (escapeFails.map some)
  have escapedFails := markRan.zipWith_fails behindMarkFails fun _ part => part
  have eitherFails := Parser.Fails.orElse_fails (noPlain.map some) escapedFails
  exact ⟨error, eitherFails.labels ["string character"]⟩

end

section
variable {language : Language σ υ} (builtIn : language.escape? = none)
include builtIn

/-- Each part of a string spends a token. -/
theorem stringPart_spends : language.stringPart.Relates State.Spends := by
  have usual : Composed Parser.Primitive language.escape := by
    rw [escape, builtIn]
    exact primitive_lexical.usualEscape
  have filler : Composed Parser.Primitive (fillerPart : Parser σ υ (Option Char)) :=
    (((Composed.many1 (.label _ (.satisfy _))).keepRight ((Composed.char _).label _)).map _).orElse
      ((Composed.char _).map _)
  have composed : Composed Parser.Primitive language.stringPart :=
    .label _ (.orElse (.map _ (.satisfy _))
      ((Composed.char _).keepRight (filler.orElse (usual.map _))))
  exact fun _ _ _ _ _ ran => (tagsSoundly_of_composed composed ran).spends

/-- A string fails wherever its parts come to an escape of a code point that no character has. -/
theorem stringLiteral_fails
    {text rest : List Char}
    (invalid : InvalidEscape text rest)
    {state opened middle : State σ υ}
    {parts : List (Option Char)}
    {earlier : ParseError}
    (quoteRan : (Parser.char '"').Yields state true '"' opened earlier)
    (repeated : language.stringPart.Repeats opened parts middle)
    (viewed : View.tokens middle ('\\' :: (text ++ rest))) :
    ∃ error, language.stringLiteral.Fails state true error := by
  obtain ⟨error, partFails⟩ := stringPart_fails invalid builtIn viewed
  have few := repeated.length_lt_patience (stringPart_spends builtIn)
  have foldFails := repeated.manyFold_fails few partFails [] fun parts part => part :: parts
  have partsFail : language.stringPart.many.Fails opened true error := foldFails.map List.reverse
  have openedFails := quoteRan.zipWith_fails partsFail fun _ parts => parts
  have quotedFails := openedFails.zipWith ((Parser.char '"').label "end of string")
    fun parts _ => parts
  have textFails := quotedFails.map fun parts => String.ofList (parts.filterMap id)
  have lexemeFails := textFails.zipWith language.whiteSpace fun text _ => text
  exact ⟨error, lexemeFails.labels ["literal string"]⟩

end

/-! ## Literals -/

/-- With the usual escapes, literals decode every spelling of their characters, whatever can be
skipped behind them, and a numeric escape of a code point that no character has makes a literal fail
wherever its reading comes to it. -/
theorem literals_decode_spellings
    {language : Language σ υ}
    (builtIn : language.escape? = none) :
    (∀ ⦃gap left⦄, language.Skipped (gap ++ left) left → language.SolidAt left →
      (∀ ⦃text chars⦄, StringText text chars →
        language.stringLiteral.Reads View.tokens ('"' :: text ++ ['"'] ++ gap)
          (String.ofList chars) left) ∧
      ∀ ⦃text c⦄, Spelling '\'' text c →
        language.charLiteral.Reads View.tokens ('\'' :: text ++ ['\''] ++ gap) c left) ∧
    ∀ ⦃text rest⦄, InvalidEscape text rest → ∀ state : State σ υ,
      (View.tokens state ('\'' :: '\\' :: (text ++ rest)) →
        ∃ error, language.charLiteral.Fails state true error) ∧
      (∀ front chars, StringText front chars →
        View.tokens state ('"' :: (front ++ '\\' :: (text ++ rest))) →
          ∃ error, language.stringLiteral.Fails state true error) ∧
      ∀ opened middle parts earlier, (Parser.char '"').Yields state true '"' opened earlier →
        language.stringPart.Repeats opened parts middle →
          View.tokens middle ('\\' :: (text ++ rest)) →
            ∃ error, language.stringLiteral.Fails state true error := by
  constructor
  · intro gap left skipped solid
    have skips := skipped.whiteSpace_reads solid
    constructor
    · intro text chars spelled
      obtain ⟨parts, rfl, rounds⟩ := StringText.exists_rounds builtIn spelled ('"' :: (gap ++ left))
      exact language.stringLiteral_reads_of_rounds skips rounds
    · intro text c spelling
      exact language.charLiteral_reads_of_character skips
        (character_reads_spelling builtIn spelling ((stopsAt_cons_iff _ _ _).mpr (by decide)))
  · intro text rest invalid state
    refine ⟨charLiteral_fails invalid builtIn, fun front chars spelled viewed => ?_,
      fun _ _ _ _ quoteRan repeated => stringLiteral_fails builtIn invalid quoteRan repeated⟩
    obtain ⟨opened, earlier, quoteRan, viewedOpened⟩ := Parser.char_reads '"' _ viewed
    obtain ⟨parts, -, rounds⟩ := StringText.exists_rounds builtIn spelled ('\\' :: (text ++ rest))
    obtain ⟨middle, repeated, behind⟩ := rounds.repeats viewedOpened
    exact stringLiteral_fails builtIn invalid quoteRan repeated behind

/-- A string with a name that a letter would go on, a gap, and a number with leading zeros; and a
character beyond the last code point. -/
theorem literals_decode_spellings_mixed :
    let string : Parser Text Unit String := (haskellStyle : Language Text Unit).stringLiteral
    let character : Parser Text Unit Char := (haskellStyle : Language Text Unit).charLiteral
    (∃ next error, string.Yields
        ⟨Text.ofString "\"\\SO\\&H\\&\\ \\\\x00041\\&\"", .start "t", ()⟩ true "\x0eHA"
        next error) ∧
      ∃ error, character.Fails ⟨Text.ofString "'\\1114112'", .start "t", ()⟩ true error := by
  have usual : (haskellStyle : Language Text Unit).escape? = none := rfl
  obtain ⟨decodes, fails⟩ := literals_decode_spellings usual
  constructor
  · have shiftOut : Spelling '"' ('\\' :: "SO".toList) '\x0e' := .escaped (.name rfl)
    have plain : Spelling '"' ['H'] 'H' := .plain (by decide) (by decide) (by decide)
    have number : Spelling '"' ('\\' :: (['x'] ++ "00041".toList)) 'A' :=
      .escaped (.number .hexadecimal (by decide) (List.all_eq_true.mp rfl) rfl)
    have gap : Filler (['\\', ' '] ++ ['\\']) :=
      .gap (List.cons_ne_nil _ _) (List.all_eq_true.mp rfl)
    have spelled := StringText.nil |>.spelled number .empty |>.filler gap |>.spelled plain .empty
      |>.spelled shiftOut .empty
    have viewed : View.tokens
        (⟨Text.ofString "\"\\SO\\&H\\&\\ \\\\x00041\\&\"", .start "t", ()⟩ : State Text Unit)
        ("\"\\SO\\&H\\&\\ \\\\x00041\\&\"".toList ++ []) := by
      unfold View.tokens
      decide +kernel
    obtain ⟨next, error, ran, -⟩ := (decodes .refl (solidAt_nil _)).1 spelled viewed
    exact ⟨next, error, ran⟩
  · have large : InvalidEscape "1114112".toList ['\''] :=
      .number .decimal (by decide) (List.all_eq_true.mp rfl) (by decide) (.inr (by decide))
    refine (fails large _).1 ?_
    unfold View.tokens
    decide +kernel

end Language
end Predictive
