import Predictive.Quoted

/-!
# Positions in a source

A position names its source and counts lines and columns from one. Characters move it
forward: a newline to the start of the next line, a tab to the next tab stop, and any
other character one column to the right, a carriage return included. Positions are
ordered by line, then by column, then by the name of the source.
-/

namespace Predictive

/-- The number of columns from one tab stop to the next. -/
def tabWidth : Nat := 8

/-- A line and a column, both counted from one, in a named source. -/
structure Position where
  name : String
  line : Nat
  column : Nat
  one_le_line : 1 ≤ line := by omega
  one_le_column : 1 ≤ column := by omega
deriving DecidableEq

namespace Position

/-- The position at a line and a column, where a zero counts as one. -/
def clamped (name : String) (line column : Nat) : Position where
  name := name
  line := max 1 line
  column := max 1 column

/-- The position of the first character of a source. -/
def start (name : String) : Position :=
  clamped name 1 1

instance : Inhabited Position := ⟨start ""⟩

/-- The position with another line, where a zero counts as one. -/
def withLine (position : Position) (line : Nat) : Position :=
  { position with line := max 1 line, one_le_line := by omega }

/-- The position with another column, where a zero counts as one. -/
def withColumn (position : Position) (column : Nat) : Position :=
  { position with column := max 1 column, one_le_column := by omega }

/-- The position one column to the right. -/
def nextColumn (position : Position) : Position :=
  { position with column := position.column + 1, one_le_column := by omega }

/-- The first column of the next line. -/
def nextLine (position : Position) : Position :=
  { position with
    line := position.line + 1, one_le_line := by omega
    column := 1, one_le_column := by omega }

/-- The next tab stop to the right. -/
def nextTabStop (position : Position) : Position :=
  { position with
    column := ((position.column - 1) / tabWidth + 1) * tabWidth + 1, one_le_column := by omega }

/-- The position after a character. -/
def afterChar (position : Position) (c : Char) : Position :=
  if c = '\n' then position.nextLine
  else if c = '\t' then position.nextTabStop
  else position.nextColumn

/-- The position after some characters, one by one. -/
def afterChars (position : Position) (chars : List Char) : Position :=
  chars.foldl afterChar position

/-- The position after a text. -/
def afterString (position : Position) (text : String) : Position :=
  position.afterChars text.toList

@[simp] theorem afterChar_newline (position : Position) :
    position.afterChar '\n' = position.nextLine := rfl

@[simp] theorem afterChar_tab (position : Position) :
    position.afterChar '\t' = position.nextTabStop := rfl

theorem afterChar_of_ne
    {c : Char}
    (notNewline : c ≠ '\n')
    (notTab : c ≠ '\t')
    (position : Position) :
    position.afterChar c = position.nextColumn := by
  simp [afterChar, notNewline, notTab]

@[simp] theorem afterChars_nil (position : Position) : position.afterChars [] = position := rfl

@[simp] theorem afterChars_cons
    (position : Position)
    (c : Char)
    (chars : List Char) :
    position.afterChars (c :: chars) = (position.afterChar c).afterChars chars := rfl

theorem afterChars_append
    (position : Position)
    (front back : List Char) :
    position.afterChars (front ++ back) = (position.afterChars front).afterChars back := by
  simp [afterChars]

/-- Lines are compared first, then columns, then the names of the sources. -/
instance : Ord Position where
  compare a b :=
    (compare a.line b.line).then ((compare a.column b.column).then (compare a.name b.name))

/-- The written form: the name in quotes, unless it is empty, then line and column. -/
def render (position : Position) : String :=
  let place := "(line " ++ toString position.line ++ ", column " ++ toString position.column ++ ")"
  if position.name = "" then place else Quoted.string position.name ++ " " ++ place

end Position
end Predictive
