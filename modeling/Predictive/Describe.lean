import Predictive.Decimal.Integer
import Predictive.Quoted
import Predictive.Position
import Predictive.TokenStream.Text
import Predictive.TokenStream.Tokens

/-!
# Descriptions of values

Messages show tokens and values by their description, which is the way a value is
written in a listing. Where a message names the value itself, characters stand in double
quotes like the one-letter texts they are.
-/

namespace Predictive

/-- Values with a written description. -/
class Describe (α : Type) where
  /-- The description of a value. -/
  describe : α → String
  /-- The name of a value in a message about it. -/
  name : α → String := describe

export Describe (describe)

/-- The descriptions of some values in brackets. -/
def describeList {α : Type} [Describe α] (values : List α) : String :=
  "[" ++ ", ".intercalate (values.map describe) ++ "]"

instance : Describe Unit where
  describe _ := "()"

instance : Describe Bool where
  describe value := if value then "true" else "false"

instance : Describe Nat where
  describe value := decimalText value

instance : Describe Int where
  describe := decimalText

instance : Describe Char where
  describe := Quoted.char
  name := Quoted.letter

instance : Describe String where
  describe := Quoted.string

instance : Describe Position where
  describe := Position.render

instance {α : Type} [Describe α] : Describe (Option α) where
  describe
    | none => "None"
    | some value => "Some(" ++ describe value ++ ")"

instance {α : Type} [Describe α] : Describe (List α) where
  describe := describeList

instance : Describe Text where
  describe text := "Text(" ++ describe text.rest ++ ")"

instance {τ : Type} [Describe τ] : Describe (Tokens τ) where
  describe tokens := "Tokens(" ++ describe tokens.toList ++ ")"

end Predictive
