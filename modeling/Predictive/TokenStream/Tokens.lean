import Predictive.TokenStream.Basic

/-!
# Arrays of tokens as streams

A token stream is an array with the number of tokens already taken. Every token is one
column wide, so that the column of a position counts the tokens of a line.
-/

namespace Predictive

/-- An array of tokens, the first `index` of which are taken. -/
structure Tokens (τ : Type) where
  items : Array τ
  index : Nat
  index_le : index ≤ items.size := by omega

namespace Tokens

variable {τ : Type}

/-- The stream of the tokens of a list. -/
def ofList (tokens : List τ) : Tokens τ :=
  ⟨tokens.toArray, 0, Nat.zero_le _⟩

/-- The tokens to come. -/
def toList (tokens : Tokens τ) : List τ :=
  tokens.items.toList.drop tokens.index

/-- The number of tokens to come. -/
def size (tokens : Tokens τ) : Nat :=
  tokens.items.size - tokens.index

/-- Whether no tokens are left. -/
def isEmpty (tokens : Tokens τ) : Bool :=
  tokens.items.size ≤ tokens.index

/-- The first token and the tokens after it. -/
def uncons? (tokens : Tokens τ) : Option (τ × Tokens τ) :=
  if inside : tokens.index < tokens.items.size then
    some (tokens.items[tokens.index], ⟨tokens.items, tokens.index + 1, inside⟩)
  else none

/-- Two streams are equal if they have the same tokens to come. -/
instance [BEq τ] : BEq (Tokens τ) where
  beq first second := first.toList == second.toList

instance : TokenStream (Tokens τ) τ where
  uncons? := uncons?
  toList := toList
  size := size
  afterToken position _ := position.nextColumn

@[simp] theorem toList_ofList (tokens : List τ) : (ofList tokens).toList = tokens := rfl

@[simp] theorem index_ofList (tokens : List τ) : (ofList tokens).index = 0 := rfl

@[simp] theorem length_toList (tokens : Tokens τ) : tokens.toList.length = tokens.size := by
  simp [toList, size]

theorem toList_of_uncons?
    {tokens after : Tokens τ}
    {token : τ}
    (taken : tokens.uncons? = some (token, after)) :
    tokens.toList = token :: after.toList := by
  unfold uncons? at taken
  split at taken
  · rename_i inside
    simp only [Option.some.injEq, Prod.mk.injEq] at taken
    obtain ⟨rfl, rfl⟩ := taken
    simp [toList, List.drop_eq_getElem_cons, inside]
  · contradiction

theorem toList_of_uncons?_eq_none
    {tokens : Tokens τ}
    (atEnd : tokens.uncons? = none) :
    tokens.toList = [] := by
  unfold uncons? at atEnd
  split at atEnd
  · contradiction
  · simp only [toList, List.drop_eq_nil_iff, Array.length_toList]
    omega

instance : LawfulTokenStream (Tokens τ) where
  toList_eq_nil := toList_of_uncons?_eq_none
  toList_eq_cons := toList_of_uncons?
  size_lt_of_uncons? := by
    intro tokens after token taken
    have view := congrArg List.length (toList_of_uncons? taken)
    simp only [length_toList, List.length_cons] at view
    show after.size < tokens.size
    omega

end Tokens
end Predictive
