import Predictive.Parser.Choice

/-!
# Permutations

A permutation is a list of members that may occur in any order, each of them at most
once. A member with a default may be missing. The values come in the order of the list,
wherever the members stood in the input.
-/

namespace Predictive

/-- A member of a permutation: its parser, and its default if it may be missing. -/
structure Member (σ υ α : Type) where
  parser : Parser σ υ α
  default? : Option α

/-- Members that may occur in any order. -/
abbrev Permutation (σ υ α : Type) := List (Member σ υ α)

namespace Permutation

variable {σ υ α : Type}

/-- Each element of a list with its index and the list of the others. -/
def picks {β : Type} (list : List β) : List (Nat × β × List β) :=
  list.zipIdx.map fun (value, index) => (index, value, list.eraseIdx index)

/-- The defaults of all members, if all have one. -/
def defaults? (members : Permutation σ υ α) : Option (List α) :=
  members.mapM Member.default?

/-- A permutation of as many members as `size` says. The separator, if there is one, stands in
front of every member but the first. -/
def sized
    (separator? : Option (Parser σ υ Unit)) :
    (size : Nat) → (isFirst : Bool) → Permutation σ υ α → Parser σ υ (List α)
  | 0, _, _ => Parser.pure []
  | size + 1, isFirst, members =>
      let branches := (picks members).map fun (index, member, others) =>
        member.parser.bind fun value =>
          (sized separator? size false others).map fun values => values.insertIdx index value
      let next := match isFirst, separator? with
        | false, some separator => separator.keepRight (Parser.choice branches)
        | _, _ => Parser.choice branches
      match members.defaults? with
      | some values => next.orElse (Parser.pure values)
      | none => next

/-- The members in any order. -/
def parser (members : Permutation σ υ α) : Parser σ υ (List α) :=
  sized none members.length true members

/-- The members in any order, with separators between them. -/
def separated (members : Permutation σ υ α) (separator : Parser σ υ Unit) :
    Parser σ υ (List α) :=
  sized (some separator) members.length true members

@[simp] theorem length_picks {β : Type} (list : List β) : (picks list).length = list.length := by
  simp [picks]

/-- What is picked is an element of the list, beside the list without it. -/
theorem mem_picks_iff
    {β : Type}
    {list others : List β}
    {index : Nat}
    {value : β} :
    (index, value, others) ∈ picks list ↔
      ∃ inside : index < list.length, list[index] = value ∧ list.eraseIdx index = others := by
  simp only [picks, List.mem_map, Prod.exists, Prod.mk.injEq]
  constructor
  · rintro ⟨found, place, present, rfl, rfl, rfl⟩
    obtain ⟨inside, same⟩ := List.mem_zipIdx' present
    exact ⟨inside, same.symm, rfl⟩
  · rintro ⟨inside, rfl, rfl⟩
    exact ⟨list[index], index, List.mem_zipIdx_iff_getElem?.mpr (by simp), rfl, rfl, rfl⟩

end Permutation
end Predictive
