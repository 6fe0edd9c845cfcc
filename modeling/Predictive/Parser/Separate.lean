import Predictive.Parser.Repeat

/-!
# Separated items

Lists of items with separators between them, after each of them, or with an optional one
after the last.
-/

namespace Predictive
namespace Parser

variable {σ τ υ α β : Type}

/-- The rounds of `sepEndBy1`, from items in reverse, a state and an error reached already. -/
def sepEndByFrom
    (parser : Parser σ υ α)
    (separator : Parser σ υ β) :
    Nat → Bool → List α → State σ υ → ParseError → Except Defect (Outcome σ υ (List α))
  | 0, _, _, _, _ => .error .unbounded
  | rounds + 1, consumed, items, state, error =>
      match separator.run state with
      | .error defect => .error defect
      | .ok ⟨true, .failed sepError⟩ => .ok ⟨true, .failed sepError⟩
      | .ok ⟨false, .failed sepError⟩ =>
          .ok ⟨consumed, .ok items.reverse state (error.merge sepError)⟩
      | .ok ⟨sepConsumed, .ok _ afterSep sepError⟩ =>
          let boundary := if sepConsumed then sepError else error.merge sepError
          match parser.run afterSep with
          | .error defect => .error defect
          | .ok ⟨true, .failed itemError⟩ => .ok ⟨true, .failed itemError⟩
          | .ok ⟨false, .failed itemError⟩ =>
              .ok ⟨consumed || sepConsumed, .ok items.reverse afterSep (boundary.merge itemError)⟩
          | .ok ⟨true, .ok item next itemError⟩ =>
              sepEndByFrom parser separator rounds true (item :: items) next itemError
          | .ok ⟨false, .ok item next itemError⟩ =>
              if sepConsumed then
                sepEndByFrom parser separator rounds true (item :: items) next
                  (boundary.merge itemError)
              else .error .endlessSepEndBy

section
variable [TokenStream σ τ]

/-- One or more items with separators between them. -/
def sepBy1 (parser : Parser σ υ α) (separator : Parser σ υ β) : Parser σ υ (List α) :=
  parser.zipWith (separator.keepRight parser).many List.cons

/-- Items with separators between them. -/
def sepBy (parser : Parser σ υ α) (separator : Parser σ υ β) : Parser σ υ (List α) :=
  (parser.sepBy1 separator).orElse (pure [])

/-- Items with a separator after each. -/
def endBy (parser : Parser σ υ α) (separator : Parser σ υ β) : Parser σ υ (List α) :=
  (parser.keepLeft separator).many

/-- One or more items with a separator after each. -/
def endBy1 (parser : Parser σ υ α) (separator : Parser σ υ β) : Parser σ υ (List α) :=
  (parser.keepLeft separator).many1

/-- One or more items with separators between them and perhaps one after the last. -/
def sepEndBy1 (parser : Parser σ υ α) (separator : Parser σ υ β) : Parser σ υ (List α) where
  run state :=
    match parser.run state with
    | .error defect => .error defect
    | .ok ⟨consumed, .failed error⟩ => .ok ⟨consumed, .failed error⟩
    | .ok ⟨consumed, .ok item next error⟩ =>
        sepEndByFrom parser separator state.patience consumed [item] next error

/-- Items with separators between them and perhaps one after the last. -/
def sepEndBy (parser : Parser σ υ α) (separator : Parser σ υ β) : Parser σ υ (List α) :=
  (parser.sepEndBy1 separator).orElse (pure [])

end

end Parser
end Predictive
