import Predictive.Parser.Basic

/-!
# Recursive parsers

A recursive parser is given by a definition that may use a handle for the parser itself.
It unrolls its definition as often as its nesting asks for; each level of a guarded
definition starts after the level around it has consumed, so that the patience of the
state where the parser starts bounds the nesting.
-/

namespace Predictive
namespace Parser

variable {σ τ υ α : Type}

/-- A definition unrolled to a certain depth, below which it is given up. -/
def unrolled (define : Parser σ υ α → Parser σ υ α) : Nat → Parser σ υ α
  | 0 => defective .unbounded
  | depth + 1 => ⟨fun state => (define (unrolled define depth)).run state⟩

/-- The parser that a definition in terms of its own handle stands for. -/
def recursive
    [TokenStream σ τ]
    (define : Parser σ υ α → Parser σ υ α) :
    Parser σ υ α :=
  ⟨fun state => (unrolled define state.patience).run state⟩

/-- The handle of a parser while its definition is being made. -/
def undefinedHandle : Parser σ υ α :=
  defective .undefinedRecursion

/-- The handle of a parser that is gone. -/
def droppedHandle : Parser σ υ α :=
  defective .droppedRecursion

@[simp] theorem unrolled_zero (define : Parser σ υ α → Parser σ υ α) :
    unrolled define 0 = defective .unbounded := rfl

@[simp] theorem unrolled_succ (define : Parser σ υ α → Parser σ υ α) (depth : Nat) :
    unrolled define (depth + 1) = define (unrolled define depth) := rfl

theorem run_recursive
    [TokenStream σ τ]
    (define : Parser σ υ α → Parser σ υ α)
    (state : State σ υ) :
    (recursive define).run state = (unrolled define state.patience).run state := by
  unfold recursive
  exact run_mk _ state

end Parser
end Predictive
