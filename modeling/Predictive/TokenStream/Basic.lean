import Predictive.Position

/-!
# Streams of tokens

A stream is a value with a first token and a rest. Nothing is ever taken back: a parser
that may have to return to an earlier place keeps the stream it had there.

The size of a stream bounds the number of tokens to come. It is cheap to compute, and
loops over a stream derive their number of rounds from it. A lawful stream is determined
by the list of its tokens as far as taking tokens goes.
-/

namespace Predictive

/-- Values that hand out tokens one by one. -/
class TokenStream (σ : Type) (τ : outParam Type) where
  /-- The first token and the rest, unless the stream is at its end. -/
  uncons? : σ → Option (τ × σ)
  /-- All tokens to come. -/
  toList : σ → List τ
  /-- A bound on the number of tokens to come. -/
  size : σ → Nat
  /-- The position after a token. -/
  afterToken : Position → τ → Position

/-- Streams that hand out exactly the tokens of their list and become smaller by it. -/
class LawfulTokenStream (σ : Type) {τ : outParam Type} [TokenStream σ τ] : Prop where
  toList_eq_nil : ∀ {stream : σ},
    TokenStream.uncons? stream = none → TokenStream.toList stream = []
  toList_eq_cons : ∀ {stream rest : σ} {token : τ},
    TokenStream.uncons? stream = some (token, rest) →
      TokenStream.toList stream = token :: TokenStream.toList rest
  size_lt_of_uncons? : ∀ {stream rest : σ} {token : τ},
    TokenStream.uncons? stream = some (token, rest) → TokenStream.size rest < TokenStream.size stream

namespace TokenStream

variable {σ τ : Type} [TokenStream σ τ] [LawfulTokenStream σ]

theorem uncons?_eq_none_iff (stream : σ) : uncons? stream = none ↔ toList stream = [] := by
  refine ⟨LawfulTokenStream.toList_eq_nil, fun atEnd => ?_⟩
  cases taken : uncons? stream with
  | none => rfl
  | some pair => simp [LawfulTokenStream.toList_eq_cons taken] at atEnd

/-- A stream with tokens to come hands out the first of them. -/
theorem uncons?_of_toList_cons
    {stream : σ}
    {token : τ}
    {tokens : List τ}
    (view : toList stream = token :: tokens) :
    ∃ rest, uncons? stream = some (token, rest) ∧ toList rest = tokens := by
  cases taken : uncons? stream with
  | none => simp [LawfulTokenStream.toList_eq_nil taken] at view
  | some pair =>
      obtain ⟨first, rest⟩ := pair
      rw [LawfulTokenStream.toList_eq_cons taken, List.cons.injEq] at view
      exact ⟨rest, by rw [view.1], view.2⟩

theorem length_toList_le_size (stream : σ) : (toList stream).length ≤ size stream := by
  induction view : toList stream generalizing stream with
  | nil => simp
  | cons token tokens ih =>
      obtain ⟨rest, taken, viewRest⟩ := uncons?_of_toList_cons view
      have smaller := LawfulTokenStream.size_lt_of_uncons? taken
      have bounded := ih rest viewRest
      simp only [List.length_cons]
      omega

end TokenStream
end Predictive
