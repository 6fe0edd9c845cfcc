import Predictive.Command.Report
import Predictive.Proofs.CombinatorLaws
import Predictive.Proofs.ConsumingParsers
import Predictive.Proofs.LexicalCongruence
import Predictive.Proofs.RangeEvaluation

/-!
# Expressions in a range and in all integers

The parsers for expressions over a range and over all integers differ in a single place: the range
may refuse a literal, and then it does so behind its digits. Such a failure has consumed input, so
that no alternative is tried in its place. It is the failure of the whole, and wherever there is
none, both parsers run in the same way.
-/

namespace Predictive
namespace Parser

variable {σ τ υ α β : Type}

/-- Wherever the parser does not fail behind consumed input, it is the other one. -/
def CommitsOr ⦃α : Type⦄ (parser other : Parser σ υ α) : Prop :=
  ∀ state, (∃ error, parser.run state = .ok ⟨true, .failed error⟩) ∨
    parser.run state = other.run state

namespace CommitsOr

theorem refl (parser : Parser σ υ α) : CommitsOr parser parser :=
  fun _ => .inr rfl

/-- A sequence commits where its first half does, or goes on alike. -/
theorem bind
    {parser other : Parser σ υ α}
    {following otherFollowing : α → Parser σ υ β}
    (first : CommitsOr parser other)
    (followings : ∀ value, CommitsOr (following value) (otherFollowing value)) :
    CommitsOr (parser.bind following) (other.bind otherFollowing) := by
  intro state
  rcases first state with ⟨error, committed⟩ | same
  · exact .inl ⟨error, run_bind_of_failed committed following⟩
  rcases ran : parser.run state with defect | ⟨consumed, ⟨value, middle, earlier⟩ | error⟩
  · exact .inr (by rw [run_bind_of_error ran, run_bind_of_error (same.symm.trans ran)])
  · rw [run_bind_of_ok ran, run_bind_of_ok (same.symm.trans ran)]
    rcases followings value middle with ⟨error, committed⟩ | sameThen
    · exact .inl ⟨error, by rw [committed]; rfl⟩
    · exact .inr (by rw [sameThen])
  · exact .inr (by rw [run_bind_of_failed ran, run_bind_of_failed (same.symm.trans ran)])

/-- Behind a parser that consumes it does not matter whether a failure has consumed by itself. -/
theorem bind_of_alwaysConsumes
    {parser : Parser σ υ α}
    {following otherFollowing : α → Parser σ υ β}
    (consumes : parser.AlwaysConsumes)
    (followings : ∀ value state,
      (∃ consumed error, (following value).run state = .ok ⟨consumed, .failed error⟩) ∨
        (following value).run state = (otherFollowing value).run state) :
    CommitsOr (parser.bind following) (parser.bind otherFollowing) := by
  intro state
  rcases ran : parser.run state with defect | ⟨consumed, ⟨value, middle, earlier⟩ | error⟩
  · exact .inr (by rw [run_bind_of_error ran, run_bind_of_error ran])
  · cases consumed with
    | false => exact absurd ran (consumes state value middle earlier)
    | true =>
        rw [run_bind_of_ok ran, run_bind_of_ok ran]
        rcases followings value middle with ⟨_ | _, error, failed⟩ | same
        · exact .inl ⟨earlier.merge error, by rw [failed]; rfl⟩
        · exact .inl ⟨error, by rw [failed]; rfl⟩
        · exact .inr (by rw [same])
  · exact .inr (by rw [run_bind_of_failed ran, run_bind_of_failed ran])

/-- A choice does not recover from what commits. -/
theorem orElse
    {first second otherFirst otherSecond : Parser σ υ α}
    (firsts : CommitsOr first otherFirst)
    (seconds : CommitsOr second otherSecond) :
    CommitsOr (first.orElse second) (otherFirst.orElse otherSecond) := by
  intro state
  rcases firsts state with ⟨error, committed⟩ | same
  · exact .inl ⟨error, run_orElse_of_consumed committed second⟩
  rcases ran : first.run state with defect | ⟨_ | _, ⟨value, next, error⟩ | error⟩
  · exact .inr (by rw [run_orElse_of_error ran, run_orElse_of_error (same.symm.trans ran)])
  · exact .inr (by rw [run_orElse_of_ok ran, run_orElse_of_ok (same.symm.trans ran)])
  · rw [run_orElse_of_empty_failed ran, run_orElse_of_empty_failed (same.symm.trans ran)]
    rcases seconds state with ⟨later, committed⟩ | sameThen
    · exact .inl ⟨later, by rw [committed]; rfl⟩
    · exact .inr (by rw [sameThen])
  · exact .inr (by rw [run_orElse_of_consumed ran, run_orElse_of_consumed (same.symm.trans ran)])
  · exact .inr (by rw [run_orElse_of_consumed ran, run_orElse_of_consumed (same.symm.trans ran)])

/-- Values do not matter to whether a parser commits. -/
theorem map
    {parser other : Parser σ υ α}
    (related : CommitsOr parser other)
    (f : α → β) :
    CommitsOr (parser.map f) (other.map f) := by
  intro state
  rcases related state with ⟨error, committed⟩ | same
  · exact .inl ⟨error, by rw [run_map, committed]; rfl⟩
  · exact .inr (by rw [run_map, run_map, same])

/-- Labels do not replace an error behind input. -/
theorem labels
    {parser other : Parser σ υ α}
    (related : CommitsOr parser other)
    (names : List String) :
    CommitsOr (parser.labels names) (other.labels names) := by
  intro state
  rcases related state with ⟨error, committed⟩ | same
  · exact .inl ⟨error, by rw [Parser.labels, run_mk, committed]; rfl⟩
  · exact .inr (by rw [Parser.labels, Parser.labels, run_mk, run_mk, same])

/-- A repetition ends in the round that commits, or makes the same rounds. -/
theorem of_manyFoldFrom
    {parser other : Parser σ υ α}
    (related : CommitsOr parser other)
    (combine : β → α → β)
    (rounds : Nat)
    (consumed : Bool)
    (total : β)
    (state : State σ υ) :
    (∃ error, manyFoldFrom parser combine rounds consumed total state =
        .ok ⟨true, .failed error⟩) ∨
      manyFoldFrom parser combine rounds consumed total state =
        manyFoldFrom other combine rounds consumed total state := by
  induction rounds generalizing consumed total state with
  | zero => exact .inr rfl
  | succ rounds ih =>
      unfold manyFoldFrom
      rcases related state with ⟨error, committed⟩ | same
      · exact .inl ⟨error, by rw [committed]⟩
      rw [← same]
      rcases parser.run state with defect | ⟨_ | _, ⟨value, next, error⟩ | error⟩
      · exact .inr rfl
      · exact .inr rfl
      · exact .inr rfl
      · exact ih true (combine total value) next
      · exact .inr rfl

/-- A failure behind consumed input stays what it is under all combinators that do not backtrack. -/
theorem congruence [TokenStream σ τ] :
    Congruence (CommitsOr : ∀ ⦃α : Type⦄, Parser σ υ α → Parser σ υ α → Prop) where
  pure value := refl _
  empty := refl _
  failWith kind text := refl _
  map f related := related.map f
  bind first followings := first.bind followings
  zipWith f firsts seconds := by
    rw [zipWith_eq_bind, zipWith_eq_bind]
    exact firsts.bind fun value => seconds.map (f value)
  orElse firsts seconds := firsts.orElse seconds
  labels names related := related.labels names
  manyFold first combine related state :=
    related.of_manyFoldFrom combine state.patience false first state

/-- Definitions that respect the relation give related recursive parsers. -/
theorem recursive [TokenStream σ τ]
    {define otherDefine : Parser σ υ α → Parser σ υ α}
    (definitions : ∀ handle otherHandle, CommitsOr handle otherHandle →
      CommitsOr (define handle) (otherDefine otherHandle)) :
    CommitsOr (Parser.recursive define) (Parser.recursive otherDefine) := by
  have unrolled (depth : Nat) :
      CommitsOr (Parser.unrolled define depth) (Parser.unrolled otherDefine depth) := by
    induction depth with
    | zero => exact refl _
    | succ depth ih => exact definitions _ _ ih
  intro state
  rw [run_recursive, run_recursive]
  exact unrolled state.patience state

/-- What the parser finds in an input, the other one finds in it too. -/
theorem parse_eq_ok
    {parser other : Parser σ υ α}
    {user : υ}
    {name : String}
    {input : σ}
    {value : α}
    (related : CommitsOr parser other)
    (parsed : parser.parse user name input = .ok (.ok value)) :
    other.parse user name input = .ok (.ok value) := by
  rcases related ⟨input, Position.start name, user⟩ with ⟨error, committed⟩ | same
  · simp [Parser.parse, Parser.runState, committed] at parsed
  · rwa [Parser.parse, Parser.runState, ← same]

end CommitsOr

end Parser

namespace Digits

/-- Digits that a range holds stand for the same number in it as in all integers. -/
theorem inRange?_eq_none_or (digits : Digits) (negative : Bool) (range : IntegerRange) :
    digits.inRange? negative range = none ∨
      digits.inRange? negative range = digits.inRange? negative .unbounded := by
  unfold inRange?
  generalize (0 : Int) = total
  induction digits.chars generalizing total with
  | nil => exact .inr rfl
  | cons c chars ih =>
      simp only [List.foldlM_cons, IntegerRange.fit?_unbounded, Option.bind_eq_bind,
        Option.bind_some]
      rcases range.fit?_eq_none_or (total * digits.base) with outside | inside
      · exact .inl (by rw [outside]; rfl)
      rw [inside, Option.bind_some]
      rcases range.fit?_eq_none_or (if negative then total * digits.base - digitValue c
        else total * digits.base + digitValue c) with outside | inside
      · exact .inl (by rw [outside]; rfl)
      rw [inside, Option.bind_some]
      exact ih _

end Digits

namespace Language

variable {σ υ : Type} [TokenStream σ Char]

/-- A number that a range refuses is refused behind its digits. -/
theorem naturalIn_commitsOr (language : Language σ υ) (range : IntegerRange) :
    Parser.CommitsOr (language.naturalIn range) (language.naturalIn .unbounded) := by
  refine Parser.CommitsOr.congruence.label _ (Parser.CommitsOr.congruence.keepLeft
    (.bind_of_alwaysConsumes naturalDigits_alwaysConsumes fun digits state => ?_) (.refl _))
  rcases digits.inRange?_eq_none_or false range with outside | same
  · exact .inl ⟨false, _, by rw [integerOf, outside]; rfl⟩
  · exact .inr (by rw [integerOf, integerOf, same])

end Language

namespace Expr

open Predictive.Parser (CommitsOr)

/-- A term commits in its number, or is the term without bounds. -/
theorem term_commitsOr
    (range : IntegerRange)
    {expr otherExpr : Parser Text Unit Expr}
    (related : CommitsOr expr otherExpr) :
    CommitsOr (term range expr) (term .unbounded otherExpr) := by
  have congruence := CommitsOr.congruence (σ := Text) (υ := Unit)
  exact congruence.label _ (congruence.orElse (congruence.orElse
    (congruence.between (.refl _) (.refl _) related)
    ((language.naturalIn_commitsOr range).map int)) (.refl _))

/-- An expression over a range is an expression over all integers, or it fails behind consumed
input. -/
theorem expression_commitsOr (range : IntegerRange) :
    CommitsOr (expression range) (expression .unbounded) :=
  CommitsOr.recursive fun _ _ related => CommitsOr.congruence.expression
    (List.forall₂_same.mpr fun level _ => .refl (fun _ => CommitsOr.refl) level)
    (term_commitsOr range related)

/-- A source commits in one of its numbers, or is parsed without bounds. -/
theorem whole_commitsOr (range : IntegerRange) :
    CommitsOr (whole range) (whole .unbounded) :=
  CommitsOr.congruence.keepLeft
    (CommitsOr.congruence.keepRight (.refl _) (expression_commitsOr range)) (.refl _)

/-- What a source says in a range, it says in all integers. -/
theorem parse_unbounded
    {range : IntegerRange}
    {name source : String}
    {expr : Expr}
    (parsed : parse range name source = .ok (.ok expr)) :
    parse .unbounded name source = .ok (.ok expr) :=
  (whole_commitsOr range).parse_eq_ok parsed

/-- Arbitrary precision changes no answer: an expression that is read with 64 bits is read as the
same expression, it has the same value where it has one with 64 bits, and it has the same error
where it has an error with 64 bits that is not an overflow. -/
theorem unbounded_keeps_answers
    {name source : String}
    {expr : Expr}
    (parsed : parse (.signed 64) name source = .ok (.ok expr))
    (bindings : Bindings) :
    parse .unbounded name source = .ok (.ok expr) ∧
      (∀ value, expr.eval (.signed 64) bindings = .ok value →
        expr.eval .unbounded bindings = .ok value) ∧
      (∀ error, error ≠ .overflow → expr.eval (.signed 64) bindings = .error error →
        expr.eval .unbounded bindings = .error error) := by
  have related := expr.eval_overflowsOr (.signed 64) bindings
  exact ⟨parse_unbounded parsed, fun value isOk => related.eq_ok isOk,
    fun error noOverflow isError => related.eq_error isError noOverflow⟩

/-- A remainder of a power has its value if the variable is bound, and its error otherwise. -/
theorem unbounded_keeps_answers_remainder :
    let expr := binary .rem (binary .pow (var "x") (int 3)) (int 7)
    parse (.signed 64) "" "x ^ 3 % 7" = .ok (.ok expr) ∧
      parse .unbounded "" "x ^ 3 % 7" = .ok (.ok expr) ∧
      expr.eval .unbounded [("x", -2)] = .ok (-1) ∧
      expr.eval .unbounded [] = .error (.unboundVariable "x") := by
  intro expr
  have parsed : parse (.signed 64) "" "x ^ 3 % 7" = .ok (.ok expr) := by decide +kernel
  have bound := unbounded_keeps_answers parsed [("x", -2)]
  have unbound := unbounded_keeps_answers parsed []
  exact ⟨parsed, bound.1, bound.2.1 (-1) rfl, unbound.2.2 _ (by decide) rfl⟩

end Expr

/-! ## Reports -/

theorem ok_bind {ε α β : Type} (value : α) (following : α → Except ε β) :
    (Except.ok value >>= following) = following value := rfl

theorem error_bind {ε α β : Type} (error : ε) (following : α → Except ε β) :
    (Except.error error >>= following) = .error error := rfl

/-- A report is a value just if the parser found it. -/
theorem Report.ofParse_eq_ok_iff
    {α : Type}
    {parsed : Except Defect (Except ParseError α)}
    {value : α} :
    ofParse parsed = .ok value ↔ parsed = .ok (.ok value) := by
  rcases parsed with defect | error | found
  · simp [ofParse]
  · simp [ofParse]
  · simp [ofParse]

namespace CalcSettings

theorem range_bigIntegers (settings : CalcSettings) :
    ({ settings with bigIntegers := true } : CalcSettings).range = .unbounded := rfl

/-- A calculation that does not fail reports the same with arbitrary precision. -/
theorem report_bigIntegers
    {files : Files}
    {settings : CalcSettings}
    (answered : (settings.report files).failure? = none) :
    { settings with bigIntegers := true }.report files = settings.report files := by
  have sources : { settings with bigIntegers := true }.source files = settings.source files := by
    rw [source, source]
  rw [report, report, sources, range_bigIntegers]
  rw [report] at answered
  rcases found : settings.source files with failure | source
  · rw [error_bind, error_bind]
  rw [found, ok_bind] at answered
  rw [ok_bind, ok_bind]
  -- The parse is rewritten, never evaluated: neither side may be unfolded to compare them.
  rcases parsed : Report.ofParse (Expr.parse settings.range source.name source.text) with
    failure | expr
  · rw [parsed] at answered
    contradiction
  rw [parsed] at answered
  rw [Report.ofParse_eq_ok_iff.mpr (Expr.parse_unbounded (Report.ofParse_eq_ok_iff.mp parsed))]
  simp only at answered ⊢
  rcases evaluated : expr.eval settings.range (settings.bindings?.getD []) with error | value
  · rw [evaluated] at answered
    contradiction
  · rw [(expr.eval_overflowsOr settings.range _).eq_ok evaluated]

end CalcSettings
end Predictive
