import Predictive.Proofs.LevelSoundness
import Predictive.Proofs.SingleTokens
import Predictive.Proofs.TableReading
import Predictive.Proofs.TableReturning

/-!
# Tables of operators over tokens

A table whose operators are distinct tokens, around a term that is a single token. In front of
the end of the input, its parser accepts the words of its grammar and no others, with their
values, and it fails on all others.
-/

namespace Predictive

namespace Parser

variable {σ τ υ : Type} [TokenStream σ τ] [LawfulTokenStream σ] [Describe τ] [DecidableEq τ]

theorem tokenEq_recognizes (symbol : τ) :
    Recognizes (View.tokens : View σ υ τ) Parser.tokenEq symbol := by
  constructor
  · exact fun rest => ⟨symbol, (tokenEq_takesOne symbol).reads (by simp) rest⟩
  · intro symbols outside
    refine (tokenEq_takesOne symbol).refuses_of_head fun token first => ?_
    have different := outside token first
    simpa using different

theorem tokenEq_takesSymbols :
    Level.TakesSymbols (Parser.tokenEq : τ → Parser σ υ τ) := by
  intro symbol state consumed value next error ran
  obtain ⟨_, split, token, rfl, valued⟩ := (tokenEq_takesOne symbol).takesOnly ran
  have same : token = symbol := by
    by_contra different
    simp [different] at valued
  exact ⟨[token], split, by rw [same]⟩

end Parser

/-! ## Distinct symbols -/

namespace Sign

variable {κ α : Type}

theorem leading_sublist (signs : List (Sign κ α)) :
    (signs.filterMap leading?).Sublist (signs.map symbol) := by
  induction signs with
  | nil => exact List.Sublist.refl _
  | cons sign signs ih =>
      cases sign with
      | between assoc symbol apply => exact ih.cons symbol
      | before symbol apply => exact ih.cons_cons symbol
      | behind symbol apply => exact ih.cons symbol

theorem trailing_sublist (signs : List (Sign κ α)) :
    (signs.filterMap trailing?).Sublist (signs.map symbol) := by
  induction signs with
  | nil => exact List.Sublist.refl _
  | cons sign signs ih =>
      cases sign with
      | between assoc symbol apply => exact ih.cons_cons symbol
      | before symbol apply => exact ih.cons symbol
      | behind symbol apply => exact ih.cons_cons symbol

end Sign

namespace SignTable

variable {κ α : Type}

/-- Levels are apart from each other if no symbol occurs twice in the table. -/
theorem apartFrom_of_nodup
    {table : SignTable κ α}
    {leads : κ → Prop}
    {trails : List κ}
    (distinct : (table.flatten.map Sign.symbol).Nodup)
    (fresh : ∀ sign ∈ table.flatten, ¬ leads sign.symbol ∧ sign.symbol ∉ trails) :
    table.ApartFrom leads trails := by
  induction table generalizing leads trails with
  | nil => exact trivial
  | cons signs table ih =>
      rw [List.flatten_cons, List.map_append, List.nodup_append] at distinct
      obtain ⟨here, there, apart⟩ := distinct
      have outside (sign : Sign κ α) (present : sign ∈ table.flatten) :
          sign.symbol ∉ signs.map Sign.symbol :=
        fun inside => apart _ inside _ (List.mem_map_of_mem present) rfl
      have freshHere (symbol : κ) (present : symbol ∈ signs.map Sign.symbol) :
          ¬ leads symbol ∧ symbol ∉ trails := by
        obtain ⟨sign, inside, rfl⟩ := List.mem_map.mp present
        exact fresh sign (List.mem_append_left _ inside)
      refine ⟨⟨⟨?_, ?_⟩, ?_, ?_⟩, ih there fun sign present => ⟨?_, ?_⟩⟩
      · exact here.sublist (Sign.leading_sublist signs)
      · exact here.sublist (Sign.trailing_sublist signs)
      · exact fun symbol leading =>
          (freshHere symbol ((Sign.leading_sublist signs).subset leading)).1
      · exact fun symbol trailing =>
          (freshHere symbol ((Sign.trailing_sublist signs).subset trailing)).2
      · rintro (isLeading | inside)
        · exact (fresh sign (List.mem_append_right _ present)).1 isLeading
        · exact outside sign present ((Sign.leading_sublist signs).subset inside)
      · rw [List.mem_append]
        rintro (isTrailing | inside)
        · exact (fresh sign (List.mem_append_right _ present)).2 isTrailing
        · exact outside sign present ((Sign.trailing_sublist signs).subset inside)

end SignTable

/-! ## Expressions -/

namespace SignTable

variable {σ τ υ α : Type} {table : SignTable τ α} {valueOf : τ → Option α}

theorem tokens_apartFrom
    (distinct : (table.flatten.map Sign.symbol).Nodup)
    (apart : ∀ sign ∈ table.flatten, valueOf sign.symbol = none) :
    table.ApartFrom (fun symbol => valueOf symbol ≠ none) [] :=
  apartFrom_of_nodup distinct fun sign present => ⟨by simp [apart sign present], by simp⟩

variable [TokenStream σ τ] [LawfulTokenStream σ] {term : Parser σ υ α}

/-- Single tokens are read wherever they come. -/
theorem readsWords_term (takes : term.TakesOne valueOf) :
    ReadsWords View.tokens term (Category.single valueOf)
      (fun symbol => valueOf symbol ≠ none) [] := by
  constructor
  · rintro _ value ⟨token, rfl, valued⟩
    exact ⟨token, [], rfl, by simp [valued]⟩
  · rintro _ value rest ⟨token, rfl, valued⟩ -
    exact takes.reads valued rest

variable [Describe τ] [DecidableEq τ]

theorem tokens_recognized (table : SignTable τ α) :
    table.Recognized (View.tokens : View σ υ τ) Parser.tokenEq :=
  fun _ _ sign _ => Parser.tokenEq_recognizes sign.symbol

/-- Around a term that is a single token, the parser of a table of distinct tokens accepts, in
front of the end of the input, exactly the words of the grammar of the table with their values.
It fails on other inputs, but never without an outcome. -/
theorem expression_accepts_iff
    (distinct : (table.flatten.map Sign.symbol).Nodup)
    (apart : ∀ sign ∈ table.flatten, valueOf sign.symbol = none)
    (takes : term.TakesOne valueOf)
    (state : State σ υ)
    (value : α) :
    (∃ outcome, (((table.operators Parser.tokenEq).expression term).keepLeft
        Parser.endOfInput).run state = .ok outcome) ∧
      ((∃ consumed next error, (((table.operators Parser.tokenEq).expression term).keepLeft
          Parser.endOfInput).run state = .ok ⟨consumed, .ok value next error⟩) ↔
        table.expression (Category.single valueOf) (TokenStream.toList state.input) value) := by
  have symbolTakes (symbol : τ) : (Parser.tokenEq symbol : Parser σ υ τ).TakesOne
      fun found => if found == symbol then some found else none :=
    Parser.tokenEq_takesOne symbol
  refine ⟨?_, ?_, ?_⟩
  · have returns : ((table.operators Parser.tokenEq).expression term).Returns :=
      expression_returns (fun symbol => (symbolTakes symbol).returns)
        (fun symbol => (symbolTakes symbol).tagsSoundly)
        (fun symbol => (symbolTakes symbol).alwaysConsumes) takes.returns takes.tagsSoundly
    exact returns.zipWith Parser.endOfInput_returns _ state
  · rintro ⟨consumed, next, error, ran⟩
    obtain ⟨_, _, middle, _, _, _, _, tableRan, endRan, rfl, -, -⟩ :=
      Parser.zipWith_yields_iff.mp ran
    obtain ⟨word, split, derived⟩ :=
      expression_takesOnly Parser.tokenEq_takesSymbols takes.takesOnly tableRan
    rw [Parser.toList_of_endOfInput endRan, List.append_nil] at split
    rwa [split]
  · intro derived
    have words := readsWords (readsWords_term takes) (tokens_recognized table)
      (tokens_apartFrom distinct apart) View.tokens_fits
    have reads := (words.reads derived (startsOutside_nil _)).zipWith Parser.endOfInput_reads
      fun value _ => value
    have viewed : View.tokens state (TokenStream.toList state.input ++ [] ++ []) := by
      simp [View.tokens]
    obtain ⟨next, error, ran, -⟩ := reads viewed
    exact ⟨_, next, error, ran⟩

/-- An application of an infix operator, in parentheses. -/
def bracketed (symbol : Char) (left right : List Char) : List Char :=
  '(' :: left ++ symbol :: right ++ [')']

/-- A digit as a text. -/
def digitText (c : Char) : Option (List Char) :=
  if c.isDigit then some [c] else none

/-- The parser of a digit. -/
def digitToken : Parser (Tokens Char) Unit (List Char) :=
  Parser.token Quoted.char (fun position _ _ => position.nextColumn) digitText

theorem digitToken_takesOne : digitToken.TakesOne digitText :=
  Parser.token_takesOne _ _ _

/-- Two levels with operators on all sides. -/
def calculations : SignTable Char (List Char) :=
  [[.before '-' ('-' :: ·), .behind '!' (· ++ ['!']), .between .right '^' (bracketed '^')],
    [.between .left '+' (bracketed '+'), .between .non '=' (bracketed '=')]]

/-- What the parser accepts, the grammar derives. -/
theorem expression_derives_calculation :
    calculations.expression (Category.single digitText) "-1!^2^3+4+5".toList
      "(((-1!^(2^3))+4)+5)".toList := by
  have distinct : (calculations.flatten.map Sign.symbol).Nodup := by decide
  have apart : ∀ sign ∈ calculations.flatten, digitText sign.symbol = none := by decide
  have accepts := expression_accepts_iff distinct apart digitToken_takesOne
    ⟨Tokens.ofList "-1!^2^3+4+5".toList, .start "", ()⟩ "(((-1!^(2^3))+4)+5)".toList
  refine accepts.2.mp ⟨true, Parser.exists_yields ?_⟩
  decide +kernel

end SignTable
end Predictive
