import Predictive.Parser.Character
import Predictive.Proofs.SingleTokens

/-!
# How characters are read

Parsers for characters read single characters, runs of characters and fixed texts. A run goes
on as long as the next character satisfies its predicate, so it is read as a whole only in
front of a character that does not.
-/

namespace Predictive

/-- The first of the characters, if there is any, does not satisfy the predicate. -/
def StopsAt (predicate : Char → Bool) (rest : List Char) : Prop :=
  ∀ c ∈ rest.head?, predicate c = false

theorem stopsAt_nil (predicate : Char → Bool) : StopsAt predicate [] := by
  simp [StopsAt]

@[simp] theorem stopsAt_cons_iff (predicate : Char → Bool) (c : Char) (rest : List Char) :
    StopsAt predicate (c :: rest) ↔ predicate c = false := by
  simp [StopsAt]

instance (predicate : Char → Bool) : ∀ rest, Decidable (StopsAt predicate rest)
  | [] => .isTrue (stopsAt_nil predicate)
  | c :: rest => decidable_of_iff _ (stopsAt_cons_iff predicate c rest).symm

/-- Satisfying a weaker predicate is needed to go on, so fewer characters stop it. -/
theorem StopsAt.mono
    {predicate weaker : Char → Bool}
    {rest : List Char}
    (stops : StopsAt weaker rest)
    (implies : ∀ c, predicate c = true → weaker c = true) :
    StopsAt predicate rest := by
  intro c first
  have outside : weaker c = false := stops c first
  cases inside : predicate c with
  | false => rfl
  | true => rw [implies c inside] at outside; contradiction

/-- Characters that stop a predicate stop it in front of others. -/
theorem StopsAt.append
    {predicate : Char → Bool}
    {front back : List Char}
    (stops : StopsAt predicate front)
    (stopsBehind : StopsAt predicate back) :
    StopsAt predicate (front ++ back) := by
  cases front with
  | nil => exact stopsBehind
  | cons c front => simpa using stops

namespace Parser

variable {σ υ α : Type} [TokenStream σ Char]

/-! ## Parsers of one character -/

/-- The parser takes one character that satisfies a predicate. -/
abbrev TakesChar (parser : Parser σ υ Char) (predicate : Char → Bool) : Prop :=
  parser.TakesOne (Option.guard predicate)

theorem satisfy_takesChar (predicate : Char → Bool) :
    (satisfy predicate : Parser σ υ Char).TakesChar predicate :=
  token_takesOne _ _ _

theorem char_takesChar (wanted : Char) :
    (char wanted : Parser σ υ Char).TakesChar fun c => c == wanted :=
  (satisfy_takesChar _).label _

/-- A choice of characters takes those of either. -/
theorem TakesChar.orElse
    {first second : Parser σ υ Char}
    {left right : Char → Bool}
    (firstTakes : first.TakesChar left)
    (secondTakes : second.TakesChar right) :
    (first.orElse second).TakesChar fun c => left c || right c := by
  constructor
  · intro state c value rest taken accepted
    obtain ⟨same, holds⟩ := Option.guard_eq_some_iff.mp accepted
    subst same
    cases isLeft : left c with
    | true =>
        obtain ⟨next, error, ran, moved⟩ :=
          firstTakes.accepts taken (Option.guard_eq_some_iff.mpr ⟨rfl, isLeft⟩)
        exact ⟨next, error, run_orElse_of_ok ran second, moved⟩
    | false =>
        have isRight : right c = true := by simpa [isLeft] using holds
        obtain ⟨next, error, ran, moved⟩ :=
          secondTakes.accepts taken (Option.guard_eq_some_iff.mpr ⟨rfl, isRight⟩)
        have refused : ∀ found others, TokenStream.uncons? state.input = some (found, others) →
            Option.guard left found = none := by
          intro found others foundTaken
          rw [taken] at foundTaken
          obtain ⟨rfl, -⟩ := Prod.mk.inj (Option.some.inj foundTaken)
          simp [isLeft]
        obtain ⟨earlier, failed⟩ := firstTakes.refuses refused
        exact ⟨next, error, orElse_yields_iff.mpr (.inr ⟨earlier, error, failed, ran, rfl⟩), moved⟩
  · intro state refused
    have neither (c : Char) (rest : σ)
        (taken : TokenStream.uncons? state.input = some (c, rest)) :
        left c = false ∧ right c = false := by
      simpa using refused c rest taken
    obtain ⟨earlier, failed⟩ := firstTakes.refuses fun c rest taken => by
      simp [(neither c rest taken).1]
    obtain ⟨error, othersFailed⟩ := secondTakes.refuses fun c rest taken => by
      simp [(neither c rest taken).2]
    refine ⟨earlier.merge error, ?_⟩
    rw [Fails, run_orElse_of_empty_failed failed, othersFailed]
    rfl

/-! ## Runs of characters -/

section
variable [LawfulTokenStream σ]

namespace TakesChar

variable {parser : Parser σ υ Char} {predicate : Char → Bool} (takes : parser.TakesChar predicate)
include takes

/-- A character is read where it holds. -/
theorem reads {c : Char} (holds : predicate c = true) (rest : List Char) :
    parser.Reads View.tokens [c] c rest :=
  TakesOne.reads takes (Option.guard_eq_some_iff.mpr ⟨rfl, holds⟩) rest

/-- A character is refused where it does not hold. -/
theorem refuses {rest : List Char} (stops : StopsAt predicate rest) :
    parser.Refuses View.tokens rest := by
  refine takes.refuses_of_head fun c first => ?_
  simp [stops c first]

/-- A run of characters is read in as many rounds. -/
theorem rounds
    {run : List Char}
    (all : ∀ c ∈ run, predicate c = true)
    (rest : List Char) :
    Rounds View.tokens parser run run rest := by
  induction run with
  | nil => exact .nil rest
  | cons c run ih =>
      have first := takes.reads (all c List.mem_cons_self) (run ++ rest)
      exact .cons (by simp) first (ih fun other present => all other (.tail c present))

variable
  {run rest : List Char}
  (all : ∀ c ∈ run, predicate c = true)
  (stops : StopsAt predicate rest)
include all stops

theorem many_reads : parser.many.Reads View.tokens run run rest :=
  (takes.rounds all rest).many (takes.refuses stops) View.tokens_fits

/-- A run that is not empty is read as one. -/
theorem many1_reads (some : run ≠ []) : parser.many1.Reads View.tokens run run rest := by
  cases run with
  | nil => contradiction
  | cons c run =>
      exact (takes.rounds all rest).zipWith_many (takes.refuses stops) View.tokens_fits List.cons

theorem skipMany_reads : parser.skipMany.Reads View.tokens run () rest :=
  (takes.rounds all rest).manyFold (takes.refuses stops) View.tokens_fits () _

theorem skipMany1_reads (some : run ≠ []) : parser.skipMany1.Reads View.tokens run () rest := by
  cases run with
  | nil => contradiction
  | cons c run =>
      have first := takes.reads (all c List.mem_cons_self) (run ++ rest)
      have others := takes.skipMany_reads (fun other present => all other (.tail c present)) stops
      exact first.zipWith others fun _ value => value

end TakesChar

/-- A character is read where it comes. -/
theorem char_reads (c : Char) (rest : List Char) :
    (char c : Parser σ υ Char).Reads View.tokens [c] c rest :=
  (char_takesChar c).reads (beq_self_eq_true c) rest

/-- A character is refused where it does not come. -/
theorem char_refuses {c : Char} {rest : List Char} (absent : c ∉ rest.head?) :
    (char c : Parser σ υ Char).Refuses View.tokens rest := by
  refine (char_takesChar c).refuses fun d first => beq_eq_false_iff_ne.mpr ?_
  rintro rfl
  exact absent first

/-! ## Fixed texts -/

/-- The tokens that are wanted are dropped if they come next. -/
theorem dropTokens_of_toList
    {τ ρ : Type} [TokenStream ρ τ] [LawfulTokenStream ρ] [DecidableEq τ]
    {started : Bool}
    {input : ρ}
    {wanted rest : List τ}
    (view : TokenStream.toList input = wanted ++ rest) :
    ∃ left, dropTokens started input wanted = .ok left ∧ TokenStream.toList left = rest := by
  induction wanted generalizing started input with
  | nil => exact ⟨input, rfl, view⟩
  | cons token wanted ih =>
      obtain ⟨after, taken, viewAfter⟩ := TokenStream.uncons?_of_toList_cons view
      obtain ⟨left, dropped, viewLeft⟩ : ∃ left,
          dropTokens true after wanted = .ok left ∧ TokenStream.toList left = rest := ih viewAfter
      exact ⟨left, by simp [dropTokens, taken, dropped], viewLeft⟩

/-- Dropping stops at the first token that does not come, and gives back what came instead. -/
theorem dropTokens_of_mismatch
    {τ ρ : Type} [TokenStream ρ τ] [LawfulTokenStream ρ] [DecidableEq τ]
    {started : Bool}
    {input : ρ}
    {matched rest : List τ}
    {token : τ}
    (view : TokenStream.toList input = matched ++ rest)
    (absent : token ∉ rest.head?)
    (others : List τ) :
    dropTokens started input (matched ++ token :: others) =
      .error (started || !matched.isEmpty, rest.head?) := by
  induction matched generalizing started input with
  | nil =>
      cases rest with
      | nil =>
          have atEnd := (TokenStream.uncons?_eq_none_iff input).mpr view
          simp [dropTokens, atEnd]
      | cons found rest =>
          obtain ⟨after, taken, -⟩ := TokenStream.uncons?_of_toList_cons view
          have different : found ≠ token := by simpa using absent
          simp [dropTokens, taken, different]
  | cons first matched ih =>
      obtain ⟨after, taken, viewAfter⟩ := TokenStream.uncons?_of_toList_cons view
      have stopped : dropTokens true after (matched ++ token :: others) =
          .error (true, rest.head?) := by
        rw [ih viewAfter, Bool.true_or]
      simp [dropTokens, taken, stopped]

omit [LawfulTokenStream σ] in
/-- A text that the input starts with is dropped from it. -/
theorem string_yields
    {text : String}
    {state : State σ υ}
    {rest : σ}
    (dropped : dropTokens false state.input text.toList = .ok rest) :
    (string text).Yields state (!text.toList.isEmpty) text
      ⟨rest, state.position.afterString text, state.user⟩
      (.unknown (state.position.afterString text)) := by
  refine map_yields_iff.mpr ⟨text.toList, ?_, String.ofList_toList⟩
  exact tokens_yields_iff.mpr ⟨rest, dropped, rfl, rfl, rfl, rfl⟩

/-- A text is read where it comes. -/
theorem string_reads (text : String) (rest : List Char) :
    (string text : Parser σ υ String).Reads View.tokens text.toList text rest := by
  intro state viewed
  obtain ⟨left, dropped, viewLeft⟩ : ∃ left,
      dropTokens false state.input text.toList = .ok left ∧ TokenStream.toList left = rest :=
    dropTokens_of_toList viewed
  exact ⟨_, _, string_yields dropped, viewLeft⟩

/-- A text is refused at once where its first character does not come. -/
theorem string_refuses_head
    {text : String}
    {c : Char}
    {others rest : List Char}
    (starts : text.toList = c :: others)
    (absent : c ∉ rest.head?) :
    (string text : Parser σ υ String).Refuses View.tokens rest := by
  refine Refuses.map String.ofList ?_
  intro state viewed
  have view : TokenStream.toList state.input = [] ++ rest := viewed
  have dropped : dropTokens false state.input (c :: others) = .error (false, rest.head?) :=
    dropTokens_of_mismatch view absent others
  unfold Fails tokens
  rw [run_mk, starts, dropped]
  exact ⟨_, rfl⟩

/-- A text is refused where it does not come, under an attempt. -/
theorem string_attempt_refuses
    {text : String}
    {rest : List Char}
    (absent : ¬ text.toList <+: rest) :
    (string text : Parser σ υ String).attempt.Refuses View.tokens rest := by
  refine attempt_refuses fun state viewed => ?_
  cases dropped : dropTokens false state.input text.toList with
  | ok left =>
      refine absurd ⟨TokenStream.toList left, ?_⟩ absent
      rw [← toList_of_dropTokens dropped]
      exact viewed
  | error reason =>
      have failed : ∃ error, (tokens (fun chars => Quoted.between '"' chars) Position.afterChars
          text.toList : Parser σ υ (List Char)).Fails state reason.1 error := by
        unfold Fails tokens
        rw [run_mk, dropped]
        exact ⟨_, rfl⟩
      obtain ⟨error, failed⟩ := failed
      exact ⟨reason.1, error, by rw [Fails, string, run_map, failed]; rfl⟩

end

end Parser
end Predictive
