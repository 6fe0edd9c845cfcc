import Mathlib.Data.List.InsertIdx
import Mathlib.Data.List.Nodup
import Predictive.Parser.Permutation
import Predictive.Proofs.SingleTokens
import Predictive.TokenStream.Tokens

/-!
# Arrangements of single tokens

A permutation whose members are single tokens reads arrangements of these tokens: each of them at
most once, in any order, and only those missing that have a default. In front of the end of the
input its parser accepts the arrangements and nothing else. Between separators it accepts the
arrangements with one separator between any two neighbours. The values do not depend on the order
of the tokens.
-/

namespace Predictive

/-- A parser that accepts a certain token, with the value that the token stands for. -/
structure SingleToken (σ υ α : Type) {τ : Type} [TokenStream σ τ] [DecidableEq τ] where
  parser : Parser σ υ α
  token : τ
  value : α
  takes : parser.TakesOne fun found => if found = token then some value else none

/-- A member of a permutation that is a single token, and its default if it may be missing. -/
structure SingleMember (σ υ α : Type) {τ : Type} [TokenStream σ τ] [DecidableEq τ] extends
    SingleToken σ υ α where
  default? : Option α

variable {σ τ υ α : Type} [TokenStream σ τ] [DecidableEq τ]

namespace SingleToken

variable [LawfulTokenStream σ]

/-- A single token is read where it comes, with its value. -/
theorem reads (mark : SingleToken σ υ α) (rest : List τ) :
    mark.parser.Reads View.tokens [mark.token] mark.value rest :=
  mark.takes.reads (if_pos rfl) rest

theorem refuses_nil (mark : SingleToken σ υ α) : mark.parser.Refuses View.tokens [] :=
  mark.takes.refuses_of_head (by simp)

/-- A single token is refused where another one comes. -/
theorem refuses_cons
    (mark : SingleToken σ υ α)
    {token : τ}
    (different : token ≠ mark.token)
    (rest : List τ) :
    mark.parser.Refuses View.tokens (token :: rest) := by
  refine mark.takes.refuses_of_head fun found first => ?_
  obtain rfl : token = found := by simpa using first
  exact if_neg different

/-- Nothing but the token is taken. -/
theorem takesOnly (mark : SingleToken σ υ α) :
    mark.parser.TakesOnly fun word value => word = [mark.token] ∧ value = mark.value := by
  intro state consumed value next error ran
  obtain ⟨_, split, token, rfl, valued⟩ := mark.takes.takesOnly ran
  obtain ⟨rfl, rfl⟩ : token = mark.token ∧ mark.value = value := by simpa using valued
  exact ⟨_, split, rfl, rfl⟩

end SingleToken

namespace SingleMember

/-- The member of a permutation. -/
def toMember (member : SingleMember σ υ α) : Member σ υ α :=
  ⟨member.parser, member.default?⟩

/-- The value of the member if its token occurs in the word, and its default otherwise. -/
def valueIn (word : List τ) (member : SingleMember σ υ α) : α :=
  if member.token ∈ word then member.value else member.default?.getD member.value

theorem valueIn_of_mem
    {member : SingleMember σ υ α}
    {word : List τ}
    (present : member.token ∈ word) :
    member.valueIn word = member.value :=
  if_pos present

/-- Tokens of other members do not matter to the value of a member. -/
theorem valueIn_cons_of_ne
    {member : SingleMember σ υ α}
    {token : τ}
    (different : member.token ≠ token)
    (word : List τ) :
    member.valueIn (token :: word) = member.valueIn word := by
  simp [valueIn, different]

end SingleMember

/-- The word consists of tokens of different members, and no member without a default is missing. -/
structure Arranges (members : List (SingleMember σ υ α)) (word : List τ) : Prop where
  nodup : word.Nodup
  subset : word ⊆ members.map (·.token)
  required : ∀ member ∈ members, member.default? = none → member.token ∈ word

namespace Arranges

variable {members : List (SingleMember σ υ α)} {word : List τ}

/-- Without members there is nothing to arrange. -/
theorem eq_nil (arranges : Arranges ([] : List (SingleMember σ υ α)) word) : word = [] :=
  List.eq_nil_of_subset_nil arranges.subset

/-- Members that all have defaults may all be missing. -/
theorem nil_iff :
    Arranges members [] ↔ ∀ member ∈ members, member.default? ≠ none := by
  constructor
  · intro arranges member present missing
    exact absurd (arranges.required member present missing) List.not_mem_nil
  · intro defaults
    exact ⟨List.nodup_nil, List.nil_subset _,
      fun member present missing => absurd missing (defaults member present)⟩

/-- The defaults of all members are their values in the empty word. -/
theorem defaults?_eq_some_iff {values : List α} :
    Permutation.defaults? (members.map SingleMember.toMember) = some values ↔
      Arranges members [] ∧ values = members.map (·.valueIn []) := by
  rw [nil_iff]
  induction members generalizing values with
  | nil => simp [Permutation.defaults?, eq_comm]
  | cons member members ih =>
      unfold Permutation.defaults? at ih ⊢
      rw [List.map_cons, List.mapM_cons]
      cases default : member.default? with
      | none => simp [SingleMember.toMember, default]
      | some value =>
          have here : member.valueIn [] = value := by simp [SingleMember.valueIn, default]
          simp only [SingleMember.toMember, default, Option.bind_eq_bind, Option.bind_some,
            Option.bind_eq_some_iff, ih, List.forall_mem_cons, List.map_cons, here]
          constructor
          · rintro ⟨others, ⟨defaults, rfl⟩, same⟩
            exact ⟨⟨by simp, defaults⟩, (Option.some.inj same).symm⟩
          · rintro ⟨⟨-, defaults⟩, rfl⟩
            exact ⟨_, ⟨defaults, rfl⟩, rfl⟩

section
variable (distinct : (members.map (·.token)).Nodup)
include distinct

/-- Members in different places have different tokens. -/
theorem token_ne_of_ne
    {index place : Nat}
    (inside : index < members.length)
    (placeInside : place < members.length)
    (different : place ≠ index) :
    members[place].token ≠ members[index].token := by
  intro same
  have placeMapped : place < (members.map (·.token)).length := by rwa [List.length_map]
  have indexMapped : index < (members.map (·.token)).length := by rwa [List.length_map]
  have mapped : (members.map (·.token))[place] = (members.map (·.token))[index] := by
    simpa using same
  exact different (distinct.getElem_inj_iff.mp mapped)

/-- The token of a member is none of the others' tokens. -/
theorem token_ne_of_mem_eraseIdx
    {index : Nat}
    (inside : index < members.length)
    {member : SingleMember σ υ α}
    (other : member ∈ members.eraseIdx index) :
    member.token ≠ members[index].token := by
  obtain ⟨place, placeInside, different, rfl⟩ := List.mem_eraseIdx_iff_getElem.mp other
  exact token_ne_of_ne distinct inside placeInside different

/-- The tokens of the others are distinct as well. -/
theorem nodup_eraseIdx (index : Nat) : ((members.eraseIdx index).map (·.token)).Nodup :=
  distinct.sublist ((members.eraseIdx_sublist index).map _)

/-- A word is an arrangement if it starts with the token of a member and goes on with an
arrangement of the others. -/
theorem cons_iff {token : τ} :
    Arranges members (token :: word) ↔
      ∃ (index : Nat) (inside : index < members.length),
        members[index].token = token ∧ Arranges (members.eraseIdx index) word := by
  constructor
  · intro arranges
    obtain ⟨notAgain, nodup⟩ := List.nodup_cons.mp arranges.nodup
    obtain ⟨index, inside, found⟩ :=
      List.mem_iff_getElem.mp (arranges.subset List.mem_cons_self)
    rw [List.length_map] at inside
    rw [List.getElem_map] at found
    refine ⟨index, inside, found, nodup, fun other present => ?_, fun member present missing => ?_⟩
    · have different : other ≠ token := by
        rintro rfl
        exact notAgain present
      obtain ⟨member, inMembers, rfl⟩ :=
        List.mem_map.mp (arranges.subset (List.mem_cons_of_mem _ present))
      obtain ⟨place, placeInside, rfl⟩ := List.mem_iff_getElem.mp inMembers
      refine List.mem_map_of_mem (List.mem_eraseIdx_iff_getElem.mpr ⟨place, placeInside, ?_, rfl⟩)
      rintro rfl
      exact different found
    · have different := token_ne_of_mem_eraseIdx distinct inside present
      rw [found] at different
      have somewhere := arranges.required member ((members.eraseIdx_subset) present) missing
      exact (List.mem_cons.mp somewhere).resolve_left different
  · rintro ⟨index, inside, rfl, arranges⟩
    refine ⟨List.nodup_cons.mpr ⟨fun again => ?_, arranges.nodup⟩, ?_, ?_⟩
    · obtain ⟨member, other, same⟩ := List.mem_map.mp (arranges.subset again)
      exact token_ne_of_mem_eraseIdx distinct inside other same
    · rintro other present
      rcases List.mem_cons.mp present with rfl | later
      · exact List.mem_map_of_mem (List.getElem_mem inside)
      · obtain ⟨member, erased, rfl⟩ := List.mem_map.mp (arranges.subset later)
        exact List.mem_map_of_mem (members.eraseIdx_subset erased)
    · intro member present missing
      obtain ⟨place, placeInside, rfl⟩ := List.mem_iff_getElem.mp present
      by_cases here : place = index
      · subst here
        exact List.mem_cons_self
      · refine List.mem_cons_of_mem _ (arranges.required _ ?_ missing)
        exact List.mem_eraseIdx_iff_getElem.mpr ⟨place, placeInside, here, rfl⟩

/-- The values in a word are those in the rest of the word, with that of the first token put in
its place. -/
theorem map_valueIn_cons
    {index : Nat}
    (inside : index < members.length)
    (word : List τ) :
    members.map (·.valueIn (members[index].token :: word)) =
      ((members.eraseIdx index).map (·.valueIn word)).insertIdx index members[index].value := by
  have others : (members.eraseIdx index).map (·.valueIn word) =
      (members.eraseIdx index).map (·.valueIn (members[index].token :: word)) :=
    List.map_congr_left fun member other =>
      (SingleMember.valueIn_cons_of_ne (token_ne_of_mem_eraseIdx distinct inside other) word).symm
  have here : members[index].value = members[index].valueIn (members[index].token :: word) :=
    (SingleMember.valueIn_of_mem List.mem_cons_self).symm
  have restored := List.insertIdx_eraseIdx_getElem
    (show index < (members.map (·.valueIn (members[index].token :: word))).length by
      simpa using inside)
  rw [List.getElem_map, List.eraseIdx_map] at restored
  rw [others, here]
  exact restored.symm

end

end Arranges

/-! ## Words with separators -/

/-- What stands in front of a token: the separator, if there is one, except at the very start. -/
def lead (separator? : Option τ) (isFirst : Bool) : List τ :=
  if isFirst then [] else separator?.toList

/-- The tokens of a word, each with what stands in front of it. -/
def separate (separator? : Option τ) : (isFirst : Bool) → List τ → List τ
  | _, [] => []
  | isFirst, token :: word => lead separator? isFirst ++ token :: separate separator? false word

omit [TokenStream σ τ] [DecidableEq τ] in
/-- Without a separator there is just the word. -/
theorem separate_none (isFirst : Bool) (word : List τ) : separate none isFirst word = word := by
  induction word generalizing isFirst with
  | nil => rfl
  | cons token word ih => cases isFirst <;> simp [separate, lead, ih]

omit [TokenStream σ τ] [DecidableEq τ] in
/-- From the start on there is a separator between any two neighbours. -/
theorem separate_some (separator : τ) (word : List τ) :
    separate (some separator) true word = word.intersperse separator := by
  cases word with
  | nil => rfl
  | cons token word =>
      change token :: separate (some separator) false word = _
      induction word generalizing token with
      | nil => rfl
      | cons second word ih =>
          rw [List.intersperse_cons_cons, ← ih second]
          rfl

namespace Permutation

variable {members : List (SingleMember σ υ α)} {word : List τ}
  {separator? : Option (SingleToken σ υ Unit)} {isFirst : Bool}

omit [TokenStream σ τ] [DecidableEq τ] in
/-- The indices of what is picked are all indices of the list. -/
theorem map_fst_picks {β : Type} (list : List β) :
    (picks list).map Prod.fst = List.range list.length := by
  rw [picks, List.map_map, List.range_eq_range']
  exact List.zipIdx_map_snd 0 list

omit [TokenStream σ τ] [DecidableEq τ] in
theorem length_eraseIdx
    {β : Type}
    {list : List β}
    {index size : Nat}
    (inside : index < list.length)
    (all : list.length = size + 1) :
    (list.eraseIdx index).length = size := by
  rw [List.length_eraseIdx_of_lt inside, all, Nat.add_sub_cancel]

/-- What is picked from the members is one of them, beside the others. -/
theorem mem_picks_toMember_iff
    {index : Nat}
    {member : Member σ υ α}
    {others : List (Member σ υ α)} :
    (index, member, others) ∈ picks (members.map SingleMember.toMember) ↔
      ∃ inside : index < members.length, members[index].toMember = member ∧
        (members.eraseIdx index).map SingleMember.toMember = others := by
  rw [mem_picks_iff]
  simp [List.eraseIdx_map]

/-- A member first, then a permutation of the others. -/
def branch
    (separator? : Option (Parser σ υ Unit))
    (size : Nat)
    (pick : Nat × Member σ υ α × List (Member σ υ α)) :
    Parser σ υ (List α) :=
  pick.2.1.parser.bind fun value =>
    (sized separator? size false pick.2.2).map fun values => values.insertIdx pick.1 value

/-- The members with what stands in front of the first of them. -/
def lined
    (separator? : Option (Parser σ υ Unit))
    (isFirst : Bool)
    (parser : Parser σ υ (List α)) :
    Parser σ υ (List α) :=
  match isFirst, separator? with
  | false, some separator => separator.keepRight parser
  | _, _ => parser

/-- A permutation of at least one member, whose branches and lead are named. -/
theorem sized_succ
    (separator? : Option (Parser σ υ Unit))
    (size : Nat)
    (isFirst : Bool)
    (members : Permutation σ υ α) :
    sized separator? (size + 1) isFirst members =
      match members.defaults? with
      | some values =>
          (lined separator? isFirst
            (Parser.choice ((picks members).map (branch separator? size)))).orElse
              (Parser.pure values)
      | none =>
          lined separator? isFirst (Parser.choice ((picks members).map (branch separator? size))) :=
  rfl

/-! ## What a permutation takes -/

section
variable [LawfulTokenStream σ]

/-- The arrangements of some members, written with separators, and the values in them. -/
def arrangements
    (members : List (SingleMember σ υ α))
    (separator? : Option (SingleToken σ υ Unit))
    (isFirst : Bool) :
    Category τ (List α) :=
  fun input values => ∃ word, separate (separator?.map (·.token)) isFirst word = input ∧
    Arranges members word ∧ members.map (·.valueIn word) = values

/-- The arrangements that are not empty, behind what stands in front of their first token. -/
def started
    (members : List (SingleMember σ υ α))
    (separator? : Option (SingleToken σ υ Unit)) :
    Category τ (List α) :=
  fun input values => ∃ token word,
    token :: separate (separator?.map (·.token)) false word = input ∧
      Arranges members (token :: word) ∧ members.map (·.valueIn (token :: word)) = values

/-- The words of a category, with a value inserted into their values. -/
def insertedAt (category : Category τ (List α)) (index : Nat) (value : α) :
    Category τ (List α) :=
  fun input values => ∃ tail, category input tail ∧ tail.insertIdx index value = values

/-- A branch takes the token of its member and an arrangement of the others. -/
theorem branch_takesOnly
    (distinct : (members.map (·.token)).Nodup)
    {index size : Nat}
    (inside : index < members.length)
    (others : (sized (separator?.map (·.parser)) size false
      ((members.eraseIdx index).map SingleMember.toMember)).TakesOnly
        (arrangements (members.eraseIdx index) separator? false)) :
    (branch (separator?.map (·.parser)) size (index, members[index].toMember,
      (members.eraseIdx index).map SingleMember.toMember)).TakesOnly
        (started members separator?) := by
  have inserted (value : α) : ((sized (separator?.map (·.parser)) size false
      ((members.eraseIdx index).map SingleMember.toMember)).map
        fun values => values.insertIdx index value).TakesOnly
          (insertedAt (arrangements (members.eraseIdx index) separator? false) index value) :=
    others.map fun _ tail derived => ⟨tail, derived, rfl⟩
  refine members[index].takesOnly.bind inserted ?_
  rintro _ _ _ _ ⟨rfl, rfl⟩ ⟨_, ⟨word, rfl, arranges, rfl⟩, rfl⟩
  exact ⟨_, word, rfl, (Arranges.cons_iff distinct).mpr ⟨index, inside, rfl, arranges⟩,
    Arranges.map_valueIn_cons distinct inside word⟩

/-- What stands in front of the first token comes before the arrangement. -/
theorem lined_takesOnly
    {parser : Parser σ υ (List α)}
    (takes : parser.TakesOnly (started members separator?)) :
    (lined (separator?.map (·.parser)) isFirst parser).TakesOnly
      (arrangements members separator? isFirst) := by
  have unlined (bare : lead (separator?.map (·.token)) isFirst = []) :
      parser.TakesOnly (arrangements members separator? isFirst) := by
    intro state consumed values next error ran
    obtain ⟨_, split, token, word, rfl, arranges, same⟩ := takes ran
    exact ⟨_, split, token :: word, by rw [separate, bare]; rfl, arranges, same⟩
  cases isFirst with
  | true => exact unlined rfl
  | false =>
      cases separator? with
      | none => exact unlined rfl
      | some separator =>
          refine separator.takesOnly.zipWith takes ?_
          rintro _ _ _ _ ⟨rfl, -⟩ ⟨token, word, rfl, arranges, same⟩
          exact ⟨token :: word, rfl, arranges, same⟩

/-- A permutation takes arrangements of its members only. -/
theorem sized_takesOnly
    {size : Nat}
    (all : members.length = size)
    (distinct : (members.map (·.token)).Nodup) :
    (sized (separator?.map (·.parser)) size isFirst
      (members.map SingleMember.toMember)).TakesOnly
        (arrangements members separator? isFirst) := by
  induction size generalizing members isFirst with
  | zero =>
      obtain rfl := List.length_eq_zero_iff.mp all
      exact Parser.pure_takesOnly ⟨[], rfl, Arranges.nil_iff.mpr (by simp), rfl⟩
  | succ size ih =>
      have choiceTakes :
          (Parser.choice ((picks (members.map SingleMember.toMember)).map
            (branch (separator?.map (·.parser)) size))).TakesOnly
              (started members separator?) := by
        refine Parser.TakesOnly.choice fun parser present => ?_
        obtain ⟨⟨index, member, others⟩, picked, rfl⟩ := List.mem_map.mp present
        obtain ⟨inside, rfl, rfl⟩ := mem_picks_toMember_iff.mp picked
        exact branch_takesOnly distinct inside
          (ih (length_eraseIdx inside all) (Arranges.nodup_eraseIdx distinct index))
      rw [sized_succ]
      cases defaults : Permutation.defaults? (members.map SingleMember.toMember) with
      | none => exact lined_takesOnly choiceTakes
      | some values =>
          obtain ⟨arranges, rfl⟩ := Arranges.defaults?_eq_some_iff.mp defaults
          exact (lined_takesOnly choiceTakes).orElse
            (Parser.pure_takesOnly ⟨[], rfl, arranges, rfl⟩)

/-! ## What a permutation reads -/

/-- The lead is read, and behind it what the parser reads. -/
theorem lined_reads
    {parser : Parser σ υ (List α)}
    {input : List τ}
    {values : List α}
    (reads : parser.Reads View.tokens input values [])
    (separator? : Option (SingleToken σ υ Unit))
    (isFirst : Bool) :
    (lined (separator?.map (·.parser)) isFirst parser).Reads View.tokens
      (lead (separator?.map (·.token)) isFirst ++ input) values [] := by
  cases isFirst with
  | true => exact reads
  | false =>
      cases separator? with
      | none => exact reads
      | some separator => exact (separator.reads _).zipWith reads fun _ values => values

/-- A permutation with nothing behind it is refused, whether there is a lead or not. -/
theorem lined_refuses
    {parser : Parser σ υ (List α)}
    (refuses : parser.Refuses View.tokens []) :
    (lined (separator?.map (·.parser)) isFirst parser).Refuses View.tokens [] := by
  cases isFirst with
  | true => exact refuses
  | false =>
      cases separator? with
      | none => exact refuses
      | some separator => exact separator.refuses_nil.zipWith _

/-- Every branch starts with the token of its member, so that none takes the end of the input. -/
theorem choice_branch_refuses (separator? : Option (Parser σ υ Unit)) (size : Nat) :
    (Parser.choice ((picks (members.map SingleMember.toMember)).map
      (branch separator? size))).Refuses View.tokens [] := by
  refine Parser.choice_refuses fun parser present => ?_
  obtain ⟨⟨index, member, others⟩, picked, rfl⟩ := List.mem_map.mp present
  obtain ⟨inside, rfl, rfl⟩ := mem_picks_toMember_iff.mp picked
  exact members[index].refuses_nil.bind

/-- The choice between the members goes on with the one whose token comes next. -/
theorem choice_branch_reads
    (distinct : (members.map (·.token)).Nodup)
    {index size : Nat}
    (inside : index < members.length)
    {input : List τ}
    {values : List α}
    (others : (sized (separator?.map (·.parser)) size false
      ((members.eraseIdx index).map SingleMember.toMember)).Reads View.tokens input values []) :
    (Parser.choice ((picks (members.map SingleMember.toMember)).map
      (branch (separator?.map (·.parser)) size))).Reads View.tokens
        (members[index].token :: input) (values.insertIdx index members[index].value) [] := by
  have picked := mem_picks_toMember_iff.mpr ⟨inside, rfl, rfl⟩
  have once : ((picks (members.map SingleMember.toMember)).map Prod.fst).Nodup := by
    rw [map_fst_picks]
    exact List.nodup_range
  obtain ⟨front, back, split⟩ := List.append_of_mem picked
  rw [split] at once ⊢
  rw [List.map_append, List.map_cons]
  have reads : (branch (separator?.map (·.parser)) size (index, members[index].toMember,
      (members.eraseIdx index).map SingleMember.toMember)).Reads View.tokens
        ([members[index].token] ++ input) (values.insertIdx index members[index].value) [] :=
    (members[index].reads _).bind (others.map _)
  refine Parser.Reads.choice reads fun parser tried => ?_
  obtain ⟨⟨place, member, rest⟩, inFront, rfl⟩ := List.mem_map.mp tried
  have triedPick : (place, member, rest) ∈ picks (members.map SingleMember.toMember) := by
    rw [split]
    exact List.mem_append_left _ inFront
  obtain ⟨placeInside, rfl, rfl⟩ := mem_picks_toMember_iff.mp triedPick
  have different : index ≠ place := by
    rintro rfl
    rw [List.map_append, List.map_cons, List.nodup_append] at once
    exact once.2.2 _ (List.mem_map_of_mem inFront) _ List.mem_cons_self rfl
  exact Parser.Refuses.bind
    (members[place].refuses_cons (Arranges.token_ne_of_ne distinct placeInside inside different) _)

/-- A permutation reads every arrangement of its members in front of the end of the input. -/
theorem sized_reads
    {size : Nat}
    (all : members.length = size)
    (distinct : (members.map (·.token)).Nodup)
    (arranges : Arranges members word)
    (separator? : Option (SingleToken σ υ Unit))
    (isFirst : Bool) :
    (sized (separator?.map (·.parser)) size isFirst
      (members.map SingleMember.toMember)).Reads View.tokens
        (separate (separator?.map (·.token)) isFirst word) (members.map (·.valueIn word)) [] := by
  induction size generalizing members isFirst word with
  | zero =>
      obtain rfl := List.length_eq_zero_iff.mp all
      obtain rfl := arranges.eq_nil
      exact Parser.pure_reads []
  | succ size ih =>
      rw [sized_succ]
      cases word with
      | nil =>
          rw [Arranges.defaults?_eq_some_iff.mpr ⟨arranges, rfl⟩]
          exact (lined_refuses (choice_branch_refuses _ size)).orElse_reads (Parser.pure_reads _)
      | cons token word =>
          obtain ⟨index, inside, rfl, others⟩ := (Arranges.cons_iff distinct).mp arranges
          have rest := ih (length_eraseIdx inside all) (Arranges.nodup_eraseIdx distinct index)
            others false
          have reads := lined_reads (choice_branch_reads distinct inside rest) separator? isFirst
          rw [← Arranges.map_valueIn_cons distinct inside word] at reads
          cases Permutation.defaults? (members.map SingleMember.toMember) with
          | none => exact reads
          | some values => exact reads.orElse _

end

/-! ## Whole inputs -/

section
variable {separator? : Option (Parser σ υ Unit)} {members : Permutation σ υ α}

omit [DecidableEq τ] [TokenStream σ τ] in
/-- The lead returns if the separator does. -/
theorem lined_returns
    {parser : Parser σ υ (List α)}
    (separatorReturns : ∀ separator, separator? = some separator → separator.Returns)
    (returns : parser.Returns)
    (isFirst : Bool) :
    (lined separator? isFirst parser).Returns := by
  cases isFirst with
  | true => exact returns
  | false =>
      cases separator? with
      | none => exact returns
      | some separator => exact (separatorReturns separator rfl).zipWith returns _

omit [DecidableEq τ] [TokenStream σ τ] in
/-- A permutation of parsers that return returns. -/
theorem sized_returns
    {size : Nat}
    (separatorReturns : ∀ separator, separator? = some separator → separator.Returns)
    (memberReturns : ∀ member ∈ members, member.parser.Returns) :
    (sized separator? size isFirst members).Returns := by
  induction size generalizing members isFirst with
  | zero => exact Parser.pure_returns []
  | succ size ih =>
      have choiceReturns :
          (Parser.choice ((picks members).map (branch separator? size))).Returns := by
        refine Parser.choice_returns fun parser present => ?_
        obtain ⟨⟨index, member, others⟩, picked, rfl⟩ := List.mem_map.mp present
        obtain ⟨inside, rfl, rfl⟩ := mem_picks_iff.mp picked
        refine (memberReturns _ (List.getElem_mem inside)).bind fun value => Parser.Returns.map ?_ _
        exact ih fun other erased => memberReturns other (members.eraseIdx_subset erased)
      have linedReturns := lined_returns separatorReturns choiceReturns isFirst
      rw [sized_succ]
      cases members.defaults? with
      | none => exact linedReturns
      | some values => exact linedReturns.orElse (Parser.pure_returns values)

end

variable [LawfulTokenStream σ] [Describe τ]

/-- In front of the end of the input, a permutation accepts the words that are arrangements of its
members, with the values in them, and it always has an outcome. -/
theorem sized_endOfInput_iff
    (distinct : (members.map (·.token)).Nodup)
    (separator? : Option (SingleToken σ υ Unit))
    (state : State σ υ)
    (values : List α) :
    (∃ outcome, ((sized (separator?.map (·.parser)) members.length true
        (members.map SingleMember.toMember)).keepLeft Parser.endOfInput).run state =
          .ok outcome) ∧
      ((∃ consumed next error, ((sized (separator?.map (·.parser)) members.length true
          (members.map SingleMember.toMember)).keepLeft Parser.endOfInput).run state =
            .ok ⟨consumed, .ok values next error⟩) ↔
        arrangements members separator? true (TokenStream.toList state.input) values) := by
  refine ⟨?_, ?_, ?_⟩
  · refine Parser.Returns.zipWith (sized_returns ?_ ?_) Parser.endOfInput_returns _ state
    · rintro _ isSome
      obtain ⟨separator, -, rfl⟩ := Option.map_eq_some_iff.mp isSome
      exact separator.takes.returns
    · intro _ present
      obtain ⟨member, -, rfl⟩ := List.mem_map.mp present
      exact member.takes.returns
  · rintro ⟨consumed, next, error, ran⟩
    obtain ⟨_, _, middle, _, _, _, _, sizedRan, endRan, rfl, -, -⟩ :=
      Parser.zipWith_yields_iff.mp ran
    obtain ⟨input, split, derived⟩ := sized_takesOnly rfl distinct sizedRan
    rw [Parser.toList_of_endOfInput endRan, List.append_nil] at split
    rwa [split]
  · rintro ⟨word, written, arranges, rfl⟩
    have reads := (sized_reads rfl distinct arranges separator? true).zipWith
      Parser.endOfInput_reads fun values _ => values
    have viewed : View.tokens state
        (separate (separator?.map (·.token)) true word ++ [] ++ []) := by
      rw [written]
      simp [View.tokens]
    obtain ⟨next, error, ran, -⟩ := reads viewed
    exact ⟨_, next, error, ran⟩

/-- A permutation of distinct tokens accepts, in front of the end of the input, exactly the
arrangements of its members, and with a separator exactly those with one separator between any two
neighbours. The value of each member comes in its place, whatever the order of the tokens. Other
inputs fail, but never without an outcome. -/
theorem permutation_accepts_iff
    {members : List (SingleMember σ υ α)}
    (distinct : (members.map (·.token)).Nodup)
    (state : State σ υ)
    (values : List α) :
    ((∃ outcome, ((Permutation.parser (members.map SingleMember.toMember)).keepLeft
        Parser.endOfInput).run state = .ok outcome) ∧
      ((∃ consumed next error, ((Permutation.parser (members.map SingleMember.toMember)).keepLeft
          Parser.endOfInput).run state = .ok ⟨consumed, .ok values next error⟩) ↔
        Arranges members (TokenStream.toList state.input) ∧
          values = members.map (·.valueIn (TokenStream.toList state.input)))) ∧
    ∀ separator : SingleToken σ υ Unit,
      (∃ outcome, ((Permutation.separated (members.map SingleMember.toMember)
          separator.parser).keepLeft Parser.endOfInput).run state = .ok outcome) ∧
        ((∃ consumed next error, ((Permutation.separated (members.map SingleMember.toMember)
            separator.parser).keepLeft Parser.endOfInput).run state =
              .ok ⟨consumed, .ok values next error⟩) ↔
          ∃ word, TokenStream.toList state.input = word.intersperse separator.token ∧
            Arranges members word ∧ values = members.map (·.valueIn word)) := by
  have size : members.length = (members.map SingleMember.toMember).length :=
    (List.length_map _).symm
  have accepts (separator? : Option (SingleToken σ υ Unit)) :=
    sized_endOfInput_iff distinct separator? state values
  constructor
  · have bare := accepts none
    rw [size] at bare
    refine ⟨bare.1, bare.2.trans ⟨?_, ?_⟩⟩
    · rintro ⟨word, written, arranges, rfl⟩
      rw [Option.map_none, separate_none] at written
      rw [← written]
      exact ⟨arranges, rfl⟩
    · rintro ⟨arranges, rfl⟩
      exact ⟨_, separate_none true _, arranges, rfl⟩
  · intro separator
    have separated := accepts (some separator)
    rw [size] at separated
    refine ⟨separated.1, separated.2.trans ⟨?_, ?_⟩⟩
    · rintro ⟨word, written, arranges, rfl⟩
      rw [Option.map_some, separate_some] at written
      exact ⟨word, written.symm, arranges, rfl⟩
    · rintro ⟨word, written, arranges, rfl⟩
      exact ⟨word, by rw [Option.map_some, separate_some, written], arranges, rfl⟩

/-- A letter that stands for itself. -/
def letterMark (letter : Char) : SingleToken (Tokens Char) Unit Char where
  parser := Parser.token Quoted.char (fun position _ _ => position.nextColumn)
    fun found => if found = letter then some letter else none
  token := letter
  value := letter
  takes := Parser.token_takesOne _ _ _

/-- A comma. -/
def comma : SingleToken (Tokens Char) Unit Unit where
  parser := Parser.token Quoted.char (fun position _ _ => position.nextColumn)
    fun found => if found = ',' then some () else none
  token := ','
  value := ()
  takes := Parser.token_takesOne _ _ _

/-- Two letters that must occur, and between them one that may be missing. -/
def someLetters : List (SingleMember (Tokens Char) Unit Char) :=
  [⟨letterMark 'a', none⟩, ⟨letterMark 'x', some '-'⟩, ⟨letterMark 'b', none⟩]

/-- The letters come in any order, and what is missing is replaced. -/
theorem permutation_accepts_letters :
    (∃ consumed next error, ((Permutation.parser (someLetters.map SingleMember.toMember)).keepLeft
        Parser.endOfInput).run ⟨Tokens.ofList "ba".toList, .start "", ()⟩ =
          .ok ⟨consumed, .ok ['a', '-', 'b'] next error⟩) ∧
      ∃ consumed next error, ((Permutation.separated (someLetters.map SingleMember.toMember)
          comma.parser).keepLeft Parser.endOfInput).run
            ⟨Tokens.ofList "b,x,a".toList, .start "", ()⟩ =
              .ok ⟨consumed, .ok ['a', 'x', 'b'] next error⟩ := by
  have distinct : (someLetters.map (·.token)).Nodup := by decide
  have two : Arranges someLetters ['b', 'a'] := ⟨by decide, by decide, by decide⟩
  have three : Arranges someLetters ['b', 'x', 'a'] := ⟨by decide, by decide, by decide⟩
  have bare := permutation_accepts_iff distinct ⟨Tokens.ofList "ba".toList, .start "", ()⟩
    ['a', '-', 'b']
  have separated := permutation_accepts_iff distinct
    ⟨Tokens.ofList "b,x,a".toList, .start "", ()⟩ ['a', 'x', 'b']
  exact ⟨bare.1.2.mpr ⟨two, rfl⟩, (separated.2 comma).2.mpr ⟨_, rfl, three, rfl⟩⟩

end Permutation
end Predictive
