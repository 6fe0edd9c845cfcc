import Predictive.Proofs.Arrangements

/-!
# Orders in which permutations take their members

Whatever the parsers of its members are, a permutation that succeeds has run some of them, each at
most once and one after the other, and has put the values where the members stand. A member that was
not run has a default, and that is its value. By induction on the number of members: behind the
first member that is taken comes a permutation of the others, whose indices are those of the others
in the whole list with a gap at the first.
-/

namespace Predictive
namespace Permutation

variable {σ υ α β : Type}

/-- The place in the whole list of what stands at an index once an element is taken out. -/
def shift (taken index : Nat) : Nat :=
  if index < taken then index else index + 1

theorem shift_ne (taken index : Nat) : shift taken index ≠ taken := by
  unfold shift
  split <;> omega

theorem shift_injective (taken : Nat) : Function.Injective (shift taken) := by
  intro index other same
  unfold shift at same
  split at same <;> split at same <;> omega

/-- Every other place is that of something that is left. -/
theorem exists_shift {taken place : Nat} (other : place ≠ taken) :
    ∃ index, shift taken index = place := by
  rcases Nat.lt_or_gt_of_ne other with before | behind
  · exact ⟨place, if_pos before⟩
  · refine ⟨place - 1, ?_⟩
    unfold shift
    split <;> omega

theorem getElem?_shift (list : List β) (taken index : Nat) :
    list[shift taken index]? = (list.eraseIdx taken)[index]? := by
  rw [List.getElem?_eraseIdx, shift]
  split <;> rfl

theorem map_default?_of_defaults?
    {members : Permutation σ υ α}
    {values : List α}
    (defaults : members.defaults? = some values) :
    members.map Member.default? = values.map some := by
  induction members generalizing values with
  | nil =>
      obtain rfl : [] = values := by simpa [defaults?] using defaults
      rfl
  | cons member members ih =>
      simp only [defaults?, List.mapM_cons, Option.bind_eq_bind,
        Option.bind_eq_some_iff] at defaults
      obtain ⟨value, here, others, rest, same⟩ := defaults
      obtain rfl : value :: others = values := by simpa using same
      rw [List.map_cons, List.map_cons, here, ih rest]

/-- Members that are run one after another, with the separator, if there is one, in front of every
member but the first. -/
def inOrder
    (separator? : Option (Parser σ υ Unit))
    (isFirst : Bool) :
    Permutation σ υ α → Parser σ υ (List α)
  | [] => Parser.pure []
  | member :: others =>
      lined separator? isFirst
        (member.parser.zipWith (inOrder separator? false others) List.cons)

/-- Values of a permutation of which some members are chosen in an order without repetition. What is
found for them stands at their indices, and every other member has a default that stands at its
index. -/
structure Chosen
    (members : Permutation σ υ α)
    (values : List α)
    (order : List Nat)
    (chosen : Permutation σ υ α)
    (found : List α) : Prop where
  length_eq : values.length = members.length
  nodup : order.Nodup
  chosen_eq : order.map (members[·]?) = chosen.map some
  found_eq : order.map (values[·]?) = found.map some
  missing : ∀ index member, index ∉ order → members[index]? = some member →
    ∃ value, member.default? = some value ∧ values[index]? = some value

namespace Chosen

variable {members chosen : Permutation σ υ α} {values found : List α} {order : List Nat}

/-- The defaults are the values if no member is chosen. -/
theorem nil (defaults : members.defaults? = some values) : Chosen members values [] [] [] where
  length_eq := by
    have same := congrArg List.length (map_default?_of_defaults? defaults)
    rw [List.length_map, List.length_map] at same
    exact same.symm
  nodup := .nil
  chosen_eq := rfl
  found_eq := rfl
  missing index member _ present := by
    have here := congrArg (·[index]?) (map_default?_of_defaults? defaults)
    rw [List.getElem?_map, List.getElem?_map, present, Option.map_some] at here
    obtain ⟨value, found, same⟩ := Option.map_eq_some_iff.mp here.symm
    exact ⟨value, same.symm, found⟩

/-- A member is chosen in front of those that are chosen from the others. -/
theorem cons
    {index : Nat}
    (inside : index < members.length)
    (others : Chosen (members.eraseIdx index) values order chosen found)
    (value : α) :
    Chosen members (values.insertIdx index value) (index :: order.map (shift index))
      (members[index] :: chosen) (value :: found) := by
  have room : index ≤ values.length := by
    have length := others.length_eq
    rw [List.length_eraseIdx_of_lt inside] at length
    omega
  have here : (values.insertIdx index value)[index]? = some value := by
    rw [List.getElem?_insertIdx_self, if_pos room]
  have there (other : Nat) :
      (values.insertIdx index value)[shift index other]? = values[other]? := by
    rw [getElem?_shift, List.eraseIdx_insertIdx_self]
  refine ⟨?_, List.nodup_cons.mpr ⟨?_, others.nodup.map (shift_injective index)⟩, ?_, ?_, ?_⟩
  · rw [List.length_insertIdx_of_le_length room, others.length_eq,
      List.length_eraseIdx_of_lt inside]
    omega
  · intro again
    obtain ⟨other, -, same⟩ := List.mem_map.mp again
    exact shift_ne index other same
  · rw [List.map_cons, List.map_map, List.map_cons, ← others.chosen_eq,
      List.getElem?_eq_getElem inside]
    exact congrArg _ (List.map_congr_left fun other _ => getElem?_shift members index other)
  · rw [List.map_cons, List.map_map, List.map_cons, ← others.found_eq, here]
    exact congrArg _ (List.map_congr_left fun other _ => there other)
  · intro place member notChosen present
    have other : place ≠ index := fun same => notChosen (same ▸ List.mem_cons_self)
    obtain ⟨left, rfl⟩ := exists_shift other
    have notAmong : left ∉ order := fun among =>
      notChosen (List.mem_cons_of_mem _ (List.mem_map_of_mem among))
    rw [getElem?_shift] at present
    rw [there]
    exact others.missing left member notAmong present

end Chosen

/-! ## What a run of a permutation runs -/

section
variable
  {separator? : Option (Parser σ υ Unit)}
  {isFirst consumed : Bool}
  {state next : State σ υ}
  {error : ParseError}

/-- What stands in front of a member does not depend on the member. -/
theorem Yields.of_lined
    {parser : Parser σ υ (List α)}
    {values : List α}
    (ran : (lined separator? isFirst parser).Yields state consumed values next error) :
    ∃ start tag left, parser.Yields start tag values next left ∧
      ∀ {other : Parser σ υ (List α)} {found left}, other.Yields start tag found next left →
        ∃ error, (lined separator? isFirst other).Yields state consumed found next error := by
  cases isFirst with
  | true => exact ⟨state, consumed, error, ran, fun otherRan => ⟨_, otherRan⟩⟩
  | false =>
      cases separator? with
      | none => exact ⟨state, consumed, error, ran, fun otherRan => ⟨_, otherRan⟩⟩
      | some separator =>
          obtain ⟨_, _, start, _, tag, _, left, separatorRan, parserRan, rfl, rfl, -⟩ :=
            Parser.zipWith_yields_iff.mp ran
          exact ⟨start, tag, left, parserRan, fun otherRan => ⟨_, Parser.zipWith_yields_iff.mpr
            ⟨_, _, _, _, _, _, _, separatorRan, otherRan, rfl, rfl, rfl⟩⟩⟩

/-- Members that may be chosen run one after another from a state to the next one, and find what the
values say. -/
def RunsChosen
    (separator? : Option (Parser σ υ Unit))
    (isFirst : Bool)
    (members : Permutation σ υ α)
    (state : State σ υ)
    (consumed : Bool)
    (values : List α)
    (next : State σ υ) : Prop :=
  ∃ order chosen found error, Chosen members values order chosen found ∧
    (inOrder separator? isFirst chosen).Yields state consumed found next error

/-- The branch that succeeds has run its member, and behind it members that are chosen from the
others. -/
theorem branches_sound
    {size : Nat}
    {members : Permutation σ υ α}
    {values : List α}
    (others : ∀ index, index < members.length → ∀ {start tag rest error},
      (sized separator? size false (members.eraseIdx index)).Yields start tag rest next error →
        RunsChosen separator? false (members.eraseIdx index) start tag rest next)
    (ran : (lined separator? isFirst
      (Parser.choice ((picks members).map (branch separator? size)))).Yields state consumed values
        next error) :
    RunsChosen separator? isFirst members state consumed values next := by
  obtain ⟨start, tag, left, choiceRan, behindLead⟩ := Yields.of_lined ran
  obtain ⟨_, present, _, branchRan⟩ := Parser.Yields.of_choice choiceRan
  obtain ⟨⟨index, _, _⟩, picked, rfl⟩ := List.mem_map.mp present
  obtain ⟨inside, rfl, rfl⟩ := mem_picks_iff.mp picked
  obtain ⟨_, value, _, _, _, _, memberRan, mapped, rfl, -⟩ := Parser.bind_yields_iff.mp branchRan
  obtain ⟨rest, othersRan, rfl⟩ := Parser.map_yields_iff.mp mapped
  obtain ⟨order, chosen, found, _, areChosen, orderRan⟩ := others index inside othersRan
  obtain ⟨_, linedRan⟩ := behindLead (Parser.zipWith_yields_iff.mpr
    ⟨_, _, _, _, _, _, _, memberRan, orderRan, rfl, rfl, rfl⟩)
  exact ⟨_, members[index] :: chosen, _, _, areChosen.cons inside value, linedRan⟩

/-- A permutation that succeeds has run members that may be chosen. -/
theorem sized_sound
    {size : Nat}
    {members : Permutation σ υ α}
    {values : List α}
    (all : members.length = size)
    (ran : (sized separator? size isFirst members).Yields state consumed values next error) :
    RunsChosen separator? isFirst members state consumed values next := by
  induction size generalizing members values isFirst consumed state error with
  | zero =>
      obtain rfl := List.length_eq_zero_iff.mp all
      obtain ⟨rfl, rfl, rfl, -⟩ := Parser.Yields.unique (Parser.run_pure [] state) ran
      exact ⟨[], [], [], _, .nil rfl, Parser.run_pure [] state⟩
  | succ size ih =>
      have others (index : Nat) (inside : index < members.length) {start tag rest error}
          (othersRan : (sized separator? size false (members.eraseIdx index)).Yields start tag rest
            next error) :=
        ih (length_eraseIdx inside all) othersRan
      rw [sized_succ] at ran
      cases defaults : members.defaults? with
      | none =>
          rw [defaults] at ran
          exact branches_sound others ran
      | some defaultValues =>
          rw [defaults] at ran
          rcases Parser.orElse_yields_iff.mp ran with linedRan | ⟨_, _, -, pureRan, -⟩
          · exact branches_sound others linedRan
          · obtain ⟨rfl, rfl, rfl, -⟩ := Parser.Yields.unique (Parser.run_pure _ state) pureRan
            exact ⟨[], [], [], _, .nil defaults, Parser.run_pure [] state⟩

/-- A permutation that succeeds has run some of its members, each at most once, one after another
from the state where it starts to the one that it returns, with separators between them if there are
any. There is one value for each member: what the member has found if it was run, and otherwise its
default, which it has. -/
theorem permutation_sound (members : Permutation σ υ α) (values : List α) :
    (members.parser.Yields state consumed values next error →
        RunsChosen none true members state consumed values next) ∧
      ∀ separator : Parser σ υ Unit,
        (members.separated separator).Yields state consumed values next error →
          RunsChosen (some separator) true members state consumed values next :=
  ⟨sized_sound rfl, fun _ => sized_sound rfl⟩

end

/-- Two members that must occur, of which the second accepts what the first does, and one that may
be missing. -/
def overlapping : Permutation Text Unit Char :=
  [⟨Parser.char 'a', none⟩, ⟨Parser.letter, none⟩, ⟨Parser.digit, some '0'⟩]

/-- The members are taken in the order of the input, and what is missing is replaced. -/
theorem permutation_sound_overlapping :
    (∃ next error,
        overlapping.parser.Yields ⟨Text.ofString "ba", .start "", ()⟩ true ['a', 'b', '0'] next
            error ∧
          RunsChosen none true overlapping ⟨Text.ofString "ba", .start "", ()⟩ true
            ['a', 'b', '0'] next) ∧
      ∃ next error,
        (overlapping.separated ((Parser.char ',').map fun _ => ())).Yields
            ⟨Text.ofString "7,b,a", .start "", ()⟩ true ['a', 'b', '7'] next error ∧
          RunsChosen (some ((Parser.char ',').map fun _ => ())) true overlapping
            ⟨Text.ofString "7,b,a", .start "", ()⟩ true ['a', 'b', '7'] next := by
  constructor
  · obtain ⟨next, error, ran⟩ : ∃ next error, overlapping.parser.Yields
        ⟨Text.ofString "ba", .start "", ()⟩ true ['a', 'b', '0'] next error :=
      Parser.exists_yields (by decide +kernel)
    exact ⟨next, error, ran, (permutation_sound overlapping _).1 ran⟩
  · obtain ⟨next, error, ran⟩ : ∃ next error,
        (overlapping.separated ((Parser.char ',').map fun _ => ())).Yields
          ⟨Text.ofString "7,b,a", .start "", ()⟩ true ['a', 'b', '7'] next error :=
      Parser.exists_yields (by decide +kernel)
    exact ⟨next, error, ran, (permutation_sound overlapping _).2 _ ran⟩

end Permutation
end Predictive
