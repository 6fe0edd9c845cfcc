import Mathlib.Data.List.FinRange
import Predictive.Proofs.CombinatorLaws
import Predictive.Proofs.PermutationOrders

/-!
# Permutations that sort what they find

A permutation may also keep the indices of the members that are still to come, put each value
beside the index of its member, and sort what it has found by the indices once it is done. That is
the same parser as one that puts each value in its place among those of the others at once. By
induction on the number of members that are to come: what is found for the others has their indices,
in some order, so that sorting it leaves a gap just where the value of the first member belongs.
-/

namespace Predictive
namespace Permutation

variable {σ υ α : Type} {n : Nat}

/-! ## Sorting by indices -/

/-- Values beside indices, in the order of the indices. -/
def sortedByIndex (found : List (Fin n × α)) : List (Fin n × α) :=
  found.mergeSort fun one other => decide (one.1 ≤ other.1)

/-- The values alone, in the order of their indices. -/
def inPlace (found : List (Fin n × α)) : List α :=
  (sortedByIndex found).map Prod.snd

/-- Values whose indices ascend have no other order in which their indices ascend. -/
theorem eq_of_perm_of_ascending
    {found other : List (Fin n × α)}
    (perm : found.Perm other)
    (ascending : (found.map Prod.fst).Pairwise (· < ·))
    (otherAscending : (other.map Prod.fst).Pairwise (· < ·)) :
    found = other := by
  rw [List.pairwise_map] at ascending otherAscending
  exact perm.eq_of_pairwise (fun _ _ _ _ less greater => absurd less (lt_asymm greater))
    ascending otherAscending

/-- Sorting puts the indices in the order in which they ascend. -/
theorem map_fst_sortedByIndex
    {found : List (Fin n × α)}
    {indices : List (Fin n)}
    (ascending : indices.Pairwise (· < ·))
    (perm : (found.map Prod.fst).Perm indices) :
    (sortedByIndex found).map Prod.fst = indices := by
  have sorted : ((sortedByIndex found).map Prod.fst).Pairwise (· ≤ ·) := by
    rw [List.pairwise_map]
    refine (List.pairwise_mergeSort (fun one two three => ?_) (fun one two => ?_) found).imp
      (fun inOrder => of_decide_eq_true inOrder)
    · simpa only [decide_eq_true_iff] using fun before behind => le_trans before behind
    · simpa only [Bool.or_eq_true, decide_eq_true_iff] using le_total one.1 two.1
  have same : ((sortedByIndex found).map Prod.fst).Perm indices :=
    ((List.mergeSort_perm found _).map Prod.fst).trans perm
  exact same.eq_of_pairwise (fun _ _ _ _ => le_antisymm) sorted
    (ascending.imp fun less => le_of_lt less)

/-- Values beside ascending indices are in order. -/
theorem inPlace_zip
    {indices : List (Fin n)}
    {values : List α}
    (ascending : indices.Pairwise (· < ·))
    (length : indices.length = values.length) :
    inPlace (indices.zip values) = values := by
  have keys : (indices.zip values).map Prod.fst = indices := List.map_fst_zip length.le
  have sorted : sortedByIndex (indices.zip values) = indices.zip values := by
    refine eq_of_perm_of_ascending (List.mergeSort_perm _ _) ?_ (by rwa [keys])
    rwa [map_fst_sortedByIndex ascending (.of_eq keys)]
  rw [inPlace, sorted, List.map_snd_zip length.ge]

/-- The value of one more index goes where the index stands among the others. -/
theorem inPlace_append
    {found : List (Fin n × α)}
    {indices : List (Fin n)}
    (ascending : indices.Pairwise (· < ·))
    {place : Nat}
    (inside : place < indices.length)
    (perm : (found.map Prod.fst).Perm (indices.eraseIdx place))
    (value : α) :
    inPlace (found ++ [(indices[place], value)]) = (inPlace found).insertIdx place value := by
  have others : (sortedByIndex found).map Prod.fst = indices.eraseIdx place :=
    map_fst_sortedByIndex (ascending.sublist (indices.eraseIdx_sublist place)) perm
  have all : ((sortedByIndex found).insertIdx place (indices[place], value)).map Prod.fst =
      indices := by
    rw [List.map_insertIdx, others, List.insertIdx_eraseIdx_getElem inside]
  have room : place ≤ (sortedByIndex found).length := by
    rw [← List.length_map Prod.fst, others, List.length_eraseIdx_of_lt inside]
    omega
  have more : (found ++ [(indices[place], value)]).Perm
      ((sortedByIndex found).insertIdx place (indices[place], value)) := by
    refine (List.perm_append_singleton _ found).trans ?_
    exact ((List.mergeSort_perm found _).symm.cons _).trans (List.perm_insertIdx _ _ room).symm
  have sorted : sortedByIndex (found ++ [(indices[place], value)]) =
      (sortedByIndex found).insertIdx place (indices[place], value) := by
    have indexed := more.map Prod.fst
    rw [all] at indexed
    refine eq_of_perm_of_ascending ((List.mergeSort_perm _ _).trans more) ?_ (by rwa [all])
    rwa [map_fst_sortedByIndex ascending indexed]
  rw [inPlace, sorted, List.map_insertIdx, inPlace]

/-! ## Members by index -/

variable (members : Permutation σ υ α) (separator? : Option (Parser σ υ Unit))

/-- The defaults of the members at some indices, beside the indices, if all of them have one. -/
def defaultsAt? (indices : List (Fin members.length)) :
    Option (List (Fin members.length × α)) :=
  indices.mapM fun index => members[index].default?.map fun value => (index, value)

/-- The member at an index first, then others by a parser for those at the other indices. The value
of the member comes behind what is found for the others. -/
def indexedBranch
    (others : List (Fin members.length) → Parser σ υ (List (Fin members.length × α)))
    (indices : List (Fin members.length))
    (index : Fin members.length) :
    Parser σ υ (List (Fin members.length × α)) :=
  members[index].parser.bind fun value =>
    (others (indices.filter (· != index))).map (· ++ [(index, value)])

/-- The members at some indices in any order. -/
def indexed :
    (size : Nat) → (isFirst : Bool) → List (Fin members.length) →
      Parser σ υ (List (Fin members.length × α))
  | 0, _, _ => Parser.pure []
  | size + 1, isFirst, indices =>
      let branches := indices.map (indexedBranch members (indexed size false) indices)
      let next := lined separator? isFirst (Parser.choice branches)
      match defaultsAt? members indices with
      | some defaults => next.orElse (Parser.pure defaults)
      | none => next

variable {members separator?}

/-- Members that are to come, whose branches and lead are named. -/
theorem indexed_succ
    (size : Nat)
    (isFirst : Bool)
    (indices : List (Fin members.length)) :
    indexed members separator? (size + 1) isFirst indices =
      match defaultsAt? members indices with
      | some defaults =>
          (lined separator? isFirst (Parser.choice (indices.map
            (indexedBranch members (indexed members separator? size false) indices)))).orElse
              (Parser.pure defaults)
      | none =>
          lined separator? isFirst (Parser.choice (indices.map
            (indexedBranch members (indexed members separator? size false) indices))) :=
  rfl

/-- The defaults at some indices are those of the members there. -/
theorem defaultsAt?_eq (indices : List (Fin members.length)) :
    defaultsAt? members indices = (defaults? (indices.map members.get)).map indices.zip := by
  induction indices with
  | nil => rfl
  | cons index indices ih =>
      unfold defaultsAt? defaults? at ih ⊢
      rw [List.map_cons, List.mapM_cons, List.mapM_cons, ih]
      change (members[index].default?.map _).bind _ = (members[index].default?.bind _).map _
      cases members[index].default? with
      | none => rfl
      | some value => cases (indices.map members.get).mapM Member.default? <;> rfl

/-- There is one default for each index. -/
theorem length_of_defaults?
    {indices : List (Fin members.length)}
    {values : List α}
    (defaults : defaults? (indices.map members.get) = some values) :
    indices.length = values.length := by
  have same := congrArg List.length (map_default?_of_defaults? defaults)
  simpa only [List.length_map] using same

section
variable
  {size : Nat}
  {isFirst consumed : Bool}
  {indices : List (Fin members.length)}
  {state next : State σ υ}
  {found : List (Fin members.length × α)}
  {error : ParseError}

/-- The branch that succeeds adds the index of its member to those of the others. -/
theorem indexedBranches_indices
    {others : List (Fin members.length) → Parser σ υ (List (Fin members.length × α))}
    (nodup : indices.Nodup)
    (othersIndices : ∀ index ∈ indices, ∀ {state consumed found error},
      (others (indices.erase index)).Yields state consumed found next error →
        (found.map Prod.fst).Perm (indices.erase index))
    (ran : (lined separator? isFirst (Parser.choice (indices.map
      (indexedBranch members others indices)))).Yields state consumed found next error) :
    (found.map Prod.fst).Perm indices := by
  obtain ⟨_, _, _, choiceRan, -⟩ := Yields.of_lined ran
  obtain ⟨_, present, _, branchRan⟩ := Parser.Yields.of_choice choiceRan
  obtain ⟨index, among, rfl⟩ := List.mem_map.mp present
  obtain ⟨_, value, _, _, _, _, -, mapped, -, -⟩ := Parser.bind_yields_iff.mp branchRan
  obtain ⟨rest, othersRan, rfl⟩ := Parser.map_yields_iff.mp mapped
  rw [← nodup.erase_eq_filter] at othersRan
  have restIndices := othersIndices index among othersRan
  rw [List.map_append]
  exact (List.perm_append_singleton index _).trans
    ((restIndices.cons index).trans (List.perm_cons_erase among).symm)

/-- What is found for some members has their indices, in some order. -/
theorem indexed_indices
    (nodup : indices.Nodup)
    (all : indices.length = size)
    (ran : (indexed members separator? size isFirst indices).Yields state consumed found next
      error) :
    (found.map Prod.fst).Perm indices := by
  induction size generalizing indices isFirst consumed state found error with
  | zero =>
      obtain rfl := List.length_eq_zero_iff.mp all
      obtain ⟨rfl, rfl, rfl, -⟩ := Parser.Yields.unique (Parser.run_pure [] state) ran
      exact .nil
  | succ size ih =>
      have othersIndices (index) (among : index ∈ indices) {state consumed found error}
          (othersRan : (indexed members separator? size false (indices.erase index)).Yields state
            consumed found next error) :
          (found.map Prod.fst).Perm (indices.erase index) := by
        refine ih (nodup.erase index) ?_ othersRan
        rw [List.length_erase_of_mem among, all, Nat.add_sub_cancel]
      rw [indexed_succ, defaultsAt?_eq] at ran
      cases defaults : defaults? (indices.map members.get) with
      | none =>
          rw [defaults] at ran
          exact indexedBranches_indices nodup othersIndices ran
      | some values =>
          rw [defaults] at ran
          rcases Parser.orElse_yields_iff.mp ran with linedRan | ⟨_, _, -, pureRan, -⟩
          · exact indexedBranches_indices nodup othersIndices linedRan
          · obtain ⟨-, rfl, -⟩ := Parser.Yields.unique (Parser.run_pure _ state) pureRan
            rw [List.map_fst_zip (length_of_defaults? defaults).le]

end

/-! ## The same parser -/

/-- Values do not matter to what stands in front of a member. -/
theorem map_lined
    {β : Type}
    (isFirst : Bool)
    (parser : Parser σ υ (List β))
    (f : List β → List α) :
    (lined separator? isFirst parser).map f = lined separator? isFirst (parser.map f) := by
  cases isFirst with
  | true => rfl
  | false =>
      cases separator? with
      | none => rfl
      | some separator => exact Parser.map_keepRight separator parser f

/-- The branches become those that put the value of the first member in its place, if the parsers
for the others do so with theirs. -/
theorem indexedBranches_inPlace
    {size : Nat}
    {indices : List (Fin members.length)}
    (ascending : indices.Pairwise (· < ·))
    (all : indices.length = size + 1)
    (othersInPlace : ∀ place, place < indices.length →
      (indexed members separator? size false (indices.eraseIdx place)).map inPlace =
        sized separator? size false ((indices.eraseIdx place).map members.get)) :
    (indices.map (indexedBranch members (indexed members separator? size false) indices)).map
        (·.map inPlace) =
      (picks (indices.map members.get)).map (branch separator? size) := by
  have nodup : indices.Nodup := ascending.imp ne_of_lt
  refine List.ext_getElem (by simp) fun place inside _ => ?_
  have within : place < indices.length := by simpa using inside
  have behind (value : α) :
      ((indexed members separator? size false (indices.eraseIdx place)).map
          (· ++ [(indices[place], value)])).map inPlace =
        (sized separator? size false ((indices.eraseIdx place).map members.get)).map
          (List.insertIdx · place value) := by
    rw [← othersInPlace place within, Parser.map_map, Parser.map_map]
    refine Parser.map_congr fun ran => ?_
    have perm := indexed_indices (nodup.sublist (indices.eraseIdx_sublist place))
      (length_eraseIdx within all) ran
    exact inPlace_append ascending within perm value
  simp only [List.getElem_map, indexedBranch, picks, List.getElem_zipIdx, branch,
    Parser.map_bind, ← nodup.erase_eq_filter, nodup.erase_getElem, Nat.zero_add,
    List.eraseIdx_map]
  exact congrArg members[indices[place]].parser.bind (funext behind)

/-- Members at ascending indices are found by index and sorted just as they are found and put in
their places. -/
theorem indexed_inPlace
    {size : Nat}
    {indices : List (Fin members.length)}
    (ascending : indices.Pairwise (· < ·))
    (all : indices.length = size)
    (isFirst : Bool) :
    (indexed members separator? size isFirst indices).map inPlace =
      sized separator? size isFirst (indices.map members.get) := by
  induction size generalizing indices isFirst with
  | zero =>
      obtain rfl := List.length_eq_zero_iff.mp all
      have nothing : inPlace ([] : List (Fin members.length × α)) = [] := inPlace_zip .nil rfl
      exact congrArg Parser.pure nothing
  | succ size ih =>
      have linedInPlace : (lined separator? isFirst (Parser.choice (indices.map
          (indexedBranch members (indexed members separator? size false) indices)))).map inPlace =
            lined separator? isFirst (Parser.choice ((picks (indices.map members.get)).map
              (branch separator? size))) := by
        have branches := indexedBranches_inPlace ascending all
          fun place within => ih (ascending.sublist (indices.eraseIdx_sublist place))
            (length_eraseIdx within all) false
        rw [map_lined, Parser.map_choice, branches]
      rw [indexed_succ, sized_succ, defaultsAt?_eq]
      cases defaults : defaults? (indices.map members.get) with
      | none => exact linedInPlace
      | some values =>
          have inOrder : inPlace (indices.zip values) = values :=
            inPlace_zip ascending (length_of_defaults? defaults)
          change (Parser.orElse _ _).map inPlace = _
          rw [Parser.map_orElse, linedInPlace]
          exact congrArg _ (congrArg Parser.pure inOrder)

/-- A permutation is the parser that keeps the indices of its members and sorts what it has found
by them at the end, and so it is with separators. -/
theorem parser_eq_indexed (members : Permutation σ υ α) :
    members.parser =
        (indexed members none members.length true (List.finRange members.length)).map inPlace ∧
      ∀ separator : Parser σ υ Unit,
        members.separated separator =
          (indexed members (some separator) members.length true
            (List.finRange members.length)).map inPlace := by
  have sorts (separator? : Option (Parser σ υ Unit)) :
      (indexed members separator? members.length true (List.finRange members.length)).map
          inPlace =
        sized separator? members.length true members := by
    rw [indexed_inPlace (List.pairwise_lt_finRange _) List.length_finRange,
      List.map_get_finRange]
  exact ⟨(sorts none).symm, fun separator => (sorts (some separator)).symm⟩

end Permutation
end Predictive
