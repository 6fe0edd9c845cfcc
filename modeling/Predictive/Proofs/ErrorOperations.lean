import Mathlib.Data.List.Nodup
import Predictive.ParseError.Render
import Predictive.Proofs.ErrorMerging

/-!
# Operations on errors

Every operation on errors keeps the messages of an error distinct, each in its own way: a message
is added only if it is not there, it replaces all messages of its kind, or the error starts anew.
Setting the labels of an error leaves exactly these labels, each once and in the order in which
they were first given, and everything else that the error says.
-/

namespace Predictive

/-! ## First occurrences -/

/-- The values that are kept are those of a list, each once, in the order in which they first
occur. -/
structure FirstOccurrences {α : Type} [BEq α] (values kept : List α) : Prop where
  mem_iff : ∀ {value}, value ∈ kept ↔ value ∈ values
  ordered : kept.Pairwise fun earlier later => values.idxOf earlier < values.idxOf later

namespace FirstOccurrences

variable {α : Type} [BEq α] [LawfulBEq α] {values kept : List α} {value : α}

omit [LawfulBEq α] in
theorem nil : FirstOccurrences ([] : List α) [] :=
  ⟨Iff.rfl, .nil⟩

/-- Another value at the end does not move those that were there. -/
theorem idxOf_snoc (first : FirstOccurrences values kept) (present : value ∈ kept) (last : α) :
    (values ++ [last]).idxOf value = values.idxOf value :=
  List.idxOf_append_of_mem (first.mem_iff.mp present)

/-- Another value at the end leaves the others in order. -/
theorem ordered_snoc (first : FirstOccurrences values kept) (last : α) :
    kept.Pairwise fun earlier later =>
      (values ++ [last]).idxOf earlier < (values ++ [last]).idxOf later :=
  first.ordered.imp_of_mem fun earlierIn laterIn lower => by
    rwa [first.idxOf_snoc earlierIn, first.idxOf_snoc laterIn]

/-- A further value that is kept already changes nothing. -/
theorem snoc_of_mem (first : FirstOccurrences values kept) (present : value ∈ kept) :
    FirstOccurrences (values ++ [value]) kept where
  mem_iff := by
    intro other
    have known := first.mem_iff.mp present
    rw [first.mem_iff, List.mem_append, List.mem_singleton]
    exact ⟨.inl, fun found => found.elim id fun same => same ▸ known⟩
  ordered := first.ordered_snoc value

/-- A further value that is new is kept behind the others. -/
theorem snoc_of_not_mem (first : FirstOccurrences values kept) (absent : value ∉ kept) :
    FirstOccurrences (values ++ [value]) (kept ++ [value]) where
  mem_iff := by
    intro other
    rw [List.mem_append, List.mem_append, first.mem_iff]
  ordered := by
    refine List.pairwise_append.mpr ⟨first.ordered_snoc value, List.pairwise_singleton _ _, ?_⟩
    intro earlier earlierIn later laterIn
    obtain rfl := List.mem_singleton.mp laterIn
    have missing : later ∉ values := fun present => absent (first.mem_iff.mpr present)
    rw [first.idxOf_snoc earlierIn, List.idxOf_append_of_notMem missing]
    have inside := List.idxOf_lt_length_iff.mpr (first.mem_iff.mp earlierIn)
    simpa using inside

end FirstOccurrences

namespace ParseError

/-! ## Operations on errors -/

/-- The errors that the operations on errors build. -/
inductive Built : ParseError → Prop
  | unknown (position : Position) : Built (.unknown position)
  | single (position : Position) (kind : MessageKind) (text : String) :
      Built (.single position kind text)
  | moveTo {error : ParseError} (position : Position) :
      Built error → Built (error.moveTo position)
  | addMessage {error : ParseError} (message : Message) :
      Built error → Built (error.addMessage message)
  | setMessage {error : ParseError} (message : Message) :
      Built error → Built (error.setMessage message)
  | setExpected {error : ParseError} (labels : List String) :
      Built error → Built (error.setExpected labels)
  | merge {first second : ParseError} :
      Built first → Built second → Built (first.merge second)

variable {error : ParseError}

/-- A message that is already there is not added again. -/
theorem nodup_addMessage (distinct : error.messages.Nodup) (message : Message) :
    (error.addMessage message).messages.Nodup := by
  unfold addMessage
  split
  · exact distinct
  · rename_i absent
    have joined := distinct.concat absent
    rwa [List.concat_eq_append] at joined

/-- Messages that are already there are not added again. -/
theorem nodup_addMessages (distinct : error.messages.Nodup) (messages : List Message) :
    (error.addMessages messages).messages.Nodup := by
  induction messages generalizing error with
  | nil => exact distinct
  | cons message messages ih => exact ih (nodup_addMessage distinct message)

/-- The message that replaces those of its kind is not there twice. -/
theorem nodup_setMessage (distinct : error.messages.Nodup) (message : Message) :
    (error.setMessage message).messages.Nodup := by
  have absent : message ∉ error.messages.filter (·.kind ≠ message.kind) := by simp
  have joined := (distinct.filter _).concat absent
  rwa [List.concat_eq_append] at joined

/-- The first label replaces what was expected, and the others are added. -/
theorem nodup_setExpected (distinct : error.messages.Nodup) (labels : List String) :
    (error.setExpected labels).messages.Nodup := by
  cases labels with
  | nil => exact nodup_setMessage distinct _
  | cons label labels => exact nodup_addMessages (nodup_setMessage distinct _) _

/-- Merging adds messages or keeps one of the errors. -/
theorem nodup_merge
    {first second : ParseError}
    (firstDistinct : first.messages.Nodup)
    (secondDistinct : second.messages.Nodup) :
    (first.merge second).messages.Nodup := by
  rcases lt_trichotomy first.rank second.rank with lower | same | higher
  · rwa [merge_of_rank_lt lower]
  · rw [merge_of_rank_eq same]
    exact nodup_addMessages firstDistinct _
  · rwa [merge_of_lt_rank higher]

/-- No message stands twice in an error that the operations build. -/
theorem Built.nodup (built : error.Built) : error.messages.Nodup := by
  induction built with
  | unknown position => exact .nil
  | single position kind text => exact List.nodup_singleton (Message.mk kind text)
  | moveTo position _ ih => exact ih
  | addMessage message _ ih => exact nodup_addMessage ih message
  | setMessage message _ ih => exact nodup_setMessage ih message
  | setExpected labels _ ih => exact nodup_setExpected ih labels
  | merge _ _ firstIh secondIh => exact nodup_merge firstIh secondIh

/-! ## Labels -/

/-- A text of a kind is that of a message of the kind. -/
theorem mem_textsOf_iff {kind : MessageKind} {text : String} {messages : List Message} :
    text ∈ textsOf kind messages ↔ ⟨kind, text⟩ ∈ messages := by
  simp only [textsOf, List.mem_map, List.mem_filter, decide_eq_true_eq]
  constructor
  · rintro ⟨message, ⟨present, rfl⟩, rfl⟩
    exact present
  · intro present
    exact ⟨_, ⟨present, rfl⟩, rfl⟩

/-- Texts of a kind are those in front and those behind. -/
theorem textsOf_append (kind : MessageKind) (front back : List Message) :
    textsOf kind (front ++ back) = textsOf kind front ++ textsOf kind back := by
  simp [textsOf]

/-- A label that is added to some is one more of them, unless it is there already. -/
theorem firstOccurrences_addMessage
    {kind : MessageKind}
    {labels : List String}
    (first : FirstOccurrences labels (textsOf kind error.messages))
    (label : String) :
    FirstOccurrences (labels ++ [label])
      (textsOf kind (error.addMessage ⟨kind, label⟩).messages) := by
  unfold addMessage
  split
  · rename_i present
    exact first.snoc_of_mem (mem_textsOf_iff.mpr present)
  · rename_i absent
    rw [textsOf_append]
    simpa [textsOf] using first.snoc_of_not_mem fun present => absent (mem_textsOf_iff.mp present)

/-- Labels that are added behind others come once each, where they occur first. -/
theorem firstOccurrences_addMessages
    {kind : MessageKind}
    {labels : List String}
    (first : FirstOccurrences labels (textsOf kind error.messages))
    (others : List String) :
    FirstOccurrences (labels ++ others)
      (textsOf kind (error.addMessages (others.map (⟨kind, ·⟩))).messages) := by
  induction others generalizing error labels with
  | nil => simpa using first
  | cons label others ih =>
      rw [List.map_cons, addMessages_cons, List.append_cons]
      exact ih (firstOccurrences_addMessage first label)

/-- Adding a message leaves those of other kinds alone. -/
theorem filter_addMessage {kind : MessageKind} (text : String) :
    (error.addMessage ⟨kind, text⟩).messages.filter (·.kind ≠ kind) =
      error.messages.filter (·.kind ≠ kind) := by
  unfold addMessage
  split
  · rfl
  · simp

/-- Adding messages of a kind leaves those of other kinds alone. -/
theorem filter_addMessages {kind : MessageKind} (texts : List String) :
    (error.addMessages (texts.map (⟨kind, ·⟩))).messages.filter (·.kind ≠ kind) =
      error.messages.filter (·.kind ≠ kind) := by
  induction texts generalizing error with
  | nil => rfl
  | cons text texts ih => rw [List.map_cons, addMessages_cons, ih, filter_addMessage]

/-- Replacing the messages of a kind leaves those of other kinds alone. -/
theorem filter_setMessage {kind : MessageKind} (text : String) :
    (error.setMessage ⟨kind, text⟩).messages.filter (·.kind ≠ kind) =
      error.messages.filter (·.kind ≠ kind) := by
  simp [setMessage]

/-- The message that replaces those of its kind is the only one of that kind. -/
theorem textsOf_setMessage {kind : MessageKind} (text : String) :
    textsOf kind (error.setMessage ⟨kind, text⟩).messages = [text] := by
  simp [setMessage, textsOf]

/-- The labels that an error expects are those that were set last, or the hidden one. -/
theorem firstOccurrences_setExpected (error : ParseError) (labels : List String) :
    FirstOccurrences (if labels = [] then [""] else labels)
      (textsOf .expected (error.setExpected labels).messages) := by
  have alone (label : String) : FirstOccurrences [label]
      (textsOf .expected (error.setMessage ⟨.expected, label⟩).messages) := by
    rw [textsOf_setMessage]
    exact FirstOccurrences.nil.snoc_of_not_mem List.not_mem_nil
  cases labels with
  | nil => exact alone ""
  | cons label labels => exact firstOccurrences_addMessages (alone label) labels

/-- Setting the labels leaves everything else that an error says as it was. -/
theorem filter_setExpected (error : ParseError) (labels : List String) :
    (error.setExpected labels).messages.filter (·.kind ≠ .expected) =
      error.messages.filter (·.kind ≠ .expected) := by
  cases labels with
  | nil => exact filter_setMessage ""
  | cons label labels => exact (filter_addMessages labels).trans (filter_setMessage label)

end ParseError

end Predictive
