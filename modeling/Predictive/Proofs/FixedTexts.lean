import Predictive.Proofs.CharacterReading
import Predictive.Proofs.Failing

/-!
# Fixed texts, character by character

A fixed text is compared with the input in one go: the tag comes from the place where the
comparison stops, and the position moves over the whole text at once. The same characters may be
accepted one after the other, each by a parser of its own. Both ways agree in everything but the
error, and the error of the fixed text stands where the text would have begun.
-/

namespace Predictive

/-- One list is at the front of another, or they part at a first place. -/
theorem append_or_mismatch {τ : Type} [DecidableEq τ] (wanted input : List τ) :
    (∃ rest, input = wanted ++ rest) ∨
      ∃ matched token others rest, wanted = matched ++ token :: others ∧
        input = matched ++ rest ∧ token ∉ rest.head? := by
  induction wanted generalizing input with
  | nil => exact .inl ⟨input, rfl⟩
  | cons token wanted ih =>
      by_cases absent : token ∈ input.head?
      · obtain ⟨input, rfl⟩ : ∃ others, input = token :: others :=
          ⟨input.tail, List.eq_cons_of_mem_head? absent⟩
        rcases ih input with ⟨rest, rfl⟩ | ⟨matched, other, others, rest, rfl, rfl, parted⟩
        · exact .inl ⟨rest, rfl⟩
        · exact .inr ⟨token :: matched, other, others, rest, rfl, rfl, parted⟩
      · exact .inr ⟨[], token, wanted, input, rfl, rfl, absent⟩

namespace Parser

variable {σ υ : Type} [TokenStream σ Char]

/-- Accept some characters one after the other, each with its own parser. -/
def eachChar : List Char → Parser σ υ (List Char)
  | [] => Parser.pure []
  | c :: chars => (char c).zipWith (eachChar chars) List.cons

theorem char_yields
    {state : State σ υ}
    {c : Char}
    {rest : σ}
    (taken : TokenStream.uncons? state.input = some (c, rest)) :
    ∃ error, (char c).Yields state true c ⟨rest, state.position.afterChar c, state.user⟩ error := by
  refine ⟨.unknown (state.position.afterChar c), ?_⟩
  simp [Yields, char, label, labels, satisfy, token, taken, Except.map]

/-- Where dropping the characters succeeds, so do their parsers. -/
theorem eachChar_yields
    {chars : List Char}
    {started : Bool}
    {state : State σ υ}
    {rest : σ}
    (dropped : dropTokens started state.input chars = .ok rest) :
    ∃ error, (eachChar chars).Yields state (!chars.isEmpty) chars
      ⟨rest, state.position.afterChars chars, state.user⟩ error := by
  induction chars generalizing started state with
  | nil =>
      obtain rfl := Except.ok.inj dropped
      exact ⟨_, rfl⟩
  | cons c chars ih =>
      obtain ⟨after, taken, droppedAfter⟩ := dropTokens_cons_eq_ok_iff.mp dropped
      obtain ⟨earlier, ran⟩ := char_yields taken
      let next : State σ υ := ⟨after, state.position.afterChar c, state.user⟩
      have droppedNext : dropTokens true next.input chars = .ok rest := droppedAfter
      obtain ⟨error, ranOthers⟩ := ih droppedNext
      exact ⟨_, zipWith_yields_iff.mpr
        ⟨_, c, _, earlier, _, chars, error, ran, ranOthers, rfl, rfl, rfl⟩⟩

variable [LawfulTokenStream σ]

/-- The parsers of the characters fail where one of them does not come. -/
theorem eachChar_fails
    {matched rest : List Char}
    {wanted : Char}
    (absent : wanted ∉ rest.head?)
    (others : List Char)
    {state : State σ υ}
    (viewed : View.tokens state (matched ++ rest)) :
    ∃ error, (eachChar (matched ++ wanted :: others)).Fails state (!matched.isEmpty) error := by
  induction matched generalizing state with
  | nil =>
      obtain ⟨error, failed⟩ := char_refuses absent viewed
      exact ⟨error, failed.zipWith _ _⟩
  | cons c matched ih =>
      obtain ⟨middle, earlier, ran, viewedMiddle⟩ := char_reads c (matched ++ rest) viewed
      obtain ⟨error, failed⟩ := ih viewedMiddle
      exact ⟨_, ran.zipWith_fails failed _⟩

/-- A text that does not come is an error at the place where it should have begun. -/
theorem string_fails
    {text : String}
    {matched others rest : List Char}
    {wanted : Char}
    (parts : text.toList = matched ++ wanted :: others)
    (absent : wanted ∉ rest.head?)
    {state : State σ υ}
    (viewed : View.tokens state (matched ++ rest)) :
    (string text).Fails state (!matched.isEmpty)
      ⟨state.position, [⟨.sysUnexpected, (rest.head?.map Quoted.letter).getD ""⟩,
        ⟨.expected, Quoted.string text⟩]⟩ := by
  have dropped : dropTokens false state.input text.toList =
      .error (!matched.isEmpty, rest.head?) := by
    rw [parts, dropTokens_of_mismatch viewed absent others, Bool.false_or]
  rw [Fails, string, run_map, tokens, run_mk, dropped]
  rfl

/-- A fixed text and the sequence of its characters agree on every state. Either the text comes, and
both succeed in the same state behind it; or both stop at the first place where it does not come,
with the same tag. The error of the fixed text stands at the start, and names what came there in
place of a character of the text, and the text. -/
theorem string_agrees_with_eachChar (text : String) (state : State σ υ) :
    (∃ rest, TokenStream.toList state.input = text.toList ++ TokenStream.toList rest ∧
      (∃ error, (string text).Yields state (!text.toList.isEmpty) text
        ⟨rest, state.position.afterString text, state.user⟩ error) ∧
      ∃ error, (eachChar text.toList).Yields state (!text.toList.isEmpty) text.toList
        ⟨rest, state.position.afterString text, state.user⟩ error) ∨
    ∃ matched wanted others rest, text.toList = matched ++ wanted :: others ∧
      TokenStream.toList state.input = matched ++ rest ∧ rest.head? ≠ some wanted ∧
      (string text).Fails state (!matched.isEmpty)
        ⟨state.position, [⟨.sysUnexpected, (rest.head?.map Quoted.letter).getD ""⟩,
          ⟨.expected, Quoted.string text⟩]⟩ ∧
      ∃ error, (eachChar text.toList).Fails state (!matched.isEmpty) error := by
  rcases append_or_mismatch text.toList (TokenStream.toList state.input) with
    ⟨rest, comes⟩ | ⟨matched, wanted, others, rest, parts, comes, absent⟩
  · obtain ⟨left, dropped, viewLeft⟩ : ∃ left,
        dropTokens false state.input text.toList = .ok left ∧ TokenStream.toList left = rest :=
      dropTokens_of_toList comes
    refine .inl ⟨left, ?_, ⟨_, string_yields dropped⟩, eachChar_yields dropped⟩
    rw [comes, viewLeft]
  · refine .inr ⟨matched, wanted, others, rest, parts, comes, absent, ?_, ?_⟩
    · exact string_fails parts absent comes
    · rw [parts]
      exact eachChar_fails absent others comes

/-- In the middle of a text of two lines, a tab comes in place of its last character. -/
theorem string_agrees_with_eachChar_tab :
    let state : State Text Unit := ⟨Text.ofString "le\n\t", .clamped "" 3 8, ()⟩
    (string "le\nt").Fails state true
        ⟨.clamped "" 3 8, [⟨.sysUnexpected, "\"\\t\""⟩, ⟨.expected, "\"le\\nt\""⟩]⟩ ∧
      ∃ error, (eachChar "le\nt".toList).Fails state true error := by
  intro state
  have input : TokenStream.toList state.input = ['l', 'e', '\n', '\t'] := Text.toList_ofString _
  have wantedText : "le\nt".toList = ['l', 'e', '\n', 't'] := rfl
  rcases string_agrees_with_eachChar "le\nt" state with
    ⟨rest, comes, -⟩ | ⟨matched, wanted, others, rest, parts, comes, absent, failed, othersFailed⟩
  · rw [input, wantedText] at comes
    simp at comes
  · rw [wantedText] at parts
    rw [input] at comes
    obtain ⟨rfl, rfl⟩ : matched = ['l', 'e', '\n'] ∧ rest = ['\t'] := by
      rcases matched with _ | ⟨a, _ | ⟨b, _ | ⟨c, _ | ⟨d, matched⟩⟩⟩⟩ <;> grind
    exact ⟨failed, othersFailed⟩

end Parser
end Predictive
