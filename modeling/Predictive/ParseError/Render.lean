import Predictive.ParseError.Basic

/-!
# Written errors

A written error has a line for the position, at most one line for what was unexpected,
at most one for what was expected, and a line for each generic message. A wording puts the
fixed phrases and the expected labels in the words of another language.
-/

namespace Predictive

/-- How each phrase is put in words. -/
abbrev Wording := String → String

namespace Wording

/-- The wording that leaves every phrase as it is. -/
def identity : Wording := id

/-- The wording given by a list of entries; a phrase without an entry stays as it is, and of
two entries for one phrase the later one counts. -/
def ofEntries (entries : List (String × String)) : Wording :=
  fun phrase => (entries.reverse.lookup phrase).getD phrase

@[simp] theorem ofEntries_nil (phrase : String) : ofEntries [] phrase = phrase := rfl

end Wording

/-- The texts that are not empty, each once, in the order of their first occurrence. -/
def distinctTexts (texts : List String) : List String :=
  texts.foldl (fun kept text => if text = "" || kept.contains text then kept else kept ++ [text]) []

/-- The texts with commas between them and the word before the last one. -/
def joinAlternatives (word : String) (texts : List String) : String :=
  match texts.reverse with
  | [] => ""
  | [only] => only
  | last :: others => ", ".intercalate others.reverse ++ " " ++ word ++ " " ++ last

namespace ParseError

/-- The texts of the messages of one kind. -/
def textsOf (kind : MessageKind) (messages : List Message) : List String :=
  (messages.filter (·.kind = kind)).map Message.text

/-- The text that the line on unexpected input names, if there is such a line: what a
grammar reported comes before what the engine found. -/
def unexpectedText (wording : Wording) (messages : List Message) : Option String :=
  match (textsOf .unexpected messages).find? (· ≠ "") with
  | some text => some text
  | none =>
      (textsOf .sysUnexpected messages).head?.map fun text =>
        if text = "" then wording "end of input" else text

/-- The lines for the messages. -/
def messageLines (wording : Wording) (messages : List Message) : List String :=
  if messages.isEmpty then [wording "unknown parse error"]
  else
    let unexpectedLine :=
      (unexpectedText wording messages).map fun text => wording "unexpected" ++ " " ++ text
    let labels := distinctTexts ((textsOf .expected messages).map wording)
    let expectedLine :=
      if labels.isEmpty then none
      else some (wording "expecting" ++ " " ++ joinAlternatives (wording "or") labels)
    unexpectedLine.toList ++ expectedLine.toList ++ distinctTexts (textsOf .generic messages)

/-- The written form of an error in a wording. -/
def renderIn (wording : Wording) (error : ParseError) : String :=
  "\n".intercalate ((error.position.render ++ ":") :: messageLines wording error.messages)

/-- The written form of an error. -/
def render (error : ParseError) : String :=
  error.renderIn Wording.identity

end ParseError
end Predictive
