import Predictive.Lexer.Language

/-!
# White space and comments

The parts of a source between its lexemes. Block comments are read with a counter for
their depth, so that the rounds of a single loop serve for any nesting.
-/

namespace Predictive

/-- What a step through the inside of a block comment found. -/
inductive CommentStep where
  /-- A comment inside the comment opened. -/
  | opened
  /-- The innermost open comment closed. -/
  | closed
  /-- Some text of the comment. -/
  | text
deriving DecidableEq

namespace CommentStep

/-- The depth after a step. -/
def depthAfter (depth : Nat) : CommentStep → Nat
  | opened => depth + 1
  | closed => depth - 1
  | text => depth

end CommentStep

namespace Language

variable {σ υ : Type}

/-- The rounds of a block comment, from a depth, a state and an error reached already. The
comment ends when its depth is zero. -/
def commentFrom (step : Parser σ υ CommentStep) :
    Nat → Nat → State σ υ → ParseError → Except Defect (Outcome σ υ Unit)
  | 0, _, _, _ => .error .unbounded
  | rounds + 1, depth, state, error =>
      match step.run state with
      | .error defect => .error defect
      | .ok ⟨true, .failed stepError⟩ => .ok ⟨true, .failed stepError⟩
      | .ok ⟨false, .failed stepError⟩ => .ok ⟨true, .failed (error.merge stepError)⟩
      | .ok ⟨_, .ok found next stepError⟩ =>
          if found.depthAfter depth = 0 then .ok ⟨true, .ok () next stepError⟩
          else commentFrom step rounds (found.depthAfter depth) next stepError

/-- A comment from where an opening parser leaves off, by steps through its inside. -/
def commentAfter {τ α : Type} [TokenStream σ τ]
    (opening : Parser σ υ α)
    (step : Parser σ υ CommentStep) :
    Parser σ υ Unit where
  run state :=
    match opening.run state with
    | .error defect => .error defect
    | .ok ⟨consumed, .failed error⟩ => .ok ⟨consumed, .failed error⟩
    | .ok ⟨_, .ok _ next error⟩ => commentFrom step state.patience 1 next error

variable [TokenStream σ Char]

/-- The distinct characters of the marks around a block comment. -/
def commentMarks (opening closing : String) : String :=
  String.ofList (closing ++ opening).toList.eraseDups

/-- A step through the inside of a block comment: a mark, a run of characters that occur in no
mark, or a single character of a mark. -/
def commentStep (opening closing : String) (nested : Bool) : Parser σ υ CommentStep :=
  let marks := commentMarks opening closing
  let closeStep := (Parser.string closing).attempt.map fun _ => CommentStep.closed
  let openStep := (Parser.string opening).attempt.map fun _ => CommentStep.opened
  let runStep := (Parser.noneOf marks).skipMany1.map fun _ => CommentStep.text
  let charStep := (Parser.oneOf marks).map fun _ => CommentStep.text
  let steps := if nested then [closeStep, openStep, runStep, charStep]
    else [closeStep, runStep, charStep]
  (Parser.choice steps).label "end of comment"

/-- A block comment between two marks, with comments inside it if they may be nested. -/
def blockComment (opening closing : String) (nested : Bool) : Parser σ υ Unit :=
  commentAfter (Parser.string opening).attempt (commentStep opening closing nested)

/-- A comment from a mark up to the end of the line. -/
def lineComment (mark : String) : Parser σ υ Unit :=
  (Parser.string mark).attempt.keepRight (Parser.satisfy fun c => c != '\n').skipMany

/-- A run of white space or a comment. -/
def blank (language : Language σ υ) : Parser σ υ Unit :=
  Parser.choice <|
    [(Parser.satisfy Unicode.isWhiteSpace).skipMany1] ++
      (if language.commentLine = "" then [] else [lineComment language.commentLine]) ++
      (if language.commentStart = "" then []
        else [blockComment language.commentStart language.commentEnd language.nestedComments])

/-- Skip white space and comments. -/
def whiteSpace (language : Language σ υ) : Parser σ υ Unit :=
  (language.blank.label "").skipMany

/-- Run a parser, then skip white space and comments. -/
def lexeme {α : Type} (language : Language σ υ) (parser : Parser σ υ α) : Parser σ υ α :=
  parser.keepLeft language.whiteSpace

/-- A fixed text as a lexeme. -/
def symbol (language : Language σ υ) (text : String) : Parser σ υ String :=
  language.lexeme (Parser.string text)

end Language
end Predictive
