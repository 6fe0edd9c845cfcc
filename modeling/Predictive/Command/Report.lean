import Predictive.Arithmetic.Syntax
import Predictive.Command.Invocation

/-!
# Reports

What a command prints, and the error it ends with, if it does. The files that a command
reads are given by a function, so that a report depends on nothing else.
-/

namespace Predictive

/-- The contents of files, or the reasons why they cannot be read. -/
abbrev Files := String → Except String String

/-- An error that ends a command, and what caused it. -/
structure Failure where
  message : String
  cause? : Option String := none
deriving DecidableEq

namespace Failure

/-- The text that reports the failure. -/
def render (failure : Failure) : String :=
  "Error: " ++ failure.message ++
    match failure.cause? with
    | none => ""
    | some cause => "\n\nCaused by:\n    " ++ cause

end Failure

/-- The lines that a command prints, and the failure that ends it. -/
structure Report where
  lines : List String
  failure? : Option Failure
deriving DecidableEq

namespace Report

/-- All that is printed, each line ended. -/
def output (report : Report) : String :=
  String.join (report.lines.map (· ++ "\n"))

/-- The report of a command that prints nothing and fails. -/
def ofFailure (failure : Failure) : Report :=
  ⟨[], some failure⟩

/-- The value of a parse, or its failure. -/
def ofParse {α : Type} (parsed : Except Defect (Except ParseError α)) : Except Failure α :=
  match parsed with
  | .error defect => .error ⟨defect.message, none⟩
  | .ok (.error error) => .error ⟨error.render, none⟩
  | .ok (.ok value) => .ok value

end Report

/-- A source with its name. -/
structure Source where
  name : String
  text : String
deriving DecidableEq

/-- The source in a file. -/
def Source.ofPath (files : Files) (path : String) : Except Failure Source :=
  match files path with
  | .ok text => .ok ⟨path, text⟩
  | .error reason => .error ⟨"could not read " ++ path, some reason⟩

namespace CalcSettings

/-- The expression to evaluate, given either as an option or in a file. -/
def source (files : Files) (settings : CalcSettings) : Except Failure Source :=
  match settings.expression?, settings.path? with
  | some text, none => .ok ⟨"<expr>", text⟩
  | none, some path => Source.ofPath files path
  | some _, some _ => .error ⟨"pass either --expr or FILE, not both", none⟩
  | none, none => .error ⟨"no expression given; pass --expr or FILE", none⟩

/-- The range of the integers to calculate with. -/
def range (settings : CalcSettings) : IntegerRange :=
  if settings.bigIntegers then .unbounded else .signed 64

/-- Print an expression in prefix notation and then its value. -/
def report (files : Files) (settings : CalcSettings) : Report :=
  let parsed := do
    let source ← settings.source files
    Report.ofParse (Expr.parse settings.range source.name source.text)
  match parsed with
  | .error failure => .ofFailure failure
  | .ok expr =>
      match expr.eval settings.range (settings.bindings?.getD []) with
      | .error error => ⟨[expr.render], some ⟨error.message, none⟩⟩
      | .ok value => ⟨[expr.render, decimalText value], none⟩

end CalcSettings

namespace Lexeme

/-- The line for a lexeme. -/
def line (position : Position) (lexeme : Lexeme) : String :=
  toString position.line ++ ":" ++ toString position.column ++ " " ++ lexeme.render

/-- Print the lexemes of a file, one a line. -/
def report (files : Files) (style : Style) (path : String) : Report :=
  let parsed := do
    let source ← Source.ofPath files path
    Report.ofParse ((all style.language).parse () source.name (Text.ofString source.text))
  match parsed with
  | .error failure => .ofFailure failure
  | .ok lexemes => ⟨lexemes.map fun (position, lexeme) => lexeme.line position, none⟩

end Lexeme

namespace Invocation

/-- The file that the command will read, if any. -/
def path? : Invocation → Option String
  | evaluate settings => if settings.expression?.isSome then none else settings.path?
  | listLexemes _ path => some path
  | showHelp _ => none

/-- Carry out a command. -/
def report (files : Files) : Invocation → Report
  | evaluate settings => settings.report files
  | listLexemes style path => Lexeme.report files style path
  | showHelp topic => ⟨topic.usage, none⟩

end Invocation
end Predictive
