import Predictive.Command.Arguments
import Predictive.Command.BindingList
import Predictive.Command.Lexeme
import Predictive.Command.Usage

/-!
# Invocations

What the command line asks for: to evaluate an expression, to list the lexemes of a file,
or to explain how to ask.
-/

namespace Predictive

/-- The settings of the command `calc`. -/
structure CalcSettings where
  bindings? : Option Bindings := none
  bigIntegers : Bool := false
  expression? : Option String := none
  path? : Option String := none
deriving DecidableEq

/-- The settings of the command `lex`, while they are read. -/
structure LexSettings where
  style? : Option Style := none
  path? : Option String := none
deriving DecidableEq

/-- A command with its settings. -/
inductive Invocation where
  | evaluate (settings : CalcSettings)
  | listLexemes (style : Style) (path : String)
  | showHelp (topic : HelpTopic)
deriving DecidableEq

namespace CalcSettings

/-- The options of the command `calc`. -/
def options : List (OptionRule CalcSettings) :=
  [⟨["--let", "-l"], .value fun settings text => do
      let bindings? ← Arguments.once settings.bindings? Bindings.ofText text
      return { settings with bindings? }⟩,
    ⟨["--bigint"], .switch fun settings => { settings with bigIntegers := true }⟩,
    ⟨["--expr", "-e"], .value fun settings text => do
      let expression? ← Arguments.once settings.expression? .ok text
      return { settings with expression? }⟩]

/-- Take an argument as the path of the expression. -/
def setPath (settings : CalcSettings) (path : String) : Option CalcSettings :=
  if settings.path?.isSome then none else some { settings with path? := some path }

end CalcSettings

namespace LexSettings

/-- The options of the command `lex`. -/
def options : List (OptionRule LexSettings) :=
  [⟨["--style"], .value fun settings text => do
      let style? ← Arguments.once settings.style? Style.ofName text
      return { settings with style? }⟩]

/-- Take an argument as the path of the source. -/
def setPath (settings : LexSettings) (path : String) : Option LexSettings :=
  if settings.path?.isSome then none else some { settings with path? := some path }

end LexSettings

namespace Invocation

/-- The names of the commands. -/
def commands : List String := ["calc", "lex"]

/-- The command `calc` with its arguments. -/
def ofCalcArguments (helpAsked : Bool) (arguments : List String) : Except String Invocation := do
  match ← Arguments.read CalcSettings.options CalcSettings.setPath helpAsked false {} arguments with
  | none => return showHelp .evaluate
  | some settings => return evaluate settings

/-- The command `lex` with its arguments. -/
def ofLexArguments (helpAsked : Bool) (arguments : List String) : Except String Invocation := do
  match ← Arguments.read LexSettings.options LexSettings.setPath helpAsked false {} arguments with
  | none => return showHelp .listLexemes
  | some settings =>
      match settings.path? with
      | none => .error (Arguments.missingPositionals ["file"])
      | some path => return listLexemes (settings.style?.getD .haskell) path

/-- The invocation that a command line stands for. Nothing but a request for help comes before
the command, which takes the request over. -/
def ofArguments (helpAsked optionsEnded : Bool) : List String → Except String Invocation
  | [] =>
      if helpAsked then .ok (showHelp .program) else .error (Arguments.missingCommand commands)
  | argument :: others =>
      if Arguments.isHelp argument && !optionsEnded then ofArguments true optionsEnded others
      else if argument = "--" && !optionsEnded then ofArguments helpAsked true others
      else if argument.startsWith "-" && !optionsEnded && helpAsked then
        .error Arguments.optionAfterHelp
      else if argument = "calc" then ofCalcArguments helpAsked others
      else if argument = "lex" then ofLexArguments helpAsked others
      else .error (Arguments.unrecognized argument)

end Invocation
end Predictive
