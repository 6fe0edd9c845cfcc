/-!
# Command-line arguments

Arguments are read from left to right. One that starts with a dash is an option, up to an
argument of two dashes, which ends the options; any other is the name of a file. Options
either switch something on or take the next argument as their value. Help may be asked for
anywhere before the options end; no option may follow, and nothing else is done then.
-/

namespace Predictive

/-- What an option does to some settings. -/
inductive OptionAction (ω : Type) where
  /-- Change the settings. -/
  | switch (set : ω → ω)
  /-- Change the settings by the value of the option, or say what is wrong with the value. -/
  | value (set : ω → String → Except String ω)

/-- An option with its spellings. -/
structure OptionRule (ω : Type) where
  spellings : List String
  action : OptionAction ω

namespace Arguments

variable {ω : Type}

/-- The complaint about an argument that has no place. -/
def unrecognized (argument : String) : String :=
  "Unrecognized argument: " ++ argument ++ "\n"

/-- The complaint about an option without a value. -/
def missingValue (option : String) : String :=
  "No value provided for option '" ++ option ++ "'.\n"

/-- The complaint about the value of an option. -/
def badValue (option value reason : String) : String :=
  "Error parsing option '" ++ option ++ "' with value '" ++ value ++ "': " ++ reason ++ "\n"

/-- The complaint about missing arguments that are not options. -/
def missingPositionals (names : List String) : String :=
  "Required positional arguments not provided:" ++
    String.join (names.map fun name => "\n    " ++ name) ++ "\n"

/-- The complaint about a missing subcommand. -/
def missingCommand (names : List String) : String :=
  "One of the following subcommands must be present:" ++
    String.join (("help" :: names).map fun name => "\n    " ++ name) ++ "\n"

/-- The complaint about an option after a request for help. -/
def optionAfterHelp : String :=
  "Trailing arguments are not allowed after \x60help\x60."

/-- Whether an argument asks for help. -/
def isHelp (argument : String) : Bool :=
  argument = "--help" || argument = "help"

/-- The value of a setting that may be given once only, read from a text. -/
def once
    {α : Type}
    (current? : Option α)
    (ofText : String → Except String α)
    (text : String) :
    Except String (Option α) :=
  match current? with
  | none => (ofText text).map some
  | some _ => .error "duplicate values provided"

/-- The settings that some arguments make, starting from the given ones, or none if they ask
for help. `file` takes the arguments that are not options. -/
def read
    (rules : List (OptionRule ω))
    (file : ω → String → Option ω) :
    (helpAsked optionsEnded : Bool) → ω → List String → Except String (Option ω)
  | helpAsked, _, settings, [] => .ok (if helpAsked then none else some settings)
  | helpAsked, ended, settings, argument :: others =>
      if isHelp argument && !ended then read rules file true ended settings others
      else if argument.startsWith "-" && !ended then
        if argument = "--" then read rules file helpAsked true settings others
        else if helpAsked then .error optionAfterHelp
        else
          match rules.find? (·.spellings.contains argument) with
          | none => .error (unrecognized argument)
          | some ⟨_, .switch set⟩ => read rules file helpAsked ended (set settings) others
          | some ⟨_, .value set⟩ =>
              match others with
              | [] => .error (missingValue argument)
              | value :: rest =>
                  match set settings value with
                  | .error reason => .error (badValue argument value reason)
                  | .ok settings => read rules file helpAsked ended settings rest
      else
        match file settings argument with
        | none => .error (unrecognized argument)
        | some settings => read rules file helpAsked ended settings others

@[simp] theorem read_nil
    (rules : List (OptionRule ω))
    (file : ω → String → Option ω)
    (ended : Bool)
    (settings : ω) :
    read rules file false ended settings [] = .ok (some settings) := by
  simp [read]

end Arguments
end Predictive
