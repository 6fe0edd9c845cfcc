/-!
# Usage

What the commands say about themselves when they are asked for help.
-/

namespace Predictive

/-- What one may ask help about. -/
inductive HelpTopic where
  | program
  | evaluate
  | listLexemes
deriving DecidableEq

namespace HelpTopic

/-- The lines that explain the topic. -/
def usage : HelpTopic → List String
  | program =>
      ["Usage: predictive <command> [<args>]",
        "",
        "Commands:",
        "  calc              evaluate an arithmetic expression",
        "  lex               list the lexemes of a file"]
  | evaluate =>
      ["Usage: predictive calc [<file>] [-l <let>] [--bigint] [-e <expr>]",
        "",
        "Options:",
        "  -l, --let         bindings of variables, such as \x7b x: 2, y: -1 \x7d",
        "  --bigint          calculate with integers of any size",
        "  -e, --expr        the expression, in place of a file",
        "  --help            display usage information"]
  | listLexemes =>
      ["Usage: predictive lex <file> [--style <style>]",
        "",
        "Options:",
        "  --style           the language of the file, java or haskell",
        "  --help            display usage information"]

end HelpTopic
end Predictive
