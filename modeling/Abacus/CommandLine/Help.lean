import Abacus.CommandLine.Switch
import Abacus.Settings
import Abacus.Template.Expansion
import Abacus.Text.Fill

/-!
# Help

The usage of the command line and the description of its arguments (specification §14). What the
settings determine is filled into a column of 54 characters; all else has its fixed place. The
settings show in two places: as the configured notation, and as the host and the port to serve at.
-/

namespace Abacus.CommandLine

/-- How the command is used. -/
def usage : String :=
  "usage: arithmetic [-h] [--notation \x7binfix,postfix\x7d]\n"
    ++ "                  [--parse | --format \x7bjson,plain_text\x7d | --serve]\n"
    ++ "                  [expressions ...]\n"

/-- The column in which arguments are described. -/
def helpColumn : Nat := 24

/-- The width of the descriptions. -/
def helpWidth : Nat := 54

/-- The lines of a description below its argument. -/
def described (description : String) : String :=
  String.join ((Text.fill helpWidth description).map fun line =>
    String.ofList (List.replicate helpColumn ' ') ++ line ++ "\n")

/-- The head of an argument, which is continued by the first line of its description. -/
def describedBeside (head description : String) : String :=
  head ++ String.ofList ((described description).toList.drop head.length)

/-- The description of `--serve`, which is a template because of the host in it. -/
def serveTemplate (settings : Settings) : String :=
  "Run the HTTP API on " ++ settings.host ++ ":"
    ++ String.ofList (Number.integerChars settings.port) ++ "."

/-- What the description of `--serve` can refer to: the properties of the switch and the name of the
command. -/
def serveProperties (settings : Settings) : Json :=
  .object
    [("option_strings", .ofStrings [Switch.serve.long]), ("dest", .string "serve"),
     ("nargs", .int 0), ("const", .bool true), ("default", .bool false), ("type", .null),
     ("choices", .null), ("required", .bool false), ("help", .string (serveTemplate settings)),
     ("metavar", .null), ("prog", .string "arithmetic")]

/-- What the command does and what its arguments mean. -/
def help (settings : Settings) : Except TemplateError String := do
  let serve ← Template.expand (serveProperties settings) (serveTemplate settings)
  return usage
    ++ "\nCalculate arithmetic expressions written in infix (\"12-(4*3)\") or postfix (\"12\n"
    ++ "4 3 * -\") notation.\n"
    ++ "\npositional arguments:\n"
    ++ describedBeside "  expressions"
        "Expressions to calculate. Reads one per line from stdin when omitted."
    ++ "\noptions:\n"
    ++ describedBeside "  -h, --help" "show this help message and exit"
    ++ "  --notation \x7binfix,postfix\x7d\n"
    ++ described ("Notation of the expressions (default: " ++ settings.defaultName ++ ").")
    ++ describedBeside "  --parse" "Print the postfix token sequence instead of the result."
    ++ "  --format \x7bjson,plain_text\x7d\n"
    ++ described "Render results through an output formatter."
    ++ describedBeside "  --serve" serve

/-- What is printed about a wrong usage. -/
def usageMessage (e : UsageError) : String :=
  usage ++ "arithmetic: error: " ++ e.message ++ "\n"

end Abacus.CommandLine
