import ClientGen.Console.Invocation

/-!
# The usage text

[usageText] is what somebody reads who asks for help: the commands, and every option of them by all
of its names.
-/

namespace ClientGen.Console

/-- What an option is for. -/
def optionHelp : List (String × String) := [
  ("--version", "Show the version."),
  ("--json", "Results as a JSON document."),
  ("--plain", "Results as plain lines."),
  ("--no-color", "No colours."),
  ("--quiet", "Only warnings and errors."),
  ("--verbose", "Every detail."),
  ("--help", "Show this text."),
  ("--input", "The API description: a file, a URL, or '-' for the standard input."),
  ("--output", "The output directory."),
  ("--backend", "The backend."),
  ("--option", "An option of the backend as key=value; may be repeated."),
  ("--config", "A JSON or YAML file with options of the backend."),
  ("--dry-run", "List the files without writing them.")]

/-- The line for an option. -/
def OptionSpec.line (o : OptionSpec) : String :=
  "  " ++ ", ".intercalate (o.name :: o.others) ++ "  " ++ (optionHelp.lookup o.name).getD ""

/-- The lines for some options under a heading. -/
def optionLines (heading : String) (specs : List OptionSpec) : List String :=
  "" :: heading :: specs.map OptionSpec.line

/-- How the program is used. -/
def usageText : String :=
  "\n".intercalate (
    ["Usage: clientforge [OPTIONS] COMMAND [ARGS]...", "",
      "Generate API client source code from an intermediate API description.", "", "Commands:",
      "  generate  Generate client sources for an API description.",
      "  backends  List the registered backends.",
      "  options   List the options a backend accepts."] ++
    optionLines "Options:" commonOptions ++
    optionLines "Options of generate:" generateOptions ++
    optionLines "Options of options:" [backendOption, helpOption])

/-- What is said about arguments that make no sense. -/
def Invocation.complaint? : Invocation → Option String
  | .misuse fault => some ("Error: " ++ fault.message)
  | _ => none

end ClientGen.Console
