import ClientGen.Backend.JaxrsCxf
import ClientGen.Console.Arguments
import ClientGen.Console.Reporter

/-!
# What is asked for

The arguments of a command line say what is to be done and how it is reported ([Invocation.of]).
There are three commands: one that generates a client, one that lists the backends, and one that
lists the options of a backend. Arguments that make no sense ask for the usage, and so does an empty
command line.
-/

namespace ClientGen.Console

/-! ## Options -/

/-- The option for help, which every command has. -/
def helpOption : OptionSpec := { name := "--help", takesValue := false }

/-- The options in front of a command. -/
def commonOptions : List OptionSpec := [
  { name := "--version", takesValue := false },
  { name := "--json", takesValue := false },
  { name := "--plain", takesValue := false },
  { name := "--no-color", takesValue := false },
  { name := "--quiet", others := ["-q"], takesValue := false },
  { name := "--verbose", others := ["-v"], takesValue := false },
  helpOption]

/-- The option for the backend. -/
def backendOption : OptionSpec := { name := "--backend", others := ["-b"] }

/-- The options of the command that generates a client. -/
def generateOptions : List OptionSpec := [
  { name := "--input", others := ["-i"] },
  { name := "--output", others := ["-o"] },
  backendOption,
  { name := "--option", others := ["-D"] },
  { name := "--config", others := ["-c"] },
  { name := "--dry-run", others := ["-n"], takesValue := false },
  helpOption]

/-! ## Requests -/

/-- How a run is reported, as it is asked for. -/
structure Verbosity where
  format : Option Format := none
  noColor : Bool := false
  quiet : Bool := false
  verbose : Bool := false
  deriving DecidableEq, Repr

/-- A client to be generated. -/
structure GenerateRequest where
  input : String
  output : Option String := none
  backend : String := JaxrsCxf.name
  pairs : List String := []
  config : Option String := none
  dryRun : Bool := false
  deriving DecidableEq, Repr

/-- A command. -/
inductive Command where
  | generate (request : GenerateRequest)
  | backends
  | options (backend : String)
  deriving DecidableEq, Repr

/-- What is asked for. -/
inductive Invocation where
  | run (verbosity : Verbosity) (command : Command)
  | version
  | help
  /-- Nothing is asked for. -/
  | nothing
  | misuse (fault : UsageFault)
  deriving DecidableEq, Repr

/-! ## Reading -/

/-- How a run is reported. A JSON document is preferred to plain lines. -/
def Verbosity.of (a : Arguments) : Verbosity where
  format :=
    if a.has "--json" then some .json else if a.has "--plain" then some .plain else none
  noColor := a.has "--no-color"
  quiet := a.has "--quiet"
  verbose := a.has "--verbose"

/-- The request for a client. -/
def GenerateRequest.of (a : Arguments) : Except UsageFault GenerateRequest :=
  match a.value? "--input" with
  | none => .error (.missingOption "--input")
  | some input => .ok {
      input := input
      output := a.value? "--output"
      backend := (a.value? "--backend").getD JaxrsCxf.name
      pairs := a.valuesOf "--option"
      config := a.value? "--config"
      dryRun := a.has "--dry-run" }

/-- A command that is asked for with some options, unless its help is. -/
def commandOf (v : Verbosity) (specs : List OptionSpec) (args : List String)
    (make : Arguments → Except UsageFault Command) : Invocation :=
  match parse specs true args with
  | .error fault => .misuse fault
  | .ok a =>
    if a.has "--help" then .help
    else match make a, a.positional with
      | .error fault, _ => .misuse fault
      | .ok _, extra :: _ => .misuse (.extraArgument extra)
      | .ok command, [] => .run v command

/-- What the options in front of a command ask for in the place of any command. -/
def Invocation.instead? (a : Arguments) : Option Invocation :=
  (a.firstOf? ["--version", "--help"]).map fun name =>
    if name = "--version" then .version else .help

/-- The command of a name with its arguments. What names no command may be an option behind two
dashes, and is read as one before it is refused. -/
def Invocation.ofCommand (v : Verbosity) (name : String) (args : List String) : Invocation :=
  if name = "generate" then
    commandOf v generateOptions args fun a => (GenerateRequest.of a).map .generate
  else if name = "backends" then commandOf v [helpOption] args fun _ => .ok .backends
  else if name = "options" then
    commandOf v [backendOption, helpOption] args fun a =>
      .ok (.options ((a.value? "--backend").getD JaxrsCxf.name))
  else match parse commonOptions false (name :: args) with
    | .error fault => .misuse fault
    | .ok a => (Invocation.instead? a).getD (.misuse (.unknownCommand name))

/-- What a command line asks for. The version and the help come before any command. -/
def Invocation.of (args : List String) : Invocation :=
  if args.isEmpty then .nothing
  else match parse commonOptions false args with
    | .error fault => .misuse fault
    | .ok a =>
      match Invocation.instead? a, a.positional with
      | some asked, _ => asked
      | none, [] => .misuse .missingCommand
      | none, name :: rest => .ofCommand (Verbosity.of a) name rest

end ClientGen.Console
