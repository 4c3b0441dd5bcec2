import ClientGen.Text.Pieces

/-!
# Command-line arguments

Arguments are options and positional ones ([parse]). An option is a switch, or takes a value: with a
long name the value follows an equals sign or is the next argument, with a short name it follows at
once or is the next argument. Short switches may be written together. Two dashes end the options,
and a single one is no option.
-/

namespace ClientGen.Console

/-- An option of a command. -/
structure OptionSpec where
  /-- The name by which it is known further on. -/
  name : String
  /-- The other names. -/
  others : List String := []
  takesValue : Bool := true

/-- Whether an option has a name. -/
def OptionSpec.isNamed (o : OptionSpec) (name : String) : Bool :=
  o.name == name || o.others.contains name

/-- What can be wrong with arguments. -/
inductive UsageFault where
  | unknownOption (name : String)
  | missingValue (name : String)
  | unexpectedValue (name : String)
  | missingOption (name : String)
  | extraArgument (text : String)
  | missingCommand
  | unknownCommand (name : String)
  deriving DecidableEq, Repr

/-- The words for a fault. -/
def UsageFault.message : UsageFault → String
  | unknownOption name => "No such option: " ++ name
  | missingValue name => "Option '" ++ name ++ "' requires an argument."
  | unexpectedValue name => "Option '" ++ name ++ "' does not take a value."
  | missingOption name => "Missing option '" ++ name ++ "'."
  | extraArgument text => "Got unexpected extra argument (" ++ text ++ ")"
  | missingCommand => "Missing command."
  | unknownCommand name => "No such command '" ++ name ++ "'."

/-- The arguments of a command. -/
structure Arguments where
  /-- The options with their values, in the order in which they are given. -/
  options : List (String × String) := []
  positional : List String := []
  deriving DecidableEq, Repr

namespace Arguments

/-- Whether an option is given. -/
def has (a : Arguments) (name : String) : Bool := a.options.any (·.1 == name)

/-- The values of an option. -/
def valuesOf (a : Arguments) (name : String) : List String :=
  (a.options.filter (·.1 == name)).map (·.2)

/-- The value of an option; the last one counts. -/
def value? (a : Arguments) (name : String) : Option String := (a.valuesOf name).getLast?

/-- The first of some options that is given. -/
def firstOf? (a : Arguments) (names : List String) : Option String :=
  (a.options.find? fun (name, _) => names.contains name).map (·.1)

/-- The arguments with options in front. -/
def withOptions (a : Arguments) (options : List (String × String)) : Arguments :=
  { a with options := options ++ a.options }

end Arguments

/-- What one argument gives: options, and the option whose value is the next argument. -/
abbrev Step := List (String × String) × Option String

/-- The options in short names that are written together. -/
def readShort (specs : List OptionSpec) : List Char → Except UsageFault Step
  | [] => .ok ([], none)
  | c :: rest =>
    let name := String.ofList ['-', c]
    match specs.find? (·.isNamed name) with
    | none => .error (.unknownOption name)
    | some o =>
      if o.takesValue then
        if rest.isEmpty then .ok ([], some o.name)
        else .ok ([(o.name, String.ofList rest)], none)
      else (readShort specs rest).map fun (given, next) => ((o.name, "") :: given, next)

/-- The option in a long name. -/
def readLong (specs : List OptionSpec) (arg : String) : Except UsageFault Step :=
  let (name, value) := Text.cutAt '=' arg
  match specs.find? (·.isNamed name), value with
  | none, _ => .error (.unknownOption name)
  | some o, some v =>
    if o.takesValue then .ok ([(o.name, v)], none) else .error (.unexpectedValue name)
  | some o, none => .ok (if o.takesValue then ([], some o.name) else ([(o.name, "")], none))

/-- The options in an argument that is one. -/
def readOption (specs : List OptionSpec) (arg : String) : Except UsageFault Step :=
  if Text.startsWith arg "--" then readLong specs arg else readShort specs (arg.toList.drop 1)

/-- Whether an argument is an option. -/
def isOption (arg : String) : Bool := Text.startsWith arg "-" && arg != "-"

/-- The arguments of a command, where `interspersed` says that options may follow positional ones;
otherwise the first positional argument ends the options. `next` is the option whose value comes
first. -/
def parseFrom (specs : List OptionSpec) (interspersed : Bool) :
    Option String → List String → Except UsageFault Arguments
  | none, [] => .ok {}
  | some name, [] => .error (.missingValue name)
  | some name, value :: rest =>
    (parseFrom specs interspersed none rest).map (·.withOptions [(name, value)])
  | none, arg :: rest =>
    if arg = "--" then .ok { positional := rest }
    else if isOption arg then
      match readOption specs arg with
      | .error fault => .error fault
      | .ok (given, next) => (parseFrom specs interspersed next rest).map (·.withOptions given)
    else if interspersed then
      (parseFrom specs interspersed none rest).map fun a =>
        { a with positional := arg :: a.positional }
    else .ok { positional := arg :: rest }

/-- The arguments of a command. -/
def parse (specs : List OptionSpec) (interspersed : Bool) (args : List String) :
    Except UsageFault Arguments :=
  parseFrom specs interspersed none args

end ClientGen.Console
