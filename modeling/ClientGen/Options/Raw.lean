import ClientGen.Files.Tree
import ClientGen.Json.Reader
import ClientGen.Options.Resolution
import ClientGen.Text.Utf8
import ClientGen.Yaml.Reader

/-!
# The sources of raw options

Options come from a file of the project, a file given on the command line, the environment and the
command line itself; a later source replaces what an earlier one gives under the same key
([collect]). Keys stay as they are spelled. Files are JSON documents if they are named so, and
otherwise YAML documents.
-/

namespace ClientGen

open Files

/-! ## Pairs and environment -/

/-- A pair without an equals sign or without a key. -/
structure MalformedPair where
  pair : String
  deriving DecidableEq, Repr

/-- The message for a malformed pair. -/
def MalformedPair.message (f : MalformedPair) : String :=
  "Invalid option '" ++ f.pair ++ "': expected key=value"

/-- The key and the value of a pair, without the blanks around them. -/
def parsePair (pair : String) : Except MalformedPair (String × String) :=
  match Text.cutAt '=' pair with
  | (key, some value) =>
    if Text.trim key = "" then .error ⟨pair⟩ else .ok (Text.trim key, Text.trim value)
  | (_, none) => .error ⟨pair⟩

/-- Pairs, of which the last one with a key decides its value. -/
def parsePairs (pairs : List String) : Except MalformedPair (List (String × String)) :=
  (pairs.mapM parsePair).map Assoc.ofList

/-- The environment variable for an option. -/
def environmentName (option : String) : String :=
  "CLIENTFORGE_OPT_" ++ Text.upper (Text.replaceAll "-" "_" option)

/-- The options that the environment sets. -/
def environmentOptions (options : List OptionDecl) (environment : List (String × String)) :
    List (String × String) :=
  Assoc.ofList (options.filterMap fun o =>
    (environment.lookup (environmentName o.name)).map fun v => (o.name, v))

/-- Texts as raw values. -/
def rawTexts (pairs : List (String × String)) : RawOptions :=
  pairs.map fun (key, v) => (.text key, .text v)

/-! ## Files -/

/-- What can be wrong with an options file. -/
inductive OptionsFileFault where
  | absent (path : Path)
  | unfindable (path : LongPath)
  | undecodable (fault : Text.Utf8Fault)
  | invalidJson (path : Path) (fault : Json.Fault)
  | invalidYaml (path : Path)
  /-- A part of the file has no value. -/
  | reading (fault : ReadingFault)
  /-- The file holds a document, but no mapping. -/
  | notMapping (path : Path) (kind : String)
  deriving Repr

/-- The message for a fault. -/
def OptionsFileFault.message : OptionsFileFault → Message
  | absent path => ⟨"Options file not found: " ++ path.text, .absent⟩
  | unfindable path => path.message
  | undecodable fault => ⟨fault.message, .absent⟩
  | invalidJson path fault =>
    ⟨"Invalid options file at " ++ path.text ++ ": " ++ fault.message, .absent⟩
  | invalidYaml path => ⟨"Invalid options file at " ++ path.text ++ ": ", .yaml⟩
  | reading fault => ⟨fault.words, .absent⟩
  | notMapping path kind =>
    ⟨"Options file at " ++ path.text ++ " must contain a mapping (got " ++ kind ++ ")", .absent⟩

/-- The text of a file, with every line break as a line feed. -/
def fileText (bytes : ByteArray) : Except Text.Utf8Fault String :=
  (Text.decode bytes).map fun s => String.ofList (Text.unifyLines s.toList)

/-- Whether a path names a JSON file. -/
def isJsonPath (p : Path) : Bool := Text.lower p.ending == ".json"

/-- The document in the text of an options file. -/
def parseOptionsText (order : Yaml.SetOrder) (path : Path) (text : String) :
    Except OptionsFileFault Value :=
  if isJsonPath path then (Json.read text).mapError fun fault =>
    (fault.reading?.map .reading).getD (.invalidJson path fault)
  else (Yaml.read order text).mapError fun
    | .malformed => .invalidYaml path
    | .reading fault => .reading fault

/-- The options of an options file. An absent document has none. -/
def loadOptionsFile (order : Yaml.SetOrder) (tree : FileTree) (start : Place) (path : Path) :
    Except OptionsFileFault RawOptions := do
  match ← (tree.findFile start path).mapError .unfindable with
  | none => throw (.absent path)
  | some bytes =>
    let text ← (fileText bytes).mapError .undecodable
    match ← parseOptionsText order path text with
    | .null => return []
    | .map entries => return entries
    | v => throw (.notMapping path v.kindName)

/-- The name of the project's own options file. -/
def projectFileName : String := "clientforge.json"

/-- The options of the project in a directory, if it has an options file. -/
def loadProjectOptions (order : Yaml.SetOrder) (tree : FileTree) (start : Place) :
    Except OptionsFileFault (Option RawOptions) :=
  match tree.file? (start ++ [projectFileName]) with
  | none => .ok none
  | some _ => (loadOptionsFile order tree start ⟨"/", start ++ [projectFileName]⟩).map some

/-! ## All sources -/

/-- What can be wrong with the sources of options. -/
inductive OptionsFault where
  | pair (fault : MalformedPair)
  | file (fault : OptionsFileFault)
  deriving Repr

/-- The message for a fault. -/
def OptionsFault.message : OptionsFault → Message
  | pair fault => ⟨fault.message, .absent⟩
  | file fault => fault.message

/-- The raw options of all sources. -/
def collect (order : Yaml.SetOrder) (options : List OptionDecl) (tree : FileTree) (start : Place)
    (environment : List (String × String)) (pairs : List String) (config : Option Path) :
    Except OptionsFault RawOptions := do
  let project ← (loadProjectOptions order tree start).mapError .file
  let given ← match config with
    | none => pure []
    | some path => (loadOptionsFile order tree start path).mapError .file
  let commandLine ← (parsePairs pairs).mapError .pair
  let raw := Assoc.update (Assoc.update [] (project.getD [])) given
  let raw := Assoc.update raw (rawTexts (environmentOptions options environment))
  return Assoc.update raw (rawTexts commandLine)

end ClientGen
