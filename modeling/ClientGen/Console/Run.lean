import ClientGen.Backend.Registry
import ClientGen.Console.Invocation
import ClientGen.Failure.Basic

/-!
# Running a command

A run sees a [World]: files, the environment, the standard input, what comes back over HTTP, and the
backends of other packages. It comes to an [Outcome]: what it says, the files as it leaves them, and
a code ([run]). Files are written only after every template was rendered. A line that the console
refuses ends what is done where the line is said, and is reported like any other failure; if the
console refuses this report too, the program ends with it ([ended]).
-/

namespace ClientGen.Console

open Files

/-- What a run sees. -/
structure World where
  tree : FileTree
  /-- The directory it is run in. -/
  start : Place
  environment : List (String × String) := []
  input : String := ""
  /-- Whether somebody watches. -/
  watched : Bool := false
  fetch : String → Api.Fetched
  /-- The order in which the members of a set come out. -/
  setOrder : Yaml.SetOrder := .byText
  /-- How backends of other packages announce themselves. -/
  entryPoints : List EntryPoint := []
  /-- What is wrong with a line for the console, if it refuses the markup in it. -/
  refuses : Line → Option String := fun _ => none

/-- What comes of a run. -/
structure Outcome where
  code : Nat
  lines : List Line := []
  tree : FileTree

/-- The name and the version of the program. -/
def versionText : String := "clientforge 0.1.0"

namespace World

/-- The reporter for a run. -/
def reporter (w : World) (v : Verbosity) : Reporter :=
  Reporter.of v.format v.noColor v.quiet v.verbose w.watched w.environment

/-- The backends that a run knows. -/
def registry (w : World) : Registry := (Registry.builtIn.discover w.entryPoints).1

/-! ## Saying lines -/

/-- What is wrong with a line, if the console refuses it. All other lines are said as they are. -/
def refusal? (w : World) (l : Line) : Option String := if l.isLaidOut then w.refuses l else none

/-- The lines up to the first that is refused, and what is wrong with that one. -/
def said (w : World) : List Line → List Line × Option String
  | [] => ([], none)
  | l :: rest =>
    match w.refusal? l with
    | some words => ([], some words)
    | none =>
      let (lines, refused) := w.said rest
      (l :: lines, refused)

/-- A part of a run, as far as its lines are said: it ends where one of them is refused. -/
def upTo {α : Type} (w : World) (part : List Line × Except Failure α) :
    List Line × Except Failure α :=
  match w.said part.1 with
  | (lines, some words) => (lines, .error (.markup words))
  | (lines, none) => (lines, part.2)

end World

/-! ## Ends -/

/-- A run that ends with a failure. If its report is refused, nothing handles that. -/
def ended (w : World) (r : Reporter) (lines : List Line) (tree : FileTree) (f : Failure) :
    Outcome :=
  match (w.said (r.error f.report)).2 with
  | some words => ⟨FailureKind.general.exitCode, lines ++ [.crash words], tree⟩
  | none => ⟨f.exitCode, lines ++ r.error f.report ++ r.log f.records, tree⟩

/-- A run whose command fails. A failure that can be expected is reported by the command; if this
report is refused, that is a failure of its own. -/
def failed (w : World) (r : Reporter) (lines : List Line) (tree : FileTree) (f : Failure) :
    Outcome :=
  match f.kind?, (w.said (r.error f.message)).2 with
  | some _, some words => ended w r lines tree (.markup words)
  | _, _ => ended w r lines tree f

/-- A run that comes to its end, where the last lines are said. -/
def finished (w : World) (r : Reporter) (lines : List Line) (tree : FileTree)
    (last : List Line) : Outcome :=
  match w.said last with
  | (told, some words) => ended w r (lines ++ told) tree (.markup words)
  | (told, none) => ⟨successCode, lines ++ told, tree⟩

/-- What is said about a description that was loaded. -/
def loadedText (d : Api.Description) : String :=
  "Loaded '" ++ d.title ++ "': " ++ toString d.operations.length ++ " operation(s), " ++
    toString d.schemas.length ++ " schema(s)"

/-- What is said when the backends are registered. -/
def registryLines (w : World) (r : Reporter) : List Line :=
  r.log (Registry.startRecords w.entryPoints)

/-! ## Generating -/

/-- A run up to its files: what it has to say, and the files with the directory for them. -/
def planned (w : World) (r : Reporter) (q : GenerateRequest) :
    List Line × Except Failure (Generation × Path) :=
  let lines := registryLines w r
  match w.registry.get q.backend with
  | .error fault => (lines, .error (.backend fault))
  | .ok b =>
    match Api.load w.setOrder w.tree w.start w.input w.fetch q.input with
    | .error fault => (lines, .error (.description fault))
    | .ok d =>
      let lines := lines ++ r.debug (loadedText d)
      match collect w.setOrder b.options w.tree w.start w.environment q.pairs
          (q.config.map Path.ofText) with
      | .error fault => (lines, .error (.options fault))
      | .ok raw =>
        let lines := lines ++ r.progress ("Rendering with backend '" ++ b.name ++ "'...") ++
          r.log (generationRecords d b raw)
        match generate d b raw with
        | .error fault => (lines, .error (.generation fault))
        | .ok g => (lines ++ g.warnings.flatMap r.warning,
            .ok (g, Path.ofText (q.output.getD b.outputFolder)))

/-- The summary of a run that has written its files. -/
def summaryOf (g : Generation) (written : WriteRun) : Reporter.Summary :=
  ⟨g.backend, written.written, written.skipped, g.warnings⟩

/-- A run that generates a client. -/
def runGenerate (w : World) (r : Reporter) (q : GenerateRequest) : Outcome :=
  match w.upTo (planned w r q) with
  | (lines, .error f) => failed w r lines w.tree f
  | (lines, .ok (g, target)) =>
    if q.dryRun then finished w r lines w.tree (r.filePlan g.files target)
    else
      let written := writeFiles (target.settle w.start) g.files w.tree
      let lines := lines ++ r.log (written.decisions.map (·.logRecord))
      match written.fault with
      | some fault => failed w r lines written.tree (.writing fault)
      | none => finished w r lines written.tree (r.runSummary (summaryOf g written) target)

/-! ## Listing -/

/-- The row for a backend. -/
def backendRow (b : Backend) : List String := [b.name, b.kind.name, b.help]

/-- A run that lists the backends. Its command does not report a failure itself. -/
def runBackends (w : World) (r : Reporter) : Outcome :=
  match w.registry.all with
  | .error fault => ended w r (registryLines w r) w.tree (.backend fault)
  | .ok backends => finished w r (registryLines w r) w.tree
      (r.table "Backends" ["Name", "Type", "Help"] (backends.map backendRow))

/-- The text of a default in a table. -/
def defaultText : Value → String
  | .null => ""
  | .bool b => if b then "true" else "false"
  | v => v.asText

/-- The row for an option. -/
def optionRow (o : OptionDecl) : List String :=
  [o.name, o.kind.name, defaultText o.default, ", ".intercalate (o.choices.map (·.1)),
    o.description]

/-- The rows for options, if all defaults have texts. -/
def optionRows (options : List OptionDecl) : Except TextFault (List (List String)) :=
  match options.findSome? (·.default.textFault?) with
  | some fault => .error fault
  | none => .ok (options.map optionRow)

/-- A run that lists the options of a backend. -/
def runOptions (w : World) (r : Reporter) (backend : String) : Outcome :=
  match w.registry.get backend with
  | .error fault => failed w r (registryLines w r) w.tree (.backend fault)
  | .ok b =>
    match optionRows b.options with
    | .error fault => failed w r (registryLines w r) w.tree (.text fault)
    | .ok rows => finished w r (registryLines w r) w.tree
        (r.table ("Options for " ++ b.name) ["Name", "Type", "Default", "Choices", "Description"]
          rows)

/-! ## Command lines -/

/-- A run of a command. -/
def runCommand (w : World) (v : Verbosity) (command : Command) : Outcome :=
  match command with
  | .generate q => runGenerate w (w.reporter v) q
  | .backends => runBackends w (w.reporter v)
  | .options backend => runOptions w (w.reporter v) backend

/-- A run that was asked for. -/
def runInvocation (w : World) : Invocation → Outcome
  | .run v command => runCommand w v command
  | .version => ⟨successCode, [.result versionText], w.tree⟩
  | .help => ⟨successCode, [.usage .result], w.tree⟩
  | .nothing => ⟨FailureKind.usage.exitCode, [.usage .result], w.tree⟩
  | .misuse _ => ⟨FailureKind.usage.exitCode, [.usage .diagnostic], w.tree⟩

/-- A run of a command line. -/
def run (w : World) (args : List String) : Outcome := runInvocation w (.of args)

end ClientGen.Console
