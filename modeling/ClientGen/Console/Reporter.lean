import ClientGen.Failure.Message
import ClientGen.Files.Writer
import ClientGen.Json.Writer
import ClientGen.Log

/-!
# Reporting

What a run says goes to two streams: results to the one that scripts read, and diagnostics to the
other ([Line]). A [Reporter] says it in a format, and leaves out what is not asked for:
informational diagnostics if it is quiet, and details unless it is verbose. Results do not depend on
either. Where colours are allowed a diagnostic is handed to a console that reads it as markup, with
the style and the label that it is to have ([Look]); what the console makes of it is not told here.
-/

namespace ClientGen.Console

open Files

/-! ## Lines -/

/-- Where a line goes. -/
inductive Stream where
  | result
  | diagnostic
  deriving DecidableEq, Repr

/-- How a diagnostic is to look. -/
structure Look where
  /-- The style, which only colours show. -/
  style : Option String := none
  /-- What stands in front of the message. -/
  label : String := ""
  deriving DecidableEq, Repr

namespace Look

/-- Information. -/
def plain : Look := {}

/-- That something went well. -/
def success : Look := { style := some "green" }

/-- A warning. -/
def warning : Look := { style := some "yellow", label := "Warning: " }

/-- An error. -/
def error : Look := { style := some "bold red", label := "Error: " }

/-- A detail. -/
def detail : Look := { style := some "dim", label := "[debug] " }

/-- What is going on. -/
def progress : Look := { style := some "dim" }

/-- A message with the label in front of it. -/
def labelled (l : Look) (m : Message) : Message := { m with headline := l.label ++ m.headline }

/-- What a console shows in front of a message. It takes a word in brackets for the name of a style,
and only the space behind it is left. -/
def shownLabel (l : Look) : String := if l = detail then " " else l.label

end Look

/-- What is said. -/
inductive Line where
  | result (text : String)
  /-- A table that the console draws. -/
  | table (title : String) (rows : List (List String))
  | diagnostic (message : Message)
  /-- A diagnostic that the console reads as markup. -/
  | styled (look : Look) (message : Message)
  /-- How the command is used. -/
  | usage (stream : Stream)
  /-- What is said of a fault that ends the program itself. -/
  | crash (words : String)
  deriving Repr

namespace Line

/-- Where a line goes. -/
def stream : Line → Stream
  | result _ => .result
  | table .. => .result
  | diagnostic _ => .diagnostic
  | styled .. => .diagnostic
  | usage s => s
  | crash _ => .diagnostic

/-- Whether a line is left to the console, which may refuse it. -/
def isLaidOut : Line → Bool
  | table .. => true
  | styled .. => true
  | _ => false

end Line

/-! ## Reporters -/

/-- How results are said. -/
inductive Format where
  | json
  | plain
  /-- Tables for people who watch. -/
  | rich
  deriving DecidableEq, Repr

/-- Every format. -/
def Format.all : List Format := [.json, .plain, .rich]

/-- The name of a format. -/
def Format.name : Format → String
  | json => "json"
  | plain => "plain"
  | rich => "rich"

/-- How a run says things. -/
structure Reporter where
  format : Format := .plain
  /-- Whether diagnostics may be coloured. -/
  colored : Bool := true
  quiet : Bool := false
  verbose : Bool := false
  /-- Whether somebody watches. -/
  watched : Bool := false
  deriving DecidableEq, Repr

/-- Whether the environment forbids colours. -/
def forbidsColors (environment : List (String × String)) : Bool :=
  (environment.lookup "NO_COLOR").isSome || environment.lookup "TERM" == some "dumb"

namespace Reporter

/-- The reporter that is asked for. Without a format it is chosen by whether somebody watches and
colours are allowed. -/
def of (format : Option Format) (noColor quiet verbose watched : Bool)
    (environment : List (String × String)) : Reporter :=
  let colored := !noColor && !forbidsColors environment
  { format := format.getD (if watched && colored then .rich else .plain)
    colored := colored
    quiet := quiet
    verbose := verbose
    watched := watched }

/-! ## Diagnostics -/

/-- A diagnostic of a look. -/
def say (r : Reporter) (look : Look) (m : Message) : Line :=
  if r.colored then .styled look m else .diagnostic (look.labelled m)

/-- Information. -/
def info (r : Reporter) (text : String) : List Line :=
  if r.quiet then [] else [r.say .plain ⟨text, .absent⟩]

/-- That something went well. -/
def success (r : Reporter) (text : String) : List Line :=
  if r.quiet then [] else [r.say .success ⟨text, .absent⟩]

/-- A warning. -/
def warning (r : Reporter) (text : String) : List Line := [r.say .warning ⟨text, .absent⟩]

/-- An error. -/
def error (r : Reporter) (m : Message) : List Line := [r.say .error m]

/-- A detail. -/
def debug (r : Reporter) (text : String) : List Line :=
  if r.verbose then [r.say .detail ⟨text, .absent⟩] else []

/-- What is going on, for somebody who watches. -/
def progress (r : Reporter) (text : String) : List Line :=
  if r.watched && !r.quiet then [r.say .progress ⟨text, .absent⟩] else []

/-- The least level of the records that are shown. -/
def leastLevel (r : Reporter) : Log.Level :=
  if r.verbose then .debug else if r.quiet then .error else .warning

/-- Records of a run. -/
def log (r : Reporter) (records : List Log.Record) : List Line :=
  (Log.atLeast r.leastLevel records).map fun record => .diagnostic ⟨record.line, .absent⟩

/-! ## Results -/

/-- A line of a result. -/
def emit (_ : Reporter) (text : String) : List Line := [.result text]

/-- A document. -/
def emitJson (r : Reporter) (document : Value) : List Line := r.emit (Json.write document)

/-- Texts as a document. -/
def textList (texts : List String) : Value := .list (texts.map .text)

/-- A mapping as a document. -/
def textMap (entries : List (String × Value)) : Value :=
  .map (entries.map fun (key, v) => (.text key, v))

/-- A row of a table as a mapping. -/
def rowMap (headers row : List String) : Value :=
  textMap (Assoc.ofList ((headers.zip row).map fun (header, cell) => (header, .text cell)))

/-- A table: a list of mappings, lines of cells with tabs between them, or a drawing. -/
def table (r : Reporter) (title : String) (headers : List String) (rows : List (List String)) :
    List Line :=
  match r.format with
  | .json => r.emitJson (.list (rows.map (rowMap headers)))
  | .plain => (headers :: rows).flatMap fun cells => r.emit ("\t".intercalate cells)
  | .rich => [.table title (headers :: rows)]

/-- Paths, one in a line. -/
def paths (r : Reporter) (paths : List String) : List Line := paths.flatMap r.emit

/-- A file in a plan. -/
def planned (f : GeneratedFile) : Value :=
  textMap [("path", .text f.path), ("overwrite", .bool f.overwrite)]

/-- The files that a run would write. -/
def filePlan (r : Reporter) (files : List GeneratedFile) (target : Path) : List Line :=
  (match r.format with
    | .json => r.emitJson (.list (files.map planned))
    | _ => r.paths (files.map (·.path))) ++
  r.info ("Dry run: " ++ toString files.length ++ " file(s) would be written to " ++ target.text)

/-- A run that is finished. -/
structure Summary where
  backend : String
  written : List String
  skipped : List String
  warnings : List String
  deriving DecidableEq, Repr

/-- The summary of a run as a document. -/
def summaryDocument (s : Summary) (target : Path) : Value :=
  textMap [("backend", .text s.backend), ("output", .text target.text),
    ("written", textList s.written), ("skipped", textList s.skipped),
    ("warnings", textList s.warnings)]

/-- What a run has done. -/
def runSummary (r : Reporter) (s : Summary) (target : Path) : List Line :=
  (match r.format with
    | .json => r.emitJson (summaryDocument s target)
    | _ => r.paths s.written) ++
  s.skipped.flatMap (fun path => r.info ("Skipped existing file: " ++ path)) ++
  r.success ("Generated " ++ toString s.written.length ++ " file(s) in " ++ target.text)

end Reporter

end ClientGen.Console
