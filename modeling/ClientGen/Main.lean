import ClientGen.Console.Footprint
import ClientGen.Console.Usage

/-!
# The program

The files that a run touches are read from the disk, the run is made, and what it changes is
written back. There is no network: a description behind a URL cannot be fetched. There are no
packages with further backends, and no console that reads markup: a line for one is said without its
style.
-/

namespace ClientGen.Console

open Files

/-- What is on the disk at a place in a directory. What is there but cannot be read as a file is
taken for a directory. -/
def readPlace (p : Place) : IO (Option Entry) := do
  try
    return some (.file (← IO.FS.readBinFile (placeText p)))
  catch
    | .noFileOrDirectory .. => return none
    | _ => return some .directory

/-- Whether there may be anything at a place: no name is too long, and none has a null character. -/
def isNameable (p : Place) : Bool :=
  p.all fun s => s.utf8ByteSize ≤ longestName && !s.toList.contains '\x00'

/-- The tree with what is on the disk at some places. -/
def readPlaces (t : FileTree) (places : List Place) : IO FileTree :=
  places.foldlM (fun t p => do
    if t.occupied p || !t.isDirectory p.dropLast || !isNameable p then return t
    match ← readPlace p with
    | some e => return t.put p e
    | none => return t) t

/-- The changes from one tree to another are made on the disk. -/
def writeChanges (before after : FileTree) : IO Unit :=
  after.entries.forM fun (p, e) => do
    match e, before.entry? p with
    | .directory, some .directory => pure ()
    | .directory, _ => IO.FS.createDirAll (placeText p)
    | .file new, some (.file old) =>
      if new.data != old.data then IO.FS.writeBinFile (placeText p) new
    | .file new, _ => IO.FS.writeBinFile (placeText p) new

/-- The variables of the environment that a run sees. -/
def readEnvironment : IO (List (String × String)) :=
  environmentNames.filterMapM fun name => do
    return (← IO.getEnv name).map fun v => (name, v)

/-- The text on the standard input. -/
def readInput : IO String := do
  match Text.decode (← IO.FS.readBinFile "/dev/stdin") with
  | .ok s => return String.ofList (Text.unifyLines s.toList)
  | .error fault => throw (IO.userError fault.message)

/-- A line goes to its stream. -/
def say : Line → IO Unit
  | .result text => IO.println text
  | .table _ rows => rows.forM fun cells => IO.println ("\t".intercalate cells)
  | .diagnostic m => IO.eprintln m.text
  | .styled look m => IO.eprintln (look.shownLabel ++ m.text)
  | .crash words => IO.eprintln words
  | .usage .result => IO.println usageText
  | .usage .diagnostic => IO.eprintln usageText

/-- The world of a run, as far as the run sees it. -/
def readWorld (asked : Invocation) : IO World := do
  let start := (Path.ofText (toString (← IO.currentDir))).parts
  let w : World := {
    tree := ← readPlaces .empty (sourcePlaces start asked)
    start := start
    environment := ← readEnvironment
    input := ← if readsInput asked then readInput else pure ""
    watched := ← (← IO.getStdout).isTty
    fetch := fun _ => .failed "no network" }
  return { w with tree := ← readPlaces w.tree (targetPlaces w asked) }

/-- The code that a command line ends with. -/
def execute (args : List String) : IO UInt32 := do
  let asked := Invocation.of args
  let w ← readWorld asked
  let outcome := run w args
  try
    writeChanges w.tree outcome.tree
  catch e =>
    IO.eprintln ("Error: " ++ toString e)
    return FailureKind.writing.exitCode.toUInt32
  outcome.lines.forM say
  (asked.complaint?).forM IO.eprintln
  return outcome.code.toUInt32

end ClientGen.Console

/-- A run of the program. -/
def main (args : List String) : IO UInt32 :=
  ClientGen.Console.execute args
