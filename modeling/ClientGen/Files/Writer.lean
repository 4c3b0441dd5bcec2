import ClientGen.Files.Tree
import ClientGen.Log

/-!
# Writing generated files

[writeFiles] writes files under an output directory, one after the other. The target of a path is
the place it settles at, which has to be the output directory or inside it; a file that is written
only if absent leaves what is at its target alone. Missing directories are made on the way, and a
file is replaced as a whole or not at all, so that a fault leaves every file as the writes before it
have left it ([WriteRun]).
-/

namespace ClientGen.Files

/-- A file to be written. -/
structure GeneratedFile where
  /-- Where it goes, from the output directory on. -/
  path : String
  content : String
  /-- Whether it replaces a file that is there already. -/
  overwrite : Bool := true
  deriving DecidableEq, Repr, Inhabited

/-- What keeps a file from being written. -/
inductive Obstacle where
  | fileInTheWay (place : Place)
  | directoryInTheWay (place : Place)
  | longName (name : String)
  deriving DecidableEq, Repr

/-- The words for an obstacle. -/
def Obstacle.words : Obstacle → String
  | .fileInTheWay place => "Not a directory: " ++ placeText place
  | .directoryInTheWay place => "Is a directory: " ++ placeText place
  | .longName name => "File name too long: " ++ name

/-- Why files cannot be written. -/
inductive WriteFault where
  /-- The target is not inside the output directory. -/
  | outside (path : String)
  | blocked (target : Place) (obstacle : Obstacle)
  /-- Whether there is a file at the target cannot be told. -/
  | unfindable (path : LongPath)
  /-- The path has a null character. -/
  | nullCharacter
  deriving DecidableEq, Repr

/-- The number of bytes that the name of a temporary file has beyond that of its target. -/
def temporaryExtra : Nat := 14

/-! ## One file -/

/-- The tree with a directory at every place on the way from `done` along some segments, as far as
nothing is in the way. -/
def makeDirectories (t : FileTree) (done : Place) : List String → FileTree × Option Obstacle
  | [] => (t, none)
  | s :: rest =>
    let next := done ++ [s]
    match t.entry? next with
    | some .directory => makeDirectories t next rest
    | some (.file _) => (t, some (.fileInTheWay next))
    | none =>
      if longestName < s.utf8ByteSize then (t, some (.longName s))
      else makeDirectories (t.put next .directory) next rest

/-- The number of bytes in the text of a place. -/
def placeSize (p : Place) : Nat := (placeText p).utf8ByteSize

/-- The tree with a file at a place, if nothing is in the way. It is written under another name
first. -/
def putFile (t : FileTree) (target : Place) (bytes : ByteArray) : FileTree × Option Obstacle :=
  let name := target.getLast?.getD ""
  if longestPath < placeSize target.dropLast then (t, some (.longName name))
  else match makeDirectories t [] target.dropLast with
    | (t, some obstacle) => (t, some obstacle)
    | (t, none) =>
      if longestName < name.utf8ByteSize + temporaryExtra ||
          longestPath < placeSize target + temporaryExtra then (t, some (.longName name))
      else if t.isDirectory target then (t, some (.directoryInTheWay target))
      else (t.put target (.file bytes), none)

/-- What became of a file. -/
structure Decision where
  path : String
  target : Place
  /-- Whether it was written; otherwise what was there was left alone. -/
  written : Bool
  deriving DecidableEq, Repr

/-- The place of a file under an output directory. -/
def targetOf (base : Place) (f : GeneratedFile) : Place := (Path.ofText f.path).settle base

/-- The tree behind a file that is not left alone, and what became of it. -/
def replaceFile (t : FileTree) (target : Place) (f : GeneratedFile) :
    FileTree × Except WriteFault Decision :=
  match putFile t target f.content.toUTF8 with
  | (t, some obstacle) => (t, .error (.blocked target obstacle))
  | (t, none) => (t, .ok ⟨f.path, target, true⟩)

/-- The tree behind a file, and what became of it. -/
def writeFile (base : Place) (t : FileTree) (f : GeneratedFile) :
    FileTree × Except WriteFault Decision :=
  let target := targetOf base f
  if (placeText base ++ f.path).toList.contains '\x00' then (t, .error .nullCharacter)
  else if !isInside target base then (t, .error (.outside f.path))
  else if f.overwrite then replaceFile t target f
  else match t.find [] ⟨"/", target⟩ with
    | .error path => (t, .error (.unfindable path))
    | .ok (some _) => (t, .ok ⟨f.path, target, false⟩)
    | .ok none => replaceFile t target f

/-! ## All files -/

/-- What came of writing files. -/
structure WriteRun where
  tree : FileTree
  /-- What became of the files, in order. -/
  decisions : List Decision
  /-- Why it ended early, if it did. -/
  fault : Option WriteFault

namespace WriteRun

/-- The paths of the files that were written. -/
def written (r : WriteRun) : List String := (r.decisions.filter (·.written)).map (·.path)

/-- The paths of the files that were left alone. -/
def skipped (r : WriteRun) : List String := (r.decisions.filter (!·.written)).map (·.path)

end WriteRun

/-- Files written one after the other, up to the first fault. -/
def writeFiles (base : Place) : List GeneratedFile → FileTree → WriteRun
  | [], t => ⟨t, [], none⟩
  | f :: rest, t =>
    match writeFile base t f with
    | (t, .error fault) => ⟨t, [], some fault⟩
    | (t, .ok decision) =>
      let run := writeFiles base rest t
      { run with decisions := decision :: run.decisions }

/-- What is told about a file. -/
def Decision.logRecord (d : Decision) : Log.Record :=
  if d.written then ⟨.debug, "clientforge.writer", "Wrote " ++ placeText d.target⟩
  else ⟨.info, "clientforge.writer",
    "Skipped overwriting " ++ d.path ++ " as the file already exists"⟩

end ClientGen.Files
