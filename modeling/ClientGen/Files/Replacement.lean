import ClientGen.Files.Writer

/-!
# Replacing a file step by step

A file is written under another name beside its target and renamed when it is complete
([replaceInSteps]). Every step may fail, when the disk is full or a permission is missing. A
temporary file that is there then is closed and removed, and this may fail as well: what could not
be written is written once more when the file is closed, and if that fails again the file is not
removed. [putFile] is what comes of it when no step fails.
-/

namespace ClientGen.Files

namespace FileTree

/-- The tree without what is at a place. -/
def remove (t : FileTree) (p : Place) : FileTree := ⟨Assoc.erase t.entries p⟩

/-- The tree with what is at a place moved to another one, where it replaces what is there. -/
def rename (t : FileTree) (p q : Place) : FileTree :=
  match t.entry? p with
  | some e => (t.remove p).put q e
  | none => t

end FileTree

/-- What tells one temporary file from others: eight characters that are chosen at random. -/
structure Mark where
  text : String
  size : text.utf8ByteSize = 8

/-- The name of a temporary file for a file of some name. -/
def temporaryName (name : String) (m : Mark) : String :=
  "." ++ name ++ "." ++ m.text ++ ".tmp"

/-- The place of a temporary file, beside its target. -/
def temporaryPlace (target : Place) (m : Mark) : Place :=
  target.dropLast ++ [temporaryName (target.getLast?.getD "") m]

/-- Where the replacement of a file is stopped by an error that the tree does not tell. -/
inductive Stop where
  /-- Only the first of the directories were made. -/
  | making (made : Nat)
  /-- The temporary file was not made. -/
  | opening
  /-- Only the first of the bytes were written. -/
  | filling (written : Nat)
  /-- The temporary file was not renamed. -/
  | moving
  deriving DecidableEq, Repr

/-- What the replacement of a file does not know before: the marks that are tried for its temporary
file, where it is stopped, if it is, and whether the temporary file is closed and removed then. -/
structure Handling where
  marks : List Mark
  stop : Option Stop := none
  cleaned : Bool := true

/-- What keeps a file from being replaced. -/
inductive Setback where
  | blocked (obstacle : Obstacle)
  /-- There is something under every temporary name that was tried. -/
  | noName
  | stopped (stop : Stop)
  deriving DecidableEq, Repr

/-- The tree with a temporary file that is given up. -/
def giveUp (cleaned : Bool) (filled : FileTree) (temporary : Place) : FileTree :=
  if cleaned then filled.remove temporary else filled

/-- The tree with a temporary file filled and renamed. The other stops come before that. -/
def fillAndRename (s : Handling) (t : FileTree) (temporary target : Place)
    (bytes : ByteArray) : FileTree × Option Setback :=
  let opened := t.put temporary (.file .empty)
  match s.stop with
  | some (.filling written) =>
    let filled := opened.put temporary (.file (bytes.extract 0 written))
    (giveUp s.cleaned filled temporary, some (.stopped (.filling written)))
  | some stop =>
    let filled := opened.put temporary (.file bytes)
    (giveUp s.cleaned filled temporary, some (.stopped stop))
  | none =>
    let filled := opened.put temporary (.file bytes)
    if filled.isDirectory target then
      (giveUp s.cleaned filled temporary, some (.blocked (.directoryInTheWay target)))
    else (filled.rename temporary target, none)

/-- The tree with a temporary file opened in a directory that is there, and all that follows. -/
def replaceBeside (s : Handling) (t : FileTree) (target : Place) (bytes : ByteArray) :
    FileTree × Option Setback :=
  let name := target.getLast?.getD ""
  match s.marks.find? fun m => !t.occupied (temporaryPlace target m) with
  | none => (t, some .noName)
  | some m =>
    if longestName < (temporaryName name m).utf8ByteSize ||
        longestPath < placeSize (temporaryPlace target m) then
      (t, some (.blocked (.longName name)))
    else if s.stop = some .opening then (t, some (.stopped .opening))
    else fillAndRename s t (temporaryPlace target m) target bytes

/-- The tree with a file at a place, if nothing is in the way and nothing stops it. -/
def replaceInSteps (s : Handling) (t : FileTree) (target : Place) (bytes : ByteArray) :
    FileTree × Option Setback :=
  if longestPath < placeSize target.dropLast then
    (t, some (.blocked (.longName (target.getLast?.getD ""))))
  else match s.stop with
    | some (.making made) =>
      match makeDirectories t [] (target.dropLast.take made) with
      | (t, some obstacle) => (t, some (.blocked obstacle))
      | (t, none) => (t, some (.stopped (.making made)))
    | _ =>
      match makeDirectories t [] target.dropLast with
      | (t, some obstacle) => (t, some (.blocked obstacle))
      | (t, none) => replaceBeside s t target bytes

end ClientGen.Files
