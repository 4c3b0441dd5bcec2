import ClientGen.Assoc
import ClientGen.Files.Path

/-!
# File trees

The files and directories that a run sees, by their places. The root is always a directory, and
there are no links. [FileTree.find] follows a path as an operating system does: every segment is
looked up in a directory, so that a double dot does not lead out of what is not there, and neither
a segment nor the whole path may be too long.
-/

namespace ClientGen.Files

/-- What is at a place. -/
inductive Entry where
  | file (bytes : ByteArray)
  | directory

/-- The greatest number of bytes in the name of a file or directory. -/
def longestName : Nat := 255

/-- The greatest number of bytes in a path. -/
def longestPath : Nat := 4095

/-- A segment that is too long for a name. -/
structure LongSegment where
  segment : String
  deriving Repr

/-- A path that is too long to be followed, or has a segment that is. -/
structure LongPath where
  path : Path
  deriving DecidableEq, Repr

/-- Files and directories by their places. -/
structure FileTree where
  entries : List (Place × Entry)
  deriving Inhabited

namespace FileTree

/-- The tree with nothing but the root. -/
def empty : FileTree := ⟨[]⟩

/-- What is at a place. -/
def entry? (t : FileTree) (p : Place) : Option Entry :=
  if p = [] then some .directory else t.entries.lookup p

/-- Whether there is a directory at a place. -/
def isDirectory (t : FileTree) (p : Place) : Bool :=
  match t.entry? p with
  | some .directory => true
  | _ => false

/-- The bytes of the file at a place. -/
def file? (t : FileTree) (p : Place) : Option ByteArray :=
  match t.entry? p with
  | some (.file bytes) => some bytes
  | _ => none

/-- Whether there is anything at a place. -/
def occupied (t : FileTree) (p : Place) : Bool := (t.entry? p).isSome

/-- The tree with an entry put at a place. -/
def put (t : FileTree) (p : Place) (e : Entry) : FileTree :=
  ⟨Assoc.insert p e t.entries⟩

/-- The tree with a directory at every place on the way to one, the place itself included. -/
def putDirectories (t : FileTree) (p : Place) : FileTree :=
  (List.range (p.length + 1)).foldl (fun t n =>
    let q := p.take n
    if t.occupied q then t else t.put q .directory) t

/-- The place that segments lead to from a place on, if every step is taken from a directory. A
segment that is too long is told where it is looked up. -/
def reach (t : FileTree) (start : Place) : List String → Except LongSegment (Option Place)
  | [] => .ok (some start)
  | s :: rest =>
    if !t.isDirectory start then .ok none
    else if longestName < s.utf8ByteSize then .error ⟨s⟩
    else t.reach (Path.stepTo start s) rest

/-- What is where a path leads to. Nothing is where a path with a null character leads to. -/
def find (t : FileTree) (start : Place) (p : Path) : Except LongPath (Option Entry) :=
  if p.text.toList.contains '\x00' then .ok none
  else if longestPath < p.text.utf8ByteSize then .error ⟨p⟩
  else match t.reach (if p.isAbsolute then [] else start) p.parts with
    | .ok place => .ok (place.bind t.entry?)
    | .error _ => .error ⟨p⟩

/-- The bytes of the file that a path leads to. -/
def findFile (t : FileTree) (start : Place) (p : Path) : Except LongPath (Option ByteArray) :=
  (t.find start p).map fun
    | some (.file bytes) => some bytes
    | _ => none

/-- The tree with a file at a place, and directories on the way to it. -/
def putFileAt (t : FileTree) (p : Place) (bytes : ByteArray) : FileTree :=
  (t.putDirectories p.dropLast).put p (.file bytes)

/-- The places inside a directory with nothing inside them: files, and empty directories. They are
told as seen from the directory, with what is there. -/
def leaves (t : FileTree) (base : Place) : List (Place × Entry) :=
  t.entries.filterMap fun (p, e) =>
    let isLeaf := !t.entries.any fun (q, _) => isInside q p && q != p
    if isInside p base && p != base && isLeaf then some (p.drop base.length, e) else none

end FileTree

end ClientGen.Files
