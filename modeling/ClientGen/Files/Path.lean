import ClientGen.Text.Pieces

/-!
# Paths and places

A [Path] is what a user writes: a sequence of segments, from the root or from wherever one is. Empty
segments and single dots mean nothing and are left out; double dots stay, because what they mean may
depend on the files. A [Place] is where a file is: the segments that lead there from the root.
[Path.settle] finds the place of a path by cancelling double dots.
-/

namespace ClientGen.Files

/-- The segments from the root to a file or directory. -/
abbrev Place := List String

/-- The text of a place. -/
def placeText (p : Place) : String := "/" ++ "/".intercalate p

/-- Whether a place is another one or inside it. -/
def isInside (p base : Place) : Bool := base.isPrefixOf p

/-- A path as a user writes it. -/
structure Path where
  /-- The slashes in front: none, one, or exactly two. -/
  lead : String
  parts : List String
  deriving DecidableEq, Repr, Inhabited

namespace Path

/-- The path that a text stands for. -/
def ofText (s : String) : Path where
  lead :=
    if Text.startsWith s "//" && !Text.startsWith s "///" then "//"
    else if Text.startsWith s "/" then "/"
    else ""
  parts := ((Text.pieces '/' s.toList).map String.ofList).filter fun p => p != "" && p != "."

/-- The text of a path; the path that leads nowhere is a dot. -/
def text (p : Path) : String :=
  let s := p.lead ++ "/".intercalate p.parts
  if s = "" then "." else s

/-- Whether a path starts from the root. -/
def isAbsolute (p : Path) : Bool := p.lead != ""

/-- The last segment. -/
def name (p : Path) : String := p.parts.getLast?.getD ""

/-- The end of the last segment from its last dot on. A dot at the start or at the end of the
segment begins none. -/
def ending (p : Path) : String :=
  let cs := p.name.toList
  let after := (cs.reverse.takeWhile (· != '.')).reverse
  let before := cs.length - after.length - 1
  if after.length < cs.length && 0 < before && !after.isEmpty then String.ofList ('.' :: after)
  else ""

/-- A path that is followed from a place. -/
def join (p q : Path) : Path :=
  if q.isAbsolute then q else ⟨p.lead, p.parts ++ q.parts⟩

/-- The place one step further: a double dot leads back. -/
def stepTo (start : Place) (segment : String) : Place :=
  if segment = ".." then start.dropLast else start ++ [segment]

/-- The place of a path from a place on, whatever files there are. -/
def settle (start : Place) (p : Path) : Place :=
  p.parts.foldl stepTo (if p.isAbsolute then [] else start)

end Path

end ClientGen.Files
