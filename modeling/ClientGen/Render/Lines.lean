/-!
# Lines of text

A file is written as a list of lines, each of which ends with a line feed. A line may hold text of
the description, with line feeds of its own.
-/

namespace ClientGen.Render

/-- The lines of a file. -/
abbrev Lines := List String

/-- The text of lines. -/
def textOf (lines : Lines) : String := String.join (lines.map (· ++ "\n"))

/-- Lines that are written only under a condition. -/
def linesIf (condition : Bool) (lines : Lines) : Lines := if condition then lines else []

/-- Items with commas between them. -/
def commaed (items : List String) : String := ", ".intercalate items

/-- Whether a text is there and not empty. -/
def isThere (s : Option String) : Bool := s.getD "" != ""

/-- Lines for a text that may be missing. -/
def linesFor (s : Option String) (lines : String → Lines) : Lines :=
  linesIf (isThere s) (lines (s.getD ""))

end ClientGen.Render
