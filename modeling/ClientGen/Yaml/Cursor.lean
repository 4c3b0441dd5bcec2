/-!
# Places in a YAML text

A [Cursor] is a place in a text, with the text that is left from it on. Lines and columns decide the
structure of a YAML text, so [Cursor.advance] keeps count of both. A line may end in a line feed, a
carriage return, both, or one of three further marks.
-/

namespace ClientGen.Yaml

/-! ## Characters -/

/-- The characters that end a line. -/
def isBreak (c : Char) : Bool :=
  c == '\n' || c == '\r' || c == '\x85' || c == '\u2028' || c == '\u2029'

/-- The blanks inside a line. -/
def isGap (c : Char) : Bool :=
  c == ' ' || c == '\t'

/-- Whether the text ends, or a blank or a line break follows. -/
def endsWord : Option Char → Bool
  | none => true
  | some c => isGap c || isBreak c

/-- Whether the text ends or a line break follows. -/
def endsLine : Option Char → Bool
  | none => true
  | some c => isBreak c

/-- The characters that may stand in a YAML text. -/
def isAllowed (c : Char) : Bool :=
  c == '\t' || c == '\n' || c == '\r' || (' ' ≤ c && c ≤ '~') || c == '\x85' ||
    ('\xA0' ≤ c && c ≤ '\uFFFD') || 0x10000 ≤ c.toNat

/-! ## Lists of characters -/

/-- Whether a text begins with one of the two document marks, standing alone. -/
def startsMark (cs : List Char) : Bool :=
  (cs.take 3 == ['-', '-', '-'] || cs.take 3 == ['.', '.', '.']) && endsWord (cs.drop 3).head?

/-- The line break at the start of a text as it is read, and what is left. All but two of the marks
are read as a line feed. -/
def takeBreak : List Char → List Char × List Char
  | [] => ([], [])
  | '\r' :: '\n' :: rest => (['\n'], rest)
  | c :: rest =>
    if c = '\u2028' || c = '\u2029' then ([c], rest)
    else if isBreak c then (['\n'], rest)
    else ([], c :: rest)

/-- What is read for a line break and the breaks of the empty lines after it: a lone line feed is a
space, and otherwise the first one is left out. -/
def folded (first others : List Char) : List Char :=
  if first != ['\n'] then first ++ others
  else if others.isEmpty then [' ']
  else others

/-! ## Places -/

/-- A place in a text. -/
structure Cursor where
  /-- The text from the place on. -/
  rest : List Char
  /-- The number of characters in front of the place. -/
  index : Nat
  /-- The number of line breaks in front of the place. -/
  line : Nat
  /-- The number of characters in front of the place in its line. -/
  column : Nat

namespace Cursor

/-- The start of a text. -/
def ofText (cs : List Char) : Cursor := ⟨cs, 0, 0, 0⟩

/-- The character at the place. -/
def peek (c : Cursor) : Option Char := c.rest.head?

/-- The next place. A byte order mark has no width. -/
def advance (c : Cursor) : Cursor :=
  match c.rest with
  | [] => c
  | ch :: rest =>
    if isBreak ch && !(ch == '\r' && rest.head? == some '\n') then
      ⟨rest, c.index + 1, c.line + 1, 0⟩
    else ⟨rest, c.index + 1, c.line, if ch = '\uFEFF' then c.column else c.column + 1⟩

/-- The place some characters on. -/
def skip : Nat → Cursor → Cursor
  | 0, c => c
  | n + 1, c => skip n c.advance

/-- The place behind the characters that satisfy `p`. -/
def skipWhile (p : Char → Bool) (c : Cursor) : Cursor :=
  c.skip (c.rest.takeWhile p).length

/-- The place from which on `rest`, an end of the text, is left. -/
def upTo (c : Cursor) (rest : List Char) : Cursor :=
  c.skip (c.rest.length - rest.length)

/-- The line break at the place, and the place behind it. -/
def passBreak (c : Cursor) : List Char × Cursor :=
  let (lineBreak, rest) := takeBreak c.rest
  (lineBreak, c.upTo rest)

end Cursor

end ClientGen.Yaml
