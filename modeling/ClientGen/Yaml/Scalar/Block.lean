import ClientGen.Yaml.Cursor

/-!
# Block scalars

The lines of an indented block, kept as they are behind a bar or folded behind an angle. The header
may say how far the block is indented, and what becomes of the line breaks at its end ([Chomping]).
-/

namespace ClientGen.Yaml

/-- What becomes of the line breaks at the end of a block. -/
inductive Chomping where
  | strip
  | clip
  | keep
  deriving DecidableEq

/-- The header of a block. -/
structure BlockHeader where
  chomping : Chomping
  /-- How much further than its surroundings the block is indented, if the header says so. -/
  increment : Option Nat

/-- The sign for the chomping at the start of a text. -/
def takeChomping? : List Char → Option Chomping × List Char
  | '+' :: rest => (some .keep, rest)
  | '-' :: rest => (some .strip, rest)
  | cs => (none, cs)

/-- The digit for the increment at the start of a text. -/
def takeIncrement? : List Char → Option Nat × List Char
  | [] => (none, [])
  | c :: rest => if c.isDigit then (some (c.toNat - '0'.toNat), rest) else (none, c :: rest)

/-- The header at the start of a text, of which the two parts may come in either order, and what is
left behind the line break. Nothing but a comment may follow in the line. -/
def readHeader? (cs : List Char) : Option (BlockHeader × List Char) :=
  let (before, rest) := takeChomping? cs
  let (increment, rest) := takeIncrement? rest
  let (chomping, rest) := if before.isSome || increment.isNone then (before, rest)
    else takeChomping? rest
  let body := rest.dropWhile (· == ' ')
  let line := if body.head? = some '#' then body.dropWhile (!isBreak ·) else body
  if increment = some 0 || !(rest.head? = some ' ' || endsLine rest.head?) || !endsLine line.head?
  then none
  else some (⟨chomping.getD .clip, increment⟩, (takeBreak line).2)

/-- The place behind spaces up to a column. -/
def passIndent (indent : Nat) (c : Cursor) : Cursor :=
  c.skip (min (indent - c.column) (c.rest.takeWhile (· == ' ')).length)

/-- The breaks of empty lines, and the place behind the indentation of the next line. Every call
takes one unit of `fuel`, and the length of the text is always enough. -/
def passEmptyLines (indent : Nat) : Nat → Cursor → List Char × Cursor
  | 0, c => ([], c)
  | fuel + 1, c =>
    let c := passIndent indent c
    if c.peek.any isBreak then
      let (lineBreak, c) := c.passBreak
      let (breaks, c) := passEmptyLines indent fuel c
      (lineBreak ++ breaks, c)
    else ([], c)

/-- The breaks and spaces at the start of a block whose indentation is not given, and the greatest
column among them. -/
def findIndent : Nat → Nat → Cursor → List Char × Nat × Cursor
  | 0, greatest, c => ([], greatest, c)
  | fuel + 1, greatest, c =>
    if c.peek = some ' ' then findIndent fuel (max greatest c.advance.column) c.advance
    else if c.peek.any isBreak then
      let (lineBreak, c) := c.passBreak
      let (breaks, greatest, c) := findIndent fuel greatest c
      (lineBreak ++ breaks, greatest, c)
    else ([], greatest, c)

/-- The lines of a block, with the line break of the last one and those of the empty lines behind
it, and the place behind all. -/
structure BlockLines where
  text : List Char
  lineBreak : List Char
  breaks : List Char
  after : Cursor

/-- The lines of a block from a place on, in front of which the breaks of empty lines stand. -/
def readLines (fold : Bool) (indent : Nat) : Nat → List Char → Cursor → BlockLines
  | 0, breaks, c => ⟨[], [], breaks, c⟩
  | fuel + 1, breaks, c =>
    if c.column != indent || c.rest.isEmpty then ⟨[], [], breaks, c⟩
    else
      let line := c.rest.takeWhile (!isBreak ·)
      let (lineBreak, next) := (c.skip line.length).passBreak
      let (following, next) := passEmptyLines indent (next.rest.length + 1) next
      if next.column != indent || next.rest.isEmpty then
        ⟨breaks ++ line, lineBreak, following, next⟩
      else
        let joins := fold && lineBreak = ['\n'] && !c.peek.any isGap && !next.peek.any isGap
        let joint := if !joins then lineBreak else if following.isEmpty then [' '] else []
        let later := readLines fold indent fuel following next
        { later with text := breaks ++ line ++ joint ++ later.text }

/-- The block at a place, with the indicator in front. Its lines are indented by at least `least`
columns. -/
def readBlock? (fold : Bool) (least : Nat) (c : Cursor) : Option (List Char × Cursor) := do
  let (header, rest) ← readHeader? (c.rest.drop 1)
  let c := c.upTo rest
  let fuel := c.rest.length + 1
  let (indent, breaks, c) := match header.increment with
    | some n =>
      let (breaks, c) := passEmptyLines (least + n - 1) fuel c
      (least + n - 1, breaks, c)
    | none =>
      let (breaks, greatest, c) := findIndent fuel 0 c
      (max least greatest, breaks, c)
  let lines := readLines fold indent fuel breaks c
  let ending := match header.chomping with
    | .strip => []
    | .clip => lines.lineBreak
    | .keep => lines.lineBreak ++ lines.breaks
  some (lines.text ++ ending, lines.after)

end ClientGen.Yaml
