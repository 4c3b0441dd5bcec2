import ClientGen.Yaml.Cursor

/-!
# Plain scalars

A text without quotes ends in front of a colon or a comment, and between brackets also in front of
an indicator ([plainWord]). It may go on over the following lines as long as they are indented far
enough; the line breaks in it are folded ([passGap]).
-/

namespace ClientGen.Yaml

/-- The characters up to the next blank or the end of the scalar. -/
def plainWord (inFlow : Bool) : List Char → List Char
  | [] => []
  | c :: rest =>
    let next := rest.head?
    if isGap c || isBreak c then []
    else if c = ':' &&
        (endsWord next || (inFlow && next.any [',', '[', ']', '{', '}'].contains)) then
      []
    else if inFlow && [',', '?', '[', ']', '{', '}'].contains c then []
    else c :: plainWord inFlow rest

/-- The line breaks at a place, with the spaces around them left out; none if a document mark
comes. Every call takes one unit of `fuel`, and the length of the text is always enough. -/
def passBreaks : Nat → Cursor → Option (List Char) × Cursor
  | 0, c => (some [], c)
  | fuel + 1, c =>
    if c.peek = some ' ' then passBreaks fuel c.advance
    else if c.peek.any isBreak then
      let (lineBreak, c) := c.passBreak
      if startsMark c.rest then (none, c)
      else
        let (breaks, c) := passBreaks fuel c
        (breaks.map (lineBreak ++ ·), c)
    else (some [], c)

/-- What stands between two words of a plain scalar. -/
structure Gap where
  /-- What is read for it; nothing if the scalar ends. -/
  text : List Char
  /-- Whether it has a line break. -/
  breaks : Bool
  /-- The place behind it. -/
  after : Cursor

/-- The gap behind a word of a plain scalar. -/
def passGap (c : Cursor) : Gap :=
  let spaces := c.rest.takeWhile (· == ' ')
  let c := c.skip spaces.length
  if c.peek.any isBreak then
    let (lineBreak, c) := c.passBreak
    if startsMark c.rest then ⟨[], true, c⟩
    else match passBreaks (c.rest.length + 1) c with
      | (none, c) => ⟨[], true, c⟩
      | (some breaks, c) => ⟨folded lineBreak breaks, true, c⟩
  else ⟨spaces, false, c⟩

/-- The words of a plain scalar behind the gap `gap`. Lines that go on with the scalar are indented
by at least `least` columns, unless brackets are open. -/
def plainFrom (inFlow : Bool) (least : Nat) : Nat → Gap → List Char × Gap
  | 0, gap => ([], gap)
  | fuel + 1, gap =>
    let word := plainWord inFlow gap.after.rest
    if gap.after.peek = some '#' || word.isEmpty then ([], gap)
    else
      let next := passGap (gap.after.skip word.length)
      if next.text.isEmpty || next.after.peek = some '#' || (!inFlow && next.after.column < least)
      then (gap.text ++ word, next)
      else
        let (words, last) := plainFrom inFlow least fuel next
        (gap.text ++ word ++ words, last)

/-- The plain scalar at a place, with the gap behind it. -/
def readPlain (inFlow : Bool) (least : Nat) (c : Cursor) : List Char × Gap :=
  plainFrom inFlow least (c.rest.length + 1) ⟨[], false, c⟩

end ClientGen.Yaml
