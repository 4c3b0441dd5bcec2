import ClientGen.Json.Reader
import ClientGen.Yaml.Cursor
import ClientGen.Yaml.Fault

/-!
# Quoted scalars

Between single quotes a quote is written twice; between double quotes a backslash begins an escape
([escaped]). Both kinds may go on over several lines, whose breaks are folded ([quotedGap]). A
reader fails where the text ends first, and where an escape stands for no character.
-/

namespace ClientGen.Yaml

/-- The escapes of one character. -/
def plainEscapes : List (Char × Char) := [
  ('0', '\x00'), ('a', '\x07'), ('b', '\x08'), ('t', '\t'), ('\t', '\t'), ('n', '\n'),
  ('v', '\x0b'), ('f', '\x0c'), ('r', '\r'), ('e', '\x1b'), (' ', ' '), ('"', '"'), ('\\', '\\'),
  ('/', '/'), ('N', '\x85'), ('_', '\xa0'), ('L', '\u2028'), ('P', '\u2029')]

/-- The escapes of a code point, with the number of their digits. -/
def codeEscapes : List (Char × Nat) := [('x', 2), ('u', 4), ('U', 8)]

/-- The number that some hexadecimal digits at the start of a text stand for. -/
def readHex (width : Nat) (cs : List Char) : Except Fault Nat :=
  let digits := cs.take width
  if digits.length < width then .error .malformed else orMalformed (Text.hexValue? digits)

/-- The numbers from which on a code point cannot even be asked for. -/
def codePointLimit : Nat := 0x80000000

/-- The character of a code point at the start of a text. Two halves of a pair, each with an escape
of its own, are one character; a half without the other one is replaced. -/
def codeEscape (width : Nat) (cs : List Char) : Except Fault (List Char × List Char) := do
  let n ← readHex width cs
  let rest := cs.drop width
  if n.isValidChar then return ([Char.ofNat n], rest)
  if codePointLimit ≤ n then throw (.reading .hugeCharacter)
  if 0x110000 ≤ n then throw (.reading .noCharacter)
  if let '\\' :: 'u' :: more := rest then
    if let .ok second := readHex 4 more then
      if Json.isHighHalf n && Json.isLowHalf second then
        return ([Json.pairChar n second], more.drop 4)
  return ([Json.unitChar n], rest)

/-- The breaks of the empty lines at the start of a text, blanks left out; a document mark is not
allowed. Every call takes one unit of `fuel`, and the length of the text is always enough. -/
def emptyLines : Nat → List Char → Except Fault (List Char × List Char)
  | 0, _ => .error .malformed
  | fuel + 1, cs =>
    if startsMark cs then .error .malformed
    else
      let rest := cs.dropWhile isGap
      if rest.head?.any isBreak then do
        let (lineBreak, rest) := takeBreak rest
        let (breaks, rest) ← emptyLines fuel rest
        return (lineBreak ++ breaks, rest)
      else .ok ([], rest)

/-- What an escape stands for; `cs` is the text behind the backslash. An escaped line break joins
two lines without a space. -/
def escaped (cs : List Char) : Except Fault (List Char × List Char) :=
  match cs with
  | [] => .error .malformed
  | c :: rest =>
    match plainEscapes.lookup c, codeEscapes.lookup c with
    | some d, _ => .ok ([d], rest)
    | none, some width => codeEscape width rest
    | none, none =>
      if isBreak c then emptyLines (cs.length + 1) (takeBreak cs).2 else .error .malformed

/-- What is read for the blanks and line breaks at the start of a text. -/
def quotedGap (cs : List Char) : Except Fault (List Char × List Char) :=
  let blanks := cs.takeWhile isGap
  let rest := cs.dropWhile isGap
  if rest.head?.any isBreak then do
    let (lineBreak, rest) := takeBreak rest
    let (breaks, rest) ← emptyLines (rest.length + 1) rest
    return (folded lineBreak breaks, rest)
  else .ok (blanks, rest)

/-- The characters up to the closing quote. Every call takes one unit of `fuel`, and the length of
the text is always enough. -/
def quotedFrom (quote : Char) : Nat → List Char → Except Fault (List Char × List Char)
  | 0, _ => .error .malformed
  | _, [] => .error .malformed
  | fuel + 1, c :: rest =>
    if c = quote then
      if quote = '\'' && rest.head? = some '\'' then do
        let (cs, rest) ← quotedFrom quote fuel (rest.drop 1)
        return ('\'' :: cs, rest)
      else .ok ([], rest)
    else do
      let (found, rest) ←
        if quote = '"' && c = '\\' then escaped rest
        else if isGap c || isBreak c then quotedGap (c :: rest)
        else .ok ([c], rest)
      let (cs, rest) ← quotedFrom quote fuel rest
      return (found ++ cs, rest)

/-- The scalar in quotes of one kind at a place. -/
def readQuoted (quote : Char) (c : Cursor) : Except Fault (List Char × Cursor) := do
  let (cs, rest) ← quotedFrom quote (c.rest.length + 1) (c.rest.drop 1)
  return (cs, c.upTo rest)

end ClientGen.Yaml
