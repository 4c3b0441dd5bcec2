import ClientGen.Yaml.Label
import ClientGen.Yaml.Scalar.Block
import ClientGen.Yaml.Scalar.Plain
import ClientGen.Yaml.Scalar.Quoted

/-!
# The tokens of a YAML text

[tokens] cuts a text into tokens. The structure that indentation gives is made explicit: where a
line is indented further than its surroundings a token opens a collection, and where it is indented
less a token closes one ([Lexer.openAt], [Lexer.closeTo]). That a scalar is a key shows only at the
colon behind it; the place of the last one is kept ([PossibleKey]), and its tokens are put in there.
Where the text cannot be cut any further the last token says why. In front of it stand only tokens
that no later key can change ([Lexer.settled]), so that whoever reads them finds the first fault.
-/

namespace ClientGen.Yaml

/-- The parts of a YAML text. -/
inductive Token where
  /-- The mark in front of a document. -/
  | documentStart
  /-- The mark behind a document. -/
  | documentEnd
  /-- The start of a list of indented entries. -/
  | sequenceStart
  /-- The start of a mapping of indented pairs. -/
  | mappingStart
  /-- The end of an indented list or mapping. -/
  | blockEnd
  | openBracket
  | closeBracket
  | openBrace
  | closeBrace
  | comma
  /-- The dash in front of an entry. -/
  | entry
  /-- What is in front of a key. -/
  | key
  /-- The colon between a key and its value. -/
  | colon
  /-- A text; a plain one stands without quotes. -/
  | scalar (plain : Bool) (text : String)
  | anchor (name : String)
  | alias (name : String)
  | tag (tag : WrittenTag)
  | directive (directive : Directive)
  /-- The end of what can be read. -/
  | broken (fault : Fault)
  deriving DecidableEq, Repr

/-- The place of a token that is a key if a colon follows it. -/
structure PossibleKey where
  /-- The number of tokens in front of it. -/
  position : Nat
  /-- Whether nothing but a key can stand there. -/
  required : Bool
  /-- Where it starts. -/
  start : Nat
  line : Nat
  column : Nat

/-- A text that is being cut into tokens. -/
structure Lexer where
  cursor : Cursor
  tokens : Array Token := #[]
  /-- The columns of the open collections, the innermost one first. -/
  columns : List Nat := []
  /-- Whether a key may start at the place. -/
  keyAllowed : Bool := true
  /-- The possible key between the innermost brackets. -/
  possibleKey : Option PossibleKey := none
  /-- The possible keys around the open brackets, the innermost one first. -/
  outerKeys : List (Option PossibleKey) := []

namespace Lexer

/-- Whether a bracket is open. -/
def inFlow (l : Lexer) : Bool := !l.outerKeys.isEmpty

/-- The least column of what is inside the innermost collection. -/
def least (l : Lexer) : Nat :=
  match l.columns with
  | [] => 0
  | column :: _ => column + 1

/-- The lexer behind one more token. -/
def emit (l : Lexer) (t : Token) : Lexer := { l with tokens := l.tokens.push t }

/-- The lexer at another place. -/
def goTo (l : Lexer) (c : Cursor) : Lexer := { l with cursor := c }

/-! ## Blanks and comments -/

/-- The place of the next token, behind blanks, comments and line breaks. A line break allows a key
unless a bracket is open. -/
def passBlanks : Nat → Lexer → Lexer
  | 0, l => l
  | fuel + 1, l =>
    let c := l.cursor.skipWhile (· == ' ')
    let c := if c.peek = some '#' then c.skipWhile (!isBreak ·) else c
    if c.peek.any isBreak then
      passBlanks fuel { l with cursor := c.passBreak.2, keyAllowed := l.keyAllowed || !l.inFlow }
    else l.goTo c

/-! ## Indentation -/

/-- The collections that are indented further than a column are closed; `none` closes all. Between
brackets indentation means nothing. -/
def closeTo (column : Option Nat) (l : Lexer) : Lexer :=
  if l.inFlow then l
  else
    let closes (c : Nat) : Bool := match column with
      | none => true
      | some column => column < c
    { l with
      tokens := l.tokens ++ (l.columns.takeWhile closes).map fun _ => Token.blockEnd
      columns := l.columns.dropWhile closes }

/-- A collection is opened at a column that is further in than its surroundings; its token is put in
behind the first `position` ones. -/
def openAt (column position : Nat) (t : Token) (l : Lexer) : Lexer :=
  if l.least ≤ column then
    { l with
      tokens := l.tokens.extract 0 position ++ #[t] ++ l.tokens.extract position l.tokens.size
      columns := column :: l.columns }
  else l

/-! ## Possible keys -/

/-- Without the possible key between the innermost brackets; a required one cannot be dropped. -/
def dropKey (l : Lexer) : Except Fault Lexer :=
  if l.possibleKey.any (·.required) then .error .malformed
  else .ok { l with possibleKey := none }

/-- The place of the next token is kept as a possible key. -/
def keepKey (l : Lexer) : Except Fault Lexer :=
  if !l.keyAllowed then .ok l
  else do
    let l ← l.dropKey
    let c := l.cursor
    let required := !l.inFlow && l.columns.head? == some c.column
    return { l with possibleKey := some ⟨l.tokens.size, required, c.index, c.line, c.column⟩ }

/-- Whether a possible key is too far back: a key is in one line, and not longer than 1024
characters. -/
def isStale (c : Cursor) (k : PossibleKey) : Bool :=
  k.line != c.line || c.index - k.start > 1024

/-- Without the possible keys that are too far back; a required one cannot be dropped. -/
def dropStaleKeys (l : Lexer) : Except Fault Lexer :=
  let stale (k : Option PossibleKey) : Bool := k.any (isStale l.cursor)
  if (l.possibleKey :: l.outerKeys).any fun k => stale k && k.any (·.required) then
    .error .malformed
  else
    let fresh (k : Option PossibleKey) : Option PossibleKey := k.filter (!isStale l.cursor ·)
    .ok { l with possibleKey := fresh l.possibleKey, outerKeys := l.outerKeys.map fresh }

/-- The tokens in front of every possible key that is not too far back. -/
def settled (l : Lexer) : Array Token :=
  let keys := (l.possibleKey :: l.outerKeys).filterMap fun k => k.filter (!isStale l.cursor ·)
  l.tokens.extract 0 (keys.foldl (fun n k => min n k.position) l.tokens.size)

/-! ## Tokens -/

/-- One of the marks around a document. -/
def readMark (t : Token) (l : Lexer) : Except Fault Lexer := do
  let l ← (l.closeTo none).dropKey
  return { l with keyAllowed := false, cursor := l.cursor.skip 3 }.emit t

/-- A directive in front of a document. -/
def readDirective (l : Lexer) : Except Fault Lexer := do
  let l ← (l.closeTo none).dropKey
  let (directive, rest) ← orMalformed (readDirective? (l.cursor.rest.drop 1))
  return { l with keyAllowed := false, cursor := l.cursor.upTo rest }.emit (.directive directive)

/-- An opening bracket. -/
def readOpening (t : Token) (l : Lexer) : Except Fault Lexer := do
  let l ← l.keepKey
  return { l with
    cursor := l.cursor.advance
    keyAllowed := true
    possibleKey := none
    outerKeys := l.possibleKey :: l.outerKeys }.emit t

/-- A closing bracket, for which one has to be open. -/
def readClosing (t : Token) (l : Lexer) : Except Fault Lexer := do
  let l ← l.dropKey
  match l.outerKeys with
  | [] => throw .malformed
  | k :: ks =>
    return { l with
      cursor := l.cursor.advance
      keyAllowed := false
      possibleKey := k
      outerKeys := ks }.emit t

/-- A comma. -/
def readComma (l : Lexer) : Except Fault Lexer := do
  let l ← l.dropKey
  return { l with cursor := l.cursor.advance, keyAllowed := true }.emit .comma

/-- The dash in front of an entry. -/
def readEntry (l : Lexer) : Except Fault Lexer := do
  if !l.inFlow && !l.keyAllowed then throw .malformed
  let l := if l.inFlow then l else l.openAt l.cursor.column l.tokens.size .sequenceStart
  let l ← l.dropKey
  return { l with cursor := l.cursor.advance, keyAllowed := true }.emit .entry

/-- The question mark in front of a key. -/
def readKey (l : Lexer) : Except Fault Lexer := do
  if !l.inFlow && !l.keyAllowed then throw .malformed
  let l := if l.inFlow then l else l.openAt l.cursor.column l.tokens.size .mappingStart
  let l ← l.dropKey
  return { l with cursor := l.cursor.advance, keyAllowed := !l.inFlow }.emit .key

/-- The colon in front of a value. The token for its key is put in where the possible key is. -/
def readColon (l : Lexer) : Except Fault Lexer :=
  match l.possibleKey with
  | some k =>
    let l := { l with
      tokens := l.tokens.extract 0 k.position ++ #[Token.key] ++
        l.tokens.extract k.position l.tokens.size
      keyAllowed := false
      possibleKey := none }
    let l := if l.inFlow then l else l.openAt k.column k.position .mappingStart
    .ok ((l.goTo l.cursor.advance).emit .colon)
  | none => do
    if !l.inFlow && !l.keyAllowed then throw .malformed
    let l := if l.inFlow then l else l.openAt l.cursor.column l.tokens.size .mappingStart
    return { l with cursor := l.cursor.advance, keyAllowed := !l.inFlow }.emit .colon

/-- A label in front of a node or in its place, which a reader finds in the text from the place
on. -/
def readLabel {α : Type} (read? : List Char → Option (α × List Char)) (token : α → Token)
    (l : Lexer) : Except Fault Lexer := do
  let l ← l.keepKey
  let (label, rest) ← orMalformed (read? l.cursor.rest)
  return { l with cursor := l.cursor.upTo rest, keyAllowed := false }.emit (token label)

/-- A scalar in quotes of one kind. -/
def readQuotedScalar (quote : Char) (l : Lexer) : Except Fault Lexer := do
  let l ← l.keepKey
  let (cs, c) ← readQuoted quote l.cursor
  return { l with cursor := c, keyAllowed := false }.emit (.scalar false (String.ofList cs))

/-- A block scalar. -/
def readBlockScalar (fold : Bool) (l : Lexer) : Except Fault Lexer := do
  let l ← l.dropKey
  let (cs, c) ← orMalformed (readBlock? fold (max l.least 1) l.cursor)
  return { l with cursor := c, keyAllowed := true }.emit (.scalar false (String.ofList cs))

/-- A plain scalar. A line break behind it allows a key. -/
def readPlainScalar (l : Lexer) : Except Fault Lexer := do
  let l ← l.keepKey
  let (cs, gap) := readPlain l.inFlow l.least l.cursor
  return { l with cursor := gap.after, keyAllowed := gap.breaks }.emit
    (.scalar true (String.ofList cs))

/-- Whether a plain scalar may start with a character in front of `next`. -/
def startsPlain (inFlow : Bool) (c : Char) (next : Option Char) : Bool :=
  !("-?:,[]{}#&*!|>'\"%@".toList.contains c || c.toNat == 0x60 || isGap c || isBreak c) ||
    (!endsWord next && (c == '-' || (!inFlow && (c == '?' || c == ':'))))

/-- The token that starts with a character in front of `next`. -/
def readToken (c : Char) (next : Option Char) (l : Lexer) : Except Fault Lexer :=
  if l.cursor.column = 0 && c = '%' then l.readDirective
  else if l.cursor.column = 0 && startsMark l.cursor.rest then
    l.readMark (if c = '-' then .documentStart else .documentEnd)
  else if c = '[' then l.readOpening .openBracket
  else if c = '\x7b' then l.readOpening .openBrace
  else if c = ']' then l.readClosing .closeBracket
  else if c = '\x7d' then l.readClosing .closeBrace
  else if c = ',' then l.readComma
  else if c = '-' && endsWord next then l.readEntry
  else if c = '?' && (l.inFlow || endsWord next) then l.readKey
  else if c = ':' && (l.inFlow || endsWord next) then l.readColon
  else if c = '*' then l.readLabel (fun cs => readName? (cs.drop 1)) .alias
  else if c = '&' then l.readLabel (fun cs => readName? (cs.drop 1)) .anchor
  else if c = '!' then l.readLabel readTag? .tag
  else if c = '|' && !l.inFlow then l.readBlockScalar false
  else if c = '>' && !l.inFlow then l.readBlockScalar true
  else if c = '\'' || c = '"' then l.readQuotedScalar c
  else if startsPlain l.inFlow c next then l.readPlainScalar
  else .error .malformed

/-- The lexer behind the next token, and whether there was one; otherwise the text ends. -/
def next (l : Lexer) : Except Fault (Lexer × Bool) := do
  let l ← (l.passBlanks (l.cursor.rest.length + 1)).dropStaleKeys
  let l := l.closeTo (some l.cursor.column)
  match l.cursor.rest with
  | [] => return (← (l.closeTo none).dropKey, false)
  | c :: rest => return (← l.readToken c rest.head?, true)

/-- All tokens from a place on. Every call takes one unit of `fuel`, and the length of the text is
always enough. -/
def readAll : Nat → Lexer → Array Token
  | 0, l => l.settled.push (.broken .malformed)
  | fuel + 1, l =>
    match l.next with
    | .error fault => l.settled.push (.broken fault)
    | .ok (l, false) => l.tokens
    | .ok (l, true) => l.readAll fuel

end Lexer

/-- The tokens of a text. A byte order mark at its start is left out. -/
def tokens (cs : List Char) : List Token :=
  if cs.all isAllowed then
    let start := Cursor.ofText cs
    let start := if cs.head? = some '\uFEFF' then start.advance else start
    (Lexer.readAll (cs.length + 1) { cursor := start }).toList
  else [.broken .malformed]

end ClientGen.Yaml
