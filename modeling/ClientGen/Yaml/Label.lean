import ClientGen.Json.Reader
import ClientGen.Text.Utf8
import ClientGen.Yaml.Cursor

/-!
# Anchors, tags and directives

An anchor gives a name to a node, which an alias stands for later on ([readName?]); a tag says of
what kind a node is ([readTag?]); and a directive in front of a document says by which handles its
tags are shortened ([readDirective?]). Every reader takes a text from a mark on and gives back what
is left of it.
-/

namespace ClientGen.Yaml

/-! ## Names -/

/-- The characters of a name. -/
def isNameChar (c : Char) : Bool := c.isAlphanum || c == '-' || c == '_'

/-- Whether a name ends in front of a character. -/
def endsName (next : Option Char) : Bool :=
  endsWord next || next.any fun c => "?:,]\x7d%@".toList.contains c || c.toNat == 0x60

/-- The name at the start of a text. -/
def readName? (cs : List Char) : Option (String × List Char) :=
  let name := cs.takeWhile isNameChar
  let rest := cs.dropWhile isNameChar
  if name.isEmpty || !endsName rest.head? then none else some (String.ofList name, rest)

/-! ## Tags -/

/-- A tag as it is written: a handle, which stands for its start, and the rest of it. A tag without
a handle is written out. -/
structure WrittenTag where
  handle : Option String
  ending : String
  deriving DecidableEq, Repr

/-- The characters that a tag may consist of, escapes apart. -/
def isTagChar (c : Char) : Bool :=
  c.isAlphanum || "-;/?:@&=+$,_.!~*'()[]".toList.contains c

/-- The bytes of the escapes at the start of a text. -/
def tagEscapes? : List Char → Option (List UInt8 × List Char)
  | '%' :: high :: low :: rest => do
    let n ← Text.hexValue? [high, low]
    let (bytes, rest) ← tagEscapes? rest
    some (n.toUInt8 :: bytes, rest)
  | '%' :: _ => none
  | cs => some ([], cs)

/-- The characters of a tag at the start of a text. Every call takes one unit of `fuel`, and the
length of the text is always enough. -/
def tagChars? : Nat → List Char → Option (List Char × List Char)
  | 0, _ => none
  | _, [] => some ([], [])
  | fuel + 1, c :: rest =>
    if c = '%' then do
      let (bytes, rest) ← tagEscapes? (c :: rest)
      let escaped ← (Text.decode ⟨bytes.toArray⟩).toOption
      let (cs, rest) ← tagChars? fuel rest
      some (escaped.toList ++ cs, rest)
    else if isTagChar c then do
      let (cs, rest) ← tagChars? fuel rest
      some (c :: cs, rest)
    else some ([], c :: rest)

/-- The end of a tag, which is not empty. -/
def readEnding? (cs : List Char) : Option (String × List Char) := do
  let (ending, rest) ← tagChars? (cs.length + 1) cs
  if rest.length = cs.length then none else some (String.ofList ending, rest)

/-- A handle: an exclamation mark alone, or a name between two of them. -/
def readHandle? : List Char → Option (String × List Char)
  | '!' :: rest =>
    if rest.head? = some ' ' then some ("!", rest)
    else match rest.dropWhile isNameChar with
      | '!' :: after =>
        some (String.ofList ('!' :: rest.takeWhile isNameChar ++ ['!']), after)
      | _ => none
  | _ => none

/-- Whether a space, a line break or the end follows. -/
def endsLabel (next : Option Char) : Bool := next = some ' ' || endsLine next

/-- The tag at the start of a text. An exclamation mark alone is a tag as well. -/
def readTag? (cs : List Char) : Option (WrittenTag × List Char) := do
  let body := cs.drop 1
  let (tag, rest) ←
    if body.head? = some '<' then do
      let (ending, rest) ← readEnding? (body.drop 1)
      if rest.head? = some '>' then some (WrittenTag.mk none ending, rest.drop 1) else none
    else if endsWord body.head? then some (WrittenTag.mk none "!", body)
    else do
      let word := body.takeWhile fun c => !endsLabel (some c)
      let (handle, rest) ← if word.contains '!' then readHandle? cs else some ("!", body)
      let (ending, rest) ← readEnding? rest
      some (WrittenTag.mk (some handle) ending, rest)
  if endsLabel rest.head? then some (tag, rest) else none

/-! ## Directives -/

/-- What stands in front of a document. -/
inductive Directive where
  | version (major : Nat)
  /-- The start of a tag that a handle stands for. -/
  | handle (name start : String)
  | other
  deriving DecidableEq, Repr

/-- A text behind its spaces. -/
def skipSpaces (cs : List Char) : List Char := cs.dropWhile (· == ' ')

/-- A number at the start of a text. -/
def readDigits? (cs : List Char) : Option (Nat × List Char) :=
  let (digits, rest) := takeDigits cs
  if digits.isEmpty then none else some (digitsValue digits, rest)

/-- A version: two numbers with a point between them. -/
def readVersion? (cs : List Char) : Option (Directive × List Char) := do
  let (major, rest) ← readDigits? cs
  let (_, rest) ← if rest.head? = some '.' then readDigits? (rest.drop 1) else none
  if endsLabel rest.head? then some (.version major, rest) else none

/-- A handle and the start of a tag. -/
def readHandleStart? (cs : List Char) : Option (Directive × List Char) := do
  let (name, rest) ← readHandle? cs
  if rest.head? != some ' ' then none
  let (start, rest) ← readEnding? (skipSpaces rest)
  if endsLabel rest.head? then some (.handle name start, rest) else none

/-- The directive behind a percent sign and what is left behind its line. Nothing but a comment may
follow in the line. -/
def readDirective? (cs : List Char) : Option (Directive × List Char) := do
  let name := String.ofList (cs.takeWhile isNameChar)
  let rest := cs.dropWhile isNameChar
  if name = "" || !endsLabel rest.head? then none
  let (directive, rest) ←
    if name = "YAML" then readVersion? (skipSpaces rest)
    else if name = "TAG" then readHandleStart? (skipSpaces rest)
    else some (.other, rest.dropWhile (!isBreak ·))
  let rest := skipSpaces rest
  let rest := if rest.head? = some '#' then rest.dropWhile (!isBreak ·) else rest
  if endsLine rest.head? then some (directive, (takeBreak rest).2) else none

end ClientGen.Yaml
