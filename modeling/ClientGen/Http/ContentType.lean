import ClientGen.Number.Reader
import ClientGen.Text.Blank
import ClientGen.Text.Case
import ClientGen.Text.Charset

/-!
# Content types

The type of what is sent over HTTP, with parameters behind it. Parameters are cut at semicolons that
stand outside quotes ([parameters]); the charset is one of them ([charsetOf]). Its value may be cut
into numbered pieces, and it may be spelled in a charset of its own ([joinPieces]).
-/

namespace ClientGen.Http

/-! ## Parameters -/

/-- The parts of a content type between semicolons. A quote behind a backslash opens and closes
nothing. -/
def cutParameters (quoted escaped : Bool) : List Char → List (List Char)
  | [] => [[]]
  | c :: rest =>
    if c = ';' && !quoted then [] :: cutParameters false false rest
    else
      let quoted := if c = '"' && !escaped then !quoted else quoted
      match cutParameters quoted (c = '\\') rest with
      | [] => [[c]]
      | p :: ps => (c :: p) :: ps

/-- A value without the quotes or brackets around it. -/
def unquotedValue (value : String) : String :=
  let inner := String.ofList (value.toList.drop 1).dropLast
  let within (first last : Char) : Bool :=
    1 < value.length && value.toList.head? = some first && value.toList.getLast? = some last
  if within '"' '"' then Text.replaceAll "\\\"" "\"" (Text.replaceAll "\\\\" "\\" inner)
  else if within '<' '>' then inner
  else value

/-- The parameters of a content type. The type itself counts as one without a value. A name with a
value is in small letters. -/
def parameters (contentType : String) : List (String × String) :=
  (cutParameters false false contentType.toList).map fun part =>
    match Text.cutAt '=' (String.ofList part) with
    | (name, none) => (Text.trim name, "")
    | (name, some value) => (Text.lower (Text.trim name), unquotedValue (Text.trim value))

/-! ## Pieces of a value -/

/-- A piece of the value of a parameter. -/
structure Piece where
  parameter : String
  number : Option Nat
  value : String
  /-- Whether percent signs stand for bytes. -/
  isSpelled : Bool

/-- The piece of a name with a star behind it, and perhaps a number and another star. -/
def Piece.of? (name value : String) : Option Piece :=
  let (parameter, rest) := Text.cutAt '*' name
  let isWord := fun c : Char => c.isAlphanum || c = '_'
  match rest.filter fun _ => !parameter.isEmpty && parameter.toList.all isWord with
  | none => none
  | some rest =>
    let isSpelled := rest.isEmpty || rest.toList.getLast? = some '*'
    let digits := if rest.isEmpty then [] else
      if isSpelled then rest.toList.dropLast else rest.toList
    if rest.isEmpty then some ⟨parameter, none, value, true⟩
    else if digits.isEmpty || !digits.all Char.isDigit then none
    else some ⟨parameter, some (digitsValue digits), value, isSpelled⟩

/-- Whether a piece stands in front of another one, or is no different. -/
def Piece.isBefore (p q : Piece) : Bool :=
  match p.number, q.number with
  | some n, some m => n < m || (n = m && p.value ≤ q.value)
  | _, _ => p.value ≤ q.value

/-- A text in which a percent sign and two hexadecimal digits stand for the character of a byte. -/
def unspelled : Nat → List Char → List Char
  | _, [] => []
  | skip + 1, _ :: rest => unspelled skip rest
  | 0, c :: rest =>
    match if c = '%' && 2 ≤ rest.length then Text.hexValue? (rest.take 2) else none with
    | some byte => Char.ofNat byte :: unspelled 2 rest
    | none => c :: unspelled 0 rest

/-- The bytes of a text, where a character without a byte of its own is escaped. -/
def bytesOf (cs : List Char) : List UInt8 :=
  cs.flatMap fun c =>
    if c.toNat < 256 then [c.toNat.toUInt8]
    else
      let escape := if c.toNat < 0x10000 then '\\' :: 'u' :: hexText 4 c.toNat
        else '\\' :: 'U' :: hexText 8 c.toNat
      escape.map fun c => c.toNat.toUInt8

/-- A text that is spelled in a charset; itself if the charset does not read it. -/
def respelled (charset : String) (cs : List Char) : List Char :=
  match Text.Charset.ofName? (if charset.isEmpty then "ascii" else charset) with
  | none => cs
  | some charset =>
    match charset.decode (bytesOf cs) with
    | .ok text => if text.contains Text.replacement then cs else text
    | .error _ => cs

/-- The value of pieces in order. If one of them is spelled, the charset and the language of the
value may stand in front of it, with an apostrophe behind either. -/
def joinPieces (pieces : List Piece) : String :=
  let whole := pieces.flatMap fun p =>
    if p.isSpelled then unspelled 0 p.value.toList else p.value.toList
  if !pieces.any (·.isSpelled) then String.ofList whole
  else match Text.pieces '\'' whole with
    | charset :: _ :: first :: rest =>
      String.ofList (respelled (String.ofList charset)
        (['\''].intercalate (first :: rest)))
    | _ => String.ofList (respelled "" whole)

/-- The pieces of each parameter in order. They are all numbered, or none of them is. -/
def sortPieces (pieces : List Piece) : Except Text.CharsetFault (List Piece) :=
  let mixed := pieces.findSome? fun p =>
    let others := pieces.filter (·.parameter = p.parameter)
    (others.zip (others.drop 1)).findSome? fun (first, second) =>
      if first.number.isSome ≠ second.number.isSome then some second.number.isSome else none
  match mixed with
  | some isNumbered => .error (.mixedPieces isNumbered)
  | none => .ok (pieces.mergeSort Piece.isBefore)

/-! ## The charset -/

/-- The name of the charset of a content type. A parameter in pieces counts only without one that is
whole. -/
def charsetName? (contentType : String) : Except Text.CharsetFault (Option String) := do
  let given := parameters contentType
  let isCharset (name : String) : Bool := Text.lower name = "charset"
  let pieces := (given.drop 1).filterMap fun (name, value) => Piece.of? name value
  let sorted ← sortPieces pieces
  let whole := (given.find? fun (name, _) => isCharset name).map (·.2)
  return whole.or <| (pieces.find? (isCharset ·.parameter)).map fun p =>
    joinPieces (sorted.filter (·.parameter = p.parameter))

/-- The charset of a content type; UTF-8 if none is known. -/
def charsetOf (contentType : String) : Except Text.CharsetFault Text.Charset :=
  (charsetName? contentType).map fun name? =>
    let named := name?.bind fun name =>
      if name.toList.all (·.toNat < 128) then Text.Charset.ofName? name else none
    named.getD Text.utf8

end ClientGen.Http
