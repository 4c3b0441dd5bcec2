import ClientGen.Number.Reader
import ClientGen.Text.Hex
import ClientGen.Value.Fault

/-!
# Reading JSON

[read] turns a text into a value or says what is wrong and where. Every reader below takes the text
that is left and gives back what is left after it; a fault carries the text from the character on
that shows it ([Stop]), from which [read] finds its position. Of two pairs with one key the later
decides the value. The words NaN, Infinity and -Infinity are numbers. An integer with too many
digits has no value, and neither has a collection inside too many others, which is no fault of the
text's form ([Fault.reading?]).
-/

namespace ClientGen.Json

/-! ## Faults -/

/-- What can be wrong with a JSON text. -/
inductive FaultKind where
  | byteOrderMark
  | expectedValue
  | expectedPropertyName
  | expectedColon
  | expectedComma
  | extraData
  | unterminatedText
  | controlCharacter
  | badEscape
  | badCodeEscape
  | noValue (fault : ReadingFault)
  deriving DecidableEq, Repr

/-- The words for a fault. -/
def FaultKind.words : FaultKind → String
  | .byteOrderMark => "Unexpected UTF-8 BOM (decode using utf-8-sig)"
  | .expectedValue => "Expecting value"
  | .expectedPropertyName => "Expecting property name enclosed in double quotes"
  | .expectedColon => "Expecting ':' delimiter"
  | .expectedComma => "Expecting ',' delimiter"
  | .extraData => "Extra data"
  | .unterminatedText => "Unterminated string starting at"
  | .controlCharacter => "Invalid control character at"
  | .badEscape => "Invalid \\escape"
  | .badCodeEscape => "Invalid \\uXXXX escape"
  | .noValue fault => fault.words

/-- A fault and its place. Lines and columns count from one, positions from zero. -/
structure Fault where
  kind : FaultKind
  line : Nat
  column : Nat
  position : Nat
  deriving DecidableEq, Repr

/-- The message for a fault. -/
def Fault.message (f : Fault) : String :=
  f.kind.words ++ ": line " ++ toString f.line ++ " column " ++ toString f.column ++ " (char " ++
    toString f.position ++ ")"

/-- The fault of a value that cannot be had. -/
def Fault.reading? (f : Fault) : Option ReadingFault :=
  match f.kind with
  | .noValue fault => some fault
  | _ => none

/-- A fault behind the first characters of a text. -/
def Fault.behind (kind : FaultKind) (before : List Char) : Fault where
  kind := kind
  line := before.count '\n' + 1
  column := (before.reverse.takeWhile (· != '\n')).length + 1
  position := before.length

/-- A fault, and the text from the character on that shows it. -/
structure Stop where
  kind : FaultKind
  rest : List Char
  deriving DecidableEq, Repr

/-! ## Texts -/

/-- White space between the parts of a JSON text. -/
def isSpace (c : Char) : Bool :=
  c == ' ' || c == '\t' || c == '\n' || c == '\r'

/-- A text without the white space at its start. -/
def skipSpace (cs : List Char) : List Char := cs.dropWhile isSpace

/-- The four digits of a code escape, of which `cs` starts with the letter. A text has to go on
behind them. -/
def codeUnit (cs : List Char) : Except Stop Nat :=
  let digits := (cs.drop 1).take 4
  match Text.hexValue? digits with
  | some n => if digits.length < 4 || cs.length ≤ 5 then .error ⟨.badCodeEscape, cs⟩ else .ok n
  | none => .error ⟨.badCodeEscape, cs⟩

/-- Whether a code unit is the first half of a pair. -/
def isHighHalf (n : Nat) : Bool := 0xD800 ≤ n && n ≤ 0xDBFF

/-- Whether a code unit is the second half of a pair. -/
def isLowHalf (n : Nat) : Bool := 0xDC00 ≤ n && n ≤ 0xDFFF

/-- The character of a code unit. Texts are made of characters here: a half without its other half is
none, and the character for unreadable ones stands in its place. -/
def unitChar (n : Nat) : Char :=
  if isHighHalf n || isLowHalf n then '\uFFFD' else Char.ofNat n

/-- The character of the two halves of a pair. -/
def pairChar (high low : Nat) : Char :=
  Char.ofNat (0x10000 + (high - 0xD800) * 0x400 + (low - 0xDC00))

/-- The character that an escape stands for, and the number of characters behind its backslash.
`cs` is the text behind the backslash, and `start` the text from the backslash on. -/
def escapedChar (start : List Char) : List Char → Except Stop (Char × Nat)
  | 'u' :: rest => do
    let unit ← codeUnit ('u' :: rest)
    match rest.drop 4 with
    | '\\' :: 'u' :: after =>
      if isHighHalf unit && after.length ≥ 5 then
        let second ← codeUnit ('u' :: after)
        if isLowHalf second then
          return (pairChar unit second, 11)
      return (unitChar unit, 5)
    | _ => return (unitChar unit, 5)
  | '"' :: _ => .ok ('"', 1)
  | '\\' :: _ => .ok ('\\', 1)
  | '/' :: _ => .ok ('/', 1)
  | 'b' :: _ => .ok ('\x08', 1)
  | 'f' :: _ => .ok ('\x0c', 1)
  | 'n' :: _ => .ok ('\n', 1)
  | 'r' :: _ => .ok ('\r', 1)
  | 't' :: _ => .ok ('\t', 1)
  | _ => .error ⟨.badEscape, start⟩

/-- The characters of a text up to its closing quote, where `skip` characters of an escape are still
to be passed over. `start` is the text from the opening quote on. -/
def readChars (start : List Char) : Nat → List Char → Except Stop (List Char × List Char)
  | _, [] => .error ⟨.unterminatedText, start⟩
  | skip + 1, _ :: rest => readChars start skip rest
  | 0, c :: rest =>
    if c = '"' then .ok ([], rest)
    else if c = '\\' then
      if rest.isEmpty then .error ⟨.unterminatedText, start⟩
      else do
        let (d, width) ← escapedChar (c :: rest) rest
        let (cs, after) ← readChars start width rest
        return (d :: cs, after)
    else if c.toNat < 0x20 then .error ⟨.controlCharacter, c :: rest⟩
    else do
      let (cs, after) ← readChars start 0 rest
      return (c :: cs, after)

/-- A text in quotes, of which the opening one is the first character. -/
def readText (start : List Char) : Except Stop (String × List Char) := do
  let (cs, after) ← readChars start 0 (start.drop 1)
  return (String.ofList cs, after)

/-! ## Numbers and words -/

/-- The fraction at the start of a text: a point and at least one digit. -/
def takeFraction : List Char → List Char × List Char
  | '.' :: rest =>
    let (digits, after) := takeDigits rest
    if digits.isEmpty then ([], '.' :: rest) else (digits, after)
  | cs => ([], cs)

/-- The exponent at the start of a text: a letter, a sign and at least one digit. -/
def takeExponent : List Char → Option Int × List Char
  | [] => (none, [])
  | c :: rest =>
    if c = 'e' || c = 'E' then
      let (negative, body) := takeSign rest
      let (digits, after) := takeDigits body
      if digits.isEmpty then (none, c :: rest)
      else
        let n : Int := digitsValue digits
        (some (if negative then -n else n), after)
    else (none, c :: rest)

/-- The digits in front of the point. A zero stands alone. -/
def takeWhole : List Char → List Char × List Char
  | '0' :: rest => (['0'], rest)
  | cs => takeDigits cs

/-- A number; one with neither a fraction nor an exponent is an integer. -/
def readNumber (cs : List Char) : Except Stop (Value × List Char) :=
  let (negative, body) := match cs with
    | '-' :: rest => (true, rest)
    | cs => (false, cs)
  let (whole, afterWhole) := takeWhole body
  let (fraction, afterFraction) := takeFraction afterWhole
  let (exponent, rest) := takeExponent afterFraction
  if whole.isEmpty then .error ⟨.expectedValue, cs⟩
  else if !fraction.isEmpty || exponent.isSome then
    .ok (.double (.ofDigits negative whole fraction (exponent.getD 0)), rest)
  else if longestInteger < whole.length then
    .error ⟨.noValue (.longInteger whole.length), cs⟩
  else
    let n : Int := digitsValue whole
    .ok (.int (if negative then -n else n), rest)

/-- The words that are values. -/
def wordValues : List (List Char × Value) := [
  ("null".toList, .null), ("true".toList, .bool true), ("false".toList, .bool false),
  ("NaN".toList, .double .nan), ("Infinity".toList, .double (.infinite false)),
  ("-Infinity".toList, .double (.infinite true))]

/-- A word or a number. -/
def readScalar (cs : List Char) : Except Stop (Value × List Char) :=
  match wordValues.find? fun (word, _) => word.isPrefixOf cs with
  | some (word, v) => .ok (v, cs.drop word.length)
  | none => readNumber cs

/-! ## Values -/

/-- The greatest number of collections inside each other. -/
def deepest : Nat := 990

/-- The key of a pair and the colon behind it. -/
def readKey (cs : List Char) : Except Stop (Key × List Char) :=
  match cs with
  | '"' :: _ => do
    let (key, rest) ← readText cs
    match skipSpace rest with
    | ':' :: rest => return (.text key, skipSpace rest)
    | rest => .error ⟨.expectedColon, rest⟩
  | _ => .error ⟨.expectedPropertyName, cs⟩

mutual

/-- A value inside `around` collections. Every call takes one unit of `fuel`, and the length of the
text is always enough. -/
def readValue : Nat → Nat → List Char → Except Stop (Value × List Char)
  | 0, _, cs => .error ⟨.expectedValue, cs⟩
  | fuel + 1, around, cs =>
    match cs with
    | '"' :: _ => do
      let (s, rest) ← readText cs
      return (.text s, rest)
    | '{' :: rest =>
      if deepest ≤ around then .error ⟨.noValue .deepMapping, cs⟩
      else match skipSpace rest with
        | '}' :: rest => return (.map [], rest)
        | rest => do
          let (entries, rest) ← readEntries fuel (around + 1) rest
          return (.map (Assoc.ofList entries), rest)
    | '[' :: rest =>
      if deepest ≤ around then .error ⟨.noValue .deepList, cs⟩
      else match skipSpace rest with
        | ']' :: rest => return (.list [], rest)
        | rest => do
          let (items, rest) ← readItems fuel (around + 1) rest
          return (.list items, rest)
    | _ => readScalar cs

/-- The items of a list up to its closing bracket. -/
def readItems : Nat → Nat → List Char → Except Stop (List Value × List Char)
  | 0, _, cs => .error ⟨.expectedValue, cs⟩
  | fuel + 1, around, cs => do
    let (item, rest) ← readValue fuel around cs
    match skipSpace rest with
    | ']' :: rest => return ([item], rest)
    | ',' :: rest =>
      let (items, rest) ← readItems fuel around (skipSpace rest)
      return (item :: items, rest)
    | rest => .error ⟨.expectedComma, rest⟩

/-- The pairs of a mapping up to its closing brace. -/
def readEntries : Nat → Nat → List Char → Except Stop (List (Key × Value) × List Char)
  | 0, _, cs => .error ⟨.expectedValue, cs⟩
  | fuel + 1, around, cs => do
    let (key, rest) ← readKey cs
    let (v, rest) ← readValue fuel around rest
    match skipSpace rest with
    | '}' :: rest => return ([(key, v)], rest)
    | ',' :: rest =>
      let (entries, rest) ← readEntries fuel around (skipSpace rest)
      return ((key, v) :: entries, rest)
    | rest => .error ⟨.expectedComma, rest⟩

end

/-- A whole text: a value with nothing but white space around it. -/
def readDocument (cs : List Char) : Except Stop Value := do
  if cs.head? = some '\uFEFF' then throw ⟨.byteOrderMark, cs⟩
  let (v, rest) ← readValue (2 * cs.length + 1) 0 (skipSpace cs)
  match skipSpace rest with
  | [] => return v
  | rest => throw ⟨.extraData, rest⟩

/-- The value of a JSON text, or its first fault. -/
def read (text : String) : Except Fault Value :=
  let cs := text.toList
  (readDocument cs).mapError fun stop =>
    .behind stop.kind (cs.take (cs.length - stop.rest.length))

end ClientGen.Json
