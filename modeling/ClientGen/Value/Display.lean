import ClientGen.Number.Shortest
import ClientGen.Text.Printable
import ClientGen.Value.Basic

/-!
# Values as text

[Value.asText] is the text of a value where a text is wanted: a text is itself, and every other
value is shown as in a list. [Value.shown] is that form: texts are quoted and escaped ([quoted]),
and so are bytes behind a letter ([bytesShown]); lists stand in brackets, sets and mappings in
braces. Not every value has a text: an integer may have too many digits, and a collection may be
inside too many others ([Value.textFault?]). What is said of the text of any other value is said of
the form that it would have.
-/

namespace ClientGen

/-! ## Quoted texts -/

/-- A number in hexadecimal notation with at least `width` digits. -/
def hexText (width n : Nat) : List Char :=
  let digits := Nat.toDigits 16 n
  List.replicate (width - digits.length) '0' ++ digits

/-- The escape of a code point. -/
def escapedCode (n : Nat) : List Char :=
  if n < 0x100 then '\\' :: 'x' :: hexText 2 n
  else if n < 0x10000 then '\\' :: 'u' :: hexText 4 n
  else '\\' :: 'U' :: hexText 8 n

/-- A character inside quotes. -/
def quotedChar (quote c : Char) : List Char :=
  if c = quote || c = '\\' then ['\\', c]
  else if c = '\n' then ['\\', 'n']
  else if c = '\r' then ['\\', 'r']
  else if c = '\t' then ['\\', 't']
  else if Text.isPrintable c then [c]
  else escapedCode c.toNat

/-- A text in single quotes, or in double quotes if only single ones occur in it. -/
def quoted (s : String) : String :=
  let cs := s.toList
  let quote := if cs.contains '\'' && !cs.contains '"' then '"' else '\''
  String.ofList (quote :: cs.flatMap (quotedChar quote) ++ [quote])

/-- Code points in quotes. One that is half of a pair is escaped. -/
def quotedCodes (ns : List Nat) : String :=
  let quote := if ns.contains '\''.toNat && !ns.contains '"'.toNat then '"' else '\''
  let inner := ns.flatMap fun n =>
    if n.isValidChar then quotedChar quote (Char.ofNat n) else escapedCode n
  String.ofList (quote :: inner ++ [quote])

/-- A byte inside quotes. -/
def quotedByte (quote : Char) (byte : UInt8) : List Char :=
  let c := Char.ofNat byte.toNat
  if byte < 127 then quotedChar quote c else '\\' :: 'x' :: hexText 2 byte.toNat

/-- Bytes, as characters where they stand for some. -/
def bytesShown (bs : List UInt8) : String :=
  let quote := if bs.contains 39 && !bs.contains 34 then '"' else '\''
  String.ofList ('b' :: quote :: bs.flatMap (quotedByte quote) ++ [quote])

/-! ## Values -/

/-- A truth value. -/
def boolText (b : Bool) : String := if b then "True" else "False"

/-- A key as it is shown in a mapping. -/
def Key.shown : Key → String
  | .null => "None"
  | .bool b => boolText b
  | .int n => toString n
  | .double d => d.text Double.plainLayout
  | .text s => quoted s
  | .date d => d.shown
  | .moment m => m.shown
  | .bytes bs => bytesShown bs

namespace Value

mutual

/-- A value as an item of a list. -/
def shown : Value → String
  | .null => "None"
  | .bool b => boolText b
  | .int n => toString n
  | .double d => d.text Double.plainLayout
  | .text s => quoted s
  | .date d => d.shown
  | .moment m => m.shown
  | .bytes bs => bytesShown bs
  | .list items => "[" ++ ", ".intercalate (shownItems items) ++ "]"
  | .tuple [only] => "(" ++ only.shown ++ ",)"
  | .tuple items => "(" ++ ", ".intercalate (shownItems items) ++ ")"
  | .set [] => "set()"
  | .set members => "\x7b" ++ ", ".intercalate (members.map Key.shown) ++ "\x7d"
  | .map entries => "\x7b" ++ ", ".intercalate (shownEntries entries) ++ "\x7d"

/-- The items of a list. -/
def shownItems : List Value → List String
  | [] => []
  | v :: rest => v.shown :: shownItems rest

/-- The pairs of a mapping. -/
def shownEntries : List (Key × Value) → List String
  | [] => []
  | (k, v) :: rest => (k.shown ++ ": " ++ v.shown) :: shownEntries rest

end

/-- The text of a value. -/
def asText : Value → String
  | .text s => s
  | .date d => d.text
  | .moment m => m.text
  | v => v.shown

end Value

/-- The text of a key. -/
def Key.asText (k : Key) : String := k.toValue.asText

/-! ## Values without a text -/

/-- The greatest number of decimal digits of an integer that is read or shown. -/
def longestInteger : Nat := 4300

/-- The words about an integer with more digits. -/
def longIntegerText : String := "Exceeds the limit (4300 digits) for integer string conversion"

/-- The number of collections inside each other that can be shown. -/
def deepestShown : Nat := 990

/-- The words about more of them. -/
def tooDeepText : String := "maximum recursion depth exceeded"

/-- Why a value has no text. -/
inductive TextFault where
  | longInteger
  /-- A collection is inside too many others. -/
  | deep
  deriving DecidableEq, Repr

/-- The words for a fault. -/
def TextFault.words : TextFault → String
  | .longInteger =>
    longIntegerText ++ "; use sys.set_int_max_str_digits() to increase the limit"
  | .deep => tooDeepText ++ " while getting the repr of an object"

/-- Why an integer has no text, if it has none. No proof about small integers needs the power. -/
@[irreducible] def integerFault? (n : Int) : Option TextFault :=
  if Double.tenTo longestInteger ≤ n.natAbs then some .longInteger else none

theorem integerFault?_cases (n : Int) :
    integerFault? n = none ∨ integerFault? n = some .longInteger := by
  unfold integerFault?
  split
  · exact .inr rfl
  · exact .inl rfl

/-- Why a key has no text, if it has none. -/
def Key.textFault? : Key → Option TextFault
  | .int n => integerFault? n
  | _ => none

namespace Value

mutual

/-- The first fault in a value that is inside some collections. -/
def textFaultInside? (around : Nat) : Value → Option TextFault
  | .int n => integerFault? n
  | .list items =>
    if around < deepestShown then itemsFault? (around + 1) items else some .deep
  | .tuple items =>
    if around < deepestShown then itemsFault? (around + 1) items else some .deep
  | .set members =>
    if around < deepestShown then members.findSome? Key.textFault? else some .deep
  | .map entries =>
    if around < deepestShown then entriesFault? (around + 1) entries else some .deep
  | _ => none

/-- The first fault in the items of a list. -/
def itemsFault? (around : Nat) : List Value → Option TextFault
  | [] => none
  | v :: rest => (v.textFaultInside? around).or (itemsFault? around rest)

/-- The first fault in the pairs of a mapping. -/
def entriesFault? (around : Nat) : List (Key × Value) → Option TextFault
  | [] => none
  | (k, v) :: rest =>
    (k.textFault?.or (v.textFaultInside? around)).or (entriesFault? around rest)

end

/-- Why a value has no text, if it has none. -/
def textFault? (v : Value) : Option TextFault := v.textFaultInside? 0

end Value

/-- Ends with a fault of a text, if there is one. -/
def checkText (fault? : Option TextFault) : Except TextFault Unit :=
  match fault? with
  | some fault => .error fault
  | none => .ok ()

@[simp] theorem checkText_none : checkText none = .ok () := rfl

/-- A text has itself. -/
@[simp] theorem Value.textFault?_text (s : String) : (Value.text s).textFault? = none := by
  simp [Value.textFault?, Value.textFaultInside?]

end ClientGen
