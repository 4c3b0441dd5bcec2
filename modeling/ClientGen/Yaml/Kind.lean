import ClientGen.Number.Reader
import ClientGen.Text.Pieces
import ClientGen.Yaml.Moment
import ClientGen.Yaml.Node

/-!
# Kinds of nodes

Of what kind a node is, its tag says ([Kind.ofTag]). Without a tag a collection is what it looks
like, a quoted scalar is a text, and a plain one is told by its form ([Kind.ofPlain]): it may be a
truth value, a number, a day or a moment, or the absent value, and otherwise it is a text. A line
break at its end is no part of the form. Integers are written in one of four bases, in which a
leading zero stands for the octal one, or as minutes and seconds; doubles have a point, and an
exponent with a sign. Digits may be grouped by underscores.
-/

namespace ClientGen.Yaml

/-- What a node is. -/
inductive Kind where
  | absent
  | truth
  | integer
  | double
  | moment
  | text
  | bytes
  /-- A key whose value is merged into its mapping. -/
  | merge
  /-- The sign for a default value. -/
  | default
  | list
  | mapping
  /-- A set, written as a mapping. -/
  | members
  /-- Pairs in order, written as a list of mappings. -/
  | pairs
  /-- Of a tag that means nothing here. -/
  | other
  deriving DecidableEq, Repr

/-! ## Forms of numbers -/

/-- Whether a character is a digit or groups digits. -/
def isGrouped (p : Char → Bool) (c : Char) : Bool := p c || c == '_'

/-- Whether a character is a hexadecimal digit. -/
def isHexDigit (c : Char) : Bool :=
  c.isDigit || ('a' ≤ c && c ≤ 'f') || ('A' ≤ c && c ≤ 'F')

/-- Whether a text is a digit with further digits and underscores behind it. -/
def isDecimal (cs : List Char) : Bool :=
  cs.head?.any Char.isDigit && cs.all (isGrouped Char.isDigit)

/-- Whether a text is a number below sixty in one or two digits. -/
def isSixtieth : List Char → Bool
  | [c] => c.isDigit
  | [c, d] => '0' ≤ c && c ≤ '5' && d.isDigit
  | _ => false

/-- Whether a text is made of numbers parted by colons. -/
def isSixties (cs : List Char) : Bool :=
  match Text.pieces ':' cs with
  | first :: second :: rest => isDecimal first && (second :: rest).all isSixtieth
  | _ => false

/-- Whether a text has the form of an integer. -/
def isInteger (cs : List Char) : Bool :=
  match (takeSign cs).2 with
  | '0' :: 'b' :: digits =>
    !digits.isEmpty && digits.all (isGrouped fun c => c == '0' || c == '1')
  | '0' :: 'x' :: digits => !digits.isEmpty && digits.all (isGrouped isHexDigit)
  | '0' :: digits => digits.all (isGrouped fun c => '0' ≤ c && c ≤ '7')
  | body => isDecimal body || isSixties body

/-- Whether a text is empty or an exponent with a sign. -/
def isSignedExponent : List Char → Bool
  | [] => true
  | e :: sign :: digits =>
    (e == 'e' || e == 'E') && (sign == '+' || sign == '-') && !digits.isEmpty &&
      digits.all Char.isDigit
  | _ => false

/-- Whether a text is a number with a point. Without digits in front of the point it has no sign and
digits behind it. -/
def isPointed (cs : List Char) : Bool :=
  let body := (takeSign cs).2
  let whole := body.takeWhile (isGrouped Char.isDigit)
  match body.dropWhile (isGrouped Char.isDigit) with
  | '.' :: rest =>
    let starts := if whole.isEmpty then body.length == cs.length && rest.head?.any Char.isDigit
      else isDecimal whole
    starts && isSignedExponent (rest.dropWhile (isGrouped Char.isDigit))
  | _ => false

/-- Whether a text is made of minutes and seconds, the last ones with a fraction. -/
def isPointedSixties (cs : List Char) : Bool :=
  let body := (takeSign cs).2
  match body.dropWhile (· != '.') with
  | '.' :: rest =>
    isSixties (body.takeWhile (· != '.')) && rest.all (isGrouped Char.isDigit)
  | _ => false

/-- Whether a text is an infinity or what is not a number. -/
def isSpecial (cs : List Char) : Bool :=
  [".inf", ".Inf", ".INF"].contains (String.ofList (takeSign cs).2) ||
    [".nan", ".NaN", ".NAN"].contains (String.ofList cs)

/-- Whether a text has the form of a double. -/
def isDouble (cs : List Char) : Bool := isPointed cs || isPointedSixties cs || isSpecial cs

/-! ## Words -/

/-- The words for truth values, in small letters. -/
def truthWords : List (String × Bool) := [
  ("yes", true), ("no", false), ("true", true), ("false", false), ("on", true), ("off", false)]

/-- A word in small letters, with a capital, or in capitals. -/
def spellings (word : String) : List String :=
  [word, word.capitalize, word.map Char.toUpper]

/-- Whether a text is a word for a truth value. -/
def isTruth (s : String) : Bool := truthWords.any fun (word, _) => (spellings word).contains s

/-- Whether a text stands for the absent value. -/
def isAbsent (s : String) : Bool :=
  s = "" || s = "~" || (spellings "null").contains s

/-! ## Kinds -/

/-- A text without a line break at its end. -/
def dropBreak (s : String) : String :=
  if s.toList.getLast? = some '\n' then String.ofList s.toList.dropLast else s

namespace Kind

/-- The kind of a form. The signs in front of labels are of no kind. -/
def ofForm (s : String) : Kind :=
  let cs := s.toList
  if isTruth s then .truth
  else if isDouble cs then .double
  else if isInteger cs then .integer
  else if s = "<<" then .merge
  else if isAbsent s then .absent
  else if isMoment cs then .moment
  else if s = "=" then .default
  else if ["!", "&", "*"].contains s then .other
  else .text

/-- The kind of a plain scalar, or of one that is read as if it were plain. -/
def ofPlain (s : String) : Kind := if s = "\n" then .text else ofForm (dropBreak s)

/-- The tags of the format itself, without their common start. -/
def tagNames : List (String × Kind) := [
  ("null", .absent), ("bool", .truth), ("int", .integer), ("float", .double),
  ("timestamp", .moment), ("str", .text), ("binary", .bytes), ("merge", .merge),
  ("value", .default), ("seq", .list), ("map", .mapping), ("set", .members), ("omap", .pairs),
  ("pairs", .pairs)]

/-- Whether a node of a kind is a collection. -/
def isCollection : Kind → Bool
  | list => true
  | mapping => true
  | members => true
  | pairs => true
  | _ => false

/-- The kind that a tag says. -/
def ofTag (tag : String) : Kind :=
  match tagNames.find? fun (name, _) => coreStart ++ name == tag with
  | some (_, kind) => kind
  | none => .other

end Kind

/-- The kind of a node. A name stands for its node. -/
def Node.kind : Node → Kind
  | .scalar (some tag) _ _ => .ofTag tag
  | .scalar none plain text => if plain then .ofPlain text else .text
  | .sequence tag _ => (tag.map Kind.ofTag).getD .list
  | .mapping tag _ => (tag.map Kind.ofTag).getD .mapping
  | .anchored _ node => node.kind
  | .alias _ => .other

end ClientGen.Yaml
