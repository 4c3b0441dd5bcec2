import ClientGen.Http.Label.Context
import ClientGen.Http.Label.Direction
import ClientGen.Http.Label.LetterTable
import ClientGen.Text.MarkTable
import ClientGen.Text.Punycode
import ClientGen.Value.Display

/-!
# Labels

The parts between the points of a host's name. A label is in the composed form, holds letters,
digits and marks with hyphens between them, and its characters go together ([labelFault?]). In ASCII
a label beyond ASCII is spelled with a mark at its start ([spelled?]), and read back from it
([readLabel]).
-/

namespace ClientGen.Http

open Text

/-! ## Faults -/

/-- What can be wrong with a label. Places count from one. -/
inductive LabelFault where
  | empty
  | notComposed
  | innerHyphens
  | outerHyphen
  | leadingMark
  /-- A joiner does not stand between letters that it belongs to. -/
  | joiner (code place : Nat) (label : List Nat)
  /-- A sign does not stand beside what it belongs to. -/
  | misplaced (code place : Nat) (label : List Nat)
  /-- A character may not stand in a label. -/
  | character (code place : Nat) (label : List Nat)
  | direction (fault : DirectionFault) (label : List Nat)
  /-- Nothing stands behind the mark of a spelling. -/
  | noSpelling
  | lastHyphen
  /-- It is spelled as no text is. -/
  | badSpelling
  deriving DecidableEq, Repr

/-- The notation for a code point. -/
def codeNotation (n : Nat) : String := "U+" ++ String.ofList ((hexText 4 n).map Char.toUpper)

/-- The words for a fault of direction. -/
def DirectionFault.words (label : List Nat) : DirectionFault → String
  | unknown place =>
    "Unknown directionality in label " ++ quotedCodes label ++ " at position " ++ toString place
  | first =>
    "First codepoint in label " ++ quotedCodes label ++ " must be directionality L, R or AL"
  | against place leftward =>
    "Invalid direction for codepoint at position " ++ toString place ++ " in a " ++
      (if leftward then "right-to-left" else "left-to-right") ++ " label"
  | numbers => "Can not mix numeral types in a right-to-left label"
  | last => "Label ends with illegal codepoint directionality"

/-- The words for a fault. -/
def LabelFault.words : LabelFault → String
  | empty => "Empty Label"
  | notComposed => "Label must be in Normalization Form C"
  | innerHyphens => "Label has disallowed hyphens in 3rd and 4th position"
  | outerHyphen => "Label must not start or end with a hyphen"
  | leadingMark => "Label begins with an illegal combining character"
  | joiner code place label =>
    "Unknown codepoint adjacent to joiner " ++ codeNotation code ++ " at position " ++
      toString place ++ " in " ++ quotedCodes label
  | misplaced code place label =>
    "Codepoint " ++ codeNotation code ++ " not allowed at position " ++ toString place ++ " in " ++
      quotedCodes label
  | character code place label =>
    "Codepoint " ++ codeNotation code ++ " at position " ++ toString place ++ " of " ++
      quotedCodes label ++ " not allowed"
  | direction fault label => fault.words label
  | noSpelling => "Malformed A-label, no Punycode eligible content found"
  | lastHyphen => "A-label must not end with a hyphen"
  | badSpelling => "Invalid A-label"

/-! ## Labels -/

/-- The fault of the characters of a label that are left, where `before` are the ones in front of
them, the last one first. -/
def characterFault? (label : List Nat) : List Nat → List Nat → Option LabelFault
  | _, [] => none
  | before, n :: rest =>
    if isLetter n then characterFault? label (n :: before) rest
    else if joiners.contains n then
      if isJoined n before rest then characterFault? label (n :: before) rest
      else some (.joiner n (before.length + 1) label)
    else if Span.includes placedTable n then
      if isPlaced n label before rest then characterFault? label (n :: before) rest
      else some (.misplaced n (before.length + 1) label)
    else some (.character n (before.length + 1) label)

/-- What is wrong with a label, if anything. -/
def labelFault? (label : List Nat) : Option LabelFault :=
  let hyphen := '-'.toNat
  if label.isEmpty then some .empty
  else if composed label ≠ label then some .notComposed
  else if (label.drop 2).take 2 = [hyphen, hyphen] then some .innerHyphens
  else if label.head? = some hyphen || label.getLast? = some hyphen then some .outerHyphen
  else if label.head?.any isMark then some .leadingMark
  else (characterFault? label [] label).or
    ((directionFault? label).map fun fault => .direction fault label)

/-- A label without faults. -/
def checkLabel (label : List Nat) : Except LabelFault Unit :=
  match labelFault? label with
  | some fault => .error fault
  | none => .ok ()

/-! ## Spellings -/

/-- The mark of a label beyond ASCII. -/
def spellingMark : List Char := ['x', 'n', '-', '-']

/-- What is wrong with a label in ASCII. One with the mark has to be the spelling of a label. -/
def readLabel (cs : List Char) : Except LabelFault Unit := do
  let cs := cs.map Char.toLower
  if !spellingMark.isPrefixOf cs then checkLabel (cs.map Char.toNat)
  else
    let spelling := cs.drop spellingMark.length
    if spelling.isEmpty then throw .noSpelling
    if spelling.getLast? = some '-' then throw .lastHyphen
    let (plain, digits) := Punycode.split spelling
    match Punycode.decode Punycode.strict (plain.map Char.toNat) digits with
    | some label => checkLabel label
    | none => throw .badSpelling

/-- The greatest length of a label in ASCII. -/
def longestLabel : Nat := 63

/-- A label in ASCII, unless something is wrong with it. The spelling is no shorter than the label
itself. -/
def spelled? (cs : List Char) : Option (List Char) :=
  if longestLabel < cs.length then none
  else
    let codes := cs.map Char.toNat
    let (sound, spelling) :=
      if cs.all (·.toNat < 128) then (readLabel cs, cs)
      else (checkLabel codes, spellingMark ++ Punycode.encode codes)
    if sound.isOk && spelling.length ≤ longestLabel then some spelling else none

end ClientGen.Http
