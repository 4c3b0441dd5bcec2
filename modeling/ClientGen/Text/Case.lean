import ClientGen.Text.CaseTable

/-!
# Letter case

Changing the case of a text by the full rules of the standard: a letter may turn into several
([lowerForm], [upperForm]), and a capital sigma has a form of its own at the end of a word
([lower]). [isUpperText] says that a text is written in capitals. Plain letters are decided without
the tables.
-/

namespace ClientGen.Text

/-! ## Properties of a character -/

/-- Whether a character is a lower-case letter. -/
def isLower (c : Char) : Bool :=
  if c.toNat < 128 then c.isLower else Span.covers lowerCaseTable c

/-- Whether a character is an upper-case letter. -/
def isUpper (c : Char) : Bool :=
  if c.toNat < 128 then c.isUpper else Span.covers upperCaseTable c

/-- Whether a character is a title-case letter, a capital followed by a small letter in one sign. -/
def isTitle (c : Char) : Bool :=
  c.toNat ≥ 128 && Span.covers titleCaseTable c

/-- Whether a character has a case. -/
def isCased (c : Char) : Bool :=
  isLower c || isUpper c || isTitle c

/-- Whether a character is passed over when the neighbours of a sigma are looked for. The five plain
ones are the apostrophe, the full stop, the colon, the circumflex and the grave accent. -/
def isCaseIgnorable (c : Char) : Bool :=
  if c.toNat < 128 then [0x27, 0x2E, 0x3A, 0x5E, 0x60].contains c.toNat
  else Span.covers caseIgnorableTable c

/-! ## Case of a text -/

/-- The lower-case form of a character, the sigma rule apart. A dotted capital i keeps its dot. -/
def lowerForm (c : Char) : List Char :=
  if c.toNat < 128 then [c.toLower]
  else if c = '\u0130' then ['i', '\u0307']
  else [(Shift.find? toLowerTable c).getD c]

/-- The upper-case form of a character. -/
def upperForm (c : Char) : List Char :=
  if c.toNat < 128 then [c.toUpper]
  else match longUpperTable.find? (·.1 == c.toNat) with
    | some (_, form) => form.map Char.ofNat
    | none => [(Shift.find? toUpperTable c).getD c]

/-- Whether the first character that is not passed over has a case. -/
def startsCased (cs : List Char) : Bool :=
  match cs.dropWhile isCaseIgnorable with
  | [] => false
  | c :: _ => isCased c

/-- Lower case, where `inWord` says that the last character that is not passed over has a case. A
capital sigma at the end of a word takes its final form. -/
def lowerChars (inWord : Bool) : List Char → List Char
  | [] => []
  | c :: rest =>
    let form := if c = 'Σ' then [if inWord && !startsCased rest then 'ς' else 'σ'] else lowerForm c
    form ++ lowerChars (if isCaseIgnorable c then inWord else isCased c) rest

/-- A text in lower case. -/
def lower (s : String) : String :=
  String.ofList (lowerChars false s.toList)

/-- A text in upper case. -/
def upper (s : String) : String :=
  String.ofList (s.toList.flatMap upperForm)

/-- Whether a text is written in capitals: it has some, and no lower-case or title-case letter. -/
def isUpperText (s : String) : Bool :=
  s.toList.any isUpper && s.toList.all fun c => !(isLower c || isTitle c)

end ClientGen.Text
