import ClientGen.Number.Double
import ClientGen.Text.Blank

/-!
# Numbers written as text

[Double.ofText?] reads a decimal number with a point and an exponent, an infinity or what is not a
number, and [intOfText] an integer; both pass over blanks at the ends. Digits may be grouped by
single underscores. An integer may have a fraction of zeros, and zeros at its start, behind which
its minus sign may stand.
-/

namespace ClientGen

/-! ## Decimal digits -/

/-- The number that decimal digits stand for. -/
def digitsValue (cs : List Char) : Nat :=
  cs.foldl (fun n c => 10 * n + (c.toNat - '0'.toNat)) 0

/-- The sign at the start of a number, and what follows it. -/
def takeSign : List Char → Bool × List Char
  | '-' :: rest => (true, rest)
  | '+' :: rest => (false, rest)
  | cs => (false, cs)

/-- The digits at the start of a text, and what follows them. -/
def takeDigits (cs : List Char) : List Char × List Char :=
  (cs.takeWhile Char.isDigit, cs.dropWhile Char.isDigit)

/-- The double with the given digits before and after the point, times a power of ten. -/
def Double.ofDigits (negative : Bool) (whole fraction : List Char) (exponent : Int) : Double :=
  ofDecimal negative (digitsValue (whole ++ fraction)) (exponent - fraction.length)

/-- An exponent that takes up all of a text; an empty text stands for zero. -/
def exponentOfText? : List Char → Option Int
  | [] => some 0
  | c :: rest =>
    if c = 'e' || c = 'E' then
      let (negative, digits) := takeSign rest
      if digits.isEmpty || !digits.all Char.isDigit then none
      else some (if negative then -(digitsValue digits : Int) else digitsValue digits)
    else none

/-! ## Texts that are numbers -/

/-- White space around a number: that of texts, the separators of files and records apart. -/
def isMargin (c : Char) : Bool :=
  Text.isBlank c && !(28 ≤ c.toNat && c.toNat ≤ 31)

/-- The double that a text without margins and underscores stands for. -/
def Double.ofPlainText? (cs : List Char) : Option Double :=
  let (negative, body) := takeSign cs
  let word := String.ofList (body.map Char.toLower)
  if word = "inf" || word = "infinity" then some (.infinite negative)
  else if word = "nan" then some .nan
  else
    let (whole, rest) := takeDigits body
    let (fraction, rest) := match rest with
      | '.' :: rest => takeDigits rest
      | rest => ([], rest)
    if whole.isEmpty && fraction.isEmpty then none
    else (exponentOfText? rest).map (ofDigits negative whole fraction)

/-- Whether every underscore of a text stands alone and not at an end. -/
def groupsDigits : List Char → Bool
  | [] => true
  | '_' :: _ => false
  | _ :: '_' :: rest => !rest.isEmpty && groupsDigits rest
  | _ :: rest => groupsDigits rest

/-- The double that a text stands for. -/
def Double.ofText? (s : String) : Option Double :=
  match ofPlainText? (Text.dropEnds isMargin s.toList) with
  | some d => some d
  | none =>
    if s.toList.contains '_' && groupsDigits s.toList then
      ofPlainText? (s.toList.filter (· != '_'))
    else none

/-! ## Texts that are integers -/

/-- Why a text is no integer. -/
inductive IntFault where
  | malformed
  /-- It has more digits than are read. -/
  | tooLong
  deriving DecidableEq, Repr

/-- The greatest number of characters of an integer, its minus sign included. -/
def longestInt : Nat := 4300

/-- What is left of an integer behind a zero at its start, which is the last character read. Further
zeros are left out with the underscores between them; in front of a point, or if nothing follows,
the last character stays. -/
def dropZeros? (last : Char) : List Char → Option (List Char)
  | [] => some [last]
  | c :: rest =>
    if c = '0' || c = '_' then dropZeros? c rest
    else if c = '.' then some (last :: c :: rest)
    else if c.isDigit || c = '-' then some (c :: rest)
    else none

/-- An integer without the zeros at its start. A minus sign may stand behind them. -/
def significant? : List Char → Option (List Char)
  | [] => none
  | c :: rest =>
    if c = '0' then dropZeros? c rest
    else if c.isDigit || c = '-' then some (c :: rest)
    else none

/-- An integer without its fraction, which has to be one of zeros. -/
def dropFraction? (cs : List Char) : Option (List Char) :=
  match cs.dropWhile (· != '.') with
  | [] => some cs
  | _ :: zeros =>
    if !zeros.isEmpty && zeros.all (· == '0') then some (cs.takeWhile (· != '.')) else none

/-- An integer of a sign and digits, of which the first one is no zero unless it stands alone. -/
def plainInt (cs : List Char) : Except IntFault Int :=
  let (negative, body) := match cs with
    | '-' :: rest => (true, rest)
    | cs => (false, cs)
  let (digits, rest) := takeDigits body
  if digits.isEmpty || (digits.head? = some '0' && 1 < digits.length) then .error .malformed
  else if longestInt < digits.length + (if negative then 1 else 0) then .error .tooLong
  else if !rest.isEmpty then .error .malformed
  else .ok (if negative then -(digitsValue digits : Int) else digitsValue digits)

/-- The integer that a text stands for. -/
def intOfText (s : String) : Except IntFault Int :=
  let cs := Text.dropEnds isMargin s.toList
  let cs := if cs.head? = some '+' then (if cs[1]? = some '-' then [] else cs.drop 1) else cs
  let (sign, body) := match cs with
    | '-' :: rest => (['-'], rest)
    | cs => ([], cs)
  match (significant? body).bind dropFraction? with
  | none => .error .malformed
  | some digits =>
    plainInt (sign ++ if groupsDigits digits then digits.filter (· != '_') else digits)

end ClientGen
