import ClientGen.Http.Label
import ClientGen.Text.Case
import ClientGen.Text.Pieces

/-!
# Hosts

What a URL may name as its host: an address of four numbers, an address of eight groups in brackets,
or a name. What looks like one of the addresses has to be one. A name in ASCII may be any, unless it
is spelled for one beyond ASCII ([spellingFault?]); one beyond ASCII is made of labels that can be
spelled ([isName]).
-/

namespace ClientGen.Http

open Text

/-! ## Addresses of four numbers -/

/-- The states of [looksNumeric] behind a character. An even state waits for the first digit of a
number; an odd one is inside a number, and any character may end one that is not the last. -/
def numericStates (c : Char) (states : List Nat) : List Nat :=
  (states.flatMap fun s =>
    if s % 2 = 0 then (if c.isDigit then [s + 1] else [])
    else (if c.isDigit then [s] else []) ++ (if s < 7 then [s + 1] else [])).eraseDups

/-- Whether a host is four numbers with a character between each two of them. -/
def looksNumeric (host : List Char) : Bool :=
  (host.foldl (fun states c => numericStates c states) [0]).contains 7

/-- Whether a text is a number of one byte, without needless zeros. -/
def isOctet (cs : List Char) : Bool :=
  !cs.isEmpty && cs.length ≤ 3 && cs.all Char.isDigit && (cs == ['0'] || cs.head? != some '0') &&
    cs.foldl (fun n c => 10 * n + (c.toNat - '0'.toNat)) 0 ≤ 255

/-- Whether a text is an address of four numbers. -/
def isAddress4 (cs : List Char) : Bool :=
  let parts := pieces '.' cs
  parts.length = 4 && parts.all isOctet

/-! ## Addresses of eight groups -/

/-- Whether a text is a group of an address. -/
def isGroup (cs : List Char) : Bool :=
  !cs.isEmpty && cs.length ≤ 4 && cs.all fun c =>
    c.isDigit || ('a' ≤ c.toLower && c.toLower ≤ 'f')

/-- The parts of an address between colons, where four numbers at the end stand for two groups. -/
def groupsOf? (address : List Char) : Option (List (List Char)) :=
  let parts := pieces ':' address
  let last := parts.getLast?.getD []
  if parts.length < 3 then none
  else if !last.contains '.' then some parts
  else if isAddress4 last then some (parts.dropLast ++ [['0'], ['0']])
  else none

/-- The groups on one side of a gap; there are none if the gap is at the end of the address. -/
def beside (side : List (List Char)) : List (List Char) :=
  if side = [[]] then [] else side

/-- Whether the parts of an address are eight groups, or fewer around a single gap. -/
def areGroups (parts : List (List Char)) : Bool :=
  let gaps := (List.range parts.length).filter fun i =>
    0 < i && i + 1 < parts.length && (parts[i]?.getD []).isEmpty
  match gaps with
  | [] => parts.length = 8 && parts.all isGroup
  | [gap] =>
    let groups := beside (parts.take gap) ++ beside (parts.drop (gap + 1))
    groups.length ≤ 7 && groups.all isGroup
  | _ => false

/-- Whether a text is an address of eight groups, with a zone behind a percent sign or without. -/
def isAddress6 (cs : List Char) : Bool :=
  let address := cs.takeWhile (· != '%')
  let zoned := match cs.dropWhile (· != '%') with
    | [] => true
    | _ :: zone => !zone.isEmpty && !zone.contains '%'
  zoned && ((groupsOf? address).map areGroups).getD false

/-! ## Names -/

/-- The greatest length of a name in ASCII, without a point at its end. -/
def longestName : Nat := 253

/-- The labels of a name without the point at its end, and whether there is one. -/
def labelsOf (name : List Char) : List (List Char) × Bool :=
  let point := fun c => if c = '。' || c = '．' || c = '｡' then '.' else c
  let labels := pieces '.' (name.map point)
  if labels.getLast? = some [] then (labels.dropLast, true) else (labels, false)

/-- Whether a text beyond ASCII is the name of a host: each of its labels has a spelling in ASCII,
and together they are short enough. -/
def isName (host : String) : Bool :=
  let (labels, _) := labelsOf (lower host).toList
  match labels.mapM spelled? with
  | none => false
  | some spellings =>
    spellings.flatten.length + (spellings.length - 1) ≤ longestName

/-- The signs that stand for themselves in a name in ASCII, besides letters and digits. -/
def plainSigns : List Char := "-._~!$&'()*+,;=\"`\x7b\x7d%|\\".toList

/-- A name in ASCII as it is asked for: in small letters, and with other signs escaped. -/
def requestedName (host : List Char) : List Char :=
  host.flatMap fun c =>
    if c.isAlphanum || plainSigns.contains c then [c.toLower]
    else '%' :: (hexText 2 c.toNat).map Char.toUpper

/-- What is wrong with the labels of a name in ASCII whose first label has the mark of a spelling,
if anything. Other names in ASCII may have any labels. -/
def spellingFault? (host : List Char) : Option LabelFault :=
  let name := requestedName host
  if host.all (·.toNat < 128) && spellingMark.isPrefixOf name then
    match (labelsOf name).1.mapM readLabel with
    | .error fault => some fault
    | .ok _ => none
  else none

/-! ## Hosts -/

/-- What is wrong with a host. -/
inductive HostFault where
  | badAddress4
  | badAddress6
  | badName
  deriving DecidableEq, Repr

/-- What is wrong with the host of a URL, if anything. -/
def hostFault? (host : String) : Option HostFault :=
  let cs := host.toList
  if cs.isEmpty then none
  else if looksNumeric cs then if isAddress4 cs then none else some .badAddress4
  else if 1 < cs.length && cs.head? = some '[' && cs.getLast? = some ']' then
    if isAddress6 (cs.drop 1).dropLast then none else some .badAddress6
  else if cs.all (·.toNat < 128) || isName host then none
  else some .badName

end ClientGen.Http
