import ClientGen.Http.Host
import ClientGen.Number.Reader
import ClientGen.Text.DigitTable
import ClientGen.Value.Display

/-!
# URLs

What can be told to be wrong with a URL before anything is asked for ([urlFault?]): it is too long,
it holds a control character, or the host or the port in it is none. The host stands between the two
slashes and the path, behind what is said about a user and in front of the port. At last the host is
looked at as it is asked for: its labels are read, and it has to be in ASCII.
-/

namespace ClientGen.Http

/-- What can be wrong with a URL. -/
inductive UrlFault where
  | tooLong
  | unprintable (character : Char) (place : Nat)
  | host (fault : HostFault) (host : String)
  | port (port : String)
  | label (fault : LabelFault)
  /-- Characters of the host from a place on are beyond ASCII, and these are all of them. -/
  | beyondAscii (characters : List Char) (place : Nat)
  deriving DecidableEq, Repr

/-- What a host with a fault was taken for. -/
def HostFault.words : HostFault → String
  | badAddress4 => "IPv4 address"
  | badAddress6 => "IPv6 address"
  | badName => "IDNA hostname"

/-- The words for a fault. -/
def UrlFault.words : UrlFault → String
  | tooLong => "URL too long"
  | unprintable c place =>
    "Invalid non-printable ASCII character in URL, " ++ quoted c.toString ++ " at position " ++
      toString place ++ "."
  | host fault h => "Invalid " ++ fault.words ++ ": " ++ quoted h
  | port p => "Invalid port: " ++ quoted p
  | label fault => fault.words
  | beyondAscii cs place =>
    let what := match cs with
      | [c] => "character '" ++ String.ofList (escapedCode c.toNat) ++ "' in position " ++
          toString place
      | cs => "characters in position " ++ toString place ++ "-" ++
          toString (place + cs.length - 1)
    "'ascii' codec can't encode " ++ what ++ ": ordinal not in range(128)"

/-- The greatest length of a URL. -/
def longestUrl : Nat := 65536

/-- The place of the first control character. -/
def controlPlace? (cs : List Char) : Option Nat :=
  cs.findIdx? fun c => c.toNat < 32 || c.toNat = 127

/-- The host and the port, in front of the path and behind what is said about a user. -/
def authorityOf (url : List Char) : List Char :=
  let behind := (url.dropWhile (· != '/')).drop 2
  let authority := behind.takeWhile fun c => !(c = '/' || c = '?' || c = '#')
  (authority.reverse.takeWhile (· != '@')).reverse

/-- The host an authority starts with, and what follows it. Brackets reach as far as they can. -/
def cutHost (authority : List Char) : List Char × List Char :=
  if authority.head? = some '[' && authority.contains ']' then
    let rest := (authority.reverse.takeWhile (· != ']')).reverse
    (authority.take (authority.length - rest.length), rest)
  else (authority.takeWhile (· != ':'), authority.dropWhile (· != ':'))

/-- Whether a text is an integer with a sign or without, and blanks around it. Its digits may be
those of any script. -/
def isPort (cs : List Char) : Bool :=
  let cs := cs.map fun c => (Text.asciiDigit? c).getD c
  let (_, digits) := takeSign (Text.dropEnds Text.isBlank cs)
  let plain := digits.filter (· != '_')
  !plain.isEmpty && plain.all Char.isDigit && groupsDigits digits && plain.length ≤ longestInt

/-- What is wrong with a host when it is asked for, if anything. Only the zone of an address may be
beyond ASCII here. -/
def requestFault? (host : List Char) : Option UrlFault :=
  let isBeyond := fun c : Char => 128 ≤ c.toNat
  if host.head? = some '[' && host.any isBeyond then
    let place := host.findIdx isBeyond
    some (.beyondAscii ((host.drop place).takeWhile isBeyond) place)
  else (spellingFault? host).map .label

/-- What is wrong with a URL, if anything. -/
def urlFault? (url : String) : Option UrlFault :=
  let cs := url.toList
  if longestUrl < cs.length then some .tooLong
  else match controlPlace? cs with
    | some place => some (.unprintable (cs[place]?.getD ' ') place)
    | none =>
      let (host, rest) := cutHost (authorityOf cs)
      let port := match rest with
        | ':' :: port => port
        | rest => rest
      match hostFault? (String.ofList host) with
      | some fault => some (.host fault (String.ofList host))
      | none =>
        if port.isEmpty || isPort port then requestFault? host
        else some (.port (String.ofList port))

end ClientGen.Http
