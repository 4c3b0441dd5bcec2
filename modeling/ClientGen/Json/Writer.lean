import ClientGen.Value.Display

/-!
# Writing JSON

[write] spreads lists and mappings over lines, indented by two more spaces at each level. Characters
beyond the plain ones stand as they are, and dates, moments and keys are written as texts. It is for
values that have texts.
-/

namespace ClientGen.Json

/-- A character inside quotes. -/
def writtenChar (c : Char) : List Char :=
  if c = '"' || c = '\\' then ['\\', c]
  else if c = '\n' then ['\\', 'n']
  else if c = '\r' then ['\\', 'r']
  else if c = '\t' then ['\\', 't']
  else if c = '\x0c' then ['\\', 'f']
  else if c = '\x08' then ['\\', 'b']
  else if c.toNat < 0x20 then '\\' :: 'u' :: hexText 4 c.toNat
  else [c]

/-- A text in quotes. -/
def writtenText (s : String) : String :=
  String.ofList ('"' :: s.toList.flatMap writtenChar ++ ['"'])

/-- A truth value. -/
def writtenBool (b : Bool) : String := if b then "true" else "false"

/-- A key, as a text in quotes. -/
def writtenKey : Key → String
  | .null => writtenText "null"
  | .bool b => writtenText (writtenBool b)
  | .double d => writtenText (d.text Double.documentLayout)
  | k => writtenText k.asText

/-- A line break and the spaces of a level. -/
def newLine (level : Nat) : String :=
  String.ofList ('\n' :: List.replicate (2 * level) ' ')

/-- Parts on lines of their own between two brackets. -/
def block (opening closing : String) (level : Nat) (parts : List String) : String :=
  if parts.isEmpty then opening ++ closing
  else
    opening ++ newLine (level + 1) ++ ("," ++ newLine (level + 1)).intercalate parts ++
      newLine level ++ closing

mutual

/-- A value at a level. -/
def writeAt (level : Nat) : Value → String
  | .null => "null"
  | .bool b => writtenBool b
  | .int n => toString n
  | .double d => d.text Double.documentLayout
  | .text s => writtenText s
  | .date d => writtenText d.text
  | .moment m => writtenText m.text
  | .bytes bs => writtenText (Value.bytes bs).asText
  | .set members => writtenText (Value.set members).asText
  | .tuple items => block "[" "]" level (writeItems (level + 1) items)
  | .list items => block "[" "]" level (writeItems (level + 1) items)
  | .map entries => block "\x7b" "\x7d" level (writeEntries (level + 1) entries)

/-- The items of a list. -/
def writeItems (level : Nat) : List Value → List String
  | [] => []
  | v :: rest => writeAt level v :: writeItems level rest

/-- The pairs of a mapping. -/
def writeEntries (level : Nat) : List (Key × Value) → List String
  | [] => []
  | (k, v) :: rest => (writtenKey k ++ ": " ++ writeAt level v) :: writeEntries level rest

end

/-- The JSON text of a value. -/
def write (v : Value) : String := writeAt 0 v

end ClientGen.Json
