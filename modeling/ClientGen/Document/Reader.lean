import ClientGen.Document.Checked
import ClientGen.Number.Reader
import ClientGen.Text.Case
import ClientGen.Text.Utf8

/-!
# Reading typed data from a document

A [Reader] makes a typed value of a document value, or finds its faults. There are readers for
texts, numbers, truth values, members of an enumeration, lists and mappings, and for the fields of a
record ([required], [optional]); a field may have two names ([Name]). Numbers and truth values are
also read from texts and from each other where nothing is lost, and a text may be given as bytes in
UTF-8.
-/

namespace ClientGen.Document

/-- A reader of typed data. -/
abbrev Reader (α : Type) := Value → Checked α

variable {α : Type}

/-! ## Scalars -/

/-- Any value at all. -/
def anything : Reader Value := .sound

/-- What is left to be read of a value: bytes count as the text that they are. If they are none,
what is wanted says what is wrong. -/
def withText (wanted : FaultKind) (r : Reader α) : Reader α
  | .bytes bs => match Text.textOfBytes? bs with
    | some s => r (.text s)
    | none => .fault wanted
  | v => r v

/-- A text that is none of bytes. -/
def plainText : Reader String
  | .text s => .sound s
  | _ => .fault .notText

/-- A text. -/
def text : Reader String := withText .undecodable plainText

/-- The greatest number below which whole doubles are taken over as integers. -/
def wholeLimit : Int := Double.twoTo 63

/-- The integer that a double is. -/
def wholeDouble (d : Double) : Checked Int :=
  match d with
  | .finite .. =>
    match d.toInt? with
    | none => .fault .fractionalInteger
    | some n => if -wholeLimit < n && n < wholeLimit then .sound n else .fault .hugeInteger
  | _ => .fault .notFinite

/-- What is wrong with a text that is no integer. -/
def intFaultKind : IntFault → FaultKind
  | .malformed => .unreadableInteger
  | .tooLong => .hugeInteger

/-- An integer that is not given as bytes. -/
def plainInteger : Reader Int
  | .int n => .sound n
  | .bool b => .sound (if b then 1 else 0)
  | .double d => wholeDouble d
  | .text s => match intOfText s with
    | .ok n => .sound n
    | .error fault => .fault (intFaultKind fault)
  | _ => .fault .notInteger

/-- An integer. -/
def integer : Reader Int := withText .unreadableInteger plainInteger

/-- The faults of what is neither an integer nor a double. -/
def neither (whole : FaultKind) (double : FaultKind) : Checked Number :=
  .faulty [⟨[.key "int"], whole⟩, ⟨[.key "float"], double⟩]

/-- An integer or a double that is not given as bytes. A text that is neither has two faults. -/
def plainNumber : Reader Number
  | .int n => .sound (.int n)
  | .bool b => .sound (.int (if b then 1 else 0))
  | .double d => .sound (.double d)
  | .text s => match intOfText s, Double.ofText? s with
    | .ok n, _ => .sound (.int n)
    | .error _, some d => .sound (.double d)
    | .error fault, none => neither (intFaultKind fault) .unreadableNumber
  | _ => neither .notInteger .notNumber

/-- An integer, or else a double. -/
def number : Reader Number
  | .bytes bs => match Text.textOfBytes? bs with
    | some s => plainNumber (.text s)
    | none => neither .unreadableInteger .unreadableNumber
  | v => plainNumber v

/-- The words for the truth values. -/
def trueWords : List String := ["1", "on", "t", "true", "y", "yes"]

/-- The words for the false value. -/
def falseWords : List String := ["0", "off", "f", "false", "n", "no"]

/-- A truth value that an integer stands for. -/
def truthOfInt (n : Int) : Checked Bool :=
  if n = 0 then .sound false else if n = 1 then .sound true else .fault .unreadableTruth

/-- A truth value that is not given as bytes. -/
def plainTruth : Reader Bool
  | .bool b => .sound b
  | .int n =>
    if -wholeLimit ≤ n && n < wholeLimit then truthOfInt n else .fault .notTruth
  | .double d => match wholeDouble d with
    | .sound n => truthOfInt n
    | .faulty _ => .fault .notTruth
  | .text s =>
    let word := Text.lower s
    if trueWords.contains word then .sound true
    else if falseWords.contains word then .sound false
    else .fault .unreadableTruth
  | _ => .fault .notTruth

/-- A truth value. -/
def truth : Reader Bool := withText .unreadableTruth plainTruth

/-- One of the members of an enumeration, by its name. -/
def member (all : List α) (name : α → String) : Reader α :=
  let other : FaultKind := .notMember (all.map name)
  withText other fun
    | .text s => match all.find? (name · == s) with
      | some a => .sound a
      | none => .fault other
    | _ => .fault other

/-! ## Composites -/

/-- A value that may be absent. -/
def nullable (r : Reader α) : Reader (Option α)
  | .null => .sound none
  | v => some <$> r v

/-- The items of a list from an index on. -/
def items (r : Reader α) (index : Nat) : List Value → Checked (List α)
  | [] => .sound []
  | v :: rest => List.cons <$> (r v).behind (.item index) <*> items r (index + 1) rest

/-- The items of a list, a tuple or a set. -/
def itemsOf (other : FaultKind) (r : Reader α) : Reader (List α)
  | .list vs => items r 0 vs
  | .tuple vs => items r 0 vs
  | .set members => items r 0 (members.map (·.toValue))
  | _ => .fault other

/-- A list, for which a tuple or a set may stand. -/
def list (r : Reader α) : Reader (List α) := itemsOf .notList r

/-- A tuple, for which a list or a set may stand. -/
def tuple (r : Reader α) : Reader (List α) := itemsOf .notTuple r

/-- A set, for which a list or a tuple may stand. -/
def unordered (r : Reader α) : Reader (List α) := itemsOf .notSet r

/-- The step to a key of a mapping. Only an integer of 64 bits counts as an index. -/
def keyStep : Key → Step
  | .text s => .key s
  | .int n =>
    if -wholeLimit ≤ n && n < wholeLimit then .item n
    else .key (if (integerFault? n).isSome then "<unprintable int object>" else toString n)
  | .bool b => .item (if b then 1 else 0)
  | k => .key k.shown

/-- The pairs of a mapping from texts. -/
def pairs (r : Reader α) : List (Key × Value) → Checked (List (String × α))
  | [] => .sound []
  | (k, v) :: rest =>
    let key := (text k.toValue).behind (.key "[key]")
    let pair := (Prod.mk <$> key <*> r v).behind (keyStep k)
    List.cons <$> pair <*> pairs r rest

/-- A mapping from texts. -/
def mapping (r : Reader α) : Reader (List (String × α))
  | .map entries => pairs r entries
  | _ => .fault .notMapping

/-! ## Records -/

/-- The name of a field, in front of which another name is looked for. -/
structure Name where
  /-- The name that is looked for first, and by which a field is missed. -/
  key : String
  /-- The name that stands in for it. -/
  other : String

/-- A field with a single name. -/
instance : Coe String Name := ⟨fun s => ⟨s, s⟩⟩

/-- The value of a field and the name it was found by. -/
def find? (entries : List (Key × Value)) (n : Name) : Option (String × Value) :=
  match Value.field? entries n.key with
  | some v => some (n.key, v)
  | none => (Value.field? entries n.other).map fun v => (n.other, v)

/-- A field that has to be there. -/
def required (entries : List (Key × Value)) (n : Name) (r : Reader α) : Checked α :=
  match find? entries n with
  | some (found, v) => (r v).behind (.key found)
  | none => (Checked.fault .missing).behind (.key n.key)

/-- A field with a default. -/
def optional (entries : List (Key × Value)) (n : Name) (default : α) (r : Reader α) : Checked α :=
  match find? entries n with
  | some (found, v) => (r v).behind (.key found)
  | none => .sound default

/-- A record of a type, made of the fields of a mapping. -/
def record (type : String) (fields : List (Key × Value) → Checked α) : Reader α
  | .map entries => fields entries
  | _ => .fault (.notRecord type)

end ClientGen.Document
