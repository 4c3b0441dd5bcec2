import ClientGen.Assoc
import ClientGen.Number.Double
import ClientGen.Value.Calendar

/-!
# Document values

What a JSON or YAML document holds, and what an option may be set to. The keys of a mapping and the
members of a set are scalars ([Key]); they are compared as numbers where both are numbers, so that
`true`, `1` and `1.0` are one key ([Key.same]). The pairs of a mapping stand in the order in which
their keys came first.
-/

namespace ClientGen

/-- A key of a mapping. -/
inductive Key where
  | null
  | bool (b : Bool)
  | int (n : Int)
  | double (d : Double)
  | text (s : String)
  | date (d : Date)
  | moment (m : Moment)
  | bytes (bs : List UInt8)
  deriving DecidableEq, Repr, Inhabited

/-- A document value. -/
inductive Value where
  | null
  | bool (b : Bool)
  | int (n : Int)
  | double (d : Double)
  | text (s : String)
  | date (d : Date)
  | moment (m : Moment)
  | bytes (bs : List UInt8)
  | list (items : List Value)
  /-- Items that belong together, such as a key and its value. -/
  | tuple (items : List Value)
  | set (members : List Key)
  | map (entries : List (Key × Value))
  deriving Inhabited, Repr

namespace Key

/-- The integer that a key stands for, if it is a whole number or a truth value. -/
def wholeNumber? : Key → Option Int
  | .bool b => some (if b then 1 else 0)
  | .int n => some n
  | .double d => d.toInt?
  | _ => none

/-- Whether two keys are one key of a mapping. -/
def same (a b : Key) : Bool :=
  match a.wholeNumber?, b.wholeNumber? with
  | some m, some n => m == n
  | none, none => match a, b with
    | .moment m, .moment n => m.same n
    | a, b => a == b
  | _, _ => false

instance : BEq Key := ⟨same⟩

/-- A text is the same key as no other key. -/
theorem exact_text (s : String) : Assoc.Exact (text s) := by
  intro k
  have hleft : (text s == k) = same (text s) k := rfl
  have hright : (k == text s) = same k (text s) := rfl
  rw [hleft, hright]
  cases k with
  | double d => cases hd : d.toInt? <;> simp [same, wholeNumber?, hd]
  | text t => simp [same, wholeNumber?, @eq_comm _ s t]
  | _ => simp [same, wholeNumber?]

/-- The text of a key that is a text. -/
def text? : Key → Option String
  | .text s => some s
  | _ => none

/-- The key as a value. -/
def toValue : Key → Value
  | .null => .null
  | .bool b => .bool b
  | .int n => .int n
  | .double d => .double d
  | .text s => .text s
  | .date d => .date d
  | .moment m => .moment m
  | .bytes bs => .bytes bs

end Key

namespace Value

/-- The scalars are the values that can be keys. -/
def toKey? : Value → Option Key
  | .null => some .null
  | .bool b => some (.bool b)
  | .int n => some (.int n)
  | .double d => some (.double d)
  | .text s => some (.text s)
  | .date d => some (.date d)
  | .moment m => some (.moment m)
  | .bytes bs => some (.bytes bs)
  | .list _ => none
  | .tuple _ => none
  | .set _ => none
  | .map _ => none

/-- Whether the value is the absent one. -/
def isNull : Value → Bool
  | .null => true
  | _ => false

/-- Whether the value is a list, a set or a mapping. -/
def isComposite : Value → Bool
  | .list _ => true
  | .set _ => true
  | .map _ => true
  | _ => false

/-- The value at a text key of a mapping. -/
def field? (entries : List (Key × Value)) (name : String) : Option Value :=
  entries.lookup (.text name)

/-- Whether a value counts as true: neither absent, false, zero nor empty. -/
def truth : Value → Bool
  | .null => false
  | .bool b => b
  | .int n => n != 0
  | .double d => !d.isZero
  | .text s => s != ""
  | .date _ => true
  | .moment _ => true
  | .bytes bs => !bs.isEmpty
  | .list items => !items.isEmpty
  | .tuple items => !items.isEmpty
  | .set members => !members.isEmpty
  | .map entries => !entries.isEmpty

/-- The name of the kind of a value, as error messages give it. -/
def kindName : Value → String
  | .null => "NoneType"
  | .bool _ => "bool"
  | .int _ => "int"
  | .double _ => "float"
  | .text _ => "str"
  | .date _ => "date"
  | .moment _ => "datetime"
  | .bytes _ => "bytes"
  | .list _ => "list"
  | .tuple _ => "tuple"
  | .set _ => "set"
  | .map _ => "dict"

end Value

end ClientGen
