/-!
# Faults of a document

A document that does not have the shape that is asked for shows it at one or more places. A [Fault]
is such a place, the steps that lead to it from the outside in, and what is wrong there
([FaultKind]). Each kind has a name and a message.
-/

namespace ClientGen.Document

/-- One step into a document: to a text key of a mapping, or to an item of a list or an integer key
of a mapping. -/
inductive Step where
  | key (name : String)
  | item (index : Int)
  deriving DecidableEq, Repr

/-- What can be wrong at a place. -/
inductive FaultKind where
  /-- A field that has to be there is not. -/
  | missing
  /-- A mapping with the fields of a type is asked for. -/
  | notRecord (type : String)
  | notMapping
  | notList
  | notTuple
  | notSet
  | notText
  /-- A text is given as bytes that are none in UTF-8. -/
  | undecodable
  /-- One of certain texts is asked for. -/
  | notMember (among : List String)
  | notInteger
  | unreadableInteger
  | fractionalInteger
  /-- A number that is beyond the whole numbers that are taken over. -/
  | hugeInteger
  | notFinite
  | notNumber
  | unreadableNumber
  | notTruth
  | unreadableTruth
  /-- A value is refused with words of its own. -/
  | refused (words : String)
  deriving DecidableEq, Repr

/-- Something wrong at a place of a document. -/
structure Fault where
  path : List Step
  kind : FaultKind
  deriving DecidableEq, Repr

namespace FaultKind

/-- Texts in quotes, with commas and a word in front of the last one. -/
def alternatives (among : List String) : String :=
  let shown := among.map fun s => "'" ++ s ++ "'"
  match shown.reverse with
  | [] => ""
  | [only] => only
  | last :: others => ", ".intercalate others.reverse ++ " or " ++ last

/-- The name of a kind. -/
def name : FaultKind → String
  | missing => "missing"
  | notRecord _ => "model_type"
  | notMapping => "dict_type"
  | notList => "list_type"
  | notTuple => "tuple_type"
  | notSet => "set_type"
  | notText => "string_type"
  | undecodable => "string_unicode"
  | notMember _ => "enum"
  | notInteger => "int_type"
  | unreadableInteger => "int_parsing"
  | fractionalInteger => "int_from_float"
  | hugeInteger => "int_parsing_size"
  | notFinite => "finite_number"
  | notNumber => "float_type"
  | unreadableNumber => "float_parsing"
  | notTruth => "bool_type"
  | unreadableTruth => "bool_parsing"
  | refused _ => "value_error"

/-- The message for a kind. -/
def message : FaultKind → String
  | missing => "Field required"
  | notRecord type => "Input should be a valid dictionary or instance of " ++ type
  | notMapping => "Input should be a valid dictionary"
  | notList => "Input should be a valid list"
  | notTuple => "Input should be a valid tuple"
  | notSet => "Input should be a valid set"
  | notText => "Input should be a valid string"
  | undecodable =>
    "Input should be a valid string, unable to parse raw data as a unicode string"
  | notMember among => "Input should be " ++ alternatives among
  | notInteger => "Input should be a valid integer"
  | unreadableInteger => "Input should be a valid integer, unable to parse string as an integer"
  | fractionalInteger => "Input should be a valid integer, got a number with a fractional part"
  | hugeInteger => "Unable to parse input string as an integer, exceeded maximum size"
  | notFinite => "Input should be a finite number"
  | notNumber => "Input should be a valid number"
  | unreadableNumber => "Input should be a valid number, unable to parse string as a number"
  | notTruth => "Input should be a valid boolean"
  | unreadableTruth => "Input should be a valid boolean, unable to interpret input"
  | refused words => "Value error, " ++ words

end FaultKind

end ClientGen.Document
