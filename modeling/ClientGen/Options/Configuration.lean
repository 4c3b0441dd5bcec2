import ClientGen.Document.Reader
import ClientGen.Text.Blank

/-!
# The configuration of a run

The values of all options of a run, and the switches that its parts depend on. A part gets only the
switches that it may look at: those for models ([ModelFeatures]), those for operations
([OperationFeatures]) and those for the generated tests ([ScaffoldFeatures]).
-/

namespace ClientGen

/-! ## Option names -/

/-- The option for validation annotations. -/
def beanValidationOption : String := "use-bean-validation"

/-- The option for a generic return type. -/
def genericResponseOption : String := "use-generic-response"

/-- The option for compressed messages in tests. -/
def gzipForTestsOption : String := "use-gzip-feature-for-tests"

/-- The option for logged messages in tests. -/
def loggingForTestsOption : String := "use-logging-feature-for-tests"

/-- The option for the family of JSON annotations. -/
def jsonMappingOption : String := "json-mapping-mode"

/-- The option for serializable models. -/
def serializableModelOption : String := "serializable-model"

/-! ## Switches -/

/-- The family of JSON annotations on models. -/
inductive JsonMapping where
  | jackson
  | jsonb
  deriving DecidableEq, Repr, Inhabited

/-- Both families. -/
def JsonMapping.all : List JsonMapping := [.jackson, .jsonb]

/-- The name of a family. -/
def JsonMapping.name : JsonMapping → String
  | .jackson => "jackson"
  | .jsonb => "jsonb"

/-- The words for a switch that is on. -/
def onWords : List String := ["true", "1", "yes", "on"]

/-- Whether a raw value turns a switch on: a number does unless it is zero, and a text if it is one
of the words, in any case and with blanks around it. -/
def turnsOn : Value → Bool
  | .bool b => b
  | .int n => n != 0
  | .double d => !d.isZero
  | .null => false
  | v => onWords.contains (Text.lower (Text.trim v.asText))

/-- Why it cannot be told whether a raw value turns a switch on. Of a number no text is needed. -/
def switchFault? : Value → Option TextFault
  | .int _ => none
  | v => v.textFault?

/-- The switches for models. -/
structure ModelFeatures where
  beanValidation : Bool := false
  jsonMapping : JsonMapping := .jackson
  serializable : Bool := false
  deriving DecidableEq, Repr, Inhabited

/-- The switches for operations. -/
structure OperationFeatures where
  genericResponse : Bool := false
  beanValidation : Bool := false
  deriving DecidableEq, Repr, Inhabited

/-- The switches for the generated tests. -/
structure ScaffoldFeatures where
  gzip : Bool := false
  logging : Bool := false
  jsonMapping : JsonMapping := .jackson
  deriving DecidableEq, Repr, Inhabited

open Document in
/-- The switches for models, given as a document. -/
def ModelFeatures.read : Reader ModelFeatures := record "ModelFeatures" fun o =>
  ModelFeatures.mk
    <$> optional o "use_bean_validation" false truth
    <*> optional o "json_mapping" .jackson (member JsonMapping.all JsonMapping.name)
    <*> optional o "serializable_model" false truth

open Document in
/-- The switches for operations, given as a document. -/
def OperationFeatures.read : Reader OperationFeatures := record "OperationFeatures" fun o =>
  OperationFeatures.mk
    <$> optional o "use_generic_response" false truth
    <*> optional o "use_bean_validation" false truth

/-! ## Configurations -/

/-- The configuration of a run. -/
structure Configuration where
  /-- The value of every option, of every mode and legacy mode, and of the undeclared options. -/
  values : List (String × Value) := []
  beanValidation : Bool := false
  genericResponse : Bool := false
  gzipForTests : Bool := false
  loggingForTests : Bool := false
  jsonMapping : JsonMapping := .jackson
  serializableModel : Bool := false
  warnings : List String := []
  deriving Repr, Inhabited

namespace Configuration

/-- The value of an option, or a default. -/
def get (c : Configuration) (name : String) (default : Value) : Value :=
  (c.values.lookup name).getD default

/-- The values as raw values. -/
def asRaw (c : Configuration) : List (Key × Value) :=
  c.values.map fun (name, v) => (.text name, v)

/-- The switches for models. -/
def modelFeatures (c : Configuration) : ModelFeatures where
  beanValidation := c.beanValidation
  jsonMapping := c.jsonMapping
  serializable := c.serializableModel

/-- The switches for operations. -/
def operationFeatures (c : Configuration) : OperationFeatures where
  genericResponse := c.genericResponse
  beanValidation := c.beanValidation

/-- The switches for the generated tests. -/
def scaffoldFeatures (c : Configuration) : ScaffoldFeatures where
  gzip := c.gzipForTests
  logging := c.loggingForTests
  jsonMapping := c.jsonMapping

end Configuration

end ClientGen
