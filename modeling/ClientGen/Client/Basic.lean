import ClientGen.Api.Basic
import ClientGen.Text.Order

/-!
# The generated client

What is rendered: models with their properties, and groups of operations with their parameters and
responses. Every type is named as in the target language, and every member has its name there beside
the name that the API description gives it. Imports are sets of short names.
-/

namespace ClientGen.Client

open Api

/-- An annotation that validates a property or a parameter. -/
inductive Annotation where
  | notNull
  | valid
  | size (least greatest : Option Int)
  | pattern (expression : String)
  | decimalMin (bound : Number) (exclusive : Bool)
  | decimalMax (bound : Number) (exclusive : Bool)
  deriving DecidableEq, Repr

/-- A property of a model. -/
structure Property where
  name : String
  /-- The name in the description. -/
  baseName : String
  datatype : String
  /-- The target type, without its container. -/
  baseType : String
  canonicalType : String
  container : Option Container := none
  required : Bool := false
  nullable : Bool := false
  description : Option String := none
  sample : Value := .null
  getter : String
  setter : String
  isModel : Bool := false
  /-- The name of its own enumeration, if only certain values are allowed. -/
  enumName : Option String := none
  allowed : List String := []
  constraints : Constraints := {}
  annotations : List Annotation := []
  deriving Repr, Inhabited

/-- Whether a property has an enumeration of its own. -/
def Property.isEnum (p : Property) : Bool := p.enumName.isSome

/-- A model, one for each schema. -/
structure Model where
  name : String
  classname : String
  description : Option String := none
  parent : Option String := none
  properties : List Property := []
  imports : NameSet := .empty
  deriving Repr, Inhabited

namespace Model

/-- Whether a property has an enumeration of its own. -/
def hasEnums (m : Model) : Bool := m.properties.any (·.isEnum)

/-- The properties that have to be there. -/
def requiredProperties (m : Model) : List Property := m.properties.filter (·.required)

end Model

/-- The mark of what carries or returns nothing. -/
def voidMark : String := "x-java-is-response-void"

/-- The mark of a parameter of a form of several parts. -/
def multipartMark : String := "x-multipart"

/-- A parameter of an operation. -/
structure Parameter where
  name : String
  /-- The name in the description. -/
  baseName : String
  datatype : String
  location : Location
  required : Bool := false
  description : Option String := none
  /-- The default as it is written in code. -/
  default : Option String := none
  isModel : Bool := false
  constraints : Constraints := {}
  annotations : List Annotation := []
  /-- Whether the operation takes a form of several parts. -/
  inMultipart : Bool := false
  deriving Repr, Inhabited

/-- A response of an operation. -/
structure Response where
  code : String
  message : Option String := none
  datatype : Option String := none
  baseType : Option String := none
  container : Option String := none
  /-- Whether it was found to carry nothing. -/
  isVoid : Bool := false
  deriving DecidableEq, Repr, Inhabited

/-- An operation. -/
structure Operation where
  operationId : String
  nickname : String
  method : Method
  /-- The full path. -/
  rawPath : String
  /-- The path from that of the group on, once the operation is in a group. -/
  path : String
  /-- The name of the group. -/
  baseName : String := ""
  summary : Option String := none
  notes : Option String := none
  deprecated : Bool := false
  parameters : List Parameter := []
  responses : List Response := []
  returnType : Option String := none
  returnBaseType : Option String := none
  returnContainer : Option String := none
  /-- The return type as it is written in code. -/
  renderedReturnType : Option String := none
  consumes : List String := []
  produces : List String := []
  isMultipart : Bool := false
  /-- Whether the path from that of the group on is more than nothing. -/
  isSubresource : Bool := false
  imports : NameSet := .empty
  /-- Whether it was found to return nothing. -/
  isVoid : Bool := false
  deriving Repr, Inhabited

/-- Operations that are rendered together. -/
structure Group where
  name : String
  classname : String
  basePath : String := ""
  /-- The base path as it is written in code. -/
  commonPath : String := ""
  operations : List Operation := []
  imports : NameSet := .empty
  deriving Repr, Inhabited

end ClientGen.Client
