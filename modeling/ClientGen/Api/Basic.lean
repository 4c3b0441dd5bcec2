import ClientGen.Value.Basic

/-!
# The description of an API

What an HTTP API offers, apart from any target language: operations with their parameters and
responses, and schemas with their properties. A type is named by a text, either a canonical type
(a text, a date, a long integer) or a schema of the description; a container around it makes it the
type of the elements of a list or of the values of a map.
-/

namespace ClientGen.Api

/-! ## Enumerations -/

/-- The methods of HTTP requests. -/
inductive Method where
  | get | post | put | patch | delete | head | options | trace
  deriving DecidableEq, Repr, Inhabited

/-- Every method. -/
def Method.all : List Method := [.get, .post, .put, .patch, .delete, .head, .options, .trace]

/-- The name of a method, in small letters. -/
def Method.name : Method → String
  | .get => "get"
  | .post => "post"
  | .put => "put"
  | .patch => "patch"
  | .delete => "delete"
  | .head => "head"
  | .options => "options"
  | .trace => "trace"

/-- The name of a method in capitals, as a request has it. -/
def Method.verb : Method → String
  | .get => "GET"
  | .post => "POST"
  | .put => "PUT"
  | .patch => "PATCH"
  | .delete => "DELETE"
  | .head => "HEAD"
  | .options => "OPTIONS"
  | .trace => "TRACE"

/-- The part of a request in which a parameter is sent. -/
inductive Location where
  | path | query | header | cookie | body | form
  deriving DecidableEq, Repr, Inhabited

/-- Every part of a request. -/
def Location.all : List Location := [.path, .query, .header, .cookie, .body, .form]

/-- The name of a part of a request. -/
def Location.name : Location → String
  | .path => "path"
  | .query => "query"
  | .header => "header"
  | .cookie => "cookie"
  | .body => "body"
  | .form => "form"

/-- What is around a type. -/
inductive Container where
  | array | map
  deriving DecidableEq, Repr, Inhabited

/-- Both containers. -/
def Container.all : List Container := [.array, .map]

/-- The name of a container. -/
def Container.name : Container → String
  | .array => "array"
  | .map => "map"

/-- The container of a name. -/
def Container.ofName? (name : String) : Option Container :=
  Container.all.find? (·.name == name)

/-! ## Records -/

/-- What the values of a property or parameter have to satisfy. -/
structure Constraints where
  minLength : Option Int := none
  maxLength : Option Int := none
  pattern : Option String := none
  minimum : Option Number := none
  maximum : Option Number := none
  exclusiveMinimum : Bool := false
  exclusiveMaximum : Bool := false
  minItems : Option Int := none
  maxItems : Option Int := none
  deriving DecidableEq, Repr, Inhabited

/-- Whether nothing has to be satisfied. That a bound is exclusive means nothing without it. -/
def Constraints.isEmpty (c : Constraints) : Bool :=
  c.minLength.isNone && c.maxLength.isNone && c.pattern.isNone && c.minimum.isNone &&
    c.maximum.isNone && c.minItems.isNone && c.maxItems.isNone

/-- A property of a schema. -/
structure Property where
  name : String
  type : String := "string"
  container : Option Container := none
  required : Bool := false
  nullable : Bool := false
  description : Option String := none
  sample : Value := .null
  /-- The texts that are allowed, if only certain ones are. -/
  allowed : Option (List String) := none
  constraints : Constraints := {}
  deriving Repr, Inhabited

/-- A named record type. -/
structure Schema where
  name : String
  description : Option String := none
  parent : Option String := none
  properties : List Property := []
  /-- Short names to import that the schema brings along. -/
  imports : List String := []
  deriving Repr, Inhabited

/-- A parameter of an operation. -/
structure Parameter where
  name : String
  location : Location
  type : String := "string"
  container : Option Container := none
  required : Bool := false
  description : Option String := none
  default : Value := .null
  constraints : Constraints := {}
  deriving Repr, Inhabited

/-- A response of an operation. The code `0` stands for every code that is not listed. -/
structure Response where
  code : String := "200"
  description : Option String := none
  type : Option String := none
  container : Option Container := none
  deriving DecidableEq, Repr, Inhabited

/-- An operation: a method on a path. -/
structure Operation where
  operationId : Option String := none
  method : Method
  path : String
  tags : List String := []
  summary : Option String := none
  description : Option String := none
  parameters : List Parameter := []
  responses : List Response := []
  consumes : List String := []
  produces : List String := []
  deprecated : Bool := false
  deriving Repr, Inhabited

/-- An API. -/
structure Description where
  title : String
  version : String := "1.0.0"
  description : Option String := none
  basePath : String := "/"
  operations : List Operation := []
  schemas : List Schema := []
  deriving Repr, Inhabited

end ClientGen.Api
