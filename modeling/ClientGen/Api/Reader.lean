import ClientGen.Api.Basic
import ClientGen.Document.Reader

/-!
# Reading an API description from a document

One reader for each record of the description, its fields in the order in which their faults are
reported. A field with two words in its name is found under both spellings, in camel case and with
an underscore. Methods are read in any case, and the code of a response may be a number or the word
for every other code.
-/

namespace ClientGen.Api

open Document

/-! ## Scalars with spellings of their own -/

/-- A method in any case. -/
def readMethod : Reader Method
  | .text s => member Method.all Method.name (.text (Text.lower s))
  | v => member Method.all Method.name v

/-- The code of a response. -/
def readCode : Reader String
  | .bool b => .sound (boolText b)
  | .int n => match integerFault? n with
    | some fault => .fault (.refused fault.words)
    | none => .sound (toString n)
  | .text s => .sound (if s = "default" then "0" else s)
  | v => text v

/-- What is around a type. -/
def readContainer : Reader Container := member Container.all Container.name

/-! ## Records -/

/-- The fields of constraints. -/
def constraintFields (o : List (Key × Value)) : Checked Constraints :=
  Constraints.mk
    <$> optional o ⟨"minLength", "min_length"⟩ none (nullable integer)
    <*> optional o ⟨"maxLength", "max_length"⟩ none (nullable integer)
    <*> optional o "pattern" none (nullable text)
    <*> optional o "minimum" none (nullable number)
    <*> optional o "maximum" none (nullable number)
    <*> optional o ⟨"exclusiveMinimum", "exclusive_minimum"⟩ false truth
    <*> optional o ⟨"exclusiveMaximum", "exclusive_maximum"⟩ false truth
    <*> optional o ⟨"minItems", "min_items"⟩ none (nullable integer)
    <*> optional o ⟨"maxItems", "max_items"⟩ none (nullable integer)

/-- Constraints. -/
def readConstraints : Reader Constraints := record "Constraints" constraintFields

/-- The fields of a property. -/
def propertyFields (o : List (Key × Value)) : Checked Property :=
  Property.mk
    <$> required o "name" text
    <*> optional o "type" "string" text
    <*> optional o "container" none (nullable readContainer)
    <*> optional o "required" false truth
    <*> optional o "nullable" false truth
    <*> optional o "description" none (nullable text)
    <*> optional o "example" .null anything
    <*> optional o ⟨"enum", "enum_values"⟩ none (nullable (list text))
    <*> optional o "constraints" {} readConstraints

/-- A property of a schema. -/
def readProperty : Reader Property := record "PropertyDef" propertyFields

/-- The fields of a schema. -/
def schemaFields (o : List (Key × Value)) : Checked Schema :=
  Schema.mk
    <$> required o "name" text
    <*> optional o "description" none (nullable text)
    <*> optional o "parent" none (nullable text)
    <*> optional o "properties" [] (list readProperty)
    <*> optional o "imports" [] (list text)

/-- A schema. -/
def readSchema : Reader Schema := record "SchemaDef" schemaFields

/-- The fields of a parameter. -/
def parameterFields (o : List (Key × Value)) : Checked Parameter :=
  Parameter.mk
    <$> required o "name" text
    <*> required o ⟨"in", "location"⟩ (member Location.all Location.name)
    <*> optional o "type" "string" text
    <*> optional o "container" none (nullable readContainer)
    <*> optional o "required" false truth
    <*> optional o "description" none (nullable text)
    <*> optional o "default" .null anything
    <*> optional o "constraints" {} readConstraints

/-- A parameter of an operation. -/
def readParameter : Reader Parameter := record "ParameterDef" parameterFields

/-- The fields of a response. -/
def responseFields (o : List (Key × Value)) : Checked Response :=
  Response.mk
    <$> optional o "code" "200" readCode
    <*> optional o "description" none (nullable text)
    <*> optional o "type" none (nullable text)
    <*> optional o "container" none (nullable readContainer)

/-- A response of an operation. -/
def readResponse : Reader Response := record "ResponseDef" responseFields

/-- The fields of an operation. -/
def operationFields (o : List (Key × Value)) : Checked Operation :=
  Operation.mk
    <$> optional o ⟨"operationId", "operation_id"⟩ none (nullable text)
    <*> required o "method" readMethod
    <*> required o "path" text
    <*> optional o "tags" [] (list text)
    <*> optional o "summary" none (nullable text)
    <*> optional o "description" none (nullable text)
    <*> optional o "parameters" [] (list readParameter)
    <*> optional o "responses" [] (list readResponse)
    <*> optional o "consumes" [] (list text)
    <*> optional o "produces" [] (list text)
    <*> optional o "deprecated" false truth

/-- An operation. -/
def readOperation : Reader Operation := record "OperationDef" operationFields

/-- The fields of a description. -/
def descriptionFields (o : List (Key × Value)) : Checked Description :=
  Description.mk
    <$> required o "title" text
    <*> optional o "version" "1.0.0" text
    <*> optional o "description" none (nullable text)
    <*> optional o ⟨"basePath", "base_path"⟩ "/" text
    <*> optional o "operations" [] (list readOperation)
    <*> optional o "schemas" [] (list readSchema)

/-- A description of an API. -/
def readDescription : Reader Description := record "ApiDescription" descriptionFields

end ClientGen.Api
