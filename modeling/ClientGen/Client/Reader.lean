import ClientGen.Api.Reader
import ClientGen.Client.Basic

/-!
# Reading prepared operations from a document

The other way of what is written of a prepared operation. The annotations of a parameter follow from
its constraints; of them only the form is checked. Of the extensions of a record only the marks that
hooks set are taken over.
-/

namespace ClientGen.Client

open Document

/-- The extensions of a record: whether some mark is among them. -/
def readMark (mark : String) : Reader Bool := fun v =>
  (·.any (·.1 == mark)) <$> mapping anything v

/-- The fields of a parameter. -/
def parameterFields (o : List (Key × Value)) : Checked Parameter :=
  (fun name baseName datatype location required description default isModel constraints
      (_ : List String) inMultipart =>
    { name, baseName, datatype, location, required, description, default, isModel, constraints,
      inMultipart })
    <$> required o "param_name" text
    <*> required o "base_name" text
    <*> required o "datatype" text
    <*> required o "location" (member Api.Location.all Api.Location.name)
    <*> optional o "required" false truth
    <*> optional o "description" none (nullable text)
    <*> optional o "default_value" none (nullable text)
    <*> optional o "is_model" false truth
    <*> optional o "constraints" {} Api.readConstraints
    <*> optional o "validation_annotations" [] (list text)
    <*> optional o "vendor_extensions" false (readMark multipartMark)

/-- A parameter. -/
def readParameter : Reader Parameter := record "Parameter" parameterFields

/-- The fields of a response. -/
def responseFields (o : List (Key × Value)) : Checked Response :=
  Response.mk
    <$> required o "code" text
    <*> optional o "message" none (nullable text)
    <*> optional o "datatype" none (nullable text)
    <*> optional o "base_type" none (nullable text)
    <*> optional o "container_type" none (nullable text)
    <*> optional o "vendor_extensions" false (readMark voidMark)

/-- A response. -/
def readResponse : Reader Response := record "Response" responseFields

/-- The fields of an operation. -/
def operationFields (o : List (Key × Value)) : Checked Operation :=
  Operation.mk
    <$> required o "operation_id" text
    <*> required o "nickname" text
    <*> required o "http_method" (member Api.Method.all Api.Method.name)
    <*> required o "raw_path" text
    <*> required o "path" text
    <*> optional o "base_name" "" text
    <*> optional o "summary" none (nullable text)
    <*> optional o "notes" none (nullable text)
    <*> optional o "deprecated" false truth
    <*> optional o "params" [] (list readParameter)
    <*> optional o "responses" [] (list readResponse)
    <*> optional o "return_type" none (nullable text)
    <*> optional o "return_base_type" none (nullable text)
    <*> optional o "return_container" none (nullable text)
    <*> optional o "rendered_return_type" none (nullable text)
    <*> optional o "consumes" [] (list text)
    <*> optional o "produces" [] (list text)
    <*> optional o "is_multipart" false truth
    <*> optional o "subresource_operation" false truth
    <*> (NameSet.ofList <$> optional o "imports" [] (unordered text))
    <*> optional o "vendor_extensions" false (readMark voidMark)

/-- An operation. -/
def readOperation : Reader Operation := record "Operation" operationFields

end ClientGen.Client
