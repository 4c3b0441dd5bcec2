import ClientGen.Api.Writer
import ClientGen.Client.Validation

/-!
# The generated client as a document

The records of a client with all their fields, under names in small letters with underscores, and
with what follows from the fields where it is asked for often: whether a model has enumerations,
which of its properties have to be there, what is around a property, and where a parameter is sent.
What hooks have found out beside the fields stands among the extensions of a record.
-/

namespace ClientGen.Client

open Document

instance : ToDocument Annotation := ⟨fun a => .text a.text⟩

/-- The fields of a property. -/
def Property.fieldValues (p : Property) : List (String × Value) := [
  ("name", p.name),
  ("base_name", p.baseName),
  ("datatype", p.datatype),
  ("base_type", p.baseType),
  ("canonical_type", p.canonicalType),
  ("container_type", p.container),
  ("required", p.required),
  ("nullable", p.nullable),
  ("description", p.description),
  ("example", p.sample),
  ("default_value", .null),
  ("getter", p.getter),
  ("setter", p.setter),
  ("is_model", p.isModel),
  ("is_enum", p.isEnum),
  ("enum_name", p.enumName),
  ("allowable_values", p.allowed),
  ("constraints", p.constraints),
  ("validation_annotations", p.annotations),
  ("vendor_extensions", .map [])]

/-- A property as a member of a model. -/
def Property.memberDocument (p : Property) : Value :=
  fields (p.fieldValues ++ [
    ("is_list_container", .bool (p.container == some .array)),
    ("is_map_container", .bool (p.container == some .map))])

instance : ToDocument Model := ⟨fun m => fields [
  ("name", m.name),
  ("classname", m.classname),
  ("description", m.description),
  ("parent", m.parent),
  ("vars", .list (m.properties.map (·.memberDocument))),
  ("imports", m.imports),
  ("vendor_extensions", .map []),
  ("has_enums", m.hasEnums),
  ("required_vars", m.requiredProperties.map (·.name))]⟩

instance : ToDocument Parameter := ⟨fun p => fields [
  ("param_name", p.name),
  ("base_name", p.baseName),
  ("datatype", p.datatype),
  ("location", p.location.name),
  ("required", p.required),
  ("description", p.description),
  ("default_value", p.default),
  ("is_model", p.isModel),
  ("constraints", p.constraints),
  ("validation_annotations", p.annotations),
  ("vendor_extensions",
    fields (if p.inMultipart then [(multipartMark, .text "true")] else [])),
  ("kind", [p.location.name])]⟩

/-- The mark of what carries or returns nothing. -/
def voidExtensions (isVoid : Bool) : Value :=
  fields (if isVoid then [(voidMark, .bool true)] else [])

instance : ToDocument Response := ⟨fun r => fields [
  ("code", r.code),
  ("message", r.message),
  ("datatype", r.datatype),
  ("base_type", r.baseType),
  ("container_type", r.container),
  ("vendor_extensions", voidExtensions r.isVoid)]⟩

instance : ToDocument Operation := ⟨fun o => fields [
  ("operation_id", o.operationId),
  ("nickname", o.nickname),
  ("http_method", o.method.name),
  ("raw_path", o.rawPath),
  ("path", o.path),
  ("base_name", o.baseName),
  ("summary", o.summary),
  ("notes", o.notes),
  ("deprecated", o.deprecated),
  ("params", o.parameters),
  ("responses", o.responses),
  ("return_type", o.returnType),
  ("return_base_type", o.returnBaseType),
  ("return_container", o.returnContainer),
  ("rendered_return_type", o.renderedReturnType),
  ("consumes", o.consumes),
  ("produces", o.produces),
  ("is_multipart", o.isMultipart),
  ("subresource_operation", o.isSubresource),
  ("imports", o.imports),
  ("vendor_extensions", voidExtensions o.isVoid)]⟩

instance : ToDocument Group := ⟨fun g => fields [
  ("name", g.name),
  ("classname", g.classname),
  ("base_path", g.basePath),
  ("common_path", g.commonPath),
  ("operations", g.operations),
  ("imports", g.imports)]⟩

end ClientGen.Client
