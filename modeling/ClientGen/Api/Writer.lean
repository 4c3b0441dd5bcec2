import ClientGen.Api.Basic
import ClientGen.Document.Writer

/-!
# An API description as a document

The records of a description with all their fields, under names in small letters with underscores.
A reader takes such a document back.
-/

namespace ClientGen.Api

open Document

instance : ToDocument Container := ⟨fun c => .text c.name⟩

instance : ToDocument Constraints := ⟨fun c => fields [
  ("min_length", c.minLength),
  ("max_length", c.maxLength),
  ("pattern", c.pattern),
  ("minimum", c.minimum),
  ("maximum", c.maximum),
  ("exclusive_minimum", c.exclusiveMinimum),
  ("exclusive_maximum", c.exclusiveMaximum),
  ("min_items", c.minItems),
  ("max_items", c.maxItems)]⟩

instance : ToDocument Property := ⟨fun p => fields [
  ("name", p.name),
  ("type", p.type),
  ("container", p.container),
  ("required", p.required),
  ("nullable", p.nullable),
  ("description", p.description),
  ("example", p.sample),
  ("enum_values", p.allowed),
  ("constraints", p.constraints)]⟩

instance : ToDocument Schema := ⟨fun s => fields [
  ("name", s.name),
  ("description", s.description),
  ("parent", s.parent),
  ("properties", s.properties),
  ("imports", s.imports)]⟩

instance : ToDocument Parameter := ⟨fun p => fields [
  ("name", p.name),
  ("location", p.location.name),
  ("type", p.type),
  ("container", p.container),
  ("required", p.required),
  ("description", p.description),
  ("default", p.default),
  ("constraints", p.constraints)]⟩

instance : ToDocument Response := ⟨fun r => fields [
  ("code", r.code),
  ("description", r.description),
  ("type", r.type),
  ("container", r.container)]⟩

instance : ToDocument Operation := ⟨fun o => fields [
  ("operation_id", o.operationId),
  ("method", o.method.name),
  ("path", o.path),
  ("tags", o.tags),
  ("summary", o.summary),
  ("description", o.description),
  ("parameters", o.parameters),
  ("responses", o.responses),
  ("consumes", o.consumes),
  ("produces", o.produces),
  ("deprecated", o.deprecated)]⟩

instance : ToDocument Description := ⟨fun d => fields [
  ("title", d.title),
  ("version", d.version),
  ("description", d.description),
  ("base_path", d.basePath),
  ("operations", d.operations),
  ("schemas", d.schemas)]⟩

end ClientGen.Api
