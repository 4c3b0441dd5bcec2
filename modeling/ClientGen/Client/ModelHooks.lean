import ClientGen.Backend.Basic
import ClientGen.Client.Validation
import ClientGen.Options.Configuration

/-!
# The last steps for models

What the hooks of a backend do with a model ([ModelHook.apply]): they keep one family of JSON
annotations, put on or take off validation annotations, and make the model serializable or not. At
the end the imports that the backend removes are gone, whichever hook put them in ([finishModel]).
-/

namespace ClientGen

open Client

/-- The short names of the first family of JSON annotations, with its serializers. -/
def jacksonImports : List String :=
  ["JsonProperty", "JsonCreator", "JsonValue", "JsonSerialize", "ToStringSerializer"]

/-- The short names of the second family of JSON annotations. -/
def jsonbImports : List String := ["JsonbProperty"]

namespace Client

/-- A property with the annotations for its constraints. -/
def Property.validated (p : Property) : Property :=
  { p with annotations := annotationsFor p.constraints p.required p.isModel }

/-- A property without annotations. -/
def Property.unvalidated (p : Property) : Property := { p with annotations := [] }

namespace Model

/-- The model without some imports. -/
def removeImports (m : Model) (names : List String) : Model :=
  { m with imports := m.imports.eraseAll names }

/-- The model with further imports. -/
def addImports (m : Model) (names : List String) : Model :=
  { m with imports := m.imports.insertAll names }

/-- The short names of the JSON annotations that a model needs. -/
def jsonImports (m : Model) : JsonMapping → List String
  | .jackson =>
    (if m.properties.isEmpty then [] else ["JsonProperty"]) ++
      (if m.hasEnums then ["JsonCreator", "JsonValue"] else [])
  | .jsonb => if m.properties.isEmpty then [] else ["JsonbProperty"]

/-- The model with the imports of one family of JSON annotations. -/
def withJsonMapping (m : Model) (mapping : JsonMapping) : Model :=
  let others := match mapping with
    | .jackson => jsonbImports
    | .jsonb => jacksonImports
  (m.removeImports others).addImports (m.jsonImports mapping)

/-- The model with validation annotations, or without any trace of them. -/
def withValidation (m : Model) (on : Bool) : Model :=
  if on then
    let m : Model := { m with properties := m.properties.map (·.validated) }
    m.addImports (m.properties.flatMap fun p => importsFor p.annotations)
  else
    let m : Model := { m with properties := m.properties.map (·.unvalidated) }
    m.removeImports Annotation.names

/-- The model with or without serialization. -/
def withSerializable (m : Model) (on : Bool) : Model :=
  if on then m.addImports ["Serializable"] else m.removeImports ["Serializable"]

end Model

end Client

/-- The model that a hook leads to. -/
def ModelHook.apply (features : ModelFeatures) (m : Model) : ModelHook → Model
  | jsonMapping => m.withJsonMapping features.jsonMapping
  | beanValidation => m.withValidation features.beanValidation
  | serializable => m.withSerializable features.serializable
  | addImport name => m.addImports [name]

/-- The model that hooks lead to one after the other, without the removed imports. -/
def finishModel (hooks : List ModelHook) (features : ModelFeatures) (removed : List String)
    (m : Model) : Model :=
  (hooks.foldl (ModelHook.apply features) m).removeImports removed

end ClientGen
