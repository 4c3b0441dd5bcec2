import ClientGen.Client.Typing
import ClientGen.Log
import ClientGen.Text.Blank
import ClientGen.Text.Pieces
import ClientGen.Value.Display

/-!
# Models and operations of a description

Every schema becomes a model ([prepareModel]) and every operation an operation of the client
([prepareOperation]): members get names of the target language, and types are resolved. A property
that allows certain values only has an enumeration of its own in the place of its type. The return
type of an operation is that of its first successful response, or else of its default one.
-/

namespace ClientGen.Client

open Api

/-! ## Models -/

/-- The datatype of a property with an enumeration: its name in the place of the type of the
elements. -/
def enumDatatype (container : Option Container) (resolved : ResolvedType) (enumName : String) :
    String :=
  match container with
  | none => enumName
  | some .array =>
    Text.replaceAll ("<" ++ resolved.baseType ++ ">") ("<" ++ enumName ++ ">") resolved.datatype
  | some .map =>
    Text.replaceAll (", " ++ resolved.baseType ++ ">") (", " ++ enumName ++ ">") resolved.datatype

/-- The values that a property allows; an empty list allows all. -/
def allowedValues (p : Api.Property) : List String := p.allowed.getD []

/-- The name of the enumeration of a property, if it has one. -/
def enumNameOf (p : Api.Property) : Option String :=
  if (allowedValues p).isEmpty then none else some (Text.camelize p.name ++ "Enum")

/-- A property of a schema, and the short names that are imported for it. Models need no import for
each other. -/
def prepareProperty (table : TypeTable) (schemas : List String) (p : Api.Property) :
    Property × NameSet :=
  let resolved := resolveType table schemas p.type p.container
  let name := Java.variableName p.name
  let enumName := enumNameOf p
  let datatype := match enumName with
    | some e => enumDatatype p.container resolved e
    | none => resolved.datatype
  let imports :=
    if resolved.isModel then resolved.imports.erase resolved.baseType else resolved.imports
  ({ name := name
     baseName := p.name
     datatype := datatype
     baseType := resolved.baseType
     canonicalType := p.type
     container := p.container
     required := p.required
     nullable := p.nullable
     description := p.description
     sample := p.sample
     getter := Java.getterName name datatype
     setter := Java.setterName name
     isModel := resolved.isModel
     enumName := enumName
     allowed := allowedValues p
     constraints := p.constraints }, imports)

/-- Whether a text is there and not empty. -/
def isWritten (s : Option String) : Bool := s.getD "" != ""

/-- The short names for the annotations of a model: those of its description, of its properties, and
of its enumerations. -/
def annotationImports (m : Model) : List String :=
  (if isWritten m.description then ["ApiModel"] else []) ++
    (if m.properties.isEmpty then [] else ["ApiModelProperty", "JsonProperty"]) ++
    (if m.hasEnums then ["JsonCreator", "JsonValue"] else [])

/-- The model of a schema. -/
def prepareModel (table : TypeTable) (schemas : List String) (s : Schema) : Model :=
  let prepared := s.properties.map (prepareProperty table schemas)
  let m : Model := {
    name := s.name
    classname := Java.modelName s.name
    description := s.description
    parent := if isWritten s.parent then s.parent.map Java.modelName else none
    properties := prepared.map (·.1)
    imports := prepared.foldl (fun acc p => acc.union p.2) (NameSet.ofList s.imports) }
  { m with imports := m.imports.insertAll (annotationImports m) }

/-! ## Operations -/

/-- The segments of a path that are not empty. -/
def pathSegments (path : String) : List String :=
  ((Text.pieces '/' path.toList).filter (!·.isEmpty)).map String.ofList

/-- A name for an operation without one: the segments of its path, and its method. -/
def derivedId (o : Api.Operation) : String :=
  let unbraced (s : String) : String :=
    String.ofList (Text.dropEnds (fun c => c == '\x7b' || c == '\x7d') s.toList)
  Text.lowerCamelize ("_".intercalate ((pathSegments o.path).map unbraced ++ [o.method.name]))

/-- The name of the method of an operation. -/
def operationIdOf (o : Api.Operation) : String :=
  Java.operationName (if isWritten o.operationId then o.operationId.getD "" else derivedId o)

/-- A default as it is written in code: numbers and truth values as they are, all else in quotes. -/
def codeDefault : Value → Option String
  | .null => none
  | .bool b => some (if b then "true" else "false")
  | .int n => some (Value.int n).asText
  | .double d => some (Value.double d).asText
  | v => some ("\"" ++ v.asText ++ "\"")

/-- A parameter, and the short names that are imported for it. -/
def prepareParameter (table : TypeTable) (schemas : List String) (p : Api.Parameter) :
    Parameter × NameSet :=
  let resolved := resolveType table schemas p.type p.container
  ({ name := Java.parameterName p.name
     baseName := p.name
     datatype := resolved.datatype
     location := p.location
     required := p.required
     description := p.description
     default := codeDefault p.default
     isModel := resolved.isModel
     constraints := p.constraints }, resolved.imports)

/-- The type of a response, if it has one. -/
def responseType (table : TypeTable) (schemas : List String) (r : Api.Response) :
    Option ResolvedType :=
  r.type.map fun type => resolveType table schemas type r.container

/-- A response, and the short names that are imported for it. Only a typed one has a container. -/
def prepareResponse (table : TypeTable) (schemas : List String) (r : Api.Response) :
    Response × NameSet :=
  match responseType table schemas r with
  | none => ({ code := r.code, message := r.description }, NameSet.empty)
  | some resolved =>
    ({ code := r.code
       message := r.description
       datatype := some resolved.datatype
       baseType := some resolved.baseType
       container := r.container.map (·.name) }, resolved.imports)

/-- Whether a response tells of success. -/
def isSuccess (r : Api.Response) : Bool := Text.startsWith r.code "2"

/-- The response that decides the return type: the first successful one, or else the default one. -/
def decidingResponse? (rs : List Api.Response) : Option Api.Response :=
  match rs.find? isSuccess with
  | some r => some r
  | none => rs.find? (·.code == "0")

/-- The return type of an operation and its container. -/
def returnTypeOf? (table : TypeTable) (schemas : List String) (rs : List Api.Response) :
    Option (ResolvedType × Option Container) := do
  let r ← decidingResponse? rs
  let resolved ← responseType table schemas r
  return (resolved, r.container)

/-- An operation that is not in a group yet. -/
def prepareOperation (table : TypeTable) (schemas : List String) (o : Api.Operation) : Operation :=
  let parameters := o.parameters.map (prepareParameter table schemas)
  let responses := o.responses.map (prepareResponse table schemas)
  let returned := returnTypeOf? table schemas o.responses
  let imports := parameters.foldl (fun acc p => acc.union p.2) NameSet.empty
  let imports := responses.foldl (fun acc r => acc.union r.2) imports
  let imports := match returned with
    | some (resolved, _) => imports.union resolved.imports
    | none => imports
  { operationId := operationIdOf o
    nickname := operationIdOf o
    method := o.method
    rawPath := o.path
    path := o.path
    summary := o.summary
    notes := o.description
    deprecated := o.deprecated
    parameters := parameters.map (·.1)
    responses := responses.map (·.1)
    returnType := returned.map (·.1.datatype)
    returnBaseType := returned.map (·.1.baseType)
    returnContainer := returned.bind (·.2.map (·.name))
    consumes := o.consumes
    produces := o.produces
    imports := imports }

/-- What is told about an operation that was prepared. -/
def preparedRecord (o : Operation) : Log.Record :=
  ⟨.debug, "clientforge.generator.prepare",
    "Prepared operation " ++ o.method.verb ++ " " ++ o.rawPath ++ " as '" ++ o.operationId ++ "'"⟩

end ClientGen.Client
