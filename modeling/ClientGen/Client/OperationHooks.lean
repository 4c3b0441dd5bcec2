import ClientGen.Backend.Basic
import ClientGen.Client.Validation
import ClientGen.Options.Configuration
import ClientGen.Text.Pieces

/-!
# The last steps for operations

What the hooks of a backend do with a group ([OperationHook.apply]): they put validation annotations
on parameters or take them off, and bring operations into the form of JAX-RS, in which every
response and every operation has a type. At the end the return types are settled as they are
written, and the group has its common path and the imports of its operations ([finishGroup]).
-/

namespace ClientGen

open Client

/-- The media type of forms of several parts. -/
def multipartForm : String := "multipart/form-data"

/-- The generic return type, and its short name. -/
def genericResponse : String := "Response"

namespace Client

/-- The name of the type of a container in code. -/
def containerInCode (name : String) : String :=
  if name = "array" then "List" else if name = "map" then "Map" else name

/-- A response in the form of JAX-RS. The default response is a successful one. -/
def Response.inJaxrs (r : Response) : Response :=
  let r : Response := { r with
    code := if r.code = "0" then "200" else r.code
    container := r.container.map containerInCode }
  if r.baseType.isNone then
    { r with datatype := some "void", baseType := some "Void", isVoid := true }
  else r

/-- A parameter with the annotations for its constraints. Of the models only a body is validated in
its turn. -/
def Parameter.validated (p : Parameter) : Parameter :=
  { p with
    annotations := annotationsFor p.constraints p.required (p.isModel && p.location == .body) }

namespace Operation

/-- The operation with validation annotations on its parameters, or without any. Imports of
annotations that are taken off stay. -/
def withValidation (o : Operation) (on : Bool) : Operation :=
  if on then
    let parameters := o.parameters.map (·.validated)
    { o with
      parameters := parameters
      imports := o.imports.insertAll (parameters.flatMap fun p => importsFor p.annotations) }
  else { o with parameters := o.parameters.map fun p => { p with annotations := [] } }

/-- Whether the operation takes a form of several parts, of whatever boundary. -/
def takesMultipart (o : Operation) : Bool := o.consumes.any (Text.startsWith · multipartForm)

/-- The operation in the form of JAX-RS. -/
def inJaxrs (o : Operation) : Operation :=
  let o : Operation := { o with
    isMultipart := o.isMultipart || o.consumes.head? == some multipartForm
    parameters := o.parameters.map fun p => { p with
      inMultipart := p.inMultipart || o.takesMultipart }
    responses := o.responses.map (·.inJaxrs)
    returnContainer := o.returnContainer.map containerInCode }
  if o.returnBaseType.isNone then
    { o with returnType := some "void", returnBaseType := some "Void", isVoid := true }
  else o

/-- The return type as it is written, where `generic` asks for the generic one. -/
def returnTypeInCode (o : Operation) (generic : Bool) : String :=
  if generic then genericResponse
  else match o.returnType with
    | some t => if t = "" then "void" else t
    | none => "void"

end Operation

end Client

/-- The group that a hook leads to. -/
def OperationHook.apply (features : OperationFeatures) (g : Group) : OperationHook → Group
  | parameterValidation =>
    { g with operations := g.operations.map (·.withValidation features.beanValidation) }
  | jaxrs => { g with operations := g.operations.map (·.inJaxrs) }

/-- The group with its return types, its common path and its imports settled. -/
def Client.Group.settled (g : Group) (features : OperationFeatures) : Group :=
  let operations := g.operations.map fun o =>
    { o with renderedReturnType := some (o.returnTypeInCode features.genericResponse) }
  let imports := operations.foldl (fun acc o => acc.union o.imports) NameSet.empty
  { g with
    operations := operations
    commonPath := g.basePath
    imports := if features.genericResponse then imports.insert genericResponse else imports }

/-- The group that hooks lead to one after the other, settled. -/
def finishGroup (hooks : List OperationHook) (features : OperationFeatures) (g : Group) : Group :=
  (hooks.foldl (OperationHook.apply features) g).settled features

/-- What is told about a group that is finished. -/
def finishedRecord (g : Group) : Log.Record :=
  ⟨.debug, "clientforge.generator.postprocess",
    "Post-processed group '" ++ g.name ++ "' (" ++ toString g.operations.length ++ " operations)"⟩

end ClientGen
