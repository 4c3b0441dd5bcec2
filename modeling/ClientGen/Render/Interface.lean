import ClientGen.Client.Validation
import ClientGen.Render.Context
import ClientGen.Render.Lines

/-!
# The interface of a group

A group of operations is rendered as a Java interface with the annotations of JAX-RS
([groupInterface]). A parameter is written with its annotations, its type and its name
([parameterCode]); a file in a form of several parts comes as an attachment. The comment about the
API that every Java file has is here as well ([apiComment]).
-/

namespace ClientGen.Render

open Client

/-- The comment about the API at the head of a file. -/
def apiComment (s : Setting) : Lines :=
  ["/*", " * " ++ s.appName] ++
  linesIf (s.appDescription != "") [" * " ++ s.appDescription] ++
  [" *",
    " * API version: " ++ s.appVersion,
    " *",
    " * NOTE: This class is auto generated by clientforge (" ++ s.generatorName ++ ").",
    " * Do not edit the class manually.",
    " */"]

/-- The package of a file and its imports. -/
def packageHead (package : Value) (imports : List String) : Lines :=
  ["package " ++ package.asText ++ ";", ""] ++ imports.map fun i => "import " ++ i ++ ";"

/-! ## Parameters -/

/-- Whether a parameter is a part of a form of several parts. -/
def isPart (p : Parameter) : Bool := p.location == .form && p.inMultipart

/-- Whether a parameter comes as an attachment. -/
def isAttachment (p : Parameter) : Bool := isPart p && p.datatype == "File"

/-- The type of a parameter. -/
def argumentType (p : Parameter) : String :=
  if isAttachment p then "Attachment" else p.datatype

/-- The name of a parameter. -/
def argumentName (p : Parameter) : String :=
  if isAttachment p then Text.trimCharStart '_' p.name ++ "Detail" else p.name

/-- The annotation for the part of the request in which a parameter is sent. -/
def locationCode (p : Parameter) : String :=
  let named (kind : String) : String := "@" ++ kind ++ "(\"" ++ p.baseName ++ "\") "
  match p.location with
  | .path => named "PathParam"
  | .query => named "QueryParam"
  | .header => named "HeaderParam"
  | .cookie => named "CookieParam"
  | .body => ""
  | .form =>
    if p.inMultipart then
      "@Multipart(value = \"" ++ p.baseName ++ "\"" ++
        (if p.required then "" else ", required = false") ++ ") "
    else named "FormParam"

/-- The annotation for the default of a parameter, if it can have one. -/
def defaultCode (p : Parameter) : String :=
  match p.default with
  | none => ""
  | some d =>
    if p.location == .query || p.location == .header then
      "@DefaultValue(\"" ++ Text.trimChar '"' d ++ "\") "
    else ""

/-- A parameter with its annotations. -/
def parameterCode (p : Parameter) : String :=
  String.join (p.annotations.map (·.text ++ " ")) ++ locationCode p ++ defaultCode p ++
    argumentType p ++ " " ++ argumentName p

/-! ## Operations -/

/-- An annotation with media types. -/
def mediaTypesCode (kind : String) (types : List String) : String :=
  "@" ++ kind ++ "(\x7b " ++ commaed (types.map fun t => "\"" ++ t ++ "\"") ++ " \x7d)"

/-- The method of an operation. -/
def operationCode (o : Operation) : Lines :=
  ["", "    /**"] ++
  linesFor o.summary (fun s => ["     * " ++ s, "     *"]) ++
  linesFor o.notes (fun s => ["     * " ++ s, "     *"]) ++
  ["     */", "    @" ++ o.method.verb] ++
  linesIf o.isSubresource ["    @Path(\"" ++ o.path ++ "\")"] ++
  linesIf (!o.consumes.isEmpty) ["    " ++ mediaTypesCode "Consumes" o.consumes] ++
  linesIf (!o.produces.isEmpty) ["    " ++ mediaTypesCode "Produces" o.produces] ++
  linesIf o.deprecated ["    @Deprecated"] ++
  ["    public " ++ o.renderedReturnType.getD "void" ++ " " ++ o.nickname ++ "(" ++
    commaed (o.parameters.map parameterCode) ++ ");"]

/-- The interface of a group. -/
def groupInterface (s : Setting) (g : Group) (imports : List String) : Lines :=
  packageHead s.apiPackage imports ++
  ["",
    "import java.io.InputStream;",
    "import java.io.OutputStream;",
    "",
    "import javax.ws.rs.*;",
    "import javax.ws.rs.core.MediaType;",
    "import org.apache.cxf.jaxrs.ext.multipart.*;",
    ""] ++
  apiComment s ++
  ["/**", " * " ++ s.appName, " *"] ++
  linesIf (s.appDescription != "") [" * <p>" ++ s.appDescription, " *"] ++
  [" */",
    "@Path(\"" ++ g.commonPath ++ "\")",
    "public interface " ++ g.classname ++ "  \x7b"] ++
  g.operations.flatMap operationCode ++
  ["\x7d"]

end ClientGen.Render
