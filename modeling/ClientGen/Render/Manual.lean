import ClientGen.Java.Name
import ClientGen.Render.Context
import ClientGen.Render.Lines

/-!
# The documentation of a client

The page that introduces the client, and one page for each group of operations and each model. The
pages are written in Markdown.
-/

namespace ClientGen.Render

open Client

/-! ## The introduction -/

/-- The line about an operation in the table of all operations. -/
def operationRow (g : Group) (o : Operation) : String :=
  "*" ++ g.classname ++ "* | [**" ++ o.nickname ++ "**](docs/" ++ g.classname ++ ".md#" ++
    o.nickname ++ ") | **" ++ o.method.verb ++ "** " ++ o.rawPath ++ " | " ++ o.summary.getD ""

/-- The page that introduces the client. -/
def introduction (s : Setting) (groups : List Group) (models : List Model) : Lines :=
  ["# " ++ s.artifactId.asText, ""] ++
  linesIf (s.appDescription != "") [s.appDescription, ""] ++
  ["- API version: " ++ s.appVersion,
    "- Build package: " ++ s.generatorName,
    "",
    "## Requirements",
    "",
    "Building the API client library requires [Maven](https://maven.apache.org/) or " ++
      "[Gradle](https://gradle.org/).",
    "",
    "## Installation",
    "",
    "To install the API client library to your local Maven repository, simply execute:",
    "",
    "```shell",
    "mvn install",
    "```",
    "",
    "## Documentation for API Endpoints",
    "",
    "All URIs are relative to *" ++ s.basePath ++ "*",
    "",
    "Class | Method | HTTP request | Description",
    "------------ | ------------- | ------------- | -------------"] ++
  groups.flatMap (fun g => g.operations.map (operationRow g)) ++
  ["", "## Documentation for Models", ""] ++
  models.map fun m => " - [" ++ m.classname ++ "](docs/" ++ m.classname ++ ".md)"

/-! ## Groups -/

/-- The line about an operation in the table of its group. -/
def memberRow (classname : String) (o : Operation) : String :=
  "[**" ++ o.nickname ++ "**](" ++ classname ++ ".md#" ++ o.nickname ++ ") | **" ++
    o.method.verb ++ "** " ++ o.rawPath ++ " | " ++ o.summary.getD ""

/-- The line about a parameter. -/
def parameterRow (p : Parameter) : String :=
  " **" ++ p.name ++ "** | **" ++ p.datatype ++ "**| " ++ p.description.getD "" ++ " |" ++
    (if p.required then "" else " [optional]") ++
    (p.default.map fun d => " [default to " ++ d ++ "]").getD ""

/-- The table of the parameters of an operation. -/
def parameterTable (o : Operation) : Lines :=
  if o.parameters.isEmpty then ["This endpoint does not need any parameter."]
  else ["", "Name | Type | Description  | Notes",
    "------------- | ------------- | ------------- | -------------"] ++
    o.parameters.map parameterRow

/-- Media types, or that there are none. -/
def mediaTypesText (types : List String) : String :=
  if types.isEmpty then "Not defined" else commaed types

/-- The section of an operation. -/
def operationSection (o : Operation) : Lines :=
  let returned := o.renderedReturnType.getD "void"
  ["", "<a name=\"" ++ o.nickname ++ "\"></a>",
    "# **" ++ o.nickname ++ "**",
    "> " ++ returned ++ " " ++ o.nickname ++ "(" ++ commaed (o.parameters.map (·.name)) ++ ")",
    ""] ++
  linesFor o.summary (fun s => [s, ""]) ++
  linesFor o.notes (fun s => [s, ""]) ++
  ["### Parameters"] ++
  parameterTable o ++
  ["", "### Return type",
    "",
    returned,
    "",
    "### HTTP request headers",
    "",
    " - **Content-Type**: " ++ mediaTypesText o.consumes,
    " - **Accept**: " ++ mediaTypesText o.produces]

/-- The page of a group. -/
def groupPage (s : Setting) (g : Group) : Lines :=
  ["# " ++ g.classname,
    "",
    "All URIs are relative to *" ++ s.basePath ++ "*",
    "",
    "Method | HTTP request | Description",
    "------------- | ------------- | -------------"] ++
  g.operations.map (memberRow g.classname) ++
  g.operations.flatMap operationSection

/-! ## Models -/

/-- The line about a property. -/
def propertyRow (p : Property) : String :=
  "**" ++ p.name ++ "** | " ++ p.datatype ++ " | " ++ p.description.getD "" ++ " | " ++
    (if p.required then "" else " [optional]")

/-- The section of the enumeration of a property. -/
def enumSection (p : Property) : Lines :=
  let name := p.enumName.getD ""
  ["", "",
    "<a name=\"" ++ name ++ "\"></a>",
    "## Enum: " ++ name,
    "Name | Value",
    "---- | -----"] ++
  p.allowed.map fun v => Java.constantName v ++ " | &quot;" ++ v ++ "&quot;"

/-- The page of a model. -/
def modelPage (m : Model) : Lines :=
  ["", "# " ++ m.classname, ""] ++
  linesFor m.description (fun d => [d, ""]) ++
  ["## Properties",
    "Name | Type | Description | Notes",
    "------------ | ------------- | ------------- | -------------"] ++
  m.properties.map propertyRow ++
  (m.properties.filter (·.isEnum)).flatMap enumSection

end ClientGen.Render
