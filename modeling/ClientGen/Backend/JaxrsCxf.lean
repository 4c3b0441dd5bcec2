import ClientGen.Backend.Java
import ClientGen.Backend.Override

/-!
# The backend for JAX-RS clients on CXF

A Java backend with a fixed sequence of changes: its own name and templates, other packages, no
documentation, dates of Joda time, options for the features of CXF and the family of JSON
annotations, a build file that is written only if absent instead of the inherited files, no
annotations of documentation and serializers on models, and responses in the form of JAX-RS.
-/

namespace ClientGen.JaxrsCxf

/-- The name of the backend. -/
def name : String := "jaxrs-cxf-client"

/-- The short names that no model imports. -/
def removedModelImports : List String :=
  ["ApiModelProperty", "ApiModel", "JsonSerialize", "ToStringSerializer"]

/-- The option for the family of JSON annotations. -/
def jsonMappingDecl : OptionDecl where
  name := jsonMappingOption
  description := "The JSON mapping to use"
  kind := .modes
  default := .text JsonMapping.jackson.name
  choices := [(JsonMapping.jackson.name, "Use the jackson framework"),
    (JsonMapping.jsonb.name, "Use JSR-367 Json-B annotations")]
  aliases := ["jsonMapping"]
  legacyModes := [("jsr367", JsonMapping.jsonb.name)]

/-- The options of the backend beyond those of every Java backend. -/
def options : List OptionDecl := [
  .boolean beanValidationOption "Use BeanValidation API annotations" false ["useBeanValidation"],
  .boolean gzipForTestsOption "Use Gzip Feature for tests" false ["useGzipFeatureForTests"],
  .boolean loggingForTestsOption "Use Logging Feature for tests" false
    ["useLoggingFeatureForTests"],
  .boolean genericResponseOption "Use generic response" false ["useGenericResponse"],
  jsonMappingDecl]

/-- The changes that make the backend of the base of the Java backends. -/
def overrides : List Override := [
  .configure {
    name := some name
    kind := some .client
    help := some "Generates a Java JAXRS Client based on Apache CXF framework."
    templateDir := some name
    outputFolder := some "generated-code/JavaJaxRS-CXF"
    supportsInheritance := some true },
  .setOptionDefault "source-folder" (.text "src/gen/java"),
  .setOptionDefault "invoker-package" (.text "io.swagger.api"),
  .setOptionDefault "api-package" (.text "io.swagger.api"),
  .setOptionDefault "model-package" (.text "io.swagger.model"),
  .setOptionDefault "artifact-id" (.text "swagger-jaxrs-client"),
  .removeTemplate "model_doc" "model_doc.md.j2",
  .removeTemplate "api_doc" "api_doc.md.j2",
  .addTypeMapping "date" "LocalDate" none,
  .addImportMapping "LocalDate" "org.joda.time.LocalDate"] ++
  options.map .addOption ++ [
  .addOptionHook .pomOnly,
  .removeModelImports removedModelImports,
  .addOperationHook .jaxrs]

/-- The backend. None of its changes has a fault. -/
def backend : Backend :=
  match compose Java.baseBackend overrides with
  | .ok b => b
  | .error _ => Java.baseBackend

/-- The changes can all be made. -/
theorem compose_overrides : compose Java.baseBackend overrides = .ok backend := by rfl

end ClientGen.JaxrsCxf
