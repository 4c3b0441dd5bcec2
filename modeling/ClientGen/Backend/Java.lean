import ClientGen.Backend.Basic
import ClientGen.Options.Configuration

/-!
# The base of the Java backends

What every Java backend starts from: the Java types and imports, the packages and build coordinates
as options, documentation and build files, and the hooks for JSON mapping, validation and
serialization.
-/

namespace ClientGen.Java

/-- The Java types of the canonical types. -/
def typeRegistrations : List Registration := [
  .type "string" "String" none,
  .type "integer" "Integer" none,
  .type "long" "Long" none,
  .type "float" "Float" none,
  .type "double" "Double" none,
  .type "number" "BigDecimal" (some "java.math.BigDecimal"),
  .type "boolean" "Boolean" none,
  .type "date" "Date" (some "java.util.Date"),
  .type "DateTime" "Date" (some "java.util.Date"),
  .type "UUID" "UUID" (some "java.util.UUID"),
  .type "file" "File" (some "java.io.File"),
  .type "binary" "byte[]" none,
  .type "ByteArray" "byte[]" none,
  .type "object" "Object" none,
  .type "array" "List" (some "java.util.List"),
  .type "map" "Map" (some "java.util.Map")]

/-- The imports of the other names that the templates use. -/
def importRegistrations : List Registration := [
  .importOf "ArrayList" "java.util.ArrayList",
  .importOf "HashMap" "java.util.HashMap",
  .importOf "Serializable" "java.io.Serializable",
  .importOf "ApiModel" "io.swagger.annotations.ApiModel",
  .importOf "ApiModelProperty" "io.swagger.annotations.ApiModelProperty",
  .importOf "JsonProperty" "com.fasterxml.jackson.annotation.JsonProperty",
  .importOf "JsonCreator" "com.fasterxml.jackson.annotation.JsonCreator",
  .importOf "JsonValue" "com.fasterxml.jackson.annotation.JsonValue",
  .importOf "JsonSerialize" "com.fasterxml.jackson.databind.annotation.JsonSerialize",
  .importOf "ToStringSerializer" "com.fasterxml.jackson.databind.ser.std.ToStringSerializer",
  .importOf "JsonbProperty" "javax.json.bind.annotation.JsonbProperty",
  .importOf "NotNull" "javax.validation.constraints.NotNull",
  .importOf "Size" "javax.validation.constraints.Size",
  .importOf "Pattern" "javax.validation.constraints.Pattern",
  .importOf "DecimalMin" "javax.validation.constraints.DecimalMin",
  .importOf "DecimalMax" "javax.validation.constraints.DecimalMax",
  .importOf "Valid" "javax.validation.Valid",
  .importOf "Response" "javax.ws.rs.core.Response"]

/-- The options that all Java backends have. -/
def options : List OptionDecl := [
  .text "source-folder" "Source folder for generated code" "src/main/java" ["sourceFolder"],
  .text "api-package" "Package for generated API interfaces" "io.swagger.client.api"
    ["apiPackage"],
  .text "model-package" "Package for generated models" "io.swagger.client.model"
    ["modelPackage"],
  .text "invoker-package" "Root package for generated code" "io.swagger.client"
    ["invokerPackage"],
  .text "group-id" "groupId in the generated build descriptor" "io.swagger" ["groupId"],
  .text "artifact-id" "artifactId in the generated build descriptor" "swagger-java"
    ["artifactId"],
  .text "artifact-version" "Artifact version in the generated build descriptor" "1.0.0"
    ["artifactVersion"],
  .boolean serializableModelOption "Generated models implement java.io.Serializable" false
    ["serializableModel"]]

/-- The templates of all Java backends. -/
def templates : List (TemplateKind × List TemplateSuffix) := [
  (.api, [("api.java.j2", ".java")]),
  (.apiTest, [("api_test.java.j2", "Test.java")]),
  (.model, [("model.java.j2", ".java")]),
  (.apiDoc, [("api_doc.md.j2", ".md")]),
  (.modelDoc, [("model_doc.md.j2", ".md")])]

/-- The documentation and build files. -/
def supportingFiles : List SupportingFile := [
  { template := "README.md.j2", destination := "README.md" },
  { template := "gitignore.j2", destination := ".gitignore" },
  { template := "build.gradle.j2", destination := "build.gradle" },
  { template := "settings.gradle.j2", destination := "settings.gradle" }]

/-- The base of the Java backends. -/
def baseBackend : Backend where
  name := "java"
  kind := .client
  help := "Shared base of the Java backends."
  sharedTemplateDirs := ["java"]
  outputFolder := "generated-code/java"
  testFolder := "src/test/java"
  options := options
  registrations := typeRegistrations ++ importRegistrations
  templates := templates
  supportingFiles := supportingFiles
  modelHooks := [.jsonMapping, .beanValidation, .serializable]
  operationHooks := [.parameterValidation]

end ClientGen.Java
