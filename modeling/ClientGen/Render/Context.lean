import ClientGen.Client.Imports
import ClientGen.Backend.Basic
import ClientGen.Options.Configuration

/-!
# What templates know

Every template of a run knows the [Setting]: the description and its options. Beside that it knows
its [Subject]: a model, a group of operations, or the whole run.
-/

namespace ClientGen.Render

open Client

/-- What all templates of a run know. -/
structure Setting where
  options : List (String × Value)
  generatorName : String
  appName : String
  appDescription : String
  appVersion : String
  basePath : String
  sourceFolder : Value
  testFolder : String
  apiPackage : Value
  modelPackage : Value
  invokerPackage : Value
  groupId : Value
  artifactId : Value
  artifactVersion : Value
  supportsInheritance : Bool
  deriving Repr, Inhabited

/-- The setting of a run. -/
def Setting.of (d : Api.Description) (c : Configuration) (b : Backend) : Setting where
  options := c.values
  generatorName := b.name
  appName := d.title
  appDescription := d.description.getD ""
  appVersion := d.version
  basePath := d.basePath
  sourceFolder := c.get "source-folder" (.text "src/main/java")
  testFolder := b.testFolder
  apiPackage := c.get "api-package" (.text "")
  modelPackage := c.get "model-package" (.text "")
  invokerPackage := c.get "invoker-package" (.text "")
  groupId := c.get "group-id" (.text "")
  artifactId := c.get "artifact-id" (.text "")
  artifactVersion := c.get "artifact-version" (.text "")
  supportsInheritance := b.supportsInheritance

/-- What a template is rendered for. -/
inductive Subject where
  | model (m : Model) (imports : List String) (features : ModelFeatures)
  | group (g : Group) (imports : List String) (features : OperationFeatures)
      (scaffold : ScaffoldFeatures)
  | run (groups : List Group) (models : List Model) (features : OperationFeatures)
      (scaffold : ScaffoldFeatures) (serializable : Bool)
  deriving Repr

/-- The subject of a model. -/
def modelSubject (c : Configuration) (s : Setting) (table : TypeTable) (classes : List String)
    (m : Model) : Subject :=
  let imports := resolveImports table classes s.modelPackage.asText m.imports.toList
  .model m imports c.modelFeatures

/-- The subject of a group. -/
def groupSubject (c : Configuration) (s : Setting) (table : TypeTable) (classes : List String)
    (g : Group) : Subject :=
  let imports := resolveImports table classes s.modelPackage.asText g.imports.toList
  .group g imports c.operationFeatures c.scaffoldFeatures

/-- The subject of a run. -/
def runSubject (c : Configuration) (groups : List Group) (models : List Model) : Subject :=
  .run groups models c.operationFeatures c.scaffoldFeatures c.serializableModel

namespace Subject

/-- The family of JSON annotations. -/
def jsonMapping : Subject → JsonMapping
  | model _ _ f => f.jsonMapping
  | group _ _ _ s => s.jsonMapping
  | run _ _ _ s _ => s.jsonMapping

/-- Whether there are validation annotations. -/
def beanValidation : Subject → Bool
  | model _ _ f => f.beanValidation
  | group _ _ f _ => f.beanValidation
  | run _ _ f _ _ => f.beanValidation

end Subject

end ClientGen.Render
