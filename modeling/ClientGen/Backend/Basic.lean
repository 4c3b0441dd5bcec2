import ClientGen.Failure.Message
import ClientGen.Options.Declaration
import ClientGen.Text.Blank
import ClientGen.TypeTable

/-!
# Backends

A [Backend] says all about one target: its options, how canonical types are named in it, which
templates are rendered for what, which further files belong to a run, and what is done with models
and operations before they are rendered. The last is said by hooks, which are names for the steps
that later modules carry out ([OptionHook], [ModelHook], [OperationHook]).
-/

namespace ClientGen

/-- What a backend produces. -/
inductive BackendKind where
  | client | server | documentation | other
  deriving DecidableEq, Repr, Inhabited

/-- Every kind. -/
def BackendKind.all : List BackendKind := [.client, .server, .documentation, .other]

/-- The name of a kind. -/
def BackendKind.name : BackendKind → String
  | .client => "client"
  | .server => "server"
  | .documentation => "documentation"
  | .other => "other"

/-- What a template is rendered for. -/
inductive TemplateKind where
  | api | apiTest | model | apiDoc | modelDoc
  /-- A kind that a backend may list and for which nothing is rendered. -/
  | other (name : String)
  deriving DecidableEq, Repr, Inhabited

/-- Every kind of template for which something is rendered. -/
def TemplateKind.all : List TemplateKind := [.api, .apiTest, .model, .apiDoc, .modelDoc]

/-- The name of a kind of template. -/
def TemplateKind.name : TemplateKind → String
  | .api => "api"
  | .apiTest => "api_test"
  | .model => "model"
  | .apiDoc => "api_doc"
  | .modelDoc => "model_doc"
  | .other name => name

/-- The kind of template of a name, if something is rendered for it. -/
def TemplateKind.ofName? (name : String) : Option TemplateKind :=
  TemplateKind.all.find? (·.name == name)

/-- The kind of template of any name. -/
def TemplateKind.named (name : String) : TemplateKind :=
  (TemplateKind.ofName? name).getD (.other name)

/-- A file that is rendered once in a run. -/
structure SupportingFile where
  template : String
  folder : String := ""
  destination : String
  /-- Whether it replaces a file that is there already. -/
  overwrite : Bool := true
  deriving DecidableEq, Repr, Inhabited

/-- Where a supporting file goes. -/
def SupportingFile.path (f : SupportingFile) : String :=
  let folder := Text.trimChar '/' f.folder
  if folder = "" then f.destination else folder ++ "/" ++ f.destination

open Document in
/-- A supporting file that is given as a document. -/
def SupportingFile.read : Reader SupportingFile := record "SupportingFile" fun o =>
  SupportingFile.mk
    <$> required o "template" text
    <*> optional o "folder" "" text
    <*> required o "destination" text
    <*> optional o "overwrite" true truth

/-! ## Hooks -/

/-- What is done with the supporting files once the options are known. -/
inductive OptionHook where
  /-- Nothing is left but a build file that is written if absent. -/
  | pomOnly
  | clearSupportingFiles
  | writeAlways (file : SupportingFile)
  | writeOptional (file : SupportingFile)
  deriving DecidableEq, Repr, Inhabited

/-- What is done with a model. -/
inductive ModelHook where
  /-- One family of JSON annotations is kept. -/
  | jsonMapping
  /-- Validation annotations are put on, or all taken off. -/
  | beanValidation
  | serializable
  | addImport (name : String)
  deriving DecidableEq, Repr, Inhabited

/-- What is done with a group of operations. -/
inductive OperationHook where
  /-- Validation annotations are put on parameters, or all taken off. -/
  | parameterValidation
  /-- Responses and bodies are brought into the form of JAX-RS. -/
  | jaxrs
  deriving DecidableEq, Repr, Inhabited

/-! ## Backends -/

/-- A template with the end of the names of its files. -/
abbrev TemplateSuffix := String × String

/-- One target. -/
structure Backend where
  name : String
  kind : BackendKind := .other
  help : String := ""
  templateDir : String := ""
  sharedTemplateDirs : List String := []
  outputFolder : String := "generated-code"
  testFolder : String := "src/test/java"
  supportsInheritance : Bool := false
  options : List OptionDecl := []
  registrations : List Registration := []
  templates : List (TemplateKind × List TemplateSuffix) := []
  supportingFiles : List SupportingFile := []
  removedModelImports : List String := []
  optionHooks : List OptionHook := []
  modelHooks : List ModelHook := []
  operationHooks : List OperationHook := []
  deriving Repr, Inhabited

namespace Backend

/-- A declared option. -/
def option? (b : Backend) (name : String) : Option OptionDecl :=
  b.options.find? (·.name == name)

/-- The templates of a kind. -/
def templatesOf (b : Backend) (kind : TemplateKind) : List TemplateSuffix :=
  (b.templates.lookup kind).getD []

/-- The types and imports of a backend. -/
def typeTable (b : Backend) : TypeTable := TypeTable.ofRegistrations b.registrations

/-- The directories in which templates are looked for, the backend's own one first. -/
def templateDirs (b : Backend) : List String :=
  if b.templateDir = "" then b.sharedTemplateDirs else b.templateDir :: b.sharedTemplateDirs

end Backend

/-- What can be wrong with a backend. -/
inductive BackendFault where
  | unknownFields (names : List String)
  | noOption (backend option : String)
  /-- The new default of an option is none of its modes. -/
  | undeclaredMode (mode : Value) (option : String)
  /-- The new default of an option with modes is a composite value. -/
  | compositeMode (kind : String)
  /-- The new default of an option is none of its modes, and has no text. -/
  | text (fault : TextFault)
  | unknownTemplateKind (kind : String)
  | registeredTwice (name : String)
  | unknown (name : String) (available : List String)
  | failedToLoad (name reason : String)
  | noBackend (name : String)
  /-- A backend refuses with words of its own. -/
  | refused (words : String)
  deriving Repr

/-- The message for a fault. -/
def BackendFault.message : BackendFault → Message
  | unknownFields names => ⟨"Unknown backend field(s): " ++ ", ".intercalate names, .absent⟩
  | noOption backend option =>
    ⟨"Backend '" ++ backend ++ "' declares no option '" ++ option ++ "'", .absent⟩
  | undeclaredMode mode option =>
    ⟨"'" ++ mode.asText ++ "' is not a declared choice of option '" ++ option ++ "'", .absent⟩
  | compositeMode kind => ⟨compositeModeText kind, .absent⟩
  | text fault => ⟨fault.words, .absent⟩
  | unknownTemplateKind kind => ⟨"Unknown template kind '" ++ kind ++ "'", .absent⟩
  | registeredTwice name => ⟨"Backend '" ++ name ++ "' is already registered", .absent⟩
  | unknown name available =>
    let listed := ", ".intercalate available
    ⟨"Unknown backend '" ++ name ++ "'. Available backends: "
      ++ if listed = "" then "(none)" else listed, .absent⟩
  | failedToLoad name reason =>
    ⟨"Backend '" ++ name ++ "' failed to load: " ++ reason, .absent⟩
  | noBackend name =>
    ⟨"Backend factory for '" ++ name ++ "' did not return a BackendConfig", .absent⟩
  | refused words => ⟨words, .absent⟩

end ClientGen
