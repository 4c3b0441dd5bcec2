import ClientGen.Backend.Basic
import ClientGen.Text.Order

/-!
# Making a backend from another one

An [Override] is one change of a backend, and [compose] makes them one after the other. Options are
declared anew or get another default, registrations, supporting files and hooks are put behind those
that are there, and templates and whole fields are replaced.

What is wrong with a change whatever the backend is ([Override.check]) is told before any change is
made; after that, the first change that cannot be made leaves its fault.
-/

namespace ClientGen

/-- New values of fields. -/
structure FieldChanges where
  name : Option String := none
  kind : Option BackendKind := none
  help : Option String := none
  templateDir : Option String := none
  sharedTemplateDirs : Option (List String) := none
  outputFolder : Option String := none
  testFolder : Option String := none
  supportsInheritance : Option Bool := none
  options : Option (List OptionDecl) := none
  registrations : Option (List Registration) := none
  templates : Option (List (TemplateKind × List TemplateSuffix)) := none
  supportingFiles : Option (List SupportingFile) := none
  removedModelImports : Option (List String) := none
  optionHooks : Option (List OptionHook) := none
  modelHooks : Option (List ModelHook) := none
  operationHooks : Option (List OperationHook) := none
  /-- Names of fields that there are not. -/
  unknown : List String := []
  deriving Repr

/-- One change of a backend. -/
inductive Override where
  | configure (changes : FieldChanges)
  | addOption (option : OptionDecl)
  | setOptionDefault (name : String) (default : Value)
  | addTypeMapping (canonical target : String) (importRef : Option String)
  | addImportMapping (name importRef : String)
  | addTemplate (kind template suffix : String)
  | removeTemplate (kind template : String)
  | addSupportingFile (file : SupportingFile)
  | removeModelImports (names : List String)
  | addOptionHook (hook : OptionHook)
  | addModelHook (hook : ModelHook)
  | addOperationHook (hook : OperationHook)
  deriving Repr

namespace Backend

/-- The backend with new values of fields. -/
def configure (b : Backend) (c : FieldChanges) : Backend :=
  { b with
    name := c.name.getD b.name
    kind := c.kind.getD b.kind
    help := c.help.getD b.help
    templateDir := c.templateDir.getD b.templateDir
    sharedTemplateDirs := c.sharedTemplateDirs.getD b.sharedTemplateDirs
    outputFolder := c.outputFolder.getD b.outputFolder
    testFolder := c.testFolder.getD b.testFolder
    supportsInheritance := c.supportsInheritance.getD b.supportsInheritance
    options := c.options.getD b.options
    registrations := c.registrations.getD b.registrations
    templates := c.templates.getD b.templates
    supportingFiles := c.supportingFiles.getD b.supportingFiles
    removedModelImports := c.removedModelImports.getD b.removedModelImports
    optionHooks := c.optionHooks.getD b.optionHooks
    modelHooks := c.modelHooks.getD b.modelHooks
    operationHooks := c.operationHooks.getD b.operationHooks }

/-- The backend with an option, which replaces a declaration of the same name. -/
def addOption (b : Backend) (o : OptionDecl) : Backend :=
  { b with options := b.options.filter (·.name != o.name) ++ [o] }

/-- The backend with another default of an option. -/
def setOptionDefault (b : Backend) (name : String) (default : Value) :
    Except BackendFault Backend :=
  match b.option? name with
  | none => .error (.noOption b.name name)
  | some o =>
    if o.kind = .modes && default.isComposite then .error (.compositeMode default.kindName)
    else if o.kind = .modes && !OptionDecl.declares o.choices default then
      match default.textFault? with
      | some fault => .error (.text fault)
      | none => .error (.undeclaredMode default name)
    else
      let changed := { o with default := default }
      .ok { b with options := b.options.map fun p => if p.name == name then changed else p }

/-- The backend with one more registration. -/
def addRegistration (b : Backend) (r : Registration) : Backend :=
  { b with registrations := b.registrations ++ [r] }

/-- The backend with a template of a kind. -/
def addTemplate (b : Backend) (kind : TemplateKind) (template suffix : String) : Backend :=
  { b with
    templates := Assoc.insert kind (Assoc.insert template suffix (b.templatesOf kind)) b.templates }

/-- The backend without a template of a kind; one that is not there is no fault. -/
def removeTemplate (b : Backend) (kind : TemplateKind) (template : String) : Backend :=
  { b with
    templates := b.templates.map fun (k, files) =>
      if k = kind then (k, Assoc.erase files template) else (k, files) }

/-- The names with further ones behind them, each of which stands there once. -/
def addNames (names more : List String) : List String :=
  more.foldl (fun acc n => if acc.contains n then acc else acc ++ [n]) names

end Backend

/-- What is wrong with a change, whatever backend it is made in. -/
def Override.check : Override → Except BackendFault Unit
  | configure changes =>
    if changes.unknown.isEmpty then .ok ()
    else .error (.unknownFields (Text.sorted changes.unknown))
  | addTemplate kind _ _ =>
    if (TemplateKind.ofName? kind).isSome then .ok () else .error (.unknownTemplateKind kind)
  | _ => .ok ()

/-- The backend that a change leads to. -/
def Override.apply (b : Backend) : Override → Except BackendFault Backend
  | configure changes => .ok (b.configure changes)
  | addOption o => .ok (b.addOption o)
  | setOptionDefault name default => b.setOptionDefault name default
  | addTypeMapping canonical target importRef =>
    .ok (b.addRegistration (.type canonical target importRef))
  | addImportMapping name importRef => .ok (b.addRegistration (.importOf name importRef))
  | addTemplate kind template suffix => .ok (b.addTemplate (.named kind) template suffix)
  | removeTemplate kind template => .ok (b.removeTemplate (.named kind) template)
  | addSupportingFile f => .ok { b with supportingFiles := b.supportingFiles ++ [f] }
  | removeModelImports names =>
    .ok { b with
      removedModelImports := Backend.addNames (Backend.addNames [] b.removedModelImports) names }
  | addOptionHook h => .ok { b with optionHooks := b.optionHooks ++ [h] }
  | addModelHook h => .ok { b with modelHooks := b.modelHooks ++ [h] }
  | addOperationHook h => .ok { b with operationHooks := b.operationHooks ++ [h] }

/-- The backend that changes lead to, one after the other. -/
def compose (base : Backend) (overrides : List Override) : Except BackendFault Backend := do
  overrides.forM Override.check
  overrides.foldlM Override.apply base

end ClientGen
