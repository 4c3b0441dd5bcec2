import ClientGen.Backend.Selection
import ClientGen.Client.Grouping
import ClientGen.Client.ModelHooks
import ClientGen.Client.OperationHooks
import ClientGen.Client.Preparation
import ClientGen.Options.Resolution
import ClientGen.Render.Template

/-!
# Generating a client

[generate] takes a description, a backend and raw options to the files of a client. The options are
resolved, the models and the groups of operations are prepared and brought into the form of the
backend, and every template is rendered for what it belongs to. Nothing is written. What a run tells
on its way is said by [generationRecords].
-/

namespace ClientGen

open Client Files

/-! ## Models and groups -/

/-- The names of the schemas of a description. -/
def schemaNames (d : Api.Description) : List String := d.schemas.map (·.name)

/-- The models of a description, in the form of a backend. -/
def modelsOf (d : Api.Description) (b : Backend) (c : Configuration) : List Model :=
  d.schemas.map fun s =>
    finishModel b.modelHooks c.modelFeatures b.removedModelImports
      (prepareModel b.typeTable (schemaNames d) s)

/-- The operations of a description beside what is prepared of them. -/
def preparedOperations (d : Api.Description) (b : Backend) : List (Api.Operation × Operation) :=
  d.operations.map fun o => (o, prepareOperation b.typeTable (schemaNames d) o)

/-- The groups of operations of a description, in the form of a backend. -/
def groupsOf (d : Api.Description) (b : Backend) (c : Configuration) : Grouping :=
  let s := groupAll (preparedOperations d b)
  { s with groups := s.groups.map (finishGroup b.operationHooks c.operationFeatures) }

/-! ## Texts -/

/-- Why the annotations of a model cannot be written, if they cannot. -/
def Client.Model.textFault? (m : Model) : Option TextFault :=
  m.properties.findSome? fun p => p.annotations.findSome? (·.textFault?)

/-- Why the annotations of a group cannot be written, if they cannot. -/
def Client.Group.textFault? (g : Group) : Option TextFault :=
  g.operations.findSome? fun o =>
    o.parameters.findSome? fun p => p.annotations.findSome? (·.textFault?)

/-- Why the defaults of the parameters of an operation cannot be written, if they cannot. -/
def Api.Operation.textFault? (o : Api.Operation) : Option TextFault :=
  o.parameters.findSome? (·.default.textFault?)

/-- The first thing that cannot be written of the models and groups of a description. -/
def preparationFault? (d : Api.Description) (b : Backend) (c : Configuration) : Option TextFault :=
  ((modelsOf d b c).findSome? (·.textFault?)).or
    ((d.operations.findSome? (·.textFault?)).or
      ((groupsOf d b c).groups.findSome? (·.textFault?)))

/-! ## Files -/

/-- What comes of a run. -/
structure Generation where
  backend : String
  files : List GeneratedFile := []
  warnings : List String := []
  configuration : List (String × Value) := []
  deriving Repr, Inhabited

/-- The file of a path. -/
def Generation.file? (r : Generation) (path : String) : Option GeneratedFile :=
  r.files.find? (·.path == path)

/-- Why there are no files. -/
inductive GenerationFault where
  | options (fault : ResolutionFault)
  /-- A default or a bound cannot be written. -/
  | text (fault : TextFault)
  /-- A folder is no text. -/
  | folder (kind : String)
  /-- A package is no text. -/
  | package (kind : String)
  | render (fault : Render.RenderFault)
  deriving Repr

/-- The message for a fault. -/
def GenerationFault.message : GenerationFault → Message
  | options fault => fault.message
  | text fault => ⟨fault.words, .absent⟩
  | folder kind => ⟨"'" ++ kind ++ "' object has no attribute 'strip'", .absent⟩
  | package kind => ⟨"'" ++ kind ++ "' object has no attribute 'replace'", .absent⟩
  | render fault => fault.message

/-- A folder without slashes at its ends. -/
def folderText : Value → Except GenerationFault String
  | .text s => .ok (Text.trimChar '/' s)
  | v => .error (.folder v.kindName)

/-- The folder of a package. -/
def packagePath (package : String) : String := Text.replaceAll "." "/" package

/-- The folder of a package that is a text. -/
def packageFolder : Value → Except GenerationFault String
  | .text s => .ok (packagePath s)
  | v => .error (.package v.kindName)

/-- Where the files of a run go. -/
structure Folders where
  models : String
  interfaces : String
  tests : String
  deriving DecidableEq, Repr

/-- The folders of a setting. -/
def foldersOf (s : Render.Setting) : Except GenerationFault Folders := do
  let source ← folderText s.sourceFolder
  let modelPackage ← packageFolder s.modelPackage
  let apiPackage ← packageFolder s.apiPackage
  let tests := Text.trimChar '/' s.testFolder
  return ⟨source ++ "/" ++ modelPackage, source ++ "/" ++ apiPackage, tests ++ "/" ++ apiPackage⟩

/-- The files for a subject, one for each of some templates. -/
def filesFor (dirs : List String) (s : Render.Setting) (subject : Render.Subject)
    (folder classname : String) (templates : List TemplateSuffix) :
    Except Render.RenderFault (List GeneratedFile) :=
  templates.mapM fun (template, suffix) =>
    (Render.render dirs s subject template).map fun content =>
      { path := folder ++ "/" ++ classname ++ suffix, content := content }

/-- The files of a model. -/
def modelFiles (b : Backend) (s : Render.Setting) (folders : Folders) (subject : Render.Subject)
    (classname : String) : Except Render.RenderFault (List GeneratedFile) := do
  let code ← filesFor b.templateDirs s subject folders.models classname (b.templatesOf .model)
  let pages ← filesFor b.templateDirs s subject "docs" classname (b.templatesOf .modelDoc)
  return code ++ pages

/-- The files of a group. -/
def groupFiles (b : Backend) (s : Render.Setting) (folders : Folders) (subject : Render.Subject)
    (classname : String) : Except Render.RenderFault (List GeneratedFile) := do
  let code ← filesFor b.templateDirs s subject folders.interfaces classname (b.templatesOf .api)
  let tests ← filesFor b.templateDirs s subject folders.tests classname (b.templatesOf .apiTest)
  let pages ← filesFor b.templateDirs s subject "docs" classname (b.templatesOf .apiDoc)
  return code ++ tests ++ pages

/-- The supporting files. -/
def supportingFiles (b : Backend) (s : Render.Setting) (subject : Render.Subject) :
    Except Render.RenderFault (List GeneratedFile) :=
  b.supportingFiles.mapM fun f =>
    (Render.render b.templateDirs s subject f.template).map fun content =>
      { path := f.path, content := content, overwrite := f.overwrite }

/-- All files, in the order in which they are rendered: those of the models, those of the groups,
and the supporting ones. -/
def allFiles (b : Backend) (c : Configuration) (s : Render.Setting) (folders : Folders)
    (models : List Model) (groups : List Group) :
    Except Render.RenderFault (List GeneratedFile) := do
  let classes := models.map (·.classname)
  let forModels ← models.mapM fun m =>
    modelFiles b s folders (Render.modelSubject c s b.typeTable classes m) m.classname
  let forGroups ← groups.mapM fun g =>
    groupFiles b s folders (Render.groupSubject c s b.typeTable classes g) g.classname
  let supporting ← supportingFiles b s (Render.runSubject c groups models)
  return forModels.flatten ++ forGroups.flatten ++ supporting

/-- The run of a backend over a description. -/
def generate (d : Api.Description) (b : Backend) (raw : RawOptions) :
    Except GenerationFault Generation := do
  let c ← (resolve b.options raw).mapError .options
  let b := b.selectFiles
  (checkText (preparationFault? d b c)).mapError .text
  let models := modelsOf d b c
  let grouping := groupsOf d b c
  let s := Render.Setting.of d c b
  let folders ← foldersOf s
  let files ← (allFiles b c s folders models grouping.groups).mapError .render
  return {
    backend := b.name
    files := files
    warnings := c.warnings ++ grouping.warnings
    configuration := c.values }

/-! ## Records -/

/-- What is told while models and groups are prepared, up to the first thing that cannot be written.
Each of them has a table of types made for it. -/
def preparationRecords (d : Api.Description) (b : Backend) (c : Configuration) :
    List Log.Record :=
  let overridden := TypeTable.records {} b.registrations
  let grouping := groupsOf d b c
  let prepared := (preparedOperations d b).takeWhile fun p => p.1.textFault?.isNone
  let finished := grouping.groups.takeWhile fun g => g.textFault?.isNone
  overridden ++
    if ((modelsOf d b c).findSome? (·.textFault?)).isSome then []
    else overridden ++ prepared.map (fun p => preparedRecord p.2) ++
      if (d.operations.findSome? (·.textFault?)).isSome then []
      else grouping.notices.map (·.record) ++ finished.map finishedRecord

/-- What is told when models and groups are prepared. -/
def summaryRecord (b : Backend) (models : List Model) (groups : List Group) : Log.Record :=
  ⟨.info, "clientforge.generator.pipeline",
    "Prepared " ++ toString models.length ++ " model(s) and " ++ toString groups.length ++
      " operation group(s) for backend '" ++ b.name ++ "'"⟩

/-- What is told about imports while files are rendered. -/
def renderingRecords (b : Backend) (models : List Model) (groups : List Group) :
    List Log.Record :=
  let classes := models.map (·.classname)
  models.flatMap (fun m => importRecords b.typeTable classes m.imports.toList) ++
    groups.flatMap fun g => importRecords b.typeTable classes g.imports.toList

/-- What a run tells. -/
def generationRecords (d : Api.Description) (b : Backend) (raw : RawOptions) : List Log.Record :=
  resolveRecords b.options raw ++
    match resolve b.options raw with
    | .error _ => []
    | .ok c =>
      let b := b.selectFiles
      let models := modelsOf d b c
      let groups := (groupsOf d b c).groups
      b.selectionRecord :: TypeTable.records {} b.registrations ++ preparationRecords d b c ++
        if (preparationFault? d b c).isSome then []
        else [summaryRecord b models groups] ++ renderingRecords b models groups

end ClientGen
