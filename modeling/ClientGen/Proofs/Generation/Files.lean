import ClientGen.Backend.JaxrsCxf
import ClientGen.Generation
import ClientGen.Proofs.Options.Precedence
import ClientGen.Proofs.Steps

/-!
# The files of a client

A JAX-RS client has one file for each model, two for each group of operations, and its build file
([JaxrsCxf.clientFiles]). Every template that it uses is there and has what it asks for, so once the
options are resolved and the folders are known nothing can go wrong but that something which is to
be written has no text ([JaxrsCxf.generate_eq_ok_iff]). With raw options whose keys are texts nothing
else can go wrong at all ([JaxrsCxf.exists_generate_iff]).
-/

namespace ClientGen

open Client Files Render

namespace JaxrsCxf

/-! ## Templates -/

/-- The choice of supporting files leaves the types. -/
theorem typeTable_selectFiles : backend.selectFiles.typeTable = backend.typeTable := rfl

/-- And it leaves where templates are looked for. -/
theorem templateDirs_selectFiles : backend.selectFiles.templateDirs = backend.templateDirs := rfl

/-- The templates that a client uses, by their names. -/
def usedTemplates : List (String × Template) := [
  ("model.java.j2", .modelClass),
  ("api.java.j2", .groupInterface),
  ("api_test.java.j2", .groupTest),
  ("pom.xml.j2", .mavenProject),
  ("licenseInfo.j2", .apiComment),
  ("_macros.j2", .sharedParts)]

/-- All of them are found. -/
theorem findTemplate?_of_mem_usedTemplates :
    ∀ e ∈ usedTemplates, findTemplate? backend.templateDirs e.1 = some e.2 := by
  decide +kernel

/-- The comment about the API is there for templates that use it. -/
theorem withComment_eq (lines : Except RenderFault Lines) :
    withComment backend.templateDirs lines = lines := by
  rw [withComment, withPart, findTemplate?_of_mem_usedTemplates ("licenseInfo.j2", .apiComment)
    (by decide)]
  rfl

/-- So are the parts that interfaces and tests share. -/
theorem withParts_eq (lines : Except RenderFault Lines) :
    withParts backend.templateDirs lines = lines := by
  rw [withParts, withPart, findTemplate?_of_mem_usedTemplates ("_macros.j2", .sharedParts)
    (by decide)]
  rfl

section
variable (s : Setting)

/-- The class of a model is rendered. -/
theorem render_model (m : Model) (imports : List String) (f : ModelFeatures) :
    render backend.templateDirs s (.model m imports f) "model.java.j2" =
      .ok (textOf (modelClass s m imports f)) := by
  rw [render, findTemplate?_of_mem_usedTemplates ("model.java.j2", .modelClass) (by decide)]
  simp only [Template.lines, withComment_eq]
  rfl

/-- The interface of a group is rendered. -/
theorem render_interface (g : Group) (imports : List String) (f : OperationFeatures)
    (scaffold : ScaffoldFeatures) :
    render backend.templateDirs s (.group g imports f scaffold) "api.java.j2" =
      .ok (textOf (groupInterface s g imports)) := by
  rw [render, findTemplate?_of_mem_usedTemplates ("api.java.j2", .groupInterface) (by decide)]
  simp only [Template.lines, withParts_eq, withComment_eq]
  rfl

/-- The test of a group is rendered. -/
theorem render_test (g : Group) (imports : List String) (f : OperationFeatures)
    (scaffold : ScaffoldFeatures) :
    render backend.templateDirs s (.group g imports f scaffold) "api_test.java.j2" =
      .ok (textOf (groupTest s g imports scaffold)) := by
  rw [render, findTemplate?_of_mem_usedTemplates ("api_test.java.j2", .groupTest) (by decide)]
  simp only [Template.lines, withParts_eq, withComment_eq]
  rfl

/-- Why the build file cannot be written, if it cannot. -/
def projectFault? : Option TextFault :=
  [s.groupId, s.artifactId, s.artifactVersion, s.sourceFolder].findSome? (·.textFault?)

/-- The build file is rendered, if all that it shows has a text. -/
theorem render_project (groups : List Group) (models : List Model) (f : OperationFeatures)
    (scaffold : ScaffoldFeatures) (serializable : Bool) :
    render backend.templateDirs s (.run groups models f scaffold serializable) "pom.xml.j2" = (do
      (checkText (projectFault? s)).mapError .text
      return textOf (mavenProject s scaffold.jsonMapping scaffold.logging f.beanValidation)) := by
  rw [render, findTemplate?_of_mem_usedTemplates ("pom.xml.j2", .mavenProject) (by decide)]
  change (withTexts _ _).map textOf = _
  rw [withTexts, ← projectFault?]
  cases projectFault? s <;> rfl

end

/-! ## Files -/

section
variable (c : Configuration) (s : Setting) (folders : Folders) (classes : List String)

/-- The imports in full of a file of a client, where `classes` are the classes of its models. -/
def importLines (imports : NameSet) : List String :=
  resolveImports backend.typeTable classes s.modelPackage.asText imports.toList

/-- The file of a model. -/
def modelFile (m : Model) : GeneratedFile where
  path := folders.models ++ "/" ++ m.classname ++ ".java"
  content := textOf (modelClass s m (importLines s classes m.imports) c.modelFeatures)

/-- The file of the interface of a group. -/
def interfaceFile (g : Group) : GeneratedFile where
  path := folders.interfaces ++ "/" ++ g.classname ++ ".java"
  content := textOf (groupInterface s g (importLines s classes g.imports))

/-- The file of the test of a group. -/
def testFile (g : Group) : GeneratedFile where
  path := folders.tests ++ "/" ++ g.classname ++ "Test.java"
  content := textOf (groupTest s g (importLines s classes g.imports) c.scaffoldFeatures)

/-- The build file, which is written only if absent. -/
def projectFile : GeneratedFile where
  path := "pom.xml"
  content := textOf (mavenProject s c.jsonMapping c.loggingForTests c.beanValidation)
  overwrite := false

/-- All files of a client. -/
def clientFiles (models : List Model) (groups : List Group) : List GeneratedFile :=
  let classes := models.map (·.classname)
  models.map (modelFile c s folders classes) ++
    groups.flatMap (fun g => [interfaceFile s folders classes g, testFile c s folders classes g]) ++
    [projectFile c s]

/-- The build file comes last, behind files that may all replace what is there. -/
theorem exists_clientFiles_eq (models : List Model) (groups : List Group) :
    ∃ classes, clientFiles c s folders models groups = classes ++ [projectFile c s] ∧
      ∀ f ∈ classes, f.overwrite = true := by
  refine ⟨_, rfl, fun f hf => ?_⟩
  rcases List.mem_append.1 hf with hf | hf
  · obtain ⟨m, _, rfl⟩ := List.mem_map.1 hf
    rfl
  · obtain ⟨g, _, hf⟩ := List.mem_flatMap.1 hf
    simp only [List.mem_cons, List.not_mem_nil, or_false] at hf
    rcases hf with rfl | rfl <;> rfl

/-- The file of a model is rendered, and no page of documentation. -/
theorem modelFiles_eq (m : Model) :
    modelFiles backend.selectFiles s folders (modelSubject c s backend.typeTable classes m)
      m.classname = .ok [modelFile c s folders classes m] := by
  have hcode : backend.selectFiles.templatesOf .model = [("model.java.j2", ".java")] := rfl
  have hpages : backend.selectFiles.templatesOf .modelDoc = [] := rfl
  simp only [modelFiles, hcode, hpages, filesFor, templateDirs_selectFiles, List.mapM_cons,
    List.mapM_nil, modelSubject, render_model]
  rfl

/-- So are the files of a group. -/
theorem groupFiles_eq (g : Group) :
    groupFiles backend.selectFiles s folders (groupSubject c s backend.typeTable classes g)
      g.classname =
        .ok [interfaceFile s folders classes g, testFile c s folders classes g] := by
  have hcode : backend.selectFiles.templatesOf .api = [("api.java.j2", ".java")] := rfl
  have htests : backend.selectFiles.templatesOf .apiTest =
      [("api_test.java.j2", "Test.java")] := rfl
  have hpages : backend.selectFiles.templatesOf .apiDoc = [] := rfl
  simp only [groupFiles, hcode, htests, hpages, filesFor, templateDirs_selectFiles, List.mapM_cons,
    List.mapM_nil, groupSubject, render_interface, render_test]
  rfl

/-- And the build file, which is all that is left of the supporting files, if it can be written. -/
theorem supportingFiles_eq (models : List Model) (groups : List Group) :
    supportingFiles backend.selectFiles s (runSubject c groups models) = (do
      (checkText (projectFault? s)).mapError .text
      return [projectFile c s]) := by
  have hfiles : backend.selectFiles.supportingFiles =
      [{ template := "pom.xml.j2", destination := "pom.xml", overwrite := false }] := rfl
  simp only [supportingFiles, hfiles, templateDirs_selectFiles, List.mapM_cons, List.mapM_nil,
    runSubject, render_project]
  cases projectFault? s <;> rfl

/-- All files are rendered. -/
theorem allFiles_eq (models : List Model) (groups : List Group) :
    allFiles backend.selectFiles c s folders models groups = (do
      (checkText (projectFault? s)).mapError .text
      return clientFiles c s folders models groups) := by
  unfold allFiles
  simp only [typeTable_selectFiles,
    mapM_eq_ok (modelFiles_eq c s folders (models.map (·.classname))),
    mapM_eq_ok (groupFiles_eq c s folders (models.map (·.classname))), supportingFiles_eq]
  cases projectFault? s with
  | some fault => rfl
  | none =>
    change Except.ok _ = Except.ok _
    rw [clientFiles, ← List.flatMap_def, ← List.flatMap_def, ← List.map_eq_flatMap]

end

/-! ## Runs -/

/-- What comes of a run with a configuration and folders. -/
def clientOf (d : Api.Description) (c : Configuration) (folders : Folders) : Generation where
  backend := name
  files := clientFiles c (Setting.of d c backend) folders
    (modelsOf d backend.selectFiles c) (groupsOf d backend.selectFiles c).groups
  warnings := c.warnings ++ (groupsOf d backend.selectFiles c).warnings
  configuration := c.values

/-- A run whose options are resolved and whose folders are known gives the files of a client, if all
that is written has a text. -/
theorem generate_eq (d : Api.Description) (raw : RawOptions) :
    generate d backend raw = (do
      let c ← (resolve backend.options raw).mapError .options
      (checkText (preparationFault? d backend.selectFiles c)).mapError .text
      let folders ← foldersOf (Setting.of d c backend)
      ((checkText (projectFault? (Setting.of d c backend))).mapError .text).mapError .render
      return clientOf d c folders) := by
  have hsetting (c : Configuration) :
      Setting.of d c backend.selectFiles = Setting.of d c backend := rfl
  unfold generate
  simp only [hsetting, allFiles_eq]
  refine bind_congr fun c => bind_congr fun _ => bind_congr fun folders => ?_
  cases projectFault? (Setting.of d c backend) <;> rfl

/-- So it succeeds just if the options are resolved and the folders are known, and all that is
written has a text. -/
theorem generate_eq_ok_iff {d : Api.Description} {raw : RawOptions} {r : Generation} :
    generate d backend raw = .ok r ↔
      ∃ c folders, resolve backend.options raw = .ok c ∧
        preparationFault? d backend.selectFiles c = none ∧
        foldersOf (Setting.of d c backend) = .ok folders ∧
        projectFault? (Setting.of d c backend) = none ∧ r = clientOf d c folders := by
  rw [generate_eq]
  simp only [bind_eq_ok_iff, mapError_eq_ok_iff, checkText_eq_ok_iff]
  constructor
  · rintro ⟨c, hc, _, hprepared, folders, hf, _, hproject, hr⟩
    cases hr
    exact ⟨c, folders, hc, hprepared, hf, hproject, rfl⟩
  · rintro ⟨c, folders, hc, hprepared, hf, hproject, rfl⟩
    exact ⟨c, hc, (), hprepared, folders, hf, (), hproject, rfl⟩

/-- An option that is a text by default has a text, unless a key in bytes spells its name. -/
theorem exists_text_of_resolve {o : OptionDecl} (ho : o ∈ backend.options) (hkind : o.kind = .text)
    {default : String} (hdefault : o.default = .text default) {raw : RawOptions}
    (hbytes : byteValue? raw o.name = none) {c : Configuration}
    (hc : resolve backend.options raw = .ok c) : ∃ t, c.values.lookup o.name = some (.text t) := by
  rw [lookup_resolve distinctNames_options ho hc, hbytes, Option.getD_none, OptionDecl.converted,
    hkind, hdefault]
  cases o.supplied? raw with
  | none => exact ⟨default, rfl⟩
  | some v => exact ⟨v.asText, rfl⟩

/-- The options that the folders and the build file depend on, with their defaults. -/
def textDefaults : List (String × String) :=
  [("source-folder", "src/gen/java"), ("api-package", "io.swagger.api"),
    ("model-package", "io.swagger.model"), ("group-id", "io.swagger"),
    ("artifact-id", "swagger-jaxrs-client"), ("artifact-version", "1.0.0")]

/-- They are options of the backend, and texts by default. -/
theorem exists_of_mem_textDefaults :
    ∀ e ∈ textDefaults, ∃ o ∈ backend.options,
      o.name = e.1 ∧ o.kind = .text ∧ o.default = .text e.2 := by
  have hat (i : Nat) {e : String × String} {o : OptionDecl} (ho : backend.options[i]? = some o)
      (he : o.name = e.1 ∧ o.kind = .text ∧ o.default = .text e.2) :
      ∃ o ∈ backend.options, o.name = e.1 ∧ o.kind = .text ∧ o.default = .text e.2 :=
    ⟨o, List.mem_of_getElem? ho, he⟩
  intro e he
  simp only [textDefaults, List.mem_cons, List.not_mem_nil, or_false] at he
  rcases he with rfl | rfl | rfl | rfl | rfl | rfl
  · exact hat 0 rfl ⟨rfl, rfl, rfl⟩
  · exact hat 1 rfl ⟨rfl, rfl, rfl⟩
  · exact hat 2 rfl ⟨rfl, rfl, rfl⟩
  · exact hat 4 rfl ⟨rfl, rfl, rfl⟩
  · exact hat 5 rfl ⟨rfl, rfl, rfl⟩
  · exact hat 6 rfl ⟨rfl, rfl, rfl⟩

/-- Whether all keys of raw options are texts. -/
def TextKeys (raw : RawOptions) : Prop := ∀ e ∈ raw, ∃ name, e.1 = .text name

/-- Then there is no fault in the keys. -/
theorem keyFaults_eq_nil {raw : RawOptions} (h : TextKeys raw) : keyFaults raw = [] := by
  have hpairs : ∃ read, Document.pairs Document.anything raw = .sound read := by
    induction raw with
    | nil => exact ⟨[], rfl⟩
    | cons e raw ih =>
      obtain ⟨name, hname⟩ := h e List.mem_cons_self
      obtain ⟨read, hread⟩ := ih fun e he => h e (List.mem_cons_of_mem _ he)
      obtain ⟨k, v⟩ := e
      cases hname
      exact ⟨(name, v) :: read, by rw [Document.pairs, hread]; rfl⟩
  obtain ⟨read, hread⟩ := hpairs
  simp [keyFaults, Document.mapping, hread]

/-- And none is in bytes. -/
theorem byteValue?_eq_none {raw : RawOptions} (h : TextKeys raw) (name : String) :
    byteValue? raw name = none := by
  refine List.findSome?_eq_none_iff.2 fun e he => ?_
  obtain ⟨key, hkey⟩ := h e (List.mem_reverse.1 he)
  obtain ⟨k, v⟩ := e
  cases hkey
  rfl

/-- With keys that are texts raw options are resolved just if every option can use its value. -/
theorem exists_resolve_iff_of_textKeys {raw : RawOptions} (h : TextKeys raw) :
    (∃ c, resolve backend.options raw = .ok c) ↔ suppliedFault? backend.options raw = none :=
  exists_resolve_options_iff.trans (and_iff_left (keyFaults_eq_nil h))

/-- Whether all that a run is asked to write has a text: what is supplied for the options, and what
is prepared of a description. -/
structure HasTexts (d : Api.Description) (raw : RawOptions) : Prop where
  supplied : suppliedFault? backend.options raw = none
  prepared : ∀ c, resolve backend.options raw = .ok c →
    preparationFault? d backend.selectFiles c = none

instance (d : Api.Description) (raw : RawOptions) : Decidable (HasTexts d raw) :=
  decidable_of_iff (suppliedFault? backend.options raw = none ∧
      (resolve backend.options raw).toOption.all
        (fun c => (preparationFault? d backend.selectFiles c).isNone) = true) (by
    constructor
    · rintro ⟨hsupplied, hprepared⟩
      refine ⟨hsupplied, fun c hc => ?_⟩
      rw [hc] at hprepared
      exact Option.isNone_iff_eq_none.1 hprepared
    · rintro ⟨hsupplied, hprepared⟩
      refine ⟨hsupplied, ?_⟩
      cases hc : resolve backend.options raw with
      | error fault => rfl
      | ok c => exact Option.isNone_iff_eq_none.2 (hprepared c hc))

/-- With keys that are texts a run comes to a client just if all that it is asked to write has a
text. -/
theorem exists_generate_iff (d : Api.Description) (raw : RawOptions) (h : TextKeys raw) :
    (∃ r, generate d backend raw = .ok r) ↔ HasTexts d raw := by
  constructor
  · rintro ⟨r, hr⟩
    obtain ⟨c, folders, hc, hprepared, -⟩ := generate_eq_ok_iff.1 hr
    refine ⟨(exists_resolve_iff_of_textKeys h).1 ⟨c, hc⟩, fun c' hc' => ?_⟩
    cases hc.symm.trans hc'
    exact hprepared
  · intro htexts
    obtain ⟨c, hc⟩ := (exists_resolve_iff_of_textKeys h).2 htexts.supplied
    have htext : ∀ e ∈ textDefaults, ∀ other, ∃ t, c.get e.1 other = .text t := by
      intro e he other
      obtain ⟨o, ho, hname, hkind, hdefault⟩ := exists_of_mem_textDefaults e he
      obtain ⟨t, ht⟩ := exists_text_of_resolve ho hkind hdefault (byteValue?_eq_none h o.name) hc
      exact ⟨t, by rw [Configuration.get, ← hname, ht, Option.getD_some]⟩
    simp only [textDefaults, List.forall_mem_cons, List.not_mem_nil, false_implies,
      forall_const, and_true] at htext
    obtain ⟨hsource, hapis, hmodels, hgroup, hartifact, hversion⟩ := htext
    obtain ⟨source, hsource⟩ := hsource (.text "src/main/java")
    obtain ⟨apis, hapis⟩ := hapis (.text "")
    obtain ⟨models, hmodels⟩ := hmodels (.text "")
    obtain ⟨group, hgroup⟩ := hgroup (.text "")
    obtain ⟨artifact, hartifact⟩ := hartifact (.text "")
    obtain ⟨version, hversion⟩ := hversion (.text "")
    have hfolders : ∃ folders, foldersOf (Setting.of d c backend) = .ok folders := by
      unfold foldersOf Setting.of
      simp only [hsource, hapis, hmodels]
      exact ⟨_, rfl⟩
    have hproject : projectFault? (Setting.of d c backend) = none := by
      unfold projectFault? Setting.of
      simp only [hsource, hgroup, hartifact, hversion, List.findSome?_cons, List.findSome?_nil,
        Value.textFault?_text]
    obtain ⟨folders, hf⟩ := hfolders
    exact ⟨_, generate_eq_ok_iff.2 ⟨c, folders, hc, htexts.prepared c hc, hf, hproject, rfl⟩⟩

end JaxrsCxf

end ClientGen
