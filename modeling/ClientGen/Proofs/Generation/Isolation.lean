import ClientGen.Proofs.Generation.Paths

/-!
# What the files of a client depend on

Each kind of file of a client looks at some options only: at the packages, folders and build
coordinates ([settingOptions]), and at the switches of its own part ([modelOptions],
[interfaceOptions], [testOptions], [projectOptions]). So two runs over one description give the same
files of a kind if these options have the same values, whatever the other ones are
([modelFilesOf_congr] and its like). Raw values that are none of a declared option make no
difference to any file.
-/

namespace ClientGen

open Client Files Render

/-- A setting with other values as a whole, which no file of a client looks at. -/
def Render.Setting.withOptions (s : Setting) (values : List (String × Value)) : Setting :=
  { s with options := values }

/-! ## The kinds of files -/

namespace JaxrsCxf

section
variable (d : Api.Description) (r : Generation)

/-- The files of the models come first, one for each schema. -/
def modelFilesOf : List GeneratedFile := r.files.take d.schemas.length

/-- The files between those of the models and the last one. -/
def groupFilesOf : List GeneratedFile := (r.files.drop d.schemas.length).dropLast

/-- The files of the interfaces, which come before those of their tests. -/
def interfaceFilesOf : List GeneratedFile := firsts (groupFilesOf d r)

/-- The files of the tests. -/
def testFilesOf : List GeneratedFile := seconds (groupFilesOf d r)

/-- The build file comes last. -/
def projectFileOf : Option GeneratedFile := r.files.getLast?

end

/-- The classes of the models of a description. -/
def modelClasses (d : Api.Description) : List String := (schemaNames d).map Java.modelName

/-- What a run with a configuration gives, kind by kind. -/
structure HasParts (d : Api.Description) (r : Generation) (c : Configuration) (folders : Folders) :
    Prop where
  configuration : r.configuration = c.values
  files : r.files = filesOf d c (Setting.of d c backend) folders
  located : foldersOf (Setting.of d c backend) = .ok folders
  models : modelFilesOf d r = (modelsOf d backend.selectFiles c).map
    (modelFile c (Setting.of d c backend) folders (modelClasses d))
  interfaces : interfaceFilesOf d r = (groupsOf d backend.selectFiles c).groups.map
    (interfaceFile (Setting.of d c backend) folders (modelClasses d))
  tests : testFilesOf d r = (groupsOf d backend.selectFiles c).groups.map
    (testFile c (Setting.of d c backend) folders (modelClasses d))
  project : projectFileOf r = some (projectFile c (Setting.of d c backend))

/-- Every run has such a configuration. -/
theorem exists_hasParts {d : Api.Description} {raw : RawOptions} {r : Generation}
    (hr : generate d backend raw = .ok r) :
    ∃ c folders, resolve backend.options raw = .ok c ∧ HasParts d r c folders := by
  obtain ⟨c, folders, hc, _, hf, _, rfl⟩ := generate_eq_ok_iff.1 hr
  have hlength (f : Model → GeneratedFile) :
      ((modelsOf d backend.selectFiles c).map f).length = d.schemas.length :=
    (List.length_map _).trans (length_modelsOf d c)
  refine ⟨c, folders, hc, ?_⟩
  rw [clientOf, clientFiles, classnames_modelsOf]
  exact {
    configuration := rfl
    files := by rw [filesOf, clientFiles, classnames_modelsOf]
    located := hf
    models := by
      rw [modelFilesOf, List.append_assoc, List.take_left' (hlength _)]
      rfl
    interfaces := by
      rw [interfaceFilesOf, groupFilesOf, List.append_assoc, List.drop_left' (hlength _),
        List.dropLast_concat, firsts_flatMap]
      rfl
    tests := by
      rw [testFilesOf, groupFilesOf, List.append_assoc, List.drop_left' (hlength _),
        List.dropLast_concat, seconds_flatMap]
      rfl
    project := by rw [projectFileOf, List.getLast?_concat] }

/-! ## What is looked at -/

/-- The names of the declared options. -/
def optionNames : List String := backend.options.map (·.name)

/-- The options for packages, folders and build coordinates. -/
def settingOptions : List String :=
  ["source-folder", "api-package", "model-package", "invoker-package", "group-id", "artifact-id",
    "artifact-version"]

/-- Whether two configurations have the same values for some options. -/
def AgreeAt (names : List String) (values values' : List (String × Value)) : Prop :=
  ∀ name ∈ names, values.lookup name = values'.lookup name

/-- Whether two configurations have the same values for all declared options but some. -/
def AgreeBut (names : List String) (values values' : List (String × Value)) : Prop :=
  ∀ o ∈ backend.options, o.name ∉ names → values.lookup o.name = values'.lookup o.name

variable {raw raw' : RawOptions} {c c' : Configuration} {values values' : List (String × Value)}

/-- What is not excepted is the same. -/
theorem AgreeBut.agreeAt {names used : List String} (h : AgreeBut names values values')
    (hused : ∀ name ∈ used, name ∈ optionNames ∧ name ∉ names) : AgreeAt used values values' := by
  intro name hname
  obtain ⟨hdeclared, hnot⟩ := hused name hname
  obtain ⟨o, ho, rfl⟩ := List.mem_map.1 hdeclared
  exact h o ho hnot

theorem AgreeAt.mono {names used : List String} (h : AgreeAt names values values')
    (hused : used ⊆ names) : AgreeAt used values values' := fun name hname => h name (hused hname)

/-- The switch that values have under a name. -/
def switchOf (values : List (String × Value)) (name : String) : Bool :=
  turnsOn ((values.lookup name).getD (.bool false))

/-- If all keys are texts, then the switches of a configuration are those of its values. -/
structure ReadsValues (c : Configuration) : Prop where
  beanValidation : c.beanValidation = switchOf c.values beanValidationOption
  genericResponse : c.genericResponse = switchOf c.values genericResponseOption
  gzipForTests : c.gzipForTests = switchOf c.values gzipForTestsOption
  loggingForTests : c.loggingForTests = switchOf c.values loggingForTestsOption
  serializableModel : c.serializableModel = switchOf c.values serializableModelOption
  jsonMapping :
    jsonMappingOf ((c.values.lookup jsonMappingOption).getD (.text "jackson")) = .ok c.jsonMapping

/-- The options for features: the switches, and the family of JSON annotations. -/
def featureOptions : List String := switchOptions ++ [jsonMappingOption]

/-- So it is where what the switches read is the same as what is kept. -/
theorem readsValues_of_known {options : List OptionDecl} (hc : resolve options raw = .ok c)
    (hknown : ∀ name ∈ featureOptions, known? options raw name = c.values.lookup name) :
    ReadsValues c := by
  obtain ⟨-, m, hm, rfl⟩ := resolve_eq_ok_iff.1 hc
  have hswitch (name : String) (hname : name ∈ featureOptions) :
      turnsOn ((known? options raw name).getD (.bool false)) =
        switchOf (configurationWith options raw m).values name := by
    rw [hknown name hname, switchOf]
  exact {
    beanValidation := hswitch _ (by decide)
    genericResponse := hswitch _ (by decide)
    gzipForTests := hswitch _ (by decide)
    loggingForTests := hswitch _ (by decide)
    serializableModel := hswitch _ (by decide)
    jsonMapping := by
      rw [← hknown _ (by decide)]
      exact hm }

/-- All of them are declared. -/
theorem featureOptions_subset : featureOptions ⊆ optionNames := by decide +kernel

/-- And so are those that the setting looks at. -/
theorem settingOptions_subset : settingOptions ⊆ optionNames := by decide +kernel

/-- If all keys are texts, then the switches are those of the values. -/
theorem readsValues (h : TextKeys raw) (hc : resolve backend.options raw = .ok c) :
    ReadsValues c := by
  refine readsValues_of_known hc fun name hname => ?_
  obtain ⟨o, ho, rfl⟩ := List.mem_map.1 (featureOptions_subset hname)
  rw [known?_name distinctNames_options ho, lookup_resolve distinctNames_options ho hc,
    byteValue?_eq_none h, Option.getD_none]

/-! ## Equal files -/

section
variable {d : Api.Description} {s : Setting} {folders : Folders}

/-- A switch depends on the value under its name. -/
theorem switchOf_congr {names : List String} (h : AgreeAt names values values') {name : String}
    (hname : name ∈ names) : switchOf values name = switchOf values' name := by
  rw [switchOf, switchOf, h name hname]

/-- So does the family of JSON annotations. -/
theorem jsonMapping_congr {names : List String} (h : AgreeAt names c.values c'.values)
    (hname : jsonMappingOption ∈ names) (hc : ReadsValues c) (hc' : ReadsValues c') :
    c.jsonMapping = c'.jsonMapping := by
  have hmapping := hc.jsonMapping
  rw [h _ hname, hc'.jsonMapping] at hmapping
  exact (Except.ok.inj hmapping).symm

/-- Settings are the same but for the values as a whole if the options agree that they look at. -/
theorem setting_congr (h : AgreeAt settingOptions c.values c'.values) :
    Setting.of d c' backend = (Setting.of d c backend).withOptions c'.values := by
  have hget (name : String) (hname : name ∈ settingOptions) (default : Value) :
      c'.get name default = c.get name default := by
    rw [Configuration.get, Configuration.get, h name hname]
  simp only [Setting.withOptions, Setting.of, hget _ (by decide : "source-folder" ∈ settingOptions),
    hget _ (by decide : "api-package" ∈ settingOptions),
    hget _ (by decide : "model-package" ∈ settingOptions),
    hget _ (by decide : "invoker-package" ∈ settingOptions),
    hget _ (by decide : "group-id" ∈ settingOptions),
    hget _ (by decide : "artifact-id" ∈ settingOptions),
    hget _ (by decide : "artifact-version" ∈ settingOptions)]

/-- No file looks at the values as a whole, but at the switches of its part. -/
theorem modelFile_withOptions (h : c.modelFeatures = c'.modelFeatures) (vs : List (String × Value))
    (classes : List String) :
    modelFile c' (s.withOptions vs) folders classes = modelFile c s folders classes := by
  funext m
  rw [modelFile, modelFile, h]
  rfl

theorem interfaceFile_withOptions (vs : List (String × Value)) (classes : List String) :
    interfaceFile (s.withOptions vs) folders classes = interfaceFile s folders classes := rfl

theorem testFile_withOptions (h : c.scaffoldFeatures = c'.scaffoldFeatures)
    (vs : List (String × Value)) (classes : List String) :
    testFile c' (s.withOptions vs) folders classes = testFile c s folders classes := by
  funext g
  rw [testFile, testFile, h]
  rfl

end

/-- The options that the files of models depend on. -/
def modelOptions : List String :=
  settingOptions ++ [beanValidationOption, jsonMappingOption, serializableModelOption]

/-- The options that interfaces depend on. -/
def interfaceOptions : List String :=
  settingOptions ++ [beanValidationOption, genericResponseOption]

/-- The options that tests depend on. -/
def testOptions : List String :=
  interfaceOptions ++ [jsonMappingOption, gzipForTestsOption, loggingForTestsOption]

/-- The options that the build file depends on. -/
def projectOptions : List String :=
  settingOptions ++ [beanValidationOption, jsonMappingOption, loggingForTestsOption]

section
variable (hc : ReadsValues c) (hc' : ReadsValues c')
include hc hc'

/-- Configurations that agree on the options for models have the same switches for models. -/
theorem modelFeatures_congr (h : AgreeAt modelOptions c.values c'.values) :
    c.modelFeatures = c'.modelFeatures := by
  simp only [Configuration.modelFeatures, hc.beanValidation, hc'.beanValidation,
    hc.serializableModel, hc'.serializableModel, jsonMapping_congr h (by decide) hc hc',
    switchOf_congr h (by decide : beanValidationOption ∈ modelOptions),
    switchOf_congr h (by decide : serializableModelOption ∈ modelOptions)]

/-- Those that agree on the options for tests have the same switches for tests. -/
theorem scaffoldFeatures_congr (h : AgreeAt testOptions c.values c'.values) :
    c.scaffoldFeatures = c'.scaffoldFeatures := by
  simp only [Configuration.scaffoldFeatures, hc.gzipForTests, hc'.gzipForTests,
    hc.loggingForTests, hc'.loggingForTests, jsonMapping_congr h (by decide) hc hc',
    switchOf_congr h (by decide : gzipForTestsOption ∈ testOptions),
    switchOf_congr h (by decide : loggingForTestsOption ∈ testOptions)]

/-- Those that agree on the options for interfaces lead to the same groups. -/
theorem groupsOf_congr (d : Api.Description) (h : AgreeAt interfaceOptions c.values c'.values) :
    groupsOf d backend.selectFiles c = groupsOf d backend.selectFiles c' := by
  have hfeatures : c.operationFeatures = c'.operationFeatures := by
    simp only [Configuration.operationFeatures, hc.beanValidation, hc'.beanValidation,
      hc.genericResponse, hc'.genericResponse,
      switchOf_congr h (by decide : beanValidationOption ∈ interfaceOptions),
      switchOf_congr h (by decide : genericResponseOption ∈ interfaceOptions)]
  rw [groupsOf, groupsOf, hfeatures]

/-- Those that agree on the options for the build file have the same build file. -/
theorem projectFile_withOptions (h : AgreeAt projectOptions c.values c'.values) (s : Setting)
    (vs : List (String × Value)) : projectFile c' (s.withOptions vs) = projectFile c s := by
  have hlogging : c.loggingForTests = c'.loggingForTests := by
    rw [hc.loggingForTests, hc'.loggingForTests, switchOf_congr h (by decide)]
  have hvalidation : c.beanValidation = c'.beanValidation := by
    rw [hc.beanValidation, hc'.beanValidation, switchOf_congr h (by decide)]
  rw [projectFile, projectFile, jsonMapping_congr h (by decide) hc hc', hlogging, hvalidation]
  rfl

end

section
variable {d : Api.Description} {r r' : Generation} {folders folders' : Folders}
  (hr : HasParts d r c folders) (hr' : HasParts d r' c' folders')
  (hc : ReadsValues c) (hc' : ReadsValues c')
include hr hr'

/-- Runs that agree on the setting have one setting, but for the values as a whole, and one set of
folders. -/
theorem located_congr (h : AgreeAt settingOptions c.values c'.values) :
    Setting.of d c' backend = (Setting.of d c backend).withOptions c'.values ∧
      folders' = folders := by
  have hsetting := setting_congr (d := d) h
  have hlocated := hr'.located
  rw [hsetting] at hlocated
  exact ⟨hsetting, Except.ok.inj (hlocated.symm.trans hr.located)⟩

include hc hc'

/-- The files of models are the same in runs that agree on the options for models. -/
theorem modelFilesOf_congr (h : AgreeAt modelOptions c.values c'.values) :
    modelFilesOf d r = modelFilesOf d r' := by
  obtain ⟨hsetting, rfl⟩ := located_congr hr hr' (h.mono (List.subset_append_left _ _))
  have hfeatures := modelFeatures_congr hc hc' h
  rw [hr.models, hr'.models, hsetting, modelFile_withOptions hfeatures, modelsOf_eq, modelsOf_eq,
    hfeatures]

/-- The interfaces are the same in runs that agree on the options for interfaces. -/
theorem interfaceFilesOf_congr (h : AgreeAt interfaceOptions c.values c'.values) :
    interfaceFilesOf d r = interfaceFilesOf d r' := by
  obtain ⟨hsetting, rfl⟩ := located_congr hr hr' (h.mono (List.subset_append_left _ _))
  rw [hr.interfaces, hr'.interfaces, hsetting, interfaceFile_withOptions,
    groupsOf_congr hc hc' d h]

/-- The tests are the same in runs that agree on the options for tests. -/
theorem testFilesOf_congr (h : AgreeAt testOptions c.values c'.values) :
    testFilesOf d r = testFilesOf d r' := by
  have hinterface := h.mono (List.subset_append_left interfaceOptions _)
  obtain ⟨hsetting, rfl⟩ := located_congr hr hr' (hinterface.mono (List.subset_append_left _ _))
  rw [hr.tests, hr'.tests, hsetting, testFile_withOptions (scaffoldFeatures_congr hc hc' h),
    groupsOf_congr hc hc' d hinterface]

/-- The build file is the same in runs that agree on the options for it. -/
theorem projectFileOf_congr (h : AgreeAt projectOptions c.values c'.values) :
    projectFileOf r = projectFileOf r' := by
  obtain ⟨hsetting, rfl⟩ := located_congr hr hr' (h.mono (List.subset_append_left _ _))
  rw [hr.project, hr'.project, hsetting, projectFile_withOptions hc hc' h]

/-- All files are the same in runs that agree on all options. -/
theorem files_congr (h : AgreeAt optionNames c.values c'.values) : r.files = r'.files := by
  have hused {used : List String} (hused : used ⊆ settingOptions ++ featureOptions) :
      AgreeAt used c.values c'.values :=
    h.mono (List.Subset.trans hused
      (List.append_subset.2 ⟨settingOptions_subset, featureOptions_subset⟩))
  obtain ⟨hsetting, rfl⟩ := located_congr hr hr' (hused (List.subset_append_left _ _))
  have hfeatures := modelFeatures_congr hc hc' (hused (by decide))
  have hscaffold := scaffoldFeatures_congr hc hc' (hused (by decide))
  rw [hr.files, hr'.files, filesOf, filesOf, clientFiles, clientFiles, classnames_modelsOf,
    classnames_modelsOf, hsetting, modelFile_withOptions hfeatures, interfaceFile_withOptions,
    testFile_withOptions hscaffold, projectFile_withOptions hc hc' (hused (by decide)),
    modelsOf_eq, modelsOf_eq, hfeatures, groupsOf_congr hc hc' d (hused (by decide))]

end

/-! ## Two runs -/

/-- What is supplied for an option depends on the values under its spellings. -/
theorem supplied?_congr {o : OptionDecl} (ho : o ∈ backend.options)
    (h : ∀ name, isDeclared backend.options name →
      raw.lookup (.text name) = raw'.lookup (.text name)) : o.supplied? raw = o.supplied? raw' := by
  refine findSome?_congr fun name hname => ?_
  have hdeclared : isDeclared backend.options name :=
    List.any_eq_true.2 ⟨o, ho, List.contains_iff_mem.2 hname⟩
  rw [OptionDecl.given?, OptionDecl.given?, h name hdeclared]

/-- Raw values that are the same under all spellings of declared options lead to the same values for
them. -/
theorem agreeAt_of_declared (h : TextKeys raw) (h' : TextKeys raw')
    (hc : resolve backend.options raw = .ok c) (hc' : resolve backend.options raw' = .ok c')
    (hsame : ∀ name, isDeclared backend.options name →
      raw.lookup (.text name) = raw'.lookup (.text name)) :
    AgreeAt optionNames c.values c'.values := by
  intro name hname
  obtain ⟨o, ho, rfl⟩ := List.mem_map.1 hname
  rw [lookup_resolve distinctNames_options ho hc, lookup_resolve distinctNames_options ho hc',
    byteValue?_eq_none h, byteValue?_eq_none h', supplied?_congr ho hsame]

/-- They can be written in the same cases, too. -/
theorem hasTexts_congr (d : Api.Description) (h : TextKeys raw) (h' : TextKeys raw')
    (hsame : ∀ name, isDeclared backend.options name →
      raw.lookup (.text name) = raw'.lookup (.text name)) (htexts : HasTexts d raw) :
    HasTexts d raw' := by
  have hsupplied : suppliedFault? backend.options raw' = none := by
    rw [← htexts.supplied]
    refine findSome?_congr fun o ho => ?_
    rw [OptionDecl.textFault?, OptionDecl.textFault?, supplied?_congr ho hsame]
  refine ⟨hsupplied, fun c' hc' => ?_⟩
  obtain ⟨c, hc⟩ := (exists_resolve_iff_of_textKeys h).2 htexts.supplied
  have hagree := agreeAt_of_declared h h' hc hc' hsame
  have hreads := readsValues h hc
  have hreads' := readsValues h' hc'
  rw [← htexts.prepared c hc, preparationFault?, preparationFault?, modelsOf_eq, modelsOf_eq,
    modelFeatures_congr hreads hreads' (hagree.mono (by decide +kernel)),
    groupsOf_congr hreads hreads' d (hagree.mono (by decide +kernel))]

/-- For every description and all raw values whose keys are texts: in two runs that both come to a
client each kind of file is the same if the values of the declared options are the same but for those
that belong to other kinds of files. Raw values under other names than those of declared options make
no difference to any file, nor to whether there is a client. -/
theorem features_isolated (d : Api.Description) (h : TextKeys raw) (h' : TextKeys raw') :
    ((∃ r, generate d backend raw = .ok r) ↔ HasTexts d raw) ∧
    ((∀ name, isDeclared backend.options name →
        raw.lookup (.text name) = raw'.lookup (.text name)) →
      ((∃ r, generate d backend raw = .ok r) ↔ ∃ r', generate d backend raw' = .ok r')) ∧
    ∀ r r', generate d backend raw = .ok r → generate d backend raw' = .ok r' →
      (AgreeBut [genericResponseOption, gzipForTestsOption, loggingForTestsOption]
          r.configuration r'.configuration → modelFilesOf d r = modelFilesOf d r') ∧
      (AgreeBut [jsonMappingOption, serializableModelOption, gzipForTestsOption,
            loggingForTestsOption]
          r.configuration r'.configuration → interfaceFilesOf d r = interfaceFilesOf d r') ∧
      (AgreeBut [serializableModelOption]
          r.configuration r'.configuration → testFilesOf d r = testFilesOf d r') ∧
      (AgreeBut [genericResponseOption, serializableModelOption, gzipForTestsOption]
          r.configuration r'.configuration → projectFileOf r = projectFileOf r') ∧
      ((∀ name, isDeclared backend.options name →
          raw.lookup (.text name) = raw'.lookup (.text name)) → r.files = r'.files) := by
  refine ⟨exists_generate_iff d raw h, fun hsame => ?_, fun r r' hr hr' => ?_⟩
  · rw [exists_generate_iff d raw h, exists_generate_iff d raw' h']
    exact ⟨hasTexts_congr d h h' hsame,
      hasTexts_congr d h' h fun name hname => (hsame name hname).symm⟩
  obtain ⟨c, folders, hc, hparts⟩ := exists_hasParts hr
  obtain ⟨c', folders', hc', hparts'⟩ := exists_hasParts hr'
  have hreads := readsValues h hc
  have hreads' := readsValues h' hc'
  rw [hparts.configuration, hparts'.configuration]
  refine ⟨fun hagree => ?_, fun hagree => ?_, fun hagree => ?_, fun hagree => ?_, fun hsame => ?_⟩
  · exact modelFilesOf_congr hparts hparts' hreads hreads' (hagree.agreeAt (by decide +kernel))
  · exact interfaceFilesOf_congr hparts hparts' hreads hreads' (hagree.agreeAt (by decide +kernel))
  · exact testFilesOf_congr hparts hparts' hreads hreads' (hagree.agreeAt (by decide +kernel))
  · exact projectFileOf_congr hparts hparts' hreads hreads' (hagree.agreeAt (by decide +kernel))
  · exact files_congr hparts hparts' hreads hreads' (agreeAt_of_declared h h' hc hc' hsame)

/-- A description with a schema and an operation. -/
def isolatedPets : Api.Description where
  title := "Pets"
  operations := [{ method := .get, path := "/pets" }]
  schemas := [{ name := "Pet", properties := [{ name := "id" }] }]

/-- Logged messages in tests leave the models and the interfaces. -/
theorem features_isolated_logging : ∃ r r',
    generate isolatedPets backend [] = .ok r ∧
      generate isolatedPets backend [(.text loggingForTestsOption, .text "true")] = .ok r' ∧
      r.configuration.lookup loggingForTestsOption = some (.bool false) ∧
      r'.configuration.lookup loggingForTestsOption = some (.bool true) ∧
      modelFilesOf isolatedPets r = modelFilesOf isolatedPets r' ∧
      interfaceFilesOf isolatedPets r = interfaceFilesOf isolatedPets r' := by
  have hnone : TextKeys [] := by simp [TextKeys]
  have hkeys : TextKeys [(.text loggingForTestsOption, .text "true")] := by simp [TextKeys]
  obtain ⟨hexists, -, hall⟩ := features_isolated isolatedPets hnone hkeys
  obtain ⟨r, hr⟩ := hexists.2 (by decide +kernel)
  obtain ⟨r', hr'⟩ := (features_isolated isolatedPets hkeys hnone).1.2 (by decide +kernel)
  obtain ⟨hmodels, hinterfaces, -⟩ := hall r r' hr hr'
  have hvalues : r.configuration = (configurationWith backend.options [] .jackson).values := by
    obtain ⟨c, folders, hc, hparts⟩ := exists_hasParts hr
    rw [hparts.configuration, resolve_values hc]
    rfl
  have hvalues' : r'.configuration = (configurationWith backend.options
      [(.text loggingForTestsOption, .text "true")] .jackson).values := by
    obtain ⟨c, folders, hc, hparts⟩ := exists_hasParts hr'
    rw [hparts.configuration, resolve_values hc]
    rfl
  have hagree (names : List String) (hnames : loggingForTestsOption ∈ names) :
      AgreeBut names r.configuration r'.configuration := by
    -- Both configurations are known, so all other options are compared in one go.
    have hall : backend.options.map (fun o =>
          if o.name = loggingForTestsOption then none else r.configuration.lookup o.name) =
        backend.options.map fun o =>
          if o.name = loggingForTestsOption then none else r'.configuration.lookup o.name := by
      rw [hvalues, hvalues']
      rfl
    intro o ho hnot
    have hone := List.map_inj_left.1 hall o ho
    have hne : o.name ≠ loggingForTestsOption := fun heq => hnot (heq ▸ hnames)
    rwa [if_neg hne, if_neg hne] at hone
  refine ⟨r, r', hr, hr', ?_, ?_, hmodels (hagree _ (by decide)),
    hinterfaces (hagree _ (by decide))⟩
  · rw [hvalues]
    rfl
  · rw [hvalues']
    rfl

end JaxrsCxf

end ClientGen
