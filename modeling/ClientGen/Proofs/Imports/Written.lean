import ClientGen.Proofs.Generation.Paths
import ClientGen.Proofs.Imports.Groups
import ClientGen.Proofs.Imports.Meanings
import ClientGen.Proofs.Imports.Models

/-!
# What the imports of a client mean

The names that a model, an interface or a test writes for a type, a container, an annotation or the
generic response ([JaxrsCxf.ModelPuts], [JaxrsCxf.GroupPuts]) are in its imports; what else is in
them are classes of schemas and what schemas bring along. So for each file the question is whether
the classes are kept apart from these names ([JaxrsCxf.meantImports_modelLines_iff],
[JaxrsCxf.meantImports_interfaceLines_iff], [JaxrsCxf.meantImports_testLines_iff]). Nothing in the
naming of classes sees to that.
-/

namespace ClientGen

open Client Render

namespace JaxrsCxf

/-! ## Names in models -/

/-- The short names that are written in the class of a model for a type, a container or an
annotation, and for that it is serializable. -/
inductive ModelPuts (schemas : List String) (f : ModelFeatures) (s : Api.Schema) :
    String → Prop where
  | type {p : Api.Property} {n : String} : p ∈ s.properties →
      NeedsRegistered backend.typeTable schemas p.type p.container n → ModelPuts schemas f s n
  | json {n : String} : n ∈ (modelOf schemas f s).jsonImports f.jsonMapping →
      ModelPuts schemas f s n
  | annotated {p : Property} {a : Annotation} : p ∈ (modelOf schemas f s).properties →
      a ∈ p.annotations → ModelPuts schemas f s a.name
  | serializable : f.serializable = true → ModelPuts schemas f s "Serializable"

/-- The table has an import for what a type needs. -/
theorem exists_importFor_of_needsRegistered {schemas : List String} {type n : String}
    {container : Option Api.Container}
    (h : NeedsRegistered backend.typeTable schemas type container n) :
    ∃ ref, backend.typeTable.importFor n = some ref := by
  cases h with
  | target _ _ hi => exact Option.isSome_iff_exists.1 hi
  | @container c _ _ hn => exact Option.ne_none_iff_exists'.1 (containerImports_kept c n hn).2

/-- It has one for every annotation. -/
theorem exists_importFor_annotation (a : Annotation) :
    ∃ ref, backend.typeTable.importFor a.name = some ref := by
  have hall : ∀ n ∈ Annotation.names, (backend.typeTable.importFor n).isSome = true := by
    decide +kernel
  exact Option.isSome_iff_exists.1 (hall a.name a.name_mem_names)

section
variable {schemas : List String} {f : ModelFeatures} {s : Api.Schema} {n : String}

theorem ModelPuts.exists_importFor (h : ModelPuts schemas f s n) :
    ∃ ref, backend.typeTable.importFor n = some ref := by
  cases h with
  | type _ hneeds => exact exists_importFor_of_needsRegistered hneeds
  | json hn =>
    rcases Model.mem_jsonImports_iff.1 hn with ⟨_, rfl⟩ | ⟨_, _, rfl | rfl⟩
    · cases f.jsonMapping <;> exact ⟨_, rfl⟩
    · exact ⟨_, rfl⟩
    · exact ⟨_, rfl⟩
  | annotated _ _ => exact exists_importFor_annotation _
  | serializable _ => exact ⟨_, rfl⟩

/-- Such a name is in the imports of the model, unless it is taken out as the class of a schema:
models need no import for each other. -/
theorem ModelPuts.mem_imports (h : ModelPuts schemas f s n) :
    n ∈ (modelOf schemas f s).imports ∨ n ∈ schemas.map Java.modelName := by
  cases h with
  | @type p _ hp hneeds =>
    by_cases hclass : p.type ∈ schemas ∧ n = Java.modelName p.type
    · rw [hclass.2]
      exact .inr (List.mem_map_of_mem hclass.1)
    · have hprepared : n ∈ (prepareModel backend.typeTable schemas s).imports :=
        mem_imports_prepareModel_iff.2 (.inr (.inr ⟨p, hp,
          mem_imports_prepareProperty_iff.2 ⟨needs_iff.2 (.inl hneeds), hclass⟩⟩))
      have hkept : n ∉ switchedImports := by
        cases hneeds with
        | target _ ht _ => exact not_mem_switchedImports_of_lookup ht
        | @container c _ _ hn => exact (containerImports_kept c n hn).1
      exact .inl (mem_imports_of_mem_prepared hprepared hkept)
  | json hn => exact .inl (mem_imports_of_mem_jsonImports hn)
  | annotated hp ha => exact .inl (mem_imports_of_mem_importsFor hp (List.mem_map_of_mem ha))
  | serializable hon => exact .inl (mem_imports_modelOf_iff.2 ⟨.inl ⟨rfl, hon⟩, by decide⟩)

/-- The annotations that a model is prepared with are those of the first family, unless they are
removed or of the other family. -/
theorem mem_jsonImports_of_mem_annotationImports {m : Model} (h : n ∈ annotationImports m)
    (hremoved : n ∉ removedModelImports) (hother : n ∉ f.jsonMapping.otherImports) :
    n ∈ m.jsonImports f.jsonMapping := by
  have hjackson (hn : n ∈ jacksonImports) : f.jsonMapping = .jackson := by
    cases hmapping : f.jsonMapping with
    | jackson => rfl
    | jsonb =>
      rw [hmapping] at hother
      exact absurd hn hother
  rw [annotationImports, List.mem_append, List.mem_append] at h
  rcases h with (h | h) | h
  · split at h
    · rw [List.mem_singleton.1 h] at hremoved
      exact absurd (by decide) hremoved
    · cases h
  · split at h
    · cases h
    · next hproperties =>
      rcases List.mem_pair.1 h with rfl | rfl
      · exact absurd (by decide) hremoved
      · rw [hjackson (by decide)]
        exact Model.mem_jsonImports_iff.2 (.inl ⟨fun h => hproperties (by rw [h]; rfl), rfl⟩)
  · split at h
    · next henums =>
      have hn := List.mem_pair.1 h
      have hmapping : f.jsonMapping = .jackson := by
        rcases hn with rfl | rfl
        · exact hjackson (by decide)
        · exact hjackson (by decide)
      exact Model.mem_jsonImports_iff.2 (.inr ⟨henums, hmapping, hn⟩)
    · cases h

/-- Whatever else is in the imports of a model, its schema brings along. -/
theorem modelPuts_or_mem (h : n ∈ (modelOf schemas f s).imports) :
    ModelPuts schemas f s n ∨ n ∈ s.imports := by
  obtain ⟨hcases, hremoved⟩ := mem_imports_modelOf_iff.1 h
  rcases hcases with ⟨rfl, hon⟩ | ⟨_, ⟨p, hp, hn⟩ | ⟨hjson | ⟨hprepared, hother⟩, _⟩⟩
  · exact .inl (.serializable hon)
  · obtain ⟨a, ha, rfl⟩ := List.mem_map.1 hn
    exact .inl (.annotated hp ha)
  · exact .inl (.json hjson)
  · rcases mem_imports_prepareModel_iff.1 hprepared with hannotation | hbrought | ⟨p, hp, hn⟩
    · refine .inl (.json ?_)
      rw [jsonImports_modelOf]
      exact mem_jsonImports_of_mem_annotationImports hannotation hremoved hother
    · exact .inr hbrought
    · obtain ⟨hneeds, hclass⟩ := mem_imports_prepareProperty_iff.1 hn
      rcases needs_iff.1 hneeds with hneeds | hin
      · exact .inl (.type hp hneeds)
      · exact absurd hin hclass

end

/-! ## Names in groups -/

/-- The short names that are written in the interface of a group and in its test for a type, a
container, an annotation or the generic response. -/
inductive GroupPuts (d : Api.Description) (c : Configuration) (g : Group) : String → Prop where
  | parameter {o : Api.Operation} {p : Api.Parameter} {n : String} : o ∈ d.operations →
      g.name ∈ tagsFor o → p ∈ o.parameters →
      NeedsRegistered backend.typeTable (schemaNames d) p.type p.container n → GroupPuts d c g n
  | response {o : Api.Operation} {r : Api.Response} {type n : String} : o ∈ d.operations →
      g.name ∈ tagsFor o → r ∈ o.responses → r.type = some type →
      NeedsRegistered backend.typeTable (schemaNames d) type r.container n → GroupPuts d c g n
  | annotated {m : Operation} {p : Parameter} {a : Annotation} : m ∈ g.operations →
      p ∈ m.parameters → a ∈ p.annotations → GroupPuts d c g a.name
  | generic : c.genericResponse = true → GroupPuts d c g "Response"

section
variable {d : Api.Description} {c : Configuration} {g : Group} {n : String}

theorem GroupPuts.exists_importFor (h : GroupPuts d c g n) :
    ∃ ref, backend.typeTable.importFor n = some ref := by
  cases h with
  | parameter _ _ _ hneeds => exact exists_importFor_of_needsRegistered hneeds
  | response _ _ _ _ hneeds => exact exists_importFor_of_needsRegistered hneeds
  | annotated _ _ _ => exact exists_importFor_annotation _
  | generic _ => exact ⟨_, rfl⟩

/-- What an operation needs is needed as a name of its files, or as the class of a schema. -/
theorem groupPuts_or_class_of_needs {o : Api.Operation} (ho : o ∈ d.operations)
    (htag : g.name ∈ tagsFor o) (h : OperationNeeds backend.typeTable (schemaNames d) o n) :
    GroupPuts d c g n ∨
      ∃ type ∈ referredTypes o, type ∈ schemaNames d ∧ n = Java.modelName type := by
  rcases h with ⟨p, hp, hneeds⟩ | ⟨r, hr, type, htype, hneeds⟩
  · rcases needs_iff.1 hneeds with hneeds | hclass
    · exact .inl (.parameter ho htag hp hneeds)
    · exact .inr ⟨p.type, List.mem_append_left _ (List.mem_map_of_mem hp), hclass⟩
  · rcases needs_iff.1 hneeds with hneeds | hclass
    · exact .inl (.response ho htag hr htype hneeds)
    · exact .inr ⟨type, List.mem_append_right _ (List.mem_filterMap.2 ⟨r, hr, htype⟩), hclass⟩

/-- Every such name is in the imports of the group. -/
theorem GroupPuts.mem_imports (hg : g ∈ (groupsOf d backend.selectFiles c).groups)
    (h : GroupPuts d c g n) : n ∈ g.imports := by
  have hneeded {o : Api.Operation} (ho : o ∈ d.operations) (htag : g.name ∈ tagsFor o)
      (hneeds : OperationNeeds backend.typeTable (schemaNames d) o n) : n ∈ g.imports := by
    have hin : o ∈ d.operations.filter fun o => g.name ∈ tagsFor o :=
      List.mem_filter.2 ⟨ho, decide_eq_true htag⟩
    obtain ⟨m, hm, hmember⟩ := exists_mem_of_forall₂ (members_of_mem_groups hg).flip hin
    have hfinished : IsFinished d c g.name o m := hmember
    exact (mem_imports_of_mem_groups_iff hg).2
      (.inr ⟨m, hm, hfinished.mem_imports_iff.2 (.inr hneeds)⟩)
  cases h with
  | @parameter o p _ ho htag hp hneeds =>
    exact hneeded ho htag (.inl ⟨p, hp, needs_iff.2 (.inl hneeds)⟩)
  | @response o r type _ ho htag hr htype hneeds =>
    exact hneeded ho htag (.inr ⟨r, hr, type, htype, needs_iff.2 (.inl hneeds)⟩)
  | @annotated m p a hm hp ha =>
    obtain ⟨o, _, hfinished⟩ := exists_mem_of_forall₂ (members_of_mem_groups hg) hm
    exact (mem_imports_of_mem_groups_iff hg).2
      (.inr ⟨m, hm, hfinished.mem_imports_iff.2 (.inl ⟨p, hp, List.mem_map_of_mem ha⟩)⟩)
  | generic hon => exact (mem_imports_of_mem_groups_iff hg).2 (.inl ⟨hon, rfl⟩)

/-- Whatever else is in them is the class of a schema that an operation refers to. -/
theorem groupPuts_or_class (hg : g ∈ (groupsOf d backend.selectFiles c).groups)
    (h : n ∈ g.imports) :
    GroupPuts d c g n ∨ ∃ o ∈ d.operations, g.name ∈ tagsFor o ∧
      ∃ type ∈ referredTypes o, type ∈ schemaNames d ∧ n = Java.modelName type := by
  rcases (mem_imports_of_mem_groups_iff hg).1 h with ⟨hon, rfl⟩ | ⟨m, hm, hn⟩
  · exact .inl (.generic hon)
  · obtain ⟨o, ho, hfinished⟩ := exists_mem_of_forall₂ (members_of_mem_groups hg) hm
    obtain ⟨hin, htag⟩ := List.mem_filter.1 ho
    rcases hfinished.mem_imports_iff.1 hn with ⟨p, hp, hn⟩ | hneeds
    · obtain ⟨a, ha, rfl⟩ := List.mem_map.1 hn
      exact .inl (.annotated hm hp ha)
    · rcases groupPuts_or_class_of_needs hin (of_decide_eq_true htag) hneeds with hput | hclass
      · exact .inl hput
      · exact .inr ⟨o, hin, of_decide_eq_true htag, hclass⟩

end

/-! ## The files of a client -/

section
variable (d : Api.Description) (c : Configuration)

/-- The lines of the class of a schema. -/
def modelLines (x : Api.Schema) : Lines :=
  let m := modelOf (schemaNames d) c.modelFeatures x
  let s := Setting.of d c backend
  modelClass s m (importLines s ((schemaNames d).map Java.modelName) m.imports) c.modelFeatures

/-- The lines of the interface of a group. -/
def interfaceLines (g : Group) : Lines :=
  let s := Setting.of d c backend
  groupInterface s g (importLines s ((schemaNames d).map Java.modelName) g.imports)

/-- The lines of its test. -/
def testLines (g : Group) : Lines :=
  let s := Setting.of d c backend
  groupTest s g (importLines s ((schemaNames d).map Java.modelName) g.imports) c.scaffoldFeatures

/-- The package of the models. -/
def modelPackage : String := (Setting.of d c backend).modelPackage.asText

/-- The files of a client have these lines. -/
theorem contents_filesOf (folders : Folders) :
    (filesOf d c (Setting.of d c backend) folders).map (·.content) =
      d.schemas.map (fun x => textOf (modelLines d c x)) ++
        (groupsOf d backend.selectFiles c).groups.flatMap
          (fun g => [textOf (interfaceLines d c g), textOf (testLines d c g)]) ++
        [(projectFile c (Setting.of d c backend)).content] := by
  rw [filesOf, clientFiles, classnames_modelsOf, modelsOf_eq]
  simp only [List.map_append, List.map_map, List.map_flatMap, List.map_cons, List.map_nil,
    Function.comp_def, modelFile, interfaceFile, testFile, modelLines, interfaceLines, testLines]

/-- No resolved import ends with a star. -/
theorem getLast?_importLines (imports : NameSet) :
    ∀ i ∈ importLines (Setting.of d c backend) ((schemaNames d).map Java.modelName) imports,
      i.toList.getLast? ≠ some '*' := by
  intro i hi
  obtain ⟨n, _, himport⟩ := mem_resolveImports.1 hi
  exact (of_importOf? himport).2.2

/-- The class of a schema imports what the names of its model stand for. -/
theorem importedTypes_modelLines (x : Api.Schema) :
    importedTypes (modelLines d c x) =
      resolveImports backend.typeTable ((schemaNames d).map Java.modelName) (modelPackage d c)
        (modelOf (schemaNames d) c.modelFeatures x).imports.toList :=
  importedTypes_modelClass (getLast?_importLines d c _) _ _

/-- The files of a group import what its names stand for, and what every file of their kind does. -/
theorem importedTypes_interfaceLines (g : Group) :
    importedTypes (interfaceLines d c g) =
      resolveImports backend.typeTable ((schemaNames d).map Java.modelName) (modelPackage d c)
        g.imports.toList ++ interfaceTypes :=
  importedTypes_groupInterface (getLast?_importLines d c _) _

theorem importedTypes_testLines (g : Group) :
    importedTypes (testLines d c g) =
      resolveImports backend.typeTable ((schemaNames d).map Java.modelName) (modelPackage d c)
        g.imports.toList ++ testTypes c.scaffoldFeatures :=
  importedTypes_groupTest (getLast?_importLines d c _) _ _

variable {d c}

/-- The imports of a model mean what they are meant to iff classes are kept apart. -/
theorem meantImports_modelLines_iff (x : Api.Schema) :
    MeantImports (modelLines d c x) (ModelPuts (schemaNames d) c.modelFeatures x) ↔
      KeptApart (schemaNames d) (modelPackage d c)
        (modelOf (schemaNames d) c.modelFeatures x).imports []
        (ModelPuts (schemaNames d) c.modelFeatures x) := by
  refine meantImports_iff (fun ref href => by cases href) ?_ (fun n hn => hn.exists_importFor)
    (fun n hn => hn.mem_imports.imp_right fun hclass => ⟨hclass, rfl⟩)
  rw [List.append_nil]
  exact importedTypes_modelLines d c x

variable {g : Group} (hg : g ∈ (groupsOf d backend.selectFiles c).groups)
include hg

/-- So do those of an interface. -/
theorem meantImports_interfaceLines_iff :
    MeantImports (interfaceLines d c g) (GroupPuts d c g) ↔
      KeptApart (schemaNames d) (modelPackage d c) g.imports interfaceTypes (GroupPuts d c g) :=
  meantImports_iff fixedTypes_interfaceTypes (importedTypes_interfaceLines d c g)
    (fun _ hn => hn.exists_importFor) (fun _ hn => .inl (hn.mem_imports hg))

/-- And those of its test. -/
theorem meantImports_testLines_iff :
    MeantImports (testLines d c g) (GroupPuts d c g) ↔
      KeptApart (schemaNames d) (modelPackage d c) g.imports (testTypes c.scaffoldFeatures)
        (GroupPuts d c g) :=
  meantImports_iff (fixedTypes_testTypes c.scaffoldFeatures) (importedTypes_testLines d c g)
    (fun _ hn => hn.exists_importFor) (fun _ hn => .inl (hn.mem_imports hg))

end

/-! ## What is imported -/

/-- The imports of a client are those of its models and groups. What a model imports it writes, or
its schema brings it along; what a group imports it writes, or it is the class of a schema that one
of its operations refers to. Names that are written are imported as the table says, with no two
types of one simple name in a file, iff the classes are kept apart from them. With keys that are
texts there is a client just if all that a run is asked to write has a text. -/
theorem imports_meant_iff (d : Api.Description) (raw : RawOptions) :
    (TextKeys raw → ((∃ r, generate d backend raw = .ok r) ↔ HasTexts d raw)) ∧
      ∀ r, generate d backend raw = .ok r → ∃ c, resolve backend.options raw = .ok c ∧
        r.files.map (·.content) =
          d.schemas.map (fun x => textOf (modelLines d c x)) ++
            (groupsOf d backend.selectFiles c).groups.flatMap
              (fun g => [textOf (interfaceLines d c g), textOf (testLines d c g)]) ++
            [(projectFile c (Setting.of d c backend)).content] ∧
        (∀ x ∈ d.schemas,
          (∀ n ∈ (modelOf (schemaNames d) c.modelFeatures x).imports,
            ModelPuts (schemaNames d) c.modelFeatures x n ∨ n ∈ x.imports) ∧
          (MeantImports (modelLines d c x) (ModelPuts (schemaNames d) c.modelFeatures x) ↔
            KeptApart (schemaNames d) (modelPackage d c)
              (modelOf (schemaNames d) c.modelFeatures x).imports []
              (ModelPuts (schemaNames d) c.modelFeatures x))) ∧
        ∀ g ∈ (groupsOf d backend.selectFiles c).groups,
          (∀ n ∈ g.imports, GroupPuts d c g n ∨ ∃ o ∈ d.operations, g.name ∈ tagsFor o ∧
            ∃ type ∈ referredTypes o, type ∈ schemaNames d ∧ n = Java.modelName type) ∧
          (MeantImports (interfaceLines d c g) (GroupPuts d c g) ↔
            KeptApart (schemaNames d) (modelPackage d c) g.imports interfaceTypes
              (GroupPuts d c g)) ∧
          (MeantImports (testLines d c g) (GroupPuts d c g) ↔
            KeptApart (schemaNames d) (modelPackage d c) g.imports (testTypes c.scaffoldFeatures)
              (GroupPuts d c g)) := by
  refine ⟨exists_generate_iff d raw, fun r hr => ?_⟩
  obtain ⟨c, folders, hc, _, hfiles⟩ := exists_filesOf hr
  refine ⟨c, hc, ?_, fun x _ => ⟨fun n hn => modelPuts_or_mem hn, ?_⟩,
    fun g hg => ⟨fun n hn => groupPuts_or_class hg hn, ?_, ?_⟩⟩
  · rw [hfiles]
    exact contents_filesOf d c folders
  · exact meantImports_modelLines_iff x
  · exact meantImports_interfaceLines_iff hg
  · exact meantImports_testLines_iff hg

/-- Visits with the days of them. -/
def dayDescription : Api.Description where
  title := "Visits"
  operations := [
    { method := .get
      path := "/visits"
      parameters := [{ name := "day", location := .query, type := "date", required := true }]
      responses := [{ code := "200", type := some "visit", container := some .array }] }]
  schemas := [{ name := "visit", properties := [{ name := "day", type := "date" }] }]

/-- All names that its files write are imported as they are meant. -/
theorem imports_meant_days :
    ∃ r c, generate dayDescription backend [] = .ok r ∧ resolve backend.options [] = .ok c ∧
      (∀ x ∈ dayDescription.schemas,
        ModelPuts (schemaNames dayDescription) c.modelFeatures x "LocalDate" ∧
        MeantImports (modelLines dayDescription c x)
          (ModelPuts (schemaNames dayDescription) c.modelFeatures x)) ∧
      ∀ g ∈ (groupsOf dayDescription backend.selectFiles c).groups,
        MeantImports (interfaceLines dayDescription c g) (GroupPuts dayDescription c g) ∧
        MeantImports (testLines dayDescription c g) (GroupPuts dayDescription c g) := by
  have htable : ∀ x ∈ schemaNames dayDescription,
      backend.typeTable.importFor (Java.modelName x) = none := by
    decide +kernel
  have hnames : ∀ x ∈ schemaNames dayDescription,
      Java.modelName x ∉ fixedNames.map (·.2) := by
    decide +kernel
  obtain ⟨hexists, hall⟩ := imports_meant_iff dayDescription []
  obtain ⟨r, hr⟩ := (hexists fun e he => by cases he).2 (by decide +kernel)
  obtain ⟨c, hc, _, hmodels, hgroups⟩ := hall r hr
  refine ⟨r, c, hr, hc, fun x hx => ⟨?_, (hmodels x hx).2.2 ?_⟩, fun g hg => ⟨?_, ?_⟩⟩
  · obtain rfl := List.mem_singleton.1 hx
    exact .type List.mem_cons_self
      (.target (by decide) (by decide +kernel) (by decide +kernel))
  · exact keptApart_of_unknown (fun ref href => by cases href)
      (fun n hn => hn.exists_importFor) htable hnames
  · exact (hgroups g hg).2.1.2 (keptApart_of_unknown fixedTypes_interfaceTypes
      (fun n hn => hn.exists_importFor) htable hnames)
  · exact (hgroups g hg).2.2.2 (keptApart_of_unknown (fixedTypes_testTypes c.scaffoldFeatures)
      (fun n hn => hn.exists_importFor) htable hnames)

/-- Visits with the days of them, beside schemas that are named like the type of a day and like the
generic response. -/
def shadowDescription : Api.Description where
  title := "Visits"
  operations := [{ method := .get, path := "/visits" }]
  schemas := [
    { name := "LocalDate" },
    { name := "Response" },
    { name := "visit", properties := [{ name := "day", type := "date" }] }]

/-- The names of these types are taken for the classes: in the class of a visit, in the interface,
which returns the generic response, and in its test, which imports both responses. -/
theorem imports_not_meant :
    ∃ r c, generate shadowDescription backend (rawTexts [(genericResponseOption, "true")]) = .ok r ∧
      resolve backend.options (rawTexts [(genericResponseOption, "true")]) = .ok c ∧
      (∃ x ∈ shadowDescription.schemas,
        ModelPuts (schemaNames shadowDescription) c.modelFeatures x "LocalDate" ∧
        backend.typeTable.importFor "LocalDate" = some "org.joda.time.LocalDate" ∧
        "org.joda.time.LocalDate" ∉ importedTypes (modelLines shadowDescription c x)) ∧
      ∃ g ∈ (groupsOf shadowDescription backend.selectFiles c).groups,
        GroupPuts shadowDescription c g "Response" ∧
        backend.typeTable.importFor "Response" = some "javax.ws.rs.core.Response" ∧
        "javax.ws.rs.core.Response" ∉ importedTypes (interfaceLines shadowDescription c g) ∧
        ∃ a ∈ importedTypes (testLines shadowDescription c g),
          ∃ b ∈ importedTypes (testLines shadowDescription c g),
            simpleName a = simpleName b ∧ a ≠ b := by
  have hkeys : TextKeys (rawTexts [(genericResponseOption, "true")]) :=
    fun e he => ⟨_, congrArg Prod.fst (List.mem_singleton.1 he)⟩
  obtain ⟨r, hr⟩ := (exists_generate_iff shadowDescription _ hkeys).2 (by decide +kernel)
  obtain ⟨c, folders, hc, _, _⟩ := exists_filesOf hr
  have hresolved :
      (resolve backend.options (rawTexts [(genericResponseOption, "true")])).toOption.map
        (fun c => (modelPackage shadowDescription c, c.genericResponse)) =
          some ("io.swagger.model", true) := by
    decide +kernel
  rw [hc, Except.toOption, Option.map_some, Option.some_inj, Prod.mk.injEq] at hresolved
  obtain ⟨hpackage, hgeneric⟩ := hresolved
  have hnames : (groupsOf shadowDescription backend.selectFiles c).groups.map (·.classname) =
      ["DefaultApi"] :=
    (classnames_groupsOf shadowDescription c).trans (by decide +kernel)
  obtain ⟨g, hg, _⟩ := List.mem_map.1 (hnames ▸ List.mem_singleton_self _)
  have hdate : simpleName "org.joda.time.LocalDate" = Java.modelName "LocalDate" := by
    decide +kernel
  have hresponse : simpleName "javax.ws.rs.core.Response" = Java.modelName "Response" := by
    decide +kernel
  have hput : GroupPuts shadowDescription c g "Response" := .generic hgeneric
  refine ⟨r, c, hr, hc, ⟨_, .tail _ (.tail _ (.head _)), ?_, rfl, ?_⟩, g, hg, hput, rfl, ?_,
    "io.swagger.model.Response", ?_, "javax.ws.rs.core.Response", ?_, ?_, by decide⟩
  · exact .type List.mem_cons_self
      (.target (by decide) (by decide +kernel) (by decide +kernel))
  · rw [importedTypes_modelLines, hpackage]
    exact not_mem_resolveImports (by decide) hdate (by decide +kernel)
  · rw [importedTypes_interfaceLines, hpackage, List.mem_append, not_or]
    exact ⟨not_mem_resolveImports (by decide) hresponse (by decide +kernel), by decide⟩
  · rw [importedTypes_testLines, hpackage]
    refine List.mem_append_left _ (mem_resolveImports.2 ⟨"Response", hput.mem_imports hg, ?_⟩)
    exact importOf?_of_mem (by decide +kernel) (by decide)
  · rw [importedTypes_testLines]
    refine List.mem_append_right _ ?_
    simp [testTypes]
  · decide +kernel

end JaxrsCxf

end ClientGen
