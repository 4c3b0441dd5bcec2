import ClientGen.Backend.JaxrsCxf
import ClientGen.Generation
import ClientGen.Proofs.Imports.Types
import ClientGen.Proofs.Render.Annotations

/-!
# Annotations and imports of models

The imports of a model are collected when it is prepared ([mem_imports_prepareModel_iff]), and every
step after that puts some in and takes some out: one lemma for each step says which names are there
afterwards. From these comes what is imported in the end for a model of a JAX-RS client
([mem_imports_modelOf_iff]), and from that, that its annotations and its imports agree
([JaxrsCxf.importsAgree_modelOf]): what is written is imported, and of what is switched off nothing
is left.
-/

namespace ClientGen

open Client

/-! ## Prepared models -/

namespace Client

section
variable {table : TypeTable} {schemas : List String} {n : String}

/-- A property needs what its type needs, but no import of a model. -/
theorem mem_imports_prepareProperty_iff {p : Api.Property} :
    n ∈ (prepareProperty table schemas p).2 ↔
      Needs table schemas p.type p.container n ∧
        ¬(p.type ∈ schemas ∧ n = Java.modelName p.type) := by
  unfold prepareProperty
  simp only [isModel_resolveType]
  by_cases h : p.type ∈ schemas
  · rw [if_pos h, NameSet.mem_erase, mem_imports_resolveType_iff, baseType_resolveType_of_mem h]
    simp [h]
  · rw [if_neg h, mem_imports_resolveType_iff]
    simp [h]

/-- The properties of a model are those of its schema. -/
theorem properties_prepareModel (s : Api.Schema) :
    (prepareModel table schemas s).properties =
      s.properties.map fun p => (prepareProperty table schemas p).1 := by
  simp [prepareModel, List.map_map, Function.comp_def]

/-- The class of a model is named after its schema. -/
@[simp] theorem classname_prepareModel (s : Api.Schema) :
    (prepareModel table schemas s).classname = Java.modelName s.name := by
  simp only [prepareModel]

/-- A model imports what its annotations need, what its schema brings along, and what its properties
need. -/
theorem mem_imports_prepareModel_iff {s : Api.Schema} :
    n ∈ (prepareModel table schemas s).imports ↔
      n ∈ annotationImports (prepareModel table schemas s) ∨ n ∈ s.imports ∨
        ∃ p ∈ s.properties, n ∈ (prepareProperty table schemas p).2 := by
  unfold prepareModel
  simp only [NameSet.mem_insertAll, NameSet.mem_foldl_union, NameSet.mem_ofList, List.mem_map,
    exists_exists_and_eq_and]
  rfl

/-- The name of an enumeration has no sign of an annotation in it. -/
theorem not_mem_enumName {p : Property} {s : Api.Schema}
    (hp : p ∈ (prepareModel table schemas s).properties) : '@' ∉ (p.enumName.getD "").toList := by
  rw [properties_prepareModel] at hp
  obtain ⟨q, _, rfl⟩ := List.mem_map.1 hp
  change '@' ∉ ((enumNameOf q).getD "").toList
  unfold enumNameOf
  split
  · decide
  · intro h
    rw [Option.getD_some, String.toList_append, List.mem_append] at h
    rcases h with h | h
    · exact absurd (Text.isAlphanum_of_mem_camelize h) (by decide)
    · exact absurd h (by decide)

end

/-! ## The last steps -/

/-- The short names of annotations that validate. -/
theorem Annotation.name_mem_names (a : Annotation) : a.name ∈ Annotation.names := by
  unfold Annotation.name Annotation.names
  cases a <;> simp

theorem mem_names_of_mem_importsFor {annotations : List Annotation} {n : String}
    (h : n ∈ importsFor annotations) : n ∈ Annotation.names := by
  obtain ⟨a, _, rfl⟩ := List.mem_map.1 h
  exact a.name_mem_names

end Client

/-- The short names of the family of JSON annotations that is not kept. -/
def JsonMapping.otherImports : JsonMapping → List String
  | .jackson => jsonbImports
  | .jsonb => jacksonImports

namespace Client.Model

variable {m : Model} {n : String}

/-- One family of JSON annotations is taken out, and of the other what the model needs is put in. -/
theorem mem_imports_withJsonMapping_iff {mapping : JsonMapping} :
    n ∈ (m.withJsonMapping mapping).imports ↔
      n ∈ m.jsonImports mapping ∨ n ∈ m.imports ∧ n ∉ mapping.otherImports := by
  cases mapping <;>
    simp only [withJsonMapping, addImports, removeImports, JsonMapping.otherImports,
      NameSet.mem_insertAll, NameSet.mem_eraseAll]

/-- The annotations for validation are put in, or all of their kind taken out. -/
theorem mem_imports_withValidation_iff {on : Bool} :
    n ∈ (m.withValidation on).imports ↔
      (∃ p ∈ (m.withValidation on).properties, n ∈ importsFor p.annotations) ∨
        n ∈ m.imports ∧ (on = true ∨ n ∉ Annotation.names) := by
  cases on with
  | true => simp [withValidation, addImports, List.mem_flatMap]
  | false => simp [withValidation, removeImports, Property.unvalidated, importsFor]

/-- That a model is serializable is imported iff it is asked for. -/
theorem mem_imports_withSerializable_iff {on : Bool} :
    n ∈ (m.withSerializable on).imports ↔
      n = "Serializable" ∧ on = true ∨ n ≠ "Serializable" ∧ n ∈ m.imports := by
  by_cases hn : n = "Serializable"
  · cases on <;> simp [withSerializable, addImports, removeImports, hn]
  · cases on <;> simp [withSerializable, addImports, removeImports, hn]

@[simp] theorem properties_removeImports (m : Model) (names : List String) :
    (m.removeImports names).properties = m.properties := rfl

@[simp] theorem properties_withJsonMapping (m : Model) (mapping : JsonMapping) :
    (m.withJsonMapping mapping).properties = m.properties := rfl

@[simp] theorem properties_withSerializable (m : Model) (on : Bool) :
    (m.withSerializable on).properties = m.properties := by
  cases on <;> rfl

theorem properties_withValidation (m : Model) (on : Bool) :
    (m.withValidation on).properties =
      m.properties.map fun p => if on then p.validated else p.unvalidated := by
  cases on <;> rfl

@[simp] theorem classname_removeImports (m : Model) (names : List String) :
    (m.removeImports names).classname = m.classname := rfl

@[simp] theorem classname_withJsonMapping (m : Model) (mapping : JsonMapping) :
    (m.withJsonMapping mapping).classname = m.classname := rfl

@[simp] theorem classname_withSerializable (m : Model) (on : Bool) :
    (m.withSerializable on).classname = m.classname := by
  cases on <;> rfl

@[simp] theorem classname_withValidation (m : Model) (on : Bool) :
    (m.withValidation on).classname = m.classname := by
  cases on <;> rfl

/-- Which JSON annotations are needed depends on how many properties there are, and on which of them
have enumerations. -/
theorem jsonImports_of_properties {m' : Model} {g : Property → Property}
    (hg : ∀ p, (g p).isEnum = p.isEnum) (h : m'.properties = m.properties.map g)
    (mapping : JsonMapping) : m'.jsonImports mapping = m.jsonImports mapping := by
  have henums : m'.hasEnums = m.hasEnums := by
    rw [hasEnums, h, List.any_map, hasEnums]
    exact congrArg m.properties.any (funext hg)
  cases mapping <;> simp [jsonImports, henums, h]

/-- The JSON annotations that a model needs: one if it has properties, and two more for enumerations
of the first family. -/
theorem mem_jsonImports_iff {mapping : JsonMapping} :
    n ∈ m.jsonImports mapping ↔
      m.properties ≠ [] ∧ n = Render.jsonNameTag mapping ∨
        m.hasEnums = true ∧ mapping = .jackson ∧ (n = "JsonCreator" ∨ n = "JsonValue") := by
  cases mapping <;> cases hp : m.properties <;> cases he : m.hasEnums <;>
    simp [jsonImports, Render.jsonNameTag, hp, he]

end Client.Model

/-! ## Models of JAX-RS clients -/

namespace JaxrsCxf

/-- The model of a schema, where `schemas` are the names of all schemas. -/
def modelOf (schemas : List String) (f : ModelFeatures) (s : Api.Schema) : Model :=
  finishModel backend.modelHooks f backend.removedModelImports
    (prepareModel backend.typeTable schemas s)

/-- A client has the model of each schema. -/
theorem modelsOf_eq (d : Api.Description) (c : Configuration) :
    modelsOf d backend.selectFiles c =
      d.schemas.map (modelOf (schemaNames d) c.modelFeatures) := rfl

variable {schemas : List String} {f : ModelFeatures} {s : Api.Schema} {n : String}

/-- The steps that make a model. -/
theorem modelOf_eq (schemas : List String) (f : ModelFeatures) (s : Api.Schema) :
    modelOf schemas f s =
      ((((prepareModel backend.typeTable schemas s).withJsonMapping f.jsonMapping).withValidation
        f.beanValidation).withSerializable f.serializable).removeImports removedModelImports := rfl

/-- The hooks leave the properties but for their annotations. -/
theorem properties_modelOf (schemas : List String) (f : ModelFeatures) (s : Api.Schema) :
    (modelOf schemas f s).properties =
      (prepareModel backend.typeTable schemas s).properties.map fun p =>
        if f.beanValidation then p.validated else p.unvalidated := by
  rw [modelOf_eq, Model.properties_removeImports, Model.properties_withSerializable,
    Model.properties_withValidation, Model.properties_withJsonMapping]

/-- They leave the class, which is named after the schema. -/
theorem classname_modelOf (schemas : List String) (f : ModelFeatures) (s : Api.Schema) :
    (modelOf schemas f s).classname = Java.modelName s.name := by
  rw [modelOf_eq, Model.classname_removeImports, Model.classname_withSerializable,
    Model.classname_withValidation, Model.classname_withJsonMapping, classname_prepareModel]

/-- So the JSON annotations that a model needs are known before the hooks. -/
theorem jsonImports_modelOf (schemas : List String) (f : ModelFeatures) (s : Api.Schema)
    (mapping : JsonMapping) :
    (modelOf schemas f s).jsonImports mapping =
      (prepareModel backend.typeTable schemas s).jsonImports mapping := by
  refine Model.jsonImports_of_properties (fun p => ?_) (properties_modelOf schemas f s) mapping
  split <;> rfl

/-- What is imported in the end: that the model is serializable, iff this is asked for, and beside
that what its validation annotations need, what its JSON annotations need, and what was there
before, without the annotations that are switched off. Nothing is there that the backend removes. -/
theorem mem_imports_modelOf_iff :
    n ∈ (modelOf schemas f s).imports ↔
      (n = "Serializable" ∧ f.serializable = true ∨
        n ≠ "Serializable" ∧
          ((∃ p ∈ (modelOf schemas f s).properties, n ∈ importsFor p.annotations) ∨
            (n ∈ (modelOf schemas f s).jsonImports f.jsonMapping ∨
                n ∈ (prepareModel backend.typeTable schemas s).imports ∧
                  n ∉ f.jsonMapping.otherImports) ∧
              (f.beanValidation = true ∨ n ∉ Annotation.names))) ∧
        n ∉ removedModelImports := by
  rw [jsonImports_modelOf, modelOf_eq, Model.properties_removeImports,
    Model.properties_withSerializable, Model.removeImports, NameSet.mem_eraseAll,
    Model.mem_imports_withSerializable_iff, Model.mem_imports_withValidation_iff,
    Model.mem_imports_withJsonMapping_iff]

/-! ### What is switched off -/

/-- The two families of JSON annotations and the annotations for validation are told apart by their
names, and from what makes a model serializable. -/
theorem families_disjoint :
    (∀ mapping : JsonMapping, ∀ n ∈ mapping.otherImports, n ∉ Annotation.names ∧
      n ≠ "Serializable" ∧ n ≠ Render.jsonNameTag mapping) ∧
      ∀ n ∈ Annotation.names, n ≠ "Serializable" ∧ n ∉ removedModelImports := by
  refine ⟨fun mapping => ?_, by decide⟩
  cases mapping <;> decide

/-- The family that is not kept is not imported. -/
theorem not_mem_imports_of_mem_otherImports (hn : n ∈ f.jsonMapping.otherImports) :
    n ∉ (modelOf schemas f s).imports := by
  intro h
  obtain ⟨hnames, hserial, hname⟩ := families_disjoint.1 f.jsonMapping n hn
  rcases (mem_imports_modelOf_iff.1 h).1 with ⟨he, _⟩ | ⟨_, ⟨p, _, hp⟩ | ⟨hjson | ⟨_, hout⟩, _⟩⟩
  · exact hserial he
  · exact hnames (mem_names_of_mem_importsFor hp)
  · rcases Model.mem_jsonImports_iff.1 hjson with ⟨_, he⟩ | ⟨_, hjackson, he⟩
    · exact hname he
    · rw [hjackson] at hn
      rcases he with rfl | rfl
      · exact absurd hn (by decide)
      · exact absurd hn (by decide)
  · exact hout hn

/-- Without validation no property has an annotation for it. -/
theorem annotations_eq_nil (hoff : f.beanValidation = false) {p : Property}
    (hp : p ∈ (modelOf schemas f s).properties) : p.annotations = [] := by
  rw [properties_modelOf, hoff] at hp
  obtain ⟨q, _, rfl⟩ := List.mem_map.1 hp
  rfl

/-- And none is imported. -/
theorem not_mem_imports_of_mem_names (hoff : f.beanValidation = false)
    (hn : n ∈ Annotation.names) : n ∉ (modelOf schemas f s).imports := by
  intro h
  rcases (mem_imports_modelOf_iff.1 h).1 with ⟨he, _⟩ | ⟨_, ⟨p, hp, hpn⟩ | ⟨_, hon | hout⟩⟩
  · exact (families_disjoint.2 n hn).1 he
  · rw [annotations_eq_nil hoff hp] at hpn
    cases hpn
  · rw [hoff] at hon
    cases hon
  · exact hout hn

/-! ### What is written -/

/-- The JSON annotations that a model needs are imported. -/
theorem mem_imports_of_mem_jsonImports
    (h : n ∈ (modelOf schemas f s).jsonImports f.jsonMapping) :
    n ∈ (modelOf schemas f s).imports := by
  have hkept : n ≠ "Serializable" ∧ n ∉ Annotation.names ∧ n ∉ removedModelImports := by
    rcases Model.mem_jsonImports_iff.1 h with ⟨_, rfl⟩ | ⟨_, _, rfl | rfl⟩
    · cases f.jsonMapping <;> decide
    · decide
    · decide
  exact mem_imports_modelOf_iff.2 ⟨.inr ⟨hkept.1, .inr ⟨.inl h, .inr hkept.2.1⟩⟩, hkept.2.2⟩

/-- The annotations of the properties are imported. -/
theorem mem_imports_of_mem_importsFor {p : Property} (hp : p ∈ (modelOf schemas f s).properties)
    (h : n ∈ importsFor p.annotations) : n ∈ (modelOf schemas f s).imports := by
  obtain ⟨hserial, hremoved⟩ := families_disjoint.2 n (mem_names_of_mem_importsFor h)
  exact mem_imports_modelOf_iff.2 ⟨.inr ⟨hserial, .inl ⟨p, hp, h⟩⟩, hremoved⟩

/-- The annotations of the class of a model. -/
theorem annotationsIn_modelClass_modelOf (setting : Render.Setting) (imports : List String) :
    Render.annotationsIn (Render.modelClass setting (modelOf schemas f s) imports f) =
      (modelOf schemas f s).properties.flatMap (Render.fieldAnnotations f.jsonMapping) ++
        ["Override"] := by
  refine Render.annotationsIn_modelClass setting (fun p hp => ?_) imports f
  rw [properties_modelOf] at hp
  obtain ⟨q, hq, rfl⟩ := List.mem_map.1 hp
  have hname : '@' ∉ (q.enumName.getD "").toList := not_mem_enumName hq
  split
  · exact hname
  · exact hname

/-- The annotations of a property are imported, but for the one that every Java class knows. -/
theorem mem_imports_of_mem_fieldAnnotations {p : Property}
    (hp : p ∈ (modelOf schemas f s).properties) (h : n ∈ Render.fieldAnnotations f.jsonMapping p) :
    n = "Override" ∨ n ∈ (modelOf schemas f s).imports := by
  rw [Render.fieldAnnotations, List.mem_append, List.mem_cons] at h
  rcases h with h | h | h
  · split at h
    · next henum =>
      have henums : (modelOf schemas f s).hasEnums = true := List.any_eq_true.2 ⟨p, hp, henum⟩
      cases hmapping : f.jsonMapping with
      | jackson =>
        rw [hmapping] at h
        have hneeded : n = "JsonCreator" ∨ n = "JsonValue" →
            n ∈ (modelOf schemas f s).imports := fun he =>
          mem_imports_of_mem_jsonImports
            (Model.mem_jsonImports_iff.2 (.inr ⟨henums, hmapping, he⟩))
        simp only [Render.enumAnnotations, List.mem_cons, List.not_mem_nil, or_false] at h
        rcases h with h | h | h
        · exact .inr (hneeded (.inr h))
        · exact .inl h
        · exact .inr (hneeded (.inl h))
      | jsonb =>
        rw [hmapping] at h
        exact .inl (List.mem_singleton.1 h)
    · cases h
  · exact .inr (mem_imports_of_mem_jsonImports
      (Model.mem_jsonImports_iff.2 (.inl ⟨List.ne_nil_of_mem hp, h⟩)))
  · exact .inr (mem_imports_of_mem_importsFor hp h)

/-! ### What types need -/

/-- The short names that may be taken out again when a model is finished. -/
def switchedImports : List String :=
  removedModelImports ++ jacksonImports ++ jsonbImports ++ Annotation.names ++ ["Serializable"]

/-- Any other name stays. -/
theorem mem_imports_of_mem_prepared (h : n ∈ (prepareModel backend.typeTable schemas s).imports)
    (hn : n ∉ switchedImports) : n ∈ (modelOf schemas f s).imports := by
  simp only [switchedImports, List.mem_append, not_or, List.mem_singleton] at hn
  obtain ⟨⟨⟨⟨hremoved, hjackson⟩, hjsonb⟩, hnames⟩, hserial⟩ := hn
  have hother : n ∉ f.jsonMapping.otherImports := by
    cases f.jsonMapping
    · exact hjsonb
    · exact hjackson
  exact mem_imports_modelOf_iff.2
    ⟨.inr ⟨hserial, .inr ⟨.inr ⟨h, hother⟩, .inr hnames⟩⟩, hremoved⟩

/-- The targets of registered types are no names that are taken out. -/
theorem not_mem_switchedImports_of_lookup {type target : String}
    (h : backend.typeTable.types.lookup type = some target) : target ∉ switchedImports := by
  have hall : ∀ e ∈ backend.typeTable.types, e.2 ∉ switchedImports := by decide +kernel
  exact hall (type, target) (mem_types_of_lookup h)

/-- Neither are the names that a container needs, all of which have an import. -/
theorem containerImports_kept (c : Api.Container) :
    ∀ n ∈ containerImports c, n ∉ switchedImports ∧ backend.typeTable.importFor n ≠ none := by
  cases c <;> decide +kernel

/-- What holds of the imports and annotations of a model. -/
structure ImportsAgree (schemas : List String) (f : ModelFeatures) (s : Api.Schema) (m : Model) :
    Prop where
  /-- Annotations of documentation and serializers are not imported. -/
  removed : ∀ n ∈ ["ApiModel", "ApiModelProperty", "JsonSerialize", "ToStringSerializer"],
    n ∉ m.imports
  /-- Of the two families of JSON annotations only one is imported. -/
  noJackson : f.jsonMapping = .jsonb → ∀ n ∈ jacksonImports, n ∉ m.imports
  noJsonb : f.jsonMapping = .jackson → ∀ n ∈ jsonbImports, n ∉ m.imports
  /-- Without validation there are no annotations for it. -/
  noValidation : f.beanValidation = false →
    (∀ n ∈ Annotation.names, n ∉ m.imports) ∧ ∀ p ∈ m.properties, p.annotations = []
  serializable : "Serializable" ∈ m.imports ↔ f.serializable = true
  /-- The class has these annotations, whatever else its file is made of. -/
  written (setting : Render.Setting) (imports : List String) :
    Render.annotationsIn (Render.modelClass setting m imports f) =
      m.properties.flatMap (Render.fieldAnnotations f.jsonMapping) ++ ["Override"]
  /-- What is written is imported, but for what every Java class knows. -/
  annotated (setting : Render.Setting) (imports : List String) :
    ∀ n ∈ Render.annotationsIn (Render.modelClass setting m imports f),
      n = "Override" ∨ n ∈ m.imports
  /-- If no class of a schema has the name of something that is imported, then every type and every
  container that has an import is imported. -/
  typed : (∀ x ∈ schemas, backend.typeTable.importFor (Java.modelName x) = none) →
    ∀ p ∈ s.properties,
      (∀ target, p.type ∉ schemas → backend.typeTable.types.lookup p.type = some target →
        (backend.typeTable.importFor target).isSome → target ∈ m.imports) ∧
      ∀ c, p.container = some c → ∀ n ∈ containerImports c, n ∈ m.imports

/-- The annotations of a model and its imports agree, whatever its schema brings along. -/
theorem importsAgree_modelOf (schemas : List String) (f : ModelFeatures) (s : Api.Schema) :
    ImportsAgree schemas f s (modelOf schemas f s) where
  removed n hn h := by
    have hsame : ∀ n ∈ ["ApiModel", "ApiModelProperty", "JsonSerialize", "ToStringSerializer"],
        n ∈ removedModelImports := by decide
    exact (mem_imports_modelOf_iff.1 h).2 (hsame n hn)
  noJackson hjsonb n hn := not_mem_imports_of_mem_otherImports (by rw [hjsonb]; exact hn)
  noJsonb hjackson n hn := not_mem_imports_of_mem_otherImports (by rw [hjackson]; exact hn)
  noValidation hoff :=
    ⟨fun _ hn => not_mem_imports_of_mem_names hoff hn, fun _ hp => annotations_eq_nil hoff hp⟩
  serializable := by
    rw [mem_imports_modelOf_iff]
    simp [removedModelImports]
  written := annotationsIn_modelClass_modelOf
  annotated setting imports n hn := by
    rw [annotationsIn_modelClass_modelOf, List.mem_append, List.mem_flatMap] at hn
    rcases hn with ⟨p, hp, hn⟩ | hn
    · exact mem_imports_of_mem_fieldAnnotations hp hn
    · exact .inl (List.mem_singleton.1 hn)
  typed hclasses p hp := by
    have hprepared (n : String) (hneeds : Needs backend.typeTable schemas p.type p.container n)
        (hclass : p.type ∈ schemas → n ≠ Java.modelName p.type) :
        n ∈ (prepareModel backend.typeTable schemas s).imports :=
      mem_imports_prepareModel_iff.2 (.inr (.inr ⟨p, hp,
        mem_imports_prepareProperty_iff.2 ⟨hneeds, fun h => hclass h.1 h.2⟩⟩))
    refine ⟨fun target hout ht hi => ?_, fun c hc n hn => ?_⟩
    · exact mem_imports_of_mem_prepared (hprepared target (.target hout ht hi) (absurd · hout))
        (not_mem_switchedImports_of_lookup ht)
    · obtain ⟨hkept, himport⟩ := containerImports_kept c n hn
      refine mem_imports_of_mem_prepared (hprepared n (.container hc hn) fun hin he => ?_) hkept
      exact himport (he ▸ hclasses p.type hin)

/-- A schema with a list of dates, an enumeration and a text of limited length. -/
def visitSchema : Api.Schema where
  name := "visit"
  properties := [
    { name := "dates", type := "date", container := some .array },
    { name := "kind", allowed := some ["first", "later"] },
    { name := "pet", type := "pet", container := some .map },
    { name := "note", constraints := { maxLength := some 80 } }]
  imports := ["Size", "ApiModel", "JsonbProperty"]

/-- Beside schemas for visits and pets the dates and the list of them are imported. -/
theorem importsAgree_modelOf_visit :
    (∀ x ∈ ["visit", "pet"], backend.typeTable.importFor (Java.modelName x) = none) ∧
      (modelOf ["visit", "pet"] {} visitSchema).imports.toList =
        ["ArrayList", "HashMap", "JsonCreator", "JsonProperty", "JsonValue", "List", "LocalDate",
          "Map"] ∧
      "LocalDate" ∈ (modelOf ["visit", "pet"] {} visitSchema).imports := by
  have hclasses : ∀ x ∈ ["visit", "pet"],
      backend.typeTable.importFor (Java.modelName x) = none := by decide +kernel
  refine ⟨hclasses, by decide +kernel, ?_⟩
  exact ((importsAgree_modelOf ["visit", "pet"] {} visitSchema).typed hclasses _
    List.mem_cons_self).1 "LocalDate" (by decide) (by decide +kernel) (by decide +kernel)

end JaxrsCxf

end ClientGen
